import Wildflow.Proof.Billing.Operation
import Wildflow.Store.Run

/-!
# The ledger of one operation

The billing calls move user and token by what the billing state says, whatever pollers write in between.
-/

namespace Wildflow.Billing
open Wildflow.Store Table WildFlowOperation

section
variable (operation : WildFlowOperation)

def WildFlowOperation.userDebit : Int :=
  match operation.billingState with
  | .reserved | .settled => operation.billingQuota
  | .unset | .pending | .refunding | .refunded | .managedByTask => 0

def WildFlowOperation.tokenDebit : Int :=
  match operation.billingState with
  | .reserved | .settled => operation.billingTokenQuota
  | .unset | .pending | .refunding | .refunded | .managedByTask => 0

def WildFlowOperation.countedQuota : Int :=
  if operation.billingState = .settled then operation.billingQuota else 0

def WildFlowOperation.countedRequests : Int :=
  if operation.billingState = .settled then 1 else 0

end

structure Shifted (operation : WildFlowOperation) (before after : DB)
    (quota tokenQuota counted requests : Int) : Prop where
  wallet : ∀ user, after.userQuota user = before.userQuota user - if user = operation.userId then quota else 0
  remain : ∀ token, after.tokenRemain token =
    before.tokenRemain token - if token = operation.tokenId ∧ 0 < operation.tokenId then tokenQuota else 0
  spent : ∀ token, after.tokenUsed token =
    before.tokenUsed token + if token = operation.tokenId ∧ 0 < operation.tokenId then tokenQuota else 0
  counted : ∀ user, after.userUsedQuota user =
    before.userUsedQuota user + if user = operation.userId then counted else 0
  requests : ∀ user, after.userRequestCount user =
    before.userRequestCount user + if user = operation.userId then requests else 0

def Accounted (start db : DB) (operation : WildFlowOperation) : Prop :=
  db.operations.find operation.operationId = some operation ∧
    Shifted operation start db operation.userDebit operation.tokenDebit operation.countedQuota
      operation.countedRequests

section
variable {start before after : DB} {operation : WildFlowOperation} {quota tokenQuota counted requests : Int}

theorem Shifted.refl (operation : WildFlowOperation) (db : DB) : Shifted operation db db 0 0 0 0 :=
  ⟨by simp, by simp, by simp, by simp, by simp⟩

theorem Shifted.frame {other : DB} (shifted : Shifted operation before after quota tokenQuota counted requests)
    (users : other.users = after.users) (tokens : other.tokens = after.tokens) :
    Shifted operation before other quota tokenQuota counted requests := by
  obtain ⟨wallet, remain, spent, counted, requests⟩ := shifted
  simp only [DB.userQuota, DB.tokenRemain, DB.tokenUsed, DB.userUsedQuota, DB.userRequestCount, ← users,
    ← tokens] at wallet remain spent counted requests
  exact ⟨wallet, remain, spent, counted, requests⟩

theorem Shifted.trans {more moreToken moreCounted moreRequests : Int}
    (first : Shifted operation start before quota tokenQuota counted requests)
    (second : Shifted operation before after more moreToken moreCounted moreRequests) :
    Shifted operation start after (quota + more) (tokenQuota + moreToken) (counted + moreCounted)
      (requests + moreRequests) := by
  refine ⟨?_, ?_, ?_, ?_, ?_⟩
  · intro user
    rw [second.wallet, first.wallet]
    split <;> omega
  · intro token
    rw [second.remain, first.remain]
    split <;> omega
  · intro token
    rw [second.spent, first.spent]
    split <;> omega
  · intro user
    rw [second.counted, first.counted]
    split <;> omega
  · intro user
    rw [second.requests, first.requests]
    split <;> omega

theorem Shifted.debits {db : DB} (user : db.LiveUser operation.userId)
    (token : 0 < operation.tokenId → db.LiveToken operation.tokenId) (quota tokenQuota : Int) :
    Shifted operation db ((db.debitUser operation.userId quota).debitToken operation.tokenId tokenQuota)
      quota tokenQuota 0 0 := by
  refine ⟨?_, ?_, ?_, ?_, ?_⟩
  · intro other
    exact userQuota_debitUser quota user other
  · intro other
    exact @tokenRemain_debitToken (db.debitUser operation.userId quota) _ tokenQuota token other
  · intro other
    exact @tokenUsed_debitToken (db.debitUser operation.userId quota) _ tokenQuota token other
  · intro other
    rw [ite_self, add_zero]
    exact userUsedQuota_debitUser db operation.userId quota other
  · intro other
    rw [ite_self, add_zero]
    exact userRequestCount_debitUser db operation.userId quota other

theorem Shifted.use {db : DB} (user : db.LiveUser operation.userId) (counted requests : Int) :
    Shifted operation db (addUserUse db operation.userId counted requests) 0 0 counted requests := by
  refine ⟨?_, ?_, ?_, ?_, ?_⟩
  · grind [userQuota_addUserUse]
  · intro other
    rw [ite_self, sub_zero]
    rfl
  · intro other
    rw [ite_self, add_zero]
    rfl
  · intro other
    exact userUsedQuota_addUserUse other user counted requests
  · intro other
    exact userRequestCount_addUserUse other user counted requests

end

inductive OperationStep where
  | reserveWallet (quote : WildFlowBillingQuote)
  | recordUsage (event : WildFlowUsageEvent)
  | updateExecution (jobId state errorCode : String)
  | storeResult (resultJSON : String) (expiresAt : Int)
  | settle
  | refund
  | tick (seconds : Nat)

def applyOperationStep (operationId : String) (db : DB) : OperationStep → DB
  | .reserveWallet quote => (reserveWildFlowWalletBilling db operationId quote).2
  | .recordUsage event => (recordWildFlowUsageEvent db event).2
  | .updateExecution jobId state errorCode =>
    updateWildFlowOperationExecution db operationId jobId state errorCode
  | .storeResult resultJSON expiresAt => (storeWildFlowOperationResult db operationId resultJSON expiresAt).2
  | .settle => (settleWildFlowOperationBilling db operationId).2
  | .refund => (refundWildFlowOperationBilling db operationId).2
  | .tick seconds => { db with now := db.now + seconds }

structure OperationInvariant (start db : DB) (operation : WildFlowOperation) : Prop where
  accounted : Accounted start db operation
  clock : 0 < db.now
  user : db.LiveUser operation.userId
  token : 0 < operation.tokenId → db.LiveToken operation.tokenId
  validated : 0 ≤ operation.resultValidatedTime
  wallet : operation.billingState = .reserved → operation.billingSource = .wallet
  taken : operation.billingState = .reserved → 0 ≤ operation.billingTokenQuota
  direct : operation.billingState ≠ .refunding

structure Later (before after : WildFlowOperation) : Prop where
  operationId : after.operationId = before.operationId
  userId : after.userId = before.userId
  tokenId : after.tokenId = before.tokenId
  settled : before.billingState = .settled → after.billingState = .settled
  refunded : before.billingState = .refunded → after.billingState = .refunded

theorem Later.refl (operation : WildFlowOperation) : Later operation operation :=
  ⟨rfl, rfl, rfl, id, id⟩

theorem Later.trans {first second third : WildFlowOperation} (one : Later first second)
    (two : Later second third) : Later first third :=
  ⟨two.operationId.trans one.operationId, two.userId.trans one.userId, two.tokenId.trans one.tokenId,
    fun settled => two.settled (one.settled settled), fun back => two.refunded (one.refunded back)⟩

section
variable {start db db' : DB} {operation after : WildFlowOperation}

theorem Accounted.move {quota tokenQuota counted requests : Int} (accounted : Accounted start db operation)
    (later : Later operation after) (found : db'.operations.find after.operationId = some after)
    (shifted : Shifted operation db db' quota tokenQuota counted requests)
    (owed : after.userDebit = operation.userDebit + quota ∧ after.tokenDebit = operation.tokenDebit + tokenQuota ∧
      after.countedQuota = operation.countedQuota + counted ∧
      after.countedRequests = operation.countedRequests + requests) : Accounted start db' after := by
  obtain ⟨wallet, remain, spent, counted, requests⟩ := accounted.2.trans shifted
  rw [← later.userId] at wallet counted requests
  rw [← later.tokenId] at remain spent
  refine ⟨found, ?_⟩
  rw [owed.1, owed.2.1, owed.2.2.1, owed.2.2.2]
  exact ⟨wallet, remain, spent, counted, requests⟩

section
variable (inv : OperationInvariant start db operation)
include inv

theorem OperationInvariant.executed
    (executed : Executed db db') : ∃ after, OperationInvariant start db' after ∧ Later operation after := by
  obtain ⟨change, kept, looked⟩ := executed.operations operation.operationId
  obtain ⟨events, ops, frame⟩ := executed.frame
  have kept := kept operation
  have later : Later operation (change operation) :=
    ⟨kept.operationId, kept.userId, kept.tokenId, fun settled => kept.state.trans settled,
      fun back => kept.state.trans back⟩
  have found : db'.operations.find (change operation).operationId = some (change operation) := by
    rw [kept.operationId, looked, inv.accounted.1]
    rfl
  have shifted : Shifted operation db db' 0 0 0 0 :=
    (Shifted.refl operation db).frame (by rw [frame]) (by rw [frame])
  refine ⟨change operation, ⟨inv.accounted.move later found shifted ?_, ?_, ?_, ?_, ?_, ?_, ?_, ?_⟩, later⟩
  · simp [userDebit, tokenDebit, countedQuota, countedRequests, kept.state, kept.quota, kept.tokenQuota]
  · rw [frame]
    exact inv.clock
  · rw [kept.userId, frame]
    exact inv.user
  · rw [kept.tokenId, frame]
    exact inv.token
  · grind [kept.validated, inv.validated, inv.clock.le]
  · rw [kept.state, kept.source]
    exact inv.wallet
  · rw [kept.state, kept.tokenQuota]
    exact inv.taken
  · rw [kept.state]
    exact inv.direct

theorem OperationInvariant.reserveWallet (quote : WildFlowBillingQuote) :
    ∃ after, OperationInvariant start (reserveWildFlowWalletBilling db operation.operationId quote).2 after ∧
      Later operation after := by
  unfold reserveWildFlowWalletBilling
  rcases reserveWildFlowBilling_cases reserveWildFlowWalletTx db operation.operationId quote with
    same | ⟨stored, _, db', found, unreserved, pos, ran, out⟩
  · rw [same]
    exact ⟨operation, inv, Later.refl operation⟩
  · obtain rfl := Option.mem_unique inv.accounted.1 found
    obtain ⟨tokenQuota, part, rfl⟩ := reserveWildFlowWalletTx_ok pos found ran
    rw [out]
    have later : Later operation (wildFlowBillingSnapshotUpdates quote .wallet 0 tokenQuota db.now operation) := by
      refine ⟨rfl, rfl, rfl, ?_, ?_⟩
      · intro settled
        rcases unreserved with st | st <;> rw [settled] at st <;> cases st
      · intro back
        rcases unreserved with st | st <;> rw [back] at st <;> cases st
    have moved := Shifted.debits inv.user inv.token quote.quota tokenQuota
    refine ⟨_, ⟨inv.accounted.move later (find_put_self _ _) (moved.frame rfl rfl) ?_, inv.clock, ?_, ?_,
      inv.validated, fun _ => rfl, ?_, nofun⟩, later⟩
    · rcases unreserved with st | st <;>
        simp [userDebit, tokenDebit, countedQuota, countedRequests, wildFlowBillingSnapshotUpdates, st]
    · exact (debitUser_liveUser _ _ _ _).mpr inv.user
    · intro pos
      exact (debitToken_liveToken _ _ _ _).mpr (inv.token pos)
    · intro _
      show 0 ≤ tokenQuota
      omega

theorem OperationInvariant.frame
    (clock : 0 < db'.now) (users : db'.users = db.users) (tokens : db'.tokens = db.tokens)
    (ops : db'.operations = db.operations) : OperationInvariant start db' operation := by
  refine ⟨⟨?_, inv.accounted.2.frame users tokens⟩, clock, ?_, ?_, inv.validated, inv.wallet, inv.taken,
    inv.direct⟩
  · rw [ops]
    exact inv.accounted.1
  · rw [DB.LiveUser, users]
    exact inv.user
  · rw [DB.LiveToken, tokens]
    exact inv.token

theorem OperationInvariant.settle (eff : SettleEffect db operation.operationId db') :
    ∃ after, OperationInvariant start db' after ∧ Later operation after := by
  cases eff with
  | unchanged => exact ⟨operation, inv, Later.refl operation⟩
  | logged log kept => exact ⟨operation, inv.frame inv.clock rfl rfl rfl, Later.refl operation⟩
  | returned found reserved negative src token tokenLess =>
    rename_i stored _ _
    obtain rfl := Option.mem_unique inv.accounted.1 found
    exact absurd inv.validated (by omega)
  | settled found reserved less tokenLess nonnegative src token log kept =>
    rename_i stored actual eventId _ _
    obtain rfl := Option.mem_unique inv.accounted.1 found
    obtain rfl := (returnWildFlowQuotaTx_wallet (inv.wallet reserved) less).mp src
    obtain ⟨_, rfl⟩ := (returnWildFlowTokenQuotaTx_ok tokenLess).mp token
    have later : Later operation (operation.settledWith actual eventId db.now) := by
      refine ⟨rfl, rfl, rfl, fun _ => rfl, ?_⟩
      intro back
      rw [reserved] at back
      cases back
    have user : ((db.debitUser operation.userId (actual.quota - operation.billingQuota)).debitToken
        operation.tokenId (actual.tokenQuota - operation.billingTokenQuota)).LiveUser operation.userId :=
      (debitUser_liveUser _ _ _ _).mpr inv.user
    have moved := (Shifted.debits inv.user inv.token (actual.quota - operation.billingQuota)
      (actual.tokenQuota - operation.billingTokenQuota)).trans (Shifted.use user actual.quota 1)
    refine ⟨operation.settledWith actual eventId db.now,
      ⟨inv.accounted.move later (find_put_self _ _) (moved.frame rfl rfl) ?_, inv.clock, ?_, ?_, inv.validated, nofun,
        nofun, nofun⟩, later⟩
    · simp [userDebit, tokenDebit, countedQuota, countedRequests, settledWith, reserved]
    · exact addUserUse_liveUser _ actual.quota 1 user
    · intro positive
      exact (debitToken_liveToken _ _ _ _).mpr (inv.token positive)

theorem OperationInvariant.refund (effect : RefundEffect db operation.operationId db') :
    ∃ after, OperationInvariant start db' after ∧ Later operation after := by
  cases effect with
  | unchanged => exact ⟨operation, inv, Later.refl operation⟩
  | logged log kept done => exact ⟨operation, inv.frame inv.clock rfl rfl rfl, Later.refl operation⟩
  | refunded found held source token log kept =>
    rename_i stored _ _
    obtain rfl := Option.mem_unique inv.accounted.1 found
    have reserved : operation.billingState = .reserved := held.resolve_right inv.direct
    obtain rfl := refundWildFlowSourceTx_wallet (inv.wallet reserved) source
    have live : 0 < operation.tokenId →
        (db.debitUser operation.userId (-operation.billingQuota)).LiveToken operation.tokenId := inv.token
    obtain rfl := refundWildFlowTokenQuotaTx_ok (inv.taken reserved) live token
    have later : Later operation (operation.refundedAt db.now) := by
      refine ⟨rfl, rfl, rfl, ?_, fun _ => rfl⟩
      intro settled
      rw [reserved] at settled
      cases settled
    have moved := Shifted.debits inv.user inv.token (-operation.billingQuota) (-operation.billingTokenQuota)
    refine ⟨operation.refundedAt db.now,
      ⟨inv.accounted.move later (find_put_self _ _) (moved.frame rfl rfl) ?_, inv.clock, ?_, ?_, inv.validated, nofun,
        nofun, nofun⟩, later⟩
    · simp [userDebit, tokenDebit, countedQuota, countedRequests, refundedAt, reserved]
    · exact (debitUser_liveUser _ _ _ _).mpr inv.user
    · intro positive
      exact (debitToken_liveToken _ _ _ _).mpr (inv.token positive)

theorem OperationInvariant.step (step : OperationStep) :
    ∃ after, OperationInvariant start (applyOperationStep operation.operationId db step) after ∧
      Later operation after := by
  cases step with
  | reserveWallet quote => exact inv.reserveWallet quote
  | recordUsage ev => exact inv.executed (recordWildFlowUsageEvent_executed db ev)
  | updateExecution jobId st code =>
    exact inv.executed (updateWildFlowOperationExecution_executed db _ jobId st code)
  | storeResult json expiry =>
    exact inv.executed (storeWildFlowOperationResult_executed db _ json expiry)
  | settle => exact inv.settle (settleWildFlowOperationBilling_effect db operation.operationId)
  | refund => exact inv.refund (refundWildFlowOperationBilling_effect db operation.operationId)
  | tick seconds =>
    have clock := inv.clock
    exact ⟨operation, inv.frame (show 0 < db.now + seconds by omega) rfl rfl rfl, Later.refl operation⟩

theorem OperationInvariant.run (steps : List OperationStep) :
    ∃ after, OperationInvariant start (runSteps (applyOperationStep operation.operationId) db steps) after ∧
      Later operation after := by
  induction steps using List.reverseRecOn with
  | nil => exact ⟨operation, inv, Later.refl operation⟩
  | append_singleton steps step ih =>
    obtain ⟨reached, held, later⟩ := ih
    obtain ⟨after, kept, next⟩ := held.step step
    rw [later.operationId] at kept
    rw [runSteps_snoc]
    exact ⟨after, kept, later.trans next⟩

end

theorem operationInvariant_start (found : start.operations.find operation.operationId = some operation)
    (due : operation.billingState = .unset ∨ operation.billingState = .pending)
    (validated : 0 ≤ operation.resultValidatedTime) (clock : 0 < start.now)
    (user : start.LiveUser operation.userId) (token : 0 < operation.tokenId → start.LiveToken operation.tokenId) :
    OperationInvariant start start operation := by
  have nothing : operation.userDebit = 0 ∧ operation.tokenDebit = 0 ∧ operation.countedQuota = 0 ∧
      operation.countedRequests = 0 := by
    rcases due with st | st <;> simp [userDebit, tokenDebit, countedQuota, countedRequests, st]
  have unreserved : operation.billingState ≠ .reserved := by
    intro reserved
    rcases due with st | st <;> rw [reserved] at st <;> cases st
  refine ⟨⟨found, ?_⟩, clock, user, token, validated, fun reserved => absurd reserved unreserved,
    fun reserved => absurd reserved unreserved, ?_⟩
  · rw [nothing.1, nothing.2.1, nothing.2.2.1, nothing.2.2.2]
    exact Shifted.refl operation start
  · intro refunding
    rcases due with st | st <;> rw [refunding] at st <;> cases st

theorem operation_billing_conserved (found : start.operations.find operation.operationId = some operation)
    (pending : operation.billingState = .unset ∨ operation.billingState = .pending)
    (validated : 0 ≤ operation.resultValidatedTime) (clock : 0 < start.now)
    (user : start.LiveUser operation.userId)
    (token : 0 < operation.tokenId → start.LiveToken operation.tokenId) (steps : List OperationStep) :
    ∃ reached, Accounted start (runSteps (applyOperationStep operation.operationId) start steps) reached ∧
      Later operation reached ∧ reached.billingState ≠ .refunding ∧
      ∀ more, ∃ final,
        Accounted start (runSteps (applyOperationStep operation.operationId) start (steps ++ more)) final ∧
        Later reached final := by
  obtain ⟨reached, held, later⟩ := (operationInvariant_start found pending validated clock user token).run steps
  refine ⟨reached, held.accounted, later, held.direct, ?_⟩
  intro more
  obtain ⟨final, kept, next⟩ := held.run more
  rw [later.operationId] at kept
  refine ⟨final, ?_, next⟩
  rw [runSteps_append]
  exact kept.accounted

end

def audioOperation : WildFlowOperation :=
  { operationId := "op-1", userId := 1, tokenId := 1, modelVersionRef := "asr@1", jobId := "",
    state := "submitting", lastErrorCode := "", billingState := .pending, billingSource := .unset,
    billingSubscriptionId := 0, billingQuota := 0, billingTokenQuota := 0, billingCurrency := "",
    billingAmountMicros := 0, billingUnit := "", billingBillableUnits := 0, billingQuotaPerUnit := "",
    billingUSDExchangeRate := "", billingPriceVersion := "", billingUsageEventId := "",
    billingSettledTime := 0, resultJSON := "", resultValidatedTime := 0, resultRetentionSeconds := 0,
    resultExpiresAt := 0, updatedTime := 1000 }

def audioQuote : WildFlowBillingQuote :=
  { currency := "CNY", amountMicros := 200, unit := "audio_millisecond", billableUnits := 1000, quota := 10,
    quotaPerUnit := "500000", usdExchangeRate := "7.3", priceVersion := "v1" }

def audioUsage : WildFlowUsageEvent :=
  { eventId := "event-1", aggregateType := "job", aggregateId := "job-1", eventType := "usage"
    payloadDigest := "0123456789abcdef0123456789abcdef0123456789abcdef0123456789abcdef"
    operationId := "op-1", jobId := "job-1", attemptId := "attempt-1", modelVersionRef := "asr@1"
    channelType := "gpu", kind := "audio_duration", quantity := 450, unit := "millisecond", startedAt := 0
    endedAt := 450, evidenceRef := "", createdTime := 0 }

def audioJob : List OperationStep :=
  [.reserveWallet audioQuote, .reserveWallet audioQuote, .updateExecution "job-1" "succeeded" "",
    .recordUsage audioUsage, .storeResult "transcript" 9000, .settle, .updateExecution "job-1" "failed" "late",
    .refund, .settle]

def DB.withAudioOperation : DB :=
  { DB.single 100 with operations := Table.empty.put audioOperation }

theorem operation_billing_conserved_audioJob :
    (∃ reached, Accounted DB.withAudioOperation
        (runSteps (applyOperationStep "op-1") DB.withAudioOperation audioJob) reached) ∧
      (runSteps (applyOperationStep "op-1") DB.withAudioOperation audioJob).userQuota 1 = 95 := by
  have user : DB.withAudioOperation.LiveUser 1 := ⟨_, rfl, rfl⟩
  have token : DB.withAudioOperation.LiveToken 1 := ⟨_, rfl, rfl⟩
  obtain ⟨reached, accounted, _⟩ := @operation_billing_conserved DB.withAudioOperation audioOperation rfl
    (.inr rfl) (by decide) (by decide) user (fun _ => token) audioJob
  exact ⟨⟨reached, accounted⟩, by decide⟩

end Wildflow.Billing

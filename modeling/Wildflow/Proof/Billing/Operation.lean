import Wildflow.Billing.Operation
import Wildflow.Proof.Billing.Subscription

/-!
# What the operation transactions do
-/

namespace Wildflow.Billing
open Wildflow.Store Tx Table
variable {actual : Int} {u : Unit} {quote : WildFlowBillingQuote} {change : WildFlowOperation → WildFlowOperation}
  {event : WildFlowUsageEvent} {logType : BillingLogType} {content : String} {entry : WildFlowBillingLogEntry}
  {after : WildFlowOperation} {out : WildFlowOperation × Bool} {condition : WildFlowOperation → Bool}

def DB.putOperation (db : DB) (operation : WildFlowOperation) : DB :=
  { db with operations := db.operations.put operation }

section
variable (db : DB) (operation : WildFlowOperation)

@[simp] theorem putOperation_operations :
    (db.putOperation operation).operations = db.operations.put operation := rfl

end

variable {db db' : DB} {operationId : String} {operation : WildFlowOperation}

theorem loadWildFlowOperationForBilling_ok :
    (loadWildFlowOperationForBilling operationId).run db = .ok (operation, db') ↔
      db.operations.find operationId = some operation ∧ db = db' := by
  simp only [loadWildFlowOperationForBilling, run_bind_ok, run_read_ok, run_orFail_ok]
  grind

theorem updateOperation_hit
    (found : db.operations.find operationId = some operation) (holds : condition operation = true) :
    (updateOperation operationId condition change).run db = .ok (1, db.putOperation (change operation)) := by
  simp [updateOperation, updateWhere_hit found holds, DB.putOperation]

theorem updateOperation_miss
    (found : db.operations.find operationId = some operation) (missed : condition operation = false) :
    (updateOperation operationId condition change).run db = .ok (0, db) := by
  have never : ∀ row, db.operations.find operationId = some row → condition row = false := by grind
  simp [updateOperation, updateWhere_miss never]

theorem findUserTx_ok {uid : Int} {user : User} :
    (findUserTx uid).run db = .ok (user, db') ↔
      (db.users.find uid = some user ∧ user.deleted = false) ∧ db = db' := by
  simp only [findUserTx, run_bind_ok, run_read_ok, run_orFail_ok, Option.filter_eq_some_iff, Bool.not_eq_true']
  grind

theorem findTokenOfUserTx_ok {tid uid : Int} {token : Token} :
    (findTokenOfUserTx tid uid).run db = .ok (token, db') ↔
      (db.tokens.find tid = some token ∧ token.deleted = false ∧ token.userId = uid) ∧ db = db' := by
  simp only [findTokenOfUserTx, run_bind_ok, run_read_ok, run_orFail_ok, Option.filter_eq_some_iff, Bool.and_eq_true,
    Bool.not_eq_true', decide_eq_true_eq]
  grind

theorem reserveWildFlowTokenQuotaTx_ok {quota tokenQuota : Int} (pos : 0 < quota)
    (ran : (reserveWildFlowTokenQuotaTx operation quota).run db = .ok (tokenQuota, db')) :
    (tokenQuota = 0 ∨ (tokenQuota = quota ∧ 0 < operation.tokenId)) ∧
      db.debitToken operation.tokenId tokenQuota = db' := by
  unfold reserveWildFlowTokenQuotaTx at ran
  split at ran
  · rename_i without
    obtain ⟨rfl, rfl⟩ := run_pure_ok.mp ran
    exact ⟨.inl rfl, debitToken_skip (.inl without)⟩
  · rename_i with'
    rw [run_bind_ok] at ran
    obtain ⟨token, _, looked, ran⟩ := ran
    obtain ⟨⟨found, _⟩, rfl⟩ := findTokenOfUserTx_ok.mp looked
    split at ran
    · obtain ⟨rfl, rfl⟩ := run_pure_ok.mp ran
      exact ⟨.inl rfl, debitToken_skip (.inr rfl)⟩
    have key : token.id = operation.tokenId := key_of_find found
    obtain ⟨rows, debited⟩ := updateToken_always db (by omega : 0 < operation.tokenId) (by omega : quota ≠ 0)
    simp only [run_bind_ok, run_ensure_ok, key, run_pure_ok] at ran
    obtain ⟨_, _, ⟨_, rfl⟩, _, _, new, rfl, rfl⟩ := ran
    rw [debited] at new
    cases new
    exact ⟨.inr ⟨rfl, by omega⟩, rfl⟩

def DB.HasToken (db : DB) (operation : WildFlowOperation) : Prop :=
  ∃ token, db.tokens.find operation.tokenId = some token ∧ token.deleted = false ∧ token.userId = operation.userId

theorem returnWildFlowTokenQuotaTx_ok (less : actual ≤ operation.billingTokenQuota) :
    (returnWildFlowTokenQuotaTx operation actual).run db = .ok (u, db') ↔
      (operation.billingTokenQuota ≤ actual ∨ operation.tokenId ≤ 0 ∨ db.HasToken operation) ∧
        db.debitToken operation.tokenId (actual - operation.billingTokenQuota) = db' := by
  unfold returnWildFlowTokenQuotaTx
  dsimp only
  split
  · rename_i nothing
    have idle : operation.billingTokenQuota ≤ actual ∨ operation.tokenId ≤ 0 ∨ db.HasToken operation := by omega
    rw [debitToken_skip (by omega)]
    simp [idle]
  · rename_i something
    have owed : ¬operation.billingTokenQuota ≤ actual ∧ ¬operation.tokenId ≤ 0 := by omega
    have amt : -(operation.billingTokenQuota - actual) = actual - operation.billingTokenQuota := by omega
    simp only [owed, false_or, amt]
    rw [run_bind_ok]
    simp only [findTokenOfUserTx_ok]
    constructor
    · rintro ⟨token, _, ⟨left, rfl⟩, ran⟩
      rw [key_of_find left.1] at ran
      exact ⟨⟨token, left⟩, (refundToken_ok (by omega) (by omega)).mp ran⟩
    · rintro ⟨⟨token, left⟩, same⟩
      refine ⟨token, db, ⟨left, rfl⟩, ?_⟩
      rw [key_of_find left.1]
      exact (refundToken_ok (by omega) (by omega)).mpr same

theorem refundWildFlowTokenQuotaTx_frame (ran : (refundWildFlowTokenQuotaTx operation).run db = .ok (u, db')) :
    ∃ tokens, db' = { db with tokens := tokens } := by
  unfold refundWildFlowTokenQuotaTx at ran
  split at ran
  · obtain ⟨_, rfl⟩ := run_pure_ok.mp ran
    exact ⟨db.tokens, rfl⟩
  · simp only [run_bind_ok, run_read_ok, run_write_ok] at ran
    obtain ⟨_, _, ⟨rfl, rfl⟩, rfl⟩ := ran
    exact ⟨_, rfl⟩

theorem refundWildFlowTokenQuotaTx_runs (db : DB) (operation : WildFlowOperation) :
    ∃ db', (refundWildFlowTokenQuotaTx operation).run db = .ok ((), db') := by
  unfold refundWildFlowTokenQuotaTx
  split
  · exact ⟨db, rfl⟩
  · exact ⟨_, rfl⟩

theorem refundWildFlowTokenQuotaTx_ok (taken : 0 ≤ operation.billingTokenQuota)
    (live : 0 < operation.tokenId → db.LiveToken operation.tokenId)
    (ran : (refundWildFlowTokenQuotaTx operation).run db = .ok (u, db')) :
    db.debitToken operation.tokenId (-operation.billingTokenQuota) = db' := by
  unfold refundWildFlowTokenQuotaTx at ran
  split at ran
  · rename_i nothing
    obtain ⟨_, rfl⟩ := run_pure_ok.mp ran
    exact debitToken_skip (by omega)
  · rename_i something
    have kept : ¬(operation.tokenId ≤ 0 ∨ -operation.billingTokenQuota = 0) := by omega
    obtain ⟨token, found, alive⟩ := live (by omega)
    simp only [run_bind_ok, run_read_ok, run_write_ok] at ran
    obtain ⟨_, _, ⟨rfl, rfl⟩, rfl⟩ := ran
    rw [DB.debitToken, if_neg kept, updateWhere_hit found (by simp [alive]), updateWhere_hit found rfl]

section
variable (ran : (ensureWildFlowCanonicalBillingLogTx operation logType content).run db = .ok (entry, db'))
include ran

theorem ensureWildFlowCanonicalBillingLogTx_stores :
    ∃ stored, stored.primaryKey = (operation.operationId, logType) ∧
      db' = { db with billingLog := db.billingLog.put stored } := by
  unfold ensureWildFlowCanonicalBillingLogTx at ran
  split at ran
  · cases ran
  simp only [run_bind_ok, run_read_ok, run_ensure_ok, run_write_ok, run_pure_ok] at ran
  obtain ⟨_, _, ⟨rfl, rfl⟩, _, _, ⟨_, rfl⟩, _, _, rfl, _, rfl⟩ := ran
  refine ⟨_, ?_, rfl⟩
  generalize (if logType = .consume ∧ db.logConsumeEnabled = false then
    BillingProjectionState.notRequired else .pending) = projectionState
  have own : ((db.billingLog.find (operation.operationId, logType)).getD
      (newBillingLogEntry operation logType content projectionState)).primaryKey =
      (operation.operationId, logType) := by
    cases found : db.billingLog.find (operation.operationId, logType) with
    | none => rfl
    | some entry => exact key_of_find found
  split
  · exact own
  · exact own

theorem ensureWildFlowCanonicalBillingLogTx_frame :
    ∃ log, db' = { db with billingLog := log } ∧
      ∀ key, key ≠ (operation.operationId, logType) → log.find key = db.billingLog.find key := by
  obtain ⟨stored, own, rfl⟩ := ensureWildFlowCanonicalBillingLogTx_stores ran
  refine ⟨_, rfl, fun key other => find_put_of_ne _ _ ?_⟩
  exact fun same => other (same.symm.trans own)

end

theorem ensureWildFlowCanonicalBillingLogTx_runs {logType : BillingLogType} (content : String)
    (named : trimSpace operation.operationId ≠ "")
    (missing : db.billingLog.find (operation.operationId, logType) = none) :
    ∃ outcome, (ensureWildFlowCanonicalBillingLogTx operation logType content).run db = .ok outcome := by
  rw [ensureWildFlowCanonicalBillingLogTx, if_neg named, run_bind_of_ok (run_read db), missing]
  have own : ∀ projectionState, billingLogEntryMatches
      (newBillingLogEntry operation logType content projectionState) operation content = true := by
    simp [billingLogEntryMatches, newBillingLogEntry]
  dsimp only [Option.getD_none]
  rw [run_bind_of_ok (run_ensure_of db (own _))]
  exact ⟨_, rfl⟩

theorem snapshotWildFlowBillingTx_ok {src : WildFlowBillingSource} {subId tokenQuota : Int}
    (found : db.operations.find operationId = some operation)
    (ran : (snapshotWildFlowBillingTx operationId quote src subId tokenQuota).run db = .ok (after, db')) :
    db.putOperation (wildFlowBillingSnapshotUpdates quote src subId tokenQuota db.now operation) = db' := by
  rw [snapshotWildFlowBillingTx, run_bind_of_ok (run_read db),
    run_bind_of_ok (updateOperation_hit found rfl)] at ran
  exact (loadWildFlowOperationForBilling_ok.mp ran).2

theorem WildFlowBillingQuote.positive_of_valid (valid : quote.validate = .ok u) : 0 < quote.quota := by
  unfold WildFlowBillingQuote.validate at valid
  split at valid
  · cases valid
  · grind

theorem ensureWildFlowBillingCanReserve_fresh (allowed : ensureWildFlowBillingCanReserve operation quote = .ok true) :
    operation.billingState = .unset ∨ operation.billingState = .pending := by
  grind [ensureWildFlowBillingCanReserve]

theorem reserveWildFlowBilling_cases
    (reserve : WildFlowOperation → WildFlowBillingQuote → BillingTx WildFlowOperation) (db : DB)
    (operationId : String) (quote : WildFlowBillingQuote) :
    (reserveWildFlowBilling reserve db operationId quote).2 = db ∨
    ∃ operation after db', db.operations.find operationId = some operation ∧
      (operation.billingState = .unset ∨ operation.billingState = .pending) ∧ 0 < quote.quota ∧
      (reserve operation quote).run db = .ok (after, db') ∧
      (reserveWildFlowBilling reserve db operationId quote).2 = db' := by
  unfold reserveWildFlowBilling
  cases valid : quote.validate with
  | error err => exact .inl rfl
  | ok u =>
    refine commit_elim (commit _ db) rfl (fun _ => .inl rfl) fun after db' ran => ?_
    rw [run_bind_ok] at ran
    obtain ⟨operation, _, loaded, ran⟩ := ran
    obtain ⟨found, rfl⟩ := loadWildFlowOperationForBilling_ok.mp loaded
    cases allowed : ensureWildFlowBillingCanReserve operation quote with
    | error err =>
      rw [allowed] at ran
      cases ran
    | ok fresh =>
      rw [allowed] at ran
      cases fresh with
      | false =>
        obtain ⟨_, rfl⟩ := run_pure_ok.mp ran
        exact .inl rfl
      | true =>
        exact .inr ⟨operation, after, db', found, ensureWildFlowBillingCanReserve_fresh allowed,
          quote.positive_of_valid valid, ran, rfl⟩

theorem reserveWildFlowWalletTx_ok
    (pos : 0 < quote.quota) (found : db.operations.find operation.operationId = some operation)
    (ran : (reserveWildFlowWalletTx operation quote).run db = .ok (after, db')) :
    ∃ tokenQuota, (tokenQuota = 0 ∨ (tokenQuota = quote.quota ∧ 0 < operation.tokenId)) ∧
      ((db.debitToken operation.tokenId tokenQuota).debitUser operation.userId quote.quota).putOperation
        (wildFlowBillingSnapshotUpdates quote .wallet 0 tokenQuota db.now operation) = db' := by
  simp only [reserveWildFlowWalletTx, run_bind_ok, findUserTx_ok, run_ensure_ok] at ran
  obtain ⟨user, _, ⟨_, rfl⟩, _, _, ⟨_, rfl⟩, tokenQuota, _, token, _, _, debited, ran⟩ := ran
  obtain ⟨part, rfl⟩ := reserveWildFlowTokenQuotaTx_ok pos token
  obtain ⟨rows, new⟩ :=
    updateUser_always (db.debitToken operation.tokenId tokenQuota) operation.userId quote.quota
  rw [new] at debited
  cases debited
  exact ⟨tokenQuota, part, snapshotWildFlowBillingTx_ok found ran⟩

theorem reserveWildFlowSubscriptionTx_ok
    (pos : 0 < quote.quota) (found : db.operations.find operation.operationId = some operation)
    (ran : (reserveWildFlowSubscriptionTx operation quote).run db = .ok (after, db')) :
    ∃ res db₁ tokenQuota,
      (preConsumeUserSubscriptionTx operation.operationId operation.userId quote.quota).run db = .ok (res, db₁) ∧
      (db₁.debitToken operation.tokenId tokenQuota).putOperation (wildFlowBillingSnapshotUpdates quote
        .subscription res.userSubscriptionId tokenQuota db.now operation) = db' := by
  simp only [reserveWildFlowSubscriptionTx, run_bind_ok] at ran
  obtain ⟨res, db₁, used, tokenQuota, _, token, ran⟩ := ran
  obtain ⟨_, rfl⟩ := reserveWildFlowTokenQuotaTx_ok pos token
  refine ⟨res, db₁, tokenQuota, used, ?_⟩
  obtain ⟨subs, records, rfl⟩ := preConsumeUserSubscriptionTx_frame used
  exact snapshotWildFlowBillingTx_ok found ran

inductive SettleEffect (db : DB) (operationId : String) : DB → Prop
  | unchanged : SettleEffect db operationId db
  | logged (log : Table WildFlowBillingLogEntry.primaryKey)
      (kept : ∀ key, key ≠ (operationId, .consume) → log.find key = db.billingLog.find key) :
      SettleEffect db operationId { db with billingLog := log }
  /-- The operation was validated at a time that is not positive. -/
  | returned {operation : WildFlowOperation} {actual : WildFlowActualBilling} {db₁ db₂ : DB}
      (found : db.operations.find operationId = some operation) (reserved : operation.billingState = .reserved)
      (negative : operation.resultValidatedTime < 0)
      (source : (returnWildFlowQuotaTx operation actual.quota).run db = .ok ((), db₁))
      (token : (returnWildFlowTokenQuotaTx operation actual.tokenQuota).run db₁ = .ok ((), db₂))
      (tokenLess : actual.tokenQuota ≤ operation.billingTokenQuota) : SettleEffect db operationId db₂
  | settled {operation : WildFlowOperation} {actual : WildFlowActualBilling} {eventId : String} {db₁ db₂ : DB}
      (found : db.operations.find operationId = some operation) (reserved : operation.billingState = .reserved)
      (less : actual.quota ≤ operation.billingQuota) (tokenLess : actual.tokenQuota ≤ operation.billingTokenQuota)
      (nonnegative : 0 ≤ operation.billingTokenQuota → 0 ≤ actual.tokenQuota)
      (source : (returnWildFlowQuotaTx operation actual.quota).run db = .ok ((), db₁))
      (token : (returnWildFlowTokenQuotaTx operation actual.tokenQuota).run db₁ = .ok ((), db₂))
      (log : Table WildFlowBillingLogEntry.primaryKey)
      (kept : ∀ key, key ≠ (operationId, .consume) → log.find key = db.billingLog.find key) :
      SettleEffect db operationId
        { addUserUse (db₂.putOperation (operation.settledWith actual eventId db₂.now)) operation.userId
            actual.quota 1 with billingLog := log }

theorem returnWildFlowQuotaTx_frame (ran : (returnWildFlowQuotaTx operation actual).run db = .ok (u, db')) :
    ∃ users subs records, db' =
      { db with users := users, userSubscriptions := subs, preConsumeRecords := records } := by
  unfold returnWildFlowQuotaTx at ran
  dsimp only at ran
  split at ran
  · obtain ⟨_, rfl⟩ := run_pure_ok.mp ran
    exact ⟨_, _, _, rfl⟩
  split at ran
  · obtain rfl := refundUser_ok.mp ran
    exact ⟨_, _, _, rfl⟩
  · simp only [run_bind_ok, postConsumeUserSubscriptionDeltaTx_ok, run_read_ok, run_ensure_ok, run_write_ok] at ran
    obtain ⟨_, _, ⟨_, _, _, rfl⟩, _, _, ⟨rfl, rfl⟩, _, _, ⟨_, rfl⟩, rfl⟩ := ran
    exact ⟨_, _, _, rfl⟩
  all_goals cases ran

theorem returnWildFlowQuotaTx_wallet (wallet : operation.billingSource = .wallet)
    (less : actual ≤ operation.billingQuota) : (returnWildFlowQuotaTx operation actual).run db = .ok (u, db') ↔
      db.debitUser operation.userId (actual - operation.billingQuota) = db' := by
  simp only [returnWildFlowQuotaTx, wallet]
  split
  · have nothing : actual - operation.billingQuota = 0 := by omega
    rw [nothing, debitUser_zero]
    simp
  · have amt : -(operation.billingQuota - actual) = actual - operation.billingQuota := by omega
    rw [amt]
    exact refundUser_ok

theorem wildFlowActualUsageBilling_nonnegative {actual : WildFlowActualBilling}
    (priced : wildFlowActualUsageBilling operation event = .ok actual)
    (nonneg : 0 ≤ operation.billingTokenQuota) : 0 ≤ actual.tokenQuota := by
  grind [wildFlowActualUsageBilling]

theorem settleByUsageTx_effect (found : db.operations.find operation.operationId = some operation)
    (reserved : operation.billingState = .reserved) (succeeded : operation.state = "succeeded")
    (stored : operation.resultJSON ≠ "") (validated : operation.resultValidatedTime ≠ 0)
    (ran : (settleByUsageTx operation event).run db = .ok (out, db')) :
    SettleEffect db operation.operationId db' := by
  rw [settleByUsageTx, run_bind_ok] at ran
  obtain ⟨_, _, matched, ran⟩ := ran
  obtain ⟨_, rfl⟩ := run_ensure_ok.mp matched
  cases priced : wildFlowActualUsageBilling operation event with
  | error err =>
    rw [priced] at ran
    cases ran
  | ok actual =>
    rw [priced] at ran
    simp only [run_bind_ok, run_ensure_ok, run_read_ok] at ran
    obtain ⟨_, _, ⟨⟨less, tokenLess⟩, rfl⟩, _, db₁, src, _, db₂, token, _, _, ⟨rfl, rfl⟩, rows, _, new, ran⟩ := ran
    obtain ⟨users, subs, records, frame⟩ := returnWildFlowQuotaTx_frame src
    have tokenFrame := ((returnWildFlowTokenQuotaTx_ok tokenLess).mp token).2
    have still : db₂.operations.find operation.operationId = some operation := by
      rw [← tokenFrame, frame]
      exact found
    by_cases pos : 0 < operation.resultValidatedTime
    · rw [updateOperation_hit still (by simp [reserved, succeeded, stored, pos])] at new
      cases new
      simp only [Nat.one_ne_zero, if_false, run_bind_ok, run_pure_ok] at ran
      obtain ⟨_, _, counted, _, _, logged, _, rfl⟩ := ran
      obtain ⟨_, usedUp⟩ := updateUser_addUse (db₂.putOperation
        (operation.settledWith actual event.eventId db₂.now)) operation.userId actual.quota 1
      rw [usedUp] at counted
      cases counted
      obtain ⟨log, rfl, kept⟩ := ensureWildFlowCanonicalBillingLogTx_frame logged
      refine .settled found reserved less tokenLess (wildFlowActualUsageBilling_nonnegative priced) src token log ?_
      intro key other
      rw [kept key other]
      show db₂.billingLog.find key = db.billingLog.find key
      rw [← tokenFrame, frame]
      rfl
    · rw [updateOperation_miss still (by simp [pos])] at new
      cases new
      simp only [if_true, run_bind_ok, loadWildFlowOperationForBilling_ok, run_pure_ok] at ran
      obtain ⟨_, _, ⟨_, rfl⟩, _, rfl⟩ := ran
      exact .returned found reserved (by omega) src token tokenLess

theorem settleWildFlowOperationBilling_effect (db : DB) (operationId : String) :
    SettleEffect db operationId (settleWildFlowOperationBilling db operationId).2 := by
  unfold settleWildFlowOperationBilling
  refine commit_elim (commit _ db) rfl (fun _ => .unchanged) fun out db' ran => ?_
  rw [run_bind_ok] at ran
  obtain ⟨operation, _, loaded, ran⟩ := ran
  obtain ⟨found, rfl⟩ := loadWildFlowOperationForBilling_ok.mp loaded
  obtain rfl : operation.operationId = operationId := key_of_find found
  split at ran
  · simp only [run_bind_ok, run_pure_ok] at ran
    obtain ⟨_, _, logged, _, rfl⟩ := ran
    obtain ⟨log, rfl, kept⟩ := ensureWildFlowCanonicalBillingLogTx_frame logged
    exact .logged log kept
  split at ran
  · obtain ⟨_, rfl⟩ := run_pure_ok.mp ran
    exact .unchanged
  rename_i ready
  simp only [not_or, ne_eq, Decidable.not_not] at ready
  obtain ⟨reserved, succeeded, stored, validated⟩ := ready
  rw [run_bind_of_ok (run_read db)] at ran
  cases first : firstUsageEvent db operation with
  | none =>
    rw [first] at ran
    obtain ⟨_, rfl⟩ := run_pure_ok.mp ran
    exact .unchanged
  | some event =>
    rw [first] at ran
    exact settleByUsageTx_effect found reserved succeeded stored validated ran

inductive RefundEffect (db : DB) (operationId : String) : DB → Prop
  | unchanged : RefundEffect db operationId db
  | logged (log : Table WildFlowBillingLogEntry.primaryKey)
      (kept : ∀ key, key ≠ (operationId, .refund) → log.find key = db.billingLog.find key)
      (done : ∀ operation, db.operations.find operationId = some operation → operation.billingState = .refunded) :
      RefundEffect db operationId { db with billingLog := log }
  | refunded {operation : WildFlowOperation} {db₁ db₂ : DB}
      (found : db.operations.find operationId = some operation)
      (held : operation.billingState = .reserved ∨ operation.billingState = .refunding)
      (source : (refundWildFlowSourceTx operation).run db = .ok ((), db₁))
      (token : (refundWildFlowTokenQuotaTx operation).run db₁ = .ok ((), db₂))
      (log : Table WildFlowBillingLogEntry.primaryKey)
      (kept : ∀ key, key ≠ (operationId, .refund) → log.find key = db.billingLog.find key) :
      RefundEffect db operationId { db₂.putOperation (operation.refundedAt db₂.now) with billingLog := log }

theorem refundWildFlowSourceTx_frame (ran : (refundWildFlowSourceTx operation).run db = .ok (u, db')) :
    ∃ users subs records, db' =
      { db with users := users, userSubscriptions := subs, preConsumeRecords := records } := by
  unfold refundWildFlowSourceTx at ran
  split at ran
  · obtain ⟨subs, records, rfl⟩ := refundSubscriptionPreConsumeTx_frame ran
    exact ⟨_, _, _, rfl⟩
  · obtain rfl := refundUser_ok.mp ran
    exact ⟨_, _, _, rfl⟩
  all_goals
    obtain ⟨_, rfl⟩ := run_pure_ok.mp ran
    exact ⟨_, _, _, rfl⟩

theorem refundWildFlowSourceTx_wallet (wallet : operation.billingSource = .wallet)
    (ran : (refundWildFlowSourceTx operation).run db = .ok (u, db')) :
    db.debitUser operation.userId (-operation.billingQuota) = db' := by
  simp only [refundWildFlowSourceTx, wallet] at ran
  exact refundUser_ok.mp ran

theorem refundReservedTx_effect (found : db.operations.find operation.operationId = some operation)
    (held : operation.billingState = .reserved ∨ operation.billingState = .refunding)
    (ran : (refundReservedTx operation).run db = .ok (out, db')) : RefundEffect db operation.operationId db' := by
  simp only [refundReservedTx, run_bind_ok, run_read_ok, run_pure_ok] at ran
  obtain ⟨_, db₁, src, _, db₂, token, _, _, ⟨rfl, rfl⟩, rows, _, new, _, _, logged, _, rfl⟩ := ran
  obtain ⟨users, subs, records, frame⟩ := refundWildFlowSourceTx_frame src
  obtain ⟨tokens, tokenFrame⟩ := refundWildFlowTokenQuotaTx_frame token
  have still : db₂.operations.find operation.operationId = some operation := by
    rw [tokenFrame, frame]
    exact found
  rw [updateOperation_hit still rfl] at new
  cases new
  obtain ⟨log, rfl, kept⟩ := ensureWildFlowCanonicalBillingLogTx_frame logged
  refine .refunded found held src token log ?_
  intro key other
  rw [kept key other]
  show db₂.billingLog.find key = db.billingLog.find key
  rw [tokenFrame, frame]

theorem refundWildFlowOperationBilling_effect (db : DB) (operationId : String) :
    RefundEffect db operationId (refundWildFlowOperationBilling db operationId).2 := by
  unfold refundWildFlowOperationBilling
  refine commit_elim (commit _ db) rfl (fun _ => .unchanged) fun out db' ran => ?_
  rw [run_bind_ok] at ran
  obtain ⟨operation, _, loaded, ran⟩ := ran
  obtain ⟨found, rfl⟩ := loadWildFlowOperationForBilling_ok.mp loaded
  obtain rfl : operation.operationId = operationId := key_of_find found
  split at ran
  · rename_i back
    simp only [run_bind_ok, run_pure_ok] at ran
    obtain ⟨_, _, logged, _, rfl⟩ := ran
    obtain ⟨log, rfl, kept⟩ := ensureWildFlowCanonicalBillingLogTx_frame logged
    refine .logged log kept ?_
    intro other same
    rw [found] at same
    cases same
    exact back
  · split at ran
    · obtain ⟨_, rfl⟩ := run_pure_ok.mp ran
      exact .unchanged
    · rename_i held
      refine refundReservedTx_effect found ?_ ran
      by_contra neither
      exact held (.inl (not_or.mp neither))

structure BillingKept (now : Int) (before after : WildFlowOperation) : Prop where
  operationId : after.operationId = before.operationId
  userId : after.userId = before.userId
  tokenId : after.tokenId = before.tokenId
  state : after.billingState = before.billingState
  source : after.billingSource = before.billingSource
  quota : after.billingQuota = before.billingQuota
  tokenQuota : after.billingTokenQuota = before.billingTokenQuota
  validated : after.resultValidatedTime = before.resultValidatedTime ∨ after.resultValidatedTime = now

theorem BillingKept.refl (now : Int) (operation : WildFlowOperation) : BillingKept now operation operation :=
  ⟨rfl, rfl, rfl, rfl, rfl, rfl, rfl, .inl rfl⟩

structure Executed (db db' : DB) : Prop where
  frame : ∃ events operations, db' = { db with usageEvents := events, operations := operations }
  operations : ∀ id, ∃ change, (∀ operation, BillingKept db.now operation (change operation)) ∧
    db'.operations.find id = (db.operations.find id).map change

theorem Executed.refl (db : DB) : Executed db db :=
  ⟨⟨_, _, rfl⟩, fun id => ⟨fun operation => operation, BillingKept.refl db.now, by simp⟩⟩

theorem Executed.update (db : DB) (events : Table WildFlowUsageEvent.eventId) (operationId : String)
    (condition : WildFlowOperation → Bool) (kept : ∀ operation, BillingKept db.now operation (change operation)) :
    Executed db { db with usageEvents := events
                          operations := (db.operations.updateWhere operationId condition change).1 } := by
  refine ⟨⟨_, _, rfl⟩, ?_⟩
  intro id
  refine ⟨fun operation => if id = operationId ∧ condition operation = true then change operation
    else operation, ?_, ?_⟩
  · grind [BillingKept.refl]
  · exact find_updateWhere db.operations operationId condition (fun operation => (kept operation).operationId) id

theorem updateWildFlowOperationExecution_executed (db : DB) (operationId jobId st code : String) :
    Executed db (updateWildFlowOperationExecution db operationId jobId st code) :=
  Executed.update db db.usageEvents operationId _ fun _ => ⟨rfl, rfl, rfl, rfl, rfl, rfl, rfl, .inl rfl⟩

theorem withResult_kept (json : String) (expiry now : Int) (operation : WildFlowOperation) :
    BillingKept now operation (operation.withResult json expiry now) := by
  unfold WildFlowOperation.withResult
  dsimp only
  split
  · refine ⟨rfl, rfl, rfl, rfl, rfl, rfl, rfl, ?_⟩
    dsimp only
    split
    · exact .inr rfl
    · exact .inl rfl
  · exact ⟨rfl, rfl, rfl, rfl, rfl, rfl, rfl, .inr rfl⟩

theorem storeWildFlowOperationResult_executed (db : DB) (operationId json : String) (expiry : Int) :
    Executed db (storeWildFlowOperationResult db operationId json expiry).2 := by
  unfold storeWildFlowOperationResult
  split
  · exact Executed.refl db
  refine commit_elim (commit _ db) rfl (fun _ => Executed.refl db) fun after db' ran => ?_
  simp only [run_bind_ok, loadWildFlowOperationForBilling_ok, run_ensure_ok, updateOperation,
    run_read_ok, run_write_ok, run_pure_ok] at ran
  obtain ⟨_, _, ⟨_, rfl⟩, _, _, ⟨_, rfl⟩, _, _, ⟨_, _, ⟨rfl, rfl⟩, _, _, rfl, _, rfl⟩, _, rfl⟩ := ran
  exact Executed.update db db.usageEvents operationId _ (withResult_kept json expiry db.now)

def WildFlowOperation.billedByEvent (operation : WildFlowOperation) (eventId : String) (now : Int) : WildFlowOperation :=
  { operation with billingUsageEventId := eventId, updatedTime := now }

theorem claimTeamTrialUsageTx_claims (ran : (claimTeamTrialUsageTx operation event).run db = .ok (u, db')) :
    db' = db ∨ ∃ condition, db' = { db with
      operations := (db.operations.updateWhere operation.operationId condition (·.billedByEvent event.eventId db.now)).1 } := by
  unfold claimTeamTrialUsageTx at ran
  split at ran
  · obtain ⟨_, rfl⟩ := run_pure_ok.mp ran
    exact .inl rfl
  split at ran
  · simp only [run_bind_ok, updateOperation, run_read_ok, run_write_ok, run_pure_ok, run_ensure_ok] at ran
    obtain ⟨_, _, ⟨rfl, rfl⟩, _, _, ⟨_, _, ⟨rfl, rfl⟩, _, _, rfl, rfl, rfl⟩, _, rfl⟩ := ran
    exact .inr ⟨_, rfl⟩
  · obtain ⟨_, rfl⟩ := run_ensure_ok.mp ran
    exact .inl rfl

theorem recordWildFlowUsageEvent_cases (db : DB) (event : WildFlowUsageEvent) :
    ∃ events, (recordWildFlowUsageEvent db event).2 = { db with usageEvents := events } ∨
      ∃ operationId condition eventId, (recordWildFlowUsageEvent db event).2 = { db with
        usageEvents := events
        operations := (db.operations.updateWhere operationId condition (·.billedByEvent eventId db.now)).1 } := by
  unfold recordWildFlowUsageEvent
  split
  · dsimp only
    generalize ({ event with createdTime := if event.createdTime = 0 then db.now else event.createdTime } :
      WildFlowUsageEvent) = stamped
    refine commit_elim (commit _ db) rfl (fun _ => ⟨db.usageEvents, .inl rfl⟩) fun replayed db' ran => ?_
    simp only [recordWildFlowUsageEventTx, run_bind_ok, run_read_ok, run_orFail_ok, run_ensure_ok] at ran
    obtain ⟨_, _, ⟨rfl, rfl⟩, operation, _, ⟨_, rfl⟩, _, _, ⟨_, rfl⟩, _, _, ⟨_, rfl⟩, ran⟩ := ran
    have claims : ∃ events u, (claimTeamTrialUsageTx operation stamped).run { db with usageEvents := events } = .ok (u, db') := by
      split at ran
      · simp only [run_bind_ok, run_ensure_ok, run_pure_ok] at ran
        obtain ⟨_, _, ⟨_, rfl⟩, _, _, claimed, _, rfl⟩ := ran
        exact ⟨db.usageEvents, _, claimed⟩
      · simp only [run_bind_ok, run_write_ok, run_pure_ok] at ran
        obtain ⟨_, _, rfl, _, _, claimed, _, rfl⟩ := ran
        exact ⟨_, _, claimed⟩
    obtain ⟨events, _, claimed⟩ := claims
    refine ⟨events, (claimTeamTrialUsageTx_claims claimed).imp id ?_⟩
    rintro ⟨condition, rfl⟩
    exact ⟨_, condition, _, rfl⟩
  · exact ⟨db.usageEvents, .inl rfl⟩

theorem recordWildFlowUsageEvent_executed (db : DB) (event : WildFlowUsageEvent) :
    Executed db (recordWildFlowUsageEvent db event).2 := by
  obtain ⟨events, stored | ⟨operationId, condition, eventId, claimed⟩⟩ := recordWildFlowUsageEvent_cases db event
  · rw [stored]
    exact ⟨⟨_, _, rfl⟩, (Executed.refl db).operations⟩
  · rw [claimed]
    exact Executed.update db events operationId condition fun _ => ⟨rfl, rfl, rfl, rfl, rfl, rfl, rfl, .inl rfl⟩

end Wildflow.Billing

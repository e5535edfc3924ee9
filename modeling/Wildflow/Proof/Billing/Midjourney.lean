import Wildflow.Billing.Midjourney
import Wildflow.Proof.Billing.SessionConservation

/-!
# What a Midjourney call costs

An accepted call is billed twice: by the reservation that the deferred closure settles, and by the task row.
-/

namespace Wildflow.Billing
open Wildflow.Store
variable {request : MidjourneyRequest}

inductive MidjourneyHandler where
  | submit | swapFace

def MidjourneyHandler.run : MidjourneyHandler → DB → RelayInfo → MidjourneyRequest → MidjourneyOutcome
  | .submit => relayMidjourneySubmit
  | .swapFace => relaySwapFace

def MidjourneyHandler.accepts (handler : MidjourneyHandler) (request : MidjourneyRequest) : Bool :=
  match request.response with
  | none => false
  | some response =>
    response.statusCode = 200 && match handler with
      | .submit => response.code = 1 || response.code = 21 || response.code = 22
      | .swapFace => response.code = 1

/-- An accepted call costs the price its row records and a refund returns; any other nothing. -/
def ChargesExactly (before : DB) (info : RelayInfo) (quota : Int) (accepted : Bool)
    (outcome : MidjourneyOutcome) : Prop :=
  if accepted then
    ChargedBy before outcome.db info none quota ∧ ∃ task, outcome.task = some task ∧ task.quota = quota ∧
        ChargedBy before (refundMidjourneyQuota outcome.db task).2.2 info none 0
  else ChargedBy before outcome.db info none 0

structure CallHeld (before : DB) (info : RelayInfo) (quota total : Int) (db : DB) : Prop where
  named : info.requestId ≠ ""
  record : ∃ record, db.reservations.find info.requestId = some record ∧ record.Open ∧
    record.source = .wallet ∧ record.userId = info.userId ∧ record.tokenId = info.tokenId ∧
    record.amount = quota
  liveUser : db.LiveUser info.userId
  token : TokenReady db info
  charged : ChargedBy before db info none total

section
variable {before db : DB} {info : RelayInfo} {quota total : Int}

theorem CallHeld.release (held : CallHeld before info quota total db) :
    ChargedBy before (releasePerCallBilling db info) info none (total - quota) := by
  obtain ⟨row, found, opened, wallet, user, token, amt⟩ := held.record
  have ran : (releaseBillingReservationTx info.requestId false).run db =
      .ok (true, db.moveReservation (row.moved .released db.now) (-row.amount)) :=
    (releaseBillingReservationTx_wallet_ok found wallet (not_kept_of_open opened)).mpr ⟨rfl, rfl⟩
  unfold releasePerCallBilling releaseBillingReservation
  rw [if_pos held.named, releaseReservation_eq held.named, Tx.commit_eq_ok.mpr ran, amt]
  have moved : (row.moved .released db.now).userId = info.userId := user
  exact held.charged.moveReservation moved token held.liveUser held.token.live (-quota)

theorem ChargedBy.settlePerCall (paid : ChargedBy before db info none total)
    {row : BillingReservationRecord} (named : info.requestId ≠ "")
    (found : db.reservations.find info.requestId = some row) (opened : row.Open) (pos : 0 < quota) :
    ChargedBy before (settlePerCallBilling db { info with finalPreConsumedQuota := quota } quota).2 info none
      total := by
  have free : ¬quota ≤ 0 := by omega
  have ran : (settleBillingReservationTx info.requestId 0).run db =
      .ok ((), db.putReservation (row.moved .settled db.now)) :=
    (settleBillingReservationTx_open found opened).mpr (by simp)
  unfold settlePerCallBilling
  rw [if_neg free, if_pos named]
  simp only [sub_self]
  rw [settleBillingReservation_eq named, Tx.commit_eq_ok.mpr ran]
  have closed : ChargedBy before (db.putReservation (row.moved .settled db.now)) info none total :=
    ⟨paid.wallet, paid.token, paid.used⟩
  exact closed.countUse info.userId quota

theorem beginMidjourneyCall_held (named : info.requestId ≠ "") (user : 0 < info.userId)
    (unused : db.reservations.find info.requestId = none) (token : TokenReady db info) (positive : 0 < quota)
    (enough : db.UserHolds info.userId quota) (room : db.TokenHolds info.tokenId quota info.tokenUnlimited) :
    ∃ db₁, beginMidjourneyCall db info quota true = (.ok (), db₁) ∧ CallHeld db info quota quota db₁ := by
  let record := newReservation info.requestId info.userId info.tokenId info.tokenUnlimited .wallet quota db.now
  have free : ¬quota ≤ 0 := by omega
  have valid : validateBillingReservationArgs info.requestId info.userId quota = .ok () := by
    unfold validateBillingReservationArgs
    rw [if_neg named, if_neg (by omega), if_neg (by omega)]
  have ran : (reserveWalletBillingQuotaTx info.requestId info.userId info.tokenId quota
      info.tokenUnlimited).run db = .ok (true, db.moveReservation record quota) :=
    (reserveWalletBillingQuotaTx_fresh unused (by omega)).mpr ⟨rfl, enough, room, rfl⟩
  have reserved : reservePerCallBilling db info quota = (.ok (), db.moveReservation record quota) := by
    unfold reservePerCallBilling reserveWalletBillingQuota
    rw [if_neg free, if_pos named, valid]
    simp only
    rw [if_neg (by omega), Tx.commit_eq_ok.mpr ran]
  have found : (db.moveReservation record quota).reservations.find info.requestId = some record :=
    Table.find_put_self _ record
  have marked := markBillingReservationProviderStarted_reserved named found rfl
  have taken := (ChargedBy.refl db info none).moveReservation (by rfl : record.userId = info.userId) rfl
    enough.live room.live quota
  rw [Int.zero_add] at taken
  have begun : beginMidjourneyCall db info quota true = (.ok (), (db.moveReservation record quota).putReservation
      (record.moved .providerStarted (db.moveReservation record quota).now)) := by
    simp [beginMidjourneyCall, reserved, marked]
  refine ⟨_, begun, {
    named := named
    record := ⟨record.moved .providerStarted (db.moveReservation record quota).now, ?_, .inr rfl, rfl, rfl,
      rfl, rfl⟩
    liveUser := ?_
    token := ?_
    charged := ⟨taken.wallet, taken.token, taken.used⟩ }⟩
  · exact Table.find_put_self _ (record.moved .providerStarted (db.moveReservation record quota).now)
  · have live : (db.moveReservation record quota).LiveUser info.userId := by
      simp only [DB.moveReservation, debitToken_liveUser, debitUser_liveUser]
      exact enough.live
    exact live
  · refine ⟨token.1, fun billed => ⟨(token.2 billed).1, ?_⟩⟩
    have live : (db.moveReservation record quota).LiveToken info.tokenId := by
      simp only [DB.moveReservation, debitToken_liveToken, debitUser_liveToken]
      exact (token.2 billed).2
    exact live

theorem postConsumeQuotaWithResult_wallet (src : info.billingSource ≠ .subscription) (pos : 0 < quota)
    (token : TokenReady db info) :
    postConsumeQuotaWithResult db info quota =
      (⟨true, !info.isPlayground⟩, .ok (), info, db.spendDirect info quota) := by
  have funded : postConsumeFunding db info quota = (.ok info, db.spendUser info.userId quota) := by
    unfold postConsumeFunding
    rw [if_neg src, if_pos pos, decreaseUserQuota_eq db info.userId (le_of_lt pos)]
  unfold postConsumeQuotaWithResult DB.spendDirect
  rw [funded]
  cases playground : info.isPlayground with
  | true => simp [playground]
  | false =>
    have paid := decreaseTokenQuota_eq (db.spendUser info.userId quota) (token.2 playground).1 pos
    simp [playground, pos, paid]

theorem spendDirect_reservations (db : DB) (info : RelayInfo) (amt : Int) :
    (db.spendDirect info amt).reservations = db.reservations := by
  unfold DB.spendDirect DB.spendToken
  split
  · exact spendUser_reservations ..
  · split <;> exact spendUser_reservations ..

theorem storeMidjourneyTask_unbilled (db : DB) (info : RelayInfo) (request : MidjourneyRequest) (code : Int) :
    (storeMidjourneyTask db info request code false).db = db ∧
      ∀ task, (storeMidjourneyTask db info request code false).task = some task → task.quota = 0 := by
  unfold storeMidjourneyTask
  cases request.insertedId with
  | none => exact ⟨rfl, by simp⟩
  | some id =>
    refine ⟨rfl, ?_⟩
    intro task stored
    exact congrArg (·.quota) (Option.some.inj stored).symm

theorem storeMidjourneyTask_billed (pos : 0 < request.quota) (token : TokenReady db info) (code : Int) :
    (∀ task, (storeMidjourneyTask db info request code true).task = some task → task.quota = 0) ∨
    (storeMidjourneyTask db info request code true).db =
      updateUserUsedQuotaAndRequestCount (db.spendDirect info request.quota) info.userId request.quota := by
  have free : ¬request.quota < 0 := by omega
  unfold storeMidjourneyTask prepareMidjourneyTaskBilling
  by_cases src : info.billingSource = .subscription
  · refine .inl ?_
    intro task stored
    cases inserted : request.insertedId with
    | none => simp [inserted] at stored
    | some id =>
      simp [inserted, free, src, settleMidjourneyTaskBilling] at stored
      rw [← stored]
  · cases inserted : request.insertedId with
    | none => exact .inl (by simp)
    | some id =>
      have stored : id.1 ≠ 0 := by
        have := id.2
        omega
      refine .inr ?_
      simp [free, src, settleMidjourneyTaskBilling, stored, postConsumeQuotaWithResult_wallet src pos token]

theorem ChargedBy.unique {after : DB} {first second : Int} (one : ChargedBy before after info none first)
    (other : ChargedBy before after info none second) : first = second := by
  have left := one.wallet info.userId
  have right := other.wallet info.userId
  simp only [if_true] at left right
  omega

theorem CallHeld.charges_iff
    (held : CallHeld before info request.quota request.quota db) (positive : 0 < request.quota) (code : Int)
    (accepted : Bool) :
    ChargesExactly before info request.quota accepted { storeMidjourneyTask db info request code accepted with
        db := finishMidjourneyCall (storeMidjourneyTask db info request code accepted).db info request.quota
          accepted } ↔ accepted = false := by
  unfold ChargesExactly
  cases accepted with
  | false =>
    simp only [Bool.false_eq_true, if_false, iff_true]
    rw [(storeMidjourneyTask_unbilled db info request code).1]
    have released := held.release
    rwa [Int.sub_self] at released
  | true =>
    simp only [if_true, Bool.true_eq_false, iff_false]
    rintro ⟨price, task, stored, quota, _⟩
    rcases storeMidjourneyTask_billed positive held.token code with unrecorded | billed
    · have none := unrecorded task stored
      omega
    obtain ⟨record, found, opened, _⟩ := held.record
    have taken := (held.charged.spendDirect held.liveUser held.token request.quota).countUse info.userId request.quota
    have kept : (updateUserUsedQuotaAndRequestCount (db.spendDirect info request.quota) info.userId
        request.quota).reservations.find info.requestId = some record := by
      rw [countUse_reservations, spendDirect_reservations]
      exact found
    rw [billed] at price
    have twice := taken.settlePerCall held.named kept opened positive
    have same := price.unique twice
    omega

theorem storeMidjourneyTask_charges_iff (pos : 0 < request.quota) (code : Int) (accepted : Bool) :
    ChargesExactly db info request.quota accepted (storeMidjourneyTask db info request code false) ↔
      accepted = false := by
  obtain ⟨same, unrecorded⟩ := storeMidjourneyTask_unbilled db info request code
  unfold ChargesExactly
  cases accepted with
  | false =>
    simp only [Bool.false_eq_true, if_false, iff_true, same]
    exact ChargedBy.refl db info none
  | true =>
    simp only [if_true, Bool.true_eq_false, iff_false]
    rintro ⟨_, task, stored, quota, _⟩
    have none := unrecorded task stored
    omega

end

def midjourneyCall (code : Int) : MidjourneyRequest where
  action := .other
  quota := 10
  response := some { statusCode := 200, code }
  insertedId := some ⟨1, by decide⟩

end Wildflow.Billing

import Wildflow.Billing.TopUpOrder
import Wildflow.Proof.Billing.Account

/-!
# What completing an order does

A completion credits the wallet and makes the order a success, or it changes nothing.
-/

namespace Wildflow.Billing
open Wildflow.Store Tx

def CreditFits (db : DB) (userId credit : Int) : Prop :=
  0 < credit ∧ credit ≤ maxWalletQuota ∧
    ∀ user, db.users.find userId = some user → user.deleted = false → user.quota ≤ maxWalletQuota - credit

def DB.creditOrder (db : DB) (topUp : TopUp) (user : User) (credit : Int) (updates : User → User) : DB :=
  { db with
    topUps := db.topUps.put (topUp.completed db.now)
    users := db.users.put (user.credit credit updates) }

def TopUpError.quotaReason : TopUpError → Bool
  | .invalidTopUpQuota | .topUpQuotaLimitExceeded => true
  | _ => false

inductive Completion (db : DB) (topUp : TopUp) (credit : Int) (updates : User → User) :
    Except TopUpError DB → Prop where
  | refused (failure : TopUpError) (reason : failure.quotaReason = true) (past : ¬CreditFits db topUp.userId credit) :
      Completion db topUp credit updates (.error failure)
  | userMissing (fits : CreditFits db topUp.userId credit) (missing : ¬db.LiveUser topUp.userId) :
      Completion db topUp credit updates (.error .recordNotFound)
  | credited (user : User) (fits : CreditFits db topUp.userId credit)
      (found : db.users.find topUp.userId = some user) (live : user.deleted = false) :
      Completion db topUp credit updates (.ok (db.creditOrder topUp user credit updates))

section
variable {db : DB} {topUp : TopUp} {value : ℚ} {updates : User → User}

theorem creditedQuota_run (db : DB) (value : ℚ) :
    (creditedQuota value).run db = if 0 < roundAwayFromZero value ∧ roundAwayFromZero value ≤ maxWalletQuota then
        .ok (roundAwayFromZero value, db) else .error .invalidTopUpQuota := by
  unfold creditedQuota walletQuotaFromDecimalStrict
  dsimp only
  have wide : (0 : Int) ≤ maxWalletQuota := by decide
  split
  · rename_i outside
    rw [run_bind_of_error (run_orFail_none db), if_neg (by omega)]
  rename_i inside
  rw [run_bind_of_ok (run_orFail_some _ db)]
  by_cases pos : 0 < roundAwayFromZero value
  · rw [run_bind_of_ok (run_ensure_of db pos), if_pos (by omega)]
    rfl
  · rw [run_bind_of_error (run_ensure_of_not db pos), if_neg (by omega)]

theorem completeTopUp_run (db : DB) (topUp : TopUp) :
    (completeTopUp topUp).run db = .ok ((), { db with topUps := db.topUps.put (topUp.completed db.now) }) := rfl

theorem not_liveUser_of_filter {id : Int} (looked : ((db.users.find id).filter fun user => !user.deleted) = none) :
    ¬db.LiveUser id := by
  rintro ⟨user, found, live⟩
  simp [found, live] at looked

theorem creditTopUpQuota_completion {credit : Int} (pos : 0 < credit) (bounded : credit ≤ maxWalletQuota) :
    ∃ res, Completion db topUp credit updates res ∧
      (creditTopUpQuota topUp.userId credit updates).run { db with topUps := db.topUps.put (topUp.completed db.now) } =
        res.map fun db' => ((), db') := by
  have limit : topUpQuotaMaxCurrent credit = some (maxWalletQuota - credit) := by
    rw [topUpQuotaMaxCurrent, if_neg (by omega)]
  unfold creditTopUpQuota
  rw [limit, run_bind_of_ok (run_orFail_some _ _), run_bind_of_ok (run_read _)]
  dsimp only
  rcases Table.updateWhere_cases db.users topUp.userId
      (fun user => !user.deleted && decide (user.quota ≤ maxWalletQuota - credit)) (User.credit credit updates) with
    ⟨user, found, holds, new⟩ | ⟨missed, new⟩
  · rw [new]
    simp only [Bool.and_eq_true, Bool.not_eq_true', decide_eq_true_eq] at holds
    refine ⟨.ok (db.creditOrder topUp user credit updates), .credited user ⟨pos, bounded, ?_⟩ found holds.1, rfl⟩
    intro other found' _
    obtain rfl := Option.mem_unique found found'
    exact holds.2
  · rw [new]
    cases looked : (db.users.find topUp.userId).filter fun user => !user.deleted with
    | none =>
      have gone := not_liveUser_of_filter looked
      refine ⟨.error .recordNotFound, .userMissing ⟨pos, bounded, ?_⟩ gone, rfl⟩
      intro user found live
      exact absurd ⟨user, found, live⟩ gone
    | some user =>
      obtain ⟨found, live⟩ := Option.filter_eq_some_iff.mp looked
      have full := missed user found
      rw [live, Bool.true_and, decide_eq_false_iff_not] at full
      refine ⟨.error .topUpQuotaLimitExceeded, .refused _ rfl fun fits => ?_, rfl⟩
      exact full (fits.2.2 user found (by simpa using live))

theorem creditedQuota_refuses (outside : ¬(0 < roundAwayFromZero value ∧ roundAwayFromZero value ≤ maxWalletQuota)) :
    Completion db topUp (roundAwayFromZero value) updates (.error .invalidTopUpQuota) :=
  .refused _ rfl fun fits => outside ⟨fits.1, fits.2.1⟩

theorem creditThenSave_completion (db : DB) (topUp : TopUp) (value : ℚ) (updates : User → User) :
    ∃ res, Completion db topUp (roundAwayFromZero value) updates res ∧
      (do
        let quota ← creditedQuota value
        completeTopUp topUp
        creditTopUpQuota topUp.userId quota updates : TopUpTx Unit).run db = res.map fun db' => ((), db') := by
  have converted := creditedQuota_run db value
  split at converted
  · rename_i inside
    obtain ⟨res, done, ran⟩ := @creditTopUpQuota_completion db topUp updates _ inside.1 inside.2
    exact ⟨res, done, by
      rw [run_bind_of_ok converted, run_bind_of_ok (completeTopUp_run db topUp), ran]⟩
  · rename_i outside
    exact ⟨_, creditedQuota_refuses outside, run_bind_of_error converted⟩

theorem saveThenCredit_completion (db : DB) (topUp : TopUp) (value : ℚ) (change : TopUpTx (User → User))
    (updates : User → User) (changes : change.run { db with topUps := db.topUps.put (topUp.completed db.now) } =
        .ok (updates, { db with topUps := db.topUps.put (topUp.completed db.now) }) ∨
      (change.run { db with topUps := db.topUps.put (topUp.completed db.now) } = .error .recordNotFound ∧
        ¬db.LiveUser topUp.userId)) :
    ∃ res, Completion db topUp (roundAwayFromZero value) updates res ∧ (do
        completeTopUp topUp
        let quota ← creditedQuota value
        let updates ← change
        creditTopUpQuota topUp.userId quota updates : TopUpTx Unit).run db = res.map fun db' => ((), db') := by
  have converted := creditedQuota_run { db with topUps := db.topUps.put (topUp.completed db.now) } value
  rw [run_bind_of_ok (completeTopUp_run db topUp)]
  split at converted
  · rename_i inside
    rw [run_bind_of_ok converted]
    rcases changes with changed | ⟨missing, gone⟩
    · obtain ⟨res, done, ran⟩ := @creditTopUpQuota_completion db topUp updates _ inside.1 inside.2
      exact ⟨res, done, by rw [run_bind_of_ok changed, ran]⟩
    · refine ⟨.error .recordNotFound, .userMissing ⟨inside.1, inside.2, ?_⟩ gone, run_bind_of_error missing⟩
      intro user found live
      exact absurd ⟨user, found, live⟩ gone
  · rename_i outside
    exact ⟨_, creditedQuota_refuses outside, run_bind_of_error converted⟩

end

def GatewayCallback.worth (quotaPerUnit : ℚ) (topUp : TopUp) : GatewayCallback → ℚ
  | .stripe _ => topUp.money * quotaPerUnit
  | .creem _ => topUp.amount
  | .epay _ | .waffo | .waffoPancake => topUp.amount * quotaPerUnit

def TopUp.manualWorth (quotaPerUnit : ℚ) (topUp : TopUp) : ℚ :=
  if topUp.paymentProvider = .stripe then topUp.money * quotaPerUnit else topUp.amount * quotaPerUnit

def Completes (db : DB) (topUp : TopUp) (worth : ℚ) (tx : TopUpTx Unit) : Prop :=
  ∃ order updates result, order.tradeNo = topUp.tradeNo ∧ order.userId = topUp.userId ∧
    Completion db order (roundAwayFromZero worth) updates result ∧ tx.run db = result.map fun db' => ((), db')

section
variable {db : DB} {topUp : TopUp} {tradeNo : String} (quotaPerUnit : ℚ)
  (found : db.topUps.find tradeNo = some topUp) (pending : topUp.status = .pending)
include found

theorem lockTopUp_run (missing : TopUpError) : (lockTopUp tradeNo missing).run db = .ok (topUp, db) := by
  unfold lockTopUp
  rw [run_bind_of_ok (run_read db), found]
  rfl

include pending

omit found in
theorem not_success_of_pending : ¬topUp.status = .success := by
  rw [pending]
  decide

theorem manualCompleteTopUpTx_completes :
    Completes db topUp (topUp.manualWorth quotaPerUnit) (manualCompleteTopUpTx quotaPerUnit tradeNo) := by
  obtain ⟨res, done, ran⟩ := creditThenSave_completion db topUp (topUp.manualWorth quotaPerUnit) id
  refine ⟨topUp, id, res, rfl, rfl, done, ?_⟩
  unfold manualCompleteTopUpTx
  rw [run_bind_of_ok (lockTopUp_run found _), if_neg (not_success_of_pending pending), run_bind_of_ok (run_ensure_of db pending)]
  exact ran

theorem rechargeWaffoGatewayTx_completes {provider : PaymentProvider} (own : topUp.paymentProvider = provider) :
    Completes db topUp (topUp.amount * quotaPerUnit) (rechargeWaffoGatewayTx provider quotaPerUnit tradeNo) := by
  obtain ⟨res, done, ran⟩ := creditThenSave_completion db topUp (topUp.amount * quotaPerUnit) id
  refine ⟨topUp, id, res, rfl, rfl, done, ?_⟩
  unfold rechargeWaffoGatewayTx
  rw [run_bind_of_ok (lockTopUp_run found _), run_bind_of_ok (run_ensure_of db own), if_neg (not_success_of_pending pending),
    run_bind_of_ok (run_ensure_of db pending)]
  exact ran

theorem rechargeTx_completes (own : topUp.paymentProvider = .stripe) (customerId : String) :
    Completes db topUp (topUp.money * quotaPerUnit) (rechargeTx quotaPerUnit tradeNo customerId) := by
  let updates := fun user : User => { user with stripeCustomer := customerId }
  obtain ⟨res, done, ran⟩ :=
    saveThenCredit_completion db topUp (topUp.money * quotaPerUnit) (pure updates) updates (.inl rfl)
  refine ⟨topUp, updates, res, rfl, rfl, done, ?_⟩
  unfold rechargeTx
  rw [run_bind_of_ok (lockTopUp_run found _), run_bind_of_ok (run_ensure_of db own),
    run_bind_of_ok (run_ensure_of db pending)]
  exact ran

theorem rechargeCreemTx_completes (own : topUp.paymentProvider = .creem) (customerEmail : String) :
    Completes db topUp topUp.amount (rechargeCreemTx tradeNo customerEmail) := by
  let saved : DB := { db with topUps := db.topUps.put (topUp.completed db.now) }
  have changes : ∃ updates, (creemUpdates customerEmail topUp.userId).run saved = .ok (updates, saved) ∨
      ((creemUpdates customerEmail topUp.userId).run saved = .error .recordNotFound ∧ ¬db.LiveUser topUp.userId) := by
    unfold creemUpdates
    split
    · exact ⟨id, .inl rfl⟩
    rw [run_bind_of_ok (run_read saved)]
    cases looked : (saved.users.find topUp.userId).filter fun user => !user.deleted with
    | none =>
      exact ⟨id, .inr ⟨run_bind_of_error (run_orFail_none saved), not_liveUser_of_filter looked⟩⟩
    | some user => exact ⟨_, .inl (run_bind_of_ok (run_orFail_some user saved))⟩
  obtain ⟨updates, changed⟩ := changes
  obtain ⟨res, done, ran⟩ := saveThenCredit_completion db topUp topUp.amount _ updates changed
  refine ⟨topUp, updates, res, rfl, rfl, done, ?_⟩
  unfold rechargeCreemTx
  rw [run_bind_of_ok (lockTopUp_run found _), run_bind_of_ok (run_ensure_of db own),
    run_bind_of_ok (run_ensure_of db pending)]
  exact ran

theorem rechargeEpayTx_completes (own : topUp.paymentProvider = .epay) (method : String) :
    Completes db topUp (topUp.amount * quotaPerUnit) (do let _ ← rechargeEpayTx quotaPerUnit tradeNo method) := by
  let order := if method ≠ "" ∧ topUp.paymentMethod ≠ method then
      { topUp with paymentMethod := method } else topUp
  have same : order.tradeNo = topUp.tradeNo ∧ order.userId = topUp.userId ∧ order.amount = topUp.amount := by
    change (ite _ _ _ : TopUp).tradeNo = _ ∧ (ite _ _ _ : TopUp).userId = _ ∧ (ite _ _ _ : TopUp).amount = _
    split <;> exact ⟨rfl, rfl, rfl⟩
  obtain ⟨res, done, ran⟩ := creditThenSave_completion db order (order.amount * quotaPerUnit) id
  rw [same.2.2] at done
  refine ⟨order, id, res, same.1, same.2.1, done, ?_⟩
  unfold rechargeEpayTx
  simp only [bind_assoc]
  rw [run_bind_of_ok (lockTopUp_run found _), run_bind_of_ok (run_ensure_of db own),
    if_neg (not_success_of_pending pending), bind_assoc, run_bind_of_ok (run_ensure_of db pending)]
  have back : ∀ quota, (do
      creditTopUpQuota order.userId quota id
      let _ ← (pure false : TopUpTx Bool) : TopUpTx Unit) = creditTopUpQuota order.userId quota id :=
    fun quota => bind_unit _
  simp only [bind_assoc]
  exact (congrArg (fun credit : Int → TopUpTx Unit => (do
      let quota ← creditedQuota (order.amount * quotaPerUnit)
      completeTopUp order
      credit quota : TopUpTx Unit).run db) (funext back)).trans ran

theorem callback_completes {callback : GatewayCallback} (own : topUp.paymentProvider = callback.provider) :
    Completes db topUp (callback.worth quotaPerUnit topUp) (callback.tx quotaPerUnit tradeNo) := by
  cases callback with
  | epay method => exact rechargeEpayTx_completes quotaPerUnit found pending own method
  | stripe customer => exact rechargeTx_completes quotaPerUnit found pending own customer
  | creem email => exact rechargeCreemTx_completes found pending own email
  | waffo => exact rechargeWaffoGatewayTx_completes quotaPerUnit found pending own
  | waffoPancake => exact rechargeWaffoGatewayTx_completes quotaPerUnit found pending own

end

def FailsForQuota (tx : TopUpTx Unit) (db : DB) : Prop :=
  ∃ failure, tx.run db = .error failure ∧ failure.quotaReason = true

/-- The administrator's completion does what the callback would do or refuse. -/
structure SameCredit (quotaPerUnit : ℚ) (db : DB) (tradeNo : String) (userId : Int) (callback : GatewayCallback) :
    Prop where
  wallet : (manualCompleteTopUp quotaPerUnit db tradeNo).2.userQuota userId =
    (callback.apply quotaPerUnit db tradeNo).userQuota userId
  refused : FailsForQuota (manualCompleteTopUpTx quotaPerUnit tradeNo) db ↔
    FailsForQuota (callback.tx quotaPerUnit tradeNo) db

section
variable {db : DB} {topUp : TopUp} {tradeNo : String} {worth : ℚ} {tx : TopUpTx Unit}

theorem callback_apply (quotaPerUnit : ℚ) (named : tradeNo ≠ "") (callback : GatewayCallback) :
    callback.apply quotaPerUnit db tradeNo = ((callback.tx quotaPerUnit tradeNo).commit db).2 := by
  have gateway : ∀ tx : TopUpTx Unit, (gatewayResult db tradeNo tx).2 = (tx.commit db).2 := by grind [gatewayResult]
  cases callback with
  | epay method =>
    change (rechargeEpay quotaPerUnit db tradeNo method).2 = _
    rw [rechargeEpay, if_neg named]
    exact (commit_discard _ db).symm
  | stripe customer => exact gateway _
  | creem email => exact gateway _
  | waffo => exact gateway _
  | waffoPancake => exact gateway _

theorem userQuota_creditOrder {user : User} {credit : Int} {updates : User → User}
    (found : db.users.find topUp.userId = some user) :
    (db.creditOrder topUp user credit updates).userQuota topUp.userId = db.userQuota topUp.userId + credit := by
  have stored : (db.creditOrder topUp user credit updates).users.find topUp.userId =
      some (user.credit credit updates) := Table.find_put_changed found rfl
  unfold DB.userQuota
  rw [stored, found]
  rfl

section
variable (completes : Completes db topUp worth tx)
include completes

theorem Completes.refused_iff : FailsForQuota tx db ↔ ¬CreditFits db topUp.userId (roundAwayFromZero worth) := by
  obtain ⟨order, updates, res, _, user, done, ran⟩ := completes
  rw [← user]
  unfold FailsForQuota
  rw [ran]
  cases done with
  | refused err reason past => exact ⟨fun _ => past, fun _ => ⟨err, rfl, reason⟩⟩
  | userMissing fits missing =>
    refine ⟨?_, fun past => absurd fits past⟩
    rintro ⟨err, ⟨⟩, reason⟩
    cases reason
  | credited row fits found live =>
    refine ⟨?_, fun past => absurd fits past⟩
    rintro ⟨err, ⟨⟩, _⟩

open Classical in
theorem Completes.wallet : (tx.commit db).2.userQuota topUp.userId = db.userQuota topUp.userId +
    if db.LiveUser topUp.userId ∧ CreditFits db topUp.userId (roundAwayFromZero worth) then
      roundAwayFromZero worth else 0 := by
  obtain ⟨order, updates, res, _, user, done, ran⟩ := completes
  rw [← user]
  cases done with
  | refused err reason past => rw [commit_of_error ran, if_neg fun taken => past taken.2, add_zero]
  | userMissing fits missing => rw [commit_of_error ran, if_neg fun taken => missing taken.1, add_zero]
  | credited row fits found live =>
    rw [commit_eq_ok.mpr ran, if_pos ⟨⟨row, found, live⟩, fits⟩]
    exact userQuota_creditOrder found

end

theorem Completes.same_iff {worth' : ℚ} {tx' : TopUpTx Unit} (one : Completes db topUp worth tx)
    (other : Completes db topUp worth' tx') :
    ((tx.commit db).2.userQuota topUp.userId = (tx'.commit db).2.userQuota topUp.userId ∧
      (FailsForQuota tx db ↔ FailsForQuota tx' db)) ↔
    ((CreditFits db topUp.userId (roundAwayFromZero worth) ↔
        CreditFits db topUp.userId (roundAwayFromZero worth')) ∧
      (db.LiveUser topUp.userId → CreditFits db topUp.userId (roundAwayFromZero worth) →
        roundAwayFromZero worth = roundAwayFromZero worth')) := by
  rw [one.refused_iff, other.refused_iff, not_iff_not, one.wallet, other.wallet]
  constructor
  · rintro ⟨wallet, both⟩
    refine ⟨both, fun live fits => ?_⟩
    rw [if_pos ⟨live, fits⟩, if_pos ⟨live, both.mp fits⟩] at wallet
    omega
  · rintro ⟨both, same⟩
    refine ⟨?_, both⟩
    rw [← both]
    split
    · rename_i taken
      rw [same taken.1 taken.2]
    · rfl

theorem roundAwayFromZero_intCast (n : Int) : roundAwayFromZero (n : ℚ) = n := by
  have half : ∀ m : Int, ⌊(m : ℚ) + 1 / 2⌋ = m := by
    intro m
    rw [Int.floor_intCast_add]
    norm_num
  unfold roundAwayFromZero
  split
  · exact half n
  · have negated := half (-n)
    push_cast at negated
    rw [negated, neg_neg]

theorem manual_completion_same_credit_iff (quotaPerUnit : ℚ) (named : tradeNo ≠ "")
    (found : db.topUps.find tradeNo = some topUp) (pending : topUp.status = .pending) (callback : GatewayCallback)
    (own : topUp.paymentProvider = callback.provider) :
    SameCredit quotaPerUnit db tradeNo topUp.userId callback ↔
      (topUp.paymentProvider = .creem → (CreditFits db topUp.userId topUp.amount ↔
          CreditFits db topUp.userId (roundAwayFromZero (topUp.amount * quotaPerUnit))) ∧
        (db.LiveUser topUp.userId → CreditFits db topUp.userId topUp.amount →
          roundAwayFromZero (topUp.amount * quotaPerUnit) = topUp.amount)) := by
  have manual := manualCompleteTopUpTx_completes quotaPerUnit found pending
  have gateway := callback_completes quotaPerUnit found pending own
  have applied : (manualCompleteTopUp quotaPerUnit db tradeNo).2 =
      ((manualCompleteTopUpTx quotaPerUnit tradeNo).commit db).2 := by
    rw [manualCompleteTopUp, if_neg named]
  have unfolded : SameCredit quotaPerUnit db tradeNo topUp.userId callback ↔
      (((manualCompleteTopUpTx quotaPerUnit tradeNo).commit db).2.userQuota topUp.userId =
          ((callback.tx quotaPerUnit tradeNo).commit db).2.userQuota topUp.userId ∧
        (FailsForQuota (manualCompleteTopUpTx quotaPerUnit tradeNo) db ↔
          FailsForQuota (callback.tx quotaPerUnit tradeNo) db)) := by
    rw [← applied, ← callback_apply quotaPerUnit named]
    exact ⟨fun same => ⟨same.wallet, same.refused⟩, fun same => ⟨same.1, same.2⟩⟩
  rw [unfolded, manual.same_iff gateway]
  by_cases creem : topUp.paymentProvider = .creem
  · have worths : topUp.manualWorth quotaPerUnit = topUp.amount * quotaPerUnit ∧
        callback.worth quotaPerUnit topUp = topUp.amount := by
      cases callback with
      | creem email => exact ⟨by simp [TopUp.manualWorth, creem], rfl⟩
      | _ => rw [creem] at own; cases own
    rw [worths.1, worths.2, roundAwayFromZero_intCast]
    grind
  · have worths : topUp.manualWorth quotaPerUnit = callback.worth quotaPerUnit topUp := by
      unfold TopUp.manualWorth
      rw [own]
      cases callback with
      | creem email => exact absurd own creem
      | _ => rfl
    rw [worths]
    exact ⟨fun _ is => absurd is creem, fun _ => ⟨Iff.rfl, fun _ _ => rfl⟩⟩

def creemOrder : TopUp where
  tradeNo := "trade-1"
  userId := 1
  amount := 1000
  money := 10
  paymentMethod := "creem"
  paymentProvider := .creem
  completeTime := 0
  status := .pending

def DB.withOrder (order : TopUp) : DB :=
  { DB.single 100 with topUps := Table.empty.put order }

end

def epayOrder : TopUp := { creemOrder with paymentMethod := "alipay", paymentProvider := .epay }

theorem manual_completion_same_credit_iff_epay :
    SameCredit 500000 (.withOrder epayOrder) "trade-1" 1 (.epay "wxpay") :=
  (@manual_completion_same_credit_iff (.withOrder epayOrder) epayOrder "trade-1" 500000 (by decide) rfl rfl
    (.epay "wxpay") rfl).mpr fun creem => by cases creem

theorem creem_order_credited_by_unit :
    (rechargeCreem (.withOrder creemOrder) "trade-1" "").2.userQuota 1 = 1100 ∧
      (manualCompleteTopUp 500000 (.withOrder creemOrder) "trade-1").2.userQuota 1 = 500000100 ∧
      ¬SameCredit 500000 (.withOrder creemOrder) "trade-1" 1 (.creem "") := by
  have gateway : (rechargeCreem (.withOrder creemOrder) "trade-1" "").2.userQuota 1 = 1100 := by decide +kernel
  have manual : (manualCompleteTopUp 500000 (.withOrder creemOrder) "trade-1").2.userQuota 1 = 500000100 := by
    decide +kernel
  refine ⟨gateway, manual, fun same => ?_⟩
  have equal := manual.symm.trans (same.wallet.trans gateway)
  exact absurd equal (by decide)

end Wildflow.Billing

import Wildflow.Proof.Billing.TopUpOrder

/-!
# An order is credited once

Callbacks, status updates and administrators may call on one order in any order and any number of times.
-/

namespace Wildflow.Billing
open Wildflow.Store Tx Table List Option

section
variable {db db' : DB} {tradeNo : String} {quotaPerUnit : ℚ}

theorem lockTopUp_ok {missing : TopUpError} {topUp : TopUp} :
    (lockTopUp tradeNo missing).run db = .ok (topUp, db') ↔ db.topUps.find tradeNo = some topUp ∧ db = db' := by
  unfold lockTopUp
  simp only [run_bind_ok, run_read_ok, run_orFail_ok]
  grind

variable {u : Unit}

theorem waffoGateway_ok_ready {provider : PaymentProvider}
    (ran : (rechargeWaffoGatewayTx provider quotaPerUnit tradeNo).run db = .ok (u, db')) :
    db' = db ∨ ∃ topUp, db.topUps.find tradeNo = some topUp ∧ topUp.paymentProvider = provider ∧
      topUp.status = .pending := by
  simp only [rechargeWaffoGatewayTx, run_bind_ok, lockTopUp_ok, run_ensure_ok] at ran
  obtain ⟨topUp, _, ⟨found, rfl⟩, _, _, ⟨own, rfl⟩, rest⟩ := ran
  split at rest
  · obtain ⟨_, rfl⟩ := run_pure_ok.mp rest
    exact .inl rfl
  · simp only [run_bind_ok, run_ensure_ok] at rest
    obtain ⟨_, _, ⟨due, rfl⟩, _⟩ := rest
    exact .inr ⟨topUp, found, own, due⟩

theorem manual_ok_ready (ran : (manualCompleteTopUpTx quotaPerUnit tradeNo).run db = .ok (u, db')) :
    db' = db ∨ ∃ topUp, db.topUps.find tradeNo = some topUp ∧ topUp.status = .pending := by
  simp only [manualCompleteTopUpTx, run_bind_ok, lockTopUp_ok] at ran
  obtain ⟨topUp, _, ⟨found, rfl⟩, rest⟩ := ran
  split at rest
  · obtain ⟨_, rfl⟩ := run_pure_ok.mp rest
    exact .inl rfl
  · simp only [run_bind_ok, run_ensure_ok] at rest
    obtain ⟨_, _, ⟨due, rfl⟩, _⟩ := rest
    exact .inr ⟨topUp, found, due⟩

theorem callback_ok_ready (callback : GatewayCallback)
    (ran : (callback.tx quotaPerUnit tradeNo).run db = .ok (u, db')) :
    db' = db ∨ ∃ topUp, db.topUps.find tradeNo = some topUp ∧ topUp.paymentProvider = callback.provider ∧
      topUp.status = .pending := by
  cases callback with
  | epay method =>
    simp only [GatewayCallback.tx, rechargeEpayTx, run_bind_ok, lockTopUp_ok, run_ensure_ok] at ran
    obtain ⟨done, _, ⟨topUp, _, ⟨found, rfl⟩, _, _, ⟨own, rfl⟩, rest⟩, finished⟩ := ran
    split at rest
    · obtain ⟨_, rfl⟩ := run_pure_ok.mp rest
      obtain ⟨_, rfl⟩ := run_pure_ok.mp finished
      exact .inl rfl
    · simp only [run_bind_ok, run_ensure_ok] at rest
      obtain ⟨_, _, ⟨due, rfl⟩, _⟩ := rest
      exact .inr ⟨topUp, found, own, due⟩
  | stripe customer =>
    simp only [GatewayCallback.tx, rechargeTx, run_bind_ok, lockTopUp_ok, run_ensure_ok] at ran
    obtain ⟨topUp, _, ⟨found, rfl⟩, _, _, ⟨own, rfl⟩, _, _, ⟨due, rfl⟩, _⟩ := ran
    exact .inr ⟨topUp, found, own, due⟩
  | creem email =>
    simp only [GatewayCallback.tx, rechargeCreemTx, run_bind_ok, lockTopUp_ok, run_ensure_ok] at ran
    obtain ⟨topUp, _, ⟨found, rfl⟩, _, _, ⟨own, rfl⟩, _, _, ⟨due, rfl⟩, _⟩ := ran
    exact .inr ⟨topUp, found, own, due⟩
  | waffo => exact waffoGateway_ok_ready ran
  | waffoPancake => exact waffoGateway_ok_ready ran

end

inductive OrderEffect (tradeNo : String) (db : DB) : DB → Prop where
  | unchanged : OrderEffect tradeNo db db
  | moved (topUp : TopUp) (found : db.topUps.find tradeNo = some topUp) (pending : topUp.status = .pending)
      (target : TopUpStatus) (unpaid : target ≠ .success) :
      OrderEffect tradeNo db { db with topUps := db.topUps.put { topUp with status := target } }
  | credited (topUp order : TopUp) (found : db.topUps.find tradeNo = some topUp) (pending : topUp.status = .pending)
      (key : order.tradeNo = topUp.tradeNo) (owner : order.userId = topUp.userId) (user : User)
      (userFound : db.users.find order.userId = some user) (live : user.deleted = false) (credit : Int)
      (fits : CreditFits db order.userId credit) (updates : User → User) :
      OrderEffect tradeNo db (db.creditOrder order user credit updates)

def TopUpStep.Promised : TopUpStep → Prop
  | .updatePending _ targetStatus => targetStatus ≠ .success
  | _ => True

def TopUpStep.Refused (quotaPerUnit : ℚ) (topUp : TopUp) (db : DB) : TopUpStep → Prop
  | .callback gateway => topUp.paymentProvider ≠ gateway.provider ∨
      ¬CreditFits db topUp.userId (roundAwayFromZero (gateway.worth quotaPerUnit topUp))
  | .updatePending expectedPaymentProvider _ =>
    expectedPaymentProvider ≠ .unset ∧ topUp.paymentProvider ≠ expectedPaymentProvider
  | .manualComplete => ¬CreditFits db topUp.userId (roundAwayFromZero (topUp.manualWorth quotaPerUnit))

section
variable {db : DB} {tradeNo : String} {quotaPerUnit : ℚ} {topUp : TopUp} {worth : ℚ} {tx : TopUpTx Unit}

theorem Completes.effect (completes : Completes db topUp worth tx) (found : db.topUps.find tradeNo = some topUp)
    (due : topUp.status = .pending) : OrderEffect tradeNo db (tx.commit db).2 := by
  obtain ⟨order, updates, res, key, owner, done, ran⟩ := completes
  cases done with
  | refused err reason past => rw [commit_of_error ran]; exact .unchanged
  | userMissing fits missing => rw [commit_of_error ran]; exact .unchanged
  | credited user fits userFound live =>
    rw [commit_eq_ok.mpr ran]
    exact .credited topUp order found due key owner user userFound live _ fits updates

theorem Completes.unchanged_of_not (completes : Completes db topUp worth tx)
    (past : ¬CreditFits db topUp.userId (roundAwayFromZero worth)) : (tx.commit db).2 = db := by
  obtain ⟨err, ran, _⟩ := completes.refused_iff.mpr past
  rw [commit_of_error ran]

theorem callback_apply_cases (quotaPerUnit : ℚ) (db : DB) (tradeNo : String) (callback : GatewayCallback) :
    callback.apply quotaPerUnit db tradeNo = db ∨
    ∃ topUp, db.topUps.find tradeNo = some topUp ∧ topUp.paymentProvider = callback.provider ∧
      topUp.status = .pending ∧
      callback.apply quotaPerUnit db tradeNo = ((callback.tx quotaPerUnit tradeNo).commit db).2 := by
  by_cases named : tradeNo = ""
  · left
    cases callback <;> simp [GatewayCallback.apply, rechargeEpay, recharge, rechargeCreem, rechargeWaffo,
      rechargeWaffoPancake, gatewayResult, named]
  · have applied := @callback_apply db tradeNo quotaPerUnit named callback
    rw [applied]
    refine commit_elim (commit _ db) rfl (fun _ => .inl rfl) fun _ db' ran => ?_
    rcases callback_ok_ready callback ran with rfl | ⟨topUp, found, own, due⟩
    · exact .inl rfl
    · exact .inr ⟨topUp, found, own, due, rfl⟩

theorem manualCompleteTopUp_cases (quotaPerUnit : ℚ) (db : DB) (tradeNo : String) :
    (manualCompleteTopUp quotaPerUnit db tradeNo).2 = db ∨
    ∃ topUp, db.topUps.find tradeNo = some topUp ∧ topUp.status = .pending ∧
      (manualCompleteTopUp quotaPerUnit db tradeNo).2 = ((manualCompleteTopUpTx quotaPerUnit tradeNo).commit db).2 := by
  unfold manualCompleteTopUp
  split
  · exact .inl rfl
  · refine commit_elim (commit _ db) rfl (fun _ => .inl rfl) fun _ db' ran => ?_
    rcases manual_ok_ready ran with rfl | ⟨topUp, found, due⟩
    · exact .inl rfl
    · exact .inr ⟨topUp, found, due, rfl⟩

theorem updatePendingTopUpStatus_cases (db : DB) (tradeNo : String) (expected : PaymentProvider)
    (target : TopUpStatus) :
    (updatePendingTopUpStatus db tradeNo expected target).2 = db ∨
    ∃ topUp, db.topUps.find tradeNo = some topUp ∧ topUp.status = .pending ∧
      (expected = .unset ∨ topUp.paymentProvider = expected) ∧
      (updatePendingTopUpStatus db tradeNo expected target).2 =
        { db with topUps := db.topUps.put { topUp with status := target } } := by
  unfold updatePendingTopUpStatus
  split
  · exact .inl rfl
  · refine commit_elim (commit _ db) rfl (fun _ => .inl rfl) fun _ db' ran => .inr ?_
    simp only [saveTopUp, run_bind_ok, lockTopUp_ok, run_ensure_ok, run_read_ok, run_write_ok] at ran
    obtain ⟨topUp, _, ⟨found, rfl⟩, _, _, ⟨own, rfl⟩, _, _, ⟨due, rfl⟩, _, _, ⟨rfl, rfl⟩, rfl⟩ := ran
    exact ⟨topUp, found, due, own, rfl⟩

theorem applyTopUpStep_effect {step : TopUpStep} (promised : step.Promised) :
    OrderEffect tradeNo db (applyTopUpStep quotaPerUnit tradeNo db step) := by
  unfold applyTopUpStep
  cases step with
  | callback callback =>
    dsimp only
    rcases callback_apply_cases quotaPerUnit db tradeNo callback with same | ⟨topUp, found, own, due, applied⟩
    · rw [same]
      exact .unchanged
    · rw [applied]
      exact (callback_completes quotaPerUnit found due own).effect found due
  | updatePending expected target =>
    dsimp only
    rcases updatePendingTopUpStatus_cases db tradeNo expected target with same | ⟨topUp, found, due, _, moved⟩
    · rw [same]
      exact .unchanged
    · rw [moved]
      exact .moved topUp found due target promised
  | manualComplete =>
    dsimp only
    rcases manualCompleteTopUp_cases quotaPerUnit db tradeNo with same | ⟨topUp, found, due, applied⟩
    · rw [same]
      exact .unchanged
    · rw [applied]
      exact (manualCompleteTopUpTx_completes quotaPerUnit found due).effect found due

theorem applyTopUpStep_refused {step : TopUpStep} (found : db.topUps.find tradeNo = some topUp)
    (refused : step.Refused quotaPerUnit topUp db) : applyTopUpStep quotaPerUnit tradeNo db step = db := by
  cases step with
  | callback callback =>
    rcases callback_apply_cases quotaPerUnit db tradeNo callback with same | ⟨other, found', own, due, applied⟩
    · exact same
    · obtain rfl := mem_unique found found'
      rcases refused with foreign | past
      · exact absurd own foreign
      · exact applied.trans ((callback_completes quotaPerUnit found due own).unchanged_of_not past)
  | updatePending expected target =>
    rcases updatePendingTopUpStatus_cases db tradeNo expected target with same | ⟨other, found', _, own, _⟩
    · exact same
    · obtain rfl := mem_unique found found'
      rcases own with unset | own
      · exact absurd unset refused.1
      · exact absurd own refused.2
  | manualComplete =>
    rcases manualCompleteTopUp_cases quotaPerUnit db tradeNo with same | ⟨other, found', due, applied⟩
    · exact same
    · obtain rfl := mem_unique found found'
      exact applied.trans ((manualCompleteTopUpTx_completes quotaPerUnit found due).unchanged_of_not refused)

end

def orderSuccess (tradeNo : String) (db : DB) : Bool :=
  (db.topUps.find tradeNo).any fun topUp => topUp.status = .success

def OrderOwned (tradeNo : String) (userId : Int) (db : DB) : Prop :=
  ∃ topUp, db.topUps.find tradeNo = some topUp ∧ topUp.userId = userId

def credits (quotaPerUnit : ℚ) (tradeNo : String) (userId : Int) (db : DB) (steps : List TopUpStep) : Nat :=
  (transitions (applyTopUpStep quotaPerUnit tradeNo) db steps).countP fun t =>
    t.after.userQuota userId ≠ t.before.userQuota userId

structure CreditTogether (tradeNo : String) (userId : Int) (db db' : DB) : Prop where
  together : db'.userQuota userId ≠ db.userQuota userId ↔
    orderSuccess tradeNo db = false ∧ orderSuccess tradeNo db' = true
  stays : orderSuccess tradeNo db = true → orderSuccess tradeNo db' = true
  capped : db'.userQuota userId ≠ db.userQuota userId →
    db.userQuota userId < db'.userQuota userId ∧ db'.userQuota userId ≤ maxWalletQuota

section
variable {db db' : DB} {tradeNo : String} {userId : Int} {quotaPerUnit : ℚ} {topUp : TopUp}

theorem orderSuccess_put {order : TopUp} (found : db.topUps.find tradeNo = some topUp)
    (key : order.tradeNo = topUp.tradeNo) (stored : db'.topUps = db.topUps.put order) :
    orderSuccess tradeNo db' = decide (order.status = .success) := by
  unfold orderSuccess
  rw [stored, find_put_changed found key]
  rfl

theorem orderSuccess_pending (found : db.topUps.find tradeNo = some topUp) (due : topUp.status = .pending) :
    orderSuccess tradeNo db = false := by
  simp [orderSuccess, found, due]

theorem OrderEffect.together (eff : OrderEffect tradeNo db db') (owned : OrderOwned tradeNo userId db) :
    CreditTogether tradeNo userId db db' := by
  obtain ⟨row, rowFound, owner⟩ := owned
  cases eff with
  | unchanged =>
    refine ⟨⟨fun moved => absurd rfl moved, fun entered => ?_⟩, id, fun moved => absurd rfl moved⟩
    exact absurd (entered.1.symm.trans entered.2) (by decide)
  | moved topUp found due target unpaid =>
    have before := orderSuccess_pending found due
    have after : orderSuccess tradeNo { db with topUps := db.topUps.put { topUp with status := target } } = false := by
      rw [@orderSuccess_put db _ tradeNo topUp { topUp with status := target } found rfl rfl]
      exact decide_eq_false unpaid
    refine ⟨⟨fun moved => absurd rfl moved, fun entered => ?_⟩, fun success => ?_, fun moved => absurd rfl moved⟩
    · exact absurd (after.symm.trans entered.2) (by decide)
    · exact absurd (before.symm.trans success) (by decide)
  | credited topUp order found due key same user userFound live credit fits updates =>
    obtain rfl := mem_unique found rowFound
    have before := orderSuccess_pending found due
    have after : orderSuccess tradeNo (db.creditOrder order user credit updates) = true :=
      @orderSuccess_put db _ tradeNo topUp (order.completed db.now) found key rfl
    have wallet := @userQuota_creditOrder db order user credit updates userFound
    rw [same, owner] at wallet
    have cur : db.userQuota userId = user.quota := by
      unfold DB.userQuota
      rw [← owner, ← same, userFound]
      rfl
    have pos := fits.1
    have room := fits.2.2 user userFound live
    have raised : db.userQuota userId < (db.creditOrder order user credit updates).userQuota userId := by omega
    exact ⟨⟨fun _ => ⟨before, after⟩, fun _ => ne_of_gt raised⟩, fun _ => after, fun _ => ⟨raised, by omega⟩⟩

theorem OrderEffect.owned (eff : OrderEffect tradeNo db db') (owned : OrderOwned tradeNo userId db) :
    OrderOwned tradeNo userId db' := by
  obtain ⟨row, rowFound, owner⟩ := owned
  cases eff with
  | unchanged => exact ⟨row, rowFound, owner⟩
  | moved topUp found due target unpaid =>
    obtain rfl := mem_unique found rowFound
    exact ⟨{ topUp with status := target }, find_put_changed found rfl, owner⟩
  | credited topUp order found due key same user userFound live credit fits updates =>
    obtain rfl := mem_unique found rowFound
    exact ⟨order.completed db.now, find_put_changed found key, same.trans owner⟩

end

structure CreditedOnce (quotaPerUnit : ℚ) (tradeNo : String) (topUp : TopUp) (db : DB) (steps : List TopUpStep) :
    Prop where
  once : credits quotaPerUnit tradeNo topUp.userId db steps ≤ 1
  success : topUp.status ≠ .success → (credits quotaPerUnit tradeNo topUp.userId db steps = 1 ↔
    orderSuccess tradeNo (runSteps (applyTopUpStep quotaPerUnit tradeNo) db steps) = true)
  together : ∀ t ∈ transitions (applyTopUpStep quotaPerUnit tradeNo) db steps,
    CreditTogether tradeNo topUp.userId t.before t.after
  refused : ∀ t ∈ transitions (applyTopUpStep quotaPerUnit tradeNo) db steps, ∀ order,
    t.before.topUps.find tradeNo = some order → t.input.Refused quotaPerUnit order t.before → t.after = t.before

theorem top_up_credited_once (quotaPerUnit : ℚ) {db : DB} {tradeNo : String} {topUp : TopUp}
    (found : db.topUps.find tradeNo = some topUp) (steps : List TopUpStep)
    (promised : ∀ step ∈ steps, step.Promised) : CreditedOnce quotaPerUnit tradeNo topUp db steps := by
  have guarded : Guarded (applyTopUpStep quotaPerUnit tradeNo) (fun _ step => step.Promised) db steps :=
    guarded_of_all db steps fun step member _ => promised step member
  have owned : OrderOwned tradeNo topUp.userId db := ⟨topUp, found, rfl⟩
  have preserved : ∀ db step, OrderOwned tradeNo topUp.userId db → step.Promised →
      OrderOwned tradeNo topUp.userId (applyTopUpStep quotaPerUnit tradeNo db step) :=
    fun db step owned kept => (applyTopUpStep_effect kept).owned owned
  have each : ∀ db step, OrderOwned tradeNo topUp.userId db → step.Promised →
      CreditTogether tradeNo topUp.userId db (applyTopUpStep quotaPerUnit tradeNo db step) :=
    fun db step owned kept => (applyTopUpStep_effect kept).together owned
  have together := transitions_invariant preserved each steps db owned guarded
  have counted : credits quotaPerUnit tradeNo topUp.userId db steps =
      entries (applyTopUpStep quotaPerUnit tradeNo) (orderSuccess tradeNo) db steps := by
    unfold credits entries
    apply countP_congr
    intro t member
    simp only [decide_eq_true_eq, Bool.and_eq_true, Bool.not_eq_true']
    exact (together t member).together
  have balance := entries_add preserved (fun db step owned kept => (each db step owned kept).stays) steps db owned
    guarded
  rw [← counted] at balance
  have bounded := Bool.toNat_le (orderSuccess tradeNo (runSteps (applyTopUpStep quotaPerUnit tradeNo) db steps))
  refine ⟨by omega, fun unpaid => ?_, together, ?_⟩
  · have start : orderSuccess tradeNo db = false := by simp [orderSuccess, found, unpaid]
    rw [start] at balance
    cases final : orderSuccess tradeNo (runSteps (applyTopUpStep quotaPerUnit tradeNo) db steps) with
    | true => simpa [final] using balance
    | false =>
      have none : credits quotaPerUnit tradeNo topUp.userId db steps = 0 := by simpa [final] using balance
      simp [none]
  · grind [transitions_after, applyTopUpStep_refused]

def repeatedCallbacks : List TopUpStep :=
  [.callback (.stripe "cus_1"), .callback (.epay "alipay"), .manualComplete, .callback (.epay "alipay"),
    .updatePending .epay .expired]

theorem top_up_credited_once_repeatedCallbacks :
    credits 500 "trade-1" 1 (.withOrder epayOrder) repeatedCallbacks = 1 ∧
      CreditedOnce 500 "trade-1" epayOrder (.withOrder epayOrder) repeatedCallbacks := by
  refine ⟨by decide +kernel, @top_up_credited_once 500 (.withOrder epayOrder) "trade-1" epayOrder rfl _ ?_⟩
  intro step member
  simp only [repeatedCallbacks, mem_cons, not_mem_nil, or_false] at member
  rcases member with rfl | rfl | rfl | rfl | rfl <;> simp [TopUpStep.Promised]

end Wildflow.Billing

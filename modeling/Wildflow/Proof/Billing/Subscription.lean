import Wildflow.Billing.Subscription
import Wildflow.Proof.Billing.Account

/-!
# What the subscription transactions do

Pre-consuming refreshes the rows it passes and charges exactly one of them (`preConsumeUserSubscriptionTx_fresh`).
-/

namespace Wildflow.Billing
open Wildflow.Store Tx Table List Option
variable {db db' : DB} {amount userId : Int} {requestId : String} {plan : SubscriptionPlan}
  {record : SubscriptionPreConsumeRecord} {res : SubscriptionPreConsumeResult} {table : Table UserSubscription.id}
  {u : Unit} {current sub origin : UserSubscription}

section
variable {zone : Calendar} {plan : SubscriptionPlan} {now : Int}

theorem catchUpResets_some {endTime : Int} {fuel : Nat} {start cursor : ResetCursor}
    (consistent : start.next = calcNextResetTime zone start.base plan endTime)
    (ended : catchUpResets zone plan endTime now fuel start = some cursor) :
    cursor.next = calcNextResetTime zone cursor.base plan endTime ∧ ¬(0 < cursor.next ∧ cursor.next ≤ now) ∧
      (cursor = start ∨ (cursor.advanced = true ∧ 0 < cursor.base ∧ cursor.base ≤ now)) := by
  induction fuel generalizing start with
  | zero => simp [catchUpResets] at ended
  | succ fuel ih =>
    unfold catchUpResets at ended
    split at ended
    · rename_i due
      obtain ⟨next, stopped, reached⟩ := ih rfl ended
      refine ⟨next, stopped, .inr ?_⟩
      rcases reached with rfl | advanced
      · exact ⟨rfl, due⟩
      · exact advanced
    · grind

theorem resetStart_next (zone : Calendar) (plan : SubscriptionPlan) (sub : UserSubscription) :
    (resetStart zone plan sub).next = calcNextResetTime zone (resetStart zone plan sub).base plan sub.endTime := by
  simp only [resetStart]

theorem resetDue_cases (reset : resetDue zone plan now sub = some current) :
    current = sub ∧ (0 < sub.nextResetTime ∧ now < sub.nextResetTime ∨
        normalizeResetPeriod plan.quotaResetPeriod = .never) ∨
    ∃ cursor fuel, catchUpResets zone plan sub.endTime now fuel (resetStart zone plan sub) = some cursor ∧
      current = sub.afterResets cursor := by
  unfold resetDue at reset
  split at reset
  · rename_i future
    exact .inl ⟨(Option.some.inj reset).symm, .inl future⟩
  split at reset
  · rename_i never
    exact .inl ⟨(Option.some.inj reset).symm, .inr never⟩
  · obtain ⟨cursor, ended, same⟩ := map_eq_some_iff.mp reset
    exact .inr ⟨cursor, _, ended, same.symm⟩

theorem afterResets_keeps (sub : UserSubscription) (cursor : ResetCursor) :
    (sub.afterResets cursor).id = sub.id ∧ (sub.afterResets cursor).userId = sub.userId ∧
      (sub.afterResets cursor).planId = sub.planId ∧
      (sub.afterResets cursor).amountTotal = sub.amountTotal ∧
      ((sub.afterResets cursor).amountUsed = sub.amountUsed ∨ (sub.afterResets cursor).amountUsed = 0) := by
  unfold UserSubscription.afterResets
  split
  · simp
  · split <;> simp

theorem resetDue_keeps (reset : resetDue zone plan now sub = some current) :
    current.id = sub.id ∧ current.userId = sub.userId ∧ current.planId = sub.planId ∧
      current.amountTotal = sub.amountTotal ∧ (current.amountUsed = sub.amountUsed ∨ current.amountUsed = 0) := by
  rcases resetDue_cases reset with ⟨rfl, _⟩ | ⟨cursor, _, _, rfl⟩
  · simp
  · exact afterResets_keeps sub cursor

def UserSubscription.withUsed (sub : UserSubscription) (used : Int) : UserSubscription :=
  { sub with amountUsed := used }

section
variable (sub : UserSubscription) (used : Int)

@[simp] theorem withUsed_id : (sub.withUsed used).id = sub.id := rfl
@[simp] theorem withUsed_planId : (sub.withUsed used).planId = sub.planId := rfl
@[simp] theorem withUsed_amountTotal : (sub.withUsed used).amountTotal = sub.amountTotal := rfl
@[simp] theorem withUsed_amountUsed : (sub.withUsed used).amountUsed = used := rfl

@[simp] theorem withUsed_withUsed (used' : Int) :
    (sub.withUsed used).withUsed used' = sub.withUsed used' := rfl

end

theorem resetDue_future (future : 0 < sub.nextResetTime ∧ now < sub.nextResetTime) :
    resetDue zone plan now sub = some sub := by
  rw [resetDue, if_pos future]

theorem resetDue_idle (stopped : ¬(0 < (resetStart zone plan sub).next ∧ (resetStart zone plan sub).next ≤ now))
    (known : ¬(sub.nextResetTime = 0 ∧ 0 < (resetStart zone plan sub).next)) :
    resetDue zone plan now sub = some sub := by
  have ended : catchUpResets zone plan sub.endTime now
      ((max now (resetStart zone plan sub).next).toNat + 2) (resetStart zone plan sub) =
      some (resetStart zone plan sub) := by
    unfold catchUpResets
    rw [if_neg stopped]
  have unmoved : (resetStart zone plan sub).advanced = false := rfl
  have same : sub.afterResets (resetStart zone plan sub) = sub := by
    simp only [UserSubscription.afterResets, unmoved, Bool.false_eq_true, if_false, known]
  simp [resetDue, ended, same]

theorem resetDue_stable (reset : resetDue zone plan now sub = some current) (used : Int) :
    resetDue zone plan now (current.withUsed used) = some (current.withUsed used) := by
  rcases resetDue_cases reset with ⟨rfl, future | never⟩ | ⟨cursor, _, ended, rfl⟩
  · exact resetDue_future future
  · simp [resetDue, never]
  · obtain ⟨next, stopped, reached⟩ := catchUpResets_some (resetStart_next zone plan sub) ended
    by_cases advanced : cursor.advanced = true
    · have row : sub.afterResets cursor =
          { sub with amountUsed := 0, lastResetTime := cursor.base, nextResetTime := cursor.next } := by
        simp [UserSubscription.afterResets, advanced]
      rw [row]
      by_cases future : 0 < cursor.next
      · have later : now < cursor.next := by omega
        exact resetDue_future ⟨future, later⟩
      -- The period has ended: the loop starts at the last reset and stops there.
      have pos : 0 < cursor.base := by
        rcases reached with same | ⟨_, pos, _⟩
        · rw [same] at advanced
          cases advanced
        · exact pos
      have start : (resetStart zone plan (UserSubscription.withUsed
          { sub with amountUsed := 0, lastResetTime := cursor.base, nextResetTime := cursor.next }
          used)).next = cursor.next := by
        simp [resetStart, UserSubscription.withUsed, next, Int.not_le.mpr pos]
      apply resetDue_idle
      · rw [start]
        omega
      · rw [start]
        omega
    · have same : cursor = resetStart zone plan sub := by
        rcases reached with same | ⟨moved, _⟩
        · exact same
        · exact absurd moved advanced
      by_cases first : sub.nextResetTime = 0 ∧ 0 < cursor.next
      · have row : sub.afterResets cursor =
            { sub with lastResetTime := cursor.base, nextResetTime := cursor.next } := by
          simp only [UserSubscription.afterResets, advanced, first, and_self, if_true,
            Bool.false_eq_true, if_false]
        have later : now < cursor.next := by omega
        rw [row]
        exact resetDue_future ⟨first.2, later⟩
      · have row : sub.afterResets cursor = sub := by
          simp only [UserSubscription.afterResets, advanced, first, Bool.false_eq_true, if_false]
        rw [row]
        subst same
        exact resetDue_idle stopped first

theorem resetDue_again (reset : resetDue zone plan now sub = some current) :
    resetDue zone plan now current = some current :=
  resetDue_stable reset current.amountUsed

def SubscriptionPlan.Resets (plan : SubscriptionPlan) : Prop :=
  normalizeResetPeriod plan.quotaResetPeriod ≠ .never ∧
    (normalizeResetPeriod plan.quotaResetPeriod = .custom → 0 < plan.quotaResetCustomSeconds)

/-- The seconds of a custom period, whose nanoseconds wrap in 64 bits. -/
def SubscriptionPlan.customPeriod (plan : SubscriptionPlan) : Int :=
  Int.bmod (plan.quotaResetCustomSeconds * 1000000000) (2 ^ 64) / 1000000000

def UserSubscription.resetBase (sub : UserSubscription) : Int :=
  if sub.lastResetTime ≤ 0 then sub.startTime else sub.lastResetTime

section
variable (zone : Calendar) (plan : SubscriptionPlan)

def NextAfterBase (endTime : Int) : Prop :=
  ∀ base, calcNextResetTime zone base plan endTime = 0 ∨ base < calcNextResetTime zone base plan endTime

/-- `t` is of a later day, week (from Monday) or month than `base`, or a custom period after it. -/
def InLaterPeriod (base t : Int) : Prop :=
  match normalizeResetPeriod plan.quotaResetPeriod with
  | .never => False
  | .daily => zone.date base < zone.date t
  | .weekly => (zone.date base + 3) / 7 < (zone.date t + 3) / 7
  | .monthly => monthOf (zone.date base) < monthOf (zone.date t)
  | .custom => base + plan.customPeriod ≤ t

/-- The period of the last reset ends after 1970 and within the subscription. -/
def NextInTerm (sub : UserSubscription) : Prop :=
  ¬InLaterPeriod zone plan sub.resetBase 0 ∧ (0 < sub.endTime → InLaterPeriod zone plan sub.resetBase sub.endTime)

def BoundaryPassed (now : Int) (sub : UserSubscription) : Prop :=
  ¬(0 < sub.nextResetTime ∧ now < sub.nextResetTime) ∧ NextInTerm zone plan sub ∧
    InLaterPeriod zone plan sub.resetBase now

def LandsAhead (now : Int) (sub : UserSubscription) : Prop :=
  NextAfterBase zone plan sub.endTime ∧ ∃ after, resetDue zone plan now sub = some after ∧
    (after.nextResetTime = 0 ∨ now < after.nextResetTime) ∧ after.lastResetTime ≤ now ∧
    (BoundaryPassed zone plan now sub → after.amountUsed = 0) ∧
    (¬BoundaryPassed zone plan now sub → after.amountUsed = sub.amountUsed)

end

instance (base t : Int) : Decidable (InLaterPeriod zone plan base t) := by
  unfold InLaterPeriod
  split <;> infer_instance

instance : Decidable (NextInTerm zone plan sub) := by unfold NextInTerm; infer_instance
instance : Decidable (BoundaryPassed zone plan now sub) := by unfold BoundaryPassed; infer_instance

theorem catchUpResets_ends {endTime : Int} (later : NextAfterBase zone plan endTime) {fuel : Nat} {start : ResetCursor}
    (pos : 0 < fuel) (enough : 0 < start.next → now + 1 < start.next + fuel) :
    ∃ cursor, catchUpResets zone plan endTime now fuel start = some cursor := by
  induction fuel generalizing start with
  | zero => cases pos
  | succ fuel ih =>
    unfold catchUpResets
    split
    · rename_i due
      have room := enough due.1
      refine ih (by omega) fun further => ?_
      dsimp only at further ⊢
      rcases later start.next with zero | after <;> omega
    · exact ⟨start, rfl⟩

section
variable (regular : zone.Regular) (resets : plan.Resets)
include regular resets

theorem calcNextResetTime_eq (base endTime : Int) :
    ∃ boundary, (∀ t, boundary ≤ t ↔ InLaterPeriod zone plan base t) ∧
      calcNextResetTime zone base plan endTime = if 0 < endTime ∧ endTime < boundary then 0 else boundary := by
  unfold calcNextResetTime InLaterPeriod
  cases period : normalizeResetPeriod plan.quotaResetPeriod with
  | never => exact absurd period resets.1
  | daily => exact ⟨_, fun t => (regular.addDate_startOfDay_le_iff base 1 t).trans Int.add_one_le_iff, rfl⟩
  | weekly =>
    refine ⟨_, fun t => (regular.addDate_startOfDay_le_iff base _ t).trans ?_, rfl⟩
    unfold Calendar.weekday
    split <;> omega
  | monthly => exact ⟨_, fun t => regular.addDate_startOfMonth_le_iff base t, rfl⟩
  | custom =>
    refine ⟨base + plan.customPeriod, fun t => Iff.rfl, ?_⟩
    simp only [Int.not_le.mpr (resets.2 period), if_false, addDuration, one_mul, SubscriptionPlan.customPeriod]
    rfl

/-- Calendar periods advance; a custom one does when its wrapped nanoseconds are a second or more. -/
theorem nextAfterBase_iff {endTime : Int} :
    NextAfterBase zone plan endTime ↔
      (normalizeResetPeriod plan.quotaResetPeriod = .custom → 0 < plan.customPeriod) := by
  constructor
  · intro later custom
    -- from this base the boundary is the first second of 1970
    obtain ⟨boundary, ahead, next⟩ := calcNextResetTime_eq regular resets (1 - plan.customPeriod) endTime
    simp only [InLaterPeriod, custom] at ahead
    have first := ahead 1
    have zero := ahead 0
    have after := next ▸ later (1 - plan.customPeriod)
    split at after <;> omega
  · intro long base
    obtain ⟨boundary, ahead, next⟩ := calcNextResetTime_eq regular resets base endTime
    have later : base < boundary := by
      rw [← not_le, ahead, InLaterPeriod]
      split <;> grind
    rw [next]
    split
    · exact .inl rfl
    · exact .inr later

theorem resetStart_due_iff (t : Int) :
    0 < (resetStart zone plan sub).next ∧ (resetStart zone plan sub).next ≤ t ↔
      NextInTerm zone plan sub ∧ InLaterPeriod zone plan sub.resetBase t := by
  obtain ⟨boundary, later, next⟩ := calcNextResetTime_eq regular resets sub.resetBase sub.endTime
  have start : (resetStart zone plan sub).next = calcNextResetTime zone sub.resetBase plan sub.endTime := rfl
  rw [start, next, NextInTerm, ← later, ← later, ← later]
  split <;> omega

theorem resetStart_ahead_iff : 0 < (resetStart zone plan sub).next ↔ NextInTerm zone plan sub := by
  obtain ⟨boundary, later, next⟩ := calcNextResetTime_eq regular resets sub.resetBase sub.endTime
  have start : (resetStart zone plan sub).next = calcNextResetTime zone sub.resetBase plan sub.endTime := rfl
  rw [start, next, NextInTerm, ← later, ← later]
  split <;> omega

theorem resetDue_lands (later : NextAfterBase zone plan sub.endTime) :
    ∃ after, resetDue zone plan now sub = some after ∧
      (BoundaryPassed zone plan now sub → after.amountUsed = 0 ∧ after.lastResetTime ≤ now ∧
        (after.nextResetTime = 0 ∨ now < after.nextResetTime)) ∧
      (¬BoundaryPassed zone plan now sub → after = sub.afterResets (resetStart zone plan sub)) := by
  by_cases future : 0 < sub.nextResetTime ∧ now < sub.nextResetTime
  · refine ⟨sub, resetDue_future future, fun passed => absurd future passed.1, fun _ => ?_⟩
    simp [UserSubscription.afterResets, resetStart, future.1.ne']
  obtain ⟨cursor, ended⟩ := @catchUpResets_ends zone plan now sub.endTime later
    ((max now (resetStart zone plan sub).next).toNat + 2) (resetStart zone plan sub) (by omega) (by omega)
  obtain ⟨next, stopped, reached⟩ := catchUpResets_some (resetStart_next zone plan sub) ended
  refine ⟨sub.afterResets cursor, by simp [resetDue, future, resets.1, ended], fun passed => ?_, fun ahead => ?_⟩
  · rcases reached with rfl | ⟨advanced, pos, past⟩
    · exact absurd ((resetStart_due_iff regular resets now).mpr passed.2) stopped
    rw [UserSubscription.afterResets, if_pos advanced]
    refine ⟨rfl, past, ?_⟩
    rcases later cursor.base with zero | after
    · exact .inl (next.trans zero)
    · exact .inr (show now < cursor.next by omega)
  · unfold catchUpResets at ended
    rw [if_neg fun due => ahead ⟨future, (resetStart_due_iff regular resets now).mp due⟩] at ended
    obtain rfl := Option.some.inj ended
    rfl

theorem afterResets_start (stays : ¬BoundaryPassed zone plan now sub) :
    let after := sub.afterResets (resetStart zone plan sub)
    after.amountUsed = sub.amountUsed ∧
      (after.nextResetTime = 0 ∨ now < after.nextResetTime ↔ sub.nextResetTime = 0 ∨ now < sub.nextResetTime) ∧
      after.lastResetTime =
        if sub.nextResetTime = 0 ∧ NextInTerm zone plan sub then sub.resetBase else sub.lastResetTime := by
  have unmoved : (resetStart zone plan sub).advanced = false := rfl
  intro after
  simp only [after, UserSubscription.afterResets, unmoved, Bool.false_eq_true, if_false,
    resetStart_ahead_iff regular resets]
  split
  · rename_i fresh
    have positive := (resetStart_ahead_iff regular resets).mpr fresh.2
    have ahead := Int.not_le.mp fun due =>
      stays ⟨by omega, (resetStart_due_iff regular resets now).mp ⟨positive, due⟩⟩
    exact ⟨rfl, iff_of_true (.inr ahead) (.inl fresh.1), rfl⟩
  · exact ⟨rfl, Iff.rfl, rfl⟩

end

def resetEvery (period : String) (seconds : Int) : SubscriptionPlan :=
  { id := 1, durationUnit := .year, durationValue := 1, customSeconds := 0, allowWalletOverflow := none,
    maxPurchasePerUser := 0, upgradeGroup := "", downgradeGroup := "", totalAmount := 50,
    quotaResetPeriod := period, quotaResetCustomSeconds := seconds }

def dueAt (nextResetTime endTime : Int) : UserSubscription :=
  { id := 7, id_pos := by decide, userId := 1, planId := 1, amountTotal := 50, amountUsed := 20,
    startTime := 100, endTime, status := .active, lastResetTime := 100, nextResetTime,
    upgradeGroup := "", prevUserGroup := "", downgradeGroup := "", allowWalletOverflow := true }

-- Where the clock goes from midnight to one, Go's `time.Date` takes that midnight for 23:00: the day stands still.
example : calcNextResetTime ⟨fun t => if t < 10800 then -10800 else -7200⟩ 7200 (resetEvery "daily" 0) 0 = 7200 := by
  decide

end

def DB.putSubscription (db : DB) (sub : UserSubscription) : DB :=
  { db with userSubscriptions := db.userSubscriptions.put sub }

def DB.putPreConsume (db : DB) (record : SubscriptionPreConsumeRecord) : DB :=
  { db with preConsumeRecords := db.preConsumeRecords.put record }

theorem saveUserSubscription_run (db : DB) (sub : UserSubscription) :
    (saveUserSubscription sub).run db = .ok ((), db.putSubscription sub) := by
  simp [saveUserSubscription, DB.putSubscription]

def UserSubscription.shifted (sub : UserSubscription) (delta : Int) : UserSubscription :=
  sub.withUsed (max (sub.amountUsed + delta) 0)

def UserSubscription.Fits (sub : UserSubscription) (delta : Int) : Prop :=
  ¬(0 < sub.amountTotal ∧ sub.amountTotal < max (sub.amountUsed + delta) 0)

theorem postConsumeUserSubscriptionDeltaTx_ok {id d : Int} :
    (postConsumeUserSubscriptionDeltaTx id d).run db = .ok (u, db') ↔
      ∃ sub, db.userSubscriptions.find id = some sub ∧ sub.Fits d ∧ db.putSubscription (sub.shifted d) = db' := by
  simp only [postConsumeUserSubscriptionDeltaTx, run_bind_ok, run_read_ok, run_orFail_ok,
    run_ensure_ok, saveUserSubscription_run]
  constructor
  · rintro ⟨_, _, ⟨rfl, rfl⟩, sub, _, ⟨found, rfl⟩, _, _, ⟨fits, rfl⟩, saved⟩
    cases saved
    exact ⟨sub, found, fits, rfl⟩
  · rintro ⟨sub, found, fits, rfl⟩
    exact ⟨db, db, ⟨rfl, rfl⟩, sub, db, ⟨found, rfl⟩, (), db, ⟨fits, rfl⟩, rfl⟩

def SubscriptionPreConsumeRecord.refundedAt (record : SubscriptionPreConsumeRecord) (now : Int) :
    SubscriptionPreConsumeRecord :=
  { record with status := .refunded, updatedAt := now }

theorem refundSubscriptionPreConsumeTx_ok (ran : (refundSubscriptionPreConsumeTx requestId).run db = .ok (u, db')) :
    ∃ record, db.preConsumeRecords.find requestId = some record ∧ (record.status = .refunded ∧ db = db' ∨
        ∃ db₁, (returnPreConsumed record).run db = .ok ((), db₁) ∧
          db₁.putPreConsume (record.refundedAt db₁.now) = db') := by
  simp only [refundSubscriptionPreConsumeTx, run_bind_ok, run_read_ok, run_orFail_ok] at ran
  obtain ⟨_, _, ⟨rfl, rfl⟩, record, _, ⟨found, rfl⟩, ran⟩ := ran
  refine ⟨record, found, ?_⟩
  split at ran
  · rename_i refunded
    exact .inl ⟨refunded, (run_pure_ok.mp ran).2⟩
  · simp only [run_bind_ok, run_read_ok, run_write_ok] at ran
    obtain ⟨_, db₁, back, _, _, ⟨rfl, rfl⟩, rfl⟩ := ran
    exact .inr ⟨_, back, rfl⟩

theorem returnPreConsumed_frame (ran : (returnPreConsumed record).run db = .ok (u, db')) :
    ∃ subs, db' = { db with userSubscriptions := subs } := by
  unfold returnPreConsumed at ran
  split at ran
  · obtain ⟨sub, _, _, rfl⟩ := postConsumeUserSubscriptionDeltaTx_ok.mp ran
    exact ⟨_, rfl⟩
  · obtain ⟨_, rfl⟩ := run_pure_ok.mp ran
    exact ⟨_, rfl⟩

theorem refundSubscriptionPreConsumeTx_frame
    (ran : (refundSubscriptionPreConsumeTx requestId).run db = .ok (u, db')) :
    ∃ subs records, db' = { db with userSubscriptions := subs, preConsumeRecords := records } := by
  obtain ⟨record, _, ⟨_, rfl⟩ | ⟨db₁, back, rfl⟩⟩ := refundSubscriptionPreConsumeTx_ok ran
  · exact ⟨_, _, rfl⟩
  · obtain ⟨subs, rfl⟩ := returnPreConsumed_frame back
    exact ⟨_, _, rfl⟩

def Refreshed (db : DB) (table : Table UserSubscription.id) : Prop :=
  ∀ id, table.find id = db.userSubscriptions.find id ∨ ∃ sub plan current, db.userSubscriptions.find id = some sub ∧
      db.plans.find sub.planId = some plan ∧ resetDue db.zone plan db.now sub = some current ∧
      table.find id = some current

theorem Refreshed.refl (db : DB) : Refreshed db db.userSubscriptions := fun _ => .inl rfl

theorem Refreshed.trans
    (found : db.userSubscriptions.find sub.id = some sub) (planned : db.plans.find sub.planId = some plan)
    (reset : resetDue db.zone plan db.now sub = some current)
    (later : Refreshed (db.putSubscription current) table) : Refreshed db table := by
  obtain ⟨sameId, _, samePlan, _⟩ := resetDue_keeps reset
  intro id
  by_cases own : id = sub.id
  · subst own
    have now : (db.putSubscription current).userSubscriptions.find sub.id = some current := by
      rw [← sameId]
      exact find_put_self _ current
    rcases later sub.id with same | ⟨again, plan', current', place, planned', reset', stored⟩
    · exact .inr ⟨sub, plan, current, found, planned, reset, same.trans now⟩
    -- The second reset finds nothing to do.
    obtain rfl := mem_unique now place
    obtain rfl : plan = plan' := by
      rw [samePlan] at planned'
      exact mem_unique planned planned'
    obtain rfl := mem_unique (resetDue_again reset) reset'
    exact .inr ⟨sub, plan, current, found, planned, reset, stored⟩
  · have other : (db.putSubscription current).userSubscriptions.find id = db.userSubscriptions.find id :=
      find_put_of_ne _ current (by rw [sameId]; exact Ne.symm own)
    rcases later id with same | ⟨row, plan', current', place, planned', reset', stored⟩
    · exact .inl (same.trans other)
    · exact .inr ⟨row, plan', current', other.symm.trans place, planned', reset', stored⟩

def newPreConsume (requestId : String) (userId amount : Int) (sub : UserSubscription) (now : Int) :
    SubscriptionPreConsumeRecord :=
  { requestId, userId, userSubscriptionId := sub.id, preConsumed := amount, status := .consumed, updatedAt := now }

structure Charged (db : DB) (amount : Int) (table : Table UserSubscription.id)
    (origin sub : UserSubscription) : Prop where
  refreshed : Refreshed db table
  found : db.userSubscriptions.find origin.id = some origin
  reset : ∃ plan, db.plans.find origin.planId = some plan ∧ resetDue db.zone plan db.now origin = some sub
  room : ¬(0 < sub.amountTotal ∧ sub.amountTotal - sub.amountUsed < amount)

theorem maybeReset_ok {now : Int} :
    (maybeResetUserSubscriptionWithPlanTx sub plan now).run db = .ok (current, db') ↔
      resetDue db.zone plan now sub = some current ∧ db.putSubscription current = db' := by
  simp only [maybeResetUserSubscriptionWithPlanTx, run_bind_ok, run_read_ok, run_orFail_ok,
    saveUserSubscription_run, run_pure_ok]
  constructor
  · grind
  · rintro ⟨reset, rfl⟩
    exact ⟨db, db, ⟨rfl, rfl⟩, current, db, ⟨reset, rfl⟩, (), _, rfl, rfl, rfl⟩

theorem getSubscriptionPlanByIdTx_ok {id : Int} :
    (getSubscriptionPlanByIdTx id).run db = .ok (plan, db') → db.plans.find id = some plan ∧ db = db' := by
  unfold getSubscriptionPlanByIdTx
  split
  · simp
  · simp only [run_bind_ok, run_read_ok, run_orFail_ok]
    rintro ⟨_, _, ⟨rfl, rfl⟩, found, rfl⟩
    exact ⟨found, rfl⟩

theorem consumeFirstFitting_ok {cands : List UserSubscription}
    (rows : ∀ sub ∈ cands, db.userSubscriptions.find sub.id = some sub)
    (nodup : (cands.map UserSubscription.id).Nodup)
    (ran : (consumeFirstFitting requestId userId amount db.now cands).run db = .ok (res, db')) :
    ∃ table origin sub, origin ∈ cands ∧ Charged db amount table origin sub ∧ res.userSubscriptionId = sub.id ∧
      db' = { db with
        userSubscriptions := table.put (sub.withUsed (sub.amountUsed + amount))
        preConsumeRecords := db.preConsumeRecords.put (newPreConsume requestId userId amount sub db.now) } := by
  induction cands generalizing db with
  | nil => simp [consumeFirstFitting] at ran
  | cons cand rest ih =>
    rw [consumeFirstFitting, run_bind_ok] at ran
    obtain ⟨plan, _, looked, ran⟩ := ran
    obtain ⟨planned, rfl⟩ := getSubscriptionPlanByIdTx_ok looked
    rw [run_bind_ok] at ran
    obtain ⟨sub, _, resetRan, ran⟩ := ran
    obtain ⟨reset, rfl⟩ := maybeReset_ok.mp resetRan
    have found := rows cand List.mem_cons_self
    obtain ⟨sameId, _⟩ := resetDue_keeps reset
    split at ran
    · -- No room: the row keeps its reset and the next candidate is tried.
      rw [map_cons, nodup_cons] at nodup
      have restRows : ∀ row ∈ rest, (db.putSubscription sub).userSubscriptions.find row.id = some row := by
        intro row mem
        rw [← rows row (List.mem_cons_of_mem _ mem)]
        apply find_put_of_ne
        rw [sameId]
        intro same
        exact nodup.1 (same ▸ mem_map_of_mem mem)
      obtain ⟨table, origin, paid, mem, ⟨refreshed, place, ⟨plan', planned', reset'⟩, room⟩, id, rfl⟩ :=
        ih restRows nodup.2 ran
      refine ⟨table, origin, paid, List.mem_cons_of_mem _ mem, ⟨?_, ?_, ⟨plan', planned', reset'⟩, room⟩, id, rfl⟩
      · exact refreshed.trans found planned reset
      · rw [← rows origin (List.mem_cons_of_mem _ mem)]
    · rename_i room
      simp only [run_bind_ok, run_read_ok, run_write_ok, saveUserSubscription_run, run_pure_ok] at ran
      obtain ⟨_, _, ⟨rfl, rfl⟩, _, _, rfl, _, _, saved, rfl, rfl⟩ := ran
      cases saved
      exact ⟨(db.putSubscription sub).userSubscriptions, cand, sub, List.mem_cons_self,
        ⟨(Refreshed.refl _).trans found planned reset, found, ⟨plan, planned, reset⟩, room⟩, rfl, rfl⟩

theorem mem_activeUserSubscriptions :
    sub ∈ activeUserSubscriptions db userId ↔
      db.userSubscriptions.find sub.id = some sub ∧ sub.userId = userId ∧ sub.status = .active ∧
        db.now < sub.endTime := by
  unfold activeUserSubscriptions
  rw [mem_insertionSort, mem_filter, mem_rows]
  simp

theorem activeUserSubscriptions_nodup (db : DB) (userId : Int) :
    ((activeUserSubscriptions db userId).map UserSubscription.id).Nodup := by
  unfold activeUserSubscriptions
  have sorted := (perm_insertionSort EndsBefore (db.userSubscriptions.rows.filter fun sub =>
    sub.userId = userId ∧ sub.status = .active ∧ db.now < sub.endTime)).map UserSubscription.id
  rw [sorted.nodup_iff]
  exact (filter_sublist.map UserSubscription.id).nodup db.userSubscriptions.unique

theorem preConsumeUserSubscriptionTx_fresh (fresh : db.preConsumeRecords.find requestId = none)
    (ran : (preConsumeUserSubscriptionTx requestId userId amount).run db = .ok (res, db')) :
    0 < amount ∧ ∃ table origin sub, origin ∈ activeUserSubscriptions db userId ∧
      Charged db amount table origin sub ∧ res.userSubscriptionId = sub.id ∧
      db' = { db with
        userSubscriptions := table.put (sub.withUsed (sub.amountUsed + amount))
        preConsumeRecords := db.preConsumeRecords.put (newPreConsume requestId userId amount sub db.now) } := by
  unfold preConsumeUserSubscriptionTx at ran
  split at ran
  · simp at ran
  rename_i valid
  simp only [run_bind_ok, run_read_ok] at ran
  obtain ⟨_, _, ⟨rfl, rfl⟩, ran⟩ := ran
  rw [fresh] at ran
  simp only [run_bind_ok, run_ensure_ok] at ran
  obtain ⟨_, _, ⟨_, rfl⟩, ran⟩ := ran
  refine ⟨by omega, ?_⟩
  exact consumeFirstFitting_ok (fun sub mem => (mem_activeUserSubscriptions.mp mem).1)
    (activeUserSubscriptions_nodup db userId) ran

section
variable (found : db.preConsumeRecords.find requestId = some record)
include found

theorem refundSubscriptionPreConsumeTx_consumed (used : record.status = .consumed) (pos : 0 < record.preConsumed) :
    (refundSubscriptionPreConsumeTx requestId).run db = .ok (u, db') ↔
      ∃ sub, db.userSubscriptions.find record.userSubscriptionId = some sub ∧ sub.Fits (-record.preConsumed) ∧
        (db.putSubscription (sub.shifted (-record.preConsumed))).putPreConsume (record.refundedAt db.now) = db' := by
  have open' : ¬record.status = .refunded := by simp [used]
  simp only [refundSubscriptionPreConsumeTx, run_bind_ok, run_read_ok, run_orFail_ok]
  constructor
  · rintro ⟨_, _, ⟨rfl, rfl⟩, _, _, ⟨same, rfl⟩, rest⟩
    obtain rfl := mem_unique found same
    rw [if_neg open'] at rest
    simp only [run_bind_ok, returnPreConsumed, pos, if_true,
      postConsumeUserSubscriptionDeltaTx_ok, run_read_ok, run_write_ok] at rest
    obtain ⟨_, _, ⟨sub, place, fits, rfl⟩, _, _, ⟨rfl, rfl⟩, rfl⟩ := rest
    exact ⟨sub, place, fits, rfl⟩
  · rintro ⟨sub, place, fits, rfl⟩
    refine ⟨db, db, ⟨rfl, rfl⟩, record, db, ⟨found, rfl⟩, ?_⟩
    rw [if_neg open']
    simp only [run_bind_ok, returnPreConsumed, pos, if_true,
      postConsumeUserSubscriptionDeltaTx_ok, run_read_ok, run_write_ok]
    exact ⟨(), _, ⟨sub, place, fits, rfl⟩, _, _, ⟨rfl, rfl⟩, rfl⟩

theorem refundSubscriptionPreConsumeTx_refunded
    (back : record.status = .refunded) : (refundSubscriptionPreConsumeTx requestId).run db = .ok ((), db) := by
  simp [refundSubscriptionPreConsumeTx, found, back]

theorem preConsumeUserSubscriptionTx_known
    (ran : (preConsumeUserSubscriptionTx requestId userId amount).run db = .ok (res, db')) :
    db = db' ∧ record.status = .consumed ∧
      ∃ sub, db.userSubscriptions.find sub.id = some sub ∧ res.userSubscriptionId = sub.id := by
  unfold preConsumeUserSubscriptionTx at ran
  split at ran
  · simp at ran
  simp only [run_bind_ok, run_read_ok] at ran
  obtain ⟨_, _, ⟨rfl, rfl⟩, ran⟩ := ran
  rw [found] at ran
  simp only [run_bind_ok, run_ensure_ok, run_orFail_ok, run_pure_ok] at ran
  obtain ⟨_, _, ⟨kept, rfl⟩, sub, _, ⟨located, rfl⟩, rfl, rfl⟩ := ran
  have consumed : record.status = .consumed := by
    cases status : record.status with
    | consumed => rfl
    | refunded => exact absurd status kept
  have own : db.userSubscriptions.find sub.id = some sub := by
    rw [show sub.id = record.userSubscriptionId from key_of_find located]
    exact located
  exact ⟨rfl, consumed, sub, own, rfl⟩

end

section
variable (ran : (preConsumeUserSubscriptionTx requestId userId amount).run db = .ok (res, db'))
include ran

theorem preConsumeUserSubscriptionTx_valid : trimSpace requestId ≠ "" ∧ 0 < amount := by
  unfold preConsumeUserSubscriptionTx at ran
  split at ran
  · simp at ran
  · rename_i valid
    exact ⟨fun blank => valid (.inr (.inl blank)), by omega⟩

theorem preConsumeUserSubscriptionTx_frame :
    ∃ subs records, db' = { db with userSubscriptions := subs, preConsumeRecords := records } := by
  cases found : db.preConsumeRecords.find requestId with
  | some record =>
    obtain ⟨rfl, _⟩ := preConsumeUserSubscriptionTx_known found ran
    exact ⟨_, _, rfl⟩
  | none =>
    obtain ⟨_, _, _, _, _, _, _, rfl⟩ := preConsumeUserSubscriptionTx_fresh found ran
    exact ⟨_, _, rfl⟩

theorem preConsumeUserSubscriptionTx_positive : 0 < res.userSubscriptionId := by
  cases found : db.preConsumeRecords.find requestId with
  | some record =>
    obtain ⟨_, _, sub, _, target⟩ := preConsumeUserSubscriptionTx_known found ran
    exact target ▸ sub.id_pos
  | none =>
    obtain ⟨_, _, _, sub, _, _, target, _⟩ := preConsumeUserSubscriptionTx_fresh found ran
    exact target ▸ sub.id_pos

end

def DB.subscriptionUsed (db : DB) (id : Int) : Option Int :=
  (db.userSubscriptions.find id).bind fun sub =>
    match db.plans.find sub.planId with
    | some plan => (resetDue db.zone plan db.now sub).map (·.amountUsed)
    | none => some sub.amountUsed

theorem subscriptionUsed_refreshed (refreshed : Refreshed db table) (id : Int) :
    ({ db with userSubscriptions := table } : DB).subscriptionUsed id = db.subscriptionUsed id := by
  unfold DB.subscriptionUsed
  rcases refreshed id with same | ⟨sub, plan, current, found, planned, reset, stored⟩
  · simp only [same]
  · obtain ⟨_, _, samePlan, _⟩ := resetDue_keeps reset
    simp [stored, found, samePlan, planned, reset, resetDue_again reset]

theorem subscriptionUsed_charged (paid : Charged db amount table origin sub) (used id : Int) :
    ({ db with userSubscriptions := table.put (sub.withUsed used) } : DB).subscriptionUsed id =
      if id = sub.id then some used else db.subscriptionUsed id := by
  by_cases own : id = sub.id
  · subst own
    obtain ⟨plan, planned, reset⟩ := paid.reset
    obtain ⟨_, _, samePlan, _⟩ := resetDue_keeps reset
    have stored : (table.put (sub.withUsed used)).find sub.id = some (sub.withUsed used) :=
      find_put_self _ (sub.withUsed used)
    simp [DB.subscriptionUsed, stored, samePlan, planned, resetDue_stable reset used]
  · rw [if_neg own, ← subscriptionUsed_refreshed paid.refreshed id]
    have other : (table.put (sub.withUsed used)).find id = table.find id := find_put_of_ne _ _ (Ne.symm own)
    simp only [DB.subscriptionUsed, other]

theorem subscriptionUsed_origin (paid : Charged db amount table origin sub) :
    db.subscriptionUsed sub.id = some sub.amountUsed := by
  obtain ⟨plan, planned, reset⟩ := paid.reset
  obtain ⟨sameId, _⟩ := resetDue_keeps reset
  simp [DB.subscriptionUsed, sameId, paid.found, planned, reset]

def DB.subscribed : DB :=
  let plan : SubscriptionPlan :=
    { id := 1, durationUnit := .month, durationValue := 1, customSeconds := 0, allowWalletOverflow := none,
      maxPurchasePerUser := 0, upgradeGroup := "", downgradeGroup := "", totalAmount := 50,
      quotaResetPeriod := "never", quotaResetCustomSeconds := 0 }
  let sub : UserSubscription :=
    { id := 7, id_pos := by decide, userId := 1, planId := 1, amountTotal := 50, amountUsed := 0,
      startTime := 0, endTime := 2000, status := .active, lastResetTime := 0, nextResetTime := 0,
      upgradeGroup := "", prevUserGroup := "", downgradeGroup := "", allowWalletOverflow := true }
  { DB.single 100 with plans := Table.empty.put plan, userSubscriptions := Table.empty.put sub }

end Wildflow.Billing

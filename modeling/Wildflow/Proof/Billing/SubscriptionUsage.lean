import Wildflow.Store.Meter
import Wildflow.Proof.Billing.Reservation

/-!
# What a subscription's usage stands for

`amount_used` is one counter for all requests. Next to it, a ledger keeps what each request has consumed since the last
reset.
-/

namespace Wildflow.Billing
open Wildflow.Store Tx Table List Option
variable {record : BillingReservationRecord} {delta target : Int} {selected : UserSubscription → Prop}
  {event : MeterEvent String} {plan : SubscriptionPlan} {system : UsageSystem} {current sub : UserSubscription}
  {r : UserSubscription → UserSubscription → Prop}

inductive UsageStep where
  | reserve (requestId : String) (userId tokenId amount : Int) (unlimitedToken : Bool)
  | preConsume (requestId : String) (userId amount : Int)
  | append (requestId : String) (delta : Int)
  | markProviderStarted (requestId : String)
  | settle (requestId : String) (delta : Int)
  | release (requestId : String)
  | releaseUnsent (requestId : String)
  | refund (requestId : String)
  | resetDue (limit : Int)
  | adminResetUser (userId planId : Int) (advanceResetTime : Bool)
  | adminResetPlan (planId : Int) (advanceResetTime : Bool)
  | tick (seconds : Nat)

def UsageStep.requestId : UsageStep → String
  | .reserve requestId .. | .preConsume requestId .. | .append requestId _ | .markProviderStarted requestId
  | .settle requestId _ | .release requestId | .releaseUnsent requestId | .refund requestId => requestId
  | _ => ""

def succeeded {α : Type} (outcome : Except BillingError α × DB) : Bool × DB := (outcome.1.isOk, outcome.2)

def UsageStep.run (db : DB) : UsageStep → Bool × DB
  | .reserve requestId userId tokenId amount unlimitedToken =>
    succeeded (reserveSubscriptionBillingQuota db requestId userId tokenId amount unlimitedToken)
  | .preConsume requestId userId amount => succeeded (preConsumeUserSubscription db requestId userId amount)
  | .append requestId delta => succeeded (appendBillingReservation db requestId delta)
  | .markProviderStarted requestId => succeeded (markBillingReservationProviderStarted db requestId)
  | .settle requestId delta => succeeded (settleBillingReservation db requestId delta)
  | .release requestId => succeeded (releaseBillingReservation db requestId)
  | .releaseUnsent requestId => succeeded (releaseUnsentBillingReservation db requestId)
  | .refund requestId => succeeded (refundSubscriptionPreConsume db requestId)
  | .resetDue limit => succeeded (resetDueSubscriptions db limit)
  | .adminResetUser userId planId advanceResetTime =>
    succeeded (adminResetUserSubscriptionsByPlan db userId planId advanceResetTime)
  | .adminResetPlan planId advanceResetTime => succeeded (adminResetPlanSubscriptions db planId advanceResetTime)
  | .tick seconds => (true, { db with now := db.now + seconds })

section
variable (id : Int)

def ResetIsDue (zone : Calendar) (plan : SubscriptionPlan) (now : Int) (sub : UserSubscription) : Prop :=
  ¬(0 < sub.nextResetTime ∧ now < sub.nextResetTime) ∧ normalizeResetPeriod plan.quotaResetPeriod ≠ .never ∧
    0 < (resetStart zone plan sub).next ∧ (resetStart zone plan sub).next ≤ now

instance (zone : Calendar) (plan : SubscriptionPlan) (now : Int) (sub : UserSubscription) :
    Decidable (ResetIsDue zone plan now sub) := by unfold ResetIsDue; infer_instance

def dueResets (before after : DB) : List (MeterEvent String) :=
  match before.userSubscriptions.find id, after.userSubscriptions.find id with
  | some old, some new =>
    match before.plans.find old.planId with
    | some plan =>
      if ResetIsDue before.zone plan before.now old ∧ new.lastResetTime ≠ old.lastResetTime then [.reset] else []
    | none => []
  | _, _ => []

def newCharges (requestId : String) (before after : DB) : List (MeterEvent String) :=
  match before.preConsumeRecords.find requestId, after.preConsumeRecords.find requestId with
  | none, some record =>
    if record.userSubscriptionId = id then [.charge requestId record.preConsumed.toNat] else []
  | _, _ => []

def DB.fundedBy (db : DB) (requestId : String) : Bool :=
  match db.reservations.find requestId with
  | some record => record.source = .subscription ∧ record.userSubscriptionId = id ∧ record.Open
  | none => false

def DB.preConsumedFrom (db : DB) (requestId : String) : Nat :=
  match db.preConsumeRecords.find requestId with
  | some record =>
    if record.status = .consumed ∧ record.userSubscriptionId = id then record.preConsumed.toNat else 0
  | none => 0

instance (record : BillingReservationRecord) (reservedOnly : Bool) : Decidable (record.Kept reservedOnly) := by
  unfold BillingReservationRecord.Kept; infer_instance

def DB.heldOf (db : DB) (requestId : String) (reservedOnly : Bool) : Nat :=
  match db.reservations.find requestId with
  | some record =>
    if record.source = .subscription ∧ ¬record.Kept reservedOnly then
      db.preConsumedFrom id record.requestId +
        if record.userSubscriptionId = id then record.topUpAmount.toNat else 0
    else 0
  | none => 0

def UsageStep.back (db : DB) : UsageStep → Nat
  | .settle requestId delta => if db.fundedBy id requestId then (-delta).toNat else 0
  | .release requestId => db.heldOf id requestId false
  | .releaseUnsent requestId => db.heldOf id requestId true
  | .refund requestId => db.preConsumedFrom id requestId
  | _ => 0

def UsageStep.events (before : DB) (step : UsageStep) (ok : Bool) (after : DB) : List (MeterEvent String) :=
  match step with
  | .reserve requestId .. | .preConsume requestId .. =>
    dueResets id before after ++ newCharges id requestId before after
  | .append requestId delta =>
    if ok then [.charge requestId (if before.fundedBy id requestId then delta.toNat else 0)] else []
  | .settle requestId delta =>
    if ok then
      [.charge requestId (if before.fundedBy id requestId then delta.toNat else 0),
        .giveBack requestId (step.back id before)]
    else []
  | .release requestId | .releaseUnsent requestId | .refund requestId =>
    if ok then [.giveBack requestId (step.back id before)] else []
  | .resetDue _ => dueResets id before after
  | .adminResetUser userId planId _ =>
    match before.userSubscriptions.find id with
    | some sub => if ok ∧ sub.userId = userId ∧ sub.OfPlan planId before.now then [.reset] else []
    | none => []
  | .adminResetPlan planId _ =>
    match before.userSubscriptions.find id with
    | some sub => if ok ∧ sub.OfPlan planId before.now then [.reset] else []
    | none => []
  | .markProviderStarted _ | .tick _ => []

end

structure UsageSystem where
  db : DB
  consumed : List (String × Nat)

section
variable (id : Int) (system : UsageSystem)

def applyUsageStep (step : UsageStep) : UsageSystem :=
  let outcome := step.run system.db
  { db := outcome.2
    consumed := runSteps MeterEvent.post system.consumed (step.events id system.db outcome.1 outcome.2) }

def UsageSystem.Balanced : Prop :=
  ∃ sub, system.db.userSubscriptions.find id = some sub ∧ sub.amountUsed = total system.consumed

/-- The step gives back what its own request has consumed since the last reset, or no other has consumed since. -/
def UsageStep.Covered (step : UsageStep) : Prop :=
  step.back id system.db ≤ own step.requestId system.consumed ∨ others step.requestId system.consumed = 0

end

instance (id : Int) (system : UsageSystem) (step : UsageStep) : Decidable (step.Covered id system) := by
  unfold UsageStep.Covered; infer_instance

theorem resetDue_usage {zone : Calendar} {now : Int} (reset : resetDue zone plan now sub = some current) :
    ResetIsDue zone plan now sub ∧ current.amountUsed = 0 ∧ current.lastResetTime ≠ sub.lastResetTime ∨
      ¬ResetIsDue zone plan now sub ∧ current.amountUsed = sub.amountUsed := by
  unfold resetDue at reset
  split at reset
  · rename_i future
    cases reset
    exact .inr ⟨fun due => due.1 future, rfl⟩
  split at reset
  · rename_i never
    cases reset
    exact .inr ⟨fun due => due.2.1 never, rfl⟩
  rename_i past periodic
  obtain ⟨cursor, ended, rfl⟩ := map_eq_some_iff.mp reset
  by_cases entered : 0 < (resetStart zone plan sub).next ∧ (resetStart zone plan sub).next ≤ now
  · refine .inl ⟨⟨past, periodic, entered⟩, ?_⟩
    obtain ⟨next, stopped, reached⟩ := catchUpResets_some (resetStart_next zone plan sub) ended
    rcases reached with rfl | ⟨advanced, pos⟩
    · exact absurd entered stopped
    rw [UserSubscription.afterResets, if_pos advanced]
    refine ⟨rfl, ?_⟩
    -- From the same base the loop would have gone on.
    intro unmoved
    have base : cursor.base = sub.lastResetTime := unmoved
    have start : (resetStart zone plan sub).next = cursor.next := by
      rw [next, base, resetStart_next]
      have later : (resetStart zone plan sub).base = sub.lastResetTime := if_neg (by omega)
      rw [later]
    rw [start] at entered
    exact stopped entered
  · refine .inr ⟨fun due => entered due.2.2, ?_⟩
    unfold catchUpResets at ended
    rw [if_neg entered] at ended
    cases ended
    have unmoved : (resetStart zone plan sub).advanced = false := rfl
    grind [UserSubscription.afterResets]

section
variable {id : Int} {before after : DB} {sub : UserSubscription}

def DB.ResetTo (db : DB) (sub current : UserSubscription) : Prop :=
  current = sub ∨ ∃ plan, db.plans.find sub.planId = some plan ∧ resetDue db.zone plan db.now sub = some current

theorem count_dueResets {row : UserSubscription} (found : before.userSubscriptions.find id = some sub)
    (stored : after.userSubscriptions.find id = some row) (same : row.lastResetTime = current.lastResetTime)
    (reset : before.ResetTo sub current) :
    runSteps MeterEvent.count sub.amountUsed (dueResets id before after) = current.amountUsed := by
  unfold dueResets
  rw [found, stored]
  rcases reset with rfl | ⟨plan, planned, reset⟩
  · have still : ∀ plan, ¬(ResetIsDue before.zone plan before.now current ∧ row.lastResetTime ≠ current.lastResetTime) :=
      fun _ moved => moved.2 same
    simp only [still, if_false]
    cases before.plans.find current.planId <;> rfl
  · simp only [planned]
    rcases resetDue_usage reset with ⟨due, emptied, moved⟩ | ⟨idle, kept⟩
    · rw [if_pos ⟨due, by rw [same]; exact moved⟩, emptied]
      rfl
    · rw [if_neg fun both => idle both.1, kept]
      rfl

theorem Refreshed.row (refreshed : Refreshed before after.userSubscriptions)
    (found : before.userSubscriptions.find id = some sub) :
    ∃ current, after.userSubscriptions.find id = some current ∧ before.ResetTo sub current := by
  rcases refreshed id with same | ⟨row, plan, current, place, planned, reset, stored⟩
  · exact ⟨sub, same.trans found, .inl rfl⟩
  · obtain rfl := mem_unique found place
    exact ⟨current, stored, .inr ⟨plan, planned, reset⟩⟩

end

def Metered (id : Int) (before after : DB) (events : List (MeterEvent String)) : Prop :=
  ∀ sub, before.userSubscriptions.find id = some sub → 0 ≤ sub.amountUsed →
    ∃ row, after.userSubscriptions.find id = some row ∧
      row.amountUsed = runSteps MeterEvent.count sub.amountUsed events

def UsageStep.Metered (id : Int) (db : DB) (step : UsageStep) : Prop :=
  Billing.Metered id db (step.run db).2 (step.events id db (step.run db).1 (step.run db).2)

def DB.Uses (db : DB) (id used : Int) : Prop :=
  ∃ row, db.userSubscriptions.find id = some row ∧ row.amountUsed = used

section
variable {id : Int} {db db' : DB} {requestId : String}

theorem Metered.same (id : Int) (db : DB) : Metered id db db [] :=
  fun sub found _ => ⟨sub, found, rfl⟩

theorem Metered.refreshed (refreshed : Refreshed db db'.userSubscriptions) :
    Metered id db db' (dueResets id db db') := by
  intro sub found _
  obtain ⟨current, stored, reset⟩ := refreshed.row found
  exact ⟨current, stored, (count_dueResets found stored rfl reset).symm⟩

theorem newCharges_same (id : Int) (requestId : String) (db : DB) : newCharges id requestId db db = [] := by
  unfold newCharges
  cases db.preConsumeRecords.find requestId <;> rfl

theorem Metered.unmoved (requestId : String) :
    Metered id db db (dueResets id db db ++ newCharges id requestId db db) := by
  rw [newCharges_same, append_nil]
  exact Metered.refreshed (Refreshed.refl db)

theorem dueResets_congr {other other' : DB} (rows : other.userSubscriptions = db.userSubscriptions)
    (plans : other.plans = db.plans) (zone : other.zone = db.zone) (now : other.now = db.now)
    (after : other'.userSubscriptions = db'.userSubscriptions) :
    dueResets id other other' = dueResets id db db' := by
  unfold dueResets
  rw [rows, plans, zone, now, after]

theorem newCharges_congr {other other' : DB} (records : other.preConsumeRecords = db.preConsumeRecords)
    (after : other'.preConsumeRecords = db'.preConsumeRecords) :
    newCharges id requestId other other' = newCharges id requestId db db' := by
  unfold newCharges
  rw [records, after]

theorem Metered.preConsumed {uid amt : Int} {res : SubscriptionPreConsumeResult}
    (ran : (preConsumeUserSubscriptionTx requestId uid amt).run db = .ok (res, db')) :
    Metered id db db' (dueResets id db db' ++ newCharges id requestId db db') := by
  cases known : db.preConsumeRecords.find requestId with
  | some record =>
    obtain ⟨rfl, _⟩ := preConsumeUserSubscriptionTx_known known ran
    exact Metered.unmoved requestId
  | none =>
    obtain ⟨pos, t, origin, chosen, _, paid, _, rfl⟩ := preConsumeUserSubscriptionTx_fresh known ran
    intro sub found _
    have written : (db.preConsumeRecords.put (newPreConsume requestId uid amt chosen db.now)).find requestId =
        some (newPreConsume requestId uid amt chosen db.now) := find_put_self _ _
    rw [runSteps_append]
    by_cases mine : chosen.id = id
    · obtain ⟨plan, planned, reset⟩ := paid.reset
      have sameId := (resetDue_keeps reset).1
      obtain rfl : sub = origin := by
        rw [← mine, sameId, paid.found] at found
        exact (Option.some.inj found).symm
      have stored : (t.put (chosen.withUsed (chosen.amountUsed + amt))).find id =
          some (chosen.withUsed (chosen.amountUsed + amt)) := by
        rw [← mine]
        exact find_put_self _ (chosen.withUsed _)
      refine ⟨_, stored, ?_⟩
      have unmoved : (chosen.withUsed (chosen.amountUsed + amt)).lastResetTime = chosen.lastResetTime := rfl
      rw [count_dueResets found stored unmoved (.inr ⟨plan, planned, reset⟩)]
      simp only [newCharges, known, written]
      rw [if_pos (show (newPreConsume requestId uid amt chosen db.now).userSubscriptionId = id from mine)]
      show chosen.amountUsed + amt = chosen.amountUsed + (amt.toNat : Int)
      omega
    · have other : (t.put (chosen.withUsed (chosen.amountUsed + amt))).find id = t.find id :=
        find_put_of_ne _ _ mine
      have refreshed : Refreshed db { db with userSubscriptions := t }.userSubscriptions := paid.refreshed
      obtain ⟨current, inTable, reset⟩ := refreshed.row found
      have stored := other.trans inTable
      refine ⟨current, stored, ?_⟩
      rw [count_dueResets found stored rfl reset]
      simp only [newCharges, known, written]
      rw [if_neg (show ¬(newPreConsume requestId uid amt chosen db.now).userSubscriptionId = id from mine)]
      rfl

variable {sub : UserSubscription} {u : Unit}

theorem postConsume_row (ran : (postConsumeUserSubscriptionDeltaTx target delta).run db = .ok (u, db'))
    (found : db.userSubscriptions.find id = some sub) :
    db'.Uses id (if target = id then max (sub.amountUsed + delta) 0 else sub.amountUsed) := by
  obtain ⟨paid, place, _, rfl⟩ := postConsumeUserSubscriptionDeltaTx_ok.mp ran
  have key : paid.id = target := key_of_find place
  by_cases mine : target = id
  · subst mine
    obtain rfl := mem_unique found place
    refine ⟨sub.shifted delta, ?_, by rw [if_pos rfl]; rfl⟩
    rw [← key]
    exact find_put_self _ (sub.shifted delta)
  · refine ⟨sub, ?_, by rw [if_neg mine]⟩
    have other : (paid.shifted delta).id ≠ id := by
      rw [show (paid.shifted delta).id = target from key]
      exact mine
    exact (find_put_of_ne _ _ other).trans found

theorem refundPreConsume_row (ran : (refundSubscriptionPreConsumeTx requestId).run db = .ok (u, db'))
    (found : db.userSubscriptions.find id = some sub) (nonneg : 0 ≤ sub.amountUsed) :
    db'.Uses id (max (sub.amountUsed - db.preConsumedFrom id requestId) 0) := by
  obtain ⟨record, place, eff⟩ := refundSubscriptionPreConsumeTx_ok ran
  unfold DB.preConsumedFrom
  simp only [place]
  by_cases refunded : record.status = .refunded
  · rw [refundSubscriptionPreConsumeTx_refunded place refunded] at ran
    cases ran
    refine ⟨sub, found, ?_⟩
    rw [if_neg fun both => by rw [refunded] at both; cases both.1]
    omega
  have consumed : record.status = .consumed := by
    cases status : record.status with
    | consumed => rfl
    | refunded => exact absurd status refunded
  rcases eff with ⟨closed, _⟩ | ⟨db₁, back, rfl⟩
  · exact absurd closed refunded
  unfold returnPreConsumed at back
  split at back
  · obtain ⟨row, stored, used⟩ := postConsume_row back found
    refine ⟨row, stored, ?_⟩
    rw [used]
    by_cases mine : record.userSubscriptionId = id
    · rw [if_pos mine, if_pos ⟨consumed, mine⟩]
      omega
    · rw [if_neg mine, if_neg fun both => mine both.2]
      omega
  · obtain ⟨_, rfl⟩ := run_pure_ok.mp back
    refine ⟨sub, found, ?_⟩
    split <;> omega

theorem releaseSource_row (src : record.source = .subscription)
    (ran : (releaseSource record).run db = .ok (u, db')) (found : db.userSubscriptions.find id = some sub)
    (nonneg : 0 ≤ sub.amountUsed) :
    db'.Uses id (max (sub.amountUsed - ((db.preConsumedFrom id record.requestId +
      if record.userSubscriptionId = id then record.topUpAmount.toNat else 0 : Nat) : Int)) 0) := by
  unfold releaseSource at ran
  simp only [src, run_bind_ok] at ran
  obtain ⟨_, db₁, back, rest⟩ := ran
  obtain ⟨first, stored, used⟩ := refundPreConsume_row back found nonneg
  split at rest
  · obtain ⟨row, final, usedFinal⟩ := postConsume_row rest stored
    refine ⟨row, final, ?_⟩
    rw [usedFinal, used]
    split <;> omega
  · obtain ⟨_, rfl⟩ := run_pure_ok.mp rest
    refine ⟨first, stored, ?_⟩
    rw [used]
    split <;> omega

theorem settleSource_row (ne : delta ≠ 0)
    (ran : (settleSource record delta).run db = .ok (u, db')) (found : db.userSubscriptions.find id = some sub) :
    db'.Uses id (if record.source = .subscription ∧ record.userSubscriptionId = id then
      max (sub.amountUsed + delta) 0 else sub.amountUsed) := by
  unfold settleSource at ran
  split at ran
  · rename_i wallet
    obtain ⟨_, rfl⟩ := (adjustUserQuotaDeltaTx_ok ne).mp ran
    exact ⟨sub, found, by simp [wallet]⟩
  · grind [postConsume_row]

theorem resetDueSubscriptionTx_ok (ran : (resetDueSubscriptionTx target plan).run db = .ok (u, db')) :
    db' = db ∨ ∃ locked current, db.userSubscriptions.find target = some locked ∧
      resetDue db.zone plan db.now locked = some current ∧ db' = db.putSubscription current := by
  unfold resetDueSubscriptionTx at ran
  simp only [run_bind_ok, run_read_ok] at ran
  obtain ⟨_, _, ⟨rfl, rfl⟩, ran⟩ := ran
  split at ran
  · obtain ⟨_, rfl⟩ := run_pure_ok.mp ran
    exact .inl rfl
  rename_i locked filtered
  obtain ⟨found, _⟩ := filter_eq_some_iff.mp filtered
  simp only [run_bind_ok, run_pure_ok] at ran
  obtain ⟨current, _, reset, _, rfl⟩ := ran
  obtain ⟨due, rfl⟩ := maybeReset_ok.mp reset
  exact .inr ⟨locked, current, found, due, rfl⟩

def PlansKept (db : DB) (subs : List UserSubscription) : Prop :=
  ∀ selected ∈ subs, ∀ row, db.userSubscriptions.find selected.id = some row → row.planId = selected.planId

theorem resetEachDue_refreshed (subs : List UserSubscription) (count : Int) (db : DB) (plans : PlansKept db subs) :
    ∃ table, (resetEachDue db subs count).2 = { db with userSubscriptions := table } ∧ Refreshed db table := by
  induction subs generalizing db count with
  | nil => exact ⟨db.userSubscriptions, rfl, Refreshed.refl db⟩
  | cons selected rest ih =>
    have later : PlansKept db rest := fun row mem => plans row (List.mem_cons_of_mem _ mem)
    unfold resetEachDue
    rcases commit_cases (getSubscriptionPlanByIdTx selected.planId) db with ⟨plan, _, looked, out⟩ | ⟨_, _, out⟩
    · obtain ⟨planned, rfl⟩ := getSubscriptionPlanByIdTx_ok looked
      simp only [out]
      rcases commit_cases (resetDueSubscriptionTx selected.id plan) db with ⟨_, db₁, ran, reset⟩ | ⟨_, _, reset⟩
      · simp only [reset]
        rcases resetDueSubscriptionTx_ok ran with rfl | ⟨locked, current, found, due, rfl⟩
        · exact ih _ _ later
        have key : locked.id = selected.id := key_of_find found
        obtain ⟨sameId, _, samePlan, _⟩ := resetDue_keeps due
        have same := plans selected List.mem_cons_self locked found
        have still : PlansKept (db.putSubscription current) rest := by
          intro row mem stored located
          have before := later row mem
          by_cases mine : current.id = row.id
          · obtain rfl : current = stored := by
              have now : (db.putSubscription current).userSubscriptions.find row.id = some current := by
                rw [← mine]
                exact find_put_self _ current
              exact mem_unique now located
            rw [samePlan]
            exact before locked (by rw [← mine, sameId, key]; exact found)
          · exact before stored ((find_put_of_ne _ current mine).symm.trans located)
        obtain ⟨table, final, refreshed⟩ := ih _ (db.putSubscription current) still
        exact ⟨table, final, Refreshed.trans (by rw [key]; exact found) (by rw [same]; exact planned) due refreshed⟩
      · simp only [reset]
        exact ⟨db.userSubscriptions, rfl, Refreshed.refl db⟩
    · simp only [out]
      exact ih _ _ later

theorem resetDueSubscriptions_refreshed (db : DB) (limit : Int) :
    Refreshed db (resetDueSubscriptions db limit).2.userSubscriptions := by
  have plans : PlansKept db (dueSubscriptions db limit) := by
    intro selected mem row found
    have inRows : selected ∈ db.userSubscriptions.rows := by
      have inFiltered := mem_of_mem_take mem
      rw [mem_insertionSort] at inFiltered
      exact (mem_filter.mp inFiltered).1
    rw [mem_unique found (mem_rows.mp inRows)]
  obtain ⟨table, final, refreshed⟩ := resetEachDue_refreshed (dueSubscriptions db limit) 0 db plans
  unfold resetDueSubscriptions
  rw [final]
  exact refreshed

theorem resetByAdmin_empties (zone : Calendar) (plan : SubscriptionPlan) (now : Int) (advance : Bool)
    (sub : UserSubscription) : (sub.resetByAdmin zone plan now advance).id = sub.id ∧
      (sub.resetByAdmin zone plan now advance).amountUsed = 0 := by
  cases advance <;> exact ⟨rfl, rfl⟩

theorem resetUserSubscriptionTx_run (db : DB) (sub : UserSubscription) (plan : SubscriptionPlan) (now : Int)
    (advance : Bool) : (resetUserSubscriptionTx sub plan now advance).run db =
      .ok ((), db.putSubscription (sub.resetByAdmin db.zone plan now advance)) := by
  rw [resetUserSubscriptionTx, run_bind_of_ok (run_read db), saveUserSubscription_run]

theorem resetEachSubscriptionTx_rows (plan : SubscriptionPlan) (now : Int) (advance : Bool)
    (subs : List UserSubscription) (db : DB) :
    ∃ t, (resetEachSubscriptionTx plan now advance subs).run db = .ok ((), { db with userSubscriptions := t }) ∧
      ∀ id, (∃ sub ∈ subs, sub.id = id ∧ ∃ row, t.find id = some row ∧ row.amountUsed = 0) ∨
        ((∀ sub ∈ subs, sub.id ≠ id) ∧ t.find id = db.userSubscriptions.find id) := by
  induction subs generalizing db with
  | nil => exact ⟨db.userSubscriptions, rfl, fun id => .inr ⟨fun _ mem => (not_mem_nil mem).elim, rfl⟩⟩
  | cons sub rest ih =>
    obtain ⟨key, none⟩ := resetByAdmin_empties db.zone plan now advance sub
    have first := resetUserSubscriptionTx_run db sub plan now advance
    generalize sub.resetByAdmin db.zone plan now advance = emptied at key none first
    obtain ⟨t, ran, rows⟩ := ih (db.putSubscription emptied)
    refine ⟨t, ?_, ?_⟩
    · rw [resetEachSubscriptionTx, run_bind_of_ok first, ran]
      rfl
    intro id
    rcases rows id with ⟨later, mem, same, row⟩ | ⟨absent, kept⟩
    · exact .inl ⟨later, List.mem_cons_of_mem _ mem, same, row⟩
    by_cases mine : sub.id = id
    · refine .inl ⟨sub, List.mem_cons_self, mine, emptied, kept.trans ?_, none⟩
      rw [← mine, ← key]
      exact find_put_self _ emptied
    · refine .inr ⟨?_, kept.trans (find_put_of_ne _ emptied (by rw [key]; exact mine))⟩
      intro row mem
      rcases mem_cons.mp mem with rfl | later
      · exact mine
      · exact absent row later

theorem Metered.adminReset [DecidablePred selected] {t : Table UserSubscription.id} {subs : List UserSubscription}
    (members : ∀ sub, sub ∈ subs ↔ db.userSubscriptions.find sub.id = some sub ∧ selected sub)
    (rows : ∀ id, (∃ sub ∈ subs, sub.id = id ∧ ∃ row, t.find id = some row ∧ row.amountUsed = 0) ∨
      ((∀ sub ∈ subs, sub.id ≠ id) ∧ t.find id = db.userSubscriptions.find id)) :
    Metered id db { db with userSubscriptions := t } (match db.userSubscriptions.find id with
        | some sub => if selected sub then [.reset] else []
        | none => []) := by
  intro sub found _
  have key : sub.id = id := key_of_find found
  simp only [found]
  rcases rows id with ⟨row, mem, same, stored⟩ | ⟨absent, kept⟩
  · obtain ⟨place, picked⟩ := (members row).mp mem
    rw [same, found] at place
    cases place
    rw [if_pos picked]
    obtain ⟨emptied, stored, none⟩ := stored
    exact ⟨emptied, stored, none⟩
  · have passed : ¬selected sub := by
      intro picked
      exact absent sub ((members sub).mpr ⟨by rw [key]; exact found, picked⟩) key
    rw [if_neg passed]
    exact ⟨sub, kept.trans found, rfl⟩

end

section
variable {id : Int} {db : DB} {requestId : String}

theorem fundedBy_of_find (found : db.reservations.find requestId = some record) :
    db.fundedBy id requestId = decide (record.source = .subscription ∧ record.userSubscriptionId = id ∧ record.Open) := by
  simp [DB.fundedBy, found]

theorem Metered.reserve (uid tid amt : Int) (unlimited : Bool) (after : DB)
    (out : (reserveSubscriptionBillingQuota db requestId uid tid amt unlimited).2 = after) :
    Metered id db after (dueResets id db after ++ newCharges id requestId db after) := by
  subst out
  rcases reserveSubscriptionBillingQuota_cases db requestId uid tid amt unlimited with
    ⟨_, failed⟩ | ⟨_, _, _, _, _, ran, out⟩
  · rw [failed]
    exact Metered.unmoved requestId
  rw [out]
  cases found : db.reservations.find requestId with
  | some record =>
    obtain ⟨_, consumed, _⟩ := (reserveSubscriptionBillingQuotaTx_known found tid unlimited).mp ran
    exact Metered.preConsumed consumed
  | none =>
    obtain ⟨_, db₁, consumed, _, rfl⟩ := reserveSubscriptionBillingQuotaTx_claimed found ran
    intro sub held nonneg
    obtain ⟨row, stored, used⟩ := @Metered.preConsumed id _ _ _ _ _ _ consumed sub held nonneg
    refine ⟨row, stored, used.trans ?_⟩
    exact congrArg (runSteps MeterEvent.count sub.amountUsed)
      (congrArg₂ (· ++ ·) (dueResets_congr rfl rfl rfl rfl rfl) (newCharges_congr rfl rfl))

theorem Metered.preConsume (uid amt : Int) (after : DB)
    (out : (preConsumeUserSubscription db requestId uid amt).2 = after) :
    Metered id db after (dueResets id db after ++ newCharges id requestId db after) := by
  subst out
  unfold preConsumeUserSubscription
  split
  · exact Metered.unmoved requestId
  split
  · exact Metered.unmoved requestId
  split
  · exact Metered.unmoved requestId
  refine commit_elim (commit _ db) rfl (fun _ => Metered.unmoved requestId) fun _ db' ran => ?_
  exact Metered.preConsumed ran

section
variable (id : Int) (db : DB) (requestId : String)

theorem Metered.append (delta : Int) : (UsageStep.append requestId delta).Metered id db := by
  simp only [UsageStep.Metered, UsageStep.run, UsageStep.events, appendBillingReservation]
  split
  · rename_i idle
    intro sub found _
    refine ⟨sub, found, ?_⟩
    have none : delta.toNat = 0 := by omega
    show sub.amountUsed = sub.amountUsed + ((if db.fundedBy id requestId then delta.toNat else 0 : Nat) : Int)
    rw [none]
    simp
  split
  · exact Metered.same id db
  rename_i pos _
  refine commit_elim (commit _ db) rfl (fun _ => Metered.same id db) fun _ db' ran => ?_
  obtain ⟨record, held⟩ := found_of_bind ran
  obtain ⟨reserved, db₁, funded, db₂, paid, rfl⟩ := (appendBillingReservationTx_ok held).mp ran
  obtain ⟨_, rfl⟩ := (reserveTokenQuotaTx_ok (by omega : delta ≠ 0)).mp paid
  intro sub found nonneg
  obtain ⟨row, stored, used⟩ := settleSource_row (by omega) (settleSource_of_append (by omega) funded) found
  refine ⟨row, stored, ?_⟩
  have opened : record.Open := .inl reserved
  show row.amountUsed = sub.amountUsed + ((if db.fundedBy id requestId then delta.toNat else 0 : Nat) : Int)
  rw [used, fundedBy_of_find held]
  simp only [opened, and_true, decide_eq_true_eq]
  split <;> omega

theorem Metered.settle (delta : Int) : (UsageStep.settle requestId delta).Metered id db := by
  simp only [UsageStep.Metered, UsageStep.run, UsageStep.events, settleBillingReservation]
  split
  · exact Metered.same id db
  refine commit_elim (commit _ db) rfl (fun _ => Metered.same id db) fun _ db' ran => ?_
  intro sub found nonneg
  suffices moved : db'.Uses id (if db.fundedBy id requestId then max (sub.amountUsed + delta) 0 else sub.amountUsed) by
    obtain ⟨row, stored, used⟩ := moved
    refine ⟨row, stored, ?_⟩
    show row.amountUsed = max (sub.amountUsed + ((if db.fundedBy id requestId then delta.toNat else 0 : Nat) : Int) -
      ((if db.fundedBy id requestId then (-delta).toNat else 0 : Nat) : Int)) 0
    rw [used]
    split <;> omega
  obtain ⟨record, held⟩ := found_of_bind ran
  rw [fundedBy_of_find held]
  by_cases opened : record.Open
  · simp only [opened, and_true, decide_eq_true_eq]
    rw [settleBillingReservationTx_open held opened] at ran
    split at ran
    · rename_i zero
      subst ran zero
      refine ⟨sub, found, ?_⟩
      split <;> omega
    · rename_i ne
      obtain ⟨db₁, funded, paid⟩ := ran
      obtain ⟨_, rfl⟩ := adjustTokenQuotaDeltaTx_ok.mp paid
      have moved := settleSource_row ne funded found
      exact moved
  · rw [settleBillingReservationTx_closed held opened] at ran
    cases ran
    exact ⟨sub, found, by simp [opened]⟩

theorem Metered.released (reservedOnly : Bool) :
    Metered id db (releaseReservation db requestId reservedOnly).2
      (if (releaseReservation db requestId reservedOnly).1.isOk then
        [.giveBack requestId (db.heldOf id requestId reservedOnly)] else []) := by
  unfold releaseReservation
  split
  · exact Metered.same id db
  refine commit_elim (commit _ db) rfl (fun _ => Metered.same id db) fun _ db' ran => ?_
  intro sub found nonneg
  suffices moved : db'.Uses id (max (sub.amountUsed - (db.heldOf id requestId reservedOnly : Int)) 0) from moved
  obtain ⟨record, held⟩ := found_of_bind ran
  unfold DB.heldOf
  simp only [held]
  by_cases kept : record.Kept reservedOnly
  · rw [releaseBillingReservationTx_kept held kept] at ran
    cases ran
    exact ⟨sub, found, by simp [kept, nonneg]⟩
  · obtain ⟨_, db₁, funded, rfl⟩ := (releaseBillingReservationTx_open held kept).mp ran
    cases src : record.source with
    | wallet =>
      unfold releaseSource at funded
      rw [src] at funded
      obtain rfl := refundUser_ok.mp funded
      rw [if_neg (by simp)]
      exact ⟨sub, found, by omega⟩
    | subscription =>
      rw [if_pos ⟨rfl, kept⟩]
      have moved := releaseSource_row src funded found nonneg
      exact moved

theorem Metered.refund : (UsageStep.refund requestId).Metered id db := by
  simp only [UsageStep.Metered, UsageStep.run, UsageStep.events, refundSubscriptionPreConsume]
  split
  · exact Metered.same id db
  refine commit_elim (commit _ db) rfl (fun _ => Metered.same id db) fun _ db' ran => ?_
  exact fun sub found nonneg => refundPreConsume_row ran found nonneg

end

theorem mem_insertionSort_filter [DecidableRel r] [DecidablePred selected] :
    sub ∈ (db.userSubscriptions.rows.filter fun sub => selected sub).insertionSort r ↔
      db.userSubscriptions.find sub.id = some sub ∧ selected sub := by
  rw [mem_insertionSort, mem_filter, mem_rows]
  simp

theorem Metered.adminIdle (id : Int) (db : DB) (selected : UserSubscription → Prop) [DecidablePred selected] :
    Metered id db db (match db.userSubscriptions.find id with
      | some sub => if false = true ∧ selected sub then [.reset] else []
      | none => []) := by
  intro sub found _
  exact ⟨sub, found, by simp [found]⟩

theorem Metered.adminCommit {α : Type} [DecidablePred selected] [DecidableRel r] {tx : BillingTx α} (advance : Bool)
    (resets : ∀ res after, tx.run db = .ok (res, after) → ∃ plan, (resetEachSubscriptionTx plan db.now advance
      ((db.userSubscriptions.rows.filter fun sub => selected sub).insertionSort r)).run db = .ok ((), after)) :
    Metered id db (tx.commit db).2 (match db.userSubscriptions.find id with
      | some sub => if (tx.commit db).1.isOk = true ∧ selected sub then [.reset] else []
      | none => []) := by
  refine commit_elim (commit _ db) rfl (fun _ => Metered.adminIdle id db selected) fun res after ran => ?_
  obtain ⟨plan, reset⟩ := resets res after ran
  obtain ⟨t, emptied, rows⟩ := resetEachSubscriptionTx_rows plan db.now advance _ db
  rw [emptied] at reset
  cases reset
  have metered : Metered id db _ _ := Metered.adminReset (fun sub => mem_insertionSort_filter) rows
  simpa [Except.isOk, Except.toBool] using metered

theorem run_planned {α : Type} {planId : Int} {next : SubscriptionPlan → BillingTx α} {out : α × DB}
    (ran : (getSubscriptionPlanByIdTx planId >>= next).run db = .ok out) :
    ∃ plan, plan.id = planId ∧ (next plan).run db = .ok out := by
  obtain ⟨plan, _, looked, ran⟩ := run_bind_ok.mp ran
  obtain ⟨planned, rfl⟩ := getSubscriptionPlanByIdTx_ok looked
  exact ⟨plan, key_of_find planned, ran⟩

theorem Metered.adminResetUser (id : Int) (db : DB) (uid planId : Int) (advance : Bool) :
    (UsageStep.adminResetUser uid planId advance).Metered id db := by
  simp only [UsageStep.Metered, UsageStep.run, adminResetUserSubscriptionsByPlan]
  split
  · exact Metered.adminIdle id db _
  refine Metered.adminCommit (r := EndsBefore) advance fun res after ran => ?_
  obtain ⟨plan, rfl, done⟩ := run_planned ran
  simp only [adminResetUserSubscriptionsByPlanTx, run_bind_ok, run_read_ok, run_ensure_ok, run_pure_ok] at done
  obtain ⟨_, _, ⟨rfl, rfl⟩, _, _, ⟨_, rfl⟩, _, _, reset, _, rfl⟩ := done
  exact ⟨plan, reset⟩

theorem Metered.adminResetPlan (id : Int) (db : DB) (planId : Int) (advance : Bool) :
    (UsageStep.adminResetPlan planId advance).Metered id db := by
  simp only [UsageStep.Metered, UsageStep.run, adminResetPlanSubscriptions]
  split
  · exact Metered.adminIdle id db _
  refine Metered.adminCommit (r := UserThenEndsBefore) advance fun res after ran => ?_
  obtain ⟨plan, rfl, done⟩ := run_planned ran
  simp only [adminResetPlanSubscriptionsTx, run_bind_ok, run_read_ok, run_pure_ok] at done
  obtain ⟨_, _, ⟨rfl, rfl⟩, _, _, reset, _, rfl⟩ := done
  exact ⟨plan, reset⟩

theorem UsageStep.metered (id : Int) (db : DB) (step : UsageStep) : step.Metered id db := by
  cases step with
  | reserve requestId uid tid amt unlimited =>
    exact Metered.reserve uid tid amt unlimited _ rfl
  | preConsume requestId uid amt => exact Metered.preConsume uid amt _ rfl
  | append requestId delta => exact Metered.append id db requestId delta
  | markProviderStarted requestId =>
    have same : (markBillingReservationProviderStarted db requestId).2.userSubscriptions = db.userSubscriptions := by
      rcases markBillingReservationProviderStarted_cases db requestId with unchanged | ⟨record, _, _, out⟩
      · rw [unchanged]
      · rw [out]
        rfl
    exact fun sub found _ => ⟨sub, (congrArg (·.find id) same).trans found, rfl⟩
  | settle requestId delta => exact Metered.settle id db requestId delta
  | release requestId => exact Metered.released id db requestId false
  | releaseUnsent requestId => exact Metered.released id db requestId true
  | refund requestId => exact Metered.refund id db requestId
  | resetDue limit => exact Metered.refreshed (resetDueSubscriptions_refreshed db limit)
  | adminResetUser uid planId advance => exact Metered.adminResetUser id db uid planId advance
  | adminResetPlan planId advance => exact Metered.adminResetPlan id db planId advance
  | tick seconds => exact fun sub found _ => ⟨sub, found, rfl⟩

end

section
variable {id : Int}

theorem dueResets_covered {before after : DB} (mem : event ∈ dueResets id before after)
    (charges : List (String × Nat)) : event.Covered charges := by
  grind [dueResets, MeterEvent.Covered]

theorem newCharges_covered {before after : DB} {requestId : String}
    (mem : event ∈ newCharges id requestId before after) (charges : List (String × Nat)) :
    event.Covered charges := by
  grind [newCharges, MeterEvent.Covered]

theorem UsageStep.events_covered {step : UsageStep} (covered : step.Covered id system) (ok : Bool) (after : DB) :
    AllCovered system.consumed (step.events id system.db ok after) := by
  have consumes : ∀ requestId, AllCovered system.consumed
      (dueResets id system.db after ++ newCharges id requestId system.db after) := by
    intro requestId
    apply guarded_of_all
    intro event mem charges
    rcases mem_append.mp mem with reset | charge
    · exact dueResets_covered reset charges
    · exact newCharges_covered charge charges
  have done : ∀ (p : Prop) [Decidable p] events, AllCovered system.consumed events →
      AllCovered system.consumed (if p then events else []) := by
    intro p _ events guarded
    split
    · exact guarded
    · exact trivial
  cases step with
  | reserve requestId uid tid amt unlimited => exact consumes requestId
  | preConsume requestId uid amt => exact consumes requestId
  | append requestId delta => exact done _ _ ⟨trivial, trivial⟩
  | markProviderStarted requestId => exact trivial
  | settle requestId delta =>
    refine done _ _ ⟨trivial, ?_, trivial⟩
    have enough : UsageStep.back id system.db (.settle requestId delta) ≤ own requestId system.consumed ∨
        others requestId system.consumed = 0 := covered
    simp only [MeterEvent.Covered, MeterEvent.post, own_cons, others_cons, if_true]
    omega
  | release requestId => exact done _ _ ⟨covered, trivial⟩
  | releaseUnsent requestId => exact done _ _ ⟨covered, trivial⟩
  | refund requestId => exact done _ _ ⟨covered, trivial⟩
  | resetDue limit => exact guarded_of_all _ _ fun event mem charges => dueResets_covered mem charges
  | adminResetUser uid planId advance =>
    simp only [UsageStep.events]
    split
    · exact done _ _ ⟨trivial, trivial⟩
    · exact trivial
  | adminResetPlan planId advance =>
    simp only [UsageStep.events]
    split
    · exact done _ _ ⟨trivial, trivial⟩
    · exact trivial
  | tick seconds => exact trivial

theorem UsageSystem.Balanced.step {step : UsageStep} (balanced : system.Balanced id)
    (covered : step.Covered id system) : (applyUsageStep id system step).Balanced id := by
  obtain ⟨sub, found, used⟩ := balanced
  obtain ⟨row, stored, moved⟩ := step.metered id system.db sub found (by omega)
  refine ⟨row, stored, moved.trans ?_⟩
  exact count_eq_total used (step.events_covered covered _ _)

theorem usage_is_own_consumption (system : UsageSystem) (start : system.Balanced id) (steps : List UsageStep)
    (covered : Guarded (applyUsageStep id) (fun system step => step.Covered id system) system steps) :
    (runSteps (applyUsageStep id) system steps).Balanced id ∧
      ∀ t ∈ transitions (applyUsageStep id) system steps, t.after.Balanced id := by
  have preserved : ∀ system step, UsageSystem.Balanced id system → UsageStep.Covered id system step →
      UsageSystem.Balanced id (applyUsageStep id system step) := fun _ _ balanced covered => balanced.step covered
  refine ⟨runSteps_invariant preserved steps system start covered, ?_⟩
  exact @transitions_invariant _ _ _ _ _ (fun _ after => UsageSystem.Balanced id after) preserved preserved steps system
    start covered

end

def coveredRefunds : List UsageStep :=
  [.reserve "a" 1 1 10 false, .append "a" 5, .settle "a" (-3), .adminResetPlan 1 true, .reserve "b" 1 1 8 false,
    .reserve "c" 1 1 4 false, .release "b"]

def refundAfterReset : List UsageStep :=
  [.reserve "a" 1 1 10 false, .adminResetPlan 1 true, .reserve "b" 1 1 8 false, .release "a"]

theorem subscribed_balanced : (⟨DB.subscribed, []⟩ : UsageSystem).Balanced 7 :=
  ⟨_, rfl, rfl⟩

theorem usage_is_own_consumption_coveredRefunds :
    (runSteps (applyUsageStep 7) ⟨DB.subscribed, []⟩ coveredRefunds).Balanced 7 ∧
      total (runSteps (applyUsageStep 7) ⟨DB.subscribed, []⟩ coveredRefunds).consumed = 4 := by
  have covered : Guarded (applyUsageStep 7) (fun system step => step.Covered 7 system) ⟨DB.subscribed, []⟩
      coveredRefunds := by decide +kernel
  exact ⟨(usage_is_own_consumption _ subscribed_balanced coveredRefunds covered).1, by decide +kernel⟩

theorem refund_after_reset_lowers_others :
    (⟨DB.subscribed, []⟩ : UsageSystem).Balanced 7 ∧
      (runSteps (applyUsageStep 7) ⟨DB.subscribed, []⟩ refundAfterReset).consumed = [("b", 8)] ∧
      ((runSteps (applyUsageStep 7) ⟨DB.subscribed, []⟩ refundAfterReset).db.userSubscriptions.find 7).map
        (·.amountUsed) = some 0 :=
  ⟨subscribed_balanced, by decide +kernel, by decide +kernel⟩

end Wildflow.Billing

import Wildflow.Proof.Billing.Ledger
import Wildflow.Proof.Billing.OperationLedger
import Wildflow.Proof.Billing.Refundable

/-!
# Open subscription reservations and the cleanup

Every step but the cleanup keeps the pre-consume record of what is open.
-/

namespace Wildflow.Billing
open Wildflow.Store Tx Table Option
variable {olderThanSeconds : Int} {id operationId : String} {operation : WildFlowOperation}

structure StepKept (closed : String → Prop) (db db' : DB) : Prop where
  funds : FundsKept closed db db'
  apart : ∀ id, db.operations.find id = none → db'.operations.find id = none
  reservations : ∀ id record, db'.reservations.find id = some record → record.source = .subscription →
    record.Open → ReservationHeld db' id record ∨ ¬closed id ∧ ∃ before,
      db.reservations.find id = some before ∧ before.source = .subscription ∧ before.Open ∧
      before.userSubscriptionId = record.userSubscriptionId
  operations : ∀ id operation, db'.operations.find id = some operation →
    operation.billingSource = .subscription → operation.billingState = .reserved →
    trimSpace id ≠ "" ∧ db'.HoldsPreConsume id ∨ ¬closed id ∧ ∃ before,
      db.operations.find id = some before ∧ before.billingSource = .subscription ∧
      before.billingState = .reserved
  unlogged : ∀ id operation, db'.operations.find id = some operation → operation.billingState ≠ .refunded →
    db'.billingLog.find (id, .refund) = db.billingLog.find (id, .refund) ∧ ∃ before,
      db.operations.find id = some before ∧ before.billingState ≠ .refunded

abbrev Nothing : String → Prop := fun _ => False

section
variable {closed : String → Prop} {db db' : DB}

namespace FundsKept

theorem untouched (subs : db'.userSubscriptions = db.userSubscriptions)
    (records : db'.preConsumeRecords = db.preConsumeRecords) : FundsKept Nothing db db' := .frame subs records

theorem settleSource {row : BillingReservationRecord} {d : Int} (ne : d ≠ 0) {u : Unit}
    (ran : (settleSource row d).run db = .ok (u, db')) :
    FundsKept closed db db' ∧ db'.reservations = db.reservations ∧ db'.operations = db.operations ∧
      db'.billingLog = db.billingLog := by
  unfold Billing.settleSource at ran
  split at ran
  · obtain ⟨_, rfl⟩ := (adjustUserQuotaDeltaTx_ok ne).mp ran
    exact ⟨FundsKept.frame rfl rfl, rfl, rfl, rfl⟩
  · refine ⟨FundsKept.postConsume ran, ?_⟩
    obtain ⟨_, _, _, rfl⟩ := postConsumeUserSubscriptionDeltaTx_ok.mp ran
    exact ⟨rfl, rfl, rfl⟩

theorem releaseSource {row : BillingReservationRecord} {u : Unit} (ran : (releaseSource row).run db = .ok (u, db')) :
    FundsKept (fun id => row.source = .subscription ∧ id = row.requestId) db db' ∧
      db'.reservations = db.reservations ∧ db'.operations = db.operations ∧ db'.billingLog = db.billingLog := by
  unfold Billing.releaseSource at ran
  split at ran
  · obtain rfl := refundUser_ok.mp ran
    exact ⟨FundsKept.frame rfl rfl, rfl, rfl, rfl⟩
  rename_i src
  rw [run_bind_ok] at ran
  obtain ⟨_, db₁, back, ran⟩ := ran
  have first := (FundsKept.refundPreConsume back).mono fun id (own : id = row.requestId) =>
    (⟨src, own⟩ : row.source = .subscription ∧ id = row.requestId)
  obtain ⟨subs, records, rfl⟩ := refundSubscriptionPreConsumeTx_frame back
  split at ran
  · refine ⟨first.trans (FundsKept.postConsume ran), ?_⟩
    obtain ⟨_, _, _, rfl⟩ := postConsumeUserSubscriptionDeltaTx_ok.mp ran
    exact ⟨rfl, rfl, rfl⟩
  · obtain ⟨_, rfl⟩ := run_pure_ok.mp ran
    exact ⟨first, rfl, rfl, rfl⟩

theorem returnQuota {operation : WildFlowOperation} {actual : Int} {u : Unit}
    (ran : (returnWildFlowQuotaTx operation actual).run db = .ok (u, db')) : FundsKept closed db db' := by
  unfold returnWildFlowQuotaTx at ran
  dsimp only at ran
  split at ran
  · obtain ⟨_, rfl⟩ := run_pure_ok.mp ran
    exact FundsKept.frame rfl rfl
  split at ran
  · obtain rfl := refundUser_ok.mp ran
    exact FundsKept.frame rfl rfl
  · simp only [run_bind_ok, run_read_ok, run_ensure_ok, run_write_ok] at ran
    obtain ⟨_, db₁, back, _, _, ⟨rfl, rfl⟩, _, _, ⟨one, rfl⟩, rfl⟩ := ran
    refine (FundsKept.postConsume back).trans ?_
    rcases updateWhere_cases db₁.preConsumeRecords operation.operationId
      (fun row => row.status = .consumed && row.preConsumed = operation.billingQuota)
      (fun row => { row with preConsumed := actual, updatedAt := db₁.now }) with
      ⟨row, found, holds, new⟩ | ⟨_, new⟩
    · rw [new]
      have used : row.status = .consumed := by
        simp only [Bool.and_eq_true, decide_eq_true_eq] at holds
        exact holds.1
      exact FundsKept.putPreConsume (.inl used) fun linked => linked _ row found
    · rw [new]
      exact FundsKept.frame rfl rfl
  all_goals cases ran

theorem refundSource {u : Unit} (ran : (refundWildFlowSourceTx operation).run db = .ok (u, db')) :
    FundsKept (· = operation.operationId) db db' := by
  unfold refundWildFlowSourceTx at ran
  split at ran
  · exact FundsKept.refundPreConsume ran
  · obtain rfl := refundUser_ok.mp ran
    exact FundsKept.frame rfl rfl
  all_goals
    obtain ⟨_, rfl⟩ := run_pure_ok.mp ran
    exact FundsKept.frame rfl rfl

end FundsKept

namespace StepKept

theorem fundsOnly (funds : FundsKept Nothing db db') (t : db'.reservations = db.reservations)
    (ops : db'.operations = db.operations)
    (log : ∀ id operation, db.operations.find id = some operation → operation.billingState ≠ .refunded →
      db'.billingLog.find (id, .refund) = db.billingLog.find (id, .refund)) : StepKept Nothing db db' := by
  refine ⟨funds, ?_, ?_, ?_, ?_⟩ <;> grind

theorem putReservation (row : BillingReservationRecord) (funds : FundsKept closed db db')
    (t : ∀ id, db'.reservations.find id = if row.requestId = id then some row else db.reservations.find id)
    (ops : db'.operations = db.operations) (log : db'.billingLog = db.billingLog)
    (mine : ∀ id, closed id → id = row.requestId ∧ db.operations.find id = none)
    (own : row.source = .subscription → row.Open → ReservationHeld db' row.requestId row ∨
      ¬closed row.requestId ∧ ∃ before, db.reservations.find row.requestId = some before ∧
        before.source = .subscription ∧ before.Open ∧
        before.userSubscriptionId = row.userSubscriptionId) : StepKept closed db db' := by
  refine ⟨funds, by grind, ?_, by grind, by grind⟩
  intro id other found src opened
  rw [t] at found
  by_cases same : row.requestId = id
  · grind
  · exact .inr ⟨fun shut => same (mine id shut).1.symm, other, by grind, src, opened, rfl⟩

theorem executed (executed : Executed db db') : StepKept Nothing db db' := by
  obtain ⟨events, ops, frame⟩ := executed.frame
  have back : ∀ id after, db'.operations.find id = some after →
      ∃ before, db.operations.find id = some before ∧ BillingKept db.now before after := by
    intro id after found
    obtain ⟨change, kept, looked⟩ := executed.operations id
    rw [looked] at found
    obtain ⟨before, place, rfl⟩ := map_eq_some_iff.mp found
    exact ⟨before, place, kept before⟩
  refine ⟨FundsKept.frame (by rw [frame]) (by rw [frame]), ?_, by grind, ?_, ?_⟩
  · intro id absent
    obtain ⟨change, _, looked⟩ := executed.operations id
    rw [looked, absent]
    rfl
  · intro id after found src reserved
    obtain ⟨before, place, kept⟩ := back id after found
    exact .inr ⟨not_false, before, place, kept.source ▸ src, kept.state ▸ reserved⟩
  · intro id after found open'
    obtain ⟨before, place, kept⟩ := back id after found
    exact ⟨by rw [frame], before, place, kept.state ▸ open'⟩

theorem putOperation (recoverable : Recoverable db) {before : WildFlowOperation}
    (after : WildFlowOperation) (place : db.operations.find after.operationId = some before)
    (unrefunded : before.billingState ≠ .refunded) (funds : FundsKept closed db db')
    (t : db'.reservations = db.reservations) (ops : db'.operations = db.operations.put after)
    (log : ∀ id, id ≠ after.operationId ∨ after.billingState ≠ .refunded →
      db'.billingLog.find (id, .refund) = db.billingLog.find (id, .refund))
    (mine : ∀ id, closed id → id = after.operationId)
    (own : after.billingSource = .subscription → after.billingState = .reserved →
      trimSpace after.operationId ≠ "" ∧ db'.HoldsPreConsume after.operationId) : StepKept closed db db' := by
  refine ⟨funds, by grind, ?_, by grind, by grind⟩
  intro id row found src opened
  rw [t] at found
  refine .inr ⟨?_, row, found, src, opened, rfl⟩
  intro shut
  have apart := (recoverable.reservations id row found src opened).apart
  rw [mine id shut, place] at apart
  cases apart

end StepKept

theorem unrefunded_of_fresh (fresh : operation.billingState = .unset ∨ operation.billingState = .pending) :
    operation.billingState ≠ .refunded := by
  grind

namespace Recoverable
variable (recoverable : Recoverable db)
include recoverable

theorem step (kept : StepKept closed db db') : Recoverable db' := by
  refine ⟨kept.funds.bounded recoverable.bounded, kept.funds.linked recoverable.linked, ?_, ?_, ?_⟩
  · intro id row found src opened
    rcases kept.reservations id row found src opened with
      held | ⟨left, before, place, sourceBefore, openBefore, same⟩
    · exact held
    · have held := recoverable.reservations id before place sourceBefore openBefore
      exact ⟨held.named, kept.funds.held id left held.consumed,
        same ▸ kept.funds.present _ held.present, kept.apart id held.apart⟩
  · grind [id, kept.operations, recoverable.operations, kept.funds.held]
  · grind [id, kept.unlogged, recoverable.unlogged]

theorem reserveWallet (reqId : String) (uid tid amt : Int) (unlimited : Bool) :
    Recoverable (reserveWalletBillingQuota db reqId uid tid amt unlimited).2 := by
  rcases reserveWalletBillingQuota_cases db reqId uid tid amt unlimited with
    same | ⟨_, _, _, _, _, _, out⟩
  · rw [same]
    exact recoverable
  · rw [out]
    refine recoverable.step (StepKept.putReservation _ (.untouched rfl rfl) (find_put _ _) rfl rfl
      (fun _ shut => shut.elim) ?_)
    intro src
    cases src

theorem append (requestId : String) (d : Int) : Recoverable (appendBillingReservation db requestId d).2 := by
  rcases appendBillingReservation_cases db requestId d with
    unchanged | ⟨record, db', found, positive, ran, outcome⟩
  · rw [unchanged]
    exact recoverable
  · rw [outcome]
    obtain ⟨reserved, db₁, funded, db₂, paid, rfl⟩ := (appendBillingReservationTx_ok found).mp ran
    obtain ⟨funds, t, operations, log⟩ :=
      @FundsKept.settleSource Nothing _ _ _ _ (by omega) _ (settleSource_of_append positive funded)
    obtain ⟨_, rfl⟩ := (reserveTokenQuotaTx_ok (by omega : d ≠ 0)).mp paid
    have key : record.requestId = requestId := key_of_find found
    refine recoverable.step (StepKept.putReservation (record.appended d db₁.now) (funds.between rfl rfl rfl rfl)
      (find_of_put (congrArg (·.put (record.appended d db₁.now)) t)) operations log (fun _ shut => shut.elim) ?_)
    intro src opened
    refine .inr ⟨not_false, record, ?_, src, opened, rfl⟩
    exact (congrArg db.reservations.find key).trans found

theorem markProviderStarted (requestId : String) :
    Recoverable (markBillingReservationProviderStarted db requestId).2 := by
  rcases markBillingReservationProviderStarted_cases db requestId with
    unchanged | ⟨record, found, reserved, outcome⟩
  · rw [unchanged]
    exact recoverable
  · rw [outcome]
    have key : record.requestId = requestId := key_of_find found
    refine recoverable.step (StepKept.putReservation _ (.untouched rfl rfl) (find_put _ _) rfl rfl
      (fun _ shut => shut.elim) ?_)
    intro src _
    exact .inr ⟨not_false, record, (congrArg db.reservations.find key).trans found, src, .inl reserved, rfl⟩

theorem settle (reqId : String) (d : Int) : Recoverable (settleBillingReservation db reqId d).2 := by
  rcases settleBillingReservation_cases db reqId d with
    same | ⟨row, db', found, opened, ran, out⟩
  · rw [same]
    exact recoverable
  · rw [out]
    have shut : ¬(row.moved .settled db.now).Open := not_open_iff.mpr (.inl rfl)
    rw [settleBillingReservationTx_open found opened] at ran
    split at ran
    · subst ran
      exact recoverable.step (StepKept.putReservation _ (.untouched rfl rfl) (find_put _ _) rfl rfl
        (fun _ never => never.elim) fun _ still => absurd still shut)
    · rename_i ne
      obtain ⟨db₁, funded, paid⟩ := ran
      obtain ⟨_, rfl⟩ := adjustTokenQuotaDeltaTx_ok.mp paid
      obtain ⟨funds, t, ops, log⟩ := @FundsKept.settleSource Nothing _ _ _ _ ne _ funded
      exact recoverable.step (StepKept.putReservation (row.moved .settled db.now) (funds.between rfl rfl rfl rfl)
        (find_of_put t) ops log (fun _ never => never.elim) fun _ still => absurd still shut)

theorem release (requestId : String) (reservedOnly : Bool) :
    Recoverable (releaseReservation db requestId reservedOnly).2 := by
  rcases releaseReservation_cases db requestId reservedOnly with
    unchanged | ⟨record, db', found, freed, ran, outcome⟩
  · rw [unchanged]
    exact recoverable
  · rw [outcome]
    obtain ⟨_, db₁, funded, rfl⟩ := (releaseBillingReservationTx_open found freed).mp ran
    obtain ⟨funds, t, operations, log⟩ := FundsKept.releaseSource funded
    have key : record.requestId = requestId := key_of_find found
    refine recoverable.step (StepKept.putReservation (record.moved .released db.now) (funds.between rfl rfl rfl rfl)
      (find_of_put t) operations log ?_ ?_)
    · rintro id ⟨src, rfl⟩
      refine ⟨rfl, ?_⟩
      rw [key]
      exact (recoverable.reservations requestId record found src (open_of_not_kept freed)).apart
    · intro _ still
      exact absurd still (not_open_iff.mpr (.inr rfl))

theorem releaseEach (records : List BillingReservationRecord) (released : Int) :
    Recoverable (releaseEach db records released).2 := by
  induction records generalizing db released with
  | nil => exact recoverable
  | cons row rest ih =>
    have kept : Recoverable (releaseUnsentBillingReservation db row.requestId).2 :=
      recoverable.release row.requestId true
    unfold Billing.releaseEach
    split
    · grind
    · rename_i out
      rw [out] at kept
      exact ih kept _

theorem reserveSubscription {reqId : String}
    (apart : db.operations.find reqId = none) (uid tid amt : Int) (unlimited : Bool) :
    Recoverable (reserveSubscriptionBillingQuota db reqId uid tid amt unlimited).2 := by
  rcases reserveSubscriptionBillingQuota_cases db reqId uid tid amt unlimited with
    ⟨_, failed⟩ | ⟨res, _, _, named, _, ran, out⟩
  · rw [failed]
    exact recoverable
  · rw [out]
    cases found : db.reservations.find reqId with
    | some row =>
      obtain ⟨_, used, _⟩ :=
        (reserveSubscriptionBillingQuotaTx_known found tid unlimited).mp ran
      obtain ⟨funds, _⟩ := @FundsKept.preConsume Nothing _ _ _ _ _ _ used
      obtain ⟨subs, records, rfl⟩ := preConsumeUserSubscriptionTx_frame used
      exact recoverable.step (StepKept.fundsOnly funds rfl rfl fun _ _ _ _ => rfl)
    | none =>
      obtain ⟨_, db₁, used, _, rfl⟩ := reserveSubscriptionBillingQuotaTx_claimed found ran
      obtain ⟨funds, held, present⟩ := @FundsKept.preConsume Nothing _ _ _ _ _ _ used
      obtain ⟨subs, records, rfl⟩ := preConsumeUserSubscriptionTx_frame used
      refine recoverable.step (StepKept.putReservation
        { newReservation reqId uid tid unlimited .subscription amt db.now with
          userSubscriptionId := res.userSubscriptionId }
        (funds.between rfl rfl rfl rfl) ?_ rfl rfl
        (fun _ shut => shut.elim) ?_)
      · -- The claim is overwritten by the record that names the subscription.
        intro id
        rw [putReservation_reservations, find_put]
        split
        · rfl
        · rename_i other
          exact find_put_of_ne db.reservations (newReservation ..) other
      · intro _ _
        exact .inl ⟨named, held, present, apart⟩

theorem cleanupReservations (olderThanSeconds : Int) :
    Recoverable (cleanupBillingReservationRecords db olderThanSeconds) := by
  refine ⟨recoverable.bounded, recoverable.linked, ?_, recoverable.operations, recoverable.unlogged⟩
  intro id row found src opened
  unfold cleanupBillingReservationRecords at found
  dsimp only at found
  rw [find_keep] at found
  have held := recoverable.reservations id row (filter_eq_some_iff.mp found).1 src opened
  exact ⟨held.named, held.consumed, held.present, held.apart⟩

theorem reserveOperationWallet (operationId : String) (quote : WildFlowBillingQuote) :
    Recoverable (reserveWildFlowWalletBilling db operationId quote).2 := by
  unfold reserveWildFlowWalletBilling
  rcases reserveWildFlowBilling_cases reserveWildFlowWalletTx db operationId quote with
    same | ⟨operation, _, db', found, fresh, pos, ran, out⟩
  · rw [same]
    exact recoverable
  · obtain rfl : operation.operationId = operationId := key_of_find found
    obtain ⟨tokenQuota, _, rfl⟩ := reserveWildFlowWalletTx_ok pos found ran
    rw [out]
    refine recoverable.step (StepKept.putOperation recoverable
      (wildFlowBillingSnapshotUpdates quote .wallet 0 tokenQuota db.now operation) found
      (unrefunded_of_fresh fresh) (.untouched rfl rfl) rfl rfl (fun _ _ => rfl) (fun _ shut => shut.elim) ?_)
    intro src
    cases src

theorem reserveOperationSubscription (operationId : String) (quote : WildFlowBillingQuote) :
    Recoverable (reserveWildFlowSubscriptionBilling db operationId quote).2 := by
  unfold reserveWildFlowSubscriptionBilling
  rcases reserveWildFlowBilling_cases reserveWildFlowSubscriptionTx db operationId quote with
    same | ⟨operation, _, db', found, fresh, pos, ran, out⟩
  · rw [same]
    exact recoverable
  · obtain rfl : operation.operationId = operationId := key_of_find found
    obtain ⟨res, db₁, tokenQuota, used, rfl⟩ := reserveWildFlowSubscriptionTx_ok pos found ran
    obtain ⟨funds, held, _⟩ := @FundsKept.preConsume Nothing _ _ _ _ _ _ used
    obtain ⟨named, _⟩ := preConsumeUserSubscriptionTx_valid used
    obtain ⟨subs, records, rfl⟩ := preConsumeUserSubscriptionTx_frame used
    rw [out]
    exact recoverable.step (StepKept.putOperation recoverable
      (wildFlowBillingSnapshotUpdates quote .subscription res.userSubscriptionId tokenQuota db.now operation)
      found (unrefunded_of_fresh fresh) (funds.between rfl rfl rfl rfl) rfl rfl (fun _ _ => rfl)
      (fun _ shut => shut.elim) fun _ _ => ⟨named, held⟩)

theorem settleOperation (eff : SettleEffect db operationId db') : Recoverable db' := by
  cases eff with
  | unchanged => exact recoverable
  | logged log kept =>
    exact recoverable.step (.fundsOnly (.untouched rfl rfl) rfl rfl fun id _ _ _ => kept (id, .refund) (by simp))
  | returned found reserved negative src token tokenLess =>
    have funds := @FundsKept.returnQuota Nothing _ _ _ _ _ src
    obtain ⟨users, subscriptions, records, rfl⟩ := returnWildFlowQuotaTx_frame src
    obtain ⟨_, rfl⟩ := (returnWildFlowTokenQuotaTx_ok tokenLess).mp token
    exact recoverable.step (StepKept.fundsOnly (funds.between rfl rfl rfl rfl) rfl rfl fun _ _ _ _ => rfl)
  | settled found reserved less tokenLess nonnegative src token log kept =>
    rename_i operation actual eventId _ _
    obtain rfl : operation.operationId = operationId := key_of_find found
    have funds := @FundsKept.returnQuota Nothing _ _ _ _ _ src
    obtain ⟨users, subscriptions, records, rfl⟩ := returnWildFlowQuotaTx_frame src
    obtain ⟨_, rfl⟩ := (returnWildFlowTokenQuotaTx_ok tokenLess).mp token
    have unrefunded : operation.billingState ≠ .refunded := by simp [reserved]
    refine recoverable.step (StepKept.putOperation recoverable (operation.settledWith actual eventId db.now)
      found unrefunded (funds.between rfl rfl rfl rfl) rfl rfl
      (fun id _ => kept (id, .refund) (by simp)) (fun _ shut => shut.elim) ?_)
    intro _ st
    cases st

theorem refundOperation (effect : RefundEffect db operationId db') : Recoverable db' := by
  cases effect with
  | unchanged => exact recoverable
  | logged log kept done =>
    refine recoverable.step (.fundsOnly (.untouched rfl rfl) rfl rfl ?_)
    intro id operation found open'
    apply kept
    intro same
    obtain rfl : id = operationId := congrArg Prod.fst same
    exact open' (done operation found)
  | refunded found held source token log kept =>
    rename_i operation _ _
    obtain rfl : operation.operationId = operationId := key_of_find found
    have funds := FundsKept.refundSource source
    obtain ⟨users, subs, records, rfl⟩ := refundWildFlowSourceTx_frame source
    obtain ⟨tokens, rfl⟩ := refundWildFlowTokenQuotaTx_frame token
    have unrefunded : operation.billingState ≠ .refunded := by
      intro refunded
      rcases held with state | state <;> rw [refunded] at state <;> cases state
    refine recoverable.step (StepKept.putOperation recoverable (operation.refundedAt db.now) found unrefunded
      (funds.between rfl rfl rfl rfl) rfl rfl ?_ (fun _ shut => shut) ?_)
    · rintro id (other | state)
      · apply kept
        exact fun same => other (congrArg Prod.fst same)
      · exact absurd rfl state
    · intro _ state
      cases state

end Recoverable

end

inductive BillingStep where
  | reservation (op : ReservationOp)
  | reserveSubscription (requestId : String) (userId tokenId amount : Int) (unlimitedToken : Bool)
  | operation (operationId : String) (step : OperationStep)
  | reserveOperationSubscription (operationId : String) (quote : WildFlowBillingQuote)
  | cleanupPreConsumeRecords (olderThanSeconds : Int)
  | cleanupReservationRecords (olderThanSeconds : Int)
  | releaseStaleReservations (olderThanSeconds limit : Int)

def applyBillingStep (db : DB) : BillingStep → DB
  | .reservation op => applyReservationOp db op
  | .reserveSubscription requestId userId tokenId amount unlimitedToken =>
    (reserveSubscriptionBillingQuota db requestId userId tokenId amount unlimitedToken).2
  | .operation operationId step => applyOperationStep operationId db step
  | .reserveOperationSubscription operationId quote =>
    (reserveWildFlowSubscriptionBilling db operationId quote).2
  | .cleanupPreConsumeRecords olderThanSeconds => cleanupSubscriptionPreConsumeRecords db olderThanSeconds
  | .cleanupReservationRecords olderThanSeconds => cleanupBillingReservationRecords db olderThanSeconds
  | .releaseStaleReservations olderThanSeconds limit =>
    (releaseStaleBillingReservations db olderThanSeconds limit).2

def RequestIdApart (db : DB) : BillingStep → Prop
  | .reserveSubscription requestId .. => db.operations.find requestId = none
  | _ => True

def preConsumeCutoff (db : DB) (olderThanSeconds : Int) : Int :=
  db.now - if olderThanSeconds ≤ 0 then 7 * 24 * 3600 else olderThanSeconds

structure SparesOpen (db : DB) (olderThanSeconds : Int) : Prop where
  reservations : ∀ id reservation record, db.reservations.find id = some reservation →
    reservation.source = .subscription → reservation.Open → db.preConsumeRecords.find id = some record →
    preConsumeCutoff db olderThanSeconds ≤ record.updatedAt
  operations : ∀ id operation record, db.operations.find id = some operation →
    operation.billingSource = .subscription → operation.billingState = .reserved →
    db.preConsumeRecords.find id = some record → preConsumeCutoff db olderThanSeconds ≤ record.updatedAt

def CleanupSpares (db : DB) : BillingStep → Prop
  | .cleanupPreConsumeRecords olderThanSeconds => SparesOpen db olderThanSeconds
  | _ => True

section
variable {db : DB}

theorem find_cleanup (db : DB) (olderThanSeconds : Int) (id : String) :
    (cleanupSubscriptionPreConsumeRecords db olderThanSeconds).preConsumeRecords.find id =
      (db.preConsumeRecords.find id).filter fun row =>
        decide (preConsumeCutoff db olderThanSeconds ≤ row.updatedAt) := by
  unfold cleanupSubscriptionPreConsumeRecords preConsumeCutoff
  dsimp only
  rw [find_keep]
  simp only [Int.not_lt]

theorem holdsPreConsume_cleanup (olderThanSeconds : Int) (spared : ∀ row, db.preConsumeRecords.find id = some row →
      preConsumeCutoff db olderThanSeconds ≤ row.updatedAt) (held : db.HoldsPreConsume id) :
    (cleanupSubscriptionPreConsumeRecords db olderThanSeconds).HoldsPreConsume id := by
  obtain ⟨row, found, used⟩ := held
  refine ⟨row, ?_, used⟩
  rw [find_cleanup, found, filter_some_pos]
  exact decide_eq_true (spared row found)

theorem Recoverable.cleanup (recoverable : Recoverable db) (spares : SparesOpen db olderThanSeconds) :
    Recoverable (cleanupSubscriptionPreConsumeRecords db olderThanSeconds) := by
  refine ⟨recoverable.bounded, ?_, ?_, ?_, recoverable.unlogged⟩
  · intro id row found
    rw [find_cleanup] at found
    exact recoverable.linked id row (filter_eq_some_iff.mp found).1
  · intro id reservation found src opened
    have held := recoverable.reservations id reservation found src opened
    exact ⟨held.named, holdsPreConsume_cleanup olderThanSeconds
      (fun row => spares.reservations id reservation row found src opened) held.consumed,
      held.present, held.apart⟩
  · intro id operation found src reserved
    obtain ⟨named, used⟩ := recoverable.operations id operation found src reserved
    exact ⟨named, holdsPreConsume_cleanup olderThanSeconds
      (fun row => spares.operations id operation row found src reserved) used⟩

theorem updated_of_holdsPreConsume
    (held : (cleanupSubscriptionPreConsumeRecords db olderThanSeconds).HoldsPreConsume id)
    {row : SubscriptionPreConsumeRecord} (found : db.preConsumeRecords.find id = some row) :
    preConsumeCutoff db olderThanSeconds ≤ row.updatedAt := by
  obtain ⟨kept, place, _⟩ := held
  rw [find_cleanup, filter_eq_some_iff, found] at place
  obtain rfl := Option.some.inj place.1
  exact of_decide_eq_true place.2

theorem Recoverable.cleanup_iff (recoverable : Recoverable db) (olderThanSeconds : Int) :
    Refundable (cleanupSubscriptionPreConsumeRecords db olderThanSeconds) ↔ SparesOpen db olderThanSeconds := by
  constructor
  · intro refundable
    refine ⟨?_, ?_⟩
    · intro id reservation row found src opened
      exact updated_of_holdsPreConsume (refundable.reservations id reservation found src opened).1
    · intro id operation row found src reserved
      exact updated_of_holdsPreConsume (refundable.operations id operation found src reserved).1
  · intro spares
    exact (recoverable.cleanup spares).refundable

theorem Recoverable.apply (recoverable : Recoverable db) (step : BillingStep)
    (allowed : RequestIdApart db step ∧ CleanupSpares db step) : Recoverable (applyBillingStep db step) := by
  cases step with
  | reservation op =>
    cases op with
    | reserveWallet reqId uid tid amt unlimited =>
      exact recoverable.reserveWallet reqId uid tid amt unlimited
    | append reqId d => exact recoverable.append reqId d
    | markProviderStarted reqId => exact recoverable.markProviderStarted reqId
    | settle reqId d => exact recoverable.settle reqId d
    | release reqId => exact recoverable.release reqId false
    | releaseUnsent reqId => exact recoverable.release reqId true
  | reserveSubscription reqId uid tid amt unlimited =>
    exact recoverable.reserveSubscription allowed.1 uid tid amt unlimited
  | operation operationId step =>
    cases step with
    | reserveWallet quote => exact recoverable.reserveOperationWallet operationId quote
    | recordUsage ev => exact recoverable.step (.executed (recordWildFlowUsageEvent_executed db ev))
    | updateExecution jobId st code =>
      exact recoverable.step (.executed (updateWildFlowOperationExecution_executed db operationId jobId st code))
    | storeResult json expiry =>
      exact recoverable.step (.executed (storeWildFlowOperationResult_executed db operationId json expiry))
    | settle => exact recoverable.settleOperation (settleWildFlowOperationBilling_effect db operationId)
    | refund => exact recoverable.refundOperation (refundWildFlowOperationBilling_effect db operationId)
    | tick seconds => exact recoverable.step (.fundsOnly (.untouched rfl rfl) rfl rfl fun _ _ _ _ => rfl)
  | reserveOperationSubscription operationId quote =>
    exact recoverable.reserveOperationSubscription operationId quote
  | cleanupPreConsumeRecords olderThanSeconds => exact recoverable.cleanup allowed.2
  | cleanupReservationRecords olderThanSeconds => exact recoverable.cleanupReservations olderThanSeconds
  | releaseStaleReservations olderThanSeconds limit => exact recoverable.releaseEach _ 0

end

structure Unreserved (db : DB) : Prop where
  reservations : db.reservations.rows = []
  records : db.preConsumeRecords.rows = []
  log : db.billingLog.rows = []
  operations : ∀ id operation, db.operations.find id = some operation →
    operation.billingState = .unset ∨ operation.billingState = .pending
  bounded : db.SubscriptionsBounded

theorem Unreserved.recoverable {db : DB} (start : Unreserved db) : Recoverable db := by
  refine ⟨start.bounded, ?_, ?_, ?_, ?_⟩
  · intro id row found
    simp [Table.find, start.records] at found
  · intro id row found
    simp [Table.find, start.reservations] at found
  · grind [start.operations]
  · intro id operation _ _
    simp [Table.find, start.log]

theorem open_subscriptions_refundable {start : DB} (unreserved : Unreserved start) {steps : List BillingStep}
    (allowed : Guarded applyBillingStep (fun db step => RequestIdApart db step ∧ CleanupSpares db step) start
      steps) :
    Refundable (runSteps applyBillingStep start steps) ∧
      ∀ olderThanSeconds, Refundable (cleanupSubscriptionPreConsumeRecords (runSteps applyBillingStep start steps)
          olderThanSeconds) ↔ SparesOpen (runSteps applyBillingStep start steps) olderThanSeconds := by
  have reached : Recoverable (runSteps applyBillingStep start steps) :=
    runSteps_invariant (fun _ step recoverable guard => recoverable.apply step guard) steps start
      unreserved.recoverable allowed
  exact ⟨reached.refundable, reached.cleanup_iff⟩

def DB.subscribedWithOperation : DB :=
  { DB.subscribed with operations := Table.empty.put audioOperation }

def openedBySubscription : List BillingStep :=
  [.reserveSubscription "req" 1 1 10 false, .reservation (.markProviderStarted "req"),
    .reserveOperationSubscription "op-1" audioQuote]

theorem subscribedWithOperation_unreserved : Unreserved DB.subscribedWithOperation := by
  refine ⟨rfl, rfl, rfl, ?_, ?_⟩
  · intro id operation found
    have rows : ∀ operation ∈ DB.subscribedWithOperation.operations.rows,
        operation.billingState = .unset ∨ operation.billingState = .pending := by decide
    exact rows operation (mem_of_find found)
  · intro id sub found
    have rows : ∀ sub ∈ DB.subscribedWithOperation.userSubscriptions.rows,
        0 < sub.amountTotal → sub.amountUsed ≤ sub.amountTotal := by decide
    exact rows sub (mem_of_find found)

theorem open_subscriptions_refundable_soon :
    Refundable (runSteps applyBillingStep DB.subscribedWithOperation
      (openedBySubscription ++ [.operation "op-1" (.tick 3600), .cleanupPreConsumeRecords 0])) := by
  have young : ∀ record ∈ (runSteps applyBillingStep DB.subscribedWithOperation
      (openedBySubscription ++ [.operation "op-1" (.tick 3600)])).preConsumeRecords.rows,
      preConsumeCutoff (runSteps applyBillingStep DB.subscribedWithOperation
        (openedBySubscription ++ [.operation "op-1" (.tick 3600)])) 0 ≤ record.updatedAt := by decide
  have spares : SparesOpen (runSteps applyBillingStep DB.subscribedWithOperation
      (openedBySubscription ++ [.operation "op-1" (.tick 3600)])) 0 :=
    ⟨fun _ _ record _ _ _ found => young record (mem_of_find found),
      fun _ _ record _ _ _ found => young record (mem_of_find found)⟩
  have apart : DB.subscribedWithOperation.operations.find "req" = none := by decide
  have allowed : Guarded applyBillingStep (fun db step => RequestIdApart db step ∧ CleanupSpares db step)
      DB.subscribedWithOperation
      (openedBySubscription ++ [.operation "op-1" (.tick 3600), .cleanupPreConsumeRecords 0]) :=
    ⟨⟨apart, trivial⟩, ⟨trivial, trivial⟩, ⟨trivial, trivial⟩, ⟨trivial, trivial⟩, ⟨trivial, spares⟩, trivial⟩
  exact (open_subscriptions_refundable subscribedWithOperation_unreserved allowed).1

theorem cleanup_strands_open_subscriptions :
    let db := runSteps applyBillingStep DB.subscribedWithOperation (openedBySubscription ++
      [.operation "op-1" (.updateExecution "job-1" "failed" ""), .operation "op-1" (.tick 691200),
        .cleanupPreConsumeRecords 0])
    (db.reservations.find "req").map (·.state) = some .providerStarted ∧
      (db.operations.find "op-1").map (·.billingState) = some .reserved ∧
      db.preConsumeRecords.rows = [] ∧
      (releaseBillingReservation db "req").1 = .error .recordNotFound ∧
      (refundWildFlowOperationBilling db "op-1").1 = .error .recordNotFound := by
  decide

end Wildflow.Billing

import Wildflow.Proof.Billing.Reservation
import Wildflow.Proof.Billing.Operation

/-!
# What refunds to a subscription need

Refunds go through the pre-consume record. `FundsKept` says what a transaction does to subscriptions and those records,
`Recoverable` what has to hold for every refund to succeed.
-/

namespace Wildflow.Billing
open Wildflow.Store Tx Table

def DB.HoldsPreConsume (db : DB) (id : String) : Prop :=
  ∃ record, db.preConsumeRecords.find id = some record ∧ record.status = .consumed

def DB.HasSubscription (db : DB) (id : Int) : Prop :=
  ∃ sub, db.userSubscriptions.find id = some sub

def DB.SubscriptionsBounded (db : DB) : Prop :=
  ∀ id sub, db.userSubscriptions.find id = some sub → 0 < sub.amountTotal → sub.amountUsed ≤ sub.amountTotal

def DB.PreConsumesLinked (db : DB) : Prop :=
  ∀ id record, db.preConsumeRecords.find id = some record → db.HasSubscription record.userSubscriptionId

structure FundsKept (closed : String → Prop) (db db' : DB) : Prop where
  present : ∀ id, db.HasSubscription id → db'.HasSubscription id
  bounded : db.SubscriptionsBounded → db'.SubscriptionsBounded
  linked : db.PreConsumesLinked → db'.PreConsumesLinked
  held : ∀ id, ¬closed id → db.HoldsPreConsume id → db'.HoldsPreConsume id

section
variable {closed : String → Prop} {db db' db'' : DB}

theorem FundsKept.frame (subs : db'.userSubscriptions = db.userSubscriptions)
    (records : db'.preConsumeRecords = db.preConsumeRecords) : FundsKept closed db db' := by
  refine ⟨?_, ?_, ?_, ?_⟩ <;>
    grind [DB.HasSubscription, DB.SubscriptionsBounded, DB.PreConsumesLinked, DB.HoldsPreConsume]

theorem FundsKept.mono {more : String → Prop} (kept : FundsKept closed db db')
    (wider : ∀ id, closed id → more id) : FundsKept more db db' :=
  ⟨kept.present, kept.bounded, kept.linked, fun id left => kept.held id fun shut => left (wider id shut)⟩

theorem FundsKept.trans (first : FundsKept closed db db') (second : FundsKept closed db' db'') :
    FundsKept closed db db'' :=
  ⟨fun id held => second.present id (first.present id held), fun held => second.bounded (first.bounded held),
    fun held => second.linked (first.linked held),
    fun id left held => second.held id left (first.held id left held)⟩

theorem FundsKept.between {start finish : DB} (kept : FundsKept closed db db')
    (subs : db.userSubscriptions = start.userSubscriptions)
    (records : db.preConsumeRecords = start.preConsumeRecords)
    (finalSubscriptions : finish.userSubscriptions = db'.userSubscriptions)
    (finalRecords : finish.preConsumeRecords = db'.preConsumeRecords) : FundsKept closed start finish :=
  (FundsKept.frame subs records).trans (kept.trans (FundsKept.frame finalSubscriptions finalRecords))

theorem FundsKept.putSubscription (sub : UserSubscription)
    (fits : 0 < sub.amountTotal → sub.amountUsed ≤ sub.amountTotal) :
    FundsKept closed db (db.putSubscription sub) := by
  have present : ∀ id, db.HasSubscription id → (db.putSubscription sub).HasSubscription id := by
    grind [DB.HasSubscription, DB.putSubscription]
  refine ⟨present, ?_, fun linked id record place => present _ (linked id record place), fun id _ held => held⟩
  intro bounded id row place
  have before := bounded id row
  grind [DB.putSubscription]

theorem FundsKept.postConsume {id d : Int} {u : Unit}
    (ran : (postConsumeUserSubscriptionDeltaTx id d).run db = .ok (u, db')) : FundsKept closed db db' := by
  obtain ⟨sub, _, fits, rfl⟩ := postConsumeUserSubscriptionDeltaTx_ok.mp ran
  apply FundsKept.putSubscription
  intro limited
  exact Int.not_lt.mp fun past => fits ⟨limited, past⟩

theorem FundsKept.putPreConsume {row : SubscriptionPreConsumeRecord}
    (status : row.status = .consumed ∨ closed row.requestId)
    (target : db.PreConsumesLinked → db.HasSubscription row.userSubscriptionId) :
    FundsKept closed db (db.putPreConsume row) := by
  refine ⟨fun id held => held, fun held => held, ?_, ?_⟩
  · intro linked id other place
    have mine : db.HasSubscription other.userSubscriptionId := by
      grind [target linked, linked id other, DB.putPreConsume]
    exact mine
  · grind [DB.HoldsPreConsume, DB.putPreConsume]

theorem FundsKept.refreshed {t : Table UserSubscription.id} (refreshed : Refreshed db t) :
    FundsKept closed db { db with userSubscriptions := t } := by
  have present : ∀ id, db.HasSubscription id → ({ db with userSubscriptions := t } : DB).HasSubscription id := by
    rintro id ⟨sub, place⟩
    rcases refreshed id with same | ⟨_, _, cur, _, _, _, stored⟩
    · exact ⟨sub, same.trans place⟩
    · exact ⟨cur, stored⟩
  refine ⟨present, ?_, fun linked id record place => present _ (linked id record place), fun id _ held => held⟩
  intro bounded id row place
  rcases refreshed id with same | ⟨sub, _, cur, found, _, reset, stored⟩
  · exact bounded id row (same.symm.trans place)
  · obtain rfl := Option.mem_unique stored place
    obtain ⟨_, _, _, total, used⟩ := resetDue_keeps reset
    have before := bounded id sub found
    grind

theorem FundsKept.preConsume {reqId : String} {uid amt : Int} {res : SubscriptionPreConsumeResult}
    (ran : (preConsumeUserSubscriptionTx reqId uid amt).run db = .ok (res, db')) :
    FundsKept closed db db' ∧ db'.HoldsPreConsume reqId ∧ db'.HasSubscription res.userSubscriptionId := by
  cases found : db.preConsumeRecords.find reqId with
  | some row =>
    obtain ⟨rfl, used, sub, place, target⟩ := preConsumeUserSubscriptionTx_known found ran
    exact ⟨FundsKept.frame rfl rfl, ⟨row, found, used⟩, ⟨sub, target ▸ place⟩⟩
  | none =>
    obtain ⟨_, t, origin, sub, _, charge, target, rfl⟩ := preConsumeUserSubscriptionTx_fresh found ran
    have own : (t.put (sub.withUsed (sub.amountUsed + amt))).find sub.id =
        some (sub.withUsed (sub.amountUsed + amt)) := find_put_self _ (sub.withUsed _)
    have fits : 0 < sub.amountTotal → sub.amountUsed + amt ≤ sub.amountTotal := by
      intro limited
      have room := charge.room
      omega
    refine ⟨?_, ⟨_, find_put_self _ (newPreConsume reqId uid amt sub db.now), rfl⟩, ⟨_, target ▸ own⟩⟩
    have rows : FundsKept closed db { db with userSubscriptions := t } := FundsKept.refreshed charge.refreshed
    have paid := rows.trans (FundsKept.putSubscription (sub.withUsed (sub.amountUsed + amt)) fits)
    exact paid.trans (FundsKept.putPreConsume (.inl rfl) fun _ => ⟨_, own⟩)

theorem FundsKept.refundPreConsume {requestId : String} {u : Unit}
    (ran : (refundSubscriptionPreConsumeTx requestId).run db = .ok (u, db')) :
    FundsKept (· = requestId) db db' := by
  obtain ⟨record, found, ⟨_, rfl⟩ | ⟨db₁, back, rfl⟩⟩ := refundSubscriptionPreConsumeTx_ok ran
  · exact FundsKept.frame rfl rfl
  · have key : record.requestId = requestId := key_of_find found
    have first : FundsKept (· = requestId) db db₁ := by
      unfold returnPreConsumed at back
      split at back
      · exact FundsKept.postConsume back
      · obtain ⟨_, rfl⟩ := run_pure_ok.mp back
        exact FundsKept.frame rfl rfl
    obtain ⟨subs, same⟩ := returnPreConsumed_frame back
    refine first.trans (FundsKept.putPreConsume (.inr key) ?_)
    intro linked
    refine linked requestId record ?_
    rw [same]
    exact found

end

structure ReservationHeld (db : DB) (id : String) (record : BillingReservationRecord) : Prop where
  named : id ≠ ""
  consumed : db.HoldsPreConsume id
  present : db.HasSubscription record.userSubscriptionId
  apart : db.operations.find id = none

structure Recoverable (db : DB) : Prop where
  bounded : db.SubscriptionsBounded
  linked : db.PreConsumesLinked
  reservations : ∀ id record, db.reservations.find id = some record → record.source = .subscription →
    record.Open → ReservationHeld db id record
  operations : ∀ id operation, db.operations.find id = some operation →
    operation.billingSource = .subscription → operation.billingState = .reserved →
    trimSpace id ≠ "" ∧ db.HoldsPreConsume id
  unlogged : ∀ id operation, db.operations.find id = some operation → operation.billingState ≠ .refunded →
    db.billingLog.find (id, .refund) = none

/-- What is open on a subscription has its pre-consume record and can be given back. -/
structure Refundable (db : DB) : Prop where
  reservations : ∀ id record, db.reservations.find id = some record → record.source = .subscription →
    record.Open → db.HoldsPreConsume id ∧ (releaseBillingReservation db id).1 = .ok true
  operations : ∀ id operation, db.operations.find id = some operation →
    operation.billingSource = .subscription → operation.billingState = .reserved →
    db.HoldsPreConsume id ∧ ∃ after, (refundWildFlowOperationBilling db id).1 =
      .ok (after, decide (operation.state = "failed" ∨ operation.state = "cancelled"))

variable {db : DB} {requestId : String}

theorem postConsume_back_runs (bounded : db.SubscriptionsBounded) {id : Int} (present : db.HasSubscription id)
    {amt : Int} (pos : 0 < amt) :
    ∃ db', (postConsumeUserSubscriptionDeltaTx id (-amt)).run db = .ok ((), db') := by
  obtain ⟨sub, found⟩ := present
  have fits : sub.Fits (-amt) := by
    rintro ⟨limited, past⟩
    have within := bounded id sub found limited
    omega
  exact ⟨_, postConsumeUserSubscriptionDeltaTx_ok.mpr ⟨sub, found, fits, rfl⟩⟩

theorem refundSubscriptionPreConsumeTx_runs (bounded : db.SubscriptionsBounded) (linked : db.PreConsumesLinked)
    (held : db.HoldsPreConsume requestId) :
    ∃ db', (refundSubscriptionPreConsumeTx requestId).run db = .ok ((), db') := by
  obtain ⟨row, found, used⟩ := held
  have back : ∃ db₁, (returnPreConsumed row).run db = .ok ((), db₁) := by
    unfold returnPreConsumed
    split
    · rename_i pos
      exact postConsume_back_runs bounded (linked requestId row found) pos
    · exact ⟨db, rfl⟩
  obtain ⟨db₁, ran⟩ := back
  have open' : ¬row.status = .refunded := by simp [used]
  have place : (Tx.orFail .recordNotFound (db.preConsumeRecords.find requestId) :
      BillingTx SubscriptionPreConsumeRecord).run db = .ok (row, db) :=
    run_orFail_ok.mpr ⟨found, rfl⟩
  rw [refundSubscriptionPreConsumeTx, run_bind_of_ok (run_read db), run_bind_of_ok place,
    if_neg open', run_bind_of_ok ran]
  exact ⟨_, rfl⟩

theorem releaseSource_runs {row : BillingReservationRecord} (bounded : db.SubscriptionsBounded)
    (linked : db.PreConsumesLinked) (src : row.source = .subscription)
    (held : db.HoldsPreConsume row.requestId) (present : db.HasSubscription row.userSubscriptionId) :
    ∃ db', (releaseSource row).run db = .ok ((), db') := by
  obtain ⟨db₁, back⟩ := refundSubscriptionPreConsumeTx_runs bounded linked held
  simp only [releaseSource, src]
  rw [run_bind_of_ok back]
  split
  · rename_i pos
    have kept := FundsKept.refundPreConsume back
    exact postConsume_back_runs (kept.bounded bounded) (kept.present _ present) pos
  · exact ⟨db₁, rfl⟩

theorem Recoverable.release_succeeds (recoverable : Recoverable db) {record : BillingReservationRecord}
    (found : db.reservations.find requestId = some record) (src : record.source = .subscription)
    (opened : record.Open) : (releaseBillingReservation db requestId).1 = .ok true := by
  have held := recoverable.reservations requestId record found src opened
  have key : record.requestId = requestId := key_of_find found
  let moved := db.putReservation (record.moved .released db.now)
  have bounded : moved.SubscriptionsBounded := recoverable.bounded
  have linked : moved.PreConsumesLinked := recoverable.linked
  have used : moved.HoldsPreConsume record.requestId := key ▸ held.consumed
  have present : moved.HasSubscription record.userSubscriptionId := held.present
  obtain ⟨db₁, released⟩ := releaseSource_runs bounded linked src used present
  have ran := (releaseBillingReservationTx_open found (not_kept_of_open opened)).mpr ⟨rfl, db₁, released, rfl⟩
  rw [releaseBillingReservation, releaseReservation_eq held.named, commit_eq_ok.mpr ran]

theorem Recoverable.refund_succeeds (recoverable : Recoverable db) {operation : WildFlowOperation}
    (found : db.operations.find operation.operationId = some operation)
    (source : operation.billingSource = .subscription) (reserved : operation.billingState = .reserved) :
    ∃ after, (refundWildFlowOperationBilling db operation.operationId).1 =
      .ok (after, decide (operation.state = "failed" ∨ operation.state = "cancelled")) := by
  obtain ⟨named, used⟩ := recoverable.operations operation.operationId operation found source reserved
  have open' : operation.billingState ≠ .refunded := by simp [reserved]
  have missing := recoverable.unlogged operation.operationId operation found open'
  have loaded := loadWildFlowOperationForBilling_ok.mpr ⟨found, rfl⟩
  by_cases ended : operation.state = "failed" ∨ operation.state = "cancelled"
  · obtain ⟨db₁, refunded⟩ := refundSubscriptionPreConsumeTx_runs recoverable.bounded recoverable.linked used
    have sourceRan : (refundWildFlowSourceTx operation).run db = .ok ((), db₁) := by
      simp only [refundWildFlowSourceTx, source]
      exact refunded
    obtain ⟨db₂, tokenRan⟩ := refundWildFlowTokenQuotaTx_runs db₁ operation
    obtain ⟨users, subs, records, frame⟩ := refundWildFlowSourceTx_frame sourceRan
    obtain ⟨tokens, tokenFrame⟩ := refundWildFlowTokenQuotaTx_frame tokenRan
    have still : db₂.operations.find operation.operationId = some operation := by
      rw [tokenFrame, frame]
      exact found
    have unlogged : (db₂.putOperation (operation.refundedAt db₂.now)).billingLog.find
        (operation.operationId, .refund) = none := by
      show db₂.billingLog.find (operation.operationId, .refund) = none
      rw [tokenFrame, frame]
      exact missing
    obtain ⟨⟨entry, db₃⟩, logged⟩ :=
      @ensureWildFlowCanonicalBillingLogTx_runs _ (operation.refundedAt db₂.now) .refund
        "WildFlow job refunded" named unlogged
    have ran : (refundReservedTx operation).run db = .ok ((operation.refundedAt db₂.now, true), db₃) := by
      rw [refundReservedTx, run_bind_of_ok sourceRan, run_bind_of_ok tokenRan,
        run_bind_of_ok (run_read db₂), run_bind_of_ok (updateOperation_hit still rfl),
        run_bind_of_ok logged]
      rfl
    have ready : ¬((operation.billingState ≠ .reserved ∧ operation.billingState ≠ .refunding) ∨
        (operation.state ≠ "failed" ∧ operation.state ≠ "cancelled")) := by
      rintro (⟨unreserved, _⟩ | ⟨notFailed, notCancelled⟩)
      · exact unreserved reserved
      · exact ended.elim notFailed notCancelled
    have committed : refundWildFlowOperationBilling db operation.operationId =
        (.ok (operation.refundedAt db₂.now, true), db₃) := by
      rw [refundWildFlowOperationBilling, commit_eq_ok, run_bind_of_ok loaded, if_neg open', if_neg ready]
      exact ran
    exact ⟨_, by rw [committed, decide_eq_true ended]⟩
  · have idle : (operation.billingState ≠ .reserved ∧ operation.billingState ≠ .refunding) ∨
        (operation.state ≠ "failed" ∧ operation.state ≠ "cancelled") := .inr (not_or.mp ended)
    have committed : refundWildFlowOperationBilling db operation.operationId = (.ok (operation, false), db) := by
      rw [refundWildFlowOperationBilling, commit_eq_ok, run_bind_of_ok loaded, if_neg open', if_pos idle]
      rfl
    exact ⟨_, by rw [committed, decide_eq_false ended]⟩

theorem Recoverable.refundable (recoverable : Recoverable db) : Refundable db := by
  refine ⟨?_, ?_⟩
  · intro id row found src opened
    exact ⟨(recoverable.reservations id row found src opened).consumed,
      recoverable.release_succeeds found src opened⟩
  · intro id op found src reserved
    obtain rfl : op.operationId = id := key_of_find found
    exact ⟨(recoverable.operations _ op found src reserved).2, recoverable.refund_succeeds found src reserved⟩

end Wildflow.Billing

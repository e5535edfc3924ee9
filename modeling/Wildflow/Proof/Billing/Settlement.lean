import Wildflow.Proof.Billing.TaskOperation

/-!
# Settling again after a failure

When the database fails in a settlement without a difference, the session is marked as settled all the same.
-/

namespace Wildflow.Billing
open Wildflow.Store Tx Table Option

structure SettleCall where
  actualQuota : Int
  failure : Option { cause : BillingError // cause ≠ .billingReservationNotFound }

abbrev Settling := Except SessionError Unit × BillingSession × DB

def Settling.step (s : Settling) (call : SettleCall) : Settling :=
  s.2.1.settleAmid call.failure s.2.2 call.actualQuota

def Settling.Closed (s : Settling) : Prop :=
  ∀ record, s.2.2.reservations.find s.2.1.relayInfo.requestId = some record → ¬record.Open

/-- The database does not fail in a settlement for exactly what was reserved. -/
def Settling.Unfailing (s : Settling) (call : SettleCall) : Prop :=
  call.actualQuota = s.2.1.preConsumedQuota → call.failure = none

/-- Success means a closed record, and a settlement that the database takes closes it. -/
structure Settling.Right (s : Settling) : Prop where
  closed : s.1 = .ok () → s.Closed
  retried : ∀ actualQuota, (settleBillingReservation s.2.2 s.2.1.relayInfo.requestId
      (actualQuota - s.2.1.preConsumedQuota)).1 = .ok () →
    (s.2.1.settle s.2.2 actualQuota).1 = .ok () ∧ Settling.Closed (s.2.1.settle s.2.2 actualQuota)

structure Settling.Recorded (s : Settling) : Prop where
  reserved : 0 < s.2.1.preConsumedQuota
  named : s.2.1.relayInfo.requestId ≠ ""
  found : ∃ record, s.2.2.reservations.find s.2.1.relayInfo.requestId = some record
  flagged : s.2.1.settled = true → s.Closed

section
variable {db : DB} {requestId : String} {delta : Int} {record : BillingReservationRecord} {s : Settling}

theorem settleBillingReservation_found (named : requestId ≠ "")
    (found : db.reservations.find requestId = some record) :
    (∃ after record', settleBillingReservation db requestId delta = (.ok (), after) ∧
      after.reservations.find requestId = some record' ∧ ¬record'.Open) ∨
    ∃ failure, NotMissing failure ∧ delta ≠ 0 ∧ settleBillingReservation db requestId delta = (.error failure, db) := by
  rw [settleBillingReservation_eq named]
  rcases commit_cases (settleBillingReservationTx requestId delta) db with
    ⟨_, after, ran, outcome⟩ | ⟨failure, stopped, outcome⟩
  · refine .inl ?_
    by_cases opened : record.Open
    · obtain ⟨_, kept⟩ := settleBillingReservationTx_moves found opened ran
      have key : record.requestId = requestId := key_of_find found
      refine ⟨after, record.moved .settled db.now, outcome, ?_, not_open_iff.mpr (.inl rfl)⟩
      rw [kept, ← key]
      exact find_put_self _ (record.moved .settled db.now)
    · rw [settleBillingReservationTx_closed found opened] at ran
      cases ran
      exact ⟨db, record, outcome, found, opened⟩
  · refine .inr ⟨failure, @settleBillingReservation_fails _ _ delta _ _ named found ?_, ?_, outcome⟩
    · exact (congrArg Prod.fst (settleBillingReservation_eq named)).trans (congrArg Prod.fst outcome)
    rintro rfl
    by_cases opened : record.Open
    · have ran : (settleBillingReservationTx requestId 0).run db =
          .ok ((), db.putReservation (record.moved .settled db.now)) :=
        (settleBillingReservationTx_open found opened).mpr (by rw [if_pos rfl])
      rw [ran] at stopped
      cases stopped
    · rw [settleBillingReservationTx_closed found opened] at stopped
      cases stopped

theorem Settling.settle_again (settled : s.2.1.settled = true) (actual : Int)
    {settleReservation : DB → String → Int → Except BillingError Unit × DB} :
    s.2.1.settle s.2.2 actual settleReservation = (.ok (), s.2) := by
  simp [BillingSession.settle, settled]

variable (recorded : s.Recorded)
include recorded

theorem Settling.Recorded.settle (busy : s.2.1.settled = false) (actual : Int) :
    (∃ session after record, s.2.1.settle s.2.2 actual = (.ok (), session, after) ∧ session.settled = true ∧
      after.reservations.find s.2.1.relayInfo.requestId = some record ∧ ¬record.Open) ∨
    ∃ failure, actual ≠ s.2.1.preConsumedQuota ∧ s.2.1.settle s.2.2 actual = (.error (.store failure), s.2) ∧
      settleBillingReservation s.2.2 s.2.1.relayInfo.requestId (actual - s.2.1.preConsumedQuota) =
        (.error failure, s.2.2) := by
  obtain ⟨record, found⟩ := recorded.found
  have reserved : s.2.1.hasReservation = true := by simp [BillingSession.hasReservation, recorded.reserved]
  unfold BillingSession.settle
  rw [busy]
  simp only [Bool.false_eq_true, if_false, reserved, if_true]
  rcases @settleBillingReservation_found _ _ (actual - s.2.1.preConsumedQuota) _ recorded.named found with
    ⟨after, record', outcome, found', closed⟩ | ⟨failure, notMissing, ne, outcome⟩
  · refine .inl ?_
    by_cases zero : actual - s.2.1.preConsumedQuota = 0
    · rw [zero] at outcome
      simp only [zero, if_true, outcome]
      exact ⟨_, after, record', rfl, rfl, found', closed⟩
    · simp only [zero, if_false, outcome]
      exact ⟨_, after, record', rfl, rfl, found', closed⟩
  · refine .inr ⟨failure, by omega, ?_, outcome⟩
    simp only [ne, if_false, outcome]
    rw [if_neg notMissing]

theorem Settling.Recorded.right (told : s.1 = .ok () → s.2.1.settled = true) : s.Right := by
  refine ⟨fun success => recorded.flagged (told success), fun actual taken => ?_⟩
  cases busy : s.2.1.settled with
  | true =>
    rw [Settling.settle_again busy]
    exact ⟨rfl, recorded.flagged busy⟩
  | false =>
    have same := (settle_account s.2.1 s.2.2 actual).request.requestId
    rcases recorded.settle busy actual with ⟨session, after, record, out, _, found, closed⟩ | ⟨err, _, _, refused⟩
    · rw [out] at same ⊢
      refine ⟨rfl, fun row place => ?_⟩
      obtain rfl := mem_unique found (same ▸ place)
      exact closed
    · rw [refused] at taken
      cases taken

theorem Settling.Recorded.step (call : SettleCall) (unfailing : s.Unfailing call) :
    (s.step call).Recorded ∧ ((s.step call).1 = .ok () → (s.step call).2.1.settled = true) := by
  have kept : ∀ res, Settling.Recorded (res, s.2) := fun _ => { recorded with }
  unfold Settling.step BillingSession.settleAmid
  cases busy : s.2.1.settled with
  | true =>
    rw [Settling.settle_again busy]
    exact ⟨kept _, fun _ => busy⟩
  | false =>
    cases failed : call.failure with
    | none =>
      have same := settle_account s.2.1 s.2.2 call.actualQuota
      rcases recorded.settle busy call.actualQuota with ⟨session, after, record, out, settled, found, closed⟩ |
        ⟨err, _, out, _⟩
      · simp only [elim_none]
        rw [out] at same ⊢
        rw [← same.request.requestId] at found
        refine ⟨⟨?_, ?_, ⟨record, found⟩, fun _ row place => ?_⟩, fun _ => settled⟩
        · exact same.preConsumedQuota ▸ recorded.reserved
        · exact same.request.requestId ▸ recorded.named
        · obtain rfl := mem_unique found place
          exact closed
      · simp only [elim_none]
        rw [out]
        exact ⟨kept _, fun success => (by cases success)⟩
    | some cause =>
      have differs : call.actualQuota - s.2.1.preConsumedQuota ≠ 0 := by
        intro zero
        have refuted := unfailing (by omega)
        rw [failed] at refuted
        cases refuted
      have reserved : s.2.1.hasReservation = true := by simp [BillingSession.hasReservation, recorded.reserved]
      simp only [BillingSession.settle, busy, Bool.false_eq_true, if_false, differs, reserved, if_true, elim_some,
        cause.2]
      exact ⟨kept _, fun success => (by cases success)⟩

end

theorem settle_success_closes {session : BillingSession} {db : DB} {record : BillingReservationRecord}
    (reserved : session.hasReservation = true) (named : session.relayInfo.requestId ≠ "")
    (found : db.reservations.find session.relayInfo.requestId = some record) (running : session.settled = false)
    (calls : List SettleCall) (unfailing : Guarded Settling.step Settling.Unfailing (.ok (), session, db) calls) :
    ∀ t ∈ transitions Settling.step (.ok (), session, db) calls, t.after.Right := by
  have start : Settling.Recorded (.ok (), session, db) :=
    ⟨of_decide_eq_true reserved, named, ⟨record, found⟩, fun settled => by rw [running] at settled; cases settled⟩
  refine @transitions_invariant _ _ _ Settling.Unfailing Settling.Recorded (fun _ after => after.Right) ?_ ?_ calls _ start
    unfailing
  · exact fun s call recorded unfailing => (recorded.step call unfailing).1
  · exact fun s call recorded unfailing =>
      (recorded.step call unfailing).1.right (recorded.step call unfailing).2

def settlingSession : BillingSession :=
  { BillingSession.start walletRequest (.wallet 1 10) with preConsumedQuota := 10, tokenConsumed := 10 }

def DB.reservedTen : DB :=
  (reserveWalletBillingQuota (DB.single 100) walletRequest.requestId 1 1 10 false).2

def lostConnection :
    { cause : BillingError // cause ≠ .billingReservationNotFound } := ⟨.recordNotFound, fun same => (by cases same)⟩

def retriedCalls : List SettleCall := [⟨7, some lostConnection⟩, ⟨7, none⟩]

theorem settle_success_closes_retry :
    Guarded Settling.step Settling.Unfailing (.ok (), settlingSession, DB.reservedTen) retriedCalls ∧
      ∀ t ∈ transitions Settling.step (.ok (), settlingSession, DB.reservedTen) retriedCalls, t.after.Right := by
  have unfailing : Guarded Settling.step Settling.Unfailing (.ok (), settlingSession, DB.reservedTen) retriedCalls :=
    ⟨fun exact => (by cases exact), fun _ => rfl, trivial⟩
  exact ⟨unfailing, settle_success_closes rfl (by decide) rfl rfl retriedCalls unfailing⟩

theorem failed_settlement_taken_for_done :
    let after := runSteps Settling.step (.ok (), settlingSession, DB.reservedTen)
      [⟨10, some lostConnection⟩, ⟨10, none⟩]
    after.1 = .ok () ∧ ¬after.Closed :=
  ⟨rfl, fun closed => closed _ rfl (.inl rfl)⟩

end Wildflow.Billing

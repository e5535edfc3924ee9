import Wildflow.Billing.Relay
import Wildflow.Billing.Task
import Wildflow.Proof.Billing.SessionConservation

/-!
# Raising a reservation

The record takes more quota only until an attempt was marked as sent. So a retry, and a task whose provider has
answered, cannot raise it.
-/

namespace Wildflow.Billing
open Wildflow.Store

def DB.Funds (db : DB) (record : BillingReservationRecord) (amount : Int) : Prop :=
  (match record.source with
    | .wallet => db.UserHolds record.userId amount
    | .subscription => ∃ sub, db.userSubscriptions.find record.userSubscriptionId = some sub ∧
        (0 < sub.amountTotal → sub.amountUsed + amount ≤ sub.amountTotal)) ∧
  db.TokenHolds record.tokenId amount record.unlimitedToken

structure Recorded (s : BillingSession) (db : DB) (record : BillingReservationRecord) : Prop where
  running : ¬(s.settled ∨ s.refunded)
  named : s.relayInfo.requestId ≠ ""
  found : db.reservations.find s.relayInfo.requestId = some record

structure ToppedUp (requestId : String) (target : Int) (outcome : Except SessionError Unit × BillingSession × DB) :
    Prop where
  succeeded : outcome.1 = .ok ()
  session : outcome.2.1.preConsumedQuota = target
  reserved : ∃ record, outcome.2.2.reservations.find requestId = some record ∧ record.amount = target

section
variable {s : BillingSession} {db : DB} {record : BillingReservationRecord} {target delta : Int} {info : RelayInfo}

theorem appendSource_runs (funds : db.Funds record delta) :
    ∃ db', (appendSource record delta).run db = .ok ((), db') ∧ db'.tokens = db.tokens := by
  unfold appendSource
  obtain ⟨src, _⟩ := funds
  cases kind : record.source with
  | wallet =>
    rw [kind] at src
    exact ⟨_, reserveUserQuotaTx_ok.mpr ⟨src, rfl⟩, rfl⟩
  | subscription =>
    rw [kind] at src
    obtain ⟨sub, found, room⟩ := src
    have fits : sub.Fits delta := by
      rintro ⟨limited, exceeded⟩
      have covered := room limited
      omega
    exact ⟨_, postConsumeUserSubscriptionDeltaTx_ok.mpr ⟨sub, found, fits, rfl⟩, rfl⟩

theorem appendBillingReservationTx_runs {reqId : String} (found : db.reservations.find reqId = some record)
    (reserved : record.state = .reserved) (funds : db.Funds record delta) (pos : 0 < delta) :
    ∃ db', (appendBillingReservationTx reqId delta).run db = .ok ((), db') := by
  obtain ⟨db₁, paid, tokens⟩ := appendSource_runs funds
  have room : db₁.TokenHolds record.tokenId delta record.unlimitedToken := by
    unfold DB.TokenHolds
    rw [tokens]
    exact funds.2
  exact ⟨_, (appendBillingReservationTx_ok found).mpr
    ⟨reserved, db₁, paid, _, (reserveTokenQuotaTx_ok (by omega)).mpr ⟨room, rfl⟩, rfl⟩⟩

theorem appendBillingReservationTx_found {requestId : String} {db' : DB}
    (found : db.reservations.find requestId = some record)
    (ran : (appendBillingReservationTx requestId delta).run db = .ok ((), db')) :
    ∃ now, db'.reservations.find requestId = some (record.appended delta now) := by
  obtain ⟨_, _, _, paid, _, rfl⟩ := (appendBillingReservationTx_ok found).mp ran
  refine ⟨paid.now, ?_⟩
  have key : record.requestId = requestId := Table.key_of_find found
  have same : (record.appended delta paid.now).requestId = requestId := key
  rw [← same]
  exact Table.find_put_self _ _

theorem Backed.call (backed : Backed info s db record) (call : SessionCall) :
    ∃ next, Backed info (applySessionCall (s, db) call).1 (applySessionCall (s, db) call).2 next ∧
      (next.state = .reserved ↔ record.state = .reserved ∧ call ≠ .markProviderStarted) := by
  cases call with
  | reserve goal =>
    rcases backed.reserve goal with same | ⟨delta, db', pos, ran, reserved⟩
    · exact ⟨record, by simpa only [applySessionCall, same] using backed, by simp⟩
    · obtain ⟨now, found⟩ := appendBillingReservationTx_found backed.found ran
      refine ⟨record.appended delta now, ?_, by simp [BillingReservationRecord.appended]⟩
      simpa only [applySessionCall, reserved] using backed.topUp pos found
  | markProviderStarted =>
    rcases backed.markProviderStarted with ⟨other, same⟩ | ⟨_, marked⟩
    · exact ⟨record, by simpa only [applySessionCall, same] using backed, by simp [other]⟩
    · refine ⟨record.moved .providerStarted db.now, ?_, by simp [BillingReservationRecord.moved]⟩
      have key : record.requestId = info.requestId := Table.key_of_find backed.found
      have same : (record.moved .providerStarted db.now).requestId = info.requestId := key
      simpa only [applySessionCall, marked] using backed.marked (same ▸ Table.find_put_self db.reservations _)

/-- The record stays open for more as long as no attempt is marked. -/
theorem Backed.run (backed : Backed info s db record) (calls : List SessionCall) :
    ∃ last, Backed info (runSteps applySessionCall (s, db) calls).1 (runSteps applySessionCall (s, db) calls).2 last ∧
      (last.state = .reserved ↔ record.state = .reserved ∧ .markProviderStarted ∉ calls) := by
  induction calls generalizing s db record with
  | nil => exact ⟨record, backed, by simp⟩
  | cons call rest ih =>
    obtain ⟨next, nextBacked, kept⟩ := backed.call call
    obtain ⟨last, lastBacked, ended⟩ := ih nextBacked
    refine ⟨last, lastBacked, ?_⟩
    rw [ended, kept, List.mem_cons, not_or, and_assoc, ne_comm]

theorem top_up_succeeds_iff (recorded : Recorded s db record) (above : s.preConsumedQuota < target)
    (funds : db.Funds record (target - s.preConsumedQuota)) :
    ToppedUp s.relayInfo.requestId target (s.reserve db target) ↔
      record.state = .reserved ∧ record.amount = s.preConsumedQuota := by
  constructor
  · intro toppedUp
    rcases reserve_of_found recorded.running recorded.named recorded.found above with
      ⟨db', ran, reserved⟩ | ⟨failure, _, reserved⟩
    · obtain ⟨state, _⟩ := (appendBillingReservationTx_ok recorded.found).mp ran
      obtain ⟨now, after⟩ := appendBillingReservationTx_found recorded.found ran
      obtain ⟨record', found, amount⟩ := toppedUp.reserved
      rw [reserved, after] at found
      cases found
      have total : record.amount + (target - s.preConsumedQuota) = target := amount
      exact ⟨state, by omega⟩
    · have succeeded := toppedUp.succeeded
      rw [reserved] at succeeded
      cases succeeded
  · rintro ⟨state, amount⟩
    obtain ⟨_, runs⟩ := appendBillingReservationTx_runs recorded.found state funds (by omega)
    rcases reserve_of_found recorded.running recorded.named recorded.found above with
      ⟨db', ran, reserved⟩ | ⟨failure, ran, _⟩
    · obtain ⟨now, after⟩ := appendBillingReservationTx_found recorded.found ran
      rw [reserved]
      refine ⟨rfl, ?_, _, after, ?_⟩
      · show s.preConsumedQuota + (target - s.preConsumedQuota) = target
        omega
      · show record.amount + (target - s.preConsumedQuota) = target
        omega
    · rw [runs] at ran
      cases ran

theorem top_up_succeeds_iff_walletRequest :
    ∃ session db₁, newBillingSession (DB.single 100) walletRequest 10 = (.ok session, db₁) ∧
      ToppedUp session.relayInfo.requestId 30 (session.reserve db₁ 30) := by
  refine ⟨_, _, rfl, ?_⟩
  refine (top_up_succeeds_iff ⟨?_, ?_, rfl⟩ ?_ ⟨?_, ?_⟩).mpr ?_
  · decide
  · decide
  · decide
  · exact ⟨_, rfl, by decide, by decide⟩
  · exact fun _ => ⟨_, rfl, by decide, by decide⟩
  · decide

end

def tieredPrice : PriceData where
  freeModel := false
  quotaToPreConsume := 10
  quotaClamped := false
  groupRatio := 1
  tieredBillingSnapshot := some
    { billingMode := "tiered_expr", groupRatio := 1, estimatedQuotaBeforeGroup := 10,
      estimatedQuotaAfterGroup := 10 }

def dearerRetry : List RelayAttempt :=
  [{ groupRatio := some 1, bodyReadable := true, failure := some .explicitFailure, retriable := true },
    { groupRatio := some 2, bodyReadable := true, failure := none, retriable := false }]

def adjustedAttempt : SubmitAttempt where
  quota := 10
  freeModel := false
  quotaClamped := false
  outcome := .accepted 20
  cancelled := false
  retriable := false

def adjustedTask : TaskSubmission where
  imageOperation := false
  attempts := [adjustedAttempt]
  cancelledBeforeReserve := false
  cancelledBeforeInsert := false
  inserted := true

theorem dispatched_request_cannot_top_up :
    (newBillingSession (DB.single 100) walletRequest 10).2.userBalance 1 = 90 ∧
      (newBillingSession (DB.single 100) walletRequest 10).2.tokenBalance 1 = 90 ∧
      (relay (DB.single 100) walletRequest tieredPrice dearerRetry).failure =
        some (.reserveFailed (.store .billingReservationStateConflict)) ∧
      (executeTaskSubmissionWith (DB.single 100) walletRequest adjustedTask).result = .error .insufficientQuota := by
  decide +kernel

end Wildflow.Billing

import Wildflow.Billing.TaskOperation
import Wildflow.Proof.Billing.Operation
import Wildflow.Proof.Billing.SessionConservation

/-!
# What the calls on a task operation do

The operation leaves the state of submission at most once, and the attachment settles the request's reservation.
-/

namespace Wildflow.Billing
open Wildflow.Store Tx Table List Option
variable {record : BillingReservationRecord} {delta : Int} {u : Unit}

structure MoneyMoved (db db' : DB) : Prop where
  now : db'.now = db.now
  operations : db'.operations = db.operations
  tasks : db'.tasks = db.tasks
  billingLog : db'.billingLog = db.billingLog
  used : ∀ user, db'.userUsedQuota user = db.userUsedQuota user
  requests : ∀ user, db'.userRequestCount user = db.userRequestCount user
  live : ∀ user, db'.LiveUser user ↔ db.LiveUser user

section
variable {db db' db'' : DB}

theorem MoneyMoved.refl (db : DB) : MoneyMoved db db :=
  ⟨rfl, rfl, rfl, rfl, fun _ => rfl, fun _ => rfl, fun _ => Iff.rfl⟩

theorem MoneyMoved.trans (first : MoneyMoved db db') (second : MoneyMoved db' db'') : MoneyMoved db db'' where
  now := second.now.trans first.now
  operations := second.operations.trans first.operations
  tasks := second.tasks.trans first.tasks
  billingLog := second.billingLog.trans first.billingLog
  used user := (second.used user).trans (first.used user)
  requests user := (second.requests user).trans (first.requests user)
  live user := (second.live user).trans (first.live user)

theorem MoneyMoved.debitUser (db : DB) (id amt : Int) : MoneyMoved db (db.debitUser id amt) where
  now := rfl
  operations := rfl
  tasks := rfl
  billingLog := rfl
  used := userUsedQuota_debitUser db id amt
  requests := userRequestCount_debitUser db id amt
  live := debitUser_liveUser db id amt

theorem MoneyMoved.frame (tokens : Table Token.id) (subscriptions : Table UserSubscription.id)
    (records : Table SubscriptionPreConsumeRecord.requestId)
    (reservations : Table BillingReservationRecord.requestId) :
    MoneyMoved db { db with
      tokens, userSubscriptions := subscriptions, preConsumeRecords := records, reservations } :=
  ⟨rfl, rfl, rfl, rfl, fun _ => rfl, fun _ => rfl, fun _ => Iff.rfl⟩

theorem MoneyMoved.debitToken (db : DB) (id amt : Int) : MoneyMoved db (db.debitToken id amt) :=
  .frame _ _ _ _

theorem MoneyMoved.putReservation (db : DB) (record : BillingReservationRecord) :
    MoneyMoved db (db.putReservation record) :=
  .frame _ _ _ _

theorem settleSource_moves (nonzero : delta ≠ 0) (ran : (settleSource record delta).run db = .ok (u, db')) :
    MoneyMoved db db' ∧ db'.reservations = db.reservations := by
  unfold settleSource at ran
  split at ran
  · obtain ⟨_, rfl⟩ := (adjustUserQuotaDeltaTx_ok nonzero).mp ran
    exact ⟨.debitUser db _ _, rfl⟩
  · obtain ⟨_, _, _, rfl⟩ := postConsumeUserSubscriptionDeltaTx_ok.mp ran
    exact ⟨.frame _ _ _ _, rfl⟩

theorem releaseSource_moves (ran : (releaseSource record).run db = .ok (u, db')) :
    MoneyMoved db db' ∧ db'.reservations = db.reservations := by
  unfold releaseSource at ran
  split at ran
  · obtain rfl := refundUser_ok.mp ran
    exact ⟨.debitUser db _ _, rfl⟩
  rw [run_bind_ok] at ran
  obtain ⟨_, back, returned, rest⟩ := ran
  obtain ⟨_, _, rfl⟩ := refundSubscriptionPreConsumeTx_frame returned
  split at rest
  · obtain ⟨_, _, _, rfl⟩ := postConsumeUserSubscriptionDeltaTx_ok.mp rest
    exact ⟨.frame _ _ _ _, rfl⟩
  · obtain ⟨_, rfl⟩ := run_pure_ok.mp rest
    exact ⟨.frame _ _ _ _, rfl⟩

variable {requestId : String} {record : BillingReservationRecord}

theorem settleBillingReservationTx_moves (found : db.reservations.find requestId = some record) (opened : record.Open)
    (ran : (settleBillingReservationTx requestId delta).run db = .ok (u, db')) :
    MoneyMoved db db' ∧ db'.reservations = db.reservations.put (record.moved .settled db.now) := by
  have eff := (settleBillingReservationTx_open found opened).mp ran
  split at eff
  · subst eff
    exact ⟨.putReservation db _, rfl⟩
  rename_i ne
  obtain ⟨funded, src, paid⟩ := eff
  obtain ⟨_, rfl⟩ := adjustTokenQuotaDeltaTx_ok.mp paid
  obtain ⟨moved, kept⟩ := settleSource_moves ne src
  exact ⟨((MoneyMoved.putReservation db _).trans moved).trans (.debitToken funded _ _), kept⟩

theorem releaseReservation_moves (db : DB) (requestId : String) (reservedOnly : Bool) :
    (releaseReservation db requestId reservedOnly).2 = db ∨
    ∃ record, db.reservations.find requestId = some record ∧ record.Open ∧
      MoneyMoved db (releaseReservation db requestId reservedOnly).2 ∧
      (releaseReservation db requestId reservedOnly).2.reservations =
        db.reservations.put (record.moved .released db.now) := by
  rcases releaseReservation_cases db requestId reservedOnly with same | ⟨record, db', found, freed, ran, out⟩
  · exact .inl same
  · obtain ⟨_, funded, src, rfl⟩ := (releaseBillingReservationTx_open found freed).mp ran
    obtain ⟨moved, kept⟩ := releaseSource_moves src
    rw [out]
    exact .inr ⟨record, found, open_of_not_kept freed,
      ((MoneyMoved.putReservation db _).trans moved).trans (.debitToken funded _ _), kept⟩

end

structure SameOperation (operation current : WildFlowOperation) : Prop where
  operationId : current.operationId = operation.operationId
  userId : current.userId = operation.userId
  tokenId : current.tokenId = operation.tokenId
  key : current.idempotencyKeyDigest = operation.idempotencyKeyDigest
  requestId : current.requestId = operation.requestId
  taskId : current.taskId = operation.taskId
  billingState : current.billingState = operation.billingState

theorem SameOperation.refl (operation : WildFlowOperation) : SameOperation operation operation :=
  ⟨rfl, rfl, rfl, rfl, rfl, rfl, rfl⟩

theorem SameOperation.trans {first second third : WildFlowOperation} (one : SameOperation first second)
    (two : SameOperation second third) : SameOperation first third :=
  ⟨two.operationId.trans one.operationId, two.userId.trans one.userId, two.tokenId.trans one.tokenId,
    two.key.trans one.key, two.requestId.trans one.requestId, two.taskId.trans one.taskId,
    two.billingState.trans one.billingState⟩

theorem submissionFailed_same (uncertain : Bool) (now : Int) (op : WildFlowOperation) :
    SameOperation op (op.submissionFailed uncertain now) := by
  cases uncertain <;> exact ⟨rfl, rfl, rfl, rfl, rfl, rfl, rfl⟩

theorem accepted_same (quota now : Int) (op : WildFlowOperation) : SameOperation op (op.accepted quota now) :=
  ⟨rfl, rfl, rfl, rfl, rfl, rfl, rfl⟩

variable {db : DB} {current : WildFlowOperation}

inductive FailureRecorded (db : DB) (current : WildFlowOperation) : DB → Prop where
  | unchanged : FailureRecorded db current db
  | recorded (uncertain : Bool) (submitting : current.state = "task_submitting") :
      FailureRecorded db current (db.putOperation (current.submissionFailed uncertain db.now))

variable (found : db.operations.find current.operationId = some current)
include found

theorem resolveTaskOperationReplay_effect
    {copy : WildFlowOperation} (own : copy.operationId = current.operationId) (digest : String) :
    FailureRecorded db current (resolveTaskOperationReplay db copy digest).2 := by
  unfold resolveTaskOperationReplay
  split
  · exact .unchanged
  split
  · have new : FailureRecorded db current { db with
        operations := (db.operations.updateWhere copy.operationId
          (fun stored => stored.state = "task_submitting") (WildFlowOperation.unknownOutcome db.now)).1 } := by
      rw [own]
      rcases updateWhere_cases db.operations current.operationId
          (fun stored => stored.state = "task_submitting") (WildFlowOperation.unknownOutcome db.now) with
        ⟨row, same, holds, out⟩ | ⟨_, out⟩
      · rw [out]
        obtain rfl := mem_unique found same
        exact @FailureRecorded.recorded db current true (of_decide_eq_true holds)
      · rw [out]
        exact .unchanged
    dsimp only
    split <;> exact new
  · exact .unchanged

theorem recordTaskOperationSubmissionFailure_effect (uncertain : Bool) :
    FailureRecorded db current (recordTaskOperationSubmissionFailure db current.operationId uncertain).2 := by
  unfold recordTaskOperationSubmissionFailure
  rcases updateWhere_cases db.operations current.operationId
      (fun stored => stored.state = "task_submitting" && stored.billingState = .managedByTask)
      (WildFlowOperation.submissionFailed uncertain db.now) with
    ⟨row, same, holds, new⟩ | ⟨_, new⟩
  · rw [new]
    obtain rfl := mem_unique found same
    simp only [Bool.and_eq_true, decide_eq_true_eq] at holds
    exact .recorded uncertain holds.1
  · rw [new]
    exact .unchanged

theorem reserveTaskOperation_replay (alone : ∀ row ∈ db.operations.rows, row.userId = current.userId →
      row.idempotencyKeyDigest = current.idempotencyKeyDigest → row = current)
    {cand : WildFlowOperation} (user : cand.userId = current.userId)
    (key : cand.idempotencyKeyDigest = current.idempotencyKeyDigest) :
    FailureRecorded db current (reserveTaskOperation db cand).2 := by
  have looked : getWildFlowOperationByUserAndKey db cand.userId cand.idempotencyKeyDigest = some current := by
    unfold getWildFlowOperationByUserAndKey
    rw [user, key]
    cases hit : db.operations.rows.find? fun op =>
        op.userId = current.userId ∧ op.idempotencyKeyDigest = current.idempotencyKeyDigest with
    | none =>
      have missed := find?_eq_none.mp hit current (mem_of_find found)
      simp at missed
    | some row =>
      have holds := find?_some hit
      simp only [decide_eq_true_eq] at holds
      rw [alone row (mem_of_find?_eq_some hit) holds.1 holds.2]
  unfold reserveTaskOperation
  split
  · exact .unchanged
  · rw [looked]
    exact resolveTaskOperationReplay_effect found rfl _

structure Inserted (db : DB) (current : WildFlowOperation) (task : TaskRow) (funded : DB)
    (log : Table WildFlowBillingLogEntry.primaryKey) (db' : DB) : Prop where
  nonnegative : 0 ≤ task.quota
  user : current.userId = task.userId
  taskId : current.taskId = task.taskId
  attachable : current.canAttach = true
  settled : (settleAttachedReservationTx current task).run
    (db.putOperation (current.accepted task.quota db.now)) = .ok ((), funded)
  logged : (log.find (current.operationId, .consume)).isSome
  result : db' = addUserUse { insertTask funded { task with id := nextTaskId funded } with billingLog := log }
    task.userId task.quota 1

theorem insertTaskForOperation_cases (task : TaskRow) :
    (insertTaskForOperation db current.operationId task).2 = db ∨
    ∃ funded log, Inserted db current task funded log (insertTaskForOperation db current.operationId task).2 := by
  unfold insertTaskForOperation
  split
  · exact .inl rfl
  rename_i bounds
  refine commit_elim (commit _ db) rfl (fun _ => .inl rfl) fun _ db' ran => ?_
  simp only [insertTaskForOperationTx, run_bind_ok, run_read_ok, run_orFail_ok,
    run_ensure_ok, filter_eq_some_iff] at ran
  obtain ⟨_, _, ⟨rfl, rfl⟩, op, _, ⟨⟨same, user⟩, rfl⟩, _, _, ⟨⟨taskId, attachable, _⟩, rfl⟩,
    rows, accepted, new, _, _, ⟨_, rfl⟩, _, funded, settled, _, inserted, made, _, logged, audited,
    _, counted, use, done⟩ := ran
  obtain rfl := mem_unique found same
  rw [updateOperation_hit found (by simp)] at new
  cases new
  simp only [createTaskTx, run_bind_ok, run_read_ok, run_write_ok] at made
  obtain ⟨_, _, ⟨rfl, rfl⟩, rfl⟩ := made
  obtain ⟨stored, own, rfl⟩ := ensureWildFlowCanonicalBillingLogTx_stores audited
  obtain ⟨rows, used⟩ := updateUser_addUse _ task.userId task.quota 1
  rw [used] at use
  cases use
  obtain ⟨_, rfl⟩ := run_pure_ok.mp done
  refine .inr ⟨funded, _, ⟨by omega, of_decide_eq_true user, taskId, attachable, settled, ?_, rfl⟩⟩
  rw [← own]
  exact isSome_iff_exists.mpr ⟨_, find_put_self _ _⟩

end Wildflow.Billing

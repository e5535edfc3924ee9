import Wildflow.Proof.Billing.OperationLedger
import Wildflow.Proof.Billing.TaskFunding
import Wildflow.Proof.Billing.TaskRefund

/-!
# An image task is attached once

One operation, the session of its request, and what may happen to them: replays, the end of the lease, failures,
attachments and the session's own settlement or refund.
-/

namespace Wildflow.Billing
open Wildflow.Store Table List

structure OperationHeld (operation current : WildFlowOperation) (db : DB) : Prop where
  same : SameOperation operation current
  found : db.operations.find current.operationId = some current
  alone : ∀ row ∈ db.operations.rows, row.userId = current.userId →
    row.idempotencyKeyDigest = current.idempotencyKeyDigest → row = current

structure Attached (start : DB) (operation current : WildFlowOperation) (task : Option TaskRow) (db : DB) : Prop where
  accepted : current.state = "task_accepted" ↔ task.isSome = true
  tasks : attachedTasks db operation = task.toList
  entry : (db.billingLog.find (operation.operationId, .consume)).isSome = task.isSome
  live : db.LiveUser operation.userId
  used : db.userUsedQuota operation.userId = start.userUsedQuota operation.userId + (task.map (·.quota)).getD 0
  requests : db.userRequestCount operation.userId = start.userRequestCount operation.userId + task.toList.length

section
variable {start db db' : DB} {operation current : WildFlowOperation} {task : Option TaskRow}

theorem OperationHeld.put {changed : WildFlowOperation} (held : OperationHeld operation current db)
    (same : SameOperation current changed) : OperationHeld operation changed (db.putOperation changed) where
  same := held.same.trans same
  found := find_put_self _ _
  alone row mem user key := by
    rcases mem_put.mp mem with rfl | ⟨old, other⟩
    · rfl
    · have own := held.alone row old (user.trans same.userId) (key.trans same.key)
      exact absurd (by rw [own, same.operationId]) other

theorem OperationHeld.moved (held : OperationHeld operation current db) (moved : MoneyMoved db db') :
    OperationHeld operation current db' :=
  ⟨held.same, by rw [moved.operations]; exact held.found, by rw [moved.operations]; exact held.alone⟩

theorem OperationHeld.call (held : OperationHeld operation current db) (call : OperationCall) :
    (∃ now, applyOperationCall operation db call = { db with now }) ∨
    FailureRecorded db current (applyOperationCall operation db call) := by
  have same := held.same
  cases call with
  | replay cand =>
    exact .inr (reserveTaskOperation_replay held.found held.alone same.userId.symm same.key.symm)
  | resolve copy digest =>
    let other := { copy with operationId := operation.operationId }
    exact .inr (@resolveTaskOperationReplay_effect _ _ held.found other same.operationId.symm digest)
  | recordFailure uncertain =>
    have eff := recordTaskOperationSubmissionFailure_effect held.found uncertain
    rw [same.operationId] at eff
    exact .inr eff
  | tick seconds => exact .inl ⟨_, rfl⟩

theorem canAttach_not_accepted (attachable : current.canAttach = true) : current.state ≠ "task_accepted" := by
  intro accepted
  unfold WildFlowOperation.canAttach at attachable
  rw [accepted] at attachable
  simp at attachable

section
variable (attached : Attached start operation current task db)
include attached

theorem Attached.moved (moved : MoneyMoved db db') : Attached start operation current task db' where
  accepted := attached.accepted
  tasks := by
    unfold attachedTasks
    rw [moved.tasks]
    exact attached.tasks
  entry := by rw [moved.billingLog]; exact attached.entry
  live := (moved.live _).mpr attached.live
  used := (moved.used _).trans attached.used
  requests := (moved.requests _).trans attached.requests

theorem Attached.failed (sending : current.state = "task_submitting") (uncertain : Bool) (now : Int) :
    Attached start operation (current.submissionFailed uncertain now) task
      (db.putOperation (current.submissionFailed uncertain now)) where
  accepted := by
    have unattached := attached.accepted
    rw [sending] at unattached
    rw [← unattached]
    cases uncertain <;> simp [WildFlowOperation.submissionFailed, WildFlowOperation.unknownOutcome]
  tasks := attached.tasks
  entry := attached.entry
  live := attached.live
  used := attached.used
  requests := attached.requests

theorem Attached.ticked (now : Int) : Attached start operation current task { db with now } :=
  ⟨attached.accepted, attached.tasks, attached.entry, attached.live, attached.used, attached.requests⟩

end

theorem Attached.insert {row : TaskRow} {funded : DB} {log : Table WildFlowBillingLogEntry.primaryKey}
    (held : OperationHeld operation current db) (attached : Attached start operation current none db)
    (inserted : Inserted db current row funded log db')
    (moved : MoneyMoved (db.putOperation (current.accepted row.quota db.now)) funded) :
    OperationHeld operation (current.accepted row.quota db.now) db' ∧
    Attached start operation (current.accepted row.quota db.now) (some { row with id := nextTaskId funded }) db' := by
  obtain rfl := inserted.result
  have user : row.userId = operation.userId := inserted.user.symm.trans held.same.userId
  have fundedHeld := (held.put (accepted_same row.quota db.now current)).moved moved
  let stored : DB := { insertTask funded { row with id := nextTaskId funded } with billingLog := log }
  have live : stored.LiveUser operation.userId := (moved.live _).mpr attached.live
  have entered : (insertTask funded { row with id := nextTaskId funded }).tasks.rows =
      funded.tasks.rows ++ [{ row with id := nextTaskId funded }] :=
    rows_put_of_fresh (nextTaskId_fresh funded)
  have none : attachedTasks funded operation = [] := by
    unfold attachedTasks
    rw [moved.tasks]
    exact attached.tasks
  refine ⟨⟨fundedHeld.same, fundedHeld.found, fundedHeld.alone⟩, ?_⟩
  rw [user]
  exact {
    accepted := by simp [WildFlowOperation.accepted]
    tasks := by
      change (insertTask funded { row with id := nextTaskId funded }).tasks.rows.filter _ = _
      rw [entered, filter_append]
      have own : row.taskId = operation.taskId := inserted.taskId.symm.trans held.same.taskId
      unfold attachedTasks at none
      rw [none]
      simp [own]
    entry := by
      change (log.find (operation.operationId, .consume)).isSome = _
      rw [← held.same.operationId]
      exact inserted.logged
    live := addUserUse_liveUser _ _ _ live
    used := by
      have before := (moved.used operation.userId).trans attached.used
      have counted := userUsedQuota_addUserUse operation.userId live row.quota 1
      rw [if_pos rfl] at counted
      exact counted.trans (congrArg (· + row.quota) (before.trans (Int.add_zero _)))
    requests := by
      have before := (moved.requests operation.userId).trans attached.requests
      have counted := userRequestCount_addUserUse operation.userId live row.quota 1
      rw [if_pos rfl] at counted
      exact counted.trans (congrArg (· + 1) (before.trans (Int.add_zero _))) }

end

theorem reserveTaskOperation_created {db db' : DB} {cand operation : WildFlowOperation}
    (made : reserveTaskOperation db cand = (.ok (operation, true), db')) :
    operation = cand.submitting db.now ∧ db' = db.putOperation operation ∧ OperationHeld operation operation db' := by
  unfold reserveTaskOperation at made
  split at made
  · cases made
  split at made
  · grind [resolveTaskOperationReplay]
  rename_i unknown
  dsimp only at made
  split at made
  · cases made
  cases made
  refine ⟨rfl, rfl, .refl _, find_put_self _ _, ?_⟩
  intro row mem user key
  rcases mem_put.mp mem with rfl | ⟨old, _⟩
  · rfl
  · have missed := find?_eq_none.mp unknown row old
    simp only [decide_eq_true_eq] at missed
    exact absurd ⟨user, key⟩ missed

structure AttachState (before start : DB) (info : RelayInfo) (operation current : WildFlowOperation)
    (task : Option TaskRow) (s : AttachSystem) : Prop where
  held : OperationHeld operation current s.db
  attached : Attached start operation current task s.db
  funding : Funding before info s task

structure AttachKept (requestId : String) (current current' : WildFlowOperation) (s s' : AttachSystem) : Prop where
  failed : current.state = "task_failed" → current'.state = "task_failed"
  settled : reservationSettled requestId s = true → reservationSettled requestId s' = true

section
variable {before start : DB} {info : RelayInfo} {operation current : WildFlowOperation} {task : Option TaskRow}
  {s s' : AttachSystem}

theorem reservationSettled_congr {reqId : String} (kept : s'.db.reservations = s.db.reservations) :
    reservationSettled reqId s' = reservationSettled reqId s := by
  unfold reservationSettled
  rw [kept]

theorem AttachKept.of_reservations {reqId : String} (kept : s'.db.reservations = s.db.reservations) :
    AttachKept reqId current current s s' :=
  ⟨id, fun settled => (reservationSettled_congr kept).trans settled⟩

variable (state : AttachState before start info operation current task s)
include state

theorem AttachState.call (call : OperationCall) :
    ∃ current', AttachState before start info operation current' task
        { s with db := applyOperationCall operation s.db call } ∧
      AttachKept info.requestId current current' s { s with db := applyOperationCall operation s.db call } := by
  rcases state.held.call call with ⟨now, ticked⟩ | eff
  · rw [ticked]
    exact ⟨current, ⟨⟨state.held.same, state.held.found, state.held.alone⟩, state.attached.ticked now,
      state.funding.congr (.frame _ _ _ _ _) rfl⟩, .of_reservations rfl⟩
  · generalize applyOperationCall operation s.db call = db' at eff
    cases eff with
    | unchanged => exact ⟨current, state, .of_reservations rfl⟩
    | recorded uncertain sending =>
      refine ⟨_, ⟨state.held.put (submissionFailed_same ..), state.attached.failed sending uncertain s.db.now,
        state.funding.congr (.frame _ _ _ _ _) rfl⟩, ?_, fun settled => settled⟩
      intro failed
      exact absurd (failed.symm.trans sending) (by decide)

theorem AttachState.called (moved : SessionMoved before info task s s') :
    ∃ current', AttachState before start info operation current' task s' ∧
      AttachKept info.requestId current current' s s' := by
  refine ⟨current, ⟨state.held.moved moved.moved, state.attached.moved moved.moved, moved.funding⟩, id, ?_⟩
  intro settled
  have attached := state.funding.attached_of_settled settled
  exact (reservationSettled_congr (moved.kept attached)).trans settled

theorem AttachState.inserted (own : operation.requestId = info.requestId) (row : TaskRow) :
    ∃ current' task', AttachState before start info operation current' task'
        { s with db := (insertTaskForOperation s.db operation.operationId row).2 } ∧
      AttachKept info.requestId current current' s
        { s with db := (insertTaskForOperation s.db operation.operationId row).2 } := by
  rw [← state.held.same.operationId]
  rcases insertTaskForOperation_cases state.held.found row with unchanged | ⟨funded, log, inserted⟩
  · rw [unchanged]
    exact ⟨current, task, state, .of_reservations rfl⟩
  have unattached : task = none := by
    have refused := canAttach_not_accepted inserted.attachable
    rw [Ne, state.attached.accepted] at refused
    simpa using refused
  subst unattached
  obtain ⟨moved, funding⟩ := state.funding.insert (state.held.same.requestId.trans own) inserted
  obtain ⟨held, attached⟩ := Attached.insert state.held state.attached inserted moved
  refine ⟨_, _, ⟨held, attached, funding⟩, ?_, ?_⟩
  · intro failed
    have attachable := inserted.attachable
    simp [WildFlowOperation.canAttach, failed] at attachable
  · intro settled
    have impossible := state.funding.attached_of_settled settled
    cases impossible

theorem AttachState.step (own : operation.requestId = info.requestId) (step : AttachStep) :
    ∃ current' task', AttachState before start info operation current' task' (applyAttachStep operation s step) ∧
      AttachKept info.requestId current current' s (applyAttachStep operation s step) := by
  cases step with
  | call call =>
    obtain ⟨current', after, kept⟩ := state.call call
    exact ⟨current', task, after, kept⟩
  | insertTask row => exact state.inserted own row
  | markProviderStarted =>
    unfold applyAttachStep
    cases bound : s.relay.billing with
    | none => exact ⟨current, task, state, .of_reservations rfl⟩
    | some session =>
      obtain ⟨current', after, kept⟩ := state.called (state.funding.markProviderStarted bound)
      exact ⟨current', task, after, kept⟩
  | settle =>
    unfold applyAttachStep
    rw [state.attached.tasks]
    cases task with
    | none => exact ⟨current, none, state, .of_reservations rfl⟩
    | some row =>
      obtain ⟨current', after, kept⟩ := state.called state.funding.settle
      exact ⟨current', some row, after, kept⟩
  | refund =>
    unfold applyAttachStep
    cases bound : s.relay.billing with
    | none => exact ⟨current, task, state, .of_reservations rfl⟩
    | some session =>
      obtain ⟨current', after, kept⟩ := state.called (state.funding.refund bound)
      exact ⟨current', task, after, kept⟩

end

structure Waiting (start : DB) (operation current : WildFlowOperation) (db : DB) : Prop where
  held : OperationHeld operation current db
  attached : Attached start operation current none db
  reservations : db.reservations = start.reservations
  preConsumeRecords : db.preConsumeRecords = start.preConsumeRecords
  subscriptions : db.userSubscriptions = start.userSubscriptions

section
variable {start db : DB} {operation current : WildFlowOperation}

theorem Waiting.call (waiting : Waiting start operation current db) (call : OperationCall) :
    ∃ current', Waiting start operation current' (applyOperationCall operation db call) := by
  rcases waiting.held.call call with ⟨now, ticked⟩ | eff
  · rw [ticked]
    exact ⟨current, ⟨waiting.held.same, waiting.held.found, waiting.held.alone⟩, waiting.attached.ticked now,
      waiting.reservations, waiting.preConsumeRecords, waiting.subscriptions⟩
  · generalize applyOperationCall operation db call = db' at eff
    cases eff with
    | unchanged => exact ⟨current, waiting⟩
    | recorded uncertain sending =>
      exact ⟨_, waiting.held.put (submissionFailed_same ..), waiting.attached.failed sending uncertain db.now,
        waiting.reservations, waiting.preConsumeRecords, waiting.subscriptions⟩

theorem Waiting.run (waiting : Waiting start operation current db) (calls : List OperationCall) :
    ∃ current', Waiting start operation current' (runSteps (applyOperationCall operation) db calls) := by
  induction calls generalizing current db with
  | nil => exact ⟨current, waiting⟩
  | cons call rest ih =>
    obtain ⟨next, waitingNext⟩ := waiting.call call
    exact ih waitingNext

end

structure FreshOperation (db : DB) (operation : WildFlowOperation) : Prop where
  task : ∀ task ∈ db.tasks.rows, task.taskId ≠ operation.taskId
  entry : db.billingLog.find (operation.operationId, .consume) = none
  reservation : db.reservations.find operation.requestId = none
  preConsume : db.preConsumeRecords.find operation.requestId = none

def PaidFor (before db : DB) (info : RelayInfo) (quota : Int) : Prop :=
  match db.reservations.find info.requestId with
  | none => quota = 0 ∧ NetCharge before db info none 0
  | some record => record.state = .settled ∧ NetCharge before db info record.chargedSubscription quota

def consumeEntries (db : DB) (operation : WildFlowOperation) : List WildFlowBillingLogEntry :=
  db.billingLog.rows.filter fun entry => entry.primaryKey = (operation.operationId, .consume)

structure AttachedOnce (start before : DB) (info : RelayInfo) (operation : WildFlowOperation) (s : AttachSystem) :
    Prop where
  task : (attachedTasks s.db operation).length ≤ 1
  charge : ∀ task ∈ attachedTasks s.db operation, PaidFor before s.db info task.quota
  settled : reservationSettled info.requestId s = true → attachedTasks s.db operation ≠ []
  used : s.db.userUsedQuota operation.userId = start.userUsedQuota operation.userId +
    ((attachedTasks s.db operation).map (·.quota)).sum
  requests : s.db.userRequestCount operation.userId = start.userRequestCount operation.userId +
    (attachedTasks s.db operation).length
  entry : (consumeEntries s.db operation).length = (attachedTasks s.db operation).length

section
variable {before start : DB} {info : RelayInfo} {operation current : WildFlowOperation} {task : Option TaskRow}
  {s : AttachSystem}

theorem Funding.paid {row : TaskRow} (funding : Funding before info s (some row)) :
    PaidFor before s.db info row.quota := by
  unfold PaidFor
  cases funding with
  | idle task missing idle charge free =>
    rw [missing]
    exact ⟨free row rfl, charge⟩
  | settled session record row billing holds found state charge =>
    rw [found]
    exact ⟨state, charge⟩

section
variable (state : AttachState before start info operation current task s)
include state

theorem AttachState.once : AttachedOnce start before info operation s := by
  have tasks := state.attached.tasks
  refine ⟨?_, ?_, ?_, ?_, ?_, ?_⟩
  · rw [tasks]
    cases task <;> simp
  · intro row mem
    rw [tasks] at mem
    obtain rfl := Option.mem_toList.mp mem
    exact state.funding.paid
  · intro settled
    have some := state.funding.attached_of_settled settled
    rw [tasks]
    cases task with
    | none => cases some
    | some row => simp
  · rw [tasks, state.attached.used]
    cases task <;> simp
  · rw [tasks]
    exact state.attached.requests
  · have e := state.attached.entry
    unfold consumeEntries
    rw [tasks, filter_key]
    cases found : s.db.billingLog.find (operation.operationId, .consume) with
    | none => grind
    | some stored => grind

theorem AttachState.unattached_of_failed
    (failed : current.state = "task_failed") : attachedTasks s.db operation = [] := by
  have refused : ¬current.state = "task_accepted" := by rw [failed]; decide
  rw [state.attached.accepted] at refused
  rw [state.attached.tasks]
  cases task with
  | none => rfl
  | some row => exact absurd rfl refused

end

variable (own : operation.requestId = info.requestId)
include own

variable (state : AttachState before start info operation current task s)
include state

theorem AttachState.run (steps : List AttachStep) :
    ∃ current' task', AttachState before start info operation current' task'
      (runSteps (applyAttachStep operation) s steps) ∧
      (current.state = "task_failed" → current'.state = "task_failed") := by
  induction steps generalizing s current task with
  | nil => exact ⟨current, task, state, id⟩
  | cons step rest ih =>
    obtain ⟨next, task', after, kept⟩ := state.step own step
    obtain ⟨last, task'', final, later⟩ := ih after
    exact ⟨last, task'', final, fun failed => later (kept.failed failed)⟩

theorem AttachState.settled_once (steps : List AttachStep) :
    entries (applyAttachStep operation) (reservationSettled info.requestId) s steps ≤ 1 := by
  let Inv := fun s => ∃ current task, AttachState before start info operation current task s
  have preserved : ∀ s step, Inv s → True → Inv (applyAttachStep operation s step) := by
    rintro s step ⟨current, task, state⟩ _
    obtain ⟨current', task', after, _⟩ := state.step own step
    exact ⟨current', task', after⟩
  have stays : ∀ s step, Inv s → True → reservationSettled info.requestId s = true →
      reservationSettled info.requestId (applyAttachStep operation s step) = true := by
    rintro s step ⟨current, task, state⟩ _ settled
    obtain ⟨_, _, _, kept⟩ := state.step own step
    exact kept.settled settled
  have counted := entries_add preserved stays steps s ⟨current, task, state⟩ (guarded_of_all s steps fun _ _ _ => trivial)
  have bounded := Bool.toNat_le (reservationSettled info.requestId (runSteps (applyAttachStep operation) s steps))
  omega

end

theorem task_attached_once {db db₁ : DB} {candidate operation : WildFlowOperation} {info : RelayInfo}
    {start : AttachSystem} (created : reserveTaskOperation db candidate = (.ok (operation, true), db₁))
    (fresh : FreshOperation db operation) (live : db.LiveUser operation.userId)
    (sound : ∀ id sub, db.userSubscriptions.find id = some sub → 0 ≤ sub.amountUsed)
    (own : info.requestId = operation.requestId) (early : List OperationCall)
    (opened : Opened (runSteps (applyOperationCall operation) db₁ early) info start) (steps : List AttachStep) :
    let before := runSteps (applyOperationCall operation) db₁ early
    let final := runSteps (applyAttachStep operation) start steps
    AttachedOnce db before info operation final ∧
    entries (applyAttachStep operation) (reservationSettled info.requestId) start steps ≤ 1 ∧
    ((final.db.operations.find operation.operationId).map (·.state) = some "task_failed" →
      ∀ more, attachedTasks (runSteps (applyAttachStep operation) final more).db operation = []) := by
  obtain ⟨submitting, rfl, held⟩ := reserveTaskOperation_created created
  have waiting : Waiting db operation operation (db.putOperation operation) := by
    refine ⟨held, ⟨?_, ?_, ?_, live, (Int.add_zero _).symm, (Int.add_zero _).symm⟩, rfl, rfl, rfl⟩
    · rw [submitting]
      simp [WildFlowOperation.submitting]
    · rw [Option.toList_none]
      exact filter_eq_nil_iff.mpr fun task member => by simpa using fresh.task task member
    · change (db.billingLog.find (operation.operationId, .consume)).isSome = _
      rw [fresh.entry]
      rfl
  obtain ⟨current, ready⟩ := waiting.run early
  obtain ⟨moved, funding⟩ := opened.funding (by rw [ready.reservations, own]; exact fresh.reservation)
    (by rw [ready.preConsumeRecords, own]; exact fresh.preConsume) (by rw [ready.subscriptions]; exact sound)
  have state : AttachState (runSteps (applyOperationCall operation) (db.putOperation operation) early) db info
      operation current none start := ⟨ready.held.moved moved, ready.attached.moved moved, funding⟩
  obtain ⟨last, task, after, _⟩ := state.run own.symm steps
  refine ⟨after.once, state.settled_once own.symm steps, fun failed more => ?_⟩
  rw [← after.held.same.operationId, after.held.found] at failed
  obtain ⟨_, _, later, kept⟩ := after.run own.symm more
  exact later.unattached_of_failed (kept (Option.some.inj failed))

def sampleDigest : String := String.ofList (List.replicate 64 'a')

def imageCandidate : WildFlowOperation :=
  { audioOperation with
    operationId := "op-image", idempotencyKeyDigest := sampleDigest, requestDigest := sampleDigest
    requestId := "req", taskId := "task_1", submissionLeaseExpiresAt := 1060 }

def imageTask : TaskRow where
  userId := 1
  tokenId := 1
  quota := 25
  billingSource := .wallet
  subscriptionId := 0
  id := 0
  taskId := "task_1"
  channelId := 3
  status := .submitted
  submitTime := 1000
  progress := "0%"
  upstreamTaskId := "up-1"

def lateAnswer : List AttachStep :=
  [.markProviderStarted, .call (.tick 90), .call (.replay imageCandidate), .insertTask imageTask,
    .insertTask imageTask, .settle, .refund]

def imageOperation : WildFlowOperation := imageCandidate.submitting 1000

theorem imageCandidate_created : reserveTaskOperation (DB.single 100) imageCandidate =
    (.ok (imageOperation, true), (DB.single 100).putOperation imageOperation) := by
  unfold reserveTaskOperation
  rw [if_neg (by decide)]
  rfl

theorem task_attached_once_lateAnswer :
    ∃ session db, preConsumeBilling ((DB.single 100).putOperation imageOperation) walletRequest false 40 =
        (.ok session, db) ∧
      let final := runSteps (applyAttachStep imageOperation) ⟨db, ⟨walletRequest, some session⟩⟩ lateAnswer
      (attachedTasks final.db imageOperation).length = 1 ∧ final.db.userBalance 1 = 75 ∧
      AttachedOnce (DB.single 100) ((DB.single 100).putOperation imageOperation) walletRequest imageOperation
        final := by
  refine ⟨_, _, rfl, by decide, by decide, ?_⟩
  refine (task_attached_once imageCandidate_created ?_ ⟨_, rfl, rfl⟩ ?_ rfl []
    (@Opened.billed _ _ false 40 _ _ rfl) lateAnswer).1
  · exact ⟨by decide, by decide, by decide, by decide⟩
  · intro id sub found
    simp [DB.single, DB.empty] at found

end Wildflow.Billing

import Wildflow.Billing.TaskPolling
import Wildflow.Proof.Billing.Task

/-!
# What one poll does to a task

Every handler writes its copy back under the status it was read with and bills the task only if it has
finished it with that write. `PollEffect` says so once for all handlers.
-/

namespace Wildflow.Billing
open Wildflow.Store Table
variable {id : Int} {httpClass : PollClass} {row : TaskRow} {status : TaskStatus} {table : Table TaskRow.id}
  {poll : TaskPoll}

def TaskStatus.terminal (status : TaskStatus) : Bool :=
  status = .success || status = .failure

theorem TaskStatus.terminal_eq_false : status.terminal = false ↔ status ≠ .success ∧ status ≠ .failure := by
  simp [TaskStatus.terminal]

theorem isNonTerminalPollStatus_not_terminal
    (nonTerminal : isNonTerminalPollStatus status = true) : status.terminal = false := by
  cases status <;> first | rfl | (exact absurd nonTerminal (by decide))

section
variable {db : DB} {task : Task} (db task)

theorem taskAdjustFunding_tasks (d : Int) : (taskAdjustFunding db task d).2.tasks = db.tasks := by
  unfold taskAdjustFunding
  split
  · unfold postConsumeUserSubscriptionDelta
    split
    · rfl
    split
    · rfl
    · refine Tx.commit_elim (Tx.commit _ db) rfl (fun _ => rfl) fun _ _ ran => ?_
      obtain ⟨_, _, _, rfl⟩ := postConsumeUserSubscriptionDeltaTx_ok.mp ran
      rfl
  · have spent : ∀ amt, (db.spendUser task.userId amt).tasks = db.tasks := by
      intro amt
      unfold DB.spendUser
      split <;> rfl
    grind [decreaseUserQuota_eq, increaseUserQuota_cases]

theorem taskAdjustTokenQuota_tasks (d : Int) : (taskAdjustTokenQuota db task d).tasks = db.tasks := by
  unfold taskAdjustTokenQuota
  split
  · rfl
  split
  · rfl
  split
  · obtain ⟨_, _, frame⟩ := decreaseTokenQuota_frame db task.tokenId d
    rw [frame]
  · obtain ⟨_, _, frame⟩ := increaseTokenQuota_frame db task.tokenId (-d)
    rw [frame]

theorem updateUserUsedQuota_tasks (id quota : Int) : (updateUserUsedQuota db id quota).tasks = db.tasks := by
  unfold updateUserUsedQuota
  split <;> rfl

theorem taskMoney_tasks (d used : Int) :
    (updateUserUsedQuota (taskAdjustTokenQuota (taskAdjustFunding db task d).2 task d) task.userId
      used).tasks = db.tasks := by
  rw [updateUserUsedQuota_tasks, taskAdjustTokenQuota_tasks, taskAdjustFunding_tasks]

theorem refundTaskQuota_spec :
    (∃ quota, (refundTaskQuota db task).2.1 = { task with quota }) ∧ (refundTaskQuota db task).2.2.tasks = db.tasks := by
  unfold refundTaskQuota
  split
  · exact ⟨⟨task.quota, rfl⟩, rfl⟩
  have money := taskMoney_tasks db task (-task.quota) (-task.quota)
  have funding := taskAdjustFunding_tasks db task (-task.quota)
  revert money funding
  rcases taskAdjustFunding db task (-task.quota) with ⟨_ | _, _⟩
  · exact fun _ funding => ⟨⟨task.quota, rfl⟩, funding⟩
  · exact fun money _ => ⟨⟨0, rfl⟩, money⟩

theorem recalculateTaskQuota_spec (actual : Int) :
    (∃ quota, (recalculateTaskQuota db task actual).1 = { task with quota }) ∧
      (recalculateTaskQuota db task actual).2.tasks = db.tasks := by
  unfold recalculateTaskQuota
  dsimp only
  split
  · exact ⟨⟨task.quota, rfl⟩, rfl⟩
  have money := taskMoney_tasks db task (actual - task.quota) (actual - task.quota)
  have funding := taskAdjustFunding_tasks db task (actual - task.quota)
  revert money funding
  rcases taskAdjustFunding db task (actual - task.quota) with ⟨_ | _, _⟩
  · exact fun _ funding => ⟨⟨task.quota, rfl⟩, funding⟩
  · exact fun money _ => ⟨⟨actual, rfl⟩, money⟩

end

def TaskRow.withQuota (quota : Int) (task : TaskRow) : TaskRow :=
  { task with toTask := { task.toTask with quota } }

structure Turned (before after : Table TaskRow.id) (id : Int) (row : TaskRow) : Prop where
  found : after.find id = some row
  others : ∀ other, other ≠ id → after.find other = before.find other

theorem Turned.put (keyed : row.id = id) : Turned table (table.put row) id row := by
  subst keyed
  exact ⟨find_put_self table row, fun other ne => find_put_of_ne table row ne.symm⟩

theorem Turned.refl (found : table.find id = some row) : Turned table table id row :=
  ⟨found, fun _ _ => rfl⟩

theorem Turned.trans {first second third : Table TaskRow.id} {last : TaskRow}
    (one : Turned first second id row) (two : Turned second third id last) : Turned first third id last :=
  ⟨two.found, fun other ne => (two.others other ne).trans (one.others other ne)⟩

variable {env : TaskEnvironment} {db : DB} {task : TaskRow} {taskResult : TaskInfo}

structure Billed (db : DB) (task changed : TaskRow) (db' : DB) : Prop where
  quota : ∃ quota, changed = task.withQuota quota
  turned : db.tasks.find task.id = some task → Turned db.tasks db'.tasks task.id changed

theorem Billed.of_tasks {db' : DB} (tasks : db'.tasks = db.tasks) : Billed db task task db' :=
  ⟨⟨task.quota, rfl⟩, fun found => by rw [tasks]; exact .refl found⟩

theorem Billed.written {moved : DB} {changed : Task}
    (spec : (∃ quota, changed = { task.toTask with quota }) ∧ moved.tasks = db.tasks) :
    Billed db task { task with toTask := changed } (if changed.quota = task.quota then moved
        else updateTaskQuota moved { task with toTask := changed }) := by
  obtain ⟨⟨quota, rfl⟩, tasks⟩ := spec
  refine ⟨⟨quota, rfl⟩, fun found => ?_⟩
  split
  · rename_i same
    dsimp only at same
    subst same
    rw [tasks]
    exact .refl found
  · have new : (updateTaskQuota moved { task with toTask := { task.toTask with quota } }).tasks =
        db.tasks.put (task.withQuota quota) := by
      unfold updateTaskQuota
      dsimp only
      rw [tasks, updateWhere_hit found rfl]
      rfl
    rw [new]
    exact .put rfl

theorem TaskRow.refund_billed (db : DB) (task : TaskRow) : Billed db task (task.refund db).1 (task.refund db).2 := by
  have spec := refundTaskQuota_spec db task.toTask
  unfold TaskRow.refund
  revert spec
  rcases refundTaskQuota db task.toTask with ⟨_ | _, changed, moved⟩
  · exact fun spec => .of_tasks spec.2
  · exact .written

theorem TaskRow.recalculate_billed (db : DB) (task : TaskRow) (actual : Int) :
    Billed db task (task.recalculate db actual).1 (task.recalculate db actual).2 :=
  .written (recalculateTaskQuota_spec db task.toTask actual)

theorem settleTaskBillingOnComplete_cases (env : TaskEnvironment) (db : DB) (task : TaskRow) (taskResult : TaskInfo) :
    (∃ changed db', settleTaskBillingOnComplete env db task taskResult = (true, changed, db') ∧
      Billed db task changed db') ∨ settleTaskBillingOnComplete env db task taskResult = (false, task, db) := by
  have recalculated : ∀ actual, ∃ changed db',
      (true, (task.recalculate db actual).1, (task.recalculate db actual).2) = (true, changed, db') ∧
        Billed db task changed db' :=
    fun actual => ⟨_, _, rfl, task.recalculate_billed db actual⟩
  unfold settleTaskBillingOnComplete
  split
  · split
    · exact .inr rfl
    · split
      · exact .inl ⟨_, _, rfl, .of_tasks rfl⟩
      · exact .inl (recalculated _)
  split
  · exact .inr rfl
  split
  · exact .inl (recalculated _)
  dsimp only
  generalize (if taskResult.totalTokens = 0 ∧ 0 < taskResult.completionTokens then
    taskResult.completionTokens else taskResult.totalTokens) = tokens
  split
  · split
    · exact .inr rfl
    · exact .inl (recalculated _)
  · exact .inr rfl

/-- A failed task whose charge is not waived is settled or refunded, once. -/
structure Accounting (task : TaskRow) (waived : Bool) (poll : TaskPoll) : Prop where
  failed : poll.events ≠ [] → poll.task.status = .failure
  once : poll.events = [] ∨ ∃ event, poll.events = [event] ∧ event.id = task.id
  charged : poll.task.status = .failure → task.quota ≠ 0 → waived = false → poll.events ≠ []
  waived : waived = true → poll.task.status = .failure ∧ poll.events = []

theorem Accounting.single {ev : TaskEvent} (err : poll.task.status = .failure)
    (events : poll.events = [ev]) (own : ev.id = task.id) : Accounting task false poll :=
  ⟨fun _ => err, .inr ⟨ev, events, own⟩, fun _ _ _ => by simp [events], by simp⟩

theorem Accounting.none (events : poll.events = [])
    (free : poll.task.status = .failure → task.quota = 0) : Accounting task false poll :=
  ⟨fun some => absurd events some, .inl events, fun err owed _ => absurd (free err) owed, by simp⟩

theorem finalizeTaskBilling_spec (env : TaskEnvironment) (db : DB) (task : TaskRow) (taskResult : TaskInfo) :
    Billed db task (finalizeTaskBilling env db task taskResult).task (finalizeTaskBilling env db task taskResult).db ∧
    Accounting task false (finalizeTaskBilling env db task taskResult) := by
  unfold finalizeTaskBilling
  rcases settleTaskBillingOnComplete_cases env db task taskResult with ⟨changed, db', settled, billed⟩ | undecided
  · rw [settled]
    obtain ⟨quota, rfl⟩ := billed.quota
    dsimp only
    split
    · rename_i err
      exact ⟨billed, .single err rfl rfl⟩
    · rename_i other
      exact ⟨billed, .none rfl fun err => absurd err other⟩
  · rw [undecided]
    dsimp only
    simp only [Bool.false_eq_true, if_false]
    split
    · rename_i err
      split
      · have back := task.refund_billed db
        obtain ⟨quota, same⟩ := back.quota
        refine ⟨back, .single ?_ rfl rfl⟩
        dsimp only
        rw [same]
        exact err
      · rename_i free
        exact ⟨.of_tasks rfl, .none rfl fun _ => not_not.mp free⟩
    · rename_i other
      exact ⟨.of_tasks rfl, .none rfl fun err => absurd err other⟩

theorem updateWithStatus_cases (db : DB) {changed : TaskRow} (id : changed.id = task.id) :
    ((∃ row, db.tasks.find task.id = some row ∧ row.status = task.status) ∧
      updateWithStatus db changed task.status = (true, { db with tasks := db.tasks.put changed })) ∨
    ((∀ row, db.tasks.find task.id = some row → row.status ≠ task.status) ∧
      updateWithStatus db changed task.status = (false, db)) := by
  unfold updateWithStatus
  rw [id]
  rcases updateWhere_cases db.tasks task.id (fun row => row.status = task.status) fun _ => changed with
    ⟨row, found, holds, new⟩ | ⟨missed, new⟩
  · exact .inl ⟨⟨row, found, by simpa using holds⟩, by simp [new]⟩
  · exact .inr ⟨fun row found => by simpa using missed row found, by simp [new]⟩

/-- What a handler makes of its copy. It hides the task if it leaves it unfinished with a progress of 100%. -/
structure CopyChange (task : TaskRow) (hides : Bool) (changed : TaskRow) : Prop where
  id : changed.id = task.id
  quota : changed.status.terminal = false → changed.quota = task.quota
  progress : task.progress ≠ "100%" → changed.status.terminal = false → (changed.progress = "100%" ↔ hides = true)
  hidden : hides = true → changed.status.terminal = false

theorem CopyChange.of_terminal {changed : TaskRow} (id : changed.id = task.id)
    (final : changed.status.terminal = true) : CopyChange task false changed := by
  have never : ∀ {p : Prop}, changed.status.terminal = false → p := fun unfinished =>
    absurd (final.symm.trans unfinished) (by simp)
  exact ⟨id, never, fun _ => never, by simp⟩

structure Won (db : DB) (task : TaskRow) (waived : Bool) (poll : TaskPoll) : Prop where
  stored : ∃ row, db.tasks.find task.id = some row ∧ row.status = task.status
  turned : Turned db.tasks poll.db.tasks task.id poll.task
  accounting : Accounting task waived poll

structure Lost (db : DB) (task : TaskRow) (waived hides : Bool) (poll : TaskPoll) : Prop where
  tasks : poll.db.tasks = db.tasks
  events : poll.events = []
  missed : waived = true ∨ hides = true ∧ task.progress ≠ "100%" →
    ∀ row, db.tasks.find task.id = some row → row.status ≠ task.status

structure PollEffect (db : DB) (task : TaskRow) (waived hides : Bool) (poll : TaskPoll) : Prop where
  change : CopyChange task hides poll.task
  outcome : Won db task waived poll ∨ Lost db task waived hides poll

variable {hides : Bool} {changed : TaskRow}

theorem PollEffect.unwritten (change : CopyChange task false changed) : PollEffect db task false false ⟨changed, db, []⟩ :=
  ⟨change, .inr ⟨rfl, rfl, by simp⟩⟩

theorem PollEffect.saved (change : CopyChange task hides changed) (open_ : changed.status ≠ .failure) :
    PollEffect db task false hides ⟨changed, (updateWithStatus db changed task.status).2, []⟩ := by
  refine ⟨change, ?_⟩
  rcases updateWithStatus_cases db change.id with ⟨stored, new⟩ | ⟨missed, new⟩
  · rw [new]
    exact .inl ⟨stored, .put change.id, .none rfl fun err => absurd err open_⟩
  · rw [new]
    exact .inr ⟨rfl, rfl, fun _ => missed⟩

theorem PollEffect.savedIfMoved (change : CopyChange task hides changed) (open_ : changed.status ≠ .failure) :
    PollEffect db task false hides
      ⟨changed, if task.snapshot ≠ changed.snapshot then (updateWithStatus db changed task.snapshot.status).2
        else db, []⟩ := by
  split
  · exact .saved change open_
  rename_i unmoved
  refine ⟨change, .inr ⟨rfl, rfl, ?_⟩⟩
  rintro (waived | ⟨hides, visible⟩)
  · exact absurd waived (by simp)
  · have complete := (change.progress visible (change.hidden hides)).mpr hides
    have same : task.progress = changed.progress := congrArg TaskSnapshot.progress (not_not.mp unmoved)
    exact absurd (same.trans complete) visible

theorem Billed.effect (billed : Billed { db with tasks := db.tasks.put changed } changed poll.task poll.db)
    (id : changed.id = task.id) (final : changed.status.terminal = true)
    (stored : ∃ row, db.tasks.find task.id = some row ∧ row.status = task.status)
    (accounting : Accounting task false poll) : PollEffect db task false false poll := by
  obtain ⟨quota, same⟩ := billed.quota
  have turned := billed.turned (find_put_self db.tasks changed)
  rw [id] at turned
  refine ⟨?_, .inl ⟨stored, (Turned.put id).trans turned, accounting⟩⟩
  rw [same]
  exact .of_terminal id final

theorem PollEffect.finished (id : changed.id = task.id) (final : changed.status.terminal = true)
    (quota : changed.quota = task.quota) :
    PollEffect db task false false (if (updateWithStatus db changed task.status).1 = true then
        finalizeTaskBilling env (updateWithStatus db changed task.status).2 changed taskResult
      else ⟨changed, (updateWithStatus db changed task.status).2, []⟩) := by
  rcases updateWithStatus_cases db id with ⟨stored, new⟩ | ⟨_, new⟩
  · rw [new]
    simp only [if_true]
    obtain ⟨billed, failed, once, paid, waived⟩ :=
      finalizeTaskBilling_spec env { db with tasks := db.tasks.put changed } changed taskResult
    rw [id] at once
    rw [quota] at paid
    exact billed.effect id final stored ⟨failed, once, paid, waived⟩
  · rw [new]
    exact .unwritten (.of_terminal id final)

variable (env db)

section
variable (now : Int)

theorem failTaskFromPoll_effect (id : changed.id = task.id) (quota : changed.quota = task.quota) (reason : String) :
    PollEffect db task false false (failTaskFromPoll env db now changed task.status reason) :=
  PollEffect.finished id rfl quota

theorem recordPollFailure_effect (id : changed.id = task.id)
    (quota : changed.quota = task.quota) (status : changed.status = task.status)
    (progress : changed.progress = task.progress) (unfinished : task.status.terminal = false)
    (pollClass : PollClass) (code : Int) (detail : String) :
    PollEffect db task false false (recordPollFailure env db now changed task.status pollClass code detail) := by
  unfold recordPollFailure
  dsimp only
  split
  · refine failTaskFromPoll_effect env db now ?_ ?_ _
    · exact id
    · exact quota
  · refine .saved ⟨id, fun _ => quota, fun visible _ => ?_, by simp⟩ ?_
    · simp [progress, visible]
    · dsimp only
      rw [status]
      exact (TaskStatus.terminal_eq_false.mp unfinished).2

theorem classifyPollHTTP_cases (code : Int) :
    classifyPollHTTP code = .notFound ∨ classifyPollHTTP code = .auth ∨
      classifyPollHTTP code = .transient ∨ classifyPollHTTP code = .otherClient ∨ classifyPollHTTP code = .ok := by
  unfold classifyPollHTTP
  repeat' split
  all_goals simp

theorem knownPollStatus_cases (known : knownPollStatus status = true) :
    isNonTerminalPollStatus status = true ∨ status = .success ∨ status = .failure := by
  cases status <;> simp_all [knownPollStatus, isNonTerminalPollStatus]

def TaskInfo.claimsComplete (taskResult : TaskInfo) : Bool :=
  isNonTerminalPollStatus (TaskStatus.ofText taskResult.status) && taskResult.progress = "100%"

def PollAnswer.claimsComplete : PollAnswer → Bool
  | .response statusCode _ _ (.ok taskResult) =>
    classifyPollHTTP statusCode = .ok && taskResult.claimsComplete
  | .transportError _ _ | .response _ _ _ (.error _) => false

theorem answered_unfinished (taskResult : TaskInfo)
    (task : TaskRow) (unfinished : isNonTerminalPollStatus status = true) :
    ∃ progress startTime, task.answered env now status taskResult =
      ({ task with status, progress, startTime }, false) ∧ (task.progress ≠ "100%" → progress ≠ "100%") := by
  cases status with
  | notStart => exact ⟨task.progress, task.startTime, rfl, id⟩
  | submitted => exact ⟨_, task.startTime, rfl, fun _ => by decide⟩
  | queued => exact ⟨_, task.startTime, rfl, fun _ => by decide⟩
  | inProgress => exact ⟨_, _, rfl, fun _ => by decide⟩
  | persisting | failure | success | unknown | other _ => simp [isNonTerminalPollStatus] at unfinished

theorem answered_finished (taskResult : TaskInfo)
    (task : TaskRow) (finished : status = .success ∨ status = .failure) :
    ∃ progress finishTime failReason resultURL, task.answered env now status taskResult =
      ({ task with status, progress, finishTime, failReason, resultURL }, true) := by
  rcases finished with rfl | rfl
  · exact ⟨_, _, task.failReason, _, rfl⟩
  · exact ⟨_, _, _, task.resultURL, rfl⟩

theorem applyTaskResult_effect (id : changed.id = task.id)
    (quota : changed.quota = task.quota) (progress : changed.progress = task.progress)
    (unfinished : task.status.terminal = false) (known : knownPollStatus (TaskStatus.ofText taskResult.status) = true) :
    PollEffect db task false taskResult.claimsComplete
      (applyTaskResult env db now task.snapshot changed taskResult) := by
  obtain ⟨notSuccess, notFailure⟩ := TaskStatus.terminal_eq_false.mp unfinished
  unfold applyTaskResult TaskInfo.claimsComplete
  generalize TaskStatus.ofText taskResult.status = status at known
  dsimp only
  split
  · rename_i image
    rw [image.1]
    exact .saved ⟨id, fun _ => quota, fun _ _ => by simp [isNonTerminalPollStatus], by simp [isNonTerminalPollStatus]⟩
      (by simp)
  rcases knownPollStatus_cases known with nonTerminal | finished
  · obtain ⟨newProgress, startTime, answered, kept⟩ := answered_unfinished env now taskResult changed nonTerminal
    have open_ := isNonTerminalPollStatus_not_terminal nonTerminal
    obtain ⟨notDone, notFailed⟩ := TaskStatus.terminal_eq_false.mp open_
    simp only [answered, nonTerminal, notDone, notFailed, false_or, false_and, if_false, Bool.false_eq_true,
      ne_eq, not_false_eq_true, true_and, Bool.true_and]
    refine .savedIfMoved ⟨id, fun _ => quota, fun visible _ => ?_, fun _ => open_⟩ notFailed
    dsimp only
    split
    · simp
    · rename_i empty
      rw [not_not] at empty
      simp [empty, kept (progress ▸ visible)]
  · obtain ⟨newProgress, finishTime, failReason, resultURL, answered⟩ :=
      answered_finished env now taskResult changed finished
    have notNonTerminal : isNonTerminalPollStatus status = false := by
      rcases finished with rfl | rfl <;> rfl
    have moved : ¬task.status = status := by
      rintro rfl
      exact finished.elim notSuccess notFailure
    simp only [answered, notNonTerminal, Bool.false_and, and_true]
    have nodup : (TaskRow.snapshot task).status ≠ status := moved
    rw [if_pos ⟨finished, nodup⟩]
    exact .finished id (by rcases finished with rfl | rfl <;> rfl) quota

theorem claimsComplete_of_class (classes : httpClass = .otherClient ∨ httpClass = .ok) (taskResult : TaskInfo) :
    (httpClass = .ok && taskResult.claimsComplete) = if !knownPollStatus (TaskStatus.ofText taskResult.status) ||
          (httpClass = .otherClient && isNonTerminalPollStatus (TaskStatus.ofText taskResult.status)) then false
      else taskResult.claimsComplete := by
  unfold TaskInfo.claimsComplete
  generalize TaskStatus.ofText taskResult.status = status
  rcases classes with rfl | rfl
  · cases status <;> rfl
  · cases status <;> rfl

def BatchAnswer.claimsComplete : BatchAnswer → Bool
  | .response statusCode (.ok (some item)) =>
    classifyPollHTTP statusCode = .ok && (item.taskInfo.reason = "" && item.taskInfo.claimsComplete)
  | .transportError _ _ | .response _ (.error _) | .response _ (.ok none) => false

theorem batched_cases (task : TaskRow) {item : BatchTaskResult}
    (known : knownPollStatus (TaskStatus.ofText item.taskInfo.status) = true) :
    ((task.batched item).status.terminal = true ∧
      (item.taskInfo.reason = "" && item.taskInfo.claimsComplete) = false) ∨
    ((task.batched item).status.terminal = false ∧
      (task.progress ≠ "100%" → ((task.batched item).progress = "100%" ↔
        (item.taskInfo.reason = "" && item.taskInfo.claimsComplete) = true))) := by
  unfold TaskRow.batched TaskInfo.claimsComplete
  generalize TaskStatus.ofText item.taskInfo.status = status at known
  dsimp only
  rcases knownPollStatus_cases known with nonTerminal | rfl | rfl
  · by_cases reason : item.taskInfo.reason = ""
    · have open_ := isNonTerminalPollStatus_not_terminal nonTerminal
      obtain ⟨notSuccess, notFailure⟩ := TaskStatus.terminal_eq_false.mp open_
      simp only [reason, notSuccess, notFailure, ne_eq, not_true_eq_false, or_false, if_false, decide_true,
        Bool.true_and, nonTerminal, decide_eq_true_eq]
      refine .inr ⟨open_, fun visible => ?_⟩
      by_cases empty : item.taskInfo.progress = ""
      · simp [empty, visible]
      · simp [empty]
    · exact .inl ⟨by simp [reason, TaskStatus.terminal], by simp [reason]⟩
  · refine .inl ⟨?_, by simp [isNonTerminalPollStatus]⟩
    split <;> rfl
  · exact .inl ⟨by simp [TaskStatus.terminal], by simp [isNonTerminalPollStatus]⟩

section
variable (unfinished : task.status.terminal = false)
include unfinished

theorem updateParsedTask_effect (classes : httpClass = .otherClient ∨ httpClass = .ok) (code : Int) (body : String)
    (relayed : Option String) (taskResult : TaskInfo) :
    PollEffect db task false (httpClass = .ok && taskResult.claimsComplete)
      (updateParsedTask env db now task httpClass code body relayed (.ok taskResult)) := by
  rw [claimsComplete_of_class classes]
  unfold updateParsedTask
  dsimp only
  split
  · refine recordPollFailure_effect env db now ?_ ?_ ?_ ?_ unfinished _ _ _ <;> rfl
  · rename_i recognized
    simp only [Bool.or_eq_true, not_or, Bool.not_eq_true', Bool.not_eq_false] at recognized
    refine applyTaskResult_effect env db now ?_ ?_ ?_ unfinished recognized.1 <;> rfl

theorem updateByPollClass_effect (code : Int) {claims : Bool}
    {parsed : PollClass → TaskPoll} (each : ∀ httpClass, httpClass = .otherClient ∨ httpClass = .ok →
      PollEffect db task false (httpClass = .ok && claims) (parsed httpClass)) :
    PollEffect db task false (classifyPollHTTP code = .ok && claims) (updateByPollClass env db now task code parsed) := by
  have failed : ∀ {pollClass}, PollEffect db task false false
      (recordPollFailure env db now task task.status pollClass code "") :=
    recordPollFailure_effect env db now rfl rfl rfl rfl unfinished _ _ _
  unfold updateByPollClass
  rcases classifyPollHTTP_cases code with class_ | class_ | class_ | class_ | class_ <;> rw [class_]
  · exact failTaskFromPoll_effect env db now rfl rfl _
  · exact failed
  · exact failed
  · exact each _ (.inl rfl)
  · exact each _ (.inr rfl)

theorem updateByPollClass_unread (code : Int)
    {parsed : PollClass → TaskPoll} (each : ∀ httpClass, PollEffect db task false false (parsed httpClass)) :
    PollEffect db task false false (updateByPollClass env db now task code parsed) := by
  have effect := @updateByPollClass_effect env db task now unfinished code false parsed fun httpClass _ => by
    rw [Bool.and_false]
    exact each httpClass
  rwa [Bool.and_false] at effect

theorem updateVideoSingleTask_effect (answer : PollAnswer) :
    PollEffect db task false answer.claimsComplete (updateVideoSingleTask env db now task answer) := by
  cases answer with
  | transportError code detail => exact recordPollFailure_effect env db now rfl rfl rfl rfl unfinished _ _ _
  | response code body relayed parsed =>
    cases parsed with
    | error detail =>
      refine updateByPollClass_unread env db now unfinished code fun httpClass => ?_
      refine recordPollFailure_effect env db now ?_ ?_ ?_ ?_ unfinished _ _ _ <;> rfl
    | ok taskResult =>
      exact updateByPollClass_effect env db now unfinished code fun httpClass classes =>
        updateParsedTask_effect env db now unfinished classes code body relayed taskResult

theorem updateParsedBatchTask_effect
    (classes : httpClass = .otherClient ∨ httpClass = .ok) (code : Int) (item : BatchTaskResult) :
    PollEffect db task false (httpClass = .ok && (item.taskInfo.reason = "" && item.taskInfo.claimsComplete))
      (updateParsedBatchTask env db now task httpClass code (.ok (some item))) := by
  have claims : (decide (httpClass = .ok) && (decide (item.taskInfo.reason = "") && item.taskInfo.claimsComplete)) =
      (decide (item.taskInfo.reason = "") && (decide (httpClass = .ok) && item.taskInfo.claimsComplete)) :=
    Bool.and_left_comm _ _ _
  rw [claims, claimsComplete_of_class classes]
  unfold updateParsedBatchTask
  dsimp only
  split
  · rw [Bool.and_false]
    exact recordPollFailure_effect env db now rfl rfl rfl rfl unfinished _ _ _
  rename_i recognized
  simp only [Bool.or_eq_true, not_or, Bool.not_eq_true', Bool.not_eq_false] at recognized
  rcases batched_cases task recognized.1 with ⟨final, silent⟩ | ⟨open_, progress⟩
  · rw [silent]
    have moved : (task.batched item).status = .success ∨ (task.batched item).status = .failure := by
      simpa [TaskStatus.terminal] using final
    have ne : task.snapshot.status ≠ (task.batched item).status := by
      intro same
      rw [← same] at final
      exact absurd (final.symm.trans unfinished) (by simp)
    simp only [moved, ne, ne_eq, not_false_eq_true, and_true]
    exact .finished rfl final rfl
  · obtain ⟨notSuccess, notFailure⟩ := TaskStatus.terminal_eq_false.mp open_
    simp only [notSuccess, notFailure, false_or, false_and, and_false, if_false]
    exact .saved ⟨rfl, fun _ => rfl, fun visible _ => progress visible, fun _ => open_⟩ notFailure

theorem updateBatchTask_effect (answer : BatchAnswer) :
    PollEffect db task false answer.claimsComplete (updateBatchTask env db now task answer) := by
  have failed : ∀ {pollClass code detail}, PollEffect db task false false
      (recordPollFailure env db now task task.status pollClass code detail) :=
    recordPollFailure_effect env db now rfl rfl rfl rfl unfinished _ _ _
  have unmentioned : PollEffect db task false false ⟨task, db, []⟩ :=
    .unwritten ⟨rfl, fun _ => rfl, fun visible _ => by simp [visible], by simp⟩
  cases answer with
  | transportError code detail => exact failed
  | response code parsed =>
    rcases parsed with detail | _ | item
    · exact updateByPollClass_unread env db now unfinished code fun _ => failed
    · exact updateByPollClass_unread env db now unfinished code fun _ => unmentioned
    · exact updateByPollClass_effect env db now unfinished code fun httpClass classes =>
        updateParsedBatchTask_effect env db now unfinished classes code item

theorem resumeTaskImagePersistence_effect (out : PersistOutcome) :
    PollEffect db task false false (resumeTaskImagePersistence env db now task out) := by
  have same : ∀ storedArtifacts, CopyChange task false { task with storedArtifacts } := fun _ =>
    ⟨rfl, fun _ => rfl, fun visible _ => by simp [visible], by simp⟩
  unfold resumeTaskImagePersistence
  split
  · exact .unwritten (same task.storedArtifacts)
  split
  · exact .unwritten (same task.storedArtifacts)
  rename_i done _ persisting
  have persisting : task.status = .persisting := not_not.mp persisting
  split
  · exact .unwritten (same task.storedArtifacts)
  · rw [← persisting]
    exact .saved (same _) (TaskStatus.terminal_eq_false.mp unfinished).2
  · exact .unwritten (same false)
  · rw [← persisting]
    exact .finished rfl rfl rfl

end

theorem sweepTimedOutTask_effect (task : TaskRow) :
    PollEffect db task task.isLegacy false (sweepTimedOutTask env db now task) := by
  unfold sweepTimedOutTask
  cases legacy : task.isLegacy with
  | true =>
    simp only [Bool.true_eq_false, false_and, and_false, if_true, if_false]
    generalize swept : ({ task with
      toTask := { task.toTask with quota := 0 }, status := .failure, progress := "100%", finishTime := now
      failReason := "任务超时（旧系统遗留任务，不进行退款，请联系管理员）" } : TaskRow) = changed
    have id : changed.id = task.id := by rw [← swept]
    have err : changed.status = .failure := by rw [← swept]
    refine ⟨.of_terminal id (by rw [err]; rfl), ?_⟩
    rcases updateWithStatus_cases db id with ⟨stored, new⟩ | ⟨missed, new⟩
    · rw [new]
      exact .inl ⟨stored, .put id, ⟨by simp, .inl rfl, by simp, fun _ => ⟨err, rfl⟩⟩⟩
    · rw [new]
      exact .inr ⟨rfl, rfl, fun _ => missed⟩
  | false =>
    simp only [Bool.false_eq_true, if_false, true_and]
    generalize swept : ({ task with
      status := .failure, progress := "100%", finishTime := now
      failReason := "任务超时（" ++ toString env.taskTimeoutMinutes ++ "分钟）" } : TaskRow) = changed
    have id : changed.id = task.id := by rw [← swept]
    have err : changed.status = .failure := by rw [← swept]
    have final : changed.status.terminal = true := by rw [err]; rfl
    rcases updateWithStatus_cases db id with ⟨stored, new⟩ | ⟨_, new⟩
    · rw [new]
      simp only [true_and]
      split
      · have billed := changed.refund_billed { db with tasks := db.tasks.put changed }
        obtain ⟨_, back⟩ := billed.quota
        refine billed.effect id final stored (.single ?_ rfl rfl)
        dsimp only
        rw [back]
        exact err
      · rename_i free
        exact ⟨.of_terminal id final, .inl ⟨stored, .put id, .none rfl fun _ => not_not.mp free⟩⟩
    · rw [new]
      simp only [Bool.false_eq_true, false_and, if_false]
      exact .unwritten (.of_terminal id final)

end

end Wildflow.Billing

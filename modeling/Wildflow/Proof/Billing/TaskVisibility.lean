import Wildflow.Proof.Billing.TaskRefund

/-!
# Unfinished tasks stay in sight

Both queries leave out tasks whose progress says 100%. The progress is the provider's text, so a task is lost to them
when an answer calls it complete and not finished.
-/

namespace Wildflow.Billing
open Wildflow.Store Table List
variable {db : DB} {limit : Nat} {row : TaskRow} {step : TaskStep}

/-- Both queries find each unfinished task, except that one leaves out tasks whose images are being stored. -/
def EveryTaskSelected (db : DB) : Prop :=
  ∀ row ∈ db.tasks.rows, row.status.terminal = false →
    (∀ limit, (db.tasks.rows.filter TaskRow.unfinished).length ≤ limit → row ∈ getAllUnFinishSyncTasks db limit) ∧
    (row.status ≠ .persisting → ∀ cutoff limit, row.submitTime < cutoff →
      (db.tasks.rows.filter (TaskRow.timedOut cutoff)).length ≤ limit →
        row ∈ getTimedOutUnfinishedTasks db cutoff limit)

theorem mem_getAllUnFinishSyncTasks (enough : (db.tasks.rows.filter TaskRow.unfinished).length ≤ limit) :
    row ∈ getAllUnFinishSyncTasks db limit ↔ row ∈ db.tasks.rows ∧ row.unfinished = true := by
  unfold getAllUnFinishSyncTasks
  rw [take_of_length_le enough, mem_filter]

theorem mem_getTimedOutUnfinishedTasks {cutoff : Int}
    (enough : (db.tasks.rows.filter (TaskRow.timedOut cutoff)).length ≤ limit) :
    row ∈ getTimedOutUnfinishedTasks db cutoff limit ↔ row ∈ db.tasks.rows ∧ row.timedOut cutoff = true := by
  unfold getTimedOutUnfinishedTasks
  rw [take_of_length_le (by rw [length_insertionSort]; exact enough), mem_insertionSort,
    mem_filter]

def TaskRow.InSight (row : TaskRow) : Prop :=
  row.status.terminal = false → row.progress ≠ "100%"

theorem everyTaskSelected_iff : EveryTaskSelected db ↔ ∀ id row, db.tasks.find id = some row → row.InSight := by
  constructor
  · intro picked id row found open_
    have all := (picked row (mem_of_find found) open_).1 _ le_rfl
    exact (unfinished_open ((mem_getAllUnFinishSyncTasks le_rfl).mp all).2).2
  · intro inSight row mem open_
    have progress := inSight row.id row (find_of_mem mem) open_
    obtain ⟨notSuccess, notFailure⟩ := TaskStatus.terminal_eq_false.mp open_
    refine ⟨fun limit enough => ?_, fun notPersisting cutoff limit old enough => ?_⟩
    · exact (mem_getAllUnFinishSyncTasks enough).mpr ⟨mem, by simp [TaskRow.unfinished, *]⟩
    · exact (mem_getTimedOutUnfinishedTasks enough).mpr ⟨mem, by simp [TaskRow.timedOut, *]⟩

section
variable {env : TaskEnvironment} {s : TaskSystem}

/-- A handler gets a copy only as the queries would still select it. -/
def TaskSystem.Unspoilt (s : TaskSystem) (step : TaskStep) : Prop :=
  ∀ slot ∈ step.slot, ∀ task ∈ s.copies slot, task.unfinished = true

theorem TaskSystem.Unspoilt.unrepeated (unspoilt : s.Unspoilt step) : s.Unrepeated step :=
  fun slot own task held => (unfinished_open (unspoilt slot own task held)).1

/-- No answer that is stored, and no immediate result, calls a task complete and not finished. -/
structure TaskSystem.Plain (s : TaskSystem) (step : TaskStep) : Prop where
  immediate : ∀ result ∈ step.immediate, (TaskStatus.ofText result.status).terminal = false → result.progress ≠ "100%"
  answer : ∀ slot ∈ step.slot, ∀ task ∈ s.copies slot, step.hides = true →
    ∀ row, s.db.tasks.find task.id = some row → row.status ≠ task.status

theorem newTaskRow_inSight {now : Int} {sent : SubmittedTask} {immediate : Option TaskInfo} :
    (newTaskRow env db now sent immediate).InSight ↔
      ∀ res ∈ immediate, (TaskStatus.ofText res.status).terminal = false → res.progress ≠ "100%" := by
  cases immediate with
  | none => exact ⟨fun _ => by simp, fun _ _ => by simp [newTaskRow]⟩
  | some res =>
    constructor
    · rintro inSight _ ⟨⟩
      exact inSight
    · exact fun plain => plain res rfl

theorem PollEffect.inSight_iff {slot : Nat} {task : TaskRow} {out : TaskPoll} {waived hides : Bool}
    (inSight : ∀ id row, s.db.tasks.find id = some row → row.InSight) (progress : task.progress ≠ "100%")
    (eff : PollEffect s.db task waived hides out) :
    (∀ id row, (s.polled slot out).db.tasks.find id = some row → row.InSight) ↔
      (hides = true → ∀ row, s.db.tasks.find task.id = some row → row.status ≠ task.status) := by
  constructor
  · intro after hidden row found same
    rcases eff.outcome with won | lost
    · have open_ := eff.change.hidden hidden
      exact after task.id out.task won.turned.found open_ ((eff.change.progress progress open_).mpr hidden)
    · exact lost.missed (.inr ⟨hidden, progress⟩) row found same
  · intro shown id row found
    rcases eff.find_cases id with same | ⟨rfl, won, written⟩
    · exact inSight id row (same.symm.trans found)
    · obtain rfl := Option.mem_unique written found
      intro open_ complete
      obtain ⟨stored, storedFound, sameStatus⟩ := won.stored
      exact shown ((eff.change.progress progress open_).mp complete) stored storedFound sameStatus

theorem TaskSystem.Plain.of_silent (later : step.immediate = none)
    (silent : ∀ slot ∈ step.slot, s.copies slot = none) : s.Plain step where
  immediate := by simp [later]
  answer := by
    intro slot own task held
    rw [silent slot own] at held
    cases held

theorem StepEffect.selected_iff {after : TaskSystem} (eff : StepEffect env s step after)
    (unspoilt : s.Unspoilt step) (picked : EveryTaskSelected s.db) :
    EveryTaskSelected after.db ↔ s.Plain step := by
  have inSight := everyTaskSelected_iff.mp picked
  rw [everyTaskSelected_iff]
  cases eff with
  | submitted now submitted immediate same =>
    subst same
    have plain : s.Plain (.submit now submitted immediate) ↔
        (newTaskRow env s.db now submitted immediate).InSight := by
      rw [newTaskRow_inSight]
      exact ⟨fun plain => plain.immediate, fun res => ⟨res, by simp [TaskStep.slot]⟩⟩
    rw [plain]
    constructor
    · exact fun after => after _ _ (find_put_self _ _)
    · grind [id, insertTask]
  | still later silent _ => exact ⟨fun _ => .of_silent later silent, fun _ => inSight⟩
  | filled slot row later silent _ _ _ => exact ⟨fun _ => .of_silent later (by simp [silent]), fun _ => inSight⟩
  | handled slot task out later own _ held _ eff =>
    have progress := (unfinished_open (unspoilt slot own task held)).2
    rw [eff.inSight_iff inSight progress]
    constructor
    · intro shown
      refine ⟨by simp [later], ?_⟩
      intro other sameSlot copy copied
      rw [own] at sameSlot
      cases sameSlot
      rw [held] at copied
      cases copied
      exact shown
    · exact fun plain => plain.answer slot own task held
  | failed later silent =>
    refine ⟨fun _ => .of_silent later (by simp [silent]), fun _ => ?_⟩
    intro id row found open_
    dsimp only at found
    rw [find_taskBulkUpdateByID, Option.map_eq_some_iff] at found
    obtain ⟨earlier, earlierFound, rfl⟩ := found
    have same := bulkFailed_unfinished open_
    rw [same] at open_ ⊢
    exact inSight id earlier earlierFound open_

theorem unfinished_task_selected_iff (env : TaskEnvironment) {db : DB} (selected : EveryTaskSelected db)
    (steps : List TaskStep)
    (guarded : Guarded (applyTaskStep env) (fun s step => s.Unspoilt step ∧ s.Plain step) (.start db) steps) :
    EveryTaskSelected (runSteps (applyTaskStep env) (.start db) steps).db ∧
    ∀ step, (runSteps (applyTaskStep env) (.start db) steps).Unspoilt step →
      (EveryTaskSelected (runSteps (applyTaskStep env) (.start db) (steps ++ [step])).db ↔
        (runSteps (applyTaskStep env) (.start db) steps).Plain step) := by
  have preserved : ∀ s step, EveryTaskSelected s.db → s.Unspoilt step ∧ s.Plain step →
      EveryTaskSelected (applyTaskStep env s step).db :=
    fun s step selected guard =>
      ((applyTaskStep_effect env guard.1.unrepeated).selected_iff guard.1 selected).mpr guard.2
  have reached := runSteps_invariant preserved steps (.start db) selected guarded
  refine ⟨reached, fun step unspoilt => ?_⟩
  rw [runSteps_snoc]
  exact (applyTaskStep_effect env unspoilt.unrepeated).selected_iff unspoilt reached

end

def halfDone : PollAnswer :=
  .response 200 "" none (.ok { status := "IN_PROGRESS", progress := "50%" })

def allDone : PollAnswer :=
  .response 200 "" none (.ok { status := "IN_PROGRESS", progress := "100%" })

theorem unfinished_task_selected_iff_paidVideo :
    EveryTaskSelected (runSteps (applyTaskStep .plain) (.start (.single 1000))
      ([.submit 1800000000 paidVideo none, .load 0 1] ++ [.poll 0 1800000100 halfDone])).db := by
  have selected : EveryTaskSelected (.single 1000) := fun row member => absurd member (by simp [DB.single, DB.empty, Table.empty])
  refine ((unfinished_task_selected_iff .plain selected [.submit 1800000000 paidVideo none, .load 0 1] ?_).2 _ ?_).mpr ?_
  · refine ⟨⟨?_, .of_silent rfl ?_⟩, ⟨?_, .of_silent rfl ?_⟩, trivial⟩ <;> simp [TaskStep.slot, TaskSystem.Unspoilt]
  · rintro slot ⟨⟩ task ⟨⟩
    decide
  · refine ⟨by simp [TaskStep.immediate], ?_⟩
    rintro slot ⟨⟩ task ⟨⟩ hides
    exact absurd hides (by decide)

theorem complete_answer_hides_task :
    ((runSteps (applyTaskStep .plain) (.start (.single 1000))
        [.submit 1800000000 paidVideo none, .load 0 1, .poll 0 1800000100 allDone]).db.tasks.find 1).map
          (fun row => (row.status, row.progress)) = some (.inProgress, "100%") ∧
      ¬ EveryTaskSelected (runSteps (applyTaskStep .plain) (.start (.single 1000))
        [.submit 1800000000 paidVideo none, .load 0 1, .poll 0 1800000100 allDone]).db := by
  refine ⟨by decide, fun selected => ?_⟩
  exact everyTaskSelected_iff.mp selected 1 _ rfl (by decide) (by decide)

section
variable {tasks : List TaskRow}

theorem platformTasks_get (addressed : ∀ task ∈ tasks, task.getUpstreamTaskID ≠ "") (cid : Int) (upstreamID : String) :
    ((platformTasks tasks).taskChannelM.get cid).getD [] =
        (tasks.filter (·.channelId = cid)).map TaskRow.getUpstreamTaskID ∧
      (platformTasks tasks).taskM.get upstreamID = tasks.reverse.find? (·.getUpstreamTaskID = upstreamID) := by
  induction tasks using List.reverseRecOn with
  | nil => exact ⟨rfl, rfl⟩
  | append_singleton tasks task ih =>
    obtain ⟨channel, found⟩ := ih fun other mem => addressed other (mem_append_left _ mem)
    have named := addressed task (by simp)
    rw [platformTasks, foldl_append, ← platformTasks]
    simp only [foldl_cons, foldl_nil, PlatformTasks.add, named, if_false, Dict.get_set, filter_append,
      map_append, reverse_append, reverse_singleton, singleton_append, find?_cons, found]
    constructor
    · by_cases own : task.channelId = cid
      · simp [own, channel]
      · simp [own, channel]
    · split <;> rename_i same <;> simp [same]

theorem polled_on_own_channel_iff (addressed : ∀ task ∈ tasks, task.getUpstreamTaskID ≠ "") :
    (∀ channelId, (platformTasks tasks).polledOn channelId = (tasks.filter (·.channelId = channelId)).map some) ↔
      ∀ first ∈ tasks, ∀ second ∈ tasks, first.getUpstreamTaskID = second.getUpstreamTaskID → first = second := by
  have looked : ∀ channelId, (platformTasks tasks).polledOn channelId = (tasks.filter (·.channelId = channelId)).map
      fun task => tasks.reverse.find? (·.getUpstreamTaskID = task.getUpstreamTaskID) := fun channelId => by
    rw [PlatformTasks.polledOn, (platformTasks_get addressed channelId "").1, map_map]
    exact map_congr_left fun task _ => (platformTasks_get addressed channelId _).2
  simp only [looked, map_inj_left, mem_filter, decide_eq_true_eq, and_imp]
  constructor
  · intro own first member second member' same
    have mine := own _ first member rfl
    rw [same, own _ second member' rfl] at mine
    exact (Option.some.inj mine).symm
  · intro distinct channelId task member _
    cases found : tasks.reverse.find? (·.getUpstreamTaskID = task.getUpstreamTaskID) with
    | none => simpa using find?_eq_none.mp found task (mem_reverse.mpr member)
    | some other =>
      have same := by simpa using find?_some found
      rw [distinct other (mem_reverse.mp (mem_of_find?_eq_some found)) task member same]

end

def taskOn (channelId : Int) (upstreamTaskId : String) : TaskRow :=
  { newTaskRow .plain (.single 1000) 0 paidVideo none with id := channelId, channelId, upstreamTaskId }

theorem polled_on_own_channel_seven_eight :
    (platformTasks [taskOn 7 "41", taskOn 8 "42"]).polledOn 7 = [some (taskOn 7 "41")] :=
  (polled_on_own_channel_iff (by decide)).mpr (by decide) 7

theorem shared_upstream_id_polls_other_task :
    (platformTasks [taskOn 7 "42", taskOn 8 "42"]).polledOn 7 = [some (taskOn 8 "42")] ∧
      (platformTasks [taskOn 7 "42", taskOn 8 "42"]).polledOn 8 = [some (taskOn 8 "42")] := by
  decide

end Wildflow.Billing

import Wildflow.Proof.Billing.TaskPolling

/-!
# Failed tasks are accounted for

A handler that fails a task settles or refunds it, and of all that hold a copy only one gets to write. The bulk updates
refund nothing, and a sweep waives the charge of what it takes for a task of the old system.
-/

namespace Wildflow.Billing
open Wildflow.Store Table
variable {id : Int} {ids : List Int} {failReason : Option String} {row : TaskRow} {after : TaskSystem}

section
variable {env : TaskEnvironment} {s : TaskSystem} {task : TaskRow}

theorem nextTaskId_fresh (db : DB) : db.tasks.find (nextTaskId db) = none := find_past_keys db.tasks

theorem newTaskRow_id (env : TaskEnvironment) (db : DB) (now : Int) (sent : SubmittedTask)
    (immediate : Option TaskInfo) : (newTaskRow env db now sent immediate).id = nextTaskId db := by
  cases immediate <;> rfl

theorem find_insertTask_of_found {db : DB} {now : Int} {sent : SubmittedTask} {immediate : Option TaskInfo}
    (found : db.tasks.find id = some row) :
    (insertTask db (newTaskRow env db now sent immediate)).tasks.find id = some row := by
  refine (find_put_of_ne _ _ ?_).trans found
  rintro rfl
  rw [newTaskRow_id, nextTaskId_fresh] at found
  cases found

theorem find_taskBulkUpdateByID (db : DB) (ids : List Int) (failReason : Option String) (id : Int) :
    (taskBulkUpdateByID db ids failReason).tasks.find id =
      (db.tasks.find id).map (TaskRow.bulkFailed ids failReason) :=
  find_map _ _ (bulkFailed_id ids failReason) id

theorem bulkFailed_status :
    (row.bulkFailed ids failReason).status = .failure ↔ row.id ∈ ids ∨ row.status = .failure := by
  unfold TaskRow.bulkFailed
  split
  · rename_i mem
    simp [List.contains_iff_mem.mp mem]
  · grind

theorem bulkFailed_unfinished (unfinished : (row.bulkFailed ids failReason).status.terminal = false) :
    row.bulkFailed ids failReason = row := by
  unfold TaskRow.bulkFailed at unfinished ⊢
  split
  · grind [TaskStatus.terminal]
  · rfl

theorem PollEffect.find_cases {db : DB} {waived hides : Bool} {poll : TaskPoll}
    (eff : PollEffect db task waived hides poll) (id : Int) :
    poll.db.tasks.find id = db.tasks.find id ∨
      (id = task.id ∧ Won db task waived poll ∧ poll.db.tasks.find id = some poll.task) := by
  rcases eff.outcome with won | lost
  · by_cases own : id = task.id
    · subst own
      exact .inr ⟨rfl, won, won.turned.found⟩
    · exact .inl (won.turned.others id own)
  · exact .inl (by rw [lost.tasks])

def TaskStep.slot : TaskStep → Option Nat
  | .poll slot _ _ | .pollBatch slot _ _ | .resume slot _ _ | .sweep slot _ => some slot
  | .submit _ _ _ | .load _ _ | .loadTimedOut _ _ _ | .failUnaddressed _ | .failChannel _ _ _ => none

def TaskStep.immediate : TaskStep → Option TaskInfo
  | .submit _ _ immediate => immediate
  | .load _ _ | .loadTimedOut _ _ _ | .poll _ _ _ | .pollBatch _ _ _ | .resume _ _ _ | .sweep _ _
  | .failUnaddressed _ | .failChannel _ _ _ => none

/-- No handler gets a copy that another one has finished, as with two tasks of one upstream id. -/
def TaskSystem.Unrepeated (s : TaskSystem) (step : TaskStep) : Prop :=
  ∀ slot ∈ step.slot, ∀ task ∈ s.copies slot, task.status.terminal = false

def TaskStep.waives (task : TaskRow) : TaskStep → Bool
  | .sweep _ _ => task.isLegacy
  | _ => false

def TaskStep.hides : TaskStep → Bool
  | .poll _ _ answer => answer.claimsComplete
  | .pollBatch _ _ answer => answer.claimsComplete
  | _ => false

def TaskStep.bulkReason : TaskStep → Option String
  | .failChannel mode channelId _ => some (mode.missingChannelReason channelId)
  | _ => none

inductive StepEffect (env : TaskEnvironment) (s : TaskSystem) (step : TaskStep) : TaskSystem → Prop where
  | submitted (now : Int) (submitted : SubmittedTask) (immediate : Option TaskInfo)
      (same : step = .submit now submitted immediate) :
      StepEffect env s step { s with db := insertTask s.db (newTaskRow env s.db now submitted immediate) }
  | still (later : step.immediate = none) (silent : ∀ slot ∈ step.slot, s.copies slot = none)
      (single : s.bulk step = []) : StepEffect env s step s
  | filled (slot : Nat) (row : TaskRow) (later : step.immediate = none) (silent : step.slot = none)
      (single : s.bulk step = []) (found : s.db.tasks.find row.id = some row)
      (unfinished : row.unfinished = true) :
      StepEffect env s step { s with copies := Function.update s.copies slot (some row) }
  | handled (slot : Nat) (task : TaskRow) (outcome : TaskPoll) (later : step.immediate = none)
      (own : step.slot = some slot) (single : s.bulk step = []) (held : s.copies slot = some task)
      (unfinished : task.status.terminal = false)
      (effect : PollEffect s.db task (step.waives task) step.hides outcome) :
      StepEffect env s step (s.polled slot outcome)
  | failed (later : step.immediate = none) (silent : step.slot = none) :
      StepEffect env s step { s with db := taskBulkUpdateByID s.db (s.bulk step) step.bulkReason }

theorem timedOut_unfinished {cutoff : Int} (picked : row.timedOut cutoff = true) : row.unfinished = true := by
  simp only [TaskRow.timedOut, TaskRow.unfinished, Bool.and_eq_true] at picked ⊢
  exact picked.1.1

theorem StepEffect.fill {step : TaskStep} {slot : Nat} {picked : TaskRow → Bool}
    (later : step.immediate = none) (silent : step.slot = none) (single : s.bulk step = [])
    (implies : ∀ row, picked row = true → row.unfinished = true) :
    StepEffect env s step (s.fill slot id picked) := by
  unfold TaskSystem.fill
  split
  · rename_i row found
    split
    · rename_i chosen
      have own := key_of_find found
      exact .filled slot row later silent single (own ▸ found) (implies row chosen)
    · exact .still later (by simp [silent]) single
  · exact .still later (by simp [silent]) single

theorem StepEffect.handle {step : TaskStep} {slot : Nat} {handler : TaskRow → TaskPoll}
    (later : step.immediate = none) (own : step.slot = some slot) (single : s.bulk step = []) (unrepeated : s.Unrepeated step)
    (eff : ∀ task, task.status.terminal = false →
      PollEffect s.db task (step.waives task) step.hides (handler task)) :
    StepEffect env s step (s.handle slot handler) := by
  unfold TaskSystem.handle
  split
  · rename_i task held
    have unfinished := unrepeated slot own task held
    exact .handled slot task (handler task) later own single held unfinished (eff task unfinished)
  · rename_i empty
    refine .still later ?_ single
    intro other same
    rw [own] at same
    cases same
    exact empty

theorem applyTaskStep_effect (env : TaskEnvironment) {step : TaskStep}
    (unrepeated : s.Unrepeated step) : StepEffect env s step (applyTaskStep env s step) := by
  cases step with
  | submit now sent immediate => exact .submitted now sent immediate rfl
  | load slot id => exact .fill rfl rfl rfl fun _ picked => picked
  | loadTimedOut slot id cutoff => exact .fill rfl rfl rfl fun _ picked => timedOut_unfinished picked
  | poll slot now answer =>
    exact .handle rfl rfl rfl unrepeated fun task unfinished =>
      updateVideoSingleTask_effect env s.db now unfinished answer
  | pollBatch slot now answer =>
    exact .handle rfl rfl rfl unrepeated fun task unfinished => updateBatchTask_effect env s.db now unfinished answer
  | resume slot now out =>
    exact .handle rfl rfl rfl unrepeated fun task unfinished =>
      resumeTaskImagePersistence_effect env s.db now unfinished out
  | sweep slot now =>
    exact .handle rfl rfl rfl unrepeated fun task _ => sweepTimedOutTask_effect env s.db now task
  | failUnaddressed slots => exact .failed rfl rfl
  | failChannel mode cid slots => exact .failed rfl rfl

def TaskSystem.CopiesKnown (s : TaskSystem) : Prop :=
  ∀ slot task, s.copies slot = some task → task.status.terminal = false →
    ∃ row, s.db.tasks.find task.id = some row ∧ (row.status.terminal = false → row.quota = task.quota)

theorem unfinished_open (unfinished : row.unfinished = true) :
    row.status.terminal = false ∧ row.progress ≠ "100%" := by
  simp only [TaskRow.unfinished, Bool.and_eq_true, decide_eq_true_eq] at unfinished
  exact ⟨TaskStatus.terminal_eq_false.mpr ⟨unfinished.2, unfinished.1.2⟩, unfinished.1.1⟩

theorem StepEffect.copiesKnown {step : TaskStep} (eff : StepEffect env s step after)
    (known : s.CopiesKnown) : after.CopiesKnown := by
  cases eff with
  | submitted now submitted immediate _ =>
    intro slot task held unfinished
    obtain ⟨row, found, charge⟩ := known slot task held unfinished
    exact ⟨row, find_insertTask_of_found found, charge⟩
  | still _ _ _ => exact known
  | filled filledSlot loaded _ _ _ found _ =>
    intro slot task held unfinished
    dsimp only at held ⊢
    by_cases own : slot = filledSlot
    · subst own
      rw [Function.update_self] at held
      cases held
      exact ⟨loaded, found, fun _ => rfl⟩
    · rw [Function.update_of_ne own] at held
      exact known slot task held unfinished
  | handled pollSlot polled out _ _ _ polledHeld polledOpen eff =>
    obtain ⟨stored, storedFound, storedCharge⟩ := known pollSlot polled polledHeld polledOpen
    -- A row that stays unfinished keeps the charge of the copy that was written into it.
    have rowKept : ∀ {id row quota}, s.db.tasks.find id = some row →
        (row.status.terminal = false → row.quota = quota) →
        ∃ later, out.db.tasks.find id = some later ∧ (later.status.terminal = false → later.quota = quota) := by
      intro id row quota found charge
      rcases eff.find_cases id with same | ⟨rfl, won, written⟩
      · exact ⟨row, same.trans found, charge⟩
      refine ⟨out.task, written, fun open_ => ?_⟩
      obtain ⟨cur, currentFound, sameStatus⟩ := won.stored
      rw [storedFound] at found currentFound
      cases found
      cases currentFound
      have rowOpen : stored.status.terminal = false := by rw [sameStatus]; exact polledOpen
      rw [eff.change.quota open_, ← storedCharge rowOpen, charge rowOpen]
    intro slot task held unfinished
    simp only [TaskSystem.polled] at held ⊢
    by_cases own : slot = pollSlot
    · subst own
      rw [Function.update_self] at held
      cases held
      rw [eff.change.id]
      obtain ⟨later, laterFound, laterCharge⟩ := rowKept storedFound storedCharge
      exact ⟨later, laterFound, fun open_ => (laterCharge open_).trans (eff.change.quota unfinished).symm⟩
    · rw [Function.update_of_ne own] at held
      obtain ⟨row, found, charge⟩ := known slot task held unfinished
      exact rowKept found charge
  | failed _ _ =>
    intro slot task held unfinished
    obtain ⟨row, found, charge⟩ := known slot task held unfinished
    refine ⟨row.bulkFailed (s.bulk step) step.bulkReason, ?_, fun open_ => ?_⟩
    · rw [find_taskBulkUpdateByID, found]
      rfl
    · have same := bulkFailed_unfinished open_
      rw [same] at open_ ⊢
      exact charge open_

def TaskSystem.billed (s : TaskSystem) (id : Int) : Nat :=
  s.events.countP fun event => event.id = id

def TurnsFailed (s after : TaskSystem) (id : Int) (row : TaskRow) : Prop :=
  s.db.tasks.find id = some row ∧ row.status ≠ .failure ∧
    ∃ failed, after.db.tasks.find id = some failed ∧ failed.status = .failure

/-- Who fails a paid task settles or refunds its charge, and nobody else does. -/
structure AccountsForFailures (s after : TaskSystem) : Prop where
  followed : ∀ id row, TurnsFailed s after id row → 0 < row.quota → after.billed id = s.billed id + 1
  winner : ∀ id, after.billed id ≠ s.billed id → after.billed id = s.billed id + 1 ∧ ∃ row, TurnsFailed s after id row

/-- The step neither waives a charge nor fails a paid task in bulk. -/
structure TaskSystem.Paid (s : TaskSystem) (step : TaskStep) : Prop where
  waived : ∀ slot ∈ step.slot, ∀ task ∈ s.copies slot, step.waives task = true →
    ∀ row, s.db.tasks.find task.id = some row → row.status = task.status → row.quota ≤ 0
  bulk : ∀ id ∈ s.bulk step, ∀ row, s.db.tasks.find id = some row → row.status = .failure ∨ row.quota ≤ 0

theorem TaskSystem.Paid.of_silent {step : TaskStep} (silent : ∀ slot ∈ step.slot, s.copies slot = none)
    (single : s.bulk step = []) : s.Paid step where
  waived := by
    intro slot own task held
    rw [silent slot own] at held
    cases held
  bulk := by simp [single]

theorem AccountsForFailures.of_quiet (events : after.events = s.events)
    (rows : ∀ id row, s.db.tasks.find id = some row → after.db.tasks.find id = some row) :
    AccountsForFailures s after where
  followed := by
    rintro id row ⟨found, open_, failed, failedFound, err⟩
    rw [rows id row found] at failedFound
    cases failedFound
    exact absurd err open_
  winner := by
    intro id billed
    exact absurd (by rw [TaskSystem.billed, events, TaskSystem.billed]) billed

theorem polled_billed {slot : Nat} {out : TaskPoll} (id : Int) :
    (s.polled slot out).billed id = s.billed id + out.events.countP fun ev => ev.id = id := by
  simp [TaskSystem.polled, TaskSystem.billed]

theorem PollEffect.accounts_iff {slot : Nat} {out : TaskPoll} {waived hides : Bool} (known : s.CopiesKnown)
    (held : s.copies slot = some task) (unfinished : task.status.terminal = false)
    (eff : PollEffect s.db task waived hides out) :
    AccountsForFailures s (s.polled slot out) ↔
      (waived = true → ∀ row, s.db.tasks.find task.id = some row → row.status = task.status → row.quota ≤ 0) := by
  obtain ⟨stored, storedFound, charge⟩ := known slot task held unfinished
  rcases eff.outcome with won | lost
  · obtain ⟨row, found, same⟩ := won.stored
    rw [storedFound] at found
    cases found
    have rowOpen : stored.status.terminal = false := by rw [same]; exact unfinished
    have notFailure := (TaskStatus.terminal_eq_false.mp rowOpen).2
    have turns : out.task.status = .failure → TurnsFailed s (s.polled slot out) task.id stored :=
      fun err => ⟨storedFound, notFailure, out.task, won.turned.found, err⟩
    obtain ⟨failed, once, charged, isWaived⟩ := won.accounting
    cases waived with
    | true =>
      obtain ⟨err, silent⟩ := isWaived rfl
      constructor
      · intro accounts _ row found _
        rw [storedFound] at found
        cases found
        by_contra owed
        have followed := accounts.followed task.id stored (turns err) (by omega)
        simp [polled_billed, silent] at followed
      · intro free
        have unpaid := free rfl stored storedFound same
        refine ⟨?_, fun id billed => absurd (by simp [polled_billed, silent]) billed⟩
        rintro id row ⟨rowFound, open_, later, laterFound, laterFailure⟩ owed
        rcases eff.find_cases id with unmoved | ⟨rfl, _, _⟩
        · grind [TaskSystem.polled]
        · grind
    | false =>
      refine ⟨fun _ => by simp, fun _ => ⟨?_, ?_⟩⟩
      · rintro id row ⟨rowFound, open_, later, laterFound, laterFailure⟩ owed
        rcases eff.find_cases id with unmoved | ⟨rfl, _, written⟩
        · grind [TaskSystem.polled]
        rw [TaskSystem.polled, written] at laterFound
        cases laterFound
        rw [storedFound] at rowFound
        cases rowFound
        have paid : task.quota ≠ 0 := by rw [← charge rowOpen]; omega
        rcases once with none | ⟨ev, events, own⟩
        · exact absurd none (charged laterFailure paid rfl)
        · simp [polled_billed, events, own]
      · intro id billed
        rcases once with none | ⟨ev, events, own⟩
        · exact absurd (by simp [polled_billed, none]) billed
        rw [polled_billed, events] at billed ⊢
        by_cases same : ev.id = id
        · subst same
          rw [own]
          exact ⟨by simp [own], stored, turns (failed (by simp [events]))⟩
        · simp [same] at billed
  · refine ⟨fun _ waives row found same => absurd same (lost.missed (.inl waives) row found), fun _ => ?_⟩
    exact .of_quiet (by simp [TaskSystem.polled, lost.events]) fun id row found => by
      simpa [TaskSystem.polled, lost.tasks] using found

theorem taskBulkUpdateByID_accounts_iff :
    AccountsForFailures s { s with db := taskBulkUpdateByID s.db ids failReason } ↔
      ∀ id ∈ ids, ∀ row, s.db.tasks.find id = some row → row.status = .failure ∨ row.quota ≤ 0 := by
  constructor
  · intro accounts id mem row found
    by_contra paid
    rw [not_or, not_le] at paid
    have own := key_of_find found
    have turns : TurnsFailed s { s with db := taskBulkUpdateByID s.db ids failReason } id row := by
      refine ⟨found, paid.1, row.bulkFailed ids failReason, ?_, bulkFailed_status.mpr (.inl (own ▸ mem))⟩
      rw [find_taskBulkUpdateByID, found]
      rfl
    have followed := accounts.followed id row turns paid.2
    simp [TaskSystem.billed] at followed
  · intro unpaid
    refine ⟨?_, fun id billed => absurd rfl billed⟩
    rintro id row ⟨found, open_, later, laterFound, err⟩ owed
    rw [find_taskBulkUpdateByID, found] at laterFound
    cases laterFound
    rcases bulkFailed_status.mp err with mem | already
    · grind [id]
    · exact absurd already open_

theorem StepEffect.accounts_iff {step : TaskStep} (eff : StepEffect env s step after)
    (known : s.CopiesKnown) : AccountsForFailures s after ↔ s.Paid step := by
  cases eff with
  | submitted now submitted immediate same =>
    subst same
    refine ⟨fun _ => .of_silent (by simp [TaskStep.slot]) rfl, fun _ => .of_quiet rfl ?_⟩
    exact fun id row found => find_insertTask_of_found found
  | still _ silent single =>
    exact ⟨fun _ => .of_silent silent single, fun _ => .of_quiet rfl fun _ _ found => found⟩
  | filled slot row _ silent single _ _ =>
    exact ⟨fun _ => .of_silent (by simp [silent]) single, fun _ => .of_quiet rfl fun _ _ found => found⟩
  | handled slot task out _ own single held unfinished eff =>
    rw [eff.accounts_iff known held unfinished]
    constructor
    · intro free
      refine ⟨?_, by simp [single]⟩
      intro other sameSlot copy copied
      rw [own] at sameSlot
      cases sameSlot
      rw [held] at copied
      cases copied
      exact free
    · exact fun paid => paid.waived slot own task held
  | failed _ silent =>
    rw [taskBulkUpdateByID_accounts_iff]
    exact ⟨fun unpaid => ⟨by simp [silent], unpaid⟩, fun paid => paid.bulk⟩

theorem StepEffect.finished_kept {step : TaskStep} (eff : StepEffect env s step after)
    (found : s.db.tasks.find id = some row) (final : row.status.terminal = true) :
    after.db.tasks.find id = some (row.bulkFailed (s.bulk step) step.bulkReason) := by
  cases eff with
  | submitted now sent immediate same =>
    subst same
    exact find_insertTask_of_found found
  | still _ _ single | filled _ _ _ _ single _ _ =>
    rw [single]
    exact found
  | handled slot task out _ _ single _ unfinished eff =>
    rw [single]
    rcases eff.find_cases id with same | ⟨rfl, won, _⟩
    · exact same.trans found
    · -- A handler writes over the status that its copy was read with, which a finished row does not have.
      obtain ⟨stored, there, status⟩ := won.stored
      cases found.symm.trans there
      rw [status, unfinished] at final
      cases final
  | failed _ _ => exact (find_taskBulkUpdateByID _ _ _ _).trans (congrArg _ found)

structure AccountedFor (s : TaskSystem) : Prop where
  known : s.CopiesKnown
  once : ∀ id, s.billed id ≤ 1
  failed : ∀ id, s.billed id ≠ 0 → ∃ row, s.db.tasks.find id = some row ∧ row.status = .failure

theorem AccountedFor.start (db : DB) : AccountedFor (.start db) :=
  ⟨fun slot task held => absurd held (by simp [TaskSystem.start]), fun id => by simp [TaskSystem.billed, TaskSystem.start],
    fun id billed => absurd rfl billed⟩

theorem AccountedFor.step (inv : AccountedFor s) {step : TaskStep}
    (eff : StepEffect env s step after) (paid : s.Paid step) : AccountedFor after := by
  have accounts := (eff.accounts_iff inv.known).mpr paid
  -- A task that was billed before has failed, so no step turns it to failure again.
  have fresh : ∀ id, after.billed id ≠ s.billed id → s.billed id = 0 := by
    intro id changed
    obtain ⟨_, row, found, open_, _⟩ := accounts.winner id changed
    by_contra old
    obtain ⟨failed, failedFound, err⟩ := inv.failed id old
    rw [found] at failedFound
    cases failedFound
    exact open_ err
  refine ⟨eff.copiesKnown inv.known, fun id => ?_, fun id billed => ?_⟩
  · by_cases changed : after.billed id = s.billed id
    · rw [changed]
      exact inv.once id
    · rw [(accounts.winner id changed).1, fresh id changed]
  · by_cases changed : after.billed id = s.billed id
    · obtain ⟨row, found, err⟩ := inv.failed id (changed ▸ billed)
      exact ⟨_, eff.finished_kept found (by rw [err]; rfl), bulkFailed_status.mpr (.inr err)⟩
    · obtain ⟨_, row, _, _, failed⟩ := accounts.winner id changed
      exact failed

theorem failed_task_accounted_iff (env : TaskEnvironment) (db : DB) (steps : List TaskStep)
    (guarded : Guarded (applyTaskStep env) (fun s step => s.Unrepeated step ∧ s.Paid step) (.start db) steps) :
    (∀ t ∈ transitions (applyTaskStep env) (.start db) steps, AccountsForFailures t.before t.after) ∧
    (∀ id, (runSteps (applyTaskStep env) (.start db) steps).billed id ≤ 1) ∧
    ∀ step, (runSteps (applyTaskStep env) (.start db) steps).Unrepeated step →
      (AccountsForFailures (runSteps (applyTaskStep env) (.start db) steps)
          (runSteps (applyTaskStep env) (.start db) (steps ++ [step])) ↔
        (runSteps (applyTaskStep env) (.start db) steps).Paid step) := by
  have preserved : ∀ s step, AccountedFor s → s.Unrepeated step ∧ s.Paid step →
      AccountedFor (applyTaskStep env s step) :=
    fun s step inv guard => inv.step (applyTaskStep_effect env guard.1) guard.2
  have each : ∀ s step, AccountedFor s → s.Unrepeated step ∧ s.Paid step →
      AccountsForFailures s (applyTaskStep env s step) :=
    fun s step inv guard => ((applyTaskStep_effect env guard.1).accounts_iff inv.known).mpr guard.2
  have reached := runSteps_invariant preserved steps _ (.start db) guarded
  refine ⟨transitions_invariant preserved each steps _ (.start db) guarded, reached.once, fun step unrepeated => ?_⟩
  rw [runSteps_snoc]
  exact (applyTaskStep_effect env unrepeated).accounts_iff reached.known

end

def TaskEnvironment.plain : TaskEnvironment where
  taskPollMaxFailures := 30
  taskTimeoutMinutes := 1440
  serverAddress := "http://localhost:3000"
  adjustBillingOnComplete _ _ := 0
  tieredQuota _ _ := none
  tokenQuota _ _ := none

def paidVideo : SubmittedTask where
  userId := 1
  quota := 100
  billingSource := .wallet
  subscriptionId := 0
  tokenId := 1
  taskId := "task_1"
  platform := "sora"
  channelId := 7
  action := "generate"
  upstreamTaskId := "up-1"
  data := ""
  pluginState := ""
  tieredSnapshot := false
  perCallBilling := false

theorem failed_task_accounted_iff_paidVideo :
    (runSteps (applyTaskStep .plain) (.start (.single 1000))
      [.submit 1800000000 paidVideo none, .load 0 1, .poll 0 1800000100 (.response 404 "" none (.error ""))]).events =
        [.refunded 1] ∧
    AccountsForFailures
      (runSteps (applyTaskStep .plain) (.start (.single 1000)) [.submit 1800000000 paidVideo none, .load 0 1])
      (runSteps (applyTaskStep .plain) (.start (.single 1000)) ([.submit 1800000000 paidVideo none, .load 0 1] ++
          [.poll 0 1800000100 (.response 404 "" none (.error ""))])) := by
  refine ⟨by decide, ?_⟩
  refine ((failed_task_accounted_iff .plain (.single 1000) [.submit 1800000000 paidVideo none, .load 0 1] ?_).2.2 _
    ?_).mpr ?_
  · refine ⟨⟨?_, .of_silent ?_ rfl⟩, ⟨?_, .of_silent ?_ rfl⟩, trivial⟩ <;> simp [TaskStep.slot, TaskSystem.Unrepeated]
  · rintro slot ⟨⟩ task ⟨⟩
    decide
  · refine ⟨?_, by simp [TaskSystem.bulk]⟩
    rintro slot ⟨⟩ task ⟨⟩ waives
    exact absurd waives (by decide)

theorem missing_channel_keeps_charge :
    ((runSteps (applyTaskStep .plain) (.start (.single 1000))
        [.submit 1800000000 paidVideo none, .load 0 1, .failChannel .single 7 [0]]).db.tasks.find 1).map
          (fun row => (row.status, row.quota)) = some (.failure, 100) ∧
      (runSteps (applyTaskStep .plain) (.start (.single 1000))
        [.submit 1800000000 paidVideo none, .load 0 1, .failChannel .single 7 [0]]).events = [] ∧
      ¬ AccountsForFailures
        (runSteps (applyTaskStep .plain) (.start (.single 1000)) [.submit 1800000000 paidVideo none, .load 0 1])
        (runSteps (applyTaskStep .plain) (.start (.single 1000))
          [.submit 1800000000 paidVideo none, .load 0 1, .failChannel .single 7 [0]]) := by
  refine ⟨by decide, by decide, fun accounts => ?_⟩
  have followed := accounts.followed 1 _ ⟨rfl, by decide, _, rfl, by decide⟩ (by decide)
  exact absurd followed (by decide)

theorem bulkFailed_terminal (final : row.status.terminal = true) :
    (row.bulkFailed ids failReason).status.terminal = true := by
  by_contra open_
  rw [bulkFailed_unfinished (Bool.eq_false_of_not_eq_true open_)] at open_
  exact open_ final

/-- What the bulk updates of a run make of a row; one that does not name its task leaves it as it is. -/
def TaskRow.bulkFailedIn (row : TaskRow) (run : List (Transition TaskSystem TaskStep)) : TaskRow :=
  run.foldl (fun row t => row.bulkFailed (t.before.bulk t.input) t.input.bulkReason) row

theorem finished_task_stays_finished (env : TaskEnvironment) {s : TaskSystem} {steps : List TaskStep}
    (unrepeated : Guarded (applyTaskStep env) TaskSystem.Unrepeated s steps)
    (found : s.db.tasks.find id = some row) (final : row.status.terminal = true) :
    (runSteps (applyTaskStep env) s steps).db.tasks.find id =
      some (row.bulkFailedIn (transitions (applyTaskStep env) s steps)) := by
  induction steps generalizing s row with
  | nil => exact found
  | cons step rest ih =>
    have next := (applyTaskStep_effect env unrepeated.1).finished_kept found final
    exact ih unrepeated.2 next (bulkFailed_terminal final)

/-- Two copies are loaded, and the poll with the first one finishes the task. -/
def finishedVideo : TaskSystem :=
  runSteps (applyTaskStep .plain) (.start (.single 1000))
    [.submit 1800000000 paidVideo none, .load 0 1, .load 1 1,
      .poll 0 1800000100 (.response 200 "" none (.ok { status := "SUCCESS" }))]

/-- The other copy is then answered "not found", which would fail the task. -/
theorem finished_task_stays_finished_finishedVideo :
    (finishedVideo.db.tasks.find 1).map (·.status) = some .success ∧
      (runSteps (applyTaskStep .plain) finishedVideo [.poll 1 1800000200 (.response 404 "" none (.error ""))]).db.tasks.find 1 =
        finishedVideo.db.tasks.find 1 := by
  have held : ∃ row, finishedVideo.db.tasks.find 1 = some row ∧ row.status = .success := by decide
  obtain ⟨row, found, success⟩ := held
  refine ⟨by rw [found, ← success]; rfl, ?_⟩
  have unfinished : ∀ slot ∈ some 1, ∀ task ∈ finishedVideo.copies slot, task.status.terminal = false := by decide
  have kept := @finished_task_stays_finished 1 row .plain finishedVideo
    [.poll 1 1800000200 (.response 404 "" none (.error ""))] ⟨unfinished, trivial⟩ found (by rw [success]; rfl)
  exact kept.trans found.symm

end Wildflow.Billing

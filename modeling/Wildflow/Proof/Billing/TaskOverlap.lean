import Wildflow.Proof.Billing.TaskVisibility

/-!
# Overlapping polls

A poll writes the whole row and is stopped only by a status that has moved on.
-/

namespace Wildflow.Billing
open Wildflow.Store Table

def PollAnswer.failed : PollAnswer → Bool
  | .transportError _ _ => true
  | .response statusCode _ _ parsed =>
    match classifyPollHTTP statusCode, parsed with
    | .notFound, _ => false
    | .auth, _ | .transient, _ | _, .error _ => true
    | httpClass, .ok taskResult =>
      let parsedStatus := TaskStatus.ofText taskResult.status
      !knownPollStatus parsedStatus || (httpClass = .otherClient && isNonTerminalPollStatus parsedStatus)

variable {env : TaskEnvironment} {id now : Int} {db : DB} {task changed row : TaskRow} {answer : PollAnswer} {s : PollRace}

theorem recordPollFailure_counts (found : db.tasks.find changed.id = some row) (pollClass : PollClass) (code : Int)
    (detail : String) : ∃ counted, counted.pollFailures = changed.pollFailures + 1 ∧
      (recordPollFailure env db now changed row.status pollClass code detail).db.tasks.find changed.id = some counted := by
  have won : ∀ {written : TaskRow}, written.id = changed.id → updateWithStatus db written row.status =
      (true, { db with tasks := db.tasks.put written }) := by
    intro written same
    have key := key_of_find found
    rcases updateWithStatus_cases db (same.trans key.symm) with ⟨_, out⟩ | ⟨missed, _⟩
    · exact out
    · exact absurd rfl (missed row (key ▸ found))
  unfold recordPollFailure
  dsimp only
  split
  · simp only [failTaskFromPoll, won, if_true]
    obtain ⟨billed, _⟩ := finalizeTaskBilling_spec env { db with tasks := db.tasks.put _ } _ _
    obtain ⟨quota, same⟩ := billed.quota
    exact ⟨_, by rw [same]; rfl, (billed.turned (find_put_self _ _)).found⟩
  · simp only [won]
    exact ⟨_, rfl, find_put_self _ _⟩

theorem updateVideoSingleTask_failed (failed : answer.failed) : ∃ changed pollClass code detail,
    updateVideoSingleTask env db now task answer = recordPollFailure env db now changed task.status pollClass code detail ∧
      changed.id = task.id ∧ changed.pollFailures = task.pollFailures := by
  cases answer with
  | transportError code detail => exact ⟨task, _, _, _, rfl, rfl, rfl⟩
  | response code body relayed parsed =>
    simp only [updateVideoSingleTask, updateByPollClass, PollAnswer.failed] at failed ⊢
    rcases classifyPollHTTP_cases code with class_ | class_ | class_ | class_ | class_ <;> rw [class_] at failed ⊢
    · cases failed
    · exact ⟨task, _, _, _, rfl, rfl, rfl⟩
    · exact ⟨task, _, _, _, rfl, rfl, rfl⟩
    all_goals
      cases parsed with
      | error detail => exact ⟨_, _, _, _, rfl, rfl, rfl⟩
      | ok taskResult => exact ⟨_, _, _, _, if_pos failed, rfl, rfl⟩

namespace PollRace

/-- Nothing was committed since the load, or the write is refused as the status moved on, losing no failure. -/
def Timely (id : Int) (s : PollRace) : PollMove → Prop
  | .load _ => True
  | .poll slot _ answer => ∀ version task, s.copies slot = some (version, task) →
    version = s.commits ∨ answer.failed = false ∧ ∀ row, s.db.tasks.find id = some row → row.status ≠ task.status

/-- A poll that changes the row has worked on the row as it is, and a failure is counted. -/
def KeepsNewer (env : TaskEnvironment) (id : Int) (s : PollRace) : PollMove → Prop
  | .load _ => True
  | .poll slot now answer => ∀ version task, s.copies slot = some (version, task) →
    let after := (applyPollMove env id s (.poll slot now answer)).db.tasks.find id
    (after ≠ s.db.tasks.find id → version = s.commits ∧ s.db.tasks.find id = some task) ∧
      (answer.failed → ∃ row counted, s.db.tasks.find id = some row ∧ after = some counted ∧
        counted.pollFailures = row.pollFailures + 1)

def Sound (id : Int) (s : PollRace) : Prop := ∀ slot version task, s.copies slot = some (version, task) →
  task.id = id ∧ task.status.terminal = false ∧ version ≤ s.commits ∧ (version = s.commits → s.db.tasks.find id = some task)

theorem Sound.step (sound : s.Sound id) (move : PollMove) : (applyPollMove env id s move).Sound id := by
  intro slot version task held
  cases move with
  | load other =>
    simp only [applyPollMove, Function.update_apply] at held ⊢
    split at held
    · obtain ⟨row, loaded, ⟨⟩⟩ := Option.map_eq_some_iff.mp held
      obtain ⟨found, unfinished⟩ := Option.filter_eq_some_iff.mp loaded
      refine ⟨key_of_find found, ?_, le_rfl, fun _ => found⟩
      simp_all [TaskRow.unfinished, TaskStatus.terminal_eq_false]
    · exact sound slot version task held
  | poll other now answer =>
    cases mine : s.copies other with
    | none =>
      simp only [applyPollMove, mine] at held ⊢
      exact sound slot version task held
    | some copy =>
      simp only [applyPollMove, mine, Function.update_apply] at held ⊢
      split at held
      · cases held
      obtain ⟨own, unfinished, before, current⟩ := sound slot version task held
      refine ⟨own, unfinished, ?_⟩
      split
      · next same => exact ⟨before, fun now => same.trans (current now)⟩
      · exact ⟨by omega, fun _ => by omega⟩

theorem Sound.keeps (sound : s.Sound id) (move : PollMove) (timely : s.Timely id move) : s.KeepsNewer env id move := by
  cases move with
  | load _ => trivial
  | poll slot now answer =>
    intro version task held
    obtain ⟨rfl, unfinished, _, current⟩ := sound slot version task held
    simp only [applyPollMove, held]
    rcases timely version task held with same | ⟨counts, moved⟩
    · refine ⟨fun _ => ⟨same, current same⟩, fun failed => ?_⟩
      obtain ⟨changed, pollClass, code, detail, out, own, kept⟩ := @updateVideoSingleTask_failed env now s.db task _ failed
      obtain ⟨counted, count, found⟩ := recordPollFailure_counts (own ▸ current same) pollClass code detail
      exact ⟨task, counted, current same, by rw [out, ← own, found], by rw [count, kept]⟩
    · refine ⟨fun written => ?_, fun failed => absurd (counts.symm.trans failed) (by simp)⟩
      rcases (updateVideoSingleTask_effect env s.db now unfinished answer).outcome with won | lost
      · obtain ⟨row, found, status⟩ := won.stored
        exact absurd status (moved row found)
      · exact absurd (by rw [lost.tasks]) written

theorem newer_poll_result_kept (env : TaskEnvironment) (db : DB) (id : Int) (moves : List PollMove)
    (timely : Guarded (applyPollMove env id) (Timely id) { db } moves) :
    Guarded (applyPollMove env id) (KeepsNewer env id) { db } moves :=
  Guarded.imp (fun _ move sound _ => Sound.step sound move) (fun _ move sound => Sound.keeps sound move)
    (fun _ _ _ held => nomatch held) timely

def racedTask : DB := { DB.single 1000 with tasks := Table.empty.put { taskOn 7 "41" with status := .inProgress } }

def inStage (status pluginState : String) : PollAnswer := .response 200 "" none (.ok { status, pluginState })

/-- Both polls load the task before one of them writes, and the second finds it finished. -/
theorem newer_poll_result_kept_two_polls :
    let moves := [.load 0, .load 1, .poll 1 0 (inStage "SUCCESS" "render"), .poll 0 0 (inStage "IN_PROGRESS" "upload")]
    ((runSteps (applyPollMove .plain 7) { db := racedTask } (moves.take 3)).copies 0).isSome ∧
      Guarded (applyPollMove .plain 7) (KeepsNewer .plain 7) { db := racedTask } moves := by
  refine ⟨by decide, newer_poll_result_kept .plain racedTask 7 _ ⟨trivial, trivial, ?_, ?_, trivial⟩⟩
  · intro _ _ held
    cases held
    exact .inl rfl
  · intro _ _ held
    cases held
    refine .inr ⟨rfl, fun row found => ?_⟩
    cases found
    decide

theorem outdated_poll_falls_back : ¬Guarded (applyPollMove .plain 7) (KeepsNewer .plain 7) { db := racedTask }
    [.load 0, .load 1, .poll 1 0 (inStage "IN_PROGRESS" "render"), .poll 0 0 (inStage "IN_PROGRESS" "upload")] := by
  rintro ⟨_, _, _, kept, _⟩
  exact absurd ((kept _ _ rfl).1 (by decide)).1 (by decide)

end PollRace

end Wildflow.Billing

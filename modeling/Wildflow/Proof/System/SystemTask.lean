import Wildflow.System.SystemTask

/-!
# No orphaned system task

A running task keeps the lock of its type as long as claims are finished within their lease. Every step has one of a
few effects on the two tables, and the invariant is carried through each of them.
-/

namespace Wildflow.System
open Wildflow.Store Table List Nat
variable {claim : Claim} {task task' : SystemTask} {call : TaskCall} {s : TaskStore}

def SystemTask.active (task : SystemTask) : Prop := task.status = .pending ∨ task.status = .running

def SystemTask.runningBy (task : SystemTask) (runner : String) : Prop := task.status = .running ∧ task.lockedBy = runner

structure TasksLeased (s : TaskStore) : Prop where
  keyed : ∀ task ∈ s.tasks.rows, task.active → task.activeKey = some task.type
  single : ∀ task ∈ s.tasks.rows, ∀ other ∈ s.tasks.rows, task.activeKey ≠ none → task.activeKey = other.activeKey → task = other
  leased : ∀ task ∈ s.tasks.rows, task.status = .running →
    ∃ lock, s.locks.find task.type = some lock ∧ lock.taskID = task.taskID ∧ lock.lockedBy = task.lockedBy
  named : ∀ lock ∈ s.locks.rows, ∃ task, s.tasks.find lock.taskID = some task ∧ task.type = lock.type

/-- What the unique index gives without regard to locks. -/
structure ActiveKeyed (tasks : Table SystemTask.taskID) : Prop where
  keyed : ∀ task ∈ tasks.rows, task.active → task.activeKey = some task.type
  single : ∀ task ∈ tasks.rows, ∀ other ∈ tasks.rows, task.activeKey ≠ none → task.activeKey = other.activeKey → task = other

theorem TasksLeased.activeKeyed (inv : TasksLeased s) : ActiveKeyed s.tasks := ⟨inv.keyed, inv.single⟩

theorem ActiveKeyed.one_active {tasks : Table SystemTask.taskID} (inv : ActiveKeyed tasks) {other : SystemTask}
    (mem : task ∈ tasks.rows) (memOther : other ∈ tasks.rows) (same : task.type = other.type) (active : task.active)
    (activeOther : other.active) : task = other := by
  have key := inv.keyed task mem active
  have keyOther := inv.keyed other memOther activeOther
  exact inv.single task mem other memOther (by simp [key]) (by rw [key, keyOther, same])

theorem TasksLeased.one_active (inv : TasksLeased s) {other : SystemTask} (mem : task ∈ s.tasks.rows)
    (memOther : other ∈ s.tasks.rows) (same : task.type = other.type) (active : task.active) (activeOther : other.active) :
    task = other :=
  inv.activeKeyed.one_active mem memOther same active activeOther

def Known (s : TaskStore) (claim : Claim) : Prop :=
  ∃ task, s.tasks.find claim.taskID = some task ∧ task.type = claim.type ∧ ¬ task.runningBy claim.runner

def Ended (s : TaskStore) (taskID : String) : Prop := ∃ task, s.tasks.find taskID = some task ∧ ¬ task.active

def Spared (s : TaskStore) (stale : SystemTaskLock) (now : Nat) : Prop :=
  now ≤ s.now ∧ ∀ task, s.tasks.find stale.taskID = some task → task.status = .running →
    ∀ lock, s.locks.find task.type = some lock → now ≤ lock.lockedUntil

theorem find_released (s : TaskStore) (taskID lockedBy taskType : String) :
    (releaseSystemTaskLock s taskID lockedBy).locks.find taskType = (s.locks.find taskType).filter fun lock =>
      ¬ (lock.taskID = taskID ∧ lock.lockedBy = lockedBy) :=
  find_keep _ _ _

theorem find_deleted (s : TaskStore) (stale : SystemTaskLock) (now : Nat) (taskType : String) :
    (deleteStale s stale now).locks.find taskType = (s.locks.find taskType).filter fun lock =>
      ¬ (lock.type = stale.type ∧ lock.taskID = stale.taskID ∧ lock.lockedBy = stale.lockedBy ∧ lock.lockedUntil < now) :=
  find_keep _ _ _

theorem find_renewed (s : TaskStore) (taskID lockedBy taskType : String) (lockUntil now : Nat) :
    (renewLock s taskID lockedBy lockUntil now).locks.find taskType =
      (s.locks.find taskType).map (renewed taskID lockedBy lockUntil now) :=
  find_map _ _ (renewed_type taskID lockedBy lockUntil now) _

def endedTask (task : SystemTask) (status : FinishStatus) (error : String) : SystemTask :=
  { task with status := status.status, activeKey := none, error }

inductive Effect (s : TaskStore) (runner : Option String) : TaskStore → Prop
  | same : Effect s runner s
  | created {taskID taskType} (fresh : s.tasks.find taskID = none)
      (free : ∀ task ∈ s.tasks.rows, task.activeKey ≠ some taskType) :
      Effect s runner { s with tasks := s.tasks.put (newTask taskID taskType) }
  | locked {claim : Claim} (free : s.locks.find claim.type = none) (known : Known s claim) :
      Effect s runner { s with locks := s.locks.put claim.lock }
  | taken {claim : Claim} (known : Known s claim)
      (pending : ∃ task, s.tasks.find claim.taskID = some task ∧ task.type = claim.type ∧ task.status = .pending) :
      Effect s runner { s with locks := s.locks.put claim.lock }
  | marked {claim : Claim} {task lock} (found : s.tasks.find claim.taskID = some task) (typed : task.type = claim.type)
      (pending : task.status = .pending) (claimant : runner = some claim.runner)
      (held : s.locks.find claim.type = some lock) (own : lock.taskID = claim.taskID ∧ lock.lockedBy = claim.runner)
      (lease : s.now ≤ lock.lockedUntil) :
      Effect s runner { s with tasks := s.tasks.put (running task claim.runner) }
  | ended {taskID task status error} (found : s.tasks.find taskID = some task) (runs : task.status = .running) :
      Effect s runner { s with tasks := s.tasks.put (endedTask task status error) }
  | released {taskID lockedBy} (idle : ∀ task, s.tasks.find taskID = some task → ¬ task.runningBy lockedBy) :
      Effect s runner (releaseSystemTaskLock s taskID lockedBy)
  | renewed {taskID lockedBy lockUntil now} (ahead : s.now ≤ lockUntil) :
      Effect s runner (renewLock s taskID lockedBy lockUntil now)
  | deleted {stale now} (spared : Spared s stale now) : Effect s runner (deleteStale s stale now)

section
variable {s s' : TaskStore} {runner : Option String}

theorem Effect.now (eff : Effect s runner s') : s'.now = s.now := by
  cases eff <;> rfl

inductive TaskNext (runner : Option String) (task : SystemTask) : SystemTask → Prop
  | same : TaskNext runner task task
  | marked {name} (pending : task.status = .pending) (claimant : runner = some name) :
      TaskNext runner task (running task name)
  | ended {status error} (runs : task.status = .running) : TaskNext runner task (endedTask task status error)

theorem Effect.task_next (effect : Effect s runner s') {taskID : String}
    (found : s.tasks.find taskID = some task) : ∃ task', s'.tasks.find taskID = some task' ∧ TaskNext runner task task' := by
  cases effect with
  | same | locked _ _ | taken _ _ | released _ | renewed _ | deleted _ => exact ⟨task, found, .same⟩
  | created fresh free => exact ⟨task, by grind [newTask], .same⟩
  | @marked claim old lock foundOld typed pending claimant held own lease =>
    by_cases same : old.taskID = taskID
    · exact ⟨running old claim.runner, by grind [running], by grind [TaskNext]⟩
    · exact ⟨task, by grind [running], .same⟩
  | @ended endedID old status error foundOld runs =>
    by_cases same : old.taskID = taskID
    · exact ⟨endedTask old status error, by grind [endedTask], by grind [TaskNext]⟩
    · exact ⟨task, by grind [endedTask], .same⟩

section
variable (next : TaskNext runner task task')
include next

theorem TaskNext.type : task'.type = task.type := by
  cases next <;> rfl

theorem TaskNext.activeKey : task'.activeKey = task.activeKey ∨ task'.activeKey = none := by
  cases next with
  | same | marked _ _ => exact .inl rfl
  | ended _ => exact .inr rfl

theorem TaskNext.taskID : task'.taskID = task.taskID := by
  cases next <;> rfl

theorem TaskNext.active (active : task'.active) : task.active ∧ task'.activeKey = task.activeKey := by
  cases next with
  | same => exact ⟨active, rfl⟩
  | marked due _ => exact ⟨.inl due, rfl⟩
  | @ended status error _ => cases status <;> rcases active with due | busy <;> simp [endedTask, FinishStatus.status] at *

end

theorem Effect.known (eff : Effect s runner s') (known : Known s claim) (other : runner ≠ some claim.runner) :
    Known s' claim := by
  obtain ⟨task, found, typed, idle⟩ := known
  obtain ⟨task', found', next⟩ := eff.task_next found
  refine ⟨task', found', next.type.trans typed, ?_⟩
  cases next with
  | same => exact idle
  | marked due claimant =>
    rintro ⟨_, same⟩
    exact other (claimant.trans (congrArg some same))
  | @ended status error busy =>
    rintro ⟨still, _⟩
    cases status <;> cases still

theorem Effect.stays_ended (eff : Effect s runner s') {taskID : String} (ended : Ended s taskID) : Ended s' taskID := by
  obtain ⟨task, found, final⟩ := ended
  obtain ⟨task', found', next⟩ := eff.task_next found
  refine ⟨task', found', ?_⟩
  cases next with
  | same => exact final
  | marked due claimant => exact absurd (.inl due) final
  | ended busy => exact absurd (.inr busy) final

theorem Effect.running (effect : Effect s runner s') {taskID : String}
    (found : s'.tasks.find taskID = some task) (running : task.status = .running) :
    s.tasks.find taskID = some task ∨
      s'.locks = s.locks ∧ ∃ lock, s.locks.find task.type = some lock ∧ lock.taskID = task.taskID ∧
        lock.lockedBy = task.lockedBy ∧ s.now ≤ lock.lockedUntil := by
  cases effect with
  | same | locked _ _ | taken _ _ | released _ | renewed _ | deleted _ => exact .inl found
  | created fresh free => exact .inl (by grind [newTask])
  | marked foundOld typed pending claimant held own lease => grind [System.running]
  | @ended endedID old status error foundOld wasRunning => exact .inl (by cases status <;> grind [endedTask, FinishStatus.status])

theorem Effect.task_origin (eff : Effect s runner s') {taskID : String} (found' : s'.tasks.find taskID = some task') :
    (∃ task, s.tasks.find taskID = some task ∧ TaskNext runner task task') ∨
      ∃ taskType, task' = newTask taskID taskType ∧ (∀ task ∈ s.tasks.rows, task.activeKey ≠ some taskType) ∧
        s.tasks.find taskID = none ∧ ∀ other, other ≠ taskID → s'.tasks.find other = s.tasks.find other := by
  cases found : s.tasks.find taskID with
  | some task =>
    obtain ⟨other, foundOther, next⟩ := eff.task_next found
    exact .inl ⟨task, rfl, by grind⟩
  | none =>
    cases eff with
    | @created newID taskType fresh free => exact .inr ⟨taskType, by grind [newTask]⟩
    | same | locked _ _ | taken _ _ | released _ | renewed _ | deleted _ => cases found.symm.trans found'
    | marked _ _ _ _ _ _ _ | ended _ _ => grind [System.running, endedTask]

theorem Effect.keyed (inv : ActiveKeyed s.tasks) (eff : Effect s runner s') :
    ∀ task ∈ s'.tasks.rows, task.active → task.activeKey = some task.type := by
  intro task' mem active
  rcases eff.task_origin (find_of_mem mem) with ⟨task, found, next⟩ | ⟨taskType, fresh, _⟩
  · obtain ⟨before, same⟩ := next.active active
    rw [same, next.type]
    exact inv.keyed task (mem_of_find found) before
  · rw [fresh]
    rfl

theorem Effect.single (inv : ActiveKeyed s.tasks) (eff : Effect s runner s') :
    ∀ task ∈ s'.tasks.rows, ∀ other ∈ s'.tasks.rows, task.activeKey ≠ none → task.activeKey = other.activeKey →
      task = other := by
  intro task' mem other' memOther present same
  have foundTask := find_of_mem mem
  have found' := find_of_mem memOther
  have byID : task'.taskID = other'.taskID → task' = other' := by grind
  rcases eff.task_origin foundTask with ⟨task, found, next⟩ | ⟨taskType, fresh, free, _, only⟩
  · have keyTask := next.activeKey.resolve_right present
    rcases eff.task_origin found' with ⟨other, foundBefore, nextOther⟩ | ⟨taskType, fresh, free, _, only⟩
    · have equal := inv.single task (mem_of_find found) other (mem_of_find foundBefore)
      grind [nextOther.activeKey, next.taskID, nextOther.taskID]
    · grind [free task (mem_of_find found), newTask]
  · rcases eff.task_origin found' with ⟨other, foundBefore, nextOther⟩ | ⟨_, _, _, absent, _⟩
    · grind [free other (mem_of_find foundBefore), nextOther.activeKey, newTask]
    · exact byID (by grind)

section
variable (inv : TasksLeased s) (effect : Effect s runner s')
include inv effect

theorem Effect.lock_next (mem : task ∈ s.tasks.rows)
    (running : task.status = .running) {lock' : SystemTaskLock} (held' : s'.locks.find task.type = some lock') :
    ∃ lock, s.locks.find task.type = some lock ∧ lock'.taskID = lock.taskID ∧ lock'.lockedBy = lock.lockedBy ∧
      (lock'.lockedUntil = lock.lockedUntil ∨ s.now ≤ lock'.lockedUntil) := by
  obtain ⟨lock, held, _, _⟩ := inv.leased task mem running
  cases effect with
  | same | created _ _ | marked _ _ _ _ _ _ _ | ended _ _ => exact ⟨lock', held', rfl, rfl, .inl rfl⟩
  | locked free known => exact ⟨lock', by grind [Claim.lock], rfl, rfl, .inl rfl⟩
  | @taken claim known pending =>
    have ne : claim.type ≠ task.type := by
      obtain ⟨claimed, found, typed, waits⟩ := pending
      have one := inv.one_active mem (mem_of_find found)
      grind [SystemTask.active]
    exact ⟨lock', by grind [Claim.lock], rfl, rfl, .inl rfl⟩
  | released _ => exact ⟨lock', by grind [find_released], rfl, rfl, .inl rfl⟩
  | deleted _ => exact ⟨lock', by grind [find_deleted], rfl, rfl, .inl rfl⟩
  | renewed ahead => exact ⟨lock, held, by grind [find_renewed, System.renewed]⟩

theorem Effect.named :
    ∀ lock ∈ s'.locks.rows, ∃ task, s'.tasks.find lock.taskID = some task ∧ task.type = lock.type := by
  intro lock mem
  have before : ∃ task, s.tasks.find lock.taskID = some task ∧ task.type = lock.type := by
    cases effect with
    | same | created _ _ | marked _ _ _ _ _ _ _ | ended _ _ => exact inv.named lock mem
    | locked _ known | taken known _ =>
      rcases mem_put.mp mem with rfl | ⟨earlier, _⟩
      · obtain ⟨task, found, typed, _⟩ := known
        exact ⟨task, found, typed⟩
      · exact inv.named lock earlier
    | released _ | deleted _ => exact inv.named lock (mem_filter.mp mem).1
    | renewed ahead =>
      obtain ⟨old, inside, rfl⟩ := mem_map.mp mem
      grind [inv.named old inside, System.renewed]
  obtain ⟨task, found, typed⟩ := before
  obtain ⟨task', found', next⟩ := effect.task_next found
  exact ⟨task', found', next.type.trans typed⟩

theorem Effect.lock_stays (found : s.tasks.find task.taskID = some task) (running : task.status = .running) :
    ∃ lock', s'.locks.find task.type = some lock' := by
  obtain ⟨lock, held, own, holder⟩ := inv.leased task (mem_of_find found) running
  cases effect with
  | same | created _ _ | marked _ _ _ _ _ _ _ | ended _ _ => exact ⟨lock, held⟩
  | locked _ _ | taken _ _ => grind
  | released idle => exact ⟨lock, by grind [find_released, idle task, SystemTask.runningBy]⟩
  | renewed ahead => grind [find_renewed]
  | deleted spared => exact ⟨lock, by grind [find_deleted, spared.2 task]⟩

end

theorem Effect.spared (inv : TasksLeased s) (eff : Effect s runner s') {stale : SystemTaskLock} {now : Nat}
    (spared : Spared s stale now) : Spared s' stale now := by
  refine ⟨eff.now ▸ spared.1, fun task found busy lock' held' => ?_⟩
  rcases eff.running found busy with before | ⟨same, lock, held, _, _, lease⟩
  · obtain ⟨lock, held, _, _, lease⟩ := eff.lock_next inv (mem_of_find before) busy held'
    rcases lease with same | ahead
    · rw [same]
      exact spared.2 task before busy lock held
    · exact spared.1.trans ahead
  · rw [same, held] at held'
    cases held'
    exact spared.1.trans lease

theorem Effect.leased (inv : TasksLeased s) (eff : Effect s runner s') :
    ∀ task ∈ s'.tasks.rows, task.status = .running →
      ∃ lock, s'.locks.find task.type = some lock ∧ lock.taskID = task.taskID ∧ lock.lockedBy = task.lockedBy := by
  intro task mem busy
  rcases eff.running (find_of_mem mem) busy with before | ⟨same, lock, held, own, holder, _⟩
  · obtain ⟨lock', held'⟩ := eff.lock_stays inv before busy
    have mem := mem_of_find before
    exact ⟨lock', held', by grind [eff.lock_next inv mem busy held', inv.leased task mem busy]⟩
  · exact ⟨lock, by rw [same]; exact held, own, holder⟩

theorem Effect.inv (inv : TasksLeased s) (eff : Effect s runner s') : TasksLeased s' :=
  ⟨eff.keyed inv.activeKeyed, eff.single inv.activeKeyed, eff.leased inv, eff.named inv⟩

end

def callRunner : TaskCall → Option String
  | .claim claim => some claim.runner
  | _ => none

def claimRunner (proc : Process TaskCall TaskPoint TaskResult) : Option String :=
  match proc.state with
  | .inl _ => callRunner proc.call
  | .inr _ => none

abbrev TaskConfig := Config TaskStore TaskCall TaskPoint TaskResult

def SequentialClaims (c : TaskConfig) : Prop :=
  ∀ i < c.procs.length, ∀ j < c.procs.length, i ≠ j → (c.procs[i]?.bind claimRunner).isSome →
    c.procs[i]?.bind claimRunner ≠ c.procs[j]?.bind claimRunner

instance (c : TaskConfig) : Decidable (SequentialClaims c) :=
  inferInstanceAs (Decidable (∀ i < c.procs.length, ∀ j < c.procs.length, _))

/-- Locks are for pending tasks, marks under leases that last, renewals reach ahead, and no task's own lock is given up. -/
def pointGuard (s : TaskStore) (call : TaskCall) : TaskPoint → Bool
  | .lockTake claim _ _ => (findPending s claim.taskID claim.type).isSome
  | .claimMark claim => (findPending s claim.taskID claim.type).isNone ||
      (s.locks.find claim.type).any fun lock =>
        lock.taskID = claim.taskID ∧ lock.lockedBy = claim.runner ∧ s.now ≤ lock.lockedUntil
  | .renew _ _ lockUntil _ => s.now ≤ lockUntil
  | .release taskID runner => call ≠ .release taskID runner ||
      !(s.tasks.find taskID).any fun task => task.status = .running ∧ task.lockedBy = runner
  | _ => true

def taskGuard (c : TaskConfig) : Move TaskCall → Prop
  | .start _ => True
  | .wait _ => True
  | .step pid => SequentialClaims c ∧
      (c.procs[pid]?.all fun proc => proc.state.elim (pointGuard c.shared proc.call) fun _ => true) = true

instance (c : TaskConfig) (m : Move TaskCall) : Decidable (taskGuard c m) :=
  match m with
  | .start _ => .isTrue trivial
  | .wait _ => .isTrue trivial
  | .step _ => instDecidableAnd

def PointHolds (s : TaskStore) (call : TaskCall) : TaskPoint → Prop
  | .claimClock claim | .claimRead claim _ | .claimReload claim => call = .claim claim
  | .lockInsert claim _ | .lockRead claim _ | .lockTake claim _ _ | .claimExpire claim _ | .claimMark claim |
      .claimRelease claim => call = .claim claim ∧ Known s claim
  | .finishClock taskID runner status message => call = .finish taskID runner status message
  | .finish taskID runner status message now => call = .finish taskID runner status message ∧ now ≤ s.now
  | .release taskID runner => call = .release taskID runner ∨ Ended s taskID
  | .expireRead now | .expireMark _ _ now => now ≤ s.now
  | .expireDelete stale _ now => Spared s stale now
  | _ => True

def ProcHolds (s : TaskStore) (_ : Nat) (proc : Process TaskCall TaskPoint TaskResult) : Prop :=
  proc.state.elim (PointHolds s proc.call) fun _ => True

theorem findPending_some {taskID taskType : String} :
    findPending s taskID taskType = some task ↔
      s.tasks.find taskID = some task ∧ task.type = taskType ∧ task.status = .pending := by
  simp [findPending, Option.filter_eq_some_iff]

theorem known_of_pending (found : findPending s claim.taskID claim.type = some task) : Known s claim := by
  obtain ⟨there, typed, due⟩ := findPending_some.mp found
  exact ⟨task, there, typed, by simp [SystemTask.runningBy, due]⟩

theorem nextStale_holds {locks : List SystemTaskLock} {now : Nat} (before : now ≤ s.now) :
    (nextStale locks now).elim (PointHolds s call) fun _ => True := by
  cases locks with
  | nil => trivial
  | cons stale rest => exact before

theorem markExpired_effect (s : TaskStore) (runner : Option String) (taskID : String) :
    Effect s runner (markSystemTaskLeaseExpired s taskID) ∧
      ∀ task, (markSystemTaskLeaseExpired s taskID).tasks.find taskID = some task → task.status ≠ .running := by
  unfold markSystemTaskLeaseExpired
  rcases updateWhere_cases s.tasks taskID (fun task => task.status = .running) (fun task =>
    { task with status := .failed, activeKey := none, error := "task lease expired" }) with
    ⟨task, found, busy, new⟩ | ⟨missed, new⟩
  · rw [new]
    have ended := @Effect.ended s runner taskID task .failed "task lease expired" found (of_decide_eq_true busy)
    refine ⟨ended, fun other found' => ?_⟩
    rw [find_put, if_pos (key_of_find found)] at found'
    cases found'
    nofun
  · rw [new]
    exact ⟨.same, fun task found => of_decide_eq_false (missed task found)⟩

theorem takeLock_cases (s : TaskStore) (lock : SystemTaskLock) (now : Nat) :
    takeLock s lock now = ({ s with locks := s.locks.put lock }, 1) ∨ takeLock s lock now = (s, 0) := by
  unfold takeLock
  rcases updateWhere_cases s.locks lock.type (fun held => held.lockedUntil < now)
    (fun held => { lock with type := held.type }) with ⟨held, there, _, new⟩ | ⟨_, new⟩
  · have same : { lock with type := held.type } = lock := by rw [key_of_find there]
    rw [new, same]
    exact .inl rfl
  · rw [new]
    exact .inr rfl

theorem markRunning_cases (s : TaskStore) (claim : Claim) :
    (∃ task, findPending s claim.taskID claim.type = some task ∧
      markRunning s claim.taskID claim.type claim.runner = ({ s with tasks := s.tasks.put (running task claim.runner) }, 1)) ∨
    markRunning s claim.taskID claim.type claim.runner = (s, 0) := by
  unfold markRunning
  rcases updateWhere_cases s.tasks claim.taskID (fun task => task.type = claim.type ∧ task.status = .pending)
    (running · claim.runner) with ⟨task, found, waits, updated⟩ | ⟨_, updated⟩
  · rw [updated]
    exact .inl ⟨task, findPending_some.mpr ⟨found, of_decide_eq_true waits⟩, rfl⟩
  · rw [updated]
    exact .inr rfl

theorem finishTask_cases (s : TaskStore) (taskID runner : String) (status : FinishStatus) (msg : String) (now : Nat) :
    (∃ task, s.tasks.find taskID = some task ∧ task.status = .running ∧ holdsLease s taskID runner now = true ∧
      finishTask s taskID runner status msg now =
        ({ s with tasks := s.tasks.put (endedTask task status msg) }, 1)) ∨
    finishTask s taskID runner status msg now = (s, 0) := by
  unfold finishTask
  rcases updateWhere_cases s.tasks taskID
    (fun task => task.status = .running ∧ task.lockedBy = runner ∧ holdsLease s taskID runner now = true)
    (fun task => { task with status := status.status, activeKey := none, error := msg }) with
    ⟨task, found, held, new⟩ | ⟨_, new⟩
  · rw [new]
    have holds := of_decide_eq_true held
    exact .inl ⟨task, found, holds.1, holds.2.2, rfl⟩
  · rw [new]
    exact .inr rfl

theorem advanceTask_effect {point : TaskPoint} (holds : PointHolds s call point)
    (allowed : pointGuard s call point = true) :
    Effect s (callRunner call) (advanceTask s point).1 ∧
      (advanceTask s point).2.elim (PointHolds (advanceTask s point).1 call) fun _ => True := by
  cases point with
  | create taskID taskType =>
    refine ⟨?_, trivial⟩
    simp only [advanceTask, insertTask]
    split
    · exact .same
    · next free =>
      simp only [not_or, Option.not_isSome_iff_eq_none, any_eq_true, decide_eq_true_eq, not_exists, not_and] at free
      exact .created free.1 free.2
  | claimClock claim => exact ⟨.same, holds⟩
  | claimRead claim now =>
    simp only [advanceTask]
    split
    · exact ⟨.same, trivial⟩
    · next found => exact ⟨.same, holds, known_of_pending found⟩
  | lockInsert claim now =>
    simp only [advanceTask, insertLock]
    by_cases taken : (s.locks.find claim.lock.type).isSome = true
    · simp only [if_pos taken]
      exact ⟨.same, holds⟩
    simp only [if_neg taken]
    have effect : Effect s (callRunner call) { s with locks := s.locks.put claim.lock } :=
      .locked (Option.not_isSome_iff_eq_none.mp taken) holds.2
    obtain ⟨task, found, typed, idle⟩ := holds.2
    exact ⟨effect, holds.1, task, found, typed, idle⟩
  | lockRead claim now =>
    simp only [advanceTask]
    split
    · exact ⟨.same, trivial⟩
    · split
      · exact ⟨.same, trivial⟩
      · exact ⟨.same, holds⟩
  | lockTake claim now expiredTaskID =>
    obtain ⟨task, found⟩ := Option.isSome_iff_exists.mp allowed
    have known := known_of_pending found
    rcases takeLock_cases s claim.lock now with updated | updated
    · simp only [advanceTask, updated]
      have effect : Effect s (callRunner call) { s with locks := s.locks.put claim.lock } :=
        .taken known ⟨task, findPending_some.mp found⟩
      have knownNow : Known { s with locks := s.locks.put claim.lock } claim := known
      rw [if_neg (by simp)]
      split
      · exact ⟨effect, holds.1, knownNow⟩
      · exact ⟨effect, holds.1, knownNow⟩
    · simp only [advanceTask, updated, if_true]
      exact ⟨.same, trivial⟩
  | claimExpire claim expiredTaskID =>
    have effect := (markExpired_effect s none expiredTaskID).1
    exact ⟨(markExpired_effect s _ expiredTaskID).1, holds.1, effect.known holds.2 nofun⟩
  | claimMark claim =>
    rcases markRunning_cases s claim with ⟨task, there, updated⟩ | updated
    · simp only [pointGuard, there, Option.isNone_some, Bool.false_or, Option.any_eq_true, decide_eq_true_eq] at allowed
      obtain ⟨lock, held, own, holder, lease⟩ := allowed
      obtain ⟨found, typed, pending⟩ := findPending_some.mp there
      simp only [advanceTask, updated]
      exact ⟨.marked found typed pending (by rw [holds.1]; rfl) held ⟨own, holder⟩ lease, holds.1⟩
    · simp only [advanceTask, updated, if_true]
      exact ⟨.same, holds⟩
  | claimRelease claim =>
    refine ⟨.released fun task found running => ?_, trivial⟩
    obtain ⟨known, there, _, idle⟩ := holds.2
    rw [there] at found
    cases found
    exact idle running
  | claimReload claim => exact ⟨.same, trivial⟩
  | renewClock taskID runner lockUntil => exact ⟨.same, trivial⟩
  | renew taskID runner lockUntil now =>
    simp only [advanceTask]
    split
    · exact ⟨.renewed (of_decide_eq_true allowed), trivial⟩
    · exact ⟨.same, trivial⟩
  | finishClock taskID runner status msg => exact ⟨.same, holds, le_refl _⟩
  | finish taskID runner status msg now =>
    rcases finishTask_cases s taskID runner status msg now with ⟨task, found, runs, _, updated⟩ | updated
    · simp only [advanceTask, updated]
      have effect := @Effect.ended s (callRunner call) taskID task status msg found runs
      refine ⟨effect, .inr ⟨endedTask task status msg, ?_, ?_⟩⟩
      · exact (find_put _ _ _).trans (if_pos (key_of_find found))
      · cases status <;> rintro (pending | running) <;> cases ‹_ = _›
    · simp only [advanceTask, updated, if_true]
      exact ⟨.same, trivial⟩
  | release taskID runner =>
    refine ⟨.released fun task found running => ?_, trivial⟩
    rcases holds with rfl | ⟨ended, there, final⟩
    · simp [pointGuard, found, running.1, running.2] at allowed
    · rw [there] at found
      cases found
      exact final (.inr running.1)
  | expireClock => exact ⟨.same, le_refl _⟩
  | expireRead now => exact ⟨.same, nextStale_holds holds⟩
  | expireMark stale rest now =>
    obtain ⟨effect, ended⟩ := markExpired_effect s (callRunner call) stale.taskID
    refine ⟨effect, effect.now ▸ holds, fun task found runs => absurd runs (ended task found)⟩
  | expireDelete stale rest now =>
    exact ⟨.deleted holds, nextStale_holds holds.1⟩

theorem Effect.point {s' : TaskStore} {runner : Option String} (inv : TasksLeased s) (eff : Effect s runner s')
    {point : TaskPoint}
    (holds : PointHolds s call point) (other : ∀ claim, call = .claim claim → runner ≠ some claim.runner) :
    PointHolds s' call point := by
  cases point with
  | lockInsert claim _ | lockRead claim _ | lockTake claim _ _ | claimExpire claim _ | claimMark claim | claimRelease claim =>
    exact ⟨holds.1, eff.known holds.2 (other claim holds.1)⟩
  | finish taskID holder status msg now => exact ⟨holds.1, eff.now ▸ holds.2⟩
  | release taskID holder => exact holds.imp id eff.stays_ended
  | expireRead now | expireMark _ _ now => exact le_trans holds (le_of_eq eff.now.symm)
  | expireDelete stale rest now => exact eff.spared inv holds
  | _ => exact holds

theorem PointHolds.wait {point : TaskPoint} (duration : Nat) (holds : PointHolds s call point) :
    PointHolds { s with now := s.now + duration } call point := by
  cases point with
  | finish taskID holder status msg now => exact ⟨holds.1, le_add_right_of_le holds.2⟩
  | expireRead now | expireMark _ _ now => exact le_add_right_of_le holds
  | expireDelete stale rest now => exact ⟨le_add_right_of_le holds.1, holds.2⟩
  | _ => exact holds

theorem SequentialClaims.other {c : TaskConfig} (sequential : SequentialClaims c) {pid other : Nat}
    {point : TaskPoint} {st : TaskPoint} (ne : other ≠ pid)
    (moved : c.procs[pid]? = some ⟨call, .inl point⟩) (stays : c.procs[other]? = some ⟨.claim claim, .inl st⟩) :
    callRunner call ≠ some claim.runner := by
  obtain ⟨inside, _⟩ := List.getElem?_eq_some_iff.mp moved
  obtain ⟨insideOther, _⟩ := List.getElem?_eq_some_iff.mp stays
  have apart := sequential other insideOther pid inside ne
  rw [moved, stays] at apart
  exact (apart rfl).symm

theorem systemTasks_interleaved : Interleaved systemTasks taskGuard TasksLeased ProcHolds where
  start c call _ _ := by
    cases call with
    | release taskID runner => exact .inl rfl
    | create | claim | renew | finish | expire => trivial
  waits c duration holds _ := by
    refine ⟨⟨holds.1.keyed, holds.1.single, holds.1.leased, holds.1.named⟩, fun pid proc found => ?_⟩
    have point := holds.2 pid proc found
    obtain ⟨call, point | res⟩ := proc
    · exact PointHolds.wait duration point
    · trivial
  steps c pid call point holds allowed found := by
    have may := allowed.2
    rw [found] at may
    obtain ⟨eff, next⟩ := advanceTask_effect (holds.2 pid _ found) may
    exact ⟨eff.inv holds.1, next⟩
  others c pid call point holds allowed found other proc ne foundOther := by
    have may := allowed.2
    rw [found] at may
    obtain ⟨eff, _⟩ := advanceTask_effect (holds.2 pid _ found) may
    have before := holds.2 other proc foundOther
    obtain ⟨callOther, pointOther | res⟩ := proc
    · refine eff.point holds.1 before ?_
      rintro claim rfl
      exact allowed.1.other ne found foundOther
    · trivial

theorem noTasks_leased : Holds TasksLeased ProcHolds noTasks := Holds.idle ⟨nofun, nofun, nofun, nofun⟩

theorem markExpired_succeeded {expired : String}
    (mem : task ∈ (markSystemTaskLeaseExpired s expired).tasks.rows) (success : task.status = .succeeded) :
    task ∈ s.tasks.rows := by
  unfold markSystemTaskLeaseExpired at mem
  grind [Table.updateWhere]

theorem advanceTask_succeeded {point : TaskPoint}
    (mem : task ∈ (advanceTask s point).1.tasks.rows) (success : task.status = .succeeded) :
    task ∈ s.tasks.rows ∨ ∃ runner msg now,
      point = .finish task.taskID runner .succeeded msg now ∧ holdsLease s task.taskID runner now = true := by
  cases point with
  | claimExpire claim expired => exact .inl (markExpired_succeeded mem success)
  | expireMark stale rest now => exact .inl (markExpired_succeeded mem success)
  | finish taskID runner status msg now =>
    rcases finishTask_cases s taskID runner status msg now with ⟨old, found, _, lease, updated⟩ | updated
    · simp only [advanceTask, updated] at mem
      rcases mem_put.mp mem with rfl | ⟨before, _⟩
      · obtain rfl : old.taskID = taskID := key_of_find found
        cases status with
        | failed => cases success
        | succeeded => exact .inr ⟨runner, msg, now, rfl, lease⟩
      · exact .inl before
    · simp only [advanceTask, updated, if_true] at mem
      exact .inl mem
  | create | claimMark | lockInsert | lockTake | lockRead | claimRead | renew =>
    left
    simp only [advanceTask, insertTask, insertLock] at mem
    grind [newTask, System.running, markRunning_cases, takeLock_cases, renewLock]
  | _ => exact .inl mem

/-- `FinishSystemTask`, about to write a success under a lease that had not run out when it read the clock. -/
def Finishing (c : TaskConfig) (taskID : String) (pid : Nat) : Prop :=
  ∃ runner message now, c.procs[pid]? = some
      ⟨.finish taskID runner .succeeded message, .inl (.finish taskID runner .succeeded message now)⟩ ∧
    now ≤ c.shared.now ∧ holdsLease c.shared taskID runner now = true

theorem move_succeeded {c : TaskConfig} {move : Move TaskCall} (holds : Holds TasksLeased ProcHolds c)
    (fresh : task ∉ c.shared.tasks.rows) (mem : task ∈ (systemTasks.move c move).shared.tasks.rows)
    (success : task.status = .succeeded) : ∃ pid, move = .step pid ∧ Finishing c task.taskID pid := by
  cases move with
  | start call => exact absurd mem fresh
  | wait duration => exact absurd mem fresh
  | step pid =>
    unfold Program.move at mem
    dsimp only at mem
    split at mem
    · next call point found =>
      rcases advanceTask_succeeded mem success with before | ⟨runner, msg, now, rfl, lease⟩
      · exact absurd before fresh
      · obtain ⟨rfl, read⟩ := holds.2 pid _ found
        exact ⟨pid, rfl, runner, msg, now, found, read, lease⟩
    · exact absurd mem fresh

theorem running_tasks_leased (moves : List (Move TaskCall)) (allowed : Guarded systemTasks.move taskGuard noTasks moves) :
    let c := runSteps systemTasks.move noTasks moves
    (∀ task ∈ c.shared.tasks.rows, ∀ other ∈ c.shared.tasks.rows, task.type = other.type → task.active → other.active →
      task = other) ∧
    (∀ task ∈ c.shared.tasks.rows, task.status = .running →
      ∃ lock ∈ c.shared.locks.rows, lock.taskID = task.taskID ∧ lock.lockedBy = task.lockedBy) ∧
    ∀ move task, task ∉ c.shared.tasks.rows → task ∈ (systemTasks.move c move).shared.tasks.rows → task.status = .succeeded →
      ∃ pid, move = .step pid ∧ Finishing c task.taskID pid := by
  intro c
  have holds : Holds TasksLeased ProcHolds c := systemTasks_interleaved.run noTasks_leased allowed
  refine ⟨fun task member other memberOther same => holds.1.one_active member memberOther same, ?_,
    fun _ _ => move_succeeded holds⟩
  intro task member runs
  obtain ⟨lock, held, own, holder⟩ := holds.1.leased task member runs
  exact ⟨lock, mem_of_find held, own, holder⟩

def timelyRun : List (Move TaskCall) :=
  [.start (.create "task" "sweep"), .step 0, .start (.claim ⟨"task", "sweep", "a", 5⟩), .step 1, .step 1, .step 1,
    .step 1, .step 1, .wait 3, .start (.finish "task" "a" .succeeded ""), .step 2]

theorem running_tasks_leased_timely :
    Guarded systemTasks.move taskGuard noTasks timelyRun ∧
      (runSteps systemTasks.move noTasks timelyRun).shared.tasks.rows.map SystemTask.status = [.running] ∧
      ∀ task ∈ (runSteps systemTasks.move noTasks timelyRun).shared.tasks.rows, task.status = .running →
        ∃ lock ∈ (runSteps systemTasks.move noTasks timelyRun).shared.locks.rows,
          lock.taskID = task.taskID ∧ lock.lockedBy = task.lockedBy :=
  ⟨by decide +kernel, by decide +kernel, (running_tasks_leased timelyRun (by decide +kernel)).2.1⟩

def orphaningRun : List (Move TaskCall) :=
  [.start (.create "task" "sweep"), .step 0, .start (.claim ⟨"task", "sweep", "a", 5⟩), .step 1, .step 1, .step 1, .wait 10,
    .start .expire, .step 2, .step 2, .step 2, .step 2, .step 1]

theorem late_mark_orphans_task :
    (runSteps systemTasks.move noTasks orphaningRun).shared.tasks.rows =
        [{ taskID := "task", type := "sweep", status := .running, activeKey := some "sweep", lockedBy := "a" }] ∧
      (runSteps systemTasks.move noTasks orphaningRun).shared.locks.rows = [] := by
  decide +kernel

section
variable {s' : TaskStore} {runner : Option String} {tasks tasks' : Table SystemTask.taskID}

/-- Every task is still there: begun with its runner, never waiting again, and ended as it is. -/
def Onward (tasks tasks' : Table SystemTask.taskID) : Prop :=
  ∀ taskID task, tasks.find taskID = some task → ∃ task', tasks'.find taskID = some task' ∧ task'.type = task.type ∧
    (task.status ≠ .pending → task'.status ≠ .pending ∧ task'.lockedBy = task.lockedBy) ∧ (¬ task.active → task' = task)

theorem Onward.refl (tasks : Table SystemTask.taskID) : Onward tasks tasks :=
  fun _ task found => ⟨task, found, rfl, fun begun => ⟨begun, rfl⟩, fun _ => rfl⟩

theorem Onward.trans {last : Table SystemTask.taskID} (first : Onward tasks tasks') (later : Onward tasks' last) :
    Onward tasks last := by
  intro taskID task found
  obtain ⟨task', found', type, begun, ended⟩ := first taskID task found
  obtain ⟨task'', found'', type', begun', ended'⟩ := later taskID task' found'
  refine ⟨task'', found'', type'.trans type, fun busy => ?_, fun final => ?_⟩
  · obtain ⟨busy', same⟩ := begun busy
    exact ⟨(begun' busy').1, (begun' busy').2.trans same⟩
  · obtain rfl := ended final
    exact ended' final

theorem Effect.onward (eff : Effect s runner s') : Onward s.tasks s'.tasks := by
  intro taskID task found
  obtain ⟨task', found', next⟩ := eff.task_next found
  refine ⟨task', found', next.type, ?_⟩
  cases next with
  | same => exact ⟨fun begun => ⟨begun, rfl⟩, fun _ => rfl⟩
  | marked due _ => exact ⟨absurd due, fun final => absurd (.inl due) final⟩
  | @ended status error busy => exact ⟨fun _ => ⟨by cases status <;> nofun, rfl⟩, fun final => absurd (.inr busy) final⟩

/-- The tasks move as by an effect on some store with them, at any time and under any locks. -/
def TasksMoved (tasks tasks' : Table SystemTask.taskID) : Prop :=
  ∃ before after runner, before.tasks = tasks ∧ after.tasks = tasks' ∧ Effect before runner after

theorem Effect.tasksMoved (eff : Effect s runner s') : TasksMoved s.tasks s'.tasks :=
  ⟨s, s', runner, rfl, rfl, eff⟩

theorem TasksMoved.of_eq (same : tasks' = tasks) : TasksMoved tasks tasks' :=
  same ▸ (@Effect.same ⟨0, tasks', .empty⟩ none).tasksMoved

end

theorem advanceTask_tasksMoved (s : TaskStore) (point : TaskPoint) : TasksMoved s.tasks (advanceTask s point).1.tasks := by
  cases point with
  | create newID taskType => exact (@advanceTask_effect .expire s (.create newID taskType) trivial rfl).1.tasksMoved
  | claimExpire _ expired => exact (markExpired_effect s none expired).1.tasksMoved
  | expireMark stale _ _ => exact (markExpired_effect s none stale.taskID).1.tasksMoved
  | finish taskID runner status msg now =>
    rcases finishTask_cases s taskID runner status msg now with ⟨task, found, runs, _, updated⟩ | updated
    · simp only [advanceTask, updated]
      exact (@Effect.ended s none taskID task status msg found runs).tasksMoved
    · exact .of_eq (by simp only [advanceTask, updated, if_true])
  | claimMark claim =>
    rcases markRunning_cases s claim with ⟨task, there, updated⟩ | updated
    · obtain ⟨found, typed, due⟩ := findPending_some.mp there
      simp only [advanceTask, updated]
      -- The mark looks at no lock. The effect wants one, so it is taken in a store that has it.
      let lock : SystemTaskLock := { claim.lock with lockedUntil := s.now }
      exact (@Effect.marked { s with locks := s.locks.put lock } _ claim task lock found typed due rfl
        (find_put_self _ lock) ⟨rfl, rfl⟩ (le_refl _)).tasksMoved
    · exact .of_eq (by simp only [advanceTask, updated, if_true])
  | lockInsert | lockTake | lockRead | claimRead | renew =>
    refine .of_eq ?_
    simp only [advanceTask, insertLock, takeLock]
    grind [renewLock]
  | _ => exact .of_eq rfl

theorem move_tasksMoved (c : TaskConfig) (move : Move TaskCall) :
    TasksMoved c.shared.tasks (systemTasks.move c move).shared.tasks := by
  cases move with
  | start call | wait duration => exact .of_eq rfl
  | step pid =>
    unfold Program.move
    dsimp only
    split
    · exact advanceTask_tasksMoved _ _
    · exact .of_eq rfl

theorem system_tasks_only_forward (c : TaskConfig) (moves : List (Move TaskCall)) :
    Onward c.shared.tasks (runSteps systemTasks.move c moves).shared.tasks := by
  induction moves generalizing c with
  | nil => exact .refl _
  | cons move rest ih =>
    obtain ⟨before, after, runner, start, reached, eff⟩ := move_tasksMoved c move
    have first : Onward c.shared.tasks (systemTasks.move c move).shared.tasks := start ▸ reached ▸ eff.onward
    exact first.trans (ih (systemTasks.move c move))

theorem one_active_task_per_type (moves : List (Move TaskCall)) :
    let tasks := (runSteps systemTasks.move noTasks moves).shared.tasks.rows
    ∀ task ∈ tasks, ∀ other ∈ tasks, task.type = other.type → task.active → other.active → task = other := by
  have keyed : ActiveKeyed (runSteps systemTasks.move noTasks moves).shared.tasks := by
    induction moves using List.reverseRecOn with
    | nil => exact ⟨nofun, nofun⟩
    | append_singleton moves move ih =>
      rw [runSteps_snoc]
      obtain ⟨before, after, runner, start, reached, eff⟩ := move_tasksMoved (runSteps systemTasks.move noTasks moves) move
      have earlier : ActiveKeyed before.tasks := start ▸ ih
      exact reached ▸ ⟨eff.keyed earlier, eff.single earlier⟩
  exact fun task mem other memOther same => keyed.one_active mem memOther same

end Wildflow.System

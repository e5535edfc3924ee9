import Wildflow.Store.Interleaving
import Wildflow.Store.Table

/-!
# System tasks and their locks

`model/system_task.go`, statement by statement. Payloads, states, results and update times are left out, and a task is
known by its `task_id` alone. Statements do not fail.
-/

namespace Wildflow.System
open Wildflow.Store

inductive SystemTaskStatus where
  | pending
  | running
  | succeeded
  | failed
deriving DecidableEq

/-- `activeKey` has a unique index. -/
structure SystemTask where
  taskID : String
  type : String
  status : SystemTaskStatus
  activeKey : Option String
  error : String := ""
  lockedBy : String := ""
deriving DecidableEq

structure SystemTaskLock where
  type : String
  taskID : String
  lockedBy : String
  lockedUntil : Nat

structure TaskStore where
  now : Nat
  tasks : Table SystemTask.taskID
  locks : Table SystemTaskLock.type

def newTask (taskID taskType : String) : SystemTask :=
  { taskID, type := taskType, status := .pending, activeKey := some taskType }

section
variable (s : TaskStore) (taskID : String)

/-- `INSERT` of a pending task, unless its id or the active key of its type is taken. -/
def insertTask (taskType : String) : TaskStore × Bool :=
  if (s.tasks.find taskID).isSome ∨ (s.tasks.rows.any fun task => task.activeKey = some taskType) then (s, false)
  else ({ s with tasks := s.tasks.put (newTask taskID taskType) }, true)

def findPending (taskType : String) : Option SystemTask :=
  (s.tasks.find taskID).filter fun task => task.type = taskType ∧ task.status = .pending

def insertLock (lock : SystemTaskLock) : TaskStore × Bool :=
  if (s.locks.find lock.type).isSome then (s, false) else ({ s with locks := s.locks.put lock }, true)

/-- `UPDATE … WHERE type = ? AND locked_until < ?`. -/
def takeLock (lock : SystemTaskLock) (now : Nat) : TaskStore × Nat :=
  let (locks, affected) := s.locks.updateWhere lock.type (fun held => held.lockedUntil < now) fun held =>
    { lock with type := held.type }
  ({ s with locks }, affected)

def running (task : SystemTask) (runner : String) : SystemTask := { task with status := .running, lockedBy := runner }

def markRunning (taskType runner : String) : TaskStore × Nat :=
  let (tasks, affected) := s.tasks.updateWhere taskID (fun task => task.type = taskType ∧ task.status = .pending)
    (running · runner)
  ({ s with tasks }, affected)

def markSystemTaskLeaseExpired : TaskStore :=
  let (tasks, _) := s.tasks.updateWhere taskID (fun task => task.status = .running) fun task =>
    { task with status := .failed, activeKey := none, error := "task lease expired" }
  { s with tasks }

variable (lockedBy : String)

def releaseSystemTaskLock : TaskStore :=
  { s with locks := s.locks.keep fun lock => ¬ (lock.taskID = taskID ∧ lock.lockedBy = lockedBy) }

/-- `EXISTS (SELECT 1 FROM system_task_locks …)`. -/
def holdsLease (now : Nat) : Bool :=
  s.locks.rows.any fun lock => lock.taskID = taskID ∧ lock.lockedBy = lockedBy ∧ now ≤ lock.lockedUntil

def renewed (lockUntil now : Nat) (lock : SystemTaskLock) : SystemTaskLock :=
  if lock.taskID = taskID ∧ lock.lockedBy = lockedBy ∧ now ≤ lock.lockedUntil then { lock with lockedUntil := lockUntil }
  else lock

theorem renewed_type (lockUntil now : Nat) (lock : SystemTaskLock) :
    (renewed taskID lockedBy lockUntil now lock).type = lock.type := by
  unfold renewed
  split <;> rfl

def renewLock (lockUntil now : Nat) : TaskStore :=
  { s with locks := s.locks.map (renewed taskID lockedBy lockUntil now) (renewed_type taskID lockedBy lockUntil now) }

end

inductive FinishStatus where
  | succeeded
  | failed
deriving DecidableEq

def FinishStatus.status : FinishStatus → SystemTaskStatus
  | .succeeded => .succeeded
  | .failed => .failed

def finishTask (s : TaskStore) (taskID lockedBy : String) (status : FinishStatus) (errorMessage : String) (now : Nat) :
    TaskStore × Nat :=
  let (tasks, affected) := s.tasks.updateWhere taskID
    (fun task => task.status = .running ∧ task.lockedBy = lockedBy ∧ holdsLease s taskID lockedBy now = true) fun task =>
      { task with status := status.status, activeKey := none, error := errorMessage }
  ({ s with tasks }, affected)

def staleLocks (s : TaskStore) (now : Nat) : List SystemTaskLock := s.locks.rows.filter fun lock => lock.lockedUntil < now

def deleteStale (s : TaskStore) (stale : SystemTaskLock) (now : Nat) : TaskStore :=
  { s with locks := s.locks.keep fun lock =>
      ¬ (lock.type = stale.type ∧ lock.taskID = stale.taskID ∧ lock.lockedBy = stale.lockedBy ∧ lock.lockedUntil < now) }

structure Claim where
  taskID : String
  type : String
  runner : String
  lockUntil : Nat
deriving DecidableEq

def Claim.lock (claim : Claim) : SystemTaskLock :=
  { type := claim.type, taskID := claim.taskID, lockedBy := claim.runner, lockedUntil := claim.lockUntil }

inductive TaskCall where
  | create (taskID taskType : String)
  | claim (claim : Claim)
  | renew (taskID runner : String) (lockUntil : Nat)
  | finish (taskID runner : String) (status : FinishStatus) (errorMessage : String)
  | release (taskID runner : String)
  | expire
deriving DecidableEq

/-- Where an operation stands: what it does next, and what it has read. -/
inductive TaskPoint where
  | create (taskID taskType : String)
  | claimClock (claim : Claim)
  | claimRead (claim : Claim) (now : Nat)
  | lockInsert (claim : Claim) (now : Nat)
  | lockRead (claim : Claim) (now : Nat)
  | lockTake (claim : Claim) (now : Nat) (expiredTaskID : String)
  | claimExpire (claim : Claim) (expiredTaskID : String)
  | claimMark (claim : Claim)
  | claimRelease (claim : Claim)
  | claimReload (claim : Claim)
  | renewClock (taskID runner : String) (lockUntil : Nat)
  | renew (taskID runner : String) (lockUntil now : Nat)
  | finishClock (taskID runner : String) (status : FinishStatus) (errorMessage : String)
  | finish (taskID runner : String) (status : FinishStatus) (errorMessage : String) (now : Nat)
  | release (taskID runner : String)
  | expireClock
  | expireRead (now : Nat)
  | expireMark (stale : SystemTaskLock) (rest : List SystemTaskLock) (now : Nat)
  | expireDelete (stale : SystemTaskLock) (rest : List SystemTaskLock) (now : Nat)

inductive TaskResult where
  | created (ok : Bool)
  | claimed (task : Option SystemTask)
  | done
  | lockLost

def enterCall : TaskCall → TaskPoint
  | .create taskID taskType => .create taskID taskType
  | .claim claim => .claimClock claim
  | .renew taskID runner lockUntil => .renewClock taskID runner lockUntil
  | .finish taskID runner status errorMessage => .finishClock taskID runner status errorMessage
  | .release taskID runner => .release taskID runner
  | .expire => .expireClock

def nextStale (locks : List SystemTaskLock) (now : Nat) : TaskPoint ⊕ TaskResult :=
  match locks with
  | [] => .inr .done
  | stale :: rest => .inl (.expireMark stale rest now)

def advanceTask (s : TaskStore) : TaskPoint → TaskStore × (TaskPoint ⊕ TaskResult)
  | .create taskID taskType => ((insertTask s taskID taskType).1, .inr (.created (insertTask s taskID taskType).2))
  | .claimClock claim => (s, .inl (.claimRead claim s.now))
  | .claimRead claim now =>
    match findPending s claim.taskID claim.type with
    | none => (s, .inr (.claimed none))
    | some _ => (s, .inl (.lockInsert claim now))
  | .lockInsert claim now =>
    match insertLock s claim.lock with
    | (s', true) => (s', .inl (.claimMark claim))
    | (s', false) => (s', .inl (.lockRead claim now))
  | .lockRead claim now =>
    match s.locks.find claim.type with
    | none => (s, .inr (.claimed none))
    | some existing =>
      if now ≤ existing.lockedUntil then (s, .inr (.claimed none)) else (s, .inl (.lockTake claim now existing.taskID))
  | .lockTake claim now expiredTaskID =>
    let (s', affected) := takeLock s claim.lock now
    if affected = 0 then (s', .inr (.claimed none))
    else if expiredTaskID ≠ "" ∧ expiredTaskID ≠ claim.taskID then (s', .inl (.claimExpire claim expiredTaskID))
    else (s', .inl (.claimMark claim))
  | .claimExpire claim expiredTaskID => (markSystemTaskLeaseExpired s expiredTaskID, .inl (.claimMark claim))
  | .claimMark claim =>
    let (s', affected) := markRunning s claim.taskID claim.type claim.runner
    if affected = 0 then (s', .inl (.claimRelease claim)) else (s', .inl (.claimReload claim))
  | .claimRelease claim => (releaseSystemTaskLock s claim.taskID claim.runner, .inr (.claimed none))
  | .claimReload claim => (s, .inr (.claimed (s.tasks.find claim.taskID)))
  | .renewClock taskID runner lockUntil => (s, .inl (.renew taskID runner lockUntil s.now))
  | .renew taskID runner lockUntil now =>
    if holdsLease s taskID runner now then (renewLock s taskID runner lockUntil now, .inr .done) else (s, .inr .lockLost)
  | .finishClock taskID runner status errorMessage => (s, .inl (.finish taskID runner status errorMessage s.now))
  | .finish taskID runner status errorMessage now =>
    let (s', affected) := finishTask s taskID runner status errorMessage now
    if affected = 0 then (s', .inr .lockLost) else (s', .inl (.release taskID runner))
  | .release taskID runner => (releaseSystemTaskLock s taskID runner, .inr .done)
  | .expireClock => (s, .inl (.expireRead s.now))
  | .expireRead now => (s, nextStale (staleLocks s now) now)
  | .expireMark stale rest now => (markSystemTaskLeaseExpired s stale.taskID, .inl (.expireDelete stale rest now))
  | .expireDelete stale rest now => (deleteStale s stale now, nextStale rest now)

def systemTasks : Program TaskStore TaskCall TaskPoint TaskResult where
  enter := enterCall
  advance := fun s _ => advanceTask s
  wait := fun s duration => { s with now := s.now + duration }

def noTasks : Config TaskStore TaskCall TaskPoint TaskResult := ⟨⟨0, Table.empty, Table.empty⟩, []⟩

end Wildflow.System

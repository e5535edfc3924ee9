import Wildflow.Billing.Operation
import Wildflow.Billing.TaskPolling

/-!
# Operations of image tasks

An image request reserves an operation under its idempotency key before it is sent. What comes back is attached to it
in one transaction with the settlement of the request's reservation.
-/

namespace Wildflow.Billing
open Wildflow.Store

def taskSubmissionOutcomeUnknown : String := "task_submission_outcome_unknown"

def getWildFlowOperationByUserAndKey (db : DB) (userId : Int) (keyDigest : String) : Option WildFlowOperation :=
  db.operations.rows.find? fun operation => operation.userId = userId ∧ operation.idempotencyKeyDigest = keyDigest

def WildFlowOperation.unknownOutcome (now : Int) (operation : WildFlowOperation) : WildFlowOperation :=
  { operation with
    state := "recovery_required", submissionPhase := .recoveryRequired
    lastErrorCode := taskSubmissionOutcomeUnknown, updatedTime := now }

/-- A submission whose lease has run out has an unknown outcome. -/
def resolveTaskOperationReplay (db : DB) (operation : WildFlowOperation) (digest : String) :
    Except BillingError (WildFlowOperation × Bool) × DB :=
  if operation.requestDigest ≠ digest ∨ operation.billingState ≠ .managedByTask ∨ operation.taskId = "" then
    (.error .taskOperationConflict, db)
  else if operation.state = "task_submitting" ∧ operation.submissionLeaseExpiresAt ≤ db.now then
    let updated := db.operations.updateWhere operation.operationId (fun stored => stored.state = "task_submitting")
      (WildFlowOperation.unknownOutcome db.now)
    let db := { db with operations := updated.1 }
    match db.operations.find operation.operationId with
    | some operation => (.ok (operation, false), db)
    | none => (.error .recordNotFound, db)
  else (.ok (operation, false), db)

def WildFlowOperation.submitting (now : Int) (candidate : WildFlowOperation) : WildFlowOperation :=
  { candidate with
    state := "task_submitting", billingState := .managedByTask, billingSource := .taskHost
    submissionPhase := .submitting, submissionAttempt := 1, updatedTime := now }

def reserveTaskOperation (db : DB) (candidate : WildFlowOperation) :
    Except BillingError (WildFlowOperation × Bool) × DB :=
  if candidate.userId ≤ 0 ∨ candidate.operationId = "" ∨ ¬"task_".toList.isPrefixOf candidate.taskId.toList ∨
      candidate.idempotencyKeyDigest.length ≠ 64 ∨ candidate.requestDigest.length ≠ 64 ∨
      candidate.submissionLeaseExpiresAt ≤ db.now then
    (.error .invalidTaskOperationReservation, db)
  else match getWildFlowOperationByUserAndKey db candidate.userId candidate.idempotencyKeyDigest with
    | some existing => resolveTaskOperationReplay db existing candidate.requestDigest
    | none =>
      let created := candidate.submitting db.now
      match db.operations.find candidate.operationId with
      | some _ => (.error .duplicatedKey, db)
      | none => (.ok (created, true), { db with operations := db.operations.put created })

def WildFlowOperation.canAttach (operation : WildFlowOperation) : Bool :=
  operation.state = "task_submitting" ||
    (operation.state = "recovery_required" && operation.lastErrorCode = taskSubmissionOutcomeUnknown)

def WildFlowOperation.accepted (quota now : Int) (operation : WildFlowOperation) : WildFlowOperation :=
  { operation with
    state := "task_accepted", billingQuota := quota, billingSettledTime := now, submissionPhase := .accepted
    lastErrorCode := "", updatedTime := now }

/-- A free request may have no reservation; any other one must be the request's own and sent. -/
def settleAttachedReservationTx (operation : WildFlowOperation) (task : TaskRow) : BillingTx Unit :=
  if operation.requestId = "" ∧ task.quota ≤ 0 then pure ()
  else do
    let db ← Tx.read
    match db.reservations.find operation.requestId with
    | none => Tx.ensure (task.quota = 0) .recordNotFound
    | some reservation => do
        Tx.ensure (reservation.userId = task.userId ∧ reservation.tokenId = task.tokenId ∧
          reservation.tokenId = operation.tokenId ∧ reservation.state = .providerStarted ∧
          0 ≤ reservation.amount ∧ reservation.amount ≤ maxQuota) .taskOperationState
        settleBillingReservationTx operation.requestId (task.quota - reservation.amount)

def createTaskTx (task : TaskRow) : BillingTx Unit := do
  let db ← Tx.read
  Tx.write (insertTask db { task with id := nextTaskId db })

def insertTaskForOperationTx (operationId : String) (task : TaskRow) : BillingTx Unit := do
  let db ← Tx.read
  let operation ← Tx.orFail .recordNotFound
    ((db.operations.find operationId).filter fun operation => operation.userId = task.userId)
  Tx.ensure (operation.taskId = task.taskId ∧ operation.canAttach ∧ operation.billingState = .managedByTask)
    .taskOperationState
  let rows ← updateOperation operationId (fun stored => stored.state = operation.state)
    (WildFlowOperation.accepted task.quota db.now)
  Tx.ensure (rows = 1) .taskOperationState
  settleAttachedReservationTx operation task
  createTaskTx task
  let _ ← ensureWildFlowCanonicalBillingLogTx
    { operation with billingQuota := task.quota, billingSettledTime := db.now } .consume "Image task accepted"
  let _ ← updateUser task.userId (fun _ => true) (User.addUse task.quota 1)

def insertTaskForOperation (db : DB) (operationId : String) (task : TaskRow) : Except BillingError Unit × DB :=
  if task.userId ≤ 0 ∨ task.quota < 0 ∨ maxQuota < task.quota then (.error .taskOperationState, db)
  else (insertTaskForOperationTx operationId task).commit db

def WildFlowOperation.submissionFailed (uncertain : Bool) (now : Int) (operation : WildFlowOperation) :
    WildFlowOperation :=
  if uncertain then operation.unknownOutcome now
  else
    { operation with
      state := "task_failed", submissionPhase := .failed, lastErrorCode := "task_submission_rejected"
      updatedTime := now }

def recordTaskOperationSubmissionFailure (db : DB) (operationId : String) (uncertain : Bool) : Bool × DB :=
  let updated := db.operations.updateWhere operationId
    (fun stored => stored.state = "task_submitting" && stored.billingState = .managedByTask)
    (WildFlowOperation.submissionFailed uncertain db.now)
  (updated.2 = 1, { db with operations := updated.1 })

def attachedTasks (db : DB) (operation : WildFlowOperation) : List TaskRow :=
  db.tasks.rows.filter fun task => task.taskId = operation.taskId

inductive OperationCall where
  | replay (candidate : WildFlowOperation)
  /-- A reader that found the operation in an earlier state. -/
  | resolve (copy : WildFlowOperation) (digest : String)
  | recordFailure (uncertain : Bool)
  | tick (seconds : Nat)

def applyOperationCall (operation : WildFlowOperation) (db : DB) : OperationCall → DB
  | .replay candidate =>
    let candidate := { candidate with
      userId := operation.userId, idempotencyKeyDigest := operation.idempotencyKeyDigest }
    (reserveTaskOperation db candidate).2
  | .resolve copy digest =>
    (resolveTaskOperationReplay db { copy with operationId := operation.operationId } digest).2
  | .recordFailure uncertain => (recordTaskOperationSubmissionFailure db operation.operationId uncertain).2
  | .tick seconds => { db with now := db.now + seconds }

structure AttachSystem where
  db : DB
  relay : BilledRelay

inductive AttachStep where
  | call (call : OperationCall)
  | insertTask (task : TaskRow)
  | markProviderStarted
  | settle
  | refund

def applyAttachStep (operation : WildFlowOperation) (s : AttachSystem) : AttachStep → AttachSystem
  | .call call => { s with db := applyOperationCall operation s.db call }
  | .insertTask task => { s with db := (insertTaskForOperation s.db operation.operationId task).2 }
  | .markProviderStarted =>
    match s.relay.billing with
    | none => s
    | some session => { s with db := (session.markProviderStarted s.db).2 }
  | .settle =>
    match attachedTasks s.db operation with
    | [] => s
    | task :: _ =>
      let (_, relay, db) := settleBilling s.db s.relay task.quota
      { relay, db }
  | .refund =>
    match s.relay.billing with
    | none => s
    | some session =>
      let (session, db) := session.refund s.db
      { relay := { s.relay with billing := some session }, db }

end Wildflow.Billing

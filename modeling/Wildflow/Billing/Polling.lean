import Wildflow.Billing.Operation

/-!
# Pollers

A poller loads an operation, reads its job from the inference service, writes what it read and then bills the
operation. Others may come in between, so it is a state machine.
-/

namespace Wildflow.Billing
open Wildflow.Store

inductive FinalState where
  | succeeded | failed | cancelled
deriving DecidableEq

def FinalState.text : FinalState → String
  | .succeeded => "succeeded"
  | .failed => "failed"
  | .cancelled => "cancelled"

inductive JobState where
  | queued
  | running
  | final (state : FinalState)
deriving DecidableEq

def JobState.text : JobState → String
  | .queued => "queued"
  | .running => "running"
  | .final state => state.text

def JobState.rank : JobState → Nat
  | .queued => 0
  | .running => 1
  | .final _ => 2

inductive ArtifactVerdict where
  | valid (resultJSON : String)
  | missing
  | invalid
  | failed
deriving DecidableEq

structure JobReport where
  id : String
  state : JobState
  lastError : String
  artifacts : ArtifactVerdict
deriving DecidableEq

def wildFlowExecutionErrorCode (state lastError : String) : String :=
  if state = "recovery_required" then "recovery_required"
  else if state = "failed" ∨ trimSpace lastError ≠ "" then "execution_failed"
  else ""

inductive PollerKind where
  | getWildFlowJob
  | cancelWildFlowJob
  | reconcileWildFlowBillingOnce
deriving DecidableEq

inductive ReadOutcome where
  | report
  | notFound
  | unavailable

inductive Poller where
  | idle
  | loaded (kind : PollerKind) (operation : WildFlowOperation)
  | observed (kind : PollerKind) (operation : WildFlowOperation) (job : JobReport)
  | written (kind : PollerKind) (operation : WildFlowOperation) (job : JobReport)
  | billing (operation : WildFlowOperation)
  | recovering (operation : WildFlowOperation) (errorCode : String)
deriving DecidableEq

/-- A reader of a job that the service no longer knows goes on only if its operation succeeded without a stored result. -/
def Poller.read (job : JobReport) (outcome : ReadOutcome) : Poller → Poller
  | .loaded kind operation =>
    match outcome with
    | .report => .observed kind operation job
    | .notFound =>
      if kind = .getWildFlowJob ∧ operation.state = "succeeded" ∧ operation.resultJSON = "" then
        .recovering operation "result_unavailable"
      else .idle
    | .unavailable => .idle
  | poller => poller

/-- The reconciler skips a job whose artifacts it could not validate. -/
def executionUpdate (kind : PollerKind) (job : JobReport) : Option (String × String) :=
  match kind with
  | .getWildFlowJob | .cancelWildFlowJob =>
    some (job.state.text, wildFlowExecutionErrorCode job.state.text job.lastError)
  | .reconcileWildFlowBillingOnce =>
    if job.state.text = "succeeded" then
      match job.artifacts with
      | .valid _ => some ("succeeded", "")
      | .missing => some ("recovery_required", "missing_artifact")
      | .invalid => some ("recovery_required", "invalid_artifact")
      | .failed => none
    else some (job.state.text, wildFlowExecutionErrorCode job.state.text job.lastError)

def recoverArtifact (kind : PollerKind) (operation : WildFlowOperation) (errorCode : String) : Poller :=
  if kind = .reconcileWildFlowBillingOnce then .idle else .recovering operation errorCode

section
variable (operation : WildFlowOperation)

def WildFlowOperation.listedForReconciliation : Bool :=
  operation.jobId ≠ "" &&
    (operation.billingState = .reserved || operation.billingState = .refunding ||
      (operation.billingState = .pending && operation.productModelRef = "IndexTTS-2.5" &&
        ["queued", "running", "cancel_requested", "recovery_required", "succeeded"].contains operation.state &&
        operation.resultJSON = ""))

def PollerKind.asks : PollerKind → Bool
  | .getWildFlowJob => !(operation.state = "succeeded" && operation.resultJSON ≠ "") &&
      operation.state ≠ "recovery_required" && operation.jobId ≠ ""
  | .cancelWildFlowJob => operation.jobId ≠ ""
  | .reconcileWildFlowBillingOnce => operation.listedForReconciliation

def afterExecution : Poller :=
  if operation.billingState = .unset ∨ operation.billingState = .pending then .idle
  else if operation.state = "succeeded" ∨ operation.state = "failed" ∨ operation.state = "cancelled" then
    .billing operation
  else .idle

end

/-- The operation's own retention counts when it is between a minute and a year. -/
def resultRetention (configured : Int) (operation : WildFlowOperation) : Int :=
  if 60 ≤ operation.resultRetentionSeconds ∧ operation.resultRetentionSeconds ≤ 31536000 then
    operation.resultRetentionSeconds
  else configured

section
variable (db : DB) (operationId : String)

def Poller.load (kind : PollerKind) : Poller :=
  match db.operations.find operationId with
  | some operation => if kind.asks operation then .loaded kind operation else .idle
  | none => .idle

def Poller.write : Poller → Poller × DB
  | .observed kind operation job =>
    match executionUpdate kind job with
    | none => (.idle, db)
    | some (state, errorCode) =>
      (.written kind
        { operation with
          jobId := if kind = .reconcileWildFlowBillingOnce then job.id else operation.jobId
          state, lastErrorCode := errorCode } job,
        updateWildFlowOperationExecution db operationId job.id state errorCode)
  | poller => (poller, db)

def Poller.persist (retention : Int) : Poller → Poller × DB
  | .written kind operation job =>
    if operation.state = "succeeded" then
      match job.artifacts with
      | .missing => (recoverArtifact kind operation "missing_artifact", db)
      | .invalid => (recoverArtifact kind operation "invalid_artifact", db)
      | .failed => (.idle, db)
      | .valid resultJSON =>
        match storeWildFlowOperationResult db operationId resultJSON
          (db.now + resultRetention retention operation) with
        | (.ok stored, db) => (afterExecution stored, db)
        | (.error _, db) => (.idle, db)
    else (afterExecution operation, db)
  | poller => (poller, db)

def Poller.bill : Poller → Poller × DB
  | .billing operation =>
    let (outcome, db) :=
      if operation.state = "succeeded" then settleWildFlowOperationBilling db operationId
      else refundWildFlowOperationBilling db operationId
    let conflict : Bool :=
      match outcome with
      | .error failure => failure = .wildFlowBillingStateConflict
      | .ok (billed, _) =>
        if operation.state = "succeeded" then
          billed.billingState ≠ .settled && billed.billingState ≠ .reserved
        else billed.billingState ≠ .refunded
    (if conflict then .recovering operation "billing_state_conflict" else .idle, db)
  | poller => (poller, db)

def Poller.recover : Poller → Poller × DB
  | .recovering operation errorCode =>
    (.idle, updateWildFlowOperationExecution db operationId operation.jobId "recovery_required" errorCode)
  | poller => (poller, db)

end

end Wildflow.Billing

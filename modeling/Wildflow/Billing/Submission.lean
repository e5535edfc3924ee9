import Wildflow.Billing.Operation

/-!
# Submission leases

A node claims a lease on an operation, begins the submission under it and reports what became of it. A reconciler takes
over what was left behind. Every call reads the clock before its transaction, so `now` is an argument.
-/

namespace Wildflow.Billing
open Wildflow.Store

def loadWildFlowOperationForSubmission (operationId : String) : BillingTx WildFlowOperation := do
  Tx.ensure (trimSpace operationId ≠ "") .invalidWildFlowSubmissionOperation
  let db ← Tx.read
  Tx.orFail .recordNotFound (db.operations.find operationId)

def WildFlowOperation.claimedBy (owner leaseToken : String) (leaseExpiresAt now : Int)
    (operation : WildFlowOperation) : WildFlowOperation :=
  { operation with
    submissionPhase := .prepared, submissionOwner := owner, submissionLeaseToken := leaseToken
    submissionLeaseExpiresAt := leaseExpiresAt, updatedTime := now }

section
variable (db : DB) (now : Int) (operationId owner leaseToken : String)

def claimWildFlowOperationSubmission (leaseExpiresAt : Int) : Except BillingError (WildFlowOperation × Bool) × DB :=
  if trimSpace operationId = "" ∨ trimSpace owner = "" ∨ 128 < owner.utf8ByteSize ∨
      trimSpace leaseToken = "" ∨ 64 < leaseToken.utf8ByteSize ∨ leaseExpiresAt ≤ now then
    (.error .invalidWildFlowSubmissionLease, db)
  else Tx.commit (do
    let operation ← loadWildFlowOperationForSubmission operationId
    if operation.jobId ≠ "" ∨ operation.state ≠ "submitting" ∨
        (operation.submissionPhase ≠ .prepared ∧ operation.submissionPhase ≠ .retryable) then
      return (operation, false)
    else if 0 < operation.submissionRetryUntil ∧ operation.submissionRetryUntil ≤ now then
      return (operation, false)
    else if operation.submissionLeaseToken ≠ "" ∧ now < operation.submissionLeaseExpiresAt then
      return (operation, false)
    else do
      let rows ← updateOperation operationId
        (fun stored => stored.jobId = "" && stored.state = "submitting" &&
          (stored.submissionPhase = .prepared || stored.submissionPhase = .retryable) &&
          (stored.submissionLeaseToken = "" || stored.submissionLeaseExpiresAt ≤ now))
        (WildFlowOperation.claimedBy owner leaseToken leaseExpiresAt now)
      let stored ← loadWildFlowOperationForSubmission operationId
      return (stored, rows = 1 && stored.submissionOwner = owner && stored.submissionLeaseToken = leaseToken)) db

def WildFlowOperation.begunAt (now : Int) (operation : WildFlowOperation) : WildFlowOperation :=
  { operation with
    submissionPhase := .submitting, submissionAttempt := operation.submissionAttempt + 1
    submissionStartedTime := now, updatedTime := now }

def WildFlowOperation.mayBegin (owner leaseToken : String) (now : Int) (operation : WildFlowOperation) : Bool :=
  operation.state = "submitting" && operation.jobId = "" && operation.submissionPhase = .prepared &&
    operation.submissionOwner = owner && operation.submissionLeaseToken = leaseToken &&
    now < operation.submissionLeaseExpiresAt

def beginWildFlowOperationSubmission : Except BillingError WildFlowOperation × DB :=
  Tx.commit (do
    let operation ← loadWildFlowOperationForSubmission operationId
    Tx.ensure (operation.mayBegin owner leaseToken now) .wildFlowSubmissionLeaseLost
    let rows ← updateOperation operationId (WildFlowOperation.mayBegin owner leaseToken now)
      (WildFlowOperation.begunAt now)
    Tx.ensure (rows = 1) .wildFlowSubmissionLeaseLost
    loadWildFlowOperationForSubmission operationId) db

def WildFlowOperation.leasedTo (owner leaseToken : String) (allowedPhases : List SubmissionPhase)
    (operation : WildFlowOperation) : Bool :=
  allowedPhases.contains operation.submissionPhase && operation.submissionOwner = owner &&
    operation.submissionLeaseToken = leaseToken

def transitionWildFlowSubmissionLease (allowedPhases : List SubmissionPhase)
    (updates : WildFlowOperation → WildFlowOperation) : Except BillingError WildFlowOperation × DB :=
  if trimSpace operationId = "" ∨ trimSpace owner = "" ∨ trimSpace leaseToken = "" then
    (.error .wildFlowSubmissionLeaseLost, db)
  else Tx.commit (do
    let operation ← loadWildFlowOperationForSubmission operationId
    Tx.ensure (operation.leasedTo owner leaseToken allowedPhases) .wildFlowSubmissionLeaseLost
    let rows ← updateOperation operationId (WildFlowOperation.leasedTo owner leaseToken allowedPhases) updates
    Tx.ensure (rows = 1) .wildFlowSubmissionLeaseLost
    loadWildFlowOperationForSubmission operationId) db

def WildFlowOperation.leftLease (state errorCode : String) (phase : SubmissionPhase) (now : Int)
    (operation : WildFlowOperation) : WildFlowOperation :=
  { operation with
    state, lastErrorCode := errorCode, submissionPhase := phase, submissionOwner := ""
    submissionLeaseToken := "", submissionLeaseExpiresAt := 0, updatedTime := now }

/-- A retry deadline is only ever brought forward. -/
def WildFlowOperation.retryableUntil (errorCode : String) (retryUntil now : Int)
    (operation : WildFlowOperation) : WildFlowOperation :=
  { operation.leftLease "submitting" errorCode .retryable now with
    submissionRetryUntil :=
      if 0 < operation.submissionRetryUntil ∧ operation.submissionRetryUntil < retryUntil then
        operation.submissionRetryUntil
      else retryUntil }

def markWildFlowOperationSubmissionRetryable (errorCode : String) (retryUntil : Int) :
    Except BillingError WildFlowOperation × DB :=
  if retryUntil ≤ now then (.error .invalidWildFlowSubmissionRetryDeadline, db)
  else transitionWildFlowSubmissionLease db operationId owner leaseToken [.prepared, .submitting]
    (WildFlowOperation.retryableUntil errorCode retryUntil now)

def markWildFlowOperationSubmissionRecoveryRequired (errorCode : String) :
    Except BillingError WildFlowOperation × DB :=
  transitionWildFlowSubmissionLease db operationId owner leaseToken [.submitting]
    (WildFlowOperation.leftLease "recovery_required" errorCode .recoveryRequired now)

def WildFlowOperation.acceptedAs (jobId state : String) (now : Int) (operation : WildFlowOperation) :
    WildFlowOperation :=
  { operation.leftLease state "" .accepted now with jobId, submissionRetryUntil := 0 }

def completeWildFlowOperationSubmission (jobId state : String) : Except BillingError WildFlowOperation × DB :=
  if trimSpace jobId = "" ∨ trimSpace state = "" then (.error .invalidWildFlowSubmittedJob, db)
  else transitionWildFlowSubmissionLease db operationId owner leaseToken [.submitting]
    (WildFlowOperation.acceptedAs jobId state now)

end

def WildFlowOperation.refundDue (operation : WildFlowOperation) : Bool :=
  operation.billingState = .reserved || operation.billingState = .refunding

structure SubmissionReconciliation where
  transitioned : Bool
  shouldRefund : Bool

/-- The row is locked, so the conditions of the updates that compare it with itself hold. -/
def reconcileWildFlowSubmissionTx (operationId : String) (now : Int) :
    BillingTx SubmissionReconciliation := do
  let operation ← loadWildFlowOperationForSubmission operationId
  if operation.state = "submitting" ∧ operation.submissionPhase = .unset then do
    let _ ← updateOperation operationId (fun stored => stored.state = "submitting" && stored.submissionPhase = .unset)
      (WildFlowOperation.leftLease "recovery_required" "legacy_submission_state_unknown" .recoveryRequired now)
    return ⟨true, false⟩
  else if operation.state = "submitting" ∧ operation.submissionPhase = .submitting ∧
      0 < operation.submissionLeaseExpiresAt ∧ operation.submissionLeaseExpiresAt ≤ now then do
    let _ ← updateOperation operationId
      (fun stored => stored.state = "submitting" && stored.submissionPhase = .submitting &&
        stored.submissionLeaseToken = operation.submissionLeaseToken && stored.submissionLeaseExpiresAt ≤ now)
      (WildFlowOperation.leftLease "recovery_required" "submission_lease_expired" .recoveryRequired now)
    return ⟨true, false⟩
  else if operation.state = "submitting" ∧
      (operation.submissionPhase = .prepared ∨ operation.submissionPhase = .retryable) ∧
      0 < operation.submissionRetryUntil ∧ operation.submissionRetryUntil ≤ now then do
    let _ ← updateOperation operationId (fun stored => stored.state = "submitting")
      (WildFlowOperation.leftLease "failed" "submission_retry_expired" .failed now)
    return ⟨true, operation.refundDue⟩
  else if operation.state = "failed" ∧ operation.submissionPhase = .failed then
    return ⟨operation.refundDue, operation.refundDue⟩
  else return ⟨false, false⟩

structure ReconciliationReport where
  processed : Nat
  errors : List (String × BillingError)

def reconcileWildFlowSubmissionCandidates (now : Int) : List String → DB → ReconciliationReport × DB
  | [], db => (⟨0, []⟩, db)
  | operationId :: rest, db =>
    match (reconcileWildFlowSubmissionTx operationId now).commit db with
    | (.error failure, db) =>
      let (report, db) := reconcileWildFlowSubmissionCandidates now rest db
      ({ report with errors := (operationId, failure) :: report.errors }, db)
    | (.ok outcome, db) =>
      if outcome.transitioned then
        if outcome.shouldRefund then
          match refundWildFlowOperationBilling db operationId with
          | (.error failure, db) =>
            let (report, db) := reconcileWildFlowSubmissionCandidates now rest db
            (⟨report.processed + 1, (operationId, failure) :: report.errors⟩, db)
          | (.ok _, db) =>
            let (report, db) := reconcileWildFlowSubmissionCandidates now rest db
            ({ report with processed := report.processed + 1 }, db)
        else
          let (report, db) := reconcileWildFlowSubmissionCandidates now rest db
          ({ report with processed := report.processed + 1 }, db)
      else reconcileWildFlowSubmissionCandidates now rest db

def WildFlowOperation.reconcilable (now : Int) (operation : WildFlowOperation) : Bool :=
  operation.jobId = "" &&
    ((operation.state = "submitting" && operation.submissionPhase = .unset) ||
      (operation.state = "submitting" && operation.submissionPhase = .submitting &&
        0 < operation.submissionLeaseExpiresAt && operation.submissionLeaseExpiresAt ≤ now) ||
      (operation.state = "submitting" &&
        (operation.submissionPhase = .prepared || operation.submissionPhase = .retryable) &&
        0 < operation.submissionRetryUntil && operation.submissionRetryUntil ≤ now) ||
      (operation.state = "failed" && operation.submissionPhase = .failed && operation.refundDue))

/-- Rows stand in the order of their ids, so a stable sort by time is the order of the query. -/
def reconcileExpiredWildFlowSubmissionLeases (db : DB) (now limit : Int) : ReconciliationReport × DB :=
  let now := if now ≤ 0 then db.now else now
  let limit := if limit ≤ 0 ∨ 500 < limit then 100 else limit
  let candidates := ((db.operations.rows.filter (WildFlowOperation.reconcilable now)).insertionSort
    fun a b => a.updatedTime ≤ b.updatedTime).take limit.toNat
  reconcileWildFlowSubmissionCandidates now (candidates.map WildFlowOperation.operationId) db

end Wildflow.Billing

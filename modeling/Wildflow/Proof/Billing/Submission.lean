import Wildflow.Billing.Submission
import Wildflow.Proof.Billing.OperationLedger

/-!
# Submission leases are exclusive

`SubmissionView` is what the calls make of one operation and `ViewStep` what one call can do to it; every call is
simulated by a step of the view.
-/

namespace Wildflow.Billing
open Wildflow.Store Tx Table List
variable {events : List SubmissionEvent} {event : SubmissionEvent} {updates : WildFlowOperation → WildFlowOperation}

structure Lease where
  owner : String
  token : String
deriving DecidableEq

def WildFlowOperation.lease (operation : WildFlowOperation) : Lease :=
  ⟨operation.submissionOwner, operation.submissionLeaseToken⟩

section
variable {db db' : DB} {operationId owner leaseToken : String} {operation : WildFlowOperation} {now : Int}

theorem loadWildFlowOperationForSubmission_ok :
    (loadWildFlowOperationForSubmission operationId).run db = .ok (operation, db') ↔
      trimSpace operationId ≠ "" ∧ db.operations.find operationId = some operation ∧ db = db' := by
  simp only [loadWildFlowOperationForSubmission, run_bind_ok, run_ensure_ok, run_read_ok, run_orFail_ok]
  grind

theorem updateOperation_held {cond : WildFlowOperation → Bool}
    {change : WildFlowOperation → WildFlowOperation} {rows : Nat}
    (found : db.operations.find operationId = some operation) (holds : cond operation = true)
    (ran : (updateOperation operationId cond change).run db = .ok (rows, db')) :
    db' = db.putOperation (change operation) := by
  rw [updateOperation_hit found holds] at ran
  cases ran
  rfl

theorem updateThen_held {α : Type} {out result : α} {cond : WildFlowOperation → Bool}
    {change : WildFlowOperation → WildFlowOperation} (found : db.operations.find operationId = some operation)
    (holds : cond operation = true)
    (ran : (updateOperation operationId cond change >>= fun _ => pure result).run db = .ok (out, db')) :
    result = out ∧ db.putOperation (change operation) = db' := by
  simp only [run_bind_ok, run_pure_ok] at ran
  obtain ⟨_, _, new, rfl, rfl⟩ := ran
  exact ⟨rfl, (updateOperation_held found holds new).symm⟩

variable (db)

theorem claimWildFlowOperationSubmission_cases (now : Int) (operationId owner leaseToken : String) (expiry : Int) :
    (claimWildFlowOperationSubmission db now operationId owner leaseToken expiry).2 = db ∨
    ∃ operation, db.operations.find operationId = some operation ∧
      (operation.submissionPhase = .prepared ∨ operation.submissionPhase = .retryable) ∧
      (claimWildFlowOperationSubmission db now operationId owner leaseToken expiry).2 =
        db.putOperation (operation.claimedBy owner leaseToken expiry now) := by
  unfold claimWildFlowOperationSubmission
  split
  · exact .inl rfl
  refine commit_elim (commit _ db) rfl (fun _ => .inl rfl) fun _ db' ran => ?_
  rw [run_bind_ok] at ran
  obtain ⟨operation, _, loaded, ran⟩ := ran
  obtain ⟨_, found, rfl⟩ := loadWildFlowOperationForSubmission_ok.mp loaded
  split at ran
  · exact .inl (run_pure_ok.mp ran).2.symm
  rename_i admitted
  split at ran
  · exact .inl (run_pure_ok.mp ran).2.symm
  split at ran
  · exact .inl (run_pure_ok.mp ran).2.symm
  rename_i free
  simp only [not_or, not_and_or, not_not, not_lt, ne_eq] at admitted free
  simp only [run_bind_ok, run_pure_ok] at ran
  obtain ⟨_, _, new, _, _, reloaded, _, rfl⟩ := ran
  obtain ⟨_, _, rfl⟩ := loadWildFlowOperationForSubmission_ok.mp reloaded
  refine .inr ⟨operation, found, admitted.2.2, updateOperation_held found ?_ new⟩
  simp [admitted, free]

variable (operationId)

def leasedUpdate (may : WildFlowOperation → Bool)
    (change : WildFlowOperation → WildFlowOperation) : BillingTx WildFlowOperation := do
  let operation ← loadWildFlowOperationForSubmission operationId
  Tx.ensure (may operation) .wildFlowSubmissionLeaseLost
  let rows ← updateOperation operationId may change
  Tx.ensure (rows = 1) .wildFlowSubmissionLeaseLost
  loadWildFlowOperationForSubmission operationId

theorem leasedUpdate_cases (may : WildFlowOperation → Bool) (change : WildFlowOperation → WildFlowOperation)
    (keyed : ∀ operation, (change operation).operationId = operation.operationId) :
    (∃ failure, (leasedUpdate operationId may change).commit db = (.error failure, db)) ∨
    ∃ operation, db.operations.find operationId = some operation ∧ may operation = true ∧
      (leasedUpdate operationId may change).commit db =
        (.ok (change operation), db.putOperation (change operation)) := by
  refine commit_elim (commit _ db) rfl (fun failure => .inl ⟨failure, rfl⟩) fun outcome db' ran => ?_
  simp only [leasedUpdate, run_bind_ok, run_ensure_ok] at ran
  obtain ⟨operation, _, loaded, _, _, ⟨held, rfl⟩, _, _, new, _, _, ⟨_, rfl⟩, reloaded⟩ := ran
  obtain ⟨_, found, rfl⟩ := loadWildFlowOperationForSubmission_ok.mp loaded
  obtain rfl := updateOperation_held found held new
  obtain ⟨_, stored, rfl⟩ := loadWildFlowOperationForSubmission_ok.mp reloaded
  have same : (change operation).operationId = operationId := (keyed operation).trans (key_of_find found)
  have written : some (change operation) = some outcome := by
    rw [← stored, ← same]
    exact (find_put_self db.operations (change operation)).symm
  obtain rfl := Option.some.inj written
  exact .inr ⟨operation, found, held, rfl⟩

theorem transitionWildFlowSubmissionLease_cases (owner leaseToken : String) (allowedPhases : List SubmissionPhase)
    (keyed : ∀ operation, (updates operation).operationId = operation.operationId) :
    (∃ err, transitionWildFlowSubmissionLease db operationId owner leaseToken allowedPhases updates =
      (.error err, db)) ∨
    ∃ operation, db.operations.find operationId = some operation ∧
      operation.submissionPhase ∈ allowedPhases ∧ operation.lease = ⟨owner, leaseToken⟩ ∧
      transitionWildFlowSubmissionLease db operationId owner leaseToken allowedPhases updates =
        (.ok (updates operation), db.putOperation (updates operation)) := by
  unfold transitionWildFlowSubmissionLease
  split
  · exact .inl ⟨_, rfl⟩
  rcases leasedUpdate_cases db operationId (WildFlowOperation.leasedTo owner leaseToken allowedPhases) updates
    keyed with
    failed | ⟨operation, found, held, out⟩
  · exact .inl failed
  · simp only [WildFlowOperation.leasedTo, contains_eq_mem, Bool.and_eq_true, decide_eq_true_eq] at held
    exact .inr ⟨operation, found, held.1.1, by rw [WildFlowOperation.lease, held.1.2, held.2], out⟩

inductive ReconcileEffect (db : DB) (operationId : String) (now : Int) :
    Except BillingError SubmissionReconciliation × DB → Prop
  | failed (failure : BillingError) : ReconcileEffect db operationId now (.error failure, db)
  | left : ReconcileEffect db operationId now (.ok ⟨false, false⟩, db)
  | revoked {operation : WildFlowOperation} (found : db.operations.find operationId = some operation)
      (under : operation.submissionPhase = .unset ∨ operation.submissionPhase = .submitting)
      (errorCode : String) :
      ReconcileEffect db operationId now (.ok ⟨true, false⟩,
        db.putOperation (operation.leftLease "recovery_required" errorCode .recoveryRequired now))
  | abandoned {operation : WildFlowOperation} (found : db.operations.find operationId = some operation)
      (waiting : operation.submissionPhase = .prepared ∨ operation.submissionPhase = .retryable) :
      ReconcileEffect db operationId now (.ok ⟨true, operation.refundDue⟩,
        db.putOperation (operation.leftLease "failed" "submission_retry_expired" .failed now))
  | owing {operation : WildFlowOperation} (found : db.operations.find operationId = some operation)
      (state : operation.state = "failed") (phase : operation.submissionPhase = .failed) :
      ReconcileEffect db operationId now (.ok ⟨operation.refundDue, operation.refundDue⟩, db)

theorem reconcileWildFlowSubmissionTx_effect (now : Int) :
    ReconcileEffect db operationId now ((reconcileWildFlowSubmissionTx operationId now).commit db) := by
  refine commit_elim (commit _ db) rfl (fun err => .failed err) fun out db' ran => ?_
  rw [reconcileWildFlowSubmissionTx, run_bind_ok] at ran
  obtain ⟨operation, _, loaded, ran⟩ := ran
  obtain ⟨_, found, rfl⟩ := loadWildFlowOperationForSubmission_ok.mp loaded
  split at ran
  · rename_i legacy
    obtain ⟨rfl, rfl⟩ := updateThen_held found (by simp [legacy]) ran
    exact .revoked found (.inl legacy.2) _
  split at ran
  · rename_i lapsed
    obtain ⟨rfl, rfl⟩ := updateThen_held found (by simp [lapsed]) ran
    exact .revoked found (.inr lapsed.2.1) _
  split at ran
  · rename_i expired
    obtain ⟨rfl, rfl⟩ := updateThen_held found (by simp [expired]) ran
    exact .abandoned found expired.2.1
  · split at ran
    · rename_i failed
      obtain ⟨rfl, rfl⟩ := run_pure_ok.mp ran
      exact .owing found failed.1 failed.2
    · obtain ⟨rfl, rfl⟩ := run_pure_ok.mp ran
      exact .left

theorem refundWildFlowOperationBilling_operations :
    (refundWildFlowOperationBilling db operationId).2.operations = db.operations ∨
    ∃ operation now, db.operations.find operationId = some operation ∧
      (refundWildFlowOperationBilling db operationId).2.operations =
        db.operations.put (operation.refundedAt now) := by
  generalize outcome : (refundWildFlowOperationBilling db operationId).2 = db'
  have effect := refundWildFlowOperationBilling_effect db operationId
  rw [outcome] at effect
  cases effect with
  | unchanged => exact .inl rfl
  | logged => exact .inl rfl
  | refunded found held source token log kept =>
    rename_i operation db₁ db₂
    obtain ⟨_, _, _, rfl⟩ := refundWildFlowSourceTx_frame source
    obtain ⟨_, rfl⟩ := refundWildFlowTokenQuotaTx_frame token
    exact .inr ⟨operation, _, found, rfl⟩

def SnapshotWritten (db' : DB) : Prop :=
  db'.operations = db.operations ∨
    ∃ operation quote source subscriptionId tokenQuota now, db.operations.find operationId = some operation ∧
      db'.operations = db.operations.put
        (wildFlowBillingSnapshotUpdates quote source subscriptionId tokenQuota now operation)

theorem reserveWildFlowWalletBilling_operations (quote : WildFlowBillingQuote) :
    SnapshotWritten db operationId (reserveWildFlowWalletBilling db operationId quote).2 := by
  unfold reserveWildFlowWalletBilling
  rcases reserveWildFlowBilling_cases reserveWildFlowWalletTx db operationId quote with
    same | ⟨operation, _, db', found, _, pos, ran, out⟩
  · exact .inl (by rw [same])
  · obtain rfl : operation.operationId = operationId := key_of_find found
    obtain ⟨tokenQuota, _, rfl⟩ := reserveWildFlowWalletTx_ok pos found ran
    exact .inr ⟨operation, quote, .wallet, 0, tokenQuota, db.now, found, by rw [out]; simp⟩

theorem reserveWildFlowSubscriptionBilling_operations (quote : WildFlowBillingQuote) :
    SnapshotWritten db operationId (reserveWildFlowSubscriptionBilling db operationId quote).2 := by
  unfold reserveWildFlowSubscriptionBilling
  rcases reserveWildFlowBilling_cases reserveWildFlowSubscriptionTx db operationId quote with
    same | ⟨operation, _, db', found, _, pos, ran, out⟩
  · exact .inl (by rw [same])
  · obtain rfl : operation.operationId = operationId := key_of_find found
    obtain ⟨res, _, tokenQuota, used, rfl⟩ := reserveWildFlowSubscriptionTx_ok pos found ran
    obtain ⟨subs, records, rfl⟩ := preConsumeUserSubscriptionTx_frame used
    exact .inr ⟨operation, quote, .subscription, res.userSubscriptionId, tokenQuota, db.now, found,
      by rw [out]; simp⟩

variable {operationId db}

end

inductive SubmissionEvent where
  | began (lease : Lease)
  | retryable (lease : Lease)
  | recoveryRequired (lease : Lease)
  | completed (lease : Lease)
deriving DecidableEq

def outstanding (events : List SubmissionEvent) : List Lease :=
  events.foldl (fun leases event =>
    match event with
    | .began lease => lease :: leases
    | .retryable lease | .recoveryRequired lease | .completed lease => leases.filter (· ≠ lease)) []

structure SubmissionSystem where
  db : DB
  events : String → List SubmissionEvent
  refundsDue : String → Nat

inductive SubmissionAction where
  | claim (now : Nat) (lease : Lease) (leaseExpiresAt : Int)
  | begin (now : Nat) (lease : Lease)
  | markRetryable (now : Nat) (lease : Lease) (errorCode : String) (retryUntil : Int)
  | markRecoveryRequired (now : Nat) (lease : Lease) (errorCode : String)
  | complete (now : Nat) (lease : Lease) (jobId state : String)
  | reconcile (now : Int)
  | refund
  | reserveWallet (quote : WildFlowBillingQuote)
  | reserveSubscription (quote : WildFlowBillingQuote)
  | tick (seconds : Nat)

structure SubmissionStep where
  operationId : String
  action : SubmissionAction

def SubmissionSystem.report {α : Type} (s : SubmissionSystem) (operationId : String) (event : SubmissionEvent) :
    Except BillingError α × DB → SubmissionSystem
  | (.ok _, db) =>
    { s with db, events := Function.update s.events operationId (s.events operationId ++ [event]) }
  | (.error _, db) => { s with db }

def SubmissionSystem.owe (s : SubmissionSystem) (operationId : String) :
    Except BillingError SubmissionReconciliation × DB → SubmissionSystem
  | (.ok outcome, db) =>
    { s with
      db
      refundsDue := Function.update s.refundsDue operationId
        (s.refundsDue operationId + if outcome.transitioned && outcome.shouldRefund then 1 else 0) }
  | (.error _, db) => { s with db }

def applySubmissionStep (s : SubmissionSystem) (step : SubmissionStep) : SubmissionSystem :=
  let id := step.operationId
  match step.action with
  | .claim now lease leaseExpiresAt =>
    { s with db :=
      (claimWildFlowOperationSubmission s.db now id lease.owner lease.token leaseExpiresAt).2 }
  | .begin now lease =>
    s.report id (.began lease) (beginWildFlowOperationSubmission s.db now id lease.owner lease.token)
  | .markRetryable now lease errorCode retryUntil =>
    s.report id (.retryable lease)
      (markWildFlowOperationSubmissionRetryable s.db now id lease.owner lease.token errorCode retryUntil)
  | .markRecoveryRequired now lease errorCode =>
    s.report id (.recoveryRequired lease)
      (markWildFlowOperationSubmissionRecoveryRequired s.db now id lease.owner lease.token errorCode)
  | .complete now lease jobId state =>
    s.report id (.completed lease)
      (completeWildFlowOperationSubmission s.db now id lease.owner lease.token jobId state)
  | .reconcile now => s.owe id ((reconcileWildFlowSubmissionTx id now).commit s.db)
  | .refund =>
    if s.refundsDue id = 0 then s
    else { s with
      db := (refundWildFlowOperationBilling s.db id).2
      refundsDue := Function.update s.refundsDue id (s.refundsDue id - 1) }
  | .reserveWallet quote => { s with db := (reserveWildFlowWalletBilling s.db id quote).2 }
  | .reserveSubscription quote => { s with db := (reserveWildFlowSubscriptionBilling s.db id quote).2 }
  | .tick seconds => { s with db := { s.db with now := s.db.now + seconds } }

section
variable {s : SubmissionSystem} {operationId : String}

@[simp] theorem report_db {α : Type} (event : SubmissionEvent) (out : Except BillingError α × DB) :
    (s.report operationId event out).db = out.2 := by
  rcases out with ⟨_ | _, _⟩ <;> rfl

@[simp] theorem report_refundsDue {α : Type} (event : SubmissionEvent) (out : Except BillingError α × DB) :
    (s.report operationId event out).refundsDue = s.refundsDue := by
  rcases out with ⟨_ | _, _⟩ <;> rfl

@[simp] theorem owe_db (out : Except BillingError SubmissionReconciliation × DB) :
    (s.owe operationId out).db = out.2 := by
  rcases out with ⟨_ | _, _⟩ <;> rfl

@[simp] theorem owe_events (out : Except BillingError SubmissionReconciliation × DB) :
    (s.owe operationId out).events = s.events := by
  rcases out with ⟨_ | _, _⟩ <;> rfl

end

theorem reconcileWildFlowSubmissionCandidates_run (now : Int) (cands : List String) (s : SubmissionSystem) :
    ∃ steps, (∀ step ∈ steps, step.operationId ∈ cands ∧ (step.action = .reconcile now ∨ step.action = .refund)) ∧
      (runSteps applySubmissionStep s steps).db = (reconcileWildFlowSubmissionCandidates now cands s.db).2 := by
  induction cands generalizing s with
  | nil => exact ⟨[], by simp, rfl⟩
  | cons operationId rest ih =>
    -- One candidate is the transaction, and the refund when the transaction asks for it.
    have first : ∃ steps,
        (∀ step ∈ steps, step.operationId = operationId ∧ (step.action = .reconcile now ∨ step.action = .refund)) ∧
        (reconcileWildFlowSubmissionCandidates now rest (runSteps applySubmissionStep s steps).db).2 =
          (reconcileWildFlowSubmissionCandidates now (operationId :: rest) s.db).2 := by
      cases committed : (reconcileWildFlowSubmissionTx operationId now).commit s.db with
      | mk out db =>
        have reconciled : applySubmissionStep s ⟨operationId, .reconcile now⟩ = s.owe operationId (out, db) := by
          simp only [applySubmissionStep, committed]
        cases out with
        | error err =>
          refine ⟨[⟨operationId, .reconcile now⟩], by simp, ?_⟩
          simp [runSteps, reconciled, reconcileWildFlowSubmissionCandidates, committed]
        | ok out =>
          cases asked : out.transitioned && out.shouldRefund with
          | false =>
            refine ⟨[⟨operationId, .reconcile now⟩], by simp, ?_⟩
            simp only [runSteps, foldl_cons, foldl_nil, reconciled, owe_db,
              reconcileWildFlowSubmissionCandidates, committed]
            cases transitioned : out.transitioned with
            | false => simp
            | true =>
              rw [transitioned, Bool.true_and] at asked
              simp [asked]
          | true =>
            refine ⟨[⟨operationId, .reconcile now⟩, ⟨operationId, .refund⟩], by simp, ?_⟩
            obtain ⟨transitioned, shouldRefund⟩ := Bool.and_eq_true_iff.mp asked
            simp only [runSteps, foldl_cons, foldl_nil, reconciled,
              reconcileWildFlowSubmissionCandidates, committed, transitioned, shouldRefund, if_true]
            have due : (s.owe operationId (.ok out, db)).refundsDue operationId ≠ 0 := by
              simp [SubmissionSystem.owe, transitioned, shouldRefund]
            simp only [applySubmissionStep, if_neg due, owe_db]
            rcases refundWildFlowOperationBilling db operationId with ⟨_ | _, _⟩ <;> rfl
    obtain ⟨steps, named, reached⟩ := first
    obtain ⟨more, namedMore, reachedMore⟩ := ih (runSteps applySubmissionStep s steps)
    refine ⟨steps ++ more, ?_, ?_⟩
    · grind
    · rw [runSteps_append, reachedMore, reached]

abbrev WildFlowOperation.waiting (operation : WildFlowOperation) : Prop :=
  operation.submissionPhase = .prepared ∨ operation.submissionPhase = .retryable

structure SubmissionView where
  operation : WildFlowOperation
  events : List SubmissionEvent
  refundsDue : Nat

structure SubmissionSystem.Shows (s : SubmissionSystem) (operationId : String) (view : SubmissionView) : Prop where
  found : s.db.operations.find operationId = some view.operation
  events : s.events operationId = view.events
  refundsDue : s.refundsDue operationId = view.refundsDue

inductive ViewStep (view : SubmissionView) : SubmissionView → Prop
  | idle : ViewStep view view
  | claimed (owner leaseToken : String) (leaseExpiresAt now : Int)
      (waiting : view.operation.waiting) :
      ViewStep view { view with operation := view.operation.claimedBy owner leaseToken leaseExpiresAt now }
  | began {lease : Lease} {now : Int}
      (prepared : view.operation.submissionPhase = .prepared) (held : view.operation.lease = lease) :
      ViewStep view { view with operation := view.operation.begunAt now, events := view.events ++ [.began lease] }
  | retryable {lease : Lease} (errorCode : String) {retryUntil now : Int}
      (under : view.operation.submissionPhase = .prepared ∨ view.operation.submissionPhase = .submitting)
      (held : view.operation.lease = lease) (later : 0 < retryUntil) :
      ViewStep view
        { view with
          operation := view.operation.retryableUntil errorCode retryUntil now
          events := view.events ++ [.retryable lease] }
  | recoveryRequired {lease : Lease} (errorCode : String) {now : Int}
      (under : view.operation.submissionPhase = .submitting) (held : view.operation.lease = lease) :
      ViewStep view
        { view with
          operation := view.operation.leftLease "recovery_required" errorCode .recoveryRequired now
          events := view.events ++ [.recoveryRequired lease] }
  | completed {lease : Lease} (jobId state : String) {now : Int}
      (under : view.operation.submissionPhase = .submitting) (held : view.operation.lease = lease) :
      ViewStep view
        { view with
          operation := view.operation.acceptedAs jobId state now
          events := view.events ++ [.completed lease] }
  | revoked (errorCode : String) (now : Int)
      (under : view.operation.submissionPhase = .unset ∨ view.operation.submissionPhase = .submitting) :
      ViewStep view
        { view with operation := view.operation.leftLease "recovery_required" errorCode .recoveryRequired now }
  | abandoned (errorCode : String) (now : Int) (due : Nat)
      (waiting : view.operation.waiting) :
      ViewStep view
        { view with
          operation := view.operation.leftLease "failed" errorCode .failed now
          refundsDue := view.refundsDue + due }
  | owing (due : Nat) (state : view.operation.state = "failed")
      (phase : view.operation.submissionPhase = .failed) :
      ViewStep view { view with refundsDue := view.refundsDue + due }
  | refunded (now : Int) (due : 0 < view.refundsDue) : ViewStep view
        { view with operation := view.operation.refundedAt now, refundsDue := view.refundsDue - 1 }
  | paid (due : 0 < view.refundsDue) :
      ViewStep view { view with refundsDue := view.refundsDue - 1 }
  | reserved (quote : WildFlowBillingQuote) (source : WildFlowBillingSource)
      (subscriptionId tokenQuota now : Int) :
      ViewStep view
        { view with operation :=
          wildFlowBillingSnapshotUpdates quote source subscriptionId tokenQuota now view.operation }

section
variable {s : SubmissionSystem} {operationId : String} {view : SubmissionView} {db : DB}

def SubmissionSystem.viewOf (s : SubmissionSystem) (operationId : String) (operation : WildFlowOperation) : SubmissionView :=
  ⟨operation, s.events operationId, s.refundsDue operationId⟩

def SubmissionEffect (s t : SubmissionSystem) (operationId : String) : Prop :=
  (t.db.operations = s.db.operations ∧ ∀ operation, s.db.operations.find operationId = some operation →
    ViewStep (s.viewOf operationId operation) (t.viewOf operationId operation)) ∨
  ∃ operation row, s.db.operations.find operationId = some operation ∧ t.db.operations = s.db.operations.put row ∧
    row.operationId = operation.operationId ∧ ViewStep (s.viewOf operationId operation) (t.viewOf operationId row)

theorem SubmissionEffect.idle {t : SubmissionSystem} (ops : t.db.operations = s.db.operations)
    (events : t.events operationId = s.events operationId) (refundsDue : t.refundsDue operationId = s.refundsDue operationId) :
    SubmissionEffect s t operationId := by
  refine .inl ⟨ops, fun operation _ => ?_⟩
  simp only [SubmissionSystem.viewOf, events, refundsDue]
  exact .idle

theorem SubmissionEffect.transition {lease : Lease} {phases : List SubmissionPhase}
    (event : SubmissionEvent) (keyed : ∀ operation, (updates operation).operationId = operation.operationId)
    (step : ∀ view : SubmissionView, view.operation.submissionPhase ∈ phases → view.operation.lease = lease →
      ViewStep view { view with operation := updates view.operation, events := view.events ++ [event] }) :
    SubmissionEffect s (s.report operationId event (transitionWildFlowSubmissionLease s.db operationId lease.owner lease.token
      phases updates)) operationId := by
  rcases transitionWildFlowSubmissionLease_cases s.db operationId lease.owner lease.token phases keyed with
    ⟨err, out⟩ | ⟨operation, found, under, held, out⟩
  · rw [out]
    exact .idle rfl rfl rfl
  · rw [out]
    refine .inr ⟨operation, updates operation, found, rfl, keyed operation, ?_⟩
    simpa [SubmissionSystem.viewOf, SubmissionSystem.report] using step (s.viewOf operationId operation) under held

theorem SubmissionEffect.reconcile (s : SubmissionSystem) (operationId : String) (now : Int) :
    SubmissionEffect s (s.owe operationId ((reconcileWildFlowSubmissionTx operationId now).commit s.db)) operationId := by
  generalize committed : (reconcileWildFlowSubmissionTx operationId now).commit s.db = out
  have eff := reconcileWildFlowSubmissionTx_effect s.db operationId now
  rw [committed] at eff
  cases eff with
  | failed err => exact .idle rfl rfl rfl
  | left => exact .idle rfl rfl (by simp [SubmissionSystem.owe])
  | revoked found under code =>
    refine .inr ⟨_, _, found, rfl, rfl, ?_⟩
    simpa [SubmissionSystem.viewOf, SubmissionSystem.owe] using ViewStep.revoked code now under
  | abandoned found waiting =>
    refine .inr ⟨_, _, found, rfl, rfl, ?_⟩
    simpa [SubmissionSystem.viewOf, SubmissionSystem.owe] using ViewStep.abandoned "submission_retry_expired" now _ waiting
  | owing found st phase =>
    refine .inl ⟨rfl, fun operation here => ?_⟩
    obtain rfl := Option.mem_unique found here
    simpa [SubmissionSystem.viewOf, SubmissionSystem.owe] using ViewStep.owing _ st phase

theorem SubmissionEffect.reserved (written : SnapshotWritten s.db operationId db) :
    SubmissionEffect s { s with db } operationId := by
  rcases written with same | ⟨operation, quote, src, subId, tokenQuota, now, found, put⟩
  · exact .idle same rfl rfl
  · exact .inr ⟨operation, _, found, put, rfl, .reserved quote src subId tokenQuota now⟩

theorem applySubmissionStep_effect (s : SubmissionSystem) (step : SubmissionStep) :
    SubmissionEffect s (applySubmissionStep s step) step.operationId := by
  obtain ⟨operationId, action⟩ := step
  cases action with
  | claim now lease expiry =>
    rcases claimWildFlowOperationSubmission_cases s.db now operationId lease.owner lease.token
      expiry with unchanged | ⟨operation, found, waiting, out⟩
    · exact .idle (congrArg DB.operations unchanged) rfl rfl
    · exact .inr ⟨operation, _, found, congrArg DB.operations out, rfl,
        .claimed lease.owner lease.token expiry now waiting⟩
  | begin now lease =>
    change SubmissionEffect s (s.report operationId (.began lease) ((leasedUpdate operationId
      (WildFlowOperation.mayBegin lease.owner lease.token now) (WildFlowOperation.begunAt now)).commit s.db)) operationId
    rcases leasedUpdate_cases s.db operationId (WildFlowOperation.mayBegin lease.owner lease.token now)
      (WildFlowOperation.begunAt now) (fun _ => rfl) with
      ⟨err, out⟩ | ⟨operation, found, may, out⟩
    · rw [out]
      exact .idle rfl rfl rfl
    · rw [out]
      simp only [WildFlowOperation.mayBegin, Bool.and_eq_true, decide_eq_true_eq] at may
      have held : operation.lease = lease := by rw [WildFlowOperation.lease, may.1.1.2, may.1.2]
      refine .inr ⟨operation, _, found, rfl, rfl, ?_⟩
      simpa [SubmissionSystem.viewOf, SubmissionSystem.report] using
        @ViewStep.began (s.viewOf operationId operation) lease now may.1.1.1.2 held
  | markRetryable now lease code retryUntil =>
    simp only [applySubmissionStep, markWildFlowOperationSubmissionRetryable]
    split
    · exact .idle rfl rfl rfl
    · exact .transition _ (fun _ => rfl) fun view under held =>
        .retryable code (by simpa using under) held (by omega)
  | markRecoveryRequired now lease code =>
    exact .transition _ (fun _ => rfl) fun view under held => .recoveryRequired code (by simpa using under) held
  | complete now lease jobId st =>
    simp only [applySubmissionStep, completeWildFlowOperationSubmission]
    split
    · exact .idle rfl rfl rfl
    · exact .transition _ (fun _ => rfl) fun view under held => .completed jobId st (by simpa using under) held
  | reconcile now => exact .reconcile s operationId now
  | refund =>
    simp only [applySubmissionStep]
    split
    · exact .idle rfl rfl rfl
    rename_i owed
    have due : 0 < s.refundsDue operationId := by omega
    rcases refundWildFlowOperationBilling_operations s.db operationId with same | ⟨operation, now, found, put⟩
    · refine .inl ⟨same, fun operation _ => ?_⟩
      simpa [SubmissionSystem.viewOf] using @ViewStep.paid (s.viewOf operationId operation) due
    · refine .inr ⟨operation, _, found, put, rfl, ?_⟩
      simpa [SubmissionSystem.viewOf] using @ViewStep.refunded (s.viewOf operationId operation) now due
  | reserveWallet quote => exact .reserved (reserveWildFlowWalletBilling_operations s.db operationId quote)
  | reserveSubscription quote =>
    exact .reserved (reserveWildFlowSubscriptionBilling_operations s.db operationId quote)
  | tick seconds => exact .idle rfl rfl rfl

theorem applySubmissionStep_elsewhere {step : SubmissionStep} (ne : step.operationId ≠ operationId)
    (shows : s.Shows operationId view) : (applySubmissionStep s step).Shows operationId view := by
  have ghost : (applySubmissionStep s step).events operationId = s.events operationId ∧
      (applySubmissionStep s step).refundsDue operationId = s.refundsDue operationId := by
    have told : ∀ (event : SubmissionEvent) {α : Type} (out : Except BillingError α × DB),
        (s.report step.operationId event out).events operationId = s.events operationId := by
      rintro event α ⟨_ | _, _⟩
      · rfl
      · exact Function.update_of_ne (Ne.symm ne) _ _
    have owed : ∀ out, (s.owe step.operationId out).refundsDue operationId = s.refundsDue operationId := by
      rintro ⟨_ | _, _⟩
      · rfl
      · exact Function.update_of_ne (Ne.symm ne) _ _
    unfold applySubmissionStep
    cases step.action with
    | begin | markRetryable | markRecoveryRequired | complete =>
      exact ⟨told _ _, congrFun (report_refundsDue _ _) _⟩
    | reconcile now => exact ⟨congrFun (owe_events _) _, owed _⟩
    | refund =>
      dsimp only
      split
      · exact ⟨rfl, rfl⟩
      · exact ⟨rfl, Function.update_of_ne (Ne.symm ne) _ _⟩
    | claim | reserveWallet | reserveSubscription | tick => exact ⟨rfl, rfl⟩
  refine ⟨?_, ghost.1.trans shows.events, ghost.2.trans shows.refundsDue⟩
  rcases applySubmissionStep_effect s step with ⟨same, _⟩ | ⟨operation, row, found, put, keyed, _⟩
  · exact same ▸ shows.found
  · have other : row.operationId ≠ operationId := by rwa [keyed, key_of_find found]
    rw [put, find_put_of_ne _ _ other]
    exact shows.found

theorem reconcileExpiredWildFlowSubmissionLeases_run (now limit : Int) (s : SubmissionSystem) :
    let time := if now ≤ 0 then s.db.now else now
    ∃ steps, (∀ step ∈ steps, step.action = .reconcile time ∨ step.action = .refund) ∧
      (runSteps applySubmissionStep s steps).db = (reconcileExpiredWildFlowSubmissionLeases s.db now limit).2 ∧
      ∀ operationId view, s.Shows operationId view → view.operation.reconcilable time = false →
        (runSteps applySubmissionStep s steps).Shows operationId view := by
  intro time
  unfold reconcileExpiredWildFlowSubmissionLeases
  obtain ⟨steps, named, reached⟩ := reconcileWildFlowSubmissionCandidates_run time _ s
  refine ⟨steps, fun step mem => (named step mem).2, reached, fun operationId view shows idle => ?_⟩
  refine @runSteps_invariant _ _ _ (fun _ step => step.operationId ≠ operationId) (·.Shows operationId view)
    (fun _ _ shows ne => applySubmissionStep_elsewhere ne shows) steps s shows (guarded_of_all s steps fun step mem _ => ?_)
  rintro rfl
  obtain ⟨cand, chosen, same⟩ := mem_map.mp (named step mem).1
  obtain ⟨stored, due⟩ := mem_filter.mp ((mem_insertionSort _).mp (mem_of_mem_take chosen))
  rw [← same] at shows
  cases (find_of_mem stored).symm.trans shows.found
  cases due.symm.trans idle

theorem applySubmissionStep_shows (shows : s.Shows operationId view) (step : SubmissionStep) :
    ∃ after, ViewStep view after ∧ (applySubmissionStep s step).Shows operationId after := by
  by_cases same : step.operationId = operationId
  · subst same
    have seen : s.viewOf step.operationId view.operation = view := by
      rw [SubmissionSystem.viewOf, shows.events, shows.refundsDue]
    rcases applySubmissionStep_effect s step with ⟨same, moved⟩ | ⟨operation, row, found, put, keyed, moved⟩
    · exact ⟨_, seen ▸ moved _ shows.found, same ▸ shows.found, rfl, rfl⟩
    · obtain rfl := Option.mem_unique found shows.found
      refine ⟨_, seen ▸ moved, ?_, rfl, rfl⟩
      rw [put, ← key_of_find found, ← keyed]
      exact find_put_self _ _
  · exact ⟨view, .idle, applySubmissionStep_elsewhere same shows⟩

theorem submissionRun_shows (shows : s.Shows operationId view) (steps : List SubmissionStep) :
    ∃ after, Relation.ReflTransGen ViewStep view after ∧
      (runSteps applySubmissionStep s steps).Shows operationId after := by
  induction steps using List.reverseRecOn with
  | nil => exact ⟨view, .refl, shows⟩
  | append_singleton steps step ih =>
    obtain ⟨middle, reached, shown⟩ := ih
    obtain ⟨after, moved, shown⟩ := applySubmissionStep_shows shown step
    rw [runSteps_snoc]
    exact ⟨after, reached.tail moved, shown⟩

end

variable (events)

def begins : List Lease :=
  events.filterMap fun event =>
    match event with
    | .began lease => some lease
    | .retryable _ | .recoveryRequired _ | .completed _ => none

def Unreturned (lease : Lease) : Prop :=
  ∃ earlier later, events = earlier ++ .began lease :: later ∧ .retryable lease ∉ later

def Alternating : Prop :=
  ∀ earlier first between second later,
    events = earlier ++ .began first :: (between ++ .began second :: later) → .retryable first ∈ between

variable {events}

theorem Unreturned.snoc {lease : Lease} (unreturned : Unreturned (events ++ [event]) lease) :
    event ≠ .retryable lease ∧ (Unreturned events lease ∨ event = .began lease) := by
  obtain ⟨old, later, split, absent⟩ := unreturned
  rcases eq_nil_or_concat later with rfl | ⟨shorter, last, rfl⟩
  · obtain ⟨_, rfl⟩ : events = old ∧ event = .began lease := by simpa using append_inj' split rfl
    exact ⟨by simp, .inr rfl⟩
  rw [concat_eq_append, ← List.cons_append, ← append_assoc] at split
  obtain ⟨rfl, same⟩ := append_inj' split rfl
  obtain rfl : event = last := by simpa using same
  simp only [concat_eq_append, mem_append, mem_singleton, not_or] at absent
  exact ⟨Ne.symm absent.2, .inl ⟨old, shorter, rfl, absent.1⟩⟩

theorem Alternating.snoc (alternating : Alternating events)
    (back : ∀ lease, event = .began lease → ∀ other, ¬ Unreturned events other) :
    Alternating (events ++ [event]) := by
  intro old first between second later split
  rcases eq_nil_or_concat later with rfl | ⟨shorter, last, rfl⟩
  · have split' : events ++ [event] = (old ++ .began first :: between) ++ [.began second] := by
      simpa using split
    obtain ⟨rfl, same⟩ := append_inj' split' rfl
    by_contra absent
    exact back second (by simpa using same) first ⟨old, between, rfl, absent⟩
  · have split' : events ++ [event] = (old ++ .began first :: (between ++ .began second :: shorter)) ++ [last] := by
      simpa using split
    obtain ⟨rfl, _⟩ := append_inj' split' rfl
    exact alternating _ _ _ _ _ rfl

variable (events)

@[simp] theorem outstanding_began (lease : Lease) :
    outstanding (events ++ [.began lease]) = lease :: outstanding events := by
  simp [outstanding]

@[simp] theorem outstanding_retryable (lease : Lease) :
    outstanding (events ++ [.retryable lease]) = (outstanding events).filter (· ≠ lease) := by
  simp [outstanding]

@[simp] theorem outstanding_recoveryRequired (lease : Lease) :
    outstanding (events ++ [.recoveryRequired lease]) = (outstanding events).filter (· ≠ lease) := by
  simp [outstanding]

@[simp] theorem outstanding_completed (lease : Lease) :
    outstanding (events ++ [.completed lease]) = (outstanding events).filter (· ≠ lease) := by
  simp [outstanding]

variable {events}

def WildFlowOperation.begun (operation : WildFlowOperation) : List SubmissionEvent :=
  if operation.submissionPhase = .submitting then [.began operation.lease] else []

structure ViewInvariant (view : SubmissionView) : Prop where
  submitting : view.operation.submissionPhase = .submitting → outstanding view.events = [view.operation.lease]
  waiting : view.operation.submissionPhase ≠ .submitting →
    view.operation.submissionPhase ≠ .recoveryRequired → outstanding view.events = []
  exclusive : (outstanding view.events).length ≤ 1
  alternating : Alternating view.events
  unreturned : ∀ lease, Unreturned view.events lease →
    view.operation.submissionPhase = .accepted ∨ view.operation.submissionPhase = .recoveryRequired ∨
      (view.operation.submissionPhase = .submitting ∧ view.operation.lease = lease)
  owed : 0 < view.refundsDue → view.operation.submissionPhase = .failed ∧ view.operation.state = "failed"
  deadline : 0 ≤ view.operation.submissionRetryUntil

section
variable {view after : SubmissionView}

theorem not_unreturned_nil (lease : Lease) : ¬Unreturned [] lease := by
  rintro ⟨old, later, split, _⟩
  simp at split

theorem alternating_nil : Alternating [] := by
  intro old first between second later split
  simp at split

theorem ViewInvariant.initial (operation : WildFlowOperation) (deadline : 0 ≤ operation.submissionRetryUntil) :
    ViewInvariant ⟨operation, operation.begun, 0⟩ := by
  by_cases sending : operation.submissionPhase = .submitting
  · have events : operation.begun = [] ++ [.began operation.lease] := if_pos sending
    rw [events]
    refine ⟨fun _ => rfl, fun other => absurd sending other, le_rfl, alternating_nil.snoc fun _ _ => not_unreturned_nil,
      fun lease unreturned => ?_, fun owed => absurd owed (by simp), deadline⟩
    rcases unreturned.snoc.2 with old | same
    · exact absurd old (not_unreturned_nil lease)
    · exact .inr (.inr ⟨sending, SubmissionEvent.began.inj same⟩)
  · have events : operation.begun = [] := if_neg sending
    rw [events]
    exact ⟨fun same => absurd same sending, fun _ _ => rfl, by simp [outstanding], alternating_nil,
      fun lease unreturned => absurd unreturned (not_unreturned_nil lease), fun owed => absurd owed (by simp), deadline⟩

def WildFlowOperation.submissionOver (operation : WildFlowOperation) : Prop :=
  operation.submissionPhase = .accepted ∨ operation.submissionPhase = .recoveryRequired ∨
    operation.submissionPhase = .failed

structure StaysOver (view after : SubmissionView) : Prop where
  phase : after.operation.submissionPhase = view.operation.submissionPhase
  jobId : after.operation.jobId = view.operation.jobId
  begins : begins after.events = begins view.events

theorem ViewStep.staysOver (moved : ViewStep view after) (past : view.operation.submissionOver) :
    StaysOver view after := by
  unfold WildFlowOperation.submissionOver at past
  cases moved with
  | idle | owing | refunded | paid | reserved => exact ⟨rfl, rfl, rfl⟩
  | claimed | began | retryable | recoveryRequired | completed | revoked | abandoned => grind

theorem StaysOver.run (past : view.operation.submissionOver)
    (reached : Relation.ReflTransGen ViewStep view after) : StaysOver view after := by
  induction reached with
  | refl => exact ⟨rfl, rfl, rfl⟩
  | tail _ moved ih =>
    have still := past
    unfold WildFlowOperation.submissionOver at still
    rw [← ih.phase] at still
    have next := moved.staysOver still
    exact ⟨next.phase.trans ih.phase, next.jobId.trans ih.jobId, next.begins.trans ih.begins⟩

def DueBy (limit : Int) (view : SubmissionView) : Prop :=
  view.operation.submissionRetryUntil ≤ limit ∧
    (view.operation.submissionRetryUntil = 0 → view.operation.submissionPhase = .accepted)

theorem DueBy.step {limit : Int} (pos : 0 < limit) (inv : ViewInvariant view) (due : DueBy limit view)
    (moved : ViewStep view after) : DueBy limit after := by
  have deadline := inv.deadline
  obtain ⟨bound, accepted⟩ := due
  cases moved with
  | idle | owing | refunded | paid | reserved => exact ⟨bound, accepted⟩
  | completed => exact ⟨pos.le, fun _ => rfl⟩
  | claimed | began | retryable | recoveryRequired | revoked | abandoned =>
    grind [DueBy, WildFlowOperation.claimedBy, WildFlowOperation.begunAt, WildFlowOperation.retryableUntil,
      WildFlowOperation.leftLease]

structure GivenUpSafely (view next : SubmissionView) : Prop where
  failed : next.operation.submissionPhase = .failed → view.operation.submissionPhase = .failed ∨
    ((view.operation.submissionPhase = .prepared ∨ view.operation.submissionPhase = .retryable) ∧
      outstanding view.events = [])
  refunded : next.operation.billingState = .refunded → view.operation.billingState = .refunded ∨
    (view.operation.submissionPhase = .failed ∧ view.operation.state = "failed" ∧ outstanding view.events = [])

section
variable (inv : ViewInvariant view)
include inv

theorem ViewInvariant.returned
    (waiting : view.operation.waiting) : outstanding view.events = [] ∧ ∀ lease, ¬ Unreturned view.events lease := by
  refine ⟨inv.waiting ?_ ?_, ?_⟩
  · rcases waiting with phase | phase <;> simp [phase]
  · rcases waiting with phase | phase <;> simp [phase]
  · intro lease unreturned
    have past := inv.unreturned lease unreturned
    rcases waiting with phase | phase <;> simp [phase] at past

theorem ViewInvariant.step (moved : ViewStep view after) : ViewInvariant after := by
  have back := inv.returned
  obtain ⟨sending, waiting, exclusive, alternating, unreturned, owed, deadline⟩ := inv
  cases moved with
  | idle => exact ⟨sending, waiting, exclusive, alternating, unreturned, owed, deadline⟩
  | claimed owner leaseToken expiry now free =>
    obtain ⟨none, handedBack⟩ := back free
    exact ⟨nofun, fun _ _ => none, exclusive, alternating, fun lease out => absurd out (handedBack lease), by grind,
      deadline⟩
  | began prepared held =>
    obtain ⟨none, handedBack⟩ := back (.inl prepared)
    refine ⟨fun _ => ?_, fun other => absurd rfl other, ?_, ?_, ?_, by grind, deadline⟩
    · rw [outstanding_began, none, ← held]
      rfl
    · simp [none]
    · exact alternating.snoc fun _ _ => handedBack
    · intro other out
      rcases out.snoc.2 with old | same
      · exact absurd old (handedBack other)
      · cases same
        exact .inr (.inr ⟨rfl, held⟩)
  | retryable code under held later =>
    rename_i lease retryUntil now
    have empty : (outstanding view.events).filter (· ≠ lease) = [] := by grind
    refine ⟨nofun, fun _ _ => ?_, ?_, ?_, ?_, by grind, ?_⟩
    · rw [outstanding_retryable, empty]
    · rw [outstanding_retryable, empty]
      simp
    · exact alternating.snoc fun _ began => by cases began
    · intro other out
      obtain ⟨ne, old | same⟩ := out.snoc
      · have past := unreturned other old
        grind
      · cases same
    · grind [WildFlowOperation.retryableUntil]
  | recoveryRequired code under held =>
    rename_i lease now
    have empty : (outstanding view.events).filter (· ≠ lease) = [] := by grind
    refine ⟨nofun, fun _ other => absurd rfl other, ?_, ?_, fun _ _ => .inr (.inl rfl), by grind, deadline⟩
    · rw [outstanding_recoveryRequired, empty]
      simp
    · exact alternating.snoc fun _ began => by cases began
  | completed jobId st under held =>
    rename_i lease now
    have empty : (outstanding view.events).filter (· ≠ lease) = [] := by grind
    refine ⟨nofun, fun _ _ => ?_, ?_, ?_, fun _ _ => .inl rfl, by grind, le_refl 0⟩
    · rw [outstanding_completed, empty]
    · rw [outstanding_completed, empty]
      simp
    · exact alternating.snoc fun _ began => by cases began
  | revoked code now under =>
    exact ⟨nofun, fun _ other => absurd rfl other, exclusive, alternating, fun _ _ => .inr (.inl rfl), by grind, deadline⟩
  | abandoned code now due free =>
    obtain ⟨none, handedBack⟩ := back free
    exact ⟨nofun, fun _ _ => none, exclusive, alternating, fun lease out => absurd out (handedBack lease),
      fun _ => ⟨rfl, rfl⟩, deadline⟩
  | owing due st phase => exact ⟨sending, waiting, exclusive, alternating, unreturned, fun _ => ⟨phase, st⟩, deadline⟩
  | refunded now due | paid due =>
    exact ⟨sending, waiting, exclusive, alternating, unreturned, fun _ => owed due, deadline⟩
  | reserved quote src subId tokenQuota now =>
    exact ⟨sending, waiting, exclusive, alternating, unreturned, owed, deadline⟩

theorem ViewInvariant.run (reached : Relation.ReflTransGen ViewStep view after) :
    ViewInvariant after := by
  induction reached with
  | refl => exact inv
  | tail _ moved ih => exact ih.step moved

theorem ViewInvariant.deadline_antitone
    (set : view.operation.submissionRetryUntil ≠ 0) (reached : Relation.ReflTransGen ViewStep view after) :
    after.operation.submissionRetryUntil ≤ view.operation.submissionRetryUntil := by
  have pos : 0 < view.operation.submissionRetryUntil := by
    have := inv.deadline
    omega
  have due : DueBy view.operation.submissionRetryUntil after := by
    induction reached with
    | refl => exact ⟨le_refl _, fun unset => absurd unset set⟩
    | tail before moved ih => exact ih.step pos (inv.run before) moved
  exact due.1

theorem ViewInvariant.givenUpSafely (moved : ViewStep view after) :
    GivenUpSafely view after := by
  cases moved with
  | abandoned code now due waiting => exact ⟨fun _ => .inr ⟨waiting, (inv.returned waiting).1⟩, .inl⟩
  | refunded now due =>
    obtain ⟨phase, state⟩ := inv.owed due
    exact ⟨.inl, fun _ => .inr ⟨phase, state, inv.waiting (by simp [phase]) (by simp [phase])⟩⟩
  | reserved => exact ⟨.inl, fun refunded => by simp [wildFlowBillingSnapshotUpdates] at refunded⟩
  | idle | owing | paid => exact ⟨.inl, .inl⟩
  | claimed | began | retryable | recoveryRequired | completed | revoked =>
    exact ⟨fun failed => (by cases failed), .inl⟩

end

structure LeaseSafe (view later : SubmissionView) : Prop where
  exclusive : (outstanding later.events).length ≤ 1
  holder : later.operation.submissionPhase = .submitting → outstanding later.events = [later.operation.lease]
  handedBack : Alternating later.events
  final : view.operation.submissionOver → StaysOver view later
  deadline : view.operation.submissionRetryUntil ≠ 0 →
    later.operation.submissionRetryUntil ≤ view.operation.submissionRetryUntil

end

theorem submission_lease_safe {start : SubmissionSystem} {operation : WildFlowOperation} {operationId : String}
    (found : start.db.operations.find operationId = some operation)
    (begun : start.events operationId = operation.begun) (settled : start.refundsDue operationId = 0)
    (deadline : 0 ≤ operation.submissionRetryUntil) (steps more : List SubmissionStep) (step : SubmissionStep) :
    ∃ view next later, (runSteps applySubmissionStep start steps).Shows operationId view ∧
      (runSteps applySubmissionStep start (steps ++ [step])).Shows operationId next ∧
      (runSteps applySubmissionStep start (steps ++ more)).Shows operationId later ∧
      LeaseSafe view later ∧ GivenUpSafely view next := by
  have initial : start.Shows operationId ⟨operation, operation.begun, 0⟩ := ⟨found, begun, settled⟩
  obtain ⟨view, reached, shown⟩ := submissionRun_shows initial steps
  obtain ⟨next, moved, shownNext⟩ := applySubmissionStep_shows shown step
  obtain ⟨later, reachedLater, shownLater⟩ := submissionRun_shows shown more
  have inv := (ViewInvariant.initial operation deadline).run reached
  have invLater := inv.run reachedLater
  refine ⟨view, next, later, shown, ?_, ?_, ?_, inv.givenUpSafely moved⟩
  · rw [runSteps_snoc]
    exact shownNext
  · rw [runSteps_append]
    exact shownLater
  · exact ⟨invLater.exclusive, invLater.submitting, invLater.alternating, fun past => .run past reachedLater,
      fun set => inv.deadline_antitone set reachedLater⟩

def SubmissionSystem.withAudioOperation : SubmissionSystem :=
  ⟨DB.withAudioOperation, fun _ => [], fun _ => 0⟩

def firstNode : Lease := ⟨"api:1", "lease-1"⟩
def secondNode : Lease := ⟨"api:2", "lease-2"⟩

def firstAttempt : List SubmissionStep :=
  [⟨"op-1", .claim 1000 firstNode 1100⟩, ⟨"op-1", .begin 1001 firstNode⟩,
    ⟨"op-1", .markRetryable 1002 firstNode "inference_unavailable" 2000⟩]

def secondAttempt : List SubmissionStep :=
  [⟨"op-1", .claim 1003 secondNode 1100⟩, ⟨"op-1", .begin 1004 secondNode⟩,
    ⟨"op-1", .complete 1005 secondNode "job-1" "queued"⟩]

theorem submission_lease_safe_handover :
    let final := runSteps applySubmissionStep .withAudioOperation (firstAttempt ++ secondAttempt)
    (∃ view later, final.Shows "op-1" later ∧ LeaseSafe view later) ∧ final.events "op-1" =
        [.began firstNode, .retryable firstNode, .began secondNode, .completed secondNode] := by
  obtain ⟨view, _, later, _, _, shown, safe, _⟩ :=
    @submission_lease_safe .withAudioOperation audioOperation "op-1" rfl rfl rfl (by decide) firstAttempt secondAttempt
      ⟨"op-1", .reconcile 1003⟩
  exact ⟨⟨view, later, shown, safe⟩, by decide⟩

end Wildflow.Billing

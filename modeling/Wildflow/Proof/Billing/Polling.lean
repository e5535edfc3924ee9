import Wildflow.Billing.Polling
import Wildflow.Proof.Billing.OperationLedger

/-!
# Stale observations

A closed operation is reopened by a poller that read the job before its end, or that writes its need for recovery, and
by nothing else.
-/

namespace Wildflow.Billing
open Wildflow.Store Tx Table Option
variable {job : JobReport} {poller : Poller} {operation after : WildFlowOperation} {kind : PollerKind}

structure RowKept (artifacts : ArtifactVerdict) (before after : WildFlowOperation) : Prop where
  state : after.state = before.state
  result : after.resultJSON = before.resultJSON ∨ (after.resultJSON ≠ "" ∧ artifacts = .valid after.resultJSON)
  billing : after.billingState = before.billingState ∨
    ((before.billingState = .reserved ∨ before.billingState = .refunding) ∧
      (after.billingState = .settled → before.resultJSON ≠ ""))

def KeepsRow (operationId : String) (artifacts : ArtifactVerdict) (operation : WildFlowOperation) (db : DB) : Prop :=
  ∃ after, db.operations.find operationId = some after ∧ RowKept artifacts operation after

section
variable {db db' : DB} {operationId : String} {operation : WildFlowOperation} {artifacts : ArtifactVerdict}

theorem RowKept.refl (operation : WildFlowOperation) : RowKept artifacts operation operation :=
  ⟨rfl, .inl rfl, .inl rfl⟩

theorem KeepsRow.same (found : db.operations.find operationId = some operation) :
    KeepsRow operationId artifacts operation db :=
  ⟨operation, found, .refl operation⟩

theorem updateWildFlowOperationExecution_found (jobId state code : String)
    (found : db.operations.find operationId = some operation) :
    (updateWildFlowOperationExecution db operationId jobId state code).operations.find operationId =
      some { operation with jobId, state, lastErrorCode := code, updatedTime := db.now } := by
  have keyed : ∀ row : WildFlowOperation, ({ row with
      jobId, state, lastErrorCode := code, updatedTime := db.now } : WildFlowOperation).operationId =
        row.operationId := fun _ => rfl
  have looked := find_updateWhere db.operations operationId (fun _ => true) keyed operationId
  rw [found] at looked
  simpa [updateWildFlowOperationExecution] using looked

theorem withResult_kept_row (json : String) (expiry now : Int) (named : json ≠ "") :
    RowKept (.valid json) operation (operation.withResult json expiry now) := by
  unfold WildFlowOperation.withResult
  dsimp only
  split
  · exact ⟨rfl, .inl rfl, .inl rfl⟩
  · exact ⟨rfl, .inr ⟨named, rfl⟩, .inl rfl⟩

theorem storeWildFlowOperationResult_row (json : String) (expiry : Int)
    (found : db.operations.find operationId = some operation) :
    KeepsRow operationId (.valid json) operation (storeWildFlowOperationResult db operationId json expiry).2 := by
  unfold storeWildFlowOperationResult
  split
  · exact .same found
  rename_i usable
  simp only [not_or] at usable
  refine commit_elim (commit _ db) rfl (fun _ => .same found) fun after db' ran => ?_
  simp only [run_bind_ok, run_ensure_ok] at ran
  obtain ⟨stored, _, loaded, _, _, ⟨_, rfl⟩, _, _, new, reloaded⟩ := ran
  obtain ⟨foundStored, rfl⟩ := loadWildFlowOperationForBilling_ok.mp loaded
  rw [updateOperation_hit foundStored rfl] at new
  cases new
  obtain ⟨foundAfter, rfl⟩ := loadWildFlowOperationForBilling_ok.mp reloaded
  obtain rfl := mem_unique found foundStored
  refine ⟨after, foundAfter, ?_⟩
  have same : (operation.withResult json expiry db.now).operationId = operationId :=
    (withResult_kept json expiry db.now operation).operationId.trans (key_of_find found)
  rw [putOperation_operations, ← same, find_put_self] at foundAfter
  obtain rfl := Option.some.inj foundAfter
  exact withResult_kept_row json expiry db.now usable.2.1

section
variable (found : db.operations.find operationId = some operation)
include found

theorem settleWildFlowOperationBilling_unstored
    (unsettled : operation.billingState ≠ .settled) (empty : operation.resultJSON = "") :
    (settleWildFlowOperationBilling db operationId).2 = db := by
  have ran : settleWildFlowOperationBilling db operationId = (.ok (operation, false), db) := by
    rw [settleWildFlowOperationBilling, commit_eq_ok,
      run_bind_of_ok (loadWildFlowOperationForBilling_ok.mpr ⟨found, rfl⟩), if_neg unsettled, if_pos (by simp [empty])]
    rfl
  rw [ran]

theorem settleWildFlowOperationBilling_row :
    KeepsRow operationId artifacts operation (settleWildFlowOperationBilling db operationId).2 := by
  by_cases stuck : operation.billingState ≠ .settled ∧ operation.resultJSON = ""
  · rw [settleWildFlowOperationBilling_unstored found stuck.1 stuck.2]
    exact .same found
  generalize outcome : (settleWildFlowOperationBilling db operationId).2 = db'
  have eff := settleWildFlowOperationBilling_effect db operationId
  rw [outcome] at eff
  cases eff with
  | unchanged => exact .same found
  | logged => exact .same found
  | returned found' reserved negative src token tokenLess =>
    obtain ⟨_, _, _, rfl⟩ := returnWildFlowQuotaTx_frame src
    obtain ⟨_, rfl⟩ := (returnWildFlowTokenQuotaTx_ok tokenLess).mp token
    exact ⟨operation, by simpa using found, .refl operation⟩
  | settled found' reserved less tokenLess nonnegative src token log kept =>
    rename_i stored actual eventId db₁ db₂
    obtain rfl := mem_unique found found'
    have named : operation.resultJSON ≠ "" := by
      intro empty
      exact stuck ⟨by simp [reserved], empty⟩
    refine ⟨operation.settledWith actual eventId db₂.now, ?_, rfl, .inl rfl, .inr ⟨.inl reserved, fun _ => named⟩⟩
    obtain rfl : operation.operationId = operationId := key_of_find found
    exact find_put_self _ _

theorem refundWildFlowOperationBilling_row :
    KeepsRow operationId artifacts operation (refundWildFlowOperationBilling db operationId).2 := by
  generalize outcome : (refundWildFlowOperationBilling db operationId).2 = db'
  have effect := refundWildFlowOperationBilling_effect db operationId
  rw [outcome] at effect
  cases effect with
  | unchanged => exact .same found
  | logged => exact .same found
  | refunded found' held source token log kept =>
    rename_i stored db₁ db₂
    obtain rfl := mem_unique found found'
    refine ⟨operation.refundedAt db₂.now, ?_, rfl, .inl rfl, .inr ⟨held, fun settled => by cases settled⟩⟩
    obtain rfl : operation.operationId = operationId := key_of_find found
    exact find_put_self _ _

end

theorem recordWildFlowUsageEvent_row (ev : WildFlowUsageEvent)
    (found : db.operations.find operationId = some operation) :
    KeepsRow operationId artifacts operation (recordWildFlowUsageEvent db ev).2 := by
  obtain ⟨events, stored | ⟨trialId, cond, eventId, claimed⟩⟩ := recordWildFlowUsageEvent_cases db ev
  · rw [stored]
    exact .same found
  · have looked := find_updateWhere db.operations trialId cond
      (fun row => (rfl : (row.billedByEvent eventId db.now).operationId = row.operationId)) operationId
    rw [found, map_some] at looked
    rw [claimed]
    refine ⟨_, looked, ?_⟩
    split
    · exact ⟨rfl, .inl rfl, .inl rfl⟩
    · exact .refl operation

end

structure PollingSystem where
  db : DB
  job : JobReport
  pollers : Nat → Poller

inductive PollingStep where
  | advance (state : JobState) (lastError : String)
  | load (poller : Nat) (kind : PollerKind)
  | read (poller : Nat) (outcome : ReadOutcome)
  | write (poller : Nat)
  | persist (poller : Nat) (retention : Int)
  | bill (poller : Nat)
  | recover (poller : Nat)
  | recordUsage (event : WildFlowUsageEvent)
  | settleRecordedUsage
  | tick (seconds : Nat)

def PollingSystem.moved (s : PollingSystem) (poller : Nat) (outcome : Poller × DB) : PollingSystem :=
  { s with db := outcome.2, pollers := Function.update s.pollers poller outcome.1 }

def WildFlowOperation.closed (operation : WildFlowOperation) : Bool :=
  (operation.state = "succeeded" && operation.billingState = .settled) ||
    ((operation.state = "failed" || operation.state = "cancelled") && operation.billingState = .refunded)

def WildFlowOperation.terminal (operation : WildFlowOperation) : Bool :=
  operation.state = "succeeded" || operation.state = "failed" || operation.state = "cancelled"

section
variable (operationId : String) (s : PollingSystem)

def applyPollingStep : PollingStep → PollingSystem
  | .advance state lastError =>
    if s.job.state.rank < state.rank then { s with job := { s.job with state, lastError } } else s
  | .load poller kind =>
    if s.pollers poller = .idle then s.moved poller (.load s.db operationId kind, s.db) else s
  | .read poller outcome => s.moved poller ((s.pollers poller).read s.job outcome, s.db)
  | .write poller => s.moved poller ((s.pollers poller).write s.db operationId)
  | .persist poller retention => s.moved poller ((s.pollers poller).persist s.db operationId retention)
  | .bill poller => s.moved poller ((s.pollers poller).bill s.db operationId)
  | .recover poller => s.moved poller ((s.pollers poller).recover s.db operationId)
  | .recordUsage event => { s with db := (recordWildFlowUsageEvent s.db event).2 }
  | .settleRecordedUsage => { s with db := (settleWildFlowOperationBilling s.db operationId).2 }
  | .tick seconds => { s with db := { s.db with now := s.db.now + seconds } }

def PollingSystem.Closed : Prop :=
  ∃ operation, s.db.operations.find operationId = some operation ∧ operation.closed = true

def PollingSystem.Terminal : Prop :=
  ∃ operation, s.db.operations.find operationId = some operation ∧ operation.terminal = true

end

/-- The step does not write what was read before the job's end, nor a need for recovery. -/
def PollingSystem.fresh (s : PollingSystem) : PollingStep → Bool
  | .write poller =>
    match s.pollers poller with
    | .observed _ _ job => job.state.rank = 2
    | _ => true
  | .recover poller =>
    match s.pollers poller with
    | .recovering _ _ => false
    | _ => true
  | _ => true

def Poller.Knows (job : JobReport) : Poller → Prop
  | .observed _ _ seen =>
    seen.artifacts = job.artifacts ∧ ∀ final, seen.state = .final final → job.state = .final final
  | .written _ _ seen => seen.artifacts = job.artifacts
  | .idle | .loaded _ _ | .billing _ | .recovering _ _ => True

structure PollingInvariant (operationId : String) (s : PollingSystem) (operation : WildFlowOperation) : Prop where
  found : s.db.operations.find operationId = some operation
  terminal : ∀ final : FinalState, operation.state = final.text → s.job.state = .final final
  result : operation.resultJSON ≠ "" → ∃ resultJSON, s.job.artifacts = .valid resultJSON
  settled : operation.billingState = .settled → operation.resultJSON ≠ ""
  knows : ∀ poller, (s.pollers poller).Knows s.job

theorem FinalState.text_injective {first second : FinalState} (same : first.text = second.text) :
    first = second := by
  cases first <;> cases second <;> first | rfl | (revert same; decide)

theorem JobState.final_of_text {state : JobState} {final : FinalState} (same : state.text = final.text) :
    state = .final final := by
  cases state with
  | queued => cases final <;> exact absurd same (by decide)
  | running => cases final <;> exact absurd same (by decide)
  | final other => rw [FinalState.text_injective same]

theorem FinalState.text_ne_recovery (final : FinalState) : final.text ≠ "recovery_required" := by
  cases final <;> decide

theorem terminal_iff : operation.terminal = true ↔ ∃ final : FinalState, operation.state = final.text := by
  simp only [WildFlowOperation.terminal, Bool.or_eq_true, decide_eq_true_eq]
  constructor
  · rintro ((succeeded | failed) | cancelled)
    · exact ⟨.succeeded, succeeded⟩
    · exact ⟨.failed, failed⟩
    · exact ⟨.cancelled, cancelled⟩
  · rintro ⟨final, same⟩
    cases final with
    | succeeded => exact .inl (.inl same)
    | failed => exact .inl (.inr same)
    | cancelled => exact .inr same

theorem closed_terminal (closed : operation.closed = true) : operation.terminal = true := by
  simp only [WildFlowOperation.closed, Bool.or_eq_true, Bool.and_eq_true, decide_eq_true_eq] at closed
  simp only [WildFlowOperation.terminal, Bool.or_eq_true, decide_eq_true_eq]
  tauto

theorem executionUpdate_state {st code : String} (update : executionUpdate kind job = some (st, code)) :
    st = job.state.text ∨
      (st = "recovery_required" ∧ job.state.text = "succeeded" ∧ ∀ json, job.artifacts ≠ .valid json) := by
  unfold executionUpdate at update
  split at update
  · cases update
    exact .inl rfl
  · cases update
    exact .inl rfl
  split at update
  · rename_i succeeded
    split at update
    · cases update
      exact .inl succeeded.symm
    · rename_i missing
      cases update
      exact .inr ⟨rfl, succeeded, by simp [missing]⟩
    · rename_i invalid
      cases update
      exact .inr ⟨rfl, succeeded, by simp [invalid]⟩
    · cases update
  · cases update
    exact .inl rfl

theorem executionUpdate_none (skipped : executionUpdate kind job = none) : job.state.rank = 2 := by
  unfold executionUpdate at skipped
  split at skipped
  · cases skipped
  · cases skipped
  · split at skipped
    · rename_i succeeded
      have final := @JobState.final_of_text job.state .succeeded succeeded
      rw [final]
      rfl
    · cases skipped

inductive RowMove (s : PollingSystem) (step : PollingStep) (before : WildFlowOperation) :
    WildFlowOperation → Prop
  | kept {after : WildFlowOperation} (fresh : s.fresh step = true)
      (kept : RowKept s.job.artifacts before after) : RowMove s step before after
  | wrote {poller : Nat} {kind : PollerKind} {operation : WildFlowOperation} {job : JobReport}
      {state errorCode : String} (isWrite : step = .write poller)
      (holds : s.pollers poller = .observed kind operation job)
      (update : executionUpdate kind job = some (state, errorCode)) :
      RowMove s step before
        { before with jobId := job.id, state, lastErrorCode := errorCode, updatedTime := s.db.now }
  | recovered (stale : s.fresh step = false) (jobId errorCode : String) : RowMove s step before
        { before with
          jobId, state := "recovery_required", lastErrorCode := errorCode, updatedTime := s.db.now }

section
variable {operationId : String} {s : PollingSystem} {operation : WildFlowOperation}

theorem Poller.persist_row (retention : Int) (knows : poller.Knows s.job)
    (found : s.db.operations.find operationId = some operation) :
    KeepsRow operationId s.job.artifacts operation (poller.persist s.db operationId retention).2 := by
  unfold Poller.persist
  split
  · rename_i kind copy job
    split
    · split
      · exact .same found
      · exact .same found
      · exact .same found
      · rename_i resultJSON valid
        have same : s.job.artifacts = .valid resultJSON := knows.symm.trans valid
        rw [same]
        have stored := storeWildFlowOperationResult_row resultJSON (s.db.now + resultRetention retention copy) found
        revert stored
        rcases storeWildFlowOperationResult s.db operationId resultJSON
          (s.db.now + resultRetention retention copy) with ⟨_ | _, _⟩
        · exact id
        · exact id
    · exact .same found
  · exact .same found

theorem Poller.bill_row (poller : Poller) (found : s.db.operations.find operationId = some operation) :
    KeepsRow operationId s.job.artifacts operation (poller.bill s.db operationId).2 := by
  unfold Poller.bill
  split
  · dsimp only
    split
    · exact settleWildFlowOperationBilling_row found
    · exact refundWildFlowOperationBilling_row found
  · exact .same found

theorem applyPollingStep_row (inv : PollingInvariant operationId s operation) (step : PollingStep) :
    ∃ after, (applyPollingStep operationId s step).db.operations.find operationId = some after ∧
      RowMove s step operation after := by
  have found := inv.found
  have idle : ∀ fresh : s.fresh step = true, RowMove s step operation operation :=
    fun fresh => .kept fresh (.refl operation)
  cases step with
  | advance state lastError =>
    refine ⟨operation, ?_, idle rfl⟩
    simp only [applyPollingStep]
    split <;> exact found
  | load poller kind =>
    refine ⟨operation, ?_, idle rfl⟩
    simp only [applyPollingStep]
    split <;> exact found
  | read poller out => exact ⟨operation, found, idle rfl⟩
  | write poller =>
    simp only [applyPollingStep, PollingSystem.moved]
    cases holds : s.pollers poller with
    | observed kind copy job =>
      simp only [Poller.write]
      cases update : executionUpdate kind job with
      | none =>
        refine ⟨operation, found, idle ?_⟩
        simp [PollingSystem.fresh, holds, executionUpdate_none update]
      | some written =>
        obtain ⟨state, code⟩ := written
        exact ⟨_, updateWildFlowOperationExecution_found job.id state code found, .wrote rfl holds update⟩
    | idle | loaded | written | billing | recovering =>
      exact ⟨operation, found, idle (by simp [PollingSystem.fresh, holds])⟩
  | persist poller retention =>
    exact (Poller.persist_row retention (inv.knows poller) found).imp fun _ kept => ⟨kept.1, .kept rfl kept.2⟩
  | bill poller =>
    exact (Poller.bill_row (s.pollers poller) found).imp fun _ kept => ⟨kept.1, .kept rfl kept.2⟩
  | recover poller =>
    simp only [applyPollingStep, PollingSystem.moved]
    cases holds : s.pollers poller with
    | recovering copy code =>
      exact ⟨_, updateWildFlowOperationExecution_found copy.jobId "recovery_required" code found,
        .recovered (by simp [PollingSystem.fresh, holds]) copy.jobId code⟩
    | idle | loaded | observed | written | billing =>
      exact ⟨operation, found, idle (by simp [PollingSystem.fresh, holds])⟩
  | recordUsage event =>
    exact (recordWildFlowUsageEvent_row event found).imp fun _ kept => ⟨kept.1, .kept rfl kept.2⟩
  | settleRecordedUsage =>
    exact (settleWildFlowOperationBilling_row found).imp fun _ kept => ⟨kept.1, .kept rfl kept.2⟩
  | tick seconds => exact ⟨operation, found, idle rfl⟩

theorem Poller.Knows.mono {later : JobReport} (knows : poller.Knows job) (artifacts : later.artifacts = job.artifacts)
    (final : ∀ st, job.state = .final st → later.state = .final st) : poller.Knows later := by
  cases poller with
  | observed kind copy seen =>
    exact ⟨knows.1.trans artifacts.symm, fun st same => final st (knows.2 st same)⟩
  | written kind copy seen => exact Eq.trans knows artifacts.symm
  | idle | loaded | billing | recovering => trivial

theorem afterExecution_knows (job : JobReport) (copy : WildFlowOperation) : (afterExecution copy).Knows job := by
  unfold afterExecution
  split
  · trivial
  · split <;> trivial

theorem recoverArtifact_knows (job : JobReport) (kind : PollerKind) (copy : WildFlowOperation)
    (code : String) : (recoverArtifact kind copy code).Knows job := by
  unfold recoverArtifact
  split <;> trivial

section
variable (knows : poller.Knows job)
include knows

theorem Poller.Knows.read (out : ReadOutcome) : (poller.read job out).Knows job := by
  cases poller with
  | loaded kind copy =>
    cases out with
    | report => exact ⟨rfl, fun _ same => same⟩
    | notFound =>
      simp only [Poller.read]
      split <;> trivial
    | unavailable => trivial
  | idle | observed | written | billing | recovering => exact knows

section
variable (db : DB) (operationId : String)

theorem Poller.Knows.write : (poller.write db operationId).1.Knows job := by
  cases poller with
  | observed kind copy seen =>
    simp only [Poller.write]
    cases executionUpdate kind seen with
    | none => trivial
    | some written => exact knows.1
  | idle | loaded | written | billing | recovering => exact knows

theorem Poller.Knows.persist (retention : Int) : (poller.persist db operationId retention).1.Knows job := by
  unfold Poller.persist
  split
  · split
    · split
      · exact recoverArtifact_knows job _ _ _
      · exact recoverArtifact_knows job _ _ _
      · trivial
      · split
        · exact afterExecution_knows job _
        · trivial
    · exact afterExecution_knows job _
  · exact knows

theorem Poller.Knows.bill : (poller.bill db operationId).1.Knows job := by
  have either : ∀ (conflict : Bool) (copy : WildFlowOperation),
      (if conflict = true then Poller.recovering copy "billing_state_conflict" else .idle).Knows job := by
    intro conflict copy
    cases conflict <;> trivial
  unfold Poller.bill
  split
  · exact either _ _
  · exact knows

theorem Poller.Knows.recover : (poller.recover db operationId).1.Knows job := by
  cases poller with
  | recovering => trivial
  | idle | loaded | observed | written | billing => exact knows

end

end

theorem moved_knows {poller : Nat} {out : Poller × DB} (known : ∀ other, (s.pollers other).Knows s.job)
    (knows : out.1.Knows s.job) (other : Nat) : ((s.moved poller out).pollers other).Knows s.job := by
  by_cases same : other = poller
  · subst same
    simpa [PollingSystem.moved] using knows
  · simpa [PollingSystem.moved, Function.update_of_ne same] using known other

theorem applyPollingStep_job (operationId : String) (s : PollingSystem) (step : PollingStep) :
    (applyPollingStep operationId s step).job.artifacts = s.job.artifacts ∧
      ∀ state, s.job.state = .final state → (applyPollingStep operationId s step).job.state = .final state := by
  cases step with
  | advance state lastError =>
    simp only [applyPollingStep]
    split
    · rename_i forward
      refine ⟨rfl, fun final same => ?_⟩
      rw [same] at forward
      cases state <;> simp [JobState.rank] at forward
    · exact ⟨rfl, fun _ same => same⟩
  | load poller kind =>
    simp only [applyPollingStep]
    split <;> exact ⟨rfl, fun _ same => same⟩
  | read | write | persist | bill | recover | recordUsage | settleRecordedUsage | tick =>
    exact ⟨rfl, fun _ same => same⟩

theorem applyPollingStep_knows (known : ∀ poller, (s.pollers poller).Knows s.job) (step : PollingStep)
    (poller : Nat) : ((applyPollingStep operationId s step).pollers poller).Knows s.job := by
  cases step with
  | advance st lastError =>
    simp only [applyPollingStep]
    split <;> exact known poller
  | load other kind =>
    simp only [applyPollingStep]
    split
    · refine moved_knows known ?_ poller
      unfold Poller.load
      split
      · split <;> trivial
      · trivial
    · exact known poller
  | read other out => exact moved_knows known ((known other).read out) poller
  | write other => exact moved_knows known ((known other).write s.db operationId) poller
  | persist other retention => exact moved_knows known ((known other).persist s.db operationId retention) poller
  | bill other => exact moved_knows known ((known other).bill s.db operationId) poller
  | recover other => exact moved_knows known ((known other).recover s.db operationId) poller
  | recordUsage | settleRecordedUsage | tick => exact known poller

theorem RowMove.closed {step : PollingStep}
    (inv : PollingInvariant operationId s operation) (closed : operation.closed = true)
    (fresh : s.fresh step = true) (move : RowMove s step operation after) : after.closed = true := by
  cases move with
  | kept _ kept =>
    have billed : after.billingState = operation.billingState := by grind [WildFlowOperation.closed, kept.billing]
    simpa [WildFlowOperation.closed, kept.state, billed] using closed
  | wrote isWrite holds update =>
    rename_i poller kind copy job state code
    subst isWrite
    have seen := inv.knows poller
    rw [holds] at seen
    simp only [PollingSystem.fresh, holds, decide_eq_true_eq] at fresh
    obtain ⟨final, ended⟩ : ∃ final, job.state = .final final := by
      cases told : job.state with
      | final final => exact ⟨final, rfl⟩
      | queued => simp [told, JobState.rank] at fresh
      | running => simp [told, JobState.rank] at fresh
    obtain ⟨cur, terminal⟩ := terminal_iff.mp (closed_terminal closed)
    have same : cur = final := by
      have one := inv.terminal cur terminal
      rw [seen.2 final ended] at one
      simpa using one.symm
    subst same
    rcases executionUpdate_state update with written | ⟨_, succeeded, unusable⟩
    · have kept : state = operation.state := by rw [written, ended, terminal]; rfl
      simpa [WildFlowOperation.closed, kept] using closed
    -- The operation is settled, so its result was stored and the artifacts are valid.
    have settled : operation.billingState = .settled := by
      rw [ended] at succeeded
      have state : operation.state = "succeeded" := terminal.trans succeeded
      simpa [WildFlowOperation.closed, state] using closed
    obtain ⟨json, valid⟩ := inv.result (inv.settled settled)
    exact absurd (seen.1.trans valid) (unusable json)
  | recovered stale => simp [fresh] at stale

theorem RowMove.reopened {step : PollingStep} (stale : s.fresh step = false)
    (move : RowMove s step operation after) : after.terminal = false := by
  rw [← Bool.not_eq_true, terminal_iff]
  rintro ⟨final, same⟩
  cases move with
  | kept fresh => simp [stale] at fresh
  | wrote isWrite holds update =>
    rename_i poller kind copy job st code
    subst isWrite
    simp only [PollingSystem.fresh, holds, decide_eq_false_iff_not] at stale
    rcases executionUpdate_state update with written | ⟨_, succeeded, _⟩
    · rw [JobState.final_of_text (written.symm.trans same)] at stale
      exact stale rfl
    · rw [@JobState.final_of_text job.state .succeeded succeeded] at stale
      exact stale rfl
  | recovered => exact final.text_ne_recovery same.symm

def FreshWhenClosed (operationId : String) (s : PollingSystem) (step : PollingStep) : Prop :=
  s.Closed operationId → s.fresh step = true

section
variable (inv : PollingInvariant operationId s operation)
include inv

theorem PollingInvariant.step (step : PollingStep) :
    ∃ after, PollingInvariant operationId (applyPollingStep operationId s step) after ∧
      RowMove s step operation after := by
  obtain ⟨after, found, move⟩ := applyPollingStep_row inv step
  obtain ⟨artifacts, final⟩ := applyPollingStep_job operationId s step
  refine ⟨after, ⟨found, ?_, ?_, ?_, ?_⟩, move⟩
  · intro state same
    apply final
    cases move with
    | kept _ kept => exact inv.terminal state (kept.state.symm.trans same)
    | wrote isWrite holds update =>
      rename_i poller kind copy job text code
      have seen := inv.knows poller
      rw [holds] at seen
      rcases executionUpdate_state update with written | ⟨recovery, _⟩
      · exact seen.2 state (JobState.final_of_text (written.symm.trans same))
      · exact absurd (same.symm.trans recovery) state.text_ne_recovery
    | recovered _ jobId code => exact absurd same.symm state.text_ne_recovery
  · intro named
    rw [artifacts]
    cases move with
    | kept _ kept =>
      rcases kept.result with same | ⟨_, valid⟩
      · exact inv.result (same ▸ named)
      · exact ⟨_, valid⟩
    | wrote => exact inv.result named
    | recovered => exact inv.result named
  · intro settled
    cases move with
    | kept _ kept =>
      have before : operation.resultJSON ≠ "" := by grind [kept.billing, inv.settled]
      rcases kept.result with same | ⟨named, _⟩
      · exact same ▸ before
      · exact named
    | wrote => exact inv.settled settled
    | recovered => exact inv.settled settled
  · intro poller
    exact (applyPollingStep_knows inv.knows step poller).mono artifacts final

theorem PollingInvariant.run (steps : List PollingStep) :
    ∃ after, PollingInvariant operationId (runSteps (applyPollingStep operationId) s steps) after := by
  induction steps using List.reverseRecOn with
  | nil => exact ⟨operation, inv⟩
  | append_singleton steps step ih =>
    obtain ⟨middle, held⟩ := ih
    obtain ⟨after, next, _⟩ := held.step step
    rw [runSteps_snoc]
    exact ⟨after, next⟩

theorem PollingSystem.Closed.run (closed : s.Closed operationId) (steps : List PollingStep)
    (guarded : Guarded (applyPollingStep operationId) (FreshWhenClosed operationId) s steps) :
    (runSteps (applyPollingStep operationId) s steps).Closed operationId := by
  induction steps generalizing s operation with
  | nil => exact closed
  | cons step rest ih =>
    obtain ⟨after, next, move⟩ := inv.step step
    obtain ⟨stored, found, done⟩ := closed
    obtain rfl := mem_unique inv.found found
    have still := move.closed inv done (guarded.1 ⟨operation, found, done⟩)
    exact ih next ⟨after, next.found, still⟩ guarded.2

end

theorem PollingSystem.Closed.terminal (closed : s.Closed operationId) : s.Terminal operationId := by
  obtain ⟨stored, found, done⟩ := closed
  exact ⟨stored, found, closed_terminal done⟩

end

theorem PollingInvariant.initial {operationId : String} {s : PollingSystem}
    (found : s.db.operations.find operationId = some operation) (busy : operation.terminal = false)
    (unsettled : operation.billingState ≠ .settled) (empty : operation.resultJSON = "")
    (idle : ∀ poller, s.pollers poller = .idle) : PollingInvariant operationId s operation := by
  refine ⟨found, ?_, fun named => absurd empty named, fun settled => absurd settled unsettled, ?_⟩
  · intro final same
    have terminal := terminal_iff.mpr ⟨final, same⟩
    rw [busy] at terminal
    cases terminal
  · intro poller
    rw [idle poller]
    trivial

theorem closed_operation_terminal_iff {operationId : String} {start : PollingSystem} {operation : WildFlowOperation}
    (initial : PollingInvariant operationId start operation) (earlier later : List PollingStep)
    (guarded : Guarded (applyPollingStep operationId) (FreshWhenClosed operationId) start (earlier ++ later)) :
    ((runSteps (applyPollingStep operationId) start earlier).Closed operationId →
      (runSteps (applyPollingStep operationId) start (earlier ++ later)).Terminal operationId) ∧
    ∀ step, (runSteps (applyPollingStep operationId) start (earlier ++ later)).Closed operationId →
      ((runSteps (applyPollingStep operationId) start (earlier ++ later ++ [step])).Terminal operationId ↔
        (runSteps (applyPollingStep operationId) start (earlier ++ later)).fresh step = true) := by
  obtain ⟨middle, inv⟩ := initial.run earlier
  rw [runSteps_append]
  constructor
  · intro closed
    exact (closed.run inv later (guarded_append.mp guarded).2).terminal
  · intro step closed
    obtain ⟨last, invLast⟩ := inv.run later
    obtain ⟨after, next, move⟩ := invLast.step step
    obtain ⟨stored, foundLast, done⟩ := closed
    obtain rfl := mem_unique invLast.found foundLast
    rw [runSteps_snoc, runSteps_append]
    constructor
    · rintro ⟨reopened, foundAfter, terminal⟩
      obtain rfl := mem_unique next.found foundAfter
      by_contra stale
      rw [move.reopened (by simpa using stale)] at terminal
      cases terminal
    · intro fresh
      exact ⟨after, next.found, closed_terminal (move.closed invLast done fresh)⟩

def PollingSystem.ofAudioJob : PollingSystem where
  db := runSteps (applyOperationStep "op-1") DB.withAudioOperation
    [.reserveWallet audioQuote, .updateExecution "job-1" "running" "", .recordUsage audioUsage]
  job := ⟨"job-1", .running, "", .valid "transcript"⟩
  pollers := fun _ => .idle

def closingPoller : List PollingStep :=
  [.advance (.final .succeeded) "", .load 1 .reconcileWildFlowBillingOnce, .read 1 .report, .write 1,
    .persist 1 2592000, .bill 1]

theorem closed_operation_terminal_iff_audioJob :
    (runSteps (applyPollingStep "op-1") .ofAudioJob closingPoller).Closed "op-1" ∧
      (runSteps (applyPollingStep "op-1") .ofAudioJob (closingPoller ++ [.load 2 .cancelWildFlowJob])).Terminal
        "op-1" := by
  have guarded : Guarded (applyPollingStep "op-1") (FreshWhenClosed "op-1") .ofAudioJob (closingPoller ++ []) := by
    refine ⟨?_, ?_, ?_, ?_, ?_, ?_, trivial⟩ <;> exact fun _ => by decide
  have closed : (runSteps (applyPollingStep "op-1") .ofAudioJob closingPoller).Closed "op-1" := ⟨_, rfl, by decide⟩
  refine ⟨closed, ?_⟩
  have initial : PollingInvariant "op-1" .ofAudioJob _ :=
    .initial rfl (by decide) (by decide) (by decide) fun _ => rfl
  exact ((closed_operation_terminal_iff initial closingPoller [] guarded).2 (.load 2 .cancelWildFlowJob)
    closed).mpr (by decide)

theorem stale_poller_reopens_operation :
    (runSteps (applyPollingStep "op-1") .ofAudioJob
        ([.load 0 .getWildFlowJob, .read 0 .report] ++ closingPoller)).Closed "op-1" ∧
      ¬ (runSteps (applyPollingStep "op-1") .ofAudioJob
        ([.load 0 .getWildFlowJob, .read 0 .report] ++ closingPoller ++ [.write 0])).Terminal "op-1" := by
  refine ⟨⟨_, rfl, by decide⟩, ?_⟩
  rintro ⟨operation, found, terminal⟩
  cases found
  exact absurd terminal (by decide)

end Wildflow.Billing

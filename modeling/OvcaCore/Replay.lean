/-
Replay of a run (`ovca-runtime-core/src/replay.rs`).

`validate_event_chain` checks the frame of an event stream and `replay_run`
goes through its events once, keeping a `ReplayState`. Each kind of payload has
its own step here, under the name of what it records, and its own `_eq_ok`
lemma, which says everything the step can do.
-/
import OvcaCore.ReviewAudit

set_option autoImplicit false

namespace OvcaCore

open OvcaCore.Checks OvcaCore.RunTransition OvcaCore.ReviewAudit

inductive ReplayError where
  | EmptyStream
  | ContractVersionMismatch (sequence : ℕ) (expected found : ContractVersion)
  | FirstEventNotRunCreated (event_id : EventId)
  | DuplicateRunCreated (sequence : ℕ) (event_id : EventId)
  | RunIdMismatch (sequence : ℕ) (expected found : RunId)
  | SequenceMismatch (event_id : EventId) (expected found : ℕ)
  | InitialPreviousEventIdPresent (event_id found : EventId)
  | PreviousEventIdMismatch (sequence : ℕ) (event_id expected : EventId) (found : Option EventId)
  | DuplicateEventId (event_id : EventId) (first_sequence duplicate_sequence : ℕ)
  | InitialRunStatusMismatch (event_id : EventId) (expected found : RunStatus)
  | GoalContractIdMismatch (expected found : GoalId)
  | GoalContractProjectIdMismatch (expected found : ProjectId)
  | NestedContractVersionMismatch (sequence : ℕ) (contract : String)
      (expected found : ContractVersion)
  | DuplicateDeclaredTask (sequence : ℕ) (task_id : TaskId)
  | DuplicateExecutionPlan (sequence : ℕ)
  | ExecutionPlanWaveIndexMismatch (sequence expected found : ℕ)
  | ExecutionPlanUnknownTask (sequence : ℕ) (task_id : TaskId)
  | ExecutionPlanDuplicateTask (sequence : ℕ) (task_id : TaskId)
  | ExecutionPlanMissingTask (sequence : ℕ) (task_id : TaskId)
  | RunStatusFromMismatch (sequence : ℕ) (expected found : RunStatus)
  | RunTransitionRejected (sequence : ℕ) (error : RunTransitionError)
  | ReviewAuditEvaluationFailed (sequence : ℕ) (error : ReviewAuditError)
  | ReviewAuditResolutionRejected (sequence : ℕ) (resolution : ReviewAuditResolution)
  | UnknownTask (sequence : ℕ) (task_id : TaskId)
  | TaskStatusFromMismatch (sequence : ℕ) (task_id : TaskId) (expected found : TaskStatus)
  | DuplicateCompletionEvidence (sequence : ℕ)
  | CompletionEvidenceNotAttached (sequence : ℕ) (evidence_id : EvidenceId)
  | InvalidSpecialistRole (sequence : ℕ) (role : Role)
  | SpecialistOutputRoleMismatch (sequence : ℕ) (producer_role specialist_role : Role)
  | UnauthorizedCoordinatorFinalResponse (sequence : ℕ) (producer_role : Role)
  | DuplicateCoordinatorFinalResponse (sequence : ℕ)
  | DuplicateEvidenceReference (sequence : ℕ) (evidence_id : EvidenceId)
  | DuplicateReviewAuditRequirements (sequence : ℕ)
  | DecisionRunIdMismatch (sequence : ℕ) (contract : String) (expected found : RunId)
  | DecisionGoalIdMismatch (sequence : ℕ) (contract : String) (expected found : GoalId)
  | DecisionProducerRoleMismatch (sequence : ℕ) (contract : String)
      (expected event_role decision_role : Role)
  | DuplicateReviewDecision (sequence : ℕ) (decision_id : ReviewDecisionId)
  | DuplicateAuditDecision (sequence : ℕ) (decision_id : AuditDecisionId)
  | AuditReviewDecisionNotRecorded (sequence : ℕ) (review_decision_id : ReviewDecisionId)
  deriving DecidableEq, Repr

structure ReplayedRun where
  run_record : RunRecord
  execution_plan : Option ExecutionPlan
  task_statuses : BTreeMap TaskId TaskStatus
  evidence_references : List EvidenceRef
  guard_outcomes : List RunGuardProjection
  review_audit_requirements : Option ReviewAuditRequirements
  review_decisions : List ReviewDecision
  audit_decisions : List AuditDecision
  completion_evidence : Option CompletionEvidence
  specialist_outputs : List SpecialistOutput
  coordinator_final_response : Option CoordinatorFinalResponse
  deriving DecidableEq

/-- The local variables of the replay loop: the run so far, and the ids seen. -/
structure ReplayState extends ReplayedRun where
  evidence_ids : BTreeSet EvidenceId
  review_decision_ids : BTreeSet ReviewDecisionId
  audit_decision_ids : BTreeSet AuditDecisionId

namespace Replay

/-! ## The event chain -/

/-- The local variables of `validate_event_chain`. -/
structure ChainState where
  index : ℕ
  previous_event_id : Option EventId
  seen_event_ids : BTreeMap EventId ℕ

def is_run_created : RunEventPayload → Bool
  | .RunCreated _ => true
  | _ => false

/-- The first event, and no other, creates the run. -/
def validate_created (index : ℕ) (event : RunEvent) : Except ReplayError Unit :=
  if index = 0 then
    reject_if (¬ is_run_created event.payload) (.FirstEventNotRunCreated event.id)
  else
    reject_if (is_run_created event.payload) (.DuplicateRunCreated event.sequence event.id)

/-- The link of an event to its predecessor, which only the first is without. -/
def validate_link (previous_event_id : Option EventId) (event : RunEvent) :
    Except ReplayError Unit :=
  match previous_event_id with
  | none => check_some event.previous_event_id fun found =>
      .error (.InitialPreviousEventIdPresent event.id found)
  | some expected => reject_if (event.previous_event_id ≠ some expected)
      (.PreviousEventIdMismatch event.sequence event.id expected event.previous_event_id)

def validate_chain_event (expected_run_id : RunId) (state : ChainState) (event : RunEvent) :
    Except ReplayError ChainState := do
  reject_if (event.contract_version ≠ ContractVersion.current)
    (.ContractVersionMismatch event.sequence ContractVersion.current event.contract_version)
  validate_created state.index event
  reject_if (event.run_id ≠ expected_run_id)
    (.RunIdMismatch event.sequence expected_run_id event.run_id)
  reject_if (event.sequence ≠ state.index)
    (.SequenceMismatch event.id state.index event.sequence)
  validate_link state.previous_event_id event
  check_some state.seen_event_ids[event.id]? fun first_sequence =>
    .error (.DuplicateEventId event.id first_sequence event.sequence)
  pure
    { index := state.index + 1
      previous_event_id := some event.id
      seen_event_ids := state.seen_event_ids.insert event.id event.sequence }

def validate_event_chain (events : List RunEvent) : Except ReplayError RunId := do
  let first ← ok_or events.head? .EmptyStream
  let expected_run_id := first.run_id
  let _ ← fold_checked (validate_chain_event expected_run_id) ⟨0, none, ∅⟩ events
  pure expected_run_id

/-! ## Checks shared by the steps -/

def validate_nested_contract_version (sequence : ℕ) (contract : String)
    (found : ContractVersion) : Except ReplayError Unit :=
  reject_if (found ≠ ContractVersion.current)
    (.NestedContractVersionMismatch sequence contract ContractVersion.current found)

def validate_decision_binding (sequence : ℕ) (contract : String) (run_record : RunRecord)
    (run_id : RunId) (goal_id : GoalId) : Except ReplayError Unit := do
  reject_if (run_id ≠ run_record.id)
    (.DecisionRunIdMismatch sequence contract run_record.id run_id)
  reject_if (goal_id ≠ run_record.goal_id)
    (.DecisionGoalIdMismatch sequence contract run_record.goal_id goal_id)

def validate_decision_role (sequence : ℕ) (contract : String)
    (expected event_role decision_role : Role) : Except ReplayError Unit :=
  reject_if (event_role ≠ expected ∨ decision_role ≠ expected)
    (.DecisionProducerRoleMismatch sequence contract expected event_role decision_role)

/-- A task of a plan: it is declared, and not planned before. -/
def plan_task (sequence : ℕ) (declared_tasks planned_tasks : BTreeSet TaskId) (task_id : TaskId) :
    Except ReplayError (BTreeSet TaskId) := do
  reject_if (task_id ∉ declared_tasks) (.ExecutionPlanUnknownTask sequence task_id)
  reject_if (task_id ∈ planned_tasks) (.ExecutionPlanDuplicateTask sequence task_id)
  pure (planned_tasks.insert task_id)

def plan_wave (sequence : ℕ) (declared_tasks planned_tasks : BTreeSet TaskId)
    (wave : ExecutionWave × ℕ) : Except ReplayError (BTreeSet TaskId) := do
  reject_if (wave.1.index ≠ wave.2)
    (.ExecutionPlanWaveIndexMismatch sequence wave.2 wave.1.index)
  fold_checked (plan_task sequence declared_tasks) planned_tasks wave.1.task_ids

def validate_execution_plan (sequence : ℕ) (plan : ExecutionPlan)
    (declared_tasks : BTreeSet TaskId) : Except ReplayError Unit := do
  let planned_tasks ← fold_checked (plan_wave sequence declared_tasks) ∅ plan.waves.zipIdx
  check_some (declared_tasks.toList.find? fun task_id => task_id ∉ planned_tasks) fun task_id =>
    .error (.ExecutionPlanMissingTask sequence task_id)

/-! ## The steps -/

def record_execution_plan (declared_tasks : BTreeSet TaskId) (state : ReplayState)
    (event : RunEvent) (plan : ExecutionPlan) : Except ReplayError ReplayState := do
  validate_nested_contract_version event.sequence "execution_plan" plan.contract_version
  reject_if state.execution_plan.isSome (.DuplicateExecutionPlan event.sequence)
  validate_execution_plan event.sequence plan declared_tasks
  pure { state with execution_plan := some plan }

/-- The guard requirements recorded so far. -/
def guard_requirements (run : ReplayedRun) : BTreeSet GuardRequirement :=
  match run.review_audit_requirements with
  | none => ∅
  | some requirements => requirements.guard_requirements

/-- The inputs of the review gate that the run holds. -/
def evaluation_context (run : ReplayedRun) (goal : GoalContract) (evidence : CompletionEvidence) :
    ReviewAuditEvaluationContext where
  expected_run_id := run.run_record.id
  goal_contract := goal
  completion_evidence := evidence
  evidence_catalog := run.evidence_references
  guard_requirements := guard_requirements run

/-- The review gate on the run's own fields. -/
def evaluate_run (run : ReplayedRun) (goal : GoalContract) (evidence : CompletionEvidence) :
    Except ReviewAuditError ReviewAuditResolution :=
  evaluate_review_audit (evaluation_context run goal evidence) run.review_decisions.head?
    run.audit_decisions.head?

/-- Is a resolution `Pass`? -/
def is_pass : ReviewAuditResolution → Bool
  | .Pass _ _ => true
  | _ => false

/-- What a transition into `Completed` has to show beside the transition rule. -/
def check_completion (goal : Option GoalContract) (state : ReplayState) (sequence : ℕ) :
    Except ReplayError Unit := do
  let goal ← ok_or goal (.RunTransitionRejected sequence .CompletionContractMissing)
  let evidence ← ok_or state.completion_evidence
    (.RunTransitionRejected sequence .CompletionEvidenceMissing)
  check_all evidence.evidence_refs fun evidence_id =>
    reject_if (evidence_id ∉ state.evidence_ids)
      (.CompletionEvidenceNotAttached sequence evidence_id)
  let resolution ← (evaluate_run state.toReplayedRun goal evidence).mapError
    (.ReviewAuditEvaluationFailed sequence)
  reject_if (¬ is_pass resolution) (.ReviewAuditResolutionRejected sequence resolution)

/-- The transition rule a transition is under. -/
def check_transition (goal : Option GoalContract) (state : ReplayState) (from_ to_ : RunStatus) :
    Except RunTransitionError Unit :=
  if to_ = .Completed then
    validate_run_transition_with_guard_requirements from_ to_ goal state.completion_evidence
      (guard_requirements state.toReplayedRun)
  else
    validate_run_transition from_ to_ goal state.completion_evidence

/-- `if c && o.is_none() { o = Some(at) }`. -/
def stamp (c : Bool) (o : Option DateTime) (occurred_at : DateTime) : Option DateTime :=
  if c && o.isNone then some occurred_at else o

def transition_status (goal : Option GoalContract) (state : ReplayState) (event : RunEvent)
    (from_ to_ : RunStatus) : Except ReplayError ReplayState := do
  reject_if (from_ ≠ state.run_record.status)
    (.RunStatusFromMismatch event.sequence state.run_record.status from_)
  (check_transition goal state from_ to_).mapError (.RunTransitionRejected event.sequence)
  if to_ = .Completed then
    check_completion goal state event.sequence
  pure { state with
    run_record := { state.run_record with
      status := to_
      started_at := stamp (to_ = .Running) state.run_record.started_at event.occurred_at
      finished_at := stamp to_.is_terminal state.run_record.finished_at event.occurred_at } }

def change_task_status (state : ReplayState) (event : RunEvent) (task_id : TaskId)
    (from_ to_ : TaskStatus) : Except ReplayError ReplayState := do
  let current ← ok_or state.task_statuses[task_id]? (.UnknownTask event.sequence task_id)
  reject_if (from_ ≠ current) (.TaskStatusFromMismatch event.sequence task_id current from_)
  pure { state with task_statuses := state.task_statuses.insert task_id to_ }

def attach_evidence (state : ReplayState) (evidence_id : EvidenceId) : ReplayState :=
  if evidence_id ∈ state.evidence_ids then
    state
  else
    { state with
      evidence_ids := state.evidence_ids.insert evidence_id
      run_record := { state.run_record with
        evidence_refs := state.run_record.evidence_refs ++ [evidence_id] } }

def record_evidence_reference (state : ReplayState) (event : RunEvent) (evidence : EvidenceRef) :
    Except ReplayError ReplayState := do
  validate_nested_contract_version event.sequence "evidence_reference" evidence.contract_version
  check_some evidence.integrity fun integrity =>
    validate_nested_contract_version event.sequence "evidence_integrity" integrity.contract_version
  reject_if (evidence.id ∈ state.evidence_ids)
    (.DuplicateEvidenceReference event.sequence evidence.id)
  pure { state with
    evidence_ids := state.evidence_ids.insert evidence.id
    run_record := { state.run_record with
      evidence_refs := state.run_record.evidence_refs ++ [evidence.id] }
    evidence_references := state.evidence_references ++ [evidence] }

def record_guard_outcome (state : ReplayState) (event : RunEvent)
    (projection : RunGuardProjection) : Except ReplayError ReplayState := do
  validate_nested_contract_version event.sequence "run_guard_projection"
    projection.contract_version
  pure { state with guard_outcomes := state.guard_outcomes ++ [projection] }

def record_requirements (state : ReplayState) (event : RunEvent)
    (requirements : ReviewAuditRequirements) : Except ReplayError ReplayState := do
  validate_nested_contract_version event.sequence "review_audit_requirements"
    requirements.contract_version
  reject_if state.review_audit_requirements.isSome
    (.DuplicateReviewAuditRequirements event.sequence)
  pure { state with review_audit_requirements := some requirements }

def record_review_decision (state : ReplayState) (event : RunEvent) (decision : ReviewDecision) :
    Except ReplayError ReplayState := do
  validate_nested_contract_version event.sequence "review_decision" decision.contract_version
  check_all decision.assessments fun assessment =>
    validate_nested_contract_version event.sequence "review_criterion_assessment"
      assessment.contract_version
  validate_decision_binding event.sequence "review_decision" state.run_record decision.run_id
    decision.goal_id
  validate_decision_role event.sequence "review_decision" .Reviewer event.producer_role
    decision.producer_role
  reject_if (state.review_decisions ≠ [] ∨ decision.id ∈ state.review_decision_ids)
    (.DuplicateReviewDecision event.sequence decision.id)
  pure { state with
    review_decision_ids := state.review_decision_ids.insert decision.id
    review_decisions := state.review_decisions ++ [decision] }

def record_audit_decision (state : ReplayState) (event : RunEvent) (decision : AuditDecision) :
    Except ReplayError ReplayState := do
  validate_nested_contract_version event.sequence "audit_decision" decision.contract_version
  check_all decision.assessments fun assessment =>
    validate_nested_contract_version event.sequence "audit_criterion_assessment"
      assessment.contract_version
  validate_decision_binding event.sequence "audit_decision" state.run_record decision.run_id
    decision.goal_id
  validate_decision_role event.sequence "audit_decision" .Auditor event.producer_role
    decision.producer_role
  reject_if (state.audit_decisions ≠ [] ∨ decision.id ∈ state.audit_decision_ids)
    (.DuplicateAuditDecision event.sequence decision.id)
  reject_if (decision.review_decision_id ∉ state.review_decision_ids)
    (.AuditReviewDecisionNotRecorded event.sequence decision.review_decision_id)
  pure { state with
    audit_decision_ids := state.audit_decision_ids.insert decision.id
    audit_decisions := state.audit_decisions ++ [decision] }

def record_completion_evidence (state : ReplayState) (event : RunEvent)
    (evidence : CompletionEvidence) : Except ReplayError ReplayState := do
  validate_nested_contract_version event.sequence "completion_evidence" evidence.contract_version
  reject_if state.completion_evidence.isSome (.DuplicateCompletionEvidence event.sequence)
  pure { state with completion_evidence := some evidence }

def record_specialist_output (declared_tasks : BTreeSet TaskId) (state : ReplayState)
    (event : RunEvent) (output : SpecialistOutput) : Except ReplayError ReplayState := do
  validate_nested_contract_version event.sequence "specialist_output" output.contract_version
  reject_if (output.task_id ∉ declared_tasks) (.UnknownTask event.sequence output.task_id)
  reject_if (output.specialist_role = .Coordinator)
    (.InvalidSpecialistRole event.sequence output.specialist_role)
  reject_if (event.producer_role ≠ output.specialist_role)
    (.SpecialistOutputRoleMismatch event.sequence event.producer_role output.specialist_role)
  pure { state with specialist_outputs := state.specialist_outputs ++ [output] }

def record_final_response (state : ReplayState) (event : RunEvent)
    (response : CoordinatorFinalResponse) : Except ReplayError ReplayState := do
  validate_nested_contract_version event.sequence "coordinator_final_response"
    response.contract_version
  reject_if (event.producer_role ≠ .Coordinator)
    (.UnauthorizedCoordinatorFinalResponse event.sequence event.producer_role)
  reject_if state.coordinator_final_response.isSome
    (.DuplicateCoordinatorFinalResponse event.sequence)
  pure { state with coordinator_final_response := some response }

def apply_payload (goal : Option GoalContract) (declared_tasks : BTreeSet TaskId)
    (state : ReplayState) (event : RunEvent) : Except ReplayError ReplayState :=
  match event.payload with
  | .RunCreated _ | .NoteRecorded _ => pure state
  | .ExecutionPlanRecorded plan => record_execution_plan declared_tasks state event plan
  | .StatusTransition from_ to_ => transition_status goal state event from_ to_
  | .TaskStatusChanged task_id from_ to_ => change_task_status state event task_id from_ to_
  | .EvidenceAttached evidence_id => pure (attach_evidence state evidence_id)
  | .EvidenceReferenceRecorded evidence => record_evidence_reference state event evidence
  | .GuardOutcomeRecorded projection => record_guard_outcome state event projection
  | .ReviewAuditRequirementsRecorded requirements => record_requirements state event requirements
  | .ReviewDecisionRecorded decision => record_review_decision state event decision
  | .AuditDecisionRecorded decision => record_audit_decision state event decision
  | .CompletionEvidenceRecorded evidence => record_completion_evidence state event evidence
  | .SpecialistOutputRecorded output => record_specialist_output declared_tasks state event output
  | .CoordinatorFinalResponseRecorded response => record_final_response state event response

/-- What every event leaves in the run record. -/
def count_event (state : ReplayState) (event : RunEvent) : ReplayState :=
  { state with
    run_record := { state.run_record with
      event_count := state.run_record.event_count + 1
      last_event_sequence := some event.sequence
      last_event_id := some event.id
      updated_at := if event.sequence > 0 then event.occurred_at else state.run_record.updated_at } }

def apply_event (goal : Option GoalContract) (declared_tasks : BTreeSet TaskId)
    (state : ReplayState) (event : RunEvent) : Except ReplayError ReplayState := do
  let state ← apply_payload goal declared_tasks state event
  pure (count_event state event)

/-! ## The run -/

/-- `if !declared_tasks.insert(..) { return Err(..) }`. -/
def declare_task (sequence : ℕ) (declared_tasks : BTreeSet TaskId) (task_id : TaskId) :
    Except ReplayError (BTreeSet TaskId) := do
  reject_if (task_id ∈ declared_tasks) (.DuplicateDeclaredTask sequence task_id)
  pure (declared_tasks.insert task_id)

def check_goal (goal : GoalContract) (created : RunCreated) : Except ReplayError Unit := do
  reject_if (goal.id ≠ created.goal_id) (.GoalContractIdMismatch created.goal_id goal.id)
  reject_if (goal.project_id ≠ created.project_id)
    (.GoalContractProjectIdMismatch created.project_id goal.project_id)

def initial_state (first : RunEvent) (created : RunCreated) : ReplayState where
  run_record :=
    { contract_version := first.contract_version
      id := first.run_id
      project_id := created.project_id
      goal_id := created.goal_id
      task_ids := created.task_ids
      status := created.status
      event_count := 0
      last_event_sequence := none
      last_event_id := none
      evidence_refs := []
      created_at := created.created_at
      updated_at := created.updated_at
      started_at := created.started_at
      finished_at := created.finished_at }
  execution_plan := none
  task_statuses := .ofList (created.task_ids.map fun task_id => (task_id, TaskStatus.Pending))
  evidence_references := []
  guard_outcomes := []
  review_audit_requirements := none
  review_decisions := []
  audit_decisions := []
  completion_evidence := none
  specialist_outputs := []
  coordinator_final_response := none
  evidence_ids := ∅
  review_decision_ids := ∅
  audit_decision_ids := ∅

/-- The checks before the loop, which give the declared tasks. -/
def declare_run (first : RunEvent) (created : RunCreated) (goal : Option GoalContract) :
    Except ReplayError (BTreeSet TaskId) := do
  reject_if (created.status ≠ .Draft)
    (.InitialRunStatusMismatch first.id .Draft created.status)
  check_some goal fun goal => check_goal goal created
  fold_checked (declare_task first.sequence) ∅ created.task_ids

/-- The payload of an event that creates a run. -/
def created? (event : RunEvent) : Option RunCreated :=
  match event.payload with
  | .RunCreated created => some created
  | _ => none

def replay_run (events : List RunEvent) (goal : Option GoalContract) :
    Except ReplayError ReplayedRun := do
  let _ ← validate_event_chain events
  let first ← ok_or events.head? .EmptyStream
  -- the chain has been found to begin with `RunCreated`
  let created ← ok_or (created? first) (.FirstEventNotRunCreated first.id)
  let declared_tasks ← declare_run first created goal
  let state ← fold_checked (apply_event goal declared_tasks) (initial_state first created) events
  pure state.toReplayedRun

end Replay

end OvcaCore

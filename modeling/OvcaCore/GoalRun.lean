/-
The contracts of a goal run and its transition rules
(`ovca-types/src/goal_runtime.rs`, second half).

A run is an ordered list of events. A goal contract says what has to be shown
before the run may complete, and `validate_run_transition_with_guard_requirements`
is the rule by which a transition is admitted.
-/
import OvcaCore.Types
import OvcaCore.Lib.Checks
import Mathlib.Data.List.Dedup

set_option autoImplicit false

namespace OvcaCore

open OvcaCore.Checks

/-! ## Goals, evidence and decisions -/

inductive RunGuardDecision where
  | Allow (required_gates : BTreeSet GuardRequirement)
  | Pause (required_gates : BTreeSet GuardRequirement)
  | Deny (reasons : BTreeSet GuardDenyReason)
  deriving DecidableEq

structure RunGuardProjection where
  contract_version : ContractVersion
  outcome : RunGuardDecision
  deriving DecidableEq

structure ReviewAuditRequirements where
  contract_version : ContractVersion
  guard_requirements : BTreeSet GuardRequirement
  deriving DecidableEq

structure CompletionPrecondition where
  contract_version : ContractVersion
  minimum_evidence_refs : ℕ
  require_all_acceptance_criteria : Bool
  require_all_verification_criteria : Bool
  deriving DecidableEq, Repr

structure GoalContract where
  contract_version : ContractVersion
  id : GoalId
  project_id : ProjectId
  objective : String
  constraints : List String
  acceptance_criteria : List String
  verification_criteria : List String
  permission_profile : PermissionProfile
  definition_of_done : List String
  completion_precondition : CompletionPrecondition
  created_at : DateTime
  updated_at : DateTime
  deriving DecidableEq, Repr

inductive EvidenceKind where
  | Artifact
  | Document
  | TestResult
  | Log
  | Review
  | Audit
  | ExternalReference
  | Other
  deriving DecidableEq, Repr

structure IntegrityMetadata where
  contract_version : ContractVersion
  algorithm : String
  digest : String
  deriving DecidableEq, Repr

structure EvidenceRef where
  contract_version : ContractVersion
  id : EvidenceId
  kind : EvidenceKind
  reference : String
  producer_role : Role
  integrity : Option IntegrityMetadata
  produced_at : DateTime
  deriving DecidableEq, Repr

inductive CriterionKind where
  | Acceptance
  | Verification
  | DefinitionOfDone
  deriving DecidableEq, Repr

inductive CriterionAssessmentVerdict where
  | Satisfied
  | Unsatisfied
  deriving DecidableEq, Repr

inductive ReviewVerdict where
  | Pass
  | Fail
  deriving DecidableEq, Repr

structure CriterionAssessment where
  contract_version : ContractVersion
  kind : CriterionKind
  criterion : String
  verdict : CriterionAssessmentVerdict
  evidence_refs : List EvidenceId
  rationale : String
  deriving DecidableEq, Repr

structure ReviewDecision where
  contract_version : ContractVersion
  id : ReviewDecisionId
  run_id : RunId
  goal_id : GoalId
  producer_role : Role
  verdict : ReviewVerdict
  assessments : List CriterionAssessment
  summary : String
  decided_at : DateTime
  deriving DecidableEq, Repr

structure AuditDecision where
  contract_version : ContractVersion
  id : AuditDecisionId
  run_id : RunId
  goal_id : GoalId
  review_decision_id : ReviewDecisionId
  producer_role : Role
  verdict : ReviewVerdict
  assessments : List CriterionAssessment
  summary : String
  decided_at : DateTime
  deriving DecidableEq, Repr

inductive ReviewAuditResolution where
  | Pass (review_decision_id : Option ReviewDecisionId) (audit_decision_id : Option AuditDecisionId)
  | AwaitingReview
  | AwaitingAudit (review_decision_id : ReviewDecisionId)
  | Fail (review_decision_id : ReviewDecisionId) (audit_decision_id : Option AuditDecisionId)
  | OwnerEscalation (review_decision_id : ReviewDecisionId) (audit_decision_id : AuditDecisionId)
      (reviewer_verdict auditor_verdict : ReviewVerdict)
  deriving DecidableEq, Repr

structure CompletionEvidence where
  contract_version : ContractVersion
  evidence_refs : List EvidenceId
  satisfied_acceptance_criteria : List String
  satisfied_verification_criteria : List String
  satisfied_definition_of_done : List String
  deriving DecidableEq, Repr

/-! ## Runs and their events -/

inductive RunStatus where
  | Draft
  | Accepted
  | Planned
  | Running
  | AwaitingApproval
  | Reviewing
  | Auditing
  | Completed
  | Failed
  | Cancelled
  deriving DecidableEq, Repr

def RunStatus.is_terminal : RunStatus → Bool
  | .Completed | .Failed | .Cancelled => true
  | _ => false

structure RunRecord where
  contract_version : ContractVersion
  id : RunId
  project_id : ProjectId
  goal_id : GoalId
  task_ids : List TaskId
  status : RunStatus
  event_count : ℕ
  last_event_sequence : Option ℕ
  last_event_id : Option EventId
  evidence_refs : List EvidenceId
  created_at : DateTime
  updated_at : DateTime
  started_at : Option DateTime
  finished_at : Option DateTime
  deriving DecidableEq, Repr

inductive ExecutionMode where
  | Sequential
  | Parallel
  deriving DecidableEq, Repr

structure ExecutionWave where
  index : ℕ
  mode : ExecutionMode
  task_ids : List TaskId
  deriving DecidableEq, Repr

structure ExecutionPlan where
  contract_version : ContractVersion
  waves : List ExecutionWave
  deriving DecidableEq, Repr

structure SpecialistOutput where
  contract_version : ContractVersion
  task_id : TaskId
  specialist_role : Role
  summary : String
  evidence_refs : List EvidenceId
  deriving DecidableEq, Repr

structure CoordinatorFinalResponse where
  contract_version : ContractVersion
  response : String
  evidence_refs : List EvidenceId
  deriving DecidableEq, Repr

/-- The fields of the payload `RunCreated`. -/
structure RunCreated where
  project_id : ProjectId
  goal_id : GoalId
  task_ids : List TaskId
  status : RunStatus
  created_at : DateTime
  updated_at : DateTime
  started_at : Option DateTime
  finished_at : Option DateTime
  deriving DecidableEq, Repr

inductive RunEventPayload where
  | RunCreated (created : RunCreated)
  | ExecutionPlanRecorded (plan : ExecutionPlan)
  | StatusTransition (from_ to_ : RunStatus)
  | TaskStatusChanged (task_id : TaskId) (from_ to_ : TaskStatus)
  | EvidenceAttached (evidence_id : EvidenceId)
  | EvidenceReferenceRecorded (evidence : EvidenceRef)
  | GuardOutcomeRecorded (projection : RunGuardProjection)
  | ReviewAuditRequirementsRecorded (requirements : ReviewAuditRequirements)
  | ReviewDecisionRecorded (decision : ReviewDecision)
  | AuditDecisionRecorded (decision : AuditDecision)
  | CompletionEvidenceRecorded (evidence : CompletionEvidence)
  | SpecialistOutputRecorded (output : SpecialistOutput)
  | CoordinatorFinalResponseRecorded (response : CoordinatorFinalResponse)
  | NoteRecorded (message : String)
  deriving DecidableEq

/-- A `serde_json::Value`: a string, or any other value by its canonical text. -/
inductive JsonValue where
  | String (value : String)
  | Other (text : String)
  deriving DecidableEq, Repr

structure RunEvent where
  contract_version : ContractVersion
  id : EventId
  run_id : RunId
  sequence : ℕ
  previous_event_id : Option EventId
  occurred_at : DateTime
  producer_role : Role
  payload : RunEventPayload
  metadata : BTreeMap String JsonValue
  deriving DecidableEq

/-! ## Transitions -/

/-- The closed table of transitions. -/
def RUN_STATUS_TRANSITIONS : List (RunStatus × RunStatus) :=
  [(.Draft, .Accepted), (.Draft, .Cancelled),
    (.Accepted, .Planned), (.Accepted, .Cancelled),
    (.Planned, .Running), (.Planned, .Cancelled),
    (.Running, .AwaitingApproval), (.Running, .Reviewing), (.Running, .Completed),
    (.Running, .Failed), (.Running, .Cancelled),
    (.AwaitingApproval, .Running), (.AwaitingApproval, .Failed), (.AwaitingApproval, .Cancelled),
    (.Reviewing, .Running), (.Reviewing, .Auditing), (.Reviewing, .Completed),
    (.Reviewing, .Failed), (.Reviewing, .Cancelled),
    (.Auditing, .Reviewing), (.Auditing, .Completed), (.Auditing, .Failed),
    (.Auditing, .Cancelled)]

inductive RunTransitionError where
  | TerminalState (from_ to_ : RunStatus)
  | InvalidTransition (from_ to_ : RunStatus)
  | CompletionContractMissing
  | CompletionEvidenceMissing
  | WrongCompletionGate (from_ required : RunStatus)
  | UnsupportedContractVersion (contract : String) (expected actual : ContractVersion)
  | InsufficientCompletionEvidence (required actual : ℕ)
  | AcceptanceCriteriaUnsatisfied (missing : List String)
  | VerificationCriteriaUnsatisfied (missing : List String)
  | DefinitionOfDoneUnsatisfied (missing : List String)
  deriving DecidableEq, Repr

namespace RunTransition

def validate_contract_version (contract : String) (actual : ContractVersion) :
    Except RunTransitionError Unit :=
  reject_if (actual ≠ GOAL_RUNTIME_CONTRACT_VERSION)
    (.UnsupportedContractVersion contract GOAL_RUNTIME_CONTRACT_VERSION actual)

def required_completion_gate (permission_profile : PermissionProfile)
    (guard_requirements : BTreeSet GuardRequirement) : RunStatus :=
  if permission_profile.audit_required ∨ GuardRequirement.Auditor ∈ guard_requirements then
    .Auditing
  else if permission_profile.review_required
      ∨ GuardRequirement.Reviewer ∈ guard_requirements then
    .Reviewing
  else
    .Running

def missing_criteria (criteria satisfied : List String) : List String :=
  criteria.filter fun criterion => criterion ∉ satisfied

/-- The number of distinct ids, as the `u32` it is cast to. -/
def unique_count (evidence_refs : List EvidenceId) : ℕ :=
  evidence_refs.dedup.length % 2 ^ 32

/-- The checks of a completion, once its goal is there. -/
def validate_completion (from_ : RunStatus) (goal : GoalContract)
    (completion_evidence : Option CompletionEvidence)
    (guard_requirements : BTreeSet GuardRequirement) : Except RunTransitionError Unit := do
  validate_contract_version "goal_contract" goal.contract_version
  validate_contract_version "permission_profile" goal.permission_profile.contract_version
  validate_contract_version "completion_precondition"
    goal.completion_precondition.contract_version
  let required_gate := required_completion_gate goal.permission_profile guard_requirements
  reject_if (from_ ≠ required_gate) (.WrongCompletionGate from_ required_gate)
  let evidence ← ok_or completion_evidence .CompletionEvidenceMissing
  validate_contract_version "completion_evidence" evidence.contract_version
  let required_evidence := max goal.completion_precondition.minimum_evidence_refs 1
  reject_if (unique_count evidence.evidence_refs < required_evidence)
    (.InsufficientCompletionEvidence required_evidence (unique_count evidence.evidence_refs))
  let missing := missing_criteria goal.acceptance_criteria evidence.satisfied_acceptance_criteria
  reject_if (goal.completion_precondition.require_all_acceptance_criteria ∧ missing ≠ [])
    (.AcceptanceCriteriaUnsatisfied missing)
  let missing := missing_criteria goal.verification_criteria
    evidence.satisfied_verification_criteria
  reject_if (goal.completion_precondition.require_all_verification_criteria ∧ missing ≠ [])
    (.VerificationCriteriaUnsatisfied missing)
  let missing := missing_criteria goal.definition_of_done evidence.satisfied_definition_of_done
  reject_if (missing ≠ []) (.DefinitionOfDoneUnsatisfied missing)

def validate_run_transition_with_guard_requirements (from_ to_ : RunStatus)
    (goal_contract : Option GoalContract) (completion_evidence : Option CompletionEvidence)
    (guard_requirements : BTreeSet GuardRequirement) : Except RunTransitionError Unit := do
  reject_if from_.is_terminal (.TerminalState from_ to_)
  reject_if ((from_, to_) ∉ RUN_STATUS_TRANSITIONS) (.InvalidTransition from_ to_)
  if to_ ≠ .Completed then
    pure ()
  else
    let goal ← ok_or goal_contract .CompletionContractMissing
    validate_completion from_ goal completion_evidence guard_requirements

def validate_run_transition (from_ to_ : RunStatus) (goal_contract : Option GoalContract)
    (completion_evidence : Option CompletionEvidence) : Except RunTransitionError Unit :=
  validate_run_transition_with_guard_requirements from_ to_ goal_contract completion_evidence ∅

/-! ## What an admitted transition establishes -/

theorem missing_criteria_eq_nil {criteria satisfied : List String} :
    missing_criteria criteria satisfied = [] ↔ ∀ c ∈ criteria, c ∈ satisfied := by
  simp [missing_criteria, List.filter_eq_nil_iff]

/-- The criteria of a goal that its precondition requires are covered, and there
is enough evidence. The count of the source is a truncation, which can only
make it smaller. -/
structure Covers (goal : GoalContract) (evidence : CompletionEvidence) : Prop where
  enough : max goal.completion_precondition.minimum_evidence_refs 1
    ≤ evidence.evidence_refs.dedup.length
  acceptance : goal.completion_precondition.require_all_acceptance_criteria = true →
    ∀ c ∈ goal.acceptance_criteria, c ∈ evidence.satisfied_acceptance_criteria
  verification : goal.completion_precondition.require_all_verification_criteria = true →
    ∀ c ∈ goal.verification_criteria, c ∈ evidence.satisfied_verification_criteria
  definition_of_done :
    ∀ c ∈ goal.definition_of_done, c ∈ evidence.satisfied_definition_of_done

theorem validate_completion_eq_ok {from_ : RunStatus} {goal : GoalContract}
    {completion_evidence : Option CompletionEvidence}
    {guard_requirements : BTreeSet GuardRequirement} {u : Unit}
    (h : validate_completion from_ goal completion_evidence guard_requirements = .ok u) :
    from_ = required_completion_gate goal.permission_profile guard_requirements ∧
      ∃ evidence, completion_evidence = some evidence ∧ Covers goal evidence := by
  simp only [validate_completion, bind_eq_ok, reject_if_eq_ok, ok_or_eq_ok, exists_const,
    ne_eq, not_not, not_and, missing_criteria_eq_nil, not_lt] at h
  obtain ⟨_, _, _, _, _, _, hgate, evidence, hevidence, _, _, hcount, hacceptance,
    hverification, hdone⟩ := h
  have htruncated : unique_count evidence.evidence_refs ≤ evidence.evidence_refs.dedup.length :=
    Nat.mod_le _ _
  exact ⟨hgate, evidence, hevidence, by omega, hacceptance, hverification, hdone⟩

/-- A terminal status is left by no transition. -/
theorem validate_run_transition_eq_ok {from_ to_ : RunStatus} {goal : Option GoalContract}
    {completion_evidence : Option CompletionEvidence}
    {guard_requirements : BTreeSet GuardRequirement} {u : Unit}
    (h : validate_run_transition_with_guard_requirements from_ to_ goal completion_evidence
      guard_requirements = .ok u) :
    from_.is_terminal = false ∧ (from_, to_) ∈ RUN_STATUS_TRANSITIONS ∧
      (to_ = .Completed → ∃ contract, goal = some contract ∧
        validate_completion from_ contract completion_evidence guard_requirements = .ok ()) := by
  simp only [validate_run_transition_with_guard_requirements, bind_eq_ok, reject_if_eq_ok,
    exists_const, not_not, Bool.not_eq_true] at h
  obtain ⟨hterminal, htable, hrest⟩ := h
  refine ⟨hterminal, htable, fun hto => ?_⟩
  rw [if_neg (not_not.mpr hto)] at hrest
  simp only [bind_eq_ok, ok_or_eq_ok] at hrest
  exact hrest

end RunTransition

end OvcaCore

/-
The durable state of an independent review
(`ovca-runtime-core/src/independent_review.rs`): the calls of the Reviewer and the Auditor,
the resolution of the review, the validator of a state and the one of its successors.

The executor is given a packet together with the role request of its invocation; a call
is bound to the digest of the two.
-/
import OvcaCore.IndependentReview
import Mathlib.Data.List.Destutter
import Mathlib.Data.List.Sort

set_option autoImplicit false

namespace OvcaCore

open OvcaCore.Checks EngineerVerifier

/-- `validate_review_evidence_context`. -/
def ReviewAudit.validate_review_evidence_context (context : ReviewDecisionValidationContext) :
    Except ReviewAuditError Unit := do
  let catalog ← ReviewAudit.validate_context context
  ReviewAudit.validate_completion_catalog context.completion_evidence catalog

/-! ## Requests -/

inductive IndependentRolePacketV1 where
  | Review (packet : ReviewPacketV1)
  | Audit (packet : AuditPacketV1)
  deriving DecidableEq

def IndependentRolePacketV1.digest : IndependentRolePacketV1 → String
  | .Review packet => packet.packet_digest
  | .Audit packet => packet.packet_digest

structure IndependentRoleExecutionRequest where
  packet : IndependentRolePacketV1
  role_request : RoleExecutionRequest
  deriving DecidableEq

structure IndependentExecutionRequestDigestInputV1 where
  packet_digest : String
  invocation : RoleInvocationV1
  attempt : ℕ
  deriving DecidableEq, Repr

def review_execution_request (packet : ReviewPacketV1) : IndependentRoleExecutionRequest where
  packet := .Review packet
  role_request := ⟨packet.reviewer_invocation, 1⟩

def audit_execution_request (packet : AuditPacketV1) : IndependentRoleExecutionRequest where
  packet := .Audit packet
  role_request := ⟨packet.auditor_invocation, 1⟩

/-! ## States -/

inductive IndependentReviewPhaseV1 where
  | Reviewing
  | Auditing
  | ResolvedPass
  | RepairDirected
  | OwnerEscalated
  deriving DecidableEq, Repr

def IndependentReviewPhaseV1.is_terminal : IndependentReviewPhaseV1 → Bool
  | .ResolvedPass | .RepairDirected | .OwnerEscalated => true
  | .Reviewing | .Auditing => false

inductive OwnerEscalationReasonV1 where
  | ReviewerOutcomeUnknown
  | AuditorOutcomeUnknown
  | ReviewerExecutionFailed
  | AuditorExecutionFailed
  | VerdictDisagreement
  | RepairBudgetExhausted
  | EvidenceInvalid
  deriving DecidableEq, Repr

inductive IndependentReviewResolutionV1 where
  | Pass (review_result_digest audit_result_digest : String)
  | Repair (directive_digest : String) (successor_run_id : RunId)
  | OwnerEscalation (reason : OwnerEscalationReasonV1)
  deriving DecidableEq, Repr

inductive IndependentCallStateV1 where
  | NotStarted
  | Started (request_digest : String) (started_at : DateTime)
  | OutcomeRecorded (request_digest : String) (started_at : DateTime)
      (outcome : PersistedRoleExecutionOutcomeV1) (outcome_digest : String)
      (recorded_at : DateTime)
  deriving DecidableEq

namespace IndependentCallStateV1

def is_started : IndependentCallStateV1 → Bool
  | .Started _ _ => true
  | .NotStarted | .OutcomeRecorded _ _ _ _ _ => false

def is_recorded : IndependentCallStateV1 → Bool
  | .OutcomeRecorded _ _ _ _ _ => true
  | .NotStarted | .Started _ _ => false

end IndependentCallStateV1

structure IndependentReviewStateV1 where
  contract_version : ℕ
  phase : IndependentReviewPhaseV1
  review_packet : ReviewPacketV1
  review_call : IndependentCallStateV1
  audit_packet : Option AuditPacketV1
  audit_call : Option IndependentCallStateV1
  repair_directive : Option RepairDirectiveV1
  resolution : Option IndependentReviewResolutionV1
  controller_time : DateTime
  state_digest : String
  deriving DecidableEq

structure IndependentReviewStateDigestInputV1 where
  contract_version : ℕ
  phase : IndependentReviewPhaseV1
  review_packet_digest : String
  review_call : IndependentCallStateV1
  audit_packet_digest : Option String
  audit_call : Option IndependentCallStateV1
  repair_directive_digest : Option String
  resolution : Option IndependentReviewResolutionV1
  controller_time : DateTime
  deriving DecidableEq

/-- The digests of an independent review. -/
structure IndependentReviewDigests (P : Type) extends IndependentContractDigests P where
  execution_request : IndependentExecutionRequestDigestInputV1 → String
  review_state : IndependentReviewStateDigestInputV1 → String

section Validators

variable {P : Type} (sha256 : IndependentReviewDigests P)

/-- A contract error, as the durable state reports it. -/
def of_contract (x : Except IndependentReviewContractError Unit) :
    Except IndependentReviewError Unit := x.mapError fun _ => .Contract

def IndependentRolePacketV1.validate :
    IndependentRolePacketV1 → Except IndependentReviewError Unit
  | .Review packet => of_contract (packet.validate sha256.toIndependentContractDigests)
  | .Audit packet => of_contract (packet.validate sha256.toIndependentContractDigests)

namespace IndependentRoleExecutionRequest

/-- The invocation is the one of the packet, and of its role. -/
def binds_packet (request : IndependentRoleExecutionRequest) : Bool :=
  match request.packet with
  | .Review packet => request.role_request.invocation == packet.reviewer_invocation
      && request.role_request.invocation.target.role == .Reviewer
  | .Audit packet => request.role_request.invocation == packet.auditor_invocation
      && request.role_request.invocation.target.role == .Auditor

def validate (request : IndependentRoleExecutionRequest) : Except IndependentReviewError Unit := do
  request.packet.validate sha256
  reject_if (¬ request.role_request.validate sha256.toControlPlaneDigests) .InvalidExecutionRequest
  reject_if (request.role_request.attempt ≠ 1
    ∨ request.role_request.invocation.budget.max_attempts ≠ 1
    ∨ request.role_request.invocation.authority.permission_profile.write_keys ≠ [])
    .InvalidExecutionRequest
  reject_if (¬ request.binds_packet) .InvalidExecutionRequest

def canonical_digest (request : IndependentRoleExecutionRequest) :
    Except IndependentReviewError String := do
  request.validate sha256
  pure (sha256.execution_request
    { packet_digest := request.packet.digest
      invocation := request.role_request.invocation
      attempt := request.role_request.attempt })

end IndependentRoleExecutionRequest

/-! ## Outcomes -/

def completed_result : IndependentCallStateV1 → Except IndependentReviewError RoleResultV1
  | .OutcomeRecorded _ _ (.Completed result _) _ _ => .ok result
  | _ => .error .InvalidExecutorOutcome

/-- The decision of a Reviewer, and the digest of the packet it is about. -/
def review_decision_from_payload : RoleResultPayloadV1 → Option (String × ReviewDecision)
  | .Reviewer packet_digest decision => some (packet_digest, decision)
  | _ => none

def audit_decision_from_payload : RoleResultPayloadV1 → Option (String × AuditDecision)
  | .Auditor packet_digest decision => some (packet_digest, decision)
  | _ => none

/-- Is the evidence listed for the criterion? -/
def EvidenceManifestV1.lists (manifest : EvidenceManifestV1) (assessment : CriterionAssessment)
    (evidence_id : EvidenceId) : Bool :=
  manifest.entries.any fun entry => entry.criterion_kind == assessment.kind
    && entry.criterion == assessment.criterion && entry.evidence_id == evidence_id

/-- `decision_manifest_bindings(..).is_ok()`. -/
def decision_manifest_bindings (assessments : List CriterionAssessment)
    (manifest : EvidenceManifestV1) : Bool :=
  assessments.all fun assessment => assessment.evidence_refs.all (manifest.lists assessment)

/-- A completed result is the decision of the role on its packet. -/
def decides_packet : IndependentRolePacketV1 → RoleResultPayloadV1 → Bool
  | .Review packet, .Reviewer packet_digest decision =>
    packet_digest == packet.packet_digest && decision.run_id == packet.run_id
      && decision.goal_id == packet.goal_id && decision.producer_role == .Reviewer
      && decision_manifest_bindings decision.assessments packet.evidence_manifest
  | .Audit packet, .Auditor packet_digest decision =>
    packet_digest == packet.packet_digest && decision.run_id == packet.review_packet.run_id
      && decision.goal_id == packet.review_packet.goal_id
      && decision.review_decision_id == packet.review_decision.id
      && decision.producer_role == .Auditor
      && decision_manifest_bindings decision.assessments packet.evidence_manifest
  | _, _ => false

def validate_typed_completed_outcome (packet : IndependentRolePacketV1) :
    PersistedRoleExecutionOutcomeV1 → Except IndependentReviewError Unit
  | .Completed result _ => do
    reject_if (result.state ≠ .Completed) .InvalidExecutorOutcome
    reject_if (¬ decides_packet packet result.payload) .InvalidExecutorOutcome
  | _ => pure ()

namespace IndependentCallStateV1

/-- The checks of a call, given the digest that its request has. -/
def validate_with (expected_digest : String) (request : IndependentRoleExecutionRequest) :
    IndependentCallStateV1 → Except IndependentReviewError Unit
  | .NotStarted => pure ()
  | .Started request_digest started_at =>
    reject_if (request_digest ≠ expected_digest ∨ ¬ is_millisecond_precision started_at)
      .InvalidState
  | .OutcomeRecorded request_digest started_at outcome outcome_digest recorded_at => do
    reject_if (request_digest ≠ expected_digest
      ∨ ¬ is_millisecond_precision started_at
      ∨ ¬ is_millisecond_precision recorded_at
      ∨ recorded_at < started_at
      ∨ sha256.role_outcome outcome ≠ outcome_digest) .InvalidState
    (outcome.validate_against sha256.toEngineerVerifierDigests request.role_request).mapError
      fun _ => .InvalidExecutorOutcome
    validate_typed_completed_outcome request.packet outcome

def validate (request : IndependentRoleExecutionRequest) (call : IndependentCallStateV1) :
    Except IndependentReviewError Unit := do
  let expected_digest ← request.canonical_digest sha256
  call.validate_with sha256 expected_digest request

end IndependentCallStateV1

namespace IndependentReviewStateV1

/-- What the decisions on a candidate are validated against. -/
def context (state : IndependentReviewStateV1) : ReviewDecisionValidationContext where
  expected_run_id := state.review_packet.run_id
  goal_contract := state.review_packet.goal_contract
  completion_evidence := state.review_packet.completion_evidence
  evidence_catalog := state.review_packet.evidence_catalog

def review_decision (state : IndependentReviewStateV1) :
    Except IndependentReviewError ReviewDecision := do
  let result ← completed_result state.review_call
  let decided ← ok_or (review_decision_from_payload result.payload) .InvalidState
  pure decided.2

def completed_decisions (state : IndependentReviewStateV1) :
    Except IndependentReviewError (RoleResultV1 × RoleResultV1 × ReviewDecision × AuditDecision) := do
  let review_result ← completed_result state.review_call
  let audit_call ← ok_or state.audit_call .InvalidState
  let audit_result ← completed_result audit_call
  let review ← ok_or (review_decision_from_payload review_result.payload) .InvalidState
  let audit ← ok_or (audit_decision_from_payload audit_result.payload) .InvalidState
  pure (review_result, audit_result, review.2, audit.2)

/-- Both verdicts, and the digests of both results. -/
def validated_decisions (state : IndependentReviewStateV1) :
    Except IndependentReviewError (ReviewVerdict × ReviewVerdict × String × String) := do
  let (review_result, audit_result, review_decision, audit_decision) ← state.completed_decisions
  let validated_review ← (ReviewAudit.validate_review_decision state.context review_decision).mapError
    fun _ => .InvalidState
  let _ ← (ReviewAudit.validate_audit_decision state.context validated_review
    audit_decision).mapError fun _ => .InvalidState
  pure (review_decision.verdict, audit_decision.verdict, sha256.result review_result,
    sha256.result audit_result)

def validate_audit_packet_binding (state : IndependentReviewStateV1) :
    Except IndependentReviewError Unit :=
  check_some state.audit_packet fun packet => do
    let review_result ← completed_result state.review_call
    let decided ← ok_or (review_decision_from_payload review_result.payload) .InvalidState
    reject_if (packet.review_result_digest ≠ sha256.result review_result
      ∨ packet.review_decision ≠ decided.2) .InvalidState
    let _ ← (ReviewAudit.validate_review_decision state.context decided.2).mapError
      fun _ => .InvalidState
    pure ()

/-- The criteria that one of two decisions leaves unsatisfied, sorted and without
repetition. -/
def unsatisfied_criteria (review : ReviewDecision) (audit : AuditDecision) :
    List UnsatisfiedCriterionV1 :=
  let criteria := ((review.assessments ++ audit.assessments).filter fun assessment =>
    assessment.verdict = .Unsatisfied).map fun assessment =>
      ⟨assessment.kind, assessment.criterion⟩
  (criteria.insertionSort fun a b => a.key ≤ b.key).destutter (· ≠ ·)

def expected_unsatisfied_criteria (state : IndependentReviewStateV1) :
    Except IndependentReviewError (List UnsatisfiedCriterionV1) := do
  let (_, _, review, audit) ← state.completed_decisions
  pure (unsatisfied_criteria review audit)

/-! ## The validator -/

/-- The reason of an escalation goes with what has been recorded. -/
def escalation_holds (state : IndependentReviewStateV1) : OwnerEscalationReasonV1 → Bool
  | .ReviewerOutcomeUnknown => state.audit_packet.isNone && state.review_call.is_started
  | .ReviewerExecutionFailed => state.audit_packet.isNone && state.review_call.is_recorded
      && !ok_and (completed_result state.review_call) fun _ => true
  | .AuditorOutcomeUnknown => state.audit_call.any fun call => call.is_started
  | .AuditorExecutionFailed => state.audit_call.any fun call =>
      call.is_recorded && !ok_and (completed_result call) fun _ => true
  | .VerdictDisagreement => ok_and (state.validated_decisions sha256) fun (review, audit, _, _) =>
      review != audit
  | .RepairBudgetExhausted => ok_and (state.validated_decisions sha256) fun (review, audit, _, _) =>
      (review, audit) == (.Fail, .Fail)
        && state.review_packet.candidate_cycle == state.review_packet.max_repair_cycles
  | .EvidenceInvalid =>
    match state.audit_call with
    | none =>
      match state.review_call with
      | .NotStarted => true
      | .Started _ _ => false
      | .OutcomeRecorded _ _ _ _ _ => state.audit_packet.isNone
          && ok_and state.review_decision fun decision =>
            !ok_and (ReviewAudit.validate_review_decision state.context decision) fun _ => true
    | some .NotStarted => true
    | some (.Started _ _) => false
    | some (.OutcomeRecorded _ _ _ _ _) =>
      !ok_and (state.validated_decisions sha256) fun (review, audit, _, _) =>
        (review, audit) != (.Pass, .Pass)

def validate_owner_escalation (state : IndependentReviewStateV1)
    (reason : OwnerEscalationReasonV1) : Except IndependentReviewError Unit :=
  reject_if (¬ state.escalation_holds sha256 reason) .InvalidState

def validate_repair (state : IndependentReviewStateV1) : Except IndependentReviewError Unit := do
  let (review, audit, review_digest, audit_digest) ← state.validated_decisions sha256
  let directive ← ok_or state.repair_directive .InvalidState
  let audit_packet ← ok_or state.audit_packet .InvalidState
  let criteria ← state.expected_unsatisfied_criteria
  reject_if ((review, audit) ≠ (.Fail, .Fail)
    ∨ state.review_packet.max_repair_cycles ≤ state.review_packet.candidate_cycle
    ∨ directive.review_result_digest ≠ review_digest
    ∨ directive.audit_result_digest ≠ audit_digest
    ∨ directive.audit_packet_digest ≠ audit_packet.packet_digest
    ∨ directive.prior_repair_directive_digest ≠ state.review_packet.prior_repair_directive_digest
    ∨ directive.repair_paths ≠ [state.review_packet.frozen_diff.logical_path]
    ∨ directive.unsatisfied_criteria ≠ criteria) .InvalidState

def validate_terminal_semantics (state : IndependentReviewStateV1) :
    Except IndependentReviewError Unit :=
  match state.phase, state.resolution with
  | .ResolvedPass, some (.Pass review_result_digest audit_result_digest) => do
    let (review, audit, review_digest, audit_digest) ← state.validated_decisions sha256
    reject_if ((review, audit) ≠ (.Pass, .Pass) ∨ review_result_digest ≠ review_digest
      ∨ audit_result_digest ≠ audit_digest) .InvalidState
  | .RepairDirected, some (.Repair _ _) => state.validate_repair sha256
  | .OwnerEscalated, some (.OwnerEscalation reason) => state.validate_owner_escalation sha256 reason
  | .Reviewing, _ => pure ()
  | .Auditing, _ => pure ()
  | _, _ => .error .InvalidState

/-- Which parts of a state go with its phase. -/
def has_shape (state : IndependentReviewStateV1) : Bool :=
  match state.phase, state.resolution with
  | .Reviewing, none => state.audit_packet.isNone && state.audit_call.isNone
      && state.repair_directive.isNone
  | .Auditing, none => state.review_call.is_recorded && state.audit_packet.isSome
      && state.audit_call.isSome && state.repair_directive.isNone
  | .ResolvedPass, some (.Pass _ _) => state.review_call.is_recorded
      && (state.audit_call.any fun call => call.is_recorded) && state.repair_directive.isNone
  | .RepairDirected, some (.Repair _ _) => state.review_call.is_recorded
      && (state.audit_call.any fun call => call.is_recorded) && state.repair_directive.isSome
  | .OwnerEscalated, some (.OwnerEscalation _) => state.repair_directive.isNone
  | _, _ => false

def validate_digest (value : String) : Except IndependentReviewError Unit :=
  reject_if (¬ validate_sha256_digest value) .InvalidDigest

def validate_phase_shape (state : IndependentReviewStateV1) :
    Except IndependentReviewError Unit := do
  reject_if (¬ state.has_shape) .InvalidState
  match state.resolution with
  | some (.Pass review_result_digest audit_result_digest) => do
    validate_digest review_result_digest
    validate_digest audit_result_digest
  | some (.Repair directive_digest successor_run_id) => do
    let directive ← ok_or state.repair_directive .InvalidState
    reject_if (directive_digest ≠ directive.directive_digest
      ∨ successor_run_id ≠ directive.successor_run_id) .InvalidState
  | _ => pure ()

def computed_state_digest (state : IndependentReviewStateV1) : String :=
  sha256.review_state
    { contract_version := state.contract_version
      phase := state.phase
      review_packet_digest := state.review_packet.packet_digest
      review_call := state.review_call
      audit_packet_digest := state.audit_packet.map AuditPacketV1.packet_digest
      audit_call := state.audit_call
      repair_directive_digest := state.repair_directive.map RepairDirectiveV1.directive_digest
      resolution := state.resolution
      controller_time := state.controller_time }

/-- The audit packet and the call with it: both or neither. -/
def validate_audit (state : IndependentReviewStateV1) : Except IndependentReviewError Unit :=
  match state.audit_packet, state.audit_call with
  | some packet, some call => do
    of_contract (packet.validate sha256.toIndependentContractDigests)
    reject_if (packet.review_packet ≠ state.review_packet) .InvalidState
    call.validate sha256 (audit_execution_request packet)
  | none, none => pure ()
  | _, _ => .error .InvalidState

def validate_directive (state : IndependentReviewStateV1) : Except IndependentReviewError Unit :=
  check_some state.repair_directive fun directive => do
    of_contract (directive.validate sha256.toIndependentContractDigests)
    reject_if (directive.failed_run_id ≠ state.review_packet.run_id
      ∨ directive.root_run_id ≠ state.review_packet.root_run_id
      ∨ directive.goal_id ≠ state.review_packet.goal_id
      ∨ directive.task_id ≠ state.review_packet.task_id
      ∨ directive.failed_candidate_cycle ≠ state.review_packet.candidate_cycle
      ∨ directive.max_repair_cycles ≠ state.review_packet.max_repair_cycles
      ∨ directive.review_packet_digest ≠ state.review_packet.packet_digest) .InvalidState

def validate (state : IndependentReviewStateV1) : Except IndependentReviewError Unit := do
  reject_if (state.contract_version ≠ INDEPENDENT_REVIEW_CONTRACT_VERSION
    ∨ ¬ is_millisecond_precision state.controller_time) .InvalidState
  of_contract (state.review_packet.validate sha256.toIndependentContractDigests)
  (ReviewAudit.validate_review_evidence_context state.context).mapError fun _ => .InvalidState
  state.review_call.validate sha256 (review_execution_request state.review_packet)
  state.validate_audit sha256
  state.validate_directive sha256
  state.validate_phase_shape
  state.validate_audit_packet_binding sha256
  state.validate_terminal_semantics sha256
  validate_digest state.state_digest
  reject_if (state.computed_state_digest sha256 ≠ state.state_digest) .InvalidDigest

def validate_initial_install (state : IndependentReviewStateV1) :
    Except IndependentReviewError Unit := do
  state.validate sha256
  reject_if (state.phase ≠ .Reviewing ∨ state.review_call ≠ .NotStarted
    ∨ state.audit_packet.isSome ∨ state.audit_call.isSome ∨ state.repair_directive.isSome
    ∨ state.resolution.isSome) .InvalidTransition

/-! ## Successors -/

/-- The state is escalated to the owner, for this reason. -/
def escalated_for (next : IndependentReviewStateV1) (reason : OwnerEscalationReasonV1) : Bool :=
  next.phase == .OwnerEscalated && next.resolution == some (.OwnerEscalation reason)

/-- A step of the review: its call moves on, or it is left to the audit or the owner. -/
def review_step (state next : IndependentReviewStateV1) : Bool :=
  let stays := next.phase == state.phase && next.audit_packet.isNone && next.audit_call.isNone
    && next.resolution.isNone
  match state.review_call, next.review_call with
  | .NotStarted, .Started _ _ => stays
  | .NotStarted, .NotStarted => next.escalated_for .EvidenceInvalid
  | .Started _ _, .OutcomeRecorded _ _ _ _ _ => stays
  | .Started _ _, after => after == state.review_call && next.escalated_for .ReviewerOutcomeUnknown
  | .OutcomeRecorded _ _ _ _ _, after => after == state.review_call
      && (next.phase == .Auditing && next.audit_packet.isSome
          && next.audit_call == some .NotStarted && next.resolution.isNone
        || next.audit_packet.isNone && next.audit_call.isNone
          && (next.escalated_for .ReviewerExecutionFailed || next.escalated_for .EvidenceInvalid))
  | .NotStarted, .OutcomeRecorded _ _ _ _ _ => false

/-- A step of the audit: its call moves on, or it is resolved. -/
def audit_step (state next : IndependentReviewStateV1) : Bool :=
  let stays := next.phase == state.phase && next.resolution.isNone
  match state.audit_call, next.audit_call with
  | some .NotStarted, some (.Started _ _) => stays
  | some .NotStarted, some .NotStarted => next.escalated_for .EvidenceInvalid
  | some (.Started _ _), some (.OutcomeRecorded _ _ _ _ _) => stays
  | some (.Started _ _), after => after == state.audit_call
      && next.escalated_for .AuditorOutcomeUnknown
  | some (.OutcomeRecorded _ _ _ _ _), after => after == state.audit_call && next.phase.is_terminal
  | _, _ => false

def allowed (state next : IndependentReviewStateV1) : Bool :=
  match state.phase with
  | .Reviewing => state.review_step next
  | .Auditing => state.review_call == next.review_call && state.audit_packet == next.audit_packet
      && state.audit_step next
  | .ResolvedPass | .RepairDirected | .OwnerEscalated => false

def validate_successor (state next : IndependentReviewStateV1) :
    Except IndependentReviewError Unit := do
  state.validate sha256
  next.validate sha256
  reject_if (state.phase.is_terminal = true
    ∨ state.contract_version ≠ next.contract_version
    ∨ state.review_packet ≠ next.review_packet
    ∨ next.controller_time < state.controller_time) .InvalidTransition
  reject_if (¬ state.allowed next) .InvalidTransition

/-- `refresh_digest`. -/
def refresh_digest (state : IndependentReviewStateV1) :
    Except IndependentReviewError IndependentReviewStateV1 := do
  let state := { state with state_digest := state.computed_state_digest sha256 }
  state.validate sha256
  pure state

def initial (review_packet : ReviewPacketV1) (controller_time : DateTime) :
    Except IndependentReviewError IndependentReviewStateV1 := do
  of_contract (review_packet.validate sha256.toIndependentContractDigests)
  let value ← refresh_digest sha256
    { contract_version := INDEPENDENT_REVIEW_CONTRACT_VERSION
      phase := .Reviewing
      review_packet := review_packet
      review_call := .NotStarted
      audit_packet := none
      audit_call := none
      repair_directive := none
      resolution := none
      controller_time := controller_time
      state_digest := "" }
  value.validate_initial_install sha256
  pure value

end IndependentReviewStateV1

end Validators

end OvcaCore

/-
Invocations and results of the four-role control plane
(`ovca-types/src/foundation.rs`, `ovca-types/src/control_plane.rs`,
`ovca-runtime-core/src/role_executor.rs`).

Only what a durable engineer-verifier state holds of these contracts is here.
Its validator maps every error of a nested contract to one of its own, so the
nested validators are predicates: they say whether `validate` returns `Ok`.

A canonical digest is the SHA-256 of the canonical JSON of a value; it is a
function of the value (`ControlPlaneDigests`), and nothing here depends on which.
-/
import OvcaCore.GoalRuntime

set_option autoImplicit false

namespace OvcaCore

/-! ## Text -/

/-- `value.as_bytes()`. -/
def as_bytes (value : String) : List UInt8 := value.toByteArray.data.toList

def is_ascii_digit (byte : UInt8) : Bool := 48 ≤ byte && byte ≤ 57

def is_ascii_alphanumeric (byte : UInt8) : Bool :=
  is_ascii_digit byte || (65 ≤ byte && byte ≤ 90) || (97 ≤ byte && byte ≤ 122)

/-- One of the bytes of `.`, `_`, `:` and `-`. -/
def is_id_punctuation (byte : UInt8) : Bool :=
  byte == 46 || byte == 95 || byte == 58 || byte == 45

/-- `validate_stable_id` of `foundation.rs`: at most 128 bytes, letters, digits and
punctuation, the first of them a letter or a digit. -/
def validate_stable_id (value : String) : Bool :=
  match as_bytes value with
  | [] => false
  | first :: rest => decide ((first :: rest).length ≤ 128) && is_ascii_alphanumeric first
      && rest.all fun byte => is_ascii_alphanumeric byte || is_id_punctuation byte

/-- `validate_sha256_digest`: 64 lower-case hexadecimal digits. -/
def validate_sha256_digest (value : String) : Bool :=
  decide ((as_bytes value).length = 64)
    && (as_bytes value).all fun byte => is_ascii_digit byte || (97 ≤ byte && byte ≤ 102)

/-- No `pair` of `values.windows(2)` has `pair[0] >= pair[1]`. -/
def strictly_ascending : List String → Bool
  | a :: b :: values => decide (a < b) && strictly_ascending (b :: values)
  | _ => true

/-- Neighbours that ascend ascend throughout. -/
theorem strictly_ascending_iff {values : List String} :
    strictly_ascending values = true ↔ values.Pairwise (· < ·) := by
  rw [← List.isChain_iff_pairwise]
  induction values with
  | nil => simp [strictly_ascending]
  | cons a values ih =>
    cases values with
    | nil => simp [strictly_ascending]
    | cons b values =>
      rw [List.isChain_cons_cons, ← ih, strictly_ascending, Bool.and_eq_true, decide_eq_true_eq]

/-! ## Principals, scopes and authorities -/

def FOUNDATION_CONTRACT_VERSION : ℕ := 1

inductive PrincipalV1 where
  | Owner
  | Coordinator
  | Engineer
  | Reviewer
  | Auditor
  deriving DecidableEq, Repr

structure PrincipalIdentityV1 where
  principal_id : String
  role : PrincipalV1
  deriving DecidableEq, Repr

def PrincipalIdentityV1.validate (identity : PrincipalIdentityV1) : Bool :=
  validate_stable_id identity.principal_id

structure FoundationPermissionProfileV1 where
  contract_version : ℕ
  risk_tier : RiskTier
  resource_keys : List String
  write_keys : List String
  approval_required : Bool
  review_required : Bool
  audit_required : Bool
  deriving DecidableEq, Repr

def validate_permission_keys (values : List String) : Bool :=
  values.all validate_stable_id && strictly_ascending values

def FoundationPermissionProfileV1.validate (profile : FoundationPermissionProfileV1) : Bool :=
  profile.contract_version == FOUNDATION_CONTRACT_VERSION
    && validate_permission_keys profile.resource_keys
    && validate_permission_keys profile.write_keys

structure FoundationScopeV1 where
  project_id : String
  goal_id : Option String
  task_id : Option String
  run_id : Option String
  deriving DecidableEq, Repr

def FoundationScopeV1.validate (scope : FoundationScopeV1) : Bool :=
  validate_stable_id scope.project_id && scope.goal_id.all validate_stable_id
    && scope.task_id.all validate_stable_id && scope.run_id.all validate_stable_id
    && !(scope.goal_id.isNone && (scope.task_id.isSome || scope.run_id.isSome)
      || scope.task_id.isNone && scope.run_id.isSome)

inductive FoundationNamespaceV1 where
  | CodeReview
  | KnowledgeReview
  deriving DecidableEq, Repr

inductive FoundationVisibilityV1 where
  | Private
  | RoleScoped
  | Shared
  deriving DecidableEq, Repr

inductive FoundationSensitivityV1 where
  | Public
  | Internal
  | Confidential
  | Restricted
  deriving DecidableEq, Repr

inductive FoundationValidityStatusV1 where
  | Pending
  | Active
  | Rejected
  | Stale
  | Revoked
  | Superseded
  deriving DecidableEq, Repr

structure FoundationValidityV1 where
  status : FoundationValidityStatusV1
  valid_from : DateTime
  valid_until : Option DateTime
  deriving DecidableEq, Repr

def FoundationValidityV1.validate (validity : FoundationValidityV1) : Bool :=
  validity.valid_until.all fun valid_until => decide (validity.valid_from < valid_until)

structure FoundationAuthorityV1 where
  contract_version : ℕ
  authority_id : String
  principal : PrincipalIdentityV1
  scope : FoundationScopeV1
  «namespace» : FoundationNamespaceV1
  permission_profile : FoundationPermissionProfileV1
  visibility : FoundationVisibilityV1
  sensitivity : FoundationSensitivityV1
  validity : FoundationValidityV1
  deriving DecidableEq, Repr

def FoundationAuthorityV1.validate (authority : FoundationAuthorityV1) : Bool :=
  authority.contract_version == FOUNDATION_CONTRACT_VERSION
    && validate_stable_id authority.authority_id && authority.principal.validate
    && authority.scope.validate && authority.permission_profile.validate
    && authority.validity.validate

/-! ## Invocations -/

def CONTROL_PLANE_CONTRACT_VERSION : ℕ := 1

structure ExecutionBudget where
  contract_version : ℕ
  max_attempts : ℕ
  deriving DecidableEq, Repr

def ExecutionBudget.validate (budget : ExecutionBudget) : Bool :=
  budget.contract_version == CONTROL_PLANE_CONTRACT_VERSION && budget.max_attempts != 0

structure RoleInvocationV1 where
  contract_version : ℕ
  invocation_id : String
  invoker : PrincipalIdentityV1
  target : PrincipalIdentityV1
  task_id : TaskId
  run_id : RunId
  scope : FoundationScopeV1
  budget : ExecutionBudget
  idempotency_key : IdempotencyKey
  authority : FoundationAuthorityV1
  authority_digest : String
  input_digest : String
  invoked_at : DateTime
  deriving DecidableEq, Repr

inductive ControlPlaneState where
  | Pending
  | Running
  | Completed
  | Failed
  | Cancelled
  deriving DecidableEq, Repr

def ControlPlaneState.is_terminal : ControlPlaneState → Bool
  | .Completed | .Failed | .Cancelled => true
  | .Pending | .Running => false

inductive RoleResultPayloadV1 where
  | Specialist (summary : String)
  | Reviewer (packet_digest : String) (decision : ReviewDecision)
  | Auditor (packet_digest : String) (decision : AuditDecision)
  | OwnerFinal (response : String)
  | Failure (code message : String)
  | Cancellation (reason : String)
  deriving DecidableEq

structure RoleResultV1 where
  contract_version : ℕ
  result_id : String
  invocation_id : String
  invocation_digest : String
  producer : PrincipalIdentityV1
  task_id : TaskId
  run_id : RunId
  scope : FoundationScopeV1
  idempotency_key : IdempotencyKey
  attempt : ℕ
  state : ControlPlaneState
  payload : RoleResultPayloadV1
  evidence_ids : List EvidenceId
  occurred_at : DateTime
  deriving DecidableEq

/-- The canonical digests of the contracts of the control plane. -/
structure ControlPlaneDigests where
  authority : FoundationAuthorityV1 → String
  invocation : RoleInvocationV1 → String
  result : RoleResultV1 → String

def validate_role_pair (invoker target : PrincipalIdentityV1) : Bool :=
  invoker.principal_id != target.principal_id &&
    match invoker.role, target.role with
    | .Owner, .Coordinator => true
    | .Coordinator, .Engineer | .Coordinator, .Reviewer | .Coordinator, .Auditor => true
    | _, _ => false

def validate_full_scope (scope : FoundationScopeV1) (task_id : TaskId) (run_id : RunId) : Bool :=
  scope.validate && scope.goal_id.isSome && scope.task_id == some task_id
    && scope.run_id == some run_id

namespace RoleInvocationV1

def validate (sha256 : ControlPlaneDigests) (invocation : RoleInvocationV1) : Bool :=
  invocation.contract_version == CONTROL_PLANE_CONTRACT_VERSION
    && validate_stable_id invocation.invocation_id && invocation.invoker.validate
    && invocation.target.validate && validate_stable_id invocation.task_id
    && validate_stable_id invocation.run_id && validate_stable_id invocation.idempotency_key
    && validate_sha256_digest invocation.authority_digest
    && validate_sha256_digest invocation.input_digest && invocation.budget.validate
    && validate_role_pair invocation.invoker invocation.target
    && validate_full_scope invocation.scope invocation.task_id invocation.run_id
    && invocation.authority.validate
    && invocation.authority.namespace == .CodeReview
    && invocation.authority.principal == invocation.invoker
    && invocation.authority.scope == invocation.scope
    && invocation.authority.validity.status == .Active
    && decide (invocation.authority.validity.valid_from ≤ invocation.invoked_at)
    && (invocation.authority.validity.valid_until.all fun valid_until =>
      decide (invocation.invoked_at < valid_until))
    && sha256.authority invocation.authority == invocation.authority_digest

/-- `canonical_digest`, which validates first. -/
def canonical_digest (sha256 : ControlPlaneDigests) (invocation : RoleInvocationV1) :
    Option String :=
  if invocation.validate sha256 then some (sha256.invocation invocation) else none

end RoleInvocationV1

/-! ## Results -/

/-- `char::is_control`: the code points of category Cc. -/
def is_control (c : Char) : Bool := c.toNat < 32 || (127 ≤ c.toNat && c.toNat < 160)

/-- `validate_text` of `control_plane.rs`: trimmed, bounded, and of one line. -/
def validate_canonical_text (value : String) : Bool :=
  match value.toList with
  | [] => false
  | first :: rest => !is_whitespace first && !is_whitespace ((first :: rest).getLast (by simp))
      && decide ((first :: rest).length ≤ 4096) && !(first :: rest).any is_control

def RoleResultPayloadV1.validate : RoleResultPayloadV1 → Bool
  | .Specialist summary => validate_canonical_text summary
  | .Reviewer packet_digest decision =>
    validate_sha256_digest packet_digest && decision.producer_role == .Reviewer
  | .Auditor packet_digest decision =>
    validate_sha256_digest packet_digest && decision.producer_role == .Auditor
  | .OwnerFinal response => validate_canonical_text response
  | .Failure code message => validate_stable_id code && validate_canonical_text message
  | .Cancellation reason => validate_canonical_text reason

def validate_evidence (evidence_ids : List EvidenceId) (required : Bool) : Bool :=
  !(required && evidence_ids.isEmpty) && evidence_ids.all validate_stable_id
    && strictly_ascending evidence_ids

def validate_result_payload :
    ControlPlaneState → PrincipalV1 → RoleResultPayloadV1 → Bool
  | .Completed, .Coordinator, .OwnerFinal _ => true
  | .Completed, .Engineer, .Specialist _ | .Completed, .Reviewer, .Specialist _
  | .Completed, .Auditor, .Specialist _ => true
  | .Completed, .Reviewer, .Reviewer _ _ => true
  | .Completed, .Auditor, .Auditor _ _ => true
  | .Failed, _, .Failure _ _ => true
  | .Cancelled, _, .Cancellation _ => true
  | _, _, _ => false

namespace RoleResultV1

def validate_shape (result : RoleResultV1) : Bool :=
  result.contract_version == CONTROL_PLANE_CONTRACT_VERSION
    && validate_stable_id result.result_id && validate_stable_id result.invocation_id
    && validate_sha256_digest result.invocation_digest && result.producer.validate
    && validate_stable_id result.task_id && validate_stable_id result.run_id
    && result.scope.validate && validate_stable_id result.idempotency_key
    && result.attempt != 0 && result.state.is_terminal && result.payload.validate
    && validate_evidence result.evidence_ids (result.state == .Completed)

def validate_against (sha256 : ControlPlaneDigests) (result : RoleResultV1)
    (invocation : RoleInvocationV1) : Bool :=
  invocation.validate sha256 && result.validate_shape
    && result.invocation_id == invocation.invocation_id
    && invocation.canonical_digest sha256 == some result.invocation_digest
    && result.producer == invocation.target && result.task_id == invocation.task_id
    && result.run_id == invocation.run_id && result.scope == invocation.scope
    && result.idempotency_key == invocation.idempotency_key
    && result.attempt != 0 && decide (result.attempt ≤ invocation.budget.max_attempts)
    && decide (invocation.invoked_at ≤ result.occurred_at)
    && validate_result_payload result.state result.producer.role result.payload

end RoleResultV1

structure RoleExecutionRequest where
  invocation : RoleInvocationV1
  attempt : ℕ
  deriving DecidableEq, Repr

def RoleExecutionRequest.validate (sha256 : ControlPlaneDigests) (request : RoleExecutionRequest) :
    Bool :=
  request.invocation.validate sha256
    && request.invocation.authority.permission_profile.write_keys.isEmpty
    && request.attempt != 0
    && decide (request.attempt ≤ request.invocation.budget.max_attempts)

end OvcaCore

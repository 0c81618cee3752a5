/-
The values of a durable engineer-verifier state
(`ovca-runtime-core/src/engineer_verifier.rs`): the logical plan, the binding of
an attempt, the ledger of resolved effects, the persisted outcome of the
executor, prepared and reconciled writes, the diff bridge and the verifier.

Every digest of the source is the SHA-256 of a domain and the canonical JSON of
a value; `EngineerVerifierDigests` has a function for each of them, of exactly
the fields it is taken of, and nothing here depends on which functions they
are. A byte string is a payload `P`, as in the log.
-/
import OvcaCore.LocalVerification

set_option autoImplicit false

namespace OvcaCore

open OvcaCore.Checks

def ENGINEER_VERIFIER_CONTRACT_VERSION : ℕ := 1

def EMPTY_PAYLOAD_SHA256 : String :=
  "e3b0c44298fc1c149afbf4c8996fb92427ae41e4649b934ca495991b7852b855"

namespace EngineerVerifier

def validate_version (value : ℕ) : Except EngineerVerifierError Unit :=
  reject_if (value ≠ ENGINEER_VERIFIER_CONTRACT_VERSION) .UnsupportedContractVersion

def validate_digest (value : String) : Except EngineerVerifierError Unit :=
  reject_if (¬ validate_sha256_digest value) .InvalidDigest

/-- No digits below the millisecond. -/
def is_millisecond_precision (value : DateTime) : Bool := value % 1000000 == 0

def is_name_byte (byte : UInt8) : Bool :=
  is_ascii_alphanumeric byte || is_id_punctuation byte && byte != 58

def validate_sorted_names (values : List String) : Except EngineerVerifierError Unit := do
  check_all values fun value =>
    reject_if (as_bytes value = [] ∨ ¬ (as_bytes value).all is_name_byte) .InvalidVerifierReplay
  reject_if (¬ strictly_ascending values) .InvalidVerifierReplay

/-- `option_is_monotonic`. -/
def option_is_monotonic {T : Type} [DecidableEq T] (before after : Option T) : Bool :=
  before.isNone || before == after

theorem option_is_monotonic_iff {T : Type} [DecidableEq T] {before after : Option T} :
    option_is_monotonic before after = true ↔ ∀ value, before = some value → after = some value := by
  cases before with
  | none => simp [option_is_monotonic]
  | some value =>
    simp only [option_is_monotonic, Option.isNone_some, Bool.false_or, beq_iff_eq]
    constructor
    · intro h other hother
      rw [← h, hother]
    · intro h
      rw [h value rfl]

end EngineerVerifier

open EngineerVerifier

/-! ## Plans -/

structure PlannedToolEffectTemplateV1 where
  contract_version : ℕ
  ordinal : ℕ
  effect_id : String
  operation : ToolOperationV1
  payload_sha256 : String
  deriving DecidableEq, Repr

def PlannedToolEffectTemplateV1.validate (template : PlannedToolEffectTemplateV1) :
    Except EngineerVerifierError Unit := do
  validate_version template.contract_version
  reject_if (¬ validate_stable_id template.effect_id) .InvalidPlan
  reject_if (¬ template.operation.validate) .InvalidPlan
  reject_if (¬ validate_sha256_digest template.payload_sha256) .InvalidPayload
  match template.operation with
  | .ReadFile _ => reject_if (template.payload_sha256 ≠ EMPTY_PAYLOAD_SHA256) .InvalidPayload
  | .WriteFile _ content_sha256 _ =>
    reject_if (content_sha256 ≠ template.payload_sha256) .InvalidPayload
  | .Unsupported _ _ => .error .InvalidEffectOrder

structure EngineerLogicalPlanV1 where
  contract_version : ℕ
  run_id : RunId
  goal_id : GoalId
  task_id : TaskId
  invocation : RoleInvocationV1
  invocation_digest : String
  ordered_effects : List PlannedToolEffectTemplateV1
  logical_plan_digest : String
  deriving DecidableEq, Repr

structure EngineerLogicalPlanDigestInputV1 where
  contract_version : ℕ
  run_id : RunId
  goal_id : GoalId
  task_id : TaskId
  invocation : RoleInvocationV1
  invocation_digest : String
  ordered_effects : List PlannedToolEffectTemplateV1
  deriving DecidableEq, Repr

structure EngineerExecutionBindingV1 where
  contract_version : ℕ
  invocation_digest : String
  attempt : ℕ
  execution_binding_digest : String
  deriving DecidableEq, Repr

structure EngineerExecutionBindingDigestInputV1 where
  contract_version : ℕ
  invocation_digest : String
  attempt : ℕ
  deriving DecidableEq, Repr

structure DerivedToolIdentityInputV1 where
  contract_version : ℕ
  invocation_digest : String
  logical_plan_digest : String
  effect_id : String
  attempt : ℕ
  deriving DecidableEq, Repr

structure DerivedToolIdentityV1 where
  request_id : String
  idempotency_key : String
  deriving DecidableEq, Repr

/-! ## The ledger -/

inductive ResolvedEffectResolutionV1 where
  | ReadObserved
  | WriteApplied
  | WriteReconciledApplied
  | Denied
  deriving DecidableEq, Repr

structure ResolvedEffectLedgerEntryV1 where
  contract_version : ℕ
  ordinal : ℕ
  effect_id : String
  request_id : String
  request_digest : String
  idempotency_key : String
  resolution : ResolvedEffectResolutionV1
  tool_receipt_digest : Option String
  reconciliation_digest : Option String
  before_snapshot_digest : String
  after_snapshot_digest : String
  deriving DecidableEq, Repr

structure ResolvedEffectLedgerV1 where
  contract_version : ℕ
  run_id : RunId
  goal_id : GoalId
  task_id : TaskId
  invocation_digest : String
  logical_plan_digest : String
  attempt : ℕ
  entries : List ResolvedEffectLedgerEntryV1
  resolved_effect_ledger_digest : String
  deriving DecidableEq, Repr

structure ResolvedEffectLedgerDigestInputV1 where
  contract_version : ℕ
  run_id : RunId
  goal_id : GoalId
  task_id : TaskId
  invocation_digest : String
  logical_plan_digest : String
  attempt : ℕ
  entries : List ResolvedEffectLedgerEntryV1
  deriving DecidableEq, Repr

/-! ## The diff bridge -/

structure WorkspaceDiffPathIdentityV1 where
  logical_path : String
  file : Option WorkspaceFileV1
  deriving DecidableEq, Repr

/-- What the digest of a bridge is taken of. -/
structure WorkspaceDiffBridgeDigestInputV1 where
  contract_version : ℕ
  run_id : RunId
  goal_id : GoalId
  task_id : TaskId
  attempt : ℕ
  broker_before_snapshot_digest : String
  broker_after_snapshot_digest : String
  changed_paths : List String
  before_file_identities : List WorkspaceDiffPathIdentityV1
  after_file_identities : List WorkspaceDiffPathIdentityV1
  verifier_source_manifest_fingerprint : String
  source_copy_digest : String
  snapshot_copy_digest : String
  invocation_digest : String
  engineer_result_digest : String
  command_set_digest : String
  capability_set_digest : String
  policy_digest : String
  environment_digest : String
  deriving DecidableEq, Repr

structure WorkspaceDiffBridgeV1 extends WorkspaceDiffBridgeDigestInputV1 where
  canonical_diff_digest : String
  deriving DecidableEq, Repr

/-! ## The phases -/

inductive EngineerVerifierPhaseV1 where
  | Planned
  | Engineering
  | RetryPending
  | Verifying
  | Reviewing
  | Failed
  | Cancelled
  deriving DecidableEq, Repr

def EngineerVerifierPhaseV1.is_terminal : EngineerVerifierPhaseV1 → Bool
  | .Reviewing | .Failed | .Cancelled => true
  | .Planned | .Engineering | .RetryPending | .Verifying => false

inductive EngineerVerifierTriggerV1 where
  | ClaimAccepted
  | CancellationAccepted
  | EngineerCompleted
  | ExecutorOutcomeUnknown
  | RetryRequired
  | RetryClaimAccepted
  | RetryExhausted
  | FailureRecorded
  | VerificationEvidenceAccepted
  deriving DecidableEq, Repr

def transition_allowed :
    EngineerVerifierPhaseV1 → EngineerVerifierTriggerV1 → EngineerVerifierPhaseV1 → Bool
  | .Planned, .ClaimAccepted, .Engineering => true
  | .Planned, .CancellationAccepted, .Cancelled => true
  | .Engineering, .EngineerCompleted, .Verifying => true
  | .Engineering, .RetryRequired, .RetryPending => true
  | .Engineering, .ExecutorOutcomeUnknown, .Failed => true
  | .Engineering, .FailureRecorded, .Failed => true
  | .Engineering, .CancellationAccepted, .Cancelled => true
  | .RetryPending, .RetryClaimAccepted, .Engineering => true
  | .RetryPending, .RetryExhausted, .Failed => true
  | .RetryPending, .CancellationAccepted, .Cancelled => true
  | .Verifying, .VerificationEvidenceAccepted, .Reviewing => true
  | .Verifying, .FailureRecorded, .Failed => true
  | .Verifying, .CancellationAccepted, .Cancelled => true
  | _, _, _ => false

/-! ## The executor -/

inductive PersistedRoleExecutionUsageV1 where
  | Unavailable
  | Reported (input_units output_units : ℕ)
  deriving DecidableEq, Repr

inductive PersistedRoleRetryCauseV1 where
  | Failed
  | TimedOut
  deriving DecidableEq, Repr

inductive PersistedRoleExecutionOutcomeV1 where
  | Completed (result : RoleResultV1) (usage : PersistedRoleExecutionUsageV1)
  | Failed (result : RoleResultV1) (usage : PersistedRoleExecutionUsageV1)
  | TimedOut (result : RoleResultV1) (usage : PersistedRoleExecutionUsageV1)
  | Cancelled (result : RoleResultV1) (usage : PersistedRoleExecutionUsageV1)
  | RetryRequired (completed_attempt next_attempt : ℕ) (cause : PersistedRoleRetryCauseV1)
      (usage : PersistedRoleExecutionUsageV1)
  deriving DecidableEq

inductive ExecutorCallStateV1 where
  | NotStarted
  | Started (request_digest : String) (attempt : ℕ) (started_at : DateTime)
  | OutcomeRecorded (request_digest : String) (attempt : ℕ) (started_at : DateTime)
      (outcome : PersistedRoleExecutionOutcomeV1) (outcome_digest : String)
      (recorded_at : DateTime)
  deriving DecidableEq

/-! ## Observations, prepared writes and reconciliations -/

structure DurableToolObservationV1 (P : Type) where
  receipt : ToolReceiptV1
  receipt_bytes : P
  receipt_digest : String
  after_snapshot : WorkspaceSnapshotV1
  admitted_at : DateTime
  deriving DecidableEq

structure PreparedWriteEffectV1 where
  contract_version : ℕ
  ordinal : ℕ
  effect_id : String
  request : ToolRequestV1
  request_digest : String
  payload_sha256 : String
  lease_digest : String
  grant_digest : String
  expected_before_snapshot : WorkspaceSnapshotV1
  expected_before_file : Option WorkspaceFileV1
  intended_after_snapshot : WorkspaceSnapshotV1
  intended_after_file : WorkspaceFileV1
  reserved_sequence : ℕ
  prepared_at : DateTime
  deriving DecidableEq, Repr

/-- What the digest of a reconciliation is taken of. -/
structure WriteReconciliationDigestInputV1 where
  contract_version : ℕ
  effect_id : String
  request_digest : String
  expected_before_snapshot_digest : String
  intended_after_snapshot_digest : String
  observed_snapshot_digest : String
  reconciled_at : DateTime
  deriving DecidableEq, Repr

structure WriteReconciliationV1 extends WriteReconciliationDigestInputV1 where
  reconciliation_digest : String
  deriving DecidableEq, Repr

/-! ## The verifier -/

structure VerifierExecutionLimitsV1 where
  timeout_millis : ℕ
  stdout_cap_bytes : ℕ
  stderr_cap_bytes : ℕ
  deriving DecidableEq, Repr

inductive ExpectedInitialProjectionV1 where
  | Absent
  deriving DecidableEq, Repr

/-- What the digest of a replay plan is taken of. -/
structure VerifierReplayPlanDigestInputV1 where
  contract_version : ℕ
  evidence_key : EvidenceKey
  attempt : ℕ
  created_at : DateTime
  implementation_actor : WorkerId
  verifier_actor : WorkerId
  limits : VerifierExecutionLimitsV1
  behavior_sha256 : String
  capabilities_sha256 : String
  selection_sha256 : String
  source_manifest_sha256 : String
  failure_identities_sha256 : String
  executable_profiles_identity_sha256 : String
  environment_names : List String
  environment_digest : String
  sealed_workspace_snapshot_digest : String
  source_manifest_fingerprint : String
  workspace_bridge_digest : String
  expected_initial_projection : ExpectedInitialProjectionV1
  deriving DecidableEq, Repr

structure VerifierReplayPlanV1 extends VerifierReplayPlanDigestInputV1 where
  replay_plan_digest : String
  deriving DecidableEq, Repr

/-- A publication of the verifier, as both of its last states carry it. -/
structure VerifierPublication where
  replay_plan_digest : String
  transcript : VerificationTranscriptIdentity
  transcript_digest : String
  bundle : VerificationBundle
  bundle_record_digest : String
  evidence_current : EvidenceCurrent
  observed_at : DateTime
  deriving DecidableEq, Repr

inductive VerifierExecutionStateV1 where
  | NotStarted (replay_plan_digest : String)
  | Started (replay_plan_digest : String) (started_at : DateTime)
  | PublicationObserved (publication : VerifierPublication)
  | Admitted (publication : VerifierPublication) (admitted_at : DateTime)
  deriving DecidableEq, Repr

def VerifierExecutionStateV1.transcript_digest : VerifierExecutionStateV1 → Option String
  | .PublicationObserved publication | .Admitted publication _ =>
    some publication.transcript_digest
  | .NotStarted _ | .Started _ _ => none

/-! ## Projections, workspaces and cancellations -/

structure EngineerVerifierPhaseProjectionV1 where
  contract_version : ℕ
  run_id : RunId
  goal_id : GoalId
  task_id : TaskId
  from_ : EngineerVerifierPhaseV1
  to_ : EngineerVerifierPhaseV1
  trigger : EngineerVerifierTriggerV1
  phase_revision : ℕ
  attempt : ℕ
  execution_binding_digest : String
  logical_plan_digest : String
  state_digest : String
  resolved_effect_ledger_digest : String
  engineer_result_digest : Option String
  verifier_transcript_digest : Option String
  controller_time : DateTime
  deriving DecidableEq, Repr

structure PhaseEventIdentityInputV1 where
  contract_version : ℕ
  run_id : RunId
  goal_id : GoalId
  task_id : TaskId
  phase_revision : ℕ
  from_ : EngineerVerifierPhaseV1
  to_ : EngineerVerifierPhaseV1
  trigger : EngineerVerifierTriggerV1
  attempt : ℕ
  state_digest : String
  deriving DecidableEq, Repr

structure PendingPhaseProjectionV1 (P : Type) where
  event_id : String
  sequence : ℕ
  previous_event_id : Option String
  event_bytes : P
  event_digest : String
  deriving DecidableEq, Repr

structure DurableWorkspaceAuthorityV1 where
  lease : WorkspaceLeaseV1
  lease_digest : String
  initial_snapshot : WorkspaceSnapshotV1
  grant : CapabilityGrantV1
  grant_digest : String
  current_snapshot : WorkspaceSnapshotV1
  recovery_token : String
  runtime_instance_id : String
  fence : ℕ
  runtime_epoch : ℕ
  heartbeat_at : DateTime
  next_receipt_sequence : ℕ
  cleanup_required : Bool
  closed : Bool
  deriving DecidableEq, Repr

structure CancellationRecordV1 where
  request_id : String
  requested_at : DateTime
  deriving DecidableEq, Repr

structure EngineerVerifierStateDigestInputV1 where
  contract_version : ℕ
  run_id : RunId
  goal_id : GoalId
  task_id : TaskId
  phase : EngineerVerifierPhaseV1
  phase_revision : ℕ
  attempt : ℕ
  logical_plan_digest : String
  execution_binding_digest : String
  resolved_effect_ledger_digest : String
  engineer_result_digest : Option String
  verifier_transcript_digest : Option String
  deriving DecidableEq, Repr

/-- The digests of the contract, each of the fields it is taken of, and the
bytes of a receipt. -/
structure EngineerVerifierDigests (P : Type) extends VerificationDigests where
  bytes : P → String
  receipt_bytes : ToolReceiptV1 → P
  logical_plan : EngineerLogicalPlanDigestInputV1 → String
  execution_binding : EngineerExecutionBindingDigestInputV1 → String
  tool_request : DerivedToolIdentityInputV1 → String
  tool_idempotency : DerivedToolIdentityInputV1 → String
  resolved_ledger : ResolvedEffectLedgerDigestInputV1 → String
  role_outcome : PersistedRoleExecutionOutcomeV1 → String
  workspace_diff : WorkspaceDiffBridgeDigestInputV1 → String
  reconciliation : WriteReconciliationDigestInputV1 → String
  verifier_replay : VerifierReplayPlanDigestInputV1 → String
  state : EngineerVerifierStateDigestInputV1 → String
  phase_event : PhaseEventIdentityInputV1 → String

/-! ## Validating a plan -/

section Validation

variable {P : Type} (sha256 : EngineerVerifierDigests P)

namespace EngineerLogicalPlanV1

def computed_logical_plan_digest (plan : EngineerLogicalPlanV1) : String :=
  sha256.logical_plan
    { contract_version := plan.contract_version
      run_id := plan.run_id
      goal_id := plan.goal_id
      task_id := plan.task_id
      invocation := plan.invocation
      invocation_digest := plan.invocation_digest
      ordered_effects := plan.ordered_effects }

/-- An effect of the plan: its ordinal is its position, its id is new, and a
write is the last of them. -/
def validate_effect (effects : List PlannedToolEffectTemplateV1) (index : ℕ)
    (effect : PlannedToolEffectTemplateV1) : Except EngineerVerifierError Unit := do
  effect.validate
  reject_if (U32_MAX < index) .Overflow
  reject_if (effect.ordinal ≠ index
    ∨ effect.effect_id ∈ (effects.take index).map PlannedToolEffectTemplateV1.effect_id)
    .InvalidEffectOrder
  match effect.operation with
  | .ReadFile _ => pure ()
  | .WriteFile _ _ _ => reject_if (index + 1 ≠ effects.length) .InvalidEffectOrder
  | .Unsupported _ _ => .error .InvalidEffectOrder

def validate_without_digest (plan : EngineerLogicalPlanV1) :
    Except EngineerVerifierError Unit := do
  validate_version plan.contract_version
  reject_if (¬ validate_stable_id plan.run_id) .InvalidPlan
  reject_if (¬ validate_stable_id plan.goal_id) .InvalidPlan
  reject_if (¬ validate_stable_id plan.task_id) .InvalidPlan
  reject_if (¬ plan.invocation.validate sha256.toControlPlaneDigests) .InvalidPlan
  validate_digest plan.invocation_digest
  reject_if (plan.invocation.target.role ≠ .Engineer
    ∨ plan.invocation.run_id ≠ plan.run_id
    ∨ plan.invocation.task_id ≠ plan.task_id
    ∨ plan.invocation.scope.goal_id ≠ some plan.goal_id
    ∨ plan.invocation.scope.task_id ≠ some plan.task_id
    ∨ plan.invocation.scope.run_id ≠ some plan.run_id
    ∨ plan.invocation.canonical_digest sha256.toControlPlaneDigests
      ≠ some plan.invocation_digest) .InvalidBinding
  check_enumerated plan.ordered_effects (validate_effect plan.ordered_effects)

def validate (plan : EngineerLogicalPlanV1) : Except EngineerVerifierError Unit := do
  plan.validate_without_digest sha256
  validate_digest plan.logical_plan_digest
  reject_if (plan.computed_logical_plan_digest sha256 ≠ plan.logical_plan_digest) .InvalidDigest

end EngineerLogicalPlanV1

namespace EngineerExecutionBindingV1

def computed_digest (binding : EngineerExecutionBindingV1) : String :=
  sha256.execution_binding
    { contract_version := binding.contract_version
      invocation_digest := binding.invocation_digest
      attempt := binding.attempt }

def validate_without_digest (binding : EngineerExecutionBindingV1) :
    Except EngineerVerifierError Unit := do
  validate_version binding.contract_version
  validate_digest binding.invocation_digest
  reject_if (binding.attempt = 0) .InvalidBinding

def validate (binding : EngineerExecutionBindingV1) : Except EngineerVerifierError Unit := do
  binding.validate_without_digest
  validate_digest binding.execution_binding_digest
  reject_if (binding.computed_digest sha256 ≠ binding.execution_binding_digest) .InvalidDigest

def try_new (invocation_digest : String) (attempt : ℕ) :
    Except EngineerVerifierError EngineerExecutionBindingV1 := do
  let value : EngineerExecutionBindingV1 :=
    { contract_version := ENGINEER_VERIFIER_CONTRACT_VERSION
      invocation_digest := invocation_digest
      attempt := attempt
      execution_binding_digest := "" }
  value.validate_without_digest
  pure { value with execution_binding_digest := value.computed_digest sha256 }

end EngineerExecutionBindingV1

def derive_tool_identity (plan : EngineerLogicalPlanV1) (effect_id : String) (attempt : ℕ) :
    Except EngineerVerifierError DerivedToolIdentityV1 := do
  plan.validate sha256
  reject_if (attempt = 0 ∨ plan.invocation.budget.max_attempts < attempt) .InvalidBinding
  let effect ← ok_or (plan.ordered_effects.find? fun candidate => candidate.effect_id = effect_id)
    .InvalidPlan
  let input : DerivedToolIdentityInputV1 :=
    { contract_version := ENGINEER_VERIFIER_CONTRACT_VERSION
      invocation_digest := plan.invocation_digest
      logical_plan_digest := plan.logical_plan_digest
      effect_id := effect.effect_id
      attempt := attempt }
  let request_id := "request." ++ sha256.tool_request input
  let idempotency_key := "idempotency." ++ sha256.tool_idempotency input
  reject_if (¬ validate_stable_id request_id ∨ ¬ validate_stable_id idempotency_key)
    .InvalidBinding
  pure ⟨request_id, idempotency_key⟩

/-! ## Validating a ledger -/

namespace ResolvedEffectLedgerEntryV1

/-- A write that was applied, by its receipt or by a reconciliation. -/
def is_applied_write (entry : ResolvedEffectLedgerEntryV1) : Bool :=
  entry.resolution == .WriteApplied || entry.resolution == .WriteReconciledApplied

/-- A reconciled entry has the digest of its reconciliation, any other the one of
its receipt. -/
def valid_identity (entry : ResolvedEffectLedgerEntryV1) : Bool :=
  match entry.resolution with
  | .ReadObserved | .WriteApplied | .Denied =>
    entry.tool_receipt_digest.isSome && entry.reconciliation_digest.isNone
  | .WriteReconciledApplied =>
    entry.tool_receipt_digest.isNone && entry.reconciliation_digest.isSome

/-- Exactly an applied write changes the snapshot. -/
def valid_snapshots (entry : ResolvedEffectLedgerEntryV1) : Bool :=
  match entry.resolution with
  | .ReadObserved | .Denied => entry.before_snapshot_digest == entry.after_snapshot_digest
  | .WriteApplied | .WriteReconciledApplied =>
    entry.before_snapshot_digest != entry.after_snapshot_digest

def validate (entry : ResolvedEffectLedgerEntryV1) : Except EngineerVerifierError Unit := do
  validate_version entry.contract_version
  check_all [entry.effect_id, entry.request_id, entry.idempotency_key] fun value =>
    reject_if (¬ validate_stable_id value) .InvalidLedger
  check_all [entry.request_digest, entry.before_snapshot_digest, entry.after_snapshot_digest]
    validate_digest
  check_some entry.tool_receipt_digest validate_digest
  check_some entry.reconciliation_digest validate_digest
  reject_if (¬ entry.valid_identity) .InvalidLedger
  reject_if (¬ entry.valid_snapshots) .InvalidLedger

end ResolvedEffectLedgerEntryV1

namespace ResolvedEffectLedgerV1

def computed_digest (ledger : ResolvedEffectLedgerV1) : String :=
  sha256.resolved_ledger
    { contract_version := ledger.contract_version
      run_id := ledger.run_id
      goal_id := ledger.goal_id
      task_id := ledger.task_id
      invocation_digest := ledger.invocation_digest
      logical_plan_digest := ledger.logical_plan_digest
      attempt := ledger.attempt
      entries := ledger.entries }

/-- An entry of the ledger: it resolves the effect of the plan at its position,
and nothing stands behind a denied one. -/
def validate_entry (plan : EngineerLogicalPlanV1) (ledger : ResolvedEffectLedgerV1) (index : ℕ)
    (entry : ResolvedEffectLedgerEntryV1) : Except EngineerVerifierError Unit := do
  entry.validate
  reject_if (U32_MAX < index) .Overflow
  let template ← ok_or plan.ordered_effects[index]? .InvalidLedger
  let identity ← derive_tool_identity sha256 plan template.effect_id ledger.attempt
  reject_if ((predecessor none ledger.entries index).any (fun prior => prior.resolution == .Denied)
    ∨ entry.ordinal ≠ index
    ∨ entry.effect_id ≠ template.effect_id
    ∨ entry.request_id ≠ identity.request_id
    ∨ entry.idempotency_key ≠ identity.idempotency_key) .InvalidLedger

def validate_without_digest (plan : EngineerLogicalPlanV1) (ledger : ResolvedEffectLedgerV1) :
    Except EngineerVerifierError Unit := do
  plan.validate sha256
  validate_version ledger.contract_version
  reject_if (ledger.run_id ≠ plan.run_id ∨ ledger.goal_id ≠ plan.goal_id
    ∨ ledger.task_id ≠ plan.task_id ∨ ledger.invocation_digest ≠ plan.invocation_digest
    ∨ ledger.logical_plan_digest ≠ plan.logical_plan_digest
    ∨ ledger.attempt = 0 ∨ plan.invocation.budget.max_attempts < ledger.attempt
    ∨ plan.ordered_effects.length < ledger.entries.length) .InvalidLedger
  check_enumerated ledger.entries (validate_entry sha256 plan ledger)

def validate_against (plan : EngineerLogicalPlanV1) (ledger : ResolvedEffectLedgerV1) :
    Except EngineerVerifierError Unit := do
  ledger.validate_without_digest sha256 plan
  validate_digest ledger.resolved_effect_ledger_digest
  reject_if (ledger.computed_digest sha256 ≠ ledger.resolved_effect_ledger_digest) .InvalidDigest

def empty (plan : EngineerLogicalPlanV1) (attempt : ℕ) :
    Except EngineerVerifierError ResolvedEffectLedgerV1 := do
  plan.validate sha256
  let value : ResolvedEffectLedgerV1 :=
    { contract_version := ENGINEER_VERIFIER_CONTRACT_VERSION
      run_id := plan.run_id
      goal_id := plan.goal_id
      task_id := plan.task_id
      invocation_digest := plan.invocation_digest
      logical_plan_digest := plan.logical_plan_digest
      attempt := attempt
      entries := []
      resolved_effect_ledger_digest := "" }
  value.validate_without_digest sha256 plan
  pure { value with resolved_effect_ledger_digest := value.computed_digest sha256 }

end ResolvedEffectLedgerV1

end Validation

end OvcaCore

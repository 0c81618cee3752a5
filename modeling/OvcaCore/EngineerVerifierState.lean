/-
The durable engineer-verifier state and its validation
(`ovca-runtime-core/src/engineer_verifier.rs`).

`validate` is the long conjunction of the source, one part a definition, in the
order of the source; each part fails with the error it has there.
-/
import OvcaCore.EngineerVerifier

set_option autoImplicit false

namespace OvcaCore

open OvcaCore.Checks EngineerVerifier

section Validation

variable {P : Type} (sha256 : EngineerVerifierDigests P)

/-! ## The executor -/

/-- `input_units.checked_add(output_units)`. -/
def PersistedRoleExecutionUsageV1.validate :
    PersistedRoleExecutionUsageV1 → Except EngineerVerifierError Unit
  | .Unavailable => pure ()
  | .Reported input_units output_units =>
    reject_if (U64_MAX < input_units + output_units) .Overflow

namespace PersistedRoleExecutionOutcomeV1

def result : PersistedRoleExecutionOutcomeV1 → Option RoleResultV1
  | .Completed result _ | .Failed result _ | .TimedOut result _ | .Cancelled result _ => some result
  | .RetryRequired _ _ _ _ => none

def usage : PersistedRoleExecutionOutcomeV1 → PersistedRoleExecutionUsageV1
  | .Completed _ usage | .Failed _ usage | .TimedOut _ usage | .Cancelled _ usage
  | .RetryRequired _ _ _ usage => usage

/-- The state that the result of an outcome has to be in. -/
def expected_state : PersistedRoleExecutionOutcomeV1 → ControlPlaneState
  | .Completed _ _ => .Completed
  | .Failed _ _ | .TimedOut _ _ | .RetryRequired _ _ _ _ => .Failed
  | .Cancelled _ _ => .Cancelled

/-- A retry is of the attempt that was made, and the next one is within the budget. -/
def validate_retry (request : RoleExecutionRequest) :
    PersistedRoleExecutionOutcomeV1 → Except EngineerVerifierError Unit
  | .RetryRequired completed_attempt next_attempt _ _ => do
    reject_if (U32_MAX < request.attempt + 1) .Overflow
    reject_if (completed_attempt ≠ request.attempt ∨ next_attempt ≠ request.attempt + 1
      ∨ request.invocation.budget.max_attempts < next_attempt) .InvalidExecutorOutcome
  | _ => pure ()

def validate_against (request : RoleExecutionRequest) (outcome : PersistedRoleExecutionOutcomeV1) :
    Except EngineerVerifierError Unit := do
  reject_if (¬ request.validate sha256.toControlPlaneDigests) .InvalidExecutorOutcome
  outcome.validate_retry request
  outcome.usage.validate
  check_some outcome.result fun result => do
    reject_if (¬ result.validate_against sha256.toControlPlaneDigests request.invocation)
      .InvalidExecutorOutcome
    reject_if (result.attempt ≠ request.attempt ∨ result.state ≠ outcome.expected_state)
      .InvalidExecutorOutcome

end PersistedRoleExecutionOutcomeV1

def validate_executor_binding (request_digest : String) (attempt : ℕ) (started_at : DateTime)
    (binding : EngineerExecutionBindingV1) : Except EngineerVerifierError Unit :=
  reject_if (request_digest ≠ binding.execution_binding_digest ∨ attempt ≠ binding.attempt
    ∨ ¬ is_millisecond_precision started_at) .InvalidExecutorOutcome

def ExecutorCallStateV1.validate (binding : EngineerExecutionBindingV1)
    (invocation : RoleInvocationV1) (executor : ExecutorCallStateV1) :
    Except EngineerVerifierError Unit := do
  binding.validate sha256
  match executor with
  | .NotStarted => pure ()
  | .Started request_digest attempt started_at =>
    validate_executor_binding request_digest attempt started_at binding
  | .OutcomeRecorded request_digest attempt started_at outcome outcome_digest recorded_at => do
    validate_executor_binding request_digest attempt started_at binding
    reject_if (recorded_at < started_at ∨ sha256.role_outcome outcome ≠ outcome_digest)
      .InvalidExecutorOutcome
    outcome.validate_against sha256 ⟨invocation, attempt⟩

/-! ## Observations, prepared writes and reconciliations -/

def DurableToolObservationV1.validate [DecidableEq P] (observation : DurableToolObservationV1 P) :
    Except EngineerVerifierError Unit := do
  reject_if (¬ observation.receipt.validate) .InvalidLedger
  reject_if (¬ observation.after_snapshot.validate sha256.toToolBoundaryDigests) .InvalidLedger
  reject_if (sha256.receipt_bytes observation.receipt ≠ observation.receipt_bytes
    ∨ sha256.bytes observation.receipt_bytes ≠ observation.receipt_digest
    ∨ observation.receipt.after_snapshot_digest ≠ observation.after_snapshot.snapshot_digest
    ∨ observation.receipt.after_generation ≠ observation.after_snapshot.generation
    ∨ ¬ is_millisecond_precision observation.admitted_at) .InvalidLedger

/-- The files with one of them replaced, or inserted where the order has it. -/
def with_file (file : WorkspaceFileV1) : List WorkspaceFileV1 → List WorkspaceFileV1
  | [] => [file]
  | other :: files =>
    if other.logical_path = file.logical_path then file :: files
    else if file.logical_path < other.logical_path then file :: other :: files
    else other :: with_file file files

namespace PreparedWriteEffectV1

/-- The write that the prepared request asks for, and the two snapshots around it. -/
def validate_write (prepared : PreparedWriteEffectV1) (logical_path content_sha256 : String)
    (byte_length : ℕ) : Except EngineerVerifierError Unit :=
  let before := prepared.expected_before_snapshot
  let after := prepared.intended_after_snapshot
  reject_if (prepared.request.canonical_digest sha256.toToolBoundaryDigests
      ≠ some prepared.request_digest
    ∨ prepared.request.lease_digest ≠ prepared.lease_digest
    ∨ prepared.request.grant_digest ≠ prepared.grant_digest
    ∨ prepared.request.expected_snapshot_digest ≠ before.snapshot_digest
    ∨ U64_MAX < before.generation + 1 ∨ before.generation + 1 ≠ after.generation
    ∨ before.workspace_id ≠ after.workspace_id
    ∨ before.lease_id ≠ after.lease_id
    ∨ prepared.intended_after_file.logical_path ≠ logical_path
    ∨ prepared.intended_after_file.sha256 ≠ content_sha256
    ∨ prepared.intended_after_file.byte_length ≠ byte_length
    ∨ prepared.payload_sha256 ≠ content_sha256
    ∨ before.files.find? (fun file => file.logical_path = logical_path)
      ≠ prepared.expected_before_file
    ∨ prepared.expected_before_file = some prepared.intended_after_file
    ∨ after.files ≠ with_file { prepared.intended_after_file with logical_path := logical_path }
      before.files
    ∨ prepared.reserved_sequence = 0
    ∨ ¬ is_millisecond_precision prepared.prepared_at) .InvalidLedger

def validate (prepared : PreparedWriteEffectV1) : Except EngineerVerifierError Unit := do
  validate_version prepared.contract_version
  reject_if (¬ validate_stable_id prepared.effect_id) .InvalidLedger
  reject_if (¬ prepared.request.validate) .InvalidLedger
  check_all [prepared.request_digest, prepared.payload_sha256, prepared.lease_digest,
    prepared.grant_digest] validate_digest
  reject_if (¬ prepared.expected_before_snapshot.validate sha256.toToolBoundaryDigests
    ∨ ¬ prepared.intended_after_snapshot.validate sha256.toToolBoundaryDigests) .InvalidLedger
  check_some prepared.expected_before_file fun file => reject_if (¬ file.validate) .InvalidLedger
  reject_if (¬ prepared.intended_after_file.validate) .InvalidLedger
  match prepared.request.operation with
  | .WriteFile logical_path content_sha256 byte_length =>
    prepared.validate_write sha256 logical_path content_sha256 byte_length
  | .ReadFile _ | .Unsupported _ _ => .error .InvalidLedger

end PreparedWriteEffectV1

def WriteReconciliationV1.validate (reconciliation : WriteReconciliationV1) :
    Except EngineerVerifierError Unit := do
  validate_version reconciliation.contract_version
  reject_if (¬ validate_stable_id reconciliation.effect_id) .InvalidLedger
  check_all [reconciliation.request_digest, reconciliation.expected_before_snapshot_digest,
    reconciliation.intended_after_snapshot_digest, reconciliation.observed_snapshot_digest,
    reconciliation.reconciliation_digest] validate_digest
  reject_if (reconciliation.expected_before_snapshot_digest
      = reconciliation.intended_after_snapshot_digest
    ∨ reconciliation.observed_snapshot_digest ≠ reconciliation.intended_after_snapshot_digest
    ∨ ¬ is_millisecond_precision reconciliation.reconciled_at
    ∨ sha256.reconciliation reconciliation.toWriteReconciliationDigestInputV1
      ≠ reconciliation.reconciliation_digest) .InvalidLedger

/-! ## The diff bridge -/

def WorkspaceDiffPathIdentityV1.validate (allow_absence : Bool)
    (identity : WorkspaceDiffPathIdentityV1) : Except EngineerVerifierError Unit := do
  reject_if (¬ validate_logical_path identity.logical_path) .InvalidWorkspaceDiff
  match identity.file with
  | some file =>
    reject_if (file.logical_path ≠ identity.logical_path ∨ ¬ file.validate) .InvalidWorkspaceDiff
  | none => reject_if (¬ allow_absence) .InvalidWorkspaceDiff

namespace WorkspaceDiffBridgeV1

/-- A changed path with the identities of its file before and after. -/
def validate_path (path : String) (before after : WorkspaceDiffPathIdentityV1) :
    Except EngineerVerifierError Unit := do
  reject_if (before.logical_path ≠ path ∨ after.logical_path ≠ path) .InvalidWorkspaceDiff
  before.validate true
  after.validate false
  reject_if (before.file = after.file) .InvalidWorkspaceDiff

def validate (bridge : WorkspaceDiffBridgeV1) : Except EngineerVerifierError Unit := do
  validate_version bridge.contract_version
  reject_if (bridge.attempt = 0
    ∨ bridge.changed_paths.length ≠ bridge.before_file_identities.length
    ∨ bridge.changed_paths.length ≠ bridge.after_file_identities.length) .InvalidWorkspaceDiff
  check_all [bridge.broker_before_snapshot_digest, bridge.broker_after_snapshot_digest,
    bridge.verifier_source_manifest_fingerprint, bridge.source_copy_digest,
    bridge.snapshot_copy_digest, bridge.invocation_digest, bridge.engineer_result_digest,
    bridge.command_set_digest, bridge.capability_set_digest, bridge.policy_digest,
    bridge.environment_digest, bridge.canonical_diff_digest] validate_digest
  reject_if (¬ strictly_ascending bridge.changed_paths) .InvalidWorkspaceDiff
  check_all (bridge.changed_paths.zip
      (bridge.before_file_identities.zip bridge.after_file_identities)) fun p =>
    validate_path p.1 p.2.1 p.2.2
  reject_if (bridge.changed_paths = []
    ∧ bridge.broker_before_snapshot_digest ≠ bridge.broker_after_snapshot_digest)
    .InvalidWorkspaceDiff
  reject_if (sha256.workspace_diff bridge.toWorkspaceDiffBridgeDigestInputV1
    ≠ bridge.canonical_diff_digest) .InvalidDigest

end WorkspaceDiffBridgeV1

/-! ## The verifier -/

def VerifierExecutionLimitsV1.validate (limits : VerifierExecutionLimitsV1) :
    Except EngineerVerifierError Unit :=
  reject_if (limits.timeout_millis = 0 ∨ 86400000 < limits.timeout_millis
    ∨ 16777216 < limits.stdout_cap_bytes ∨ 16777216 < limits.stderr_cap_bytes)
    .InvalidVerifierReplay

def VerifierReplayPlanV1.validate (plan : VerifierReplayPlanV1) :
    Except EngineerVerifierError Unit := do
  validate_version plan.contract_version
  reject_if (plan.attempt = 0 ∨ plan.implementation_actor = plan.verifier_actor
    ∨ ¬ is_millisecond_precision plan.created_at) .InvalidVerifierReplay
  check_all [plan.evidence_key.run_id, plan.evidence_key.goal_id, plan.evidence_key.task_id,
    plan.implementation_actor, plan.verifier_actor] fun id =>
      reject_if (¬ validate_stable_id id) .InvalidVerifierReplay
  plan.limits.validate
  check_all [plan.behavior_sha256, plan.capabilities_sha256, plan.selection_sha256,
    plan.source_manifest_sha256, plan.failure_identities_sha256,
    plan.executable_profiles_identity_sha256, plan.environment_digest,
    plan.sealed_workspace_snapshot_digest, plan.source_manifest_fingerprint,
    plan.workspace_bridge_digest, plan.replay_plan_digest] validate_digest
  validate_sorted_names plan.environment_names
  reject_if (sha256.verifier_replay plan.toVerifierReplayPlanDigestInputV1
    ≠ plan.replay_plan_digest) .InvalidDigest

def validate_replay_identity (digest : String) (plan : VerifierReplayPlanV1) :
    Except EngineerVerifierError Unit :=
  reject_if (digest ≠ plan.replay_plan_digest) .InvalidVerifierReplay

/-- `validate_publication`, with the time of admission if there is one. -/
def validate_publication (publication : VerifierPublication) (admitted_at : Option DateTime)
    (plan : VerifierReplayPlanV1) : Except EngineerVerifierError Unit := do
  validate_replay_identity publication.replay_plan_digest plan
  validate_digest publication.transcript_digest
  validate_digest publication.bundle_record_digest
  reject_if (¬ publication.bundle.validate) .InvalidVerifierReplay
  reject_if (¬ publication.evidence_current.validate_state_digest sha256.toVerificationDigests)
    .InvalidVerifierReplay
  let digest ← ok_or (publication.transcript.sha256 sha256.toVerificationDigests)
    .InvalidVerifierReplay
  reject_if (digest ≠ publication.transcript_digest
    ∨ sha256.bundle publication.bundle ≠ publication.bundle_record_digest
    ∨ publication.evidence_current.key ≠ plan.evidence_key
    ∨ publication.evidence_current.record_digest ≠ publication.bundle_record_digest
    ∨ publication.evidence_current.bundle_id ≠ publication.bundle.bundle_id
    ∨ publication.bundle.run_id ≠ plan.evidence_key.run_id
    ∨ publication.bundle.goal_id ≠ plan.evidence_key.goal_id
    ∨ publication.bundle.task_id ≠ plan.evidence_key.task_id
    ∨ publication.bundle.implementation_actor ≠ plan.implementation_actor
    ∨ publication.bundle.verifier_actor ≠ plan.verifier_actor
    ∨ ¬ is_millisecond_precision publication.observed_at
    ∨ admitted_at.any (fun at_ =>
      decide (at_ < publication.observed_at) || !is_millisecond_precision at_))
    .InvalidVerifierReplay

def VerifierExecutionStateV1.validate (plan : VerifierReplayPlanV1)
    (verifier : VerifierExecutionStateV1) : Except EngineerVerifierError Unit := do
  plan.validate sha256
  match verifier with
  | .NotStarted replay_plan_digest => validate_replay_identity replay_plan_digest plan
  | .Started replay_plan_digest started_at => do
    validate_replay_identity replay_plan_digest plan
    reject_if (¬ is_millisecond_precision started_at) .InvalidVerifierReplay
  | .PublicationObserved publication => validate_publication sha256 publication none plan
  | .Admitted publication admitted_at =>
    validate_publication sha256 publication (some admitted_at) plan

/-! ## Projections, workspaces and cancellations -/

namespace EngineerVerifierPhaseProjectionV1

def validate (projection : EngineerVerifierPhaseProjectionV1) :
    Except EngineerVerifierError Unit := do
  validate_version projection.contract_version
  reject_if (projection.phase_revision = 0 ∨ projection.attempt = 0
    ∨ ¬ transition_allowed projection.from_ projection.trigger projection.to_
    ∨ ¬ is_millisecond_precision projection.controller_time) .InvalidProjection
  check_all [projection.execution_binding_digest, projection.logical_plan_digest,
    projection.state_digest, projection.resolved_effect_ledger_digest] validate_digest
  check_some projection.engineer_result_digest validate_digest
  check_some projection.verifier_transcript_digest validate_digest

def identity (projection : EngineerVerifierPhaseProjectionV1) : PhaseEventIdentityInputV1 where
  contract_version := projection.contract_version
  run_id := projection.run_id
  goal_id := projection.goal_id
  task_id := projection.task_id
  phase_revision := projection.phase_revision
  from_ := projection.from_
  to_ := projection.to_
  trigger := projection.trigger
  attempt := projection.attempt
  state_digest := projection.state_digest

end EngineerVerifierPhaseProjectionV1

def derive_phase_event_id (projection : EngineerVerifierPhaseProjectionV1) :
    Except EngineerVerifierError String := do
  projection.validate
  let event_id := "event." ++ sha256.phase_event projection.identity
  reject_if (¬ validate_stable_id event_id) .InvalidProjection
  pure event_id

def PendingPhaseProjectionV1.validate (pending : PendingPhaseProjectionV1 P) :
    Except EngineerVerifierError Unit := do
  reject_if (¬ validate_stable_id pending.event_id) .InvalidProjection
  check_some pending.previous_event_id fun previous =>
    reject_if (¬ validate_stable_id previous) .InvalidProjection
  reject_if (decide (pending.sequence = 0) ≠ pending.previous_event_id.isNone
    ∨ sha256.bytes pending.event_bytes ≠ pending.event_digest) .InvalidProjection
  validate_digest pending.event_digest

def authority_authorizes_time (authority : FoundationAuthorityV1) (at_ : DateTime) : Bool :=
  authority.validity.status == .Active && decide (authority.validity.valid_from ≤ at_)
    && authority.validity.valid_until.all fun valid_until => decide (at_ < valid_until)

namespace DurableWorkspaceAuthorityV1

def authorizes_time (workspace : DurableWorkspaceAuthorityV1) (invocation : RoleInvocationV1)
    (at_ : DateTime) : Bool :=
  decide (workspace.lease.issued_at ≤ at_) && decide (at_ < workspace.lease.expires_at)
    && decide (workspace.grant.valid_from ≤ at_) && decide (at_ < workspace.grant.valid_until)
    && authority_authorizes_time invocation.authority at_
    && authority_authorizes_time workspace.grant.grant_authority at_

def validate (workspace : DurableWorkspaceAuthorityV1) : Except EngineerVerifierError Unit := do
  reject_if (¬ workspace.lease.validate
    ∨ ¬ workspace.initial_snapshot.validate sha256.toToolBoundaryDigests
    ∨ ¬ workspace.grant.validate sha256.toToolBoundaryDigests
    ∨ ¬ workspace.current_snapshot.validate sha256.toToolBoundaryDigests) .InvalidBinding
  validate_digest workspace.lease_digest
  validate_digest workspace.grant_digest
  reject_if (¬ validate_stable_id workspace.recovery_token) .InvalidBinding
  reject_if (¬ validate_stable_id workspace.runtime_instance_id) .InvalidBinding
  reject_if (workspace.lease.canonical_digest sha256.toToolBoundaryDigests
      ≠ some workspace.lease_digest
    ∨ workspace.grant.canonical_digest sha256.toToolBoundaryDigests ≠ some workspace.grant_digest
    ∨ workspace.initial_snapshot.snapshot_digest ≠ workspace.lease.initial_snapshot_digest
    ∨ workspace.initial_snapshot.workspace_id ≠ workspace.lease.workspace_id
    ∨ workspace.initial_snapshot.lease_id ≠ workspace.lease.lease_id
    ∨ workspace.initial_snapshot.generation ≠ 0
    ∨ workspace.grant.lease_id ≠ workspace.lease.lease_id
    ∨ workspace.grant.lease_digest ≠ workspace.lease_digest
    ∨ workspace.grant.snapshot_digest ≠ workspace.initial_snapshot.snapshot_digest
    ∨ workspace.current_snapshot.workspace_id ≠ workspace.lease.workspace_id
    ∨ workspace.current_snapshot.lease_id ≠ workspace.lease.lease_id
    ∨ workspace.fence = 0 ∨ workspace.runtime_epoch = 0 ∨ workspace.next_receipt_sequence = 0
    ∨ ¬ is_millisecond_precision workspace.heartbeat_at
    ∨ workspace.closed ∧ workspace.cleanup_required) .InvalidBinding

end DurableWorkspaceAuthorityV1

def CancellationRecordV1.validate (cancellation : CancellationRecordV1) :
    Except EngineerVerifierError Unit := do
  reject_if (¬ validate_stable_id cancellation.request_id) .InvalidState
  reject_if (¬ is_millisecond_precision cancellation.requested_at) .InvalidState

end Validation

/-! ## The state -/

structure EngineerVerifierStateV1 (P : Type) where
  contract_version : ℕ
  run_id : RunId
  goal_id : GoalId
  task_id : TaskId
  plan : EngineerLogicalPlanV1
  phase : EngineerVerifierPhaseV1
  phase_revision : ℕ
  attempt : ℕ
  execution_binding : EngineerExecutionBindingV1
  executor : ExecutorCallStateV1
  workspace : Option DurableWorkspaceAuthorityV1
  ledger : ResolvedEffectLedgerV1
  prepared_write : Option PreparedWriteEffectV1
  tool_observations : List (DurableToolObservationV1 P)
  write_reconciliation : Option WriteReconciliationV1
  engineer_result : Option RoleResultV1
  engineer_result_digest : Option String
  workspace_bridge : Option WorkspaceDiffBridgeV1
  cancellation : Option CancellationRecordV1
  pending_projection : Option (PendingPhaseProjectionV1 P)
  projected_sequence : Option ℕ
  projected_event_id : Option String
  verifier_replay_plan : Option VerifierReplayPlanV1
  verifier : Option VerifierExecutionStateV1
  controller_time : DateTime
  state_digest : String
  deriving DecidableEq

namespace EngineerVerifierStateV1

section State

variable {P : Type} [DecidableEq P] (sha256 : EngineerVerifierDigests P)

/-- The transcript digest of the verifier, if it has published. -/
def transcript_digest (state : EngineerVerifierStateV1 P) : Option String :=
  state.verifier.bind VerifierExecutionStateV1.transcript_digest

def computed_state_digest (state : EngineerVerifierStateV1 P) : String :=
  sha256.state
    { contract_version := state.contract_version
      run_id := state.run_id
      goal_id := state.goal_id
      task_id := state.task_id
      phase := state.phase
      phase_revision := state.phase_revision
      attempt := state.attempt
      logical_plan_digest := state.plan.logical_plan_digest
      execution_binding_digest := state.execution_binding.execution_binding_digest
      resolved_effect_ledger_digest := state.ledger.resolved_effect_ledger_digest
      engineer_result_digest := state.engineer_result_digest
      verifier_transcript_digest := state.transcript_digest }

def validate_identity (state : EngineerVerifierStateV1 P) : Except EngineerVerifierError Unit :=
  reject_if (state.run_id ≠ state.plan.run_id ∨ state.goal_id ≠ state.plan.goal_id
    ∨ state.task_id ≠ state.plan.task_id ∨ state.attempt ≠ state.execution_binding.attempt
    ∨ state.attempt ≠ state.ledger.attempt
    ∨ state.plan.invocation.budget.max_attempts < state.attempt
    ∨ ¬ is_millisecond_precision state.controller_time) .InvalidState

def validate_workspace (state : EngineerVerifierStateV1 P) : Except EngineerVerifierError Unit :=
  check_some state.workspace fun workspace => do
    workspace.validate sha256
    reject_if (workspace.lease.attempt ≠ state.attempt
      ∨ workspace.lease.invocation_digest ≠ state.plan.invocation_digest
      ∨ ¬ workspace.authorizes_time state.plan.invocation workspace.heartbeat_at) .InvalidState

/-- A prepared write is the next effect of the plan, on the current snapshot of
the open workspace. -/
def validate_prepared (state : EngineerVerifierStateV1 P) : Except EngineerVerifierError Unit :=
  check_some state.prepared_write fun prepared => do
    prepared.validate sha256
    let template ← ok_or state.plan.ordered_effects[prepared.ordinal]? .InvalidState
    let identity ← derive_tool_identity sha256 state.plan prepared.effect_id state.attempt
    let workspace ← ok_or state.workspace .InvalidState
    reject_if (state.ledger.entries.length ≠ prepared.ordinal
      ∨ template.effect_id ≠ prepared.effect_id
      ∨ template.operation ≠ prepared.request.operation
      ∨ template.payload_sha256 ≠ prepared.payload_sha256
      ∨ prepared.request.request_id ≠ identity.request_id
      ∨ prepared.request.idempotency_key ≠ identity.idempotency_key
      ∨ prepared.request.invocation_digest ≠ state.plan.invocation_digest
      ∨ prepared.request.attempt ≠ state.attempt
      ∨ prepared.request.lease_digest ≠ workspace.lease_digest
      ∨ prepared.request.grant_digest ≠ workspace.grant_digest
      ∨ prepared.expected_before_snapshot ≠ workspace.current_snapshot
      ∨ prepared.reserved_sequence ≠ workspace.next_receipt_sequence
      ∨ prepared.expected_before_file = some prepared.intended_after_file) .InvalidState

/-- The entries with a receipt, each with the digest of it. -/
def observed_entries (entries : List ResolvedEffectLedgerEntryV1) :
    List (ResolvedEffectLedgerEntryV1 × String) :=
  entries.filterMap fun entry => entry.tool_receipt_digest.map fun digest => (entry, digest)

/-- The observation of an entry: the same receipt, request and snapshot. -/
def observes (entry : ResolvedEffectLedgerEntryV1 × String)
    (observation : DurableToolObservationV1 P) : Bool :=
  entry.2 == observation.receipt_digest && entry.1.request_id == observation.receipt.request_id
    && entry.1.after_snapshot_digest == observation.after_snapshot.snapshot_digest

def validate_observations (state : EngineerVerifierStateV1 P) :
    Except EngineerVerifierError Unit := do
  check_all state.tool_observations fun observation => observation.validate sha256
  let observed_entries := observed_entries state.ledger.entries
  reject_if (observed_entries.length ≠ state.tool_observations.length
    ∨ (observed_entries.zip state.tool_observations).any fun p => !observes p.1 p.2) .InvalidState

def validate_reconciliation (state : EngineerVerifierStateV1 P) :
    Except EngineerVerifierError Unit :=
  check_some state.write_reconciliation fun reconciliation => do
    reconciliation.validate sha256
    reject_if (¬ state.ledger.entries.any fun entry =>
      entry.reconciliation_digest == some reconciliation.reconciliation_digest
        && entry.effect_id == reconciliation.effect_id
        && entry.request_digest == reconciliation.request_digest) .InvalidState

def validate_result (state : EngineerVerifierStateV1 P) : Except EngineerVerifierError Unit :=
  match state.engineer_result, state.engineer_result_digest with
  | some result, some digest => do
    reject_if (¬ result.validate_against sha256.toControlPlaneDigests state.plan.invocation)
      .InvalidState
    reject_if (result.attempt ≠ state.attempt ∨ ¬ result.validate_shape
      ∨ sha256.result result ≠ digest) .InvalidState
  | none, none => pure ()
  | _, _ => .error .InvalidState

def validate_bridge (state : EngineerVerifierStateV1 P) : Except EngineerVerifierError Unit :=
  check_some state.workspace_bridge fun bridge => do
    bridge.validate sha256
    reject_if (bridge.run_id ≠ state.run_id ∨ bridge.goal_id ≠ state.goal_id
      ∨ bridge.task_id ≠ state.task_id ∨ bridge.attempt ≠ state.attempt
      ∨ some bridge.engineer_result_digest ≠ state.engineer_result_digest) .InvalidState

def validate_projections (state : EngineerVerifierStateV1 P) :
    Except EngineerVerifierError Unit := do
  check_some state.cancellation fun cancellation => cancellation.validate
  check_some state.pending_projection fun pending => pending.validate sha256
  reject_if (state.projected_sequence.isSome ≠ state.projected_event_id.isSome) .InvalidState
  check_some state.projected_event_id fun id => reject_if (¬ validate_stable_id id) .InvalidState

def validate_verifier (state : EngineerVerifierStateV1 P) : Except EngineerVerifierError Unit :=
  match state.verifier_replay_plan, state.verifier with
  | some plan, some verifier => verifier.validate sha256 plan
  | none, none => pure ()
  | _, _ => .error .InvalidState

def has_completed_result (state : EngineerVerifierStateV1 P) : Bool :=
  state.engineer_result.any fun result => result.state == .Completed

def effects_complete (state : EngineerVerifierStateV1 P) : Bool :=
  state.ledger.entries.length == state.plan.ordered_effects.length
    && state.ledger.entries.all fun entry => entry.resolution != .Denied

def is_not_started : ExecutorCallStateV1 → Bool
  | .NotStarted => true
  | _ => false

/-- The executor was started without an outcome, or its outcome was not a
completion. -/
def executor_without_result : ExecutorCallStateV1 → Bool
  | .Started _ _ _ => true
  | .OutcomeRecorded _ _ _ (.Completed _ _) _ _ => false
  | .OutcomeRecorded _ _ _ _ _ _ => true
  | .NotStarted => false

def is_admitted : VerifierExecutionStateV1 → Bool
  | .Admitted _ _ => true
  | _ => false

/-- An engineering state may have a closed workspace only before any effect, and
only on its way out of the phase. -/
def closing (state : EngineerVerifierStateV1 P) : Bool :=
  state.ledger.entries.isEmpty && state.prepared_write.isNone
    && (state.cancellation.isSome || executor_without_result state.executor)

/-- The table of the phases: what a state has to have in each. -/
def phase_consistent (state : EngineerVerifierStateV1 P) : Bool :=
  match state.phase with
  | .Planned => state.phase_revision == 0 && is_not_started state.executor
      && state.ledger.entries.isEmpty && state.engineer_result.isNone && state.workspace.isNone
  | .Verifying => state.has_completed_result && state.effects_complete
      && state.prepared_write.isNone && state.workspace_bridge.isSome
      && state.verifier_replay_plan.isSome && state.verifier.isSome
  | .Reviewing => state.has_completed_result && state.effects_complete
      && state.prepared_write.isNone && state.workspace_bridge.isSome
      && state.verifier.any is_admitted
  | .Engineering => state.workspace.any fun workspace => !workspace.closed || state.closing
  | .RetryPending => (state.workspace.any fun workspace => workspace.closed)
      && state.ledger.entries.isEmpty && state.prepared_write.isNone
  | .Failed | .Cancelled => true

def validate (state : EngineerVerifierStateV1 P) : Except EngineerVerifierError Unit := do
  validate_version state.contract_version
  state.plan.validate sha256
  state.execution_binding.validate sha256
  state.ledger.validate_against sha256 state.plan
  state.validate_identity
  state.executor.validate sha256 state.execution_binding state.plan.invocation
  state.validate_workspace sha256
  state.validate_prepared sha256
  state.validate_observations sha256
  state.validate_reconciliation sha256
  state.validate_result sha256
  state.validate_bridge sha256
  state.validate_projections sha256
  state.validate_verifier sha256
  reject_if (¬ state.phase_consistent) .InvalidState
  validate_digest state.state_digest
  reject_if (state.computed_state_digest sha256 ≠ state.state_digest) .InvalidDigest

/-- `refresh_digest`, which validates the state it has refreshed. -/
def refresh_digest (state : EngineerVerifierStateV1 P) :
    Except EngineerVerifierError (EngineerVerifierStateV1 P) := do
  let state := { state with state_digest := state.computed_state_digest sha256 }
  state.validate sha256
  pure state

/-- A first state: a plan at its first attempt, with nothing done. -/
def planned (plan : EngineerLogicalPlanV1) (controller_time : DateTime) :
    Except EngineerVerifierError (EngineerVerifierStateV1 P) := do
  plan.validate sha256
  reject_if (¬ is_millisecond_precision controller_time) .InvalidState
  let execution_binding ← EngineerExecutionBindingV1.try_new sha256 plan.invocation_digest 1
  let ledger ← ResolvedEffectLedgerV1.empty sha256 plan 1
  let state : EngineerVerifierStateV1 P :=
    { contract_version := ENGINEER_VERIFIER_CONTRACT_VERSION
      run_id := plan.run_id
      goal_id := plan.goal_id
      task_id := plan.task_id
      plan := plan
      phase := .Planned
      phase_revision := 0
      attempt := 1
      execution_binding := execution_binding
      executor := .NotStarted
      workspace := none
      ledger := ledger
      prepared_write := none
      tool_observations := []
      write_reconciliation := none
      engineer_result := none
      engineer_result_digest := none
      workspace_bridge := none
      cancellation := none
      pending_projection := none
      projected_sequence := none
      projected_event_id := none
      verifier_replay_plan := none
      verifier := none
      controller_time := controller_time
      state_digest := "" }
  state.refresh_digest sha256

end State

end EngineerVerifierStateV1

end OvcaCore

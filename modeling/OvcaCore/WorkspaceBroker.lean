/-
The broker of disposable workspaces (`ovca-runtime-core/src/workspace_capability.rs`),
for the leases that are bound to the durable authority: its registry, and every
operation but the execution of tool requests.

Left out are the leases without a durable binding, the host paths, and the canonical
bytes that a record keeps beside the value they are the bytes of.
-/
import OvcaCore.WorkspaceOwnership

set_option autoImplicit false

namespace OvcaCore

open OvcaCore.Checks OvcaCore.Interleaving EngineerVerifier

/-! ## The registry of a broker -/

structure TrustedWorkspaceLease where
  broker_nonce : ℕ
  registry_token : ℕ
  observation : WorkspaceLeaseV1
  digest : String
  initial_snapshot : WorkspaceSnapshotV1
  deriving DecidableEq, Repr

structure TrustedCapabilityGrant where
  broker_nonce : ℕ
  registry_token : ℕ
  observation : CapabilityGrantV1
  digest : String
  deriving DecidableEq, Repr

structure TrustedToolReceipt where
  broker_nonce : ℕ
  observation : ToolReceiptV1
  deriving DecidableEq, Repr

structure ToolExecutionResult (P : Type) where
  receipt : TrustedToolReceipt
  read_bytes : Option P

structure LeaseRecord where
  registry_token : ℕ
  dto : WorkspaceLeaseV1
  digest : String
  invocation : RoleInvocationV1
  state : WorkspaceLeaseState
  snapshot : WorkspaceSnapshotV1
  initial_snapshot : WorkspaceSnapshotV1
  durable_binding : DurableLeaseBinding
  deriving DecidableEq

/-- The root of a lease is named when its binding is made. -/
def LeaseRecord.root (record : LeaseRecord) : RecoveryRoot := record.durable_binding.root

structure GrantRecord where
  registry_token : ℕ
  dto : CapabilityGrantV1
  digest : String
  deriving DecidableEq

structure IdempotencyRecord (P : Type) where
  canonical_request : ToolRequestV1
  result : ToolExecutionResult P
  conflicts : List (ToolRequestV1 × ToolExecutionResult P)

/-- What a broker works with: the digests, the lengths of bytes, the digests of paths, and
which roots overlap a protected one. -/
structure WorkspaceBackend (P : Type) where
  sha256 : EngineerVerifierDigests P
  byte_length : P → ℕ
  path_digest : String → String
  overlaps_protected_root : RecoveryRoot → Bool

structure WorkspaceCapabilityBroker (P : Type) where
  runtime_instance_id : String
  broker_nonce : ℕ
  leases : BTreeMap String LeaseRecord
  grants : BTreeMap String GrantRecord
  idempotency : BTreeMap String (IdempotencyRecord P)
  next_registry_token : ℕ
  next_sequence : ℕ
  backend_calls : ℕ

/-- What an operation on a broker leaves: its answer, and the broker after it. -/
abbrev BrokerResult (P α : Type) :=
  Except WorkspaceCapabilityError α × WorkspaceCapabilityBroker P

namespace WorkspaceCapabilityBroker

variable {P R : Type} (backend : WorkspaceBackend P)

/-! ## Checks on the registry -/

def validate_registry_lease (record : LeaseRecord) : Except WorkspaceCapabilityError Unit := do
  reject_if (¬ record.dto.validate) .InvalidLease
  let invocation_digest ← ok_or
    (record.invocation.canonical_digest backend.sha256.toControlPlaneDigests) .InvalidInvocation
  reject_if (backend.sha256.lease record.dto ≠ record.digest
    ∨ record.invocation.invocation_id ≠ record.dto.invocation_id
    ∨ invocation_digest ≠ record.dto.invocation_digest
    ∨ record.dto.attempt = 0
    ∨ record.invocation.budget.max_attempts < record.dto.attempt
    ∨ record.dto.scope ≠ record.invocation.scope
    ∨ record.initial_snapshot.snapshot_digest ≠ record.dto.initial_snapshot_digest
    ∨ record.initial_snapshot.workspace_id ≠ record.dto.workspace_id
    ∨ record.initial_snapshot.lease_id ≠ record.dto.lease_id
    ∨ record.initial_snapshot.generation ≠ 0
    ∨ record.snapshot.workspace_id ≠ record.dto.workspace_id
    ∨ record.snapshot.lease_id ≠ record.dto.lease_id
    ∨ record.snapshot.generation < record.initial_snapshot.generation) .InvalidLease
  reject_if (¬ record.initial_snapshot.validate backend.sha256.toToolBoundaryDigests
    ∨ ¬ record.snapshot.validate backend.sha256.toToolBoundaryDigests) .InvalidLease

def validate_registry_grant (record : GrantRecord) : Except WorkspaceCapabilityError Unit := do
  reject_if (¬ record.dto.validate backend.sha256.toToolBoundaryDigests) .InvalidGrant
  reject_if (backend.sha256.grant record.dto ≠ record.digest) .InvalidGrant

def window_contains_authority (authority : FoundationAuthorityV1)
    (valid_from valid_until : DateTime) : Bool :=
  authority.validity.status == .Active && decide (authority.validity.valid_from ≤ valid_from)
    && authority.validity.valid_until.all fun until_ => decide (valid_until ≤ until_)

/-- `expected_read_permission_keys` and `expected_write_permission_keys`. -/
def expected_permission_keys (kind : String) (paths : List String) :
    Except WorkspaceCapabilityError (List String) := do
  reject_if (¬ validate_path_list paths) .InvalidGrant
  pure ((paths.map fun path => kind ++ ":" ++ backend.path_digest path).mergeSort)

def validate_grant_binding (execution : RoleExecutionRequest) (lease : LeaseRecord)
    (grant : CapabilityGrantV1) : Except WorkspaceCapabilityError Unit := do
  let invocation := execution.invocation
  let invocation_digest ← ok_or
    (invocation.canonical_digest backend.sha256.toControlPlaneDigests) .InvalidInvocation
  reject_if (¬ invocation.authority.validate) .InvalidInvocation
  let expected_reads ← expected_permission_keys backend "workspace.read" grant.read_paths
  let expected_writes ← expected_permission_keys backend "workspace.write" grant.write_paths
  reject_if (lease.invocation ≠ invocation
    ∨ grant.invocation_id ≠ invocation.invocation_id
    ∨ grant.invocation_digest ≠ invocation_digest
    ∨ grant.attempt ≠ execution.attempt
    ∨ execution.attempt ≠ lease.dto.attempt
    ∨ grant.issuer ≠ invocation.invoker
    ∨ grant.issuer.role ≠ .Coordinator
    ∨ grant.grantee ≠ invocation.target
    ∨ grant.scope ≠ invocation.scope
    ∨ grant.lease_id ≠ lease.dto.lease_id
    ∨ grant.lease_digest ≠ lease.digest
    ∨ grant.workspace_id ≠ lease.dto.workspace_id
    ∨ grant.snapshot_digest ≠ lease.snapshot.snapshot_digest
    ∨ grant.grant_authority.authority_id = invocation.authority.authority_id
    ∨ grant.grant_authority_digest = invocation.authority_digest
    ∨ grant.grant_authority_digest = backend.sha256.authority invocation.authority
    ∨ grant.grant_authority.principal ≠ invocation.invoker
    ∨ grant.grant_authority.namespace ≠ .CodeReview
    ∨ grant.grant_authority.scope ≠ invocation.authority.scope
    ∨ grant.grant_authority.scope ≠ invocation.scope
    ∨ grant.grant_authority.visibility ≠ invocation.authority.visibility
    ∨ grant.grant_authority.sensitivity ≠ invocation.authority.sensitivity
    ∨ grant.grant_authority.validity.status ≠ .Active
    ∨ grant.grant_authority.permission_profile.resource_keys ≠ expected_reads
    ∨ grant.grant_authority.permission_profile.write_keys ≠ expected_writes
    ∨ ¬ window_contains_authority invocation.authority grant.valid_from grant.valid_until
    ∨ ¬ window_contains_authority grant.grant_authority grant.valid_from grant.valid_until
    ∨ grant.valid_from < lease.dto.issued_at
    ∨ lease.dto.expires_at < grant.valid_until) .InvalidGrant

/-- A handle is of a record: made by this broker, and of the same lease. -/
def is_of_record (lease : TrustedWorkspaceLease) (record : LeaseRecord) : Bool :=
  lease.registry_token == record.registry_token && lease.observation == record.dto
    && lease.digest == record.digest && lease.initial_snapshot == record.initial_snapshot
    && record.state == .Active

def live_lease_record (broker : WorkspaceCapabilityBroker P) (lease : TrustedWorkspaceLease) :
    Except WorkspaceCapabilityError LeaseRecord := do
  reject_if (lease.broker_nonce ≠ broker.broker_nonce) .ForeignHandle
  let record ← ok_or broker.leases[lease.observation.lease_id]? .InvalidLease
  reject_if (¬ is_of_record lease record) .InvalidLease
  validate_registry_lease backend record
  pure record

def take_registry_token (broker : WorkspaceCapabilityBroker P) :
    Except WorkspaceCapabilityError (ℕ × WorkspaceCapabilityBroker P) := do
  reject_if (U64_MAX < broker.next_registry_token + 1) .InvalidConfiguration
  pure (broker.next_registry_token,
    { broker with next_registry_token := broker.next_registry_token + 1 })

/-! ## Opening and recovering a lease -/

/-- `WorkspaceSnapshotV1::try_new`. -/
def snapshot_of (workspace_id lease_id : String) (generation : ℕ) (files : List WorkspaceFileV1) :
    Option WorkspaceSnapshotV1 :=
  let snapshot : WorkspaceSnapshotV1 :=
    ⟨TOOL_BOUNDARY_CONTRACT_VERSION, workspace_id, lease_id, generation, files, ""⟩
  if snapshot.validate_without_digest then
    some { snapshot with
      snapshot_digest := snapshot.computed_snapshot_digest backend.sha256.toToolBoundaryDigests }
  else none

def capture_snapshot (root : RecoveryRoot) (workspace_id lease_id : String) (generation : ℕ) :
    BrokerProg P WorkspaceSnapshotV1 := do
  let files ← Native.collect_workspace_files root
  ok_or (files.bind (snapshot_of backend workspace_id lease_id generation))
    WorkspaceCapabilityError.InvalidWorkspace

/-- A tree that is ordinary, or the error of the caller. -/
def ordinary_tree (root : RecoveryRoot) (logical_path : Option String) : BrokerProg P Unit := do
  let verified ← Native.verify_ordinary_tree root logical_path
  verified.mapError fun _ => WorkspaceCapabilityError.InvalidWorkspace

/-- `DurableLeaseBinding::pending`. -/
def pending_binding (broker : WorkspaceCapabilityBroker P) (run_id : RunId)
    (expected_revision : ℕ) (expected_state_digest : Option String) (recovery_token : String)
    (lease : WorkspaceLeaseV1) (lease_digest : String) (initial_snapshot : WorkspaceSnapshotV1) :
    DurableLeaseBinding where
  run_id := run_id
  pre_admission := some (expected_revision, expected_state_digest)
  runtime_instance_id := broker.runtime_instance_id
  runtime_epoch := 1
  fence := 1
  recovery_token := recovery_token
  lease := lease
  lease_digest := lease_digest
  initial_snapshot := initial_snapshot
  grant := none

/-- The lease of a new root, by the files that it has been given. -/
def new_lease (execution : RoleExecutionRequest) (invocation_digest : String)
    (root : RecoveryRoot) (issued_at expires_at : DateTime)
    (files : Option (List WorkspaceFileV1)) :
    Except WorkspaceCapabilityError (WorkspaceLeaseV1 × WorkspaceSnapshotV1) := do
  let snapshot ← ok_or (files.bind (snapshot_of backend root.workspace_id root.lease_id 0))
    .InvalidWorkspace
  let dto : WorkspaceLeaseV1 :=
    { contract_version := TOOL_BOUNDARY_CONTRACT_VERSION
      lease_id := root.lease_id
      workspace_id := root.workspace_id
      invocation_id := execution.invocation.invocation_id
      invocation_digest := invocation_digest
      attempt := execution.attempt
      scope := execution.invocation.scope
      initial_snapshot_digest := snapshot.snapshot_digest
      issued_at := issued_at
      expires_at := expires_at }
  reject_if (¬ dto.validate) .InvalidLease
  pure (dto, snapshot)

/-- The setup of a new root, whose error the caller returns after removing the root. -/
def set_up_lease (execution : RoleExecutionRequest) (invocation_digest : String)
    (root : RecoveryRoot) (seeds : List (WorkspaceSeedFile P)) (issued_at expires_at : DateTime) :
    BrokerProg P (Except WorkspaceCapabilityError (WorkspaceLeaseV1 × WorkspaceSnapshotV1)) :=
  if backend.overlaps_protected_root root then pure (.error .InvalidWorkspace)
  else do
    let materialized ← Native.materialize_seeds root seeds
    if materialized then do
      let files ← Native.collect_workspace_files root
      pure (new_lease backend execution invocation_digest root issued_at expires_at files)
    else pure (.error .InvalidWorkspace)

/-- A record of the broker has one of the three values of a root. -/
def has_identifier (broker : WorkspaceCapabilityBroker P) (root : RecoveryRoot) : Bool :=
  (broker.leases[root.lease_id]?).isSome
    || broker.leases.toList.any fun entry => entry.2.dto.workspace_id == root.workspace_id
      || entry.2.durable_binding.recovery_token == root.recovery_token

def open_recoverable_lease (broker : WorkspaceCapabilityBroker P)
    (loaded : Option (LoadedExecutionRun (EngineerVerifierStateV1 P) R)) (run_id : RunId)
    (expected_revision : ℕ) (expected_state_digest : Option String)
    (execution : RoleExecutionRequest) (root : RecoveryRoot) (seeds : List (WorkspaceSeedFile P))
    (issued_at expires_at : DateTime) :
    BrokerProg P (BrokerResult P TrustedWorkspaceLease) := do
  let loaded ← ok_or loaded WorkspaceCapabilityError.InvalidLease
  reject_if (loaded.revision ≠ expected_revision
    ∨ loaded.envelope.engineer_verifier.map EngineerVerifierStateV1.state_digest
      ≠ expected_state_digest) WorkspaceCapabilityError.InvalidLease
  reject_if (¬ execution.validate backend.sha256.toControlPlaneDigests)
    WorkspaceCapabilityError.InvalidInvocation
  let invocation_digest ← ok_or
    (execution.invocation.canonical_digest backend.sha256.toControlPlaneDigests)
    WorkspaceCapabilityError.InvalidInvocation
  reject_if (¬ validate_stable_id root.lease_id ∨ ¬ validate_stable_id root.workspace_id
    ∨ ¬ validate_stable_id root.recovery_token) WorkspaceCapabilityError.InvalidLease
  reject_if (broker.has_identifier root) WorkspaceCapabilityError.DuplicateIdentifier
  let present ← Native.root_exists root
  reject_if present WorkspaceCapabilityError.InvalidWorkspace
  let created ← Native.create_dir root
  reject_if (¬ created) WorkspaceCapabilityError.InvalidWorkspace
  let set_up ← set_up_lease backend execution invocation_digest root seeds issued_at expires_at
  match set_up with
  | .error e =>
    let _ ← Native.cleanup_owned_root root
    Prog.fail e
  | .ok (dto, snapshot) =>
    let (registry_token, broker) ← broker.take_registry_token
    let digest := backend.sha256.lease dto
    let record : LeaseRecord :=
      { registry_token := registry_token
        dto := dto
        digest := digest
        invocation := execution.invocation
        state := .Active
        snapshot := snapshot
        initial_snapshot := snapshot
        durable_binding := broker.pending_binding run_id expected_revision expected_state_digest
          root.recovery_token dto digest snapshot }
    pure (.ok ⟨broker.broker_nonce, registry_token, dto, digest, snapshot⟩,
      { broker with leases := broker.leases.insert root.lease_id record })

end WorkspaceCapabilityBroker

/-- `WorkspaceRecoveryPermit`, whose other fields are those of its binding. -/
structure WorkspaceRecoveryPermit where
  execution : RoleExecutionRequest
  current_snapshot : WorkspaceSnapshotV1
  prepared_write : Option PreparedWriteEffectV1
  grant : CapabilityGrantV1
  grant_digest : String
  next_receipt_sequence : ℕ
  binding : DurableLeaseBinding

namespace WorkspaceCapabilityBroker

variable {P R : Type} (backend : WorkspaceBackend P)

/-- The tree is in the current snapshot, or in the one after the prepared write. -/
def observe_recovered (permit : WorkspaceRecoveryPermit) : BrokerProg P WorkspaceSnapshotV1 := do
  let lease := permit.binding.lease
  let root := permit.binding.root
  let observed_before ← capture_snapshot backend root lease.workspace_id lease.lease_id
    permit.current_snapshot.generation
  if observed_before = permit.current_snapshot then pure observed_before
  else match permit.prepared_write with
    | none => Prog.fail .InvalidWorkspace
    | some prepared => do
      let observed_after ← capture_snapshot backend root lease.workspace_id lease.lease_id
        prepared.intended_after_snapshot.generation
      reject_if (observed_after ≠ prepared.intended_after_snapshot)
        WorkspaceCapabilityError.InvalidWorkspace
      pure observed_after

def recover_lease (broker : WorkspaceCapabilityBroker P)
    (loaded : Option (LoadedExecutionRun (EngineerVerifierStateV1 P) R))
    (permit : WorkspaceRecoveryPermit) :
    BrokerProg P (BrokerResult P (TrustedWorkspaceLease × TrustedCapabilityGrant)) := do
  let binding := permit.binding
  binding.require_current loaded
  reject_if (binding.runtime_instance_id ≠ broker.runtime_instance_id
    ∨ ¬ broker.leases.isEmpty ∨ ¬ broker.grants.isEmpty ∨ ¬ broker.idempotency.isEmpty
    ∨ broker.backend_calls ≠ 0 ∨ broker.next_sequence ≠ 1) WorkspaceCapabilityError.InvalidLease
  reject_if (¬ permit.execution.validate backend.sha256.toControlPlaneDigests)
    WorkspaceCapabilityError.InvalidInvocation
  let root := binding.root
  reject_if (backend.overlaps_protected_root root) WorkspaceCapabilityError.InvalidWorkspace
  ordinary_tree root none
  let observed ← observe_recovered backend permit
  let (lease_token, broker) ← broker.take_registry_token
  let lease_record : LeaseRecord :=
    { registry_token := lease_token
      dto := binding.lease
      digest := binding.lease_digest
      invocation := permit.execution.invocation
      state := .Active
      snapshot := observed
      initial_snapshot := binding.initial_snapshot
      durable_binding := binding }
  validate_registry_lease backend lease_record
  validate_grant_binding backend permit.execution
    { lease_record with snapshot := lease_record.initial_snapshot } permit.grant
  let (grant_token, broker) ← broker.take_registry_token
  let grant_record : GrantRecord := ⟨grant_token, permit.grant, permit.grant_digest⟩
  validate_registry_grant backend grant_record
  pure (.ok (⟨broker.broker_nonce, lease_token, binding.lease, binding.lease_digest,
        binding.initial_snapshot⟩,
      ⟨broker.broker_nonce, grant_token, permit.grant, permit.grant_digest⟩),
    { broker with
      next_sequence := permit.next_receipt_sequence
      leases := broker.leases.insert binding.lease.lease_id lease_record
      grants := broker.grants.insert permit.grant.grant_id grant_record })

/-! ## Grants, snapshots and checks of the tree -/

/-- Two checks come before the binding is looked at, and neither is of the file system. -/
def issue_grant (broker : WorkspaceCapabilityBroker P)
    (loaded : Option (LoadedExecutionRun (EngineerVerifierStateV1 P) R))
    (execution : RoleExecutionRequest) (lease : TrustedWorkspaceLease)
    (grant : CapabilityGrantV1) : BrokerProg P (BrokerResult P TrustedCapabilityGrant) := do
  reject_if (¬ execution.validate backend.sha256.toControlPlaneDigests)
    WorkspaceCapabilityError.InvalidInvocation
  reject_if (¬ grant.validate backend.sha256.toToolBoundaryDigests)
    WorkspaceCapabilityError.InvalidGrant
  reject_if (lease.broker_nonce ≠ broker.broker_nonce) WorkspaceCapabilityError.ForeignHandle
  reject_if (broker.grants[grant.grant_id]?).isSome WorkspaceCapabilityError.DuplicateIdentifier
  let lease_record ← ok_or broker.leases[grant.lease_id]? WorkspaceCapabilityError.InvalidLease
  lease_record.durable_binding.require_operable loaded
  reject_if (lease.registry_token ≠ lease_record.registry_token
    ∨ lease.observation ≠ lease_record.dto ∨ lease.digest ≠ lease_record.digest
    ∨ lease.initial_snapshot.snapshot_digest ≠ lease_record.dto.initial_snapshot_digest
    ∨ lease_record.state ≠ .Active) WorkspaceCapabilityError.InvalidLease
  validate_registry_lease backend lease_record
  validate_grant_binding backend execution lease_record grant
  let digest := backend.sha256.grant grant
  let (registry_token, broker) ← broker.take_registry_token
  let binding := { lease_record.durable_binding with grant := some (grant, digest) }
  pure (.ok ⟨broker.broker_nonce, registry_token, grant, digest⟩,
    { broker with
      leases := broker.leases.insert grant.lease_id { lease_record with durable_binding := binding }
      grants := broker.grants.insert grant.grant_id ⟨registry_token, grant, digest⟩ })

def snapshot (broker : WorkspaceCapabilityBroker P)
    (loaded : Option (LoadedExecutionRun (EngineerVerifierStateV1 P) R))
    (lease : TrustedWorkspaceLease) : BrokerProg P WorkspaceSnapshotV1 := do
  let record ← live_lease_record backend broker lease
  record.durable_binding.require_current loaded
  pure record.snapshot

/-- The grant is one of this broker, and its lease is live. -/
def grant_is_live (broker : WorkspaceCapabilityBroker P)
    (loaded : Option (LoadedExecutionRun (EngineerVerifierStateV1 P) R))
    (grant : TrustedCapabilityGrant) : Bool :=
  grant.broker_nonce == broker.broker_nonce
    && broker.grants[grant.observation.grant_id]?.any fun grant_record =>
      broker.leases[grant_record.dto.lease_id]?.all (fun record =>
        (record.durable_binding.require_live_capability loaded).isOk)
      && grant_record.registry_token == grant.registry_token
      && grant_record.dto == grant.observation && grant_record.digest == grant.digest

/-- The tree of a lease is in the snapshot of its record. -/
def observe_unchanged (record : LeaseRecord) : BrokerProg P WorkspaceSnapshotV1 := do
  let observed ← capture_snapshot backend record.root record.dto.workspace_id record.dto.lease_id
    record.snapshot.generation
  reject_if (observed ≠ record.snapshot) WorkspaceCapabilityError.InvalidWorkspace
  pure observed

def target_matches_current (broker : WorkspaceCapabilityBroker P)
    (loaded : Option (LoadedExecutionRun (EngineerVerifierStateV1 P) R))
    (lease : TrustedWorkspaceLease) (logical_path content_sha256 : String) (byte_length : ℕ) :
    BrokerProg P Bool := do
  let record ← live_lease_record backend broker lease
  record.durable_binding.require_target_check loaded
  reject_if (¬ validate_logical_path logical_path) WorkspaceCapabilityError.InvalidWorkspace
  reject_if (¬ validate_sha256_digest content_sha256) WorkspaceCapabilityError.InvalidWorkspace
  ordinary_tree record.root (some logical_path)
  let observed ← observe_unchanged backend record
  pure (observed.files.any fun file => file.logical_path == logical_path
    && file.sha256 == content_sha256 && file.byte_length == byte_length)

/-! ## Prepared writes, seals and cleanup -/

end WorkspaceCapabilityBroker

def ToolOperationV1.logical_path : ToolOperationV1 → Option String
  | .ReadFile logical_path | .WriteFile logical_path _ _ => some logical_path
  | .Unsupported _ _ => none

inductive PreparedWorkspaceState where
  | ExpectedBefore
  | IntendedAfter
  | Missing
  | ThirdState
  deriving DecidableEq, Repr

namespace WorkspaceCapabilityBroker

variable {P R : Type} (backend : WorkspaceBackend P)

/-- A capture whose failure is an answer as well. -/
def captured (record : LeaseRecord) (generation : ℕ) :
    BrokerProg P (Option WorkspaceSnapshotV1) := do
  let files ← Native.collect_workspace_files record.root
  pure (files.bind (snapshot_of backend record.dto.workspace_id record.dto.lease_id generation))

def inspect_prepared_write_unlocked (broker : WorkspaceCapabilityBroker P)
    (lease : TrustedWorkspaceLease) (prepared : PreparedWriteEffectV1) :
    BrokerProg P PreparedWorkspaceState := do
  (prepared.validate backend.sha256).mapError fun _ => WorkspaceCapabilityError.InvalidRequest
  let record ← live_lease_record backend broker lease
  reject_if (prepared.expected_before_snapshot.workspace_id ≠ record.dto.workspace_id
    ∨ prepared.expected_before_snapshot.lease_id ≠ record.dto.lease_id
    ∨ prepared.intended_after_snapshot.workspace_id ≠ record.dto.workspace_id
    ∨ prepared.intended_after_snapshot.lease_id ≠ record.dto.lease_id)
    WorkspaceCapabilityError.InvalidRequest
  let present ← Native.root_exists record.root
  if ¬ present then pure .Missing
  else do
    let verified ← Native.verify_ordinary_tree record.root prepared.request.operation.logical_path
    if ¬ verified.isOk then pure .ThirdState
    else do
      let before ← captured backend record prepared.expected_before_snapshot.generation
      if before = some prepared.expected_before_snapshot then pure .ExpectedBefore
      else do
        let after ← captured backend record prepared.intended_after_snapshot.generation
        if after = some prepared.intended_after_snapshot then pure .IntendedAfter
        else pure .ThirdState

def inspect_prepared_write (broker : WorkspaceCapabilityBroker P)
    (loaded : Option (LoadedExecutionRun (EngineerVerifierStateV1 P) R))
    (lease : TrustedWorkspaceLease) (prepared : PreparedWriteEffectV1) :
    BrokerProg P PreparedWorkspaceState := do
  let record ← live_lease_record backend broker lease
  record.durable_binding.require_prepared loaded prepared
  inspect_prepared_write_unlocked backend broker lease prepared

def adopt_reconciled_write (broker : WorkspaceCapabilityBroker P)
    (loaded : Option (LoadedExecutionRun (EngineerVerifierStateV1 P) R))
    (lease : TrustedWorkspaceLease) (prepared : PreparedWriteEffectV1) :
    BrokerProg P (BrokerResult P WorkspaceSnapshotV1) := do
  let record ← live_lease_record backend broker lease
  record.durable_binding.require_prepared loaded prepared
  let observed ← inspect_prepared_write_unlocked backend broker lease prepared
  reject_if (observed ≠ .IntendedAfter) WorkspaceCapabilityError.InvalidWorkspace
  let snapshot := prepared.intended_after_snapshot
  pure (.ok snapshot, { broker with
    leases := broker.leases.insert lease.observation.lease_id { record with snapshot := snapshot } })

/-- The snapshot that is sealed; the copy it is of lies outside of the roots. -/
def seal_workspace (broker : WorkspaceCapabilityBroker P)
    (loaded : Option (LoadedExecutionRun (EngineerVerifierStateV1 P) R))
    (lease : TrustedWorkspaceLease) : BrokerProg P WorkspaceSnapshotV1 := do
  let record ← live_lease_record backend broker lease
  record.durable_binding.require_verifying loaded record.snapshot
  ordinary_tree record.root none
  let observed ← observe_unchanged backend record
  let copied ← Native.copy_sources record.root observed.files
  reject_if (¬ copied) WorkspaceCapabilityError.InvalidWorkspace
  pure observed

/-- The broker with the record of a lease in another state. -/
def with_lease_state (broker : WorkspaceCapabilityBroker P) (lease_id : String)
    (record : LeaseRecord) (state : WorkspaceLeaseState) : WorkspaceCapabilityBroker P :=
  { broker with leases := broker.leases.insert lease_id { record with state := state } }

def close_lease (broker : WorkspaceCapabilityBroker P)
    (loaded : Option (LoadedExecutionRun (EngineerVerifierStateV1 P) R))
    (lease : TrustedWorkspaceLease) (reason : CleanupReason) :
    BrokerProg P (BrokerResult P Unit) := do
  let lease_id := lease.observation.lease_id
  reject_if (lease.broker_nonce ≠ broker.broker_nonce) WorkspaceCapabilityError.ForeignHandle
  let record ← ok_or broker.leases[lease_id]? WorkspaceCapabilityError.InvalidLease
  record.durable_binding.require_owned loaded
  reject_if (¬ is_of_record lease record) WorkspaceCapabilityError.InvalidLease
  let removed ← Native.cleanup_owned_root record.root
  if removed then pure (.ok (), broker.with_lease_state lease_id record .Closed)
  else
    pure (.error .CleanupFailure, broker.with_lease_state lease_id record (.CleanupRequired reason))

/-- What dropping the broker does with one of its records. -/
def drop_record (loaded : Option (LoadedExecutionRun (EngineerVerifierStateV1 P) R))
    (record : LeaseRecord) : BrokerProg P Unit := do
  let present ← Native.root_exists record.root
  if ¬ present ∨ ¬ (record.durable_binding.require_owned loaded).isOk ∨ record.state = .Closed then
    pure ()
  else do
    let _ ← Native.cleanup_owned_root record.root
    pure ()

end WorkspaceCapabilityBroker

end OvcaCore

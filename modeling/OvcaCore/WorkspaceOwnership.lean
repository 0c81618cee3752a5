/-
What a broker of disposable workspaces asks before it acts
(`ovca-runtime-core/src/workspace_capability.rs`): the binding of a lease to the
durable authority, and the checks that compare it with the stored workspace.

An operation of the broker is a program over what it asks of the file system: to look
at a tree, to read or write a file of it, to copy it, or to remove it. Whatever the
file system answers is left open. An operation holds the workspace lock from its
first check to its end, and a write to the engineer-verifier projection takes the same
lock, so an operation sees one state of the run: what `load` gives is a value here,
`none` where it fails. A root is known by the three values that its name is a digest of.
-/
import OvcaCore.PhaseReconciliation

set_option autoImplicit false

namespace OvcaCore

open OvcaCore.Checks OvcaCore.Interleaving EngineerVerifier

inductive CleanupReason where
  | Completed
  | Cancelled
  | Failed
  | Panicked
  deriving DecidableEq, Repr

inductive WorkspaceLeaseState where
  | Active
  | CleanupRequired (reason : CleanupReason)
  | Closed
  deriving DecidableEq, Repr

inductive WorkspaceCapabilityError where
  | InvalidConfiguration
  | InvalidWorkspace
  | InvalidInvocation
  | InvalidLease
  | InvalidGrant
  | ForeignHandle
  | DuplicateIdentifier
  | InvalidRequest
  | BackendFailure
  | CleanupFailure
  | Serialization
  deriving DecidableEq, Repr

/-! ## The file system -/

/-- What `recovery_root_name` takes the digest of. -/
structure RecoveryRoot where
  recovery_token : String
  lease_id : String
  workspace_id : String
  deriving DecidableEq, Repr

/-- `WorkspaceSeedFile`. -/
structure WorkspaceSeedFile (P : Type) where
  logical_path : String
  bytes : P

inductive NativeOp (P : Type) where
  | root_exists (root : RecoveryRoot)
  | verify_ordinary_tree (root : RecoveryRoot) (logical_path : Option String)
  | collect_workspace_files (root : RecoveryRoot)
  | read (root : RecoveryRoot) (logical_path : String)
  | write (root : RecoveryRoot) (logical_path : String) (bytes : P)
  | copy_sources (root : RecoveryRoot) (files : List WorkspaceFileV1)
  | cleanup_owned_root (root : RecoveryRoot)
  | create_dir (root : RecoveryRoot)
  | materialize_seeds (root : RecoveryRoot) (seeds : List (WorkspaceSeedFile P))

namespace NativeOp

variable {P : Type}

/-- What an operation is answered by; a failure of the host is one of the answers. -/
def Answer : NativeOp P → Type
  | root_exists _ => Bool
  | verify_ordinary_tree _ _ => Except ToolDeniedCodeV1 Unit
  | collect_workspace_files _ => Option (List WorkspaceFileV1)
  | read _ _ => Option P
  | write _ _ _ => Bool
  | copy_sources _ _ => Bool
  | cleanup_owned_root _ => Bool
  | create_dir _ => Bool
  | materialize_seeds _ _ => Bool

/-- The operation looks into a root, writes to it or removes it. To ask whether the root
is there does neither. -/
def touches (root : RecoveryRoot) : NativeOp P → Prop
  | root_exists _ => False
  | verify_ordinary_tree other _ | collect_workspace_files other | read other _ | write other _ _
  | copy_sources other _ | cleanup_owned_root other | create_dir other
  | materialize_seeds other _ => other = root

end NativeOp

/-- A fallible operation on the file system. -/
abbrev BrokerProg (P : Type) := Prog (NativeOp P) NativeOp.Answer WorkspaceCapabilityError

namespace Native

variable {P : Type}

def root_exists (root : RecoveryRoot) : BrokerProg P Bool := Prog.perform (NativeOp.root_exists root)

/-- `verify_ordinary_tree`, with the code that denies a request. -/
def verify_ordinary_tree (root : RecoveryRoot) (logical_path : Option String) :
    BrokerProg P (Except ToolDeniedCodeV1 Unit) :=
  Prog.perform (NativeOp.verify_ordinary_tree root logical_path)

/-- The sorted files of a root that is an ordinary directory of ordinary files. -/
def collect_workspace_files (root : RecoveryRoot) : BrokerProg P (Option (List WorkspaceFileV1)) :=
  Prog.perform (NativeOp.collect_workspace_files root)

def read (root : RecoveryRoot) (logical_path : String) : BrokerProg P (Option P) :=
  Prog.perform (NativeOp.read root logical_path)

def write (root : RecoveryRoot) (logical_path : String) (bytes : P) : BrokerProg P Bool :=
  Prog.perform (NativeOp.write root logical_path bytes)

/-- The copy of a root for the verifier, beside an empty snapshot directory. -/
def copy_sources (root : RecoveryRoot) (files : List WorkspaceFileV1) : BrokerProg P Bool :=
  Prog.perform (NativeOp.copy_sources root files)

def cleanup_owned_root (root : RecoveryRoot) : BrokerProg P Bool :=
  Prog.perform (NativeOp.cleanup_owned_root root)

def create_dir (root : RecoveryRoot) : BrokerProg P Bool := Prog.perform (NativeOp.create_dir root)

def materialize_seeds (root : RecoveryRoot) (seeds : List (WorkspaceSeedFile P)) :
    BrokerProg P Bool :=
  Prog.perform (NativeOp.materialize_seeds root seeds)

end Native

/-! ## Ownership -/

structure DurableLeaseBinding where
  run_id : RunId
  pre_admission : Option (ℕ × Option String)
  runtime_instance_id : String
  runtime_epoch : ℕ
  fence : ℕ
  recovery_token : String
  lease : WorkspaceLeaseV1
  lease_digest : String
  initial_snapshot : WorkspaceSnapshotV1
  grant : Option (CapabilityGrantV1 × String)
  deriving DecidableEq, Repr

inductive DurableLeaseOwnership where
  | PreAdmission
  | Unadopted
  | Current
  deriving DecidableEq, Repr

namespace DurableLeaseBinding

def root (binding : DurableLeaseBinding) : RecoveryRoot :=
  ⟨binding.recovery_token, binding.lease.lease_id, binding.lease.workspace_id⟩

section Ownership

variable {P R : Type}

/-- The stored run is the one that the lease was opened against. -/
def before_admission (binding : DurableLeaseBinding)
    (loaded : LoadedExecutionRun (EngineerVerifierStateV1 P) R) : Bool :=
  binding.pre_admission.any fun admission => loaded.revision == admission.1
    && loaded.envelope.engineer_verifier.map EngineerVerifierStateV1.state_digest == admission.2

/-- The stored workspace is open and the one of the binding. -/
def is_current (binding : DurableLeaseBinding) (workspace : DurableWorkspaceAuthorityV1) : Bool :=
  binding.grant.any fun grant => !workspace.closed
    && workspace.runtime_instance_id == binding.runtime_instance_id
    && workspace.runtime_epoch == binding.runtime_epoch
    && workspace.fence == binding.fence
    && workspace.recovery_token == binding.recovery_token
    && workspace.lease == binding.lease
    && workspace.lease_digest == binding.lease_digest
    && workspace.initial_snapshot == binding.initial_snapshot
    && workspace.grant == grant.1
    && workspace.grant_digest == grant.2

/-- A lease that has not been recovered, where the stored workspace is another one. -/
def is_unadopted (binding : DurableLeaseBinding)
    (workspace : Option DurableWorkspaceAuthorityV1) : Bool :=
  binding.pre_admission.isSome && workspace.all fun workspace =>
    workspace.recovery_token != binding.recovery_token
      || workspace.lease.lease_id != binding.lease.lease_id
      || workspace.lease.workspace_id != binding.lease.workspace_id

def stored_workspace (loaded : LoadedExecutionRun (EngineerVerifierStateV1 P) R) :
    Option DurableWorkspaceAuthorityV1 :=
  loaded.envelope.engineer_verifier.bind EngineerVerifierStateV1.workspace

def ownership (binding : DurableLeaseBinding)
    (loaded : Option (LoadedExecutionRun (EngineerVerifierStateV1 P) R)) :
    Except WorkspaceCapabilityError DurableLeaseOwnership := do
  let loaded ← ok_or loaded .InvalidLease
  if binding.before_admission loaded then pure .PreAdmission
  else if (stored_workspace loaded).any binding.is_current then pure .Current
  else if binding.is_unadopted (stored_workspace loaded) then pure .Unadopted
  else .error .InvalidLease

def require_current (binding : DurableLeaseBinding)
    (loaded : Option (LoadedExecutionRun (EngineerVerifierStateV1 P) R)) :
    Except WorkspaceCapabilityError Unit := do
  let ownership ← binding.ownership loaded
  reject_if (ownership ≠ .Current) .InvalidLease

def require_owned (binding : DurableLeaseBinding)
    (loaded : Option (LoadedExecutionRun (EngineerVerifierStateV1 P) R)) :
    Except WorkspaceCapabilityError Unit := do
  let _ ← binding.ownership loaded
  pure ()

def require_operable (binding : DurableLeaseBinding)
    (loaded : Option (LoadedExecutionRun (EngineerVerifierStateV1 P) R)) :
    Except WorkspaceCapabilityError Unit := do
  let ownership ← binding.ownership loaded
  match ownership with
  | .PreAdmission | .Current => pure ()
  | .Unadopted => .error .InvalidLease

/-- The engineer-verifier state of a loaded run. -/
def loaded_state (loaded : Option (LoadedExecutionRun (EngineerVerifierStateV1 P) R)) :
    Except WorkspaceCapabilityError (EngineerVerifierStateV1 P) :=
  ok_or (loaded.bind fun loaded => loaded.envelope.engineer_verifier) .InvalidLease

def require_live_capability (binding : DurableLeaseBinding)
    (loaded : Option (LoadedExecutionRun (EngineerVerifierStateV1 P) R)) :
    Except WorkspaceCapabilityError Unit := do
  binding.require_current loaded
  let state ← loaded_state loaded
  reject_if (state.cancellation.isSome ∨ state.phase ≠ .Engineering) .InvalidLease

/-- A request is the next effect of the plan, and a write the one that is prepared. -/
def require_request (sha256 : EngineerVerifierDigests P) (binding : DurableLeaseBinding)
    (loaded : Option (LoadedExecutionRun (EngineerVerifierStateV1 P) R))
    (request : ToolRequestV1) (next_sequence : ℕ) : Except WorkspaceCapabilityError Unit := do
  binding.require_live_capability loaded
  let state ← loaded_state loaded
  let workspace ← ok_or state.workspace .InvalidLease
  let template ← ok_or state.plan.ordered_effects[state.ledger.entries.length]? .InvalidRequest
  let identity ← (derive_tool_identity sha256 state.plan template.effect_id state.attempt).mapError
    fun _ => .InvalidRequest
  reject_if (request.attempt ≠ state.attempt
    ∨ request.request_id ≠ identity.request_id
    ∨ request.idempotency_key ≠ identity.idempotency_key
    ∨ request.operation ≠ template.operation
    ∨ request.expected_snapshot_digest ≠ workspace.current_snapshot.snapshot_digest
    ∨ workspace.next_receipt_sequence ≠ next_sequence) .InvalidRequest
  match request.operation with
  | .WriteFile _ _ _ => do
    let prepared ← ok_or state.prepared_write .InvalidRequest
    reject_if (prepared.request ≠ request ∨ prepared.reserved_sequence ≠ next_sequence)
      .InvalidRequest
  | .ReadFile _ => reject_if state.prepared_write.isSome .InvalidRequest
  | .Unsupported _ _ => .error .InvalidRequest

def require_target_check (binding : DurableLeaseBinding)
    (loaded : Option (LoadedExecutionRun (EngineerVerifierStateV1 P) R)) :
    Except WorkspaceCapabilityError Unit := do
  let ownership ← binding.ownership loaded
  match ownership with
  | .PreAdmission => pure ()
  | .Current => binding.require_live_capability loaded
  | .Unadopted => .error .InvalidLease

def require_prepared (binding : DurableLeaseBinding)
    (loaded : Option (LoadedExecutionRun (EngineerVerifierStateV1 P) R))
    (prepared : PreparedWriteEffectV1) : Except WorkspaceCapabilityError Unit := do
  binding.require_current loaded
  let state ← loaded_state loaded
  reject_if (state.phase ≠ .Engineering ∨ state.prepared_write ≠ some prepared) .InvalidRequest

def phase_allows_seal (state : EngineerVerifierStateV1 P) : Bool :=
  state.phase == .Verifying
    || (state.phase == .Engineering
      && state.ledger.entries.length == state.plan.ordered_effects.length
      && state.engineer_result.isSome)

def require_verifying (binding : DurableLeaseBinding)
    (loaded : Option (LoadedExecutionRun (EngineerVerifierStateV1 P) R))
    (snapshot : WorkspaceSnapshotV1) : Except WorkspaceCapabilityError Unit := do
  binding.require_current loaded
  let state ← loaded_state loaded
  let workspace ← ok_or state.workspace .InvalidLease
  reject_if (¬ phase_allows_seal state
    ∨ state.cancellation.isSome
    ∨ workspace.current_snapshot ≠ snapshot) .InvalidLease

end Ownership

end DurableLeaseBinding

end OvcaCore

/-
The contracts of disposable workspaces (`ovca-types/src/tool_boundary.rs`):
files, snapshots, leases, grants, tool requests and their receipts.

The states that hold these values replace every error of theirs by one of their
own, so the validators are predicates, as those of the control plane are.
-/
import OvcaCore.ControlPlane

set_option autoImplicit false

namespace OvcaCore

def TOOL_BOUNDARY_CONTRACT_VERSION : ℕ := 1
def MAX_TOOL_BYTES : ℕ := 16777216
def MAX_LOGICAL_PATH_BYTES : ℕ := 512
def MAX_LOGICAL_PATH_SEGMENTS : ℕ := 32
def MAX_LOGICAL_PATH_SEGMENT_BYTES : ℕ := 128

/-! ## Logical paths -/

def to_ascii_uppercase (byte : UInt8) : UInt8 :=
  if 97 ≤ byte && byte ≤ 122 then byte - 32 else byte

def to_ascii_lowercase (byte : UInt8) : UInt8 :=
  if 65 ≤ byte && byte ≤ 90 then byte + 32 else byte

/-- `is_windows_reserved_basename`: `CON`, `PRN`, `AUX`, `NUL`, and `COM1` to `COM9`
and `LPT1` to `LPT9`. -/
def is_windows_reserved_basename (value : List UInt8) : Bool :=
  match value.map to_ascii_uppercase with
  | [67, 79, 78] | [80, 82, 78] | [65, 85, 88] | [78, 85, 76] => true
  | [67, 79, 77, suffix] | [76, 80, 84, suffix] => 49 ≤ suffix && suffix ≤ 57
  | _ => false

/-- A segment between two slashes: letters, digits, `.`, `_` and `-`, not ending in
a dot, and not a reserved name up to its first dot. -/
def validate_segment (segment : List UInt8) : Bool :=
  !segment.isEmpty && decide (segment.length ≤ MAX_LOGICAL_PATH_SEGMENT_BYTES)
    && segment.all (fun byte => is_ascii_alphanumeric byte || is_id_punctuation byte && byte != 58)
    && segment.getLast? != some 46 && !is_windows_reserved_basename (segment.takeWhile (· != 46))

/-- `validate_logical_path`. The names `.` and `..` end in a dot; a byte past ASCII,
a backslash or a colon is in no segment; and after a slash at the start comes an
empty one. -/
def validate_logical_path (path : String) : Bool :=
  let segments := (as_bytes path).splitOn 47
  !(as_bytes path).isEmpty && decide ((as_bytes path).length ≤ MAX_LOGICAL_PATH_BYTES)
    && decide (segments.length ≤ MAX_LOGICAL_PATH_SEGMENTS) && segments.all validate_segment

def case_folded (path : String) : List UInt8 := (as_bytes path).map to_ascii_lowercase

/-- Strictly sorted, and no two of the paths differ in case only. -/
def canonical_paths (paths : List String) : Bool :=
  strictly_ascending paths && decide (paths.map case_folded).Nodup

def validate_path_list (paths : List String) : Bool :=
  paths.all validate_logical_path && canonical_paths paths

def validate_combined_case_aliases (read_paths write_paths : List String) : Bool :=
  write_paths.all fun path =>
    !((read_paths.map case_folded).contains (case_folded path) && !read_paths.contains path)

/-! ## Snapshots and leases -/

structure WorkspaceFileV1 where
  logical_path : String
  sha256 : String
  byte_length : ℕ
  deriving DecidableEq, Repr

def WorkspaceFileV1.validate (file : WorkspaceFileV1) : Bool :=
  validate_logical_path file.logical_path && validate_sha256_digest file.sha256

structure WorkspaceSnapshotV1 where
  contract_version : ℕ
  workspace_id : String
  lease_id : String
  generation : ℕ
  files : List WorkspaceFileV1
  snapshot_digest : String
  deriving DecidableEq, Repr

structure SnapshotDigestInput where
  contract_version : ℕ
  workspace_id : String
  lease_id : String
  generation : ℕ
  files : List WorkspaceFileV1
  deriving DecidableEq, Repr

structure WorkspaceLeaseV1 where
  contract_version : ℕ
  lease_id : String
  workspace_id : String
  invocation_id : String
  invocation_digest : String
  attempt : ℕ
  scope : FoundationScopeV1
  initial_snapshot_digest : String
  issued_at : DateTime
  expires_at : DateTime
  deriving DecidableEq, Repr

inductive CapabilityPolicyV1 where
  | Denied
  deriving DecidableEq, Repr

structure CapabilityGrantV1 where
  contract_version : ℕ
  grant_id : String
  invocation_id : String
  invocation_digest : String
  attempt : ℕ
  issuer : PrincipalIdentityV1
  grantee : PrincipalIdentityV1
  scope : FoundationScopeV1
  grant_authority : FoundationAuthorityV1
  grant_authority_digest : String
  lease_id : String
  lease_digest : String
  workspace_id : String
  snapshot_digest : String
  read_paths : List String
  write_paths : List String
  max_read_bytes : ℕ
  max_write_bytes : ℕ
  command_policy : CapabilityPolicyV1
  environment_policy : CapabilityPolicyV1
  network_policy : CapabilityPolicyV1
  valid_from : DateTime
  valid_until : DateTime
  deriving DecidableEq, Repr

/-! ## Requests and receipts -/

inductive UnsupportedToolKindV1 where
  | Command
  | Environment
  | Network
  | Delete
  | Rename
  | Copy
  | CreateDirectory
  | Link
  deriving DecidableEq, Repr

inductive ToolOperationV1 where
  | ReadFile (logical_path : String)
  | WriteFile (logical_path content_sha256 : String) (byte_length : ℕ)
  | Unsupported (kind : UnsupportedToolKindV1) (intent_digest : String)
  deriving DecidableEq, Repr

def ToolOperationV1.validate : ToolOperationV1 → Bool
  | .ReadFile logical_path => validate_logical_path logical_path
  | .WriteFile logical_path content_sha256 _ =>
    validate_logical_path logical_path && validate_sha256_digest content_sha256
  | .Unsupported _ intent_digest => validate_sha256_digest intent_digest

structure ToolRequestV1 where
  contract_version : ℕ
  request_id : String
  idempotency_key : String
  invocation_id : String
  invocation_digest : String
  attempt : ℕ
  grant_id : String
  grant_digest : String
  lease_id : String
  lease_digest : String
  workspace_id : String
  expected_snapshot_digest : String
  requester : PrincipalIdentityV1
  scope : FoundationScopeV1
  operation : ToolOperationV1
  requested_at : DateTime
  deriving DecidableEq, Repr

inductive ToolDeniedCodeV1 where
  | InvalidBinding
  | Expired
  | StaleSnapshot
  | RoleForbidden
  | PathForbidden
  | UnsupportedOperation
  | PayloadMismatch
  | LimitExceeded
  | WorkspaceInvalid
  | ProtectedRoot
  | AliasForbidden
  | NoChange
  | IdempotencyConflict
  deriving DecidableEq, Repr

inductive ToolReceiptOutcomeV1 where
  | Read (content_sha256 : String) (byte_length : ℕ)
  | Written (content_sha256 : String) (byte_length : ℕ)
  | Denied (code : ToolDeniedCodeV1)
  deriving DecidableEq, Repr

def ToolReceiptOutcomeV1.validate : ToolReceiptOutcomeV1 → Bool
  | .Read content_sha256 _ | .Written content_sha256 _ => validate_sha256_digest content_sha256
  | .Denied _ => true

structure ToolReceiptV1 where
  contract_version : ℕ
  receipt_id : String
  runtime_instance_id : String
  sequence : ℕ
  request_id : String
  request_digest : String
  idempotency_key : String
  invocation_id : String
  invocation_digest : String
  grant_id : String
  grant_digest : String
  lease_id : String
  lease_digest : String
  workspace_id : String
  actor : PrincipalIdentityV1
  before_snapshot_digest : String
  after_snapshot_digest : String
  before_generation : ℕ
  after_generation : ℕ
  outcome : ToolReceiptOutcomeV1
  occurred_at : DateTime
  deriving DecidableEq, Repr

/-- The canonical digests of the contracts of a workspace. -/
structure ToolBoundaryDigests extends ControlPlaneDigests where
  snapshot : SnapshotDigestInput → String
  lease : WorkspaceLeaseV1 → String
  grant : CapabilityGrantV1 → String
  request : ToolRequestV1 → String

/-! ## Validation -/

def validate_workspace_files (files : List WorkspaceFileV1) : Bool :=
  files.all WorkspaceFileV1.validate && canonical_paths (files.map WorkspaceFileV1.logical_path)

namespace WorkspaceSnapshotV1

def computed_snapshot_digest (sha256 : ToolBoundaryDigests) (snapshot : WorkspaceSnapshotV1) :
    String :=
  sha256.snapshot
    { contract_version := snapshot.contract_version
      workspace_id := snapshot.workspace_id
      lease_id := snapshot.lease_id
      generation := snapshot.generation
      files := snapshot.files }

def validate_without_digest (snapshot : WorkspaceSnapshotV1) : Bool :=
  snapshot.contract_version == TOOL_BOUNDARY_CONTRACT_VERSION
    && validate_stable_id snapshot.workspace_id && validate_stable_id snapshot.lease_id
    && validate_workspace_files snapshot.files

def validate (sha256 : ToolBoundaryDigests) (snapshot : WorkspaceSnapshotV1) : Bool :=
  snapshot.validate_without_digest && validate_sha256_digest snapshot.snapshot_digest
    && snapshot.computed_snapshot_digest sha256 == snapshot.snapshot_digest

end WorkspaceSnapshotV1

def validate_window (valid_from valid_until : DateTime) : Bool := decide (valid_from < valid_until)

def validate_limit (limit : ℕ) : Bool := decide (1 ≤ limit) && decide (limit ≤ MAX_TOOL_BYTES)

namespace WorkspaceLeaseV1

def validate (lease : WorkspaceLeaseV1) : Bool :=
  lease.contract_version == TOOL_BOUNDARY_CONTRACT_VERSION && validate_stable_id lease.lease_id
    && validate_stable_id lease.workspace_id && validate_stable_id lease.invocation_id
    && validate_sha256_digest lease.invocation_digest && lease.attempt != 0
    && lease.scope.validate && validate_sha256_digest lease.initial_snapshot_digest
    && validate_window lease.issued_at lease.expires_at

def canonical_digest (sha256 : ToolBoundaryDigests) (lease : WorkspaceLeaseV1) : Option String :=
  if lease.validate then some (sha256.lease lease) else none

end WorkspaceLeaseV1

namespace CapabilityGrantV1

def validate_role (grant : CapabilityGrantV1) : Bool :=
  match grant.grantee.role with
  | .Engineer => true
  | .Reviewer | .Auditor => grant.write_paths.isEmpty
  | .Owner | .Coordinator => false

def validate (sha256 : ToolBoundaryDigests) (grant : CapabilityGrantV1) : Bool :=
  grant.contract_version == TOOL_BOUNDARY_CONTRACT_VERSION && validate_stable_id grant.grant_id
    && validate_stable_id grant.invocation_id && validate_sha256_digest grant.invocation_digest
    && grant.attempt != 0 && grant.issuer.validate && grant.grantee.validate
    && grant.scope.validate && grant.grant_authority.validate
    && validate_sha256_digest grant.grant_authority_digest
    && sha256.authority grant.grant_authority == grant.grant_authority_digest
    && validate_stable_id grant.lease_id && validate_sha256_digest grant.lease_digest
    && validate_stable_id grant.workspace_id && validate_sha256_digest grant.snapshot_digest
    && validate_path_list grant.read_paths && validate_path_list grant.write_paths
    && validate_combined_case_aliases grant.read_paths grant.write_paths
    && validate_limit grant.max_read_bytes && validate_limit grant.max_write_bytes
    && validate_window grant.valid_from grant.valid_until && grant.validate_role

def canonical_digest (sha256 : ToolBoundaryDigests) (grant : CapabilityGrantV1) :
    Option String :=
  if grant.validate sha256 then some (sha256.grant grant) else none

end CapabilityGrantV1

namespace ToolRequestV1

def validate (request : ToolRequestV1) : Bool :=
  request.contract_version == TOOL_BOUNDARY_CONTRACT_VERSION
    && validate_stable_id request.request_id && validate_stable_id request.idempotency_key
    && validate_stable_id request.invocation_id
    && validate_sha256_digest request.invocation_digest && request.attempt != 0
    && validate_stable_id request.grant_id && validate_sha256_digest request.grant_digest
    && validate_stable_id request.lease_id && validate_sha256_digest request.lease_digest
    && validate_stable_id request.workspace_id
    && validate_sha256_digest request.expected_snapshot_digest && request.requester.validate
    && request.scope.validate && request.operation.validate

def canonical_digest (sha256 : ToolBoundaryDigests) (request : ToolRequestV1) : Option String :=
  if request.validate then some (sha256.request request) else none

end ToolRequestV1

namespace ToolReceiptV1

/-- A write changes the snapshot and its generation; nothing else does. -/
def validate_transition (receipt : ToolReceiptV1) : Bool :=
  match receipt.outcome with
  | .Denied _ | .Read _ _ => receipt.before_snapshot_digest == receipt.after_snapshot_digest
      && receipt.before_generation == receipt.after_generation
  | .Written _ _ => receipt.before_snapshot_digest != receipt.after_snapshot_digest
      && decide (receipt.before_generation + 1 ≤ U64_MAX)
      && receipt.before_generation + 1 == receipt.after_generation

def validate (receipt : ToolReceiptV1) : Bool :=
  receipt.contract_version == TOOL_BOUNDARY_CONTRACT_VERSION
    && validate_stable_id receipt.receipt_id && validate_stable_id receipt.runtime_instance_id
    && validate_stable_id receipt.request_id && validate_sha256_digest receipt.request_digest
    && validate_stable_id receipt.idempotency_key && validate_stable_id receipt.invocation_id
    && validate_sha256_digest receipt.invocation_digest && validate_stable_id receipt.grant_id
    && validate_sha256_digest receipt.grant_digest && validate_stable_id receipt.lease_id
    && validate_sha256_digest receipt.lease_digest && validate_stable_id receipt.workspace_id
    && receipt.actor.validate && validate_sha256_digest receipt.before_snapshot_digest
    && validate_sha256_digest receipt.after_snapshot_digest && receipt.outcome.validate
    && receipt.validate_transition

end ToolReceiptV1

end OvcaCore

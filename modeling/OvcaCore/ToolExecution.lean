/-
The execution of a tool request by the broker
(`ovca-runtime-core/src/workspace_capability.rs`): admission, the denials, and a read or
a write of one file with the receipt of it.

A request stands for its canonical bytes, so two requests are compared as values.
-/
import OvcaCore.WorkspaceBroker

set_option autoImplicit false

namespace OvcaCore

open OvcaCore.Checks OvcaCore.Interleaving EngineerVerifier

namespace WorkspaceCapabilityBroker

variable {P R : Type} (backend : WorkspaceBackend P)

/-! ## Requests and receipts -/

def validate_receiptable_request (request : ToolRequestV1) :
    Except WorkspaceCapabilityError Unit := do
  reject_if (request.contract_version ≠ TOOL_BOUNDARY_CONTRACT_VERSION ∨ request.attempt = 0)
    .InvalidRequest
  check_all [request.request_id, request.idempotency_key, request.invocation_id, request.grant_id,
    request.lease_id, request.workspace_id] fun id =>
      reject_if (¬ validate_stable_id id) .InvalidRequest
  check_all [request.invocation_digest, request.grant_digest, request.lease_digest,
    request.expected_snapshot_digest] fun digest =>
      reject_if (¬ validate_sha256_digest digest) .InvalidRequest
  reject_if (¬ request.requester.validate ∨ ¬ request.scope.validate) .InvalidRequest
  match request.operation with
  | .ReadFile _ => pure ()
  | .WriteFile _ content_sha256 _ => reject_if (¬ validate_sha256_digest content_sha256) .InvalidRequest
  | .Unsupported _ intent_digest => reject_if (¬ validate_sha256_digest intent_digest) .InvalidRequest

/-- The digest and the generation of a snapshot. -/
structure SnapshotPoint where
  digest : String
  generation : ℕ

def snapshot_point (snapshot : WorkspaceSnapshotV1) : SnapshotPoint :=
  ⟨snapshot.snapshot_digest, snapshot.generation⟩

def snapshot_point_for_request (broker : WorkspaceCapabilityBroker P) (request : ToolRequestV1) :
    SnapshotPoint :=
  match broker.leases[request.lease_id]?.filter fun lease =>
      lease.dto.workspace_id == request.workspace_id with
  | some lease => snapshot_point lease.snapshot
  | none => ⟨request.expected_snapshot_digest, 0⟩

/-- The receipt has the next number, which is used up even where it is then refused. -/
def build_receipt (broker : WorkspaceCapabilityBroker P) (request : ToolRequestV1)
    (outcome : ToolReceiptOutcomeV1) (before after : SnapshotPoint) (occurred_at : DateTime) :
    BrokerResult P TrustedToolReceipt :=
  let sequence := broker.next_sequence
  if U64_MAX < sequence + 1 then (.error .BackendFailure, broker)
  else
    let receipt : ToolReceiptV1 :=
      { contract_version := TOOL_BOUNDARY_CONTRACT_VERSION
        receipt_id := "receipt." ++ toString sequence
        runtime_instance_id := broker.runtime_instance_id
        sequence := sequence
        request_id := request.request_id
        request_digest := backend.sha256.request request
        idempotency_key := request.idempotency_key
        invocation_id := request.invocation_id
        invocation_digest := request.invocation_digest
        grant_id := request.grant_id
        grant_digest := request.grant_digest
        lease_id := request.lease_id
        lease_digest := request.lease_digest
        workspace_id := request.workspace_id
        actor := request.requester
        before_snapshot_digest := before.digest
        after_snapshot_digest := after.digest
        before_generation := before.generation
        after_generation := after.generation
        outcome := outcome
        occurred_at := occurred_at }
    let broker := { broker with next_sequence := sequence + 1 }
    if receipt.validate then (.ok ⟨broker.broker_nonce, receipt⟩, broker)
    else (.error .InvalidRequest, broker)

/-- A receipt with the bytes that were read, if any. -/
def receipted (built : BrokerResult P TrustedToolReceipt) (read_bytes : Option P) :
    BrokerResult P (ToolExecutionResult P) :=
  (built.1.map fun receipt => ⟨receipt, read_bytes⟩, built.2)

def denied_result (broker : WorkspaceCapabilityBroker P) (request : ToolRequestV1)
    (code : ToolDeniedCodeV1) (snapshot : SnapshotPoint) (occurred_at : DateTime) :
    BrokerResult P (ToolExecutionResult P) :=
  receipted (build_receipt backend broker request (.Denied code) snapshot snapshot occurred_at) none

/-- A failure of the host ends the lease and removes its root. -/
def backend_failure {α : Type} (broker : WorkspaceCapabilityBroker P) (lease_id : String) :
    BrokerProg P (BrokerResult P α) :=
  match broker.leases[lease_id]? with
  | none => pure (.error .BackendFailure, broker)
  | some record => do
    let removed ← Native.cleanup_owned_root record.root
    pure (.error .BackendFailure, broker.with_lease_state lease_id record
      (if removed then .Closed else .CleanupRequired .Failed))

def authority_active_at (authority : FoundationAuthorityV1) (at_ : DateTime) : Bool :=
  authority_authorizes_time authority at_

/-! ## Admission -/

structure AdmissionContext where
  lease : LeaseRecord
  grant : GrantRecord
  before : WorkspaceSnapshotV1

/-- The part of the admission that does not look at the tree. -/
def admit_binding (broker : WorkspaceCapabilityBroker P) (request : ToolRequestV1)
    (evaluation_time : DateTime) : Except ToolDeniedCodeV1 (LeaseRecord × GrantRecord) := do
  reject_if (evaluation_time < request.requested_at) .InvalidBinding
  let lease ← ok_or broker.leases[request.lease_id]? .InvalidBinding
  let grant ← ok_or broker.grants[request.grant_id]? .InvalidBinding
  reject_if (¬ (validate_registry_lease backend lease).isOk
    ∨ ¬ (validate_registry_grant backend grant).isOk
    ∨ lease.state ≠ .Active
    ∨ request.lease_digest ≠ lease.digest
    ∨ request.grant_digest ≠ grant.digest
    ∨ request.workspace_id ≠ lease.dto.workspace_id
    ∨ request.workspace_id ≠ grant.dto.workspace_id
    ∨ request.invocation_id ≠ lease.dto.invocation_id
    ∨ request.invocation_id ≠ grant.dto.invocation_id
    ∨ request.invocation_digest ≠ lease.dto.invocation_digest
    ∨ request.invocation_digest ≠ grant.dto.invocation_digest
    ∨ request.attempt ≠ lease.dto.attempt
    ∨ request.attempt ≠ grant.dto.attempt
    ∨ request.scope ≠ lease.dto.scope
    ∨ request.scope ≠ grant.dto.scope
    ∨ request.requester ≠ grant.dto.grantee
    ∨ grant.dto.lease_id ≠ lease.dto.lease_id
    ∨ grant.dto.lease_digest ≠ lease.digest
    ∨ grant.dto.snapshot_digest ≠ request.expected_snapshot_digest
    ∨ lease.invocation.invocation_id ≠ request.invocation_id
    ∨ lease.invocation.canonical_digest backend.sha256.toControlPlaneDigests
      ≠ some request.invocation_digest) .InvalidBinding
  reject_if (¬ authority_active_at lease.invocation.authority evaluation_time
    ∨ ¬ authority_active_at grant.dto.grant_authority evaluation_time
    ∨ evaluation_time < grant.dto.valid_from ∨ grant.dto.valid_until ≤ evaluation_time
    ∨ evaluation_time < lease.dto.issued_at ∨ lease.dto.expires_at ≤ evaluation_time) .Expired
  reject_if (request.expected_snapshot_digest ≠ lease.snapshot.snapshot_digest) .StaleSnapshot
  reject_if (request.requester.role ≠ lease.invocation.target.role
    ∨ request.requester.role = .Owner ∨ request.requester.role = .Coordinator) .RoleForbidden
  reject_if (backend.overlaps_protected_root lease.root) .ProtectedRoot
  pure (lease, grant)

/-- A request is admitted, or denied by a code. -/
def admit_request (broker : WorkspaceCapabilityBroker P) (request : ToolRequestV1)
    (evaluation_time : DateTime) : BrokerProg P (Except ToolDeniedCodeV1 AdmissionContext) :=
  match admit_binding backend broker request evaluation_time with
  | .error code => pure (.error code)
  | .ok (lease, grant) => do
    let verified ← Native.verify_ordinary_tree lease.root
      request.operation.logical_path
    match verified with
    | .error code => pure (.error code)
    | .ok _ => do
      let observed ← captured backend lease lease.snapshot.generation
      pure (do
        let observed ← ok_or observed .WorkspaceInvalid
        reject_if (observed ≠ lease.snapshot) .StaleSnapshot
        pure ⟨lease, grant, observed⟩)

/-! ## Denials -/

def segment_denial (segment : List UInt8) : Option ToolDeniedCodeV1 :=
  if segment.isEmpty ∨ MAX_LOGICAL_PATH_SEGMENT_BYTES < segment.length
      ∨ segment.any fun byte => !(is_ascii_alphanumeric byte || is_id_punctuation byte && byte != 58)
  then some .PathForbidden
  else if segment.getLast? = some 46 ∨ is_windows_reserved_basename (segment.takeWhile (· != 46))
  then some .AliasForbidden
  else none

/-- What keeps the path from being one, in the order of `validate_logical_path`: bytes past
ASCII, a slash at the start, backslashes and colons before any segment is looked at. -/
def classify_logical_path (path : String) : Option ToolDeniedCodeV1 :=
  let bytes := as_bytes path
  let segments := bytes.splitOn 47
  if bytes.isEmpty ∨ MAX_LOGICAL_PATH_BYTES < bytes.length
      ∨ bytes.any (fun byte => decide (128 ≤ byte) || byte == 92 || byte == 58)
      ∨ bytes.head? = some 47 ∨ MAX_LOGICAL_PATH_SEGMENTS < segments.length
  then some .PathForbidden
  else segments.findSome? segment_denial

def path_denial (path : String) (granted : List String) : ToolDeniedCodeV1 :=
  if granted.any fun candidate => case_folded candidate == case_folded path then .AliasForbidden
  else .PathForbidden

/-- The file of a path, by a snapshot. -/
def file_at (snapshot : WorkspaceSnapshotV1) (logical_path : String) : Option WorkspaceFileV1 :=
  snapshot.files.find? fun file => file.logical_path == logical_path

/-- A file that has just the content. -/
def holds_content (snapshot : WorkspaceSnapshotV1) (logical_path content_sha256 : String)
    (byte_length : ℕ) : Bool :=
  snapshot.files.any fun file => file.logical_path == logical_path
    && file.sha256 == content_sha256 && file.byte_length == byte_length

def read_denial (admission : AdmissionContext) (logical_path : String) (write_bytes : Option P) :
    Option ToolDeniedCodeV1 :=
  match classify_logical_path logical_path with
  | some code => some code
  | none =>
    if write_bytes.isSome then some .PayloadMismatch
    else if logical_path ∉ admission.grant.dto.read_paths then
      some (path_denial logical_path admission.grant.dto.read_paths)
    else match file_at admission.before logical_path with
      | none => some .WorkspaceInvalid
      | some file =>
        if admission.grant.dto.max_read_bytes < file.byte_length then some .LimitExceeded else none

def write_denial (admission : AdmissionContext) (request : ToolRequestV1)
    (logical_path content_sha256 : String) (byte_length : ℕ) (write_bytes : Option P) :
    Option ToolDeniedCodeV1 :=
  match classify_logical_path logical_path with
  | some code => some code
  | none =>
    if request.requester.role ≠ .Engineer then some .RoleForbidden
    else if logical_path ∉ admission.grant.dto.write_paths then
      some (path_denial logical_path admission.grant.dto.write_paths)
    else if admission.grant.dto.max_write_bytes < byte_length then some .LimitExceeded
    else match write_bytes with
      | none => some .PayloadMismatch
      | some bytes =>
        if backend.byte_length bytes ≠ byte_length ∨ backend.sha256.bytes bytes ≠ content_sha256 then
          some .PayloadMismatch
        else if holds_content admission.before logical_path content_sha256 byte_length then
          some .NoChange
        else none

/-! ## Reads and writes -/

/-- The content of a path in a snapshot, as the manifest has it. -/
def manifest_entry (snapshot : WorkspaceSnapshotV1) (path : String) : Option (String × ℕ) :=
  (snapshot.files.reverse.find? fun file => file.logical_path == path).map fun file =>
    (file.sha256, file.byte_length)

def exactly_one_manifest_entry_changed (before after : WorkspaceSnapshotV1)
    (expected_path : String) : Bool :=
  decide (before.generation + 1 ≤ U64_MAX) && before.generation + 1 == after.generation
    && before.workspace_id == after.workspace_id && before.lease_id == after.lease_id
    && (((before.files ++ after.files).map WorkspaceFileV1.logical_path).dedup.filter fun path =>
      manifest_entry before path != manifest_entry after path) == [expected_path]

/-- The count of calls of the backend, which ends the operation where it overflows. -/
def count_call (broker : WorkspaceCapabilityBroker P) :
    Except WorkspaceCapabilityError (WorkspaceCapabilityBroker P) := do
  reject_if (U64_MAX < broker.backend_calls + 1) .BackendFailure
  pure { broker with backend_calls := broker.backend_calls + 1 }

def execute_read (broker : WorkspaceCapabilityBroker P) (request : ToolRequestV1)
    (admission : AdmissionContext) (logical_path : String) (evaluation_time : DateTime) :
    BrokerProg P (BrokerResult P (ToolExecutionResult P)) := do
  let broker ← broker.count_call
  let point := snapshot_point admission.before
  let bytes ← Native.read admission.lease.root logical_path
  match bytes with
  | none => backend_failure broker request.lease_id
  | some bytes =>
    match file_at admission.before logical_path with
    | none => pure (.error .BackendFailure, broker)
    | some expected =>
      if backend.sha256.bytes bytes ≠ expected.sha256
          ∨ backend.byte_length bytes ≠ expected.byte_length then
        backend_failure broker request.lease_id
      else
        pure (receipted (build_receipt backend broker request
          (.Read expected.sha256 expected.byte_length) point point evaluation_time) (some bytes))

/-- What follows a write: the tree has changed in the one file. -/
def finish_write (broker : WorkspaceCapabilityBroker P) (request : ToolRequestV1)
    (admission : AdmissionContext) (logical_path content_sha256 : String) (byte_length : ℕ)
    (evaluation_time : DateTime) : BrokerProg P (BrokerResult P (ToolExecutionResult P)) :=
  let before := admission.before
  if U64_MAX < before.generation + 1 then pure (.error .BackendFailure, broker)
  else do
    let after ← captured backend admission.lease (before.generation + 1)
    match after with
    | none => backend_failure broker request.lease_id
    | some after =>
      if ¬ exactly_one_manifest_entry_changed before after logical_path
          ∨ ¬ holds_content after logical_path content_sha256 byte_length then
        backend_failure broker request.lease_id
      else match broker.leases[request.lease_id]? with
        | none => pure (.error .BackendFailure, broker)
        | some record =>
          let broker := { broker with
            leases := broker.leases.insert request.lease_id { record with snapshot := after } }
          pure (receipted (build_receipt backend broker request
            (.Written content_sha256 byte_length) (snapshot_point before) (snapshot_point after)
            evaluation_time) none)

def execute_write (broker : WorkspaceCapabilityBroker P) (request : ToolRequestV1)
    (admission : AdmissionContext) (logical_path content_sha256 : String) (byte_length : ℕ)
    (bytes : P) (evaluation_time : DateTime) :
    BrokerProg P (BrokerResult P (ToolExecutionResult P)) := do
  let broker ← broker.count_call
  let written ← Native.write admission.lease.root logical_path bytes
  if written then
    finish_write backend broker request admission logical_path content_sha256 byte_length
      evaluation_time
  else backend_failure broker request.lease_id

def operation_denial (admission : AdmissionContext) (request : ToolRequestV1)
    (write_bytes : Option P) : Option ToolDeniedCodeV1 :=
  match request.operation with
  | .Unsupported _ _ => some .UnsupportedOperation
  | .ReadFile logical_path => read_denial admission logical_path write_bytes
  | .WriteFile logical_path content_sha256 byte_length =>
    write_denial backend admission request logical_path content_sha256 byte_length write_bytes

def execute_fresh (broker : WorkspaceCapabilityBroker P) (request : ToolRequestV1)
    (write_bytes : Option P) (evaluation_time : DateTime) :
    BrokerProg P (BrokerResult P (ToolExecutionResult P)) := do
  let fallback := broker.snapshot_point_for_request request
  let admitted ← admit_request backend broker request evaluation_time
  match admitted with
  | .error code => pure (denied_result backend broker request code fallback evaluation_time)
  | .ok admission =>
    match operation_denial backend admission request write_bytes with
    | some code => pure (denied_result backend broker request code
        (snapshot_point admission.before) evaluation_time)
    | none =>
      match request.operation, write_bytes with
      | .ReadFile logical_path, _ =>
        execute_read backend broker request admission logical_path evaluation_time
      | .WriteFile logical_path content_sha256 byte_length, some bytes =>
        execute_write backend broker request admission logical_path content_sha256 byte_length bytes
          evaluation_time
      -- A write without bytes and an unsupported operation are denied above.
      | .WriteFile _ _ _, none | .Unsupported _ _, _ => pure (.error .InvalidRequest, broker)

/-- A request with the key of an earlier one: the earlier answer, or a conflict. -/
def execute_known (broker : WorkspaceCapabilityBroker P) (request : ToolRequestV1)
    (record : IdempotencyRecord P) : BrokerResult P (ToolExecutionResult P) :=
  if record.canonical_request = request then (.ok record.result, broker)
  else match record.conflicts.find? fun conflict => conflict.1 == request with
    | some existing => (.ok existing.2, broker)
    | none =>
      let basis := record.result.receipt.observation
      let denied := denied_result backend broker request .IdempotencyConflict
        ⟨basis.after_snapshot_digest, basis.after_generation⟩ basis.occurred_at
      match denied with
      | (.error e, broker) => (.error e, broker)
      | (.ok conflict, broker) => (.ok conflict, { broker with
          idempotency := broker.idempotency.insert request.idempotency_key
            { record with conflicts := record.conflicts ++ [(request, conflict)] } })

/-- A fresh request, whose result is kept under its key. -/
def execute_recorded (broker : WorkspaceCapabilityBroker P) (request : ToolRequestV1)
    (write_bytes : Option P) (evaluation_time : DateTime) :
    BrokerProg P (BrokerResult P (ToolExecutionResult P)) := do
  let executed ← execute_fresh backend broker request write_bytes evaluation_time
  match executed with
  | (.error e, broker) => pure (.error e, broker)
  | (.ok result, broker) => pure (.ok result, { broker with
      idempotency := broker.idempotency.insert request.idempotency_key ⟨request, result, []⟩ })

/-- The request of a lease that the broker does not have is denied further on. -/
def require_lease_request (broker : WorkspaceCapabilityBroker P)
    (loaded : Option (LoadedExecutionRun (EngineerVerifierStateV1 P) R))
    (request : ToolRequestV1) : Except WorkspaceCapabilityError Unit :=
  check_some broker.leases[request.lease_id]? fun record =>
    record.durable_binding.require_request backend.sha256 loaded request broker.next_sequence

def execute (broker : WorkspaceCapabilityBroker P)
    (loaded : Option (LoadedExecutionRun (EngineerVerifierStateV1 P) R)) (request : ToolRequestV1)
    (write_bytes : Option P) (evaluation_time : DateTime) :
    BrokerProg P (BrokerResult P (ToolExecutionResult P)) := do
  validate_receiptable_request request
  broker.require_lease_request backend loaded request
  match broker.idempotency[request.idempotency_key]? with
  | some record => pure (execute_known backend broker request record)
  | none => execute_recorded backend broker request write_bytes evaluation_time

end WorkspaceCapabilityBroker

end OvcaCore

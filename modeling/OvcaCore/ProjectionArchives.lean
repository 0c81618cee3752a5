/-
Archives of projections, recovery from them, and the health report
(`ovca-storage/src/local_verification/operations.rs`).

An archive is a selection under an identity that its caller chose, held as the canonical
bytes of a manifest and addressed by their digest. The archive tables are made on first
use, when the files of an older layout are imported once; what is found in the directory
then is an argument (`LegacyFiles`). A call reads, imports and writes in transactions of its
own, so it may fail after an import has been committed.

Decoding a manifest is a parameter (`ArchiveCodec`); that its bytes are UTF-8 is part of it.
The schemas of the archive tables are those that the code creates.
-/
import OvcaCore.EvidenceProjections

set_option autoImplicit false

namespace OvcaCore

open OvcaCore.Checks LocalVerificationStore

def ARCHIVE_VERSION : String := "ovca.local-verification-projection-archive.v1"
def ARCHIVE_MAX_BYTES : ℕ := 1048576
def ARCHIVE_ID_MAX_BYTES : ℕ := 256
def OPERATOR_MAX_ROWS : ℕ := 1024

structure ProjectionArchiveManifest where
  archive_version : String
  archive_id : String
  selection : AuthoritativeProjectionSelection
  deriving DecidableEq

/-- The logical reference of a record is a text made of its digest. -/
structure ArchiveRecord where
  manifest : ProjectionArchiveManifest
  record_digest : String
  canonical_bytes : ℕ
  deriving DecidableEq

/-- A row of `projection_archives`. -/
structure ArchiveRow where
  record_digest : String
  canonical_json : List UInt8
  deriving DecidableEq

structure ArchiveIdentityMapping where
  archive_id : String
  record_digest : String
  deriving DecidableEq, Repr

/-- The files of the older layout: records by the digest in their name, and identity
mappings, each with the bytes of its file. -/
structure LegacyFiles where
  records : List (String × List UInt8)
  identities : List ArchiveIdentityMapping

/-- The store with its archive tables. Before the import there are none. -/
structure ArchiveStore where
  store : LocalVerificationStore
  archives : BTreeMap String ArchiveRow
  legacy_import_complete : Bool

def ArchiveStore.empty : ArchiveStore := ⟨.empty, ∅, false⟩

/-- The encoding of a manifest, and decoding, which gives back what was encoded. -/
structure ArchiveCodec extends StoreCodec where
  manifest : ProjectionArchiveManifest → List UInt8
  manifest_of : List UInt8 → Option ProjectionArchiveManifest
  manifest_of_manifest : ∀ value, manifest_of (manifest value) = some value

/-! ## Validation of a selection -/

section Selections

variable (codec : StoreCodec)

def validate_archive_id (archive_id : String) : LocalVerificationStoreResult Unit :=
  reject_if (as_bytes archive_id = [] ∨ ARCHIVE_ID_MAX_BYTES < (as_bytes archive_id).length
    ∨ ¬ ((as_bytes archive_id).all fun byte =>
      is_ascii_alphanumeric byte || byte == 45 || byte == 95 || byte == 46) = true
    ∨ ¬ (as_bytes archive_id).head?.any is_ascii_alphanumeric = true) .InvalidArchive

def validate_archive_selection_bounds (selection : AuthoritativeProjectionSelection) :
    LocalVerificationStoreResult Unit := do
  selection.validate codec
  reject_if (OPERATOR_MAX_ROWS < selection.capabilities.length + selection.bundles.length)
    .ArchiveTooLarge

/-- Every dependency is one of the ids. -/
def closed_under (capability_ids dependencies : List String) : Bool :=
  dependencies.all fun dependency => capability_ids.contains dependency

/-- The capability set, command set and policy digests of a bundle, recomputed from the
current rows and the records of its capabilities. -/
def exact_bundle_capability_fingerprints (capability_ids : List String)
    (currents : String → Option CapabilityCurrent)
    (records : CapabilityRevision → Option CapabilityRecord) :
    LocalVerificationStoreResult (String × String × String) := do
  let selected ← map_checked (fun capability_id => do
    let current ← ok_or (currents capability_id) .InvalidProjectionSelection
    let record ← ok_or (records ⟨capability_id, current.revision⟩) .MissingRecord
    reject_if (closed_under capability_ids record.definition.dependencies = false)
      .InvalidProjectionSelection
    return ((⟨capability_id, current.revision, current.record_digest⟩ : SelectedCapability),
      record.definition)) capability_ids
  let capability_set ← ok_or (verification_selected_capability_set_digest codec.toVerificationJson
    (selected.map Prod.fst)) .InvalidContract
  let command_set ← ok_or (verification_command_set_digest codec.toVerificationJson
    (selected.map Prod.snd)) .InvalidContract
  let policy ← ok_or (verification_policy_digest codec.toVerificationJson
    (selected.map Prod.snd)) .InvalidContract
  return (capability_set, command_set, policy)

/-- The recomputed digests are those of the bundle. -/
def fingerprints_match (bundle : VerificationBundle) (expected : String × String × String) : Bool :=
  bundle.fingerprints.capability_set == expected.1 && bundle.fingerprints.command == expected.2.1
    && bundle.fingerprints.policy == expected.2.2

/-- A selected capability has its record and its dependencies selected. -/
def validate_selected_capability (store : LocalVerificationStore) (capability_ids : List String)
    (current : CapabilityCurrent) :
    LocalVerificationStoreResult (CapabilityCurrent × CapabilityRecord) := do
  validate_capability_selection codec store current
  let record ← ok_or (← load_capability codec store current.capability_id current.revision)
    .MissingRecord
  reject_if (closed_under capability_ids record.definition.dependencies = false)
    .InvalidProjectionSelection
  return (current, record)

def validate_selected_bundle (store : LocalVerificationStore)
    (currents : BTreeMap String CapabilityCurrent)
    (records : BTreeMap CapabilityRevision CapabilityRecord) (current : EvidenceCurrent) :
    LocalVerificationStoreResult Unit := do
  validate_bundle_selection codec store current
  let record ← ok_or (← load_bundle_by_digest codec store current.record_digest) .MissingRecord
  let expected ← exact_bundle_capability_fingerprints codec record.bundle.capability_ids
    (currents[·]?) (records[·]?)
  reject_if (fingerprints_match record.bundle expected = false) .InvalidProjectionSelection

/-- The maps that the loop over the capabilities fills. -/
def current_map (rows : List (CapabilityCurrent × CapabilityRecord)) :
    BTreeMap String CapabilityCurrent :=
  rows.foldl (fun map row => map.insert row.1.capability_id row.1) ∅

def record_map (rows : List (CapabilityCurrent × CapabilityRecord)) :
    BTreeMap CapabilityRevision CapabilityRecord :=
  rows.foldl (fun map row => map.insert ⟨row.1.capability_id, row.1.revision⟩ row.2) ∅

def validate_selection_records (store : LocalVerificationStore)
    (selection : AuthoritativeProjectionSelection) : LocalVerificationStoreResult Unit := do
  selection.validate codec
  let rows ← map_checked (validate_selected_capability codec store
    (selection.capabilities.map CapabilityCurrent.capability_id)) selection.capabilities
  check_all selection.bundles
    (validate_selected_bundle codec store (current_map rows) (record_map rows))

/-- `require_fresh_capability_generation` and `require_fresh_bundle_generation`. -/
def require_fresh_generation {κ ρ : Type} [Ord κ] [Std.TransOrd κ] (projection : Projection κ ρ)
    (key : κ) (token : CasToken) : LocalVerificationStoreResult Unit := do
  match ← projection.load_generation key with
  | none =>
    reject_if (projection.current[key]?.isSome = true) .InvalidArchive
    reject_if (token.generation ≠ 1) (.RecoveryRequiresFreshGeneration token.generation 0)
  | some durable =>
    reject_if (token.generation ≤ durable.generation)
      (.RecoveryRequiresFreshGeneration token.generation durable.generation)

def require_pristine_genesis (store : LocalVerificationStore) :
    LocalVerificationStoreResult Unit :=
  reject_if (¬ (store.capability_records.isEmpty && store.bundle_records.isEmpty
    && store.capabilities.current.isEmpty && store.bundles.current.isEmpty
    && store.capabilities.generations.isEmpty && store.bundles.generations.isEmpty) = true)
    .InvalidArchive

/-- Every key that has an allocator or a row is selected. -/
def require_complete_allocator_selection (store : LocalVerificationStore)
    (selection : AuthoritativeProjectionSelection) : LocalVerificationStoreResult Unit := do
  reject_if (OPERATOR_MAX_ROWS
    < store.capabilities.generations.size + store.bundles.generations.size) .ArchiveTooLarge
  check_all (store.capabilities.generations.keys ++ store.capabilities.current.keys)
    fun capability_id => reject_if
      (capability_id ∉ selection.capabilities.map CapabilityCurrent.capability_id) .InvalidArchive
  check_all (store.bundles.generations.keys ++ store.bundles.current.keys)
    fun key => reject_if (key ∉ selection.bundles.map EvidenceCurrent.key) .InvalidArchive

/-- The transaction of a recovery. -/
def recover_selection (store : LocalVerificationStore)
    (selection : AuthoritativeProjectionSelection) :
    LocalVerificationStoreResult LocalVerificationStore := do
  validate_selection_records codec store selection
  match selection.intent with
  | .Genesis =>
    require_pristine_genesis store
    return store
  | .Reset => throw .InvalidArchive
  | .Replace =>
    require_complete_allocator_selection store selection
    check_all selection.capabilities fun current =>
      require_fresh_generation store.capabilities current.capability_id current.token
    check_all selection.bundles fun current =>
      require_fresh_generation store.bundles current.key current.token
    write_selection codec store selection

end Selections

/-! ## Archives -/

section Archives

variable (codec : ArchiveCodec)

def decode_archive_manifest (bytes : List UInt8) (record_digest : String) :
    LocalVerificationStoreResult ProjectionArchiveManifest := do
  reject_if (ARCHIVE_MAX_BYTES < bytes.length) .ArchiveTooLarge
  reject_if (codec.sha256_hex bytes ≠ record_digest) .InvalidArchive
  let manifest ← ok_or (codec.manifest_of bytes) .InvalidArchive
  reject_if (codec.manifest manifest ≠ bytes) .InvalidArchive
  return manifest

/-- An identity is claimed once, and so is a content address. -/
def claim_projection_archive_tx (archives : BTreeMap String ArchiveRow)
    (archive_id record_digest : String) (canonical_bytes : List UInt8) :
    LocalVerificationStoreResult (BTreeMap String ArchiveRow) :=
  match archives[archive_id]? with
  | some owned => do
    reject_if (owned.record_digest ≠ record_digest ∨ owned.canonical_json ≠ canonical_bytes)
      .InvalidArchive
    return archives
  | none => do
    reject_if (archives.toList.any fun entry => entry.2.record_digest == record_digest)
      .InvalidArchive
    return archives.insert archive_id ⟨record_digest, canonical_bytes⟩

/-- One file of a record in the scan, which gives its mapping. -/
def scan_record (entry : String × List UInt8) :
    LocalVerificationStoreResult ArchiveIdentityMapping := do
  validate_digest entry.1
  let manifest ← decode_archive_manifest codec entry.2 entry.1
  validate_archive_id manifest.archive_id
  reject_if (manifest.archive_version ≠ ARCHIVE_VERSION) .InvalidArchive
  return ⟨manifest.archive_id, entry.1⟩

/-- No two mappings share an identity or a digest. -/
def unambiguous (mappings : List ArchiveIdentityMapping) : Bool :=
  decide (mappings.map ArchiveIdentityMapping.archive_id).Nodup
    && decide (mappings.map ArchiveIdentityMapping.record_digest).Nodup

/-- The order that the scan sorts both lists by. -/
def sort_mappings (mappings : List ArchiveIdentityMapping) : List ArchiveIdentityMapping :=
  mappings.mergeSort fun left right => decide (left.archive_id < right.archive_id)
    || left.archive_id == right.archive_id && decide (left.record_digest ≤ right.record_digest)

def scan_archive_ownership (legacy : LegacyFiles) :
    LocalVerificationStoreResult (List ArchiveIdentityMapping) := do
  reject_if (OPERATOR_MAX_ROWS < legacy.records.length
    ∨ OPERATOR_MAX_ROWS < legacy.identities.length) .ArchiveTooLarge
  let record_mappings ← map_checked (scan_record codec) legacy.records
  reject_if (unambiguous record_mappings = false) .InvalidArchive
  check_all legacy.identities fun mapping => do
    validate_archive_id mapping.archive_id
    validate_digest mapping.record_digest
  reject_if (unambiguous legacy.identities = false) .InvalidArchive
  reject_if (sort_mappings record_mappings ≠ sort_mappings legacy.identities) .InvalidArchive
  return sort_mappings record_mappings

/-- One archive of the older layout is imported. -/
def import_archive (legacy : LegacyFiles) (store : LocalVerificationStore)
    (archives : BTreeMap String ArchiveRow) (mapping : ArchiveIdentityMapping) :
    LocalVerificationStoreResult (BTreeMap String ArchiveRow) := do
  let bytes ← ok_or (legacy.records.lookup mapping.record_digest) .InvalidArchive
  let manifest ← decode_archive_manifest codec bytes mapping.record_digest
  reject_if (manifest.archive_version ≠ ARCHIVE_VERSION
    ∨ manifest.archive_id ≠ mapping.archive_id) .InvalidArchive
  validate_archive_selection_bounds codec.toStoreCodec manifest.selection
  validate_selection_records codec.toStoreCodec store manifest.selection
  claim_projection_archive_tx archives mapping.archive_id mapping.record_digest bytes

def ensure_projection_archive_migration (legacy : LegacyFiles) (state : ArchiveStore) :
    LocalVerificationStoreResult ArchiveStore := do
  if state.legacy_import_complete = true then return state
  let mappings ← scan_archive_ownership codec legacy
  let archives ← fold_checked (import_archive codec legacy state.store) ∅ mappings
  return { state with archives, legacy_import_complete := true }

/-- The read of an archive, after the import. -/
def read_owned_archive (state : ArchiveStore) (archive_id expected_record_digest : String) :
    LocalVerificationStoreResult ArchiveRecord := do
  reject_if (state.legacy_import_complete = false) .InvalidArchive
  let row ← ok_or (state.archives[archive_id]?.filter fun row =>
    row.record_digest == expected_record_digest) .InvalidArchive
  let manifest ← decode_archive_manifest codec row.canonical_json expected_record_digest
  reject_if (manifest.archive_version ≠ ARCHIVE_VERSION ∨ manifest.archive_id ≠ archive_id)
    .InvalidArchive
  validate_archive_selection_bounds codec.toStoreCodec manifest.selection
  validate_selection_records codec.toStoreCodec state.store manifest.selection
  return ⟨manifest, expected_record_digest, row.canonical_json.length⟩

/-- A call gives its result and the state that it leaves, also when it fails. -/
abbrev ArchiveCall (α : Type) := LocalVerificationStoreResult α × ArchiveStore

/-- What a call does after the import. -/
def after_migration {α : Type} (legacy : LegacyFiles) (state : ArchiveStore)
    (call : ArchiveStore → ArchiveCall α) : ArchiveCall α :=
  match ensure_projection_archive_migration codec legacy state with
  | .error error => (.error error, state)
  | .ok state => call state

def read_projection_archive (legacy : LegacyFiles) (state : ArchiveStore)
    (archive_id expected_record_digest : String) : ArchiveCall ArchiveRecord :=
  match (do validate_archive_id archive_id; validate_digest expected_record_digest) with
  | .error error => (.error error, state)
  | .ok () => after_migration codec legacy state fun state =>
    (read_owned_archive codec state archive_id expected_record_digest, state)

/-- The transaction of a publication. -/
def claim_archive (state : ArchiveStore) (archive_id : String)
    (selection : AuthoritativeProjectionSelection) :
    LocalVerificationStoreResult (String × ArchiveStore) := do
  let bytes := codec.manifest ⟨ARCHIVE_VERSION, archive_id, selection⟩
  reject_if (ARCHIVE_MAX_BYTES < bytes.length) .ArchiveTooLarge
  let record_digest := codec.sha256_hex bytes
  reject_if (state.legacy_import_complete = false) .InvalidArchive
  let archives ← claim_projection_archive_tx state.archives archive_id record_digest bytes
  return (record_digest, { state with archives })

def persist_projection_archive (legacy : LegacyFiles) (state : ArchiveStore) (archive_id : String)
    (selection : AuthoritativeProjectionSelection) : ArchiveCall ArchiveRecord :=
  match (do
      validate_archive_id archive_id
      validate_archive_selection_bounds codec.toStoreCodec selection
      validate_selection_records codec.toStoreCodec state.store selection) with
  | .error error => (.error error, state)
  | .ok () => after_migration codec legacy state fun state =>
    match claim_archive codec state archive_id selection with
    | .error error => (.error error, state)
    | .ok (record_digest, state) =>
      read_projection_archive codec legacy state archive_id record_digest

def recover_projections_from_archive (legacy : LegacyFiles) (state : ArchiveStore)
    (archive_id expected_record_digest : String)
    (exact_selection : AuthoritativeProjectionSelection) : ArchiveCall Unit :=
  match read_projection_archive codec legacy state archive_id expected_record_digest with
  | (.error error, state) => (.error error, state)
  | (.ok archive, state) =>
    if archive.manifest.selection ≠ exact_selection then (.error .InvalidArchive, state)
    else
      match recover_selection codec.toStoreCodec state.store exact_selection with
      | .error error => (.error error, state)
      | .ok store => (.ok (), { state with store })

end Archives

/-! ## Health -/

inductive LocalVerificationHealthState where
  | Healthy
  | Unhealthy
  | LimitExceeded
  | RecoveryRequired
  deriving DecidableEq, Repr

structure LocalVerificationHealthSection where
  state : LocalVerificationHealthState
  checked : ℕ
  issue_codes : List String
  deriving DecidableEq, Repr

structure LocalVerificationHealthReport where
  immutable_record_integrity : LocalVerificationHealthSection
  current_projection_integrity : LocalVerificationHealthSection
  capability_dependency_health : LocalVerificationHealthSection
  evidence_binding_health : LocalVerificationHealthSection
  recovery_required : LocalVerificationHealthSection
  deriving DecidableEq, Repr

/-- A set of codes, as the sorted list of its members. -/
def issue_codes (issues : List String) : List String := issues.mergeSort.dedup

def health_section (overflow : Bool) (checked : ℕ) (issues : List String) :
    LocalVerificationHealthSection where
  state := if overflow then .LimitExceeded else if issues.isEmpty then .Healthy else .Unhealthy
  checked := min checked U32_MAX
  issue_codes := issue_codes issues

section Health

variable (codec : StoreCodec) (store : LocalVerificationStore)

/-- The records that load, where there are not too many. -/
def health_capability_records (immutable_overflow : Bool) :
    List (CapabilityRevision × CapabilityRecord) :=
  if immutable_overflow then [] else
    store.capability_records.keys.filterMap fun key =>
      match load_capability codec store key.capability_id key.revision with
      | .ok (some record) => some (key, record)
      | _ => none

def health_immutable_issues (immutable_overflow : Bool) : List String :=
  if immutable_overflow then ["record_limit_exceeded"] else
    (store.capability_records.keys.flatMap fun key =>
      match load_capability codec store key.capability_id key.revision with
      | .ok (some _) => []
      | _ => ["capability_record_invalid"])
    ++ store.bundle_records.values.flatMap fun row =>
      match load_bundle_by_digest codec store row.digest with
      | .ok (some _) => []
      | _ => ["bundle_record_invalid"]

/-- A row that loads, with its checks made a second time. -/
def health_capability_current (capability_id : String) : Option CapabilityCurrent :=
  match load_capability_current codec store capability_id with
  | .ok (some current) =>
    if (validate_capability_selection codec store current).isOk
      && (store.capabilities.validate_allocator_at_least capability_id current.token).isOk
    then some current else none
  | _ => none

def health_bundle_current (key : EvidenceKey) : Option EvidenceCurrent :=
  match load_bundle_current codec store key with
  | .ok (some current) =>
    if (validate_bundle_selection codec store current).isOk
      && (store.bundles.validate_allocator_at_least key current.token).isOk
    then some current else none
  | _ => none

def health_current_capabilities : List CapabilityCurrent :=
  store.capabilities.current.keys.filterMap (health_capability_current codec store)

def health_capability_issues : List String :=
  store.capabilities.current.keys.flatMap fun capability_id =>
    match health_capability_current codec store capability_id with
    | some _ => []
    | none => ["capability_projection_invalid"]

/-- The issues of a bundle row: of the projections, and of the evidence. -/
def health_bundle_issues (currents : BTreeMap String CapabilityCurrent)
    (records : BTreeMap CapabilityRevision CapabilityRecord) (key : EvidenceKey) :
    LocalVerificationStoreResult (List String × List String) :=
  match health_bundle_current codec store key with
  | none => .ok (["bundle_projection_invalid"], ["bundle_binding_invalid"])
  | some current => do
    let record ← ok_or (← load_bundle_by_digest codec store current.record_digest) .MissingRecord
    match exact_bundle_capability_fingerprints codec record.bundle.capability_ids
        (currents[·]?) (records[·]?) with
    | .ok expected =>
      return ([], if fingerprints_match record.bundle expected then []
        else ["bundle_capability_set_mismatch"])
    | .error _ => return ([], ["bundle_capability_set_mismatch"])

def health_dependency_issues (currents : BTreeMap String CapabilityCurrent)
    (records : BTreeMap CapabilityRevision CapabilityRecord) (current : CapabilityCurrent) :
    List String :=
  match records[(⟨current.capability_id, current.revision⟩ : CapabilityRevision)]? with
  | none => ["current_capability_record_missing"]
  | some record =>
    if record.definition.dependencies.all fun id => currents[id]?.isSome then []
    else ["capability_dependency_not_current"]

def local_verification_health : LocalVerificationStoreResult LocalVerificationHealthReport := do
  let record_count := store.capability_records.size + store.bundle_records.size
  let current_count := store.capabilities.current.size + store.bundles.current.size
  let immutable_overflow := decide (OPERATOR_MAX_ROWS < record_count)
  let current_overflow := decide (OPERATOR_MAX_ROWS < current_count)
  let records : BTreeMap CapabilityRevision CapabilityRecord :=
    .ofList (health_capability_records codec store immutable_overflow) compare
  let current_capabilities :=
    if current_overflow then [] else health_current_capabilities codec store
  let currents : BTreeMap String CapabilityCurrent :=
    .ofList (current_capabilities.map fun current => (current.capability_id, current)) compare
  let bundle_issues ← if current_overflow then .ok [] else
    map_checked (health_bundle_issues codec store currents records) store.bundles.current.keys
  let limit := if current_overflow then ["projection_limit_exceeded"] else []
  let capability_issues := if current_overflow then [] else health_capability_issues codec store
  let immutable := health_section immutable_overflow record_count
    (health_immutable_issues codec store immutable_overflow)
  let current := health_section current_overflow current_count
    (limit ++ capability_issues ++ bundle_issues.flatMap Prod.fst)
  let dependencies := health_section current_overflow currents.size
    (limit ++ current_capabilities.flatMap (health_dependency_issues currents records))
  let evidence := health_section current_overflow store.bundles.current.size
    (limit ++ bundle_issues.flatMap Prod.snd)
  let recovery_is_required := [immutable, current, dependencies, evidence].any fun part =>
    part.state != .Healthy
  return {
    immutable_record_integrity := immutable
    current_projection_integrity := current
    capability_dependency_health := dependencies
    evidence_binding_health := evidence
    recovery_required := {
      state := if recovery_is_required then .RecoveryRequired else .Healthy
      checked := 0
      issue_codes := if recovery_is_required then ["recovery_required"] else [] } }

end Health

end OvcaCore

/-
The local store of verification records (`ovca-storage/src/local_verification.rs`).

Immutable records of capabilities and bundles, a projection that selects a current row
for a key, and for each key an allocator of generations that outlives the row. Every
operation is one transaction: what it returns with an error is rolled back, so an
operation here is a function that gives the next store only when it succeeds.

A blob column holds the value that its canonical JSON encodes, and the encodings are a
parameter (`StoreCodec`), as is the SHA-256 of the crate. A key of a table is a key of its
map. The foreign keys are not repeated here: the checks of the code imply them. Errors of
SQLite itself are left out, and so are the texts of the errors.
-/
import OvcaCore.BundleBindings
import OvcaCore.Lib.Checks
import OvcaCore.Lib.OrderedMaps

set_option autoImplicit false

namespace OvcaCore

open OvcaCore.Checks

inductive LocalVerificationStoreError where
  | InvalidContract
  | InvalidDigest
  | ImmutableConflict
  | CorruptRecord
  | MissingRecord
  | BindingMismatch
  | GenerationOutOfRange (generation : ℕ)
  | GenerationOverflow (generation : ℕ)
  | EmptyStaleCauses
  | StaleRevivalRequiresDifferentBundle
  | InvalidProjectionSelection
  | NonMonotonicGeneration (selected durable : ℕ)
  | CasWriteLost
  | CapabilitySeedPolicy
  | InvalidArchive
  | ArchiveTooLarge
  | RecoveryRequiresFreshGeneration (selected durable : ℕ)
  deriving DecidableEq, Repr

abbrev LocalVerificationStoreResult (α : Type) := Except LocalVerificationStoreError α

/-! ## Keys -/

/-- The primary key of a capability record. -/
structure CapabilityRevision where
  capability_id : String
  revision : ℕ
  deriving DecidableEq, Repr

instance : Ord CapabilityRevision :=
  ⟨compareLex (compareOn CapabilityRevision.capability_id) (compareOn CapabilityRevision.revision)⟩

instance : Std.TransOrd CapabilityRevision :=
  inferInstanceAs (Std.TransCmp (compareLex (compareOn CapabilityRevision.capability_id)
    (compareOn CapabilityRevision.revision)))

instance : Std.LawfulEqOrd CapabilityRevision where
  compare_self := Std.ReflCmp.compare_self
  eq_of_compare {a b} h := by
    obtain ⟨hid, hrevision⟩ := compareLex_eq_eq.mp h
    cases a
    cases b
    rw [CapabilityRevision.mk.injEq]
    exact ⟨Std.LawfulEqCmp.eq_of_compare hid, Std.LawfulEqCmp.eq_of_compare hrevision⟩

instance : Ord EvidenceKey :=
  ⟨compareLex (compareOn EvidenceKey.run_id)
    (compareLex (compareOn EvidenceKey.goal_id) (compareOn EvidenceKey.task_id))⟩

instance : Std.TransOrd EvidenceKey :=
  inferInstanceAs (Std.TransCmp (compareLex (compareOn EvidenceKey.run_id)
    (compareLex (compareOn EvidenceKey.goal_id) (compareOn EvidenceKey.task_id))))

instance : Std.LawfulEqOrd EvidenceKey where
  compare_self := Std.ReflCmp.compare_self
  eq_of_compare {a b} h := by
    obtain ⟨hrun, h⟩ := compareLex_eq_eq.mp h
    obtain ⟨hgoal, htask⟩ := compareLex_eq_eq.mp h
    cases a
    cases b
    rw [EvidenceKey.mk.injEq]
    exact ⟨Std.LawfulEqCmp.eq_of_compare hrun, Std.LawfulEqCmp.eq_of_compare hgoal,
      Std.LawfulEqCmp.eq_of_compare htask⟩

def VerificationBundle.key (bundle : VerificationBundle) : EvidenceKey where
  run_id := bundle.run_id
  goal_id := bundle.goal_id
  task_id := bundle.task_id

/-! ## Rows -/

structure CapabilityRecord where
  definition : CapabilityDefinition
  digest : String
  deriving DecidableEq

/-- A row of `bundle_records`; the logical reference of a record is a text made of its
digest, which nothing here reads. -/
structure BundleRecord where
  bundle : VerificationBundle
  digest : String
  deriving DecidableEq

structure BundleRow where
  digest : String
  key : EvidenceKey
  bundle : VerificationBundle
  deriving DecidableEq

structure CapabilityCurrent where
  capability_id : String
  revision : ℕ
  record_digest : String
  token : CasToken
  deriving DecidableEq, Repr

structure CapabilityCurrentRow where
  revision : ℕ
  record_digest : String
  token : CasToken
  deriving DecidableEq, Repr

structure BundleCurrentRow where
  bundle_id : String
  record_digest : String
  freshness : EvidenceFreshness
  token : CasToken
  deriving DecidableEq, Repr

def CapabilityCurrent.row (current : CapabilityCurrent) : CapabilityCurrentRow where
  revision := current.revision
  record_digest := current.record_digest
  token := current.token

def CapabilityCurrentRow.at (row : CapabilityCurrentRow) (capability_id : String) :
    CapabilityCurrent where
  capability_id := capability_id
  revision := row.revision
  record_digest := row.record_digest
  token := row.token

def EvidenceCurrent.row (current : EvidenceCurrent) : BundleCurrentRow where
  bundle_id := current.bundle_id
  record_digest := current.record_digest
  freshness := current.freshness
  token := current.token

def BundleCurrentRow.at (row : BundleCurrentRow) (key : EvidenceKey) : EvidenceCurrent where
  key := key
  bundle_id := row.bundle_id
  record_digest := row.record_digest
  freshness := row.freshness
  token := row.token

/-- The binding of a generation to a state, `DurableGenerationBinding`, has the fields of a
token. -/
abbrev DurableGenerationBinding := CasToken

/-- A table of current rows with the table of its allocators. -/
structure Projection (κ ρ : Type) [Ord κ] where
  current : BTreeMap κ ρ
  generations : BTreeMap κ DurableGenerationBinding

structure LocalVerificationStore where
  capability_records : BTreeMap CapabilityRevision CapabilityRecord
  bundle_records : BTreeMap String BundleRow
  capabilities : Projection String CapabilityCurrentRow
  bundles : Projection EvidenceKey BundleCurrentRow

/-- The tables of a new database. -/
def LocalVerificationStore.empty : LocalVerificationStore where
  capability_records := ∅
  bundle_records := ∅
  capabilities := ⟨∅, ∅⟩
  bundles := ⟨∅, ∅⟩

/-! ## Digests -/

inductive ProjectionRebuildIntent where
  | Replace
  | Genesis
  | Reset
  deriving DecidableEq, Repr

/-- What the digest of a current capability is taken of. -/
structure CapabilityStateDigestInput where
  capability_id : String
  revision : ℕ
  record_digest : String
  generation : ℕ
  deriving DecidableEq, Repr

/-- What the digest of a selection is taken of. -/
structure ProjectionSelectionDigestInput where
  intent : ProjectionRebuildIntent
  capabilities : List CapabilityCurrent
  bundles : List EvidenceCurrent
  deriving DecidableEq

/-- The `serde_json` encodings of the store and the SHA-256 of `sha2`, as 64 lower-case
hexadecimal digits. -/
structure StoreCodec extends VerificationJson where
  bundle : VerificationBundle → List UInt8
  capability_state : CapabilityStateDigestInput → List UInt8
  evidence_state : EvidenceStateDigestInput → List UInt8
  projection_selection : ProjectionSelectionDigestInput → List UInt8
  sha256_hex : List UInt8 → String
  sha256_hex_valid : ∀ bytes, validate_sha256_digest (sha256_hex bytes) = true

variable (codec : StoreCodec)

def capability_state_digest (current : CapabilityCurrent) : String :=
  codec.sha256_hex (codec.capability_state
    { capability_id := current.capability_id
      revision := current.revision
      record_digest := current.record_digest
      generation := current.token.generation })

def evidence_state_digest (current : EvidenceCurrent) : String :=
  codec.sha256_hex (codec.evidence_state
    { key := current.key
      bundle_id := current.bundle_id
      record_digest := current.record_digest
      freshness := current.freshness
      generation := current.token.generation })

namespace LocalVerificationStore

def validate_digest (digest : String) : LocalVerificationStoreResult Unit :=
  reject_if (validate_sha256_digest digest = false) .InvalidDigest

def validate_generation (generation : ℕ) : LocalVerificationStoreResult Unit :=
  reject_if (generation = 0 ∨ I64_MAX < generation) (.GenerationOutOfRange generation)

def sqlite_u64 (value : ℕ) : LocalVerificationStoreResult Unit :=
  reject_if (I64_MAX < value) (.GenerationOutOfRange value)

def validate_freshness (freshness : EvidenceFreshness) : LocalVerificationStoreResult Unit :=
  reject_if (freshness.validate = false) .EmptyStaleCauses

/-- `CapabilityCurrent::new`. -/
def new_capability_current (capability_id : String) (revision : ℕ) (record_digest : String)
    (generation : ℕ) : CapabilityCurrent :=
  let value : CapabilityCurrent := ⟨capability_id, revision, record_digest, ⟨generation, ""⟩⟩
  { value with token := ⟨generation, capability_state_digest codec value⟩ }

/-- `EvidenceCurrent::new`. -/
def new_evidence_current (key : EvidenceKey) (bundle_id record_digest : String)
    (freshness : EvidenceFreshness) (generation : ℕ) :
    LocalVerificationStoreResult EvidenceCurrent := do
  validate_freshness freshness
  let value : EvidenceCurrent := ⟨key, bundle_id, record_digest, freshness, ⟨generation, ""⟩⟩
  return { value with token := ⟨generation, evidence_state_digest codec value⟩ }

/-- `CapabilityCurrent::validate_state_digest`. -/
def validate_capability_state (current : CapabilityCurrent) : LocalVerificationStoreResult Unit := do
  validate_digest current.record_digest
  validate_generation current.token.generation
  validate_digest current.token.state_digest
  reject_if (capability_state_digest codec current ≠ current.token.state_digest)
    .InvalidProjectionSelection

/-- `EvidenceCurrent::validate_state_digest`. -/
def validate_evidence_state (current : EvidenceCurrent) : LocalVerificationStoreResult Unit := do
  validate_freshness current.freshness
  validate_digest current.record_digest
  validate_generation current.token.generation
  validate_digest current.token.state_digest
  reject_if (evidence_state_digest codec current ≠ current.token.state_digest)
    .InvalidProjectionSelection

/-! ## Records -/

def canonical_capability (definition : CapabilityDefinition) :
    LocalVerificationStoreResult (List UInt8) := do
  reject_if (definition.validate = false) .InvalidContract
  return codec.capability definition

def canonical_bundle (bundle : VerificationBundle) :
    LocalVerificationStoreResult (List UInt8) := do
  reject_if (bundle.validate = false) .InvalidContract
  return codec.bundle bundle

/-- The bytes of a blob are those its value encodes to, so that they are canonical exactly
when the value is valid. -/
def load_capability (store : LocalVerificationStore) (capability_id : String) (revision : ℕ) :
    LocalVerificationStoreResult (Option CapabilityRecord) := do
  sqlite_u64 revision
  match store.capability_records[(⟨capability_id, revision⟩ : CapabilityRevision)]? with
  | none => return none
  | some row =>
    validate_digest row.digest
    reject_if (codec.sha256_hex (codec.capability row.definition) ≠ row.digest) .CorruptRecord
    let _ ← canonical_capability codec row.definition
    reject_if (row.definition.capability_id ≠ capability_id ∨ row.definition.revision ≠ revision)
      .CorruptRecord
    return some row

/-- The decoding of a row that a query has found, with the id it is stored under. -/
def load_bundle_row (row : Option (String × BundleRow)) :
    LocalVerificationStoreResult (Option BundleRecord) := do
  match row with
  | none => return none
  | some (bundle_id, row) =>
    validate_digest row.digest
    reject_if (codec.sha256_hex (codec.bundle row.bundle) ≠ row.digest) .CorruptRecord
    let _ ← canonical_bundle codec row.bundle
    reject_if (row.bundle.bundle_id ≠ bundle_id ∨ row.bundle.key ≠ row.key) .CorruptRecord
    return some ⟨row.bundle, row.digest⟩

def load_bundle_by_id (store : LocalVerificationStore) (bundle_id : String) :
    LocalVerificationStoreResult (Option BundleRecord) :=
  load_bundle_row codec (store.bundle_records[bundle_id]?.map fun row => (bundle_id, row))

def load_bundle_by_digest (store : LocalVerificationStore) (digest : String) :
    LocalVerificationStoreResult (Option BundleRecord) := do
  validate_digest digest
  load_bundle_row codec (store.bundle_records.toList.find? fun entry => entry.2.digest == digest)

inductive PublishOutcome (α : Type) where
  | Inserted (record : α)
  | ExistingIdentical (record : α)
  deriving DecidableEq

def PublishOutcome.record {α : Type} : PublishOutcome α → α
  | .Inserted record | .ExistingIdentical record => record

def publish_capability_tx (store : LocalVerificationStore) (definition : CapabilityDefinition) :
    LocalVerificationStoreResult (PublishOutcome CapabilityRecord × LocalVerificationStore) := do
  let canonical ← canonical_capability codec definition
  let digest := codec.sha256_hex canonical
  match ← load_capability codec store definition.capability_id definition.revision with
  | some existing =>
    reject_if (existing.digest ≠ digest ∨ codec.capability existing.definition ≠ canonical)
      .ImmutableConflict
    return (.ExistingIdentical existing, store)
  | none =>
    reject_if (store.capability_records.toList.any fun entry => entry.2.digest == digest)
      .ImmutableConflict
    sqlite_u64 definition.revision
    let record : CapabilityRecord := ⟨definition, digest⟩
    let records :=
      store.capability_records.insert ⟨definition.capability_id, definition.revision⟩ record
    return (.Inserted record, { store with capability_records := records })

def publish_bundle_tx (store : LocalVerificationStore) (bundle : VerificationBundle) :
    LocalVerificationStoreResult (PublishOutcome BundleRecord × LocalVerificationStore) := do
  let canonical ← canonical_bundle codec bundle
  let digest := codec.sha256_hex canonical
  match ← load_bundle_by_id codec store bundle.bundle_id with
  | some existing =>
    reject_if (existing.digest ≠ digest ∨ codec.bundle existing.bundle ≠ canonical)
      .ImmutableConflict
    return (.ExistingIdentical existing, store)
  | none =>
    reject_if (store.bundle_records.toList.any fun entry => entry.2.digest == digest)
      .ImmutableConflict
    let records := store.bundle_records.insert bundle.bundle_id ⟨digest, bundle.key, bundle⟩
    return (.Inserted ⟨bundle, digest⟩, { store with bundle_records := records })

end LocalVerificationStore

end OvcaCore

/-
The projections of the local store (`ovca-storage/src/local_verification.rs` and
`seed_capability` of `ovca-storage/src/local_verification/operations.rs`).

A projection selects, for a key, one immutable record. Its rows are replaced by comparing
a token and swapping, marked stale, or rebuilt from a selection of the caller. The two
projections, of capabilities and of bundles, have the same tables up to their keys and
rows, and what the source writes twice for them is here once (`Projection`).
-/
import OvcaCore.EvidenceStore

set_option autoImplicit false

namespace OvcaCore

open OvcaCore.Checks

inductive CasOutcome (α : Type) where
  | Applied (current : α)
  | Conflict (current : Option α)
  | Unchanged (current : α)
  deriving DecidableEq

inductive ProjectionExpectation where
  | Absent
  | Token (token : CasToken)
  deriving DecidableEq

/-- `expectation_matches`. -/
def ProjectionExpectation.matches (expectation : ProjectionExpectation)
    (current : Option CasToken) : Bool :=
  match expectation, current with
  | .Absent, none => true
  | .Token expected, some current => expected == current
  | _, _ => false

namespace LocalVerificationStore

/-! ## Generations -/

def increment_generation (current : Option ℕ) : LocalVerificationStoreResult ℕ := do
  reject_if (U64_MAX < current.getD 0 + 1) (.GenerationOverflow (current.getD 0))
  return current.getD 0 + 1

def validate_generation_transition (selected : CasToken)
    (durable : Option DurableGenerationBinding) : LocalVerificationStoreResult Unit :=
  match durable with
  | none => .ok ()
  | some binding => do
    reject_if (selected.generation < binding.generation)
      (.NonMonotonicGeneration selected.generation binding.generation)
    reject_if (selected.generation = binding.generation
      ∧ selected.state_digest ≠ binding.state_digest) .InvalidProjectionSelection

end LocalVerificationStore

namespace Projection

open LocalVerificationStore

variable {κ ρ : Type} [Ord κ] [Std.TransOrd κ]

/-- `load_capability_generation` and `load_bundle_generation`. -/
def load_generation (projection : Projection κ ρ) (key : κ) :
    LocalVerificationStoreResult (Option DurableGenerationBinding) :=
  match projection.generations[key]? with
  | none => .ok none
  | some binding => do
    validate_digest binding.state_digest
    return some binding

/-- `next_capability_generation` and `next_bundle_generation`. -/
def next_generation (projection : Projection κ ρ) (key : κ) : LocalVerificationStoreResult ℕ := do
  let durable ← projection.load_generation key
  increment_generation (durable.map CasToken.generation)

/-- `validate_allocator_at_least_capability` and `validate_allocator_at_least_bundle`. -/
def validate_allocator_at_least (projection : Projection κ ρ) (key : κ) (token : CasToken) :
    LocalVerificationStoreResult Unit := do
  let durable ← projection.load_generation key
  reject_if (durable ≠ some token) .CorruptRecord

/-- `ensure_monotonic_capability_generation` and `ensure_monotonic_bundle_generation`. -/
def ensure_monotonic_generation (projection : Projection κ ρ) (key : κ) (token : CasToken) :
    LocalVerificationStoreResult Unit := do
  let durable ← projection.load_generation key
  validate_generation_transition token durable

/-- `persist_capability_generation` and `persist_bundle_generation`, after the digest of the
state is validated. -/
def persist_generation (projection : Projection κ ρ) (key : κ) (token : CasToken) :
    LocalVerificationStoreResult (Projection κ ρ) := do
  let durable ← projection.load_generation key
  validate_generation_transition token durable
  if durable = some token then return projection
  sqlite_u64 token.generation
  return { projection with generations := projection.generations.insert key token }

/-- `INSERT .. ON CONFLICT .. DO UPDATE`. -/
def write_current (projection : Projection κ ρ) (token : ρ → CasToken) (key : κ) (row : ρ) :
    LocalVerificationStoreResult (Projection κ ρ) := do
  sqlite_u64 (token row).generation
  return { projection with current := projection.current.insert key row }

/-- The insert of an absent row or the update of the row with the expected token. -/
def write_current_cas (projection : Projection κ ρ) (token : ρ → CasToken) (key : κ) (row : ρ)
    (expectation : ProjectionExpectation) : LocalVerificationStoreResult (Projection κ ρ) := do
  sqlite_u64 (token row).generation
  match expectation with
  | .Absent =>
    reject_if (projection.current[key]?.isSome = true) .CasWriteLost
    return { projection with current := projection.current.insert key row }
  | .Token expected =>
    sqlite_u64 expected.generation
    reject_if (projection.current[key]?.map token ≠ some expected) .CasWriteLost
    return { projection with current := projection.current.insert key row }

end Projection

variable (codec : StoreCodec)

namespace LocalVerificationStore

/-! ## Current rows -/

def validate_capability_selection (store : LocalVerificationStore) (current : CapabilityCurrent) :
    LocalVerificationStoreResult Unit := do
  validate_capability_state codec current
  let record ← load_capability codec store current.capability_id current.revision
  let record ← ok_or record .MissingRecord
  reject_if (record.digest ≠ current.record_digest) .BindingMismatch

def validate_bundle_selection (store : LocalVerificationStore) (current : EvidenceCurrent) :
    LocalVerificationStoreResult Unit := do
  validate_evidence_state codec current
  let record ← load_bundle_by_digest codec store current.record_digest
  let record ← ok_or record .MissingRecord
  reject_if (record.bundle.bundle_id ≠ current.bundle_id ∨ record.bundle.key ≠ current.key)
    .BindingMismatch

def load_capability_current (store : LocalVerificationStore) (capability_id : String) :
    LocalVerificationStoreResult (Option CapabilityCurrent) := do
  match store.capabilities.current[capability_id]? with
  | none => return none
  | some row =>
    let current := row.at capability_id
    validate_capability_state codec current
    validate_capability_selection codec store current
    store.capabilities.validate_allocator_at_least capability_id current.token
    return some current

def load_bundle_current (store : LocalVerificationStore) (key : EvidenceKey) :
    LocalVerificationStoreResult (Option EvidenceCurrent) := do
  match store.bundles.current[key]? with
  | none => return none
  | some row =>
    let current := row.at key
    validate_evidence_state codec current
    validate_bundle_selection codec store current
    store.bundles.validate_allocator_at_least key current.token
    return some current

def write_capability_current (store : LocalVerificationStore) (current : CapabilityCurrent) :
    LocalVerificationStoreResult LocalVerificationStore := do
  sqlite_u64 current.revision
  let capabilities ←
    store.capabilities.write_current CapabilityCurrentRow.token current.capability_id current.row
  return { store with capabilities }

def write_bundle_current (store : LocalVerificationStore) (current : EvidenceCurrent) :
    LocalVerificationStoreResult LocalVerificationStore := do
  let bundles ← store.bundles.write_current BundleCurrentRow.token current.key current.row
  return { store with bundles }

def write_capability_current_cas (store : LocalVerificationStore) (current : CapabilityCurrent)
    (expectation : ProjectionExpectation) :
    LocalVerificationStoreResult LocalVerificationStore := do
  sqlite_u64 current.revision
  let capabilities ← store.capabilities.write_current_cas CapabilityCurrentRow.token
    current.capability_id current.row expectation
  return { store with capabilities }

def write_bundle_current_cas (store : LocalVerificationStore) (current : EvidenceCurrent)
    (expectation : ProjectionExpectation) :
    LocalVerificationStoreResult LocalVerificationStore := do
  let bundles ←
    store.bundles.write_current_cas BundleCurrentRow.token current.key current.row expectation
  return { store with bundles }

def persist_capability_generation (store : LocalVerificationStore) (current : CapabilityCurrent) :
    LocalVerificationStoreResult LocalVerificationStore := do
  validate_capability_state codec current
  let capabilities ← store.capabilities.persist_generation current.capability_id current.token
  return { store with capabilities }

def persist_bundle_generation (store : LocalVerificationStore) (current : EvidenceCurrent) :
    LocalVerificationStoreResult LocalVerificationStore := do
  validate_evidence_state codec current
  let bundles ← store.bundles.persist_generation current.key current.token
  return { store with bundles }

/-! ## Swaps -/

/-- `CapabilityRegistry::compare_and_swap_current`. -/
def compare_and_swap_capability (store : LocalVerificationStore) (capability_id : String)
    (revision : ℕ) (record_digest : String) (expectation : ProjectionExpectation) :
    LocalVerificationStoreResult (CasOutcome CapabilityCurrent × LocalVerificationStore) := do
  let record ← ok_or (← load_capability codec store capability_id revision) .MissingRecord
  reject_if (record.digest ≠ record_digest) .BindingMismatch
  let current ← load_capability_current codec store capability_id
  if expectation.matches (current.map CapabilityCurrent.token) = false then
    return (.Conflict current, store)
  let generation ← store.capabilities.next_generation capability_id
  let next := new_capability_current codec capability_id revision record_digest generation
  let store ← write_capability_current_cas store next expectation
  let store ← persist_capability_generation codec store next
  return (.Applied next, store)

/-- Is a stale row asked to select its own bundle again? -/
def revives_stale (current : Option EvidenceCurrent) (digest : String) : Bool :=
  current.any fun value => value.freshness != .Current && value.record_digest == digest

def apply_bundle_cas (store : LocalVerificationStore) (record : BundleRecord)
    (expectation : ProjectionExpectation) (freshness : EvidenceFreshness) :
    LocalVerificationStoreResult (CasOutcome EvidenceCurrent × LocalVerificationStore) := do
  let key := record.bundle.key
  let current ← load_bundle_current codec store key
  if expectation.matches (current.map EvidenceCurrent.token) = false then
    return (.Conflict current, store)
  reject_if (revives_stale current record.digest = true) .StaleRevivalRequiresDifferentBundle
  let generation ← store.bundles.next_generation key
  let next ←
    new_evidence_current codec key record.bundle.bundle_id record.digest freshness generation
  let store ← write_bundle_current_cas store next expectation
  let store ← persist_bundle_generation codec store next
  return (.Applied next, store)

/-- `EvidenceBank::compare_and_swap_current`. -/
def compare_and_swap_bundle (store : LocalVerificationStore) (record_digest : String)
    (expectation : ProjectionExpectation) :
    LocalVerificationStoreResult (CasOutcome EvidenceCurrent × LocalVerificationStore) := do
  let record ← ok_or (← load_bundle_by_digest codec store record_digest) .MissingRecord
  apply_bundle_cas codec store record expectation .Current

/-- The record stays published when the projection answers with a conflict. -/
def publish_bundle_and_cas (store : LocalVerificationStore) (bundle : VerificationBundle)
    (expectation : ProjectionExpectation) :
    LocalVerificationStoreResult
      ((PublishOutcome BundleRecord × CasOutcome EvidenceCurrent) × LocalVerificationStore) := do
  let (publication, store) ← publish_bundle_tx codec store bundle
  let (projection, store) ← apply_bundle_cas codec store publication.record expectation .Current
  return ((publication, projection), store)

/-! ## Staleness -/

/-- A set of causes, as the sorted list of its members. -/
def StaleCause.all : List StaleCause :=
  [.Behavior, .CapabilitySet, .CapabilityDefinition, .Command, .Policy, .Source, .Environment,
    .Integrity]

def union (causes causes' : List StaleCause) : List StaleCause :=
  StaleCause.all.filter fun cause => causes.contains cause || causes'.contains cause

def merged_causes (freshness : EvidenceFreshness) (causes : List StaleCause) : List StaleCause :=
  match freshness with
  | .Current => union [] causes
  | .Stale existing => union existing causes

def mark_stale (store : LocalVerificationStore) (key : EvidenceKey) (expected : CasToken)
    (causes : List StaleCause) :
    LocalVerificationStoreResult (CasOutcome EvidenceCurrent × LocalVerificationStore) := do
  reject_if (causes = []) .EmptyStaleCauses
  match ← load_bundle_current codec store key with
  | none => return (.Conflict none, store)
  | some current =>
    if current.token ≠ expected then return (.Conflict (some current), store)
    let merged := merged_causes current.freshness causes
    if current.freshness = .Stale merged then return (.Unchanged current, store)
    let generation ← store.bundles.next_generation key
    let next ← new_evidence_current codec key current.bundle_id current.record_digest
      (.Stale merged) generation
    let store ← write_bundle_current_cas store next (.Token expected)
    let store ← persist_bundle_generation codec store next
    return (.Applied next, store)

/-- The causes that a comparison of fingerprints gives, in their order. -/
def changed_fingerprints (actual expected : VerificationFingerprints) : List StaleCause :=
  (if actual.behavior_contract ≠ expected.behavior_contract then [.Behavior] else [])
    ++ (if actual.capability_set ≠ expected.capability_set then [.CapabilitySet] else [])
    ++ (if actual.command ≠ expected.command then [.Command] else [])
    ++ (if actual.policy ≠ expected.policy then [.Policy] else [])
    ++ (if actual.source_pre ≠ expected.source_pre ∨ actual.source_post ≠ expected.source_post
      then [.Source] else [])
    ++ (if actual.environment ≠ expected.environment then [.Environment] else [])

def mark_stale_if_fingerprints_changed (store : LocalVerificationStore) (key : EvidenceKey)
    (expected_token : CasToken) (expected : VerificationFingerprints) :
    LocalVerificationStoreResult (CasOutcome EvidenceCurrent × LocalVerificationStore) := do
  match ← load_bundle_current codec store key with
  | none => return (.Conflict none, store)
  | some current =>
    if current.token ≠ expected_token then return (.Conflict (some current), store)
    let record ← ok_or (← load_bundle_by_digest codec store current.record_digest) .MissingRecord
    let causes := changed_fingerprints record.bundle.fingerprints expected
    if causes = [] then return (.Unchanged current, store)
    mark_stale codec store key expected_token causes

end LocalVerificationStore

/-! ## Rebuilds -/

structure AuthoritativeProjectionSelection where
  intent : ProjectionRebuildIntent
  capabilities : List CapabilityCurrent
  bundles : List EvidenceCurrent
  selection_set_digest : String
  deriving DecidableEq

/-- `windows(2)` finds no pair whose first key is not before its second one. -/
def ascending {κ : Type} [Ord κ] : List κ → Bool
  | a :: b :: keys => (compare a b).isLT && ascending (b :: keys)
  | _ => true

namespace AuthoritativeProjectionSelection

def empty (selection : AuthoritativeProjectionSelection) : Bool :=
  selection.capabilities.isEmpty && selection.bundles.isEmpty

def validate_shape (selection : AuthoritativeProjectionSelection) :
    LocalVerificationStoreResult Unit := do
  reject_if (selection.empty = true ∧ selection.intent = .Replace) .InvalidProjectionSelection
  reject_if (selection.empty = false ∧ selection.intent ≠ .Replace) .InvalidProjectionSelection
  check_all selection.capabilities (LocalVerificationStore.validate_capability_state codec)
  reject_if (ascending (selection.capabilities.map CapabilityCurrent.capability_id) = false)
    .InvalidProjectionSelection
  check_all selection.bundles (LocalVerificationStore.validate_evidence_state codec)
  reject_if (ascending (selection.bundles.map EvidenceCurrent.key) = false)
    .InvalidProjectionSelection

/-- `projection_selection_digest`. -/
def digest (selection : AuthoritativeProjectionSelection) : String :=
  codec.sha256_hex (codec.projection_selection
    { intent := selection.intent
      capabilities := selection.capabilities
      bundles := selection.bundles })

def validate (selection : AuthoritativeProjectionSelection) :
    LocalVerificationStoreResult Unit := do
  selection.validate_shape codec
  LocalVerificationStore.validate_digest selection.selection_set_digest
  reject_if (selection.digest codec ≠ selection.selection_set_digest) .InvalidProjectionSelection

end AuthoritativeProjectionSelection

namespace LocalVerificationStore

/-- A selected row is written with its generation. -/
def select_capability (store : LocalVerificationStore) (current : CapabilityCurrent) :
    LocalVerificationStoreResult LocalVerificationStore := do
  let store ← write_capability_current store current
  persist_capability_generation codec store current

def select_bundle (store : LocalVerificationStore) (current : EvidenceCurrent) :
    LocalVerificationStoreResult LocalVerificationStore := do
  let store ← write_bundle_current store current
  persist_bundle_generation codec store current

/-- `DELETE FROM capability_current` and `DELETE FROM bundle_current`. -/
def clear_projections (store : LocalVerificationStore) : LocalVerificationStore :=
  { store with
    capabilities := { store.capabilities with current := ∅ }
    bundles := { store.bundles with current := ∅ } }

/-- The rows of a selection replace all others. -/
def write_selection (store : LocalVerificationStore)
    (selection : AuthoritativeProjectionSelection) :
    LocalVerificationStoreResult LocalVerificationStore := do
  let store ← fold_checked (select_capability codec) store.clear_projections selection.capabilities
  fold_checked (select_bundle codec) store selection.bundles

def rebuild_projections (store : LocalVerificationStore)
    (selection : AuthoritativeProjectionSelection) :
    LocalVerificationStoreResult LocalVerificationStore := do
  selection.validate codec
  check_all selection.capabilities fun current => do
    validate_capability_selection codec store current
    store.capabilities.ensure_monotonic_generation current.capability_id current.token
  check_all selection.bundles fun current => do
    validate_bundle_selection codec store current
    store.bundles.ensure_monotonic_generation current.key current.token
  write_selection codec store selection

/-- `CapabilityRegistry::seed_capability`. -/
def seed_capability (store : LocalVerificationStore) (definition : CapabilityDefinition)
    (expected_record_digest : String) :
    LocalVerificationStoreResult (PublishOutcome CapabilityRecord × LocalVerificationStore) := do
  validate_digest expected_record_digest
  reject_if (definition.dependencies ≠ []) .CapabilitySeedPolicy
  let canonical ← canonical_capability codec definition
  reject_if (codec.sha256_hex canonical ≠ expected_record_digest) .BindingMismatch
  let current ← load_capability_current codec store definition.capability_id
  reject_if (current.isSome = true) .CapabilitySeedPolicy
  let generation ← store.capabilities.load_generation definition.capability_id
  reject_if (generation.isSome = true) .CapabilitySeedPolicy
  sqlite_u64 definition.revision
  reject_if (store.capability_records.toList.any fun entry =>
    entry.1.capability_id == definition.capability_id && entry.1.revision != definition.revision)
    .CapabilitySeedPolicy
  let (outcome, store) ← publish_capability_tx codec store definition
  reject_if (outcome.record.digest ≠ expected_record_digest) .BindingMismatch
  return (outcome, store)

end LocalVerificationStore

end OvcaCore

/-
The evidence lease of completions and reviews
(`with_completion_admission_lease` of `ovca-storage/src/local_verification.rs`).

The holder of the lease has reserved the database for writing. It is given a snapshot of
all current capabilities and of the current bundles it has asked for, each checked
against its record, and works on that snapshot until it gives the lease back. Here is the
snapshot; who holds the lease when is said where the lease is used.
-/
import OvcaCore.EvidenceSteps

set_option autoImplicit false

namespace OvcaCore

open OvcaCore.Checks

structure CompletionAdmissionCapability where
  current : CapabilityCurrent
  record : CapabilityRecord
  deriving DecidableEq

structure CompletionAdmissionBundle where
  current : EvidenceCurrent
  record : BundleRecord
  deriving DecidableEq

structure CompletionAdmissionSnapshot where
  capabilities : List CompletionAdmissionCapability
  bundles : List CompletionAdmissionBundle
  deriving DecidableEq

namespace LocalVerificationStore

section Lease

variable (codec : StoreCodec)

def validate_completion_admission_keys (keys : List EvidenceKey) :
    LocalVerificationStoreResult Unit := do
  reject_if (keys = []) .InvalidContract
  check_all keys fun key =>
    reject_if (blank key.run_id ∨ blank key.goal_id ∨ blank key.task_id) .InvalidContract
  reject_if (ascending keys = false) .InvalidContract

/-- A current capability with its record. -/
def completion_capability (store : LocalVerificationStore) (capability_id : String) :
    LocalVerificationStoreResult CompletionAdmissionCapability := do
  let found ← load_capability_current codec store capability_id
  let current ← ok_or found .MissingRecord
  let found ← load_capability codec store capability_id current.revision
  let record ← ok_or found .MissingRecord
  reject_if (record.digest ≠ current.record_digest) .BindingMismatch
  pure ⟨current, record⟩

/-- The current bundle of a key, which has to be fresh, with its record. -/
def completion_bundle (store : LocalVerificationStore) (key : EvidenceKey) :
    LocalVerificationStoreResult CompletionAdmissionBundle := do
  let found ← load_bundle_current codec store key
  let current ← ok_or found .MissingRecord
  reject_if (current.freshness ≠ .Current) .InvalidProjectionSelection
  let found ← load_bundle_by_digest codec store current.record_digest
  let record ← ok_or found .MissingRecord
  reject_if (record.digest ≠ current.record_digest ∨ record.bundle.bundle_id ≠ current.bundle_id
    ∨ record.bundle.run_id ≠ current.key.run_id ∨ record.bundle.goal_id ≠ current.key.goal_id
    ∨ record.bundle.task_id ≠ current.key.task_id) .BindingMismatch
  pure ⟨current, record⟩

/-- What the holder of a lease on these keys is given. -/
def completion_admission_snapshot (store : LocalVerificationStore) (keys : List EvidenceKey) :
    LocalVerificationStoreResult CompletionAdmissionSnapshot := do
  validate_completion_admission_keys keys
  let capabilities ← map_checked (completion_capability codec store)
    (store.capabilities.current.toList.map Prod.fst)
  let bundles ← map_checked (completion_bundle codec store) keys
  pure ⟨capabilities, bundles⟩

end Lease

variable {codec : StoreCodec} {store : LocalVerificationStore} {key : EvidenceKey}

/-! ## What a snapshot says of the store -/

/-- The store has this fresh row for a key, and the record that the row names. -/
structure HoldsCurrent (store : LocalVerificationStore) (key : EvidenceKey)
    (bundle : CompletionAdmissionBundle) : Prop where
  row : store.bundles.current[key]? = some bundle.current.row
  key_eq : bundle.current.key = key
  fresh : bundle.current.freshness = .Current
  record : store.bundle_records[bundle.current.bundle_id]? =
    some ⟨bundle.record.digest, key, bundle.record.bundle⟩
  record_digest : bundle.record.digest = bundle.current.record_digest

theorem completion_bundle_holds {bundle : CompletionAdmissionBundle}
    (h : completion_bundle codec store key = .ok bundle) : HoldsCurrent store key bundle := by
  simp only [completion_bundle, bind_eq_ok, ok_or_eq_ok, reject_if_eq_ok, exists_const, pure_eq_ok,
    not_or, ne_eq, not_not] at h
  obtain ⟨_, hcurrent, current, rfl, hfresh, _, hrecord, record, rfl,
    ⟨hdigest, hbundle_id, hrun, hgoal, htask⟩, rfl⟩ := h
  -- the current row is that of the table, under the key it was asked for
  have hrow := load_bundle_current_eq_ok hcurrent
  rw [eq_comm, Option.map_eq_some_iff] at hrow
  obtain ⟨row, hrow, rfl⟩ := hrow
  have hentry := (load_bundle_by_digest_eq_some hrecord).1
  have hkey : record.bundle.key = key := by
    rw [VerificationBundle.key, hrun, hgoal, htask]
    rfl
  rw [hkey] at hentry
  refine ⟨hrow, rfl, hfresh, ?_, hdigest⟩
  rw [← hbundle_id]
  exact hentry

/-- A snapshot of one key has the one bundle that the store holds for it. -/
theorem snapshot_of_key {snapshot : CompletionAdmissionSnapshot}
    (h : completion_admission_snapshot codec store [key] = .ok snapshot) :
    ∃ bundle, snapshot.bundles = [bundle] ∧ HoldsCurrent store key bundle := by
  simp only [completion_admission_snapshot, bind_eq_ok, exists_and_right, exists_unit_eq_ok,
    pure_eq_ok, map_checked_eq_ok] at h
  obtain ⟨_, capabilities, _, bundles, hbundles, rfl⟩ := h
  obtain ⟨bundle, rest, hbundle, hrest, rfl⟩ := List.forall₂_cons_left_iff.mp hbundles
  obtain rfl := List.forall₂_nil_left_iff.mp hrest
  exact ⟨bundle, rfl, completion_bundle_holds hbundle⟩

end LocalVerificationStore

end OvcaCore

/-
What the operations of the local store do.

An operation keeps the records that are there, and takes the slot of each key, its row
with its allocator, by one step of `OvcaCore.Slots`. The rows it writes are bound to a
record and carry the digest of their state. `Moves` says this of two stores; here are the
steps of the tables, the loads and the publications, and in `OvcaCore.EvidenceSwaps` the
operations that write rows.
-/
import OvcaCore.EvidenceProjections
import OvcaCore.Lib.Slots

set_option autoImplicit false

namespace OvcaCore

open OvcaCore.Checks OvcaCore.OrderedMaps OvcaCore.Slots

/-! ## Projections -/

namespace Projection

open LocalVerificationStore

section Slots

variable {κ ρ : Type} [Ord κ] [Std.TransOrd κ] [Std.LawfulEqOrd κ] [DecidableEq κ]
  {token : ρ → CasToken} {projection projection' : Projection κ ρ} {key k : κ} {row : ρ}
  {expectation : ProjectionExpectation} {generation : ℕ}

def slot (projection : Projection κ ρ) (key : κ) : Slot ρ CasToken :=
  ⟨projection.current[key]?, projection.generations[key]?⟩

omit [Std.LawfulEqOrd κ] [DecidableEq κ] in
theorem load_generation_eq_ok {durable : Option DurableGenerationBinding}
    (h : projection.load_generation key = .ok durable) :
    projection.generations[key]? = durable := by
  unfold load_generation at h
  cases hbinding : projection.generations[key]? with
  | none =>
    rw [hbinding] at h
    exact Except.ok.inj h
  | some binding =>
    rw [hbinding] at h
    simp only [bind_eq_ok, pure_eq_ok] at h
    obtain ⟨-, -, rfl⟩ := h
    rfl

omit [Std.LawfulEqOrd κ] [DecidableEq κ] in
/-- The next generation of a key is above the last one. -/
theorem next_generation_fresh (h : projection.next_generation key = .ok generation) :
    ∀ last, projection.generations[key]? = some last → last.generation < generation := by
  unfold next_generation increment_generation at h
  simp only [bind_eq_ok, reject_if_eq_ok, exists_const, pure_eq_ok] at h
  obtain ⟨durable, hdurable, -, rfl⟩ := h
  intro last hlast
  rw [load_generation_eq_ok hdurable] at hlast
  rw [hlast, Option.map_some, Option.getD_some]
  omega

omit [Std.LawfulEqOrd κ] [DecidableEq κ] in
theorem write_current_cas_eq_ok
    (h : projection.write_current_cas token key row expectation = .ok projection') :
    projection' = ⟨projection.current.insert key row, projection.generations⟩ := by
  unfold write_current_cas at h
  simp only [bind_eq_ok] at h
  obtain ⟨-, -, h⟩ := h
  cases expectation with
  | Absent =>
    simp only [bind_eq_ok, pure_eq_ok] at h
    obtain ⟨-, -, rfl⟩ := h
    rfl
  | Token expected =>
    simp only [bind_eq_ok, pure_eq_ok] at h
    obtain ⟨-, -, -, -, rfl⟩ := h
    rfl

omit [Std.LawfulEqOrd κ] [DecidableEq κ] in
theorem write_current_eq_ok (h : projection.write_current token key row = .ok projection') :
    projection' = ⟨projection.current.insert key row, projection.generations⟩ := by
  unfold write_current at h
  simp only [bind_eq_ok, pure_eq_ok] at h
  obtain ⟨-, -, rfl⟩ := h
  rfl

/-- A token that may follow the durable one is above it, or is it. -/
theorem transition_eq_ok {selected : CasToken} {durable : Option DurableGenerationBinding}
    (h : validate_generation_transition selected durable = .ok ()) :
    ∀ last, durable = some last → last.generation < selected.generation ∨ last = selected := by
  intro last hlast
  rw [hlast] at h
  unfold validate_generation_transition at h
  simp only [bind_eq_ok, reject_if_eq_ok, exists_const, not_and, not_not] at h
  obtain ⟨hle, hsame⟩ := h
  by_cases heq : selected.generation = last.generation
  · right
    have hdigest := hsame heq
    cases last
    cases selected
    simp only at heq hdigest
    rw [heq, hdigest]
  · left
    omega

omit [DecidableEq κ] in
theorem persist_generation_eq_ok {selected : CasToken}
    (h : projection.persist_generation key selected = .ok projection') :
    projection'.current = projection.current
      ∧ projection'.generations[key]? = some selected
      ∧ (∀ k, k ≠ key → projection'.generations[k]? = projection.generations[k]?)
      ∧ ∀ last, projection.generations[key]? = some last →
        last.generation < selected.generation ∨ last = selected := by
  classical
  unfold persist_generation at h
  simp only [bind_eq_ok, exists_unit_eq_ok, exists_and_right] at h
  obtain ⟨durable, hdurable, htransition, h⟩ := h
  rw [load_generation_eq_ok hdurable]
  by_cases hsame : durable = some selected
  · rw [if_pos hsame, pure_eq_ok] at h
    subst h
    exact ⟨rfl, (load_generation_eq_ok hdurable).trans hsame, fun _ _ => rfl,
      transition_eq_ok htransition⟩
  · rw [if_neg hsame] at h
    simp only [bind_eq_ok, pure_eq_ok] at h
    obtain ⟨-, -, rfl⟩ := h
    refine ⟨rfl, ?_, ?_, transition_eq_ok htransition⟩
    · rw [get_insert, if_pos rfl]
    · intro k hk
      exact get_insert_of_ne _ _ (Ne.symm hk)

/-- **A swap assigns a fresh row.** -/
theorem swap_step (row : ρ) {written : Projection κ ρ}
    (hnext : projection.next_generation key = .ok generation)
    (hgeneration : (token row).generation = generation)
    (hwrite : projection.write_current_cas token key row expectation = .ok written)
    (hpersist : written.persist_generation key (token row) = .ok projection') :
    (∀ k, k ≠ key → projection'.slot k = projection.slot k)
      ∧ projection'.slot key = ⟨some row, some (token row)⟩
      ∧ ∀ last, projection.generations[key]? = some last →
        last.generation < (token row).generation := by
  rw [write_current_cas_eq_ok hwrite] at hpersist
  obtain ⟨hcurrent, hkey, hothers, -⟩ := persist_generation_eq_ok hpersist
  refine ⟨?_, ?_, ?_⟩
  · intro k hk
    unfold slot
    rw [hcurrent, hothers k hk, get_insert_of_ne _ _ (Ne.symm hk)]
  · unfold slot
    rw [hcurrent, hkey, get_insert, if_pos rfl]
  · rw [hgeneration]
    exact next_generation_fresh hnext

/-- **A selected row is written under its token.** -/
theorem select_step (row : ρ) {written : Projection κ ρ}
    (hwrite : projection.write_current token key row = .ok written)
    (hpersist : written.persist_generation key (token row) = .ok projection') :
    (∀ k, k ≠ key → projection'.slot k = projection.slot k)
      ∧ Selects token CasToken.generation row (projection.slot key) (projection'.slot key) := by
  rw [write_current_eq_ok hwrite] at hpersist
  obtain ⟨hcurrent, hkey, hothers, hlast⟩ := persist_generation_eq_ok hpersist
  refine ⟨?_, ?_, hlast⟩
  · intro k hk
    unfold slot
    rw [hcurrent, hothers k hk, get_insert_of_ne _ _ (Ne.symm hk)]
  · unfold slot
    rw [hcurrent, hkey, get_insert, if_pos rfl]

end Slots

end Projection

namespace LocalVerificationStore

variable {codec : StoreCodec} {store store' : LocalVerificationStore}

/-! ## Loads -/

theorem load_capability_eq_some {capability_id : String} {revision : ℕ} {record : CapabilityRecord}
    (h : load_capability codec store capability_id revision = .ok (some record)) :
    store.capability_records[(⟨capability_id, revision⟩ : CapabilityRevision)]? = some record
      ∧ record.definition.capability_id = capability_id ∧ record.definition.revision = revision := by
  unfold load_capability at h
  rw [bind_eq_ok] at h
  obtain ⟨-, -, h⟩ := h
  cases hrow : store.capability_records[(⟨capability_id, revision⟩ : CapabilityRevision)]? with
  | none =>
    rw [hrow] at h
    exact absurd (Except.ok.inj h) (by simp)
  | some row =>
    rw [hrow] at h
    simp only [bind_eq_ok, pure_eq_ok, reject_if_eq_ok, Option.some_inj, not_or, ne_eq, not_not]
      at h
    obtain ⟨-, -, -, -, -, -, -, hidentity, rfl⟩ := h
    exact ⟨rfl, hidentity⟩

theorem load_capability_eq_none {capability_id : String} {revision : ℕ}
    (h : load_capability codec store capability_id revision = .ok none) :
    store.capability_records[(⟨capability_id, revision⟩ : CapabilityRevision)]? = none := by
  unfold load_capability at h
  rw [bind_eq_ok] at h
  obtain ⟨-, -, h⟩ := h
  cases hrow : store.capability_records[(⟨capability_id, revision⟩ : CapabilityRevision)]? with
  | none => rfl
  | some row =>
    rw [hrow] at h
    simp only [bind_eq_ok, pure_eq_ok, reduceCtorEq, and_false, exists_false] at h

theorem load_bundle_row_eq_some {row : Option (String × BundleRow)} {record : BundleRecord}
    (h : load_bundle_row codec row = .ok (some record)) :
    row = some (record.bundle.bundle_id, ⟨record.digest, record.bundle.key, record.bundle⟩) := by
  cases row with
  | none => exact absurd (Except.ok.inj h) (by simp)
  | some entry =>
    obtain ⟨bundle_id, row⟩ := entry
    unfold load_bundle_row at h
    simp only [bind_eq_ok, pure_eq_ok, reject_if_eq_ok, Option.some_inj, not_or, ne_eq, not_not]
      at h
    obtain ⟨-, -, -, -, -, -, -, ⟨hid, hkey⟩, rfl⟩ := h
    rw [← hid, hkey]

theorem load_bundle_row_eq_none {row : Option (String × BundleRow)}
    (h : load_bundle_row codec row = .ok none) : row = none := by
  cases row with
  | none => rfl
  | some entry =>
    unfold load_bundle_row at h
    simp only [bind_eq_ok, pure_eq_ok, reduceCtorEq, and_false, exists_false] at h

theorem load_bundle_by_id_eq_none {bundle_id : String}
    (h : load_bundle_by_id codec store bundle_id = .ok none) :
    store.bundle_records[bundle_id]? = none :=
  Option.map_eq_none_iff.mp (load_bundle_row_eq_none h)

theorem load_bundle_by_id_eq_some {bundle_id : String} {record : BundleRecord}
    (h : load_bundle_by_id codec store bundle_id = .ok (some record)) :
    store.bundle_records[record.bundle.bundle_id]?
        = some ⟨record.digest, record.bundle.key, record.bundle⟩ := by
  obtain ⟨row, hrow, heq⟩ := Option.map_eq_some_iff.mp (load_bundle_row_eq_some h)
  rw [Prod.mk.injEq] at heq
  rw [← heq.1, hrow, heq.2]

theorem load_bundle_by_digest_eq_some {digest : String} {record : BundleRecord}
    (h : load_bundle_by_digest codec store digest = .ok (some record)) :
    store.bundle_records[record.bundle.bundle_id]?
        = some ⟨record.digest, record.bundle.key, record.bundle⟩
      ∧ record.digest = digest := by
  unfold load_bundle_by_digest at h
  rw [bind_eq_ok] at h
  obtain ⟨-, -, h⟩ := h
  have hfound := load_bundle_row_eq_some h
  have hmem := List.mem_of_find?_eq_some hfound
  rw [Std.ExtTreeMap.mem_toList_iff_getElem?_eq_some] at hmem
  have hdigest := List.find?_some hfound
  exact ⟨hmem, by simpa using hdigest⟩

theorem load_capability_current_eq_ok {capability_id : String} {current : Option CapabilityCurrent}
    (h : load_capability_current codec store capability_id = .ok current) :
    current = store.capabilities.current[capability_id]?.map fun row => row.at capability_id := by
  unfold load_capability_current at h
  cases hrow : store.capabilities.current[capability_id]? with
  | none =>
    rw [hrow] at h
    exact (Except.ok.inj h).symm
  | some row =>
    rw [hrow] at h
    simp only [bind_eq_ok, pure_eq_ok] at h
    obtain ⟨-, -, -, -, -, -, rfl⟩ := h
    rfl

theorem load_bundle_current_eq_ok {key : EvidenceKey} {current : Option EvidenceCurrent}
    (h : load_bundle_current codec store key = .ok current) :
    current = store.bundles.current[key]?.map fun row => row.at key := by
  unfold load_bundle_current at h
  cases hrow : store.bundles.current[key]? with
  | none =>
    rw [hrow] at h
    exact (Except.ok.inj h).symm
  | some row =>
    rw [hrow] at h
    simp only [bind_eq_ok, pure_eq_ok] at h
    obtain ⟨-, -, -, -, -, -, rfl⟩ := h
    rfl

/-! ## What an operation keeps -/

/-- The row names a record, and carries the digest of its state. -/
structure CapabilityBound (codec : StoreCodec) (store : LocalVerificationStore)
    (capability_id : String) (row : CapabilityCurrentRow) : Prop where
  record : ∃ record : CapabilityRecord,
    store.capability_records[(⟨capability_id, row.revision⟩ : CapabilityRevision)]? = some record
      ∧ record.digest = row.record_digest ∧ record.definition.capability_id = capability_id
      ∧ record.definition.revision = row.revision
  state_digest : capability_state_digest codec (row.at capability_id) = row.token.state_digest

structure BundleBound (codec : StoreCodec) (store : LocalVerificationStore)
    (key : EvidenceKey) (row : BundleCurrentRow) : Prop where
  record : ∃ record : BundleRow, store.bundle_records[row.bundle_id]? = some record
    ∧ record.digest = row.record_digest ∧ record.key = key
    ∧ record.bundle.bundle_id = row.bundle_id ∧ record.bundle.key = key
  state_digest : evidence_state_digest codec (row.at key) = row.token.state_digest

/-- Records stay, and a row that was not there is bound. -/
structure Keeps (codec : StoreCodec) (store store' : LocalVerificationStore) : Prop where
  capability_records : ∀ (key : CapabilityRevision) (record : CapabilityRecord),
    store.capability_records[key]? = some record → store'.capability_records[key]? = some record
  bundle_records : ∀ (bundle_id : String) (record : BundleRow),
    store.bundle_records[bundle_id]? = some record →
      store'.bundle_records[bundle_id]? = some record
  capability_bound : ∀ (capability_id : String) (row : CapabilityCurrentRow),
    store'.capabilities.current[capability_id]? = some row →
      store.capabilities.current[capability_id]? = some row
        ∨ CapabilityBound codec store' capability_id row
  bundle_bound : ∀ (key : EvidenceKey) (row : BundleCurrentRow),
    store'.bundles.current[key]? = some row →
      store.bundles.current[key]? = some row ∨ BundleBound codec store' key row

/-- An operation other than a rebuild assigns fresh rows. -/
structure Swaps (codec : StoreCodec) (store store' : LocalVerificationStore) : Prop
    extends Keeps codec store store' where
  capability_slots : ∀ capability_id : String, Assigns CapabilityCurrentRow.token
    CasToken.generation (store.capabilities.slot capability_id)
    (store'.capabilities.slot capability_id)
  bundle_slots : ∀ key : EvidenceKey, Assigns BundleCurrentRow.token CasToken.generation
    (store.bundles.slot key) (store'.bundles.slot key)

structure Moves (codec : StoreCodec) (store store' : LocalVerificationStore) : Prop
    extends Keeps codec store store' where
  capability_slots : ∀ capability_id : String, Step CapabilityCurrentRow.token
    CasToken.generation (store.capabilities.slot capability_id)
    (store'.capabilities.slot capability_id)
  bundle_slots : ∀ key : EvidenceKey, Step BundleCurrentRow.token CasToken.generation
    (store.bundles.slot key) (store'.bundles.slot key)

theorem Swaps.moves (h : Swaps codec store store') : Moves codec store store' where
  toKeeps := h.toKeeps
  capability_slots := fun capability_id => (h.capability_slots capability_id).step
  bundle_slots := fun key => (h.bundle_slots key).step

theorem Swaps.refl (store : LocalVerificationStore) : Swaps codec store store where
  capability_records := fun _ _ h => h
  bundle_records := fun _ _ h => h
  capability_bound := fun _ _ h => Or.inl h
  bundle_bound := fun _ _ h => Or.inl h
  capability_slots := fun _ => Or.inl rfl
  bundle_slots := fun _ => Or.inl rfl

/-! ## Publications -/

/-- A publication adds records. -/
structure Publishes (store store' : LocalVerificationStore) : Prop where
  capability_records : ∀ (key : CapabilityRevision) (record : CapabilityRecord),
    store.capability_records[key]? = some record → store'.capability_records[key]? = some record
  bundle_records : ∀ (bundle_id : String) (record : BundleRow),
    store.bundle_records[bundle_id]? = some record →
      store'.bundle_records[bundle_id]? = some record
  capabilities : store'.capabilities = store.capabilities
  bundles : store'.bundles = store.bundles

theorem Publishes.refl (store : LocalVerificationStore) : Publishes store store :=
  ⟨fun _ _ h => h, fun _ _ h => h, rfl, rfl⟩

theorem Publishes.swaps (h : Publishes store store') : Swaps codec store store' where
  capability_records := h.capability_records
  bundle_records := h.bundle_records
  capability_bound := by
    intro capability_id row hrow
    rw [h.capabilities] at hrow
    exact Or.inl hrow
  bundle_bound := by
    intro key row hrow
    rw [h.bundles] at hrow
    exact Or.inl hrow
  capability_slots := by
    intro capability_id
    rw [h.capabilities]
    exact Or.inl rfl
  bundle_slots := by
    intro key
    rw [h.bundles]
    exact Or.inl rfl

theorem Publishes.swaps_trans {published : LocalVerificationStore} (h : Publishes store published)
    (h' : Swaps codec published store') : Swaps codec store store' where
  capability_records := fun key record hrecord =>
    h'.capability_records key record (h.capability_records key record hrecord)
  bundle_records := fun bundle_id record hrecord =>
    h'.bundle_records bundle_id record (h.bundle_records bundle_id record hrecord)
  capability_bound := by
    rw [← h.capabilities]
    exact h'.capability_bound
  bundle_bound := by
    rw [← h.bundles]
    exact h'.bundle_bound
  capability_slots := by
    rw [← h.capabilities]
    exact h'.capability_slots
  bundle_slots := by
    rw [← h.bundles]
    exact h'.bundle_slots

theorem publish_capability_tx_publishes {definition : CapabilityDefinition}
    {outcome : PublishOutcome CapabilityRecord}
    (h : publish_capability_tx codec store definition = .ok (outcome, store')) :
    Publishes store store' := by
  unfold publish_capability_tx at h
  rw [bind_eq_ok] at h
  obtain ⟨canonical, -, h⟩ := h
  rw [bind_eq_ok] at h
  obtain ⟨existing, hexisting, h⟩ := h
  cases existing with
  | some existing =>
    simp only [bind_eq_ok, pure_eq_ok, Prod.mk.injEq] at h
    obtain ⟨-, -, -, rfl⟩ := h
    exact Publishes.refl store
  | none =>
    simp only [bind_eq_ok, pure_eq_ok, Prod.mk.injEq] at h
    obtain ⟨-, -, -, -, -, rfl⟩ := h
    refine ⟨?_, fun _ _ h => h, rfl, rfl⟩
    intro key record hrecord
    rw [get_insert, if_neg]
    · exact hrecord
    · intro heq
      rw [← heq, load_capability_eq_none hexisting] at hrecord
      exact absurd hrecord (by simp)

/-- The record of the outcome is in the store. -/
theorem publish_bundle_tx_eq_ok {bundle : VerificationBundle} {outcome : PublishOutcome BundleRecord}
    (h : publish_bundle_tx codec store bundle = .ok (outcome, store')) :
    Publishes store store' ∧ store'.bundle_records[outcome.record.bundle.bundle_id]?
      = some ⟨outcome.record.digest, outcome.record.bundle.key, outcome.record.bundle⟩ := by
  unfold publish_bundle_tx at h
  rw [bind_eq_ok] at h
  obtain ⟨canonical, -, h⟩ := h
  rw [bind_eq_ok] at h
  obtain ⟨existing, hexisting, h⟩ := h
  cases existing with
  | some existing =>
    simp only [bind_eq_ok, pure_eq_ok, Prod.mk.injEq] at h
    obtain ⟨-, -, rfl, rfl⟩ := h
    exact ⟨Publishes.refl store, load_bundle_by_id_eq_some hexisting⟩
  | none =>
    simp only [bind_eq_ok, pure_eq_ok, Prod.mk.injEq] at h
    obtain ⟨-, -, rfl, rfl⟩ := h
    refine ⟨⟨fun _ _ h => h, ?_, rfl, rfl⟩, ?_⟩
    · intro bundle_id record hrecord
      rw [get_insert, if_neg]
      · exact hrecord
      · intro heq
        rw [← heq, load_bundle_by_id_eq_none hexisting] at hrecord
        exact absurd hrecord (by simp)
    · rw [get_insert]
      exact if_pos rfl

/-- A seed is a publication that its checks let through. -/
theorem seed_capability_eq_ok {definition : CapabilityDefinition} {expected_record_digest : String}
    {outcome : PublishOutcome CapabilityRecord}
    (h : seed_capability codec store definition expected_record_digest = .ok (outcome, store')) :
    publish_capability_tx codec store definition = .ok (outcome, store') := by
  unfold seed_capability at h
  simp only [bind_eq_ok, pure_eq_ok, Prod.exists, Prod.mk.injEq] at h
  have hpublish : ∃ published final, publish_capability_tx codec store definition
      = .ok (published, final) ∧ published = outcome ∧ final = store' := by
    grind
  obtain ⟨published, final, hpublish, rfl, rfl⟩ := hpublish
  exact hpublish

theorem seed_capability_publishes {definition : CapabilityDefinition}
    {expected_record_digest : String} {outcome : PublishOutcome CapabilityRecord}
    (h : seed_capability codec store definition expected_record_digest = .ok (outcome, store')) :
    Publishes store store' :=
  publish_capability_tx_publishes (seed_capability_eq_ok h)

end LocalVerificationStore

end OvcaCore

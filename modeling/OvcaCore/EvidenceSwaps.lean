/-
The operations of the local store that write current rows.

A swap replaces one row of a key by a row under the next generation (`Swaps`), a rebuild
replaces all rows by those of a selection (`Selected`). There is one lemma for each
operation, from its result to what it does with the tables.
-/
import OvcaCore.EvidenceSteps

set_option autoImplicit false

namespace OvcaCore

open OvcaCore.Checks OvcaCore.OrderedMaps OvcaCore.Slots

namespace LocalVerificationStore

variable {codec : StoreCodec} {store store' : LocalVerificationStore}

/-! ## Swaps -/

theorem swap_capability_swaps {next : CapabilityCurrent} {expectation : ProjectionExpectation}
    {generation : ℕ} {record : CapabilityRecord} {written : LocalVerificationStore}
    (hnext : next = new_capability_current codec next.capability_id next.revision
      next.record_digest generation)
    (hrecord : store.capability_records[
      (⟨next.capability_id, next.revision⟩ : CapabilityRevision)]? = some record)
    (hbinding : record.digest = next.record_digest
      ∧ record.definition.capability_id = next.capability_id
      ∧ record.definition.revision = next.revision)
    (hgeneration : store.capabilities.next_generation next.capability_id = .ok generation)
    (hwrite : write_capability_current_cas store next expectation = .ok written)
    (hpersist : persist_capability_generation codec written next = .ok store') :
    Swaps codec store store' := by
  unfold write_capability_current_cas at hwrite
  simp only [bind_eq_ok, pure_eq_ok] at hwrite
  obtain ⟨-, -, capabilities, hwritten, rfl⟩ := hwrite
  unfold persist_capability_generation at hpersist
  simp only [bind_eq_ok, pure_eq_ok] at hpersist
  obtain ⟨-, -, capabilities', hpersisted, rfl⟩ := hpersist
  have htoken : next.row.token.generation = generation := by
    rw [hnext]
    rfl
  obtain ⟨hothers, hslot, hfresh⟩ :=
    Projection.swap_step next.row hgeneration htoken hwritten hpersisted
  have hbound : CapabilityBound codec { store with capabilities := capabilities' }
      next.capability_id next.row := by
    refine ⟨⟨record, hrecord, hbinding⟩, ?_⟩
    rw [hnext]
    rfl
  refine ⟨⟨fun _ _ h => h, fun _ _ h => h, ?_, fun _ _ h => Or.inl h⟩, ?_, fun _ => Or.inl rfl⟩
  · intro capability_id row hrow
    by_cases hid : capability_id = next.capability_id
    · subst hid
      have hcurrent := congrArg Slot.current hslot
      change capabilities'.current[next.capability_id]? = some next.row at hcurrent
      rw [hcurrent, Option.some_inj] at hrow
      rw [← hrow]
      exact Or.inr hbound
    · have hcurrent := congrArg Slot.current (hothers capability_id hid)
      exact Or.inl (hcurrent.symm.trans hrow)
  · intro capability_id
    by_cases hid : capability_id = next.capability_id
    · subst hid
      exact Or.inr ⟨next.row, hslot, hfresh⟩
    · exact Or.inl (hothers capability_id hid)

/-- A bundle row is replaced by the next one. -/
structure SwapsBundle (codec : StoreCodec) (store store' : LocalVerificationStore)
    (next : EvidenceCurrent) : Prop where
  capability_records : store'.capability_records = store.capability_records
  bundle_records : store'.bundle_records = store.bundle_records
  capabilities : store'.capabilities = store.capabilities
  others : ∀ key, key ≠ next.key → store'.bundles.slot key = store.bundles.slot key
  selected : store'.bundles.slot next.key = ⟨some next.row, some next.token⟩
  fresh : ∀ last, store.bundles.generations[next.key]? = some last →
    last.generation < next.token.generation
  state_digest : evidence_state_digest codec next = next.token.state_digest

theorem new_evidence_current_eq_ok {key : EvidenceKey} {bundle_id record_digest : String}
    {freshness : EvidenceFreshness} {generation : ℕ} {next : EvidenceCurrent}
    (h : new_evidence_current codec key bundle_id record_digest freshness generation = .ok next) :
    next.key = key ∧ next.bundle_id = bundle_id ∧ next.record_digest = record_digest
      ∧ next.freshness = freshness ∧ next.token.generation = generation
      ∧ evidence_state_digest codec next = next.token.state_digest := by
  unfold new_evidence_current at h
  simp only [bind_eq_ok, pure_eq_ok] at h
  obtain ⟨-, -, rfl⟩ := h
  exact ⟨rfl, rfl, rfl, rfl, rfl, rfl⟩

theorem swap_bundle_eq_ok {next : EvidenceCurrent} {expectation : ProjectionExpectation}
    {generation : ℕ} {written : LocalVerificationStore}
    (hgeneration : store.bundles.next_generation next.key = .ok generation)
    (htoken : next.token.generation = generation)
    (hdigest : evidence_state_digest codec next = next.token.state_digest)
    (hwrite : write_bundle_current_cas store next expectation = .ok written)
    (hpersist : persist_bundle_generation codec written next = .ok store') :
    SwapsBundle codec store store' next := by
  unfold write_bundle_current_cas at hwrite
  simp only [bind_eq_ok, pure_eq_ok] at hwrite
  obtain ⟨bundles, hwritten, rfl⟩ := hwrite
  unfold persist_bundle_generation at hpersist
  simp only [bind_eq_ok, pure_eq_ok] at hpersist
  obtain ⟨-, -, bundles', hpersisted, rfl⟩ := hpersist
  obtain ⟨hothers, hslot, hfresh⟩ :=
    Projection.swap_step next.row hgeneration htoken hwritten hpersisted
  exact ⟨rfl, rfl, rfl, hothers, hslot, hfresh, hdigest⟩

theorem SwapsBundle.current {next : EvidenceCurrent} (h : SwapsBundle codec store store' next) :
    store'.bundles.current[next.key]? = some next.row :=
  congrArg Slot.current h.selected

theorem SwapsBundle.others_current {next : EvidenceCurrent} {key : EvidenceKey}
    (h : SwapsBundle codec store store' next) (hkey : key ≠ next.key) :
    store'.bundles.current[key]? = store.bundles.current[key]? :=
  congrArg Slot.current (h.others key hkey)

theorem SwapsBundle.swaps {next : EvidenceCurrent} (h : SwapsBundle codec store store' next)
    (hrecord : ∃ record : BundleRow, store.bundle_records[next.bundle_id]? = some record
      ∧ record.digest = next.record_digest ∧ record.key = next.key
      ∧ record.bundle.bundle_id = next.bundle_id ∧ record.bundle.key = next.key) :
    Swaps codec store store' := by
  refine ⟨⟨?_, ?_, ?_, ?_⟩, ?_, ?_⟩
  · rw [h.capability_records]
    exact fun _ _ h => h
  · rw [h.bundle_records]
    exact fun _ _ h => h
  · rw [h.capabilities]
    exact fun _ _ h => Or.inl h
  · intro key row hrow
    by_cases hkey : key = next.key
    · subst hkey
      rw [h.current, Option.some_inj] at hrow
      rw [← hrow]
      refine Or.inr ⟨?_, h.state_digest⟩
      rw [h.bundle_records]
      exact hrecord
    · rw [h.others_current hkey] at hrow
      exact Or.inl hrow
  · rw [h.capabilities]
    exact fun _ => Or.inl rfl
  · intro key
    by_cases hkey : key = next.key
    · subst hkey
      exact Or.inr ⟨next.row, h.selected, h.fresh⟩
    · exact Or.inl (h.others key hkey)

theorem compare_and_swap_capability_swaps {capability_id : String} {revision : ℕ}
    {record_digest : String} {expectation : ProjectionExpectation}
    {outcome : CasOutcome CapabilityCurrent}
    (h : compare_and_swap_capability codec store capability_id revision record_digest expectation
      = .ok (outcome, store')) :
    Swaps codec store store' ∧ ((∃ current, outcome = .Conflict current) → store' = store) := by
  unfold compare_and_swap_capability at h
  simp only [bind_eq_ok, ok_or_eq_ok, exists_const, reject_if_eq_ok, ne_eq, not_not] at h
  obtain ⟨_, hload, record, rfl, hdigest, current, -, h⟩ := h
  obtain ⟨hrecord, hid, hrevision⟩ := load_capability_eq_some hload
  by_cases hmatches : expectation.matches (current.map CapabilityCurrent.token) = false
  · rw [if_pos hmatches, pure_eq_ok, Prod.mk.injEq] at h
    obtain ⟨-, rfl⟩ := h
    exact ⟨Swaps.refl store, fun _ => rfl⟩
  · rw [if_neg hmatches] at h
    simp only [bind_eq_ok, pure_eq_ok, Prod.mk.injEq] at h
    obtain ⟨generation, hgeneration, written, hwrite, final, hpersist, rfl, rfl⟩ := h
    refine ⟨swap_capability_swaps rfl hrecord ⟨hdigest, hid, hrevision⟩ hgeneration hwrite hpersist,
      ?_⟩
    rintro ⟨current, hconflict⟩
    cases hconflict

theorem compare_and_swap_capability_bundles {capability_id : String} {revision : ℕ}
    {record_digest : String} {expectation : ProjectionExpectation}
    {outcome : CasOutcome CapabilityCurrent}
    (h : compare_and_swap_capability codec store capability_id revision record_digest expectation
      = .ok (outcome, store')) : store'.bundles = store.bundles := by
  unfold compare_and_swap_capability at h
  simp only [bind_eq_ok, ok_or_eq_ok] at h
  obtain ⟨_, -, record, -, -, -, current, -, h⟩ := h
  by_cases hmatches : expectation.matches (current.map CapabilityCurrent.token) = false
  · rw [if_pos hmatches, pure_eq_ok, Prod.mk.injEq] at h
    obtain ⟨-, rfl⟩ := h
    rfl
  · rw [if_neg hmatches] at h
    unfold write_capability_current_cas persist_capability_generation at h
    simp only [bind_eq_ok, pure_eq_ok, Prod.mk.injEq] at h
    obtain ⟨_, -, _, ⟨-, -, _, -, rfl⟩, _, ⟨-, -, _, -, rfl⟩, -, rfl⟩ := h
    rfl

theorem apply_bundle_cas_cases {record : BundleRecord} {expectation : ProjectionExpectation}
    {freshness : EvidenceFreshness} {outcome : CasOutcome EvidenceCurrent}
    (h : apply_bundle_cas codec store record expectation freshness = .ok (outcome, store')) :
    ((∃ current, outcome = .Conflict current) ∧ store' = store)
      ∨ ∃ next, outcome = .Applied next ∧ next.key = record.bundle.key
        ∧ next.bundle_id = record.bundle.bundle_id ∧ next.record_digest = record.digest
        ∧ next.freshness = freshness ∧ SwapsBundle codec store store' next
        ∧ revives_stale (store.bundles.current[next.key]?.map fun row => row.at next.key)
          record.digest = false := by
  unfold apply_bundle_cas at h
  rw [bind_eq_ok] at h
  obtain ⟨current, hcurrent, h⟩ := h
  by_cases hmatches : expectation.matches (current.map EvidenceCurrent.token) = false
  · rw [if_pos hmatches, pure_eq_ok, Prod.mk.injEq] at h
    exact Or.inl ⟨⟨current, h.1.symm⟩, h.2.symm⟩
  · rw [if_neg hmatches] at h
    simp only [bind_eq_ok, pure_eq_ok, Prod.mk.injEq, reject_if_eq_ok, exists_const,
      Bool.not_eq_true] at h
    obtain ⟨hrevives, generation, hgeneration, next, hnext, written, hwrite, final, hpersist, rfl,
      rfl⟩ := h
    obtain ⟨hkey, hid, hdigest, hfreshness, htoken, hstate⟩ := new_evidence_current_eq_ok hnext
    rw [load_bundle_current_eq_ok hcurrent, ← hkey] at hrevives
    rw [← hkey] at hgeneration
    exact Or.inr ⟨next, rfl, hkey, hid, hdigest, hfreshness,
      swap_bundle_eq_ok hgeneration htoken hstate hwrite hpersist, hrevives⟩

theorem apply_bundle_cas_swaps {record : BundleRecord} {expectation : ProjectionExpectation}
    {freshness : EvidenceFreshness} {outcome : CasOutcome EvidenceCurrent}
    (hrecord : store.bundle_records[record.bundle.bundle_id]?
      = some ⟨record.digest, record.bundle.key, record.bundle⟩)
    (h : apply_bundle_cas codec store record expectation freshness = .ok (outcome, store')) :
    Swaps codec store store' := by
  rcases apply_bundle_cas_cases h with ⟨-, rfl⟩ | ⟨next, -, hkey, hid, hdigest, -, hswap, -⟩
  · exact Swaps.refl store'
  · refine hswap.swaps ⟨⟨record.digest, record.bundle.key, record.bundle⟩, ?_, ?_⟩
    · rw [hid]
      exact hrecord
    · rw [hkey, hid, hdigest]
      exact ⟨rfl, rfl, rfl, rfl⟩

theorem compare_and_swap_bundle_swaps {record_digest : String}
    {expectation : ProjectionExpectation} {outcome : CasOutcome EvidenceCurrent}
    (h : compare_and_swap_bundle codec store record_digest expectation = .ok (outcome, store')) :
    Swaps codec store store' := by
  unfold compare_and_swap_bundle at h
  simp only [bind_eq_ok, ok_or_eq_ok] at h
  obtain ⟨_, hload, record, rfl, h⟩ := h
  exact apply_bundle_cas_swaps (load_bundle_by_digest_eq_some hload).1 h

theorem publish_bundle_and_cas_eq_ok {bundle : VerificationBundle}
    {expectation : ProjectionExpectation}
    {outcome : PublishOutcome BundleRecord × CasOutcome EvidenceCurrent}
    (h : publish_bundle_and_cas codec store bundle expectation = .ok (outcome, store')) :
    ∃ published, publish_bundle_tx codec store bundle = .ok (outcome.1, published)
      ∧ apply_bundle_cas codec published outcome.1.record expectation .Current
        = .ok (outcome.2, store') := by
  unfold publish_bundle_and_cas at h
  simp only [bind_eq_ok, pure_eq_ok, Prod.exists, Prod.mk.injEq] at h
  obtain ⟨publication, published, hpublish, projection, final, hcas, rfl, rfl⟩ := h
  exact ⟨published, hpublish, hcas⟩

theorem publish_bundle_and_cas_swaps {bundle : VerificationBundle}
    {expectation : ProjectionExpectation}
    {outcome : PublishOutcome BundleRecord × CasOutcome EvidenceCurrent}
    (h : publish_bundle_and_cas codec store bundle expectation = .ok (outcome, store')) :
    Swaps codec store store' := by
  obtain ⟨published, hpublish, hcas⟩ := publish_bundle_and_cas_eq_ok h
  obtain ⟨hpublishes, hrecord⟩ := publish_bundle_tx_eq_ok hpublish
  exact hpublishes.swaps_trans (apply_bundle_cas_swaps hrecord hcas)

/-! ## Staleness -/

theorem validate_capability_selection_bound {current : CapabilityCurrent}
    (h : validate_capability_selection codec store current = .ok ()) :
    CapabilityBound codec store current.capability_id current.row := by
  unfold validate_capability_selection validate_capability_state at h
  simp only [bind_eq_ok, ok_or_eq_ok, reject_if_eq_ok, exists_const, ne_eq, not_not] at h
  obtain ⟨⟨-, -, -, -, -, -, hstate⟩, _, hload, record, rfl, hdigest⟩ := h
  obtain ⟨hrecord, hid, hrevision⟩ := load_capability_eq_some hload
  exact ⟨⟨record, hrecord, hdigest, hid, hrevision⟩, hstate⟩

theorem validate_bundle_selection_bound {current : EvidenceCurrent}
    (h : validate_bundle_selection codec store current = .ok ()) :
    BundleBound codec store current.key current.row := by
  unfold validate_bundle_selection validate_evidence_state at h
  simp only [bind_eq_ok, ok_or_eq_ok, reject_if_eq_ok, exists_const, ne_eq, not_not, not_or] at h
  obtain ⟨⟨-, -, -, -, -, -, -, -, hstate⟩, _, hload, record, rfl, hid, hkey⟩ := h
  obtain ⟨hrecord, hdigest⟩ := load_bundle_by_digest_eq_some hload
  rw [hid] at hrecord
  exact ⟨⟨_, hrecord, hdigest, hkey, hid, hkey⟩, hstate⟩

/-- A row that loads is bound. -/
theorem load_bundle_current_bound {key : EvidenceKey} {current : EvidenceCurrent}
    (h : load_bundle_current codec store key = .ok (some current)) :
    store.bundles.current[key]? = some current.row ∧ current.key = key
      ∧ BundleBound codec store key current.row := by
  have hrow := load_bundle_current_eq_ok h
  obtain ⟨row, hget, hcurrent⟩ := Option.map_eq_some_iff.mp hrow.symm
  unfold load_bundle_current at h
  rw [hget] at h
  simp only [bind_eq_ok, pure_eq_ok, exists_and_right, exists_unit_eq_ok] at h
  have hbound := validate_bundle_selection_bound h.2.1
  rw [← hcurrent]
  exact ⟨hget, rfl, hbound⟩

theorem mark_stale_cases {key : EvidenceKey} {expected : CasToken} {causes : List StaleCause}
    {outcome : CasOutcome EvidenceCurrent}
    (h : mark_stale codec store key expected causes = .ok (outcome, store')) :
    (store' = store ∧ ∀ next, outcome ≠ .Applied next)
      ∨ ∃ current merged next, load_bundle_current codec store key = .ok (some current)
        ∧ outcome = .Applied next ∧ next.key = key ∧ next.bundle_id = current.bundle_id
        ∧ next.record_digest = current.record_digest ∧ next.freshness = .Stale merged
        ∧ SwapsBundle codec store store' next := by
  unfold mark_stale at h
  rw [bind_eq_ok] at h
  obtain ⟨-, -, h⟩ := h
  rw [bind_eq_ok] at h
  obtain ⟨current, hcurrent, h⟩ := h
  cases current with
  | none =>
    rw [pure_eq_ok, Prod.mk.injEq] at h
    obtain ⟨rfl, rfl⟩ := h
    exact Or.inl ⟨rfl, fun _ happlied => by cases happlied⟩
  | some current =>
    dsimp only at h
    by_cases htoken : current.token ≠ expected
    · rw [if_pos htoken, pure_eq_ok, Prod.mk.injEq] at h
      obtain ⟨rfl, rfl⟩ := h
      exact Or.inl ⟨rfl, fun _ happlied => by cases happlied⟩
    rw [if_neg htoken] at h
    by_cases hsame : current.freshness = .Stale (merged_causes current.freshness causes)
    · simp only [if_pos hsame, pure_eq_ok, Prod.mk.injEq] at h
      obtain ⟨rfl, rfl⟩ := h
      exact Or.inl ⟨rfl, fun _ happlied => by cases happlied⟩
    simp only [if_neg hsame, bind_eq_ok, pure_eq_ok, Prod.mk.injEq] at h
    obtain ⟨generation, hgeneration, next, hnext, written, hwrite, final, hpersist, rfl, rfl⟩ := h
    obtain ⟨hkey, hid, hdigest, hfreshness, hnext_token, hstate⟩ := new_evidence_current_eq_ok hnext
    rw [← hkey] at hgeneration
    exact Or.inr ⟨current, _, next, hcurrent, rfl, hkey, hid, hdigest, hfreshness,
      swap_bundle_eq_ok hgeneration hnext_token hstate hwrite hpersist⟩

theorem mark_stale_swaps {key : EvidenceKey} {expected : CasToken} {causes : List StaleCause}
    {outcome : CasOutcome EvidenceCurrent}
    (h : mark_stale codec store key expected causes = .ok (outcome, store')) :
    Swaps codec store store' := by
  rcases mark_stale_cases h with
    ⟨rfl, -⟩ | ⟨current, merged, next, hload, -, hkey, hid, hdigest, -, hswap⟩
  · exact Swaps.refl store'
  · obtain ⟨-, -, hbound⟩ := load_bundle_current_bound hload
    refine hswap.swaps ?_
    rw [hid, hdigest, hkey]
    exact hbound.record

theorem mark_stale_if_fingerprints_changed_cases {key : EvidenceKey} {expected_token : CasToken}
    {expected : VerificationFingerprints} {outcome : CasOutcome EvidenceCurrent}
    (h : mark_stale_if_fingerprints_changed codec store key expected_token expected
      = .ok (outcome, store')) :
    (store' = store ∧ ∀ next, outcome ≠ .Applied next)
      ∨ ∃ causes, mark_stale codec store key expected_token causes = .ok (outcome, store') := by
  unfold mark_stale_if_fingerprints_changed at h
  rw [bind_eq_ok] at h
  obtain ⟨current, -, h⟩ := h
  cases current with
  | none =>
    rw [pure_eq_ok, Prod.mk.injEq] at h
    obtain ⟨rfl, rfl⟩ := h
    exact Or.inl ⟨rfl, fun _ happlied => by cases happlied⟩
  | some current =>
    dsimp only at h
    by_cases htoken : current.token ≠ expected_token
    · rw [if_pos htoken, pure_eq_ok, Prod.mk.injEq] at h
      obtain ⟨rfl, rfl⟩ := h
      exact Or.inl ⟨rfl, fun _ happlied => by cases happlied⟩
    rw [if_neg htoken] at h
    simp only [bind_eq_ok, ok_or_eq_ok] at h
    obtain ⟨_, -, record, -, h⟩ := h
    by_cases hcauses : changed_fingerprints record.bundle.fingerprints expected = []
    · rw [if_pos hcauses, pure_eq_ok, Prod.mk.injEq] at h
      obtain ⟨rfl, rfl⟩ := h
      exact Or.inl ⟨rfl, fun _ happlied => by cases happlied⟩
    · rw [if_neg hcauses] at h
      exact Or.inr ⟨_, h⟩

theorem mark_stale_if_fingerprints_changed_swaps {key : EvidenceKey} {expected_token : CasToken}
    {expected : VerificationFingerprints} {outcome : CasOutcome EvidenceCurrent}
    (h : mark_stale_if_fingerprints_changed codec store key expected_token expected
      = .ok (outcome, store')) :
    Swaps codec store store' := by
  rcases mark_stale_if_fingerprints_changed_cases h with ⟨rfl, -⟩ | ⟨causes, h⟩
  · exact Swaps.refl store'
  · exact mark_stale_swaps h

/-! ## Rebuilds -/

theorem ascending_nodup {κ : Type} [Ord κ] [Std.TransOrd κ] {keys : List κ}
    (h : ascending keys = true) : keys.Nodup := by
  have hpairwise : keys.Pairwise fun a b => compare a b = .lt := by
    have : Trans (fun a b : κ => compare a b = .lt) (fun a b => compare a b = .lt)
        (fun a b => compare a b = .lt) := ⟨Std.TransCmp.lt_trans⟩
    rw [← List.isChain_iff_pairwise]
    induction keys with
    | nil => exact .nil
    | cons a keys ih =>
      cases keys with
      | nil => exact .singleton a
      | cons b keys =>
        rw [ascending, Bool.and_eq_true, Ordering.isLT_iff_eq_lt] at h
        exact .cons_cons h.1 (ih h.2)
  refine hpairwise.imp ?_
  intro a b hlt heq
  have hself : compare b b = .eq := Std.ReflCmp.compare_self
  rw [heq, hself] at hlt
  exact nomatch hlt

theorem validate_selection_keys {selection : AuthoritativeProjectionSelection}
    (h : selection.validate codec = .ok ()) :
    (selection.capabilities.map CapabilityCurrent.capability_id).Nodup
      ∧ (selection.bundles.map EvidenceCurrent.key).Nodup := by
  unfold AuthoritativeProjectionSelection.validate AuthoritativeProjectionSelection.validate_shape
    at h
  simp only [bind_eq_ok, reject_if_eq_ok, exists_const, Bool.not_eq_false] at h
  obtain ⟨⟨-, -, -, -, hcapabilities, -, -, hbundles⟩, -⟩ := h
  exact ⟨ascending_nodup hcapabilities, ascending_nodup hbundles⟩

/-- The rows of a selection, and no others, are in the store. -/
structure Selected (store store' : LocalVerificationStore)
    (selection : AuthoritativeProjectionSelection) : Prop where
  capability_records : store'.capability_records = store.capability_records
  bundle_records : store'.bundle_records = store.bundle_records
  capabilities : ∀ current ∈ selection.capabilities, Selects CapabilityCurrentRow.token
    CasToken.generation current.row (store.capabilities.slot current.capability_id)
    (store'.capabilities.slot current.capability_id)
  bundles : ∀ current ∈ selection.bundles, Selects BundleCurrentRow.token CasToken.generation
    current.row (store.bundles.slot current.key) (store'.bundles.slot current.key)
  other_capabilities : ∀ capability_id,
    capability_id ∉ selection.capabilities.map CapabilityCurrent.capability_id →
      store'.capabilities.slot capability_id
        = ⟨none, store.capabilities.generations[capability_id]?⟩
  other_bundles : ∀ key, key ∉ selection.bundles.map EvidenceCurrent.key →
    store'.bundles.slot key = ⟨none, store.bundles.generations[key]?⟩

theorem select_capability_eq_ok {current : CapabilityCurrent}
    (h : select_capability codec store current = .ok store') :
    (store'.capability_records = store.capability_records
      ∧ store'.bundle_records = store.bundle_records ∧ store'.bundles = store.bundles)
    ∧ Selects CapabilityCurrentRow.token CasToken.generation current.row
      (store.capabilities.slot current.capability_id)
      (store'.capabilities.slot current.capability_id)
    ∧ ∀ k, k ≠ current.capability_id → store'.capabilities.slot k = store.capabilities.slot k := by
  unfold select_capability write_capability_current persist_capability_generation at h
  simp only [bind_eq_ok, pure_eq_ok] at h
  obtain ⟨_, ⟨-, -, written, hwrite, rfl⟩, -, -, persisted, hpersist, rfl⟩ := h
  obtain ⟨hothers, hselects⟩ := Projection.select_step current.row hwrite hpersist
  exact ⟨⟨rfl, rfl, rfl⟩, hselects, hothers⟩

theorem select_bundle_eq_ok {current : EvidenceCurrent}
    (h : select_bundle codec store current = .ok store') :
    (store'.capability_records = store.capability_records
      ∧ store'.bundle_records = store.bundle_records ∧ store'.capabilities = store.capabilities)
    ∧ Selects BundleCurrentRow.token CasToken.generation current.row
      (store.bundles.slot current.key) (store'.bundles.slot current.key)
    ∧ ∀ k, k ≠ current.key → store'.bundles.slot k = store.bundles.slot k := by
  unfold select_bundle write_bundle_current persist_bundle_generation at h
  simp only [bind_eq_ok, pure_eq_ok] at h
  obtain ⟨_, ⟨written, hwrite, rfl⟩, -, -, persisted, hpersist, rfl⟩ := h
  obtain ⟨hothers, hselects⟩ := Projection.select_step current.row hwrite hpersist
  exact ⟨⟨rfl, rfl, rfl⟩, hselects, hothers⟩

theorem fold_keeps {β : Type} (f : LocalVerificationStore → β) {α : Type}
    {step : LocalVerificationStore → α → LocalVerificationStoreResult LocalVerificationStore}
    (hstep : ∀ store x store', step store x = .ok store' → f store' = f store) {xs : List α}
    (h : fold_checked step store xs = .ok store') : f store' = f store :=
  fold_checked_rel (R := fun store store' => f store' = f store) (fun _ => rfl)
    (fun h h' => h'.trans h) (fun h => hstep _ _ _ h) h

theorem write_selection_selected {selection : AuthoritativeProjectionSelection}
    (hcapabilities : (selection.capabilities.map CapabilityCurrent.capability_id).Nodup)
    (hbundles : (selection.bundles.map EvidenceCurrent.key).Nodup)
    (h : write_selection codec store selection = .ok store') : Selected store store' selection := by
  unfold write_selection at h
  rw [bind_eq_ok] at h
  obtain ⟨written, hcap, hbun⟩ := h
  have hcap_records := fold_keeps LocalVerificationStore.capability_records
    (fun _ _ _ h => (select_capability_eq_ok h).1.1) hcap
  have hcap_bundle_records := fold_keeps LocalVerificationStore.bundle_records
    (fun _ _ _ h => (select_capability_eq_ok h).1.2.1) hcap
  have hcap_bundles := fold_keeps LocalVerificationStore.bundles
    (fun _ _ _ h => (select_capability_eq_ok h).1.2.2) hcap
  have hbun_records := fold_keeps LocalVerificationStore.capability_records
    (fun _ _ _ h => (select_bundle_eq_ok h).1.1) hbun
  have hbun_bundle_records := fold_keeps LocalVerificationStore.bundle_records
    (fun _ _ _ h => (select_bundle_eq_ok h).1.2.1) hbun
  have hbun_capabilities := fold_keeps LocalVerificationStore.capabilities
    (fun _ _ _ h => (select_bundle_eq_ok h).1.2.2) hbun
  obtain ⟨hcap_selects, hcap_others⟩ := fold_selects CapabilityCurrent.capability_id
    CapabilityCurrent.row (fun store => store.capabilities.slot)
    (fun _ _ _ h => (select_capability_eq_ok h).2) hcapabilities hcap
  obtain ⟨hbun_selects, hbun_others⟩ := fold_selects EvidenceCurrent.key EvidenceCurrent.row
    (fun store => store.bundles.slot) (fun _ _ _ h => (select_bundle_eq_ok h).2) hbundles hbun
  rw [hcap_bundles] at hbun_selects hbun_others
  rw [← hbun_capabilities] at hcap_selects hcap_others
  refine ⟨hbun_records.trans hcap_records, hbun_bundle_records.trans hcap_bundle_records,
    hcap_selects, hbun_selects, ?_, ?_⟩
  · intro capability_id hid
    rw [hcap_others capability_id hid]
    rfl
  · intro key hkey
    rw [hbun_others key hkey]
    rfl

/-- Bound rows that replace all others are a move. -/
theorem Selected.moves {selection : AuthoritativeProjectionSelection}
    (h : Selected store store' selection)
    (hcapabilities : ∀ current ∈ selection.capabilities,
      CapabilityBound codec store current.capability_id current.row)
    (hbundles : ∀ current ∈ selection.bundles, BundleBound codec store current.key current.row) :
    Moves codec store store' := by
  refine ⟨⟨?_, ?_, ?_, ?_⟩, ?_, ?_⟩
  · rw [h.capability_records]
    exact fun _ _ h => h
  · rw [h.bundle_records]
    exact fun _ _ h => h
  · intro capability_id row hrow
    by_cases hid : capability_id ∈ selection.capabilities.map CapabilityCurrent.capability_id
    · obtain ⟨current, hmem, rfl⟩ := List.mem_map.mp hid
      have hselected := congrArg Slot.current (h.capabilities current hmem).1
      obtain rfl : row = current.row := Option.some.inj (hrow.symm.trans hselected)
      obtain ⟨hrecord, hdigest⟩ := hcapabilities current hmem
      rw [← h.capability_records] at hrecord
      exact Or.inr ⟨hrecord, hdigest⟩
    · have hnone := congrArg Slot.current (h.other_capabilities capability_id hid)
      exact absurd (hrow.symm.trans hnone) (by simp)
  · intro key row hrow
    by_cases hkey : key ∈ selection.bundles.map EvidenceCurrent.key
    · obtain ⟨current, hmem, rfl⟩ := List.mem_map.mp hkey
      have hselected := congrArg Slot.current (h.bundles current hmem).1
      obtain rfl : row = current.row := Option.some.inj (hrow.symm.trans hselected)
      obtain ⟨hrecord, hdigest⟩ := hbundles current hmem
      rw [← h.bundle_records] at hrecord
      exact Or.inr ⟨hrecord, hdigest⟩
    · have hnone := congrArg Slot.current (h.other_bundles key hkey)
      exact absurd (hrow.symm.trans hnone) (by simp)
  · intro capability_id
    by_cases hid : capability_id ∈ selection.capabilities.map CapabilityCurrent.capability_id
    · obtain ⟨current, hmem, rfl⟩ := List.mem_map.mp hid
      exact (h.capabilities current hmem).step rfl
    · rw [h.other_capabilities capability_id hid]
      exact .remove _
  · intro key
    by_cases hkey : key ∈ selection.bundles.map EvidenceCurrent.key
    · obtain ⟨current, hmem, rfl⟩ := List.mem_map.mp hkey
      exact (h.bundles current hmem).step rfl
    · rw [h.other_bundles key hkey]
      exact .remove _

theorem rebuild_projections_eq_ok {selection : AuthoritativeProjectionSelection}
    (h : rebuild_projections codec store selection = .ok store') :
    Selected store store' selection ∧ Moves codec store store' := by
  unfold rebuild_projections at h
  simp only [bind_eq_ok, check_all_eq_ok, exists_const, exists_and_right, exists_unit_eq_ok] at h
  obtain ⟨hvalid, hcapabilities, hbundles, hwrite⟩ := h
  obtain ⟨hids, hkeys⟩ := validate_selection_keys hvalid
  have hselected := write_selection_selected hids hkeys hwrite
  refine ⟨hselected, hselected.moves ?_ ?_⟩
  · intro current hmem
    exact validate_capability_selection_bound (hcapabilities current hmem).1
  · intro current hmem
    exact validate_bundle_selection_bound (hbundles current hmem).1

end LocalVerificationStore

end OvcaCore

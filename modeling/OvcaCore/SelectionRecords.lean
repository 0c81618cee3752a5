/-
The records that a selection names.

A validation of a selection reads immutable records only, so it stays accepted as the store
grows (`validate_selection_records_later`). For the bundles, which are read by their digest,
this rests on an invariant: no two records have one digest (`DistinctBundles`).
-/
import OvcaCore.EvidenceInvariants
import OvcaCore.ProjectionArchives

set_option autoImplicit false

namespace OvcaCore

open OvcaCore.Checks OvcaCore.OrderedMaps

namespace LocalVerificationStore

variable {codec : StoreCodec} {store store' : LocalVerificationStore}

/-! ## Digests of bundles -/

def DistinctBundles (store : LocalVerificationStore) : Prop :=
  ∀ (id id' : String) (row row' : BundleRow), store.bundle_records[id]? = some row →
    store.bundle_records[id']? = some row' → row.digest = row'.digest → id = id'

theorem distinctBundles_of_eq (h : store'.bundle_records = store.bundle_records)
    (hdistinct : DistinctBundles store) : DistinctBundles store' := by
  unfold DistinctBundles
  rw [h]
  exact hdistinct

theorem publish_bundle_tx_distinct {bundle : VerificationBundle}
    {outcome : PublishOutcome BundleRecord} (hdistinct : DistinctBundles store)
    (h : publish_bundle_tx codec store bundle = .ok (outcome, store')) :
    DistinctBundles store' := by
  unfold publish_bundle_tx at h
  rw [bind_eq_ok] at h
  obtain ⟨canonical, -, h⟩ := h
  rw [bind_eq_ok] at h
  obtain ⟨existing, hexisting, h⟩ := h
  cases existing with
  | some existing =>
    simp only [bind_eq_ok, pure_eq_ok, Prod.mk.injEq] at h
    obtain ⟨-, -, -, rfl⟩ := h
    exact hdistinct
  | none =>
    simp only [bind_eq_ok, pure_eq_ok, Prod.mk.injEq, reject_if_eq_ok, exists_const,
      List.any_eq_true, not_exists, not_and, beq_iff_eq] at h
    obtain ⟨hfresh, -, rfl⟩ := h
    have hnew : ∀ (id : String) (row : BundleRow), store.bundle_records[id]? = some row →
        row.digest ≠ codec.sha256_hex canonical := fun id row hrow =>
      hfresh (id, row) (Std.ExtTreeMap.mem_toList_iff_getElem?_eq_some.mpr hrow)
    intro id id' row row' hrow hrow' hdigest
    rw [get_insert] at hrow hrow'
    by_cases hid : bundle.bundle_id = id
    · rw [if_pos hid, Option.some_inj] at hrow
      by_cases hid' : bundle.bundle_id = id'
      · rw [← hid, ← hid']
      · rw [if_neg hid'] at hrow'
        rw [← hrow] at hdigest
        exact absurd hdigest.symm (hnew id' row' hrow')
    · rw [if_neg hid] at hrow
      by_cases hid' : bundle.bundle_id = id'
      · rw [if_pos hid', Option.some_inj] at hrow'
        rw [← hrow'] at hdigest
        exact absurd hdigest (hnew id row hrow)
      · rw [if_neg hid'] at hrow'
        exact hdistinct id id' row row' hrow hrow' hdigest

theorem publish_capability_tx_bundle_records {definition : CapabilityDefinition}
    {outcome : PublishOutcome CapabilityRecord}
    (h : publish_capability_tx codec store definition = .ok (outcome, store')) :
    store'.bundle_records = store.bundle_records := by
  unfold publish_capability_tx at h
  rw [bind_eq_ok] at h
  obtain ⟨canonical, -, h⟩ := h
  rw [bind_eq_ok] at h
  obtain ⟨existing, -, h⟩ := h
  cases existing with
  | some existing =>
    simp only [bind_eq_ok, pure_eq_ok, Prod.mk.injEq] at h
    obtain ⟨-, -, -, rfl⟩ := h
    rfl
  | none =>
    simp only [bind_eq_ok, pure_eq_ok, Prod.mk.injEq] at h
    obtain ⟨-, -, -, -, -, rfl⟩ := h
    rfl

theorem seed_capability_bundle_records {definition : CapabilityDefinition}
    {expected_record_digest : String} {outcome : PublishOutcome CapabilityRecord}
    (h : seed_capability codec store definition expected_record_digest = .ok (outcome, store')) :
    store'.bundle_records = store.bundle_records :=
  publish_capability_tx_bundle_records (seed_capability_eq_ok h)

theorem compare_and_swap_capability_bundle_records {capability_id : String} {revision : ℕ}
    {record_digest : String} {expectation : ProjectionExpectation}
    {outcome : CasOutcome CapabilityCurrent}
    (h : compare_and_swap_capability codec store capability_id revision record_digest expectation
      = .ok (outcome, store')) : store'.bundle_records = store.bundle_records := by
  unfold compare_and_swap_capability at h
  simp only [bind_eq_ok, ok_or_eq_ok] at h
  obtain ⟨_, -, record, -, -, -, current, -, h⟩ := h
  by_cases hmatches : expectation.matches (current.map CapabilityCurrent.token) = false
  · rw [if_pos hmatches, pure_eq_ok, Prod.mk.injEq] at h
    obtain ⟨-, rfl⟩ := h
    rfl
  · rw [if_neg hmatches] at h
    unfold write_capability_current_cas persist_capability_generation at h
    simp only [bind_eq_ok, pure_eq_ok, Prod.mk.injEq] at h
    obtain ⟨_, -, _, ⟨-, -, _, -, rfl⟩, _, ⟨-, -, _, -, rfl⟩, -, rfl⟩ := h
    rfl

theorem apply_bundle_cas_bundle_records {record : BundleRecord}
    {expectation : ProjectionExpectation} {freshness : EvidenceFreshness}
    {outcome : CasOutcome EvidenceCurrent}
    (h : apply_bundle_cas codec store record expectation freshness = .ok (outcome, store')) :
    store'.bundle_records = store.bundle_records := by
  rcases apply_bundle_cas_cases h with ⟨-, rfl⟩ | ⟨next, -, -, -, -, -, hswap, -⟩
  · rfl
  · exact hswap.bundle_records

theorem mark_stale_bundle_records {key : EvidenceKey} {expected : CasToken}
    {causes : List StaleCause} {outcome : CasOutcome EvidenceCurrent}
    (h : mark_stale codec store key expected causes = .ok (outcome, store')) :
    store'.bundle_records = store.bundle_records := by
  rcases mark_stale_cases h with ⟨rfl, -⟩ | ⟨_, _, next, -, -, -, -, -, -, hswap⟩
  · rfl
  · exact hswap.bundle_records

theorem perform_distinct {operation : StoreOperation} {answer : StoreAnswer}
    (hdistinct : DistinctBundles store)
    (h : operation.perform codec store = .ok (answer, store')) : DistinctBundles store' := by
  cases operation <;>
    simp only [StoreOperation.perform, bind_eq_ok, pure_eq_ok, Prod.exists, Prod.mk.injEq] at h
  case publish_capability =>
    obtain ⟨_, _, h, -, rfl⟩ := h
    exact distinctBundles_of_eq (publish_capability_tx_bundle_records h) hdistinct
  case seed_capability =>
    obtain ⟨_, _, h, -, rfl⟩ := h
    exact distinctBundles_of_eq (seed_capability_bundle_records h) hdistinct
  case publish_bundle =>
    obtain ⟨_, _, h, -, rfl⟩ := h
    exact publish_bundle_tx_distinct hdistinct h
  case compare_and_swap_capability =>
    obtain ⟨_, _, h, -, rfl⟩ := h
    exact distinctBundles_of_eq (compare_and_swap_capability_bundle_records h) hdistinct
  case compare_and_swap_bundle =>
    obtain ⟨_, _, h, -, rfl⟩ := h
    unfold compare_and_swap_bundle at h
    simp only [bind_eq_ok, ok_or_eq_ok] at h
    obtain ⟨_, -, record, -, h⟩ := h
    exact distinctBundles_of_eq (apply_bundle_cas_bundle_records h) hdistinct
  case publish_bundle_and_cas =>
    obtain ⟨_, _, _, h, -, rfl⟩ := h
    obtain ⟨published, hpublish, hcas⟩ := publish_bundle_and_cas_eq_ok h
    exact distinctBundles_of_eq (apply_bundle_cas_bundle_records hcas)
      (publish_bundle_tx_distinct hdistinct hpublish)
  case mark_stale =>
    obtain ⟨_, _, h, -, rfl⟩ := h
    exact distinctBundles_of_eq (mark_stale_bundle_records h) hdistinct
  case mark_stale_if_fingerprints_changed =>
    obtain ⟨_, _, h, -, rfl⟩ := h
    rcases mark_stale_if_fingerprints_changed_cases h with ⟨rfl, -⟩ | ⟨causes, h⟩
    · exact hdistinct
    · exact distinctBundles_of_eq (mark_stale_bundle_records h) hdistinct
  case rebuild_projections =>
    obtain ⟨_, h, -, rfl⟩ := h
    exact distinctBundles_of_eq (rebuild_projections_eq_ok h).1.bundle_records hdistinct

theorem exec_distinct {operation : StoreOperation} (hdistinct : DistinctBundles store) :
    DistinctBundles (operation.exec codec store).2 := by
  unfold StoreOperation.exec
  cases hperform : operation.perform codec store with
  | error error => exact hdistinct
  | ok result => exact perform_distinct hdistinct hperform

/-! ## Records that stay -/

/-- What loads in the first store loads in the second one. -/
structure RecordsStay (codec : StoreCodec) (store store' : LocalVerificationStore) : Prop where
  capability : ∀ (capability_id : String) (revision : ℕ) (record : CapabilityRecord),
    load_capability codec store capability_id revision = .ok (some record) →
      load_capability codec store' capability_id revision = .ok (some record)
  bundle : ∀ (digest : String) (record : BundleRecord),
    load_bundle_by_digest codec store digest = .ok (some record) →
      load_bundle_by_digest codec store' digest = .ok (some record)

/-- The digest of a record finds it. -/
theorem find_bundle {id : String} {row : BundleRow} (hdistinct : DistinctBundles store)
    (hrow : store.bundle_records[id]? = some row) :
    (store.bundle_records.toList.find? fun entry => entry.2.digest == row.digest)
      = some (id, row) := by
  have hmem : (id, row) ∈ store.bundle_records.toList :=
    Std.ExtTreeMap.mem_toList_iff_getElem?_eq_some.mpr hrow
  cases hfound : store.bundle_records.toList.find? fun entry => entry.2.digest == row.digest with
  | none =>
    have hnone := List.find?_eq_none.mp hfound (id, row) hmem
    exact absurd (beq_self_eq_true row.digest) hnone
  | some entry =>
    obtain ⟨id', row'⟩ := entry
    have hrow' := Std.ExtTreeMap.mem_toList_iff_getElem?_eq_some.mp
      (List.mem_of_find?_eq_some hfound)
    have hdigest : row'.digest = row.digest := by
      have hfound_digest := List.find?_some hfound
      simpa using hfound_digest
    obtain rfl := hdistinct id' id row' row hrow' hrow hdigest
    rw [hrow, Option.some_inj] at hrow'
    rw [hrow']

theorem recordsStay_of_later (h : Later store store') (hdistinct : DistinctBundles store') :
    RecordsStay codec store store' where
  capability := by
    intro capability_id revision record hload
    have hrecord := (load_capability_eq_some hload).1
    unfold load_capability at hload ⊢
    rw [h.capability_records _ _ hrecord]
    rw [hrecord] at hload
    exact hload
  bundle := by
    intro digest record hload
    obtain ⟨hrecord, rfl⟩ := load_bundle_by_digest_eq_some hload
    unfold load_bundle_by_digest at hload ⊢
    rw [bind_eq_ok] at hload ⊢
    obtain ⟨_, hvalid, hload⟩ := hload
    refine ⟨(), hvalid, ?_⟩
    have hfound := find_bundle hdistinct (h.bundle_records _ _ hrecord)
    dsimp only at hfound
    rw [hfound, ← load_bundle_row_eq_some hload]
    exact hload

theorem recordsStay_of_eq (hcapabilities : store'.capability_records = store.capability_records)
    (hbundles : store'.bundle_records = store.bundle_records) : RecordsStay codec store store' where
  capability := by
    intro capability_id revision record hload
    unfold load_capability at hload ⊢
    rw [hcapabilities]
    exact hload
  bundle := by
    intro digest record hload
    unfold load_bundle_by_digest at hload ⊢
    rw [hbundles]
    exact hload

/-! ## Fingerprints -/

/-- More rows and records give the same digests. -/
theorem exact_bundle_capability_fingerprints_mono {capability_ids : List String}
    {currents currents' : String → Option CapabilityCurrent}
    {records records' : CapabilityRevision → Option CapabilityRecord}
    {expected : String × String × String}
    (hcurrents : ∀ id current, currents id = some current → currents' id = some current)
    (hrecords : ∀ key record, records key = some record → records' key = some record)
    (h : exact_bundle_capability_fingerprints codec capability_ids currents records
      = .ok expected) :
    exact_bundle_capability_fingerprints codec capability_ids currents' records'
      = .ok expected := by
  unfold exact_bundle_capability_fingerprints at h ⊢
  rw [bind_eq_ok] at h ⊢
  obtain ⟨selected, hselected, h⟩ := h
  refine ⟨selected, ?_, h⟩
  rw [map_checked_eq_ok] at hselected ⊢
  refine hselected.imp ?_
  intro capability_id entry hentry
  simp only [bind_eq_ok, ok_or_eq_ok] at hentry ⊢
  obtain ⟨current, hcurrent, record, hrecord, hrest⟩ := hentry
  exact ⟨current, hcurrents _ _ hcurrent, record, hrecords _ _ hrecord, hrest⟩

/-! ## Validation of the records of a selection -/

theorem validate_capability_selection_stay {current : CapabilityCurrent}
    (hstay : RecordsStay codec store store')
    (h : validate_capability_selection codec store current = .ok ()) :
    validate_capability_selection codec store' current = .ok () := by
  unfold validate_capability_selection at h ⊢
  simp only [bind_eq_ok, ok_or_eq_ok] at h ⊢
  obtain ⟨_, hstate, _, hload, record, rfl, hdigest⟩ := h
  exact ⟨(), hstate, _, hstay.capability _ _ _ hload, record, rfl, hdigest⟩

theorem validate_bundle_selection_stay {current : EvidenceCurrent}
    (hstay : RecordsStay codec store store')
    (h : validate_bundle_selection codec store current = .ok ()) :
    validate_bundle_selection codec store' current = .ok () := by
  unfold validate_bundle_selection at h ⊢
  simp only [bind_eq_ok, ok_or_eq_ok] at h ⊢
  obtain ⟨_, hstate, _, hload, record, rfl, hbinding⟩ := h
  exact ⟨(), hstate, _, hstay.bundle _ _ hload, record, rfl, hbinding⟩

theorem validate_selected_capability_eq_ok {capability_ids : List String}
    {current : CapabilityCurrent} {row : CapabilityCurrent × CapabilityRecord} :
    validate_selected_capability codec store capability_ids current = .ok row ↔
      validate_capability_selection codec store current = .ok ()
        ∧ row.1 = current
        ∧ load_capability codec store current.capability_id current.revision = .ok (some row.2)
        ∧ closed_under capability_ids row.2.definition.dependencies = true := by
  unfold validate_selected_capability
  simp only [bind_eq_ok, ok_or_eq_ok, pure_eq_ok, reject_if_eq_ok, exists_const,
    Bool.not_eq_false, exists_and_right, exists_unit_eq_ok]
  constructor
  · rintro ⟨hvalid, _, hload, record, rfl, hclosed, rfl⟩
    exact ⟨hvalid, rfl, hload, hclosed⟩
  · rintro ⟨hvalid, hcurrent, hload, hclosed⟩
    exact ⟨hvalid, _, hload, row.2, rfl, hclosed, by rw [← hcurrent]⟩

theorem validate_selected_bundle_eq_ok {currents : BTreeMap String CapabilityCurrent}
    {records : BTreeMap CapabilityRevision CapabilityRecord} {current : EvidenceCurrent} :
    validate_selected_bundle codec store currents records current = .ok () ↔
      validate_bundle_selection codec store current = .ok ()
        ∧ ∃ record expected,
          load_bundle_by_digest codec store current.record_digest = .ok (some record)
          ∧ exact_bundle_capability_fingerprints codec record.bundle.capability_ids
            (currents[·]?) (records[·]?) = .ok expected
          ∧ fingerprints_match record.bundle expected = true := by
  unfold validate_selected_bundle
  simp only [bind_eq_ok, ok_or_eq_ok, reject_if_eq_ok, Bool.not_eq_false, exists_and_right,
    exists_unit_eq_ok]
  constructor
  · rintro ⟨hvalid, _, hload, record, rfl, expected, hexpected, hmatch⟩
    exact ⟨hvalid, record, expected, hload, hexpected, hmatch⟩
  · rintro ⟨hvalid, record, expected, hload, hexpected, hmatch⟩
    exact ⟨hvalid, _, hload, record, rfl, expected, hexpected, hmatch⟩

/-- What a validated selection is known to satisfy. -/
structure SelectionRecords (codec : StoreCodec) (store : LocalVerificationStore)
    (selection : AuthoritativeProjectionSelection)
    (rows : List (CapabilityCurrent × CapabilityRecord)) : Prop where
  valid : selection.validate codec = .ok ()
  capabilities : List.Forall₂ (fun current row =>
    validate_selected_capability codec store
      (selection.capabilities.map CapabilityCurrent.capability_id) current = .ok row)
    selection.capabilities rows
  bundles : ∀ current ∈ selection.bundles,
    validate_selected_bundle codec store (current_map rows) (record_map rows) current = .ok ()

theorem validate_selection_records_eq_ok {selection : AuthoritativeProjectionSelection} :
    validate_selection_records codec store selection = .ok ()
      ↔ ∃ rows, SelectionRecords codec store selection rows := by
  unfold validate_selection_records
  simp only [bind_eq_ok, map_checked_eq_ok, check_all_eq_ok, exists_and_right, exists_unit_eq_ok]
  constructor
  · rintro ⟨hvalid, rows, hcapabilities, hbundles⟩
    exact ⟨rows, hvalid, hcapabilities, hbundles⟩
  · rintro ⟨rows, hvalid, hcapabilities, hbundles⟩
    exact ⟨hvalid, rows, hcapabilities, hbundles⟩

/-- A selected capability is valid, and the dependencies of its record are selected. -/
theorem SelectionRecords.capability {selection : AuthoritativeProjectionSelection}
    {rows : List (CapabilityCurrent × CapabilityRecord)}
    (h : SelectionRecords codec store selection rows) {current : CapabilityCurrent}
    (hmem : current ∈ selection.capabilities) :
    validate_capability_selection codec store current = .ok ()
      ∧ ∃ record, load_capability codec store current.capability_id current.revision
          = .ok (some record)
        ∧ closed_under (selection.capabilities.map CapabilityCurrent.capability_id)
          record.definition.dependencies = true := by
  obtain ⟨row, -, hrow⟩ := exists_right_of_forall₂ h.capabilities hmem
  obtain ⟨hvalid, -, hload, hclosed⟩ := validate_selected_capability_eq_ok.mp hrow
  exact ⟨hvalid, row.2, hload, hclosed⟩

theorem SelectionRecords.stay {selection : AuthoritativeProjectionSelection}
    {rows : List (CapabilityCurrent × CapabilityRecord)}
    (h : SelectionRecords codec store selection rows) (hstay : RecordsStay codec store store') :
    SelectionRecords codec store' selection rows where
  valid := h.valid
  capabilities := by
    refine h.capabilities.imp ?_
    intro current row hrow
    rw [validate_selected_capability_eq_ok] at hrow ⊢
    obtain ⟨hvalid, hcurrent, hload, hclosed⟩ := hrow
    exact ⟨validate_capability_selection_stay hstay hvalid, hcurrent,
      hstay.capability _ _ _ hload, hclosed⟩
  bundles := by
    intro current hmem
    have hbundle := h.bundles current hmem
    rw [validate_selected_bundle_eq_ok] at hbundle ⊢
    obtain ⟨hvalid, record, expected, hload, hrest⟩ := hbundle
    exact ⟨validate_bundle_selection_stay hstay hvalid, record, expected,
      hstay.bundle _ _ hload, hrest⟩

/-- **A valid selection stays valid as records are added.** -/
theorem validate_selection_records_stay {selection : AuthoritativeProjectionSelection}
    (hstay : RecordsStay codec store store')
    (h : validate_selection_records codec store selection = .ok ()) :
    validate_selection_records codec store' selection = .ok () := by
  rw [validate_selection_records_eq_ok] at h ⊢
  obtain ⟨rows, hrows⟩ := h
  exact ⟨rows, hrows.stay hstay⟩

/-! ## The maps of the loop -/

theorem get_current_map {rows : List (CapabilityCurrent × CapabilityRecord)} {id : String}
    {current : CapabilityCurrent} (h : (current_map rows)[id]? = some current) :
    ∃ row ∈ rows, row.1.capability_id = id ∧ row.1 = current :=
  get_foldl_insert (fun row : CapabilityCurrent × CapabilityRecord => row.1.capability_id)
    Prod.fst h

theorem get_record_map {rows : List (CapabilityCurrent × CapabilityRecord)}
    {key : CapabilityRevision} {record : CapabilityRecord}
    (h : (record_map rows)[key]? = some record) :
    ∃ row ∈ rows, (⟨row.1.capability_id, row.1.revision⟩ : CapabilityRevision) = key
      ∧ row.2 = record :=
  get_foldl_insert (fun row : CapabilityCurrent × CapabilityRecord =>
    (⟨row.1.capability_id, row.1.revision⟩ : CapabilityRevision)) Prod.snd h

end LocalVerificationStore

end OvcaCore

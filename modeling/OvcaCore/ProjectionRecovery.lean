/-
Recovery from an archived selection, and the health report after it.

A recovery puts the rows of the selection in the place of all others, each under a
generation above the last one of its key, and leaves no key out that ever had one
(`recover_selection_recovered`). The health report is written apart from it, and recomputes
what the recovery has validated; it finds nothing wrong with the rows of a recovered
selection, as long as the records are not too many to be read (`health_of_recovered`).
-/
import OvcaCore.SelectionRecords

set_option autoImplicit false

namespace OvcaCore

open OvcaCore.Checks OvcaCore.OrderedMaps OvcaCore.Slots LocalVerificationStore

/-! ## Recovery -/

namespace Projection

variable {κ ρ α : Type} [Ord κ] [Std.TransOrd κ]

/-- The rows are exactly the selected ones, each under a fresh generation, and no key of an
allocator is left out. -/
structure Recovered (token : ρ → CasToken) (key : α → κ) (row : α → ρ) (selected : List α)
    (projection projection' : Projection κ ρ) : Prop where
  exact : ∀ (k : κ) (r : ρ), projection'.current[k]? = some r ↔
    ∃ current ∈ selected, key current = k ∧ row current = r
  generations : ∀ current ∈ selected,
    projection'.generations[key current]? = some (token (row current))
  raised : ∀ current ∈ selected, ∀ last : DurableGenerationBinding,
    projection.generations[key current]? = some last →
      last.generation < (token (row current)).generation
  complete : ∀ k : κ, projection.generations[k]? ≠ none → projection'.current[k]? ≠ none

theorem require_fresh_generation_eq_ok {projection : Projection κ ρ} {key : κ} {token : CasToken}
    (h : require_fresh_generation projection key token = .ok ()) :
    ∀ last : DurableGenerationBinding, projection.generations[key]? = some last →
      last.generation < token.generation := by
  intro last hlast
  unfold require_fresh_generation at h
  rw [bind_eq_ok] at h
  obtain ⟨durable, hdurable, h⟩ := h
  obtain rfl := load_generation_eq_ok hdurable
  rw [hlast] at h
  dsimp only at h
  rw [reject_if_eq_ok] at h
  omega

theorem recovered_of_selects [Std.LawfulEqOrd κ] {token : ρ → CasToken} {key : α → κ}
    {row : α → ρ} {selected : List α} {projection projection' : Projection κ ρ}
    (hselects : ∀ current ∈ selected, Selects token CasToken.generation (row current)
      (projection.slot (key current)) (projection'.slot (key current)))
    (hothers : ∀ k, k ∉ selected.map key →
      projection'.slot k = ⟨none, projection.generations[k]?⟩)
    (hfresh : ∀ current ∈ selected,
      require_fresh_generation projection (key current) (token (row current)) = .ok ())
    (hcomplete : ∀ k ∈ projection.generations.keys, k ∈ selected.map key) :
    Recovered token key row selected projection projection' where
  exact := by
    intro k r
    constructor
    · intro hrow
      by_cases hk : k ∈ selected.map key
      · obtain ⟨current, hmem, rfl⟩ := List.mem_map.mp hk
        have hcurrent := congrArg Slot.current (hselects current hmem).1
        exact ⟨current, hmem, rfl, Option.some.inj (hcurrent.symm.trans hrow)⟩
      · have hnone := congrArg Slot.current (hothers k hk)
        exact absurd (hrow.symm.trans hnone) (by simp)
    · rintro ⟨current, hmem, rfl, rfl⟩
      exact congrArg Slot.current (hselects current hmem).1
  generations := fun current hmem => congrArg Slot.allocator (hselects current hmem).1
  raised := fun current hmem => require_fresh_generation_eq_ok (hfresh current hmem)
  complete := by
    intro k hk
    obtain ⟨last, hlast⟩ := Option.ne_none_iff_exists'.mp hk
    obtain ⟨current, hmem, rfl⟩ := List.mem_map.mp
      (hcomplete k (mem_keys_iff.mpr ⟨last, hlast⟩))
    have hcurrent : projection'.current[key current]? = some (row current) :=
      congrArg Slot.current (hselects current hmem).1
    rw [hcurrent]
    exact nofun

end Projection

/-- What a recovery does to the store. -/
structure Recovered (store store' : LocalVerificationStore)
    (selection : AuthoritativeProjectionSelection) : Prop where
  capability_records : store'.capability_records = store.capability_records
  bundle_records : store'.bundle_records = store.bundle_records
  capabilities : Projection.Recovered CapabilityCurrentRow.token CapabilityCurrent.capability_id
    CapabilityCurrent.row selection.capabilities store.capabilities store'.capabilities
  bundles : Projection.Recovered BundleCurrentRow.token EvidenceCurrent.key EvidenceCurrent.row
    selection.bundles store.bundles store'.bundles

section Recovery

variable {codec : StoreCodec} {store store' : LocalVerificationStore}
  {selection : AuthoritativeProjectionSelection}

theorem recover_selection_eq_ok
    (h : recover_selection codec store selection = .ok store') :
    validate_selection_records codec store selection = .ok ()
      ∧ (selection.intent = .Genesis ∧ store' = store
        ∨ selection.intent = .Replace
          ∧ require_complete_allocator_selection store selection = .ok ()
          ∧ (∀ current ∈ selection.capabilities, require_fresh_generation store.capabilities
            current.capability_id current.token = .ok ())
          ∧ (∀ current ∈ selection.bundles, require_fresh_generation store.bundles
            current.key current.token = .ok ())
          ∧ write_selection codec store selection = .ok store') := by
  unfold recover_selection at h
  simp only [bind_eq_ok, exists_and_right, exists_unit_eq_ok] at h
  obtain ⟨hvalid, h⟩ := h
  refine ⟨hvalid, ?_⟩
  cases hintent : selection.intent with
  | Genesis =>
    rw [hintent] at h
    simp only [bind_eq_ok, pure_eq_ok] at h
    obtain ⟨-, -, rfl⟩ := h
    exact Or.inl ⟨rfl, rfl⟩
  | Reset =>
    rw [hintent] at h
    exact absurd h throw_ne_ok
  | Replace =>
    rw [hintent] at h
    simp only [bind_eq_ok, check_all_eq_ok, exists_and_right, exists_unit_eq_ok, exists_const] at h
    exact Or.inr ⟨rfl, h⟩

theorem require_complete_allocator_selection_eq_ok
    (h : require_complete_allocator_selection store selection = .ok ()) :
    (∀ capability_id ∈ store.capabilities.generations.keys,
        capability_id ∈ selection.capabilities.map CapabilityCurrent.capability_id)
      ∧ ∀ key ∈ store.bundles.generations.keys,
        key ∈ selection.bundles.map EvidenceCurrent.key := by
  unfold require_complete_allocator_selection at h
  simp only [bind_eq_ok, check_all_eq_ok, reject_if_eq_ok, exists_const, not_not] at h
  obtain ⟨-, hcapabilities, hbundles⟩ := h
  exact ⟨fun id hid => hcapabilities id (List.mem_append_left _ hid),
    fun key hkey => hbundles key (List.mem_append_left _ hkey)⟩

/-- **A recovery is exact.** -/
theorem recover_selection_recovered (hintent : selection.intent = .Replace)
    (h : recover_selection codec store selection = .ok store') :
    Recovered store store' selection := by
  obtain ⟨hrecords, ⟨hgenesis, -⟩ | ⟨-, hcomplete, hcapabilities, hbundles, hwrite⟩⟩ :=
    recover_selection_eq_ok h
  · rw [hintent] at hgenesis
    exact nomatch hgenesis
  obtain ⟨rows, hrows⟩ := validate_selection_records_eq_ok.mp hrecords
  obtain ⟨hids, hkeys⟩ := validate_selection_keys hrows.valid
  have hselected := write_selection_selected hids hkeys hwrite
  obtain ⟨hcomplete_ids, hcomplete_keys⟩ := require_complete_allocator_selection_eq_ok hcomplete
  exact ⟨hselected.capability_records, hselected.bundle_records,
    Projection.recovered_of_selects hselected.capabilities hselected.other_capabilities
      hcapabilities hcomplete_ids,
    Projection.recovered_of_selects hselected.bundles hselected.other_bundles
      hbundles hcomplete_keys⟩

/-- A recovery is a step of the store like a rebuild. -/
theorem recover_selection_moves (h : recover_selection codec store selection = .ok store') :
    Moves codec store store' := by
  obtain ⟨hrecords, ⟨-, rfl⟩ | ⟨-, -, -, -, hwrite⟩⟩ := recover_selection_eq_ok h
  · exact (Swaps.refl store').moves
  obtain ⟨rows, hrows⟩ := validate_selection_records_eq_ok.mp hrecords
  obtain ⟨hids, hkeys⟩ := validate_selection_keys hrows.valid
  refine (write_selection_selected hids hkeys hwrite).moves ?_ ?_
  · intro current hmem
    exact validate_capability_selection_bound (hrows.capability hmem).1
  · intro current hmem
    exact validate_bundle_selection_bound
      (validate_selected_bundle_eq_ok.mp (hrows.bundles current hmem)).1

theorem recover_selection_bundle_records
    (h : recover_selection codec store selection = .ok store') :
    store'.bundle_records = store.bundle_records := by
  obtain ⟨hrecords, ⟨-, rfl⟩ | ⟨hintent, -⟩⟩ := recover_selection_eq_ok h
  · rfl
  · exact (recover_selection_recovered hintent h).bundle_records

end Recovery

/-! ## Health -/

section Health

variable {codec : StoreCodec} {store : LocalVerificationStore}

theorem validate_allocator_of_generation {κ ρ : Type} [Ord κ] [Std.TransOrd κ]
    {projection : Projection κ ρ} {key : κ} {token : CasToken}
    (hgeneration : projection.generations[key]? = some token)
    (hdigest : validate_digest token.state_digest = .ok ()) :
    projection.validate_allocator_at_least key token = .ok () := by
  unfold Projection.validate_allocator_at_least Projection.load_generation
  simp only [bind_eq_ok, hgeneration, hdigest, exists_const, pure_eq_ok, reject_if_eq_ok,
    true_and, exists_eq_left', ne_eq, not_true_eq_false, not_false_eq_true]

/-- A selected capability whose row is there is read back. -/
theorem health_capability_current_of {current : CapabilityCurrent}
    (hvalid : validate_capability_selection codec store current = .ok ())
    (hrow : store.capabilities.current[current.capability_id]? = some current.row)
    (hgeneration : store.capabilities.generations[current.capability_id]? = some current.token) :
    health_capability_current codec store current.capability_id = some current := by
  have hstate : validate_capability_state codec current = .ok () := by
    unfold validate_capability_selection at hvalid
    rw [bind_eq_ok] at hvalid
    obtain ⟨_, hstate, -⟩ := hvalid
    exact hstate
  have hdigest : validate_digest current.token.state_digest = .ok () := by
    unfold validate_capability_state at hstate
    simp only [bind_eq_ok, exists_and_right, exists_unit_eq_ok] at hstate
    exact hstate.2.2.1
  have hallocator := validate_allocator_of_generation hgeneration hdigest
  have hload : load_capability_current codec store current.capability_id = .ok (some current) := by
    unfold load_capability_current
    rw [hrow]
    change (do
      validate_capability_state codec current
      validate_capability_selection codec store current
      store.capabilities.validate_allocator_at_least current.capability_id current.token
      return some current) = _
    rw [hstate, hvalid, hallocator]
    rfl
  unfold health_capability_current
  rw [hload]
  dsimp only
  rw [hvalid, hallocator]
  rfl

theorem health_bundle_current_of {current : EvidenceCurrent}
    (hvalid : validate_bundle_selection codec store current = .ok ())
    (hrow : store.bundles.current[current.key]? = some current.row)
    (hgeneration : store.bundles.generations[current.key]? = some current.token) :
    health_bundle_current codec store current.key = some current := by
  have hstate : validate_evidence_state codec current = .ok () := by
    unfold validate_bundle_selection at hvalid
    rw [bind_eq_ok] at hvalid
    obtain ⟨_, hstate, -⟩ := hvalid
    exact hstate
  have hdigest : validate_digest current.token.state_digest = .ok () := by
    unfold validate_evidence_state at hstate
    simp only [bind_eq_ok, exists_and_right, exists_unit_eq_ok] at hstate
    exact hstate.2.2.2.1
  have hallocator := validate_allocator_of_generation hgeneration hdigest
  have hload : load_bundle_current codec store current.key = .ok (some current) := by
    unfold load_bundle_current
    rw [hrow]
    change (do
      validate_evidence_state codec current
      validate_bundle_selection codec store current
      store.bundles.validate_allocator_at_least current.key current.token
      return some current) = _
    rw [hstate, hvalid, hallocator]
    rfl
  unfold health_bundle_current
  rw [hload]
  dsimp only
  rw [hvalid, hallocator]
  rfl

/-- A row that is read is under its id. -/
theorem health_capability_current_id {capability_id : String} {current : CapabilityCurrent}
    (h : health_capability_current codec store capability_id = some current) :
    current.capability_id = capability_id := by
  unfold health_capability_current at h
  cases hload : load_capability_current codec store capability_id with
  | error error =>
    rw [hload] at h
    exact nomatch h
  | ok loaded =>
    rw [hload] at h
    cases loaded with
    | none => exact nomatch h
    | some loaded =>
      dsimp only at h
      obtain ⟨-, hsame⟩ := Option.ite_none_right_eq_some.mp h
      have hrow := load_capability_current_eq_ok hload
      obtain ⟨row, -, hat⟩ := Option.map_eq_some_iff.mp hrow.symm
      rw [← Option.some.inj hsame, ← hat]
      rfl

/-- The rows of a selection are in the store under their generations, and no others. -/
structure SelectedRows (store : LocalVerificationStore)
    (selection : AuthoritativeProjectionSelection) : Prop where
  capabilities : ∀ (capability_id : String) (row : CapabilityCurrentRow),
    store.capabilities.current[capability_id]? = some row ↔
      ∃ current ∈ selection.capabilities, current.capability_id = capability_id
        ∧ current.row = row
  capability_generations : ∀ current ∈ selection.capabilities,
    store.capabilities.generations[current.capability_id]? = some current.token
  bundles : ∀ (key : EvidenceKey) (row : BundleCurrentRow),
    store.bundles.current[key]? = some row ↔
      ∃ current ∈ selection.bundles, current.key = key ∧ current.row = row
  bundle_generations : ∀ current ∈ selection.bundles,
    store.bundles.generations[current.key]? = some current.token

theorem Recovered.selectedRows {before : LocalVerificationStore}
    {selection : AuthoritativeProjectionSelection} (h : Recovered before store selection) :
    SelectedRows store selection :=
  ⟨h.capabilities.exact, h.capabilities.generations, h.bundles.exact, h.bundles.generations⟩

section Selected

variable {selection : AuthoritativeProjectionSelection}
  {rows : List (CapabilityCurrent × CapabilityRecord)}
  (hrecords : SelectionRecords codec store selection rows) (hrows : SelectedRows store selection)

include hrecords hrows

theorem health_selected_capability {current : CapabilityCurrent}
    (hmem : current ∈ selection.capabilities) :
    health_capability_current codec store current.capability_id = some current :=
  health_capability_current_of (hrecords.capability hmem).1
    ((hrows.capabilities _ _).mpr ⟨current, hmem, rfl, rfl⟩)
    (hrows.capability_generations current hmem)

theorem health_selected_bundle {current : EvidenceCurrent} (hmem : current ∈ selection.bundles) :
    health_bundle_current codec store current.key = some current :=
  health_bundle_current_of (validate_selected_bundle_eq_ok.mp (hrecords.bundles current hmem)).1
    ((hrows.bundles _ _).mpr ⟨current, hmem, rfl, rfl⟩) (hrows.bundle_generations current hmem)

theorem mem_health_current_capabilities {current : CapabilityCurrent} :
    current ∈ health_current_capabilities codec store ↔ current ∈ selection.capabilities := by
  unfold health_current_capabilities
  rw [List.mem_filterMap]
  constructor
  · rintro ⟨capability_id, hkey, hcurrent⟩
    obtain ⟨row, hrow⟩ := mem_keys_iff.mp hkey
    obtain ⟨selected, hmem, rfl, -⟩ := (hrows.capabilities _ _).mp hrow
    rw [health_selected_capability hrecords hrows hmem, Option.some_inj] at hcurrent
    rw [← hcurrent]
    exact hmem
  · intro hmem
    exact ⟨current.capability_id,
      mem_keys_iff.mpr ⟨_, (hrows.capabilities _ _).mpr ⟨current, hmem, rfl, rfl⟩⟩,
      health_selected_capability hrecords hrows hmem⟩

theorem health_capability_issues_nil : health_capability_issues codec store = [] := by
  unfold health_capability_issues
  rw [List.flatMap_eq_nil_iff]
  intro capability_id hkey
  obtain ⟨row, hrow⟩ := mem_keys_iff.mp hkey
  obtain ⟨selected, hmem, rfl, -⟩ := (hrows.capabilities _ _).mp hrow
  rw [health_selected_capability hrecords hrows hmem]

/-- The map of the current capabilities that the report makes. -/
theorem get_health_currents {capability_id : String} {current : CapabilityCurrent} :
    (Std.ExtTreeMap.ofList ((health_current_capabilities codec store).map fun current =>
      (current.capability_id, current)) compare)[capability_id]? = some current ↔
      current ∈ selection.capabilities ∧ current.capability_id = capability_id := by
  have hkeys : (((health_current_capabilities codec store).map fun current =>
      (current.capability_id, current)).map Prod.fst).Nodup := by
    rw [List.map_map]
    exact filterMap_keys_nodup (fun _ _ => health_capability_current_id)
      Std.ExtTreeMap.nodup_keys
  rw [get_ofList_eq_some hkeys, List.mem_map]
  constructor
  · rintro ⟨found, hmem, heq⟩
    rw [Prod.mk.injEq] at heq
    obtain ⟨rfl, rfl⟩ := heq
    exact ⟨(mem_health_current_capabilities hrecords hrows).mp hmem, rfl⟩
  · rintro ⟨hmem, rfl⟩
    exact ⟨current, (mem_health_current_capabilities hrecords hrows).mpr hmem, rfl⟩

omit hrecords hrows in
/-- The map of the records that the report makes. -/
theorem get_health_records {capability_id : String} {revision : ℕ} {record : CapabilityRecord}
    (h : load_capability codec store capability_id revision = .ok (some record)) :
    (Std.ExtTreeMap.ofList (health_capability_records codec store false) compare)[
      (⟨capability_id, revision⟩ : CapabilityRevision)]? = some record := by
  have hkeys : ((health_capability_records codec store false).map Prod.fst).Nodup := by
    refine filterMap_keys_nodup ?_ Std.ExtTreeMap.nodup_keys
    intro key entry hentry
    cases hload : load_capability codec store key.capability_id key.revision with
    | error error =>
      rw [hload] at hentry
      exact nomatch hentry
    | ok loaded =>
      rw [hload] at hentry
      cases loaded with
      | none => exact nomatch hentry
      | some loaded => rw [← Option.some.inj hentry]
  rw [get_ofList_eq_some hkeys]
  refine List.mem_filterMap.mpr ⟨⟨capability_id, revision⟩, ?_, ?_⟩
  · exact mem_keys_iff.mpr ⟨record, (load_capability_eq_some h).1⟩
  · dsimp only
    rw [h]

/-- The dependencies of every current capability are current. -/
theorem health_dependency_issues_nil {currents : BTreeMap String CapabilityCurrent}
    {records : BTreeMap CapabilityRevision CapabilityRecord}
    (hcurrents : ∀ capability_id current, currents[capability_id]? = some current ↔
      current ∈ selection.capabilities ∧ current.capability_id = capability_id)
    (hloaded : ∀ capability_id revision record,
      load_capability codec store capability_id revision = .ok (some record) →
        records[(⟨capability_id, revision⟩ : CapabilityRevision)]? = some record) :
    (health_current_capabilities codec store).flatMap (health_dependency_issues currents records)
      = [] := by
  rw [List.flatMap_eq_nil_iff]
  intro current hcurrent
  have hmem := (mem_health_current_capabilities hrecords hrows).mp hcurrent
  obtain ⟨-, record, hload, hclosed⟩ := hrecords.capability hmem
  unfold health_dependency_issues
  rw [hloaded _ _ _ hload]
  dsimp only
  rw [if_pos]
  rw [List.all_eq_true]
  intro dependency hdependency
  unfold closed_under at hclosed
  have hselected := List.all_eq_true.mp hclosed dependency hdependency
  rw [List.contains_iff_mem] at hselected
  obtain ⟨selected, hselected_mem, hid⟩ := List.mem_map.mp hselected
  rw [(hcurrents dependency selected).mpr ⟨hselected_mem, hid⟩]
  rfl

/-- The digests of every current bundle are recomputed as they are. -/
theorem health_bundle_issues_nil {currents : BTreeMap String CapabilityCurrent}
    {records : BTreeMap CapabilityRevision CapabilityRecord}
    (hcurrents : ∀ capability_id current, currents[capability_id]? = some current ↔
      current ∈ selection.capabilities ∧ current.capability_id = capability_id)
    (hloaded : ∀ capability_id revision record,
      load_capability codec store capability_id revision = .ok (some record) →
        records[(⟨capability_id, revision⟩ : CapabilityRevision)]? = some record) :
    map_checked (health_bundle_issues codec store currents records) store.bundles.current.keys
      = .ok (store.bundles.current.keys.map fun _ => ([], [])) := by
  rw [map_checked_eq_ok, List.forall₂_map_right_iff, List.forall₂_same]
  intro key hkey
  obtain ⟨row, hrow⟩ := mem_keys_iff.mp hkey
  obtain ⟨current, hmem, rfl, -⟩ := (hrows.bundles _ _).mp hrow
  obtain ⟨-, record, expected, hload, hexpected, hmatch⟩ :=
    validate_selected_bundle_eq_ok.mp (hrecords.bundles current hmem)
  -- the report has the rows and records that the validation had
  have hsame : exact_bundle_capability_fingerprints codec record.bundle.capability_ids
      (currents[·]?) (records[·]?) = .ok expected := by
    refine exact_bundle_capability_fingerprints_mono ?_ ?_ hexpected
    · intro capability_id selected hselected
      obtain ⟨entry, hentry, hid, hentry_current⟩ := get_current_map hselected
      obtain ⟨origin, horigin, hvalid⟩ := exists_left_of_forall₂ hrecords.capabilities hentry
      obtain ⟨-, hentry_origin, -⟩ := validate_selected_capability_eq_ok.mp hvalid
      rw [hcurrents, ← hentry_current, hentry_origin]
      rw [hentry_origin] at hid
      exact ⟨horigin, hid⟩
    · intro revision selected hselected
      obtain ⟨entry, hentry, hrevision, hentry_record⟩ := get_record_map hselected
      obtain ⟨origin, -, hvalid⟩ := exists_left_of_forall₂ hrecords.capabilities hentry
      obtain ⟨-, hentry_origin, hentry_load, -⟩ := validate_selected_capability_eq_ok.mp hvalid
      rw [← hrevision, ← hentry_record, hentry_origin]
      exact hloaded _ _ _ hentry_load
  unfold health_bundle_issues
  rw [health_selected_bundle hrecords hrows hmem]
  dsimp only
  rw [hload, ok_bind]
  unfold ok_or
  dsimp only
  rw [ok_bind, hsame]
  dsimp only
  rw [if_pos hmatch]
  rfl

omit hrecords in
theorem current_size_le : store.capabilities.current.size + store.bundles.current.size
    ≤ selection.capabilities.length + selection.bundles.length := by
  have hcapabilities : store.capabilities.current.size
      ≤ (selection.capabilities.map CapabilityCurrent.capability_id).length := by
    refine size_le_of_keys ?_
    intro capability_id row hrow
    obtain ⟨current, hmem, rfl, -⟩ := (hrows.capabilities _ _).mp hrow
    exact List.mem_map_of_mem hmem
  have hbundles : store.bundles.current.size
      ≤ (selection.bundles.map EvidenceCurrent.key).length := by
    refine size_le_of_keys ?_
    intro key row hrow
    obtain ⟨current, hmem, rfl, -⟩ := (hrows.bundles _ _).mp hrow
    exact List.mem_map_of_mem hmem
  rw [List.length_map] at hcapabilities hbundles
  omega

/-- **The report finds nothing wrong with the rows of a selection.** -/
theorem health_of_selected
    (hbounds : selection.capabilities.length + selection.bundles.length ≤ OPERATOR_MAX_ROWS)
    (hcount : store.capability_records.size + store.bundle_records.size ≤ OPERATOR_MAX_ROWS) :
    ∃ report, local_verification_health codec store = .ok report
      ∧ report.current_projection_integrity.state = .Healthy
      ∧ report.capability_dependency_health.state = .Healthy
      ∧ report.evidence_binding_health.state = .Healthy := by
  have hsize := current_size_le hrows
  have hrecord_overflow : decide (OPERATOR_MAX_ROWS
      < store.capability_records.size + store.bundle_records.size) = false := by
    rw [decide_eq_false_iff_not]
    omega
  have hcurrent_overflow : decide (OPERATOR_MAX_ROWS
      < store.capabilities.current.size + store.bundles.current.size) = false := by
    rw [decide_eq_false_iff_not]
    omega
  unfold local_verification_health
  simp only [hrecord_overflow, hcurrent_overflow, Bool.false_eq_true, if_false]
  have hcurrents := @get_health_currents codec store selection rows hrecords hrows
  have hloaded := @get_health_records codec store
  rw [health_bundle_issues_nil hrecords hrows (fun _ _ => hcurrents) (fun _ _ _ => hloaded),
    ok_bind]
  refine ⟨_, rfl, ?_, ?_, ?_⟩
  · rw [health_capability_issues_nil hrecords hrows]
    simp [health_section]
  · rw [health_dependency_issues_nil hrecords hrows (fun _ _ => hcurrents)
      (fun _ _ _ => hloaded)]
    simp [health_section]
  · simp [health_section]

end Selected

end Health

end OvcaCore

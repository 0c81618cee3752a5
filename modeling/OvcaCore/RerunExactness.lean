/-
The selection of a targeted rerun is exact.

The dependencies of a registry are a relation between the ids of its capabilities. The selection
is blocked for an absent dependency, then for a cycle of the relation; otherwise an affected path
that no selector matches decides, with the policy, whether the selection is blocked or full, and
without one the selection has the capabilities that a change reaches: those with a matching
selector, their dependents, and the dependencies of all of these.
-/
import OvcaCore.RerunSelection

set_option autoImplicit false

namespace OvcaCore

open OvcaCore.Checks OvcaCore.Graphs OvcaCore.GraphSearch OvcaCore.OrderedMaps Relation

/-! ## What is selected -/

/-- A selector covers a path: the path is that of the selector, or stands below it. -/
def ChangedPathSelector.Covers (selector : ChangedPathSelector) (path : String) : Prop :=
  path = selector.path
    ∨ selector.kind = .Prefix ∧ ∃ rest : String, path = selector.path ++ "/" ++ rest

def CapabilityRegistryRow.Recognizes (row : CapabilityRegistryRow) (path : String) : Prop :=
  ∃ selector ∈ row.definition.changed_path_selectors, selector.Covers path

namespace Registry

def Contains (rows : List CapabilityRegistryRow) (id : String) : Prop :=
  ∃ row ∈ rows, row.capability_id = id

/-- The second capability is a dependency of the first. -/
def DependsOn (rows : List CapabilityRegistryRow) (id dependency : String) : Prop :=
  ∃ row ∈ rows, row.capability_id = id ∧ dependency ∈ row.definition.dependencies

/-- No capability names an absent dependency. -/
def Complete (rows : List CapabilityRegistryRow) : Prop :=
  ∀ row ∈ rows, ∀ dependency ∈ row.definition.dependencies, Contains rows dependency

/-- No selector of any capability covers the path. -/
def Unknown (rows : List CapabilityRegistryRow) (path : String) : Prop :=
  ∀ row ∈ rows, ¬ row.Recognizes path

/-- A capability with a selector for one of the paths. -/
def Direct (rows : List CapabilityRegistryRow) (paths : List String) (id : String) : Prop :=
  ∃ row ∈ rows, row.capability_id = id ∧ ∃ path ∈ paths, row.Recognizes path

/-- A capability that a change of the paths reaches: a transitive dependency of a transitive
dependent of a direct one. -/
def Reached (rows : List CapabilityRegistryRow) (paths : List String) (id : String) : Prop :=
  ∃ impacted direct, Direct rows paths direct
    ∧ ReflTransGen (DependsOn rows) impacted direct ∧ ReflTransGen (DependsOn rows) impacted id

end Registry

open Registry

/-! ## Valid registries -/

/-- What the validation of a registry leaves of its rows. -/
structure ValidRows (rows : List CapabilityRegistryRow) : Prop where
  ascending : (rows.map CapabilityRegistryRow.capability_id).Pairwise (· < ·)
  stable_id : ∀ row ∈ rows, LocalVerification.validate_stable_id row.capability_id = true
  revision : ∀ row ∈ rows, row.definition.revision ≠ 0
  record_digest : ∀ row ∈ rows, validate_sha256_digest row.record_digest = true

section

variable {json : RegistryJson} {rows : List CapabilityRegistryRow} {id : String}
  {request : TargetedRerunRequest} {snapshot : CapabilityRegistrySnapshot}

theorem ChangedPathManifest.valid_path {manifest : ChangedPathManifest}
    (h : manifest.validate = true) {path : String} (hpath : path ∈ manifest.logical_paths) :
    LocalVerification.validate_logical_path path = true := by
  unfold ChangedPathManifest.validate at h
  rw [Bool.and_eq_true, Bool.and_eq_true, List.all_eq_true] at h
  obtain ⟨entry, hentry, hpath⟩ := List.mem_flatMap.mp hpath
  have hvalid := h.1.1 entry hentry
  unfold ChangedPathEntry.validate at hvalid
  rw [Bool.and_eq_true] at hvalid
  rcases List.mem_cons.mp hpath with rfl | hpath
  · exact hvalid.1
  · rw [Option.mem_toList] at hpath
    -- only a rename has a previous path, and it is checked
    rw [hpath] at hvalid
    cases hkind : entry.kind with
    | Renamed =>
      rw [hkind] at hvalid
      exact (Bool.and_eq_true _ _ ▸ hvalid.2).1
    | _ =>
      rw [hkind] at hvalid
      exact absurd hvalid.2 Bool.false_ne_true

theorem validate_rows_cons {prior_id : Option String} {row : CapabilityRegistryRow} :
    validate_rows json prior_id (row :: rows) = .ok () ↔ row.validate json prior_id = .ok ()
      ∧ validate_rows json (some row.capability_id) rows = .ok () := by
  simp only [validate_rows, bind_eq_ok, exists_and_right, exists_unit_eq_ok]

theorem validate_rows_ok {prior_id : Option String}
    (h : validate_rows json prior_id rows = .ok ()) :
    ValidRows rows ∧ ∀ prior ∈ prior_id, ∀ row ∈ rows, prior < row.capability_id := by
  induction rows generalizing prior_id with
  | nil =>
    exact ⟨⟨.nil, nofun, nofun, nofun⟩, fun _ _ _ hmem => absurd hmem List.not_mem_nil⟩
  | cons row rows ih =>
    obtain ⟨hrow, hrows⟩ := validate_rows_cons.mp h
    obtain ⟨hvalid, hlater⟩ := ih hrows
    unfold CapabilityRegistryRow.validate at hrow
    simp only [bind_eq_ok, reject_if_eq_ok, exists_const, not_not] at hrow
    obtain ⟨hdefinition, hprior, hdigest, -⟩ := hrow
    unfold CapabilityDefinition.validate CapabilityDefinition.validate_non_command_fields
      at hdefinition
    simp only [Bool.and_eq_true, bne_iff_ne] at hdefinition
    -- of the checks of a definition, its id and its revision are used here
    obtain ⟨⟨⟨⟨⟨⟨⟨⟨⟨-, hid⟩, hrevision⟩, -⟩, -⟩, -⟩, -⟩, -⟩, -⟩, -⟩ := hdefinition
    refine ⟨⟨?_, ?_, ?_, ?_⟩, ?_⟩
    · rw [List.map_cons, List.pairwise_cons]
      refine ⟨fun id hid => ?_, hvalid.ascending⟩
      obtain ⟨later, hmem, rfl⟩ := List.mem_map.mp hid
      exact hlater row.capability_id rfl later hmem
    · exact List.forall_mem_cons.mpr ⟨hid, hvalid.stable_id⟩
    · exact List.forall_mem_cons.mpr ⟨hrevision, hvalid.revision⟩
    · exact List.forall_mem_cons.mpr ⟨hdigest, hvalid.record_digest⟩
    · intro prior hmem
      rw [Option.any_eq_true] at hprior
      -- each id is above the one before it, so the ids ascend
      have hlt : prior < row.capability_id := by
        apply lt_of_not_ge
        exact fun hle => hprior ⟨prior, hmem, decide_eq_true hle⟩
      refine List.forall_mem_cons.mpr ⟨hlt, fun later hlater' => ?_⟩
      exact hlt.trans (hlater row.capability_id rfl later hlater')

theorem CapabilityRegistrySnapshot.valid_rows (h : snapshot.validate json = .ok ()) :
    ValidRows snapshot.capabilities
      ∧ validate_sha256_digest snapshot.registry_snapshot_digest = true := by
  unfold CapabilityRegistrySnapshot.validate at h
  simp only [bind_eq_ok, reject_if_eq_ok, exists_const, exists_and_right, exists_unit_eq_ok,
    not_not] at h
  exact ⟨(validate_rows_ok h.1).1, h.2.1⟩

theorem get_by_id (hrows : ValidRows rows) {row : CapabilityRegistryRow} :
    (by_id rows)[id]? = some row ↔ row ∈ rows ∧ row.capability_id = id := by
  have hnodup : ((rows.map fun row => (row.capability_id, row)).map Prod.fst).Nodup := by
    rw [List.map_map]
    exact hrows.ascending.imp fun hlt => ne_of_lt hlt
  unfold by_id
  rw [get_ofList_eq_some hnodup, List.mem_map]
  constructor
  · rintro ⟨found, hmem, heq⟩
    obtain ⟨rfl, rfl⟩ := Prod.mk.inj heq
    exact ⟨hmem, rfl⟩
  · rintro ⟨hmem, rfl⟩
    exact ⟨row, hmem, rfl⟩

theorem mem_by_id_keys (hrows : ValidRows rows) : id ∈ (by_id rows).keys ↔ Contains rows id := by
  rw [mem_keys_iff]
  simp only [get_by_id hrows]
  rfl

theorem dependencies_eq_some (hrows : ValidRows rows) {found : List String} :
    dependencies rows id = some found
      ↔ ∃ row ∈ rows, row.capability_id = id ∧ row.definition.dependencies = found := by
  unfold dependencies
  rw [Option.map_eq_some_iff]
  simp only [get_by_id hrows, and_assoc]

theorem known_iff (hrows : ValidRows rows) {dependency : String} :
    Known (dependencies rows) id dependency ↔ DependsOn rows id dependency := by
  unfold Known
  simp only [dependencies_eq_some hrows]
  constructor
  · rintro ⟨_, ⟨row, hrow, hid, rfl⟩, hmem⟩
    exact ⟨row, hrow, hid, hmem⟩
  · rintro ⟨row, hrow, hid, hmem⟩
    exact ⟨_, ⟨row, hrow, hid, rfl⟩, hmem⟩

theorem step_iff (hrows : ValidRows rows) {dependency : String} :
    Step (dependencies_or_default rows) id dependency ↔ DependsOn rows id dependency := by
  rw [← known_iff hrows]
  unfold Step dependencies_or_default Known
  cases dependencies rows id with
  | none => simp
  | some found => simp

/-! ## The dependency graph -/

theorem mem_ids_iff : id ∈ Std.ExtTreeSet.ofList
    (rows.map CapabilityRegistryRow.capability_id) compare ↔ Contains rows id := by
  rw [mem_set_ofList, List.mem_map]
  rfl

theorem any_missing_iff : (rows.any fun row => row.definition.dependencies.any fun dependency =>
    !(Std.ExtTreeSet.ofList (rows.map CapabilityRegistryRow.capability_id) compare).contains
      dependency) = true ↔ ¬ Complete rows := by
  unfold Complete
  push Not
  simp only [List.any_eq_true, Bool.not_eq_true', ← Bool.not_eq_true,
    Std.ExtTreeSet.contains_iff_mem, mem_ids_iff]

/-- The visits of the nodes of a complete graph end, and find a cycle if there is one. -/
theorem visit_each_finds (hrows : ValidRows rows) (hcomplete : Complete rows) :
    ∃ found marks, visit_each (visit_dependency rows (rows.length + 1))
      (Std.ExtTreeSet.ofList (rows.map CapabilityRegistryRow.capability_id) compare).toList
      (fun _ => .unvisited) = some (found, marks)
      ∧ (found = true ↔ ¬ Acyclic (DependsOn rows)) := by
  have hnodes : ∀ id, id ∈ (Std.ExtTreeSet.ofList
      (rows.map CapabilityRegistryRow.capability_id) compare).toList ↔ Contains rows id :=
    fun id => Std.ExtTreeSet.mem_toList.trans mem_ids_iff
  -- the depth of the search is bounded by the number of ids, and a round is left
  have hlength : (Std.ExtTreeSet.ofList
      (rows.map CapabilityRegistryRow.capability_id) compare).toList.length
        < rows.length + 1 := by
    rw [Std.ExtTreeSet.length_toList, Nat.lt_succ_iff,
      ← @List.length_map _ _ rows CapabilityRegistryRow.capability_id]
    apply size_le_of_subset
    intro id hid
    exact mem_set_ofList.mp hid
  obtain ⟨found, marks, hsearch, hfound⟩ := @search_iff _ _ (dependencies_or_default rows) _ _
    (fun id _ dependency hstep => by
      obtain ⟨row, hrow, -, hmem⟩ := (step_iff hrows).mp hstep
      exact (hnodes dependency).mpr (hcomplete row hrow dependency hmem))
    (fun id dependency hstep => by
      obtain ⟨row, hrow, hid, -⟩ := (step_iff hrows).mp hstep
      exact (hnodes id).mpr ⟨row, hrow, hid⟩) hlength
  have hrel : Step (dependencies_or_default rows) = DependsOn rows := by
    funext id dependency
    exact propext (step_iff hrows)
  refine ⟨found, marks, hsearch, ?_⟩
  rw [hfound, hrel]
  unfold Acyclic
  push Not
  rfl

/-- **The check of the graph**: absent dependencies first, then cycles. -/
theorem validate_dependency_graph_cases (hrows : ValidRows rows) :
    (¬ Complete rows ∧ validate_dependency_graph rows = some (.error .MissingDependency))
    ∨ Complete rows ∧ ((¬ Acyclic (DependsOn rows)
        ∧ validate_dependency_graph rows = some (.error .DependencyCycle))
      ∨ Acyclic (DependsOn rows) ∧ validate_dependency_graph rows = some (.ok ())) := by
  unfold validate_dependency_graph
  simp only
  by_cases hcomplete : Complete rows
  · obtain ⟨found, marks, hvisit, hcycle⟩ := visit_each_finds hrows hcomplete
    rw [if_neg (fun h => any_missing_iff.mp h hcomplete), hvisit]
    refine .inr ⟨hcomplete, ?_⟩
    cases found with
    | true => exact .inl ⟨hcycle.mp rfl, rfl⟩
    | false => exact .inr ⟨not_not.mp fun h => Bool.false_ne_true (hcycle.mpr h), rfl⟩
  · rw [if_pos (any_missing_iff.mpr hcomplete)]
    exact .inl ⟨hcomplete, rfl⟩

/-- **The closure of a set of capabilities**: the dependencies of its dependents. -/
theorem selection_closure_spec (hrows : ValidRows rows) (hcomplete : Complete rows)
    {direct : BTreeSet String} (hdirect : ∀ id ∈ direct, Contains rows id) :
    ∃ selected, selection_closure rows direct = some (.ok selected)
      ∧ ∀ id, id ∈ selected ↔ ∃ impacted, ∃ d ∈ direct,
        ReflTransGen (DependsOn rows) impacted d ∧ ReflTransGen (DependsOn rows) impacted id := by
  have hids : ∀ id, Contains rows id ↔ id ∈ rows.map CapabilityRegistryRow.capability_id := by
    intro id
    rw [List.mem_map]
    rfl
  have hlength : (rows.map CapabilityRegistryRow.capability_id).length = rows.length :=
    List.length_map _
  -- what a candidate steps to is a dependency
  have hrel : (fun id dependency => id ∈ (by_id rows).keys
      ∧ dependency ∈ dependencies_or_default rows id) = DependsOn rows := by
    funext id dependency
    refine propext ⟨fun h => (step_iff hrows).mp h.2, fun h => ?_⟩
    have ⟨row, hrow, hid, _⟩ := h
    exact ⟨(mem_by_id_keys hrows).mpr ⟨row, hrow, hid⟩, (step_iff hrows).mpr h⟩
  have hknown : Known (dependencies rows) = DependsOn rows := by
    funext id dependency
    exact propext (known_iff hrows)
  -- the first closure: each pass adds the capabilities with a dependency that is impacted
  obtain ⟨impacted, hsaturate⟩ := @saturate_some _ _ _ _ (dependencies_or_default rows)
    (by_id rows).keys direct (rows.length + 1) _
    (fun id hid => (hids id).mp ((mem_by_id_keys hrows).mp hid))
    (fun id hid => (hids id).mp (hdirect id hid)) (by omega)
  have himpacted : ∀ id, id ∈ impacted
      ↔ ∃ d ∈ direct, ReflTransGen (DependsOn rows) id d := by
    intro id
    rw [mem_saturate_iff hsaturate, hrel]
  have hcontains : ∀ id ∈ impacted, Contains rows id :=
    saturate_induction hdirect (fun id hid _ _ _ => (mem_by_id_keys hrows).mp hid) hsaturate
  have hpending : ∀ id, id ∈ impacted.toList.reverse ↔ id ∈ impacted := fun id =>
    List.mem_reverse.trans Std.ExtTreeSet.mem_toList
  -- the second one: all dependencies of these, from a stack of the impacted ones
  obtain ⟨selected, hreach⟩ := @reach_some _ _ _ _ (dependencies rows) impacted.toList.reverse
    impacted (rows.length + 1) (rows.map CapabilityRegistryRow.capability_id)
    (fun id hid => by
      obtain ⟨row, hrow, rfl⟩ := List.mem_map.mp hid
      exact ⟨_, (dependencies_eq_some hrows).mpr ⟨row, hrow, rfl, rfl⟩, fun dependency hmem =>
        (hids dependency).mp (hcomplete row hrow dependency hmem)⟩)
    (fun id hid => (hids id).mp (hcontains id hid))
    (fun id hid => (hids id).mp (hcontains id ((hpending id).mp hid)))
    (by rw [List.length_reverse, Std.ExtTreeSet.length_toList]; omega)
  refine ⟨selected, ?_, fun id => ?_⟩
  · unfold selection_closure
    rw [hsaturate]
    exact hreach
  · rw [mem_reach_iff (fun id hid => (hpending id).mp hid)
      (fun id hid hnot => absurd ((hpending id).mpr hid) hnot) hreach, hknown]
    simp only [himpacted]
    constructor
    · rintro ⟨a, ⟨d, hd, hdependent⟩, hdependency⟩
      exact ⟨a, d, hd, hdependent, hdependency⟩
    · rintro ⟨a, d, hd, hdependent, hdependency⟩
      exact ⟨a, ⟨d, hd, hdependent⟩, hdependency⟩

/-! ## Affected paths -/

/-- What follows a prefix starts with a slash. -/
theorem selector_matches_iff {selector : ChangedPathSelector} {path : String} :
    selector_matches selector.kind selector.path path = true ↔ selector.Covers path := by
  unfold selector_matches ChangedPathSelector.Covers
  cases selector.kind with
  | Exact => simp
  | Prefix =>
    simp only [Bool.or_eq_true, beq_iff_eq, Bool.and_eq_true, true_and]
    refine or_congr_right ?_
    rw [List.isPrefixOf_iff_prefix]
    constructor
    · rintro ⟨⟨suffix, hsuffix⟩, hhead⟩
      -- what is left behind the prefix begins with the slash
      rw [← hsuffix, List.drop_left, List.head?_eq_some_iff] at hhead
      obtain ⟨rest, rfl⟩ := hhead
      refine ⟨String.ofList rest, String.toList_inj.mp ?_⟩
      simp [← hsuffix]
    · rintro ⟨rest, rfl⟩
      simp [String.toList_append]

theorem mem_matching {path : String} :
    id ∈ matching rows path ↔ ∃ row ∈ rows, row.capability_id = id ∧ row.Recognizes path := by
  unfold matching CapabilityRegistryRow.Recognizes
  simp only [List.mem_map, List.mem_filter, List.any_eq_true, selector_matches_iff]
  constructor
  · rintro ⟨row, ⟨hrow, hmatch⟩, hid⟩
    exact ⟨row, hrow, hid, hmatch⟩
  · rintro ⟨row, hrow, hid, hmatch⟩
    exact ⟨row, ⟨hrow, hmatch⟩, hid⟩

theorem matching_isEmpty {path : String} :
    (matching rows path).isEmpty = true ↔ Unknown rows path := by
  rw [List.isEmpty_iff, List.eq_nil_iff_forall_not_mem]
  unfold Unknown
  simp only [mem_matching]
  constructor
  · exact fun h row hrow hmatch => h row.capability_id ⟨row, hrow, rfl, hmatch⟩
  · rintro h _ ⟨row, hrow, -, hmatch⟩
    exact h row hrow hmatch

theorem mem_match_path_direct {found : BTreeSet String × BTreeSet String} {path : String} :
    id ∈ (match_path rows found path).1 ↔ id ∈ found.1 ∨ id ∈ matching rows path := by
  unfold match_path
  by_cases hempty : (matching rows path).isEmpty = true
  · rw [if_pos hempty, List.isEmpty_iff.mp hempty, or_iff_left List.not_mem_nil]
  · rw [if_neg hempty, Std.ExtTreeSet.mem_insertMany_list, List.contains_iff_mem]

theorem mem_match_path_unknown {found : BTreeSet String × BTreeSet String} {path other : String} :
    other ∈ (match_path rows found path).2
      ↔ other ∈ found.2 ∨ other = path ∧ Unknown rows other := by
  unfold match_path
  by_cases hempty : (matching rows path).isEmpty = true
  · have hpath := matching_isEmpty.mp hempty
    rw [if_pos hempty, Std.ExtTreeSet.mem_insert, Std.LawfulEqCmp.compare_eq_iff_eq]
    constructor
    · rintro (rfl | hmem)
      · exact .inr ⟨rfl, hpath⟩
      · exact .inl hmem
    · rintro (hmem | ⟨rfl, -⟩)
      · exact .inr hmem
      · exact .inl rfl
  · rw [if_neg hempty]
    refine (or_iff_left ?_).symm
    rintro ⟨rfl, hnone⟩
    apply hempty
    exact matching_isEmpty.mpr hnone

/-- The loop adds to what it has found what each path adds. -/
theorem foldl_match_path (paths : List String) (found : BTreeSet String × BTreeSet String) :
    (∀ id, id ∈ (paths.foldl (match_path rows) found).1 ↔ id ∈ found.1 ∨ Direct rows paths id)
      ∧ ∀ path, path ∈ (paths.foldl (match_path rows) found).2
        ↔ path ∈ found.2 ∨ path ∈ paths ∧ Unknown rows path := by
  induction paths generalizing found with
  | nil =>
    unfold Direct
    simp
  | cons path paths ih =>
    obtain ⟨hdirect, hunknown⟩ := ih (match_path rows found path)
    rw [List.foldl_cons]
    constructor
    · intro id
      rw [hdirect, mem_match_path_direct, mem_matching, or_assoc]
      apply or_congr_right
      unfold Direct
      simp only [List.exists_mem_cons_iff, and_or_left, exists_or]
    · intro other
      rw [hunknown, mem_match_path_unknown, List.mem_cons, or_and_right, or_assoc]

/-- **What the loop over the affected paths finds**: the direct capabilities, and the paths that
nothing recognizes. -/
theorem match_paths_spec (paths : List String) :
    (∀ id, id ∈ (match_paths rows paths).1 ↔ Direct rows paths id)
      ∧ ∀ path, path ∈ (match_paths rows paths).2 ↔ path ∈ paths ∧ Unknown rows path := by
  obtain ⟨hdirect, hunknown⟩ := @foldl_match_path rows paths (∅, ∅)
  constructor
  · intro id
    exact (hdirect id).trans (or_iff_right Std.ExtTreeSet.not_mem_empty)
  · intro path
    exact (hunknown path).trans (or_iff_right Std.ExtTreeSet.not_mem_empty)

/-! ## Selections -/

/-- The members of a set of strings are listed in order. -/
theorem toList_ascending (s : BTreeSet String) : s.toList.Pairwise (· < ·) :=
  Std.ExtTreeSet.ordered_toList.imp fun hlt => compare_lt_iff_lt.mp hlt

theorem by_id_keys_ascending : (by_id rows).keys.Pairwise (· < ·) :=
  Std.ExtTreeMap.ordered_keys.imp fun hlt => compare_lt_iff_lt.mp hlt

theorem TargetedRerunRequest.validate_eq_ok : request.validate = .ok ()
    ↔ request.contract_version = LOCAL_VERIFICATION_CONTRACT_VERSION
      ∧ LocalVerification.validate_stable_id request.run_id = true
      ∧ LocalVerification.validate_stable_id request.goal_id = true
      ∧ LocalVerification.validate_stable_id request.task_id = true
      ∧ validate_sha256_digest request.source_fingerprint = true
      ∧ validate_sha256_digest request.policy_digest = true
      ∧ request.changed_paths.validate = true := by
  unfold TargetedRerunRequest.validate
  simp only [bind_eq_ok, reject_if_eq_ok, exists_const, not_not, ne_eq]

/-- Ids of the registry are selected with valid facts, in their order. -/
theorem selected_capabilities_valid (hrows : ValidRows rows) {ids : List String}
    (hcontains : ∀ id ∈ ids, Contains rows id) (hascending : ids.Pairwise (· < ·))
    (hne : ids ≠ []) :
    ∃ capabilities, ids.mapM (selected_capability rows) = some capabilities
      ∧ capabilities.map SelectedCapability.capability_id = ids
      ∧ validate_selected_capabilities capabilities = true := by
  have hselected : ∀ id capability, selected_capability rows id = some capability →
      capability.capability_id = id ∧ capability.validate = true := by
    intro id capability h
    unfold selected_capability at h
    obtain ⟨row, hget, rfl⟩ := Option.map_eq_some_iff.mp h
    obtain ⟨hrow, rfl⟩ := (get_by_id hrows).mp hget
    refine ⟨rfl, ?_⟩
    unfold SelectedCapability.validate
    simp only [hrows.stable_id row hrow, hrows.record_digest row hrow, Bool.and_true,
      Bool.true_and, bne_iff_ne]
    exact hrows.revision row hrow
  obtain ⟨capabilities, hcollect⟩ : ∃ capabilities, ids.mapM (selected_capability rows)
      = some capabilities := by
    refine exists_mapM_eq_some fun id hid => ?_
    obtain ⟨row, hrow, rfl⟩ := hcontains id hid
    unfold selected_capability
    rw [(get_by_id hrows).mpr ⟨hrow, rfl⟩]
    exact ⟨_, rfl⟩
  have hall := mapM_eq_some_iff.mp hcollect
  have hids : capabilities.map SelectedCapability.capability_id = ids := by
    clear hcollect hcontains hascending hne
    induction hall with
    | nil => rfl
    | cons hfirst _ ih => rw [List.map_cons, ih, (hselected _ _ hfirst).1]
  refine ⟨capabilities, hcollect, hids, ?_⟩
  unfold validate_selected_capabilities
  rw [hids, Bool.and_eq_true, Bool.and_eq_true, strictly_ascending_iff, List.all_eq_true]
  refine ⟨⟨?_, fun capability hmem => ?_⟩, hascending⟩
  · rw [Bool.not_eq_true', List.isEmpty_eq_false_iff]
    rintro rfl
    exact hne hids.symm
  · obtain ⟨id, -, hfound⟩ := exists_left_of_forall₂ hall hmem
    exact (hselected id capability hfound).2

/-- What the two modes ask for. -/
def ModeFits (request : TargetedRerunRequest) (unknown_paths : List String) :
    TargetedRerunMode → Prop
  | .Targeted => unknown_paths = []
  | .FullSafe => request.unknown_path_policy = .FullSafe ∧ unknown_paths ≠ []

/-- **Ids of a valid registry give a selection.** -/
theorem select_ids_selected (hrequest : request.validate = .ok ())
    (hsnapshot : snapshot.validate json = .ok ()) {mode : TargetedRerunMode}
    {unknown_paths ids : List String} (hids : ids.Pairwise (· < ·)) (hne : ids ≠ [])
    (hcontains : ∀ id ∈ ids, Contains snapshot.capabilities id)
    (hunknown : unknown_paths.Pairwise (· < ·))
    (hpaths : ∀ path ∈ unknown_paths, path ∈ request.changed_paths.logical_paths)
    (hmode : ModeFits request unknown_paths mode) :
    ∃ selection, select_ids json request snapshot mode unknown_paths ids = .Selected selection
      ∧ selection.mode = mode ∧ selection.capability_ids = ids := by
  obtain ⟨hrows, hdigest⟩ := CapabilityRegistrySnapshot.valid_rows hsnapshot
  obtain ⟨hversion, hrun, hgoal, htask, hsource, hpolicy, hmanifest⟩ :=
    TargetedRerunRequest.validate_eq_ok.mp hrequest
  obtain ⟨capabilities, hcollect, hcapabilities, hvalid⟩ :=
    selected_capabilities_valid hrows hcontains hids hne
  unfold select_ids
  rw [hcollect]
  simp only
  -- what a new selection is validated for: its paths, its header, and the rest of its fields
  have hunknown_paths : (unknown_paths.all fun path => LocalVerification.validate_logical_path path
      && request.changed_paths.logical_paths.contains path) = true := by
    refine List.all_eq_true.mpr fun path hpath => ?_
    rw [Bool.and_eq_true, List.contains_iff_mem]
    exact ⟨ChangedPathManifest.valid_path hmanifest (hpaths path hpath), hpaths path hpath⟩
  have hheader : [request.run_id, request.goal_id, request.task_id].all
      LocalVerification.validate_stable_id = true := by
    simp only [List.all_cons, List.all_nil, hrun, hgoal, htask, Bool.and_true]
  have hnew : ∃ selection, TargetedRerunSelection.new json request snapshot mode unknown_paths
      capabilities = some selection ∧ selection.mode = mode
        ∧ selection.capabilities = capabilities := by
    unfold TargetedRerunSelection.new
    refine ⟨_, if_pos ?_, rfl, rfl⟩
    rw [hmanifest, Bool.true_and]
    unfold TargetedRerunSelection.validate TargetedRerunSelection.expected_selection_digest
      TargetedRerunSelection.validate_unknown_paths TargetedRerunSelection.validate_mode
    simp only [hversion, hheader, hsource, hpolicy, hdigest, hmanifest, hunknown_paths, hvalid,
      strictly_ascending_iff.mpr hunknown, verification_sha256_hex_valid, List.all_cons,
      List.all_nil, beq_self_eq_true, Bool.and_true, Bool.true_and]
    cases mode with
    | Targeted => exact List.isEmpty_iff.mpr hmode
    | FullSafe =>
      simp only [hmode.1, beq_self_eq_true, Bool.true_and, Bool.not_eq_true',
        List.isEmpty_eq_false_iff]
      exact hmode.2
  obtain ⟨selection, hselection, rfl, rfl⟩ := hnew
  rw [hselection]
  exact ⟨selection, rfl, rfl, hcapabilities⟩

/-- What a selection of affected paths comes to. -/
inductive AffectedOutcome (request : TargetedRerunRequest) (rows : List CapabilityRegistryRow) :
    TargetedRerunOutcome → Prop where
  | blocked (unknown : ∃ path ∈ request.changed_paths.logical_paths, Unknown rows path)
      (policy : request.unknown_path_policy = .Blocked) :
      AffectedOutcome request rows (.Blocked .UnknownPath)
  | full_safe (selection : TargetedRerunSelection)
      (unknown : ∃ path ∈ request.changed_paths.logical_paths, Unknown rows path)
      (policy : request.unknown_path_policy = .FullSafe) (mode : selection.mode = .FullSafe)
      (ids : ∀ id, id ∈ selection.capability_ids ↔ Contains rows id) :
      AffectedOutcome request rows (.Selected selection)
  | targeted (selection : TargetedRerunSelection)
      (known : ∀ path ∈ request.changed_paths.logical_paths, ¬ Unknown rows path)
      (mode : selection.mode = .Targeted)
      (ids : ∀ id, id ∈ selection.capability_ids
        ↔ Reached rows request.changed_paths.logical_paths id) :
      AffectedOutcome request rows (.Selected selection)

theorem AffectedOutcome.blocked_iff {outcome : TargetedRerunOutcome}
    (h : AffectedOutcome request rows outcome) : (∃ code, outcome = .Blocked code)
      ↔ (∃ path ∈ request.changed_paths.logical_paths, Unknown rows path)
        ∧ request.unknown_path_policy = .Blocked := by
  cases h with
  | blocked unknown policy => exact ⟨fun _ => ⟨unknown, policy⟩, fun _ => ⟨_, rfl⟩⟩
  | full_safe selection unknown policy =>
    rw [policy]
    exact ⟨fun ⟨_, h⟩ => (nomatch h), fun h => (nomatch h.2)⟩
  | targeted selection known =>
    refine ⟨fun ⟨_, h⟩ => (nomatch h), ?_⟩
    rintro ⟨⟨path, hpath, hnone⟩, -⟩
    exact absurd hnone (known path hpath)

theorem AffectedOutcome.full_safe_iff {outcome : TargetedRerunOutcome}
    (h : AffectedOutcome request rows outcome) :
    (∃ selection, outcome = .Selected selection ∧ selection.mode = .FullSafe
        ∧ ∀ id, id ∈ selection.capability_ids ↔ Contains rows id)
      ↔ (∃ path ∈ request.changed_paths.logical_paths, Unknown rows path)
        ∧ request.unknown_path_policy = .FullSafe := by
  cases h with
  | blocked unknown policy =>
    rw [policy]
    exact ⟨fun ⟨_, h, _⟩ => (nomatch h), fun h => (nomatch h.2)⟩
  | full_safe selection unknown policy mode ids =>
    exact ⟨fun _ => ⟨unknown, policy⟩, fun _ => ⟨selection, rfl, mode, ids⟩⟩
  | targeted selection known mode =>
    constructor
    · rintro ⟨other, h, hfull, -⟩
      obtain rfl := TargetedRerunOutcome.Selected.inj h
      rw [mode] at hfull
      exact nomatch hfull
    · rintro ⟨⟨path, hpath, hnone⟩, -⟩
      exact absurd hnone (known path hpath)

theorem AffectedOutcome.targeted_of_known {outcome : TargetedRerunOutcome}
    (h : AffectedOutcome request rows outcome)
    (hknown : ∀ path ∈ request.changed_paths.logical_paths, ¬ Unknown rows path) :
    ∃ selection, outcome = .Selected selection ∧ selection.mode = .Targeted
      ∧ ∀ id, id ∈ selection.capability_ids
        ↔ Reached rows request.changed_paths.logical_paths id := by
  have hnone : ¬ ∃ path ∈ request.changed_paths.logical_paths, Unknown rows path := by
    rintro ⟨path, hpath, hunknown⟩
    exact hknown path hpath hunknown
  cases h with
  | blocked unknown => exact absurd unknown hnone
  | full_safe selection unknown => exact absurd unknown hnone
  | targeted selection known mode ids => exact ⟨selection, rfl, mode, ids⟩

/-- Without an unknown path, and with a path, some capability is a direct one. -/
theorem exists_direct (hentries : request.changed_paths.entries ≠ [])
    (hknown : ∀ path ∈ request.changed_paths.logical_paths, ¬ Unknown rows path) :
    ∃ id, Direct rows request.changed_paths.logical_paths id := by
  obtain ⟨entry, entries, hcons⟩ := List.exists_cons_of_ne_nil hentries
  have hpath : entry.path ∈ request.changed_paths.logical_paths :=
    List.mem_flatMap.mpr ⟨entry, hcons ▸ List.mem_cons_self, List.mem_cons_self⟩
  have hrecognized := hknown entry.path hpath
  unfold Unknown at hrecognized
  push Not at hrecognized
  obtain ⟨row, hrow, hmatch⟩ := hrecognized
  exact ⟨row.capability_id, row, hrow, rfl, entry.path, hpath, hmatch⟩

theorem select_affected_spec (hrequest : request.validate = .ok ())
    (hsnapshot : snapshot.validate json = .ok ()) (hcomplete : Complete snapshot.capabilities)
    (hcapabilities : snapshot.capabilities ≠ [])
    (hentries : request.changed_paths.entries ≠ []) :
    ∃ outcome, select_affected json request snapshot = some outcome
      ∧ AffectedOutcome request snapshot.capabilities outcome := by
  have hrows := (CapabilityRegistrySnapshot.valid_rows hsnapshot).1
  obtain ⟨hdirect, hunknown⟩ := @match_paths_spec snapshot.capabilities
    request.changed_paths.logical_paths
  unfold select_affected
  simp only
  by_cases hknown : ∀ path ∈ request.changed_paths.logical_paths,
      ¬ Unknown snapshot.capabilities path
  · obtain ⟨first, hfirst⟩ := exists_direct hentries hknown
    rw [if_pos (set_isEmpty_iff.mpr fun path hpath =>
        hknown path ((hunknown path).mp hpath).1 ((hunknown path).mp hpath).2),
      if_neg (fun h => set_isEmpty_iff.mp h first ((hdirect first).mpr hfirst))]
    obtain ⟨selected, hclosure, hselected⟩ := selection_closure_spec hrows hcomplete
      fun id hid => by
        obtain ⟨row, hrow, heq, -⟩ := (hdirect id).mp hid
        exact ⟨row, hrow, heq⟩
    rw [hclosure]
    have hreached : ∀ id, id ∈ selected
        ↔ Reached snapshot.capabilities request.changed_paths.logical_paths id := by
      intro id
      rw [hselected]
      unfold Reached
      simp only [hdirect]
    have hcontains : ∀ id ∈ selected.toList, Contains snapshot.capabilities id := by
      intro id hid
      obtain ⟨impacted, direct, ⟨row, hrow, heq, -⟩, hdependent, hdependency⟩ :=
        (hreached id).mp (Std.ExtTreeSet.mem_toList.mp hid)
      -- the last step to the id is from a row that names it, and no name is absent
      rcases hdependency.cases_tail with rfl | ⟨_, -, named, hnamed, -, hmem⟩
      · rcases hdependent.cases_head with rfl | ⟨_, ⟨row, hrow, heq, -⟩, -⟩
        · exact ⟨row, hrow, heq⟩
        · exact ⟨row, hrow, heq⟩
      · exact hcomplete named hnamed id hmem
    have hfirst_selected : first ∈ selected.toList :=
      Std.ExtTreeSet.mem_toList.mpr ((hreached first).mpr ⟨first, first, hfirst, .refl, .refl⟩)
    obtain ⟨selection, hselection, hmode, hids⟩ := @select_ids_selected json request snapshot
      hrequest hsnapshot .Targeted [] _ (toList_ascending selected)
      (List.ne_nil_of_mem hfirst_selected) hcontains .nil nofun rfl
    refine ⟨_, congrArg some hselection, .targeted selection hknown hmode fun id => ?_⟩
    rw [hids, Std.ExtTreeSet.mem_toList, hreached]
  · push Not at hknown
    obtain ⟨path, hpath, hnone⟩ := hknown
    have hmem : path ∈ (match_paths snapshot.capabilities
        request.changed_paths.logical_paths).2 := (hunknown path).mpr ⟨hpath, hnone⟩
    rw [if_neg (fun h => set_isEmpty_iff.mp h path hmem)]
    cases hpolicy : request.unknown_path_policy with
    | Blocked => exact ⟨_, rfl, .blocked ⟨path, hpath, hnone⟩ hpolicy⟩
    | FullSafe =>
      -- the ids of the whole registry are a selection, since there is a capability
      obtain ⟨row, hrow⟩ := List.exists_mem_of_ne_nil _ hcapabilities
      have hkey := (mem_by_id_keys hrows).mpr ⟨row, hrow, rfl⟩
      obtain ⟨selection, hselection, hmode, hids⟩ := @select_ids_selected json request snapshot
        hrequest hsnapshot .FullSafe _ _ by_id_keys_ascending (List.ne_nil_of_mem hkey)
        (fun id hid => (mem_by_id_keys hrows).mp hid) (toList_ascending _)
        (fun path hpath => ((hunknown path).mp (Std.ExtTreeSet.mem_toList.mp hpath)).1)
        ⟨hpolicy, List.ne_nil_of_mem (Std.ExtTreeSet.mem_toList.mpr hmem)⟩
      refine ⟨_, congrArg some hselection, .full_safe selection ⟨path, hpath, hnone⟩ hpolicy hmode
        fun id => ?_⟩
      rw [hids, mem_by_id_keys hrows]

theorem select_ids_validate {mode : TargetedRerunMode} {unknown_paths ids : List String}
    {selection : TargetedRerunSelection}
    (h : select_ids json request snapshot mode unknown_paths ids = .Selected selection) :
    selection.validate json.toSelectionJson = true := by
  unfold select_ids at h
  split at h
  · split at h
    · rename_i hnew
      obtain rfl := TargetedRerunOutcome.Selected.inj h
      unfold TargetedRerunSelection.new at hnew
      simp only at hnew
      split at hnew
      · rename_i hvalid
        rw [Bool.and_eq_true] at hvalid
        exact Option.some.inj hnew ▸ hvalid.2
      · exact nomatch hnew
    · exact nomatch h
  · exact nomatch h

/-- Every selection that is made has been validated. -/
theorem select_affected_validate {selection : TargetedRerunSelection}
    (h : select_affected json request snapshot = some (.Selected selection)) :
    selection.validate json.toSelectionJson = true := by
  unfold select_affected at h
  simp only at h
  split at h
  · split at h
    · exact nomatch Option.some.inj h
    · split at h
      · exact select_ids_validate (Option.some.inj h)
      · exact nomatch Option.some.inj h
      · exact nomatch h
  · split at h
    · exact nomatch Option.some.inj h
    · exact select_ids_validate (Option.some.inj h)

theorem TargetedRerunSelection.capability_ids_ascending {selection : TargetedRerunSelection}
    {encodings : SelectionJson} (h : selection.validate encodings = true) :
    selection.capability_ids.Pairwise (· < ·) := by
  unfold TargetedRerunSelection.validate validate_selected_capabilities at h
  simp only [Bool.and_eq_true] at h
  exact strictly_ascending_iff.mp h.1.1.1.2.2

/-- A graph that is complete and without cycles lets the selection look at the paths. -/
theorem select_of_graph (hrequest : request.validate = .ok ())
    (hsnapshot : snapshot.validate json = .ok ()) :
    (¬ Complete snapshot.capabilities
      ∧ select_targeted_rerun json request snapshot = some (.Blocked .MissingDependency))
    ∨ Complete snapshot.capabilities ∧ ((¬ Acyclic (DependsOn snapshot.capabilities)
        ∧ select_targeted_rerun json request snapshot = some (.Blocked .DependencyCycle))
      ∨ Acyclic (DependsOn snapshot.capabilities) ∧ ∃ outcome,
        select_targeted_rerun json request snapshot = some outcome
        ∧ outcome ≠ .Blocked .MissingDependency ∧ outcome ≠ .Blocked .DependencyCycle
        ∧ (snapshot.capabilities ≠ [] → request.changed_paths.entries ≠ [] →
          AffectedOutcome request snapshot.capabilities outcome)
        ∧ ∀ selection, outcome = .Selected selection →
          selection.validate json.toSelectionJson = true) := by
  have hrows := (CapabilityRegistrySnapshot.valid_rows hsnapshot).1
  unfold select_targeted_rerun
  simp only [hrequest, hsnapshot]
  rcases validate_dependency_graph_cases hrows with ⟨hmissing, hgraph⟩
      | ⟨hcomplete, ⟨hcycle, hgraph⟩ | ⟨hacyclic, hgraph⟩⟩
  · rw [hgraph]
    exact .inl ⟨hmissing, rfl⟩
  · rw [hgraph]
    exact .inr ⟨hcomplete, .inl ⟨hcycle, rfl⟩⟩
  · rw [hgraph]
    refine .inr ⟨hcomplete, .inr ⟨hacyclic, ?_⟩⟩
    simp only
    by_cases hentries : request.changed_paths.entries = []
    · rw [if_pos (List.isEmpty_iff.mpr hentries)]
      exact ⟨_, rfl, nofun, nofun, fun _ h => absurd hentries h, nofun⟩
    · rw [if_neg (fun h => hentries (List.isEmpty_iff.mp h))]
      by_cases hcapabilities : snapshot.capabilities = []
      · rw [if_pos (List.isEmpty_iff.mpr hcapabilities)]
        cases request.unknown_path_policy with
        | FullSafe => exact ⟨_, rfl, nofun, nofun, fun h => absurd hcapabilities h, nofun⟩
        | Blocked => exact ⟨_, rfl, nofun, nofun, fun h => absurd hcapabilities h, nofun⟩
      · rw [if_neg (fun h => hcapabilities (List.isEmpty_iff.mp h))]
        obtain ⟨outcome, hselect, haffected⟩ :=
          select_affected_spec hrequest hsnapshot hcomplete hcapabilities hentries
        refine ⟨outcome, hselect, ?_, ?_, fun _ _ => haffected, ?_⟩
        · rintro rfl
          exact nomatch haffected
        · rintro rfl
          exact nomatch haffected
        · rintro selection rfl
          exact select_affected_validate hselect

/-! ## Exactness -/

/-- What the outcome for a request and a registry is, condition by condition. -/
structure ExactOutcome (json : RegistryJson) (request : TargetedRerunRequest)
    (snapshot : CapabilityRegistrySnapshot) (outcome : TargetedRerunOutcome) : Prop where
  missing : outcome = .Blocked .MissingDependency ↔ ¬ Complete snapshot.capabilities
  cycle : Complete snapshot.capabilities →
    (outcome = .Blocked .DependencyCycle ↔ ¬ Acyclic (DependsOn snapshot.capabilities))
  blocked : Complete snapshot.capabilities → Acyclic (DependsOn snapshot.capabilities) →
    snapshot.capabilities ≠ [] → request.changed_paths.entries ≠ [] →
      ((∃ code, outcome = .Blocked code)
        ↔ (∃ path ∈ request.changed_paths.logical_paths, Unknown snapshot.capabilities path)
          ∧ request.unknown_path_policy = .Blocked)
  full_safe : Complete snapshot.capabilities → Acyclic (DependsOn snapshot.capabilities) →
    snapshot.capabilities ≠ [] → request.changed_paths.entries ≠ [] →
      ((∃ selection, outcome = .Selected selection ∧ selection.mode = .FullSafe
          ∧ ∀ id, id ∈ selection.capability_ids ↔ Contains snapshot.capabilities id)
        ↔ (∃ path ∈ request.changed_paths.logical_paths, Unknown snapshot.capabilities path)
          ∧ request.unknown_path_policy = .FullSafe)
  targeted : Complete snapshot.capabilities → Acyclic (DependsOn snapshot.capabilities) →
    snapshot.capabilities ≠ [] → request.changed_paths.entries ≠ [] →
    (∀ path ∈ request.changed_paths.logical_paths, ¬ Unknown snapshot.capabilities path) →
      ∃ selection, outcome = .Selected selection ∧ selection.mode = .Targeted
        ∧ ∀ id, id ∈ selection.capability_ids
          ↔ Reached snapshot.capabilities request.changed_paths.logical_paths id
  selected : ∀ selection, outcome = .Selected selection →
    selection.capability_ids.Pairwise (· < ·)
      ∧ selection.validate json.toSelectionJson = true
      ∧ selection.validate_against json request snapshot = true

/-- **The selection of a targeted rerun is exact**: for a valid request and a valid registry it
ends, and its outcome is the one that the dependencies, the selectors and the policy ask for. -/
theorem select_targeted_rerun_exact (json : RegistryJson) (request : TargetedRerunRequest)
    (snapshot : CapabilityRegistrySnapshot) (hrequest : request.validate = .ok ())
    (hsnapshot : snapshot.validate json = .ok ()) :
    ∃ outcome, select_targeted_rerun json request snapshot = some outcome
      ∧ ExactOutcome json request snapshot outcome := by
  rcases select_of_graph hrequest hsnapshot with ⟨hmissing, hselect⟩
      | ⟨hcomplete, ⟨hcycle, hselect⟩
        | ⟨hacyclic, outcome, hselect, hfirst, hsecond, haffected, hvalid⟩⟩
  · exact ⟨_, hselect, ⟨⟨fun _ => hmissing, fun _ => rfl⟩, fun h => absurd h hmissing,
      fun h => absurd h hmissing, fun h => absurd h hmissing, fun h => absurd h hmissing, nofun⟩⟩
  · exact ⟨_, hselect, ⟨⟨nofun, fun h => absurd hcomplete h⟩,
      fun _ => ⟨fun _ => hcycle, fun _ => rfl⟩, fun _ h => absurd h hcycle,
      fun _ h => absurd h hcycle, fun _ h => absurd h hcycle, nofun⟩⟩
  · refine ⟨outcome, hselect, ⟨⟨fun h => absurd h hfirst, fun h => absurd hcomplete h⟩,
      fun _ => ⟨fun h => absurd h hsecond, fun h => absurd hacyclic h⟩, ?_, ?_, ?_, ?_⟩⟩
    · exact fun _ _ hrows hentries => (haffected hrows hentries).blocked_iff
    · exact fun _ _ hrows hentries => (haffected hrows hentries).full_safe_iff
    · exact fun _ _ hrows hentries => (haffected hrows hentries).targeted_of_known
    · intro selection h
      have hselection := hvalid selection h
      refine ⟨TargetedRerunSelection.capability_ids_ascending hselection, hselection, ?_⟩
      unfold TargetedRerunSelection.validate_against
      rw [hselection, hrequest, hsnapshot, hselect, h]
      simp [ok_and]

end

/-! ### A change of a dependency -/

namespace DependencyChange

def json : RegistryJson where
  behavior := fun behavior => as_bytes behavior.contract_id
  capability := fun capability => as_bytes capability.capability_id
  changed_path_manifest := fun manifest => manifest.logical_paths.flatMap as_bytes
  selection := fun payload => as_bytes payload.run_id
  capability_state := fun state => as_bytes state.capability_id
  registry := fun identities => identities.flatMap fun identity => as_bytes identity.capability_id

def policy : LocalMachinePolicy where
  local_only := true
  network := .Denied
  provider := .Denied
  telemetry := .Denied
  egress := .Denied
  external_evidence := .Denied
  external_storage := .Denied
  raw_shell := .Forbidden
  inherit_environment := false
  fingerprint_algorithm := .Sha256
  allowed_executable_ids := (∅ : BTreeSet String).insert "cargo"
  allowed_environment_names := ∅

def capability (capability_id : String) (dependencies : List String)
    (changed_path_selectors : List ChangedPathSelector) : CapabilityDefinition where
  contract_version := 1
  capability_id := capability_id
  revision := 1
  criterion_ids := []
  dependencies := dependencies
  changed_path_selectors := changed_path_selectors
  policy := policy
  commands := [⟨"run", "cargo", ["test"], .SnapshotRoot, ∅⟩]

def row (definition : CapabilityDefinition) : CapabilityRegistryRow where
  definition := definition
  record_digest := verification_sha256_hex (json.capability definition)
  generation := 1
  state_digest := verification_sha256_hex (as_bytes definition.capability_id)

/-- The capability of the interface depends on that of the core. -/
def rows : List CapabilityRegistryRow :=
  [row (capability "api" ["core"] [⟨.Exact, "src/api.rs"⟩]),
    row (capability "core" [] [⟨.Prefix, "src/core"⟩])]

def snapshot : CapabilityRegistrySnapshot where
  capabilities := rows
  registry_snapshot_digest := registry_snapshot_digest json rows

def request : TargetedRerunRequest where
  contract_version := 1
  run_id := "run"
  goal_id := "goal"
  task_id := "task"
  source_fingerprint := verification_sha256_hex [1]
  policy_digest := verification_sha256_hex [2]
  changed_paths := ⟨[⟨.Modified, "src/core/lib.rs", none⟩]⟩
  unknown_path_policy := .Blocked

theorem request_valid : request.validate = .ok () := by
  rw [TargetedRerunRequest.validate_eq_ok]
  refine ⟨rfl, ?_, ?_, ?_, verification_sha256_hex_valid _, verification_sha256_hex_valid _, ?_⟩
  all_goals decide

theorem row_valid {definition : CapabilityDefinition} {prior_id : Option String}
    (hdefinition : definition.validate = true)
    (hprior : (prior_id.any fun prior => decide (definition.capability_id ≤ prior)) = false) :
    (row definition).validate json prior_id = .ok () := by
  unfold CapabilityRegistryRow.validate CapabilityRegistryRow.capability_id row
  simp only [hdefinition, hprior, verification_sha256_hex_valid, bind_eq_ok, reject_if_eq_ok,
    exists_const]
  simp [CapabilityRegistryRow.state, CapabilityRegistryRow.capability_id, json]

theorem snapshot_valid : snapshot.validate json = .ok () := by
  have hrows : validate_rows json none rows = .ok () := by
    have hapi := @row_valid (capability "api" ["core"] [⟨.Exact, "src/api.rs"⟩]) none
      (by decide) rfl
    have hcore := @row_valid (capability "core" [] [⟨.Prefix, "src/core"⟩]) (some "api")
      (by decide) (by decide)
    exact validate_rows_cons.mpr ⟨hapi, validate_rows_cons.mpr ⟨hcore, rfl⟩⟩
  have hdigest : validate_sha256_digest snapshot.registry_snapshot_digest = true :=
    verification_sha256_hex_valid _
  unfold CapabilityRegistrySnapshot.validate
  rw [show snapshot.capabilities = rows from rfl, hrows, ok_bind,
    reject_if_of_not (not_not.mpr hdigest), ok_bind, reject_if_of_not]
  exact not_not.mpr (Eq.refl (registry_snapshot_digest json rows))

/-- The core changes: both capabilities are selected. -/
theorem exact_selection : ∃ outcome, select_targeted_rerun json request snapshot = some outcome
    ∧ ExactOutcome json request snapshot outcome :=
  select_targeted_rerun_exact json request snapshot request_valid snapshot_valid

end DependencyChange

end OvcaCore

/-
Where the two dispatch gates agree, and the ten tools together.

A plan is read field by field; of the fields of a batch, Python looks at the ones of an object
only, and counts an empty commit policy as missing.
-/
import OvcaCore.GateParity

set_option autoImplicit false

namespace OvcaCore

open OvcaCore.Texts

namespace PolicyTools

open PolicyToolsServer (list_missing missing_names)

variable {to_lowercase to_uppercase : Text → Text} {repr : Value → Text} {order : List Text}
  {args fields : Args} {result answer value : Value} {s t : Text} {key name : String}
  {texts : List Text}

/-! ## What is missing -/

theorem missing_names_cons {v : Value} {checks : List (String × Value)} :
    missing_names ((name, v) :: checks)
      = (if list_missing v = true then [name.toList] else []) ++ missing_names checks := by
  unfold missing_names
  by_cases hmissing : list_missing v = true
  · rw [if_pos hmissing, List.filter_cons_of_pos (by simpa using hmissing)]
    rfl
  · rw [if_neg hmissing, List.filter_cons_of_neg (by simpa using hmissing)]
    rfl

theorem missing_names_nil : missing_names [] = [] := rfl

theorem list_missing_strings : list_missing (strings texts) = true ↔ texts = [] := by
  cases texts <;> simp [strings, list_missing]

/-- An optional text is missing in both when it is absent or blank. -/
theorem missing_option {found : Option Text}
    (h : option_field Value.as_str (field fields key) = some found) :
    (if list_missing (PolicyToolsServer.get fields key .Null) = true then [name.toList] else [])
      = missing_text name found := by
  unfold missing_text
  rcases option_text h with ⟨hget, rfl⟩ | ⟨s, hget, rfl⟩
  · rw [hget]
    rfl
  · rw [hget]
    have hiff : list_missing (.String s) = true ↔ trim is_whitespace s = [] := decide_eq_true_iff
    simp only [hiff, Option.getD_some]

/-- A list is missing in both when it is absent or empty. -/
theorem missing_default (h : default_field [] vec_string (field fields key) = some texts) :
    (if list_missing (PolicyToolsServer.get fields key .Null) = true then [name.toList] else [])
      = missing_list name texts := by
  unfold missing_list PolicyToolsServer.get
  rcases default_strings h with ⟨hnone, rfl⟩ | hsome
  · rw [hnone]
    rfl
  · rw [hsome]
    simp only [Option.getD_some, list_missing_strings]

/-! ## Batches -/

/-- A batch with all that a batch has to name. -/
structure Complete (batch : AutonomousBatch) : Prop where
  authority : trim is_whitespace (batch.authority.getD []) ≠ []
  scope : ∃ scope, batch.scope = some scope ∧ scope.include_paths ≠ [] ∧ scope.exclude_paths ≠ []
  stop_conditions : batch.stop_conditions ≠ []
  commit_policy : batch.commit_policy.isSome = true

theorem scope_missing_nil {scope : Option AutonomousBatchScope} : scope_missing scope = []
    ↔ ∃ read, scope = some read ∧ read.include_paths ≠ [] ∧ read.exclude_paths ≠ [] := by
  cases scope with
  | none => exact ⟨fun h => (nomatch h), fun ⟨_, h, _⟩ => (nomatch h)⟩
  | some read =>
    unfold scope_missing missing_list
    simp only [List.append_eq_nil_iff, ite_eq_right_iff, List.cons_ne_nil, imp_false,
      Option.some.injEq, exists_eq_left']

theorem batch_missing_nil {batch : AutonomousBatch} :
    batch_missing batch = [] ↔ (batch.enabled = true → Complete batch) := by
  unfold batch_missing
  by_cases henabled : batch.enabled = true
  · rw [if_pos henabled]
    simp only [List.append_eq_nil_iff, scope_missing_nil, missing_text, missing_list,
      ite_eq_right_iff, List.cons_ne_nil, imp_false, Option.isNone_iff_eq_none, henabled,
      forall_const]
    constructor
    · rintro ⟨⟨⟨hauthority, hscope⟩, hstop⟩, hpolicy⟩
      exact ⟨hauthority, hscope, hstop, Option.isSome_iff_ne_none.mpr hpolicy⟩
    · rintro ⟨hauthority, hscope, hstop, hpolicy⟩
      exact ⟨⟨⟨hauthority, hscope⟩, hstop⟩, Option.isSome_iff_ne_none.mp hpolicy⟩
  · rw [if_neg henabled]
    exact ⟨fun _ htrue => absurd htrue henabled, fun _ => rfl⟩

/-- Where the two find the same missing in a batch. -/
def BatchAgrees : Option Value → Prop
  | some (.Object batch) => field batch "enabled" = some (.Boolean true) →
    (∀ items, field batch "scope" = some (.Array items) → ∀ item ∈ items, item = .Array [])
    ∧ (∀ policy, field batch "commit_policy" = some policy → list_missing policy = true →
      policy = .Null)
  | some (.Array items) => ∀ batch, AutonomousBatch.from_value (.Array items) = some batch →
    batch.enabled = true → Complete batch
  | _ => True

/-- What Python finds missing in the scope of a batch. -/
def python_scope (batch : Args) : List Text :=
  (if list_missing (PolicyToolsServer.get (PolicyToolsServer.fields_of (PolicyToolsServer.get batch "scope" .Null)) "include" .Null) = true
    then ["autonomous_batch.scope.include".toList] else [])
  ++ (if list_missing (PolicyToolsServer.get (PolicyToolsServer.fields_of (PolicyToolsServer.get batch "scope" .Null)) "exclude" .Null)
      = true
    then ["autonomous_batch.scope.exclude".toList] else [])

theorem empty_vec (item : Value) {texts : List Text} (h : vec_string item = some texts) :
    texts = [] ↔ item = .Array [] := by
  rw [vec_string_eq h]
  cases texts <;> simp [strings]

theorem scope_missing_full {include_paths exclude_paths : List Text} :
    (scope_missing (some ⟨include_paths, exclude_paths⟩)).length ≤ 2
      ∧ (scope_missing (some ⟨include_paths, exclude_paths⟩)
          = ["autonomous_batch.scope.include".toList, "autonomous_batch.scope.exclude".toList]
        ↔ include_paths = [] ∧ exclude_paths = []) := by
  unfold scope_missing missing_list
  by_cases hinclude : include_paths = []
  · by_cases hexclude : exclude_paths = [] <;> simp [hinclude, hexclude]
  · by_cases hexclude : exclude_paths = [] <;> simp [hinclude, hexclude]

/-- The scope that is read from an array, whose items are all lists. -/
theorem scope_of_array {items : List Value} {scope : AutonomousBatchScope}
    (h : AutonomousBatchScope.from_value (.Array items) = some scope) :
    (scope.include_paths = [] ∧ scope.exclude_paths = []) ↔ ∀ item ∈ items, item = .Array [] := by
  unfold AutonomousBatchScope.from_value struct_fields at h
  rcases items with _ | ⟨first, _ | ⟨second, _ | ⟨third, rest⟩⟩⟩
  · obtain rfl := Option.some.inj h
    simp
  · obtain ⟨get_field, hget, h⟩ := Option.bind_eq_some_iff.mp h
    obtain rfl := Option.some.inj hget
    obtain ⟨include_paths, hinclude, h⟩ := Option.bind_eq_some_iff.mp h
    obtain ⟨exclude_paths, hexclude, h⟩ := Option.bind_eq_some_iff.mp h
    obtain rfl := Option.some.inj hexclude
    obtain rfl := Option.some.inj h
    have hfirst := empty_vec first hinclude
    simp [hfirst]
  · obtain ⟨get_field, hget, h⟩ := Option.bind_eq_some_iff.mp h
    obtain rfl := Option.some.inj hget
    obtain ⟨include_paths, hinclude, h⟩ := Option.bind_eq_some_iff.mp h
    obtain ⟨exclude_paths, hexclude, h⟩ := Option.bind_eq_some_iff.mp h
    obtain rfl := Option.some.inj h
    have hfirst := empty_vec first hinclude
    have hsecond := empty_vec second hexclude
    simp [hfirst, hsecond]
  · simp at h

/-- **The scope**: an array in its place is missing to Python, whatever it holds. -/
theorem scope_agree {batch : Args} {scope : Option AutonomousBatchScope}
    (h : option_field AutonomousBatchScope.from_value (field batch "scope") = some scope) :
    (scope_missing scope).length ≤ (python_scope batch).length
      ∧ (scope_missing scope = python_scope batch
        ↔ ∀ items, field batch "scope" = some (.Array items) → ∀ item ∈ items, item = .Array []) := by
  unfold python_scope
  cases hfield : field batch "scope" with
  | none =>
    rw [hfield] at h
    obtain rfl := Option.some.inj h
    have hget : PolicyToolsServer.get batch "scope" .Null = .Null := by
      unfold PolicyToolsServer.get
      rw [hfield]
      rfl
    rw [hget]
    exact ⟨le_refl _, fun _ items hitems => (nomatch hitems), fun _ => rfl⟩
  | some value =>
    have hget : PolicyToolsServer.get batch "scope" .Null = value := by
      unfold PolicyToolsServer.get
      rw [hfield]
      rfl
    rw [hfield] at h
    rw [hget]
    cases value with
    | Null =>
      obtain rfl := Option.some.inj h
      exact ⟨le_refl _, fun _ items hitems => (nomatch Option.some.inj hitems), fun _ => rfl⟩
    | Object scope_fields =>
      obtain ⟨read, hread, rfl⟩ := Option.map_eq_some_iff.mp h
      obtain ⟨include_paths, hinclude, hread⟩ := Option.bind_eq_some_iff.mp hread
      obtain ⟨exclude_paths, hexclude, hread⟩ := Option.bind_eq_some_iff.mp hread
      obtain rfl := Option.some.inj hread
      have hsame : scope_missing (some ⟨include_paths, exclude_paths⟩)
          = (if list_missing (PolicyToolsServer.get scope_fields "include" .Null) = true
              then ["autonomous_batch.scope.include".toList] else [])
            ++ (if list_missing (PolicyToolsServer.get scope_fields "exclude" .Null) = true
              then ["autonomous_batch.scope.exclude".toList] else []) := by
        rw [missing_default hinclude, missing_default hexclude]
        rfl
      rw [hsame]
      exact ⟨le_refl _, fun _ items hitems => (nomatch Option.some.inj hitems), fun _ => rfl⟩
    | Array items =>
      obtain ⟨read, hread, rfl⟩ := Option.map_eq_some_iff.mp h
      refine ⟨scope_missing_full.1, scope_missing_full.2.trans ((scope_of_array hread).trans ?_)⟩
      constructor
      · intro hall items' hitems
        obtain rfl := Value.Array.inj (Option.some.inj hitems)
        exact hall
      · exact fun hall => hall items rfl
    | _ => exact nomatch h

/-- **The commit policy**: an empty list and a blank text are missing to Python only. -/
theorem policy_agree {batch : Args} {policy : Option Value}
    (h : option_field some (field batch "commit_policy") = some policy) :
    (if policy.isNone = true then ["autonomous_batch.commit_policy".toList] else []).length
        ≤ (if list_missing (PolicyToolsServer.get batch "commit_policy" .Null) = true
          then ["autonomous_batch.commit_policy".toList] else []).length
      ∧ ((if policy.isNone = true then ["autonomous_batch.commit_policy".toList] else [])
          = (if list_missing (PolicyToolsServer.get batch "commit_policy" .Null) = true
            then ["autonomous_batch.commit_policy".toList] else [])
        ↔ ∀ policy, field batch "commit_policy" = some policy → list_missing policy = true →
          policy = .Null) := by
  have hnull : list_missing .Null = true := rfl
  unfold PolicyToolsServer.get
  cases hfield : field batch "commit_policy" with
  | none =>
    rw [hfield] at h
    obtain rfl := Option.some.inj h
    refine ⟨le_refl _, fun _ policy hpolicy => (nomatch hpolicy), fun _ => rfl⟩
  | some value =>
    rw [hfield] at h
    by_cases hvalue : value = .Null
    · subst hvalue
      obtain rfl := Option.some.inj h
      exact ⟨le_refl _, fun _ policy hpolicy _ => (Option.some.inj hpolicy).symm, fun _ => rfl⟩
    · have hsome : policy = some value := by
        cases value with
        | Null => exact absurd rfl hvalue
        | _ => exact (Option.some.inj h).symm
      rw [hsome, Option.getD_some]
      by_cases hmissing : list_missing value = true
      · rw [if_pos hmissing]
        refine ⟨Nat.zero_le _, fun hequal => (nomatch hequal), fun hall => ?_⟩
        exact absurd (hall value rfl hmissing) hvalue
      · rw [if_neg hmissing]
        refine ⟨le_refl _, fun _ policy hpolicy hmiss => ?_, fun _ => rfl⟩
        exact absurd (Option.some.inj hpolicy ▸ hmiss) hmissing

theorem enabled_field {batch : Args} {enabled : Bool}
    (h : default_field false as_bool (field batch "enabled") = some enabled) :
    (PolicyToolsServer.get batch "enabled" .Null).truthy = enabled
      ∧ (field batch "enabled" = some (.Boolean true) ↔ enabled = true) := by
  unfold PolicyToolsServer.get
  cases hfield : field batch "enabled" with
  | none =>
    rw [hfield] at h
    obtain rfl := Option.some.inj h
    exact ⟨rfl, fun hnone => (nomatch hnone), fun hfalse => (nomatch hfalse)⟩
  | some value =>
    rw [hfield] at h
    cases value with
    | Boolean flag =>
      obtain rfl := Option.some.inj h
      refine ⟨rfl, fun hsame => ?_, fun hflag => by rw [hflag]⟩
      exact Value.Boolean.inj (Option.some.inj hsame)
    | _ => exact nomatch h

/-- Two lists that differ in two places, each time one way only. -/
theorem append_places {α : Type} {first scope scope' middle policy policy' : List α}
    (hscope : scope.length ≤ scope'.length) (hpolicy : policy.length ≤ policy'.length) :
    first ++ scope ++ middle ++ policy = first ++ scope' ++ middle ++ policy'
      ↔ scope = scope' ∧ policy = policy' := by
  constructor
  · intro hequal
    have hlength := congrArg List.length hequal
    simp only [List.length_append] at hlength
    obtain ⟨hequal, hpolicy_same⟩ := List.append_inj' hequal (by omega)
    rw [List.append_left_inj, List.append_right_inj] at hequal
    exact ⟨hequal, hpolicy_same⟩
  · rintro ⟨rfl, rfl⟩
    rfl

theorem batch_agree {batch : Option AutonomousBatch}
    (h : option_field AutonomousBatch.from_value (field fields "autonomous_batch") = some batch) :
    optional_batch_missing batch
        = PolicyToolsServer.batch_missing (PolicyToolsServer.get fields "autonomous_batch" .Null)
      ↔ BatchAgrees (field fields "autonomous_batch") := by
  unfold PolicyToolsServer.get
  cases hfield : field fields "autonomous_batch" with
  | none =>
    rw [hfield] at h
    obtain rfl := Option.some.inj h
    exact ⟨fun _ => trivial, fun _ => rfl⟩
  | some value =>
    rw [hfield] at h
    rw [Option.getD_some]
    cases value with
    | Null =>
      obtain rfl := Option.some.inj h
      exact ⟨fun _ => trivial, fun _ => rfl⟩
    | Array items =>
      obtain ⟨read, hread, rfl⟩ := Option.map_eq_some_iff.mp h
      constructor
      · intro hempty other hother
        rw [hread] at hother
        rw [← Option.some.inj hother]
        exact batch_missing_nil.mp hempty
      · exact fun hall => batch_missing_nil.mpr (hall read hread)
    | Object batch_fields =>
      obtain ⟨read, hread, rfl⟩ := Option.map_eq_some_iff.mp h
      obtain ⟨enabled, henabled, hread⟩ := Option.bind_eq_some_iff.mp hread
      obtain ⟨authority, hauthority, hread⟩ := Option.bind_eq_some_iff.mp hread
      obtain ⟨scope, hscope, hread⟩ := Option.bind_eq_some_iff.mp hread
      obtain ⟨stop_conditions, hstop, hread⟩ := Option.bind_eq_some_iff.mp hread
      obtain ⟨policy, hpolicy, hread⟩ := Option.bind_eq_some_iff.mp hread
      obtain rfl := Option.some.inj hread
      obtain ⟨htruthy, hflag⟩ := enabled_field henabled
      unfold PolicyToolsServer.batch_missing BatchAgrees optional_batch_missing batch_missing
      dsimp only
      rw [htruthy, hflag]
      by_cases hon : enabled = true
      · rw [if_pos hon, if_pos hon]
        obtain ⟨hscope_length, hscope_iff⟩ := scope_agree hscope
        obtain ⟨hpolicy_length, hpolicy_iff⟩ := policy_agree hpolicy
        have hchecks : missing_names (PolicyToolsServer.batch_checks batch_fields)
            = missing_text "autonomous_batch.authority" authority
              ++ python_scope batch_fields
              ++ missing_list "autonomous_batch.stop_conditions" stop_conditions
              ++ (if list_missing (PolicyToolsServer.get batch_fields "commit_policy" .Null) = true
                then ["autonomous_batch.commit_policy".toList] else []) := by
          unfold PolicyToolsServer.batch_checks python_scope
          simp only [missing_names_cons, missing_names_nil, missing_option hauthority,
            missing_default hstop, List.append_nil, List.append_assoc]
        rw [hchecks, append_places hscope_length hpolicy_length, hscope_iff, hpolicy_iff]
        simp only [hon, forall_const]
      · rw [if_neg hon, if_neg hon]
        exact ⟨fun _ htrue => absurd htrue hon, fun _ => rfl⟩
    | _ => exact nomatch h

/-! ## plan_before_dispatch -/

def PlanAgrees (args : Args) : Prop :=
  ∀ plan, field args "plan" = some (.Object plan) → BatchAgrees (field plan "autonomous_batch")

theorem strings_injective : Function.Injective strings := by
  intro texts texts' h
  have hvalue : Function.Injective Value.String := fun _ _ => Value.String.inj
  exact hvalue.list_map (Value.Array.inj h)

theorem plan_result_injective : Function.Injective plan_result := by
  intro missing missing' h
  unfold plan_result at h
  simp only [object_cons_inj] at h
  exact strings_injective h.2.1

theorem plan_before_dispatch_agree (hrust : handle_plan_before_dispatch args = some result)
    (hpython : PolicyToolsServer.call to_lowercase to_uppercase repr order .plan_before_dispatch args
      = some answer) : answer = result ↔ PlanAgrees args := by
  obtain ⟨plan, hplan, hrust⟩ := Option.bind_eq_some_iff.mp hrust
  obtain rfl := Option.some.inj hrust
  obtain ⟨value, hvalue, hpython⟩ := Option.bind_eq_some_iff.mp hpython
  cases value with
  | Object fields =>
    rw [hvalue, Option.getD_some] at hplan
    obtain ⟨objective, hobjective, hplan⟩ := Option.bind_eq_some_iff.mp hplan
    obtain ⟨steps, hsteps, hplan⟩ := Option.bind_eq_some_iff.mp hplan
    obtain ⟨files_affected, hfiles, hplan⟩ := Option.bind_eq_some_iff.mp hplan
    obtain ⟨risks, hrisks, hplan⟩ := Option.bind_eq_some_iff.mp hplan
    obtain ⟨acceptance_criteria, hacceptance, hplan⟩ := Option.bind_eq_some_iff.mp hplan
    obtain ⟨batch, hbatch, hplan⟩ := Option.bind_eq_some_iff.mp hplan
    obtain rfl := Option.some.inj hplan
    obtain rfl := Option.some.inj hpython
    have hnames : missing_names (PolicyToolsServer.REQUIRED_PLAN_FIELDS.map fun field =>
          (field, PolicyToolsServer.get fields field .Null))
        = missing_text "objective" objective ++ missing_list "steps" steps
          ++ missing_list "files_affected" files_affected ++ missing_list "risks" risks
          ++ missing_list "acceptance_criteria" acceptance_criteria := by
      unfold PolicyToolsServer.REQUIRED_PLAN_FIELDS
      simp only [List.map_cons, List.map_nil, missing_names_cons, missing_names_nil,
        missing_option hobjective, missing_default hsteps, missing_default hfiles,
        missing_default hrisks, missing_default hacceptance, List.append_nil, List.append_assoc]
    have hagree := batch_agree hbatch
    unfold PlanAgrees
    rw [plan_result_injective.eq_iff, hnames]
    unfold plan_missing
    dsimp only
    rw [List.append_right_inj, eq_comm, hagree]
    constructor
    · intro hcond plan hplan
      rw [hvalue] at hplan
      obtain rfl := Value.Object.inj (Option.some.inj hplan)
      exact hcond
    · exact fun hall => hall fields hvalue
  | _ => exact nomatch hpython

/-! ## dispatch_blocker_check -/

/-- The optional texts under some names, as they are read. -/
theorem required_read {names : List String} {required : List (String × Option Text)}
    (h : (names.mapM fun name => (option_field Value.as_str (field args name)).map fun value =>
      (name, value)) = some required) :
    required = names.map (fun name => (name, (field args name).bind Value.as_str))
      ∧ ∀ name ∈ names, option_field Value.as_str (field args name)
        = some ((field args name).bind Value.as_str) := by
  induction names generalizing required with
  | nil =>
    obtain rfl := Option.some.inj h
    exact ⟨rfl, by simp⟩
  | cons name names ih =>
    rw [List.mapM_cons] at h
    obtain ⟨first, hfirst, h⟩ := Option.bind_eq_some_iff.mp h
    obtain ⟨rest, hrest, h⟩ := Option.bind_eq_some_iff.mp h
    obtain rfl := Option.some.inj h
    obtain ⟨value, hvalue, rfl⟩ := Option.map_eq_some_iff.mp hfirst
    obtain ⟨rfl, hall⟩ := ih hrest
    have hread : value = (field args name).bind Value.as_str := by
      cases hfield : field args name with
      | none =>
        rw [hfield] at hvalue
        exact (Option.some.inj hvalue).symm
      | some given =>
        rw [hfield] at hvalue
        cases given with
        | Null => exact (Option.some.inj hvalue).symm
        | String s => exact (Option.some.inj hvalue).symm
        | _ => exact nomatch hvalue
    subst hread
    exact ⟨rfl, List.forall_mem_cons.mpr ⟨hvalue, hall⟩⟩

theorem blank_same {found : Option Text}
    (h : option_field Value.as_str (field args key) = some found) :
    PolicyToolsServer.blank_value (PolicyToolsServer.get args key .Null) = blank_field found := by
  unfold PolicyToolsServer.blank_value blank_field
  rcases option_text h with ⟨hget, rfl⟩ | ⟨s, hget, rfl⟩
  · rw [hget]
    rfl
  · rw [hget]
    by_cases hempty : s = []
    · rw [hempty]
      rfl
    · rw [truthy_string.mpr hempty]
      rfl

theorem placeholder_same {found : Option Text}
    (h : option_field Value.as_str (field args key) = some found) (hblank : blank_field found = false) :
    PolicyToolsServer.has_placeholder to_uppercase (PolicyToolsServer.get args key .Null)
      = decide (is_placeholder to_uppercase (found.getD [])) := by
  rcases option_text h with ⟨hget, rfl⟩ | ⟨s, hget, rfl⟩
  · exact nomatch hblank
  · rw [hget]
    rfl

/-- The two put the note on `stop_if_missing` in front of the same parts. -/
theorem fail_reason_same (stop : Bool) (missing placeholder : List Text) :
    PolicyToolsServer.fail_reason stop missing placeholder = fail_reason stop missing placeholder := by
  unfold PolicyToolsServer.fail_reason fail_reason
  cases stop
  · rfl
  · rw [List.append_assoc]
    rfl

/-- **The two dispatch blockers agree.** -/
theorem dispatch_blocker_agree (hrust : handle_dispatch_blocker_check to_uppercase args = some result) :
    PolicyToolsServer.call to_lowercase to_uppercase repr order .dispatch_blocker_check args
      = some result := by
  obtain ⟨input, hinput, rfl⟩ := Option.map_eq_some_iff.mp hrust
  obtain ⟨required, hrequired, hinput⟩ := Option.bind_eq_some_iff.mp hinput
  obtain ⟨writable_scope, hscope, hinput⟩ := Option.bind_eq_some_iff.mp hinput
  obtain ⟨stop_if_missing, hstop, hinput⟩ := Option.bind_eq_some_iff.mp hinput
  obtain rfl := Option.some.inj hinput
  obtain ⟨rfl, hread⟩ := required_read hrequired
  have hmissing : ((required_fields.map fun name =>
        (name, PolicyToolsServer.get args name .Null)).filter fun entry =>
          PolicyToolsServer.blank_value entry.2).map (fun entry => entry.1.toList)
      = ((required_fields.map fun name => (name, (field args name).bind Value.as_str)).filter
          fun entry => blank_field entry.2).map fun entry => entry.1.toList := by
    rw [List.filter_map, List.filter_map, List.map_map, List.map_map]
    refine congrArg _ (List.filter_congr fun name hname => ?_)
    exact blank_same (hread name hname)
  have hplaceholder : ((required_fields.map fun name =>
        (name, PolicyToolsServer.get args name .Null)).filter fun entry =>
          !PolicyToolsServer.blank_value entry.2
            && PolicyToolsServer.has_placeholder to_uppercase entry.2).map
          (fun entry => entry.1.toList)
      = ((required_fields.map fun name => (name, (field args name).bind Value.as_str)).filter
          fun entry => !blank_field entry.2
            && decide (is_placeholder to_uppercase (entry.2.getD []))).map
          fun entry => entry.1.toList := by
    rw [List.filter_map, List.filter_map, List.map_map, List.map_map]
    refine congrArg _ (List.filter_congr fun name hname => ?_)
    dsimp only [Function.comp_apply]
    rw [blank_same (hread name hname)]
    cases hblank : blank_field ((field args name).bind Value.as_str) with
    | true => rfl
    | false => rw [placeholder_same (hread name hname) hblank]
  have hwritable : (if (PolicyToolsServer.get args "writable_scope" .Null).truthy = true then []
      else ["writable_scope".toList]) = if writable_scope = [] then ["writable_scope".toList] else [] := by
    unfold PolicyToolsServer.get
    rcases default_strings hscope with ⟨hnone, rfl⟩ | hsome
    · rw [hnone]
      rfl
    · rw [hsome, Option.getD_some]
      by_cases hempty : writable_scope = []
      · rw [if_neg (fun htruthy => truthy_strings.mp htruthy hempty), if_pos hempty]
      · rw [if_pos (truthy_strings.mpr hempty), if_neg hempty]
  have hflag : (PolicyToolsServer.get args "stop_if_missing" (.Boolean true)).truthy = stop_if_missing := by
    unfold PolicyToolsServer.get
    cases hfield : field args "stop_if_missing" with
    | none =>
      rw [hfield] at hstop
      exact Option.some.inj hstop
    | some value =>
      rw [hfield] at hstop
      cases value with
      | Boolean flag => exact Option.some.inj hstop
      | _ => exact nomatch hstop
  unfold PolicyToolsServer.call PolicyToolsServer.dispatch_blocker_check dispatch_blocker_check
  dsimp only
  rw [hmissing, hplaceholder, hwritable, hflag, fail_reason_same]
  unfold blocker_result
  simp only [no_length]

/-! ## The ten tools -/

/-- **The condition under which the two gates decide alike.** -/
def Agrees (to_lowercase to_uppercase : Text → Text) (args : Args) : Tool → Prop
  | .sati_check =>
    text_arg args "context" ≠ [] → trim is_whitespace (text_arg args "context") ≠ []
  | .temporal_gate => True
  | .support_disclose => SupportAgrees args
  | .claim_tag => ClaimTagAgrees to_lowercase args
  | .drift_check => DriftAgrees to_lowercase args
  | .scamper_fill => True
  | .business_gate => BusinessAgrees to_lowercase args
  | .pre_change_notice => NoticeAgrees to_lowercase to_uppercase args
  | .plan_before_dispatch => PlanAgrees args
  | .dispatch_blocker_check => True

/-- The result of Rust is the one of Python, for some order of the trigger keywords. -/
def SameResult (to_lowercase to_uppercase : Text → Text) (repr : Value → Text) (tool : Tool)
    (args : Args) (result : Value) : Prop :=
  ∃ order, order.Perm TEMPORAL_KEYWORDS
    ∧ PolicyToolsServer.call to_lowercase to_uppercase repr order tool args = some result

/-- Only the temporal gate looks at the order. -/
theorem call_order {order' : List Text} {tool : Tool} (h : tool ≠ .temporal_gate) :
    PolicyToolsServer.call to_lowercase to_uppercase repr order tool args
      = PolicyToolsServer.call to_lowercase to_uppercase repr order' tool args := by
  cases tool with
  | temporal_gate => exact absurd rfl h
  | _ => rfl

theorem same_result_iff {tool : Tool} (h : tool ≠ .temporal_gate)
    (hpython : PolicyToolsServer.call to_lowercase to_uppercase repr order tool args = some answer) :
    SameResult to_lowercase to_uppercase repr tool args result ↔ answer = result := by
  constructor
  · rintro ⟨order', -, hcall⟩
    rw [call_order h, hpython] at hcall
    exact Option.some.inj hcall
  · rintro rfl
    refine ⟨TEMPORAL_KEYWORDS, List.Perm.refl _, ?_⟩
    rw [call_order h, hpython]

def ascii_lower : Text → Text := List.map Char.toLower

def ascii_upper : Text → Text := List.map Char.toUpper

theorem ascii_lower_case : LowerCase ascii_lower where
  plain _ _ := rfl
  blank s c t hc := by
    have hkept : c.toLower = c := by
      unfold is_whitespace at hc
      simp only [Bool.or_eq_true, Bool.and_eq_true, decide_eq_true_eq, beq_iff_eq] at hc
      unfold Char.toLower
      split_ifs with hupper
      · have hfrom : 65 ≤ c.toNat := UInt32.le_iff_toNat_le.mp hupper.1
        have hto : c.toNat ≤ 90 := UInt32.le_iff_toNat_le.mp hupper.2
        omega
      · rfl
    unfold ascii_lower
    rw [List.map_append, List.map_cons, hkept]

theorem ascii_upper_case : UpperCase ascii_upper where
  plain _ _ := rfl

/-- A domain with white space around it. -/
def sample_domain : Args :=
  [("recommendation".toList, text "improve lead response"), ("domain".toList, text " lead "),
    ("bottleneck_evidence".toList, text "conversion log")]

/-- Evidence that is one text. -/
def sample_evidence : Args :=
  [("claim".toList, text "Engineer ready"), ("evidence_items".toList, text "log")]

/-- A batch with an empty commit policy. -/
def sample_batch : Args :=
  [("plan".toList, object [
    ("objective", text "audit"),
    ("steps", strings ["inspect".toList]),
    ("files_affected", strings ["docs/spec.md".toList]),
    ("risks", strings ["drift".toList]),
    ("acceptance_criteria", strings ["tests pass".toList]),
    ("autonomous_batch", object [
      ("enabled", .Boolean true),
      ("authority", text "owner"),
      ("scope", object [("include", strings ["docs".toList]), ("exclude", strings [".env".toList])]),
      ("stop_conditions", strings ["verification fails".toList]),
      ("commit_policy", .Array [])])])]

/-- What an answer decides under a key. -/
def decision (key : String) : Option Value → Option Bool
  | some (.Object fields) => (field fields key).bind as_bool
  | _ => none

theorem not_same_of_decision {tool : Tool} (key : String) (order : List Text) (htool : tool ≠ .temporal_gate)
    (hrust : call to_lowercase to_uppercase tool args = some result)
    (h : decision key (call to_lowercase to_uppercase tool args)
      ≠ decision key (PolicyToolsServer.call to_lowercase to_uppercase repr order tool args)) :
    ¬ SameResult to_lowercase to_uppercase repr tool args result := by
  rintro ⟨order', -, hcall⟩
  rw [call_order htool, hcall, hrust] at h
  exact h rfl

end PolicyTools

end OvcaCore

/-
Where the gates of the second and third tier agree, and the ten tools together.

An argument that Rust reads into a type is the value that it was read from (`vec_string_eq`,
`option_field_eq`), so two gates differ only in what they do with it: in white space, in what
they repeat of an argument, and in what counts as missing.
-/
import OvcaCore.DriftParity

set_option autoImplicit false

namespace OvcaCore

open OvcaCore.Texts

namespace PolicyTools

variable {to_lowercase to_uppercase : Text → Text} {repr : Value → Text} {order : List Text}
  {args : Args} {result answer value : Value} {s t : Text} {key : String} {texts : List Text}

/-! ## What is read is what was given -/

theorem mapM_as_str {items : List Value} (h : items.mapM Value.as_str = some texts) :
    items = texts.map .String := by
  induction items generalizing texts with
  | nil =>
    obtain rfl := Option.some.inj h
    rfl
  | cons item items ih =>
    rw [List.mapM_cons] at h
    obtain ⟨first, hfirst, h⟩ := Option.bind_eq_some_iff.mp h
    obtain ⟨rest, hrest, h⟩ := Option.bind_eq_some_iff.mp h
    obtain rfl := Option.some.inj h
    rw [as_str_eq_some.mp hfirst, ih hrest]
    rfl

theorem vec_string_eq (h : vec_string value = some texts) : value = strings texts := by
  obtain ⟨items, hitems, h⟩ := Option.bind_eq_some_iff.mp h
  cases value with
  | Array values =>
    obtain rfl := Option.some.inj hitems
    exact congrArg Value.Array (mapM_as_str h)
  | _ => exact nomatch hitems

theorem truthy_strings : (strings texts).truthy = true ↔ texts ≠ [] := by
  cases texts <;> simp [strings, Value.truthy]

theorem or_empty_strings : PolicyToolsServer.or_empty (strings texts) = strings texts := by
  unfold PolicyToolsServer.or_empty
  by_cases htruthy : (strings texts).truthy = true
  · rw [if_pos htruthy]
  · rw [if_neg htruthy]
    rw [truthy_strings, not_not] at htruthy
    rw [htruthy]
    rfl

theorem field_strings (h : (field args key).bind vec_string = some texts) :
    field args key = some (strings texts) := by
  obtain ⟨value, hvalue, h⟩ := Option.bind_eq_some_iff.mp h
  rw [hvalue, vec_string_eq h]

/-- A list that is absent is read as an empty one. -/
theorem default_strings (h : default_field [] vec_string (field args key) = some texts) :
    (field args key = none ∧ texts = []) ∨ field args key = some (strings texts) := by
  cases hfield : field args key with
  | none =>
    rw [hfield] at h
    exact .inl ⟨rfl, (Option.some.inj h).symm⟩
  | some value =>
    rw [hfield] at h
    exact .inr (congrArg some (vec_string_eq h))

theorem or_empty_default (h : default_field [] vec_string (field args key) = some texts) :
    PolicyToolsServer.or_empty (PolicyToolsServer.get args key .Null) = strings texts := by
  unfold PolicyToolsServer.get
  rcases default_strings h with ⟨hnone, rfl⟩ | hsome
  · rw [hnone]
    rfl
  · rw [hsome]
    exact or_empty_strings

/-- An optional text is a text, null, or absent. -/
theorem option_text {found : Option Text} (h : option_field Value.as_str (field args key) = some found) :
    (PolicyToolsServer.get args key .Null = .Null ∧ found = none)
      ∨ ∃ s, PolicyToolsServer.get args key .Null = .String s ∧ found = some s := by
  unfold PolicyToolsServer.get
  cases hfield : field args key with
  | none =>
    rw [hfield] at h
    exact .inl ⟨rfl, (Option.some.inj h).symm⟩
  | some value =>
    rw [hfield] at h
    cases value with
    | Null => exact .inl ⟨rfl, (Option.some.inj h).symm⟩
    | String s => exact .inr ⟨s, rfl, (Option.some.inj h).symm⟩
    | _ => exact nomatch h

theorem no_length (texts : List Text) : decide (texts.length = 0) = texts.isEmpty := by
  cases texts <;> rfl

/-! ## scamper_fill -/

/-- **The two SCAMPER gates agree.** -/
theorem scamper_fill_agree (hrust : handle_scamper_fill args = some result) :
    PolicyToolsServer.call to_lowercase to_uppercase repr order .scamper_fill args = some result := by
  obtain ⟨input, hinput, hrust⟩ := Option.bind_eq_some_iff.mp hrust
  obtain rfl := Option.some.inj hrust
  obtain ⟨base_object, hbase, hinput⟩ := Option.bind_eq_some_iff.mp hinput
  obtain ⟨target, htarget, hinput⟩ := Option.bind_eq_some_iff.mp hinput
  obtain ⟨eliminate, heliminate, hinput⟩ := Option.bind_eq_some_iff.mp hinput
  obtain ⟨reverse, hreverse, hinput⟩ := Option.bind_eq_some_iff.mp hinput
  obtain ⟨blind_spot, hblind, hinput⟩ := Option.bind_eq_some_iff.mp hinput
  obtain ⟨experiment, hexperiment, hinput⟩ := Option.bind_eq_some_iff.mp hinput
  obtain ⟨substitute, hsubstitute, hinput⟩ := Option.bind_eq_some_iff.mp hinput
  obtain ⟨combine, hcombine, hinput⟩ := Option.bind_eq_some_iff.mp hinput
  obtain ⟨adapt, hadapt, hinput⟩ := Option.bind_eq_some_iff.mp hinput
  obtain ⟨modify, hmodify, hinput⟩ := Option.bind_eq_some_iff.mp hinput
  obtain ⟨put_to_other_use, hput, hinput⟩ := Option.bind_eq_some_iff.mp hinput
  obtain ⟨guardrail, hguardrail, hinput⟩ := Option.bind_eq_some_iff.mp hinput
  obtain rfl := Option.some.inj hinput
  have hguard : PolicyToolsServer.get args "guardrail" (.String []) = .String guardrail := by
    unfold PolicyToolsServer.get
    cases hfield : field args "guardrail" with
    | none =>
      rw [hfield] at hguardrail
      rw [← Option.some.inj hguardrail]
      rfl
    | some value =>
      rw [hfield] at hguardrail
      exact as_str_eq_some.mp hguardrail
  have hmissing : ∀ (texts : List Text) (name : Text),
      (if (strings texts).truthy = true then [] else [name]) = if texts = [] then [name] else [] := by
    intro texts name
    by_cases hempty : texts = []
    · rw [if_neg (fun htruthy => truthy_strings.mp htruthy hempty), if_pos hempty]
    · rw [if_pos (truthy_strings.mpr hempty), if_neg hempty]
  unfold PolicyToolsServer.call
  dsimp only
  rw [field_string hbase, field_string htarget, field_strings heliminate, field_strings hreverse,
    field_string hblind, field_string hexperiment, hguard]
  dsimp only [Option.bind_eq_bind, Option.bind_some]
  unfold PolicyToolsServer.scamper_fill
  rw [strip_string, strip_string, or_empty_default hsubstitute, or_empty_default hcombine,
    or_empty_default hadapt, or_empty_default hmodify, or_empty_default hput, hmissing, hmissing]
  dsimp only [Option.bind_eq_bind, Option.bind_some, Option.pure_def]
  unfold scamper_missing
  dsimp only
  refine congrArg some ?_
  simp only [object_cons_inj, true_and, and_true, Value.Boolean.injEq]
  exact no_length _

/-! ## pre_change_notice -/

def ACTIONS : List Text := ["create", "edit", "delete", "move", "overwrite"].map String.toList

/-- Where the approval is shown alike, and the action is shown in the same upper case. -/
def NoticeAgrees (to_lowercase to_uppercase : Text → Text) (args : Args) : Prop :=
  let action_type := trim is_whitespace (text_arg args "action_type")
  let action := to_lowercase action_type
  (action ∈ PolicyToolsServer.DESTRUCTIVE_ACTIONS →
    trim is_whitespace (text_arg args "reason") ≠ []
      ∧ trim is_whitespace (text_arg args "expected_outcome") ≠ []
      ∧ trim is_whitespace (text_arg args "risk_or_rollback") ≠ [])
  ∧ (action ∈ ACTIONS ∨ to_uppercase action = to_uppercase action_type)

theorem notice_missing_nil {reason outcome risk : Text} :
    (notice_missing reason outcome risk).isEmpty = true ↔ reason ≠ [] ∧ outcome ≠ [] ∧ risk ≠ [] := by
  unfold notice_missing
  by_cases hreason : reason = [] <;> by_cases houtcome : outcome = [] <;> by_cases hrisk : risk = [] <;>
    simp [hreason, houtcome, hrisk]

/-- The label and the kind of a known action. -/
theorem action_of_word : ∀ word ∈ ACTIONS,
    (∀ c ∈ word, keyword_char c = true)
      ∧ (ActionType.from_str id word).map ActionType.as_str = some (word.map Char.toUpper)
      ∧ (ActionType.from_str id word).map ActionType.is_destructive
        = some (decide (word ∈ PolicyToolsServer.DESTRUCTIVE_ACTIONS)) := by
  decide

theorem action_of_other {word : Text} (h : word ∉ ACTIONS) : ActionType.from_str id word = none := by
  unfold ACTIONS at h
  simp only [List.map_cons, List.map_nil, List.mem_cons, List.not_mem_nil, or_false, not_or] at h
  obtain ⟨hcreate, hedit, hdelete, hmove, hoverwrite⟩ := h
  unfold ActionType.from_str
  dsimp only [id]
  rw [if_neg hcreate, if_neg hedit, if_neg hdelete, if_neg hmove, if_neg hoverwrite]

theorem destructive_known : ∀ word ∈ PolicyToolsServer.DESTRUCTIVE_ACTIONS, word ∈ ACTIONS := by
  decide

theorem text_arg_of (h : (field args key).bind Value.as_str = some s) : text_arg args key = s := by
  unfold text_arg
  rw [h]
  rfl

theorem approval_display_ne (display : Text) : approval_display display ≠ display := by
  intro hsame
  have hlength := congrArg List.length hsame
  unfold approval_display at hlength
  rw [List.length_append, List.length_append] at hlength
  have hmark : 0 < "⛔ ".toList.length := by decide
  omega

theorem notice_display_label {label label' file_path reason outcome risk : Text} :
    notice_display label file_path reason outcome risk
        = notice_display label' file_path reason outcome risk ↔ label = label' := by
  unfold notice_display
  simp only [List.append_left_inj, List.append_right_inj]

theorem pre_change_notice_agree (hupper : UpperCase to_uppercase)
    (hrust : handle_pre_change_notice to_lowercase to_uppercase args = some result)
    (hpython : PolicyToolsServer.call to_lowercase to_uppercase repr order .pre_change_notice args
      = some answer) : answer = result ↔ NoticeAgrees to_lowercase to_uppercase args := by
  obtain ⟨action_type, haction, hrust⟩ := Option.bind_eq_some_iff.mp hrust
  obtain ⟨file_path, hpath, hrust⟩ := Option.bind_eq_some_iff.mp hrust
  obtain ⟨reason, hreason, hrust⟩ := Option.bind_eq_some_iff.mp hrust
  obtain ⟨outcome, houtcome, hrust⟩ := Option.bind_eq_some_iff.mp hrust
  obtain ⟨risk, hrisk, hrust⟩ := Option.bind_eq_some_iff.mp hrust
  replace hrust := Option.some.inj hrust
  unfold PolicyToolsServer.call at hpython
  dsimp only at hpython
  rw [field_string haction, field_string hpath, field_string hreason, field_string houtcome,
    field_string hrisk] at hpython
  replace hpython := Option.some.inj hpython
  unfold NoticeAgrees
  dsimp only
  rw [text_arg_of haction, text_arg_of hreason, text_arg_of houtcome, text_arg_of hrisk,
    ← notice_missing_nil, ← hpython, ← hrust]
  unfold pre_change_notice
  dsimp only
  simp only [object_cons_inj, true_and, and_true, Value.String.injEq, Value.Boolean.injEq, no_length]
  have hfrom : ActionType.from_str to_lowercase (trim is_whitespace action_type)
      = ActionType.from_str id (to_lowercase (trim is_whitespace action_type)) := rfl
  rw [hfrom]
  generalize to_lowercase (trim is_whitespace action_type) = word
  generalize (notice_missing (trim is_whitespace reason) (trim is_whitespace outcome)
    (trim is_whitespace risk)).isEmpty = valid
  by_cases hknown : word ∈ ACTIONS
  · obtain ⟨hchars, hlabel, hkind⟩ := action_of_word word hknown
    rw [hlabel, hkind, hupper.plain word hchars]
    by_cases hdestructive : word ∈ PolicyToolsServer.DESTRUCTIVE_ACTIONS
    · cases valid <;> simp [hdestructive, hknown, approval_display_ne]
    · simp [hdestructive, hknown]
  · have hnone : word ∉ PolicyToolsServer.DESTRUCTIVE_ACTIONS := fun hin =>
      hknown (destructive_known word hin)
    rw [action_of_other hknown]
    simp [hnone, hknown, notice_display_label]

/-! ## business_gate -/

def domain_arg (args : Args) : Text := ((field args "domain").bind Value.as_str).getD "other".toList

/-- An argument that Python repeats as Rust reads it. -/
def evidence_kept : Option Value → Prop
  | none => True
  | some .Null => True
  | some (.String e) => e ≠ [] ∧ trim is_whitespace e = e
  | some _ => False

/-- Where the evidence is repeated alike, and a known domain is written as it is compared. -/
def BusinessAgrees (to_lowercase : Text → Text) (args : Args) : Prop :=
  let domain := domain_arg args
  evidence_kept (field args "bottleneck_evidence")
  ∧ (to_lowercase (trim is_whitespace domain) ∈ PolicyToolsServer.BOTTLENECK_AREAS →
    trim is_whitespace domain = domain
      ∧ ((field args "bottleneck_evidence").bind Value.as_str = none → to_lowercase domain = domain))

theorem evidence_kept_iff :
    PolicyToolsServer.get args key .Null = optional_text (non_blank ((field args key).bind Value.as_str))
      ↔ evidence_kept (field args key) := by
  unfold PolicyToolsServer.get evidence_kept
  cases hfield : field args key with
  | none => exact ⟨fun _ => trivial, fun _ => rfl⟩
  | some value =>
    cases value with
    | Null => exact ⟨fun _ => trivial, fun _ => rfl⟩
    | String e =>
      dsimp only [Option.getD_some, Option.bind_some, Value.as_str]
      rw [non_blank_some]
      by_cases hblank : trim is_whitespace e = []
      · rw [if_pos hblank]
        refine ⟨fun hequal => (nomatch hequal), fun hkept => ?_⟩
        exact absurd (hkept.2.symm.trans hblank) hkept.1
      · rw [if_neg hblank]
        unfold optional_text
        dsimp only
        rw [Value.String.injEq]
        refine ⟨fun hequal => ⟨fun hempty => hblank ?_, hequal.symm⟩, fun hkept => hkept.2.symm⟩
        rw [← hequal, hempty]
    | _ => exact ⟨fun hequal => (nomatch hequal), fun hkept => hkept.elim⟩

theorem non_blank_none (h : evidence_kept (field args key)) :
    non_blank ((field args key).bind Value.as_str) = none
      ↔ (field args key).bind Value.as_str = none := by
  cases hfield : field args key with
  | none => exact ⟨fun _ => rfl, fun _ => rfl⟩
  | some value =>
    rw [hfield] at h
    cases value with
    | String e =>
      have hne : trim is_whitespace e ≠ [] := by
        rw [h.2]
        exact h.1
      rw [Option.bind_some]
      change non_blank (some e) = none ↔ some e = none
      rw [non_blank_some, if_neg hne]
      exact ⟨fun hnone => (nomatch hnone), fun hnone => (nomatch hnone)⟩
    | _ => exact ⟨fun _ => rfl, fun _ => rfl⟩

/-- The areas in both languages: the word, the name and what is measured. -/
theorem area_of_word : ∀ word ∈ PolicyToolsServer.BOTTLENECK_AREAS,
    (∀ c ∈ word, is_whitespace c = false) ∧ word ≠ "unknown".toList
      ∧ BottleneckArea.from_str id word ≠ .Unknown
      ∧ (∀ c ∈ "metric ที่วัดผล ".toList ++ (BottleneckArea.from_str id word).debug,
        keyword_char c = true)
      ∧ ("metric ที่วัดผล ".toList ++ (BottleneckArea.from_str id word).debug).map Char.toLower
        = "metric ที่วัดผล ".toList ++ word := by
  decide

theorem area_name_of_word : ∀ word ∈ PolicyToolsServer.BOTTLENECK_AREAS,
    bottleneck_area_name (BottleneckArea.from_str id word) = .String word := by
  simp only [PolicyToolsServer.BOTTLENECK_AREAS, List.map_cons, List.map_nil, List.forall_mem_cons]
  exact ⟨rfl, rfl, rfl, rfl, List.forall_mem_nil _⟩

theorem area_of_other {word : Text} (h : word ∉ PolicyToolsServer.BOTTLENECK_AREAS) :
    BottleneckArea.from_str id word = .Unknown := by
  unfold PolicyToolsServer.BOTTLENECK_AREAS at h
  simp only [List.map_cons, List.map_nil, List.mem_cons, List.not_mem_nil, or_false, not_or] at h
  obtain ⟨hlead, hsales, hdelivery, hprofit⟩ := h
  unfold BottleneckArea.from_str
  dsimp only [id]
  rw [if_neg hlead, if_neg hsales, if_neg hdelivery, if_neg hprofit]

/-- A domain that is known as it stands has no white space around it. -/
theorem trim_of_known (h : LowerCase to_lowercase) {domain : Text}
    (hknown : to_lowercase domain ∈ PolicyToolsServer.BOTTLENECK_AREAS) :
    trim is_whitespace domain = domain := by
  obtain ⟨lead, trail, hparts, hlead, htrail, -⟩ := trim_parts domain
  have hlower : to_lowercase domain
      = lead ++ (to_lowercase (trim is_whitespace domain) ++ trail) := by
    conv_lhs => rw [hparts]
    rw [List.append_assoc, lower_blank_append h hlead, lower_append_blank h htrail]
  have hword := (area_of_word _ hknown).1
  rw [hlower] at hword
  have hnone : ∀ blanks : Text, (∀ c ∈ blanks, is_whitespace c = true) →
      (∀ c ∈ blanks, is_whitespace c = false) → blanks = [] := by
    intro blanks hblank hkept
    refine List.eq_nil_iff_forall_not_mem.mpr fun c hc => ?_
    have htrue := hblank c hc
    rw [hkept c hc] at htrue
    exact Bool.false_ne_true htrue
  have hlead_nil := hnone lead hlead fun c hc => hword c (List.mem_append_left _ hc)
  have htrail_nil := hnone trail htrail fun c hc =>
    hword c (List.mem_append_right _ (List.mem_append_right _ hc))
  rw [hlead_nil, htrail_nil, List.nil_append, List.append_nil] at hparts
  exact hparts.symm

theorem get_domain {found : Text}
    (h : PolicyToolsServer.strip (PolicyToolsServer.get args "domain" (text "other")) = some found) :
    found = trim is_whitespace (domain_arg args) := by
  obtain ⟨domain, hdomain, rfl⟩ := Option.map_eq_some_iff.mp h
  unfold PolicyToolsServer.get at hdomain
  unfold domain_arg
  cases hfield : field args "domain" with
  | none =>
    rw [hfield] at hdomain
    rw [← Option.some.inj hdomain]
    rfl
  | some value =>
    rw [hfield] at hdomain
    have hvalue : value.as_str = some domain := hdomain
    rw [Option.bind_some, hvalue]
    rfl

theorem business_gate_agree (hlower : LowerCase to_lowercase)
    (hrust : handle_business_gate to_lowercase args = some result)
    (hpython : PolicyToolsServer.call to_lowercase to_uppercase repr order .business_gate args
      = some answer) : answer = result ↔ BusinessAgrees to_lowercase args := by
  unfold PolicyToolsServer.call at hpython
  dsimp only at hpython
  obtain ⟨recommendation, hfield, hpython⟩ := Option.bind_eq_some_iff.mp hpython
  obtain ⟨stripped, hstripped, hpython⟩ := Option.bind_eq_some_iff.mp hpython
  obtain ⟨domain, hdomain, hpython⟩ := Option.bind_eq_some_iff.mp hpython
  obtain ⟨evidence, hevidence, hpython⟩ := Option.bind_eq_some_iff.mp hpython
  replace hpython := Option.some.inj hpython
  obtain rfl := get_domain hdomain
  obtain ⟨raw, hraw, rfl⟩ := Option.map_eq_some_iff.mp hstripped
  have hrecommendation : text_arg args "recommendation" = raw :=
    text_arg_of (by rw [hfield, Option.bind_some, hraw])
  have hevidence := stripped_get hevidence rfl
  unfold handle_business_gate at hrust
  dsimp only at hrust
  rw [hrecommendation] at hrust
  by_cases hblank : trim is_whitespace raw = []
  · rw [if_pos hblank] at hrust
    exact nomatch hrust
  rw [if_neg hblank] at hrust
  replace hrust := Option.some.inj hrust
  have hdomain_arg : ((field args "domain").bind Value.as_str).getD "other".toList
      = domain_arg args := rfl
  rw [hdomain_arg] at hrust
  unfold BusinessAgrees
  dsimp only
  rw [← hpython, ← hrust, hevidence]
  unfold business_gate
  dsimp only
  have hfrom : BottleneckArea.from_str to_lowercase (domain_arg args)
      = BottleneckArea.from_str id (to_lowercase (domain_arg args)) := rfl
  rw [hfrom]
  simp only [object_cons_inj, and_true, evidence_kept_iff, optional_text_injective.eq_iff,
    Value.Boolean.injEq]
  by_cases hknown : to_lowercase (trim is_whitespace (domain_arg args))
      ∈ PolicyToolsServer.BOTTLENECK_AREAS
  · by_cases htrim : trim is_whitespace (domain_arg args) = domain_arg args
    · rw [htrim] at hknown ⊢
      obtain ⟨-, hword, harea, hchars, hmeasure⟩ := area_of_word _ hknown
      rw [if_pos hknown, area_name_of_word _ hknown, decide_eq_true hword, decide_eq_true harea,
        hlower.plain _ hchars, hmeasure]
      simp only [hknown, true_and, Bool.and_true, forall_const]
      refine and_congr_right fun hkept => ?_
      rw [← non_blank_none hkept]
      cases non_blank ((field args "bottleneck_evidence").bind Value.as_str) with
      | some e => simp [kpi_anchor_value, text]
      | none =>
        simp only [Option.isSome_none, Bool.false_eq_true, if_false, kpi_anchor_value, true_and,
          forall_const]
        rw [if_neg hword, if_neg harea, Option.some_inj, List.append_left_inj,
          List.append_right_inj]
    · have hother : to_lowercase (domain_arg args) ∉ PolicyToolsServer.BOTTLENECK_AREAS := fun hin =>
        htrim (trim_of_known hlower hin)
      have hword := (area_of_word _ hknown).2.1
      rw [if_pos hknown, area_of_other hother]
      constructor
      · intro hequal
        exact absurd (Value.String.inj hequal.2.1) hword
      · intro hcond
        exact absurd (hcond.2 hknown).1 htrim
  · have hother : to_lowercase (domain_arg args) ∉ PolicyToolsServer.BOTTLENECK_AREAS := by
      intro hin
      rw [trim_of_known hlower hin] at hknown
      exact hknown hin
    rw [if_neg hknown, area_of_other hother]
    simp [hknown, kpi_anchor_value, bottleneck_area_name, text]

end PolicyTools

end OvcaCore

/-
Where the two policy gates decide alike.

For each tool: when the Rust handler answers and the Python function accepts, the two results
are equal exactly under a condition on the arguments (`gates_agree_iff`). Three tools always
agree; the others differ in where they trim, in a keyword, in what they repeat of an argument
and in what counts as missing.
-/
import OvcaCore.PolicyToolsServer

set_option autoImplicit false

namespace OvcaCore

open OvcaCore.Texts

namespace PolicyTools

variable {to_lowercase to_uppercase : Text → Text} {repr : Value → Text} {order : List Text}
  {args : Args} {result answer value default : Value} {s t : Text} {key : String}

/-! ## Values -/

theorem object_cons_inj {fields fields' : List (String × Value)} {v v' : Value} :
    object ((key, v) :: fields) = object ((key, v') :: fields')
      ↔ v = v' ∧ object fields = object fields' := by
  unfold object
  simp only [List.map_cons, Value.Object.injEq, List.cons.injEq, Prod.mk.injEq, true_and]

theorem as_str_eq_some : value.as_str = some s ↔ value = .String s := by
  cases value <;> simp [Value.as_str]

theorem field_string (h : (field args key).bind Value.as_str = some s) :
    field args key = some (.String s) := by
  obtain ⟨value, hvalue, hs⟩ := Option.bind_eq_some_iff.mp h
  rw [hvalue, as_str_eq_some.mp hs]

theorem optional_text_injective : Function.Injective optional_text := by
  rintro (_ | a) (_ | b) h
  · rfl
  · exact nomatch h
  · exact nomatch h
  · exact congrArg some (Value.String.inj h)

theorem truthy_string : (Value.String s).truthy = true ↔ s ≠ [] := decide_eq_true_iff

theorem non_blank_some :
    non_blank (some s) = if trim is_whitespace s = [] then none else some (trim is_whitespace s) := by
  unfold non_blank
  rw [Option.map_some]
  by_cases hblank : trim is_whitespace s = [] <;> simp [Option.filter, hblank]

theorem strip_string : PolicyToolsServer.strip (.String s) = some (trim is_whitespace s) := rfl

/-- What Python strips, Rust reads: a value that is false is no text. -/
theorem stripped_eq {found : Option Text} (h : PolicyToolsServer.stripped value = some found) :
    found = non_blank value.as_str := by
  unfold PolicyToolsServer.stripped at h
  by_cases htruthy : value.truthy = true
  · rw [if_pos htruthy] at h
    obtain ⟨text, htext, rfl⟩ := Option.map_eq_some_iff.mp h
    obtain ⟨raw, hraw, rfl⟩ := Option.map_eq_some_iff.mp htext
    rw [hraw, non_blank_some]
  · rw [if_neg htruthy] at h
    obtain rfl := Option.some.inj h
    cases value with
    | String s =>
      rw [truthy_string, not_not] at htruthy
      rw [htruthy]
      rfl
    | _ => rfl

theorem stripped_get {found : Option Text}
    (h : PolicyToolsServer.stripped (PolicyToolsServer.get args key default) = some found)
    (hdefault : non_blank default.as_str = none) :
    found = non_blank ((field args key).bind Value.as_str) := by
  rw [stripped_eq h]
  unfold PolicyToolsServer.get
  cases field args key with
  | none => exact hdefault
  | some value => rfl

theorem non_blank_getD (found : Option Text) : non_blank found
    = if trim is_whitespace (found.getD []) = [] then none
      else some (trim is_whitespace (found.getD [])) := by
  cases found with
  | none => rfl
  | some s => exact non_blank_some

/-- A value that Python strips is true exactly when it is a text that is not empty. -/
theorem truthy_of_stripped {found : Option Text} (h : PolicyToolsServer.stripped value = some found) :
    value.truthy = true ↔ value.as_str.getD [] ≠ [] := by
  cases value with
  | String s => exact truthy_string
  | Null => exact ⟨fun htruthy => absurd htruthy Bool.false_ne_true, fun hne => absurd rfl hne⟩
  | _ =>
    refine ⟨fun htruthy => ?_, fun hne => absurd rfl hne⟩
    unfold PolicyToolsServer.stripped at h
    rw [if_pos htruthy] at h
    exact nomatch h

theorem get_as_str (hdefault : default.as_str.getD [] = []) :
    (PolicyToolsServer.get args key default).as_str.getD [] = text_arg args key := by
  unfold PolicyToolsServer.get text_arg
  cases field args key with
  | none => exact hdefault
  | some value => rfl

/-! ## sati_check -/

theorem sati_check_agree (hrust : handle_sati_check args = some result)
    (hpython : PolicyToolsServer.call to_lowercase to_uppercase repr order .sati_check args
      = some answer) :
    answer = result
      ↔ (text_arg args "context" ≠ [] → trim is_whitespace (text_arg args "context") ≠ []) := by
  obtain ⟨action, haction, hrust⟩ := Option.bind_eq_some_iff.mp hrust
  replace hrust := (Option.some.inj hrust).symm
  unfold PolicyToolsServer.call at hpython
  dsimp only at hpython
  rw [field_string haction] at hpython
  obtain ⟨_, haction, hpython⟩ := Option.bind_eq_some_iff.mp hpython
  obtain rfl := Option.some.inj haction
  obtain ⟨p2, hp2, hpython⟩ := Option.bind_eq_some_iff.mp hpython
  replace hpython := (Option.some.inj hpython).symm
  have htruthy := (truthy_of_stripped hp2).trans (by rw [get_as_str rfl])
  have hp2 : p2 = if trim is_whitespace (text_arg args "context") = [] then none
      else some (trim is_whitespace (text_arg args "context")) :=
    (stripped_get hp2 rfl).trans (non_blank_getD _)
  rw [hpython, hrust]
  unfold sati_check
  simp only [trim_trim, object_cons_inj, hp2, true_and, and_true]
  by_cases hempty : text_arg args "context" = []
  · have hfalse : ¬ (PolicyToolsServer.get args "context" (.String [])).truthy = true := fun htrue =>
      htruthy.mp htrue hempty
    have htrim : trim is_whitespace (text_arg args "context") = [] := by
      rw [hempty]
      rfl
    rw [if_neg hfalse, if_pos htrim]
    exact ⟨fun _ hne => absurd hempty hne, fun _ => rfl⟩
  · rw [if_pos (htruthy.mpr hempty)]
    by_cases htrim : trim is_whitespace (text_arg args "context") = []
    · rw [if_pos htrim]
      refine ⟨fun hsame => ?_, fun hcond => absurd htrim (hcond hempty)⟩
      rw [Value.String.injEq, List.append_left_inj] at hsame
      exact absurd hsame (by decide)
    · rw [if_neg htrim]
      exact ⟨fun _ _ => htrim, fun _ => rfl⟩

/-! ## temporal_gate -/

/-- A keyword of ASCII and Thai characters without upper case. -/
def lower_keyword (k : Text) : Prop := (∀ c ∈ k, keyword_char c = true) ∧ k.map Char.toLower = k

instance (k : Text) : Decidable (lower_keyword k) := by
  unfold lower_keyword
  infer_instance

theorem lower_of_keyword (h : LowerCase to_lowercase) (hs : lower_keyword s) :
    to_lowercase s = s := (h.plain s hs.1).trans hs.2

theorem TEMPORAL_KEYWORDS_lower : ∀ k ∈ TEMPORAL_KEYWORDS, lower_keyword k := by
  decide

/-- **The two temporal gates agree**, up to the order of the trigger keywords. -/
theorem temporal_gate_agree (hlower : LowerCase to_lowercase)
    (hrust : handle_temporal_gate to_lowercase args = some result)
    (hpython : PolicyToolsServer.call to_lowercase to_uppercase repr order .temporal_gate args
      = some answer) :
    PolicyToolsServer.call to_lowercase to_uppercase repr TEMPORAL_KEYWORDS .temporal_gate args
      = some result := by
  obtain ⟨claim, hclaim, hrust⟩ := Option.bind_eq_some_iff.mp hrust
  replace hrust := (Option.some.inj hrust).symm
  unfold PolicyToolsServer.call at hpython ⊢
  dsimp only at hpython ⊢
  rw [field_string hclaim] at hpython ⊢
  obtain ⟨_, hstrip, hpython⟩ := Option.bind_eq_some_iff.mp hpython
  obtain rfl := Option.some.inj hstrip
  obtain ⟨claim_type, htype, hpython⟩ := Option.bind_eq_some_iff.mp hpython
  obtain ⟨cite, hcite, -⟩ := Option.bind_eq_some_iff.mp hpython
  have hfound := stripped_get hcite rfl
  have hkeywords : (TEMPORAL_KEYWORDS.filter fun k =>
        to_lowercase k <:+: to_lowercase (trim is_whitespace claim))
      = TEMPORAL_KEYWORDS.filter fun kw => kw <:+: to_lowercase (trim is_whitespace claim) := by
    apply List.filter_congr
    intro k hk
    rw [lower_of_keyword hlower (TEMPORAL_KEYWORDS_lower k hk)]
  rw [hrust, Option.bind_eq_bind, Option.bind_some]
  unfold PolicyToolsServer.temporal_gate temporal_gate
  rw [strip_string, htype, hcite, hfound]
  dsimp only [Option.bind_eq_bind, Option.bind_some, Option.pure_def]
  rw [hkeywords]
  cases (non_blank ((field args "evidence_source").bind Value.as_str)).isSome <;> rfl

/-! ## support_disclose -/

/-- The texts of some items that are not blank. -/
def real (items : List Text) : List Text :=
  (items.map (trim is_whitespace)).filter fun s => s ≠ []

theorem real_eq_nil {items : List Text} :
    (real items).length = 0 ↔ ∀ e ∈ items, trim is_whitespace e = [] := by
  unfold real
  rw [List.length_eq_zero_iff, List.filter_eq_nil_iff]
  simp

/-- What Python goes through in the evidence. -/
def iterated : Option Value → List Text
  | some (.String s) => s.map fun c => [c]
  | some (.Object fields) => fields.map Prod.fst
  | value => string_array value

theorem stripped_items {items : List Value} {found : List (Option Text)}
    (h : items.mapM PolicyToolsServer.stripped = some found) :
    found.filterMap id = real (items.filterMap Value.as_str) := by
  induction items generalizing found with
  | nil =>
    obtain rfl := Option.some.inj h
    rfl
  | cons item items ih =>
    rw [List.mapM_cons] at h
    obtain ⟨first, hfirst, h⟩ := Option.bind_eq_some_iff.mp h
    obtain ⟨rest, hrest, h⟩ := Option.bind_eq_some_iff.mp h
    obtain rfl := Option.some.inj h
    have hfirst := stripped_eq hfirst
    rw [List.filterMap_cons, ih hrest, hfirst]
    cases hitem : item.as_str with
    | none =>
      rw [List.filterMap_cons_none hitem]
      rfl
    | some s =>
      rw [List.filterMap_cons_some hitem, non_blank_some]
      unfold real
      by_cases hblank : trim is_whitespace s = [] <;> simp [hblank]

theorem filterMap_strings {α : Type} (f : α → Text) (items : List α) :
    (items.map fun item => Value.String (f item)).filterMap Value.as_str = items.map f := by
  rw [List.filterMap_map]
  exact congrFun (List.filterMap_eq_map (f := f)) items

theorem iterated_items {items : List Value}
    (h : PolicyToolsServer.iterate_or_empty value = some items) :
    items.filterMap Value.as_str = iterated (some value) := by
  unfold PolicyToolsServer.iterate_or_empty at h
  by_cases htruthy : value.truthy = true
  · rw [if_pos htruthy] at h
    cases value with
    | String s =>
      obtain rfl := Option.some.inj h
      exact filterMap_strings (fun c => [c]) s
    | Array values =>
      obtain rfl := Option.some.inj h
      rfl
    | Object fields =>
      obtain rfl := Option.some.inj h
      exact filterMap_strings Prod.fst fields
    | _ => exact nomatch h
  · rw [if_neg htruthy] at h
    obtain rfl := Option.some.inj h
    cases value with
    | String s =>
      rw [truthy_string, not_not] at htruthy
      rw [htruthy]
      rfl
    | Array values =>
      have hempty : values = [] := by
        simpa [Value.truthy] using htruthy
      rw [hempty]
      rfl
    | Object fields =>
      have hempty : fields = [] := by
        simpa [Value.truthy] using htruthy
      rw [hempty]
      rfl
    | _ => rfl

/-- Where the two look at the same evidence, and repeat the same claim. -/
def SupportAgrees (args : Args) : Prop :=
  (match field args "evidence_items" with
    | some (.String s) => trim is_whitespace s = []
    | some (.Object fields) => ∀ entry ∈ fields, trim is_whitespace entry.1 = []
    | _ => True)
  ∧ ((∀ e ∈ string_array (field args "evidence_items"), trim is_whitespace e = []) →
    trim is_whitespace (text_arg args "claim") = text_arg args "claim")

theorem trim_char (c : Char) : trim is_whitespace [c] = [] ↔ is_whitespace c = true := by
  rw [trim_eq_nil]
  simp

/-- The evidence of the two gates, unless Python goes through characters or keys. -/
theorem same_evidence (h : match field args "evidence_items" with
    | some (.String s) => trim is_whitespace s = []
    | some (.Object fields) => ∀ entry ∈ fields, trim is_whitespace entry.1 = []
    | _ => True) :
    (real (iterated (field args "evidence_items"))).length
      = (real (string_array (field args "evidence_items"))).length := by
  have hnone : ∀ value : Value, value.as_array = none → (real (string_array (some value))).length = 0 := by
    intro value hvalue
    unfold string_array
    rw [Option.bind_some, hvalue]
    rfl
  cases hfield : field args "evidence_items" with
  | none => rfl
  | some value =>
    rw [hfield] at h
    cases value with
    | String s =>
      rw [hnone _ rfl, real_eq_nil]
      intro e he
      obtain ⟨c, hc, rfl⟩ := List.mem_map.mp he
      exact (trim_char c).mpr (trim_eq_nil.mp h c hc)
    | Object fields =>
      rw [hnone _ rfl, real_eq_nil]
      intro e he
      obtain ⟨entry, hentry, rfl⟩ := List.mem_map.mp he
      exact h entry hentry
    | _ => rfl

/-- Where it does, Rust has no evidence and Python has some. -/
theorem other_evidence (h : ¬ match field args "evidence_items" with
    | some (.String s) => trim is_whitespace s = []
    | some (.Object fields) => ∀ entry ∈ fields, trim is_whitespace entry.1 = []
    | _ => True) :
    (real (string_array (field args "evidence_items"))).length = 0
      ∧ (real (iterated (field args "evidence_items"))).length ≠ 0 := by
  cases hfield : field args "evidence_items" with
  | none =>
    rw [hfield] at h
    exact absurd trivial h
  | some value =>
    rw [hfield] at h
    cases value with
    | String s =>
      refine ⟨rfl, fun hzero => h (trim_eq_nil.mpr fun c hc => ?_)⟩
      exact (trim_char c).mp (real_eq_nil.mp hzero [c] (List.mem_map_of_mem hc))
    | Object fields =>
      refine ⟨rfl, fun hzero => h fun entry hentry => ?_⟩
      exact real_eq_nil.mp hzero entry.1 (List.mem_map_of_mem hentry)
    | _ => exact absurd trivial h

/-- The object that Rust answers for a claim and a number of evidence items. -/
theorem handle_support_disclose_eq {claim : Text} (hclaim : field args "claim" = some (.String claim)) :
    handle_support_disclose args = some (
      let n := (real (string_array (field args "evidence_items"))).length
      object (
        if n = 0 then [
          ("level", text "no_support"),
          ("label", text "ยังยืนยันไม่ได้"),
          ("can_assert", .Boolean false),
          ("disclosure_text", .String ("ยังยืนยันไม่ได้ค่ะ ไม่มี evidence รองรับ claim: '".toList
            ++ trim is_whitespace claim ++ ['\'']))]
        else if n ≤ 2 then [
          ("level", text "low_support"),
          ("label", text "support ต่ำ — หลักฐานยังน้อย"),
          ("can_assert", .Boolean false),
          ("disclosure_text", .String ("support ต่ำค่ะ มีแค่ ".toList ++ count_text n
            ++ " evidence item — ยังเป็นข้อสรุปชั่วคราว".toList))]
        else [
          ("level", text "supported"),
          ("label", text "supported"),
          ("can_assert", .Boolean true),
          ("disclosure_text", .String ("supported — มี ".toList ++ count_text n
            ++ " evidence items รองรับ".toList))])) := by
  have hn : (((string_array (field args "evidence_items")).map (trim is_whitespace)).filter
      fun s => s ≠ []).length = (real (string_array (field args "evidence_items"))).length := rfl
  unfold handle_support_disclose support_disclose
  rw [hclaim]
  dsimp only [Option.bind_some, Option.bind_eq_bind, Option.pure_def, Value.as_str]
  rw [hn]
  by_cases hzero : (real (string_array (field args "evidence_items"))).length = 0
  · rw [if_pos hzero, if_pos hzero]
    rfl
  · rw [if_neg hzero, if_neg hzero]
    by_cases htwo : (real (string_array (field args "evidence_items"))).length ≤ 2
    · rw [if_pos htwo, if_pos htwo]
      rfl
    · rw [if_neg htwo, if_neg htwo]
      rfl

theorem support_disclose_agree (hrust : handle_support_disclose args = some result)
    (hpython : PolicyToolsServer.call to_lowercase to_uppercase repr order .support_disclose args
      = some answer) : answer = result ↔ SupportAgrees args := by
  obtain ⟨claim, hclaim, -⟩ := Option.bind_eq_some_iff.mp hrust
  have hclaim := field_string hclaim
  have htext : text_arg args "claim" = claim := by
    unfold text_arg
    rw [hclaim]
    rfl
  rw [handle_support_disclose_eq hclaim] at hrust
  unfold PolicyToolsServer.call at hpython
  dsimp only at hpython
  rw [hclaim, Option.bind_eq_bind, Option.bind_some] at hpython
  obtain ⟨items, hitems, hpython⟩ := Option.bind_eq_some_iff.mp hpython
  obtain ⟨found, hfound, hpython⟩ := Option.bind_eq_some_iff.mp hpython
  have hreal : found.filterMap id = real (iterated (field args "evidence_items")) := by
    rw [stripped_items hfound, iterated_items hitems]
    unfold PolicyToolsServer.get
    cases field args "evidence_items" <;> rfl
  have hpython := Option.some.inj hpython
  have hrust := Option.some.inj hrust
  rw [← hpython, ← hrust, hreal]
  dsimp only
  unfold SupportAgrees
  rw [htext, ← real_eq_nil]
  by_cases hsame : match field args "evidence_items" with
    | some (.String s) => trim is_whitespace s = []
    | some (.Object fields) => ∀ entry ∈ fields, trim is_whitespace entry.1 = []
    | _ => True
  · rw [same_evidence hsame]
    simp only [hsame, true_and]
    by_cases hzero : (real (string_array (field args "evidence_items"))).length = 0
    · rw [if_pos hzero, if_pos hzero]
      simp only [object_cons_inj, true_and, and_true, Value.String.injEq, List.append_left_inj,
        List.append_right_inj]
      exact ⟨fun hclaim _ => hclaim.symm, fun hclaim => (hclaim hzero).symm⟩
    · rw [if_neg hzero, if_neg hzero]
      exact ⟨fun _ hnone => absurd hnone hzero, fun _ => rfl⟩
  · obtain ⟨hnone, hsome⟩ := other_evidence hsame
    rw [if_pos hnone, if_neg hsome]
    refine ⟨fun hequal => ?_, fun hcond => absurd hcond.1 hsame⟩
    split_ifs at hequal <;> exact absurd (object_cons_inj.mp hequal).1 (by simp [text])

/-! ## claim_tag -/

theorem text_or_empty_get {found : Text}
    (h : PolicyToolsServer.text_or_empty (PolicyToolsServer.get args key .Null) = some found) :
    found = text_arg args key := by
  rw [← @get_as_str args .Null key rfl]
  generalize PolicyToolsServer.get args key .Null = value at h ⊢
  unfold PolicyToolsServer.text_or_empty at h
  by_cases htruthy : value.truthy = true
  · rw [if_pos htruthy] at h
    rw [h]
    rfl
  · rw [if_neg htruthy] at h
    obtain rfl := Option.some.inj h
    cases value with
    | String s =>
      rw [truthy_string, not_not] at htruthy
      rw [htruthy]
      rfl
    | _ => rfl

/-- The word of an inference that only Python knows. -/
def hedge : Text := "น่าจะ".toList

/-- Where the further word decides nothing. -/
def ClaimTagAgrees (to_lowercase : Text → Text) (args : Args) : Prop :=
  let lower := to_lowercase (trim is_whitespace (text_arg args "basis"))
  hedge <:+: lower → mentions OBSERVED_KEYWORDS lower ∨ mentions INFERRED_KEYWORDS lower

theorem mentions_inferred_words :
    mentions PolicyToolsServer.inferred_words s ↔ mentions INFERRED_KEYWORDS s ∨ hedge <:+: s := by
  have hwords : ∀ a b c d e word : Text,
      mentions [a, b, word, c, d, e] s ↔ mentions [a, b, c, d, e] s ∨ word <:+: s := by
    intro a b c d e word
    simp only [mentions, List.mem_cons, List.not_mem_nil, or_false, exists_eq_or_imp,
      exists_eq_left]
    tauto
  exact hwords _ _ _ _ _ _

theorem claim_tag_agree (hlower : LowerCase to_lowercase)
    (hrust : handle_claim_tag to_lowercase args = some result)
    (hpython : PolicyToolsServer.call to_lowercase to_uppercase repr order .claim_tag args
      = some answer) : answer = result ↔ ClaimTagAgrees to_lowercase args := by
  obtain ⟨claim, hclaim, hrust⟩ := Option.bind_eq_some_iff.mp hrust
  replace hrust := Option.some.inj hrust
  unfold PolicyToolsServer.call at hpython
  dsimp only at hpython
  rw [field_string hclaim, Option.bind_eq_bind, Option.bind_some] at hpython
  obtain ⟨basis, hbasis, hpython⟩ := Option.bind_eq_some_iff.mp hpython
  obtain ⟨_, -, hpython⟩ := Option.bind_eq_some_iff.mp hpython
  replace hpython := Option.some.inj hpython
  obtain ⟨raw, hraw, rfl⟩ := Option.map_eq_some_iff.mp hbasis
  obtain rfl := text_or_empty_get hraw
  have hread : (((field args "basis").bind Value.as_str).map (trim is_whitespace)).getD []
      = trim is_whitespace (text_arg args "basis") := by
    unfold text_arg
    cases (field args "basis").bind Value.as_str <;> rfl
  have hobserved : (["log", "file", "test", "output", "result", "timestamp"].map String.toList)
      = OBSERVED_KEYWORDS := rfl
  have hassumed : (["assume", "สมมติ", "probably", "likely", "คิดว่า"].map String.toList)
      = ASSUMED_KEYWORDS := rfl
  rw [← hpython, ← hrust]
  unfold claim_tag ClaimTagAgrees
  dsimp only
  rw [hread, hobserved, hassumed]
  simp only [object_cons_inj, Value.String.injEq, and_true]
  generalize hb : trim is_whitespace (text_arg args "basis") = b
  by_cases hempty : b = []
  · have hnone : ¬ hedge <:+: to_lowercase b := by
      rw [hempty, hlower.plain [] (by simp)]
      decide
    simp only [if_pos hempty]
    exact ⟨fun _ hin => absurd hin hnone, fun _ => ⟨rfl, trivial, rfl⟩⟩
  simp only [if_neg hempty]
  by_cases hlog : mentions OBSERVED_KEYWORDS (to_lowercase b)
  · simp only [if_pos hlog]
    exact ⟨fun _ _ => .inl hlog, fun _ => ⟨rfl, trivial, rfl⟩⟩
  simp only [if_neg hlog]
  by_cases hlogic : mentions INFERRED_KEYWORDS (to_lowercase b)
  · simp only [if_pos (mentions_inferred_words.mpr (.inl hlogic)), if_pos hlogic]
    exact ⟨fun _ _ => .inr hlogic, fun _ => ⟨rfl, trivial, rfl⟩⟩
  simp only [if_neg hlogic]
  by_cases hhedge : hedge <:+: to_lowercase b
  · -- Python infers where Rust assumes, or finds no clear basis
    simp only [if_pos (mentions_inferred_words.mpr (.inr hhedge))]
    refine ⟨fun hequal => ?_, fun hcond => absurd (hcond hhedge) (not_or.mpr ⟨hlog, hlogic⟩)⟩
    have hexplanation := hequal.2.1
    split_ifs at hexplanation
    · rw [List.append_left_inj] at hexplanation
      exact absurd hexplanation (by decide)
    · rw [List.append_left_inj] at hexplanation
      exact absurd hexplanation (by decide)
  · have hnone : ¬ mentions PolicyToolsServer.inferred_words (to_lowercase b) := fun hin =>
      (mentions_inferred_words.mp hin).elim hlogic hhedge
    simp only [if_neg hnone]
    refine ⟨fun _ hin => absurd hin hhedge, fun _ => ?_⟩
    by_cases hassume : mentions ASSUMED_KEYWORDS (to_lowercase b)
    · simp only [if_pos hassume]
      exact ⟨rfl, trivial, rfl⟩
    · simp only [if_neg hassume]
      exact ⟨rfl, trivial, rfl⟩

end PolicyTools

end OvcaCore

/-
Where the two drift checks agree.

Rust takes the white space around the snippet off before it puts the action behind it; Python
does not. A signal can then go over the one space that is left: it is bridged.
-/
import OvcaCore.PolicyParity

set_option autoImplicit false

namespace OvcaCore

open OvcaCore.Texts

namespace PolicyTools

variable {to_lowercase to_uppercase : Text → Text} {repr : Value → Text} {order : List Text}
  {args : Args} {result answer : Value} {core action signal s t blanks : Text}

/-! ## Signals -/

/-- A signal in one of two texts. -/
def apart (core action signal : Text) : Prop := signal <:+: core ∨ signal <:+: action

/-- A signal that goes over the space between two texts. -/
def bridged (core action signal : Text) : Prop :=
  ∃ p q, signal = p ++ ' ' :: q ∧ p <:+ core ∧ q <+: action

/-- Where bridged signals change nothing: there is none, or the pattern shows before. -/
def DriftAgrees (to_lowercase : Text → Text) (args : Args) : Prop :=
  let snippet := text_arg args "reasoning_snippet"
  let core := to_lowercase (trim is_whitespace snippet)
  let action := to_lowercase (text_arg args "proposed_action")
  trim_end is_whitespace snippet = snippet ∨ ∀ p ∈ DRIFT_PATTERNS, ∀ before signal after,
    p.signals = before ++ signal :: after → bridged core action signal →
    ∃ earlier ∈ before ++ [signal], apart core action earlier

theorem DRIFT_PATTERNS_signals : ∀ p ∈ DRIFT_PATTERNS, ∀ signal ∈ p.signals,
    lower_keyword signal ∧ Solid is_whitespace signal := by
  decide +kernel

theorem combined_iff :
    signal <:+: core ++ ' ' :: action ↔ apart core action signal ∨ bridged core action signal := by
  unfold apart bridged
  rw [infix_append_cons, or_assoc]

/-! ## Lower case and white space -/

theorem lower_nil (h : LowerCase to_lowercase) : to_lowercase [] = [] :=
  h.plain [] (by simp)

theorem lower_blank_append (h : LowerCase to_lowercase) (hblanks : ∀ c ∈ blanks, is_whitespace c = true) :
    to_lowercase (blanks ++ s) = blanks ++ to_lowercase s := by
  induction blanks with
  | nil => rfl
  | cons c blanks ih =>
    obtain ⟨hc, hblanks⟩ := List.forall_mem_cons.mp hblanks
    have hstep := h.blank [] c (blanks ++ s) hc
    rw [lower_nil h, List.nil_append, List.nil_append, ih hblanks] at hstep
    exact hstep

theorem lower_append_blank (h : LowerCase to_lowercase) (hblanks : ∀ c ∈ blanks, is_whitespace c = true) :
    to_lowercase (s ++ blanks) = to_lowercase s ++ blanks := by
  cases blanks with
  | nil => rw [List.append_nil, List.append_nil]
  | cons c blanks =>
    obtain ⟨hc, hblanks⟩ := List.forall_mem_cons.mp hblanks
    have hrest := lower_blank_append (s := []) h hblanks
    rw [lower_nil h, List.append_nil] at hrest
    rw [h.blank s c blanks hc, hrest]

/-- A text is its core with white space around it. -/
theorem trim_parts (s : Text) : ∃ lead trail : Text, s = lead ++ trim is_whitespace s ++ trail
    ∧ (∀ c ∈ lead, is_whitespace c = true) ∧ (∀ c ∈ trail, is_whitespace c = true)
    ∧ (trail = [] ↔ trim_end is_whitespace s = s) := by
  have hend : trim_end is_whitespace s ++ s.rtakeWhile is_whitespace = s :=
    List.rdropWhile_append_rtakeWhile
  have hstart : (trim_end is_whitespace s).takeWhile is_whitespace ++ trim is_whitespace s
      = trim_end is_whitespace s := by
    rw [← trim_start_trim_end]
    exact List.takeWhile_append_dropWhile
  refine ⟨(trim_end is_whitespace s).takeWhile is_whitespace, s.rtakeWhile is_whitespace, ?_,
    fun c hc => List.mem_takeWhile_imp hc, fun c hc => List.mem_rtakeWhile_imp hc, ?_⟩
  · rw [hstart, hend]
  · constructor
    · intro hempty
      rwa [hempty, List.append_nil] at hend
    · intro hkept
      rw [hkept] at hend
      exact List.append_right_eq_self.mp hend

/-! ## What Python sees of a signal -/

/-- **Python sees the signals of the joined texts, or of each text**: with white space at the
end of the snippet nothing goes over. -/
theorem python_signal (h : LowerCase to_lowercase) (hsignal : Solid is_whitespace signal)
    {snippet action : Text} :
    signal <:+: to_lowercase (snippet ++ ' ' :: action)
      ↔ apart (to_lowercase (trim is_whitespace snippet)) (to_lowercase action) signal
        ∨ (trim_end is_whitespace snippet = snippet
          ∧ bridged (to_lowercase (trim is_whitespace snippet)) (to_lowercase action) signal) := by
  obtain ⟨lead, trail, hparts, hlead, htrail, hkept⟩ := trim_parts snippet
  have hlower : to_lowercase snippet
      = lead ++ (to_lowercase (trim is_whitespace snippet) ++ trail) := by
    conv_lhs => rw [hparts]
    rw [List.append_assoc, lower_blank_append h hlead, lower_append_blank h htrail]
  rw [h.blank snippet ' ' action (by decide), hlower, List.append_assoc,
    infix_blank_append hsignal hlead]
  by_cases hend : trim_end is_whitespace snippet = snippet
  · rw [hkept.mpr hend, List.append_nil, combined_iff]
    simp only [hend, true_and]
  · rw [infix_two_blanks hsignal htrail (mt hkept.mp hend) (by decide)]
    simp only [hend, false_and, or_false]
    rfl

/-! ## Lists that are filtered -/

/-- Where a second test also accepts values with a further property, it finds the same first
value exactly when the first test accepts one no later. -/
theorem find?_or_iff {α : Type} {f g : α → Bool} {Q : α → Prop} {values : List α}
    (h : ∀ v ∈ values, g v = true ↔ f v = true ∨ Q v) :
    values.find? f = values.find? g ↔ ∀ before v after, values = before ++ v :: after → Q v →
      ∃ earlier ∈ before ++ [v], f earlier = true := by
  induction values with
  | nil => simp
  | cons first values ih =>
    obtain ⟨hfirst, hrest⟩ := List.forall_mem_cons.mp h
    by_cases hf : f first = true
    · rw [List.find?_cons_of_pos hf, List.find?_cons_of_pos (hfirst.mpr (.inl hf))]
      refine ⟨fun _ before v after hsplit _ => ⟨first, ?_, hf⟩, fun _ => rfl⟩
      cases before with
      | nil => rw [(List.cons.inj hsplit).1]; simp
      | cons head before => rw [(List.cons.inj hsplit).1]; simp
    by_cases hQ : Q first
    · rw [List.find?_cons_of_neg hf, List.find?_cons_of_pos (hfirst.mpr (.inr hQ))]
      constructor
      · intro hfind
        exact absurd (List.find?_some hfind) hf
      · intro hall
        obtain ⟨earlier, hearlier, hp⟩ := hall [] first values rfl hQ
        rw [List.nil_append, List.mem_singleton] at hearlier
        exact absurd (hearlier ▸ hp) hf
    · have hg : ¬ g first = true := fun hg => (hfirst.mp hg).elim hf hQ
      rw [List.find?_cons_of_neg hf, List.find?_cons_of_neg hg, ih hrest]
      constructor
      · intro hall before v after hsplit hv
        cases before with
        | nil => exact absurd ((List.cons.inj hsplit).1 ▸ hv) hQ
        | cons head before =>
          obtain ⟨earlier, hearlier, hp⟩ := hall before v after (List.cons.inj hsplit).2 hv
          exact ⟨earlier, List.mem_cons_of_mem _ hearlier, hp⟩
      · intro hall before v after hsplit hv
        obtain ⟨earlier, hearlier, hp⟩ := hall (first :: before) v after (by rw [hsplit]; rfl) hv
        rcases List.mem_cons.mp hearlier with rfl | hearlier
        · exact absurd hp hf
        · exact ⟨earlier, hearlier, hp⟩

/-- Two filtered lists whose values show where they come from are equal only value by value. -/
theorem filterMap_eq_iff {α β κ : Type} {f g : α → Option β} (key : β → κ) (name : α → κ)
    {values : List α} (hdistinct : (values.map name).Nodup)
    (hf : ∀ v b, f v = some b → key b = name v) (hg : ∀ v b, g v = some b → key b = name v) :
    values.filterMap f = values.filterMap g ↔ ∀ v ∈ values, f v = g v := by
  refine ⟨fun hequal => ?_, List.filterMap_congr⟩
  induction values with
  | nil => simp
  | cons first values ih =>
    rw [List.map_cons, List.nodup_cons] at hdistinct
    have hother : ∀ (h : α → Option β), (∀ v b, h v = some b → key b = name v) →
        ∀ b ∈ values.filterMap h, key b ≠ name first := by
      intro h hkey b hb hsame
      obtain ⟨v, hv, hfound⟩ := List.mem_filterMap.mp hb
      exact hdistinct.1 (hsame ▸ (hkey v b hfound) ▸ List.mem_map_of_mem hv)
    rw [List.forall_mem_cons]
    cases hfirst : f first with
    | none =>
      rw [List.filterMap_cons_none hfirst] at hequal
      cases hsecond : g first with
      | none =>
        rw [List.filterMap_cons_none hsecond] at hequal
        exact ⟨rfl, ih hdistinct.2 hequal⟩
      | some b =>
        rw [List.filterMap_cons_some hsecond] at hequal
        exact absurd (hg first b hsecond) (hother f hf b (hequal ▸ List.mem_cons_self))
    | some a =>
      rw [List.filterMap_cons_some hfirst] at hequal
      cases hsecond : g first with
      | none =>
        rw [List.filterMap_cons_none hsecond] at hequal
        exact absurd (hf first a hfirst) (hother g hg a (hequal ▸ List.mem_cons_self))
      | some b =>
        rw [List.filterMap_cons_some hsecond] at hequal
        obtain ⟨rfl, hrest⟩ := List.cons.inj hequal
        exact ⟨rfl, ih hdistinct.2 hrest⟩

/-! ## drift_check -/

def bug_value (bug : DriftBug) : Value :=
  object [
    ("bug", .String bug.bug),
    ("signal", .String bug.signal),
    ("description", .String bug.description),
    ("severity", severity_name bug.severity)]

/-- The answer for some bugs. -/
def drift_answer (bugs : List DriftBug) : Value :=
  object [
    ("bugs_detected", .Array (bugs.map bug_value)),
    ("clean", .Boolean bugs.isEmpty),
    ("stop", .Boolean (bugs.any fun b => b.severity = .Stop))]

theorem bug_value_injective : Function.Injective bug_value := by
  rintro ⟨bug, signal, description, severity⟩ ⟨bug', signal', description', severity'⟩ h
  unfold bug_value at h
  simp only [object_cons_inj, Value.String.injEq] at h
  obtain ⟨rfl, rfl, rfl, hseverity, -⟩ := h
  cases severity <;> cases severity' <;> first | rfl | exact absurd hseverity (by simp [severity_name, text])

theorem drift_answer_injective : Function.Injective drift_answer := by
  intro bugs bugs' h
  unfold drift_answer at h
  exact bug_value_injective.list_map (Value.Array.inj (object_cons_inj.mp h).1)

/-- The bug of a pattern with one of its signals. -/
def pattern_bug (p : DriftPattern) (sig : Text) : DriftBug where
  bug := p.name
  signal := "พบ '".toList ++ sig ++ "' ใน reasoning".toList
  description := p.description
  severity := p.severity

theorem pattern_bug_injective (p : DriftPattern) : Function.Injective (pattern_bug p) := by
  intro sig sig' h
  have hsignal := congrArg DriftBug.signal h
  unfold pattern_bug at hsignal
  dsimp only at hsignal
  rwa [List.append_left_inj, List.append_right_inj] at hsignal

theorem pattern_bug_name (find : DriftPattern → Option Text) (p : DriftPattern) (bug : DriftBug)
    (h : (find p).map (pattern_bug p) = some bug) : bug.bug = p.name := by
  obtain ⟨signal, -, rfl⟩ := Option.map_eq_some_iff.mp h
  rfl

/-- An entry of the Python table as a pattern. -/
def pattern_of (entry : String × PolicyToolsServer.DriftMeta) : DriftPattern where
  name := entry.1.toList
  signals := entry.2.signals
  description := entry.2.description.toList
  severity := if entry.2.severity = "stop" then .Stop else .Warn

theorem DRIFT_BUGS_patterns : PolicyToolsServer.DRIFT_BUGS.map pattern_of = DRIFT_PATTERNS := rfl

/-- The bugs that Python finds. -/
def python_bugs (to_lowercase : Text → Text) (joined : Text) : List DriftBug :=
  DRIFT_PATTERNS.filterMap fun p =>
    (p.signals.find? fun signal => to_lowercase signal <:+: joined).map (pattern_bug p)

theorem severity_of_entry : ∀ entry ∈ PolicyToolsServer.DRIFT_BUGS,
    text entry.2.severity = severity_name (pattern_of entry).severity := by
  simp only [PolicyToolsServer.DRIFT_BUGS, List.forall_mem_cons]
  exact ⟨rfl, rfl, rfl, rfl, rfl, rfl, List.forall_mem_nil _⟩

theorem bugs_in_eq (joined : Text) : (PolicyToolsServer.bugs_in to_lowercase joined).map
      (fun found => pattern_bug (pattern_of found.2) found.1)
    = python_bugs to_lowercase joined := by
  unfold PolicyToolsServer.bugs_in python_bugs
  rw [← DRIFT_BUGS_patterns, List.filterMap_map, List.map_filterMap]
  apply List.filterMap_congr
  intro entry hentry
  rw [Option.map_map]
  rfl

theorem python_drift_answer (joined : Text) :
    object [
      ("bugs_detected", .Array ((PolicyToolsServer.bugs_in to_lowercase joined).map fun found =>
        object [
          ("bug", text found.2.1),
          ("signal", .String ("พบ '".toList ++ found.1 ++ "' ใน reasoning".toList)),
          ("description", text found.2.2.description),
          ("severity", text found.2.2.severity)])),
      ("clean", .Boolean ((PolicyToolsServer.bugs_in to_lowercase joined).length = 0)),
      ("stop", .Boolean ((PolicyToolsServer.bugs_in to_lowercase joined).any fun found =>
        found.2.2.severity = "stop"))]
    = drift_answer (python_bugs to_lowercase joined) := by
  have hentries : ∀ found ∈ PolicyToolsServer.bugs_in to_lowercase joined,
      found.2 ∈ PolicyToolsServer.DRIFT_BUGS := by
    intro found hfound
    obtain ⟨entry, hentry, hmap⟩ := List.mem_filterMap.mp hfound
    obtain ⟨signal, -, rfl⟩ := Option.map_eq_some_iff.mp hmap
    exact hentry
  rw [← bugs_in_eq]
  unfold drift_answer
  simp only [object_cons_inj, Value.Array.injEq, Value.Boolean.injEq, and_true]
  refine ⟨?_, ?_, ?_⟩
  · rw [List.map_map]
    apply List.map_congr_left
    intro found hfound
    have hseverity := severity_of_entry found.2 (hentries found hfound)
    unfold bug_value pattern_bug
    rw [hseverity]
    rfl
  · cases PolicyToolsServer.bugs_in to_lowercase joined <;> rfl
  · rw [List.any_map]
    congr 1
    funext found
    by_cases hstop : found.2.2.severity = "stop" <;> simp [pattern_of, pattern_bug, hstop]

theorem handle_drift_check_eq {snippet : Text}
    (hsnippet : field args "reasoning_snippet" = some (.String snippet)) :
    handle_drift_check to_lowercase args = some (drift_answer (DRIFT_PATTERNS.filterMap fun p =>
      (first_signal p.signals (to_lowercase (trim is_whitespace snippet)
        ++ ' ' :: to_lowercase (text_arg args "proposed_action"))).map (pattern_bug p))) := by
  unfold handle_drift_check
  rw [hsnippet]
  rfl

theorem DRIFT_PATTERNS_names : (DRIFT_PATTERNS.map DriftPattern.name).Nodup := by
  decide

theorem drift_check_agree (hlower : LowerCase to_lowercase)
    (hrust : handle_drift_check to_lowercase args = some result)
    (hpython : PolicyToolsServer.call to_lowercase to_uppercase repr order .drift_check args
      = some answer) : answer = result ↔ DriftAgrees to_lowercase args := by
  obtain ⟨snippet, hsnippet, -⟩ := Option.bind_eq_some_iff.mp hrust
  have hsnippet := field_string hsnippet
  have htext : text_arg args "reasoning_snippet" = snippet := by
    unfold text_arg
    rw [hsnippet]
    rfl
  rw [handle_drift_check_eq hsnippet, Option.some_inj] at hrust
  unfold PolicyToolsServer.call at hpython
  dsimp only at hpython
  rw [hsnippet, Option.bind_eq_bind, Option.bind_some] at hpython
  obtain ⟨action, haction, hpython⟩ := Option.bind_eq_some_iff.mp hpython
  obtain rfl := text_or_empty_get haction
  have hpython := (Option.some.inj hpython).symm.trans (python_drift_answer _)
  rw [hpython, ← hrust, drift_answer_injective.eq_iff]
  unfold python_bugs DriftAgrees
  dsimp only
  rw [filterMap_eq_iff DriftBug.bug DriftPattern.name DRIFT_PATTERNS_names (pattern_bug_name _)
    (pattern_bug_name _), htext]
  have hsame : ∀ p ∈ DRIFT_PATTERNS, ∀ signal ∈ p.signals,
      (to_lowercase signal <:+: to_lowercase (snippet ++ ' ' :: text_arg args "proposed_action")
        ↔ apart (to_lowercase (trim is_whitespace snippet))
            (to_lowercase (text_arg args "proposed_action")) signal
          ∨ (trim_end is_whitespace snippet = snippet
            ∧ bridged (to_lowercase (trim is_whitespace snippet))
              (to_lowercase (text_arg args "proposed_action")) signal)) := by
    intro p hp signal hsignal
    obtain ⟨hkeyword, hsolid⟩ := DRIFT_PATTERNS_signals p hp signal hsignal
    rw [lower_of_keyword hlower hkeyword]
    exact python_signal hlower hsolid
  have hfirst : ∀ p : DriftPattern, ∀ found found' : Option Text,
      found.map (pattern_bug p) = found'.map (pattern_bug p) ↔ found = found' := fun p _ _ =>
    (Option.map_injective (pattern_bug_injective p)).eq_iff
  simp only [hfirst]
  unfold first_signal
  by_cases hend : trim_end is_whitespace snippet = snippet
  · refine ⟨fun _ => .inl hend, fun _ p hp => ?_⟩
    rw [@find?_or_iff _ _ _ (fun _ => False)]
    · exact fun _ _ _ _ hnone => hnone.elim
    · intro signal hsignal
      rw [decide_eq_true_iff, decide_eq_true_iff, hsame p hp signal hsignal, combined_iff]
      simp only [hend, true_and, or_false]
  · simp only [hend, false_and, or_false] at hsame
    simp only [hend, false_or]
    refine forall₂_congr fun p hp => ?_
    rw [@find?_or_iff _ _ _ (bridged (to_lowercase (trim is_whitespace snippet))
      (to_lowercase (text_arg args "proposed_action")))]
    · refine forall₅_congr fun before signal after hsplit _ => ?_
      refine exists_congr fun earlier => and_congr_right fun hearlier => ?_
      have hmem : earlier ∈ p.signals := by
        rw [hsplit, List.append_cons]
        exact List.mem_append_left _ hearlier
      rw [decide_eq_true_iff, hsame p hp earlier hmem]
    · intro signal hsignal
      rw [decide_eq_true_iff, decide_eq_true_iff, hsame p hp signal hsignal, combined_iff]

end PolicyTools

end OvcaCore

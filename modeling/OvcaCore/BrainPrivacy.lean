/-
What the caller's texts can do to the frontmatter of a brain node.

`brain_write` puts the title, the type and the tags into the frontmatter as they are. A text
of several lines gives the reader lines that the writer did not mean (`extra_lines`). When
none of them has a key, starts with the delimiter or stops the reader, every field that the
writer assigned is read back (`read_fields`) and a private node stays hidden
(`visible_private`); otherwise a field is added, the frontmatter ends early or the file cannot
be read (`private_node_intact_iff`).
-/
import OvcaCore.BrainRoundTrip
import OvcaCore.BrainTools

set_option autoImplicit false

namespace OvcaCore

open OvcaCore.Texts

namespace BrainStorage

/-! ## Lines that nobody meant -/

/-- The key of a line, for a reader outside the links block. -/
def field_key (line : Text) : Option Text :=
  if (trim is_whitespace line).head? = some '-' then none
  else (split_once [':'] (trim is_whitespace line)).map fun parts => trim is_whitespace parts.1

/-- The text that stops the reader: one quote. -/
def lone_quote (s : Text) : Prop := trim is_whitespace s = ['"'] ∨ trim is_whitespace s = ['\'']

/-- An item of a block list that stops the reader. -/
def bad_item (line : Text) : Prop :=
  (trim is_whitespace line).head? = some '-'
    ∧ lone_quote ((trim is_whitespace line).dropWhile (· = '-'))

/-- A value that stops the reader, as a scalar or in an inline list. -/
def bad_value (value : Text) : Prop :=
  if (trim is_whitespace value).head? = some '[' ∧ (trim is_whitespace value).getLast? = some ']'
  then ∃ part ∈ ((trim is_whitespace value).drop 1).dropLast.splitOn ',', lone_quote part
  else lone_quote value

def first_line (text : Text) : Text := (text.splitOn '\n').headD []

def extra_lines (text : Text) : List Text := (text.splitOn '\n').tail

variable {s key value line v : Text} {state state' : ParserState} {ls : List Text}

theorem strip_scalar_eq_none : strip_scalar s = none ↔ lone_quote s := by
  unfold strip_scalar lone_quote
  dsimp only
  generalize trim is_whitespace s = t
  rcases t with _ | ⟨c, _ | ⟨d, t⟩⟩
  · simp
  · simp only [List.head?_cons, List.getLast?_singleton, Option.some_inj, and_self, List.cons.injEq,
      and_true]
    by_cases hc : c = '"' ∨ c = '\'' <;> simp [hc]
  · have hlength : ¬ (c :: d :: t).length < 2 := by simp
    rw [if_neg hlength]
    split_ifs <;> simp

theorem lone_quote_trim : lone_quote (trim is_whitespace s) ↔ lone_quote s := by
  unfold lone_quote
  rw [trim_trim]

theorem mapM_eq_none {f : Text → Option Text} {parts : List Text} :
    parts.mapM f = none ↔ ∃ part ∈ parts, f part = none := by
  induction parts with
  | nil => simp
  | cons part parts ih =>
    rw [List.mapM_cons, List.exists_mem_cons_iff, ← ih]
    cases f part with
    | none => simp
    | some value =>
      cases parts.mapM f <;> simp

theorem inline_items_eq_none : inline_items s = none ↔ ∃ part ∈ s.splitOn ',', lone_quote part := by
  have hparts : ((s.splitOn ',').mapM fun s => strip_scalar (trim is_whitespace s)) = none ↔
      ∃ part ∈ s.splitOn ',', lone_quote part := by
    rw [mapM_eq_none]
    simp only [strip_scalar_eq_none, lone_quote_trim]
  rw [← hparts]
  unfold inline_items
  cases (s.splitOn ',').mapM fun s => strip_scalar (trim is_whitespace s) <;> simp

/-! ## One line -/

/-- Outside the links block the reader looks at a line without the white space around it. -/
theorem parse_line_outside (hmode : state.in_links_block = false) (line : Text) :
    parse_line state line =
      if trim is_whitespace line = [] then some state
      else if (trim is_whitespace line).head? = some '-' ∧ state.current_key ≠ [] then
        parse_list_item state (trim is_whitespace line)
      else (parse_normal_line (trim is_whitespace line) state).map start_links := by
  unfold parse_line
  dsimp only
  rw [trim_trim_end, trim_start_trim_end, hmode]
  simp only [Bool.false_eq_true, false_and, if_false]

/-- What lines under a key leave alone. -/
structure After (key : Text) (state state' : ParserState) : Prop where
  current : state'.current_key = key
  outside : state'.in_links_block = false
  link : state'.current_link = state.current_link
  others : ∀ a, a ≠ key → state'.result.get a = state.result.get a

theorem After.trans {state'' : ParserState} (h : After key state state')
    (h' : After key state' state'') : After key state state'' where
  current := h'.current
  outside := h'.outside
  link := h'.link.trans h.link
  others a ha := (h'.others a ha).trans (h.others a ha)

theorem get_push_item_of_ne {result : HashMap Value} {item : Item} {a : Text} (ha : a ≠ key) :
    (push_item result key item).get a = result.get a := by
  unfold push_item
  split
  · rw [get_insert, if_neg ha]
  · rfl
  · rw [get_insert, if_neg ha]

/-- **A line without a key leaves every other field alone**, unless it stops the reader. -/
theorem read_extra_line (hkey : Key key) (hcurrent : state.current_key = key)
    (hmode : state.in_links_block = false) (hfield : field_key line = none)
    (hitem : ¬ bad_item line) :
    ∃ state', parse_line state line = some state' ∧ After key state state' := by
  have hsame : After key state state := ⟨hcurrent, hmode, rfl, fun _ _ => rfl⟩
  have hne : state.current_key ≠ [] := hcurrent ▸ hkey.non_empty
  rw [parse_line_outside hmode]
  by_cases hblank : trim is_whitespace line = []
  · exact ⟨state, if_pos hblank, hsame⟩
  rw [if_neg hblank]
  unfold field_key at hfield
  by_cases hdash : (trim is_whitespace line).head? = some '-'
  · rw [if_pos ⟨hdash, hne⟩]
    have hread : strip_scalar (trim is_whitespace
        ((trim is_whitespace line).dropWhile (· = '-'))) ≠ none := by
      rw [ne_eq, strip_scalar_eq_none, lone_quote_trim]
      exact fun hquote => hitem ⟨hdash, hquote⟩
    obtain ⟨item, hitem⟩ := Option.ne_none_iff_exists'.mp hread
    unfold parse_list_item
    rw [hitem]
    by_cases hempty : item = []
    · exact ⟨state, if_pos hempty, hsame⟩
    · refine ⟨_, if_neg hempty, hcurrent, hmode, rfl, fun a ha => ?_⟩
      exact get_push_item_of_ne (hcurrent ▸ ha)
  · rw [if_neg hdash, Option.map_eq_none_iff] at hfield
    rw [if_neg (fun hboth => hdash hboth.1)]
    unfold parse_normal_line
    rw [hfield]
    exact ⟨state, congrArg some (if_neg (hcurrent ▸ hkey.not_links)), hsame⟩

theorem read_bad_item (hne : state.current_key ≠ []) (hmode : state.in_links_block = false)
    (hitem : bad_item line) : parse_line state line = none := by
  have hblank : trim is_whitespace line ≠ [] := by
    intro hblank
    have hdash := hitem.1
    rw [hblank] at hdash
    exact nomatch hdash
  have hstuck : strip_scalar (trim is_whitespace
      ((trim is_whitespace line).dropWhile (· = '-'))) = none := by
    rw [strip_scalar_eq_none, lone_quote_trim]
    exact hitem.2
  rw [parse_line_outside hmode, if_neg hblank, if_pos ⟨hitem.1, hne⟩]
  unfold parse_list_item
  rw [hstuck]
  rfl

/-- The line that the reader sees of a field's first line. -/
theorem trim_first (hkey : Key key) (hline : trim_end is_whitespace line = key ++ ':' :: v) :
    trim is_whitespace line = key ++ ':' :: v := by
  rw [← trim_trim_end, hline]
  apply trim_of_ends
  · exact trim_start_append hkey.non_empty (trim_start_of_trimmed hkey.trimmed)
  · rw [← hline]
    exact List.rdropWhile_idempotent is_whitespace line

theorem parse_first (hkey : Key key) (hmode : state.in_links_block = false)
    (hline : trim is_whitespace line = key ++ ':' :: v) :
    parse_line state line = (parse_normal_line (key ++ ':' :: v) state).map start_links := by
  rw [parse_line_outside hmode, hline, if_neg (by simp),
    if_neg (fun hdash => head_of_key hkey _ hdash.1)]

/-- **The first line of a field writes its own key only**, and a scalar is read as it is. -/
theorem read_first_line (hkey : Key key) (hmode : state.in_links_block = false)
    (hline : trim is_whitespace line = key ++ ':' :: v) (hvalue : ¬ bad_value v) :
    ∃ state', parse_line state line = some state' ∧ After key state state'
      ∧ (Scalar (trim is_whitespace v) → trim is_whitespace v ≠ [] →
        state'.result.get key = some (.String (trim is_whitespace v))) := by
  have hdone : ∀ next : ParserState, next.current_key = key →
      parse_normal_line (key ++ ':' :: v) state = some next → parse_line state line = some next := by
    intro next hnext hnormal
    rw [parse_first hkey hmode hline, hnormal]
    exact congrArg some (if_neg (hnext ▸ hkey.not_links))
  have hothers : ∀ (value : Value) (a : Text), a ≠ key →
      (state.result.insert key value).get a = state.result.get a := by
    intro value a ha
    rw [get_insert, if_neg ha]
  have hsplit : split_once [':'] (key ++ ':' :: v) = some (key, v) := split_once_append hkey.no_colon
  unfold bad_value at hvalue
  by_cases hempty : trim is_whitespace v = []
  · refine ⟨{ state with
      current_key := key, result := state.result.or_insert key (.Array []) },
      hdone _ rfl ?_, ⟨rfl, hmode, rfl, ?_⟩, fun _ hne => absurd hempty hne⟩
    · unfold parse_normal_line
      rw [hsplit]
      dsimp only
      rw [hkey.trimmed, if_pos hempty]
    · intro a ha
      unfold HashMap.or_insert
      split_ifs
      · rfl
      · exact hothers _ a ha
  by_cases hlist : (trim is_whitespace v).head? = some '[' ∧ (trim is_whitespace v).getLast? = some ']'
  · rw [if_pos hlist, ← inline_items_eq_none] at hvalue
    obtain ⟨items, hitems⟩ := Option.ne_none_iff_exists'.mp hvalue
    refine ⟨{ state with current_key := key, result := state.result.insert key (.Array items) },
      hdone _ rfl ?_, ⟨rfl, hmode, rfl, hothers _⟩, fun hscalar _ => ?_⟩
    · unfold parse_normal_line
      rw [hsplit]
      dsimp only
      rw [hkey.trimmed, if_neg hempty, if_pos hlist, hitems]
      rfl
    · exact absurd hlist.1 (not_mem_head hscalar.unbracketed.1)
  · rw [if_neg hlist] at hvalue
    have hread : strip_scalar (trim is_whitespace v) ≠ none := by
      rw [ne_eq, strip_scalar_eq_none, lone_quote_trim]
      exact hvalue
    obtain ⟨scalar, hscalar⟩ := Option.ne_none_iff_exists'.mp hread
    refine ⟨{ state with current_key := key, result := state.result.insert key (.String scalar) },
      hdone _ rfl ?_, ⟨rfl, hmode, rfl, hothers _⟩, fun hplain _ => ?_⟩
    · unfold parse_normal_line
      rw [hsplit]
      dsimp only
      rw [hkey.trimmed, if_neg hempty, if_neg hlist, hscalar]
      rfl
    · rw [hplain.strip] at hscalar
      rw [get_insert, if_pos rfl, Option.some.inj hscalar]

theorem read_bad_value (hkey : Key key) (hmode : state.in_links_block = false)
    (hline : trim is_whitespace line = key ++ ':' :: v) (hvalue : bad_value v) :
    parse_line state line = none := by
  rw [parse_first hkey hmode hline]
  unfold parse_normal_line
  rw [split_once_append hkey.no_colon]
  dsimp only
  unfold bad_value at hvalue
  by_cases hlist : (trim is_whitespace v).head? = some '[' ∧ (trim is_whitespace v).getLast? = some ']'
  · rw [if_pos hlist, ← inline_items_eq_none] at hvalue
    have hne : trim is_whitespace v ≠ [] := by
      intro hempty
      rw [hempty] at hlist
      exact nomatch hlist.1
    rw [if_neg hne, if_pos hlist, hvalue]
    rfl
  · rw [if_neg hlist] at hvalue
    have hne : trim is_whitespace v ≠ [] := by
      intro hempty
      unfold lone_quote at hvalue
      rw [hempty] at hvalue
      rcases hvalue with hquote | hquote <;> exact nomatch hquote
    rw [if_neg hne, if_neg hlist, strip_scalar_eq_none.mpr (lone_quote_trim.mpr hvalue)]
    rfl

/-! ## The lines of a field -/

/-- **The lines of a field write its own key only**, when the further ones have no key and
none stops the reader. -/
theorem read_field_lines (hkey : Key key) (hmode : state.in_links_block = false)
    (hline : trim is_whitespace line = key ++ ':' :: v) (hvalue : ¬ bad_value v)
    (h : ∀ l ∈ ls, field_key l = none ∧ ¬ bad_item l) :
    ∃ state', (line :: ls).foldlM parse_line state = some state' ∧ After key state state'
      ∧ (ls = [] → Scalar (trim is_whitespace v) → trim is_whitespace v ≠ [] →
        state'.result.get key = some (.String (trim is_whitespace v))) := by
  obtain ⟨first, hfirst, hafter, hscalar⟩ := read_first_line hkey hmode hline hvalue
  have hrest : ∀ {state : ParserState}, state.current_key = key → state.in_links_block = false →
      (∀ l ∈ ls, field_key l = none ∧ ¬ bad_item l) →
      ∃ state', ls.foldlM parse_line state = some state' ∧ After key state state' := by
    clear hfirst hafter hscalar h
    induction ls with
    | nil => exact fun hcurrent hmode _ => ⟨_, rfl, hcurrent, hmode, rfl, fun _ _ => rfl⟩
    | cons l ls ih =>
      intro state hcurrent hmode h
      obtain ⟨hfield, hitem⟩ := h l List.mem_cons_self
      obtain ⟨next, hnext, hnext_after⟩ := read_extra_line hkey hcurrent hmode hfield hitem
      obtain ⟨last, hlast, hlast_after⟩ := ih hnext_after.current hnext_after.outside
        (fun l hl => h l (List.mem_cons_of_mem _ hl))
      exact ⟨last, read_cons hnext hlast, hnext_after.trans hlast_after⟩
  obtain ⟨last, hlast, hlast_after⟩ := hrest hafter.current hafter.outside h
  refine ⟨last, read_cons hfirst hlast, hafter.trans hlast_after, fun hempty hplain hne => ?_⟩
  subst hempty
  obtain rfl : first = last := Option.some.inj hlast
  exact hscalar hplain hne

/-- A further line that stops the reader stops it. -/
theorem read_field_stuck (hkey : Key key) (hmode : state.in_links_block = false)
    (hline : trim is_whitespace line = key ++ ':' :: v)
    (h : ∀ l ∈ ls, field_key l = none) (hbad : bad_value v ∨ ∃ l ∈ ls, bad_item l) :
    (line :: ls).foldlM parse_line state = none := by
  by_cases hvalue : bad_value v
  · rw [List.foldlM_cons, read_bad_value hkey hmode hline hvalue]
    rfl
  obtain ⟨first, hfirst, hafter, -⟩ := read_first_line hkey hmode hline hvalue
  have hrest : ∀ {state : ParserState}, state.current_key = key → state.in_links_block = false →
      (∀ l ∈ ls, field_key l = none) → (∃ l ∈ ls, bad_item l) →
      ls.foldlM parse_line state = none := by
    clear hfirst hafter hbad h
    induction ls with
    | nil =>
      rintro _ _ _ _ ⟨l, hl, -⟩
      exact absurd hl List.not_mem_nil
    | cons l ls ih =>
      intro state hcurrent hmode h hbad
      rw [List.foldlM_cons]
      by_cases hitem : bad_item l
      · rw [read_bad_item (hcurrent ▸ hkey.non_empty) hmode hitem]
        rfl
      · obtain ⟨next, hnext, hnext_after⟩ :=
          read_extra_line hkey hcurrent hmode (h l List.mem_cons_self) hitem
        rw [hnext]
        refine ih hnext_after.current hnext_after.outside
          (fun l hl => h l (List.mem_cons_of_mem _ hl)) ?_
        obtain ⟨l', hl', hbad⟩ := hbad
        rcases List.mem_cons.mp hl' with rfl | hl'
        · exact absurd hbad hitem
        · exact ⟨l', hl', hbad⟩
  rw [List.foldlM_cons, hfirst]
  exact hrest hafter.current hafter.outside h (hbad.resolve_left hvalue)

/-! ## A run of fields -/

/-- A text that the frontmatter takes in as one field. -/
structure Contained (text : Text) : Prop where
  readable : ¬ bad_value (first_line text)
  keyless : ∀ line ∈ extra_lines text, field_key line = none
  undelimited : ∀ line ∈ extra_lines text, "---".toList.isPrefixOf line = false
  items : ∀ line ∈ extra_lines text, ¬ bad_item line

/-- `"{key}: {text}"`. -/
def field_text (field : Text × Text) : Text := field.1 ++ ": ".toList ++ field.2

/-- The lines of the texts of some fields. -/
def text_lines (fields : List (Text × Text)) : List Text :=
  fields.flatMap fun field => (field_text field).splitOn '\n'

variable {field : Text × Text} {fields : List (Text × Text)} {settle : Text → Text}

theorem field_text_lines (hkey : Key field.1) : (field_text field).splitOn '\n'
    = (field.1 ++ ": ".toList ++ first_line field.2) :: extra_lines field.2 := by
  unfold field_text first_line extra_lines
  apply splitOn_append
  rw [List.mem_append, not_or]
  exact ⟨hkey.single_line, by decide⟩

theorem splitOn_of_single_line (h : '\n' ∉ s) : s.splitOn '\n' = [s] := by
  have hsplit := splitOn_append (s := []) h
  rw [List.append_nil] at hsplit
  rw [hsplit, List.splitOn_nil, List.headD_cons, List.append_nil, List.tail_cons]

theorem first_line_of_single_line (h : '\n' ∉ s) : first_line s = s := by
  unfold first_line
  rw [splitOn_of_single_line h, List.headD_cons]

theorem extra_lines_of_single_line (h : '\n' ∉ s) : extra_lines s = [] := by
  unfold extra_lines
  rw [splitOn_of_single_line h, List.tail_cons]

theorem contained_of_scalar (h : Scalar s) : Contained s := by
  have hextra := extra_lines_of_single_line h.single_line
  refine ⟨?_, by simp [hextra], by simp [hextra], by simp [hextra]⟩
  rw [first_line_of_single_line h.single_line]
  unfold bad_value lone_quote
  rw [h.trimmed, if_neg (fun hlist => not_mem_head h.unbracketed.1 hlist.1)]
  rintro (hquote | hquote)
  · exact h.unquoted.1 (hquote ▸ List.mem_singleton_self _)
  · exact h.unquoted.2 (hquote ▸ List.mem_singleton_self _)

/-! What the reader makes of a line depends on the line without the white space around it. -/

theorem lone_quote_congr (h : trim is_whitespace s = trim is_whitespace v) :
    lone_quote s ↔ lone_quote v := by
  unfold lone_quote
  rw [h]

theorem bad_value_congr (h : trim is_whitespace s = trim is_whitespace v) :
    bad_value s ↔ bad_value v := by
  unfold bad_value
  rw [h, lone_quote_congr h]

theorem field_key_congr (h : trim is_whitespace s = trim is_whitespace v) :
    field_key s = field_key v := by
  unfold field_key
  rw [h]

theorem bad_item_congr (h : trim is_whitespace s = trim is_whitespace v) :
    bad_item s ↔ bad_item v := by
  unfold bad_item
  rw [h]

/-- The first line of a field as the reader sees it. -/
theorem settled_first (hsettle : ∀ line, trim is_whitespace (settle line) = trim is_whitespace line)
    (hkey : Key field.1) :
    ∃ v, trim is_whitespace v = trim is_whitespace (first_line field.2)
      ∧ trim is_whitespace (settle (field.1 ++ ": ".toList ++ first_line field.2))
        = field.1 ++ ':' :: v := by
  obtain ⟨v, hv, hline⟩ := trim_field field.1 (first_line field.2)
  exact ⟨v, hv, (hsettle _).trans (trim_first hkey hline)⟩

theorem text_lines_cons : text_lines (field :: fields)
    = (field_text field).splitOn '\n' ++ text_lines fields := List.flatMap_cons

/-- **Contained texts are read into their own fields**: every other key keeps its value, and a
scalar is read as it was written. -/
theorem read_fields (hsettle : ∀ line, trim is_whitespace (settle line) = trim is_whitespace line)
    (hfields : ∀ field ∈ fields, Key field.1 ∧ Contained field.2)
    (hdistinct : (fields.map Prod.fst).Nodup) (hmode : state.in_links_block = false) :
    ∃ state', ((text_lines fields).map settle).foldlM parse_line state = some state'
      ∧ state'.in_links_block = false
      ∧ (∀ a, a ∉ fields.map Prod.fst → state'.result.get a = state.result.get a)
      ∧ ∀ field ∈ fields, Scalar field.2 → field.2 ≠ [] →
        state'.result.get field.1 = some (.String field.2) := by
  induction fields generalizing state with
  | nil => exact ⟨state, rfl, hmode, fun _ _ => rfl, by simp⟩
  | cons field fields ih =>
    obtain ⟨hkey, hcontained⟩ := hfields field List.mem_cons_self
    rw [List.map_cons, List.nodup_cons] at hdistinct
    obtain ⟨v, hv, hline⟩ := settled_first hsettle hkey
    have hextra : ∀ l ∈ (extra_lines field.2).map settle, field_key l = none ∧ ¬ bad_item l := by
      intro l hl
      obtain ⟨line, hline, rfl⟩ := List.mem_map.mp hl
      rw [field_key_congr (hsettle line), bad_item_congr (hsettle line)]
      exact ⟨hcontained.keyless line hline, hcontained.items line hline⟩
    obtain ⟨next, hnext, hafter, hscalar⟩ := read_field_lines hkey hmode hline
      (mt (bad_value_congr hv).mp hcontained.readable) hextra
    obtain ⟨last, hlast, hmode', hothers, hread⟩ :=
      ih (fun field hfield => hfields field (List.mem_cons_of_mem _ hfield)) hdistinct.2
        hafter.outside
    refine ⟨last, ?_, hmode', fun a ha => ?_, ?_⟩
    · rw [text_lines_cons, List.map_append, field_text_lines hkey, List.map_cons]
      exact read_append hnext hlast
    · rw [List.map_cons, List.mem_cons, not_or] at ha
      rw [hothers a ha.2, hafter.others a ha.1]
    · rw [List.forall_mem_cons]
      refine ⟨fun hplain hne => ?_, hread⟩
      have hfirst := first_line_of_single_line hplain.single_line
      rw [hfirst, hplain.trimmed] at hv
      rw [hothers _ hdistinct.1, hscalar (by rw [extra_lines_of_single_line hplain.single_line]; rfl)
        (hv.symm ▸ hplain) (hv.symm ▸ hne), hv]

/-- **A text that stops the reader stops it**, if no text before it has put a key into a
further line. -/
theorem read_fields_stuck
    (hsettle : ∀ line, trim is_whitespace (settle line) = trim is_whitespace line)
    (hfields : ∀ field ∈ fields, Key field.1 ∧ ∀ line ∈ extra_lines field.2, field_key line = none)
    (hmode : state.in_links_block = false)
    (hbad : ∃ field ∈ fields, bad_value (first_line field.2)
      ∨ ∃ line ∈ extra_lines field.2, bad_item line) :
    ((text_lines fields).map settle).foldlM parse_line state = none := by
  induction fields generalizing state with
  | nil =>
    obtain ⟨field, hfield, -⟩ := hbad
    exact absurd hfield List.not_mem_nil
  | cons field fields ih =>
    obtain ⟨hkey, hkeyless⟩ := hfields field List.mem_cons_self
    obtain ⟨v, hv, hline⟩ := settled_first hsettle hkey
    have hextra : ∀ l ∈ (extra_lines field.2).map settle, field_key l = none := by
      intro l hl
      obtain ⟨line, hline, rfl⟩ := List.mem_map.mp hl
      rw [field_key_congr (hsettle line)]
      exact hkeyless line hline
    have hitems : (∃ l ∈ (extra_lines field.2).map settle, bad_item l)
        ↔ ∃ line ∈ extra_lines field.2, bad_item line := by
      simp only [List.mem_map, exists_exists_and_eq_and, bad_item_congr (hsettle _)]
    rw [text_lines_cons, List.map_append, field_text_lines hkey, List.map_cons, List.foldlM_append]
    by_cases hfirst : bad_value (first_line field.2) ∨ ∃ line ∈ extra_lines field.2, bad_item line
    · rw [read_field_stuck hkey hmode hline hextra
        (hfirst.imp (bad_value_congr hv).mpr hitems.mpr)]
      rfl
    · rw [not_or] at hfirst
      have hgood : ∀ l ∈ (extra_lines field.2).map settle, field_key l = none ∧ ¬ bad_item l :=
        fun l hl => ⟨hextra l hl, fun hitem => hfirst.2 (hitems.mp ⟨l, hl, hitem⟩)⟩
      obtain ⟨next, hnext, hafter, -⟩ := read_field_lines hkey hmode hline
        (mt (bad_value_congr hv).mp hfirst.1) hgood
      rw [hnext]
      refine ih (fun field hfield => hfields field (List.mem_cons_of_mem _ hfield)) hafter.outside ?_
      obtain ⟨other, hother, hbad⟩ := hbad
      rcases List.mem_cons.mp hother with rfl | hother
      · exact absurd hbad (not_or.mpr hfirst)
      · exact ⟨other, hother, hbad⟩

theorem field_key_first (hsettle : ∀ line, trim is_whitespace (settle line) = trim is_whitespace line)
    (hkey : Key field.1) :
    field_key (settle (field.1 ++ ": ".toList ++ first_line field.2)) = some field.1 := by
  obtain ⟨v, -, hline⟩ := settled_first hsettle hkey
  unfold field_key
  rw [hline, if_neg (head_of_key hkey _), split_once_append hkey.no_colon, Option.map_some,
    hkey.trimmed]

/-- The keys that the reader meets: those that were written, and those of the further lines. -/
theorem field_keys (hsettle : ∀ line, trim is_whitespace (settle line) = trim is_whitespace line)
    (hfields : ∀ field ∈ fields, Key field.1) :
    ((text_lines fields).map settle).filterMap field_key
      = fields.flatMap fun field => field.1 :: (extra_lines field.2).filterMap field_key := by
  induction fields with
  | nil => rfl
  | cons field fields ih =>
    obtain ⟨hkey, hfields⟩ := List.forall_mem_cons.mp hfields
    have hextra : ((extra_lines field.2).map settle).filterMap field_key
        = (extra_lines field.2).filterMap field_key := by
      rw [List.filterMap_map]
      exact List.filterMap_congr fun line _ => field_key_congr (hsettle line)
    rw [text_lines_cons, List.map_append, List.filterMap_append, ih hfields, field_text_lines hkey,
      List.map_cons, List.filterMap_cons_some (field_key_first hsettle hkey), hextra,
      List.flatMap_cons]

/-- **The keys are those that were written exactly when no further line has one.** -/
theorem field_keys_iff (hsettle : ∀ line, trim is_whitespace (settle line) = trim is_whitespace line)
    (hfields : ∀ field ∈ fields, Key field.1) :
    ((text_lines fields).map settle).filterMap field_key = fields.map Prod.fst
      ↔ ∀ field ∈ fields, ∀ line ∈ extra_lines field.2, field_key line = none := by
  rw [field_keys hsettle hfields]
  have hlength : ∀ fields : List (Text × Text),
      (fields.flatMap fun field => field.1 :: (extra_lines field.2).filterMap field_key).length
        = fields.length
          + (fields.flatMap fun field => (extra_lines field.2).filterMap field_key).length := by
    intro fields
    induction fields with
    | nil => rfl
    | cons field fields ih =>
      simp only [List.flatMap_cons, List.length_append, List.length_cons] at ih ⊢
      omega
  have hnone : (∀ field ∈ fields, ∀ line ∈ extra_lines field.2, field_key line = none)
      ↔ fields.flatMap (fun field => (extra_lines field.2).filterMap field_key) = [] := by
    simp only [List.flatMap_eq_nil_iff, List.filterMap_eq_nil_iff]
  rw [hnone]
  constructor
  · intro hkeys
    have hsame := congrArg List.length hkeys
    rw [hlength, List.length_map] at hsame
    exact List.eq_nil_of_length_eq_zero (by omega)
  · intro hempty
    rw [List.flatMap_eq_nil_iff] at hempty
    clear hfields hnone
    induction fields with
    | nil => rfl
    | cons field fields ih =>
      obtain ⟨hfirst, hrest⟩ := List.forall_mem_cons.mp hempty
      rw [List.flatMap_cons, ih hrest, hfirst]
      rfl

/-! ## The frontmatter of a node -/

/-- The text of an inline list. -/
def tags_text (tags : List Text) : Text := '[' :: ", ".toList.intercalate tags ++ [']']

/-- The fields that every node has, in the order of the writer. -/
def written_fields (node : BrainNode) : List (Text × Text) :=
  [("id".toList, node.id), ("title".toList, node.title), ("type".toList, node.node_type),
    ("brain".toList, node.brain), ("agent".toList, node.agent),
    ("tags".toList, tags_text node.tags), ("status".toList, node.status),
    ("visibility".toList, node.visibility), ("created".toList, node.created),
    ("updated".toList, node.updated)]

/-- The lines of the frontmatter as they were written, less the carriage returns at their ends. -/
def seen_lines (node : BrainNode) : List Text :=
  (text_lines (written_fields node)).map strip_carriage_return

/-- A node without the fields that can be left out. -/
structure Bare (node : BrainNode) : Prop where
  aliases : node.aliases = []
  math_score_at : node.math_score_at = none
  valid_from : node.valid_from = none
  valid_to : node.valid_to = none
  validity : node.validity = []
  summary : node.summary = []
  links : node.links = []

variable {node : BrainNode}

theorem written_fields_keys : ∀ field ∈ written_fields node, Key field.1 := by
  simp only [written_fields, List.forall_mem_cons]
  decide

theorem written_fields_distinct : ((written_fields node).map Prod.fst).Nodup := by
  simp only [written_fields, List.map_cons, List.map_nil]
  decide

theorem frontmatter_lines_bare (h : Bare node) :
    frontmatter_lines node = (written_fields node).map field_text := by
  unfold frontmatter_lines non_empty_line
  rw [h.aliases, h.math_score_at, h.valid_from, h.valid_to, h.validity, h.summary, h.links]
  rfl

theorem seen_lines_single : ∀ line ∈ seen_lines node, '\n' ∉ line := by
  intro line hline
  obtain ⟨text, htext, rfl⟩ := List.mem_map.mp hline
  obtain ⟨field, -, htext⟩ := List.mem_flatMap.mp htext
  rcases strip_carriage_return_cases text with hstrip | hstrip
  · rw [hstrip]
    exact newline_not_mem_splitOn text htext
  · intro hnewline
    refine newline_not_mem_splitOn text htext ?_
    rw [hstrip]
    exact List.mem_append_left _ hnewline

/-- The identifier comes first. -/
theorem seen_lines_eq : ∃ rest, seen_lines node
    = strip_carriage_return ("id".toList ++ ": ".toList ++ first_line node.id) :: rest := by
  have hkey : Key "id".toList := by decide
  unfold seen_lines written_fields
  rw [text_lines_cons, @field_text_lines ("id".toList, node.id) hkey]
  exact ⟨_, rfl⟩

theorem seen_lines_ne_nil : seen_lines node ≠ [] := by
  obtain ⟨rest, hrest⟩ := @seen_lines_eq node
  rw [hrest]
  exact List.cons_ne_nil _ _

/-- The text as the reader takes it up. -/
theorem rendered_text (h : Bare node) : ∃ body, replace_crlf (render_brain_node node)
    = "---\n".toList ++ (join (seen_lines node) ++ '\n' :: ("---".toList ++ '\n' :: body)) := by
  have htext : render_brain_node node
      = unlines ("---".toList :: text_lines (written_fields node) ++ ["---".toList])
        ++ ("# ".toList ++ node.title ++ "\n\n".toList ++ node.body ++ "\n".toList) := by
    have hlines : (frontmatter_lines node).flatMap (· ++ ['\n'])
        = unlines (text_lines (written_fields node)) := by
      unfold text_lines
      rw [frontmatter_lines_bare h, ← List.flatMap_map, unlines_flatMap_splitOn]
      rfl
    unfold render_brain_node
    rw [hlines, List.cons_append, unlines_cons, unlines_append]
    unfold unlines
    simp
  have hsingle : ∀ line ∈ "---".toList :: text_lines (written_fields node) ++ ["---".toList],
      '\n' ∉ line := by
    simp only [List.cons_append, List.forall_mem_cons, List.forall_mem_append]
    refine ⟨by decide, fun line hline => ?_, by decide, List.forall_mem_nil _⟩
    obtain ⟨field, -, hline⟩ := List.mem_flatMap.mp hline
    exact newline_not_mem_splitOn line hline
  have hmarker : strip_carriage_return "---".toList = "---".toList := by decide
  have hlines : unlines ("---".toList :: seen_lines node ++ ["---".toList])
      = "---\n".toList ++ (join (seen_lines node) ++ '\n' :: ("---".toList ++ ['\n'])) := by
    rw [List.cons_append, unlines_cons, unlines_append, unlines_eq_join seen_lines_ne_nil]
    unfold unlines
    simp
  refine ⟨replace_crlf
    ("# ".toList ++ node.title ++ "\n\n".toList ++ node.body ++ "\n".toList), ?_⟩
  rw [htext, replace_crlf_unlines hsingle, List.map_append, List.map_cons, List.map_singleton,
    hmarker]
  refine (congrArg (· ++ _) hlines).trans ?_
  simp

/-- What follows the first line of the frontmatter: no first line of a field is a delimiter. -/
theorem delimiter_iff : (∃ line ∈ (seen_lines node).tail, "---".toList.isPrefixOf line = true)
    ↔ ∃ field ∈ written_fields node, ∃ line ∈ extra_lines field.2,
      "---".toList.isPrefixOf line = true := by
  have hstart : ∀ (key t : Text), Key key → "---".toList.isPrefixOf (key ++ t) = false :=
    fun key t hkey => isPrefixOf_of_head (head_of_key hkey t) ['-', '-']
  have hall : ∀ fields : List (Text × Text), (∀ field ∈ fields, Key field.1) →
      ((∃ line ∈ text_lines fields, "---".toList.isPrefixOf line = true)
        ↔ ∃ field ∈ fields, ∃ line ∈ extra_lines field.2, "---".toList.isPrefixOf line = true) := by
    intro fields hkeys
    unfold text_lines
    constructor
    · rintro ⟨line, hline, hprefix⟩
      obtain ⟨field, hfield, hline⟩ := List.mem_flatMap.mp hline
      rw [field_text_lines (hkeys field hfield)] at hline
      rcases List.mem_cons.mp hline with rfl | hline
      · rw [List.append_assoc, hstart _ _ (hkeys field hfield)] at hprefix
        exact absurd hprefix Bool.false_ne_true
      · exact ⟨field, hfield, line, hline, hprefix⟩
    · rintro ⟨field, hfield, line, hline, hprefix⟩
      refine ⟨line, List.mem_flatMap.mpr ⟨field, hfield, ?_⟩, hprefix⟩
      rw [field_text_lines (hkeys field hfield)]
      exact List.mem_cons_of_mem _ hline
  obtain ⟨rest, hseen⟩ := @seen_lines_eq node
  have hid : "---".toList.isPrefixOf
      (strip_carriage_return ("id".toList ++ ": ".toList ++ first_line node.id)) = false := by
    rw [isPrefixOf_strip (by decide), List.append_assoc]
    exact hstart _ _ (by decide)
  rw [← hall _ written_fields_keys]
  have hmap : (∃ line ∈ text_lines (written_fields node), "---".toList.isPrefixOf line = true)
      ↔ ∃ line ∈ seen_lines node, "---".toList.isPrefixOf line = true := by
    unfold seen_lines
    simp only [List.mem_map, exists_exists_and_eq_and, @isPrefixOf_strip "---".toList (by decide)]
  rw [hmap, hseen]
  simp only [List.tail_cons, List.mem_cons, exists_eq_or_imp, hid, Bool.false_eq_true, false_or]

/-- **The reader takes up the frontmatter that was written exactly when no further line of a
text starts with the delimiter.** -/
theorem captures_iff (h : Bare node) :
    (∃ body, frontmatter_captures (replace_crlf (render_brain_node node))
        = some (join (seen_lines node), body))
      ↔ ∀ field ∈ written_fields node, ∀ line ∈ extra_lines field.2,
        "---".toList.isPrefixOf line = false := by
  obtain ⟨body, htext⟩ := rendered_text h
  have hcaptures : ∀ fm_raw rest, split_once "\n---".toList
      (join (seen_lines node) ++ '\n' :: ("---".toList ++ '\n' :: body)) = some (fm_raw, rest) →
      frontmatter_captures (replace_crlf (render_brain_node node))
        = some (fm_raw, if rest.head? = some '\n' then rest.drop 1 else rest) := by
    intro fm_raw rest hsplit
    have hdrop : (replace_crlf (render_brain_node node)).drop 4
        = join (seen_lines node) ++ '\n' :: ("---".toList ++ '\n' :: body) := by
      rw [htext]
      rfl
    have hstart : "---\n".toList.isPrefixOf (replace_crlf (render_brain_node node)) = true := by
      rw [htext]
      rfl
    unfold frontmatter_captures
    rw [if_pos hstart, hdrop, hsplit]
    rfl
  have hmarker : '\n' ∉ "---".toList := by decide
  constructor
  · rintro ⟨body', hbody⟩
    by_contra hdelimited
    push Not at hdelimited
    obtain ⟨field, hfield, line, hline, hprefix⟩ := hdelimited
    have hmarked := delimiter_iff.mpr ⟨field, hfield, line, hline, Bool.not_eq_false _ ▸ hprefix⟩
    obtain ⟨before, after, rest, hparts, hafter, hbefore, hsplit⟩ :=
      split_once_join_marker (s := "---".toList ++ '\n' :: body) hmarker seen_lines_single hmarked
    rw [hcaptures (join before) rest hsplit, Option.some_inj, Prod.mk.injEq, hparts] at hbody
    exact join_injective_length hbefore hafter hbody.1
  · intro hundelimited
    have hother : ∀ line ∈ (seen_lines node).tail, "---".toList.isPrefixOf line = false := by
      intro line hline
      by_contra hprefix
      obtain ⟨field, hfield, line, hline, hprefix⟩ :=
        delimiter_iff.mp ⟨line, hline, Bool.not_eq_false _ ▸ hprefix⟩
      rw [hundelimited field hfield line hline] at hprefix
      exact Bool.false_ne_true hprefix
    have hsplit := split_once_join (s := '\n' :: body) hmarker seen_lines_ne_nil seen_lines_single hother
    exact ⟨_, hcaptures _ _ hsplit⟩

/-- The lines that the reader meets in it. -/
theorem lines_seen (h : Scalar node.updated) : lines (join (seen_lines node))
    = (text_lines (written_fields node)).map fun line =>
      strip_carriage_return (strip_carriage_return line) := by
  have hkey : Key "updated".toList := by decide
  have hsplit : (field_text ("updated".toList, node.updated)).splitOn '\n'
      = ["updated".toList ++ ": ".toList ++ node.updated] := by
    rw [field_text_lines hkey]
    dsimp only
    rw [first_line_of_single_line h.single_line, extra_lines_of_single_line h.single_line]
  obtain ⟨before, hbefore⟩ : ∃ before, text_lines (written_fields node)
      = before ++ ["updated".toList ++ ": ".toList ++ node.updated] := by
    have hfields : written_fields node
        = (written_fields node).dropLast ++ [("updated".toList, node.updated)] := rfl
    refine ⟨text_lines (written_fields node).dropLast, ?_⟩
    rw [← hsplit]
    conv_lhs => rw [hfields]
    unfold text_lines
    rw [List.flatMap_append, List.flatMap_singleton]
  have hlast : strip_carriage_return ("updated".toList ++ ": ".toList ++ node.updated)
      = "updated".toList ++ ": ".toList ++ node.updated := by
    apply if_neg
    by_cases hempty : node.updated = []
    · rw [hempty]
      decide
    · rw [List.getLast?_append_of_ne_nil _ hempty]
      exact getLast_of_trimmed (trim_end_of_trimmed h.trimmed)
  rw [lines_join seen_lines_ne_nil seen_lines_single, seen_lines, hbefore, List.map_append,
    List.map_singleton, hlast, lines_of_concat (by simp), List.map_append, List.map_singleton,
    hlast, hlast, List.map_map]
  rfl

theorem trim_settled (line : Text) :
    trim is_whitespace (strip_carriage_return (strip_carriage_return line))
      = trim is_whitespace line := by
  rw [trim_strip (by decide), trim_strip (by decide)]

/-- A file whose frontmatter is taken up is read from its lines. -/
theorem parse_of_captures {body : Text} (hupdated : Scalar node.updated)
    (h : frontmatter_captures (replace_crlf (render_brain_node node))
      = some (join (seen_lines node), body)) (file_stem : Option Text) :
    parse_brain_node_text (render_brain_node node) file_stem
      = (((text_lines (written_fields node)).map fun line =>
          strip_carriage_return (strip_carriage_return line)).foldlM parse_line
            ParserState.initial).map fun state =>
        let parsed := node_of_fields
          (if state.in_links_block then (flush_link state).result else state.result) body
        { parsed with
          id := if parsed.id = [] then stem_id file_stem else parsed.id
          title := if parsed.title = [] then (h1_title body).getD [] else parsed.title } := by
  unfold parse_brain_node_text split_frontmatter parse_yaml_frontmatter
  dsimp only
  rw [h]
  dsimp only
  rw [lines_seen hupdated]
  cases ((text_lines (written_fields node)).map fun line =>
    strip_carriage_return (strip_carriage_return line)).foldlM parse_line ParserState.initial with
  | none => rfl
  | some state =>
    simp only [Option.bind_eq_bind, Option.bind_some, Option.map_some]
    by_cases hmode : state.in_links_block = true
    · rw [if_pos hmode, if_pos hmode]
      rfl
    · rw [if_neg hmode, if_neg hmode]
      rfl

end BrainStorage

/-! ## Readers of a private node -/

namespace BrainTools

open OvcaCore.BrainStorage

section Readers

variable (to_lowercase : Text → Text)

/-- A caller who does not see private nodes. -/
def unprivileged (caller : Text) : Prop :=
  ¬ (caller = "owner".toList ∨ caller = "coordinator".toList)

instance (caller : Text) : Decidable (unprivileged caller) := by
  unfold unprivileged
  infer_instance

/-- To such a caller every tool answers as if the brain did not hold the node. -/
structure Hidden (node : BrainNode) : Prop where
  read : ∀ before after generated_at args,
    unprivileged (caller_arg to_lowercase args.caller args.caller_agent) →
    brain_read to_lowercase (before ++ node :: after) generated_at args
      = brain_read to_lowercase (before ++ after) generated_at args
  search : ∀ before after args,
    unprivileged (caller_arg to_lowercase args.caller args.caller_agent) →
    brain_search to_lowercase (before ++ node :: after) args
      = brain_search to_lowercase (before ++ after) args
  diff : ∀ before after args,
    unprivileged (caller_arg to_lowercase args.caller args.caller_agent) →
    brain_diff to_lowercase (before ++ node :: after) args
      = brain_diff to_lowercase (before ++ after) args

/-- What `brain_write` assigns besides the texts of the caller. -/
structure SameProvenance (parsed node : BrainNode) : Prop where
  id : parsed.id = node.id
  brain : parsed.brain = node.brain
  agent : parsed.agent = node.agent
  visibility : parsed.visibility = node.visibility
  created : parsed.created = node.created
  updated : parsed.updated = node.updated

/-- The file of a node: its frontmatter is taken up as it was written, with the keys that were
written, and the node that is read from it has the provenance that was written and is hidden. -/
structure Intact (node : BrainNode) (file_stem : Option Text) : Prop where
  taken_up : ∃ body, frontmatter_captures (replace_crlf (render_brain_node node))
    = some (join (seen_lines node), body)
  keys : (lines (join (seen_lines node))).filterMap field_key
    = (written_fields node).map Prod.fst
  read_back : ∃ parsed, parse_brain_node_text (render_brain_node node) file_stem = some parsed
    ∧ SameProvenance parsed node ∧ Hidden to_lowercase parsed

variable {to_lowercase} {node : BrainNode}

theorem visible_private {caller : Text} (hcaller : unprivileged caller)
    (h : node.visibility = "private".toList) (before after : List BrainNode) :
    visible (before ++ node :: after) caller = visible (before ++ after) caller := by
  unfold visible
  rw [if_neg hcaller, if_neg hcaller, List.filter_append, List.filter_append,
    List.filter_cons_of_neg (by simp [h])]

/-- **A private node is hidden.** -/
theorem hidden_of_private (h : node.visibility = "private".toList) : Hidden to_lowercase node where
  read before after generated_at args hcaller := by
    unfold brain_read
    dsimp only
    rw [visible_private hcaller h]
  search before after args hcaller := by
    unfold brain_search
    dsimp only
    rw [visible_private hcaller h]
  diff before after args hcaller := by
    unfold brain_diff
    dsimp only
    rw [visible_private hcaller h]

/-! ## What brain_write assigns -/

/-- The characters of an RFC 3339 timestamp. -/
def timestamp_chars : List Char := "0123456789-:.TZ+".toList

/-- The digits of a simple UUID. -/
def id_chars : List Char := "0123456789abcdef".toList

variable {now node_id : Text} {args : WriteArgs}

theorem scalar_of_chars {s : Text} {chars : List Char} (h : ∀ c ∈ s, c ∈ chars)
    (hchars : ∀ c ∈ chars, is_whitespace c = false ∧ c ∉ ['\n', '"', '\'', '[', ']']) : Scalar s := by
  have hnot : ∀ c ∈ ['\n', '"', '\'', '[', ']'], c ∉ s := fun c hc hmem =>
    (hchars c (h c hmem)).2 hc
  have hkept : ∀ c ∈ s, ¬ is_whitespace c = true := by
    intro c hc
    rw [(hchars c (h c hc)).1]
    exact Bool.false_ne_true
  refine ⟨?_, hnot _ (by simp), ⟨hnot _ (by simp), hnot _ (by simp)⟩,
    ⟨hnot _ (by simp), hnot _ (by simp)⟩⟩
  apply trim_of_ends
  · unfold trim_start
    rw [List.dropWhile_eq_self_iff]
    exact fun hpos => hkept _ (List.getElem_mem hpos)
  · unfold trim_end
    rw [List.rdropWhile_eq_self_iff]
    exact fun hne => hkept _ (List.getLast_mem hne)

theorem scalar_of_known {brain : Text} (h : brain ∈ known_brains) : Scalar brain ∧ brain ≠ [] := by
  have hall : ∀ brain ∈ known_brains, Scalar brain ∧ brain ≠ [] := by decide
  exact hall brain h

/-- A node that is written goes to a known brain, from the owner or from the brain's own agent. -/
theorem brain_write_ok (h : brain_write to_lowercase now node_id args = .ok node) :
    write_brain to_lowercase args ∈ known_brains
      ∧ (str_arg to_lowercase args.caller = "owner".toList
        ∨ str_arg to_lowercase args.caller = write_brain to_lowercase args)
      ∧ node = { BrainNode.default with
        id := node_id
        title := args.title
        node_type := if args.node_type = [] then "Note".toList else args.node_type
        brain := write_brain to_lowercase args
        agent := str_arg to_lowercase args.caller
        tags := args.tags
        visibility := if args.visibility = [] then "team".toList else args.visibility
        body := args.body
        created := now
        updated := now } := by
  unfold brain_write at h
  dsimp only at h
  by_cases hcaller : str_arg to_lowercase args.caller = []
  · rw [if_pos hcaller] at h
    exact nomatch h
  rw [if_neg hcaller] at h
  cases hcheck : check_write to_lowercase (str_arg to_lowercase args.caller)
      (write_brain to_lowercase args) with
  | some err =>
    rw [hcheck] at h
    exact nomatch h
  | none =>
    rw [hcheck] at h
    dsimp only at h
    by_cases hknown : write_brain to_lowercase args ∈ known_brains
    · rw [if_neg (not_not_intro hknown)] at h
      refine ⟨hknown, ?_, (Except.ok.inj h).symm⟩
      by_cases howner : str_arg to_lowercase args.caller = "owner".toList
      · exact .inl howner
      · refine .inr (if_neg fun hboth => howner hboth.1).symm
    · rw [if_pos hknown] at h
      exact nomatch h

/-- A node whose fields other than the title, the type and the tags are plain. -/
structure Assigned (node : BrainNode) : Prop where
  bare : Bare node
  scalars : ∀ s ∈ [node.id, node.brain, node.agent, node.status, node.visibility, node.created,
    node.updated], Scalar s ∧ s ≠ []

theorem assigned_of_write (hnow : now ≠ [] ∧ ∀ c ∈ now, c ∈ timestamp_chars)
    (hid : node_id ≠ [] ∧ ∀ c ∈ node_id, c ∈ id_chars)
    (hprivate : args.visibility = "private".toList)
    (hok : brain_write to_lowercase now node_id args = .ok node) :
    Assigned node ∧ node.visibility = "private".toList := by
  obtain ⟨hknown, hagent, rfl⟩ := brain_write_ok hok
  have hvisibility : (if args.visibility = [] then "team".toList else args.visibility)
      = "private".toList := by
    rw [hprivate]
    decide
  have hcaller : Scalar (str_arg to_lowercase args.caller) ∧ str_arg to_lowercase args.caller ≠ [] := by
    rcases hagent with hagent | hagent
    · rw [hagent]
      decide
    · rw [hagent]
      exact scalar_of_known hknown
  have hnow_scalar : Scalar now := scalar_of_chars hnow.2 (by decide)
  refine ⟨⟨⟨rfl, rfl, rfl, rfl, rfl, rfl, rfl⟩, ?_⟩, hvisibility⟩
  dsimp only
  rw [hvisibility]
  simp only [List.forall_mem_cons]
  exact ⟨⟨scalar_of_chars hid.2 (by decide), hid.1⟩, scalar_of_known hknown, hcaller, by decide,
    by decide, ⟨hnow_scalar, hnow.1⟩, ⟨hnow_scalar, hnow.1⟩, List.forall_mem_nil _⟩

theorem contained_fields_iff (h : Assigned node) :
    (∀ field ∈ written_fields node, Contained field.2)
      ↔ Contained node.title ∧ Contained node.node_type ∧ Contained (tags_text node.tags) := by
  have hplain : ∀ s ∈ [node.id, node.brain, node.agent, node.status, node.visibility, node.created,
      node.updated], Contained s := fun s hs => contained_of_scalar (h.scalars s hs).1
  simp only [List.forall_mem_cons] at hplain
  simp only [written_fields, List.forall_mem_cons]
  tauto

/-- What is read from contained texts. -/
theorem read_provenance (h : Assigned node)
    (hcontained : ∀ field ∈ written_fields node, Contained field.2) {body : Text}
    (hbody : frontmatter_captures (replace_crlf (render_brain_node node))
      = some (join (seen_lines node), body)) (file_stem : Option Text) :
    ∃ parsed, parse_brain_node_text (render_brain_node node) file_stem = some parsed
      ∧ SameProvenance parsed node := by
  have hupdated : Scalar node.updated := (h.scalars node.updated (by simp)).1
  obtain ⟨state, hstate, hmode, -, hread⟩ := @read_fields ParserState.initial (written_fields node)
    (fun line => strip_carriage_return (strip_carriage_return line)) trim_settled
    (fun field hfield => ⟨written_fields_keys field hfield, hcontained field hfield⟩)
    written_fields_distinct rfl
  have hmode : ¬ state.in_links_block = true := by
    rw [hmode]
    exact Bool.false_ne_true
  have hfield : ∀ (name : String) (default text : Text),
      (name.toList, text) ∈ written_fields node →
      text ∈ [node.id, node.brain, node.agent, node.status, node.visibility, node.created,
        node.updated] → str_field state.result name default = text := by
    intro name default text hfield htext
    obtain ⟨hscalar, hne⟩ := h.scalars text htext
    unfold str_field
    rw [hread _ hfield hscalar hne]
    rfl
  have hid : str_field state.result "id" [] = node.id :=
    hfield "id" [] node.id (by simp [written_fields]) (by simp)
  have hne : str_field state.result "id" [] ≠ [] := by
    rw [hid]
    exact (h.scalars node.id (by simp)).2
  have hparsed := parse_of_captures hupdated hbody file_stem
  rw [hstate, Option.map_some, if_neg hmode] at hparsed
  refine ⟨_, hparsed, (if_neg hne).trans hid, ?_, ?_, ?_, ?_, ?_⟩
  · exact hfield "brain" [] node.brain (by simp [written_fields]) (by simp)
  · exact hfield "agent" [] node.agent (by simp [written_fields]) (by simp)
  · exact hfield "visibility" "team".toList node.visibility (by simp [written_fields]) (by simp)
  · exact hfield "created" [] node.created (by simp [written_fields]) (by simp)
  · exact hfield "updated" [] node.updated (by simp [written_fields]) (by simp)

/-- **The file of a private node is intact exactly when all its texts are contained.** -/
theorem intact_iff (h : Assigned node) (hprivate : node.visibility = "private".toList)
    (file_stem : Option Text) :
    Intact to_lowercase node file_stem ↔ ∀ field ∈ written_fields node, Contained field.2 := by
  have hupdated : Scalar node.updated := (h.scalars node.updated (by simp)).1
  have hkeys := @field_keys_iff (written_fields node)
    (fun line => strip_carriage_return (strip_carriage_return line)) trim_settled
    written_fields_keys
  constructor
  · rintro ⟨⟨body, hbody⟩, hmet, ⟨parsed, hparsed, -⟩⟩
    rw [lines_seen hupdated, hkeys] at hmet
    have hundelimited := (captures_iff h.bare).mp ⟨body, hbody⟩
    -- a text that stops the reader leaves nothing to read back
    have hreadable : ¬ ∃ field ∈ written_fields node, bad_value (first_line field.2)
        ∨ ∃ line ∈ extra_lines field.2, bad_item line := by
      intro hbad
      rw [parse_of_captures hupdated hbody, read_fields_stuck trim_settled
        (fun field hfield => ⟨written_fields_keys field hfield, hmet field hfield⟩) rfl hbad]
        at hparsed
      exact nomatch hparsed
    intro field hfield
    refine ⟨fun hbad => hreadable ⟨field, hfield, .inl hbad⟩, hmet field hfield,
      hundelimited field hfield, ?_⟩
    exact fun line hline hbad => hreadable ⟨field, hfield, .inr ⟨line, hline, hbad⟩⟩
  · intro hcontained
    obtain ⟨body, hbody⟩ := (captures_iff h.bare).mpr fun field hfield =>
      (hcontained field hfield).undelimited
    obtain ⟨parsed, hparsed, hsame⟩ := read_provenance h hcontained hbody file_stem
    refine ⟨⟨body, hbody⟩, ?_, parsed, hparsed, hsame, hidden_of_private ?_⟩
    · rw [lines_seen hupdated, hkeys]
      exact fun field hfield => (hcontained field hfield).keyless
    · rw [hsame.visibility, hprivate]

/-- **What a private node keeps**: for every call that writes one, its file is intact exactly
when the frontmatter takes in the title, the type and the tags as one field each. -/
theorem private_node_intact_iff (hnow : now ≠ [] ∧ ∀ c ∈ now, c ∈ timestamp_chars)
    (hid : node_id ≠ [] ∧ ∀ c ∈ node_id, c ∈ id_chars)
    (hprivate : args.visibility = "private".toList)
    (hok : brain_write to_lowercase now node_id args = .ok node) (file_stem : Option Text) :
    Intact to_lowercase node file_stem
      ↔ Contained args.title ∧ Contained args.node_type ∧ Contained (tags_text args.tags) := by
  obtain ⟨hassigned, hvisibility⟩ := assigned_of_write hnow hid hprivate hok
  rw [intact_iff hassigned hvisibility, contained_fields_iff hassigned]
  obtain ⟨-, -, rfl⟩ := brain_write_ok hok
  dsimp only
  by_cases hempty : args.node_type = []
  · -- an absent type is written as a plain one
    have hnote : Contained "Note".toList := contained_of_scalar (by decide)
    have hnone : Contained ([] : Text) := contained_of_scalar (by decide)
    rw [if_pos hempty, hempty]
    tauto
  · rw [if_neg hempty]

end Readers

/-- A private node of the oracle with some title. -/
def sample_args (title : Text) : WriteArgs where
  caller := "owner".toList
  brain := "oracle".toList
  title := title
  body := "Draft.".toList
  node_type := []
  visibility := "private".toList
  tags := ["ops".toList, "plan".toList]

def sample_now : Text := "2026-01-01T00:00:00+00:00".toList

def sample_id : Text := "0123456789ab".toList

/-- The reviewer reads the oracle's brain. -/
def reviewer_args : ReadArgs where
  caller := "reviewer".toList
  caller_agent := []
  brain := []
  limit := none
  type := []
  node_type := []
  tag := []

/-- The node that is written with some title. -/
def sample_written (title : Text) : BrainNode where
  __ := BrainNode.default
  id := sample_id
  title := title
  node_type := "Note".toList
  brain := "oracle".toList
  agent := "owner".toList
  tags := ["ops".toList, "plan".toList]
  visibility := "private".toList
  body := "Draft.".toList
  created := sample_now
  updated := sample_now

/-- A title of two lines, the second without a key. -/
theorem private_node_intact_sample :
    Intact id (sample_written "Plan\nfor May".toList) none
      ↔ Contained "Plan\nfor May".toList ∧ Contained []
        ∧ Contained (tags_text ["ops".toList, "plan".toList]) :=
  @private_node_intact_iff id (sample_written "Plan\nfor May".toList) sample_now sample_id
    (sample_args "Plan\nfor May".toList) (by decide) (by decide) rfl
    (by decide) none

/-- A title that ends the frontmatter: the node loses its brain, its agent and its visibility,
and the reviewer reads it. A title can also put another identifier in, and one quote as the
title leaves a file that cannot be read. -/
theorem private_node_exposed :
    (∃ parsed, brain_write id sample_now sample_id (sample_args "Plan\n---".toList)
        = .ok (sample_written "Plan\n---".toList)
      ∧ parse_brain_node_text (render_brain_node (sample_written "Plan\n---".toList)) none
        = some parsed
      ∧ parsed.visibility = "team".toList ∧ parsed.agent = [] ∧ parsed.brain = []
      ∧ (brain_read id [parsed] sample_now reviewer_args).map ReadResult.nodes = .ok [parsed]
      ∧ ¬ Hidden id parsed)
    ∧ (brain_write id sample_now sample_id (sample_args "Plan\nid: other".toList)
        = .ok (sample_written "Plan\nid: other".toList)
      ∧ (parse_brain_node_text (render_brain_node
          (sample_written "Plan\nid: other".toList)) none).map BrainNode.id = some "other".toList)
    ∧ brain_write id sample_now sample_id (sample_args "\"".toList)
        = .ok (sample_written "\"".toList)
      ∧ parse_brain_node_text (render_brain_node (sample_written "\"".toList)) none = none := by
  refine ⟨⟨_, by decide, rfl, by decide, by decide, by decide,
    by decide +kernel, fun hhidden => ?_⟩, by decide +kernel, by decide +kernel⟩
  have hread := hhidden.read [] [] sample_now reviewer_args (by decide)
  revert hread
  decide

end BrainTools

end OvcaCore

/-
Writing a brain node and reading it back.

The frontmatter is a list of lines with a key each, then the block of links. A line is read
into the entry that it was written from (`parse_line_field`, `parse_line_list`), a run of lines
into the run of entries (`parse_entries`) and the block into the links (`parse_link_block`). So
every field that is written is read back (`round_trip`).
The body is read with the heading that the writer puts before it, so each round adds a heading
(`rounds_round_trip`).
-/
import OvcaCore.BrainNode

set_option autoImplicit false

namespace OvcaCore

open OvcaCore.Texts

namespace BrainStorage

/-! ## Texts that are written as they are -/

/-- A trimmed text on one line, without quotes and brackets. -/
structure Scalar (s : Text) : Prop where
  trimmed : trim is_whitespace s = s
  single_line : '\n' ∉ s
  unquoted : '"' ∉ s ∧ '\'' ∉ s
  unbracketed : '[' ∉ s ∧ ']' ∉ s

/-- An element of an inline list. -/
structure ListItem (s : Text) : Prop where
  scalar : Scalar s
  non_empty : s ≠ []
  no_comma : ',' ∉ s

instance (s : Text) : Decidable (Scalar s) :=
  decidable_of_iff (trim is_whitespace s = s ∧ '\n' ∉ s ∧ ('"' ∉ s ∧ '\'' ∉ s) ∧ '[' ∉ s ∧ ']' ∉ s)
    ⟨fun ⟨trimmed, single_line, unquoted, unbracketed⟩ =>
      ⟨trimmed, single_line, unquoted, unbracketed⟩,
      fun h => ⟨h.trimmed, h.single_line, h.unquoted, h.unbracketed⟩⟩

instance (s : Text) : Decidable (ListItem s) :=
  decidable_of_iff (Scalar s ∧ s ≠ [] ∧ ',' ∉ s)
    ⟨fun ⟨scalar, non_empty, no_comma⟩ => ⟨scalar, non_empty, no_comma⟩,
      fun h => ⟨h.scalar, h.non_empty, h.no_comma⟩⟩

variable {s key value : Text} {state : ParserState}

theorem not_mem_head {c : Char} (h : c ∉ s) : s.head? ≠ some c := by
  intro hhead
  exact h (List.mem_of_mem_head? hhead)

theorem not_mem_getLast {c : Char} (h : c ∉ s) : s.getLast? ≠ some c := by
  intro hlast
  exact h (List.mem_of_mem_getLast? hlast)

theorem Scalar.strip (h : Scalar s) : strip_scalar s = some s := by
  unfold strip_scalar
  dsimp only
  rw [h.trimmed, if_neg]
  rintro (hquoted | hquoted)
  · exact not_mem_head h.unquoted.1 hquoted.1
  · exact not_mem_head h.unquoted.2 hquoted.1

/-- A trimmed text does not end in a carriage return. -/
theorem getLast_of_trimmed (h : trim_end is_whitespace s = s) : s.getLast? ≠ some '\r' := by
  intro hlast
  have hne : s ≠ [] := by
    rintro rfl
    exact nomatch hlast
  have hend := List.rdropWhile_eq_self_iff.mp h hne
  rw [List.getLast?_eq_some_getLast hne] at hlast
  rw [Option.some.inj hlast] at hend
  exact hend (by decide)

/-! ## Lines with a key -/

/-- A key that the writer writes. -/
structure Key (key : Text) : Prop where
  trimmed : trim is_whitespace key = key
  non_empty : key ≠ []
  no_colon : ':' ∉ key
  no_dash : key.head? ≠ some '-'
  single_line : '\n' ∉ key
  not_links : key ≠ "links".toList

instance (key : Text) : Decidable (Key key) :=
  decidable_of_iff (trim is_whitespace key = key ∧ key ≠ [] ∧ ':' ∉ key ∧ key.head? ≠ some '-'
      ∧ '\n' ∉ key ∧ key ≠ "links".toList)
    ⟨fun ⟨trimmed, non_empty, no_colon, no_dash, single_line, not_links⟩ =>
      ⟨trimmed, non_empty, no_colon, no_dash, single_line, not_links⟩,
      fun h => ⟨h.trimmed, h.non_empty, h.no_colon, h.no_dash, h.single_line, h.not_links⟩⟩

/-- `"{key}: {value}"` as the reader sees it, with the white space at its end gone. -/
theorem trim_field (key value : Text) :
    ∃ v, trim is_whitespace v = trim is_whitespace value
      ∧ trim_end is_whitespace (key ++ ": ".toList ++ value) = key ++ ':' :: v := by
  have hcolon : is_whitespace ':' = false := by decide
  refine ⟨trim_end is_whitespace (' ' :: value), ?_, ?_⟩
  · rw [trim_trim_end]
    unfold trim
    rw [trim_start_cons_blank (by decide)]
  · rw [List.append_assoc]
    exact trim_end_append_cons hcolon

theorem head_of_key (hkey : Key key) (t : Text) : (key ++ t).head? ≠ some '-' := by
  rw [List.head?_append_of_ne_nil _ hkey.non_empty]
  exact hkey.no_dash

/-- Outside the links block, a line with a key is a normal line. -/
theorem parse_line_key {line v : Text} (hkey : Key key) (hmode : state.in_links_block = false)
    (hline : trim_end is_whitespace line = key ++ ':' :: v) {next : ParserState}
    (hnext : next.current_key = key)
    (hnormal : parse_normal_line (key ++ ':' :: v) state = some next) :
    parse_line state line = some next := by
  have hstart : trim_start is_whitespace (key ++ ':' :: v) = key ++ ':' :: v :=
    trim_start_append hkey.non_empty (trim_start_of_trimmed hkey.trimmed)
  have hend : trim_end is_whitespace (key ++ ':' :: v) = key ++ ':' :: v := by
    rw [← hline]
    exact List.rdropWhile_idempotent is_whitespace line
  unfold parse_line
  dsimp only
  rw [hline, trim_of_ends hstart hend, if_neg (by simp), hstart, hmode,
    if_neg (fun hlinks => Bool.false_ne_true hlinks.1),
    if_neg (fun hdash => head_of_key hkey _ hdash.1), hnormal]
  exact congrArg some (if_neg (hnext ▸ hkey.not_links))

/-- What the reader makes of a scalar: an empty one is the start of a list. -/
def scalar_value (value : Text) : Value := if value = [] then .Array [] else .String value

/-- **A scalar line is read into its entry.** -/
theorem parse_line_field (hkey : Key key) (hvalue : Scalar value)
    (hmode : state.in_links_block = false) (hnew : state.result.get key = none) :
    parse_line state (key ++ ": ".toList ++ value) = some { state with
      current_key := key
      result := state.result.insert key (scalar_value value) } := by
  obtain ⟨v, hv, hline⟩ := trim_field key value
  rw [hvalue.trimmed] at hv
  refine parse_line_key hkey hmode hline rfl ?_
  unfold parse_normal_line scalar_value
  rw [split_once_append hkey.no_colon]
  dsimp only
  rw [hkey.trimmed, hv]
  by_cases hempty : value = []
  · rw [if_pos hempty, if_pos hempty, HashMap.or_insert, hnew]
    rfl
  · rw [if_neg hempty, if_neg (fun hlist => not_mem_head hvalue.unbracketed.1 hlist.1), if_neg hempty,
      hvalue.strip]
    rfl

/-! ## Inline lists -/

variable {values : List Text}

theorem cons_intercalate {c : Char} (sep : Text) :
    c :: sep.intercalate (value :: values) = sep.intercalate ((c :: value) :: values) := by
  cases values with
  | nil => simp
  | cons next values =>
    rw [List.intercalate_cons_cons, List.intercalate_cons_cons]
    simp

/-- A join by `", "` is a join by `','` of texts that start with a space. -/
theorem intercalate_comma :
    ", ".toList.intercalate (value :: values)
      = [','].intercalate (value :: values.map (' ' :: ·)) := by
  induction values generalizing value with
  | nil => simp
  | cons next values ih =>
    have hspace : ", ".toList = [',', ' '] := rfl
    rw [List.intercalate_cons_cons, ih, List.map_cons, List.intercalate_cons_cons,
      ← cons_intercalate, hspace]
    simp

theorem mapM_map_eq_some {f : Text → Option Text} {g : Text → Text}
    (h : ∀ value ∈ values, f (g value) = some value) : (values.map g).mapM f = some values := by
  induction values with
  | nil => rfl
  | cons value values ih =>
    rw [List.map_cons, List.mapM_cons, h value List.mem_cons_self,
      ih (fun value hvalue => h value (List.mem_cons_of_mem _ hvalue))]
    rfl

/-- The inside of an inline list is read into its items. -/
theorem inline_items_join (h : ∀ value ∈ values, ListItem value) :
    inline_items (", ".toList.intercalate values) = some (values.map .String) := by
  cases values with
  | nil => rfl
  | cons value values =>
    have hvalue := h value List.mem_cons_self
    have hvalues : ∀ value ∈ values, ListItem value := fun value hmem =>
      h value (List.mem_cons_of_mem _ hmem)
    have hsplit : (", ".toList.intercalate (value :: values)).splitOn ','
        = value :: values.map (' ' :: ·) := by
      rw [intercalate_comma]
      refine List.splitOn_intercalate ',' ?_ (by simp)
      intro part hpart
      rcases List.mem_cons.mp hpart with rfl | hpart
      · exact hvalue.no_comma
      · obtain ⟨item, hitem, rfl⟩ := List.mem_map.mp hpart
        rw [List.mem_cons, not_or]
        exact ⟨by decide, (hvalues item hitem).no_comma⟩
    have hread : ∀ item ∈ values,
        strip_scalar (trim is_whitespace (' ' :: item)) = some item := by
      intro item hitem
      have hscalar := (hvalues item hitem).scalar
      unfold trim
      rw [trim_start_cons_blank (by decide)]
      exact (congrArg strip_scalar hscalar.trimmed).trans hscalar.strip
    have hfirst : strip_scalar (trim is_whitespace value) = some value :=
      (congrArg strip_scalar hvalue.scalar.trimmed).trans hvalue.scalar.strip
    have hkept : (value :: values).filter (fun s => s ≠ []) = value :: values := by
      rw [List.filter_eq_self]
      intro item hitem
      exact decide_eq_true (h item hitem).non_empty
    unfold inline_items
    rw [hsplit, List.mapM_cons, hfirst,
      mapM_map_eq_some (f := fun s => strip_scalar (trim is_whitespace s)) hread]
    exact congrArg (fun items => some (items.map Item.String)) hkept

theorem trim_brackets (inner : Text) :
    trim is_whitespace ('[' :: inner ++ [']']) = '[' :: inner ++ [']'] := by
  apply trim_of_ends
  · exact trim_start_cons (by decide)
  · exact trim_end_append (by simp) rfl

/-- **An inline list is read into its entry.** -/
theorem parse_line_list (hkey : Key key) (hvalues : ∀ value ∈ values, ListItem value)
    (hmode : state.in_links_block = false) :
    parse_line state (key ++ ": ".toList ++ ('[' :: ", ".toList.intercalate values ++ [']']))
      = some { state with
        current_key := key
        result := state.result.insert key (.Array (values.map .String)) } := by
  obtain ⟨v, hv, hline⟩ := trim_field key ('[' :: ", ".toList.intercalate values ++ [']'])
  rw [trim_brackets] at hv
  refine parse_line_key hkey hmode hline rfl ?_
  unfold parse_normal_line
  rw [split_once_append hkey.no_colon]
  dsimp only
  have hinner : (('[' :: ", ".toList.intercalate values ++ [']']).drop 1).dropLast
      = ", ".toList.intercalate values := by
    rw [List.cons_append, List.drop_one, List.tail_cons, List.dropLast_concat]
  rw [hkey.trimmed, hv, if_neg (by simp), if_pos ⟨rfl, List.getLast?_concat⟩, hinner, inline_items_join hvalues]
  rfl

/-! ## Entries -/

/-- Lines are read one after the other. -/
theorem read_cons {line : Text} {lines : List Text} {state' state'' : ParserState}
    (h : parse_line state line = some state')
    (hrest : lines.foldlM parse_line state' = some state'') :
    (line :: lines).foldlM parse_line state = some state'' := by
  rw [List.foldlM_cons, h]
  exact hrest

theorem read_append {lines lines' : List Text} {state' state'' : ParserState}
    (h : lines.foldlM parse_line state = some state')
    (hrest : lines'.foldlM parse_line state' = some state'') :
    (lines ++ lines').foldlM parse_line state = some state'' := by
  rw [List.foldlM_append, h]
  exact hrest

/-- What stands in the line of a key. -/
inductive Content where
  | scalar (value : Text)
  | list (values : List Text)

namespace Content

def line (key : Text) : Content → Text
  | .scalar value => key ++ ": ".toList ++ value
  | .list values => key ++ ": ".toList ++ ('[' :: ", ".toList.intercalate values ++ [']'])

def parsed : Content → Value
  | .scalar value => scalar_value value
  | .list values => .Array (values.map .String)

def Readable : Content → Prop
  | .scalar value => Scalar value
  | .list values => ∀ value ∈ values, ListItem value

end Content

def entry_lines (entries : List (Text × Content)) : List Text :=
  entries.map fun entry => entry.2.line entry.1

theorem get_insert {ν : Type} (map : HashMap ν) (k a : Text) (v : ν) :
    (map.insert k v).get a = if a = k then some v else map.get a := by
  unfold HashMap.get HashMap.insert
  rw [List.lookup_cons]
  by_cases h : a = k
  · rw [if_pos h, beq_iff_eq.mpr h]
  · rw [if_neg h, beq_eq_false_iff_ne.mpr h]

theorem parse_line_entry {content : Content} (hkey : Key key) (h : content.Readable)
    (hmode : state.in_links_block = false) (hnew : state.result.get key = none) :
    parse_line state (content.line key) = some { state with
      current_key := key
      result := state.result.insert key content.parsed } := by
  cases content with
  | scalar value => exact parse_line_field hkey h hmode hnew
  | list values => exact parse_line_list hkey h hmode

/-- **A run of entries under different keys is read into all of them.** -/
theorem parse_entries {entries : List (Text × Content)}
    (h : ∀ entry ∈ entries, Key entry.1 ∧ entry.2.Readable)
    (hdistinct : (entries.map Prod.fst).Nodup) (hmode : state.in_links_block = false)
    (hnew : ∀ entry ∈ entries, state.result.get entry.1 = none) :
    ∃ state', (entry_lines entries).foldlM parse_line state = some state'
      ∧ state'.in_links_block = false ∧ state'.current_link = state.current_link
      ∧ ∀ key, state'.result.get key
        = ((entries.lookup key).map Content.parsed).or (state.result.get key) := by
  induction entries generalizing state with
  | nil => exact ⟨state, rfl, hmode, rfl, fun key => rfl⟩
  | cons entry entries ih =>
    obtain ⟨hkey, hreadable⟩ := h entry List.mem_cons_self
    rw [List.map_cons, List.nodup_cons] at hdistinct
    have hother : ∀ later ∈ entries, later.1 ≠ entry.1 := by
      intro later hlater hsame
      exact hdistinct.1 (hsame ▸ List.mem_map_of_mem hlater)
    have hstep := parse_line_entry hkey hreadable hmode (hnew entry List.mem_cons_self)
    have hlater : ∀ later ∈ entries,
        (state.result.insert entry.1 entry.2.parsed).get later.1 = none := by
      intro later hmem
      rw [get_insert, if_neg (hother later hmem)]
      exact hnew later (List.mem_cons_of_mem _ hmem)
    obtain ⟨state', hfold, hmode', hlink', hget⟩ :=
      @ih { state with
          current_key := entry.1, result := state.result.insert entry.1 entry.2.parsed }
        (fun later hmem => h later (List.mem_cons_of_mem _ hmem)) hdistinct.2 hmode hlater
    refine ⟨state', ?_, hmode', hlink', fun key => ?_⟩
    · exact read_cons hstep hfold
    · rw [hget key, get_insert, List.lookup_cons]
      by_cases hfirst : key = entry.1
      · have hnone : entries.lookup key = none := by
          rw [List.lookup_eq_none_iff]
          intro later hmem
          rw [bne_iff_ne, hfirst]
          exact fun hsame => hother later hmem hsame.symm
        rw [hnone, if_pos hfirst, beq_iff_eq.mpr hfirst]
        rfl
      · rw [if_neg hfirst, beq_eq_false_iff_ne.mpr hfirst]

/-! ## Links -/

/-- A link whose texts are scalars. -/
structure ReadableLink (link : BrainLink) : Prop where
  id : Scalar link.id
  link_type : Scalar link.link_type
  brain : ∀ brain, link.brain = some brain → Scalar brain
  why : ∀ why, link.why = some why → Scalar why

theorem trim_start_matches_of_not (pattern : Text) (h : pattern.isPrefixOf s = false) (n : ℕ) :
    (fun t : Text => if pattern.isPrefixOf t then t.drop pattern.length else t)^[n] s = s := by
  apply Function.iterate_fixed
  simp [h]

/-- `- ` at the start of a link is taken off once. -/
theorem trim_dash {t : Text} (h : "- ".toList.isPrefixOf t = false) :
    trim_start_matches "- ".toList ('-' :: ' ' :: t) = t := by
  unfold trim_start_matches
  rw [List.length_cons, Function.iterate_succ_apply]
  exact trim_start_matches_of_not "- ".toList h _

theorem insert_link_field_key (hkey : Key key) (hvalue : Scalar value) {v : Text}
    (hv : trim is_whitespace v = value) :
    insert_link_field state (key ++ ':' :: v) = some { state with
      current_link := state.current_link.insert key value } := by
  unfold insert_link_field
  rw [split_once_append hkey.no_colon]
  dsimp only
  rw [hkey.trimmed, hv, hvalue.strip]
  rfl

theorem takeWhile_spaces {blanks t : Text} (hblanks : ∀ c ∈ blanks, is_whitespace c = true)
    (ht : trim_start is_whitespace t = t) (hne : t ≠ []) :
    (blanks ++ t).takeWhile is_whitespace = blanks := by
  obtain ⟨c, t, rfl⟩ := List.exists_cons_of_ne_nil hne
  have hc : ¬ is_whitespace c = true := by
    rw [head_of_trim_start ht]
    exact Bool.false_ne_true
  rw [List.takeWhile_append_of_pos hblanks, List.takeWhile_cons_of_neg hc, List.append_nil]

/-- A line of the links block as the reader sees it. -/
theorem parse_line_block {blanks mark : Text} (hblanks : ∀ c ∈ blanks, is_whitespace c = true)
    (hmark : trim_start is_whitespace mark = mark) (hne : mark ≠ [])
    (hmode : state.in_links_block = true) (hindent : 2 ≤ (blanks.map Char.utf8Size).sum)
    (hvalue : trim is_whitespace value = value) :
    ∃ v, trim is_whitespace v = value
      ∧ trim_end is_whitespace (mark ++ ':' :: v) = mark ++ ':' :: v
      ∧ parse_line state (blanks ++ mark ++ ": ".toList ++ value)
        = parse_links_line state (blanks.map Char.utf8Size).sum (mark ++ ':' :: v) := by
  obtain ⟨v, hv, hline⟩ := trim_field (blanks ++ mark) value
  rw [hvalue] at hv
  have hstart : trim_start is_whitespace (blanks ++ mark ++ ':' :: v) = mark ++ ':' :: v := by
    rw [List.append_assoc, trim_start_append_blank hblanks]
    exact trim_start_append hne hmark
  have hend : trim_end is_whitespace (mark ++ ':' :: v) = mark ++ ':' :: v := by
    apply trim_end_of_append (s := blanks) (by simp)
    rw [← List.append_assoc, ← hline]
    exact List.rdropWhile_idempotent is_whitespace _
  have hne_blank : trim is_whitespace (blanks ++ mark ++ ':' :: v) ≠ [] := by
    rw [ne_eq, trim_eq_nil]
    intro hblank
    exact absurd (hblank ':' (by simp)) (by decide)
  have hindent_of : indent_of (blanks ++ mark ++ ": ".toList ++ value)
      = (blanks.map Char.utf8Size).sum := by
    unfold indent_of
    rw [List.append_assoc, List.append_assoc, takeWhile_spaces hblanks]
    · exact trim_start_append hne hmark
    · exact List.append_ne_nil_of_left_ne_nil hne _
  refine ⟨v, hv, hend, ?_⟩
  unfold parse_line
  dsimp only
  rw [hline, if_neg hne_blank, hstart, hindent_of, if_pos ⟨hmode, hindent⟩]

/-- The first line of a link finishes the link before it. -/
theorem parse_line_id (hvalue : Scalar value) (hmode : state.in_links_block = true) :
    parse_line state (field_line "  - id" value) = some { flush_link state with
      current_link := (flush_link state).current_link.insert "id".toList value } := by
  obtain ⟨v, hv, hend, hline⟩ := @parse_line_block value state "  ".toList "- id".toList
    (by decide) (by decide) (by decide) hmode (by decide) hvalue.trimmed
  have hdash : "- ".toList.isPrefixOf ("- id".toList ++ ':' :: v) = true := rfl
  have htrim : trim is_whitespace ("id".toList ++ ':' :: v) = "id".toList ++ ':' :: v := by
    apply trim_of_ends
    · exact trim_start_append (by decide) (by decide)
    · exact trim_end_of_append (s := "- ".toList) (by simp) hend
  have hfield : trim is_whitespace (trim_start_matches "- ".toList ("- id".toList ++ ':' :: v))
      = "id".toList ++ ':' :: v := (congrArg _ (trim_dash rfl)).trans htrim
  refine hline.trans ?_
  unfold parse_links_line
  rw [if_pos hdash, hfield]
  exact insert_link_field_key (by decide) hvalue hv

/-- A key does not start as an item of a list. -/
theorem isPrefixOf_key (hkey : Key key) (t : Text) :
    "- ".toList.isPrefixOf (key ++ t) = false :=
  isPrefixOf_of_head (head_of_key hkey t) [' ']

/-- The other lines of a link, four spaces in. -/
theorem parse_line_link_field (hkey : Key key) (hvalue : Scalar value)
    (hmode : state.in_links_block = true) :
    parse_line state ("    ".toList ++ key ++ ": ".toList ++ value) = some { state with
      current_link := state.current_link.insert key value } := by
  obtain ⟨v, hv, -, hline⟩ := @parse_line_block value state "    ".toList key
    (by decide) (trim_start_of_trimmed hkey.trimmed) hkey.non_empty hmode (by decide)
    hvalue.trimmed
  have hdash : ¬ "- ".toList.isPrefixOf (key ++ ':' :: v) = true := by
    rw [isPrefixOf_key hkey]
    exact Bool.false_ne_true
  refine hline.trans ?_
  unfold parse_links_line
  rw [if_neg hdash, if_pos (by decide)]
  exact insert_link_field_key hkey hvalue hv

/-- A field that is written when it is there. -/
theorem parse_optional_link_field {name : String} (hname : name.toList = "    ".toList ++ key)
    (hkey : Key key) {field : Option Text} (hfield : ∀ value, field = some value → Scalar value)
    (hmode : state.in_links_block = true) :
    (field.map (field_line name)).toList.foldlM parse_line state = some { state with
      current_link := (field.map fun value => (key, value)).toList ++ state.current_link } := by
  cases field with
  | none => rfl
  | some value =>
    rw [Option.map_some, Option.toList_some, List.foldlM_cons, field_line, hname,
      parse_line_link_field hkey (hfield value rfl) hmode]
    rfl

theorem flush_link_mode : (flush_link state).in_links_block = state.in_links_block := by
  unfold flush_link
  split_ifs <;> rfl

theorem flush_link_current : (flush_link state).current_link = [] := by
  unfold flush_link
  split_ifs with h
  · exact List.isEmpty_iff.mp h
  · rfl

/-- The lines of a link leave it under construction. -/
theorem parse_link {link : BrainLink} (h : ReadableLink link)
    (hmode : state.in_links_block = true) :
    ∃ state', (link_lines link).foldlM parse_line state = some state'
      ∧ state'.in_links_block = true ∧ state'.result = (flush_link state).result
      ∧ state'.current_link ≠ [] ∧ link_of state'.current_link = link := by
  have hid := parse_line_id h.id hmode
  have hmode' := flush_link_mode.trans hmode
  rw [flush_link_current] at hid
  refine ⟨{ flush_link state with
    current_link := (link.why.map fun why => ("why".toList, why)).toList
      ++ ((link.brain.map fun brain => ("brain".toList, brain)).toList
        ++ [("type".toList, link.link_type), ("id".toList, link.id)]) }, ?_, hmode', rfl, ?_, ?_⟩
  · have htype := @parse_line_link_field "type".toList link.link_type { flush_link state with
      current_link := [("id".toList, link.id)] } (by decide) h.link_type hmode'
    have hbrain := @parse_optional_link_field "brain".toList { flush_link state with
      current_link := [("type".toList, link.link_type), ("id".toList, link.id)] }
      "    brain" rfl (by decide) link.brain h.brain hmode'
    have hwhy := @parse_optional_link_field "why".toList { flush_link state with
      current_link := (link.brain.map fun brain => ("brain".toList, brain)).toList
        ++ [("type".toList, link.link_type), ("id".toList, link.id)] }
      "    why" rfl (by decide) link.why h.why hmode'
    exact read_append (read_append (read_cons hid (read_cons htype rfl)) hbrain) hwhy
  · simp
  · unfold link_of HashMap.get
    rcases link with ⟨id, link_type, _ | brain, _ | why⟩ <;> rfl

theorem get_push_item {result : HashMap Value} {items : List Item} {item : Item}
    (h : result.get key = some (.Array items)) (a : Text) :
    (push_item result key item).get a
      = if a = key then some (.Array (items ++ [item])) else result.get a := by
  unfold push_item
  rw [h]
  exact get_insert result key a _

/-- **The lines of the links block are read into the links**, the last of them still under
construction. -/
theorem parse_link_block {links : List BrainLink} {items : List Item}
    (h : ∀ link ∈ links, ReadableLink link) (hmode : state.in_links_block = true)
    (hitems : (flush_link state).result.get "links".toList = some (.Array items)) :
    ∃ state', (links.flatMap link_lines).foldlM parse_line state = some state'
      ∧ state'.in_links_block = true
      ∧ ∀ a, (flush_link state').result.get a
        = if a = "links".toList then some (.Array (items ++ links.map .Object))
          else (flush_link state).result.get a := by
  induction links generalizing state items with
  | nil =>
    refine ⟨state, rfl, hmode, fun a => ?_⟩
    rw [List.map_nil, List.append_nil]
    split_ifs with ha
    · rw [ha, hitems]
    · rfl
  | cons link links ih =>
    obtain ⟨next, hnext, hnext_mode, hresult, hcurrent, hlink⟩ :=
      parse_link (h link List.mem_cons_self) hmode
    have hflush : (flush_link next).result = push_link (flush_link state).result next.current_link := by
      unfold flush_link
      rw [if_neg (by rw [List.isEmpty_iff]; exact hcurrent)]
      exact congrArg (push_link · _) hresult
    have hget : ∀ a, (flush_link next).result.get a
        = if a = "links".toList then some (.Array (items ++ [.Object link]))
          else (flush_link state).result.get a := by
      intro a
      rw [hflush, push_link, hlink]
      exact get_push_item hitems a
    obtain ⟨last, hlast, hlast_mode, hlast_get⟩ :=
      ih (fun link hmem => h link (List.mem_cons_of_mem _ hmem)) hnext_mode
        ((hget "links".toList).trans (if_pos rfl))
    refine ⟨last, read_append hnext hlast, hlast_mode, fun a => ?_⟩
    rw [hlast_get a, hget a, List.append_assoc, List.map_cons]
    split_ifs <;> rfl

/-- The line that starts the links block. -/
theorem parse_links_start (hmode : state.in_links_block = false) :
    ∃ state', parse_line state "links:".toList = some state' ∧ state'.in_links_block = true
      ∧ state'.current_link = state.current_link
      ∧ ∀ a, state'.result.get a
        = if a = "links".toList then some (.Array []) else state.result.get a := by
  have hnormal : parse_normal_line "links:".toList state = some { state with
      current_key := "links".toList
      result := state.result.or_insert "links".toList (.Array []) } := rfl
  refine ⟨{ state with
    current_key := "links".toList
    in_links_block := true
    result := (state.result.or_insert "links".toList (.Array [])).insert "links".toList
      (.Array []) }, ?_, rfl, rfl, fun a => ?_⟩
  · have htrim : trim_end is_whitespace "links:".toList = "links:".toList := by decide
    have hstart : trim_start is_whitespace "links:".toList = "links:".toList := by decide
    unfold parse_line
    dsimp only
    rw [htrim, if_neg (by decide), hstart, hmode, if_neg (fun hlinks => Bool.false_ne_true hlinks.1),
      if_neg (fun hdash => absurd hdash.1 (by decide)), hnormal]
    rfl
  · rw [get_insert]
    split_ifs with ha
    · rfl
    · unfold HashMap.or_insert
      split_ifs
      · rfl
      · rw [get_insert, if_neg ha]

/-! ## The frontmatter of a node -/

/-- A scalar that is written unless it is empty. -/
def non_empty_content (value : Text) : Option Content :=
  if value = [] then none else some (.scalar value)

/-- The keys before the links, in the order of writing, with what is written under each. -/
def slots (node : BrainNode) : List (Text × Option Content) :=
  [("id".toList, some (.scalar node.id)), ("title".toList, some (.scalar node.title)),
    ("type".toList, some (.scalar node.node_type)), ("brain".toList, some (.scalar node.brain)),
    ("agent".toList, some (.scalar node.agent)), ("tags".toList, some (.list node.tags)),
    ("aliases".toList, if node.aliases = [] then none else some (.list node.aliases)),
    ("math_score_at".toList, node.math_score_at.map .scalar),
    ("status".toList, some (.scalar node.status)),
    ("visibility".toList, some (.scalar node.visibility)),
    ("valid_from".toList, node.valid_from.map .scalar),
    ("valid_to".toList, node.valid_to.map .scalar),
    ("validity".toList, non_empty_content node.validity),
    ("created".toList, some (.scalar node.created)),
    ("updated".toList, some (.scalar node.updated)),
    ("summary".toList, non_empty_content node.summary)]

/-- The slots that are filled. -/
def entries (slots : List (Text × Option Content)) : List (Text × Content) :=
  slots.filterMap fun slot => slot.2.map fun content => (slot.1, content)

variable {node : BrainNode}

theorem entry_lines_cons (slot : Text × Option Content) (slots : List (Text × Option Content)) :
    entry_lines (entries (slot :: slots))
      = (slot.2.map (Content.line slot.1)).toList ++ entry_lines (entries slots) := by
  rcases slot with ⟨key, _ | content⟩ <;> rfl

theorem optional_line (name : String) (field : Option Text) :
    ((field.map Content.scalar).map (Content.line name.toList)).toList
      = (field.map (field_line name)).toList := by
  cases field <;> rfl

theorem non_empty_content_line (name : String) (value : Text) :
    ((non_empty_content value).map (Content.line name.toList)).toList
      = non_empty_line name value := by
  unfold non_empty_content non_empty_line
  split_ifs <;> rfl

theorem optional_list_line (name : String) (values : List Text) :
    ((if values = [] then none else some (Content.list values)).map
        (Content.line name.toList)).toList
      = if values = [] then [] else [list_line name values] := by
  split_ifs <;> rfl

/-- The frontmatter is the entries followed by the block of links. -/
theorem frontmatter_lines_eq : frontmatter_lines node = entry_lines (entries (slots node))
    ++ (if node.links = [] then [] else "links:".toList :: node.links.flatMap link_lines) := by
  unfold slots frontmatter_lines
  simp only [entry_lines_cons, optional_line, non_empty_content_line, optional_list_line]
  simp only [List.append_assoc]
  rfl

theorem lookup_entries {slots : List (Text × Option Content)}
    (h : (slots.map Prod.fst).Nodup) (a : Text) :
    (entries slots).lookup a = (slots.lookup a).join := by
  induction slots with
  | nil => rfl
  | cons slot slots ih =>
    rw [List.map_cons, List.nodup_cons] at h
    have ih := ih h.2
    rcases slot with ⟨key, _ | content⟩
    · have hskip : entries ((key, none) :: slots) = entries slots := rfl
      rw [hskip, ih, List.lookup_cons]
      by_cases ha : a = key
      · have hnone : slots.lookup a = none := by
          rw [List.lookup_eq_none_iff]
          intro slot hslot
          rw [bne_iff_ne, ha]
          exact fun hsame => h.1 (List.mem_map.mpr ⟨slot, hslot, hsame.symm⟩)
        rw [beq_iff_eq.mpr ha, hnone]
        rfl
      · rw [beq_eq_false_iff_ne.mpr ha]
    · have hfilled : entries ((key, some content) :: slots) = (key, content) :: entries slots := rfl
      rw [hfilled, List.lookup_cons, List.lookup_cons, ih]
      by_cases ha : a = key
      · rw [beq_iff_eq.mpr ha]
        rfl
      · rw [beq_eq_false_iff_ne.mpr ha]

/-- A node that the writer's format can hold. -/
structure Writable (node : BrainNode) : Prop where
  scalars : ∀ value ∈ [node.id, node.title, node.node_type, node.brain, node.agent, node.status,
    node.visibility, node.validity, node.created, node.updated, node.summary], Scalar value
  lists : ∀ value ∈ node.tags ++ node.aliases, ListItem value
  optional : ∀ value ∈ node.math_score_at.toList ++ node.valid_from.toList ++ node.valid_to.toList,
    Scalar value
  nullable : ∀ value ∈ node.math_score_at.toList ++ node.valid_to.toList,
    value ≠ [] ∧ value ≠ "null".toList
  links : ∀ link ∈ node.links, ReadableLink link
  named : node.id ≠ [] ∧ node.title ≠ []
  body : trim is_whitespace node.body = node.body ∧ replace_crlf node.body = node.body

theorem keys_of_slots : (slots node).map Prod.fst = (slots BrainNode.default).map Prod.fst := rfl

theorem slots_nodup : ((slots node).map Prod.fst).Nodup := by
  rw [keys_of_slots]
  decide

theorem key_of_slot : ∀ key ∈ (slots node).map Prod.fst, Key key := by
  rw [keys_of_slots]
  decide

theorem key_of_entry {slots : List (Text × Option Content)} {entry : Text × Content}
    (h : entry ∈ entries slots) : (entry.1, some entry.2) ∈ slots := by
  obtain ⟨slot, hslot, hentry⟩ := List.mem_filterMap.mp h
  obtain ⟨content, hcontent, rfl⟩ := Option.map_eq_some_iff.mp hentry
  rw [← hcontent]
  exact hslot

theorem entries_sublist {slots : List (Text × Option Content)} :
    ((entries slots).map Prod.fst).Sublist (slots.map Prod.fst) := by
  induction slots with
  | nil => exact List.Sublist.refl _
  | cons slot slots ih =>
    rcases slot with ⟨key, _ | content⟩
    · exact ih.cons key
    · exact ih.cons_cons key

/-! ## The lines of the frontmatter -/

theorem readable_scalar (h : Scalar value) :
    ∀ content, some (Content.scalar value) = some content → content.Readable := by
  rintro _ ⟨⟩
  exact h

theorem readable_optional {field : Option Text} (h : ∀ value ∈ field.toList, Scalar value) :
    ∀ content, field.map Content.scalar = some content → content.Readable := by
  intro content hcontent
  obtain ⟨value, rfl, rfl⟩ := Option.map_eq_some_iff.mp hcontent
  exact h value (by simp)

theorem readable_non_empty (h : Scalar value) :
    ∀ content, non_empty_content value = some content → content.Readable := by
  unfold non_empty_content
  split_ifs
  · exact fun _ hnone => nomatch hnone
  · exact readable_scalar h

theorem readable_list (h : ∀ value ∈ values, ListItem value) :
    ∀ content, some (Content.list values) = some content → content.Readable := by
  rintro _ ⟨⟩
  exact h

theorem readable_optional_list (h : ∀ value ∈ values, ListItem value) :
    ∀ content, (if values = [] then none else some (Content.list values)) = some content →
      content.Readable := by
  split_ifs
  · exact fun _ hnone => nomatch hnone
  · exact readable_list h

theorem readable_slots (h : Writable node) :
    ∀ slot ∈ slots node, ∀ content, slot.2 = some content → content.Readable := by
  have hscalar := h.scalars
  have hlist := h.lists
  have hoptional := h.optional
  simp only [List.forall_mem_cons] at hscalar
  simp only [List.forall_mem_append] at hlist hoptional
  obtain ⟨hid, htitle, htype, hbrain, hagent, hstatus, hvisibility, hvalidity, hcreated, hupdated,
    hsummary, -⟩ := hscalar
  unfold slots
  simp only [List.forall_mem_cons]
  exact ⟨readable_scalar hid, readable_scalar htitle, readable_scalar htype, readable_scalar hbrain,
    readable_scalar hagent, readable_list hlist.1, readable_optional_list hlist.2,
    readable_optional hoptional.1.1, readable_scalar hstatus, readable_scalar hvisibility,
    readable_optional hoptional.1.2, readable_optional hoptional.2, readable_non_empty hvalidity,
    readable_scalar hcreated, readable_scalar hupdated, readable_non_empty hsummary,
    List.forall_mem_nil _⟩

/-- A line that is one line of the file, and not its delimiter. -/
structure PlainLine (line : Text) : Prop where
  single_line : '\n' ∉ line
  no_carriage_return : line.getLast? ≠ some '\r'
  no_dash : line.head? ≠ some '-'
  non_empty : line ≠ []

/-- `"{name}: {value}"`, for a value that does not end in a carriage return. -/
theorem plain_line {name : Text} (hname : '\n' ∉ name) (hdash : name.head? ≠ some '-')
    (hne : name ≠ []) (hvalue : '\n' ∉ value) (hlast : value.getLast? ≠ some '\r') :
    PlainLine (name ++ ": ".toList ++ value) where
  single_line := by
    rw [List.mem_append, List.mem_append, not_or, not_or]
    exact ⟨⟨hname, by decide⟩, hvalue⟩
  no_carriage_return := by
    by_cases hempty : value = []
    · rw [hempty, List.append_nil, List.getLast?_append_of_ne_nil _ (by decide)]
      decide
    · rwa [List.getLast?_append_of_ne_nil _ hempty]
  no_dash := by
    rw [List.append_assoc, List.head?_append_of_ne_nil _ hne]
    exact hdash
  non_empty := by simp

theorem not_mem_intercalate {c : Char} {sep : Text} (hsep : c ∉ sep)
    (h : ∀ value ∈ values, c ∉ value) : c ∉ sep.intercalate values := by
  induction values with
  | nil => simp
  | cons value values ih =>
    have hvalue := h value List.mem_cons_self
    have ih := ih fun value hmem => h value (List.mem_cons_of_mem _ hmem)
    cases values with
    | nil => rwa [List.intercalate_singleton]
    | cons next values =>
      rw [List.intercalate_cons_cons, List.mem_append, List.mem_append, not_or, not_or]
      exact ⟨⟨hvalue, hsep⟩, ih⟩

theorem plain_entry {content : Content} (hkey : Key key) (h : content.Readable) :
    PlainLine (content.line key) := by
  cases content with
  | scalar value =>
    exact plain_line hkey.single_line hkey.no_dash hkey.non_empty h.single_line
      (getLast_of_trimmed (trim_end_of_trimmed h.trimmed))
  | list values =>
    refine plain_line hkey.single_line hkey.no_dash hkey.non_empty ?_ ?_
    · rw [List.mem_append, List.mem_cons, not_or, not_or]
      refine ⟨⟨by decide, ?_⟩, by decide⟩
      exact not_mem_intercalate (by decide) fun value hvalue => (h value hvalue).scalar.single_line
    · rw [List.getLast?_concat]
      decide

theorem plain_link {link : BrainLink} (h : ReadableLink link) :
    ∀ line ∈ link_lines link, PlainLine line := by
  have hfield : ∀ (name : String), '\n' ∉ name.toList → name.toList.head? ≠ some '-' →
      name.toList ≠ [] → ∀ value, Scalar value → PlainLine (field_line name value) :=
    fun _ hname hdash hne value hvalue => plain_line hname hdash hne hvalue.single_line
      (getLast_of_trimmed (trim_end_of_trimmed hvalue.trimmed))
  have hoptional : ∀ (name : String), '\n' ∉ name.toList → name.toList.head? ≠ some '-' →
      name.toList ≠ [] → ∀ field : Option Text, (∀ value, field = some value → Scalar value) →
      ∀ line ∈ (field.map (field_line name)).toList, PlainLine line := by
    intro name hname hdash hne field hvalue line hline
    obtain ⟨value, hsome, rfl⟩ := Option.map_eq_some_iff.mp (Option.mem_toList.mp hline)
    exact hfield name hname hdash hne value (hvalue value hsome)
  unfold link_lines
  simp only [List.forall_mem_append, List.forall_mem_cons]
  refine ⟨⟨⟨?_, ?_, List.forall_mem_nil _⟩, ?_⟩, ?_⟩
  · exact hfield "  - id" (by decide) (by decide) (by decide) link.id h.id
  · exact hfield "    type" (by decide) (by decide) (by decide) link.link_type h.link_type
  · exact hoptional "    brain" (by decide) (by decide) (by decide) link.brain h.brain
  · exact hoptional "    why" (by decide) (by decide) (by decide) link.why h.why

theorem plain_frontmatter (h : Writable node) : ∀ line ∈ frontmatter_lines node, PlainLine line := by
  rw [frontmatter_lines_eq]
  simp only [List.forall_mem_append]
  constructor
  · intro line hline
    obtain ⟨entry, hentry, rfl⟩ := List.mem_map.mp hline
    have hslot := key_of_entry hentry
    exact plain_entry (key_of_slot entry.1 (List.mem_map_of_mem hslot))
      (readable_slots h _ hslot _ rfl)
  · split_ifs
    · exact List.forall_mem_nil _
    · simp only [List.forall_mem_cons, List.mem_flatMap]
      refine ⟨⟨by decide, by decide, by decide, by decide⟩, ?_⟩
      rintro line ⟨link, hlink, hline⟩
      exact plain_link (h.links link hlink) line hline

/-! ## Reading back -/

/-- What the frontmatter of a node is read into. -/
def expected (node : BrainNode) (key : Text) : Option Value :=
  if key = "links".toList then
    if node.links = [] then none else some (.Array (node.links.map .Object))
  else ((slots node).lookup key).join.map Content.parsed

theorem lookup_links : (slots node).lookup "links".toList = none := rfl

theorem frontmatter_lines_ne_nil (node : BrainNode) : frontmatter_lines node ≠ [] := by
  unfold frontmatter_lines
  exact List.cons_ne_nil _ _

/-- **The frontmatter of a node is read into its fields.** -/
theorem parse_frontmatter (h : Writable node) :
    ∃ fm, parse_yaml_frontmatter (join (frontmatter_lines node)) = some fm
      ∧ ∀ key, fm.get key = expected node key := by
  have hplain := plain_frontmatter h
  have hlines : lines (join (frontmatter_lines node)) = frontmatter_lines node := by
    have hne := frontmatter_lines_ne_nil node
    rw [lines_join hne fun line hline => (hplain line hline).single_line]
    refine lines_of_eq_self (fun line hline => (hplain line hline).no_carriage_return) ?_
    intro hlast
    exact (hplain [] (List.mem_of_mem_getLast? hlast)).non_empty rfl
  obtain ⟨state, hread, hmode, hlink, hget⟩ := @parse_entries .initial (entries (slots node))
    (fun entry hentry => ⟨key_of_slot entry.1 (List.mem_map_of_mem (key_of_entry hentry)),
      readable_slots h _ (key_of_entry hentry) _ rfl⟩)
    (slots_nodup.sublist entries_sublist) rfl (fun _ _ => rfl)
  have hget : ∀ key, state.result.get key = ((slots node).lookup key).join.map Content.parsed := by
    intro key
    rw [hget key, lookup_entries slots_nodup]
    exact Option.or_none
  unfold parse_yaml_frontmatter expected
  rw [hlines, frontmatter_lines_eq]
  by_cases hlinks : node.links = []
  · refine ⟨state.result, ?_, fun key => ?_⟩
    · rw [if_pos hlinks, List.append_nil, hread]
      exact if_neg (by rw [hmode]; exact Bool.false_ne_true)
    · rw [if_pos hlinks, hget key]
      split_ifs with hkey
      · rw [hkey, lookup_links]
        rfl
      · rfl
  · obtain ⟨start, hstart, hstart_mode, hstart_link, hstart_get⟩ := parse_links_start hmode
    have hflush : flush_link start = start := by
      unfold flush_link
      rw [hstart_link, hlink]
      rfl
    obtain ⟨last, hlast, hlast_mode, hlast_get⟩ := parse_link_block h.links hstart_mode
      (by rw [hflush, hstart_get, if_pos rfl])
    refine ⟨(flush_link last).result, ?_, fun key => ?_⟩
    · rw [if_neg hlinks, read_append hread (read_cons hstart hlast)]
      exact if_pos hlast_mode
    · rw [hlast_get key, hflush, hstart_get key, if_neg hlinks, List.nil_append]
      split_ifs with hkey
      · rfl
      · exact hget key

/-- The body of a file: the heading that the writer adds, and the node's body. -/
def headed (title body : Text) : Text :=
  "# ".toList ++ title ++ if body = [] then [] else "\n\n".toList ++ body

theorem trim_body (htitle : trim is_whitespace value = value) (hne : value ≠ []) {body : Text}
    (hbody : trim is_whitespace body = body) :
    trim is_whitespace ("# ".toList ++ value ++ "\n\n".toList ++ body ++ "\n".toList)
      = headed value body := by
  have hstart : ∀ t, trim_start is_whitespace ("# ".toList ++ t) = "# ".toList ++ t := fun t =>
    trim_start_append (by decide) (by decide)
  unfold headed trim
  by_cases hempty : body = []
  · have hblank : ∀ c ∈ "\n\n\n".toList, is_whitespace c = true := by decide
    have htext : "# ".toList ++ value ++ "\n\n".toList ++ [] ++ "\n".toList
        = ("# ".toList ++ value) ++ "\n\n\n".toList := by
      simp
    rw [hempty, if_pos rfl, htext, List.append_assoc, hstart, ← List.append_assoc,
      trim_end_append_blank hblank, List.append_nil]
    exact trim_end_append hne (trim_end_of_trimmed htitle)
  · have hblank : ∀ c ∈ "\n".toList, is_whitespace c = true := by decide
    have htext : "# ".toList ++ value ++ "\n\n".toList ++ body ++ "\n".toList
        = "# ".toList ++ (value ++ "\n\n".toList ++ body ++ "\n".toList) := by
      simp only [List.append_assoc]
    rw [if_neg hempty, htext, hstart, ← htext, trim_end_append_blank hblank,
      trim_end_append hempty (trim_end_of_trimmed hbody), List.append_assoc _ _ body]

theorem strip_heading (h : Writable node) :
    strip_carriage_return ("# ".toList ++ node.title) = "# ".toList ++ node.title := by
  have htitle : Scalar node.title := h.scalars node.title (by simp)
  apply if_neg
  rw [List.getLast?_append_of_ne_nil _ h.named.2]
  exact getLast_of_trimmed (trim_end_of_trimmed htitle.trimmed)

/-- **The file of a node splits where the writer ended the frontmatter.** -/
theorem split_rendered (h : Writable node) :
    split_frontmatter (render_brain_node node)
      = (parse_yaml_frontmatter (join (frontmatter_lines node))).map fun fm =>
        (fm, "# ".toList ++ node.title ++ "\n\n".toList ++ node.body ++ "\n".toList) := by
  have hplain := plain_frontmatter h
  have hne := frontmatter_lines_ne_nil node
  have htitle : Scalar node.title := h.scalars node.title (by simp)
  have hkept : ∀ line ∈ frontmatter_lines node, strip_carriage_return line = line :=
    fun line hline => if_neg (hplain line hline).no_carriage_return
  have hbody : replace_crlf (node.body ++ ['\n']) = node.body ++ ['\n'] := by
    rw [replace_crlf_concat (getLast_of_trimmed (trim_end_of_trimmed h.body.1)), h.body.2]
  -- the text as lines, and the body
  have htext : render_brain_node node = unlines ("---".toList :: frontmatter_lines node
      ++ ["---".toList, "# ".toList ++ node.title, []]) ++ (node.body ++ ['\n']) := by
    unfold render_brain_node
    rw [unlines_append, unlines_cons, unlines_cons, unlines_cons, unlines_cons]
    unfold unlines
    simp
  have hlines : ∀ line ∈ "---".toList :: frontmatter_lines node
      ++ ["---".toList, "# ".toList ++ node.title, []],
      '\n' ∉ line ∧ strip_carriage_return line = line := by
    simp only [List.cons_append, List.forall_mem_cons, List.forall_mem_append]
    refine ⟨by decide, fun line hline => ⟨(hplain line hline).single_line, hkept line hline⟩,
      by decide, ⟨?_, strip_heading h⟩, by decide, List.forall_mem_nil _⟩
    rw [List.mem_append, not_or]
    exact ⟨by decide, htitle.single_line⟩
  have hcrlf : replace_crlf (render_brain_node node) = render_brain_node node := by
    have hmap : ∀ ls : List Text, (∀ line ∈ ls, strip_carriage_return line = line) →
        ls.map strip_carriage_return = ls := fun ls hls =>
      (List.map_congr_left hls).trans (List.map_id ls)
    rw [htext, replace_crlf_unlines (fun line hline => (hlines line hline).1), hbody,
      hmap _ (fun line hline => (hlines line hline).2)]
  have hrest : (render_brain_node node).drop 4 = join (frontmatter_lines node) ++ '\n' :: ("---".toList
      ++ '\n' :: ("# ".toList ++ node.title ++ "\n\n".toList ++ node.body ++ "\n".toList)) := by
    rw [htext, List.cons_append, unlines_cons, unlines_append, unlines_eq_join hne]
    unfold unlines
    simp
  have hsplit : split_once "\n---".toList ((render_brain_node node).drop 4)
      = some (join (frontmatter_lines node),
        '\n' :: ("# ".toList ++ node.title ++ "\n\n".toList ++ node.body ++ "\n".toList)) := by
    rw [hrest]
    refine split_once_join (by decide) hne (fun line hline => (hplain line hline).single_line) ?_
    intro line hline
    exact isPrefixOf_of_head (hplain line (List.mem_of_mem_tail hline)).no_dash ['-', '-']
  have hcaptures : frontmatter_captures (render_brain_node node)
      = some (join (frontmatter_lines node),
        "# ".toList ++ node.title ++ "\n\n".toList ++ node.body ++ "\n".toList) := by
    have hstart : "---\n".toList.isPrefixOf (render_brain_node node) = true := by
      unfold render_brain_node
      simp
    unfold frontmatter_captures
    rw [if_pos hstart, hsplit]
    rfl
  unfold split_frontmatter
  dsimp only
  rw [hcrlf, hcaptures]
  dsimp only
  cases parse_yaml_frontmatter (join (frontmatter_lines node)) <;> rfl

/-! ## The round trip -/

/-- The fields that the writer writes. The five others are neither promised nor denied. -/
structure SameFields (parsed node : BrainNode) : Prop where
  id : parsed.id = node.id
  title : parsed.title = node.title
  node_type : parsed.node_type = node.node_type
  brain : parsed.brain = node.brain
  agent : parsed.agent = node.agent
  tags : parsed.tags = node.tags
  aliases : parsed.aliases = node.aliases
  status : parsed.status = node.status
  visibility : parsed.visibility = node.visibility
  valid_from : parsed.valid_from = node.valid_from
  valid_to : parsed.valid_to = node.valid_to
  validity : parsed.validity = node.validity
  created : parsed.created = node.created
  updated : parsed.updated = node.updated
  links : parsed.links = node.links
  math_score_at : parsed.math_score_at = node.math_score_at
  summary : parsed.summary = node.summary

variable {fm : HashMap Value}

theorem scalar_str_value : scalar_str (scalar_value value) = value := by
  unfold scalar_value
  split_ifs with h
  · exact h.symm
  · rfl

theorem str_field_of_scalar {name : String} {default : Text}
    (h : fm.get name.toList = some (scalar_value value)) : str_field fm name default = value := by
  unfold str_field
  rw [h]
  exact scalar_str_value

theorem str_field_of_non_empty {name : String}
    (h : fm.get name.toList = (non_empty_content value).map Content.parsed) :
    str_field fm name [] = value := by
  unfold str_field non_empty_content at *
  rw [h]
  split_ifs with hempty
  · exact hempty.symm
  · exact scalar_str_value

theorem optional_field_of {name : String} {field : Option Text}
    (h : fm.get name.toList = (field.map Content.scalar).map Content.parsed) :
    optional_field fm name = field := by
  unfold optional_field
  rw [h]
  cases field with
  | none => rfl
  | some value => exact congrArg some scalar_str_value

theorem nullable_field_of {name : String} {field : Option Text}
    (h : fm.get name.toList = (field.map Content.scalar).map Content.parsed)
    (hfield : ∀ value ∈ field.toList, value ≠ [] ∧ value ≠ "null".toList) :
    nullable_field fm name = field := by
  unfold nullable_field
  rw [optional_field_of h]
  cases field with
  | none => rfl
  | some value => exact Option.filter_eq_some_iff.mpr ⟨rfl, decide_eq_true (hfield value (by simp))⟩

theorem str_array_list : str_array (Content.list values).parsed = values := by
  unfold Content.parsed str_array
  dsimp only
  rw [List.map_map]
  exact List.map_id values

theorem parse_links_objects (links : List BrainLink) :
    parse_links (.Array (links.map .Object)) = links := by
  unfold parse_links
  dsimp only
  rw [List.filterMap_map]
  exact List.filterMap_some

/-- The fields of a frontmatter that is read as the writer wrote it. -/
theorem same_fields (h : Writable node) (hget : ∀ key, fm.get key = expected node key)
    (body : Text) : SameFields (node_of_fields fm body) node where
  id := str_field_of_scalar (hget "id".toList)
  title := str_field_of_scalar (hget "title".toList)
  node_type := str_field_of_scalar (hget "type".toList)
  brain := str_field_of_scalar (hget "brain".toList)
  agent := str_field_of_scalar (hget "agent".toList)
  tags := by
    have htags : fm.get "tags".toList = some (Content.list node.tags).parsed := hget _
    unfold node_of_fields array_field
    dsimp only
    rw [htags]
    exact str_array_list
  aliases := by
    have haliases : fm.get "aliases".toList = (if node.aliases = [] then none
        else some (Content.list node.aliases)).map Content.parsed := hget _
    unfold node_of_fields array_field
    dsimp only
    rw [haliases]
    split_ifs with hempty
    · exact hempty.symm
    · exact str_array_list
  status := str_field_of_scalar (hget "status".toList)
  visibility := str_field_of_scalar (hget "visibility".toList)
  valid_from := optional_field_of (hget "valid_from".toList)
  valid_to := nullable_field_of (hget "valid_to".toList) fun value hvalue =>
    h.nullable value (List.mem_append_right _ hvalue)
  validity := str_field_of_non_empty (hget "validity".toList)
  created := str_field_of_scalar (hget "created".toList)
  updated := str_field_of_scalar (hget "updated".toList)
  links := by
    have hlinks : fm.get "links".toList = if node.links = [] then none
        else some (.Array (node.links.map .Object)) := hget _
    unfold node_of_fields
    dsimp only
    rw [hlinks]
    split_ifs with hempty
    · exact hempty.symm
    · exact parse_links_objects node.links
  math_score_at := nullable_field_of (hget "math_score_at".toList) fun value hvalue =>
    h.nullable value (List.mem_append_left _ hvalue)
  summary := str_field_of_non_empty (hget "summary".toList)

/-- The fallbacks are for a node without an id or a title. -/
theorem no_fallback {parsed : BrainNode} {stem heading : Text} (hid : parsed.id ≠ [])
    (htitle : parsed.title ≠ []) : ({ parsed with
      id := if parsed.id = [] then stem else parsed.id
      title := if parsed.title = [] then heading else parsed.title } : BrainNode) = parsed := by
  rw [if_neg hid, if_neg htitle]

/-- **Every field that is written is read back**, and the body comes back under its heading. -/
theorem round_trip (h : Writable node) (file_stem : Option Text) :
    ∃ parsed, parse_brain_node_text (render_brain_node node) file_stem = some parsed
      ∧ SameFields parsed node ∧ parsed.body = headed node.title node.body := by
  obtain ⟨fm, hfm, hget⟩ := parse_frontmatter h
  have htitle : Scalar node.title := h.scalars node.title (by simp)
  have hsame := same_fields h hget
    ("# ".toList ++ node.title ++ "\n\n".toList ++ node.body ++ "\n".toList)
  refine ⟨_, ?_, hsame, trim_body htitle.trimmed h.named.2 h.body.1⟩
  unfold parse_brain_node_text
  rw [split_rendered h, hfm]
  refine congrArg some ?_
  exact no_fallback (hsame.id.trans_ne h.named.1) (hsame.title.trans_ne h.named.2)

/-- What a round leaves of a node can be written again. -/
theorem writable_of_same {parsed : BrainNode} (h : Writable node) (hsame : SameFields parsed node)
    (hbody : parsed.body = headed node.title node.body) : Writable parsed := by
  have htitle : Scalar node.title := h.scalars node.title (by simp)
  refine ⟨?_, ?_, ?_, ?_, ?_, ?_, ?_⟩
  · rw [hsame.id, hsame.title, hsame.node_type, hsame.brain, hsame.agent, hsame.status,
      hsame.visibility, hsame.validity, hsame.created, hsame.updated, hsame.summary]
    exact h.scalars
  · rw [hsame.tags, hsame.aliases]
    exact h.lists
  · rw [hsame.math_score_at, hsame.valid_from, hsame.valid_to]
    exact h.optional
  · rw [hsame.math_score_at, hsame.valid_to]
    exact h.nullable
  · rw [hsame.links]
    exact h.links
  · rw [hsame.id, hsame.title]
    exact h.named
  · rw [hbody]
    constructor
    · rw [← trim_body htitle.trimmed h.named.2 h.body.1]
      exact trim_trim
    · have hheading : '\n' ∉ "# ".toList ++ node.title := by
        rw [List.mem_append, not_or]
        exact ⟨by decide, htitle.single_line⟩
      unfold headed
      split_ifs
      · rw [List.append_nil]
        exact replace_crlf_of_single_line hheading
      · have hparts : "# ".toList ++ node.title ++ ("\n\n".toList ++ node.body)
            = "# ".toList ++ node.title ++ '\n' :: ([] ++ '\n' :: node.body) := rfl
        rw [hparts, replace_crlf_line hheading, replace_crlf_line List.not_mem_nil,
          strip_heading h, h.body.2]
        rfl

/-- Writing and reading back, a number of times. -/
def rounds (file_stem : Option Text) : ℕ → BrainNode → Option BrainNode
  | 0, node => some node
  | n + 1, node => do
    let parsed ← parse_brain_node_text (render_brain_node node) file_stem
    rounds file_stem n parsed

theorem SameFields.refl (node : BrainNode) : SameFields node node :=
  ⟨rfl, rfl, rfl, rfl, rfl, rfl, rfl, rfl, rfl, rfl, rfl, rfl, rfl, rfl, rfl, rfl, rfl⟩

theorem SameFields.trans {first second third : BrainNode} (h : SameFields first second)
    (h' : SameFields second third) : SameFields first third :=
  ⟨h.id.trans h'.id, h.title.trans h'.title, h.node_type.trans h'.node_type,
    h.brain.trans h'.brain, h.agent.trans h'.agent, h.tags.trans h'.tags,
    h.aliases.trans h'.aliases, h.status.trans h'.status, h.visibility.trans h'.visibility,
    h.valid_from.trans h'.valid_from, h.valid_to.trans h'.valid_to, h.validity.trans h'.validity,
    h.created.trans h'.created, h.updated.trans h'.updated, h.links.trans h'.links,
    h.math_score_at.trans h'.math_score_at, h.summary.trans h'.summary⟩

/-- **Any number of rounds keep every written field, and each of them adds one heading to the
body.** -/
theorem rounds_round_trip (h : Writable node) (file_stem : Option Text) (n : ℕ) :
    ∃ parsed, rounds file_stem n node = some parsed ∧ SameFields parsed node
      ∧ parsed.body = (headed node.title)^[n] node.body := by
  induction n generalizing node with
  | zero => exact ⟨node, rfl, SameFields.refl node, rfl⟩
  | succ n ih =>
    obtain ⟨first, hfirst, hsame, hbody⟩ := round_trip h file_stem
    obtain ⟨last, hlast, hlast_same, hlast_body⟩ := ih (writable_of_same h hsame hbody)
    refine ⟨last, ?_, hlast_same.trans hsame, ?_⟩
    · unfold rounds
      rw [hfirst]
      exact hlast
    · rw [hlast_body, hsame.title, hbody, Function.iterate_succ_apply]

/-- A node with a link, two tags, a validity and a body of two lines. -/
def sample_node : BrainNode where
  id := "abc-001".toList
  title := "Test Strategy".toList
  node_type := "Strategy".toList
  brain := "oracle".toList
  agent := "coordinator".toList
  tags := ["alpha".toList, "testing".toList]
  aliases := []
  status := "active".toList
  visibility := "team".toList
  valid_from := some "2026-01-01T00:00:00Z".toList
  valid_to := none
  validity := []
  created := "2026-01-01T00:00:00Z".toList
  updated := "2026-01-02T00:00:00Z".toList
  source_locator := none
  sensitivity := none
  evidence_refs := []
  review_status := none
  claim_ref := none
  links := [⟨"xyz-002".toList, "supports".toList, none, some "direct evidence".toList⟩]
  math_score_at := some "2026-03-19".toList
  summary := []
  body := "First line.\nSecond line.".toList

theorem rounds_round_trip_sample :
    ∃ parsed, rounds none 2 sample_node = some parsed ∧ SameFields parsed sample_node
      ∧ parsed.body = (headed "Test Strategy".toList)^[2] "First line.\nSecond line.".toList := by
  refine @rounds_round_trip sample_node ⟨?_, ?_, ?_, ?_, ?_, ?_, ?_⟩ none 2
  · decide
  · decide
  · decide
  · decide
  · intro link hlink
    rw [List.mem_singleton.mp hlink]
    refine ⟨by decide, by decide, ?_, ?_⟩
    · exact fun _ hnone => nomatch hnone
    · rintro _ ⟨⟩
      decide
  · decide
  · decide

/-- The body is not read back as it was written, and a second round changes it again. An empty
tag and an end of validity that says `null` are not read back at all. -/
theorem round_trip_adds_heading :
    (parse_brain_node_text (render_brain_node sample_node) none).map BrainNode.body
        = some "# Test Strategy\n\nFirst line.\nSecond line.".toList
      ∧ parse_brain_node_text (render_brain_node sample_node) none ≠ some sample_node
      ∧ rounds none 2 sample_node ≠ rounds none 1 sample_node
      ∧ (parse_brain_node_text (render_brain_node { sample_node with tags := [[]] }) none).map
          BrainNode.tags = some []
      ∧ (parse_brain_node_text (render_brain_node { sample_node with
          valid_to := some "null".toList }) none).map BrainNode.valid_to = some none := by
  decide +kernel

end BrainStorage

end OvcaCore

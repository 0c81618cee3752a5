/-
Brain nodes that cannot be read.

The reader of a node file panics on a scalar that is a lone quote, and on nothing else. Which
texts of a frontmatter are taken as scalars depends on the lines before them: on the current key
and on whether a links block is open. That part of the parser is followed here without the
values (`scalars`), so that the texts that can be read are known
(`parse_brain_node_text_isSome_iff`).

`build_index_sync` (`ovca-brain/src/cache.rs`) reads the files of a directory one after the
other, for a brain without an index artifact. A panic in one of them is a join error for
`get_or_load`, which then takes the default index: it is empty.
-/
import OvcaCore.BrainNode
import OvcaCore.Lib.Checks

set_option autoImplicit false

namespace OvcaCore.BrainStorage

open OvcaCore.Checks OvcaCore.Texts

variable {s line text : Text} {state state' : ParserState}

/-! ## The scalars of a frontmatter -/

/-- A quote with nothing else but white space around it. -/
def LoneQuote (s : Text) : Prop := trim is_whitespace s = ['"'] ∨ trim is_whitespace s = ['\'']

instance : DecidablePred LoneQuote := fun s =>
  inferInstanceAs (Decidable (trim is_whitespace s = ['"'] ∨ trim is_whitespace s = ['\'']))

/-- What decides how a line is read. -/
structure LineMode where
  current_key : Text
  in_links_block : Bool
  deriving DecidableEq, Repr

def ParserState.mode (state : ParserState) : LineMode := ⟨state.current_key, state.in_links_block⟩

/-- The key of a normal line becomes the current key. -/
def normal_key (ls current_key : Text) : Text :=
  match split_once [':'] ls with
  | none => current_key
  | some (k, _) => trim is_whitespace k

/-- The scalars of a normal line: the elements of an inline list, or its value. -/
def normal_scalars (ls : Text) : List Text :=
  match split_once [':'] ls with
  | none => []
  | some (_, v) =>
    let value := trim is_whitespace v
    if value = [] then []
    else if value.head? = some '[' ∧ value.getLast? = some ']' then
      (value.drop 1).dropLast.splitOn ','
    else [value]

/-- The scalar after the colon of a link field. -/
def field_scalars (text : Text) : List Text := ((split_once [':'] text).map Prod.snd).toList

/-- How a line is read, as the source decides it. -/
inductive LineKind where
  | blank
  | link_start (text : Text)
  | link_field (text : Text)
  | after_links (ls : Text)
  | list_item (ls : Text)
  | normal (ls : Text)

def line_kind (mode : LineMode) (line : Text) : LineKind :=
  let trimmed := trim_end is_whitespace line
  let ls := trim_start is_whitespace trimmed
  if trim is_whitespace trimmed = [] then .blank
  else if mode.in_links_block ∧ 2 ≤ indent_of line then
    if "- ".toList.isPrefixOf ls then
      .link_start (trim is_whitespace (trim_start_matches "- ".toList ls))
    else if 4 ≤ indent_of line then .link_field ls
    else .after_links ls
  else if ls.head? = some '-' ∧ mode.current_key ≠ [] then .list_item ls
  else .normal ls

/-- The texts of a line that are taken as scalars. -/
def line_scalars (mode : LineMode) (line : Text) : List Text :=
  match line_kind mode line with
  | .blank => []
  | .link_start text | .link_field text => field_scalars text
  | .after_links ls | .normal ls => normal_scalars ls
  | .list_item ls => [ls.dropWhile (· = '-')]

def next_mode (mode : LineMode) (line : Text) : LineMode :=
  match line_kind mode line with
  | .after_links ls => ⟨normal_key ls [], false⟩
  | .normal ls =>
    let current_key := normal_key ls mode.current_key
    ⟨current_key, if current_key = "links".toList then true else mode.in_links_block⟩
  | _ => mode

/-- The texts of some lines that are taken as scalars. -/
def scalars (mode : LineMode) : List Text → List Text
  | [] => []
  | line :: rest => line_scalars mode line ++ scalars (next_mode mode line) rest

/-- The scalars of the frontmatter of a file. -/
def frontmatter_scalars (text : Text) : List Text :=
  match frontmatter_captures (replace_crlf text) with
  | none => []
  | some (fm_raw, _) => scalars ⟨[], false⟩ (lines fm_raw)

/-! ## What a lone quote does -/

theorem strip_scalar_isSome_iff : (strip_scalar s).isSome = true ↔ ¬ LoneQuote s := by
  unfold strip_scalar LoneQuote
  -- a text of two characters or more has an inside, also when it is between two quotes
  generalize trim is_whitespace s = t
  match t with
  | [] => simp
  | [c] =>
    by_cases hdouble : c = '"'
    · simp [hdouble]
    · by_cases hsingle : c = '\''
      · simp [hsingle]
      · simp [hdouble, hsingle]
  | c :: d :: t =>
    simp only [List.length_cons]
    split
    · rw [if_neg (by omega)]
      simp
    · simp

theorem strip_trimmed_isSome_iff :
    (strip_scalar (trim is_whitespace s)).isSome = true ↔ ¬ LoneQuote s := by
  rw [strip_scalar_isSome_iff, LoneQuote, LoneQuote, trim_trim]

theorem inline_items_isSome_iff {inner : Text} :
    (inline_items inner).isSome = true ↔ ∀ s ∈ inner.splitOn ',', ¬ LoneQuote s := by
  have hitems : (inline_items inner).isSome
      = ((inner.splitOn ',').mapM fun s => strip_scalar (trim is_whitespace s)).isSome := by
    unfold inline_items
    cases (inner.splitOn ',').mapM fun s => strip_scalar (trim is_whitespace s) <;> rfl
  rw [hitems, mapM_isSome_iff]
  exact forall₂_congr fun s _ => strip_trimmed_isSome_iff

/-- A line is read, unless one of its scalars is a lone quote, and the mode then is known. -/
def Reads (result : Option ParserState) (scalars : List Text) (mode : LineMode) : Prop :=
  (result.isSome = true ↔ ∀ s ∈ scalars, ¬ LoneQuote s)
    ∧ ∀ state, result = some state → state.mode = mode

theorem reads_some (state : ParserState) : Reads (some state) [] state.mode :=
  ⟨by simp, fun _ h => by rw [Option.some.inj h]⟩

theorem reads_scalar (next : Text → ParserState) {mode : LineMode}
    (hmode : ∀ value, (next value).mode = mode) :
    Reads ((strip_scalar (trim is_whitespace s)).bind fun value => some (next value)) [s] mode := by
  constructor
  · rw [List.forall_mem_singleton, ← strip_trimmed_isSome_iff]
    cases strip_scalar (trim is_whitespace s) <;> rfl
  · intro state h
    obtain ⟨value, -, hvalue⟩ := Option.bind_eq_some_iff.mp h
    rw [← Option.some.inj hvalue, hmode]

theorem parse_normal_line_reads (ls : Text) (state : ParserState) :
    Reads (parse_normal_line ls state) (normal_scalars ls)
      ⟨normal_key ls state.current_key, state.in_links_block⟩ := by
  unfold parse_normal_line normal_scalars normal_key
  cases split_once [':'] ls with
  | none => exact reads_some state
  | some parts =>
    obtain ⟨k, v⟩ := parts
    dsimp only
    by_cases hempty : trim is_whitespace v = []
    · rw [if_pos hempty, if_pos hempty]
      exact reads_some _
    · rw [if_neg hempty, if_neg hempty]
      by_cases hlist : (trim is_whitespace v).head? = some '['
          ∧ (trim is_whitespace v).getLast? = some ']'
      · rw [if_pos hlist, if_pos hlist]
        constructor
        · rw [← inline_items_isSome_iff]
          cases inline_items ((trim is_whitespace v).drop 1).dropLast <;> rfl
        · intro state' h
          obtain ⟨items, -, hitems⟩ := Option.bind_eq_some_iff.mp h
          rw [← Option.some.inj hitems]
          rfl
      · rw [if_neg hlist, if_neg hlist]
        -- the value was trimmed before it is looked at, and trimming it again changes nothing
        have hread := @reads_scalar (trim is_whitespace v) (fun scalar => { state with
          current_key := trim is_whitespace k
          result := state.result.insert (trim is_whitespace k) (.String scalar) })
          ⟨trim is_whitespace k, state.in_links_block⟩ fun _ => rfl
        rw [trim_trim] at hread
        exact hread

theorem insert_link_field_reads (state : ParserState) (text : Text) :
    Reads (insert_link_field state text) (field_scalars text) state.mode := by
  unfold insert_link_field field_scalars
  cases split_once [':'] text with
  | none => exact reads_some state
  | some parts => exact reads_scalar _ fun _ => rfl

theorem parse_list_item_reads (state : ParserState) (ls : Text) :
    Reads (parse_list_item state ls) [ls.dropWhile (· = '-')] state.mode := by
  constructor
  · rw [List.forall_mem_singleton, ← strip_trimmed_isSome_iff]
    unfold parse_list_item
    cases strip_scalar (trim is_whitespace (ls.dropWhile (· = '-'))) with
    | none => rfl
    | some item => by_cases hitem : item = [] <;> simp [hitem]
  · intro state' h
    obtain ⟨item, -, hitem⟩ := Option.bind_eq_some_iff.mp h
    split at hitem
    · rw [← Option.some.inj hitem]
    · rw [← Option.some.inj hitem]
      rfl

theorem flush_link_same_mode (state : ParserState) : (flush_link state).mode = state.mode := by
  unfold flush_link
  split
  · rfl
  · rfl

/-- A line is read as its kind says. -/
theorem parse_line_eq (state : ParserState) (line : Text) :
    parse_line state line = match line_kind state.mode line with
      | .blank => some state
      | .link_start text => insert_link_field (flush_link state) text
      | .link_field ls => insert_link_field state ls
      | .after_links ls =>
        parse_normal_line ls { flush_link state with in_links_block := false, current_key := [] }
      | .list_item ls => parse_list_item state ls
      | .normal ls => (parse_normal_line ls state).map start_links := by
  unfold parse_line line_kind parse_links_line ParserState.mode
  dsimp only
  split_ifs <;> rfl

/-- **A line is read unless it has a lone quote.** -/
theorem parse_line_reads (state : ParserState) (line : Text) :
    Reads (parse_line state line) (line_scalars state.mode line) (next_mode state.mode line) := by
  rw [parse_line_eq]
  unfold line_scalars next_mode
  cases line_kind state.mode line with
  | blank => exact reads_some state
  | link_start text =>
    have hread := insert_link_field_reads (flush_link state) text
    rw [flush_link_same_mode] at hread
    exact hread
  | link_field ls => exact insert_link_field_reads state ls
  | after_links ls => exact parse_normal_line_reads ls _
  | list_item ls => exact parse_list_item_reads state ls
  | normal ls =>
    obtain ⟨hsome, hmode⟩ := parse_normal_line_reads ls state
    refine ⟨by rw [Option.isSome_map, hsome], fun state' h => ?_⟩
    obtain ⟨next, hnext, rfl⟩ := Option.map_eq_some_iff.mp h
    obtain ⟨hkey, hblock⟩ := LineMode.mk.inj (hmode next hnext)
    unfold start_links
    by_cases hlinks : next.current_key = "links".toList
    · rw [if_pos hlinks]
      simp only [ParserState.mode, ← hkey, if_pos hlinks]
    · rw [if_neg hlinks]
      simp only [ParserState.mode, ← hkey, if_neg hlinks, hblock]

theorem parse_lines_isSome_iff {ls : List Text} : (ls.foldlM parse_line state).isSome = true
    ↔ ∀ s ∈ scalars state.mode ls, ¬ LoneQuote s := by
  induction ls generalizing state with
  | nil => simp [scalars]
  | cons line ls ih =>
    obtain ⟨hsome, hmode⟩ := parse_line_reads state line
    rw [List.foldlM_cons, scalars, List.forall_mem_append, ← hsome]
    cases hline : parse_line state line with
    | none => simp
    | some next =>
      rw [← hmode next hline, ← ih]
      simp

/-- Whether a file has a lone quote as a scalar of its frontmatter. -/
def HasLoneQuote (text : Text) : Prop := ∃ s ∈ frontmatter_scalars text, LoneQuote s

instance : DecidablePred HasLoneQuote := fun text =>
  inferInstanceAs (Decidable (∃ s ∈ frontmatter_scalars text, LoneQuote s))

/-- **Which texts can be read.** -/
theorem parse_brain_node_text_isSome_iff (text : Text) (file_stem : Option Text) :
    (parse_brain_node_text text file_stem).isSome = true ↔ ¬ HasLoneQuote text := by
  have hsplit : (parse_brain_node_text text file_stem).isSome
      = (split_frontmatter text).isSome := by
    unfold parse_brain_node_text
    cases split_frontmatter text <;> rfl
  -- flushing the last link does not fail
  have hyaml : ∀ fm, (parse_yaml_frontmatter fm).isSome
      = ((lines fm).foldlM parse_line ParserState.initial).isSome := by
    intro fm
    unfold parse_yaml_frontmatter
    cases (lines fm).foldlM parse_line ParserState.initial with
    | none => rfl
    | some state => by_cases hblock : state.in_links_block = true <;> simp [hblock]
  rw [hsplit]
  unfold HasLoneQuote frontmatter_scalars split_frontmatter
  push Not
  dsimp only
  cases frontmatter_captures (replace_crlf text) with
  | none => simp
  | some captures =>
    obtain ⟨fm_raw, body⟩ := captures
    have hread := @parse_lines_isSome_iff ParserState.initial (lines fm_raw)
    rw [← hyaml] at hread
    refine Iff.trans ?_ hread
    dsimp only
    cases parse_yaml_frontmatter fm_raw <;> rfl

/-! ## Building an index -/

/-- An entry of the nodes directory, with its text if it can be read. -/
structure NodeFile where
  name : String
  contents : Option Text
  deriving DecidableEq, Repr

/-- The stem and the extension of a file name, at its last dot if that is not its start. -/
def rsplit_file_at_dot (name : Text) : Text × Option Text :=
  match name.reverse.span (· ≠ '.') with
  | (after, _ :: c :: before) => ((c :: before).reverse, some after.reverse)
  | _ => (name, none)

def NodeFile.file_stem (file : NodeFile) : Option Text :=
  some (rsplit_file_at_dot file.name.toList).1

def NodeFile.extension (file : NodeFile) : Option Text := (rsplit_file_at_dot file.name.toList).2

/-- The files with the extension of a node, in the order of their paths. -/
def list_brain_nodes (entries : List NodeFile) : List NodeFile :=
  (entries.filter fun file => file.extension = some "md".toList).mergeSort
    fun file file' => file.name ≤ file'.name

/-- `parse_brain_node`: an error where the file cannot be read, a node, or the panic. -/
def parse_brain_node (file : NodeFile) : Option (Except Unit BrainNode) :=
  match file.contents with
  | none => some (.error ())
  | some text => (parse_brain_node_text text file.file_stem).map .ok

/-- The nodes of the index that is built from a nodes directory. -/
def build_index_sync (entries : List NodeFile) : Option (List BrainNode) := do
  let results ← (list_brain_nodes entries).mapM parse_brain_node
  some (results.filterMap Except.toOption)

/-- What `get_or_load` takes: the default index is empty. -/
def loaded_index (entries : List NodeFile) : List BrainNode :=
  (build_index_sync entries).getD []

/-- The index is built and has the nodes of the files, in the order of their paths. -/
def IndexesAll (entries : List NodeFile) : Prop :=
  ∃ results, List.Forall₂ (fun file result => parse_brain_node file = some result)
      (list_brain_nodes entries) results
    ∧ build_index_sync entries = some (results.filterMap Except.toOption)
    ∧ loaded_index entries = results.filterMap Except.toOption

theorem mem_list_brain_nodes {entries : List NodeFile} {file : NodeFile} :
    file ∈ list_brain_nodes entries ↔ file ∈ entries ∧ file.extension = some "md".toList := by
  unfold list_brain_nodes
  rw [List.mem_mergeSort, List.mem_filter, decide_eq_true_iff]

theorem parse_brain_node_isSome_iff {file : NodeFile} : (parse_brain_node file).isSome = true
    ↔ ∀ text, file.contents = some text → ¬ HasLoneQuote text := by
  unfold parse_brain_node
  cases file.contents with
  | none => simp
  | some text =>
    rw [Option.isSome_map, parse_brain_node_text_isSome_iff]
    simp

/-- An index that is not built is empty when it is loaded. -/
theorem loaded_of_panic {entries : List NodeFile} (h : build_index_sync entries = none) :
    loaded_index entries = [] := by
  unfold loaded_index
  rw [h]
  rfl

theorem build_index_isSome_iff {entries : List NodeFile} :
    (build_index_sync entries).isSome = true ↔ ∀ file ∈ list_brain_nodes entries, ∀ text,
      file.contents = some text → ¬ HasLoneQuote text := by
  have hresults : (build_index_sync entries).isSome
      = ((list_brain_nodes entries).mapM parse_brain_node).isSome := by
    unfold build_index_sync
    cases (list_brain_nodes entries).mapM parse_brain_node <;> rfl
  rw [hresults, mapM_isSome_iff]
  exact forall₂_congr fun file _ => parse_brain_node_isSome_iff

/-- The index has the nodes of all files as soon as it is built. -/
theorem indexes_all_iff_built {entries : List NodeFile} :
    IndexesAll entries ↔ (build_index_sync entries).isSome = true := by
  constructor
  · rintro ⟨results, -, hbuilt, -⟩
    rw [hbuilt]
    rfl
  · intro hsome
    obtain ⟨nodes, hnodes⟩ := Option.isSome_iff_exists.mp hsome
    obtain ⟨results, hresults, hkept⟩ := Option.bind_eq_some_iff.mp hnodes
    refine ⟨results, mapM_eq_some_iff.mp hresults, ?_, ?_⟩
    · rw [hnodes, ← Option.some.inj hkept]
    · unfold loaded_index
      rw [hnodes, ← Option.some.inj hkept]
      rfl

/-- **When no node file hides the others.** A text can be read iff its frontmatter has no lone
quote as a scalar; and the index of a directory has the nodes of all files, in the order of
their paths, iff that is so of each of them. Otherwise `get_or_load` has no nodes at all. -/
theorem indexes_all_iff (text : Text) (file_stem : Option Text) (entries : List NodeFile) :
    ((∃ node, parse_brain_node_text text file_stem = some node) ↔ ¬ HasLoneQuote text) ∧
    (IndexesAll entries ↔ ∀ file ∈ entries, file.extension = some "md".toList →
      ∀ text, file.contents = some text → ¬ HasLoneQuote text) ∧
    (¬ IndexesAll entries → loaded_index entries = []) := by
  refine ⟨?_, ?_, ?_⟩
  · rw [← Option.isSome_iff_exists]
    exact parse_brain_node_text_isSome_iff text file_stem
  · rw [indexes_all_iff_built, build_index_isSome_iff]
    simp only [mem_list_brain_nodes, and_imp]
  · intro hnot
    rw [indexes_all_iff_built, Option.not_isSome_iff_eq_none] at hnot
    exact loaded_of_panic hnot

/-! ## A title that is a quote -/

/-- A node with a title, as `render_brain_node` writes it. -/
def titled_file (name : String) (title : Text) : NodeFile where
  name := name
  contents := some (render_brain_node
    { BrainNode.default with id := "id".toList, title := title, body := "Text.".toList })

/-- The file of a node whose title is a quote cannot be read, and hides the file before it. -/
theorem quote_title_hides :
    (parse_brain_node (titled_file "a.md" "A".toList)).isSome = true ∧
    parse_brain_node (titled_file "b.md" "\"".toList) = none ∧
    ¬ IndexesAll [titled_file "a.md" "A".toList, titled_file "b.md" "\"".toList] ∧
    loaded_index [titled_file "a.md" "A".toList, titled_file "b.md" "\"".toList] = [] := by
  have hgood : (parse_brain_node (titled_file "a.md" "A".toList)).isSome = true := by
    rw [parse_brain_node_isSome_iff]
    rintro text ⟨⟩
    decide +kernel
  have hquote : parse_brain_node (titled_file "b.md" "\"".toList) = none := by
    rw [← Option.not_isSome_iff_eq_none, parse_brain_node_isSome_iff]
    intro hnone
    exact hnone _ rfl (by decide +kernel)
  have hpanic : build_index_sync [titled_file "a.md" "A".toList, titled_file "b.md" "\"".toList]
      = none := by
    rw [← Option.not_isSome_iff_eq_none, build_index_isSome_iff]
    intro hnone
    refine hnone (titled_file "b.md" "\"".toList) (mem_list_brain_nodes.mpr ⟨by simp, ?_⟩) _ rfl ?_
    · decide
    · decide +kernel
  refine ⟨hgood, hquote, ?_, loaded_of_panic hpanic⟩
  rintro ⟨results, -, hbuilt, -⟩
  rw [hpanic] at hbuilt
  exact nomatch hbuilt

end OvcaCore.BrainStorage

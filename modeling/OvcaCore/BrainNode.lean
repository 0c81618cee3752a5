/-
The file of a brain node (`ovca-storage/src/brain.rs`): `render_brain_node` writes it and
`parse_brain_node_text` reads it back.

A Rust string is the list of its characters. The reader panics where it slices the inside of
a lone quote; `none` stands for that. The two floating-point fields of a node are left out,
and so are the hashes and the version, which are neither written nor read here. Of the path
only the file stem is read.
-/
import OvcaCore.Types
import OvcaCore.Lib.Texts
import Mathlib.Algebra.GroupWithZero.Nat

set_option autoImplicit false

namespace OvcaCore

open OvcaCore.Texts

structure BrainLink where
  id : Text
  link_type : Text
  brain : Option Text
  why : Option Text
  deriving DecidableEq, Repr

structure BrainNode where
  id : Text
  title : Text
  node_type : Text
  brain : Text
  agent : Text
  tags : List Text
  aliases : List Text
  status : Text
  visibility : Text
  valid_from : Option Text
  valid_to : Option Text
  validity : Text
  created : Text
  updated : Text
  source_locator : Option Text
  sensitivity : Option Text
  evidence_refs : List Text
  review_status : Option Text
  claim_ref : Option Text
  links : List BrainLink
  math_score_at : Option Text
  summary : Text
  body : Text
  deriving DecidableEq, Repr

def BrainNode.default : BrainNode where
  id := []
  title := []
  node_type := []
  brain := []
  agent := []
  tags := []
  aliases := []
  status := "active".toList
  visibility := "team".toList
  valid_from := none
  valid_to := none
  validity := []
  created := []
  updated := []
  source_locator := none
  sensitivity := none
  evidence_refs := []
  review_status := none
  claim_ref := none
  links := []
  math_score_at := none
  summary := []
  body := []

namespace BrainStorage

/-! ## Values -/

/-- A `HashMap` from texts, as its insertions with the newest first. -/
abbrev HashMap (ν : Type) : Type := List (Text × ν)

namespace HashMap

variable {ν : Type}

def get (map : HashMap ν) (key : Text) : Option ν := map.lookup key

def insert (map : HashMap ν) (key : Text) (value : ν) : HashMap ν := (key, value) :: map

def or_insert (map : HashMap ν) (key : Text) (value : ν) : HashMap ν :=
  if (map.get key).isSome then map else map.insert key value

end HashMap

/-- The elements of the arrays that the frontmatter parser builds. -/
inductive Item where
  | String (value : Text)
  | Object (link : BrainLink)
  deriving DecidableEq, Repr

/-- The `serde_json::Value`s that the frontmatter parser builds. -/
inductive Value where
  | String (value : Text)
  | Array (items : List Item)
  deriving DecidableEq, Repr

def scalar_str : Value → Text
  | .String value => value
  | .Array _ => []

def item_str : Item → Text
  | .String value => value
  | .Object _ => []

def str_array : Value → List Text
  | .Array items => items.map item_str
  | .String value => if value = [] then [] else [value]

def parse_links : Value → List BrainLink
  | .Array items => items.filterMap fun item =>
    match item with
    | .Object link => some link
    | .String _ => none
  | .String _ => []

/-! ## Frontmatter -/

/-- A text in a pair of quotes loses them. A lone quote is its own pair and panics. -/
def strip_scalar (s : Text) : Option Text :=
  let s := trim is_whitespace s
  if (s.head? = some '"' ∧ s.getLast? = some '"') ∨ (s.head? = some '\'' ∧ s.getLast? = some '\'')
  then
    if s.length < 2 then none else some (trim is_whitespace (s.drop 1).dropLast)
  else some s

/-- `s.trim_start_matches(pattern)`: there are at most as many matches as characters. -/
def trim_start_matches (pattern s : Text) : Text :=
  (fun t => if pattern.isPrefixOf t then t.drop pattern.length else t)^[s.length] s

/-- What the parser keeps from line to line. -/
structure ParserState where
  result : HashMap Value
  current_key : Text
  in_links_block : Bool
  current_link : HashMap Text
  deriving Repr

def ParserState.initial : ParserState where
  result := []
  current_key := []
  in_links_block := false
  current_link := []

/-- `entry(key).or_insert_with(..)`, and a push if the entry is an array. -/
def push_item (result : HashMap Value) (key : Text) (item : Item) : HashMap Value :=
  match result.get key with
  | some (.Array items) => result.insert key (.Array (items ++ [item]))
  | some (.String _) => result
  | none => result.insert key (.Array [item])

def link_of (link_map : HashMap Text) : BrainLink where
  id := (link_map.get "id".toList).getD []
  link_type := (link_map.get "type".toList).getD []
  brain := link_map.get "brain".toList
  why := link_map.get "why".toList

def push_link (result : HashMap Value) (link_map : HashMap Text) : HashMap Value :=
  push_item result "links".toList (.Object (link_of link_map))

/-- The items of an inline list. -/
def inline_items (inner : Text) : Option (List Item) := do
  let items ← (inner.splitOn ',').mapM fun s => strip_scalar (trim is_whitespace s)
  pure ((items.filter fun s => s ≠ []).map .String)

def parse_normal_line (ls : Text) (state : ParserState) : Option ParserState :=
  match split_once [':'] ls with
  | none => some state
  | some (k, v) =>
    let key := trim is_whitespace k
    let value := trim is_whitespace v
    if value = [] then
      some { state with
        current_key := key
        result := state.result.or_insert key (.Array []) }
    else if value.head? = some '[' ∧ value.getLast? = some ']' then do
      let items ← inline_items (value.drop 1).dropLast
      some { state with
        current_key := key
        result := state.result.insert key (.Array items) }
    else do
      let scalar ← strip_scalar value
      some { state with
        current_key := key
        result := state.result.insert key (.String scalar) }

/-- The link under construction gets a key and a value, if the text has a colon. -/
def insert_link_field (state : ParserState) (text : Text) : Option ParserState :=
  match split_once [':'] text with
  | none => some state
  | some (k, v) => do
    let value ← strip_scalar (trim is_whitespace v)
    some { state with current_link := state.current_link.insert (trim is_whitespace k) value }

/-- The link under construction is finished. -/
def flush_link (state : ParserState) : ParserState :=
  if state.current_link.isEmpty then state
  else { state with result := push_link state.result state.current_link, current_link := [] }

/-- A line of the links block. -/
def parse_links_line (state : ParserState) (indent : ℕ) (ls : Text) : Option ParserState :=
  if "- ".toList.isPrefixOf ls then
    insert_link_field (flush_link state)
      (trim is_whitespace (trim_start_matches "- ".toList ls))
  else if 4 ≤ indent then insert_link_field state ls
  else
    parse_normal_line ls { flush_link state with in_links_block := false, current_key := [] }

/-- An item of the block list under the current key. -/
def parse_list_item (state : ParserState) (ls : Text) : Option ParserState := do
  let item ← strip_scalar (trim is_whitespace (ls.dropWhile (· = '-')))
  if item = [] then some state
  else some { state with result := push_item state.result state.current_key (.String item) }

/-- The length in bytes of the white space at the start of a line. -/
def indent_of (line : Text) : ℕ := ((line.takeWhile is_whitespace).map Char.utf8Size).sum

/-- A line with the key `links` starts the links block. -/
def start_links (state : ParserState) : ParserState :=
  if state.current_key = "links".toList then
    { state with
      in_links_block := true
      result := state.result.insert "links".toList (.Array []) }
  else state

def parse_line (state : ParserState) (line : Text) : Option ParserState :=
  let trimmed := trim_end is_whitespace line
  if trim is_whitespace trimmed = [] then some state
  else
    let indent := indent_of line
    let ls := trim_start is_whitespace trimmed
    if state.in_links_block ∧ 2 ≤ indent then parse_links_line state indent ls
    else if ls.head? = some '-' ∧ state.current_key ≠ [] then parse_list_item state ls
    else (parse_normal_line ls state).map start_links

def parse_yaml_frontmatter (fm : Text) : Option (HashMap Value) := do
  let state ← (lines fm).foldlM parse_line ParserState.initial
  if state.in_links_block then some (flush_link state).result else some state.result

/-- `(?s)^---\n(.*?)\n---\n?(.*)$`: the frontmatter and the body. -/
def frontmatter_captures (text : Text) : Option (Text × Text) :=
  if "---\n".toList.isPrefixOf text then do
    let (fm_raw, rest) ← split_once "\n---".toList (text.drop 4)
    some (fm_raw, if rest.head? = some '\n' then rest.drop 1 else rest)
  else none

def split_frontmatter (text : Text) : Option (HashMap Value × Text) :=
  let text := replace_crlf text
  match frontmatter_captures text with
  | none => some ([], text)
  | some (fm_raw, body) => do
    let fm ← parse_yaml_frontmatter fm_raw
    some (fm, body)

/-! ## Reading -/

/-- The field under a key, or its default. -/
def str_field (fm : HashMap Value) (key : String) (default : Text) : Text :=
  match fm.get key.toList with
  | some value => scalar_str value
  | none => default

def optional_field (fm : HashMap Value) (key : String) : Option Text :=
  (fm.get key.toList).map scalar_str

/-- A field that is left out when it is empty or `null`. -/
def nullable_field (fm : HashMap Value) (key : String) : Option Text :=
  (optional_field fm key).filter fun s => s ≠ [] ∧ s ≠ "null".toList

def array_field (fm : HashMap Value) (key : String) : List Text :=
  match fm.get key.toList with
  | some value => str_array value
  | none => []

def h1_title (body : Text) : Option Text :=
  ((lines body).find? fun l => "# ".toList.isPrefixOf l).map fun l =>
    trim is_whitespace (trim_start_matches "# ".toList l)

/-- The part of the file stem before the first underscore. -/
def stem_id (file_stem : Option Text) : Text :=
  match file_stem with
  | some s => (s.splitOn '_').headD s
  | none => []

/-- The fields of the frontmatter; each key has its own. -/
def node_of_fields (fm : HashMap Value) (body : Text) : BrainNode where
  id := str_field fm "id" BrainNode.default.id
  title := str_field fm "title" BrainNode.default.title
  node_type := str_field fm "type" BrainNode.default.node_type
  brain := str_field fm "brain" BrainNode.default.brain
  agent := str_field fm "agent" BrainNode.default.agent
  tags := array_field fm "tags"
  aliases := array_field fm "aliases"
  status := str_field fm "status" BrainNode.default.status
  visibility := str_field fm "visibility" BrainNode.default.visibility
  valid_from := optional_field fm "valid_from"
  valid_to := nullable_field fm "valid_to"
  validity := str_field fm "validity" BrainNode.default.validity
  created := str_field fm "created" BrainNode.default.created
  updated := str_field fm "updated" BrainNode.default.updated
  source_locator := optional_field fm "source_locator"
  sensitivity := optional_field fm "sensitivity"
  evidence_refs := array_field fm "evidence_refs"
  review_status := optional_field fm "review_status"
  claim_ref := optional_field fm "claim_ref"
  links := match fm.get "links".toList with
    | some value => parse_links value
    | none => []
  math_score_at := nullable_field fm "math_score_at"
  summary := str_field fm "summary" BrainNode.default.summary
  body := trim is_whitespace body

def parse_brain_node_text (text : Text) (file_stem : Option Text) : Option BrainNode := do
  let (fm, body) ← split_frontmatter text
  let node := node_of_fields fm body
  some { node with
    id := if node.id = [] then stem_id file_stem else node.id
    title := if node.title = [] then (h1_title body).getD [] else node.title }

/-! ## Writing -/

/-- `"{key}: {value}"`. -/
def field_line (key : String) (value : Text) : Text := key.toList ++ ": ".toList ++ value

def list_line (key : String) (values : List Text) : Text :=
  field_line key ('[' :: ", ".toList.intercalate values ++ [']'])

def link_lines (link : BrainLink) : List Text :=
  [field_line "  - id" link.id, field_line "    type" link.link_type]
    ++ (link.brain.map (field_line "    brain")).toList
    ++ (link.why.map (field_line "    why")).toList

/-- A line that is written unless its text is empty. -/
def non_empty_line (key : String) (value : Text) : List Text :=
  if value = [] then [] else [field_line key value]

def frontmatter_lines (node : BrainNode) : List Text :=
  [field_line "id" node.id, field_line "title" node.title, field_line "type" node.node_type,
    field_line "brain" node.brain, field_line "agent" node.agent, list_line "tags" node.tags]
    ++ (if node.aliases = [] then [] else [list_line "aliases" node.aliases])
    ++ (node.math_score_at.map (field_line "math_score_at")).toList
    ++ [field_line "status" node.status, field_line "visibility" node.visibility]
    ++ (node.valid_from.map (field_line "valid_from")).toList
    ++ (node.valid_to.map (field_line "valid_to")).toList
    ++ non_empty_line "validity" node.validity
    ++ [field_line "created" node.created, field_line "updated" node.updated]
    ++ non_empty_line "summary" node.summary
    ++ (if node.links = [] then [] else "links:".toList :: node.links.flatMap link_lines)

def render_brain_node (node : BrainNode) : Text :=
  "---\n".toList ++ (frontmatter_lines node).flatMap (· ++ ['\n']) ++ "---\n".toList
    ++ "# ".toList ++ node.title ++ "\n\n".toList ++ node.body ++ "\n".toList

end BrainStorage

end OvcaCore

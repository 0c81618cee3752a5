/-
The brain tools (`ovca-brain/src/tools.rs`) over the nodes of a brain: `brain_write`,
`brain_read`, `brain_search` without a remote endpoint, and `brain_diff`.

An argument that is absent or no string is the empty text. `to_lowercase` is a parameter, and
so are the clock and the generator of identifiers. The write of the file succeeds. A score is
the number of tokens that it counts.
-/
import OvcaCore.BrainNode
import Mathlib.Data.List.Sort

set_option autoImplicit false

namespace OvcaCore

open OvcaCore.Texts

namespace BrainTools

/-! ## Permissions -/

inductive Perm where
  | ReadWrite
  | ReadOnly
  | Denied
  deriving DecidableEq, Repr

def perm_level (caller brain : Text) : Perm :=
  if brain = "oracle".toList then
    if caller = "owner".toList then .ReadWrite
    else if caller ∈ ["coordinator".toList, "engineer".toList, "reviewer".toList,
      "auditor".toList] then .ReadOnly
    else .Denied
  else if brain = "coordinator".toList then
    if caller ∈ ["owner".toList, "coordinator".toList] then .ReadOnly else .Denied
  else if brain ∈ ["engineer".toList, "reviewer".toList, "auditor".toList] then
    if caller ∈ ["owner".toList, "coordinator".toList, brain] then .ReadOnly else .Denied
  else .Denied

def can_write_impl (caller brain : Text) : Bool :=
  if brain = "oracle".toList then caller = "owner".toList
  else if brain ∈ ["coordinator".toList, "engineer".toList, "reviewer".toList,
    "auditor".toList] then caller = "owner".toList || caller = brain
  else false

/-- `BRAIN_LAYOUT`: the known brains. -/
def known_brains : List Text :=
  ["oracle".toList, "coordinator".toList, "engineer".toList, "reviewer".toList, "auditor".toList]

section Tools

variable (to_lowercase : Text → Text)

def str_arg (value : Text) : Text := to_lowercase (trim is_whitespace value)

/-- The first of some arguments that is not blank. -/
def first_non_empty_str (values : List Text) : Text :=
  ((values.map (trim is_whitespace)).find? fun value => value ≠ []).getD []

/-- The first of some arguments that is not blank, in lower case. -/
def first_non_empty_lowercase (values : List Text) : Text :=
  match (values.map (trim is_whitespace)).find? fun value => value ≠ [] with
  | some value => to_lowercase value
  | none => []

/-- `usize_arg`. -/
def usize_arg (value : Option ℕ) (default max : ℕ) : ℕ := min (value.getD default) max

/-- Private nodes are for the owner and the coordinator. -/
def visible (nodes : List BrainNode) (caller : Text) : List BrainNode :=
  if caller = "owner".toList ∨ caller = "coordinator".toList then nodes
  else nodes.filter fun n => n.visibility ≠ "private".toList

inductive BrainError where
  | CallerRequired
  | PermissionDenied (caller brain : Text)
  | UnknownBrain (brain : Text)
  | QueryRequired
  deriving DecidableEq, Repr

/-- The refusal of a caller. -/
def check_read (caller brain : Text) : Option BrainError :=
  let c := str_arg to_lowercase caller
  let b := str_arg to_lowercase brain
  if perm_level c b = .Denied then some (.PermissionDenied c b) else none

def check_write (caller brain : Text) : Option BrainError :=
  let c := str_arg to_lowercase caller
  let b := str_arg to_lowercase brain
  if ¬ can_write_impl c b then some (.PermissionDenied c b) else none

/-! ## brain_write -/

structure WriteArgs where
  caller : Text
  brain : Text
  title : Text
  body : Text
  node_type : Text
  visibility : Text
  tags : List Text

/-- The owner can name a brain; the others write to their own. -/
def write_brain (args : WriteArgs) : Text :=
  let caller := str_arg to_lowercase args.caller
  let req_brain := str_arg to_lowercase args.brain
  if caller = "owner".toList ∧ req_brain ≠ [] then req_brain else caller

/-- The node that a call writes, as `render_brain_node` renders it. -/
def brain_write (now node_id : Text) (args : WriteArgs) : Except BrainError BrainNode :=
  let caller := str_arg to_lowercase args.caller
  let write_brain := write_brain to_lowercase args
  if caller = [] then .error .CallerRequired
  else match check_write to_lowercase caller write_brain with
  | some err => .error err
  | none =>
    if write_brain ∉ known_brains then .error (.UnknownBrain write_brain)
    else .ok { BrainNode.default with
      id := node_id
      title := args.title
      node_type := if args.node_type = [] then "Note".toList else args.node_type
      brain := write_brain
      agent := caller
      tags := args.tags
      visibility := if args.visibility = [] then "team".toList else args.visibility
      body := args.body
      created := now
      updated := now }

/-! ## Reading -/

/-- The brain that a call names, or the default one. -/
def brain_arg (brain : Text) : Text :=
  let b := first_non_empty_lowercase to_lowercase [brain]
  if b = [] then "oracle".toList else b

structure ReadArgs where
  caller : Text
  caller_agent : Text
  brain : Text
  limit : Option ℕ
  type : Text
  node_type : Text
  tag : Text

/-- The caller of a reading tool. -/
def caller_arg (caller caller_agent : Text) : Text :=
  first_non_empty_lowercase to_lowercase [caller, caller_agent]

structure ReadResult where
  brain : Text
  caller : Text
  node_count : ℕ
  nodes : List BrainNode
  generated_at : Text
  deriving DecidableEq, Repr

def brain_read (nodes : List BrainNode) (generated_at : Text) (args : ReadArgs) :
    Except BrainError ReadResult :=
  let caller := caller_arg to_lowercase args.caller args.caller_agent
  let brain := brain_arg to_lowercase args.brain
  let limit := usize_arg args.limit 50 200
  let node_type := first_non_empty_str [args.type, args.node_type]
  let tag := first_non_empty_str [args.tag]
  match check_read to_lowercase caller brain with
  | some err => .error err
  | none =>
    let filtered_nodes := ((visible nodes caller).filter fun node =>
        node_type = [] || node.node_type = node_type).filter fun node =>
      tag = [] || node.tags.any fun node_tag => node_tag = tag
    .ok
      { brain := brain
        caller := caller
        node_count := filtered_nodes.length
        nodes := filtered_nodes.take limit
        generated_at := generated_at }

/-- A token is a run of `[a-z0-9_]` and Thai characters. -/
def is_token_char (c : Char) : Bool :=
  ('a' ≤ c && c ≤ 'z') || ('0' ≤ c && c ≤ '9') || c == '_'
    || (0x0E00 ≤ c.toNat && c.toNat ≤ 0x0E7F)

/-- The set of tokens of a text. -/
def tokenize (text : Text) : List Text :=
  (((to_lowercase text).splitOnP fun c => !is_token_char c).filter fun t => t ≠ []).dedup

def contains (token text : Text) : Bool := text.tails.any fun rest => token.isPrefixOf rest

def score_node (query_tokens : List Text) (node : BrainNode) : ℕ :=
  let searchable := to_lowercase ([' '].intercalate [node.title, node.summary, node.node_type,
    [' '].intercalate node.tags, [' '].intercalate node.aliases])
  if query_tokens = [] ∨ trim is_whitespace searchable = [] then 0
  else (query_tokens.filter fun token => contains token searchable).length

/-- Higher scores first, then titles in order. -/
def before_scored (a b : ℕ × BrainNode) : Prop :=
  b.1 < a.1 ∨ (a.1 = b.1 ∧ a.2.title ≤ b.2.title)

instance : DecidableRel before_scored := fun a b =>
  inferInstanceAs (Decidable (b.1 < a.1 ∨ (a.1 = b.1 ∧ a.2.title ≤ b.2.title)))

def search_nodes_scored (nodes : List BrainNode) (query : Text) : List (ℕ × BrainNode) :=
  let q_tokens := tokenize to_lowercase query
  if q_tokens = [] then []
  else
    ((nodes.map fun n => (score_node to_lowercase q_tokens n, n)).filter fun scored =>
      0 < scored.1).insertionSort before_scored

structure SearchArgs where
  caller : Text
  caller_agent : Text
  brain : Text
  query : Text
  limit : Option ℕ

structure SearchResult where
  brain : Text
  query : Text
  total : ℕ
  results : List (ℕ × BrainNode)
  deriving DecidableEq, Repr

def brain_search (nodes : List BrainNode) (args : SearchArgs) :
    Except BrainError SearchResult :=
  let caller := caller_arg to_lowercase args.caller args.caller_agent
  let brain := brain_arg to_lowercase args.brain
  let limit := usize_arg args.limit 20 100
  match check_read to_lowercase caller brain with
  | some err => .error err
  | none =>
    if trim is_whitespace args.query = [] then .error .QueryRequired
    else
      let results := (search_nodes_scored to_lowercase (visible nodes caller) args.query).take limit
      .ok { brain := brain, query := args.query, total := results.length, results := results }

structure DiffArgs where
  caller : Text
  caller_agent : Text
  brain : Text
  limit : Option ℕ
  since : Text
  since_date : Text

structure DiffResult where
  brain : Text
  since_date : Text
  changed_count : ℕ
  nodes : List BrainNode
  deriving DecidableEq, Repr

def brain_diff (nodes : List BrainNode) (args : DiffArgs) : Except BrainError DiffResult :=
  let caller := caller_arg to_lowercase args.caller args.caller_agent
  let brain := brain_arg to_lowercase args.brain
  let limit := usize_arg args.limit 20 100
  let since := first_non_empty_str [args.since, args.since_date]
  match check_read to_lowercase caller brain with
  | some err => .error err
  | none =>
    let nodes := (visible nodes caller).filter fun n => since = [] || since < n.updated
    let nodes := nodes.insertionSort fun a b => b.updated ≤ a.updated
    .ok
      { brain := brain
        since_date := since
        changed_count := nodes.length
        nodes := nodes.take limit }

end Tools

end BrainTools

end OvcaCore

/-
Trees of files.

A tree says what stands at each location, a list of names from its root: a directory, a
file, a link or a special file. Finitely many locations are in use, and what stands
anywhere stands in a directory. Paths are resolved as an operating system does it, name
by name and through links; the operations of a program that reads, makes and fills files
are those of `Op`, each performed at once (`perform`).

`Extends` is what they never undo, `Agrees` what decides their answers below a directory
without links.
-/
import OvcaCore.Lib.Checks
import OvcaCore.Lib.Environments
import Mathlib.Data.Finset.Dedup
import Mathlib.Data.List.Induction
import Mathlib.Logic.Function.Basic

set_option autoImplicit false

namespace OvcaCore.FileTrees

variable {ν β : Type}

/-! ## Trees -/

inductive Kind where
  | dir
  | file
  | link
  | special
  deriving DecidableEq, Repr

/-- What stands at a location. A link holds the location that it leads to in the end; a
special file (a device, a pipe, a socket) what reading it gives. -/
inductive Node (ν β : Type) where
  | dir
  | file (content : β)
  | link (target : List ν)
  | special (content : β)
  deriving DecidableEq

namespace Node

def kind : Node ν β → Kind
  | .dir => .dir
  | .file _ => .file
  | .link _ => .link
  | .special _ => .special

/-- A directory or a regular file. -/
def Plain (node : Node ν β) : Prop := node.kind = .dir ∨ node.kind = .file

theorem plain_dir : (dir : Node ν β).Plain := .inl rfl

theorem plain_file (content : β) : (file content : Node ν β).Plain := .inr rfl

end Node

/-- A finite tree: `keys` lists the locations in use, and others. -/
structure Tree (ν β : Type) where
  get : List ν → Option (Node ν β)
  keys : List (List ν)
  mem_keys : ∀ loc, get loc ≠ none → loc ∈ keys
  root : get [] = some .dir
  parent : ∀ loc n, get (loc ++ [n]) ≠ none → get loc = some .dir

inductive IoError where
  | NotFound
  | NotADirectory
  | AlreadyExists
  | IsADirectory
  | Other
  deriving DecidableEq, Repr

namespace Tree

/-- Nothing but the root. -/
def empty [DecidableEq ν] : Tree ν β where
  get loc := if loc = [] then some .dir else none
  keys := [[]]
  mem_keys loc hloc := by
    by_cases h : loc = []
    · exact h ▸ List.mem_singleton_self _
    · exact absurd (if_neg h) hloc
  root := if_pos rfl
  parent loc n hloc := absurd (if_neg (by simp)) hloc

theorem ne_none {t : Tree ν β} {loc : List ν} {node : Node ν β} (h : t.get loc = some node) :
    t.get loc ≠ none := by
  rw [h]
  exact Option.some_ne_none node

/-- What stands below something stands in directories all the way. -/
theorem dir_of_below (t : Tree ν β) {loc rel : List ν} (hrel : rel ≠ [])
    (h : t.get (loc ++ rel) ≠ none) : t.get loc = some .dir := by
  induction rel using List.reverseRecOn with
  | nil => exact absurd rfl hrel
  | append_singleton rel n ih =>
    rw [← List.append_assoc] at h
    have hdir := t.parent _ _ h
    by_cases hnil : rel = []
    · rw [hnil, List.append_nil] at hdir
      exact hdir
    · exact ih hnil (ne_none hdir)

/-- Nothing stands below a file. -/
theorem get_below_file (t : Tree ν β) {loc rel : List ν} {content : β}
    (hfile : t.get loc = some (.file content)) (hrel : rel ≠ []) : t.get (loc ++ rel) = none := by
  by_contra h
  have hdir := t.dir_of_below hrel h
  rw [hfile] at hdir
  nomatch hdir

/-- Every location in use is short enough. -/
theorem exists_depth (t : Tree ν β) : ∃ depth, ∀ loc, t.get loc ≠ none → loc.length < depth := by
  have hbound (keys : List (List ν)) : ∃ depth, ∀ key ∈ keys, key.length < depth := by
    induction keys with
    | nil => exact ⟨0, by simp⟩
    | cons key keys ih =>
      obtain ⟨depth, hdepth⟩ := ih
      refine ⟨max depth (key.length + 1), ?_⟩
      intro key' hmem
      rcases List.mem_cons.mp hmem with rfl | hmem
      · omega
      · have hlt := hdepth key' hmem
        omega
  obtain ⟨depth, hdepth⟩ := hbound t.keys
  exact ⟨depth, fun loc hloc => hdepth loc (t.mem_keys loc hloc)⟩

/-! ## Resolving a path -/

section Resolve

variable (t : Tree ν β)

/-- Why nothing is found in `parent`. -/
def absent (parent : List ν) : IoError :=
  match t.get parent with
  | some .dir => .NotFound
  | _ => .NotADirectory

/-- Where the name `n` of the directory `parent` leads, links followed. -/
def lands (parent : List ν) (n : ν) : Except IoError (List ν) :=
  match t.get (parent ++ [n]) with
  | none => .error (t.absent parent)
  | some (.link target) =>
    match t.get target with
    | none => .error .NotFound
    | some (.link _) => .error .Other
    | some _ => .ok target
  | some _ => .ok (parent ++ [n])

/-- From a location along the names of a path. -/
def walk (loc : List ν) : List ν → Except IoError (List ν)
  | [] => .ok loc
  | n :: path => t.lands loc n >>= fun next => walk next path

/-- `fs::canonicalize` of an absolute path. -/
def resolve (path : List ν) : Except IoError (List ν) := t.walk [] path

theorem walk_append (loc path rel : List ν) :
    t.walk loc (path ++ rel) = t.walk loc path >>= fun next => t.walk next rel := by
  induction path generalizing loc with
  | nil => rfl
  | cons n path ih =>
    rw [List.cons_append, walk, walk]
    cases t.lands loc n with
    | error e => rfl
    | ok next => exact ih next

theorem resolve_append {path loc : List ν} (h : t.resolve path = .ok loc) (rel : List ν) :
    t.resolve (path ++ rel) = t.walk loc rel := by
  unfold resolve at h ⊢
  rw [walk_append, h]
  rfl

theorem lands_of_plain {parent : List ν} {n : ν} {node : Node ν β}
    (h : t.get (parent ++ [n]) = some node) (hplain : node.Plain) :
    t.lands parent n = .ok (parent ++ [n]) := by
  unfold lands
  rw [h]
  cases node with
  | dir => rfl
  | file content => rfl
  | link target => exact absurd hplain (by simp [Node.Plain, Node.kind])
  | special content => rfl

/-- Along directories, a path leads where it says. -/
theorem walk_of_plain {loc rel : List ν} {node : Node ν β} (h : t.get (loc ++ rel) = some node)
    (hplain : node.Plain) : t.walk loc rel = .ok (loc ++ rel) := by
  induction rel generalizing loc with
  | nil => rw [walk, List.append_nil]
  | cons n rel ih =>
    have hassoc : loc ++ n :: rel = loc ++ [n] ++ rel := by simp
    rw [hassoc] at h
    have hfirst : t.lands loc n = .ok (loc ++ [n]) := by
      by_cases hrel : rel = []
      · subst hrel
        rw [List.append_nil] at h
        exact t.lands_of_plain h hplain
      · exact t.lands_of_plain (t.dir_of_below hrel (ne_none h)) Node.plain_dir
    rw [walk, hfirst, hassoc]
    exact ih h

/-- A name leads to what stands there, or to what a link there leads to. -/
theorem lands_eq_ok {parent loc : List ν} {n : ν} :
    t.lands parent n = .ok loc ↔
      (∃ node, t.get (parent ++ [n]) = some node ∧ node.kind ≠ .link ∧ loc = parent ++ [n])
        ∨ (t.get (parent ++ [n]) = some (.link loc)
          ∧ ∃ node, t.get loc = some node ∧ node.kind ≠ .link) := by
  unfold lands
  cases hget : t.get (parent ++ [n]) with
  | none => simp
  | some node =>
    cases node with
    | link target =>
      dsimp only
      constructor
      · intro h
        cases htarget : t.get target with
        | none => simp [htarget] at h
        | some node =>
          have hloc : node.kind ≠ .link ∧ target = loc := by
            cases node <;> simp_all [Node.kind]
          exact .inr ⟨by rw [hloc.2], node, by rw [← hloc.2]; exact htarget, hloc.1⟩
      · rintro (⟨node, hnode, hkind, -⟩ | ⟨hlink, node, hnode, hkind⟩)
        · exact absurd (Option.some.inj hnode ▸ rfl) hkind
        · have hloc : target = loc := by simpa using hlink
          rw [hloc, hnode]
          cases node <;> simp_all [Node.kind]
    | dir => simp [Node.kind, eq_comm]
    | file content => simp [Node.kind, eq_comm]
    | special content => simp [Node.kind, eq_comm]

end Resolve

/-! ## Looking -/

section Looking

variable (t : Tree ν β)

/-- `fs::symlink_metadata`: what stands at a path, its last link not followed. -/
def stat (path : List ν) : Except IoError (Node ν β) :=
  match path.getLast? with
  | none => .ok .dir
  | some n => t.resolve path.dropLast >>= fun parent =>
    match t.get (parent ++ [n]) with
    | none => .error (t.absent parent)
    | some node => .ok node

/-- What a path leads to stands there. -/
theorem get_of_walk {loc path next : List ν} (hloc : t.get loc ≠ none)
    (h : t.walk loc path = .ok next) : t.get next ≠ none := by
  induction path generalizing loc with
  | nil => exact Except.ok.inj h ▸ hloc
  | cons n path ih =>
    rw [walk] at h
    cases hlands : t.lands loc n with
    | error e =>
      rw [hlands] at h
      nomatch h
    | ok first =>
      rw [hlands] at h
      refine ih ?_ h
      rcases t.lands_eq_ok.mp hlands with ⟨node, hget, -, rfl⟩ | ⟨-, node, hget, -⟩
      · exact ne_none hget
      · exact ne_none hget

theorem get_of_resolve {path loc : List ν} (h : t.resolve path = .ok loc) : t.get loc ≠ none :=
  t.get_of_walk (ne_none t.root) h

theorem stat_append_singleton (path : List ν) (n : ν) :
    t.stat (path ++ [n]) = t.resolve path >>= fun parent =>
      match t.get (parent ++ [n]) with
      | none => .error (t.absent parent)
      | some node => .ok node := by
  unfold stat
  rw [List.getLast?_concat, List.dropLast_concat]

variable [DecidableEq ν]

/-- The names in a directory. They come in no particular order. -/
def children (loc : List ν) : Finset ν :=
  (t.keys.filterMap fun key =>
    if key.dropLast = loc ∧ (t.get key).isSome then key.getLast? else none).toFinset

@[simp] theorem mem_children {loc : List ν} {n : ν} :
    n ∈ t.children loc ↔ t.get (loc ++ [n]) ≠ none := by
  unfold children
  rw [List.mem_toFinset, List.mem_filterMap]
  constructor
  · rintro ⟨key, -, hkey⟩
    by_cases hif : key.dropLast = loc ∧ (t.get key).isSome
    · rw [if_pos hif] at hkey
      have hsplit : loc ++ [n] = key := by
        rw [← hif.1]
        exact List.dropLast_append_getLast? n hkey
      rw [hsplit, ← Option.isSome_iff_ne_none]
      exact hif.2
    · rw [if_neg hif] at hkey
      nomatch hkey
  · intro h
    refine ⟨loc ++ [n], t.mem_keys _ h, ?_⟩
    rw [if_pos ⟨List.dropLast_concat, Option.isSome_iff_ne_none.mpr h⟩, List.getLast?_concat]

/-- `fs::read_dir`. -/
def list (path : List ν) : Except IoError (Finset ν) :=
  t.resolve path >>= fun loc =>
    match t.get loc with
    | some .dir => .ok (t.children loc)
    | _ => .error .NotADirectory

omit [DecidableEq ν] in
theorem stat_of_some {path parent : List ν} {n : ν} {node : Node ν β}
    (hpath : t.resolve path = .ok parent) (hget : t.get (parent ++ [n]) = some node) :
    t.stat (path ++ [n]) = .ok node := by
  rw [stat_append_singleton, hpath, Checks.ok_bind, hget]

omit [DecidableEq ν] in
theorem stat_of_none {path parent : List ν} {n : ν} (hpath : t.resolve path = .ok parent)
    (hget : t.get (parent ++ [n]) = none) : t.stat (path ++ [n]) = .error (t.absent parent) := by
  rw [stat_append_singleton, hpath, Checks.ok_bind, hget]

omit [DecidableEq ν] in
/-- A path to a directory that is not reached by a last link leads to a directory. -/
theorem get_of_stat_dir {path loc : List ν} (hstat : t.stat path = .ok .dir)
    (hpath : t.resolve path = .ok loc) : t.get loc = some .dir := by
  obtain rfl | ⟨path, n, rfl⟩ := List.eq_nil_or_concat path
  · rw [← Except.ok.inj hpath]
    exact t.root
  · rw [List.concat_eq_append] at hstat hpath
    cases hparent : t.resolve path with
    | error e =>
      rw [stat_append_singleton, hparent] at hstat
      nomatch hstat
    | ok parent =>
      cases hget : t.get (parent ++ [n]) with
      | none =>
        rw [t.stat_of_none hparent hget] at hstat
        nomatch hstat
      | some node =>
        rw [t.stat_of_some hparent hget] at hstat
        rw [Except.ok.inj hstat] at hget
        rw [t.resolve_append hparent, t.walk_of_plain hget Node.plain_dir] at hpath
        rw [← Except.ok.inj hpath]
        exact hget

theorem list_eq_ok {path : List ν} {names : Finset ν} :
    t.list path = .ok names ↔ ∃ loc, t.resolve path = .ok loc ∧ t.get loc = some .dir
      ∧ t.children loc = names := by
  unfold list
  rw [Checks.bind_eq_ok]
  constructor
  · rintro ⟨loc, hloc, h⟩
    refine ⟨loc, hloc, ?_⟩
    split at h
    · rename_i hdir
      exact ⟨hdir, Except.ok.inj h⟩
    · nomatch h
  · rintro ⟨loc, hloc, hdir, rfl⟩
    refine ⟨loc, hloc, ?_⟩
    rw [hdir]

omit [DecidableEq ν] in
/-- `fs::File::open` and reading to the end. -/
def read (path : List ν) : Except IoError β :=
  t.resolve path >>= fun loc =>
    match t.get loc with
    | some (.file content) => .ok content
    | some (.special content) => .ok content
    | some .dir => .error .IsADirectory
    | _ => .error .Other

end Looking

/-! ## Making and filling -/

section Making

variable [DecidableEq ν]

/-- A new entry in a directory. -/
def insert (t : Tree ν β) (loc : List ν) (n : ν) (node : Node ν β) (hdir : t.get loc = some .dir)
    (hfree : t.get (loc ++ [n]) = none) : Tree ν β where
  get := Function.update t.get (loc ++ [n]) (some node)
  keys := (loc ++ [n]) :: t.keys
  mem_keys := by
    intro key hkey
    by_cases h : key = loc ++ [n]
    · exact h ▸ List.mem_cons_self
    · rw [Function.update_of_ne h] at hkey
      exact List.mem_cons_of_mem _ (t.mem_keys key hkey)
  root := by
    rw [Function.update_of_ne (by simp)]
    exact t.root
  parent := by
    intro key m hkey
    have hold : t.get key = some .dir := by
      by_cases h : key ++ [m] = loc ++ [n]
      · rw [(List.append_inj' h rfl).1]
        exact hdir
      · rw [Function.update_of_ne h] at hkey
        exact t.parent key m hkey
    rw [Function.update_of_ne]
    · exact hold
    · rintro rfl
      rw [hfree] at hold
      nomatch hold

/-- Another content in a file. -/
def put (t : Tree ν β) (loc : List ν) (content : β) (hfile : ∃ old, t.get loc = some (.file old)) :
    Tree ν β where
  get := Function.update t.get loc (some (.file content))
  keys := t.keys
  mem_keys := by
    intro key hkey
    by_cases h : key = loc
    · obtain ⟨old, hold⟩ := hfile
      exact t.mem_keys key (h ▸ ne_none hold)
    · rw [Function.update_of_ne h] at hkey
      exact t.mem_keys key hkey
  root := by
    rw [Function.update_of_ne]
    · exact t.root
    · rintro rfl
      obtain ⟨old, hold⟩ := hfile
      rw [t.root] at hold
      nomatch hold
  parent := by
    obtain ⟨old, hold⟩ := hfile
    intro key m hkey
    have hdir : t.get key = some .dir := by
      by_cases h : key ++ [m] = loc
      · exact t.parent key m (h ▸ ne_none hold)
      · rw [Function.update_of_ne h] at hkey
        exact t.parent key m hkey
    rw [Function.update_of_ne]
    · exact hdir
    · rintro rfl
      rw [hold] at hdir
      nomatch hdir

section Get

variable {t : Tree ν β} {loc : List ν} {n : ν} {node : Node ν β} {hdir : t.get loc = some .dir}
  {hfree : t.get (loc ++ [n]) = none}

@[simp] theorem get_insert_self :
    (t.insert loc n node hdir hfree).get (loc ++ [n]) = some node := Function.update_self _ _ _

theorem get_insert_of_ne {key : List ν} (h : key ≠ loc ++ [n]) :
    (t.insert loc n node hdir hfree).get key = t.get key := Function.update_of_ne h _ _

variable {content : β} {hfile : ∃ old, t.get loc = some (.file old)}

@[simp] theorem get_put_self : (t.put loc content hfile).get loc = some (.file content) :=
  Function.update_self _ _ _

theorem get_put_of_ne {key : List ν} (h : key ≠ loc) :
    (t.put loc content hfile).get key = t.get key := Function.update_of_ne h _ _

end Get

variable [DecidableEq β]

/-- A new entry at a path: `mkdir`, and `open` of a file that must not exist. -/
def create (t : Tree ν β) (path : List ν) (node : Node ν β) : Except IoError Unit × Tree ν β :=
  match path.getLast? with
  | none => (.error .AlreadyExists, t)
  | some n =>
    match t.resolve path.dropLast with
    | .error e => (.error e, t)
    | .ok parent =>
      if hdir : t.get parent = some .dir then
        if hfree : t.get (parent ++ [n]) = none then (.ok (), t.insert parent n node hdir hfree)
        else (.error .AlreadyExists, t)
      else (.error .NotADirectory, t)

omit [DecidableEq β] in
/-- Filling a file. -/
def fill (t : Tree ν β) (path : List ν) (content : β) : Except IoError Unit × Tree ν β :=
  match t.resolve path with
  | .error e => (.error e, t)
  | .ok loc =>
    match h : t.get loc with
    | some (.file old) => (.ok (), t.put loc content ⟨old, h⟩)
    | _ => (.error .Other, t)

end Making

end Tree

/-! ## Operations -/

/-- The operations of a program on paths. -/
inductive Op (ν β : Type) where
  | canonicalize (path : List ν)
  | symlink_metadata (path : List ν)
  | read_dir (path : List ν)
  | read (path : List ν)
  | create_dir (path : List ν)
  | create_new (path : List ν) (content : β)
  | write (path : List ν) (content : β)

namespace Op

/-- What an operation returns when it succeeds. -/
def Out : Op ν β → Type
  | .canonicalize _ => List ν
  | .symlink_metadata _ => Kind
  | .read_dir _ => Finset ν
  | .read _ => β
  | .create_dir _ => Unit
  | .create_new _ _ => Unit
  | .write _ _ => Unit

abbrev Ans (o : Op ν β) : Type := Except IoError o.Out

variable [DecidableEq ν] [DecidableEq β]

def perform : (o : Op ν β) → Tree ν β → o.Ans × Tree ν β
  | .canonicalize path, t => (t.resolve path, t)
  | .symlink_metadata path, t => ((t.stat path).map Node.kind, t)
  | .read_dir path, t => (t.list path, t)
  | .read path, t => (t.read path, t)
  | .create_dir path, t => t.create path .dir
  | .create_new path content, t => t.create path (.file content)
  | .write path content, t => t.fill path content

end Op

/-! ## What operations never undo -/

/-- Everything that stood still stands, but for the contents of files. -/
def Tree.Extends (t t' : Tree ν β) : Prop :=
  ∀ loc node, t.get loc = some node → t'.get loc = some node
    ∨ ∃ old new, node = .file old ∧ t'.get loc = some (.file new)

namespace Tree.Extends

variable {t t' t'' : Tree ν β}

theorem refl (t : Tree ν β) : t.Extends t := fun _ _ h => .inl h

theorem trans (h : t.Extends t') (h' : t'.Extends t'') : t.Extends t'' := by
  intro loc node hget
  rcases h loc node hget with hsame | ⟨old, new, rfl, hnew⟩
  · exact h' loc node hsame
  · rcases h' loc _ hnew with hsame | ⟨_, newer, -, hnewer⟩
    · exact .inr ⟨old, new, rfl, hsame⟩
    · exact .inr ⟨old, newer, rfl, hnewer⟩

theorem get_dir (h : t.Extends t') {loc : List ν} (hdir : t.get loc = some .dir) :
    t'.get loc = some .dir := by
  rcases h loc _ hdir with hsame | ⟨_, _, hfile, -⟩
  · exact hsame
  · nomatch hfile

theorem get_link (h : t.Extends t') {loc target : List ν}
    (hlink : t.get loc = some (.link target)) : t'.get loc = some (.link target) := by
  rcases h loc _ hlink with hsame | ⟨_, _, hfile, -⟩
  · exact hsame
  · nomatch hfile

/-- What stands keeps its kind. -/
theorem get_kind (h : t.Extends t') {loc : List ν} {node : Node ν β}
    (hget : t.get loc = some node) : ∃ node', t'.get loc = some node' ∧ node'.kind = node.kind := by
  rcases h loc node hget with hsame | ⟨_, new, rfl, hnew⟩
  · exact ⟨node, hsame, rfl⟩
  · exact ⟨_, hnew, rfl⟩

theorem lands (h : t.Extends t') {parent loc : List ν} {n : ν}
    (hlands : t.lands parent n = .ok loc) : t'.lands parent n = .ok loc := by
  rw [Tree.lands_eq_ok] at hlands ⊢
  rcases hlands with ⟨node, hget, hkind, rfl⟩ | ⟨hlink, node, hget, hkind⟩
  · obtain ⟨node', hget', hkind'⟩ := h.get_kind hget
    exact .inl ⟨node', hget', by rw [hkind']; exact hkind, rfl⟩
  · obtain ⟨node', hget', hkind'⟩ := h.get_kind hget
    exact .inr ⟨h.get_link hlink, node', hget', by rw [hkind']; exact hkind⟩

theorem walk (h : t.Extends t') {loc path next : List ν} (hwalk : t.walk loc path = .ok next) :
    t'.walk loc path = .ok next := by
  induction path generalizing loc with
  | nil => exact hwalk
  | cons n path ih =>
    rw [Tree.walk] at hwalk ⊢
    cases hlands : t.lands loc n with
    | error e =>
      rw [hlands] at hwalk
      nomatch hwalk
    | ok first =>
      rw [hlands] at hwalk
      rw [h.lands hlands]
      exact ih hwalk

/-- A path that leads somewhere leads there ever after. -/
theorem resolve (h : t.Extends t') {path loc : List ν} (hpath : t.resolve path = .ok loc) :
    t'.resolve path = .ok loc := h.walk hpath

end Tree.Extends

section Perform

variable [DecidableEq ν]

theorem Tree.extends_insert {t : Tree ν β} {loc : List ν} {n : ν} {node : Node ν β}
    (hdir : t.get loc = some .dir) (hfree : t.get (loc ++ [n]) = none) :
    t.Extends (t.insert loc n node hdir hfree) := by
  intro key old hget
  left
  have hne : key ≠ loc ++ [n] := by
    rintro rfl
    rw [hfree] at hget
    nomatch hget
  exact (Tree.get_insert_of_ne hne).trans hget

theorem Tree.extends_put {t : Tree ν β} {loc : List ν} {content : β}
    (hfile : ∃ old, t.get loc = some (.file old)) : t.Extends (t.put loc content hfile) := by
  intro key node hget
  by_cases hkey : key = loc
  · obtain ⟨old, hold⟩ := hfile
    subst hkey
    rw [hold] at hget
    exact .inr ⟨old, content, (Option.some.inj hget).symm, Tree.get_put_self⟩
  · exact .inl ((Tree.get_put_of_ne hkey).trans hget)

variable [DecidableEq β]

/-- A tree after a creation: the old one, or one with a new entry. -/
theorem Tree.create_cases (t : Tree ν β) (path : List ν) (node : Node ν β) :
    (t.create path node).2 = t
      ∨ ∃ loc n hdir hfree, (t.create path node).2 = t.insert loc n node hdir hfree := by
  unfold Tree.create
  split
  · exact .inl rfl
  · split
    · exact .inl rfl
    · split
      · rename_i hdir
        split
        · rename_i hfree
          exact .inr ⟨_, _, hdir, hfree, rfl⟩
        · exact .inl rfl
      · exact .inl rfl

omit [DecidableEq β] in
theorem Tree.fill_cases (t : Tree ν β) (path : List ν) (content : β) :
    (t.fill path content).2 = t
      ∨ ∃ loc hfile, (t.fill path content).2 = t.put loc content hfile := by
  unfold Tree.fill
  split
  · exact .inl rfl
  · split
    · rename_i old hfile
      exact .inr ⟨_, ⟨old, hfile⟩, rfl⟩
    · exact .inl rfl

/-- **No operation undoes anything.** -/
theorem Op.extends_perform (o : Op ν β) (t : Tree ν β) : t.Extends (o.perform t).2 := by
  have hcreate (path : List ν) (node : Node ν β) : t.Extends (t.create path node).2 := by
    rcases t.create_cases path node with hsame | ⟨loc, n, hdir, hfree, hinsert⟩
    · rw [hsame]
      exact .refl t
    · rw [hinsert]
      exact Tree.extends_insert hdir hfree
  cases o with
  | canonicalize path => exact .refl t
  | symlink_metadata path => exact .refl t
  | read_dir path => exact .refl t
  | read path => exact .refl t
  | create_dir path => exact hcreate path .dir
  | create_new path content => exact hcreate path (.file content)
  | write path content =>
    change t.Extends (t.fill path content).2
    rcases t.fill_cases path content with hsame | ⟨loc, hfile, hput⟩
    · rw [hsame]
      exact .refl t
    · rw [hput]
      exact Tree.extends_put hfile

/-- Nothing but directories and files below a location, which is no link itself. -/
def Tree.PlainBelow (t : Tree ν β) (loc : List ν) : Prop :=
  ∀ rel node, t.get (loc ++ rel) = some node → node.Plain

/-- Operations make directories and files only. -/
theorem Op.plainBelow_perform (o : Op ν β) {t : Tree ν β} {loc : List ν} (h : t.PlainBelow loc) :
    (o.perform t).2.PlainBelow loc := by
  have hupdate {key : List ν} {new : Node ν β} (hnew : new.Plain)
      {get' : List ν → Option (Node ν β)} (hget' : get' = Function.update t.get key (some new)) (rel : List ν) (node : Node ν β)
      (hnode : get' (loc ++ rel) = some node) : node.Plain := by
    rw [hget'] at hnode
    by_cases hkey : loc ++ rel = key
    · rw [hkey, Function.update_self] at hnode
      exact Option.some.inj hnode ▸ hnew
    · rw [Function.update_of_ne hkey] at hnode
      exact h rel node hnode
  have hcreate (path : List ν) {new : Node ν β} (hnew : new.Plain) :
      (t.create path new).2.PlainBelow loc := by
    rcases t.create_cases path new with hsame | ⟨at', n, hdir, hfree, hinsert⟩
    · rw [hsame]
      exact h
    · rw [hinsert]
      exact hupdate hnew rfl
  cases o with
  | canonicalize path => exact h
  | symlink_metadata path => exact h
  | read_dir path => exact h
  | read path => exact h
  | create_dir path => exact hcreate path Node.plain_dir
  | create_new path content => exact hcreate path (Node.plain_file content)
  | write path content =>
    change (t.fill path content).2.PlainBelow loc
    rcases t.fill_cases path content with hsame | ⟨at', hfile, hput⟩
    · rw [hsame]
      exact h
    · rw [hput]
      exact hupdate (Node.plain_file content) rfl

/-- A creation in a directory that has no such name. -/
theorem Tree.create_eq {t : Tree ν β} {path parent : List ν} {n : ν} {node : Node ν β}
    (hpath : t.resolve path = .ok parent) (hdir : t.get parent = some .dir)
    (hfree : t.get (parent ++ [n]) = none) :
    t.create (path ++ [n]) node = (.ok (), t.insert parent n node hdir hfree) := by
  unfold Tree.create
  rw [List.getLast?_concat]
  dsimp only
  rw [List.dropLast_concat, hpath]
  dsimp only
  rw [dif_pos hdir, dif_pos hfree]

omit [DecidableEq β] in
theorem Tree.fill_eq {t : Tree ν β} {path loc : List ν} {old content : β}
    (hpath : t.resolve path = .ok loc) (hfile : t.get loc = some (.file old)) :
    t.fill path content = (.ok (), t.put loc content ⟨old, hfile⟩) := by
  unfold Tree.fill
  rw [hpath]
  dsimp only
  split
  · rfl
  · rename_i hno
    exact absurd hfile (hno old)

end Perform

/-! ## Looking below a directory without links -/

section Agrees

/-- The same stands below a location, which the path leads to in both trees. -/
structure Tree.Agrees (path loc : List ν) (t t' : Tree ν β) : Prop where
  before : t.resolve path = .ok loc
  after : t'.resolve path = .ok loc
  get : ∀ rel, t'.get (loc ++ rel) = t.get (loc ++ rel)

/-- An operation that only looks, at the path or below. -/
def Op.Looks (path : List ν) : Op ν β → Prop
  | .symlink_metadata p => ∃ rel n, p = path ++ rel ++ [n]
  | .read_dir p => ∃ rel, p = path ++ rel
  | .read p => ∃ rel, p = path ++ rel
  | _ => False

variable {t t' : Tree ν β} {path loc : List ν}

/-- Below a location without links a walk stays below, and depends on nothing else. -/
theorem Tree.Agrees.walk (h : Tree.Agrees path loc t t') (hplain : t.PlainBelow loc)
    (rel rest : List ν) : t'.walk (loc ++ rel) rest = t.walk (loc ++ rel) rest
      ∧ ∀ next, t.walk (loc ++ rel) rest = .ok next → ∃ rel', next = loc ++ rel' := by
  induction rest generalizing rel with
  | nil => exact ⟨rfl, fun next hnext => ⟨rel, (Except.ok.inj hnext).symm⟩⟩
  | cons n rest ih =>
    have hget : t'.get (loc ++ rel ++ [n]) = t.get (loc ++ rel ++ [n]) := by
      rw [List.append_assoc]
      exact h.get _
    cases hnode : t.get (loc ++ rel ++ [n]) with
    | none =>
      have habsent : t'.absent (loc ++ rel) = t.absent (loc ++ rel) := by
        unfold Tree.absent
        rw [h.get]
      have hlands : t.lands (loc ++ rel) n = .error (t.absent (loc ++ rel)) := by
        unfold Tree.lands
        rw [hnode]
      have hlands' : t'.lands (loc ++ rel) n = .error (t.absent (loc ++ rel)) := by
        unfold Tree.lands
        rw [hget, hnode, habsent]
      rw [Tree.walk, Tree.walk, hlands, hlands']
      exact ⟨rfl, nofun⟩
    | some node =>
      have hnode_plain : node.Plain :=
        hplain (rel ++ [n]) node (by rw [← List.append_assoc]; exact hnode)
      rw [Tree.walk, Tree.walk, t.lands_of_plain hnode hnode_plain,
        t'.lands_of_plain (hget.trans hnode) hnode_plain, List.append_assoc]
      exact ih (rel ++ [n])

theorem Tree.Agrees.resolve (h : Tree.Agrees path loc t t') (hplain : t.PlainBelow loc)
    (rel : List ν) : t'.resolve (path ++ rel) = t.resolve (path ++ rel)
      ∧ ∀ next, t.resolve (path ++ rel) = .ok next → ∃ rel', next = loc ++ rel' := by
  have hwalk := h.walk hplain [] rel
  rw [List.append_nil] at hwalk
  rw [t.resolve_append h.before, t'.resolve_append h.after]
  exact hwalk

variable [DecidableEq ν] [DecidableEq β]

/-- **What is below decides what is seen there.** -/
theorem Tree.Agrees.perform (h : Tree.Agrees path loc t t') (hplain : t.PlainBelow loc)
    {o : Op ν β} (ho : o.Looks path) :
    (o.perform t').1 = (o.perform t).1 ∧ (o.perform t').2 = t' := by
  have hbelow {rel next : List ν} (hnext : t.resolve (path ++ rel) = .ok next) (extra : List ν) :
      t'.get (next ++ extra) = t.get (next ++ extra) := by
    obtain ⟨rel', rfl⟩ := (h.resolve hplain rel).2 next hnext
    rw [List.append_assoc]
    exact h.get _
  cases o with
  | symlink_metadata p =>
    obtain ⟨rel, n, rfl⟩ := ho
    refine ⟨?_, rfl⟩
    change (t'.stat (path ++ rel ++ [n])).map Node.kind
      = (t.stat (path ++ rel ++ [n])).map Node.kind
    rw [t.stat_append_singleton, t'.stat_append_singleton, (h.resolve hplain rel).1]
    cases hnext : t.resolve (path ++ rel) with
    | error e => rfl
    | ok next =>
      have hparent := hbelow hnext []
      rw [List.append_nil] at hparent
      have habsent : t'.absent next = t.absent next := by
        unfold Tree.absent
        rw [hparent]
      rw [Checks.ok_bind, Checks.ok_bind, hbelow hnext [n], habsent]
  | read_dir p =>
    obtain ⟨rel, rfl⟩ := ho
    refine ⟨?_, rfl⟩
    change t'.list (path ++ rel) = t.list (path ++ rel)
    unfold Tree.list
    rw [(h.resolve hplain rel).1]
    cases hnext : t.resolve (path ++ rel) with
    | error e => rfl
    | ok next =>
      have hnode := hbelow hnext []
      rw [List.append_nil] at hnode
      have hchildren : t'.children next = t.children next := by
        ext n
        rw [t.mem_children, t'.mem_children, hbelow hnext [n]]
      rw [Checks.ok_bind, Checks.ok_bind, hnode, hchildren]
  | read p =>
    obtain ⟨rel, rfl⟩ := ho
    refine ⟨?_, rfl⟩
    change t'.read (path ++ rel) = t.read (path ++ rel)
    unfold Tree.read
    rw [(h.resolve hplain rel).1]
    cases hnext : t.resolve (path ++ rel) with
    | error e => rfl
    | ok next =>
      have hnode := hbelow hnext []
      rw [List.append_nil] at hnode
      rw [Checks.ok_bind, Checks.ok_bind, hnode]
  | canonicalize p => exact ho.elim
  | create_dir p => exact ho.elim
  | create_new p content => exact ho.elim
  | write p content => exact ho.elim

end Agrees

/-! ## Paths that stay clear of a subtree -/

section Clear

/-- The way along a path passes through nothing that stands in the subtree at `zone`. -/
def Tree.Clear (t : Tree ν β) (zone loc : List ν) : List ν → Prop
  | [] => True
  | n :: path => ¬ zone <+: loc ++ [n] ∧
      ∃ next, t.lands loc n = .ok next ∧ ¬ zone <+: next ∧ t.Clear zone next path

/-- Nothing changes outside the subtree at `zone`. -/
def Tree.ChangesOnly (zone : List ν) (t t' : Tree ν β) : Prop :=
  ∀ loc, ¬ zone <+: loc → t'.get loc = t.get loc

theorem Tree.ChangesOnly.refl (zone : List ν) (t : Tree ν β) : Tree.ChangesOnly zone t t :=
  fun _ _ => rfl

variable {t t' : Tree ν β} {zone : List ν}

theorem Tree.Clear.exists_walk {loc path : List ν} (h : t.Clear zone loc path) :
    ∃ next, t.walk loc path = .ok next := by
  induction path generalizing loc with
  | nil => exact ⟨loc, rfl⟩
  | cons n path ih =>
    obtain ⟨-, next, hlands, -, hrest⟩ := h
    rw [Tree.walk, hlands]
    exact ih hrest

/-- Where a name leads, seen outside a subtree, does not depend on what is in it. -/
theorem Tree.ChangesOnly.lands (h : Tree.ChangesOnly zone t t') {loc next : List ν} {n : ν}
    (hentry : ¬ zone <+: loc ++ [n]) (hnext : ¬ zone <+: next) (hlands : t.lands loc n = .ok next) :
    t'.lands loc n = .ok next := by
  rw [Tree.lands_eq_ok] at hlands ⊢
  rw [h _ hentry, h _ hnext]
  exact hlands

/-- **A clear path is not redirected** by changes in the subtree. -/
theorem Tree.Clear.changes (h : Tree.ChangesOnly zone t t') {loc path : List ν}
    (hclear : t.Clear zone loc path) :
    t'.Clear zone loc path ∧ t'.walk loc path = t.walk loc path := by
  induction path generalizing loc with
  | nil => exact ⟨trivial, rfl⟩
  | cons n path ih =>
    obtain ⟨hentry, next, hlands, hnext, hrest⟩ := hclear
    have hlands' := h.lands hentry hnext hlands
    obtain ⟨hclear', hwalk⟩ := ih hrest
    refine ⟨⟨hentry, next, hlands', hnext, hclear'⟩, ?_⟩
    rw [Tree.walk, Tree.walk, hlands, hlands']
    exact hwalk

theorem Tree.Clear.extends (h : t.Extends t') {loc path : List ν} (hclear : t.Clear zone loc path) :
    t'.Clear zone loc path := by
  induction path generalizing loc with
  | nil => trivial
  | cons n path ih =>
    obtain ⟨hentry, next, hlands, hnext, hrest⟩ := hclear
    exact ⟨hentry, next, h.lands hlands, hnext, ih hrest⟩

end Clear

end OvcaCore.FileTrees

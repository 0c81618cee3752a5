/-
The versioned state store (`ovca-storage/src/versioned_state.rs`).

A row is a payload with a revision. `initialize` creates a row at revision
zero, `compare_and_swap` replaces it when the caller names the revision it has,
and each of the two is one transaction. SQLite itself is not modelled: a row is
found or not, and a revision past the range of an `i64` is the error it is in
the source.

Beside the store stands a journal, which the code does not have: the commits in
the order in which they were made, each with the caller that made it. It is
what statements about all callers speak of.
-/
import OvcaCore.Types
import OvcaCore.Lib.OrderedMaps
import OvcaCore.Lib.Interleaving
import Mathlib.Data.List.Basic

set_option autoImplicit false

namespace OvcaCore

open OvcaCore.OrderedMaps OvcaCore.Interleaving

def I64_MAX : ℕ := 2 ^ 63 - 1

structure VersionedState (P : Type) where
  payload : P
  revision : ℕ
  deriving DecidableEq, Repr

inductive InitializeOutcome (P : Type) where
  | Initialized (state : VersionedState P)
  | Existing (state : VersionedState P)
  deriving DecidableEq, Repr

inductive CompareAndSwapOutcome (P : Type) where
  | Applied (state : VersionedState P)
  | Conflict (state : VersionedState P)
  deriving DecidableEq, Repr

inductive VersionedStateError where
  | RevisionOutOfRange (revision : ℕ)
  | RevisionOverflow (revision : ℕ)
  | EntityNotFound (entity_key : String)
  deriving DecidableEq, Repr

/-- The table: a row for each entity key. -/
abbrev VersionedStateStore (P : Type) := BTreeMap String (VersionedState P)

namespace VersionedStateStore

variable {P : Type}

/-- `initialize` of the source. -/
def initialize_entity (store : VersionedStateStore P) (entity_key : String) (payload : P) :
    InitializeOutcome P × VersionedStateStore P :=
  match store[entity_key]? with
  | none => (.Initialized ⟨payload, 0⟩, store.insert entity_key ⟨payload, 0⟩)
  | some state => (.Existing state, store)

def load (store : VersionedStateStore P) (entity_key : String) : Option (VersionedState P) :=
  store[entity_key]?

def sqlite_revision (revision : ℕ) : Except VersionedStateError ℕ :=
  if revision ≤ I64_MAX then .ok revision else .error (.RevisionOutOfRange revision)

def checked_revision (revision : ℕ) : Except VersionedStateError ℕ :=
  if revision + 1 ≤ U64_MAX then .ok (revision + 1) else .error (.RevisionOverflow revision)

/-- The transaction of a compare-and-swap, once its expected revision is known
to be in range. -/
def swap_revision (store : VersionedStateStore P) (entity_key : String) (expected_revision : ℕ)
    (payload : P) :
    Except VersionedStateError (CompareAndSwapOutcome P × VersionedStateStore P) :=
  match store[entity_key]? with
  | none => .error (.EntityNotFound entity_key)
  | some current =>
    if current.revision ≠ expected_revision then
      .ok (.Conflict current, store)
    else do
      let next_revision ← checked_revision current.revision
      let _ ← sqlite_revision next_revision
      .ok (.Applied ⟨payload, next_revision⟩, store.insert entity_key ⟨payload, next_revision⟩)

def compare_and_swap (store : VersionedStateStore P) (entity_key : String)
    (expected_revision : ℕ) (payload : P) :
    Except VersionedStateError (CompareAndSwapOutcome P) × VersionedStateStore P :=
  match sqlite_revision expected_revision with
  | .error e => (.error e, store)
  | .ok expected_revision =>
    match swap_revision store entity_key expected_revision payload with
    | .error e => (.error e, store)
    | .ok (outcome, next) => (.ok outcome, next)

theorem initialize_entity_of_none {store : VersionedStateStore P} {entity_key : String}
    (hget : store[entity_key]? = none) (payload : P) :
    store.initialize_entity entity_key payload =
      (.Initialized ⟨payload, 0⟩, store.insert entity_key ⟨payload, 0⟩) := by
  simp only [initialize_entity, hget]

theorem initialize_entity_of_some {store : VersionedStateStore P} {entity_key : String}
    {state : VersionedState P} (hget : store[entity_key]? = some state) (payload : P) :
    store.initialize_entity entity_key payload = (.Existing state, store) := by
  simp only [initialize_entity, hget]

/-- A row found at the expected revision is replaced, if there is a revision
left for it. -/
theorem compare_and_swap_applied {store : VersionedStateStore P} {entity_key : String}
    {current : VersionedState P} (payload : P) (hget : store[entity_key]? = some current)
    (hrange : current.revision + 1 ≤ I64_MAX) :
    compare_and_swap store entity_key current.revision payload =
      (.ok (.Applied ⟨payload, current.revision + 1⟩),
        store.insert entity_key ⟨payload, current.revision + 1⟩) := by
  have h64 : current.revision + 1 ≤ U64_MAX := by
    unfold U64_MAX I64_MAX at *
    omega
  have hle : current.revision ≤ I64_MAX := by omega
  have hrev : sqlite_revision current.revision = .ok current.revision := if_pos hle
  have hnext : sqlite_revision (current.revision + 1) = .ok (current.revision + 1) :=
    if_pos hrange
  have hchecked : checked_revision current.revision = .ok (current.revision + 1) := if_pos h64
  have hswap : swap_revision store entity_key current.revision payload =
      .ok (.Applied ⟨payload, current.revision + 1⟩,
        store.insert entity_key ⟨payload, current.revision + 1⟩) := by
    simp only [swap_revision, hget, ne_eq, not_true_eq_false, if_false, hchecked, bind,
      Except.bind, hnext]
  simp only [compare_and_swap, hrev, hswap]

/-- What a compare-and-swap can do: nothing, or replace a row that is at the
expected revision by the next one. -/
theorem compare_and_swap_cases (store : VersionedStateStore P) (entity_key : String)
    (expected_revision : ℕ) (payload : P) :
    (∃ e, compare_and_swap store entity_key expected_revision payload = (.error e, store)) ∨
    (∃ current, store[entity_key]? = some current ∧
      compare_and_swap store entity_key expected_revision payload =
        (.ok (.Conflict current), store)) ∨
    (∃ current, store[entity_key]? = some current ∧ current.revision = expected_revision ∧
      expected_revision + 1 ≤ I64_MAX ∧
      compare_and_swap store entity_key expected_revision payload =
        (.ok (.Applied ⟨payload, expected_revision + 1⟩),
          store.insert entity_key ⟨payload, expected_revision + 1⟩)) := by
  unfold compare_and_swap
  cases hrev : sqlite_revision expected_revision with
  | error e => exact Or.inl ⟨e, rfl⟩
  | ok expected =>
    have hexp : expected = expected_revision := by
      unfold sqlite_revision at hrev
      split at hrev
      · exact (Except.ok.inj hrev).symm
      · cases hrev
    subst hexp
    dsimp only
    cases hget : store[entity_key]? with
    | none =>
      refine Or.inl ⟨.EntityNotFound entity_key, ?_⟩
      simp only [swap_revision, hget]
    | some current =>
      by_cases hne : current.revision = expected
      · subst hne
        simp only [swap_revision, hget, ne_eq, not_true_eq_false, if_false]
        cases hchecked : checked_revision current.revision with
        | error e => exact Or.inl ⟨e, rfl⟩
        | ok next =>
          have hnext : next = current.revision + 1 := by
            unfold checked_revision at hchecked
            split at hchecked
            · exact (Except.ok.inj hchecked).symm
            · cases hchecked
          subst hnext
          cases hsql : sqlite_revision (current.revision + 1) with
          | error e => exact Or.inl ⟨e, by simp only [bind, Except.bind, hsql]⟩
          | ok n =>
            have hrange : current.revision + 1 ≤ I64_MAX := by
              unfold sqlite_revision at hsql
              split at hsql
              · assumption
              · cases hsql
            refine Or.inr (Or.inr ⟨current, rfl, rfl, hrange, ?_⟩)
            simp only [bind, Except.bind, hsql]
      · refine Or.inr (Or.inl ⟨current, rfl, ?_⟩)
        simp only [swap_revision, hget, ne_eq, hne, not_false_eq_true, if_true]

end VersionedStateStore

/-! ## Payloads -/

/-- A failure of the serialization library, by its message. -/
abbrev SerdeError := String

/-- The serialization of a type into payloads. -/
structure SerdeJson (α P : Type) where
  to_vec : α → Except SerdeError P
  from_slice : P → Except SerdeError α

/-- What is read back is what was written. -/
def SerdeJson.RoundTrips {α P : Type} (serde : SerdeJson α P) : Prop :=
  ∀ a p, serde.to_vec a = .ok p → serde.from_slice p = .ok a

/-- Every value can be written. -/
def SerdeJson.Total {α P : Type} (serde : SerdeJson α P) : Prop :=
  ∀ a, ∃ p, serde.to_vec a = .ok p

/-! ## The store as a set of atomic operations -/

inductive StoreOp (P : Type) where
  | initialize_entity (entity_key : String) (payload : P)
  | load (entity_key : String)
  | compare_and_swap (entity_key : String) (expected_revision : ℕ) (payload : P)

/-- What an operation is answered by. -/
def StoreOp.Answer {P : Type} : StoreOp P → Type
  | .initialize_entity _ _ => InitializeOutcome P
  | .load _ => Option (VersionedState P)
  | .compare_and_swap _ _ _ => Except VersionedStateError (CompareAndSwapOutcome P)

/-- The row an operation is about. -/
def StoreOp.entity_key {P : Type} : StoreOp P → String
  | .initialize_entity entity_key _ => entity_key
  | .load entity_key => entity_key
  | .compare_and_swap entity_key _ _ => entity_key

def StoreOp.perform {P : Type} : (o : StoreOp P) → VersionedStateStore P →
    o.Answer × VersionedStateStore P
  | .initialize_entity entity_key payload, store => store.initialize_entity entity_key payload
  | .load entity_key, store => (store.load entity_key, store)
  | .compare_and_swap entity_key expected_revision payload, store =>
    store.compare_and_swap entity_key expected_revision payload

/-- A program of the code that uses the store. -/
abbrev StoreProg (P ε α : Type) := Prog (StoreOp P) StoreOp.Answer ε α

/-! ## The journal -/

/-- A commit: who wrote which row, and what it then held. -/
structure Commit (ι P : Type) where
  caller : ι
  entity_key : String
  state : VersionedState P

/-- The store with the commits made so far, oldest first. -/
structure Journal (ι P : Type) where
  store : VersionedStateStore P
  commits : List (Commit ι P)

namespace StoreOp

variable {ι P : Type}

/-- The row an operation wrote, going by its answer. -/
def written : (o : StoreOp P) → o.Answer → List (String × VersionedState P)
  | .initialize_entity entity_key _, .Initialized state => [(entity_key, state)]
  | .initialize_entity _ _, .Existing _ => []
  | .load _, _ => []
  | .compare_and_swap entity_key _ _, .ok (.Applied state) => [(entity_key, state)]
  | .compare_and_swap _ _ _, .ok (.Conflict _) => []
  | .compare_and_swap _ _ _, .error _ => []

/-- An operation performed by a caller, with its commit entered in the
journal. -/
def journaled (i : ι) (o : StoreOp P) (w : Journal ι P) : o.Answer × Journal ι P :=
  ((o.perform w.store).1,
    { store := (o.perform w.store).2
      commits := w.commits ++
        (o.written (o.perform w.store).1).map fun p => ⟨i, p.1, p.2⟩ })

end StoreOp

namespace Journal

variable {ι P : Type}

/-- The commits to one row, oldest first. -/
def history (w : Journal ι P) (entity_key : String) : List (Commit ι P) :=
  w.commits.filter fun c => c.entity_key = entity_key

/-- The row is what its last commit left, and the commits to it count its
revisions. -/
structure Consistent (w : Journal ι P) (entity_key : String) : Prop where
  row : w.store[entity_key]? = (w.history entity_key).getLast?.map Commit.state
  revisions : ∀ (r : ℕ) c, (w.history entity_key)[r]? = some c → c.state.revision = r

/-- The state a row was in at a revision. -/
def At (w : Journal ι P) (entity_key : String) (state : VersionedState P) : Prop :=
  ∃ c, (w.history entity_key)[state.revision]? = some c ∧ c.state = state

/-- What a caller can count on while others act: commits are only added, and
none of them is its own. -/
def Others (i : ι) (w w' : Journal ι P) : Prop :=
  ∃ l, w'.commits = w.commits ++ l ∧ ∀ c ∈ l, c.caller ≠ i

/-- The caller has committed nothing. -/
def Fresh (w : Journal ι P) (i : ι) : Prop := ∀ c ∈ w.commits, c.caller ≠ i

/-- The journal after one more commit. -/
def commit (w : Journal ι P) (c : Commit ι P) : Journal ι P where
  store := w.store.insert c.entity_key c.state
  commits := w.commits ++ [c]

theorem Others.refl (i : ι) (w : Journal ι P) : Others i w w :=
  ⟨[], (List.append_nil _).symm, fun _ h => absurd h List.not_mem_nil⟩

theorem Others.trans {i : ι} {w w' w'' : Journal ι P} (h : Others i w w')
    (h' : Others i w' w'') : Others i w w'' := by
  obtain ⟨l, hl, hne⟩ := h
  obtain ⟨l', hl', hne'⟩ := h'
  refine ⟨l ++ l', by rw [hl', hl, List.append_assoc], fun c hc => ?_⟩
  rcases List.mem_append.mp hc with hc | hc
  · exact hne c hc
  · exact hne' c hc

theorem others_commit {i : ι} (w : Journal ι P) {c : Commit ι P} (hc : c.caller ≠ i) :
    Others i w (w.commit c) := by
  refine ⟨[c], rfl, fun c' hc' => ?_⟩
  rw [List.mem_singleton.mp hc']
  exact hc

/-- What the others do leaves a fresh caller fresh. -/
theorem Fresh.others {i : ι} {w w' : Journal ι P} (h : w.Fresh i) (hw : Others i w w') :
    w'.Fresh i := by
  obtain ⟨l, hl, hne⟩ := hw
  intro c hc
  rw [hl] at hc
  rcases List.mem_append.mp hc with hc | hc
  · exact h c hc
  · exact hne c hc

theorem history_append (w w' : Journal ι P) {l : List (Commit ι P)}
    (h : w'.commits = w.commits ++ l) (entity_key : String) :
    w'.history entity_key =
      w.history entity_key ++ l.filter fun c => c.entity_key = entity_key := by
  rw [history, h, List.filter_append]
  rfl

/-- The past of a row does not change. -/
theorem history_get_mono {w w' : Journal ι P} {l : List (Commit ι P)}
    (h : w'.commits = w.commits ++ l) {entity_key : String} {r : ℕ} {c : Commit ι P}
    (hc : (w.history entity_key)[r]? = some c) : (w'.history entity_key)[r]? = some c := by
  rw [history_append w w' h]
  exact List.getElem?_append_left (List.getElem?_eq_some_iff.mp hc).1 ▸ hc

theorem At.others {i : ι} {w w' : Journal ι P} {entity_key : String} {state : VersionedState P}
    (h : w.At entity_key state) (hw : Others i w w') : w'.At entity_key state := by
  obtain ⟨l, hl, _⟩ := hw
  obtain ⟨c, hc, hstate⟩ := h
  exact ⟨c, history_get_mono hl hc, hstate⟩

/-- The states of a row are determined by their revisions. -/
theorem At.payload_unique {w : Journal ι P} {entity_key : String} {s s' : VersionedState P}
    (h : w.At entity_key s) (h' : w.At entity_key s') (hrev : s.revision = s'.revision) :
    s = s' := by
  obtain ⟨c, hc, rfl⟩ := h
  obtain ⟨c', hc', rfl⟩ := h'
  rw [hrev, hc', Option.some_inj] at hc
  rw [hc]

theorem history_commit_self (w : Journal ι P) (c : Commit ι P) :
    (w.commit c).history c.entity_key = w.history c.entity_key ++ [c] := by
  rw [history_append w (w.commit c) rfl]
  simp

theorem history_commit_of_ne (w : Journal ι P) {c : Commit ι P} {entity_key : String}
    (h : c.entity_key ≠ entity_key) :
    (w.commit c).history entity_key = w.history entity_key := by
  rw [history_append w (w.commit c) rfl]
  simp [h]

/-- A row that exists has a last commit, and it is what that left. -/
theorem Consistent.row_eq_some {w : Journal ι P} {entity_key : String}
    (h : w.Consistent entity_key) {state : VersionedState P}
    (hget : w.store[entity_key]? = some state) :
    (w.history entity_key).length = state.revision + 1 ∧ w.At entity_key state := by
  rw [h.row, Option.map_eq_some_iff] at hget
  obtain ⟨c, hlast, rfl⟩ := hget
  rw [List.getLast?_eq_getElem?] at hlast
  have hpos : 0 < (w.history entity_key).length := by
    have := (List.getElem?_eq_some_iff.mp hlast).1
    omega
  have hrev : c.state.revision = (w.history entity_key).length - 1 := h.revisions _ c hlast
  refine ⟨by omega, c, ?_, rfl⟩
  rw [hrev]
  exact hlast

/-- A row that does not exist has no history. -/
theorem Consistent.row_eq_none {w : Journal ι P} {entity_key : String}
    (h : w.Consistent entity_key) (hget : w.store[entity_key]? = none) :
    w.history entity_key = [] := by
  rw [h.row, Option.map_eq_none_iff] at hget
  exact List.getLast?_eq_none_iff.mp hget

/-- A commit at the next revision keeps a row consistent. -/
theorem Consistent.commit {w : Journal ι P} {entity_key : String} (h : w.Consistent entity_key)
    {c : Commit ι P} (hrev : c.entity_key = entity_key →
      c.state.revision = (w.history entity_key).length) :
    (w.commit c).Consistent entity_key := by
  by_cases hkey : c.entity_key = entity_key
  · subst hkey
    refine ⟨?_, fun r d hd => ?_⟩
    · rw [history_commit_self, List.getLast?_concat]
      exact Std.ExtTreeMap.getElem?_insert_self
    · rw [history_commit_self, List.getElem?_append] at hd
      split at hd
      · exact h.revisions r d hd
      · have hr := List.getElem?_eq_some_iff.mp hd
        obtain ⟨hlt, hd⟩ := hr
        simp only [List.length_singleton] at hlt
        simp only [List.getElem_singleton] at hd
        subst hd
        rw [hrev rfl]
        omega
  · refine ⟨?_, fun r d hd => ?_⟩
    · rw [history_commit_of_ne w hkey]
      show (w.store.insert c.entity_key c.state)[entity_key]? = _
      rw [get_insert_of_ne _ _ hkey, h.row]
    · rw [history_commit_of_ne w hkey] at hd
      exact h.revisions r d hd

end Journal

/-! ## What the operations do to the journal -/

namespace StoreOp

variable {ι P : Type} {w : Journal ι P} {entity_key : String}

theorem journaled_of_unwritten {i : ι} {o : StoreOp P} {a : o.Answer}
    (h : o.perform w.store = (a, w.store)) (hw : o.written a = []) :
    o.journaled i w = (a, w) := by
  unfold journaled
  rw [h, hw, List.map_nil, List.append_nil]

theorem journaled_load (i : ι) (w : Journal ι P) (entity_key : String) :
    (StoreOp.load entity_key).journaled i w = (w.store[entity_key]?, w) :=
  journaled_of_unwritten rfl rfl

/-- An initialization finds the row, or makes its first commit. -/
theorem journaled_initialize (i : ι) (hw : w.Consistent entity_key) (payload : P) :
    (∃ state, w.At entity_key state ∧
      (StoreOp.initialize_entity entity_key payload).journaled i w = (.Existing state, w)) ∨
    (w.history entity_key = [] ∧
      (StoreOp.initialize_entity entity_key payload).journaled i w =
        (.Initialized ⟨payload, 0⟩, w.commit ⟨i, entity_key, ⟨payload, 0⟩⟩)) := by
  cases hget : w.store[entity_key]? with
  | none =>
    refine Or.inr ⟨hw.row_eq_none hget, ?_⟩
    have hperform : (StoreOp.initialize_entity entity_key payload).perform w.store =
        (.Initialized ⟨payload, 0⟩, w.store.insert entity_key ⟨payload, 0⟩) :=
      VersionedStateStore.initialize_entity_of_none hget payload
    simp only [journaled, hperform]
    rfl
  | some state =>
    have hperform : (StoreOp.initialize_entity entity_key payload).perform w.store =
        (.Existing state, w.store) :=
      VersionedStateStore.initialize_entity_of_some hget payload
    exact Or.inl ⟨state, (hw.row_eq_some hget).2, journaled_of_unwritten hperform rfl⟩

/-- A compare-and-swap fails, finds the row at another revision, or makes the
commit after the one it named. -/
theorem journaled_compare_and_swap (i : ι) (hw : w.Consistent entity_key)
    (expected_revision : ℕ) (payload : P) :
    (∃ e, (StoreOp.compare_and_swap entity_key expected_revision payload).journaled i w =
      (.error e, w)) ∨
    (∃ current, w.At entity_key current ∧
      (StoreOp.compare_and_swap entity_key expected_revision payload).journaled i w =
        (.ok (.Conflict current), w)) ∨
    ((w.history entity_key).length = expected_revision + 1 ∧ expected_revision + 1 ≤ I64_MAX ∧
      (StoreOp.compare_and_swap entity_key expected_revision payload).journaled i w =
        (.ok (.Applied ⟨payload, expected_revision + 1⟩),
          w.commit ⟨i, entity_key, ⟨payload, expected_revision + 1⟩⟩)) := by
  rcases VersionedStateStore.compare_and_swap_cases w.store entity_key expected_revision payload
    with ⟨e, h⟩ | ⟨current, hget, h⟩ | ⟨current, hget, hrev, hrange, h⟩
  · exact Or.inl ⟨e, journaled_of_unwritten h rfl⟩
  · exact Or.inr (Or.inl ⟨current, (hw.row_eq_some hget).2, journaled_of_unwritten h rfl⟩)
  · refine Or.inr (Or.inr ⟨?_, hrange, ?_⟩)
    · rw [(hw.row_eq_some hget).1, hrev]
    · have hperform : (StoreOp.compare_and_swap entity_key expected_revision payload).perform
          w.store = _ := h
      simp only [journaled, hperform]
      rfl

end StoreOp

/-! ## Rows written under a discipline -/

namespace Journal

variable {ι P : Type}

/-- A row whose first state and whose every next state were written by callers
entitled to write them. -/
structure Sequential (entity_key : String) (First : ι → VersionedState P → Prop)
    (Next : ι → VersionedState P → VersionedState P → Prop) (w : Journal ι P) : Prop where
  consistent : w.Consistent entity_key
  first : ∀ c, (w.history entity_key)[0]? = some c → First c.caller c.state
  next : ∀ (r : ℕ) c c', (w.history entity_key)[r]? = some c →
    (w.history entity_key)[r + 1]? = some c' → Next c'.caller c.state c'.state

/-- The caller made the commit of this revision, and no other. -/
def Once (w : Journal ι P) (entity_key : String) (i : ι) (state : VersionedState P) : Prop :=
  (w.history entity_key)[state.revision]? = some ⟨i, entity_key, state⟩ ∧
  ∀ (r : ℕ) c, (w.history entity_key)[r]? = some c → c.caller = i → r = state.revision

variable {entity_key : String} {First : ι → VersionedState P → Prop}
  {Next : ι → VersionedState P → VersionedState P → Prop} {w w' : Journal ι P} {i : ι}

theorem Sequential.commit_first (h : w.Sequential entity_key First Next)
    (hempty : w.history entity_key = []) {payload : P} (hfirst : First i ⟨payload, 0⟩) :
    (w.commit ⟨i, entity_key, ⟨payload, 0⟩⟩).Sequential entity_key First Next := by
  have hhistory : (w.commit ⟨i, entity_key, ⟨payload, 0⟩⟩).history entity_key =
      [⟨i, entity_key, ⟨payload, 0⟩⟩] := by
    rw [history_commit_self w ⟨i, entity_key, ⟨payload, 0⟩⟩, hempty]
    rfl
  refine ⟨h.consistent.commit fun _ => ?_, fun c hc => ?_, fun r c c' _ hc' => ?_⟩
  · rw [hempty]
    rfl
  · rw [hhistory] at hc
    obtain rfl := Option.some_inj.mp hc
    exact hfirst
  · rw [hhistory] at hc'
    cases hc'

theorem Sequential.commit_next (h : w.Sequential entity_key First Next)
    {state : VersionedState P} (hat : w.At entity_key state)
    (hlength : (w.history entity_key).length = state.revision + 1) {payload : P}
    (hnext : Next i state ⟨payload, state.revision + 1⟩) :
    (w.commit ⟨i, entity_key, ⟨payload, state.revision + 1⟩⟩).Sequential entity_key First Next := by
  have hhistory : (w.commit ⟨i, entity_key, ⟨payload, state.revision + 1⟩⟩).history entity_key =
      w.history entity_key ++ [⟨i, entity_key, ⟨payload, state.revision + 1⟩⟩] :=
    history_commit_self w ⟨i, entity_key, ⟨payload, state.revision + 1⟩⟩
  refine ⟨h.consistent.commit fun _ => hlength.symm, fun c hc => ?_, fun r c c' hc hc' => ?_⟩
  · rw [hhistory, List.getElem?_append_left (by omega)] at hc
    exact h.first c hc
  · rw [hhistory] at hc hc'
    by_cases hlt : r + 1 < (w.history entity_key).length
    · rw [List.getElem?_append_left (by omega)] at hc
      rw [List.getElem?_append_left hlt] at hc'
      exact h.next r c c' hc hc'
    · -- the pair is the last state before this commit, which is `state`, and the commit
      have hr : r = state.revision := by
        have := (List.getElem?_eq_some_iff.mp hc').1
        rw [List.length_append, List.length_singleton] at this
        omega
      subst hr
      rw [List.getElem?_append_left (by omega)] at hc
      rw [List.getElem?_append_right (by omega), hlength, Nat.sub_self] at hc'
      obtain ⟨c₀, hc₀, hstate⟩ := hat
      rw [hc, Option.some_inj] at hc₀
      obtain rfl := Option.some_inj.mp hc'
      rw [hc₀, hstate]
      exact hnext

/-- A commit to another row changes nothing here. -/
theorem Sequential.commit_elsewhere (h : w.Sequential entity_key First Next) {c : Commit ι P}
    (hc : c.entity_key ≠ entity_key) : (w.commit c).Sequential entity_key First Next := by
  have hhistory := history_commit_of_ne w hc
  refine ⟨h.consistent.commit fun heq => absurd heq hc, ?_, ?_⟩
  · rw [hhistory]
    exact h.first
  · rw [hhistory]
    exact h.next

/-- Nor does any operation on another row. -/
theorem Sequential.elsewhere (h : w.Sequential entity_key First Next) {o : StoreOp P}
    (ho : o.entity_key ≠ entity_key) : (o.journaled i w).2.Sequential entity_key First Next := by
  cases o with
  | initialize_entity key payload =>
    cases hget : w.store[key]? with
    | none =>
      have hperform : (StoreOp.initialize_entity key payload).perform w.store = _ :=
        VersionedStateStore.initialize_entity_of_none hget payload
      have hcommit := h.commit_elsewhere (c := ⟨i, key, ⟨payload, 0⟩⟩) ho
      rw [StoreOp.journaled, hperform]
      exact hcommit
    | some state =>
      have hperform : (StoreOp.initialize_entity key payload).perform w.store = _ :=
        VersionedStateStore.initialize_entity_of_some hget payload
      rw [StoreOp.journaled_of_unwritten hperform rfl]
      exact h
  | load key =>
    rw [StoreOp.journaled_load]
    exact h
  | compare_and_swap key expected_revision payload =>
    rcases VersionedStateStore.compare_and_swap_cases w.store key expected_revision payload with
      ⟨e, hperform⟩ | ⟨current, _, hperform⟩ | ⟨current, _, _, _, hperform⟩
    · have hswap : (StoreOp.compare_and_swap key expected_revision payload).perform w.store = _ :=
        hperform
      rw [StoreOp.journaled_of_unwritten hswap rfl]
      exact h
    · have hswap : (StoreOp.compare_and_swap key expected_revision payload).perform w.store = _ :=
        hperform
      rw [StoreOp.journaled_of_unwritten hswap rfl]
      exact h
    · have hswap : (StoreOp.compare_and_swap key expected_revision payload).perform w.store = _ :=
        hperform
      have hcommit := h.commit_elsewhere (c := ⟨i, key, ⟨payload, expected_revision + 1⟩⟩) ho
      rw [StoreOp.journaled, hswap]
      exact hcommit

/-- Whatever one caller does, the others can count on their own commits. -/
theorem others_journaled {j : ι} (hj : j ≠ i) (o : StoreOp P) (w : Journal ι P) :
    Others j w (o.journaled i w).2 := by
  refine ⟨_, rfl, fun c hc => ?_⟩
  obtain ⟨p, _, rfl⟩ := List.mem_map.mp hc
  exact Ne.symm hj

theorem Once.others {state : VersionedState P} (h : w.Once entity_key i state)
    (hw : Others i w w') : w'.Once entity_key i state := by
  obtain ⟨l, hl, hne⟩ := hw
  refine ⟨history_get_mono hl h.1, fun r c hc hcaller => ?_⟩
  rw [history_append w w' hl] at hc
  by_cases hlt : r < (w.history entity_key).length
  · rw [List.getElem?_append_left hlt] at hc
    exact h.2 r c hc hcaller
  · rw [List.getElem?_append_right (by omega)] at hc
    have hmem := List.mem_of_getElem? hc
    exact absurd hcaller (hne c (List.mem_of_mem_filter hmem))

/-- The first commit of a caller is its only one. -/
theorem Fresh.once (h : w.Fresh i) (entity_key : String) (state : VersionedState P)
    (hlength : (w.history entity_key).length = state.revision) :
    (w.commit ⟨i, entity_key, state⟩).Once entity_key i state := by
  have hhistory : (w.commit ⟨i, entity_key, state⟩).history entity_key =
      w.history entity_key ++ [⟨i, entity_key, state⟩] :=
    history_commit_self w ⟨i, entity_key, state⟩
  refine ⟨?_, fun r c hc hcaller => ?_⟩
  · rw [hhistory, List.getElem?_append_right (by omega), hlength, Nat.sub_self]
    rfl
  · rw [hhistory] at hc
    by_cases hlt : r < (w.history entity_key).length
    · rw [List.getElem?_append_left hlt] at hc
      have hmem := List.mem_of_mem_filter (List.mem_of_getElem? hc)
      exact absurd hcaller (h c hmem)
    · have := (List.getElem?_eq_some_iff.mp hc).1
      rw [List.length_append, List.length_singleton] at this
      omega

/-! ## Safe use of a row -/

/-- Operations performed by callers, entered in the journal. -/
def sem (i : ι) (o : StoreOp P) (w : Journal ι P) : o.Answer × Journal ι P := o.journaled i w

/-- A program of caller `i` respects the discipline of a row and ends in `Q`. -/
abbrev SafeProg {ε α : Type} (entity_key : String) (First : ι → VersionedState P → Prop)
    (Next : ι → VersionedState P → VersionedState P → Prop) (i : ι)
    (Q : Except ε α → Journal ι P → Prop) (p : StoreProg P ε α) (w : Journal ι P) : Prop :=
  Safe sem (Sequential entity_key First Next) Others i Q p w

variable {ε α : Type} {Q : Except ε α → Journal ι P → Prop}

theorem safe_done {r : Except ε α} (h : ∀ t, Others i w t → Q r t) :
    SafeProg entity_key First Next i Q (.done r) w := fun t ht _ => h t ht

theorem safe_load {next : Option (VersionedState P) → StoreProg P ε α}
    (h : ∀ t, Others i w t → t.Sequential entity_key First Next → ∀ row,
      (∀ state, row = some state → t.At entity_key state) →
      SafeProg entity_key First Next i Q (next row) t) :
    SafeProg entity_key First Next i Q (.op (.load entity_key) next) w := by
  intro t ht hI
  have hload : sem i (.load entity_key) t = (t.store[entity_key]?, t) :=
    StoreOp.journaled_load i t entity_key
  rw [hload]
  refine ⟨⟨hI, fun j _ => Others.refl j t⟩, h t ht hI _ fun state hstate => ?_⟩
  exact (hI.consistent.row_eq_some hstate).2

theorem safe_initialize {payload : P} {next : InitializeOutcome P → StoreProg P ε α}
    (hfirst : First i ⟨payload, 0⟩)
    (hexisting : ∀ t, Others i w t → t.Sequential entity_key First Next → ∀ state,
      t.At entity_key state → SafeProg entity_key First Next i Q (next (.Existing state)) t)
    (hinitialized : ∀ t, Others i w t → t.history entity_key = [] →
      SafeProg entity_key First Next i Q (next (.Initialized ⟨payload, 0⟩))
        (t.commit ⟨i, entity_key, ⟨payload, 0⟩⟩)) :
    SafeProg entity_key First Next i Q (.op (.initialize_entity entity_key payload) next) w := by
  intro t ht hI
  rcases StoreOp.journaled_initialize i hI.consistent payload with ⟨state, hat, h⟩ | ⟨hempty, h⟩
  · rw [show sem i (.initialize_entity entity_key payload) t = _ from h]
    exact ⟨⟨hI, fun j _ => Others.refl j t⟩, hexisting t ht hI state hat⟩
  · rw [show sem i (.initialize_entity entity_key payload) t = _ from h]
    refine ⟨⟨hI.commit_first hempty hfirst, fun j hj => others_commit t (Ne.symm hj)⟩, ?_⟩
    exact hinitialized t ht hempty

/-- The rule for a compare-and-swap by a caller that has seen the row in
`state`, and may replace that by what it writes. -/
theorem safe_compare_and_swap {state : VersionedState P} {payload : P}
    {next : Except VersionedStateError (CompareAndSwapOutcome P) → StoreProg P ε α}
    (hat : w.At entity_key state)
    (hnext : state.revision + 1 ≤ I64_MAX → Next i state ⟨payload, state.revision + 1⟩)
    (herror : ∀ t e, Others i w t → SafeProg entity_key First Next i Q (next (.error e)) t)
    (hconflict : ∀ t, Others i w t → t.Sequential entity_key First Next → ∀ current,
      t.At entity_key current →
      SafeProg entity_key First Next i Q (next (.ok (.Conflict current))) t)
    (happlied : ∀ t, Others i w t → (t.history entity_key).length = state.revision + 1 →
      SafeProg entity_key First Next i Q
        (next (.ok (.Applied ⟨payload, state.revision + 1⟩)))
        (t.commit ⟨i, entity_key, ⟨payload, state.revision + 1⟩⟩)) :
    SafeProg entity_key First Next i Q
      (.op (.compare_and_swap entity_key state.revision payload) next) w := by
  intro t ht hI
  rcases StoreOp.journaled_compare_and_swap i hI.consistent state.revision payload with
    ⟨e, h⟩ | ⟨current, hcur, h⟩ | ⟨hlength, hrange, h⟩
  · rw [show sem i (.compare_and_swap entity_key state.revision payload) t = _ from h]
    exact ⟨⟨hI, fun j _ => Others.refl j t⟩, herror t e ht⟩
  · rw [show sem i (.compare_and_swap entity_key state.revision payload) t = _ from h]
    exact ⟨⟨hI, fun j _ => Others.refl j t⟩, hconflict t ht hI current hcur⟩
  · rw [show sem i (.compare_and_swap entity_key state.revision payload) t = _ from h]
    refine ⟨⟨hI.commit_next (hat.others ht) hlength (hnext hrange), fun j hj => ?_⟩, ?_⟩
    · exact others_commit t (Ne.symm hj)
    · exact happlied t ht hlength

end Journal

end OvcaCore

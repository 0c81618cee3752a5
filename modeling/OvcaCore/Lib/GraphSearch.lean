/-
Searches of a graph that is given by the successors of each node.

A depth-first search for a cycle, which marks the nodes; a loop that adds nodes to a set, pass
after pass, until the set stays as it is; and a search from a stack of pending nodes. Each takes
a bound on its rounds, and each ends within it when the bound exceeds the number of nodes.
-/
import OvcaCore.Lib.Graphs
import OvcaCore.Lib.OrderedMaps

set_option autoImplicit false

namespace OvcaCore.GraphSearch

open OvcaCore.Graphs OvcaCore.OrderedMaps Relation

variable {α : Type} [DecidableEq α]

/-! ## A depth-first search for a cycle -/

section DepthFirst

/-- What a search has done with a node. -/
inductive Mark where
  | unvisited
  | active
  | finished
  deriving DecidableEq, Repr

/-- Visits some nodes in order, and stops when a cycle is found. -/
def visit_each (visit : α → (α → Mark) → Option (Bool × (α → Mark))) :
    List α → (α → Mark) → Option (Bool × (α → Mark))
  | [], marks => some (false, marks)
  | a :: nodes, marks =>
    match visit a marks with
    | some (false, marks) => visit_each visit nodes marks
    | outcome => outcome

/-- Visits a node: whether a cycle is found, and the marks. It is none if the bound on the depth
is too small. -/
def visit (next : α → List α) : ℕ → α → (α → Mark) → Option (Bool × (α → Mark))
  | 0, _, _ => none
  | depth + 1, a, marks =>
    match marks a with
    | .active => some (true, marks)
    | .finished => some (false, marks)
    | .unvisited =>
      match visit_each (visit next depth) (next a) (Function.update marks a .active) with
      | some (false, marks) => some (false, Function.update marks a .finished)
      | outcome => outcome

/-- The second node is a successor of the first. -/
def Step (next : α → List α) (a b : α) : Prop := b ∈ next a

variable {next : α → List α} {depth : ℕ} {a : α} {marks marks' : α → Mark} {found : Bool}

/-- Another mark than the one that was set was there before. -/
theorem of_update {mark m : Mark} {b : α} (hb : Function.update marks a mark b = m)
    (hne : mark ≠ m) : marks b = m := by
  by_cases hba : b = a
  · rw [hba, Function.update_self] at hb
    exact absurd hb hne
  · rwa [Function.update_of_ne hba] at hb

/-- No finished node reaches a cycle. -/
def FinishedClear (next : α → List α) (marks : α → Mark) : Prop :=
  ∀ a, marks a = .finished → ¬ ReachesCycle (Step next) a

/-- What a visit of some nodes says: there is a cycle, or all of them are finished and no node
has become or stopped being active. -/
structure Visited (next : α → List α) (nodes : List α) (marks : α → Mark) (found : Bool)
    (marks' : α → Mark) : Prop where
  cycle : found = true → ∃ c, TransGen (Step next) c c
  finished : found = false → ∀ a ∈ nodes, marks' a = .finished
  clear : found = false → FinishedClear next marks'
  active : found = false → ∀ a, marks' a = .active ↔ marks a = .active
  kept : found = false → ∀ a, marks a = .finished → marks' a = .finished

omit [DecidableEq α] in
theorem visit_each_visited {f : α → (α → Mark) → Option (Bool × (α → Mark))} {nodes : List α}
    (hvisit : ∀ a ∈ nodes, ∀ m found m', FinishedClear next m →
      (∀ b, m b = .active ↔ marks b = .active) → f a m = some (found, m') →
        Visited next [a] m found m')
    (hclear : FinishedClear next marks) (h : visit_each f nodes marks = some (found, marks')) :
    Visited next nodes marks found marks' := by
  -- the marks change on the way, but not which nodes are active
  suffices hrun : ∀ (nodes : List α) (m : α → Mark), (∀ a ∈ nodes, ∀ m found m',
      FinishedClear next m → (∀ b, m b = .active ↔ marks b = .active) →
        f a m = some (found, m') → Visited next [a] m found m') → FinishedClear next m →
      (∀ b, m b = .active ↔ marks b = .active) → visit_each f nodes m = some (found, marks') →
      Visited next nodes m found marks' from
    hrun nodes marks hvisit hclear (fun _ => Iff.rfl) h
  clear h hclear hvisit nodes
  intro nodes
  induction nodes with
  | nil =>
    rintro m - hclear - ⟨⟩
    exact ⟨nofun, fun _ _ hmem => absurd hmem List.not_mem_nil, fun _ => hclear,
      fun _ _ => Iff.rfl, fun _ _ => id⟩
  | cons a nodes ih =>
    intro m hvisit hclear hactive h
    rw [List.forall_mem_cons] at hvisit
    unfold visit_each at h
    cases hfirst : f a m with
    | none =>
      rw [hfirst] at h
      exact nomatch h
    | some outcome =>
      obtain ⟨found', m'⟩ := outcome
      have hvisited := hvisit.1 m found' m' hclear hactive hfirst
      rw [hfirst] at h
      cases found' with
      | true =>
        obtain ⟨rfl, rfl⟩ := Prod.mk.inj (Option.some.inj h)
        exact ⟨hvisited.cycle, nofun, nofun, nofun, nofun⟩
      | false =>
        -- what is finished stays finished while the rest is visited
        have hrest := ih m' hvisit.2 (hvisited.clear rfl)
          (fun b => (hvisited.active rfl b).trans (hactive b)) h
        refine ⟨hrest.cycle, fun hfound => ?_, hrest.clear,
          fun hfound b => (hrest.active hfound b).trans (hvisited.active rfl b),
          fun hfound b hb => hrest.kept hfound b (hvisited.kept rfl b hb)⟩
        rw [List.forall_mem_cons]
        exact ⟨hrest.kept hfound a (hvisited.finished rfl a List.mem_cons_self),
          hrest.finished hfound⟩

/-- **What a visit says**, when every active node is on the way to the node. -/
theorem visit_visited (hclear : FinishedClear next marks)
    (hway : ∀ b, marks b = .active → TransGen (Step next) b a)
    (h : visit next depth a marks = some (found, marks')) :
    Visited next [a] marks found marks' := by
  induction depth generalizing a marks found marks' with
  | zero => exact nomatch h
  | succ depth ih =>
    unfold visit at h
    cases hmark : marks a with
    | active =>
      rw [hmark] at h
      obtain ⟨rfl, rfl⟩ := Prod.mk.inj (Option.some.inj h)
      exact ⟨fun _ => ⟨a, hway a hmark⟩, nofun, nofun, nofun, nofun⟩
    | finished =>
      rw [hmark] at h
      obtain ⟨rfl, rfl⟩ := Prod.mk.inj (Option.some.inj h)
      exact ⟨nofun, fun _ b hb => List.mem_singleton.mp hb ▸ hmark, fun _ => hclear,
        fun _ _ => Iff.rfl, fun _ _ => id⟩
    | unvisited =>
      rw [hmark] at h
      simp only at h
      -- the node is active while its successors are visited
      have hactive : ∀ b, Function.update marks a .active b = .active
          ↔ b = a ∨ marks b = .active := by
        intro b
        by_cases hb : b = a
        · simp [hb]
        · simp [hb]
      have hclear' : FinishedClear next (Function.update marks a .active) :=
        fun b hb => hclear b (of_update hb nofun)
      cases hrest : visit_each (visit next depth) (next a) (Function.update marks a .active) with
      | none =>
        rw [hrest] at h
        exact nomatch h
      | some outcome =>
        obtain ⟨found', m'⟩ := outcome
        have hvisited := @visit_each_visited _ next _ _ _ _ (next a)
          (fun d hd m found m' hm hsame hvisit => ih hm (fun b hb => ?_) hvisit) hclear' hrest
        · rw [hrest] at h
          cases found' with
          | true =>
            obtain ⟨rfl, rfl⟩ := Prod.mk.inj (Option.some.inj h)
            exact ⟨hvisited.cycle, nofun, nofun, nofun, nofun⟩
          | false =>
            obtain ⟨rfl, rfl⟩ := Prod.mk.inj (Option.some.inj h)
            refine ⟨nofun, fun _ b hb => ?_, fun _ b hb => ?_, fun _ b => ?_, fun _ b hb => ?_⟩
            · rw [List.mem_singleton.mp hb, Function.update_self]
            · by_cases hba : b = a
              · -- all its successors are finished
                subst hba
                intro hreaches
                obtain ⟨d, hd, hcycle⟩ := hreaches.exists_step
                exact hvisited.clear rfl d (hvisited.finished rfl d hd) hcycle
              · rw [Function.update_of_ne hba] at hb
                exact hvisited.clear rfl b hb
            · by_cases hba : b = a
              · subst hba
                simp [hmark]
              · rw [Function.update_of_ne hba, hvisited.active rfl b, hactive b, or_iff_right hba]
            · have hba : b ≠ a := by
                rintro rfl
                rw [hmark] at hb
                exact nomatch hb
              rw [Function.update_of_ne hba]
              refine hvisited.kept rfl b ?_
              rw [Function.update_of_ne hba]
              exact hb
        · rcases (hactive b).mp ((hsame b).mp hb) with rfl | hb
          · exact .single hd
          · exact (hway b hb).tail hd

/-! ### Enough depth -/

/-- The nodes of the list that have not been visited. -/
def unvisited (nodes : List α) (marks : α → Mark) : Finset α :=
  nodes.toFinset.filter fun a => marks a = .unvisited

/-- No node has become unvisited. -/
def Shrinks (marks marks' : α → Mark) : Prop :=
  ∀ a, marks' a = .unvisited → marks a = .unvisited

theorem Shrinks.card_le {nodes : List α} (h : Shrinks marks marks') :
    (unvisited nodes marks').card ≤ (unvisited nodes marks).card := by
  apply Finset.card_le_card
  intro b hb
  obtain ⟨hmem, hmark⟩ := Finset.mem_filter.mp hb
  exact Finset.mem_filter.mpr ⟨hmem, h b hmark⟩

theorem unvisited_update_lt {nodes : List α} {mark : Mark} (ha : a ∈ nodes)
    (hmark : marks a = .unvisited) (hne : mark ≠ .unvisited) :
    (unvisited nodes (Function.update marks a mark)).card < (unvisited nodes marks).card := by
  apply Finset.card_lt_card
  refine Finset.ssubset_iff_of_subset (fun b hb => ?_) |>.mpr
    ⟨a, Finset.mem_filter.mpr ⟨List.mem_toFinset.mpr ha, hmark⟩, fun hmem => ?_⟩
  · obtain ⟨hmem, hb⟩ := Finset.mem_filter.mp hb
    exact Finset.mem_filter.mpr ⟨hmem, of_update hb hne⟩
  · have hself := (Finset.mem_filter.mp hmem).2
    rw [Function.update_self] at hself
    exact hne hself

omit [DecidableEq α] in
theorem visit_each_some {f : α → (α → Mark) → Option (Bool × (α → Mark))} {nodes : List α}
    (hvisit : ∀ a ∈ nodes, ∀ m, Shrinks marks m →
      ∃ found m', f a m = some (found, m') ∧ Shrinks m m') :
    ∃ found marks', visit_each f nodes marks = some (found, marks') ∧ Shrinks marks marks' := by
  induction nodes generalizing marks with
  | nil => exact ⟨false, marks, rfl, fun _ => id⟩
  | cons a nodes ih =>
    rw [List.forall_mem_cons] at hvisit
    obtain ⟨found, m, hfirst, hshrinks⟩ := hvisit.1 marks fun _ => id
    unfold visit_each
    rw [hfirst]
    cases found with
    | true => exact ⟨true, m, rfl, hshrinks⟩
    | false =>
      obtain ⟨found, m', hrest, hshrinks'⟩ := @ih m fun b hb m' hm' =>
        hvisit.2 b hb m' fun d hd => hshrinks d (hm' d hd)
      exact ⟨found, m', hrest, fun d hd => hshrinks d (hshrinks' d hd)⟩

/-- A visit ends when the depth exceeds the number of nodes not yet visited. -/
theorem visit_some {nodes : List α} (hclosed : ∀ a ∈ nodes, ∀ b ∈ next a, b ∈ nodes)
    (ha : a ∈ nodes) (hdepth : (unvisited nodes marks).card < depth) :
    ∃ found marks', visit next depth a marks = some (found, marks') ∧ Shrinks marks marks' := by
  induction depth generalizing a marks with
  | zero => exact absurd hdepth (Nat.not_lt_zero _)
  | succ depth ih =>
    unfold visit
    cases hmark : marks a with
    | active => exact ⟨true, marks, rfl, fun _ => id⟩
    | finished => exact ⟨false, marks, rfl, fun _ => id⟩
    | unvisited =>
      have hlt := @unvisited_update_lt _ _ _ _ _ .active ha hmark nofun
      have hshrinks : Shrinks marks (Function.update marks a .active) :=
        fun b hb => of_update hb nofun
      -- the node itself is visited now, so its successors need less depth
      have hrest : ∃ found m, visit_each (visit next depth) (next a)
          (Function.update marks a .active) = some (found, m)
            ∧ Shrinks (Function.update marks a .active) m := by
        apply visit_each_some
        intro b hb m hm
        have hcard := @Shrinks.card_le _ _ _ _ nodes hm
        exact ih (hclosed a ha b hb) (by omega)
      obtain ⟨found, m, hrest, hshrinks'⟩ := hrest
      simp only [hrest]
      cases found with
      | true => exact ⟨true, m, rfl, fun b hb => hshrinks b (hshrinks' b hb)⟩
      | false =>
        refine ⟨false, _, rfl, fun b hb => ?_⟩
        exact hshrinks b (hshrinks' b (of_update hb nofun))

/-- **The search of a finite graph finds a cycle iff there is one**, when the depth exceeds the
number of nodes. -/
theorem search_iff {nodes : List α} (hclosed : ∀ a ∈ nodes, ∀ b ∈ next a, b ∈ nodes)
    (hnodes : ∀ a b, Step next a b → a ∈ nodes) (hdepth : nodes.length < depth) :
    ∃ found marks', visit_each (visit next depth) nodes (fun _ => .unvisited)
        = some (found, marks')
      ∧ (found = true ↔ ∃ c, TransGen (Step next) c c) := by
  have hcard : ∀ m, (unvisited nodes m).card < depth := fun m =>
    Nat.lt_of_le_of_lt ((Finset.card_le_card (Finset.filter_subset _ _)).trans
      nodes.toFinset_card_le) hdepth
  obtain ⟨found, marks', hsearch, -⟩ := @visit_each_some _ (fun _ => .unvisited)
    (visit next depth) nodes fun a ha m _ => visit_some hclosed ha (hcard m)
  refine ⟨found, marks', hsearch, ?_⟩
  have hvisited := @visit_each_visited _ next (fun _ => .unvisited) marks' found _ nodes
    (fun a ha m found m' hm hsame h => visit_visited hm
      (fun b hb => absurd ((hsame b).mp hb) nofun) h) nofun hsearch
  refine ⟨hvisited.cycle, ?_⟩
  rintro ⟨c, hcycle⟩
  by_contra hfound
  rw [Bool.not_eq_true] at hfound
  -- the cycle starts with a step, so it is among the nodes
  obtain ⟨b, hstep, -⟩ := TransGen.head'_iff.mp hcycle
  exact hvisited.clear hfound c (hvisited.finished hfound c (hnodes c b hstep))
    ⟨c, .refl, hcycle⟩

end DepthFirst

/-! ## Adding nodes until the set stays as it is -/

section Saturation

open Std

variable {κ : Type} {cmp : κ → κ → Ordering} [TransCmp cmp]

/-- Puts each candidate one of whose successors is in the set into it, in order. -/
def pass (next : κ → List κ) (candidates : List κ) (s : ExtTreeSet κ cmp) : ExtTreeSet κ cmp :=
  candidates.foldl (fun s k => if (next k).any s.contains then s.insert k else s) s

/-- Passes until one leaves the size as it is. It is none if the bound on the passes is too
small. -/
def saturate (next : κ → List κ) (candidates : List κ) :
    ℕ → ExtTreeSet κ cmp → Option (ExtTreeSet κ cmp)
  | 0, _ => none
  | rounds + 1, s =>
    if (pass next candidates s).size = s.size then some (pass next candidates s)
    else saturate next candidates rounds (pass next candidates s)

variable [LawfulEqCmp cmp] {next : κ → List κ} {candidates : List κ} {s t : ExtTreeSet κ cmp}
  {rounds : ℕ} {k : κ}

omit [LawfulEqCmp cmp] in
theorem subset_pass (hk : k ∈ s) : k ∈ pass next candidates s := by
  unfold pass
  induction candidates generalizing s with
  | nil => exact hk
  | cons c candidates ih =>
    rw [List.foldl_cons]
    apply ih
    split
    · exact ExtTreeSet.mem_insert.mpr (.inr hk)
    · exact hk

/-- What holds of the set and of a node with a successor of which it holds, holds after a pass. -/
theorem pass_induction {P : κ → Prop} (hs : ∀ k ∈ s, P k)
    (hstep : ∀ k ∈ candidates, ∀ b ∈ next k, P b → P k) :
    ∀ k ∈ pass next candidates s, P k := by
  unfold pass
  induction candidates generalizing s with
  | nil => exact hs
  | cons c candidates ih =>
    rw [List.foldl_cons]
    rw [List.forall_mem_cons] at hstep
    apply ih _ hstep.2
    intro k hk
    split at hk
    · rename_i hany
      obtain ⟨b, hb, hmem⟩ := List.any_eq_true.mp hany
      rcases ExtTreeSet.mem_insert.mp hk with hk | hk
      · rw [← LawfulEqCmp.compare_eq_iff_eq.mp hk]
        exact hstep.1 b hb (hs b (ExtTreeSet.contains_iff_mem.mp hmem))
      · exact hs k hk
    · exact hs k hk

omit [LawfulEqCmp cmp] in
/-- A candidate with a successor in the set is in it after a pass. -/
theorem mem_pass {b : κ} (hk : k ∈ candidates) (hb : b ∈ next k) (hmem : b ∈ s) :
    k ∈ pass next candidates s := by
  induction candidates generalizing s with
  | nil => exact absurd hk List.not_mem_nil
  | cons c candidates ih =>
    unfold pass
    rw [List.foldl_cons]
    rcases List.mem_cons.mp hk with rfl | hk
    · rw [if_pos (List.any_eq_true.mpr ⟨b, hb, ExtTreeSet.contains_iff_mem.mpr hmem⟩)]
      exact subset_pass ExtTreeSet.mem_insert_self
    · apply ih hk
      split
      · exact ExtTreeSet.mem_insert.mpr (.inr hmem)
      · exact hmem

theorem saturate_induction {P : κ → Prop} (hs : ∀ k ∈ s, P k)
    (hstep : ∀ k ∈ candidates, ∀ b ∈ next k, P b → P k)
    (h : saturate next candidates rounds s = some t) : ∀ k ∈ t, P k := by
  induction rounds generalizing s with
  | zero => exact nomatch h
  | succ rounds ih =>
    unfold saturate at h
    split at h
    · rw [← Option.some.inj h]
      exact pass_induction hs hstep
    · exact ih (pass_induction hs hstep) h

omit [LawfulEqCmp cmp] in
theorem subset_saturate (h : saturate next candidates rounds s = some t) (hk : k ∈ s) :
    k ∈ t := by
  induction rounds generalizing s with
  | zero => exact nomatch h
  | succ rounds ih =>
    unfold saturate at h
    split at h
    · rw [← Option.some.inj h]
      exact subset_pass hk
    · exact ih h (subset_pass hk)

/-- The set at which the passes end has every candidate with a successor in it. -/
theorem saturate_closed {b : κ} (h : saturate next candidates rounds s = some t)
    (hk : k ∈ candidates) (hb : b ∈ next k) (hmem : b ∈ t) : k ∈ t := by
  induction rounds generalizing s with
  | zero => exact nomatch h
  | succ rounds ih =>
    unfold saturate at h
    split at h
    · rename_i hsize
      obtain rfl := Option.some.inj h
      -- the last pass has added nothing, so the successor was there before it
      refine mem_pass hk hb ?_
      rwa [mem_iff_of_size_eq (fun k hk => subset_pass hk) hsize.symm]
    · exact ih h

/-- **The passes put exactly the candidates that reach the set into it.** -/
theorem mem_saturate_iff (h : saturate next candidates rounds s = some t) :
    k ∈ t ↔ ∃ b ∈ s, ReflTransGen (fun k b => k ∈ candidates ∧ b ∈ next k) k b := by
  constructor
  · refine @saturate_induction _ _ _ _ _ _ _ _ _
      (fun k => ∃ b ∈ s, ReflTransGen (fun k b => k ∈ candidates ∧ b ∈ next k) k b)
      (fun k hk => ⟨k, hk, .refl⟩) ?_ h k
    rintro k hk b hb ⟨d, hd, hreach⟩
    exact ⟨d, hd, hreach.head ⟨hk, hb⟩⟩
  · rintro ⟨b, hb, hreach⟩
    induction hreach using ReflTransGen.head_induction_on with
    | refl => exact subset_saturate h hb
    | head hstep _ ih => exact saturate_closed h hstep.1 hstep.2 ih

/-- The passes end when their bound exceeds the number of nodes that are not in the set. -/
theorem saturate_some {nodes : List κ} (hcandidates : ∀ k ∈ candidates, k ∈ nodes)
    (hs : ∀ k ∈ s, k ∈ nodes) (hrounds : nodes.length < rounds + s.size) :
    ∃ t, saturate next candidates rounds s = some t := by
  induction rounds generalizing s with
  | zero =>
    have hsize := size_le_of_subset hs
    omega
  | succ rounds ih =>
    unfold saturate
    split
    · exact ⟨_, rfl⟩
    · rename_i hsize
      -- a pass that does not end the loop has added a node
      have hgrown := size_le_of_set_subset fun k hk => @subset_pass _ _ _ next candidates s k hk
      exact ih (pass_induction hs fun k hk _ _ _ => hcandidates k hk) (by omega)

end Saturation

/-! ## A search from a stack -/

section Stack

open Std

variable {κ : Type} {cmp : κ → κ → Ordering} [TransCmp cmp]

/-- Puts the successors that are not yet in the set into it, and on the stack. -/
def push (successors : List κ) (selected : ExtTreeSet κ cmp) (pending : List κ) :
    ExtTreeSet κ cmp × List κ :=
  match successors with
  | [] => (selected, pending)
  | b :: successors =>
    if selected.contains b then push successors selected pending
    else push successors (selected.insert b) (b :: pending)

/-- Takes nodes from the stack until it is empty. It is none if the bound on the rounds is too
small, and an error if a node has no successors that are known. -/
def reach (next : κ → Option (List κ)) :
    ℕ → ExtTreeSet κ cmp → List κ → Option (Except κ (ExtTreeSet κ cmp))
  | 0, _, _ => none
  | _ + 1, selected, [] => some (.ok selected)
  | rounds + 1, selected, a :: pending =>
    match next a with
    | none => some (.error a)
    | some successors =>
      reach next rounds (push successors selected pending).1 (push successors selected pending).2

variable [LawfulEqCmp cmp] {next : κ → Option (List κ)} {successors pending : List κ}
  {selected t : ExtTreeSet κ cmp} {rounds : ℕ} {k : κ}

theorem mem_push_selected : k ∈ (push successors selected pending).1
    ↔ k ∈ selected ∨ k ∈ successors := by
  induction successors generalizing selected pending with
  | nil => simp [push]
  | cons b successors ih =>
    unfold push
    rw [List.mem_cons]
    split
    · rename_i hb
      rw [ih]
      refine ⟨fun hk => hk.imp_right .inr, ?_⟩
      rintro (hk | rfl | hk)
      · exact .inl hk
      · exact .inl (ExtTreeSet.contains_iff_mem.mp hb)
      · exact .inr hk
    · rw [ih, ExtTreeSet.mem_insert, LawfulEqCmp.compare_eq_iff_eq, or_assoc, or_left_comm,
        eq_comm]

/-- The stack after a push has the nodes that were on it and those that are new to the set. -/
theorem mem_push_pending : k ∈ (push successors selected pending).2
    ↔ k ∈ pending ∨ k ∈ successors ∧ k ∉ selected := by
  induction successors generalizing selected pending with
  | nil => simp [push]
  | cons b successors ih =>
    unfold push
    rw [List.mem_cons]
    split
    · rename_i hb
      rw [ih]
      have hmem := ExtTreeSet.contains_iff_mem.mp hb
      refine or_congr_right ⟨fun hk => ⟨.inr hk.1, hk.2⟩, ?_⟩
      rintro ⟨rfl | hk, hnot⟩
      · exact absurd hmem hnot
      · exact ⟨hk, hnot⟩
    · rename_i hb
      have hmem : b ∉ selected := fun hmem => hb (ExtTreeSet.contains_iff_mem.mpr hmem)
      rw [ih, ExtTreeSet.mem_insert, LawfulEqCmp.compare_eq_iff_eq, List.mem_cons]
      constructor
      · rintro ((rfl | hk) | ⟨hk, hnot⟩)
        · exact .inr ⟨.inl rfl, hmem⟩
        · exact .inl hk
        · exact .inr ⟨.inr hk, fun h => hnot (.inr h)⟩
      · rintro (hk | ⟨rfl | hk, hnot⟩)
        · exact .inl (.inr hk)
        · exact .inl (.inl rfl)
        · by_cases hkb : k = b
          · exact .inl (.inl hkb)
          · exact .inr ⟨hk, fun h => h.elim (fun h => hkb h.symm) hnot⟩

omit [LawfulEqCmp cmp] in
theorem push_size : (push successors selected pending).2.length + selected.size
    = (push successors selected pending).1.size + pending.length := by
  induction successors generalizing selected pending with
  | nil => simp [push, Nat.add_comm]
  | cons b successors ih =>
    unfold push
    split
    · exact ih
    · rename_i hb
      have hih := @ih (b :: pending) (selected.insert b)
      rw [ExtTreeSet.size_insert, if_neg hb,
        List.length_cons] at hih
      omega

/-- The second node is a known successor of the first. -/
def Known (next : κ → Option (List κ)) (a b : κ) : Prop := ∃ successors, next a = some successors
  ∧ b ∈ successors

/-- **What the search selects**: the set that it starts with, and all that is reached from it,
when what is not on the stack has its successors in the set. -/
theorem mem_reach_iff (hpending : ∀ a ∈ pending, a ∈ selected)
    (hclosed : ∀ a ∈ selected, a ∉ pending → ∀ b, Known next a b → b ∈ selected)
    (h : reach next rounds selected pending = some (.ok t)) :
    k ∈ t ↔ ∃ a ∈ selected, ReflTransGen (Known next) a k := by
  induction rounds generalizing selected pending with
  | zero => exact nomatch h
  | succ rounds ih =>
    cases pending with
    | nil =>
      obtain rfl := Except.ok.inj (Option.some.inj h)
      refine ⟨fun hk => ⟨k, hk, .refl⟩, ?_⟩
      rintro ⟨a, ha, hreach⟩
      clear ih h
      induction hreach with
      | refl => exact ha
      | tail _ hstep ih => exact hclosed _ ih List.not_mem_nil _ hstep
    | cons a pending =>
      unfold reach at h
      rw [List.forall_mem_cons] at hpending
      cases hnext : next a with
      | none =>
        rw [hnext] at h
        exact nomatch Option.some.inj h
      | some successors =>
        simp only [hnext] at h
        rw [ih (fun b hb => ?_) (fun b hb hnot d hstep => ?_) h]
        · constructor
          · rintro ⟨b, hb, hreach⟩
            rcases mem_push_selected.mp hb with hb | hb
            · exact ⟨b, hb, hreach⟩
            · exact ⟨a, hpending.1, hreach.head ⟨successors, hnext, hb⟩⟩
          · rintro ⟨b, hb, hreach⟩
            exact ⟨b, mem_push_selected.mpr (.inl hb), hreach⟩
        · rcases mem_push_pending.mp hb with hb | hb
          · exact mem_push_selected.mpr (.inl (hpending.2 b hb))
          · exact mem_push_selected.mpr (.inr hb.1)
        · -- the node is the one taken from the stack, or it was closed before
          rw [mem_push_pending, not_or, not_and, not_not] at hnot
          have hselected : b ∈ selected := (mem_push_selected.mp hb).elim id hnot.2
          by_cases hba : b = a
          · subst hba
            obtain ⟨_, hsome, hd⟩ := hstep
            rw [hnext, Option.some_inj] at hsome
            exact mem_push_selected.mpr (.inr (hsome ▸ hd))
          · refine mem_push_selected.mpr (.inl (hclosed b hselected ?_ d hstep))
            rw [List.mem_cons]
            exact fun hmem => hmem.elim hba hnot.1

/-- The search of a complete finite graph ends, without an error, when the bound on the rounds
exceeds the stack and the number of nodes that are not yet in the set. -/
theorem reach_some {nodes : List κ} (hnodes : ∀ a ∈ nodes, ∃ successors, next a = some successors
      ∧ ∀ b ∈ successors, b ∈ nodes) (hselected : ∀ a ∈ selected, a ∈ nodes)
    (hpending : ∀ a ∈ pending, a ∈ nodes)
    (hrounds : pending.length + nodes.length < rounds + selected.size) :
    ∃ t, reach next rounds selected pending = some (.ok t) := by
  induction rounds generalizing selected pending with
  | zero =>
    have hsize := size_le_of_subset hselected
    omega
  | succ rounds ih =>
    cases pending with
    | nil => exact ⟨selected, rfl⟩
    | cons a pending =>
      rw [List.forall_mem_cons] at hpending
      obtain ⟨successors, hnext, hsuccessors⟩ := hnodes a hpending.1
      -- each node that is put on the stack is a new one of the set
      have hsize := @push_size _ _ _ successors pending selected
      rw [List.length_cons] at hrounds
      unfold reach
      simp only [hnext]
      refine ih (fun b hb => ?_) (fun b hb => ?_) (by omega)
      · exact (mem_push_selected.mp hb).elim (hselected b) (hsuccessors b)
      · exact (mem_push_pending.mp hb).elim (hpending.2 b) fun hb => hsuccessors b hb.1

end Stack

end OvcaCore.GraphSearch

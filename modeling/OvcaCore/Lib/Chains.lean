/-
Chains of states: a first state and the states after it, one step after the
other.

A chain is given as its first state and the list of the others, so that it is
never empty; that each step of it is allowed is `List.IsChain` of the whole.
Here are the rules that carry a fact about one step over a chain: an invariant,
a reflexive and transitive relation between any two of its states, and a measure
that counts steps.
-/
import Mathlib.Data.List.Chain
import Mathlib.Tactic.Common

set_option autoImplicit false

namespace OvcaCore.Chains

universe u

variable {α : Type u}

/-- The steps of a chain, each with the state before it and the one after. -/
def steps : α → List α → List (α × α)
  | _, [] => []
  | state, next :: rest => (state, next) :: steps next rest

/-- The state that a chain ends in. -/
def final : α → List α → α
  | state, [] => state
  | _, next :: rest => final next rest

@[simp] theorem steps_nil (state : α) : steps state [] = [] := rfl

@[simp] theorem steps_cons (state next : α) (rest : List α) :
    steps state (next :: rest) = (state, next) :: steps next rest := rfl

@[simp] theorem final_nil (state : α) : final state [] = state := rfl

@[simp] theorem final_cons (state next : α) (rest : List α) :
    final state (next :: rest) = final next rest := rfl

theorem final_mem (state : α) (rest : List α) : final state rest ∈ state :: rest := by
  induction rest generalizing state with
  | nil => simp
  | cons next rest ih =>
    rw [final_cons]
    exact List.mem_cons_of_mem _ (ih next)

theorem getLast?_eq_final (state : α) (rest : List α) :
    (state :: rest).getLast? = some (final state rest) := by
  induction rest generalizing state with
  | nil => rfl
  | cons next rest ih => rw [List.getLast?_cons_cons, ih, final_cons]

theorem isChain_iff_steps {R : α → α → Prop} {first : α} {rest : List α} :
    (first :: rest).IsChain R ↔ ∀ step ∈ steps first rest, R step.1 step.2 := by
  induction rest generalizing first with
  | nil => simp
  | cons next rest ih =>
    rw [List.isChain_cons_cons, ih, steps_cons, List.forall_mem_cons]

theorem mem_of_mem_steps {first : α} {rest : List α} {step : α × α}
    (h : step ∈ steps first rest) : step.1 ∈ first :: rest ∧ step.2 ∈ first :: rest := by
  induction rest generalizing first with
  | nil => simp at h
  | cons next rest ih =>
    rw [steps_cons, List.mem_cons] at h
    rcases h with rfl | h
    · simp
    · exact ⟨List.mem_cons_of_mem _ (ih h).1, List.mem_cons_of_mem _ (ih h).2⟩

theorem final_concat (state next : α) (rest : List α) : final state (rest ++ [next]) = next := by
  induction rest generalizing state with
  | nil => rfl
  | cons other rest ih => exact ih other

theorem steps_concat (state next : α) (rest : List α) :
    steps state (rest ++ [next]) = steps state rest ++ [(final state rest, next)] := by
  induction rest generalizing state with
  | nil => rfl
  | cons other rest ih =>
    rw [List.cons_append, steps_cons, steps_cons, ih other, final_cons, List.cons_append]

/-- A step of a chain is the one between two consecutive states of it. -/
theorem mem_steps_iff {first : α} {rest : List α} {step : α × α} :
    step ∈ steps first rest ↔ ∃ i, ∃ h : i + 1 < (first :: rest).length,
      step = ((first :: rest)[i], (first :: rest)[i + 1]) := by
  induction rest generalizing first with
  | nil => simp
  | cons next rest ih =>
    rw [steps_cons, List.mem_cons, ih]
    constructor
    · rintro (rfl | ⟨i, h, rfl⟩)
      · exact ⟨0, by simp, by simp⟩
      · exact ⟨i + 1, by simpa using h, by simp⟩
    · rintro ⟨i, h, rfl⟩
      rcases i with _ | i
      · exact Or.inl (by simp)
      · exact Or.inr ⟨i, by simpa using h, by simp⟩

/-- **The invariant rule.** What holds first and is kept by every step of the
chain holds in each of its states. -/
theorem chain_invariant {I : α → Prop} {first : α} {rest : List α} (hfirst : I first)
    (hstep : ∀ step ∈ steps first rest, I step.1 → I step.2) : ∀ state ∈ first :: rest, I state := by
  induction rest generalizing first with
  | nil => simpa using hfirst
  | cons next rest ih =>
    rw [steps_cons, List.forall_mem_cons] at hstep
    rw [List.forall_mem_cons]
    exact ⟨hfirst, ih (hstep.1 hfirst) hstep.2⟩

/-- What every step relates, a reflexive and transitive relation has between any
state of the chain and any later one. -/
theorem chain_rel {S : α → α → Prop} (hrefl : ∀ a, S a a)
    (htrans : ∀ a b c, S a b → S b c → S a c) {first : α} {rest : List α}
    (hstep : ∀ step ∈ steps first rest, S step.1 step.2) {i j : ℕ} (hij : i ≤ j)
    (hj : j < (first :: rest).length) : S (first :: rest)[i] (first :: rest)[j] := by
  induction j with
  | zero =>
    obtain rfl : i = 0 := by omega
    exact hrefl _
  | succ j ih =>
    by_cases hlast : i = j + 1
    · subst hlast
      exact hrefl _
    · have hbefore : S (first :: rest)[i] (first :: rest)[j] := ih (by omega) (by omega)
      exact htrans _ _ _ hbefore (hstep _ (mem_steps_iff.mpr ⟨j, hj, rfl⟩))

/-! ## Counting steps -/

/-- A measure that each step raises, and by one more where the step counts,
bounds the number of steps that count. -/
theorem count_steps_le {counts : α × α → Bool} {μ : α → ℕ} {first : α} {rest : List α}
    (hstep : ∀ step ∈ steps first rest,
      μ step.1 + (if counts step then 1 else 0) ≤ μ step.2) :
    μ first + (steps first rest).countP counts ≤ μ (final first rest) := by
  induction rest generalizing first with
  | nil => simp
  | cons next rest ih =>
    rw [steps_cons, List.forall_mem_cons] at hstep
    have hrest := ih hstep.2
    rw [steps_cons, List.countP_cons, final_cons]
    have hfirst := hstep.1
    simp only at hfirst
    omega

/-- A measure that exactly the steps that count raise by one counts them. -/
theorem count_steps_eq {counts : α × α → Bool} {μ : α → ℕ} {first : α} {rest : List α}
    (hstep : ∀ step ∈ steps first rest,
      μ step.2 = μ step.1 + (if counts step then 1 else 0)) :
    μ (final first rest) = μ first + (steps first rest).countP counts := by
  induction rest generalizing first with
  | nil => simp
  | cons next rest ih =>
    rw [steps_cons, List.forall_mem_cons] at hstep
    have hrest := ih hstep.2
    rw [steps_cons, List.countP_cons, final_cons]
    have hfirst := hstep.1
    simp only at hfirst
    omega

end OvcaCore.Chains

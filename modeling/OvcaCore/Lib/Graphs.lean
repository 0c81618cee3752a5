/-
Cycles of a relation.

An element reaches a cycle when a walk from it comes back to a place where it has been. In a
finite part of the relation from which every element has a step that stays in it, every element
reaches a cycle; an element does not, if none of its successors does.
-/
import Mathlib.Data.Fintype.Pigeonhole
import Mathlib.Data.Fintype.EquivFin
import Mathlib.Logic.Relation

set_option autoImplicit false

namespace OvcaCore.Graphs

open Relation

variable {α : Type} {r : α → α → Prop} {a : α}

/-- A walk from the element goes round in a circle. -/
def ReachesCycle (r : α → α → Prop) (a : α) : Prop := ∃ c, ReflTransGen r a c ∧ TransGen r c c

def Acyclic (r : α → α → Prop) : Prop := ∀ a, ¬ TransGen r a a

theorem acyclic_iff : Acyclic r ↔ ∀ a, ¬ ReachesCycle r a := by
  constructor
  · rintro h a ⟨c, -, hcycle⟩
    exact h c hcycle
  · exact fun h a hcycle => h a ⟨a, .refl, hcycle⟩

theorem ReachesCycle.of_step {b : α} (hstep : r a b) (h : ReachesCycle r b) : ReachesCycle r a := by
  obtain ⟨c, hreach, hcycle⟩ := h
  exact ⟨c, hreach.head hstep, hcycle⟩

/-- A walk that goes round in a circle takes a first step and still does. -/
theorem ReachesCycle.exists_step (h : ReachesCycle r a) : ∃ b, r a b ∧ ReachesCycle r b := by
  obtain ⟨c, hreach, hcycle⟩ := h
  rcases hreach.cases_head with rfl | ⟨b, hstep, hreach⟩
  · obtain ⟨b, hstep, hback⟩ := TransGen.head'_iff.mp hcycle
    exact ⟨b, hstep, a, hback, hcycle⟩
  · exact ⟨b, hstep, c, hreach, hcycle⟩

theorem iterate_reaches {step : α → α} (hstep : ∀ b, r b (step b)) (n : ℕ) (a : α) :
    ReflTransGen r a (step^[n] a) := by
  induction n generalizing a with
  | zero => exact .refl
  | succ n ih =>
    rw [Function.iterate_succ_apply]
    exact (ih (step a)).head (hstep a)

/-- **In a finite part that every step can stay in, a cycle is reached from everywhere.** -/
theorem reachesCycle_of_steps {nodes : List α} (hsteps : ∀ b ∈ nodes, ∃ c ∈ nodes, r b c)
    (ha : a ∈ nodes) : ReachesCycle r a := by
  classical
  -- walk on for ever inside the part; two places of the walk are the same
  let part := { b // b ∈ nodes.toFinset }
  have hnext : ∀ b : part, ∃ c : part, r b.1 c.1 := by
    rintro ⟨b, hb⟩
    obtain ⟨c, hc, hstep⟩ := hsteps b (List.mem_toFinset.mp hb)
    exact ⟨⟨c, List.mem_toFinset.mpr hc⟩, hstep⟩
  choose step hstep using hnext
  have hwalk : ∀ n (b : part), ReflTransGen r b.1 (step^[n] b).1 := fun n b =>
    (iterate_reaches (r := fun b c : part => r b.1 c.1) hstep n b).lift Subtype.val fun _ _ h => h
  obtain ⟨start, rfl⟩ : ∃ start : part, start.1 = a := ⟨⟨a, List.mem_toFinset.mpr ha⟩, rfl⟩
  obtain ⟨i, j, hij, hsame⟩ := Finite.exists_ne_map_eq_of_infinite fun n : ℕ => step^[n] start
  wlog hlt : i < j generalizing i j
  · exact this j i hij.symm hsame.symm (by omega)
  obtain ⟨k, rfl⟩ := Nat.exists_eq_add_of_lt hlt
  refine ⟨_, hwalk i start, ?_⟩
  have hround : step^[k] (step (step^[i] start)) = step^[i] start := by
    rw [← Function.iterate_succ_apply, ← Function.iterate_add_apply,
      show k.succ + i = i + k + 1 by omega]
    exact hsame.symm
  have hback := hwalk k (step (step^[i] start))
  rw [hround] at hback
  exact TransGen.head' (hstep _) hback

end OvcaCore.Graphs

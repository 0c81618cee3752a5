/-
Histories that grow at their end.

`Each R l` says that every entry of a history fits what is before it. One more entry only has
to fit the history so far (`each_snoc`); what is said of two entries of a history is said of
the later one. What is true behind a history and was not true before it has become true at one
of its entries (`exists_turn`).
-/
import Mathlib.Data.List.Induction
import Mathlib.Tactic.Common

set_option autoImplicit false

namespace OvcaCore.Histories

variable {α : Type} {R R' : List α → α → Prop} {l : List α}

/-- Every entry fits the entries before it. -/
def Each (R : List α → α → Prop) (l : List α) : Prop :=
  ∀ earlier e later, l = earlier ++ e :: later → R earlier e

@[simp] theorem each_nil : Each R [] := by
  intro earlier e later h
  cases earlier <;> cases h

theorem each_snoc {x : α} : Each R (l ++ [x]) ↔ Each R l ∧ R l x := by
  constructor
  · intro h
    refine ⟨fun earlier e later hl => ?_, h l x [] rfl⟩
    apply h earlier e (later ++ [x])
    rw [hl, List.append_assoc, List.cons_append]
  · rintro ⟨hl, hx⟩ earlier e later h
    -- the entry is the last one, or there is one behind it
    rcases List.eq_nil_or_concat later with rfl | ⟨rest, y, rfl⟩
    · obtain ⟨rfl, heq⟩ := List.append_inj' h rfl
      rw [← List.head_eq_of_cons_eq heq]
      exact hx
    · rw [List.concat_eq_append, ← List.cons_append, ← List.append_assoc] at h
      exact hl earlier e rest (List.append_inj' h rfl).1

theorem Each.mono (h : Each R l) (himp : ∀ earlier e, e ∈ l → R earlier e → R' earlier e) :
    Each R' l := by
  intro earlier e later hl
  apply himp earlier e ?_ (h earlier e later hl)
  rw [hl]
  simp

/-- An entry, with what is before it. -/
theorem Each.of_mem (h : Each R l) {e : α} (he : e ∈ l) :
    ∃ earlier later, l = earlier ++ e :: later ∧ R earlier e := by
  obtain ⟨earlier, later, hl⟩ := List.append_of_mem he
  exact ⟨earlier, later, hl, h earlier e later hl⟩

/-- Entries that exclude what is before them are in no two places. -/
theorem Each.pairwise {S : α → α → Prop} (h : Each (fun earlier e' => ∀ e ∈ earlier, S e e') l) :
    l.Pairwise S := by
  induction l using List.reverseRecOn with
  | nil => exact List.Pairwise.nil
  | append_singleton l x ih =>
    obtain ⟨hl, hx⟩ := each_snoc.mp h
    refine List.pairwise_append.mpr ⟨ih hl, List.pairwise_singleton S x, fun e he e' he' => ?_⟩
    rw [List.mem_singleton.mp he']
    exact hx e he

/-- Two entries that no history has one behind the other are one. -/
theorem Each.eq_of_mem {p : α → Prop} (h : Each (fun earlier e' => p e' → ∀ e ∈ earlier, ¬ p e) l)
    {e e' : α} (he : e ∈ l) (he' : e' ∈ l) (hp : p e) (hp' : p e') : e = e' := by
  induction l using List.reverseRecOn with
  | nil => cases he
  | append_singleton l x ih =>
    obtain ⟨hl, hx⟩ := each_snoc.mp h
    rcases List.mem_append.mp he with he | he
    · rcases List.mem_append.mp he' with he' | he'
      · exact ih hl he he'
      · rw [List.mem_singleton.mp he'] at hp'
        exact absurd hp (hx hp' e he)
    · rw [List.mem_singleton.mp he] at hp ⊢
      rcases List.mem_append.mp he' with he' | he'
      · exact absurd hp' (hx hp e' he')
      · exact (List.mem_singleton.mp he').symm

/-- The entry at which something has become true. -/
theorem exists_turn {β : Type} {f : β → α → β} {p : β → Prop} {b : β} (hbefore : ¬ p b)
    (hafter : p (l.foldl f b)) :
    ∃ earlier e later, l = earlier ++ e :: later ∧ ¬ p (earlier.foldl f b) ∧
      p (f (earlier.foldl f b) e) := by
  induction l using List.reverseRecOn with
  | nil => exact absurd hafter hbefore
  | append_singleton l x ih =>
    by_cases hp : p (l.foldl f b)
    · obtain ⟨earlier, e, later, rfl, hturn⟩ := ih hp
      exact ⟨earlier, e, later ++ [x], by simp, hturn⟩
    · refine ⟨l, x, [], rfl, hp, ?_⟩
      rw [List.foldl_append] at hafter
      exact hafter

end OvcaCore.Histories

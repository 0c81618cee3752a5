/-
Prefix codes.

A code writes a value as a list of symbols. It is a prefix code when what was written
and what follows can be told apart: the value and the rest are read off the whole list
(`PrefixCode`). Codes of fields, of records and of lists with separators and an end mark
are prefix codes again, so a format that is built from them writes no two values alike.
-/
import Mathlib.Data.List.Basic
import Mathlib.Logic.Function.Basic

set_option autoImplicit false

namespace OvcaCore.PrefixCodes

variable {α β γ δ : Type}

/-- Whatever follows, a value and its rest are read off what is written. -/
def PrefixCode (code : α → List δ) : Prop :=
  ∀ a b rest rest', code a ++ rest = code b ++ rest' → a = b ∧ rest = rest'

/-- No value is written so that it begins with the mark. -/
def Avoids (code : α → List δ) (mark : List δ) : Prop :=
  ∀ a rest rest', code a ++ rest ≠ mark ++ rest'

namespace PrefixCode

variable {code : α → List δ}

theorem injective (h : PrefixCode code) : Function.Injective code := fun a b hab =>
  (h a b [] [] (by rw [hab])).1

/-- A code with a reader. -/
theorem of_read {read : List δ → Option (α × List δ)}
    (hread : ∀ a rest, read (code a ++ rest) = some (a, rest)) : PrefixCode code := by
  intro a b rest rest' h
  have hboth := hread a rest
  rw [h, hread b rest'] at hboth
  obtain ⟨hvalue, hrest⟩ := Prod.mk.inj (Option.some.inj hboth)
  exact ⟨hvalue.symm, hrest.symm⟩

/-- Fixed symbols before and after. -/
theorem surround (h : PrefixCode code) (before after : List δ) :
    PrefixCode fun a => before ++ code a ++ after := by
  intro a b rest rest' heq
  simp only [List.append_assoc, List.append_cancel_left_eq] at heq
  obtain ⟨hvalue, hrest⟩ := h a b _ _ heq
  exact ⟨hvalue, List.append_cancel_left hrest⟩

/-- The code of the parts of a value, one after the other. -/
theorem append {first : α → β} {second : α → γ} {code₁ : β → List δ} {code₂ : γ → List δ}
    (h₁ : PrefixCode code₁) (h₂ : PrefixCode code₂)
    (hparts : ∀ a b, first a = first b → second a = second b → a = b) :
    PrefixCode fun a => code₁ (first a) ++ code₂ (second a) := by
  intro a b rest rest' heq
  simp only [List.append_assoc] at heq
  obtain ⟨hfirst, heq⟩ := h₁ _ _ _ _ heq
  obtain ⟨hsecond, hrest⟩ := h₂ _ _ _ _ heq
  exact ⟨hparts a b hfirst hsecond, hrest⟩

/-- A list of values up to an end mark. -/
theorem flatMap (h : PrefixCode code) {mark : List δ} (hmark : Avoids code mark) :
    PrefixCode fun as : List α => as.flatMap code ++ mark := by
  intro as bs rest rest' heq
  simp only [List.append_assoc] at heq
  induction as generalizing bs with
  | nil =>
    cases bs with
    | nil => exact ⟨rfl, List.append_cancel_left heq⟩
    | cons b bs =>
      rw [List.flatMap_cons, List.append_assoc] at heq
      exact absurd heq.symm (hmark b _ _)
  | cons a as ih =>
    cases bs with
    | nil =>
      rw [List.flatMap_cons, List.append_assoc] at heq
      exact absurd heq (hmark a _ _)
    | cons b bs =>
      rw [List.flatMap_cons, List.flatMap_cons, List.append_assoc, List.append_assoc] at heq
      obtain ⟨rfl, hthen⟩ := h a b _ _ heq
      obtain ⟨rfl, hrest⟩ := ih bs hthen
      exact ⟨rfl, hrest⟩

/-- The first value has no separator before it, the others have. -/
theorem intercalate_map_cons (separator : List δ) (a : α) (as : List α) :
    separator.intercalate ((a :: as).map code)
      = code a ++ as.flatMap fun b => separator ++ code b := by
  induction as generalizing a with
  | nil => simp
  | cons b as ih =>
    rw [List.map_cons, List.intercalate_cons_of_ne_nil (by simp), ih, List.flatMap_cons,
      List.append_assoc, List.append_assoc]

/-- A list of values with separators between them, up to an end mark. -/
theorem intercalate (h : PrefixCode code) {separator mark : List δ} (hmark : Avoids code mark)
    (hseparator : ∀ rest rest', separator ++ rest ≠ mark ++ rest') :
    PrefixCode fun as : List α => separator.intercalate (as.map code) ++ mark := by
  have hothers : PrefixCode fun as : List α =>
      (as.flatMap fun b => separator ++ code b) ++ mark := by
    have hcode := h.surround separator []
    simp only [List.append_nil] at hcode
    refine hcode.flatMap fun a rest rest' => ?_
    rw [List.append_assoc]
    exact hseparator _ rest'
  intro as bs rest rest' heq
  dsimp only at heq
  cases as with
  | nil =>
    cases bs with
    | nil => exact ⟨rfl, List.append_cancel_left heq⟩
    | cons b bs =>
      simp only [intercalate_map_cons, List.append_assoc, List.map_nil, List.intercalate_nil,
        List.nil_append] at heq
      exact absurd heq.symm (hmark b _ _)
  | cons a as =>
    cases bs with
    | nil =>
      simp only [intercalate_map_cons, List.append_assoc, List.map_nil, List.intercalate_nil,
        List.nil_append] at heq
      exact absurd heq (hmark a _ _)
    | cons b bs =>
      simp only [intercalate_map_cons, List.append_assoc] at heq
      obtain ⟨rfl, hthen⟩ := h a b _ _ heq
      obtain ⟨rfl, hrest⟩ := hothers as bs rest rest' (by
        simp only [List.append_assoc]
        exact hthen)
      exact ⟨rfl, hrest⟩

end PrefixCode

end OvcaCore.PrefixCodes

/-
Maps that accumulate maxima.

A contribution is a value and the keys it concerns; it raises the entry of each of
these keys to at least that value. However many contributions a map takes, in
whatever order, an entry is in the end the largest of where it began and of the
contributions that concern its key.
-/
import OvcaCore.Lib.OrderedMaps
import Mathlib.Order.Lattice
import Mathlib.Order.MinMax
import Mathlib.Order.BoundedOrder.Lattice

set_option autoImplicit false

open Std (ExtTreeMap TransCmp LawfulEqCmp)

namespace OvcaCore.Maxima

/-! ## The largest of a list -/

section Largest

variable {ν : Type} [LinearOrder ν] [OrderBot ν]

/-- The largest value of a list, and the bottom of the order when there is none. -/
def largest (values : List ν) : ν := values.foldr max ⊥

@[simp] theorem largest_nil : largest ([] : List ν) = ⊥ := rfl

@[simp] theorem largest_cons (v : ν) (values : List ν) :
    largest (v :: values) = max v (largest values) := rfl

theorem largest_append (values values' : List ν) :
    largest (values ++ values') = max (largest values) (largest values') := by
  induction values with
  | nil => rw [List.nil_append, largest_nil, max_bot_left]
  | cons v values ih => rw [List.cons_append, largest_cons, largest_cons, ih, max_assoc]

theorem le_largest {v : ν} {values : List ν} (hv : v ∈ values) : v ≤ largest values := by
  induction values with
  | nil => simp at hv
  | cons w values ih =>
    rw [largest_cons]
    rw [List.mem_cons] at hv
    by_cases h : v = w
    · rw [h]
      exact le_max_left _ _
    · exact le_trans (ih (hv.resolve_left h)) (le_max_right _ _)

theorem largest_le_iff {values : List ν} {b : ν} : largest values ≤ b ↔ ∀ v ∈ values, v ≤ b := by
  induction values with
  | nil => simp
  | cons w values ih => rw [largest_cons, max_le_iff, ih, List.forall_mem_cons]

/-- The largest value is one of the list, unless it is the bottom. -/
theorem largest_mem {values : List ν} (h : largest values ≠ ⊥) : largest values ∈ values := by
  induction values with
  | nil => exact absurd largest_nil h
  | cons w values ih =>
    rw [largest_cons] at h ⊢
    by_cases hle : largest values ≤ w
    · rw [max_eq_left hle]
      exact List.mem_cons_self
    · have hmax : max w (largest values) = largest values := max_eq_right (le_of_not_ge hle)
      rw [hmax] at h ⊢
      exact List.mem_cons_of_mem _ (ih h)

theorem largest_eq_bot_iff {values : List ν} : largest values = ⊥ ↔ ∀ v ∈ values, v = ⊥ := by
  constructor
  · intro h v hv
    exact le_bot_iff.mp (h ▸ le_largest hv)
  · intro h
    by_contra hne
    exact hne (h _ (largest_mem hne))

theorem largest_congr {values values' : List ν} (h : ∀ v, v ∈ values ↔ v ∈ values') :
    largest values = largest values' := by
  have hle : ∀ {l l' : List ν}, (∀ v, v ∈ l ↔ v ∈ l') → largest l ≤ largest l' := by
    intro l l' hl
    by_cases hbot : largest l = ⊥
    · rw [hbot]
      exact bot_le
    · exact le_largest ((hl _).mp (largest_mem hbot))
  exact le_antisymm (hle h) (hle fun v => (h v).symm)

end Largest

/-! ## Contributions -/

section Contributions

variable {κ ν : Type} {cmp : κ → κ → Ordering} [TransCmp cmp] [LawfulEqCmp cmp] [DecidableEq κ]
  [LinearOrder ν]

/-- Raises one entry; a key that has none gets the value. -/
def raise (v : ν) (m : ExtTreeMap κ ν cmp) (k : κ) : ExtTreeMap κ ν cmp :=
  m.insert k ((m[k]?).elim v fun current => max current v)

def raise_all (m : ExtTreeMap κ ν cmp) (keys : List κ) (v : ν) : ExtTreeMap κ ν cmp :=
  keys.foldl (raise v) m

theorem get_raise (v : ν) (m : ExtTreeMap κ ν cmp) (k k' : κ) :
    (raise v m k)[k']? = if k = k' then some ((m[k]?).elim v fun current => max current v)
      else m[k']? := by
  unfold raise
  rw [OrderedMaps.get_insert]

/-- Raising is idempotent, so that a key may be listed more than once. -/
theorem get_raise_all (m : ExtTreeMap κ ν cmp) (keys : List κ) (v : ν) (k : κ) :
    (raise_all m keys v)[k]? = if k ∈ keys then
      some ((m[k]?).elim v fun current => max current v) else m[k]? := by
  induction keys generalizing m with
  | nil => rfl
  | cons k' keys ih =>
    have hstep : raise_all m (k' :: keys) v = raise_all (raise v m k') keys v := rfl
    rw [hstep, ih, get_raise]
    by_cases hk : k' = k
    · subst hk
      have hagain : (some ((m[k']?).elim v fun current => max current v)).elim v
          (fun current => max current v) = (m[k']?).elim v fun current => max current v := by
        cases m[k']? with
        | none => exact max_self v
        | some current =>
          have hmax : max (max current v) v = max current v := by rw [max_assoc, max_self]
          exact hmax
      rw [if_pos rfl, hagain, ite_self, if_pos List.mem_cons_self]
    · rw [if_neg hk]
      have hiff : k ∈ k' :: keys ↔ k ∈ keys := by
        rw [List.mem_cons]
        exact ⟨fun h => h.resolve_left (Ne.symm hk), Or.inr⟩
      simp only [hiff]

theorem get_raise_all_of_some {m : ExtTreeMap κ ν cmp} {k : κ} {w : ν} (hw : m[k]? = some w)
    (keys : List κ) (v : ν) :
    (raise_all m keys v)[k]? = some (if k ∈ keys then max w v else w) := by
  rw [get_raise_all, hw]
  by_cases hk : k ∈ keys
  · rw [if_pos hk, if_pos hk]
    rfl
  · rw [if_neg hk, if_neg hk]

/-- Raising some of the keys first makes no difference. -/
theorem raise_all_raise_all (m : ExtTreeMap κ ν cmp) {keys keys' : List κ}
    (hsub : ∀ k ∈ keys, k ∈ keys') (v : ν) :
    raise_all (raise_all m keys v) keys' v = raise_all m keys' v := by
  apply ExtTreeMap.ext_getElem?
  intro k
  rw [get_raise_all, get_raise_all, get_raise_all]
  by_cases hk' : k ∈ keys'
  · rw [if_pos hk', if_pos hk']
    by_cases hk : k ∈ keys
    · rw [if_pos hk]
      cases m[k]? with
      | none => exact congrArg some (max_self v)
      | some current =>
        have hmax : max (max current v) v = max current v := by rw [max_assoc, max_self]
        exact congrArg some hmax
    · rw [if_neg hk]
  · have hk : k ∉ keys := fun hmem => hk' (hsub k hmem)
    rw [if_neg hk', if_neg hk', if_neg hk]

/-- The values of the contributions that concern a key. -/
def concerning (contributions : List (List κ × ν)) (k : κ) : List ν :=
  (contributions.filter fun c => decide (k ∈ c.1)).map Prod.snd

omit [LinearOrder ν] in
theorem mem_concerning {contributions : List (List κ × ν)} {k : κ} {v : ν} :
    v ∈ concerning contributions k ↔ ∃ c ∈ contributions, k ∈ c.1 ∧ c.2 = v := by
  unfold concerning
  simp only [List.mem_map, List.mem_filter, decide_eq_true_eq, and_assoc]

/-- A map after a list of contributions. -/
def contribute (m : ExtTreeMap κ ν cmp) (contributions : List (List κ × ν)) :
    ExtTreeMap κ ν cmp :=
  contributions.foldl (fun m c => raise_all m c.1 c.2) m

/-- **An entry is the largest of where it began and of the contributions to it.** -/
theorem get_contribute [OrderBot ν] {m : ExtTreeMap κ ν cmp} {k : κ} {w : ν}
    (hw : m[k]? = some w) (contributions : List (List κ × ν)) :
    (contribute m contributions)[k]? = some (max w (largest (concerning contributions k))) := by
  induction contributions generalizing m w with
  | nil =>
    have hnil : largest (concerning ([] : List (List κ × ν)) k) = ⊥ := rfl
    rw [hnil, max_bot_right]
    exact hw
  | cons c contributions ih =>
    have hstep : contribute m (c :: contributions)
        = contribute (raise_all m c.1 c.2) contributions := rfl
    rw [hstep, ih (get_raise_all_of_some hw c.1 c.2)]
    unfold concerning
    by_cases hk : k ∈ c.1
    · rw [List.filter_cons_of_pos (by simpa using hk), List.map_cons, largest_cons, if_pos hk,
        max_assoc]
    · rw [List.filter_cons_of_neg (by simpa using hk), if_neg hk]

omit [LawfulEqCmp cmp] [DecidableEq κ] in
theorem contribute_append (m : ExtTreeMap κ ν cmp)
    (contributions contributions' : List (List κ × ν)) :
    contribute m (contributions ++ contributions')
      = contribute (contribute m contributions) contributions' := List.foldl_append

end Contributions

end OvcaCore.Maxima

/-
Binary search over a list.

The search of Rust's slices: it compares the element in the middle of a window with what is
looked for, keeps one half of the window, without leaving early, and looks at the last element
that is left. What it finds is there, whatever the order of the list; what is there is found
when the list is sorted.
-/
import Mathlib.Data.List.Basic
import Mathlib.Order.Compare
import Mathlib.Order.Lattice

set_option autoImplicit false

namespace OvcaCore.BinarySearch

variable {α : Type} {compare : α → Ordering} {xs : List α}

/-- `while size > 1 { .. }`, which halves the window of `size` elements from `base` on; returns
the last `base`. The first argument bounds the number of rounds. -/
def narrow (compare : α → Ordering) (xs : List α) : ℕ → ℕ → ℕ → ℕ
  | 0, base, _ => base
  | rounds + 1, base, size =>
    if size ≤ 1 then base
    else
      let half := size / 2
      let mid := base + half
      if xs[mid]?.map compare = some .gt then narrow compare xs rounds base (size - half)
      else narrow compare xs rounds mid (size - half)

/-- `xs.binary_search_by(compare)`: where an element is for which `compare` answers equal, or
where one could be inserted. -/
def binary_search_by (compare : α → Ordering) (xs : List α) : Except ℕ ℕ :=
  let base := narrow compare xs xs.length 0 xs.length
  match xs[base]?.map compare with
  | some .eq => .ok base
  | some .lt => .error (base + 1)
  | _ => .error base

/-- **What is found is there.** -/
theorem of_binary_search {i : ℕ} (h : binary_search_by compare xs = .ok i) :
    ∃ x, xs[i]? = some x ∧ compare x = .eq := by
  unfold binary_search_by at h
  simp only at h
  split at h
  · rename_i hfound
    rw [← Except.ok.inj h]
    exact Option.map_eq_some_iff.mp hfound
  · exact nomatch h
  · exact nomatch h

/-- The elements are sorted as `compare` sees them: first the smaller ones, then the equal ones,
then the greater ones. -/
def Partitioned (compare : α → Ordering) (xs : List α) : Prop :=
  xs.Pairwise fun x y => (compare y = .lt → compare x = .lt) ∧ (compare x = .gt → compare y = .gt)

theorem Partitioned.get (h : Partitioned compare xs) {i j : ℕ} {x y : α} (hij : i < j)
    (hx : xs[i]? = some x) (hy : xs[j]? = some y) :
    (compare y = .lt → compare x = .lt) ∧ (compare x = .gt → compare y = .gt) := by
  obtain ⟨hi, rfl⟩ := List.getElem?_eq_some_iff.mp hx
  obtain ⟨hj, rfl⟩ := List.getElem?_eq_some_iff.mp hy
  exact List.pairwise_iff_getElem.mp h i j hi hj hij

/-- A window with an element that compares equal is narrowed to one. -/
theorem narrow_found (hsorted : Partitioned compare xs) {rounds base size : ℕ}
    (hrounds : size ≤ rounds + 1) (hbounds : base + size ≤ xs.length)
    (hwindow : ∃ k x, base ≤ k ∧ k < base + size ∧ xs[k]? = some x ∧ compare x = .eq) :
    ∃ x, xs[narrow compare xs rounds base size]? = some x ∧ compare x = .eq := by
  induction rounds generalizing base size with
  | zero =>
    obtain ⟨k, x, hle, hlt, hx, heq⟩ := hwindow
    obtain rfl : k = base := by omega
    exact ⟨x, hx, heq⟩
  | succ rounds ih =>
    obtain ⟨k, x, hle, hlt, hx, heq⟩ := hwindow
    unfold narrow
    by_cases hsmall : size ≤ 1
    · rw [if_pos hsmall]
      obtain rfl : k = base := by omega
      exact ⟨x, hx, heq⟩
    · rw [if_neg hsmall]
      simp only
      have hrest : size - size / 2 ≤ rounds + 1 := by omega
      by_cases hmid : xs[base + size / 2]?.map compare = some .gt
      · -- the middle is greater, so the equal element is before it
        rw [if_pos hmid]
        obtain ⟨y, hy, hgreater⟩ := Option.map_eq_some_iff.mp hmid
        have hbefore : k < base + size / 2 := by
          rcases Nat.lt_trichotomy k (base + size / 2) with hlt' | rfl | hgt
          · exact hlt'
          · rw [hy, Option.some_inj] at hx
            rw [hx, heq] at hgreater
            exact nomatch hgreater
          · have hgt := (hsorted.get hgt hy hx).2 hgreater
            rw [heq] at hgt
            exact nomatch hgt
        exact ih hrest (by omega) ⟨k, x, hle, by omega, hx, heq⟩
      · rw [if_neg hmid]
        by_cases hafter : base + size / 2 ≤ k
        · exact ih hrest (by omega) ⟨k, x, hafter, by omega, hx, heq⟩
        · -- the equal element is before the middle, so the middle is equal as well
          have hy := List.getElem?_eq_getElem (show base + size / 2 < xs.length by omega)
          refine ih hrest (by omega) ⟨base + size / 2, _, Nat.le_refl _, by omega, hy, ?_⟩
          cases hanswer : compare xs[base + size / 2] with
          | eq => rfl
          | lt =>
            have hlt' := (hsorted.get (Nat.lt_of_not_le hafter) hx hy).1 hanswer
            rw [heq] at hlt'
            exact nomatch hlt'
          | gt =>
            rw [hy, Option.map_some, hanswer] at hmid
            exact absurd rfl hmid

/-- **What is there is found**, in a list that is sorted. -/
theorem binary_search_of_mem (hsorted : Partitioned compare xs) {x : α} (hmem : x ∈ xs)
    (heq : compare x = .eq) : ∃ i, binary_search_by compare xs = .ok i := by
  obtain ⟨k, hk⟩ := List.mem_iff_getElem?.mp hmem
  obtain ⟨hlt, -⟩ := List.getElem?_eq_some_iff.mp hk
  obtain ⟨y, hy, heq'⟩ := @narrow_found _ _ _ hsorted xs.length 0 xs.length (Nat.le_succ _)
    (by omega) ⟨k, x, Nat.zero_le k, by omega, hk, heq⟩
  refine ⟨narrow compare xs xs.length 0 xs.length, ?_⟩
  unfold binary_search_by
  simp only [hy, Option.map_some, heq']

/-! ## In an order -/

section Ordered

variable [LinearOrder α]

/-- `xs.binary_search(x)`. -/
def binary_search (xs : List α) (x : α) : Except ℕ ℕ := binary_search_by (cmp · x) xs

/-- `xs.binary_search(x).is_ok()`. -/
def found (xs : List α) (x : α) : Bool := (binary_search xs x).toBool

theorem mem_of_found {x : α} (h : found xs x = true) : x ∈ xs := by
  unfold found at h
  cases hsearch : binary_search xs x with
  | error i =>
    rw [hsearch] at h
    exact nomatch h
  | ok i =>
    obtain ⟨y, hy, heq⟩ := of_binary_search hsearch
    rw [cmp_eq_eq_iff] at heq
    exact heq ▸ List.mem_of_getElem? hy

theorem partitioned_of_sorted (hsorted : xs.Pairwise (· ≤ ·)) (x : α) :
    Partitioned (cmp · x) xs := by
  refine hsorted.imp fun {a b} hab => ?_
  dsimp only
  rw [cmp_eq_lt_iff, cmp_eq_lt_iff, cmp_eq_gt_iff, cmp_eq_gt_iff]
  exact ⟨lt_of_le_of_lt hab, fun ha => lt_of_lt_of_le ha hab⟩

/-- **Binary search decides membership in a sorted list.** -/
theorem found_iff (hsorted : xs.Pairwise (· ≤ ·)) {x : α} : found xs x = true ↔ x ∈ xs := by
  refine ⟨mem_of_found, fun hmem => ?_⟩
  obtain ⟨i, hi⟩ := binary_search_of_mem (partitioned_of_sorted hsorted x) hmem (cmp_self_eq_eq x)
  unfold found binary_search
  rw [hi]
  rfl

end Ordered

end OvcaCore.BinarySearch

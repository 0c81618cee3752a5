/-
Ordered maps and sets with a lawful comparison, in the terms proofs use them:
lookups by equality of keys instead of `compare _ _ = .eq`.
-/
import Mathlib.Data.List.Nodup
import Mathlib.Data.List.Pairwise
import Mathlib.Data.List.Perm.Subperm
import Mathlib.Tactic.Common
import Std.Data.ExtTreeMap
import Std.Data.ExtTreeSet

set_option autoImplicit false

open Std

namespace OvcaCore.OrderedMaps

variable {κ ν : Type} {cmp : κ → κ → Ordering} [TransCmp cmp] [LawfulEqCmp cmp]

/-! ## Maps -/

theorem get_insert [DecidableEq κ] (m : ExtTreeMap κ ν cmp) (k a : κ) (v : ν) :
    (m.insert k v)[a]? = if k = a then some v else m[a]? := by
  rw [ExtTreeMap.getElem?_insert]
  simp only [LawfulEqCmp.compare_eq_iff_eq]

theorem get_insert_of_ne (m : ExtTreeMap κ ν cmp) {k a : κ} (v : ν) (h : k ≠ a) :
    (m.insert k v)[a]? = m[a]? := by
  rw [ExtTreeMap.getElem?_insert, if_neg (by simpa only [LawfulEqCmp.compare_eq_iff_eq] using h)]

theorem get_filter_eq_some {m : ExtTreeMap κ ν cmp} {f : κ → ν → Bool} {k : κ} {v : ν} :
    (m.filter f)[k]? = some v ↔ m[k]? = some v ∧ f k v = true := by
  rw [ExtTreeMap.getElem?_filter', Option.filter_eq_some_iff]

theorem get_map_eq_some {ω : Type} {m : ExtTreeMap κ ν cmp} {f : κ → ν → ω} {k : κ} {w : ω} :
    (m.map f)[k]? = some w ↔ ∃ v, m[k]? = some v ∧ f k v = w := by
  rw [ExtTreeMap.getElem?_map, Option.map_eq_some_iff]

omit [LawfulEqCmp cmp] in
theorem mem_iff_get {m : ExtTreeMap κ ν cmp} {k : κ} : k ∈ m ↔ ∃ v, m[k]? = some v := by
  rw [ExtTreeMap.mem_iff_isSome_getElem?, Option.isSome_iff_exists]

/-- Two maps with the same entries are equal. -/
theorem ext_get {m n : ExtTreeMap κ ν cmp}
    (h : ∀ (k : κ) (v : ν), m[k]? = some v ↔ n[k]? = some v) : m = n :=
  ExtTreeMap.ext_getElem? fun k => Option.ext (h k)

/-- The keys listed by a map are pairwise different. -/
theorem keys_nodup (m : ExtTreeMap κ ν cmp) : (m.toList.map Prod.fst).Nodup := by
  have h := ExtTreeMap.distinct_keys_toList (t := m)
  rw [List.Nodup, List.pairwise_map]
  exact h.imp fun hne heq => hne (LawfulEqCmp.compare_eq_iff_eq.mpr heq)

/-- A map collected from a list with one entry a key has exactly the entries
of the list. -/
theorem get_ofList_eq_some [DecidableEq κ] {l : List (κ × ν)} (hl : (l.map Prod.fst).Nodup) {k : κ} {v : ν} :
    (ExtTreeMap.ofList l cmp)[k]? = some v ↔ (k, v) ∈ l := by
  have hd : l.Pairwise (fun a b => ¬ cmp a.1 b.1 = .eq) := by
    rw [List.Nodup, List.pairwise_map] at hl
    exact hl.imp fun hne heq => hne (LawfulEqCmp.compare_eq_iff_eq.mp heq)
  constructor
  · intro h
    have hmem : k ∈ ExtTreeMap.ofList l cmp := mem_iff_get.mpr ⟨v, h⟩
    rw [ExtTreeMap.mem_ofList, List.contains_iff_mem] at hmem
    obtain ⟨⟨a, w⟩, hw, rfl⟩ := List.mem_map.mp hmem
    have := ExtTreeMap.getElem?_ofList_of_mem (ReflCmp.compare_self (a := a)) hd hw
    rw [this, Option.some_inj] at h
    exact h ▸ hw
  · intro h
    exact ExtTreeMap.getElem?_ofList_of_mem ReflCmp.compare_self hd h

/-- What a loop of insertions into an empty map has under a key is from one of them. -/
theorem get_foldl_insert [DecidableEq κ] {α : Type} (key : α → κ) (value : α → ν) {xs : List α}
    {k : κ} {v : ν}
    (h : (xs.foldl (fun m x => m.insert (key x) (value x)) (∅ : ExtTreeMap κ ν cmp))[k]?
      = some v) : ∃ x ∈ xs, key x = k ∧ value x = v := by
  have hfold : ∀ (xs : List α) (m : ExtTreeMap κ ν cmp),
      (xs.foldl (fun m x => m.insert (key x) (value x)) m)[k]? = some v →
        m[k]? = some v ∨ ∃ x ∈ xs, key x = k ∧ value x = v := by
    intro xs
    induction xs with
    | nil => exact fun m h => Or.inl h
    | cons x xs ih =>
      intro m h
      rcases ih _ h with h | ⟨found, hmem, hfound⟩
      · rw [get_insert] at h
        by_cases hkey : key x = k
        · rw [if_pos hkey, Option.some_inj] at h
          exact Or.inr ⟨x, List.mem_cons_self, hkey, h⟩
        · rw [if_neg hkey] at h
          exact Or.inl h
      · exact Or.inr ⟨found, List.mem_cons_of_mem _ hmem, hfound⟩
  rcases hfold xs ∅ h with hempty | hfound
  · exact absurd hempty (by simp)
  · exact hfound

omit [TransCmp cmp] [LawfulEqCmp cmp] in
/-- Values found under different keys, which they know, have different keys. -/
theorem filterMap_keys_nodup {α : Type} {key : α → κ} {f : κ → Option α}
    (hf : ∀ k a, f k = some a → key a = k) {keys : List κ} (h : keys.Nodup) :
    ((keys.filterMap f).map key).Nodup := by
  induction keys with
  | nil => exact List.nodup_nil
  | cons k keys ih =>
    rw [List.nodup_cons] at h
    cases hk : f k with
    | none =>
      rw [List.filterMap_cons_none hk]
      exact ih h.2
    | some a =>
      rw [List.filterMap_cons_some hk, List.map_cons, List.nodup_cons]
      refine ⟨?_, ih h.2⟩
      intro hmem
      obtain ⟨b, hb, hkey⟩ := List.mem_map.mp hmem
      obtain ⟨k', hk', hfound⟩ := List.mem_filterMap.mp hb
      rw [hf k' b hfound, hf k a hk] at hkey
      rw [hkey] at hk'
      exact h.1 hk'

/-- Renaming keys injectively renames the lookups, also where later entries replace earlier
ones. -/
theorem get_insertMany_rename {κ' : Type} {cmp' : κ' → κ' → Ordering} [TransCmp cmp']
    [LawfulEqCmp cmp'] [DecidableEq κ] [DecidableEq κ'] {f : κ → κ'} (hf : Function.Injective f)
    {l : List (κ × ν)} {m : ExtTreeMap κ ν cmp} {m' : ExtTreeMap κ' ν cmp'}
    (hm : ∀ k, m'[f k]? = m[k]?) (k : κ) :
    (m'.insertMany (l.map fun p => (f p.1, p.2)))[f k]? = (m.insertMany l)[k]? := by
  induction l generalizing m m' with
  | nil => exact hm k
  | cons p l ih =>
    rw [List.map_cons, ExtTreeMap.insertMany_cons, ExtTreeMap.insertMany_cons]
    refine ih fun a => ?_
    rw [get_insert, get_insert, hm]
    simp only [hf.eq_iff]

theorem get_ofList_rename {κ' : Type} {cmp' : κ' → κ' → Ordering} [TransCmp cmp']
    [LawfulEqCmp cmp'] [DecidableEq κ] [DecidableEq κ'] {f : κ → κ'} (hf : Function.Injective f)
    (l : List (κ × ν)) (k : κ) :
    (ExtTreeMap.ofList (l.map fun p => (f p.1, p.2)) cmp')[f k]? = (ExtTreeMap.ofList l cmp)[k]? := by
  rw [ExtTreeMap.ofList_eq_insertMany_empty, ExtTreeMap.ofList_eq_insertMany_empty]
  apply get_insertMany_rename hf
  intro a
  rw [ExtTreeMap.getElem?_empty, ExtTreeMap.getElem?_empty]

theorem mem_keys_iff {m : ExtTreeMap κ ν cmp} {k : κ} : k ∈ m.keys ↔ ∃ v, m[k]? = some v := by
  rw [ExtTreeMap.mem_keys, mem_iff_get]

/-- A map whose keys are all in a list is no larger than the list. -/
theorem size_le_of_keys {m : ExtTreeMap κ ν cmp} {ks : List κ}
    (h : ∀ k v, m[k]? = some v → k ∈ ks) : m.size ≤ ks.length := by
  rw [← ExtTreeMap.length_keys]
  refine (List.Nodup.subperm ExtTreeMap.nodup_keys ?_).length_le
  intro k hk
  obtain ⟨v, hv⟩ := mem_keys_iff.mp hk
  exact h k v hv

/-! ## Sets -/

/-- Two sets with the same members are equal. -/
theorem set_ext {s t : ExtTreeSet κ cmp} (h : ∀ k, k ∈ s ↔ k ∈ t) : s = t :=
  ExtTreeSet.ext_mem h

/-- The members listed by a set are pairwise different. -/
theorem set_nodup (s : ExtTreeSet κ cmp) : s.toList.Nodup :=
  ExtTreeSet.distinct_toList.imp fun hne heq => hne (LawfulEqCmp.compare_eq_iff_eq.mpr heq)

theorem mem_set_ofList [DecidableEq κ] {l : List κ} {k : κ} :
    k ∈ ExtTreeSet.ofList l cmp ↔ k ∈ l := by
  rw [ExtTreeSet.mem_ofList, List.contains_iff_mem]

theorem set_isEmpty_iff {s : ExtTreeSet κ cmp} : s.isEmpty = true ↔ ∀ k, k ∉ s := by
  rw [← ExtTreeSet.isEmpty_toList, List.isEmpty_iff, List.eq_nil_iff_forall_not_mem]
  simp only [ExtTreeSet.mem_toList]

/-- A set has as many elements as the list it is made of iff that has no duplicates. -/
theorem size_ofList_iff [DecidableEq κ] {l : List κ} :
    (ExtTreeSet.ofList l cmp).size = l.length ↔ l.Nodup := by
  constructor
  · intro hsize
    have hsub : (ExtTreeSet.ofList l cmp).toList ⊆ l :=
      fun k hk => mem_set_ofList.mp (ExtTreeSet.mem_toList.mp hk)
    have hlength : l.length ≤ (ExtTreeSet.ofList l cmp).toList.length :=
      Nat.le_of_eq (ExtTreeSet.length_toList.trans hsize).symm
    have hperm := (List.subperm_of_subset (set_nodup _) hsub).perm_of_length_le hlength
    exact hperm.nodup_iff.mp (set_nodup _)
  · intro hnodup
    exact ExtTreeSet.size_ofList (hnodup.imp fun hne heq =>
      hne (LawfulEqCmp.compare_eq_iff_eq.mp heq))

theorem size_le_of_subset {s : ExtTreeSet κ cmp} {l : List κ} (h : ∀ k ∈ s, k ∈ l) :
    s.size ≤ l.length := by
  rw [← ExtTreeSet.length_toList]
  exact (List.subperm_of_subset (set_nodup s) fun k hk =>
    h k (ExtTreeSet.mem_toList.mp hk)).length_le

theorem size_le_of_set_subset {s t : ExtTreeSet κ cmp} (h : ∀ k ∈ s, k ∈ t) :
    s.size ≤ t.size := by
  rw [← ExtTreeSet.length_toList (t := t)]
  exact size_le_of_subset fun k hk => ExtTreeSet.mem_toList.mpr (h k hk)

/-- A set and a part of it that is as large have the same members. -/
theorem mem_iff_of_size_eq {s t : ExtTreeSet κ cmp} (h : ∀ k ∈ s, k ∈ t) (hsize : s.size = t.size)
    {k : κ} : k ∈ s ↔ k ∈ t := by
  have hsub := List.subperm_of_subset (set_nodup s) fun k hk =>
    ExtTreeSet.mem_toList.mpr (h k (ExtTreeSet.mem_toList.mp hk))
  have hlength : t.toList.length ≤ s.toList.length :=
    Nat.le_of_eq (by rw [ExtTreeSet.length_toList, ExtTreeSet.length_toList, hsize])
  rw [← ExtTreeSet.mem_toList, ← ExtTreeSet.mem_toList]
  exact (hsub.perm_of_length_le hlength).mem_iff

end OvcaCore.OrderedMaps

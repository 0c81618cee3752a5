/-
Slots whose rows are named by the tokens of an allocator.

A slot holds at most one row. The token of a row has a generation, and the allocator of
the slot remembers the last token after the row is gone. A row is assigned under a fresh
generation, selected again under the token that the allocator remembers, or removed.
Along such steps the allocator never goes back, so that a generation names one token.
-/
import OvcaCore.Lib.Checks

set_option autoImplicit false

namespace OvcaCore.Slots

structure Slot (ρ τ : Type) where
  current : Option ρ
  allocator : Option τ

variable {ρ τ : Type} (token : ρ → τ) (generation : τ → ℕ)

inductive Step : Slot ρ τ → Slot ρ τ → Prop where
  | keep (slot : Slot ρ τ) : Step slot slot
  | assign (slot : Slot ρ τ) (row : ρ)
    (h : ∀ last, slot.allocator = some last → generation last < generation (token row)) :
    Step slot ⟨some row, some (token row)⟩
  | select_again (slot : Slot ρ τ) (row : ρ) (h : slot.allocator = some (token row)) :
    Step slot ⟨some row, some (token row)⟩
  | remove (slot : Slot ρ τ) : Step slot ⟨none, slot.allocator⟩

/-- The allocator holds the token of the row. -/
def Matches (slot : Slot ρ τ) : Prop :=
  ∀ row, slot.current = some row → slot.allocator = some (token row)

/-- The allocator of the second slot is that of the first one, or has moved on. -/
def Before (slot slot' : Slot ρ τ) : Prop :=
  ∀ last, slot.allocator = some last →
    ∃ last', slot'.allocator = some last' ∧ (last = last' ∨ generation last < generation last')

variable {token generation} {slot slot' slot'' : Slot ρ τ} {row row' : ρ}

theorem Before.refl (slot : Slot ρ τ) : Before generation slot slot := by
  intro last hlast
  exact ⟨last, hlast, Or.inl rfl⟩

theorem Before.trans (h : Before generation slot slot') (h' : Before generation slot' slot'') :
    Before generation slot slot'' := by
  intro last hlast
  obtain ⟨last', hlast', hle⟩ := h last hlast
  obtain ⟨last'', hlast'', hle'⟩ := h' last' hlast'
  refine ⟨last'', hlast'', ?_⟩
  rcases hle with rfl | hlt
  · exact hle'
  · rcases hle' with rfl | hlt'
    · exact Or.inr hlt
    · exact Or.inr (Nat.lt_trans hlt hlt')

theorem Step.matches (h : Step token generation slot slot') (hslot : Matches token slot) :
    Matches token slot' := by
  cases h with
  | keep => exact hslot
  | assign row h =>
    intro row' hrow'
    rw [Option.some.inj hrow']
  | select_again row h =>
    intro row' hrow'
    rw [Option.some.inj hrow']
  | remove =>
    intro row' hrow'
    exact absurd hrow' (by simp)

theorem Step.before (h : Step token generation slot slot') : Before generation slot slot' := by
  cases h with
  | keep => exact Before.refl slot
  | assign row h =>
    intro last hlast
    exact ⟨_, rfl, Or.inr (h last hlast)⟩
  | select_again row h =>
    intro last hlast
    rw [h, Option.some_inj] at hlast
    exact ⟨_, rfl, Or.inl hlast.symm⟩
  | remove => exact Before.refl slot

/-- **A generation names one token.** -/
theorem token_unique (h : Before generation slot slot') (hslot : Matches token slot)
    (hslot' : Matches token slot') (hrow : slot.current = some row)
    (hrow' : slot'.current = some row') :
    generation (token row) ≤ generation (token row')
      ∧ (generation (token row) = generation (token row') → token row = token row') := by
  obtain ⟨last', hlast', hle⟩ := h _ (hslot row hrow)
  rw [hslot' row' hrow', Option.some_inj] at hlast'
  rw [← hlast'] at hle
  rcases hle with heq | hlt
  · rw [heq]
    exact ⟨Nat.le_refl _, fun _ => rfl⟩
  · refine ⟨Nat.le_of_lt hlt, ?_⟩
    intro hsame
    omega

/-- A row that a step brings is fresh, unless the allocator remembers its token. -/
theorem Step.fresh (h : Step token generation slot slot') (hslot' : slot'.current = some row)
    (hne : slot'.current ≠ slot.current) :
    (∀ last, slot.allocator = some last → generation last < generation (token row))
      ∨ slot.allocator = some (token row) := by
  cases h with
  | keep => exact absurd rfl hne
  | assign row' h =>
    obtain rfl : row' = row := Option.some.inj hslot'
    exact Or.inl h
  | select_again row' h =>
    obtain rfl : row' = row := Option.some.inj hslot'
    exact Or.inr h
  | remove => exact absurd hslot' (by simp)

variable (token generation) in
/-- The slots are the same, or a row was assigned under a fresh generation. -/
def Assigns (slot slot' : Slot ρ τ) : Prop :=
  slot' = slot ∨ ∃ row, slot' = ⟨some row, some (token row)⟩
    ∧ ∀ last, slot.allocator = some last → generation last < generation (token row)

theorem Assigns.step (h : Assigns token generation slot slot') :
    Step token generation slot slot' := by
  rcases h with rfl | ⟨row, rfl, hfresh⟩
  · exact .keep slot'
  · exact .assign slot row hfresh

variable (token generation) in
/-- The row is in the second slot, under a token that may follow that of the first one. -/
def Selects (row : ρ) (slot slot' : Slot ρ τ) : Prop :=
  slot' = ⟨some row, some (token row)⟩ ∧ ∀ last, slot.allocator = some last →
    generation last < generation (token row) ∨ last = token row

/-- A selection is a step, whatever row was there. -/
theorem Selects.step (h : Selects token generation row slot slot')
    (hallocator : slot''.allocator = slot.allocator) : Step token generation slot'' slot' := by
  obtain ⟨rfl, hlast⟩ := h
  rw [← hallocator] at hlast
  by_cases hsame : slot''.allocator = some (token row)
  · exact .select_again slot'' row hsame
  · refine .assign slot'' row ?_
    intro last hlast'
    rcases hlast last hlast' with hlt | heq
    · exact hlt
    · rw [heq] at hlast'
      exact absurd hlast' hsame

/-- A loop that selects one row after the other, for different keys. -/
theorem fold_selects {κ σ α ε : Type} {f : σ → α → Except ε σ} (key : α → κ) (row : α → ρ)
    (slots : σ → κ → Slot ρ τ)
    (hf : ∀ s a s', f s a = .ok s' →
      Selects token generation (row a) (slots s (key a)) (slots s' (key a))
        ∧ ∀ k, k ≠ key a → slots s' k = slots s k)
    {s s' : σ} {xs : List α} (hkeys : (xs.map key).Nodup)
    (h : Checks.fold_checked f s xs = .ok s') :
    (∀ a ∈ xs, Selects token generation (row a) (slots s (key a)) (slots s' (key a)))
      ∧ ∀ k, k ∉ xs.map key → slots s' k = slots s k := by
  induction xs generalizing s with
  | nil =>
    obtain rfl : s = s' := Except.ok.inj h
    exact ⟨fun a ha => absurd ha List.not_mem_nil, fun _ _ => rfl⟩
  | cons x xs ih =>
    obtain ⟨c, hstep, hrest⟩ := Checks.fold_checked_cons_eq_ok.mp h
    rw [List.map_cons, List.nodup_cons] at hkeys
    obtain ⟨hselects, hothers⟩ := hf s x c hstep
    obtain ⟨hlater, hkept⟩ := ih hkeys.2 hrest
    refine ⟨?_, ?_⟩
    · intro a ha
      rcases List.mem_cons.mp ha with rfl | ha
      · rw [hkept _ hkeys.1]
        exact hselects
      · have hne : key a ≠ key x := by
          intro heq
          rw [← heq] at hkeys
          exact hkeys.1 (List.mem_map_of_mem ha)
        rw [← hothers _ hne]
        exact hlater a ha
    · intro k hk
      rw [List.map_cons, List.mem_cons, not_or] at hk
      rw [hkept k hk.2, hothers k hk.1]

end OvcaCore.Slots

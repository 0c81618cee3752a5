/-
Programs that end within a number of their own operations, whatever they are answered.

The bound of a program is put together from those of its parts. Under a schedule it is one on
how often the caller has to be scheduled: nobody can keep it from ending (`runEvents_done`).
-/
import OvcaCore.Lib.Crashes

set_option autoImplicit false

namespace OvcaCore.Interleaving

variable {ι σ Op : Type} {Ans : Op → Type} {ε α β : Type}

namespace Prog

/-- The program ends after at most so many operations. -/
def Within : ℕ → Prog Op Ans ε α → Prop
  | _, .done _ => True
  | 0, .op _ _ => False
  | n + 1, .op _ next => ∀ a, (next a).Within n

variable {m n : ℕ}

@[simp] theorem within_done (r : Except ε α) : (Prog.done r : Prog Op Ans ε α).Within n := by
  cases n <;> trivial

@[simp] theorem within_pure (a : α) : (pure a : Prog Op Ans ε α).Within n := within_done _

@[simp] theorem within_fail (e : ε) : (fail e : Prog Op Ans ε α).Within n := within_done _

theorem within_op {o : Op} {next : Ans o → Prog Op Ans ε α} (h : ∀ a, (next a).Within n) :
    (Prog.op o next).Within (n + 1) := h

theorem Within.mono {p : Prog Op Ans ε α} (h : p.Within m) (hmn : m ≤ n) : p.Within n := by
  induction p generalizing m n with
  | done r => exact within_done r
  | op o next ih =>
    cases m with
    | zero => exact h.elim
    | succ m =>
      obtain ⟨n, rfl⟩ := Nat.exists_eq_add_of_le' (Nat.lt_of_lt_of_le (Nat.succ_pos m) hmn)
      exact within_op fun a => ih a (h a) (Nat.le_of_succ_le_succ hmn)

/-- The bounds of a sequence add up. -/
theorem Within.bind {p : Prog Op Ans ε α} {f : α → Prog Op Ans ε β} (h : p.Within m)
    (hf : ∀ a, (f a).Within n) : (p >>= f).Within (m + n) := by
  induction p generalizing m with
  | done r =>
    cases r with
    | error e => exact within_done _
    | ok a => exact (hf a).mono (Nat.le_add_left n m)
  | op o next ih =>
    cases m with
    | zero => exact h.elim
    | succ m =>
      rw [op_bind, Nat.succ_add]
      exact within_op fun a => ih a (h a)

/-- What comes behind without an operation of its own does not count. -/
theorem Within.bind_still {p : Prog Op Ans ε α} {f : α → Prog Op Ans ε β} (h : p.Within n)
    (hf : ∀ a, (f a).Within 0) : (p >>= f).Within n := h.bind hf

/-- A check is no operation. -/
theorem within_check_bind {r : Except ε α} {f : α → Prog Op Ans ε β}
    (h : ∀ a, r = .ok a → (f a).Within n) : (Prog.done r >>= f).Within n := by
  cases r with
  | error e => exact within_done _
  | ok a => exact h a rfl

theorem Within.attempt {p : Prog Op Ans ε α} (h : p.Within n) : p.attempt.Within n := by
  induction p generalizing n with
  | done r => exact within_done _
  | op o next ih =>
    cases n with
    | zero => exact h.elim
    | succ n => exact within_op fun a => ih a (h a)

theorem Within.embed {Op' : Type} {Ans' : Op' → Type} {ε' : Type} {f : Op → Op'}
    {back : ∀ o, Ans' (f o) → Ans o} {g : ε → ε'} {p : Prog Op Ans ε α} (h : p.Within n) :
    (p.embed f back g).Within n := by
  induction p generalizing n with
  | done r => exact within_done _
  | op o next ih =>
    cases n with
    | zero => exact h.elim
    | succ n => exact within_op fun a => ih (back o a) (h (back o a))

end Prog

/-! ## Schedules -/

section Schedules

variable [DecidableEq ι] {sem : ι → (o : Op) → σ → Ans o × σ} {release : ι → σ → σ} {stopped : ε}
  {c : System ι σ Op Ans ε α} {i : ι} {n : ℕ}

/-- The turn of a caller brings it nearer to its end, and no turn takes it away from it. -/
theorem handle_within (h : (c.callers i).Within n) (event : Event ι) :
    ((c.handle sem release stopped event).callers i).Within
      (n - if event = .step i then 1 else 0) := by
  cases event with
  | step j =>
    simp only [System.handle, System.step, Event.step.injEq]
    cases hj : c.callers j with
    | done r =>
      by_cases hji : j = i
      · rw [← hji, hj]
        exact Prog.within_done r
      · rw [if_neg hji, Nat.sub_zero]
        exact h
    | op o next =>
      dsimp only
      by_cases hji : j = i
      · rw [← hji, hj] at h
        rw [← hji, Function.update_self]
        cases n with
        | zero => exact h.elim
        | succ n =>
          rw [if_pos rfl, Nat.add_sub_cancel]
          exact h _
      · rw [if_neg hji, Nat.sub_zero, Function.update_of_ne (Ne.symm hji)]
        exact h
  | crash j =>
    simp only [System.handle, System.crash]
    rw [if_neg (by simp), Nat.sub_zero]
    cases hj : c.callers j with
    | done r => exact h
    | op o next =>
      dsimp only
      by_cases hji : j = i
      · rw [← hji, Function.update_self]
        exact Prog.within_done _
      · rw [Function.update_of_ne (Ne.symm hji)]
        exact h

theorem runEvents_within (h : (c.callers i).Within n) (events : List (Event ι)) :
    ((c.runEvents sem release stopped events).callers i).Within (n - events.count (.step i)) := by
  induction events generalizing c n with
  | nil => exact h
  | cons event events ih =>
    have hnext : ((c.handle sem release stopped event).callers i).Within _ := handle_within h event
    apply (ih hnext).mono
    rw [List.count_cons]
    by_cases hevent : event = .step i
    · rw [if_pos hevent, if_pos (beq_iff_eq.mpr hevent)]
      omega
    · rw [if_neg hevent, if_neg (by simp [hevent])]
      omega

/-- **Whoever is scheduled often enough has ended**, whatever the others do. -/
theorem runEvents_done (h : (c.callers i).Within n) {events : List (Event ι)}
    (hcount : n ≤ events.count (.step i)) :
    ∃ r, (c.runEvents sem release stopped events).callers i = .done r := by
  have hwithin : ((c.runEvents sem release stopped events).callers i).Within _ :=
    runEvents_within h events
  rw [Nat.sub_eq_zero_of_le hcount] at hwithin
  cases hi : (c.runEvents sem release stopped events).callers i with
  | done r => exact ⟨r, rfl⟩
  | op o next =>
    rw [hi] at hwithin
    exact hwithin.elim

end Schedules

end OvcaCore.Interleaving

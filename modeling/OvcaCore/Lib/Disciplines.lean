/-
Rely disciplines as one object, and the rules of programs that keep to them.

A `Discipline` has an invariant, what each caller can rely on while the others act, and how
the world goes on whoever acts. `D.Runs sem i K p s` says that caller `i` may run `p` from `s`
on: every operation respects the discipline, the world goes on, and where `p` does not fail it
ends in `K`. That the world goes on is known after a failure too, so a program may look at the
failure of a part (`Runs.attempt_bind`) and still use what it knew before.

Programs that are told nothing about the world are run by expanding each of their calls into
a program that may be run from anywhere (`runs_expand`).
-/
import OvcaCore.Lib.Crashes

set_option autoImplicit false

namespace OvcaCore.Interleaving

variable {ι σ Op : Type} {Ans : Op → Type} {ε α β : Type}

/-! ## Expanding calls -/

namespace Prog

theorem assoc {γ : Type} (p : Prog Op Ans ε α) (f : α → Prog Op Ans ε β) (g : β → Prog Op Ans ε γ) :
    (p >>= f) >>= g = p >>= fun a => f a >>= g := by
  induction p with
  | done r => cases r <;> rfl
  | op o next ih =>
    rw [op_bind, op_bind, op_bind]
    exact congrArg _ (funext ih)

theorem bind_pure (p : Prog Op Ans ε α) : (p >>= fun a => pure a) = p := by
  induction p with
  | done r => cases r <;> rfl
  | op o next ih =>
    rw [op_bind]
    exact congrArg _ (funext ih)

/-- The program, with a program in the place of each of its operations. -/
def expand {Op' : Type} {Ans' : Op' → Type} (f : (o : Op) → Prog Op' Ans' ε (Ans o)) :
    Prog Op Ans ε α → Prog Op' Ans' ε α
  | .done r => .done r
  | .op o next => (f o).bind fun a => (next a).expand f

end Prog

/-! ## Disciplines -/

structure Discipline (ι σ : Type) where
  Inv : σ → Prop
  Rely : ι → σ → σ → Prop
  On : σ → σ → Prop
  rely_refl : ∀ i s, Rely i s s
  rely_trans : ∀ i {a b c}, Rely i a b → Rely i b c → Rely i a c
  on_refl : ∀ s, On s s
  on_trans : ∀ {a b c}, On a b → On b c → On a c
  rely_on : ∀ {i a b}, Rely i a b → On a b

namespace Discipline

variable (D : Discipline ι σ)

/-- What an operation of a caller may do to the world. -/
structure May (i : ι) (s s' : σ) : Prop where
  allowed : Allowed D.Inv D.Rely i s s'
  on : D.On s s'

variable {D} in
theorem May.trans {i : ι} {a b c : σ} (h : D.May i a b) (h' : D.May i b c) : D.May i a c where
  allowed := ⟨h'.allowed.1, fun j hj => D.rely_trans j (h.allowed.2 j hj) (h'.allowed.2 j hj)⟩
  on := D.on_trans h.on h'.on

/-- From this world on the caller may run the program, and ends in `K` if it does not fail. -/
def Runs (sem : ι → (o : Op) → σ → Ans o × σ) (i : ι) (K : α → σ → Prop) (p : Prog Op Ans ε α)
    (s : σ) : Prop :=
  Safe sem D.Inv D.Rely i (fun r t => D.On s t ∧ ∀ a, r = .ok a → K a t) p s

section Rules

variable {D} {sem : ι → (o : Op) → σ → Ans o × σ} {i : ι} {K : α → σ → Prop}
  {K' : β → σ → Prop} {s t : σ}

theorem Runs.mono {K₁ K₂ : α → σ → Prop} (hK : ∀ a t, K₁ a t → K₂ a t) {p : Prog Op Ans ε α}
    (h : D.Runs sem i K₁ p s) : D.Runs sem i K₂ p s :=
  Safe.mono (fun _ _ hpost => ⟨hpost.1, fun a ha => hK a _ (hpost.2 a ha)⟩) h

/-- A program that may be run where the world has gone on to. -/
theorem Runs.later {p : Prog Op Ans ε α} (h : D.Runs sem i K p t) (hon : D.On s t) :
    Safe sem D.Inv D.Rely i (fun r u => D.On s u ∧ ∀ a, r = .ok a → K a u) p t :=
  Safe.mono (fun _ _ hpost => ⟨D.on_trans hon hpost.1, hpost.2⟩) h

theorem runs_done {r : Except ε α}
    (h : ∀ a t, r = .ok a → D.Rely i s t → D.Inv t → K a t) :
    D.Runs sem i K (.done r : Prog Op Ans ε α) s :=
  fun t ht hinv => ⟨D.rely_on ht, fun a ha => h a t ha ht hinv⟩

theorem runs_pure {a : α} (h : ∀ t, D.Rely i s t → D.Inv t → K a t) :
    D.Runs sem i K (pure a : Prog Op Ans ε α) s := by
  refine runs_done fun a' t ha ht hinv => ?_
  rw [← Except.ok.inj ha]
  exact h t ht hinv

theorem runs_fail {e : ε} : D.Runs sem i K (Prog.fail e : Prog Op Ans ε α) s := by
  refine runs_done fun a t ha => ?_
  cases ha

/-- The rule of a single operation. -/
theorem runs_op {o : Op} {next : Ans o → Prog Op Ans ε α}
    (h : ∀ t, D.Rely i s t → D.Inv t →
      D.May i t (sem i o t).2 ∧ D.Runs sem i K (next (sem i o t).1) (sem i o t).2) :
    D.Runs sem i K (.op o next) s := by
  intro t ht hinv
  obtain ⟨hmay, hnext⟩ := h t ht hinv
  exact ⟨hmay.allowed, hnext.later (D.on_trans (D.rely_on ht) hmay.on)⟩

theorem runs_check_bind {r : Except ε α} {f : α → Prog Op Ans ε β}
    (h : ∀ a, r = .ok a → D.Runs sem i K' (f a) s) :
    D.Runs sem i K' ((.done r : Prog Op Ans ε α) >>= f) s := by
  cases r with
  | error e => exact runs_fail
  | ok a => exact h a rfl

/-- What comes behind a program of which only the end is known. -/
theorem safe_bind {Q : Except ε α → σ → Prop} {Q' : Except ε β → σ → Prop}
    {p : Prog Op Ans ε α} {f : α → Prog Op Ans ε β} (h : Safe sem D.Inv D.Rely i Q p s)
    (hs : D.Inv s) (hok : ∀ a t, D.Inv t → Q (.ok a) t → Safe sem D.Inv D.Rely i Q' (f a) t)
    (herror : ∀ e t, Q (.error e) t → Q' (.error e) t) :
    Safe sem D.Inv D.Rely i Q' (p >>= f) s := by
  induction p generalizing s with
  | done r =>
    cases r with
    | error e => exact fun t ht hinv => herror e t (h t ht hinv)
    | ok a => exact hok a s hs (h s (D.rely_refl i s) hs)
  | op o next ih =>
    intro t ht hinv
    obtain ⟨hallowed, hnext⟩ := h t ht hinv
    exact ⟨hallowed, ih _ hnext hallowed.1⟩

/-- The rule of sequence. -/
theorem Runs.bind {p : Prog Op Ans ε α} {f : α → Prog Op Ans ε β} (h : D.Runs sem i K p s)
    (hs : D.Inv s) (hf : ∀ a t, D.On s t → D.Inv t → K a t → D.Runs sem i K' (f a) t) :
    D.Runs sem i K' (p >>= f) s := by
  refine safe_bind h hs (fun a t hinv hpost => ?_) (fun e t hpost => ?_)
  · exact (hf a t hpost.1 hinv (hpost.2 a rfl)).later hpost.1
  · refine ⟨hpost.1, fun b hb => ?_⟩
    cases hb

/-- The rule of a part whose failure is looked at. -/
theorem Runs.attempt_bind {p : Prog Op Ans ε α} {f : Except ε α → Prog Op Ans ε β}
    (h : D.Runs sem i K p s) (hs : D.Inv s)
    (hf : ∀ r t, D.On s t → D.Inv t → (∀ a, r = .ok a → K a t) → D.Runs sem i K' (f r) t) :
    D.Runs sem i K' (p.attempt >>= f) s := by
  have hattempt : D.Runs sem i (fun r t => ∀ a, r = .ok a → K a t) p.attempt s := by
    refine Safe.attempt (Safe.mono (fun r t hpost => ⟨hpost.1, fun r' hr => ?_⟩) h)
    cases hr
    exact hpost.2
  exact hattempt.bind hs hf

/-- The answer of a call under another name. -/
theorem Runs.map {p : Prog Op Ans ε α} {f : α → β}
    (h : D.Runs sem i (fun a t => K' (f a) t) p s) :
    D.Runs sem i K' (p >>= fun a => pure (f a)) s := by
  refine Safe.map (Safe.mono (fun r t hpost => ⟨hpost.1, fun b hb => ?_⟩) h)
  cases r with
  | error e => cases hb
  | ok a =>
    cases hb
    exact hpost.2 a rfl

/-- Calls that may be made from anywhere may be made in any order, whatever they are answered. -/
theorem runs_expand {Op' : Type} {Ans' : Op' → Type} {sem' : ι → (o : Op') → σ → Ans' o × σ}
    {f : (o : Op) → Prog Op' Ans' ε (Ans o)}
    (hf : ∀ o s, D.Inv s → D.Runs sem' i (fun _ _ => True) (f o) s) (p : Prog Op Ans ε α)
    (hs : D.Inv s) : D.Runs sem' i (fun _ _ => True) (p.expand f) s := by
  induction p generalizing s with
  | done r => exact runs_done fun _ _ _ _ _ => trivial
  | op o next ih => exact (hf o s hs).bind hs fun a t _ hinv _ => ih a hinv

end Rules

/-! ### Every schedule -/

section Schedules

variable {D} [DecidableEq ι] {sem : ι → (o : Op) → σ → Ans o × σ} {release : ι → σ → σ}
  {stopped : ε}

/-- **Under every schedule with crashes** the invariant holds, and whoever has ended without
a failure is where it said. -/
theorem runEvents_runs {K : ι → α → σ → Prop} {c : System ι σ Op Ans ε α}
    (hruns : ∀ i, D.Runs sem i (K i) (c.callers i) c.world) (hinv : D.Inv c.world)
    (hrelease : ∀ i s, D.Inv s → D.May i s (release i s)) (events : List (Event ι)) :
    D.Inv (c.runEvents sem release stopped events).world ∧
      ∀ i a, (c.runEvents sem release stopped events).callers i = .done (.ok a) →
        K i a (c.runEvents sem release stopped events).world := by
  have hsafe : ∀ i, Safe sem D.Inv D.Rely i (fun r t => ∀ a, r = .ok a → K i a t) (c.callers i)
      c.world := fun i => Safe.mono (fun _ _ hpost => hpost.2) (hruns i)
  have hstopped : ∀ i s a, (Except.error stopped : Except ε α) = .ok a → K i a s := fun _ _ _ ha => by
    cases ha
  obtain ⟨hsafe', hinv'⟩ := runEvents_safe D.rely_trans D.rely_refl
    (fun i s hs => (hrelease i s hs).allowed) hstopped hsafe hinv events
  refine ⟨hinv', fun i a hdone => ?_⟩
  have hi := hsafe' i
  rw [hdone] at hi
  exact hi.post D.rely_refl hinv' a rfl

end Schedules

end Discipline

end OvcaCore.Interleaving

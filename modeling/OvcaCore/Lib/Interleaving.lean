/-
Programs over atomic operations, run alone or interleaved.

A program performs operations one after the other and each may depend on the
answers so far; it ends with a result or an error. Several programs share a
world: a schedule names, step after step, the caller whose next operation is
performed, and a caller that is never named again has crashed.

Proofs about interleavings use a rely discipline. `Rely i` says what caller `i`
can count on while the others act; `Safe` says that a program keeps an
invariant, keeps what the others rely on, and ends well, whatever the others do
within what they may do. `run_safe` carries this over every schedule, so a
claim about all interleavings is a claim about one program at a time.
-/
import Mathlib.Logic.Function.Basic
import Mathlib.Tactic.Common

set_option autoImplicit false

namespace OvcaCore.Interleaving

/-! ## Programs -/

/-- A program over operations `Op`, of which `o` is answered by an `Ans o`. -/
inductive Prog (Op : Type) (Ans : Op → Type) (ε α : Type) : Type where
  | done (r : Except ε α)
  | op (o : Op) (next : Ans o → Prog Op Ans ε α)

namespace Prog

variable {Op : Type} {Ans : Op → Type} {ε α β : Type}

/-- One program after another; an error ends both. -/
def bind (p : Prog Op Ans ε α) (f : α → Prog Op Ans ε β) : Prog Op Ans ε β :=
  match p with
  | .done (.ok a) => f a
  | .done (.error e) => .done (.error e)
  | .op o next => .op o fun a => (next a).bind f

instance : Monad (Prog Op Ans ε) where
  pure a := .done (.ok a)
  bind := bind

instance : MonadLift (Except ε) (Prog Op Ans ε) := ⟨.done⟩

/-- A single operation, as a program that returns its answer. -/
def perform (o : Op) : Prog Op Ans ε (Ans o) := .op o fun a => .done (.ok a)

/-- The program that gives up. -/
def fail (e : ε) : Prog Op Ans ε α := .done (.error e)

@[simp] theorem done_ok_bind (a : α) (f : α → Prog Op Ans ε β) :
    (Prog.done (.ok a) >>= f) = f a := rfl

@[simp] theorem done_error_bind (e : ε) (f : α → Prog Op Ans ε β) :
    (Prog.done (.error e) >>= f) = Prog.done (.error e) := rfl

@[simp] theorem pure_bind (a : α) (f : α → Prog Op Ans ε β) :
    ((pure a : Prog Op Ans ε α) >>= f) = f a := rfl

@[simp] theorem op_bind (o : Op) (next : Ans o → Prog Op Ans ε α) (f : α → Prog Op Ans ε β) :
    (Prog.op o next >>= f) = Prog.op o fun a => next a >>= f := rfl

@[simp] theorem perform_bind (o : Op) (f : Ans o → Prog Op Ans ε β) :
    ((perform o : Prog Op Ans ε (Ans o)) >>= f) = Prog.op o f := rfl

@[simp] theorem liftM_eq (r : Except ε α) :
    (liftM r : Prog Op Ans ε α) = Prog.done r := rfl

@[simp] theorem monadLift_eq (r : Except ε α) :
    (monadLift r : Prog Op Ans ε α) = Prog.done r := rfl

/-- The program run alone on a world, in which every operation is performed as
soon as it is reached. -/
def run {σ : Type} (sem : (o : Op) → σ → Ans o × σ) :
    Prog Op Ans ε α → σ → Except ε α × σ
  | .done r, s => (r, s)
  | .op o next, s => run sem (next (sem o s).1) (sem o s).2

@[simp] theorem run_done {σ : Type} (sem : (o : Op) → σ → Ans o × σ) (r : Except ε α) (s : σ) :
    (Prog.done r).run sem s = (r, s) := rfl

@[simp] theorem run_op {σ : Type} (sem : (o : Op) → σ → Ans o × σ) (o : Op)
    (next : Ans o → Prog Op Ans ε α) (s : σ) :
    (Prog.op o next).run sem s = (next (sem o s).1).run sem (sem o s).2 := rfl

/-- A sequence run alone is its first part run alone, and then the rest. -/
theorem run_bind {σ : Type} (sem : (o : Op) → σ → Ans o × σ) (p : Prog Op Ans ε α)
    (f : α → Prog Op Ans ε β) (s : σ) :
    (p >>= f).run sem s = match p.run sem s with
      | (.ok a, t) => (f a).run sem t
      | (.error e, t) => (.error e, t) := by
  induction p generalizing s with
  | done r => rcases r with e | a <;> rfl
  | op o next ih =>
    rw [op_bind, run_op, run_op]
    exact ih _ _

/-- Every operation the program may come to perform, whatever it is answered, is good. -/
def Only (good : Op → Prop) : Prog Op Ans ε α → Prop
  | .done _ => True
  | .op o next => good o ∧ ∀ a, (next a).Only good

section Only

variable {good : Op → Prop}

@[simp] theorem only_done (r : Except ε α) : (Prog.done r : Prog Op Ans ε α).Only good := trivial

@[simp] theorem only_pure (a : α) : (pure a : Prog Op Ans ε α).Only good := trivial

@[simp] theorem only_fail (e : ε) : (fail e : Prog Op Ans ε α).Only good := trivial

theorem only_perform {o : Op} (h : good o) : (perform o : Prog Op Ans ε (Ans o)).Only good :=
  ⟨h, fun _ => trivial⟩

/-- The sequence rule. -/
theorem Only.bind {p : Prog Op Ans ε α} {f : α → Prog Op Ans ε β} (h : p.Only good)
    (hf : ∀ a, (f a).Only good) : (p >>= f).Only good := by
  induction p with
  | done r =>
    rcases r with e | a
    · trivial
    · exact hf a
  | op o next ih =>
    rw [op_bind]
    exact ⟨h.1, fun a => ih a (h.2 a)⟩

/-- After a check, the rest counts only where the check succeeds. -/
theorem only_check_bind {r : Except ε α} {f : α → Prog Op Ans ε β}
    (h : ∀ a, r = .ok a → (f a).Only good) : (Prog.done r >>= f).Only good := by
  rcases r with e | a
  · trivial
  · exact h a rfl

end Only

theorem run_bind_of_ok {σ : Type} {sem : (o : Op) → σ → Ans o × σ} {p : Prog Op Ans ε α}
    {f : α → Prog Op Ans ε β} {s t : σ} {a : α} (h : p.run sem s = (.ok a, t)) :
    (p >>= f).run sem s = (f a).run sem t := by
  rw [run_bind, h]

end Prog

/-! ## Schedules -/

variable {ι σ Op : Type} {Ans : Op → Type} {ε α β : Type}

/-- The programs still to be run, one a caller, and the world they share. -/
structure System (ι σ Op : Type) (Ans : Op → Type) (ε α : Type) where
  callers : ι → Prog Op Ans ε α
  world : σ

section Schedules

variable [DecidableEq ι] (sem : ι → (o : Op) → σ → Ans o × σ)

/-- One step of caller `i`: its next operation, if it has one. -/
def System.step (c : System ι σ Op Ans ε α) (i : ι) : System ι σ Op Ans ε α :=
  match c.callers i with
  | .done _ => c
  | .op o next =>
    { callers := Function.update c.callers i (next (sem i o c.world).1)
      world := (sem i o c.world).2 }

/-- The system after a schedule. -/
def System.run (c : System ι σ Op Ans ε α) (schedule : List ι) : System ι σ Op Ans ε α :=
  schedule.foldl (System.step sem) c

end Schedules

/-! ## The rely discipline -/

section Rely

variable (sem : ι → (o : Op) → σ → Ans o × σ) (Inv : σ → Prop) (Rely : ι → σ → σ → Prop)

/-- What an operation performed by `i` must respect: the invariant, and what
the other callers rely on. -/
def Allowed (i : ι) (s s' : σ) : Prop := Inv s' ∧ ∀ j, j ≠ i → Rely j s s'

/-- From world `s` on, caller `i` running this program respects the discipline
at every operation and ends in `Q`, whatever the others do meanwhile. -/
def Safe (i : ι) (Q : Except ε α → σ → Prop) : Prog Op Ans ε α → σ → Prop
  | .done r, s => ∀ s', Rely i s s' → Inv s' → Q r s'
  | .op o next, s => ∀ s', Rely i s s' → Inv s' →
      Allowed Inv Rely i s' (sem i o s').2 ∧
      Safe i Q (next (sem i o s').1) (sem i o s').2

variable {sem Inv Rely}

/-- Safety survives whatever the others do. -/
theorem Safe.rely (htrans : ∀ i {a b c}, Rely i a b → Rely i b c → Rely i a c) {i : ι}
    {Q : Except ε α → σ → Prop} {p : Prog Op Ans ε α} {s s' : σ}
    (h : Safe sem Inv Rely i Q p s) (hs : Rely i s s') : Safe sem Inv Rely i Q p s' := by
  cases p with
  | done r => exact fun t ht => h t (htrans i hs ht)
  | op o next => exact fun t ht => h t (htrans i hs ht)

/-- A program that has ended has ended well. -/
theorem Safe.post (hrefl : ∀ i a, Rely i a a) {i : ι} {Q : Except ε α → σ → Prop}
    {r : Except ε α} {s : σ} (h : Safe sem Inv Rely i Q (.done r) s) (hs : Inv s) : Q r s :=
  h s (hrefl i s) hs

theorem Safe.mono {i : ι} {Q Q' : Except ε α → σ → Prop} (hQ : ∀ r s, Q r s → Q' r s)
    {p : Prog Op Ans ε α} {s : σ} (h : Safe sem Inv Rely i Q p s) :
    Safe sem Inv Rely i Q' p s := by
  induction p generalizing s with
  | done r => exact fun t ht hI => hQ r t (h t ht hI)
  | op o next ih =>
    intro t ht hI
    obtain ⟨hallowed, hnext⟩ := h t ht hI
    exact ⟨hallowed, ih _ hnext⟩

/-- The rule of sequence. -/
theorem Safe.bind {i : ι} {Q : Except ε β → σ → Prop} {p : Prog Op Ans ε α}
    {f : α → Prog Op Ans ε β} {s : σ}
    (h : Safe sem Inv Rely i (fun r t => match r with
      | .ok a => ∀ t', Rely i t t' → Inv t' → Safe sem Inv Rely i Q (f a) t'
      | .error e => Q (.error e) t) p s)
    (hrefl : ∀ i a, Rely i a a) (hs : Inv s) : Safe sem Inv Rely i Q (p >>= f) s := by
  induction p generalizing s with
  | done r =>
    rcases r with e | a
    · exact fun t ht hI => h t ht hI
    · exact h s (hrefl i s) hs s (hrefl i s) hs
  | op o next ih =>
    intro t ht hI
    obtain ⟨hallowed, hnext⟩ := h t ht hI
    exact ⟨hallowed, ih _ hnext hallowed.1⟩

/-- A program that ends by naming its result differently. -/
theorem Safe.map {i : ι} {Q : Except ε β → σ → Prop} {p : Prog Op Ans ε α} {f : α → β} {s : σ}
    (h : Safe sem Inv Rely i (fun r t => Q (r.map f) t) p s) :
    Safe sem Inv Rely i Q (p >>= fun a => pure (f a)) s := by
  induction p generalizing s with
  | done r =>
    rcases r with e | a
    · exact h
    · exact h
  | op o next ih =>
    intro t ht hI
    obtain ⟨hallowed, hnext⟩ := h t ht hI
    exact ⟨hallowed, ih _ hnext⟩

/-- One step of a system of safe callers leaves a system of safe callers. -/
theorem step_safe [DecidableEq ι]
    (htrans : ∀ i {a b c}, Rely i a b → Rely i b c → Rely i a c) (hrefl : ∀ i a, Rely i a a)
    {Q : ι → Except ε α → σ → Prop} {c : System ι σ Op Ans ε α}
    (hsafe : ∀ i, Safe sem Inv Rely i (Q i) (c.callers i) c.world) (hinv : Inv c.world) (i : ι) :
    (∀ j, Safe sem Inv Rely j (Q j) ((c.step sem i).callers j) (c.step sem i).world) ∧
      Inv (c.step sem i).world := by
  unfold System.step
  cases hp : c.callers i with
  | done r => exact ⟨hsafe, hinv⟩
  | op o next =>
    have hi := hsafe i
    rw [hp] at hi
    obtain ⟨⟨hinv', hothers⟩, hnext⟩ := hi c.world (hrefl i c.world) hinv
    refine ⟨fun j => ?_, hinv'⟩
    by_cases hj : j = i
    · subst hj
      dsimp only
      rw [Function.update_self]
      exact hnext
    · dsimp only
      rw [Function.update_of_ne hj]
      exact (hsafe j).rely htrans (hothers j hj)

/-- **Safe callers stay safe under every schedule.** -/
theorem run_safe [DecidableEq ι]
    (htrans : ∀ i {a b c}, Rely i a b → Rely i b c → Rely i a c) (hrefl : ∀ i a, Rely i a a)
    {Q : ι → Except ε α → σ → Prop} {c : System ι σ Op Ans ε α}
    (hsafe : ∀ i, Safe sem Inv Rely i (Q i) (c.callers i) c.world) (hinv : Inv c.world)
    (schedule : List ι) :
    (∀ j, Safe sem Inv Rely j (Q j) ((c.run sem schedule).callers j) (c.run sem schedule).world) ∧
      Inv (c.run sem schedule).world := by
  induction schedule generalizing c with
  | nil => exact ⟨hsafe, hinv⟩
  | cons i schedule ih =>
    obtain ⟨hsafe', hinv'⟩ := step_safe htrans hrefl hsafe hinv i
    exact ih hsafe' hinv'

/-- What a caller that has ended knows. -/
theorem run_post [DecidableEq ι]
    (htrans : ∀ i {a b c}, Rely i a b → Rely i b c → Rely i a c) (hrefl : ∀ i a, Rely i a a)
    {Q : ι → Except ε α → σ → Prop} {c : System ι σ Op Ans ε α}
    (hsafe : ∀ i, Safe sem Inv Rely i (Q i) (c.callers i) c.world) (hinv : Inv c.world)
    {schedule : List ι} {i : ι} {r : Except ε α}
    (hdone : (c.run sem schedule).callers i = .done r) : Q i r (c.run sem schedule).world := by
  obtain ⟨hsafe', hinv'⟩ := run_safe htrans hrefl hsafe hinv schedule
  have hi := hsafe' i
  rw [hdone] at hi
  exact hi.post hrefl hinv'

end Rely

end OvcaCore.Interleaving

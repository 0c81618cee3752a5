/-
Programs that look at their own errors, programs as parts of larger ones, and schedules in
which callers crash.

A program that is attempted (`Prog.attempt`) ends with its result as a value, so that what
comes behind it can clean up. One that is embedded (`Prog.embed`) performs its operations
among others. A caller that crashes (`System.crash`) never acts again; the
world may take something back from it, such as a lock, and what it had been about to do is
not done. A restart is another caller.

What every operation and every crash keeps holds in every world (`runEvents_invariant`). The
rely discipline of `OvcaCore.Lib.Interleaving` goes through: a crash is safe when what the
world takes back respects the invariant and what the others rely on.
-/
import OvcaCore.Lib.Interleaving

set_option autoImplicit false

namespace OvcaCore.Interleaving

variable {ι σ Op : Type} {Ans : Op → Type} {ε α β : Type}

namespace Prog

/-- The program, with its result as a value. -/
def attempt : Prog Op Ans ε α → Prog Op Ans ε (Except ε α)
  | .done r => .done (.ok r)
  | .op o next => .op o fun a => (next a).attempt

@[simp] theorem attempt_done (r : Except ε α) :
    (Prog.done r : Prog Op Ans ε α).attempt = .done (.ok r) := rfl

@[simp] theorem attempt_op (o : Op) (next : Ans o → Prog Op Ans ε α) :
    (Prog.op o next).attempt = .op o fun a => (next a).attempt := rfl

section Embed

variable {Op' : Type} {Ans' : Op' → Type} {ε' : Type} (f : Op → Op') (back : ∀ o, Ans' (f o) → Ans o)
  (g : ε → ε')

/-- The program as a part of one with more operations, with its errors renamed. -/
def embed : Prog Op Ans ε α → Prog Op' Ans' ε' α
  | .done r => .done (r.mapError g)
  | .op o next => .op (f o) fun a => (next (back o a)).embed

@[simp] theorem embed_done (r : Except ε α) :
    (Prog.done r : Prog Op Ans ε α).embed f back g = .done (r.mapError g) := rfl

@[simp] theorem embed_op (o : Op) (next : Ans o → Prog Op Ans ε α) :
    (Prog.op o next).embed f back g = .op (f o) fun a => (next (back o a)).embed f back g := rfl

@[simp] theorem embed_bind (p : Prog Op Ans ε α) (next : α → Prog Op Ans ε β) :
    (p >>= next).embed f back g = p.embed f back g >>= fun a => (next a).embed f back g := by
  induction p with
  | done r => cases r <;> rfl
  | op o rest ih =>
    simp only [op_bind, embed_op]
    exact congrArg _ (funext fun a => ih (back o a))

end Embed

end Prog

section Attempts

variable {sem : ι → (o : Op) → σ → Ans o × σ} {Inv : σ → Prop} {Rely : ι → σ → σ → Prop}

/-- An attempted program is as safe as the program. -/
theorem Safe.attempt {i : ι} {Q : Except ε (Except ε α) → σ → Prop} {p : Prog Op Ans ε α} {s : σ}
    (h : Safe sem Inv Rely i (fun r t => Q (.ok r) t) p s) : Safe sem Inv Rely i Q p.attempt s := by
  induction p generalizing s with
  | done r => exact h
  | op o next ih =>
    intro t ht hI
    obtain ⟨hallowed, hnext⟩ := h t ht hI
    exact ⟨hallowed, ih _ hnext⟩

end Attempts

/-! ## Crashes -/

/-- What a scheduler decides: whose turn it is, or who crashes. -/
inductive Event (ι : Type) where
  | step (i : ι)
  | crash (i : ι)
  deriving DecidableEq, Repr

section Crashes

variable [DecidableEq ι] (sem : ι → (o : Op) → σ → Ans o × σ) (release : ι → σ → σ) (stopped : ε)

/-- A caller that has not ended crashes: it ends as `stopped`, and the world takes back from
it what it takes from a dead caller. -/
def System.crash (c : System ι σ Op Ans ε α) (i : ι) : System ι σ Op Ans ε α :=
  match c.callers i with
  | .done _ => c
  | .op _ _ =>
    { callers := Function.update c.callers i (.done (.error stopped))
      world := release i c.world }

def System.handle (c : System ι σ Op Ans ε α) : Event ι → System ι σ Op Ans ε α
  | .step i => c.step sem i
  | .crash i => c.crash release stopped i

/-- The system after a schedule with crashes. -/
def System.runEvents (c : System ι σ Op Ans ε α) (events : List (Event ι)) :
    System ι σ Op Ans ε α :=
  events.foldl (System.handle sem release stopped) c

end Crashes

section Invariants

variable [DecidableEq ι] {sem : ι → (o : Op) → σ → Ans o × σ} {release : ι → σ → σ} {stopped : ε}

/-- What every operation and every crash keeps, every schedule keeps. -/
theorem runEvents_invariant {Inv : σ → Prop} (hperform : ∀ i o s, Inv s → Inv (sem i o s).2)
    (hrelease : ∀ i s, Inv s → Inv (release i s)) {c : System ι σ Op Ans ε α} (hinv : Inv c.world)
    (events : List (Event ι)) : Inv (c.runEvents sem release stopped events).world := by
  induction events generalizing c with
  | nil => exact hinv
  | cons event events ih =>
    apply ih
    cases event with
    | step i =>
      simp only [System.handle, System.step]
      split
      · exact hinv
      · exact hperform _ _ _ hinv
    | crash i =>
      simp only [System.handle, System.crash]
      split
      · exact hinv
      · exact hrelease _ _ hinv

end Invariants

section Rely

variable [DecidableEq ι] {sem : ι → (o : Op) → σ → Ans o × σ} {Inv : σ → Prop}
  {Rely : ι → σ → σ → Prop} {release : ι → σ → σ} {stopped : ε}

/-- A crash leaves a system of safe callers. -/
theorem crash_safe (htrans : ∀ i {a b c}, Rely i a b → Rely i b c → Rely i a c)
    (hrelease : ∀ i s, Inv s → Allowed Inv Rely i s (release i s))
    {Q : ι → Except ε α → σ → Prop} (hstopped : ∀ i s, Q i (.error stopped) s)
    {c : System ι σ Op Ans ε α}
    (hsafe : ∀ i, Safe sem Inv Rely i (Q i) (c.callers i) c.world) (hinv : Inv c.world) (i : ι) :
    (∀ j, Safe sem Inv Rely j (Q j) ((c.crash release stopped i).callers j)
        (c.crash release stopped i).world) ∧
      Inv (c.crash release stopped i).world := by
  unfold System.crash
  cases hp : c.callers i with
  | done r => exact ⟨hsafe, hinv⟩
  | op o next =>
    obtain ⟨hinv', hothers⟩ := hrelease i c.world hinv
    refine ⟨fun j => ?_, hinv'⟩
    dsimp only
    by_cases hj : j = i
    · rw [hj, Function.update_self]
      exact fun t _ _ => hstopped i t
    · rw [Function.update_of_ne hj]
      exact (hsafe j).rely htrans (hothers j hj)

/-- **Safe callers stay safe under every schedule with crashes.** -/
theorem runEvents_safe (htrans : ∀ i {a b c}, Rely i a b → Rely i b c → Rely i a c)
    (hrefl : ∀ i a, Rely i a a) (hrelease : ∀ i s, Inv s → Allowed Inv Rely i s (release i s))
    {Q : ι → Except ε α → σ → Prop} (hstopped : ∀ i s, Q i (.error stopped) s)
    {c : System ι σ Op Ans ε α}
    (hsafe : ∀ i, Safe sem Inv Rely i (Q i) (c.callers i) c.world) (hinv : Inv c.world)
    (events : List (Event ι)) :
    (∀ j, Safe sem Inv Rely j (Q j) ((c.runEvents sem release stopped events).callers j)
        (c.runEvents sem release stopped events).world) ∧
      Inv (c.runEvents sem release stopped events).world := by
  induction events generalizing c with
  | nil => exact ⟨hsafe, hinv⟩
  | cons event events ih =>
    have hstep : (∀ j, Safe sem Inv Rely j (Q j) ((c.handle sem release stopped event).callers j)
          (c.handle sem release stopped event).world) ∧
        Inv (c.handle sem release stopped event).world := by
      cases event with
      | step i => exact step_safe htrans hrefl hsafe hinv i
      | crash i => exact crash_safe htrans hrelease hstopped hsafe hinv i
    exact ih hstep.1 hstep.2

end Rely

end OvcaCore.Interleaving

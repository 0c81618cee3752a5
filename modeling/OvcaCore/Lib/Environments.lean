/-
Programs beside an environment.

An environment changes the world between any two operations of a program, as far as a
relation lets it (`Runs`). What every operation and every change keeps holds at the end
of a run (`Runs.inv`). A program whose operations only look at what the environment
leaves alone returns what it returns when every operation is answered from the world it
began in: its value against an oracle (`Prog.eval`), which is also what it returns when
it runs alone.
-/
import OvcaCore.Lib.Interleaving

set_option autoImplicit false

namespace OvcaCore.Interleaving

variable {Op σ : Type} {Ans : Op → Type} {ε α β : Type}

/-! ## The value of a program -/

namespace Prog

/-- The result of a program whose operations are answered by an oracle. -/
def eval (answer : (o : Op) → Ans o) : Prog Op Ans ε α → Except ε α
  | .done r => r
  | .op o next => (next (answer o)).eval answer

section Eval

variable {answer : (o : Op) → Ans o}

@[simp] theorem eval_done (r : Except ε α) : (Prog.done r : Prog Op Ans ε α).eval answer = r := rfl

@[simp] theorem eval_pure (a : α) : (pure a : Prog Op Ans ε α).eval answer = .ok a := rfl

@[simp] theorem eval_fail (e : ε) : (fail e : Prog Op Ans ε α).eval answer = .error e := rfl

@[simp] theorem eval_op (o : Op) (next : Ans o → Prog Op Ans ε α) :
    (Prog.op o next).eval answer = (next (answer o)).eval answer := rfl

/-- The value of a sequence. -/
@[simp] theorem eval_bind (p : Prog Op Ans ε α) (f : α → Prog Op Ans ε β) :
    (p >>= f).eval answer = p.eval answer >>= fun a => (f a).eval answer := by
  induction p with
  | done r => rcases r with e | a <;> rfl
  | op o next ih =>
    rw [op_bind, eval_op, eval_op]
    exact ih _

/-- The value of a loop. -/
theorem eval_foldlM {γ : Type} (step : β → γ → Prog Op Ans ε β) (xs : List γ) (b : β) :
    (xs.foldlM step b).eval answer = xs.foldlM (fun b x => (step b x).eval answer) b := by
  induction xs generalizing b with
  | nil => rfl
  | cons x xs ih =>
    rw [List.foldlM_cons, List.foldlM_cons, eval_bind]
    exact congrArg _ (funext fun b' => ih b')

end Eval

/-- The program with its errors renamed. -/
def mapError (f : ε → ε) : Prog Op Ans ε α → Prog Op Ans ε α
  | .done r => .done (r.mapError f)
  | .op o next => .op o fun a => (next a).mapError f

@[simp] theorem eval_mapError {answer : (o : Op) → Ans o} (f : ε → ε) (p : Prog Op Ans ε α) :
    (p.mapError f).eval answer = (p.eval answer).mapError f := by
  induction p with
  | done r => rfl
  | op o next ih => exact ih _

theorem run_mapError {sem : (o : Op) → σ → Ans o × σ} (f : ε → ε) (p : Prog Op Ans ε α) (s : σ) :
    (p.mapError f).run sem s = ((p.run sem s).1.mapError f, (p.run sem s).2) := by
  induction p generalizing s with
  | done r => rfl
  | op o next ih => exact ih _ _

theorem Only.mapError {good : Op → Prop} {f : ε → ε} {p : Prog Op Ans ε α} (h : p.Only good) :
    (p.mapError f).Only good := by
  induction p with
  | done r => trivial
  | op o next ih => exact ⟨h.1, fun a => ih a (h.2 a)⟩

/-- Alone on a world that its operations leave as it is, a program returns its value. -/
theorem run_eq_eval {sem : (o : Op) → σ → Ans o × σ} {s : σ} {p : Prog Op Ans ε α}
    (h : p.Only fun o => (sem o s).2 = s) : p.run sem s = (p.eval fun o => (sem o s).1, s) := by
  induction p with
  | done r => rfl
  | op o next ih =>
    rw [run_op, eval_op, h.1]
    exact ih _ (h.2 _)

theorem Only.mono {good good' : Op → Prop} (hgood : ∀ o, good o → good' o) {p : Prog Op Ans ε α}
    (h : p.Only good) : p.Only good' := by
  induction p with
  | done r => trivial
  | op o next ih => exact ⟨hgood o h.1, fun a => ih a (h.2 a)⟩

/-- The rule for loops. -/
theorem Only.foldlM {γ : Type} {good : Op → Prop} {step : β → γ → Prog Op Ans ε β} {xs : List γ}
    (h : ∀ b, ∀ x ∈ xs, (step b x).Only good) (b : β) : (xs.foldlM step b).Only good := by
  induction xs generalizing b with
  | nil => trivial
  | cons x xs ih =>
    rw [List.foldlM_cons]
    exact (h b x List.mem_cons_self).bind
      fun b' => ih (fun b y hy => h b y (List.mem_cons_of_mem x hy)) b'

end Prog

/-! ## Runs -/

/-- A run of a program, with a move of the environment before every operation and at the
end. -/
inductive Runs (sem : (o : Op) → σ → Ans o × σ) (env : σ → σ → Prop) :
    Prog Op Ans ε α → σ → Except ε α → σ → Prop where
  | done {r : Except ε α} {s s' : σ} (h : env s s') : Runs sem env (.done r) s r s'
  | op {o : Op} {next : Ans o → Prog Op Ans ε α} {r : Except ε α} {s s₁ s' : σ} (h : env s s₁)
      (hnext : Runs sem env (next (sem o s₁).1) (sem o s₁).2 r s') :
      Runs sem env (.op o next) s r s'

section Runs

variable {sem : (o : Op) → σ → Ans o × σ} {env : σ → σ → Prop}

/-- A program runs alone where the environment may leave everything as it is. -/
theorem Runs.alone (hrefl : ∀ s, env s s) (p : Prog Op Ans ε α) (s : σ) :
    Runs sem env p s (p.run sem s).1 (p.run sem s).2 := by
  induction p generalizing s with
  | done r => exact .done (hrefl s)
  | op o next ih => exact .op (hrefl s) (ih _ _)

/-- What the operations and the environment keep holds at the end. -/
theorem Runs.inv {Inv : σ → Prop} (henv : ∀ s s', env s s' → Inv s → Inv s')
    (hop : ∀ o s, Inv s → Inv (sem o s).2) {p : Prog Op Ans ε α} {s s' : σ} {r : Except ε α}
    (h : Runs sem env p s r s') (hs : Inv s) : Inv s' := by
  induction h with
  | done h => exact henv _ _ h hs
  | op h _ ih => exact ih (hop _ _ (henv _ _ h hs))

/-- A run of a sequence that succeeds is a run of the first part that succeeds, and a run of
the rest. -/
theorem Runs.of_bind (hrefl : ∀ s, env s s) {p : Prog Op Ans ε α} {f : α → Prog Op Ans ε β}
    {s s' : σ} {b : β} (h : Runs sem env (p >>= f) s (.ok b) s') :
    ∃ a s₁, Runs sem env p s (.ok a) s₁ ∧ Runs sem env (f a) s₁ (.ok b) s' := by
  induction p generalizing s with
  | done r =>
    rcases r with e | a
    · nomatch h
    · exact ⟨a, s, .done (hrefl s), h⟩
  | op o next ih =>
    rw [Prog.op_bind] at h
    obtain ⟨henv, hnext⟩ : ∃ s₁, env s s₁ ∧
        Runs sem env (next (sem o s₁).1 >>= f) (sem o s₁).2 (.ok b) s' := by
      cases h with
      | op h hnext => exact ⟨_, h, hnext⟩
    obtain ⟨h₁, hrun⟩ := hnext
    obtain ⟨a, s₂, hp, hf⟩ := ih _ hrun
    exact ⟨a, s₂, .op h₁ hp, hf⟩

/-- **A program that only looks at what stays** returns its value, whatever the environment
does meanwhile. -/
theorem Runs.eq_eval {answer : (o : Op) → Ans o} {Stays : σ → Prop}
    (henv : ∀ s s', env s s' → Stays s → Stays s') {p : Prog Op Ans ε α}
    (hp : p.Only fun o => ∀ s, Stays s → (sem o s).1 = answer o ∧ (sem o s).2 = s)
    {s s' : σ} {r : Except ε α} (h : Runs sem env p s r s') (hs : Stays s) :
    r = p.eval answer ∧ Stays s' := by
  induction h with
  | done h => exact ⟨rfl, henv _ _ h hs⟩
  | op h _ ih =>
    have hstays := henv _ _ h hs
    obtain ⟨hanswer, hsame⟩ := hp.1 _ hstays
    rw [hanswer, hsame] at ih
    exact ih (hp.2 _) hstays

end Runs

end OvcaCore.Interleaving

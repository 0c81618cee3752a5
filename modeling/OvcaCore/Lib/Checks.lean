/-
Sequences of checks in `Except`.

A validator of a service is a run of early returns: look something up or give
up, reject when a condition holds, go round a loop and reject at the first bad
element. This file gives those three shapes names and says when a run of them
succeeds, so that the success of a whole validator turns into the conjunction
of its conditions by rewriting, in the order in which they are made.

`Fault` separates the two ways in which a computation can stop without a
result: the error it returns to its caller, and a panic.
-/
import Mathlib.Data.List.Chain
import Mathlib.Tactic.Common

set_option autoImplicit false

namespace OvcaCore.Checks

universe u v

/-! ## The shapes -/

section Shapes

variable {ε : Type u} {α : Type v}

/-- `if c { return Err(e) }`. -/
def reject_if (c : Prop) [Decidable c] (e : ε) : Except ε Unit :=
  if c then .error e else .ok ()

/-- `o.ok_or(e)?`. -/
def ok_or (o : Option α) (e : ε) : Except ε α :=
  match o with
  | some a => .ok a
  | none => .error e

/-- A computation that can also panic stops with a fault: the error it returns
or the message it panics with. -/
inductive Fault (ε : Type u) where
  | error (e : ε)
  | panic (message : String)
  deriving DecidableEq, Repr

instance : Coe ε (Fault ε) := ⟨Fault.error⟩

/-- `o.expect(message)`. -/
def expect (o : Option α) (message : String) : Except (Fault ε) α :=
  ok_or o (.panic message)

/-- `a + b` in an unsigned type with largest value `max`, whose overflow is a
panic. -/
def add_or_panic (max a b : ℕ) : Except (Fault ε) ℕ :=
  if a + b ≤ max then .ok (a + b) else .error (.panic "attempt to add with overflow")

/-- A fallible computation as part of one that may panic. -/
def lift (x : Except ε α) : Except (Fault ε) α := x.mapError .error

end Shapes

/-- Did the computation succeed, with a result that satisfies `p`? -/
def ok_and {ε : Type u} {α : Type v} (x : Except ε α) (p : α → Bool) : Bool :=
  match x with
  | .ok a => p a
  | .error _ => false

/-! ## When they succeed -/

section Success

variable {ε ε' : Type u} {α β : Type v}

@[simp] theorem reject_if_eq_ok {c : Prop} [Decidable c] {e : ε} {u : Unit} :
    reject_if c e = .ok u ↔ ¬ c := by
  by_cases hc : c <;> simp [reject_if, hc]

theorem reject_if_eq_error {c : Prop} [Decidable c] {e e' : ε} :
    reject_if c e = .error e' ↔ c ∧ e = e' := by
  unfold reject_if
  by_cases hc : c <;> simp [hc]

theorem reject_if_of_not {c : Prop} [Decidable c] {e : ε} (hc : ¬ c) :
    reject_if c e = .ok () := if_neg hc

theorem reject_if_of {c : Prop} [Decidable c] {e : ε} (hc : c) :
    reject_if c e = .error e := if_pos hc

@[simp] theorem ok_or_eq_ok {o : Option α} {e : ε} {a : α} :
    ok_or o e = .ok a ↔ o = some a := by
  cases o <;> simp [ok_or]

@[simp] theorem expect_eq_ok {o : Option α} {m : String} {a : α} :
    (expect o m : Except (Fault ε) α) = .ok a ↔ o = some a := ok_or_eq_ok

@[simp] theorem add_or_panic_eq_ok {max a b c : ℕ} :
    (add_or_panic max a b : Except (Fault ε) ℕ) = .ok c ↔ a + b ≤ max ∧ a + b = c := by
  by_cases h : a + b ≤ max <;> simp [add_or_panic, h]

@[simp] theorem lift_eq_ok {x : Except ε α} {a : α} : lift x = .ok a ↔ x = .ok a := by
  cases x <;> simp [lift, Except.mapError]

/-- A sequence succeeds exactly when each of its two parts does. -/
@[simp] theorem bind_eq_ok {x : Except ε α} {f : α → Except ε β} {b : β} :
    (x >>= f) = .ok b ↔ ∃ a, x = .ok a ∧ f a = .ok b := by
  cases x <;> simp [bind, Except.bind]

theorem ok_bind {a : α} {f : α → Except ε β} : (.ok a >>= f : Except ε β) = f a := rfl

theorem error_bind {e : ε} {f : α → Except ε β} : (.error e >>= f : Except ε β) = .error e := rfl

@[simp] theorem pure_eq_ok {a b : α} : (pure a : Except ε α) = .ok b ↔ a = b := by
  simp [pure, Except.pure]

@[simp] theorem mapError_eq_ok {x : Except ε α} {f : ε → ε'} {a : α} :
    x.mapError f = .ok a ↔ x = .ok a := by
  cases x <;> simp [Except.mapError]

/-- A check has only one way to succeed. -/
@[simp] theorem exists_unit_eq_ok {x : Except ε Unit} : (∃ u, x = .ok u) ↔ x = .ok () :=
  ⟨fun ⟨(), h⟩ => h, fun h => ⟨(), h⟩⟩

theorem ok_and_eq_true {x : Except ε α} {p : α → Bool} :
    ok_and x p = true ↔ ∃ a, x = .ok a ∧ p a = true := by
  cases x <;> simp [ok_and]

@[simp] theorem throw_ne_ok {e : ε} {a : α} : (throw e : Except ε α) ≠ .ok a := by
  simp [throw, throwThe, MonadExceptOf.throw]

end Success

/-! ## When they do not panic -/

section Panics

variable {ε : Type u} {α β : Type v}

/-- The computation may stop with an error, but not with a panic. -/
def NoPanic (x : Except (Fault ε) α) : Prop := ∀ message, x ≠ .error (.panic message)

theorem noPanic_ok {a : α} : NoPanic (.ok a : Except (Fault ε) α) := nofun

theorem noPanic_reject_if {c : Prop} [Decidable c] {e : ε} :
    NoPanic (reject_if c (Fault.error e)) := by
  unfold reject_if
  by_cases hc : c
  · rw [if_pos hc]
    exact nofun
  · rw [if_neg hc]
    exact nofun

theorem noPanic_ok_or {o : Option α} {e : ε} : NoPanic (ok_or o (Fault.error e)) := by
  cases o <;> exact nofun

theorem noPanic_lift {x : Except ε α} : NoPanic (lift x) := by
  cases x <;> exact nofun

theorem noPanic_expect {o : Option α} {m : String} {a : α} (h : o = some a) :
    NoPanic (expect o m : Except (Fault ε) α) := by
  rw [h]
  exact nofun

theorem NoPanic.bind {x : Except (Fault ε) α} {f : α → Except (Fault ε) β} (hx : NoPanic x)
    (hf : ∀ a, x = .ok a → NoPanic (f a)) : NoPanic (x >>= f) := by
  cases x with
  | ok a => exact hf a rfl
  | error fault =>
    intro message h
    exact hx message (by simpa [Bind.bind, Except.bind] using h)

end Panics

/-! ## Loops -/

section Loops

variable {ε : Type u} {α β : Type}

/-- `for x in xs { check(x)? }`. -/
def check_all (xs : List α) (check : α → Except ε Unit) : Except ε Unit :=
  match xs with
  | [] => .ok ()
  | x :: xs => do
    check x
    check_all xs check

@[simp] theorem check_all_eq_ok {xs : List α} {check : α → Except ε Unit} {u : Unit} :
    check_all xs check = .ok u ↔ ∀ x ∈ xs, check x = .ok () := by
  induction xs with
  | nil => simp [check_all]
  | cons x xs ih =>
    simp only [check_all, bind_eq_ok, ih, List.forall_mem_cons, exists_and_right,
      exists_unit_eq_ok]

/-- A loop of checks that fails has failed at one of its elements. -/
theorem exists_of_check_all_eq_error {xs : List α} {check : α → Except ε Unit} {e : ε}
    (h : check_all xs check = .error e) : ∃ x ∈ xs, check x = .error e := by
  induction xs with
  | nil => exact nomatch h
  | cons x xs ih =>
    unfold check_all at h
    cases hx : check x with
    | error e' =>
      rw [hx, error_bind] at h
      exact ⟨x, List.mem_cons_self, Except.error.inj h ▸ hx⟩
    | ok u =>
      rw [hx, ok_bind] at h
      obtain ⟨x', hmem, hfail⟩ := ih h
      exact ⟨x', List.mem_cons_of_mem x hmem, hfail⟩

/-- `if let Some(x) = o { check(x)? }`. -/
def check_some (o : Option α) (check : α → Except ε Unit) : Except ε Unit :=
  match o with
  | none => .ok ()
  | some x => check x

@[simp] theorem check_some_eq_ok {o : Option α} {check : α → Except ε Unit} {u : Unit} :
    check_some o check = .ok u ↔ ∀ x, o = some x → check x = .ok () := by
  cases o <;> simp [check_some]

/-- `for (index, x) in xs.iter().enumerate() { check(index, x)? }`. -/
def check_enumerated (xs : List α) (check : ℕ → α → Except ε Unit) : Except ε Unit :=
  check_all xs.zipIdx (fun p => check p.2 p.1)

@[simp] theorem check_enumerated_eq_ok {xs : List α} {check : ℕ → α → Except ε Unit} {u : Unit} :
    check_enumerated xs check = .ok u ↔ ∀ i x, xs[i]? = some x → check i x = .ok () := by
  rw [check_enumerated, check_all_eq_ok]
  constructor
  · intro h i x hx
    exact h (x, i) (List.mem_zipIdx_iff_getElem?.mpr hx)
  · rintro h ⟨x, i⟩ hp
    exact h i x (List.mem_zipIdx_iff_getElem?.mp hp)

/-- `for x in xs { ys.push(f(x)?) }`. -/
def map_checked (f : α → Except ε β) (xs : List α) : Except ε (List β) :=
  match xs with
  | [] => .ok []
  | x :: xs => do
    let y ← f x
    let ys ← map_checked f xs
    pure (y :: ys)

@[simp] theorem map_checked_eq_ok {f : α → Except ε β} {xs : List α} {ys : List β} :
    map_checked f xs = .ok ys ↔ List.Forall₂ (fun x y => f x = .ok y) xs ys := by
  induction xs generalizing ys with
  | nil => simp [map_checked, eq_comm]
  | cons x xs ih =>
    simp only [map_checked, bind_eq_ok, pure_eq_ok, ih, List.forall₂_cons_left_iff]
    constructor
    · rintro ⟨y, hy, ys, hys, rfl⟩
      exact ⟨y, ys, hy, hys, rfl⟩
    · rintro ⟨y, ys, hy, hys, rfl⟩
      exact ⟨y, hy, ys, hys, rfl⟩

theorem exists_right_of_forall₂ {r : α → β → Prop} {xs : List α} {ys : List β}
    (h : List.Forall₂ r xs ys) {x : α} (hx : x ∈ xs) : ∃ y ∈ ys, r x y := by
  induction h with
  | nil => exact absurd hx List.not_mem_nil
  | @cons a b _ _ hab _ ih =>
    rcases List.mem_cons.mp hx with rfl | hx
    · exact ⟨b, List.mem_cons_self, hab⟩
    · obtain ⟨y, hy, hf⟩ := ih hx
      exact ⟨y, List.mem_cons_of_mem b hy, hf⟩

theorem exists_left_of_forall₂ {r : α → β → Prop} {xs : List α} {ys : List β}
    (h : List.Forall₂ r xs ys) {y : β} (hy : y ∈ ys) : ∃ x ∈ xs, r x y := by
  induction h with
  | nil => exact absurd hy List.not_mem_nil
  | @cons a b _ _ hab _ ih =>
    rcases List.mem_cons.mp hy with rfl | hy
    · exact ⟨a, List.mem_cons_self, hab⟩
    · obtain ⟨x, hx, hf⟩ := ih hy
      exact ⟨x, List.mem_cons_of_mem a hx, hf⟩

/-- A loop that fails has failed at one of its elements. -/
theorem exists_of_map_checked_eq_error {f : α → Except ε β} {xs : List α} {e : ε}
    (h : map_checked f xs = .error e) : ∃ x ∈ xs, f x = .error e := by
  induction xs with
  | nil => simp [map_checked] at h
  | cons x xs ih =>
    unfold map_checked at h
    cases hx : f x with
    | error e' =>
      rw [hx, error_bind] at h
      exact ⟨x, List.mem_cons_self, Except.error.inj h ▸ hx⟩
    | ok y =>
      rw [hx, ok_bind] at h
      cases hxs : map_checked f xs with
      | error e' =>
        rw [hxs, error_bind] at h
        obtain ⟨x', hmem, hfail⟩ := ih (Except.error.inj h ▸ hxs)
        exact ⟨x', List.mem_cons_of_mem x hmem, hfail⟩
      | ok ys =>
        rw [hxs, ok_bind] at h
        simp [pure, Except.pure] at h

/-- What `xs.iter().map(f).collect::<Option<Vec<_>>>()` collects. -/
theorem mapM_eq_some_iff {f : α → Option β} {xs : List α} {ys : List β} :
    xs.mapM f = some ys ↔ List.Forall₂ (fun x y => f x = some y) xs ys := by
  induction xs generalizing ys with
  | nil => simp [eq_comm]
  | cons x xs ih =>
    rw [List.mapM_cons, List.forall₂_cons_left_iff]
    simp only [← ih, bind, Option.bind_eq_some_iff, pure, Option.some_inj]
    constructor
    · rintro ⟨y, hy, ys', hys, rfl⟩
      exact ⟨y, ys', hy, hys, rfl⟩
    · rintro ⟨y, ys', hy, hys, rfl⟩
      exact ⟨y, hy, ys', hys, rfl⟩

theorem mapM_isSome_iff {f : α → Option β} {xs : List α} :
    (xs.mapM f).isSome = true ↔ ∀ x ∈ xs, (f x).isSome = true := by
  induction xs with
  | nil => simp
  | cons x xs ih =>
    rw [List.mapM_cons, List.forall_mem_cons, ← ih]
    cases f x with
    | none => simp
    | some y => cases xs.mapM f <;> simp

/-- The collection succeeds when `f` does. -/
theorem exists_mapM_eq_some {f : α → Option β} {xs : List α} (h : ∀ x ∈ xs, ∃ y, f x = some y) :
    ∃ ys, xs.mapM f = some ys := by
  rw [← Option.isSome_iff_exists, mapM_isSome_iff]
  exact fun x hx => Option.isSome_iff_exists.mpr (h x hx)

/-- `for x in xs { acc = step(acc, x)? }`. -/
def fold_checked (step : β → α → Except ε β) (b : β) (xs : List α) : Except ε β :=
  match xs with
  | [] => .ok b
  | x :: xs => do
    let b ← step b x
    fold_checked step b xs

@[simp] theorem fold_checked_nil {step : β → α → Except ε β} {b : β} :
    fold_checked step b [] = .ok b := rfl

/-- A loop over an append is the loop over its first part followed by the loop
over its second: what was accepted as a whole was accepted as far as it went. -/
theorem fold_checked_append {step : β → α → Except ε β} {b : β} {xs ys : List α} :
    fold_checked step b (xs ++ ys) = (fold_checked step b xs >>= fun c => fold_checked step c ys) := by
  induction xs generalizing b with
  | nil => rfl
  | cons x xs ih =>
    simp only [List.cons_append, fold_checked]
    cases hstep : step b x with
    | error e => rfl
    | ok c => exact ih

theorem fold_checked_append_eq_ok {step : β → α → Except ε β} {b d : β} {xs ys : List α} :
    fold_checked step b (xs ++ ys) = .ok d ↔
      ∃ c, fold_checked step b xs = .ok c ∧ fold_checked step c ys = .ok d := by
  rw [fold_checked_append, bind_eq_ok]

theorem fold_checked_cons_eq_ok {step : β → α → Except ε β} {b d : β} {x : α} {xs : List α} :
    fold_checked step b (x :: xs) = .ok d ↔
      ∃ c, step b x = .ok c ∧ fold_checked step c xs = .ok d := by
  simp only [fold_checked, bind_eq_ok]

/-- The run lemma of a loop: a relation that holds of every state with itself,
composes, and holds across every accepted step, holds across every accepted
loop. -/
theorem fold_checked_rel {step : β → α → Except ε β} {R : β → β → Prop}
    (hrefl : ∀ b, R b b) (htrans : ∀ {a b c}, R a b → R b c → R a c)
    (hstep : ∀ {b x c}, step b x = .ok c → R b c) {b d : β} {xs : List α}
    (h : fold_checked step b xs = .ok d) : R b d := by
  induction xs generalizing b with
  | nil =>
    cases h
    exact hrefl _
  | cons x xs ih =>
    rw [fold_checked_cons_eq_ok] at h
    obtain ⟨c, hc, hd⟩ := h
    exact htrans (hstep hc) (ih hd)

/-- The invariant rule of a loop. -/
theorem fold_checked_inv {step : β → α → Except ε β} {I : β → Prop}
    (hstep : ∀ {b x c}, I b → step b x = .ok c → I c) {b d : β} {xs : List α}
    (hb : I b) (h : fold_checked step b xs = .ok d) : I d :=
  fold_checked_rel (R := fun b c => I b → I c) (fun _ => id) (fun f g => g ∘ f)
    (fun hc hI => hstep hI hc) h hb

/-- The invariant rule of a loop whose invariant speaks of the elements it has
gone through. -/
theorem fold_checked_prefix {step : β → α → Except ε β} {I : List α → β → Prop}
    (hstep : ∀ {past b x c}, I past b → step b x = .ok c → I (past ++ [x]) c) {b d : β}
    {xs : List α} (hb : I [] b) (h : fold_checked step b xs = .ok d) : I xs d := by
  have hrun : ∀ (xs : List α) (past : List α) (b : β), I past b →
      fold_checked step b xs = .ok d → I (past ++ xs) d := by
    intro xs
    induction xs with
    | nil =>
      rintro past b hI h
      cases h
      rw [List.append_nil]
      exact hI
    | cons x xs ih =>
      intro past b hI h
      rw [fold_checked_cons_eq_ok] at h
      obtain ⟨c, hc, hd⟩ := h
      have htail := ih (past ++ [x]) c (hstep hI hc) hd
      rwa [List.append_assoc] at htail
  exact hrun xs [] b hb h

/-- The progress rule of a loop: where its invariant lets every next element
through, the loop goes through all of them. -/
theorem fold_checked_progress {step : β → α → Except ε β} {I : List α → β → Prop} {xs : List α}
    (hstep : ∀ past x rest b, xs = past ++ x :: rest → I past b →
      ∃ c, step b x = .ok c ∧ I (past ++ [x]) c) {b : β} (hb : I [] b) :
    ∃ d, fold_checked step b xs = .ok d ∧ I xs d := by
  have hrun : ∀ (rest past : List α) (b : β), xs = past ++ rest → I past b →
      ∃ d, fold_checked step b rest = .ok d ∧ I xs d := by
    intro rest
    induction rest with
    | nil =>
      intro past b hxs hI
      rw [List.append_nil] at hxs
      subst hxs
      exact ⟨b, rfl, hI⟩
    | cons x rest ih =>
      intro past b hxs hI
      obtain ⟨c, hc, hI⟩ := hstep past x rest b hxs hI
      have hrest : xs = (past ++ [x]) ++ rest := by rw [hxs, List.append_assoc, List.singleton_append]
      obtain ⟨d, hd, hI⟩ := ih (past ++ [x]) c hrest hI
      refine ⟨d, ?_, hI⟩
      rw [fold_checked_cons_eq_ok]
      exact ⟨c, hc, hd⟩
  exact hrun xs [] b rfl hb

theorem fold_checked_map {γ : Type} {step : β → α → Except ε β} {f : γ → α} {b : β} {xs : List γ} :
    fold_checked step b (xs.map f) = fold_checked (fun b x => step b (f x)) b xs := by
  induction xs generalizing b with
  | nil => rfl
  | cons x xs ih => simp only [List.map_cons, fold_checked, ih]

/-- Two loops whose steps succeed alike succeed alike. -/
theorem fold_checked_congr_ok {step step' : β → α → Except ε β} {xs : List α}
    (hstep : ∀ b, ∀ x ∈ xs, ∀ c, step b x = .ok c ↔ step' b x = .ok c) {b d : β} :
    fold_checked step b xs = .ok d ↔ fold_checked step' b xs = .ok d := by
  induction xs generalizing b with
  | nil => exact Iff.rfl
  | cons x xs ih =>
    rw [fold_checked_cons_eq_ok, fold_checked_cons_eq_ok]
    have htail : ∀ c, fold_checked step c xs = .ok d ↔ fold_checked step' c xs = .ok d :=
      fun c => ih fun b y hy => hstep b y (List.mem_cons_of_mem x hy)
    simp only [hstep b x List.mem_cons_self, htail]

/-- A loop whose steps commute, up to a relation that the steps preserve, goes
through its elements in any order. -/
theorem fold_checked_perm {step : β → α → Except ε β} {R : β → β → Prop} {P : α → Prop}
    (hrefl : ∀ b, R b b) (htrans : ∀ {a b c}, R a b → R b c → R a c)
    (hsim : ∀ {b b' x c}, P x → R b b' → step b x = .ok c →
      ∃ c', step b' x = .ok c' ∧ R c c')
    (hswap : ∀ {b x y c d}, P x → P y → step b x = .ok c → step c y = .ok d →
      ∃ c' d', step b y = .ok c' ∧ step c' x = .ok d' ∧ R d d')
    {xs ys : List α} (hperm : xs.Perm ys) (hP : ∀ x ∈ xs, P x) {b d : β}
    (h : fold_checked step b xs = .ok d) :
    ∃ d', fold_checked step b ys = .ok d' ∧ R d d' := by
  have hfold : ∀ (xs : List α), (∀ x ∈ xs, P x) → ∀ (b b' d : β), R b b' →
      fold_checked step b xs = .ok d → ∃ d', fold_checked step b' xs = .ok d' ∧ R d d' := by
    intro xs
    induction xs with
    | nil =>
      intro _ b b' d hR h
      cases h
      exact ⟨b', rfl, hR⟩
    | cons x xs ih =>
      intro hP b b' d hR h
      rw [fold_checked_cons_eq_ok] at h
      obtain ⟨c, hc, hd⟩ := h
      obtain ⟨c', hc', hR'⟩ := hsim (hP x List.mem_cons_self) hR hc
      obtain ⟨d', hd', hRd⟩ := ih (fun y hy => hP y (List.mem_cons_of_mem x hy)) c c' d hR' hd
      refine ⟨d', ?_, hRd⟩
      rw [fold_checked_cons_eq_ok]
      exact ⟨c', hc', hd'⟩
  induction hperm generalizing b d with
  | nil => exact ⟨d, h, hrefl d⟩
  | cons x _ ih =>
    rw [fold_checked_cons_eq_ok] at h
    obtain ⟨c, hc, hd⟩ := h
    obtain ⟨d', hd', hR⟩ := ih (fun y hy => hP y (List.mem_cons_of_mem x hy)) hd
    refine ⟨d', ?_, hR⟩
    rw [fold_checked_cons_eq_ok]
    exact ⟨c, hc, hd'⟩
  | swap x y xs =>
    rw [fold_checked_cons_eq_ok] at h
    obtain ⟨c, hc, h⟩ := h
    rw [fold_checked_cons_eq_ok] at h
    obtain ⟨c₂, hc₂, hd⟩ := h
    have hx : P x := hP x (List.mem_cons_of_mem y List.mem_cons_self)
    obtain ⟨c', c₂', hc', hc₂', hR⟩ := hswap (hP y List.mem_cons_self) hx hc hc₂
    obtain ⟨d', hd', hRd⟩ := hfold xs (fun z hz => hP z (by simp [hz])) c₂ c₂' d hR hd
    refine ⟨d', ?_, hRd⟩
    rw [fold_checked_cons_eq_ok]
    refine ⟨c', hc', ?_⟩
    rw [fold_checked_cons_eq_ok]
    exact ⟨c₂', hc₂', hd'⟩
  | trans hxy _ ih₁ ih₂ =>
    obtain ⟨d₁, hd₁, hR₁⟩ := ih₁ hP h
    obtain ⟨d₂, hd₂, hR₂⟩ := ih₂ (fun y hy => hP y (hxy.mem_iff.mpr hy)) hd₁
    exact ⟨d₂, hd₂, htrans hR₁ hR₂⟩

end Loops

/-! ## Loops that remember what they have seen -/

section Scans

variable {ε : Type u} {α κ : Type} [DecidableEq κ]

/-- The element before a position, where `previous` stands before the first. -/
def predecessor (previous : Option α) (xs : List α) : ℕ → Option α
  | 0 => previous
  | i + 1 => xs[i]?

/-- The loop `for (index, x) in xs.iter().enumerate()` whose body checks `x`,
rejects a key seen before, and then checks `x` against its predecessor. -/
def scan_loop (key : α → κ) (check : ℕ → α → Except ε Unit) (duplicate : α → ε)
    (follow : ℕ → Option α → α → Except ε Unit) (index : ℕ) (seen : List κ)
    (previous : Option α) (xs : List α) : Except ε Unit :=
  match xs with
  | [] => .ok ()
  | x :: xs => do
    check index x
    reject_if (key x ∈ seen) (duplicate x)
    follow index previous x
    scan_loop key check duplicate follow (index + 1) (key x :: seen) (some x) xs

/-- The loop with nothing seen so far. -/
def scan_checked (key : α → κ) (check : ℕ → α → Except ε Unit) (duplicate : α → ε)
    (follow : ℕ → Option α → α → Except ε Unit) (xs : List α) : Except ε Unit :=
  scan_loop key check duplicate follow 0 [] none xs

theorem scan_loop_eq_ok {key : α → κ} {check : ℕ → α → Except ε Unit} {duplicate : α → ε}
    {follow : ℕ → Option α → α → Except ε Unit} {index : ℕ} {seen : List κ}
    {previous : Option α} {xs : List α} {u : Unit} :
    scan_loop key check duplicate follow index seen previous xs = .ok u ↔
      (∀ i x, xs[i]? = some x → check (index + i) x = .ok ()) ∧
      (∀ x ∈ xs, key x ∉ seen) ∧ (xs.map key).Nodup ∧
      ∀ i x, xs[i]? = some x →
        follow (index + i) (predecessor previous xs i) x = .ok () := by
  induction xs generalizing index seen previous with
  | nil => simp [scan_loop]
  | cons x xs ih =>
    simp only [scan_loop, bind_eq_ok, exists_and_right, exists_unit_eq_ok, reject_if_eq_ok,
      exists_const, ih, List.mem_cons, not_or, forall_eq_or_imp, List.map_cons, List.nodup_cons,
      List.mem_map, not_exists, not_and]
    constructor
    · rintro ⟨hcheck, hseen, hfollow, hchecks, hnew, hnodup, hfollows⟩
      refine ⟨fun i y hy => ?_, ⟨hseen, fun y hy => (hnew y hy).2⟩,
        ⟨fun y hy => (hnew y hy).1, hnodup⟩, fun i y hy => ?_⟩
      · rcases i with _ | i
        · obtain rfl := Option.some.inj hy
          exact hcheck
        · rw [show index + (i + 1) = index + 1 + i by omega]
          exact hchecks i y hy
      · rcases i with _ | i
        · obtain rfl := Option.some.inj hy
          exact hfollow
        · have h := hfollows i y hy
          rw [show index + (i + 1) = index + 1 + i by omega]
          rcases i with _ | i
          · exact h
          · exact h
    · rintro ⟨hchecks, ⟨hseen, hunseen⟩, ⟨hnew, hnodup⟩, hfollows⟩
      refine ⟨hchecks 0 x rfl, hseen, hfollows 0 x rfl, fun i y hy => ?_,
        fun y hy => ⟨hnew y hy, hunseen y hy⟩, hnodup, fun i y hy => ?_⟩
      · have h := hchecks (i + 1) y hy
        rwa [show index + (i + 1) = index + 1 + i by omega] at h
      · have h := hfollows (i + 1) y hy
        rw [show index + (i + 1) = index + 1 + i by omega] at h
        rcases i with _ | i
        · exact h
        · exact h

/-- A scan succeeds when every element passes its checks and no key repeats. -/
@[simp] theorem scan_checked_eq_ok {key : α → κ} {check : ℕ → α → Except ε Unit}
    {duplicate : α → ε} {follow : ℕ → Option α → α → Except ε Unit} {xs : List α} {u : Unit} :
    scan_checked key check duplicate follow xs = .ok u ↔
      (∀ i x, xs[i]? = some x → check i x = .ok ()) ∧ (xs.map key).Nodup ∧
      ∀ i x, xs[i]? = some x → follow i (predecessor none xs i) x = .ok () := by
  simp only [scan_checked, scan_loop_eq_ok, Nat.zero_add, List.not_mem_nil, not_false_eq_true,
    implies_true, true_and]

omit [DecidableEq κ] in
/-- Behind the last element stands the last element. -/
theorem predecessor_length (xs : List α) : predecessor none xs xs.length = xs.getLast? := by
  rw [List.getLast?_eq_getElem?]
  cases xs with
  | nil => rfl
  | cons x xs =>
    rw [List.length_cons]
    rfl

omit [DecidableEq κ] in
theorem predecessor_append {xs : List α} (ys : List α) {i : ℕ} (hi : i ≤ xs.length) :
    predecessor none (xs ++ ys) i = predecessor none xs i := by
  cases i with
  | zero => rfl
  | succ i => exact List.getElem?_append_left (by omega)

omit [DecidableEq κ] in
/-- A transitive relation that holds between neighbours holds along the list. -/
theorem pairwise_of_predecessor {r : α → α → Prop} [Trans r r r] {xs : List α}
    (h : ∀ i x y, predecessor none xs i = some x → xs[i]? = some y → r x y) :
    xs.Pairwise r := by
  rw [← List.isChain_iff_pairwise, List.isChain_iff_getElem]
  intro i hi
  exact h (i + 1) _ _ (List.getElem?_eq_getElem (by omega)) (List.getElem?_eq_getElem hi)

end Scans

end OvcaCore.Checks

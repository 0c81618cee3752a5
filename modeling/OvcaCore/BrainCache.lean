/-
The index cache of a brain (`ovca-brain/src/cache.rs`, `brain_write` of
`ovca-brain/src/tools.rs`), for a brain without an index artifact.

`get_or_load` looks for the index, takes the rebuild lock of the brain, looks again, reads
the nodes directory and inserts what it has built. `brain_write` writes a file and then
removes the cached index. It does not take the rebuild lock, so an index built before the
file was written can be inserted after the removal.

The calls are interleaved step by step. A call that waits for the lock stays where it is,
and a call that is never named again has been dropped by the scheduler.
-/
import Mathlib.Logic.Function.Basic
import Mathlib.Data.List.Infix
import Mathlib.Tactic.Common

set_option autoImplicit false

namespace OvcaCore.BrainCache

/-- An index, by the files of the directory listing that it was built from. -/
structure BrainIndex (F : Type) where
  files : List F
  deriving DecidableEq, Repr

/-- Where a call of `get_or_load` is. -/
inductive LoadPhase (F : Type) where
  | start
  | missed
  | locked
  | rebuilding
  | built (index : BrainIndex F)
  | unlocking (index : BrainIndex F)
  | returned (index : BrainIndex F)
  deriving DecidableEq, Repr

/-- Where a call of `brain_write` is; it returns ok or fails. -/
inductive WritePhase where
  | start
  | written
  | returned
  | failed
  deriving DecidableEq, Repr

/-- The nodes directory in the order of writing, the cached index, the rebuild lock, and the
calls of `get_or_load` (by `R`) and of `brain_write` (by `W`). -/
structure Cache (R W F : Type) where
  files : List F
  index : Option (BrainIndex F)
  rebuild_lock : Option R
  loads : R → LoadPhase F
  writes : W → WritePhase

/-- The call that takes its next step. -/
inductive Call (R W : Type) where
  | load (r : R)
  | write (w : W)
  | write_fails (w : W)
  deriving DecidableEq, Repr

variable {R W F : Type} [DecidableEq R] [DecidableEq W]

namespace Cache

def set_load (s : Cache R W F) (r : R) (phase : LoadPhase F) : Cache R W F :=
  { s with loads := Function.update s.loads r phase }

def set_write (s : Cache R W F) (w : W) (phase : WritePhase) : Cache R W F :=
  { s with writes := Function.update s.writes w phase }

end Cache

open Cache

/-! ## The steps -/

def get_or_load (s : Cache R W F) (r : R) : Cache R W F :=
  match s.loads r with
  | .start =>
    match s.index with
    | some index => s.set_load r (.returned index)
    | none => s.set_load r .missed
  | .missed =>
    if s.rebuild_lock.isSome then s
    else { s.set_load r .locked with rebuild_lock := some r }
  | .locked =>
    match s.index with
    | some index => s.set_load r (.unlocking index)
    | none => s.set_load r .rebuilding
  | .rebuilding => s.set_load r (.built ⟨s.files⟩)
  | .built index => { s.set_load r (.unlocking index) with index := some index }
  -- the guard of the rebuild lock is dropped when the call returns
  | .unlocking index => { s.set_load r (.returned index) with rebuild_lock := none }
  | .returned _ => s

/-- A write and the removal of the index. -/
def brain_write (file : W → F) (s : Cache R W F) (w : W) : Cache R W F :=
  match s.writes w with
  | .start => { s.set_write w .written with files := s.files ++ [file w] }
  | .written => { s.set_write w .returned with index := none }
  | .returned | .failed => s

def brain_write_fails (s : Cache R W F) (w : W) : Cache R W F :=
  match s.writes w with
  | .start => s.set_write w .failed
  | .written | .returned | .failed => s

def step (file : W → F) (s : Cache R W F) : Call R W → Cache R W F
  | .load r => get_or_load s r
  | .write w => brain_write file s w
  | .write_fails w => brain_write_fails s w

/-- A new cache over a directory. -/
def initial (files : List F) : Cache R W F where
  files := files
  index := none
  rebuild_lock := none
  loads := fun _ => .start
  writes := fun _ => .start

def run (file : W → F) (s : Cache R W F) (calls : List (Call R W)) : Cache R W F :=
  calls.foldl (step file) s

theorem run_append (file : W → F) (s : Cache R W F) (calls calls' : List (Call R W)) :
    run file s (calls ++ calls') = run file (run file s calls) calls' := List.foldl_append

variable {file : W → F} {s : Cache R W F} {r : R} {P : List F → Prop}

omit [DecidableEq W] in
theorem set_load_loads (s : Cache R W F) (r r' : R) (phase : LoadPhase F) :
    (s.set_load r phase).loads r' = if r' = r then phase else s.loads r' :=
  Function.update_apply _ _ _ _

omit [DecidableEq R] in
theorem set_write_writes (s : Cache R W F) (w w' : W) (phase : WritePhase) :
    (s.set_write w phase).writes w' = if w' = w then phase else s.writes w' :=
  Function.update_apply _ _ _ _

/-! ## What is settled

A property of listings that holds of the directory, of the cached index and of every index
that is built and not yet inserted holds of all indexes that later calls return. -/

structure Settled (P : List F → Prop) (s : Cache R W F) : Prop where
  files : P s.files
  index : ∀ index, s.index = some index → P index.files
  built : ∀ r index, s.loads r = .built index → P index.files

/-- An index that a call holds has the property. -/
def Carries (P : List F → Prop) : LoadPhase F → Prop
  | .built index | .unlocking index | .returned index => P index.files
  | .start | .missed | .locked | .rebuilding => True

omit [DecidableEq W] in
theorem Settled.set_load {phase : LoadPhase F} (h : Settled P s)
    (hphase : ∀ index, phase = .built index → P index.files) : Settled P (s.set_load r phase) := by
  refine ⟨h.files, h.index, ?_⟩
  intro r' index hbuilt
  rw [set_load_loads] at hbuilt
  by_cases heq : r' = r
  · rw [if_pos heq] at hbuilt
    exact hphase index hbuilt
  · rw [if_neg heq] at hbuilt
    exact h.built r' index hbuilt

omit [DecidableEq W] in
/-- A load keeps what is settled. -/
theorem get_or_load_settled (h : Settled P s) (r : R) : Settled P (get_or_load s r) := by
  unfold get_or_load
  cases hload : s.loads r with
  | start =>
    cases s.index with
    | none => exact h.set_load fun _ hbuilt => nomatch hbuilt
    | some index => exact h.set_load fun _ hbuilt => nomatch hbuilt
  | missed =>
    dsimp only
    by_cases hlock : s.rebuild_lock.isSome
    · rw [if_pos hlock]
      exact h
    · rw [if_neg hlock]
      have hset : Settled P (s.set_load r .locked) := h.set_load fun _ hbuilt => nomatch hbuilt
      exact ⟨hset.files, hset.index, hset.built⟩
  | locked =>
    cases s.index with
    | none => exact h.set_load fun _ hbuilt => nomatch hbuilt
    | some index => exact h.set_load fun _ hbuilt => nomatch hbuilt
  | rebuilding =>
    apply h.set_load
    intro index hbuilt
    obtain rfl := LoadPhase.built.inj hbuilt
    exact h.files
  | built index =>
    have hset : Settled P (s.set_load r (.unlocking index)) :=
      h.set_load fun _ hbuilt => nomatch hbuilt
    refine ⟨hset.files, ?_, hset.built⟩
    intro inserted hinserted
    obtain rfl := Option.some.inj hinserted
    exact h.built r index hload
  | unlocking index =>
    have hset : Settled P (s.set_load r (.returned index)) :=
      h.set_load fun _ hbuilt => nomatch hbuilt
    exact ⟨hset.files, hset.index, hset.built⟩
  | returned index => exact h

omit [DecidableEq W] in
theorem get_or_load_loads_of_ne {r' : R} (hne : r' ≠ r) : (get_or_load s r).loads r' = s.loads r' := by
  have hset : ∀ phase, (s.set_load r phase).loads r' = s.loads r' := by
    intro phase
    rw [set_load_loads, if_neg hne]
  unfold get_or_load
  cases s.loads r with
  | start => cases s.index <;> exact hset _
  | missed =>
    dsimp only
    by_cases hlock : s.rebuild_lock.isSome
    · rw [if_pos hlock]
    · rw [if_neg hlock]
      exact hset _
  | locked => cases s.index <;> exact hset _
  | rebuilding => exact hset _
  | built index => exact hset _
  | unlocking index => exact hset _
  | returned index => rfl

omit [DecidableEq W] in
/-- Where properties are settled, a load comes to hold no index without them. -/
theorem get_or_load_carries (h : Settled P s) (hcarries : Carries P (s.loads r)) :
    Carries P ((get_or_load s r).loads r) := by
  have hset : ∀ phase, Carries P phase → Carries P ((s.set_load r phase).loads r) := by
    intro phase hphase
    rw [set_load_loads, if_pos rfl]
    exact hphase
  unfold get_or_load
  cases hload : s.loads r with
  | start =>
    cases hindex : s.index with
    | none => exact hset _ trivial
    | some index => exact hset _ (h.index index hindex)
  | missed =>
    dsimp only
    by_cases hlock : s.rebuild_lock.isSome
    · rw [if_pos hlock, hload]
      trivial
    · rw [if_neg hlock]
      exact hset _ trivial
  | locked =>
    cases hindex : s.index with
    | none => exact hset _ trivial
    | some index => exact hset _ (h.index index hindex)
  | rebuilding => exact hset _ h.files
  | built index => exact hset (.unlocking index) (h.built r index hload)
  | unlocking index =>
    rw [hload] at hcarries
    exact hset (.returned index) hcarries
  | returned index => exact hcarries

/-- **What is settled stays so**, where files only add to it. -/
theorem step_settled (hP : ∀ files f, P files → P (files ++ [f])) (h : Settled P s)
    (call : Call R W) : Settled P (step file s call) := by
  cases call with
  | load r => exact get_or_load_settled h r
  | write w =>
    dsimp only [step, brain_write]
    cases s.writes w with
    | start => exact ⟨hP _ _ h.files, h.index, h.built⟩
    | written => exact ⟨h.files, (fun _ hnone => nomatch hnone), h.built⟩
    | returned => exact h
    | failed => exact h
  | write_fails w =>
    dsimp only [step, brain_write_fails]
    cases s.writes w with
    | start => exact ⟨h.files, h.index, h.built⟩
    | written => exact h
    | returned => exact h
    | failed => exact h

theorem step_carries (h : Settled P s) (hcarries : Carries P (s.loads r)) (call : Call R W) :
    Carries P ((step file s call).loads r) := by
  cases call with
  | load r' =>
    by_cases heq : r = r'
    · subst heq
      exact get_or_load_carries h hcarries
    · show Carries P ((get_or_load s r').loads r)
      rw [get_or_load_loads_of_ne heq]
      exact hcarries
  | write w =>
    dsimp only [step, brain_write]
    cases s.writes w <;> exact hcarries
  | write_fails w =>
    dsimp only [step, brain_write_fails]
    cases s.writes w <;> exact hcarries

/-- **Calls that begin later return only what is settled.** -/
theorem run_carries (hP : ∀ files f, P files → P (files ++ [f])) (h : Settled P s)
    (hcarries : Carries P (s.loads r)) (calls : List (Call R W)) :
    Carries P ((run file s calls).loads r) := by
  induction calls generalizing s with
  | nil => exact hcarries
  | cons call calls ih => exact ih (step_settled hP h call) (step_carries h hcarries call)

/-! ## Indexes do not go back

The rebuild lock orders the rebuilds: while a call rebuilds there is no cached index, and no
other call rebuilds. -/

def holds_lock : LoadPhase F → Prop
  | .locked | .rebuilding | .built _ | .unlocking _ => True
  | .start | .missed | .returned _ => False

def rebuilds : LoadPhase F → Prop
  | .rebuilding | .built _ => True
  | .start | .missed | .locked | .unlocking _ | .returned _ => False

structure Ordered (s : Cache R W F) : Prop where
  lock : ∀ r, holds_lock (s.loads r) → s.rebuild_lock = some r
  empty : ∀ r, rebuilds (s.loads r) → s.index = none
  current : ∀ index, s.index = some index → index.files <+: s.files
  listed : ∀ r index, s.loads r = .built index → index.files <+: s.files
  latest : ∀ r index, s.loads r = .unlocking index ∨ s.loads r = .returned index →
    Settled (fun files => index.files <+: files) s

theorem prefix_append_file (index : BrainIndex F) (files : List F) (f : F)
    (h : index.files <+: files) : index.files <+: files ++ [f] :=
  h.trans (List.prefix_append files [f])

omit [DecidableEq R] [DecidableEq W] in
theorem initial_ordered (files : List F) : Ordered (initial files : Cache R W F) := by
  refine ⟨fun _ hlock => hlock.elim, fun _ _ => rfl, (fun _ hindex => nomatch hindex),
    (fun _ _ hbuilt => nomatch hbuilt), ?_⟩
  rintro r index (hload | hload)
  · exact nomatch hload
  · exact nomatch hload

omit [DecidableEq R] [DecidableEq W] in
theorem holds_lock_of_rebuilds {phase : LoadPhase F} (h : rebuilds phase) : holds_lock phase := by
  cases phase <;> trivial

omit [DecidableEq R] [DecidableEq W] in
/-- The lock has one holder. -/
theorem Ordered.holder_unique (h : Ordered s) {r r' : R} (hr : holds_lock (s.loads r))
    (hr' : holds_lock (s.loads r')) : r' = r :=
  Option.some.inj ((h.lock r' hr').symm.trans (h.lock r hr))

omit [DecidableEq R] [DecidableEq W] in
/-- The cached index is the latest that was built. -/
theorem Ordered.index_latest {index : BrainIndex F} (h : Ordered s) (hindex : s.index = some index) :
    Settled (fun files => index.files <+: files) s := by
  refine ⟨h.current index hindex, ?_, ?_⟩
  · intro other hother
    rw [hindex] at hother
    obtain rfl := Option.some.inj hother
    exact List.prefix_rfl
  · intro r other hbuilt
    have hnone := h.empty r (by rw [hbuilt]; trivial)
    rw [hindex] at hnone
    exact nomatch hnone

omit [DecidableEq W] in
theorem Ordered.set_load {phase : LoadPhase F} (h : Ordered s)
    (hlock : holds_lock phase → s.rebuild_lock = some r)
    (hempty : rebuilds phase → s.index = none)
    (hlisted : ∀ index, phase = .built index → index.files = s.files)
    (hlatest : ∀ index, phase = .unlocking index ∨ phase = .returned index →
      Settled (fun files => index.files <+: files) s) : Ordered (s.set_load r phase) := by
  have hsettled : ∀ {index : BrainIndex F}, Settled (fun files => index.files <+: files) s →
      Settled (fun files => index.files <+: files) (s.set_load r phase) := by
    intro index hsettled
    apply hsettled.set_load
    intro built hbuilt
    rw [hlisted built hbuilt]
    exact hsettled.files
  have hof : ∀ r', (r' = r ∧ (s.set_load r phase).loads r' = phase)
      ∨ (s.set_load r phase).loads r' = s.loads r' := by
    intro r'
    rw [set_load_loads]
    by_cases heq : r' = r
    · exact Or.inl ⟨heq, if_pos heq⟩
    · exact Or.inr (if_neg heq)
  refine ⟨?_, ?_, h.current, ?_, ?_⟩
  · intro r' hholds
    rcases hof r' with ⟨rfl, hphase⟩ | hphase
    · rw [hphase] at hholds
      exact hlock hholds
    · rw [hphase] at hholds
      exact h.lock r' hholds
  · intro r' hrebuilds
    rcases hof r' with ⟨rfl, hphase⟩ | hphase
    · rw [hphase] at hrebuilds
      exact hempty hrebuilds
    · rw [hphase] at hrebuilds
      exact h.empty r' hrebuilds
  · intro r' index hbuilt
    rcases hof r' with ⟨rfl, hphase⟩ | hphase
    · rw [hphase] at hbuilt
      rw [hlisted index hbuilt]
      exact List.prefix_rfl
    · rw [hphase] at hbuilt
      exact h.listed r' index hbuilt
  · intro r' index hload
    rcases hof r' with ⟨rfl, hphase⟩ | hphase
    · rw [hphase] at hload
      exact hsettled (hlatest index hload)
    · rw [hphase] at hload
      exact hsettled (h.latest r' index hload)

omit [DecidableEq W] in
/-- An insertion, by the holder of the lock. -/
theorem Ordered.insert {index : BrainIndex F} (h : Ordered s) (hload : s.loads r = .built index) :
    Ordered { s.set_load r (.unlocking index) with index := some index } := by
  have hholds : holds_lock (s.loads r) := by
    rw [hload]
    trivial
  have hother : ∀ {r' : R}, r' ≠ r → ¬ holds_lock (s.loads r') :=
    fun hne hr' => hne (h.holder_unique hholds hr')
  have hlisted := h.listed r index hload
  have hloads : ∀ r', (s.set_load r (.unlocking index)).loads r'
      = if r' = r then .unlocking index else s.loads r' := fun r' => set_load_loads s r r' _
  -- no call rebuilds any more
  have hnone : ∀ r', ¬ rebuilds ((s.set_load r (.unlocking index)).loads r') := by
    intro r' hrebuilds
    rw [hloads] at hrebuilds
    by_cases heq : r' = r
    · rw [if_pos heq] at hrebuilds
      exact hrebuilds
    · rw [if_neg heq] at hrebuilds
      exact hother heq (holds_lock_of_rebuilds hrebuilds)
  refine ⟨?_, fun r' hrebuilds => absurd hrebuilds (hnone r'), ?_, ?_, ?_⟩
  · intro r' hr'
    rw [hloads] at hr'
    by_cases heq : r' = r
    · rw [heq]
      exact h.lock r hholds
    · rw [if_neg heq] at hr'
      exact absurd hr' (hother heq)
  · intro inserted hinserted
    obtain rfl := Option.some.inj hinserted
    exact hlisted
  · intro r' other hbuilt
    exact absurd (by rw [hbuilt]; trivial) (hnone r')
  · intro r' other hload'
    -- what was held before is a part of what the lock holder had built
    have hpart : other.files <+: s.files ∧ other.files <+: index.files := by
      rw [hloads] at hload'
      by_cases heq : r' = r
      · rw [if_pos heq] at hload'
        rcases hload' with hload' | hload'
        · obtain rfl := LoadPhase.unlocking.inj hload'
          exact ⟨hlisted, List.prefix_rfl⟩
        · exact nomatch hload'
      · rw [if_neg heq] at hload'
        have hlatest := h.latest r' other hload'
        exact ⟨hlatest.files, hlatest.built r index hload⟩
    refine ⟨hpart.1, ?_, ?_⟩
    · intro inserted hinserted
      obtain rfl := Option.some.inj hinserted
      exact hpart.2
    · intro r'' built hbuilt
      exact absurd (by rw [hbuilt]; trivial) (hnone r'')

omit [DecidableEq W] in
theorem get_or_load_ordered (h : Ordered s) (r : R) : Ordered (get_or_load s r) := by
  unfold get_or_load
  cases hload : s.loads r with
  | start =>
    cases hindex : s.index with
    | none =>
      refine h.set_load (fun hlock => hlock.elim) (fun hrebuilds => hrebuilds.elim)
        (fun _ hbuilt => nomatch hbuilt) ?_
      rintro index (hphase | hphase)
      · exact nomatch hphase
      · exact nomatch hphase
    | some index =>
      refine h.set_load (fun hlock => hlock.elim) (fun hrebuilds => hrebuilds.elim)
        (fun _ hbuilt => nomatch hbuilt) ?_
      rintro other (hphase | hphase)
      · exact nomatch hphase
      · obtain rfl := LoadPhase.returned.inj hphase
        exact h.index_latest hindex
  | missed =>
    dsimp only
    by_cases hlock : s.rebuild_lock.isSome
    · rw [if_pos hlock]
      exact h
    · rw [if_neg hlock]
      rw [Option.not_isSome_iff_eq_none] at hlock
      have hfree : ∀ r', ¬ holds_lock (s.loads r') := by
        intro r' hholds
        have hheld := h.lock r' hholds
        rw [hlock] at hheld
        exact nomatch hheld
      have htaken : Ordered { s with rebuild_lock := some r } := by
        refine ⟨fun r' hholds => absurd hholds (hfree r'), h.empty, h.current, h.listed, ?_⟩
        intro r' index hphase
        have hlatest := h.latest r' index hphase
        exact ⟨hlatest.files, hlatest.index, hlatest.built⟩
      refine @Ordered.set_load _ _ _ _ _ r .locked htaken (fun _ => rfl) (fun hrebuilds => hrebuilds.elim)
        (fun _ hbuilt => nomatch hbuilt) ?_
      rintro index (hphase | hphase)
      · exact nomatch hphase
      · exact nomatch hphase
  | locked =>
    have hheld : s.rebuild_lock = some r := h.lock r (by rw [hload]; trivial)
    cases hindex : s.index with
    | none =>
      refine h.set_load (fun _ => hheld) (fun _ => hindex) (fun _ hbuilt => nomatch hbuilt) ?_
      rintro index (hphase | hphase)
      · exact nomatch hphase
      · exact nomatch hphase
    | some index =>
      refine h.set_load (fun _ => hheld) (fun hrebuilds => hrebuilds.elim)
        (fun _ hbuilt => nomatch hbuilt) ?_
      rintro other (hphase | hphase)
      · obtain rfl := LoadPhase.unlocking.inj hphase
        exact h.index_latest hindex
      · exact nomatch hphase
  | rebuilding =>
    have hheld : s.rebuild_lock = some r := h.lock r (by rw [hload]; trivial)
    have hempty : s.index = none := h.empty r (by rw [hload]; trivial)
    refine h.set_load (fun _ => hheld) (fun _ => hempty) ?_ ?_
    · intro index hphase
      obtain rfl := LoadPhase.built.inj hphase
      rfl
    · rintro index (hphase | hphase)
      · exact nomatch hphase
      · exact nomatch hphase
  | built index => exact h.insert hload
  | unlocking index =>
    have hholds : holds_lock (s.loads r) := by
      rw [hload]
      trivial
    have hreturned : Ordered (s.set_load r (.returned index)) := by
      refine h.set_load (fun hlock => hlock.elim) (fun hrebuilds => hrebuilds.elim)
        (fun _ hbuilt => nomatch hbuilt) ?_
      rintro other (hphase | hphase)
      · exact nomatch hphase
      · obtain rfl := LoadPhase.returned.inj hphase
        exact h.latest r index (Or.inl hload)
    refine ⟨?_, hreturned.empty, hreturned.current, hreturned.listed, ?_⟩
    · intro r' hr'
      change holds_lock ((s.set_load r (.returned index)).loads r') at hr'
      rw [set_load_loads] at hr'
      by_cases heq : r' = r
      · rw [if_pos heq] at hr'
        exact hr'.elim
      · rw [if_neg heq] at hr'
        exact absurd (h.holder_unique hholds hr') heq
    · intro r' other hphase
      have hlatest := hreturned.latest r' other hphase
      exact ⟨hlatest.files, hlatest.index, hlatest.built⟩
  | returned index => exact h

/-- **The rebuilds stay ordered.** -/
theorem step_ordered (h : Ordered s) (call : Call R W) : Ordered (step file s call) := by
  cases call with
  | load r => exact get_or_load_ordered h r
  | write w =>
    have hsettled : ∀ index : BrainIndex F, Settled (fun files => index.files <+: files) s →
        Settled (fun files => index.files <+: files) (brain_write file s w) :=
      fun index hsettled => step_settled (prefix_append_file index) hsettled (.write w)
    dsimp only [step, brain_write] at hsettled ⊢
    cases hwrite : s.writes w with
    | start =>
      rw [hwrite] at hsettled
      refine ⟨h.lock, h.empty, ?_, ?_, fun r index hload => hsettled index (h.latest r index hload)⟩
      · exact fun index hindex => prefix_append_file index _ _ (h.current index hindex)
      · exact fun r index hload => prefix_append_file index _ _ (h.listed r index hload)
    | written =>
      rw [hwrite] at hsettled
      exact ⟨h.lock, fun _ _ => rfl, (fun _ hnone => nomatch hnone), h.listed,
        fun r index hload => hsettled index (h.latest r index hload)⟩
    | returned => exact h
    | failed => exact h
  | write_fails w =>
    dsimp only [step, brain_write_fails]
    cases s.writes w with
    | start =>
      refine ⟨h.lock, h.empty, h.current, h.listed, ?_⟩
      intro r index hload
      have hlatest := h.latest r index hload
      exact ⟨hlatest.files, hlatest.index, hlatest.built⟩
    | written => exact h
    | returned => exact h
    | failed => exact h

theorem run_ordered (h : Ordered s) (calls : List (Call R W)) : Ordered (run file s calls) := by
  induction calls generalizing s with
  | nil => exact h
  | cons call calls ih => exact ih (step_ordered h call)

/-! ## Written files are visible -/

/-- A write that is about to remove the cached index meets no index that is built without its
file and still to be inserted. -/
def Quiet (file : W → F) (s : Cache R W F) : Call R W → Prop
  | .write w => s.writes w = .written →
      ∀ r index, s.loads r = .built index → file w ∈ index.files
  | .load _ | .write_fails _ => True

def AllQuiet (file : W → F) : Cache R W F → List (Call R W) → Prop
  | _, [] => True
  | s, call :: calls => Quiet file s call ∧ AllQuiet file (step file s call) calls

structure Shown (file : W → F) (s : Cache R W F) : Prop where
  written : ∀ w, s.writes w = .written → file w ∈ s.files
  returned : ∀ w, s.writes w = .returned → Settled (file w ∈ ·) s

omit [DecidableEq W] in
theorem get_or_load_frame (s : Cache R W F) (r : R) :
    (get_or_load s r).writes = s.writes ∧ (get_or_load s r).files = s.files := by
  unfold get_or_load
  cases s.loads r with
  | start => cases s.index <;> exact ⟨rfl, rfl⟩
  | missed =>
    dsimp only
    by_cases hlock : s.rebuild_lock.isSome
    · rw [if_pos hlock]
      exact ⟨rfl, rfl⟩
    · rw [if_neg hlock]
      exact ⟨rfl, rfl⟩
  | locked => cases s.index <;> exact ⟨rfl, rfl⟩
  | rebuilding => exact ⟨rfl, rfl⟩
  | built index => exact ⟨rfl, rfl⟩
  | unlocking index => exact ⟨rfl, rfl⟩
  | returned index => exact ⟨rfl, rfl⟩

theorem mem_append_file (f : F) (files : List F) (g : F) (h : f ∈ files) : f ∈ files ++ [g] :=
  List.mem_append_left [g] h

theorem step_shown {call : Call R W} (h : Shown file s) (hquiet : Quiet file s call) :
    Shown file (step file s call) := by
  have hsettled : ∀ w, s.writes w = .returned → Settled (file w ∈ ·) (step file s call) :=
    fun w hreturned => step_settled (mem_append_file (file w)) (h.returned w hreturned) call
  cases call with
  | load r =>
    obtain ⟨hwrites, hfiles⟩ := get_or_load_frame s r
    refine ⟨?_, ?_⟩
    · intro w hwritten
      change (get_or_load s r).writes w = .written at hwritten
      rw [hwrites] at hwritten
      show file w ∈ (get_or_load s r).files
      rw [hfiles]
      exact h.written w hwritten
    · intro w hreturned
      change (get_or_load s r).writes w = .returned at hreturned
      rw [hwrites] at hreturned
      exact hsettled w hreturned
  | write w =>
    dsimp only [step, brain_write] at hsettled ⊢
    cases hwrite : s.writes w with
    | start =>
      rw [hwrite] at hsettled
      refine ⟨?_, ?_⟩
      · intro w' hwritten
        change (s.set_write w .written).writes w' = .written at hwritten
        rw [set_write_writes] at hwritten
        by_cases heq : w' = w
        · rw [heq]
          exact List.mem_append_right _ (List.mem_singleton.mpr rfl)
        · rw [if_neg heq] at hwritten
          exact List.mem_append_left _ (h.written w' hwritten)
      · intro w' hreturned
        apply hsettled
        change (s.set_write w .written).writes w' = .returned at hreturned
        rw [set_write_writes] at hreturned
        by_cases heq : w' = w
        · rw [if_pos heq] at hreturned
          exact nomatch hreturned
        · rw [if_neg heq] at hreturned
          exact hreturned
    | written =>
      rw [hwrite] at hsettled
      refine ⟨?_, ?_⟩
      · intro w' hwritten
        change (s.set_write w .returned).writes w' = .written at hwritten
        rw [set_write_writes] at hwritten
        by_cases heq : w' = w
        · rw [if_pos heq] at hwritten
          exact nomatch hwritten
        · rw [if_neg heq] at hwritten
          exact h.written w' hwritten
      · intro w' hreturned
        change (s.set_write w .returned).writes w' = .returned at hreturned
        rw [set_write_writes] at hreturned
        by_cases heq : w' = w
        · rw [heq]
          exact ⟨h.written w hwrite, (fun _ hnone => nomatch hnone), hquiet hwrite⟩
        · rw [if_neg heq] at hreturned
          exact hsettled w' hreturned
    | returned => exact h
    | failed => exact h
  | write_fails w =>
    dsimp only [step, brain_write_fails] at hsettled ⊢
    cases hwrite : s.writes w with
    | start =>
      rw [hwrite] at hsettled
      have hof : ∀ w' phase, (s.set_write w .failed).writes w' = phase → phase ≠ .failed →
          s.writes w' = phase := by
        intro w' phase hphase hne
        rw [set_write_writes] at hphase
        by_cases heq : w' = w
        · rw [if_pos heq] at hphase
          exact absurd hphase.symm hne
        · rw [if_neg heq] at hphase
          exact hphase
      refine ⟨?_, ?_⟩
      · exact fun w' hwritten => h.written w' (hof w' _ hwritten (by decide))
      · exact fun w' hreturned => hsettled w' (hof w' _ hreturned (by decide))
    | written => exact h
    | returned => exact h
    | failed => exact h

theorem run_shown {calls : List (Call R W)} (h : Shown file s) (hquiet : AllQuiet file s calls) :
    Shown file (run file s calls) := by
  induction calls generalizing s with
  | nil => exact h
  | cons call calls ih => exact ih (step_shown h hquiet.1) hquiet.2

theorem allQuiet_append {calls calls' : List (Call R W)}
    (h : AllQuiet file s (calls ++ calls')) : AllQuiet file s calls := by
  induction calls generalizing s with
  | nil => trivial
  | cons call calls ih => exact ⟨h.1, ih h.2⟩

/-! ## The whole run -/

/-- A load that begins after a write has returned ok gives an index of a listing with the
file. -/
def Visible (file : W → F) (files : List F) (calls : List (Call R W)) : Prop :=
  ∀ before after (w : W) (r : R) index, calls = before ++ after →
    (run file (initial files) before).writes w = .returned →
    (run file (initial files) before).loads r = .start →
    (run file (initial files) calls).loads r = .returned index → file w ∈ index.files

/-- A load that begins after another has returned gives no older index. -/
def NeverOlder (file : W → F) (files : List F) (calls : List (Call R W)) : Prop :=
  ∀ before after (r r' : R) index index', calls = before ++ after →
    (run file (initial files) before).loads r = .returned index →
    (run file (initial files) before).loads r' = .start →
    (run file (initial files) calls).loads r' = .returned index' → index.files <+: index'.files

/-- **A stale index is served**: where a write meets a rebuild without its file, the rebuild can
insert it next, and a load that begins then returns it. -/
theorem stale_index_returned {w : W} {r r' : R} {index : BrainIndex F}
    (hwrite : s.writes w = .written) (hload : s.loads r = .built index)
    (hstart : s.loads r' = .start) :
    (run file s [.write w]).writes w = .returned ∧ (run file s [.write w]).loads r' = .start
      ∧ (run file s [.write w, .load r, .load r']).loads r' = .returned index := by
  have hne : r' ≠ r := by
    rintro rfl
    rw [hload] at hstart
    exact nomatch hstart
  have hwritten : step file s (.write w) = { s.set_write w .returned with index := none } := by
    simp only [step, brain_write, hwrite]
  have hinserted : step file { s.set_write w .returned with index := none } (.load r)
      = { (s.set_write w .returned).set_load r (.unlocking index) with index := some index } := by
    simp only [step, get_or_load, set_write, hload]
    rfl
  refine ⟨?_, ?_, ?_⟩
  · show (step file s (.write w)).writes w = .returned
    rw [hwritten]
    exact (set_write_writes s w w .returned).trans (if_pos rfl)
  · show (step file s (.write w)).loads r' = .start
    rw [hwritten]
    exact hstart
  · show (step file (step file (step file s (.write w)) (.load r)) (.load r')).loads r' = _
    rw [hwritten, hinserted]
    have hfirst : ((s.set_write w .returned).set_load r (.unlocking index)).loads r' = .start := by
      rw [set_load_loads, if_neg hne]
      exact hstart
    simp only [step, get_or_load, hfirst]
    exact (set_load_loads _ r' r' _).trans (if_pos rfl)

/-- A rebuild, a write and another rebuild, one after the other. -/
def quiet_calls : List (Call Bool Unit) :=
  [.load false, .load false, .load false, .load false, .load false, .load false,
    .write (), .write (),
    .load true, .load true, .load true, .load true, .load true, .load true]

/-- The directory is read, then a file is written and the write returns, then the index is
inserted. The next load begins after the write and finds that index. -/
def stale_calls : List (Call Bool Unit) :=
  [.load false, .load false, .load false, .load false, .write (), .write (), .load false,
    .load true]

end OvcaCore.BrainCache

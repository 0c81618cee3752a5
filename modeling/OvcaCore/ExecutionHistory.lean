/-
The history of an execution run under concurrent callers.

Any number of callers use the authority on one run, each performing its loads
and its compare-and-swap at times of its own. `Writes` says what one commit is:
the caller's operation, run alone on the state before it, writes exactly that
state. `durable_history` says that under every schedule the row of the run is a
sequence of such commits, and that callers are told the truth about theirs.
-/
import OvcaCore.ExecutionAgreement

set_option autoImplicit false

namespace OvcaCore

open OvcaCore.Checks OvcaCore.OrderedMaps OvcaCore.ExecutionLifecycle OvcaCore.Interleaving

namespace ExecutionLifecycleKernel

/-- A restored kernel has the snapshot it was restored from. -/
theorem snapshot_of_restore {run_id : RunId} {tasks : List Task} {retry_budget : RetryBudget}
    {snapshot : ExecutionLifecycleSnapshot} {k : ExecutionLifecycleKernel}
    (h : restore run_id tasks retry_budget snapshot = .ok k) : k.snapshot = snapshot := by
  obtain ⟨k₀, hnew⟩ : ∃ k₀, new run_id tasks retry_budget = .ok k₀ := by
    simp only [restore, bind_eq_ok, lift_eq_ok, mapError_eq_ok] at h
    obtain ⟨k₀, hnew, _⟩ := h
    exact ⟨k₀, hnew⟩
  obtain ⟨hrun, hgoal, hmax, _, _, _, rfl⟩ := (restore_eq_ok hnew).mp h
  have hk₀ := new_eq_ok hnew
  have hrun₀ : k₀.run_id = run_id := by rw [hk₀]
  have hbudget₀ : k₀.retry_budget = retry_budget := by rw [hk₀]
  obtain ⟨_, _, _, _, _⟩ := snapshot
  simp only [ExecutionLifecycleKernel.snapshot, hrun₀, hbudget₀, ExecutionLifecycleSnapshot.mk.injEq,
    and_self, and_true]
  exact ⟨hrun.symm, hgoal.symm, hmax.symm⟩

end ExecutionLifecycleKernel

namespace DurableExecutionAuthority

open Journal

variable {E R P : Type}

/-! ## What one commit does to the envelope -/

/-- The operation of a command on an envelope, where it writes: a lifecycle
command replaces the snapshot by the kernel's next one, a projection writer
replaces its projection. -/
inductive Applies (a : DurableExecutionAuthority E R P) (run_id : RunId) :
    Command E R → ExecutionRunEnvelope E R → ExecutionRunEnvelope E R → Prop
  | lifecycle (request : ExecutionRequest) (envelope : ExecutionRunEnvelope E R)
      (k k' : ExecutionLifecycleKernel) (response : ExecutionResponse)
      (hrestore : a.restore_kernel run_id envelope = .ok k)
      (hstep : k.step request = .ok (response, k')) (hchanged : k'.snapshot ≠ k.snapshot) :
      Applies a run_id (.lifecycle request) envelope { envelope with snapshot := k'.snapshot }
  | engineer_verifier (revision : ℕ) (digest : Option String) (next : E)
      (envelope : ExecutionRunEnvelope E R)
      (hdigest : envelope.engineer_verifier.map a.engineer_verifier.state_digest = digest)
      (hadmits : Admits a.engineer_verifier envelope.engineer_verifier next) :
      Applies a run_id (.engineer_verifier revision digest next) envelope
        { envelope with engineer_verifier := some next }
  | independent_review (revision : ℕ) (digest : Option String) (next : R)
      (envelope : ExecutionRunEnvelope E R)
      (hdigest : envelope.independent_review.map a.independent_review.state_digest = digest)
      (hadmits : Admits a.independent_review envelope.independent_review next) :
      Applies a run_id (.independent_review revision digest next) envelope
        { envelope with
          contract_version := EXECUTION_ENVELOPE_V2
          independent_review := some next }

/-- No operation changes the definition of the run. -/
theorem Applies.same_definition {a : DurableExecutionAuthority E R P} {run_id : RunId}
    {command : Command E R} {envelope envelope' : ExecutionRunEnvelope E R}
    (h : Applies a run_id command envelope envelope') :
    DurableExecutionAuthority.same_definition envelope' envelope := by
  cases h <;> exact ⟨rfl, rfl, rfl⟩

variable [DecidableEq E] [DecidableEq R]

/-- Run alone on any store whose row for this run is `state`, the command
succeeds and leaves `state'` in that row. -/
def Alone (a : DurableExecutionAuthority E R P) (run_id : RunId) (command : Command E R)
    (state state' : VersionedState P) : Prop :=
  ∃ response, ∀ store : VersionedStateStore P, store[entity_key run_id]? = some state →
    (a.execute run_id command).run StoreOp.perform store =
      (.ok response, store.insert (entity_key run_id) state')

/-- The commit after `state` that a command makes. -/
structure Writes (a : DurableExecutionAuthority E R P) (run_id : RunId) (command : Command E R)
    (state state' : VersionedState P) : Prop where
  alone : a.Alone run_id command state state'
  applies : ∃ envelope envelope', a.serde_json.from_slice state.payload = .ok envelope ∧
    a.serde_json.from_slice state'.payload = .ok envelope' ∧
    Applies a run_id command envelope envelope'

/-- The first commit of a run: an initialization, that run alone on any store
without the row leaves this state in it. -/
def Begins (a : DurableExecutionAuthority E R P) (run_id : RunId) (command : Command E R)
    (state : VersionedState P) : Prop :=
  ∃ tasks retry_budget k, command = .initialize_run tasks retry_budget ∧
    ExecutionLifecycleKernel.new run_id tasks retry_budget = .ok k ∧
    a.serde_json.from_slice state.payload =
      .ok (initial_envelope run_id tasks retry_budget k) ∧
    ∃ response, ∀ store : VersionedStateStore P, store[entity_key run_id]? = none →
      (a.execute run_id command).run StoreOp.perform store =
        (.ok response, store.insert (entity_key run_id) state)

/-! ## What callers are told -/

/-- The state of the run that a caller was told about. -/
def Reported {ι : Type} (a : DurableExecutionAuthority E R P) (run_id : RunId)
    (w : Journal ι P) (state : VersionedState P) (revision : ℕ)
    (envelope : ExecutionRunEnvelope E R) : Prop :=
  w.At (entity_key run_id) state ∧ state.revision = revision ∧
    a.serde_json.from_slice state.payload = .ok envelope

/-- What the journal says about caller `i`, going by the answer it got: told
that its change was applied, it has exactly one commit, and that is the state it
was told; told anything else, it has none. A lifecycle command that has no
commit found the kernel unchanged by its request. -/
def Told {ι : Type} (a : DurableExecutionAuthority E R P) (run_id : RunId)
    (command : Command E R) (i : ι) :
    Except (Fault DurableExecutionError) (Response E R) → Journal ι P → Prop
  | .error _, w => w.Fresh i
  | .ok (.initialized result), w =>
    if result.initialized then
      ∃ state, a.Reported run_id w state result.state.revision result.state.envelope ∧
        w.Once (entity_key run_id) i state
    else w.Fresh i
  | .ok (.command result), w =>
    ∃ state envelope, a.Reported run_id w state result.revision envelope ∧
      envelope.snapshot = result.snapshot ∧
      (w.Once (entity_key run_id) i state ∨
        w.Fresh i ∧ ∃ request k k', command = .lifecycle request ∧
          a.restore_kernel run_id envelope = .ok k ∧
          k.step request = .ok (result.output, k') ∧ k'.snapshot = k.snapshot)
  | .ok (.projection (.Applied loaded)), w =>
    ∃ state, a.Reported run_id w state loaded.revision loaded.envelope ∧
      w.Once (entity_key run_id) i state
  | .ok (.projection (.Unchanged _)), w => w.Fresh i
  | .ok (.projection (.Conflict _)), w => w.Fresh i

omit [DecidableEq E] [DecidableEq R] in
theorem Reported.others {ι : Type} {a : DurableExecutionAuthority E R P} {run_id : RunId}
    {w w' : Journal ι P} {state : VersionedState P} {revision : ℕ}
    {envelope : ExecutionRunEnvelope E R} {i : ι}
    (h : a.Reported run_id w state revision envelope) (hw : Others i w w') :
    a.Reported run_id w' state revision envelope := ⟨h.1.others hw, h.2⟩

/-! ## The operations run alone -/

theorem run_execute_lifecycle {a : DurableExecutionAuthority E R P} {run_id : RunId}
    {request : ExecutionRequest} {current : VersionedState P}
    (hrange : current.revision + 1 ≤ I64_MAX) {output : ExecutionResponse}
    {snapshot : ExecutionLifecycleSnapshot} {payload : P}
    (hround : a.apply_round run_id request current =
      .ok ⟨output, snapshot, current.revision, some payload⟩) :
    a.Alone run_id (.lifecycle request) current ⟨payload, current.revision + 1⟩ := by
  refine ⟨.command ⟨output, snapshot, current.revision + 1⟩, fun store hrow => ?_⟩
  have hload : (a.apply run_id request).run StoreOp.perform store =
      (a.apply_loop run_id request a.cas_retry_limit current).run StoreOp.perform store :=
    run_load_row hrow _
  obtain ⟨retry, hretry⟩ := exists_apply_once a run_id request a.cas_retry_limit
  have hrun := run_apply_once_changed retry hrow hrange hround
  rw [← hretry, ← hload] at hrun
  exact Prog.run_bind_of_ok hrun

omit [DecidableEq E] [DecidableEq R] in
/-- What was written is read back. -/
theorem decode_written {a : DurableExecutionAuthority E R P} (hround : a.serde_json.RoundTrips)
    {run_id : RunId} {envelope : ExecutionRunEnvelope E R} {payload : P}
    (hwritten : a.serde_json.to_vec envelope = .ok payload)
    (hrestores : ∃ k, a.restore_kernel run_id envelope = .ok k) (revision : ℕ) :
    a.decode_and_restore run_id ⟨payload, revision⟩ = .ok ⟨envelope, revision⟩ :=
  decode_and_restore_eq_ok.mpr ⟨hround envelope payload hwritten, rfl, hrestores⟩

omit [DecidableEq E] [DecidableEq R] in
theorem run_compare_and_swap_projection {S X : Type} [DecidableEq S]
    {a : DurableExecutionAuthority E R P} (hround : a.serde_json.RoundTrips)
    {rules : ProjectionRules E S X} {slot : ProjectionSlot E R S X} {run_id : RunId}
    {digest : Option String} {next : S} (hvalid : rules.validate next = .ok ())
    {state : VersionedState P} {payload : P}
    (hplan : a.plan_swap rules slot run_id state.revision digest next state = .ok (.swap payload))
    {envelope : ExecutionRunEnvelope E R}
    (hswaps : a.Swaps rules slot run_id digest next envelope payload)
    (hrange : state.revision + 1 ≤ I64_MAX) {store : VersionedStateStore P}
    (hrow : store[entity_key run_id]? = some state) :
    (a.compare_and_swap_projection rules slot run_id state.revision digest next).run
        StoreOp.perform store =
      (.ok (.Applied ⟨slot.set envelope next, state.revision + 1⟩),
        store.insert (entity_key run_id) ⟨payload, state.revision + 1⟩) := by
  have hvalid' : (lift ((rules.validate next).mapError slot.wrap) : Durable Unit) = .ok () := by
    rw [lift_eq_ok, mapError_eq_ok]
    exact hvalid
  have hswap : (StoreOp.compare_and_swap (entity_key run_id) state.revision payload).perform
      store = _ := VersionedStateStore.compare_and_swap_applied payload hrow hrange
  have hdecode := decode_written hround hswaps.written hswaps.restores (state.revision + 1)
  unfold compare_and_swap_projection
  rw [hvalid', Prog.liftM_eq, Prog.done_ok_bind, run_load_row hrow, hplan, Prog.liftM_eq,
    Prog.done_ok_bind, Prog.run_op, hswap]
  dsimp only
  rw [hdecode]
  rfl

theorem run_execute_initialize {a : DurableExecutionAuthority E R P}
    (hround : a.serde_json.RoundTrips) {run_id : RunId} {tasks : List Task}
    {retry_budget : RetryBudget} {envelope : ExecutionRunEnvelope E R} {payload : P}
    (hprepare : a.prepare_run run_id tasks retry_budget = .ok (envelope, payload))
    (hwritten : a.serde_json.to_vec envelope = .ok payload)
    (hrestores : ∃ k, a.restore_kernel run_id envelope = .ok k)
    {store : VersionedStateStore P} (hrow : store[entity_key run_id]? = none) :
    (a.execute run_id (.initialize_run tasks retry_budget)).run StoreOp.perform store =
      (.ok (.initialized ⟨⟨envelope, 0⟩, true⟩),
        store.insert (entity_key run_id) ⟨payload, 0⟩) := by
  have hperform : (StoreOp.initialize_entity (entity_key run_id) payload).perform store = _ :=
    VersionedStateStore.initialize_entity_of_none hrow payload
  have hcheck : a.check_definition run_id envelope ⟨payload, 0⟩ true = .ok ⟨⟨envelope, 0⟩, true⟩ := by
    have hsame : DurableExecutionAuthority.same_definition envelope envelope := ⟨rfl, rfl, rfl⟩
    simp only [check_definition, bind_eq_ok, reject_if_eq_ok, pure_eq_ok, exists_const, not_not]
    exact ⟨_, decode_written hround hwritten hrestores 0, hsame, rfl⟩
  have hrun : (a.initialize_run run_id tasks retry_budget).run StoreOp.perform store =
      (.ok ⟨⟨envelope, 0⟩, true⟩, store.insert (entity_key run_id) ⟨payload, 0⟩) := by
    unfold initialize_run
    rw [hprepare, Prog.liftM_eq, Prog.done_ok_bind, Prog.run_op, hperform]
    dsimp only
    rw [hcheck]
    rfl
  exact Prog.run_bind_of_ok hrun

/-! ## Every operation respects the discipline -/

section Safety

variable {ι : Type} {a : DurableExecutionAuthority E R P} {run_id : RunId}
  {calls : ι → Command E R} {i : ι} {w : Journal ι P}

/-- Callers that write only what their commands write. -/
abbrev SafeCall {α : Type} (a : DurableExecutionAuthority E R P) (run_id : RunId)
    (calls : ι → Command E R) (i : ι)
    (Q : Except (Fault DurableExecutionError) α → Journal ι P → Prop)
    (p : StoreProg P (Fault DurableExecutionError) α) (w : Journal ι P) : Prop :=
  SafeProg (entity_key run_id) (fun i => a.Begins run_id (calls i))
    (fun i => a.Writes run_id (calls i)) i Q p w

/-- One round of `apply`, when what it does on a conflict is safe. -/
theorem safe_apply_once (hround : a.serde_json.RoundTrips) {request : ExecutionRequest}
    (hcall : calls i = .lifecycle request)
    {retry : VersionedState P → StoreProg P (Fault DurableExecutionError) DurableCommandResult}
    (hretry : ∀ t, Others i w t → ∀ current, t.At (entity_key run_id) current →
      SafeCall a run_id calls i (fun r => a.Told run_id (calls i) i (r.map .command))
        (retry current) t)
    {current : VersionedState P} (hat : w.At (entity_key run_id) current) (hfresh : w.Fresh i) :
    SafeCall a run_id calls i (fun r => a.Told run_id (calls i) i (r.map .command))
      (a.apply_once run_id request retry current) w := by
  unfold apply_once
  cases hr : a.apply_round run_id request current with
  | error e =>
    rw [Prog.liftM_eq, Prog.done_error_bind]
    exact safe_done fun t ht => hfresh.others ht
  | ok round =>
    obtain ⟨loaded, k, k', response, hloaded, hk, hstep, hcases⟩ := apply_round_eq_ok.mp hr
    obtain ⟨hslice, hrevision, _⟩ := decode_and_restore_eq_ok.mp hloaded
    have hsnapshot : k.snapshot = loaded.envelope.snapshot :=
      ExecutionLifecycleKernel.snapshot_of_restore (restore_kernel_eq_ok.mp hk).2
    rw [Prog.liftM_eq, Prog.done_ok_bind]
    rcases hcases with ⟨hsame, rfl⟩ | ⟨hchanged, payload, hrestores, hwritten, rfl⟩
    · refine safe_done fun t ht => ?_
      refine ⟨current, loaded.envelope, ⟨hat.others ht, hrevision.symm, hslice⟩, ?_, Or.inr ?_⟩
      · rw [← hsnapshot, ← hsame]
      · exact ⟨hfresh.others ht, request, k, k', hcall, hk, hstep, hsame⟩
    · dsimp only
      rw [hrevision] at hr ⊢
      refine safe_compare_and_swap hat (fun hrange => ?_) (fun t e ht => ?_)
        (fun t ht _ state hstate => hretry t ht state hstate) (fun t ht hlength => ?_)
      · refine ⟨?_, loaded.envelope, { loaded.envelope with snapshot := k'.snapshot }, hslice,
          hround _ _ hwritten, ?_⟩
        · rw [hcall]
          exact run_execute_lifecycle hrange hr
        · rw [hcall]
          exact Applies.lifecycle request loaded.envelope k k' response hk hstep hchanged
      · exact safe_done fun t' ht' => (hfresh.others ht).others ht'
      · refine safe_done fun t' ht' => ?_
        have honce := (hfresh.others ht).once (entity_key run_id)
          ⟨payload, current.revision + 1⟩ hlength
        exact ⟨⟨payload, current.revision + 1⟩, { loaded.envelope with snapshot := k'.snapshot },
          Reported.others ⟨⟨_, honce.1, rfl⟩, rfl, hround _ _ hwritten⟩ ht', rfl,
          Or.inl (honce.others ht')⟩

/-- The loop of `apply`, by induction on the conflicts it may still retry. -/
theorem safe_apply_loop (hround : a.serde_json.RoundTrips) {request : ExecutionRequest}
    (hcall : calls i = .lifecycle request) (remaining : ℕ) {current : VersionedState P}
    (hat : w.At (entity_key run_id) current) (hfresh : w.Fresh i) :
    SafeCall a run_id calls i (fun r => a.Told run_id (calls i) i (r.map .command))
      (a.apply_loop run_id request remaining current) w := by
  induction remaining generalizing w current with
  | zero =>
    refine safe_apply_once hround hcall (fun t ht state _ => ?_) hat hfresh
    exact safe_done fun t' ht' => (hfresh.others ht).others ht'
  | succ remaining ih =>
    exact safe_apply_once hround hcall
      (fun t ht state hstate => ih hstate (hfresh.others ht)) hat hfresh

/-- Loading the row of a run, before anything else. -/
theorem safe_load_row {α : Type}
    {Q : Except (Fault DurableExecutionError) α → Journal ι P → Prop}
    {f : VersionedState P → StoreProg P (Fault DurableExecutionError) α}
    (hmissing : ∀ t e, Others i w t → Q (.error e) t)
    (hfound : ∀ t, Others i w t → ∀ current, t.At (entity_key run_id) current →
      SafeCall a run_id calls i Q (f current) t) :
    SafeCall a run_id calls i Q (load_row run_id >>= f) w := by
  refine safe_load fun t ht _ row hrow => ?_
  cases row with
  | none => exact safe_done fun t' ht' => hmissing t' _ (ht.trans ht')
  | some current => exact hfound t ht current (hrow current rfl)

theorem safe_apply (hround : a.serde_json.RoundTrips) {request : ExecutionRequest}
    (hcall : calls i = .lifecycle request) (hfresh : w.Fresh i) :
    SafeCall a run_id calls i (fun r => a.Told run_id (calls i) i (r.map .command))
      (a.apply run_id request) w :=
  safe_load_row (fun _ _ ht => hfresh.others ht)
    fun _ ht _ hat => safe_apply_loop hround hcall a.cas_retry_limit hat (hfresh.others ht)

/-- A projection writer, when its commit is what its command writes. -/
theorem safe_compare_and_swap_projection {S X : Type} [DecidableEq S]
    (hround : a.serde_json.RoundTrips) {rules : ProjectionRules E S X}
    {slot : ProjectionSlot E R S X} {revision : ℕ} {digest : Option String} {next : S}
    (hwrites : ∀ state envelope payload, state.revision = revision →
      rules.validate next = .ok () →
      a.serde_json.from_slice state.payload = .ok envelope →
      a.plan_swap rules slot run_id state.revision digest next state = .ok (.swap payload) →
      a.Swaps rules slot run_id digest next envelope payload →
      state.revision + 1 ≤ I64_MAX →
      a.Writes run_id (calls i) state ⟨payload, state.revision + 1⟩)
    (hfresh : w.Fresh i) :
    SafeCall a run_id calls i (fun r => a.Told run_id (calls i) i (r.map .projection))
      (a.compare_and_swap_projection rules slot run_id revision digest next) w := by
  unfold compare_and_swap_projection
  cases hv : (lift ((rules.validate next).mapError slot.wrap) : Durable Unit) with
  | error e =>
    rw [Prog.liftM_eq, Prog.done_error_bind]
    exact safe_done fun t ht => hfresh.others ht
  | ok u =>
    have hvalid : rules.validate next = .ok () := by
      rw [lift_eq_ok, mapError_eq_ok] at hv
      exact hv
    rw [Prog.liftM_eq, Prog.done_ok_bind]
    refine safe_load_row (fun t e ht => hfresh.others ht) fun t ht current hat => ?_
    cases hp : a.plan_swap rules slot run_id revision digest next current with
    | error e =>
      rw [Prog.liftM_eq, Prog.done_error_bind]
      exact safe_done fun t' ht' => (hfresh.others ht).others ht'
    | ok plan =>
      rw [Prog.liftM_eq, Prog.done_ok_bind]
      rcases plan_swap_eq_ok hp with ⟨loaded, rfl | rfl⟩ | ⟨loaded, payload, rfl, hloaded, hrev, hswaps⟩
      · exact safe_done fun t' ht' => (hfresh.others ht).others ht'
      · exact safe_done fun t' ht' => (hfresh.others ht).others ht'
      · obtain ⟨hslice, hrevision, _⟩ := decode_and_restore_eq_ok.mp hloaded
        have hcurrent : current.revision = revision := hrevision.symm.trans hrev
        subst hcurrent
        dsimp only
        refine safe_compare_and_swap hat (fun hrange => ?_) (fun t' e ht' => ?_)
          (fun t' ht' _ state _ => ?_) (fun t' ht' hlength => ?_)
        · exact hwrites current loaded.envelope payload rfl hvalid hslice hp hswaps hrange
        · exact safe_done fun t'' ht'' => ((hfresh.others ht).others ht').others ht''
        · refine safe_done fun t'' ht'' => ?_
          have hnone := ((hfresh.others ht).others ht').others ht''
          cases a.decode_and_restore run_id state with
          | error e => exact hnone
          | ok loaded => exact hnone
        · have honce := ((hfresh.others ht).others ht').once (entity_key run_id)
            ⟨payload, current.revision + 1⟩ hlength
          dsimp only
          rw [decode_written hround hswaps.written hswaps.restores (current.revision + 1)]
          refine safe_done fun t'' ht'' => ?_
          exact ⟨⟨payload, current.revision + 1⟩,
            Reported.others ⟨⟨_, honce.1, rfl⟩, rfl, hround _ _ hswaps.written⟩ ht'',
            honce.others ht''⟩

theorem safe_initialize_run (hround : a.serde_json.RoundTrips) {tasks : List Task}
    {retry_budget : RetryBudget} (hcall : calls i = .initialize_run tasks retry_budget)
    (hfresh : w.Fresh i) :
    SafeCall a run_id calls i (fun r => a.Told run_id (calls i) i (r.map .initialized))
      (a.initialize_run run_id tasks retry_budget) w := by
  unfold initialize_run
  cases hp : a.prepare_run run_id tasks retry_budget with
  | error e =>
    rw [Prog.liftM_eq, Prog.done_error_bind]
    exact safe_done fun t ht => hfresh.others ht
  | ok prepared =>
    obtain ⟨envelope, payload⟩ := prepared
    have hprepare := hp
    simp only [prepare_run, bind_eq_ok, lift_eq_ok, mapError_eq_ok, to_vec, pure_eq_ok,
      Prod.mk.injEq] at hp
    obtain ⟨k, hnew, restored, hrestored, payload, hwritten, rfl, rfl⟩ := hp
    rw [Prog.liftM_eq, Prog.done_ok_bind]
    refine safe_initialize ?_ (fun t ht _ state _ => ?_) (fun t ht hempty => ?_)
    · refine ⟨tasks, retry_budget, k, hcall, hnew, hround _ _ hwritten,
        .initialized ⟨⟨initial_envelope run_id tasks retry_budget k, 0⟩, true⟩,
        fun store hrow => ?_⟩
      rw [hcall]
      exact run_execute_initialize hround hprepare hwritten ⟨restored, hrestored⟩ hrow
    · refine safe_done fun t' ht' => ?_
      have hnone := (hfresh.others ht).others ht'
      dsimp only
      cases hcheck : a.check_definition run_id (initial_envelope run_id tasks retry_budget k) state
          false with
      | error e => exact hnone
      | ok result =>
        have hfalse : result.initialized = false := check_definition_initialized hcheck
        show if result.initialized then _ else t'.Fresh i
        rw [hfalse]
        exact hnone
    · have honce := (hfresh.others ht).once (entity_key run_id) ⟨payload, 0⟩
        (by rw [hempty]; rfl)
      have hsame : DurableExecutionAuthority.same_definition
          (initial_envelope (E := E) (R := R) run_id tasks retry_budget k)
          (initial_envelope run_id tasks retry_budget k) := ⟨rfl, rfl, rfl⟩
      have hcheck : a.check_definition run_id (initial_envelope run_id tasks retry_budget k)
          ⟨payload, 0⟩ true =
            .ok ⟨⟨initial_envelope run_id tasks retry_budget k, 0⟩, true⟩ := by
        simp only [check_definition, bind_eq_ok, reject_if_eq_ok, pure_eq_ok, exists_const,
          not_not]
        exact ⟨_, decode_written hround hwritten ⟨restored, hrestored⟩ 0, hsame, rfl⟩
      dsimp only
      rw [hcheck]
      refine safe_done fun t' ht' => ?_
      exact ⟨⟨payload, 0⟩,
        Reported.others ⟨⟨_, honce.1, rfl⟩, rfl, hround _ _ hwritten⟩ ht', honce.others ht'⟩

/-- Every command is safe for a caller that has not committed yet. -/
theorem safe_execute (hround : a.serde_json.RoundTrips) {command : Command E R}
    (hcall : calls i = command) (hfresh : w.Fresh i) :
    SafeCall a run_id calls i (a.Told run_id (calls i) i) (a.execute run_id command) w := by
  cases command with
  | initialize_run tasks retry_budget =>
    exact Safe.map (safe_initialize_run hround hcall hfresh)
  | lifecycle request => exact Safe.map (safe_apply hround hcall hfresh)
  | engineer_verifier revision digest next =>
    refine Safe.map (safe_compare_and_swap_projection hround ?_ hfresh)
    rintro state envelope payload rfl hvalid hslice hplan hswaps hrange
    refine ⟨⟨.projection (.Applied ⟨engineer_verifier_slot.set envelope next, state.revision + 1⟩),
      fun store hrow => ?_⟩, envelope, _, hslice, hround _ _ hswaps.written, ?_⟩
    · rw [hcall]
      exact Prog.run_bind_of_ok
        (run_compare_and_swap_projection hround hvalid hplan hswaps hrange hrow)
    · rw [hcall]
      exact Applies.engineer_verifier _ digest next envelope hswaps.digest hswaps.admits
  | independent_review revision digest next =>
    refine Safe.map (safe_compare_and_swap_projection hround ?_ hfresh)
    rintro state envelope payload rfl hvalid hslice hplan hswaps hrange
    refine ⟨⟨.projection (.Applied ⟨independent_review_slot.set envelope next, state.revision + 1⟩),
      fun store hrow => ?_⟩, envelope, _, hslice, hround _ _ hswaps.written, ?_⟩
    · rw [hcall]
      exact Prog.run_bind_of_ok
        (run_compare_and_swap_projection hround hvalid hplan hswaps hrange hrow)
    · rw [hcall]
      exact Applies.independent_review _ digest next envelope hswaps.digest hswaps.admits

end Safety

/-! ## Every schedule -/

section Schedules

variable {ι : Type} {a : DurableExecutionAuthority E R P} {run_id : RunId}
  {calls : ι → Command E R} {w : Journal ι P}

/-- Callers with one command each, on a store without commits so far. -/
def concurrent (a : DurableExecutionAuthority E R P) (run_id : RunId) (calls : ι → Command E R)
    (store : VersionedStateStore P) :
    System ι (Journal ι P) (StoreOp P) StoreOp.Answer (Fault DurableExecutionError)
      (Response E R) where
  callers i := a.execute run_id (calls i)
  world := ⟨store, []⟩

/-- The row is a sequential history of the callers' commands. -/
abbrev SequentialRun (a : DurableExecutionAuthority E R P) (run_id : RunId)
    (calls : ι → Command E R) (w : Journal ι P) : Prop :=
  w.Sequential (entity_key run_id) (fun i => a.Begins run_id (calls i))
    (fun i => a.Writes run_id (calls i))

/-- Every state of a history decodes, and to the definition of the first one. -/
theorem decodes_to_definition (h : SequentialRun a run_id calls w) :
    ∀ (r : ℕ) c, (w.history (entity_key run_id))[r]? = some c →
      ∃ envelope, a.serde_json.from_slice c.state.payload = .ok envelope ∧
        ∀ c₀ envelope₀, (w.history (entity_key run_id))[0]? = some c₀ →
          a.serde_json.from_slice c₀.state.payload = .ok envelope₀ →
          DurableExecutionAuthority.same_definition envelope envelope₀ := by
  intro r
  induction r with
  | zero =>
    intro c hc
    obtain ⟨_, _, _, _, _, hslice, _⟩ := h.first c hc
    refine ⟨_, hslice, fun c₀ envelope₀ hc₀ hslice₀ => ?_⟩
    rw [hc, Option.some_inj] at hc₀
    rw [← hc₀, hslice] at hslice₀
    rw [Except.ok.inj hslice₀]
    exact ⟨rfl, rfl, rfl⟩
  | succ r ih =>
    intro c' hc'
    obtain ⟨c, hc⟩ : ∃ c, (w.history (entity_key run_id))[r]? = some c := by
      have hlt := (List.getElem?_eq_some_iff.mp hc').1
      exact ⟨_, List.getElem?_eq_getElem (by omega)⟩
    obtain ⟨envelope, hslice, hsame⟩ := ih c hc
    obtain ⟨envelope₁, envelope', hslice₁, hslice', happlies⟩ := (h.next r c c' hc hc').applies
    rw [hslice, Except.ok.injEq] at hslice₁
    subst hslice₁
    refine ⟨envelope', hslice', fun c₀ envelope₀ hc₀ hslice₀ => ?_⟩
    obtain ⟨hrun, htasks, hbudget⟩ := happlies.same_definition
    obtain ⟨hrun₀, htasks₀, hbudget₀⟩ := hsame c₀ envelope₀ hc₀ hslice₀
    exact ⟨hrun.trans hrun₀, htasks.trans htasks₀, hbudget.trans hbudget₀⟩

/-- What a command leaves alone. -/
def Untouched (command : Command E R) (envelope envelope' : ExecutionRunEnvelope E R) : Prop :=
  match command with
  | .initialize_run _ _ => False
  | .lifecycle _ => envelope'.engineer_verifier = envelope.engineer_verifier ∧
      envelope'.independent_review = envelope.independent_review
  | .engineer_verifier _ _ _ => envelope'.snapshot = envelope.snapshot ∧
      envelope'.independent_review = envelope.independent_review
  | .independent_review _ _ _ => envelope'.snapshot = envelope.snapshot ∧
      envelope'.engineer_verifier = envelope.engineer_verifier

omit [DecidableEq E] [DecidableEq R] in
theorem Applies.untouched {command : Command E R} {envelope envelope' : ExecutionRunEnvelope E R}
    (h : Applies a run_id command envelope envelope') : Untouched command envelope envelope' := by
  cases h <;> exact ⟨rfl, rfl⟩

variable [DecidableEq ι]

/-- The callers are safe at the start, and stay so. -/
theorem concurrent_safe (calls : ι → Command E R) (hround : a.serde_json.RoundTrips) {store : VersionedStateStore P}
    (hstore : store[entity_key run_id]? = none) (schedule : List ι) :
    (∀ i, SafeCall a run_id calls i (a.Told run_id (calls i) i)
      (((a.concurrent run_id calls store).run sem schedule).callers i)
      ((a.concurrent run_id calls store).run sem schedule).world) ∧
    SequentialRun a run_id calls ((a.concurrent run_id calls store).run sem schedule).world := by
  refine run_safe (fun _ _ _ _ => Others.trans) Others.refl (fun i => ?_) ?_ schedule
  · exact safe_execute hround rfl fun c hc => absurd hc List.not_mem_nil
  · refine ⟨⟨?_, fun r c hc => ?_⟩, fun c hc => ?_, fun r c c' hc => ?_⟩
    · exact hstore
    · cases hc
    · cases hc
    · cases hc

/-- **No lost update.** Any number of callers, each with one command on the same
run, on a store that has no row for it, under any schedule of their loads and
compare-and-swaps. The row of the run is its last commit, and the commits count
its revisions. The first is an initialization and each later one is exactly its
caller's command, run alone on the state before. No commit changes the tasks or
the retry budget; lifecycle commands leave the projections alone, and the
projection writers everything but their projection. And a caller that was told
that its change was applied has exactly that commit. -/
theorem durable_history (a : DurableExecutionAuthority E R P) (hround : a.serde_json.RoundTrips)
    (run_id : RunId) (calls : ι → Command E R) (store : VersionedStateStore P)
    (hstore : store[entity_key run_id]? = none) (schedule : List ι) :
    let system := (a.concurrent run_id calls store).run sem schedule
    let history := system.world.history (entity_key run_id)
    system.world.Consistent (entity_key run_id) ∧
    (∀ c, history[0]? = some c → a.Begins run_id (calls c.caller) c.state) ∧
    (∀ (r : ℕ) c c', history[r]? = some c → history[r + 1]? = some c' →
      a.Writes run_id (calls c'.caller) c.state c'.state) ∧
    (∀ c ∈ history, ∀ c' ∈ history, ∃ envelope envelope',
      a.serde_json.from_slice c.state.payload = .ok envelope ∧
      a.serde_json.from_slice c'.state.payload = .ok envelope' ∧
      DurableExecutionAuthority.same_definition envelope envelope') ∧
    (∀ (r : ℕ) c c' envelope envelope', history[r]? = some c → history[r + 1]? = some c' →
      a.serde_json.from_slice c.state.payload = .ok envelope →
      a.serde_json.from_slice c'.state.payload = .ok envelope' →
      Untouched (calls c'.caller) envelope envelope') ∧
    (∀ i answer, system.callers i = .done answer →
      a.Told run_id (calls i) i answer system.world) := by
  intro system history
  obtain ⟨hsafe, hrun⟩ := concurrent_safe calls hround hstore schedule
  refine ⟨hrun.consistent, hrun.first, hrun.next, ?_, ?_, ?_⟩
  · intro c hc c' hc'
    obtain ⟨r, hr⟩ := List.getElem?_of_mem hc
    obtain ⟨r', hr'⟩ := List.getElem?_of_mem hc'
    obtain ⟨c₀, hc₀⟩ : ∃ c₀, history[0]? = some c₀ := by
      have hlt := (List.getElem?_eq_some_iff.mp hr).1
      exact ⟨_, List.getElem?_eq_getElem (by omega)⟩
    obtain ⟨envelope, hslice, hsame⟩ := decodes_to_definition hrun r c hr
    obtain ⟨envelope', hslice', hsame'⟩ := decodes_to_definition hrun r' c' hr'
    obtain ⟨envelope₀, hslice₀, _⟩ := decodes_to_definition hrun 0 c₀ hc₀
    obtain ⟨h₁, h₂, h₃⟩ := hsame c₀ envelope₀ hc₀ hslice₀
    obtain ⟨h₁', h₂', h₃'⟩ := hsame' c₀ envelope₀ hc₀ hslice₀
    exact ⟨envelope, envelope', hslice, hslice', h₁.trans h₁'.symm, h₂.trans h₂'.symm,
      h₃.trans h₃'.symm⟩
  · intro r c c' envelope envelope' hc hc' hslice hslice'
    obtain ⟨e, e', he, he', happlies⟩ := (hrun.next r c c' hc hc').applies
    rw [hslice, Except.ok.injEq] at he
    rw [hslice', Except.ok.injEq] at he'
    subst he
    subst he'
    exact happlies.untouched
  · intro i answer hdone
    have hi := hsafe i
    rw [show ((a.concurrent run_id calls store).run sem schedule).callers i = .done answer
      from hdone] at hi
    exact hi.post Others.refl hrun

/-- Caller 0 initializes a run, and callers 1 and 2 claim its task. -/
def racingClaims : Fin 3 → Command Empty Empty
  | 0 => .initialize_run [ExecutionLifecycleKernel.readyTask "a" [] ["x"]] ⟨1, 3⟩
  | 1 => .lifecycle (.claim ⟨"a", "worker-1", .Engineer, "lease-1", 1, 10⟩)
  | 2 => .lifecycle (.claim ⟨"a", "worker-2", .Engineer, "lease-2", 1, 10⟩)

/-- Both claims load the first revision; the one that swaps second is told of an
active lease, and has committed nothing. -/
theorem durable_history_racing :
    ((ExecutionLifecycleKernel.plainAuthority.concurrent "run" racingClaims ∅).run sem
      [0, 1, 2, 1, 2]).world.Fresh 2 := by
  have h := durable_history ExecutionLifecycleKernel.plainAuthority
    (fun _ _ h => congrArg Except.ok (Except.ok.inj h).symm) "run" racingClaims ∅
    Std.ExtTreeMap.getElem?_empty [0, 1, 2, 1, 2]
  exact h.2.2.2.2.2 2 (.error (.error (.Lifecycle (.ActiveTaskLease "a" "lease-1")))) rfl

end Schedules

end DurableExecutionAuthority

end OvcaCore

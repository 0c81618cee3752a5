/-
The engineer-verifier projection in the durable authority
(`ovca-runtime-core/src/sqlite_execution.rs`), and the reconciliation of its
pending phase event with the log (`ovca-langgraph/src/engineer_verifier_loop.rs`).

A reconciliation reads the log, may append the frozen event, and acknowledges it
by a compare-and-swap. It is a function of the rows of the log and of the table,
and gives both back beside its answer, so that what an error leaves behind can be
said. Nothing else acts meanwhile; crashes and other writers are steps of the
runs in `OvcaCore.ExactlyOnce`.
-/
import OvcaCore.PhaseDiscipline

set_option autoImplicit false

namespace OvcaCore

open OvcaCore.Checks OvcaCore.Interleaving EngineerVerifier

/-! ## A projection write, run alone -/

namespace DurableExecutionAuthority

open VersionedStateStore

variable {E R Q : Type}

/-- What the table holds for a run. -/
def Stored (a : DurableExecutionAuthority E R Q) (store : VersionedStateStore Q) (run_id : RunId)
    (loaded : LoadedExecutionRun E R) : Prop :=
  ∃ state, store[entity_key run_id]? = some state ∧ a.decode_and_restore run_id state = .ok loaded

theorem Stored.unique {a : DurableExecutionAuthority E R Q} {store : VersionedStateStore Q}
    {run_id : RunId} {loaded loaded' : LoadedExecutionRun E R} (h : a.Stored store run_id loaded)
    (h' : a.Stored store run_id loaded') : loaded = loaded' := by
  obtain ⟨state, hstate, hloaded⟩ := h
  obtain ⟨state', hstate', hloaded'⟩ := h'
  have hsame : state = state' := Option.some.inj (hstate.symm.trans hstate')
  rw [← hsame, hloaded] at hloaded'
  exact Except.ok.inj hloaded'

theorem run_load {a : DurableExecutionAuthority E R Q} {store : VersionedStateStore Q}
    {run_id : RunId} {loaded : LoadedExecutionRun E R} :
    ((a.load run_id).run StoreOp.perform store).1 = .ok loaded ↔ a.Stored store run_id loaded := by
  have hrun : ((a.load run_id).run StoreOp.perform store).1
      = (ok_or store[entity_key run_id]? (Fault.error (.RunNotFound run_id))
          >>= fun state => a.decode_and_restore run_id state) := by
    rw [load, Prog.run_bind]
    unfold load_row
    rw [Prog.run_op, Prog.run_done]
    have hrow : (StoreOp.perform (.load (entity_key run_id)) store).1 = store[entity_key run_id]? :=
      rfl
    cases hstate : store[entity_key run_id]? with
    | none =>
      rw [hrow, hstate]
      rfl
    | some state =>
      rw [hrow, hstate]
      rfl
  rw [hrun]
  simp only [bind_eq_ok, ok_or_eq_ok]
  exact Iff.rfl

/-- A projection write that is run alone changes nothing, or replaces the state it
names by the next one. -/
theorem compare_and_swap_projection_cases {S X : Type} [DecidableEq S]
    {a : DurableExecutionAuthority E R Q} (hround : a.serde_json.RoundTrips)
    (rules : ProjectionRules E S X) (slot : ProjectionSlot E R S X) (run_id : RunId)
    (expected_revision : ℕ) (expected_state_digest : Option String) (next : S)
    (store : VersionedStateStore Q) :
    (((a.compare_and_swap_projection rules slot run_id expected_revision expected_state_digest
          next).run StoreOp.perform store).2 = store ∧
      ∀ loaded, ((a.compare_and_swap_projection rules slot run_id expected_revision
        expected_state_digest next).run StoreOp.perform store).1 ≠ .ok (.Applied loaded)) ∨
    ∃ loaded payload, a.Stored store run_id loaded ∧ loaded.revision = expected_revision ∧
      a.Swaps rules slot run_id expected_state_digest next loaded.envelope payload ∧
      (a.compare_and_swap_projection rules slot run_id expected_revision expected_state_digest
          next).run StoreOp.perform store =
        (.ok (.Applied ⟨slot.set loaded.envelope next, expected_revision + 1⟩),
          store.insert (entity_key run_id) ⟨payload, expected_revision + 1⟩) := by
  have hrow : (StoreOp.perform (.load (entity_key run_id)) store) = (store[entity_key run_id]?, store) :=
    rfl
  unfold compare_and_swap_projection load_row
  cases hvalid : lift ((rules.validate next).mapError slot.wrap) with
  | error e =>
    left
    constructor
    · rfl
    · intro loaded h
      cases h
  | ok u =>
    simp only [Prog.liftM_eq, Prog.done_ok_bind, Prog.op_bind, Prog.run_op, hrow]
    cases hstate : store[entity_key run_id]? with
    | none =>
      left
      constructor
      · rfl
      · intro loaded h
        cases h
    | some state =>
      simp only [ok_or, Prog.done_ok_bind]
      cases hplan : a.plan_swap rules slot run_id expected_revision expected_state_digest next state with
      | error e =>
        left
        constructor
        · rfl
        · intro loaded h
          cases h
      | ok plan =>
        rw [Prog.done_ok_bind]
        rcases plan_swap_eq_ok hplan with ⟨answered, rfl | rfl⟩ |
          ⟨loaded, payload, rfl, hloaded, hrevision, hswaps⟩
        · left
          refine ⟨rfl, ?_⟩
          intro loaded h
          cases h
        · left
          refine ⟨rfl, ?_⟩
          intro loaded h
          cases h
        · rw [Prog.run_op]
          rcases compare_and_swap_cases store (entity_key run_id) expected_revision payload with
            ⟨e, hswap⟩ | ⟨current, hcurrent, hswap⟩ | ⟨current, hcurrent, hexpected, _, hswap⟩
          · left
            simp only [StoreOp.perform, hswap]
            refine ⟨rfl, ?_⟩
            intro loaded h
            cases h
          · left
            simp only [StoreOp.perform, hswap]
            refine ⟨rfl, ?_⟩
            intro loaded h
            rw [Prog.run_done] at h
            cases hdecoded : a.decode_and_restore run_id current with
            | error e => rw [hdecoded] at h; cases h
            | ok restored => rw [hdecoded] at h; cases h
          · right
            refine ⟨loaded, payload, ⟨state, hstate, hloaded⟩, hrevision, hswaps, ?_⟩
            have hwritten : a.decode_and_restore run_id ⟨payload, expected_revision + 1⟩ =
                .ok ⟨slot.set loaded.envelope next, expected_revision + 1⟩ :=
              decode_and_restore_eq_ok.mpr ⟨hround _ _ hswaps.written, rfl, hswaps.restores⟩
            simp only [StoreOp.perform, hswap, Prog.run_done, hwritten]
            rfl

end DurableExecutionAuthority

/-! ## The engineer-verifier projection -/

namespace EngineerVerifierLoop

section Durable

variable {P R Q : Type} [DecidableEq P]

def validate_engineer_verifier_binding
    (envelope : ExecutionRunBinding (EngineerVerifierStateV1 P))
    (state : EngineerVerifierStateV1 P) : Except EngineerVerifierError Unit := do
  let task ← ok_or envelope.tasks[state.task_id]? .InvalidBinding
  reject_if (state.run_id ≠ envelope.run_id
    ∨ state.plan.run_id ≠ envelope.run_id
    ∨ state.goal_id ≠ task.goal_id
    ∨ state.plan.goal_id ≠ task.goal_id
    ∨ state.plan.invocation.budget.max_attempts ≠ envelope.retry_budget.max_attempts)
    .InvalidBinding

def engineer_verifier_rules (codec : EngineerVerifierCodec P) :
    ProjectionRules (EngineerVerifierStateV1 P) (EngineerVerifierStateV1 P)
      EngineerVerifierError where
  validate state := state.validate codec.sha256
  validate_binding := validate_engineer_verifier_binding
  validate_initial_install state := state.validate_initial_install codec
  validate_successor state next := state.validate_successor codec next
  state_digest state := state.state_digest

/-- What the loop works with: the digests and serializations of its states and events,
and the rest of the durable authority. -/
structure LoopAuthority (P R Q : Type) where
  codec : EngineerVerifierCodec P
  independent_review : ProjectionRules (EngineerVerifierStateV1 P) R IndependentReviewError
  serde_json : SerdeJson (ExecutionRunEnvelope (EngineerVerifierStateV1 P) R) Q
  cas_retry_limit : ℕ

/-- The durable authority of the loop. -/
def LoopAuthority.execution (authority : LoopAuthority P R Q) :
    DurableExecutionAuthority (EngineerVerifierStateV1 P) R Q where
  engineer_verifier := engineer_verifier_rules authority.codec
  independent_review := authority.independent_review
  serde_json := authority.serde_json
  cas_retry_limit := authority.cas_retry_limit

def projection (loaded : LoadedExecutionRun (EngineerVerifierStateV1 P) R) :
    Except EngineerVerifierLoopError (EngineerVerifierStateV1 P) :=
  ok_or loaded.envelope.engineer_verifier .ProjectionConflict

def expect_applied : ProjectionCasOutcome (EngineerVerifierStateV1 P) R →
    Except EngineerVerifierLoopError (LoadedExecutionRun (EngineerVerifierStateV1 P) R)
  | .Applied state => .ok state
  | .Unchanged _ => .error .ProjectionConflict
  | .Conflict _ => .error .ProjectionConflict

/-- The engineer-verifier compare-and-swap on a table, and the table after it. -/
def compare_and_swap (authority : LoopAuthority P R Q) (store : VersionedStateStore Q)
    (run_id : RunId) (expected_revision : ℕ) (expected_state_digest : Option String)
    (next : EngineerVerifierStateV1 P) :
    Except (Fault EngineerVerifierLoopError) (LoadedExecutionRun (EngineerVerifierStateV1 P) R) ×
      VersionedStateStore Q :=
  let swapped := (authority.execution.compare_and_swap_engineer_verifier run_id expected_revision
    expected_state_digest next).run StoreOp.perform store
  (DurableExecutionAuthority.map_fault .Durable swapped.1
    >>= fun outcome => lift (expect_applied outcome), swapped.2)

def cas_replace (authority : LoopAuthority P R Q) (store : VersionedStateStore Q)
    (loaded : LoadedExecutionRun (EngineerVerifierStateV1 P) R)
    (next : EngineerVerifierStateV1 P) :
    Except (Fault EngineerVerifierLoopError) (LoadedExecutionRun (EngineerVerifierStateV1 P) R) ×
      VersionedStateStore Q :=
  match projection loaded with
  | .error e => (.error (.error e), store)
  | .ok state =>
    compare_and_swap authority store next.run_id loaded.revision (some state.state_digest) next

/-- The engineer-verifier state of a run, if the table holds one. -/
def stored_state (authority : LoopAuthority P R Q) (store : VersionedStateStore Q)
    (run_id : RunId) : Option (EngineerVerifierStateV1 P) :=
  match ((authority.execution.load run_id).run StoreOp.perform store).1 with
  | .ok loaded => loaded.envelope.engineer_verifier
  | .error _ => none

theorem stored_state_eq {authority : LoopAuthority P R Q} {store : VersionedStateStore Q}
    {run_id : RunId} {loaded : LoadedExecutionRun (EngineerVerifierStateV1 P) R}
    (h : authority.execution.Stored store run_id loaded) :
    stored_state authority store run_id = loaded.envelope.engineer_verifier := by
  unfold stored_state
  rw [DurableExecutionAuthority.run_load.mpr h]

/-- A compare-and-swap that answers with an error has written nothing, and one that
goes through has written the next state over one that admits it. -/
theorem compare_and_swap_cases {authority : LoopAuthority P R Q}
    (hround : authority.serde_json.RoundTrips) (store : VersionedStateStore Q) (run_id : RunId)
    (expected_revision : ℕ) (expected_state_digest : Option String)
    (next : EngineerVerifierStateV1 P) :
    (∃ e, compare_and_swap authority store run_id expected_revision expected_state_digest next
      = (.error e, store)) ∨
    ∃ loaded loaded' store', authority.execution.Stored store run_id loaded ∧
      authority.execution.Stored store' run_id loaded' ∧
      loaded'.envelope.engineer_verifier = some next ∧ next.run_id = run_id ∧
      DurableExecutionAuthority.Admits (engineer_verifier_rules authority.codec)
        loaded.envelope.engineer_verifier next ∧
      compare_and_swap authority store run_id expected_revision expected_state_digest next
        = (.ok loaded', store') := by
  unfold compare_and_swap DurableExecutionAuthority.compare_and_swap_engineer_verifier
  rcases DurableExecutionAuthority.compare_and_swap_projection_cases (a := authority.execution)
      hround authority.execution.engineer_verifier
      DurableExecutionAuthority.engineer_verifier_slot run_id expected_revision
      expected_state_digest next store with
    ⟨hsame, hno⟩ | ⟨loaded, payload, hstored, _, hswaps, hrun⟩
  · left
    rcases hswapped : (authority.execution.compare_and_swap_projection
      authority.execution.engineer_verifier DurableExecutionAuthority.engineer_verifier_slot run_id
      expected_revision expected_state_digest next).run StoreOp.perform store with ⟨answer, after⟩
    rw [hswapped] at hsame hno
    dsimp only at hsame hno ⊢
    subst hsame
    rcases answer with (e | message) | (state | state | state)
    · exact ⟨_, rfl⟩
    · exact ⟨_, rfl⟩
    · exact absurd rfl (hno state)
    · exact ⟨_, rfl⟩
    · exact ⟨_, rfl⟩
  · right
    obtain ⟨kernel, hkernel⟩ := hswaps.restores
    have hheader := (DurableExecutionAuthority.restore_kernel_eq_ok.mp hkernel).1
    have hbound := (hheader.engineer_verifier next rfl).2
    have hrun_id : next.run_id = run_id := by
      change validate_engineer_verifier_binding _ next = .ok () at hbound
      simp only [validate_engineer_verifier_binding, bind_eq_ok, reject_if_eq_ok, not_or, ne_eq,
        not_not] at hbound
      obtain ⟨_, _, hsame, _⟩ := hbound
      exact hsame.trans hheader.run_id_eq
    have hstored' : authority.execution.Stored
        (Std.ExtTreeMap.insert store (DurableExecutionAuthority.entity_key run_id)
          ⟨payload, expected_revision + 1⟩) run_id
        ⟨{ loaded.envelope with engineer_verifier := some next }, expected_revision + 1⟩ := by
      refine ⟨⟨payload, expected_revision + 1⟩, Std.ExtTreeMap.getElem?_insert_self, ?_⟩
      exact DurableExecutionAuthority.decode_and_restore_eq_ok.mpr
        ⟨hround _ _ hswaps.written, rfl, kernel, hkernel⟩
    refine ⟨loaded, _, _, hstored, hstored', rfl, hrun_id, hswaps.admits, ?_⟩
    rw [hrun]
    rfl

/-- The acknowledgement of a projected event. -/
def acknowledge (authority : LoopAuthority P R Q) (store : VersionedStateStore Q)
    (loaded : LoadedExecutionRun (EngineerVerifierStateV1 P) R)
    (next : EngineerVerifierStateV1 P) :
    Except (Fault EngineerVerifierLoopError) (LoadedExecutionRun (EngineerVerifierStateV1 P) R) ×
      VersionedStateStore Q :=
  match next.validate authority.codec.sha256 with
  | .error e => (.error (.error (.Kernel e)), store)
  | .ok _ => cas_replace authority store loaded next

/-- What a call of the loop leaves behind: its answer, the rows of the log and the
table. -/
structure Reconciled (P R Q : Type) where
  answer : Except (Fault EngineerVerifierLoopError)
    (LoadedExecutionRun (EngineerVerifierStateV1 P) R)
  rows : List P
  store : VersionedStateStore Q

/-- Without a pending projection the log has to end where the state says. -/
def check_cursor (codec : EngineerVerifierCodec P) (rows : List P)
    (state : EngineerVerifierStateV1 P) : Except EngineerVerifierLoopError Unit := do
  let actual ← current_run_cursor codec rows state.run_id
  reject_if (actual ≠ stored_cursor state) .ProjectionConflict

def reconcile_state (authority : LoopAuthority P R Q) (rows : List P)
    (store : VersionedStateStore Q) (loaded : LoadedExecutionRun (EngineerVerifierStateV1 P) R)
    (state : EngineerVerifierStateV1 P) : Reconciled P R Q :=
  match state.pending_projection with
  | none => ⟨lift (check_cursor authority.codec rows state >>= fun _ => pure loaded), rows, store⟩
  | some pending =>
    match project_pending authority.codec rows state pending with
    | (.error e, rows) => ⟨.error (.error e), rows, store⟩
    | (.ok _, rows) =>
      let acknowledged := acknowledge authority store loaded (state.acknowledged pending)
      ⟨acknowledged.1, rows, acknowledged.2⟩

def reconcile_pending (authority : LoopAuthority P R Q) (rows : List P)
    (store : VersionedStateStore Q)
    (loaded : LoadedExecutionRun (EngineerVerifierStateV1 P) R) : Reconciled P R Q :=
  match projection loaded with
  | .error e => ⟨.error (.error e), rows, store⟩
  | .ok state => reconcile_state authority rows store loaded state

end Durable

end EngineerVerifierLoop

/-! ## The authority of a local run -/

namespace EngineerVerifierStateV1.LocalRun

open EngineerVerifierLoop

/-- An authority whose bytes are the values that are written into them, and which has
no reviews. -/
def loop_authority (codec : EngineerVerifierCodec Payload) :
    LoopAuthority Payload Unit (ExecutionRunEnvelope (EngineerVerifierStateV1 Payload) Unit) where
  codec := codec
  independent_review :=
    { validate := fun _ => .ok ()
      validate_binding := fun _ _ => .ok ()
      validate_initial_install := fun _ => .ok ()
      validate_successor := fun _ _ => .ok ()
      state_digest := fun _ => "" }
  serde_json := ⟨.ok, .ok⟩
  cas_retry_limit := DEFAULT_EXECUTION_CAS_RETRY_LIMIT

end EngineerVerifierStateV1.LocalRun

end OvcaCore

/-
The check of a reviewed run (`validate_terminal_reviewing_projection_chain` of
`ovca-langgraph/src/engineer_verifier_loop.rs`).

It reads the log anew and asks that the rows of the run, up to the acknowledged
event of the state, be the phase changes from `Planned` to `Reviewing`. Before
them there may be other events, if the first one creates the run for the goal and
the task of the state.
-/
import OvcaCore.PhaseReconciliation

set_option autoImplicit false

namespace OvcaCore

open OvcaCore.Checks EngineerVerifier

namespace EngineerVerifierLoop

section Review

variable {P : Type} [DecidableEq P] (codec : EngineerVerifierCodec P)

/-- The row creates the run of a state. -/
def creates_run (state : EngineerVerifierStateV1 P) (row : RawEventRow P) : Bool :=
  match row.event.payload with
  | .RunCreated created =>
    created.goal_id == state.goal_id && created.task_ids.contains state.task_id
  | _ => false

/-- `validate_phase_event(..).ok().flatten().is_some()`. -/
def is_phase_row (row : RawEventRow P) : Bool :=
  ok_and (validate_phase_event codec row.event) Option.isSome

/-- Where the phase events begin: behind a valid start of the run, or at once. -/
def first_phase_index (state : EngineerVerifierStateV1 P) (prefix_rows : List (RawEventRow P)) :
    Except EngineerVerifierLoopError ℕ :=
  if prefix_rows.head?.any (creates_run state) then do
    let _ ← (Replay.validate_event_chain (prefix_rows.map fun row => row.event)).mapError
      fun _ => .ProjectionConflict
    ok_or (prefix_rows.findIdx? (is_phase_row codec)) .ProjectionConflict
  else
    pure 0

def phase_row (row : RawEventRow P) :
    Except EngineerVerifierLoopError EngineerVerifierPhaseProjectionV1 := do
  let found ← validate_phase_event codec row.event
  ok_or found .ProjectionConflict

/-- The first phase event claims the plan of the state. -/
def check_first (state : EngineerVerifierStateV1 P) (first : EngineerVerifierPhaseProjectionV1) :
    Except EngineerVerifierLoopError Unit :=
  reject_if (first.from_ ≠ .Planned
    ∨ first.to_ ≠ .Engineering
    ∨ first.trigger ≠ .ClaimAccepted
    ∨ first.phase_revision ≠ 1
    ∨ first.attempt ≠ 1
    ∨ first.run_id ≠ state.run_id
    ∨ first.goal_id ≠ state.goal_id
    ∨ first.task_id ≠ state.task_id
    ∨ first.execution_binding_digest ≠ state.execution_binding.execution_binding_digest
    ∨ first.logical_plan_digest ≠ state.plan.logical_plan_digest) .ProjectionConflict

/-- The attempt of a phase event, by its trigger and the one before it. -/
def expected_attempt (prior next : EngineerVerifierPhaseProjectionV1) :
    Except EngineerVerifierLoopError ℕ :=
  if next.trigger = .RetryClaimAccepted then do
    reject_if (U32_MAX < prior.attempt + 1) .InvalidInput
    pure (prior.attempt + 1)
  else
    pure prior.attempt

def check_pair (prior next : EngineerVerifierPhaseProjectionV1) :
    Except EngineerVerifierLoopError Unit := do
  let attempt ← expected_attempt prior next
  reject_if (U64_MAX < prior.phase_revision + 1) .InvalidInput
  reject_if (next.phase_revision ≠ prior.phase_revision + 1
    ∨ next.from_ ≠ prior.to_
    ∨ next.controller_time < prior.controller_time
    ∨ next.attempt ≠ attempt
    ∨ next.execution_binding_digest ≠ prior.execution_binding_digest
    ∨ next.logical_plan_digest ≠ prior.logical_plan_digest) .ProjectionConflict

/-- The last phase event is that of the state. -/
def check_final (state : EngineerVerifierStateV1 P)
    (final_projection : EngineerVerifierPhaseProjectionV1) :
    Except EngineerVerifierLoopError Unit :=
  reject_if (final_projection.to_ ≠ .Reviewing
    ∨ final_projection.phase_revision ≠ state.phase_revision
    ∨ final_projection.attempt ≠ state.attempt
    ∨ final_projection.state_digest ≠ state.state_digest
    ∨ final_projection.resolved_effect_ledger_digest ≠ state.ledger.resolved_effect_ledger_digest
    ∨ final_projection.engineer_result_digest ≠ state.engineer_result_digest
    ∨ final_projection.verifier_transcript_digest ≠ state.transcript_digest
    ∨ final_projection.controller_time ≠ state.controller_time) .ProjectionConflict

/-- The rows of a run are of this version, of the run, and have ids of their own. -/
def check_rows (run_id : RunId) (run_rows : List (RawEventRow P)) :
    Except EngineerVerifierLoopError Unit :=
  reject_if ((run_rows.any fun row => row.event.contract_version != ContractVersion.current
      || row.event.run_id != run_id)
    ∨ ¬ (run_rows.map fun row => row.event.id).Nodup) .ProjectionConflict

/-- The rows of the run up to the acknowledged one. -/
def acknowledged_rows (run_id : RunId) (cursor : ℕ × String) (run_rows : List (RawEventRow P)) :
    Except EngineerVerifierLoopError (List (RawEventRow P)) := do
  check_rows run_id run_rows
  validate_run_chain run_rows
  let terminal ← ok_or run_rows[cursor.1]? .ProjectionConflict
  reject_if (terminal.event.id ≠ cursor.2) .ProjectionConflict
  pure (run_rows.take (cursor.1 + 1))

/-- The projections of the phase events of the run, one behind the other. -/
def phase_projections (state : EngineerVerifierStateV1 P) (prefix_rows : List (RawEventRow P)) :
    Except EngineerVerifierLoopError (List EngineerVerifierPhaseProjectionV1) := do
  let index ← first_phase_index codec state prefix_rows
  map_checked (phase_row codec) (prefix_rows.drop index)

/-- The phase events go from the claim of the plan to the review of the state. -/
def check_projections (state : EngineerVerifierStateV1 P)
    (projections : List EngineerVerifierPhaseProjectionV1) :
    Except EngineerVerifierLoopError Unit := do
  let first ← ok_or projections.head? .ProjectionConflict
  check_first state first
  check_all (projections.zip projections.tail) fun pair => check_pair pair.1 pair.2
  let final_projection ← ok_or projections.getLast? .ProjectionConflict
  check_final state final_projection

def validate_terminal_reviewing_projection_chain (rows : List P)
    (state : EngineerVerifierStateV1 P) : Except EngineerVerifierLoopError (List RunEvent) := do
  (state.validate codec.sha256).mapError .Kernel
  reject_if (state.phase ≠ .Reviewing ∨ state.pending_projection.isSome) .ProjectionConflict
  let projected_sequence ← ok_or state.projected_sequence .ProjectionConflict
  let projected_event_id ← ok_or state.projected_event_id .ProjectionConflict
  let raw_rows ← raw_event_rows codec rows
  let run_rows := of_run state.run_id raw_rows
  let prefix_rows ← acknowledged_rows state.run_id (projected_sequence, projected_event_id) run_rows
  let projections ← phase_projections codec state prefix_rows
  check_projections state projections
  pure (run_rows.map fun row => row.event)

end Review

end EngineerVerifierLoop

end OvcaCore

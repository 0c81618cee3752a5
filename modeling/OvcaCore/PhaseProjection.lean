/-
The projection of phase changes into the log of events
(`ovca-langgraph/src/engineer_verifier_loop.rs`).

The log is that of all runs (`OvcaCore.GoalRuntime`), and every function reads
the whole of it: a row has to be the canonical bytes of an event, and an event
that looks like a phase event has to be one. Errors of the file system are not
modelled; the other authorities of the loop have errors of their own, which the
functions here do not raise.
-/
import OvcaCore.EngineerVerifierSuccessor
import OvcaCore.GoalRuntime
import OvcaCore.SqliteExecution

set_option autoImplicit false

namespace OvcaCore

open OvcaCore.Checks EngineerVerifier

inductive EngineerVerifierLoopError where
  | InvalidInput
  | Durable (source : DurableExecutionError)
  | Kernel (source : EngineerVerifierError)
  | Events (source : RunEventLogError)
  | ProjectionConflict
  deriving DecidableEq

namespace EngineerVerifierLoop

section Log

variable {P : Type} [DecidableEq P] (codec : EngineerVerifierCodec P)

/-- The log, in the serialization of the loop. -/
def log : RunEventLog P := ⟨codec.run_event⟩

/-! ## Rows -/

structure RawEventRow (P : Type) where
  event : RunEvent
  bytes : P
  deriving DecidableEq

/-- An event with the note or the metadata of a phase event has to be the event of
its projection; any other has none. -/
def validate_phase_event (event : RunEvent) :
    Except EngineerVerifierLoopError (Option EngineerVerifierPhaseProjectionV1) :=
  if event.payload ≠ .NoteRecorded PHASE_EVENT_NOTE
      ∧ event.metadata[PHASE_EVENT_METADATA_KEY]? = none then
    pure none
  else do
    reject_if (event.payload ≠ .NoteRecorded PHASE_EVENT_NOTE
      ∨ event.contract_version ≠ ContractVersion.current
      ∨ event.producer_role ≠ .Coordinator
      ∨ event.metadata.size ≠ 1) .ProjectionConflict
    let value ← ok_or event.metadata[PHASE_EVENT_METADATA_KEY]? .ProjectionConflict
    let canonical_projection ← ok_or (as_str value) .ProjectionConflict
    let projection ← (codec.phase_projection.from_slice canonical_projection).mapError
      fun _ => .ProjectionConflict
    projection.validate.mapError .Kernel
    let json ← (projection.canonical_json codec).mapError .Kernel
    let event_id ← (derive_phase_event_id codec.sha256 projection).mapError .Kernel
    reject_if (json ≠ canonical_projection
      ∨ projection.run_id ≠ event.run_id
      ∨ projection.controller_time ≠ event.occurred_at
      ∨ event_id ≠ event.id) .ProjectionConflict
    pure (some projection)

def raw_event_row (line : P) : Except EngineerVerifierLoopError (RawEventRow P) := do
  let event ← (codec.run_event.from_slice line).mapError fun _ => .ProjectionConflict
  let bytes ← (codec.run_event.to_vec event).mapError fun _ => .ProjectionConflict
  reject_if (bytes ≠ line) .ProjectionConflict
  let _ ← validate_phase_event codec event
  pure ⟨event, line⟩

def raw_event_rows (rows : List P) : Except EngineerVerifierLoopError (List (RawEventRow P)) :=
  map_checked (raw_event_row codec) rows

/-- The rows of a run. -/
def of_run (run_id : RunId) (rows : List (RawEventRow P)) : List (RawEventRow P) :=
  rows.filter fun row => row.event.run_id = run_id

def validate_run_chain (run : List (RawEventRow P)) : Except EngineerVerifierLoopError Unit :=
  check_enumerated run fun index row => do
    reject_if (U64_MAX < index) .InvalidInput
    reject_if (row.event.sequence ≠ index
      ∨ row.event.previous_event_id ≠ (predecessor none run index).map fun prior => prior.event.id)
      .ProjectionConflict

def cursor_of (row : RawEventRow P) : ℕ × String := (row.event.sequence, row.event.id)

def current_run_cursor (rows : List P) (run_id : RunId) :
    Except EngineerVerifierLoopError (Option (ℕ × String)) := do
  let rows ← raw_event_rows codec rows
  let run := of_run run_id rows
  validate_run_chain run
  pure (run.getLast?.map cursor_of)

def has_authentic_engineer_verifier_phase_projection (rows : List P) (run_id : RunId) :
    Except EngineerVerifierLoopError Bool := do
  let rows ← raw_event_rows codec rows
  let run := of_run run_id rows
  validate_run_chain run
  let projections ← map_checked (fun row => validate_phase_event codec row.event) run
  pure (projections.any Option.isSome)

/-! ## Pending projections -/

/-- `state.projected_sequence.zip(state.projected_event_id)`. -/
def stored_cursor (state : EngineerVerifierStateV1 P) : Option (ℕ × String) :=
  state.projected_sequence.bind fun sequence =>
    state.projected_event_id.map fun event_id => (sequence, event_id)

/-- The projection of the transition into a state. -/
def phase_projection (state : EngineerVerifierStateV1 P) (from_ : EngineerVerifierPhaseV1)
    (trigger : EngineerVerifierTriggerV1) : EngineerVerifierPhaseProjectionV1 where
  contract_version := ENGINEER_VERIFIER_CONTRACT_VERSION
  run_id := state.run_id
  goal_id := state.goal_id
  task_id := state.task_id
  from_ := from_
  to_ := state.phase
  trigger := trigger
  phase_revision := state.phase_revision
  attempt := state.attempt
  execution_binding_digest := state.execution_binding.execution_binding_digest
  logical_plan_digest := state.plan.logical_plan_digest
  state_digest := state.state_digest
  resolved_effect_ledger_digest := state.ledger.resolved_effect_ledger_digest
  engineer_result_digest := state.engineer_result_digest
  verifier_transcript_digest := state.transcript_digest
  controller_time := state.controller_time

/-- `saturating_add(1)` on the sequence of the cursor, or 0 without one. -/
def next_sequence (cursor : Option (ℕ × String)) : ℕ :=
  match cursor with
  | none => 0
  | some (sequence, _) => min (sequence + 1) U64_MAX

/-- The event of a phase change, behind a cursor. -/
def phase_event (state : EngineerVerifierStateV1 P) (cursor : Option (ℕ × String))
    (event_id canonical_projection : String) : RunEvent where
  contract_version := ContractVersion.current
  id := event_id
  run_id := state.run_id
  sequence := next_sequence cursor
  previous_event_id := cursor.map Prod.snd
  occurred_at := state.controller_time
  producer_role := .Coordinator
  payload := .NoteRecorded PHASE_EVENT_NOTE
  metadata := (∅ : BTreeMap String JsonValue).insert PHASE_EVENT_METADATA_KEY
    (.String canonical_projection)

/-- The pending projection of an event, whose bytes are frozen with it. -/
def pending_event (event : RunEvent) (event_bytes : P) : PendingPhaseProjectionV1 P where
  event_id := event.id
  sequence := event.sequence
  previous_event_id := event.previous_event_id
  event_bytes := event_bytes
  event_digest := codec.sha256.bytes event_bytes

def attach_pending_projection (rows : List P) (state : EngineerVerifierStateV1 P)
    (from_ : EngineerVerifierPhaseV1) (trigger : EngineerVerifierTriggerV1) :
    Except EngineerVerifierLoopError (EngineerVerifierStateV1 P) := do
  reject_if state.pending_projection.isSome .ProjectionConflict
  let projection := phase_projection state from_ trigger
  projection.validate.mapError .Kernel
  let event_id ← (derive_phase_event_id codec.sha256 projection).mapError .Kernel
  let expected_cursor ← current_run_cursor codec rows state.run_id
  reject_if (expected_cursor ≠ stored_cursor state) .ProjectionConflict
  reject_if (next_sequence (stored_cursor state) = U64_MAX) (.Kernel .Overflow)
  let canonical_projection ← (projection.canonical_json codec).mapError .Kernel
  let event := phase_event state (stored_cursor state) event_id canonical_projection
  let event_bytes ← (codec.run_event.to_vec event).mapError fun _ => .InvalidInput
  let state := { state with pending_projection := some (pending_event codec event event_bytes) }
  (state.validate codec.sha256).mapError .Kernel
  pure state

/-- The event that is frozen in a state, which has to be the one of the state. -/
def frozen_event (state : EngineerVerifierStateV1 P) (pending : PendingPhaseProjectionV1 P) :
    Except EngineerVerifierLoopError RunEvent := do
  (pending.validate codec.sha256).mapError .Kernel
  let frozen_event ← (codec.run_event.from_slice pending.event_bytes).mapError
    fun _ => .ProjectionConflict
  let bytes ← (codec.run_event.to_vec frozen_event).mapError fun _ => .ProjectionConflict
  reject_if (bytes ≠ pending.event_bytes
    ∨ frozen_event.id ≠ pending.event_id
    ∨ frozen_event.sequence ≠ pending.sequence
    ∨ frozen_event.run_id ≠ state.run_id
    ∨ frozen_event.previous_event_id ≠ pending.previous_event_id) .ProjectionConflict
  let frozen ← validate_phase_event codec frozen_event
  let frozen_projection ← ok_or frozen .ProjectionConflict
  reject_if (¬ frozen_projection.Agrees state) .ProjectionConflict
  pure frozen_event

/-- A row is the frozen event: its bytes, its sequence and its predecessor. -/
def is_frozen (pending : PendingPhaseProjectionV1 P) (row : RawEventRow P) : Bool :=
  row.bytes == pending.event_bytes && row.event.sequence == pending.sequence
    && row.event.previous_event_id == pending.previous_event_id

/-- Is the frozen event among the rows of its run? It may be there as the last; else
the cursor of the state is where the run ends. -/
def frozen_in_run (state : EngineerVerifierStateV1 P) (pending : PendingPhaseProjectionV1 P)
    (run_rows : List (RawEventRow P)) : Except EngineerVerifierLoopError Bool := do
  validate_run_chain run_rows
  match run_rows.find? (fun row => row.event.id = pending.event_id) with
  | some existing => do
    reject_if (¬ is_frozen pending existing
      ∨ run_rows.getLast?.map (fun row => row.event.id) ≠ some pending.event_id)
      .ProjectionConflict
    pure true
  | none => do
    reject_if (run_rows.getLast?.map cursor_of ≠ stored_cursor state) .ProjectionConflict
    pure false

def find_frozen (rows : List P) (state : EngineerVerifierStateV1 P)
    (pending : PendingPhaseProjectionV1 P) : Except EngineerVerifierLoopError Bool := do
  let raw_rows ← raw_event_rows codec rows
  frozen_in_run state pending (of_run state.run_id raw_rows)

/-- The frozen event is the last row of its run. -/
def frozen_is_last (pending : PendingPhaseProjectionV1 P) (run_rows : List (RawEventRow P)) :
    Except EngineerVerifierLoopError Unit := do
  validate_run_chain run_rows
  let tail ← ok_or run_rows.getLast? .ProjectionConflict
  reject_if (¬ (is_frozen pending tail && tail.event.id == pending.event_id)) .ProjectionConflict

/-- What is read back of an appended event. -/
def check_appended (rows : List P) (run_id : RunId) (pending : PendingPhaseProjectionV1 P) :
    Except EngineerVerifierLoopError Unit := do
  let appended_rows ← raw_event_rows codec rows
  frozen_is_last pending (of_run run_id appended_rows)

/-- The frozen event is found or appended. With the answer come the rows after it, which
an error behind the append does not take back. -/
def project_frozen (rows : List P) (state : EngineerVerifierStateV1 P)
    (pending : PendingPhaseProjectionV1 P) (frozen_event : RunEvent) :
    Except EngineerVerifierLoopError Unit × List P :=
  match find_frozen codec rows state pending with
  | .error e => (.error e, rows)
  | .ok true => (.ok (), rows)
  | .ok false =>
    match (log codec).append rows frozen_event with
    | .error e => (.error (.Events e), rows)
    | .ok appended => (check_appended codec appended state.run_id pending, appended)

/-- The part of a reconciliation that is about the log. -/
def project_pending (rows : List P) (state : EngineerVerifierStateV1 P)
    (pending : PendingPhaseProjectionV1 P) : Except EngineerVerifierLoopError Unit × List P :=
  match frozen_event codec state pending with
  | .error e => (.error e, rows)
  | .ok event => project_frozen codec rows state pending event

/-- The transition of a state to another phase. -/
def transition_state (state : EngineerVerifierStateV1 P) (to_ : EngineerVerifierPhaseV1)
    (trigger : EngineerVerifierTriggerV1) (at_ : DateTime) :
    Except EngineerVerifierLoopError (EngineerVerifierStateV1 P) := do
  reject_if (¬ transition_allowed state.phase trigger to_) (.Kernel .InvalidTransition)
  reject_if (U64_MAX < state.phase_revision + 1) (.Kernel .Overflow)
  let state := { state with
    phase := to_
    phase_revision := state.phase_revision + 1
    controller_time := at_ }
  (state.refresh_digest codec.sha256).mapError .Kernel

def close_durable_workspace (state : EngineerVerifierStateV1 P) : EngineerVerifierStateV1 P :=
  { state with
    workspace := state.workspace.map fun workspace =>
      { workspace with closed := true, cleanup_required := false } }

end Log

end EngineerVerifierLoop

end OvcaCore

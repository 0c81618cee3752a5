/-
Review and audit decisions (`ovca-runtime-core/src/review_audit.rs`).

A Reviewer assesses every criterion of the goal, in the order in which the goal
declares them, and an Auditor does so again. Each assessment names evidence of
the completion claim, which the run has to have catalogued in ascending order
of its ids. `evaluate_review_audit` selects which of the two decisions a run
needs and resolves those it has.

A catalog is only asked which ids it holds, and a set of seen keys only which
keys it holds; both are lists here.
-/
import OvcaCore.GoalRun
import OvcaCore.Lib.OrderedMaps
import Mathlib.Data.List.Nodup
import Mathlib.Data.List.Perm.Subperm

set_option autoImplicit false

namespace OvcaCore

open OvcaCore.Checks OvcaCore.OrderedMaps OvcaCore.RunTransition

inductive ReviewAuditError where
  | AuditWithoutReview
  | UnsupportedContractVersion (contract : String) (expected actual : ContractVersion)
  | BlankField (field : String)
  | DuplicateGoalCriterion (kind : CriterionKind) (criterion : String)
  | UnknownSatisfiedCriterion (kind : CriterionKind) (criterion : String)
  | DuplicateSatisfiedCriterion (kind : CriterionKind) (criterion : String)
  | ReorderedSatisfiedCriterion (kind : CriterionKind) (criterion : String)
  | DuplicateCompletionEvidenceId (evidence_id : EvidenceId)
  | UnsortedCompletionEvidenceIds (index : ℕ) (previous actual : EvidenceId)
  | DuplicateCatalogEvidenceId (evidence_id : EvidenceId)
  | UnsortedCatalogEvidenceIds (index : ℕ) (previous actual : EvidenceId)
  | CompletionEvidenceNotInCatalog (evidence_id : EvidenceId)
  | InsufficientCompletionEvidence (required actual : ℕ)
  | ProducerRoleMismatch (expected actual : Role)
  | RunIdMismatch (expected actual : RunId)
  | GoalIdMismatch (expected actual : GoalId)
  | ReviewDecisionIdMismatch (expected actual : ReviewDecisionId)
  | AuditDecisionBeforeReview (review_decided_at audit_decided_at : DateTime)
  | DuplicateCriterionAssessment (kind : CriterionKind) (criterion : String)
  | UnknownCriterionAssessment (kind : CriterionKind) (criterion : String)
  | MissingCriterionAssessment (kind : CriterionKind) (criterion : String)
  | ReorderedCriterionAssessment (index : ℕ) (expected_kind : CriterionKind)
      (expected_criterion : String) (actual_kind : CriterionKind) (actual_criterion : String)
  | UnsortedAssessmentEvidenceIds (assessment_index : ℕ)
  | DuplicateAssessmentEvidenceId (assessment_index : ℕ) (evidence_id : EvidenceId)
  | AssessmentEvidenceNotInCompletion (assessment_index : ℕ) (evidence_id : EvidenceId)
  | AssessmentEvidenceNotInCatalog (assessment_index : ℕ) (evidence_id : EvidenceId)
  | SatisfiedAssessmentWithoutEvidence (assessment_index : ℕ)
  | CompletionSatisfiedCriteriaMismatch (kind : CriterionKind) (expected actual : List String)
  | VerdictMismatch (expected actual : ReviewVerdict)
  deriving DecidableEq, Repr

structure ReviewDecisionValidationContext where
  expected_run_id : RunId
  goal_contract : GoalContract
  completion_evidence : CompletionEvidence
  evidence_catalog : List EvidenceRef

structure ReviewAuditEvaluationContext extends ReviewDecisionValidationContext where
  guard_requirements : BTreeSet GuardRequirement

structure ReviewAuditPolicy where
  reviewer_required : Bool
  auditor_required : Bool
  deriving DecidableEq, Repr

namespace ReviewAudit

/-! ## Fields and criteria -/

def validate_version (contract : String) (actual : ContractVersion) :
    Except ReviewAuditError Unit :=
  reject_if (actual ≠ ContractVersion.current)
    (.UnsupportedContractVersion contract ContractVersion.current actual)

def validate_nonblank (field value : String) : Except ReviewAuditError Unit :=
  reject_if (blank value) (.BlankField field)

def validate_nonblank_values (field : String) (values : List String) :
    Except ReviewAuditError Unit :=
  check_enumerated values fun index value => validate_nonblank s!"{field}[{index}]" value

def criterion_kinds : List CriterionKind := [.Acceptance, .Verification, .DefinitionOfDone]

def criterion_kind_name : CriterionKind → String
  | .Acceptance => "acceptance_criteria"
  | .Verification => "verification_criteria"
  | .DefinitionOfDone => "definition_of_done"

def declared_criteria (goal : GoalContract) : CriterionKind → List String
  | .Acceptance => goal.acceptance_criteria
  | .Verification => goal.verification_criteria
  | .DefinitionOfDone => goal.definition_of_done

def completion_satisfied_criteria (completion : CompletionEvidence) :
    CriterionKind → List String
  | .Acceptance => completion.satisfied_acceptance_criteria
  | .Verification => completion.satisfied_verification_criteria
  | .DefinitionOfDone => completion.satisfied_definition_of_done

/-- Every criterion of a goal with its kind, in the order of declaration. -/
def canonical_criteria (goal : GoalContract) : List (CriterionKind × String) :=
  criterion_kinds.flatMap fun kind =>
    (declared_criteria goal kind).map fun criterion => (kind, criterion)

/-- Must a criterion of this kind be satisfied for a decision to pass? -/
def is_required (goal : GoalContract) : CriterionKind → Bool
  | .Acceptance => goal.completion_precondition.require_all_acceptance_criteria
  | .Verification => goal.completion_precondition.require_all_verification_criteria
  | .DefinitionOfDone => true

def validate_goal_criteria (goal : GoalContract) : Except ReviewAuditError Unit :=
  check_all criterion_kinds fun kind =>
    let name := criterion_kind_name kind
    scan_checked id
      (fun index criterion => validate_nonblank s!"goal_contract.{name}[{index}]" criterion)
      (fun criterion => .DuplicateGoalCriterion kind criterion)
      (fun _ _ _ => .ok ()) (declared_criteria goal kind)

/-! ## The evidence -/

def validate_catalog_entry (index : ℕ) (evidence : EvidenceRef) :
    Except ReviewAuditError Unit := do
  validate_version s!"evidence_catalog[{index}]" evidence.contract_version
  validate_nonblank s!"evidence_catalog[{index}].id" evidence.id
  validate_nonblank s!"evidence_catalog[{index}].reference" evidence.reference
  check_some evidence.integrity fun integrity => do
    validate_version s!"evidence_catalog[{index}].integrity" integrity.contract_version
    validate_nonblank s!"evidence_catalog[{index}].integrity.algorithm" integrity.algorithm
    validate_nonblank s!"evidence_catalog[{index}].integrity.digest" integrity.digest

/-- `validate_catalog`, without its result, the ids of the catalog. -/
def validate_catalog (evidence_catalog : List EvidenceRef) : Except ReviewAuditError Unit :=
  scan_checked EvidenceRef.id validate_catalog_entry
    (fun evidence => .DuplicateCatalogEvidenceId evidence.id)
    (fun index previous evidence => check_some previous fun previous =>
      reject_if (evidence.id < previous.id)
        (.UnsortedCatalogEvidenceIds index previous.id evidence.id))
    evidence_catalog

/-- The position of a criterion that the completion record lists, and of the one
listed before it, must ascend. -/
def validate_satisfied_list (goal : GoalContract) (kind : CriterionKind) (actual : List String) :
    Except ReviewAuditError Unit :=
  let positions : BTreeMap String ℕ := .ofList (declared_criteria goal kind).zipIdx
  let name := criterion_kind_name kind
  scan_checked id
    (fun index criterion => do
      validate_nonblank s!"completion_evidence.satisfied_{name}[{index}]" criterion
      reject_if (positions[criterion]? = none) (.UnknownSatisfiedCriterion kind criterion))
    (fun criterion => .DuplicateSatisfiedCriterion kind criterion)
    (fun _ previous criterion => check_some (previous.bind fun p => positions[p]?) fun previous =>
      check_some positions[criterion]? fun position =>
        reject_if (position < previous) (.ReorderedSatisfiedCriterion kind criterion))
    actual

def validate_completion_evidence (context : ReviewDecisionValidationContext) :
    Except ReviewAuditError Unit := do
  let goal := context.goal_contract
  let completion := context.completion_evidence
  scan_checked id
    (fun index evidence_id =>
      validate_nonblank s!"completion_evidence.evidence_refs[{index}]" evidence_id)
    (fun evidence_id => .DuplicateCompletionEvidenceId evidence_id)
    (fun index previous evidence_id => check_some previous fun previous =>
      reject_if (evidence_id < previous)
        (.UnsortedCompletionEvidenceIds index previous evidence_id))
    completion.evidence_refs
  let required := max goal.completion_precondition.minimum_evidence_refs 1
  let actual := unique_count completion.evidence_refs
  reject_if (actual < required) (.InsufficientCompletionEvidence required actual)
  validate_satisfied_list goal .Acceptance completion.satisfied_acceptance_criteria
  validate_satisfied_list goal .Verification completion.satisfied_verification_criteria
  validate_satisfied_list goal .DefinitionOfDone completion.satisfied_definition_of_done

def validate_completion_catalog (completion : CompletionEvidence) (catalog : List EvidenceId) :
    Except ReviewAuditError Unit :=
  check_all completion.evidence_refs fun evidence_id =>
    reject_if (evidence_id ∉ catalog) (.CompletionEvidenceNotInCatalog evidence_id)

/-- The checks on the goal, before the catalog is looked at. -/
def validate_goal (context : ReviewDecisionValidationContext) : Except ReviewAuditError Unit := do
  let goal := context.goal_contract
  validate_version "goal_contract" goal.contract_version
  validate_version "goal_contract.permission_profile" goal.permission_profile.contract_version
  validate_version "goal_contract.completion_precondition"
    goal.completion_precondition.contract_version
  validate_version "completion_evidence" context.completion_evidence.contract_version
  validate_nonblank "expected_run_id" context.expected_run_id
  validate_nonblank "goal_contract.id" goal.id
  validate_nonblank "goal_contract.project_id" goal.project_id
  validate_nonblank "goal_contract.objective" goal.objective
  validate_nonblank_values "goal_contract.constraints" goal.constraints
  validate_nonblank_values "goal_contract.permission_profile.resource_keys"
    goal.permission_profile.resource_keys
  validate_nonblank_values "goal_contract.permission_profile.write_keys"
    goal.permission_profile.write_keys
  validate_goal_criteria goal

def validate_context (context : ReviewDecisionValidationContext) :
    Except ReviewAuditError (List EvidenceId) := do
  validate_goal context
  validate_catalog context.evidence_catalog
  validate_completion_evidence context
  pure (context.evidence_catalog.map EvidenceRef.id)

/-! ## Assessments -/

def validate_assessment_evidence (assessment_index : ℕ) (assessment : CriterionAssessment)
    (context : ReviewDecisionValidationContext) (catalog : List EvidenceId)
    (decision_name : String) : Except ReviewAuditError Unit := do
  scan_checked id
    (fun evidence_index evidence_id => validate_nonblank
      s!"{decision_name}.assessments[{assessment_index}].evidence_refs[{evidence_index}]"
      evidence_id)
    (fun evidence_id => .DuplicateAssessmentEvidenceId assessment_index evidence_id)
    (fun _ _ _ => .ok ()) assessment.evidence_refs
  reject_if (has_descent assessment.evidence_refs)
    (.UnsortedAssessmentEvidenceIds assessment_index)
  check_all assessment.evidence_refs fun evidence_id => do
    reject_if (evidence_id ∉ context.completion_evidence.evidence_refs)
      (.AssessmentEvidenceNotInCompletion assessment_index evidence_id)
    reject_if (evidence_id ∉ catalog)
      (.AssessmentEvidenceNotInCatalog assessment_index evidence_id)
  reject_if (assessment.verdict = .Satisfied ∧ assessment.evidence_refs = [])
    (.SatisfiedAssessmentWithoutEvidence assessment_index)

/-- The criterion that an assessment is about. -/
def assessed (assessment : CriterionAssessment) : CriterionKind × String :=
  (assessment.kind, assessment.criterion)

def validate_criterion_coverage (goal : GoalContract) (assessments : List CriterionAssessment) :
    Except ReviewAuditError Unit := do
  let declared := canonical_criteria goal
  scan_checked assessed (fun _ _ => .ok ())
    (fun assessment => .DuplicateCriterionAssessment assessment.kind assessment.criterion)
    (fun _ _ assessment => reject_if (assessed assessment ∉ declared)
      (.UnknownCriterionAssessment assessment.kind assessment.criterion))
    assessments
  check_all declared fun criterion => reject_if (criterion ∉ assessments.map assessed)
    (.MissingCriterionAssessment criterion.1 criterion.2)
  check_enumerated (declared.zip assessments) fun index pair =>
    reject_if (pair.1.1 ≠ pair.2.kind ∨ pair.1.2 ≠ pair.2.criterion)
      (.ReorderedCriterionAssessment index pair.1.1 pair.1.2 pair.2.kind pair.2.criterion)

def validate_completion_alignment (completion : CompletionEvidence)
    (assessments : List CriterionAssessment) : Except ReviewAuditError Unit :=
  check_all criterion_kinds fun kind =>
    let expected := (assessments.filter fun assessment =>
      assessment.kind = kind ∧ assessment.verdict = .Satisfied).map CriterionAssessment.criterion
    let actual := completion_satisfied_criteria completion kind
    reject_if (expected ≠ actual) (.CompletionSatisfiedCriteriaMismatch kind expected actual)

def derive_verdict (goal : GoalContract) (assessments : List CriterionAssessment) :
    ReviewVerdict :=
  if assessments.any fun assessment =>
      assessment.verdict = .Unsatisfied ∧ is_required goal assessment.kind then
    .Fail
  else
    .Pass

def validate_assessments (context : ReviewDecisionValidationContext)
    (assessments : List CriterionAssessment) (catalog : List EvidenceId) (decision_name : String)
    (enforce_completion_alignment : Bool) : Except ReviewAuditError ReviewVerdict := do
  check_enumerated assessments fun index assessment => do
    validate_version s!"{decision_name}.assessments[{index}]" assessment.contract_version
    validate_nonblank s!"{decision_name}.assessments[{index}].criterion" assessment.criterion
    validate_nonblank s!"{decision_name}.assessments[{index}].rationale" assessment.rationale
    validate_assessment_evidence index assessment context catalog decision_name
  validate_criterion_coverage context.goal_contract assessments
  if enforce_completion_alignment then
    validate_completion_alignment context.completion_evidence assessments
  pure (derive_verdict context.goal_contract assessments)

/-! ## Decisions -/

/-- The checks of `validate_review_decision`. -/
def check_review_decision (context : ReviewDecisionValidationContext) (decision : ReviewDecision) :
    Except ReviewAuditError Unit := do
  let catalog ← validate_context context
  validate_version "review_decision" decision.contract_version
  validate_nonblank "review_decision.id" decision.id
  validate_nonblank "review_decision.run_id" decision.run_id
  validate_nonblank "review_decision.goal_id" decision.goal_id
  validate_nonblank "review_decision.summary" decision.summary
  reject_if (decision.producer_role ≠ .Reviewer)
    (.ProducerRoleMismatch .Reviewer decision.producer_role)
  reject_if (decision.run_id ≠ context.expected_run_id)
    (.RunIdMismatch context.expected_run_id decision.run_id)
  reject_if (decision.goal_id ≠ context.goal_contract.id)
    (.GoalIdMismatch context.goal_contract.id decision.goal_id)
  let derived ← validate_assessments context decision.assessments catalog "review_decision" true
  validate_completion_catalog context.completion_evidence catalog
  reject_if (derived ≠ decision.verdict) (.VerdictMismatch derived decision.verdict)

/-- A decision that passed the checks in some context. -/
structure ValidatedReviewDecision where
  decision : ReviewDecision
  valid : ∃ context, check_review_decision context decision = .ok ()

def validate_review_decision (context : ReviewDecisionValidationContext)
    (decision : ReviewDecision) : Except ReviewAuditError ValidatedReviewDecision :=
  match h : check_review_decision context decision with
  | .ok () => .ok ⟨decision, context, h⟩
  | .error e => .error e

/-- The checks of `validate_audit_decision`. -/
def check_audit_decision (context : ReviewDecisionValidationContext)
    (validated_review_decision : ValidatedReviewDecision) (decision : AuditDecision) :
    Except ReviewAuditError Unit := do
  let catalog ← validate_context context
  validate_version "audit_decision" decision.contract_version
  validate_nonblank "audit_decision.id" decision.id
  validate_nonblank "audit_decision.run_id" decision.run_id
  validate_nonblank "audit_decision.goal_id" decision.goal_id
  validate_nonblank "audit_decision.review_decision_id" decision.review_decision_id
  validate_nonblank "audit_decision.summary" decision.summary
  reject_if (decision.producer_role ≠ .Auditor)
    (.ProducerRoleMismatch .Auditor decision.producer_role)
  reject_if (decision.run_id ≠ context.expected_run_id)
    (.RunIdMismatch context.expected_run_id decision.run_id)
  reject_if (decision.goal_id ≠ context.goal_contract.id)
    (.GoalIdMismatch context.goal_contract.id decision.goal_id)
  let review := validated_review_decision.decision
  reject_if (decision.review_decision_id ≠ review.id)
    (.ReviewDecisionIdMismatch review.id decision.review_decision_id)
  reject_if (decision.decided_at < review.decided_at)
    (.AuditDecisionBeforeReview review.decided_at decision.decided_at)
  let derived ← validate_assessments context decision.assessments catalog "audit_decision" false
  validate_completion_catalog context.completion_evidence catalog
  reject_if (derived ≠ decision.verdict) (.VerdictMismatch derived decision.verdict)

structure ValidatedAuditDecision where
  decision : AuditDecision
  valid : ∃ context review, check_audit_decision context review decision = .ok ()

def validate_audit_decision (context : ReviewDecisionValidationContext)
    (validated_review_decision : ValidatedReviewDecision) (decision : AuditDecision) :
    Except ReviewAuditError ValidatedAuditDecision :=
  match h : check_audit_decision context validated_review_decision decision with
  | .ok () => .ok ⟨decision, context, validated_review_decision, h⟩
  | .error e => .error e

/-! ## The gate -/

def derive_review_audit_policy (goal_contract : GoalContract)
    (guard_requirements : BTreeSet GuardRequirement) : ReviewAuditPolicy :=
  let auditor_required := goal_contract.permission_profile.audit_required
    || guard_requirements.contains .Auditor
  { reviewer_required := goal_contract.permission_profile.review_required || auditor_required
      || guard_requirements.contains .Reviewer
    auditor_required := auditor_required }

def resolution_from_review (review : ValidatedReviewDecision) : ReviewAuditResolution :=
  match review.decision.verdict with
  | .Pass => .Pass (some review.decision.id) none
  | .Fail => .Fail review.decision.id none

def resolve_validated_decisions (review : ValidatedReviewDecision)
    (audit : ValidatedAuditDecision) : ReviewAuditResolution :=
  match review.decision.verdict, audit.decision.verdict with
  | .Pass, .Pass => .Pass (some review.decision.id) (some audit.decision.id)
  | .Fail, .Fail => .Fail review.decision.id (some audit.decision.id)
  | reviewer_verdict, auditor_verdict =>
    .OwnerEscalation review.decision.id audit.decision.id reviewer_verdict auditor_verdict

/-- The gate without a review decision. -/
def evaluate_without_review (policy : ReviewAuditPolicy) (audit_decision : Option AuditDecision) :
    Except ReviewAuditError ReviewAuditResolution :=
  if audit_decision.isSome then
    .error .AuditWithoutReview
  else if policy.reviewer_required then
    .ok .AwaitingReview
  else
    .ok (.Pass none none)

def evaluate_review_audit (context : ReviewAuditEvaluationContext)
    (review_decision : Option ReviewDecision) (audit_decision : Option AuditDecision) :
    Except ReviewAuditError ReviewAuditResolution :=
  let policy := derive_review_audit_policy context.goal_contract context.guard_requirements
  match review_decision with
  | none => evaluate_without_review policy audit_decision
  | some review_decision => do
    let validated_review ←
      validate_review_decision context.toReviewDecisionValidationContext review_decision
    match audit_decision with
    | none =>
      if policy.auditor_required then
        pure (.AwaitingAudit validated_review.decision.id)
      else
        pure (resolution_from_review validated_review)
    | some audit_decision => do
      let validated_audit ← validate_audit_decision context.toReviewDecisionValidationContext
        validated_review audit_decision
      pure (resolve_validated_decisions validated_review validated_audit)

/-! ## What an accepted decision establishes -/

/-- The assessments of a decision go through the criteria of the goal, each once
and in order, and none that the verdict depends on is left unsatisfied. -/
structure Passes (goal : GoalContract) (assessments : List CriterionAssessment) : Prop where
  order : assessments.map assessed = canonical_criteria goal
  once : (canonical_criteria goal).Nodup
  satisfied : ∀ assessment ∈ assessments, is_required goal assessment.kind = true →
    assessment.verdict = .Satisfied

theorem canonical_criteria_nodup {goal : GoalContract} {u : Unit}
    (h : validate_goal_criteria goal = .ok u) : (canonical_criteria goal).Nodup := by
  have hkind : ∀ kind ∈ criterion_kinds, (declared_criteria goal kind).Nodup := by
    intro kind hkind
    have hscan := check_all_eq_ok.mp h kind hkind
    simp only [scan_checked_eq_ok, List.map_id] at hscan
    exact hscan.2.1
  have hpairs : ∀ kind, kind ∈ criterion_kinds →
      ((declared_criteria goal kind).map fun criterion => (kind, criterion)).Nodup := by
    intro kind hk
    exact (hkind kind hk).map fun _ _ heq => (Prod.mk.inj heq).2
  rw [canonical_criteria, List.nodup_flatMap]
  refine ⟨hpairs, ?_⟩
  have hdistinct : criterion_kinds.Pairwise (· ≠ ·) := by decide
  refine hdistinct.imp fun {a b} hne => ?_
  rw [Function.onFun_apply, List.disjoint_left]
  rintro ⟨kind, criterion⟩ ha hb
  obtain ⟨_, _, heq⟩ := List.mem_map.mp ha
  obtain ⟨_, _, heq'⟩ := List.mem_map.mp hb
  exact hne ((Prod.mk.inj heq).1.trans (Prod.mk.inj heq').1.symm)

/-- Coverage makes the assessments the criteria themselves, in order. -/
theorem validate_criterion_coverage_eq_ok {goal : GoalContract}
    {assessments : List CriterionAssessment} {u : Unit}
    (h : validate_criterion_coverage goal assessments = .ok u)
    (hnodup : (canonical_criteria goal).Nodup) :
    assessments.map assessed = canonical_criteria goal := by
  simp only [validate_criterion_coverage, bind_eq_ok, scan_checked_eq_ok, check_all_eq_ok,
    reject_if_eq_ok, check_enumerated_eq_ok, exists_const, not_not, not_or, ne_eq] at h
  obtain ⟨⟨_, hnodup', hknown⟩, hmissing, horder⟩ := h
  have hsubset : assessments.map assessed ⊆ canonical_criteria goal := by
    intro key hkey
    obtain ⟨assessment, hmem, rfl⟩ := List.mem_map.mp hkey
    obtain ⟨i, hi⟩ := List.getElem?_of_mem hmem
    exact hknown i assessment hi
  have hlength : (assessments.map assessed).length = (canonical_criteria goal).length := by
    refine Nat.le_antisymm ?_ ?_
    · exact (hnodup'.subperm hsubset).length_le
    · exact (hnodup.subperm hmissing).length_le
  rw [List.length_map] at hlength
  refine List.ext_getElem (by rw [List.length_map, hlength]) fun i hi hi' => ?_
  rw [List.length_map] at hi
  have hpair := horder i ((canonical_criteria goal)[i], assessments[i])
    (List.getElem?_eq_some_iff.mpr ⟨by rw [List.length_zip]; omega, List.getElem_zip⟩)
  rw [List.getElem_map]
  exact (Prod.ext hpair.1 hpair.2).symm

theorem validate_goal_eq_ok {context : ReviewDecisionValidationContext} {u : Unit}
    (h : validate_goal context = .ok u) : validate_goal_criteria context.goal_contract = .ok () := by
  simp only [validate_goal, bind_eq_ok] at h
  obtain ⟨_, _, _, _, _, _, _, _, _, _, _, _, _, _, _, _, _, _, _, _, _, _, h⟩ := h
  exact h

theorem validate_context_eq_ok {context : ReviewDecisionValidationContext}
    {catalog : List EvidenceId} :
    validate_context context = .ok catalog ↔ validate_goal context = .ok () ∧
      validate_catalog context.evidence_catalog = .ok () ∧
      validate_completion_evidence context = .ok () ∧
      context.evidence_catalog.map EvidenceRef.id = catalog := by
  simp only [validate_context, bind_eq_ok, exists_and_right, exists_unit_eq_ok, pure_eq_ok]

/-- A decision whose derived verdict is `Pass` passes. -/
theorem passes_of_validate_assessments {context : ReviewDecisionValidationContext}
    {assessments : List CriterionAssessment} {catalog catalog' : List EvidenceId}
    {decision_name : String} {enforce : Bool}
    (hcontext : validate_context context = .ok catalog')
    (h : validate_assessments context assessments catalog decision_name enforce = .ok .Pass) :
    Passes context.goal_contract assessments := by
  have hnodup : (canonical_criteria context.goal_contract).Nodup :=
    canonical_criteria_nodup (validate_goal_eq_ok (validate_context_eq_ok.mp hcontext).1)
  obtain ⟨hcoverage, hverdict⟩ :
      validate_criterion_coverage context.goal_contract assessments = .ok () ∧
        derive_verdict context.goal_contract assessments = .Pass := by
    simp only [validate_assessments, bind_eq_ok] at h
    obtain ⟨_, _, _, hcoverage, h⟩ := h
    refine ⟨hcoverage, ?_⟩
    cases enforce with
    | false => exact pure_eq_ok.mp h
    | true =>
      obtain ⟨_, _, h⟩ := bind_eq_ok.mp h
      exact pure_eq_ok.mp h
  refine ⟨validate_criterion_coverage_eq_ok hcoverage hnodup, hnodup, ?_⟩
  intro assessment hmem hrequired
  unfold derive_verdict at hverdict
  split at hverdict
  · cases hverdict
  · next hany =>
    cases hv : assessment.verdict with
    | Satisfied => rfl
    | Unsatisfied =>
      refine absurd (List.any_eq_true.mpr ⟨assessment, hmem, ?_⟩) hany
      exact decide_eq_true ⟨hv, hrequired⟩

theorem check_review_decision_eq_ok {context : ReviewDecisionValidationContext}
    {decision : ReviewDecision} {u : Unit}
    (h : check_review_decision context decision = .ok u) :
    (∃ catalog, validate_context context = .ok catalog ∧
      validate_assessments context decision.assessments catalog "review_decision" true
        = .ok decision.verdict) ∧
      decision.producer_role = .Reviewer := by
  simp only [check_review_decision, bind_eq_ok, reject_if_eq_ok, exists_const, ne_eq,
    not_not] at h
  obtain ⟨catalog, hcontext, _, _, _, _, _, _, _, _, _, _, hrole, _, _, derived, hderived, _, _,
    rfl⟩ := h
  exact ⟨⟨catalog, hcontext, hderived⟩, hrole⟩

theorem check_audit_decision_eq_ok {context : ReviewDecisionValidationContext}
    {review : ValidatedReviewDecision} {decision : AuditDecision} {u : Unit}
    (h : check_audit_decision context review decision = .ok u) :
    (∃ catalog, validate_context context = .ok catalog ∧
      validate_assessments context decision.assessments catalog "audit_decision" false
        = .ok decision.verdict) ∧
      decision.producer_role = .Auditor ∧ decision.review_decision_id = review.decision.id ∧
      review.decision.decided_at ≤ decision.decided_at := by
  simp only [check_audit_decision, bind_eq_ok, reject_if_eq_ok, exists_const, ne_eq, not_not,
    not_lt] at h
  obtain ⟨catalog, hcontext, _, _, _, _, _, _, _, _, _, _, _, _, hrole, _, _, hid, hdecided,
    derived, hderived, _, _, rfl⟩ := h
  exact ⟨⟨catalog, hcontext, hderived⟩, hrole, hid, hdecided⟩

theorem validate_review_decision_eq_ok {context : ReviewDecisionValidationContext}
    {decision : ReviewDecision} {validated : ValidatedReviewDecision} :
    validate_review_decision context decision = .ok validated ↔
      check_review_decision context decision = .ok () ∧ validated.decision = decision := by
  obtain ⟨decision', valid⟩ := validated
  unfold validate_review_decision
  split
  · next h =>
    simp only [Except.ok.injEq, ValidatedReviewDecision.mk.injEq, h, true_and]
    exact eq_comm
  · next e h =>
    rw [h]
    simp

theorem validate_audit_decision_eq_ok {context : ReviewDecisionValidationContext}
    {review : ValidatedReviewDecision} {decision : AuditDecision}
    {validated : ValidatedAuditDecision} :
    validate_audit_decision context review decision = .ok validated ↔
      check_audit_decision context review decision = .ok () ∧ validated.decision = decision := by
  obtain ⟨decision', valid⟩ := validated
  unfold validate_audit_decision
  split
  · next h =>
    simp only [Except.ok.injEq, ValidatedAuditDecision.mk.injEq, h, true_and]
    exact eq_comm
  · next e h =>
    rw [h]
    simp

/-- An audit can only be required with a review. -/
theorem derive_review_audit_policy_auditor (goal : GoalContract)
    (requirements : BTreeSet GuardRequirement)
    (h : (derive_review_audit_policy goal requirements).auditor_required = true) :
    (derive_review_audit_policy goal requirements).reviewer_required = true := by
  simp only [derive_review_audit_policy] at h ⊢
  rw [h, Bool.or_true, Bool.true_or]

/-- What the gate lets pass: nothing required and nothing decided, or a valid
passing review, together with a valid passing audit of it if there is an audit
at all or one is required. -/
def GatePasses (context : ReviewAuditEvaluationContext) (review_decision : Option ReviewDecision)
    (audit_decision : Option AuditDecision) : Prop :=
  let policy := derive_review_audit_policy context.goal_contract context.guard_requirements
  (review_decision = none ∧ audit_decision = none ∧ policy.reviewer_required = false) ∨
  ∃ review validated, review_decision = some review ∧
    validate_review_decision context.toReviewDecisionValidationContext review = .ok validated ∧
    review.verdict = .Pass ∧
    ((audit_decision = none ∧ policy.auditor_required = false) ∨
      ∃ audit, audit_decision = some audit ∧ audit.verdict = .Pass ∧
        check_audit_decision context.toReviewDecisionValidationContext validated audit = .ok ())

/-- **The gate.** -/
theorem evaluate_review_audit_eq_pass {context : ReviewAuditEvaluationContext}
    {review_decision : Option ReviewDecision} {audit_decision : Option AuditDecision} :
    (∃ review_id audit_id, evaluate_review_audit context review_decision audit_decision
      = .ok (.Pass review_id audit_id)) ↔
      GatePasses context review_decision audit_decision := by
  constructor
  · rintro ⟨review_id, audit_id, h⟩
    unfold evaluate_review_audit at h
    cases review_decision with
    | none =>
      unfold evaluate_without_review at h
      dsimp only at h
      cases audit_decision with
      | some audit => cases h
      | none =>
        rw [Option.isSome_none, if_neg Bool.false_ne_true] at h
        split at h
        · cases h
        · next hrequired => exact Or.inl ⟨rfl, rfl, Bool.not_eq_true _ ▸ hrequired⟩
    | some review =>
      obtain ⟨validated, hvalidated, h⟩ := bind_eq_ok.mp h
      have hdecision := (validate_review_decision_eq_ok.mp hvalidated).2
      cases audit_decision with
      | none =>
        dsimp only at h
        split at h
        · cases h
        · next hrequired =>
          rw [pure_eq_ok, resolution_from_review, hdecision] at h
          cases hreview : review.verdict with
          | Pass =>
            exact Or.inr ⟨review, validated, rfl, hvalidated, hreview,
              Or.inl ⟨rfl, Bool.not_eq_true _ ▸ hrequired⟩⟩
          | Fail =>
            rw [hreview] at h
            cases h
      | some audit =>
        obtain ⟨validated', hvalidated', h⟩ := bind_eq_ok.mp h
        obtain ⟨hcheck, hdecision'⟩ := validate_audit_decision_eq_ok.mp hvalidated'
        rw [pure_eq_ok, resolve_validated_decisions, hdecision, hdecision'] at h
        cases hreview : review.verdict <;> cases haudit : audit.verdict <;>
          rw [hreview, haudit] at h <;> try cases h
        exact Or.inr ⟨review, validated, rfl, hvalidated, hreview,
          Or.inr ⟨audit, rfl, haudit, hcheck⟩⟩
  · rintro (⟨rfl, rfl, hrequired⟩ | ⟨review, validated, rfl, hvalidated, hreview, haudit⟩)
    · refine ⟨none, none, ?_⟩
      unfold evaluate_review_audit evaluate_without_review
      dsimp only
      rw [Option.isSome_none, if_neg Bool.false_ne_true, hrequired, if_neg Bool.false_ne_true]
    · have hdecision := (validate_review_decision_eq_ok.mp hvalidated).2
      rcases haudit with ⟨rfl, hrequired⟩ | ⟨audit, rfl, haudit, hcheck⟩
      · refine ⟨some review.id, none, bind_eq_ok.mpr ⟨validated, hvalidated, ?_⟩⟩
        dsimp only
        rw [hrequired, if_neg Bool.false_ne_true, pure_eq_ok, resolution_from_review, hdecision,
          hreview]
      · have hvalidated' : validate_audit_decision context.toReviewDecisionValidationContext
            validated audit = .ok ⟨audit, _, _, hcheck⟩ :=
          validate_audit_decision_eq_ok.mpr ⟨hcheck, rfl⟩
        refine ⟨some review.id, some audit.id, bind_eq_ok.mpr ⟨validated, hvalidated, ?_⟩⟩
        refine bind_eq_ok.mpr ⟨_, hvalidated', ?_⟩
        rw [pure_eq_ok, resolve_validated_decisions, hdecision, hreview, haudit]

end ReviewAudit

end OvcaCore

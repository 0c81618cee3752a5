/-
What the resolutions of an independent review stand for.

A valid state that has resolved to a pass has two validated decisions of two actors, of
which neither had a part in the candidate, each on its own packet and each resting on
evidence that others have produced; one that has been directed to a repair has two failing
decisions and names what they left unsatisfied; and one that has been escalated to the
owner has the reason that its recorded facts give.
-/
import OvcaCore.ReviewDiscipline

set_option autoImplicit false

namespace OvcaCore

open OvcaCore.Checks OvcaCore.Chains OvcaCore.OrderedMaps EngineerVerifier IndependentReview

variable {P : Type} {sha256 : IndependentReviewDigests P}

/-! ## Evidence -/

/-- Evidence that a role may cite for a criterion: an entry of its manifest for the
criterion binds it to a digest in the catalog, and to a producer who is known and is not
the role itself. -/
def Supports (packet : ReviewPacketV1) (manifest : EvidenceManifestV1)
    (producers : List IndependentEvidenceActorV1) (assessment : CriterionAssessment)
    (evidence_id : EvidenceId) : Prop :=
  ∃ entry ∈ manifest.entries, entry.criterion_kind = assessment.kind ∧
    entry.criterion = assessment.criterion ∧ entry.evidence_id = evidence_id ∧
    entry.producer ∈ producers ∧ entry.producer.actor_id ≠ manifest.actor.principal_id ∧
    ∃ evidence ∈ packet.evidence_catalog, evidence.id = evidence_id ∧
      evidence.producer_role = expected_catalog_role entry.producer.role ∧
      ∃ integrity, evidence.integrity = some integrity ∧ integrity.algorithm = "sha256" ∧
        integrity.digest = entry.content_digest ∧ validate_sha256_digest integrity.digest = true

theorem catalog_ids_nodup {catalog : List EvidenceRef}
    (h : check_enumerated catalog (validate_catalog_entry catalog) = .ok ()) :
    (catalog.map EvidenceRef.id).Nodup := by
  have hascending : (catalog.map EvidenceRef.id).Pairwise (· < ·) := by
    refine pairwise_of_predecessor fun i id id' hid hid' => ?_
    rw [List.getElem?_map, Option.map_eq_some_iff] at hid'
    obtain ⟨y, hy, rfl⟩ := hid'
    obtain ⟨x, hx, rfl⟩ : ∃ x, predecessor none catalog i = some x ∧ x.id = id := by
      cases i with
      | zero => cases hid
      | succ i => exact Option.map_eq_some_iff.mp (List.getElem?_map.symm.trans hid)
    have hentry := check_enumerated_eq_ok.mp h i y hy
    simp only [validate_catalog_entry, bind_eq_ok, reject_if_eq_ok, exists_const,
      check_some_eq_ok, exists_and_right, exists_unit_eq_ok] at hentry
    exact not_le.mp (hentry.2.2.2.1 x hx)
  exact hascending.imp ne_of_lt

theorem supports_of_lists {packet : ReviewPacketV1} {manifest : EvidenceManifestV1}
    {producers : List IndependentEvidenceActorV1} {actor : PrincipalIdentityV1}
    {role : PrincipalV1}
    (hcontext : validate_evidence_context packet.goal_contract packet.completion_evidence
      packet.evidence_catalog = .ok ())
    (hmanifest : manifest.validate_for sha256.toIndependentContractDigests actor role = .ok ())
    (hbindings : validate_manifest_bindings manifest packet.goal_contract
      packet.completion_evidence packet.evidence_catalog producers = .ok ())
    {assessment : CriterionAssessment} {evidence_id : EvidenceId}
    (h : manifest.lists assessment evidence_id = true) :
    Supports packet manifest producers assessment evidence_id := by
  simp only [EvidenceManifestV1.lists, List.any_eq_true, Bool.and_eq_true, beq_iff_eq] at h
  obtain ⟨entry, hentry, ⟨hkind, hcriterion⟩, hid⟩ := h
  simp only [validate_manifest_bindings, bind_eq_ok, check_all_eq_ok, exists_const] at hbindings
  have hbound := hbindings.1 entry hentry
  simp only [validate_manifest_entry, bind_eq_ok, ok_or_eq_ok, reject_if_eq_ok, exists_const,
    not_or, ne_eq, not_not] at hbound
  obtain ⟨evidence, hevidence, integrity, hintegrity, hsame, hdigest⟩ := hbound
  obtain ⟨_, _, _, hrole, _, halgorithm, hcontent, hproducer⟩ := hsame
  simp only [validate_evidence_context, bind_eq_ok, exists_and_right, exists_unit_eq_ok] at hcontext
  have hnodup := catalog_ids_nodup hcontext.2.1
  have hmem : (entry.evidence_id, evidence) ∈
      packet.evidence_catalog.map fun evidence => (evidence.id, evidence) :=
    (get_ofList_eq_some (by rw [List.map_map]; exact hnodup)).mp hevidence
  obtain ⟨evidence, hcatalog, hpair⟩ := List.mem_map.mp hmem
  rw [Prod.mk.injEq] at hpair
  obtain ⟨hevidence_id, rfl⟩ := hpair
  have hother : entry.producer.actor_id ≠ manifest.actor.principal_id := by
    simp only [EvidenceManifestV1.validate_for, bind_eq_ok, check_enumerated_eq_ok, exists_const,
      exists_and_right, exists_unit_eq_ok] at hmanifest
    obtain ⟨i, hi⟩ := List.getElem?_of_mem hentry
    have hvalid := hmanifest.2.2.2.2.2.1 i entry hi
    simp only [EvidenceManifestV1.validate_entry, bind_eq_ok, reject_if_eq_ok, exists_const,
      exists_and_right, exists_unit_eq_ok] at hvalid
    exact hvalid.2.1
  rw [IndependentReview.validate_digest, reject_if_eq_ok, not_not] at hdigest
  exact ⟨entry, hentry, hkind, hcriterion, hid, hproducer, hother, evidence, hcatalog,
    hevidence_id.trans hid, hrole, integrity, hintegrity, halgorithm, hcontent, hdigest⟩

/-! ## Packets -/

/-- The parts of a valid review packet that the decisions rest on. -/
structure ReviewPacketV1.Valid (sha256 : IndependentContractDigests P) (packet : ReviewPacketV1) :
    Prop where
  lineage : packet.validate_lineage = .ok ()
  actors : packet.validate_actors sha256 = .ok ()
  bindings : packet.validate_bindings = .ok ()
  evidence : validate_evidence_context packet.goal_contract packet.completion_evidence
    packet.evidence_catalog = .ok ()
  manifest : packet.evidence_manifest.validate_for sha256 packet.reviewer .Reviewer = .ok ()
  manifest_bindings : validate_manifest_bindings packet.evidence_manifest packet.goal_contract
    packet.completion_evidence packet.evidence_catalog packet.producers = .ok ()

theorem ReviewPacketV1.validate_eq_ok {packet : ReviewPacketV1} {u : Unit}
    (h : packet.validate sha256.toIndependentContractDigests = .ok u) :
    packet.Valid sha256.toIndependentContractDigests := by
  simp only [ReviewPacketV1.validate, bind_eq_ok, exists_and_right, exists_unit_eq_ok] at h
  obtain ⟨hlineage, hactors, hbindings, _, _, hevidence, hmanifest, hmanifest_bindings, _⟩ := h
  exact ⟨hlineage, hactors, hbindings, hevidence, hmanifest, hmanifest_bindings⟩

theorem ReviewPacketV1.Valid.distinct {packet : ReviewPacketV1}
    (h : packet.Valid sha256.toIndependentContractDigests) :
    packet.engineer.principal_id ≠ packet.verifier ∧
      packet.engineer.principal_id ≠ packet.reviewer.principal_id ∧
      packet.verifier ≠ packet.reviewer.principal_id := by
  have hactors := h.actors
  simp only [ReviewPacketV1.validate_actors, bind_eq_ok, reject_if_eq_ok, exists_and_right,
    exists_unit_eq_ok, exists_const, not_or] at hactors
  exact hactors.2.2.2.1

/-- The invocation of the Reviewer is for the Reviewer of the packet. -/
theorem ReviewPacketV1.Valid.target {packet : ReviewPacketV1}
    (h : packet.Valid sha256.toIndependentContractDigests) :
    packet.reviewer_invocation.target = packet.reviewer := by
  have hactors := h.actors
  simp only [ReviewPacketV1.validate_actors, bind_eq_ok, reject_if_eq_ok, exists_and_right,
    exists_unit_eq_ok, not_not] at hactors
  exact hactors.2.2.2.2.2.2.1

/-- The candidate of a packet has not had more repairs than it may have. -/
theorem ReviewPacketV1.Valid.cycle_le {packet : ReviewPacketV1}
    (h : packet.Valid sha256.toIndependentContractDigests) :
    packet.candidate_cycle ≤ packet.max_repair_cycles := by
  have hlineage := h.lineage
  simp only [ReviewPacketV1.validate_lineage, bind_eq_ok, reject_if_eq_ok, exists_and_right,
    exists_unit_eq_ok, not_or, not_lt] at hlineage
  exact hlineage.2.2.2.2.1.2

theorem ReviewPacketV1.Valid.bundle_verdict {packet : ReviewPacketV1}
    (h : packet.Valid sha256.toIndependentContractDigests) :
    packet.verification_bundle.verdict = .Pass := by
  have hbindings := h.bindings
  simp only [ReviewPacketV1.validate_bindings, bind_eq_ok, reject_if_eq_ok, exists_and_right,
    exists_unit_eq_ok, not_or, ne_eq, not_not] at hbindings
  exact hbindings.2.2.2.2.2.2.2.1

/-- The parts of a valid audit packet that the decision of the Auditor rests on. -/
structure AuditPacketV1.Valid (sha256 : IndependentContractDigests P) (packet : AuditPacketV1) :
    Prop where
  auditor : packet.validate_auditor sha256 = .ok ()
  bindings : packet.validate_bindings sha256 = .ok ()
  manifest : packet.evidence_manifest.validate_for sha256 packet.auditor .Auditor = .ok ()
  manifest_bindings : validate_manifest_bindings packet.evidence_manifest
    packet.review_packet.goal_contract packet.review_packet.completion_evidence
    packet.review_packet.evidence_catalog packet.producers = .ok ()

theorem AuditPacketV1.validate_eq_ok {packet : AuditPacketV1} {u : Unit}
    (h : packet.validate sha256.toIndependentContractDigests = .ok u) :
    packet.Valid sha256.toIndependentContractDigests := by
  simp only [AuditPacketV1.validate, bind_eq_ok, exists_and_right, exists_unit_eq_ok] at h
  obtain ⟨_, _, _, hauditor, hbindings, hmanifest, hmanifest_bindings, _⟩ := h
  exact ⟨hauditor, hbindings, hmanifest, hmanifest_bindings⟩

theorem AuditPacketV1.Valid.distinct {packet : AuditPacketV1}
    (h : packet.Valid sha256.toIndependentContractDigests) :
    packet.auditor.principal_id ∉ [packet.review_packet.engineer.principal_id,
      packet.review_packet.verifier, packet.review_packet.reviewer.principal_id] := by
  have hauditor := h.auditor
  simp only [AuditPacketV1.validate_auditor, bind_eq_ok, reject_if_eq_ok, exists_and_right,
    exists_unit_eq_ok, exists_const] at hauditor
  exact hauditor.2.1

theorem AuditPacketV1.Valid.target {packet : AuditPacketV1}
    (h : packet.Valid sha256.toIndependentContractDigests) :
    packet.auditor_invocation.target = packet.auditor := by
  have hbindings := h.bindings
  simp only [AuditPacketV1.validate_bindings, bind_eq_ok, reject_if_eq_ok, exists_and_right,
    exists_unit_eq_ok, not_or, not_not] at hbindings
  exact hbindings.2.2.2.2.2.1.1

/-! ## Decisions -/

theorem completed_result_eq_ok {call : IndependentCallStateV1} {result : RoleResultV1} :
    completed_result call = .ok result ↔ ∃ request_digest started_at usage outcome_digest recorded_at,
      call = .OutcomeRecorded request_digest started_at (.Completed result usage) outcome_digest
        recorded_at := by
  constructor
  · intro h
    unfold completed_result at h
    split at h
    · exact ⟨_, _, _, _, _, by rw [Except.ok.inj h]⟩
    · cases h
  · rintro ⟨_, _, _, _, _, rfl⟩
    rfl

theorem is_recorded_of_completed {call : IndependentCallStateV1} {result : RoleResultV1}
    (h : completed_result call = .ok result) : call.is_recorded = true := by
  obtain ⟨_, _, _, _, _, rfl⟩ := completed_result_eq_ok.mp h
  rfl

/-- A completed result of a valid call is one for its invocation, and the decision of the
role on its packet. -/
theorem validate_of_completed {request : IndependentRoleExecutionRequest}
    {call : IndependentCallStateV1} {result : RoleResultV1}
    (h : call.validate sha256 request = .ok ()) (hresult : completed_result call = .ok result) :
    result.validate_against sha256.toControlPlaneDigests request.role_request.invocation = true ∧
      decides_packet request.packet result.payload = true := by
  obtain ⟨_, _, _, _, _, rfl⟩ := completed_result_eq_ok.mp hresult
  simp only [IndependentCallStateV1.validate, IndependentCallStateV1.validate_with,
    validate_typed_completed_outcome,
    PersistedRoleExecutionOutcomeV1.validate_against, PersistedRoleExecutionOutcomeV1.result,
    bind_eq_ok, mapError_eq_ok, check_some_eq_ok, reject_if_eq_ok, exists_const,
    exists_and_right, exists_unit_eq_ok, not_not, Option.some_inj, forall_eq'] at h
  obtain ⟨_, _, _, ⟨_, _, _, hagainst, _⟩, _, hdecides⟩ := h
  exact ⟨hagainst, hdecides⟩

theorem producer_of_validate_against {result : RoleResultV1} {invocation : RoleInvocationV1}
    (h : result.validate_against sha256.toControlPlaneDigests invocation = true) :
    result.producer = invocation.target := by
  simp only [RoleResultV1.validate_against, Bool.and_eq_true, beq_iff_eq] at h
  exact h.1.1.1.1.1.1.1.1.2

theorem decision_manifest_bindings_iff {assessments : List CriterionAssessment}
    {manifest : EvidenceManifestV1} :
    decision_manifest_bindings assessments manifest = true ↔ ∀ assessment ∈ assessments,
      ∀ evidence_id ∈ assessment.evidence_refs, manifest.lists assessment evidence_id = true := by
  simp only [decision_manifest_bindings, List.all_eq_true]

/-- A review packet is decided by its Reviewer's decision on it. -/
theorem decides_review {packet : ReviewPacketV1} {payload : RoleResultPayloadV1}
    (h : decides_packet (.Review packet) payload = true) : ∃ decision,
      payload = .Reviewer packet.packet_digest decision ∧ decision.run_id = packet.run_id ∧
        decision_manifest_bindings decision.assessments packet.evidence_manifest = true := by
  cases payload with
  | Reviewer packet_digest decision =>
    simp only [decides_packet, Bool.and_eq_true, beq_iff_eq] at h
    exact ⟨decision, by rw [h.1.1.1.1], h.1.1.1.2, h.2⟩
  | Specialist _ => cases h
  | Auditor _ _ => cases h
  | OwnerFinal _ => cases h
  | Failure _ _ => cases h
  | Cancellation _ => cases h

theorem decides_audit {packet : AuditPacketV1} {payload : RoleResultPayloadV1}
    (h : decides_packet (.Audit packet) payload = true) : ∃ decision,
      payload = .Auditor packet.packet_digest decision ∧
        decision.run_id = packet.review_packet.run_id ∧
        decision.review_decision_id = packet.review_decision.id ∧
        decision_manifest_bindings decision.assessments packet.evidence_manifest = true := by
  cases payload with
  | Auditor packet_digest decision =>
    simp only [decides_packet, Bool.and_eq_true, beq_iff_eq] at h
    exact ⟨decision, by rw [h.1.1.1.1.1], h.1.1.1.1.2, h.1.1.2, h.2⟩
  | Specialist _ => cases h
  | Reviewer _ _ => cases h
  | OwnerFinal _ => cases h
  | Failure _ _ => cases h
  | Cancellation _ => cases h

/-- The Reviewer of the packet has decided on it, with evidence that others have produced. -/
structure Reviewed (state : IndependentReviewStateV1) (result : RoleResultV1)
    (decision : ReviewDecision) : Prop where
  completed : completed_result state.review_call = .ok result
  producer : result.producer = state.review_packet.reviewer
  payload : result.payload = .Reviewer state.review_packet.packet_digest decision
  evidence : ∀ assessment ∈ decision.assessments, ∀ evidence_id ∈ assessment.evidence_refs,
    Supports state.review_packet state.review_packet.evidence_manifest
      state.review_packet.producers assessment evidence_id

/-- The Auditor has decided on a packet with that review in it. -/
structure Audited (state : IndependentReviewStateV1) (packet : AuditPacketV1)
    (result : RoleResultV1) (decision : AuditDecision) : Prop where
  completed : ∃ call, state.audit_call = some call ∧ completed_result call = .ok result
  producer : result.producer = packet.auditor
  payload : result.payload = .Auditor packet.packet_digest decision
  review_decision_id : decision.review_decision_id = packet.review_decision.id
  evidence : ∀ assessment ∈ decision.assessments, ∀ evidence_id ∈ assessment.evidence_refs,
    Supports state.review_packet packet.evidence_manifest packet.producers assessment evidence_id

namespace IndependentReviewStateV1

theorem Valid.packet {state : IndependentReviewStateV1} (h : Valid sha256 state) :
    state.review_packet.Valid sha256.toIndependentContractDigests :=
  ReviewPacketV1.validate_eq_ok h.review_packet

theorem Valid.reviewed {state : IndependentReviewStateV1} (h : Valid sha256 state)
    {result : RoleResultV1} (hresult : completed_result state.review_call = .ok result) :
    ∃ decision, Reviewed state result decision := by
  obtain ⟨hagainst, hdecides⟩ := validate_of_completed h.review_call hresult
  obtain ⟨decision, hpayload, _, hbindings⟩ := decides_review hdecides
  have hpacket := h.packet
  refine ⟨decision, hresult, ?_, hpayload, fun assessment hassessment evidence_id hevidence => ?_⟩
  · rw [producer_of_validate_against hagainst]
    exact hpacket.target
  · have hlisted := decision_manifest_bindings_iff.mp hbindings assessment hassessment evidence_id
      hevidence
    exact supports_of_lists hpacket.evidence hpacket.manifest hpacket.manifest_bindings hlisted

theorem Valid.audited {state : IndependentReviewStateV1} (h : Valid sha256 state)
    {packet : AuditPacketV1} {call : IndependentCallStateV1} {result : RoleResultV1}
    (hpacket : state.audit_packet = some packet) (hcall : state.audit_call = some call)
    (hresult : completed_result call = .ok result) :
    ∃ decision, Audited state packet result decision := by
  obtain ⟨call', hcall', hvalid, hreview, hcall_valid⟩ := h.audit_parts hpacket
  rw [hcall, Option.some_inj] at hcall'
  rw [← hcall'] at hcall_valid
  obtain ⟨hagainst, hdecides⟩ := validate_of_completed hcall_valid hresult
  obtain ⟨decision, hpayload, _, hid, hbindings⟩ := decides_audit hdecides
  have haudit := AuditPacketV1.validate_eq_ok hvalid
  refine ⟨decision, ⟨call, hcall, hresult⟩, ?_, hpayload, hid,
    fun assessment hassessment evidence_id hevidence => ?_⟩
  · rw [producer_of_validate_against hagainst]
    exact haudit.target
  · have hlisted := decision_manifest_bindings_iff.mp hbindings assessment hassessment evidence_id
      hevidence
    have hcontext := h.packet.evidence
    rw [← hreview] at hcontext
    have hsupports := supports_of_lists hcontext haudit.manifest haudit.manifest_bindings hlisted
    rw [hreview] at hsupports
    exact hsupports

/-! ## Both decisions -/

/-- What both calls have brought: two completed results, and a validated decision in each. -/
structure Decided (sha256 : IndependentReviewDigests P) (state : IndependentReviewStateV1)
    (packet : AuditPacketV1) (review : ReviewDecision) (audit : AuditDecision)
    (review_result audit_result : RoleResultV1) : Prop where
  audit_packet : state.audit_packet = some packet
  reviewed : Reviewed state review_result review
  audited : Audited state packet audit_result audit
  validated : ∃ validated, ReviewAudit.validate_review_decision state.context review =
    .ok validated ∧ ∃ validated', ReviewAudit.validate_audit_decision state.context validated audit =
      .ok validated'

theorem completed_decisions_eq_ok {state : IndependentReviewStateV1}
    {review_result audit_result : RoleResultV1} {review : ReviewDecision} {audit : AuditDecision} :
    state.completed_decisions = .ok (review_result, audit_result, review, audit) ↔
      completed_result state.review_call = .ok review_result ∧
      (∃ call, state.audit_call = some call ∧ completed_result call = .ok audit_result) ∧
      (∃ digest, review_decision_from_payload review_result.payload = some (digest, review)) ∧
      ∃ digest, audit_decision_from_payload audit_result.payload = some (digest, audit) := by
  simp only [completed_decisions, bind_eq_ok, ok_or_eq_ok, pure_eq_ok, Prod.mk.injEq, Prod.exists]
  constructor
  · rintro ⟨_, hreview, call, hcall, _, haudit, digest, _, hdecision, digest', _, hdecision', rfl,
      rfl, rfl, rfl⟩
    exact ⟨hreview, ⟨call, hcall, haudit⟩, ⟨digest, hdecision⟩, digest', hdecision'⟩
  · rintro ⟨hreview, ⟨call, hcall, haudit⟩, ⟨digest, hdecision⟩, digest', hdecision'⟩
    exact ⟨_, hreview, call, hcall, _, haudit, digest, _, hdecision, digest', _, hdecision', rfl,
      rfl, rfl, rfl⟩

theorem validated_decisions_eq_ok {state : IndependentReviewStateV1} {review audit : ReviewVerdict}
    {review_digest audit_digest : String} :
    state.validated_decisions sha256 = .ok (review, audit, review_digest, audit_digest) ↔
      ∃ review_result audit_result review_decision audit_decision,
        state.completed_decisions =
          .ok (review_result, audit_result, review_decision, audit_decision) ∧
        (∃ validated, ReviewAudit.validate_review_decision state.context review_decision =
          .ok validated ∧ ∃ validated', ReviewAudit.validate_audit_decision state.context validated
            audit_decision = .ok validated') ∧
        review_decision.verdict = review ∧ audit_decision.verdict = audit ∧
        sha256.result review_result = review_digest ∧ sha256.result audit_result = audit_digest := by
  simp only [validated_decisions, bind_eq_ok, mapError_eq_ok, pure_eq_ok, Prod.mk.injEq, Prod.exists]
  constructor
  · rintro ⟨_, _, _, _, hcompleted, validated, hvalidated, validated', hvalidated', hsame⟩
    exact ⟨_, _, _, _, hcompleted, ⟨validated, hvalidated, validated', hvalidated'⟩, hsame⟩
  · rintro ⟨_, _, _, _, hcompleted, ⟨validated, hvalidated, validated', hvalidated'⟩, hsame⟩
    exact ⟨_, _, _, _, hcompleted, validated, hvalidated, validated', hvalidated', hsame⟩

/-- Decisions that were found valid are those of the two roles of the state. -/
theorem Valid.decided {state : IndependentReviewStateV1} (h : Valid sha256 state)
    {review audit : ReviewVerdict} {review_digest audit_digest : String}
    (hdecisions : state.validated_decisions sha256 =
      .ok (review, audit, review_digest, audit_digest)) :
    ∃ packet review_decision audit_decision review_result audit_result,
      Decided sha256 state packet review_decision audit_decision review_result audit_result ∧
      state.completed_decisions = .ok (review_result, audit_result, review_decision, audit_decision) ∧
      review_decision.verdict = review ∧ audit_decision.verdict = audit ∧
      sha256.result review_result = review_digest ∧ sha256.result audit_result = audit_digest := by
  obtain ⟨review_result, audit_result, review_decision, audit_decision, hcompleted, hvalidated,
    hsame⟩ := validated_decisions_eq_ok.mp hdecisions
  obtain ⟨hreview, ⟨call, hcall, haudit⟩, ⟨digest, hdecision⟩, digest', hdecision'⟩ :=
    completed_decisions_eq_ok.mp hcompleted
  obtain ⟨packet, hpacket⟩ : ∃ packet, state.audit_packet = some packet := by
    rw [← Option.ne_none_iff_exists', ne_eq, ← h.audit_call_eq_none, hcall]
    exact Option.some_ne_none call
  obtain ⟨reviewed, hreviewed⟩ := h.reviewed hreview
  obtain ⟨audited, haudited⟩ := h.audited hpacket hcall haudit
  obtain rfl : reviewed = review_decision := by
    rw [hreviewed.payload] at hdecision
    exact congrArg Prod.snd (Option.some.inj hdecision)
  obtain rfl : audited = audit_decision := by
    rw [haudited.payload] at hdecision'
    exact congrArg Prod.snd (Option.some.inj hdecision')
  exact ⟨packet, reviewed, audited, review_result, audit_result,
    ⟨hpacket, hreviewed, haudited, hvalidated⟩, hcompleted, hsame⟩

/-! ## Passes -/

/-- A satisfied assessment cites evidence. -/
theorem evidence_of_satisfied {context : ReviewDecisionValidationContext}
    {assessments : List CriterionAssessment} {catalog : List EvidenceId} {decision_name : String}
    {enforce : Bool} {verdict : ReviewVerdict}
    (h : ReviewAudit.validate_assessments context assessments catalog decision_name enforce =
      .ok verdict) {assessment : CriterionAssessment} (hmem : assessment ∈ assessments)
    (hsatisfied : assessment.verdict = .Satisfied) : assessment.evidence_refs ≠ [] := by
  obtain ⟨i, hi⟩ := List.getElem?_of_mem hmem
  rw [ReviewAudit.validate_assessments, bind_eq_ok] at h
  obtain ⟨_, hassessments, _⟩ := h
  have hassessment := check_enumerated_eq_ok.mp hassessments i assessment hi
  simp only [ReviewAudit.validate_assessment_evidence, bind_eq_ok, reject_if_eq_ok,
    exists_and_right, exists_unit_eq_ok, exists_const] at hassessment
  intro hempty
  exact hassessment.2.2.2.2.2.2 ⟨hsatisfied, hempty⟩

/-- Every criterion that counts is assessed as satisfied, and evidence is cited for it. -/
def Backed (packet : ReviewPacketV1) (manifest : EvidenceManifestV1)
    (producers : List IndependentEvidenceActorV1) (assessments : List CriterionAssessment) : Prop :=
  ∀ criterion ∈ ReviewAudit.canonical_criteria packet.goal_contract,
    ReviewAudit.is_required packet.goal_contract criterion.1 = true →
    ∃ assessment ∈ assessments, ReviewAudit.assessed assessment = criterion ∧
      assessment.verdict = .Satisfied ∧ ∃ evidence_id ∈ assessment.evidence_refs,
        Supports packet manifest producers assessment evidence_id

theorem backed_of_validate {state : IndependentReviewStateV1} {catalog catalog' : List EvidenceId}
    {decision_name : String} {enforce : Bool} {assessments : List CriterionAssessment}
    {manifest : EvidenceManifestV1} {producers : List IndependentEvidenceActorV1}
    (hcontext : ReviewAudit.validate_context state.context = .ok catalog')
    (h : ReviewAudit.validate_assessments state.context assessments catalog decision_name enforce =
      .ok .Pass)
    (hevidence : ∀ assessment ∈ assessments, ∀ evidence_id ∈ assessment.evidence_refs,
      Supports state.review_packet manifest producers assessment evidence_id) :
    Backed state.review_packet manifest producers assessments := by
  have hpasses := ReviewAudit.passes_of_validate_assessments hcontext h
  intro criterion hcriterion hrequired
  obtain ⟨assessment, hmem, rfl⟩ : ∃ assessment ∈ assessments,
      ReviewAudit.assessed assessment = criterion := by
    rw [← List.mem_map, hpasses.order]
    exact hcriterion
  have hsatisfied := hpasses.satisfied assessment hmem hrequired
  obtain ⟨evidence_id, hcited⟩ := List.exists_mem_of_ne_nil _ (evidence_of_satisfied h hmem hsatisfied)
  exact ⟨assessment, hmem, rfl, hsatisfied, evidence_id, hcited,
    hevidence assessment hmem evidence_id hcited⟩

/-- **Dual control.** Two actors, of which neither had a part in the candidate, have each
found every criterion that counts satisfied, by evidence of others. -/
structure DualControl (sha256 : IndependentReviewDigests P) (state : IndependentReviewStateV1)
    (packet : AuditPacketV1) (review : ReviewDecision) (audit : AuditDecision)
    (review_result audit_result : RoleResultV1) : Prop extends
    Decided sha256 state packet review audit review_result audit_result where
  actors : [state.review_packet.engineer.principal_id, state.review_packet.verifier,
    state.review_packet.reviewer.principal_id, packet.auditor.principal_id].Nodup
  review_backed : Backed state.review_packet state.review_packet.evidence_manifest
    state.review_packet.producers review.assessments
  audit_backed : Backed state.review_packet packet.evidence_manifest packet.producers
    audit.assessments
  same_review : packet.review_decision = review
  verified : state.review_packet.verification_bundle.verdict = .Pass
  resolution : state.resolution =
    some (.Pass (sha256.result review_result) (sha256.result audit_result))

/-- The actors of an audit in a valid state are four. -/
theorem Valid.actors_nodup {state : IndependentReviewStateV1} (h : Valid sha256 state)
    {packet : AuditPacketV1} (hpacket : state.audit_packet = some packet) :
    [state.review_packet.engineer.principal_id, state.review_packet.verifier,
      state.review_packet.reviewer.principal_id, packet.auditor.principal_id].Nodup := by
  obtain ⟨_, _, hvalid, hreview, _⟩ := h.audit_parts hpacket
  have hauditor := (AuditPacketV1.validate_eq_ok hvalid).distinct
  obtain ⟨hverifier, hreviewer, hother⟩ := h.packet.distinct
  rw [hreview] at hauditor
  simp only [List.mem_cons, List.not_mem_nil, or_false, not_or] at hauditor
  simp only [List.nodup_cons, List.mem_cons, List.not_mem_nil, or_false, not_or,
    not_false_eq_true, List.nodup_nil, and_true]
  exact ⟨⟨hverifier, hreviewer, Ne.symm hauditor.1⟩, ⟨hother, Ne.symm hauditor.2.1⟩,
    Ne.symm hauditor.2.2⟩

/-- What a pass has been checked for. -/
theorem Valid.pass_decisions {state : IndependentReviewStateV1} (h : Valid sha256 state)
    (hphase : state.phase = .ResolvedPass) : ∃ review_digest audit_digest,
      state.resolution = some (.Pass review_digest audit_digest) ∧
        state.validated_decisions sha256 = .ok (.Pass, .Pass, review_digest, audit_digest) := by
  have hsemantics := h.semantics
  rw [validate_terminal_semantics, hphase] at hsemantics
  split at hsemantics
  · next review_digest audit_digest _ hresolution =>
    rw [bind_eq_ok] at hsemantics
    obtain ⟨⟨review, audit, review_digest', audit_digest'⟩, hdecisions, hsame⟩ := hsemantics
    simp only [reject_if_eq_ok, not_or, ne_eq, not_not, Prod.mk.injEq] at hsame
    obtain ⟨⟨rfl, rfl⟩, rfl, rfl⟩ := hsame
    exact ⟨_, _, hresolution, hdecisions⟩
  all_goals simp_all

/-- **Nothing passes on one actor's word.** A valid state that has resolved to a pass stands
for two validated passing decisions, by a Reviewer and an Auditor who are neither the
Engineer nor the Verifier nor one another: each of them has assessed every criterion that
counts as satisfied, citing for it evidence of the catalog that is bound by its digest and
that the judge has not produced itself; the Auditor has been given that very review; and the
resolution carries the digests of the two results. -/
theorem resolved_pass_dual_control {state : IndependentReviewStateV1}
    (h : state.validate sha256 = .ok ()) (hphase : state.phase = .ResolvedPass) :
    ∃ packet review audit review_result audit_result,
      DualControl sha256 state packet review audit review_result audit_result := by
  have hvalid := validate_eq_ok h
  obtain ⟨review_digest, audit_digest, hresolution, hdecisions⟩ := hvalid.pass_decisions hphase
  obtain ⟨packet, review, audit, review_result, audit_result, hdecided, _, hreview_verdict,
    haudit_verdict, hreview_digest, haudit_digest⟩ := hvalid.decided hdecisions
  obtain ⟨validated, hvalidated, validated', hvalidated'⟩ := hdecided.validated
  obtain ⟨⟨catalog, hcontext, hreview_assessments⟩, _⟩ := ReviewAudit.check_review_decision_eq_ok
    (ReviewAudit.validate_review_decision_eq_ok.mp hvalidated).1
  obtain ⟨⟨catalog', hcontext', haudit_assessments⟩, _⟩ := ReviewAudit.check_audit_decision_eq_ok
    (ReviewAudit.validate_audit_decision_eq_ok.mp hvalidated').1
  rw [hreview_verdict] at hreview_assessments
  rw [haudit_verdict] at haudit_assessments
  obtain ⟨result, decision, hbound⟩ := hvalid.bound hdecided.audit_packet
  have hsame : decision = review := by
    obtain ⟨digest, hpayload⟩ := hbound.decided
    have hresult : result = review_result :=
      Except.ok.inj (hbound.completed.symm.trans hdecided.reviewed.completed)
    rw [hresult, hdecided.reviewed.payload] at hpayload
    exact (congrArg Prod.snd (Option.some.inj hpayload)).symm
  refine ⟨packet, review, audit, review_result, audit_result, hdecided,
    hvalid.actors_nodup hdecided.audit_packet, ?_, ?_, ?_, hvalid.packet.bundle_verdict, ?_⟩
  · exact backed_of_validate hcontext hreview_assessments hdecided.reviewed.evidence
  · exact backed_of_validate hcontext' haudit_assessments hdecided.audited.evidence
  · rw [hbound.decision_eq, hsame]
  · rw [hresolution, hreview_digest, haudit_digest]

open ReviewedRun in
/-- The passed run stands for a review and an audit. -/
theorem passed_dual_control : ∃ packet review audit review_result audit_result,
    DualControl digests passed packet review audit review_result audit_result :=
  resolved_pass_dual_control (validate_eq_ok_iff.mpr passed_valid) rfl

/-! ## Repairs -/

theorem key_injective {a b : UnsatisfiedCriterionV1} (h : a.key = b.key) : a = b := by
  obtain ⟨kind, criterion⟩ := a
  obtain ⟨kind', criterion'⟩ := b
  simp only [UnsatisfiedCriterionV1.key, EmbeddingLike.apply_eq_iff_eq, Prod.mk.injEq] at h
  obtain ⟨hrank, rfl⟩ := h
  cases kind <;> cases kind' <;> first | rfl | cases hrank

/-- The criteria of a directive are ascending, and are those that an assessment of one of
the two decisions has found unsatisfied. -/
theorem unsatisfied_criteria_spec (review : ReviewDecision) (audit : AuditDecision) :
    (unsatisfied_criteria review audit).Pairwise (fun a b => a.key < b.key) ∧
      ∀ criterion, criterion ∈ unsatisfied_criteria review audit ↔
        ∃ assessment ∈ review.assessments ++ audit.assessments,
          assessment.verdict = .Unsatisfied ∧ assessment.kind = criterion.kind ∧
            assessment.criterion = criterion.criterion := by
  have : Std.Antisymm fun a b : UnsatisfiedCriterionV1 => a.key ≤ b.key :=
    ⟨fun _ _ hab hba => key_injective (le_antisymm hab hba)⟩
  have : IsTrans UnsatisfiedCriterionV1 fun a b => a.key ≤ b.key := ⟨fun _ _ _ => le_trans⟩
  have : Std.Total fun a b : UnsatisfiedCriterionV1 => a.key ≤ b.key := ⟨fun a b => le_total _ _⟩
  have hsorted : ∀ criteria : List UnsatisfiedCriterionV1,
      (criteria.insertionSort fun a b => a.key ≤ b.key).Pairwise fun a b => a.key ≤ b.key :=
    fun criteria => List.pairwise_insertionSort _ criteria
  unfold unsatisfied_criteria
  dsimp only
  rw [(hsorted _).destutter_eq_dedup]
  constructor
  · refine (((hsorted _).sublist (List.dedup_sublist _)).and (List.nodup_dedup _)).imp ?_
    exact fun {a b} h => lt_of_le_of_ne h.1 fun hkey => h.2 (key_injective hkey)
  · intro criterion
    rw [List.mem_dedup, (List.perm_insertionSort _ _).mem_iff, List.mem_map]
    simp only [List.mem_filter, decide_eq_true_eq]
    constructor
    · rintro ⟨assessment, ⟨hmem, hverdict⟩, rfl⟩
      exact ⟨assessment, hmem, hverdict, rfl, rfl⟩
    · rintro ⟨assessment, hmem, hverdict, hkind, hcriterion⟩
      exact ⟨assessment, ⟨hmem, hverdict⟩, by rw [hkind, hcriterion]⟩

/-- **What a repair stands for.** Both decisions fail; one more repair is within the bound;
and the directive names the run that follows, its cycle, the one path of the candidate and
what the decisions left unsatisfied, and grants nothing. -/
structure RepairRouted (sha256 : IndependentReviewDigests P) (state : IndependentReviewStateV1)
    (directive : RepairDirectiveV1) (packet : AuditPacketV1) (review : ReviewDecision)
    (audit : AuditDecision) (review_result audit_result : RoleResultV1) : Prop extends
    Decided sha256 state packet review audit review_result audit_result where
  stored : state.repair_directive = some directive
  verdicts : review.verdict = .Fail ∧ audit.verdict = .Fail
  budget : state.review_packet.candidate_cycle < state.review_packet.max_repair_cycles
  cycle : directive.failed_candidate_cycle = state.review_packet.candidate_cycle ∧
    directive.successor_candidate_cycle = state.review_packet.candidate_cycle + 1
  lineage : directive.root_run_id = state.review_packet.root_run_id ∧
    directive.failed_run_id = state.review_packet.run_id ∧
    directive.goal_id = state.review_packet.goal_id ∧
    directive.task_id = state.review_packet.task_id ∧
    directive.max_repair_cycles = state.review_packet.max_repair_cycles
  successor : derive_repair_successor_run_id sha256.toIndependentContractDigests
    state.review_packet.root_run_id (state.review_packet.candidate_cycle + 1)
    (sha256.result review_result) (sha256.result audit_result) = .ok directive.successor_run_id
  paths : directive.repair_paths = [state.review_packet.frozen_diff.logical_path]
  ascending : directive.unsatisfied_criteria.Pairwise fun a b => a.key < b.key
  unsatisfied : ∀ criterion, criterion ∈ directive.unsatisfied_criteria ↔
    ∃ assessment ∈ review.assessments ++ audit.assessments, assessment.verdict = .Unsatisfied ∧
      assessment.kind = criterion.kind ∧ assessment.criterion = criterion.criterion
  not_empty : directive.unsatisfied_criteria ≠ []
  grants_nothing : directive.grants_authority = false
  resolution : state.resolution =
    some (.Repair directive.directive_digest directive.successor_run_id)

theorem Valid.repair {state : IndependentReviewStateV1} (h : Valid sha256 state)
    (hphase : state.phase = .RepairDirected) : state.validate_repair sha256 = .ok () ∧
      ∃ directive, state.repair_directive = some directive ∧
        state.resolution = some (.Repair directive.directive_digest directive.successor_run_id) := by
  have hsemantics := h.semantics
  have hshape := h.phase_shape
  rw [validate_terminal_semantics, hphase] at hsemantics
  cases hresolution : state.resolution with
  | none => simp [hresolution] at hsemantics
  | some resolution =>
    cases resolution with
    | Pass _ _ => simp [hresolution] at hsemantics
    | OwnerEscalation _ => simp [hresolution] at hsemantics
    | Repair directive_digest successor_run_id =>
      rw [hresolution] at hsemantics
      simp only [validate_phase_shape, hresolution, bind_eq_ok, ok_or_eq_ok, reject_if_eq_ok,
        exists_const, not_or, ne_eq, not_not] at hshape
      obtain ⟨_, directive, hdirective, rfl, rfl⟩ := hshape
      exact ⟨hsemantics, directive, hdirective, rfl⟩

/-- **A repair is exactly what two failing decisions call for.** -/
theorem repair_directed_routed {state : IndependentReviewStateV1}
    (h : state.validate sha256 = .ok ()) (hphase : state.phase = .RepairDirected) :
    ∃ directive packet review audit review_result audit_result,
      RepairRouted sha256 state directive packet review audit review_result audit_result := by
  have hvalid := validate_eq_ok h
  obtain ⟨hrepair, directive, hdirective, hresolution⟩ := hvalid.repair hphase
  simp only [validate_repair, bind_eq_ok, ok_or_eq_ok, reject_if_eq_ok, not_or, ne_eq, not_not,
    Prod.exists, Prod.mk.injEq, not_le] at hrepair
  obtain ⟨_, _, review_digest, audit_digest, hdecisions, directive', hdirective', packet, hpacket,
    criteria, hcriteria, ⟨rfl, rfl⟩, hbudget, hreview_digest, haudit_digest, _, _, hpaths,
    hunsatisfied⟩ := hrepair
  obtain rfl : directive = directive' := Option.some.inj (hdirective.symm.trans hdirective')
  obtain ⟨packet', review, audit, review_result, audit_result, hdecided, hcompleted,
    hreview_verdict, haudit_verdict, rfl, rfl⟩ := hvalid.decided hdecisions
  obtain rfl : packet = packet' := Option.some.inj (hpacket.symm.trans hdecided.audit_packet)
  have hcriteria : criteria = unsatisfied_criteria review audit := by
    rw [expected_unsatisfied_criteria, bind_eq_ok] at hcriteria
    obtain ⟨⟨_, _, _, _⟩, hcompleted', hpure⟩ := hcriteria
    rw [hcompleted, Except.ok.injEq, Prod.mk.injEq, Prod.mk.injEq, Prod.mk.injEq] at hcompleted'
    obtain ⟨rfl, rfl, rfl, rfl⟩ := hcompleted'
    exact (pure_eq_ok.mp hpure).symm
  have hchecked := hvalid.directive
  simp only [validate_directive, check_some_eq_ok, bind_eq_ok, of_contract_eq_ok, reject_if_eq_ok,
    exists_const, not_or, ne_eq, not_not] at hchecked
  obtain ⟨hdirective_valid, hfailed, hroot, hgoal, htask, hcycle, hmax, _⟩ :=
    hchecked directive hdirective
  simp only [RepairDirectiveV1.validate, RepairDirectiveV1.validate_succession, bind_eq_ok,
    reject_if_eq_ok, exists_const, exists_and_right, exists_unit_eq_ok, not_or, ne_eq, not_not,
    Bool.not_eq_true] at hdirective_valid
  obtain ⟨_, ⟨_, _, ⟨hsuccessor, hgrants, _, hnonempty⟩, successor, hderived, hrun⟩, _⟩ :=
    hdirective_valid
  obtain ⟨hascending, hmem⟩ := unsatisfied_criteria_spec review audit
  rw [hunsatisfied, hcriteria] at hnonempty
  refine ⟨directive, packet, review, audit, review_result, audit_result, hdecided, hdirective,
    ⟨hreview_verdict, haudit_verdict⟩, hbudget, ⟨hcycle, by rw [hsuccessor, hcycle]⟩,
    ⟨hroot, hfailed, hgoal, htask, hmax⟩, ?_, hpaths, ?_, ?_, ?_, hgrants, hresolution⟩
  · rw [hroot, hsuccessor, hcycle, hreview_digest, haudit_digest] at hderived
    rw [hderived, hrun]
  · rw [hunsatisfied, hcriteria]
    exact hascending
  · rw [hunsatisfied, hcriteria]
    exact hmem
  · rw [hunsatisfied, hcriteria]
    exact hnonempty

namespace ReviewedRun

open EngineerVerifierStateV1.LocalRun (digest at_ coordinator)

def directive : RepairDirectiveV1 where
  contract_version := 1
  directive_id := "directive"
  root_run_id := "run"
  failed_run_id := "run"
  successor_run_id := s!"repair.1.{digest 506}"
  goal_id := "goal"
  task_id := "task"
  failed_candidate_cycle := 0
  successor_candidate_cycle := 1
  max_repair_cycles := 1
  prior_repair_directive_digest := none
  review_packet_digest := digest 503
  review_result_digest := digest 3
  audit_packet_digest := digest 504
  audit_result_digest := digest 3
  repair_paths := ["out.txt"]
  unsatisfied_criteria := [⟨.Acceptance, "it works"⟩]
  routed_by := coordinator
  grants_authority := false
  directive_digest := digest 505

/-- Both decisions have failed, and the run is sent to a repair. -/
def repaired : IndependentReviewStateV1 :=
  rehashed { resolved .Fail .RepairDirected (.Repair (digest 505) s!"repair.1.{digest 506}") with
    repair_directive := some directive }

/-- The evidence of two passing decisions is found to be invalid. -/
def invalidated : IndependentReviewStateV1 :=
  resolved .Pass .OwnerEscalated (.OwnerEscalation .EvidenceInvalid)

/-- What is evaluated of the two resolutions. -/
theorem resolutions_evaluate :
    repaired.validate_directive digests = .ok () ∧ repaired.validate_phase_shape = .ok ()
      ∧ repaired.validate_terminal_semantics digests = .ok ()
      ∧ invalidated.validate_phase_shape = .ok ()
      ∧ invalidated.validate_terminal_semantics digests = .ok () := by
  decide

theorem repaired_valid : Valid digests repaired where
  contract_version := rfl
  controller_time := at_precision 6
  review_packet := packet_valid .Fail
  evidence := context_valid .Fail
  review_call := bind_eq_ok.mpr ⟨_, review_request_digest .Fail, reviewed_valid .Fail⟩
  audit := (auditing_valid .Fail 5 (audited_valid .Fail)).audit
  directive := resolutions_evaluate.1
  phase_shape := resolutions_evaluate.2.1
  binding := binding_valid .Fail
  semantics := resolutions_evaluate.2.2.1
  digest_format := digest_format (by decide)
  state_digest := rfl

end ReviewedRun

open ReviewedRun in
/-- The repaired run is the first repair of its candidate. -/
theorem repaired_routed : ∃ directive packet review audit review_result audit_result,
    RepairRouted digests repaired directive packet review audit review_result audit_result :=
  repair_directed_routed (validate_eq_ok_iff.mpr repaired_valid) rfl

/-! ## Which resolution the facts allow -/

/-- A resolution without its digests. -/
inductive Settlement where
  | Passed
  | Repaired
  | Escalated (reason : OwnerEscalationReasonV1)
  deriving DecidableEq, Repr

def settlement (state : IndependentReviewStateV1) : Option Settlement :=
  state.resolution.map fun
    | .Pass _ _ => .Passed
    | .Repair _ _ => .Repaired
    | .OwnerEscalation reason => .Escalated reason

/-- What follows from two validated verdicts. -/
def settlements_of_verdicts (packet : ReviewPacketV1) :
    ReviewVerdict → ReviewVerdict → List Settlement
  | .Pass, .Pass => [.Passed, .Escalated .EvidenceInvalid]
  | .Fail, .Fail =>
    if packet.candidate_cycle < packet.max_repair_cycles then [.Repaired]
    else [.Escalated .RepairBudgetExhausted]
  | .Pass, .Fail | .Fail, .Pass => [.Escalated .VerdictDisagreement]

/-- The settlements that the packets and the calls of a state allow. -/
def settlements (sha256 : IndependentReviewDigests P) (state : IndependentReviewStateV1) :
    List Settlement :=
  match state.audit_call with
  | none =>
    match state.review_call with
    | .NotStarted => [.Escalated .EvidenceInvalid]
    | .Started _ _ => [.Escalated .ReviewerOutcomeUnknown]
    | .OutcomeRecorded _ _ _ _ _ =>
      match state.review_decision with
      | .error _ => [.Escalated .ReviewerExecutionFailed]
      | .ok decision =>
        match ReviewAudit.validate_review_decision state.context decision with
        | .ok _ => []
        | .error _ => [.Escalated .EvidenceInvalid]
  | some .NotStarted => [.Escalated .EvidenceInvalid]
  | some (.Started _ _) => [.Escalated .AuditorOutcomeUnknown]
  | some (.OutcomeRecorded a b c d e) =>
    match completed_result (.OutcomeRecorded a b c d e), state.validated_decisions sha256 with
    -- The source accepts both reasons for an audit that has not been completed.
    | .error _, _ => [.Escalated .AuditorExecutionFailed, .Escalated .EvidenceInvalid]
    | .ok _, .error _ => [.Escalated .EvidenceInvalid]
    | .ok _, .ok (review, audit, _, _) => settlements_of_verdicts state.review_packet review audit

/-- Validated decisions are those of a completed audit. -/
theorem completed_of_validated_decisions {state : IndependentReviewStateV1}
    {decisions : ReviewVerdict × ReviewVerdict × String × String}
    (h : state.validated_decisions sha256 = .ok decisions) :
    ∃ call result, state.audit_call = some call ∧ completed_result call = .ok result := by
  obtain ⟨review, audit, review_digest, audit_digest⟩ := decisions
  obtain ⟨_, _, _, _, hcompleted, _⟩ := validated_decisions_eq_ok.mp h
  obtain ⟨_, ⟨call, hcall, hresult⟩, _⟩ := completed_decisions_eq_ok.mp hcompleted
  exact ⟨call, _, hcall, hresult⟩

/-- With two validated decisions it is the verdicts that count. -/
theorem settlements_of_decisions {state : IndependentReviewStateV1} {review audit : ReviewVerdict}
    {review_digest audit_digest : String}
    (h : state.validated_decisions sha256 = .ok (review, audit, review_digest, audit_digest)) :
    state.settlements sha256 = settlements_of_verdicts state.review_packet review audit := by
  obtain ⟨call, result, hcall, hresult⟩ := completed_of_validated_decisions h
  obtain ⟨_, _, _, _, _, rfl⟩ := completed_result_eq_ok.mp hresult
  unfold settlements
  rw [hcall, h]
  rfl

theorem review_decision_of_completed {state : IndependentReviewStateV1} (h : Valid sha256 state)
    {result : RoleResultV1} (hresult : completed_result state.review_call = .ok result) :
    ∃ decision, state.review_decision = .ok decision := by
  obtain ⟨decision, hreviewed⟩ := h.reviewed hresult
  refine ⟨decision, ?_⟩
  simp only [review_decision, bind_eq_ok, ok_or_eq_ok, pure_eq_ok, Prod.exists, exists_eq_right]
  exact ⟨result, hresult, _, by rw [hreviewed.payload]; rfl⟩

theorem error_of_not_ok_and {ε α : Type} {x : Except ε α} (h : ok_and x (fun _ => true) = false) :
    ∃ e, x = .error e := by
  cases x with
  | error e => exact ⟨e, rfl⟩
  | ok a => cases h

/-- The reason of an escalation is one that the facts allow. -/
theorem Valid.escalation_mem {state : IndependentReviewStateV1} (h : Valid sha256 state)
    {reason : OwnerEscalationReasonV1} (hholds : state.escalation_holds sha256 reason = true) :
    .Escalated reason ∈ state.settlements sha256 := by
  have hverdicts : ∀ {holds : ReviewVerdict × ReviewVerdict × String × String → Bool},
      ok_and (state.validated_decisions sha256) holds = true → ∃ review audit review_digest
        audit_digest, holds (review, audit, review_digest, audit_digest) = true ∧
          state.settlements sha256 = settlements_of_verdicts state.review_packet review audit := by
    intro holds hok
    obtain ⟨⟨review, audit, review_digest, audit_digest⟩, hdecisions, hholds⟩ :=
      ok_and_eq_true.mp hok
    exact ⟨review, audit, review_digest, audit_digest, hholds, settlements_of_decisions hdecisions⟩
  cases reason with
  | ReviewerOutcomeUnknown =>
    simp only [escalation_holds, Bool.and_eq_true, Option.isNone_iff_eq_none] at hholds
    obtain ⟨hpacket, hstarted⟩ := hholds
    have hcall := h.audit_call_eq_none.mpr hpacket
    unfold settlements
    rw [hcall]
    cases hreview : state.review_call with
    | NotStarted => simp [hreview, IndependentCallStateV1.is_started] at hstarted
    | Started _ _ => exact List.mem_singleton.mpr rfl
    | OutcomeRecorded _ _ _ _ _ => simp [hreview, IndependentCallStateV1.is_started] at hstarted
  | ReviewerExecutionFailed =>
    simp only [escalation_holds, Bool.and_eq_true, Option.isNone_iff_eq_none,
      Bool.not_eq_true'] at hholds
    obtain ⟨⟨hpacket, hrecorded⟩, hfailed⟩ := hholds
    obtain ⟨e, herror⟩ := error_of_not_ok_and hfailed
    have hdecision : ∃ e, state.review_decision = .error e := by
      refine ⟨e, ?_⟩
      rw [review_decision, herror]
      rfl
    obtain ⟨e', hdecision⟩ := hdecision
    unfold settlements
    rw [h.audit_call_eq_none.mpr hpacket, hdecision]
    cases hreview : state.review_call with
    | NotStarted => simp [hreview, IndependentCallStateV1.is_recorded] at hrecorded
    | Started _ _ => simp [hreview, IndependentCallStateV1.is_recorded] at hrecorded
    | OutcomeRecorded _ _ _ _ _ => exact List.mem_singleton.mpr rfl
  | AuditorOutcomeUnknown =>
    simp only [escalation_holds, Option.any_eq_true] at hholds
    obtain ⟨call, hcall, hstarted⟩ := hholds
    unfold settlements
    rw [hcall]
    cases call with
    | NotStarted => cases hstarted
    | Started _ _ => exact List.mem_singleton.mpr rfl
    | OutcomeRecorded _ _ _ _ _ => cases hstarted
  | AuditorExecutionFailed =>
    simp only [escalation_holds, Option.any_eq_true, Bool.and_eq_true, Bool.not_eq_true'] at hholds
    obtain ⟨call, hcall, hrecorded, hfailed⟩ := hholds
    obtain ⟨e, herror⟩ := error_of_not_ok_and hfailed
    cases call with
    | NotStarted => cases hrecorded
    | Started _ _ => cases hrecorded
    | OutcomeRecorded _ _ _ _ _ =>
      unfold settlements
      rw [hcall]
      dsimp only
      rw [herror]
      exact List.mem_cons_self
  | VerdictDisagreement =>
    obtain ⟨review, audit, _, _, hdiffer, hsame⟩ := hverdicts hholds
    rw [hsame]
    cases review <;> cases audit <;> first | exact List.mem_singleton.mpr rfl | cases hdiffer
  | RepairBudgetExhausted =>
    obtain ⟨review, audit, _, _, hfail, hsame⟩ := hverdicts hholds
    simp only [Bool.and_eq_true, beq_iff_eq, Prod.mk.injEq] at hfail
    obtain ⟨⟨rfl, rfl⟩, hcycle⟩ := hfail
    rw [hsame, settlements_of_verdicts, if_neg (by rw [hcycle]; exact lt_irrefl _)]
    exact List.mem_singleton.mpr rfl
  | EvidenceInvalid =>
    unfold escalation_holds at hholds
    cases hcall : state.audit_call with
    | none =>
      rw [hcall] at hholds
      unfold settlements
      rw [hcall]
      cases hreview : state.review_call with
      | NotStarted => exact List.mem_singleton.mpr rfl
      | Started _ _ => simp [hreview] at hholds
      | OutcomeRecorded _ _ _ _ _ =>
        simp only [hreview, Bool.and_eq_true] at hholds
        obtain ⟨decision, hdecision, hinvalid⟩ := ok_and_eq_true.mp hholds.2
        obtain ⟨e, herror⟩ := error_of_not_ok_and (Bool.not_eq_true' _ ▸ hinvalid)
        dsimp only
        rw [hdecision]
        dsimp only
        rw [herror]
        exact List.mem_singleton.mpr rfl
    | some call =>
      rw [hcall] at hholds
      cases call with
      | NotStarted =>
        unfold settlements
        rw [hcall]
        exact List.mem_singleton.mpr rfl
      | Started _ _ => cases hholds
      | OutcomeRecorded a b c d e =>
        cases hdecisions : state.validated_decisions sha256 with
        | error e' =>
          unfold settlements
          rw [hcall, hdecisions]
          dsimp only
          cases hcompleted : completed_result (.OutcomeRecorded a b c d e) with
          | error e'' => exact List.mem_cons_of_mem _ List.mem_cons_self
          | ok result => exact List.mem_singleton.mpr rfl
        | ok decisions =>
          obtain ⟨review, audit, review_digest, audit_digest⟩ := decisions
          rw [settlements_of_decisions hdecisions]
          simp only [hdecisions, ok_and] at hholds
          cases review <;> cases audit <;> first
            | exact List.mem_cons_of_mem _ List.mem_cons_self
            | cases hholds

/-- A valid state that is resolved is resolved in a way that its packets and calls allow. -/
theorem settlement_mem_settlements {state : IndependentReviewStateV1}
    (h : state.validate sha256 = .ok ()) (hterminal : state.phase.is_terminal = true) :
    ∃ settlement, state.settlement = some settlement ∧
      settlement ∈ state.settlements sha256 := by
  have hvalid := validate_eq_ok h
  cases hphase : state.phase with
  | Reviewing => simp [hphase, IndependentReviewPhaseV1.is_terminal] at hterminal
  | Auditing => simp [hphase, IndependentReviewPhaseV1.is_terminal] at hterminal
  | ResolvedPass =>
    obtain ⟨_, _, hresolution, hdecisions⟩ := hvalid.pass_decisions hphase
    refine ⟨.Passed, by rw [settlement, hresolution]; rfl, ?_⟩
    rw [settlements_of_decisions hdecisions]
    exact List.mem_cons_self
  | RepairDirected =>
    obtain ⟨hrepair, directive, _, hresolution⟩ := hvalid.repair hphase
    refine ⟨.Repaired, by rw [settlement, hresolution]; rfl, ?_⟩
    simp only [validate_repair, bind_eq_ok, ok_or_eq_ok, reject_if_eq_ok, not_or, ne_eq, not_not,
      Prod.exists, Prod.mk.injEq, not_le] at hrepair
    obtain ⟨_, _, _, _, hdecisions, _, _, _, _, _, _, ⟨rfl, rfl⟩, hbudget, _⟩ := hrepair
    rw [settlements_of_decisions hdecisions, settlements_of_verdicts, if_pos hbudget]
    exact List.mem_singleton.mpr rfl
  | OwnerEscalated =>
    have hsemantics := hvalid.semantics
    rw [validate_terminal_semantics, hphase] at hsemantics
    cases hresolution : state.resolution with
    | none => simp [hresolution] at hsemantics
    | some resolution =>
      cases resolution with
      | Pass _ _ => simp [hresolution] at hsemantics
      | Repair _ _ => simp [hresolution] at hsemantics
      | OwnerEscalation reason =>
        simp only [hresolution, validate_owner_escalation, reject_if_eq_ok, not_not] at hsemantics
        exact ⟨.Escalated reason, by rw [settlement, hresolution]; rfl,
          hvalid.escalation_mem hsemantics⟩

/-- Two settlements are the same, or one of them rejects the evidence. -/
def Settlement.Alike (s s' : Settlement) : Prop :=
  s = s' ∨ s = .Escalated .EvidenceInvalid ∨ s' = .Escalated .EvidenceInvalid

theorem alike_singleton (one : Settlement) : ∀ s ∈ [one], ∀ s' ∈ [one], s.Alike s' := by
  intro s hs s' hs'
  exact Or.inl ((List.mem_singleton.mp hs).trans (List.mem_singleton.mp hs').symm)

theorem alike_pair (one : Settlement) : ∀ s ∈ [one, .Escalated .EvidenceInvalid],
    ∀ s' ∈ [one, .Escalated .EvidenceInvalid], s.Alike s' := by
  intro s hs s' hs'
  rw [List.mem_pair] at hs hs'
  rcases hs with rfl | rfl
  · exact hs'.imp Eq.symm Or.inr
  · exact Or.inr (Or.inl rfl)

theorem settlements_of_verdicts_alike (packet : ReviewPacketV1) (review audit : ReviewVerdict) :
    ∀ s ∈ settlements_of_verdicts packet review audit,
      ∀ s' ∈ settlements_of_verdicts packet review audit, s.Alike s' := by
  cases review with
  | Pass =>
    cases audit with
    | Pass => exact alike_pair _
    | Fail => exact alike_singleton _
  | Fail =>
    cases audit with
    | Pass => exact alike_singleton _
    | Fail =>
      rw [settlements_of_verdicts]
      split
      · exact alike_singleton _
      · exact alike_singleton _

/-- Where the facts leave a choice, it is whether the evidence is still valid. -/
theorem settlements_alike {state : IndependentReviewStateV1} :
    ∀ s ∈ state.settlements sha256, ∀ s' ∈ state.settlements sha256, s.Alike s' := by
  unfold settlements
  split
  · split
    · exact alike_singleton _
    · exact alike_singleton _
    · split
      · exact alike_singleton _
      · split
        · exact fun s hs => absurd hs List.not_mem_nil
        · exact alike_singleton _
  · exact alike_singleton _
  · exact alike_singleton _
  · split
    · exact alike_pair _
    · exact alike_singleton _
    · exact settlements_of_verdicts_alike _ _ _

/-- The facts of a state are all that its settlements depend on. -/
theorem settlements_congr {state next : IndependentReviewStateV1}
    (hpacket : next.review_packet = state.review_packet)
    (hreview : next.review_call = state.review_call) (hcall : next.audit_call = state.audit_call) :
    next.settlements sha256 = state.settlements sha256 := by
  have hcontext : next.context = state.context := by unfold context; rw [hpacket]
  have hdecision : next.review_decision = state.review_decision := by
    unfold review_decision
    rw [hreview]
  have hcompleted : next.completed_decisions = state.completed_decisions := by
    unfold completed_decisions
    rw [hreview, hcall]
  have hvalidated : next.validated_decisions sha256 = state.validated_decisions sha256 := by
    unfold validated_decisions
    rw [hcompleted, hcontext]
  unfold settlements
  rw [hcall, hreview, hdecision, hcontext, hvalidated, hpacket]

/-- **The facts decide.** A step that resolves a review resolves it in a way that the state
before allows; and two steps from one state can only resolve it differently if one of them
rejects the evidence. -/
theorem resolution_determined {state next next' : IndependentReviewStateV1}
    (h : state.validate_successor sha256 next = .ok ())
    (h' : state.validate_successor sha256 next' = .ok ())
    (hterminal : next.phase.is_terminal = true) (hterminal' : next'.phase.is_terminal = true) :
    ∃ s ∈ state.settlements sha256, ∃ s' ∈ state.settlements sha256,
      next.settlement = some s ∧ next'.settlement = some s' ∧ s.Alike s' := by
  have hmem : ∀ {next : IndependentReviewStateV1}, state.validate_successor sha256 next = .ok () →
      next.phase.is_terminal = true →
      ∃ s ∈ state.settlements sha256, next.settlement = some s := by
    intro next h hterminal
    have hsucceeds := validate_successor_eq_ok h
    have hvalid : next.validate sha256 = .ok () := by
      simp only [validate_successor, bind_eq_ok, exists_and_right, exists_unit_eq_ok] at h
      exact h.2.1
    obtain ⟨s, hs, hmem⟩ := settlement_mem_settlements hvalid hterminal
    cases hsucceeds.moves with
    | review_started digest at_ phase before after next_phase packet call =>
      simp [next_phase, IndependentReviewPhaseV1.is_terminal] at hterminal
    | review_recorded digest at_ phase before after next_phase packet call =>
      simp [next_phase, IndependentReviewPhaseV1.is_terminal] at hterminal
    | audit_opened packet phase before after next_phase next_packet call =>
      simp [next_phase, IndependentReviewPhaseV1.is_terminal] at hterminal
    | audit_started digest at_ phase review packet before after next_phase =>
      simp [next_phase, IndependentReviewPhaseV1.is_terminal] at hterminal
    | audit_recorded digest at_ call phase review packet before after recorded next_phase =>
      simp [next_phase, IndependentReviewPhaseV1.is_terminal] at hterminal
    | resolved phase next_phase review packet call =>
      rw [settlements_congr hsucceeds.review_packet review call] at hmem
      exact ⟨s, hmem, hs⟩
  obtain ⟨s, hs, hnext⟩ := hmem h hterminal
  obtain ⟨s', hs', hnext'⟩ := hmem h' hterminal'
  exact ⟨s, hs, s', hs', hnext, hnext', settlements_alike s hs s' hs'⟩

namespace ReviewedRun

theorem invalidated_valid : Valid digests invalidated :=
  { passed_valid with
    phase_shape := resolutions_evaluate.2.2.2.1
    semantics := resolutions_evaluate.2.2.2.2
    digest_format := digest_format (by decide)
    state_digest := rfl }

/-- An audited run may be resolved in the two ways. -/
theorem audited_successors : ∀ next ∈ [passed, invalidated],
    (auditing .Pass (audited .Pass) 5).validate_successor digests next = .ok () := by
  have hstate := auditing_valid .Pass 5 (audited_valid .Pass)
  have hsame : (some (audited .Pass) == some (audited .Pass)) = true := beq_self_eq_true _
  simp only [List.forall_mem_cons, validate_successor_eq_ok_iff]
  refine ⟨⟨hstate, passed_valid, rfl, rfl, by decide, audit_allowed rfl rfl ?_⟩,
    ⟨hstate, invalidated_valid, rfl, rfl, by decide, audit_allowed rfl rfl ?_⟩,
    List.forall_mem_nil _⟩
  · exact Bool.and_eq_true_iff.mpr ⟨hsame, rfl⟩
  · exact Bool.and_eq_true_iff.mpr ⟨hsame, rfl⟩

end ReviewedRun

open ReviewedRun in
/-- It passes, or its evidence is rejected. -/
theorem audited_determined :
    ∃ s ∈ (auditing .Pass (audited .Pass) 5).settlements digests,
      ∃ s' ∈ (auditing .Pass (audited .Pass) 5).settlements digests,
        passed.settlement = some s ∧ invalidated.settlement = some s' ∧ s.Alike s' :=
  resolution_determined (audited_successors passed (by simp))
    (audited_successors invalidated (by simp)) rfl rfl

end IndependentReviewStateV1

end OvcaCore

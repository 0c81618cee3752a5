/-
What holds along every chain of independent-review states that the durable authority
accepts: the first passes `validate_initial_install`, and each later one
`validate_successor` behind the one before it.

`Moves` says once what an accepted step has done; the rank of a state counts how far the
two calls and the resolution have come.
-/
import OvcaCore.IndependentReviewState
import OvcaCore.PhaseDiscipline

set_option autoImplicit false

namespace OvcaCore

open OvcaCore.Checks OvcaCore.Chains EngineerVerifier

variable {P : Type} {sha256 : IndependentReviewDigests P}

@[simp] theorem of_contract_eq_ok {x : Except IndependentReviewContractError Unit} {u : Unit} :
    of_contract x = .ok u ↔ x = .ok () := mapError_eq_ok

namespace IndependentRoleExecutionRequest

theorem validate_eq_ok {request : IndependentRoleExecutionRequest} {u : Unit} :
    request.validate sha256 = .ok u ↔ request.packet.validate sha256 = .ok () ∧
      request.role_request.validate sha256.toControlPlaneDigests = true ∧
      (request.role_request.attempt = 1 ∧ request.role_request.invocation.budget.max_attempts = 1 ∧
        request.role_request.invocation.authority.permission_profile.write_keys = []) ∧
      request.binds_packet = true := by
  simp only [validate, bind_eq_ok, reject_if_eq_ok, exists_and_right, exists_unit_eq_ok,
    exists_const, not_or, ne_eq, not_not]

theorem canonical_digest_eq_ok {request : IndependentRoleExecutionRequest} {digest : String} :
    request.canonical_digest sha256 = .ok digest ↔ request.validate sha256 = .ok () ∧
      sha256.execution_request
        { packet_digest := request.packet.digest
          invocation := request.role_request.invocation
          attempt := request.role_request.attempt } = digest := by
  simp only [canonical_digest, bind_eq_ok, exists_and_right, exists_unit_eq_ok, pure_eq_ok]

end IndependentRoleExecutionRequest

/-! ## Calls -/

namespace IndependentCallStateV1

/-- How far a call has come. -/
def rank : IndependentCallStateV1 → ℕ
  | .NotStarted => 0
  | .Started _ _ => 1
  | .OutcomeRecorded _ _ _ _ _ => 2

theorem rank_le (call : IndependentCallStateV1) : call.rank ≤ 2 := by
  cases call <;> simp [rank]

/-- The digest of the request that a call has been started with. -/
def request_digest : IndependentCallStateV1 → Option String
  | .NotStarted => none
  | .Started request_digest _ => some request_digest
  | .OutcomeRecorded request_digest _ _ _ _ => some request_digest

/-- The later call has kept what the earlier one has recorded. -/
structure Keeps (before after : IndependentCallStateV1) : Prop where
  rank : before.rank ≤ after.rank
  request_digest : ∀ digest, before.request_digest = some digest →
    after.request_digest = some digest
  recorded : before.is_recorded = true → after = before

theorem Keeps.refl (call : IndependentCallStateV1) : Keeps call call :=
  ⟨le_rfl, fun _ => id, fun _ => rfl⟩

theorem Keeps.trans {a b c : IndependentCallStateV1} (hab : Keeps a b) (hbc : Keeps b c) :
    Keeps a c where
  rank := hab.rank.trans hbc.rank
  request_digest digest h := hbc.request_digest digest (hab.request_digest digest h)
  recorded := by
    intro h
    have hb := hab.recorded h
    rw [hbc.recorded (hb ▸ h), hb]

/-- A valid call was started with the digest of its request. -/
theorem request_digest_of_validate {request : IndependentRoleExecutionRequest}
    {call : IndependentCallStateV1} {digest : String}
    (h : call.validate sha256 request = .ok ()) (hdigest : call.request_digest = some digest) :
    request.canonical_digest sha256 = .ok digest := by
  rw [validate, bind_eq_ok] at h
  obtain ⟨expected, hexpected, h⟩ := h
  rw [hexpected]
  cases call with
  | NotStarted => cases hdigest
  | Started request_digest started_at =>
    obtain rfl := Option.some.inj hdigest
    rw [validate_with, reject_if_eq_ok] at h
    push Not at h
    rw [h.1]
  | OutcomeRecorded request_digest started_at outcome outcome_digest recorded_at =>
    obtain rfl := Option.some.inj hdigest
    simp only [validate_with, bind_eq_ok, reject_if_eq_ok, exists_const] at h
    have hsame := h.1
    push Not at hsame
    rw [hsame.1]

/-- Two valid calls for one request keep its digest. -/
theorem keeps_of_validate {request : IndependentRoleExecutionRequest}
    {before after : IndependentCallStateV1} (hbefore : before.validate sha256 request = .ok ())
    (hafter : after.validate sha256 request = .ok ()) (hrank : before.rank < after.rank) :
    Keeps before after where
  rank := hrank.le
  request_digest := by
    intro digest hdigest
    have hrequest := request_digest_of_validate hbefore hdigest
    cases hstarted : after.request_digest with
    | none =>
      cases after with
      | NotStarted => simp [IndependentCallStateV1.rank] at hrank
      | Started _ _ => cases hstarted
      | OutcomeRecorded _ _ _ _ _ => cases hstarted
    | some digest' =>
      rw [request_digest_of_validate hafter hstarted, Except.ok.injEq] at hrequest
      rw [hrequest]
  recorded := by
    intro hrecorded
    cases before <;> cases after <;> simp [IndependentCallStateV1.rank, is_recorded] at *

end IndependentCallStateV1

namespace IndependentReviewStateV1

/-! ## What validity says of a state -/

/-- The parts of a valid state. -/
structure Valid (sha256 : IndependentReviewDigests P) (state : IndependentReviewStateV1) :
    Prop where
  contract_version : state.contract_version = INDEPENDENT_REVIEW_CONTRACT_VERSION
  controller_time : is_millisecond_precision state.controller_time = true
  review_packet : state.review_packet.validate sha256.toIndependentContractDigests = .ok ()
  evidence : ReviewAudit.validate_review_evidence_context state.context = .ok ()
  review_call :
    state.review_call.validate sha256 (review_execution_request state.review_packet) = .ok ()
  audit : state.validate_audit sha256 = .ok ()
  directive : state.validate_directive sha256 = .ok ()
  phase_shape : state.validate_phase_shape = .ok ()
  binding : state.validate_audit_packet_binding sha256 = .ok ()
  semantics : state.validate_terminal_semantics sha256 = .ok ()
  digest_format : validate_sha256_digest state.state_digest = true
  state_digest : state.computed_state_digest sha256 = state.state_digest

theorem validate_eq_ok_iff {state : IndependentReviewStateV1} {u : Unit} :
    state.validate sha256 = .ok u ↔ Valid sha256 state := by
  simp only [validate, IndependentReviewStateV1.validate_digest, bind_eq_ok, reject_if_eq_ok,
    exists_const, exists_and_right, exists_unit_eq_ok, of_contract_eq_ok, mapError_eq_ok, ne_eq,
    not_not, not_or]
  constructor
  · rintro ⟨⟨hversion, htime⟩, hpacket, hevidence, hreview, haudit, hdirective, hshape, hbinding,
      hsemantics, hformat, hdigest⟩
    exact ⟨hversion, htime, hpacket, hevidence, hreview, haudit, hdirective, hshape, hbinding,
      hsemantics, hformat, hdigest⟩
  · rintro ⟨hversion, htime, hpacket, hevidence, hreview, haudit, hdirective, hshape, hbinding,
      hsemantics, hformat, hdigest⟩
    exact ⟨⟨hversion, htime⟩, hpacket, hevidence, hreview, haudit, hdirective, hshape, hbinding,
      hsemantics, hformat, hdigest⟩

theorem validate_eq_ok {state : IndependentReviewStateV1} {u : Unit}
    (h : state.validate sha256 = .ok u) : Valid sha256 state := validate_eq_ok_iff.mp h

theorem Valid.has_shape {state : IndependentReviewStateV1} (h : Valid sha256 state) :
    state.has_shape = true := by
  have hshape := h.phase_shape
  simp only [validate_phase_shape, bind_eq_ok, reject_if_eq_ok, exists_const, not_not] at hshape
  exact hshape.1

/-- The audit packet of a valid state is valid, about its review packet, and bound to its
call. -/
theorem Valid.audit_parts {state : IndependentReviewStateV1} (h : Valid sha256 state)
    {packet : AuditPacketV1} (hpacket : state.audit_packet = some packet) :
    ∃ call, state.audit_call = some call ∧
      packet.validate sha256.toIndependentContractDigests = .ok () ∧
      packet.review_packet = state.review_packet ∧
      call.validate sha256 (audit_execution_request packet) = .ok () := by
  have haudit := h.audit
  rw [validate_audit, hpacket] at haudit
  cases hcall : state.audit_call with
  | none => simp [hcall] at haudit
  | some call =>
    simp only [hcall, bind_eq_ok, of_contract_eq_ok, reject_if_eq_ok, exists_const, ne_eq,
      not_not] at haudit
    exact ⟨call, rfl, haudit.1, haudit.2.1, haudit.2.2⟩

/-- A valid state has an audit call exactly when it has an audit packet. -/
theorem Valid.audit_call_eq_none {state : IndependentReviewStateV1} (h : Valid sha256 state) :
    state.audit_call = none ↔ state.audit_packet = none := by
  have haudit := h.audit
  rw [validate_audit] at haudit
  cases hpacket : state.audit_packet <;> cases hcall : state.audit_call <;>
    simp [hpacket, hcall] at haudit ⊢

/-- **What an audit is bound to.** The packet of an audit is about the review packet of the
state, and has the decision and the digest of a completed and validated review. -/
structure Bound (sha256 : IndependentReviewDigests P) (state : IndependentReviewStateV1)
    (packet : AuditPacketV1) (result : RoleResultV1) (decision : ReviewDecision) : Prop where
  completed : completed_result state.review_call = .ok result
  decided : ∃ packet_digest, review_decision_from_payload result.payload =
    some (packet_digest, decision)
  review_packet : packet.review_packet = state.review_packet
  result_digest : packet.review_result_digest = sha256.result result
  decision_eq : packet.review_decision = decision
  validated : ∃ validated, ReviewAudit.validate_review_decision state.context decision =
    .ok validated

theorem Valid.bound {state : IndependentReviewStateV1} (h : Valid sha256 state)
    {packet : AuditPacketV1} (hpacket : state.audit_packet = some packet) :
    ∃ result decision, Bound sha256 state packet result decision := by
  obtain ⟨call, _, _, hreview, _⟩ := h.audit_parts hpacket
  have hbinding := h.binding
  simp only [validate_audit_packet_binding, check_some_eq_ok, bind_eq_ok, ok_or_eq_ok,
    reject_if_eq_ok, exists_const, mapError_eq_ok, pure_eq_ok, and_true] at hbinding
  obtain ⟨result, hresult, ⟨packet_digest, decision⟩, hdecided, hsame, validated, hvalidated⟩ :=
    hbinding packet hpacket
  push Not at hsame
  exact ⟨result, decision, hresult, ⟨packet_digest, hdecided⟩, hreview, hsame.1, hsame.2,
    validated, hvalidated⟩

/-- A review that is not over has no audit yet, nor a resolution. -/
theorem Valid.reviewing {state : IndependentReviewStateV1} (h : Valid sha256 state)
    (hphase : state.phase = .Reviewing) :
    state.audit_packet = none ∧ state.audit_call = none ∧ state.resolution = none := by
  have hshape := h.has_shape
  cases hresolution : state.resolution with
  | none =>
    simp only [IndependentReviewStateV1.has_shape, hphase, hresolution, Bool.and_eq_true,
      Option.isNone_iff_eq_none] at hshape
    exact ⟨hshape.1.1, hshape.1.2, rfl⟩
  | some resolution => simp [IndependentReviewStateV1.has_shape, hphase, hresolution] at hshape

/-- An audit that is not over is behind a recorded review. -/
theorem Valid.auditing {state : IndependentReviewStateV1} (h : Valid sha256 state)
    (hphase : state.phase = .Auditing) :
    state.review_call.is_recorded = true ∧ (∃ packet, state.audit_packet = some packet) ∧
      (∃ call, state.audit_call = some call) ∧ state.resolution = none := by
  have hshape := h.has_shape
  cases hresolution : state.resolution with
  | none =>
    simp only [IndependentReviewStateV1.has_shape, hphase, hresolution, Bool.and_eq_true,
      Option.isSome_iff_exists] at hshape
    exact ⟨hshape.1.1.1, hshape.1.1.2, hshape.1.2, rfl⟩
  | some resolution => simp [IndependentReviewStateV1.has_shape, hphase, hresolution] at hshape

/-- Without a recorded review there is no audit. -/
theorem Valid.no_audit {state : IndependentReviewStateV1} (h : Valid sha256 state)
    (hcall : state.review_call.is_recorded = false) :
    state.audit_packet = none ∧ state.audit_call = none := by
  have hnone : state.audit_packet = none := by
    cases hpacket : state.audit_packet with
    | none => rfl
    | some packet =>
      obtain ⟨result, decision, hbound⟩ := h.bound hpacket
      have hcompleted := hbound.completed
      cases hreview : state.review_call <;> rw [hreview] at hcall hcompleted
      · cases hcompleted
      · cases hcompleted
      · cases hcall
  exact ⟨hnone, h.audit_call_eq_none.mpr hnone⟩

/-! ## Steps -/

/-- What an accepted step has done to the calls and the packets. -/
inductive Moves (state next : IndependentReviewStateV1) : Prop where
  | review_started (digest : String) (at_ : DateTime) (phase : state.phase = .Reviewing)
      (before : state.review_call = .NotStarted) (after : next.review_call = .Started digest at_)
      (next_phase : next.phase = .Reviewing) (packet : next.audit_packet = none)
      (call : next.audit_call = none)
  | review_recorded (digest : String) (at_ : DateTime) (phase : state.phase = .Reviewing)
      (before : state.review_call = .Started digest at_)
      (after : next.review_call.is_recorded = true) (next_phase : next.phase = .Reviewing)
      (packet : next.audit_packet = none) (call : next.audit_call = none)
  | audit_opened (packet : AuditPacketV1) (phase : state.phase = .Reviewing)
      (before : state.review_call.is_recorded = true)
      (after : next.review_call = state.review_call) (next_phase : next.phase = .Auditing)
      (next_packet : next.audit_packet = some packet) (call : next.audit_call = some .NotStarted)
  | audit_started (digest : String) (at_ : DateTime) (phase : state.phase = .Auditing)
      (review : next.review_call = state.review_call)
      (packet : next.audit_packet = state.audit_packet)
      (before : state.audit_call = some .NotStarted)
      (after : next.audit_call = some (.Started digest at_)) (next_phase : next.phase = .Auditing)
  | audit_recorded (digest : String) (at_ : DateTime) (call : IndependentCallStateV1)
      (phase : state.phase = .Auditing) (review : next.review_call = state.review_call)
      (packet : next.audit_packet = state.audit_packet)
      (before : state.audit_call = some (.Started digest at_))
      (after : next.audit_call = some call) (recorded : call.is_recorded = true)
      (next_phase : next.phase = .Auditing)
  | resolved (phase : state.phase.is_terminal = false) (next_phase : next.phase.is_terminal = true)
      (review : next.review_call = state.review_call)
      (packet : next.audit_packet = state.audit_packet)
      (call : next.audit_call = state.audit_call)

theorem moves_of_escalated_for {state next : IndependentReviewStateV1}
    {reason : OwnerEscalationReasonV1} (hphase : state.phase.is_terminal = false)
    (hescalated : next.escalated_for reason = true) (hreview : next.review_call = state.review_call)
    (hpacket : next.audit_packet = state.audit_packet)
    (hcall : next.audit_call = state.audit_call) : Moves state next := by
  rw [escalated_for, Bool.and_eq_true, beq_iff_eq] at hescalated
  refine .resolved hphase ?_ hreview hpacket hcall
  rw [hescalated.1]
  rfl

theorem moves_of_review_step {state next : IndependentReviewStateV1} (hstate : Valid sha256 state)
    (hnext : Valid sha256 next) (hphase : state.phase = .Reviewing)
    (h : state.review_step next = true) : Moves state next := by
  have hreviewing : state.phase.is_terminal = false := by
    rw [hphase]
    rfl
  have hempty := hstate.reviewing hphase
  unfold review_step at h
  cases hbefore : state.review_call with
  | NotStarted =>
    cases hafter : next.review_call with
    | NotStarted =>
      rw [hbefore, hafter] at h
      obtain ⟨hpacket, hcall⟩ := hnext.no_audit (by rw [hafter]; rfl)
      exact moves_of_escalated_for hreviewing h (by rw [hafter, hbefore])
        (by rw [hpacket, hempty.1]) (by rw [hcall, hempty.2.1])
    | Started digest at_ =>
      simp only [hbefore, hafter, Bool.and_eq_true, beq_iff_eq, Option.isNone_iff_eq_none] at h
      exact .review_started digest at_ hphase hbefore hafter (by rw [h.1.1.1, hphase]) h.1.1.2 h.1.2
    | OutcomeRecorded _ _ _ _ _ => simp [hbefore, hafter] at h
  | Started digest at_ =>
    by_cases hrecorded : next.review_call.is_recorded = true
    · cases hafter : next.review_call with
      | NotStarted => simp [hafter, IndependentCallStateV1.is_recorded] at hrecorded
      | Started _ _ => simp [hafter, IndependentCallStateV1.is_recorded] at hrecorded
      | OutcomeRecorded _ _ _ _ _ =>
        simp only [hbefore, hafter, Bool.and_eq_true, beq_iff_eq, Option.isNone_iff_eq_none] at h
        exact .review_recorded digest at_ hphase hbefore hrecorded (by rw [h.1.1.1, hphase])
          h.1.1.2 h.1.2
    · rw [Bool.not_eq_true] at hrecorded
      obtain ⟨hpacket, hcall⟩ := hnext.no_audit hrecorded
      have hsame : next.review_call = .Started digest at_
          ∧ next.escalated_for .ReviewerOutcomeUnknown = true := by
        cases hafter : next.review_call with
        | NotStarted => simp [hbefore, hafter] at h
        | Started _ _ =>
          simp only [hbefore, hafter, Bool.and_eq_true, beq_iff_eq] at h
          exact h
        | OutcomeRecorded _ _ _ _ _ =>
          simp [hafter, IndependentCallStateV1.is_recorded] at hrecorded
      exact moves_of_escalated_for hreviewing hsame.2 (by rw [hsame.1, hbefore])
        (by rw [hpacket, hempty.1]) (by rw [hcall, hempty.2.1])
  | OutcomeRecorded digest at_ outcome outcome_digest recorded_at =>
    simp only [hbefore, Bool.and_eq_true, Bool.or_eq_true, beq_iff_eq, Option.isNone_iff_eq_none,
      Option.isSome_iff_exists] at h
    obtain ⟨hafter, ⟨⟨⟨hnext_phase, packet, hpacket⟩, hcall⟩, _⟩ | ⟨⟨hpacket, hcall⟩, hreason⟩⟩ := h
    · exact .audit_opened packet hphase (by rw [hbefore]; rfl) (by rw [hafter, hbefore])
        hnext_phase hpacket hcall
    · obtain ⟨reason, hreason⟩ : ∃ reason, next.escalated_for reason = true :=
        hreason.elim (⟨_, ·⟩) (⟨_, ·⟩)
      exact moves_of_escalated_for hreviewing hreason (by rw [hafter, hbefore])
        (by rw [hpacket, hempty.1]) (by rw [hcall, hempty.2.1])

theorem moves_of_audit_step {state next : IndependentReviewStateV1}
    (hphase : state.phase = .Auditing) (hreview : next.review_call = state.review_call)
    (hpacket : next.audit_packet = state.audit_packet) (h : state.audit_step next = true) :
    Moves state next := by
  have hauditing : state.phase.is_terminal = false := by
    rw [hphase]
    rfl
  unfold audit_step at h
  cases hbefore : state.audit_call with
  | none => simp [hbefore] at h
  | some call =>
    cases call with
    | NotStarted =>
      cases hafter : next.audit_call with
      | none => simp [hbefore, hafter] at h
      | some after =>
        cases after with
        | NotStarted =>
          simp only [hbefore, hafter] at h
          exact moves_of_escalated_for hauditing h hreview hpacket (by rw [hafter, hbefore])
        | Started digest at_ =>
          simp only [hbefore, hafter, Bool.and_eq_true, beq_iff_eq] at h
          exact .audit_started digest at_ hphase hreview hpacket hbefore hafter (by rw [h.1, hphase])
        | OutcomeRecorded _ _ _ _ _ => simp [hbefore, hafter] at h
    | Started digest at_ =>
      by_cases hrecorded : ∃ call, next.audit_call = some call ∧ call.is_recorded = true
      · obtain ⟨call, hafter, hrecorded⟩ := hrecorded
        cases call with
        | NotStarted => cases hrecorded
        | Started _ _ => cases hrecorded
        | OutcomeRecorded _ _ _ _ _ =>
          simp only [hbefore, hafter, Bool.and_eq_true, beq_iff_eq] at h
          exact .audit_recorded digest at_ _ hphase hreview hpacket hbefore hafter rfl
            (by rw [h.1, hphase])
      · have hsame : next.audit_call = some (.Started digest at_)
            ∧ next.escalated_for .AuditorOutcomeUnknown = true := by
          cases hafter : next.audit_call with
          | none => simp [hbefore, hafter] at h
          | some after =>
            cases after with
            | NotStarted => simp [hbefore, hafter] at h
            | Started _ _ =>
              simp only [hbefore, hafter, Bool.and_eq_true, beq_iff_eq] at h
              exact h
            | OutcomeRecorded _ _ _ _ _ => exact absurd ⟨_, hafter, rfl⟩ hrecorded
        exact moves_of_escalated_for hauditing hsame.2 hreview hpacket (by rw [hsame.1, hbefore])
    | OutcomeRecorded _ _ _ _ _ =>
      simp only [hbefore, Bool.and_eq_true, beq_iff_eq] at h
      exact .resolved hauditing h.2 hreview hpacket (by rw [h.1, hbefore])

/-- What the successor check has checked. -/
structure Succeeds (sha256 : IndependentReviewDigests P) (state next : IndependentReviewStateV1) :
    Prop where
  state_valid : Valid sha256 state
  next_valid : Valid sha256 next
  review_packet : next.review_packet = state.review_packet
  controller_time : state.controller_time ≤ next.controller_time
  moves : Moves state next

theorem validate_successor_eq_ok_iff {state next : IndependentReviewStateV1} {u : Unit} :
    state.validate_successor sha256 next = .ok u ↔ Valid sha256 state ∧ Valid sha256 next ∧
      state.phase.is_terminal = false ∧ next.review_packet = state.review_packet ∧
      state.controller_time ≤ next.controller_time ∧ state.allowed next = true := by
  simp only [validate_successor, bind_eq_ok, reject_if_eq_ok, exists_and_right, exists_const,
    not_or, ne_eq, not_not, not_lt, Bool.not_eq_true, validate_eq_ok_iff]
  constructor
  · rintro ⟨hstate, hnext, ⟨hterminal, _, hpacket, htime⟩, hallowed⟩
    exact ⟨hstate, hnext, hterminal, hpacket.symm, htime, Bool.not_eq_false _ ▸ hallowed⟩
  · rintro ⟨hstate, hnext, hterminal, hpacket, htime, hallowed⟩
    exact ⟨hstate, hnext, ⟨hterminal, hstate.contract_version.trans hnext.contract_version.symm,
      hpacket.symm, htime⟩, by simp [hallowed]⟩

theorem validate_successor_eq_ok {state next : IndependentReviewStateV1} {u : Unit}
    (h : state.validate_successor sha256 next = .ok u) : Succeeds sha256 state next := by
  obtain ⟨hstate, hnext, _, hpacket, htime, hallowed⟩ := validate_successor_eq_ok_iff.mp h
  refine ⟨hstate, hnext, hpacket, htime, ?_⟩
  unfold allowed at hallowed
  cases hphase : state.phase with
  | Reviewing =>
    rw [hphase] at hallowed
    exact moves_of_review_step hstate hnext hphase hallowed
  | Auditing =>
    simp only [hphase, Bool.and_eq_true, beq_iff_eq] at hallowed
    exact moves_of_audit_step hphase hallowed.1.1.symm hallowed.1.2.symm hallowed.2
  | ResolvedPass => simp [hphase] at hallowed
  | RepairDirected => simp [hphase] at hallowed
  | OwnerEscalated => simp [hphase] at hallowed

/-! ## What one step keeps -/

/-- How far a review has come. -/
def rank (state : IndependentReviewStateV1) : ℕ :=
  match state.phase with
  | .Reviewing => state.review_call.rank
  | .Auditing => 3 + state.audit_call.elim 0 IndependentCallStateV1.rank
  | .ResolvedPass | .RepairDirected | .OwnerEscalated => 6

theorem rank_of_reviewing {state : IndependentReviewStateV1} (h : state.phase = .Reviewing) :
    state.rank = state.review_call.rank := by
  unfold rank
  rw [h]

theorem rank_of_auditing {state : IndependentReviewStateV1} (h : state.phase = .Auditing)
    {call : IndependentCallStateV1} (hcall : state.audit_call = some call) :
    state.rank = 3 + call.rank := by
  unfold rank
  rw [h, hcall]
  rfl

theorem rank_of_terminal {state : IndependentReviewStateV1} (h : state.phase.is_terminal = true) :
    state.rank = 6 := by
  unfold rank
  cases hphase : state.phase with
  | Reviewing => simp [hphase, IndependentReviewPhaseV1.is_terminal] at h
  | Auditing => simp [hphase, IndependentReviewPhaseV1.is_terminal] at h
  | ResolvedPass => rfl
  | RepairDirected => rfl
  | OwnerEscalated => rfl

theorem rank_lt_of_not_terminal {state : IndependentReviewStateV1}
    (h : state.phase.is_terminal = false) : state.rank < 6 := by
  unfold rank
  cases hphase : state.phase with
  | Reviewing =>
    have hrank := state.review_call.rank_le
    dsimp only
    omega
  | Auditing =>
    cases hcall : state.audit_call with
    | none => simp
    | some call =>
      have hrank := call.rank_le
      simp only [Option.elim_some]
      omega
  | ResolvedPass => simp [hphase, IndependentReviewPhaseV1.is_terminal] at h
  | RepairDirected => simp [hphase, IndependentReviewPhaseV1.is_terminal] at h
  | OwnerEscalated => simp [hphase, IndependentReviewPhaseV1.is_terminal] at h

theorem rank_le (state : IndependentReviewStateV1) : state.rank ≤ 6 := by
  cases h : state.phase.is_terminal with
  | true => rw [rank_of_terminal h]
  | false => exact (rank_lt_of_not_terminal h).le

theorem is_recorded_iff_rank {call : IndependentCallStateV1} :
    call.is_recorded = true ↔ call.rank = 2 := by
  cases call <;> simp [IndependentCallStateV1.is_recorded, IndependentCallStateV1.rank]

/-- Every step takes a review further. -/
theorem Succeeds.rank_lt {state next : IndependentReviewStateV1}
    (h : Succeeds sha256 state next) : state.rank < next.rank := by
  cases h.moves with
  | review_started digest at_ phase before after next_phase packet call =>
    rw [rank_of_reviewing phase, rank_of_reviewing next_phase, before, after]
    exact Nat.zero_lt_one
  | review_recorded digest at_ phase before after next_phase packet call =>
    rw [rank_of_reviewing phase, rank_of_reviewing next_phase, before, is_recorded_iff_rank.mp after]
    exact Nat.one_lt_two
  | audit_opened packet phase before after next_phase next_packet call =>
    rw [rank_of_reviewing phase, rank_of_auditing next_phase call]
    exact Nat.lt_add_right _ (Nat.lt_succ_of_le state.review_call.rank_le)
  | audit_started digest at_ phase review packet before after next_phase =>
    rw [rank_of_auditing phase before, rank_of_auditing next_phase after]
    exact Nat.add_lt_add_left Nat.zero_lt_one 3
  | audit_recorded digest at_ call phase review packet before after recorded next_phase =>
    rw [rank_of_auditing phase before, rank_of_auditing next_phase after,
      is_recorded_iff_rank.mp recorded]
    exact Nat.add_lt_add_left Nat.one_lt_two 3
  | resolved phase next_phase review packet call =>
    rw [rank_of_terminal next_phase]
    exact rank_lt_of_not_terminal phase

/-- What a later state has kept of an earlier one. -/
structure Keeps (before after : IndependentReviewStateV1) : Prop where
  review_packet : after.review_packet = before.review_packet
  controller_time : before.controller_time ≤ after.controller_time
  review_call : before.review_call.Keeps after.review_call
  audit_packet : ∀ packet, before.audit_packet = some packet → after.audit_packet = some packet
  audit_call : ∀ call, before.audit_call = some call →
    ∃ call', after.audit_call = some call' ∧ call.Keeps call'

theorem Keeps.refl (state : IndependentReviewStateV1) : Keeps state state :=
  ⟨rfl, le_rfl, .refl _, fun _ => id, fun call h => ⟨call, h, .refl call⟩⟩

theorem Keeps.trans {a b c : IndependentReviewStateV1} (hab : Keeps a b) (hbc : Keeps b c) :
    Keeps a c where
  review_packet := hbc.review_packet.trans hab.review_packet
  controller_time := hab.controller_time.trans hbc.controller_time
  review_call := hab.review_call.trans hbc.review_call
  audit_packet packet h := hbc.audit_packet packet (hab.audit_packet packet h)
  audit_call := by
    intro call hcall
    obtain ⟨call', hcall', hkeeps⟩ := hab.audit_call call hcall
    obtain ⟨call'', hcall'', hkeeps'⟩ := hbc.audit_call call' hcall'
    exact ⟨call'', hcall'', hkeeps.trans hkeeps'⟩

/-- The review call of a step is kept. -/
theorem Succeeds.review_call {state next : IndependentReviewStateV1}
    (h : Succeeds sha256 state next) : state.review_call.Keeps next.review_call := by
  have hnext := h.next_valid.review_call
  rw [h.review_packet] at hnext
  have hmoved : state.review_call.rank < next.review_call.rank →
      state.review_call.Keeps next.review_call :=
    IndependentCallStateV1.keeps_of_validate h.state_valid.review_call hnext
  cases h.moves with
  | review_started digest at_ phase before after next_phase packet call =>
    exact hmoved (by rw [before, after]; exact Nat.zero_lt_one)
  | review_recorded digest at_ phase before after next_phase packet call =>
    exact hmoved (by rw [before, is_recorded_iff_rank.mp after]; exact Nat.one_lt_two)
  | audit_opened packet phase before after next_phase next_packet call =>
    exact after ▸ .refl _
  | audit_started digest at_ phase review packet before after next_phase => exact review ▸ .refl _
  | audit_recorded digest at_ call phase review packet before after recorded next_phase =>
    exact review ▸ .refl _
  | resolved phase next_phase review packet call => exact review ▸ .refl _

theorem Succeeds.audit_packet {state next : IndependentReviewStateV1}
    (h : Succeeds sha256 state next) (packet : AuditPacketV1)
    (hpacket : state.audit_packet = some packet) : next.audit_packet = some packet := by
  have hopen : state.phase ≠ .Reviewing := by
    intro hphase
    rw [(h.state_valid.reviewing hphase).1] at hpacket
    cases hpacket
  cases h.moves with
  | review_started digest at_ phase before after next_phase packet call => exact absurd phase hopen
  | review_recorded digest at_ phase before after next_phase packet call => exact absurd phase hopen
  | audit_opened packet phase before after next_phase next_packet call => exact absurd phase hopen
  | audit_started digest at_ phase review packet before after next_phase =>
    exact packet.trans hpacket
  | audit_recorded digest at_ call phase review packet before after recorded next_phase =>
    exact packet.trans hpacket
  | resolved phase next_phase review packet call => exact packet.trans hpacket

/-- The audit calls of a step are for one request. -/
theorem Succeeds.audit_calls {state next : IndependentReviewStateV1}
    (h : Succeeds sha256 state next) {before after : IndependentCallStateV1}
    (hphase : state.phase = .Auditing) (hbefore : state.audit_call = some before)
    (hafter : next.audit_call = some after) (hrank : before.rank < after.rank) :
    before.Keeps after := by
  obtain ⟨_, ⟨packet, hpacket⟩, _⟩ := h.state_valid.auditing hphase
  obtain ⟨call, hcall, _, _, hvalid⟩ := h.state_valid.audit_parts hpacket
  obtain ⟨call', hcall', _, _, hvalid'⟩ := h.next_valid.audit_parts (h.audit_packet packet hpacket)
  have hsame : call = before := Option.some.inj (hcall.symm.trans hbefore)
  have hsame' : call' = after := Option.some.inj (hcall'.symm.trans hafter)
  rw [hsame] at hvalid
  rw [hsame'] at hvalid'
  exact IndependentCallStateV1.keeps_of_validate hvalid hvalid' hrank

theorem Succeeds.audit_call {state next : IndependentReviewStateV1}
    (h : Succeeds sha256 state next) (call : IndependentCallStateV1)
    (hcall : state.audit_call = some call) :
    ∃ call', next.audit_call = some call' ∧ call.Keeps call' := by
  have hopen : state.phase ≠ .Reviewing := by
    intro hphase
    rw [(h.state_valid.reviewing hphase).2.1] at hcall
    cases hcall
  cases h.moves with
  | review_started digest at_ phase before after next_phase packet call => exact absurd phase hopen
  | review_recorded digest at_ phase before after next_phase packet call => exact absurd phase hopen
  | audit_opened packet phase before after next_phase next_packet call => exact absurd phase hopen
  | audit_started digest at_ phase review packet before after next_phase =>
    have hsame : .NotStarted = call := Option.some.inj (before.symm.trans hcall)
    exact ⟨_, after, hsame ▸ h.audit_calls phase before after Nat.zero_lt_one⟩
  | audit_recorded digest at_ recorded_call phase review packet before after recorded next_phase =>
    have hsame : .Started digest at_ = call := Option.some.inj (before.symm.trans hcall)
    refine ⟨_, after, hsame ▸ h.audit_calls phase before after ?_⟩
    rw [is_recorded_iff_rank.mp recorded]
    exact Nat.one_lt_two
  | resolved phase next_phase review packet same => exact ⟨call, same.trans hcall, .refl call⟩

theorem Succeeds.keeps {state next : IndependentReviewStateV1} (h : Succeeds sha256 state next) :
    Keeps state next :=
  ⟨h.review_packet, h.controller_time, h.review_call, h.audit_packet, h.audit_call⟩

/-- A step leaves a state that is not terminal. -/
theorem Succeeds.not_terminal {state next : IndependentReviewStateV1}
    (h : Succeeds sha256 state next) : state.phase.is_terminal = false := by
  cases h.moves with
  | review_started digest at_ phase before after next_phase packet call => rw [phase]; rfl
  | review_recorded digest at_ phase before after next_phase packet call => rw [phase]; rfl
  | audit_opened packet phase before after next_phase next_packet call => rw [phase]; rfl
  | audit_started digest at_ phase review packet before after next_phase => rw [phase]; rfl
  | audit_recorded digest at_ call phase review packet before after recorded next_phase =>
    rw [phase]
    rfl
  | resolved phase next_phase review packet call => exact phase

/-! ## Chains -/

/-- A chain of states as compare-and-swaps let it come about. -/
structure AcceptedReview (sha256 : IndependentReviewDigests P) (first : IndependentReviewStateV1)
    (rest : List IndependentReviewStateV1) : Prop where
  installed : first.validate_initial_install sha256 = .ok ()
  successors : (first :: rest).IsChain fun state next =>
    state.validate_successor sha256 next = .ok ()

/-- The step starts the call of the Reviewer. -/
def starts_review (step : IndependentReviewStateV1 × IndependentReviewStateV1) : Bool :=
  step.1.review_call.rank == 0 && step.2.review_call.rank == 1

/-- The step starts the call of the Auditor. -/
def starts_audit (step : IndependentReviewStateV1 × IndependentReviewStateV1) : Bool :=
  step.1.audit_call.elim 0 IndependentCallStateV1.rank == 0
    && step.2.audit_call.elim 0 IndependentCallStateV1.rank == 1

section Chains

variable {first : IndependentReviewStateV1} {rest : List IndependentReviewStateV1}

theorem validate_initial_install_eq_ok {state : IndependentReviewStateV1} {u : Unit}
    (h : state.validate_initial_install sha256 = .ok u) :
    Valid sha256 state ∧ state.phase = .Reviewing ∧ state.review_call = .NotStarted := by
  simp only [validate_initial_install, bind_eq_ok, reject_if_eq_ok, exists_and_right,
    exists_unit_eq_ok, not_or, ne_eq, not_not] at h
  exact ⟨validate_eq_ok h.1, h.2.1, h.2.2.1⟩

theorem AcceptedReview.succeeds (h : AcceptedReview sha256 first rest) :
    ∀ step ∈ steps first rest, Succeeds sha256 step.1 step.2 := by
  intro step hstep
  exact validate_successor_eq_ok (isChain_iff_steps.mp h.successors step hstep)

theorem AcceptedReview.valid (h : AcceptedReview sha256 first rest) :
    ∀ state ∈ first :: rest, Valid sha256 state :=
  chain_invariant (validate_initial_install_eq_ok h.installed).1
    fun step hstep _ => (h.succeeds step hstep).next_valid

/-- The states of a chain in order, each related to all the later ones. -/
theorem AcceptedReview.pairwise (h : AcceptedReview sha256 first rest)
    {R : IndependentReviewStateV1 → IndependentReviewStateV1 → Prop} [Trans R R R]
    (hstep : ∀ {state next}, Succeeds sha256 state next → R state next) :
    (first :: rest).Pairwise R := by
  rw [← List.isChain_iff_pairwise, isChain_iff_steps]
  intro step hmem
  exact hstep (h.succeeds step hmem)

instance : Trans Keeps Keeps Keeps := ⟨Keeps.trans⟩

/-- The earlier state is behind the later one. -/
def Precedes (state later : IndependentReviewStateV1) : Prop := state.rank < later.rank

instance : Trans Precedes Precedes Precedes := ⟨Nat.lt_trans⟩

theorem AcceptedReview.ranks (h : AcceptedReview sha256 first rest) :
    (first :: rest).Pairwise Precedes :=
  h.pairwise Succeeds.rank_lt

/-- Every step raises the rank, which goes up to six. -/
theorem AcceptedReview.length_le (h : AcceptedReview sha256 first rest) : rest.length ≤ 6 := by
  have hcount : rank first + (steps first rest).countP (fun _ => true) ≤ rank (final first rest) :=
    count_steps_le fun step hstep => (h.succeeds step hstep).rank_lt
  rw [List.countP_true] at hcount
  have hlength : (steps first rest).length = rest.length := by
    clear h hcount
    induction rest generalizing first with
    | nil => rfl
    | cons next rest ih => rw [steps_cons, List.length_cons, ih, List.length_cons]
  have hfinal := rank_le (final first rest)
  omega

/-- One, once the review has been started. -/
def review_starts (state : IndependentReviewStateV1) : ℕ := min state.review_call.rank 1

/-- One, once the audit has been started. -/
def audit_starts (state : IndependentReviewStateV1) : ℕ :=
  min (state.audit_call.elim 0 IndependentCallStateV1.rank) 1

theorem AcceptedReview.review_starts_once (h : AcceptedReview sha256 first rest) :
    (steps first rest).countP starts_review ≤ 1 := by
  have hcount : review_starts first + (steps first rest).countP starts_review
      ≤ review_starts (final first rest) := by
    apply count_steps_le
    intro step hstep
    have hrank := (h.succeeds step hstep).review_call.rank
    unfold starts_review review_starts
    split <;> simp_all
  have hone : review_starts (final first rest) ≤ 1 := min_le_right _ _
  omega

theorem AcceptedReview.audit_starts_once (h : AcceptedReview sha256 first rest) :
    (steps first rest).countP starts_audit ≤ 1 := by
  have hcount : audit_starts first + (steps first rest).countP starts_audit
      ≤ audit_starts (final first rest) := by
    apply count_steps_le
    intro step hstep
    have hrank : step.1.audit_call.elim 0 IndependentCallStateV1.rank
        ≤ step.2.audit_call.elim 0 IndependentCallStateV1.rank := by
      cases hbefore : step.1.audit_call with
      | none => exact Nat.zero_le _
      | some call =>
        obtain ⟨call', hafter, hkeeps⟩ := (h.succeeds step hstep).audit_call call hbefore
        rw [hafter]
        exact hkeeps.rank
    unfold starts_audit audit_starts
    split <;> simp_all
  have hone : audit_starts (final first rest) ≤ 1 := min_le_right _ _
  omega

/-- **The discipline of a review.** Every chain of states that the durable authority accepts
has at most six steps, and each of them takes the review further. Each of the two calls is
started at most once; the review packet stays, and so does what has been recorded of a call
and an audit packet once there is one. No state is left that has a resolution. And an audit
is bound to a completed and validated review, whose decision and digest its packet has. -/
theorem review_discipline (h : AcceptedReview sha256 first rest) :
    rest.length ≤ 6 ∧ (first :: rest).Pairwise Precedes ∧ (first :: rest).Pairwise Keeps ∧
      (∀ step ∈ steps first rest, step.1.phase.is_terminal = false) ∧
      (steps first rest).countP starts_review ≤ 1 ∧ (steps first rest).countP starts_audit ≤ 1 ∧
      ∀ state ∈ first :: rest, ∀ packet, state.audit_packet = some packet →
        ∃ result decision, Bound sha256 state packet result decision := by
  refine ⟨h.length_le, h.ranks, h.pairwise Succeeds.keeps, ?_, h.review_starts_once,
    h.audit_starts_once, ?_⟩
  · exact fun step hstep => (h.succeeds step hstep).not_terminal
  · exact fun state hstate packet hpacket => (h.valid state hstate).bound hpacket

end Chains

/-! ## A reviewed run -/

namespace ReviewedRun

open EngineerVerifierStateV1.LocalRun (digest at_ scope coordinator engineer authority)

def reviewer : PrincipalIdentityV1 := ⟨"reviewer", .Reviewer⟩
def auditor : PrincipalIdentityV1 := ⟨"auditor", .Auditor⟩

/-- The digests of the contracts are constants, and that of a state tells its phase and how far
its calls have come. -/
def digests : IndependentReviewDigests EngineerVerifierStateV1.LocalRun.Payload where
  toEngineerVerifierDigests := EngineerVerifierStateV1.LocalRun.digests
  manifest := fun input => digest (if input.actor = reviewer then 500 else 501)
  frozen_diff := fun _ => digest 502
  review_packet := fun _ => digest 503
  audit_packet := fun _ => digest 504
  repair_directive := fun _ => digest 505
  repair_successor := fun _ => digest 506
  execution_request := fun _ => digest 507
  review_state := fun input => digest (600 + 10 * input.review_call.rank
    + (input.audit_call.elim 0 fun call => 1 + call.rank) + if input.resolution.isSome then 5 else 0)

def role_invocation (target : PrincipalIdentityV1) : RoleInvocationV1 where
  contract_version := 1
  invocation_id := "invocation"
  invoker := coordinator
  target := target
  task_id := "task"
  run_id := "run"
  scope := scope
  budget := ⟨1, 1⟩
  idempotency_key := "key"
  authority := authority
  authority_digest := digest 1
  input_digest := digest 0
  invoked_at := at_ 0

def goal : GoalContract where
  contract_version := ContractVersion.current
  id := "goal"
  project_id := "project"
  objective := "objective"
  constraints := []
  acceptance_criteria := ["it works"]
  verification_criteria := []
  permission_profile := ⟨ContractVersion.current, .R0, [], [], false, false, false⟩
  definition_of_done := []
  completion_precondition := ⟨ContractVersion.current, 1, true, true⟩
  created_at := at_ 0
  updated_at := at_ 0

def evidence : EvidenceRef where
  contract_version := ContractVersion.current
  id := "evidence"
  kind := .TestResult
  reference := "log"
  producer_role := .Engineer
  integrity := some ⟨ContractVersion.current, "sha256", digest 9⟩
  produced_at := at_ 0

/-- The manifest of a judge: the Verifier's test result, for the one criterion. -/
def manifest (actor : PrincipalIdentityV1) («namespace» : String) (manifest_digest : String) :
    EvidenceManifestV1 where
  contract_version := 1
  actor := actor
  criteria_namespace := «namespace»
  entries := [⟨.Acceptance, "it works", "evidence", .TestResult, ⟨"verifier", .Verifier⟩, digest 9⟩]
  manifest_digest := manifest_digest

/-- What a candidate is assessed with, when the criterion holds or when it does not. -/
def assessment (verdict : ReviewVerdict) : CriterionAssessment where
  contract_version := ContractVersion.current
  kind := .Acceptance
  criterion := "it works"
  verdict := if verdict = .Pass then .Satisfied else .Unsatisfied
  evidence_refs := ["evidence"]
  rationale := "the log"

def review_packet (verdict : ReviewVerdict) : ReviewPacketV1 where
  contract_version := 1
  packet_id := "packet"
  root_run_id := "run"
  run_id := "run"
  goal_id := "goal"
  task_id := "task"
  candidate_cycle := 0
  max_repair_cycles := 1
  prior_run_id := none
  prior_repair_directive_digest := none
  task := ⟨ContractVersion.current, "task", "goal", "outcome", [], .Engineer, [], ["src"],
    .Completed, at_ 0, at_ 0⟩
  goal_contract := goal
  completion_evidence :=
    { contract_version := ContractVersion.current
      evidence_refs := ["evidence"]
      satisfied_acceptance_criteria := if verdict = .Pass then ["it works"] else []
      satisfied_verification_criteria := []
      satisfied_definition_of_done := [] }
  evidence_catalog := [evidence]
  engineer := engineer
  verifier := "verifier"
  reviewer := reviewer
  reviewer_invocation := role_invocation reviewer
  reviewer_invocation_digest := digest 2
  issue6_state_digest := digest 3
  logical_plan_digest := digest 3
  resolved_effect_ledger_digest := digest 3
  engineer_result_digest := digest 3
  verifier_replay_plan_digest := digest 3
  verifier_transcript_digest := digest 3
  frozen_diff :=
    { contract_version := 1
      logical_path := "out.txt"
      before_bytes := none
      after_bytes := []
      before_file := none
      after_file := ⟨"out.txt", "e3b0c44298fc1c149afbf4c8996fb92427ae41e4649b934ca495991b7852b855", 0⟩
      issue6_diff_digest := digest 3
      frozen_diff_digest := digest 502 }
  verification_bundle :=
    { contract_version := ContractVersion.current
      bundle_id := "bundle"
      run_id := "run"
      goal_id := "goal"
      task_id := "task"
      behavior_contract_id := "behavior"
      capability_ids := []
      implementation_actor := "engineer"
      verifier_actor := "verifier"
      fingerprints := ⟨digest 3, digest 3, digest 3, digest 3, digest 3, digest 3, digest 3⟩
      criterion_results := []
      failures := []
      verdict := .Pass
      created_at := at_ 0 }
  verification_bundle_record_digest := digest 3
  evidence_current := ⟨"bundle", digest 3, 1, digest 3⟩
  verifier_receipts := [⟨0, digest 3, digest 3, .Completed, some 0, digest 3, digest 3, 0, 0⟩]
  evidence_manifest := manifest reviewer "review" (digest 500)
  packet_digest := digest 503

def review_decision (verdict : ReviewVerdict) : ReviewDecision :=
  ⟨ContractVersion.current, "review", "run", "goal", .Reviewer, verdict, [assessment verdict],
    "summary", at_ 2⟩

def audit_decision (verdict : ReviewVerdict) : AuditDecision :=
  ⟨ContractVersion.current, "audit", "run", "goal", "review", .Auditor, verdict,
    [assessment verdict], "summary", at_ 5⟩

def audit_packet (verdict : ReviewVerdict) : AuditPacketV1 where
  contract_version := 1
  packet_id := "audit-packet"
  review_packet := review_packet verdict
  review_packet_digest := digest 503
  review_result_digest := digest 3
  review_decision := review_decision verdict
  auditor := auditor
  auditor_invocation := role_invocation auditor
  auditor_invocation_digest := digest 2
  evidence_manifest := manifest auditor "audit" (digest 501)
  packet_digest := digest 504

/-- The result of a judge. -/
def result (producer : PrincipalIdentityV1) (payload : RoleResultPayloadV1) : RoleResultV1 where
  contract_version := 1
  result_id := "result"
  invocation_id := "invocation"
  invocation_digest := digest 2
  producer := producer
  task_id := "task"
  run_id := "run"
  scope := scope
  idempotency_key := "key"
  attempt := 1
  state := .Completed
  payload := payload
  evidence_ids := ["evidence"]
  occurred_at := at_ 5

def started (time : ℕ) : IndependentCallStateV1 := .Started (digest 507) (at_ time)

def recorded (time : ℕ) (producer : PrincipalIdentityV1) (payload : RoleResultPayloadV1) :
    IndependentCallStateV1 :=
  .OutcomeRecorded (digest 507) (at_ time) (.Completed (result producer payload) .Unavailable)
    (digest 10) (at_ (time + 1))

def reviewed (verdict : ReviewVerdict) : IndependentCallStateV1 :=
  recorded 1 reviewer (.Reviewer (digest 503) (review_decision verdict))

def audited (verdict : ReviewVerdict) : IndependentCallStateV1 :=
  recorded 4 auditor (.Auditor (digest 504) (audit_decision verdict))

def rehashed (state : IndependentReviewStateV1) : IndependentReviewStateV1 :=
  { state with state_digest := state.computed_state_digest digests }

def state (verdict : ReviewVerdict) (call : IndependentCallStateV1) (time : ℕ) :
    IndependentReviewStateV1 :=
  rehashed
    { contract_version := 1
      phase := .Reviewing
      review_packet := review_packet verdict
      review_call := call
      audit_packet := none
      audit_call := none
      repair_directive := none
      resolution := none
      controller_time := at_ time
      state_digest := "" }

def auditing (verdict : ReviewVerdict) (call : IndependentCallStateV1) (time : ℕ) :
    IndependentReviewStateV1 :=
  rehashed { state verdict (reviewed verdict) time with
    phase := .Auditing
    audit_packet := some (audit_packet verdict)
    audit_call := some call }

/-- The audit is over, and the review is resolved. -/
def resolved (verdict : ReviewVerdict) (phase : IndependentReviewPhaseV1)
    (resolution : IndependentReviewResolutionV1) : IndependentReviewStateV1 :=
  rehashed { auditing verdict (audited verdict) 6 with
    phase := phase
    resolution := some resolution }

def passed : IndependentReviewStateV1 :=
  resolved .Pass .ResolvedPass (.Pass (digest 3) (digest 3))

def rest : List IndependentReviewStateV1 :=
  [state .Pass (started 1) 1, state .Pass (reviewed .Pass) 2, auditing .Pass .NotStarted 3,
    auditing .Pass (started 4) 4, auditing .Pass (audited .Pass) 5, passed]


/-! ### Its states are valid -/

theorem digest_format {number : ℕ} (h : number < 10000) :
    validate_sha256_digest (digest number) = true := by
  have hdigit : ∀ k < 10, is_ascii_char (Nat.digitChar k) = true
      ∧ (is_ascii_digit (Nat.digitChar k).val.toUInt8 = true) := by decide
  have hdigits : ∀ c ∈ List.replicate 60 '0' ++ [number / 1000, number / 100 % 10,
      number / 10 % 10, number % 10].map Nat.digitChar, ∃ k < 10, Nat.digitChar k = c := by
    intro c hc
    rw [List.mem_append, List.mem_replicate, List.mem_map] at hc
    rcases hc with ⟨_, rfl⟩ | ⟨k, hk, rfl⟩
    · exact ⟨0, by decide, rfl⟩
    · refine ⟨k, ?_, rfl⟩
      simp only [List.mem_cons, List.not_mem_nil, or_false] at hk
      omega
  have hbytes : as_bytes (digest number) = _ := as_bytes_ofList (List.all_eq_true.mpr fun c hc => by
    obtain ⟨k, hk, rfl⟩ := hdigits c hc
    exact (hdigit k hk).1)
  rw [validate_sha256_digest, hbytes, Bool.and_eq_true]
  constructor
  · simp
  · rw [List.all_map, List.all_eq_true]
    intro c hc
    obtain ⟨k, hk, rfl⟩ := hdigits c hc
    rw [Function.comp_apply, (hdigit k hk).2, Bool.true_or]

/-- What is evaluated of the run, for either verdict. -/
theorem evaluates (verdict : ReviewVerdict) :
    (review_packet verdict).validate digests.toIndependentContractDigests = .ok ()
      ∧ (audit_packet verdict).validate_auditor digests.toIndependentContractDigests = .ok ()
      ∧ (audit_packet verdict).validate_bindings digests.toIndependentContractDigests = .ok ()
      ∧ (audit_packet verdict).evidence_manifest.validate_for digests.toIndependentContractDigests
        (audit_packet verdict).auditor .Auditor = .ok ()
      ∧ IndependentReview.validate_manifest_bindings (audit_packet verdict).evidence_manifest
        (review_packet verdict).goal_contract (review_packet verdict).completion_evidence
        (review_packet verdict).evidence_catalog (audit_packet verdict).producers = .ok ()
      ∧ IndependentReview.validate_identity "audit-packet" = .ok ()
      ∧ (⟨role_invocation reviewer, 1⟩ : RoleExecutionRequest).validate
        digests.toControlPlaneDigests = true
      ∧ (⟨role_invocation auditor, 1⟩ : RoleExecutionRequest).validate
        digests.toControlPlaneDigests = true
      ∧ ReviewAudit.validate_review_evidence_context (state verdict .NotStarted 0).context = .ok ()
      ∧ (reviewed verdict).validate_with digests (digest 507)
        (review_execution_request (review_packet verdict)) = .ok ()
      ∧ (audited verdict).validate_with digests (digest 507)
        (audit_execution_request (audit_packet verdict)) = .ok ()
      ∧ (auditing verdict .NotStarted 0).validate_audit_packet_binding digests = .ok ()
      ∧ passed.validate_phase_shape = .ok () ∧ passed.validate_terminal_semantics digests = .ok () := by
  cases verdict <;> refine ⟨?_, ?_, ?_, ?_, ?_, ?_, ?_, ?_, ?_, ?_, ?_, ?_, ?_, ?_⟩ <;> decide +kernel

theorem packet_valid (verdict : ReviewVerdict) :
    (review_packet verdict).validate digests.toIndependentContractDigests = .ok () :=
  (evaluates verdict).1

theorem role_request_valid {target : PrincipalIdentityV1} (h : target = reviewer ∨ target = auditor) :
    (⟨role_invocation target, 1⟩ : RoleExecutionRequest).validate
      digests.toControlPlaneDigests = true := by
  obtain ⟨_, _, _, _, _, _, hreviewer, hauditor, _⟩ := evaluates .Pass
  rcases h with rfl | rfl
  · exact hreviewer
  · exact hauditor

theorem review_request_digest (verdict : ReviewVerdict) :
    (review_execution_request (review_packet verdict)).canonical_digest digests =
      .ok (digest 507) := by
  refine IndependentRoleExecutionRequest.canonical_digest_eq_ok.mpr
    ⟨IndependentRoleExecutionRequest.validate_eq_ok.mpr ⟨?_, ?_, ⟨rfl, rfl, rfl⟩, ?_⟩, rfl⟩
  · exact of_contract_eq_ok.mpr (packet_valid verdict)
  · exact role_request_valid (Or.inl rfl)
  · rw [IndependentRoleExecutionRequest.binds_packet, review_execution_request]
    simp only [beq_self_eq_true, Bool.true_and]
    rfl

theorem audit_packet_valid (verdict : ReviewVerdict) :
    (audit_packet verdict).validate digests.toIndependentContractDigests = .ok () := by
  have hversion : IndependentReview.validate_version (audit_packet verdict).contract_version = .ok () := rfl
  obtain ⟨hreview, hauditor, hbindings, hmanifest, hmanifest_bindings, hid, _⟩ := evaluates verdict
  simp only [AuditPacketV1.validate, bind_eq_ok, exists_and_right, exists_unit_eq_ok]
  exact ⟨hversion, hid, hreview, hauditor, hbindings, hmanifest, hmanifest_bindings, rfl⟩

theorem audit_request_digest (verdict : ReviewVerdict) :
    (audit_execution_request (audit_packet verdict)).canonical_digest digests =
      .ok (digest 507) := by
  refine IndependentRoleExecutionRequest.canonical_digest_eq_ok.mpr
    ⟨IndependentRoleExecutionRequest.validate_eq_ok.mpr ⟨?_, ?_, ⟨rfl, rfl, rfl⟩, ?_⟩, rfl⟩
  · exact of_contract_eq_ok.mpr (audit_packet_valid verdict)
  · exact role_request_valid (Or.inr rfl)
  · rw [IndependentRoleExecutionRequest.binds_packet, audit_execution_request]
    simp only [beq_self_eq_true, Bool.true_and]
    rfl

theorem context_valid (verdict : ReviewVerdict) :
    ReviewAudit.validate_review_evidence_context
      (state verdict .NotStarted 0).context = .ok () := by
  obtain ⟨_, _, _, _, _, _, _, _, hcontext, _⟩ := evaluates verdict
  exact hcontext

theorem at_precision (time : ℕ) : is_millisecond_precision (at_ time) = true := by
  unfold is_millisecond_precision at_
  simp

theorem started_valid (request : IndependentRoleExecutionRequest) (time : ℕ) :
    (started time).validate_with digests (digest 507) request = .ok () := by
  refine reject_if_of_not (not_or.mpr ⟨not_not.mpr rfl, not_not.mpr ?_⟩)
  exact at_precision time

theorem reviewed_valid (verdict : ReviewVerdict) :
    (reviewed verdict).validate_with digests (digest 507)
      (review_execution_request (review_packet verdict)) = .ok () := by
  obtain ⟨_, _, _, _, _, _, _, _, _, hreviewed, _⟩ := evaluates verdict
  exact hreviewed

theorem audited_valid (verdict : ReviewVerdict) :
    (audited verdict).validate_with digests (digest 507)
      (audit_execution_request (audit_packet verdict)) = .ok () := by
  obtain ⟨_, _, _, _, _, _, _, _, _, _, haudited, _⟩ := evaluates verdict
  exact haudited

theorem binding_valid (verdict : ReviewVerdict) :
    (auditing verdict .NotStarted 0).validate_audit_packet_binding digests = .ok () := by
  obtain ⟨_, _, _, _, _, _, _, _, _, _, _, hbinding, _⟩ := evaluates verdict
  exact hbinding

theorem state_valid (verdict : ReviewVerdict) (time : ℕ) {call : IndependentCallStateV1}
    (hcall : call.validate_with digests (digest 507)
      (review_execution_request (review_packet verdict)) = .ok ()) :
    Valid digests (state verdict call time) where
  contract_version := rfl
  controller_time := at_precision time
  review_packet := packet_valid verdict
  evidence := context_valid verdict
  review_call := bind_eq_ok.mpr ⟨_, review_request_digest verdict, hcall⟩
  audit := rfl
  directive := rfl
  phase_shape := rfl
  binding := rfl
  semantics := rfl
  digest_format := by
    have hrank := call.rank_le
    refine digest_format ?_
    show 600 + 10 * call.rank + 0 + 0 < 10000
    omega
  state_digest := rfl

theorem auditing_valid (verdict : ReviewVerdict) (time : ℕ) {call : IndependentCallStateV1}
    (hcall : call.validate_with digests (digest 507)
      (audit_execution_request (audit_packet verdict)) = .ok ()) :
    Valid digests (auditing verdict call time) where
  contract_version := rfl
  controller_time := at_precision time
  review_packet := packet_valid verdict
  evidence := context_valid verdict
  review_call := bind_eq_ok.mpr ⟨_, review_request_digest verdict, reviewed_valid verdict⟩
  audit := by
    refine bind_eq_ok.mpr ⟨(), of_contract_eq_ok.mpr (audit_packet_valid verdict), ?_⟩
    exact bind_eq_ok.mpr ⟨(), reject_if_of_not (not_not.mpr rfl),
      bind_eq_ok.mpr ⟨_, audit_request_digest verdict, hcall⟩⟩
  directive := rfl
  phase_shape := rfl
  binding := binding_valid verdict
  semantics := rfl
  digest_format := by
    have hrank := call.rank_le
    refine digest_format ?_
    show 600 + 10 * 2 + (1 + call.rank) + 0 < 10000
    omega
  state_digest := rfl

/-- The audit of one packet moves on. -/
theorem audit_allowed {verdict : ReviewVerdict} {before : IndependentCallStateV1} {time : ℕ}
    {next : IndependentReviewStateV1} (hreview : next.review_call = reviewed verdict)
    (hpacket : next.audit_packet = some (audit_packet verdict))
    (h : (auditing verdict before time).audit_step next = true) :
    (auditing verdict before time).allowed next = true := by
  show (reviewed verdict == next.review_call && some (audit_packet verdict) == next.audit_packet
    && (auditing verdict before time).audit_step next) = true
  rw [hreview, hpacket, beq_self_eq_true, beq_self_eq_true, h]
  rfl

theorem passed_valid : Valid digests passed where
  contract_version := rfl
  controller_time := at_precision 6
  review_packet := packet_valid .Pass
  evidence := context_valid .Pass
  review_call := bind_eq_ok.mpr ⟨_, review_request_digest .Pass, reviewed_valid .Pass⟩
  audit := (auditing_valid .Pass 5 (audited_valid .Pass)).audit
  directive := rfl
  phase_shape := by
    obtain ⟨_, _, _, _, _, _, _, _, _, _, _, _, hshape, _⟩ := evaluates .Pass
    exact hshape
  binding := binding_valid .Pass
  semantics := by
    obtain ⟨_, _, _, _, _, _, _, _, _, _, _, _, _, hsemantics⟩ := evaluates .Pass
    exact hsemantics
  digest_format := digest_format (by decide)
  state_digest := rfl

theorem rest_accepted : AcceptedReview digests (state .Pass .NotStarted 0) rest := by
  have hinstalled : (state .Pass .NotStarted 0).validate_initial_install digests = .ok () :=
    bind_eq_ok.mpr ⟨(), validate_eq_ok_iff.mpr (state_valid .Pass 0 rfl),
      reject_if_of_not (by simp [state, rehashed])⟩
  refine ⟨hinstalled, isChain_iff_steps.mpr ?_⟩
  simp only [rest, steps_cons, steps_nil, List.forall_mem_cons, validate_successor_eq_ok_iff]
  have h₀ : Valid digests (state .Pass .NotStarted 0) := state_valid .Pass 0 rfl
  have h₁ := state_valid .Pass 1 (started_valid (review_execution_request (review_packet .Pass)) 1)
  have h₂ := state_valid .Pass 2 (reviewed_valid .Pass)
  have h₃ : Valid digests (auditing .Pass .NotStarted 3) := auditing_valid .Pass 3 rfl
  have h₄ := auditing_valid .Pass 4 (started_valid (audit_execution_request (audit_packet .Pass)) 4)
  have h₅ := auditing_valid .Pass 5 (audited_valid .Pass)
  refine ⟨⟨h₀, h₁, rfl, rfl, by decide, rfl⟩, ⟨h₁, h₂, rfl, rfl, by decide, rfl⟩,
    ⟨h₂, h₃, rfl, rfl, by decide, ?_⟩, ⟨h₃, h₄, rfl, rfl, by decide, ?_⟩,
    ⟨h₄, h₅, rfl, rfl, by decide, ?_⟩, ⟨h₅, passed_valid, rfl, rfl, by decide, ?_⟩,
    List.forall_mem_nil _⟩
  · show (reviewed .Pass == reviewed .Pass && _) = true
    rw [beq_self_eq_true]
    rfl
  · exact audit_allowed rfl rfl rfl
  · exact audit_allowed rfl rfl rfl
  · refine audit_allowed rfl rfl ?_
    show (some (audited .Pass) == some (audited .Pass) && _) = true
    rw [beq_self_eq_true]
    rfl

end ReviewedRun

open ReviewedRun in
/-- The run is reviewed once and audited once. -/
theorem review_discipline_passed :
    (steps (ReviewedRun.state .Pass .NotStarted 0) ReviewedRun.rest).countP starts_review ≤ 1 ∧
      (steps (ReviewedRun.state .Pass .NotStarted 0) ReviewedRun.rest).countP starts_audit ≤ 1 :=
  ⟨(review_discipline rest_accepted).2.2.2.2.1, (review_discipline rest_accepted).2.2.2.2.2.1⟩

end IndependentReviewStateV1

end OvcaCore

/-
What the steps of the loop of review and audit do to a state.

A step changes the call of one role, opens the audit or resolves the review, and stamps the
state with its time and digest. `Carries` says that nothing is started or recorded by it;
`rounds_left` says how many steps a state is away from an answer of the loop at most.
-/
import OvcaCore.ReviewWorld

set_option autoImplicit false

namespace OvcaCore

open OvcaCore.Checks EngineerVerifier

/-- The phase in which a role judges. -/
def JudgeRole.phase : JudgeRole → IndependentReviewPhaseV1
  | .Reviewer => .Reviewing
  | .Auditor => .Auditing

/-- The rounds of the loop behind a recorded outcome of a role, at most. -/
def JudgeRole.rounds : JudgeRole → ℕ
  | .Reviewer => 3
  | .Auditor => 1

namespace ReviewAuditLoop

section States

variable {P : Type} {sha256 : IndependentReviewDigests P} {state next : IndependentReviewStateV1}
  {role : JudgeRole}

/-! ## Stamps -/

/-- The state at another time, with another digest. -/
def stamped (state : IndependentReviewStateV1) (at_ : DateTime) (state_digest : String) :
    IndependentReviewStateV1 :=
  { state with controller_time := at_, state_digest := state_digest }

@[simp] theorem stamped_phase (at_ : DateTime) (digest : String) :
    (stamped state at_ digest).phase = state.phase := rfl

@[simp] theorem stamped_review_packet (at_ : DateTime) (digest : String) :
    (stamped state at_ digest).review_packet = state.review_packet := rfl

@[simp] theorem role_request_stamped (at_ : DateTime) (digest : String) :
    role_request role (stamped state at_ digest) = role_request role state := by
  cases role <;> rfl

@[simp] theorem role_call_stamped (at_ : DateTime) (digest : String) :
    role_call role (stamped state at_ digest) = role_call role state := by
  cases role <;> rfl

/-- A changed state is the given one at the given time, and valid. -/
theorem changed_eq_ok {at_ : DateTime} (h : changed sha256 state at_ = .ok next) :
    (∃ digest, next = stamped state at_ digest) ∧ IndependentReviewStateV1.Valid sha256 next := by
  simp only [changed, of_state, mapError_eq_ok, IndependentReviewStateV1.refresh_digest, bind_eq_ok,
    pure_eq_ok] at h
  obtain ⟨_, hvalid, rfl⟩ := h
  exact ⟨⟨_, rfl⟩, IndependentReviewStateV1.validate_eq_ok hvalid⟩

/-! ## Calls -/

/-- `with_review_call` and `with_audit_call`. -/
def set_call : JudgeRole → IndependentReviewStateV1 → IndependentCallStateV1 →
    IndependentReviewStateV1
  | .Reviewer => with_review_call
  | .Auditor => with_audit_call

variable {call : IndependentCallStateV1}

@[simp] theorem set_call_phase : (set_call role state call).phase = state.phase := by
  cases role <;> rfl

@[simp] theorem set_call_review_packet :
    (set_call role state call).review_packet = state.review_packet := by
  cases role <;> rfl

@[simp] theorem role_request_set_call (role' : JudgeRole) :
    role_request role' (set_call role state call) = role_request role' state := by
  cases role <;> cases role' <;> rfl

@[simp] theorem role_call_set_call_self : role_call role (set_call role state call) = some call := by
  cases role <;> rfl

theorem role_call_set_call_of_ne {role' : JudgeRole} (h : role' ≠ role) :
    role_call role' (set_call role state call) = role_call role' state := by
  cases role <;> cases role'
  · exact absurd rfl h
  · rfl
  · rfl
  · exact absurd rfl h

/-- The request of a role is for the role, and about the run of the state. -/
theorem role_request_eq_some (hvalid : IndependentReviewStateV1.Valid sha256 state)
    {request : IndependentRoleExecutionRequest} (h : role_request role state = some request) :
    request.role = role ∧ request.run_id = state.review_packet.run_id := by
  cases role with
  | Reviewer =>
    rw [← Option.some.inj h]
    exact ⟨rfl, rfl⟩
  | Auditor =>
    obtain ⟨packet, hpacket, rfl⟩ := Option.map_eq_some_iff.mp h
    obtain ⟨_, _, _, hreview, _⟩ := hvalid.audit_parts hpacket
    refine ⟨rfl, ?_⟩
    rw [← hreview]
    rfl

theorem started_request_eq_some {request : IndependentRoleExecutionRequest}
    (hrequest : role_request role state = some request) (hcall : role_call role state = some call)
    (hstarted : call ≠ .NotStarted) : started_request role state = some request := by
  simp only [started_request, hrequest, hcall, Option.bind_some]
  cases call with
  | NotStarted => exact absurd rfl hstarted
  | Started digest at_ => rfl
  | OutcomeRecorded digest at_ outcome outcome_digest recorded_at => rfl

/-- A call that has not been started is neither started nor recorded. -/
theorem of_not_started (hcall : role_call role state = some .NotStarted) :
    started_request role state = none ∧ recorded_outcome role state = none := by
  simp only [started_request, recorded_outcome, hcall, Option.bind_some]
  exact ⟨Option.bind_eq_none_iff.mpr fun _ _ => rfl, rfl⟩

theorem started_request_set_call_of_ne {role' : JudgeRole} (h : role' ≠ role) :
    started_request role' (set_call role state call) = started_request role' state := by
  simp only [started_request, role_request_set_call, role_call_set_call_of_ne h]

theorem recorded_outcome_set_call_of_ne {role' : JudgeRole} (h : role' ≠ role) :
    recorded_outcome role' (set_call role state call) = recorded_outcome role' state := by
  simp only [recorded_outcome, role_call_set_call_of_ne h]

@[simp] theorem started_request_stamped (at_ : DateTime) (digest : String) :
    started_request role (stamped state at_ digest) = started_request role state := by
  simp only [started_request, role_request_stamped, role_call_stamped]

@[simp] theorem recorded_outcome_stamped (at_ : DateTime) (digest : String) :
    recorded_outcome role (stamped state at_ digest) = recorded_outcome role state := by
  simp only [recorded_outcome, role_call_stamped]

/-! ## Steps that start and record nothing -/

/-- Nothing is started or recorded in a state that is not in the other. -/
structure Carries (state next : IndependentReviewStateV1) : Prop where
  started : ∀ role request, started_request role next = some request →
    started_request role state = some request
  recorded : ∀ role outcome, recorded_outcome role next = some outcome →
    recorded_outcome role state = some outcome

/-- It is enough to look at the calls that are not new: they are as they were, with their
requests. -/
theorem carries_of_calls
    (h : ∀ role call, role_call role next = some call → call ≠ .NotStarted →
      role_call role state = some call ∧ role_request role next = role_request role state) :
    Carries state next where
  started role request hstarted := by
    simp only [started_request, Option.bind_eq_some_iff] at hstarted ⊢
    obtain ⟨packet, hpacket, call, hcall, hstarted⟩ := hstarted
    have hnew : call ≠ .NotStarted := by
      rintro rfl
      cases hstarted
    obtain ⟨hsame, hrequest⟩ := h role call hcall hnew
    exact ⟨packet, hrequest ▸ hpacket, call, hsame, hstarted⟩
  recorded role outcome hrecorded := by
    simp only [recorded_outcome, Option.bind_eq_some_iff] at hrecorded ⊢
    obtain ⟨call, hcall, hrecorded⟩ := hrecorded
    have hnew : call ≠ .NotStarted := by
      rintro rfl
      cases hrecorded
    exact ⟨call, (h role call hcall hnew).1, hrecorded⟩

theorem Carries.stamped (h : Carries state next) (at_ : DateTime) (digest : String) :
    Carries state (stamped next at_ digest) where
  started role request := by
    rw [started_request_stamped]
    exact h.started role request
  recorded role outcome := by
    rw [recorded_outcome_stamped]
    exact h.recorded role outcome

theorem carries_auditing (packet : AuditPacketV1) : Carries state (auditing state packet) := by
  apply carries_of_calls
  intro role call hcall hnew
  cases role with
  | Reviewer => exact ⟨hcall, rfl⟩
  | Auditor => exact absurd (Option.some.inj hcall).symm hnew

theorem carries_resolved_pass (review_result_digest audit_result_digest : String) :
    Carries state (resolved_pass state review_result_digest audit_result_digest) := by
  apply carries_of_calls
  intro role call hcall _
  cases role <;> exact ⟨hcall, rfl⟩

theorem carries_repair_directed (directive : RepairDirectiveV1) :
    Carries state (repair_directed state directive) := by
  apply carries_of_calls
  intro role call hcall _
  cases role <;> exact ⟨hcall, rfl⟩

theorem carries_owner_escalated (reason : OwnerEscalationReasonV1) :
    Carries state (owner_escalated state reason) := by
  apply carries_of_calls
  intro role call hcall _
  cases role with
  | Reviewer => exact ⟨hcall, rfl⟩
  | Auditor =>
    -- an audit that is not dropped is as it was
    simp only [role_call, role_request, owner_escalated] at hcall ⊢
    by_cases hdrops : drops_audit state.phase reason = true
    · simp [hdrops] at hcall
    · simp only [hdrops, if_false, Bool.false_eq_true] at hcall ⊢
      by_cases hnone : state.audit_packet.isNone = true
      · rw [if_pos hnone] at hcall
        cases hcall
      · rw [if_neg hnone] at hcall
        exact ⟨hcall, trivial⟩

/-- The first state of a review has started and recorded nothing. -/
theorem initial_eq_ok {review_packet : ReviewPacketV1} {at_ : DateTime}
    (h : IndependentReviewStateV1.initial sha256 review_packet at_ = .ok state) :
    state.review_packet = review_packet ∧ state.phase = .Reviewing ∧
      ∀ role, started_request role state = none ∧ recorded_outcome role state = none := by
  simp only [IndependentReviewStateV1.initial, IndependentReviewStateV1.refresh_digest, bind_eq_ok,
    pure_eq_ok] at h
  obtain ⟨_, _, value, ⟨_, _, rfl⟩, _, _, rfl⟩ := h
  refine ⟨rfl, rfl, fun role => ?_⟩
  cases role <;> exact ⟨rfl, rfl⟩

/-! ## How far a state is from an answer -/

/-- The rounds of the loop that a state takes at most. -/
def rounds_left (state : IndependentReviewStateV1) : ℕ :=
  match state.phase with
  | .Reviewing =>
    match state.review_call with
    | .NotStarted => 4
    | .Started _ _ => 1
    | .OutcomeRecorded _ _ _ _ _ => 3
  | .Auditing =>
    match state.audit_call with
    | some .NotStarted => 2
    | _ => 1
  | .ResolvedPass | .RepairDirected | .OwnerEscalated => 1

theorem rounds_left_pos (state : IndependentReviewStateV1) : 0 < rounds_left state := by
  unfold rounds_left
  split <;> try split
  all_goals omega

theorem rounds_left_le (state : IndependentReviewStateV1) : rounds_left state ≤ 4 := by
  unfold rounds_left
  split <;> try split
  all_goals omega

variable (role) in
theorem rounds_left_of_not_started (hphase : state.phase = role.phase)
    (hcall : role_call role state = some .NotStarted) : rounds_left state = role.rounds + 1 := by
  cases role with
  | Reviewer =>
    have hcall : state.review_call = .NotStarted := Option.some.inj hcall
    simp [rounds_left, hphase, hcall, JudgeRole.phase, JudgeRole.rounds]
  | Auditor =>
    have hcall : state.audit_call = some .NotStarted := hcall
    simp [rounds_left, hphase, hcall, JudgeRole.phase, JudgeRole.rounds]

variable (role) in
theorem rounds_left_of_recorded (hphase : state.phase = role.phase)
    (hcall : role_call role state = some call) (hrecorded : call.is_recorded = true) :
    rounds_left state = role.rounds := by
  cases call with
  | NotStarted => cases hrecorded
  | Started digest at_ => cases hrecorded
  | OutcomeRecorded digest at_ outcome outcome_digest recorded_at =>
    cases role with
    | Reviewer =>
      have hcall : state.review_call = _ := Option.some.inj hcall
      simp [rounds_left, hphase, hcall, JudgeRole.phase, JudgeRole.rounds]
    | Auditor =>
      have hcall : state.audit_call = _ := hcall
      simp [rounds_left, hphase, hcall, JudgeRole.phase, JudgeRole.rounds]

end States

end ReviewAuditLoop

end OvcaCore

/-
The loop of review and audit respects the discipline of a world of reviews.

`Follows` is what a controller knows of the run it drives; `Stepped` is what it has at the end
of a step: a state that is nearer to an answer, or an answer that the stored state bears out.
Every part of the loop gets one rule, from the writes of a state up to `drive`.
-/
import OvcaCore.ReviewCalls
import OvcaCore.ReviewDecisions
import OvcaCore.ReviewSteps

set_option autoImplicit false

namespace OvcaCore

open OvcaCore.Checks OvcaCore.Interleaving EngineerVerifier DurableExecutionAuthority
open ReviewAuditLoop

namespace ReviewWorld

/-! ## What a controller knows of its run -/

section Knowledge

variable {ι P Q : Type} [DecidableEq P] {authority : ReviewAuthority P Q} {controls : ι → Prop}
  {i : ι} {w w' : ReviewWorld ι P Q} {loaded : LoadedReviewRun P}
  {state next : IndependentReviewStateV1}

/-- The run has been loaded with this review. -/
structure Follows (authority : ReviewAuthority P Q) (w : ReviewWorld ι P Q)
    (loaded : LoadedReviewRun P) (state : IndependentReviewStateV1) : Prop where
  seen : Seen authority w state.review_packet.run_id loaded
  review : loaded.envelope.independent_review = some state

theorem Follows.onward (h : Follows authority w loaded state) (hon : Onward authority w w') :
    Follows authority w' loaded state :=
  ⟨h.seen.onward hon, h.review⟩

theorem Follows.valid (h : Follows authority w loaded state) :
    IndependentReviewStateV1.Valid authority.sha256 state := by
  obtain ⟨row, _, hloaded⟩ := h.seen
  obtain ⟨_, _, k, hk⟩ := decode_and_restore_eq_ok.mp hloaded
  have hheader := (restore_kernel_eq_ok.mp hk).1
  exact IndependentReviewStateV1.validate_eq_ok (hheader.independent_review state h.review).1

/-- The stored review of the run goes on from the one that was loaded. -/
theorem Follows.terminal (h : Follows authority w loaded state)
    (hover : state.phase.is_terminal = true) :
    review_of authority w.store[entity_key state.review_packet.run_id]? = some state := by
  obtain ⟨row, hlater, hloaded⟩ := h.seen
  have hreview : review_of authority (some row) = some state := by
    rw [review_of_loaded hloaded, h.review]
  obtain ⟨state', hstate', _, hsame⟩ := hlater.review state hreview
  rw [hsame hover] at hstate'
  exact hstate'

theorem Replaced.follows {review : Option IndependentReviewStateV1}
    (h : Replaced authority i w next.review_packet.run_id review next loaded) :
    Follows authority w loaded next :=
  ⟨h.seen, h.written⟩

/-- What has been read of a row is its run of the engineer, which is this run. -/
theorem issue6_of_loaded {run_id : RunId} {row : VersionedState Q}
    (h : authority.execution.decode_and_restore run_id row = .ok loaded)
    {issue6 : EngineerVerifierStateV1 P} (hissue6 : loaded.envelope.engineer_verifier = some issue6) :
    issue6_of authority (some row) = some issue6 ∧ issue6.run_id = run_id := by
  obtain ⟨hread, _, k, hk⟩ := decode_and_restore_eq_ok.mp h
  have hheader := (restore_kernel_eq_ok.mp hk).1
  have hbinding : EngineerVerifierLoop.validate_engineer_verifier_binding
      loaded.envelope.binding issue6 = .ok () := (hheader.engineer_verifier issue6 hissue6).2
  simp only [EngineerVerifierLoop.validate_engineer_verifier_binding, bind_eq_ok, reject_if_eq_ok,
    not_or, not_not, ne_eq] at hbinding
  obtain ⟨_, _, hrun, _⟩ := hbinding
  refine ⟨?_, hrun.trans hheader.run_id_eq⟩
  rw [issue6_of_read hread, hissue6]

omit [DecidableEq P] in
theorem projection_eq_ok : projection loaded = .ok state ↔
    loaded.envelope.independent_review = some state := by
  simp only [projection, ok_or_eq_ok]

/-! ### Projecting the decisions -/

/-- What a controller knows while it projects the decisions of its passed review. -/
structure Projecting (authority : ReviewAuthority P Q) (i : ι) (w : ReviewWorld ι P Q)
    (state : IndependentReviewStateV1) (pair : PassingPair) : Prop where
  stored : review_of authority w.store[entity_key state.review_packet.run_id]? = some state
  passed : state.phase = .ResolvedPass
  pair : passing_pair authority.sha256 state = .ok pair
  holds : Holds i w state.review_packet

variable {pair : PassingPair}

theorem Projecting.onward (h : Projecting authority i w state pair) (hon : Onward authority w w')
    (hholds : Holds i w' state.review_packet) : Projecting authority i w' state pair where
  stored := by
    apply hon.terminal h.stored
    rw [h.passed]
    rfl
  passed := h.passed
  pair := h.pair
  holds := hholds

theorem Projecting.relies (h : Projecting authority i w state pair)
    (hrelies : Relies authority controls i w w') : Projecting authority i w' state pair :=
  h.onward hrelies.toOnward (h.holds.relies hrelies)

omit [DecidableEq P] in
/-- A decision that no controller has appended may be appended. -/
theorem Projecting.mayAppend {sequence : ℕ} {events : List RunEvent} {event : RunEvent}
    (h : Projecting authority i w state pair)
    (hreading : Reading authority controls w state.review_packet.run_id sequence events)
    (hrun : event.run_id = state.review_packet.run_id) (hdecision : IsDecision pair event)
    (hfresh : ∀ k event', sequence < k → events[k]? = some event' →
      event'.producer_role ≠ event.producer_role) : MayAppend authority controls i w event where
  lease := h.holds.lease
  decision := by
    refine ⟨state, pair, ?_, h.passed, h.pair, hdecision, h.holds.warrants⟩
    rw [hrun]
    exact h.stored
  phase := by
    rw [hrun]
    exact hreading.phase_line
  fresh := by
    rintro e he hcontrols event' hevent ⟨hsame_run, hsame_role⟩
    rw [hrun] at hsame_run
    obtain ⟨k, hk, hget⟩ := hreading.appended e he hcontrols event' hevent hsame_run
    exact hfresh k event' hk hget hsame_role

/-! ### Licenses -/

variable {store : VersionedStateStore Q} {earlier : List (ReviewEntry ι Q)}
  {entry : ReviewEntry ι Q}

omit [DecidableEq P] in
/-- A write that starts and records nothing, and does not resolve as passed, needs nothing. -/
theorem licensed_of_carries (hcarries : Carries state next) (hphase : next.phase ≠ .ResolvedPass) :
    Licensed authority store earlier entry (some state) (some next) where
  warranted := by
    rintro (⟨role, hbefore, hafter⟩ | ⟨_, hafter⟩)
    · obtain ⟨request, hrequest⟩ := Option.isSome_iff_exists.mp hafter
      have hstarted : started role (some state) = some request := hcarries.started role request hrequest
      rw [hstarted] at hbefore
      cases hbefore
    · have hpassed : next.phase = .ResolvedPass := by simpa [passed] using hafter
      exact absurd hpassed hphase
  answered := by
    intro role outcome hbefore hafter
    have hrecorded : recorded role (some state) = some outcome :=
      hcarries.recorded role outcome hafter
    rw [hrecorded] at hbefore
    cases hbefore
  descends := by
    intro hnone
    cases hnone

omit [DecidableEq P] in
/-- Under the lease, with the evidence of its packet current, a call may be started and the
review resolved as passed. -/
theorem licensed_of_holds {event : ReviewEvent Q} (hholds : Holds i w state.review_packet)
    (hpacket : next.review_packet = state.review_packet)
    (hrecorded : ∀ role outcome, recorded_outcome role next = some outcome →
      recorded_outcome role state = some outcome) :
    Licensed authority store earlier ⟨i, event, w.lease, w.evidence⟩ (some state) (some next) where
  warranted := by
    intro _
    refine ⟨hholds.lease, fun state' hstate' => ?_⟩
    rw [← Option.some.inj hstate', hpacket]
    exact hholds.warrants
  answered := by
    intro role outcome hbefore hafter
    have hsame : recorded role (some state) = some outcome := hrecorded role outcome hafter
    rw [hsame] at hbefore
    cases hbefore
  descends := by
    intro hnone
    cases hnone

omit [DecidableEq P] in
/-- The answer to an invocation of the caller may be recorded. -/
theorem licensed_of_answer {role : JudgeRole} {request : IndependentRoleExecutionRequest}
    {outcome : PersistedRoleExecutionOutcomeV1} {digest request_digest outcome_digest : String}
    {at_ started_at recorded_at : DateTime} {call : IndependentCallStateV1}
    (hinvoked : ∃ e ∈ earlier, e.caller = entry.caller ∧
      e.event = .invoked request (some outcome))
    (hrequest : role_request role state = some request)
    (hcall : role_call role state = some call) (hstarted : call ≠ .NotStarted)
    (hphase : state.phase ≠ .ResolvedPass)
    (hnext : next = stamped (set_call role state (.OutcomeRecorded request_digest started_at outcome
      outcome_digest recorded_at)) at_ digest) :
    Licensed authority store earlier entry (some state) (some next) where
  warranted := by
    rintro (⟨role', hbefore, hafter⟩ | ⟨_, hafter⟩)
    · have hsame : started role' (some next) = started role' (some state) := by
        simp only [started, Option.bind_some, hnext, started_request_stamped]
        by_cases hrole : role' = role
        · rw [hrole, started_request_eq_some hrequest hcall hstarted]
          apply started_request_eq_some ?_ role_call_set_call_self (by simp)
          rw [role_request_set_call, hrequest]
        · rw [started_request_set_call_of_ne hrole]
      rw [hsame, hbefore] at hafter
      cases hafter
    · have hpassed : next.phase = .ResolvedPass := by simpa [passed] using hafter
      rw [hnext, stamped_phase, set_call_phase] at hpassed
      exact absurd hpassed hphase
  answered := by
    intro role' outcome' hbefore hafter
    simp only [started, recorded, Option.bind_some, hnext, started_request_stamped,
      recorded_outcome_stamped] at hbefore hafter ⊢
    by_cases hrole : role' = role
    · rw [hrole] at hafter ⊢
      have houtcome : outcome = outcome' := by
        simpa [recorded_outcome, recorded_call] using hafter
      rw [← houtcome]
      obtain ⟨e, he, hcaller, hevent⟩ := hinvoked
      refine ⟨e, he, hcaller, request, ?_, hevent⟩
      apply started_request_eq_some ?_ role_call_set_call_self (by simp)
      rw [role_request_set_call, hrequest]
    · rw [recorded_outcome_set_call_of_ne hrole, hbefore] at hafter
      cases hafter
  descends := by
    intro hnone
    cases hnone

end Knowledge

/-! ## What the loop answers -/

section Answers

variable {ι P Q : Type} [DecidableEq P] {authority : ReviewAuthority P Q}
  {w w' : ReviewWorld ι P Q}

/-- The log has an event of the run with this id, role and payload. -/
def Logged (authority : ReviewAuthority P Q) (w : ReviewWorld ι P Q) (run_id : RunId)
    (id : EventId) (producer_role : Role) (payload : RunEventPayload) : Prop :=
  ∃ line ∈ w.rows, ∃ event, authority.codec.run_event.from_slice line = .ok event ∧
    event.run_id = run_id ∧ event.id = id ∧ event.producer_role = producer_role ∧
    event.payload = payload

/-- The log has both decisions of a passed review. -/
structure PairLogged (authority : ReviewAuthority P Q) (w : ReviewWorld ι P Q) (run_id : RunId)
    (pair : PassingPair) : Prop where
  review : Logged authority w run_id pair.review_event_id .Reviewer
    (.ReviewDecisionRecorded pair.review)
  audit : Logged authority w run_id pair.audit_event_id .Auditor
    (.AuditDecisionRecorded pair.audit)

theorem Logged.onward {run_id : RunId} {id : EventId} {producer_role : Role}
    {payload : RunEventPayload} (h : Logged authority w run_id id producer_role payload)
    (hon : Onward authority w w') : Logged authority w' run_id id producer_role payload := by
  obtain ⟨line, hline, hevent⟩ := h
  exact ⟨line, hon.log.subset hline, hevent⟩

theorem PairLogged.onward {run_id : RunId} {pair : PassingPair}
    (h : PairLogged authority w run_id pair) (hon : Onward authority w w') :
    PairLogged authority w' run_id pair :=
  ⟨h.review.onward hon, h.audit.onward hon⟩

/-- What an answer of the loop says of the stored review, and of the log. -/
def Reports (authority : ReviewAuthority P Q) (run_id : RunId) (w : ReviewWorld ι P Q) :
    ReviewAuditLoopOutcome → Prop
  | .ResolvedPass state_digest => ∃ state pair,
      review_of authority w.store[entity_key run_id]? = some state ∧ state.phase = .ResolvedPass ∧
        state.state_digest = state_digest ∧
        passing_pair authority.sha256 state = .ok pair ∧ PairLogged authority w run_id pair
  | .RepairDirected state_digest directive => ∃ state,
      review_of authority w.store[entity_key run_id]? = some state ∧
        state.phase = .RepairDirected ∧ state.state_digest = state_digest ∧
        state.repair_directive = some directive
  | .OwnerEscalated state_digest reason => ∃ state,
      review_of authority w.store[entity_key run_id]? = some state ∧
        state.phase = .OwnerEscalated ∧ state.state_digest = state_digest ∧
        state.resolution = some (.OwnerEscalation reason)
  | .InProgress => True

/-- A report stays true. -/
theorem Reports.onward {run_id : RunId} {outcome : ReviewAuditLoopOutcome}
    (h : Reports authority run_id w outcome) (hon : Onward authority w w') :
    Reports authority run_id w' outcome := by
  cases outcome with
  | ResolvedPass digest =>
    obtain ⟨state, pair, hstate, hphase, hdigest, hpair, hlogged⟩ := h
    have hover : state.phase.is_terminal = true := by rw [hphase]; rfl
    exact ⟨state, pair, hon.terminal hstate hover, hphase, hdigest, hpair, hlogged.onward hon⟩
  | RepairDirected digest directive =>
    obtain ⟨state, hstate, hphase, hrest⟩ := h
    have hover : state.phase.is_terminal = true := by rw [hphase]; rfl
    exact ⟨state, hon.terminal hstate hover, hphase, hrest⟩
  | OwnerEscalated digest reason =>
    obtain ⟨state, hstate, hphase, hrest⟩ := h
    have hover : state.phase.is_terminal = true := by rw [hphase]; rfl
    exact ⟨state, hon.terminal hstate hover, hphase, hrest⟩
  | InProgress => trivial

/-- A resolved state is what its outcome says of it. -/
theorem reports_of_state {loaded : LoadedReviewRun P} {state : IndependentReviewStateV1}
    {outcome : ReviewAuditLoopOutcome} (h : Follows authority w loaded state)
    (houtcome : outcome_from_state state = .ok outcome)
    (hlogged : state.phase = .ResolvedPass → ∃ pair, passing_pair authority.sha256 state = .ok pair ∧
      PairLogged authority w state.review_packet.run_id pair) :
    Reports authority state.review_packet.run_id w outcome := by
  unfold outcome_from_state at houtcome
  split at houtcome
  · next hphase hresolution =>
    cases houtcome
    have hover : state.phase.is_terminal = true := by rw [hphase]; rfl
    obtain ⟨pair, hpair, hlogged⟩ := hlogged hphase
    exact ⟨state, pair, h.terminal hover, hphase, rfl, hpair, hlogged⟩
  · next hphase hresolution =>
    have hover : state.phase.is_terminal = true := by rw [hphase]; rfl
    simp only [bind_eq_ok, ok_or_eq_ok, pure_eq_ok] at houtcome
    obtain ⟨directive, hdirective, rfl⟩ := houtcome
    exact ⟨state, h.terminal hover, hphase, rfl, hdirective⟩
  · next hphase hresolution =>
    cases houtcome
    have hover : state.phase.is_terminal = true := by rw [hphase]; rfl
    exact ⟨state, h.terminal hover, hphase, rfl, hresolution⟩
  · cases houtcome

/-- The end of a step of the loop: a state that is nearer to an answer, or a true answer. -/
def Stepped (authority : ReviewAuthority P Q) (packet : ReviewPacketV1) (rounds : ℕ) :
    ReviewAuditStep P → ReviewWorld ι P Q → Prop
  | .Continue loaded, w => ∃ state, Follows authority w loaded state ∧
      state.review_packet = packet ∧ rounds_left state < rounds
  | .Complete outcome, w => Reports authority packet.run_id w outcome

end Answers

/-! ## Rules of the steps -/

section Steps

variable {ι P Q : Type} [DecidableEq ι] [DecidableEq P] {authority : ReviewAuthority P Q}
  {environment : ReviewEnvironment} {controls : ι → Prop} {i : ι} {w : ReviewWorld ι P Q}
  {loaded : LoadedReviewRun P} {state : IndependentReviewStateV1} {rounds : ℕ}

/-- The projection of a run that has been loaded is its review. -/
theorem runs_projection_bind {α : Type} {K : α → ReviewWorld ι P Q → Prop}
    {f : IndependentReviewStateV1 → ReviewAuditProg P Q α}
    (hreview : loaded.envelope.independent_review = some state)
    (hf : Runs authority environment controls i K (f state) w) :
    Runs authority environment controls i K (checked (projection loaded) >>= f) w := by
  apply runs_checked_bind
  intro state' hstate'
  rw [projection_eq_ok, hreview] at hstate'
  rw [← Option.some.inj hstate']
  exact hf

/-! ### Writes -/

theorem runs_cas_replace (hround : authority.serde_json.RoundTrips)
    {next : IndependentReviewStateV1} (h : Follows authority w loaded state)
    (hpacket : next.review_packet = state.review_packet)
    (hlicensed : ∀ t event, Relies authority controls i w t → ReviewInv authority controls t →
      Licensed authority t.store t.trace ⟨i, event, t.lease, t.evidence⟩ (some state) (some next)) :
    Runs authority environment controls i (fun result t => ∀ loaded', result = some loaded' →
      Replaced authority i t next.review_packet.run_id (some state) next loaded')
      (cas_replace authority loaded next) w := by
  unfold cas_replace
  apply runs_checked_bind
  intro _ _
  have hseen := h.seen
  rw [← hpacket] at hseen
  apply runs_replace_bind hround hseen h.review hlicensed
  intro t outcome _ _ hreplaced
  apply Discipline.runs_pure
  intro t' ht' _ loaded' hloaded'
  exact (hreplaced loaded' hloaded').later ht'.toLater

/-- A write that needs no license, and where it leads. -/
theorem runs_cas_replace_bind {α : Type} {K : α → ReviewWorld ι P Q → Prop}
    (hround : authority.serde_json.RoundTrips) (hinv : ReviewInv authority controls w)
    {next : IndependentReviewStateV1} {f : Option (LoadedReviewRun P) → ReviewAuditProg P Q α}
    (h : Follows authority w loaded state) (hpacket : next.review_packet = state.review_packet)
    (hcarries : Carries state next) (hphase : next.phase ≠ .ResolvedPass)
    (hf : ∀ result t, ReviewInv authority controls t →
      (∀ loaded', result = some loaded' → Follows authority t loaded' next) →
      Runs authority environment controls i K (f result) t) :
    Runs authority environment controls i K (cas_replace authority loaded next >>= f) w := by
  have hcas : Runs authority environment controls i _ (cas_replace authority loaded next) w :=
    runs_cas_replace hround h hpacket fun _ _ _ _ => licensed_of_carries hcarries hphase
  apply Discipline.Runs.bind hcas hinv
  intro result t _ hinv' hreplaced
  exact hf result t hinv' fun loaded' hloaded' => (hreplaced loaded' hloaded').follows

/-- A resolved review that is not passed is reported. -/
theorem runs_complete_with {packet : ReviewPacketV1} {result : Option (LoadedReviewRun P)}
    (h : ∀ loaded', result = some loaded' → Follows authority w loaded' state)
    (hpacket : state.review_packet = packet) (hphase : state.phase ≠ .ResolvedPass) :
    Runs authority environment controls i (Stepped authority packet rounds)
      (complete_with result) w := by
  cases result with
  | none => exact Discipline.runs_pure fun _ _ _ => trivial
  | some loaded' =>
    have hfollows := h loaded' rfl
    apply runs_projection_bind hfollows.review
    apply runs_checked_bind
    intro outcome houtcome
    apply Discipline.runs_pure
    intro t ht _
    rw [← hpacket]
    exact reports_of_state (hfollows.onward ht.toOnward) houtcome fun hpass => absurd hpass hphase

theorem runs_escalate (hround : authority.serde_json.RoundTrips)
    (h : Follows authority w loaded state) (reason : OwnerEscalationReasonV1) :
    Runs authority environment controls i (Stepped authority state.review_packet rounds)
      (escalate authority loaded reason) w := by
  unfold escalate
  apply runs_projection_bind h.review
  apply runs_now_bind
  intro at_ t ht hinv
  apply runs_checked_bind
  intro next hnext
  obtain ⟨⟨digest, rfl⟩, _⟩ := changed_eq_ok hnext
  have hcarries : Carries state (stamped (owner_escalated state reason) at_ digest) :=
    (carries_owner_escalated reason).stamped at_ digest
  have hescalated : (stamped (owner_escalated state reason) at_ digest).phase ≠ .ResolvedPass := by
    simp [owner_escalated]
  apply runs_cas_replace_bind hround hinv (h.onward ht.toOnward) (by rfl) hcarries hescalated
  intro result t' _ hfollows
  exact runs_complete_with hfollows rfl hescalated

/-! ### Writes under the lease -/

omit [DecidableEq ι] [DecidableEq P] in
theorem warrants_of_current {snapshot : CompletionAdmissionSnapshot}
    {bundle : CompletionAdmissionBundle} {packet : ReviewPacketV1}
    (hbundle : snapshot.bundles = [bundle])
    (hcurrent : w.evidence.HoldsCurrent (evidence_key packet) bundle)
    (h : validate_current snapshot packet = .ok ()) : Warrants w.evidence packet := by
  simp only [validate_current, hbundle, reject_if_eq_ok, not_or, not_not, ne_eq] at h
  obtain ⟨_, hanchors, hdigest, hrecord⟩ := h
  exact ⟨bundle, hcurrent, hanchors, hdigest, hrecord⟩

theorem runs_cas_under_lease (hround : authority.serde_json.RoundTrips)
    (h : Follows authority w loaded state) {next : Except ReviewAuditLoopError IndependentReviewStateV1}
    (hnext : ∀ s, next = .ok s → s.review_packet = state.review_packet ∧
      ∀ role outcome, recorded_outcome role s = some outcome →
        recorded_outcome role state = some outcome) :
    Runs authority environment controls i (fun result t => ∀ loaded', result = some loaded' →
      ∃ s, next = .ok s ∧ Replaced authority i t s.review_packet.run_id (some state) s loaded')
      (cas_under_lease authority state.review_packet loaded next) w := by
  unfold cas_under_lease
  apply runs_with_lease
  · intro result t t' ht hresult loaded' hloaded'
    obtain ⟨s, hs, hreplaced⟩ := hresult loaded' hloaded'
    exact ⟨s, hs, hreplaced.later ht⟩
  · intro t snapshot bundle ht hinv hlease hbundle hcurrent
    apply runs_checked_bind
    intro _ hvalid
    have hholds : Holds i t state.review_packet :=
      ⟨hlease, warrants_of_current hbundle hcurrent hvalid⟩
    apply runs_checked_bind
    intro _ _
    apply runs_checked_bind
    intro s hs
    obtain ⟨hpacket, hrecorded⟩ := hnext s hs
    apply Discipline.Runs.mono ?_ (runs_cas_replace hround (h.onward ht.toOnward) hpacket ?_)
    · intro result u hreplaced loaded' hloaded'
      exact ⟨s, hs, hreplaced loaded' hloaded'⟩
    · intro u event hu _
      exact licensed_of_holds (hholds.relies hu) hpacket hrecorded

theorem runs_after_lease (hround : authority.serde_json.RoundTrips)
    (h : Follows authority w loaded state)
    {next : Option (LoadedReviewRun P) → ReviewAuditProg P Q (ReviewAuditStep P)}
    {result : Except (Fault ReviewAuditLoopError) (Option (LoadedReviewRun P))}
    (hnext : ∀ value, result = .ok value → Runs authority environment controls i
      (Stepped authority state.review_packet rounds) (next value) w) :
    Runs authority environment controls i (Stepped authority state.review_packet rounds)
      (after_lease authority loaded next result) w := by
  unfold after_lease
  split
  · exact hnext _ rfl
  · exact runs_escalate hround h .EvidenceInvalid
  · exact runs_escalate hround h .EvidenceInvalid
  · exact Discipline.runs_fail

/-- The rule of a step that writes under the lease: it goes on from what it has written. -/
theorem runs_lease_bind (hround : authority.serde_json.RoundTrips)
    (h : Follows authority w loaded state) (hinv : ReviewInv authority controls w)
    {next : Except ReviewAuditLoopError IndependentReviewStateV1}
    {f : Option (LoadedReviewRun P) → ReviewAuditProg P Q (ReviewAuditStep P)}
    (hnext : ∀ s, next = .ok s → s.review_packet = state.review_packet ∧
      ∀ role outcome, recorded_outcome role s = some outcome →
        recorded_outcome role state = some outcome)
    (hnone : f none = pure (.Complete .InProgress))
    (hsome : ∀ s t loaded', next = .ok s → ReviewInv authority controls t →
      Replaced authority i t s.review_packet.run_id (some state) s loaded' →
      Runs authority environment controls i (Stepped authority state.review_packet rounds)
        (f (some loaded')) t) :
    Runs authority environment controls i (Stepped authority state.review_packet rounds)
      ((cas_under_lease authority state.review_packet loaded next).attempt >>= fun result =>
        after_lease authority loaded f result) w := by
  apply Discipline.Runs.attempt_bind (runs_cas_under_lease hround h hnext) hinv
  intro r t hon hinv_t hr
  apply runs_after_lease hround (h.onward hon)
  intro value hvalue
  cases value with
  | none =>
    -- another writer was first
    rw [hnone]
    exact Discipline.runs_pure fun _ _ _ => trivial
  | some loaded' =>
    obtain ⟨s, hs, hreplaced⟩ := hr _ hvalue loaded' rfl
    exact hsome s t loaded' hs hinv_t hreplaced

/-! ### Calls -/

/-- The rule behind the start of a call: its role is asked, and the answer recorded. -/
theorem runs_record_outcome (hround : authority.serde_json.RoundTrips) {role : JudgeRole}
    {request : IndependentRoleExecutionRequest} {request_digest : String} {started_at : DateTime}
    (h : Follows authority w loaded state) (hphase : state.phase = role.phase)
    (hrequest : role_request role state = some request)
    (hcall : role_call role state = some (.Started request_digest started_at))
    (hbegun : Begun authority i w request) :
    Runs authority environment controls i (Stepped authority state.review_packet (role.rounds + 1))
      (record_outcome authority request (set_call role) request_digest started_at loaded) w := by
  -- a call is made before the review is over
  have hnot_passed : state.phase ≠ .ResolvedPass := by
    rw [hphase]
    cases role <;> simp [JudgeRole.phase]
  unfold record_outcome
  apply runs_invoke_bind hbegun
  intro answer t ht _ hinvoked
  apply runs_checked_bind
  intro outcome houtcome
  apply runs_checked_bind
  intro persisted hpersisted
  -- what is recorded is what was answered
  have hsame_outcome : persisted = outcome := by
    simp only [of_state, mapError_eq_ok, try_from_live, bind_eq_ok, pure_eq_ok] at hpersisted
    obtain ⟨_, _, _, _, rfl⟩ := hpersisted
    rfl
  rw [hsame_outcome]
  rw [ok_or_eq_ok] at houtcome
  rw [houtcome] at hinvoked
  apply runs_now_bind
  intro at_ u hu hinv
  apply runs_projection_bind h.review
  apply runs_checked_bind
  intro next hnext
  obtain ⟨⟨digest, hstamped⟩, _⟩ := changed_eq_ok hnext
  have hpacket : next.review_packet = state.review_packet := by
    rw [hstamped, stamped_review_packet, set_call_review_packet]
  have hfollows := h.onward (ht.trans hu.toOnward)
  have hcas : Runs authority environment controls i (fun result t => ∀ loaded',
      result = some loaded' → Replaced authority i t next.review_packet.run_id (some state) next
        loaded') (cas_replace authority loaded next) u := by
    apply runs_cas_replace hround hfollows hpacket
    intro v event hv _
    -- the invocation is still in the trace
    obtain ⟨entries, htrace, _⟩ := (hu.trans hv).trace
    obtain ⟨e, he, hcaller, hevent⟩ := hinvoked
    have hmem : e ∈ v.trace := by
      rw [htrace]
      exact List.mem_append_left _ he
    exact licensed_of_answer ⟨e, hmem, hcaller, hevent⟩ hrequest hcall (by simp) hnot_passed
      hstamped
  apply Discipline.Runs.bind hcas hinv
  intro result v _ hinv' hreplaced
  cases result with
  | none => exact Discipline.runs_pure fun _ _ _ => trivial
  | some loaded' =>
    apply Discipline.runs_pure
    intro v' hv' _
    have hnext_phase : next.phase = role.phase := by
      rw [hstamped, stamped_phase, set_call_phase, hphase]
    refine ⟨next, (hreplaced loaded' rfl).follows.onward hv'.toOnward, hpacket, ?_⟩
    rw [rounds_left_of_recorded _ hnext_phase (by rw [hstamped, role_call_stamped,
      role_call_set_call_self]) rfl]
    exact Nat.lt_succ_self _

/-- The rule of a call that has not been started. -/
theorem runs_start_call (hround : authority.serde_json.RoundTrips) {role : JudgeRole}
    {request : IndependentRoleExecutionRequest} (h : Follows authority w loaded state)
    (hphase : state.phase = role.phase) (hrequest : role_request role state = some request)
    (hcall : role_call role state = some .NotStarted) :
    Runs authority environment controls i (Stepped authority state.review_packet (role.rounds + 1))
      (start_call authority state.review_packet request (set_call role) loaded) w := by
  obtain ⟨hnot_started, hnot_recorded⟩ := of_not_started hcall
  unfold start_call
  apply runs_checked_bind
  intro request_digest _
  apply runs_now_bind
  intro started_at t ht hinv_t
  -- whatever is written under the lease is the start of this call
  have hnext : ∀ s, (do
      let state ← projection loaded
      changed authority.sha256 (set_call role state (.Started request_digest started_at))
        started_at) = Except.ok s →
      ∃ digest, s = stamped (set_call role state (.Started request_digest started_at)) started_at
        digest := by
    intro s hs
    simp only [bind_eq_ok] at hs
    obtain ⟨state', hstate', hs⟩ := hs
    rw [projection_eq_ok, h.review, Option.some.injEq] at hstate'
    rw [← hstate'] at hs
    exact (changed_eq_ok hs).1
  have hrequest_facts := role_request_eq_some h.valid hrequest
  apply runs_lease_bind hround (h.onward ht.toOnward) hinv_t ?_ rfl
  · intro s u started_loaded hs _ hreplaced
    obtain ⟨digest, hstamped⟩ := hnext s hs
    have hs_packet : s.review_packet = state.review_packet := by
      rw [hstamped, stamped_review_packet, set_call_review_packet]
    have hs_call : role_call role s = some (.Started request_digest started_at) := by
      rw [hstamped, role_call_stamped, role_call_set_call_self]
    have hs_request : role_request role s = some request := by
      rw [hstamped, role_request_stamped, role_request_set_call, hrequest]
    -- the write has begun the call, which is what allows to ask the role
    have hbegun : Begun authority i u request := by
      apply hreplaced.begun request
      · rw [hrequest_facts.2, hs_packet]
      · rw [hrequest_facts.1]
        exact hnot_started
      · rw [hrequest_facts.1]
        exact started_request_eq_some hs_request hs_call (by simp)
    rw [← hs_packet]
    apply runs_record_outcome hround hreplaced.follows ?_ hs_request hs_call hbegun
    rw [hstamped, stamped_phase, set_call_phase, hphase]
  · -- a start records no outcome
    intro s hs
    obtain ⟨digest, hstamped⟩ := hnext s hs
    refine ⟨by rw [hstamped, stamped_review_packet, set_call_review_packet], ?_⟩
    intro role' outcome hrecorded
    rw [hstamped, recorded_outcome_stamped] at hrecorded
    by_cases hrole : role' = role
    · rw [hrole, recorded_outcome, role_call_set_call_self] at hrecorded
      cases hrecorded
    · rw [recorded_outcome_set_call_of_ne hrole] at hrecorded
      exact hrecorded

/-- The audit is opened behind a valid review. -/
theorem runs_open_audit (hround : authority.serde_json.RoundTrips) {input : ReviewAuditLoopInput}
    (h : Follows authority w loaded state) (hrounds : 2 < rounds) (review_result : RoleResultV1)
    (decision : ReviewDecision) :
    Runs authority environment controls i (Stepped authority state.review_packet rounds)
      (open_audit authority input loaded state review_result decision) w := by
  unfold open_audit
  apply runs_checked_bind
  intro packet _
  apply runs_now_bind
  intro at_ t ht hinv
  apply runs_checked_bind
  intro next hnext
  obtain ⟨⟨digest, rfl⟩, _⟩ := changed_eq_ok hnext
  have hcarries : Carries state (stamped (auditing state packet) at_ digest) :=
    (carries_auditing packet).stamped at_ digest
  have hauditing : (stamped (auditing state packet) at_ digest).phase ≠ .ResolvedPass := by
    simp [auditing]
  apply runs_cas_replace_bind hround hinv (h.onward ht.toOnward) (by rfl) hcarries hauditing
  intro result t' _ hfollows
  cases result with
  | none => exact Discipline.runs_pure fun _ _ _ => trivial
  | some loaded' =>
    apply Discipline.runs_pure
    intro u hu _
    exact ⟨_, (hfollows loaded' rfl).onward hu.toOnward, rfl, hrounds⟩

theorem runs_after_review (hround : authority.serde_json.RoundTrips) {input : ReviewAuditLoopInput}
    (h : Follows authority w loaded state) (hrounds : 2 < rounds) :
    Runs authority environment controls i (Stepped authority state.review_packet rounds)
      (after_review authority input loaded) w := by
  unfold after_review
  apply runs_projection_bind h.review
  split
  · exact runs_escalate hround h .ReviewerExecutionFailed
  · split
    · exact runs_escalate hround h .EvidenceInvalid
    · split
      · exact runs_escalate hround h .EvidenceInvalid
      · exact runs_open_audit hround h hrounds _ _

/-! ### The decisions of a passed review -/

/-- The rule of reading the events of a run that is being reviewed. -/
theorem runs_load_events_bind {α : Type} {K : α → ReviewWorld ι P Q → Prop}
    {f : List RunEvent → ReviewAuditProg P Q α}
    (h : ∀ t sequence events, Relies authority controls i w t → ReviewInv authority controls t →
      Reading authority controls t state.review_packet.run_id sequence events →
      Runs authority environment controls i K (f events) t) :
    Runs authority environment controls i K
      (load_validated_projection_events authority state >>= f) w := by
  unfold load_validated_projection_events
  simp only [Prog.assoc]
  apply runs_load_bind
  intro t row loaded ht hinv hrow hloaded
  apply runs_checked_bind
  intro _ _
  apply runs_checked_bind
  intro _ _
  apply runs_checked_bind
  intro _ _
  apply runs_checked_bind
  intro issue6 hissue6
  apply runs_read_log_bind
  intro u hu hinv_u
  apply runs_checked_bind
  intro events hevents
  rw [ok_or_eq_ok] at hissue6
  rw [mapError_eq_ok] at hevents
  obtain ⟨hstored, hrun⟩ := issue6_of_loaded hloaded hissue6
  -- the engineer's run has stayed where it was when it was loaded
  have hacknowledged : ∀ sequence, issue6.phase = .Reviewing → issue6.pending_projection = none →
      issue6.projected_sequence = some sequence →
        Acknowledged authority u issue6.run_id sequence := by
    intro sequence hphase hpending hsequence
    have hthen : Acknowledged authority t issue6.run_id sequence := by
      refine ⟨issue6, ?_, hphase, hpending, hsequence⟩
      rw [hrun, hrow, hstored]
    exact hthen.onward hu.toOnward
  obtain ⟨sequence, hreading⟩ := reading_of_chain hinv_u hacknowledged hevents
  rw [hrun] at hreading
  exact h u sequence events (ht.trans hu) hinv_u hreading

/-- An event is appended, and the events of the run are read anew. -/
theorem runs_append_and_reload (hevents : authority.run_event.RoundTrips) {pair : PassingPair}
    {event : Except ReviewAuditLoopError RunEvent} {sequence : ℕ}
    (h : Projecting authority i w state pair)
    (hsequence : Acknowledged authority w state.review_packet.run_id sequence)
    (hmay : ∀ e t, event = .ok e → Relies authority controls i w t →
      MayAppend authority controls i t e) :
    Runs authority environment controls i
      (fun events t => Reading authority controls t state.review_packet.run_id sequence events ∧
        Projecting authority i t state pair)
      (append_and_reload authority state event) w := by
  unfold append_and_reload
  apply runs_checked_bind
  intro e he
  apply runs_append_event_bind hevents
  · intro _ t ht _
    exact hmay e t he ht
  · intro answer t hon _ hholds
    apply runs_checked_bind
    intro _ _
    have hprojecting := h.onward hon (hholds _ h.holds)
    rw [← Prog.bind_pure (load_validated_projection_events authority state)]
    apply runs_load_events_bind
    intro u sequence' events hu hinv_u hreading
    have hprojecting_u := hprojecting.relies hu
    rw [(hsequence.onward (hon.trans hu.toOnward)).unique hreading.acknowledged]
    apply Discipline.runs_pure
    intro v hv _
    exact ⟨hreading.relies hprojecting_u.holds.lease hv, hprojecting_u.relies hv⟩

/-- The event of the Reviewer's decision is appended where it is absent. -/
theorem runs_project_review (hevents : authority.run_event.RoundTrips) {pair : PassingPair}
    {sequence : ℕ} {events : List RunEvent} (hinv : ReviewInv authority controls w)
    (h : Projecting authority i w state pair)
    (hreading : Reading authority controls w state.review_packet.run_id sequence events) :
    Runs authority environment controls i
      (fun events t => Reading authority controls t state.review_packet.run_id sequence events ∧
        Projecting authority i t state pair)
      (project_review authority state pair sequence events) w := by
  unfold project_review
  apply runs_checked_bind
  intro found hfound
  by_cases habsent : found = .Absent
  · rw [if_pos habsent]
    rw [habsent] at hfound
    have hlength := (classify_eq_ok hfound).2
    apply Discipline.Runs.bind (runs_append_and_reload hevents h hreading.acknowledged ?_) hinv
    · intro events' t _ _ hread
      apply runs_checked_bind
      intro _ _
      apply runs_checked_bind
      intro _ _
      apply Discipline.runs_pure
      intro u hu _
      exact ⟨hread.1.relies hread.2.holds.lease hu, hread.2.relies hu⟩
    · -- the event may be appended: nobody has appended this decision yet
      intro e t he ht
      obtain ⟨hid, hrun, hrole, hpayload⟩ := next_projection_event_eq_ok he
      apply (h.relies ht).mayAppend (hreading.relies h.holds.lease ht) hrun
        (Or.inl ⟨hid, hrole, hpayload⟩)
      -- there is nothing behind the acknowledged event
      intro k event' hk hget
      have hlt := (List.getElem?_eq_some_iff.mp hget).1
      omega
  · -- an earlier controller has appended it
    rw [if_neg habsent]
    apply Discipline.runs_pure
    intro t ht _
    exact ⟨hreading.relies h.holds.lease ht, h.relies ht⟩

theorem runs_project_audit (hevents : authority.run_event.RoundTrips) {pair : PassingPair}
    {sequence : ℕ} {events : List RunEvent} (h : Projecting authority i w state pair)
    (hreading : Reading authority controls w state.review_packet.run_id sequence events) :
    Runs authority environment controls i
      (fun events t => Reading authority controls t state.review_packet.run_id sequence events ∧
        Projecting authority i t state pair)
      (project_audit authority state pair sequence events) w := by
  unfold project_audit
  apply runs_checked_bind
  intro found hfound
  by_cases honly : found = .ReviewOnly
  · rw [if_pos honly]
    rw [honly] at hfound
    obtain ⟨hlength, review_event, hreview_at, hreview⟩ := (classify_eq_ok hfound).2
    apply runs_append_and_reload hevents h hreading.acknowledged
    intro e t he ht
    obtain ⟨hid, hrun, hrole, hpayload⟩ := next_projection_event_eq_ok he
    apply (h.relies ht).mayAppend (hreading.relies h.holds.lease ht) hrun
      (Or.inr ⟨hid, hrole, hpayload⟩)
    -- the one event behind the acknowledged one is the Reviewer's
    intro k event' hk hget
    have hlt := (List.getElem?_eq_some_iff.mp hget).1
    obtain rfl : k = sequence + 1 := by omega
    rw [hreview_at, Option.some.injEq] at hget
    rw [← hget, hrole, (next_projection_event_eq_ok hreview).2.2.1]
    decide
  · -- both decisions are there
    rw [if_neg honly]
    apply Discipline.runs_pure
    intro t ht _
    exact ⟨hreading.relies h.holds.lease ht, h.relies ht⟩

omit [DecidableEq ι] [DecidableEq P] in
/-- A decision that a reader finds at a place is in the log. -/
theorem logged_of_decidedAt {run_id run_id' : RunId} {sequence index : ℕ}
    {events : List RunEvent} {id : EventId} {producer_role : Role} {decided_at : DateTime}
    {payload : RunEventPayload} (hread : Reading authority controls w run_id sequence events)
    (h : DecidedAt (fun earlier => next_projection_event earlier id run_id' decided_at producer_role
      payload) events index) : Logged authority w run_id id producer_role payload := by
  obtain ⟨event, hget, hexpected⟩ := h
  obtain ⟨hid, _, hrole, hpayload⟩ := next_projection_event_eq_ok hexpected
  obtain ⟨hrun, line, hline, hslice⟩ := hread.read event (List.mem_of_getElem? hget)
  exact ⟨line, hline, event, hslice, hrun, hid, hrole, hpayload⟩

/-- **The decisions of a passed review get into the log.** -/
theorem runs_project_passing_pair (hevents : authority.run_event.RoundTrips)
    (hstored : review_of authority w.store[entity_key state.review_packet.run_id]? = some state)
    (hphase : state.phase = .ResolvedPass) :
    Runs authority environment controls i (fun _ t => ∃ pair,
        passing_pair authority.sha256 state = .ok pair ∧
          PairLogged authority t state.review_packet.run_id pair)
      (project_passing_pair authority state) w := by
  unfold project_passing_pair
  apply runs_with_lease
  · rintro _ t t' ht ⟨pair, hpair, hlogged⟩
    exact ⟨pair, hpair, hlogged.onward ht.toOnward⟩
  · intro t snapshot bundle ht hinv hlease hbundle hcurrent
    apply runs_checked_bind
    intro _ hvalid
    unfold project_passing_pair_under_lease
    apply runs_checked_bind
    intro pair hpair
    -- a review that is over is still the stored one
    have hprojecting : Projecting authority i t state pair := by
      refine ⟨?_, hphase, hpair, hlease, warrants_of_current hbundle hcurrent hvalid⟩
      apply ht.toOnward.terminal hstored
      rw [hphase]
      rfl
    apply runs_load_events_bind
    intro u sequence events hu hinv_u hreading
    apply runs_load_bind
    intro v row loaded hv hinv_v hrow hloaded
    apply runs_checked_bind
    intro issue6_sequence hsequence
    have hprojecting_v := (hprojecting.relies hu).relies hv
    have hreading_v := hreading.relies (hprojecting.relies hu).holds.lease hv
    -- the place that is loaded is the acknowledged one
    have hsame : issue6_sequence = sequence := by
      obtain ⟨issue6, hissue6, _, _, hacknowledged⟩ := hreading_v.acknowledged
      rw [hrow, issue6_of_read (decode_and_restore_eq_ok.mp hloaded).1] at hissue6
      rw [ok_or_eq_ok, hissue6, Option.bind_some, hacknowledged, Option.some.injEq] at hsequence
      exact hsequence.symm
    rw [hsame]
    apply Discipline.Runs.bind (runs_project_review hevents hinv_v hprojecting_v hreading_v) hinv_v
    intro events' x _ hinv_x hread
    apply Discipline.Runs.bind (runs_project_audit hevents hread.2 hread.1) hinv_x
    intro events'' y _ _ hread'
    apply runs_checked_bind
    intro found hfound
    apply runs_checked
    intro _ z hcomplete hz
    rw [reject_if_eq_ok, ne_eq, not_not] at hcomplete
    rw [hcomplete] at hfound
    -- the last check has found both, each at its place
    obtain ⟨_, hreview, haudit⟩ := classify_eq_ok hfound
    have hread_z := hread'.1.relies hread'.2.holds.lease hz
    exact ⟨pair, hpair, logged_of_decidedAt hread_z hreview, logged_of_decidedAt hread_z haudit⟩

/-! ### Resolving -/

theorem runs_report_pass (hevents : authority.run_event.RoundTrips)
    (hinv : ReviewInv authority controls w) (h : Follows authority w loaded state)
    (hphase : state.phase = .ResolvedPass) :
    Runs authority environment controls i (Stepped authority state.review_packet rounds)
      (report_pass authority state) w := by
  have hover : state.phase.is_terminal = true := by
    rw [hphase]
    rfl
  unfold report_pass
  apply Discipline.Runs.bind (runs_project_passing_pair hevents (h.terminal hover) hphase) hinv
  intro _ t hon _ hlogged
  apply runs_checked_bind
  intro outcome houtcome
  apply Discipline.runs_pure
  intro u hu _
  obtain ⟨pair, hpair, hlogged⟩ := hlogged
  apply reports_of_state (h.onward (hon.trans hu.toOnward)) houtcome
  exact fun _ => ⟨pair, hpair, hlogged.onward hu.toOnward⟩

theorem runs_resolve_pass (hround : authority.serde_json.RoundTrips)
    (hevents : authority.run_event.RoundTrips) (h : Follows authority w loaded state)
    (review_result_digest audit_result_digest : String) :
    Runs authority environment controls i (Stepped authority state.review_packet rounds)
      (resolve_pass authority loaded state review_result_digest audit_result_digest) w := by
  unfold resolve_pass
  apply runs_now_bind
  intro at_ t ht hinv
  have hnext : ∀ s, changed authority.sha256
      (resolved_pass state review_result_digest audit_result_digest) at_ = .ok s →
      ∃ digest, s = stamped (resolved_pass state review_result_digest audit_result_digest) at_
        digest := fun s hs => (changed_eq_ok hs).1
  apply runs_lease_bind hround (h.onward ht.toOnward) hinv ?_ rfl
  · intro s u loaded' hs hinv_u hreplaced
    obtain ⟨digest, rfl⟩ := hnext s hs
    apply runs_projection_bind hreplaced.written
    exact runs_report_pass hevents hinv_u hreplaced.follows rfl
  · -- a pass leaves both calls as they are
    intro s hs
    obtain ⟨digest, rfl⟩ := hnext s hs
    refine ⟨rfl, ?_⟩
    exact ((carries_resolved_pass review_result_digest audit_result_digest).stamped at_ digest).recorded

theorem runs_direct_repair (hround : authority.serde_json.RoundTrips) {input : ReviewAuditLoopInput}
    (h : Follows authority w loaded state) (review : ReviewDecision) (audit : AuditDecision)
    (review_result_digest audit_result_digest : String) :
    Runs authority environment controls i (Stepped authority state.review_packet rounds)
      (direct_repair authority input loaded state review audit review_result_digest
        audit_result_digest) w := by
  unfold direct_repair
  apply runs_checked_bind
  intro directive _
  apply runs_now_bind
  intro at_ t ht hinv
  apply runs_checked_bind
  intro next hnext
  obtain ⟨⟨digest, rfl⟩, _⟩ := changed_eq_ok hnext
  have hcarries : Carries state (stamped (repair_directed state directive) at_ digest) :=
    (carries_repair_directed directive).stamped at_ digest
  have hdirected : (stamped (repair_directed state directive) at_ digest).phase ≠ .ResolvedPass := by
    simp [repair_directed]
  apply runs_cas_replace_bind hround hinv (h.onward ht.toOnward) (by rfl) hcarries hdirected
  intro result t' _ hfollows
  exact runs_complete_with hfollows rfl hdirected

theorem runs_resolve (hround : authority.serde_json.RoundTrips)
    (hevents : authority.run_event.RoundTrips) {input : ReviewAuditLoopInput}
    (h : Follows authority w loaded state) :
    Runs authority environment controls i (Stepped authority state.review_packet rounds)
      (resolve authority input loaded) w := by
  unfold resolve
  apply runs_projection_bind h.review
  apply runs_checked_bind
  intro review_result _
  apply runs_checked_bind
  intro audit_call _
  split
  · exact runs_escalate hround h .AuditorExecutionFailed
  · split
    · exact runs_escalate hround h .EvidenceInvalid
    · -- two valid decisions agree to pass, agree to fail, or do not agree
      unfold resolve_decided
      split
      · exact runs_resolve_pass hround hevents h _ _
      · split
        · exact runs_direct_repair hround h _ _ _ _
        · exact runs_escalate hround h .RepairBudgetExhausted
      · exact runs_escalate hround h .VerdictDisagreement

/-! ### Driving a candidate -/

/-- A review that is over is reported as it is. -/
theorem runs_outcome (h : Follows authority w loaded state) (hphase : state.phase ≠ .ResolvedPass) :
    Runs authority environment controls i (Stepped authority state.review_packet rounds)
      (checked (outcome_from_state state) >>= fun outcome => pure (.Complete outcome)) w := by
  apply runs_checked_bind
  intro outcome houtcome
  apply Discipline.runs_pure
  intro t ht _
  exact reports_of_state (h.onward ht.toOnward) houtcome fun hpass => absurd hpass hphase

theorem runs_resume_reviewing (hround : authority.serde_json.RoundTrips)
    {input : ReviewAuditLoopInput} (h : Follows authority w loaded state)
    (hinput : state.review_packet = input.review_packet) (hphase : state.phase = .Reviewing) :
    Runs authority environment controls i (Stepped authority state.review_packet (rounds_left state))
      (resume_reviewing authority input loaded state.review_call) w := by
  cases hcall : state.review_call with
  | NotStarted =>
    have hrole : role_call .Reviewer state = some .NotStarted := congrArg some hcall
    rw [rounds_left_of_not_started .Reviewer hphase hrole]
    simp only [resume_reviewing, start_review]
    rw [← hinput]
    exact runs_start_call hround h hphase rfl hrole
  | Started digest at_ => exact runs_escalate hround h .ReviewerOutcomeUnknown
  | OutcomeRecorded digest at_ outcome outcome_digest recorded_at =>
    have hrole : role_call .Reviewer state = some _ := congrArg some hcall
    rw [rounds_left_of_recorded .Reviewer hphase hrole rfl]
    exact runs_after_review hround h (by decide)

theorem runs_resume_auditing (hround : authority.serde_json.RoundTrips)
    (hevents : authority.run_event.RoundTrips) {input : ReviewAuditLoopInput}
    (h : Follows authority w loaded state) (hphase : state.phase = .Auditing)
    {call : IndependentCallStateV1} (hcall : state.audit_call = some call) :
    Runs authority environment controls i (Stepped authority state.review_packet (rounds_left state))
      (resume_auditing authority input loaded call) w := by
  cases call with
  | NotStarted =>
    rw [rounds_left_of_not_started .Auditor hphase hcall]
    simp only [resume_auditing, start_audit]
    apply runs_projection_bind h.review
    apply runs_checked_bind
    intro packet hpacket
    apply runs_checked_bind
    intro _ _
    have hrequest : role_request .Auditor state = some (audit_execution_request packet) := by
      rw [ok_or_eq_ok] at hpacket
      simp only [role_request, hpacket, Option.map_some]
    exact runs_start_call hround h hphase hrequest hcall
  | Started digest at_ => exact runs_escalate hround h .AuditorOutcomeUnknown
  | OutcomeRecorded digest at_ outcome outcome_digest recorded_at =>
    exact runs_resolve hround hevents h

/-- **The rule of a step of the loop.** -/
theorem runs_resume_step (hround : authority.serde_json.RoundTrips)
    (hevents : authority.run_event.RoundTrips) {input : ReviewAuditLoopInput}
    (hinv : ReviewInv authority controls w) (h : Follows authority w loaded state)
    (hinput : state.review_packet = input.review_packet) :
    Runs authority environment controls i (Stepped authority state.review_packet (rounds_left state))
      (resume_step authority input loaded) w := by
  unfold resume_step
  apply runs_projection_bind h.review
  split
  · next hphase => exact runs_report_pass hevents hinv h hphase
  · next hphase =>
    apply runs_checked_bind
    intro directive _
    apply runs_checked_bind
    intro _ _
    exact runs_outcome h (by simp [hphase])
  · next hphase => exact runs_outcome h (by simp [hphase])
  · next hphase => exact runs_resume_reviewing hround h hinput hphase
  · next hphase =>
    apply runs_checked_bind
    intro audit_call hcall
    rw [ok_or_eq_ok] at hcall
    exact runs_resume_auditing hround hevents h hphase hcall

/-- What the loop ends in: a true answer, or none where the rounds were too few. -/
def Answered (authority : ReviewAuthority P Q) (packet : ReviewPacketV1) (rounds left : ℕ)
    (answer : Option ReviewAuditLoopOutcome) (w : ReviewWorld ι P Q) : Prop :=
  match answer with
  | some outcome => Reports authority packet.run_id w outcome
  | none => rounds < left

/-- The loop, by induction on its rounds: each step that goes on is nearer to an answer. -/
theorem runs_drive_rounds (hround : authority.serde_json.RoundTrips)
    (hevents : authority.run_event.RoundTrips) {input : ReviewAuditLoopInput}
    (hinv : ReviewInv authority controls w) (h : Follows authority w loaded state)
    (hinput : state.review_packet = input.review_packet) :
    Runs authority environment controls i
      (Answered authority input.review_packet rounds (rounds_left state))
      (drive_rounds authority input rounds loaded) w := by
  induction rounds generalizing loaded state w with
  | zero => exact Discipline.runs_pure fun _ _ _ => rounds_left_pos state
  | succ rounds ih =>
    unfold drive_rounds
    apply Discipline.Runs.bind (runs_resume_step hround hevents hinv h hinput) hinv
    intro step t _ hinv_t hstepped
    cases step with
    | Complete outcome =>
      apply Discipline.runs_pure
      intro u hu _
      rw [hinput] at hstepped
      exact Reports.onward hstepped hu.toOnward
    | Continue next =>
      obtain ⟨state', hfollows, hpacket, hnearer⟩ := hstepped
      apply Discipline.Runs.mono ?_ (ih hinv_t hfollows (hpacket.trans hinput))
      intro answer u hanswer
      cases answer with
      | none => exact Nat.lt_of_le_of_lt (Nat.succ_le_of_lt hanswer) hnearer
      | some outcome => exact hanswer

omit [DecidableEq ι] in
/-- The run before a repair, as it was found, has directed it. -/
theorem descends_of_prior {packet : ReviewPacketV1} {prior_run_id : RunId} {row : VersionedState Q}
    {prior : LoadedReviewRun P} (hprior_run : packet.prior_run_id = some prior_run_id)
    (hrow : w.store[entity_key prior_run_id]? = some row)
    (hprior : authority.execution.decode_and_restore prior_run_id row = .ok prior)
    (h : validate_prior prior packet prior_run_id = .ok ()) :
    Descends authority w.store packet := by
  simp only [validate_prior, bind_eq_ok, ok_or_eq_ok, reject_if_eq_ok, not_or, not_not, ne_eq] at h
  obtain ⟨prior_state, hstate, directive, hdirective, hphase, hdigest, hsuccessor, hfailed, hroot,
    hgoal, htask, hcycle, hbudget⟩ := h
  obtain ⟨_, _, k, hk⟩ := decode_and_restore_eq_ok.mp hprior
  have hheader := (restore_kernel_eq_ok.mp hk).1
  refine fun _ => ⟨prior_run_id, prior_state, directive, hprior_run, ?_,
    (hheader.independent_review prior_state hstate).1, hphase, hdirective, ?_⟩
  · rw [hrow, review_of_loaded hprior, hstate]
  · exact ⟨hdigest.symm, hfailed, hsuccessor, hroot, hgoal, htask, hcycle, hbudget⟩

theorem runs_validate_repair_chain (packet : ReviewPacketV1) :
    Runs authority environment controls i (fun _ t => Descends authority t.store packet)
      (validate_repair_chain authority packet) w := by
  unfold validate_repair_chain
  by_cases hcycle : packet.candidate_cycle = 0
  · rw [if_pos hcycle]
    apply Discipline.runs_pure
    exact fun _ _ _ hnot => absurd hcycle hnot
  · rw [if_neg hcycle]
    apply runs_checked_bind
    intro prior_run_id hprior_run
    rw [ok_or_eq_ok] at hprior_run
    apply runs_load_bind
    intro t row prior ht _ hrow hprior
    apply runs_checked
    intro _ u hvalid hu
    exact (descends_of_prior hprior_run hrow hprior hvalid).onward hu.toOnward

/-- The rule of installing a review: the controller follows the one the run has. -/
theorem runs_install (hround : authority.serde_json.RoundTrips) {input : ReviewAuditLoopInput}
    (hseen : Seen authority w input.review_packet.run_id loaded)
    (hdescends : Descends authority w.store input.review_packet) :
    Runs authority environment controls i (fun result t => ∀ loaded', result = some loaded' →
      ∃ state, Follows authority t loaded' state ∧ state.review_packet = input.review_packet)
      (install authority input loaded) w := by
  unfold install
  split
  · next existing hexisting =>
    apply runs_checked_bind
    intro _ hpacket
    rw [reject_if_eq_ok, ne_eq, not_not] at hpacket
    apply Discipline.runs_pure
    intro t ht _ loaded' hloaded'
    rw [← Option.some.inj hloaded']
    refine ⟨existing, ⟨?_, hexisting⟩, hpacket⟩
    rw [hpacket]
    exact hseen.onward ht.toOnward
  · next hnone =>
    apply runs_now_bind
    intro at_ t ht _
    apply runs_checked_bind
    intro initial hinitial
    simp only [of_state, mapError_eq_ok] at hinitial
    obtain ⟨hpacket, hphase, hnothing⟩ := initial_eq_ok hinitial
    apply runs_replace_bind hround (hseen.onward ht.toOnward) hnone
    · intro u event hu _
      refine ⟨?_, ?_, ?_⟩
      · rintro (⟨role, _, hstarted⟩ | ⟨_, hpassed⟩)
        · have hnot : started role (some initial) = none := (hnothing role).1
          rw [hnot] at hstarted
          cases hstarted
        · simp [passed, hphase] at hpassed
      · intro role outcome _ hrecorded
        have hnot : recorded role (some initial) = none := (hnothing role).2
        rw [hnot] at hrecorded
        cases hrecorded
      · intro _ state hstate
        rw [← Option.some.inj hstate, hpacket]
        exact hdescends.onward (ht.trans hu).toOnward
    · intro u outcome _ _ hreplaced
      apply Discipline.runs_pure
      intro v hv _ loaded' hloaded'
      have hreplaced' := hreplaced loaded' hloaded'
      rw [← hpacket] at hreplaced'
      exact ⟨initial, hreplaced'.follows.onward hv.toOnward, hpacket⟩

/-- **The rule of `drive`**, from any world. -/
theorem runs_drive (hround : authority.serde_json.RoundTrips)
    (hevents : authority.run_event.RoundTrips) (rounds : ℕ) (input : ReviewAuditLoopInput) :
    Runs authority environment controls i (Answered authority input.review_packet rounds 4)
      (drive authority rounds input) w := by
  unfold drive
  apply runs_checked_bind
  intro _ _
  apply runs_load_bind
  intro t row loaded _ hinv hrow hloaded
  apply runs_checked_bind
  intro _ _
  have hseen : Seen authority t input.review_packet.run_id loaded :=
    ⟨row, by rw [hrow], hloaded⟩
  apply Discipline.Runs.bind (runs_validate_repair_chain input.review_packet) hinv
  intro _ u hon hinv_u hdescends
  apply Discipline.Runs.bind (runs_install hround (hseen.onward hon) hdescends) hinv_u
  intro installed v _ hinv_v hinstalled
  cases installed with
  | none => exact Discipline.runs_pure fun _ _ _ => trivial
  | some loaded' =>
    obtain ⟨state, hfollows, hpacket⟩ := hinstalled loaded' rfl
    apply Discipline.Runs.mono ?_ (runs_drive_rounds hround hevents hinv_v hfollows hpacket)
    intro answer x hanswer
    cases answer with
    | none => exact Nat.lt_of_lt_of_le hanswer (rounds_left_le state)
    | some outcome => exact hanswer

end Steps

end ReviewWorld

end OvcaCore

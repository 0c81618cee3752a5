/-
The world that controllers of reviews share, and what may happen to it.

Its parts are the table of runs, the evidence store with its lease, and the log. Any number
of callers act on it: controllers that drive a candidate, other writers of the runs, of the
evidence and of the log. The trace has what they did: the writes of runs, the invocations of
the executor and the events appended by controllers, each with the evidence and the holder
of the lease at that time.

A row of the table only goes on by the rules of the durable authority (`RowStep`); all that
a caller relies on about the rows is that.
-/
import OvcaCore.ExecutionHistory
import OvcaCore.ReviewAuditLoop
import OvcaCore.ReviewDiscipline

set_option autoImplicit false

namespace OvcaCore

open OvcaCore.Checks OvcaCore.Interleaving EngineerVerifier DurableExecutionAuthority Relation

/-! ## Steps of a projection -/

section Steps

variable {E S X : Type}

/-- A write of a run keeps a projection, or writes a state that its rules admit. -/
inductive ProjectionStep (rules : ProjectionRules E S X) (before after : Option S) : Prop where
  | kept (same : after = before)
  | written (next : S) (stored : after = some next) (admits : Admits rules before next)

end Steps

section Reviews

variable {P : Type} {sha256 : IndependentReviewDigests P}
  {before after later : Option IndependentReviewStateV1}

/-- A review that is there stays, further on; one that is over stays as it is. -/
def ReviewLater (before after : Option IndependentReviewStateV1) : Prop :=
  ∀ state, before = some state → ∃ state', after = some state' ∧ state.Keeps state' ∧
    (state.phase.is_terminal = true → state' = state)

theorem ReviewLater.refl (review : Option IndependentReviewStateV1) :
    ReviewLater review review :=
  fun state h => ⟨state, h, .refl state, fun _ => rfl⟩

theorem ReviewLater.trans (h : ReviewLater before after) (h' : ReviewLater after later) :
    ReviewLater before later := by
  intro state hstate
  obtain ⟨state', hstate', hkeeps, hterminal⟩ := h state hstate
  obtain ⟨state'', hstate'', hkeeps', hterminal'⟩ := h' state' hstate'
  refine ⟨state'', hstate'', hkeeps.trans hkeeps', fun hover => ?_⟩
  obtain rfl := hterminal hover
  exact hterminal' hover

theorem reviewLater_of_step
    (h : ProjectionStep (independent_review_rules sha256) before after) :
    ReviewLater before after := by
  intro state hstate
  cases h with
  | kept same => exact ⟨state, same.trans hstate, .refl state, fun _ => rfl⟩
  | written next stored admits =>
    rw [hstate] at admits
    have hsuccessor : state.validate_successor sha256 next = .ok () := admits
    have hsucceeds := IndependentReviewStateV1.validate_successor_eq_ok hsuccessor
    refine ⟨next, stored, hsucceeds.keeps, fun hover => ?_⟩
    rw [hsucceeds.not_terminal] at hover
    cases hover

end Reviews

section Issue6

variable {P : Type} [DecidableEq P] {codec : EngineerVerifierCodec P}
  {before after later : Option (EngineerVerifierStateV1 P)}

/-- The run of an engineer that is being reviewed stays at the event it has acknowledged. -/
def Issue6Later (before after : Option (EngineerVerifierStateV1 P)) : Prop :=
  ∀ state, before = some state → state.phase = .Reviewing → state.pending_projection = none →
    ∃ state', after = some state' ∧ state'.phase = .Reviewing ∧
      state'.pending_projection = none ∧ state'.projected_sequence = state.projected_sequence

omit [DecidableEq P] in
theorem Issue6Later.refl (issue6 : Option (EngineerVerifierStateV1 P)) :
    Issue6Later issue6 issue6 :=
  fun state h hphase hpending => ⟨state, h, hphase, hpending, rfl⟩

omit [DecidableEq P] in
theorem Issue6Later.trans (h : Issue6Later before after) (h' : Issue6Later after later) :
    Issue6Later before later := by
  intro state hstate hphase hpending
  obtain ⟨state', hstate', hphase', hpending', hsequence⟩ := h state hstate hphase hpending
  obtain ⟨state'', hstate'', hphase'', hpending'', hsequence'⟩ :=
    h' state' hstate' hphase' hpending'
  exact ⟨state'', hstate'', hphase'', hpending'', hsequence'.trans hsequence⟩

theorem issue6Later_of_step
    (h : ProjectionStep (EngineerVerifierLoop.engineer_verifier_rules codec) before after) :
    Issue6Later before after := by
  intro state hstate hphase hpending
  cases h with
  | kept same => exact ⟨state, same.trans hstate, hphase, hpending, rfl⟩
  | written next stored admits =>
    rw [hstate] at admits
    have hsuccessor : state.validate_successor codec next = .ok () := admits
    -- without a pending event the successor is checked against its phase
    simp only [EngineerVerifierStateV1.validate_successor, hpending, bind_eq_ok, exists_and_right,
      exists_unit_eq_ok, reject_if_eq_ok, exists_const] at hsuccessor
    obtain ⟨_, _, _, hmoved, _⟩ := hsuccessor
    unfold EngineerVerifierStateV1.validate_phase_successor at hmoved
    by_cases hsame : state.phase = next.phase
    · rw [if_neg (not_not.mpr hsame), reject_if_eq_ok] at hmoved
      push Not at hmoved
      exact ⟨next, stored, hsame ▸ hphase, hmoved.2.1, hmoved.2.2.1.symm⟩
    · rw [if_pos hsame, hphase] at hmoved
      simp [EngineerVerifierPhaseV1.is_terminal] at hmoved

end Issue6

/-! ## Rows -/

section Envelopes

variable {P Q : Type} {authority : ReviewAuthority P Q}

/-- The envelope in a row, if there is one that can be read. -/
def envelope_of (authority : ReviewAuthority P Q) (row : Option (VersionedState Q)) :
    Option (ExecutionRunEnvelope (EngineerVerifierStateV1 P) IndependentReviewStateV1) :=
  row.bind fun state => (authority.serde_json.from_slice state.payload).toOption

def review_of (authority : ReviewAuthority P Q) (row : Option (VersionedState Q)) :
    Option IndependentReviewStateV1 :=
  (envelope_of authority row).bind ExecutionRunEnvelope.independent_review

def issue6_of (authority : ReviewAuthority P Q) (row : Option (VersionedState Q)) :
    Option (EngineerVerifierStateV1 P) :=
  (envelope_of authority row).bind ExecutionRunEnvelope.engineer_verifier

theorem envelope_of_read {state : VersionedState Q}
    {envelope : ExecutionRunEnvelope (EngineerVerifierStateV1 P) IndependentReviewStateV1}
    (h : authority.serde_json.from_slice state.payload = .ok envelope) :
    envelope_of authority (some state) = some envelope := by
  simp only [envelope_of, Option.bind_some, h]
  rfl

theorem review_of_read {state : VersionedState Q}
    {envelope : ExecutionRunEnvelope (EngineerVerifierStateV1 P) IndependentReviewStateV1}
    (h : authority.serde_json.from_slice state.payload = .ok envelope) :
    review_of authority (some state) = envelope.independent_review := by
  simp only [review_of, envelope_of_read h, Option.bind_some]

theorem issue6_of_read {state : VersionedState Q}
    {envelope : ExecutionRunEnvelope (EngineerVerifierStateV1 P) IndependentReviewStateV1}
    (h : authority.serde_json.from_slice state.payload = .ok envelope) :
    issue6_of authority (some state) = envelope.engineer_verifier := by
  simp only [issue6_of, envelope_of_read h, Option.bind_some]

end Envelopes

section Rows

variable {P Q : Type} [DecidableEq P] {authority : ReviewAuthority P Q}

/-- What a write does to the projections of an envelope. -/
structure EnvelopeStep (authority : ReviewAuthority P Q)
    (before after : ExecutionRunEnvelope (EngineerVerifierStateV1 P) IndependentReviewStateV1) :
    Prop where
  review : ProjectionStep (independent_review_rules authority.sha256) before.independent_review
    after.independent_review
  issue6 : ProjectionStep (EngineerVerifierLoop.engineer_verifier_rules authority.codec)
    before.engineer_verifier after.engineer_verifier

/-- A write of a row: the first, without projections, or the next. -/
inductive RowStep (authority : ReviewAuthority P Q) :
    Option (VersionedState Q) → Option (VersionedState Q) → Prop where
  | first (state : VersionedState Q)
      (envelope : ExecutionRunEnvelope (EngineerVerifierStateV1 P) IndependentReviewStateV1)
      (read : authority.serde_json.from_slice state.payload = .ok envelope)
      (review : envelope.independent_review = none) (issue6 : envelope.engineer_verifier = none) :
      RowStep authority none (some state)
  | next (state state' : VersionedState Q)
      (envelope envelope' :
        ExecutionRunEnvelope (EngineerVerifierStateV1 P) IndependentReviewStateV1)
      (revision : state'.revision = state.revision + 1)
      (read : authority.serde_json.from_slice state.payload = .ok envelope)
      (read' : authority.serde_json.from_slice state'.payload = .ok envelope')
      (step : EnvelopeStep authority envelope envelope') :
      RowStep authority (some state) (some state')

/-- A row later on. -/
abbrev RowLater (authority : ReviewAuthority P Q) :
    Option (VersionedState Q) → Option (VersionedState Q) → Prop :=
  ReflTransGen (RowStep authority)

/-- The revision of a row only grows, and names the row. -/
theorem RowLater.revision {state : VersionedState Q} {row : Option (VersionedState Q)}
    (h : RowLater authority (some state) row) :
    ∃ state', row = some state' ∧ state.revision ≤ state'.revision ∧
      (state'.revision = state.revision → state' = state) := by
  induction h with
  | refl => exact ⟨state, rfl, le_rfl, fun _ => rfl⟩
  | tail _ hstep ih =>
    obtain ⟨state', rfl, hle, _⟩ := ih
    cases hstep with
    | next _ state'' envelope envelope' revision read read' step =>
      refine ⟨state'', rfl, by omega, fun hsame => ?_⟩
      omega

/-- A row that is found again at its revision is the same. -/
theorem RowLater.same {state state' : VersionedState Q} {row : Option (VersionedState Q)}
    (h : RowLater authority (some state) row) (hrow : row = some state')
    (hrevision : state'.revision = state.revision) : state' = state := by
  obtain ⟨_, hrow', _, hsame⟩ := h.revision
  rw [hrow, Option.some.injEq] at hrow'
  rw [hrow'] at hrevision ⊢
  exact hsame hrevision

theorem reviewLater_of_rowStep {before after : Option (VersionedState Q)}
    (h : RowStep authority before after) :
    ReviewLater (review_of authority before) (review_of authority after) := by
  cases h with
  | first state envelope read review issue6 =>
    intro state hstate
    cases hstate
  | next state state' envelope envelope' revision read read' step =>
    rw [review_of_read read, review_of_read read']
    exact reviewLater_of_step step.review

theorem RowLater.review {before after : Option (VersionedState Q)}
    (h : RowLater authority before after) :
    ReviewLater (review_of authority before) (review_of authority after) := by
  induction h with
  | refl => exact .refl _
  | tail _ hstep ih => exact ih.trans (reviewLater_of_rowStep hstep)

theorem RowLater.issue6 {before after : Option (VersionedState Q)}
    (h : RowLater authority before after) :
    Issue6Later (issue6_of authority before) (issue6_of authority after) := by
  induction h with
  | refl => exact .refl _
  | tail _ hstep ih =>
    refine ih.trans ?_
    cases hstep with
    | first state envelope read review issue6 =>
      intro state hstate
      cases hstate
    | next state state' envelope envelope' revision read read' step =>
      rw [issue6_of_read read, issue6_of_read read']
      exact issue6Later_of_step step.issue6

end Rows

/-! ## The calls of the two roles -/

/-- Who judges a candidate. -/
inductive JudgeRole where
  | Reviewer
  | Auditor
  deriving DecidableEq, Repr

namespace IndependentRoleExecutionRequest

/-- The role that a request is for. -/
def role (request : IndependentRoleExecutionRequest) : JudgeRole :=
  match request.packet with
  | .Review _ => .Reviewer
  | .Audit _ => .Auditor

/-- The run whose candidate a request is about. -/
def run_id (request : IndependentRoleExecutionRequest) : RunId :=
  match request.packet with
  | .Review packet => packet.run_id
  | .Audit packet => packet.review_packet.run_id

end IndependentRoleExecutionRequest

/-- The request that a call has been started with, if it has. -/
def started_call (request : IndependentRoleExecutionRequest) (call : IndependentCallStateV1) :
    Option IndependentRoleExecutionRequest :=
  match call with
  | .NotStarted => none
  | .Started _ _ | .OutcomeRecorded _ _ _ _ _ => some request

/-- The outcome that a call has recorded, if it has. -/
def recorded_call : IndependentCallStateV1 → Option PersistedRoleExecutionOutcomeV1
  | .NotStarted | .Started _ _ => none
  | .OutcomeRecorded _ _ outcome _ _ => some outcome

/-- The request of a role, where the state has its packet. -/
def role_request (role : JudgeRole) (state : IndependentReviewStateV1) :
    Option IndependentRoleExecutionRequest :=
  match role with
  | .Reviewer => some (review_execution_request state.review_packet)
  | .Auditor => state.audit_packet.map audit_execution_request

def role_call (role : JudgeRole) (state : IndependentReviewStateV1) :
    Option IndependentCallStateV1 :=
  match role with
  | .Reviewer => some state.review_call
  | .Auditor => state.audit_call

/-- The request of a role that a state has been started with. -/
def started_request (role : JudgeRole) (state : IndependentReviewStateV1) :
    Option IndependentRoleExecutionRequest :=
  (role_request role state).bind fun request => (role_call role state).bind (started_call request)

/-- The outcome of a role that a state has. -/
def recorded_outcome (role : JudgeRole) (state : IndependentReviewStateV1) :
    Option PersistedRoleExecutionOutcomeV1 :=
  (role_call role state).bind recorded_call

theorem started_call_keeps {request : IndependentRoleExecutionRequest}
    {before after : IndependentCallStateV1} (h : before.Keeps after)
    {started : IndependentRoleExecutionRequest} (hstarted : started_call request before = some started) :
    started_call request after = some started := by
  have hrank := h.rank
  cases before <;> cases after <;> simp [started_call, IndependentCallStateV1.rank] at *
  all_goals exact hstarted

theorem role_request_keeps {role : JudgeRole} {before after : IndependentReviewStateV1}
    (h : before.Keeps after) {request : IndependentRoleExecutionRequest}
    (hrequest : role_request role before = some request) :
    role_request role after = some request := by
  cases role with
  | Reviewer =>
    rw [← hrequest]
    simp only [role_request, h.review_packet]
  | Auditor =>
    obtain ⟨packet, hpacket, rfl⟩ := Option.map_eq_some_iff.mp hrequest
    exact Option.map_eq_some_iff.mpr ⟨packet, h.audit_packet packet hpacket, rfl⟩

theorem role_call_keeps {role : JudgeRole} {before after : IndependentReviewStateV1}
    (h : before.Keeps after) {call : IndependentCallStateV1}
    (hcall : role_call role before = some call) :
    ∃ call', role_call role after = some call' ∧ call.Keeps call' := by
  cases role with
  | Reviewer =>
    rw [← Option.some.inj hcall]
    exact ⟨after.review_call, rfl, h.review_call⟩
  | Auditor => exact h.audit_call call hcall

/-- What has been started stays so. -/
theorem started_request_keeps {role : JudgeRole} {before after : IndependentReviewStateV1}
    (h : before.Keeps after) {request : IndependentRoleExecutionRequest}
    (hstarted : started_request role before = some request) :
    started_request role after = some request := by
  simp only [started_request, Option.bind_eq_some_iff] at hstarted ⊢
  obtain ⟨packet_request, hrequest, call, hcall, hstarted⟩ := hstarted
  obtain ⟨call', hcall', hkeeps⟩ := role_call_keeps h hcall
  exact ⟨packet_request, role_request_keeps h hrequest, call', hcall',
    started_call_keeps hkeeps hstarted⟩

/-! ## The world -/

/-- What a caller has done; an invocation comes with what the executor has answered. -/
inductive ReviewEvent (Q : Type) where
  | committed (entity_key : String) (before : Option (VersionedState Q)) (after : VersionedState Q)
  | invoked (request : IndependentRoleExecutionRequest)
      (answer : Option PersistedRoleExecutionOutcomeV1)
  | appended (event : RunEvent)

/-- An event, with the evidence and the holder of the lease at its time. -/
structure ReviewEntry (ι Q : Type) where
  caller : ι
  event : ReviewEvent Q
  lease : Option ι
  evidence : LocalVerificationStore

structure ReviewWorld (ι P Q : Type) where
  store : VersionedStateStore Q
  evidence : LocalVerificationStore
  lease : Option ι
  rows : List P
  ticks : ℕ
  trace : List (ReviewEntry ι Q)

/-- What the surroundings answer, at each tick of the world: the clock, the executor, and the
database of the evidence where it fails. -/
structure ReviewEnvironment where
  now : ℕ → DateTime
  invoke : ℕ → IndependentRoleExecutionRequest → Option PersistedRoleExecutionOutcomeV1
  begin_fails : ℕ → Option LocalVerificationStoreError
  commit_fails : ℕ → Option LocalVerificationStoreError
  busy : LocalVerificationStoreError

namespace ReviewWorld

section World

variable {ι P Q : Type} [DecidableEq ι]

def tick (w : ReviewWorld ι P Q) : ReviewWorld ι P Q := { w with ticks := w.ticks + 1 }

/-- The world with another event of a caller. -/
def record (w : ReviewWorld ι P Q) (i : ι) (event : ReviewEvent Q) : ReviewWorld ι P Q :=
  { w with trace := w.trace ++ [⟨i, event, w.lease, w.evidence⟩] }

/-- The world after a caller has written a row. -/
def commit (w : ReviewWorld ι P Q) (i : ι) (entity_key : String) (state : VersionedState Q) :
    ReviewWorld ι P Q :=
  { w.record i (.committed entity_key w.store[entity_key]? state) with
    store := w.store.insert entity_key state }

/-- The world after the commits that an operation on the table has made. -/
def commit_all (w : ReviewWorld ι P Q) (i : ι) (written : List (String × VersionedState Q)) :
    ReviewWorld ι P Q :=
  written.foldl (fun w row => w.commit i row.1 row.2) w

/-- The lease is given back, if the caller has it. -/
def release (i : ι) (w : ReviewWorld ι P Q) : ReviewWorld ι P Q :=
  if w.lease = some i then { w with lease := none } else w

/-- Taking the lease fails while somebody has it. -/
def begin_lease (codec : StoreCodec) (environment : ReviewEnvironment) (i : ι)
    (keys : List EvidenceKey) (w : ReviewWorld ι P Q) :
    LocalVerificationStoreResult CompletionAdmissionSnapshot × ReviewWorld ι P Q :=
  if w.lease.isSome then (.error environment.busy, w)
  else match environment.begin_fails w.ticks with
    | some e => (.error e, w)
    | none =>
      match w.evidence.completion_admission_snapshot codec keys with
      | .error e => (.error e, w)
      | .ok snapshot => (.ok snapshot, { w with lease := some i })

/-- The lease reserves the evidence store against other writers. -/
def write_evidence (codec : StoreCodec) (environment : ReviewEnvironment)
    (operation : StoreOperation) (w : ReviewWorld ι P Q) :
    LocalVerificationStoreResult StoreAnswer × ReviewWorld ι P Q :=
  if w.lease.isSome then (.error environment.busy, w)
  else
    let done := operation.exec codec w.evidence
    (done.1, { w with evidence := done.2 })

def append (log : RunEventLog P) (i : ι) (event : RunEvent) (w : ReviewWorld ι P Q) :
    Except RunEventLogError Unit × ReviewWorld ι P Q :=
  match log.append w.rows event with
  | .error e => (.error e, w)
  | .ok rows => (.ok (), { w.record i (.appended event) with rows := rows })

/-- An operation of a caller: its answer, and the world after it. -/
def perform (authority : ReviewAuthority P Q) (environment : ReviewEnvironment) (i : ι) :
    (o : ReviewAuditOp Q) → ReviewWorld ι P Q → o.Answer P × ReviewWorld ι P Q
  | .now, w => (environment.now w.ticks, w.tick)
  | .store o, w =>
    let done := o.perform w.store
    (done.1, { w.tick.commit_all i (o.written done.1) with store := done.2 })
  | .begin_lease keys, w =>
    let done := w.begin_lease authority.evidence environment i keys
    (done.1, done.2.tick)
  | .end_lease, w =>
    (match environment.commit_fails w.ticks with
      | some e => .error e
      | none => .ok (), (w.release i).tick)
  | .invoke request, w =>
    let answer := environment.invoke w.ticks request
    (answer, (w.record i (.invoked request answer)).tick)
  | .read_log, w => (w.rows, w.tick)
  | .append event, w =>
    let done := w.append authority.log i event
    (done.1, done.2.tick)
  | .evidence operation, w =>
    let done := w.write_evidence authority.evidence environment operation
    (done.1, done.2.tick)

variable (authority : ReviewAuthority P Q) (environment : ReviewEnvironment) (i : ι)

theorem perform_load (w : ReviewWorld ι P Q) (entity_key : String) :
    perform authority environment i (.store (.load entity_key)) w =
      (w.store[entity_key]?, w.tick) := rfl

theorem perform_initialize (w : ReviewWorld ι P Q) (entity_key : String) (payload : Q) :
    (∃ state, w.store[entity_key]? = some state ∧
      perform authority environment i (.store (.initialize_entity entity_key payload)) w =
        (.Existing state, w.tick)) ∨
    (w.store[entity_key]? = none ∧
      perform authority environment i (.store (.initialize_entity entity_key payload)) w =
        (.Initialized ⟨payload, 0⟩, w.tick.commit i entity_key ⟨payload, 0⟩)) := by
  cases hrow : w.store[entity_key]? with
  | some state =>
    have hperform : (StoreOp.initialize_entity entity_key payload).perform w.store = _ :=
      VersionedStateStore.initialize_entity_of_some hrow payload
    refine Or.inl ⟨state, rfl, ?_⟩
    simp only [perform, hperform]
    rfl
  | none =>
    have hperform : (StoreOp.initialize_entity entity_key payload).perform w.store = _ :=
      VersionedStateStore.initialize_entity_of_none hrow payload
    refine Or.inr ⟨rfl, ?_⟩
    simp only [perform, hperform]
    rfl

/-- A compare-and-swap fails, finds the row at another revision, or writes the next one. -/
theorem perform_compare_and_swap (w : ReviewWorld ι P Q) (entity_key : String)
    (expected_revision : ℕ) (payload : Q) :
    (∃ answer, (∀ state, answer ≠ .ok (.Applied state)) ∧
      perform authority environment i
          (.store (.compare_and_swap entity_key expected_revision payload)) w =
        (answer, w.tick) ∧
      ∀ current, answer = .ok (.Conflict current) → w.store[entity_key]? = some current) ∨
    (∃ current, w.store[entity_key]? = some current ∧ current.revision = expected_revision ∧
      perform authority environment i
          (.store (.compare_and_swap entity_key expected_revision payload)) w =
        (.ok (.Applied ⟨payload, expected_revision + 1⟩),
          w.tick.commit i entity_key ⟨payload, expected_revision + 1⟩)) := by
  rcases VersionedStateStore.compare_and_swap_cases w.store entity_key expected_revision payload with
    ⟨e, h⟩ | ⟨current, hcurrent, h⟩ | ⟨current, hcurrent, hrevision, _, h⟩
  · have hperform : (StoreOp.compare_and_swap entity_key expected_revision payload).perform
        w.store = _ := h
    refine Or.inl ⟨.error e, fun state hstate => ?_, ?_, fun current hcurrent => ?_⟩
    · cases hstate
    · simp only [perform, hperform]
      rfl
    · cases hcurrent
  · have hperform : (StoreOp.compare_and_swap entity_key expected_revision payload).perform
        w.store = _ := h
    refine Or.inl ⟨.ok (.Conflict current), fun state hstate => ?_, ?_, fun other hother => ?_⟩
    · cases hstate
    · simp only [perform, hperform]
      rfl
    · cases hother
      exact hcurrent
  · have hperform : (StoreOp.compare_and_swap entity_key expected_revision payload).perform
        w.store = _ := h
    refine Or.inr ⟨current, hcurrent, hrevision, ?_⟩
    simp only [perform, hperform]
    rfl

end World

end ReviewWorld

end OvcaCore

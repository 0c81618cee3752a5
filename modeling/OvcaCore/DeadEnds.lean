/-
Where a chain of engineer-verifier states can go.

Every accepted state that is not terminal has a way into a terminal phase: its pending event is
acknowledged, and then it is cancelled, which asks nothing of the state but its validity. A
planned state has no other way. It has no workspace, an engineering state has one, and an
accepted successor neither brings nor removes a workspace.
-/
import OvcaCore.PhaseDiscipline
import OvcaCore.VerificationDigest
import Mathlib.Logic.Equiv.List
import Mathlib.Tactic.DeriveEncodable

set_option autoImplicit false

namespace OvcaCore

open OvcaCore.Checks OvcaCore.Chains EngineerVerifier EngineerVerifierLoop Relation

/-- The digests are digests, and what is written can be read back. -/
structure EngineerVerifierCodec.Lawful {P : Type} (codec : EngineerVerifierCodec P) : Prop where
  state : ∀ input, validate_sha256_digest (codec.sha256.state input) = true
  result : ∀ result, validate_sha256_digest (codec.sha256.result result) = true
  bytes : ∀ bytes, validate_sha256_digest (codec.sha256.bytes bytes) = true
  phase_event : ∀ input, validate_sha256_digest (codec.sha256.phase_event input) = true
  run_event_total : codec.run_event.Total
  run_event_round_trips : codec.run_event.RoundTrips
  phase_projection_total : codec.phase_projection.Total
  phase_projection_round_trips : codec.phase_projection.RoundTrips

/-- A prefix and a digest are an identifier. -/
theorem validate_event_id {digest : String} (h : validate_sha256_digest digest = true) :
    validate_stable_id ("event." ++ digest) = true := by
  have hlength := length_of_digest h
  have hhead : as_bytes "event." = [101, 118, 101, 110, 116, 46] := by decide
  have hbytes : as_bytes ("event." ++ digest)
      = 101 :: ([118, 101, 110, 116, 46] ++ as_bytes digest) := by
    rw [as_bytes_append, hhead]
    rfl
  unfold validate_stable_id
  rw [hbytes]
  simp only [Bool.and_eq_true, decide_eq_true_eq, List.all_append, List.length_cons,
    List.length_append, List.length_nil]
  refine ⟨⟨by omega, by decide⟩, by decide, List.all_eq_true.mpr fun byte hbyte => ?_⟩
  rw [is_ascii_alphanumeric_of_digest h hbyte, Bool.true_or]

namespace EngineerVerifierStateV1

section Chains

variable {P : Type} [DecidableEq P] (codec : EngineerVerifierCodec P)

/-- A state can be reached from another one by accepted successors. -/
def Reaches (state target : EngineerVerifierStateV1 P) : Prop :=
  ReflTransGen (fun state next => state.validate_successor codec next = .ok ()) state target

/-- A state is in the phase of engineering, with an open workspace. -/
def OpenEngineering (state : EngineerVerifierStateV1 P) : Prop :=
  state.phase = .Engineering ∧ ∃ workspace, state.workspace = some workspace
    ∧ workspace.closed = false

/-- What a state that is no dead end can reach. -/
structure NoDeadEnd (state : EngineerVerifierStateV1 P) : Prop where
  terminal : state.phase.is_terminal = false →
    ∃ target, Reaches codec state target ∧ target.phase.is_terminal = true
  engineering : state.phase = .Planned →
    ∃ target, Reaches codec state target ∧ target.OpenEngineering

/-! ## Cancelling -/

variable {codec} {state next : EngineerVerifierStateV1 P}

omit [DecidableEq P] in
theorem validate_pending_eq_ok {sha256 : EngineerVerifierDigests P}
    {pending : PendingPhaseProjectionV1 P} :
    pending.validate sha256 = .ok () ↔ validate_stable_id pending.event_id = true
      ∧ (∀ previous, pending.previous_event_id = some previous → validate_stable_id previous = true)
      ∧ decide (pending.sequence = 0) = pending.previous_event_id.isNone
      ∧ sha256.bytes pending.event_bytes = pending.event_digest
      ∧ validate_sha256_digest pending.event_digest = true := by
  simp only [PendingPhaseProjectionV1.validate, validate_digest, bind_eq_ok, reject_if_eq_ok,
    check_some_eq_ok, exists_const, not_or, ne_eq, not_not, and_assoc]

omit [DecidableEq P] in
theorem validate_projections_eq_ok {sha256 : EngineerVerifierDigests P} :
    state.validate_projections sha256 = .ok ()
      ↔ (∀ cancellation, state.cancellation = some cancellation → cancellation.validate = .ok ())
        ∧ (∀ pending, state.pending_projection = some pending → pending.validate sha256 = .ok ())
        ∧ state.projected_sequence.isSome = state.projected_event_id.isSome
        ∧ ∀ id, state.projected_event_id = some id → validate_stable_id id = true := by
  simp only [validate_projections, bind_eq_ok, reject_if_eq_ok, check_some_eq_ok, exists_const,
    ne_eq, not_not]

/-- The parts of a state that a cancellation and an acknowledgement leave as they are. -/
structure SameWork (state next : EngineerVerifierStateV1 P) : Prop where
  contract_version : next.contract_version = state.contract_version
  run_id : next.run_id = state.run_id
  goal_id : next.goal_id = state.goal_id
  task_id : next.task_id = state.task_id
  plan : next.plan = state.plan
  attempt : next.attempt = state.attempt
  execution_binding : next.execution_binding = state.execution_binding
  executor : next.executor = state.executor
  workspace : next.workspace = state.workspace
  ledger : next.ledger = state.ledger
  prepared_write : next.prepared_write = state.prepared_write
  tool_observations : next.tool_observations = state.tool_observations
  write_reconciliation : next.write_reconciliation = state.write_reconciliation
  engineer_result : next.engineer_result = state.engineer_result
  engineer_result_digest : next.engineer_result_digest = state.engineer_result_digest
  workspace_bridge : next.workspace_bridge = state.workspace_bridge
  cancellation : next.cancellation = state.cancellation
  verifier_replay_plan : next.verifier_replay_plan = state.verifier_replay_plan
  verifier : next.verifier = state.verifier
  controller_time : next.controller_time = state.controller_time

/-- What is left to check of a state with the work of a valid one. -/
theorem validate_of_sameWork {sha256 : EngineerVerifierDigests P} (hwork : state.SameWork next)
    (h : state.validate sha256 = .ok ()) (hprojections : next.validate_projections sha256 = .ok ())
    (hphase : next.phase_consistent = true)
    (hdigest : validate_sha256_digest next.state_digest = true)
    (hcomputed : next.computed_state_digest sha256 = next.state_digest) :
    next.validate sha256 = .ok () := by
  obtain ⟨hversion, hrun, hgoal, htask, hplan, hattempt, hbinding, hexecutor, hworkspace, hledger,
    hprepared, hobservations, hreconciliation, hresult, hresult_digest, hbridge, _, hreplay,
    hverifier, htime⟩ := hwork
  simp only [validate, bind_eq_ok, reject_if_eq_ok, exists_const, exists_and_right,
    exists_unit_eq_ok, ne_eq, not_not] at h
  obtain ⟨h₁, h₂, h₃, h₄, h₅, h₆, h₇, h₈, h₉, h₁₀, h₁₁, h₁₂, _, h₁₃, _⟩ := h
  simp only [validate, validate_digest, bind_eq_ok, reject_if_eq_ok, exists_const,
    exists_and_right, exists_unit_eq_ok, ne_eq, not_not]
  -- every part of the validation but the last ones reads fields that are the same
  refine ⟨?_, ?_, ?_, ?_, ?_, ?_, ?_, ?_, ?_, ?_, ?_, ?_, hprojections, ?_, hphase, hdigest,
    hcomputed⟩
  · rw [hversion]
    exact h₁
  · rw [hplan]
    exact h₂
  · rw [hbinding]
    exact h₃
  · rw [hledger, hplan]
    exact h₄
  · unfold validate_identity
    rw [hrun, hgoal, htask, hplan, hattempt, hbinding, hledger, htime]
    exact h₅
  · rw [hexecutor, hbinding, hplan]
    exact h₆
  · unfold validate_workspace
    rw [hworkspace, hattempt, hplan]
    exact h₇
  · unfold validate_prepared
    rw [hprepared, hplan, hattempt, hworkspace, hledger]
    exact h₈
  · unfold validate_observations
    rw [hobservations, hledger]
    exact h₉
  · unfold validate_reconciliation
    rw [hreconciliation, hledger]
    exact h₁₀
  · unfold validate_result
    rw [hresult, hresult_digest, hplan, hattempt]
    exact h₁₁
  · unfold validate_bridge
    rw [hbridge, hrun, hgoal, htask, hattempt, hresult_digest]
    exact h₁₂
  · unfold validate_verifier
    rw [hreplay, hverifier]
    exact h₁₃

theorem digest_valid {sha256 : EngineerVerifierDigests P} (h : state.validate sha256 = .ok ()) :
    validate_sha256_digest state.state_digest = true := by
  simp only [validate, validate_digest, bind_eq_ok, reject_if_eq_ok, exists_const,
    exists_and_right, exists_unit_eq_ok, ne_eq, not_not] at h
  obtain ⟨_, _, _, _, _, _, _, _, _, _, _, _, _, _, _, hdigest, _⟩ := h
  exact hdigest

/-- A state with its pending event acknowledged is the successor of the state. -/
theorem acknowledged_accepted {pending : PendingPhaseProjectionV1 P}
    (h : state.validate codec.sha256 = .ok ()) (hpending : state.pending_projection = some pending) :
    state.validate_successor codec (state.acknowledged pending) = .ok () := by
  have hvalid := validate_eq_ok h
  obtain ⟨hcancellation, hpendings, hcursor, hids⟩ :=
    validate_projections_eq_ok.mp hvalid.projections
  have hid := (validate_pending_eq_ok.mp (hpendings pending hpending)).1
  have hprojections : (state.acknowledged pending).validate_projections codec.sha256 = .ok () := by
    refine validate_projections_eq_ok.mpr ⟨hcancellation, nofun, rfl, fun id heq => ?_⟩
    rw [← Option.some.inj heq]
    exact hid
  have hwork : state.SameWork (state.acknowledged pending) := by
    constructor <;> rfl
  -- neither the phase table nor the digest looks at the projected event
  have hphase : (state.acknowledged pending).phase_consistent = state.phase_consistent := by
    cases state
    rfl
  have hcomputed : (state.acknowledged pending).computed_state_digest codec.sha256
      = state.computed_state_digest codec.sha256 := by
    cases state
    rfl
  have hdigest : (state.acknowledged pending).state_digest = state.state_digest := rfl
  have hnext : (state.acknowledged pending).validate codec.sha256 = .ok () := by
    apply validate_of_sameWork hwork h hprojections (hphase.trans hvalid.phase)
    · rw [hdigest]
      exact digest_valid h
    · rw [hcomputed, hdigest]
      exact hvalid.state_digest
  unfold validate_successor
  simp only [h, hnext, ok_bind]
  rw [reject_if_of_not (by simp [acknowledged]), ok_bind, hpending]
  exact reject_if_of_not (not_not.mpr rfl)

/-- The state in the phase `Cancelled`, before its event is attached. -/
def moved_to_cancelled (sha256 : EngineerVerifierDigests P) (state : EngineerVerifierStateV1 P) :
    EngineerVerifierStateV1 P :=
  let moved := { state with phase := .Cancelled, phase_revision := state.phase_revision + 1 }
  { moved with state_digest := moved.computed_state_digest sha256 }

/-- What the event of a cancellation projects. -/
def cancellation_projection (sha256 : EngineerVerifierDigests P)
    (state : EngineerVerifierStateV1 P) : EngineerVerifierPhaseProjectionV1 :=
  phase_projection (state.moved_to_cancelled sha256) state.phase .CancellationAccepted

/-- Every phase that is not terminal can be left by a cancellation. -/
theorem cancellation_allowed {phase : EngineerVerifierPhaseV1} (h : phase.is_terminal = false) :
    transition_allowed phase .CancellationAccepted .Cancelled = true := by
  cases phase <;> first | rfl | exact nomatch h

theorem transcript_digest_valid (h : Valid codec.sha256 state) {digest : String}
    (hdigest : state.transcript_digest = some digest) : validate_sha256_digest digest = true := by
  obtain ⟨verifier, hverifier, hpublished⟩ := Option.bind_eq_some_iff.mp hdigest
  have hvalid := h.verifier
  unfold validate_verifier at hvalid
  rw [hverifier] at hvalid
  cases hplan : state.verifier_replay_plan with
  | none =>
    rw [hplan] at hvalid
    cases hvalid
  | some plan =>
    rw [hplan] at hvalid
    simp only [VerifierExecutionStateV1.validate, bind_eq_ok, exists_and_right,
      exists_unit_eq_ok] at hvalid
    have hpublication : ∀ publication admitted_at,
        validate_publication codec.sha256 publication admitted_at plan = .ok () →
          validate_sha256_digest publication.transcript_digest = true := by
      intro publication admitted_at hpublication
      simp only [validate_publication, validate_digest, bind_eq_ok, reject_if_eq_ok, exists_const,
        exists_and_right, exists_unit_eq_ok, not_not] at hpublication
      exact hpublication.2.1
    -- only the two last states of the verifier have a transcript
    cases verifier with
    | NotStarted => cases hpublished
    | Started => cases hpublished
    | PublicationObserved publication =>
      rw [← Option.some.inj hpublished]
      exact hpublication publication _ hvalid.2
    | Admitted publication admitted_at =>
      rw [← Option.some.inj hpublished]
      exact hpublication publication _ hvalid.2

theorem result_digest_valid (hcodec : codec.Lawful) (h : Valid codec.sha256 state) {digest : String}
    (hdigest : state.engineer_result_digest = some digest) :
    validate_sha256_digest digest = true := by
  have hvalid := h.result
  unfold validate_result at hvalid
  rw [hdigest] at hvalid
  cases hresult : state.engineer_result with
  | none =>
    rw [hresult] at hvalid
    exact nomatch hvalid
  | some result =>
    rw [hresult] at hvalid
    simp only [bind_eq_ok, reject_if_eq_ok, exists_const, not_or, ne_eq, not_not] at hvalid
    rw [← hvalid.2.2.2]
    exact hcodec.result result

theorem cancellation_projection_valid (hcodec : codec.Lawful)
    (h : Valid codec.sha256 state) (hterminal : state.phase.is_terminal = false) :
    (state.cancellation_projection codec.sha256).validate = .ok () := by
  have hbinding := h.execution_binding
  have hplan := h.plan
  have hledger := h.ledger
  have hidentity := h.identity
  simp only [EngineerExecutionBindingV1.validate, EngineerLogicalPlanV1.validate,
    ResolvedEffectLedgerV1.validate_against, validate_identity, validate_digest, bind_eq_ok,
    reject_if_eq_ok, exists_const, exists_and_right, exists_unit_eq_ok, not_not, not_or]
    at hbinding hplan hledger hidentity
  have hattempt : state.attempt ≠ 0 := by
    have := h.attempt.2.2.1
    omega
  unfold cancellation_projection EngineerVerifierPhaseProjectionV1.validate
  simp only [validate_version, validate_digest, bind_eq_ok, reject_if_eq_ok, check_all_eq_ok,
    check_some_eq_ok, exists_const, not_not, not_or, ne_eq, List.forall_mem_cons]
  refine ⟨rfl, ⟨Nat.succ_ne_zero _, hattempt, cancellation_allowed hterminal, hidentity.2.2.2.2.2.2⟩,
    ⟨hbinding.2.1, hplan.2.1, hcodec.state _, hledger.2.1, List.forall_mem_nil _⟩,
    fun digest hdigest => result_digest_valid hcodec h hdigest,
    fun digest hdigest => transcript_digest_valid h hdigest⟩

/-- The counters of a state are those of its type in the source, and the revision can grow. -/
def InRange (state : EngineerVerifierStateV1 P) : Prop :=
  state.phase_revision < U64_MAX ∧ ∀ workspace, state.workspace = some workspace →
    workspace.next_receipt_sequence ≤ U64_MAX

/-- The event of a cancellation is the canonical one of the state that has it pending. -/
theorem exists_cancellation_event (hcodec : codec.Lawful) (h : Valid codec.sha256 state)
    (hterminal : state.phase.is_terminal = false) :
    ∃ event bytes, codec.run_event.to_vec event = .ok bytes
      ∧ validate_stable_id event.id = true
      ∧ event.sequence = next_sequence (stored_cursor state)
      ∧ event.previous_event_id = (stored_cursor state).map Prod.snd
      ∧ PendingEvent codec state.phase
        { state.moved_to_cancelled codec.sha256 with
          pending_projection := some (pending_event codec event bytes) }
        (pending_event codec event bytes) event (state.cancellation_projection codec.sha256) := by
  have hprojection := cancellation_projection_valid hcodec h hterminal
  obtain ⟨text, htext⟩ :=
    hcodec.phase_projection_total (state.cancellation_projection codec.sha256)
  have hid := validate_event_id
    (hcodec.phase_event (state.cancellation_projection codec.sha256).identity)
  let event := phase_event (state.moved_to_cancelled codec.sha256) (stored_cursor state)
    ("event." ++ codec.sha256.phase_event (state.cancellation_projection codec.sha256).identity)
    text
  obtain ⟨bytes, hbytes⟩ := hcodec.run_event_total event
  have hmetadata : event.metadata[PHASE_EVENT_METADATA_KEY]? = some (.String text) :=
    Std.ExtTreeMap.getElem?_insert_self
  have hsize : event.metadata.size = 1 := by
    refine Std.ExtTreeMap.size_insert.trans ?_
    rw [Std.ExtTreeMap.contains_empty]
    rfl
  have hderived : derive_phase_event_id codec.sha256 (state.cancellation_projection codec.sha256)
      = .ok event.id := by
    unfold derive_phase_event_id
    simp only [hprojection, ok_bind]
    rw [reject_if_of_not (not_not.mpr hid)]
    rfl
  refine ⟨event, bytes, hbytes, hid, rfl, rfl, ?_⟩
  exact ⟨hcodec.run_event_round_trips event bytes hbytes, hbytes, rfl, rfl, rfl, rfl, rfl, rfl, rfl,
    rfl, hsize, hprojection,
    ⟨text, hmetadata, hcodec.phase_projection_round_trips _ _ htext, htext⟩, hderived, rfl,
    ⟨rfl, rfl, rfl, rfl, rfl, rfl, rfl, rfl, rfl, rfl, rfl, rfl, rfl⟩⟩

theorem workspace_unchanged {workspace : DurableWorkspaceAuthorityV1}
    (h : workspace.next_receipt_sequence ≤ U64_MAX) :
    disposition_successor workspace workspace = true
      ∧ owner_successor workspace workspace = true := by
  unfold disposition_successor owner_successor saturating_next
  cases workspace.closed <;> cases workspace.cleanup_required <;> simp [h]

theorem attempt_unchanged (hwork : state.SameWork next) (hrange : state.InRange) :
    state.validate_attempt_successor next = .ok () := by
  obtain ⟨_, _, _, _, _, _, hbinding, hexecutor, hworkspace, hledger, hprepared, hobservations,
    hreconciliation, hresult, hdigest, hbridge, hcancellation, hreplay, hverifier, _⟩ := hwork
  have hgrows : state.grows next = true := by
    refine grows_iff.mpr ⟨hbinding, ?_, ?_, ?_, ?_, ?_, ?_, ?_, ?_, ?_, ?_⟩
    · rw [hledger]
    · rw [hledger]
      omega
    · rw [hobservations]
    · rw [hobservations]
      omega
    all_goals intro value hvalue
    · rw [hresult, hvalue]
    · rw [hdigest, hvalue]
    · rw [hbridge, hvalue]
    · rw [hreplay, hvalue]
    · rw [hreconciliation, hvalue]
    · rw [hcancellation, hvalue]
  have hsteps : executor_successor state.executor state.executor = true
      ∧ verifier_successor state.verifier state.verifier = true := by
    constructor
    · cases state.executor <;> simp [executor_successor]
    · cases state.verifier with
      | none => rfl
      | some verifier => cases verifier <;> simp [verifier_successor]
  have hprepared_step : state.prepared_successor next = true := by
    unfold prepared_successor
    rw [hprepared, beq_self_eq_true, Bool.true_or, Bool.true_or]
  have hworkspace_step : state.workspace_successor next = true := by
    unfold workspace_successor
    rw [hworkspace]
    cases hsome : state.workspace with
    | none => rfl
    | some workspace =>
      obtain ⟨hdisposition, howner⟩ := workspace_unchanged (hrange.2 workspace hsome)
      simp [hdisposition, howner, snapshot_successor, receipt_successor]
  unfold validate_attempt_successor
  rw [hexecutor, hverifier, hcancellation]
  simp [hgrows, hsteps, hprepared_step, hworkspace_step, reject_if_of_not, ok_bind]

/-- **Every valid state that is not terminal can be cancelled**, once its event is acknowledged. -/
theorem exists_cancelled (hcodec : codec.Lawful) (h : state.validate codec.sha256 = .ok ())
    (hterminal : state.phase.is_terminal = false) (hpending : state.pending_projection = none)
    (hrange : state.InRange) :
    ∃ next, state.validate_successor codec next = .ok () ∧ next.phase = .Cancelled := by
  have hvalid := validate_eq_ok h
  obtain ⟨event, bytes, hbytes, hid, hsequence, hprevious, hevent⟩ :=
    exists_cancellation_event hcodec hvalid hterminal
  obtain ⟨hcancellation, -, hcursor, hids⟩ := validate_projections_eq_ok.mp hvalid.projections
  let next : EngineerVerifierStateV1 P :=
    { state.moved_to_cancelled codec.sha256 with
      pending_projection := some (pending_event codec event bytes) }
  have hwork : state.SameWork next := by
    constructor <;> rfl
  have hpending_valid : (pending_event codec event bytes).validate codec.sha256 = .ok () := by
    refine validate_pending_eq_ok.mpr ⟨hid, fun previous hsome => ?_, ?_, rfl, hcodec.bytes _⟩
    · have hcursor_id : (stored_cursor state).map Prod.snd = some previous := by
        rw [← hprevious]
        exact hsome
      obtain ⟨cursor, hstored, rfl⟩ := Option.map_eq_some_iff.mp hcursor_id
      obtain ⟨sequence, -, hmap⟩ := Option.bind_eq_some_iff.mp hstored
      obtain ⟨id, hprojected, rfl⟩ := Option.map_eq_some_iff.mp hmap
      exact hids id hprojected
    · have hnumbered : decide (event.sequence = 0) = event.previous_event_id.isNone := by
        rw [hsequence, hprevious]
        cases stored_cursor state with
        | none => rfl
        | some cursor =>
          have hpositive : min (cursor.1 + 1) U64_MAX ≠ 0 := by
            have hmax : U64_MAX ≠ 0 := by decide
            omega
          exact decide_eq_false hpositive
      exact hnumbered
  have hprojections : next.validate_projections codec.sha256 = .ok () := by
    refine validate_projections_eq_ok.mpr ⟨hcancellation, fun pending hsome => ?_, hcursor, hids⟩
    rw [← Option.some.inj hsome]
    exact hpending_valid
  have hnext : next.validate codec.sha256 = .ok () :=
    validate_of_sameWork hwork h hprojections rfl (hcodec.state _) rfl
  have htransition : next.validate_pending_transition codec state.phase = .ok () :=
    (validate_pending_transition_eq_ok codec).mpr ⟨_, event, _, rfl, hevent⟩
  -- the step changes the phase, so it is the pending event that is checked, then the table
  have hmoved : state.phase ≠ next.phase := by
    intro hsame
    rw [show next.phase = .Cancelled from rfl] at hsame
    rw [hsame] at hterminal
    exact nomatch hterminal
  have hphase : state.validate_phase_successor codec next = .ok () := by
    unfold validate_phase_successor
    rw [if_pos hmoved, hterminal, reject_if_of_not Bool.false_ne_true, ok_bind,
      reject_if_of_not (Nat.not_lt.mpr hrange.1), ok_bind, reject_if_of_not ?_, ok_bind]
    · exact htransition
    · rintro (h | h | h | h)
      · exact h rfl
      · exact nomatch h
      · exact h rfl
      · exact h rfl
  refine ⟨next, ?_, rfl⟩
  unfold validate_successor
  simp only [h, hnext, ok_bind, hpending, hphase]
  -- within the attempt, and the identity of the run is kept
  rw [reject_if_of_not ?_, ok_bind, if_neg (not_not.mpr hwork.attempt)]
  · exact attempt_unchanged hwork hrange
  · rintro (h | h | h | h | h | h)
    · exact h rfl
    · exact h rfl
    · exact h rfl
    · exact h rfl
    · exact h rfl
    · exact absurd h (Int.lt_irrefl _)

theorem reaches_terminal (hcodec : codec.Lawful) (h : state.validate codec.sha256 = .ok ())
    (hterminal : state.phase.is_terminal = false) (hrange : state.InRange) :
    ∃ target, Reaches codec state target ∧ target.phase.is_terminal = true := by
  cases hpending : state.pending_projection with
  | none =>
    obtain ⟨next, hstep, hphase⟩ := exists_cancelled hcodec h hterminal hpending hrange
    exact ⟨next, .single hstep, by rw [hphase]; rfl⟩
  | some pending =>
    have hfirst := acknowledged_accepted h hpending
    have hvalid := (validate_successor_eq_ok codec hfirst).next_valid
    obtain ⟨next, hstep, hphase⟩ := exists_cancelled hcodec hvalid hterminal rfl hrange
    exact ⟨next, .head hfirst (.single hstep), by rw [hphase]; rfl⟩

/-! ## Workspaces -/

/-- No accepted successor brings a workspace. -/
theorem Succeeds.workspace_none (h : Succeeds codec state next) (hnone : state.workspace = none) :
    next.workspace = none := by
  rcases h.step with ⟨pending, -, rfl⟩ | hstep
  · exact hnone
  · rcases hstep.attempt with hretries | hproceeds
    · -- a retry replaces a workspace, and there is none
      obtain ⟨before, after, hbefore, -⟩ := hretries.workspaces
      rw [hnone] at hbefore
      exact nomatch hbefore
    · -- within an attempt a workspace cannot be brought in
      have hworkspace := hproceeds.workspace
      unfold workspace_successor at hworkspace
      rw [hnone] at hworkspace
      cases hnext : next.workspace with
      | none => rfl
      | some workspace =>
        rw [hnext] at hworkspace
        exact absurd hworkspace Bool.false_ne_true

theorem Reaches.workspace_none {target : EngineerVerifierStateV1 P}
    (h : Reaches codec state target) (hnone : state.workspace = none) :
    target.workspace = none := by
  induction h with
  | refl => exact hnone
  | tail _ hstep ih => exact (validate_successor_eq_ok codec hstep).workspace_none ih

/-- A planned state reaches no open workspace. -/
theorem planned_not_engineering (h : Valid codec.sha256 state) (hphase : state.phase = .Planned)
    {target : EngineerVerifierStateV1 P} (hreaches : Reaches codec state target) :
    ¬ target.OpenEngineering := by
  rintro ⟨-, workspace, hworkspace, -⟩
  -- the phase table wants no workspace in a planned state
  have hconsistent := h.phase
  unfold phase_consistent at hconsistent
  rw [hphase] at hconsistent
  simp only [Bool.and_eq_true, Option.isNone_iff_eq_none] at hconsistent
  rw [hreaches.workspace_none hconsistent.2] at hworkspace
  exact nomatch hworkspace

variable {first : EngineerVerifierStateV1 P} {rest : List (EngineerVerifierStateV1 P)}

theorem AcceptedChain.validates (h : AcceptedChain codec first rest) :
    ∀ state ∈ first :: rest, state.validate codec.sha256 = .ok () :=
  chain_invariant (validate_initial_install_eq_ok h.installed).1
    fun step hstep _ => (h.succeeds step hstep).next_valid

/-- **The dead ends of the phases are the planned states**: every state of an accepted chain that
is not terminal reaches a terminal phase, but no planned one reaches the phase of engineering. -/
theorem no_dead_end_iff (hcodec : codec.Lawful) (h : AcceptedChain codec first rest)
    (hmem : state ∈ first :: rest) (hrange : state.InRange) :
    NoDeadEnd codec state ↔ state.phase ≠ .Planned := by
  constructor
  · intro hopen hphase
    obtain ⟨target, hreaches, hengineering⟩ := hopen.engineering hphase
    exact planned_not_engineering (h.valid state hmem) hphase hreaches hengineering
  · exact fun hphase => ⟨fun hterminal => reaches_terminal hcodec (h.validates state hmem)
      hterminal hrange, fun hplanned => absurd hplanned hphase⟩

end Chains

/-! ## A claimed and a planned state -/

namespace LawfulRun

open LocalRun

def digests : EngineerVerifierDigests Payload :=
  { LocalRun.digests with
    state := fun _ => digest 20
    phase_event := fun _ => digest 21
    bytes := fun _ => digest 22 }

def opened : EngineerVerifierStateV1 Payload :=
  { LocalRun.opened 1 [] with state_digest := digest 20 }

/-- The projection of the claim, which has a short text. -/
def claim : EngineerVerifierPhaseProjectionV1 := phase_projection opened .Planned .ClaimAccepted

instance : Encodable Char := .ofLeftInverse Char.toNat Char.ofNat Char.ofNat_toNat

instance : Encodable String := .ofLeftInverse String.toList String.ofList fun _ => String.ofList_toList

deriving instance Encodable for EngineerVerifierPhaseV1

deriving instance Encodable for EngineerVerifierTriggerV1

deriving instance Encodable for EngineerVerifierPhaseProjectionV1

/-- The text of any other projection: its number, in strokes. -/
def strokes (projection : EngineerVerifierPhaseProjectionV1) : String :=
  String.ofList (List.replicate (Encodable.encode projection) '1')

def codec : EngineerVerifierCodec Payload where
  sha256 := digests
  run_event :=
    { to_vec := fun event => .ok (.inl event)
      from_slice := fun payload => match payload with
        | .inl event => .ok event
        | .inr _ => .error "expected an event" }
  phase_projection :=
    { to_vec := fun projection => .ok (if projection = claim then "claim" else strokes projection)
      from_slice := fun text =>
        if text = "claim" then .ok claim
        else ok_or (Encodable.decode text.toList.length) "expected a projection" }

theorem codec_lawful : codec.Lawful where
  state := fun _ => show validate_sha256_digest (digest 20) = true by decide
  result := fun _ => show validate_sha256_digest (digest 3) = true by decide
  bytes := fun _ => show validate_sha256_digest (digest 22) = true by decide
  phase_event := fun _ => show validate_sha256_digest (digest 21) = true by decide
  run_event_total := fun event => ⟨.inl event, rfl⟩
  run_event_round_trips := by
    intro event bytes h
    rw [← Except.ok.inj h]
    rfl
  phase_projection_total := fun _ => ⟨_, rfl⟩
  phase_projection_round_trips := by
    intro projection text h
    rw [← Except.ok.inj h]
    unfold codec
    simp only
    by_cases hclaim : projection = claim
    · rw [if_pos hclaim, if_pos rfl, hclaim]
    · have hne : strokes projection ≠ "claim" := by
        intro heq
        have hmem : 'c' ∈ (strokes projection).toList := by
          rw [heq]
          decide
        unfold strokes at hmem
        rw [String.toList_ofList, List.mem_replicate] at hmem
        exact absurd hmem.2 (by decide)
      rw [if_neg hclaim, if_neg hne]
      unfold strokes
      rw [String.toList_ofList, List.length_replicate, Encodable.encodek]
      rfl

/-- The claimed state with its event. -/
def claimed : EngineerVerifierStateV1 Payload :=
  let event := phase_event opened none ("event." ++ digest 21) "claim"
  { opened with pending_projection := some (pending_event codec event (.inl event)) }

def unclaimed : EngineerVerifierStateV1 Payload :=
  { opened with phase := .Planned, phase_revision := 0, workspace := none }

theorem claimed_accepted : AcceptedChain codec claimed [] :=
  accepted_chain_iff.mp (by decide)

theorem unclaimed_accepted : AcceptedChain codec unclaimed [] :=
  accepted_chain_iff.mp (by decide)

end LawfulRun

open LawfulRun in
/-- The claimed state is no dead end. -/
theorem claimed_no_dead_end : NoDeadEnd codec claimed ↔ claimed.phase ≠ .Planned :=
  no_dead_end_iff codec_lawful claimed_accepted List.mem_cons_self
    ⟨by decide, fun workspace h => Option.some.inj h ▸ by decide⟩

open LawfulRun in
/-- The planned state is accepted, and no chain of successors opens a workspace behind it. -/
theorem planned_dead_end : codec.Lawful ∧ unclaimed.validate_initial_install codec = .ok ()
    ∧ unclaimed.InRange ∧ unclaimed.phase = .Planned
    ∧ ¬ ∃ target, Reaches codec unclaimed target ∧ target.OpenEngineering := by
  have hrange : unclaimed.InRange := by
    refine ⟨by decide, fun workspace hsome => ?_⟩
    have hnone : unclaimed.workspace = none := rfl
    rw [hnone] at hsome
    exact nomatch hsome
  refine ⟨codec_lawful, unclaimed_accepted.installed, hrange, rfl, ?_⟩
  rintro ⟨target, hreaches, hengineering⟩
  exact planned_not_engineering (unclaimed_accepted.valid unclaimed List.mem_cons_self) rfl hreaches
    hengineering

end EngineerVerifierStateV1

end OvcaCore

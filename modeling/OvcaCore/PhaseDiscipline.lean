/-
What holds along every chain of engineer-verifier states that the durable
authority accepts: the first state passes `validate_initial_install`, and each
later one `validate_successor` behind the one before it.

Everything here is read off `Succeeds`, which says what an accepted step has
checked, and carried over the chain by the rules of `Lib.Chains`.
-/
import OvcaCore.PhaseProjection
import OvcaCore.Lib.Chains

set_option autoImplicit false

namespace OvcaCore

open OvcaCore.Checks OvcaCore.Chains EngineerVerifier EngineerVerifierLoop

namespace EngineerVerifierStateV1

section Chains

variable {P : Type} [DecidableEq P] (codec : EngineerVerifierCodec P)

/-- A chain of states as compare-and-swaps let it come about. -/
structure AcceptedChain (first : EngineerVerifierStateV1 P)
    (rest : List (EngineerVerifierStateV1 P)) : Prop where
  installed : first.validate_initial_install codec = .ok ()
  successors : (first :: rest).IsChain fun state next =>
    state.validate_successor codec next = .ok ()

/-- The checks that an accepted chain has passed, run one after the other. -/
def accepted_chain (first : EngineerVerifierStateV1 P)
    (rest : List (EngineerVerifierStateV1 P)) : Bool :=
  (first.validate_initial_install codec).isOk
    && (steps first rest).all fun step => (step.1.validate_successor codec step.2).isOk

variable {codec}

theorem isOk_iff {x : Except EngineerVerifierError Unit} : x.isOk = true ↔ x = .ok () := by
  rcases x with e | ⟨⟩ <;> simp [Except.isOk, Except.toBool]

theorem accepted_chain_iff {first : EngineerVerifierStateV1 P}
    {rest : List (EngineerVerifierStateV1 P)} :
    accepted_chain codec first rest = true ↔ AcceptedChain codec first rest := by
  rw [accepted_chain, Bool.and_eq_true, isOk_iff, List.all_eq_true]
  constructor
  · rintro ⟨hfirst, hsteps⟩
    refine ⟨hfirst, isChain_iff_steps.mpr ?_⟩
    intro step hstep
    exact isOk_iff.mp (hsteps step hstep)
  · rintro ⟨hfirst, hsteps⟩
    refine ⟨hfirst, ?_⟩
    intro step hstep
    exact isOk_iff.mpr (isChain_iff_steps.mp hsteps step hstep)

theorem AcceptedChain.succeeds {first : EngineerVerifierStateV1 P}
    {rest : List (EngineerVerifierStateV1 P)} (h : AcceptedChain codec first rest) :
    ∀ step ∈ steps first rest, Succeeds codec step.1 step.2 := by
  intro step hstep
  exact validate_successor_eq_ok codec (isChain_iff_steps.mp h.successors step hstep)

/-- A chain goes on with a successor of its last state. -/
theorem AcceptedChain.concat {first next : EngineerVerifierStateV1 P}
    {rest : List (EngineerVerifierStateV1 P)} (h : AcceptedChain codec first rest)
    (hnext : (final first rest).validate_successor codec next = .ok ()) :
    AcceptedChain codec first (rest ++ [next]) := by
  refine ⟨h.installed, ?_⟩
  rw [← List.cons_append, List.cons_append, isChain_iff_steps, steps_concat]
  intro step hstep
  rw [List.mem_append, List.mem_singleton] at hstep
  rcases hstep with hstep | rfl
  · exact isChain_iff_steps.mp h.successors step hstep
  · exact hnext

/-! ## First states -/

theorem validate_initial_install_eq_ok {state : EngineerVerifierStateV1 P} {u : Unit} :
    state.validate_initial_install codec = .ok u →
      state.validate codec.sha256 = .ok () ∧ state.Untouched ∧
        (state.phase = .Planned ∧ state.phase_revision = 0 ∧ state.workspace = none ∧
            state.pending_projection = none ∧ state.projected_sequence = none ∧
            state.projected_event_id = none ∨
          state.phase = .Engineering ∧ state.phase_revision = 1 ∧
            (∃ workspace, state.workspace = some workspace ∧ workspace.closed = false ∧
              workspace.cleanup_required = false) ∧
            state.validate_pending_transition codec .Planned = .ok ()) := by
  intro h
  rw [validate_initial_install, bind_eq_ok] at h
  obtain ⟨_, hvalid, h⟩ := h
  refine ⟨hvalid, ?_⟩
  by_cases hplanned : state.phase = .Planned ∧ state.phase_revision = 0 ∧ state.Untouched
      ∧ state.workspace = none ∧ state.pending_projection = none
      ∧ state.projected_sequence = none ∧ state.projected_event_id = none
  · obtain ⟨hphase, hrevision, huntouched, hrest⟩ := hplanned
    exact ⟨huntouched, Or.inl ⟨hphase, hrevision, hrest⟩⟩
  · rw [if_neg hplanned] at h
    simp only [bind_eq_ok, reject_if_eq_ok, exists_const, not_or, ne_eq, not_not] at h
    obtain ⟨⟨hphase, hrevision, huntouched, hworkspace, _⟩, hpending⟩ := h
    refine ⟨huntouched, Or.inr ⟨hphase, hrevision, ?_, hpending⟩⟩
    cases hstored : state.workspace with
    | none => simp [hstored] at hworkspace
    | some workspace =>
      rw [hstored, Option.all_some, Bool.not_eq_true, Bool.or_eq_false_iff] at hworkspace
      exact ⟨workspace, rfl, hworkspace.1, hworkspace.2⟩

/-! ## What validity says of a state -/

/-- The parts of a valid state. -/
structure Valid (sha256 : EngineerVerifierDigests P) (state : EngineerVerifierStateV1 P) : Prop where
  plan : state.plan.validate sha256 = .ok ()
  execution_binding : state.execution_binding.validate sha256 = .ok ()
  ledger : state.ledger.validate_against sha256 state.plan = .ok ()
  identity : state.validate_identity = .ok ()
  executor :
    state.executor.validate sha256 state.execution_binding state.plan.invocation = .ok ()
  workspace : state.validate_workspace sha256 = .ok ()
  prepared : state.validate_prepared sha256 = .ok ()
  observations : state.validate_observations sha256 = .ok ()
  reconciliation : state.validate_reconciliation sha256 = .ok ()
  result : state.validate_result sha256 = .ok ()
  bridge : state.validate_bridge sha256 = .ok ()
  projections : state.validate_projections sha256 = .ok ()
  verifier : state.validate_verifier sha256 = .ok ()
  phase : state.phase_consistent = true
  state_digest : state.computed_state_digest sha256 = state.state_digest

theorem validate_eq_ok {sha256 : EngineerVerifierDigests P} {state : EngineerVerifierStateV1 P}
    {u : Unit} (h : state.validate sha256 = .ok u) : Valid sha256 state := by
  simp only [validate, bind_eq_ok, reject_if_eq_ok, exists_const, exists_and_right,
    exists_unit_eq_ok, ne_eq, not_not] at h
  obtain ⟨_, hplan, hbinding, hledger, hidentity, hexecutor, hworkspace, hprepared, hobservations,
    hreconciliation, hresult, hbridge, hprojections, hverifier, hphase, _, hdigest⟩ := h
  exact ⟨hplan, hbinding, hledger, hidentity, hexecutor, hworkspace, hprepared, hobservations,
    hreconciliation, hresult, hbridge, hprojections, hverifier, hphase, hdigest⟩

/-- The attempt of a valid state is that of its binding and its ledger, and
within the budget of the plan. -/
theorem Valid.attempt {sha256 : EngineerVerifierDigests P} {state : EngineerVerifierStateV1 P}
    (h : Valid sha256 state) : state.execution_binding.attempt = state.attempt ∧
      state.ledger.attempt = state.attempt ∧ 1 ≤ state.attempt ∧
      state.attempt ≤ state.plan.invocation.budget.max_attempts := by
  have hidentity := h.identity
  have hbinding := h.execution_binding
  rw [validate_identity, reject_if_eq_ok] at hidentity
  simp only [EngineerExecutionBindingV1.validate,
    EngineerExecutionBindingV1.validate_without_digest, bind_eq_ok, reject_if_eq_ok,
    exists_const, exists_and_right, exists_unit_eq_ok] at hbinding
  push Not at hidentity
  obtain ⟨_, _, _, hattempt, hledger, hbudget, _⟩ := hidentity
  have hpositive : state.execution_binding.attempt ≠ 0 := hbinding.1.2.2
  exact ⟨hattempt.symm, hledger.symm, by omega, by omega⟩

/-! ## The discipline of a step -/

/-- What an attempt never takes back. -/
structure Keeps (state next : EngineerVerifierStateV1 P) : Prop where
  ledger : state.ledger.entries <+: next.ledger.entries
  observations : state.tool_observations <+: next.tool_observations
  engineer_result : ∀ result, state.engineer_result = some result →
    next.engineer_result = some result
  workspace_bridge : ∀ bridge, state.workspace_bridge = some bridge →
    next.workspace_bridge = some bridge
  verifier_replay_plan : ∀ plan, state.verifier_replay_plan = some plan →
    next.verifier_replay_plan = some plan
  write_reconciliation : ∀ reconciliation, state.write_reconciliation = some reconciliation →
    next.write_reconciliation = some reconciliation
  cancellation : ∀ cancellation, state.cancellation = some cancellation →
    next.cancellation = some cancellation

omit [DecidableEq P] in
theorem Keeps.refl (state : EngineerVerifierStateV1 P) : state.Keeps state :=
  ⟨List.prefix_rfl, List.prefix_rfl, fun _ h => h, fun _ h => h, fun _ h => h, fun _ h => h,
    fun _ h => h⟩

omit [DecidableEq P] in
theorem Keeps.trans {state middle next : EngineerVerifierStateV1 P} (h : state.Keeps middle)
    (h' : middle.Keeps next) : state.Keeps next where
  ledger := h.ledger.trans h'.ledger
  observations := h.observations.trans h'.observations
  engineer_result := fun _ hsome => h'.engineer_result _ (h.engineer_result _ hsome)
  workspace_bridge := fun _ hsome => h'.workspace_bridge _ (h.workspace_bridge _ hsome)
  verifier_replay_plan := fun _ hsome => h'.verifier_replay_plan _ (h.verifier_replay_plan _ hsome)
  write_reconciliation := fun _ hsome => h'.write_reconciliation _ (h.write_reconciliation _ hsome)
  cancellation := fun _ hsome => h'.cancellation _ (h.cancellation _ hsome)

omit [DecidableEq P] in
theorem Grows.keeps {state next : EngineerVerifierStateV1 P} (h : state.Grows next) :
    state.Keeps next :=
  ⟨h.ledger, h.observations, h.engineer_result, h.workspace_bridge, h.verifier_replay_plan,
    h.write_reconciliation, h.cancellation⟩

/-- What a run is about: the identity and the plan of it. -/
structure SameIdentity (state next : EngineerVerifierStateV1 P) : Prop where
  contract_version : next.contract_version = state.contract_version
  run_id : next.run_id = state.run_id
  goal_id : next.goal_id = state.goal_id
  task_id : next.task_id = state.task_id
  plan : next.plan = state.plan

/-- The phase discipline of one step. -/
structure Disciplined (codec : EngineerVerifierCodec P) (state next : EngineerVerifierStateV1 P) :
    Prop where
  identity : state.SameIdentity next
  phase_revision :
    next.phase_revision = state.phase_revision + if next.phase ≠ state.phase then 1 else 0
  /-- A change of phase is allowed, and installs the canonical event of it. -/
  phase : next.phase ≠ state.phase → state.pending_projection = none ∧
    ∃ pending event projection, next.pending_projection = some pending ∧
      PendingEvent codec state.phase next pending event projection ∧
      transition_allowed state.phase projection.trigger next.phase = true
  /-- Nothing else installs one. -/
  pending : next.pending_projection ≠ none → next.phase ≠ state.phase
  acknowledgement : ∀ pending, state.pending_projection = some pending →
    next = state.acknowledged pending
  attempt : next.attempt = state.attempt ∨
    next.attempt = state.attempt + 1 ∧ state.phase = .RetryPending ∧ next.phase = .Engineering
  keeps : next.attempt = state.attempt → state.Keeps next
  ledger_length : next.attempt = state.attempt →
    next.ledger.entries.length ≤ state.ledger.entries.length + 1
  observations_length : next.attempt = state.attempt →
    next.tool_observations.length ≤ state.tool_observations.length + 1

omit [DecidableEq P] in
/-- The projection of a canonical event is of an allowed transition. -/
theorem PendingEvent.allowed {from_ : EngineerVerifierPhaseV1} {state : EngineerVerifierStateV1 P}
    {pending : PendingPhaseProjectionV1 P} {event : RunEvent}
    {projection : EngineerVerifierPhaseProjectionV1}
    (h : PendingEvent codec from_ state pending event projection) :
    transition_allowed from_ projection.trigger state.phase = true := by
  have hvalid := h.valid
  simp only [EngineerVerifierPhaseProjectionV1.validate, bind_eq_ok, reject_if_eq_ok,
    exists_const, exists_and_right, exists_unit_eq_ok] at hvalid
  push Not at hvalid
  obtain ⟨_, ⟨_, _, hallowed, _⟩, _⟩ := hvalid
  rw [← h.left, ← h.agrees.to_]
  exact hallowed

omit [DecidableEq P] in
/-- An acknowledgement changes nothing but the cursor. -/
theorem disciplined_of_acknowledged {state : EngineerVerifierStateV1 P}
    {pending : PendingPhaseProjectionV1 P} (h : state.pending_projection = some pending) :
    Disciplined codec state (state.acknowledged pending) where
  identity := ⟨rfl, rfl, rfl, rfl, rfl⟩
  phase_revision := by simp [acknowledged]
  phase := fun hne => absurd rfl hne
  pending := fun hne => absurd rfl hne
  acknowledgement := by
    intro other hother
    rw [Option.some.inj (h.symm.trans hother)]
  attempt := Or.inl rfl
  keeps := fun _ => ⟨List.prefix_rfl, List.prefix_rfl, fun _ h => h, fun _ h => h, fun _ h => h,
    fun _ h => h, fun _ h => h⟩
  ledger_length := fun _ => Nat.le_succ _
  observations_length := fun _ => Nat.le_succ _

/-- Every accepted step keeps the discipline. -/
theorem Succeeds.disciplined {state next : EngineerVerifierStateV1 P}
    (h : Succeeds codec state next) : Disciplined codec state next := by
  rcases h.step with ⟨pending, hpending, rfl⟩ | hstep
  · exact disciplined_of_acknowledged hpending
  have hidentity : state.SameIdentity next :=
    ⟨h.same_run.contract_version, h.same_run.run_id, h.same_run.goal_id, h.same_run.task_id,
      h.same_run.plan⟩
  have hkeeps : next.attempt = state.attempt → state.Grows next := by
    intro hsame
    rcases hstep.attempt with hretries | hproceeds
    · have hnext := hretries.attempt
      omega
    · exact hproceeds.grows
  refine ⟨hidentity, ?_, ?_, ?_, ?_, ?_, fun hsame => (hkeeps hsame).keeps,
    fun hsame => (hkeeps hsame).ledger_length, fun hsame => (hkeeps hsame).observations_length⟩
  · rcases hstep.phase with hmoves | hstays
    · rw [hmoves.phase_revision, if_pos (Ne.symm hmoves.phase)]
    · rw [hstays.phase_revision, if_neg (not_not.mpr hstays.phase), Nat.add_zero]
  · intro hne
    rcases hstep.phase with hmoves | hstays
    · obtain ⟨pending, event, projection, hpending, hevent⟩ :=
        (validate_pending_transition_eq_ok codec).mp hmoves.pending
      exact ⟨hstep.unacknowledged, pending, event, projection, hpending, hevent, hevent.allowed⟩
    · exact absurd hstays.phase hne
  · intro hne
    rcases hstep.phase with hmoves | hstays
    · exact Ne.symm hmoves.phase
    · exact absurd hstays.pending hne
  · intro pending hpending
    rw [hstep.unacknowledged] at hpending
    cases hpending
  · rcases hstep.attempt with hretries | hproceeds
    · exact Or.inr ⟨hretries.attempt, hretries.phase, hretries.next_phase⟩
    · exact Or.inl hproceeds.attempt

/-! ## The discipline of a chain -/

variable {first : EngineerVerifierStateV1 P} {rest : List (EngineerVerifierStateV1 P)}

/-- Every state of an accepted chain is valid. -/
theorem AcceptedChain.valid (h : AcceptedChain codec first rest) :
    ∀ state ∈ first :: rest, Valid codec.sha256 state := by
  refine chain_invariant (validate_eq_ok (validate_initial_install_eq_ok h.installed).1) ?_
  intro step hstep _
  exact validate_eq_ok (h.succeeds step hstep).next_valid

/-- Every state of an accepted chain is of the run and the plan of the first. -/
theorem AcceptedChain.same_identity (h : AcceptedChain codec first rest) :
    ∀ state ∈ first :: rest, first.SameIdentity state := by
  refine chain_invariant ⟨rfl, rfl, rfl, rfl, rfl⟩ ?_
  intro step hstep hbefore
  have hnext := (h.succeeds step hstep).disciplined.identity
  exact ⟨hnext.contract_version.trans hbefore.contract_version, hnext.run_id.trans hbefore.run_id,
    hnext.goal_id.trans hbefore.goal_id, hnext.task_id.trans hbefore.task_id,
    hnext.plan.trans hbefore.plan⟩

/-- Attempts never fall, and between two states of one attempt nothing is taken
back. -/
theorem AcceptedChain.keeps (h : AcceptedChain codec first rest) {i j : ℕ} (hij : i ≤ j)
    (hj : j < (first :: rest).length) :
    (first :: rest)[i].attempt ≤ (first :: rest)[j].attempt ∧
      ((first :: rest)[i].attempt = (first :: rest)[j].attempt →
        (first :: rest)[i].Keeps (first :: rest)[j]) := by
  refine chain_rel (S := fun state next : EngineerVerifierStateV1 P =>
    state.attempt ≤ next.attempt ∧ (state.attempt = next.attempt → state.Keeps next))
    ?_ ?_ ?_ hij hj
  · exact fun state => ⟨le_refl _, fun _ => Keeps.refl state⟩
  · rintro a b c ⟨hab, hkab⟩ ⟨hbc, hkbc⟩
    refine ⟨hab.trans hbc, ?_⟩
    intro hac
    exact (hkab (by omega)).trans (hkbc (by omega))
  · intro step hstep
    have hnext := (h.succeeds step hstep).disciplined
    refine ⟨?_, fun hsame => hnext.keeps hsame.symm⟩
    rcases hnext.attempt with hsame | ⟨hraised, _⟩ <;> omega

omit [DecidableEq P] in
/-- No step leaves a terminal phase. -/
theorem Disciplined.terminal_phase {state next : EngineerVerifierStateV1 P}
    (h : Disciplined codec state next) (hterminal : state.phase.is_terminal = true) :
    next.phase = state.phase := by
  by_contra hne
  obtain ⟨_, _, _, projection, _, _, hallowed⟩ := h.phase hne
  cases hphase : state.phase <;>
    simp_all [EngineerVerifierPhaseV1.is_terminal, transition_allowed]

/-- A terminal phase is the phase of every later state. -/
theorem AcceptedChain.terminal_phase (h : AcceptedChain codec first rest) {i j : ℕ} (hij : i ≤ j)
    (hj : j < (first :: rest).length)
    (hterminal : (first :: rest)[i].phase.is_terminal = true) :
    (first :: rest)[j].phase = (first :: rest)[i].phase := by
  refine chain_rel (S := fun state next : EngineerVerifierStateV1 P =>
    state.phase.is_terminal = true → next.phase = state.phase) ?_ ?_ ?_ hij hj hterminal
  · exact fun state _ => rfl
  · intro a b c hab hbc ha
    have hb := hab ha
    rw [← hb]
    exact hbc (hb ▸ ha)
  · exact fun step hstep => (h.succeeds step hstep).disciplined.terminal_phase

/-- The steps that change the phase. -/
def changes_phase (step : EngineerVerifierStateV1 P × EngineerVerifierStateV1 P) : Bool :=
  step.2.phase != step.1.phase

/-- The revision counts the changes of phase. -/
theorem AcceptedChain.phase_revision (h : AcceptedChain codec first rest) :
    (final first rest).phase_revision
      = first.phase_revision + (steps first rest).countP changes_phase := by
  refine count_steps_eq ?_
  intro step hstep
  rw [(h.succeeds step hstep).disciplined.phase_revision]
  simp [changes_phase]

/-- A first state: no revision, or the event of the claim that has been accepted. -/
structure FirstState (codec : EngineerVerifierCodec P) (first : EngineerVerifierStateV1 P) :
    Prop where
  attempt : first.attempt = 1
  phase : first.phase = .Planned ∧ first.phase_revision = 0 ∧ first.pending_projection = none ∨
    first.phase = .Engineering ∧ first.phase_revision = 1 ∧
      ∃ pending event projection, first.pending_projection = some pending ∧
        PendingEvent codec .Planned first pending event projection ∧
        transition_allowed .Planned projection.trigger .Engineering = true

theorem firstState_of_install (h : first.validate_initial_install codec = .ok ()) :
    FirstState codec first := by
  obtain ⟨_, huntouched, hplanned | hclaimed⟩ := validate_initial_install_eq_ok h
  · obtain ⟨hphase, hrevision, _, hpending, _⟩ := hplanned
    exact ⟨huntouched.attempt, Or.inl ⟨hphase, hrevision, hpending⟩⟩
  · obtain ⟨hphase, hrevision, _, hpending⟩ := hclaimed
    obtain ⟨pending, event, projection, hsome, hevent⟩ :=
      (validate_pending_transition_eq_ok codec).mp hpending
    have hallowed := hevent.allowed
    rw [hphase] at hallowed
    exact ⟨huntouched.attempt,
      Or.inr ⟨hphase, hrevision, pending, event, projection, hsome, hevent, hallowed⟩⟩

/-- **Phase discipline of an accepted chain.** Every step of it is disciplined,
its revisions count its changes of phase, and its run, its plan and the budget of
its attempts are those of its first state. -/
theorem phase_discipline (h : AcceptedChain codec first rest) :
    FirstState codec first ∧
    (∀ step ∈ steps first rest, Disciplined codec step.1 step.2) ∧
    (final first rest).phase_revision
      = first.phase_revision + (steps first rest).countP changes_phase ∧
    (∀ state ∈ first :: rest, first.SameIdentity state ∧ 1 ≤ state.attempt ∧
      state.attempt ≤ state.plan.invocation.budget.max_attempts) ∧
    (∀ i j, ∀ _ : i ≤ j, ∀ _ : j < (first :: rest).length,
      (first :: rest)[i].attempt ≤ (first :: rest)[j].attempt ∧
        ((first :: rest)[i].attempt = (first :: rest)[j].attempt →
          (first :: rest)[i].Keeps (first :: rest)[j])) := by
  refine ⟨firstState_of_install h.installed, ?_, h.phase_revision, ?_, ?_⟩
  · exact fun step hstep => (h.succeeds step hstep).disciplined
  · intro state hstate
    have hattempt := (h.valid state hstate).attempt
    exact ⟨h.same_identity state hstate, hattempt.2.2⟩
  · exact fun i j hij hj => h.keeps hij hj

end Chains

/-! ## A run -/

namespace LocalRun

/-- A digest of 64 digits, told apart by a number. -/
def digest (number : ℕ) : String :=
  String.ofList (List.replicate 60 '0' ++
    [number / 1000, number / 100 % 10, number / 10 % 10, number % 10].map Nat.digitChar)

/-- Bytes, as the values that are written into them. -/
abbrev Payload : Type := RunEvent ⊕ ToolReceiptV1

def digests : EngineerVerifierDigests Payload where
  authority := fun _ => digest 1
  invocation := fun _ => digest 2
  result := fun _ => digest 3
  snapshot := fun input => digest (100 + input.generation)
  lease := fun lease => digest (110 + lease.attempt)
  grant := fun grant => digest (120 + grant.attempt)
  request := fun _ => digest 4
  bundle := fun _ => digest 5
  transcript := fun _ => digest 6
  evidence_state := fun _ => digest 7
  bytes := fun payload => match payload with
    | .inl event => digest (200 + event.sequence)
    | .inr receipt => digest (300 + receipt.sequence)
  receipt_bytes := .inr
  logical_plan := fun input => digest (130 + input.ordered_effects.length)
  execution_binding := fun input => digest (140 + input.attempt)
  tool_request := fun _ => digest 8
  tool_idempotency := fun _ => digest 9
  resolved_ledger := fun input => digest (150 + 10 * input.entries.length + input.attempt)
  role_outcome := fun _ => digest 10
  workspace_diff := fun _ => digest 11
  reconciliation := fun _ => digest 12
  verifier_replay := fun _ => digest 13
  state := fun input => digest (1000 + 100 * input.phase_revision
    + (if input.engineer_result_digest.isSome then 1 else 0)
    + (if input.verifier_transcript_digest.isSome then 2 else 0)
    + if input.resolved_effect_ledger_digest = digest (150 + input.attempt) then 0 else 4)
  phase_event := fun input => digest (400 + input.phase_revision)

def at_ (millisecond : ℕ) : DateTime := (1000000 * millisecond : ℕ)

def scope : FoundationScopeV1 := ⟨"project", some "goal", some "task", some "run"⟩
def coordinator : PrincipalIdentityV1 := ⟨"coordinator", .Coordinator⟩
def engineer : PrincipalIdentityV1 := ⟨"engineer", .Engineer⟩

def authority : FoundationAuthorityV1 where
  contract_version := 1
  authority_id := "authority"
  principal := coordinator
  scope := scope
  «namespace» := .CodeReview
  permission_profile := ⟨1, .R0, [], [], false, false, false⟩
  visibility := .Private
  sensitivity := .Internal
  validity := ⟨.Active, at_ 0, none⟩

def invocation (max_attempts : ℕ) : RoleInvocationV1 where
  contract_version := 1
  invocation_id := "invocation"
  invoker := coordinator
  target := engineer
  task_id := "task"
  run_id := "run"
  scope := scope
  budget := ⟨1, max_attempts⟩
  idempotency_key := "key"
  authority := authority
  authority_digest := digest 1
  input_digest := digest 0
  invoked_at := at_ 0

def plan (max_attempts : ℕ) (effects : List PlannedToolEffectTemplateV1) :
    EngineerLogicalPlanV1 where
  contract_version := 1
  run_id := "run"
  goal_id := "goal"
  task_id := "task"
  invocation := invocation max_attempts
  invocation_digest := digest 2
  ordered_effects := effects
  logical_plan_digest := digest (130 + effects.length)

def snapshot (generation : ℕ) (files : List WorkspaceFileV1) : WorkspaceSnapshotV1 :=
  ⟨1, "workspace", "lease", generation, files, digest (100 + generation)⟩

def workspace (attempt : ℕ) : DurableWorkspaceAuthorityV1 where
  lease := ⟨1, "lease", "workspace", "invocation", digest 2, attempt, scope, digest 100, at_ 0,
    at_ 100⟩
  lease_digest := digest (110 + attempt)
  initial_snapshot := snapshot 0 []
  grant :=
    { contract_version := 1
      grant_id := "grant"
      invocation_id := "invocation"
      invocation_digest := digest 2
      attempt := attempt
      issuer := coordinator
      grantee := engineer
      scope := scope
      grant_authority := authority
      grant_authority_digest := digest 1
      lease_id := "lease"
      lease_digest := digest (110 + attempt)
      workspace_id := "workspace"
      snapshot_digest := digest 100
      read_paths := []
      write_paths := ["out.txt"]
      max_read_bytes := 1
      max_write_bytes := 1
      command_policy := .Denied
      environment_policy := .Denied
      network_policy := .Denied
      valid_from := at_ 0
      valid_until := at_ 100 }
  grant_digest := digest (120 + attempt)
  current_snapshot := snapshot 0 []
  recovery_token := "token"
  runtime_instance_id := "broker"
  fence := 1
  runtime_epoch := 1
  heartbeat_at := at_ 1
  next_receipt_sequence := 1
  cleanup_required := false
  closed := false

/-- The state with its digest. -/
def rehashed (state : EngineerVerifierStateV1 Payload) : EngineerVerifierStateV1 Payload :=
  { state with state_digest := state.computed_state_digest digests }

/-- The claimed state of a plan, before its event is attached. -/
def opened (max_attempts : ℕ) (effects : List PlannedToolEffectTemplateV1) :
    EngineerVerifierStateV1 Payload :=
  rehashed
  { contract_version := 1
    run_id := "run"
    goal_id := "goal"
    task_id := "task"
    plan := plan max_attempts effects
    phase := .Engineering
    phase_revision := 1
    attempt := 1
    execution_binding := ⟨1, digest 2, 1, digest 141⟩
    executor := .NotStarted
    workspace := some (workspace 1)
    ledger := ⟨1, "run", "goal", "task", digest 2, digest (130 + effects.length), 1, [], digest 151⟩
    prepared_write := none
    tool_observations := []
    write_reconciliation := none
    engineer_result := none
    engineer_result_digest := none
    workspace_bridge := none
    cancellation := none
    pending_projection := none
    projected_sequence := none
    projected_event_id := none
    verifier_replay_plan := none
    verifier := none
    controller_time := at_ 1
    state_digest := "" }

/-- The texts of the projections of a run, by their revision. -/
def labels : List String := ["0", "1", "2", "3", "4", "5", "6", "7", "8"]

/-- A serialization that knows the projections of one run. -/
def codec (projections : List EngineerVerifierPhaseProjectionV1) :
    EngineerVerifierCodec Payload where
  sha256 := digests
  run_event :=
    { to_vec := fun event => .ok (.inl event)
      from_slice := fun payload => match payload with
        | .inl event => .ok event
        | .inr _ => .error "expected an event" }
  phase_projection :=
    { to_vec := fun projection =>
        if projections.contains projection then .ok (labels.getD projection.phase_revision "9")
        else .error "unknown projection"
      from_slice := fun text =>
        ok_or (projections.find? fun projection =>
          labels.getD projection.phase_revision "9" = text) "unknown projection" }

/-- The state with the event of the transition into it pending. -/
def announced (from_ : EngineerVerifierPhaseV1) (trigger : EngineerVerifierTriggerV1)
    (state : EngineerVerifierStateV1 Payload) : EngineerVerifierStateV1 Payload :=
  let event := phase_event state (stored_cursor state)
    ("event." ++ digests.phase_event (phase_projection state from_ trigger).identity)
    (labels.getD state.phase_revision "9")
  { state with pending_projection := some (pending_event (codec []) event (.inl event)) }

/-- The state with its pending event acknowledged. -/
def settled (state : EngineerVerifierStateV1 Payload) : EngineerVerifierStateV1 Payload :=
  match state.pending_projection with
  | some pending => state.acknowledged pending
  | none => state

def moved (to_ : EngineerVerifierPhaseV1) (millisecond : ℕ)
    (state : EngineerVerifierStateV1 Payload) : EngineerVerifierStateV1 Payload :=
  rehashed { state with
    phase := to_
    phase_revision := state.phase_revision + 1
    controller_time := at_ millisecond }

/-- An executor that asks for a retry of the first attempt, within a budget. -/
def claimed (max_attempts : ℕ) := announced .Planned .ClaimAccepted (opened max_attempts [])

def started (max_attempts : ℕ) : EngineerVerifierStateV1 Payload :=
  { settled (claimed max_attempts) with executor := .Started (digest 141) 1 (at_ 2) }

def retry_required (max_attempts : ℕ) : EngineerVerifierStateV1 Payload :=
  { started max_attempts with
    executor := .OutcomeRecorded (digest 141) 1 (at_ 2) (.RetryRequired 1 2 .Failed .Unavailable)
      (digest 10) (at_ 3) }

/-- The workspace of the attempt is removed before the phase changes. -/
def released : EngineerVerifierStateV1 Payload := close_durable_workspace (retry_required 2)

def waiting : EngineerVerifierStateV1 Payload :=
  announced .Engineering .RetryRequired (moved .RetryPending 4 released)

def second_attempt : EngineerVerifierStateV1 Payload :=
  moved .Engineering 5
    { settled waiting with
      attempt := 2
      execution_binding := ⟨1, digest 2, 2, digest 142⟩
      executor := .NotStarted
      workspace := some (workspace 2)
      ledger := ⟨1, "run", "goal", "task", digest 2, digest 130, 2, [], digest 152⟩ }

def reclaimed : EngineerVerifierStateV1 Payload :=
  announced .RetryPending .RetryClaimAccepted second_attempt

/-- The states behind the claim of a run that is retried once. -/
def retried : List (EngineerVerifierStateV1 Payload) :=
  [settled (claimed 2), started 2, retry_required 2, released, waiting, settled waiting, reclaimed,
    settled reclaimed]

def retried_codec : EngineerVerifierCodec Payload :=
  codec [phase_projection (opened 2 []) .Planned .ClaimAccepted,
    phase_projection (moved .RetryPending 4 released) .Engineering .RetryRequired,
    phase_projection second_attempt .RetryPending .RetryClaimAccepted]

theorem retried_accepted : AcceptedChain retried_codec (claimed 2) retried := by
  refine ⟨isOk_iff.mp (by decide +kernel), isChain_iff_steps.mpr ?_⟩
  simp only [retried, steps_cons, steps_nil, List.forall_mem_cons]
  refine ⟨?_, ?_, ?_, ?_, ?_, ?_, ?_, ?_, List.forall_mem_nil _⟩
  all_goals exact isOk_iff.mp (by decide +kernel)

end LocalRun

/-- The discipline of the run that is retried: three revisions, of which the
first is that of its claim, and a second attempt. -/
theorem phase_discipline_retried :
    (final (LocalRun.claimed 2) LocalRun.retried).phase_revision = 3 ∧
      (steps (LocalRun.claimed 2) LocalRun.retried).countP changes_phase = 2 ∧
      ∀ state ∈ LocalRun.claimed 2 :: LocalRun.retried, state.attempt ≤ 2 := by
  obtain ⟨_, _, hrevision, hstates, _⟩ := phase_discipline LocalRun.retried_accepted
  have hfinal : (final (LocalRun.claimed 2) LocalRun.retried).phase_revision = 3 := rfl
  have hfirst : (LocalRun.claimed 2).phase_revision = 1 := rfl
  refine ⟨hfinal, by omega, ?_⟩
  intro state hstate
  obtain ⟨hsame, _, hbudget⟩ := hstates state hstate
  rw [hsame.plan] at hbudget
  exact hbudget

end EngineerVerifierStateV1

end OvcaCore

/-
What may still change in a terminal engineer-verifier state.

`validate_successor` keeps the phase of a terminal state; for the rest the rules
of an attempt go on, and the phase table asks nothing of `Failed` and
`Cancelled`. In `Reviewing` it asks for everything that has been reviewed, so
those fields can only stay: the executor call, a cancellation and a missing
reconciliation are all that a later step can still record there.
-/
import OvcaCore.ExecutorGating
import OvcaCore.WriteAhead

set_option autoImplicit false

namespace OvcaCore

open OvcaCore.Checks OvcaCore.Chains EngineerVerifier EngineerVerifierLoop

/-- How far the call of an executor has come. -/
def ExecutorCallStateV1.rank : ExecutorCallStateV1 → ℕ
  | .NotStarted => 0
  | .Started _ _ _ => 1
  | .OutcomeRecorded _ _ _ _ _ _ => 2

/-- How far a verification has come. -/
def VerifierExecutionStateV1.rank : Option VerifierExecutionStateV1 → ℕ
  | none => 0
  | some (.NotStarted _) => 1
  | some (.Started _ _) => 2
  | some (.PublicationObserved _) => 3
  | some (.Admitted _ _) => 4

/-- The terms of a workspace that no step of an attempt changes. -/
def DurableWorkspaceAuthorityV1.terms (workspace : DurableWorkspaceAuthorityV1) :
    DurableWorkspaceAuthorityV1 :=
  { workspace with
    current_snapshot := workspace.initial_snapshot
    runtime_instance_id := ""
    fence := 0
    runtime_epoch := 0
    heartbeat_at := 0
    next_receipt_sequence := 0
    cleanup_required := false
    closed := false }

/-- The ledger with given entries: every other field of it is determined. -/
def ResolvedEffectLedgerV1.of_entries {P : Type} (sha256 : EngineerVerifierDigests P)
    (plan : EngineerLogicalPlanV1) (attempt : ℕ) (entries : List ResolvedEffectLedgerEntryV1) :
    ResolvedEffectLedgerV1 :=
  let ledger : ResolvedEffectLedgerV1 :=
    { contract_version := ENGINEER_VERIFIER_CONTRACT_VERSION
      run_id := plan.run_id
      goal_id := plan.goal_id
      task_id := plan.task_id
      invocation_digest := plan.invocation_digest
      logical_plan_digest := plan.logical_plan_digest
      attempt := attempt
      entries := entries
      resolved_effect_ledger_digest := "" }
  { ledger with resolved_effect_ledger_digest := ledger.computed_digest sha256 }

namespace EngineerVerifierStateV1

section Terminal

variable {P : Type} [DecidableEq P] {codec : EngineerVerifierCodec P}

/-- What every later state keeps of a terminal one: its phase, its revision and
its attempt stay, and the rest only moves forward. -/
structure StaysFinal (state next : EngineerVerifierStateV1 P) : Prop where
  identity : state.SameIdentity next
  phase : next.phase = state.phase
  phase_revision : next.phase_revision = state.phase_revision
  attempt : next.attempt = state.attempt
  execution_binding : next.execution_binding = state.execution_binding
  keeps : state.Keeps next
  engineer_result_digest : ∀ digest, state.engineer_result_digest = some digest →
    next.engineer_result_digest = some digest
  executor : next.executor = state.executor ∨ state.executor.rank < next.executor.rank
  verifier : next.verifier = state.verifier ∨
    VerifierExecutionStateV1.rank state.verifier < VerifierExecutionStateV1.rank next.verifier
  workspace : next.workspace.map DurableWorkspaceAuthorityV1.terms
    = state.workspace.map DurableWorkspaceAuthorityV1.terms
  controller_time : state.controller_time ≤ next.controller_time

/-- What every later state keeps of a reviewed one: all that was reviewed, and the
digest of the state. -/
structure KeepsReview (state next : EngineerVerifierStateV1 P) : Prop where
  ledger : next.ledger = state.ledger
  prepared_write : next.prepared_write = state.prepared_write
  tool_observations : next.tool_observations = state.tool_observations
  engineer_result : next.engineer_result = state.engineer_result
  engineer_result_digest : next.engineer_result_digest = state.engineer_result_digest
  workspace_bridge : next.workspace_bridge = state.workspace_bridge
  verifier_replay_plan : next.verifier_replay_plan = state.verifier_replay_plan
  verifier : next.verifier = state.verifier
  current_snapshot : (next.workspace.map fun workspace => workspace.current_snapshot)
    = state.workspace.map fun workspace => workspace.current_snapshot
  next_receipt_sequence : (next.workspace.map fun workspace => workspace.next_receipt_sequence)
    = state.workspace.map fun workspace => workspace.next_receipt_sequence
  state_digest : next.state_digest = state.state_digest

omit [DecidableEq P] in
theorem StaysFinal.refl (state : EngineerVerifierStateV1 P) : state.StaysFinal state :=
  ⟨⟨rfl, rfl, rfl, rfl, rfl⟩, rfl, rfl, rfl, rfl, Keeps.refl state, fun _ h => h, Or.inl rfl,
    Or.inl rfl, rfl, le_refl _⟩

omit [DecidableEq P] in
theorem StaysFinal.trans {state middle next : EngineerVerifierStateV1 P}
    (h : state.StaysFinal middle) (h' : middle.StaysFinal next) : state.StaysFinal next where
  identity := ⟨h'.identity.contract_version.trans h.identity.contract_version,
    h'.identity.run_id.trans h.identity.run_id, h'.identity.goal_id.trans h.identity.goal_id,
    h'.identity.task_id.trans h.identity.task_id, h'.identity.plan.trans h.identity.plan⟩
  phase := h'.phase.trans h.phase
  phase_revision := h'.phase_revision.trans h.phase_revision
  attempt := h'.attempt.trans h.attempt
  execution_binding := h'.execution_binding.trans h.execution_binding
  keeps := h.keeps.trans h'.keeps
  engineer_result_digest := fun _ hsome =>
    h'.engineer_result_digest _ (h.engineer_result_digest _ hsome)
  executor := by
    rcases h.executor with hsame | hlt <;> rcases h'.executor with hsame' | hlt'
    · exact Or.inl (hsame'.trans hsame)
    · exact Or.inr (hsame ▸ hlt')
    · exact Or.inr (hsame' ▸ hlt)
    · exact Or.inr (hlt.trans hlt')
  verifier := by
    rcases h.verifier with hsame | hlt <;> rcases h'.verifier with hsame' | hlt'
    · exact Or.inl (hsame'.trans hsame)
    · exact Or.inr (hsame ▸ hlt')
    · exact Or.inr (hsame' ▸ hlt)
    · exact Or.inr (hlt.trans hlt')
  workspace := h'.workspace.trans h.workspace
  controller_time := h.controller_time.trans h'.controller_time

omit [DecidableEq P] in
theorem KeepsReview.refl (state : EngineerVerifierStateV1 P) : state.KeepsReview state :=
  ⟨rfl, rfl, rfl, rfl, rfl, rfl, rfl, rfl, rfl, rfl, rfl⟩

omit [DecidableEq P] in
theorem KeepsReview.trans {state middle next : EngineerVerifierStateV1 P}
    (h : state.KeepsReview middle) (h' : middle.KeepsReview next) : state.KeepsReview next :=
  ⟨h'.ledger.trans h.ledger, h'.prepared_write.trans h.prepared_write,
    h'.tool_observations.trans h.tool_observations, h'.engineer_result.trans h.engineer_result,
    h'.engineer_result_digest.trans h.engineer_result_digest,
    h'.workspace_bridge.trans h.workspace_bridge,
    h'.verifier_replay_plan.trans h.verifier_replay_plan, h'.verifier.trans h.verifier,
    h'.current_snapshot.trans h.current_snapshot,
    h'.next_receipt_sequence.trans h.next_receipt_sequence, h'.state_digest.trans h.state_digest⟩

/-! ## A step in a terminal phase -/

theorem executor_successor_rank {before after : ExecutorCallStateV1}
    (h : executor_successor before after = true) :
    after = before ∨ before.rank < after.rank := by
  cases before <;> cases after <;>
    simp_all [executor_successor, ExecutorCallStateV1.rank]

theorem verifier_successor_rank {before after : Option VerifierExecutionStateV1}
    (h : verifier_successor before after = true) :
    after = before ∨ VerifierExecutionStateV1.rank before < VerifierExecutionStateV1.rank after := by
  rcases before with _ | (_ | _ | _ | _) <;> rcases after with _ | (_ | _ | _ | _) <;>
    simp_all [verifier_successor, VerifierExecutionStateV1.rank]

omit [DecidableEq P] in
/-- The terms of a workspace stay within an attempt. -/
theorem Proceeds.terms {state next : EngineerVerifierStateV1 P} (h : state.Proceeds next) :
    next.workspace.map DurableWorkspaceAuthorityV1.terms
      = state.workspace.map DurableWorkspaceAuthorityV1.terms := by
  have hworkspace := h.workspace
  unfold workspace_successor at hworkspace
  cases hbefore : state.workspace with
  | none =>
    cases hafter : next.workspace with
    | none => rfl
    | some after => simp [hbefore, hafter] at hworkspace
  | some before =>
    cases hafter : next.workspace with
    | none => simp [hbefore, hafter] at hworkspace
    | some after =>
      simp only [hbefore, hafter, disposition_successor, Bool.and_eq_true, beq_iff_eq,
        and_assoc] at hworkspace
      obtain ⟨hlease, hdigest, hinitial, hgrant, hgrantdigest, htoken, _⟩ := hworkspace
      simp only [Option.map_some, DurableWorkspaceAuthorityV1.terms, hlease, hdigest, hinitial,
        hgrant, hgrantdigest, htoken]

/-- The step lemma of terminal states. -/
theorem Succeeds.staysFinal {state next : EngineerVerifierStateV1 P}
    (h : Succeeds codec state next) (hterminal : state.phase.is_terminal = true) :
    state.StaysFinal next ∧ (state.Proceeds next ∨
      ∃ pending, next = state.acknowledged pending) := by
  rcases h.step with ⟨pending, _, rfl⟩ | hstep
  · refine ⟨?_, Or.inr ⟨pending, rfl⟩⟩
    exact ⟨⟨rfl, rfl, rfl, rfl, rfl⟩, rfl, rfl, rfl, rfl, ⟨List.prefix_rfl, List.prefix_rfl,
      fun _ h => h, fun _ h => h, fun _ h => h, fun _ h => h, fun _ h => h⟩, fun _ h => h,
      Or.inl rfl, Or.inl rfl, rfl, le_refl _⟩
  rcases hstep.phase with hmoves | hstays
  · rw [hmoves.not_terminal] at hterminal
    cases hterminal
  rcases hstep.attempt with hretries | hproceeds
  · rw [hretries.phase] at hterminal
    cases hterminal
  refine ⟨?_, Or.inl hproceeds⟩
  exact ⟨⟨h.same_run.contract_version, h.same_run.run_id, h.same_run.goal_id, h.same_run.task_id,
    h.same_run.plan⟩, hstays.phase, hstays.phase_revision, hproceeds.attempt,
    hproceeds.grows.execution_binding, hproceeds.grows.keeps,
    hproceeds.grows.engineer_result_digest, executor_successor_rank hproceeds.executor,
    verifier_successor_rank hproceeds.verifier, hproceeds.terms, h.same_run.controller_time⟩

/-! ## A step in review -/

omit [DecidableEq P] in
/-- A valid ledger is determined by its entries. -/
theorem ledger_of_entries {sha256 : EngineerVerifierDigests P} {plan : EngineerLogicalPlanV1}
    {ledger : ResolvedEffectLedgerV1} (h : ledger.validate_against sha256 plan = .ok ()) :
    ledger = .of_entries sha256 plan ledger.attempt ledger.entries := by
  simp only [ResolvedEffectLedgerV1.validate_against, ResolvedEffectLedgerV1.validate_without_digest,
    validate_version, bind_eq_ok, reject_if_eq_ok, exists_const, exists_and_right,
    exists_unit_eq_ok] at h
  simp only [not_or, ne_eq, not_not] at h
  obtain ⟨⟨_, _, hversion, ⟨hrun, hgoal, htask, hinvocation, hplan, _⟩, _⟩, _, hdigest⟩ := h
  rw [ResolvedEffectLedgerV1.computed_digest, hversion, hrun, hgoal, htask, hinvocation,
    hplan] at hdigest
  unfold ResolvedEffectLedgerV1.of_entries ResolvedEffectLedgerV1.computed_digest
  rcases ledger with ⟨_, _, _, _, _, _, _, _, _⟩
  simp only at hversion hrun hgoal htask hinvocation hplan hdigest ⊢
  rw [hversion, hrun, hgoal, htask, hinvocation, hplan, hdigest]

theorem Valid.ledger_of_entries {sha256 : EngineerVerifierDigests P}
    {state : EngineerVerifierStateV1 P} (h : Valid sha256 state) :
    state.ledger = .of_entries sha256 state.plan state.attempt state.ledger.entries := by
  rw [← h.attempt.2.1]
  exact EngineerVerifierStateV1.ledger_of_entries h.ledger

/-- What a valid state in review has. -/
structure InReview (state : EngineerVerifierStateV1 P) : Prop where
  effects : state.ledger.entries.length = state.plan.ordered_effects.length
  prepared_write : state.prepared_write = none
  engineer_result : ∃ result, state.engineer_result = some result
  engineer_result_digest : ∃ digest, state.engineer_result_digest = some digest
  workspace_bridge : ∃ bridge, state.workspace_bridge = some bridge
  verifier_replay_plan : ∃ plan, state.verifier_replay_plan = some plan
  verifier : ∃ publication admitted_at, state.verifier = some (.Admitted publication admitted_at)
  observations : (observed_entries state.ledger.entries).length = state.tool_observations.length

theorem Valid.inReview {sha256 : EngineerVerifierDigests P} {state : EngineerVerifierStateV1 P}
    (h : Valid sha256 state) (hphase : state.phase = .Reviewing) : InReview state := by
  have hconsistent := h.phase
  simp only [phase_consistent, hphase, has_completed_result, effects_complete, Bool.and_eq_true,
    Option.any_eq_true, beq_iff_eq, Option.isNone_iff_eq_none, Option.isSome_iff_exists]
    at hconsistent
  obtain ⟨⟨⟨⟨⟨result, hresult, _⟩, heffects, _⟩, hprepared⟩, hbridge⟩, verifier, hverifier,
    hadmitted⟩ := hconsistent
  have hobservations := h.observations
  simp only [validate_observations, bind_eq_ok, reject_if_eq_ok, exists_and_right,
    exists_unit_eq_ok, not_or, ne_eq, not_not] at hobservations
  have hdigest := h.result
  have hplan := h.verifier
  refine ⟨heffects, hprepared, ⟨result, hresult⟩, ?_, hbridge, ?_, ?_, hobservations.2.1⟩
  · unfold validate_result at hdigest
    cases hstored : state.engineer_result_digest with
    | none => simp [hresult, hstored] at hdigest
    | some digest => exact ⟨digest, rfl⟩
  · unfold validate_verifier at hplan
    cases hstored : state.verifier_replay_plan with
    | none => simp [hverifier, hstored] at hplan
    | some plan => exact ⟨plan, rfl⟩
  · cases verifier with
    | Admitted publication admitted_at => exact ⟨publication, admitted_at, hverifier⟩
    | NotStarted _ => simp [is_admitted] at hadmitted
    | Started _ _ => simp [is_admitted] at hadmitted
    | PublicationObserved _ => simp [is_admitted] at hadmitted

/-- The step lemma of reviewed states. -/
theorem Succeeds.keepsReview {state next : EngineerVerifierStateV1 P}
    (h : Succeeds codec state next) (hphase : state.phase = .Reviewing) :
    state.KeepsReview next := by
  have hterminal : state.phase.is_terminal = true := by rw [hphase]; rfl
  obtain ⟨hfinal, hproceeds | ⟨pending, rfl⟩⟩ := h.staysFinal hterminal
  swap
  · exact ⟨rfl, rfl, rfl, rfl, rfl, rfl, rfl, rfl, rfl, rfl, rfl⟩
  have hvalid := validate_eq_ok h.valid
  have hnext := validate_eq_ok h.next_valid
  have hbefore := hvalid.inReview hphase
  have hafter := hnext.inReview (hfinal.phase.trans hphase)
  have hplan := h.same_run.plan
  have hentries : next.ledger.entries = state.ledger.entries := by
    refine (hproceeds.grows.ledger.eq_of_length ?_).symm
    rw [hbefore.effects, hafter.effects, hplan]
  have hledger : next.ledger = state.ledger := by
    rw [hnext.ledger_of_entries, hvalid.ledger_of_entries, hentries, hplan, hproceeds.attempt]
  have hobservations : next.tool_observations = state.tool_observations := by
    refine (hproceeds.grows.observations.eq_of_length ?_).symm
    rw [← hbefore.observations, ← hafter.observations, hentries]
  obtain ⟨result, hresult⟩ := hbefore.engineer_result
  obtain ⟨digest, hdigest⟩ := hbefore.engineer_result_digest
  obtain ⟨bridge, hbridge⟩ := hbefore.workspace_bridge
  obtain ⟨plan, hreplay⟩ := hbefore.verifier_replay_plan
  obtain ⟨publication, admitted_at, hverifier⟩ := hbefore.verifier
  have hresult' := hproceeds.grows.engineer_result _ hresult
  have hdigest' := hproceeds.grows.engineer_result_digest _ hdigest
  have hbridge' := hproceeds.grows.workspace_bridge _ hbridge
  have hreplay' := hproceeds.grows.verifier_replay_plan _ hreplay
  have hverifier' : next.verifier = state.verifier := by
    have hsuccessor := hproceeds.verifier
    rw [hverifier] at hsuccessor ⊢
    simp only [verifier_successor, beq_iff_eq] at hsuccessor
    exact hsuccessor.symm
  have hstate : next.state_digest = state.state_digest := by
    rw [← hnext.state_digest, ← hvalid.state_digest]
    unfold computed_state_digest transcript_digest
    rw [hfinal.identity.contract_version, hfinal.identity.run_id, hfinal.identity.goal_id,
      hfinal.identity.task_id, hfinal.phase, hfinal.phase_revision, hfinal.attempt, hplan,
      hfinal.execution_binding, hledger, hdigest, hdigest', hverifier']
  have hworkspace : ((next.workspace.map fun workspace => workspace.current_snapshot)
      = state.workspace.map fun workspace => workspace.current_snapshot) ∧
      (next.workspace.map fun workspace => workspace.next_receipt_sequence)
      = state.workspace.map fun workspace => workspace.next_receipt_sequence := by
    have hsuccessor := hproceeds.workspace
    rcases hproceeds.snapshots with ⟨hnone, hnone'⟩ | ⟨before, after, hsome, hsome', _, hsnapshot⟩
    · rw [hnone, hnone']
      exact ⟨rfl, rfl⟩
    · simp only [workspace_successor, hsome, hsome', Bool.and_eq_true, receipt_successor,
        Bool.or_eq_true, beq_iff_eq, hobservations] at hsuccessor
      rw [hsome, hsome', Option.map_some, Option.map_some, hsnapshot hentries]
      rcases hsuccessor.2 with hsame | ⟨_, hlength⟩
      · exact ⟨rfl, by rw [Option.map_some, Option.map_some, hsame]⟩
      · omega
  exact ⟨hledger, by rw [hbefore.prepared_write, hafter.prepared_write], hobservations,
    by rw [hresult, hresult'], by rw [hdigest, hdigest'], by rw [hbridge, hbridge'],
    by rw [hreplay, hreplay'], hverifier', hworkspace.1, hworkspace.2, hstate⟩

/-! ## Terminal states of a chain -/

variable {first : EngineerVerifierStateV1 P} {rest : List (EngineerVerifierStateV1 P)}

end Terminal

namespace LocalRun

/-- The cancellation of a run. -/
def with_cancellation (state : EngineerVerifierStateV1 Payload) :
    EngineerVerifierStateV1 Payload :=
  { state with
    cancellation := some ⟨"request", at_ 8⟩
    controller_time := at_ 8 }

/-- A reviewed run that is asked to cancel. -/
def reviewed_cancelled : EngineerVerifierStateV1 Payload :=
  with_cancellation (in_review (with_result completed))

/-- A reviewed run whose executor is called. -/
def reviewed_called : EngineerVerifierStateV1 Payload :=
  { in_review (with_result (settled (claimed 1))) with
    executor := .Started (digest 141) 1 (at_ 8)
    controller_time := at_ 8 }

theorem reviewed_successors :
    (in_review (with_result completed)).validate_successor
        (verification_codec (with_result completed)) reviewed_cancelled = .ok ()
      ∧ (in_review (with_result (settled (claimed 1)))).validate_successor
        (verification_codec (with_result (settled (claimed 1)))) reviewed_called = .ok () := by
  refine ⟨?_, ?_⟩
  all_goals exact isOk_iff.mp (by decide +kernel)

theorem reviewed_cancelled_accepted :
    AcceptedChain (verification_codec (with_result completed)) (claimed 1)
      (executed ++ [reviewed_cancelled]) := by
  obtain ⟨hcancelled, -⟩ := reviewed_successors
  exact AcceptedChain.concat executed_accepted hcancelled

theorem reviewed_called_accepted :
    AcceptedChain (verification_codec (with_result (settled (claimed 1)))) (claimed 1)
      (unexecuted ++ [reviewed_called]) := by
  obtain ⟨-, hcalled⟩ := reviewed_successors
  exact AcceptedChain.concat unexecuted_accepted hcalled

def cancelling : EngineerVerifierStateV1 Payload := moved .Cancelled 2 (settled writing)

def cancelled : EngineerVerifierStateV1 Payload :=
  settled (announced .Engineering .CancellationAccepted cancelling)

/-- The write is prepared behind the cancellation, then recorded with a result and a
verifier, and then the executor is called. -/
def cancelled_prepared : EngineerVerifierStateV1 Payload :=
  { cancelled with prepared_write := some prepared }

def cancelled_recorded : EngineerVerifierStateV1 Payload :=
  bridged (with_result (with_entry { cancelled with
    write_reconciliation := some reconciliation
    workspace := some { workspace 1 with current_snapshot := snapshot 1 [file] } }))

def cancelled_called : EngineerVerifierStateV1 Payload :=
  { cancelled_recorded with executor := .Started (digest 141) 1 (at_ 8) }

def revived : List (EngineerVerifierStateV1 Payload) :=
  [settled writing, announced .Engineering .CancellationAccepted cancelling, cancelled,
    cancelled_prepared, cancelled_recorded, cancelled_called]

theorem revived_accepted :
    AcceptedChain (codec [phase_projection (opened 1 [write_effect]) .Planned .ClaimAccepted,
      phase_projection cancelling .Engineering .CancellationAccepted]) writing revived := by
  refine ⟨isOk_iff.mp (by decide +kernel), isChain_iff_steps.mpr ?_⟩
  simp only [revived, steps_cons, steps_nil, List.forall_mem_cons]
  refine ⟨?_, ?_, ?_, ?_, ?_, ?_, List.forall_mem_nil _⟩
  all_goals exact isOk_iff.mp (by decide +kernel)

end LocalRun

end EngineerVerifierStateV1

end OvcaCore

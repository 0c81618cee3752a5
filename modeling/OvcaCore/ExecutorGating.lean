/-
Whether effects and verifications of an engineer-verifier run are those of an
executor that has completed.

Neither `validate` nor `validate_successor` compares the stored result with the
outcome that the executor has recorded; a step that changes the executor only has
to leave the rest alone. So a chain keeps effects, verification and review behind
a completed executor exactly when its steps take the result they store from it,
and store it no later than they record an effect.
-/
import OvcaCore.PhaseDiscipline

set_option autoImplicit false

namespace OvcaCore

open OvcaCore.Checks OvcaCore.Chains EngineerVerifier EngineerVerifierLoop

/-- The result of a recorded completion. -/
def ExecutorCallStateV1.completed_result : ExecutorCallStateV1 → Option RoleResultV1
  | .OutcomeRecorded _ _ _ (.Completed result _) _ _ => some result
  | _ => none

namespace EngineerVerifierStateV1

section Gating

variable {P : Type} [DecidableEq P] {codec : EngineerVerifierCodec P}

/-- Something of an attempt has been done with the result of the engineer. -/
def Engaged (state : EngineerVerifierStateV1 P) : Prop :=
  state.ledger.entries ≠ [] ∨ state.prepared_write ≠ none ∨ state.engineer_result ≠ none ∨
    state.phase = .Verifying ∨ state.phase = .Reviewing

/-- What has been done is that of an executor which completed with the stored
result. -/
def Gated (state : EngineerVerifierStateV1 P) : Prop :=
  state.Engaged → ∃ result, state.executor.completed_result = some result ∧
    state.engineer_result = some result

/-- A step that stores a result takes it from the recorded completion of the
executor, and a step that records an effect has a result stored with it. -/
structure TakesResult (state next : EngineerVerifierStateV1 P) : Prop where
  result : state.engineer_result = none → ∀ result, next.engineer_result = some result →
    state.executor.completed_result = some result
  entry : next.ledger.entries ≠ [] → next.ledger.entries ≠ state.ledger.entries →
    next.engineer_result ≠ none
  prepared : next.prepared_write ≠ none → next.prepared_write ≠ state.prepared_write →
    next.engineer_result ≠ none

instance (state next : EngineerVerifierStateV1 P) : Decidable (state.TakesResult next) :=
  decidable_of_iff
    ((state.engineer_result = none → next.engineer_result.all (fun result =>
        state.executor.completed_result = some result) = true)
      ∧ (next.ledger.entries ≠ [] → next.ledger.entries ≠ state.ledger.entries →
        next.engineer_result ≠ none)
      ∧ (next.prepared_write ≠ none → next.prepared_write ≠ state.prepared_write →
        next.engineer_result ≠ none))
    ⟨fun ⟨h₁, h₂, h₃⟩ => ⟨by simpa [Option.all_eq_true] using h₁, h₂, h₃⟩,
    fun h => ⟨by simpa [Option.all_eq_true] using h.result, h.entry, h.prepared⟩⟩

/-- A completed executor stays as it is. -/
theorem executor_successor_completed {before after : ExecutorCallStateV1} {result : RoleResultV1}
    (h : executor_successor before after = true)
    (hcompleted : before.completed_result = some result) : after = before := by
  cases before with
  | NotStarted => simp [ExecutorCallStateV1.completed_result] at hcompleted
  | Started _ _ _ => simp [ExecutorCallStateV1.completed_result] at hcompleted
  | OutcomeRecorded _ _ _ _ _ _ =>
    simp only [executor_successor, beq_iff_eq] at h
    exact h.symm

/-- A verification or a review has a result. -/
theorem Valid.result_of_verification {sha256 : EngineerVerifierDigests P}
    {state : EngineerVerifierStateV1 P} (h : Valid sha256 state)
    (hphase : state.phase = .Verifying ∨ state.phase = .Reviewing) :
    ∃ result, state.engineer_result = some result := by
  have hconsistent := h.phase
  have hcompleted : state.has_completed_result = true := by
    rcases hphase with hphase | hphase
    · simp only [phase_consistent, hphase, Bool.and_eq_true] at hconsistent
      exact hconsistent.1.1.1.1.1
    · simp only [phase_consistent, hphase, Bool.and_eq_true] at hconsistent
      exact hconsistent.1.1.1.1
  rw [has_completed_result, Option.any_eq_true] at hcompleted
  obtain ⟨result, hresult, _⟩ := hcompleted
  exact ⟨result, hresult⟩

omit [DecidableEq P] in
/-- A state in which something has been done is not the first of an attempt. -/
theorem Retries.not_engaged {state next : EngineerVerifierStateV1 P} (h : state.Retries next) :
    ¬ next.Engaged := by
  rintro (hledger | hprepared | hresult | hphase | hphase)
  · exact hledger h.ledger
  · exact hprepared h.prepared_write
  · exact hresult h.engineer_result
  · rw [h.next_phase] at hphase
    cases hphase
  · rw [h.next_phase] at hphase
    cases hphase

theorem not_engaged_of_install {state : EngineerVerifierStateV1 P}
    (h : state.validate_initial_install codec = .ok ()) : ¬ state.Engaged := by
  obtain ⟨_, huntouched, hphase⟩ := validate_initial_install_eq_ok h
  have hphases : state.phase ≠ .Verifying ∧ state.phase ≠ .Reviewing := by
    rcases hphase with ⟨hphase, _⟩ | ⟨hphase, _⟩ <;> simp [hphase]
  rintro (hledger | hprepared | hresult | hverifying | hreviewing)
  · exact hledger huntouched.ledger
  · exact hprepared huntouched.prepared_write
  · exact hresult huntouched.engineer_result
  · exact hphases.1 hverifying
  · exact hphases.2 hreviewing

omit [DecidableEq P] in
/-- A step that changes the executor leaves everything else as it was. -/
theorem Proceeds.engaged_of_called {state next : EngineerVerifierStateV1 P}
    (h : state.Proceeds next) (hne : next.executor ≠ state.executor) :
    next.Engaged ↔ state.Engaged := by
  obtain ⟨hquiet, _⟩ := h.called hne
  unfold Engaged
  rw [hquiet.ledger, hquiet.prepared_write, hquiet.engineer_result, hquiet.phase]

/-- What a step within an attempt has done has a stored result. -/
theorem TakesResult.result_of_engaged {state next : EngineerVerifierStateV1 P}
    (h : state.TakesResult next) (hvalid : Valid codec.sha256 next) (hproceeds : state.Proceeds next)
    (hgated : state.Gated) (hengaged : next.Engaged) :
    ∃ result, next.engineer_result = some result := by
  have hkept : state.Engaged → ∃ result, next.engineer_result = some result := by
    intro hbefore
    obtain ⟨result, _, hresult⟩ := hgated hbefore
    exact ⟨result, hproceeds.grows.engineer_result result hresult⟩
  rcases hengaged with hledger | hprepared | hresult | hphase
  · by_cases hsame : next.ledger.entries = state.ledger.entries
    · exact hkept (Or.inl (hsame ▸ hledger))
    · exact Option.ne_none_iff_exists'.mp (h.entry hledger hsame)
  · by_cases hsame : next.prepared_write = state.prepared_write
    · exact hkept (Or.inr (Or.inl (hsame ▸ hprepared)))
    · exact Option.ne_none_iff_exists'.mp (h.prepared hprepared hsame)
  · exact Option.ne_none_iff_exists'.mp hresult
  · exact hvalid.result_of_verification hphase

/-- The step lemma: a step that takes its result keeps the gate. -/
theorem Succeeds.gated {state next : EngineerVerifierStateV1 P} (h : Succeeds codec state next)
    (htakes : state.TakesResult next) (hgated : state.Gated) : next.Gated := by
  rcases h.step with ⟨pending, _, rfl⟩ | hstep
  · exact hgated
  rcases hstep.attempt with hretries | hproceeds
  · exact fun hengaged => absurd hengaged hretries.not_engaged
  intro hengaged
  by_cases hcalled : next.executor = state.executor
  · obtain ⟨result, hresult⟩ :=
      htakes.result_of_engaged (validate_eq_ok h.next_valid) hproceeds hgated hengaged
    refine ⟨result, ?_, hresult⟩
    rw [hcalled]
    cases hstored : state.engineer_result with
    | none => exact htakes.result hstored result hresult
    | some stored =>
      have hengaged' : state.Engaged := Or.inr (Or.inr (Or.inl (by simp [hstored])))
      obtain ⟨recorded, hrecorded, hsame⟩ := hgated hengaged'
      have hnext := hproceeds.grows.engineer_result recorded hsame
      rw [hresult] at hnext
      rw [hrecorded, Option.some.inj hnext]
  · -- the executor of a gated state has completed, so it is not called again
    obtain ⟨result, hrecorded, _⟩ := hgated ((hproceeds.engaged_of_called hcalled).mp hengaged)
    exact absurd (executor_successor_completed hproceeds.executor hrecorded) hcalled

/-- A gated state is reached by a step that took its result. -/
theorem Succeeds.takesResult {state next : EngineerVerifierStateV1 P}
    (h : Succeeds codec state next) (hgated : next.Gated) : state.TakesResult next := by
  have hresult : next.Engaged → next.engineer_result ≠ none := by
    intro hengaged
    obtain ⟨result, _, hresult⟩ := hgated hengaged
    simp [hresult]
  refine ⟨?_, fun hledger _ => hresult (Or.inl hledger),
    fun hprepared _ => hresult (Or.inr (Or.inl hprepared))⟩
  intro hnone result hsome
  obtain ⟨recorded, hrecorded, hsame⟩ := hgated (Or.inr (Or.inr (Or.inl (by simp [hsome]))))
  rw [hsome] at hsame
  obtain rfl := Option.some.inj hsame
  rcases h.step with ⟨pending, _, rfl⟩ | hstep
  · exact hrecorded
  rcases hstep.attempt with hretries | hproceeds
  · rw [hretries.engineer_result] at hsome
    cases hsome
  · by_cases hcalled : next.executor = state.executor
    · rw [← hcalled]
      exact hrecorded
    · have hquiet := (hproceeds.called hcalled).1.engineer_result
      rw [hsome, hnone] at hquiet
      cases hquiet

variable {first : EngineerVerifierStateV1 P} {rest : List (EngineerVerifierStateV1 P)}

/-- **Executor gating.** The states of an accepted chain are gated exactly when its
steps take the results they store from the executor. -/
theorem gated_iff (h : AcceptedChain codec first rest) :
    (∀ state ∈ first :: rest, state.Gated) ↔
      ∀ step ∈ steps first rest, step.1.TakesResult step.2 := by
  constructor
  · intro hgated step hstep
    exact (h.succeeds step hstep).takesResult (hgated _ (mem_of_mem_steps hstep).2)
  · intro htakes
    refine chain_invariant ?_ ?_
    · exact fun hengaged => absurd hengaged (not_engaged_of_install h.installed)
    · intro step hstep hbefore
      exact (h.succeeds step hstep).gated (htakes step hstep) hbefore

end Gating

/-! ## A run that is reviewed -/

namespace LocalRun

def result : RoleResultV1 where
  contract_version := 1
  result_id := "result"
  invocation_id := "invocation"
  invocation_digest := digest 2
  producer := engineer
  task_id := "task"
  run_id := "run"
  scope := scope
  idempotency_key := "key"
  attempt := 1
  state := .Completed
  payload := .Specialist "done"
  evidence_ids := ["evidence"]
  occurred_at := at_ 2

def bridge : WorkspaceDiffBridgeV1 where
  contract_version := 1
  run_id := "run"
  goal_id := "goal"
  task_id := "task"
  attempt := 1
  broker_before_snapshot_digest := digest 100
  broker_after_snapshot_digest := digest 100
  changed_paths := []
  before_file_identities := []
  after_file_identities := []
  verifier_source_manifest_fingerprint := digest 20
  source_copy_digest := digest 20
  snapshot_copy_digest := digest 20
  invocation_digest := digest 2
  engineer_result_digest := digest 3
  command_set_digest := digest 21
  capability_set_digest := digest 22
  policy_digest := digest 23
  environment_digest := digest 24
  canonical_diff_digest := digest 11

def evidence_key : EvidenceKey := ⟨"run", "goal", "task"⟩

def replay_plan : VerifierReplayPlanV1 where
  contract_version := 1
  evidence_key := evidence_key
  attempt := 1
  created_at := at_ 4
  implementation_actor := "engineer"
  verifier_actor := "verifier"
  limits := ⟨1000, 1024, 1024⟩
  behavior_sha256 := digest 25
  capabilities_sha256 := digest 22
  selection_sha256 := digest 26
  source_manifest_sha256 := digest 27
  failure_identities_sha256 := digest 28
  executable_profiles_identity_sha256 := digest 29
  environment_names := []
  environment_digest := digest 24
  sealed_workspace_snapshot_digest := digest 100
  source_manifest_fingerprint := digest 20
  workspace_bridge_digest := digest 11
  expected_initial_projection := .Absent
  replay_plan_digest := digest 13

def bundle : VerificationBundle where
  contract_version := 1
  bundle_id := "bundle"
  run_id := "run"
  goal_id := "goal"
  task_id := "task"
  behavior_contract_id := "behavior"
  capability_ids := ["capability"]
  implementation_actor := "engineer"
  verifier_actor := "verifier"
  fingerprints := ⟨digest 20, digest 20, digest 25, digest 22, digest 21, digest 23, digest 24⟩
  criterion_results := [⟨"criterion", 0, .Acceptance, "it works", .Pass⟩]
  failures := []
  verdict := .Pass
  created_at := at_ 4

def publication : VerifierPublication where
  replay_plan_digest := digest 13
  transcript := ⟨[⟨0, digest 21, digest 29, .Completed, some 0, digest 0, digest 0, 0, 0⟩]⟩
  transcript_digest := digest 6
  bundle := bundle
  bundle_record_digest := digest 5
  evidence_current := ⟨evidence_key, "bundle", digest 5, .Current, ⟨1, digest 7⟩⟩
  observed_at := at_ 6

/-- The executor completes. -/
def completed : EngineerVerifierStateV1 Payload :=
  { started 1 with
    executor := .OutcomeRecorded (digest 141) 1 (at_ 2) (.Completed result .Unavailable) (digest 10)
      (at_ 3) }

/-- The result is stored, whatever the executor has done. -/
def with_result (state : EngineerVerifierStateV1 Payload) : EngineerVerifierStateV1 Payload :=
  rehashed { state with
    engineer_result := some result
    engineer_result_digest := some (digest 3) }

def with_verifier (state : EngineerVerifierStateV1 Payload) (verifier : VerifierExecutionStateV1) :
    EngineerVerifierStateV1 Payload :=
  rehashed { state with verifier := some verifier }

/-- The workspace is sealed for the verifier. -/
def bridged (state : EngineerVerifierStateV1 Payload) : EngineerVerifierStateV1 Payload :=
  with_verifier
    { state with workspace_bridge := some bridge, verifier_replay_plan := some replay_plan }
    (.NotStarted (digest 13))

def verifying (state : EngineerVerifierStateV1 Payload) : EngineerVerifierStateV1 Payload :=
  moved .Verifying 5 (bridged state)

def in_verification (state : EngineerVerifierStateV1 Payload) : EngineerVerifierStateV1 Payload :=
  settled (announced .Engineering .EngineerCompleted (verifying state))

def published (state : EngineerVerifierStateV1 Payload) : EngineerVerifierStateV1 Payload :=
  with_verifier (in_verification state) (.PublicationObserved publication)

def reviewing (state : EngineerVerifierStateV1 Payload) : EngineerVerifierStateV1 Payload :=
  moved .Reviewing 7 (with_verifier (published state) (.Admitted publication (at_ 7)))

def in_review (state : EngineerVerifierStateV1 Payload) : EngineerVerifierStateV1 Payload :=
  settled (announced .Verifying .VerificationEvidenceAccepted (reviewing state))

/-- A state with a result is verified and admitted to review. -/
def verification (state : EngineerVerifierStateV1 Payload) :
    List (EngineerVerifierStateV1 Payload) :=
  [bridged state, announced .Engineering .EngineerCompleted (verifying state),
    in_verification state,
    with_verifier (in_verification state) (.Started (digest 13) (at_ 5)), published state,
    announced .Verifying .VerificationEvidenceAccepted (reviewing state), in_review state]

def verification_codec (state : EngineerVerifierStateV1 Payload) : EngineerVerifierCodec Payload :=
  codec [phase_projection (opened 1 []) .Planned .ClaimAccepted,
    phase_projection (verifying state) .Engineering .EngineerCompleted,
    phase_projection (reviewing state) .Verifying .VerificationEvidenceAccepted]

def executed : List (EngineerVerifierStateV1 Payload) :=
  settled (claimed 1) :: started 1 :: completed :: with_result completed
    :: verification (with_result completed)

theorem executed_accepted :
    AcceptedChain (verification_codec (with_result completed)) (claimed 1) executed := by
  refine ⟨isOk_iff.mp (by decide +kernel), isChain_iff_steps.mpr ?_⟩
  simp only [executed, verification, steps_cons, steps_nil, List.forall_mem_cons]
  refine ⟨?_, ?_, ?_, ?_, ?_, ?_, ?_, ?_, ?_, ?_, ?_, List.forall_mem_nil _⟩
  all_goals exact isOk_iff.mp (by decide +kernel)

/-- The result is stored and reviewed before the executor has been called. -/
def unexecuted : List (EngineerVerifierStateV1 Payload) :=
  settled (claimed 1) :: with_result (settled (claimed 1))
    :: verification (with_result (settled (claimed 1)))

theorem unexecuted_accepted :
    AcceptedChain (verification_codec (with_result (settled (claimed 1)))) (claimed 1) unexecuted := by
  refine ⟨isOk_iff.mp (by decide +kernel), isChain_iff_steps.mpr ?_⟩
  simp only [unexecuted, verification, steps_cons, steps_nil, List.forall_mem_cons]
  refine ⟨?_, ?_, ?_, ?_, ?_, ?_, ?_, ?_, ?_, List.forall_mem_nil _⟩
  all_goals exact isOk_iff.mp (by decide +kernel)

end LocalRun

/-- A run whose executor completes before its result is stored reaches the review, and
the state it reaches there is gated. -/
theorem gated_executed :
    (final (LocalRun.claimed 1) LocalRun.executed).phase = .Reviewing ∧
      (final (LocalRun.claimed 1) LocalRun.executed).Gated := by
  have hgated := (gated_iff LocalRun.executed_accepted).mpr (by decide)
  exact ⟨rfl, hgated _ (final_mem _ _)⟩

/-- A run that is admitted to review although its executor has never been called. -/
theorem unexecuted_reviewed :
    AcceptedChain (LocalRun.verification_codec (LocalRun.with_result
        (LocalRun.settled (LocalRun.claimed 1)))) (LocalRun.claimed 1) LocalRun.unexecuted ∧
      (final (LocalRun.claimed 1) LocalRun.unexecuted).phase = .Reviewing ∧
      (final (LocalRun.claimed 1) LocalRun.unexecuted).executor = .NotStarted ∧
      ¬ (final (LocalRun.claimed 1) LocalRun.unexecuted).Gated := by
  have hphase : (final (LocalRun.claimed 1) LocalRun.unexecuted).phase = .Reviewing := rfl
  have hexecutor : (final (LocalRun.claimed 1) LocalRun.unexecuted).executor = .NotStarted := rfl
  refine ⟨LocalRun.unexecuted_accepted, hphase, hexecutor, ?_⟩
  intro hgated
  obtain ⟨result, hcompleted, _⟩ := hgated (Or.inr (Or.inr (Or.inr (Or.inr hphase))))
  rw [hexecutor] at hcompleted
  cases hcompleted

end EngineerVerifierStateV1

end OvcaCore

/-
How often an engineer-verifier run can be retried.

A retry leaves `RetryPending` for `Engineering`. `validate_successor` picks the
check for it by the attempt of the next state: with another attempt the state
has to pass `validate_retry_successor`, with the same attempt it passes as a step
within an attempt, and the phase table lets it in as long as its workspace is
closed. Under the first check the attempts count the retries and every change of
phase climbs a rank; the second one lets the phases go round.
-/
import OvcaCore.PhaseDiscipline

set_option autoImplicit false

namespace OvcaCore

open OvcaCore.Checks OvcaCore.Chains EngineerVerifier EngineerVerifierLoop

namespace EngineerVerifierStateV1

section Retries

variable {P : Type} [DecidableEq P] {codec : EngineerVerifierCodec P}

/-- The steps from `RetryPending` to `Engineering`. -/
def claims_retry (step : EngineerVerifierStateV1 P × EngineerVerifierStateV1 P) : Bool :=
  step.1.phase == .RetryPending && step.2.phase == .Engineering

/-- The workspace of a state is closed. -/
def workspace_closed (state : EngineerVerifierStateV1 P) : Bool :=
  state.workspace.any fun workspace => workspace.closed

omit [DecidableEq P] in
theorem claims_retry_iff {step : EngineerVerifierStateV1 P × EngineerVerifierStateV1 P} :
    claims_retry step = true ↔ step.1.phase = .RetryPending ∧ step.2.phase = .Engineering := by
  simp [claims_retry]

/-- The retries of a chain are bounded by the budget of its plan: each of them
takes up the next attempt, one fewer than the budget allows, and no chain
changes its phase more often than the budget allows either. -/
structure BoundedRetries (first : EngineerVerifierStateV1 P)
    (rest : List (EngineerVerifierStateV1 P)) : Prop where
  attempt : ∀ step ∈ steps first rest, claims_retry step = true →
    step.2.attempt = step.1.attempt + 1
  retries : (steps first rest).countP claims_retry + 1
    ≤ first.plan.invocation.budget.max_attempts
  phases : (steps first rest).countP changes_phase
    ≤ 2 * first.plan.invocation.budget.max_attempts + 1

/-! ## The two ways of a retry -/

omit [DecidableEq P] in
/-- A closed workspace stays closed within an attempt. -/
theorem Proceeds.workspace_closed {state next : EngineerVerifierStateV1 P}
    (h : state.Proceeds next) (hclosed : state.workspace_closed = true) :
    next.workspace_closed = true := by
  have hworkspace := h.workspace
  unfold EngineerVerifierStateV1.workspace_closed at hclosed ⊢
  unfold workspace_successor at hworkspace
  cases hbefore : state.workspace with
  | none => simp [hbefore] at hclosed
  | some before =>
    cases hafter : next.workspace with
    | none => simp [hbefore, hafter] at hworkspace
    | some after =>
      simp only [hbefore, hafter, disposition_successor, Bool.and_eq_true] at hworkspace
      simp only [hbefore, Option.any_some] at hclosed
      have hstays := hworkspace.1.1.1.1.1.1.1.1.2
      simpa [hclosed] using hstays

/-- A retry takes up the next attempt in an open workspace, or keeps its attempt in
the closed one. -/
theorem Succeeds.claims_retry {state next : EngineerVerifierStateV1 P}
    (h : Succeeds codec state next) (hclaims : claims_retry (state, next) = true) :
    next.attempt = state.attempt + 1 ∧ next.workspace_closed = false ∨
      next.attempt = state.attempt ∧ next.workspace_closed = true := by
  obtain ⟨hphase, hnext⟩ := claims_retry_iff.mp hclaims
  simp only at hphase hnext
  rcases h.step with ⟨pending, _, rfl⟩ | hstep
  · have hsame : (state.acknowledged pending).phase = state.phase := rfl
    rw [hsame, hphase] at hnext
    cases hnext
  rcases hstep.attempt with hretries | hproceeds
  · obtain ⟨_, after, _, hafter, _, _, hopen, _⟩ := hretries.workspaces
    refine Or.inl ⟨hretries.attempt, ?_⟩
    simp [workspace_closed, hafter, hopen]
  · have hclosed : state.workspace_closed = true := by
      have hconsistent := (validate_eq_ok h.valid).phase
      simp only [phase_consistent, hphase, Bool.and_eq_true] at hconsistent
      exact hconsistent.1.1
    exact Or.inr ⟨hproceeds.attempt, hproceeds.workspace_closed hclosed⟩

/-! ## The rank of a phase -/

/-- How far a phase is on its way through an attempt. -/
def phase_rank : EngineerVerifierPhaseV1 → ℕ
  | .Planned => 0
  | .Engineering => 1
  | .RetryPending | .Verifying => 2
  | .Reviewing | .Failed | .Cancelled => 3

theorem phase_rank_le (phase : EngineerVerifierPhaseV1) : phase_rank phase ≤ 3 := by
  cases phase <;> simp [phase_rank]

/-- Every allowed transition but a retry climbs. -/
theorem phase_rank_lt {from_ to_ : EngineerVerifierPhaseV1} {trigger : EngineerVerifierTriggerV1}
    (h : transition_allowed from_ trigger to_ = true)
    (hretry : ¬ (from_ = .RetryPending ∧ to_ = .Engineering)) :
    phase_rank from_ < phase_rank to_ := by
  cases from_ <;> cases to_ <;> simp_all [transition_allowed, phase_rank]

/-- The rank of a state in its run. -/
def run_rank (state : EngineerVerifierStateV1 P) : ℕ := 2 * state.attempt + phase_rank state.phase

omit [DecidableEq P] in
/-- A disciplined step whose retry takes up the next attempt climbs with every
change of phase. -/
theorem Disciplined.run_rank {state next : EngineerVerifierStateV1 P}
    (h : Disciplined codec state next)
    (hretry : EngineerVerifierStateV1.claims_retry (state, next) = true →
      next.attempt = state.attempt + 1) :
    state.run_rank + (if changes_phase (state, next) then 1 else 0) ≤ next.run_rank := by
  unfold EngineerVerifierStateV1.run_rank
  by_cases hchanges : next.phase = state.phase
  · have hfalse : changes_phase (state, next) = false := by simp [changes_phase, hchanges]
    have hattempt : state.attempt ≤ next.attempt := by
      rcases h.attempt with hsame | ⟨hraised, _⟩ <;> omega
    rw [hfalse, hchanges, if_neg Bool.false_ne_true]
    omega
  · have htrue : changes_phase (state, next) = true := by simp [changes_phase, hchanges]
    rw [htrue, if_pos rfl]
    by_cases hclaims : EngineerVerifierStateV1.claims_retry (state, next) = true
    · have hraised := hretry hclaims
      obtain ⟨hphase, hnext⟩ := claims_retry_iff.mp hclaims
      simp only at hphase hnext
      rw [hphase, hnext]
      simp only [phase_rank]
      omega
    · obtain ⟨_, _, _, projection, _, _, hallowed⟩ := h.phase hchanges
      have hclimbs : phase_rank state.phase < phase_rank next.phase :=
        phase_rank_lt hallowed fun hboth => hclaims (claims_retry_iff.mpr hboth)
      have hattempt : state.attempt ≤ next.attempt := by
        rcases h.attempt with hsame | ⟨hraised, _⟩ <;> omega
      omega

/-! ## Counting -/

variable {first : EngineerVerifierStateV1 P} {rest : List (EngineerVerifierStateV1 P)}

/-- The attempts count the retries that take up the next one. -/
theorem AcceptedChain.final_attempt (h : AcceptedChain codec first rest)
    (hretry : ∀ step ∈ steps first rest, claims_retry step = true →
      step.2.attempt = step.1.attempt + 1) :
    (final first rest).attempt = 1 + (steps first rest).countP claims_retry := by
  have hfirst := (firstState_of_install h.installed).attempt
  rw [← hfirst]
  refine count_steps_eq ?_
  intro step hstep
  by_cases hclaims : claims_retry step = true
  · rw [if_pos hclaims, hretry step hstep hclaims]
  · rw [if_neg hclaims]
    rcases (h.succeeds step hstep).disciplined.attempt with hsame | ⟨_, hphase, hnext⟩
    · omega
    · exact absurd (claims_retry_iff.mpr ⟨hphase, hnext⟩) hclaims

/-- **Retries are bounded exactly when none of them keeps a closed workspace.** -/
theorem boundedRetries_iff (h : AcceptedChain codec first rest) :
    BoundedRetries first rest ↔ ∀ step ∈ steps first rest, claims_retry step = true →
      step.2.workspace_closed = false := by
  constructor
  · intro hbounded step hstep hclaims
    rcases (h.succeeds step hstep).claims_retry hclaims with ⟨_, hopen⟩ | ⟨hsame, _⟩
    · exact hopen
    · have hraised := hbounded.attempt step hstep hclaims
      omega
  · intro hopens
    have hretry : ∀ step ∈ steps first rest, claims_retry step = true →
        step.2.attempt = step.1.attempt + 1 := by
      intro step hstep hclaims
      rcases (h.succeeds step hstep).claims_retry hclaims with ⟨hraised, _⟩ | ⟨_, hclosed⟩
      · exact hraised
      · rw [hopens step hstep hclaims] at hclosed
        cases hclosed
    have hmem := final_mem first rest
    have hbudget := (h.valid _ hmem).attempt.2.2.2
    rw [(h.same_identity _ hmem).plan] at hbudget
    have hattempt := h.final_attempt hretry
    have hclimb : first.run_rank + (steps first rest).countP changes_phase
        ≤ (final first rest).run_rank := by
      refine count_steps_le ?_
      intro step hstep
      exact (h.succeeds step hstep).disciplined.run_rank (hretry step hstep)
    have hfirst := (firstState_of_install h.installed).attempt
    have htop := phase_rank_le (final first rest).phase
    unfold EngineerVerifierStateV1.run_rank at hclimb
    exact ⟨hretry, by omega, by omega⟩

end Retries

/-- The retried run takes up its second attempt in a new workspace. -/
theorem boundedRetries_retried : BoundedRetries (LocalRun.claimed 2) LocalRun.retried :=
  (boundedRetries_iff LocalRun.retried_accepted).mpr (by decide)

namespace LocalRun

/-- The attempt is taken up again, in the workspace that has been removed. -/
def reentered : EngineerVerifierStateV1 Payload :=
  announced .RetryPending .RetryClaimAccepted (moved .Engineering 5 (settled waiting))

def waiting_again : EngineerVerifierStateV1 Payload :=
  announced .Engineering .RetryRequired (moved .RetryPending 6 (settled reentered))

def reentered_again : EngineerVerifierStateV1 Payload :=
  announced .RetryPending .RetryClaimAccepted (moved .Engineering 7 (settled waiting_again))

def spinning : List (EngineerVerifierStateV1 Payload) :=
  [settled (claimed 2), started 2, retry_required 2, released, waiting, settled waiting, reentered,
    settled reentered, waiting_again, settled waiting_again, reentered_again]

def spinning_codec : EngineerVerifierCodec Payload :=
  codec [phase_projection (opened 2 []) .Planned .ClaimAccepted,
    phase_projection (moved .RetryPending 4 released) .Engineering .RetryRequired,
    phase_projection (moved .Engineering 5 (settled waiting)) .RetryPending .RetryClaimAccepted,
    phase_projection (moved .RetryPending 6 (settled reentered)) .Engineering .RetryRequired,
    phase_projection (moved .Engineering 7 (settled waiting_again)) .RetryPending
      .RetryClaimAccepted]

theorem spinning_accepted : AcceptedChain spinning_codec (claimed 2) spinning := by
  refine ⟨isOk_iff.mp (by decide +kernel), isChain_iff_steps.mpr ?_⟩
  simp only [spinning, steps_cons, steps_nil, List.forall_mem_cons]
  refine ⟨?_, ?_, ?_, ?_, ?_, ?_, ?_, ?_, ?_, ?_, ?_, List.forall_mem_nil _⟩
  all_goals exact isOk_iff.mp (by decide +kernel)

end LocalRun

/-- A run with a budget of two attempts that is retried twice and is still at its
first. -/
theorem retries_unbounded :
    AcceptedChain LocalRun.spinning_codec (LocalRun.claimed 2) LocalRun.spinning ∧
      (LocalRun.claimed 2).plan.invocation.budget.max_attempts = 2 ∧
      (steps (LocalRun.claimed 2) LocalRun.spinning).countP claims_retry = 2 ∧
      (final (LocalRun.claimed 2) LocalRun.spinning).attempt = 1 ∧
      ¬ BoundedRetries (LocalRun.claimed 2) LocalRun.spinning := by
  have hcount : (steps (LocalRun.claimed 2) LocalRun.spinning).countP claims_retry = 2 := by
    decide
  refine ⟨LocalRun.spinning_accepted, rfl, hcount, rfl, ?_⟩
  intro hbounded
  have hretries := hbounded.retries
  rw [hcount] at hretries
  have hbudget : (LocalRun.claimed 2).plan.invocation.budget.max_attempts = 2 := rfl
  omega

end EngineerVerifierStateV1

end OvcaCore

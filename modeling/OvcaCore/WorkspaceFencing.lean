/-
Who holds a workspace, over a chain of accepted states.

Within an attempt the workspace stays one: only its owner, its snapshot and how far it
is used up change, and each new owner comes with the next epoch and the next fence. A
retry brings a workspace of its own, whose counters start anew; what tells it from the
earlier one is the attempt in its lease, and a binding has the whole lease. The counters
of the source saturate, so everything here is below their limit.
-/
import OvcaCore.WorkspaceRecovery
import OvcaCore.TerminalStates

set_option autoImplicit false

namespace OvcaCore

open OvcaCore.Checks OvcaCore.Interleaving OvcaCore.Chains EngineerVerifier

/-! ## One workspace at two times -/

/-- A step of an attempt leaves the owner of a workspace, or moves both counters on. -/
structure DurableWorkspaceAuthorityV1.HandsOn (before after : DurableWorkspaceAuthorityV1) :
    Prop where
  same : after.runtime_instance_id = before.runtime_instance_id →
    after.runtime_epoch = before.runtime_epoch ∧ after.fence = before.fence
  other : after.runtime_instance_id ≠ before.runtime_instance_id →
    after.runtime_epoch = before.runtime_epoch + 1 ∧ after.fence = before.fence + 1

/-- A workspace and the same one later. -/
structure DurableWorkspaceAuthorityV1.Later (before after : DurableWorkspaceAuthorityV1) :
    Prop where
  terms : after.terms = before.terms
  closed : before.closed = true → after.closed = true
  runtime_epoch : before.runtime_epoch ≤ after.runtime_epoch
  fence : before.fence ≤ after.fence
  owner : after.runtime_epoch = before.runtime_epoch →
    after.runtime_instance_id = before.runtime_instance_id ∧ after.fence = before.fence

namespace DurableWorkspaceAuthorityV1

theorem terms_eq {before after : DurableWorkspaceAuthorityV1} (h : after.terms = before.terms) :
    after.lease = before.lease ∧ after.lease_digest = before.lease_digest ∧
      after.initial_snapshot = before.initial_snapshot ∧ after.grant = before.grant ∧
      after.grant_digest = before.grant_digest ∧ after.recovery_token = before.recovery_token := by
  unfold terms at h
  rw [DurableWorkspaceAuthorityV1.mk.injEq] at h
  obtain ⟨hlease, hdigest, hinitial, hgrant, hgrantdigest, _, htoken, _⟩ := h
  exact ⟨hlease, hdigest, hinitial, hgrant, hgrantdigest, htoken⟩

theorem Later.refl (workspace : DurableWorkspaceAuthorityV1) : workspace.Later workspace :=
  ⟨rfl, id, le_refl _, le_refl _, fun _ => ⟨rfl, rfl⟩⟩

theorem Later.trans {before middle after : DurableWorkspaceAuthorityV1} (h : before.Later middle)
    (h' : middle.Later after) : before.Later after where
  terms := h'.terms.trans h.terms
  closed := fun hclosed => h'.closed (h.closed hclosed)
  runtime_epoch := h.runtime_epoch.trans h'.runtime_epoch
  fence := h.fence.trans h'.fence
  owner := by
    intro hsame
    have hfirst := h.runtime_epoch
    have hsecond := h'.runtime_epoch
    obtain ⟨howner, hfence⟩ := h.owner (by omega)
    obtain ⟨howner', hfence'⟩ := h'.owner (by omega)
    exact ⟨howner'.trans howner, hfence'.trans hfence⟩

/-- Below the limit, the next value of a counter is one more. -/
theorem saturating_next_eq {value : ℕ} (h : value < U64_MAX) :
    EngineerVerifierStateV1.saturating_next value = value + 1 := by
  unfold EngineerVerifierStateV1.saturating_next
  omega

theorem handsOn_of_owner {before after : DurableWorkspaceAuthorityV1}
    (hepoch : before.runtime_epoch < U64_MAX) (hfence : before.fence < U64_MAX)
    (h : EngineerVerifierStateV1.owner_successor before after = true) : before.HandsOn after := by
  unfold EngineerVerifierStateV1.owner_successor at h
  rw [saturating_next_eq hepoch, saturating_next_eq hfence] at h
  by_cases hsame : before.runtime_instance_id = after.runtime_instance_id
  · rw [if_pos hsame, Bool.and_eq_true, beq_iff_eq, beq_iff_eq] at h
    exact ⟨fun _ => ⟨h.1.symm, h.2.symm⟩, fun hne => absurd hsame.symm hne⟩
  · rw [if_neg hsame] at h
    simp only [Bool.and_eq_true, beq_iff_eq, and_assoc] at h
    obtain ⟨hnext, hnextfence, _⟩ := h
    exact ⟨fun heq => absurd heq.symm hsame, fun _ => ⟨hnext, hnextfence⟩⟩

theorem HandsOn.later {before after : DurableWorkspaceAuthorityV1} (h : before.HandsOn after)
    (hterms : after.terms = before.terms) (hclosed : before.closed = true → after.closed = true) :
    before.Later after := by
  by_cases hsame : after.runtime_instance_id = before.runtime_instance_id
  · obtain ⟨hepoch, hfence⟩ := h.same hsame
    exact ⟨hterms, hclosed, hepoch.ge, hfence.ge, fun _ => ⟨hsame, hfence⟩⟩
  · obtain ⟨hepoch, hfence⟩ := h.other hsame
    refine ⟨hterms, hclosed, by omega, by omega, ?_⟩
    intro heq
    omega

end DurableWorkspaceAuthorityV1

/-! ## Steps and chains -/

namespace EngineerVerifierStateV1

section Fencing

variable {P : Type} [DecidableEq P] {codec : EngineerVerifierCodec P}

/-- The counters of a stored workspace are below their limit. -/
def below_limit (state : EngineerVerifierStateV1 P) : Bool :=
  state.workspace.all fun workspace =>
    decide (workspace.runtime_epoch < U64_MAX) && decide (workspace.fence < U64_MAX)

/-- A state and a later one: in the same attempt, they have the same workspace. -/
structure Fences (state next : EngineerVerifierStateV1 P) : Prop where
  attempt : state.attempt ≤ next.attempt
  workspace : next.attempt = state.attempt → ∀ before, state.workspace = some before →
    ∃ after, next.workspace = some after ∧ before.Later after

omit [DecidableEq P] in
theorem Fences.refl (state : EngineerVerifierStateV1 P) : state.Fences state :=
  ⟨le_refl _, fun _ before hbefore => ⟨before, hbefore, .refl before⟩⟩

omit [DecidableEq P] in
theorem Fences.trans {state middle next : EngineerVerifierStateV1 P} (h : state.Fences middle)
    (h' : middle.Fences next) : state.Fences next := by
  have hfirst := h.attempt
  have hsecond := h'.attempt
  refine ⟨by omega, ?_⟩
  intro hsame before hbefore
  obtain ⟨between, hbetween, hlater⟩ := h.workspace (by omega) before hbefore
  obtain ⟨after, hafter, hlater'⟩ := h'.workspace (by omega) between hbetween
  exact ⟨after, hafter, hlater.trans hlater'⟩

omit [DecidableEq P] in
/-- A step within an attempt hands the workspace on. -/
theorem Proceeds.handsOn {state next : EngineerVerifierStateV1 P} (h : state.Proceeds next)
    (hlimit : state.below_limit = true) {before : DurableWorkspaceAuthorityV1}
    (hbefore : state.workspace = some before) :
    ∃ after, next.workspace = some after ∧ before.HandsOn after ∧ before.Later after := by
  have hterms := h.terms
  have hworkspace := h.workspace
  unfold workspace_successor at hworkspace
  rw [hbefore] at hterms hworkspace
  obtain ⟨after, hafter, hsame⟩ := Option.map_eq_some_iff.mp hterms
  rw [hafter] at hworkspace
  simp only [Bool.and_eq_true, and_assoc] at hworkspace
  obtain ⟨hdisposition, howner, _⟩ := hworkspace
  unfold below_limit at hlimit
  rw [hbefore, Option.all_some, Bool.and_eq_true, decide_eq_true_eq, decide_eq_true_eq] at hlimit
  obtain ⟨hepoch, hfence⟩ := hlimit
  have hclosed : before.closed = true → after.closed = true := by
    intro hclosed
    unfold disposition_successor at hdisposition
    simp only [Bool.and_eq_true, hclosed] at hdisposition
    simpa using hdisposition.1.1.1.1.1.2
  have hon := DurableWorkspaceAuthorityV1.handsOn_of_owner hepoch hfence howner
  exact ⟨after, hafter, hon, hon.later hsame hclosed⟩

/-- The step lemma of fencing. -/
theorem Succeeds.fences {state next : EngineerVerifierStateV1 P} (h : Succeeds codec state next)
    (hlimit : state.below_limit = true) : state.Fences next := by
  rcases h.step with ⟨pending, _, rfl⟩ | hadvances
  · exact ⟨le_refl _, fun _ before hbefore => ⟨before, hbefore, .refl before⟩⟩
  · rcases hadvances.attempt with hretries | hproceeds
    · have hattempt := hretries.attempt
      refine ⟨by omega, ?_⟩
      intro hsame
      omega
    · refine ⟨hproceeds.attempt.ge, ?_⟩
      intro _ before hbefore
      obtain ⟨after, hafter, _, hlater⟩ := hproceeds.handsOn hlimit hbefore
      exact ⟨after, hafter, hlater⟩

/-- Every step of an attempt hands the workspace on. -/
theorem Succeeds.handsOn {state next : EngineerVerifierStateV1 P} (h : Succeeds codec state next)
    (hlimit : state.below_limit = true) (hsame : next.attempt = state.attempt)
    {before after : DurableWorkspaceAuthorityV1} (hbefore : state.workspace = some before)
    (hafter : next.workspace = some after) : before.HandsOn after := by
  rcases h.step with ⟨pending, _, rfl⟩ | hadvances
  · have heq : before = after := Option.some.inj (hbefore.symm.trans hafter)
    subst heq
    exact ⟨fun _ => ⟨rfl, rfl⟩, fun hne => absurd rfl hne⟩
  · rcases hadvances.attempt with hretries | hproceeds
    · have hattempt := hretries.attempt
      omega
    · obtain ⟨other, hother, hon, _⟩ := hproceeds.handsOn hlimit hbefore
      rw [hafter, Option.some_inj] at hother
      subst hother
      exact hon

variable {first : EngineerVerifierStateV1 P} {rest : List (EngineerVerifierStateV1 P)}

/-- The run lemma of fencing. -/
theorem AcceptedChain.fences (h : AcceptedChain codec first rest)
    (hlimit : ∀ state ∈ first :: rest, state.below_limit = true) {i j : ℕ}
    (hi : i < (first :: rest).length) (hij : i ≤ j) (hj : j < (first :: rest).length) :
    (first :: rest)[i].Fences (first :: rest)[j] := by
  refine chain_rel (S := Fences) Fences.refl (fun _ _ _ => Fences.trans) ?_ hij hj
  intro step hstep
  exact (h.succeeds step hstep).fences (hlimit _ (mem_of_mem_steps hstep).1)

/-- The lease of a valid state is of its attempt. -/
theorem Valid.lease_attempt {sha256 : EngineerVerifierDigests P}
    {state : EngineerVerifierStateV1 P} (h : Valid sha256 state)
    {workspace : DurableWorkspaceAuthorityV1} (hworkspace : state.workspace = some workspace) :
    workspace.lease.attempt = state.attempt := by
  have hvalid := h.workspace
  simp only [validate_workspace, check_some_eq_ok, bind_eq_ok, reject_if_eq_ok, exists_and_right,
    exists_unit_eq_ok, not_or, not_not, ne_eq] at hvalid
  exact (hvalid workspace hworkspace).2.1

/-! ## Bindings -/

/-- The binding is the stored one. -/
def owned_by (state : EngineerVerifierStateV1 P) (binding : DurableLeaseBinding) : Bool :=
  state.workspace.any binding.is_current

end Fencing

end EngineerVerifierStateV1

/-- What the stored workspace has of a binding that is current. -/
structure DurableLeaseBinding.IsCurrent (binding : DurableLeaseBinding)
    (workspace : DurableWorkspaceAuthorityV1) : Prop where
  opened : workspace.closed = false
  runtime_instance_id : workspace.runtime_instance_id = binding.runtime_instance_id
  runtime_epoch : workspace.runtime_epoch = binding.runtime_epoch
  fence : workspace.fence = binding.fence
  recovery_token : workspace.recovery_token = binding.recovery_token
  lease : workspace.lease = binding.lease
  lease_digest : workspace.lease_digest = binding.lease_digest
  initial_snapshot : workspace.initial_snapshot = binding.initial_snapshot
  grant : binding.grant = some (workspace.grant, workspace.grant_digest)

namespace DurableLeaseBinding

theorem is_current_iff {binding : DurableLeaseBinding} {workspace : DurableWorkspaceAuthorityV1} :
    binding.is_current workspace = true ↔ binding.IsCurrent workspace := by
  unfold is_current
  rw [Option.any_eq_true]
  simp only [Bool.and_eq_true, Bool.not_eq_true', beq_iff_eq, and_assoc]
  constructor
  · rintro ⟨grant, hgrant, hopen, hinstance, hepoch, hfence, htoken, hlease, hdigest, hinitial,
      hsame, hsamedigest⟩
    refine ⟨hopen, hinstance, hepoch, hfence, htoken, hlease, hdigest, hinitial, ?_⟩
    rw [hgrant, hsame, hsamedigest]
  · intro h
    exact ⟨_, h.grant, h.opened, h.runtime_instance_id, h.runtime_epoch, h.fence,
      h.recovery_token, h.lease, h.lease_digest, h.initial_snapshot, rfl, rfl⟩

/-- Between two times at which a binding is current, it is current as well. -/
theorem IsCurrent.between {binding : DurableLeaseBinding}
    {before middle after : DurableWorkspaceAuthorityV1} (h : binding.IsCurrent before)
    (h' : binding.IsCurrent after) (hbefore : before.Later middle) (hafter : middle.Later after) :
    binding.IsCurrent middle := by
  have hfirst := hbefore.runtime_epoch
  have hsecond := hafter.runtime_epoch
  rw [h.runtime_epoch] at hfirst
  rw [h'.runtime_epoch] at hsecond
  have hepoch : middle.runtime_epoch = before.runtime_epoch := by
    rw [h.runtime_epoch]
    omega
  obtain ⟨hinstance, hfence⟩ := hbefore.owner hepoch
  have hopen : middle.closed = false := by
    by_contra hclosed
    rw [Bool.not_eq_false] at hclosed
    have hafterclosed := hafter.closed hclosed
    rw [h'.opened] at hafterclosed
    cases hafterclosed
  obtain ⟨hlease, hdigest, hinitial, hgrant, hgrantdigest, htoken⟩ :=
    DurableWorkspaceAuthorityV1.terms_eq hbefore.terms
  exact ⟨hopen, hinstance.trans h.runtime_instance_id, hepoch.trans h.runtime_epoch,
    hfence.trans h.fence, htoken.trans h.recovery_token, hlease.trans h.lease,
    hdigest.trans h.lease_digest, hinitial.trans h.initial_snapshot,
    by rw [hgrant, hgrantdigest]; exact h.grant⟩

end DurableLeaseBinding

end OvcaCore

/-
What a broker can do to a workspace that is not its own: nothing.

Every operation on a lease first compares its binding with the stored workspace. One
that is neither current nor of the stored revision is refused there, before the file
system is asked for anything; only the removal of a root goes on for a lease that the
run has not taken up, and then the root is not that of the stored workspace.
-/
import OvcaCore.WorkspaceFencing

set_option autoImplicit false

namespace OvcaCore

open OvcaCore.Checks OvcaCore.Interleaving OvcaCore.Chains EngineerVerifier

/-- The root of a stored workspace. -/
def DurableWorkspaceAuthorityV1.root (workspace : DurableWorkspaceAuthorityV1) : RecoveryRoot :=
  ⟨workspace.recovery_token, workspace.lease.lease_id, workspace.lease.workspace_id⟩

/-! ## Bindings outside of the stored state -/

section Outside

variable {P R : Type} {binding : DurableLeaseBinding}
  {loaded : LoadedExecutionRun (EngineerVerifierStateV1 P) R}

namespace DurableLeaseBinding

/-- The binding is not the stored one, and its lease was not opened against what is
stored. -/
structure Outside (binding : DurableLeaseBinding)
    (loaded : LoadedExecutionRun (EngineerVerifierStateV1 P) R) : Prop where
  not_current : (stored_workspace loaded).any binding.is_current = false
  admitted : binding.before_admission loaded = false

/-- Such a binding owns nothing, or a root other than the stored one. -/
theorem Outside.ownership (h : binding.Outside loaded) {ownership : DurableLeaseOwnership}
    (howned : binding.ownership (some loaded) = .ok ownership) :
    ownership = .Unadopted ∧ ∀ workspace, stored_workspace loaded = some workspace →
      binding.root ≠ workspace.root := by
  simp only [DurableLeaseBinding.ownership, ok_or, bind, Except.bind, h.admitted, h.not_current,
    Bool.false_eq_true, if_false] at howned
  split at howned
  · next hunadopted =>
    refine ⟨(Except.ok.inj howned).symm, ?_⟩
    intro workspace hworkspace hroot
    unfold is_unadopted at hunadopted
    rw [hworkspace, Option.all_some, Bool.and_eq_true] at hunadopted
    have hsame := RecoveryRoot.mk.inj hroot
    simp [hsame.1, hsame.2.1, hsame.2.2] at hunadopted
  · cases howned

theorem Outside.not_require_current (h : binding.Outside loaded) {u : Unit} :
    binding.require_current (some loaded) ≠ .ok u := by
  intro hok
  simp only [require_current, bind_eq_ok, reject_if_eq_ok, not_not] at hok
  obtain ⟨ownership, howned, rfl⟩ := hok
  cases (h.ownership howned).1

theorem Outside.not_require_operable (h : binding.Outside loaded) {u : Unit} :
    binding.require_operable (some loaded) ≠ .ok u := by
  intro hok
  simp only [require_operable, bind_eq_ok] at hok
  obtain ⟨ownership, howned, hok⟩ := hok
  rw [(h.ownership howned).1] at hok
  cases hok

theorem Outside.not_require_target_check (h : binding.Outside loaded) {u : Unit} :
    binding.require_target_check (some loaded) ≠ .ok u := by
  intro hok
  simp only [require_target_check, bind_eq_ok] at hok
  obtain ⟨ownership, howned, hok⟩ := hok
  rw [(h.ownership howned).1] at hok
  cases hok

theorem Outside.not_require_request (h : binding.Outside loaded)
    {sha256 : EngineerVerifierDigests P} {request : ToolRequestV1} {next_sequence : ℕ} {u : Unit} :
    binding.require_request sha256 (some loaded) request next_sequence ≠ .ok u := by
  intro hok
  simp only [require_request, require_live_capability, bind_eq_ok] at hok
  obtain ⟨_, ⟨_, hcurrent, _⟩, _⟩ := hok
  exact h.not_require_current hcurrent

theorem Outside.not_require_prepared (h : binding.Outside loaded)
    {prepared : PreparedWriteEffectV1} {u : Unit} :
    binding.require_prepared (some loaded) prepared ≠ .ok u := by
  intro hok
  simp only [require_prepared, bind_eq_ok] at hok
  obtain ⟨_, hcurrent, _⟩ := hok
  exact h.not_require_current hcurrent

theorem Outside.not_require_verifying (h : binding.Outside loaded)
    {snapshot : WorkspaceSnapshotV1} {u : Unit} :
    binding.require_verifying (some loaded) snapshot ≠ .ok u := by
  intro hok
  simp only [require_verifying, bind_eq_ok] at hok
  obtain ⟨_, hcurrent, _⟩ := hok
  exact h.not_require_current hcurrent

/-- Where the removal of a root is let through, it is not the stored one. -/
theorem Outside.root_of_owned (h : binding.Outside loaded) {u : Unit}
    (howned : binding.require_owned (some loaded) = .ok u)
    {workspace : DurableWorkspaceAuthorityV1} (hworkspace : stored_workspace loaded = some workspace) :
    binding.root ≠ workspace.root := by
  simp only [require_owned, bind_eq_ok, pure_eq_ok] at howned
  obtain ⟨ownership, howned, _⟩ := howned
  exact (h.ownership howned).2 workspace hworkspace

end DurableLeaseBinding

end Outside

/-! ## Calls of a broker -/

/-- A call of a broker on a lease, or the drop of one of its records. -/
inductive BrokerCall (P : Type) where
  | recover_lease (permit : WorkspaceRecoveryPermit)
  | issue_grant (execution : RoleExecutionRequest) (lease : TrustedWorkspaceLease)
      (grant : CapabilityGrantV1)
  | snapshot (lease : TrustedWorkspaceLease)
  | target_matches_current (lease : TrustedWorkspaceLease) (logical_path content_sha256 : String)
      (byte_length : ℕ)
  | inspect_prepared_write (lease : TrustedWorkspaceLease) (prepared : PreparedWriteEffectV1)
  | adopt_reconciled_write (lease : TrustedWorkspaceLease) (prepared : PreparedWriteEffectV1)
  | seal_workspace (lease : TrustedWorkspaceLease)
  | close_lease (lease : TrustedWorkspaceLease) (reason : CleanupReason)
  | execute (request : ToolRequestV1) (write_bytes : Option P) (evaluation_time : DateTime)
  | drop_record (lease_id : String)

namespace BrokerCall

variable {P R : Type}

/-- The binding that a call is under: that of its permit, or of the record it is about. -/
def binding (broker : WorkspaceCapabilityBroker P) : BrokerCall P → Option DurableLeaseBinding
  | recover_lease permit => some permit.binding
  | issue_grant _ _ grant => broker.leases[grant.lease_id]?.map LeaseRecord.durable_binding
  | snapshot lease | target_matches_current lease _ _ _ | inspect_prepared_write lease _
  | adopt_reconciled_write lease _ | seal_workspace lease | close_lease lease _ =>
    broker.leases[lease.observation.lease_id]?.map LeaseRecord.durable_binding
  | execute request _ _ => broker.leases[request.lease_id]?.map LeaseRecord.durable_binding
  | drop_record lease_id => broker.leases[lease_id]?.map LeaseRecord.durable_binding

/-- What a call asks of the file system; its answer is left out. -/
def effects (backend : WorkspaceBackend P) (broker : WorkspaceCapabilityBroker P)
    (loaded : LoadedExecutionRun (EngineerVerifierStateV1 P) R) : BrokerCall P → BrokerProg P Unit
  | recover_lease permit => do
    let _ ← broker.recover_lease backend (some loaded) permit
  | issue_grant execution lease grant => do
    let _ ← broker.issue_grant backend (some loaded) execution lease grant
  | snapshot lease => do
    let _ ← broker.snapshot backend (some loaded) lease
  | target_matches_current lease logical_path content_sha256 byte_length => do
    let _ ← broker.target_matches_current backend (some loaded) lease logical_path content_sha256
      byte_length
  | inspect_prepared_write lease prepared => do
    let _ ← broker.inspect_prepared_write backend (some loaded) lease prepared
  | adopt_reconciled_write lease prepared => do
    let _ ← broker.adopt_reconciled_write backend (some loaded) lease prepared
  | seal_workspace lease => do
    let _ ← broker.seal_workspace backend (some loaded) lease
  | close_lease lease reason => do
    let _ ← broker.close_lease (some loaded) lease reason
  | execute request write_bytes evaluation_time => do
    let _ ← broker.execute backend (some loaded) request write_bytes evaluation_time
  | drop_record lease_id =>
    match broker.leases[lease_id]? with
    | none => pure ()
    | some record => WorkspaceCapabilityBroker.drop_record (some loaded) record

end BrokerCall

namespace WorkspaceCapabilityBroker

variable {P R : Type} {backend : WorkspaceBackend P} {broker : WorkspaceCapabilityBroker P}

theorem live_lease_record_eq_ok {lease : TrustedWorkspaceLease} {record : LeaseRecord}
    (h : broker.live_lease_record backend lease = .ok record) :
    broker.leases[lease.observation.lease_id]? = some record := by
  simp only [live_lease_record, bind_eq_ok, ok_or_eq_ok, pure_eq_ok] at h
  obtain ⟨_, _, _, hrecord, _, _, _, _, rfl⟩ := h
  exact hrecord

/-- A request of a lease that the broker does not have is denied without a look at any
root. -/
theorem execute_recorded_unknown {request : ToolRequestV1} {write_bytes : Option P}
    {evaluation_time : DateTime} (hnone : broker.leases[request.lease_id]? = none)
    {good : NativeOp P → Prop} :
    (execute_recorded backend broker request write_bytes evaluation_time).Only good := by
  have hdenied : ∃ code, admit_binding backend broker request evaluation_time = .error code := by
    unfold admit_binding
    by_cases hearly : evaluation_time < request.requested_at
    · exact ⟨.InvalidBinding, by simp [reject_if, hearly, bind, Except.bind]⟩
    · exact ⟨.InvalidBinding, by simp [reject_if, hearly, hnone, ok_or, bind, Except.bind]⟩
  obtain ⟨code, hcode⟩ := hdenied
  unfold execute_recorded execute_fresh admit_request
  rw [hcode]
  simp only [Prog.pure_bind]
  split <;> trivial

end WorkspaceCapabilityBroker

namespace BrokerCall

section Refusals

variable {P R : Type} {backend : WorkspaceBackend P} {broker : WorkspaceCapabilityBroker P}
  {loaded : LoadedExecutionRun (EngineerVerifierStateV1 P) R}
  {workspace : DurableWorkspaceAuthorityV1}

/-- An operation that looks a live lease up and then has its binding refused asks nothing
of the file system. -/
theorem only_of_refused {α : Type} {good : NativeOp P → Prop} {lease : TrustedWorkspaceLease}
    (check : LeaseRecord → Except WorkspaceCapabilityError Unit)
    (rest : LeaseRecord → BrokerProg P α)
    (hrefused : ∀ record u, broker.leases[lease.observation.lease_id]? = some record →
      check record ≠ .ok u) :
    ((Prog.done (broker.live_lease_record backend lease) : BrokerProg P LeaseRecord) >>= fun record =>
      (Prog.done (check record) : BrokerProg P Unit) >>= fun _ => rest record).Only good := by
  refine Prog.only_check_bind ?_
  intro record hrecord
  refine Prog.only_check_bind ?_
  intro u hok
  exact absurd hok
    (hrefused record u (WorkspaceCapabilityBroker.live_lease_record_eq_ok hrecord))

theorem only_recover_lease {good : NativeOp P → Prop} {permit : WorkspaceRecoveryPermit}
    (h : permit.binding.Outside loaded) :
    (broker.recover_lease backend (some loaded) permit).Only good := by
  unfold WorkspaceCapabilityBroker.recover_lease
  simp only [Prog.liftM_eq]
  refine Prog.only_check_bind ?_
  intro u hok
  exact absurd hok h.not_require_current

theorem only_issue_grant {good : NativeOp P → Prop} {execution : RoleExecutionRequest}
    {lease : TrustedWorkspaceLease} {grant : CapabilityGrantV1}
    (h : ∀ record, broker.leases[grant.lease_id]? = some record →
      record.durable_binding.Outside loaded) :
    (broker.issue_grant backend (some loaded) execution lease grant).Only good := by
  unfold WorkspaceCapabilityBroker.issue_grant
  simp only [Prog.liftM_eq]
  refine Prog.only_check_bind fun _ _ => Prog.only_check_bind fun _ _ =>
    Prog.only_check_bind fun _ _ => Prog.only_check_bind fun _ _ => Prog.only_check_bind ?_
  intro record hrecord
  refine Prog.only_check_bind ?_
  intro u hok
  exact absurd hok (h record (ok_or_eq_ok.mp hrecord)).not_require_operable

theorem only_execute {good : NativeOp P → Prop} {request : ToolRequestV1}
    {write_bytes : Option P} {evaluation_time : DateTime}
    (h : ∀ record, broker.leases[request.lease_id]? = some record →
      record.durable_binding.Outside loaded) :
    (broker.execute backend (some loaded) request write_bytes evaluation_time).Only good := by
  unfold WorkspaceCapabilityBroker.execute
  simp only [Prog.liftM_eq]
  refine Prog.only_check_bind fun _ _ => Prog.only_check_bind ?_
  intro u hok
  have hnone : broker.leases[request.lease_id]? = none := by
    rw [WorkspaceCapabilityBroker.require_lease_request, check_some_eq_ok] at hok
    by_contra hsome
    obtain ⟨record, hrecord⟩ := Option.ne_none_iff_exists'.mp hsome
    exact (h record hrecord).not_require_request (hok record hrecord)
  split
  · trivial
  · exact WorkspaceCapabilityBroker.execute_recorded_unknown hnone

/-- A root that may be removed is not the stored one. -/
theorem only_close_lease {lease : TrustedWorkspaceLease} {reason : CleanupReason}
    (hworkspace : DurableLeaseBinding.stored_workspace loaded = some workspace)
    (h : ∀ record, broker.leases[lease.observation.lease_id]? = some record →
      record.durable_binding.Outside loaded) :
    (broker.close_lease (some loaded) lease reason).Only fun o => ¬ o.touches workspace.root := by
  unfold WorkspaceCapabilityBroker.close_lease
  simp only [Prog.liftM_eq]
  refine Prog.only_check_bind fun _ _ => Prog.only_check_bind ?_
  intro record hrecord
  refine Prog.only_check_bind ?_
  intro u howned
  have hroot := (h record (ok_or_eq_ok.mp hrecord)).root_of_owned howned hworkspace
  refine Prog.only_check_bind fun _ _ => Prog.Only.bind (Prog.only_perform hroot) ?_
  intro removed
  split <;> trivial

theorem only_drop_record {record : LeaseRecord}
    (hworkspace : DurableLeaseBinding.stored_workspace loaded = some workspace)
    (h : record.durable_binding.Outside loaded) :
    (WorkspaceCapabilityBroker.drop_record (P := P) (some loaded) record).Only fun o =>
      ¬ o.touches workspace.root := by
  unfold WorkspaceCapabilityBroker.drop_record
  refine Prog.Only.bind (Prog.only_perform (by simp [NativeOp.touches])) ?_
  intro present
  split
  · trivial
  · next hgo =>
    simp only [not_or, not_not] at hgo
    have howned : record.durable_binding.require_owned (some loaded) = .ok () := by
      have hok := hgo.2.1
      rcases howned : record.durable_binding.require_owned (some loaded) with e | u
      · rw [howned] at hok
        cases hok
      · rfl
    exact Prog.Only.bind (Prog.only_perform (h.root_of_owned howned hworkspace)) fun _ => trivial

/-- **A call that is not under the stored binding leaves the stored workspace alone**: it
neither looks into its root nor writes to it nor removes it, whatever the host answers. -/
theorem outside_untouched {call : BrokerCall P}
    (h : ∀ binding, call.binding broker = some binding → binding.Outside loaded)
    (hworkspace : DurableLeaseBinding.stored_workspace loaded = some workspace) :
    (call.effects backend broker loaded).Only fun o => ¬ o.touches workspace.root := by
  have hrecord : ∀ {lease_id : String}, (∀ binding,
      broker.leases[lease_id]?.map LeaseRecord.durable_binding = some binding →
        binding.Outside loaded) → ∀ record, broker.leases[lease_id]? = some record →
      record.durable_binding.Outside loaded := by
    intro lease_id hbinding record hget
    exact hbinding _ (by rw [hget, Option.map_some])
  cases call with
  | recover_lease permit => exact Prog.Only.bind (only_recover_lease (h _ rfl)) fun _ => trivial
  | issue_grant execution lease grant =>
    exact Prog.Only.bind (only_issue_grant (hrecord h)) fun _ => trivial
  | snapshot lease =>
    refine Prog.Only.bind (only_of_refused _ _ ?_) fun _ => trivial
    exact fun record u hget => (hrecord h record hget).not_require_current
  | target_matches_current lease logical_path content_sha256 byte_length =>
    refine Prog.Only.bind (only_of_refused _ _ ?_) fun _ => trivial
    exact fun record u hget => (hrecord h record hget).not_require_target_check
  | inspect_prepared_write lease prepared =>
    refine Prog.Only.bind (only_of_refused _ _ ?_) fun _ => trivial
    exact fun record u hget => (hrecord h record hget).not_require_prepared
  | adopt_reconciled_write lease prepared =>
    refine Prog.Only.bind (only_of_refused _ _ ?_) fun _ => trivial
    exact fun record u hget => (hrecord h record hget).not_require_prepared
  | seal_workspace lease =>
    refine Prog.Only.bind (only_of_refused _ _ ?_) fun _ => trivial
    exact fun record u hget => (hrecord h record hget).not_require_verifying
  | close_lease lease reason =>
    exact Prog.Only.bind (only_close_lease hworkspace (hrecord h)) fun _ => trivial
  | execute request write_bytes evaluation_time =>
    exact Prog.Only.bind (only_execute (hrecord h)) fun _ => trivial
  | drop_record lease_id =>
    cases hget : broker.leases[lease_id]? with
    | none => simp only [effects, hget, Prog.only_pure]
    | some record =>
      simp only [effects, hget]
      exact only_drop_record hworkspace (hrecord h record hget)

end Refusals

end BrokerCall

/-! ## Fencing -/

namespace EngineerVerifierStateV1

section Fencing

variable {P : Type} [DecidableEq P] {codec : EngineerVerifierCodec P}

/-- What fencing says of states that follow each other. -/
structure Fencing (states : List (EngineerVerifierStateV1 P)) : Prop where
  /-- Both counters move on by one with each new owner, and only then. -/
  handed_on : ∀ i, ∀ _ : i + 1 < states.length, states[i + 1].attempt = states[i].attempt →
    ∀ before after, states[i].workspace = some before → states[i + 1].workspace = some after →
      before.HandsOn after
  never_back : ∀ i j, ∀ _ : i ≤ j, ∀ _ : j < states.length,
    states[j].attempt = states[i].attempt → ∀ before after, states[i].workspace = some before →
      states[j].workspace = some after →
        before.runtime_epoch ≤ after.runtime_epoch ∧ before.fence ≤ after.fence
  /-- A binding that is no longer the stored one never is again. -/
  not_again : ∀ binding i j k, ∀ _ : i ≤ j, ∀ _ : j ≤ k, ∀ _ : k < states.length,
    states[i].owned_by binding = true → states[j].owned_by binding = false →
      states[k].owned_by binding = false
  /-- Nobody but the stored owner acts on the stored workspace. -/
  untouched : ∀ {R : Type} (i : ℕ), ∀ _ : i < states.length,
    ∀ loaded : LoadedExecutionRun (EngineerVerifierStateV1 P) R,
    loaded.envelope.engineer_verifier = some states[i] →
    ∀ workspace, states[i].workspace = some workspace →
    ∀ (backend : WorkspaceBackend P) (broker : WorkspaceCapabilityBroker P) (call : BrokerCall P),
    (∀ binding, call.binding broker = some binding →
      states[i].owned_by binding = false ∧ binding.before_admission loaded = false) →
    (call.effects backend broker loaded).Only fun o => ¬ o.touches workspace.root

variable {first : EngineerVerifierStateV1 P} {rest : List (EngineerVerifierStateV1 P)}

/-- Between two states with a binding, the binding is stored throughout. -/
theorem AcceptedChain.owned_between (h : AcceptedChain codec first rest)
    (hlimit : ∀ state ∈ first :: rest, state.below_limit = true) {binding : DurableLeaseBinding}
    {i j k : ℕ} (hij : i ≤ j) (hjk : j ≤ k) (hk : k < (first :: rest).length)
    (hbefore : (first :: rest)[i].owned_by binding = true)
    (hafter : (first :: rest)[k].owned_by binding = true) :
    (first :: rest)[j].owned_by binding = true := by
  have hfirst := h.fences hlimit (by omega) hij (by omega)
  have hsecond := h.fences hlimit (by omega) hjk hk
  have hvalid := h.valid
  unfold owned_by at hbefore hafter ⊢
  rw [Option.any_eq_true] at hbefore hafter
  obtain ⟨before, hgetbefore, hcurrent⟩ := hbefore
  obtain ⟨after, hgetafter, hcurrent'⟩ := hafter
  rw [DurableLeaseBinding.is_current_iff] at hcurrent hcurrent'
  -- The lease of the binding says which attempt both states are of.
  have hattempt : (first :: rest)[i].attempt = (first :: rest)[k].attempt := by
    rw [← (hvalid _ (List.getElem_mem _)).lease_attempt hgetbefore,
      ← (hvalid _ (List.getElem_mem _)).lease_attempt hgetafter, hcurrent.lease, hcurrent'.lease]
  have hle := hfirst.attempt
  have hle' := hsecond.attempt
  obtain ⟨middle, hmiddle, hlater⟩ := hfirst.workspace (by omega) before hgetbefore
  obtain ⟨other, hother, hlater'⟩ := hsecond.workspace (by omega) middle hmiddle
  rw [hgetafter, Option.some_inj] at hother
  subst hother
  rw [hmiddle, Option.any_some, DurableLeaseBinding.is_current_iff]
  exact hcurrent.between hcurrent' hlater hlater'

/-- The run lemma: below the limit, every chain of accepted states is fenced. -/
theorem AcceptedChain.fencing (h : AcceptedChain codec first rest)
    (hlimit : ∀ state ∈ first :: rest, state.below_limit = true) : Fencing (first :: rest) where
  handed_on := by
    intro i hi hsame before after hbefore hafter
    have hstep := mem_steps_iff.mpr ⟨i, hi, rfl⟩
    exact (h.succeeds _ hstep).handsOn (hlimit _ (List.getElem_mem _)) hsame hbefore hafter
  never_back := by
    intro i j hij hj hsame before after hbefore hafter
    obtain ⟨other, hother, hlater⟩ := (h.fences hlimit (by omega) hij hj).workspace hsame before hbefore
    rw [hafter, Option.some_inj] at hother
    subst hother
    exact ⟨hlater.runtime_epoch, hlater.fence⟩
  not_again := by
    intro binding i j k hij hjk hk hbefore hnot
    by_contra hagain
    rw [Bool.not_eq_false] at hagain
    have hbetween := h.owned_between hlimit hij hjk hk hbefore hagain
    rw [hnot] at hbetween
    cases hbetween
  untouched := by
    intro R i hi loaded hloaded workspace hworkspace backend broker call houtside
    have hstored : DurableLeaseBinding.stored_workspace loaded = some workspace := by
      unfold DurableLeaseBinding.stored_workspace
      rw [hloaded, Option.bind_some, hworkspace]
    refine BrokerCall.outside_untouched ?_ hstored
    intro binding hbinding
    obtain ⟨hnot, hadmitted⟩ := houtside binding hbinding
    refine ⟨?_, hadmitted⟩
    rw [hstored, ← hworkspace]
    exact hnot

end Fencing

end EngineerVerifierStateV1

namespace EngineerVerifierLoop

section Claims

open EngineerVerifierStateV1

variable {P R Q : Type} [DecidableEq P]

/-- A claim is of no effect, or writes the next state of the run: it has another owner, both
counters one on, and is what the permit is for. -/
def ClaimsNext (authority : LoopAuthority P R Q) (run_id : RunId)
    (states : List (EngineerVerifierStateV1 P)) (store : VersionedStateStore Q)
    (runtime_instance_id : String)
    (claim : Except (Fault DurableExecutionError) (Option (WorkspaceRecoveryClaim P R)) ×
      VersionedStateStore Q) : Prop :=
  (claim.2 = store ∧ ∀ granted, claim.1 ≠ .ok (some granted)) ∨
    ∃ current next before after, states.getLast? = some current ∧
      current.workspace = some before ∧ next.workspace = some after ∧
      before.runtime_instance_id ≠ runtime_instance_id ∧
      after.runtime_instance_id = runtime_instance_id ∧
      after.runtime_epoch = before.runtime_epoch + 1 ∧ after.fence = before.fence + 1 ∧
      after.runtime_epoch ≤ U64_MAX ∧ after.fence ≤ U64_MAX ∧
      Recorded authority run_id (states ++ [next]) claim.2 ∧
      ∀ granted, claim.1 = .ok (some granted) → next.owned_by granted.permit.binding = true

/-- The table holds the last of the states that have been written. -/
theorem Recorded.last {authority : LoopAuthority P R Q} (hround : authority.serde_json.RoundTrips)
    {run_id : RunId} {states : List (EngineerVerifierStateV1 P)} {store : VersionedStateStore Q}
    (h : Recorded authority run_id states store) :
    stored_state authority store run_id = states.getLast? := by
  rcases h.endsChain hround with ⟨rfl, hnone⟩ | ⟨first, rest, rfl, _, hsome⟩
  · exact hnone
  · rw [hsome, getLast?_eq_final]

theorem Recorded.claims {authority : LoopAuthority P R Q}
    (hround : authority.serde_json.RoundTrips) {run_id : RunId}
    {states : List (EngineerVerifierStateV1 P)} {store : VersionedStateStore Q}
    (h : Recorded authority run_id states store) (expected_revision : ℕ)
    (expected_state_digest runtime_instance_id : String) (heartbeat_at : DateTime) :
    ClaimsNext authority run_id states store runtime_instance_id
      (claim_workspace_recovery authority store run_id expected_revision expected_state_digest
        runtime_instance_id heartbeat_at) := by
  rcases claim_workspace_recovery_cases hround store run_id expected_revision
    expected_state_digest runtime_instance_id heartbeat_at with hno | ⟨current, next, before, hover⟩
  · exact Or.inl hno
  · right
    obtain ⟨_, _, loaded, hwritten⟩ := hover.written
    refine ⟨current, next, before, handed_over before runtime_instance_id heartbeat_at, ?_,
      hover.held, hover.after, hover.other.symm, rfl, rfl, rfl, hover.epoch, hover.fence,
      h.write hwritten, ?_⟩
    · rw [← h.last hround]
      exact hover.stored
    · intro granted hgranted
      unfold owned_by
      rw [hover.permit granted hgranted, hover.after, Option.any_some,
        DurableLeaseBinding.is_current_iff]
      exact ⟨hover.opened, rfl, rfl, rfl, rfl, rfl, rfl, rfl, rfl⟩

/-- **Fencing of workspaces.** Below the limit of the counters, every chain of accepted
states is fenced; whoever writes to the table, what it has held is such a chain; and a
claim is at most its next step. -/
theorem workspace_fencing (authority : LoopAuthority P R Q)
    (hround : authority.serde_json.RoundTrips) (run_id : RunId) :
    (∀ first rest, AcceptedChain authority.codec first rest →
      (∀ state ∈ first :: rest, state.below_limit = true) → Fencing (first :: rest)) ∧
    ∀ states store, Recorded authority run_id states store →
      stored_state authority store run_id = states.getLast? ∧
      ((∀ state ∈ states, state.below_limit = true) → Fencing states) ∧
      ∀ expected_revision expected_state_digest runtime_instance_id heartbeat_at,
        ClaimsNext authority run_id states store runtime_instance_id
          (claim_workspace_recovery authority store run_id expected_revision expected_state_digest
            runtime_instance_id heartbeat_at) := by
  refine ⟨fun first rest hchain hlimit => hchain.fencing hlimit, ?_⟩
  intro states store h
  refine ⟨h.last hround, ?_, h.claims hround⟩
  intro hlimit
  rcases h.endsChain hround with ⟨rfl, _⟩ | ⟨first, rest, rfl, hchain, _⟩
  · constructor
    · intro i hi
      cases hi
    · intro i j _ hj
      cases hj
    · intro binding i j k _ _ hk
      cases hk
    · intro R i hi
      cases hi
  · exact hchain.fencing hlimit

end Claims

end EngineerVerifierLoop

/-! ## A workspace that is recovered, and then retried -/

namespace EngineerVerifierStateV1

/-- The binding of a broker, in the words of a stored workspace. -/
def owner_triple (state : EngineerVerifierStateV1 LocalRun.Payload) : Option (String × ℕ × ℕ) :=
  state.workspace.map fun workspace =>
    (workspace.runtime_instance_id, workspace.runtime_epoch, workspace.fence)

namespace LocalRun

/-- The state with its workspace in the hands of a second broker. -/
def recovered (state : EngineerVerifierStateV1 Payload) : EngineerVerifierStateV1 Payload :=
  { state with
    workspace := state.workspace.map fun workspace =>
      EngineerVerifierLoop.handed_over workspace "successor" (at_ 2)
    controller_time := max state.controller_time (at_ 2) }

/-- The states behind a claim: the second broker takes the workspace over and asks for a
retry, which the first broker takes up. -/
def refenced : List (EngineerVerifierStateV1 Payload) :=
  [settled (claimed 2), recovered (settled (claimed 2)), recovered (started 2),
    recovered (retry_required 2), recovered released, recovered waiting,
    recovered (settled waiting), reclaimed, settled reclaimed]

theorem refenced_accepted : AcceptedChain retried_codec (claimed 2) refenced := by
  refine ⟨isOk_iff.mp (by decide +kernel), isChain_iff_steps.mpr ?_⟩
  simp only [refenced, steps_cons, steps_nil, List.forall_mem_cons]
  refine ⟨?_, ?_, ?_, ?_, ?_, ?_, ?_, ?_, ?_, List.forall_mem_nil _⟩
  all_goals exact isOk_iff.mp (by decide +kernel)

theorem refenced_below_limit :
    ∀ state ∈ claimed 2 :: refenced, state.below_limit = true := by
  decide

end LocalRun

end EngineerVerifierStateV1

namespace EngineerVerifierLoop

open EngineerVerifierStateV1

/-- The fencing of the run that is recovered and retried. -/
theorem workspace_fencing_retried : Fencing (LocalRun.claimed 2 :: LocalRun.refenced) :=
  (workspace_fencing (LocalRun.loop_authority LocalRun.retried_codec)
    (fun _ _ h => h.symm) "run").1 _ _ LocalRun.refenced_accepted LocalRun.refenced_below_limit

/-- **Counters start anew with a retry**: the first broker has the fence of its first
workspace again, after a second broker had the next one. -/
theorem fence_returns :
    AcceptedChain LocalRun.retried_codec (LocalRun.claimed 2) LocalRun.refenced ∧
      owner_triple (LocalRun.claimed 2) = some ("broker", 1, 1) ∧
      owner_triple (LocalRun.recovered (LocalRun.started 2)) = some ("successor", 2, 2) ∧
      owner_triple LocalRun.reclaimed = some ("broker", 1, 1) ∧
      [LocalRun.claimed 2, LocalRun.recovered (LocalRun.started 2), LocalRun.reclaimed].Sublist
        (LocalRun.claimed 2 :: LocalRun.refenced) := by
  refine ⟨LocalRun.refenced_accepted, by decide, by decide, by decide, ?_⟩
  decide

end EngineerVerifierLoop

end OvcaCore

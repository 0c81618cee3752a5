/-
How a workspace changes hands (`claim_workspace_recovery` of
`ovca-runtime-core/src/sqlite_execution.rs`), and the table under claims and writes by
any callers.

A claim holds the workspace lock, so it is a function of the table, as the other calls
of the authority are here. A lifecycle command in between moves the revision, and then
the claim writes nothing.
-/
import OvcaCore.ToolExecution

set_option autoImplicit false

namespace OvcaCore

open OvcaCore.Checks OvcaCore.Interleaving OvcaCore.Chains EngineerVerifier

namespace EngineerVerifierLoop

section Claims

variable {P R Q : Type} [DecidableEq P]

/-! ## Claims -/

/-- The workspace under another instance, with the next epoch and the next fence. -/
def handed_over (workspace : DurableWorkspaceAuthorityV1) (runtime_instance_id : String)
    (heartbeat_at : DateTime) : DurableWorkspaceAuthorityV1 :=
  { workspace with
    runtime_epoch := workspace.runtime_epoch + 1
    fence := workspace.fence + 1
    heartbeat_at := heartbeat_at
    runtime_instance_id := runtime_instance_id }

/-- The state that a claim writes. -/
def recovered_state (sha256 : EngineerVerifierDigests P) (current : EngineerVerifierStateV1 P)
    (runtime_instance_id : String) (heartbeat_at : DateTime) :
    Except EngineerVerifierError (EngineerVerifierStateV1 P) := do
  let workspace ← ok_or current.workspace .InvalidState
  reject_if (workspace.closed ∨ workspace.cleanup_required
    ∨ runtime_instance_id = workspace.runtime_instance_id
    ∨ heartbeat_at ≤ workspace.heartbeat_at
    ∨ ¬ workspace.authorizes_time current.plan.invocation heartbeat_at) .InvalidBinding
  reject_if (U64_MAX < workspace.runtime_epoch + 1) .Overflow
  reject_if (U64_MAX < workspace.fence + 1) .Overflow
  { current with
    workspace := some (handed_over workspace runtime_instance_id heartbeat_at)
    controller_time := heartbeat_at }.refresh_digest sha256

/-- `DurableLeaseBinding::recovered`. -/
def recovered_binding (run_id : RunId) (workspace : DurableWorkspaceAuthorityV1) :
    DurableLeaseBinding where
  run_id := run_id
  pre_admission := none
  runtime_instance_id := workspace.runtime_instance_id
  runtime_epoch := workspace.runtime_epoch
  fence := workspace.fence
  recovery_token := workspace.recovery_token
  lease := workspace.lease
  lease_digest := workspace.lease_digest
  initial_snapshot := workspace.initial_snapshot
  grant := some (workspace.grant, workspace.grant_digest)

/-- A prepared write of the permit is of the current snapshot and the grant. -/
def validate_permit_write (sha256 : EngineerVerifierDigests P)
    (workspace : DurableWorkspaceAuthorityV1) (prepared : PreparedWriteEffectV1) :
    Except WorkspaceCapabilityError Unit := do
  (prepared.validate sha256).mapError fun _ => .InvalidRequest
  reject_if (prepared.expected_before_snapshot ≠ workspace.current_snapshot
    ∨ prepared.lease_digest ≠ workspace.lease_digest
    ∨ prepared.grant_digest ≠ workspace.grant_digest) .InvalidRequest

/-- `WorkspaceRecoveryPermit::try_new`, for the workspace of a state. -/
def recovery_permit (sha256 : EngineerVerifierDigests P) (run_id : RunId)
    (state : EngineerVerifierStateV1 P) (workspace : DurableWorkspaceAuthorityV1) :
    Except WorkspaceCapabilityError WorkspaceRecoveryPermit := do
  let execution : RoleExecutionRequest := ⟨state.plan.invocation, state.attempt⟩
  reject_if (¬ validate_stable_id workspace.runtime_instance_id) .InvalidConfiguration
  reject_if (¬ validate_stable_id workspace.recovery_token) .InvalidLease
  reject_if (¬ execution.validate sha256.toControlPlaneDigests) .InvalidInvocation
  reject_if (¬ workspace.lease.validate
    ∨ ¬ workspace.initial_snapshot.validate sha256.toToolBoundaryDigests
    ∨ ¬ workspace.current_snapshot.validate sha256.toToolBoundaryDigests
    ∨ ¬ workspace.grant.validate sha256.toToolBoundaryDigests) .InvalidLease
  check_some state.prepared_write (validate_permit_write sha256 workspace)
  reject_if (workspace.runtime_epoch = 0 ∨ workspace.fence = 0
    ∨ workspace.next_receipt_sequence = 0
    ∨ workspace.lease.canonical_digest sha256.toToolBoundaryDigests ≠ some workspace.lease_digest
    ∨ workspace.grant.canonical_digest sha256.toToolBoundaryDigests ≠ some workspace.grant_digest
    ∨ execution.attempt ≠ workspace.lease.attempt
    ∨ execution.attempt ≠ workspace.grant.attempt
    ∨ execution.invocation.invocation_id ≠ workspace.lease.invocation_id
    ∨ execution.invocation.invocation_id ≠ workspace.grant.invocation_id
    ∨ workspace.initial_snapshot.snapshot_digest ≠ workspace.lease.initial_snapshot_digest
    ∨ workspace.current_snapshot.workspace_id ≠ workspace.lease.workspace_id
    ∨ workspace.current_snapshot.lease_id ≠ workspace.lease.lease_id
    ∨ workspace.grant.lease_digest ≠ workspace.lease_digest
    ∨ workspace.grant.snapshot_digest ≠ workspace.initial_snapshot.snapshot_digest) .InvalidLease
  pure
    { execution := execution
      current_snapshot := workspace.current_snapshot
      prepared_write := state.prepared_write
      grant := workspace.grant
      grant_digest := workspace.grant_digest
      next_receipt_sequence := workspace.next_receipt_sequence
      binding := recovered_binding run_id workspace }

structure WorkspaceRecoveryClaim (P R : Type) where
  state : LoadedExecutionRun (EngineerVerifierStateV1 P) R
  permit : WorkspaceRecoveryPermit

/-- The part of a claim after its write. -/
def claimed (sha256 : EngineerVerifierDigests P) (run_id : RunId) :
    ProjectionCasOutcome (EngineerVerifierStateV1 P) R →
      Except (Fault DurableExecutionError) (Option (WorkspaceRecoveryClaim P R))
  | .Unchanged _ | .Conflict _ => .ok none
  | .Applied state => do
    let projection ← ok_or state.envelope.engineer_verifier
      (.error (.EngineerVerifier .InvalidState))
    let workspace ← ok_or projection.workspace (.error (.EngineerVerifier .InvalidState))
    let permit ← (recovery_permit sha256 run_id projection workspace).mapError fun _ =>
      .error (.EngineerVerifier .InvalidBinding)
    pure (some ⟨state, permit⟩)

/-- The part of a claim from the run that it has read. -/
def claim_from (authority : LoopAuthority P R Q) (store : VersionedStateStore Q) (run_id : RunId)
    (expected_revision : ℕ) (expected_state_digest runtime_instance_id : String)
    (heartbeat_at : DateTime) (revision : ℕ) (current : EngineerVerifierStateV1 P) :
    Except (Fault DurableExecutionError) (Option (WorkspaceRecoveryClaim P R)) ×
      VersionedStateStore Q :=
  if revision ≠ expected_revision ∨ current.state_digest ≠ expected_state_digest then
    (.ok none, store)
  else match recovered_state authority.codec.sha256 current runtime_instance_id heartbeat_at with
    | .error e => (.error (.error (.EngineerVerifier e)), store)
    | .ok next =>
      let swapped := (authority.execution.compare_and_swap_engineer_verifier run_id
        expected_revision (some expected_state_digest) next).run StoreOp.perform store
      (swapped.1 >>= claimed authority.codec.sha256 run_id, swapped.2)

def claim_workspace_recovery (authority : LoopAuthority P R Q) (store : VersionedStateStore Q)
    (run_id : RunId) (expected_revision : ℕ) (expected_state_digest runtime_instance_id : String)
    (heartbeat_at : DateTime) :
    Except (Fault DurableExecutionError) (Option (WorkspaceRecoveryClaim P R)) ×
      VersionedStateStore Q :=
  match ((authority.execution.load run_id).run StoreOp.perform store).1 with
  | .error e => (.error e, store)
  | .ok loaded =>
    match loaded.envelope.engineer_verifier with
    | none => (.error (.error (.EngineerVerifier .InvalidState)), store)
    | some current => claim_from authority store run_id expected_revision expected_state_digest
        runtime_instance_id heartbeat_at loaded.revision current

/-- The counters are not at their limit, and the state differs in the owner of its
workspace, its time and its digest. -/
theorem recovered_state_eq_ok {sha256 : EngineerVerifierDigests P}
    {current next : EngineerVerifierStateV1 P} {runtime_instance_id : String}
    {heartbeat_at : DateTime}
    (h : recovered_state sha256 current runtime_instance_id heartbeat_at = .ok next) :
    ∃ before, current.workspace = some before ∧ before.closed = false ∧
      runtime_instance_id ≠ before.runtime_instance_id ∧
      before.runtime_epoch + 1 ≤ U64_MAX ∧ before.fence + 1 ≤ U64_MAX ∧
      next.workspace = some (handed_over before runtime_instance_id heartbeat_at) := by
  simp only [recovered_state, bind_eq_ok, ok_or_eq_ok, reject_if_eq_ok, exists_const, not_or,
    not_lt, Bool.not_eq_true] at h
  obtain ⟨before, hbefore, ⟨hopen, _, hother, _⟩, hepoch, hfence, hrefresh⟩ := h
  simp only [EngineerVerifierStateV1.refresh_digest, bind_eq_ok, pure_eq_ok, exists_and_right,
    exists_unit_eq_ok] at hrefresh
  obtain ⟨_, rfl⟩ := hrefresh
  exact ⟨before, hbefore, hopen, hother, hepoch, hfence, rfl⟩

omit [DecidableEq P] in
theorem recovery_permit_binding {sha256 : EngineerVerifierDigests P} {run_id : RunId}
    {state : EngineerVerifierStateV1 P} {workspace : DurableWorkspaceAuthorityV1}
    {permit : WorkspaceRecoveryPermit}
    (h : recovery_permit sha256 run_id state workspace = .ok permit) :
    permit.binding = recovered_binding run_id workspace := by
  simp only [recovery_permit, bind_eq_ok, pure_eq_ok] at h
  obtain ⟨_, _, _, _, _, _, _, _, _, _, _, _, rfl⟩ := h
  rfl

/-- What a claim that hands the workspace over has done. -/
structure HandsOver (authority : LoopAuthority P R Q) (store : VersionedStateStore Q)
    (run_id : RunId) (runtime_instance_id : String) (heartbeat_at : DateTime)
    (claim : Except (Fault DurableExecutionError) (Option (WorkspaceRecoveryClaim P R)) ×
      VersionedStateStore Q) (current next : EngineerVerifierStateV1 P)
    (before : DurableWorkspaceAuthorityV1) : Prop where
  stored : stored_state authority store run_id = some current
  held : current.workspace = some before
  opened : before.closed = false
  other : runtime_instance_id ≠ before.runtime_instance_id
  epoch : before.runtime_epoch + 1 ≤ U64_MAX
  fence : before.fence + 1 ≤ U64_MAX
  after : next.workspace = some (handed_over before runtime_instance_id heartbeat_at)
  written : ∃ expected_revision expected_state_digest loaded,
    compare_and_swap authority store run_id expected_revision expected_state_digest next
      = (.ok loaded, claim.2)
  permit : ∀ granted, claim.1 = .ok (some granted) → granted.permit.binding =
    recovered_binding run_id (handed_over before runtime_instance_id heartbeat_at)

omit [DecidableEq P] in
/-- The permit of a claim is for the workspace that it has written. -/
theorem claimed_binding {sha256 : EngineerVerifierDigests P} {run_id : RunId}
    {state : LoadedExecutionRun (EngineerVerifierStateV1 P) R} {next : EngineerVerifierStateV1 P}
    {workspace : DurableWorkspaceAuthorityV1} {granted : WorkspaceRecoveryClaim P R}
    (hstate : state.envelope.engineer_verifier = some next)
    (hworkspace : next.workspace = some workspace)
    (h : claimed sha256 run_id (.Applied state) = .ok (some granted)) :
    granted.permit.binding = recovered_binding run_id workspace := by
  simp only [claimed, bind_eq_ok, ok_or_eq_ok, mapError_eq_ok, pure_eq_ok, hstate,
    Option.some_inj] at h
  obtain ⟨_, rfl, other, hother, permit, hpermit, rfl⟩ := h
  rw [hworkspace, Option.some_inj] at hother
  subst hother
  exact recovery_permit_binding hpermit

theorem claim_from_cases {authority : LoopAuthority P R Q}
    (hround : authority.serde_json.RoundTrips) {store : VersionedStateStore Q} {run_id : RunId}
    {current : EngineerVerifierStateV1 P}
    (hstored : stored_state authority store run_id = some current) (expected_revision : ℕ)
    (expected_state_digest runtime_instance_id : String) (heartbeat_at : DateTime) (revision : ℕ) :
    let claim := claim_from authority store run_id expected_revision expected_state_digest
      runtime_instance_id heartbeat_at revision current
    (claim.2 = store ∧ ∀ granted, claim.1 ≠ .ok (some granted)) ∨
      ∃ next before, HandsOver authority store run_id runtime_instance_id heartbeat_at claim
        current next before := by
  intro claim
  have hclaim : claim = claim_from authority store run_id expected_revision expected_state_digest
    runtime_instance_id heartbeat_at revision current := rfl
  unfold claim_from at hclaim
  split at hclaim
  · rw [hclaim]
    exact Or.inl ⟨rfl, fun granted h => by cases h⟩
  · cases hnext : recovered_state authority.codec.sha256 current runtime_instance_id
      heartbeat_at with
    | error e =>
      simp only [hnext] at hclaim
      rw [hclaim]
      exact Or.inl ⟨rfl, fun granted h => by cases h⟩
    | ok next =>
      simp only [hnext] at hclaim
      unfold DurableExecutionAuthority.compare_and_swap_engineer_verifier at hclaim
      obtain ⟨before, hbefore, hopen, hother, hepoch, hfence, hafter⟩ := recovered_state_eq_ok hnext
      rcases DurableExecutionAuthority.compare_and_swap_projection_cases
          (a := authority.execution) hround authority.execution.engineer_verifier
          DurableExecutionAuthority.engineer_verifier_slot run_id expected_revision
          (some expected_state_digest) next store with
        ⟨hsame, hno⟩ | ⟨read, payload, _, _, _, hrun⟩
      · left
        rw [hclaim]
        refine ⟨hsame, ?_⟩
        intro granted hgranted
        obtain ⟨outcome, houtcome, hclaimed⟩ := bind_eq_ok.mp hgranted
        cases outcome with
        | Applied state => exact hno state houtcome
        | Unchanged state => cases hclaimed
        | Conflict state => cases hclaimed
      · right
        refine ⟨next, before, ⟨hstored, hbefore, hopen, hother, hepoch, hfence, hafter, ?_, ?_⟩⟩
        · refine ⟨expected_revision, some expected_state_digest,
            ⟨{ read.envelope with engineer_verifier := some next }, expected_revision + 1⟩, ?_⟩
          unfold compare_and_swap DurableExecutionAuthority.compare_and_swap_engineer_verifier
          rw [hclaim, hrun]
          rfl
        · intro granted hgranted
          rw [hclaim, hrun] at hgranted
          have hclaimed : claimed authority.codec.sha256 run_id (.Applied
              ⟨{ read.envelope with engineer_verifier := some next }, expected_revision + 1⟩)
                = .ok (some granted) := hgranted
          exact claimed_binding rfl hafter hclaimed

/-- A claim writes nothing and permits nothing, or hands the workspace over. -/
theorem claim_workspace_recovery_cases {authority : LoopAuthority P R Q}
    (hround : authority.serde_json.RoundTrips) (store : VersionedStateStore Q) (run_id : RunId)
    (expected_revision : ℕ) (expected_state_digest runtime_instance_id : String)
    (heartbeat_at : DateTime) :
    let claim := claim_workspace_recovery authority store run_id expected_revision
      expected_state_digest runtime_instance_id heartbeat_at
    (claim.2 = store ∧ ∀ granted, claim.1 ≠ .ok (some granted)) ∨
      ∃ current next before, HandsOver authority store run_id runtime_instance_id heartbeat_at
        claim current next before := by
  unfold claim_workspace_recovery
  cases hload : ((authority.execution.load run_id).run StoreOp.perform store).1 with
  | error e => exact Or.inl ⟨rfl, fun granted h => by cases h⟩
  | ok loaded =>
    have hstored := stored_state_eq (DurableExecutionAuthority.run_load.mp hload)
    cases hcurrent : loaded.envelope.engineer_verifier with
    | none =>
      left
      simp [hcurrent]
    | some current =>
      simp only [hcurrent]
      rcases claim_from_cases hround (hstored.trans hcurrent) expected_revision
          expected_state_digest runtime_instance_id heartbeat_at loaded.revision with hno | hover
      · exact Or.inl hno
      · exact Or.inr ⟨current, hover⟩

/-! ## The states that the table has held -/

/-- The table after any run of callers that has written the states in this order. Every
other write leaves the state of the run alone. -/
inductive Recorded (authority : LoopAuthority P R Q) (run_id : RunId) :
    List (EngineerVerifierStateV1 P) → VersionedStateStore Q → Prop where
  | start {store : VersionedStateStore Q} :
    stored_state authority store run_id = none → Recorded authority run_id [] store
  | elsewhere {states : List (EngineerVerifierStateV1 P)} {store store' : VersionedStateStore Q} :
    Recorded authority run_id states store →
    stored_state authority store' run_id = stored_state authority store run_id →
    Recorded authority run_id states store'
  | write {states : List (EngineerVerifierStateV1 P)} {store store' : VersionedStateStore Q}
      {expected_revision : ℕ} {expected_state_digest : Option String}
      {next : EngineerVerifierStateV1 P}
      {loaded : LoadedExecutionRun (EngineerVerifierStateV1 P) R} :
    Recorded authority run_id states store →
    compare_and_swap authority store run_id expected_revision expected_state_digest next
      = (.ok loaded, store') →
    Recorded authority run_id (states ++ [next]) store'

variable {authority : LoopAuthority P R Q} {run_id : RunId}
  {states : List (EngineerVerifierStateV1 P)} {store : VersionedStateStore Q}

/-- What the table holds is the end of an accepted chain. -/
def EndsChain (authority : LoopAuthority P R Q) (run_id : RunId)
    (states : List (EngineerVerifierStateV1 P)) (store : VersionedStateStore Q) : Prop :=
  (states = [] ∧ stored_state authority store run_id = none) ∨
    ∃ first rest, states = first :: rest ∧
      EngineerVerifierStateV1.AcceptedChain authority.codec first rest ∧
      stored_state authority store run_id = some (final first rest)

/-- **Whoever writes, the states are an accepted chain**, and the table holds the last. -/
theorem Recorded.endsChain (hround : authority.serde_json.RoundTrips)
    (h : Recorded authority run_id states store) : EndsChain authority run_id states store := by
  induction h with
  | start hnone => exact Or.inl ⟨rfl, hnone⟩
  | elsewhere _ hsame ih =>
    unfold EndsChain
    rw [hsame]
    exact ih
  | @write states store store' revision expected next written _ hswap ih =>
    rcases compare_and_swap_cases hround store run_id revision expected next with
      ⟨e, herror⟩ | ⟨loaded, loaded', after, hstored, hstored', hnext, _, hadmits, happlied⟩
    · rw [herror] at hswap
      cases hswap
    · rw [hswap] at happlied
      have hafter : store' = after := congrArg Prod.snd happlied
      subst hafter
      have hbefore := stored_state_eq hstored
      have hheld : stored_state authority store' run_id = some next := by
        rw [stored_state_eq hstored', hnext]
      right
      rcases ih with ⟨rfl, hnone⟩ | ⟨first, rest, rfl, hchain, hsome⟩
      · rw [hbefore] at hnone
        rw [hnone] at hadmits
        exact ⟨next, [], rfl, ⟨hadmits, List.IsChain.singleton next⟩, hheld⟩
      · rw [hbefore] at hsome
        rw [hsome] at hadmits
        refine ⟨first, rest ++ [next], rfl, hchain.concat hadmits, ?_⟩
        rw [final_concat]
        exact hheld

end Claims

end EngineerVerifierLoop

end OvcaCore

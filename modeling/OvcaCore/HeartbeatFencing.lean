/-
Heartbeats, and the leases of others.

A heartbeat looks up the owner of each write key of its lease by the key alone. That entry is
the one of the lease as long as the owner map matches the leases (`OwnersMatch`), and then a
heartbeat changes what is its own, whatever time it carries. A claim that drops the entries of
an expired lease of another task breaks this: a heartbeat that comes with an earlier time then
finds no entry, or the entry of the task that has the key now (`heartbeat_reaches_other`).
-/
import OvcaCore.ExecutionAgreement
import OvcaCore.WaveExecution
import OvcaCore.ExecutionAccounting

set_option autoImplicit false

namespace OvcaCore

open OvcaCore.Checks OvcaCore.OrderedMaps OvcaCore.ExecutionLifecycle

namespace ExecutionLifecycleKernel

variable {k k' : ExecutionLifecycleKernel} {request : HeartbeatRequest}
  {requests : List ExecutionRequest}

/-! ## What a heartbeat may change -/

/-- The two times of the lease of its task, and the expiry of the owner entries that are of
this task and this lease. -/
structure TouchesOwn (k k' : ExecutionLifecycleKernel) (request : HeartbeatRequest)
    (state : TaskExecutionSnapshot) (lease : TaskLease) : Prop where
  definition : SameDefinition k k'
  state_eq : k.state[request.task_id]? = some state
  lease_eq : state.current_lease = some lease
  times : k'.state = k.state.insert request.task_id
    { state with current_lease := some { lease with
        heartbeat_at := request.now, expires_at := request.expires_at } }
  entries : ∀ (key : String) (owner : WriteKeyOwner), k.write_key_owners[key]? = some owner →
    k'.write_key_owners[key]? = some owner
      ∨ owner.task_id = request.task_id ∧ owner.lease_id = lease.lease_id
        ∧ k'.write_key_owners[key]? = some { owner with expires_at := request.expires_at }
  no_entry : ∀ key : String, k.write_key_owners[key]? = none → k'.write_key_owners[key]? = none

/-- A heartbeat that is answered with an error, or changes what is its own. -/
def SafeHeartbeat (k : ExecutionLifecycleKernel) (request : HeartbeatRequest) : Prop :=
  match apply_heartbeat k request with
  | .ok (_, next) => ∃ state lease, TouchesOwn k next request state lease
  | .error (.error _) => True
  | .error (.panic _) => False

theorem safeHeartbeat_iff : SafeHeartbeat k request
    ↔ NoPanic (apply_heartbeat k request) ∧ ∀ renewed next,
      apply_heartbeat k request = .ok (renewed, next) →
        ∃ state lease, TouchesOwn k next request state lease := by
  unfold SafeHeartbeat
  cases happly : apply_heartbeat k request with
  | ok result =>
    obtain ⟨renewed, next⟩ := result
    refine ⟨fun h => ⟨noPanic_ok, ?_⟩, fun h => h.2 renewed next rfl⟩
    intro renewed' next' heq
    cases heq
    exact h
  | error fault =>
    cases fault with
    | error e => exact ⟨fun _ => ⟨nofun, nofun⟩, fun _ => trivial⟩
    | panic message => exact ⟨False.elim, fun h => h.1 message rfl⟩

/-! ## While the owner map matches -/

theorem extend_owner_of_get {expires_at : DateTime} {owners : BTreeMap String WriteKeyOwner}
    {key : String} {owner : WriteKeyOwner} (howner : owners[key]? = some owner) :
    extend_owner expires_at owners key
      = .ok (owners.insert key { owner with expires_at := expires_at }) := by
  unfold extend_owner
  rw [howner]
  rfl

/-- The entries of some keys can be extended when there is one for each. -/
theorem exists_extend_owner {expires_at : DateTime} {keys : List String}
    {owners : BTreeMap String WriteKeyOwner} (hkeys : ∀ key ∈ keys, key ∈ owners) :
    ∃ owners', fold_checked (extend_owner expires_at) owners keys = .ok owners' := by
  induction keys generalizing owners with
  | nil => exact ⟨owners, rfl⟩
  | cons key keys ih =>
    obtain ⟨owner, howner⟩ := mem_iff_get.mp (hkeys key List.mem_cons_self)
    obtain ⟨owners', howners'⟩ := @ih (owners.insert key { owner with expires_at := expires_at })
      fun other hother => Std.ExtTreeMap.mem_insert.mpr
        (Or.inr (hkeys other (List.mem_cons_of_mem _ hother)))
    exact ⟨owners', fold_checked_cons_eq_ok.mpr ⟨_, extend_owner_of_get howner, howners'⟩⟩

/-- Without an entry for one of them that is a panic. -/
theorem panic_of_extend_owner {expires_at : DateTime} {keys : List String}
    {owners : BTreeMap String WriteKeyOwner} {fault : Fault ExecutionLifecycleError}
    (h : fold_checked (extend_owner expires_at) owners keys = .error fault) :
    ∃ message, fault = .panic message := by
  induction keys generalizing owners with
  | nil => exact nomatch h
  | cons key keys ih =>
    unfold fold_checked at h
    cases howner : owners[key]? with
    | none =>
      have hpanic : extend_owner expires_at owners key
          = .error (.panic "lease owns write key") := by
        unfold extend_owner
        rw [howner]
        rfl
      rw [hpanic, error_bind, Except.error.injEq] at h
      exact ⟨_, h.symm⟩
    | some owner =>
      -- an entry is only replaced, so the loop goes on with the other keys
      rw [extend_owner_of_get howner, ok_bind] at h
      exact ih h

/-- What is left of a heartbeat when its checks pass. -/
theorem apply_heartbeat_checked {task : Task} {state : TaskExecutionSnapshot}
    {lease : TaskLease} (htask : k.tasks[request.task_id]? = some task)
    (hrole : task.assigned_role ≠ .Coordinator)
    (hworker_role : request.worker_role = task.assigned_role)
    (hstate : k.state[request.task_id]? = some state) (hlease : state.current_lease = some lease)
    (hworker : lease.worker_id = request.worker_id) (hid : lease.lease_id = request.lease_id)
    (hnow : request.now < lease.expires_at) (hextends : lease.expires_at < request.expires_at) :
    apply_heartbeat k request =
      fold_checked (extend_owner request.expires_at) k.write_key_owners lease.write_keys.toList
        >>= fun owners => pure (extended lease request,
          { k with
            state := k.state.insert request.task_id
              { state with current_lease := some (extended lease request) }
            write_key_owners := owners }) := by
  have hvalid : validate_role request.task_id task.assigned_role request.worker_role
      = .ok () := by
    rw [validate_role_eq_ok, hworker_role]
    exact ⟨hrole, rfl⟩
  unfold apply_heartbeat
  rw [ok_or_eq_ok.mpr htask, ok_bind, lift_eq_ok.mpr hvalid, ok_bind, expect_eq_ok.mpr hstate,
    ok_bind, ok_or_eq_ok.mpr hlease, ok_bind, reject_if_of_not (not_not.mpr hworker), ok_bind,
    reject_if_of_not (not_not.mpr hid), ok_bind, reject_if_of_not (not_le.mpr hnow), ok_bind,
    reject_if_of_not (not_le.mpr hextends), ok_bind]
  rfl

/-- The definition and the states have the same tasks. -/
def StatesDefined (k : ExecutionLifecycleKernel) : Prop :=
  ∀ task_id : TaskId, task_id ∈ k.state ↔ task_id ∈ k.tasks

/-- **A heartbeat is safe while the owner map matches**, at any time. -/
theorem OwnersMatch.safeHeartbeat (hmatch : OwnersMatch k.state k.write_key_owners)
    (hdefined : StatesDefined k) (request : HeartbeatRequest) : SafeHeartbeat k request := by
  rw [safeHeartbeat_iff]
  constructor
  · unfold apply_heartbeat
    refine noPanic_ok_or.bind fun task htask => noPanic_lift.bind fun _ _ => ?_
    -- a task of the definition has a state, so the first expectation is met
    obtain ⟨state, hstate⟩ := mem_iff_get.mp
      ((hdefined request.task_id).mpr (mem_iff_get.mpr ⟨task, ok_or_eq_ok.mp htask⟩))
    refine (noPanic_expect hstate).bind fun _ hfound => noPanic_ok_or.bind fun lease hlease => ?_
    have hheld : Holds k.state request.task_id lease :=
      ⟨_, expect_eq_ok.mp hfound, ok_or_eq_ok.mp hlease⟩
    refine noPanic_reject_if.bind fun _ _ => noPanic_reject_if.bind fun _ _ =>
      noPanic_reject_if.bind fun _ _ => noPanic_reject_if.bind fun _ _ => ?_
    -- the lease accounts for its keys, so each of them has an entry
    obtain ⟨owners, howners⟩ := @exists_extend_owner request.expires_at lease.write_keys.toList
      k.write_key_owners fun key hkey => mem_iff_get.mpr
        ⟨_, (hmatch key _).mpr ⟨_, lease, hheld, mem_write_key_list.mp hkey, rfl⟩⟩
    dsimp only
    rw [howners]
    exact noPanic_ok
  · intro renewed next happly
    simp only [apply_heartbeat, bind_eq_ok, ok_or_eq_ok, lift_eq_ok, reject_if_eq_ok,
      expect_eq_ok, pure_eq_ok, Prod.mk.injEq, exists_const] at happly
    obtain ⟨_, _, _, _, state, hstate, lease, hlease, _, _, _, _, owners, howners, _, rfl⟩ := happly
    obtain ⟨_, hget⟩ := fold_extend_owner.mp howners
    refine ⟨state, lease, ⟨rfl, rfl, rfl, rfl⟩, hstate, hlease, rfl, ?_, ?_⟩
    · intro key owner howner
      rw [hget, howner]
      by_cases hkey : key ∈ lease.write_keys
      · -- the entry is the one of this lease, since the lease accounts for the key
        have hown := (hmatch key _).mpr ⟨_, lease, ⟨state, hstate, hlease⟩, hkey, rfl⟩
        rw [howner, Option.some_inj] at hown
        refine Or.inr ⟨by rw [hown]; rfl, by rw [hown]; rfl, ?_⟩
        rw [if_pos (mem_write_key_list.mpr hkey)]
        rfl
      · exact Or.inl (if_neg (mt mem_write_key_list.mp hkey))
    · intro key hnone
      rw [hget, hnone]
      by_cases hkey : key ∈ lease.write_keys.toList
      · rw [if_pos hkey]
        rfl
      · rw [if_neg hkey]

/-! ## After a claim that drops the entries of another lease -/

/-- After a claim that drops the entries of a lease of another task, a heartbeat of that task
that comes with an earlier time is not safe. -/
theorem PrunesLease.unsafe_heartbeat {claim : ClaimRequest} {task : Task}
    {current : TaskExecutionSnapshot} (hmatch : OwnersMatch k.state k.write_key_owners)
    (hdefinition : Definition k) (hdefined : StatesDefined k) (hprunes : PrunesLease k claim) :
    ∃ request, ¬ SafeHeartbeat (granted k claim task current) request := by
  obtain ⟨id, lease, hid, hl, hexpired, key, hkey⟩ := hprunes
  obtain ⟨state, hstate, hlease⟩ := hl
  obtain ⟨own_task, hown_task⟩ := mem_iff_get.mp
    ((hdefined id).mp (mem_iff_get.mpr ⟨state, hstate⟩))
  have hstate' : (granted k claim task current).state[id]? = some state :=
    (get_insert_of_ne _ _ (Ne.symm hid)).trans hstate
  -- the new expiry is after the old one, and after the one of whoever has the key now
  let until_ : DateTime := max lease.expires_at claim.expires_at + 1
  let request : HeartbeatRequest :=
    ⟨id, lease.worker_id, own_task.assigned_role, lease.lease_id, lease.expires_at - 1, until_⟩
  refine ⟨request, fun hsafe => ?_⟩
  obtain ⟨hpanic, hok⟩ := safeHeartbeat_iff.mp hsafe
  have hother : ∀ owner : WriteKeyOwner,
      (granted k claim task current).write_key_owners[key]? = some owner →
        owner = owner_of claim.task_id (claimed_lease k claim task (current.attempts + 1)) := by
    intro owner howner
    rcases (get_claimed_owners _ _ _ _ _).mp howner with ⟨-, heq⟩ | ⟨-, hold, hlater⟩
    · exact heq
    · -- the old entry was the one of the expired lease, which the claim has dropped
      rw [(hmatch key _).mpr ⟨id, lease, ⟨state, hstate, hlease⟩, hkey, rfl⟩,
        Option.some_inj] at hold
      rw [← hold] at hlater
      exact absurd hlater (not_lt.mpr hexpired)
  have hheartbeat := @apply_heartbeat_checked (granted k claim task current) request own_task state
    lease hown_task (hdefinition.role id own_task hown_task) rfl hstate' hlease rfl rfl
    (Int.sub_one_lt_of_le (le_refl _)) (Int.lt_add_one_of_le (le_max_left _ _))
  -- either an entry is missing and the heartbeat panics, or the entry is that of the new owner
  cases hfold : fold_checked (extend_owner request.expires_at)
      (granted k claim task current).write_key_owners lease.write_keys.toList with
  | error fault =>
    obtain ⟨message, rfl⟩ := panic_of_extend_owner hfold
    rw [hfold] at hheartbeat
    exact hpanic message hheartbeat
  | ok owners =>
    rw [hfold] at hheartbeat
    obtain ⟨state', lease', htouches⟩ := hok _ _ hheartbeat
    obtain ⟨hentries, hget⟩ := fold_extend_owner.mp hfold
    obtain ⟨owner, howner⟩ := mem_iff_get.mp (hentries key (mem_write_key_list.mpr hkey))
    have heq := hother owner howner
    rcases htouches.entries key owner howner with hsame | ⟨htask, -, -⟩
    · change owners[key]? = some owner at hsame
      rw [hget, if_pos (mem_write_key_list.mpr hkey), howner, Option.map_some,
        Option.some_inj] at hsame
      have hexpiry := congrArg WriteKeyOwner.expires_at hsame
      rw [heq] at hexpiry
      exact absurd hexpiry (Int.lt_add_one_of_le (le_max_right _ _)).ne'
    · rw [heq] at htask
      exact hid htask.symm

/-! ## Runs -/

/-- What every run keeps, whatever its times. -/
theorem run_kept {run_id : RunId} {tasks : List Task} {retry_budget : RetryBudget}
    (hnew : new run_id tasks retry_budget = .ok k) (requests : List ExecutionRequest) :
    Definition (execAll k requests) ∧ StatesDefined (execAll k requests) := by
  have haccounted : Accounted k (execAll k requests) := (new_accounted hnew).run
  have hdefinition := new_definition hnew
  obtain ⟨-, -, hbudget, htasks⟩ := haccounted.definition
  refine ⟨⟨?_, ?_, ?_⟩, haccounted.complete⟩
  · rw [hbudget]
    exact hdefinition.budget
  · rw [htasks]
    exact hdefinition.status
  · rw [htasks]
    exact hdefinition.role

/-- **When heartbeats touch only their own lease.** In a run from `new` with any times: every
heartbeat that could be sent after any part of it is answered with an error, or changes only
the times of the lease of its task and the expiry of the owner entries of that lease, if and
only if no granted claim of the run comes at a time at which another task still has an expired
lease with write keys. -/
theorem heartbeats_safe_iff {run_id : RunId} {tasks : List Task} {retry_budget : RetryBudget}
    (hnew : new run_id tasks retry_budget = .ok k) (requests : List ExecutionRequest) :
    (∀ pre, pre <+: requests → ∀ request, SafeHeartbeat (execAll k pre) request)
      ↔ KeepsLeases k requests := by
  constructor
  · intro hsafe
    induction requests using List.reverseRecOn with
    | nil => exact fun pre claim hpre => absurd (List.prefix_nil.mp hpre) (by simp)
    | append_singleton requests request ih =>
      have hkeep := ih fun pre hpre => hsafe pre (hpre.trans (List.prefix_append _ _))
      refine KeepsLeases.snoc.mpr ⟨hkeep, ?_⟩
      rintro claim rfl ⟨task, current, hgrant⟩ hprunes
      obtain ⟨hdefinition, hdefined⟩ := run_kept hnew requests
      obtain ⟨heartbeat, hunsafe⟩ := @PrunesLease.unsafe_heartbeat (execAll k requests) claim task
        current (hkeep.ownersMatch hnew) hdefinition hdefined hprunes
      have hlast := hsafe _ List.prefix_rfl heartbeat
      rw [execAll_snoc, hgrant.exec_claim] at hlast
      exact hunsafe hlast
  · intro hkeep pre hpre request
    exact ((hkeep.of_prefix hpre).ownersMatch hnew).safeHeartbeat (run_kept hnew pre).2 request

/-- A single claim drops nothing, so no heartbeat after it reaches further than its own lease. -/
theorem heartbeats_safe_claimed :
    ∃ k, new "run" [readyTask "a" [] ["x"], readyTask "b" [] ["y"]] ⟨1, 3⟩ = .ok k ∧
      ∀ request, SafeHeartbeat
        (execAll k [.claim ⟨"a", "worker-a", .Engineer, "lease-a", 1, 10⟩]) request := by
  obtain ⟨k, hk⟩ : ∃ k, new "run" [readyTask "a" [] ["x"], readyTask "b" [] ["y"]] ⟨1, 3⟩ = .ok k :=
    ⟨_, rfl⟩
  refine ⟨k, hk, (heartbeats_safe_iff hk
    [.claim ⟨"a", "worker-a", .Engineer, "lease-a", 1, 10⟩]).mpr ?_ _ List.prefix_rfl⟩
  refine (@KeepsLeases.snoc k [] _).mpr ⟨fun pre claim hpre => ?_, ?_⟩
  · exact absurd (List.prefix_nil.mp hpre) (by simp)
  · rintro claim _ _ ⟨id, lease, _, hl, _⟩
    exact new_holds_nothing hk id lease hl

/-- The lease of `a` ends at 10, and `b` is claimed at 12. -/
def reclaimed : List ExecutionRequest :=
  [.claim ⟨"a", "worker-a", .Engineer, "lease-a", 1, 10⟩,
    .claim ⟨"b", "worker-b", .Engineer, "lease-b", 12, 30⟩]

/-- A worker of `a` whose clock is late. -/
def late_heartbeat : HeartbeatRequest := ⟨"a", "worker-a", .Engineer, "lease-a", 5, 100⟩

/-- **A heartbeat reaches the lease of another task.** Where both tasks want the key `y`, the
late heartbeat of `a` extends the owner entry of `b`; where they want different keys, it
panics. -/
theorem heartbeat_reaches_other :
    (∃ k, new "run" [readyTask "a" [] ["y"], readyTask "b" [] ["y"]] ⟨1, 3⟩ = .ok k ∧
      (execAll k reclaimed).write_key_owners["y"]? = some ⟨"b", "worker-b", "lease-b", 30⟩ ∧
      (execAll k (reclaimed ++ [.heartbeat late_heartbeat])).write_key_owners["y"]?
        = some ⟨"b", "worker-b", "lease-b", 100⟩ ∧
      ¬ SafeHeartbeat (execAll k reclaimed) late_heartbeat) ∧
    ∃ k, new "run" [readyTask "a" [] ["x"], readyTask "b" [] ["y"]] ⟨1, 3⟩ = .ok k ∧
      apply_heartbeat (execAll k reclaimed) late_heartbeat
        = .error (.panic "lease owns write key") := by
  constructor
  · obtain ⟨k, hk⟩ : ∃ k, new "run" [readyTask "a" [] ["y"], readyTask "b" [] ["y"]] ⟨1, 3⟩
        = .ok k := ⟨_, rfl⟩
    refine ⟨k, hk, ?_⟩
    have howner : (execAll k reclaimed).write_key_owners["y"]?
        = some ⟨"b", "worker-b", "lease-b", 30⟩ := by
      cases hk
      decide +kernel
    have hextended : ((apply_heartbeat (execAll k reclaimed) late_heartbeat).toOption.bind
        fun result => result.2.write_key_owners["y"]?)
        = some ⟨"b", "worker-b", "lease-b", 100⟩ := by
      cases hk
      decide +kernel
    refine ⟨howner, ?_, ?_⟩
    · cases hk
      decide +kernel
    · intro hsafe
      obtain ⟨-, hok⟩ := safeHeartbeat_iff.mp hsafe
      cases happly : apply_heartbeat (execAll k reclaimed) late_heartbeat with
      | error fault =>
        rw [happly] at hextended
        exact nomatch hextended
      | ok result =>
        rw [happly] at hextended
        obtain ⟨state, lease, htouches⟩ := hok result.1 result.2 happly
        change result.2.write_key_owners["y"]? = _ at hextended
        rcases htouches.entries "y" _ howner with hsame | ⟨htask, -⟩
        · rw [hextended] at hsame
          exact absurd hsame (by decide)
        · exact absurd htask (by decide)
  · obtain ⟨k, hk⟩ : ∃ k, new "run" [readyTask "a" [] ["x"], readyTask "b" [] ["y"]] ⟨1, 3⟩
        = .ok k := ⟨_, rfl⟩
    refine ⟨k, hk, ?_⟩
    cases hk
    decide +kernel

end ExecutionLifecycleKernel

end OvcaCore

/-
What one request can do to the lifecycle kernel, and write-key exclusion.

The first half says once what an accepted request does: it grants a lease,
extends one, closes one, or changes nothing (`Effect`, `step_effect`). Every
invariant of the kernel is proved from that, so no later proof opens an
operation again.

The second half is the exclusion invariant. Ownership is stored in the lease
and in the owner map; the two may disagree about expired leases, and
`OwnsUnexpired` says that they agree about the others.
-/
import OvcaCore.ExecutionLifecycle
import Mathlib.Data.List.Induction

set_option autoImplicit false

namespace OvcaCore

open OvcaCore.Checks OvcaCore.OrderedMaps OvcaCore.ExecutionLifecycle

namespace ExecutionLifecycleKernel

/-- `task_id` has the current lease `lease`. -/
def Holds (state : BTreeMap TaskId TaskExecutionSnapshot) (task_id : TaskId)
    (lease : TaskLease) : Prop :=
  ∃ st, state[task_id]? = some st ∧ st.current_lease = some lease

/-- The accessor `lease`. -/
def lease (k : ExecutionLifecycleKernel) (task_id : TaskId) : Option TaskLease :=
  k.state[task_id]?.bind fun st => st.current_lease

theorem lease_eq_some {k : ExecutionLifecycleKernel} {task_id : TaskId} {l : TaskLease} :
    k.lease task_id = some l ↔ Holds k.state task_id l := by
  rw [lease, Option.bind_eq_some_iff, Holds]

/-- A task has at most one current lease. -/
theorem Holds.unique {state : BTreeMap TaskId TaskExecutionSnapshot} {task_id : TaskId}
    {l l' : TaskLease} (h : Holds state task_id l) (h' : Holds state task_id l') : l = l' := by
  obtain ⟨st, hst, hl⟩ := h
  obtain ⟨st', hst', hl'⟩ := h'
  rw [hst, Option.some_inj] at hst'
  subst hst'
  exact Option.some_inj.mp (hl.symm.trans hl')

/-- Who holds what after the state of one task is replaced: that task holds
what its new state says, the others what they held. -/
theorem holds_insert {state : BTreeMap TaskId TaskExecutionSnapshot} {task_id id : TaskId}
    {st : TaskExecutionSnapshot} {l : TaskLease} :
    Holds (state.insert task_id st) id l ↔
      (id = task_id ∧ st.current_lease = some l) ∨ (id ≠ task_id ∧ Holds state id l) := by
  by_cases hid : id = task_id
  · subst hid
    simp only [Holds, Std.ExtTreeMap.getElem?_insert_self, Option.some_inj, exists_eq_left',
      true_and, ne_eq, not_true_eq_false, false_and, or_false]
  · simp only [Holds, get_insert_of_ne _ _ (Ne.symm hid), hid, false_and, ne_eq,
      not_false_eq_true, true_and, false_or]

theorem insert_insert (state : BTreeMap TaskId TaskExecutionSnapshot) (task_id : TaskId)
    (st st' : TaskExecutionSnapshot) :
    (state.insert task_id st).insert task_id st' = state.insert task_id st' := by
  apply ext_get
  intro id s
  by_cases hid : task_id = id
  · subst hid
    rw [Std.ExtTreeMap.getElem?_insert_self, Std.ExtTreeMap.getElem?_insert_self]
  · rw [get_insert_of_ne _ _ hid, get_insert_of_ne _ _ hid, get_insert_of_ne _ _ hid]

/-! ## The owner map after each kind of change -/

theorem mem_write_key_list {keys : BTreeSet String} {key : String} :
    key ∈ keys.toList ↔ key ∈ keys := Std.ExtTreeSet.mem_toList

/-- The loop that enters one owner for some keys. -/
theorem foldl_insert_owner (owner : WriteKeyOwner) (keys : List String)
    (owners : BTreeMap String WriteKeyOwner) (key : String) :
    (keys.foldl (fun owners write_key => owners.insert write_key owner) owners)[key]?
      = if key ∈ keys then some owner else owners[key]? := by
  induction keys generalizing owners with
  | nil => simp
  | cons k keys ih =>
    rw [List.foldl_cons, ih, get_insert]
    by_cases hkeys : key ∈ keys
    · simp [hkeys]
    · by_cases hk : k = key
      · simp [hk]
      · simp [hkeys, hk, Ne.symm hk]

/-- After a claim a key of the new lease is owned by it, and another key by
whoever owned it, unless that entry had expired. -/
theorem get_claimed_owners (owners : BTreeMap String WriteKeyOwner) (now : DateTime)
    (lease : TaskLease) (key : String) (o : WriteKeyOwner) :
    (claimed_owners owners now lease)[key]? = some o ↔
      (key ∈ lease.write_keys ∧ o = owner_of lease.task_id lease) ∨
      (key ∉ lease.write_keys ∧ owners[key]? = some o ∧ now < o.expires_at) := by
  rw [claimed_owners, foldl_insert_owner]
  by_cases hkey : key ∈ lease.write_keys
  · rw [if_pos (mem_write_key_list.mpr hkey)]
    simp [hkey, eq_comm]
  · rw [if_neg (mt mem_write_key_list.mp hkey), get_filter_eq_some]
    simp [hkey]

/-- The loop that extends the entries of a lease succeeds exactly when every
key has an entry, and changes the expiry of those entries and nothing else. -/
theorem fold_extend_owner {expires_at : DateTime} {keys : List String}
    {owners owners' : BTreeMap String WriteKeyOwner} :
    fold_checked (extend_owner expires_at) owners keys = .ok owners' ↔
      (∀ key ∈ keys, key ∈ owners) ∧
      ∀ key : String, owners'[key]? = if key ∈ keys
        then owners[key]?.map (fun owner => { owner with expires_at := expires_at })
        else owners[key]? := by
  induction keys generalizing owners with
  | nil =>
    simp only [fold_checked_nil, Except.ok.injEq, List.not_mem_nil, false_imp_iff, implies_true,
      if_false, true_and]
    constructor
    · rintro rfl _
      rfl
    · intro h
      exact Std.ExtTreeMap.ext_getElem? fun key => (h key).symm
  | cons k keys ih =>
    simp only [fold_checked_cons_eq_ok, extend_owner, bind_eq_ok, expect_eq_ok, pure_eq_ok]
    constructor
    · rintro ⟨c, ⟨owner, hk, rfl⟩, hrest⟩
      obtain ⟨hkeys, hget⟩ := ih.mp hrest
      refine ⟨?_, fun key => ?_⟩
      · intro key hkey
        rcases List.mem_cons.mp hkey with rfl | hkey
        · exact mem_iff_get.mpr ⟨owner, hk⟩
        · rcases Std.ExtTreeMap.mem_insert.mp (hkeys key hkey) with heq | hmem
          · rw [Std.LawfulEqCmp.compare_eq_iff_eq] at heq
            exact heq ▸ mem_iff_get.mpr ⟨owner, hk⟩
          · exact hmem
      · rw [hget, get_insert]
        by_cases hkk : k = key
        · subst hkk
          by_cases hmem : k ∈ keys <;> simp [hmem, hk]
        · simp [hkk, Ne.symm hkk]
    · rintro ⟨hkeys, hget⟩
      obtain ⟨owner, hk⟩ := mem_iff_get.mp (hkeys k List.mem_cons_self)
      refine ⟨_, ⟨owner, hk, rfl⟩, ih.mpr ⟨?_, fun key => ?_⟩⟩
      · intro key hkey
        exact Std.ExtTreeMap.mem_insert.mpr (Or.inr (hkeys key (List.mem_cons_of_mem _ hkey)))
      · rw [hget, get_insert]
        by_cases hkk : k = key
        · subst hkk
          by_cases hmem : k ∈ keys <;> simp [hmem, hk]
        · simp [hkk, Ne.symm hkk]

/-- After a release the entries left are those that are not of this lease of
this task. -/
theorem get_released_owners (owners : BTreeMap String WriteKeyOwner) (task_id : TaskId)
    (lease : TaskLease) (key : String) (o : WriteKeyOwner) :
    (released_owners owners task_id lease)[key]? = some o ↔
      owners[key]? = some o ∧
        (key ∉ lease.write_keys ∨ o.task_id ≠ task_id ∨ o.lease_id ≠ lease.lease_id) := by
  rw [released_owners, get_filter_eq_some]
  have hcontains : lease.write_keys.contains key = false ↔ key ∉ lease.write_keys := by
    rw [← Std.ExtTreeSet.contains_iff_mem, Bool.not_eq_true]
  simp only [Bool.or_eq_true, Bool.not_eq_true', bne_iff_ne, ne_eq, or_assoc, hcontains]

/-! ## What an accepted request does -/

/-- What the checks of a claim establish. -/
structure Grant (k : ExecutionLifecycleKernel) (request : ClaimRequest) (task : Task)
    (current : TaskExecutionSnapshot) : Prop where
  task_eq : k.tasks[request.task_id]? = some task
  role_eq : request.worker_role = task.assigned_role
  not_coordinator : request.worker_role ≠ .Coordinator
  expiry : request.now < request.expires_at
  state_eq : k.state[request.task_id]? = some current
  claimable : current.status = .Pending ∨ current.status = .Ready ∨
    current.status = .Running ∧ ∃ l, current.current_lease = some l ∧ l.expires_at ≤ request.now
  dependencies : ∀ dependency_id ∈ task.dependencies, ∃ dependency,
    k.state[dependency_id]? = some dependency ∧ dependency.status = .Completed
  no_overflow : current.attempts + 1 ≤ U32_MAX
  budget : current.attempts + 1 ≤ k.retry_budget.max_attempts
  keys_free : ∀ key ∈ write_key_set task, ∀ owner, k.write_key_owners[key]? = some owner →
    request.now < owner.expires_at → owner.task_id = request.task_id

/-- The kernel after a granted claim. -/
def granted (k : ExecutionLifecycleKernel) (request : ClaimRequest) (task : Task)
    (current : TaskExecutionSnapshot) : ExecutionLifecycleKernel :=
  let lease := claimed_lease k request task (current.attempts + 1)
  { k with
    state := k.state.insert request.task_id
      { status := .Running
        attempts := current.attempts + 1
        current_lease := some lease
        terminal_record := none
        last_failure_reason := current.last_failure_reason }
    write_key_owners := claimed_owners k.write_key_owners request.now lease }

/-- The named task has an unexpired lease at this time. -/
structure ActiveLease (k : ExecutionLifecycleKernel) (task_id : TaskId) (now : DateTime)
    (state : TaskExecutionSnapshot) (lease : TaskLease) : Prop where
  state_eq : k.state[task_id]? = some state
  lease_eq : state.current_lease = some lease
  unexpired : now < lease.expires_at

/-- The lease a heartbeat leaves. -/
def extended (lease : TaskLease) (request : HeartbeatRequest) : TaskLease :=
  { lease with heartbeat_at := request.now, expires_at := request.expires_at }

/-- The states a lease can be closed into: terminal with a record of this run
and task, or failed with a reason. -/
inductive Closing (k : ExecutionLifecycleKernel) (task_id : TaskId)
    (state : TaskExecutionSnapshot) : TaskExecutionSnapshot → Prop
  | terminal (record : TaskTerminalRecord)
      (hversion : record.contract_version = GOAL_RUNTIME_CONTRACT_VERSION)
      (hrun : record.run_id = k.run_id) (htask : record.task_id = task_id) :
      Closing k task_id state
        { state with
          current_lease := none
          status := terminal_status record.outcome
          terminal_record := some record }
  | failure (reason : String) :
      Closing k task_id state
        { state with
          current_lease := none
          last_failure_reason := some reason
          status := failed_status state.attempts k.retry_budget.max_attempts }

/-- What an accepted request does: grant a lease, extend one, close one, or
(the repeat of a terminal request) nothing. -/
inductive Effect (k : ExecutionLifecycleKernel) :
    ExecutionRequest → ExecutionLifecycleKernel → Prop
  | grant (request : ClaimRequest) (task : Task) (current : TaskExecutionSnapshot)
      (h : Grant k request task current) :
      Effect k (.claim request) (granted k request task current)
  | extend (request : HeartbeatRequest) (state : TaskExecutionSnapshot) (lease : TaskLease)
      (owners : BTreeMap String WriteKeyOwner)
      (h : ActiveLease k request.task_id request.now state lease)
      (hexpiry : lease.expires_at < request.expires_at)
      (howners : fold_checked (extend_owner request.expires_at) k.write_key_owners
        lease.write_keys.toList = .ok owners) :
      Effect k (.heartbeat request)
        { k with
          state := k.state.insert request.task_id
            { state with current_lease := some (extended lease request) }
          write_key_owners := owners }
  | close (request : ExecutionRequest) (task_id : TaskId) (state next : TaskExecutionSnapshot)
      (lease : TaskLease) (h : ActiveLease k task_id request.time state lease)
      (hrunning : state.status = .Running) (hnext : Closing k task_id state next) :
      Effect k request
        { k with
          state := k.state.insert task_id next
          write_key_owners := released_owners k.write_key_owners task_id lease }
  | same (request : ExecutionRequest) : Effect k request k

theorem validate_role_eq_ok {task_id : TaskId} {expected actual : Role} {u : Unit} :
    validate_role task_id expected actual = .ok u ↔ actual ≠ .Coordinator ∧ actual = expected := by
  simp only [validate_role, bind_eq_ok, reject_if_eq_ok, exists_const, not_not, ne_eq]

theorem check_claimable_eq_ok {current : TaskExecutionSnapshot} {request : ClaimRequest}
    {u : Unit} :
    check_claimable current request = .ok u ↔
      (current.status = .Pending ∨ current.status = .Ready ∨
        current.status = .Running ∧
          ∃ l, current.current_lease = some l ∧ l.expires_at ≤ request.now) := by
  unfold check_claimable
  cases hs : current.status <;> cases hl : current.current_lease <;> simp

theorem check_write_key_eq_ok {k : ExecutionLifecycleKernel} {request : ClaimRequest}
    {key : String} {u : Unit} :
    check_write_key k request key = .ok u ↔
      ∀ owner, k.write_key_owners[key]? = some owner → request.now < owner.expires_at →
        owner.task_id = request.task_id := by
  unfold check_write_key
  cases h : k.write_key_owners[key]? with
  | none => simp
  | some owner => simp

/-- A claim is accepted exactly when its checks pass, and what it then answers
and leaves is determined. -/
theorem apply_claim_eq_ok {k k' : ExecutionLifecycleKernel} {request : ClaimRequest}
    {lease : TaskLease} :
    apply_claim k request = .ok (lease, k') ↔
      ∃ task current, Grant k request task current ∧
        lease = claimed_lease k request task (current.attempts + 1) ∧
        k' = granted k request task current := by
  simp only [apply_claim, bind_eq_ok, ok_or_eq_ok, lift_eq_ok, validate_role_eq_ok,
    reject_if_eq_ok, expect_eq_ok, check_claimable_eq_ok, check_all_eq_ok, check_dependency,
    check_write_key_eq_ok, add_or_panic_eq_ok, pure_eq_ok, mem_write_key_list, Prod.mk.injEq,
    exists_const, not_le, not_lt, not_not, ne_eq, gt_iff_lt]
  constructor
  · rintro ⟨task, htask, ⟨hcoord, hrole⟩, hexp, current, hcur, hclaim, hdeps, _, ⟨hov, rfl⟩,
      hbudget, hkeys, rfl, rfl⟩
    exact ⟨task, current, ⟨htask, hrole, hcoord, hexp, hcur, hclaim, hdeps, hov, hbudget,
      fun key hkey => hkeys key hkey⟩, rfl, rfl⟩
  · rintro ⟨task, current, h, rfl, rfl⟩
    exact ⟨task, h.task_eq, ⟨h.not_coordinator, h.role_eq⟩, h.expiry, current, h.state_eq,
      h.claimable, h.dependencies, _, ⟨h.no_overflow, rfl⟩, h.budget, h.keys_free, rfl, rfl⟩

/-- A claim that passes its checks takes the kernel to the granted one. -/
theorem Grant.exec_claim {k : ExecutionLifecycleKernel} {claim : ClaimRequest} {task : Task}
    {current : TaskExecutionSnapshot} (h : Grant k claim task current) :
    exec k (.claim claim) = granted k claim task current := by
  have hclaim := apply_claim_eq_ok.mpr ⟨task, current, h, rfl, rfl⟩
  simp only [exec, step, hclaim, Except.map]

/-- An accepted heartbeat extends an unexpired lease. -/
theorem apply_heartbeat_effect {k k' : ExecutionLifecycleKernel} {request : HeartbeatRequest}
    {lease' : TaskLease} (h : apply_heartbeat k request = .ok (lease', k')) :
    Effect k (.heartbeat request) k' := by
  simp only [apply_heartbeat, bind_eq_ok, ok_or_eq_ok, lift_eq_ok, validate_role_eq_ok,
    reject_if_eq_ok, expect_eq_ok, pure_eq_ok, Prod.mk.injEq, exists_const, not_le] at h
  obtain ⟨_, _, _, state, hstate, lease, hlease, _, _, hnow, hexpiry, owners, howners, _, rfl⟩ := h
  exact Effect.extend request state lease owners ⟨hstate, hlease, hnow⟩ hexpiry howners

/-- The active owner of a task holds an unexpired lease on it. -/
theorem require_active_owner_eq_ok {k : ExecutionLifecycleKernel} {task_id : TaskId}
    {worker_id : WorkerId} {worker_role : Role} {lease_id : LeaseId} {now : DateTime}
    {lease : TaskLease}
    (h : require_active_owner k task_id worker_id worker_role lease_id now = .ok lease) :
    ∃ state, ActiveLease k task_id now state lease ∧ state.status = .Running := by
  simp only [require_active_owner, bind_eq_ok, ok_or_eq_ok, lift_eq_ok, validate_role_eq_ok,
    reject_if_eq_ok, expect_eq_ok, pure_eq_ok, exists_const, not_le, ne_eq, not_not] at h
  obtain ⟨_, _, _, state, hstate, hrunning, l, hlease, _, _, _, hnow, rfl⟩ := h
  exact ⟨state, ⟨hstate, hlease, hnow⟩, hrunning⟩

theorem release_current_lease_eq {k : ExecutionLifecycleKernel} {task_id : TaskId}
    {now : DateTime} {state : TaskExecutionSnapshot} {lease : TaskLease}
    (h : ActiveLease k task_id now state lease) :
    release_current_lease k task_id =
      { k with
        state := k.state.insert task_id { state with current_lease := none }
        write_key_owners := released_owners k.write_key_owners task_id lease } := by
  simp only [release_current_lease, h.state_eq, h.lease_eq]

/-- An accepted completion or cancellation closes an unexpired lease, or
repeats the one that did. -/
theorem apply_terminal_effect {k k' : ExecutionLifecycleKernel} (request : ExecutionRequest)
    {task_id : TaskId} {worker_id : WorkerId} {worker_role : Role} {lease_id : LeaseId}
    {key : IdempotencyKey} {outcome : TaskTerminalOutcome} {reason : Option String}
    {record : TaskTerminalRecord}
    (h : apply_terminal k task_id worker_id worker_role lease_id key request.time outcome reason
      = .ok (record, k')) : Effect k request k' := by
  simp only [apply_terminal, bind_eq_ok, ok_or_eq_ok, lift_eq_ok, expect_eq_ok] at h
  obtain ⟨_, _, _, _, state, hstate, h⟩ := h
  cases hrecord : state.terminal_record with
  | some existing =>
    rw [hrecord] at h
    dsimp only at h
    split at h
    · simp only [bind_eq_ok, pure_eq_ok, Prod.mk.injEq] at h
      obtain ⟨_, _, _, rfl⟩ := h
      exact Effect.same request
    · cases h
  | none =>
    rw [hrecord] at h
    simp only [bind_eq_ok, reject_if_eq_ok, expect_eq_ok, pure_eq_ok, Prod.mk.injEq,
      exists_const] at h
    obtain ⟨_, lease, howner, st, hst, _, rfl⟩ := h
    obtain ⟨state', hactive, hrunning⟩ := require_active_owner_eq_ok howner
    rw [release_current_lease_eq hactive] at hst ⊢
    rw [Std.ExtTreeMap.getElem?_insert_self, Option.some_inj] at hst
    subst hst
    rw [insert_insert]
    exact Effect.close request task_id state' _ lease hactive hrunning
      (Closing.terminal ⟨_, _, task_id, worker_id, lease_id, key, outcome, _, reason⟩ rfl rfl rfl)

/-- An accepted failure closes an unexpired lease. -/
theorem apply_failure_effect {k k' : ExecutionLifecycleKernel} {request : FailureRequest}
    {status : TaskStatus} (h : apply_failure k request = .ok (status, k')) :
    Effect k (.fail request) k' := by
  simp only [apply_failure, bind_eq_ok, expect_eq_ok, pure_eq_ok, Prod.mk.injEq] at h
  obtain ⟨lease, howner, st, hst, _, rfl⟩ := h
  obtain ⟨state', hactive, hrunning⟩ := require_active_owner_eq_ok howner
  rw [release_current_lease_eq hactive] at hst ⊢
  rw [Std.ExtTreeMap.getElem?_insert_self, Option.some_inj] at hst
  subst hst
  rw [insert_insert]
  exact Effect.close _ request.task_id state' _ lease hactive hrunning
    (Closing.failure request.reason)

theorem map_eq_ok {ε α β : Type} {x : Except ε α} {f : α → β} {b : β} :
    x.map f = .ok b ↔ ∃ a, x = .ok a ∧ f a = b := by
  cases x <;> simp [Except.map]

/-- The step lemma: an accepted request has one of the four effects. -/
theorem step_effect {k k' : ExecutionLifecycleKernel} {request : ExecutionRequest}
    {response : ExecutionResponse} (h : step k request = .ok (response, k')) :
    Effect k request k' := by
  cases request with
  | claim request =>
    obtain ⟨⟨lease, k₁⟩, hclaim, hk⟩ := map_eq_ok.mp h
    obtain ⟨task, current, hgrant, _, rfl⟩ := apply_claim_eq_ok.mp hclaim
    cases hk
    exact Effect.grant request task current hgrant
  | heartbeat request =>
    obtain ⟨⟨lease, k₁⟩, hbeat, hk⟩ := map_eq_ok.mp h
    cases hk
    exact apply_heartbeat_effect hbeat
  | complete request =>
    obtain ⟨⟨record, k₁⟩, hterm, hk⟩ := map_eq_ok.mp h
    cases hk
    exact apply_terminal_effect (.complete request) hterm
  | cancel request =>
    obtain ⟨⟨record, k₁⟩, hterm, hk⟩ := map_eq_ok.mp h
    cases hk
    exact apply_terminal_effect (.cancel request) hterm
  | fail request =>
    obtain ⟨⟨status, k₁⟩, hfail, hk⟩ := map_eq_ok.mp h
    cases hk
    exact apply_failure_effect hfail

/-- A request, accepted or not, has one of the four effects. -/
theorem exec_effect (k : ExecutionLifecycleKernel) (request : ExecutionRequest) :
    Effect k request (exec k request) := by
  unfold exec
  cases h : step k request with
  | error e => exact Effect.same request
  | ok p => exact step_effect h

/-! ## Runs -/

/-- The times of a run never decrease, and none is later than `t`. -/
def Timely (requests : List ExecutionRequest) (t : DateTime) : Prop :=
  (requests.map ExecutionRequest.time).Pairwise (· ≤ ·) ∧ ∀ r ∈ requests, r.time ≤ t

theorem execAll_append (k : ExecutionLifecycleKernel) (rs rs' : List ExecutionRequest) :
    execAll k (rs ++ rs') = execAll (execAll k rs) rs' := List.foldl_append

/-- The run lemma, for an invariant indexed by the time it is known at: it
survives the passing of time, and an effect of a request at that time. -/
theorem execAll_inv {I : ExecutionLifecycleKernel → DateTime → Prop}
    (hmono : ∀ {k t t'}, I k t → t ≤ t' → I k t')
    (hstep : ∀ {k k' : ExecutionLifecycleKernel} {request}, I k request.time →
      Effect k request k' → I k' request.time)
    {k : ExecutionLifecycleKernel} (hk : ∀ t, I k t) {requests : List ExecutionRequest}
    {t : DateTime} (ht : Timely requests t) : I (execAll k requests) t := by
  induction requests using List.reverseRecOn generalizing t with
  | nil => exact hk t
  | append_singleton rs r ih =>
    obtain ⟨hsorted, hle⟩ := ht
    rw [List.map_append, List.pairwise_append] at hsorted
    have hrs : Timely rs r.time := by
      refine ⟨hsorted.1, fun q hq => ?_⟩
      exact hsorted.2.2 _ (List.mem_map_of_mem hq) _ (List.mem_singleton.mpr rfl)
    have hr : r.time ≤ t := hle r (List.mem_append_right _ (List.mem_singleton.mpr rfl))
    rw [execAll_append]
    exact hmono (hstep (ih hrs) (exec_effect _ r)) hr

/-! ## `new` -/

/-- A fresh kernel holds nothing. -/
theorem new_eq_ok {run_id : RunId} {tasks : List Task} {retry_budget : RetryBudget}
    {k : ExecutionLifecycleKernel} (h : new run_id tasks retry_budget = .ok k) :
    k = { run_id := run_id
          goal_id := (task_map tasks).toList.head?.map fun p => p.2.goal_id
          retry_budget := retry_budget
          tasks := task_map tasks
          state := (task_map tasks).map fun _ task => initial_state task
          write_key_owners := ∅ } := by
  simp only [new, bind_eq_ok, pure_eq_ok] at h
  obtain ⟨_, _, _, _, _, _, _, _, _, _, _, _, rfl⟩ := h
  rfl

theorem new_holds_nothing {run_id : RunId} {tasks : List Task} {retry_budget : RetryBudget}
    {k : ExecutionLifecycleKernel} (h : new run_id tasks retry_budget = .ok k)
    (id : TaskId) (l : TaskLease) : ¬ Holds k.state id l := by
  rintro ⟨st, hst, hl⟩
  rw [new_eq_ok h] at hst
  obtain ⟨task, _, rfl⟩ := get_map_eq_some.mp hst
  cases hl

/-! ## Exclusion -/

/-- Every key of a lease that has not expired at `t` is entered under it. -/
def OwnsUnexpired (k : ExecutionLifecycleKernel) (t : DateTime) : Prop :=
  ∀ id lease, Holds k.state id lease → t < lease.expires_at →
    ∀ key ∈ lease.write_keys, k.write_key_owners[key]? = some (owner_of id lease)

theorem OwnsUnexpired.mono {k : ExecutionLifecycleKernel} {t t' : DateTime}
    (h : OwnsUnexpired k t) (ht : t ≤ t') : OwnsUnexpired k t' :=
  fun id lease hl hexp => h id lease hl (lt_of_le_of_lt ht hexp)

/-- Two tasks whose unexpired leases share a key are one task: the key has one
owner entry, and it names the task. -/
theorem OwnsUnexpired.disjoint {k : ExecutionLifecycleKernel} {t : DateTime}
    (h : OwnsUnexpired k t) {id id' : TaskId} {l l' : TaskLease} (hl : Holds k.state id l)
    (hl' : Holds k.state id' l') (hexp : t < l.expires_at) (hexp' : t < l'.expires_at)
    {key : String} (hkey : key ∈ l.write_keys) (hkey' : key ∈ l'.write_keys) : id = id' := by
  have howner := h id l hl hexp key hkey
  rw [h id' l' hl' hexp' key hkey', Option.some_inj] at howner
  exact (congrArg WriteKeyOwner.task_id howner).symm

theorem OwnsUnexpired.grant {k : ExecutionLifecycleKernel} {request : ClaimRequest} {task : Task}
    {current : TaskExecutionSnapshot} (hI : OwnsUnexpired k request.now)
    (h : Grant k request task current) :
    OwnsUnexpired (granted k request task current) request.now := by
  intro id lease hlease hexp key hkey
  rw [granted, get_claimed_owners]
  rcases holds_insert.mp hlease with ⟨rfl, hl⟩ | ⟨hid, hl⟩
  · obtain rfl := Option.some_inj.mp hl
    exact Or.inl ⟨hkey, rfl⟩
  · -- the key of another task is owned by it and unexpired, so the claim had to leave it alone
    have howner := hI id lease hl hexp key hkey
    refine Or.inr ⟨fun hmem => hid ?_, howner, hexp⟩
    exact h.keys_free key hmem _ howner hexp

theorem OwnsUnexpired.extend {k : ExecutionLifecycleKernel} {request : HeartbeatRequest}
    {state : TaskExecutionSnapshot} {lease : TaskLease} {owners : BTreeMap String WriteKeyOwner}
    (hI : OwnsUnexpired k request.now)
    (h : ActiveLease k request.task_id request.now state lease)
    (howners : fold_checked (extend_owner request.expires_at) k.write_key_owners
      lease.write_keys.toList = .ok owners) :
    OwnsUnexpired { k with
      state := k.state.insert request.task_id
        { state with current_lease := some (extended lease request) }
      write_key_owners := owners } request.now := by
  have hholds : Holds k.state request.task_id lease := ⟨state, h.state_eq, h.lease_eq⟩
  obtain ⟨_, hget⟩ := fold_extend_owner.mp howners
  intro id l hl hexp key hkey
  show owners[key]? = some (owner_of id l)
  rw [hget]
  rcases holds_insert.mp hl with ⟨rfl, heq⟩ | ⟨hid, hl⟩
  · obtain rfl := Option.some_inj.mp heq
    have hkey : key ∈ lease.write_keys := hkey
    rw [if_pos (mem_write_key_list.mpr hkey), hI _ lease hholds h.unexpired key hkey]
    rfl
  · have hne : key ∉ lease.write_keys.toList := fun hmem =>
      hid (hI.disjoint hl hholds hexp h.unexpired hkey (mem_write_key_list.mp hmem))
    rw [if_neg hne]
    exact hI id l hl hexp key hkey

theorem OwnsUnexpired.close {k : ExecutionLifecycleKernel} {t : DateTime} {task_id : TaskId}
    {state next : TaskExecutionSnapshot} {lease : TaskLease} (hI : OwnsUnexpired k t)
    (hnext : Closing k task_id state next) :
    OwnsUnexpired { k with
      state := k.state.insert task_id next
      write_key_owners := released_owners k.write_key_owners task_id lease } t := by
  have hnone : next.current_lease = none := by cases hnext <;> rfl
  intro id l hl hexp key hkey
  rcases holds_insert.mp hl with ⟨rfl, heq⟩ | ⟨hid, hl⟩
  · rw [hnone] at heq
    cases heq
  · exact (get_released_owners _ _ _ _ _).mpr ⟨hI id l hl hexp key hkey, Or.inr (Or.inl hid)⟩

/-- Every effect keeps the exclusion invariant. -/
theorem OwnsUnexpired.effect {k k' : ExecutionLifecycleKernel} {request : ExecutionRequest}
    (hI : OwnsUnexpired k request.time) (h : Effect k request k') :
    OwnsUnexpired k' request.time := by
  cases h with
  | grant request task current h => exact hI.grant h
  | extend request state lease owners h _ howners => exact hI.extend h howners
  | close request task_id state next lease _ _ hnext => exact hI.close hnext
  | same => exact hI

/-- The exclusion invariant holds after every run whose times do not decrease. -/
theorem OwnsUnexpired.run {run_id : RunId} {tasks : List Task} {retry_budget : RetryBudget}
    {k : ExecutionLifecycleKernel} (hnew : new run_id tasks retry_budget = .ok k)
    {requests : List ExecutionRequest} {t : DateTime} (ht : Timely requests t) :
    OwnsUnexpired (execAll k requests) t :=
  execAll_inv (I := OwnsUnexpired) OwnsUnexpired.mono OwnsUnexpired.effect
    (fun _ id l hl => absurd hl (new_holds_nothing hnew id l)) ht

/-- **Write-key mutual exclusion.** After any run from `new` whose times do not
decrease, and at any time not before the last request: two tasks with
unexpired leases share no write key, and every key of an unexpired lease is
owned by exactly that task, worker, lease and expiry. -/
theorem write_key_exclusion {run_id : RunId} {tasks : List Task} {retry_budget : RetryBudget}
    {k : ExecutionLifecycleKernel} (hnew : new run_id tasks retry_budget = .ok k)
    (requests : List ExecutionRequest) (t : DateTime)
    (hsorted : (requests.map ExecutionRequest.time).Pairwise (· ≤ ·))
    (hlast : ∀ r ∈ requests, r.time ≤ t) :
    (∀ id id' l l', id ≠ id' → (execAll k requests).lease id = some l →
      (execAll k requests).lease id' = some l' → t < l.expires_at → t < l'.expires_at →
      ∀ key, ¬ (key ∈ l.write_keys ∧ key ∈ l'.write_keys)) ∧
    (∀ id l, (execAll k requests).lease id = some l → t < l.expires_at →
      ∀ key ∈ l.write_keys, (execAll k requests).write_key_owners[key]? =
        some ⟨id, l.worker_id, l.lease_id, l.expires_at⟩) := by
  have hI : OwnsUnexpired (execAll k requests) t := OwnsUnexpired.run hnew ⟨hsorted, hlast⟩
  constructor
  · rintro id id' l l' hne hl hl' hexp hexp' key ⟨hkey, hkey'⟩
    exact hne (hI.disjoint (lease_eq_some.mp hl) (lease_eq_some.mp hl') hexp hexp' hkey hkey')
  · intro id l hl hexp key hkey
    exact hI id l (lease_eq_some.mp hl) hexp key hkey

/-- A task that the Engineer may claim as soon as its dependencies are done. -/
def readyTask (id : TaskId) (dependencies : List TaskId) (write_keys : List String) : Task where
  contract_version := GOAL_RUNTIME_CONTRACT_VERSION
  id := id
  goal_id := "goal"
  outcome := "finish"
  dependencies := dependencies
  assigned_role := .Engineer
  resource_keys := []
  write_keys := write_keys
  status := .Ready
  created_at := 0
  updated_at := 0

/-- Two tasks that want the key `y`: the second gets it once the first lease
has expired, and then owns it. -/
theorem write_key_exclusion_reclaimed :
    ∃ k, new "run" [readyTask "a" [] ["x", "y"], readyTask "b" [] ["y", "z"]] ⟨1, 3⟩ = .ok k ∧
      (execAll k [.claim ⟨"a", "worker-a", .Engineer, "lease-a", 1, 10⟩,
        .claim ⟨"b", "worker-b", .Engineer, "lease-b", 12, 30⟩]).write_key_owners["y"]?
        = some ⟨"b", "worker-b", "lease-b", 30⟩ := by
  obtain ⟨k, hk⟩ : ∃ k, new "run" [readyTask "a" [] ["x", "y"], readyTask "b" [] ["y", "z"]] ⟨1, 3⟩
      = .ok k := ⟨_, rfl⟩
  refine ⟨k, hk, ?_⟩
  have h := (write_key_exclusion hk [.claim ⟨"a", "worker-a", .Engineer, "lease-a", 1, 10⟩,
    .claim ⟨"b", "worker-b", .Engineer, "lease-b", 12, 30⟩] 13 (by decide) (by decide)).2
  cases hk
  exact h "b" _ rfl (by decide) "y" (by decide)

end ExecutionLifecycleKernel

end OvcaCore

/-
The lifecycle kernel goes through a plan of the scheduler.

Wave by wave, every task is claimed in its role and completed under its lease, the tasks of
a wave in any order. A claim finds its dependencies completed, since they are in earlier
waves, and no write key taken, since the open leases are those of its own wave
(`InWave`). So no request is refused, and at the end every task is completed
(`plan_accepted`).
-/
import OvcaCore.PlannedWaves

set_option autoImplicit false

namespace OvcaCore

open OvcaCore.Checks OvcaCore.OrderedMaps OvcaCore.ExecutionLifecycle OvcaCore.Scheduler

namespace ExecutionLifecycleKernel

/-! ## Requests that process a plan -/

structure WaveRequests where
  claims : List ClaimRequest
  completions : List CompletionRequest

def WaveRequests.requests (wave : WaveRequests) : List ExecutionRequest :=
  wave.claims.map .claim ++ wave.completions.map .complete

/-- Every task of the wave is claimed once, in its role, and completed once under its lease,
before the lease expires. The times need not be in order. -/
structure Processes (tasks : List Task) (wave : ExecutionWave) (requests : WaveRequests) :
    Prop where
  claims : (requests.claims.map ClaimRequest.task_id).Perm wave.task_ids
  completions : (requests.completions.map CompletionRequest.task_id).Perm wave.task_ids
  roles : ∀ claim ∈ requests.claims, ∀ task ∈ tasks, task.id = claim.task_id →
    claim.worker_role = task.assigned_role
  starts : ∀ claim ∈ requests.claims, claim.now < claim.expires_at
  leases : ∀ claim ∈ requests.claims, ∀ completion ∈ requests.completions,
    completion.task_id = claim.task_id →
      completion.worker_id = claim.worker_id ∧ completion.worker_role = claim.worker_role
        ∧ completion.lease_id = claim.lease_id ∧ completion.occurred_at < claim.expires_at

/-- The kernel after requests that are all accepted. -/
def accepted (k : ExecutionLifecycleKernel) (requests : List ExecutionRequest) :
    Except (Fault ExecutionLifecycleError) ExecutionLifecycleKernel :=
  fold_checked (fun k request => (step k request).map Prod.snd) k requests

/-! ## The invariant -/

/-- Some tasks are completed, some are open under the lease of their claim, the others are as
they were declared. Only open leases own write keys. -/
structure InWave (k₀ k : ExecutionLifecycleKernel) (completed : List TaskId)
    (opened : List ClaimRequest) : Prop where
  definition : SameDefinition k₀ k
  all_completed : ∀ task_id ∈ completed, ∃ st, k.state[task_id]? = some st
    ∧ st.status = .Completed
  all_open : ∀ claim ∈ opened, ∃ task st, k₀.tasks[claim.task_id]? = some task
    ∧ k.state[claim.task_id]? = some st ∧ st.status = .Running ∧ st.terminal_record = none
    ∧ st.current_lease = some (claimed_lease k₀ claim task 1)
  others : ∀ (task_id : TaskId) (task : Task), k₀.tasks[task_id]? = some task →
    task_id ∉ completed → task_id ∉ opened.map ClaimRequest.task_id →
      k.state[task_id]? = some (initial_state task)
  owners : ∀ (key : String) (owner : WriteKeyOwner), k.write_key_owners[key]? = some owner →
    ∃ claim ∈ opened, ∃ task, k₀.tasks[claim.task_id]? = some task
      ∧ key ∈ write_key_set task
      ∧ owner = owner_of claim.task_id (claimed_lease k₀ claim task 1)

/-- The tasks of a definition that `new` accepts. -/
structure Definition (k₀ : ExecutionLifecycleKernel) : Prop where
  budget : 1 ≤ k₀.retry_budget.max_attempts
  status : ∀ (task_id : TaskId) (task : Task), k₀.tasks[task_id]? = some task →
    task.status = .Pending ∨ task.status = .Ready
  role : ∀ (task_id : TaskId) (task : Task), k₀.tasks[task_id]? = some task →
    task.assigned_role ≠ .Coordinator

variable {k₀ k k' : ExecutionLifecycleKernel} {completed : List TaskId}
  {opened : List ClaimRequest} {wave : List TaskId}

theorem new_definition {run_id : RunId} {tasks : List Task} {retry_budget : RetryBudget}
    (hnew : new run_id tasks retry_budget = .ok k) : Definition k := by
  obtain ⟨-, hmax, -, hvalid, -, -, rfl⟩ := new_eq_ok_iff.mp hnew
  have htask : ∀ (task_id : TaskId) (task : Task), (task_map tasks)[task_id]? = some task →
      task.assigned_role ≠ .Coordinator ∧ (task.status = .Pending ∨ task.status = .Ready) := by
    intro task_id task hget
    have htask := hvalid (task_id, task) (Std.ExtTreeMap.mem_toList_iff_getElem?_eq_some.mpr hget)
    exact (validate_task_eq_ok.mp htask).2
  exact ⟨Nat.one_le_iff_ne_zero.mpr hmax, fun id task hget => (htask id task hget).2,
    fun id task hget => (htask id task hget).1⟩

theorem new_inWave {run_id : RunId} {tasks : List Task} {retry_budget : RetryBudget}
    (hnew : new run_id tasks retry_budget = .ok k) : InWave k k [] [] := by
  have hkernel := new_eq_ok hnew
  refine ⟨⟨rfl, rfl, rfl, rfl⟩, fun _ hmem => absurd hmem List.not_mem_nil,
    fun _ hmem => absurd hmem List.not_mem_nil, ?_, ?_⟩
  · intro task_id task hget _ _
    rw [hkernel] at hget ⊢
    exact get_map_eq_some.mpr ⟨task, hget, rfl⟩
  · intro key owner howner
    rw [hkernel] at howner
    exact absurd howner (by simp)

theorem mem_write_key_set {task : Task} {key : String} :
    key ∈ write_key_set task ↔ key ∈ task.write_keys := by
  rw [write_key_set, Std.ExtTreeSet.mem_ofList, List.contains_iff_mem]

/-- Different tasks of a wave share no key. -/
theorem disjoint_of_planned {tasks_by_id : BTreeMap TaskId Task}
    (h : WavePlanned tasks_by_id completed wave) {task_id task_id' : TaskId}
    (hmem : task_id ∈ wave) (hmem' : task_id' ∈ wave) (hne : task_id ≠ task_id')
    {task task' : Task} (htask : tasks_by_id[task_id]? = some task)
    (htask' : tasks_by_id[task_id']? = some task') {key : String}
    (hkey : key ∈ write_key_set task) : key ∉ write_key_set task' := by
  have hsymm : Std.Symm (SharesNoKey tasks_by_id) :=
    ⟨fun a b hab key hkey hkey' => hab key hkey' hkey⟩
  have hshares := h.disjoint.forall hmem hmem' hne
  unfold SharesNoKey write_keys_of at hshares
  rw [htask, htask'] at hshares
  rw [mem_write_key_set] at hkey ⊢
  exact hshares key hkey

/-! ## Claims -/

/-- **A claim of the wave is granted.** -/
theorem InWave.claim {claim : ClaimRequest} {task : Task} (hdefinition : Definition k₀)
    (hplanned : WavePlanned k₀.tasks completed wave) (h : InWave k₀ k completed opened)
    (htask : k₀.tasks[claim.task_id]? = some task) (hmem : claim.task_id ∈ wave)
    (hopened : ∀ other ∈ opened, other.task_id ∈ wave)
    (hfresh : claim.task_id ∉ opened.map ClaimRequest.task_id)
    (hrole : claim.worker_role = task.assigned_role) (hstarts : claim.now < claim.expires_at) :
    ∃ k', (step k (.claim claim)).map Prod.snd = .ok k'
      ∧ InWave k₀ k' completed (opened ++ [claim]) := by
  have hstate := h.others claim.task_id task htask (hplanned.fresh _ hmem) hfresh
  obtain ⟨planned, hplanned_task, hdependencies⟩ := hplanned.dependencies _ hmem
  obtain rfl : planned = task := Option.some.inj (hplanned_task.symm.trans htask)
  -- an owner of a key is a lease of the same wave, so it is not an owner of this key
  have hkeys : ∀ key ∈ write_key_set planned, k.write_key_owners[key]? = none := by
    intro key hkey
    by_contra howned
    obtain ⟨owner, howner⟩ := Option.ne_none_iff_exists'.mp howned
    obtain ⟨other, hother, other_task, hother_task, hother_key, -⟩ := h.owners key owner howner
    have hne : claim.task_id ≠ other.task_id := by
      intro heq
      rw [heq] at hfresh
      exact hfresh (List.mem_map_of_mem hother)
    exact disjoint_of_planned hplanned hmem (hopened other hother) hne htask hother_task hkey hother_key
  have hgrant : Grant k claim planned (ExecutionLifecycle.initial_state planned) := by
    refine ⟨?_, hrole, ?_, hstarts, hstate, ?_, ?_, ?_, ?_, ?_⟩
    · rw [h.definition.tasks]
      exact htask
    · rw [hrole]
      exact hdefinition.role _ _ htask
    · rcases hdefinition.status _ _ htask with hs | hs
      · exact Or.inl hs
      · exact Or.inr (Or.inl hs)
    · exact fun dependency_id hdependency =>
        h.all_completed dependency_id (hdependencies dependency_id hdependency)
    · show 0 + 1 ≤ U32_MAX
      decide
    · rw [h.definition.retry_budget]
      exact hdefinition.budget
    · intro key hkey owner howner
      rw [hkeys key hkey] at howner
      exact nomatch howner
  have hlease : claimed_lease k claim planned 1 = claimed_lease k₀ claim planned 1 := by
    unfold claimed_lease
    rw [h.definition.run_id, h.definition.retry_budget]
  refine ⟨granted k claim planned (ExecutionLifecycle.initial_state planned), ?_, ?_⟩
  · simp only [step, apply_claim_eq_ok.mpr ⟨planned, _, hgrant, rfl, rfl⟩]
    rfl
  have hother_ids : ∀ other ∈ opened, claim.task_id ≠ other.task_id := by
    intro other hother heq
    rw [heq] at hfresh
    exact hfresh (List.mem_map_of_mem hother)
  refine ⟨⟨h.definition.run_id, h.definition.goal_id, h.definition.retry_budget,
    h.definition.tasks⟩, ?_, ?_, ?_, ?_⟩
  · intro task_id hcompleted
    obtain ⟨st, hst, hstatus⟩ := h.all_completed task_id hcompleted
    refine ⟨st, ?_, hstatus⟩
    rw [← hst]
    apply get_insert_of_ne
    rintro rfl
    exact hplanned.fresh _ hmem hcompleted
  · intro other hother
    rcases List.mem_append.mp hother with hother | hother
    · obtain ⟨other_task, st, hother_task, hst, hrest⟩ := h.all_open other hother
      refine ⟨other_task, st, hother_task, ?_, hrest⟩
      rw [← hst]
      exact get_insert_of_ne _ _ (hother_ids other hother)
    · obtain rfl := List.mem_singleton.mp hother
      refine ⟨planned, _, htask, Std.ExtTreeMap.getElem?_insert_self, rfl, rfl, ?_⟩
      exact congrArg some hlease
  · intro task_id other_task hother_task hcompleted hids
    rw [List.map_append, List.mem_append, not_or] at hids
    rw [← h.others task_id other_task hother_task hcompleted hids.1]
    apply get_insert_of_ne
    intro heq
    rw [← heq] at hids
    exact hids.2 (List.mem_singleton.mpr rfl)
  · intro key owner howner
    rcases (get_claimed_owners _ _ _ _ _).mp howner with ⟨hkey, rfl⟩ | ⟨-, hkept, -⟩
    · refine ⟨claim, List.mem_append_right _ (List.mem_singleton.mpr rfl), planned, htask, hkey, ?_⟩
      rw [← hlease]
      rfl
    · obtain ⟨other, hother, hrest⟩ := h.owners key owner hkept
      exact ⟨other, List.mem_append_left _ hother, hrest⟩

/-! ## Completions -/

def completed_record (k : ExecutionLifecycleKernel) (completion : CompletionRequest) :
    TaskTerminalRecord :=
  { contract_version := GOAL_RUNTIME_CONTRACT_VERSION
    run_id := k.run_id
    task_id := completion.task_id
    worker_id := completion.worker_id
    lease_id := completion.lease_id
    idempotency_key := completion.idempotency_key
    outcome := .Completed
    occurred_at := completion.occurred_at
    reason := none }

/-- The kernel after the completion of an open lease. -/
def closed (k : ExecutionLifecycleKernel) (completion : CompletionRequest)
    (st : TaskExecutionSnapshot) (lease : TaskLease) : ExecutionLifecycleKernel :=
  { k with
    state := k.state.insert completion.task_id
      { st with
        current_lease := none
        status := .Completed
        terminal_record := some (completed_record k completion) }
    write_key_owners := released_owners k.write_key_owners completion.task_id lease }

/-- The owner of an unexpired lease completes its task. -/
theorem step_complete {completion : CompletionRequest} {task : Task} {st : TaskExecutionSnapshot}
    {lease : TaskLease} (htask : k.tasks[completion.task_id]? = some task)
    (hrole : task.assigned_role ≠ .Coordinator) (hworker : completion.worker_role = task.assigned_role)
    (hst : k.state[completion.task_id]? = some st) (hstatus : st.status = .Running)
    (hrecord : st.terminal_record = none) (hlease : st.current_lease = some lease)
    (hlease_role : lease.worker_role = completion.worker_role)
    (hlease_worker : lease.worker_id = completion.worker_id)
    (hlease_id : lease.lease_id = completion.lease_id)
    (hunexpired : completion.occurred_at < lease.expires_at) :
    (step k (.complete completion)).map Prod.snd = .ok (closed k completion st lease) := by
  have hvalid : validate_role completion.task_id task.assigned_role completion.worker_role
      = .ok () := by
    rw [validate_role_eq_ok, hworker]
    exact ⟨hrole, rfl⟩
  have hactive : ActiveLease k completion.task_id completion.occurred_at st lease :=
    ⟨hst, hlease, hunexpired⟩
  have howner : require_active_owner k completion.task_id completion.worker_id
      completion.worker_role completion.lease_id completion.occurred_at = .ok lease := by
    simp only [require_active_owner, bind_eq_ok, ok_or_eq_ok, lift_eq_ok, reject_if_eq_ok,
      expect_eq_ok, pure_eq_ok, exists_const, exists_and_right, exists_unit_eq_ok, ne_eq, not_not,
      not_le]
    exact ⟨task, htask, hvalid, st, hst, hstatus, lease, hlease, hlease_role, hlease_worker,
      hlease_id, hunexpired, rfl⟩
  have hterminal : apply_completion k completion
      = .ok (completed_record k completion, closed k completion st lease) := by
    unfold apply_completion apply_terminal
    simp only [bind_eq_ok, ok_or_eq_ok, lift_eq_ok, expect_eq_ok]
    refine ⟨task, htask, (), hvalid, st, hst, ?_⟩
    rw [hrecord]
    simp only [bind_eq_ok, reject_if_eq_ok, expect_eq_ok, pure_eq_ok, exists_const, howner]
    refine ⟨?_, lease, rfl, { st with current_lease := none }, ?_, ?_⟩
    · rw [hstatus]
      simp
    · rw [release_current_lease_eq hactive]
      exact Std.ExtTreeMap.getElem?_insert_self
    · rw [release_current_lease_eq hactive, insert_insert]
      rfl
  simp only [step, hterminal]
  rfl

/-- **A completion of an open lease is accepted.** -/
theorem InWave.complete {claim : ClaimRequest} {completion : CompletionRequest}
    (hdefinition : Definition k₀) (h : InWave k₀ k completed opened) (hmem : claim ∈ opened)
    (hids : (opened.map ClaimRequest.task_id).Nodup)
    (hrole : ∀ task, k₀.tasks[claim.task_id]? = some task →
      claim.worker_role = task.assigned_role)
    (hid : completion.task_id = claim.task_id)
    (hlease : completion.worker_id = claim.worker_id
      ∧ completion.worker_role = claim.worker_role ∧ completion.lease_id = claim.lease_id
      ∧ completion.occurred_at < claim.expires_at) :
    ∃ k', (step k (.complete completion)).map Prod.snd = .ok k'
      ∧ InWave k₀ k' (completed ++ [completion.task_id])
        (opened.filter fun other => other.task_id != completion.task_id) := by
  obtain ⟨task, st, htask, hst, hstatus, hrecord, hcurrent⟩ := h.all_open claim hmem
  obtain ⟨hworker, hworker_role, hlease_id, hunexpired⟩ := hlease
  have hassigned := hrole task htask
  rw [← h.definition.tasks, ← hid] at htask
  rw [← hid] at hst
  refine ⟨_, step_complete htask ?_ (hworker_role.trans hassigned) hst hstatus hrecord hcurrent
    hworker_role.symm hworker.symm hlease_id.symm hunexpired, ?_⟩
  · rw [h.definition.tasks] at htask
    exact hdefinition.role _ _ htask
  have hsame : ∀ other ∈ opened, other.task_id = completion.task_id → other = claim := by
    intro other hother heq
    exact List.inj_on_of_nodup_map hids hother hmem (heq.trans hid)
  have hstays : ∀ task_id, completion.task_id ≠ task_id →
      (closed k completion st (claimed_lease k₀ claim task 1)).state[task_id]?
        = k.state[task_id]? := fun task_id hne => get_insert_of_ne _ _ hne
  refine ⟨⟨h.definition.run_id, h.definition.goal_id, h.definition.retry_budget,
    h.definition.tasks⟩, ?_, ?_, ?_, ?_⟩
  · intro task_id hcompleted
    by_cases heq : completion.task_id = task_id
    · subst heq
      exact ⟨_, Std.ExtTreeMap.getElem?_insert_self, rfl⟩
    · rcases List.mem_append.mp hcompleted with hcompleted | hcompleted
      · rw [hstays task_id heq]
        exact h.all_completed task_id hcompleted
      · exact absurd (List.mem_singleton.mp hcompleted).symm heq
  · intro other hother
    obtain ⟨hother, hne⟩ := List.mem_filter.mp hother
    rw [hstays other.task_id (Ne.symm (by simpa using hne))]
    exact h.all_open other hother
  · intro task_id other_task hother_task hcompleted hopened
    rw [List.mem_append, List.mem_singleton, not_or] at hcompleted
    rw [hstays task_id (Ne.symm hcompleted.2)]
    refine h.others task_id other_task hother_task hcompleted.1 ?_
    intro hmem_opened
    obtain ⟨other, hother, rfl⟩ := List.mem_map.mp hmem_opened
    refine hopened (List.mem_map_of_mem (List.mem_filter.mpr ⟨hother, ?_⟩))
    simpa using hcompleted.2
  · intro key owner howner
    obtain ⟨howner, hkept⟩ := (get_released_owners _ _ _ _ _).mp howner
    obtain ⟨other, hother, other_task, hother_task, hkey, rfl⟩ := h.owners key owner howner
    refine ⟨other, List.mem_filter.mpr ⟨hother, ?_⟩, other_task, hother_task, hkey, rfl⟩
    rw [bne_iff_ne]
    intro heq
    -- the entries of this lease are released
    obtain rfl := hsame other hother heq
    rw [h.definition.tasks, hid, hother_task, Option.some_inj] at htask
    subst htask
    rcases hkept with hnot_key | hnot_task | hnot_lease
    · exact hnot_key hkey
    · exact hnot_task heq
    · exact hnot_lease rfl

/-! ## Runs -/

theorem InWave.congr {completed' : List TaskId} (h : InWave k₀ k completed opened)
    (hsame : ∀ task_id, task_id ∈ completed' ↔ task_id ∈ completed) :
    InWave k₀ k completed' opened := by
  refine ⟨h.definition, ?_, h.all_open, ?_, h.owners⟩
  · exact fun task_id hmem => h.all_completed task_id ((hsame task_id).mp hmem)
  · intro task_id task htask hmem hopened
    rw [hsame] at hmem
    exact h.others task_id task htask hmem hopened

/-- An element that comes later in a list without repetitions is not among the earlier ones. -/
theorem not_mem_past {α : Type} {xs past rest : List α} {x : α} (hnodup : xs.Nodup)
    (h : xs = past ++ x :: rest) : x ∉ past := by
  rw [h] at hnodup
  intro hmem
  exact (List.nodup_append.mp hnodup).2.2 x hmem x List.mem_cons_self rfl

/-- **All claims of a wave are granted, in any order.** -/
theorem InWave.claim_all {claims : List ClaimRequest} (hdefinition : Definition k₀)
    (hplanned : WavePlanned k₀.tasks completed wave) (h : InWave k₀ k completed [])
    (hclaims : (claims.map ClaimRequest.task_id).Perm wave)
    (hroles : ∀ claim ∈ claims, ∀ task, k₀.tasks[claim.task_id]? = some task →
      claim.worker_role = task.assigned_role)
    (hstarts : ∀ claim ∈ claims, claim.now < claim.expires_at) :
    ∃ k', accepted k (claims.map .claim) = .ok k' ∧ InWave k₀ k' completed claims := by
  have hnodup := hclaims.nodup_iff.mpr hplanned.nodup
  have hmem : ∀ claim ∈ claims, claim.task_id ∈ wave :=
    fun claim hclaim => hclaims.mem_iff.mp (List.mem_map_of_mem hclaim)
  unfold accepted
  rw [fold_checked_map]
  refine fold_checked_progress (I := fun past k => InWave k₀ k completed past) ?_ h
  intro past claim rest k hsplit h
  have hpast : ∀ other ∈ past, other ∈ claims := by
    intro other hother
    rw [hsplit]
    exact List.mem_append_left _ hother
  have hclaim : claim ∈ claims := by
    rw [hsplit]
    exact List.mem_append_right _ List.mem_cons_self
  have hfresh : claim.task_id ∉ past.map ClaimRequest.task_id := by
    apply not_mem_past hnodup
    rw [hsplit, List.map_append, List.map_cons]
  obtain ⟨task, htask, -⟩ := hplanned.dependencies _ (hmem claim hclaim)
  exact h.claim hdefinition hplanned htask (hmem claim hclaim)
    (fun other hother => hmem other (hpast other hother)) hfresh (hroles claim hclaim task htask)
    (hstarts claim hclaim)

/-- The open leases after some completions. -/
def still_open (claims : List ClaimRequest) (past : List CompletionRequest) : List ClaimRequest :=
  claims.filter fun claim => !(past.map CompletionRequest.task_id).contains claim.task_id

theorem still_open_append (claims : List ClaimRequest) (past : List CompletionRequest)
    (completion : CompletionRequest) :
    still_open claims (past ++ [completion])
      = (still_open claims past).filter fun claim => claim.task_id != completion.task_id := by
  unfold still_open
  rw [List.filter_filter]
  apply List.filter_congr
  intro claim _
  rw [List.map_append, List.contains_append, Bool.not_or, Bool.and_comm, Bool.eq_iff_iff]
  simp

/-- **All completions of a wave are accepted, in any order.** -/
theorem InWave.complete_all {claims : List ClaimRequest} {completions : List CompletionRequest}
    (hdefinition : Definition k₀) (h : InWave k₀ k completed claims)
    (hnodup : (claims.map ClaimRequest.task_id).Nodup)
    (hroles : ∀ claim ∈ claims, ∀ task, k₀.tasks[claim.task_id]? = some task →
      claim.worker_role = task.assigned_role)
    (hperm : (completions.map CompletionRequest.task_id).Perm
      (claims.map ClaimRequest.task_id))
    (hleases : ∀ claim ∈ claims, ∀ completion ∈ completions,
      completion.task_id = claim.task_id →
        completion.worker_id = claim.worker_id ∧ completion.worker_role = claim.worker_role
          ∧ completion.lease_id = claim.lease_id ∧ completion.occurred_at < claim.expires_at) :
    ∃ k', accepted k (completions.map .complete) = .ok k'
      ∧ InWave k₀ k' (completed ++ completions.map CompletionRequest.task_id) [] := by
  have hinvariant : ∃ k', accepted k (completions.map .complete) = .ok k'
      ∧ InWave k₀ k' (completed ++ completions.map CompletionRequest.task_id)
        (still_open claims completions) := by
    unfold accepted
    rw [fold_checked_map]
    refine fold_checked_progress (I := fun past k => InWave k₀ k
      (completed ++ past.map CompletionRequest.task_id) (still_open claims past)) ?_ ?_
    · intro past completion rest k hsplit h
      have hcompletion : completion ∈ completions := by
        rw [hsplit]
        exact List.mem_append_right _ List.mem_cons_self
      have hfresh : completion.task_id ∉ past.map CompletionRequest.task_id := by
        apply not_mem_past (hperm.nodup_iff.mpr hnodup)
        rw [hsplit, List.map_append, List.map_cons]
      obtain ⟨claim, hclaim, hid⟩ :=
        List.mem_map.mp (hperm.mem_iff.mp (List.mem_map_of_mem hcompletion))
      have hopen : claim ∈ still_open claims past := by
        refine List.mem_filter.mpr ⟨hclaim, ?_⟩
        rw [hid]
        simpa using hfresh
      have hids : ((still_open claims past).map ClaimRequest.task_id).Nodup :=
        hnodup.sublist (List.filter_sublist.map _)
      obtain ⟨k', hk', h'⟩ := h.complete hdefinition hopen hids (hroles claim hclaim) hid.symm
        (hleases claim hclaim completion hcompletion hid.symm)
      refine ⟨k', hk', ?_⟩
      rw [still_open_append, List.map_append, ← List.append_assoc]
      exact h'
    · have hall : still_open claims [] = claims := List.filter_eq_self.mpr fun _ _ => rfl
      rw [hall, List.map_nil, List.append_nil]
      exact h
  have hnone : still_open claims completions = [] := by
    refine List.filter_eq_nil_iff.mpr ?_
    intro claim hclaim
    have hmem := hperm.mem_iff.mpr (List.mem_map_of_mem hclaim)
    simpa using hmem
  rw [hnone] at hinvariant
  exact hinvariant

/-- **A wave is processed without a refusal.** -/
theorem InWave.processed {tasks : List Task} {requests : WaveRequests} {planned : ExecutionWave}
    (hdefinition : Definition k₀) (hnodup : (tasks.map Task.id).Nodup)
    (htasks : k₀.tasks = task_map tasks)
    (hplanned : WavePlanned k₀.tasks completed planned.task_ids)
    (h : InWave k₀ k completed []) (hprocesses : Processes tasks planned requests) :
    ∃ k', accepted k requests.requests = .ok k'
      ∧ InWave k₀ k' (completed ++ planned.task_ids) [] := by
  have hroles : ∀ claim ∈ requests.claims, ∀ task, k₀.tasks[claim.task_id]? = some task →
      claim.worker_role = task.assigned_role := by
    intro claim hclaim task htask
    rw [htasks, get_task_map hnodup] at htask
    exact hprocesses.roles claim hclaim task htask.1 htask.2
  obtain ⟨k₁, hclaimed, h₁⟩ := h.claim_all hdefinition hplanned hprocesses.claims hroles
    hprocesses.starts
  obtain ⟨k₂, hcompleted, h₂⟩ := h₁.complete_all hdefinition
    (hprocesses.claims.nodup_iff.mpr hplanned.nodup) hroles
    (hprocesses.completions.trans hprocesses.claims.symm) hprocesses.leases
  refine ⟨k₂, fold_checked_append_eq_ok.mpr ⟨k₁, hclaimed, hcompleted⟩, h₂.congr ?_⟩
  intro task_id
  rw [List.mem_append, List.mem_append, hprocesses.completions.mem_iff]

/-- **The waves of a plan are processed without a refusal.** -/
theorem InWave.all_processed {tasks : List Task} {waves : List ExecutionWave}
    {requests : List WaveRequests} (hdefinition : Definition k₀)
    (hnodup : (tasks.map Task.id).Nodup) (htasks : k₀.tasks = task_map tasks)
    (hplanned : WavesPlanned k₀.tasks completed waves) (h : InWave k₀ k completed [])
    (hprocesses : List.Forall₂ (Processes tasks) waves requests) :
    ∃ k', accepted k (requests.flatMap WaveRequests.requests) = .ok k'
      ∧ InWave k₀ k' (completed ++ waves.flatMap ExecutionWave.task_ids) [] := by
  induction hprocesses generalizing completed k with
  | nil =>
    refine ⟨k, rfl, ?_⟩
    rw [List.flatMap_nil, List.append_nil]
    exact h
  | cons hfirst _ ih =>
    obtain ⟨k₁, hk₁, h₁⟩ := h.processed hdefinition hnodup htasks hplanned.1 hfirst
    obtain ⟨k₂, hk₂, h₂⟩ := ih hplanned.2 h₁
    refine ⟨k₂, ?_, ?_⟩
    · rw [List.flatMap_cons]
      exact fold_checked_append_eq_ok.mpr ⟨k₁, hk₁, hk₂⟩
    · rw [List.flatMap_cons, ← List.append_assoc]
      exact h₂

/-- **The planner and the lease kernel agree.** A plan of tasks that the kernel accepts is
processed wave by wave without a refusal, whatever the order inside a wave. At the end every
task is completed and no write key has an owner. -/
theorem plan_accepted (run_id : RunId) (tasks : List Task) (retry_budget : RetryBudget)
    (plan : ExecutionPlan) (k : ExecutionLifecycleKernel) (requests : List WaveRequests)
    (hplan : schedule_tasks tasks = .ok plan) (hnew : new run_id tasks retry_budget = .ok k)
    (hprocesses : List.Forall₂ (Processes tasks) plan.waves requests) :
    ∃ k', accepted k (requests.flatMap WaveRequests.requests) = .ok k'
      ∧ (∀ task ∈ tasks, ∃ st, k'.state[task.id]? = some st ∧ st.status = .Completed)
      ∧ k'.write_key_owners = ∅ := by
  obtain ⟨hnodup, hplanned, hcomplete⟩ := schedule_tasks_planned hplan
  have htasks : k.tasks = task_map tasks := by rw [new_eq_ok hnew]
  rw [← htasks] at hplanned
  obtain ⟨k', hk', h'⟩ := (new_inWave hnew).all_processed (new_definition hnew) hnodup htasks hplanned
    hprocesses
  refine ⟨k', hk', fun task hmem => h'.all_completed task.id (hcomplete task hmem), ?_⟩
  apply Std.ExtTreeMap.ext_getElem?
  intro key
  rw [Std.ExtTreeMap.getElem?_empty]
  by_contra howned
  obtain ⟨owner, howner⟩ := Option.ne_none_iff_exists'.mp howned
  obtain ⟨claim, hclaim, -⟩ := h'.owners key owner howner
  exact List.not_mem_nil hclaim

/-- Two tasks in parallel, then one that depends on the first and writes its key. -/
def wave_tasks : List Task :=
  [readyTask "a" [] ["x"], readyTask "b" [] ["y"], readyTask "c" ["a"] ["x", "x"]]

def wave_requests : List WaveRequests :=
  [⟨[⟨"b", "worker", .Engineer, "lease-b", 1, 10⟩, ⟨"a", "worker", .Engineer, "lease-a", 1, 10⟩],
      [⟨"a", "worker", .Engineer, "lease-a", "key-a", 2⟩,
        ⟨"b", "worker", .Engineer, "lease-b", "key-b", 2⟩]⟩,
    ⟨[⟨"c", "worker", .Engineer, "lease-c", 3, 10⟩],
      [⟨"c", "worker", .Engineer, "lease-c", "key-c", 4⟩]⟩]

theorem plan_accepted_two_waves :
    ∃ k k', new "run" wave_tasks ⟨1, 1⟩ = .ok k
      ∧ accepted k (wave_requests.flatMap WaveRequests.requests) = .ok k'
      ∧ (∀ task ∈ wave_tasks, ∃ st, k'.state[task.id]? = some st ∧ st.status = .Completed)
      ∧ k'.write_key_owners = ∅ := by
  obtain ⟨k, hk⟩ : ∃ k, new "run" wave_tasks ⟨1, 1⟩ = .ok k := ⟨_, rfl⟩
  have hplan : schedule_tasks wave_tasks
      = .ok ⟨1, [⟨0, .Parallel, ["a", "b"]⟩, ⟨1, .Sequential, ["c"]⟩]⟩ := by decide +kernel
  have hfirst : Processes wave_tasks ⟨0, .Parallel, ["a", "b"]⟩ wave_requests[0] := by
    constructor <;> decide
  have hsecond : Processes wave_tasks ⟨1, .Sequential, ["c"]⟩ wave_requests[1] := by
    constructor <;> decide
  obtain ⟨k', haccepted⟩ := plan_accepted "run" wave_tasks ⟨1, 1⟩ _ k wave_requests hplan hk
    (.cons hfirst (.cons hsecond .nil))
  exact ⟨k, k', hk, haccepted⟩

end ExecutionLifecycleKernel

end OvcaCore

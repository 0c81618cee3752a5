/-
Tasks that a lost worker leaves behind.

A task whose dependencies are completed can be brought to an end: under an unexpired lease its
owner completes it, and otherwise it is claimed once more, late enough that no lease of another
task is in the way. The exception is a running task whose lease has expired with its last
attempt. A claim then answers that the attempts are used up and leaves the task as it is, and
every other request asks for an unexpired lease; the task stays running (`can_finish_iff`).
-/
import OvcaCore.ExecutionAgreement
import OvcaCore.WaveExecution

set_option autoImplicit false

namespace OvcaCore

open OvcaCore.Checks OvcaCore.OrderedMaps OvcaCore.ExecutionLifecycle

namespace ExecutionLifecycleKernel

variable {k k' : ExecutionLifecycleKernel} {requests more : List ExecutionRequest}
  {task_id : TaskId} {task : Task} {st : TaskExecutionSnapshot}

/-! ## Statements -/

/-- The statuses in which a task ends. -/
def Finished (status : TaskStatus) : Prop :=
  status = .Completed ∨ status = .Cancelled ∨ status = .Failed

/-- Later requests, in the order of their times, bring the task to an end. -/
def CanFinish (k : ExecutionLifecycleKernel) (requests : List ExecutionRequest)
    (task_id : TaskId) : Prop :=
  ∃ more, ((requests ++ more).map ExecutionRequest.time).Pairwise (· ≤ ·)
    ∧ ∃ st, (execAll k (requests ++ more)).state[task_id]? = some st ∧ Finished st.status

/-- The task is running, its attempts are used up, and its lease expired no later than at one
of the requests. -/
structure Stranded (k : ExecutionLifecycleKernel) (requests : List ExecutionRequest)
    (st : TaskExecutionSnapshot) : Prop where
  running : st.status = .Running
  exhausted : st.attempts = k.retry_budget.max_attempts
  expired : ∃ lease, st.current_lease = some lease
    ∧ ∃ request ∈ requests, lease.expires_at ≤ request.time

/-! ## A stranded task stays as it is -/

theorem exec_stranded {request : ExecutionRequest} {lease : TaskLease}
    (hst : k.state[task_id]? = some st) (hlease : st.current_lease = some lease)
    (hexhausted : st.attempts = k.retry_budget.max_attempts)
    (hexpired : lease.expires_at ≤ request.time) :
    (exec k request).state[task_id]? = some st
      ∧ (exec k request).retry_budget = k.retry_budget := by
  have heffect := exec_effect k request
  have hother : ∀ {id : TaskId} {old : TaskExecutionSnapshot} (next : TaskExecutionSnapshot),
      k.state[id]? = some old → (id = task_id → old = st → False) →
        (k.state.insert id next)[task_id]? = some st := by
    intro id old next hold hne
    by_cases hid : id = task_id
    · subst hid
      rw [hst, Option.some_inj] at hold
      exact (hne rfl hold.symm).elim
    · exact (get_insert_of_ne _ _ hid).trans hst
  -- a request that changes this task needs an attempt that is left, or an unexpired lease
  have hactive : ∀ {old : TaskExecutionSnapshot} {held : TaskLease}, old.current_lease = some held →
      request.time < held.expires_at → old = st → False := by
    rintro old held hheld hnow rfl
    rw [hlease, Option.some_inj] at hheld
    rw [← hheld] at hnow
    exact absurd hnow (not_lt.mpr hexpired)
  generalize exec k request = k' at heffect
  cases heffect with
  | grant claim task current h =>
    refine ⟨hother _ h.state_eq ?_, rfl⟩
    rintro - rfl
    have hbudget := h.budget
    omega
  | extend beat state held owners h =>
    exact ⟨hother _ h.state_eq fun _ => hactive h.lease_eq h.unexpired, rfl⟩
  | close _ closed_id state next held h =>
    exact ⟨hother _ h.state_eq fun _ => hactive h.lease_eq h.unexpired, rfl⟩
  | same => exact ⟨hst, rfl⟩

/-- **No later request changes a stranded task.** -/
theorem run_stranded {lease : TaskLease} (hst : k.state[task_id]? = some st)
    (hlease : st.current_lease = some lease)
    (hexhausted : st.attempts = k.retry_budget.max_attempts)
    (hexpired : ∀ request ∈ more, lease.expires_at ≤ request.time) :
    (execAll k more).state[task_id]? = some st := by
  induction more generalizing k with
  | nil => exact hst
  | cons request more ih =>
    obtain ⟨hnext, hbudget⟩ :=
      exec_stranded hst hlease hexhausted (hexpired request List.mem_cons_self)
    rw [execAll_cons]
    refine ih hnext ?_ fun later hlater => hexpired later (List.mem_cons_of_mem _ hlater)
    rw [hbudget]
    exact hexhausted

theorem Stranded.not_canFinish (h : Stranded (execAll k requests) requests st)
    (hst : (execAll k requests).state[task_id]? = some st) (hopen : ¬ Finished st.status) :
    ¬ CanFinish k requests task_id := by
  rintro ⟨more, hlater, st', hst', hfinished⟩
  obtain ⟨-, hexhausted, lease, hlease, request, hrequest, hexpired⟩ := h
  rw [List.map_append, List.pairwise_append] at hlater
  have hexpired_later : ∀ later ∈ more, lease.expires_at ≤ later.time := by
    intro later hmore
    exact le_trans hexpired
      (hlater.2.2 _ (List.mem_map_of_mem hrequest) _ (List.mem_map_of_mem hmore))
  rw [execAll_append, run_stranded hst hlease hexhausted hexpired_later, Option.some_inj] at hst'
  rw [← hst'] at hfinished
  exact hopen hfinished

/-! ## The other tasks can be finished -/

theorem exec_of_step {request : ExecutionRequest}
    (h : (step k request).map Prod.snd = .ok k') : exec k request = k' := by
  unfold exec
  cases hstep : step k request with
  | error fault =>
    rw [hstep] at h
    exact nomatch h
  | ok result =>
    rw [hstep] at h
    exact Except.ok.inj h

/-- The owner of an unexpired lease brings its task to an end. -/
theorem finish_under_lease {lease : TaskLease} {now : DateTime}
    (htask : k.tasks[task_id]? = some task) (hrole : task.assigned_role ≠ .Coordinator)
    (hst : k.state[task_id]? = some st) (hrunning : st.status = .Running)
    (hrecord : st.terminal_record = none) (hlease : st.current_lease = some lease)
    (hlease_role : lease.worker_role = task.assigned_role) (hnow : now < lease.expires_at) :
    ∃ completion : CompletionRequest, completion.occurred_at = now
      ∧ ∃ st', (exec k (.complete completion)).state[task_id]? = some st'
        ∧ Finished st'.status := by
  let completion : CompletionRequest :=
    ⟨task_id, lease.worker_id, task.assigned_role, lease.lease_id, "done", now⟩
  refine ⟨completion, rfl, ?_⟩
  rw [exec_of_step (@step_complete k completion task st lease htask hrole rfl hst hrunning hrecord
    hlease hlease_role rfl rfl hnow)]
  exact ⟨_, Std.ExtTreeMap.getElem?_insert_self, Or.inl rfl⟩

/-- A task that has an attempt left is claimed when all leases have expired, and finished under
the new one. -/
theorem finish_after_claim {now : DateTime} (htask : k.tasks[task_id]? = some task)
    (hrole : task.assigned_role ≠ .Coordinator) (hst : k.state[task_id]? = some st)
    (hclaimable : st.status = .Pending ∨ st.status = .Ready
      ∨ st.status = .Running ∧ ∃ lease, st.current_lease = some lease ∧ lease.expires_at ≤ now)
    (hdependencies : DependenciesCompleted k task)
    (hattempts : st.attempts < k.retry_budget.max_attempts)
    (hbudget : k.retry_budget.max_attempts ≤ U32_MAX)
    (howners : ∀ (key : String) (owner : WriteKeyOwner), k.write_key_owners[key]? = some owner →
      owner.expires_at ≤ now) :
    ∃ (claim : ClaimRequest) (completion : CompletionRequest), claim.now = now
      ∧ completion.occurred_at = now
      ∧ ∃ st', (execAll k [.claim claim, .complete completion]).state[task_id]? = some st'
        ∧ Finished st'.status := by
  let claim : ClaimRequest := ⟨task_id, "worker", task.assigned_role, "lease", now, now + 1⟩
  have hgrant : Grant k claim task st :=
    { task_eq := htask
      role_eq := rfl
      not_coordinator := hrole
      expiry := Int.lt_add_one_of_le (le_refl now)
      state_eq := hst
      claimable := hclaimable
      dependencies := hdependencies
      no_overflow := le_trans hattempts hbudget
      budget := hattempts
      keys_free := fun key _ owner howner hlater =>
        absurd hlater (not_lt.mpr (howners key owner howner)) }
  obtain ⟨completion, hoccurred, st', hst', hfinished⟩ :=
    @finish_under_lease (granted k claim task st) task_id task _ _ now htask hrole
      Std.ExtTreeMap.getElem?_insert_self rfl rfl rfl rfl (Int.lt_add_one_of_le (le_refl now))
  refine ⟨claim, completion, rfl, hoccurred, st', ?_, hfinished⟩
  rw [execAll_cons, hgrant.exec_claim]
  exact hst'

/-! ## Which tasks can be finished -/

/-- Requests at one time that is late enough may follow a run. -/
theorem sorted_append_at {now : DateTime}
    (hsorted : (requests.map ExecutionRequest.time).Pairwise (· ≤ ·))
    (hlast : ∀ request ∈ requests, request.time ≤ now)
    (hmore : ∀ request ∈ more, request.time = now) :
    ((requests ++ more).map ExecutionRequest.time).Pairwise (· ≤ ·) := by
  rw [List.map_append, List.pairwise_append]
  refine ⟨hsorted, List.pairwise_iff_forall_sublist.mpr ?_, ?_⟩
  · -- the added times are all the same one
    intro time time' hsub
    have hmem : ∀ t ∈ more.map ExecutionRequest.time, t = now := by
      intro t ht
      obtain ⟨request, hrequest, rfl⟩ := List.mem_map.mp ht
      exact hmore request hrequest
    rw [hmem time (hsub.subset (by simp)), hmem time' (hsub.subset (by simp))]
  · intro time htime time' htime'
    obtain ⟨request, hrequest, rfl⟩ := List.mem_map.mp htime
    obtain ⟨later, hlater, rfl⟩ := List.mem_map.mp htime'
    rw [hmore later hlater]
    exact hlast request hrequest

theorem latest_owner (owners : BTreeMap String WriteKeyOwner) :
    ∃ t, ∀ (key : String) (owner : WriteKeyOwner), owners[key]? = some owner →
      owner.expires_at ≤ t := by
  obtain ⟨t, ht⟩ := exists_latest (fun p : String × WriteKeyOwner => p.2.expires_at) owners.toList
  exact ⟨t, fun key owner howner =>
    ht (key, owner) (Std.ExtTreeMap.mem_toList_iff_getElem?_eq_some.mpr howner)⟩

/-- A task without an unexpired lease that is neither finished nor stranded has an attempt left,
and can be claimed. -/
theorem attempt_left {k₀ : ExecutionLifecycleKernel} {t : DateTime} (hdefinition : Definition k₀)
    (hsame : SameDefinition k₀ k) (hadmitted : Admitted k task_id st) (hopen : ¬ Finished st.status)
    (hinactive : ¬ ∃ lease, st.current_lease = some lease
      ∧ ∀ request ∈ requests, request.time < lease.expires_at)
    (hfree : ¬ Stranded k requests st) (hlast : ∀ request ∈ requests, request.time ≤ t) :
    st.attempts < k.retry_budget.max_attempts
      ∧ (st.status = .Pending ∨ st.status = .Ready ∨ st.status = .Running
        ∧ ∃ lease, st.current_lease = some lease ∧ lease.expires_at ≤ t) := by
  obtain ⟨hle, hsupported, hattempts, -, -, -⟩ := restore_status_eq_ok.mp hadmitted.status
  have hmax : 1 ≤ k.retry_budget.max_attempts := by
    rw [hsame.retry_budget]
    exact hdefinition.budget
  -- the attempts that fit the status, as an accepted state has them
  cases hstatus : st.status with
  | Pending =>
    rw [hstatus, valid_attempts, Except.ok.injEq, decide_eq_true_iff] at hattempts
    exact ⟨by omega, Or.inl rfl⟩
  | Ready =>
    rw [hstatus, valid_attempts, Except.ok.injEq, decide_eq_true_iff] at hattempts
    exact ⟨hattempts, Or.inr (Or.inl rfl)⟩
  | Running =>
    obtain ⟨lease, hlease⟩ := (admitted_running hadmitted).mp hstatus
    -- no request came while the lease was good to the end, so one came after its expiry
    have hexpired : ∃ request ∈ requests, lease.expires_at ≤ request.time := by
      by_contra hnone
      refine hinactive ⟨lease, hlease, fun request hrequest => ?_⟩
      exact not_le.mp fun hexpired => hnone ⟨request, hrequest, hexpired⟩
    refine ⟨lt_of_le_of_ne hle fun hexhausted => hfree ⟨hstatus, hexhausted, lease, hlease, hexpired⟩,
      Or.inr (Or.inr ⟨rfl, lease, hlease, ?_⟩)⟩
    obtain ⟨request, hrequest, hexpired⟩ := hexpired
    exact le_trans hexpired (hlast request hrequest)
  | AwaitingApproval => exact absurd (Or.inl hstatus) hsupported
  | Reviewing => exact absurd (Or.inr hstatus) hsupported
  | Completed => exact absurd (Or.inl hstatus) hopen
  | Cancelled => exact absurd (Or.inr (Or.inl hstatus)) hopen
  | Failed => exact absurd (Or.inr (Or.inr hstatus)) hopen

/-- **Which tasks can be brought to an end.** After a run from `new` whose times do not
decrease, a task that is not finished, and whose dependencies are completed, can be brought to
an end by later requests if and only if it is not stranded. -/
theorem can_finish_iff {run_id : RunId} {tasks : List Task} {retry_budget : RetryBudget}
    (hnew : new run_id tasks retry_budget = .ok k) (hbudget : retry_budget.max_attempts ≤ U32_MAX)
    (hsorted : (requests.map ExecutionRequest.time).Pairwise (· ≤ ·)) (hmem : task ∈ tasks)
    (hst : (execAll k requests).state[task.id]? = some st) (hopen : ¬ Finished st.status)
    (hdependencies : DependenciesCompleted (execAll k requests) task) :
    CanFinish k requests task.id ↔ ¬ Stranded (execAll k requests) requests st := by
  obtain ⟨t, ht⟩ := exists_timely hsorted List.prefix_rfl
  obtain ⟨hsame, hsound⟩ := run_sound hnew ht
  have hdefinition := new_definition hnew
  have hmax : (execAll k requests).retry_budget.max_attempts = retry_budget.max_attempts := by
    rw [hsame.retry_budget, new_eq_ok hnew]
  have htask : (execAll k requests).tasks[task.id]? = some task := by
    rw [hsame.tasks, new_eq_ok hnew]
    exact (get_task_map (new_eq_ok_iff.mp hnew).2.2.1).mpr ⟨hmem, rfl⟩
  have hrole := hdefinition.role task.id task (hsame.tasks ▸ htask)
  have hadmitted := hsound.admitted task.id st hst
  constructor
  · exact fun hcan hstranded => hstranded.not_canFinish hst hopen hcan
  · intro hfree
    by_cases hactive : ∃ lease, st.current_lease = some lease
        ∧ ∀ request ∈ requests, request.time < lease.expires_at
    · -- the lease is good for a moment more
      obtain ⟨lease, hlease, hlast⟩ := hactive
      have hrunning := (admitted_running hadmitted).mpr ⟨lease, hlease⟩
      have hrecord : st.terminal_record = none := by
        obtain ⟨-, -, -, -, -, hterminal⟩ := restore_status_eq_ok.mp hadmitted.status
        rw [hrunning] at hterminal
        exact Option.map_eq_none_iff.mp hterminal
      obtain ⟨own_task, hown_task, hrestored⟩ := hadmitted.defined
      rw [htask, Option.some_inj] at hown_task
      subst hown_task
      obtain ⟨-, -, -, hlease_role, -⟩ := restore_lease_eq_ok.mp (hrestored lease hlease)
      obtain ⟨completion, hoccurred, hdone⟩ :=
        @finish_under_lease (execAll k requests) task.id task st lease (lease.expires_at - 1)
          htask hrole hst hrunning hrecord hlease hlease_role (Int.sub_one_lt_of_le (le_refl _))
      refine ⟨[.complete completion], ?_, ?_⟩
      · refine @sorted_append_at requests _ (lease.expires_at - 1) hsorted
          (fun request hrequest => ?_) fun request hrequest => ?_
        · exact Int.le_sub_one_of_lt (hlast request hrequest)
        · rw [List.mem_singleton.mp hrequest]
          exact hoccurred
      · rw [execAll_append]
        exact hdone
    · -- the lease, if there is one, has expired, and the task has an attempt left
      obtain ⟨t', ht'⟩ := latest_owner (execAll k requests).write_key_owners
      obtain ⟨hleft, hclaimable⟩ := attempt_left hdefinition hsame hadmitted hopen hactive hfree ht.2
      obtain ⟨claim, completion, hnow, hoccurred, hdone⟩ :=
        @finish_after_claim (execAll k requests) task.id task st (max t t') htask hrole hst
          (hclaimable.imp_right (Or.imp_right (And.imp_right fun ⟨lease, hlease, hexpired⟩ =>
            ⟨lease, hlease, le_trans hexpired (le_max_left t t')⟩)))
          hdependencies hleft (hmax ▸ hbudget)
          fun key owner howner => le_trans (ht' key owner howner) (le_max_right t t')
      refine ⟨[.claim claim, .complete completion], ?_, ?_⟩
      · refine @sorted_append_at requests _ (max t t') hsorted
          (fun request hrequest => le_trans (ht.2 request hrequest) (le_max_left t t')) ?_
        intro request hrequest
        rcases List.mem_pair.mp hrequest with rfl | rfl
        · exact hnow
        · exact hoccurred
      · rw [execAll_append]
        exact hdone

/-- The first of two attempts has run out. -/
theorem can_finish_with_attempt_left :
    ∃ k, new "run" [readyTask "a" [] ["x"]] ⟨1, 2⟩ = .ok k ∧
      CanFinish k [.claim ⟨"a", "worker-a", .Engineer, "lease-a", 1, 10⟩] "a" := by
  obtain ⟨k, hk⟩ : ∃ k, new "run" [readyTask "a" [] ["x"]] ⟨1, 2⟩ = .ok k := ⟨_, rfl⟩
  have hst : ∃ st, (execAll k [.claim ⟨"a", "worker-a", .Engineer, "lease-a", 1, 10⟩]).state["a"]?
      = some st ∧ st.attempts = 1 ∧ st.status = .Running := by
    cases hk
    exact ⟨_, rfl, rfl, rfl⟩
  obtain ⟨st, hst, hattempts, hstatus⟩ := hst
  refine ⟨k, hk, (can_finish_iff hk (by decide) (by decide)
    (List.mem_singleton_self (readyTask "a" [] ["x"])) hst ?_ ?_).mpr ?_⟩
  · rw [hstatus]
    rintro (h | h | h) <;> exact nomatch h
  · exact fun _ hmem => absurd hmem List.not_mem_nil
  · intro hstranded
    have hexhausted := hstranded.exhausted
    rw [hattempts] at hexhausted
    cases hk
    exact absurd hexhausted (by decide)

/-- The only attempt at `a` has run out at 10, as a claim at 12 finds. -/
def lost : List ExecutionRequest :=
  [.claim ⟨"a", "worker-a", .Engineer, "lease-a", 1, 10⟩,
    .claim ⟨"a", "worker-b", .Engineer, "lease-b", 12, 20⟩]

/-- **A lost worker strands its task.** The claim at 12 is refused, and no later request brings
the task to an end. -/
theorem last_attempt_stranded :
    ∃ k, new "run" [readyTask "a" [] ["x"]] ⟨1, 1⟩ = .ok k ∧
      (lost.map ExecutionRequest.time).Pairwise (· ≤ ·) ∧
      ((execAll k lost).state["a"]?.map TaskExecutionSnapshot.status) = some .Running ∧
      ¬ CanFinish k lost "a" := by
  obtain ⟨k, hk⟩ : ∃ k, new "run" [readyTask "a" [] ["x"]] ⟨1, 1⟩ = .ok k := ⟨_, rfl⟩
  have hst : ∃ st, (execAll k lost).state["a"]? = some st ∧ st.status = .Running
      ∧ Stranded (execAll k lost) lost st := by
    cases hk
    exact ⟨_, rfl, rfl, rfl, rfl, _, rfl, _, List.mem_cons_of_mem _ List.mem_cons_self, by decide⟩
  obtain ⟨st, hst, hstatus, hstranded⟩ := hst
  refine ⟨k, hk, by decide, ?_, hstranded.not_canFinish hst ?_⟩
  · rw [hst, Option.map_some, hstatus]
  · rw [hstatus]
    rintro (h | h | h) <;> exact nomatch h

end ExecutionLifecycleKernel

end OvcaCore

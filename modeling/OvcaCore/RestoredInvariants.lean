/-
What a restored kernel can be relied on for.

`restore` checks the tasks of a snapshot one by one and compares the owner map with the leases,
so the invariants of a single task and those of the write keys hold of what it accepts, and of
every run from there. It does not look at the dependencies of a task that was attempted, as a
claim does. So the invariant between tasks, that only a task with completed dependencies was
ever attempted, holds of a restored kernel and its runs exactly when it holds of the snapshot
(`restored_iff`).
-/
import OvcaCore.ExecutionAgreement

set_option autoImplicit false

namespace OvcaCore

open OvcaCore.Checks OvcaCore.OrderedMaps OvcaCore.ExecutionLifecycle

namespace ExecutionLifecycleKernel

variable {k : ExecutionLifecycleKernel}

/-! ## The invariants -/

/-- What a snapshot says of the dependencies of the tasks that were attempted. -/
def GroundedAttempts (tasks : List Task) (snapshot : ExecutionLifecycleSnapshot) : Prop :=
  ∀ task ∈ tasks, ∀ st, snapshot.tasks[task.id]? = some st → st.attempts ≠ 0 →
    ∀ dependency_id ∈ task.dependencies,
      snapshot.tasks[dependency_id]?.map TaskExecutionSnapshot.status = some .Completed

/-- What a kernel guarantees of a task. -/
structure TaskJustified (k : ExecutionLifecycleKernel) (task : Task)
    (st : TaskExecutionSnapshot) : Prop where
  dependencies : 1 ≤ st.attempts → DependenciesCompleted k task
  budget : st.attempts ≤ k.retry_budget.max_attempts
  leased : st.status = .Running ↔ st.current_lease.isSome = true
  recorded : st.terminal_record.map TaskTerminalRecord.outcome = expected_outcome st.status

/-- What a kernel guarantees at a time: of every task, and of the write keys of the leases
that have not expired. -/
structure Guarantees (k : ExecutionLifecycleKernel) (tasks : List Task) (t : DateTime) : Prop where
  justified : ∀ task ∈ tasks, ∃ st, k.state[task.id]? = some st ∧ TaskJustified k task st
  exclusive : ∀ id id' lease lease', id ≠ id' → Holds k.state id lease →
    Holds k.state id' lease' → t < lease.expires_at → t < lease'.expires_at →
      ∀ key ∈ lease.write_keys, key ∉ lease'.write_keys
  owned : ∀ id lease, Holds k.state id lease → t < lease.expires_at →
    ∀ key ∈ lease.write_keys, k.write_key_owners[key]? = some (owner_of id lease)

/-- What is right after `restore` besides: the owner map has the keys of all current leases,
and no others. -/
structure RestoredGuarantees (k : ExecutionLifecycleKernel) (tasks : List Task) : Prop where
  justified : ∀ task ∈ tasks, ∃ st, k.state[task.id]? = some st ∧ TaskJustified k task st
  owners : OwnersMatch k.state k.write_key_owners
  exclusive : ∀ id id' lease lease', id ≠ id' → Holds k.state id lease →
    Holds k.state id' lease' → ∀ key ∈ lease.write_keys, key ∉ lease'.write_keys

/-! ## What `restore` establishes -/

/-- A kernel that was restored. -/
structure Restored (tasks : List Task) (snapshot : ExecutionLifecycleSnapshot)
    (k : ExecutionLifecycleKernel) : Prop where
  accounted : Accounted k k
  nodup : (tasks.map Task.id).Nodup
  tasks_eq : k.tasks = task_map tasks
  state_eq : k.state = snapshot.tasks
  owners : OwnersMatch k.state k.write_key_owners

theorem restore_restored {run_id : RunId} {tasks : List Task} {retry_budget : RetryBudget}
    {snapshot : ExecutionLifecycleSnapshot}
    (hrestore : restore run_id tasks retry_budget snapshot = .ok k) :
    Restored tasks snapshot k := by
  -- `restore` makes a new kernel of the definition first
  obtain ⟨k₀, hnew⟩ : ∃ k₀, new run_id tasks retry_budget = .ok k₀ := by
    simp only [restore, bind_eq_ok, lift_eq_ok, mapError_eq_ok] at hrestore
    obtain ⟨k₀, hnew, -⟩ := hrestore
    exact ⟨k₀, hnew⟩
  obtain ⟨-, -, -, hids, hadmitted, hmatch, rfl⟩ := (restore_eq_ok hnew).mp hrestore
  refine ⟨⟨⟨rfl, rfl, rfl, rfl⟩, ?_, hids⟩, (new_eq_ok_iff.mp hnew).2.2.1, ?_, rfl, hmatch⟩
  · intro task_id st hst
    obtain ⟨hbudget, -, -, -, hrunning, hterminal⟩ :=
      restore_status_eq_ok.mp (hadmitted task_id st hst).status
    refine ⟨hbudget, ?_, hterminal⟩
    rw [← hrunning, decide_eq_true_iff]
  · rw [new_eq_ok hnew]

theorem Restored.get_task {tasks : List Task} {snapshot : ExecutionLifecycleSnapshot}
    (h : Restored tasks snapshot k) {task : Task} (hmem : task ∈ tasks) :
    k.tasks[task.id]? = some task := by
  rw [h.tasks_eq]
  exact (get_task_map h.nodup).mpr ⟨hmem, rfl⟩

theorem groundedAttempts_iff {tasks : List Task} {snapshot : ExecutionLifecycleSnapshot}
    (h : Restored tasks snapshot k) : GroundedAttempts tasks snapshot
      ↔ ∀ task ∈ tasks, ∀ st, k.state[task.id]? = some st → 1 ≤ st.attempts →
        DependenciesCompleted k task := by
  unfold GroundedAttempts DependenciesCompleted
  simp only [h.state_eq, Option.map_eq_some_iff, Nat.one_le_iff_ne_zero]

/-- What holds of a task after a run from a restored kernel, if it held before. -/
theorem Restored.task_justified {tasks : List Task} {snapshot : ExecutionLifecycleSnapshot}
    (h : Restored tasks snapshot k)
    (hgrounded : ∀ task ∈ tasks, ∀ st, k.state[task.id]? = some st → 1 ≤ st.attempts →
      DependenciesCompleted k task)
    (requests : List ExecutionRequest) {task : Task} (hmem : task ∈ tasks) :
    ∃ st, (execAll k requests).state[task.id]? = some st
      ∧ TaskJustified (execAll k requests) task st := by
  have hrun : Accounted k (execAll k requests) := h.accounted.run
  obtain ⟨first, hfirst⟩ := mem_iff_get.mp
    ((h.accounted.complete task.id).mpr (mem_iff_get.mpr ⟨task, h.get_task hmem⟩))
  obtain ⟨st, hst, hattempts⟩ := @attempts_run k requests task.id _ hfirst
  have hsteady := hrun.steady task.id st hst
  refine ⟨st, hst, ?_, hsteady.attempts, hsteady.running, hsteady.terminal⟩
  intro hattempted
  -- an attempt was there before the run, or a claim of the run made it
  by_cases hbefore : 1 ≤ first.attempts
  · exact (hgrounded task hmem first hfirst hbefore).run h.accounted
  · exact claimed_dependencies h.accounted (h.get_task hmem) (by omega)

/-- **What a restored kernel guarantees.** The guarantees hold right after `restore` and after
every run from there whose times do not decrease, if and only if the snapshot has the
dependencies of every attempted task completed. -/
theorem restored_iff {run_id : RunId} {tasks : List Task} {retry_budget : RetryBudget}
    {snapshot : ExecutionLifecycleSnapshot}
    (hrestore : restore run_id tasks retry_budget snapshot = .ok k) :
    (RestoredGuarantees k tasks ∧ ∀ requests t, Timely requests t →
      Guarantees (execAll k requests) tasks t) ↔ GroundedAttempts tasks snapshot := by
  have h := restore_restored hrestore
  rw [groundedAttempts_iff h]
  constructor
  · rintro ⟨hrestored, -⟩ task hmem st hst hattempted
    obtain ⟨st', hst', hjustified⟩ := hrestored.justified task hmem
    rw [hst, Option.some_inj] at hst'
    subst hst'
    exact hjustified.dependencies hattempted
  · intro hgrounded
    constructor
    · refine ⟨fun task hmem => h.task_justified hgrounded [] hmem, h.owners, ?_⟩
      intro id id' lease lease' hne hl hl' key hkey hkey'
      exact hne (h.owners.unique hl hl' hkey hkey')
    · intro requests t ht
      -- a restored owner map has the keys of all leases, the unexpired ones among them
      have howns : OwnsUnexpired (execAll k requests) t :=
        execAll_inv (I := OwnsUnexpired) OwnsUnexpired.mono OwnsUnexpired.effect
          (fun _ id lease hl _ key hkey => (h.owners key _).mpr ⟨id, lease, hl, hkey, rfl⟩) ht
      refine ⟨fun task hmem => h.task_justified hgrounded requests hmem, ?_, howns⟩
      intro id id' lease lease' hne hl hl' hexp hexp' key hkey hkey'
      exact hne (howns.disjoint hl hl' hexp hexp' hkey hkey')

/-- The task `b` needs `a`. -/
def two_tasks : List Task := [readyTask "a" [] ["x"], readyTask "b" ["a"] ["y"]]

def completion_record : TaskTerminalRecord where
  contract_version := GOAL_RUNTIME_CONTRACT_VERSION
  run_id := "run"
  task_id := "b"
  worker_id := "worker-b"
  lease_id := "lease-b"
  idempotency_key := "done"
  outcome := .Completed
  occurred_at := 5
  reason := none

/-- A snapshot in which `a` is ready, and `b` in the given state. -/
def snapshot_with (b : TaskExecutionSnapshot) : ExecutionLifecycleSnapshot where
  run_id := "run"
  goal_id := some "goal"
  max_attempts := 3
  tasks := .ofList [("a", ⟨.Ready, 0, none, none, none⟩), ("b", b)]
  write_key_owners := ∅

/-- The snapshot of a new kernel. -/
theorem restored_untouched :
    ∃ k, restore "run" two_tasks ⟨1, 3⟩ (snapshot_with ⟨.Ready, 0, none, none, none⟩) = .ok k ∧
      RestoredGuarantees k two_tasks ∧ ∀ requests t, Timely requests t →
        Guarantees (execAll k requests) two_tasks t := by
  obtain ⟨k, hk⟩ : ∃ k, restore "run" two_tasks ⟨1, 3⟩
      (snapshot_with ⟨.Ready, 0, none, none, none⟩) = .ok k := ⟨_, rfl⟩
  -- no task was attempted, so there is nothing to ground
  have hzero : ∀ id ∈ two_tasks.map Task.id, ((snapshot_with ⟨.Ready, 0, none, none, none⟩).tasks[
      id]?.map TaskExecutionSnapshot.attempts) = some 0 := by decide
  refine ⟨k, hk, (restored_iff hk).mpr fun task hmem st hst hattempted => ?_⟩
  have hattempts := hzero task.id (List.mem_map_of_mem hmem)
  rw [hst, Option.map_some, Option.some_inj] at hattempts
  exact absurd hattempts hattempted

/-- **`restore` admits a completed task whose dependency was never attempted.** -/
theorem restored_ungrounded :
    ∃ k, restore "run" two_tasks ⟨1, 3⟩
        (snapshot_with ⟨.Completed, 1, none, some completion_record, none⟩) = .ok k ∧
      (k.state["a"]?.map TaskExecutionSnapshot.status) = some .Ready ∧
      (k.state["b"]?.map TaskExecutionSnapshot.attempts) = some 1 ∧
      ¬ RestoredGuarantees k two_tasks := by
  obtain ⟨k, hk⟩ : ∃ k, restore "run" two_tasks ⟨1, 3⟩
      (snapshot_with ⟨.Completed, 1, none, some completion_record, none⟩) = .ok k := ⟨_, rfl⟩
  have ha : (k.state["a"]?.map TaskExecutionSnapshot.status) = some .Ready := by
    cases hk
    decide
  have hb : (k.state["b"]?.map TaskExecutionSnapshot.attempts) = some 1 := by
    cases hk
    decide
  refine ⟨k, hk, ha, hb, fun hguarantees => ?_⟩
  obtain ⟨st, hst, hjustified⟩ :=
    hguarantees.justified (readyTask "b" ["a"] ["y"]) (List.mem_cons_of_mem _ List.mem_cons_self)
  change k.state["b"]? = some st at hst
  rw [hst, Option.map_some, Option.some_inj] at hb
  obtain ⟨dependency, hdependency, hcompleted⟩ :=
    hjustified.dependencies (by omega) "a" (List.mem_singleton_self _)
  rw [hdependency, Option.map_some, Option.some_inj, hcompleted] at ha
  exact nomatch ha

end ExecutionLifecycleKernel

end OvcaCore

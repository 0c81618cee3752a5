/-
The gap between a planned run and its execution.

A planned run always passes the checks of the bootstrap (`planned_bootstrap`). The kernel
then accepts its tasks exactly when none is assigned to the coordinator, which planning
does not check. So a run with such a task is planned and can never execute
(`bootstrap_recoverable_iff`).
-/
import OvcaCore.PlannedRun
import OvcaCore.PlannedWaves

set_option autoImplicit false

namespace OvcaCore

open OvcaCore.Checks OvcaCore.OrderedMaps OvcaCore.Replay OvcaCore.ExecutionLifecycle
open OvcaCore.Scheduler

namespace DurableGoalRuntime

variable {run_id : RunId} {goal : GoalContract} {task_ids : List TaskId} {tasks : List Task}
  {plan : ExecutionPlan} {stamps : PlannedRunStamps} {events : List RunEvent}
  {retry_budget : RetryBudget} {G E R : Type}

/-! ## The replayed run -/

/-- A run as its four events leave it. -/
structure PlannedRun (run_id : RunId) (goal : GoalContract) (task_ids : List TaskId)
    (plan : ExecutionPlan) (run : ReplayedRun) : Prop where
  same_id : run.run_record.id = run_id
  same_goal : run.run_record.goal_id = goal.id
  declared : run.run_record.task_ids = task_ids
  planned : run.run_record.status = .Planned
  recorded : run.execution_plan = some plan
  pending : run.task_statuses
    = .ofList (task_ids.map fun task_id => (task_id, TaskStatus.Pending))

/-- The events replay to a planned run, and the goal does not matter for it. -/
theorem replay_planned_events {run : ReplayedRun}
    (h : replay_run (planned_events run_id goal task_ids plan stamps) (some goal) = .ok run) :
    PlannedRun run_id goal task_ids plan run
      ∧ replay_run (planned_events run_id goal task_ids plan stamps) none = .ok run := by
  obtain ⟨first, created, declared_tasks, state, hchain, hfirst, hpayload, hdeclare, hfold, hrun⟩ :=
    replay_run_eq_ok.mp h
  obtain rfl := Option.some.inj hfirst
  obtain rfl := RunEventPayload.RunCreated.inj hpayload
  simp only [declare_run, bind_eq_ok, check_some_eq_ok, exists_const, exists_and_right,
    exists_unit_eq_ok] at hdeclare
  unfold planned_events at hfold
  simp only [fold_checked_cons_eq_ok, fold_checked_nil, apply_event_eq_ok] at hfold
  obtain ⟨_, ⟨hcreated, rfl⟩, _, ⟨haccepted, rfl⟩, _, ⟨hrecorded, rfl⟩, _, ⟨hplanned, rfl⟩, hstate⟩ :=
    hfold
  obtain rfl := Except.ok.inj hstate
  subst hrun
  refine ⟨⟨rfl, rfl, rfl, rfl, rfl, rfl⟩, ?_⟩
  refine replay_run_eq_ok.mpr ⟨_, _, declared_tasks, _, hchain, rfl, rfl, ?_, ?_, rfl⟩
  · simp only [declare_run, bind_eq_ok, check_some_eq_ok, exists_const, exists_and_right,
      exists_unit_eq_ok]
    refine ⟨hdeclare.1, ?_, hdeclare.2.2⟩
    intro _ hnone
    cases hnone
  · unfold planned_events
    simp only [fold_checked_cons_eq_ok, fold_checked_nil, apply_event_eq_ok]
    refine ⟨_, ⟨hcreated, rfl⟩, _, ⟨⟨haccepted.1, rfl, ?_⟩, rfl⟩, _, ⟨hrecorded, rfl⟩, _,
      ⟨⟨hplanned.1, rfl, ?_⟩, rfl⟩, rfl⟩
    · intro hcompleted
      cases hcompleted
    · intro hcompleted
      cases hcompleted

/-! ## What planning checks -/

theorem validate_planned_task_eq_ok {task : Task} :
    validate_planned_task goal task = .ok () ↔
      task.contract_version = ContractVersion.current ∧ task.goal_id = goal.id
        ∧ task.status = .Pending := by
  simp only [validate_planned_task, bind_eq_ok, reject_if_eq_ok, exists_const, ne_eq, not_not]

theorem mem_sorted_task_ids {task_id : TaskId} :
    task_id ∈ sorted_task_ids tasks ↔ task_id ∈ tasks.map Task.id := by
  rw [sorted_task_ids, List.mem_insertionSort]

theorem schedule_eq_ok {ε : Type} {f : ScheduleError → ε} :
    schedule f tasks = .ok plan ↔ schedule_tasks tasks = .ok plan := by
  unfold schedule DurableExecutionAuthority.map_fault
  rw [mapError_eq_ok]

/-- What a built run is made of. -/
theorem build_planned_run_eq_ok
    (h : build_planned_run run_id goal tasks stamps = .ok (plan, events)) :
    validate_goal_contract_versions goal = .ok ()
      ∧ (∀ task ∈ tasks, task.contract_version = ContractVersion.current
        ∧ task.goal_id = goal.id ∧ task.status = .Pending)
      ∧ schedule_tasks tasks = .ok plan
      ∧ events = planned_events run_id goal (sorted_task_ids tasks) plan stamps
      ∧ ∃ run, replay_run events (some goal) = .ok run := by
  simp only [build_planned_run, bind_eq_ok, lift_eq_ok, mapError_eq_ok, reject_if_eq_ok,
    check_all_eq_ok, pure_eq_ok, schedule_eq_ok, exists_const, exists_and_right,
    exists_unit_eq_ok, validate_planned_task_eq_ok] at h
  obtain ⟨hversions, htasks, plan', hplan, -, run, hreplay, -, -, hresult⟩ := h
  obtain ⟨rfl, rfl⟩ := Prod.mk.inj hresult
  refine ⟨hversions, ?_, hplan, rfl, run, hreplay⟩
  intro task hmem
  exact htasks task ((List.mem_insertionSort _).mpr hmem)

/-- The scheduler knows every dependency. -/
theorem schedule_tasks_dependencies (h : schedule_tasks tasks = .ok plan) :
    validate_dependencies (task_map tasks) = .ok () := by
  unfold schedule_tasks at h
  simp only [bind_eq_ok, check_all_eq_ok, exists_const] at h
  have hgraph := h.2.1
  unfold validate_dependencies
  simp only [check_all_eq_ok, reject_if_eq_ok, not_not]
  intro p hp dependency_id hdependency
  have hvalid := hgraph p hp
  simp only [validate_graph, bind_eq_ok, check_all_eq_ok, reject_if_eq_ok, exists_const, not_not]
    at hvalid
  exact hvalid.2 dependency_id hdependency

/-! ## The bootstrap -/

/-- The bootstrap finds the planned run, with the goal and without. -/
theorem load_planned_run {run : ReplayedRun}
    (hversions : validate_goal_contract_versions goal = .ok ())
    (h : replay_run (planned_events run_id goal task_ids plan stamps) (some goal) = .ok run) :
    load_bootstrap_run (G := G) (planned_events run_id goal task_ids plan stamps) run_id goal
      = .ok run := by
  obtain ⟨hplanned, hunbound⟩ := replay_planned_events h
  simp only [load_bootstrap_run, bind_eq_ok, reject_if_eq_ok, mapError_eq_ok, exists_const,
    exists_and_right, exists_unit_eq_ok, ne_eq, not_not, replay]
  exact ⟨List.cons_ne_nil _ _, run, hunbound, hversions, hplanned.same_goal, h⟩

theorem ofList_sorted_task_ids :
    (.ofList (sorted_task_ids tasks) : BTreeSet TaskId) = .ofList (tasks.map Task.id) := by
  apply set_ext
  intro task_id
  rw [Std.ExtTreeSet.mem_ofList, Std.ExtTreeSet.mem_ofList, List.contains_iff_mem,
    List.contains_iff_mem, mem_sorted_task_ids]

/-- Every declared task of a planned run is pending. -/
theorem PlannedRun.task_status {run : ReplayedRun} {task : Task}
    (h : PlannedRun run_id goal (sorted_task_ids tasks) plan run)
    (hnodup : (tasks.map Task.id).Nodup) (hmem : task ∈ tasks) :
    run.task_statuses[task.id]? = some .Pending := by
  have hkeys : (((sorted_task_ids tasks).map fun task_id =>
      (task_id, TaskStatus.Pending)).map Prod.fst).Nodup := by
    rw [List.map_map, Function.comp_def, List.map_id']
    exact (List.perm_insertionSort _ _).nodup_iff.mpr hnodup
  rw [h.pending, get_ofList_eq_some hkeys]
  exact List.mem_map.mpr ⟨task.id, mem_sorted_task_ids.mpr (List.mem_map_of_mem hmem), rfl⟩

/-- **A planned run passes the checks of the bootstrap**, whatever the roles of its tasks. -/
theorem planned_bootstrap {run : ReplayedRun}
    (h : PlannedRun run_id goal (sorted_task_ids tasks) plan run) (hne : tasks ≠ [])
    (htasks : ∀ task ∈ tasks, task.goal_id = goal.id ∧ task.status = .Pending)
    (hplan : schedule_tasks tasks = .ok plan) :
    validate_execution_bootstrap (G := G) run goal tasks = .ok () := by
  have hnodup := (schedule_tasks_planned hplan).1
  obtain ⟨first, rest, rfl⟩ := List.exists_cons_of_ne_nil hne
  have hsize : (.ofList ((first :: rest).map Task.id) : BTreeSet TaskId).size
      = (first :: rest).length := by
    rw [Std.ExtTreeSet.size_ofList, List.length_map]
    refine List.Pairwise.imp ?_ hnodup
    intro a b hne heq
    exact hne (Std.LawfulEqCmp.eq_of_compare heq)
  simp only [validate_execution_bootstrap, bind_eq_ok, reject_if_eq_ok, check_all_eq_ok,
    expect_eq_ok, schedule_eq_ok, exists_const, ne_eq, not_not, not_or, not_exists, not_and]
  refine ⟨h.planned, ⟨?_, fun task hmem => (htasks task hmem).1⟩, ⟨?_, hsize⟩, ?_, plan, hplan,
    h.recorded⟩
  · rw [List.head?_cons, Option.map_some, (htasks first List.mem_cons_self).1]
  · rw [h.declared, ofList_sorted_task_ids]
  · intro task hmem
    exact ⟨.Pending, h.task_status hnodup hmem, (htasks task hmem).2⟩

/-! ## The kernel -/

/-- What the kernel asks of a task beyond what planning does. -/
theorem validate_task_of_pending {task : Task} {task_id : TaskId}
    (hversion : task.contract_version = ContractVersion.current) (hstatus : task.status = .Pending) :
    validate_task task_id task = .ok () ↔ task.assigned_role ≠ .Coordinator := by
  rw [ExecutionLifecycleKernel.validate_task_eq_ok]
  constructor
  · exact fun h => h.2.1
  · exact fun hrole => ⟨hversion, hrole, Or.inl hstatus⟩

theorem head_goal_id {goal_id : GoalId} (hne : tasks ≠ []) (hnodup : (tasks.map Task.id).Nodup)
    (hgoal : ∀ task ∈ tasks, task.goal_id = goal_id) :
    (task_map tasks).toList.head?.map (fun p => p.2.goal_id) = some goal_id := by
  have hget : ∀ p ∈ (task_map tasks).toList, p.2.goal_id = goal_id := by
    intro p hp
    have hp := Std.ExtTreeMap.mem_toList_iff_getElem?_eq_some.mp hp
    exact hgoal p.2 ((ExecutionLifecycleKernel.get_task_map hnodup).mp hp).1
  cases hlist : (task_map tasks).toList with
  | nil =>
    obtain ⟨task, rest, rfl⟩ := List.exists_cons_of_ne_nil hne
    have hfirst := (ExecutionLifecycleKernel.get_task_map hnodup).mpr
      ⟨List.mem_cons_self, rfl⟩
    rw [← Std.ExtTreeMap.mem_toList_iff_getElem?_eq_some, hlist] at hfirst
    exact absurd hfirst List.not_mem_nil
  | cons p rest =>
    rw [hlist] at hget
    rw [List.head?_cons, Option.map_some, hget p List.mem_cons_self]

/-- **The kernel accepts planned tasks exactly when none is assigned to the coordinator.** -/
theorem new_planned_iff (hne : tasks ≠ [])
    (htasks : ∀ task ∈ tasks, task.contract_version = ContractVersion.current
      ∧ task.goal_id = goal.id ∧ task.status = .Pending)
    (hplan : schedule_tasks tasks = .ok plan)
    (hversion : retry_budget.contract_version = ContractVersion.current)
    (hmax : 1 ≤ retry_budget.max_attempts) :
    (∃ k, ExecutionLifecycleKernel.new run_id tasks retry_budget = .ok k)
      ↔ ∀ task ∈ tasks, task.assigned_role ≠ .Coordinator := by
  have hnodup := (schedule_tasks_planned hplan).1
  have hget : ∀ {task_id : TaskId} {task : Task},
      (task_id, task) ∈ (task_map tasks).toList ↔ task ∈ tasks ∧ task.id = task_id := by
    intro task_id task
    rw [Std.ExtTreeMap.mem_toList_iff_getElem?_eq_some]
    exact ExecutionLifecycleKernel.get_task_map hnodup
  constructor
  · rintro ⟨k, hk⟩ task hmem
    obtain ⟨-, -, -, hvalid, -⟩ := ExecutionLifecycleKernel.new_eq_ok_iff.mp hk
    obtain ⟨htask_version, -, hstatus⟩ := htasks task hmem
    exact (validate_task_of_pending htask_version hstatus).mp
      (hvalid (task.id, task) (hget.mpr ⟨hmem, rfl⟩))
  · intro hroles
    refine ⟨_, ExecutionLifecycleKernel.new_eq_ok_iff.mpr ⟨?_, ?_, hnodup, ?_, ?_,
      schedule_tasks_dependencies hplan, rfl⟩⟩
    · rw [validate_version, hversion, reject_if_eq_ok]
      exact not_not.mpr rfl
    · omega
    · rintro ⟨task_id, task⟩ hp
      obtain ⟨hmem, -⟩ := hget.mp hp
      obtain ⟨htask_version, -, hstatus⟩ := htasks task hmem
      exact (validate_task_of_pending htask_version hstatus).mpr (hroles task hmem)
    · rw [head_goal_id hne hnodup fun task hmem => (htasks task hmem).2.1, validate_goal,
        check_all_eq_ok]
      rintro ⟨task_id, task⟩ hp
      rw [reject_if_eq_ok, not_not]
      exact (htasks task (hget.mp hp).1).2.1

/-- The fresh execution of a planned run belongs to it. -/
theorem view_planned_run {run : ReplayedRun} {k : ExecutionLifecycleKernel} (hne : tasks ≠ [])
    (h : PlannedRun run_id goal (sorted_task_ids tasks) plan run)
    (hgoal : ∀ task ∈ tasks, task.goal_id = goal.id)
    (hnew : ExecutionLifecycleKernel.new run_id tasks retry_budget = .ok k) :
    validate_runtime_view (G := G) (E := E) (R := R) run
        ⟨DurableExecutionAuthority.initial_envelope run_id tasks retry_budget k, 0⟩
      = .ok ⟨run, ⟨DurableExecutionAuthority.initial_envelope run_id tasks retry_budget k, 0⟩⟩ := by
  obtain ⟨-, -, hnodup, -, -, -, hk⟩ := ExecutionLifecycleKernel.new_eq_ok_iff.mp hnew
  simp only [validate_runtime_view, bind_eq_ok, reject_if_eq_ok, pure_eq_ok, exists_const, ne_eq,
    not_not, and_true]
  refine ⟨h.same_id.symm, ?_, ?_⟩
  · rw [h.same_goal, ← head_goal_id hne hnodup hgoal, hk]
    rfl
  · rw [h.declared, ofList_sorted_task_ids]
    apply set_ext
    intro task_id
    rw [Std.ExtTreeSet.mem_ofList, Std.ExtTreeSet.mem_ofList, List.contains_iff_mem,
      List.contains_iff_mem, mem_keys_iff]
    constructor
    · intro hmem
      obtain ⟨task, htask, rfl⟩ := List.mem_map.mp hmem
      exact ⟨task, (ExecutionLifecycleKernel.get_task_map hnodup).mpr ⟨htask, rfl⟩⟩
    · rintro ⟨task, htask⟩
      obtain ⟨hmem, rfl⟩ := (ExecutionLifecycleKernel.get_task_map hnodup).mp htask
      exact List.mem_map_of_mem hmem

/-! ## The gap -/

/-- A retry with the same definition goes through: the log replays, the bootstrap is valid,
the kernel accepts the tasks, and the fresh execution belongs to the run. -/
def Recoverable (G E R : Type) (run_id : RunId) (goal : GoalContract) (tasks : List Task)
    (retry_budget : RetryBudget) (events : List RunEvent) : Prop :=
  ∃ run k, ∃ view : RuntimeView E R,
    load_bootstrap_run (G := G) events run_id goal = .ok run
      ∧ validate_execution_bootstrap (G := G) run goal tasks = .ok ()
      ∧ ExecutionLifecycleKernel.new run_id tasks retry_budget = .ok k
      ∧ validate_runtime_view (G := G) run
          ⟨DurableExecutionAuthority.initial_envelope run_id tasks retry_budget k, 0⟩ = .ok view

/-- **The bootstrap gap of a planned run is recoverable exactly when none of its tasks is
assigned to the coordinator.** -/
theorem bootstrap_recoverable_iff (G E R : Type) (run_id : RunId) (goal : GoalContract)
    (tasks : List Task) (stamps : PlannedRunStamps) (plan : ExecutionPlan)
    (events : List RunEvent) (retry_budget : RetryBudget) (hne : tasks ≠ [])
    (hbuild : build_planned_run run_id goal tasks stamps = .ok (plan, events))
    (hversion : retry_budget.contract_version = ContractVersion.current)
    (hmax : 1 ≤ retry_budget.max_attempts) :
    Recoverable G E R run_id goal tasks retry_budget events
      ↔ ∀ task ∈ tasks, task.assigned_role ≠ .Coordinator := by
  obtain ⟨hversions, htasks, hplan, rfl, run, hreplay⟩ := build_planned_run_eq_ok hbuild
  rw [← @new_planned_iff run_id goal tasks plan retry_budget hne htasks hplan hversion hmax]
  constructor
  · rintro ⟨-, k, -, -, -, hk, -⟩
    exact ⟨k, hk⟩
  · rintro ⟨k, hk⟩
    obtain ⟨hplanned, -⟩ := replay_planned_events hreplay
    have hbootstrap : validate_execution_bootstrap (G := G) run goal tasks = .ok () :=
      planned_bootstrap hplanned hne (fun task hmem => (htasks task hmem).2) hplan
    have hview := view_planned_run (G := G) (E := E) (R := R) hne hplanned
      (fun task hmem => (htasks task hmem).2.1) hk
    exact ⟨run, k, _, load_planned_run hversions hreplay, hbootstrap, hk, hview⟩

def planned_goal : GoalContract where
  contract_version := ContractVersion.current
  id := "goal"
  project_id := "project"
  objective := "objective"
  constraints := []
  acceptance_criteria := []
  verification_criteria := []
  permission_profile := ⟨ContractVersion.current, .R0, [], [], false, false, false⟩
  definition_of_done := []
  completion_precondition := ⟨ContractVersion.current, 1, true, true⟩
  created_at := 0
  updated_at := 0

def pendingTask (id : TaskId) (dependencies : List TaskId) (assigned_role : Role) : Task where
  contract_version := ContractVersion.current
  id := id
  goal_id := "goal"
  outcome := "outcome"
  dependencies := dependencies
  assigned_role := assigned_role
  resource_keys := []
  write_keys := [id]
  status := .Pending
  created_at := 0
  updated_at := 0

def planned_stamps : PlannedRunStamps :=
  ⟨⟨"event-0", 0⟩, ⟨"event-1", 1⟩, ⟨"event-2", 2⟩, ⟨"event-3", 3⟩⟩

def two_waves : ExecutionPlan :=
  ⟨ContractVersion.current, [⟨0, .Sequential, ["a"]⟩, ⟨1, .Sequential, ["b"]⟩]⟩

/-- Two tasks, of an engineer and of a given role. -/
def two_tasks (role : Role) : List Task :=
  [pendingTask "b" ["a"] role, pendingTask "a" [] .Engineer]

theorem two_tasks_planned (role : Role) :
    build_planned_run "run" planned_goal (two_tasks role) planned_stamps
      = .ok (two_waves, planned_events "run" planned_goal ["a", "b"] two_waves planned_stamps) := by
  cases role <;> decide +kernel

theorem bootstrap_recoverable_reviewer :
    Recoverable Empty Unit Unit "run" planned_goal (two_tasks .Reviewer) ⟨1, 1⟩
        (planned_events "run" planned_goal ["a", "b"] two_waves planned_stamps)
      ↔ ∀ task ∈ two_tasks .Reviewer, task.assigned_role ≠ .Coordinator :=
  bootstrap_recoverable_iff Empty Unit Unit "run" planned_goal _ planned_stamps two_waves _ ⟨1, 1⟩
    (List.cons_ne_nil _ _) (two_tasks_planned .Reviewer) rfl (le_refl 1)

/-- **A planned run that cannot execute**: it passes the checks of the bootstrap, but the
kernel refuses the task of the coordinator. -/
theorem coordinator_task_stuck :
    build_planned_run "run" planned_goal (two_tasks .Coordinator) planned_stamps
        = .ok (two_waves, planned_events "run" planned_goal ["a", "b"] two_waves planned_stamps)
      ∧ (∃ run, load_bootstrap_run (G := Empty)
            (planned_events "run" planned_goal ["a", "b"] two_waves planned_stamps) "run"
            planned_goal = .ok run
          ∧ validate_execution_bootstrap (G := Empty) run planned_goal (two_tasks .Coordinator)
            = .ok ())
      ∧ ExecutionLifecycleKernel.new "run" (two_tasks .Coordinator) ⟨1, 3⟩
        = .error (.InvalidAssignedRole "b" .Coordinator) := by
  have hbuild := two_tasks_planned .Coordinator
  refine ⟨hbuild, ?_, by decide⟩
  obtain ⟨hversions, htasks, hplan, hevents, run, hreplay⟩ := build_planned_run_eq_ok hbuild
  rw [hevents] at hreplay ⊢
  refine ⟨run, load_planned_run hversions hreplay, ?_⟩
  exact planned_bootstrap (replay_planned_events hreplay).1 (List.cons_ne_nil _ _)
    (fun task hmem => (htasks task hmem).2) hplan

end DurableGoalRuntime

end OvcaCore

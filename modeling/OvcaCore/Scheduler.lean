/-
The scheduler (`ovca-runtime-core/src/scheduler.rs`).

A task graph is checked and then packed into waves: a wave takes the tasks whose
dependencies are all in earlier waves, in the order of their ids, and leaves out those that
share a write key with a task it has taken. The sets of the loop are lists here, with their
ids in the order of the set; every id that is left to schedule has its task.
-/
import OvcaCore.ExecutionLifecycle
import OvcaCore.GoalRun

set_option autoImplicit false

namespace OvcaCore

open OvcaCore.Checks OvcaCore.ExecutionLifecycle

inductive ScheduleError where
  | DuplicateTaskId (task_id : TaskId)
  | SelfDependency (task_id : TaskId)
  | MissingDependency (task_id dependency_id : TaskId)
  | Cycle (task_ids : List TaskId)
  deriving DecidableEq, Repr

namespace Scheduler

/-- The task is known, and it depends on known tasks other than itself. -/
def validate_graph (tasks_by_id : BTreeMap TaskId Task) (task_id : TaskId) (task : Task) :
    Except (Fault ScheduleError) Unit := do
  let dependencies : BTreeSet TaskId := .ofList task.dependencies
  reject_if (task_id ∈ dependencies) (Fault.error (.SelfDependency task_id))
  check_all dependencies.toList fun dependency_id =>
    reject_if (¬ tasks_by_id.contains dependency_id)
      (Fault.error (.MissingDependency task_id dependency_id))

/-- The tasks that are left whose dependencies are all completed. -/
def ready_tasks (tasks_by_id : BTreeMap TaskId Task) (completed remaining : List TaskId) :
    List TaskId :=
  remaining.filter fun task_id => tasks_by_id[task_id]?.any fun task =>
    task.dependencies.all fun dependency_id => completed.contains dependency_id

def write_keys_of (tasks_by_id : BTreeMap TaskId Task) (task_id : TaskId) : List String :=
  (tasks_by_id[task_id]?.map Task.write_keys).getD []

/-- The ready tasks that a wave takes, where it has taken some write keys. -/
def pack_wave (tasks_by_id : BTreeMap TaskId Task) :
    BTreeSet String → List TaskId → List TaskId
  | _, [] => []
  | wave_write_keys, task_id :: ready =>
    let write_keys := write_keys_of tasks_by_id task_id
    if write_keys.any fun write_key => wave_write_keys.contains write_key then
      pack_wave tasks_by_id wave_write_keys ready
    else
      task_id :: pack_wave tasks_by_id (wave_write_keys.insertMany write_keys) ready

/-- A wave takes the first ready task. -/
theorem pack_wave_cons (tasks_by_id : BTreeMap TaskId Task) (task_id : TaskId)
    (ready : List TaskId) :
    pack_wave tasks_by_id ∅ (task_id :: ready)
      = task_id :: pack_wave tasks_by_id
        ((∅ : BTreeSet String).insertMany (write_keys_of tasks_by_id task_id)) ready := by
  have hfree : ((write_keys_of tasks_by_id task_id).any fun write_key =>
      (∅ : BTreeSet String).contains write_key) = false := by
    rw [List.any_eq_false]
    intro write_key _
    rw [Std.ExtTreeSet.contains_empty]
    exact Bool.false_ne_true
  rw [pack_wave, hfree]
  rfl

/-- What a wave leaves to schedule. -/
def unscheduled (task_ids remaining : List TaskId) : List TaskId :=
  remaining.filter fun task_id => !task_ids.contains task_id

/-- A round leaves fewer tasks. -/
theorem length_remaining_lt (tasks_by_id : BTreeMap TaskId Task)
    {completed remaining : List TaskId}
    (h : ready_tasks tasks_by_id completed remaining ≠ []) :
    (unscheduled (pack_wave tasks_by_id ∅ (ready_tasks tasks_by_id completed remaining))
      remaining).length < remaining.length := by
  obtain ⟨first, ready, hready⟩ := List.exists_cons_of_ne_nil h
  rw [unscheduled, List.length_filter_lt_length_iff_exists]
  refine ⟨first, ?_, ?_⟩
  · have hmem : first ∈ ready_tasks tasks_by_id completed remaining := by
      rw [hready]
      exact List.mem_cons_self
    exact (List.mem_filter.mp hmem).1
  · rw [hready, pack_wave_cons]
    simp

def wave_mode (task_ids : List TaskId) : ExecutionMode :=
  if task_ids.length = 1 then .Sequential else .Parallel

/-- The loop, with the waves so far. -/
def schedule_waves (tasks_by_id : BTreeMap TaskId Task) (completed remaining : List TaskId)
    (waves : List ExecutionWave) : Except (Fault ScheduleError) (List ExecutionWave) :=
  if remaining = [] then
    .ok waves
  else
    let ready := ready_tasks tasks_by_id completed remaining
    if h : ready = [] then
      .error (Fault.error (.Cycle remaining))
    else
      let task_ids := pack_wave tasks_by_id ∅ ready
      if U32_MAX < waves.length then
        .error (.panic "execution wave count exceeds u32")
      else
        schedule_waves tasks_by_id (completed ++ task_ids)
          (unscheduled task_ids remaining)
          (waves ++ [⟨waves.length, wave_mode task_ids, task_ids⟩])
termination_by remaining.length
decreasing_by exact length_remaining_lt tasks_by_id h

def schedule_tasks (tasks : List Task) : Except (Fault ScheduleError) ExecutionPlan := do
  check_all (task_counts tasks).toList fun p =>
    reject_if (p.2 > 1) (Fault.error (.DuplicateTaskId p.1))
  let tasks_by_id := task_map tasks
  check_all tasks_by_id.toList fun p => validate_graph tasks_by_id p.1 p.2
  let waves ← schedule_waves tasks_by_id [] tasks_by_id.keys []
  return ⟨ContractVersion.current, waves⟩

end Scheduler

end OvcaCore

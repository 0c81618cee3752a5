/-
Planning a run and bootstrapping its execution (`ovca-langgraph/src/goal_runtime.rs`).

`build_planned_run` turns a goal and its tasks into the four events that create a planned
run. Later, `initialize_execution` replays them, compares them with the same goal and tasks
(`validate_execution_bootstrap`), starts a lifecycle kernel on the tasks and compares its
state with the run (`validate_runtime_view`). The two stores are written one after the
other, so a run can be planned and have no execution yet.
-/
import OvcaCore.GoalRuntime
import OvcaCore.SqliteExecution
import Mathlib.Data.List.Sort

set_option autoImplicit false

namespace OvcaCore

open OvcaCore.Checks OvcaCore.Replay OvcaCore.Scheduler

structure EventStamp where
  id : EventId
  occurred_at : DateTime
  deriving DecidableEq, Repr

structure PlannedRunStamps where
  run_created : EventStamp
  accepted : EventStamp
  plan_recorded : EventStamp
  planned : EventStamp
  deriving DecidableEq, Repr

def PlannedRunStamps.ordered_stamps (stamps : PlannedRunStamps) : List EventStamp :=
  [stamps.run_created, stamps.accepted, stamps.plan_recorded, stamps.planned]

structure RuntimeView (E R : Type) where
  orchestration : ReplayedRun
  execution : LoadedExecutionRun E R

namespace DurableGoalRuntime

/-! ## Planning -/

/-- The loop of `build_planned_run` over the tasks, which it goes through by their ids. -/
def validate_planned_task (goal : GoalContract) (task : Task) : Except GoalRuntimeError Unit := do
  reject_if (task.contract_version ≠ ContractVersion.current)
    (.TaskContractVersionMismatch task.id ContractVersion.current task.contract_version)
  reject_if (task.goal_id ≠ goal.id) (.TaskGoalMismatch task.id goal.id task.goal_id)
  reject_if (task.status ≠ .Pending) (.TaskNotPending task.id task.status)

def ordered_tasks (tasks : List Task) : List Task :=
  tasks.insertionSort fun left right => left.id ≤ right.id

def sorted_task_ids (tasks : List Task) : List TaskId :=
  (tasks.map Task.id).insertionSort fun left right => left ≤ right

def insert_stamp (event_ids : BTreeSet EventId) (stamp : EventStamp) :
    Except GoalRuntimeError (BTreeSet EventId) := do
  reject_if (stamp.id ∈ event_ids) (.DuplicateStampId stamp.id)
  pure (event_ids.insert stamp.id)

/-- Two neighbouring stamps, and the index of the first. -/
def validate_pair (pair : (EventStamp × EventStamp) × ℕ) : Except GoalRuntimeError Unit :=
  reject_if (pair.1.2.occurred_at < pair.1.1.occurred_at)
    (.DecreasingStampTimestamp pair.2 pair.1.1.occurred_at (pair.2 + 1) pair.1.2.occurred_at)

def validate_stamps (stamps : PlannedRunStamps) : Except GoalRuntimeError Unit := do
  let ordered_stamps := stamps.ordered_stamps
  let _ ← fold_checked insert_stamp ∅ ordered_stamps
  check_all (ordered_stamps.zip ordered_stamps.tail).zipIdx validate_pair

/-- An event of the coordinator, without metadata. -/
def planned_event (run_id : RunId) (sequence : ℕ) (previous_event_id : Option EventId)
    (stamp : EventStamp) (payload : RunEventPayload) : RunEvent where
  contract_version := ContractVersion.current
  id := stamp.id
  run_id := run_id
  sequence := sequence
  previous_event_id := previous_event_id
  occurred_at := stamp.occurred_at
  producer_role := .Coordinator
  payload := payload
  metadata := ∅

/-- The fields of the first event. -/
def planned_created (goal : GoalContract) (task_ids : List TaskId) (created_at : DateTime) :
    RunCreated where
  project_id := goal.project_id
  goal_id := goal.id
  task_ids := task_ids
  status := .Draft
  created_at := created_at
  updated_at := created_at
  started_at := none
  finished_at := none

/-- The four events of a planned run. -/
def planned_events (run_id : RunId) (goal : GoalContract) (task_ids : List TaskId)
    (plan : ExecutionPlan) (stamps : PlannedRunStamps) : List RunEvent :=
  [planned_event run_id 0 none stamps.run_created
      (.RunCreated (planned_created goal task_ids stamps.run_created.occurred_at)),
    planned_event run_id 1 (some stamps.run_created.id) stamps.accepted
      (.StatusTransition .Draft .Accepted),
    planned_event run_id 2 (some stamps.accepted.id) stamps.plan_recorded
      (.ExecutionPlanRecorded plan),
    planned_event run_id 3 (some stamps.plan_recorded.id) stamps.planned
      (.StatusTransition .Accepted .Planned)]

/-- `.map_err(GoalRuntimeError::Schedule)`, a panic stays one. -/
def schedule {ε : Type} (f : ScheduleError → ε) (tasks : List Task) :
    Except (Fault ε) ExecutionPlan :=
  DurableExecutionAuthority.map_fault f (schedule_tasks tasks)

def build_planned_run (run_id : RunId) (goal : GoalContract) (tasks : List Task)
    (stamps : PlannedRunStamps) :
    Except (Fault GoalRuntimeError) (ExecutionPlan × List RunEvent) := do
  lift (validate_goal_contract_versions goal)
  lift (check_all (ordered_tasks tasks) (validate_planned_task goal))
  let plan ← schedule GoalRuntimeError.Schedule tasks
  lift (validate_stamps stamps)
  let events := planned_events run_id goal (sorted_task_ids tasks) plan stamps
  let replayed ← lift ((replay_run events (some goal)).mapError GoalRuntimeError.Replay)
  reject_if (replayed.run_record.status ≠ .Planned)
    (Fault.error (.ReplayedStatusMismatch .Planned replayed.run_record.status))
  reject_if (replayed.execution_plan ≠ some plan)
    (Fault.error (.ReplayedPlanMismatch plan replayed.execution_plan))
  pure (plan, events)

/-! ## The bootstrap -/

variable {G E R : Type}

/-- The part of `load_bootstrap_run` after the log is read. -/
def load_bootstrap_run (events : List RunEvent) (run_id : RunId) (goal : GoalContract) :
    Except (DurableGoalRuntimeError G) ReplayedRun := do
  reject_if (events = []) (.RunNotFound run_id)
  let unbound ← (replay_run events none).mapError .Replay
  (validate_goal_contract_versions goal).mapError .Build
  reject_if (unbound.run_record.goal_id ≠ goal.id)
    (.BootstrapGoalMismatch unbound.run_record.goal_id (some goal.id))
  replay events goal

def validate_execution_bootstrap (orchestration : ReplayedRun) (goal : GoalContract)
    (tasks : List Task) : Except (Fault (DurableGoalRuntimeError G)) Unit := do
  reject_if (orchestration.run_record.status ≠ .Planned)
    (Fault.error (.BootstrapRunStatusMismatch .Planned orchestration.run_record.status))
  let provided_goal := tasks.head?.map Task.goal_id
  reject_if (provided_goal ≠ some goal.id ∨ ∃ task ∈ tasks, task.goal_id ≠ goal.id)
    (Fault.error (.BootstrapGoalMismatch goal.id provided_goal))
  let declared : BTreeSet TaskId := .ofList orchestration.run_record.task_ids
  let provided : BTreeSet TaskId := .ofList (tasks.map Task.id)
  reject_if (declared ≠ provided ∨ provided.size ≠ tasks.length)
    (Fault.error (.BootstrapTaskSetMismatch declared provided))
  check_all tasks fun task => do
    let orchestration_status ← expect orchestration.task_statuses[task.id]?
      "no entry found for key"
    reject_if (task.status ≠ orchestration_status)
      (Fault.error (.BootstrapTaskStatusMismatch task.id orchestration_status task.status))
  let provided_plan ← schedule (fun source => .Build (.Schedule source)) tasks
  reject_if (orchestration.execution_plan ≠ some provided_plan)
    (Fault.error (.BootstrapPlanMismatch orchestration.execution_plan provided_plan))

def validate_runtime_view (orchestration : ReplayedRun) (execution : LoadedExecutionRun E R) :
    Except (DurableGoalRuntimeError G) (RuntimeView E R) := do
  reject_if (execution.envelope.run_id ≠ orchestration.run_record.id)
    (.ViewRunMismatch orchestration.run_record.id execution.envelope.run_id)
  reject_if (execution.envelope.snapshot.goal_id ≠ some orchestration.run_record.goal_id)
    (.ViewGoalMismatch orchestration.run_record.goal_id execution.envelope.snapshot.goal_id)
  let orchestration_tasks : BTreeSet TaskId := .ofList orchestration.run_record.task_ids
  let execution_tasks : BTreeSet TaskId := .ofList execution.envelope.tasks.keys
  reject_if (orchestration_tasks ≠ execution_tasks)
    (.ViewTaskSetMismatch orchestration_tasks execution_tasks)
  pure ⟨orchestration, execution⟩

end DurableGoalRuntime

end OvcaCore

/-
The execution lifecycle kernel (`ovca-runtime-core/src/execution_lifecycle.rs`).

Tasks are claimed under leases, leases own write keys, and a lease ends by
completion, cancellation, failure or expiry. Ownership is recorded twice: in
the lease of the task and in the owner map of the kernel. `claim`, `heartbeat`,
`complete`, `cancel` and `fail` change both; `snapshot` exposes them and
`restore` re-derives the owner map from the leases.

Every operation of the source works on a clone and assigns it on success, so an
operation here returns the next kernel, or a fault that leaves the kernel as it
was. Where the source indexes a map or calls `expect`, the fault is a panic;
so is the overflow of the attempt counter.
-/
import OvcaCore.Types
import OvcaCore.Lib.Checks
import OvcaCore.Lib.OrderedMaps

set_option autoImplicit false

namespace OvcaCore

open OvcaCore.Checks

/-! ## Records -/

structure TaskExecutionSnapshot where
  status : TaskStatus
  attempts : ℕ
  current_lease : Option TaskLease
  terminal_record : Option TaskTerminalRecord
  last_failure_reason : Option String
  deriving DecidableEq, Repr

structure WriteKeyOwner where
  task_id : TaskId
  worker_id : WorkerId
  lease_id : LeaseId
  expires_at : DateTime
  deriving DecidableEq, Repr

structure ExecutionLifecycleSnapshot where
  run_id : RunId
  goal_id : Option GoalId
  max_attempts : ℕ
  tasks : BTreeMap TaskId TaskExecutionSnapshot
  write_key_owners : BTreeMap String WriteKeyOwner
  deriving DecidableEq, Repr

structure ClaimRequest where
  task_id : TaskId
  worker_id : WorkerId
  worker_role : Role
  lease_id : LeaseId
  now : DateTime
  expires_at : DateTime
  deriving DecidableEq, Repr

structure HeartbeatRequest where
  task_id : TaskId
  worker_id : WorkerId
  worker_role : Role
  lease_id : LeaseId
  now : DateTime
  expires_at : DateTime
  deriving DecidableEq, Repr

structure FailureRequest where
  task_id : TaskId
  worker_id : WorkerId
  worker_role : Role
  lease_id : LeaseId
  now : DateTime
  reason : String
  deriving DecidableEq, Repr

structure CompletionRequest where
  task_id : TaskId
  worker_id : WorkerId
  worker_role : Role
  lease_id : LeaseId
  idempotency_key : IdempotencyKey
  occurred_at : DateTime
  deriving DecidableEq, Repr

structure CancellationRequest where
  task_id : TaskId
  worker_id : WorkerId
  worker_role : Role
  lease_id : LeaseId
  idempotency_key : IdempotencyKey
  occurred_at : DateTime
  reason : Option String
  deriving DecidableEq, Repr

inductive ExecutionLifecycleError where
  | UnsupportedContractVersion (contract : String) (expected actual : ContractVersion)
  | InvalidMaxAttempts
  | DuplicateTaskId (task_id : TaskId)
  | GoalMismatch (task_id : TaskId) (expected_goal_id actual_goal_id : GoalId)
  | UnknownDependency (task_id dependency_id : TaskId)
  | InvalidAssignedRole (task_id : TaskId) (role : Role)
  | InvalidInitialTaskStatus (task_id : TaskId) (status : TaskStatus)
  | UnknownTask (task_id : TaskId)
  | DependencyIncomplete (task_id dependency_id : TaskId) (status : TaskStatus)
  | CoordinatorRejected (task_id : TaskId)
  | RoleMismatch (task_id : TaskId) (expected actual : Role)
  | TaskNotClaimable (task_id : TaskId) (status : TaskStatus)
  | InvalidLeaseExpiry (task_id : TaskId)
  | ActiveTaskLease (task_id : TaskId) (lease_id : LeaseId)
  | WriteKeyConflict (write_key : String) (owner_task_id : TaskId)
  | RetryExhausted (task_id : TaskId) (max_attempts : ℕ)
  | NoCurrentLease (task_id : TaskId)
  | WorkerMismatch (task_id : TaskId)
  | LeaseMismatch (task_id : TaskId)
  | StaleHeartbeat (task_id : TaskId)
  | LeaseExpired (task_id : TaskId)
  | NonExtendingHeartbeat (task_id : TaskId)
  | TerminalRetryIdentityMismatch (task_id : TaskId)
  | IdempotencyKeyConflict (task_id : TaskId) (existing requested : IdempotencyKey)
  deriving DecidableEq, Repr

inductive ExecutionLifecycleRestoreError where
  | InvalidDefinition (source : ExecutionLifecycleError)
  | RunIdMismatch (expected actual : RunId)
  | GoalIdMismatch (expected actual : Option GoalId)
  | MaxAttemptsMismatch (expected actual : ℕ)
  | TaskSetMismatch (expected actual : BTreeSet TaskId)
  | AttemptsExceedBudget (task_id : TaskId) (attempts max_attempts : ℕ)
  | InvalidStatusAttempts (task_id : TaskId) (status : TaskStatus) (attempts max_attempts : ℕ)
  | UnsupportedTaskStatus (task_id : TaskId) (status : TaskStatus)
  | LastFailureWithoutAttempt (task_id : TaskId)
  | RunningLeaseMismatch (task_id : TaskId) (status : TaskStatus) (has_current_lease : Bool)
  | TerminalRecordMismatch (task_id : TaskId) (status : TaskStatus)
      (outcome : Option TaskTerminalOutcome)
  | InvalidLeaseContract (task_id : TaskId) (actual : ContractVersion)
  | LeaseRunMismatch (task_id : TaskId) (actual : RunId)
  | LeaseTaskMismatch (task_id actual : TaskId)
  | LeaseRoleMismatch (task_id : TaskId) (expected actual : Role)
  | LeaseWriteKeysMismatch (task_id : TaskId) (expected actual : BTreeSet String)
  | LeaseAttemptMismatch (task_id : TaskId) (expected actual : ℕ)
  | LeaseMaxAttemptsMismatch (task_id : TaskId) (expected actual : ℕ)
  | InvalidLeaseTimestamps (task_id : TaskId)
  | InvalidTerminalContract (task_id : TaskId) (actual : ContractVersion)
  | TerminalRunMismatch (task_id : TaskId) (actual : RunId)
  | TerminalTaskMismatch (task_id actual : TaskId)
  | TerminalWithoutAttempt (task_id : TaskId)
  | DuplicateWriteKeyOwner (write_key : String) (first_task_id second_task_id : TaskId)
  | WriteKeyOwnersMismatch (expected actual : BTreeMap String WriteKeyOwner)
  deriving DecidableEq, Repr

structure ExecutionLifecycleKernel where
  run_id : RunId
  goal_id : Option GoalId
  retry_budget : RetryBudget
  tasks : BTreeMap TaskId Task
  state : BTreeMap TaskId TaskExecutionSnapshot
  write_key_owners : BTreeMap String WriteKeyOwner
  deriving DecidableEq, Repr

namespace ExecutionLifecycle

/-! ## Shared checks -/

def validate_version (contract : String) (actual : ContractVersion) :
    Except ExecutionLifecycleError Unit :=
  reject_if (actual ≠ GOAL_RUNTIME_CONTRACT_VERSION)
    (.UnsupportedContractVersion contract GOAL_RUNTIME_CONTRACT_VERSION actual)

def validate_role (task_id : TaskId) (expected actual : Role) :
    Except ExecutionLifecycleError Unit := do
  reject_if (actual = .Coordinator) (.CoordinatorRejected task_id)
  reject_if (actual ≠ expected) (.RoleMismatch task_id expected actual)

/-- `BTreeSet::from_iter(task.write_keys)`. -/
def write_key_set (task : Task) : BTreeSet String := .ofList task.write_keys

/-! ## `new` -/

/-- How often each task id is declared. -/
def task_counts (tasks : List Task) : BTreeMap TaskId ℕ :=
  tasks.foldl (fun counts task => counts.insert task.id (counts.getD task.id 0 + 1)) ∅

/-- `tasks.into_iter().map(|task| (task.id.clone(), task)).collect()`. -/
def task_map (tasks : List Task) : BTreeMap TaskId Task :=
  .ofList (tasks.map fun task => (task.id, task))

/-- The execution state of a task nobody has claimed yet. -/
def initial_state (task : Task) : TaskExecutionSnapshot where
  status := task.status
  attempts := 0
  current_lease := none
  terminal_record := none
  last_failure_reason := none

def validate_task (task_id : TaskId) (task : Task) : Except ExecutionLifecycleError Unit := do
  validate_version s!"task:{task_id}" task.contract_version
  reject_if (¬ (task.assigned_role = .Engineer ∨ task.assigned_role = .Reviewer
      ∨ task.assigned_role = .Auditor))
    (.InvalidAssignedRole task.id task.assigned_role)
  reject_if (¬ (task.status = .Pending ∨ task.status = .Ready))
    (.InvalidInitialTaskStatus task.id task.status)

def validate_goal (tasks : BTreeMap TaskId Task) (goal_id : Option GoalId) :
    Except ExecutionLifecycleError Unit :=
  match goal_id with
  | none => .ok ()
  | some expected =>
    check_all tasks.toList fun p =>
      reject_if (p.2.goal_id ≠ expected) (.GoalMismatch p.1 expected p.2.goal_id)

def validate_dependencies (tasks : BTreeMap TaskId Task) : Except ExecutionLifecycleError Unit :=
  check_all tasks.toList fun p =>
    let dependencies : BTreeSet TaskId := .ofList p.2.dependencies
    check_all dependencies.toList fun dependency_id =>
      reject_if (¬ tasks.contains dependency_id) (.UnknownDependency p.2.id dependency_id)

end ExecutionLifecycle

namespace ExecutionLifecycleKernel

open ExecutionLifecycle

def new (run_id : RunId) (tasks : List Task) (retry_budget : RetryBudget) :
    Except ExecutionLifecycleError ExecutionLifecycleKernel := do
  validate_version "retry_budget" retry_budget.contract_version
  reject_if (retry_budget.max_attempts = 0) .InvalidMaxAttempts
  check_all (task_counts tasks).toList fun p => reject_if (p.2 > 1) (.DuplicateTaskId p.1)
  let task_map := task_map tasks
  check_all task_map.toList fun p => validate_task p.1 p.2
  let goal_id := task_map.toList.head?.map fun p => p.2.goal_id
  validate_goal task_map goal_id
  validate_dependencies task_map
  pure
    { run_id
      goal_id
      retry_budget
      tasks := task_map
      state := task_map.map fun _ task => initial_state task
      write_key_owners := ∅ }

def snapshot (k : ExecutionLifecycleKernel) : ExecutionLifecycleSnapshot where
  run_id := k.run_id
  goal_id := k.goal_id
  max_attempts := k.retry_budget.max_attempts
  tasks := k.state
  write_key_owners := k.write_key_owners

end ExecutionLifecycleKernel

/-! ## `restore` -/

namespace ExecutionLifecycle

/-- The owner entry a lease accounts for. -/
def owner_of (task_id : TaskId) (lease : TaskLease) : WriteKeyOwner where
  task_id := task_id
  worker_id := lease.worker_id
  lease_id := lease.lease_id
  expires_at := lease.expires_at

def valid_attempts (status : TaskStatus) (attempts max_attempts : ℕ) :
    Except (Fault ExecutionLifecycleRestoreError) Bool :=
  match status with
  | .Pending => .ok (attempts = 0)
  | .Ready => .ok (attempts < max_attempts)
  | .Running | .Completed | .Cancelled => .ok (attempts ≥ 1)
  | .Failed => .ok (attempts = max_attempts)
  | .AwaitingApproval | .Reviewing => .error (.panic "unreachable")

def expected_outcome (status : TaskStatus) : Option TaskTerminalOutcome :=
  match status with
  | .Completed => some .Completed
  | .Cancelled => some .Cancelled
  | _ => none

/-- The checks on the status of one task of a snapshot. -/
def restore_status (max_attempts : ℕ) (task_id : TaskId) (state : TaskExecutionSnapshot) :
    Except (Fault ExecutionLifecycleRestoreError) Unit := do
  reject_if (state.attempts > max_attempts)
    (Fault.error (.AttemptsExceedBudget task_id state.attempts max_attempts))
  reject_if (state.status = .AwaitingApproval ∨ state.status = .Reviewing)
    (Fault.error (.UnsupportedTaskStatus task_id state.status))
  let valid ← valid_attempts state.status state.attempts max_attempts
  reject_if (¬ valid)
    (Fault.error (.InvalidStatusAttempts task_id state.status state.attempts max_attempts))
  reject_if (state.attempts = 0 ∧ state.last_failure_reason.isSome)
    (Fault.error (.LastFailureWithoutAttempt task_id))
  let has_current_lease := state.current_lease.isSome
  reject_if (decide (state.status = .Running) ≠ has_current_lease)
    (Fault.error (.RunningLeaseMismatch task_id state.status has_current_lease))
  let actual_outcome := state.terminal_record.map fun record => record.outcome
  reject_if (actual_outcome ≠ expected_outcome state.status)
    (Fault.error (.TerminalRecordMismatch task_id state.status actual_outcome))

/-- The checks on the current lease of one task of a snapshot. -/
def restore_lease (k : ExecutionLifecycleKernel) (task_id : TaskId) (task : Task)
    (attempts : ℕ) (lease : TaskLease) : Except (Fault ExecutionLifecycleRestoreError) Unit := do
  reject_if (lease.contract_version ≠ GOAL_RUNTIME_CONTRACT_VERSION)
    (Fault.error (.InvalidLeaseContract task_id lease.contract_version))
  reject_if (lease.run_id ≠ k.run_id) (Fault.error (.LeaseRunMismatch task_id lease.run_id))
  reject_if (lease.task_id ≠ task_id) (Fault.error (.LeaseTaskMismatch task_id lease.task_id))
  reject_if (lease.worker_role ≠ task.assigned_role)
    (Fault.error (.LeaseRoleMismatch task_id task.assigned_role lease.worker_role))
  reject_if (lease.write_keys ≠ write_key_set task)
    (Fault.error (.LeaseWriteKeysMismatch task_id (write_key_set task) lease.write_keys))
  reject_if (lease.attempt = 0 ∨ lease.attempt ≠ attempts)
    (Fault.error (.LeaseAttemptMismatch task_id attempts lease.attempt))
  reject_if (lease.max_attempts ≠ k.retry_budget.max_attempts)
    (Fault.error (.LeaseMaxAttemptsMismatch task_id k.retry_budget.max_attempts lease.max_attempts))
  reject_if (lease.claimed_at > lease.heartbeat_at ∨ lease.heartbeat_at ≥ lease.expires_at)
    (Fault.error (.InvalidLeaseTimestamps task_id))

/-- One round of the loop that collects the owners a lease accounts for. -/
def insert_owner (task_id : TaskId) (lease : TaskLease) (owners : BTreeMap String WriteKeyOwner)
    (write_key : String) :
    Except (Fault ExecutionLifecycleRestoreError) (BTreeMap String WriteKeyOwner) :=
  match owners[write_key]? with
  | some first => .error (Fault.error (.DuplicateWriteKeyOwner write_key first.task_id task_id))
  | none => .ok (owners.insert write_key (owner_of task_id lease))

/-- The checks on the terminal record of one task of a snapshot. -/
def restore_terminal (k : ExecutionLifecycleKernel) (task_id : TaskId) (attempts : ℕ)
    (record : TaskTerminalRecord) : Except (Fault ExecutionLifecycleRestoreError) Unit := do
  reject_if (attempts = 0) (Fault.error (.TerminalWithoutAttempt task_id))
  reject_if (record.contract_version ≠ GOAL_RUNTIME_CONTRACT_VERSION)
    (Fault.error (.InvalidTerminalContract task_id record.contract_version))
  reject_if (record.run_id ≠ k.run_id) (Fault.error (.TerminalRunMismatch task_id record.run_id))
  reject_if (record.task_id ≠ task_id) (Fault.error (.TerminalTaskMismatch task_id record.task_id))

/-- The checks on the current lease of a task, if it has one, and its entry in
the owner map. -/
def restore_current_lease (k : ExecutionLifecycleKernel) (task_id : TaskId) (task : Task)
    (state : TaskExecutionSnapshot) (owners : BTreeMap String WriteKeyOwner) :
    Except (Fault ExecutionLifecycleRestoreError) (BTreeMap String WriteKeyOwner) :=
  match state.current_lease with
  | none => .ok owners
  | some lease => do
    restore_lease k task_id task state.attempts lease
    fold_checked (insert_owner task_id lease) owners lease.write_keys.toList

/-- One round of the loop over the tasks of a snapshot. -/
def restore_task (k : ExecutionLifecycleKernel) (owners : BTreeMap String WriteKeyOwner)
    (p : TaskId × TaskExecutionSnapshot) :
    Except (Fault ExecutionLifecycleRestoreError) (BTreeMap String WriteKeyOwner) := do
  restore_status k.retry_budget.max_attempts p.1 p.2
  let task ← expect k.tasks[p.1]? "no entry found for key"
  let owners ← restore_current_lease k p.1 task p.2 owners
  check_some p.2.terminal_record (restore_terminal k p.1 p.2.attempts)
  pure owners

/-- The key set of a map. -/
def key_set {ν : Type} (m : BTreeMap TaskId ν) : BTreeSet TaskId := .ofList m.keys

end ExecutionLifecycle

namespace ExecutionLifecycleKernel

open ExecutionLifecycle

def restore (run_id : RunId) (tasks : List Task) (retry_budget : RetryBudget)
    (snapshot : ExecutionLifecycleSnapshot) :
    Except (Fault ExecutionLifecycleRestoreError) ExecutionLifecycleKernel := do
  let kernel ← lift ((new run_id tasks retry_budget).mapError .InvalidDefinition)
  reject_if (snapshot.run_id ≠ run_id) (Fault.error (.RunIdMismatch run_id snapshot.run_id))
  reject_if (snapshot.goal_id ≠ kernel.goal_id)
    (Fault.error (.GoalIdMismatch kernel.goal_id snapshot.goal_id))
  reject_if (snapshot.max_attempts ≠ retry_budget.max_attempts)
    (Fault.error (.MaxAttemptsMismatch retry_budget.max_attempts snapshot.max_attempts))
  reject_if (key_set snapshot.tasks ≠ key_set kernel.tasks)
    (Fault.error (.TaskSetMismatch (key_set kernel.tasks) (key_set snapshot.tasks)))
  let expected_owners ← fold_checked (restore_task kernel) ∅ snapshot.tasks.toList
  reject_if (snapshot.write_key_owners ≠ expected_owners)
    (Fault.error (.WriteKeyOwnersMismatch expected_owners snapshot.write_key_owners))
  pure { kernel with state := snapshot.tasks, write_key_owners := snapshot.write_key_owners }

/-! ## The operations -/

/-- The first half of a claim: is the task free at this time? -/
def check_claimable (current : TaskExecutionSnapshot) (request : ClaimRequest) :
    Except (Fault ExecutionLifecycleError) Unit :=
  match current.status, current.current_lease with
  | .Pending, _ | .Ready, _ => .ok ()
  | .Running, some lease =>
    reject_if (lease.expires_at > request.now)
      (Fault.error (.ActiveTaskLease request.task_id lease.lease_id))
  | status, _ => .error (Fault.error (.TaskNotClaimable request.task_id status))

/-- The second: are its dependencies done? -/
def check_dependency (k : ExecutionLifecycleKernel) (task_id dependency_id : TaskId) :
    Except (Fault ExecutionLifecycleError) Unit := do
  let dependency ← expect k.state[dependency_id]? "no entry found for key"
  reject_if (dependency.status ≠ .Completed)
    (Fault.error (.DependencyIncomplete task_id dependency_id dependency.status))

/-- The third: is one of its write keys held by another task at this time? -/
def check_write_key (k : ExecutionLifecycleKernel) (request : ClaimRequest) (write_key : String) :
    Except (Fault ExecutionLifecycleError) Unit :=
  match k.write_key_owners[write_key]? with
  | none => .ok ()
  | some owner =>
    reject_if (owner.expires_at > request.now ∧ owner.task_id ≠ request.task_id)
      (Fault.error (.WriteKeyConflict write_key owner.task_id))

/-- The lease a claim grants. -/
def claimed_lease (k : ExecutionLifecycleKernel) (request : ClaimRequest) (task : Task)
    (attempt : ℕ) : TaskLease where
  contract_version := GOAL_RUNTIME_CONTRACT_VERSION
  run_id := k.run_id
  task_id := request.task_id
  worker_id := request.worker_id
  worker_role := request.worker_role
  lease_id := request.lease_id
  write_keys := write_key_set task
  attempt := attempt
  max_attempts := k.retry_budget.max_attempts
  claimed_at := request.now
  heartbeat_at := request.now
  expires_at := request.expires_at

/-- The owner map after a claim: what has expired is dropped, whoever held it,
and the keys of the new lease are entered. -/
def claimed_owners (owners : BTreeMap String WriteKeyOwner) (now : DateTime) (lease : TaskLease) :
    BTreeMap String WriteKeyOwner :=
  lease.write_keys.toList.foldl
    (fun owners write_key => owners.insert write_key (owner_of lease.task_id lease))
    (owners.filter fun _ owner => owner.expires_at > now)

def apply_claim (k : ExecutionLifecycleKernel) (request : ClaimRequest) :
    Except (Fault ExecutionLifecycleError) (TaskLease × ExecutionLifecycleKernel) := do
  let task ← ok_or k.tasks[request.task_id]? (Fault.error (.UnknownTask request.task_id))
  lift (validate_role request.task_id task.assigned_role request.worker_role)
  reject_if (request.expires_at ≤ request.now) (Fault.error (.InvalidLeaseExpiry request.task_id))
  let current ← expect k.state[request.task_id]? "no entry found for key"
  check_claimable current request
  check_all task.dependencies (check_dependency k request.task_id)
  let attempt ← add_or_panic U32_MAX current.attempts 1
  reject_if (attempt > k.retry_budget.max_attempts)
    (Fault.error (.RetryExhausted request.task_id k.retry_budget.max_attempts))
  check_all (write_key_set task).toList (check_write_key k request)
  let lease := claimed_lease k request task attempt
  let state : TaskExecutionSnapshot :=
    { status := .Running
      attempts := attempt
      current_lease := some lease
      terminal_record := none
      last_failure_reason := current.last_failure_reason }
  pure (lease,
    { k with
      state := k.state.insert request.task_id state
      write_key_owners := claimed_owners k.write_key_owners request.now lease })

/-- One round of the loop that extends the owner entries of a lease. -/
def extend_owner (expires_at : DateTime) (owners : BTreeMap String WriteKeyOwner)
    (write_key : String) :
    Except (Fault ExecutionLifecycleError) (BTreeMap String WriteKeyOwner) := do
  let owner ← expect owners[write_key]? "lease owns write key"
  pure (owners.insert write_key { owner with expires_at := expires_at })

def apply_heartbeat (k : ExecutionLifecycleKernel) (request : HeartbeatRequest) :
    Except (Fault ExecutionLifecycleError) (TaskLease × ExecutionLifecycleKernel) := do
  let task ← ok_or k.tasks[request.task_id]? (Fault.error (.UnknownTask request.task_id))
  lift (validate_role request.task_id task.assigned_role request.worker_role)
  let state ← expect k.state[request.task_id]? "task state exists"
  let lease ← ok_or state.current_lease (Fault.error (.NoCurrentLease request.task_id))
  reject_if (lease.worker_id ≠ request.worker_id) (Fault.error (.WorkerMismatch request.task_id))
  reject_if (lease.lease_id ≠ request.lease_id) (Fault.error (.LeaseMismatch request.task_id))
  reject_if (request.now ≥ lease.expires_at) (Fault.error (.StaleHeartbeat request.task_id))
  reject_if (request.expires_at ≤ lease.expires_at)
    (Fault.error (.NonExtendingHeartbeat request.task_id))
  let lease := { lease with heartbeat_at := request.now, expires_at := request.expires_at }
  let owners ←
    fold_checked (extend_owner request.expires_at) k.write_key_owners lease.write_keys.toList
  pure (lease,
    { k with
      state := k.state.insert request.task_id { state with current_lease := some lease }
      write_key_owners := owners })

def require_active_owner (k : ExecutionLifecycleKernel) (task_id : TaskId) (worker_id : WorkerId)
    (worker_role : Role) (lease_id : LeaseId) (now : DateTime) :
    Except (Fault ExecutionLifecycleError) TaskLease := do
  let task ← ok_or k.tasks[task_id]? (Fault.error (.UnknownTask task_id))
  lift (validate_role task_id task.assigned_role worker_role)
  let state ← expect k.state[task_id]? "no entry found for key"
  reject_if (state.status ≠ .Running) (Fault.error (.TaskNotClaimable task_id state.status))
  let lease ← ok_or state.current_lease (Fault.error (.NoCurrentLease task_id))
  reject_if (lease.worker_role ≠ worker_role)
    (Fault.error (.RoleMismatch task_id lease.worker_role worker_role))
  reject_if (lease.worker_id ≠ worker_id) (Fault.error (.WorkerMismatch task_id))
  reject_if (lease.lease_id ≠ lease_id) (Fault.error (.LeaseMismatch task_id))
  reject_if (lease.expires_at ≤ now) (Fault.error (.LeaseExpired task_id))
  pure lease

/-- The owner map without the entries of one lease of one task. -/
def released_owners (owners : BTreeMap String WriteKeyOwner) (task_id : TaskId)
    (lease : TaskLease) : BTreeMap String WriteKeyOwner :=
  owners.filter fun write_key owner =>
    !lease.write_keys.contains write_key || owner.task_id != task_id
      || owner.lease_id != lease.lease_id

/-- Takes the current lease of a task, and the owner entries that are its. -/
def release_current_lease (k : ExecutionLifecycleKernel) (task_id : TaskId) :
    ExecutionLifecycleKernel :=
  match k.state[task_id]? with
  | none => k
  | some state =>
    match state.current_lease with
    | none => k
    | some lease =>
      { k with
        state := k.state.insert task_id { state with current_lease := none }
        write_key_owners := released_owners k.write_key_owners task_id lease }

def terminal_status (outcome : TaskTerminalOutcome) : TaskStatus :=
  match outcome with
  | .Completed => .Completed
  | .Cancelled => .Cancelled

def apply_terminal (k : ExecutionLifecycleKernel) (task_id : TaskId) (worker_id : WorkerId)
    (worker_role : Role) (lease_id : LeaseId) (idempotency_key : IdempotencyKey)
    (occurred_at : DateTime) (outcome : TaskTerminalOutcome) (reason : Option String) :
    Except (Fault ExecutionLifecycleError) (TaskTerminalRecord × ExecutionLifecycleKernel) := do
  let task ← ok_or k.tasks[task_id]? (Fault.error (.UnknownTask task_id))
  lift (validate_role task_id task.assigned_role worker_role)
  let state ← expect k.state[task_id]? "no entry found for key"
  match state.terminal_record with
  | some existing =>
    -- a repeat of the recorded outcome answers with the record, anything else conflicts
    if existing.idempotency_key = idempotency_key ∧ existing.outcome = outcome then
      reject_if (existing.worker_id ≠ worker_id ∨ existing.lease_id ≠ lease_id)
        (Fault.error (.TerminalRetryIdentityMismatch task_id))
      pure (existing, k)
    else
      .error (Fault.error (.IdempotencyKeyConflict task_id existing.idempotency_key idempotency_key))
  | none =>
    reject_if (state.status = .Completed ∨ state.status = .Failed ∨ state.status = .Cancelled)
      (Fault.error (.TaskNotClaimable task_id state.status))
    let _ ← require_active_owner k task_id worker_id worker_role lease_id occurred_at
    let record : TaskTerminalRecord :=
      { contract_version := GOAL_RUNTIME_CONTRACT_VERSION
        run_id := k.run_id
        task_id
        worker_id
        lease_id
        idempotency_key
        outcome
        occurred_at
        reason }
    let released := release_current_lease k task_id
    let state ← expect released.state[task_id]? "task state exists"
    pure (record,
      { released with
        state := released.state.insert task_id
          { state with status := terminal_status outcome, terminal_record := some record } })

def apply_completion (k : ExecutionLifecycleKernel) (request : CompletionRequest) :
    Except (Fault ExecutionLifecycleError) (TaskTerminalRecord × ExecutionLifecycleKernel) :=
  apply_terminal k request.task_id request.worker_id request.worker_role request.lease_id
    request.idempotency_key request.occurred_at .Completed none

def apply_cancellation (k : ExecutionLifecycleKernel) (request : CancellationRequest) :
    Except (Fault ExecutionLifecycleError) (TaskTerminalRecord × ExecutionLifecycleKernel) :=
  apply_terminal k request.task_id request.worker_id request.worker_role request.lease_id
    request.idempotency_key request.occurred_at .Cancelled request.reason

def failed_status (attempts max_attempts : ℕ) : TaskStatus :=
  if attempts ≥ max_attempts then .Failed else .Ready

def apply_failure (k : ExecutionLifecycleKernel) (request : FailureRequest) :
    Except (Fault ExecutionLifecycleError) (TaskStatus × ExecutionLifecycleKernel) := do
  let _ ← require_active_owner k request.task_id request.worker_id request.worker_role
    request.lease_id request.now
  let released := release_current_lease k request.task_id
  let state ← expect released.state[request.task_id]? "task state exists"
  let status := failed_status state.attempts k.retry_budget.max_attempts
  pure (status,
    { released with
      state := released.state.insert request.task_id
        { state with last_failure_reason := some request.reason, status } })

end ExecutionLifecycleKernel

/-! ## Requests and runs -/

inductive ExecutionRequest where
  | claim (request : ClaimRequest)
  | heartbeat (request : HeartbeatRequest)
  | complete (request : CompletionRequest)
  | cancel (request : CancellationRequest)
  | fail (request : FailureRequest)
  deriving DecidableEq, Repr

inductive ExecutionResponse where
  | lease (lease : TaskLease)
  | terminal (record : TaskTerminalRecord)
  | status (status : TaskStatus)
  deriving DecidableEq, Repr

/-- The time a request carries (`now` or `occurred_at`). -/
def ExecutionRequest.time : ExecutionRequest → DateTime
  | .claim request => request.now
  | .heartbeat request => request.now
  | .complete request => request.occurred_at
  | .cancel request => request.occurred_at
  | .fail request => request.now

namespace ExecutionLifecycleKernel

/-- One request: the answer and the next kernel, or the fault. -/
def step (k : ExecutionLifecycleKernel) (request : ExecutionRequest) :
    Except (Fault ExecutionLifecycleError) (ExecutionResponse × ExecutionLifecycleKernel) :=
  match request with
  | .claim request => (apply_claim k request).map fun p => (.lease p.1, p.2)
  | .heartbeat request => (apply_heartbeat k request).map fun p => (.lease p.1, p.2)
  | .complete request => (apply_completion k request).map fun p => (.terminal p.1, p.2)
  | .cancel request => (apply_cancellation k request).map fun p => (.terminal p.1, p.2)
  | .fail request => (apply_failure k request).map fun p => (.status p.1, p.2)

/-- The kernel after a request: a rejected one leaves it as it was. -/
def exec (k : ExecutionLifecycleKernel) (request : ExecutionRequest) : ExecutionLifecycleKernel :=
  match step k request with
  | .ok (_, next) => next
  | .error _ => k

/-- The kernel after a sequence of requests. -/
def execAll (k : ExecutionLifecycleKernel) (requests : List ExecutionRequest) :
    ExecutionLifecycleKernel :=
  requests.foldl exec k

end ExecutionLifecycleKernel

end OvcaCore

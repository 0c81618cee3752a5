/-
The accounts of a run of the lifecycle kernel: attempts and terminal records.

Nothing here depends on the times of the requests. The attempts of a task count its claims;
its terminal record is made once, and freezes its state. A completion or cancellation is
answered from the record when it repeats the one that made it, in the role of the task: the
role is checked first, so a repeat in another role is an error (`repeat_in_other_role`).
-/
import OvcaCore.ExecutionRestore

set_option autoImplicit false

namespace OvcaCore

open OvcaCore.Checks OvcaCore.OrderedMaps OvcaCore.ExecutionLifecycle

/-! ## Requests -/

def ExecutionRequest.is_claim_of (task_id : TaskId) : ExecutionRequest → Bool
  | .claim request => request.task_id == task_id
  | _ => false

/-- What a completion and a cancellation have in common. -/
structure TerminalRequest where
  task_id : TaskId
  worker_id : WorkerId
  worker_role : Role
  lease_id : LeaseId
  idempotency_key : IdempotencyKey
  outcome : TaskTerminalOutcome
  deriving DecidableEq, Repr

def ExecutionRequest.terminal? : ExecutionRequest → Option TerminalRequest
  | .complete request => some ⟨request.task_id, request.worker_id, request.worker_role,
      request.lease_id, request.idempotency_key, .Completed⟩
  | .cancel request => some ⟨request.task_id, request.worker_id, request.worker_role,
      request.lease_id, request.idempotency_key, .Cancelled⟩
  | _ => none

/-- The request has the key, the outcome, the worker and the lease of the record. -/
structure Repeats (record : TaskTerminalRecord) (request : TerminalRequest) : Prop where
  idempotency_key : record.idempotency_key = request.idempotency_key
  outcome : record.outcome = request.outcome
  worker_id : record.worker_id = request.worker_id
  lease_id : record.lease_id = request.lease_id

namespace ExecutionLifecycleKernel

/-- The claims of a task that succeed in a run. -/
def successful_claims (task_id : TaskId) :
    ExecutionLifecycleKernel → List ExecutionRequest → ℕ
  | _, [] => 0
  | k, request :: requests =>
    (if request.is_claim_of task_id && (step k request).isOk then 1 else 0)
      + successful_claims task_id (exec k request) requests

/-- The accessor `terminal_record`. -/
def terminal_record (k : ExecutionLifecycleKernel) (task_id : TaskId) :
    Option TaskTerminalRecord :=
  k.state[task_id]?.bind fun st => st.terminal_record

/-- The steps of a run that give a task a terminal record. -/
def records_created (task_id : TaskId) : ExecutionLifecycleKernel → List ExecutionRequest → ℕ
  | _, [] => 0
  | k, request :: requests =>
    (if (k.terminal_record task_id).isNone && ((exec k request).terminal_record task_id).isSome
      then 1 else 0)
      + records_created task_id (exec k request) requests

/-! ## One request, seen from one task -/

variable {k k' : ExecutionLifecycleKernel} {request : ExecutionRequest}
  {requests : List ExecutionRequest} {task_id : TaskId} {st : TaskExecutionSnapshot}

/-- The part of the state of a task that no clock can spoil. -/
structure Steady (k : ExecutionLifecycleKernel) (st : TaskExecutionSnapshot) : Prop where
  attempts : st.attempts ≤ k.retry_budget.max_attempts
  running : st.status = .Running ↔ st.current_lease.isSome = true
  terminal : st.terminal_record.map TaskTerminalRecord.outcome = expected_outcome st.status

/-- How one request changes the state of a task. -/
inductive TaskChange (k : ExecutionLifecycleKernel) (task_id : TaskId)
    (st : TaskExecutionSnapshot) : TaskExecutionSnapshot → Prop
  | claimed (lease : TaskLease)
      (hclaimable : st.status = .Pending ∨ st.status = .Ready ∨ st.status = .Running)
      (hbudget : st.attempts + 1 ≤ k.retry_budget.max_attempts) :
      TaskChange k task_id st
        { status := .Running
          attempts := st.attempts + 1
          current_lease := some lease
          terminal_record := none
          last_failure_reason := st.last_failure_reason }
  | extended (lease : TaskLease) (hlease : st.current_lease.isSome = true) :
      TaskChange k task_id st { st with current_lease := some lease }
  | closed (next : TaskExecutionSnapshot) (hrunning : st.status = .Running)
      (hnext : Closing k task_id st next) : TaskChange k task_id st next

/-- A task is left as it is, or changed in one of three ways. -/
theorem effect_task (h : Effect k request k') (hst : k.state[task_id]? = some st) :
    k'.state[task_id]? = some st
      ∨ ∃ st', k'.state[task_id]? = some st' ∧ TaskChange k task_id st st' := by
  cases h with
  | grant request task current h =>
    by_cases hid : request.task_id = task_id
    · subst hid
      rw [h.state_eq, Option.some_inj] at hst
      subst hst
      refine Or.inr ⟨_, Std.ExtTreeMap.getElem?_insert_self, .claimed _ ?_ h.budget⟩
      rcases h.claimable with hs | hs | ⟨hs, -⟩
      · exact Or.inl hs
      · exact Or.inr (Or.inl hs)
      · exact Or.inr (Or.inr hs)
    · exact Or.inl ((get_insert_of_ne _ _ hid).trans hst)
  | extend request state lease owners h =>
    by_cases hid : request.task_id = task_id
    · subst hid
      rw [h.state_eq, Option.some_inj] at hst
      subst hst
      refine Or.inr ⟨_, Std.ExtTreeMap.getElem?_insert_self, .extended _ ?_⟩
      rw [h.lease_eq]
      rfl
    · exact Or.inl ((get_insert_of_ne _ _ hid).trans hst)
  | close request closed_id state next lease h hrunning hnext =>
    by_cases hid : closed_id = task_id
    · subst hid
      rw [h.state_eq, Option.some_inj] at hst
      subst hst
      exact Or.inr ⟨_, Std.ExtTreeMap.getElem?_insert_self, .closed _ hrunning hnext⟩
    · exact Or.inl ((get_insert_of_ne _ _ hid).trans hst)
  | same => exact Or.inl hst

theorem Steady.change {st' : TaskExecutionSnapshot} (h : Steady k st)
    (hchange : TaskChange k task_id st st') : Steady k st' := by
  cases hchange with
  | claimed lease hclaimable hbudget => exact ⟨hbudget, by simp, rfl⟩
  | extended lease hlease =>
    refine ⟨h.attempts, ?_, h.terminal⟩
    rw [h.running]
    simp only [hlease, Option.isSome_some]
  | closed next hrunning hnext =>
    cases hnext with
    | terminal record =>
      refine ⟨h.attempts, ?_, ?_⟩
      · cases record.outcome <;> simp [terminal_status]
      · cases hout : record.outcome <;> simp [terminal_status, expected_outcome, hout]
    | failure reason =>
      have hnone := h.terminal
      rw [hrunning] at hnone
      refine ⟨h.attempts, ?_, ?_⟩
      · unfold failed_status
        by_cases hlast : st.attempts ≥ k.retry_budget.max_attempts <;> simp [hlast]
      · unfold failed_status
        dsimp only
        by_cases hlast : st.attempts ≥ k.retry_budget.max_attempts
        · rw [if_pos hlast]
          exact hnone
        · rw [if_neg hlast]
          exact hnone

/-- A record freezes the state of its task. -/
theorem Steady.frozen {st' : TaskExecutionSnapshot} (h : Steady k st)
    (hrecord : st.terminal_record.isSome = true) : ¬ TaskChange k task_id st st' := by
  obtain ⟨record, hrecord⟩ := Option.isSome_iff_exists.mp hrecord
  have hterminal := h.terminal
  rw [hrecord, Option.map_some] at hterminal
  have hstatus : st.status = .Completed ∨ st.status = .Cancelled := by
    cases hs : st.status <;> rw [hs] at hterminal <;> simp [expected_outcome] at hterminal ⊢
  have hnot_running : st.status ≠ .Running := by
    rcases hstatus with hs | hs <;> rw [hs] <;> exact TaskStatus.noConfusion
  intro hchange
  cases hchange with
  | claimed lease hclaimable =>
    rcases hstatus with hs | hs <;> rw [hs] at hclaimable <;> simp at hclaimable
  | extended lease hlease => exact hnot_running (h.running.mpr hlease)
  | closed next hrunning => exact hnot_running hrunning

/-! ## Runs -/

/-- The invariant: every task of the definition has a steady state. -/
structure Accounted (k₀ k : ExecutionLifecycleKernel) : Prop where
  definition : SameDefinition k₀ k
  steady : ∀ (task_id : TaskId) (st : TaskExecutionSnapshot), k.state[task_id]? = some st →
    Steady k st
  complete : ∀ task_id : TaskId, task_id ∈ k.state ↔ task_id ∈ k.tasks

theorem effect_ids (h : Effect k request k') : (∀ id, id ∈ k'.state ↔ id ∈ k.state) := by
  have hinsert : ∀ {id : TaskId} {st st' : TaskExecutionSnapshot}, k.state[id]? = some st →
      ∀ id', id' ∈ k.state.insert id st' ↔ id' ∈ k.state := by
    intro id st st' hst id'
    rw [Std.ExtTreeMap.mem_insert, Std.LawfulEqCmp.compare_eq_iff_eq]
    refine or_iff_right_of_imp ?_
    rintro rfl
    exact mem_iff_get.mpr ⟨st, hst⟩
  cases h with
  | grant request task current h => exact hinsert h.state_eq
  | extend request state lease owners h => exact hinsert h.state_eq
  | close request task_id state next lease h => exact hinsert h.state_eq
  | same => exact fun _ => Iff.rfl

theorem Accounted.effect {k₀ : ExecutionLifecycleKernel} (h : Accounted k₀ k)
    (heffect : Effect k request k') : Accounted k₀ k' := by
  have hdefinition := h.definition.effect heffect
  have hbudget : k'.retry_budget = k.retry_budget :=
    hdefinition.retry_budget.trans h.definition.retry_budget.symm
  refine ⟨hdefinition, ?_, ?_⟩
  · intro task_id st' hst'
    obtain ⟨st, hst⟩ := mem_iff_get.mp
      ((effect_ids heffect task_id).mp (mem_iff_get.mpr ⟨st', hst'⟩))
    have hsteady : Steady k st' := by
      rcases effect_task heffect hst with hsame | ⟨next, hnext, hchange⟩
      · rw [hsame, Option.some_inj] at hst'
        rw [← hst']
        exact h.steady task_id st hst
      · rw [hnext, Option.some_inj] at hst'
        rw [← hst']
        exact (h.steady task_id st hst).change hchange
    refine ⟨?_, hsteady.running, hsteady.terminal⟩
    rw [hbudget]
    exact hsteady.attempts
  · intro task_id
    rw [effect_ids heffect, h.complete, hdefinition.tasks, h.definition.tasks]

theorem execAll_cons (k : ExecutionLifecycleKernel) (request : ExecutionRequest)
    (requests : List ExecutionRequest) :
    execAll k (request :: requests) = execAll (exec k request) requests := rfl

theorem Accounted.run {k₀ : ExecutionLifecycleKernel} (h : Accounted k₀ k) :
    Accounted k₀ (execAll k requests) := by
  induction requests generalizing k with
  | nil => exact h
  | cons request requests ih =>
    rw [execAll_cons]
    exact ih (h.effect (exec_effect k request))

theorem new_accounted {run_id : RunId} {tasks : List Task} {retry_budget : RetryBudget}
    (hnew : new run_id tasks retry_budget = .ok k) : Accounted k k := by
  have hsound := new_sound hnew 0
  refine ⟨⟨rfl, rfl, rfl, rfl⟩, ?_, hsound.ids⟩
  intro task_id st hst
  obtain ⟨hbudget, -, -, -, hrunning, hterminal⟩ :=
    restore_status_eq_ok.mp (hsound.admitted task_id st hst).status
  refine ⟨hbudget, ?_, hterminal⟩
  rw [← hrunning, decide_eq_true_iff]

/-! ## Terminal records -/

/-- **A terminal record freezes its task.** -/
theorem run_frozen {k₀ : ExecutionLifecycleKernel} (h : Accounted k₀ k)
    (hst : k.state[task_id]? = some st) (hrecord : st.terminal_record.isSome = true) :
    (execAll k requests).state[task_id]? = some st := by
  induction requests generalizing k with
  | nil => exact hst
  | cons request requests ih =>
    rw [execAll_cons]
    have heffect := exec_effect k request
    rcases effect_task heffect hst with hsame | ⟨next, -, hchange⟩
    · exact ih (h.effect heffect) hsame
    · exact absurd hchange ((h.steady task_id st hst).frozen hrecord)

theorem terminal_record_eq_some {record : TaskTerminalRecord} :
    k.terminal_record task_id = some record ↔
      ∃ st, k.state[task_id]? = some st ∧ st.terminal_record = some record := by
  rw [terminal_record, Option.bind_eq_some_iff]

/-- After the record there is no other one. -/
theorem records_created_of_recorded {k₀ : ExecutionLifecycleKernel} (h : Accounted k₀ k)
    (hrecord : (k.terminal_record task_id).isSome = true) :
    records_created task_id k requests = 0 := by
  induction requests generalizing k with
  | nil => rfl
  | cons request requests ih =>
    obtain ⟨record, hsome⟩ := Option.isSome_iff_exists.mp hrecord
    obtain ⟨st, hst, hst_record⟩ := terminal_record_eq_some.mp hsome
    have hnext : (exec k request).state[task_id]? = some st := by
      have hfrozen : (execAll k [request]).state[task_id]? = some st := by
        apply run_frozen h hst
        rw [hst_record]
        rfl
      exact hfrozen
    have hrecorded : ((exec k request).terminal_record task_id).isSome = true := by
      rw [terminal_record_eq_some.mpr ⟨st, hnext, hst_record⟩]
      rfl
    unfold records_created
    rw [ih (h.effect (exec_effect k request)) hrecorded, hsome]
    rfl

theorem records_created_le {k₀ : ExecutionLifecycleKernel} (h : Accounted k₀ k) :
    records_created task_id k requests ≤ 1 := by
  induction requests generalizing k with
  | nil => exact Nat.zero_le 1
  | cons request requests ih =>
    have hnext := h.effect (exec_effect k request)
    unfold records_created
    by_cases hcreated : ((k.terminal_record task_id).isNone
        && ((exec k request).terminal_record task_id).isSome) = true
    · rw [if_pos hcreated, records_created_of_recorded hnext (Bool.and_eq_true_iff.mp hcreated).2]
    · rw [if_neg hcreated, Nat.zero_add]
      exact ih hnext

/-! ## Attempts -/

/-- A claim that succeeds has its grant. -/
theorem claim_granted {claim : ClaimRequest}
    (hok : (step k (.claim claim)).isOk = true) :
    ∃ task current, Grant k claim task current
      ∧ exec k (.claim claim) = granted k claim task current := by
  unfold exec
  cases hstep : step k (.claim claim) with
  | error e =>
    rw [hstep] at hok
    exact nomatch hok
  | ok result =>
    obtain ⟨response, next⟩ := result
    unfold step at hstep
    obtain ⟨⟨lease, k₁⟩, hclaim, hsame⟩ := map_eq_ok.mp hstep
    obtain ⟨task, current, hgrant, -, rfl⟩ := apply_claim_eq_ok.mp hclaim
    rw [Prod.mk.injEq] at hsame
    exact ⟨task, current, hgrant, hsame.2.symm⟩

/-- An entry that is replaced by one with its attempts leaves the attempts of every task. -/
theorem attempts_insert {state : BTreeMap TaskId TaskExecutionSnapshot} {id : TaskId}
    {old next : TaskExecutionSnapshot} (hold : state[id]? = some old)
    (hattempts : next.attempts = old.attempts) (hst : state[task_id]? = some st) :
    ∃ found, (state.insert id next)[task_id]? = some found ∧ found.attempts = st.attempts := by
  by_cases hid : id = task_id
  · subst hid
    rw [hold, Option.some_inj] at hst
    rw [hst] at hattempts
    exact ⟨next, Std.ExtTreeMap.getElem?_insert_self, hattempts⟩
  · exact ⟨st, (get_insert_of_ne state next hid).trans hst, rfl⟩

/-- The attempts of a task go up by one with its claims, and with nothing else. -/
theorem attempts_step (hst : k.state[task_id]? = some st) :
    ∃ next, (exec k request).state[task_id]? = some next
      ∧ next.attempts = st.attempts
        + (if request.is_claim_of task_id && (step k request).isOk then 1 else 0) := by
  by_cases hclaim : (request.is_claim_of task_id && (step k request).isOk) = true
  · rw [if_pos hclaim]
    obtain ⟨hof, hok⟩ := Bool.and_eq_true_iff.mp hclaim
    cases request with
    | claim claim =>
      obtain ⟨task, current, hgrant, hexec⟩ := claim_granted hok
      have hid : claim.task_id = task_id := by
        simpa [ExecutionRequest.is_claim_of] using hof
      subst hid
      rw [hgrant.state_eq, Option.some_inj] at hst
      subst hst
      rw [hexec]
      exact ⟨_, Std.ExtTreeMap.getElem?_insert_self, rfl⟩
    | _ => exact nomatch hof
  · rw [if_neg hclaim, Nat.add_zero]
    by_cases hof : request.is_claim_of task_id = true
    · -- a claim of the task that fails
      have hfail : ¬ (step k request).isOk = true := fun hok =>
        hclaim (Bool.and_eq_true_iff.mpr ⟨hof, hok⟩)
      refine ⟨st, ?_, rfl⟩
      unfold exec
      cases hstep : step k request with
      | error e => exact hst
      | ok result =>
        rw [hstep] at hfail
        exact absurd rfl hfail
    · -- a request that is no claim of the task leaves its attempts
      have heffect := exec_effect k request
      generalize exec k request = k' at heffect
      cases heffect with
      | grant claim task current h =>
        have hne : claim.task_id ≠ task_id := by
          simpa [ExecutionRequest.is_claim_of] using hof
        exact ⟨st, (get_insert_of_ne k.state _ hne).trans hst, rfl⟩
      | extend request state lease owners h => exact attempts_insert h.state_eq rfl hst
      | close request closed_id state closed lease h hrunning hclosing =>
        refine attempts_insert h.state_eq ?_ hst
        cases hclosing with
        | terminal => rfl
        | failure => rfl
      | same => exact ⟨st, hst, rfl⟩

/-- **Attempts are claims.** -/
theorem attempts_run (hst : k.state[task_id]? = some st) :
    ∃ next, (execAll k requests).state[task_id]? = some next
      ∧ next.attempts = st.attempts + successful_claims task_id k requests := by
  induction requests generalizing k st with
  | nil => exact ⟨st, hst, rfl⟩
  | cons request requests ih =>
    obtain ⟨middle, hmiddle, hattempts⟩ := @attempts_step k request task_id st hst
    obtain ⟨next, hnext, hnext_attempts⟩ := ih hmiddle
    rw [execAll_cons]
    refine ⟨next, hnext, ?_⟩
    unfold successful_claims
    omega

/-! ## Dependencies -/

/-- The dependencies of a task are completed. -/
def DependenciesCompleted (k : ExecutionLifecycleKernel) (task : Task) : Prop :=
  ∀ dependency_id ∈ task.dependencies, ∃ dependency,
    k.state[dependency_id]? = some dependency ∧ dependency.status = .Completed

theorem DependenciesCompleted.run {k₀ : ExecutionLifecycleKernel} {task : Task}
    (h : Accounted k₀ k) (hcompleted : DependenciesCompleted k task) :
    DependenciesCompleted (execAll k requests) task := by
  intro dependency_id hmem
  obtain ⟨dependency, hst, hstatus⟩ := hcompleted dependency_id hmem
  refine ⟨dependency, run_frozen h hst ?_, hstatus⟩
  have hterminal := (h.steady dependency_id dependency hst).terminal
  rw [hstatus, expected_outcome, Option.map_eq_some_iff] at hterminal
  obtain ⟨record, hrecord, -⟩ := hterminal
  rw [hrecord]
  rfl

/-- A task that was claimed had its dependencies completed, and they stay so. -/
theorem claimed_dependencies {k₀ : ExecutionLifecycleKernel} {task : Task} (h : Accounted k₀ k)
    (htask : k₀.tasks[task_id]? = some task)
    (hclaimed : 0 < successful_claims task_id k requests) :
    DependenciesCompleted (execAll k requests) task := by
  induction requests generalizing k with
  | nil => exact absurd hclaimed (Nat.lt_irrefl 0)
  | cons request requests ih =>
    rw [execAll_cons]
    have hnext := h.effect (exec_effect k request)
    unfold successful_claims at hclaimed
    by_cases hclaim : (request.is_claim_of task_id && (step k request).isOk) = true
    · obtain ⟨hof, hok⟩ := Bool.and_eq_true_iff.mp hclaim
      cases request with
      | claim claim =>
        obtain ⟨claimed_task, current, hgrant, -⟩ := claim_granted hok
        have hid : claim.task_id = task_id := by
          simpa [ExecutionRequest.is_claim_of] using hof
        have hsame := hgrant.task_eq
        rw [hid, h.definition.tasks, htask, Option.some_inj] at hsame
        subst hsame
        have hbefore : DependenciesCompleted k task := hgrant.dependencies
        have hafter : DependenciesCompleted (execAll k (.claim claim :: requests)) task :=
          hbefore.run h
        exact hafter
      | _ => exact nomatch hof
    · rw [if_neg hclaim, Nat.zero_add] at hclaimed
      exact ih hnext hclaimed

/-! ## Repeats -/

/-- A completion or cancellation, from what it has in common. -/
theorem step_terminal {terminal : TerminalRequest} (h : request.terminal? = some terminal) :
    ∃ occurred_at reason, step k request
      = (apply_terminal k terminal.task_id terminal.worker_id terminal.worker_role
        terminal.lease_id terminal.idempotency_key occurred_at terminal.outcome reason).map
        fun p => (.terminal p.1, p.2) := by
  cases request with
  | complete request =>
    obtain rfl := Option.some.inj h
    exact ⟨request.occurred_at, none, rfl⟩
  | cancel request =>
    obtain rfl := Option.some.inj h
    exact ⟨request.occurred_at, request.reason, rfl⟩
  | _ => exact nomatch h

/-- **A repeat is answered from the record, anything else is an error.** -/
theorem apply_terminal_recorded {task : Task} {record : TaskTerminalRecord}
    {terminal : TerminalRequest} {occurred_at : DateTime} {reason : Option String}
    (htask : k.tasks[terminal.task_id]? = some task) (hrole : task.assigned_role ≠ .Coordinator)
    (hst : k.state[terminal.task_id]? = some st) (hrecord : st.terminal_record = some record) :
    (Repeats record terminal ∧ terminal.worker_role = task.assigned_role →
      apply_terminal k terminal.task_id terminal.worker_id terminal.worker_role terminal.lease_id
        terminal.idempotency_key occurred_at terminal.outcome reason = .ok (record, k))
    ∧ (¬ (Repeats record terminal ∧ terminal.worker_role = task.assigned_role) →
      ∃ error, apply_terminal k terminal.task_id terminal.worker_id terminal.worker_role
        terminal.lease_id terminal.idempotency_key occurred_at terminal.outcome reason
        = .error (.error error)) := by
  unfold apply_terminal
  rw [htask, hst]
  simp only [ok_or, expect, ok_bind]
  by_cases hsame : terminal.worker_role = task.assigned_role
  · have hvalid : validate_role terminal.task_id task.assigned_role terminal.worker_role
        = .ok () := by
      rw [validate_role_eq_ok, hsame]
      exact ⟨hrole, rfl⟩
    rw [hvalid]
    simp only [lift, Except.mapError, ok_bind, hrecord]
    by_cases hkey : record.idempotency_key = terminal.idempotency_key
        ∧ record.outcome = terminal.outcome
    · rw [if_pos hkey]
      by_cases hidentity : record.worker_id ≠ terminal.worker_id
          ∨ record.lease_id ≠ terminal.lease_id
      · rw [reject_if_of hidentity]
        refine ⟨?_, fun _ => ⟨_, rfl⟩⟩
        rintro ⟨hrepeats, -⟩
        rcases hidentity with hworker | hlease
        · exact absurd hrepeats.worker_id hworker
        · exact absurd hrepeats.lease_id hlease
      · rw [reject_if_of_not hidentity]
        rw [not_or, not_not, not_not] at hidentity
        refine ⟨fun _ => rfl, ?_⟩
        intro hother
        exact absurd ⟨⟨hkey.1, hkey.2, hidentity.1, hidentity.2⟩, hsame⟩ hother
    · rw [if_neg hkey]
      refine ⟨?_, fun _ => ⟨_, rfl⟩⟩
      rintro ⟨hrepeats, -⟩
      exact absurd ⟨hrepeats.idempotency_key, hrepeats.outcome⟩ hkey
  · refine ⟨fun h => absurd h.2 hsame, fun _ => ?_⟩
    cases hvalid : validate_role terminal.task_id task.assigned_role terminal.worker_role with
    | ok u => exact absurd (validate_role_eq_ok.mp hvalid).2 hsame
    | error error => exact ⟨error, rfl⟩

/-! ## The result -/

/-- The terminal requests for a task with a record. -/
def AnswersFromRecord (k : ExecutionLifecycleKernel) (task : Task)
    (record : TaskTerminalRecord) : Prop :=
  ∀ request terminal, request.terminal? = some terminal → terminal.task_id = task.id →
    (Repeats record terminal ∧ terminal.worker_role = task.assigned_role →
      step k request = .ok (.terminal record, k))
    ∧ (¬ (Repeats record terminal ∧ terminal.worker_role = task.assigned_role) →
      ∃ error, step k request = .error (.error error))

/-- The accounts of a task after some requests, and after more of them. -/
structure TaskAccounts (k₀ : ExecutionLifecycleKernel) (task : Task)
    (earlier later : List ExecutionRequest) (st : TaskExecutionSnapshot) : Prop where
  state : (execAll k₀ earlier).state[task.id]? = some st
  attempts : st.attempts = successful_claims task.id k₀ earlier
  budget : st.attempts ≤ k₀.retry_budget.max_attempts
  one_record : records_created task.id k₀ earlier ≤ 1
  frozen : ∀ record, st.terminal_record = some record → st.current_lease = none
    ∧ (execAll k₀ (earlier ++ later)).state[task.id]? = some st
  answers : ∀ record, st.terminal_record = some record →
    AnswersFromRecord (execAll k₀ earlier) task record
  dependencies : 0 < successful_claims task.id k₀ earlier →
    DependenciesCompleted (execAll k₀ (earlier ++ later)) task

/-- **Attempt and terminal accounting.** The times of the requests are arbitrary. -/
theorem attempt_accounting {run_id : RunId} {tasks : List Task} {retry_budget : RetryBudget}
    {k : ExecutionLifecycleKernel} (hnew : new run_id tasks retry_budget = .ok k)
    (earlier later : List ExecutionRequest) (task : Task) (htask : task ∈ tasks) :
    ∃ st, TaskAccounts k task earlier later st := by
  have haccounted := new_accounted hnew
  have hrun : Accounted k (execAll k earlier) := haccounted.run
  obtain ⟨-, -, hnodup, hvalid, -, -, hkernel⟩ := new_eq_ok_iff.mp hnew
  have hget : k.tasks[task.id]? = some task := by
    rw [hkernel]
    exact (get_task_map hnodup).mpr ⟨htask, rfl⟩
  have hstart : k.state[task.id]? = some (initial_state task) := by
    rw [hkernel]
    refine get_map_eq_some.mpr ⟨task, ?_, rfl⟩
    exact (get_task_map hnodup).mpr ⟨htask, rfl⟩
  have hrole : task.assigned_role ≠ .Coordinator := by
    have hmem := Std.ExtTreeMap.mem_toList_iff_getElem?_eq_some.mpr
      ((get_task_map hnodup).mpr ⟨htask, rfl⟩)
    exact (validate_task_eq_ok.mp (hvalid (task.id, task) hmem)).2.1
  obtain ⟨st, hst, hattempts⟩ := @attempts_run k earlier task.id _ hstart
  have hsteady := hrun.steady task.id st hst
  refine ⟨st, hst, ?_, ?_, records_created_le haccounted, ?_, ?_, ?_⟩
  · rw [hattempts]
    exact Nat.zero_add _
  · rw [← hrun.definition.retry_budget]
    exact hsteady.attempts
  · intro record hrecord
    have hsome : st.terminal_record.isSome = true := by
      rw [hrecord]
      rfl
    refine ⟨?_, ?_⟩
    · by_contra hlease
      have hlease_some : st.current_lease.isSome = true := Option.isSome_iff_ne_none.mpr hlease
      obtain ⟨lease, hlease⟩ := Option.isSome_iff_exists.mp hlease_some
      have hchange : TaskChange (execAll k earlier) task.id st
          { st with current_lease := some lease } := .extended lease hlease_some
      exact hsteady.frozen hsome hchange
    · rw [execAll_append]
      exact run_frozen hrun hst hsome
  · intro record hrecord request terminal hterminal hid
    obtain ⟨occurred_at, reason, hstep⟩ := @step_terminal (execAll k earlier) request _ hterminal
    rw [← hrun.definition.tasks, ← hid] at hget
    rw [← hid] at hst
    obtain ⟨hrepeat, hother⟩ := @apply_terminal_recorded (execAll k earlier) st task record terminal
      occurred_at reason hget hrole hst hrecord
    rw [hstep]
    refine ⟨?_, ?_⟩
    · intro h
      rw [hrepeat h]
      rfl
    · intro h
      obtain ⟨error, herror⟩ := hother h
      rw [herror]
      exact ⟨error, rfl⟩
  · intro hclaimed
    rw [execAll_append]
    exact (claimed_dependencies haccounted hget hclaimed).run hrun

/-- A task is claimed and completed. -/
def completed : List ExecutionRequest :=
  [.claim ⟨"a", "worker", .Engineer, "lease", 1, 10⟩,
    .complete ⟨"a", "worker", .Engineer, "lease", "key", 2⟩]

/-- The accounts of the task, whatever is asked for later. -/
theorem attempt_accounting_completed :
    ∃ k, new "run" [readyTask "a" [] ["x"]] ⟨1, 3⟩ = .ok k
      ∧ ∃ st, TaskAccounts k (readyTask "a" [] ["x"]) completed completed st := by
  obtain ⟨k, hk⟩ : ∃ k, new "run" [readyTask "a" [] ["x"]] ⟨1, 3⟩ = .ok k := ⟨_, rfl⟩
  exact ⟨k, hk, attempt_accounting hk completed completed _ List.mem_cons_self⟩

/-- **A repeat in another role is an error**, with the key, the outcome, the worker and the
lease of the record. -/
theorem repeat_in_other_role :
    ∃ k record, new "run" [readyTask "a" [] ["x"]] ⟨1, 3⟩ = .ok k
      ∧ (execAll k completed).terminal_record "a" = some record
      ∧ Repeats record ⟨"a", "worker", .Reviewer, "lease", "key", .Completed⟩
      ∧ step (execAll k completed) (.complete ⟨"a", "worker", .Reviewer, "lease", "key", 2⟩)
        = .error (.error (.RoleMismatch "a" .Engineer .Reviewer)) := by
  refine ⟨_, ⟨1, "run", "a", "worker", "lease", "key", .Completed, 2, none⟩, rfl, ?_, ?_, ?_⟩
  · decide
  · exact ⟨rfl, rfl, rfl, rfl⟩
  · decide

end ExecutionLifecycleKernel

end OvcaCore

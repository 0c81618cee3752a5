/-
What `restore` accepts, and when a run of the kernel stays within it.

`restore_eq_ok` says what a snapshot must be: every task state passes its own
checks (`Admitted`), and the owner map is exactly what the current leases
account for (`OwnersMatch`). The first holds in every run whose times do not
decrease. The second does not: a claim drops every expired owner entry, also
those of a lease that another task still has, and from then on `restore`
expects an entry that is gone.
-/
import OvcaCore.ExecutionInvariant
import OvcaCore.SqliteExecution

set_option autoImplicit false

namespace OvcaCore

open OvcaCore.Checks OvcaCore.OrderedMaps OvcaCore.ExecutionLifecycle OvcaCore.Interleaving

namespace ExecutionLifecycle

/-! ## The checks of `restore` on one task -/

theorem restore_status_eq_ok {max_attempts : ℕ} {id : TaskId} {st : TaskExecutionSnapshot}
    {u : Unit} :
    restore_status max_attempts id st = .ok u ↔
      st.attempts ≤ max_attempts ∧
      ¬ (st.status = .AwaitingApproval ∨ st.status = .Reviewing) ∧
      valid_attempts st.status st.attempts max_attempts = .ok true ∧
      ¬ (st.attempts = 0 ∧ st.last_failure_reason.isSome) ∧
      decide (st.status = .Running) = st.current_lease.isSome ∧
      st.terminal_record.map (fun record => record.outcome) = expected_outcome st.status := by
  simp only [restore_status, bind_eq_ok, reject_if_eq_ok, exists_const, not_lt, gt_iff_lt, ne_eq,
    not_not, Bool.not_eq_true]
  constructor
  · rintro ⟨hmax, hsupported, valid, hvalid, htrue, hrest⟩
    have hv : valid = true := by simpa using htrue
    exact ⟨hmax, hsupported, hv ▸ hvalid, hrest⟩
  · rintro ⟨hmax, hsupported, hvalid, hrest⟩
    exact ⟨hmax, hsupported, true, hvalid, by simp, hrest⟩

theorem restore_lease_eq_ok {k : ExecutionLifecycleKernel} {id : TaskId} {task : Task}
    {attempts : ℕ} {lease : TaskLease} {u : Unit} :
    restore_lease k id task attempts lease = .ok u ↔
      lease.contract_version = GOAL_RUNTIME_CONTRACT_VERSION ∧ lease.run_id = k.run_id ∧
      lease.task_id = id ∧ lease.worker_role = task.assigned_role ∧
      lease.write_keys = write_key_set task ∧ (lease.attempt ≠ 0 ∧ lease.attempt = attempts) ∧
      lease.max_attempts = k.retry_budget.max_attempts ∧
      (lease.claimed_at ≤ lease.heartbeat_at ∧ lease.heartbeat_at < lease.expires_at) := by
  simp only [restore_lease, bind_eq_ok, reject_if_eq_ok, exists_const, not_or, not_not, ne_eq,
    not_lt, not_le, ge_iff_le, gt_iff_lt]

theorem restore_terminal_eq_ok {k : ExecutionLifecycleKernel} {id : TaskId} {attempts : ℕ}
    {record : TaskTerminalRecord} {u : Unit} :
    restore_terminal k id attempts record = .ok u ↔
      attempts ≠ 0 ∧ record.contract_version = GOAL_RUNTIME_CONTRACT_VERSION ∧
      record.run_id = k.run_id ∧ record.task_id = id := by
  simp only [restore_terminal, bind_eq_ok, reject_if_eq_ok, exists_const, not_not, ne_eq]

/-- A task state passes the checks of `restore` on its own. -/
structure Admitted (k : ExecutionLifecycleKernel) (id : TaskId) (st : TaskExecutionSnapshot) :
    Prop where
  status : restore_status k.retry_budget.max_attempts id st = .ok ()
  defined : ∃ task, k.tasks[id]? = some task ∧
    ∀ lease, st.current_lease = some lease → restore_lease k id task st.attempts lease = .ok ()
  terminal : ∀ record, st.terminal_record = some record →
    restore_terminal k id st.attempts record = .ok ()

/-- The owner entry `o` for `key` is one that the state of this task accounts
for. -/
def Accounts (p : TaskId × TaskExecutionSnapshot) (key : String) (o : WriteKeyOwner) : Prop :=
  ∃ lease, p.2.current_lease = some lease ∧ key ∈ lease.write_keys ∧ owner_of p.1 lease = o

theorem Accounts.task_id {p : TaskId × TaskExecutionSnapshot} {key : String} {o : WriteKeyOwner}
    (h : Accounts p key o) : o.task_id = p.1 := by
  obtain ⟨lease, _, _, rfl⟩ := h
  rfl

/-! ## Its loops -/

/-- The loop over the keys of a lease succeeds when none of them has an owner
yet, and enters the lease for each. -/
theorem fold_insert_owner {id : TaskId} {lease : TaskLease} {keys : List String}
    (hnodup : keys.Nodup) {owners owners' : BTreeMap String WriteKeyOwner} :
    fold_checked (insert_owner id lease) owners keys = .ok owners' ↔
      (∀ key ∈ keys, owners[key]? = none) ∧
      owners' = keys.foldl (fun owners key => owners.insert key (owner_of id lease)) owners := by
  induction keys generalizing owners with
  | nil => simp [eq_comm]
  | cons k keys ih =>
    obtain ⟨hk, hkeys⟩ := List.nodup_cons.mp hnodup
    rw [fold_checked_cons_eq_ok, List.forall_mem_cons, List.foldl_cons]
    cases hget : owners[k]? with
    | some first => simp [insert_owner, hget]
    | none =>
      have hstep : insert_owner id lease owners k = .ok (owners.insert k (owner_of id lease)) := by
        simp only [insert_owner, hget]
      simp only [hstep, Except.ok.injEq, exists_eq_left', true_and]
      rw [ih hkeys]
      refine and_congr_left fun _ => forall₂_congr fun key hkey => ?_
      have hne : k ≠ key := fun heq => hk (heq ▸ hkey)
      rw [get_insert_of_ne _ _ hne]

/-- The part of a round that handles the current lease, when no entry so far is
of this task: the new map has the old entries and those the state accounts
for. -/
theorem restore_current_lease_eq_ok {k : ExecutionLifecycleKernel} {id : TaskId} {task : Task}
    {st : TaskExecutionSnapshot} {owners owners' : BTreeMap String WriteKeyOwner}
    (hfresh : ∀ (key : String) o, owners[key]? = some o → o.task_id ≠ id) :
    restore_current_lease k id task st owners = .ok owners' ↔
      (∀ lease, st.current_lease = some lease →
        restore_lease k id task st.attempts lease = .ok ()) ∧
      ∀ (key : String) o, owners'[key]? = some o ↔
        owners[key]? = some o ∨ Accounts (id, st) key o := by
  unfold restore_current_lease
  cases hcur : st.current_lease with
  | none =>
    simp only [Accounts, hcur, Except.ok.injEq, reduceCtorEq, false_and, exists_false, or_false,
      false_imp_iff, implies_true, true_and]
    constructor
    · rintro rfl key o
      rfl
    · exact fun h => ext_get fun key o => (h key o).symm
  | some lease =>
    simp only [Accounts, hcur, bind_eq_ok, Option.some_inj, exists_eq_left', forall_eq',
      exists_and_right, exists_unit_eq_ok, fold_insert_owner (set_nodup lease.write_keys)]
    refine and_congr_right fun _ => ?_
    constructor
    · rintro ⟨hfree, rfl⟩ key o
      rw [ExecutionLifecycleKernel.foldl_insert_owner]
      by_cases hkey : key ∈ lease.write_keys
      · have hmem := ExecutionLifecycleKernel.mem_write_key_list.mpr hkey
        simp [hmem, hkey, hfree key hmem]
      · have hmem := mt ExecutionLifecycleKernel.mem_write_key_list.mp hkey
        simp [hmem, hkey]
    · intro h
      -- an owner of one of the keys would be of this task and of another at once
      have hconflict : ∀ (key : String) o, owners[key]? = some o → key ∉ lease.write_keys := by
        intro key o ho hkey
        have hold := (h key o).mpr (Or.inl ho)
        have hnew := (h key (owner_of id lease)).mpr (Or.inr ⟨hkey, rfl⟩)
        rw [hold, Option.some_inj] at hnew
        exact hfresh key o ho (by rw [hnew]; rfl)
      refine ⟨fun key hkey => ?_, ext_get fun key o => ?_⟩
      · by_contra hsome
        obtain ⟨o, ho⟩ := Option.ne_none_iff_exists'.mp hsome
        exact hconflict key o ho (ExecutionLifecycleKernel.mem_write_key_list.mp hkey)
      · rw [h, ExecutionLifecycleKernel.foldl_insert_owner]
        by_cases hkey : key ∈ lease.write_keys
        · rw [if_pos (ExecutionLifecycleKernel.mem_write_key_list.mpr hkey), Option.some_inj]
          constructor
          · rintro (ho | ⟨_, ho⟩)
            · exact absurd hkey (hconflict key o ho)
            · exact ho
          · exact fun ho => Or.inr ⟨hkey, ho⟩
        · rw [if_neg (mt ExecutionLifecycleKernel.mem_write_key_list.mp hkey)]
          simp [hkey]

/-- One round of the loop over the tasks, when no entry so far is of this task:
the state must be admitted, and the new map has the old entries and those the
state accounts for. -/
theorem restore_task_eq_ok {k : ExecutionLifecycleKernel} {p : TaskId × TaskExecutionSnapshot}
    {owners owners' : BTreeMap String WriteKeyOwner}
    (hfresh : ∀ (key : String) o, owners[key]? = some o → o.task_id ≠ p.1) :
    restore_task k owners p = .ok owners' ↔
      Admitted k p.1 p.2 ∧
      ∀ (key : String) o, owners'[key]? = some o ↔ owners[key]? = some o ∨ Accounts p key o := by
  obtain ⟨id, st⟩ := p
  simp only [restore_task, bind_eq_ok, expect_eq_ok, pure_eq_ok, check_some_eq_ok,
    restore_current_lease_eq_ok hfresh]
  constructor
  · rintro ⟨_, hstatus, task, htask, owners₁, ⟨hlease, howners⟩, _, hterminal, rfl⟩
    exact ⟨⟨hstatus, ⟨task, htask, hlease⟩, hterminal⟩, howners⟩
  · rintro ⟨⟨hstatus, ⟨task, htask, hlease⟩, hterminal⟩, howners⟩
    exact ⟨(), hstatus, task, htask, owners', ⟨hlease, howners⟩, (), hterminal, rfl⟩

/-- The loop over the tasks of a snapshot, each of which occurs once. -/
theorem fold_restore_task {k : ExecutionLifecycleKernel}
    {l : List (TaskId × TaskExecutionSnapshot)} (hnodup : (l.map Prod.fst).Nodup)
    {owners owners' : BTreeMap String WriteKeyOwner}
    (hfresh : ∀ (key : String) o, owners[key]? = some o → o.task_id ∉ l.map Prod.fst) :
    fold_checked (restore_task k) owners l = .ok owners' ↔
      (∀ p ∈ l, Admitted k p.1 p.2) ∧
      ∀ (key : String) o, owners'[key]? = some o ↔
        owners[key]? = some o ∨ ∃ p ∈ l, Accounts p key o := by
  induction l generalizing owners with
  | nil =>
    simp only [fold_checked_nil, Except.ok.injEq, List.not_mem_nil, false_imp_iff, implies_true,
      true_and, false_and, exists_false, or_false]
    constructor
    · rintro rfl key o
      rfl
    · intro h
      exact ext_get fun key o => (h key o).symm
  | cons p l ih =>
    rw [List.map_cons] at hnodup hfresh
    obtain ⟨hp, hl⟩ := List.nodup_cons.mp hnodup
    have hfresh₁ : ∀ (key : String) o, owners[key]? = some o → o.task_id ≠ p.1 :=
      fun key o ho heq => hfresh key o ho (heq ▸ List.mem_cons_self)
    -- the entries after the first round are still of no task to come
    have hfresh₂ : ∀ owners₁ : BTreeMap String WriteKeyOwner,
        (∀ (key : String) o, owners₁[key]? = some o ↔ owners[key]? = some o ∨ Accounts p key o) →
        ∀ (key : String) o, owners₁[key]? = some o → o.task_id ∉ l.map Prod.fst := by
      intro owners₁ h₁ key o ho
      rcases (h₁ key o).mp ho with ho | ho
      · exact fun hmem => hfresh key o ho (List.mem_cons_of_mem _ hmem)
      · rw [ho.task_id]
        exact hp
    rw [fold_checked_cons_eq_ok]
    constructor
    · rintro ⟨owners₁, hround, hrest⟩
      obtain ⟨hadm, h₁⟩ := (restore_task_eq_ok hfresh₁).mp hround
      obtain ⟨hadms, h₂⟩ := (ih hl (hfresh₂ owners₁ h₁)).mp hrest
      refine ⟨List.forall_mem_cons.mpr ⟨hadm, hadms⟩, fun key o => ?_⟩
      rw [h₂, h₁, or_assoc, List.exists_mem_cons_iff]
    · rintro ⟨hadm, h⟩
      obtain ⟨hadm, hadms⟩ := List.forall_mem_cons.mp hadm
      -- the map after the first round: what the final one has, less the entries of later tasks
      let owners₁ : BTreeMap String WriteKeyOwner :=
        owners'.filter fun _ o => decide (o.task_id ∉ l.map Prod.fst)
      have h₁ : ∀ (key : String) o, owners₁[key]? = some o ↔
          owners[key]? = some o ∨ Accounts p key o := by
        intro key o
        rw [get_filter_eq_some, decide_eq_true_iff, h]
        constructor
        · rintro ⟨ho | ⟨q, hq, ho⟩, hnot⟩
          · exact Or.inl ho
          · rcases List.mem_cons.mp hq with rfl | hq
            · exact Or.inr ho
            · exact absurd (ho.task_id ▸ List.mem_map_of_mem hq) hnot
        · rintro (ho | ho)
          · exact ⟨Or.inl ho, fun hmem => hfresh key o ho (List.mem_cons_of_mem _ hmem)⟩
          · exact ⟨Or.inr ⟨p, List.mem_cons_self, ho⟩, by rw [ho.task_id]; exact hp⟩
      refine ⟨owners₁, (restore_task_eq_ok hfresh₁).mpr ⟨hadm, h₁⟩,
        (ih hl (hfresh₂ owners₁ h₁)).mpr ⟨hadms, fun key o => ?_⟩⟩
      rw [h, h₁, or_assoc, List.exists_mem_cons_iff]

theorem mem_key_set {ν : Type} {m : BTreeMap TaskId ν} {id : TaskId} : id ∈ key_set m ↔ id ∈ m := by
  rw [key_set, Std.ExtTreeSet.mem_ofList, List.contains_iff_mem, Std.ExtTreeMap.mem_keys]

end ExecutionLifecycle

namespace ExecutionLifecycleKernel

/-! ## `restore` -/

/-- The owner map is what the current leases account for, no more and no
less. -/
def OwnersMatch (state : BTreeMap TaskId TaskExecutionSnapshot)
    (owners : BTreeMap String WriteKeyOwner) : Prop :=
  ∀ (key : String) o, owners[key]? = some o ↔
    ∃ id lease, Holds state id lease ∧ key ∈ lease.write_keys ∧ owner_of id lease = o

theorem accounts_iff_holds {state : BTreeMap TaskId TaskExecutionSnapshot} {key : String}
    {o : WriteKeyOwner} :
    (∃ p ∈ state.toList, Accounts p key o) ↔
      ∃ id lease, Holds state id lease ∧ key ∈ lease.write_keys ∧ owner_of id lease = o := by
  constructor
  · rintro ⟨⟨id, st⟩, hmem, lease, hlease, hkey, ho⟩
    have hget : state[id]? = some st :=
      Std.ExtTreeMap.mem_toList_iff_getElem?_eq_some.mp hmem
    exact ⟨id, lease, ⟨st, hget, hlease⟩, hkey, ho⟩
  · rintro ⟨id, lease, ⟨st, hget, hlease⟩, hkey, ho⟩
    exact ⟨(id, st), Std.ExtTreeMap.mem_toList_iff_getElem?_eq_some.mpr hget, lease, hlease,
      hkey, ho⟩

/-- **What `restore` accepts**, for a definition that `new` accepts. -/
theorem restore_eq_ok {run_id : RunId} {tasks : List Task} {retry_budget : RetryBudget}
    {k₀ k : ExecutionLifecycleKernel} (hnew : new run_id tasks retry_budget = .ok k₀)
    {snapshot : ExecutionLifecycleSnapshot} :
    restore run_id tasks retry_budget snapshot = .ok k ↔
      snapshot.run_id = run_id ∧ snapshot.goal_id = k₀.goal_id ∧
      snapshot.max_attempts = retry_budget.max_attempts ∧
      (∀ id, id ∈ snapshot.tasks ↔ id ∈ k₀.tasks) ∧
      (∀ (id : TaskId) st, snapshot.tasks[id]? = some st → Admitted k₀ id st) ∧
      OwnersMatch snapshot.tasks snapshot.write_key_owners ∧
      k = { k₀ with state := snapshot.tasks, write_key_owners := snapshot.write_key_owners } := by
  have hkeys : key_set snapshot.tasks = key_set k₀.tasks ↔
      ∀ id, id ∈ snapshot.tasks ↔ id ∈ k₀.tasks := by
    constructor
    · intro h id
      rw [← mem_key_set, h, mem_key_set]
    · intro h
      exact set_ext fun id => by rw [mem_key_set, mem_key_set, h]
  have hempty : ∀ (key : String) o, (∅ : BTreeMap String WriteKeyOwner)[key]? = some o →
      o.task_id ∉ snapshot.tasks.toList.map Prod.fst := by
    intro key o h
    rw [Std.ExtTreeMap.getElem?_empty] at h
    cases h
  have hfold : ∀ owners, fold_checked (restore_task k₀) ∅ snapshot.tasks.toList = .ok owners ↔
      (∀ (id : TaskId) st, snapshot.tasks[id]? = some st → Admitted k₀ id st) ∧
        OwnersMatch snapshot.tasks owners := by
    intro owners
    rw [fold_restore_task (keys_nodup snapshot.tasks) hempty]
    refine and_congr ?_ ?_
    · constructor
      · intro h id st hst
        exact h (id, st) (Std.ExtTreeMap.mem_toList_iff_getElem?_eq_some.mpr hst)
      · rintro h ⟨id, st⟩ hmem
        exact h id st (Std.ExtTreeMap.mem_toList_iff_getElem?_eq_some.mp hmem)
    · simp only [OwnersMatch, accounts_iff_holds, Std.ExtTreeMap.getElem?_empty, reduceCtorEq,
        false_or]
  simp only [restore, bind_eq_ok, lift_eq_ok, mapError_eq_ok, reject_if_eq_ok, pure_eq_ok,
    exists_const, ne_eq, not_not, hnew, Except.ok.injEq, exists_eq_left', hkeys, hfold]
  constructor
  · rintro ⟨hrun, hgoal, hmax, hids, owners, ⟨hadm, hmatch⟩, howners, rfl⟩
    exact ⟨hrun, hgoal, hmax, hids, hadm, howners ▸ hmatch, rfl⟩
  · rintro ⟨hrun, hgoal, hmax, hids, hadm, hmatch, rfl⟩
    exact ⟨hrun, hgoal, hmax, hids, _, ⟨hadm, hmatch⟩, rfl, rfl⟩

/-! ## The invariant of a run -/

/-- A kernel whose definition is the one it was created with. -/
structure SameDefinition (k₀ k : ExecutionLifecycleKernel) : Prop where
  run_id : k.run_id = k₀.run_id
  goal_id : k.goal_id = k₀.goal_id
  retry_budget : k.retry_budget = k₀.retry_budget
  tasks : k.tasks = k₀.tasks

/-- No effect changes the definition. -/
theorem SameDefinition.effect {k₀ k k' : ExecutionLifecycleKernel} {request : ExecutionRequest}
    (h : SameDefinition k₀ k) (he : Effect k request k') : SameDefinition k₀ k' := by
  cases he with
  | grant => exact ⟨h.run_id, h.goal_id, h.retry_budget, h.tasks⟩
  | extend => exact ⟨h.run_id, h.goal_id, h.retry_budget, h.tasks⟩
  | close => exact ⟨h.run_id, h.goal_id, h.retry_budget, h.tasks⟩
  | same => exact h

/-- The checks of `restore` on one task depend on the definition only. -/
theorem admitted_congr {k k' : ExecutionLifecycleKernel} {id : TaskId}
    {st : TaskExecutionSnapshot} (hrun : k'.run_id = k.run_id)
    (hbudget : k'.retry_budget = k.retry_budget) (htasks : k'.tasks = k.tasks)
    (h : Admitted k id st) : Admitted k' id st := by
  obtain ⟨hstatus, ⟨task, htask, hlease⟩, hterminal⟩ := h
  refine ⟨hbudget ▸ hstatus, ⟨task, htasks ▸ htask, fun lease hl => ?_⟩, fun record hr => ?_⟩
  · have := hlease lease hl
    rw [restore_lease_eq_ok] at this ⊢
    rw [hrun, hbudget]
    exact this
  · have := hterminal record hr
    rw [restore_terminal_eq_ok] at this ⊢
    rw [hrun]
    exact this

/-- The part of what `restore` checks that every timely run keeps: the tasks are
those of the definition, each in an admitted state, and no lease was renewed
after `t`. -/
structure Sound (k : ExecutionLifecycleKernel) (t : DateTime) : Prop where
  ids : ∀ id, id ∈ k.state ↔ id ∈ k.tasks
  admitted : ∀ (id : TaskId) st, k.state[id]? = some st → Admitted k id st
  renewed : ∀ id lease, Holds k.state id lease → lease.heartbeat_at ≤ t

theorem Sound.mono {k : ExecutionLifecycleKernel} {t t' : DateTime} (h : Sound k t)
    (ht : t ≤ t') : Sound k t' :=
  ⟨h.ids, h.admitted, fun id lease hl => le_trans (h.renewed id lease hl) ht⟩

/-- A task state that is admitted and running has a lease, and the converse. -/
theorem admitted_running {k : ExecutionLifecycleKernel} {id : TaskId}
    {st : TaskExecutionSnapshot} (h : Admitted k id st) :
    st.status = .Running ↔ ∃ lease, st.current_lease = some lease := by
  obtain ⟨_, _, _, _, hrunning, _⟩ := restore_status_eq_ok.mp h.status
  rw [← Option.isSome_iff_exists, ← hrunning, decide_eq_true_iff]

/-- Replacing the state of a task by an admitted one, whose lease is not renewed
after `t`, keeps a kernel sound. -/
theorem Sound.insert {k : ExecutionLifecycleKernel} {t : DateTime} (h : Sound k t) {id : TaskId}
    {st : TaskExecutionSnapshot} (hid : id ∈ k.state) (hst : Admitted k id st)
    (hbeat : ∀ lease, st.current_lease = some lease → lease.heartbeat_at ≤ t)
    (owners : BTreeMap String WriteKeyOwner) :
    Sound { k with state := k.state.insert id st, write_key_owners := owners } t := by
  refine ⟨fun id' => ?_, fun id' st' hst' => ?_, fun id' lease hl => ?_⟩
  · show id' ∈ k.state.insert id st ↔ id' ∈ k.tasks
    rw [Std.ExtTreeMap.mem_insert, Std.LawfulEqCmp.compare_eq_iff_eq, h.ids]
    constructor
    · rintro (rfl | hmem)
      · exact (h.ids id).mp hid
      · exact hmem
    · exact Or.inr
  · rw [get_insert] at hst'
    refine admitted_congr (k := k) rfl rfl rfl ?_
    split at hst'
    · next heq =>
      rw [Option.some_inj] at hst'
      exact heq ▸ hst' ▸ hst
    · exact h.admitted id' st' hst'
  · rcases holds_insert.mp hl with ⟨rfl, hcur⟩ | ⟨_, hl⟩
    · exact hbeat lease hcur
    · exact h.renewed id' lease hl

theorem Sound.grant {k : ExecutionLifecycleKernel} {request : ClaimRequest} {task : Task}
    {current : TaskExecutionSnapshot} (hI : Sound k request.now)
    (h : Grant k request task current) : Sound (granted k request task current) request.now := by
  refine hI.insert (mem_iff_get.mpr ⟨_, h.state_eq⟩) ⟨?_, ⟨task, h.task_eq, ?_⟩, ?_⟩ ?_ _
  · rw [restore_status_eq_ok]
    refine ⟨h.budget, by simp, ?_, by simp, by simp, rfl⟩
    simp [valid_attempts]
  · intro lease hl
    obtain rfl := Option.some_inj.mp hl
    rw [restore_lease_eq_ok]
    exact ⟨rfl, rfl, rfl, h.role_eq, rfl, ⟨Nat.succ_ne_zero _, rfl⟩, rfl, le_refl _, h.expiry⟩
  · intro record hr
    cases hr
  · intro lease hl
    obtain rfl := Option.some_inj.mp hl
    exact le_refl _

theorem Sound.extend {k : ExecutionLifecycleKernel} {request : HeartbeatRequest}
    {state : TaskExecutionSnapshot} {lease : TaskLease} (hI : Sound k request.now)
    (h : ActiveLease k request.task_id request.now state lease)
    (hexpiry : lease.expires_at < request.expires_at) (owners : BTreeMap String WriteKeyOwner) :
    Sound { k with
      state := k.state.insert request.task_id
        { state with current_lease := some (extended lease request) }
      write_key_owners := owners } request.now := by
  obtain ⟨hstatus, ⟨task, htask, hlease⟩, hterminal⟩ := hI.admitted _ _ h.state_eq
  have hbeat : lease.heartbeat_at ≤ request.now :=
    hI.renewed _ _ ⟨state, h.state_eq, h.lease_eq⟩
  have hadm : Admitted k request.task_id
      { state with current_lease := some (extended lease request) } := by
    refine ⟨?_, ⟨task, htask, ?_⟩, hterminal⟩
    · rw [restore_status_eq_ok] at hstatus ⊢
      rw [h.lease_eq] at hstatus
      exact hstatus
    · intro l hl
      obtain rfl := Option.some_inj.mp hl
      have hold := hlease lease h.lease_eq
      rw [restore_lease_eq_ok] at hold ⊢
      obtain ⟨hversion, hrun, hid, hrole, hkeys, hattempt, hmax, hclaimed, _⟩ := hold
      refine ⟨hversion, hrun, hid, hrole, hkeys, hattempt, hmax, ?_, ?_⟩
      · exact le_trans hclaimed hbeat
      · exact lt_trans h.unexpired hexpiry
  refine hI.insert (mem_iff_get.mpr ⟨_, h.state_eq⟩) hadm ?_ owners
  intro l hl
  obtain rfl := Option.some_inj.mp hl
  exact le_refl _

/-- The state a lease is closed into is admitted when the state it was held in
was. -/
theorem Closing.admitted {k : ExecutionLifecycleKernel} {id : TaskId}
    {st next : TaskExecutionSnapshot} (h : Admitted k id st) (hrunning : st.status = .Running)
    (hnext : Closing k id st next) : Admitted k id next := by
  obtain ⟨hstatus, ⟨task, htask, _⟩, _⟩ := h
  obtain ⟨hmax, _, hattempts, _, _, hterminal⟩ := restore_status_eq_ok.mp hstatus
  have hpos : 1 ≤ st.attempts := by
    rw [hrunning, valid_attempts] at hattempts
    simpa using hattempts
  cases hnext with
  | terminal record hversion hrun hid =>
    refine ⟨?_, ⟨task, htask, fun lease hl => by cases hl⟩, fun r hr => ?_⟩
    · rw [restore_status_eq_ok]
      refine ⟨hmax, ?_, ?_, ?_, ?_, ?_⟩
      · cases record.outcome <;> simp [terminal_status]
      · cases record.outcome <;> simp [terminal_status, valid_attempts, hpos]
      · simp only [not_and]
        omega
      · cases record.outcome <;> simp [terminal_status]
      · cases hout : record.outcome <;> simp [terminal_status, expected_outcome, hout]
    · obtain rfl := Option.some_inj.mp hr
      rw [restore_terminal_eq_ok]
      refine ⟨?_, hversion, hrun, hid⟩
      show st.attempts ≠ 0
      omega
  | failure reason =>
    have hnone : st.terminal_record = none := by
      rw [hrunning] at hterminal
      exact Option.map_eq_none_iff.mp hterminal
    refine ⟨?_, ⟨task, htask, fun lease hl => by cases hl⟩, fun r hr => ?_⟩
    · rw [restore_status_eq_ok]
      by_cases hlast : st.attempts ≥ k.retry_budget.max_attempts
      · have heq : st.attempts = k.retry_budget.max_attempts := by omega
        have hne : k.retry_budget.max_attempts ≠ 0 := by omega
        simp [failed_status, hnone, expected_outcome, valid_attempts, heq, hne]
      · have hlt : st.attempts < k.retry_budget.max_attempts := by omega
        have hne : st.attempts ≠ 0 := by omega
        simp [failed_status, hnone, expected_outcome, valid_attempts, hlt, hlt.le, hne, hlt.not_ge]
    · rw [show _ = st.terminal_record from rfl, hnone] at hr
      cases hr

/-- Every effect keeps a kernel sound. -/
theorem Sound.effect {k k' : ExecutionLifecycleKernel} {request : ExecutionRequest}
    (hI : Sound k request.time) (h : Effect k request k') : Sound k' request.time := by
  cases h with
  | grant request task current h => exact hI.grant h
  | extend request state lease owners h hexpiry _ => exact hI.extend h hexpiry owners
  | close request task_id state next lease h hrunning hnext =>
    refine hI.insert (mem_iff_get.mpr ⟨_, h.state_eq⟩)
      (hnext.admitted (hI.admitted _ _ h.state_eq) hrunning) ?_ _
    intro l hl
    cases hnext <;> cases hl
  | same => exact hI

/-! ## Definitions -/

/-- The number of times a task id is declared. -/
theorem getD_task_counts (tasks : List Task) (counts : BTreeMap TaskId ℕ) (id : TaskId) :
    (tasks.foldl (fun counts task => counts.insert task.id (counts.getD task.id 0 + 1))
        counts).getD id 0 = counts.getD id 0 + (tasks.map Task.id).count id := by
  induction tasks generalizing counts with
  | nil => simp
  | cons task tasks ih =>
    rw [List.foldl_cons, ih, List.map_cons, List.count_cons, Std.ExtTreeMap.getD_insert]
    by_cases hid : task.id = id
    · simp only [hid, Std.LawfulEqCmp.compare_eq_iff_eq, if_true, beq_self_eq_true]
      omega
    · have hne : ¬ (task.id == id) = true := by simpa using hid
      simp only [Std.LawfulEqCmp.compare_eq_iff_eq, hid, if_false, hne, Bool.false_eq_true]
      omega

/-- The duplicate check of `new` passes exactly when the ids differ. -/
theorem task_counts_ok {tasks : List Task} :
    (∀ p ∈ (task_counts tasks).toList, ¬ p.2 > 1) ↔ (tasks.map Task.id).Nodup := by
  have hcount : ∀ id, (task_counts tasks).getD id 0 = (tasks.map Task.id).count id := by
    intro id
    rw [task_counts, getD_task_counts, Std.ExtTreeMap.getD_empty, Nat.zero_add]
  rw [List.nodup_iff_count_le_one]
  constructor
  · intro h id
    rw [← hcount, Std.ExtTreeMap.getD_eq_getD_getElem?]
    cases hget : (task_counts tasks)[id]? with
    | none => exact Nat.zero_le 1
    | some n =>
      have := h (id, n) (Std.ExtTreeMap.mem_toList_iff_getElem?_eq_some.mpr hget)
      simpa using this
  · rintro h ⟨id, n⟩ hmem
    have hget := Std.ExtTreeMap.mem_toList_iff_getElem?_eq_some.mp hmem
    have hle := h id
    rw [← hcount, Std.ExtTreeMap.getD_eq_getD_getElem?, hget] at hle
    simpa using hle

theorem get_task_map {tasks : List Task} (hnodup : (tasks.map Task.id).Nodup) {id : TaskId}
    {task : Task} : (task_map tasks)[id]? = some task ↔ task ∈ tasks ∧ task.id = id := by
  have hkeys : ((tasks.map fun task => (task.id, task)).map Prod.fst).Nodup := by
    rw [List.map_map]
    exact hnodup
  rw [task_map, get_ofList_eq_some hkeys, List.mem_map]
  simp only [Prod.mk.injEq]
  constructor
  · rintro ⟨t, ht, rfl, rfl⟩
    exact ⟨ht, rfl⟩
  · rintro ⟨ht, rfl⟩
    exact ⟨task, ht, rfl, rfl⟩

/-- The tasks as an envelope stores them: by id, in the order of the ids. -/
def task_values (tasks : List Task) : List Task := (task_map tasks).toList.map Prod.snd

theorem mem_task_values {tasks : List Task} (hnodup : (tasks.map Task.id).Nodup) {task : Task} :
    task ∈ task_values tasks ↔ task ∈ tasks := by
  rw [task_values, List.mem_map]
  constructor
  · rintro ⟨⟨id, t⟩, hmem, rfl⟩
    exact ((get_task_map hnodup).mp (Std.ExtTreeMap.mem_toList_iff_getElem?_eq_some.mp hmem)).1
  · intro htask
    have hget : (task_map tasks)[task.id]? = some task := (get_task_map hnodup).mpr ⟨htask, rfl⟩
    exact ⟨(task.id, task), Std.ExtTreeMap.mem_toList_iff_getElem?_eq_some.mpr hget, rfl⟩

theorem task_values_ids {tasks : List Task} (hnodup : (tasks.map Task.id).Nodup) :
    (task_values tasks).map Task.id = (task_map tasks).toList.map Prod.fst := by
  rw [task_values, List.map_map]
  refine List.map_congr_left ?_
  rintro ⟨id, task⟩ hmem
  exact ((get_task_map hnodup).mp (Std.ExtTreeMap.mem_toList_iff_getElem?_eq_some.mp hmem)).2

theorem task_values_nodup {tasks : List Task} (hnodup : (tasks.map Task.id).Nodup) :
    ((task_values tasks).map Task.id).Nodup := by
  rw [task_values_ids hnodup]
  exact keys_nodup _

theorem task_map_task_values {tasks : List Task} (hnodup : (tasks.map Task.id).Nodup) :
    task_map (task_values tasks) = task_map tasks := by
  apply ext_get
  intro id task
  rw [get_task_map (task_values_nodup hnodup), get_task_map hnodup, mem_task_values hnodup]

/-- What `new` accepts: an admissible budget, ids that differ, and tasks that
pass their checks. -/
theorem new_eq_ok_iff {run_id : RunId} {tasks : List Task} {retry_budget : RetryBudget}
    {k : ExecutionLifecycleKernel} :
    new run_id tasks retry_budget = .ok k ↔
      validate_version "retry_budget" retry_budget.contract_version = .ok () ∧
      retry_budget.max_attempts ≠ 0 ∧ (tasks.map Task.id).Nodup ∧
      (∀ p ∈ (task_map tasks).toList, validate_task p.1 p.2 = .ok ()) ∧
      validate_goal (task_map tasks) ((task_map tasks).toList.head?.map fun p => p.2.goal_id)
        = .ok () ∧
      validate_dependencies (task_map tasks) = .ok () ∧
      k = { run_id := run_id
            goal_id := (task_map tasks).toList.head?.map fun p => p.2.goal_id
            retry_budget := retry_budget
            tasks := task_map tasks
            state := (task_map tasks).map fun _ task => initial_state task
            write_key_owners := ∅ } := by
  simp only [new, bind_eq_ok, reject_if_eq_ok, check_all_eq_ok, task_counts_ok, pure_eq_ok,
    exists_and_right, exists_unit_eq_ok, exists_const, ne_eq, eq_comm (b := k)]

/-- A definition read back from an envelope is the definition that was put
there. -/
theorem new_task_values {run_id : RunId} {tasks : List Task} {retry_budget : RetryBudget}
    {k : ExecutionLifecycleKernel} (h : new run_id tasks retry_budget = .ok k) :
    new run_id (task_values tasks) retry_budget = .ok k := by
  obtain ⟨hversion, hmax, hnodup, hrest⟩ := new_eq_ok_iff.mp h
  rw [new_eq_ok_iff, task_map_task_values hnodup]
  exact ⟨hversion, hmax, task_values_nodup hnodup, hrest⟩

/-- What the kernel asks of a task. -/
theorem validate_task_eq_ok {task_id : TaskId} {task : Task} :
    validate_task task_id task = .ok () ↔ task.contract_version = GOAL_RUNTIME_CONTRACT_VERSION
      ∧ task.assigned_role ≠ .Coordinator ∧ (task.status = .Pending ∨ task.status = .Ready) := by
  have hrole : (task.assigned_role = .Engineer ∨ task.assigned_role = .Reviewer
      ∨ task.assigned_role = .Auditor) ↔ task.assigned_role ≠ .Coordinator := by
    cases task.assigned_role <;> simp
  simp only [validate_task, validate_version, bind_eq_ok, reject_if_eq_ok, exists_const, not_not,
    ne_eq, hrole]

/-- A fresh kernel is sound. -/
theorem new_sound {run_id : RunId} {tasks : List Task} {retry_budget : RetryBudget}
    {k : ExecutionLifecycleKernel} (hnew : new run_id tasks retry_budget = .ok k) (t : DateTime) :
    Sound k t := by
  obtain ⟨_, hmax, hnodup, htasks, _, _, rfl⟩ := new_eq_ok_iff.mp hnew
  refine ⟨fun id => ?_, fun id st hst => ?_, fun id lease hl => ?_⟩
  · exact Std.ExtTreeMap.mem_map
  · obtain ⟨task, htask, rfl⟩ := get_map_eq_some.mp hst
    refine ⟨?_, ⟨task, htask, fun lease hl => by cases hl⟩, fun record hr => by cases hr⟩
    have hvalid : validate_task id task = .ok () :=
      htasks (id, task) (Std.ExtTreeMap.mem_toList_iff_getElem?_eq_some.mpr htask)
    obtain ⟨_, _, hstatus⟩ := validate_task_eq_ok.mp hvalid
    rw [restore_status_eq_ok]
    rcases hstatus with hs | hs <;>
      simp [initial_state, hs, valid_attempts, expected_outcome, Nat.pos_of_ne_zero hmax]
  · exact absurd hl (new_holds_nothing hnew id lease)

end ExecutionLifecycleKernel

end OvcaCore

/-
When a run of the kernel can be restored, and committed.

`restore` expects an owner entry for every key of every current lease. A claim
drops all expired entries, so a granted claim whose time is past the expiry of
another task's lease leaves a kernel that `restore` rejects, and that the
durable authority refuses to commit (`restore_disagrees`). This is the only way
in which a timely run can leave the states that `restore` accepts
(`restore_agrees_iff`).
-/
import OvcaCore.ExecutionAccounting

set_option autoImplicit false

namespace OvcaCore

open OvcaCore.Checks OvcaCore.OrderedMaps OvcaCore.ExecutionLifecycle OvcaCore.Interleaving

namespace ExecutionLifecycleKernel

/-! ## The owner map along a run -/

/-- The checks of a claim pass. -/
def Claimable (k : ExecutionLifecycleKernel) (request : ClaimRequest) : Prop :=
  ∃ task current, Grant k request task current

/-- At the time of this claim another task still has an expired lease with
write keys, whose owner entries the claim would drop. -/
def PrunesLease (k : ExecutionLifecycleKernel) (request : ClaimRequest) : Prop :=
  ∃ id lease, id ≠ request.task_id ∧ Holds k.state id lease ∧
    lease.expires_at ≤ request.now ∧ ∃ key, key ∈ lease.write_keys

/-- A task that has a lease is running. -/
def RunsUnderLease (k : ExecutionLifecycleKernel) : Prop :=
  ∀ (id : TaskId) (st : TaskExecutionSnapshot) (lease : TaskLease), k.state[id]? = some st →
    st.current_lease = some lease → st.status = .Running

theorem Accounted.runsUnderLease {k₀ k : ExecutionLifecycleKernel} (h : Accounted k₀ k) :
    RunsUnderLease k := by
  intro id st lease hst hlease
  refine (h.steady id st hst).running.mpr ?_
  rw [hlease]
  rfl

/-- A claim that drops no lease of another task keeps the owner map matching. -/
theorem OwnersMatch.grant {k : ExecutionLifecycleKernel} {request : ClaimRequest} {task : Task}
    {current : TaskExecutionSnapshot} (hI : OwnersMatch k.state k.write_key_owners)
    (hrunning : RunsUnderLease k) (h : Grant k request task current)
    (hkeep : ¬ PrunesLease k request) :
    OwnersMatch (granted k request task current).state
      (granted k request task current).write_key_owners := by
  have hother : ∀ id lease key, id ≠ request.task_id → Holds k.state id lease →
      key ∈ lease.write_keys → request.now < lease.expires_at := by
    intro id lease key hid hl hkey
    by_contra hexp
    exact hkeep ⟨id, lease, hid, hl, not_lt.mp hexp, key, hkey⟩
  have hown : ∀ lease, Holds k.state request.task_id lease →
      lease.expires_at ≤ request.now := by
    rintro lease ⟨st, hst, hl⟩
    rw [h.state_eq, Option.some_inj] at hst
    subst hst
    -- a task with a lease is running, and a running task is claimable once expired
    have hrunning := hrunning request.task_id current lease h.state_eq hl
    rcases h.claimable with hs | hs | ⟨_, l, hl', hexp⟩
    · rw [hrunning] at hs
      cases hs
    · rw [hrunning] at hs
      cases hs
    · rw [hl, Option.some_inj] at hl'
      exact hl' ▸ hexp
  intro key o
  rw [granted, get_claimed_owners]
  constructor
  · rintro (⟨hkey, rfl⟩ | ⟨hkey, ho, hexp⟩)
    · exact ⟨request.task_id, _, holds_insert.mpr (Or.inl ⟨rfl, rfl⟩), hkey, rfl⟩
    · obtain ⟨id, lease, hl, hmem, rfl⟩ := (hI key o).mp ho
      have hid : id ≠ request.task_id := by
        rintro rfl
        exact absurd hexp (not_lt.mpr (hown lease hl))
      exact ⟨id, lease, holds_insert.mpr (Or.inr ⟨hid, hl⟩), hmem, rfl⟩
  · rintro ⟨id, lease, hl, hmem, rfl⟩
    rcases holds_insert.mp hl with ⟨rfl, hcur⟩ | ⟨hid, hl⟩
    · obtain rfl := Option.some_inj.mp hcur
      exact Or.inl ⟨hmem, rfl⟩
    · have hexp := hother id lease key hid hl hmem
      have ho := (hI key (owner_of id lease)).mpr ⟨id, lease, hl, hmem, rfl⟩
      exact Or.inr ⟨fun hkey => hid (h.keys_free key hkey _ ho hexp), ho, hexp⟩

/-- A key that two current leases have is a key of one task. -/
theorem OwnersMatch.unique {state : BTreeMap TaskId TaskExecutionSnapshot}
    {owners : BTreeMap String WriteKeyOwner} (h : OwnersMatch state owners) {id id' : TaskId}
    {l l' : TaskLease} (hl : Holds state id l) (hl' : Holds state id' l') {key : String}
    (hkey : key ∈ l.write_keys) (hkey' : key ∈ l'.write_keys) : id = id' := by
  have ho := (h key (owner_of id l)).mpr ⟨id, l, hl, hkey, rfl⟩
  rw [(h key (owner_of id' l')).mpr ⟨id', l', hl', hkey', rfl⟩, Option.some_inj] at ho
  exact (congrArg WriteKeyOwner.task_id ho).symm

theorem OwnersMatch.extend {k : ExecutionLifecycleKernel} {request : HeartbeatRequest}
    {state : TaskExecutionSnapshot} {lease : TaskLease} {owners : BTreeMap String WriteKeyOwner}
    (hI : OwnersMatch k.state k.write_key_owners)
    (h : ActiveLease k request.task_id request.now state lease)
    (howners : fold_checked (extend_owner request.expires_at) k.write_key_owners
      lease.write_keys.toList = .ok owners) :
    OwnersMatch (k.state.insert request.task_id
      { state with current_lease := some (extended lease request) }) owners := by
  have hl : Holds k.state request.task_id lease := ⟨state, h.state_eq, h.lease_eq⟩
  obtain ⟨_, hget⟩ := fold_extend_owner.mp howners
  intro key o
  rw [hget]
  by_cases hkey : key ∈ lease.write_keys
  · have ho := (hI key _).mpr ⟨_, lease, hl, hkey, rfl⟩
    rw [if_pos (mem_write_key_list.mpr hkey), ho, Option.map_some, Option.some_inj]
    constructor
    · rintro rfl
      exact ⟨request.task_id, _, holds_insert.mpr (Or.inl ⟨rfl, rfl⟩), hkey, rfl⟩
    · rintro ⟨id, l, hl', hmem, rfl⟩
      rcases holds_insert.mp hl' with ⟨rfl, hcur⟩ | ⟨hid, hl'⟩
      · obtain rfl := Option.some_inj.mp hcur
        rfl
      · exact absurd (hI.unique hl' hl hmem hkey) hid
  · rw [if_neg (mt mem_write_key_list.mp hkey), hI key o]
    constructor
    · rintro ⟨id, l, hl', hmem, rfl⟩
      have hid : id ≠ request.task_id := by
        rintro rfl
        exact hkey (hl'.unique hl ▸ hmem)
      exact ⟨id, l, holds_insert.mpr (Or.inr ⟨hid, hl'⟩), hmem, rfl⟩
    · rintro ⟨id, l, hl', hmem, rfl⟩
      rcases holds_insert.mp hl' with ⟨rfl, hcur⟩ | ⟨_, hl'⟩
      · obtain rfl := Option.some_inj.mp hcur
        exact absurd hmem hkey
      · exact ⟨id, l, hl', hmem, rfl⟩

theorem OwnersMatch.close {k : ExecutionLifecycleKernel} {now : DateTime} {task_id : TaskId}
    {state next : TaskExecutionSnapshot} {lease : TaskLease}
    (hI : OwnersMatch k.state k.write_key_owners) (h : ActiveLease k task_id now state lease)
    (hnext : Closing k task_id state next) :
    OwnersMatch (k.state.insert task_id next)
      (released_owners k.write_key_owners task_id lease) := by
  have hl : Holds k.state task_id lease := ⟨state, h.state_eq, h.lease_eq⟩
  have hnone : next.current_lease = none := by cases hnext <;> rfl
  intro key o
  rw [get_released_owners, hI key o]
  constructor
  · rintro ⟨⟨id, l, hl', hmem, rfl⟩, hnot⟩
    have hid : id ≠ task_id := by
      rintro rfl
      obtain rfl := hl'.unique hl
      rcases hnot with hnot | hnot | hnot
      · exact hnot hmem
      · exact hnot rfl
      · exact hnot rfl
    exact ⟨id, l, holds_insert.mpr (Or.inr ⟨hid, hl'⟩), hmem, rfl⟩
  · rintro ⟨id, l, hl', hmem, rfl⟩
    rcases holds_insert.mp hl' with ⟨_, hcur⟩ | ⟨hid, hl'⟩
    · rw [hnone] at hcur
      cases hcur
    · exact ⟨⟨id, l, hl', hmem, rfl⟩, Or.inr (Or.inl hid)⟩

/-- Every effect keeps the owner map matching, unless it is a claim that drops a
lease of another task. -/
theorem OwnersMatch.effect {k k' : ExecutionLifecycleKernel} {request : ExecutionRequest}
    (hI : OwnersMatch k.state k.write_key_owners) (hrunning : RunsUnderLease k)
    (he : Effect k request k')
    (hkeep : ∀ claim, request = .claim claim → Claimable k claim → ¬ PrunesLease k claim) :
    OwnersMatch k'.state k'.write_key_owners := by
  cases he with
  | grant claim task current h =>
    exact hI.grant hrunning h (hkeep claim rfl ⟨task, current, h⟩)
  | extend beat state lease owners h _ howners => exact hI.extend h howners
  | close _ task_id state next lease h _ hnext => exact hI.close h hnext
  | same => exact hI

/-- A granted claim that drops a lease of another task leaves that lease without
its owner entries. -/
theorem PrunesLease.not_ownersMatch {k : ExecutionLifecycleKernel} {request : ClaimRequest}
    {task : Task} {current : TaskExecutionSnapshot} (hprunes : PrunesLease k request) :
    ¬ OwnersMatch (granted k request task current).state
      (granted k request task current).write_key_owners := by
  obtain ⟨id, lease, hid, hl, hexp, key, hkey⟩ := hprunes
  intro hmatch
  have hheld : Holds (granted k request task current).state id lease :=
    holds_insert.mpr (Or.inr ⟨hid, hl⟩)
  have ho := (hmatch key (owner_of id lease)).mpr ⟨id, lease, hheld, hkey, rfl⟩
  rw [granted, get_claimed_owners] at ho
  rcases ho with ⟨_, ho⟩ | ⟨_, _, hlater⟩
  · exact hid (congrArg WriteKeyOwner.task_id ho)
  · exact absurd hlater (not_lt.mpr hexp)

/-! ## Agreement of `snapshot` and `restore` -/

/-- The snapshot of a kernel is accepted, and restores to a kernel with that
snapshot. -/
def RestoreAgrees (run_id : RunId) (tasks : List Task) (retry_budget : RetryBudget)
    (k : ExecutionLifecycleKernel) : Prop :=
  ∃ restored, restore run_id tasks retry_budget k.snapshot = .ok restored ∧
    restored.snapshot = k.snapshot

theorem SameDefinition.refl (k : ExecutionLifecycleKernel) : SameDefinition k k :=
  ⟨rfl, rfl, rfl, rfl⟩

/-- What a run keeps besides its owner map. -/
theorem run_sound {run_id : RunId} {tasks : List Task} {retry_budget : RetryBudget}
    {k₀ : ExecutionLifecycleKernel} (hnew : new run_id tasks retry_budget = .ok k₀)
    {requests : List ExecutionRequest} {t : DateTime} (ht : Timely requests t) :
    SameDefinition k₀ (execAll k₀ requests) ∧ Sound (execAll k₀ requests) t :=
  execAll_inv (I := fun k t => SameDefinition k₀ k ∧ Sound k t)
    (fun h ht => ⟨h.1, h.2.mono ht⟩) (fun h he => ⟨h.1.effect he, h.2.effect he⟩)
    (fun t => ⟨SameDefinition.refl k₀, new_sound hnew t⟩) ht

/-- A sound kernel restores exactly when its owner map matches its leases, and
it restores to itself. -/
theorem restore_snapshot {run_id : RunId} {tasks : List Task} {retry_budget : RetryBudget}
    {k₀ k : ExecutionLifecycleKernel} (hnew : new run_id tasks retry_budget = .ok k₀)
    (hsame : SameDefinition k₀ k) {t : DateTime} (hsound : Sound k t)
    {restored : ExecutionLifecycleKernel} :
    restore run_id tasks retry_budget k.snapshot = .ok restored ↔
      OwnersMatch k.state k.write_key_owners ∧ restored = k := by
  obtain ⟨hrun, hgoal, hbudget, htasks⟩ := hsame
  have hk₀ := new_eq_ok hnew
  have hrun₀ : k₀.run_id = run_id := by rw [hk₀]
  have hbudget₀ : k₀.retry_budget = retry_budget := by rw [hk₀]
  have hself : k = { k₀ with state := k.state, write_key_owners := k.write_key_owners } := by
    obtain ⟨_, _, _, _, _, _⟩ := k
    obtain rfl := hrun
    obtain rfl := hgoal
    obtain rfl := hbudget
    obtain rfl := htasks
    rfl
  rw [restore_eq_ok hnew]
  constructor
  · rintro ⟨_, _, _, _, _, hmatch, rfl⟩
    exact ⟨hmatch, hself.symm⟩
  · rintro ⟨hmatch, rfl⟩
    refine ⟨hrun.trans hrun₀, hgoal, ?_, fun id => ?_, fun id st hst => ?_, hmatch, hself⟩
    · show restored.retry_budget.max_attempts = _
      rw [hbudget, hbudget₀]
    · show id ∈ restored.state ↔ id ∈ k₀.tasks
      rw [hsound.ids, htasks]
    · exact admitted_congr hrun.symm hbudget.symm htasks.symm (hsound.admitted id st hst)

theorem restoreAgrees_iff {run_id : RunId} {tasks : List Task} {retry_budget : RetryBudget}
    {k₀ k : ExecutionLifecycleKernel} (hnew : new run_id tasks retry_budget = .ok k₀)
    (hsame : SameDefinition k₀ k) {t : DateTime} (hsound : Sound k t) :
    RestoreAgrees run_id tasks retry_budget k ↔ OwnersMatch k.state k.write_key_owners := by
  simp only [RestoreAgrees, restore_snapshot hnew hsame hsound]
  constructor
  · rintro ⟨_, ⟨hmatch, _⟩, _⟩
    exact hmatch
  · intro hmatch
    exact ⟨k, ⟨hmatch, rfl⟩, rfl⟩

end ExecutionLifecycleKernel

/-! ## Agreement of the kernel and the durable authority -/

namespace DurableExecutionAuthority

open ExecutionLifecycleKernel

variable {E R P : Type}

/-- The row of a run decodes to an envelope with this definition, whose
snapshot is the one of this kernel. -/
structure Stores (a : DurableExecutionAuthority E R P) (run_id : RunId) (tasks : List Task)
    (retry_budget : RetryBudget) (k : ExecutionLifecycleKernel)
    (current : VersionedState P) (envelope : ExecutionRunEnvelope E R) : Prop where
  loaded : a.decode_and_restore run_id current = .ok ⟨envelope, current.revision⟩
  tasks_eq : envelope.tasks = task_map tasks
  retry_budget_eq : envelope.retry_budget = retry_budget
  snapshot_eq : envelope.snapshot = k.snapshot

/-- Run alone, `apply` answers a request as the kernel does and commits the next
snapshot, or has nothing to commit. -/
def Commits (a : DurableExecutionAuthority E R P) (run_id : RunId) (tasks : List Task)
    (retry_budget : RetryBudget) (k : ExecutionLifecycleKernel) (request : ExecutionRequest) :
    Prop :=
  ∀ response k', k.step request = .ok (response, k') →
    ∀ (store : VersionedStateStore P) current envelope,
      store[entity_key run_id]? = some current →
      a.Stores run_id tasks retry_budget k current envelope → current.revision + 1 ≤ I64_MAX →
      (k'.snapshot = k.snapshot ∧
        (a.apply run_id request).run StoreOp.perform store =
          (.ok ⟨response, k'.snapshot, current.revision⟩, store)) ∨
      ∃ payload, a.serde_json.to_vec { envelope with snapshot := k'.snapshot } = .ok payload ∧
        (a.apply run_id request).run StoreOp.perform store =
          (.ok ⟨response, k'.snapshot, current.revision + 1⟩,
            store.insert (entity_key run_id) ⟨payload, current.revision + 1⟩)

/-- An envelope with this definition and the snapshot of a kernel that agrees
with it restores to that kernel. -/
theorem restore_kernel_snapshot {a : DurableExecutionAuthority E R P} {run_id : RunId}
    {tasks : List Task} {retry_budget : RetryBudget} {k₀ k : ExecutionLifecycleKernel}
    (hnew : new run_id tasks retry_budget = .ok k₀) (hsame : SameDefinition k₀ k)
    {t : DateTime} (hsound : Sound k t) {envelope : ExecutionRunEnvelope E R}
    (hheader : a.Header run_id envelope) (htasks : envelope.tasks = task_map tasks)
    (hbudget : envelope.retry_budget = retry_budget) (hsnapshot : envelope.snapshot = k.snapshot)
    {restored : ExecutionLifecycleKernel} :
    a.restore_kernel run_id envelope = .ok restored ↔
      OwnersMatch k.state k.write_key_owners ∧ restored = k := by
  rw [restore_kernel_eq_ok, hheader.run_id_eq, htasks, hbudget, hsnapshot]
  show a.Header run_id envelope ∧
    restore run_id (task_values tasks) retry_budget k.snapshot = .ok restored ↔ _
  rw [restore_snapshot (new_task_values hnew) hsame hsound]
  exact and_iff_right hheader

/-- One round on a state that stores a kernel which agrees: the answer is the
kernel's, and the next envelope is written when the kernel changed and still
agrees. -/
theorem apply_round_of_step {a : DurableExecutionAuthority E R P}
    (htotal : a.serde_json.Total) {run_id : RunId} {tasks : List Task}
    {retry_budget : RetryBudget} {k₀ k k' : ExecutionLifecycleKernel}
    (hnew : new run_id tasks retry_budget = .ok k₀) {t t' : DateTime}
    (hsame : SameDefinition k₀ k) (hsound : Sound k t)
    (hsame' : SameDefinition k₀ k') (hsound' : Sound k' t')
    (hmatch' : OwnersMatch k'.state k'.write_key_owners) {request : ExecutionRequest}
    {response : ExecutionResponse} (hstep : k.step request = .ok (response, k'))
    {current : VersionedState P} {envelope : ExecutionRunEnvelope E R}
    (hstores : a.Stores run_id tasks retry_budget k current envelope) :
    ∃ round, a.apply_round run_id request current = .ok round ∧
      (k'.snapshot = k.snapshot ∧
          round = ⟨response, k'.snapshot, current.revision, none⟩ ∨
        ∃ payload, a.serde_json.to_vec { envelope with snapshot := k'.snapshot } = .ok payload ∧
          round = ⟨response, k'.snapshot, current.revision, some payload⟩) := by
  obtain ⟨hloaded, htasks, hbudget, hsnapshot⟩ := hstores
  obtain ⟨_, _, k₁, hk₁⟩ := decode_and_restore_eq_ok.mp hloaded
  have hheader := (restore_kernel_eq_ok.mp hk₁).1
  obtain ⟨_, rfl⟩ := (restore_kernel_snapshot hnew hsame hsound hheader htasks hbudget
    hsnapshot).mp hk₁
  by_cases hchanged : k'.snapshot = k₁.snapshot
  · exact ⟨_, apply_round_eq_ok.mpr ⟨_, k₁, k', response, hloaded, hk₁, hstep,
      Or.inl ⟨hchanged, rfl⟩⟩, Or.inl ⟨hchanged, rfl⟩⟩
  · obtain ⟨payload, hpayload⟩ := htotal { envelope with snapshot := k'.snapshot }
    have hk' : a.restore_kernel run_id { envelope with snapshot := k'.snapshot } = .ok k' :=
      (restore_kernel_snapshot hnew hsame' hsound' (hheader.with_snapshot k'.snapshot) htasks hbudget
        rfl).mpr ⟨hmatch', rfl⟩
    exact ⟨_, apply_round_eq_ok.mpr ⟨_, k₁, k', response, hloaded, hk₁, hstep,
      Or.inr ⟨hchanged, payload, ⟨k', hk'⟩, hpayload, rfl⟩⟩, Or.inr ⟨payload, hpayload, rfl⟩⟩

/-- A round with nothing to write ends with its answer. -/
theorem run_apply_once_unchanged {a : DurableExecutionAuthority E R P} {run_id : RunId}
    {request : ExecutionRequest}
    (retry : VersionedState P → StoreProg P (Fault DurableExecutionError) DurableCommandResult)
    {current : VersionedState P} (store : VersionedStateStore P) {output : ExecutionResponse}
    {snapshot : ExecutionLifecycleSnapshot} {revision : ℕ}
    (hround : a.apply_round run_id request current = .ok ⟨output, snapshot, revision, none⟩) :
    (a.apply_once run_id request retry current).run StoreOp.perform store =
      (.ok ⟨output, snapshot, revision⟩, store) := by
  unfold apply_once
  rw [hround]
  rfl

/-- A round run alone meets no conflict, whatever it would do on one. -/
theorem run_apply_once_changed {a : DurableExecutionAuthority E R P} {run_id : RunId}
    {request : ExecutionRequest}
    (retry : VersionedState P → StoreProg P (Fault DurableExecutionError) DurableCommandResult)
    {current : VersionedState P} {store : VersionedStateStore P}
    (hrow : store[entity_key run_id]? = some current) (hrange : current.revision + 1 ≤ I64_MAX)
    {output : ExecutionResponse} {snapshot : ExecutionLifecycleSnapshot} {payload : P}
    (hround : a.apply_round run_id request current =
      .ok ⟨output, snapshot, current.revision, some payload⟩) :
    (a.apply_once run_id request retry current).run StoreOp.perform store =
      (.ok ⟨output, snapshot, current.revision + 1⟩,
        store.insert (entity_key run_id) ⟨payload, current.revision + 1⟩) := by
  have hswap : (StoreOp.compare_and_swap (entity_key run_id) current.revision payload).perform
      store = _ := VersionedStateStore.compare_and_swap_applied payload hrow hrange
  unfold apply_once
  rw [hround, Prog.liftM_eq, Prog.done_ok_bind, Prog.run_op, hswap]
  rfl

theorem run_load_row {α : Type} {run_id : RunId} {store : VersionedStateStore P}
    {current : VersionedState P} (hrow : store[entity_key run_id]? = some current)
    (f : VersionedState P → StoreProg P (Fault DurableExecutionError) α) :
    (load_row run_id >>= f).run StoreOp.perform store = (f current).run StoreOp.perform store := by
  have hperform : (StoreOp.load (P := P) (entity_key run_id)).perform store =
      (store[entity_key run_id]?, store) := rfl
  simp only [load_row, Prog.op_bind, Prog.run_op, hperform, hrow, ok_or, Prog.done_ok_bind]

theorem exists_apply_once (a : DurableExecutionAuthority E R P) (run_id : RunId)
    (request : ExecutionRequest) (n : ℕ) :
    ∃ retry, a.apply_loop run_id request n = a.apply_once run_id request retry := by
  rcases n with _ | n
  · exact ⟨_, rfl⟩
  · exact ⟨_, rfl⟩

/-- **A command that the kernel accepts is committed**, when the kernel agreed
with its snapshot before it and agrees after it. -/
theorem commits_of_agrees {a : DurableExecutionAuthority E R P}
    (htotal : a.serde_json.Total) {run_id : RunId} {tasks : List Task}
    {retry_budget : RetryBudget} {k₀ k : ExecutionLifecycleKernel}
    (hnew : new run_id tasks retry_budget = .ok k₀) {t : DateTime}
    (hsame : SameDefinition k₀ k) (hsound : Sound k t) {request : ExecutionRequest}
    (hnext : ∀ response k', k.step request = .ok (response, k') →
      SameDefinition k₀ k' ∧ (∃ t', Sound k' t') ∧ OwnersMatch k'.state k'.write_key_owners) :
    a.Commits run_id tasks retry_budget k request := by
  intro response k' hstep store current envelope hrow hstores hrange
  obtain ⟨hsame', ⟨t', hsound'⟩, hmatch'⟩ := hnext response k' hstep
  obtain ⟨round, hround, hcases⟩ := apply_round_of_step htotal hnew hsame hsound hsame' hsound'
    hmatch' hstep hstores
  have hload : (a.apply run_id request).run StoreOp.perform store =
      (a.apply_loop run_id request a.cas_retry_limit current).run StoreOp.perform store :=
    run_load_row hrow _
  obtain ⟨retry, hretry⟩ := exists_apply_once a run_id request a.cas_retry_limit
  rw [hload, hretry]
  rcases hcases with ⟨hsnapshot, rfl⟩ | ⟨payload, hpayload, rfl⟩
  · exact Or.inl ⟨hsnapshot, run_apply_once_unchanged retry store hround⟩
  · exact Or.inr ⟨payload, hpayload, run_apply_once_changed retry hrow hrange hround⟩

end DurableExecutionAuthority

namespace ExecutionLifecycleKernel

open DurableExecutionAuthority

/-! ## Runs -/

/-- No granted claim of the run drops a lease of another task. -/
def KeepsLeases (k : ExecutionLifecycleKernel) (requests : List ExecutionRequest) : Prop :=
  ∀ pre claim, pre ++ [.claim claim] <+: requests → Claimable (execAll k pre) claim →
    ¬ PrunesLease (execAll k pre) claim

/-- There is a time that none of finitely many is later than. -/
theorem exists_latest {α : Type} (time : α → DateTime) (xs : List α) :
    ∃ t, ∀ x ∈ xs, time x ≤ t := by
  induction xs with
  | nil => exact ⟨0, fun x hx => absurd hx List.not_mem_nil⟩
  | cons x xs ih =>
    obtain ⟨t, ht⟩ := ih
    refine ⟨max (time x) t, fun y hy => ?_⟩
    rcases List.mem_cons.mp hy with rfl | hy
    · exact le_max_left _ _
    · exact le_trans (ht y hy) (le_max_right _ _)

/-- A part of a run whose times do not decrease is timely at some time. -/
theorem exists_timely {requests pre : List ExecutionRequest}
    (hsorted : (requests.map ExecutionRequest.time).Pairwise (· ≤ ·)) (hpre : pre <+: requests) :
    ∃ t, Timely pre t := by
  obtain ⟨t, ht⟩ := exists_latest ExecutionRequest.time pre
  exact ⟨t, hsorted.sublist (hpre.sublist.map _), ht⟩

/-- What is known of the kernel after a part of a run. -/
theorem prefix_sound {run_id : RunId} {tasks : List Task} {retry_budget : RetryBudget}
    {k : ExecutionLifecycleKernel} (hnew : new run_id tasks retry_budget = .ok k)
    {requests pre : List ExecutionRequest}
    (hsorted : (requests.map ExecutionRequest.time).Pairwise (· ≤ ·)) (hpre : pre <+: requests) :
    ∃ t, SameDefinition k (execAll k pre) ∧ Sound (execAll k pre) t := by
  obtain ⟨t, ht⟩ := exists_timely hsorted hpre
  exact ⟨t, run_sound hnew ht⟩

theorem execAll_snoc (k : ExecutionLifecycleKernel) (pre : List ExecutionRequest)
    (request : ExecutionRequest) :
    execAll k (pre ++ [request]) = exec (execAll k pre) request := by
  rw [execAll_append]
  rfl

theorem KeepsLeases.of_prefix {k : ExecutionLifecycleKernel}
    {requests pre : List ExecutionRequest} (h : KeepsLeases k requests) (hpre : pre <+: requests) :
    KeepsLeases k pre :=
  fun past claim hpast => h past claim (hpast.trans hpre)

theorem KeepsLeases.snoc {k : ExecutionLifecycleKernel} {requests : List ExecutionRequest}
    {request : ExecutionRequest} : KeepsLeases k (requests ++ [request])
    ↔ KeepsLeases k requests ∧ ∀ claim, request = .claim claim →
      Claimable (execAll k requests) claim → ¬ PrunesLease (execAll k requests) claim := by
  constructor
  · intro h
    refine ⟨h.of_prefix (List.prefix_append _ _), ?_⟩
    rintro claim rfl
    exact h requests claim List.prefix_rfl
  · rintro ⟨hkeep, hlast⟩ pre claim hpre
    rcases List.prefix_concat_iff.mp hpre with heq | hpre
    · obtain ⟨rfl, hsame⟩ := List.append_inj' heq rfl
      exact hlast claim (List.singleton_inj.mp hsame).symm
    · exact hkeep pre claim hpre

theorem new_ownersMatch {run_id : RunId} {tasks : List Task} {retry_budget : RetryBudget}
    {k : ExecutionLifecycleKernel} (hnew : new run_id tasks retry_budget = .ok k) :
    OwnersMatch k.state k.write_key_owners := by
  intro key o
  have hempty : k.write_key_owners[key]? = none := by
    rw [new_eq_ok hnew]
    exact Std.ExtTreeMap.getElem?_empty
  constructor
  · intro ho
    rw [hempty] at ho
    cases ho
  · rintro ⟨id, lease, hl, _⟩
    exact absurd hl (new_holds_nothing hnew id lease)

/-- As long as claims drop no lease of another task, the owner map matches. The times of the
requests play no part in this. -/
theorem KeepsLeases.ownersMatch {run_id : RunId} {tasks : List Task}
    {retry_budget : RetryBudget} {k : ExecutionLifecycleKernel}
    (hnew : new run_id tasks retry_budget = .ok k) {requests : List ExecutionRequest}
    (hkeep : KeepsLeases k requests) :
    OwnersMatch (execAll k requests).state (execAll k requests).write_key_owners := by
  induction requests using List.reverseRecOn with
  | nil => exact new_ownersMatch hnew
  | append_singleton requests request ih =>
    obtain ⟨hkeep, hlast⟩ := KeepsLeases.snoc.mp hkeep
    have haccounted : Accounted k (execAll k requests) := (new_accounted hnew).run
    rw [execAll_snoc]
    exact (ih hkeep).effect haccounted.runsUnderLease (exec_effect _ request) hlast

/-- **When `snapshot`, `restore` and the durable authority agree.** In a run
whose times do not decrease: after every request the snapshot restores to a
kernel with the same snapshot, and every accepted command is committed by
`apply`, if and only if no granted claim comes at a time at which another task
still has an expired lease with write keys. -/
theorem restore_agrees_iff {E R P : Type} (a : DurableExecutionAuthority E R P)
    (htotal : a.serde_json.Total) {run_id : RunId} {tasks : List Task}
    {retry_budget : RetryBudget} {k : ExecutionLifecycleKernel}
    (hnew : new run_id tasks retry_budget = .ok k) (requests : List ExecutionRequest)
    (hsorted : (requests.map ExecutionRequest.time).Pairwise (· ≤ ·)) :
    ((∀ pre, pre <+: requests → RestoreAgrees run_id tasks retry_budget (execAll k pre)) ∧
      (∀ pre request, pre ++ [request] <+: requests →
        a.Commits run_id tasks retry_budget (execAll k pre) request)) ↔
    KeepsLeases k requests := by
  constructor
  · rintro ⟨hrestores, _⟩ pre claim hpre ⟨task, current, hgrant⟩ hprunes
    obtain ⟨t, hsame, hsound⟩ := prefix_sound hnew hsorted hpre
    have hmatch := (restoreAgrees_iff hnew hsame hsound).mp (hrestores _ hpre)
    rw [execAll_snoc, hgrant.exec_claim] at hmatch
    exact hprunes.not_ownersMatch hmatch
  · intro hkeep
    refine ⟨fun pre hpre => ?_, fun pre request hpre => ?_⟩
    · obtain ⟨t, hsame, hsound⟩ := prefix_sound hnew hsorted hpre
      exact (restoreAgrees_iff hnew hsame hsound).mpr
        ((hkeep.of_prefix hpre).ownersMatch hnew)
    · obtain ⟨t, hsame, hsound⟩ :=
        prefix_sound hnew hsorted ((List.prefix_append pre [request]).trans hpre)
      obtain ⟨t', hsame', hsound'⟩ := prefix_sound hnew hsorted hpre
      refine commits_of_agrees htotal hnew hsame hsound fun response k' hstep => ?_
      have hexec : execAll k (pre ++ [request]) = k' := by
        rw [execAll_snoc]
        simp only [exec, hstep]
      rw [hexec] at hsame' hsound'
      exact ⟨hsame', ⟨t', hsound'⟩, hexec ▸ (hkeep.of_prefix hpre).ownersMatch hnew⟩

/-- An authority over runs without projections, that stores envelopes as they
are. -/
def plainAuthority : DurableExecutionAuthority Empty Empty (ExecutionRunEnvelope Empty Empty) where
  engineer_verifier := ⟨nofun, nofun, nofun, nofun, nofun⟩
  independent_review := ⟨nofun, nofun, nofun, nofun, nofun⟩
  serde_json := ⟨.ok, .ok⟩
  cas_retry_limit := DEFAULT_EXECUTION_CAS_RETRY_LIMIT

/-- A single claim drops nothing, so its snapshot restores. -/
theorem restore_agrees_claimed :
    ∃ k, new "run" [readyTask "a" [] ["x"], readyTask "b" [] ["y"]] ⟨1, 3⟩ = .ok k ∧
      RestoreAgrees "run" [readyTask "a" [] ["x"], readyTask "b" [] ["y"]] ⟨1, 3⟩
        (execAll k [.claim ⟨"a", "worker-a", .Engineer, "lease-a", 1, 10⟩]) := by
  obtain ⟨k, hk⟩ : ∃ k, new "run" [readyTask "a" [] ["x"], readyTask "b" [] ["y"]] ⟨1, 3⟩ = .ok k :=
    ⟨_, rfl⟩
  refine ⟨k, hk, ((restore_agrees_iff plainAuthority (fun a => ⟨a, rfl⟩) hk
    [.claim ⟨"a", "worker-a", .Engineer, "lease-a", 1, 10⟩] (by decide)).mpr ?_).1 _
    List.prefix_rfl⟩
  rintro pre claim hpre _ ⟨id, lease, _, hl, _⟩
  have hnil : pre = [] := by
    have hlength := hpre.length_le
    simp only [List.length_append, List.length_singleton] at hlength
    exact List.length_eq_zero_iff.mp (by omega)
  subst hnil
  exact new_holds_nothing hk id lease hl

/-- **Where they disagree.** Task `a` is running under an expired lease when
task `b`, with other write keys, is claimed. The claim is granted and drops the
owner entry of `a`; `restore` rejects the snapshot, and the durable authority,
on the same state, reports the same command as corrupt. -/
theorem restore_disagrees :
    ∃ k, new "run" [readyTask "a" [] ["x"], readyTask "b" [] ["y"]] ⟨1, 3⟩ = .ok k ∧
      (∃ r, (execAll k [.claim ⟨"a", "worker-a", .Engineer, "lease-a", 1, 10⟩]).step
        (.claim ⟨"b", "worker-b", .Engineer, "lease-b", 11, 20⟩) = .ok r) ∧
      ¬ RestoreAgrees "run" [readyTask "a" [] ["x"], readyTask "b" [] ["y"]] ⟨1, 3⟩
        (execAll k [.claim ⟨"a", "worker-a", .Engineer, "lease-a", 1, 10⟩,
          .claim ⟨"b", "worker-b", .Engineer, "lease-b", 11, 20⟩]) ∧
      ((plainAuthority.apply "run"
          (.claim ⟨"b", "worker-b", .Engineer, "lease-b", 11, 20⟩)).run StoreOp.perform
        ((plainAuthority.apply "run"
            (.claim ⟨"a", "worker-a", .Engineer, "lease-a", 1, 10⟩)).run StoreOp.perform
          ((plainAuthority.initialize_run "run"
              [readyTask "a" [] ["x"], readyTask "b" [] ["y"]] ⟨1, 3⟩).run StoreOp.perform
            ∅).2).2).1 =
        .error (.error (.CorruptState "run" (.Lifecycle (.WriteKeyOwnersMismatch
          (.ofList [("x", WriteKeyOwner.mk "a" "worker-a" "lease-a" 10),
            ("y", WriteKeyOwner.mk "b" "worker-b" "lease-b" 20)])
          (.ofList [("y", WriteKeyOwner.mk "b" "worker-b" "lease-b" 20)]))))) := by
  obtain ⟨k, hk⟩ : ∃ k, new "run" [readyTask "a" [] ["x"], readyTask "b" [] ["y"]] ⟨1, 3⟩ = .ok k :=
    ⟨_, rfl⟩
  refine ⟨k, hk, ?_, ?_, ?_⟩
  · cases hk
    exact ⟨_, rfl⟩
  · cases hk
    rintro ⟨restored, h, _⟩
    have hok := congrArg Except.toBool h
    rw [Except.toBool] at hok
    revert hok
    decide +kernel
  · decide +kernel

end ExecutionLifecycleKernel

end OvcaCore

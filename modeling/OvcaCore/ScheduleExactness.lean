/-
The plans of the scheduler, exactly.

The loop keeps an exact account of what it has done (`Progress`): the waves so far are packed
greedily, and what is left to schedule is what they leave. So a plan is exact
(`PlanExact`), a task graph that has a plan is schedulable, and one that is schedulable has a
plan unless its waves are more than a wave index can count. Where the loop finds no ready task,
what is left are the tasks that reach a cycle.
-/
import OvcaCore.PlannedWaves
import OvcaCore.Lib.Graphs
import Mathlib.Data.Finset.Max
import Mathlib.Data.Finset.SymmDiff
import Std.Data.String.ToNat

set_option autoImplicit false

namespace OvcaCore.Scheduler

open OvcaCore.Checks OvcaCore.OrderedMaps OvcaCore.ExecutionLifecycle OvcaCore.Graphs
open Relation

variable {tasks : List Task} {completed remaining : List TaskId} {waves : List ExecutionWave}

/-! ## The specification -/

/-- The first task depends on the second. -/
def DependsOn (tasks : List Task) (task_id dependency_id : TaskId) : Prop :=
  ∃ task ∈ tasks, task.id = task_id ∧ dependency_id ∈ task.dependencies

/-- A list of tasks that can be put in order. -/
structure Schedulable (tasks : List Task) : Prop where
  unique : (tasks.map Task.id).Nodup
  no_self : ∀ task ∈ tasks, task.id ∉ task.dependencies
  known : ∀ task ∈ tasks, ∀ dependency_id ∈ task.dependencies,
    dependency_id ∈ tasks.map Task.id
  acyclic : Acyclic (DependsOn tasks)

/-- A wave that is packed exactly, after the ids in earlier waves. -/
structure WaveExact (tasks : List Task) (earlier wave : List TaskId) : Prop where
  nonempty : wave ≠ []
  sorted : wave.Pairwise (· < ·)
  known : ∀ task_id ∈ wave, task_id ∈ tasks.map Task.id
  fresh : ∀ task_id ∈ wave, task_id ∉ earlier
  dependencies : ∀ task ∈ tasks, task.id ∈ wave →
    ∀ dependency_id ∈ task.dependencies, dependency_id ∈ earlier
  disjoint : ∀ task ∈ tasks, ∀ task' ∈ tasks, task.id ∈ wave → task'.id ∈ wave →
    task.id ≠ task'.id → ∀ key ∈ task.write_keys, key ∉ task'.write_keys
  greedy : ∀ task ∈ tasks, task.id ∉ earlier → task.id ∉ wave →
    (∀ dependency_id ∈ task.dependencies, dependency_id ∈ earlier) →
    ∃ task' ∈ tasks, task'.id ∈ wave ∧ task'.id < task.id ∧
      ∃ key ∈ task.write_keys, key ∈ task'.write_keys

/-- The task ids in the waves before a position. -/
def earlier (waves : List ExecutionWave) (k : ℕ) : List TaskId :=
  (waves.take k).flatMap ExecutionWave.task_ids

/-- Waves that are packed exactly, one after the other. -/
structure WavesExact (tasks : List Task) (waves : List ExecutionWave) : Prop where
  indexes : waves.map ExecutionWave.index = List.range waves.length
  modes : ∀ wave ∈ waves, wave.mode = wave_mode wave.task_ids
  waves : ∀ k wave, waves[k]? = some wave → WaveExact tasks (earlier waves k) wave.task_ids

/-- A plan that goes through the tasks exactly. -/
structure PlanExact (tasks : List Task) (plan : ExecutionPlan) : Prop where
  version : plan.contract_version = ContractVersion.current
  ids : (plan.waves.flatMap ExecutionWave.task_ids).Perm (tasks.map Task.id)
  waves : WavesExact tasks plan.waves

/-! ## One round -/

/-- A ready task that a wave leaves out shares a write key with one it took before, or with one
of the keys that were taken. -/
theorem pack_wave_greedy {tasks_by_id : BTreeMap TaskId Task} (keys : BTreeSet String)
    {ready : List TaskId} (hsorted : ready.Pairwise (· < ·)) {task_id : TaskId}
    (hready : task_id ∈ ready) (hleft : task_id ∉ pack_wave tasks_by_id keys ready) :
    (∃ key ∈ write_keys_of tasks_by_id task_id, key ∈ keys) ∨
    ∃ taken ∈ pack_wave tasks_by_id keys ready, taken < task_id
      ∧ ∃ key ∈ write_keys_of tasks_by_id task_id, key ∈ write_keys_of tasks_by_id taken := by
  induction ready generalizing keys with
  | nil => exact absurd hready List.not_mem_nil
  | cons first ready ih =>
    rw [List.pairwise_cons] at hsorted
    rw [pack_wave] at hleft ⊢
    by_cases hconflict : ((write_keys_of tasks_by_id first).any fun key => keys.contains key)
        = true
    · rw [if_pos hconflict] at hleft ⊢
      rcases List.mem_cons.mp hready with rfl | hready
      · obtain ⟨key, hkey, htaken⟩ := List.any_eq_true.mp hconflict
        exact Or.inl ⟨key, hkey, Std.ExtTreeSet.contains_iff_mem.mp htaken⟩
      · -- the first task is left out, so the taken keys are the same for the rest
        exact ih keys hsorted.2 hready hleft
    · rw [if_neg hconflict] at hleft ⊢
      rw [List.mem_cons, not_or] at hleft
      have hready' := (List.mem_cons.mp hready).resolve_left hleft.1
      -- the keys taken for the rest are the old ones and those of the first task
      rcases ih _ hsorted.2 hready' hleft.2 with ⟨key, hkey, htaken⟩ | ⟨taken, htaken, hlt, hshare⟩
      · rcases mem_insertMany.mp htaken with htaken | htaken
        · exact Or.inl ⟨key, hkey, htaken⟩
        · exact Or.inr ⟨first, List.mem_cons_self, hsorted.1 task_id hready', key, hkey, htaken⟩
      · exact Or.inr ⟨taken, List.mem_cons_of_mem _ htaken, hlt, hshare⟩

/-- What the loop knows when it starts a round. -/
structure Progress (tasks : List Task) (completed remaining : List TaskId)
    (waves : List ExecutionWave) : Prop where
  account : completed = waves.flatMap ExecutionWave.task_ids
  nodup : completed.Nodup
  sorted : remaining.Pairwise (· < ·)
  left : ∀ task_id, task_id ∈ remaining ↔ task_id ∈ tasks.map Task.id ∧ task_id ∉ completed
  known : ∀ task_id ∈ completed, task_id ∈ tasks.map Task.id
  exact : WavesExact tasks waves
  count : waves.length ≤ U32_MAX + 1

theorem earlier_length (waves : List ExecutionWave) :
    earlier waves waves.length = waves.flatMap ExecutionWave.task_ids := by
  rw [earlier, List.take_length]

theorem earlier_append {k : ℕ} (hk : k ≤ waves.length) (rest : List ExecutionWave) :
    earlier (waves ++ rest) k = earlier waves k := by
  rw [earlier, List.take_append_of_le_length hk]
  rfl

theorem WavesExact.snoc (h : WavesExact tasks waves) {task_ids : List TaskId}
    (hwave : WaveExact tasks (waves.flatMap ExecutionWave.task_ids) task_ids) :
    WavesExact tasks (waves ++ [⟨waves.length, wave_mode task_ids, task_ids⟩]) := by
  refine ⟨?_, ?_, ?_⟩
  · rw [List.map_append, h.indexes, List.length_append, List.length_singleton, List.range_succ]
    rfl
  · intro wave hmem
    rcases List.mem_append.mp hmem with hmem | hmem
    · exact h.modes wave hmem
    · rw [List.mem_singleton.mp hmem]
  · intro k wave hget
    by_cases hk : k < waves.length
    · rw [List.getElem?_append_left hk] at hget
      rw [earlier_append (Nat.le_of_lt hk)]
      exact h.waves k wave hget
    · obtain ⟨hlt, -⟩ := List.getElem?_eq_some_iff.mp hget
      rw [List.length_append, List.length_singleton] at hlt
      -- the only position that is new is the last one
      obtain rfl : k = waves.length := by omega
      rw [List.getElem?_concat_length, Option.some_inj] at hget
      rw [earlier_append (Nat.le_refl _), earlier_length, ← hget]
      exact hwave

theorem mem_write_keys_of (hunique : (tasks.map Task.id).Nodup) {task : Task} (hmem : task ∈ tasks) :
    write_keys_of (task_map tasks) task.id = task.write_keys := by
  have hget := (ExecutionLifecycleKernel.get_task_map hunique).mpr ⟨hmem, rfl⟩
  rw [write_keys_of, hget]
  rfl

/-- The task with a known id is in the map. -/
theorem get_task_of_id (hunique : (tasks.map Task.id).Nodup) {task_id : TaskId}
    (h : task_id ∈ tasks.map Task.id) :
    ∃ task ∈ tasks, task.id = task_id ∧ (task_map tasks)[task_id]? = some task := by
  obtain ⟨task, hmem, rfl⟩ := List.mem_map.mp h
  exact ⟨task, hmem, rfl, (ExecutionLifecycleKernel.get_task_map hunique).mpr ⟨hmem, rfl⟩⟩

/-- A task that is left is ready iff its dependencies are completed. -/
theorem Progress.mem_ready (h : Progress tasks completed remaining waves)
    (hunique : (tasks.map Task.id).Nodup) {task : Task} (hmem : task ∈ tasks) :
    task.id ∈ ready_tasks (task_map tasks) completed remaining ↔ task.id ∉ completed
      ∧ ∀ dependency_id ∈ task.dependencies, dependency_id ∈ completed := by
  have hget := (ExecutionLifecycleKernel.get_task_map hunique).mpr ⟨hmem, rfl⟩
  rw [mem_ready_tasks, h.left]
  constructor
  · rintro ⟨⟨-, hnot⟩, task', hget', hdependencies⟩
    rw [hget, Option.some_inj] at hget'
    exact ⟨hnot, hget' ▸ hdependencies⟩
  · exact fun ⟨hnot, hdependencies⟩ =>
      ⟨⟨List.mem_map_of_mem hmem, hnot⟩, task, hget, hdependencies⟩

/-- The wave of a round is packed exactly. -/
theorem Progress.wave (h : Progress tasks completed remaining waves)
    (hunique : (tasks.map Task.id).Nodup)
    (hready : ready_tasks (task_map tasks) completed remaining ≠ []) :
    WaveExact tasks completed
      (pack_wave (task_map tasks) ∅ (ready_tasks (task_map tasks) completed remaining)) := by
  have hsublist := @pack_wave_sublist (task_map tasks) ∅
    (ready_tasks (task_map tasks) completed remaining)
  have hsorted : (ready_tasks (task_map tasks) completed remaining).Pairwise (· < ·) :=
    h.sorted.filter _
  have hleft : ∀ task_id ∈ pack_wave (task_map tasks) ∅
      (ready_tasks (task_map tasks) completed remaining), task_id ∈ remaining :=
    fun task_id hmem => (mem_ready_tasks.mp (hsublist.subset hmem)).1
  refine ⟨?_, hsorted.sublist hsublist, fun task_id hmem => ((h.left _).mp (hleft _ hmem)).1,
    fun task_id hmem => ((h.left _).mp (hleft _ hmem)).2, ?_, ?_, ?_⟩
  · obtain ⟨first, ready, hcons⟩ := List.exists_cons_of_ne_nil hready
    rw [hcons, pack_wave_cons]
    exact List.cons_ne_nil _ _
  · -- a task that is taken was ready
    exact fun task hmem hwave => ((h.mem_ready hunique hmem).mp (hsublist.subset hwave)).2
  · intro task hmem task' hmem' hwave hwave' hne key hkey hkey'
    have hpairwise := (@pack_wave_avoids (task_map tasks) ∅
      (ready_tasks (task_map tasks) completed remaining)).2
    -- a wave is pairwise apart in its order, and sharing no key has no order
    have : Std.Symm (SharesNoKey (task_map tasks)) :=
      ⟨fun _ _ hshares key hb ha => hshares key ha hb⟩
    have hshares := hpairwise.forall hwave hwave' hne
    rw [SharesNoKey, mem_write_keys_of hunique hmem, mem_write_keys_of hunique hmem'] at hshares
    exact hshares key hkey hkey'
  · intro task hmem hnot hnotwave hdependencies
    -- a task that could go was ready, so the packing left it out for a key
    have hisready := (h.mem_ready hunique hmem).mpr ⟨hnot, hdependencies⟩
    rcases pack_wave_greedy ∅ hsorted hisready hnotwave with
      ⟨key, -, hempty⟩ | ⟨taken, htaken, hlt, key, hkey, hshared⟩
    · exact absurd hempty Std.ExtTreeSet.not_mem_empty
    · obtain ⟨task', hmem', rfl, -⟩ :=
        get_task_of_id hunique ((h.left _).mp (hleft _ htaken)).1
      rw [mem_write_keys_of hunique hmem] at hkey
      rw [mem_write_keys_of hunique hmem'] at hshared
      exact ⟨task', hmem', htaken, hlt, key, hkey, hshared⟩

/-- A round keeps the account. -/
theorem Progress.round (h : Progress tasks completed remaining waves) {task_ids : List TaskId}
    (hwave : WaveExact tasks completed task_ids) (hcount : ¬ U32_MAX < waves.length) :
    Progress tasks (completed ++ task_ids) (unscheduled task_ids remaining)
      (waves ++ [⟨waves.length, wave_mode task_ids, task_ids⟩]) := by
  refine ⟨?_, ?_, h.sorted.filter _, ?_, ?_, ?_, ?_⟩
  · rw [List.flatMap_append, ← h.account, List.flatMap_singleton]
  · rw [List.nodup_append]
    refine ⟨h.nodup, hwave.sorted.imp ne_of_lt, ?_⟩
    rintro task_id hcompleted _ htaken rfl
    exact hwave.fresh task_id htaken hcompleted
  · intro task_id
    rw [mem_unscheduled, h.left, List.mem_append, not_or, and_assoc]
  · intro task_id hmem
    rcases List.mem_append.mp hmem with hmem | hmem
    · exact h.known task_id hmem
    · exact hwave.known task_id hmem
  · refine h.exact.snoc ?_
    rw [← h.account]
    exact hwave
  · rw [List.length_append, List.length_singleton]
    omega

/-! ## The loop -/

/-- How the loop ends. -/
inductive LoopEnds (tasks : List Task) : Except (Fault ScheduleError) (List ExecutionWave) → Prop
  | scheduled (completed : List TaskId) (waves : List ExecutionWave)
      (h : Progress tasks completed [] waves) : LoopEnds tasks (.ok waves)
  | cycle (completed remaining : List TaskId) (waves : List ExecutionWave)
      (h : Progress tasks completed remaining waves) (hremaining : remaining ≠ [])
      (hready : ready_tasks (task_map tasks) completed remaining = []) :
      LoopEnds tasks (.error (Fault.error (.Cycle remaining)))
  | too_many (completed remaining : List TaskId) (waves : List ExecutionWave)
      (h : Progress tasks completed remaining waves) (hremaining : remaining ≠ [])
      (hcount : waves.length = U32_MAX + 1) :
      LoopEnds tasks (.error (.panic "execution wave count exceeds u32"))

/-- **The loop keeps the account to its end.** -/
theorem schedule_waves_ends (hunique : (tasks.map Task.id).Nodup)
    (h : Progress tasks completed remaining waves) :
    LoopEnds tasks (schedule_waves (task_map tasks) completed remaining waves) := by
  induction completed, remaining, waves using schedule_waves.induct (task_map tasks) with
  | case1 completed waves =>
    rw [schedule_waves, if_pos rfl]
    exact .scheduled completed waves h
  | case2 completed remaining waves hremaining ready hready =>
    rw [schedule_waves, if_neg hremaining, dif_pos hready]
    exact .cycle completed remaining waves h hremaining hready
  | case3 completed remaining waves hremaining ready hready hcount =>
    rw [schedule_waves, if_neg hremaining, dif_neg hready, if_pos hcount]
    exact .too_many completed remaining waves h hremaining (by have := h.count; omega)
  | case4 completed remaining waves hremaining ready hready task_ids hcount ih =>
    rw [schedule_waves, if_neg hremaining, dif_neg hready, if_neg hcount]
    exact ih (h.round (h.wave hunique hready) hcount)

/-! ## The checks before the loop -/

/-- What a task graph can be rejected for before it is scheduled. -/
inductive Rejected (tasks : List Task) : ScheduleError → Prop
  | duplicate (task_id : TaskId) (h : ¬ (tasks.map Task.id).Nodup) :
      Rejected tasks (.DuplicateTaskId task_id)
  | self_dependency (task : Task) (hmem : task ∈ tasks) (h : task.id ∈ task.dependencies) :
      Rejected tasks (.SelfDependency task.id)
  | missing (task : Task) (hmem : task ∈ tasks) (dependency_id : TaskId)
      (hdependency : dependency_id ∈ task.dependencies)
      (h : dependency_id ∉ tasks.map Task.id) :
      Rejected tasks (.MissingDependency task.id dependency_id)

theorem Rejected.not_schedulable {error : ScheduleError} (h : Rejected tasks error) :
    ¬ Schedulable tasks := by
  intro hschedulable
  cases h with
  | duplicate task_id h => exact h hschedulable.unique
  | self_dependency task hmem h => exact hschedulable.no_self task hmem h
  | missing task hmem dependency_id hdependency h =>
    exact h (hschedulable.known task hmem dependency_id hdependency)

theorem mem_dependency_set {dependencies : List TaskId} {dependency_id : TaskId} :
    dependency_id ∈ (Std.ExtTreeSet.ofList dependencies compare).toList
      ↔ dependency_id ∈ dependencies := by
  rw [Std.ExtTreeSet.mem_toList, mem_set_ofList]

theorem mem_task_map (hunique : (tasks.map Task.id).Nodup) {task_id : TaskId} :
    (task_map tasks).contains task_id = true ↔ task_id ∈ tasks.map Task.id := by
  rw [Std.ExtTreeMap.contains_iff_mem, mem_iff_get, List.mem_map]
  exact exists_congr fun task => ExecutionLifecycleKernel.get_task_map hunique

theorem validate_graph_ok (hunique : (tasks.map Task.id).Nodup) {task_id : TaskId} {task : Task}
    {u : Unit} : validate_graph (task_map tasks) task_id task = .ok u ↔
      task_id ∉ task.dependencies
        ∧ ∀ dependency_id ∈ task.dependencies, dependency_id ∈ tasks.map Task.id := by
  unfold validate_graph
  simp only [bind_eq_ok, reject_if_eq_ok, check_all_eq_ok, exists_const, mem_dependency_set,
    mem_set_ofList, not_not, mem_task_map hunique]

/-- **How a list of tasks is answered.** It is rejected, or the loop answers it. -/
theorem schedule_tasks_cases (tasks : List Task) :
    (∃ error, Rejected tasks error ∧ schedule_tasks tasks = .error (Fault.error error)) ∨
    ((tasks.map Task.id).Nodup
      ∧ (∀ task ∈ tasks, task.id ∉ task.dependencies
        ∧ ∀ dependency_id ∈ task.dependencies, dependency_id ∈ tasks.map Task.id)
      ∧ schedule_tasks tasks = (schedule_waves (task_map tasks) [] (task_map tasks).keys []).map
        fun waves => ⟨ContractVersion.current, waves⟩) := by
  unfold schedule_tasks
  cases hcounts : check_all (task_counts tasks).toList fun p =>
      reject_if (p.2 > 1) (Fault.error (ScheduleError.DuplicateTaskId p.1)) with
  | error fault =>
    refine Or.inl ?_
    obtain ⟨⟨task_id, count⟩, hmem, hfail⟩ := exists_of_check_all_eq_error hcounts
    obtain ⟨hcount, rfl⟩ := reject_if_eq_error.mp hfail
    refine ⟨_, .duplicate task_id fun hunique => ?_, rfl⟩
    exact ExecutionLifecycleKernel.task_counts_ok.mpr hunique _ hmem hcount
  | ok u =>
    simp only [check_all_eq_ok, reject_if_eq_ok] at hcounts
    have hunique := ExecutionLifecycleKernel.task_counts_ok.mp hcounts
    rw [ok_bind]
    cases hgraph : check_all (task_map tasks).toList fun p =>
        validate_graph (task_map tasks) p.1 p.2 with
    | error fault =>
      refine Or.inl ?_
      obtain ⟨⟨task_id, task⟩, hentry, hfail⟩ := exists_of_check_all_eq_error hgraph
      obtain ⟨hmem, rfl⟩ := (ExecutionLifecycleKernel.get_task_map hunique).mp
        (Std.ExtTreeMap.mem_toList_iff_getElem?_eq_some.mp hentry)
      simp only [hgraph, error_bind]
      unfold validate_graph at hfail
      by_cases hself : task.id ∈ (Std.ExtTreeSet.ofList task.dependencies compare)
      · simp only [reject_if_of hself, error_bind, Except.error.injEq] at hfail
        exact ⟨_, .self_dependency task hmem (mem_set_ofList.mp hself), by rw [hfail]⟩
      · simp only [reject_if_of_not hself, ok_bind] at hfail
        obtain ⟨dependency_id, hdependency, hfail⟩ := exists_of_check_all_eq_error hfail
        obtain ⟨hmissing, rfl⟩ := reject_if_eq_error.mp hfail
        exact ⟨_, .missing task hmem dependency_id (mem_dependency_set.mp hdependency)
          (fun hknown => hmissing ((mem_task_map hunique).mpr hknown)), rfl⟩
    | ok u =>
      refine Or.inr ⟨hunique, ?_, ?_⟩
      · intro task hmem
        rw [check_all_eq_ok] at hgraph
        have hget := (ExecutionLifecycleKernel.get_task_map hunique).mpr ⟨hmem, rfl⟩
        exact (validate_graph_ok hunique).mp
          (hgraph (task.id, task) (Std.ExtTreeMap.mem_toList_iff_getElem?_eq_some.mpr hget))
      · simp only [hgraph, ok_bind]
        cases schedule_waves (task_map tasks) [] (task_map tasks).keys [] <;> rfl

/-- The loop starts with an account of nothing. -/
theorem progress_start (hunique : (tasks.map Task.id).Nodup) :
    Progress tasks [] (task_map tasks).keys [] := by
  refine ⟨rfl, .nil, ?_, ?_, fun _ hmem => absurd hmem List.not_mem_nil,
    ⟨rfl, fun _ hmem => absurd hmem List.not_mem_nil, fun k wave hget => ?_⟩, Nat.zero_le _⟩
  · exact Std.ExtTreeMap.ordered_keys.imp fun {a b} hlt => compare_lt_iff_lt.mp hlt
  · intro task_id
    rw [← mem_task_map hunique, Std.ExtTreeMap.mem_keys, Std.ExtTreeMap.contains_iff_mem]
    exact (and_iff_left List.not_mem_nil).symm
  · exact absurd hget (by simp)

/-! ## Exact waves -/

theorem earlier_succ {k : ℕ} {wave : ExecutionWave} (h : waves[k]? = some wave) :
    earlier waves (k + 1) = earlier waves k ++ wave.task_ids := by
  rw [earlier, List.take_add_one, h, Option.toList_some, List.flatMap_append,
    List.flatMap_singleton]
  rfl

/-- What is in an earlier wave is in a wave at an earlier position. -/
theorem mem_earlier {k : ℕ} {task_id : TaskId} : task_id ∈ earlier waves k ↔
    ∃ j wave, j < k ∧ waves[j]? = some wave ∧ task_id ∈ wave.task_ids := by
  rw [earlier, List.mem_flatMap]
  constructor
  · rintro ⟨wave, hwave, hmem⟩
    obtain ⟨j, hj⟩ := List.mem_iff_getElem?.mp hwave
    rw [List.getElem?_take] at hj
    by_cases hjk : j < k
    · rw [if_pos hjk] at hj
      exact ⟨j, wave, hjk, hj, hmem⟩
    · rw [if_neg hjk] at hj
      exact nomatch hj
  · rintro ⟨j, wave, hjk, hwave, hmem⟩
    refine ⟨wave, List.mem_of_getElem? (i := j) ?_, hmem⟩
    rw [List.getElem?_take, if_pos hjk]
    exact hwave

/-- No task in a wave reaches a cycle. -/
theorem WavesExact.no_cycle (h : WavesExact tasks waves) {k : ℕ} {task_id : TaskId}
    (hmem : task_id ∈ earlier waves k) : ¬ ReachesCycle (DependsOn tasks) task_id := by
  induction k using Nat.strong_induction_on generalizing task_id with
  | h k ih =>
    intro hreaches
    obtain ⟨j, wave, hjk, hwave, htask⟩ := mem_earlier.mp hmem
    obtain ⟨dependency_id, ⟨task, hknown, rfl, hdependency⟩, hcycle⟩ := hreaches.exists_step
    have hearlier := (h.waves j wave hwave).dependencies task hknown htask _ hdependency
    exact ih j hjk hearlier hcycle

/-- Two waves that are packed exactly after the same waves take the same tasks. -/
theorem WaveExact.subset {before wave wave' : List TaskId} (h : WaveExact tasks before wave)
    (h' : WaveExact tasks before wave') : wave ⊆ wave' := by
  by_contra hnot
  -- the first task on which they differ has to wait for one before it, which both take
  have hdiffer : (symmDiff wave.toFinset wave'.toFinset).Nonempty := by
    rw [List.subset_def] at hnot
    push Not at hnot
    obtain ⟨task_id, hmem, hnotmem⟩ := hnot
    exact ⟨task_id, Finset.mem_symmDiff.mpr (Or.inl ⟨List.mem_toFinset.mpr hmem, by simpa⟩)⟩
  obtain ⟨first, hfirst, hleast⟩ := Finset.exists_min_image _ id hdiffer
  have hsame : ∀ task_id, task_id < first → (task_id ∈ wave ↔ task_id ∈ wave') := by
    intro task_id hlt
    by_contra hdiff
    have hmem : task_id ∈ symmDiff wave.toFinset wave'.toFinset := by
      rw [Finset.mem_symmDiff, List.mem_toFinset, List.mem_toFinset]
      tauto
    exact absurd (hleast task_id hmem) (not_le_of_gt hlt)
  have hclash : ∀ {w w' : List TaskId}, WaveExact tasks before w → WaveExact tasks before w' →
      (∀ task_id, task_id < first → (task_id ∈ w ↔ task_id ∈ w')) →
      first ∈ w → first ∉ w' → False := by
    intro w w' hw hw' hsame hmem hnotmem
    obtain ⟨task, htask, rfl⟩ := List.mem_map.mp (hw.known first hmem)
    obtain ⟨task', htask', htaken, hlt, key, hkey, hshared⟩ := hw'.greedy task htask
      (hw.fresh _ hmem) hnotmem (hw.dependencies task htask hmem)
    exact hw.disjoint task htask task' htask' hmem ((hsame _ hlt).mpr htaken) (ne_of_gt hlt) key
      hkey hshared
  rw [Finset.mem_symmDiff, List.mem_toFinset, List.mem_toFinset] at hfirst
  rcases hfirst with ⟨hmem, hnotmem⟩ | ⟨hmem, hnotmem⟩
  · exact hclash h h' hsame hmem hnotmem
  · exact hclash h' h (fun task_id hlt => (hsame task_id hlt).symm) hmem hnotmem

/-- Two exact sequences of waves agree as far as both go. -/
theorem WavesExact.agree {waves' : List ExecutionWave} (h : WavesExact tasks waves)
    (h' : WavesExact tasks waves') {k : ℕ} (hk : k ≤ waves.length) (hk' : k ≤ waves'.length) :
    earlier waves k = earlier waves' k := by
  induction k with
  | zero => rfl
  | succ k ih =>
    have hget := List.getElem?_eq_getElem (show k < waves.length by omega)
    have hget' := List.getElem?_eq_getElem (show k < waves'.length by omega)
    have hsame := ih (by omega) (by omega)
    have hwave := h.waves k _ hget
    have hwave' := h'.waves k _ hget'
    rw [← hsame] at hwave'
    rw [earlier_succ hget, earlier_succ hget', hsame]
    congr 1
    -- both waves have the same tasks and are sorted, so they are one list
    have hperm := (List.perm_ext_iff_of_nodup (hwave.sorted.imp ne_of_lt)
      (hwave'.sorted.imp ne_of_lt)).mpr fun task_id =>
        ⟨fun hmem => hwave.subset hwave' hmem, fun hmem => hwave'.subset hwave hmem⟩
    exact hperm.eq_of_pairwise (fun a b _ _ hab hba => absurd hab (lt_asymm hba)) hwave.sorted
      hwave'.sorted

/-- Exact waves take a task each, and different ones. -/
theorem WavesExact.length_le (h : WavesExact tasks waves) {k : ℕ} (hk : k ≤ waves.length) :
    k ≤ (earlier waves k).length ∧ (earlier waves k).Nodup
      ∧ earlier waves k ⊆ tasks.map Task.id := by
  induction k with
  | zero => exact ⟨Nat.zero_le _, .nil, fun _ hmem => absurd hmem List.not_mem_nil⟩
  | succ k ih =>
    have hget := List.getElem?_eq_getElem (show k < waves.length by omega)
    have hwave := h.waves k _ hget
    obtain ⟨hlength, hnodup, hsubset⟩ := ih (by omega)
    have hpositive := List.length_pos_iff.mpr hwave.nonempty
    rw [earlier_succ hget]
    refine ⟨?_, ?_, List.append_subset.mpr ⟨hsubset, hwave.known⟩⟩
    · rw [List.length_append]
      omega
    · rw [List.nodup_append]
      refine ⟨hnodup, hwave.sorted.imp ne_of_lt, ?_⟩
      rintro task_id hearlier _ hmem rfl
      exact hwave.fresh task_id hmem hearlier

/-! ## Too many waves -/

/-- The waves that a wave index can count do not take all tasks. -/
def TooManyWaves (tasks : List Task) : Prop :=
  ∃ waves, WavesExact tasks waves ∧ waves.length = U32_MAX + 1 ∧
    ∃ task ∈ tasks, task.id ∉ waves.flatMap ExecutionWave.task_ids

theorem not_tooManyWaves_of_length (hlength : tasks.length ≤ U32_MAX + 1) :
    ¬ TooManyWaves tasks := by
  rintro ⟨waves, hexact, hcount, task, hmem, hnot⟩
  obtain ⟨hle, hnodup, hsubset⟩ := hexact.length_le (Nat.le_refl _)
  rw [earlier_length] at hle hnodup hsubset
  -- the tasks in the waves and one more are different tasks
  have hcons : (task.id :: waves.flatMap ExecutionWave.task_ids).Nodup :=
    List.nodup_cons.mpr ⟨hnot, hnodup⟩
  have hsub : task.id :: waves.flatMap ExecutionWave.task_ids ⊆ tasks.map Task.id :=
    List.cons_subset.mpr ⟨List.mem_map_of_mem hmem, hsubset⟩
  have hle' := (hcons.subperm hsub).length_le
  rw [List.length_cons, List.length_map] at hle'
  omega

/-- An exact plan with all tasks has the waves there are. -/
theorem PlanExact.not_tooMany {plan : ExecutionPlan} (h : PlanExact tasks plan)
    (hcount : plan.waves.length ≤ U32_MAX + 1) : ¬ TooManyWaves tasks := by
  rintro ⟨waves, hexact, hlength, task, hmem, hnot⟩
  have hagree := h.waves.agree hexact (Nat.le_refl _) (by omega)
  rw [earlier_length] at hagree
  have htaken : task.id ∈ earlier waves plan.waves.length := by
    rw [← hagree]
    exact h.ids.mem_iff.mpr (List.mem_map_of_mem hmem)
  obtain ⟨j, wave, -, hwave, hin⟩ := mem_earlier.mp htaken
  exact hnot (List.mem_flatMap.mpr ⟨wave, List.mem_of_getElem? hwave, hin⟩)

/-! ## How scheduling ends -/

theorem Progress.no_cycle (h : Progress tasks completed remaining waves) {task_id : TaskId}
    (hmem : task_id ∈ completed) : ¬ ReachesCycle (DependsOn tasks) task_id := by
  -- what is completed is in the waves so far
  rw [h.account, ← earlier_length] at hmem
  exact h.exact.no_cycle hmem

/-- A task that reaches a cycle is left to schedule. -/
theorem Progress.left_of_cycle (h : Progress tasks completed remaining waves) {task_id : TaskId}
    (hreaches : ReachesCycle (DependsOn tasks) task_id) : task_id ∈ remaining := by
  obtain ⟨_, ⟨task, hmem, rfl, -⟩, -⟩ := hreaches.exists_step
  exact (h.left _).mpr ⟨List.mem_map_of_mem hmem, fun hcompleted => h.no_cycle hcompleted hreaches⟩

/-- When no task is ready, the tasks that are left reach a cycle. -/
theorem Progress.cycle (h : Progress tasks completed remaining waves)
    (hunique : (tasks.map Task.id).Nodup)
    (hknown : ∀ task ∈ tasks, ∀ dependency_id ∈ task.dependencies,
      dependency_id ∈ tasks.map Task.id)
    (hready : ready_tasks (task_map tasks) completed remaining = []) {task_id : TaskId} :
    task_id ∈ remaining ↔ ReachesCycle (DependsOn tasks) task_id := by
  refine ⟨reachesCycle_of_steps fun other hother => ?_, h.left_of_cycle⟩
  obtain ⟨hid, hnot⟩ := (h.left other).mp hother
  obtain ⟨task, hmem, rfl⟩ := List.mem_map.mp hid
  -- every task that is left waits for one that is left, which is the step of a cycle
  have hwaits : ¬ ∀ dependency_id ∈ task.dependencies, dependency_id ∈ completed := by
    intro hdependencies
    have hisready := (h.mem_ready hunique hmem).mpr ⟨hnot, hdependencies⟩
    rw [hready] at hisready
    exact List.not_mem_nil hisready
  push Not at hwaits
  obtain ⟨dependency_id, hdependency, hopen⟩ := hwaits
  exact ⟨dependency_id, (h.left _).mpr ⟨hknown task hmem _ hdependency, hopen⟩,
    task, hmem, rfl, hdependency⟩

/-- When nothing is left, the waves are a plan. -/
theorem Progress.plan (h : Progress tasks completed [] waves)
    (hunique : (tasks.map Task.id).Nodup) :
    PlanExact tasks ⟨ContractVersion.current, waves⟩ := by
  refine ⟨rfl, (List.perm_ext_iff_of_nodup ?_ hunique).mpr fun task_id => ?_, h.exact⟩
  · exact h.account ▸ h.nodup
  · rw [← h.account]
    refine ⟨h.known task_id, fun hid => ?_⟩
    by_contra hnot
    exact List.not_mem_nil ((h.left task_id).mpr ⟨hid, hnot⟩)

theorem Progress.tooMany (h : Progress tasks completed remaining waves)
    (hremaining : remaining ≠ []) (hcount : waves.length = U32_MAX + 1) : TooManyWaves tasks := by
  obtain ⟨task_id, rest, rfl⟩ := List.exists_cons_of_ne_nil hremaining
  obtain ⟨hid, hnot⟩ := (h.left task_id).mp List.mem_cons_self
  obtain ⟨task, hmem, rfl⟩ := List.mem_map.mp hid
  rw [h.account] at hnot
  exact ⟨waves, h.exact, hcount, task, hmem, hnot⟩

/-- How a list of tasks can be answered. -/
inductive Answer (tasks : List Task) : Except (Fault ScheduleError) ExecutionPlan → Prop
  | plan (plan : ExecutionPlan) (hgraph : Schedulable tasks) (hplan : PlanExact tasks plan)
      (hcount : plan.waves.length ≤ U32_MAX + 1) : Answer tasks (.ok plan)
  | rejected (error : ScheduleError) (h : Rejected tasks error) :
      Answer tasks (.error (Fault.error error))
  | cycle (task_ids : List TaskId) (hsome : task_ids ≠ []) (hsorted : task_ids.Pairwise (· < ·))
      (h : ∀ task_id, task_id ∈ task_ids ↔ ReachesCycle (DependsOn tasks) task_id) :
      Answer tasks (.error (Fault.error (.Cycle task_ids)))
  | too_many (h : TooManyWaves tasks) :
      Answer tasks (.error (.panic "execution wave count exceeds u32"))

theorem schedule_tasks_answer (tasks : List Task) : Answer tasks (schedule_tasks tasks) := by
  rcases schedule_tasks_cases tasks with ⟨error, hrejected, heq⟩ | ⟨hunique, hgraph, heq⟩
  · rw [heq]
    exact .rejected error hrejected
  · have hends := schedule_waves_ends hunique (progress_start hunique)
    rw [heq]
    generalize schedule_waves (task_map tasks) [] (task_map tasks).keys [] = result at hends
    cases hends with
    | scheduled completed waves h =>
      refine .plan _ ⟨hunique, fun task hmem => (hgraph task hmem).1,
        fun task hmem => (hgraph task hmem).2, acyclic_iff.mpr fun task_id hreaches => ?_⟩
        (h.plan hunique) h.count
      exact List.not_mem_nil (h.left_of_cycle hreaches)
    | cycle completed remaining waves h hremaining hready =>
      exact .cycle remaining hremaining h.sorted fun task_id =>
        h.cycle hunique (fun task hmem => (hgraph task hmem).2) hready
    | too_many completed remaining waves h hremaining hcount =>
      exact .too_many (h.tooMany hremaining hcount)

/-! ## Any order of the tasks -/

theorem task_counts_perm {tasks' : List Task} (h : tasks.Perm tasks') :
    task_counts tasks' = task_counts tasks := by
  unfold task_counts
  refine (h.foldl_eq' (fun a _ b _ counts => ?_) ∅).symm
  -- two tasks can be counted in either order
  refine Std.ExtTreeMap.ext_getElem? fun id => ?_
  simp only [get_insert, Std.ExtTreeMap.getD_eq_getD_getElem?]
  by_cases ha : a.id = id
  · by_cases hb : b.id = id
    · simp [ha, hb]
    · simp [ha, hb]
  · by_cases hb : b.id = id
    · simp [ha, hb]
    · simp [ha, hb]

theorem task_map_perm {tasks' : List Task} (h : tasks.Perm tasks')
    (hunique : (tasks.map Task.id).Nodup) : task_map tasks' = task_map tasks := by
  have hunique' := (h.map Task.id).nodup_iff.mp hunique
  refine ext_get fun id task => ?_
  rw [ExecutionLifecycleKernel.get_task_map hunique,
    ExecutionLifecycleKernel.get_task_map hunique', h.mem_iff]

/-- The order in which the tasks are listed does not matter, for the error neither. -/
theorem schedule_tasks_perm {tasks' : List Task} (h : tasks.Perm tasks') :
    schedule_tasks tasks' = schedule_tasks tasks := by
  unfold schedule_tasks
  rw [task_counts_perm h]
  by_cases hunique : (tasks.map Task.id).Nodup
  · rw [task_map_perm h hunique]
  · cases hcounts : check_all (task_counts tasks).toList fun p =>
        reject_if (p.2 > 1) (Fault.error (ScheduleError.DuplicateTaskId p.1)) with
    | error fault => rfl
    | ok u =>
      simp only [check_all_eq_ok, reject_if_eq_ok] at hcounts
      exact absurd (ExecutionLifecycleKernel.task_counts_ok.mp hcounts) hunique

/-- **The scheduler is correct.** It answers a list of tasks with a plan iff the list is
schedulable and its waves can be counted, the plan is exact, the order of the list does not
matter, and a cycle error lists the tasks that reach a cycle. -/
theorem schedule_tasks_exact (tasks : List Task) :
    ((∃ plan, schedule_tasks tasks = .ok plan) ↔ Schedulable tasks ∧ ¬ TooManyWaves tasks) ∧
    (∀ plan, schedule_tasks tasks = .ok plan → PlanExact tasks plan) ∧
    (∀ tasks', tasks.Perm tasks' → schedule_tasks tasks' = schedule_tasks tasks) ∧
    (∀ task_ids, schedule_tasks tasks = .error (Fault.error (.Cycle task_ids)) →
      ∀ task_id, task_id ∈ task_ids ↔ ReachesCycle (DependsOn tasks) task_id) ∧
    (∀ message, schedule_tasks tasks = .error (.panic message) → TooManyWaves tasks) ∧
    (tasks.length ≤ U32_MAX + 1 → ¬ TooManyWaves tasks) := by
  have hanswer := schedule_tasks_answer tasks
  refine ⟨⟨?_, ?_⟩, ?_, fun tasks' => schedule_tasks_perm, ?_, ?_, not_tooManyWaves_of_length⟩
  · rintro ⟨plan, hplan⟩
    rw [hplan] at hanswer
    cases hanswer with
    | plan _ hgraph hexact hcount => exact ⟨hgraph, hexact.not_tooMany hcount⟩
  · rintro ⟨hgraph, hfew⟩
    cases hresult : schedule_tasks tasks with
    | ok plan => exact ⟨plan, rfl⟩
    | error fault =>
      rw [hresult] at hanswer
      cases hanswer with
      | rejected error hrejected => exact absurd hgraph hrejected.not_schedulable
      | cycle task_ids hsome _ hcycle =>
        obtain ⟨task_id, rest, rfl⟩ := List.exists_cons_of_ne_nil hsome
        exact absurd ((hcycle task_id).mp List.mem_cons_self)
          (acyclic_iff.mp hgraph.acyclic task_id)
      | too_many hmany => exact absurd hmany hfew
  · intro plan hplan
    rw [hplan] at hanswer
    cases hanswer with
    | plan _ _ hexact _ => exact hexact
  · intro task_ids hcycle
    rw [hcycle] at hanswer
    cases hanswer with
    | rejected _ hrejected => cases hrejected
    | cycle _ _ _ h => exact h
  · intro message hpanic
    rw [hpanic] at hanswer
    cases hanswer with
    | too_many h => exact h

/-! ## A chain of tasks -/

/-- A task that waits for the task before it. -/
def linked_task (i : ℕ) : Task where
  contract_version := ContractVersion.current
  id := toString i
  goal_id := "goal"
  outcome := "outcome"
  dependencies := if i = 0 then [] else [toString (i - 1)]
  assigned_role := .Engineer
  resource_keys := []
  write_keys := []
  status := .Ready
  created_at := 0
  updated_at := 0

def linked_tasks (n : ℕ) : List Task := (List.range n).map linked_task

variable {n : ℕ}

theorem mem_linked_tasks {task : Task} :
    task ∈ linked_tasks n ↔ ∃ i < n, linked_task i = task := by
  simp only [linked_tasks, List.mem_map, List.mem_range]

theorem mem_linked_dependencies {i : ℕ} {dependency_id : TaskId} :
    dependency_id ∈ (linked_task i).dependencies ↔ ∃ j, i = j + 1 ∧ dependency_id = toString j := by
  rcases i with _ | i
  · simp [linked_task]
  · simp [linked_task]

theorem linked_dependsOn {task_id dependency_id : TaskId}
    (h : DependsOn (linked_tasks n) task_id dependency_id) :
    ∃ i, task_id = toString (i + 1) ∧ dependency_id = toString i := by
  obtain ⟨task, hmem, rfl, hdependency⟩ := h
  obtain ⟨i, -, rfl⟩ := mem_linked_tasks.mp hmem
  obtain ⟨j, rfl, rfl⟩ := mem_linked_dependencies.mp hdependency
  exact ⟨j, rfl, rfl⟩

theorem linked_descends {task_id task_id' : TaskId}
    (h : TransGen (DependsOn (linked_tasks n)) task_id task_id') :
    ∃ i j : ℕ, task_id = toString i ∧ task_id' = toString j ∧ j < i := by
  induction h with
  | single hstep =>
    obtain ⟨i, rfl, rfl⟩ := linked_dependsOn hstep
    exact ⟨i + 1, i, rfl, rfl, Nat.lt_succ_self i⟩
  | tail _ hstep ih =>
    obtain ⟨i, j, rfl, hj, hlt⟩ := ih
    obtain ⟨k, hk, rfl⟩ := linked_dependsOn hstep
    -- a step of the chain goes back by one, so the descent is that of the numbers
    have heq : j = k + 1 := Nat.repr_injective (hj.symm.trans hk)
    exact ⟨i, k, rfl, rfl, by omega⟩

theorem linked_schedulable (n : ℕ) : Schedulable (linked_tasks n) := by
  refine ⟨?_, ?_, ?_, ?_⟩
  · rw [linked_tasks, List.map_map]
    exact List.nodup_range.map fun i j h => Nat.repr_injective h
  · intro task hmem hself
    obtain ⟨i, -, rfl⟩ := mem_linked_tasks.mp hmem
    obtain ⟨j, hi, hj⟩ := mem_linked_dependencies.mp hself
    have heq : i = j := Nat.repr_injective hj
    omega
  · intro task hmem dependency_id hdependency
    obtain ⟨i, hi, rfl⟩ := mem_linked_tasks.mp hmem
    obtain ⟨j, rfl, rfl⟩ := mem_linked_dependencies.mp hdependency
    exact List.mem_map.mpr ⟨linked_task j, mem_linked_tasks.mpr ⟨j, by omega, rfl⟩, rfl⟩
  · intro task_id hcycle
    obtain ⟨i, j, hi, hj, hlt⟩ := linked_descends hcycle
    have heq : i = j := Nat.repr_injective (hi.symm.trans hj)
    omega

/-- A task of a chain is no earlier than in the wave at its position. -/
theorem linked_depth (h : WavesExact (linked_tasks n) waves) {i k : ℕ} (hi : i < n)
    {wave : ExecutionWave} (hwave : waves[k]? = some wave) (hmem : toString i ∈ wave.task_ids) :
    i ≤ k := by
  induction i generalizing k wave with
  | zero => exact Nat.zero_le k
  | succ i ih =>
    have hdependency := (h.waves k wave hwave).dependencies (linked_task (i + 1))
      (mem_linked_tasks.mpr ⟨i + 1, hi, rfl⟩) hmem (toString i)
      (mem_linked_dependencies.mpr ⟨i, rfl, rfl⟩)
    -- the task before it is in a wave before this one, and no earlier than its own place
    obtain ⟨j, earlier_wave, hjk, hget, hin⟩ := mem_earlier.mp hdependency
    have hle := ih (by omega) hget hin
    omega

/-- A chain of more tasks than a wave index can count has no plan, although it is schedulable. -/
theorem linked_tasks_unplanned : Schedulable (linked_tasks (U32_MAX + 2)) ∧
    ¬ ∃ plan, schedule_tasks (linked_tasks (U32_MAX + 2)) = .ok plan := by
  refine ⟨linked_schedulable _, ?_⟩
  rintro ⟨plan, hplan⟩
  have hanswer := schedule_tasks_answer (linked_tasks (U32_MAX + 2))
  rw [hplan] at hanswer
  cases hanswer with
  | plan _ _ hexact hcount =>
    -- the last task of the chain is in some wave, which is too far back
    have hlast : linked_task (U32_MAX + 1) ∈ linked_tasks (U32_MAX + 2) :=
      mem_linked_tasks.mpr ⟨U32_MAX + 1, by omega, rfl⟩
    have hin := hexact.ids.mem_iff.mpr (List.mem_map_of_mem hlast)
    obtain ⟨wave, hwave, hmem⟩ := List.mem_flatMap.mp hin
    obtain ⟨k, hk⟩ := List.mem_iff_getElem?.mp hwave
    have hdepth := linked_depth hexact.waves (by omega) hk hmem
    obtain ⟨hlt, -⟩ := List.getElem?_eq_some_iff.mp hk
    omega

end OvcaCore.Scheduler

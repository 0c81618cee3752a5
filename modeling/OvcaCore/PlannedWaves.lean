/-
What a plan of the scheduler is.

The waves of a plan go through the tasks of a graph: the tasks of a wave are new, their
dependencies are in earlier waves, and no two of them share a write key
(`schedule_tasks_planned`).
-/
import OvcaCore.Scheduler
import OvcaCore.ExecutionRestore

set_option autoImplicit false

namespace OvcaCore

open OvcaCore.Checks OvcaCore.OrderedMaps OvcaCore.ExecutionLifecycle

namespace Scheduler

variable {tasks_by_id : BTreeMap TaskId Task}

def SharesNoKey (tasks_by_id : BTreeMap TaskId Task) (task_id task_id' : TaskId) : Prop :=
  ∀ key ∈ write_keys_of tasks_by_id task_id, key ∉ write_keys_of tasks_by_id task_id'

structure WavePlanned (tasks_by_id : BTreeMap TaskId Task) (completed wave : List TaskId) :
    Prop where
  nodup : wave.Nodup
  fresh : ∀ task_id ∈ wave, task_id ∉ completed
  dependencies : ∀ task_id ∈ wave, ∃ task, tasks_by_id[task_id]? = some task
    ∧ ∀ dependency_id ∈ task.dependencies, dependency_id ∈ completed
  disjoint : wave.Pairwise (SharesNoKey tasks_by_id)

def WavesPlanned (tasks_by_id : BTreeMap TaskId Task) : List TaskId → List ExecutionWave → Prop
  | _, [] => True
  | completed, wave :: waves => WavePlanned tasks_by_id completed wave.task_ids
    ∧ WavesPlanned tasks_by_id (completed ++ wave.task_ids) waves

/-! ## One wave -/

theorem pack_wave_sublist (keys : BTreeSet String) (ready : List TaskId) :
    (pack_wave tasks_by_id keys ready).Sublist ready := by
  induction ready generalizing keys with
  | nil => exact .slnil
  | cons task_id ready ih =>
    rw [pack_wave]
    by_cases hconflict : ((write_keys_of tasks_by_id task_id).any fun key => keys.contains key)
        = true
    · rw [if_pos hconflict]
      exact (ih keys).cons task_id
    · rw [if_neg hconflict]
      exact (ih _).cons_cons task_id

theorem mem_insertMany {keys : BTreeSet String} {new : List String} {key : String} :
    key ∈ keys.insertMany new ↔ key ∈ keys ∨ key ∈ new := by
  rw [Std.ExtTreeSet.mem_insertMany_list, List.contains_iff_mem]

/-- What a wave takes shares no key with what it has taken. -/
theorem pack_wave_avoids (keys : BTreeSet String) (ready : List TaskId) :
    (∀ task_id ∈ pack_wave tasks_by_id keys ready, ∀ key ∈ write_keys_of tasks_by_id task_id,
      key ∉ keys)
    ∧ (pack_wave tasks_by_id keys ready).Pairwise (SharesNoKey tasks_by_id) := by
  induction ready generalizing keys with
  | nil => exact ⟨fun _ hmem => absurd hmem List.not_mem_nil, .nil⟩
  | cons first ready ih =>
    rw [pack_wave]
    by_cases hconflict : ((write_keys_of tasks_by_id first).any fun key => keys.contains key)
        = true
    · rw [if_pos hconflict]
      exact ih keys
    · rw [if_neg hconflict]
      rw [Bool.not_eq_true, List.any_eq_false] at hconflict
      obtain ⟨hlater, hpairwise⟩ := ih (keys.insertMany (write_keys_of tasks_by_id first))
      refine ⟨?_, ?_⟩
      · intro task_id hmem key hkey
        rcases List.mem_cons.mp hmem with rfl | hmem
        · have hfree := hconflict key hkey
          rw [Std.ExtTreeSet.contains_iff_mem] at hfree
          exact hfree
        · intro hkeys
          exact hlater task_id hmem key hkey (mem_insertMany.mpr (Or.inl hkeys))
      · rw [List.pairwise_cons]
        refine ⟨?_, hpairwise⟩
        intro task_id hmem key hkey hshared
        exact hlater task_id hmem key hshared (mem_insertMany.mpr (Or.inr hkey))

theorem mem_ready_tasks {completed remaining : List TaskId} {task_id : TaskId} :
    task_id ∈ ready_tasks tasks_by_id completed remaining ↔ task_id ∈ remaining
      ∧ ∃ task, tasks_by_id[task_id]? = some task
        ∧ ∀ dependency_id ∈ task.dependencies, dependency_id ∈ completed := by
  rw [ready_tasks, List.mem_filter]
  cases htask : tasks_by_id[task_id]? with
  | none => simp
  | some task => simp

theorem mem_unscheduled {task_ids remaining : List TaskId} {task_id : TaskId} :
    task_id ∈ unscheduled task_ids remaining ↔ task_id ∈ remaining ∧ task_id ∉ task_ids := by
  rw [unscheduled, List.mem_filter, Bool.not_eq_true', ← Bool.not_eq_true, List.contains_iff_mem]

theorem pack_wave_planned {completed remaining : List TaskId} (hnodup : remaining.Nodup)
    (hfresh : ∀ task_id ∈ remaining, task_id ∉ completed) :
    WavePlanned tasks_by_id completed
      (pack_wave tasks_by_id ∅ (ready_tasks tasks_by_id completed remaining)) := by
  have hsublist := @pack_wave_sublist tasks_by_id ∅
    (ready_tasks tasks_by_id completed remaining)
  have hready : ∀ task_id ∈ pack_wave tasks_by_id ∅ (ready_tasks tasks_by_id completed remaining),
      task_id ∈ remaining ∧ ∃ task, tasks_by_id[task_id]? = some task
        ∧ ∀ dependency_id ∈ task.dependencies, dependency_id ∈ completed := by
    intro task_id hmem
    exact mem_ready_tasks.mp (hsublist.subset hmem)
  refine ⟨?_, ?_, fun task_id hmem => (hready task_id hmem).2, (pack_wave_avoids _ _).2⟩
  · exact (hnodup.filter _).sublist hsublist
  · exact fun task_id hmem => hfresh task_id (hready task_id hmem).1

/-! ## The loop -/

/-- The loop adds planned waves that go through what is left. -/
theorem schedule_waves_planned {completed remaining : List TaskId} {waves all : List ExecutionWave}
    (hnodup : remaining.Nodup) (hfresh : ∀ task_id ∈ remaining, task_id ∉ completed)
    (h : schedule_waves tasks_by_id completed remaining waves = .ok all) :
    ∃ new, all = waves ++ new ∧ WavesPlanned tasks_by_id completed new
      ∧ ∀ task_id ∈ remaining, task_id ∈ new.flatMap ExecutionWave.task_ids := by
  induction completed, remaining, waves using schedule_waves.induct tasks_by_id with
  | case1 completed waves =>
    rw [schedule_waves, if_pos rfl] at h
    refine ⟨[], ?_, trivial, fun _ hmem => absurd hmem List.not_mem_nil⟩
    rw [List.append_nil, Except.ok.inj h]
  | case2 completed remaining waves hremaining ready hready =>
    rw [schedule_waves, if_neg hremaining, dif_pos hready] at h
    exact nomatch h
  | case3 completed remaining waves hremaining ready hready hcount =>
    rw [schedule_waves, if_neg hremaining, dif_neg hready, if_pos hcount] at h
    exact nomatch h
  | case4 completed remaining waves hremaining ready hready task_ids hcount ih =>
    rw [schedule_waves, if_neg hremaining, dif_neg hready, if_neg hcount] at h
    have hplanned := @pack_wave_planned tasks_by_id completed remaining hnodup hfresh
    have hrest : ∀ task_id ∈ unscheduled task_ids remaining, task_id ∉ completed ++ task_ids := by
      intro task_id hmem
      obtain ⟨hmem, hnot⟩ := mem_unscheduled.mp hmem
      rw [List.mem_append, not_or]
      exact ⟨hfresh task_id hmem, hnot⟩
    obtain ⟨new, rfl, hwaves, hcomplete⟩ := ih (hnodup.filter _) hrest h
    refine ⟨_ :: new, List.append_assoc _ _ _, ⟨hplanned, hwaves⟩, ?_⟩
    intro task_id hmem
    rw [List.flatMap_cons, List.mem_append]
    by_cases htaken : task_id ∈ task_ids
    · exact Or.inl htaken
    · exact Or.inr (hcomplete task_id (mem_unscheduled.mpr ⟨hmem, htaken⟩))

/-- **A plan goes through the tasks in planned waves.** -/
theorem schedule_tasks_planned {tasks : List Task} {plan : ExecutionPlan}
    (h : schedule_tasks tasks = .ok plan) :
    (tasks.map Task.id).Nodup ∧ WavesPlanned (task_map tasks) [] plan.waves
      ∧ ∀ task ∈ tasks, task.id ∈ plan.waves.flatMap ExecutionWave.task_ids := by
  unfold schedule_tasks at h
  simp only [bind_eq_ok, check_all_eq_ok, reject_if_eq_ok, pure_eq_ok, exists_const] at h
  obtain ⟨hcounts, -, waves, hwaves, rfl⟩ := h
  have hnodup := ExecutionLifecycleKernel.task_counts_ok.mp hcounts
  obtain ⟨new, rfl, hplanned, hcomplete⟩ := schedule_waves_planned Std.ExtTreeMap.nodup_keys
    (fun _ _ => List.not_mem_nil) hwaves
  refine ⟨hnodup, hplanned, ?_⟩
  intro task hmem
  refine hcomplete task.id (mem_keys_iff.mpr ⟨task, ?_⟩)
  exact (ExecutionLifecycleKernel.get_task_map hnodup).mpr ⟨hmem, rfl⟩

end Scheduler

end OvcaCore

/-
The durable log of events (`ovca-storage/src/run_events.rs`) and appending to it
(`ovca-langgraph/src/goal_runtime.rs`).

The log is one file for all runs, a row for each event; a row is a payload of
the serialization library, and the blank lines that a reload skips are left
out. Locking and the errors of the file system are not modelled.

An append that completes a run asks other authorities first: the execution
state, the enforced completion goals and the evidence bank. Those are
parameters (`CompletionGates`), and nothing here depends on what they answer.
-/
import OvcaCore.ReplayHistory
import OvcaCore.Scheduler
import OvcaCore.VersionedState

set_option autoImplicit false

namespace OvcaCore

open OvcaCore.Checks OvcaCore.Replay

/-! ## The log -/

inductive RunEventLogError where
  | Serialize (source : SerdeError)
  | MalformedLine (line : ℕ) (source : SerdeError)
  deriving DecidableEq, Repr

structure RunEventLog (P : Type) where
  serde_json : SerdeJson RunEvent P

namespace RunEventLog

variable {P : Type}

def append (log : RunEventLog P) (rows : List P) (event : RunEvent) :
    Except RunEventLogError (List P) := do
  let line ← (log.serde_json.to_vec event).mapError .Serialize
  pure (rows ++ [line])

/-- The events of the rows, the first of which is at a line. -/
def parse_rows (log : RunEventLog P) : ℕ → List P → Except RunEventLogError (List RunEvent)
  | _, [] => pure []
  | line, row :: rows => do
    let event ← (log.serde_json.from_slice row).mapError (.MalformedLine line)
    let events ← parse_rows log (line + 1) rows
    pure (event :: events)

def load_all (log : RunEventLog P) (rows : List P) : Except RunEventLogError (List RunEvent) :=
  log.parse_rows 1 rows

def load_run (log : RunEventLog P) (rows : List P) (run_id : RunId) :
    Except RunEventLogError (List RunEvent) := do
  let events ← log.load_all rows
  pure (events.filter fun event => event.run_id = run_id)

theorem append_eq_ok {log : RunEventLog P} {rows rows' : List P} {event : RunEvent} :
    log.append rows event = .ok rows' ↔
      ∃ line, log.serde_json.to_vec event = .ok line ∧ rows ++ [line] = rows' := by
  simp only [append, bind_eq_ok, mapError_eq_ok, pure_eq_ok]

theorem parse_rows_append {log : RunEventLog P} {line : ℕ} {rows rows' : List P}
    {events : List RunEvent} :
    log.parse_rows line (rows ++ rows') = .ok events ↔ ∃ earlier later,
      log.parse_rows line rows = .ok earlier ∧
      log.parse_rows (line + rows.length) rows' = .ok later ∧ earlier ++ later = events := by
  induction rows generalizing line events with
  | nil => simp [parse_rows]
  | cons row rows ih =>
    have hline : line + (row :: rows).length = line + 1 + rows.length := by
      rw [List.length_cons]
      omega
    simp only [List.cons_append, parse_rows, bind_eq_ok, mapError_eq_ok, pure_eq_ok, ih, hline]
    constructor
    · rintro ⟨e, he, _, ⟨earlier, later, hearlier, hlater, rfl⟩, rfl⟩
      exact ⟨e :: earlier, later, ⟨e, he, earlier, hearlier, rfl⟩, hlater, rfl⟩
    · rintro ⟨_, later, ⟨e, he, earlier, hearlier, rfl⟩, hlater, rfl⟩
      exact ⟨e, he, earlier ++ later, ⟨earlier, later, hearlier, hlater, rfl⟩, rfl⟩

/-- What is loaded after an append: what was loaded before, and the event at the
end of its own run. -/
theorem load_run_append {log : RunEventLog P} (hround : log.serde_json.RoundTrips)
    {rows rows' : List P} {event : RunEvent} (happend : log.append rows event = .ok rows')
    {run_id : RunId} {events : List RunEvent} :
    log.load_run rows' run_id = .ok events ↔ ∃ earlier, log.load_run rows run_id = .ok earlier ∧
      (if event.run_id = run_id then earlier ++ [event] else earlier) = events := by
  obtain ⟨line, hline, rfl⟩ := append_eq_ok.mp happend
  have hslice := hround event line hline
  simp only [load_run, load_all, bind_eq_ok, pure_eq_ok, parse_rows_append, parse_rows,
    hslice, mapError_eq_ok, Except.ok.injEq]
  have hfilter : ∀ all : List RunEvent,
      (all ++ [event]).filter (fun e => e.run_id = run_id) =
        if event.run_id = run_id then all.filter (fun e => e.run_id = run_id) ++ [event]
        else all.filter (fun e => e.run_id = run_id) := by
    intro all
    rw [List.filter_append, List.filter_singleton]
    by_cases h : event.run_id = run_id
    · rw [if_pos h, decide_eq_true h, cond_true]
    · rw [if_neg h, decide_eq_false h, cond_false, List.append_nil]
  constructor
  · rintro ⟨_, ⟨all, _, hall, ⟨_, rfl, _, rfl, rfl⟩, rfl⟩, rfl⟩
    exact ⟨_, ⟨all, hall, rfl⟩, (hfilter all).symm⟩
  · rintro ⟨_, ⟨all, hall, rfl⟩, rfl⟩
    exact ⟨_, ⟨all, _, hall, ⟨event, rfl, [], rfl, rfl⟩, rfl⟩, hfilter all⟩

end RunEventLog

/-! ## The runtime -/

inductive GoalRuntimeError where
  | GoalContractVersionMismatch (expected found : ContractVersion)
  | PermissionProfileContractVersionMismatch (expected found : ContractVersion)
  | CompletionPreconditionContractVersionMismatch (expected found : ContractVersion)
  | TaskContractVersionMismatch (task_id : TaskId) (expected found : ContractVersion)
  | TaskGoalMismatch (task_id : TaskId) (expected_goal_id found_goal_id : GoalId)
  | TaskNotPending (task_id : TaskId) (status : TaskStatus)
  | Schedule (source : ScheduleError)
  | DuplicateStampId (event_id : EventId)
  | DecreasingStampTimestamp (previous_sequence : ℕ) (previous_occurred_at : DateTime)
      (sequence : ℕ) (occurred_at : DateTime)
  | Replay (source : ReplayError)
  | ReplayedStatusMismatch (expected found : RunStatus)
  | ReplayedPlanMismatch (expected : ExecutionPlan) (found : Option ExecutionPlan)
  deriving DecidableEq, Repr

/-- The errors of appending, loading and bootstrapping, where `G` are those of the
completion gates. -/
inductive DurableGoalRuntimeError (G : Type) where
  | Build (source : GoalRuntimeError)
  | Storage (source : RunEventLogError)
  | Replay (source : ReplayError)
  | RunNotFound (run_id : RunId)
  | VerifiedCompletionRequired (goal_id : GoalId)
  | BootstrapRunStatusMismatch (expected found : RunStatus)
  | BootstrapGoalMismatch (expected : GoalId) (found : Option GoalId)
  | BootstrapTaskSetMismatch (declared provided : BTreeSet TaskId)
  | BootstrapTaskStatusMismatch (task_id : TaskId) (orchestration provided : TaskStatus)
  | BootstrapPlanMismatch (declared : Option ExecutionPlan) (provided : ExecutionPlan)
  | ViewRunMismatch (expected found : RunId)
  | ViewGoalMismatch (expected : GoalId) (found : Option GoalId)
  | ViewTaskSetMismatch (orchestration execution : BTreeSet TaskId)
  | Gate (source : G)

structure EvidenceKey where
  run_id : RunId
  goal_id : GoalId
  task_id : TaskId
  deriving DecidableEq, Repr

/-- What an append that completes a run asks of others: the execution state, the
enforced goal of the run's creation, the key of its evidence, and the lease on
that evidence with the snapshot it gives. -/
structure CompletionGates (G S : Type) where
  load_issue6_execution_if_present : RunId → Except G Unit
  authoritative_completion_goal : List RunEvent → GoalContract → Except G (Option GoalContract)
  independent_review_evidence_key : RunId → Except G (Option EvidenceKey)
  begin_completion_admission_lease : EvidenceKey → Except G S
  validate_independent_completion_snapshot : RunId → ReplayedRun → S → Except G Unit
  end_completion_admission_lease : EvidenceKey → Except G Unit

structure DurableGoalRuntime (P G S : Type) where
  log : RunEventLog P
  gates : CompletionGates G S

namespace DurableGoalRuntime

variable {P G S : Type}

def validate_goal_contract_versions (goal : GoalContract) : Except GoalRuntimeError Unit := do
  reject_if (goal.contract_version ≠ ContractVersion.current)
    (.GoalContractVersionMismatch ContractVersion.current goal.contract_version)
  reject_if (goal.permission_profile.contract_version ≠ ContractVersion.current)
    (.PermissionProfileContractVersionMismatch ContractVersion.current
      goal.permission_profile.contract_version)
  reject_if (goal.completion_precondition.contract_version ≠ ContractVersion.current)
    (.CompletionPreconditionContractVersionMismatch ContractVersion.current
      goal.completion_precondition.contract_version)

def is_completed_transition : RunEventPayload → Bool
  | .StatusTransition _ .Completed => true
  | _ => false

def requires_local_verification (goal : GoalContract) : Bool :=
  goal.completion_precondition.require_all_verification_criteria
    && !goal.verification_criteria.isEmpty

/-- `self.log.load_run(..)?`. -/
def load_events (runtime : DurableGoalRuntime P G S) (rows : List P) (run_id : RunId) :
    Except (DurableGoalRuntimeError G) (List RunEvent) :=
  (runtime.log.load_run rows run_id).mapError .Storage

/-- `replay_run(..).map_err(..)?`. -/
def replay (events : List RunEvent) (goal : GoalContract) :
    Except (DurableGoalRuntimeError G) ReplayedRun :=
  (replay_run events (some goal)).mapError .Replay

def load_run (runtime : DurableGoalRuntime P G S) (rows : List P) (run_id : RunId)
    (goal : GoalContract) : Except (DurableGoalRuntimeError G) ReplayedRun := do
  (validate_goal_contract_versions goal).mapError .Build
  let events ← runtime.load_events rows run_id
  reject_if (events = []) (.RunNotFound run_id)
  replay events goal

/-- The gates of an event that completes the run. It gives the key of the
evidence that has to be leased, if there is one. -/
def admit_completion (runtime : DurableGoalRuntime P G S) (prospective : List RunEvent)
    (run_id : RunId) (goal : GoalContract) :
    Except (DurableGoalRuntimeError G) (Option EvidenceKey) := do
  (runtime.gates.load_issue6_execution_if_present run_id).mapError .Gate
  let authority ← (runtime.gates.authoritative_completion_goal prospective goal).mapError .Gate
  check_some authority fun authority =>
    reject_if (requires_local_verification authority) (.VerifiedCompletionRequired authority.id)
  (runtime.gates.independent_review_evidence_key run_id).mapError .Gate

/-- The gates are only asked for an event that completes the run. -/
def admit_event (runtime : DurableGoalRuntime P G S) (prospective : List RunEvent)
    (event : RunEvent) (goal : GoalContract) :
    Except (DurableGoalRuntimeError G) (Option EvidenceKey) :=
  if is_completed_transition event.payload then
    runtime.admit_completion prospective event.run_id goal
  else
    pure none

/-- The body of the lease on the evidence, which ends with the append. -/
def append_leased (runtime : DurableGoalRuntime P G S) (rows : List P) (event : RunEvent)
    (goal : GoalContract) (key : EvidenceKey) :
    Except (DurableGoalRuntimeError G) (List P) := do
  let snapshot ← (runtime.gates.begin_completion_admission_lease key).mapError .Gate
  let current_events ← runtime.load_events rows event.run_id
  let current ← replay current_events goal
  (runtime.gates.validate_independent_completion_snapshot event.run_id current snapshot).mapError
    .Gate
  let _ ← replay (G := G) (current_events ++ [event]) goal
  (runtime.log.append rows event).mapError .Storage

/-- Everything of `append_event` up to its append: the new rows, and the key of
the lease that is still held. -/
def append_validated (runtime : DurableGoalRuntime P G S) (rows : List P) (event : RunEvent)
    (goal : GoalContract) :
    Except (DurableGoalRuntimeError G) (List P × Option EvidenceKey) := do
  (validate_goal_contract_versions goal).mapError .Build
  let prospective ← runtime.load_events rows event.run_id
  reject_if (prospective = []) (.RunNotFound event.run_id)
  let key ← runtime.admit_event prospective event goal
  match key with
  | some key =>
    let rows ← runtime.append_leased rows event goal key
    pure (rows, some key)
  | none =>
    let _ ← replay (G := G) (prospective ++ [event]) goal
    let rows ← (runtime.log.append rows event).mapError .Storage
    pure (rows, none)

/-- The answer of an append, and the rows after it. -/
def append_event (runtime : DurableGoalRuntime P G S) (rows : List P) (event : RunEvent)
    (goal : GoalContract) : Except (DurableGoalRuntimeError G) ReplayedRun × List P :=
  match runtime.append_validated rows event goal with
  | .error e => (.error e, rows)
  | .ok (rows, key) =>
    let ended := check_some key fun key =>
      (runtime.gates.end_completion_admission_lease key).mapError DurableGoalRuntimeError.Gate
    (ended >>= fun _ => runtime.load_run rows event.run_id goal, rows)

/-- A writer: appends one after the other, whatever each of them answers. -/
def append_events (runtime : DurableGoalRuntime P G S) (rows : List P) :
    List (RunEvent × GoalContract) → List P
  | [] => rows
  | (event, goal) :: calls => runtime.append_events (runtime.append_event rows event goal).2 calls

/-! ## Stored runs stay replayable -/

/-- A run is replayable with a goal. -/
def Replayable (runtime : DurableGoalRuntime P G S) (rows : List P) (run_id : RunId)
    (goal : GoalContract) : Prop :=
  ∃ events run, runtime.log.load_run rows run_id = .ok events ∧
    replay_run events (some goal) = .ok run

/-- Every run that has rows is replayable with a goal. -/
def AllReplayable (runtime : DurableGoalRuntime P G S) (rows : List P) : Prop :=
  ∀ run_id events, runtime.log.load_run rows run_id = .ok events → events ≠ [] →
    ∃ goal, runtime.Replayable rows run_id goal

variable {runtime : DurableGoalRuntime P G S} {rows rows' : List P} {event : RunEvent}
  {goal : GoalContract}

/-- What was validated is what is stored: an append is of an event whose whole
stream replays. -/
theorem append_validated_eq_ok {key : Option EvidenceKey}
    (h : runtime.append_validated rows event goal = .ok (rows', key)) :
    runtime.log.append rows event = .ok rows' ∧ ∃ events run,
      runtime.log.load_run rows event.run_id = .ok events ∧
      replay_run (events ++ [event]) (some goal) = .ok run := by
  simp only [append_validated, bind_eq_ok, reject_if_eq_ok, exists_const] at h
  obtain ⟨_, _, prospective, hprospective, _, key', _, h⟩ := h
  cases key' with
  | none =>
    simp only [bind_eq_ok, mapError_eq_ok, pure_eq_ok, replay, Prod.mk.injEq] at h
    obtain ⟨run, hrun, _, happend, rfl, _⟩ := h
    exact ⟨happend, prospective, run, mapError_eq_ok.mp hprospective, hrun⟩
  | some key' =>
    simp only [bind_eq_ok, append_leased, mapError_eq_ok, pure_eq_ok, replay, load_events,
      Prod.mk.injEq] at h
    obtain ⟨_, ⟨_, _, events, hevents, _, _, _, _, run, hrun, happend⟩, rfl, _⟩ := h
    exact ⟨happend, events, run, hevents, hrun⟩

/-- The step lemma: an append leaves the log as it was, or adds the event to it,
whose run then replays. -/
theorem append_event_cases (hround : runtime.log.serde_json.RoundTrips) (rows : List P)
    (event : RunEvent) (goal : GoalContract) :
    (runtime.append_event rows event goal).2 = rows ∨
      runtime.log.append rows event = .ok (runtime.append_event rows event goal).2 ∧
        runtime.Replayable (runtime.append_event rows event goal).2 event.run_id goal := by
  unfold append_event
  cases h : runtime.append_validated rows event goal with
  | error e => exact Or.inl rfl
  | ok appended =>
    obtain ⟨rows', key⟩ := appended
    obtain ⟨happend, events, run, hevents, hrun⟩ := append_validated_eq_ok h
    refine Or.inr ⟨happend, events ++ [event], run, ?_, hrun⟩
    exact (RunEventLog.load_run_append hround happend).mpr ⟨events, hevents, if_pos rfl⟩

theorem AllReplayable.append_event (hround : runtime.log.serde_json.RoundTrips)
    (h : runtime.AllReplayable rows) (event : RunEvent) (goal : GoalContract) :
    runtime.AllReplayable (runtime.append_event rows event goal).2 := by
  rcases append_event_cases hround rows event goal with hsame | ⟨happend, hreplayable⟩
  · rw [hsame]
    exact h
  · intro run_id events hevents hne
    obtain ⟨earlier, hearlier, hif⟩ := (RunEventLog.load_run_append hround happend).mp hevents
    by_cases hrun : event.run_id = run_id
    · subst hrun
      exact ⟨goal, hreplayable⟩
    · rw [if_neg hrun] at hif
      subst hif
      obtain ⟨goal', earlier', run, hload, hreplay⟩ := h run_id earlier hearlier hne
      refine ⟨goal', earlier', run, ?_, hreplay⟩
      exact (RunEventLog.load_run_append hround happend).mpr ⟨earlier', hload, if_neg hrun⟩

/-- The run lemma. -/
theorem AllReplayable.append_events (hround : runtime.log.serde_json.RoundTrips)
    (calls : List (RunEvent × GoalContract)) (h : runtime.AllReplayable rows) :
    runtime.AllReplayable (runtime.append_events rows calls) := by
  induction calls generalizing rows with
  | nil => exact h
  | cons call calls ih => exact ih (h.append_event hround call.1 call.2)

/-- A successful append answers with the replay of what is stored. -/
theorem append_event_ok (hround : runtime.log.serde_json.RoundTrips) {run : ReplayedRun}
    (h : (runtime.append_event rows event goal).1 = .ok run) :
    ∃ events, runtime.log.load_run rows event.run_id = .ok events ∧
      runtime.log.load_run (runtime.append_event rows event goal).2 event.run_id
        = .ok (events ++ [event]) ∧
      replay_run (events ++ [event]) (some goal) = .ok run := by
  unfold append_event at h ⊢
  cases hv : runtime.append_validated rows event goal with
  | error e =>
    rw [hv] at h
    cases h
  | ok appended =>
    obtain ⟨rows', key⟩ := appended
    rw [hv] at h
    obtain ⟨happend, events, _, hevents, _⟩ := append_validated_eq_ok hv
    have hload : runtime.log.load_run rows' event.run_id = .ok (events ++ [event]) :=
      (RunEventLog.load_run_append hround happend).mpr ⟨events, hevents, if_pos rfl⟩
    simp only [bind_eq_ok, load_run, load_events, mapError_eq_ok, reject_if_eq_ok, exists_const,
      replay, hload, Except.ok.injEq] at h
    obtain ⟨_, _, _, _, _, rfl, _, hreplay⟩ := h
    exact ⟨events, hevents, hload, hreplay⟩

end DurableGoalRuntime

/-! ## The history of a run -/

namespace Replay

/-- **Replay is prefix-closed and only adds.** Of an accepted stream every
non-empty prefix is accepted with the same goal and is extended by the whole,
and the run counts its events. So a writer that validates before it appends
keeps every stored run replayable: from a log in which each run replays, any
sequence of appends leads to such a log, and a successful append answers with
the replay of what it has stored. -/
theorem replay_history {P G S : Type} (runtime : DurableGoalRuntime P G S)
    (hround : runtime.log.serde_json.RoundTrips) :
    (∀ events goal run, replay_run events goal = .ok run →
      run.run_record.event_count = events.length ∧
      run.run_record.last_event_sequence = some (events.length - 1) ∧
      ∀ past rest, events = past ++ rest → past ≠ [] →
        ∃ earlier, replay_run past goal = .ok earlier ∧ Extends earlier run) ∧
    (∀ rows calls, runtime.AllReplayable rows →
      runtime.AllReplayable (runtime.append_events rows calls)) ∧
    (∀ rows event goal run, (runtime.append_event rows event goal).1 = .ok run →
      ∃ events, runtime.log.load_run (runtime.append_event rows event goal).2 event.run_id
          = .ok (events ++ [event]) ∧
        replay_run (events ++ [event]) (some goal) = .ok run) := by
  refine ⟨fun events goal run h => ?_, fun rows calls h => h.append_events hround calls,
    fun rows event goal run h => ?_⟩
  · obtain ⟨hcount, _, hlast⟩ := replay_counts h
    refine ⟨hcount, hlast, fun past rest hevents hpast => ?_⟩
    rw [hevents] at h
    exact replay_prefix h hpast
  · obtain ⟨events, _, hload, hreplay⟩ := DurableGoalRuntime.append_event_ok hround h
    exact ⟨events, hload, hreplay⟩

/-- A run of two events. -/
def notedStream : List RunEvent :=
  streamed "run"
    [(.Coordinator, .RunCreated ⟨"project", "goal", ["task"], .Draft, 0, 0, none, none⟩),
      (.Coordinator, .NoteRecorded "note")]

/-- A runtime whose rows are the events themselves and whose gates are open. -/
def plainRuntime : DurableGoalRuntime RunEvent Empty Unit where
  log := ⟨⟨.ok, .ok⟩⟩
  gates :=
    { load_issue6_execution_if_present := fun _ => .ok ()
      authoritative_completion_goal := fun _ _ => .ok none
      independent_review_evidence_key := fun _ => .ok none
      begin_completion_admission_lease := fun _ => .ok ()
      validate_independent_completion_snapshot := fun _ _ _ => .ok ()
      end_completion_admission_lease := fun _ => .ok () }

theorem replay_history_noted : ∃ run earlier, replay_run notedStream none = .ok run ∧
    replay_run (notedStream.take 1) none = .ok earlier ∧ Extends earlier run ∧
    run.run_record.event_count = 2 := by
  obtain ⟨run, hrun⟩ : ∃ run, replay_run notedStream none = .ok run := ⟨_, rfl⟩
  have h := (replay_history plainRuntime (fun _ _ h => congrArg Except.ok (Except.ok.inj h).symm)).1
    notedStream none run hrun
  obtain ⟨earlier, hearlier, hextends⟩ := h.2.2 (notedStream.take 1) (notedStream.drop 1)
    (List.take_append_drop 1 notedStream).symm (List.cons_ne_nil _ _)
  exact ⟨run, earlier, hrun, hearlier, hextends, h.1⟩

end Replay

end OvcaCore

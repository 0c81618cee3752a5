/-
Runs that share the log of events, and what the events of one mean for another
(`ovca-langgraph/src/engineer_verifier_loop.rs`).

Every reader goes through the rows of all runs before it looks at its own. So a
foreign event is invisible as long as its row can be read, and stops every run
as soon as it cannot.
-/
import OvcaCore.TerminalReview

set_option autoImplicit false

namespace OvcaCore

open OvcaCore.Checks OvcaCore.Interleaving EngineerVerifier

namespace EngineerVerifierLoop

section Isolation

variable {P : Type} [DecidableEq P] (codec : EngineerVerifierCodec P)

/-- Events of other runs stand anywhere among the rows of a log, as the log appends
them. -/
inductive Interleaved (run_id : RunId) : List P → List RunEvent → List P → Prop where
  | nil : Interleaved run_id [] [] []
  | keep (row : P) {rows rows' : List P} {events : List RunEvent} :
    Interleaved run_id rows events rows' → Interleaved run_id (row :: rows) events (row :: rows')
  | add (event : RunEvent) (line : P) {rows rows' : List P} {events : List RunEvent} :
    event.run_id ≠ run_id → (log codec).append [] event = .ok [line] →
    Interleaved run_id rows events rows' → Interleaved run_id rows (event :: events) (line :: rows')

/-- The row of an event passes the checks that every reader makes on every row. -/
def Readable (event : RunEvent) : Prop :=
  ∃ line row, (log codec).append [] event = .ok [line] ∧ raw_event_row codec line = .ok row

/-- An event that is read back from its row is of the run it was written for. -/
def KeepsRunId : Prop :=
  ∀ event line read, codec.run_event.to_vec event = .ok line →
    codec.run_event.from_slice line = .ok read → read.run_id = event.run_id

/-- The rows of a run, as a reader finds them. -/
def run_rows (rows : List P) (run_id : RunId) :
    Except EngineerVerifierLoopError (List (RawEventRow P)) :=
  (raw_event_rows codec rows).map (of_run run_id)

variable {codec}

/-! ## Every reader looks at the rows of its run only -/

omit [DecidableEq P] in
theorem append_line {event : RunEvent} {line : P}
    (h : (log codec).append [] event = .ok [line]) : codec.run_event.to_vec event = .ok line := by
  obtain ⟨written, hwritten, hline⟩ := RunEventLog.append_eq_ok.mp h
  rw [List.nil_append, List.singleton_inj] at hline
  rw [← hline]
  exact hwritten

theorem raw_event_row_run_id (hkeeps : KeepsRunId codec) {event : RunEvent} {line : P}
    {row : RawEventRow P} (hline : codec.run_event.to_vec event = .ok line)
    (h : raw_event_row codec line = .ok row) : row.event.run_id = event.run_id := by
  simp only [raw_event_row, bind_eq_ok, mapError_eq_ok, reject_if_eq_ok, exists_const,
    pure_eq_ok] at h
  obtain ⟨read, hread, _, _, _, _, _, rfl⟩ := h
  exact hkeeps event line read hline hread

/-- The first row is read, and kept if it is of the run. -/
theorem run_rows_cons (line : P) (rows : List P) (run_id : RunId) :
    run_rows codec (line :: rows) run_id = raw_event_row codec line >>= fun row =>
      (run_rows codec rows run_id).map fun rest =>
        if row.event.run_id = run_id then row :: rest else rest := by
  unfold run_rows raw_event_rows
  rw [map_checked]
  cases raw_event_row codec line with
  | error e => rfl
  | ok row =>
    cases map_checked (raw_event_row codec) rows with
    | error e => rfl
    | ok rest =>
      change Except.ok (of_run run_id (row :: rest)) = Except.ok _
      unfold of_run
      rw [List.filter_cons]
      by_cases hrun : row.event.run_id = run_id
      · simp only [hrun, decide_true, if_true]
      · simp only [decide_eq_false hrun, if_neg hrun, Bool.false_eq_true, if_false]

/-- Readable foreign rows are not seen. -/
theorem run_rows_interleaved (hkeeps : KeepsRunId codec) {run_id : RunId} {rows rows' : List P}
    {events : List RunEvent} (h : Interleaved codec run_id rows events rows')
    (hreadable : ∀ event ∈ events, Readable codec event) :
    run_rows codec rows' run_id = run_rows codec rows run_id := by
  induction h with
  | nil => rfl
  | keep row _ ih => rw [run_rows_cons, run_rows_cons, ih hreadable]
  | @add event line rows rows' events hforeign happend _ ih =>
    rw [List.forall_mem_cons] at hreadable
    obtain ⟨⟨written, row, hwritten, hrow⟩, hrest⟩ := hreadable
    have hline := append_line happend
    have hsame : line = written := Except.ok.inj (hline.symm.trans (append_line hwritten))
    subst hsame
    have hrun : row.event.run_id ≠ run_id := by
      rw [raw_event_row_run_id hkeeps hline hrow]
      exact hforeign
    rw [run_rows_cons, hrow, ih hrest]
    change (run_rows codec rows run_id).map _ = _
    simp only [if_neg hrun]
    cases run_rows codec rows run_id with
    | error e => rfl
    | ok rest => rfl

/-- An unreadable foreign row is an error for everyone. -/
theorem unreadable_interleaved {run_id : RunId} {rows rows' : List P} {events : List RunEvent}
    (h : Interleaved codec run_id rows events rows')
    (hunreadable : ∃ event ∈ events, ¬ Readable codec event) :
    ∃ e, raw_event_rows codec rows' = .error e := by
  have hbad : ∀ raw, raw_event_rows codec rows' ≠ .ok raw := by
    intro raw hraw
    obtain ⟨event, hevent, hno⟩ := hunreadable
    refine hno ?_
    unfold raw_event_rows at hraw
    rw [map_checked_eq_ok] at hraw
    induction h generalizing raw with
    | nil => cases hevent
    | keep row _ ih =>
      cases hraw with
      | cons _ hrest => exact ih _ hrest hevent
    | add other line _ happend _ ih =>
      cases hraw with
      | cons hrow hrest =>
        rcases List.mem_cons.mp hevent with rfl | hevent
        · exact ⟨line, _, happend, hrow⟩
        · exact ih _ hrest hevent
  cases hraw : raw_event_rows codec rows' with
  | error e => exact ⟨e, rfl⟩
  | ok raw => exact absurd hraw (hbad raw)

omit [DecidableEq P] in
/-- The interleaving goes on when both logs get the same row. -/
theorem Interleaved.append {run_id : RunId} {rows rows' : List P} {events : List RunEvent}
    (h : Interleaved codec run_id rows events rows') (line : P) :
    Interleaved codec run_id (rows ++ [line]) events (rows' ++ [line]) := by
  induction h with
  | nil => exact .keep line .nil
  | keep row _ ih => exact .keep row ih
  | add event row hforeign happend _ ih => exact .add event row hforeign happend ih

/-- What is computed from the rows of a run alone is the same on two logs that agree
on them. -/
theorem bind_of_run_congr {β : Type} {rows rows' : List P} {run_id : RunId}
    (h : run_rows codec rows' run_id = run_rows codec rows run_id)
    (f : List (RawEventRow P) → Except EngineerVerifierLoopError β) :
    (raw_event_rows codec rows' >>= fun raw => f (of_run run_id raw)) =
      (raw_event_rows codec rows >>= fun raw => f (of_run run_id raw)) := by
  have hbind : ∀ log : List P, (raw_event_rows codec log >>= fun raw => f (of_run run_id raw)) =
      run_rows codec log run_id >>= f := by
    intro log
    unfold run_rows
    cases raw_event_rows codec log <;> rfl
  rw [hbind, hbind, h]

theorem current_run_cursor_congr {rows rows' : List P} {run_id : RunId}
    (h : run_rows codec rows' run_id = run_rows codec rows run_id) :
    current_run_cursor codec rows' run_id = current_run_cursor codec rows run_id :=
  bind_of_run_congr h fun run => do
    validate_run_chain run
    pure (run.getLast?.map cursor_of)

theorem find_frozen_congr {rows rows' : List P} {state : EngineerVerifierStateV1 P}
    (h : run_rows codec rows' state.run_id = run_rows codec rows state.run_id)
    (pending : PendingPhaseProjectionV1 P) :
    find_frozen codec rows' state pending = find_frozen codec rows state pending :=
  bind_of_run_congr h (frozen_in_run state pending)

theorem check_appended_congr {rows rows' : List P} {run_id : RunId}
    (h : run_rows codec rows' run_id = run_rows codec rows run_id)
    (pending : PendingPhaseProjectionV1 P) :
    check_appended codec rows' run_id pending = check_appended codec rows run_id pending :=
  bind_of_run_congr h (frozen_is_last pending)

theorem validate_terminal_congr {rows rows' : List P} {state : EngineerVerifierStateV1 P}
    (h : run_rows codec rows' state.run_id = run_rows codec rows state.run_id) :
    validate_terminal_reviewing_projection_chain codec rows' state =
      validate_terminal_reviewing_projection_chain codec rows state := by
  unfold validate_terminal_reviewing_projection_chain
  have hbody := fun cursor => bind_of_run_congr h fun run => do
    let prefix_rows ← acknowledged_rows state.run_id cursor run
    let projections ← phase_projections codec state prefix_rows
    check_projections state projections
    pure (run.map fun row => row.event)
  simp only [hbody]

/-- A pending event is projected alike beside readable foreign rows: the same answer,
and the same rows at the end of the log. -/
theorem project_pending_interleaved (hkeeps : KeepsRunId codec)
    {state : EngineerVerifierStateV1 P} {rows rows' : List P} {events : List RunEvent}
    (h : Interleaved codec state.run_id rows events rows')
    (hreadable : ∀ event ∈ events, Readable codec event) (pending : PendingPhaseProjectionV1 P) :
    (project_pending codec rows' state pending).1 = (project_pending codec rows state pending).1 ∧
      ∃ appended, (project_pending codec rows' state pending).2 = rows' ++ appended ∧
        (project_pending codec rows state pending).2 = rows ++ appended := by
  unfold project_pending
  cases frozen_event codec state pending with
  | error e => exact ⟨rfl, [], by simp⟩
  | ok event =>
    unfold project_frozen
    rw [find_frozen_congr (run_rows_interleaved hkeeps h hreadable)]
    rcases find_frozen codec rows state pending with e | _ | _
    · exact ⟨rfl, [], by simp⟩
    · cases hline : codec.run_event.to_vec event with
      | error e =>
        have happend : ∀ before, (log codec).append before event = .error (.Serialize e) := by
          intro before
          unfold RunEventLog.append log
          rw [hline]
          rfl
        simp only [happend]
        exact ⟨trivial, [], by simp⟩
      | ok line =>
        have happend : ∀ before, (log codec).append before event = .ok (before ++ [line]) :=
          fun before => RunEventLog.append_eq_ok.mpr ⟨line, hline, rfl⟩
        simp only [happend]
        refine ⟨?_, [line], rfl, rfl⟩
        exact check_appended_congr (run_rows_interleaved hkeeps (h.append line) hreadable) pending
    · exact ⟨rfl, [], by simp⟩

variable {R Q : Type}

/-- What two logs mean alike for a run: its cursor, its review and its reconciliation,
of which a successful append is part. -/
structure Isolated (authority : LoopAuthority P R Q) (run_id : RunId) (rows rows' : List P) :
    Prop where
  cursor : current_run_cursor authority.codec rows' run_id =
    current_run_cursor authority.codec rows run_id
  review : ∀ state : EngineerVerifierStateV1 P, state.run_id = run_id →
    validate_terminal_reviewing_projection_chain authority.codec rows' state =
      validate_terminal_reviewing_projection_chain authority.codec rows state
  reconciliation : ∀ (store : VersionedStateStore Q)
    (loaded : LoadedExecutionRun (EngineerVerifierStateV1 P) R),
    (∀ state, projection loaded = .ok state → state.run_id = run_id) →
    (reconcile_pending authority rows' store loaded).answer =
        (reconcile_pending authority rows store loaded).answer ∧
      (reconcile_pending authority rows' store loaded).store =
        (reconcile_pending authority rows store loaded).store ∧
      ∃ appended, (reconcile_pending authority rows' store loaded).rows = rows' ++ appended ∧
        (reconcile_pending authority rows store loaded).rows = rows ++ appended

/-- A log that stops every run: each reader fails, and a reconciliation leaves the log
and the table as they were. -/
structure Stuck (authority : LoopAuthority P R Q) (rows : List P) : Prop where
  cursor : ∀ run_id, ∃ e, current_run_cursor authority.codec rows run_id = .error e
  review : ∀ state : EngineerVerifierStateV1 P,
    ∃ e, validate_terminal_reviewing_projection_chain authority.codec rows state = .error e
  reconciliation : ∀ (store : VersionedStateStore Q)
    (loaded : LoadedExecutionRun (EngineerVerifierStateV1 P) R),
    ∃ e, reconcile_pending authority rows store loaded = ⟨.error e, rows, store⟩

theorem isolated_of_readable {authority : LoopAuthority P R Q}
    (hkeeps : KeepsRunId authority.codec) {run_id : RunId} {rows rows' : List P}
    {events : List RunEvent} (h : Interleaved authority.codec run_id rows events rows')
    (hreadable : ∀ event ∈ events, Readable authority.codec event) :
    Isolated authority run_id rows rows' where
  cursor := current_run_cursor_congr (run_rows_interleaved hkeeps h hreadable)
  review := by
    intro state hstate
    subst hstate
    exact validate_terminal_congr (run_rows_interleaved hkeeps h hreadable)
  reconciliation := by
    intro store loaded hrun
    unfold reconcile_pending
    cases hprojection : projection loaded with
    | error e => exact ⟨rfl, rfl, [], by simp⟩
    | ok state =>
      have hstate := hrun state hprojection
      subst hstate
      dsimp only
      unfold reconcile_state
      cases state.pending_projection with
      | none =>
        have hcursor := current_run_cursor_congr (run_rows_interleaved hkeeps h hreadable)
        refine ⟨?_, rfl, [], by simp⟩
        dsimp only
        unfold check_cursor
        rw [hcursor]
      | some pending =>
        obtain ⟨hanswer, appended, hrows', hrows⟩ :=
          project_pending_interleaved hkeeps h hreadable pending
        dsimp only
        rcases hproject' : project_pending authority.codec rows' state pending with ⟨answer', after'⟩
        rcases hproject : project_pending authority.codec rows state pending with ⟨answer, after⟩
        rw [hproject', hproject] at hanswer
        rw [hproject'] at hrows'
        rw [hproject] at hrows
        simp only at hanswer hrows' hrows
        subst hanswer
        cases answer' with
        | error e => exact ⟨rfl, rfl, appended, hrows', hrows⟩
        | ok _ => exact ⟨rfl, rfl, appended, hrows', hrows⟩

theorem stuck_of_unreadable {authority : LoopAuthority P R Q} {rows : List P}
    {e : EngineerVerifierLoopError} (h : raw_event_rows authority.codec rows = .error e) :
    Stuck authority rows where
  cursor := by
    intro run_id
    unfold current_run_cursor
    rw [h]
    exact ⟨e, rfl⟩
  review := by
    intro state
    cases hreview : validate_terminal_reviewing_projection_chain authority.codec rows state with
    | error e => exact ⟨e, rfl⟩
    | ok events =>
      simp only [validate_terminal_reviewing_projection_chain, h, bind_eq_ok] at hreview
      obtain ⟨_, _, _, _, _, _, _, _, _, hraw, _⟩ := hreview
      cases hraw
  reconciliation := by
    intro store loaded
    unfold reconcile_pending
    cases projection loaded with
    | error e => exact ⟨_, rfl⟩
    | ok state =>
      dsimp only
      unfold reconcile_state
      cases state.pending_projection with
      | none =>
        dsimp only
        unfold check_cursor current_run_cursor
        rw [h]
        exact ⟨_, rfl⟩
      | some pending =>
        dsimp only
        unfold project_pending
        cases frozen_event authority.codec state pending with
        | error e => exact ⟨_, rfl⟩
        | ok event =>
          unfold project_frozen find_frozen
          rw [h]
          exact ⟨_, rfl⟩

/-- **Runs in a shared log.** Foreign events that can be read change nothing for a run:
its cursor, its review and its reconciliation, errors included, are those on the log
without them. A single one that cannot be read makes each of the three fail. -/
theorem runs_isolated {authority : LoopAuthority P R Q} (hkeeps : KeepsRunId authority.codec)
    {run_id : RunId} {rows rows' : List P} {events : List RunEvent}
    (h : Interleaved authority.codec run_id rows events rows') :
    ((∀ event ∈ events, Readable authority.codec event) → Isolated authority run_id rows rows') ∧
      ((∃ event ∈ events, ¬ Readable authority.codec event) → Stuck authority rows') := by
  refine ⟨isolated_of_readable hkeeps h, ?_⟩
  intro hunreadable
  obtain ⟨e, he⟩ := unreadable_interleaved h hunreadable
  exact stuck_of_unreadable he

end Isolation

end EngineerVerifierLoop

/-! ## A log with foreign notes -/

namespace EngineerVerifierStateV1.LocalRun

open EngineerVerifierLoop

/-- A note of another run. -/
def foreign_note (message : String) : RunEvent where
  contract_version := ContractVersion.current
  id := "note"
  run_id := "other"
  sequence := 0
  previous_event_id := none
  occurred_at := at_ 0
  producer_role := .Coordinator
  payload := .NoteRecorded message
  metadata := ∅

def claim_codec : EngineerVerifierCodec Payload :=
  codec [phase_projection (opened 1 []) .Planned .ClaimAccepted]

/-- The rows of a run that has been claimed. -/
def claim_rows : List Payload :=
  (claimed 1).pending_projection.toList.map fun pending => pending.event_bytes

theorem claim_codec_keeps : KeepsRunId claim_codec := by
  intro event line read hline hread
  cases hline
  cases hread
  rfl

/-- A foreign note stands before the rows of the run. -/
theorem note_interleaved (message : String) :
    Interleaved claim_codec "run" claim_rows [foreign_note message]
      (.inl (foreign_note message) :: claim_rows) := by
  have hforeign : (foreign_note message).run_id ≠ "run" :=
    show ("other" : String) ≠ "run" by decide
  exact .add _ _ hforeign rfl (.keep _ .nil)

end EngineerVerifierStateV1.LocalRun

namespace EngineerVerifierLoop

open EngineerVerifierStateV1

/-- A note of another run leaves the claimed run alone, and one with the text of a
phase event stops it. -/
theorem runs_isolated_noted :
    Isolated (LocalRun.loop_authority LocalRun.claim_codec) "run" LocalRun.claim_rows
        (.inl (LocalRun.foreign_note "note") :: LocalRun.claim_rows) ∧
      Stuck (LocalRun.loop_authority LocalRun.claim_codec)
        (.inl (LocalRun.foreign_note PHASE_EVENT_NOTE) :: LocalRun.claim_rows) := by
  constructor
  · refine (runs_isolated LocalRun.claim_codec_keeps (LocalRun.note_interleaved "note")).1 ?_
    intro event hevent
    rw [List.mem_singleton] at hevent
    subst hevent
    exact ⟨_, _, rfl, rfl⟩
  · refine (runs_isolated LocalRun.claim_codec_keeps
      (LocalRun.note_interleaved PHASE_EVENT_NOTE)).2 ⟨_, List.mem_singleton_self _, ?_⟩
    rintro ⟨line, row, hline, hrow⟩
    cases hline
    cases hrow

/-- The note of another run that stops a run: its cursor is found without the note, and
with it there is none to be had. -/
theorem foreign_note_leaks :
    Interleaved LocalRun.claim_codec "run" LocalRun.claim_rows
        [LocalRun.foreign_note PHASE_EVENT_NOTE]
        (.inl (LocalRun.foreign_note PHASE_EVENT_NOTE) :: LocalRun.claim_rows) ∧
      (∃ event_id, current_run_cursor LocalRun.claim_codec LocalRun.claim_rows "run"
        = .ok (some (0, event_id))) ∧
      current_run_cursor LocalRun.claim_codec
          (.inl (LocalRun.foreign_note PHASE_EVENT_NOTE) :: LocalRun.claim_rows) "run"
        = .error .ProjectionConflict := by
  refine ⟨LocalRun.note_interleaved PHASE_EVENT_NOTE, ⟨_, rfl⟩, rfl⟩

end EngineerVerifierLoop

end OvcaCore

/-
The rows that a reader finds of a run, the event that is frozen in a state, and
what the log part of a reconciliation can do with it.

A run is the rows with its id, in the order of the log; once checked, the row at an
index has that number and names the one before it.
-/
import OvcaCore.LogIsolation

set_option autoImplicit false

namespace OvcaCore

open OvcaCore.Checks OvcaCore.Interleaving EngineerVerifier

namespace EngineerVerifierLoop

/-! ## The rows of a run -/

section Rows

variable {P : Type} [DecidableEq P] {codec : EngineerVerifierCodec P}

/-- The bytes of the rows that read as events of a run. -/
def lines_of (codec : EngineerVerifierCodec P) (run_id : RunId) (rows : List P) : List P :=
  rows.filter fun line => ok_and (codec.run_event.from_slice line) fun event =>
    event.run_id == run_id

omit [DecidableEq P] in
@[simp] theorem lines_of_append (run_id : RunId) (rows rows' : List P) :
    lines_of codec run_id (rows ++ rows') = lines_of codec run_id rows ++ lines_of codec run_id rows' :=
  List.filter_append rows rows'

omit [DecidableEq P] in
theorem lines_of_singleton {run_id : RunId} {line : P} {event : RunEvent}
    (hread : codec.run_event.from_slice line = .ok event) :
    lines_of codec run_id [line] = if event.run_id = run_id then [line] else [] := by
  unfold lines_of
  rw [List.filter_singleton, hread]
  by_cases hrun : event.run_id = run_id
  · simp [ok_and, hrun]
  · have hother : (event.run_id == run_id) = false := by simpa using hrun
    rw [ok_and, hother, if_neg hrun]
    rfl

theorem raw_event_row_eq_ok {line : P} {row : RawEventRow P} :
    raw_event_row codec line = .ok row ↔ codec.run_event.from_slice line = .ok row.event ∧
      codec.run_event.to_vec row.event = .ok line ∧
      (∃ found, validate_phase_event codec row.event = .ok found) ∧ row.bytes = line := by
  simp only [raw_event_row, bind_eq_ok, mapError_eq_ok, reject_if_eq_ok, exists_const, pure_eq_ok,
    ne_eq, not_not]
  constructor
  · rintro ⟨event, hread, bytes, hwritten, rfl, found, hfound, rfl⟩
    exact ⟨hread, hwritten, ⟨found, hfound⟩, rfl⟩
  · rintro ⟨hread, hwritten, ⟨found, hfound⟩, hbytes⟩
    refine ⟨row.event, hread, line, hwritten, rfl, found, hfound, ?_⟩
    rw [← hbytes]

theorem run_rows_append (rows rows' : List P) (run_id : RunId) :
    run_rows codec (rows ++ rows') run_id = run_rows codec rows run_id >>= fun run =>
      (run_rows codec rows' run_id).map fun rest => run ++ rest := by
  induction rows with
  | nil =>
    change run_rows codec rows' run_id = (run_rows codec rows' run_id).map fun rest => [] ++ rest
    cases run_rows codec rows' run_id <;> rfl
  | cons line rows ih =>
    rw [List.cons_append, run_rows_cons, run_rows_cons, ih]
    cases raw_event_row codec line with
    | error e => rfl
    | ok row =>
      cases run_rows codec rows run_id with
      | error e => rfl
      | ok run =>
        cases run_rows codec rows' run_id with
        | error e => rfl
        | ok rest =>
          change Except.ok _ = Except.ok _
          by_cases hrun : row.event.run_id = run_id
          · simp only [hrun, if_true, List.cons_append]
          · simp only [if_neg hrun]

/-- What a reader finds of a run are its lines, each of them read. -/
theorem run_rows_spec {rows : List P} {run_id : RunId} {run : List (RawEventRow P)}
    (h : run_rows codec rows run_id = .ok run) :
    run.map (fun row => row.bytes) = lines_of codec run_id rows ∧
      ∀ row ∈ run, raw_event_row codec row.bytes = .ok row ∧ row.event.run_id = run_id := by
  induction rows generalizing run with
  | nil =>
    cases h
    refine ⟨rfl, ?_⟩
    intro row hrow
    cases hrow
  | cons line rows ih =>
    rw [run_rows_cons] at h
    cases hrow : raw_event_row codec line with
    | error e =>
      rw [hrow] at h
      cases h
    | ok row =>
      cases hrest : run_rows codec rows run_id with
      | error e =>
        rw [hrow, hrest] at h
        cases h
      | ok rest =>
        rw [hrow, hrest] at h
        obtain ⟨hlines, hread⟩ := ih hrest
        obtain ⟨hslice, _, _, hbytes⟩ := raw_event_row_eq_ok.mp hrow
        have hrun : (if row.event.run_id = run_id then row :: rest else rest) = run :=
          Except.ok.inj h
        have hcons : lines_of codec run_id (line :: rows) =
            lines_of codec run_id [line] ++ lines_of codec run_id rows :=
          lines_of_append run_id [line] rows
        rw [hcons, lines_of_singleton hslice, ← hlines, ← hrun]
        by_cases hmine : row.event.run_id = run_id
        · rw [if_pos hmine, if_pos hmine]
          refine ⟨by rw [List.map_cons, hbytes, List.singleton_append], ?_⟩
          rw [List.forall_mem_cons]
          refine ⟨⟨?_, hmine⟩, hread⟩
          rw [hbytes]
          exact hrow
        · rw [if_neg hmine, if_neg hmine, List.nil_append]
          exact ⟨rfl, hread⟩

/-- A line of the run among others is one of the rows of the run. -/
theorem run_rows_inserted {before after : List P} {line : P} {event : RunEvent} {run_id : RunId}
    {run : List (RawEventRow P)}
    (h : run_rows codec (before ++ line :: after) run_id = .ok run)
    (hread : codec.run_event.from_slice line = .ok event) (hmine : event.run_id = run_id) :
    ∃ earlier row later, run = earlier ++ row :: later ∧ row.event = event ∧
      run_rows codec before run_id = .ok earlier ∧ run_rows codec after run_id = .ok later := by
  rw [run_rows_append, bind_eq_ok] at h
  obtain ⟨earlier, hearlier, h⟩ := h
  rw [run_rows_cons] at h
  cases hrow : raw_event_row codec line with
  | error e =>
    rw [hrow] at h
    cases h
  | ok row =>
    cases hlater : run_rows codec after run_id with
    | error e =>
      rw [hrow, hlater] at h
      cases h
    | ok later =>
      have hevent : row.event = event :=
        Except.ok.inj ((raw_event_row_eq_ok.mp hrow).1.symm.trans hread)
      rw [hrow, hlater] at h
      have hrun : earlier ++ (if row.event.run_id = run_id then row :: later else later) = run :=
        Except.ok.inj h
      rw [if_pos (by rw [hevent, hmine])] at hrun
      exact ⟨earlier, row, later, hrun.symm, hevent, hearlier, rfl⟩

/-! ## The chain of a run -/

omit [DecidableEq P] in
theorem validate_run_chain_eq_ok {run : List (RawEventRow P)} {u : Unit} :
    validate_run_chain run = .ok u ↔ ∀ i row, run[i]? = some row → i ≤ U64_MAX ∧
      row.event.sequence = i ∧
      row.event.previous_event_id = (predecessor none run i).map fun prior => prior.event.id := by
  simp only [validate_run_chain, check_enumerated_eq_ok, bind_eq_ok, reject_if_eq_ok, exists_const,
    not_or, ne_eq, not_not, not_lt]

omit [DecidableEq P] in
theorem last_sequence {run : List (RawEventRow P)} {row : RawEventRow P}
    (hchain : validate_run_chain run = .ok ()) (hlast : run.getLast? = some row) :
    row.event.sequence + 1 = run.length := by
  rw [List.getLast?_eq_getElem?] at hlast
  have hsequence := (validate_run_chain_eq_ok.mp hchain _ row hlast).2.1
  have hbound := (List.getElem?_eq_some_iff.mp hlast).1
  omega

omit [DecidableEq P] in
theorem validate_run_chain_concat {run : List (RawEventRow P)} {row : RawEventRow P} :
    validate_run_chain (run ++ [row]) = .ok () ↔ validate_run_chain run = .ok () ∧
      run.length ≤ U64_MAX ∧ row.event.sequence = run.length ∧
      row.event.previous_event_id = run.getLast?.map fun prior => prior.event.id := by
  rw [validate_run_chain_eq_ok, validate_run_chain_eq_ok]
  constructor
  · intro h
    have hlast := h run.length row (by simp)
    rw [predecessor_append [row] (le_refl _), predecessor_length] at hlast
    refine ⟨?_, hlast⟩
    intro i prior hprior
    have hbound := (List.getElem?_eq_some_iff.mp hprior).1
    have hearlier := h i prior (by rw [List.getElem?_append_left hbound]; exact hprior)
    rwa [predecessor_append [row] (by omega)] at hearlier
  · rintro ⟨hrun, hlast⟩ i next hnext
    by_cases hbound : i < run.length
    · rw [List.getElem?_append_left hbound] at hnext
      rw [predecessor_append [row] (by omega)]
      exact hrun i next hnext
    · have hi : i = run.length := by
        have hlength := (List.getElem?_eq_some_iff.mp hnext).1
        rw [List.length_append, List.length_singleton] at hlength
        omega
      subst hi
      rw [List.getElem?_concat_length, Option.some_inj] at hnext
      subst hnext
      rw [predecessor_append [row] (le_refl _), predecessor_length]
      exact hlast

/-! ## The frozen event -/

/-- What the event frozen in a state has been checked for. -/
structure FrozenEvent (codec : EngineerVerifierCodec P) (state : EngineerVerifierStateV1 P)
    (pending : PendingPhaseProjectionV1 P) (event : RunEvent) : Prop where
  read : codec.run_event.from_slice pending.event_bytes = .ok event
  written : codec.run_event.to_vec event = .ok pending.event_bytes
  id : event.id = pending.event_id
  sequence : event.sequence = pending.sequence
  run_id : event.run_id = state.run_id
  previous_event_id : event.previous_event_id = pending.previous_event_id
  projection : ∃ projection, validate_phase_event codec event = .ok (some projection) ∧
    projection.Agrees state

theorem frozen_event_eq_ok {state : EngineerVerifierStateV1 P}
    {pending : PendingPhaseProjectionV1 P} {event : RunEvent}
    (h : frozen_event codec state pending = .ok event) : FrozenEvent codec state pending event := by
  simp only [frozen_event, bind_eq_ok, mapError_eq_ok, reject_if_eq_ok, ok_or_eq_ok, exists_const,
    pure_eq_ok, not_or, ne_eq, not_not] at h
  obtain ⟨_, _, frozen, hread, bytes, hwritten, ⟨rfl, hid, hsequence, hrun, hprevious⟩, found,
    hphase, projection, rfl, hagrees, rfl⟩ := h
  exact ⟨hread, hwritten, hid, hsequence, hrun, hprevious, projection, hphase, hagrees⟩

theorem is_frozen_iff {pending : PendingPhaseProjectionV1 P} {row : RawEventRow P} :
    is_frozen pending row = true ↔ row.bytes = pending.event_bytes ∧
      row.event.sequence = pending.sequence ∧
      row.event.previous_event_id = pending.previous_event_id := by
  simp only [is_frozen, Bool.and_eq_true, beq_iff_eq, and_assoc]

/-- The frozen event is found when it is the first row with its id and the last row has
that id too; it is to be appended when no row has its id and the run ends at the cursor
of the state. -/
theorem frozen_in_run_eq_ok {state : EngineerVerifierStateV1 P}
    {pending : PendingPhaseProjectionV1 P} {run : List (RawEventRow P)} {found : Bool} :
    frozen_in_run state pending run = .ok found ↔ validate_run_chain run = .ok () ∧
      (found = true ∧ (∃ existing,
          run.find? (fun row => row.event.id = pending.event_id) = some existing ∧
          is_frozen pending existing = true) ∧
          run.getLast?.map (fun row => row.event.id) = some pending.event_id ∨
        found = false ∧ run.find? (fun row => row.event.id = pending.event_id) = none ∧
          run.getLast?.map cursor_of = stored_cursor state) := by
  unfold frozen_in_run
  rw [bind_eq_ok, exists_and_right, exists_unit_eq_ok]
  cases hfind : run.find? fun row => row.event.id = pending.event_id with
  | some existing =>
    simp only [bind_eq_ok, reject_if_eq_ok, exists_const, pure_eq_ok, not_or, ne_eq, not_not,
      Option.some.injEq, exists_eq_left', reduceCtorEq, false_and, and_false, or_false]
    constructor
    · rintro ⟨hchain, ⟨hfrozen, hlast⟩, rfl⟩
      exact ⟨hchain, rfl, hfrozen, hlast⟩
    · rintro ⟨hchain, rfl, hfrozen, hlast⟩
      exact ⟨hchain, ⟨hfrozen, hlast⟩, rfl⟩
  | none =>
    simp only [bind_eq_ok, reject_if_eq_ok, exists_const, pure_eq_ok, ne_eq, not_not,
      reduceCtorEq, false_and, exists_false, and_false, false_or, true_and]
    constructor
    · rintro ⟨hchain, hcursor, rfl⟩
      exact ⟨hchain, rfl, hcursor⟩
    · rintro ⟨hchain, rfl, hcursor⟩
      exact ⟨hchain, hcursor, rfl⟩

theorem find_frozen_eq_ok {rows : List P} {state : EngineerVerifierStateV1 P}
    {pending : PendingPhaseProjectionV1 P} {found : Bool} :
    find_frozen codec rows state pending = .ok found ↔
      ∃ run, run_rows codec rows state.run_id = .ok run ∧
        frozen_in_run state pending run = .ok found := by
  unfold find_frozen run_rows
  cases raw_event_rows codec rows with
  | error e => simp [bind, Except.bind, Except.map]
  | ok raw => simp [bind, Except.bind, Except.map]

theorem current_run_cursor_eq_ok {rows : List P} {run_id : RunId}
    {cursor : Option (ℕ × String)} :
    current_run_cursor codec rows run_id = .ok cursor ↔
      ∃ run, run_rows codec rows run_id = .ok run ∧ validate_run_chain run = .ok () ∧
        run.getLast?.map cursor_of = cursor := by
  unfold current_run_cursor run_rows
  cases raw_event_rows codec rows with
  | error e => simp [bind, Except.bind, Except.map]
  | ok raw =>
    simp only [bind_eq_ok, Except.ok.injEq, exists_eq_left', pure_eq_ok, exists_and_right,
      exists_unit_eq_ok, Except.map]

/-! ## Freezing -/

/-- A pending event stands right behind a cursor. -/
structure Follows (pending : PendingPhaseProjectionV1 P) (cursor : Option (ℕ × String)) :
    Prop where
  sequence : pending.sequence = (cursor.map fun last => last.1 + 1).getD 0
  previous_event_id : pending.previous_event_id = cursor.map Prod.snd
  bounded : pending.sequence < U64_MAX

theorem next_sequence_eq {cursor : Option (ℕ × String)} (h : next_sequence cursor ≠ U64_MAX) :
    next_sequence cursor = (cursor.map fun last => last.1 + 1).getD 0 ∧
      next_sequence cursor < U64_MAX := by
  unfold next_sequence at h ⊢
  rcases cursor with _ | ⟨sequence, event_id⟩
  · exact ⟨rfl, by decide⟩
  · simp only [Option.map_some, Option.getD_some] at h ⊢
    omega

/-- What is frozen stands behind the last row of the run, which is where the state says
that its run ends. -/
theorem attach_pending_projection_eq_ok {rows : List P} {state next : EngineerVerifierStateV1 P}
    {from_ : EngineerVerifierPhaseV1} {trigger : EngineerVerifierTriggerV1}
    (h : attach_pending_projection codec rows state from_ trigger = .ok next) :
    ∃ pending run, next = { state with pending_projection := some pending } ∧
      run_rows codec rows state.run_id = .ok run ∧ validate_run_chain run = .ok () ∧
      run.getLast?.map cursor_of = stored_cursor state ∧ Follows pending (stored_cursor state) := by
  simp only [attach_pending_projection, bind_eq_ok, mapError_eq_ok, reject_if_eq_ok, exists_const,
    pure_eq_ok] at h
  obtain ⟨_, _, _, event_id, _, cursor, hcursor, hstored, hbound, json, _, bytes, _, _, _, rfl⟩ := h
  obtain ⟨run, hrun, hchain, hlast⟩ := current_run_cursor_eq_ok.mp hcursor
  rw [ne_eq, not_not] at hstored
  obtain ⟨hsequence, hbounded⟩ := next_sequence_eq hbound
  exact ⟨_, run, rfl, hrun, hchain, hlast.trans hstored, hsequence, rfl, hbounded⟩

/-! ## Projecting -/

omit [DecidableEq P] in
/-- The sequence of the frozen event is the number of rows before it. -/
theorem Follows.length {pending : PendingPhaseProjectionV1 P} {cursor : Option (ℕ × String)}
    {run : List (RawEventRow P)} (h : Follows pending cursor)
    (hchain : validate_run_chain run = .ok ()) (hcursor : run.getLast?.map cursor_of = cursor) :
    pending.sequence = run.length := by
  rw [h.sequence, ← hcursor]
  cases hlast : run.getLast? with
  | none =>
    rw [List.getLast?_eq_none_iff.mp hlast]
    rfl
  | some row => exact last_sequence hchain hlast

/-- An append behind the cursor of the state is read back as the frozen event. -/
theorem check_appended_ok {rows : List P} {state : EngineerVerifierStateV1 P}
    {pending : PendingPhaseProjectionV1 P} {event : RunEvent} {run : List (RawEventRow P)}
    (hevent : FrozenEvent codec state pending event)
    (hfollows : Follows pending (stored_cursor state))
    (hrun : run_rows codec rows state.run_id = .ok run)
    (hchain : validate_run_chain run = .ok ())
    (hcursor : run.getLast?.map cursor_of = stored_cursor state) :
    run_rows codec (rows ++ [pending.event_bytes]) state.run_id =
        .ok (run ++ [⟨event, pending.event_bytes⟩]) ∧
      frozen_is_last pending (run ++ [⟨event, pending.event_bytes⟩]) = .ok () := by
  obtain ⟨projection, hphase, _⟩ := hevent.projection
  have hrow : raw_event_row codec pending.event_bytes = .ok ⟨event, pending.event_bytes⟩ :=
    raw_event_row_eq_ok.mpr ⟨hevent.read, hevent.written, ⟨_, hphase⟩, rfl⟩
  have hlength := hfollows.length hchain hcursor
  have hnext : validate_run_chain (run ++ [⟨event, pending.event_bytes⟩]) = .ok () := by
    have hbound := hfollows.bounded
    refine validate_run_chain_concat.mpr ⟨hchain, by omega, hevent.sequence.trans hlength, ?_⟩
    rw [hevent.previous_event_id, hfollows.previous_event_id, ← hcursor, Option.map_map]
    rfl
  constructor
  · rw [run_rows_append, hrun, run_rows_cons, hrow]
    change Except.ok _ = Except.ok _
    simp only [hevent.run_id, if_true]
    rfl
  · have hlast : (run ++ [(⟨event, pending.event_bytes⟩ : RawEventRow P)]).getLast? =
        some ⟨event, pending.event_bytes⟩ := List.getLast?_concat
    have hfrozen : is_frozen pending ⟨event, pending.event_bytes⟩ = true :=
      is_frozen_iff.mpr ⟨rfl, hevent.sequence, hevent.previous_event_id⟩
    unfold frozen_is_last
    simp only [bind_eq_ok, hnext, hlast, ok_or, Except.ok.injEq, exists_eq_left', reject_if_eq_ok,
      hfrozen, hevent.id, beq_self_eq_true, Bool.and_self, not_true_eq_false, not_false_eq_true,
      exists_const, and_self]

/-- What the log part of a reconciliation can do with an event that stands behind the
cursor of its state: fail and leave the log alone, find the event, or append it. -/
theorem project_pending_cases (rows : List P) {state : EngineerVerifierStateV1 P}
    {pending : PendingPhaseProjectionV1 P} (hfollows : Follows pending (stored_cursor state)) :
    (∃ e, project_pending codec rows state pending = (.error e, rows)) ∨
    ∃ event run, FrozenEvent codec state pending event ∧
      run_rows codec rows state.run_id = .ok run ∧
      (frozen_in_run state pending run = .ok true ∧
          project_pending codec rows state pending = (.ok (), rows) ∨
        frozen_in_run state pending run = .ok false ∧
          project_pending codec rows state pending = (.ok (), rows ++ [pending.event_bytes])) := by
  unfold project_pending
  cases hfrozen : frozen_event codec state pending with
  | error e => exact Or.inl ⟨e, rfl⟩
  | ok event =>
    have hevent := frozen_event_eq_ok hfrozen
    dsimp only
    unfold project_frozen
    cases hfind : find_frozen codec rows state pending with
    | error e => exact Or.inl ⟨e, rfl⟩
    | ok found =>
      obtain ⟨run, hrun, hfound⟩ := find_frozen_eq_ok.mp hfind
      cases found with
      | true => exact Or.inr ⟨event, run, hevent, hrun, Or.inl ⟨hfound, rfl⟩⟩
      | false =>
        refine Or.inr ⟨event, run, hevent, hrun, Or.inr ⟨hfound, ?_⟩⟩
        have happend : (log codec).append rows event = .ok (rows ++ [pending.event_bytes]) :=
          RunEventLog.append_eq_ok.mpr ⟨_, hevent.written, rfl⟩
        obtain ⟨hchain, hcases⟩ := frozen_in_run_eq_ok.mp hfound
        have hcursor : run.getLast?.map cursor_of = stored_cursor state := by
          rcases hcases with ⟨hfalse, _⟩ | ⟨_, _, hcursor⟩
          · cases hfalse
          · exact hcursor
        obtain ⟨hafter, hlast⟩ := check_appended_ok hevent hfollows hrun hchain hcursor
        have hcheck : check_appended codec (rows ++ [pending.event_bytes]) state.run_id pending =
            .ok () := by
          have hbind : check_appended codec (rows ++ [pending.event_bytes]) state.run_id pending =
              run_rows codec (rows ++ [pending.event_bytes]) state.run_id
                >>= frozen_is_last pending := by
            unfold check_appended run_rows
            cases raw_event_rows codec (rows ++ [pending.event_bytes]) <;> rfl
          rw [hbind, hafter]
          exact hlast
        rw [happend]
        dsimp only
        rw [hcheck]

end Rows

end EngineerVerifierLoop

end OvcaCore

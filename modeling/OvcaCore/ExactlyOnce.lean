/-
Phase events are in the log exactly once: what the invariant of the runs of the loop
says of a situation, of a reconciliation that is made again, and of one that finds a
log that others have written to.
-/
import OvcaCore.FrozenEvents

set_option autoImplicit false

namespace OvcaCore

open OvcaCore.Checks OvcaCore.Interleaving EngineerVerifier

namespace EngineerVerifierLoop

section Runs

variable {P R Q : Type} [DecidableEq P] {authority : LoopAuthority P R Q} {run_id : RunId}
  {base : List P} {s : Situation P Q}

/-! ## What the invariant says -/

/-- The lines of a run are those it began with and, once each and in order, the events of
its phase revisions, of which only a pending one may be missing. -/
structure ProjectedOnce (authority : LoopAuthority P R Q) (run_id : RunId) (base : List P)
    (s : Situation P Q) : Prop where
  absent : stored_state authority s.store run_id = none →
    lines_of authority.codec run_id s.rows = base
  present : ∀ state, stored_state authority s.store run_id = some state →
    s.frozen.length = state.phase_revision ∧ ∃ k,
      lines_of authority.codec run_id s.rows = base ++ s.frozen.take k ∧
      (k = state.phase_revision ∨
        k + 1 = state.phase_revision ∧ state.pending_projection ≠ none)
  revisions : ∀ i line, s.frozen[i]? = some line → Projects authority.codec run_id line (i + 1)

theorem Kept.projected_once (h : Kept authority run_id base s) :
    ProjectedOnce authority run_id base s where
  absent := fun hnone => (h.absent hnone).2
  present := by
    intro state hstate
    obtain ⟨hrun_id, hprojected⟩ := h.present state hstate
    have hrevision := hprojected.revision
    refine ⟨hrevision, ?_⟩
    rw [← hrun_id]
    have hall : lines_of authority.codec state.run_id s.rows = base ++ s.frozen →
        ∃ k, lines_of authority.codec state.run_id s.rows = base ++ s.frozen.take k ∧
          (k = state.phase_revision ∨
            k + 1 = state.phase_revision ∧ state.pending_projection ≠ none) := by
      intro hlines
      refine ⟨s.frozen.length, ?_, Or.inl hrevision⟩
      rw [List.take_length]
      exact hlines
    cases hpending : state.pending_projection with
    | none =>
      rw [hpending] at hall
      exact hall (hprojected.settled hpending).1
    | some pending =>
      have hannounced := hprojected.announced pending hpending
      rw [hpending] at hall
      rcases hannounced.lines with hshort | hlines
      · have hlength : s.frozen.length ≠ 0 := by
          intro hzero
          have hlast := hannounced.last
          rw [List.length_eq_zero_iff.mp hzero] at hlast
          cases hlast
        refine ⟨s.frozen.length - 1, ?_, Or.inr ⟨by omega, by simp⟩⟩
        rw [← List.dropLast_eq_take]
        exact hshort
      · exact hall hlines
  revisions := h.revisions

/-- A successful reconciliation has nothing left to do: made again, it answers the same and
changes nothing. -/
theorem Kept.reconcile_again (hround : authority.serde_json.RoundTrips)
    (h : Kept authority run_id base s)
    {loaded loaded' : LoadedExecutionRun (EngineerVerifierStateV1 P) R} {rows' : List P}
    {store' : VersionedStateStore Q} (hloaded : authority.execution.Stored s.store run_id loaded)
    (hreconciled : reconcile_pending authority s.rows s.store loaded = ⟨.ok loaded', rows', store'⟩) :
    authority.execution.Stored store' run_id loaded' ∧
      reconcile_pending authority rows' store' loaded' = ⟨.ok loaded', rows', store'⟩ := by
  have hstored := stored_state_eq hloaded
  cases hstate : loaded.envelope.engineer_verifier with
  | none =>
    have hprojection : projection loaded = .error .ProjectionConflict := by
      unfold projection
      rw [hstate]
      rfl
    unfold reconcile_pending at hreconciled
    rw [hprojection] at hreconciled
    cases hreconciled
  | some state =>
    rw [hstate] at hstored
    obtain ⟨hrun_id, hprojected⟩ := h.present state hstored
    rcases reconcile_cases hround s.store hstate hprojected with ⟨_, hlook⟩ | ⟨e, herror⟩ |
      ⟨pending, after, run, hpending, hlines, hrun, hchain, hlast, ⟨e, herror⟩ |
        ⟨loaded'', store'', hstored', hnext, happlied⟩⟩
    · have hanswer := hlook.symm.trans hreconciled
      rw [Reconciled.mk.injEq, lift_eq_ok] at hanswer
      obtain ⟨hok, rfl, rfl⟩ := hanswer
      rw [bind_eq_ok] at hok
      obtain ⟨_, _, hpure⟩ := hok
      obtain rfl : loaded = loaded' := pure_eq_ok.mp hpure
      exact ⟨hloaded, hreconciled⟩
    · rw [herror] at hreconciled
      cases hreconciled
    · rw [herror] at hreconciled
      cases hreconciled
    · rw [happlied, Reconciled.mk.injEq, Except.ok.injEq] at hreconciled
      obtain ⟨rfl, rfl, rfl⟩ := hreconciled
      rw [hrun_id] at hstored'
      refine ⟨hstored', ?_⟩
      have hcursor : check_cursor authority.codec after (state.acknowledged pending) = .ok () := by
        have hread : current_run_cursor authority.codec after state.run_id =
            .ok (some (pending.sequence, pending.event_id)) :=
          current_run_cursor_eq_ok.mpr ⟨run, hrun, hchain, hlast⟩
        unfold check_cursor
        change (current_run_cursor authority.codec after state.run_id >>= _) = _
        rw [hread]
        exact reject_if_eq_ok.mpr (not_not.mpr rfl)
      rw [reconcile_pending_eq hnext]
      change (⟨lift (check_cursor authority.codec after (state.acknowledged pending)
        >>= fun _ => pure loaded''), after, store''⟩ : Reconciled P R Q) = _
      rw [hcursor]
      rfl

/-! ## What a reconciliation finds -/

/-- What is wrong with a log, for a state: a row that cannot be read; rows of the run that
are no chain; a run that does not end where the state says; and a row with the id of the
pending event that is not it, or is not where the run ends. -/
inductive Found (codec : EngineerVerifierCodec P) (rows : List P)
    (state : EngineerVerifierStateV1 P) : Prop where
  | unreadable (e : EngineerVerifierLoopError) : raw_event_rows codec rows = .error e →
    Found codec rows state
  | broken (run : List (RawEventRow P)) : run_rows codec rows state.run_id = .ok run →
    validate_run_chain run ≠ .ok () → Found codec rows state
  | moved (run : List (RawEventRow P)) : run_rows codec rows state.run_id = .ok run →
    (∀ pending, state.pending_projection = some pending →
      ∀ row ∈ run, row.event.id ≠ pending.event_id) →
    run.getLast?.map cursor_of ≠ stored_cursor state → Found codec rows state
  | changed (run : List (RawEventRow P)) (pending : PendingPhaseProjectionV1 P)
      (row : RawEventRow P) : run_rows codec rows state.run_id = .ok run →
    state.pending_projection = some pending →
    run.find? (fun row => row.event.id = pending.event_id) = some row →
    is_frozen pending row = false → Found codec rows state
  | continued (run : List (RawEventRow P)) (pending : PendingPhaseProjectionV1 P)
      (row : RawEventRow P) : run_rows codec rows state.run_id = .ok run →
    state.pending_projection = some pending → row ∈ run → row.event.id = pending.event_id →
    run.getLast?.map (fun row => row.event.id) ≠ some pending.event_id → Found codec rows state

/-- What is found, the look at the log does not pass. -/
theorem Found.rejected {codec : EngineerVerifierCodec P} {rows : List P}
    {state : EngineerVerifierStateV1 P} (h : Found codec rows state) :
    (state.pending_projection = none → check_cursor codec rows state ≠ .ok ()) ∧
      ∀ pending found run, state.pending_projection = some pending →
        run_rows codec rows state.run_id = .ok run →
        frozen_in_run state pending run ≠ .ok found := by
  have hcheck : check_cursor codec rows state = .ok () → ∃ run,
      run_rows codec rows state.run_id = .ok run ∧ validate_run_chain run = .ok () ∧
        run.getLast?.map cursor_of = stored_cursor state := by
    intro hok
    simp only [check_cursor, bind_eq_ok, reject_if_eq_ok, ne_eq, not_not] at hok
    obtain ⟨cursor, hcursor, rfl⟩ := hok
    exact current_run_cursor_eq_ok.mp hcursor
  cases h with
  | unreadable e he =>
    have hnone : ∀ run, run_rows codec rows state.run_id ≠ .ok run := by
      intro run hrun
      unfold run_rows at hrun
      rw [he] at hrun
      cases hrun
    refine ⟨?_, ?_⟩
    · intro _ hok
      obtain ⟨run, hrun, _⟩ := hcheck hok
      exact hnone run hrun
    · intro pending found run _ hrun
      exact absurd hrun (hnone run)
  | broken run hrun hbroken =>
    refine ⟨?_, ?_⟩
    · intro _ hok
      obtain ⟨run', hrun', hchain, _⟩ := hcheck hok
      obtain rfl : run = run' := Except.ok.inj (hrun.symm.trans hrun')
      exact hbroken hchain
    · intro pending found run' _ hrun' hok
      obtain rfl : run = run' := Except.ok.inj (hrun.symm.trans hrun')
      exact hbroken (frozen_in_run_eq_ok.mp hok).1
  | moved run hrun hother hmoved =>
    refine ⟨?_, ?_⟩
    · intro _ hok
      obtain ⟨run', hrun', _, hcursor⟩ := hcheck hok
      obtain rfl : run = run' := Except.ok.inj (hrun.symm.trans hrun')
      exact hmoved hcursor
    · intro pending found run' hpending hrun' hok
      obtain rfl : run = run' := Except.ok.inj (hrun.symm.trans hrun')
      rcases (frozen_in_run_eq_ok.mp hok).2 with ⟨_, ⟨existing, hfind, _⟩, _⟩ | ⟨_, _, hcursor⟩
      · have hid := List.find?_some hfind
        exact hother pending hpending existing (List.mem_of_find?_eq_some hfind)
          (of_decide_eq_true hid)
      · exact hmoved hcursor
  | changed run pending row hrun hpending hfind hchanged =>
    refine ⟨fun hnone => absurd (hnone.symm.trans hpending) (by simp), ?_⟩
    intro other found run' hother hrun' hok
    obtain rfl : run = run' := Except.ok.inj (hrun.symm.trans hrun')
    obtain rfl : pending = other := Option.some.inj (hpending.symm.trans hother)
    rcases (frozen_in_run_eq_ok.mp hok).2 with ⟨_, ⟨existing, hexisting, hfrozen⟩, _⟩ |
      ⟨_, hnone, _⟩
    · obtain rfl : row = existing := Option.some.inj (hfind.symm.trans hexisting)
      rw [hchanged] at hfrozen
      cases hfrozen
    · rw [hfind] at hnone
      cases hnone
  | continued run pending row hrun hpending hrow hid hlast =>
    refine ⟨fun hnone => absurd (hnone.symm.trans hpending) (by simp), ?_⟩
    intro other found run' hother hrun' hok
    obtain rfl : run = run' := Except.ok.inj (hrun.symm.trans hrun')
    obtain rfl : pending = other := Option.some.inj (hpending.symm.trans hother)
    rcases (frozen_in_run_eq_ok.mp hok).2 with ⟨_, _, hsame⟩ | ⟨_, hnone, _⟩
    · exact hlast hsame
    · rw [List.find?_eq_none] at hnone
      exact hnone row hrow (decide_eq_true hid)

/-- What is found is an error, and neither the log nor the table changes. -/
theorem Kept.reconcile_found (h : Kept authority run_id base s)
    {loaded : LoadedExecutionRun (EngineerVerifierStateV1 P) R} {state : EngineerVerifierStateV1 P}
    (hloaded : authority.execution.Stored s.store run_id loaded)
    (hstate : loaded.envelope.engineer_verifier = some state) {rows : List P}
    (hfound : Found authority.codec rows state) :
    ∃ e, reconcile_pending authority rows s.store loaded = ⟨.error e, rows, s.store⟩ := by
  have hstored := stored_state_eq hloaded
  rw [hstate] at hstored
  obtain ⟨_, hprojected⟩ := h.present state hstored
  obtain ⟨hcheck, hfind⟩ := hfound.rejected
  rw [reconcile_pending_eq hstate]
  unfold reconcile_state
  cases hpending : state.pending_projection with
  | none =>
    have hrejected := hcheck hpending
    cases hresult : check_cursor authority.codec rows state with
    | error e => exact ⟨.error e, rfl⟩
    | ok _ => exact absurd hresult hrejected
  | some pending =>
    have hfollows := (hprojected.announced pending hpending).follows
    dsimp only
    have hcases : _ ∨ ∃ event run, FrozenEvent authority.codec state pending event ∧ _ :=
      project_pending_cases rows hfollows
    rcases hcases with ⟨e, herror⟩ | ⟨_, run, _, hrun, ⟨hok, _⟩ | ⟨hok, _⟩⟩
    · rw [herror]
      exact ⟨_, rfl⟩
    · exact absurd hok (hfind pending true run hpending hrun)
    · exact absurd hok (hfind pending false run hpending hrun)

/-- The lines of the run are the first of those that belong there, at most one short. -/
theorem Kept.lined (h : Kept authority run_id base s) {state : EngineerVerifierStateV1 P}
    (hstate : stored_state authority s.store run_id = some state) :
    lines_of authority.codec run_id s.rows <+: base ++ s.frozen ∧
      ∀ cursor, stored_cursor state = some cursor →
        s.frozen ≠ [] ∧ cursor.1 < (lines_of authority.codec run_id s.rows).length := by
  obtain ⟨hrun_id, hprojected⟩ := h.present state hstate
  rw [← hrun_id]
  cases hpending : state.pending_projection with
  | none =>
    obtain ⟨hlines, hcursor⟩ := hprojected.settled hpending
    rw [hlines, List.length_append]
    exact ⟨List.prefix_rfl, hcursor⟩
  | some pending =>
    have hannounced := hprojected.announced pending hpending
    have hsequence := hannounced.sequence
    have hlast := hannounced.last
    have hne : s.frozen ≠ [] := by
      intro hnil
      rw [hnil] at hlast
      cases hlast
    have hlength : s.frozen.length ≠ 0 := fun hzero => hne (List.length_eq_zero_iff.mp hzero)
    have hfollows := hannounced.follows.sequence
    have hbound : ∀ cursor, stored_cursor state = some cursor →
        cursor.1 + 1 < base.length + s.frozen.length := by
      intro cursor hcursor
      rw [hcursor, Option.map_some, Option.getD_some] at hfollows
      omega
    rcases hannounced.lines with hshort | hall
    · rw [hshort, List.length_append, List.length_dropLast]
      constructor
      · rw [List.prefix_append_right_inj]
        exact List.dropLast_prefix _
      · intro cursor hcursor
        have hless := hbound cursor hcursor
        exact ⟨hne, by omega⟩
    · rw [hall, List.length_append]
      refine ⟨List.prefix_rfl, ?_⟩
      intro cursor hcursor
      have hless := hbound cursor hcursor
      exact ⟨hne, by omega⟩

/-- A foreign event of the run, wherever it stands among the rows and with an id other
than that of a pending event, is found. -/
theorem Kept.inserted_found (h : Kept authority run_id base s) {state : EngineerVerifierStateV1 P}
    (hstate : stored_state authority s.store run_id = some state) {before after : List P}
    {line : P} {event : RunEvent} (hrows : s.rows = before ++ after)
    (hread : authority.codec.run_event.from_slice line = .ok event) (hmine : event.run_id = run_id)
    (hid : ∀ pending, state.pending_projection = some pending → event.id ≠ pending.event_id) :
    Found authority.codec (before ++ line :: after) state := by
  obtain ⟨hlined, hcursor⟩ := h.lined hstate
  obtain ⟨hrun_id, hprojected⟩ := h.present state hstate
  cases hraw : raw_event_rows authority.codec (before ++ line :: after) with
  | error e => exact .unreadable e hraw
  | ok raw =>
    have hrun : run_rows authority.codec (before ++ line :: after) state.run_id =
        .ok (of_run state.run_id raw) := by
      unfold run_rows
      rw [hraw]
      rfl
    obtain ⟨earlier, row, later, hsplit, hevent, hearlier, hlater⟩ :=
      run_rows_inserted hrun hread (hmine.trans hrun_id.symm)
    rw [hsplit] at hrun
    have hlines : lines_of authority.codec run_id s.rows =
        (earlier ++ later).map fun row => row.bytes := by
      rw [hrows, lines_of_append, List.map_append, (run_rows_spec hearlier).1,
        (run_rows_spec hlater).1, hrun_id]
    rw [hlines] at hlined hcursor
    by_cases hchain : validate_run_chain (earlier ++ row :: later) = .ok ()
    · have hsequence : row.event.sequence = earlier.length :=
        (validate_run_chain_eq_ok.mp hchain earlier.length row (by simp)).2.1
      cases later with
      | nil =>
        have hlast : (earlier ++ [row]).getLast? = some row := List.getLast?_concat
        by_cases hpending : ∃ pending, state.pending_projection = some pending ∧
            ∃ other ∈ earlier ++ [row], other.event.id = pending.event_id
        · obtain ⟨pending, hpending, other, hother, hsame⟩ := hpending
          refine .continued _ pending other hrun hpending hother hsame ?_
          rw [hlast, Option.map_some, ne_eq, Option.some_inj, hevent]
          exact hid pending hpending
        · refine .moved _ hrun ?_ ?_
          · intro pending hsome other hother hsame
            exact hpending ⟨pending, hsome, other, hother, hsame⟩
          · intro hmoved
            rw [hlast, Option.map_some] at hmoved
            have hbound := (hcursor _ hmoved.symm).2
            rw [List.append_nil, List.length_map] at hbound
            unfold cursor_of at hbound
            dsimp only at hbound
            omega
      | cons next later =>
        have hnext : ((earlier ++ next :: later).map fun row => row.bytes)[earlier.length]? =
            some next.bytes := by simp
        have hinside : (base ++ s.frozen)[earlier.length]? = some next.bytes := by
          obtain ⟨rest, hrest⟩ := hlined
          rw [← hrest]
          exact (List.getElem?_append_left (List.getElem?_eq_some_iff.mp hnext).1).trans hnext
        by_cases hfrozen : s.frozen = []
        · -- Nothing has been projected, so the state knows of no row of its run.
          refine .moved _ hrun ?_ ?_
          · intro pending hpending
            have hlast := (hprojected.announced pending hpending).last
            rw [hfrozen] at hlast
            cases hlast
          · intro hmoved
            cases hstored : stored_cursor state with
            | some cursor => exact (hcursor cursor hstored).1 hfrozen
            | none =>
              rw [hstored, Option.map_eq_none_iff, List.getLast?_eq_none_iff] at hmoved
              simp at hmoved
        · -- The row behind it has its number from where it stood before.
          obtain ⟨read, hslice, hnumber⟩ := h.numbered hfrozen _ _ hinside
          have hmember : next ∈ earlier ++ row :: next :: later := by simp
          have hread' := (raw_event_row_eq_ok.mp ((run_rows_spec hrun).2 next hmember).1).1
          have hsame : read = next.event := Except.ok.inj (hslice.symm.trans hread')
          have hshifted := (validate_run_chain_eq_ok.mp hchain (earlier.length + 1) next
            (by simp)).2.1
          rw [hsame] at hnumber
          omega
    · exact .broken _ hrun hchain

end Runs

end EngineerVerifierLoop

/-! ## A claimed run, and a log with an event too many -/

namespace EngineerVerifierStateV1.LocalRun

open EngineerVerifierLoop

def claim_authority := loop_authority claim_codec

def task : Task where
  contract_version := 1
  id := "task"
  goal_id := "goal"
  outcome := ""
  dependencies := []
  assigned_role := .Engineer
  resource_keys := []
  write_keys := []
  status := .Ready
  created_at := at_ 0
  updated_at := at_ 0

/-- The table of a run that has been initialized. -/
def initialized_store :
    VersionedStateStore (ExecutionRunEnvelope (EngineerVerifierStateV1 Payload) Unit) :=
  ((claim_authority.execution.initialize_run "run" [task] ⟨1, 1⟩).run StoreOp.perform ∅).2

def claim_write := compare_and_swap claim_authority initialized_store "run" 0 none (claimed 1)

/-- The claim is stored, and its event is not in the log yet. -/
def claim_frozen : Situation Payload (ExecutionRunEnvelope (EngineerVerifierStateV1 Payload) Unit) :=
  ⟨[], claim_write.2, claim_rows⟩

/-- A reconciliation of what the table holds, on a log. -/
def reconciled (rows : List Payload)
    (store : VersionedStateStore (ExecutionRunEnvelope (EngineerVerifierStateV1 Payload) Unit)) :
    Option (Reconciled Payload Unit (ExecutionRunEnvelope (EngineerVerifierStateV1 Payload) Unit)) :=
  match ((claim_authority.execution.load "run").run StoreOp.perform store).1 with
  | .ok loaded => some (reconcile_pending claim_authority rows store loaded)
  | .error _ => none

/-- The log and the table after it. -/
def settled_claim : Situation Payload (ExecutionRunEnvelope (EngineerVerifierStateV1 Payload) Unit) :=
  ⟨claim_rows, ((reconciled [] claim_write.2).map fun done => done.store).getD claim_write.2,
    claim_rows⟩

/-- An event of the run that repeats the id of its claim, behind it. -/
def echo : RunEvent :=
  let claim_id := ((claimed 1).pending_projection.map fun pending => pending.event_id).getD ""
  { foreign_note "note" with
    id := claim_id
    run_id := "run"
    sequence := 1
    previous_event_id := some claim_id }

/-- Another event in the place of the claim. -/
def rewritten : RunEvent := { echo with sequence := 0, previous_event_id := none }

/-- What the calls of the sample answer. -/
structure ClaimAnswers : Prop where
  absent : stored_state claim_authority initialized_store "run" = none
  attached : attach_pending_projection claim_codec [] (opened 1 []) .Planned .ClaimAccepted =
    .ok (claimed 1)
  written : ok_and claim_write.1 (fun _ => true) = true
  stored : ok_and ((claim_authority.execution.load "run").run StoreOp.perform claim_frozen.store).1
    (fun loaded => loaded.envelope.engineer_verifier == some (claimed 1)) = true
  event_id : ((claimed 1).pending_projection.all fun pending => pending.event_id != "note") = true
  settled : (reconciled [] claim_write.2).any (fun done => done.rows = claim_rows) = true
  echo_accepted : (reconciled (claim_rows ++ [.inl echo]) claim_frozen.store).any
    (fun done => ok_and done.answer fun _ => true) = true
  rewritten_accepted : (reconciled [.inl rewritten] settled_claim.store).any
    (fun done => ok_and done.answer fun _ => true) = true
  rewritten_differs : [.inl rewritten] ≠ settled_claim.rows

theorem claim_answers : ClaimAnswers where
  absent := by decide +kernel
  attached := by decide +kernel
  written := by decide +kernel
  stored := by decide +kernel
  event_id := by decide +kernel
  settled := by decide +kernel
  echo_accepted := by decide +kernel
  rewritten_accepted := by decide +kernel
  rewritten_differs := by decide +kernel

theorem claim_starts : Starts claim_authority "run" ⟨[], initialized_store, []⟩ := by
  have hanswers := claim_answers
  exact ⟨hanswers.absent, rfl⟩

theorem claim_frozen_reached :
    Reached claim_authority "run" ⟨[], initialized_store, []⟩ claim_frozen := by
  have hanswers := claim_answers
  obtain ⟨loaded, hloaded, _⟩ := ok_and_eq_true.mp hanswers.written
  obtain ⟨pending, hpending⟩ : ∃ pending, (claimed 1).pending_projection = some pending := ⟨_, rfl⟩
  have hrows : claim_rows = [] ++ [pending.event_bytes] := by
    unfold claim_rows
    rw [hpending]
    rfl
  have hswap : compare_and_swap claim_authority initialized_store "run" 0 none (claimed 1) =
      (.ok loaded, claim_write.2) := by
    rw [← hloaded]
    rfl
  unfold claim_frozen
  rw [hrows]
  exact Relation.ReflTransGen.single
    (.freeze ⟨[], initialized_store, []⟩ hanswers.attached hpending hswap)

theorem exists_of_reconciled {rows : List Payload}
    {store : VersionedStateStore (ExecutionRunEnvelope (EngineerVerifierStateV1 Payload) Unit)}
    {p : Reconciled Payload Unit (ExecutionRunEnvelope (EngineerVerifierStateV1 Payload) Unit) → Bool}
    (h : (reconciled rows store).any p = true) : ∃ loaded,
      claim_authority.execution.Stored store "run" loaded ∧
        reconciled rows store = some (reconcile_pending claim_authority rows store loaded) ∧
        p (reconcile_pending claim_authority rows store loaded) = true := by
  unfold reconciled at h ⊢
  cases hload : ((claim_authority.execution.load "run").run StoreOp.perform store).1 with
  | error e =>
    rw [hload] at h
    cases h
  | ok loaded =>
    rw [hload, Option.any_some] at h
    exact ⟨loaded, DurableExecutionAuthority.run_load.mp hload, rfl, h⟩

theorem settled_claim_reached :
    Reached claim_authority "run" ⟨[], initialized_store, []⟩ settled_claim := by
  have hanswers := claim_answers
  obtain ⟨loaded, hloaded, hreconciled, hsame⟩ := exists_of_reconciled hanswers.settled
  have hsettled : settled_claim =
      { claim_frozen with
        rows := (reconcile_pending claim_authority claim_frozen.rows claim_frozen.store loaded).rows
        store :=
          (reconcile_pending claim_authority claim_frozen.rows claim_frozen.store loaded).store } := by
    have hrows' := of_decide_eq_true hsame
    unfold settled_claim claim_frozen
    rw [hreconciled, hrows']
    rfl
  rw [hsettled]
  exact claim_frozen_reached.tail (.reconcile claim_frozen hloaded)

end EngineerVerifierStateV1.LocalRun

namespace EngineerVerifierLoop

open EngineerVerifierStateV1

end EngineerVerifierLoop

end OvcaCore

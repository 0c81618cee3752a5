/-
Runs of the loop over the table and the log: how phase events get from the state
that freezes them into the log.

The two stores have no transaction in common. A step here is one durable effect
(a compare-and-swap, an append, or a whole reconciliation), so a crash is a run
that goes on elsewhere. What is frozen is remembered beside the two stores, in
the order in which compare-and-swaps have frozen it; the code has no such record.
-/
import OvcaCore.RunRows
import Mathlib.Logic.Relation

set_option autoImplicit false

namespace OvcaCore

open OvcaCore.Checks OvcaCore.Interleaving EngineerVerifier

namespace EngineerVerifierLoop

section Rows

variable {P : Type} [DecidableEq P] {codec : EngineerVerifierCodec P}

/-! ## The invariant -/

/-- A pending event is the last that has been frozen, and either not in the log yet or
there as the last row of its run. -/
structure Announced (codec : EngineerVerifierCodec P) (base frozen rows : List P)
    (state : EngineerVerifierStateV1 P) (pending : PendingPhaseProjectionV1 P) : Prop where
  last : frozen.getLast? = some pending.event_bytes
  sequence : pending.sequence + 1 = base.length + frozen.length
  follows : Follows pending (stored_cursor state)
  lines : lines_of codec state.run_id rows = base ++ frozen.dropLast ∨
    lines_of codec state.run_id rows = base ++ frozen

/-- How far the frozen events of a run have got into the log, by its state. -/
structure Projected (codec : EngineerVerifierCodec P) (base frozen rows : List P)
    (state : EngineerVerifierStateV1 P) : Prop where
  revision : frozen.length = state.phase_revision
  settled : state.pending_projection = none →
    lines_of codec state.run_id rows = base ++ frozen ∧
      ∀ cursor, stored_cursor state = some cursor →
        frozen ≠ [] ∧ cursor.1 < base.length + frozen.length
  announced : ∀ pending, state.pending_projection = some pending →
    Announced codec base frozen rows state pending

/-- A line is the event of a phase change, by its revision. -/
def Projects (codec : EngineerVerifierCodec P) (run_id : RunId) (line : P) (revision : ℕ) : Prop :=
  ∃ event projection, codec.run_event.from_slice line = .ok event ∧
    codec.run_event.to_vec event = .ok line ∧
    validate_phase_event codec event = .ok (some projection) ∧ projection.run_id = run_id ∧
    projection.phase_revision = revision

/-- Where the log part of a reconciliation succeeds, every frozen event is in the log, and
the run ends with the pending one. -/
theorem Announced.project {base frozen rows : List P} {state : EngineerVerifierStateV1 P}
    {pending : PendingPhaseProjectionV1 P} (h : Announced codec base frozen rows state pending) :
    (∃ e, project_pending codec rows state pending = (.error e, rows)) ∨
    ∃ after run, project_pending codec rows state pending = (.ok (), after) ∧
      lines_of codec state.run_id after = base ++ frozen ∧
      run_rows codec after state.run_id = .ok run ∧ validate_run_chain run = .ok () ∧
      run.getLast?.map cursor_of = some (pending.sequence, pending.event_id) := by
  have hlength : frozen.length ≠ 0 := by
    intro hzero
    rw [List.length_eq_zero_iff] at hzero
    have hlast := h.last
    rw [hzero] at hlast
    cases hlast
  have hsequence := h.sequence
  rcases project_pending_cases rows h.follows with herror |
    ⟨event, run, hevent, hrun, ⟨hfound, hproject⟩ | ⟨hfound, hproject⟩⟩
  · exact Or.inl herror
  · right
    obtain ⟨hlines, _⟩ := run_rows_spec hrun
    obtain ⟨hchain, hcases⟩ := frozen_in_run_eq_ok.mp hfound
    rcases hcases with ⟨_, ⟨existing, hfind, hfrozen⟩, hlast⟩ | ⟨hfalse, _⟩
    · obtain ⟨i, hi⟩ := List.mem_iff_getElem?.mp (List.mem_of_find?_eq_some hfind)
      have hbound := (List.getElem?_eq_some_iff.mp hi).1
      have hindex := (validate_run_chain_eq_ok.mp hchain i existing hi).2.1
      have hpending := (is_frozen_iff.mp hfrozen).2.1
      have hcount := congrArg List.length hlines
      rw [List.length_map] at hcount
      -- The event found has the number of the pending one, so the run is that long.
      have hall : lines_of codec state.run_id rows = base ++ frozen := by
        rcases h.lines with hshort | hall
        · rw [hshort, List.length_append, List.length_dropLast] at hcount
          omega
        · exact hall
      rw [hall, List.length_append] at hcount
      obtain ⟨row, hrow, hid⟩ := Option.map_eq_some_iff.mp hlast
      have hend := last_sequence hchain hrow
      refine ⟨rows, run, hproject, hall, hrun, hchain, ?_⟩
      rw [hrow, Option.map_some, cursor_of, hid]
      have hsame : row.event.sequence = pending.sequence := by omega
      rw [hsame]
    · cases hfalse
  · right
    obtain ⟨hlines, _⟩ := run_rows_spec hrun
    obtain ⟨hchain, hcases⟩ := frozen_in_run_eq_ok.mp hfound
    rcases hcases with ⟨hfalse, _⟩ | ⟨_, _, hcursor⟩
    · cases hfalse
    · obtain ⟨hafter, hlast⟩ := check_appended_ok hevent h.follows hrun hchain hcursor
      have hcount := congrArg List.length hlines
      rw [List.length_map, ← h.follows.length hchain hcursor] at hcount
      have hshort : lines_of codec state.run_id rows = base ++ frozen.dropLast := by
        rcases h.lines with hshort | hall
        · exact hshort
        · rw [hall, List.length_append] at hcount
          omega
      refine ⟨_, _, hproject, ?_, hafter, ?_, ?_⟩
      · have hfrozen : frozen.dropLast ++ [pending.event_bytes] = frozen :=
          List.dropLast_append_getLast? _ h.last
        rw [lines_of_append, hshort, lines_of_singleton hevent.read, if_pos hevent.run_id,
          List.append_assoc, hfrozen]
      · unfold frozen_is_last at hlast
        rw [bind_eq_ok] at hlast
        obtain ⟨_, hchain', _⟩ := hlast
        exact hchain'
      · rw [List.getLast?_concat, Option.map_some, cursor_of, hevent.sequence, hevent.id]

end Rows

/-! ## Runs of the loop -/

section Runs

variable {P R Q : Type} [DecidableEq P]

/-- The two stores, and what has been frozen for a run so far. -/
structure Situation (P Q : Type) where
  rows : List P
  store : VersionedStateStore Q
  frozen : List P

/-- The durable steps of a run: rows of other runs; writes to the table that leave the
state of the run alone; a write within a phase; the freezing of a phase event; the log
part of a reconciliation that crashes before its acknowledgement; and a reconciliation. -/
inductive Step (authority : LoopAuthority P R Q) (run_id : RunId) :
    Situation P Q → Situation P Q → Prop where
  | foreign (s : Situation P Q) (lines : List P) :
    lines_of authority.codec run_id lines = [] →
    Step authority run_id s { s with rows := s.rows ++ lines }
  | elsewhere (s : Situation P Q) (store : VersionedStateStore Q) :
    stored_state authority store run_id = stored_state authority s.store run_id →
    Step authority run_id s { s with store := store }
  | write (s : Situation P Q) {expected_revision : ℕ} {expected_state_digest : Option String}
      {next : EngineerVerifierStateV1 P} {loaded : LoadedExecutionRun (EngineerVerifierStateV1 P) R}
      {store : VersionedStateStore Q} :
    (∀ state, stored_state authority s.store run_id = some state →
      state.pending_projection = none) →
    next.pending_projection = none →
    compare_and_swap authority s.store run_id expected_revision expected_state_digest next
      = (.ok loaded, store) →
    Step authority run_id s { s with store := store }
  | freeze (s : Situation P Q) {expected_revision : ℕ} {expected_state_digest : Option String}
      {state next : EngineerVerifierStateV1 P} {from_ : EngineerVerifierPhaseV1}
      {trigger : EngineerVerifierTriggerV1} {pending : PendingPhaseProjectionV1 P}
      {loaded : LoadedExecutionRun (EngineerVerifierStateV1 P) R}
      {store : VersionedStateStore Q} :
    attach_pending_projection authority.codec s.rows state from_ trigger = .ok next →
    next.pending_projection = some pending →
    compare_and_swap authority s.store run_id expected_revision expected_state_digest next
      = (.ok loaded, store) →
    Step authority run_id s
      { s with store := store, frozen := s.frozen ++ [pending.event_bytes] }
  | crash (s : Situation P Q) {state : EngineerVerifierStateV1 P}
      {pending : PendingPhaseProjectionV1 P} :
    stored_state authority s.store run_id = some state →
    state.pending_projection = some pending →
    Step authority run_id s
      { s with rows := (project_pending authority.codec s.rows state pending).2 }
  | reconcile (s : Situation P Q) {loaded : LoadedExecutionRun (EngineerVerifierStateV1 P) R} :
    authority.execution.Stored s.store run_id loaded →
    Step authority run_id s
      { s with
        rows := (reconcile_pending authority s.rows s.store loaded).rows
        store := (reconcile_pending authority s.rows s.store loaded).store }

/-- A run starts where the table holds no state of it and nothing is frozen. -/
structure Starts (authority : LoopAuthority P R Q) (run_id : RunId) (s : Situation P Q) : Prop where
  absent : stored_state authority s.store run_id = none
  frozen : s.frozen = []

def Reached (authority : LoopAuthority P R Q) (run_id : RunId) : Situation P Q → Situation P Q → Prop :=
  Relation.ReflTransGen (Step authority run_id)

/-- The invariant: the frozen events are those of the phase revisions in order, and as
many of them are in the log as the state of the run says. -/
structure Kept (authority : LoopAuthority P R Q) (run_id : RunId) (base : List P)
    (s : Situation P Q) : Prop where
  numbered : s.frozen ≠ [] → ∀ i line, (base ++ s.frozen)[i]? = some line →
    ∃ event, authority.codec.run_event.from_slice line = .ok event ∧ event.sequence = i
  absent : stored_state authority s.store run_id = none →
    s.frozen = [] ∧ lines_of authority.codec run_id s.rows = base
  present : ∀ state, stored_state authority s.store run_id = some state →
    state.run_id = run_id ∧ Projected authority.codec base s.frozen s.rows state
  revisions : ∀ i line, s.frozen[i]? = some line → Projects authority.codec run_id line (i + 1)

variable {authority : LoopAuthority P R Q} {run_id : RunId} {base : List P} {s t : Situation P Q}

theorem Starts.kept (h : Starts authority run_id s) :
    Kept authority run_id (lines_of authority.codec run_id s.rows) s where
  numbered := fun hne => absurd h.frozen hne
  absent := fun _ => ⟨h.frozen, rfl⟩
  present := by
    intro state hstate
    rw [h.absent] at hstate
    cases hstate
  revisions := by
    intro i line hline
    rw [h.frozen] at hline
    cases hline

/-! ## What a reconciliation does -/

theorem acknowledge_cases (hround : authority.serde_json.RoundTrips)
    (store : VersionedStateStore Q) (loaded : LoadedExecutionRun (EngineerVerifierStateV1 P) R)
    (next : EngineerVerifierStateV1 P) :
    (∃ e, acknowledge authority store loaded next = (.error e, store)) ∨
    ∃ loaded' store', authority.execution.Stored store' next.run_id loaded' ∧
      loaded'.envelope.engineer_verifier = some next ∧
      acknowledge authority store loaded next = (.ok loaded', store') := by
  unfold acknowledge
  cases next.validate authority.codec.sha256 with
  | error e => exact Or.inl ⟨_, rfl⟩
  | ok _ =>
    unfold cas_replace
    cases projection loaded with
    | error e => exact Or.inl ⟨_, rfl⟩
    | ok state =>
      rcases compare_and_swap_cases hround store next.run_id loaded.revision
        (some state.state_digest) next with ⟨e, herror⟩ |
        ⟨_, loaded', store', _, hstored, hnext, _, _, happlied⟩
      · exact Or.inl ⟨e, herror⟩
      · exact Or.inr ⟨loaded', store', hstored, hnext, happlied⟩

theorem reconcile_pending_eq {rows : List P} {store : VersionedStateStore Q}
    {loaded : LoadedExecutionRun (EngineerVerifierStateV1 P) R} {state : EngineerVerifierStateV1 P}
    (hloaded : loaded.envelope.engineer_verifier = some state) :
    reconcile_pending authority rows store loaded =
      reconcile_state authority rows store loaded state := by
  have hprojection : projection loaded = .ok state := ok_or_eq_ok.mpr hloaded
  unfold reconcile_pending
  rw [hprojection]

/-- A reconciliation behind the invariant: with nothing pending it only looks, and else it
fails without a trace, or every frozen event is in the log and then the pending one may
be acknowledged. -/
theorem reconcile_cases (hround : authority.serde_json.RoundTrips) {rows frozen : List P}
    (store : VersionedStateStore Q) {loaded : LoadedExecutionRun (EngineerVerifierStateV1 P) R}
    {state : EngineerVerifierStateV1 P} (hloaded : loaded.envelope.engineer_verifier = some state)
    (h : Projected authority.codec base frozen rows state) :
    (state.pending_projection = none ∧ reconcile_pending authority rows store loaded =
      ⟨lift (check_cursor authority.codec rows state >>= fun _ => pure loaded), rows, store⟩) ∨
    (∃ e, reconcile_pending authority rows store loaded = ⟨.error e, rows, store⟩) ∨
    ∃ pending after run, state.pending_projection = some pending ∧
      lines_of authority.codec state.run_id after = base ++ frozen ∧
      run_rows authority.codec after state.run_id = .ok run ∧ validate_run_chain run = .ok () ∧
      run.getLast?.map cursor_of = some (pending.sequence, pending.event_id) ∧
      ((∃ e, reconcile_pending authority rows store loaded = ⟨.error e, after, store⟩) ∨
        ∃ loaded' store', authority.execution.Stored store' state.run_id loaded' ∧
          loaded'.envelope.engineer_verifier = some (state.acknowledged pending) ∧
          reconcile_pending authority rows store loaded = ⟨.ok loaded', after, store'⟩) := by
  rw [reconcile_pending_eq hloaded]
  unfold reconcile_state
  cases hpending : state.pending_projection with
  | none => exact Or.inl ⟨rfl, rfl⟩
  | some pending =>
    right
    dsimp only
    rcases (h.announced pending hpending).project with ⟨e, herror⟩ |
      ⟨after, run, hproject, hlines, hrun, hchain, hlast⟩
    · rw [herror]
      exact Or.inl ⟨_, rfl⟩
    · right
      rw [hproject]
      refine ⟨pending, after, run, rfl, hlines, hrun, hchain, hlast, ?_⟩
      rcases acknowledge_cases hround store loaded (state.acknowledged pending) with
        ⟨e, herror⟩ | ⟨loaded', store', hstored, hnext, happlied⟩
      · left
        dsimp only
        rw [herror]
        exact ⟨e, rfl⟩
      · right
        dsimp only
        rw [happlied]
        exact ⟨loaded', store', hstored, hnext, rfl⟩

/-! ## Every step keeps the invariant -/

omit [DecidableEq P] in
/-- Only the lines of the run count. -/
theorem Projected.congr {frozen rows rows' : List P} {state : EngineerVerifierStateV1 P}
    (h : Projected authority.codec base frozen rows state)
    (hlines : lines_of authority.codec state.run_id rows' = lines_of authority.codec state.run_id rows) :
    Projected authority.codec base frozen rows' state where
  revision := h.revision
  settled := by
    rw [hlines]
    exact h.settled
  announced := by
    intro pending hpending
    have hannounced := h.announced pending hpending
    refine ⟨hannounced.last, hannounced.sequence, hannounced.follows, ?_⟩
    rw [hlines]
    exact hannounced.lines

omit [DecidableEq P] in
/-- With every frozen event in the log, a state with a pending event is as far as it can
be, and its acknowledgement is too. -/
theorem Projected.all {frozen rows rows' : List P} {state : EngineerVerifierStateV1 P}
    (h : Projected authority.codec base frozen rows state)
    {pending : PendingPhaseProjectionV1 P} (hpending : state.pending_projection = some pending)
    (hlines : lines_of authority.codec state.run_id rows' = base ++ frozen) :
    Projected authority.codec base frozen rows' state ∧
      Projected authority.codec base frozen rows' (state.acknowledged pending) := by
  have hannounced := h.announced pending hpending
  have hsequence := hannounced.sequence
  constructor
  · refine ⟨h.revision, ?_, ?_⟩
    · intro hnone
      rw [hpending] at hnone
      cases hnone
    · intro other hother
      rw [hpending, Option.some_inj] at hother
      subst hother
      exact ⟨hannounced.last, hannounced.sequence, hannounced.follows, Or.inr hlines⟩
  · refine ⟨h.revision, ?_, ?_⟩
    · intro _
      refine ⟨hlines, ?_⟩
      intro cursor hcursor
      have hsame : (pending.sequence, pending.event_id) = cursor := Option.some.inj hcursor
      have hne : frozen ≠ [] := by
        intro hnil
        have hlast := hannounced.last
        rw [hnil] at hlast
        cases hlast
      rw [← hsame]
      refine ⟨hne, ?_⟩
      dsimp only
      omega
    · intro other hother
      cases hother

/-- The invariant of a situation whose state is known. -/
theorem kept_of_state {state : EngineerVerifierStateV1 P}
    (hstate : stored_state authority s.store run_id = some state) (hrun_id : state.run_id = run_id)
    (hprojected : Projected authority.codec base s.frozen s.rows state)
    (hnumbered : s.frozen ≠ [] → ∀ i line, (base ++ s.frozen)[i]? = some line →
      ∃ event, authority.codec.run_event.from_slice line = .ok event ∧ event.sequence = i)
    (hrevisions : ∀ i line, s.frozen[i]? = some line → Projects authority.codec run_id line (i + 1)) :
    Kept authority run_id base s where
  numbered := hnumbered
  absent := by
    intro hnone
    rw [hstate] at hnone
    cases hnone
  present := by
    intro other hother
    rw [hstate, Option.some_inj] at hother
    subst hother
    exact ⟨hrun_id, hprojected⟩
  revisions := hrevisions

theorem Kept.foreign (h : Kept authority run_id base s) {lines : List P}
    (hlines : lines_of authority.codec run_id lines = []) :
    Kept authority run_id base { s with rows := s.rows ++ lines } := by
  have hsame : lines_of authority.codec run_id (s.rows ++ lines) =
      lines_of authority.codec run_id s.rows := by
    rw [lines_of_append, hlines, List.append_nil]
  refine ⟨h.numbered, ?_, ?_, h.revisions⟩
  · intro hnone
    dsimp only
    rw [hsame]
    exact h.absent hnone
  · intro state hstate
    obtain ⟨hrun_id, hprojected⟩ := h.present state hstate
    refine ⟨hrun_id, hprojected.congr ?_⟩
    rw [hrun_id]
    exact hsame

theorem Kept.elsewhere (h : Kept authority run_id base s) {store : VersionedStateStore Q}
    (hsame : stored_state authority store run_id = stored_state authority s.store run_id) :
    Kept authority run_id base { s with store := store } := by
  refine ⟨h.numbered, ?_, ?_, h.revisions⟩
  · intro hnone
    rw [hsame] at hnone
    exact h.absent hnone
  · intro state hstate
    rw [hsame] at hstate
    exact h.present state hstate

theorem Kept.crash (h : Kept authority run_id base s) {state : EngineerVerifierStateV1 P}
    {pending : PendingPhaseProjectionV1 P}
    (hstate : stored_state authority s.store run_id = some state)
    (hpending : state.pending_projection = some pending) :
    Kept authority run_id base
      { s with rows := (project_pending authority.codec s.rows state pending).2 } := by
  obtain ⟨hrun_id, hprojected⟩ := h.present state hstate
  rcases (hprojected.announced pending hpending).project with ⟨e, herror⟩ |
    ⟨after, run, hproject, hlines, _⟩
  · rw [herror]
    exact h
  · rw [hproject]
    exact kept_of_state hstate hrun_id (hprojected.all hpending hlines).1 h.numbered h.revisions

theorem Kept.reconcile (hround : authority.serde_json.RoundTrips)
    (h : Kept authority run_id base s) {loaded : LoadedExecutionRun (EngineerVerifierStateV1 P) R}
    (hloaded : authority.execution.Stored s.store run_id loaded) :
    Kept authority run_id base
      { s with
        rows := (reconcile_pending authority s.rows s.store loaded).rows
        store := (reconcile_pending authority s.rows s.store loaded).store } := by
  have hstored := stored_state_eq hloaded
  cases hstate : loaded.envelope.engineer_verifier with
  | none =>
    have hprojection : projection loaded = .error .ProjectionConflict := by
      unfold projection
      rw [hstate]
      rfl
    unfold reconcile_pending
    rw [hprojection]
    exact h
  | some state =>
    rw [hstate] at hstored
    obtain ⟨hrun_id, hprojected⟩ := h.present state hstored
    rcases reconcile_cases hround s.store hstate hprojected with ⟨_, hlook⟩ | ⟨e, herror⟩ |
      ⟨pending, after, run, hpending, hlines, _, _, _, ⟨e, herror⟩ |
        ⟨loaded', store', hstored', hnext, happlied⟩⟩
    · rw [hlook]
      exact h
    · rw [herror]
      exact h
    · rw [herror]
      exact kept_of_state hstored hrun_id (hprojected.all hpending hlines).1 h.numbered h.revisions
    · rw [happlied]
      rw [hrun_id] at hstored'
      have hafter := stored_state_eq hstored'
      rw [hnext] at hafter
      exact kept_of_state hafter hrun_id (hprojected.all hpending hlines).2 h.numbered h.revisions

/-- The state that a compare-and-swap leaves is of its run, and admitted by the one
before it. -/
theorem stored_of_swap (hround : authority.serde_json.RoundTrips)
    {store store' : VersionedStateStore Q} {expected_revision : ℕ}
    {expected_state_digest : Option String} {next : EngineerVerifierStateV1 P}
    {loaded : LoadedExecutionRun (EngineerVerifierStateV1 P) R}
    (h : compare_and_swap authority store run_id expected_revision expected_state_digest next
      = (.ok loaded, store')) :
    stored_state authority store' run_id = some next ∧ next.run_id = run_id ∧
      DurableExecutionAuthority.Admits (engineer_verifier_rules authority.codec)
        (stored_state authority store run_id) next := by
  rcases compare_and_swap_cases hround store run_id expected_revision expected_state_digest next
    with ⟨e, herror⟩ | ⟨previous, loaded', after, hprevious, hstored, hnext, hrun_id, hadmits, happlied⟩
  · rw [herror] at h
    cases h
  · rw [h, Prod.mk.injEq] at happlied
    obtain ⟨_, rfl⟩ := happlied
    rw [stored_state_eq hprevious, stored_state_eq hstored]
    exact ⟨hnext, hrun_id, hadmits⟩

/-- A write within a phase freezes nothing. -/
theorem Kept.write (hround : authority.serde_json.RoundTrips) (h : Kept authority run_id base s)
    {expected_revision : ℕ} {expected_state_digest : Option String}
    {next : EngineerVerifierStateV1 P} {loaded : LoadedExecutionRun (EngineerVerifierStateV1 P) R}
    {store : VersionedStateStore Q}
    (hbefore : ∀ state, stored_state authority s.store run_id = some state →
      state.pending_projection = none)
    (hafter : next.pending_projection = none)
    (hswap : compare_and_swap authority s.store run_id expected_revision expected_state_digest next
      = (.ok loaded, store)) :
    Kept authority run_id base { s with store := store } := by
  obtain ⟨hstored, hrun_id, hadmits⟩ := stored_of_swap hround hswap
  refine kept_of_state hstored hrun_id ?_ h.numbered h.revisions
  have hunannounced : ∀ pending, next.pending_projection = some pending →
      Announced authority.codec base s.frozen s.rows next pending := by
    intro pending hpending
    rw [hafter] at hpending
    cases hpending
  cases hstate : stored_state authority s.store run_id with
  | none =>
    obtain ⟨hfrozen, hlines⟩ := h.absent hstate
    rw [hstate] at hadmits
    obtain ⟨_, _, ⟨_, hrevision, _, _, hsequence, _⟩ | ⟨_, _, _, hpending⟩⟩ :=
      EngineerVerifierStateV1.validate_initial_install_eq_ok hadmits
    · refine ⟨by rw [hfrozen, hrevision]; rfl, ?_, hunannounced⟩
      intro _
      rw [hrun_id, hfrozen, List.append_nil]
      refine ⟨hlines, ?_⟩
      intro cursor hcursor
      rw [stored_cursor, hsequence] at hcursor
      cases hcursor
    · obtain ⟨pending, _, _, hsome, _⟩ :=
        (EngineerVerifierStateV1.validate_pending_transition_eq_ok _).mp hpending
      rw [hafter] at hsome
      cases hsome
  | some state =>
    obtain ⟨hstate_run, hprojected⟩ := h.present state hstate
    rw [hstate] at hadmits
    have hsucceeds := EngineerVerifierStateV1.validate_successor_eq_ok _ hadmits
    obtain ⟨hlines, hbound⟩ := hprojected.settled (hbefore state hstate)
    rcases hsucceeds.step with ⟨pending, hpending, _⟩ | hadvances
    · rw [hbefore state hstate] at hpending
      cases hpending
    · rcases hadvances.phase with hmoves | hstays
      · obtain ⟨pending, _, _, hsome, _⟩ :=
          (EngineerVerifierStateV1.validate_pending_transition_eq_ok _).mp hmoves.pending
        rw [hafter] at hsome
        cases hsome
      · refine ⟨hprojected.revision.trans hstays.phase_revision.symm, ?_, hunannounced⟩
        intro _
        have hcursor : stored_cursor next = stored_cursor state := by
          unfold stored_cursor
          rw [hstays.cursor.projected_sequence, hstays.cursor.projected_event_id]
        rw [hcursor, hrun_id, ← hstate_run]
        exact ⟨hlines, hbound⟩

omit [DecidableEq P] in
/-- The pending event of a transition is the phase event of its revision. -/
theorem projects_of_pending {codec : EngineerVerifierCodec P} {from_ : EngineerVerifierPhaseV1}
    {state : EngineerVerifierStateV1 P} {pending : PendingPhaseProjectionV1 P} {event : RunEvent}
    {projection : EngineerVerifierPhaseProjectionV1}
    (h : EngineerVerifierStateV1.PendingEvent codec from_ state pending event projection) :
    Projects codec state.run_id pending.event_bytes state.phase_revision := by
  refine ⟨event, projection, h.read, h.written, ?_, h.agrees.run_id, h.agrees.phase_revision⟩
  obtain ⟨text, hmetadata, hread, hwritten⟩ := h.metadata
  have hnote : ¬ (event.payload ≠ .NoteRecorded PHASE_EVENT_NOTE
      ∧ event.metadata[PHASE_EVENT_METADATA_KEY]? = none) := fun hnone => hnone.1 h.payload
  unfold validate_phase_event
  rw [if_neg hnote]
  simp only [EngineerVerifierPhaseProjectionV1.canonical_json, bind_eq_ok, reject_if_eq_ok,
    ok_or_eq_ok, mapError_eq_ok, exists_const, pure_eq_ok, not_or, ne_eq, not_not]
  have hrun : projection.run_id = event.run_id := h.agrees.run_id.trans h.run_id.symm
  have htime : projection.controller_time = event.occurred_at :=
    h.agrees.controller_time.trans h.occurred_at.symm
  exact ⟨⟨h.payload, h.contract_version, h.producer_role, h.metadata_size⟩, _, hmetadata, text,
    rfl, projection, hread, (), h.valid, text, ⟨(), h.valid, hwritten⟩, _, h.derived,
    ⟨rfl, hrun, htime, h.id.symm⟩, rfl⟩

/-- The row at an index of a checked run has that number. -/
theorem numbered_of_chain {codec : EngineerVerifierCodec P} {rows : List P}
    {run : List (RawEventRow P)} (hrun : run_rows codec rows run_id = .ok run)
    (hchain : validate_run_chain run = .ok ()) {i : ℕ} {line : P}
    (hline : (lines_of codec run_id rows)[i]? = some line) :
    ∃ row, run[i]? = some row ∧ codec.run_event.from_slice line = .ok row.event ∧
      row.event.sequence = i := by
  obtain ⟨hlines, hread⟩ := run_rows_spec hrun
  rw [← hlines, List.getElem?_map, Option.map_eq_some_iff] at hline
  obtain ⟨row, hrow, rfl⟩ := hline
  have hslice := (raw_event_row_eq_ok.mp (hread row (List.mem_of_getElem? hrow)).1).1
  exact ⟨row, hrow, hslice, (validate_run_chain_eq_ok.mp hchain i row hrow).2.1⟩

/-- The situation after a transition, when every event before it is in the log. -/
theorem kept_of_frozen (h : Kept authority run_id base s) {next : EngineerVerifierStateV1 P}
    {pending : PendingPhaseProjectionV1 P} {from_ : EngineerVerifierPhaseV1} {event : RunEvent}
    {projection : EngineerVerifierPhaseProjectionV1} {run : List (RawEventRow P)}
    {store : VersionedStateStore Q}
    (hstored : stored_state authority store run_id = some next) (hrun_id : next.run_id = run_id)
    (hpending : next.pending_projection = some pending)
    (hevent : EngineerVerifierStateV1.PendingEvent authority.codec from_ next pending event
      projection)
    (hrun : run_rows authority.codec s.rows run_id = .ok run)
    (hchain : validate_run_chain run = .ok ())
    (hcursor : run.getLast?.map cursor_of = stored_cursor next)
    (hfollows : Follows pending (stored_cursor next))
    (hrevision : next.phase_revision = s.frozen.length + 1)
    (hall : lines_of authority.codec run_id s.rows = base ++ s.frozen) :
    Kept authority run_id base
      { s with store := store, frozen := s.frozen ++ [pending.event_bytes] } := by
  have hlength := hfollows.length hchain hcursor
  have hlines := congrArg List.length (run_rows_spec hrun).1
  rw [List.length_map, hall, List.length_append] at hlines
  refine kept_of_state (s := { s with store := store, frozen := s.frozen ++ [pending.event_bytes] })
    hstored hrun_id ⟨?_, ?_, ?_⟩ ?_ ?_
  · rw [List.length_append, List.length_singleton]
    exact hrevision.symm
  · intro hnone
    rw [hpending] at hnone
    cases hnone
  · intro other hother
    rw [hpending, Option.some_inj] at hother
    subst hother
    refine ⟨List.getLast?_concat, ?_, hfollows, Or.inl ?_⟩
    · rw [List.length_append, List.length_singleton]
      omega
    · rw [List.dropLast_concat, hrun_id]
      exact hall
  · intro _ i line hline
    rw [← List.append_assoc] at hline
    by_cases hold : i < (base ++ s.frozen).length
    · rw [List.getElem?_append_left hold, ← hall] at hline
      obtain ⟨row, _, hslice, hsequence⟩ := numbered_of_chain hrun hchain hline
      exact ⟨row.event, hslice, hsequence⟩
    · have hnew : i = (base ++ s.frozen).length := by
        have hbound := (List.getElem?_eq_some_iff.mp hline).1
        rw [List.length_append, List.length_singleton] at hbound
        omega
      rw [hnew, List.getElem?_concat_length, Option.some_inj] at hline
      subst hline
      refine ⟨event, hevent.read, ?_⟩
      rw [hevent.sequence, hnew, List.length_append]
      omega
  · intro i line hline
    by_cases hold : i < s.frozen.length
    · rw [List.getElem?_append_left hold] at hline
      exact h.revisions i line hline
    · have hnew : i = s.frozen.length := by
        have hbound := (List.getElem?_eq_some_iff.mp hline).1
        rw [List.length_append, List.length_singleton] at hbound
        omega
      rw [hnew, List.getElem?_concat_length, Option.some_inj] at hline
      subst hline
      rw [hnew, ← hrevision, ← hrun_id]
      exact projects_of_pending hevent

/-- A transition freezes the event of its revision, behind the last row of the run. -/
theorem Kept.freeze (hround : authority.serde_json.RoundTrips) (h : Kept authority run_id base s)
    {expected_revision : ℕ} {expected_state_digest : Option String}
    {state next : EngineerVerifierStateV1 P} {from_ : EngineerVerifierPhaseV1}
    {trigger : EngineerVerifierTriggerV1} {pending : PendingPhaseProjectionV1 P}
    {loaded : LoadedExecutionRun (EngineerVerifierStateV1 P) R} {store : VersionedStateStore Q}
    (hattach : attach_pending_projection authority.codec s.rows state from_ trigger = .ok next)
    (hpending : next.pending_projection = some pending)
    (hswap : compare_and_swap authority s.store run_id expected_revision expected_state_digest next
      = (.ok loaded, store)) :
    Kept authority run_id base
      { s with store := store, frozen := s.frozen ++ [pending.event_bytes] } := by
  obtain ⟨hstored, hrun_id, hadmits⟩ := stored_of_swap hround hswap
  obtain ⟨attached, run, rfl, hrun, hchain, hcursor, hfollows⟩ :=
    attach_pending_projection_eq_ok hattach
  obtain rfl : attached = pending := Option.some.inj hpending
  have hstate_run : state.run_id = run_id := hrun_id
  rw [hstate_run] at hrun
  cases hstate : stored_state authority s.store run_id with
  | none =>
    obtain ⟨hfrozen, hall⟩ := h.absent hstate
    rw [hstate] at hadmits
    obtain ⟨_, _, ⟨_, _, _, hnone, _⟩ | ⟨_, hrevision, _, htransition⟩⟩ :=
      EngineerVerifierStateV1.validate_initial_install_eq_ok hadmits
    · cases hnone
    · obtain ⟨other, event, projection, hother, hevent⟩ :=
        (EngineerVerifierStateV1.validate_pending_transition_eq_ok _).mp htransition
      obtain rfl : attached = other := Option.some.inj hother
      refine kept_of_frozen h hstored hrun_id rfl hevent hrun hchain hcursor hfollows ?_ ?_
      · rw [hfrozen]
        exact hrevision
      · rw [hfrozen, List.append_nil]
        exact hall
  | some previous =>
    obtain ⟨hprevious_run, hprojected⟩ := h.present previous hstate
    rw [hstate] at hadmits
    have hsucceeds := EngineerVerifierStateV1.validate_successor_eq_ok _ hadmits
    rcases hsucceeds.step with ⟨other, _, hacknowledged⟩ | hadvances
    · have hnone := congrArg EngineerVerifierStateV1.pending_projection hacknowledged
      cases hnone
    · rcases hadvances.phase with hmoves | hstays
      · obtain ⟨other, event, projection, hother, hevent⟩ :=
          (EngineerVerifierStateV1.validate_pending_transition_eq_ok _).mp hmoves.pending
        obtain rfl : attached = other := Option.some.inj hother
        refine kept_of_frozen h hstored hrun_id rfl hevent hrun hchain hcursor hfollows ?_ ?_
        · rw [hprojected.revision]
          exact hmoves.phase_revision
        · have hall := (hprojected.settled hadvances.unacknowledged).1
          rw [hprevious_run] at hall
          exact hall
      · have hnone := hstays.pending
        cases hnone

/-- The step lemma. -/
theorem Kept.step (hround : authority.serde_json.RoundTrips) (h : Kept authority run_id base s)
    (hstep : Step authority run_id s t) : Kept authority run_id base t := by
  cases hstep with
  | foreign lines hlines => exact h.foreign hlines
  | elsewhere store hsame => exact h.elsewhere hsame
  | write hbefore hafter hswap => exact h.write hround hbefore hafter hswap
  | freeze hattach hpending hswap => exact h.freeze hround hattach hpending hswap
  | crash hstate hpending => exact h.crash hstate hpending
  | reconcile hloaded => exact h.reconcile hround hloaded

/-- The run lemma. -/
theorem Reached.kept (hround : authority.serde_json.RoundTrips) (hstart : Starts authority run_id s)
    (h : Reached authority run_id s t) :
    Kept authority run_id (lines_of authority.codec run_id s.rows) t := by
  induction h with
  | refl => exact hstart.kept
  | tail _ hstep ih => exact ih.step hround hstep

end Runs

end EngineerVerifierLoop

end OvcaCore

/-
What the validated log of a reviewed run says about decisions in it.

The rows of the run are phase events from the first one to the acknowledged one. So a
decision that stands behind a phase event stands behind the acknowledged one, where
`classify_decision_projection` looks; and what it finds there are the two decisions, in their
order, at the places next to the acknowledged event.
-/
import OvcaCore.ReviewSafety
import OvcaCore.RunRows

set_option autoImplicit false

namespace OvcaCore

open OvcaCore.Checks EngineerVerifier DurableExecutionAuthority

/-! ## The chain of a reviewed run -/

namespace EngineerVerifierLoop

section Chain

variable {P : Type} [DecidableEq P] {codec : EngineerVerifierCodec P}

omit [DecidableEq P] in
/-- The rows of a run, up to the acknowledged one, are phase events from the first phase
event on. -/
theorem phase_row_of_behind {state : EngineerVerifierStateV1 P}
    {prefix_rows : List (RawEventRow P)} {projections : List EngineerVerifierPhaseProjectionV1}
    (h : phase_projections codec state prefix_rows = .ok projections) {j k : ℕ}
    {earlier row : RawEventRow P} (hj : prefix_rows[j]? = some earlier)
    (hearlier : is_phase_row codec earlier = true) (hjk : j ≤ k)
    (hk : prefix_rows[k]? = some row) : ∃ projection, phase_row codec row = .ok projection := by
  simp only [phase_projections, bind_eq_ok] at h
  obtain ⟨index, hindex, h⟩ := h
  -- the first phase event is not behind this one
  have hle : index ≤ j := by
    unfold first_phase_index at hindex
    by_cases hcreates : prefix_rows.head?.any (creates_run state) = true
    · rw [if_pos hcreates] at hindex
      simp only [bind_eq_ok, ok_or_eq_ok] at hindex
      obtain ⟨_, _, hfound⟩ := hindex
      by_contra hlt
      rw [List.findIdx?_eq_some_iff_getElem] at hfound
      obtain ⟨_, _, hnone⟩ := hfound
      obtain ⟨hlength, hget⟩ := List.getElem?_eq_some_iff.mp hj
      have hno := hnone j (by omega)
      rw [hget, hearlier] at hno
      simp at hno
    · rw [if_neg hcreates, pure_eq_ok] at hindex
      omega
  rw [map_checked_eq_ok] at h
  have hmem : row ∈ prefix_rows.drop index := by
    apply List.mem_of_getElem? (i := k - index)
    rw [List.getElem?_drop, Nat.add_sub_cancel' (hle.trans hjk), hk]
  obtain ⟨i, hi⟩ := List.mem_iff_getElem?.mp hmem
  obtain ⟨hlength, hget⟩ := List.getElem?_eq_some_iff.mp hi
  have hpair := (List.forall₂_iff_get.mp h).2 i hlength (by rw [← h.length_eq]; exact hlength)
  rw [List.get_eq_getElem, hget] at hpair
  exact ⟨_, hpair⟩

/-- What the check of a reviewed run has found: the rows of the run, and the place of the
acknowledged one. -/
structure ReviewedChain (codec : EngineerVerifierCodec P) (rows : List P)
    (state : EngineerVerifierStateV1 P) (sequence : ℕ) (run : List (RawEventRow P)) : Prop where
  phase : state.phase = .Reviewing
  pending : state.pending_projection = none
  projected : state.projected_sequence = some sequence
  run_rows : run_rows codec rows state.run_id = .ok run
  acknowledged : sequence < run.length
  projections : ∃ first rest,
    phase_projections codec state (run.take (sequence + 1)) = .ok (first :: rest)

theorem reviewedChain_of_eq_ok {rows : List P} {state : EngineerVerifierStateV1 P}
    {events : List RunEvent}
    (h : validate_terminal_reviewing_projection_chain codec rows state = .ok events) :
    ∃ sequence run, ReviewedChain codec rows state sequence run ∧
      events = run.map fun row => row.event := by
  simp only [validate_terminal_reviewing_projection_chain, acknowledged_rows, check_projections,
    bind_eq_ok, mapError_eq_ok, ok_or_eq_ok, reject_if_eq_ok, pure_eq_ok, exists_const,
    exists_and_right, exists_unit_eq_ok, not_or, not_not, ne_eq] at h
  obtain ⟨_, ⟨hphase, hpending⟩, sequence, hsequence, event_id, _, raw, hraw, _,
    ⟨_, _, terminal, hterminal, _, rfl⟩, projections, hprojections, ⟨_, first, hfirst, _⟩, rfl⟩ := h
  have hpending : state.pending_projection = none := by simpa using hpending
  refine ⟨sequence, of_run state.run_id raw, ⟨hphase, hpending, hsequence, ?_, ?_, ?_⟩, rfl⟩
  · unfold EngineerVerifierLoop.run_rows
    rw [hraw]
    rfl
  · exact (List.getElem?_eq_some_iff.mp hterminal).1
  · obtain ⟨rest, rfl⟩ := List.head?_eq_some_iff.mp hfirst
    exact ⟨first, rest, hprojections⟩

variable {rows : List P} {state : EngineerVerifierStateV1 P} {sequence : ℕ}
  {run : List (RawEventRow P)}

/-- The rows of the run are rows of the log, read as events of the run. -/
theorem ReviewedChain.read (h : ReviewedChain codec rows state sequence run)
    {row : RawEventRow P} (hrow : row ∈ run) :
    row.event.run_id = state.run_id ∧ row.bytes ∈ rows ∧
      codec.run_event.from_slice row.bytes = .ok row.event := by
  obtain ⟨hlines, hread⟩ := run_rows_spec h.run_rows
  obtain ⟨hraw, hrun⟩ := hread row hrow
  refine ⟨hrun, ?_, (raw_event_row_eq_ok.mp hraw).1⟩
  have hmem : row.bytes ∈ lines_of codec state.run_id rows := by
    rw [← hlines]
    exact List.mem_map_of_mem hrow
  exact List.mem_of_mem_filter hmem

/-- The run has a phase event. -/
theorem ReviewedChain.phase_line (h : ReviewedChain codec rows state sequence run) :
    ∃ line ∈ rows, ReviewWorld.IsPhaseLine codec state.run_id line := by
  obtain ⟨first, rest, hprojections⟩ := h.projections
  simp only [phase_projections, bind_eq_ok, map_checked_eq_ok] at hprojections
  obtain ⟨index, _, hrows⟩ := hprojections
  obtain ⟨row, later, hrow, _, hdrop⟩ := List.forall₂_cons_right_iff.mp hrows
  have hmem : row ∈ run := by
    apply List.mem_of_mem_take (i := sequence + 1)
    apply List.mem_of_mem_drop (i := index)
    rw [hdrop]
    exact List.mem_cons_self
  obtain ⟨hrun, hbytes, hread⟩ := h.read hmem
  simp only [phase_row, bind_eq_ok, ok_or_eq_ok] at hrow
  obtain ⟨_, hfound, rfl⟩ := hrow
  exact ⟨row.bytes, hbytes, row.event, first, hread, hrun, hfound⟩

/-- An event that is no phase event and stands behind one of its run is behind the
acknowledged event. -/
theorem ReviewedChain.behind (h : ReviewedChain codec rows state sequence run) {event : RunEvent}
    (hbehind : ReviewWorld.BehindPhase codec rows event) (hrun : event.run_id = state.run_id)
    (hnot : ∀ projection, validate_phase_event codec event ≠ .ok (some projection)) :
    ∃ k, sequence < k ∧ (run.map fun row => row.event)[k]? = some event := by
  obtain ⟨earlier, phase_line, line, later, rfl, hphase, hisphase, hline⟩ := hbehind
  -- the rows of the run are those of the earlier rows, this one and those behind it
  have hrows := h.run_rows
  rw [run_rows_append, run_rows_cons] at hrows
  simp only [bind_eq_ok, ExecutionLifecycleKernel.map_eq_ok] at hrows
  obtain ⟨before, hbefore, _, ⟨row, hrow, rest, _, rfl⟩, rfl⟩ := hrows
  have hevent : row.event = event := by
    have hread := (raw_event_row_eq_ok.mp hrow).1
    rw [hline] at hread
    exact (Except.ok.inj hread).symm
  rw [if_pos (by rw [hevent]; exact hrun)] at h ⊢
  refine ⟨before.length, ?_, ?_⟩
  · by_contra hle
    obtain ⟨phase_event, projection, hphase_read, hphase_run, hvalid⟩ := hisphase
    obtain ⟨hlines, hbefore_read⟩ := run_rows_spec hbefore
    have hmem : phase_line ∈ before.map fun row => row.bytes := by
      rw [hlines]
      apply List.mem_filter.mpr ⟨hphase, ?_⟩
      simp [ok_and, hphase_read, hphase_run, hrun]
    obtain ⟨phase, hphase_mem, rfl⟩ := List.mem_map.mp hmem
    have hphase_event : phase.event = phase_event := by
      have hread := (raw_event_row_eq_ok.mp (hbefore_read phase hphase_mem).1).1
      rw [hphase_read] at hread
      exact (Except.ok.inj hread).symm
    have his : is_phase_row codec phase = true := by
      rw [is_phase_row, ok_and_eq_true]
      exact ⟨some projection, by rw [hphase_event]; exact hvalid, rfl⟩
    obtain ⟨j, hj⟩ := List.mem_iff_getElem?.mp hphase_mem
    have hjlt : j < before.length := (List.getElem?_eq_some_iff.mp hj).1
    obtain ⟨first, others, hprojections⟩ := h.projections
    -- both stand in the acknowledged part, so this one would be a phase event
    have hphase_row : ((before ++ row :: rest).take (sequence + 1))[j]? = some phase := by
      rw [List.getElem?_take_of_lt (by omega), List.getElem?_append_left hjlt, hj]
    have hrow_row : ((before ++ row :: rest).take (sequence + 1))[before.length]? = some row := by
      rw [List.getElem?_take_of_lt (by omega), List.getElem?_append_right le_rfl]
      simp
    obtain ⟨found, hfound⟩ := phase_row_of_behind hprojections hphase_row his hjlt.le hrow_row
    simp only [phase_row, bind_eq_ok, ok_or_eq_ok] at hfound
    obtain ⟨_, hvalidated, rfl⟩ := hfound
    rw [hevent] at hvalidated
    exact hnot found hvalidated
  · rw [List.getElem?_map, List.getElem?_append_right le_rfl]
    simp [hevent]

end Chain

end EngineerVerifierLoop

/-! ## What the classification finds -/

namespace ReviewAuditLoop

/-- The event is the next one of a run behind these events. -/
theorem next_projection_event_eq_ok {events : List RunEvent} {id : EventId} {run_id : RunId}
    {occurred_at : DateTime} {producer_role : Role} {payload : RunEventPayload} {event : RunEvent}
    (h : next_projection_event events id run_id occurred_at producer_role payload = .ok event) :
    event.id = id ∧ event.run_id = run_id ∧ event.producer_role = producer_role ∧
      event.payload = payload := by
  simp only [next_projection_event, bind_eq_ok, pure_eq_ok] at h
  obtain ⟨_, _, rfl⟩ := h
  exact ⟨rfl, rfl, rfl, rfl⟩

/-- The event at a place is the decision that a reader expects behind those before it. -/
def DecidedAt (expected : List RunEvent → Except ReviewAuditLoopError RunEvent)
    (events : List RunEvent) (index : ℕ) : Prop :=
  ∃ event, events[index]? = some event ∧ expected (events.take index) = .ok event

theorem find_decision_eq_ok {event_id : EventId}
    {expected : List RunEvent → Except ReviewAuditLoopError RunEvent} {events : List RunEvent}
    {index : ℕ} {event : RunEvent} {found found' : Option ℕ} (hevent : events[index]? = some event)
    (h : find_decision event_id expected events index event found = .ok found')
    (hfound : ∀ j, found = some j → DecidedAt expected events j) :
    ∀ j, found' = some j → DecidedAt expected events j := by
  unfold find_decision at h
  by_cases hid : event.id = event_id
  · rw [if_pos hid] at h
    simp only [bind_eq_ok, reject_if_eq_ok, exists_const, pure_eq_ok, not_or, ne_eq, not_not] at h
    obtain ⟨_, hexpected, ⟨rfl, _⟩, rfl⟩ := h
    intro j hj
    cases hj
    exact ⟨event, hevent, hexpected⟩
  · rw [if_neg hid, pure_eq_ok] at h
    rw [← h]
    exact hfound

/-- Whatever is found are the two decisions, each at its place. -/
theorem find_decisions_eq_ok {pair : PassingPair} {events rest : List RunEvent} {index : ℕ}
    {found found' : Option ℕ × Option ℕ} (hrest : events.drop index = rest)
    (h : find_decisions pair events index rest found = .ok found')
    (hreview : ∀ j, found.1 = some j → DecidedAt (pair.review_event pair.review.run_id) events j)
    (haudit : ∀ j, found.2 = some j → DecidedAt (pair.audit_event pair.audit.run_id) events j) :
    (∀ j, found'.1 = some j → DecidedAt (pair.review_event pair.review.run_id) events j) ∧
      ∀ j, found'.2 = some j → DecidedAt (pair.audit_event pair.audit.run_id) events j := by
  induction rest generalizing index found with
  | nil =>
    rw [find_decisions, pure_eq_ok] at h
    rw [← h]
    exact ⟨hreview, haudit⟩
  | cons event rest ih =>
    simp only [find_decisions, bind_eq_ok, reject_if_eq_ok, exists_const] at h
    obtain ⟨review_index, hreview', audit_index, haudit', _, h⟩ := h
    have hevent : events[index]? = some event := by
      rw [← List.head?_drop, hrest]
      rfl
    apply ih ?_ h
    · exact find_decision_eq_ok hevent hreview' hreview
    · exact find_decision_eq_ok hevent haudit' haudit
    · rw [← List.tail_drop, hrest]
      rfl

/-- What a classification says of the events of a run with the acknowledged one at a place. -/
theorem classify_eq_ok {events : List RunEvent} {sequence : ℕ} {pair : PassingPair}
    {found : DecisionProjectionState}
    (h : classify_decision_projection events sequence pair = .ok found) :
    (∃ event, events[sequence]? = some event ∧ event.run_id = pair.review.run_id) ∧
      match found with
      | .Absent => events.length = sequence + 1
      | .ReviewOnly => events.length = sequence + 2 ∧
          DecidedAt (pair.review_event pair.review.run_id) events (sequence + 1)
      | .Complete => DecidedAt (pair.review_event pair.review.run_id) events (sequence + 1) ∧
          DecidedAt (pair.audit_event pair.audit.run_id) events (sequence + 2) := by
  simp only [classify_decision_projection, bind_eq_ok, ok_or_eq_ok, reject_if_eq_ok, exists_const,
    ne_eq, not_not] at h
  obtain ⟨terminal, hterminal, hrun, ⟨review_index, audit_index⟩, hfind, h⟩ := h
  refine ⟨⟨terminal, hterminal, hrun⟩, ?_⟩
  obtain ⟨hreview, haudit⟩ := find_decisions_eq_ok rfl hfind (fun j hj => by cases hj)
    (fun j hj => by cases hj)
  cases review_index with
  | none =>
    cases audit_index with
    | none =>
      simp only [bind_eq_ok, reject_if_eq_ok, exists_const, pure_eq_ok, not_not] at h
      obtain ⟨hlength, rfl⟩ := h
      exact hlength
    | some audit_index => cases h
  | some review_index =>
    have hreview_at := hreview review_index rfl
    cases audit_index with
    | none =>
      simp only [bind_eq_ok, reject_if_eq_ok, exists_const, pure_eq_ok, not_or, not_not] at h
      obtain ⟨⟨rfl, hlength⟩, rfl⟩ := h
      exact ⟨hlength.symm, hreview_at⟩
    | some audit_index =>
      have haudit_at := haudit audit_index rfl
      simp only [bind_eq_ok, reject_if_eq_ok, exists_const, pure_eq_ok, not_or, not_not] at h
      obtain ⟨⟨rfl, rfl⟩, rfl⟩ := h
      exact ⟨hreview_at, haudit_at⟩

end ReviewAuditLoop

/-! ## Reading the log under the lease -/

namespace ReviewWorld

section Reading

variable {ι P Q : Type} [DecidableEq P] {authority : ReviewAuthority P Q} {controls : ι → Prop}
  {i : ι} {w w' : ReviewWorld ι P Q}

/-- The run is being reviewed, behind the acknowledged event at this place. -/
def Acknowledged (authority : ReviewAuthority P Q) (w : ReviewWorld ι P Q) (run_id : RunId)
    (sequence : ℕ) : Prop :=
  ∃ issue6, issue6_of authority w.store[entity_key run_id]? = some issue6 ∧
    issue6.phase = .Reviewing ∧ issue6.pending_projection = none ∧
    issue6.projected_sequence = some sequence

theorem Acknowledged.onward {run_id : RunId} {sequence : ℕ}
    (h : Acknowledged authority w run_id sequence) (hon : Onward authority w w') :
    Acknowledged authority w' run_id sequence := by
  obtain ⟨issue6, hissue6, hphase, hpending, hsequence⟩ := h
  obtain ⟨issue6', hissue6', hphase', hpending', hsequence'⟩ :=
    (hon.rows (entity_key run_id)).issue6 issue6 hissue6 hphase hpending
  exact ⟨issue6', hissue6', hphase', hpending', hsequence'.trans hsequence⟩

omit [DecidableEq P] in
/-- Of two places of the acknowledged event one is the other. -/
theorem Acknowledged.unique {run_id : RunId} {sequence sequence' : ℕ}
    (h : Acknowledged authority w run_id sequence) (h' : Acknowledged authority w run_id sequence') :
    sequence = sequence' := by
  obtain ⟨issue6, hissue6, _, _, hsequence⟩ := h
  obtain ⟨issue6', hissue6', _, _, hsequence'⟩ := h'
  rw [hissue6, Option.some.injEq] at hissue6'
  rw [← hissue6', hsequence] at hsequence'
  exact Option.some.inj hsequence'

/-- What a controller has read of the log: the events of the run, and among those behind the
acknowledged one every event of the run that a controller has appended. -/
structure Reading (authority : ReviewAuthority P Q) (controls : ι → Prop) (w : ReviewWorld ι P Q)
    (run_id : RunId) (sequence : ℕ) (events : List RunEvent) : Prop where
  acknowledged : Acknowledged authority w run_id sequence
  phase_line : ∃ line ∈ w.rows, IsPhaseLine authority.codec run_id line
  read : ∀ event ∈ events, event.run_id = run_id ∧
    ∃ line ∈ w.rows, authority.codec.run_event.from_slice line = .ok event
  appended : ∀ e ∈ w.trace, controls e.caller → ∀ event, e.event = .appended event →
    event.run_id = run_id → ∃ k, sequence < k ∧ events[k]? = some event

/-- While the caller has the lease, what it has read stays true. -/
theorem Reading.relies {run_id : RunId} {sequence : ℕ} {events : List RunEvent}
    (h : Reading authority controls w run_id sequence events) (hlease : w.lease = some i)
    (hrelies : Relies authority controls i w w') :
    Reading authority controls w' run_id sequence events where
  acknowledged := h.acknowledged.onward hrelies.toOnward
  phase_line := by
    obtain ⟨line, hline, hphase⟩ := h.phase_line
    exact ⟨line, hrelies.log.subset hline, hphase⟩
  read event hevent := by
    obtain ⟨hrun, line, hline, hread⟩ := h.read event hevent
    exact ⟨hrun, line, hrelies.log.subset hline, hread⟩
  appended e he hcontrols event hevent :=
    h.appended e (hrelies.appends hlease e he hcontrols event hevent) hcontrols event hevent

omit [DecidableEq P] in
/-- A decision is no phase event. -/
theorem IsDecision.not_phase {codec : EngineerVerifierCodec P} {pair : ReviewAuditLoop.PassingPair}
    {event : RunEvent} (h : IsDecision pair event)
    (projection : EngineerVerifierPhaseProjectionV1) :
    EngineerVerifierLoop.validate_phase_event codec event ≠ .ok (some projection) := by
  intro hvalid
  have hnote : event.payload ≠ .NoteRecorded PHASE_EVENT_NOTE := by
    rcases h with ⟨_, _, hpayload⟩ | ⟨_, _, hpayload⟩
    · rw [hpayload]
      intro heq
      cases heq
    · rw [hpayload]
      intro heq
      cases heq
  unfold EngineerVerifierLoop.validate_phase_event at hvalid
  by_cases hnone : event.payload ≠ .NoteRecorded PHASE_EVENT_NOTE
      ∧ event.metadata[PHASE_EVENT_METADATA_KEY]? = none
  · rw [if_pos hnone] at hvalid
    cases hvalid
  · rw [if_neg hnone] at hvalid
    simp only [bind_eq_ok, reject_if_eq_ok, exists_const, not_or] at hvalid
    exact hvalid.1.1 hnote

/-- The check of a reviewed run reads the log. -/
theorem reading_of_chain (hinv : ReviewInv authority controls w)
    {issue6 : EngineerVerifierStateV1 P} {events : List RunEvent}
    (hacknowledged : ∀ sequence, issue6.phase = .Reviewing → issue6.pending_projection = none →
      issue6.projected_sequence = some sequence →
        Acknowledged authority w issue6.run_id sequence)
    (h : EngineerVerifierLoop.validate_terminal_reviewing_projection_chain authority.codec w.rows
      issue6 = .ok events) :
    ∃ sequence, Reading authority controls w issue6.run_id sequence events := by
  obtain ⟨sequence, run, hchain, rfl⟩ := EngineerVerifierLoop.reviewedChain_of_eq_ok h
  refine ⟨sequence, hacknowledged sequence hchain.phase hchain.pending hchain.projected,
    hchain.phase_line, ?_, ?_⟩
  · intro event hevent
    obtain ⟨raw, hraw, rfl⟩ := List.mem_map.mp hevent
    obtain ⟨hrun, hbytes, hread⟩ := hchain.read hraw
    exact ⟨hrun, raw.bytes, hbytes, hread⟩
  · intro e he hcontrols event hevent hrun
    -- what a controller has appended is a decision, behind a phase event
    obtain ⟨_, _, _, hfits⟩ := hinv.history.of_mem he
    have hprojected := hfits.projected hcontrols event hevent
    obtain ⟨_, _, _, _, _, hdecision, _⟩ := hprojected.decision
    exact hchain.behind hprojected.behind hrun hdecision.not_phase

end Reading

end ReviewWorld

end OvcaCore

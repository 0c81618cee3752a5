/-
Tampering with an event chain.

`validate_event_chain` accepts exactly the lists that are chained (`validate_event_chain_iff`):
the position of an event is its sequence, and its link is the id of the event before it. So an
edit that moves, copies or drops an event, or changes a part of its frame, is found, wherever
it is made. Three edits leave a chain: the end of the list can be cut off, and the last event
can have another new id; the only event of a list can also have another run id, since the run
of a list is the one its first event names.
-/
import OvcaCore.ReplayHistory

set_option autoImplicit false

namespace OvcaCore.Replay

open OvcaCore.Checks OvcaCore.OrderedMaps

variable {events kept : List RunEvent} {run_id : RunId} {event : RunEvent}

/-! ## What is accepted -/

/-- A list of events that is chained. -/
structure EventChain (events : List RunEvent) : Prop where
  nonempty : events ≠ []
  created : ∀ i e, events[i]? = some e → (is_run_created e.payload = true ↔ i = 0)
  run_ids : ∀ e ∈ events, ∀ e' ∈ events, e.run_id = e'.run_id
  versions : ∀ e ∈ events, e.contract_version = ContractVersion.current
  sequences : events.map RunEvent.sequence = List.range events.length
  first : ∀ e, events.head? = some e → e.previous_event_id = none
  links : ∀ i e e', events[i]? = some e → events[i + 1]? = some e' →
    e'.previous_event_id = some e.id
  ids : (events.map RunEvent.id).Nodup

/-- What the loop checks of the event at a position, besides its id. -/
structure InPlace (run_id : RunId) (i : ℕ) (previous : Option EventId) (event : RunEvent) :
    Prop where
  version : event.contract_version = ContractVersion.current
  created : is_run_created event.payload = true ↔ i = 0
  run_id : event.run_id = run_id
  sequence : event.sequence = i
  link : event.previous_event_id = previous

theorem validate_link_eq_ok {previous : Option EventId} {u : Unit} :
    validate_link previous event = .ok u ↔ event.previous_event_id = previous := by
  unfold validate_link
  cases previous with
  | none => cases event.previous_event_id <;> simp [check_some]
  | some expected => simp

theorem validate_chain_event_iff {state next : ChainState} :
    validate_chain_event run_id state event = .ok next ↔
      InPlace run_id state.index state.previous_event_id event ∧ event.id ∉ state.seen_event_ids
        ∧ next = { index := state.index + 1
                   previous_event_id := some event.id
                   seen_event_ids := state.seen_event_ids.insert event.id event.sequence } := by
  have hseen : (∀ first_sequence, state.seen_event_ids[event.id]? = some first_sequence →
      (.error (.DuplicateEventId event.id first_sequence event.sequence) : Except ReplayError Unit)
        = .ok ()) ↔ event.id ∉ state.seen_event_ids := by
    rw [mem_iff_get, not_exists]
    exact forall_congr' fun first => ⟨fun h heq => (nomatch h heq), fun h heq => absurd heq h⟩
  simp only [validate_chain_event, bind_eq_ok, reject_if_eq_ok, exists_const, ne_eq, not_not,
    pure_eq_ok, validate_created_eq_ok, validate_link_eq_ok, check_some_eq_ok, hseen]
  constructor
  · rintro ⟨hversion, hcreated, hrun, hsequence, hlink, hnew, rfl⟩
    exact ⟨⟨hversion, hcreated, hrun, hsequence, hlink⟩, hnew, rfl⟩
  · rintro ⟨⟨hversion, hcreated, hrun, hsequence, hlink⟩, hnew, rfl⟩
    exact ⟨hversion, hcreated, hrun, hsequence, hlink, hnew, rfl⟩

/-- The loop over a list, from any state. -/
theorem fold_chain_iff {state : ChainState} :
    (∃ final, fold_checked (validate_chain_event run_id) state events = .ok final) ↔
      (∀ i e, events[i]? = some e → InPlace run_id (state.index + i)
        (predecessor state.previous_event_id (events.map RunEvent.id) i) e) ∧
      (events.map RunEvent.id).Nodup ∧ ∀ e ∈ events, e.id ∉ state.seen_event_ids := by
  induction events generalizing state with
  | nil => simp
  | cons e events ih =>
    simp only [fold_checked_cons_eq_ok, validate_chain_event_iff]
    constructor
    · rintro ⟨final, _, ⟨hplace, hnew, rfl⟩, hrest⟩
      obtain ⟨hplaces, hnodup, hunseen⟩ := ih.mp ⟨final, hrest⟩
      have hothers : ∀ other ∈ events, other.id ≠ e.id ∧ other.id ∉ state.seen_event_ids := by
        intro other hother
        have hnot := hunseen other hother
        rw [Std.ExtTreeMap.mem_insert, Std.LawfulEqCmp.compare_eq_iff_eq, not_or] at hnot
        exact ⟨fun heq => hnot.1 heq.symm, hnot.2⟩
      refine ⟨fun i other hother => ?_, ?_, ?_⟩
      · rcases i with _ | i
        · obtain rfl := Option.some.inj hother
          exact hplace
        · have hplace' := hplaces i other hother
          rw [show state.index + (i + 1) = state.index + 1 + i by omega]
          rcases i with _ | i
          · exact hplace'
          · exact hplace'
      · rw [List.map_cons, List.nodup_cons]
        refine ⟨fun hmem => ?_, hnodup⟩
        obtain ⟨other, hother, heq⟩ := List.mem_map.mp hmem
        exact (hothers other hother).1 heq
      · rw [List.forall_mem_cons]
        exact ⟨hnew, fun other hother => (hothers other hother).2⟩
    · rintro ⟨hplaces, hnodup, hunseen⟩
      rw [List.map_cons, List.nodup_cons] at hnodup
      rw [List.forall_mem_cons] at hunseen
      have hplaces_rest : ∀ i other, events[i]? = some other → InPlace run_id (state.index + 1 + i)
          (predecessor (some e.id) (events.map RunEvent.id) i) other := by
        intro i other hother
        have hplace := hplaces (i + 1) other hother
        rw [show state.index + (i + 1) = state.index + 1 + i by omega] at hplace
        rcases i with _ | i
        · exact hplace
        · exact hplace
      have hunseen_rest : ∀ other ∈ events,
          other.id ∉ state.seen_event_ids.insert e.id e.sequence := by
        intro other hother
        rw [Std.ExtTreeMap.mem_insert, Std.LawfulEqCmp.compare_eq_iff_eq, not_or]
        refine ⟨fun heq => hnodup.1 ?_, hunseen.2 other hother⟩
        rw [heq]
        exact List.mem_map_of_mem hother
      -- the loop goes on from the state that the first event leaves
      obtain ⟨final, hfinal⟩ := (@ih ⟨state.index + 1, some e.id, _⟩).mpr
        ⟨hplaces_rest, hnodup.2, hunseen_rest⟩
      exact ⟨final, _, ⟨hplaces 0 e rfl, hunseen.1, rfl⟩, hfinal⟩

/-- The sequences of a list are its positions. -/
theorem sequences_eq_range : events.map RunEvent.sequence = List.range events.length
    ↔ ∀ (i : ℕ) (e : RunEvent), events[i]? = some e → e.sequence = i := by
  constructor
  · intro h i e he
    have hi : (events.map RunEvent.sequence)[i]? = some e.sequence := by
      rw [List.getElem?_map, he]
      rfl
    rw [h, List.getElem?_eq_some_iff] at hi
    obtain ⟨_, hi⟩ := hi
    rw [List.getElem_range] at hi
    exact hi.symm
  · intro h
    refine List.ext_getElem (by simp) fun i hi _ => ?_
    rw [List.length_map] at hi
    rw [List.getElem_map, List.getElem_range]
    exact h i _ (List.getElem?_eq_getElem hi)

namespace EventChain

theorem sequence_eq (h : EventChain events) {i : ℕ} {e : RunEvent} (he : events[i]? = some e) :
    e.sequence = i := sequences_eq_range.mp h.sequences i e he

/-- The link of an event is determined by the event before it. -/
theorem link_eq (h : EventChain events) {i : ℕ} {e : RunEvent} (he : events[i]? = some e) :
    e.previous_event_id = predecessor none (events.map RunEvent.id) i := by
  rcases i with _ | i
  · exact h.first e (by rw [List.head?_eq_getElem?]; exact he)
  · obtain ⟨hi, -⟩ := List.getElem?_eq_some_iff.mp he
    have hbefore := List.getElem?_eq_getElem (Nat.lt_of_succ_lt hi)
    rw [h.links i _ e hbefore he, predecessor, List.getElem?_map, hbefore]
    rfl

end EventChain

/-- **What `validate_event_chain` accepts.** -/
theorem validate_event_chain_iff :
    (∃ run_id, validate_event_chain events = .ok run_id) ↔ EventChain events := by
  constructor
  · rintro ⟨run_id, h⟩
    obtain ⟨first, rest, chain, rfl, -, hfold⟩ := validate_event_chain_eq_ok.mp h
    obtain ⟨hplaces, hnodup, -⟩ := fold_chain_iff.mp ⟨chain, hfold⟩
    simp only [Nat.zero_add] at hplaces
    -- the run id and the version are asked of every event, wherever it is
    have hplace_of : ∀ e ∈ first :: rest, ∃ i previous, InPlace first.run_id i previous e := by
      intro e hmem
      obtain ⟨i, hi⟩ := List.mem_iff_getElem?.mp hmem
      exact ⟨i, _, hplaces i e hi⟩
    refine ⟨List.cons_ne_nil _ _, fun i e he => (hplaces i e he).created, ?_, ?_, ?_, ?_, ?_,
      hnodup⟩
    · intro e hmem e' hmem'
      obtain ⟨_, _, hplace⟩ := hplace_of e hmem
      obtain ⟨_, _, hplace'⟩ := hplace_of e' hmem'
      rw [hplace.run_id, hplace'.run_id]
    · intro e hmem
      obtain ⟨_, _, hplace⟩ := hplace_of e hmem
      exact hplace.version
    · exact sequences_eq_range.mpr fun i e he => (hplaces i e he).sequence
    · intro e he
      obtain rfl := Option.some.inj he
      exact (hplaces 0 first rfl).link
    · intro i e e' he he'
      rw [(hplaces (i + 1) e' he').link]
      show ((first :: rest).map RunEvent.id)[i]? = _
      rw [List.getElem?_map, he]
      rfl
  · intro h
    obtain ⟨first, rest, rfl⟩ := List.exists_cons_of_ne_nil h.nonempty
    have hplaces : ∀ i e, (first :: rest)[i]? = some e → InPlace first.run_id (0 + i)
        (predecessor none ((first :: rest).map RunEvent.id) i) e := by
      intro i e he
      have hmem := List.mem_of_getElem? he
      rw [Nat.zero_add]
      exact ⟨h.versions e hmem, h.created i e he, h.run_ids e hmem first List.mem_cons_self,
        h.sequence_eq he, h.link_eq he⟩
    obtain ⟨chain, hfold⟩ := (@fold_chain_iff (first :: rest) first.run_id ⟨0, none, ∅⟩).mpr
      ⟨hplaces, h.ids, fun e _ => Std.ExtTreeMap.not_mem_empty⟩
    exact ⟨_, validate_event_chain_eq_ok.mpr ⟨first, rest, chain, rfl, rfl, hfold⟩⟩

/-! ## Edits -/

/-- The events at the positions that are kept. -/
def keep_positions (keep : ℕ → Bool) (events : List RunEvent) : List RunEvent :=
  (events.zipIdx.filter fun p => keep p.2).map Prod.fst

/-- The positions that are dropped are the ones from some position on, but not all. -/
def CutsEnd (keep : ℕ → Bool) (events : List RunEvent) : Prop :=
  ∃ j, 1 ≤ j ∧ ∀ i < events.length, keep i = true ↔ i < j

/-- An edit of a list of events that is found. -/
inductive Tampered (events : List RunEvent) : List RunEvent → Prop
  | deleted (keep : ℕ → Bool) (hdrops : ∃ i < events.length, keep i = false)
      (hcut : ¬ CutsEnd keep events) : Tampered events (keep_positions keep events)
  | exchanged (i j : ℕ) (a b : RunEvent) (hij : i ≠ j) (ha : events[i]? = some a)
      (hb : events[j]? = some b) : Tampered events ((events.set i b).set j a)
  | copied (i : ℕ) (e : RunEvent) (he : e ∈ events) :
      Tampered events (events.take i ++ e :: events.drop i)
  | id_changed (i : ℕ) (e : RunEvent) (he : events[i]? = some e) (id : EventId) (hid : id ≠ e.id)
      (hlast : i + 1 < events.length ∨ id ∈ events.map RunEvent.id) :
      Tampered events (events.set i { e with id := id })
  | run_id_changed (i : ℕ) (e : RunEvent) (he : events[i]? = some e) (run_id : RunId)
      (hrun : run_id ≠ e.run_id) (hothers : 2 ≤ events.length) :
      Tampered events (events.set i { e with run_id := run_id })
  | sequence_changed (i : ℕ) (e : RunEvent) (he : events[i]? = some e) (sequence : ℕ)
      (hsequence : sequence ≠ e.sequence) :
      Tampered events (events.set i { e with sequence := sequence })
  | previous_changed (i : ℕ) (e : RunEvent) (he : events[i]? = some e)
      (previous_event_id : Option EventId) (hprevious : previous_event_id ≠ e.previous_event_id) :
      Tampered events (events.set i { e with previous_event_id := previous_event_id })

namespace EventChain

/-- What is kept of a chain is chained only if it is the whole or the end is cut off. -/
theorem keep_positions (h : EventChain events) {keep : ℕ → Bool}
    (hkept : EventChain (keep_positions keep events)) : CutsEnd keep events := by
  have hpositions : (Replay.keep_positions keep events).map RunEvent.sequence
      = (List.range events.length).filter keep := by
    unfold Replay.keep_positions
    rw [List.map_map, List.range_eq_range', ← List.zipIdx_map_snd 0 events, List.filter_map]
    refine List.map_congr_left fun p hp => ?_
    exact h.sequence_eq (List.mem_zipIdx_iff_getElem?.mp (List.mem_filter.mp hp).1)
  -- the kept positions are those of a chain, so they are all up to their number
  rw [hkept.sequences] at hpositions
  refine ⟨(Replay.keep_positions keep events).length,
    List.length_pos_iff.mpr hkept.nonempty, fun i hi => ?_⟩
  have hmem : i ∈ List.range (Replay.keep_positions keep events).length
      ↔ i ∈ (List.range events.length).filter keep := by rw [hpositions]
  rw [List.mem_range, List.mem_filter, List.mem_range] at hmem
  rw [hmem]
  exact (and_iff_right hi).symm

/-- An edit of one event of a chain that leaves a chain keeps its sequence, its link, the run if
there are other events, and the id unless it is the last event that gets a new one. -/
theorem set (h : EventChain events) {i : ℕ} {e edited : RunEvent} (he : events[i]? = some e)
    (hset : EventChain (events.set i edited)) :
    edited.sequence = e.sequence
      ∧ (edited.id = e.id → edited.previous_event_id = e.previous_event_id)
      ∧ (2 ≤ events.length → edited.run_id = e.run_id)
      ∧ (edited.id ≠ e.id → i + 1 = events.length ∧ edited.id ∉ events.map RunEvent.id) := by
  obtain ⟨hi, -⟩ := List.getElem?_eq_some_iff.mp he
  have hedited : (events.set i edited)[i]? = some edited := List.getElem?_set_self hi
  have hother : ∀ j, j ≠ i → (events.set i edited)[j]? = events[j]? :=
    fun j hj => List.getElem?_set_ne (Ne.symm hj)
  refine ⟨?_, ?_, ?_, ?_⟩
  · rw [hset.sequence_eq hedited, h.sequence_eq he]
  · intro hid
    -- with the same ids, each link is determined as it was before
    have hids : (events.set i edited).map RunEvent.id = events.map RunEvent.id := by
      rw [List.map_set, hid]
      refine List.ext_getElem? fun j => ?_
      by_cases hj : j = i
      · subst hj
        rw [List.getElem?_set_self (by simpa using hi), List.getElem?_map, he]
        rfl
      · exact List.getElem?_set_ne (Ne.symm hj)
    rw [hset.link_eq hedited, hids, h.link_eq he]
  · intro hothers
    -- there is another event, whose run is the same before and after
    obtain ⟨j, hj, hjlength⟩ : ∃ j, j ≠ i ∧ j < events.length := by
      by_cases hzero : i = 0
      · exact ⟨1, by omega, by omega⟩
      · exact ⟨0, by omega, by omega⟩
    have hget := List.getElem?_eq_getElem hjlength
    have hget' := (hother j hj).trans hget
    rw [hset.run_ids edited (List.mem_of_getElem? hedited) _ (List.mem_of_getElem? hget'),
      h.run_ids e (List.mem_of_getElem? he) _ (List.mem_of_getElem? hget)]
  · intro hid
    constructor
    · -- the event behind it would name both the old and the new id
      by_contra hlast
      have hnext := List.getElem?_eq_getElem (show i + 1 < events.length by omega)
      have hbefore := h.links i e _ he hnext
      have hafter := hset.links i edited _ hedited ((hother (i + 1) (by omega)).trans hnext)
      rw [hbefore, Option.some_inj] at hafter
      exact hid hafter.symm
    · intro hused
      obtain ⟨other, hmem, heq⟩ := List.mem_map.mp hused
      obtain ⟨j, hj⟩ := List.mem_iff_getElem?.mp hmem
      -- the id would stand at two positions of the edited list
      have hne : j ≠ i := by
        rintro rfl
        rw [he, Option.some_inj] at hj
        exact hid (by rw [← heq, ← hj])
      have hidi : ((events.set i edited).map RunEvent.id)[i]? = some edited.id := by
        rw [List.getElem?_map, hedited]
        rfl
      have hidj : ((events.set i edited).map RunEvent.id)[j]? = some edited.id := by
        rw [List.getElem?_map, hother j hne, hj, Option.map_some, heq]
      have hlength : i < ((events.set i edited).map RunEvent.id).length := by simpa using hi
      exact hne ((List.getElem?_inj hlength hset.ids).mp (hidi.trans hidj.symm)).symm

/-- **No edit leaves a chain.** -/
theorem not_tampered (h : EventChain events) {tampered : List RunEvent}
    (hedit : Tampered events tampered) : ¬ EventChain tampered := by
  intro hchain
  cases hedit with
  | deleted keep hdrops hcut => exact hcut (h.keep_positions hchain)
  | exchanged i j a b hij ha hb =>
    obtain ⟨hi, -⟩ := List.getElem?_eq_some_iff.mp ha
    -- the moved event still has the sequence of its old position
    have hmoved : ((events.set i b).set j a)[i]? = some b := by
      rw [List.getElem?_set_ne (Ne.symm hij)]
      exact List.getElem?_set_self hi
    rw [← h.sequence_eq hb, ← hchain.sequence_eq hmoved] at hij
    exact hij rfl
  | copied i e he =>
    -- the copy and the event have one id
    have hnodup := hchain.ids
    rw [List.map_append, List.map_cons, List.nodup_middle, List.nodup_cons, ← List.map_append,
      List.take_append_drop] at hnodup
    exact hnodup.1 (List.mem_map_of_mem he)
  | id_changed i e he id hid hlast =>
    obtain ⟨hend, hnew⟩ := (h.set he hchain).2.2.2 hid
    rcases hlast with hlast | hused
    · omega
    · exact hnew hused
  | run_id_changed i e he run_id hrun hothers => exact hrun ((h.set he hchain).2.2.1 hothers)
  | sequence_changed i e he sequence hsequence => exact hsequence (h.set he hchain).1
  | previous_changed i e he previous hprevious => exact hprevious ((h.set he hchain).2.1 rfl)

end EventChain

/-- **Event chains are tamper-evident.** `validate_event_chain` accepts exactly the lists that
are chained, and no list that an edit makes of one it accepts. -/
theorem chain_tamper_evident (events : List RunEvent) :
    ((∃ run_id, validate_event_chain events = .ok run_id) ↔ EventChain events) ∧
    ∀ run_id tampered, validate_event_chain events = .ok run_id → Tampered events tampered →
      ∃ error, validate_event_chain tampered = .error error := by
  refine ⟨validate_event_chain_iff, fun run_id tampered hvalid hedit => ?_⟩
  have hchain := validate_event_chain_iff.mp ⟨run_id, hvalid⟩
  cases herror : validate_event_chain tampered with
  | error error => exact ⟨error, rfl⟩
  | ok run_id' =>
    exact absurd (validate_event_chain_iff.mp ⟨run_id', herror⟩) (hchain.not_tampered hedit)

/-- A run that was created and has a note. -/
def annotatedStream : List RunEvent :=
  streamed "run"
    [(.Coordinator, .RunCreated ⟨"project", "goal", ["task"], .Draft, 0, 0, none, none⟩),
      (.Coordinator, .NoteRecorded "note")]

theorem annotated_tamper_evident :
    ∃ error, validate_event_chain (annotatedStream.set 0
      { annotatedStream.head (by decide) with run_id := "other" }) = .error error := by
  obtain ⟨run_id, hvalid⟩ : ∃ run_id, validate_event_chain annotatedStream = .ok run_id :=
    ⟨_, rfl⟩
  refine (chain_tamper_evident annotatedStream).2 run_id _ hvalid
    (.run_id_changed 0 _ rfl "other" ?_ (by decide))
  decide

/-- The run of the only event of a chain can be changed: the list is accepted as the chain of
another run. -/
theorem lone_event_renamed :
    validate_event_chain (annotatedStream.take 1) = .ok "run" ∧
    validate_event_chain ((annotatedStream.take 1).map fun event => { event with run_id := "other" })
      = .ok "other" := ⟨rfl, rfl⟩

end OvcaCore.Replay

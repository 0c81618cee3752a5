/-
The command loop of the verifier, as a function of what the host answers.

A run reaches the commands of its plan in order until one of them stops it; the
commands it reaches with what happened to them are its trace (`reached`). The three
accumulators after the loop are three readings of the trace: the verdicts take its
contributions, the failures are its events, the transcript its executed commands.
-/
import OvcaCore.BundlePublication

set_option autoImplicit false

namespace OvcaCore

open OvcaCore.Checks OvcaCore.Maxima

namespace VerifierRequest

/-! ## Readings of an execution -/

/-- A reached command, with what happened to it. -/
abbrev Reached := PlannedCommand × PreparedExecution

/-- The verdict that an execution contributes. -/
def contribution : PreparedExecution → CriterionResultVerdict
  | .Executed evidence => (execution_shape evidence).2.1
  | .PreSpawn failure => (runtime_preflight_shape failure).1
  | .SnapshotTamper => .Invalid

/-- The criteria to which it contributes: those of its capability; when it stops the
run, those of the capabilities that remain; all, when the snapshot was touched. -/
def concerned (request : VerifierRequest) (reached : Reached) : List String :=
  match reached.2 with
  | .SnapshotTamper => request.criterion_ids
  | .PreSpawn _ => reached.1.remaining
  | .Executed evidence =>
    if stops (.Executed evidence) then reached.1.remaining
    else reached.1.capability.criterion_ids

/-- The event it is, unless the command passed. -/
def event_of (sequence : ℕ) : PreparedExecution → Option FailureEvent
  | .Executed evidence => (execution_shape evidence).2.2.1.map fun code =>
      { code := code, command_sequence := some sequence, pre_spawn := false }
  | .PreSpawn failure => some
      { code := (runtime_preflight_shape failure).2
        command_sequence := some sequence
        pre_spawn := (runtime_preflight_shape failure).2 == .ExecutableTamper }
  | .SnapshotTamper => some
      { code := .SnapshotTamper, command_sequence := none, pre_spawn := false }

/-- Its entry in the transcript; only a spawned command has one. -/
def entry_of (json : VerifierJson) (sequence : ℕ) (reached : Reached) :
    Option VerificationTranscriptCommandIdentity :=
  match reached.2 with
  | .Executed evidence => some (transcript_entry
      ((verification_command_digest json.toVerificationJson reached.1.capability
        reached.1.command_index).getD "") sequence evidence)
  | _ => none

/-! ## The trace of a run -/

/-- The commands that are reached from a number on. -/
def reached (answers : ℕ → CommandAnswers) :
    ℕ → List (PlannedCommand × PreparedCommand) → Except ExecutionError (List Reached)
  | _, [] => .ok []
  | sequence, (planned, prepared) :: rest => do
    let execution ← execute_prepared prepared (answers sequence)
    if stops execution then return [(planned, execution)]
    else
      let later ← reached answers (sequence + 1) rest
      return (planned, execution) :: later

def contributions (request : VerifierRequest) (trace : List Reached) :
    List (List String × CriterionResultVerdict) :=
  trace.map fun r => (request.concerned r, contribution r.2)

/-- The events of a trace whose first command has a number. -/
def events_from (sequence : ℕ) (trace : List Reached) : List FailureEvent :=
  (trace.zipIdx sequence).filterMap fun p => event_of p.2 p.1.2

def entries_from (json : VerifierJson) (sequence : ℕ) (trace : List Reached) :
    List VerificationTranscriptCommandIdentity :=
  (trace.zipIdx sequence).filterMap fun p => entry_of json p.2 p.1

theorem events_from_cons (sequence : ℕ) (r : Reached) (trace : List Reached) :
    events_from sequence (r :: trace)
      = (event_of sequence r.2).toList ++ events_from (sequence + 1) trace := by
  unfold events_from
  rw [List.zipIdx_cons, List.filterMap_cons]
  cases event_of sequence r.2 <;> rfl

theorem entries_from_cons (json : VerifierJson) (sequence : ℕ) (r : Reached)
    (trace : List Reached) :
    entries_from json sequence (r :: trace)
      = (entry_of json sequence r).toList ++ entries_from json (sequence + 1) trace := by
  unfold entries_from
  rw [List.zipIdx_cons, List.filterMap_cons]
  cases entry_of json sequence r <;> rfl

/-! ## One turn -/

section Turn

variable {json : VerifierJson} {request : VerifierRequest}

theorem event_of_executed (sequence : ℕ) (evidence : ExecutionEvidence) :
    event_of sequence (.Executed evidence) = (execution_shape evidence).2.2.1.map fun code =>
      { code := code, command_sequence := some sequence, pre_spawn := false } := rfl

theorem mem_remaining {planned : PlannedCommand} {id : String} :
    id ∈ planned.remaining ↔
      ∃ c ∈ planned.capability :: planned.later, id ∈ c.criterion_ids := by
  unfold PlannedCommand.remaining
  rw [Std.ExtTreeSet.mem_toList, Std.ExtTreeSet.mem_ofList, List.contains_iff_mem,
    List.mem_flatMap]

theorem executed_verdicts_eq (request : VerifierRequest) (planned : PlannedCommand) (evidence : ExecutionEvidence)
    (verdicts : CriterionVerdicts) :
    executed_verdicts planned evidence verdicts
      = raise_all verdicts (request.concerned (planned, .Executed evidence))
        (contribution (.Executed evidence)) := by
  have hsub : ∀ id ∈ planned.capability.criterion_ids, id ∈ planned.remaining :=
    fun id hid => mem_remaining.mpr ⟨planned.capability, List.mem_cons_self, hid⟩
  unfold executed_verdicts concerned contribution stops
  simp only [apply_verdict_eq]
  by_cases hterminal : (execution_shape evidence).2.2.2 = true
  · rw [if_pos hterminal, if_pos hterminal, raise_all_raise_all verdicts hsub]
  · rw [if_neg hterminal, if_neg hterminal]

theorem command_code_mem {failure : RuntimePreflightFailure} :
    (runtime_preflight_shape failure).2 ∈ COMMAND_FAILURE_CODES := by
  cases failure <;> decide

theorem execution_code_mem {evidence : ExecutionEvidence} {code : FailureCode}
    (h : (execution_shape evidence).2.2.1 = some code) : code ∈ COMMAND_FAILURE_CODES := by
  revert h
  unfold execution_shape
  cases evidence.termination with
  | Completed =>
    dsimp only
    split
    · intro h
      simp at h
    · intro h
      rw [← Option.some_inj.mp h]
      decide
  | _ =>
    intro h
    rw [← Option.some_inj.mp h]
    decide

/-- Every event of a planned command is known. -/
theorem event_of_known {sequence : ℕ} (hlt : sequence < request.planned.length)
    {execution : PreparedExecution} {event : FailureEvent}
    (h : event_of sequence execution = some event) : request.Known event := by
  cases execution with
  | SnapshotTamper =>
    left
    rw [← Option.some_inj.mp h]
    exact ⟨rfl, Or.inr rfl⟩
  | PreSpawn failure =>
    right
    rw [← Option.some_inj.mp h]
    exact ⟨sequence, hlt, rfl, command_code_mem⟩
  | Executed evidence =>
    right
    obtain ⟨code, hcode, hevent⟩ := Option.map_eq_some_iff.mp h
    rw [← hevent]
    exact ⟨sequence, hlt, rfl, execution_code_mem hcode⟩

theorem push_failure_once_eq (h : Accepted json request) {events : List FailureEvent}
    {event : FailureEvent} (hknown : request.Known event)
    (hevents : ∀ e ∈ events, request.Known e) :
    push_failure_once (request.failures_of events) (request.failure event)
      = request.failures_of (if key event ∈ events.map key then events else events ++ [event]) := by
  unfold push_failure_once
  by_cases hmem : key event ∈ events.map key
  · obtain ⟨event', hevent', hkey⟩ := List.mem_map.mp hmem
    have hid : (request.failure event').failure_id = (request.failure event).failure_id := by
      unfold failure
      rw [hkey]
    rw [if_pos hmem, if_neg]
    intro hall
    rw [List.all_eq_true] at hall
    have hne := hall _ (List.mem_map.mpr ⟨event', hevent', rfl⟩)
    rw [hid] at hne
    simp at hne
  · rw [if_neg hmem, if_pos]
    · unfold failures_of
      rw [List.map_append]
      rfl
    · rw [List.all_eq_true]
      intro failure hfailure
      obtain ⟨event', hevent', rfl⟩ := List.mem_map.mp hfailure
      rw [bne_iff_ne]
      intro hid
      apply hmem
      have hkey := h.key_eq_of_failure_id (hevents event' hevent') hknown hid
      rw [← hkey]
      exact List.mem_map.mpr ⟨event', hevent', rfl⟩

/-- **One turn of the loop**, on accumulators that are readings. -/
theorem turn_eq (h : Accepted json request) {planned : PlannedCommand} {sequence : ℕ}
    (hplanned : request.planned[sequence]? = some planned) (verdicts : CriterionVerdicts)
    {events : List FailureEvent} (entries : List VerificationTranscriptCommandIdentity)
    (hevents : ∀ e ∈ events, request.Known e) (hintact : ∀ e ∈ events, e.code ≠ .SnapshotTamper)
    (execution : PreparedExecution) :
    request.turn json planned sequence ⟨verdicts, request.failures_of events, ⟨entries⟩⟩ execution
      = .ok ⟨raise_all verdicts (request.concerned (planned, execution)) (contribution execution),
          request.failures_of (events ++ (event_of sequence execution).toList),
          ⟨entries ++ (entry_of json sequence (planned, execution)).toList⟩⟩ := by
  have hlt : sequence < request.planned.length := (List.getElem?_eq_some_iff.mp hplanned).1
  have hmod := h.sequence_lt hlt
  have hmem := mem_planned_commands (List.mem_of_getElem? hplanned)
  cases execution with
  | SnapshotTamper =>
    have hknown : request.Known ⟨.SnapshotTamper, none, false⟩ := Or.inl ⟨rfl, Or.inr rfl⟩
    have hnew : key ⟨.SnapshotTamper, none, false⟩ ∉ events.map key := by
      intro hmem
      obtain ⟨event, hevent, hkey⟩ := List.mem_map.mp hmem
      exact hintact event hevent (congrArg FailureIdentityKey.failure_code hkey)
    unfold turn tampered
    simp only [h.failure_for_eq hknown, bind, Except.bind, pure, Except.pure]
    rw [push_failure_once_eq h hknown hevents, if_neg hnew, apply_verdict_eq]
    simp only [entry_of, Option.toList_none, List.append_nil]
    rfl
  | PreSpawn failure =>
    have hknown := event_of_known hlt
      (rfl : event_of sequence (.PreSpawn failure) = some _)
    unfold turn blocked
    simp only [hmod, h.failure_for_eq hknown, bind, Except.bind, pure, Except.pure]
    rw [apply_verdict_eq]
    simp only [entry_of, Option.toList_none, List.append_nil]
    unfold failures_of
    rw [List.map_append]
    rfl
  | Executed evidence =>
    have hindex : planned.command_index < planned.capability.commands.length :=
      (List.getElem?_eq_some_iff.mp hmem.2.2).1
    obtain ⟨digest, hdigest, -⟩ := h.command_digest hmem.1 hindex
    unfold turn executed
    simp only [hdigest, ok_or, hmod, bind, Except.bind, pure, Except.pure,
      executed_verdicts_eq request, entry_of, Option.getD_some, Option.toList_some]
    cases hcode : (execution_shape evidence).2.2.1 with
    | none =>
      have hevent : event_of sequence (.Executed evidence) = none := by
        rw [event_of_executed, hcode]
        rfl
      rw [hevent, Option.toList_none, List.append_nil]
    | some code =>
      have hevent : event_of sequence (.Executed evidence)
          = some ⟨code, some sequence, false⟩ := by
        rw [event_of_executed, hcode]
        rfl
      have hknown := event_of_known hlt hevent
      simp only [h.failure_for_eq hknown, hevent, Option.toList_some]
      unfold failures_of
      rw [List.map_append]
      rfl

theorem stops_executed (evidence : ExecutionEvidence) :
    stops (.Executed evidence) = (execution_shape evidence).2.2.2 := rfl

/-- A command that lets the run go on was executed, and does not touch the snapshot. -/
theorem executed_of_not_stops {execution : PreparedExecution} (h : stops execution = false) :
    ∃ evidence, execution = .Executed evidence ∧ evidence.termination = .Completed := by
  cases execution with
  | Executed evidence =>
    refine ⟨evidence, rfl, ?_⟩
    rw [stops_executed] at h
    unfold execution_shape at h
    cases hterm : evidence.termination with
    | Completed => rfl
    | _ =>
      rw [hterm] at h
      simp at h
  | _ => simp [stops] at h

theorem event_of_intact {sequence : ℕ} {execution : PreparedExecution} {event : FailureEvent}
    (hstops : stops execution = false) (h : event_of sequence execution = some event) :
    event.code ≠ .SnapshotTamper ∧ event.command_sequence = some sequence := by
  obtain ⟨evidence, rfl, -⟩ := executed_of_not_stops hstops
  rw [event_of_executed, Option.map_eq_some_iff] at h
  obtain ⟨code, hcode, rfl⟩ := h
  refine ⟨?_, rfl⟩
  intro heq
  have hmem := execution_code_mem hcode
  have htamper : code = .SnapshotTamper := heq
  rw [htamper] at hmem
  exact absurd hmem (by decide)

/-! ## The loop -/

/-- **The loop over the commands reads its trace.** The induction is on the commands
that are left; what is carried along is that the failures so far are of known events
and not yet of a touched snapshot. -/
theorem run_commands_eq (h : Accepted json request) (answers : ℕ → CommandAnswers)
    {rest : List (PlannedCommand × PreparedCommand)} {sequence : ℕ}
    (hrest : ∀ i x, rest[i]? = some x → request.planned[sequence + i]? = some x.1)
    {verdicts : CriterionVerdicts} {events : List FailureEvent}
    {entries : List VerificationTranscriptCommandIdentity}
    (hevents : ∀ e ∈ events, request.Known e) (hintact : ∀ e ∈ events, e.code ≠ .SnapshotTamper) :
    request.run_commands json answers sequence rest
        ⟨verdicts, request.failures_of events, ⟨entries⟩⟩
      = ((reached answers sequence rest).mapError .Execution).map fun trace =>
          ⟨contribute verdicts (request.contributions trace),
            request.failures_of (events ++ events_from sequence trace),
            ⟨entries ++ entries_from json sequence trace⟩⟩ := by
  induction rest generalizing sequence verdicts events entries with
  | nil =>
    unfold run_commands reached
    have hevents_nil : events_from sequence [] = [] := rfl
    have hentries_nil : entries_from json sequence [] = [] := rfl
    simp only [Except.mapError, Except.map, hevents_nil, hentries_nil, List.append_nil]
    rfl
  | cons x rest ih =>
    obtain ⟨planned, prepared⟩ := x
    have hplanned : request.planned[sequence]? = some planned := hrest 0 _ rfl
    have hlt : sequence < request.planned.length := (List.getElem?_eq_some_iff.mp hplanned).1
    unfold run_commands reached
    cases hexec : execute_prepared prepared (answers sequence) with
    | error e => rfl
    | ok execution =>
      have hturn := turn_eq h hplanned verdicts entries hevents hintact execution
      simp only [Except.mapError, bind, Except.bind, hturn]
      by_cases hstops : stops execution = true
      · rw [if_pos hstops, if_pos hstops]
        simp only [pure, Except.pure, Except.map, contributions, List.map_cons,
          List.map_nil, events_from_cons, entries_from_cons]
        have hevents_nil : events_from (sequence + 1) [] = [] := rfl
        have hentries_nil : entries_from json (sequence + 1) [] = [] := rfl
        rw [hevents_nil, hentries_nil, List.append_nil, List.append_nil]
        rfl
      · rw [if_neg hstops, if_neg hstops]
        have hgoes : stops execution = false := by simpa using hstops
        have hrest' : ∀ i x, rest[i]? = some x →
            request.planned[sequence + 1 + i]? = some x.1 := by
          intro i x hx
          have := hrest (i + 1) x hx
          rwa [show sequence + (i + 1) = sequence + 1 + i by omega] at this
        have hevents' : ∀ e ∈ events ++ (event_of sequence execution).toList,
            request.Known e := by
          intro e he
          rw [List.mem_append, Option.mem_toList] at he
          rcases he with he | he
          · exact hevents e he
          · exact event_of_known hlt he
        have hintact' : ∀ e ∈ events ++ (event_of sequence execution).toList,
            e.code ≠ .SnapshotTamper := by
          intro e he
          rw [List.mem_append, Option.mem_toList] at he
          rcases he with he | he
          · exact hintact e he
          · exact (event_of_intact hgoes he).1
        rw [ih hrest' hevents' hintact']
        cases reached answers (sequence + 1) rest with
        | error e => rfl
        | ok later =>
          simp only [pure, Except.pure, Except.mapError, Except.map, contributions,
            List.map_cons, events_from_cons, entries_from_cons, List.append_assoc]
          rfl

/-! ## The shape of a trace -/

/-- A trace goes on behind its first command unless that one stops the run. -/
theorem reached_cons {answers : ℕ → CommandAnswers} {x : PlannedCommand × PreparedCommand}
    {rest : List (PlannedCommand × PreparedCommand)} {sequence : ℕ} {trace : List Reached}
    (h : reached answers sequence (x :: rest) = .ok trace) :
    ∃ execution later, execute_prepared x.2 (answers sequence) = .ok execution
      ∧ trace = (x.1, execution) :: later
      ∧ (stops execution = true ∧ later = []
        ∨ stops execution = false ∧ reached answers (sequence + 1) rest = .ok later) := by
  unfold reached at h
  rw [bind_eq_ok] at h
  obtain ⟨execution, hexec, h⟩ := h
  by_cases hstops : stops execution = true
  · rw [if_pos hstops, pure_eq_ok] at h
    exact ⟨execution, [], hexec, h.symm, Or.inl ⟨hstops, rfl⟩⟩
  · rw [if_neg hstops, bind_eq_ok] at h
    obtain ⟨later, hlater, h⟩ := h
    rw [pure_eq_ok] at h
    exact ⟨execution, later, hexec, h.symm, Or.inr ⟨by simpa using hstops, hlater⟩⟩

theorem reached_nil {answers : ℕ → CommandAnswers} {sequence : ℕ} {trace : List Reached}
    (h : reached answers sequence [] = .ok trace) : trace = [] := by
  unfold reached at h
  exact (Except.ok.inj h).symm

/-- A trace is what the host answers for the commands in order. -/
theorem reached_get {answers : ℕ → CommandAnswers}
    {rest : List (PlannedCommand × PreparedCommand)} {sequence : ℕ} {trace : List Reached}
    (h : reached answers sequence rest = .ok trace) {i : ℕ} {r : Reached}
    (hr : (trace)[i]? = some r) :
    ∃ prepared, rest[i]? = some (r.1, prepared)
      ∧ execute_prepared prepared (answers (sequence + i)) = .ok r.2 := by
  induction rest generalizing sequence trace i with
  | nil =>
    rw [reached_nil h] at hr
    simp at hr
  | cons x rest ih =>
    obtain ⟨execution, later, hexec, htrace, hlater⟩ := reached_cons h
    rw [htrace] at hr
    cases i with
    | zero =>
      rw [List.getElem?_cons_zero, Option.some_inj] at hr
      rw [← hr]
      exact ⟨x.2, rfl, hexec⟩
    | succ i =>
      rw [List.getElem?_cons_succ] at hr
      rcases hlater with ⟨-, hnil⟩ | ⟨-, hlater⟩
      · rw [hnil] at hr
        simp at hr
      · rw [show sequence + (i + 1) = sequence + 1 + i by omega]
        exact ih hlater hr

/-- Only the last command of a trace may stop the run; when it does not, the trace is
the whole plan. -/
theorem reached_shape {answers : ℕ → CommandAnswers}
    {rest : List (PlannedCommand × PreparedCommand)} {sequence : ℕ} {trace : List Reached}
    (h : reached answers sequence rest = .ok trace) :
    trace.length = rest.length ∧ (∀ r ∈ trace, stops r.2 = false)
      ∨ ∃ init last, trace = init ++ [last] ∧ stops last.2 = true
        ∧ (∀ r ∈ init, stops r.2 = false) ∧ trace.length ≤ rest.length := by
  induction rest generalizing sequence trace with
  | nil =>
    left
    rw [reached_nil h]
    exact ⟨rfl, by simp⟩
  | cons x rest ih =>
    obtain ⟨execution, later, -, htrace, hlater⟩ := reached_cons h
    rcases hlater with ⟨hstops, hnil⟩ | ⟨hgoes, hlater⟩
    · right
      rw [hnil] at htrace
      refine ⟨[], (x.1, execution), htrace, hstops, by simp, ?_⟩
      rw [htrace, List.length_singleton, List.length_cons]
      omega
    · rcases ih hlater with ⟨hlen, hall⟩ | ⟨init, last, hshape, hlast, hinit, hlen⟩
      · left
        rw [htrace, List.length_cons, List.length_cons, hlen]
        exact ⟨rfl, List.forall_mem_cons.mpr ⟨hgoes, hall⟩⟩
      · right
        refine ⟨(x.1, execution) :: init, last, ?_, hlast,
          List.forall_mem_cons.mpr ⟨hgoes, hinit⟩, ?_⟩
        · rw [htrace, hshape, List.cons_append]
        · rw [htrace, List.length_cons, List.length_cons]
          omega

end Turn

end VerifierRequest

end OvcaCore

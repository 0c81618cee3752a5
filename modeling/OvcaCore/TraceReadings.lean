/-
The readings of a trace belong together.

What the loop over the commands accumulates is ready for publication
(`Traced.ready`), and stays so when a drift of the source or a touched snapshot is
recorded behind it (`Ready.invalidate`). A verification that ends before its first
command is ready as well (`ready_early`).
-/
import OvcaCore.VerificationTrace

set_option autoImplicit false

namespace OvcaCore

open OvcaCore.Checks OvcaCore.Maxima

/-! ## Prepared commands -/

theorem check_executable_digest {executable : Option (List UInt8)} {digest : String}
    (h : check_executable executable digest = .ok ()) : validate_sha256_digest digest = true := by
  unfold check_executable at h
  simp only [bind_eq_ok, ok_or_eq_ok, reject_if_eq_ok, ne_eq, not_not] at h
  obtain ⟨bytes, -, hdigest⟩ := h
  rw [← hdigest]
  exact verification_sha256_hex_valid _

theorem ExecutableRegistry.prepare_digest {registry : ExecutableRegistry}
    {command : VerificationCommand} {bindings : EnvironmentBindings}
    {executable : Option (List UInt8)} {prepared : PreparedCommand}
    (h : registry.prepare command bindings executable = .ok prepared) :
    validate_sha256_digest prepared.executable_digest = true := by
  unfold ExecutableRegistry.prepare at h
  simp only [bind_eq_ok, ok_or_eq_ok, pure_eq_ok] at h
  obtain ⟨profile, -, -, -, environment, -, ⟨⟩, hcheck, hprepared⟩ := h
  rw [← hprepared]
  exact check_executable_digest hcheck

namespace VerifierRequest

theorem prepare_all_eq_ok {request : VerifierRequest} {answers : ℕ → Option (List UInt8)}
    {prepared : List PreparedCommand} (h : request.prepare_all answers = .ok prepared) :
    prepared.length = request.planned.length
      ∧ ∀ p ∈ prepared, validate_sha256_digest p.executable_digest = true := by
  unfold prepare_all at h
  rw [map_checked_eq_ok] at h
  refine ⟨by rw [← h.length_eq, List.length_zipIdx], ?_⟩
  intro p hp
  obtain ⟨i, hi⟩ := List.mem_iff_getElem.mp hp
  obtain ⟨hlt, hget⟩ := hi
  have hrel := (List.forall₂_iff_get.mp h).2 i (by rw [h.length_eq]; exact hlt) hlt
  simp only [List.get_eq_getElem, mapError_eq_ok, hget] at hrel
  exact ExecutableRegistry.prepare_digest hrel

/-! ## Commands that pass -/

/-- A command passes when it was spawned and ended with exit code zero, its executable
unchanged. -/
def passes (execution : PreparedExecution) : Prop :=
  ∃ evidence, execution = .Executed evidence ∧ evidence.termination = .Completed
    ∧ evidence.exit_code = some 0

theorem passes_executed (evidence : ExecutionEvidence) :
    passes (.Executed evidence) ↔ evidence.termination = .Completed ∧ evidence.exit_code = some 0 := by
  unfold passes
  simp

theorem contribution_eq_pass_iff (execution : PreparedExecution) :
    contribution execution = .Pass ↔ passes execution := by
  cases execution with
  | Executed evidence =>
    rw [passes_executed]
    unfold contribution execution_shape
    cases hterm : evidence.termination with
    | Completed =>
      by_cases hzero : evidence.exit_code = some 0
      · simp [hterm, hzero]
      · simp [hterm, hzero]
    | _ => simp [hterm]
  | PreSpawn failure =>
    unfold passes contribution runtime_preflight_shape
    cases failure <;> simp
  | SnapshotTamper =>
    unfold passes contribution
    simp

/-- What does not pass is an event, of a category that fits the verdict. -/
theorem event_of_shape (sequence : ℕ) (execution : PreparedExecution) :
    (passes execution ∧ event_of sequence execution = none)
      ∨ ¬ passes execution ∧ ∃ event, event_of sequence execution = some event
        ∧ failure_matches_verdict (failure_shape event).1 (contribution execution).bundle = true
        ∧ event.code ≠ .SourceDrift := by
  rw [← contribution_eq_pass_iff]
  cases execution with
  | Executed evidence =>
    rw [event_of_executed]
    unfold contribution execution_shape
    cases hterm : evidence.termination with
    | Completed =>
      by_cases hzero : evidence.exit_code = some 0
      · simp [hterm, hzero]
      · simp [hterm, hzero, failure_shape, CriterionResultVerdict.bundle, failure_matches_verdict]
    | _ => simp [hterm, failure_shape, CriterionResultVerdict.bundle, failure_matches_verdict]
  | PreSpawn failure =>
    unfold event_of contribution runtime_preflight_shape
    cases failure <;> simp [failure_shape, CriterionResultVerdict.bundle, failure_matches_verdict]
  | SnapshotTamper =>
    simp [event_of, contribution, failure_shape, CriterionResultVerdict.bundle,
      failure_matches_verdict]

theorem event_of_sequence {sequence : ℕ} {execution : PreparedExecution} {event : FailureEvent}
    (h : event_of sequence execution = some event) :
    event.command_sequence = none ∨ event.command_sequence = some sequence := by
  cases execution with
  | Executed evidence =>
    right
    rw [event_of_executed, Option.map_eq_some_iff] at h
    obtain ⟨code, -, rfl⟩ := h
    rfl
  | PreSpawn failure =>
    right
    rw [← Option.some_inj.mp h]
  | SnapshotTamper =>
    left
    rw [← Option.some_inj.mp h]

theorem stops_eq_false_of_passes {execution : PreparedExecution} (h : passes execution) :
    stops execution = false := by
  obtain ⟨evidence, rfl, hterm, hzero⟩ := h
  rw [stops_executed]
  unfold execution_shape
  rw [hterm, hzero]
  rfl

/-! ## Events and entries by position -/

theorem mem_events_from {sequence : ℕ} {trace : List Reached} {event : FailureEvent} :
    event ∈ events_from sequence trace
      ↔ ∃ i r, (trace)[i]? = some r ∧ event_of (sequence + i) r.2 = some event := by
  unfold events_from
  rw [List.mem_filterMap]
  constructor
  · rintro ⟨⟨r, n⟩, hmem, hevent⟩
    obtain ⟨hle, hget⟩ := List.mk_mem_zipIdx_iff_le_and_getElem?_sub.mp hmem
    refine ⟨n - sequence, r, hget, ?_⟩
    rw [show sequence + (n - sequence) = n by omega]
    exact hevent
  · rintro ⟨i, r, hget, hevent⟩
    refine ⟨(r, sequence + i), ?_, hevent⟩
    rw [List.mk_mem_zipIdx_iff_le_and_getElem?_sub]
    refine ⟨by omega, ?_⟩
    rw [show sequence + i - sequence = i by omega]
    exact hget

/-- The events of a trace are of different kinds: before the last command they carry
its number. -/
theorem events_distinct {answers : ℕ → CommandAnswers}
    {rest : List (PlannedCommand × PreparedCommand)} {sequence : ℕ} {trace : List Reached}
    (h : reached answers sequence rest = .ok trace) :
    ((events_from sequence trace).map key).Nodup := by
  induction rest generalizing sequence trace with
  | nil =>
    rw [reached_nil h]
    exact List.nodup_nil
  | cons x rest ih =>
    obtain ⟨execution, later, -, htrace, hlater⟩ := reached_cons h
    rw [htrace, events_from_cons]
    rcases hlater with ⟨-, hnil⟩ | ⟨hgoes, hlater⟩
    · have hnone : events_from (sequence + 1) [] = [] := rfl
      rw [hnil, hnone, List.append_nil]
      cases event_of sequence execution <;> simp
    · cases hevent : event_of sequence execution with
      | none => exact ih hlater
      | some event =>
        rw [Option.toList_some, List.singleton_append, List.map_cons, List.nodup_cons]
        refine ⟨?_, ih hlater⟩
        intro hmem
        obtain ⟨event', hevent', hkey⟩ := List.mem_map.mp hmem
        obtain ⟨i, r, -, hof⟩ := mem_events_from.mp hevent'
        have hsequence : event'.command_sequence = event.command_sequence :=
          congrArg FailureIdentityKey.command_sequence hkey
        rw [(event_of_intact hgoes hevent).2] at hsequence
        rcases event_of_sequence hof with hnone | hsome
        · rw [hnone] at hsequence
          simp at hsequence
        · rw [hsome, Option.some_inj] at hsequence
          omega

/-- The entries of a transcript stand where their commands stand in the plan. -/
theorem entries_get (json : VerifierJson) {answers : ℕ → CommandAnswers}
    {rest : List (PlannedCommand × PreparedCommand)} {sequence : ℕ} {trace : List Reached}
    (h : reached answers sequence rest = .ok trace) (i : ℕ) :
    (entries_from json sequence trace)[i]?
      = ((trace)[i]?).bind (entry_of json (sequence + i)) := by
  induction rest generalizing sequence trace i with
  | nil =>
    rw [reached_nil h]
    rfl
  | cons x rest ih =>
    obtain ⟨execution, later, -, htrace, hlater⟩ := reached_cons h
    rw [htrace, entries_from_cons]
    rcases hlater with ⟨-, hnil⟩ | ⟨hgoes, hlater⟩
    · have hnone : entries_from json (sequence + 1) [] = [] := rfl
      rw [hnil, hnone, List.append_nil]
      cases i with
      | zero =>
        rw [List.getElem?_cons_zero, Option.bind_some, Nat.add_zero]
        cases entry_of json sequence (x.1, execution) <;> rfl
      | succ i =>
        rw [List.getElem?_cons_succ]
        cases entry_of json sequence (x.1, execution) <;> rfl
    · obtain ⟨evidence, rfl, -⟩ := executed_of_not_stops hgoes
      cases i with
      | zero => rfl
      | succ i =>
        have htail := ih hlater i
        rw [show sequence + 1 + i = sequence + (i + 1) by omega] at htail
        rw [List.getElem?_cons_succ, ← htail]
        rfl

/-! ## Entries are valid -/

theorem exited_of_completed {run : ProcessRun} {executable_digest : String}
    (h : run.termination executable_digest = .Completed) :
    ∃ status, run.process_end = .Exited status := by
  unfold ProcessRun.termination at h
  cases hend : run.process_end with
  | Exited status => exact ⟨status, rfl⟩
  | _ =>
    rw [hend] at h
    exfalso
    split_ifs at h
    all_goals simp_all

/-- The evidence of a process has an exit code where a transcript wants one. -/
theorem exit_code_shape (prepared : PreparedCommand) (run : ProcessRun) (command_digest : String)
    (sequence : ℕ) :
    (transcript_entry command_digest sequence
      (execution_evidence prepared run)).validate_exit_code = true := by
  unfold VerificationTranscriptCommandIdentity.validate_exit_code transcript_entry execution_shape
    execution_evidence
  cases hterm : run.termination prepared.executable_digest with
  | Completed =>
    obtain ⟨status, hstatus⟩ := exited_of_completed hterm
    have hcode : (run.exit_status.bind exit_code).isSome = true := by
      unfold ProcessRun.exit_status
      rw [hstatus]
      cases status <;> rfl
    by_cases hzero : run.exit_status.bind exit_code = some 0
    · simp [hzero]
    · simp [hzero, hcode]
  | _ => simp

theorem entry_digests {command_digest : String} (hcommand : validate_sha256_digest command_digest = true)
    {prepared : PreparedCommand} (hprepared : validate_sha256_digest prepared.executable_digest = true)
    (run : ProcessRun) (sequence : ℕ) :
    let entry := transcript_entry command_digest sequence (execution_evidence prepared run)
    [entry.command_digest, entry.executable_digest, entry.stdout_sha256, entry.stderr_sha256].all
      validate_sha256_digest = true := by
  simp [transcript_entry, execution_evidence, hcommand, hprepared, verification_sha256_hex_valid]

/-! ## Traces of the whole plan -/

/-- A trace of the loop over the whole plan. -/
structure Traced (request : VerifierRequest) (answers : ℕ → CommandAnswers)
    (prepared : List PreparedCommand) (trace : List Reached) : Prop where
  prepared_length : prepared.length = request.planned.length
  digests : ∀ p ∈ prepared, validate_sha256_digest p.executable_digest = true
  reached : reached answers 0 (request.planned.zip prepared) = .ok trace

namespace Traced

variable {json : VerifierJson} {request : VerifierRequest} {answers : ℕ → CommandAnswers}
  {prepared : List PreparedCommand} {trace : List Reached}

theorem get (ht : Traced request answers prepared trace) {i : ℕ} {r : Reached}
    (hr : (trace)[i]? = some r) :
    request.planned[i]? = some r.1 ∧ ∃ p, validate_sha256_digest p.executable_digest = true
      ∧ execute_prepared p (answers i) = .ok r.2 := by
  obtain ⟨p, hzip, hexec⟩ := reached_get ht.reached hr
  rw [Nat.zero_add] at hexec
  rw [List.getElem?_zip_eq_some] at hzip
  exact ⟨hzip.1, p, ht.digests p (List.mem_of_getElem? hzip.2), hexec⟩

theorem length_le (ht : Traced request answers prepared trace) :
    trace.length ≤ request.planned.length := by
  have hzip : (request.planned.zip prepared).length = request.planned.length := by
    rw [List.length_zip, ht.prepared_length, min_self]
  rcases reached_shape ht.reached with ⟨hlen, -⟩ | ⟨_, _, -, -, -, hlen⟩ <;> omega

/-- A trace on which nothing stops the run covers the plan. -/
theorem length_eq (ht : Traced request answers prepared trace)
    (hgoes : ∀ r ∈ trace, stops r.2 = false) : trace.length = request.planned.length := by
  have hzip : (request.planned.zip prepared).length = request.planned.length := by
    rw [List.length_zip, ht.prepared_length, min_self]
  rcases reached_shape ht.reached with ⟨hlen, -⟩ | ⟨init, last, htrace, hlast, -, -⟩
  · omega
  · have hmem : last ∈ trace := by
      rw [htrace]
      exact List.mem_append_right _ List.mem_cons_self
    rw [hgoes last hmem] at hlast
    simp at hlast

/-- Every criterion that a command concerns is one of the contract. -/
theorem concerned_mem (ht : Traced request answers prepared trace) (h : Accepted json request)
    {r : Reached} (hr : r ∈ trace) {id : String} (hid : id ∈ request.concerned r) :
    id ∈ request.criterion_ids := by
  obtain ⟨i, hi⟩ := List.mem_iff_getElem?.mp hr
  have hplanned := List.mem_of_getElem? (ht.get hi).1
  obtain ⟨hhere, hlater, -⟩ := mem_planned_commands hplanned
  have hremaining : id ∈ r.1.remaining → id ∈ request.criterion_ids := by
    intro hmem
    obtain ⟨c, hc, hcid⟩ := mem_remaining.mp hmem
    rw [List.mem_cons] at hc
    rcases hc with rfl | hc
    · exact h.criterion_mem hhere hcid
    · exact h.criterion_mem (hlater c hc) hcid
  unfold concerned at hid
  split at hid
  · exact hid
  · exact hremaining hid
  · split at hid
    · exact hremaining hid
    · exact h.criterion_mem hhere hid

/-! ## The readings -/

/-- The verdicts that the loop accumulates. -/
def verdicts (request : VerifierRequest) (trace : List Reached) : CriterionVerdicts :=
  contribute request.start.verdicts (request.contributions trace)

theorem mem_concerning_contributions {id : String} {v : CriterionResultVerdict} :
    v ∈ concerning (request.contributions trace) id
      ↔ ∃ r ∈ trace, id ∈ request.concerned r ∧ contribution r.2 = v := by
  rw [mem_concerning]
  unfold contributions
  constructor
  · rintro ⟨c, hc, hid, hv⟩
    obtain ⟨r, hr, rfl⟩ := List.mem_map.mp hc
    exact ⟨r, hr, hid, hv⟩
  · rintro ⟨r, hr, hid, hv⟩
    exact ⟨_, List.mem_map.mpr ⟨r, hr, rfl⟩, hid, hv⟩

theorem get_verdicts (h : Accepted json request) (trace : List Reached) {id : String}
    (hid : id ∈ request.criterion_ids) :
    (verdicts request trace)[id]?
      = some (largest (concerning (request.contributions trace) id)) := by
  have hstart : request.start.verdicts[id]? = some .Pass :=
    get_uniform_verdicts h.criterion_ids_nodup .Pass hid
  unfold verdicts
  rw [get_contribute hstart, ← CriterionResultVerdict.bot_eq, max_bot_left]

theorem entry_eq (ht : Traced request answers prepared trace) {i : ℕ}
    {entry : VerificationTranscriptCommandIdentity}
    (hentry : (entries_from json 0 trace)[i]? = some entry) :
    ∃ planned p run, request.planned[i]? = some planned
      ∧ (trace)[i]? = some (planned, .Executed (execution_evidence p run))
      ∧ validate_sha256_digest p.executable_digest = true
      ∧ entry = transcript_entry ((verification_command_digest json.toVerificationJson
        planned.capability planned.command_index).getD "") i (execution_evidence p run) := by
  rw [entries_get json ht.reached, Option.bind_eq_some_iff, Nat.zero_add] at hentry
  obtain ⟨r, hr, hof⟩ := hentry
  obtain ⟨hplanned, p, hdigest, hexec⟩ := ht.get hr
  obtain ⟨planned, execution⟩ := r
  unfold entry_of at hof
  unfold execute_prepared at hexec
  cases execution with
  | Executed evidence =>
    rw [Option.some_inj] at hof
    by_cases hcwd : (answers i).cwd_acquired = true
    · rw [if_pos hcwd] at hexec
      cases hcheck : p.check_immediately_before_spawn (answers i).executable with
      | error failure =>
        rw [hcheck] at hexec
        simp at hexec
      | ok _ =>
        rw [hcheck] at hexec
        cases hrun : (answers i).run with
        | error e =>
          rw [hrun] at hexec
          simp [Except.map] at hexec
        | ok run =>
          rw [hrun] at hexec
          have hevidence : execution_evidence p run = evidence :=
            PreparedExecution.Executed.inj (Except.ok.inj hexec)
          refine ⟨planned, p, run, hplanned, ?_, hdigest, ?_⟩
          · rw [hevidence]
            exact hr
          · rw [hevidence, hof]
    · rw [if_neg hcwd] at hexec
      simp at hexec
  | _ => simp at hof

/-- The number of an event of the trace is one of the plan. -/
theorem events_known (ht : Traced request answers prepared trace) {event : FailureEvent}
    (hevent : event ∈ events_from 0 trace) : request.Known event := by
  obtain ⟨i, r, hr, hof⟩ := mem_events_from.mp hevent
  have hlt := (List.getElem?_eq_some_iff.mp (ht.get hr).1).1
  rw [Nat.zero_add] at hof
  exact event_of_known hlt hof

theorem events_not_drift {event : FailureEvent} (hevent : event ∈ events_from 0 trace) :
    event.code ≠ .SourceDrift := by
  obtain ⟨i, r, -, hof⟩ := mem_events_from.mp hevent
  rcases event_of_shape (0 + i) r.2 with ⟨-, hnone⟩ | ⟨-, event', hsome, -, hcode⟩
  · rw [hnone] at hof
    simp at hof
  · rw [hsome, Option.some_inj] at hof
    exact hof ▸ hcode

theorem events_eq_nil_iff : events_from 0 trace = [] ↔ ∀ r ∈ trace, passes r.2 := by
  rw [List.eq_nil_iff_forall_not_mem]
  constructor
  · intro hnil r hr
    obtain ⟨i, hi⟩ := List.mem_iff_getElem?.mp hr
    rcases event_of_shape (0 + i) r.2 with ⟨hpasses, -⟩ | ⟨-, event, hsome, -⟩
    · exact hpasses
    · exact absurd (mem_events_from.mpr ⟨i, r, hi, hsome⟩) (hnil event)
  · intro hall event hevent
    obtain ⟨i, r, hr, hof⟩ := mem_events_from.mp hevent
    rcases event_of_shape (0 + i) r.2 with ⟨-, hnone⟩ | ⟨hfails, -⟩
    · rw [hnone] at hof
      simp at hof
    · exact hfails (hall r (List.mem_of_getElem? hr))

theorem command_digest_eq (h : Accepted json request) {i : ℕ} {planned : PlannedCommand}
    (hplanned : request.planned[i]? = some planned) :
    ∃ digest, verification_command_digest json.toVerificationJson planned.capability
      planned.command_index = some digest ∧ validate_sha256_digest digest = true := by
  have hmem := mem_planned_commands (List.mem_of_getElem? hplanned)
  exact h.command_digest hmem.1 (List.getElem?_eq_some_iff.mp hmem.2.2).1

theorem entries_valid (h : Accepted json request) (ht : Traced request answers prepared trace) :
    (VerificationTranscriptIdentity.mk (entries_from json 0 trace)).validate = true := by
  unfold VerificationTranscriptIdentity.validate
  rw [List.all_eq_true]
  rintro ⟨entry, i⟩ hmem
  obtain ⟨planned, p, run, hplanned, -, hdigest, hentry⟩ :=
    ht.entry_eq (List.mem_zipIdx_iff_getElem?.mp hmem)
  obtain ⟨digest, hcommand, hvalid⟩ := command_digest_eq h hplanned
  rw [hcommand, Option.getD_some] at hentry
  have hdigests := entry_digests hvalid hdigest run i
  have hexit := exit_code_shape p run digest i
  dsimp only at hentry hdigests hexit ⊢
  rw [hentry, hdigests, hexit]
  simp [transcript_entry]

theorem entries_length_le (json : VerifierJson) (ht : Traced request answers prepared trace) :
    (entries_from json 0 trace).length ≤ trace.length := by
  have hnone : (entries_from json 0 trace)[trace.length]? = none := by
    rw [entries_get json ht.reached, List.getElem?_eq_none (le_refl _), Option.bind_none]
  exact List.getElem?_eq_none_iff.mp hnone

theorem entries_bound (h : Accepted json request) (ht : Traced request answers prepared trace) :
    ∀ p ∈ (entries_from json 0 trace).zip request.planned,
      verification_command_digest json.toVerificationJson p.2.capability p.2.command_index
        = some p.1.command_digest := by
  rintro ⟨entry, planned⟩ hmem
  obtain ⟨i, hi⟩ := List.mem_iff_getElem?.mp hmem
  rw [List.getElem?_zip_eq_some] at hi
  obtain ⟨planned', p, run, hplanned, -, -, hentry⟩ := ht.entry_eq hi.1
  have heq : planned' = planned := by
    rw [hi.2, Option.some_inj] at hplanned
    exact hplanned.symm
  obtain ⟨digest, hcommand, -⟩ := command_digest_eq h hplanned
  rw [hcommand, Option.getD_some] at hentry
  dsimp only at hentry ⊢
  rw [← heq, hcommand, hentry]
  rfl

/-- A trace on which every command passes is spawned as a whole. -/
theorem entries_complete (json : VerifierJson) (ht : Traced request answers prepared trace)
    (hall : ∀ r ∈ trace, passes r.2) :
    (entries_from json 0 trace).length = request.planned.length
      ∧ ∀ entry ∈ entries_from json 0 trace,
        entry.termination = .Completed ∧ entry.exit_code = some 0 := by
  have hlen := ht.length_eq fun r hr => stops_eq_false_of_passes (hall r hr)
  constructor
  · by_contra hne
    have hle := ht.entries_length_le json
    -- the first missing entry would be that of a command that was spawned
    have hlt : (entries_from json 0 trace).length < trace.length := by omega
    have hr := List.getElem?_eq_getElem hlt
    obtain ⟨evidence, hevidence, -⟩ := hall _ (List.getElem_mem hlt)
    have hentry := entries_get json ht.reached (entries_from json 0 trace).length
    rw [List.getElem?_eq_none (le_refl _), hr, Option.bind_some] at hentry
    unfold entry_of at hentry
    rw [hevidence] at hentry
    simp at hentry
  · intro entry hentry
    obtain ⟨i, hi⟩ := List.mem_iff_getElem?.mp hentry
    obtain ⟨planned, p, run, -, hr, -, heq⟩ := ht.entry_eq hi
    have hpasses := hall _ (List.mem_of_getElem? hr)
    rw [passes_executed] at hpasses
    rw [heq]
    unfold transcript_entry execution_shape
    rw [hpasses.1]
    simp [hpasses.2]

/-- **What the loop accumulates is ready.** -/
theorem ready (h : Accepted json request) (ht : Traced request answers prepared trace) :
    Ready json request (verdicts request trace) (events_from 0 trace)
      ⟨entries_from json 0 trace⟩ where
  total id hid := ⟨_, get_verdicts h trace hid⟩
  known event hevent := ht.events_known hevent
  distinct := events_distinct ht.reached
  matched id hid verdict hverdict hne := by
    rw [get_verdicts h trace hid, Option.some_inj] at hverdict
    rw [← hverdict] at hne
    obtain ⟨r, hr, -, hcontribution⟩ := mem_concerning_contributions.mp (largest_mem hne)
    rw [hverdict] at hcontribution hne
    obtain ⟨i, hi⟩ := List.mem_iff_getElem?.mp hr
    rcases event_of_shape (0 + i) r.2 with ⟨hpasses, -⟩ | ⟨-, event, hsome, hmatches, -⟩
    · rw [← contribution_eq_pass_iff, hcontribution] at hpasses
      exact absurd hpasses hne
    · rw [hcontribution] at hmatches
      exact ⟨event, mem_events_from.mpr ⟨i, r, hi, hsome⟩, hmatches⟩
  drifted hdrift := by
    obtain ⟨event, hevent, hcode⟩ := hdrift
    exact absurd hcode (events_not_drift hevent)
  transcript_valid := ht.entries_valid h
  transcript_le := Nat.le_trans (ht.entries_length_le json) ht.length_le
  transcript_bound := ht.entries_bound h
  complete hnil := ht.entries_complete json (events_eq_nil_iff.mp hnil)

end Traced

/-! ## Integrity events -/

/-- An event of the whole verification, with which every criterion is invalid. -/
def Global (event : FailureEvent) : Prop :=
  event.command_sequence = none ∧ (event.code = .SourceDrift ∨ event.code = .SnapshotTamper)

theorem Global.matches {event : FailureEvent} (hglobal : Global event) :
    failure_matches_verdict (failure_shape event).1 CriterionResultVerdict.Invalid.bundle = true := by
  unfold failure_shape
  rcases hglobal.2 with hcode | hcode
  · rw [hcode]
    rfl
  · rw [hcode]
    rfl

/-- The events after one more, which is recorded once. -/
def recorded (events : List FailureEvent) (event : FailureEvent) : List FailureEvent :=
  if key event ∈ events.map key then events else events ++ [event]

theorem mem_recorded {events : List FailureEvent} {event event' : FailureEvent}
    (h : event' ∈ recorded events event) : event' ∈ events ∨ event' = event := by
  unfold recorded at h
  split at h
  · exact Or.inl h
  · rw [List.mem_append, List.mem_singleton] at h
    exact h

/-- Some event of the kind of a recorded one is there. -/
theorem exists_recorded (events : List FailureEvent) (event : FailureEvent) :
    ∃ event' ∈ recorded events event, key event' = key event := by
  unfold recorded
  split
  case isTrue hmem => exact List.mem_map.mp hmem
  case isFalse => exact ⟨event, List.mem_append_right _ List.mem_cons_self, rfl⟩

theorem subset_recorded {events : List FailureEvent} {event event' : FailureEvent}
    (h : event' ∈ events) : event' ∈ recorded events event := by
  unfold recorded
  split
  · exact h
  · exact List.mem_append_left _ h

theorem recorded_ne_nil (events : List FailureEvent) (event : FailureEvent) :
    recorded events event ≠ [] := by
  obtain ⟨event', hmem, -⟩ := exists_recorded events event
  exact List.ne_nil_of_mem hmem

section Integrity

variable {json : VerifierJson} {request : VerifierRequest} {verdicts : CriterionVerdicts}
  {events : List FailureEvent} {transcript : VerificationTranscriptIdentity}

/-- Every criterion is invalid. -/
def invalidated (request : VerifierRequest) (verdicts : CriterionVerdicts) : CriterionVerdicts :=
  raise_all verdicts request.criterion_ids .Invalid

theorem get_invalidated (hr : Ready json request verdicts events transcript) {id : String}
    (hid : id ∈ request.criterion_ids) :
    (request.invalidated verdicts)[id]? = some .Invalid := by
  obtain ⟨verdict, hverdict⟩ := hr.total id hid
  unfold invalidated
  rw [get_raise_all_of_some hverdict, if_pos hid, CriterionResultVerdict.max_invalid]

/-- **Readiness survives the loss of integrity.** -/
theorem Ready.invalidate (hr : Ready json request verdicts events transcript)
    {event : FailureEvent} (hglobal : Global event) :
    Ready json request (request.invalidated verdicts) (recorded events event) transcript where
  total id hid := ⟨_, get_invalidated hr hid⟩
  known event' hevent := by
    rcases mem_recorded hevent with hold | hnew
    · exact hr.known event' hold
    · exact hnew ▸ Or.inl hglobal
  distinct := by
    unfold recorded
    split
    case isTrue => exact hr.distinct
    case isFalse hnew =>
      rw [List.map_append, List.map_singleton, List.nodup_append_comm, List.singleton_append,
        List.nodup_cons]
      exact ⟨hnew, hr.distinct⟩
  matched id hid verdict hverdict _ := by
    rw [get_invalidated hr hid, Option.some_inj] at hverdict
    rw [← hverdict]
    obtain ⟨event', hevent', hkey⟩ := exists_recorded events event
    refine ⟨event', hevent', Global.matches ⟨?_, ?_⟩⟩
    · have hsequence := congrArg FailureIdentityKey.command_sequence hkey
      exact hsequence.trans hglobal.1
    · have hcode : event'.code = event.code := congrArg FailureIdentityKey.failure_code hkey
      rw [hcode]
      exact hglobal.2
  drifted _ id hid := get_invalidated hr hid
  transcript_valid := hr.transcript_valid
  transcript_le := hr.transcript_le
  transcript_bound := hr.transcript_bound
  complete hnil := absurd hnil (recorded_ne_nil events event)

/-- **A verification without commands** is ready with its one event. -/
theorem ready_early (h : Accepted json request) {event : FailureEvent}
    (hknown : request.Known event) {contribution : CriterionResultVerdict}
    (hmatches : failure_matches_verdict (failure_shape event).1 contribution.bundle = true)
    (hdrift : event.code = .SourceDrift → contribution = .Invalid) :
    Ready json request (uniform_verdicts request.criterion_ids contribution) [event] ⟨[]⟩ where
  total id hid := ⟨_, get_uniform_verdicts h.criterion_ids_nodup contribution hid⟩
  known event' hevent := by
    rw [List.mem_singleton.mp hevent]
    exact hknown
  distinct := List.nodup_singleton _
  matched id hid verdict hverdict _ := by
    rw [get_uniform_verdicts h.criterion_ids_nodup contribution hid, Option.some_inj] at hverdict
    rw [← hverdict]
    exact ⟨event, List.mem_cons_self, hmatches⟩
  drifted hcode id hid := by
    obtain ⟨event', hevent, hcode⟩ := hcode
    rw [List.mem_singleton.mp hevent] at hcode
    rw [get_uniform_verdicts h.criterion_ids_nodup contribution hid, hdrift hcode]
  transcript_valid := rfl
  transcript_le := Nat.zero_le _
  transcript_bound p hp := by simp at hp
  complete hnil := by simp at hnil

/-- Not every criterion passes when all have one verdict that is not `Pass`. -/
theorem not_allPass_of_eq (h : Accepted json request) {verdicts : CriterionVerdicts}
    {verdict : CriterionResultVerdict} (hne : verdict ≠ .Pass)
    (hall : ∀ id ∈ request.criterion_ids, verdicts[id]? = some verdict) :
    ¬ request.AllPass verdicts := by
  intro hpass
  obtain ⟨id, hid⟩ := List.exists_mem_of_ne_nil _ h.criterion_ids_ne_nil
  have hverdict := hpass id hid
  rw [hall id hid, Option.some_inj] at hverdict
  exact hne hverdict

end Integrity

end VerifierRequest

end OvcaCore

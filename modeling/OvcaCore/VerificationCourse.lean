/-
The course of a verification.

Past the preflight the answers of the host decide how a verification goes (`course`),
and its course decides what is published (`ends_with_course`): one event for all
criteria where no command was spawned, else the readings of the trace, closed by the
checks of source and snapshot (`Closed`).
-/
import OvcaCore.TraceReadings

set_option autoImplicit false

namespace OvcaCore

open OvcaCore.Checks OvcaCore.Maxima

namespace VerifierRequest

/-! ## The integrity checks -/

def drift_event : FailureEvent where
  code := .SourceDrift
  command_sequence := none
  pre_spawn := false

def tamper_event : FailureEvent where
  code := .SnapshotTamper
  command_sequence := none
  pre_spawn := false

theorem drift_global : Global drift_event := ⟨rfl, Or.inl rfl⟩

theorem tamper_global : Global tamper_event := ⟨rfl, Or.inr rfl⟩

section Closing

variable {json : VerifierJson} {request : VerifierRequest} {verdicts : CriterionVerdicts}
  {events : List FailureEvent} {transcript : VerificationTranscriptIdentity}

theorem recorded_of_new {event : FailureEvent} (hnew : ∀ e ∈ events, e.code ≠ event.code) :
    recorded events event = events ++ [event] := by
  unfold recorded
  rw [if_neg]
  intro hmem
  obtain ⟨event', hevent', hkey⟩ := List.mem_map.mp hmem
  exact hnew event' hevent' (congrArg FailureIdentityKey.failure_code hkey)

theorem tampered_eq (h : Accepted json request) (hr : Ready json request verdicts events transcript) :
    request.tampered ⟨verdicts, request.failures_of events, transcript⟩
      = .ok ⟨request.invalidated verdicts, request.failures_of (recorded events tamper_event),
          transcript⟩ := by
  have hknown : request.Known tamper_event := Or.inl tamper_global
  have hfailure : request.failure_for tamper_event = .ok (request.failure tamper_event) :=
    h.failure_for_eq hknown
  have hpush := push_failure_once_eq h hknown hr.known
  unfold tamper_event at hfailure
  unfold tampered
  rw [hfailure, apply_verdict_eq]
  simp only [bind, Except.bind, pure, Except.pure]
  rw [show request.failure { code := .SnapshotTamper, command_sequence := none, pre_spawn := false }
    = request.failure tamper_event from rfl, hpush]
  rfl

theorem check_source_eq (h : Accepted json request) {source_pre source_post : String}
    (hnew : ∀ event ∈ events, event.code ≠ .SourceDrift) (hdrift : source_post ≠ source_pre) :
    request.check_source source_pre source_post ⟨verdicts, request.failures_of events, transcript⟩
      = .ok ⟨request.invalidated verdicts, request.failures_of (recorded events drift_event),
          transcript⟩ := by
  have hfailure : request.failure_for drift_event = .ok (request.failure drift_event) :=
    h.failure_for_eq (Or.inl drift_global)
  unfold drift_event at hfailure
  unfold check_source
  rw [if_neg hdrift, hfailure, apply_verdict_eq, recorded_of_new hnew]
  unfold failures_of
  rw [List.map_append]
  rfl

/-- Source and snapshot are found unchanged after the commands. -/
def Intact (json : VerifierJson) (request : VerifierRequest) (answers : HostAnswers) : Prop :=
  request.source_post json answers.source_post = request.selection.source_fingerprint
    ∧ (inspect_tree json request.source_manifest .Snapshot answers.snapshot_post).isOk = true

/-- What the two checks after the loop make of accumulators: they leave them alone where
source and snapshot are intact, and make every criterion invalid where they are not. -/
structure Closed (json : VerifierJson) (request : VerifierRequest) (answers : HostAnswers)
    (transcript : VerificationTranscriptIdentity) (before after : CriterionVerdicts × List FailureEvent) :
    Prop where
  ready : Ready json request after.1 after.2 transcript
  drifted : (∃ event ∈ after.2, event.code = .SourceDrift)
    ↔ request.source_post json answers.source_post ≠ request.selection.source_fingerprint
  intact : Intact json request answers → after = before
  broken : ¬ Intact json request answers →
    (∀ id ∈ request.criterion_ids, after.1[id]? = some .Invalid) ∧ after.2 ≠ []

theorem check_snapshot_closed (h : Accepted json request) {answers : HostAnswers}
    (hr : Ready json request verdicts events transcript)
    (hdrift : (∃ event ∈ events, event.code = .SourceDrift)
      ↔ request.source_post json answers.source_post ≠ request.selection.source_fingerprint) :
    ∃ after, request.check_snapshot json answers.snapshot_post
        ⟨verdicts, request.failures_of events, transcript⟩
          = .ok ⟨after.1, request.failures_of after.2, transcript⟩
      ∧ Closed json request answers transcript (verdicts, events) after := by
  unfold check_snapshot
  by_cases hok : (inspect_tree json request.source_manifest .Snapshot
      answers.snapshot_post).isOk = true
  · rw [if_pos hok]
    refine ⟨(verdicts, events), rfl, hr, hdrift, fun _ => rfl, ?_⟩
    intro hbroken
    have hevent := hdrift.mpr fun heq => hbroken ⟨heq, hok⟩
    refine ⟨hr.drifted hevent, ?_⟩
    obtain ⟨event, hmem, -⟩ := hevent
    exact List.ne_nil_of_mem hmem
  · rw [if_neg hok, tampered_eq h hr]
    refine ⟨(_, _), rfl, hr.invalidate tamper_global, ?_, fun hintact => absurd hintact.2 hok,
      fun _ => ⟨fun id hid => get_invalidated hr hid, recorded_ne_nil _ _⟩⟩
    rw [← hdrift]
    constructor
    · rintro ⟨event, hmem, hcode⟩
      rcases mem_recorded hmem with hold | hadded
      · exact ⟨event, hold, hcode⟩
      · rw [hadded] at hcode
        exact absurd hcode (by decide)
    · rintro ⟨event, hmem, hcode⟩
      exact ⟨event, subset_recorded hmem, hcode⟩

/-- **The checks after the loop.** -/
theorem closing (h : Accepted json request) (hr : Ready json request verdicts events transcript)
    (hnew : ∀ event ∈ events, event.code ≠ .SourceDrift) (answers : HostAnswers) :
    ∃ after, (request.check_source request.selection.source_fingerprint
          (request.source_post json answers.source_post)
          ⟨verdicts, request.failures_of events, transcript⟩
        >>= request.check_snapshot json answers.snapshot_post)
          = .ok ⟨after.1, request.failures_of after.2, transcript⟩
      ∧ Closed json request answers transcript (verdicts, events) after := by
  by_cases hpost : request.source_post json answers.source_post
      = request.selection.source_fingerprint
  · have hnone : ¬ ∃ event ∈ events, event.code = .SourceDrift := by
      rintro ⟨event, hmem, hcode⟩
      exact hnew event hmem hcode
    unfold check_source
    rw [if_pos hpost, ok_bind]
    exact check_snapshot_closed h hr (iff_of_false hnone (not_not.mpr hpost))
  · rw [check_source_eq h hnew hpost, ok_bind]
    have hevent : ∃ event ∈ recorded events drift_event, event.code = .SourceDrift := by
      obtain ⟨event, hmem, hkey⟩ := exists_recorded events drift_event
      exact ⟨event, hmem, congrArg FailureIdentityKey.failure_code hkey⟩
    obtain ⟨after, heq, hclosed⟩ :=
      check_snapshot_closed h (hr.invalidate drift_global) (iff_of_true hevent hpost)
    exact ⟨after, heq, hclosed.ready, hclosed.drifted, fun hintact => absurd hintact.1 hpost,
      hclosed.broken⟩

/-! ## Publication of a trace -/

/-- **The commands on the snapshot**: a trace, read and closed, or the failure of the
host to spawn. -/
theorem verify_snapshot_eq (h : Accepted json request) {answers : HostAnswers}
    {prepared : List PreparedCommand} (hprepared : request.prepare_all answers.prepare = .ok prepared) :
    (∃ e, reached answers.command 0 (request.planned.zip prepared) = .error e
      ∧ request.verify_snapshot json answers prepared request.selection.source_fingerprint
        = .error (.Execution e))
    ∨ ∃ trace after, Traced request answers.command prepared trace
      ∧ Closed json request answers ⟨entries_from json 0 trace⟩
        (Traced.verdicts request trace, events_from 0 trace) after
      ∧ request.verify_snapshot json answers prepared request.selection.source_fingerprint
        = request.publish json after.1 (request.failures_of after.2) ⟨entries_from json 0 trace⟩
          request.selection.source_fingerprint
          (request.source_post json answers.source_post) := by
  obtain ⟨hlength, hdigests⟩ := prepare_all_eq_ok hprepared
  have hrest : ∀ i x, (request.planned.zip prepared)[i]? = some x →
      request.planned[0 + i]? = some x.1 := by
    intro i x hx
    rw [Nat.zero_add]
    exact (List.getElem?_zip_eq_some.mp hx).1
  have hrun : request.run_commands json answers.command 0 (request.planned.zip prepared)
      request.start
      = ((reached answers.command 0 (request.planned.zip prepared)).mapError .Execution).map
        fun trace => ⟨Traced.verdicts request trace, request.failures_of (events_from 0 trace),
          ⟨entries_from json 0 trace⟩⟩ :=
    run_commands_eq h answers.command hrest (List.forall_mem_nil _) (List.forall_mem_nil _)
  unfold verify_snapshot
  rw [hrun]
  cases hreached : reached answers.command 0 (request.planned.zip prepared) with
  | error e =>
    left
    exact ⟨e, rfl, rfl⟩
  | ok trace =>
    right
    have ht : Traced request answers.command prepared trace := ⟨hlength, hdigests, hreached⟩
    obtain ⟨after, hchecks, hclosed⟩ :=
      closing h (ht.ready h) (fun _ => Traced.events_not_drift) answers
    refine ⟨trace, after, ht, hclosed, ?_⟩
    simp only [Except.mapError, Except.map, ok_bind]
    rw [← bind_assoc, hchecks, ok_bind]

end Closing

/-! ## The course of a verification -/

/-- How a verification goes, past the preflight: the host fails it, a command is blocked
before any was spawned, the source has changed or the snapshot is not its copy before any
was spawned, or the loop runs. -/
inductive Course where
  | Unreadable (error : SnapshotError)
  | Unspawned (error : ExecutionError)
  | Blocked (sequence : ℕ) (failure : RuntimePreflightFailure)
  | Drifted
  | Torn
  | Ran (trace : List Reached)

/-- What the answers of the host make of a verification. -/
def course (json : VerifierJson) (request : VerifierRequest) (answers : HostAnswers) : Course :=
  match request.prepare_all answers.prepare with
  | .error (sequence, failure) => .Blocked sequence failure
  | .ok prepared =>
    match materialize json request.source_manifest answers.materialize with
    | .error .SourceChanged | .error .SourceMismatch => .Drifted
    | .error .SnapshotMismatch => .Torn
    | .error error => .Unreadable error
    | .ok _ =>
      match changed_executable prepared answers.recheck with
      | some sequence => .Blocked sequence .ExecutableDigestMismatch
      | none =>
        match reached answers.command 0 (request.planned.zip prepared) with
        | .error error => .Unspawned error
        | .ok trace => .Ran trace

section Courses

variable {json : VerifierJson} {request : VerifierRequest} {answers : HostAnswers}

theorem prepare_all_sequence_lt {prepare : ℕ → Option (List UInt8)} {sequence : ℕ}
    {failure : RuntimePreflightFailure}
    (h : request.prepare_all prepare = .error (sequence, failure)) :
    sequence < request.planned.length := by
  obtain ⟨⟨planned, i⟩, hmem, hfail⟩ := exists_of_map_checked_eq_error h
  have hlt := (List.getElem?_eq_some_iff.mp (List.mem_zipIdx_iff_getElem?.mp hmem)).1
  dsimp only at hfail hlt
  cases hprepare : request.executable_registry.prepare planned.command
      request.environment_bindings (prepare i) with
  | ok p =>
    rw [hprepare] at hfail
    simp [Except.mapError] at hfail
  | error failure' =>
    rw [hprepare] at hfail
    have heq : (i, failure') = (sequence, failure) := Except.error.inj hfail
    rw [← (Prod.mk.inj heq).1]
    exact hlt

theorem changed_executable_lt {prepared : List PreparedCommand} {recheck : ℕ → Option (List UInt8)}
    {sequence : ℕ} (h : changed_executable prepared recheck = some sequence) :
    sequence < prepared.length := by
  unfold changed_executable at h
  obtain ⟨⟨p, i⟩, hfind, hi⟩ := Option.map_eq_some_iff.mp h
  have hmem := List.mem_of_find?_eq_some hfind
  rw [← hi]
  exact (List.getElem?_eq_some_iff.mp (List.mem_zipIdx_iff_getElem?.mp hmem)).1

/-- The course of a verification that gets as far as its commands. -/
theorem course_of_spawned {prepared : List PreparedCommand} {fingerprint : String}
    {trace : List (PlannedCommand × PreparedExecution)}
    (hprepared : request.prepare_all answers.prepare = .ok prepared)
    (hmaterialized : materialize json request.source_manifest answers.materialize = .ok fingerprint)
    (hunchanged : changed_executable prepared answers.recheck = none)
    (hreached : reached answers.command 0 (request.planned.zip prepared) = .ok trace) :
    request.course json answers = .Ran trace := by
  unfold course
  simp only [hprepared, hmaterialized, hunchanged, hreached]

theorem course_of_unprepared {sequence : ℕ} {failure : RuntimePreflightFailure}
    (h : request.prepare_all answers.prepare = .error (sequence, failure)) :
    request.course json answers = .Blocked sequence failure := by
  unfold course
  rw [h]

/-- What a verification returns on a course. -/
def EndsWith (json : VerifierJson) (request : VerifierRequest) (answers : HostAnswers) :
    Course → Prop
  | .Unreadable error => request.verify_and_publish json answers = .error (.Snapshot error)
  | .Unspawned error => request.verify_and_publish json answers = .error (.Execution error)
  | .Blocked sequence failure => sequence < request.planned.length
    ∧ request.verify_and_publish json answers
      = request.publish_pre_spawn json (runtime_preflight_shape failure).1
        (runtime_preflight_shape failure).2 sequence
  | .Drifted => request.verify_and_publish json answers
      = request.publish_global_integrity json .SourceDrift request.selection.source_fingerprint
        (drift_digest "source")
  | .Torn => request.verify_and_publish json answers
      = request.publish_global_integrity json .SnapshotTamper
        request.selection.source_fingerprint request.selection.source_fingerprint
  | .Ran trace => ∃ prepared after, Traced request answers.command prepared trace
    ∧ Closed json request answers ⟨entries_from json 0 trace⟩
      (Traced.verdicts request trace, events_from 0 trace) after
    ∧ request.verify_and_publish json answers
      = request.publish json after.1 (request.failures_of after.2) ⟨entries_from json 0 trace⟩
        request.selection.source_fingerprint
        (request.source_post json answers.source_post)

/-- **A verification by its course.** -/
theorem ends_with_course (h : request.structural_preflight json answers.preflight = .ok ())
    {course : Course} (hcourse : request.course json answers = course) :
    EndsWith json request answers course := by
  subst hcourse
  have haccepted := accepted_of_preflight h
  unfold VerifierRequest.course EndsWith verify_and_publish
  rw [h]
  cases hprepare : request.prepare_all answers.prepare with
  | error e => exact ⟨prepare_all_sequence_lt hprepare, rfl⟩
  | ok prepared =>
    cases hmaterialize : materialize json request.source_manifest answers.materialize with
    | error error => cases error <;> rfl
    | ok source_pre =>
      -- the snapshot is of the selected source
      have hpre : source_pre = request.selection.source_fingerprint := by
        have heq := (materialize_eq_ok hmaterialize).symm.trans haccepted.fingerprint
        exact Except.ok.inj heq
      subst hpre
      dsimp only
      cases hchanged : changed_executable prepared answers.recheck with
      | some sequence =>
        have hlt := changed_executable_lt hchanged
        rw [(prepare_all_eq_ok hprepare).1] at hlt
        exact ⟨hlt, rfl⟩
      | none =>
        rcases verify_snapshot_eq haccepted hprepare with
          ⟨e, hreached, heq⟩ | ⟨trace, after, ht, hclosed, heq⟩
        · rw [hreached]
          exact heq
        · rw [ht.reached]
          exact ⟨prepared, after, ht, hclosed, heq⟩

/-! ## Publication without a command -/

/-- The event with which a command is blocked before any was spawned. -/
def blocked_event (sequence : ℕ) (failure : RuntimePreflightFailure) : FailureEvent where
  code := (runtime_preflight_shape failure).2
  command_sequence := some sequence
  pre_spawn := (runtime_preflight_shape failure).2 == .ExecutableTamper

theorem blocked_event_shape (sequence : ℕ) (failure : RuntimePreflightFailure) :
    (runtime_preflight_shape failure).1 ≠ .Pass
      ∧ failure_matches_verdict (failure_shape (blocked_event sequence failure)).1
        (runtime_preflight_shape failure).1.bundle = true
      ∧ (blocked_event sequence failure).code ≠ .SourceDrift := by
  have hof : event_of sequence (.PreSpawn failure) = some (blocked_event sequence failure) := rfl
  rcases event_of_shape sequence (.PreSpawn failure) with ⟨-, hnone⟩ | ⟨hfails, event, hsome, hshape⟩
  · rw [hof] at hnone
    simp at hnone
  · rw [hof, Option.some_inj] at hsome
    rw [← contribution_eq_pass_iff] at hfails
    exact ⟨hfails, hsome ▸ hshape⟩

theorem publish_pre_spawn_eq (h : Accepted json request) {sequence : ℕ}
    (hlt : sequence < request.planned.length) (failure : RuntimePreflightFailure) :
    request.publish_pre_spawn json (runtime_preflight_shape failure).1
        (runtime_preflight_shape failure).2 sequence
      = request.publish json
        (uniform_verdicts request.criterion_ids (runtime_preflight_shape failure).1)
        (request.failures_of [blocked_event sequence failure]) ⟨[]⟩
        request.selection.source_fingerprint request.selection.source_fingerprint := by
  have hknown : request.Known (blocked_event sequence failure) :=
    Or.inr ⟨sequence, hlt, rfl, command_code_mem⟩
  have hfailure := h.failure_for_eq hknown
  unfold blocked_event at hfailure
  unfold publish_pre_spawn
  rw [h.sequence_lt hlt, hfailure, ok_bind]
  rfl

theorem publish_global_integrity_eq (h : Accepted json request) {event : FailureEvent}
    (hevent : event = drift_event ∨ event = tamper_event) (source_post : String) :
    request.publish_global_integrity json event.code request.selection.source_fingerprint source_post
      = request.publish json (uniform_verdicts request.criterion_ids .Invalid)
        (request.failures_of [event]) ⟨[]⟩ request.selection.source_fingerprint source_post := by
  have hshape : event = ⟨event.code, none, false⟩ := by
    rcases hevent with rfl | rfl <;> rfl
  have hknown : request.Known event := by
    rcases hevent with rfl | rfl
    · exact Or.inl drift_global
    · exact Or.inl tamper_global
  have hfailure := h.failure_for_eq hknown
  unfold publish_global_integrity
  rw [← hshape, hfailure, ok_bind]
  rfl

end Courses

end VerifierRequest

end OvcaCore

/-
Controllers of reviews end, whatever the others do.

The bound of each part of the loop counts its operations along the longest of its paths; a
step of the loop takes the most where it resolves a review as passed and puts both decisions
into the log.
-/
import OvcaCore.Lib.StepBounds
import OvcaCore.ReviewRuns

set_option autoImplicit false

namespace OvcaCore

open OvcaCore.Checks OvcaCore.Interleaving EngineerVerifier DurableExecutionAuthority
open IndependentReviewStateV1.ReviewedRun (loop_authority loop_authority_serde_json
  loop_authority_run_event surroundings activities repaired_start loop_input turns)

namespace ReviewAuditLoop

section Bounds

variable {P Q α β : Type} {n : ℕ}

/-! ## The rules of the operations -/

theorem within_checked_bind {x : Except ReviewAuditLoopError β} {f : β → ReviewAuditProg P Q α}
    (h : ∀ b, (f b).Within n) : (checked x >>= f).Within n :=
  Prog.within_check_bind fun b _ => h b

theorem within_now_bind {f : DateTime → ReviewAuditProg P Q α} (h : ∀ at_, (f at_).Within n) :
    (now >>= f).Within (n + 1) := Prog.within_op h

theorem within_read_log_bind {f : List P → ReviewAuditProg P Q α} (h : ∀ rows, (f rows).Within n) :
    (read_log >>= f).Within (n + 1) := Prog.within_op h

theorem within_invoke_bind {request : IndependentRoleExecutionRequest}
    {f : Option PersistedRoleExecutionOutcomeV1 → ReviewAuditProg P Q α}
    (h : ∀ answer, (f answer).Within n) : (invoke request >>= f).Within (n + 1) :=
  Prog.within_op h

theorem within_append_event_bind {event : RunEvent}
    {f : Except RunEventLogError Unit → ReviewAuditProg P Q α}
    (h : ∀ answer, (f answer).Within n) : (append_event event >>= f).Within (n + 1) :=
  Prog.within_op h

/-- The lease is taken and given back. -/
theorem within_lease {keys : List EvidenceKey}
    {callback : CompletionAdmissionSnapshot → ReviewAuditProg P Q α}
    (h : ∀ snapshot, (callback snapshot).Within n) :
    (with_completion_admission_lease keys callback).Within (n + 2) := by
  apply Prog.within_op
  intro answer
  cases answer with
  | error source => exact Prog.within_fail _
  | ok snapshot =>
    apply Prog.Within.bind (h snapshot).attempt
    intro result
    cases result with
    | error e => exact Prog.within_op fun _ => Prog.within_fail _
    | ok value =>
      apply Prog.within_op
      intro committed
      cases committed with
      | error source => exact Prog.within_fail _
      | ok _ => exact Prog.within_pure _

variable [DecidableEq P] (authority : ReviewAuthority P Q)

theorem within_load (run_id : RunId) : (load authority run_id).Within 1 := by
  apply Prog.Within.embed
  exact Prog.within_op fun row => Prog.within_check_bind fun _ _ => Prog.within_done _

/-- A projection is read, and written at most once. -/
theorem within_compare_and_swap (run_id : RunId) (revision : ℕ) (digest : Option String)
    (next : IndependentReviewStateV1) :
    (on_store (authority.execution.compare_and_swap_independent_review run_id revision digest next) :
      ReviewAuditProg P Q _).Within 2 := by
  apply Prog.Within.embed
  unfold compare_and_swap_independent_review compare_and_swap_projection
  apply Prog.within_check_bind
  intro _ _
  apply Prog.within_op
  intro row
  apply Prog.within_check_bind
  intro _ _
  apply Prog.within_check_bind
  intro plan _
  cases plan with
  | answer outcome => exact Prog.within_pure _
  | swap payload =>
    apply Prog.within_op
    intro answer
    rcases answer with e | state | state
    · exact Prog.within_fail _
    · exact Prog.within_done _
    · exact Prog.within_done _

/-! ## The parts of the loop -/

theorem within_cas_replace (loaded : LoadedReviewRun P) (next : IndependentReviewStateV1) :
    (cas_replace authority loaded next).Within 2 := by
  apply within_checked_bind
  intro prior
  exact (within_compare_and_swap authority _ _ _ _).bind_still fun _ => Prog.within_pure _

omit [DecidableEq P] in
theorem within_continue_with (result : Option (LoadedReviewRun P)) :
    (continue_with result : ReviewAuditProg P Q _).Within n := by
  cases result with
  | none => exact Prog.within_pure _
  | some value => exact Prog.within_pure _

omit [DecidableEq P] in
theorem within_complete_with (result : Option (LoadedReviewRun P)) :
    (complete_with result : ReviewAuditProg P Q _).Within n := by
  cases result with
  | none => exact Prog.within_pure _
  | some value =>
    apply within_checked_bind
    intro state
    apply within_checked_bind
    exact fun _ => Prog.within_pure _

theorem within_escalate (loaded : LoadedReviewRun P) (reason : OwnerEscalationReasonV1) :
    (escalate authority loaded reason).Within 3 := by
  apply within_checked_bind
  intro state
  apply within_now_bind
  intro at_
  apply within_checked_bind
  intro next
  exact (within_cas_replace authority loaded next).bind_still within_complete_with

theorem within_cas_under_lease (packet : ReviewPacketV1) (loaded : LoadedReviewRun P)
    (next : Except ReviewAuditLoopError IndependentReviewStateV1) :
    (cas_under_lease authority packet loaded next).Within 4 := by
  apply within_lease
  intro snapshot
  apply within_checked_bind
  intro _
  apply within_checked_bind
  intro _
  apply within_checked_bind
  intro next
  exact within_cas_replace authority loaded next

/-- What comes of a write under the lease is no longer than what comes of a written state, or
than asking the owner. -/
theorem within_after_lease (loaded : LoadedReviewRun P)
    {next : Option (LoadedReviewRun P) → ReviewAuditProg P Q (ReviewAuditStep P)}
    (h : ∀ value, (next value).Within n) (hn : 3 ≤ n)
    (result : Except (Fault ReviewAuditLoopError) (Option (LoadedReviewRun P))) :
    (after_lease authority loaded next result).Within n := by
  have hescalate := (within_escalate authority loaded .EvidenceInvalid).mono hn
  unfold after_lease
  split
  · exact h _
  · exact hescalate
  · exact hescalate
  · exact Prog.within_fail _

theorem within_record_outcome (request : IndependentRoleExecutionRequest)
    (set_call : IndependentReviewStateV1 → IndependentCallStateV1 → IndependentReviewStateV1)
    (request_digest : String) (started_at : DateTime) (started : LoadedReviewRun P) :
    (record_outcome authority request set_call request_digest started_at started).Within 4 := by
  apply within_invoke_bind
  intro answer
  apply within_checked_bind
  intro outcome
  apply within_checked_bind
  intro persisted
  apply within_now_bind
  intro recorded_at
  apply within_checked_bind
  intro state
  apply within_checked_bind
  intro next
  exact (within_cas_replace authority started next).bind_still within_continue_with

theorem within_start_call (packet : ReviewPacketV1) (request : IndependentRoleExecutionRequest)
    (set_call : IndependentReviewStateV1 → IndependentCallStateV1 → IndependentReviewStateV1)
    (loaded : LoadedReviewRun P) :
    (start_call authority packet request set_call loaded).Within 9 := by
  apply within_checked_bind
  intro request_digest
  apply within_now_bind
  intro started_at
  apply Prog.Within.bind (within_cas_under_lease authority packet loaded _).attempt (n := 4)
  apply within_after_lease authority loaded ?_ (by omega)
  intro value
  cases value with
  | none => exact Prog.within_pure _
  | some started => exact within_record_outcome authority request set_call _ _ started

theorem within_after_review (input : ReviewAuditLoopInput) (loaded : LoadedReviewRun P) :
    (after_review authority input loaded).Within 3 := by
  apply within_checked_bind
  intro state
  split
  · exact within_escalate authority loaded _
  · split
    · exact within_escalate authority loaded _
    · split
      · exact within_escalate authority loaded _
      · apply within_checked_bind
        intro packet
        apply within_now_bind
        intro at_
        apply within_checked_bind
        intro next
        exact (within_cas_replace authority loaded next).bind_still within_continue_with

/-! ### The decisions of a passed review -/

theorem within_load_events (state : IndependentReviewStateV1) :
    (load_validated_projection_events authority state).Within 2 := by
  apply (within_load authority _).bind (n := 1)
  intro loaded
  apply within_checked_bind
  intro _
  apply within_checked_bind
  intro _
  apply within_checked_bind
  intro _
  apply within_checked_bind
  intro _
  apply within_read_log_bind
  exact fun _ => Prog.within_done _

theorem within_append_and_reload (state : IndependentReviewStateV1)
    (event : Except ReviewAuditLoopError RunEvent) :
    (append_and_reload authority state event).Within 3 := by
  apply within_checked_bind
  intro event
  apply within_append_event_bind
  intro appended
  apply within_checked_bind
  exact fun _ => within_load_events authority state

theorem within_project_review (state : IndependentReviewStateV1) (pair : PassingPair)
    (sequence : ℕ) (events : List RunEvent) :
    (project_review authority state pair sequence events).Within 3 := by
  apply within_checked_bind
  intro found
  split
  · apply (within_append_and_reload authority state _).bind_still
    intro events
    apply within_checked_bind
    intro found
    apply within_checked_bind
    exact fun _ => Prog.within_pure _
  · exact Prog.within_pure _

theorem within_project_audit (state : IndependentReviewStateV1) (pair : PassingPair)
    (sequence : ℕ) (events : List RunEvent) :
    (project_audit authority state pair sequence events).Within 3 := by
  apply within_checked_bind
  intro found
  split
  · exact within_append_and_reload authority state _
  · exact Prog.within_pure _

theorem within_project_passing_pair (state : IndependentReviewStateV1) :
    (project_passing_pair authority state).Within 11 := by
  apply within_lease
  intro snapshot
  apply within_checked_bind
  intro _
  apply within_checked_bind
  intro pair
  apply (within_load_events authority state).bind (n := 7)
  intro events
  apply (within_load authority _).bind (n := 6)
  intro loaded
  apply within_checked_bind
  intro sequence
  apply (within_project_review authority state pair sequence events).bind (n := 3)
  intro events
  apply (within_project_audit authority state pair sequence events).bind_still
  intro events
  apply within_checked_bind
  exact fun _ => Prog.within_done _

theorem within_report_pass (state : IndependentReviewStateV1) :
    (report_pass authority state).Within 11 := by
  apply (within_project_passing_pair authority state).bind_still
  intro _
  apply within_checked_bind
  exact fun _ => Prog.within_pure _

/-! ### Resolving -/

theorem within_resolve_pass (loaded : LoadedReviewRun P) (state : IndependentReviewStateV1)
    (review_result_digest audit_result_digest : String) :
    (resolve_pass authority loaded state review_result_digest audit_result_digest).Within 16 := by
  apply within_now_bind
  intro at_
  apply Prog.Within.bind (within_cas_under_lease authority state.review_packet loaded _).attempt
    (n := 11)
  apply within_after_lease authority loaded ?_ (by omega)
  intro value
  cases value with
  | none => exact Prog.within_pure _
  | some value =>
    apply within_checked_bind
    exact fun resolved => within_report_pass authority resolved

theorem within_direct_repair (input : ReviewAuditLoopInput) (loaded : LoadedReviewRun P)
    (state : IndependentReviewStateV1) (review : ReviewDecision) (audit : AuditDecision)
    (review_result_digest audit_result_digest : String) :
    (direct_repair authority input loaded state review audit review_result_digest
      audit_result_digest).Within 3 := by
  apply within_checked_bind
  intro directive
  apply within_now_bind
  intro at_
  apply within_checked_bind
  intro next
  exact (within_cas_replace authority loaded next).bind_still within_complete_with

theorem within_resolve (input : ReviewAuditLoopInput) (loaded : LoadedReviewRun P) :
    (resolve authority input loaded).Within 16 := by
  have hescalate : ∀ reason, (escalate authority loaded reason).Within 16 := fun reason =>
    (within_escalate authority loaded reason).mono (by omega)
  apply within_checked_bind
  intro state
  apply within_checked_bind
  intro review_result
  apply within_checked_bind
  intro audit_call
  split
  · exact hescalate _
  · split
    · exact hescalate _
    · unfold resolve_decided
      split
      · exact within_resolve_pass authority loaded state _ _
      · split
        · exact (within_direct_repair authority input loaded state _ _ _ _).mono (by omega)
        · exact hescalate _
      · exact hescalate _

/-- A step of the loop, by the phase of the review and how far its call has come. -/
theorem within_resume_step (input : ReviewAuditLoopInput) (loaded : LoadedReviewRun P) :
    (resume_step authority input loaded).Within 16 := by
  have hescalate : ∀ reason, (escalate authority loaded reason).Within 16 := fun reason =>
    (within_escalate authority loaded reason).mono (by omega)
  have hstart : ∀ packet request set_call,
      (start_call authority packet request set_call loaded).Within 16 := fun packet request set_call =>
    (within_start_call authority packet request set_call loaded).mono (by omega)
  apply within_checked_bind
  intro state
  split
  · exact (within_report_pass authority state).mono (by omega)
  · apply within_checked_bind
    intro directive
    apply within_checked_bind
    intro _
    apply within_checked_bind
    exact fun _ => Prog.within_pure _
  · apply within_checked_bind
    exact fun _ => Prog.within_pure _
  · cases state.review_call with
    | NotStarted => exact hstart _ _ _
    | Started digest at_ => exact hescalate _
    | OutcomeRecorded digest at_ outcome outcome_digest recorded_at =>
      exact (within_after_review authority input loaded).mono (by omega)
  · apply within_checked_bind
    intro audit_call
    cases audit_call with
    | NotStarted =>
      apply within_checked_bind
      intro _
      apply within_checked_bind
      intro _
      apply within_checked_bind
      exact fun _ => hstart _ _ _
    | Started digest at_ => exact hescalate _
    | OutcomeRecorded digest at_ outcome outcome_digest recorded_at =>
      exact within_resolve authority input loaded

/-! ### Driving a candidate -/

/-- The loop, by induction on its rounds. -/
theorem within_drive_rounds (input : ReviewAuditLoopInput) (rounds : ℕ)
    (loaded : LoadedReviewRun P) : (drive_rounds authority input rounds loaded).Within (16 * rounds) := by
  induction rounds generalizing loaded with
  | zero => exact Prog.within_pure _
  | succ rounds ih =>
    rw [Nat.mul_succ, Nat.add_comm]
    apply (within_resume_step authority input loaded).bind
    intro step
    cases step with
    | Complete outcome => exact Prog.within_pure _
    | Continue next => exact ih next

theorem within_install (input : ReviewAuditLoopInput) (loaded : LoadedReviewRun P) :
    (install authority input loaded).Within 3 := by
  unfold install
  split
  · apply within_checked_bind
    exact fun _ => Prog.within_pure _
  · apply within_now_bind
    intro at_
    apply within_checked_bind
    intro initial
    exact (within_compare_and_swap authority _ _ _ _).bind_still fun _ => Prog.within_pure _

theorem within_drive (rounds : ℕ) (input : ReviewAuditLoopInput) :
    (drive authority rounds input).Within (16 * rounds + 5) := by
  have hrepairs : (validate_repair_chain authority input.review_packet).Within 1 := by
    unfold validate_repair_chain
    split
    · exact Prog.within_pure _
    · apply within_checked_bind
      intro prior_run_id
      exact (within_load authority prior_run_id).bind_still fun _ => Prog.within_done _
  rw [Nat.add_comm]
  apply within_checked_bind
  intro _
  -- the run, the one before it, the first review, and the rounds
  have hsplit : 5 + 16 * rounds = 1 + (1 + (3 + 16 * rounds)) := by omega
  rw [hsplit]
  apply (within_load authority input.review_packet.run_id).bind
  intro loaded
  apply within_checked_bind
  intro _
  apply hrepairs.bind
  intro _
  apply (within_install authority input loaded).bind
  intro installed
  cases installed with
  | none => exact Prog.within_pure _
  | some loaded => exact within_drive_rounds authority input rounds loaded

end Bounds

end ReviewAuditLoop

namespace ReviewWorld

variable {ι P Q : Type} [DecidableEq ι] [DecidableEq P]

end ReviewWorld

end OvcaCore

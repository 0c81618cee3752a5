/-
When the bundle of a verification is published.

`publish` builds one bundle of what a verification has accumulated (`built`) and hands
it out if it passes the validator of the contracts. Of accumulators that belong
together (`Ready`) the validator accepts everything but two combinations: failures
beside nothing but passing criteria, and a drift failure without a drift.
-/
import OvcaCore.AcceptedRequests
import OvcaCore.VerifierVerdicts

set_option autoImplicit false

namespace OvcaCore

open OvcaCore.Checks OvcaCore.Maxima

/-! ## Identifiers -/

theorem validate_stable_id_of_digest {digest : String} (h : validate_sha256_digest digest = true) :
    LocalVerification.validate_stable_id ("bundle.sha256." ++ digest) = true := by
  have hhead : as_bytes "bundle.sha256."
      = [98, 117, 110, 100, 108, 101, 46, 115, 104, 97, 50, 53, 54, 46] := by decide
  unfold LocalVerification.validate_stable_id
  rw [as_bytes_append, hhead, Bool.and_eq_true, List.all_append, Bool.and_eq_true, List.all_eq_true,
    List.all_eq_true]
  refine ⟨⟨?_, ?_⟩, ?_⟩
  · decide +kernel
  · intro byte hbyte
    rw [is_ascii_alphanumeric_of_digest h hbyte]
    rfl
  · rfl

/-- `planned` of the validator and the plan of the verifier are one. -/
theorem planned_eq_map (capabilities : List CapabilityDefinition) :
    planned capabilities
      = (planned_commands capabilities).map fun p => (p.capability, p.command_index) := by
  unfold planned
  induction capabilities with
  | nil => rfl
  | cons capability later ih =>
    rw [List.flatMap_cons, ih, planned_commands, List.map_append, List.map_map]
    congr 1
    have hsnd : capability.commands.zipIdx.map Prod.snd
        = List.range capability.commands.length := by
      rw [List.zipIdx_map_snd, List.range_eq_range']
    rw [← hsnd, List.map_map]
    rfl

theorem mem_planned_commands {capabilities : List CapabilityDefinition} {p : PlannedCommand}
    (hp : p ∈ planned_commands capabilities) :
    p.capability ∈ capabilities ∧ (∀ c ∈ p.later, c ∈ capabilities)
      ∧ p.capability.commands[p.command_index]? = some p.command := by
  induction capabilities with
  | nil => simp [planned_commands] at hp
  | cons capability later ih =>
    rw [planned_commands, List.mem_append] at hp
    rcases hp with hhere | hlater
    · rw [List.mem_map] at hhere
      obtain ⟨⟨command, index⟩, hmem, rfl⟩ := hhere
      refine ⟨List.mem_cons_self, fun c hc => List.mem_cons_of_mem _ hc, ?_⟩
      exact List.mem_zipIdx_iff_getElem?.mp hmem
    · obtain ⟨hmem, hrest, hcommand⟩ := ih hlater
      exact ⟨List.mem_cons_of_mem _ hmem, fun c hc => List.mem_cons_of_mem _ (hrest c hc),
        hcommand⟩

/-- A capability has no more commands than the plan. -/
theorem commands_length_le {capabilities : List CapabilityDefinition}
    {capability : CapabilityDefinition} (hmem : capability ∈ capabilities) :
    capability.commands.length ≤ (planned_commands capabilities).length := by
  induction capabilities with
  | nil => simp at hmem
  | cons first later ih =>
    rw [planned_commands, List.length_append, List.length_map, List.length_zipIdx]
    rw [List.mem_cons] at hmem
    rcases hmem with rfl | hlater
    · omega
    · have := ih hlater
      omega

/-! ## Coherent verdicts -/

namespace VerificationBundle

def drifted (bundle : VerificationBundle) : Prop :=
  bundle.fingerprints.source_pre ≠ bundle.fingerprints.source_post

theorem validate_verdict_of_pass {bundle : VerificationBundle} (h : bundle.verdict = .Pass) :
    bundle.validate_verdict = true ↔ bundle.criterion_results ≠ [] ∧ bundle.failures = []
      ∧ (∀ result ∈ bundle.criterion_results, result.verdict = .Pass) ∧ ¬ bundle.drifted := by
  unfold validate_verdict drifted
  rw [h]
  simp only [Bool.and_eq_true, Bool.not_eq_true', List.isEmpty_eq_false_iff, List.isEmpty_iff,
    List.all_eq_true, beq_iff_eq, bne_eq_false_iff_eq, not_not, ne_eq, and_assoc]

theorem validate_verdict_of_ne {bundle : VerificationBundle} (h : bundle.verdict ≠ .Pass) :
    bundle.validate_verdict = true ↔
      (bundle.failures.any fun failure =>
        failure_matches_verdict failure.category bundle.verdict) = true
      ∧ (bundle.drifted → bundle.verdict = .Invalid)
      ∧ (bundle.drifted ↔
        (bundle.failures.any fun failure => failure.category == .SourceDrift) = true) := by
  unfold validate_verdict drifted
  cases hverdict : bundle.verdict with
  | Pass => exact absurd hverdict h
  | _ =>
    by_cases hdrift : bundle.fingerprints.source_pre = bundle.fingerprints.source_post <;>
      simp [hdrift]

end VerificationBundle

namespace VerifierRequest

/-! ## Digests of an accepted request -/

namespace Accepted

variable {json : VerifierJson} {request : VerifierRequest}

theorem selection_valid (h : Accepted json request) :
    ([request.selection.run_id, request.selection.goal_id, request.selection.task_id].all
        LocalVerification.validate_stable_id = true)
      ∧ validate_sha256_digest request.selection.source_fingerprint = true
      ∧ validate_selected_capabilities request.selection.capabilities = true
      ∧ validate_sha256_digest request.selection.selection_digest = true := by
  have hvalid := h.selection
  unfold TargetedRerunSelection.validate at hvalid
  simp only [Bool.and_eq_true] at hvalid
  obtain ⟨⟨⟨⟨⟨⟨⟨⟨⟨⟨-, hids⟩, hdigests⟩, -⟩, -⟩, -⟩, -⟩, hcaps⟩, -⟩, hdigest⟩, -⟩ := hvalid
  refine ⟨hids, ?_, hcaps, hdigest⟩
  rw [List.all_eq_true] at hdigests
  exact hdigests _ List.mem_cons_self

theorem behavior_digest (h : Accepted json request) :
    verification_behavior_digest json.toVerificationJson request.behavior
      = some (verification_sha256_hex (json.behavior request.behavior)) := by
  unfold verification_behavior_digest
  rw [if_pos h.behavior]

theorem capability_set_digest (h : Accepted json request) :
    verification_capability_set_digest json.toVerificationJson request.selection
      = some (verification_sha256_hex
        (canonical_json_lf (json.capability_set request.selection.capabilities))) := by
  unfold verification_capability_set_digest verification_selected_capability_set_digest
  rw [if_pos h.selection, if_pos h.selection_valid.2.2.1]

theorem policy_valid (h : Accepted json request) :
    validate_sha256_digest request.selection.policy_digest = true := by
  have hpolicy := h.policy
  unfold verification_policy_digest at hpolicy
  split at hpolicy
  · rw [Option.some_inj] at hpolicy
    rw [← hpolicy]
    exact verification_sha256_hex_valid _
  · exact absurd hpolicy (by simp)

/-- Every command of an accepted request has a digest. -/
theorem command_digest (h : Accepted json request) {capability : CapabilityDefinition}
    (hmem : capability ∈ request.capabilities) {index : ℕ}
    (hindex : index < capability.commands.length) :
    ∃ digest, verification_command_digest json.toVerificationJson capability index = some digest
      ∧ validate_sha256_digest digest = true := by
  have hle : index ≤ U32_MAX := by
    have hcommands := commands_length_le hmem
    have hplanned : (planned_commands request.capabilities).length ≤ 2 ^ 32 :=
      h.planned_length_le
    unfold U32_MAX
    omega
  unfold verification_command_digest
  rw [List.getElem?_eq_getElem hindex]
  refine ⟨_, if_pos hle, verification_sha256_hex_valid _⟩

theorem command_set_digest (h : Accepted json request) :
    ∃ digest, verification_command_set_digest json.toVerificationJson request.capabilities
        = some digest ∧ validate_sha256_digest digest = true := by
  have hentries : ∀ c ∈ request.capabilities,
      ∃ entries, command_set_entries json.toVerificationJson c = some entries := by
    intro c hc
    unfold command_set_entries
    rw [if_pos (h.capabilities c hc)]
    have hall : ∀ i ∈ List.range c.commands.length,
        ∃ entry, command_set_entry json.toVerificationJson c i = some entry := by
      intro i hi
      obtain ⟨digest, hdigest, -⟩ := h.command_digest hc (List.mem_range.mp hi)
      unfold command_set_entry
      rw [hdigest]
      exact ⟨_, rfl⟩
    exact exists_mapM_eq_some hall
  obtain ⟨entries, hsome⟩ := exists_mapM_eq_some hentries
  unfold verification_command_set_digest
  rw [hsome]
  exact ⟨_, rfl, verification_sha256_hex_valid _⟩

end Accepted

/-! ## The bundle -/

section Built

variable (json : VerifierJson) (request : VerifierRequest)

/-- The failures of some events, in the order of the bundle. -/
def failures_of (events : List FailureEvent) : List VerificationFailure :=
  events.map request.failure

def results_of (verdicts : CriterionVerdicts) : List CriterionResult :=
  request.behavior.criteria.map fun criterion =>
    criterion.result ((verdicts[criterion.criterion_id]?).getD .Pass)

/-- The bundle that `build_bundle` puts together. -/
def built (verdicts : CriterionVerdicts) (events : List FailureEvent)
    (transcript : VerificationTranscriptIdentity) (source_post : String) : VerificationBundle where
  contract_version := LOCAL_VERIFICATION_CONTRACT_VERSION
  bundle_id := (derive_verification_bundle_id json.toVerificationJson request.selection.run_id
    request.selection.goal_id request.selection.task_id request.selection.selection_digest
    transcript request.implementation_actor request.verifier_actor request.created_at).getD ""
  run_id := request.selection.run_id
  goal_id := request.selection.goal_id
  task_id := request.selection.task_id
  behavior_contract_id := request.behavior.contract_id
  capability_ids := request.selection.capability_ids
  implementation_actor := request.implementation_actor
  verifier_actor := request.verifier_actor
  fingerprints :=
    { source_pre := request.selection.source_fingerprint
      source_post := source_post
      behavior_contract := verification_sha256_hex (json.behavior request.behavior)
      capability_set := verification_sha256_hex
        (canonical_json_lf (json.capability_set request.selection.capabilities))
      command := (verification_command_set_digest json.toVerificationJson
        request.capabilities).getD ""
      policy := request.selection.policy_digest
      environment := request.environment_digest }
  criterion_results := request.results_of verdicts
  failures := sort_failures (request.failures_of events)
  verdict := (largest ((request.results_of verdicts).map CriterionResult.verdict)).bundle
  created_at := request.created_at

/-- The accumulators of a verification: every criterion has a verdict; every verdict
worse than `Pass` has a failure of its kind; a drift of the source has made everything
invalid; the transcript is one of the plan, and the whole of it when nothing failed. -/
structure Ready (verdicts : CriterionVerdicts) (events : List FailureEvent)
    (transcript : VerificationTranscriptIdentity) : Prop where
  total : ∀ id ∈ request.criterion_ids, ∃ verdict, verdicts[id]? = some verdict
  known : ∀ event ∈ events, request.Known event
  distinct : (events.map key).Nodup
  matched : ∀ id ∈ request.criterion_ids, ∀ verdict, verdicts[id]? = some verdict →
    verdict ≠ .Pass →
      ∃ event ∈ events, failure_matches_verdict (failure_shape event).1 verdict.bundle = true
  drifted : (∃ event ∈ events, event.code = .SourceDrift) →
    ∀ id ∈ request.criterion_ids, verdicts[id]? = some .Invalid
  transcript_valid : transcript.validate = true
  transcript_le : transcript.commands.length ≤ request.planned.length
  transcript_bound : ∀ p ∈ transcript.commands.zip request.planned,
    verification_command_digest json.toVerificationJson p.2.capability p.2.command_index
      = some p.1.command_digest
  complete : events = [] → transcript.commands.length = request.planned.length
    ∧ ∀ entry ∈ transcript.commands,
      entry.termination = .Completed ∧ entry.exit_code = some 0

/-- Every criterion passes. -/
def AllPass (verdicts : CriterionVerdicts) : Prop :=
  ∀ id ∈ request.criterion_ids, verdicts[id]? = some .Pass

end Built

section Publishing

variable {json : VerifierJson} {request : VerifierRequest} {verdicts : CriterionVerdicts}
  {events : List FailureEvent} {transcript : VerificationTranscriptIdentity} {source_post : String}

theorem bundle_id_eq (h : Accepted json request) (hr : Ready json request verdicts events transcript) :
    ∃ bundle_id, derive_verification_bundle_id json.toVerificationJson request.selection.run_id
      request.selection.goal_id request.selection.task_id request.selection.selection_digest
      transcript request.implementation_actor request.verifier_actor request.created_at
        = some bundle_id ∧ LocalVerification.validate_stable_id bundle_id = true := by
  unfold derive_verification_bundle_id verification_transcript_sha256
  rw [if_pos h.selection_valid.2.2.2, if_pos hr.transcript_valid]
  exact ⟨_, rfl, validate_stable_id_of_digest (verification_sha256_hex_valid _)⟩

theorem results_ne_nil (h : Accepted json request) (verdicts : CriterionVerdicts) :
    request.results_of verdicts ≠ [] := by
  have hne := h.criteria_ne_nil
  unfold results_of
  simpa using hne

theorem criterion_results_eq (hr : Ready json request verdicts events transcript) :
    map_checked (criterion_result verdicts) request.behavior.criteria
      = .ok (request.results_of verdicts) := by
  rw [map_checked_eq_ok]
  unfold results_of
  rw [List.forall₂_map_right_iff, List.forall₂_same]
  intro criterion hcriterion
  obtain ⟨verdict, hverdict⟩ := hr.total criterion.criterion_id
    (List.mem_map.mpr ⟨criterion, hcriterion, rfl⟩)
  unfold criterion_result
  rw [hverdict]
  rfl

/-- Publication is the validation of the one bundle that is built. -/
theorem publish_eq (h : Accepted json request) (hr : Ready json request verdicts events transcript) :
    request.publish json verdicts (request.failures_of events) transcript
        request.selection.source_fingerprint source_post
      = if validate_verification_bundle_bindings json.toVerificationJson request.behavior
            request.capabilities request.selection
            (request.built json verdicts events transcript source_post) transcript = true then
          .ok (.Published (request.built json verdicts events transcript source_post) transcript)
        else .error (.Bundle .InvalidBinding) := by
  obtain ⟨bundle_id, hid, -⟩ := bundle_id_eq h hr
  obtain ⟨command, hcommand, -⟩ := h.command_set_digest
  unfold publish build_bundle built
  simp only [criterion_results_eq hr, hid, h.behavior_digest, h.capability_set_digest, hcommand,
    h.policy, Option.getD_some]
  simp only [bind, Except.bind, ok_or, worst_verdict_eq (results_ne_nil h verdicts),
    Option.map_some]
  generalize validate_verification_bundle_bindings json.toVerificationJson request.behavior
    request.capabilities request.selection _ transcript = valid
  cases valid with
  | false => rfl
  | true => rfl

/-! ## The parts of the validation -/

theorem mem_results_of {verdicts : CriterionVerdicts} {result : CriterionResult} :
    result ∈ request.results_of verdicts ↔ ∃ criterion ∈ request.behavior.criteria,
      criterion.result ((verdicts[criterion.criterion_id]?).getD .Pass) = result := List.mem_map

/-- The bundle passes exactly when every criterion does. -/
theorem built_verdict_pass_iff (hr : Ready json request verdicts events transcript) :
    (request.built json verdicts events transcript source_post).verdict = .Pass
      ↔ request.AllPass verdicts := by
  have hverdict : (request.built json verdicts events transcript source_post).verdict
      = (largest ((request.results_of verdicts).map CriterionResult.verdict)).bundle := rfl
  rw [hverdict, CriterionResultVerdict.bundle_eq_pass_iff, ← CriterionResultVerdict.bot_eq,
    largest_eq_bot_iff]
  constructor
  · intro hall id hid
    obtain ⟨criterion, hcriterion, rfl⟩ := List.mem_map.mp hid
    obtain ⟨verdict, hsome⟩ := hr.total _ hid
    have hpass := hall verdict (by
      rw [List.mem_map]
      refine ⟨_, mem_results_of.mpr ⟨criterion, hcriterion, rfl⟩, ?_⟩
      rw [hsome]
      rfl)
    rw [hsome, hpass, CriterionResultVerdict.bot_eq]
  · intro hall v hv
    rw [List.mem_map] at hv
    obtain ⟨result, hresult, rfl⟩ := hv
    obtain ⟨criterion, hcriterion, rfl⟩ := mem_results_of.mp hresult
    have hpass := hall criterion.criterion_id (List.mem_map.mpr ⟨criterion, hcriterion, rfl⟩)
    rw [hpass]
    rfl

theorem results_map_criterion_id (verdicts : CriterionVerdicts) :
    (request.results_of verdicts).map CriterionResult.criterion_id = request.criterion_ids := by
  unfold results_of criterion_ids BehavioralAcceptanceContract.criterion_ids
  rw [List.map_map]
  rfl

theorem built_results_valid (h : Accepted json request) :
    (request.built json verdicts events transcript source_post).validate_results = true := by
  have hvalid := h.behavior
  unfold BehavioralAcceptanceContract.validate BehavioralAcceptanceContract.validate_criteria
    at hvalid
  simp only [Bool.and_eq_true, List.all_eq_true] at hvalid
  have hresults : (request.built json verdicts events transcript source_post).criterion_results
      = request.results_of verdicts := rfl
  unfold VerificationBundle.validate_results
  rw [hresults, results_map_criterion_id, Bool.and_eq_true, decide_eq_true_eq]
  refine ⟨?_, h.criterion_ids_nodup⟩
  unfold results_of
  rw [List.zipIdx_map, List.all_map, List.all_eq_true]
  intro p hp
  obtain ⟨⟨⟨hid, horder⟩, htext⟩, -⟩ := hvalid.2.1 p hp
  have hparts : (LocalVerification.validate_stable_id p.1.criterion_id
      && LocalVerification.validate_text p.1.text && p.1.order == p.2 % 2 ^ 32) = true := by
    rw [hid, htext, horder]
    rfl
  exact hparts

theorem failure_shape_valid (event : FailureEvent) :
    LocalVerification.validate_text (failure_shape event).2.2 = true := by
  obtain ⟨code, sequence, pre_spawn⟩ := event
  cases code with
  | ExecutableTamper =>
    cases pre_spawn <;> simp only [failure_shape, Bool.false_eq_true, reduceIte] <;> decide
  | _ => simp only [failure_shape]; decide

theorem failure_valid (h : Accepted json request) {event : FailureEvent}
    (hknown : request.Known event) : (request.failure event).validate = true := by
  obtain ⟨failure_id, hget, -, hstable⟩ := h.identity hknown
  have hid : (request.failure event).failure_id = failure_id := by
    unfold failure
    rw [hget]
    rfl
  have hsummary : LocalVerification.validate_text (request.failure event).summary = true :=
    failure_shape_valid event
  have hconfirmation : (request.failure event).validate_confirmation = true := by
    unfold failure failure_shape VerificationFailure.validate_confirmation
    obtain ⟨code, sequence, pre_spawn⟩ := event
    cases code <;> rfl
  unfold VerificationFailure.validate
  rw [hid, hstable, hsummary, hconfirmation]
  rfl

theorem mem_sort_failures {failures : List VerificationFailure} {failure : VerificationFailure} :
    failure ∈ sort_failures failures ↔ failure ∈ failures :=
  (List.perm_insertionSort _ _).mem_iff

theorem failure_ids_nodup (h : Accepted json request)
    (hr : Ready json request verdicts events transcript) :
    ((request.failures_of events).map VerificationFailure.failure_id).Nodup := by
  unfold failures_of
  rw [List.map_map]
  have hkeys := List.Nodup.of_map key hr.distinct
  refine List.Nodup.map_on ?_ hkeys
  intro event hevent event' hevent' heq
  have hkey := h.key_eq_of_failure_id (hr.known event hevent) (hr.known event' hevent') heq
  exact List.inj_on_of_nodup_map hr.distinct hevent hevent' hkey

/-- Sorting by an id that no two failures share leaves the ids strictly ascending. -/
theorem sort_failures_ascending {failures : List VerificationFailure}
    (hids : (failures.map VerificationFailure.failure_id).Nodup) :
    strictly_ascending ((sort_failures failures).map VerificationFailure.failure_id) = true := by
  rw [strictly_ascending_iff, List.pairwise_map]
  have hsorted : (sort_failures failures).Pairwise fun a b => a.failure_id ≤ b.failure_id := by
    have : IsTrans VerificationFailure fun a b => a.failure_id ≤ b.failure_id :=
      ⟨fun _ _ _ => le_trans⟩
    have : Std.Total fun a b : VerificationFailure => a.failure_id ≤ b.failure_id :=
      ⟨fun a b => le_total a.failure_id b.failure_id⟩
    exact List.pairwise_insertionSort _ failures
  have hperm : (sort_failures failures).Perm failures := List.perm_insertionSort _ _
  have hdistinct : (sort_failures failures).Pairwise fun a b => a.failure_id ≠ b.failure_id := by
    rw [← List.pairwise_map]
    exact (hperm.map _).nodup_iff.mpr hids
  exact (hsorted.and hdistinct).imp fun hab => lt_of_le_of_ne hab.1 hab.2

theorem built_failures_valid (h : Accepted json request)
    (hr : Ready json request verdicts events transcript) :
    (request.built json verdicts events transcript source_post).validate_failures = true := by
  unfold VerificationBundle.validate_failures
  rw [Bool.and_eq_true, List.all_eq_true]
  refine ⟨?_, sort_failures_ascending (failure_ids_nodup h hr)⟩
  intro failure hfailure
  have hmem : failure ∈ request.failures_of events := mem_sort_failures.mp hfailure
  obtain ⟨event, hevent, rfl⟩ := List.mem_map.mp hmem
  have hvalid := failure_valid h (hr.known event hevent)
  simp only [hvalid, Bool.true_and]
  rfl

/-- Of the failures of a bundle only the categories of the events matter. -/
theorem built_failures_any (p : VerificationFailureCategory → Bool) :
    ((request.built json verdicts events transcript source_post).failures.any
      fun failure => p failure.category) = true
      ↔ ∃ event ∈ events, p (failure_shape event).1 = true := by
  have hfailures : (request.built json verdicts events transcript source_post).failures
      = sort_failures (request.failures_of events) := rfl
  rw [hfailures, List.any_eq_true]
  constructor
  · rintro ⟨failure, hfailure, hp⟩
    obtain ⟨event, hevent, rfl⟩ := List.mem_map.mp (mem_sort_failures.mp hfailure)
    exact ⟨event, hevent, hp⟩
  · rintro ⟨event, hevent, hp⟩
    exact ⟨request.failure event,
      mem_sort_failures.mpr (List.mem_map.mpr ⟨event, hevent, rfl⟩), hp⟩

theorem failure_shape_drift_iff (event : FailureEvent) :
    (failure_shape event).1 = .SourceDrift ↔ event.code = .SourceDrift := by
  obtain ⟨code, sequence, pre_spawn⟩ := event
  cases code <;> simp [failure_shape]

/-- **When the verdict is coherent.** Failures beside passing criteria, or a drift
failure without a drift, are all that is wrong with a bundle. -/
theorem built_validate_verdict_iff (h : Accepted json request)
    (hr : Ready json request verdicts events transcript)
    (hdrift : source_post ≠ request.selection.source_fingerprint →
      ∃ event ∈ events, event.code = .SourceDrift) :
    (request.built json verdicts events transcript source_post).validate_verdict = true
      ↔ (request.AllPass verdicts → events = [])
        ∧ ((∃ event ∈ events, event.code = .SourceDrift) →
          source_post ≠ request.selection.source_fingerprint) := by
  have hdrifted : (request.built json verdicts events transcript source_post).drifted
      ↔ source_post ≠ request.selection.source_fingerprint := ne_comm
  have hfailed : ((request.built json verdicts events transcript source_post).failures.any
      fun failure => failure.category == .SourceDrift) = true
        ↔ ∃ event ∈ events, event.code = .SourceDrift := by
    rw [built_failures_any fun category => category == .SourceDrift]
    simp only [beq_iff_eq, failure_shape_drift_iff]
  by_cases hall : request.AllPass verdicts
  · have hpass : (request.built json verdicts events transcript source_post).verdict = .Pass :=
      (built_verdict_pass_iff hr).mpr hall
    rw [VerificationBundle.validate_verdict_of_pass hpass, hdrifted]
    have hfailures : (request.built json verdicts events transcript source_post).failures = []
        ↔ events = [] := by
      have hlen : (request.built json verdicts events transcript source_post).failures.length
          = events.length := by
        have hperm : (sort_failures (request.failures_of events)).Perm
          (request.failures_of events) := List.perm_insertionSort _ _
        have hmap : (request.failures_of events).length = events.length := List.length_map _
        exact hperm.length_eq.trans hmap
      rw [← List.length_eq_zero_iff, hlen, List.length_eq_zero_iff]
    constructor
    · rintro ⟨-, hnone, -, -⟩
      have hnil := hfailures.mp hnone
      refine ⟨fun _ => hnil, ?_⟩
      rintro ⟨event, hevent, -⟩
      rw [hnil] at hevent
      exact absurd hevent (List.not_mem_nil)
    · rintro ⟨hnil, -⟩
      refine ⟨results_ne_nil h verdicts, hfailures.mpr (hnil hall), ?_, ?_⟩
      · intro result hresult
        obtain ⟨criterion, hcriterion, rfl⟩ := mem_results_of.mp hresult
        rw [hall criterion.criterion_id (List.mem_map.mpr ⟨criterion, hcriterion, rfl⟩)]
        rfl
      · intro hne
        obtain ⟨event, hevent, -⟩ := hdrift hne
        rw [hnil hall] at hevent
        exact absurd hevent (List.not_mem_nil)
  · have hne : (request.built json verdicts events transcript source_post).verdict ≠ .Pass :=
      fun hpass => hall ((built_verdict_pass_iff hr).mp hpass)
    rw [VerificationBundle.validate_verdict_of_ne hne, hdrifted, hfailed,
      built_failures_any fun category => failure_matches_verdict category
        (request.built json verdicts events transcript source_post).verdict]
    have hverdict : (request.built json verdicts events transcript source_post).verdict
        = (largest ((request.results_of verdicts).map CriterionResult.verdict)).bundle := rfl
    -- the worst verdict is the one of some criterion, and has a failure of its kind
    have hworst : largest ((request.results_of verdicts).map CriterionResult.verdict) ≠ ⊥ := by
      intro hbot
      apply hne
      rw [hverdict, hbot]
      rfl
    obtain ⟨result, hresult, heq⟩ := List.mem_map.mp (largest_mem hworst)
    obtain ⟨criterion, hcriterion, rfl⟩ := mem_results_of.mp hresult
    have hid : criterion.criterion_id ∈ request.criterion_ids :=
      List.mem_map.mpr ⟨criterion, hcriterion, rfl⟩
    obtain ⟨verdict, hsome⟩ := hr.total _ hid
    have hlargest : verdict
        = largest ((request.results_of verdicts).map CriterionResult.verdict) := by
      rw [← heq, hsome]
      rfl
    have hmatched := hr.matched _ hid verdict hsome (by
      rw [hlargest]
      exact hworst)
    rw [hlargest, ← hverdict] at hmatched
    constructor
    · rintro ⟨-, -, hiff⟩
      exact ⟨fun hpass => absurd hpass hall, hiff.mpr⟩
    · rintro ⟨-, hfresh⟩
      refine ⟨hmatched, ?_, hdrift, hfresh⟩
      intro hpost
      have hinvalid := hr.drifted (hdrift hpost) _ hid
      rw [hsome, Option.some_inj, hlargest] at hinvalid
      rw [hverdict, hinvalid]
      rfl

/-- What a bundle has by construction: its identities, its actors and its digests. -/
theorem built_validate_iff (h : Accepted json request)
    (hr : Ready json request verdicts events transcript)
    (hpost : validate_sha256_digest source_post = true) :
    (request.built json verdicts events transcript source_post).validate
      = (request.built json verdicts events transcript source_post).validate_verdict := by
  obtain ⟨bundle_id, hid, hstable⟩ := bundle_id_eq h hr
  obtain ⟨command, hcommand, hcommandvalid⟩ := h.command_set_digest
  obtain ⟨hids, hsource, hcaps, -⟩ := h.selection_valid
  have hbundle_id : (request.built json verdicts events transcript source_post).bundle_id
      = bundle_id := by
    unfold built
    rw [hid]
    rfl
  have hcontract : LocalVerification.validate_stable_id request.behavior.contract_id = true := by
    have hvalid := h.behavior
    unfold BehavioralAcceptanceContract.validate at hvalid
    simp only [Bool.and_eq_true] at hvalid
    exact hvalid.1.1.1.2
  have hcapability_ids : LocalVerification.validate_sorted_unique_ids
      request.selection.capability_ids = true := by
    unfold validate_selected_capabilities at hcaps
    unfold LocalVerification.validate_sorted_unique_ids TargetedRerunSelection.capability_ids
    simp only [Bool.and_eq_true, List.all_eq_true] at hcaps
    rw [hcaps.2, Bool.and_true, List.all_map, List.all_eq_true]
    intro capability hmem
    have hvalid := hcaps.1.2 capability hmem
    unfold SelectedCapability.validate at hvalid
    simp only [Bool.and_eq_true] at hvalid
    exact hvalid.1.1
  have hfingerprints : (request.built json verdicts events transcript
      source_post).fingerprints.validate = true := by
    unfold VerificationFingerprints.validate built
    simp only [hcommand, Option.getD_some, List.all_cons, List.all_nil, hsource, hpost,
      verification_sha256_hex_valid, hcommandvalid, h.policy_valid, h.environment, Bool.and_self]
  have hstable_ids : [bundle_id, request.selection.run_id, request.selection.goal_id,
      request.selection.task_id, request.behavior.contract_id].all
        LocalVerification.validate_stable_id = true := by
    simp only [List.all_cons, List.all_nil, Bool.and_true, Bool.and_eq_true] at hids ⊢
    exact ⟨hstable, hids.1, hids.2.1, hids.2.2, hcontract⟩
  have hactors : (request.implementation_actor != request.verifier_actor) = true := by
    simpa using h.independent
  unfold VerificationBundle.validate
  rw [built_results_valid h, built_failures_valid h hr, hfingerprints, hbundle_id]
  have hfields : (request.built json verdicts events transcript source_post).run_id
      = request.selection.run_id := rfl
  simp only [built, hstable_ids, hcapability_ids, h.implementation_actor, h.verifier_actor,
    hactors, Bool.and_true, beq_self_eq_true, Bool.true_and]

/-- The lists of an accepted request fit each other. -/
theorem built_binds_lists (verdicts : CriterionVerdicts) (h : Accepted json request) :
    ((request.capabilities.zip request.selection.capabilities).all fun p =>
        p.1.validate && binds_selected json.toSelectionJson p.1 p.2) = true
      ∧ ((request.behavior.criteria.zip (request.results_of verdicts)).all fun p =>
        result_binds p.1 p.2
          && criterion_binds request.capabilities request.selection.capability_ids p.1) = true
      ∧ request.capabilities.all
        (capability_binds request.behavior.criteria request.selection.capability_ids) = true := by
  refine ⟨?_, ?_, List.all_eq_true.mpr h.capabilities_bind⟩
  · rw [List.all_eq_true]
    intro p hp
    rw [h.capabilities p.1 (List.of_mem_zip hp).1, h.selected p hp]
    rfl
  · rw [List.all_eq_true]
    intro p hp
    unfold results_of at hp
    rw [← List.map_prod_left_eq_zip, List.mem_map] at hp
    obtain ⟨criterion, hmem, rfl⟩ := hp
    have hresult : result_binds criterion
        (criterion.result ((verdicts[criterion.criterion_id]?).getD .Pass)) = true := by
      unfold result_binds BehaviorCriterion.result
      simp only [beq_self_eq_true, Bool.and_self]
    rw [hresult, h.criteria_bind criterion hmem]
    rfl

theorem built_binds_identity (h : Accepted json request) :
    (request.built json verdicts events transcript source_post).binds_identity request.behavior
      request.selection = true := by
  unfold VerificationBundle.binds_identity built
  rw [h.bound]
  simp

theorem built_binds_fingerprints (h : Accepted json request) :
    (request.built json verdicts events transcript source_post).binds_fingerprints
      json.toVerificationJson request.behavior request.capabilities request.selection = true := by
  obtain ⟨command, hcommand, -⟩ := h.command_set_digest
  unfold VerificationBundle.binds_fingerprints built
  rw [h.behavior_digest, h.capability_set_digest, h.policy, hcommand]
  simp

/-- A transcript of the plan is bound; a passing bundle needs the whole of it. -/
theorem built_binds_transcript (h : Accepted json request)
    (hr : Ready json request verdicts events transcript)
    (hcoherent : request.AllPass verdicts → events = []) :
    (request.built json verdicts events transcript source_post).binds_transcript
      json.toVerificationJson request.capabilities transcript = true := by
  have hplanned : OvcaCore.planned request.capabilities
      = request.planned.map fun p => (p.capability, p.command_index) :=
    planned_eq_map request.capabilities
  have hne : request.planned ≠ [] := by
    obtain ⟨capability, hmem⟩ := List.exists_mem_of_ne_nil _ h.nonempty
    have hvalid := h.capabilities capability hmem
    unfold CapabilityDefinition.validate CapabilityDefinition.validate_commands at hvalid
    simp only [Bool.and_eq_true, Bool.not_eq_true', List.isEmpty_eq_false_iff] at hvalid
    have hlen := commands_length_le hmem
    have hpos := List.length_pos_of_ne_nil hvalid.2.1.1
    have hplan : 0 < request.planned.length := Nat.lt_of_lt_of_le hpos hlen
    exact List.ne_nil_of_length_pos hplan
  unfold VerificationBundle.binds_transcript
  rw [hplanned, List.length_map]
  simp only [Bool.and_eq_true, Bool.not_eq_true', List.isEmpty_eq_false_iff, decide_eq_true_eq,
    List.all_eq_true, Bool.or_eq_true, bne_iff_ne, ne_eq, beq_iff_eq]
  refine ⟨⟨⟨by simpa using hne, hr.transcript_le⟩, ?_⟩, ?_⟩
  · intro p hp
    rw [List.zip_map_right, List.mem_map] at hp
    obtain ⟨q, hq, rfl⟩ := hp
    exact hr.transcript_bound q hq
  · by_cases hall : request.AllPass verdicts
    · right
      exact hr.complete (hcoherent hall)
    · left
      exact fun hpass => hall ((built_verdict_pass_iff hr).mp hpass)

theorem built_binds_rest (source_post : String) (h : Accepted json request)
    (hr : Ready json request verdicts events transcript) :
    (request.built json verdicts events transcript source_post).binds_verdict = true
      ∧ (request.built json verdicts events transcript source_post).binds_failures = true
      ∧ (request.built json verdicts events transcript source_post).binds_id
        json.toVerificationJson request.selection transcript = true := by
  refine ⟨?_, ?_, ?_⟩
  · have hresults : (request.built json verdicts events transcript source_post).criterion_results
        = request.results_of verdicts := rfl
    unfold VerificationBundle.binds_verdict
    rw [hresults, worst_verdict_eq (results_ne_nil h verdicts)]
    exact beq_self_eq_true _
  · unfold VerificationBundle.binds_failures
    rw [List.all_eq_true]
    intro failure hfailure
    have hmem : failure ∈ request.failures_of events := mem_sort_failures.mp hfailure
    obtain ⟨event, -, rfl⟩ := List.mem_map.mp hmem
    unfold failure built
    simp
  · obtain ⟨bundle_id, hid, -⟩ := bundle_id_eq h hr
    unfold VerificationBundle.binds_id built
    rw [hid]
    exact beq_self_eq_true _

/-- **When the bundle is valid.** -/
theorem built_valid_iff (h : Accepted json request)
    (hr : Ready json request verdicts events transcript)
    (hpost : validate_sha256_digest source_post = true)
    (hdrift : source_post ≠ request.selection.source_fingerprint →
      ∃ event ∈ events, event.code = .SourceDrift) :
    validate_verification_bundle_bindings json.toVerificationJson request.behavior
        request.capabilities request.selection
        (request.built json verdicts events transcript source_post) transcript = true
      ↔ (request.AllPass verdicts → events = [])
        ∧ ((∃ event ∈ events, event.code = .SourceDrift) →
          source_post ≠ request.selection.source_fingerprint) := by
  rw [← built_validate_verdict_iff h hr hdrift]
  have hvalidate := built_validate_iff h hr hpost
  constructor
  · intro hvalid
    unfold validate_verification_bundle_bindings at hvalid
    simp only [Bool.and_eq_true] at hvalid
    obtain ⟨⟨⟨⟨⟨⟨⟨⟨⟨⟨⟨⟨⟨⟨⟨-, -⟩, hbundle⟩, -⟩, -⟩, -⟩, -⟩, -⟩, -⟩, -⟩, -⟩, -⟩, -⟩, -⟩, -⟩, -⟩ := hvalid
    rw [← hvalidate]
    exact hbundle
  · intro hverdict
    have hcoherent := ((built_validate_verdict_iff h hr hdrift).mp hverdict).1
    obtain ⟨hselected, hresults, hcapabilities⟩ := built_binds_lists verdicts h
    obtain ⟨hworst, hfailures, hid⟩ := built_binds_rest source_post h hr
    rw [← hvalidate] at hverdict
    have hlengths : (request.capabilities.length == request.selection.capabilities.length)
        = true := beq_iff_eq.mpr h.lengths
    have hcount : ((request.results_of verdicts).length == request.behavior.criteria.length)
        = true := by
      unfold results_of
      rw [List.length_map]
      exact beq_self_eq_true _
    unfold validate_verification_bundle_bindings
    rw [h.behavior, h.selection, hverdict, hr.transcript_valid, built_binds_identity h, hlengths,
      hselected, hcapabilities, built_binds_fingerprints h, built_binds_transcript h hr hcoherent,
      hworst, hfailures, hid]
    simp only [built, hcount, hresults, beq_self_eq_true, Bool.and_self]

/-- **When a bundle is published.** -/
theorem publish_of_ready (h : Accepted json request)
    (hr : Ready json request verdicts events transcript)
    (hpost : validate_sha256_digest source_post = true)
    (hdrift : source_post ≠ request.selection.source_fingerprint →
      ∃ event ∈ events, event.code = .SourceDrift)
    (hcoherent : request.AllPass verdicts → events = [])
    (hfresh : (∃ event ∈ events, event.code = .SourceDrift) →
      source_post ≠ request.selection.source_fingerprint) :
    request.publish json verdicts (request.failures_of events) transcript
        request.selection.source_fingerprint source_post
      = .ok (.Published (request.built json verdicts events transcript source_post)
        transcript) := by
  rw [publish_eq h hr, if_pos ((built_valid_iff h hr hpost hdrift).mpr ⟨hcoherent, hfresh⟩)]

theorem publish_of_incoherent (h : Accepted json request)
    (hr : Ready json request verdicts events transcript)
    (hpost : validate_sha256_digest source_post = true)
    (hdrift : source_post ≠ request.selection.source_fingerprint →
      ∃ event ∈ events, event.code = .SourceDrift)
    (hbad : ¬ ((request.AllPass verdicts → events = [])
      ∧ ((∃ event ∈ events, event.code = .SourceDrift) →
        source_post ≠ request.selection.source_fingerprint))) :
    request.publish json verdicts (request.failures_of events) transcript
        request.selection.source_fingerprint source_post = .error (.Bundle .InvalidBinding) := by
  rw [publish_eq h hr, if_neg (fun hvalid => hbad ((built_valid_iff h hr hpost hdrift).mp hvalid))]

end Publishing

end VerifierRequest

end OvcaCore

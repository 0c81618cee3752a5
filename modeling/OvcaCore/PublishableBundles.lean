/-
Which accepted verifications are published.

A verification whose commands fail only in capabilities without criteria has failures
beside nothing but passing criteria; the validator refuses such a bundle, and the
verification is lost as an error. It is the one way to lose a verification, apart from
a source whose fingerprint is the marker of a drift (`recorded_iff`). The request of
`SilentCapability` is lost in the first way.
-/
import OvcaCore.VerificationCourse

set_option autoImplicit false

namespace OvcaCore

open OvcaCore.Checks OvcaCore.Maxima

namespace VerifierRequest

section Courses

variable {json : VerifierJson} {request : VerifierRequest} {answers : HostAnswers}

/-! ## What is recorded -/

/-- A verification is recorded when the bundle it builds passes the validator of the
contracts. Where the host fails it, no bundle is built. -/
def Recorded (json : VerifierJson) (request : VerifierRequest) (answers : HostAnswers) : Prop :=
  match request.verify_and_publish json answers with
  | .ok (.Published bundle transcript) =>
    validate_verification_bundle_bindings json.toVerificationJson request.behavior
      request.capabilities request.selection bundle transcript = true
  | .ok (.Rejected _) | .error (.Bundle _) => False
  | .error (.Snapshot _) | .error (.Execution _) => True

/-- A command failed, no failing command concerns a criterion, and source and snapshot
are intact. -/
def Unaccounted (json : VerifierJson) (request : VerifierRequest) (answers : HostAnswers) : Prop :=
  ∃ trace, request.course json answers = .Ran trace ∧ (∃ r ∈ trace, ¬ passes r.2)
    ∧ (∀ r ∈ trace, ¬ passes r.2 → request.concerned r = []) ∧ Intact json request answers

/-- The source changed while the snapshot was made, and its selected fingerprint is the
marker of a drift. -/
def DriftMarked (json : VerifierJson) (request : VerifierRequest) (answers : HostAnswers) : Prop :=
  request.course json answers = .Drifted
    ∧ request.selection.source_fingerprint = drift_digest "source"

/-- What is published of ready accumulators is recorded when they are coherent. -/
theorem recorded_publish_iff (h : Accepted json request) {verdicts : CriterionVerdicts}
    {events : List FailureEvent} {transcript : VerificationTranscriptIdentity} {source_post : String}
    (hr : Ready json request verdicts events transcript)
    (hpost : validate_sha256_digest source_post = true)
    (hdrift : source_post ≠ request.selection.source_fingerprint →
      ∃ event ∈ events, event.code = .SourceDrift)
    (heq : request.verify_and_publish json answers
      = request.publish json verdicts (request.failures_of events) transcript
        request.selection.source_fingerprint source_post) :
    Recorded json request answers ↔ (request.AllPass verdicts → events = [])
      ∧ ((∃ event ∈ events, event.code = .SourceDrift) →
        source_post ≠ request.selection.source_fingerprint) := by
  rw [← built_valid_iff h hr hpost hdrift]
  unfold Recorded
  rw [heq, publish_eq h hr]
  by_cases hvalid : validate_verification_bundle_bindings json.toVerificationJson request.behavior
      request.capabilities request.selection
      (request.built json verdicts events transcript source_post) transcript = true
  · rw [if_pos hvalid]
  · rw [if_neg hvalid]
    exact iff_of_false id hvalid

/-- Every criterion passes exactly when no failing command concerns one. -/
theorem allPass_verdicts_iff (h : Accepted json request) {commands : ℕ → CommandAnswers}
    {prepared : List PreparedCommand} {trace : List Reached}
    (ht : Traced request commands prepared trace) :
    request.AllPass (Traced.verdicts request trace)
      ↔ ∀ r ∈ trace, ¬ passes r.2 → request.concerned r = [] := by
  unfold AllPass
  constructor
  · intro hall r hr hfails
    rw [List.eq_nil_iff_forall_not_mem]
    intro id hid
    have hverdict := hall id (ht.concerned_mem h hr hid)
    rw [Traced.get_verdicts h trace (ht.concerned_mem h hr hid), Option.some_inj,
      ← CriterionResultVerdict.bot_eq, largest_eq_bot_iff] at hverdict
    have hpass := hverdict _ (Traced.mem_concerning_contributions.mpr ⟨r, hr, hid, rfl⟩)
    exact hfails ((contribution_eq_pass_iff r.2).mp hpass)
  · intro hnone id hid
    rw [Traced.get_verdicts h trace hid, Option.some_inj, ← CriterionResultVerdict.bot_eq,
      largest_eq_bot_iff]
    intro v hv
    obtain ⟨r, hr, hconcerned, rfl⟩ := Traced.mem_concerning_contributions.mp hv
    rw [CriterionResultVerdict.bot_eq, contribution_eq_pass_iff]
    by_contra hfails
    rw [hnone r hr hfails] at hconcerned
    simp at hconcerned

theorem source_post_valid (json : VerifierJson) (request : VerifierRequest) (answer : TreeAnswer) :
    validate_sha256_digest (request.source_post json answer) = true := by
  unfold source_post
  cases hinspect : inspect_tree json request.source_manifest .Source answer with
  | ok fingerprint => exact SourceManifest.fingerprint_valid (inspect_tree_eq_ok.mp hinspect).2
  | error _ => exact verification_sha256_hex_valid _

/-- A verification without commands has one event, and no criterion passes. -/
theorem recorded_early_iff (h : Accepted json request) {event : FailureEvent}
    (hknown : request.Known event) {contribution : CriterionResultVerdict}
    (hne : contribution ≠ .Pass)
    (hmatches : failure_matches_verdict (failure_shape event).1 contribution.bundle = true)
    (hinvalid : event.code = .SourceDrift → contribution = .Invalid) {source_post : String}
    (hpost : validate_sha256_digest source_post = true)
    (hdrift : source_post ≠ request.selection.source_fingerprint → event.code = .SourceDrift)
    (heq : request.verify_and_publish json answers
      = request.publish json (uniform_verdicts request.criterion_ids contribution)
        (request.failures_of [event]) ⟨[]⟩ request.selection.source_fingerprint source_post) :
    Recorded json request answers
      ↔ (event.code = .SourceDrift → source_post ≠ request.selection.source_fingerprint) := by
  have hready := ready_early h hknown hmatches hinvalid
  have hmem : (∃ e ∈ [event], e.code = .SourceDrift) ↔ event.code = .SourceDrift := by simp
  have hnone : ¬ request.AllPass (uniform_verdicts request.criterion_ids contribution) :=
    not_allPass_of_eq h hne fun id hid => get_uniform_verdicts h.criterion_ids_nodup _ hid
  rw [recorded_publish_iff h hready hpost (fun hne => hmem.mpr (hdrift hne)) heq, hmem]
  exact and_iff_right fun hall => absurd hall hnone

/-- **Accepted verifications are recorded**, but for failures that concern no criterion
and for a source that looks drifted from the start. -/
theorem recorded_iff (h : request.structural_preflight json answers.preflight = .ok ()) :
    Recorded json request answers
      ↔ ¬ Unaccounted json request answers ∧ ¬ DriftMarked json request answers := by
  have haccepted := accepted_of_preflight h
  have hfingerprint := SourceManifest.fingerprint_valid haccepted.fingerprint
  unfold Unaccounted DriftMarked
  cases hcourse : request.course json answers with
  | Unreadable error =>
    have hverify : request.verify_and_publish json answers = _ := ends_with_course h hcourse
    unfold Recorded
    rw [hverify]
    simp
  | Unspawned error =>
    have hverify : request.verify_and_publish json answers = _ := ends_with_course h hcourse
    unfold Recorded
    rw [hverify]
    simp
  | Blocked sequence failure =>
    obtain ⟨hlt, heq⟩ := ends_with_course h hcourse
    obtain ⟨hne, hmatches, hcode⟩ := blocked_event_shape sequence failure
    rw [publish_pre_spawn_eq haccepted hlt] at heq
    rw [recorded_early_iff haccepted (Or.inr ⟨sequence, hlt, rfl, command_code_mem⟩) hne hmatches
      (fun hdrift => absurd hdrift hcode) hfingerprint (fun hpost => absurd rfl hpost) heq]
    exact iff_of_true (fun hdrift => absurd hdrift hcode) (by simp)
  | Drifted =>
    have hverify : request.verify_and_publish json answers = _ := ends_with_course h hcourse
    have heq := hverify.trans (publish_global_integrity_eq haccepted (Or.inl rfl) _)
    rw [recorded_early_iff haccepted (Or.inl drift_global) (by decide : CriterionResultVerdict.Invalid ≠ .Pass)
      drift_global.matches
      (fun _ => rfl) (verification_sha256_hex_valid _) (fun _ => rfl) heq]
    constructor
    · intro hpost
      exact ⟨by simp, fun hmarked => hpost rfl hmarked.2.symm⟩
    · intro hmarked _ hpost
      exact hmarked.2 ⟨rfl, hpost.symm⟩
  | Torn =>
    have hverify : request.verify_and_publish json answers = _ := ends_with_course h hcourse
    have heq := hverify.trans (publish_global_integrity_eq haccepted (Or.inr rfl) _)
    have hcode : tamper_event.code ≠ .SourceDrift := by decide
    rw [recorded_early_iff haccepted (Or.inl tamper_global) (by decide : CriterionResultVerdict.Invalid ≠ .Pass)
      tamper_global.matches
      (fun hdrift => absurd hdrift hcode) hfingerprint (fun hpost => absurd rfl hpost) heq]
    exact iff_of_true (fun hdrift => absurd hdrift hcode) (by simp)
  | Ran trace =>
    obtain ⟨prepared, after, ht, hclosed, heq⟩ := ends_with_course h hcourse
    rw [recorded_publish_iff haccepted hclosed.ready (source_post_valid json request _)
      hclosed.drifted.mpr heq, and_iff_left hclosed.drifted.mp]
    have hnot : ¬ (Course.Ran trace = .Drifted
        ∧ request.selection.source_fingerprint = drift_digest "source") := by simp
    rw [and_iff_left hnot]
    by_cases hintact : Intact json request answers
    · rw [hclosed.intact hintact, allPass_verdicts_iff haccepted ht, Traced.events_eq_nil_iff]
      constructor
      · rintro hcoherent ⟨trace', htrace, ⟨r, hr, hfails⟩, hnone, -⟩
        rw [← Course.Ran.inj htrace] at hr hnone
        exact hfails (hcoherent hnone r hr)
      · intro haccounted hnone r hr
        by_contra hfails
        exact haccounted ⟨trace, rfl, ⟨r, hr, hfails⟩, hnone, hintact⟩
    · obtain ⟨hinvalid, -⟩ := hclosed.broken hintact
      refine iff_of_true ?_ ?_
      · intro hall
        exact absurd hall (not_allPass_of_eq haccepted (by decide) hinvalid)
      · rintro ⟨trace', -, -, -, hintact'⟩
        exact hintact hintact'

end Courses

/-! ## A silent capability -/

namespace SilentCapability

def json : VerifierJson where
  behavior := fun behavior => as_bytes behavior.contract_id
  capability := fun capability => as_bytes capability.capability_id
  changed_path_manifest := fun manifest => manifest.logical_paths.flatMap as_bytes
  selection := fun payload => as_bytes payload.run_id
  command := fun payload => as_bytes payload.capability_id
  transcript := fun transcript => transcript.commands.flatMap fun entry =>
    as_bytes entry.command_digest
  bundle_identity := fun payload => as_bytes payload.transcript_sha256
  capability_set := fun capabilities => capabilities.flatMap fun capability =>
    as_bytes capability.record_digest
  command_set := fun entries => entries.flatMap fun entry => as_bytes entry.command_digest
  policy_set := fun entries => entries.flatMap fun entry => as_bytes entry.capability_id
  source_manifest := fun files => files.flatMap fun file => as_bytes file.sha256

def policy : LocalMachinePolicy where
  local_only := true
  network := .Denied
  provider := .Denied
  telemetry := .Denied
  egress := .Denied
  external_evidence := .Denied
  external_storage := .Denied
  raw_shell := .Forbidden
  inherit_environment := false
  fingerprint_algorithm := .Sha256
  allowed_executable_ids := (∅ : BTreeSet String).insert "cargo"
  allowed_environment_names := ∅

def capability (capability_id : String) (criterion_ids : List String) : CapabilityDefinition where
  contract_version := 1
  capability_id := capability_id
  revision := 1
  criterion_ids := criterion_ids
  dependencies := []
  changed_path_selectors := []
  policy := policy
  commands := [⟨"run", "cargo", ["test"], .SnapshotRoot, ∅⟩]

/-- One capability verifies the criterion, the other none. -/
def capabilities : List CapabilityDefinition := [capability "a.unit" ["c"], capability "b.lint" []]

def behavior : BehavioralAcceptanceContract where
  contract_version := 1
  contract_id := "behavior"
  binding := .Bound "goal" "task"
  criteria := [⟨"c", 0, .Acceptance, "the tests pass", true, ["a.unit"]⟩]

def source_manifest : SourceManifest where
  files := [⟨"src/lib.rs", verification_sha256_hex [1]⟩]

def manifest : ChangedPathManifest where
  entries := [⟨.Modified, "src/lib.rs", none⟩]

def selected (capability : CapabilityDefinition) : SelectedCapability where
  capability_id := capability.capability_id
  revision := capability.revision
  record_digest := verification_sha256_hex (json.capability capability)

def payload : SelectionDigestPayload where
  contract_version := 1
  run_id := "run"
  goal_id := "goal"
  task_id := "task"
  source_fingerprint :=
    verification_sha256_hex (canonical_json_lf (json.source_manifest source_manifest.files))
  policy_digest :=
    verification_sha256_hex (canonical_json_lf (json.policy_set (capabilities.map policy_set_entry)))
  unknown_path_policy := .Blocked
  registry_snapshot_digest := verification_sha256_hex []
  changed_path_manifest := manifest
  changed_path_manifest_digest := verification_sha256_hex (json.changed_path_manifest manifest)
  mode := .Targeted
  unknown_paths := []
  capabilities := capabilities.map selected

def selection : TargetedRerunSelection where
  toSelectionDigestPayload := payload
  selection_digest := verification_sha256_hex (json.selection payload)

def profile : ExecutableProfile where
  executable_id := "cargo"
  executable_path := "/usr/bin/cargo"
  sha256 := verification_sha256_hex [9]
  enabled := true
  approved := true
  reviewed_offline := true
  allowed_environment_names := ∅

/-- One identity for each event of two commands, `f` and a letter. -/
def identities : List (FailureIdentityKey × String) :=
  ((expected_failure_identity_keys 2).getD []).zipIdx.map fun p =>
    (p.1, String.ofList ['f', Char.ofNat (97 + p.2)])

def request : VerifierRequest where
  behavior := behavior
  capabilities := capabilities
  selection := selection
  source_manifest := source_manifest
  executable_registry := ⟨(∅ : BTreeMap String ExecutableProfile).insert "cargo" profile⟩
  environment_bindings := ⟨∅⟩
  environment_digest := verification_sha256_hex (as_bytes "ovca.environment-bindings.v1" ++ [0])
  limits := ⟨1000, 100, 100⟩
  implementation_actor := "engineer"
  verifier_actor := "verifier"
  created_at := 0
  failure_identities := ⟨identities, by decide⟩

def roots : RootAnswers where
  roots := .ok ()
  source := .ok source_manifest.files

/-- A process that ends by itself. -/
def process (code : ℤ) : ProcessRun where
  process_end := .Exited (.Code code)
  overflow := false
  stdout := []
  stderr := []
  executable_after := some [9]

def command (code : ℕ → ℤ) (sequence : ℕ) : CommandAnswers where
  cwd_acquired := true
  executable := some [9]
  run := .ok (process (code sequence))

/-- The source stays as it is, the commands end with some codes, and the executable of
the second one is found as it is when it is prepared. -/
def answers (second : Option (List UInt8)) (code : ℕ → ℤ) : HostAnswers where
  preflight := roots
  prepare := fun sequence => if sequence = 0 then some [9] else second
  materialize := ⟨roots, fun _ => .ok (verification_sha256_hex [1]), .ok source_manifest.files,
    .ok source_manifest.files⟩
  recheck := fun _ => some [9]
  command := command code
  source_post := .ok source_manifest.files
  snapshot_post := .ok source_manifest.files

theorem capabilities_valid : ∀ c ∈ capabilities,
    c.validate_non_command_fields = true ∧ c.validate_commands = true := by
  decide

theorem selection_valid : selection.validate json.toSelectionJson = true := by
  have hids : strictly_ascending ((capabilities.map selected).map SelectedCapability.capability_id)
      = true := by decide
  have hmanifest : manifest.validate = true := by decide
  have hselected : ∀ c ∈ capabilities, LocalVerification.validate_stable_id c.capability_id = true
      ∧ c.revision ≠ 0 := by decide
  have hcapabilities : validate_selected_capabilities (capabilities.map selected) = true := by
    unfold validate_selected_capabilities
    rw [hids, Bool.and_true, Bool.and_eq_true, List.all_map, List.all_eq_true]
    refine ⟨rfl, ?_⟩
    intro c hc
    have hvalid := hselected c hc
    unfold Function.comp SelectedCapability.validate selected
    simp [hvalid, verification_sha256_hex_valid]
  have hrun : ["run", "goal", "task"].all LocalVerification.validate_stable_id = true := by
    decide
  unfold TargetedRerunSelection.validate TargetedRerunSelection.expected_selection_digest
    TargetedRerunSelection.validate_unknown_paths TargetedRerunSelection.validate_mode
  simp only [selection, payload, hrun, hmanifest, hcapabilities, verification_sha256_hex_valid,
    List.all_cons, List.all_nil, Bool.and_true, beq_self_eq_true, strictly_ascending, List.isEmpty_nil]
  rfl

theorem cross_bindings : request.validate_cross_bindings json = true := by
  have hcommands : capabilities.all CapabilityDefinition.validate_commands = true :=
    List.all_eq_true.mpr fun c hc => (capabilities_valid c hc).2
  have hfields : capabilities.all CapabilityDefinition.validate_non_command_fields = true :=
    List.all_eq_true.mpr fun c hc => (capabilities_valid c hc).1
  have hself : ∀ c, selected_matches json c (selected c) = true := by
    intro c
    unfold selected_matches selected
    simp
  have hselected : ((capabilities.zip (capabilities.map selected)).all fun p =>
      selected_matches json p.1 p.2) = true := by
    simp [capabilities, hself]
  have hbind : behavior.criteria.all (criterion_binds capabilities ["a.unit", "b.lint"]) = true
      ∧ capabilities.all (capability_binds behavior.criteria ["a.unit", "b.lint"]) = true := by
    decide
  have hpolicy : verification_policy_digest json.toVerificationJson capabilities
      = some payload.policy_digest := by
    unfold verification_policy_digest
    rw [hfields]
    rfl
  have henvironment : request.environment_bindings.digest_for request.environment_names
      = some request.environment_digest := by
    have hnames : request.environment_names.toList = [] := by decide
    unfold EnvironmentBindings.digest_for
    rw [hnames]
    rfl
  unfold validate_cross_bindings
  rw [henvironment]
  have hvalid : valid_digest request.environment_digest = true := verification_sha256_hex_valid _
  rw [hvalid]
  have hcapabilities : request.capabilities = capabilities := rfl
  have hpayload : request.selection.capabilities = capabilities.map selected := rfl
  have hids : request.selection.capability_ids = ["a.unit", "b.lint"] := rfl
  have hcriteria : request.behavior.criteria = behavior.criteria := rfl
  have hdigest : request.selection.policy_digest = payload.policy_digest := rfl
  rw [hcapabilities, hpayload, hids, hcriteria, hselected, hbind.1, hbind.2, hpolicy, hdigest,
    hcommands, List.length_map]
  simp only [beq_self_eq_true, Bool.and_true, Bool.not_true, Bool.false_or]
  rfl

theorem files_sorted : sort_files source_manifest.files = source_manifest.files := by
  simp [sort_files, source_manifest]

theorem roots_ok : source_manifest.preflight_roots json roots = .ok payload.source_fingerprint := by
  have hvalid : source_manifest.validate = true := by
    unfold SourceManifest.validate
    simp only [source_manifest, List.all_cons, List.all_nil, verification_sha256_hex_valid,
      Bool.and_true]
    decide
  have hfingerprint : source_manifest.fingerprint json = .ok payload.source_fingerprint := by
    unfold SourceManifest.fingerprint
    rw [reject_if_of_not (by rw [hvalid]; decide)]
    rfl
  have hinspect : inspect_tree json source_manifest .Source roots.source
      = .ok payload.source_fingerprint :=
    inspect_tree_eq_ok.mpr ⟨⟨source_manifest.files, rfl, files_sorted⟩, hfingerprint⟩
  have hroots : roots.roots = .ok () := rfl
  unfold SourceManifest.preflight_roots
  rw [reject_if_of_not (by rw [hvalid]; decide), hroots, hinspect]
  rfl

theorem preflight_ok : request.structural_preflight json roots = .ok () := by
  have hroots : request.source_manifest.preflight_roots json roots = .ok payload.source_fingerprint :=
    roots_ok
  have hselected : ∀ fingerprint : String, ok_and (.ok fingerprint : Except SnapshotError String)
      (fun found => found != fingerprint) ≠ true := by
    intro fingerprint
    simp [ok_and]
  rw [structural_preflight_eq_ok, hroots]
  refine ⟨by decide, selection_valid, ?_, cross_bindings, ?_, ?_, ?_, ?_, ?_, ?_, ?_, ?_⟩
  · exact List.all_eq_true.mpr fun c hc => (capabilities_valid c hc).1
  · exact hselected payload.source_fingerprint
  · decide
  · decide
  · exact ⟨_, rfl⟩
  · exact List.all_eq_true.mpr fun c hc => (capabilities_valid c hc).2
  · decide
  · decide
  · unfold ExecutableRegistry.validate_structure
    have hprofiles : request.executable_registry.profiles.toList = [("cargo", profile)] := by
      rfl
    have hvalid : profile.validate "cargo" = true := by
      have hrest : ("cargo" == profile.executable_id && valid_executable_id "cargo"
          && valid_profile_path profile.executable_path) = true := by decide
      have hdigest : valid_digest profile.sha256 = true := verification_sha256_hex_valid _
      unfold ExecutableProfile.validate
      rw [hrest, hdigest]
      decide
    rw [hprofiles]
    simp [hvalid]

/-! ### Its courses -/

def prepared : PreparedCommand where
  executable_path := "/usr/bin/cargo"
  executable_digest := verification_sha256_hex [9]
  environment := []

theorem check_executable_ok :
    check_executable (some [9]) (verification_sha256_hex [9]) = .ok () := by
  unfold check_executable
  simp only [bind_eq_ok, ok_or_eq_ok, reject_if_eq_ok, ne_eq, not_not]
  exact ⟨[9], rfl, rfl⟩

theorem prepare_eq (executable : Option (List UInt8)) :
    request.executable_registry.prepare ⟨"run", "cargo", ["test"], .SnapshotRoot, ∅⟩
        request.environment_bindings executable
      = (check_executable executable (verification_sha256_hex [9])).map fun _ => prepared := by
  have hprofile : request.executable_registry.profiles["cargo"]? = some profile := rfl
  have henvironment : prepare_environment profile request.environment_bindings
      ((∅ : BTreeSet String).toList) = .ok [] := rfl
  have hdigest : profile.sha256 = verification_sha256_hex [9] := rfl
  unfold ExecutableRegistry.prepare
  simp only [hprofile, henvironment, hdigest, ok_or, ok_bind]
  rw [reject_if_of_not (by decide), ok_bind]
  cases check_executable executable (verification_sha256_hex [9]) with
  | ok _ => rfl
  | error _ => rfl

def unit : PlannedCommand where
  capability := capability "a.unit" ["c"]
  later := [capability "b.lint" []]
  command_index := 0
  command := ⟨"run", "cargo", ["test"], .SnapshotRoot, ∅⟩

def lint : PlannedCommand where
  capability := capability "b.lint" []
  later := []
  command_index := 0
  command := ⟨"run", "cargo", ["test"], .SnapshotRoot, ∅⟩

theorem planned_eq : request.planned = [unit, lint] := rfl

theorem prepare_all_eq (second : Option (List UInt8)) :
    request.prepare_all (fun sequence => if sequence = 0 then some [9] else second)
      = match check_executable second (verification_sha256_hex [9]) with
        | .ok () => .ok [prepared, prepared]
        | .error failure => .error (1, failure) := by
  unfold prepare_all
  rw [planned_eq]
  simp only [List.zipIdx_cons, List.zipIdx_nil, map_checked, unit, lint, prepare_eq, if_pos,
    check_executable_ok, Except.map, Except.mapError, ok_bind, Nat.zero_add, one_ne_zero, if_false]
  cases check_executable second (verification_sha256_hex [9]) with
  | ok _ => rfl
  | error _ => rfl

theorem inspect_ok (kind : TreeKind) :
    inspect_tree json source_manifest kind (.ok source_manifest.files)
      = .ok payload.source_fingerprint :=
  inspect_tree_eq_ok.mpr ⟨⟨source_manifest.files, rfl, files_sorted⟩, preflight_roots_eq_ok roots_ok⟩

theorem materialize_ok (second : Option (List UInt8)) (code : ℕ → ℤ) :
    materialize json request.source_manifest (answers second code).materialize
      = .ok payload.source_fingerprint := by
  have hcopy : check_all source_manifest.files.zipIdx
      (check_copy fun _ => .ok (verification_sha256_hex [1])) = .ok () := by
    rw [check_all_eq_ok]
    rintro ⟨file, i⟩ hmem
    have hfile := List.mem_singleton.mp
      (List.mem_of_getElem? (List.mem_zipIdx_iff_getElem?.mp hmem))
    unfold check_copy
    rw [ok_bind]
    exact reject_if_of_not (by rw [hfile]; simp)
  exact materialize_of_intact roots_ok hcopy (inspect_ok .Source) (inspect_ok .Snapshot)

/-- What is known of a command of the request that was spawned. -/
def evidence (code : ℤ) : ExecutionEvidence := execution_evidence prepared (process code)

theorem evidence_termination (code : ℤ) :
    (evidence code).termination = .Completed ∧ (evidence code).exit_code = some code := by
  have hterm : (process code).termination prepared.executable_digest = .Completed := by
    unfold ProcessRun.termination process prepared
    simp
  unfold evidence execution_evidence
  rw [hterm]
  exact ⟨rfl, rfl⟩

theorem execute_eq (code : ℕ → ℤ) (sequence : ℕ) :
    execute_prepared prepared (command code sequence)
      = .ok (.Executed (evidence (code sequence))) := by
  have hcheck : prepared.check_immediately_before_spawn (some [9]) = .ok () := check_executable_ok
  unfold execute_prepared command
  rw [if_pos rfl, hcheck]
  rfl

theorem goes_on (code : ℤ) : stops (.Executed (evidence code)) = false := by
  rw [stops_executed]
  unfold execution_shape
  rw [(evidence_termination _).1]
  dsimp only
  split <;> rfl

theorem unchanged : changed_executable [prepared, prepared] (fun _ => some [9]) = none := by
  have hcheck : prepared.check_immediately_before_spawn (some [9]) = .ok () := check_executable_ok
  have hmatches : prepared.digest_matches (some [9]) = true := by
    unfold PreparedCommand.digest_matches
    rw [hcheck]
    rfl
  unfold changed_executable
  simp [hmatches]

theorem course_eq (second : Option (List UInt8)) (code : ℕ → ℤ) :
    request.course json (answers second code)
      = match check_executable second (verification_sha256_hex [9]) with
        | .ok () => .Ran [(unit, .Executed (evidence (code 0))), (lint, .Executed (evidence (code 1)))]
        | .error failure => .Blocked 1 failure := by
  have hreached : reached (command code) 0 (request.planned.zip [prepared, prepared])
      = .ok [(unit, .Executed (evidence (code 0))), (lint, .Executed (evidence (code 1)))] := by
    rw [planned_eq]
    simp only [List.zip_cons_cons, List.zip_nil_left, reached, execute_eq, goes_on, ok_bind,
      Bool.false_eq_true, if_false]
    rfl
  have hprepare : request.prepare_all (answers second code).prepare = _ := prepare_all_eq second
  cases hcheck : check_executable second (verification_sha256_hex [9]) with
  | error failure =>
    rw [hcheck] at hprepare
    exact course_of_unprepared hprepare
  | ok _ =>
    rw [hcheck] at hprepare
    exact course_of_spawned hprepare (materialize_ok second code) unchanged hreached

theorem intact (second : Option (List UInt8)) (code : ℕ → ℤ) :
    Intact json request (answers second code) := by
  have hpost : (answers second code).source_post = .ok source_manifest.files := rfl
  have hsnapshot : (answers second code).snapshot_post = .ok source_manifest.files := rfl
  have hmanifest : request.source_manifest = source_manifest := rfl
  unfold Intact source_post
  rw [hpost, hsnapshot, hmanifest, inspect_ok, inspect_ok]
  exact ⟨rfl, rfl⟩

/-- The command of the silent capability fails. -/
def failing : HostAnswers := answers (some [9]) fun sequence => if sequence = 0 then 0 else 1

theorem unit_passes : passes (.Executed (evidence 0)) := by
  rw [passes_executed]
  exact evidence_termination 0

theorem lint_fails : ¬ passes (.Executed (evidence 1)) := by
  rw [passes_executed, (evidence_termination 1).2]
  simp

theorem lint_silent : request.concerned (lint, .Executed (evidence 1)) = [] := by
  unfold concerned
  dsimp only
  rw [if_neg (by rw [goes_on]; decide)]
  rfl

end SilentCapability

open SilentCapability in
/-- The verification of the silent capability is lost: its command fails, and with the
one criterion passing no bundle accounts for it. -/
theorem silent_failure_lost :
    request.structural_preflight json failing.preflight = .ok ()
      ∧ request.verify_and_publish json failing = .error (.Bundle .InvalidBinding) := by
  have hpreflight : request.structural_preflight json failing.preflight = .ok () := preflight_ok
  refine ⟨hpreflight, ?_⟩
  have haccepted := accepted_of_preflight hpreflight
  have hcourse : request.course json failing
      = .Ran [(unit, .Executed (evidence 0)), (lint, .Executed (evidence 1))] := by
    unfold failing
    rw [course_eq, check_executable_ok]
    rfl
  obtain ⟨prepared, after, ht, hclosed, heq⟩ := ends_with_course hpreflight hcourse
  rw [heq]
  refine publish_of_incoherent haccepted hclosed.ready (source_post_valid _ _ _)
    hclosed.drifted.mpr ?_
  rintro ⟨hcoherent, -⟩
  have hintact : Intact json request failing := intact _ _
  have hverdicts := congrArg Prod.fst (hclosed.intact hintact)
  have hevents := congrArg Prod.snd (hclosed.intact hintact)
  dsimp only at hverdicts hevents
  rw [hverdicts, hevents] at hcoherent
  have hall := (allPass_verdicts_iff haccepted ht).mpr ?_
  · have hpasses := Traced.events_eq_nil_iff.mp (hcoherent hall) (lint, .Executed (evidence 1))
      (List.mem_cons_of_mem _ List.mem_cons_self)
    exact lint_fails hpasses
  · intro r hr hfails
    rw [List.mem_cons, List.mem_singleton] at hr
    rcases hr with rfl | rfl
    · exact absurd unit_passes hfails
    · exact lint_silent

open SilentCapability in
/-- The same request, with commands that pass. -/
theorem silent_pass_recorded_iff :
    Recorded json request (answers (some [9]) fun _ => 0)
      ↔ ¬ Unaccounted json request (answers (some [9]) fun _ => 0)
        ∧ ¬ DriftMarked json request (answers (some [9]) fun _ => 0) :=
  recorded_iff preflight_ok

end VerifierRequest

end OvcaCore

/-
What the structural preflight of the verifier has established.

A request that `structural_preflight` accepts is bound as a bundle of it has to be
bound (`VerifierRequest.Accepted`): its contracts are valid, its selection and its
digests fit its definitions, and every event of the verification has an identity of
its own (`VerifierRequest.Known`).
-/
import OvcaCore.Verifier

set_option autoImplicit false

namespace OvcaCore

open OvcaCore.Checks

/-! ## The source -/

theorem inspect_tree_eq_ok {json : VerifierJson} {manifest : SourceManifest} {kind : TreeKind}
    {answer : TreeAnswer} {fingerprint : String} :
    inspect_tree json manifest kind answer = .ok fingerprint ↔
      (∃ discovered, answer = .ok discovered ∧ sort_files discovered = manifest.files)
        ∧ manifest.fingerprint json = .ok fingerprint := by
  unfold inspect_tree
  simp only [bind_eq_ok, reject_if_eq_ok, ne_eq, not_not, exists_const]
  constructor
  · rintro ⟨discovered, hanswer, hfiles, hfingerprint⟩
    exact ⟨⟨discovered, hanswer, hfiles⟩, hfingerprint⟩
  · rintro ⟨⟨discovered, hanswer, hfiles⟩, hfingerprint⟩
    exact ⟨discovered, hanswer, hfiles, hfingerprint⟩

theorem preflight_roots_eq_ok {json : VerifierJson} {manifest : SourceManifest}
    {answers : RootAnswers} {fingerprint : String}
    (h : manifest.preflight_roots json answers = .ok fingerprint) :
    manifest.fingerprint json = .ok fingerprint := by
  unfold SourceManifest.preflight_roots at h
  simp only [bind_eq_ok, exists_and_right] at h
  exact (inspect_tree_eq_ok.mp h.2.2).2

/-- A snapshot is made of the source that the manifest lists. -/
theorem materialize_eq_ok {json : VerifierJson} {manifest : SourceManifest}
    {answers : MaterializeAnswers} {source_pre : String}
    (h : materialize json manifest answers = .ok source_pre) :
    manifest.fingerprint json = .ok source_pre := by
  unfold materialize at h
  rw [bind_eq_ok] at h
  obtain ⟨pre, hpre, hrest⟩ := h
  simp only [bind_eq_ok, pure_eq_ok, exists_and_right] at hrest
  have heq : pre = source_pre := by
    obtain ⟨-, -, -, -, -, heq⟩ := hrest
    exact heq
  exact heq ▸ preflight_roots_eq_ok hpre

theorem materialize_of_intact {json : VerifierJson} {manifest : SourceManifest}
    {answers : MaterializeAnswers} {fingerprint : String}
    (hroots : manifest.preflight_roots json answers.roots = .ok fingerprint)
    (hcopied : check_all manifest.files.zipIdx (check_copy answers.copied) = .ok ())
    (hsource : inspect_tree json manifest .Source answers.source = .ok fingerprint)
    (hsnapshot : inspect_tree json manifest .Snapshot answers.snapshot = .ok fingerprint) :
    materialize json manifest answers = .ok fingerprint := by
  unfold materialize
  rw [hroots, ok_bind, hcopied, ok_bind, hsource, hsnapshot]
  have hsame : reject_if (fingerprint ≠ fingerprint) SnapshotError.SourceChanged = .ok () :=
    reject_if_of_not (not_not.mpr rfl)
  simp only [Except.mapError, ok_bind, hsame]
  rfl

theorem SourceManifest.fingerprint_valid {json : VerifierJson} {manifest : SourceManifest}
    {fingerprint : String} (h : manifest.fingerprint json = .ok fingerprint) :
    validate_sha256_digest fingerprint = true := by
  unfold SourceManifest.fingerprint at h
  simp only [bind_eq_ok, pure_eq_ok, exists_and_right] at h
  rw [← h.2]
  exact verification_sha256_hex_valid _

namespace VerifierRequest

/-! ## Accepted requests -/

/-- What is known of a request past the preflight. -/
structure Accepted (json : VerifierJson) (request : VerifierRequest) : Prop where
  behavior : request.behavior.validate = true
  selection : request.selection.validate json.toSelectionJson = true
  capabilities : ∀ c ∈ request.capabilities, c.validate = true
  bound : request.behavior.bound_ids
    = some (request.selection.goal_id, request.selection.task_id)
  lengths : request.capabilities.length = request.selection.capabilities.length
  nonempty : request.capabilities ≠ []
  selected : ∀ p ∈ request.capabilities.zip request.selection.capabilities,
    binds_selected json.toSelectionJson p.1 p.2 = true
  criteria_bind : ∀ c ∈ request.behavior.criteria,
    criterion_binds request.capabilities request.selection.capability_ids c = true
  capabilities_bind : ∀ c ∈ request.capabilities,
    capability_binds request.behavior.criteria request.selection.capability_ids c = true
  policy : verification_policy_digest json.toVerificationJson request.capabilities
    = some request.selection.policy_digest
  environment : validate_sha256_digest request.environment_digest = true
  fingerprint : request.source_manifest.fingerprint json
    = .ok request.selection.source_fingerprint
  implementation_actor : LocalVerification.validate_stable_id request.implementation_actor = true
  verifier_actor : LocalVerification.validate_stable_id request.verifier_actor = true
  independent : request.implementation_actor ≠ request.verifier_actor
  identities : validate_failure_identity_map request.failure_identities request.planned.length
    request.created_at = true

/-- What the preflight has checked. -/
theorem structural_preflight_eq_ok {json : VerifierJson} {request : VerifierRequest}
    {answers : RootAnswers} : request.structural_preflight json answers = .ok () ↔
      request.behavior.validate = true ∧ request.selection.validate json.toSelectionJson = true
      ∧ request.capabilities.all CapabilityDefinition.validate_non_command_fields = true
      ∧ request.validate_cross_bindings json = true
      ∧ ok_and (request.source_manifest.preflight_roots json answers) (fun fingerprint =>
          fingerprint != request.selection.source_fingerprint) ≠ true
      ∧ (valid_actor_id request.implementation_actor = true
        ∧ valid_actor_id request.verifier_actor = true)
      ∧ request.implementation_actor ≠ request.verifier_actor
      ∧ (∃ fingerprint, request.source_manifest.preflight_roots json answers = .ok fingerprint)
      ∧ request.capabilities.all CapabilityDefinition.validate_commands = true
      ∧ request.limits.is_valid = true
      ∧ validate_failure_identity_map request.failure_identities request.planned.length
          request.created_at = true
      ∧ request.executable_registry.validate_structure = true := by
  unfold structural_preflight
  simp only [bind_eq_ok, reject_if_eq_ok, exists_const, exists_and_right, mapError_eq_ok, not_or,
    Bool.not_eq_false, ne_eq]

/-- **The preflight accepts only bound requests.** -/
theorem accepted_of_preflight {json : VerifierJson} {request : VerifierRequest}
    {answers : RootAnswers} (h : request.structural_preflight json answers = .ok ()) :
    Accepted json request := by
  rw [structural_preflight_eq_ok] at h
  obtain ⟨hbehavior, hselection, hfields, hcross, hpre, ⟨himpl, hver⟩, hdistinct,
    ⟨fingerprint, hok⟩, hcommands, -, hids, -⟩ := h
  have hfp : fingerprint = request.selection.source_fingerprint := by
    rw [hok] at hpre
    simpa [ok_and] using hpre
  unfold validate_cross_bindings at hcross
  simp only [Bool.and_eq_true, beq_iff_eq, List.all_eq_true] at hcross
  obtain ⟨⟨⟨⟨⟨⟨⟨⟨hbound, hlen⟩, hne⟩, hsel⟩, hcrit⟩, hcap⟩, hpolicy⟩, henv⟩, -⟩ := hcross
  rw [List.all_eq_true] at hfields hcommands
  refine
    { behavior := hbehavior
      selection := hselection
      capabilities := ?_
      bound := hbound
      lengths := hlen
      nonempty := ?_
      selected := ?_
      criteria_bind := hcrit
      capabilities_bind := hcap
      policy := hpolicy
      environment := henv
      fingerprint := hfp ▸ preflight_roots_eq_ok hok
      implementation_actor := himpl
      verifier_actor := hver
      independent := hdistinct
      identities := hids }
  · intro c hc
    unfold CapabilityDefinition.validate
    rw [hfields c hc, hcommands c hc, Bool.and_self]
  · intro hnil
    rw [hnil] at hne
    exact absurd hne (by decide)
  · intro p hp
    have hmatch := hsel p hp
    have hvalid := hcommands p.1 (List.of_mem_zip hp).1
    unfold selected_matches at hmatch
    unfold binds_selected
    rw [hvalid] at hmatch
    simpa using hmatch

/-! ## Capabilities and criteria -/

namespace Accepted

variable {json : VerifierJson} {request : VerifierRequest}

theorem criterion_ids_nodup (h : Accepted json request) : request.criterion_ids.Nodup := by
  have hvalid := h.behavior
  unfold BehavioralAcceptanceContract.validate BehavioralAcceptanceContract.validate_criteria
    at hvalid
  simp only [Bool.and_eq_true, decide_eq_true_eq] at hvalid
  exact hvalid.2.2

theorem criteria_ne_nil (h : Accepted json request) : request.behavior.criteria ≠ [] := by
  have hvalid := h.behavior
  unfold BehavioralAcceptanceContract.validate at hvalid
  simp only [Bool.and_eq_true] at hvalid
  intro hnil
  rw [hnil] at hvalid
  exact absurd hvalid.1.2 (by decide)

theorem criterion_ids_ne_nil (h : Accepted json request) : request.criterion_ids ≠ [] := by
  have hne := h.criteria_ne_nil
  unfold criterion_ids BehavioralAcceptanceContract.criterion_ids
  simpa using hne

/-- A capability names only criteria of the contract. -/
theorem criterion_mem (h : Accepted json request) {capability : CapabilityDefinition}
    (hcapability : capability ∈ request.capabilities) {criterion_id : String}
    (hid : criterion_id ∈ capability.criterion_ids) : criterion_id ∈ request.criterion_ids := by
  have hbind := h.capabilities_bind capability hcapability
  unfold capability_binds at hbind
  simp only [Bool.and_eq_true, List.all_eq_true] at hbind
  have hfind := hbind.2 criterion_id hid
  rw [Option.any_eq_true] at hfind
  obtain ⟨criterion, hsome, -⟩ := hfind
  unfold find_criterion at hsome
  have hmem := List.mem_of_find?_eq_some hsome
  have heq := List.find?_some hsome
  rw [beq_iff_eq] at heq
  exact List.mem_map.mpr ⟨criterion, hmem, heq⟩

end Accepted

/-! ## Events -/

/-- The events a verification of this plan can have. -/
def Known (request : VerifierRequest) (event : FailureEvent) : Prop :=
  (event.command_sequence = none ∧ (event.code = .SourceDrift ∨ event.code = .SnapshotTamper))
    ∨ ∃ sequence < request.planned.length, event.command_sequence = some sequence
      ∧ event.code ∈ COMMAND_FAILURE_CODES

def key (event : FailureEvent) : FailureIdentityKey := ⟨event.code, event.command_sequence⟩

/-- The failure that an event is recorded as. -/
def failure (request : VerifierRequest) (event : FailureEvent) : VerificationFailure where
  contract_version := LOCAL_VERIFICATION_CONTRACT_VERSION
  failure_id := (request.failure_identities.get (key event)).getD ""
  category := (failure_shape event).1
  confirmation := (failure_shape event).2.1
  supersedes_failure_id := none
  criterion_id := none
  summary := (failure_shape event).2.2
  recorded_at := request.created_at

theorem mem_expected_keys {request : VerifierRequest} {event : FailureEvent}
    {expected : List FailureIdentityKey}
    (hexpected : expected_failure_identity_keys request.planned.length = some expected)
    (hknown : request.Known event) : key event ∈ expected := by
  unfold expected_failure_identity_keys at hexpected
  by_cases hlen : request.planned.length ≤ U32_MAX + 1
  · rw [if_pos hlen, Option.some_inj] at hexpected
    rw [← hexpected, List.mem_append]
    unfold key
    rcases hknown with ⟨hnone, hcode⟩ | ⟨sequence, hlt, hsome, hcode⟩
    · right
      rw [hnone]
      rcases hcode with hcode | hcode
      · rw [hcode]
        exact List.mem_cons_self
      · rw [hcode]
        exact List.mem_cons_of_mem _ List.mem_cons_self
    · left
      rw [hsome, List.mem_flatMap]
      exact ⟨sequence, List.mem_range.mpr hlt, List.mem_map.mpr ⟨event.code, hcode, rfl⟩⟩
  · rw [if_neg hlen] at hexpected
    exact absurd hexpected (by simp)

namespace Accepted

variable {json : VerifierJson} {request : VerifierRequest}

theorem planned_length_le (h : Accepted json request) : request.planned.length ≤ 2 ^ 32 := by
  have hids := h.identities
  unfold validate_failure_identity_map expected_failure_identity_keys at hids
  by_cases hlen : request.planned.length ≤ U32_MAX + 1
  · exact hlen
  · rw [if_neg hlen] at hids
    simp at hids

theorem sequence_lt (h : Accepted json request) {sequence : ℕ}
    (hlt : sequence < request.planned.length) : sequence % 2 ^ 32 = sequence :=
  Nat.mod_eq_of_lt (Nat.lt_of_lt_of_le hlt h.planned_length_le)

/-- Every event of the plan has an identity, of which the map says it is stable. -/
theorem identity (h : Accepted json request) {event : FailureEvent}
    (hknown : request.Known event) :
    ∃ failure_id, request.failure_identities.get (key event) = some failure_id
      ∧ (key event, failure_id) ∈ request.failure_identities.entries
      ∧ LocalVerification.validate_stable_id failure_id = true := by
  have hids := h.identities
  unfold validate_failure_identity_map at hids
  simp only [Bool.and_eq_true, decide_eq_true_eq, Option.any_eq_true] at hids
  obtain ⟨⟨⟨-, expected, hexpected, -, hall⟩, -⟩, hstable⟩ := hids
  have hmem := mem_expected_keys hexpected hknown
  rw [List.all_eq_true] at hall hstable
  have hkey := hall _ hmem
  rw [List.contains_iff_mem, List.mem_map] at hkey
  obtain ⟨entry, hentry, hfst⟩ := hkey
  have hsome : (request.failure_identities.entries.find? fun e => e.1 == key event).isSome := by
    rw [List.find?_isSome]
    exact ⟨entry, hentry, beq_iff_eq.mpr hfst⟩
  obtain ⟨found, hfound⟩ := Option.isSome_iff_exists.mp hsome
  have hfoundmem := List.mem_of_find?_eq_some hfound
  have hfoundkey := List.find?_some hfound
  rw [beq_iff_eq] at hfoundkey
  refine ⟨found.2, ?_, ?_, hstable _ (List.mem_map.mpr ⟨found, hfoundmem, rfl⟩)⟩
  · unfold FailureIdentityMap.get
    rw [hfound]
    rfl
  · rw [← hfoundkey]
    exact hfoundmem

theorem failure_for_eq (h : Accepted json request) {event : FailureEvent}
    (hknown : request.Known event) : request.failure_for event = .ok (request.failure event) := by
  obtain ⟨failure_id, hget, -⟩ := h.identity hknown
  unfold failure_for failure_for_event
  unfold key at hget
  rw [hget]
  unfold failure key
  rw [hget]
  rfl

/-- Two events with the same failure id are of one kind. -/
theorem key_eq_of_failure_id (h : Accepted json request) {event event' : FailureEvent}
    (hknown : request.Known event) (hknown' : request.Known event')
    (hid : (request.failure event).failure_id = (request.failure event').failure_id) :
    key event = key event' := by
  obtain ⟨failure_id, hget, hmem, -⟩ := h.identity hknown
  obtain ⟨failure_id', hget', hmem', -⟩ := h.identity hknown'
  unfold failure at hid
  rw [hget, hget'] at hid
  have heq : failure_id = failure_id' := hid
  subst heq
  have hids := h.identities
  unfold validate_failure_identity_map at hids
  simp only [Bool.and_eq_true, decide_eq_true_eq] at hids
  have hinj := List.inj_on_of_nodup_map hids.1.2 hmem hmem' rfl
  exact congrArg Prod.fst hinj

end Accepted

end VerifierRequest

end OvcaCore

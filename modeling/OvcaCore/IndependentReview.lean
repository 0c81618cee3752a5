/-
The contracts of an independent review (`ovca-types/src/independent_review.rs`): the
evidence manifest of a role, the frozen diff of one path, the packets that a Reviewer and
an Auditor are given, and the directive that routes a failed candidate to a repair.

A digest of the source is the SHA-256 of a domain and the canonical JSON of a value;
`IndependentContractDigests` has a function for each of them, of exactly the fields it is
taken of. The digests of bytes are computed.
-/
import OvcaCore.EngineerVerifierState
import OvcaCore.ReviewAudit
import OvcaCore.VerificationDigest
import Mathlib.Data.Prod.Lex

set_option autoImplicit false

namespace OvcaCore

open OvcaCore.Checks

def INDEPENDENT_REVIEW_CONTRACT_VERSION : ℕ := 1

inductive IndependentReviewContractError where
  | UnsupportedContractVersion
  | InvalidIdentity
  | InvalidRole
  | InvalidBinding
  | InvalidDigest
  | InvalidManifest
  | InvalidFrozenDiff
  | InvalidRepairDirective
  | Serialization
  deriving DecidableEq, Repr

/-! ## Fields -/

namespace IndependentReview

def validate_version (value : ℕ) : Except IndependentReviewContractError Unit :=
  reject_if (value ≠ INDEPENDENT_REVIEW_CONTRACT_VERSION) .UnsupportedContractVersion

def validate_identity (value : String) : Except IndependentReviewContractError Unit :=
  reject_if (¬ validate_stable_id value) .InvalidIdentity

def validate_core_ids (run_id : RunId) (goal_id : GoalId) (task_id : TaskId) :
    Except IndependentReviewContractError Unit := do
  validate_identity run_id
  validate_identity goal_id
  validate_identity task_id

def validate_principal (principal : PrincipalIdentityV1) (expected : PrincipalV1) :
    Except IndependentReviewContractError Unit := do
  reject_if (¬ principal.validate) .InvalidIdentity
  reject_if (principal.role ≠ expected) .InvalidRole

/-- Trimmed, bounded, and of one line, as in the control plane. -/
def validate_text (value : String) : Except IndependentReviewContractError Unit :=
  reject_if (¬ validate_canonical_text value) .InvalidBinding

def validate_digest (value : String) : Except IndependentReviewContractError Unit :=
  reject_if (¬ validate_sha256_digest value) .InvalidDigest

def validate_optional_digest (value : Option String) :
    Except IndependentReviewContractError Unit :=
  check_some value validate_digest

def validate_strict_paths (paths : List String) : Except IndependentReviewContractError Unit := do
  check_all paths fun path => reject_if (¬ validate_logical_path path) .InvalidRepairDirective
  reject_if (¬ strictly_ascending paths) .InvalidRepairDirective

def bytes_match_file (bytes : List UInt8) (file : WorkspaceFileV1) : Bool :=
  bytes.length == file.byte_length && verification_sha256_hex bytes == file.sha256

end IndependentReview

open IndependentReview

/-! ## Evidence manifests -/

/-- The position of a kind in the derived order. -/
def CriterionKind.rank : CriterionKind → ℕ
  | .Acceptance => 0
  | .Verification => 1
  | .DefinitionOfDone => 2

structure EvidenceCurrentAnchorV1 where
  bundle_id : String
  record_digest : String
  generation : ℕ
  state_digest : String
  deriving DecidableEq, Repr

def EvidenceCurrentAnchorV1.validate (anchor : EvidenceCurrentAnchorV1) :
    Except IndependentReviewContractError Unit := do
  validate_identity anchor.bundle_id
  validate_digest anchor.record_digest
  validate_digest anchor.state_digest
  reject_if (anchor.generation = 0) .InvalidBinding

inductive IndependentEvidenceActorRoleV1 where
  | Engineer
  | Verifier
  | Reviewer
  | Auditor
  deriving DecidableEq, Repr

structure IndependentEvidenceActorV1 where
  actor_id : String
  role : IndependentEvidenceActorRoleV1
  deriving DecidableEq, Repr

structure EvidenceManifestEntryV1 where
  criterion_kind : CriterionKind
  criterion : String
  evidence_id : EvidenceId
  evidence_kind : EvidenceKind
  producer : IndependentEvidenceActorV1
  content_digest : String
  deriving DecidableEq, Repr

namespace EvidenceManifestEntryV1

def validate (entry : EvidenceManifestEntryV1) : Except IndependentReviewContractError Unit := do
  validate_text entry.criterion
  validate_identity entry.evidence_id
  validate_identity entry.producer.actor_id
  validate_digest entry.content_digest

/-- What the entries of a manifest are sorted by. -/
def key (entry : EvidenceManifestEntryV1) : ℕ ×ₗ String ×ₗ String :=
  toLex (entry.criterion_kind.rank, toLex (entry.criterion, entry.evidence_id))

end EvidenceManifestEntryV1

structure EvidenceManifestDigestInputV1 where
  contract_version : ℕ
  actor : PrincipalIdentityV1
  criteria_namespace : String
  entries : List EvidenceManifestEntryV1
  deriving DecidableEq, Repr

structure EvidenceManifestV1 extends EvidenceManifestDigestInputV1 where
  manifest_digest : String
  deriving DecidableEq, Repr

/-! ## Frozen diffs and packets -/

structure FrozenPathDiffDigestInputV1 where
  contract_version : ℕ
  logical_path : String
  before_bytes : Option (List UInt8)
  after_bytes : List UInt8
  before_file : Option WorkspaceFileV1
  after_file : WorkspaceFileV1
  issue6_diff_digest : String
  deriving DecidableEq, Repr

structure FrozenPathDiffV1 extends FrozenPathDiffDigestInputV1 where
  frozen_diff_digest : String
  deriving DecidableEq, Repr

structure ReviewPacketDigestInputV1 where
  contract_version : ℕ
  packet_id : String
  root_run_id : RunId
  run_id : RunId
  goal_id : GoalId
  task_id : TaskId
  candidate_cycle : ℕ
  max_repair_cycles : ℕ
  prior_run_id : Option RunId
  prior_repair_directive_digest : Option String
  task : Task
  goal_contract : GoalContract
  completion_evidence : CompletionEvidence
  evidence_catalog : List EvidenceRef
  engineer : PrincipalIdentityV1
  verifier : WorkerId
  reviewer : PrincipalIdentityV1
  reviewer_invocation : RoleInvocationV1
  reviewer_invocation_digest : String
  issue6_state_digest : String
  logical_plan_digest : String
  resolved_effect_ledger_digest : String
  engineer_result_digest : String
  verifier_replay_plan_digest : String
  verifier_transcript_digest : String
  frozen_diff : FrozenPathDiffV1
  verification_bundle : VerificationBundle
  verification_bundle_record_digest : String
  evidence_current : EvidenceCurrentAnchorV1
  verifier_receipts : List VerificationTranscriptCommandIdentity
  evidence_manifest : EvidenceManifestV1
  deriving DecidableEq, Repr

structure ReviewPacketV1 extends ReviewPacketDigestInputV1 where
  packet_digest : String
  deriving DecidableEq, Repr

structure AuditPacketDigestInputV1 where
  contract_version : ℕ
  packet_id : String
  review_packet : ReviewPacketV1
  review_packet_digest : String
  review_result_digest : String
  review_decision : ReviewDecision
  auditor : PrincipalIdentityV1
  auditor_invocation : RoleInvocationV1
  auditor_invocation_digest : String
  evidence_manifest : EvidenceManifestV1
  deriving DecidableEq, Repr

structure AuditPacketV1 extends AuditPacketDigestInputV1 where
  packet_digest : String
  deriving DecidableEq, Repr

/-! ## Repair directives -/

structure UnsatisfiedCriterionV1 where
  kind : CriterionKind
  criterion : String
  deriving DecidableEq, Repr

/-- The derived order of the unsatisfied criteria. -/
def UnsatisfiedCriterionV1.key (criterion : UnsatisfiedCriterionV1) : ℕ ×ₗ String :=
  toLex (criterion.kind.rank, criterion.criterion)

structure RepairDirectiveDigestInputV1 where
  contract_version : ℕ
  directive_id : String
  root_run_id : RunId
  failed_run_id : RunId
  successor_run_id : RunId
  goal_id : GoalId
  task_id : TaskId
  failed_candidate_cycle : ℕ
  successor_candidate_cycle : ℕ
  max_repair_cycles : ℕ
  prior_repair_directive_digest : Option String
  review_packet_digest : String
  review_result_digest : String
  audit_packet_digest : String
  audit_result_digest : String
  repair_paths : List String
  unsatisfied_criteria : List UnsatisfiedCriterionV1
  routed_by : PrincipalIdentityV1
  grants_authority : Bool
  deriving DecidableEq, Repr

structure RepairDirectiveV1 extends RepairDirectiveDigestInputV1 where
  directive_digest : String
  deriving DecidableEq, Repr

/-- What the id of the run behind a repair is derived from. -/
structure RepairSuccessorInputV1 where
  root_run_id : RunId
  successor_candidate_cycle : ℕ
  review_result_digest : String
  audit_result_digest : String
  deriving DecidableEq, Repr

/-- The digests of the contracts, each of the fields it is taken of. -/
structure IndependentContractDigests (P : Type) extends EngineerVerifierDigests P where
  manifest : EvidenceManifestDigestInputV1 → String
  frozen_diff : FrozenPathDiffDigestInputV1 → String
  review_packet : ReviewPacketDigestInputV1 → String
  audit_packet : AuditPacketDigestInputV1 → String
  repair_directive : RepairDirectiveDigestInputV1 → String
  repair_successor : RepairSuccessorInputV1 → String

/-! ## The context of the evidence -/

namespace IndependentReview

/-- The criteria that a goal declares of one kind: each a text, and none twice. -/
def validate_declared (declared : List String) : Except IndependentReviewContractError Unit :=
  check_enumerated declared fun index criterion => do
    validate_text criterion
    reject_if (criterion ∈ declared.take index) .InvalidManifest

def validate_satisfied_criteria (declared satisfied : List String) :
    Except IndependentReviewContractError Unit := do
  validate_declared declared
  check_enumerated satisfied fun index criterion => do
    let position ← ok_or (declared.idxOf? criterion) .InvalidManifest
    reject_if (criterion ∈ satisfied.take index) .InvalidManifest
    check_some ((predecessor none satisfied index).bind fun prior => declared.idxOf? prior)
      fun prior => reject_if (position ≤ prior) .InvalidManifest

def validate_catalog_entry (catalog : List EvidenceRef) (index : ℕ) (evidence : EvidenceRef) :
    Except IndependentReviewContractError Unit := do
  reject_if (evidence.contract_version ≠ ContractVersion.current) .UnsupportedContractVersion
  reject_if (¬ validate_stable_id evidence.id) .InvalidManifest
  validate_text evidence.reference
  check_some (predecessor none catalog index) fun prior =>
    reject_if (evidence.id ≤ prior.id) .InvalidManifest
  reject_if (evidence.id ∈ (catalog.take index).map EvidenceRef.id) .InvalidManifest

def validate_evidence_context (goal : GoalContract) (completion : CompletionEvidence)
    (catalog : List EvidenceRef) : Except IndependentReviewContractError Unit := do
  reject_if (goal.contract_version ≠ ContractVersion.current
    ∨ goal.permission_profile.contract_version ≠ ContractVersion.current
    ∨ goal.completion_precondition.contract_version ≠ ContractVersion.current
    ∨ completion.contract_version ≠ ContractVersion.current) .UnsupportedContractVersion
  check_enumerated catalog (validate_catalog_entry catalog)
  let required := max goal.completion_precondition.minimum_evidence_refs 1
  reject_if (completion.evidence_refs.length < required) .InvalidManifest
  check_enumerated completion.evidence_refs fun index evidence_id => do
    check_some (predecessor none completion.evidence_refs index) fun prior =>
      reject_if (evidence_id ≤ prior) .InvalidManifest
    reject_if (evidence_id ∉ catalog.map EvidenceRef.id) .InvalidManifest
  validate_satisfied_criteria goal.acceptance_criteria completion.satisfied_acceptance_criteria
  validate_satisfied_criteria goal.verification_criteria completion.satisfied_verification_criteria
  validate_satisfied_criteria goal.definition_of_done completion.satisfied_definition_of_done

/-- The role that the catalog has for what an actor has produced. -/
def expected_catalog_role : IndependentEvidenceActorRoleV1 → Role
  | .Engineer | .Verifier => .Engineer
  | .Reviewer => .Reviewer
  | .Auditor => .Auditor

def validate_manifest_entry (goal : GoalContract) (completion : CompletionEvidence)
    (catalog : List EvidenceRef) (known_producers : List IndependentEvidenceActorV1)
    (entry : EvidenceManifestEntryV1) : Except IndependentReviewContractError Unit := do
  let catalog_by_id : BTreeMap String EvidenceRef :=
    .ofList (catalog.map fun evidence => (evidence.id, evidence))
  let evidence ← ok_or catalog_by_id[entry.evidence_id]? .InvalidManifest
  let integrity ← ok_or evidence.integrity .InvalidManifest
  reject_if (entry.criterion ∉ ReviewAudit.declared_criteria goal entry.criterion_kind
    ∨ entry.evidence_id ∉ completion.evidence_refs
    ∨ evidence.kind ≠ entry.evidence_kind
    ∨ evidence.producer_role ≠ expected_catalog_role entry.producer.role
    ∨ integrity.contract_version ≠ ContractVersion.current
    ∨ integrity.algorithm ≠ "sha256"
    ∨ integrity.digest ≠ entry.content_digest
    ∨ entry.producer ∉ known_producers) .InvalidManifest
  validate_digest integrity.digest

/-- Every entry is bound to the evidence of the completion claim, and together they cover it. -/
def validate_manifest_bindings (manifest : EvidenceManifestV1) (goal : GoalContract)
    (completion : CompletionEvidence) (catalog : List EvidenceRef)
    (known_producers : List IndependentEvidenceActorV1) :
    Except IndependentReviewContractError Unit := do
  check_all manifest.entries (validate_manifest_entry goal completion catalog known_producers)
  let covered_completion_ids : BTreeSet String :=
    .ofList (manifest.entries.map EvidenceManifestEntryV1.evidence_id)
  reject_if (covered_completion_ids ≠ (.ofList completion.evidence_refs : BTreeSet String))
    .InvalidManifest

end IndependentReview

/-! ## Validators -/

section Validators

variable {P : Type} (sha256 : IndependentContractDigests P)

namespace EvidenceManifestV1

def computed_digest (manifest : EvidenceManifestV1) : String :=
  sha256.manifest manifest.toEvidenceManifestDigestInputV1

def validate_entry (manifest : EvidenceManifestV1) (index : ℕ) (entry : EvidenceManifestEntryV1) :
    Except IndependentReviewContractError Unit := do
  entry.validate
  reject_if (entry.producer.actor_id = manifest.actor.principal_id) .InvalidManifest
  check_some (predecessor none manifest.entries index) fun previous =>
    reject_if (entry.key ≤ previous.key) .InvalidManifest

def validate_for (manifest : EvidenceManifestV1) (expected_actor : PrincipalIdentityV1)
    (expected_role : PrincipalV1) : Except IndependentReviewContractError Unit := do
  validate_version manifest.contract_version
  reject_if (¬ manifest.actor.validate) .InvalidIdentity
  reject_if (manifest.actor ≠ expected_actor ∨ manifest.actor.role ≠ expected_role) .InvalidRole
  reject_if (¬ validate_stable_id manifest.criteria_namespace) .InvalidManifest
  reject_if (manifest.entries = []) .InvalidManifest
  check_enumerated manifest.entries manifest.validate_entry
  validate_digest manifest.manifest_digest
  reject_if (manifest.computed_digest sha256 ≠ manifest.manifest_digest) .InvalidDigest

end EvidenceManifestV1

namespace FrozenPathDiffV1

def computed_digest (diff : FrozenPathDiffV1) : String :=
  sha256.frozen_diff diff.toFrozenPathDiffDigestInputV1

def validate_before (diff : FrozenPathDiffV1) : Except IndependentReviewContractError Unit :=
  match diff.before_bytes, diff.before_file with
  | none, none => pure ()
  | some bytes, some file => do
    reject_if (¬ file.validate) .InvalidFrozenDiff
    reject_if (file.logical_path ≠ diff.logical_path ∨ ¬ bytes_match_file bytes file)
      .InvalidFrozenDiff
  | _, _ => .error .InvalidFrozenDiff

def validate (diff : FrozenPathDiffV1) : Except IndependentReviewContractError Unit := do
  validate_version diff.contract_version
  reject_if (¬ validate_logical_path diff.logical_path) .InvalidFrozenDiff
  validate_digest diff.issue6_diff_digest
  validate_digest diff.frozen_diff_digest
  reject_if (¬ diff.after_file.validate) .InvalidFrozenDiff
  reject_if (diff.after_file.logical_path ≠ diff.logical_path
    ∨ ¬ bytes_match_file diff.after_bytes diff.after_file) .InvalidFrozenDiff
  diff.validate_before
  reject_if (diff.before_file = some diff.after_file) .InvalidFrozenDiff
  reject_if (diff.computed_digest sha256 ≠ diff.frozen_diff_digest) .InvalidDigest

end FrozenPathDiffV1

/-- The invocation of a role that judges a candidate: it names the role and the candidate,
and allows neither resources nor writes. -/
def judges (invocation : RoleInvocationV1) (invocation_digest : String)
    (actor : PrincipalIdentityV1) (role : PrincipalV1) (packet : ReviewPacketV1) : Prop :=
  invocation.target = actor
    ∧ invocation.target.role = role
    ∧ invocation.authority.permission_profile.resource_keys = []
    ∧ invocation.authority.permission_profile.write_keys = []
    ∧ invocation.run_id = packet.run_id
    ∧ invocation.task_id = packet.task_id
    ∧ invocation.scope.goal_id = some packet.goal_id
    ∧ invocation.scope.run_id = some packet.run_id
    ∧ invocation.scope.task_id = some packet.task_id
    ∧ invocation.canonical_digest sha256.toControlPlaneDigests = some invocation_digest

instance (invocation : RoleInvocationV1) (invocation_digest : String)
    (actor : PrincipalIdentityV1) (role : PrincipalV1) (packet : ReviewPacketV1) :
    Decidable (judges sha256 invocation invocation_digest actor role packet) := by
  unfold judges
  infer_instance

namespace ReviewPacketV1

def computed_digest (packet : ReviewPacketV1) : String :=
  sha256.review_packet packet.toReviewPacketDigestInputV1

/-- The identity of the candidate and its place among the repairs of a root run. -/
def validate_lineage (packet : ReviewPacketV1) : Except IndependentReviewContractError Unit := do
  validate_version packet.contract_version
  validate_identity packet.packet_id
  validate_core_ids packet.run_id packet.goal_id packet.task_id
  validate_identity packet.root_run_id
  reject_if (packet.max_repair_cycles = 0 ∨ packet.max_repair_cycles < packet.candidate_cycle)
    .InvalidBinding
  validate_optional_digest packet.prior_repair_directive_digest
  reject_if (¬ (packet.candidate_cycle = 0 ↔ packet.prior_repair_directive_digest = none)
    ∨ ¬ (packet.candidate_cycle = 0 ↔ packet.prior_run_id = none)
    ∨ packet.candidate_cycle = 0 ∧ packet.root_run_id ≠ packet.run_id) .InvalidBinding
  check_some packet.prior_run_id validate_identity

/-- The three who have had a part in the candidate when it is reviewed. -/
def validate_actors (packet : ReviewPacketV1) : Except IndependentReviewContractError Unit := do
  validate_principal packet.engineer .Engineer
  validate_identity packet.verifier
  validate_principal packet.reviewer .Reviewer
  reject_if (packet.engineer.principal_id = packet.verifier
    ∨ packet.engineer.principal_id = packet.reviewer.principal_id
    ∨ packet.verifier = packet.reviewer.principal_id) .InvalidRole
  reject_if (¬ packet.reviewer_invocation.validate sha256.toControlPlaneDigests) .InvalidBinding
  validate_digest packet.reviewer_invocation_digest
  reject_if (¬ judges sha256 packet.reviewer_invocation packet.reviewer_invocation_digest
    packet.reviewer .Reviewer packet) .InvalidBinding

/-- What the candidate has been frozen with. -/
def validate_bindings (packet : ReviewPacketV1) : Except IndependentReviewContractError Unit := do
  check_all [packet.issue6_state_digest, packet.logical_plan_digest,
    packet.resolved_effect_ledger_digest, packet.engineer_result_digest,
    packet.verifier_replay_plan_digest, packet.verifier_transcript_digest,
    packet.verification_bundle_record_digest, packet.packet_digest] validate_digest
  reject_if (packet.task.id ≠ packet.task_id
    ∨ packet.task.goal_id ≠ packet.goal_id
    ∨ packet.goal_contract.id ≠ packet.goal_id
    ∨ packet.verification_bundle.run_id ≠ packet.run_id
    ∨ packet.verification_bundle.goal_id ≠ packet.goal_id
    ∨ packet.verification_bundle.task_id ≠ packet.task_id
    ∨ packet.verification_bundle.verdict ≠ .Pass
    ∨ packet.verification_bundle.bundle_id ≠ packet.evidence_current.bundle_id
    ∨ packet.verification_bundle_record_digest ≠ packet.evidence_current.record_digest
    ∨ packet.verifier_receipts = []) .InvalidBinding

/-- Those whose evidence a Reviewer may rely on. -/
def producers (packet : ReviewPacketV1) : List IndependentEvidenceActorV1 :=
  [⟨packet.engineer.principal_id, .Engineer⟩, ⟨packet.verifier, .Verifier⟩]

def validate (packet : ReviewPacketV1) : Except IndependentReviewContractError Unit := do
  packet.validate_lineage
  packet.validate_actors sha256
  packet.validate_bindings
  packet.frozen_diff.validate sha256
  packet.evidence_current.validate
  validate_evidence_context packet.goal_contract packet.completion_evidence packet.evidence_catalog
  packet.evidence_manifest.validate_for sha256 packet.reviewer .Reviewer
  validate_manifest_bindings packet.evidence_manifest packet.goal_contract
    packet.completion_evidence packet.evidence_catalog packet.producers
  reject_if (packet.computed_digest sha256 ≠ packet.packet_digest) .InvalidDigest

end ReviewPacketV1

namespace AuditPacketV1

def computed_digest (packet : AuditPacketV1) : String :=
  sha256.audit_packet packet.toAuditPacketDigestInputV1

/-- The Auditor is none of the three who have had a part in the candidate. -/
def validate_auditor (packet : AuditPacketV1) : Except IndependentReviewContractError Unit := do
  validate_principal packet.auditor .Auditor
  reject_if (packet.auditor.principal_id ∈ [packet.review_packet.engineer.principal_id,
    packet.review_packet.verifier, packet.review_packet.reviewer.principal_id]) .InvalidRole
  reject_if (¬ packet.auditor_invocation.validate sha256.toControlPlaneDigests) .InvalidBinding

def validate_bindings (packet : AuditPacketV1) : Except IndependentReviewContractError Unit := do
  check_all [packet.review_packet_digest, packet.review_result_digest,
    packet.auditor_invocation_digest, packet.packet_digest] validate_digest
  reject_if (packet.review_packet_digest ≠ packet.review_packet.packet_digest
    ∨ packet.review_decision.run_id ≠ packet.review_packet.run_id
    ∨ packet.review_decision.goal_id ≠ packet.review_packet.goal_id
    ∨ packet.review_decision.producer_role ≠ .Reviewer
    ∨ ¬ judges sha256 packet.auditor_invocation packet.auditor_invocation_digest packet.auditor
        .Auditor packet.review_packet
    ∨ packet.evidence_manifest.criteria_namespace
      = packet.review_packet.evidence_manifest.criteria_namespace) .InvalidBinding

/-- Those whose evidence an Auditor may rely on: the Reviewer is one of them. -/
def producers (packet : AuditPacketV1) : List IndependentEvidenceActorV1 :=
  packet.review_packet.producers ++ [⟨packet.review_packet.reviewer.principal_id, .Reviewer⟩]

def validate (packet : AuditPacketV1) : Except IndependentReviewContractError Unit := do
  validate_version packet.contract_version
  validate_identity packet.packet_id
  packet.review_packet.validate sha256
  packet.validate_auditor sha256
  packet.validate_bindings sha256
  packet.evidence_manifest.validate_for sha256 packet.auditor .Auditor
  validate_manifest_bindings packet.evidence_manifest packet.review_packet.goal_contract
    packet.review_packet.completion_evidence packet.review_packet.evidence_catalog packet.producers
  reject_if (packet.computed_digest sha256 ≠ packet.packet_digest) .InvalidDigest

end AuditPacketV1

/-- The run that repairs a failed candidate. -/
def derive_repair_successor_run_id (root_run_id : RunId) (successor_candidate_cycle : ℕ)
    (review_result_digest audit_result_digest : String) :
    Except IndependentReviewContractError RunId := do
  validate_identity root_run_id
  validate_digest review_result_digest
  validate_digest audit_result_digest
  reject_if (successor_candidate_cycle = 0) .InvalidRepairDirective
  let digest := sha256.repair_successor
    ⟨root_run_id, successor_candidate_cycle, review_result_digest, audit_result_digest⟩
  pure s!"repair.{successor_candidate_cycle}.{digest}"

namespace RepairDirectiveV1

def computed_digest (directive : RepairDirectiveV1) : String :=
  sha256.repair_directive directive.toRepairDirectiveDigestInputV1

def validate_identities (directive : RepairDirectiveV1) :
    Except IndependentReviewContractError Unit := do
  validate_version directive.contract_version
  validate_identity directive.directive_id
  validate_core_ids directive.failed_run_id directive.goal_id directive.task_id
  validate_identity directive.root_run_id
  validate_identity directive.successor_run_id
  validate_principal directive.routed_by .Coordinator
  validate_optional_digest directive.prior_repair_directive_digest
  check_all [directive.review_packet_digest, directive.review_result_digest,
    directive.audit_packet_digest, directive.audit_result_digest, directive.directive_digest]
    validate_digest

/-- One repair more than the failed candidate has had, within the bound, and without
authority of its own. -/
def validate_succession (directive : RepairDirectiveV1) :
    Except IndependentReviewContractError Unit := do
  reject_if (directive.max_repair_cycles = 0
    ∨ directive.max_repair_cycles ≤ directive.failed_candidate_cycle
    ∨ ¬ (directive.failed_candidate_cycle = 0 ↔ directive.prior_repair_directive_digest = none))
    .InvalidRepairDirective
  reject_if (U32_MAX < directive.failed_candidate_cycle + 1) .InvalidRepairDirective
  reject_if (directive.successor_candidate_cycle ≠ directive.failed_candidate_cycle + 1
    ∨ directive.grants_authority = true
    ∨ directive.repair_paths = []
    ∨ directive.unsatisfied_criteria = []) .InvalidRepairDirective
  let successor_run_id ← derive_repair_successor_run_id sha256 directive.root_run_id
    directive.successor_candidate_cycle directive.review_result_digest directive.audit_result_digest
  reject_if (directive.successor_run_id ≠ successor_run_id) .InvalidRepairDirective

def validate_criterion (directive : RepairDirectiveV1) (index : ℕ)
    (criterion : UnsatisfiedCriterionV1) : Except IndependentReviewContractError Unit := do
  validate_text criterion.criterion
  check_some (predecessor none directive.unsatisfied_criteria index) fun prior =>
    reject_if (criterion.key ≤ prior.key) .InvalidRepairDirective
  reject_if (criterion ∈ directive.unsatisfied_criteria.take index) .InvalidRepairDirective

def validate (directive : RepairDirectiveV1) : Except IndependentReviewContractError Unit := do
  directive.validate_identities
  directive.validate_succession sha256
  validate_strict_paths directive.repair_paths
  check_enumerated directive.unsatisfied_criteria directive.validate_criterion
  reject_if (directive.computed_digest sha256 ≠ directive.directive_digest) .InvalidDigest

end RepairDirectiveV1

end Validators

end OvcaCore

/-
What a durable engineer-verifier state holds of a verification: the bundle and
the transcript of its commands (`ovca-types/src/goal_runtime/local_verification.rs`)
and the current row of the evidence bank (`ovca-storage/src/local_verification.rs`).

Their validators are predicates, for the reason given in
`OvcaCore.ControlPlane`. The stable ids of this contract have no largest length.
-/
import OvcaCore.ToolBoundary

set_option autoImplicit false

namespace OvcaCore

def LOCAL_VERIFICATION_CONTRACT_VERSION : ContractVersion := 1

namespace LocalVerification

/-- `validate_stable_id` of `local_verification.rs`. -/
def validate_stable_id (value : String) : Bool :=
  (as_bytes value).all (fun byte => is_ascii_alphanumeric byte || is_id_punctuation byte)
    && (as_bytes value).head?.any is_ascii_alphanumeric

def validate_text (value : String) : Bool :=
  !blank value && !(as_bytes value).contains 0

def validate_sorted_unique_ids (values : List String) : Bool :=
  values.all validate_stable_id && strictly_ascending values

end LocalVerification

/-! ## Failures and results -/

inductive BehaviorKind where
  | Acceptance
  | Verification
  | DefinitionOfDone
  deriving DecidableEq, Repr

inductive VerificationFailureCategory where
  | Timeout
  | PolicyBlock
  | ContractViolation
  | SourceDrift
  | Environment
  | Infrastructure
  | TestFailedUnclassified
  | ProductBug
  | TestFragility
  deriving DecidableEq, Repr

inductive FailureConfirmation where
  | Provisional
  | Confirmed
  deriving DecidableEq, Repr

structure VerificationFailure where
  contract_version : ContractVersion
  failure_id : String
  category : VerificationFailureCategory
  confirmation : FailureConfirmation
  supersedes_failure_id : Option String
  criterion_id : Option String
  summary : String
  recorded_at : DateTime
  deriving DecidableEq, Repr

/-- A product bug or a fragile test is confirmed exactly when it supersedes
another record. -/
def VerificationFailure.validate_confirmation (failure : VerificationFailure) : Bool :=
  match failure.category, failure.confirmation with
  | .ProductBug, .Provisional | .TestFragility, .Provisional =>
    failure.supersedes_failure_id.isNone
  | .ProductBug, .Confirmed | .TestFragility, .Confirmed => failure.supersedes_failure_id.isSome
  | _, _ => true

def VerificationFailure.validate (failure : VerificationFailure) : Bool :=
  failure.contract_version == LOCAL_VERIFICATION_CONTRACT_VERSION
    && LocalVerification.validate_stable_id failure.failure_id
    && LocalVerification.validate_text failure.summary
    && failure.criterion_id.all LocalVerification.validate_stable_id
    && (failure.supersedes_failure_id.all fun supersedes =>
      LocalVerification.validate_stable_id supersedes && supersedes != failure.failure_id)
    && failure.validate_confirmation

inductive VerificationVerdict where
  | Pass
  | Fail
  | Blocked
  | Timeout
  | Invalid
  deriving DecidableEq, Repr

inductive CriterionResultVerdict where
  | Pass
  | Fail
  | Blocked
  | Timeout
  | Invalid
  deriving DecidableEq, Repr

structure CriterionResult where
  criterion_id : String
  order : ℕ
  kind : BehaviorKind
  text : String
  verdict : CriterionResultVerdict
  deriving DecidableEq, Repr

structure VerificationFingerprints where
  source_pre : String
  source_post : String
  behavior_contract : String
  capability_set : String
  command : String
  policy : String
  environment : String
  deriving DecidableEq, Repr

def VerificationFingerprints.validate (fingerprints : VerificationFingerprints) : Bool :=
  [fingerprints.source_pre, fingerprints.source_post, fingerprints.behavior_contract,
    fingerprints.capability_set, fingerprints.command, fingerprints.policy,
    fingerprints.environment].all validate_sha256_digest

/-! ## Bundles -/

structure VerificationBundle where
  contract_version : ContractVersion
  bundle_id : String
  run_id : RunId
  goal_id : GoalId
  task_id : TaskId
  behavior_contract_id : String
  capability_ids : List String
  implementation_actor : WorkerId
  verifier_actor : WorkerId
  fingerprints : VerificationFingerprints
  criterion_results : List CriterionResult
  failures : List VerificationFailure
  verdict : VerificationVerdict
  created_at : DateTime
  deriving DecidableEq, Repr

def failure_matches_verdict :
    VerificationFailureCategory → VerificationVerdict → Bool
  | _, .Pass => false
  | category, .Timeout => category == .Timeout
  | category, .Blocked => category == .PolicyBlock || category == .Environment
      || category == .Infrastructure
  | category, .Invalid => category == .ContractViolation || category == .SourceDrift
  | category, .Fail => category == .TestFailedUnclassified || category == .ProductBug
      || category == .TestFragility || category == .Environment || category == .Infrastructure

namespace VerificationBundle

/-- The results, in order and without a criterion twice. The order of a result is
compared with its position as a `u32`. -/
def validate_results (bundle : VerificationBundle) : Bool :=
  (bundle.criterion_results.zipIdx.all fun p =>
    LocalVerification.validate_stable_id p.1.criterion_id
      && LocalVerification.validate_text p.1.text && p.1.order == p.2 % 2 ^ 32)
    && decide (bundle.criterion_results.map CriterionResult.criterion_id).Nodup

def validate_failures (bundle : VerificationBundle) : Bool :=
  (bundle.failures.all fun failure => failure.validate
    && failure.criterion_id.all fun criterion_id =>
      (bundle.criterion_results.map CriterionResult.criterion_id).contains criterion_id)
    && strictly_ascending (bundle.failures.map VerificationFailure.failure_id)

def validate_verdict (bundle : VerificationBundle) : Bool :=
  let drifted := bundle.fingerprints.source_pre != bundle.fingerprints.source_post
  let has_source_drift_failure := bundle.failures.any fun failure => failure.category == .SourceDrift
  match bundle.verdict with
  | .Pass => !bundle.criterion_results.isEmpty && bundle.failures.isEmpty
      && (bundle.criterion_results.all fun result => result.verdict == .Pass) && !drifted
  | verdict => (bundle.failures.any fun failure => failure_matches_verdict failure.category verdict)
      && !(drifted && !(verdict == .Invalid && has_source_drift_failure))
      && !(!drifted && has_source_drift_failure)

def validate (bundle : VerificationBundle) : Bool :=
  bundle.contract_version == LOCAL_VERIFICATION_CONTRACT_VERSION
    && [bundle.bundle_id, bundle.run_id, bundle.goal_id, bundle.task_id,
      bundle.behavior_contract_id].all LocalVerification.validate_stable_id
    && LocalVerification.validate_sorted_unique_ids bundle.capability_ids
    && LocalVerification.validate_stable_id bundle.implementation_actor
    && LocalVerification.validate_stable_id bundle.verifier_actor
    && bundle.implementation_actor != bundle.verifier_actor && bundle.fingerprints.validate
    && bundle.validate_results && bundle.validate_failures && bundle.validate_verdict

end VerificationBundle

/-! ## Transcripts -/

inductive VerificationTermination where
  | Completed
  | Timeout
  | OutputLimit
  | Invalid
  deriving DecidableEq, Repr

structure VerificationTranscriptCommandIdentity where
  sequence : ℕ
  command_digest : String
  executable_digest : String
  termination : VerificationTermination
  exit_code : Option ℤ
  stdout_sha256 : String
  stderr_sha256 : String
  stdout_bytes : ℕ
  stderr_bytes : ℕ
  deriving DecidableEq, Repr

structure VerificationTranscriptIdentity where
  commands : List VerificationTranscriptCommandIdentity
  deriving DecidableEq, Repr

def VerificationTranscriptCommandIdentity.validate_exit_code
    (command : VerificationTranscriptCommandIdentity) : Bool :=
  match command.termination with
  | .Completed => command.exit_code.isSome
  | .Timeout | .OutputLimit => command.exit_code.isNone
  | .Invalid => true

def VerificationTranscriptIdentity.validate (transcript : VerificationTranscriptIdentity) : Bool :=
  transcript.commands.zipIdx.all fun p =>
    p.1.sequence == p.2 % 2 ^ 32
      && [p.1.command_digest, p.1.executable_digest, p.1.stdout_sha256,
        p.1.stderr_sha256].all validate_sha256_digest
      && p.1.validate_exit_code

/-! ## The evidence bank -/

structure CasToken where
  generation : ℕ
  state_digest : String
  deriving DecidableEq, Repr

inductive StaleCause where
  | Behavior
  | CapabilitySet
  | CapabilityDefinition
  | Command
  | Policy
  | Source
  | Environment
  | Integrity
  deriving DecidableEq, Repr

/-- The causes are a set in the source; a list of them is its sorted iteration. -/
inductive EvidenceFreshness where
  | Current
  | Stale (causes : List StaleCause)
  deriving DecidableEq, Repr

def EvidenceFreshness.validate : EvidenceFreshness → Bool
  | .Current => true
  | .Stale causes => !causes.isEmpty

structure EvidenceCurrent where
  key : EvidenceKey
  bundle_id : String
  record_digest : String
  freshness : EvidenceFreshness
  token : CasToken
  deriving DecidableEq, Repr

/-- What the digest of a current row is taken of. -/
structure EvidenceStateDigestInput where
  key : EvidenceKey
  bundle_id : String
  record_digest : String
  freshness : EvidenceFreshness
  generation : ℕ
  deriving DecidableEq, Repr

/-- The canonical digests of verification contracts. -/
structure VerificationDigests extends ToolBoundaryDigests where
  bundle : VerificationBundle → String
  transcript : VerificationTranscriptIdentity → String
  evidence_state : EvidenceStateDigestInput → String

/-- `sha256`, which validates first. -/
def VerificationTranscriptIdentity.sha256 (sha256 : VerificationDigests)
    (transcript : VerificationTranscriptIdentity) : Option String :=
  if transcript.validate then some (sha256.transcript transcript) else none

def validate_generation (generation : ℕ) : Bool :=
  generation != 0 && decide (generation ≤ I64_MAX)

def EvidenceCurrent.validate_state_digest (sha256 : VerificationDigests)
    (current : EvidenceCurrent) : Bool :=
  current.freshness.validate && validate_sha256_digest current.record_digest
    && validate_generation current.token.generation
    && validate_sha256_digest current.token.state_digest
    && sha256.evidence_state
      { key := current.key
        bundle_id := current.bundle_id
        record_digest := current.record_digest
        freshness := current.freshness
        generation := current.token.generation } == current.token.state_digest

end OvcaCore

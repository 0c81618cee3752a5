/-
What the verifier makes of its events (`ovca-verifier/src/bundle.rs`).

An event of a verification does two things: it worsens the verdicts of the criteria
it concerns (`apply_verdict`), and it is recorded as a failure under an identity that
the request fixed in advance (`failure_for_event`). `build_bundle` puts the two
together and hands out only what the validator of the contracts accepts.
-/
import OvcaCore.BundleBindings
import OvcaCore.Lib.Checks
import OvcaCore.Lib.OrderedMaps
import Mathlib.Data.List.Sort

set_option autoImplicit false

namespace OvcaCore

open OvcaCore.Checks

/-! ## Failure identities -/

inductive FailureCode where
  | TestFailedUnclassified
  | PolicyBlock
  | EnvironmentBlock
  | ExecutableUnavailable
  | ExecutableTamper
  | CommandTimeout
  | OutputLimit
  | SourceDrift
  | SnapshotTamper
  deriving DecidableEq, Repr

structure FailureIdentityKey where
  failure_code : FailureCode
  command_sequence : Option ℕ
  deriving DecidableEq, Repr

/-- A `BTreeMap`, of which only the lookups and the sets of keys and of values are
used: entries without a key twice. -/
structure FailureIdentityMap where
  entries : List (FailureIdentityKey × String)
  unique : (entries.map Prod.fst).Nodup

def FailureIdentityMap.get (identities : FailureIdentityMap) (key : FailureIdentityKey) :
    Option String :=
  (identities.entries.find? fun entry => entry.1 == key).map Prod.snd

/-- The codes of a failure of one command. -/
def COMMAND_FAILURE_CODES : List FailureCode :=
  [.TestFailedUnclassified, .PolicyBlock, .EnvironmentBlock, .ExecutableUnavailable,
    .ExecutableTamper, .CommandTimeout, .OutputLimit]

/-- One identity for each code of each command and one for each code of the whole
verification. A command number must fit a `u32`. -/
def expected_failure_identity_keys (command_count : ℕ) : Option (List FailureIdentityKey) :=
  if command_count ≤ U32_MAX + 1 then
    some ((List.range command_count).flatMap (fun sequence =>
        COMMAND_FAILURE_CODES.map fun failure_code => ⟨failure_code, some sequence⟩)
      ++ [⟨.SourceDrift, none⟩, ⟨.SnapshotTamper, none⟩])
  else none

def valid_stable_id (value : String) : Bool := LocalVerification.validate_stable_id value

def validate_failure_identity_map (identities : FailureIdentityMap) (command_count : ℕ)
    (created_at : DateTime) : Bool :=
  created_at % 1000 == 0
    && ((expected_failure_identity_keys command_count).any fun expected =>
      ((identities.entries.map Prod.fst).all expected.contains)
        && expected.all (identities.entries.map Prod.fst).contains)
    && decide (identities.entries.map Prod.snd).Nodup
    && (identities.entries.map Prod.snd).all valid_stable_id

/-! ## Failures -/

structure FailureEvent where
  code : FailureCode
  command_sequence : Option ℕ
  pre_spawn : Bool
  deriving DecidableEq, Repr

inductive BundleBuildError where
  | InvalidFailureIdentity
  | InvalidBinding
  deriving DecidableEq, Repr

/-- `failure_shape`: the category, the confirmation and the summary of a failure. -/
def failure_shape (event : FailureEvent) :
    VerificationFailureCategory × FailureConfirmation × String :=
  match event.code with
  | .TestFailedUnclassified =>
    (.TestFailedUnclassified, .Provisional, "verification command exited nonzero")
  | .PolicyBlock => (.PolicyBlock, .Confirmed, "verification command policy blocked")
  | .EnvironmentBlock => (.Environment, .Confirmed, "verification environment policy blocked")
  | .ExecutableUnavailable =>
    (.Infrastructure, .Confirmed, "verification executable unavailable")
  | .ExecutableTamper => (.ContractViolation, .Confirmed,
      if event.pre_spawn then "verification executable digest mismatch"
      else "verification executable changed during execution")
  | .CommandTimeout => (.Timeout, .Confirmed, "verification command timed out")
  | .OutputLimit => (.PolicyBlock, .Confirmed, "verification output limit exceeded")
  | .SourceDrift => (.SourceDrift, .Confirmed, "verification source changed during execution")
  | .SnapshotTamper => (.ContractViolation, .Confirmed,
      "verification snapshot integrity mismatch")

def failure_for_event (event : FailureEvent) (identities : FailureIdentityMap)
    (created_at : DateTime) : Except BundleBuildError VerificationFailure := do
  let failure_id ← ok_or (identities.get ⟨event.code, event.command_sequence⟩)
    .InvalidFailureIdentity
  let (category, confirmation, summary) := failure_shape event
  return {
    contract_version := LOCAL_VERIFICATION_CONTRACT_VERSION
    failure_id := failure_id
    category := category
    confirmation := confirmation
    supersedes_failure_id := none
    criterion_id := none
    summary := summary
    recorded_at := created_at }

def push_failure_once (failures : List VerificationFailure) (failure : VerificationFailure) :
    List VerificationFailure :=
  if failures.all fun current => current.failure_id != failure.failure_id then
    failures ++ [failure]
  else failures

/-! ## Verdicts -/

abbrev CriterionVerdicts := BTreeMap String CriterionResultVerdict

/-- The worse of two verdicts; the current one, where none is worse. -/
def CriterionResultVerdict.worsened (current contribution : CriterionResultVerdict) :
    CriterionResultVerdict :=
  if current.rank < contribution.rank then contribution else current

/-- `entry(criterion_id).and_modify(..).or_insert(contribution)`. -/
def apply_verdict_to (contribution : CriterionResultVerdict) (verdicts : CriterionVerdicts)
    (criterion_id : String) : CriterionVerdicts :=
  verdicts.insert criterion_id
    ((verdicts[criterion_id]?).elim contribution fun current => current.worsened contribution)

def apply_verdict (verdicts : CriterionVerdicts) (criterion_ids : List String)
    (contribution : CriterionResultVerdict) : CriterionVerdicts :=
  criterion_ids.foldl (apply_verdict_to contribution) verdicts

/-- Every criterion of a contract with the same verdict. -/
def uniform_verdicts (criterion_ids : List String) (verdict : CriterionResultVerdict) :
    CriterionVerdicts :=
  .ofList (criterion_ids.map fun criterion_id => (criterion_id, verdict))

/-! ## Bundles -/

structure BundleBuildInput where
  behavior : BehavioralAcceptanceContract
  capabilities : List CapabilityDefinition
  selection : TargetedRerunSelection
  implementation_actor : WorkerId
  verifier_actor : WorkerId
  environment_digest : String
  source_pre : String
  source_post : String
  criterion_verdicts : CriterionVerdicts
  failures : List VerificationFailure
  transcript : VerificationTranscriptIdentity
  created_at : DateTime

def BehaviorCriterion.result (criterion : BehaviorCriterion) (verdict : CriterionResultVerdict) :
    CriterionResult where
  criterion_id := criterion.criterion_id
  order := criterion.order
  kind := criterion.kind
  text := criterion.text
  verdict := verdict

def criterion_result (verdicts : CriterionVerdicts) (criterion : BehaviorCriterion) :
    Except BundleBuildError CriterionResult := do
  let verdict ← ok_or (verdicts[criterion.criterion_id]?) .InvalidBinding
  return criterion.result verdict

/-- `failures.sort_by(|left, right| left.failure_id.cmp(&right.failure_id))`. -/
def sort_failures (failures : List VerificationFailure) : List VerificationFailure :=
  failures.insertionSort fun left right => left.failure_id ≤ right.failure_id

def build_bundle (json : VerificationJson) (input : BundleBuildInput) :
    Except BundleBuildError VerificationBundle := do
  let criterion_results ← map_checked (criterion_result input.criterion_verdicts)
    input.behavior.criteria
  let verdict ← ok_or ((worst_verdict criterion_results).map CriterionResultVerdict.bundle)
    .InvalidBinding
  let bundle_id ← ok_or (derive_verification_bundle_id json input.selection.run_id
    input.selection.goal_id input.selection.task_id input.selection.selection_digest
    input.transcript input.implementation_actor input.verifier_actor input.created_at)
    .InvalidBinding
  let behavior_contract ← ok_or (verification_behavior_digest json input.behavior)
    .InvalidBinding
  let capability_set ← ok_or (verification_capability_set_digest json input.selection)
    .InvalidBinding
  let command ← ok_or (verification_command_set_digest json input.capabilities) .InvalidBinding
  let policy ← ok_or (verification_policy_digest json input.capabilities) .InvalidBinding
  let bundle : VerificationBundle :=
    { contract_version := LOCAL_VERIFICATION_CONTRACT_VERSION
      bundle_id := bundle_id
      run_id := input.selection.run_id
      goal_id := input.selection.goal_id
      task_id := input.selection.task_id
      behavior_contract_id := input.behavior.contract_id
      capability_ids := input.selection.capability_ids
      implementation_actor := input.implementation_actor
      verifier_actor := input.verifier_actor
      fingerprints :=
        { source_pre := input.source_pre
          source_post := input.source_post
          behavior_contract := behavior_contract
          capability_set := capability_set
          command := command
          policy := policy
          environment := input.environment_digest }
      criterion_results := criterion_results
      failures := sort_failures input.failures
      verdict := verdict
      created_at := input.created_at }
  reject_if (validate_verification_bundle_bindings json input.behavior input.capabilities
    input.selection bundle input.transcript = false) .InvalidBinding
  return bundle

end OvcaCore

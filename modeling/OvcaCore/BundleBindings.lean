/-
The binding of a verification bundle
(`ovca-types/src/goal_runtime/local_verification.rs`).

A bundle is bound to the behavior contract, the capability definitions and the
selection it was made from, and to the transcript of its commands: by identity, by
the digests of its fingerprints, and by its own id, which is derived from the
transcript. Digests of a record that may be invalid are options.
-/
import OvcaCore.TargetedRerun
import Mathlib.Data.List.MinMax

set_option autoImplicit false

namespace OvcaCore

/-! ## Canonical bytes -/

structure VerificationCommandPayload where
  capability_id : String
  capability_revision : ℕ
  command_index : ℕ
  command : VerificationCommand
  deriving DecidableEq

structure CommandSetEntry where
  capability_id : String
  capability_revision : ℕ
  command_index : ℕ
  command_digest : String
  deriving DecidableEq, Repr

structure PolicySetEntry where
  capability_id : String
  capability_revision : ℕ
  policy : LocalMachinePolicy
  deriving DecidableEq

structure VerificationBundleIdentityPayload where
  run_id : RunId
  goal_id : GoalId
  task_id : TaskId
  selection_digest : String
  transcript_sha256 : String
  implementation_actor : WorkerId
  verifier_actor : WorkerId
  created_at : DateTime
  deriving DecidableEq, Repr

/-- The `serde_json` encodings of the payloads, each with the version string of its
kind in front. -/
structure VerificationJson extends SelectionJson where
  command : VerificationCommandPayload → List UInt8
  transcript : VerificationTranscriptIdentity → List UInt8
  bundle_identity : VerificationBundleIdentityPayload → List UInt8
  capability_set : List SelectedCapability → List UInt8
  command_set : List CommandSetEntry → List UInt8
  policy_set : List PolicySetEntry → List UInt8

/-- `canonical_json_lf`, after the encoding. -/
def canonical_json_lf (bytes : List UInt8) : List UInt8 := bytes ++ [10]

variable (json : VerificationJson)

/-! ## Digests -/

/-- A command by its position; the index must fit a `u32`. -/
def verification_command_digest (capability : CapabilityDefinition) (command_index : ℕ) :
    Option String := do
  let command ← capability.commands[command_index]?
  if command_index ≤ U32_MAX then
    some (verification_sha256_hex (canonical_json_lf (json.command
      { capability_id := capability.capability_id
        capability_revision := capability.revision
        command_index := command_index
        command := command })))
  else none

def verification_transcript_sha256 (transcript : VerificationTranscriptIdentity) : Option String :=
  if transcript.validate then
    some (verification_sha256_hex (canonical_json_lf (json.transcript transcript)))
  else none

def derive_verification_bundle_id (run_id : RunId) (goal_id : GoalId) (task_id : TaskId)
    (selection_digest : String) (transcript : VerificationTranscriptIdentity)
    (implementation_actor verifier_actor : WorkerId) (created_at : DateTime) : Option String :=
  if validate_sha256_digest selection_digest then
    (verification_transcript_sha256 json transcript).map fun transcript_sha256 =>
      "bundle.sha256." ++ verification_sha256_hex (canonical_json_lf (json.bundle_identity
        { run_id := run_id
          goal_id := goal_id
          task_id := task_id
          selection_digest := selection_digest
          transcript_sha256 := transcript_sha256
          implementation_actor := implementation_actor
          verifier_actor := verifier_actor
          created_at := created_at }))
  else none

def verification_behavior_digest (behavior : BehavioralAcceptanceContract) : Option String :=
  if behavior.validate then some (verification_sha256_hex (json.behavior behavior)) else none

def verification_selected_capability_set_digest (capabilities : List SelectedCapability) :
    Option String :=
  if validate_selected_capabilities capabilities then
    some (verification_sha256_hex (canonical_json_lf (json.capability_set capabilities)))
  else none

def verification_capability_set_digest (selection : TargetedRerunSelection) : Option String :=
  if selection.validate json.toSelectionJson then
    verification_selected_capability_set_digest json selection.capabilities
  else none

/-- The entry of one command of a set. The index is cast to a `u32`. -/
def command_set_entry (capability : CapabilityDefinition) (command_index : ℕ) :
    Option CommandSetEntry :=
  (verification_command_digest json capability command_index).map fun command_digest =>
    { capability_id := capability.capability_id
      capability_revision := capability.revision
      command_index := command_index % 2 ^ 32
      command_digest := command_digest }

def command_set_entries (capability : CapabilityDefinition) : Option (List CommandSetEntry) :=
  if capability.validate then
    (List.range capability.commands.length).mapM (command_set_entry json capability)
  else none

def verification_command_set_digest (capabilities : List CapabilityDefinition) : Option String :=
  (capabilities.mapM (command_set_entries json)).map fun entries =>
    verification_sha256_hex (canonical_json_lf (json.command_set entries.flatten))

def policy_set_entry (capability : CapabilityDefinition) : PolicySetEntry where
  capability_id := capability.capability_id
  capability_revision := capability.revision
  policy := capability.policy

def verification_policy_digest (capabilities : List CapabilityDefinition) : Option String :=
  if capabilities.all CapabilityDefinition.validate_non_command_fields then
    some (verification_sha256_hex (canonical_json_lf (json.policy_set
      (capabilities.map policy_set_entry))))
  else none

/-! ## The worst verdict -/

/-- `result_verdict_rank`, and `verdict_rank` of the verifier. -/
def CriterionResultVerdict.rank : CriterionResultVerdict → ℕ
  | .Pass => 0
  | .Fail => 1
  | .Blocked => 2
  | .Timeout => 3
  | .Invalid => 4

/-- `result_verdict_bundle`, and `bundle_verdict` of the verifier. -/
def CriterionResultVerdict.bundle : CriterionResultVerdict → VerificationVerdict
  | .Pass => .Pass
  | .Fail => .Fail
  | .Blocked => .Blocked
  | .Timeout => .Timeout
  | .Invalid => .Invalid

/-- `max_by_key` of the ranks. No two verdicts have the same rank. -/
def worst_verdict (results : List CriterionResult) : Option CriterionResultVerdict :=
  (results.map CriterionResult.verdict).argmax CriterionResultVerdict.rank

/-! ## The bindings -/

/-- A definition is the selected one: by id, by revision and by record digest. -/
def binds_selected (json : SelectionJson) (definition : CapabilityDefinition)
    (selected : SelectedCapability) : Bool :=
  definition.capability_id == selected.capability_id && definition.revision == selected.revision
    && verification_sha256_hex (json.capability definition) == selected.record_digest

def find_capability (capabilities : List CapabilityDefinition) (capability_id : String) :
    Option CapabilityDefinition :=
  capabilities.find? fun capability => capability.capability_id == capability_id

def find_criterion (criteria : List BehaviorCriterion) (criterion_id : String) :
    Option BehaviorCriterion :=
  criteria.find? fun criterion => criterion.criterion_id == criterion_id

/-- Every capability of a criterion is selected and names the criterion. The searched
lists are sorted, so that a binary search finds what is there. -/
def criterion_binds (capabilities : List CapabilityDefinition) (capability_ids : List String)
    (criterion : BehaviorCriterion) : Bool :=
  !criterion.capability_ids.isEmpty && criterion.capability_ids.all capability_ids.contains
    && criterion.capability_ids.all fun capability_id =>
      (find_capability capabilities capability_id).any fun capability =>
        capability.criterion_ids.contains criterion.criterion_id

/-- Every dependency of a capability is selected; every criterion it names is one of
the contract and names the capability. -/
def capability_binds (criteria : List BehaviorCriterion) (capability_ids : List String)
    (capability : CapabilityDefinition) : Bool :=
  capability.dependencies.all capability_ids.contains
    && capability.criterion_ids.all fun criterion_id =>
      (find_criterion criteria criterion_id).any fun criterion =>
        criterion.capability_ids.contains capability.capability_id

def result_binds (criterion : BehaviorCriterion) (result : CriterionResult) : Bool :=
  criterion.criterion_id == result.criterion_id && criterion.order == result.order
    && criterion.kind == result.kind && criterion.text == result.text

/-- The commands of a plan, in the order of the capabilities. -/
def planned (capabilities : List CapabilityDefinition) : List (CapabilityDefinition × ℕ) :=
  capabilities.flatMap fun capability =>
    (List.range capability.commands.length).map fun index => (capability, index)

namespace VerificationBundle

def binds_identity (behavior : BehavioralAcceptanceContract) (selection : TargetedRerunSelection)
    (bundle : VerificationBundle) : Bool :=
  behavior.bound_ids == some (selection.goal_id, selection.task_id)
    && bundle.run_id == selection.run_id && bundle.goal_id == selection.goal_id
    && bundle.task_id == selection.task_id
    && bundle.behavior_contract_id == behavior.contract_id

def binds_fingerprints (behavior : BehavioralAcceptanceContract)
    (capabilities : List CapabilityDefinition) (selection : TargetedRerunSelection)
    (bundle : VerificationBundle) : Bool :=
  verification_behavior_digest json behavior == some bundle.fingerprints.behavior_contract
    && verification_capability_set_digest json selection
      == some bundle.fingerprints.capability_set
    && verification_command_set_digest json capabilities == some bundle.fingerprints.command
    && verification_policy_digest json capabilities == some bundle.fingerprints.policy
    && selection.policy_digest == bundle.fingerprints.policy
    && bundle.fingerprints.source_pre == selection.source_fingerprint

/-- A passing verification has run every planned command, each with exit code zero. -/
def binds_transcript (capabilities : List CapabilityDefinition) (bundle : VerificationBundle)
    (transcript : VerificationTranscriptIdentity) : Bool :=
  !(planned capabilities).isEmpty
    && decide (transcript.commands.length ≤ (planned capabilities).length)
    && ((transcript.commands.zip (planned capabilities)).all fun p =>
      verification_command_digest json p.2.1 p.2.2 == some p.1.command_digest)
    && (bundle.verdict != .Pass
      || transcript.commands.length == (planned capabilities).length
        && transcript.commands.all fun entry =>
          entry.termination == .Completed && entry.exit_code == some 0)

def binds_verdict (bundle : VerificationBundle) : Bool :=
  (worst_verdict bundle.criterion_results).all fun worst => worst.bundle == bundle.verdict

/-- The failures of a verifier carry the time of the bundle and no other binding. -/
def binds_failures (bundle : VerificationBundle) : Bool :=
  bundle.failures.all fun failure => failure.recorded_at == bundle.created_at
    && failure.criterion_id.isNone && failure.supersedes_failure_id.isNone

def binds_id (selection : TargetedRerunSelection) (bundle : VerificationBundle)
    (transcript : VerificationTranscriptIdentity) : Bool :=
  derive_verification_bundle_id json bundle.run_id bundle.goal_id bundle.task_id
    selection.selection_digest transcript bundle.implementation_actor bundle.verifier_actor
    bundle.created_at == some bundle.bundle_id

end VerificationBundle

/-- `validate_verification_bundle_bindings`. -/
def validate_verification_bundle_bindings (behavior : BehavioralAcceptanceContract)
    (capabilities : List CapabilityDefinition) (selection : TargetedRerunSelection)
    (bundle : VerificationBundle) (transcript : VerificationTranscriptIdentity) : Bool :=
  behavior.validate && selection.validate json.toSelectionJson && bundle.validate
    && transcript.validate && bundle.binds_identity behavior selection
    && capabilities.length == selection.capabilities.length
    && ((capabilities.zip selection.capabilities).all fun p =>
      p.1.validate && binds_selected json.toSelectionJson p.1 p.2)
    && bundle.capability_ids == selection.capability_ids
    && bundle.criterion_results.length == behavior.criteria.length
    && ((behavior.criteria.zip bundle.criterion_results).all fun p =>
      result_binds p.1 p.2 && criterion_binds capabilities selection.capability_ids p.1)
    && capabilities.all (capability_binds behavior.criteria selection.capability_ids)
    && bundle.binds_fingerprints json behavior capabilities selection
    && bundle.binds_transcript json capabilities transcript && bundle.binds_verdict
    && bundle.binds_failures && bundle.binds_id json selection transcript

end OvcaCore

/-
The local verifier (`ovca-verifier/src/lib.rs`).

`verify_and_publish` rejects a malformed request, prepares every command, freezes the
source in a snapshot, runs the commands until one of them stops the run, looks at
source and snapshot once more, and hands the bundle it builds of all this to the
evidence bank. The model ends with the bundle: publication is the bank's.
-/
import OvcaCore.VerifierExecution

set_option autoImplicit false

namespace OvcaCore

open OvcaCore.Checks

inductive VerifierRequestRejectionCode where
  | InvalidContract
  | InvalidCrossBinding
  | InvalidActorIdentity
  | VerifierNotIndependent
  | InvalidSourceManifest
  | InvalidCommand
  | InvalidExecutionLimits
  | InvalidFailureIdentity
  | InvalidExecutableProfile
  deriving DecidableEq, Repr

structure VerifierRequest where
  behavior : BehavioralAcceptanceContract
  capabilities : List CapabilityDefinition
  selection : TargetedRerunSelection
  source_manifest : SourceManifest
  executable_registry : ExecutableRegistry
  environment_bindings : EnvironmentBindings
  environment_digest : String
  limits : ExecutionLimits
  implementation_actor : WorkerId
  verifier_actor : WorkerId
  created_at : DateTime
  failure_identities : FailureIdentityMap

/-- Everything the host answers in the course of one verification. What is asked of a
command is asked by its number in the plan. -/
structure HostAnswers where
  preflight : RootAnswers
  prepare : ℕ → Option (List UInt8)
  materialize : MaterializeAnswers
  recheck : ℕ → Option (List UInt8)
  command : ℕ → CommandAnswers
  source_post : TreeAnswer
  snapshot_post : TreeAnswer

inductive VerifierError where
  | Snapshot (error : SnapshotError)
  | Execution (error : ExecutionError)
  | Bundle (error : BundleBuildError)
  deriving DecidableEq, Repr

inductive VerifierOutcome where
  | Rejected (code : VerifierRequestRejectionCode)
  | Published (bundle : VerificationBundle) (transcript : VerificationTranscriptIdentity)
  deriving DecidableEq, Repr

/-! ## The plan -/

/-- A planned command, with its capability and the capabilities behind it. The source
keeps the two indices. -/
structure PlannedCommand where
  capability : CapabilityDefinition
  later : List CapabilityDefinition
  command_index : ℕ
  command : VerificationCommand

def planned_commands : List CapabilityDefinition → List PlannedCommand
  | [] => []
  | capability :: later =>
    (capability.commands.zipIdx.map fun p => ⟨capability, later, p.2, p.1⟩)
      ++ planned_commands later

namespace PlannedCommand

/-- `request.capabilities[capability_index..]`, by their criteria, as a set. -/
def remaining (planned : PlannedCommand) : List String :=
  let criterion_ids : BTreeSet String :=
    .ofList ((planned.capability :: planned.later).flatMap CapabilityDefinition.criterion_ids)
  criterion_ids.toList

end PlannedCommand

namespace VerifierRequest

def planned (request : VerifierRequest) : List PlannedCommand :=
  planned_commands request.capabilities

/-! ## Preflight -/

def valid_actor_id (value : WorkerId) : Bool := LocalVerification.validate_stable_id value

def environment_names (request : VerifierRequest) : BTreeSet String :=
  .ofList (request.capabilities.flatMap fun capability =>
    capability.commands.flatMap fun command => command.environment_names.toList)

/-- A definition is the selected one; its digest is compared only when its commands
are valid. -/
def selected_matches (json : VerifierJson) (definition : CapabilityDefinition)
    (selected : SelectedCapability) : Bool :=
  definition.capability_id == selected.capability_id && definition.revision == selected.revision
    && (!definition.validate_commands
      || verification_sha256_hex (json.capability definition) == selected.record_digest)

def validate_cross_bindings (json : VerifierJson) (request : VerifierRequest) : Bool :=
  request.behavior.bound_ids == some (request.selection.goal_id, request.selection.task_id)
    && request.capabilities.length == request.selection.capabilities.length
    && !request.capabilities.isEmpty
    && ((request.capabilities.zip request.selection.capabilities).all fun p =>
      selected_matches json p.1 p.2)
    && request.behavior.criteria.all
      (criterion_binds request.capabilities request.selection.capability_ids)
    && request.capabilities.all
      (capability_binds request.behavior.criteria request.selection.capability_ids)
    && verification_policy_digest json.toVerificationJson request.capabilities
      == some request.selection.policy_digest
    && valid_digest request.environment_digest
    && (!request.capabilities.all CapabilityDefinition.validate_commands
      || request.environment_bindings.digest_for request.environment_names
        == some request.environment_digest)

def structural_preflight (json : VerifierJson) (request : VerifierRequest)
    (answers : RootAnswers) : Except VerifierRequestRejectionCode Unit := do
  reject_if (request.behavior.validate = false) .InvalidContract
  reject_if (request.selection.validate json.toSelectionJson = false) .InvalidContract
  reject_if (request.capabilities.all CapabilityDefinition.validate_non_command_fields = false)
    .InvalidContract
  reject_if (request.validate_cross_bindings json = false) .InvalidCrossBinding
  let source_preflight := request.source_manifest.preflight_roots json answers
  reject_if (ok_and source_preflight fun fingerprint =>
    fingerprint != request.selection.source_fingerprint) .InvalidCrossBinding
  reject_if (valid_actor_id request.implementation_actor = false
    ∨ valid_actor_id request.verifier_actor = false) .InvalidActorIdentity
  reject_if (request.implementation_actor = request.verifier_actor) .VerifierNotIndependent
  let _ ← source_preflight.mapError fun _ => .InvalidSourceManifest
  reject_if (request.capabilities.all CapabilityDefinition.validate_commands = false)
    .InvalidCommand
  reject_if (request.limits.is_valid = false) .InvalidExecutionLimits
  reject_if (validate_failure_identity_map request.failure_identities request.planned.length
    request.created_at = false) .InvalidFailureIdentity
  reject_if (request.executable_registry.validate_structure = false) .InvalidExecutableProfile

/-! ## Events -/

/-- `runtime_preflight_shape`. -/
def runtime_preflight_shape : RuntimePreflightFailure → CriterionResultVerdict × FailureCode
  | .UnknownOrDisallowedProfile => (.Blocked, .PolicyBlock)
  | .EnvironmentBlock => (.Blocked, .EnvironmentBlock)
  | .ExecutableUnavailable => (.Blocked, .ExecutableUnavailable)
  | .ExecutableDigestMismatch => (.Invalid, .ExecutableTamper)

/-- `execution_shape`: what the transcript says, what the criteria get, what is recorded
as a failure, and whether the run stops. -/
def execution_shape (evidence : ExecutionEvidence) :
    VerificationTermination × CriterionResultVerdict × Option FailureCode × Bool :=
  match evidence.termination with
  | .Completed =>
    if evidence.exit_code = some 0 then (.Completed, .Pass, none, false)
    else (.Completed, .Fail, some .TestFailedUnclassified, false)
  | .Timeout => (.Timeout, .Timeout, some .CommandTimeout, true)
  | .OutputLimit => (.OutputLimit, .Blocked, some .OutputLimit, true)
  | .Invalid => (.Invalid, .Invalid, some .ExecutableTamper, true)

def drift_digest (kind : String) : String :=
  verification_sha256_hex (as_bytes ("ovca." ++ kind ++ "-drift.v1\n"))

def criterion_ids (request : VerifierRequest) : List String := request.behavior.criterion_ids

def failure_for (request : VerifierRequest) (event : FailureEvent) :
    Except VerifierError VerificationFailure :=
  (failure_for_event event request.failure_identities request.created_at).mapError .Bundle

/-! ## Publication -/

def publish (json : VerifierJson) (request : VerifierRequest) (verdicts : CriterionVerdicts)
    (failures : List VerificationFailure) (transcript : VerificationTranscriptIdentity)
    (source_pre source_post : String) : Except VerifierError VerifierOutcome := do
  let bundle ← (build_bundle json.toVerificationJson
    { behavior := request.behavior
      capabilities := request.capabilities
      selection := request.selection
      implementation_actor := request.implementation_actor
      verifier_actor := request.verifier_actor
      environment_digest := request.environment_digest
      source_pre := source_pre
      source_post := source_post
      criterion_verdicts := verdicts
      failures := failures
      transcript := transcript
      created_at := request.created_at }).mapError .Bundle
  return .Published bundle transcript

def publish_pre_spawn (json : VerifierJson) (request : VerifierRequest)
    (contribution : CriterionResultVerdict) (failure_code : FailureCode) (sequence : ℕ) :
    Except VerifierError VerifierOutcome := do
  let failure ← request.failure_for
    { code := failure_code
      command_sequence := some (sequence % 2 ^ 32)
      pre_spawn := failure_code == .ExecutableTamper }
  request.publish json (uniform_verdicts request.criterion_ids contribution) [failure] ⟨[]⟩
    request.selection.source_fingerprint request.selection.source_fingerprint

def publish_global_integrity (json : VerifierJson) (request : VerifierRequest)
    (failure_code : FailureCode) (source_pre source_post : String) :
    Except VerifierError VerifierOutcome := do
  let failure ← request.failure_for
    { code := failure_code, command_sequence := none, pre_spawn := false }
  request.publish json (uniform_verdicts request.criterion_ids .Invalid) [failure] ⟨[]⟩
    source_pre source_post

/-! ## The command loop -/

/-- The three accumulators of a verification. -/
structure Progress where
  verdicts : CriterionVerdicts
  failures : List VerificationFailure
  transcript : VerificationTranscriptIdentity

def start (request : VerifierRequest) : Progress where
  verdicts := uniform_verdicts request.criterion_ids .Pass
  failures := []
  transcript := ⟨[]⟩

/-- Every criterion is invalid, and the failure is recorded once. -/
def tampered (request : VerifierRequest) (progress : Progress) :
    Except VerifierError Progress := do
  let failure ← request.failure_for
    { code := .SnapshotTamper, command_sequence := none, pre_spawn := false }
  return { progress with
    verdicts := apply_verdict progress.verdicts request.criterion_ids .Invalid
    failures := push_failure_once progress.failures failure }

/-- A command is blocked right before its spawn: so are the capabilities that remain. -/
def blocked (request : VerifierRequest) (planned : PlannedCommand) (sequence : ℕ)
    (failure : RuntimePreflightFailure) (progress : Progress) : Except VerifierError Progress := do
  let (contribution, failure_code) := runtime_preflight_shape failure
  let recorded ← request.failure_for
    { code := failure_code
      command_sequence := some (sequence % 2 ^ 32)
      pre_spawn := failure_code == .ExecutableTamper }
  return { progress with
    verdicts := apply_verdict progress.verdicts planned.remaining contribution
    failures := progress.failures ++ [recorded] }

def transcript_entry (command_digest : String) (sequence : ℕ) (evidence : ExecutionEvidence) :
    VerificationTranscriptCommandIdentity where
  sequence := sequence % 2 ^ 32
  command_digest := command_digest
  executable_digest := evidence.executable_digest
  termination := (execution_shape evidence).1
  exit_code := evidence.exit_code
  stdout_sha256 := evidence.stdout_sha256
  stderr_sha256 := evidence.stderr_sha256
  stdout_bytes := evidence.stdout_bytes
  stderr_bytes := evidence.stderr_bytes

/-- The verdicts after an executed command: of its own criteria, and of all that remain
when the run stops here. -/
def executed_verdicts (planned : PlannedCommand) (evidence : ExecutionEvidence)
    (verdicts : CriterionVerdicts) : CriterionVerdicts :=
  let (_, contribution, _, terminal) := execution_shape evidence
  let own := apply_verdict verdicts planned.capability.criterion_ids contribution
  if terminal then apply_verdict own planned.remaining contribution else own

def executed (json : VerifierJson) (request : VerifierRequest) (planned : PlannedCommand)
    (sequence : ℕ) (evidence : ExecutionEvidence) (progress : Progress) :
    Except VerifierError Progress := do
  let command_digest ← ok_or (verification_command_digest json.toVerificationJson
    planned.capability planned.command_index) (.Bundle .InvalidBinding)
  let failures ← match (execution_shape evidence).2.2.1 with
    | none => pure progress.failures
    | some code => do
      let failure ← request.failure_for
        { code := code, command_sequence := some (sequence % 2 ^ 32), pre_spawn := false }
      pure (progress.failures ++ [failure])
  return {
    verdicts := executed_verdicts planned evidence progress.verdicts
    failures := failures
    transcript := ⟨progress.transcript.commands
      ++ [transcript_entry command_digest sequence evidence]⟩ }

/-- Does the loop break here? -/
def stops : PreparedExecution → Bool
  | .Executed evidence => (execution_shape evidence).2.2.2
  | _ => true

/-- One turn of the loop. -/
def turn (json : VerifierJson) (request : VerifierRequest) (planned : PlannedCommand)
    (sequence : ℕ) (progress : Progress) : PreparedExecution → Except VerifierError Progress
  | .Executed evidence => request.executed json planned sequence evidence progress
  | .SnapshotTamper => request.tampered progress
  | .PreSpawn failure => request.blocked planned sequence failure progress

/-- The loop over the commands from a number on. -/
def run_commands (json : VerifierJson) (request : VerifierRequest)
    (answers : ℕ → CommandAnswers) :
    ℕ → List (PlannedCommand × PreparedCommand) → Progress → Except VerifierError Progress
  | _, [], progress => .ok progress
  | sequence, (planned, prepared) :: rest, progress => do
    let execution ← (execute_prepared prepared (answers sequence)).mapError .Execution
    let progress ← request.turn json planned sequence progress execution
    if stops execution then .ok progress
    else run_commands json request answers (sequence + 1) rest progress

/-- The fingerprint of the source after the commands; the drift marker, where none can
be taken. -/
def source_post (json : VerifierJson) (request : VerifierRequest) (answer : TreeAnswer) :
    String :=
  match inspect_tree json request.source_manifest .Source answer with
  | .ok fingerprint => fingerprint
  | .error _ => drift_digest "source"

/-- A source that has changed makes every criterion invalid. -/
def check_source (request : VerifierRequest) (source_pre source_post : String)
    (progress : Progress) : Except VerifierError Progress :=
  if source_post = source_pre then .ok progress
  else do
    let failure ← request.failure_for
      { code := .SourceDrift, command_sequence := none, pre_spawn := false }
    return { progress with
      verdicts := apply_verdict progress.verdicts request.criterion_ids .Invalid
      failures := progress.failures ++ [failure] }

def check_snapshot (json : VerifierJson) (request : VerifierRequest) (answer : TreeAnswer)
    (progress : Progress) : Except VerifierError Progress :=
  if (inspect_tree json request.source_manifest .Snapshot answer).isOk then .ok progress
  else request.tampered progress

/-- The commands on the snapshot, and what is checked after them. -/
def verify_snapshot (json : VerifierJson) (request : VerifierRequest) (answers : HostAnswers)
    (prepared : List PreparedCommand) (source_pre : String) :
    Except VerifierError VerifierOutcome := do
  let ran ← request.run_commands json answers.command 0 (request.planned.zip prepared)
    request.start
  let source_post := request.source_post json answers.source_post
  let checked ← request.check_source source_pre source_post ran
  let final ← request.check_snapshot json answers.snapshot_post checked
  request.publish json final.verdicts final.failures final.transcript source_pre source_post

/-! ## The whole verification -/

def prepare_all (request : VerifierRequest) (answers : ℕ → Option (List UInt8)) :
    Except (ℕ × RuntimePreflightFailure) (List PreparedCommand) :=
  map_checked (fun p =>
    (request.executable_registry.prepare p.1.command request.environment_bindings
      (answers p.2)).mapError fun failure => (p.2, failure)) request.planned.zipIdx

/-- The first prepared command whose executable has changed. -/
def changed_executable (prepared : List PreparedCommand) (answers : ℕ → Option (List UInt8)) :
    Option ℕ :=
  (prepared.zipIdx.find? fun p => !p.1.digest_matches (answers p.2)).map Prod.snd

/-- `verify_and_publish`, up to the evidence bank. -/
def verify_and_publish (json : VerifierJson) (request : VerifierRequest) (answers : HostAnswers) :
    Except VerifierError VerifierOutcome :=
  match request.structural_preflight json answers.preflight with
  | .error code => .ok (.Rejected code)
  | .ok () =>
    match request.prepare_all answers.prepare with
    | .error (sequence, failure) =>
      let (verdict, failure_code) := runtime_preflight_shape failure
      request.publish_pre_spawn json verdict failure_code sequence
    | .ok prepared =>
      match materialize json request.source_manifest answers.materialize with
      | .error .SourceChanged | .error .SourceMismatch =>
        request.publish_global_integrity json .SourceDrift request.selection.source_fingerprint
          (drift_digest "source")
      | .error .SnapshotMismatch =>
        request.publish_global_integrity json .SnapshotTamper
          request.selection.source_fingerprint request.selection.source_fingerprint
      | .error error => .error (.Snapshot error)
      | .ok source_pre =>
        match changed_executable prepared answers.recheck with
        | some sequence => request.publish_pre_spawn json .Invalid .ExecutableTamper sequence
        | none => request.verify_snapshot json answers prepared source_pre

end VerifierRequest

end OvcaCore

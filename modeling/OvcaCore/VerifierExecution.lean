/-
What the verifier asks of its host (`ovca-verifier/src/execution.rs`,
`ovca-verifier/src/snapshot.rs`).

The host answers a question about a file with its bytes, a question about a tree with
the files found in it, and a spawned command with how its process ended. The
functions of the source are functions of these answers. Paths are those of a Unix
host.
-/
import OvcaCore.VerifierBundle

set_option autoImplicit false

namespace OvcaCore

open OvcaCore.Checks

/-! ## Limits and profiles -/

def MAX_TIMEOUT_MILLIS : ℕ := 86400000

def MAX_STREAM_CAP_BYTES : ℕ := 16777216

structure ExecutionLimits where
  timeout_millis : ℕ
  stdout_cap_bytes : ℕ
  stderr_cap_bytes : ℕ
  deriving DecidableEq, Repr

def ExecutionLimits.is_valid (limits : ExecutionLimits) : Bool :=
  decide (1 ≤ limits.timeout_millis) && decide (limits.timeout_millis ≤ MAX_TIMEOUT_MILLIS)
    && decide (limits.stdout_cap_bytes ≤ MAX_STREAM_CAP_BYTES)
    && decide (limits.stderr_cap_bytes ≤ MAX_STREAM_CAP_BYTES)

structure ExecutableProfile where
  executable_id : String
  executable_path : String
  sha256 : String
  enabled : Bool
  approved : Bool
  reviewed_offline : Bool
  allowed_environment_names : BTreeSet String

structure ExecutableRegistry where
  profiles : BTreeMap String ExecutableProfile

/-- A string of the host, which need not be UTF-8. -/
inductive OsString where
  | Utf8 (text : String)
  | Other (bytes : List UInt8)
  deriving DecidableEq, Repr

def OsString.to_str : OsString → Option String
  | .Utf8 text => some text
  | .Other _ => none

structure EnvironmentBindings where
  values : BTreeMap String OsString

def valid_digest (value : String) : Bool := validate_sha256_digest value

def valid_executable_id (value : String) : Bool :=
  LocalVerification.validate_stable_id value
    && as_bytes value == (as_bytes value).map to_ascii_lowercase
    && !LocalVerification.is_forbidden_verification_shell value

def valid_environment_name (value : String) : Bool :=
  LocalVerification.validate_environment_name value

/-- `path.components()` behind the root: no empty component and no `.`. -/
def path_components (path : String) : List (List UInt8) :=
  ((as_bytes path).splitOn 47).filter fun component => component != [] && component != [46]

/-- `Path::extension` of a file name: what stands behind the last dot, unless that dot
comes first. -/
def path_extension (name : List UInt8) : Option (List UInt8) :=
  if (name.drop 1).contains 46 then some ((name.reverse.takeWhile (· != 46)).reverse) else none

/-- The extensions `bat` and `cmd`, in any case. -/
def is_forbidden_batch_basename (name : List UInt8) : Bool :=
  (path_extension name).any fun extension =>
    [[98, 97, 116], [99, 109, 100]].contains (extension.map to_ascii_lowercase)

def valid_profile_path (path : String) : Bool :=
  (as_bytes path).head? == some 47
    && ((path_components path).getLast?.any fun basename =>
      !(LocalVerification.FORBIDDEN_SHELLS.map as_bytes).contains
        (basename.map to_ascii_lowercase) && !is_forbidden_batch_basename basename)
    && (path_components path).all fun component => component != [46, 46]

def ExecutableProfile.validate (profile : ExecutableProfile) (key : String) : Bool :=
  key == profile.executable_id && valid_executable_id key
    && valid_profile_path profile.executable_path && valid_digest profile.sha256
    && (!profile.enabled || profile.approved)
    && profile.allowed_environment_names.toList.all valid_environment_name

def ExecutableRegistry.validate_structure (registry : ExecutableRegistry) : Bool :=
  registry.profiles.toList.all fun entry => entry.2.validate entry.1

/-- The bytes of the environment values, with lengths in front. -/
def environment_bytes (bindings : EnvironmentBindings) : List String → Option (List UInt8)
  | [] => some []
  | name :: names => do
    let value ← bindings.values[name]?
    let text ← value.to_str
    let rest ← environment_bytes bindings names
    some (Sha256.to_be_bytes (UInt64.ofNat (as_bytes name).length) ++ as_bytes name
      ++ Sha256.to_be_bytes (UInt64.ofNat (as_bytes text).length) ++ as_bytes text ++ rest)

def EnvironmentBindings.digest_for (bindings : EnvironmentBindings) (names : BTreeSet String) :
    Option String :=
  (environment_bytes bindings names.toList).map fun bytes =>
    verification_sha256_hex (as_bytes "ovca.environment-bindings.v1" ++ 0 :: bytes)

/-! ## Executables -/

inductive RuntimePreflightFailure where
  | UnknownOrDisallowedProfile
  | EnvironmentBlock
  | ExecutableUnavailable
  | ExecutableDigestMismatch
  deriving DecidableEq, Repr

structure PreparedCommand where
  executable_path : String
  executable_digest : String
  environment : List (String × OsString)
  deriving DecidableEq, Repr

/-- The values of the environment of a command, each of them allowed and bound. -/
def prepare_environment (profile : ExecutableProfile) (bindings : EnvironmentBindings)
    (names : List String) : Except RuntimePreflightFailure (List (String × OsString)) :=
  map_checked (fun name => do
    reject_if (¬ name ∈ profile.allowed_environment_names) .EnvironmentBlock
    let value ← ok_or (bindings.values[name]?) .EnvironmentBlock
    return (name, value)) names

/-- Compares an executable with a digest. No bytes are read from what is not an
ordinary file. -/
def check_executable (executable : Option (List UInt8)) (digest : String) :
    Except RuntimePreflightFailure Unit := do
  let bytes ← ok_or executable .ExecutableUnavailable
  reject_if (verification_sha256_hex bytes ≠ digest) .ExecutableDigestMismatch

def ExecutableRegistry.prepare (registry : ExecutableRegistry) (command : VerificationCommand)
    (bindings : EnvironmentBindings) (executable : Option (List UInt8)) :
    Except RuntimePreflightFailure PreparedCommand := do
  let profile ← ok_or (registry.profiles[command.executable_id]?) .UnknownOrDisallowedProfile
  reject_if (¬ profile.enabled ∨ ¬ profile.approved ∨ ¬ profile.reviewed_offline)
    .UnknownOrDisallowedProfile
  let environment ← prepare_environment profile bindings command.environment_names.toList
  check_executable executable profile.sha256
  return {
    executable_path := profile.executable_path
    executable_digest := profile.sha256
    environment := environment }

/-- `check_immediately_before_spawn`. -/
def PreparedCommand.check_immediately_before_spawn (command : PreparedCommand)
    (executable : Option (List UInt8)) : Except RuntimePreflightFailure Unit :=
  check_executable executable command.executable_digest

def PreparedCommand.digest_matches (command : PreparedCommand)
    (executable : Option (List UInt8)) : Bool :=
  (command.check_immediately_before_spawn executable).isOk

/-! ## Processes -/

inductive ExecutionTermination where
  | Completed
  | Timeout
  | OutputLimit
  | Invalid
  deriving DecidableEq, Repr

structure ExecutionEvidence where
  executable_digest : String
  termination : ExecutionTermination
  exit_code : Option ℤ
  stdout_sha256 : String
  stderr_sha256 : String
  stdout_bytes : ℕ
  stderr_bytes : ℕ
  deriving DecidableEq, Repr

inductive PreparedExecution where
  | PreSpawn (failure : RuntimePreflightFailure)
  | SnapshotTamper
  | Executed (evidence : ExecutionEvidence)
  deriving DecidableEq, Repr

inductive ExecutionError where
  | Containment
  | Spawn
  | Io
  | CaptureWorker
  deriving DecidableEq, Repr

/-- A process has an exit code unless a signal ended it. -/
inductive ExitStatus where
  | Code (code : ℤ)
  | Signal (signal : ℤ)
  deriving DecidableEq, Repr

/-- How the loop around a running process ends: it is terminated for its output or
for its time, or it has exited. -/
inductive ProcessEnd where
  | OutputLimit
  | Timeout
  | Exited (status : ExitStatus)
  deriving DecidableEq, Repr

/-- A process that was run: how it ended, whether a stream went over its cap, what was
captured of the streams, and the executable as it is read afterwards. -/
structure ProcessRun where
  process_end : ProcessEnd
  overflow : Bool
  stdout : List UInt8
  stderr : List UInt8
  executable_after : Option (List UInt8)

/-- `exit_code`: the code, or the negated signal. -/
def exit_code : ExitStatus → Option ℤ
  | .Code code => some code
  | .Signal signal => some (-signal)

def ProcessRun.exit_status (run : ProcessRun) : Option ExitStatus :=
  match run.process_end with
  | .Exited status => some status
  | _ => none

def ProcessRun.termination (run : ProcessRun) (executable_digest : String) :
    ExecutionTermination :=
  if run.executable_after.map verification_sha256_hex ≠ some executable_digest then .Invalid
  else if run.overflow ∨ run.process_end = .OutputLimit then .OutputLimit
  else if run.process_end = .Timeout then .Timeout
  else .Completed

def execution_evidence (prepared : PreparedCommand) (run : ProcessRun) : ExecutionEvidence :=
  let termination := run.termination prepared.executable_digest
  { executable_digest := prepared.executable_digest
    termination := termination
    exit_code :=
      if termination = .Completed ∨ termination = .Invalid then run.exit_status.bind exit_code
      else none
    stdout_sha256 := verification_sha256_hex run.stdout
    stderr_sha256 := verification_sha256_hex run.stderr
    stdout_bytes := run.stdout.length
    stderr_bytes := run.stderr.length }

/-- What the host answers while one command is executed: is the working directory an
ordinary directory of the snapshot, what is read of the executable before the spawn,
and how the process ends. -/
structure CommandAnswers where
  cwd_acquired : Bool
  executable : Option (List UInt8)
  run : Except ExecutionError ProcessRun

def execute_prepared (prepared : PreparedCommand) (answers : CommandAnswers) :
    Except ExecutionError PreparedExecution :=
  if answers.cwd_acquired then
    match prepared.check_immediately_before_spawn answers.executable with
    | .ok () => answers.run.map fun run => .Executed (execution_evidence prepared run)
    | .error failure => .ok (.PreSpawn failure)
  else .ok .SnapshotTamper

/-! ## Snapshots -/

structure SourceFile where
  logical_path : String
  sha256 : String
  deriving DecidableEq, Repr

structure SourceManifest where
  files : List SourceFile
  deriving DecidableEq, Repr

inductive SnapshotError where
  | InvalidManifest
  | InvalidSourceRoot
  | InvalidSnapshotRoot
  | SourceMismatch
  | SourceChanged
  | SnapshotMismatch
  | Io
  deriving DecidableEq, Repr

inductive TreeKind where
  | Source
  | Snapshot
  deriving DecidableEq, Repr

/-- The files found in a tree, or the error of the search. -/
abbrev TreeAnswer := Except SnapshotError (List SourceFile)

/-- The encodings of the verifier's own payloads. -/
structure VerifierJson extends VerificationJson where
  source_manifest : List SourceFile → List UInt8

namespace SourceManifest

def validate (manifest : SourceManifest) : Bool :=
  !manifest.files.isEmpty
    && (manifest.files.all fun file => LocalVerification.validate_logical_path file.logical_path
      && validate_sha256_digest file.sha256)
    && strictly_ascending (manifest.files.map SourceFile.logical_path)

def fingerprint (json : VerifierJson) (manifest : SourceManifest) : Except SnapshotError String := do
  reject_if (manifest.validate = false) .InvalidManifest
  return verification_sha256_hex (canonical_json_lf (json.source_manifest manifest.files))

end SourceManifest

def TreeKind.mismatch : TreeKind → SnapshotError
  | .Source => .SourceMismatch
  | .Snapshot => .SnapshotMismatch

/-- `discovered.sort_by(|left, right| left.logical_path.cmp(&right.logical_path))`. -/
def sort_files (files : List SourceFile) : List SourceFile :=
  files.insertionSort fun left right => left.logical_path ≤ right.logical_path

def inspect_tree (json : VerifierJson) (manifest : SourceManifest) (kind : TreeKind)
    (answer : TreeAnswer) : Except SnapshotError String := do
  let discovered ← answer
  reject_if (sort_files discovered ≠ manifest.files) kind.mismatch
  manifest.fingerprint json

/-- What the host answers about the two roots: are they usable, and what is in the
source tree? -/
structure RootAnswers where
  roots : Except SnapshotError Unit
  source : TreeAnswer

def SourceManifest.preflight_roots (json : VerifierJson) (manifest : SourceManifest)
    (answers : RootAnswers) : Except SnapshotError String := do
  reject_if (manifest.validate = false) .InvalidManifest
  answers.roots
  inspect_tree json manifest .Source answers.source

/-- `SourceMismatch => SourceChanged, other => other`. -/
def SnapshotError.changed : SnapshotError → SnapshotError
  | .SourceMismatch => .SourceChanged
  | other => other

/-- What the host answers while a snapshot is made: the roots again, the digest of each
copy, and the two trees afterwards. -/
structure MaterializeAnswers where
  roots : RootAnswers
  copied : ℕ → Except SnapshotError String
  source : TreeAnswer
  snapshot : TreeAnswer

/-- One copied file has the digest of the manifest. -/
def check_copy (copied : ℕ → Except SnapshotError String) (p : SourceFile × ℕ) :
    Except SnapshotError Unit := do
  let digest ← copied p.2
  reject_if (digest ≠ p.1.sha256) .SourceChanged

/-- `FrozenSnapshot::materialize`: the fingerprint of the source before the copy. -/
def materialize (json : VerifierJson) (manifest : SourceManifest) (answers : MaterializeAnswers) :
    Except SnapshotError String := do
  let source_pre ← manifest.preflight_roots json answers.roots
  check_all manifest.files.zipIdx (check_copy answers.copied)
  let source_post ← (inspect_tree json manifest .Source answers.source).mapError
    SnapshotError.changed
  reject_if (source_pre ≠ source_post) .SourceChanged
  let _ ← inspect_tree json manifest .Snapshot answers.snapshot
  return source_pre

end OvcaCore

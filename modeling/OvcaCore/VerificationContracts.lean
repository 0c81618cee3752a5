/-
Behavior contracts and capability definitions
(`ovca-types/src/goal_runtime/local_verification.rs`).

A behavior contract lists the criteria of a task, each with the capabilities that
check it; a capability definition lists the commands that check its criteria, under
a machine policy. The validators are predicates, for the reason given in
`OvcaCore.ControlPlane`: every caller maps their errors to one of its own.
-/
import OvcaCore.LocalVerification

set_option autoImplicit false

namespace OvcaCore

namespace LocalVerification

/-! ## Text -/

/-- `validate_logical_path` of `local_verification.rs`. Its paths may be any text
without control characters; a leading slash gives an empty segment. -/
def validate_logical_path (value : String) : Bool :=
  !(as_bytes value).isEmpty
    && ((as_bytes value).all fun byte => 0x1f < byte && byte != 0x7f && byte != 92 && byte != 58)
    && ((as_bytes value).splitOn 47).all fun segment =>
      !segment.isEmpty && segment != [46] && segment != [46, 46]

def FORBIDDEN_SHELLS : List String :=
  ["sh", "sh.exe", "bash", "bash.exe", "zsh", "zsh.exe", "cmd", "cmd.exe", "powershell",
    "powershell.exe", "pwsh", "pwsh.exe"]

def is_forbidden_verification_shell (value : String) : Bool :=
  (FORBIDDEN_SHELLS.map as_bytes).contains ((as_bytes value).map to_ascii_lowercase)

def validate_executable_id (value : String) : Bool :=
  validate_stable_id value && as_bytes value == (as_bytes value).map to_ascii_lowercase
    && !is_forbidden_verification_shell value

def is_ascii_alphabetic (byte : UInt8) : Bool :=
  (65 ≤ byte && byte ≤ 90) || (97 ≤ byte && byte ≤ 122)

/-- `window[0].is_ascii_alphabetic() && window[1] == b':' && window[2] == b'/'`, of
some window. -/
def drive_absolute_anywhere : List UInt8 → Bool
  | a :: b :: c :: bytes => (is_ascii_alphabetic a && b == 58 && c == 47)
      || drive_absolute_anywhere (b :: c :: bytes)
  | _ => false

/-- Some letter is followed by a colon, and the colon by neither a colon nor a slash. -/
def drive_or_scheme_like_single_colon_anywhere : List UInt8 → Bool
  | a :: b :: bytes => (is_ascii_alphabetic a && b == 58
        && bytes.head? != some 58 && bytes.head? != some 47)
      || drive_or_scheme_like_single_colon_anywhere (b :: bytes)
  | _ => false

/-- What follows the first letter of a scheme: is its first colon a single one? -/
def scheme_ends_in_single_colon : List UInt8 → Bool
  | [] => false
  | byte :: bytes =>
    if byte = 58 then bytes.head? != some 58
    else if is_ascii_alphanumeric byte || byte == 43 || byte == 45 || byte == 46 then
      scheme_ends_in_single_colon bytes
    else false

def scheme_at_boundary : List UInt8 → Bool
  | [] => false
  | first :: bytes => is_ascii_alphabetic first && scheme_ends_in_single_colon bytes

def argv_reference_is_unsafe (candidate : List UInt8) : Bool :=
  candidate.head? == some 47 || drive_absolute_anywhere candidate
    || drive_or_scheme_like_single_colon_anywhere candidate || scheme_at_boundary candidate
    || candidate.tails.any fun suffix => suffix.take 3 == [58, 47, 47]

/-- What stands behind some `=`. -/
def suffixes_after_equals (bytes : List UInt8) : List (List UInt8) :=
  bytes.tails.filterMap fun
    | 61 :: suffix => some suffix
    | _ => none

def validate_argv_token (value : String) : Bool :=
  ((as_bytes value).all fun byte => 0x1f < byte && byte != 0x7f && byte != 92)
    && (as_bytes value :: suffixes_after_equals (as_bytes value)).all fun candidate =>
      ! argv_reference_is_unsafe candidate

def is_ascii_uppercase (byte : UInt8) : Bool := 65 ≤ byte && byte ≤ 90

def validate_environment_name (value : String) : Bool :=
  match as_bytes value with
  | [] => false
  | first :: bytes => (is_ascii_uppercase first || first == 95)
      && bytes.all fun byte => is_ascii_uppercase byte || is_ascii_digit byte || byte == 95

end LocalVerification

/-! ## Behavior contracts -/

inductive BehaviorBinding where
  | Bound (goal_id : GoalId) (task_id : TaskId)
  | Unbound
  deriving DecidableEq, Repr

structure BehaviorCriterion where
  criterion_id : String
  order : ℕ
  kind : BehaviorKind
  text : String
  required : Bool
  capability_ids : List String
  deriving DecidableEq, Repr

structure BehavioralAcceptanceContract where
  contract_version : ContractVersion
  contract_id : String
  binding : BehaviorBinding
  criteria : List BehaviorCriterion
  deriving DecidableEq, Repr

def BehaviorBinding.validate : BehaviorBinding → Bool
  | .Bound goal_id task_id => LocalVerification.validate_stable_id goal_id
      && LocalVerification.validate_stable_id task_id
  | .Unbound => true

namespace BehavioralAcceptanceContract

/-- The criteria, in order and without an id twice. The order of a criterion is
compared with its position as a `u32`. -/
def validate_criteria (criteria : List BehaviorCriterion) : Bool :=
  (criteria.zipIdx.all fun p =>
    LocalVerification.validate_stable_id p.1.criterion_id && p.1.order == p.2 % 2 ^ 32
      && LocalVerification.validate_text p.1.text
      && LocalVerification.validate_sorted_unique_ids p.1.capability_ids)
    && decide (criteria.map BehaviorCriterion.criterion_id).Nodup

def validate (behavior : BehavioralAcceptanceContract) : Bool :=
  behavior.contract_version == LOCAL_VERIFICATION_CONTRACT_VERSION
    && LocalVerification.validate_stable_id behavior.contract_id && behavior.binding.validate
    && !behavior.criteria.isEmpty && validate_criteria behavior.criteria

def criterion_ids (behavior : BehavioralAcceptanceContract) : List String :=
  behavior.criteria.map BehaviorCriterion.criterion_id

def bound_ids (behavior : BehavioralAcceptanceContract) : Option (GoalId × TaskId) :=
  match behavior.binding with
  | .Bound goal_id task_id => some (goal_id, task_id)
  | .Unbound => none

end BehavioralAcceptanceContract

/-! ## Capability definitions -/

inductive PathSelectorKind where
  | Exact
  | Prefix
  deriving DecidableEq, Repr

structure ChangedPathSelector where
  kind : PathSelectorKind
  path : String
  deriving DecidableEq, Repr

inductive DeniedAccess where
  | Denied
  deriving DecidableEq, Repr

inductive ShellPolicy where
  | Forbidden
  deriving DecidableEq, Repr

inductive DigestAlgorithm where
  | Sha256
  deriving DecidableEq, Repr

structure LocalMachinePolicy where
  local_only : Bool
  network : DeniedAccess
  provider : DeniedAccess
  telemetry : DeniedAccess
  egress : DeniedAccess
  external_evidence : DeniedAccess
  external_storage : DeniedAccess
  raw_shell : ShellPolicy
  inherit_environment : Bool
  fingerprint_algorithm : DigestAlgorithm
  allowed_executable_ids : BTreeSet String
  allowed_environment_names : BTreeSet String
  deriving DecidableEq

inductive WorkingDirectory where
  | SnapshotRoot
  | Relative (path : String)
  deriving DecidableEq, Repr

structure VerificationCommand where
  command_id : String
  executable_id : String
  argv : List String
  cwd : WorkingDirectory
  environment_names : BTreeSet String
  deriving DecidableEq

structure CapabilityDefinition where
  contract_version : ContractVersion
  capability_id : String
  revision : ℕ
  criterion_ids : List String
  dependencies : List String
  changed_path_selectors : List ChangedPathSelector
  policy : LocalMachinePolicy
  commands : List VerificationCommand
  deriving DecidableEq

def LocalMachinePolicy.validate (policy : LocalMachinePolicy) : Bool :=
  policy.local_only && !policy.inherit_environment && !policy.allowed_executable_ids.isEmpty
    && policy.allowed_executable_ids.toList.all LocalVerification.validate_executable_id
    && policy.allowed_environment_names.toList.all LocalVerification.validate_environment_name

def WorkingDirectory.validate : WorkingDirectory → Bool
  | .SnapshotRoot => true
  | .Relative path => LocalVerification.validate_logical_path path

def VerificationCommand.validate (command : VerificationCommand) (policy : LocalMachinePolicy) :
    Bool :=
  LocalVerification.validate_stable_id command.command_id
    && LocalVerification.validate_executable_id command.executable_id
    && policy.allowed_executable_ids.contains command.executable_id && command.cwd.validate
    && command.argv.all LocalVerification.validate_argv_token
    && command.environment_names.toList.all fun name =>
      LocalVerification.validate_environment_name name
        && policy.allowed_environment_names.contains name

/-- `(kind, path)`, compared as a pair. -/
def ChangedPathSelector.lt (selector selector' : ChangedPathSelector) : Bool :=
  match selector.kind, selector'.kind with
  | .Exact, .Prefix => true
  | .Prefix, .Exact => false
  | _, _ => decide (selector.path < selector'.path)

/-- No selector of a pair of neighbours is at or after the next one. -/
def selectors_ascending : List ChangedPathSelector → Bool
  | a :: b :: selectors => a.lt b && selectors_ascending (b :: selectors)
  | _ => true

namespace CapabilityDefinition

/-- The fields that do not depend on the command array. -/
def validate_non_command_fields (capability : CapabilityDefinition) : Bool :=
  capability.contract_version == LOCAL_VERIFICATION_CONTRACT_VERSION
    && LocalVerification.validate_stable_id capability.capability_id && capability.revision != 0
    && LocalVerification.validate_sorted_unique_ids capability.criterion_ids
    && LocalVerification.validate_sorted_unique_ids capability.dependencies
    && !capability.dependencies.contains capability.capability_id && capability.policy.validate
    && (capability.changed_path_selectors.all fun selector =>
      LocalVerification.validate_logical_path selector.path)
    && selectors_ascending capability.changed_path_selectors

/-- Only the shape of the command array and the fields of the commands. -/
def validate_commands (capability : CapabilityDefinition) : Bool :=
  !capability.commands.isEmpty
    && (capability.commands.all fun command => command.validate capability.policy)
    && strictly_ascending (capability.commands.map VerificationCommand.command_id)

def validate (capability : CapabilityDefinition) : Bool :=
  capability.validate_non_command_fields && capability.validate_commands

end CapabilityDefinition

end OvcaCore

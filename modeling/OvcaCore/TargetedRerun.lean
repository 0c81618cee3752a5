/-
Targeted reruns: the selection of the capabilities that have to check a change
(`ovca-types/src/goal_runtime/local_verification/targeted_rerun.rs`).

The canonical bytes of a record are its `serde_json` encoding, which is a parameter
(`SelectionJson`); its digest is the `verification_sha256_hex` of them.
-/
import OvcaCore.VerificationContracts
import OvcaCore.VerificationDigest

set_option autoImplicit false

namespace OvcaCore

/-! ## Changed paths -/

inductive ChangedPathKind where
  | Added
  | Modified
  | Deleted
  | Renamed
  deriving DecidableEq, Repr

/-- The derived order of the kinds. -/
def ChangedPathKind.rank : ChangedPathKind → ℕ
  | .Added => 0
  | .Modified => 1
  | .Deleted => 2
  | .Renamed => 3

structure ChangedPathEntry where
  kind : ChangedPathKind
  path : String
  previous_path : Option String
  deriving DecidableEq, Repr

structure ChangedPathManifest where
  entries : List ChangedPathEntry
  deriving DecidableEq, Repr

namespace ChangedPathEntry

def validate (entry : ChangedPathEntry) : Bool :=
  LocalVerification.validate_logical_path entry.path &&
    match entry.kind, entry.previous_path with
    | .Renamed, some previous_path => LocalVerification.validate_logical_path previous_path
        && previous_path != entry.path
    | .Renamed, none => false
    | _, some _ => false
    | _, none => true

/-- `(path, kind, previous_path)`, compared as a triple. -/
def lt (entry entry' : ChangedPathEntry) : Bool :=
  decide (entry.path < entry'.path) || entry.path == entry'.path &&
    (decide (entry.kind.rank < entry'.kind.rank) || entry.kind == entry'.kind &&
      decide (entry.previous_path.getD "" < entry'.previous_path.getD ""))

def logical_paths (entry : ChangedPathEntry) : List String :=
  entry.path :: entry.previous_path.toList

end ChangedPathEntry

def entries_ascending : List ChangedPathEntry → Bool
  | a :: b :: entries => a.lt b && entries_ascending (b :: entries)
  | _ => true

namespace ChangedPathManifest

def logical_paths (manifest : ChangedPathManifest) : List String :=
  manifest.entries.flatMap ChangedPathEntry.logical_paths

/-- Entries in order, none of whose paths is affected twice. -/
def validate (manifest : ChangedPathManifest) : Bool :=
  manifest.entries.all ChangedPathEntry.validate && entries_ascending manifest.entries
    && decide manifest.logical_paths.Nodup

end ChangedPathManifest

/-! ## Selections -/

inductive UnknownPathPolicy where
  | FullSafe
  | Blocked
  deriving DecidableEq, Repr

inductive TargetedRerunMode where
  | Targeted
  | FullSafe
  deriving DecidableEq, Repr

structure SelectedCapability where
  capability_id : String
  revision : ℕ
  record_digest : String
  deriving DecidableEq, Repr

/-- What the digest of a selection is taken of: every field but the digest. -/
structure SelectionDigestPayload where
  contract_version : ContractVersion
  run_id : RunId
  goal_id : GoalId
  task_id : TaskId
  source_fingerprint : String
  policy_digest : String
  unknown_path_policy : UnknownPathPolicy
  registry_snapshot_digest : String
  changed_path_manifest : ChangedPathManifest
  changed_path_manifest_digest : String
  mode : TargetedRerunMode
  unknown_paths : List String
  capabilities : List SelectedCapability
  deriving DecidableEq, Repr

structure TargetedRerunSelection extends SelectionDigestPayload where
  selection_digest : String
  deriving DecidableEq, Repr

/-- The `serde_json` encodings that a selection is bound to. -/
structure SelectionJson where
  behavior : BehavioralAcceptanceContract → List UInt8
  capability : CapabilityDefinition → List UInt8
  changed_path_manifest : ChangedPathManifest → List UInt8
  selection : SelectionDigestPayload → List UInt8

def SelectedCapability.validate (capability : SelectedCapability) : Bool :=
  LocalVerification.validate_stable_id capability.capability_id && capability.revision != 0
    && validate_sha256_digest capability.record_digest

/-- A set of selected capabilities: not empty, valid, and strictly sorted by id. -/
def validate_selected_capabilities (capabilities : List SelectedCapability) : Bool :=
  !capabilities.isEmpty && capabilities.all SelectedCapability.validate
    && strictly_ascending (capabilities.map SelectedCapability.capability_id)

namespace TargetedRerunSelection

variable (json : SelectionJson)

def expected_selection_digest (selection : TargetedRerunSelection) : String :=
  verification_sha256_hex (json.selection selection.toSelectionDigestPayload)

def validate_unknown_paths (selection : TargetedRerunSelection) : Bool :=
  (selection.unknown_paths.all fun path => LocalVerification.validate_logical_path path
    && selection.changed_path_manifest.logical_paths.contains path)
    && strictly_ascending selection.unknown_paths

def validate_mode (selection : TargetedRerunSelection) : Bool :=
  match selection.mode with
  | .Targeted => selection.unknown_paths.isEmpty
  | .FullSafe => selection.unknown_path_policy == .FullSafe && !selection.unknown_paths.isEmpty

def validate (selection : TargetedRerunSelection) : Bool :=
  selection.contract_version == LOCAL_VERIFICATION_CONTRACT_VERSION
    && [selection.run_id, selection.goal_id, selection.task_id].all
      LocalVerification.validate_stable_id
    && [selection.source_fingerprint, selection.policy_digest,
      selection.registry_snapshot_digest].all validate_sha256_digest
    && selection.changed_path_manifest.validate
    && validate_sha256_digest selection.changed_path_manifest_digest
    && verification_sha256_hex (json.changed_path_manifest selection.changed_path_manifest)
      == selection.changed_path_manifest_digest
    && selection.validate_unknown_paths && validate_selected_capabilities selection.capabilities
    && selection.validate_mode && validate_sha256_digest selection.selection_digest
    && selection.expected_selection_digest json == selection.selection_digest

def capability_ids (selection : TargetedRerunSelection) : List String :=
  selection.capabilities.map SelectedCapability.capability_id

end TargetedRerunSelection

end OvcaCore

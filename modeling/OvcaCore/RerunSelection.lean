/-
The selection of a targeted rerun: which capabilities have to check a change
(`select_targeted_rerun` of `goal_runtime/local_verification/targeted_rerun.rs`).

The registry is checked row by row and its dependencies are checked for absent names and for
cycles; then the affected paths are matched with the selectors of the capabilities. The texts of
the errors are left out, and of their codes what the selection decides on. A search is given a
bound on its rounds, and the selection is none if a bound is too small.
-/
import OvcaCore.Lib.Checks
import OvcaCore.Lib.GraphSearch
import OvcaCore.TargetedRerun

set_option autoImplicit false

namespace OvcaCore

open OvcaCore.Checks OvcaCore.GraphSearch

/-! ## The registry -/

structure CapabilityRegistryRow where
  definition : CapabilityDefinition
  record_digest : String
  generation : ℕ
  state_digest : String
  deriving DecidableEq

structure CapabilityRegistrySnapshot where
  capabilities : List CapabilityRegistryRow
  registry_snapshot_digest : String
  deriving DecidableEq

structure CapabilityStateDigest where
  capability_id : String
  revision : ℕ
  record_digest : String
  generation : ℕ
  deriving DecidableEq, Repr

structure RegistryIdentity where
  capability_id : String
  revision : ℕ
  record_digest : String
  generation : ℕ
  state_digest : String
  deriving DecidableEq, Repr

/-- The `serde_json` encodings that a selection and a registry are bound to. -/
structure RegistryJson extends SelectionJson where
  capability_state : CapabilityStateDigest → List UInt8
  registry : List RegistryIdentity → List UInt8

/-- The code that the selection asks for, and the others. -/
inductive RegistryError where
  | DuplicateOrNoncanonicalCurrentIdentity
  | Other
  deriving DecidableEq, Repr

variable (json : RegistryJson)

namespace CapabilityRegistryRow

def capability_id (row : CapabilityRegistryRow) : String := row.definition.capability_id

def state (row : CapabilityRegistryRow) : CapabilityStateDigest where
  capability_id := row.capability_id
  revision := row.definition.revision
  record_digest := row.record_digest
  generation := row.generation

def identity (row : CapabilityRegistryRow) : RegistryIdentity where
  capability_id := row.capability_id
  revision := row.definition.revision
  record_digest := row.record_digest
  generation := row.generation
  state_digest := row.state_digest

/-- A round of the loop of `validate_rows`. -/
def validate (prior_id : Option String) (row : CapabilityRegistryRow) :
    Except RegistryError Unit := do
  reject_if (¬ row.definition.validate) .Other
  reject_if (prior_id.any fun prior => decide (row.capability_id ≤ prior))
    .DuplicateOrNoncanonicalCurrentIdentity
  reject_if (¬ validate_sha256_digest row.record_digest) .Other
  reject_if (¬ validate_sha256_digest row.state_digest) .Other
  reject_if (row.generation = 0) .Other
  reject_if (verification_sha256_hex (json.capability row.definition) ≠ row.record_digest) .Other
  reject_if (verification_sha256_hex (json.capability_state row.state) ≠ row.state_digest) .Other

end CapabilityRegistryRow

def validate_rows : Option String → List CapabilityRegistryRow → Except RegistryError Unit
  | _, [] => .ok ()
  | prior_id, row :: rows => do
    row.validate json prior_id
    validate_rows (some row.capability_id) rows

def registry_snapshot_digest (capabilities : List CapabilityRegistryRow) : String :=
  verification_sha256_hex (json.registry (capabilities.map CapabilityRegistryRow.identity))

def CapabilityRegistrySnapshot.validate (snapshot : CapabilityRegistrySnapshot) :
    Except RegistryError Unit := do
  validate_rows json none snapshot.capabilities
  reject_if (¬ validate_sha256_digest snapshot.registry_snapshot_digest) .Other
  reject_if (OvcaCore.registry_snapshot_digest json snapshot.capabilities
    ≠ snapshot.registry_snapshot_digest) .Other

/-! ## Requests -/

structure TargetedRerunRequest where
  contract_version : ContractVersion
  run_id : RunId
  goal_id : GoalId
  task_id : TaskId
  source_fingerprint : String
  policy_digest : String
  changed_paths : ChangedPathManifest
  unknown_path_policy : UnknownPathPolicy
  deriving DecidableEq, Repr

/-- Whose codes an error has: those of the manifest and its paths, or others. -/
inductive RequestError where
  | Header
  | Manifest
  deriving DecidableEq, Repr

def TargetedRerunRequest.validate (request : TargetedRerunRequest) : Except RequestError Unit := do
  reject_if (request.contract_version ≠ LOCAL_VERIFICATION_CONTRACT_VERSION) .Header
  reject_if (¬ LocalVerification.validate_stable_id request.run_id) .Header
  reject_if (¬ LocalVerification.validate_stable_id request.goal_id) .Header
  reject_if (¬ LocalVerification.validate_stable_id request.task_id) .Header
  reject_if (¬ validate_sha256_digest request.source_fingerprint) .Header
  reject_if (¬ validate_sha256_digest request.policy_digest) .Header
  reject_if (¬ request.changed_paths.validate) .Manifest

/-! ## Outcomes -/

inductive NoApplicableCapabilityReason where
  | ZeroChangedPaths
  | NoDirectMatch
  deriving DecidableEq, Repr

inductive TargetedRerunBlockCode where
  | InvalidRequest
  | InvalidManifest
  | InconsistentRegistry
  | DuplicateCurrentIdentity
  | MissingDependency
  | DependencyCycle
  | UnknownPath
  | EmptyRegistry
  deriving DecidableEq, Repr

inductive TargetedRerunOutcome where
  | Selected (selection : TargetedRerunSelection)
  | NoApplicableCapability (reason : NoApplicableCapabilityReason)
  | Blocked (code : TargetedRerunBlockCode)
  deriving DecidableEq, Repr

def RequestError.code : RequestError → TargetedRerunBlockCode
  | .Manifest => .InvalidManifest
  | .Header => .InvalidRequest

def RegistryError.code : RegistryError → TargetedRerunBlockCode
  | .DuplicateOrNoncanonicalCurrentIdentity => .DuplicateCurrentIdentity
  | .Other => .InconsistentRegistry

/-- `TargetedRerunSelection::new`. It fails when the manifest or the selection is not valid. -/
def TargetedRerunSelection.new (request : TargetedRerunRequest)
    (snapshot : CapabilityRegistrySnapshot) (mode : TargetedRerunMode)
    (unknown_paths : List String) (capabilities : List SelectedCapability) :
    Option TargetedRerunSelection :=
  let payload : SelectionDigestPayload :=
    { contract_version := request.contract_version
      run_id := request.run_id
      goal_id := request.goal_id
      task_id := request.task_id
      source_fingerprint := request.source_fingerprint
      policy_digest := request.policy_digest
      unknown_path_policy := request.unknown_path_policy
      registry_snapshot_digest := snapshot.registry_snapshot_digest
      changed_path_manifest := request.changed_paths
      changed_path_manifest_digest :=
        verification_sha256_hex (json.changed_path_manifest request.changed_paths)
      mode := mode
      unknown_paths := unknown_paths
      capabilities := capabilities }
  let selection : TargetedRerunSelection :=
    { payload with selection_digest := verification_sha256_hex (json.selection payload) }
  if request.changed_paths.validate && selection.validate json.toSelectionJson then some selection
  else none

/-! ## The dependency graph -/

/-- The rows by the id of their capability. -/
def by_id (rows : List CapabilityRegistryRow) : BTreeMap String CapabilityRegistryRow :=
  .ofList (rows.map fun row => (row.capability_id, row)) compare

def dependencies (rows : List CapabilityRegistryRow) (id : String) : Option (List String) :=
  (by_id rows)[id]?.map fun row => row.definition.dependencies

/-- `dependencies.get(id).copied().unwrap_or_default()`. -/
def dependencies_or_default (rows : List CapabilityRegistryRow) (id : String) : List String :=
  (dependencies rows id).getD []

/-- The states 0, 1 and 2 of a node are the marks of the search. -/
def visit_dependency (rows : List CapabilityRegistryRow) (depth : ℕ) (id : String)
    (state : String → Mark) : Option (Bool × (String → Mark)) :=
  visit (dependencies_or_default rows) depth id state

def validate_dependency_graph (rows : List CapabilityRegistryRow) :
    Option (Except TargetedRerunBlockCode Unit) :=
  let ids : BTreeSet String := .ofList (rows.map CapabilityRegistryRow.capability_id) compare
  if rows.any fun row => row.definition.dependencies.any fun dependency =>
      !ids.contains dependency then
    some (.error .MissingDependency)
  else
    match visit_each (visit_dependency rows (rows.length + 1)) ids.toList fun _ => .unvisited with
    | some (true, _) => some (.error .DependencyCycle)
    | some (false, _) => some (.ok ())
    | none => none

/-- First the dependents of the set, pass after pass, then the dependencies of what it has
become. The top of the stack is the end of the vector, which is the head of the list. -/
def selection_closure (rows : List CapabilityRegistryRow) (direct : BTreeSet String) :
    Option (Except String (BTreeSet String)) :=
  match saturate (dependencies_or_default rows) (by_id rows).keys (rows.length + 1) direct with
  | some impacted => reach (dependencies rows) (rows.length + 1) impacted impacted.toList.reverse
  | none => none

/-! ## Selectors -/

def selector_matches (kind : PathSelectorKind) (selector path : String) : Bool :=
  match kind with
  | .Exact => path == selector
  | .Prefix => path == selector || selector.toList.isPrefixOf path.toList
      && (path.toList.drop selector.toList.length).head? == some '/'

/-- The capabilities with a selector that matches a path. -/
def matching (rows : List CapabilityRegistryRow) (path : String) : List String :=
  (rows.filter fun row => row.definition.changed_path_selectors.any fun selector =>
    selector_matches selector.kind selector.path path).map CapabilityRegistryRow.capability_id

/-- A round of the loop over the affected paths: it adds to `direct` or to `unknown_paths`. -/
def match_path (rows : List CapabilityRegistryRow) (found : BTreeSet String × BTreeSet String)
    (path : String) : BTreeSet String × BTreeSet String :=
  if (matching rows path).isEmpty then (found.1, found.2.insert path)
  else (found.1.insertMany (matching rows path), found.2)

def match_paths (rows : List CapabilityRegistryRow) (paths : List String) :
    BTreeSet String × BTreeSet String :=
  paths.foldl (match_path rows) (∅, ∅)

/-! ## The selection -/

def selected_capability (rows : List CapabilityRegistryRow) (capability_id : String) :
    Option SelectedCapability :=
  (by_id rows)[capability_id]?.map fun row =>
    ⟨capability_id, row.definition.revision, row.record_digest⟩

/-- What is done with the selected ids. -/
def select_ids (request : TargetedRerunRequest) (snapshot : CapabilityRegistrySnapshot)
    (mode : TargetedRerunMode) (unknown_paths selected_ids : List String) :
    TargetedRerunOutcome :=
  match selected_ids.mapM (selected_capability snapshot.capabilities) with
  | some capabilities =>
    match TargetedRerunSelection.new json request snapshot mode unknown_paths capabilities with
    | some selection => .Selected selection
    | none => .Blocked .InconsistentRegistry
  | none => .Blocked .InconsistentRegistry

/-- The selection for a manifest and a registry that are not empty. -/
def select_affected (request : TargetedRerunRequest) (snapshot : CapabilityRegistrySnapshot) :
    Option TargetedRerunOutcome :=
  let found := match_paths snapshot.capabilities request.changed_paths.logical_paths
  if found.2.isEmpty then
    if found.1.isEmpty then some (.NoApplicableCapability .NoDirectMatch)
    else
      match selection_closure snapshot.capabilities found.1 with
      | some (.ok selected) => some (select_ids json request snapshot .Targeted [] selected.toList)
      | some (.error _) => some (.Blocked .InconsistentRegistry)
      | none => none
  else
    match request.unknown_path_policy with
    | .Blocked => some (.Blocked .UnknownPath)
    | .FullSafe => some (select_ids json request snapshot .FullSafe found.2.toList
        (by_id snapshot.capabilities).keys)

def select_targeted_rerun (request : TargetedRerunRequest)
    (snapshot : CapabilityRegistrySnapshot) : Option TargetedRerunOutcome :=
  match request.validate with
  | .error error => some (.Blocked error.code)
  | .ok () =>
    match snapshot.validate json with
    | .error error => some (.Blocked error.code)
    | .ok () =>
      match validate_dependency_graph snapshot.capabilities with
      | none => none
      | some (.error code) => some (.Blocked code)
      | some (.ok ()) =>
        if request.changed_paths.entries.isEmpty then
          some (.NoApplicableCapability .ZeroChangedPaths)
        else if snapshot.capabilities.isEmpty then
          match request.unknown_path_policy with
          | .FullSafe => some (.Blocked .EmptyRegistry)
          | .Blocked => some (.Blocked .UnknownPath)
        else select_affected json request snapshot

/-- `validate_against`: the selection is the one for the request and the registry. -/
def TargetedRerunSelection.validate_against (selection : TargetedRerunSelection)
    (request : TargetedRerunRequest) (snapshot : CapabilityRegistrySnapshot) : Bool :=
  selection.validate json.toSelectionJson && ok_and request.validate (fun _ => true)
    && ok_and (snapshot.validate json) (fun _ => true)
    && select_targeted_rerun json request snapshot == some (.Selected selection)

end OvcaCore

/-
The two routers of classified failures: that of
`ovca-types/src/goal_runtime/local_verification/targeted_rerun.rs` and that of
`scripts/revision_loop.py`.

Both read one wire format. A time is in nanoseconds here, and the record of the script has it
in microseconds. The texts of the reasons are left out, as is the log line that the script
writes when it escalates. A score is a finite float, so a rational number.
-/
import OvcaCore.LocalVerification
import OvcaCore.VerificationDigest
import OvcaCore.Lib.Checks
import Mathlib.Data.Rat.Init

set_option autoImplicit false

namespace OvcaCore

open OvcaCore.Checks

/-! ## Shared enumerations -/

inductive FailureRouteDirective where
  | Retry
  | AwaitingConfirmation
  | EscalateToOwner
  | Blocked
  deriving DecidableEq, Repr

inductive FailureOwnerBinding where
  | ImplementationActor
  | VerifierActor
  | CapabilityOwner
  | TestOwner
  | Coordinator
  | ConfirmationOwner
  deriving DecidableEq, Repr

structure FailureOwnerBindings where
  implementation_actor : Option String
  verifier_actor : Option String
  capability_owner : Option String
  test_owner : Option String
  coordinator : Option String
  confirmation_owner : Option String
  deriving DecidableEq, Repr

namespace FailureRouting

/-- The two categories that need a confirmation. -/
def sensitive : VerificationFailureCategory → Bool
  | .ProductBug | .TestFragility => true
  | _ => false

end FailureRouting

open FailureRouting

/-! ## The Rust router -/

structure ClassifiedVerificationFailure where
  failure : VerificationFailure
  classifier_actor : String
  deriving DecidableEq, Repr

def ClassifiedVerificationFailure.validate (classification : ClassifiedVerificationFailure) :
    Bool :=
  classification.failure.validate && classification.failure.recorded_at % 1000 == 0
    && LocalVerification.validate_stable_id classification.classifier_actor

structure VerificationFailureRoute where
  directive : FailureRouteDirective
  category : VerificationFailureCategory
  owner_binding : Option FailureOwnerBinding
  target_owner : Option String
  deriving DecidableEq, Repr

inductive ClassificationError where
  | InvalidRecord (failure_id : String)
  | DuplicateFailureClassification (failure_id : String)
  | MissingProvisionalFailure (failure_id : String)
  | MismatchedProvisionalFailure (failure_id : String)
  | NoncausalFailureConfirmation (failure_id : String)
  | ClassifierNotIndependent (failure_id : String)
  deriving DecidableEq, Repr

namespace FailureRouting

def failure_owner_binding : VerificationFailureCategory → FailureOwnerBinding
  | .ProductBug => .CapabilityOwner
  | .TestFragility => .TestOwner
  | .SourceDrift => .ImplementationActor
  | .PolicyBlock | .ContractViolation => .VerifierActor
  | .Timeout | .Environment | .Infrastructure | .TestFailedUnclassified => .Coordinator

/-- The binding under a name. -/
def binding_of (bindings : FailureOwnerBindings) : FailureOwnerBinding → Option String
  | .ImplementationActor => bindings.implementation_actor
  | .VerifierActor => bindings.verifier_actor
  | .CapabilityOwner => bindings.capability_owner
  | .TestOwner => bindings.test_owner
  | .Coordinator => bindings.coordinator
  | .ConfirmationOwner => bindings.confirmation_owner

def insert_classification (by_id : BTreeMap String ClassifiedVerificationFailure)
    (classification : ClassifiedVerificationFailure) :
    Except ClassificationError (BTreeMap String ClassifiedVerificationFailure) := do
  let failure_id := classification.failure.failure_id
  reject_if (¬ classification.validate) (.InvalidRecord failure_id)
  reject_if (by_id.contains failure_id) (.DuplicateFailureClassification failure_id)
  pure (by_id.insert failure_id classification)

/-- A confirmed sensitive failure supersedes a provisional record of the collection. -/
def check_confirmation (by_id : BTreeMap String ClassifiedVerificationFailure)
    (classification : ClassifiedVerificationFailure) : Except ClassificationError Unit :=
  let failure := classification.failure
  if failure.confirmation ≠ .Confirmed ∨ ¬ sensitive failure.category then
    .ok ()
  else do
    let superseded_id ← ok_or failure.supersedes_failure_id
      (.MissingProvisionalFailure failure.failure_id)
    let prior ← ok_or by_id[superseded_id]? (.MissingProvisionalFailure superseded_id)
    reject_if (prior.failure.confirmation ≠ .Provisional ∨ prior.failure.category ≠ failure.category
        ∨ prior.failure.criterion_id ≠ failure.criterion_id)
      (.MismatchedProvisionalFailure superseded_id)
    reject_if (prior.failure.recorded_at > failure.recorded_at)
      (.NoncausalFailureConfirmation failure.failure_id)
    reject_if (prior.classifier_actor = classification.classifier_actor)
      (.ClassifierNotIndependent failure.failure_id)

def validate_failure_classifications (classifications : List ClassifiedVerificationFailure) :
    Except ClassificationError Unit := do
  let by_id ← fold_checked insert_classification ∅ classifications
  check_all classifications (check_confirmation by_id)

/-- The route at the end of the function, or that of an early return. -/
def returned {α : Type} : Except α α → α
  | .ok route => route
  | .error route => route

def blocked (failure : ClassifiedVerificationFailure)
    (owner_binding : Option FailureOwnerBinding) : VerificationFailureRoute where
  directive := .Blocked
  category := failure.failure.category
  owner_binding := owner_binding
  target_owner := none

/-- An actor that has to be bound, to a valid identifier. -/
def require_binding (failure : ClassifiedVerificationFailure) (bindings : FailureOwnerBindings)
    (binding : FailureOwnerBinding) : Except VerificationFailureRoute String := do
  let actor ← ok_or (binding_of bindings binding) (blocked failure (some binding))
  reject_if (¬ LocalVerification.validate_stable_id actor) (blocked failure (some binding))
  pure actor

/-- The directive and the owner that a failure calls for. -/
def directive_of (failure : ClassifiedVerificationFailure) (retry_permitted : Bool) :
    FailureRouteDirective × FailureOwnerBinding :=
  if failure.failure.confirmation = .Provisional ∧ sensitive failure.failure.category then
    (.AwaitingConfirmation, .ConfirmationOwner)
  else
    (if retry_permitted then .Retry else .EscalateToOwner,
      failure_owner_binding failure.failure.category)

/-- The route of a failure whose classification is valid. -/
def route_owner (failure : ClassifiedVerificationFailure) (bindings : FailureOwnerBindings)
    (retry_permitted : Bool) : Except VerificationFailureRoute VerificationFailureRoute := do
  let _ ← require_binding failure bindings .ImplementationActor
  let _ ← require_binding failure bindings .VerifierActor
  reject_if (bindings.implementation_actor = bindings.verifier_actor) (blocked failure none)
  let (directive, owner_binding) := directive_of failure retry_permitted
  let target_owner ← require_binding failure bindings owner_binding
  reject_if (directive = .AwaitingConfirmation ∧ target_owner = failure.classifier_actor)
    (blocked failure (some owner_binding))
  pure
    { directive := directive
      category := failure.failure.category
      owner_binding := some owner_binding
      target_owner := some target_owner }

def route_classified_verification_failure (failure : ClassifiedVerificationFailure)
    (prior_failure : Option ClassifiedVerificationFailure) (bindings : FailureOwnerBindings)
    (retry_permitted : Bool) : VerificationFailureRoute :=
  match validate_failure_classifications (prior_failure.toList ++ [failure]) with
  | .error _ => blocked failure none
  | .ok () => returned (route_owner failure bindings retry_permitted)

end FailureRouting

/-! ## The router of the script -/

structure RevisionState where
  task_name : String
  attempt : ℤ
  max_attempts : ℤ
  score_history : List ℚ
  blocked : Bool

structure VerificationFailureRecord where
  failure_id : String
  category : VerificationFailureCategory
  confirmation : FailureConfirmation
  classifier_actor : String
  supersedes_failure_id : Option String
  criterion_id : Option String
  contract_version : ℤ
  summary : String
  recorded_at : DateTime
  deriving DecidableEq, Repr

structure FailureRoute where
  directive : FailureRouteDirective
  category : Option VerificationFailureCategory
  owner_binding : Option FailureOwnerBinding
  target_owner : Option String
  deriving DecidableEq, Repr

namespace RevisionLoop

def should_retry (state : RevisionState) : Bool := decide (state.attempt ≤ state.max_attempts)

/-- `[A-Za-z0-9]`. -/
def is_alphanumeric (c : Char) : Bool :=
  ('A' ≤ c && c ≤ 'Z') || ('a' ≤ c && c ≤ 'z') || ('0' ≤ c && c ≤ '9')

/-- `[A-Za-z0-9._:-]`. -/
def is_symbolic (c : Char) : Bool :=
  is_alphanumeric c || c == '.' || c == '_' || c == ':' || c == '-'

/-- `_SYMBOLIC_ACTOR`: one alphanumeric character and then symbolic ones. -/
def valid_symbolic_name (value : String) : Bool :=
  match value.toList with
  | [] => false
  | first :: rest => is_alphanumeric first && rest.all is_symbolic

def valid_symbolic_actor (value : Option String) : Bool := value.any valid_symbolic_name

def valid_score (score : ℚ) : Bool := decide (0 ≤ score ∧ score ≤ 1)

def revision_state_error (state : RevisionState) : Option String :=
  if ¬ valid_symbolic_name state.task_name then some "invalid revision task_name"
  else if state.attempt < 1 ∨ state.max_attempts < 1 then some "invalid revision attempt bounds"
  else if ¬ state.score_history.all valid_score then some "invalid revision score_history"
  else none

/-- The end of `_failure_record_error`. -/
def supersession_error (failure : VerificationFailureRecord) : Option String :=
  if ¬ sensitive failure.category then none
  else if failure.confirmation = .Provisional then
    if failure.supersedes_failure_id ≠ none then
      some "provisional sensitive failure cannot supersede another record"
    else none
  else if failure.supersedes_failure_id = none then
    some "confirmed sensitive failure requires supersedes_failure_id"
  else none

/-- `str.strip` is a parameter. -/
def failure_record_error (strip : String → String) (failure : VerificationFailureRecord) :
    Option String :=
  if failure.contract_version ≠ 1 then some "unsupported or invalid contract_version"
  else if ¬ valid_symbolic_name failure.failure_id then some "invalid failure_id"
  else if ¬ valid_symbolic_name failure.classifier_actor then some "invalid classifier_actor"
  else if failure.criterion_id ≠ none ∧ ¬ valid_symbolic_actor failure.criterion_id then
    some "invalid criterion_id"
  else if failure.supersedes_failure_id ≠ none
      ∧ ¬ valid_symbolic_actor failure.supersedes_failure_id then
    some "invalid supersedes_failure_id"
  else if failure.supersedes_failure_id = some failure.failure_id then
    some "failure cannot supersede itself"
  else if strip failure.summary = "" ∨ failure.summary.toList.contains (Char.ofNat 0) then
    some "invalid failure summary"
  else supersession_error failure

/-- The part of `_classification_error` on a confirmed sensitive failure. -/
def confirmation_error (failure : VerificationFailureRecord) :
    Option VerificationFailureRecord → Option String
  | none => some "confirmed sensitive failure requires the matching provisional record"
  | some prior_failure =>
    if some prior_failure.failure_id ≠ failure.supersedes_failure_id then
      some "supersedes_failure_id does not identify the supplied provisional record"
    else if prior_failure.confirmation ≠ .Provisional then
      some "superseded failure is not provisional"
    else if prior_failure.category ≠ failure.category then
      some "superseded failure category does not match"
    else if prior_failure.criterion_id ≠ failure.criterion_id then
      some "superseded failure criterion does not match"
    else if prior_failure.classifier_actor = failure.classifier_actor then
      some "confirmed sensitive failure requires an independent classifier actor"
    else if prior_failure.recorded_at > failure.recorded_at then
      some "confirmed sensitive failure must not predate the provisional record"
    else none

def prior_error (strip : String → String) (failure : VerificationFailureRecord) :
    Option VerificationFailureRecord → Option String
  | none => none
  | some prior_failure =>
    match failure_record_error strip prior_failure with
    | some error => some ("invalid prior failure: " ++ error)
    | none =>
      if prior_failure.failure_id = failure.failure_id then
        some "duplicate failure_id in classification collection"
      else none

def classification_error (strip : String → String) (failure : VerificationFailureRecord)
    (prior_failure : Option VerificationFailureRecord) : Option String :=
  match failure_record_error strip failure, prior_error strip failure prior_failure with
  | some error, _ => some error
  | none, some error => some error
  | none, none =>
    if ¬ sensitive failure.category ∨ failure.confirmation = .Provisional then none
    else confirmation_error failure prior_failure

def required_owner_binding : VerificationFailureCategory → FailureOwnerBinding
  | .ProductBug => .CapabilityOwner
  | .TestFragility => .TestOwner
  | .SourceDrift => .ImplementationActor
  | .PolicyBlock | .ContractViolation => .VerifierActor
  | .Timeout | .Environment | .Infrastructure | .TestFailedUnclassified => .Coordinator

def blocked (failure : VerificationFailureRecord) (owner_binding : Option FailureOwnerBinding) :
    FailureRoute where
  directive := .Blocked
  category := some failure.category
  owner_binding := owner_binding
  target_owner := none

/-- The route of a failure whose classification and revision state are valid. -/
def route_valid (failure : VerificationFailureRecord) (state : RevisionState)
    (bindings : FailureOwnerBindings) : FailureRoute :=
  if ¬ valid_symbolic_actor bindings.implementation_actor then
    blocked failure (some .ImplementationActor)
  else if ¬ valid_symbolic_actor bindings.verifier_actor then
    blocked failure (some .VerifierActor)
  else if bindings.implementation_actor = bindings.verifier_actor then blocked failure none
  else if failure.confirmation = .Provisional ∧ sensitive failure.category then
    let target_owner := bindings.confirmation_owner
    if ¬ valid_symbolic_actor target_owner then blocked failure (some .ConfirmationOwner)
    else if target_owner = some failure.classifier_actor then
      blocked failure (some .ConfirmationOwner)
    else ⟨.AwaitingConfirmation, some failure.category, some .ConfirmationOwner, target_owner⟩
  else
    let owner_binding := required_owner_binding failure.category
    let target_owner := binding_of bindings owner_binding
    if ¬ valid_symbolic_actor target_owner then blocked failure (some owner_binding)
    else if should_retry state then ⟨.Retry, some failure.category, some owner_binding, target_owner⟩
    else ⟨.EscalateToOwner, some failure.category, some owner_binding, target_owner⟩

def route_verification_failure (strip : String → String) (failure : VerificationFailureRecord)
    (state : RevisionState) (bindings : FailureOwnerBindings) (score : ℚ)
    (prior_failure : Option VerificationFailureRecord) : FailureRoute :=
  if (classification_error strip failure prior_failure).isSome then blocked failure none
  else if (revision_state_error state).isSome then blocked failure none
  else if ¬ valid_score score then blocked failure none
  else route_valid failure state bindings

/-- The record that the script reads for a classified failure with a canonical time. -/
def record_of (classification : ClassifiedVerificationFailure) : VerificationFailureRecord where
  failure_id := classification.failure.failure_id
  category := classification.failure.category
  confirmation := classification.failure.confirmation
  classifier_actor := classification.classifier_actor
  supersedes_failure_id := classification.failure.supersedes_failure_id
  criterion_id := classification.failure.criterion_id
  contract_version := classification.failure.contract_version
  summary := classification.failure.summary
  recorded_at := classification.failure.recorded_at / 1000

end RevisionLoop

end OvcaCore

/-
The guard policy (`ovca-runtime-core/src/guardrails.rs`).

A guard request is denied with every reason that applies, allowed with the
gates its tier requires, or paused until an owner decides.
-/
import OvcaCore.Types
import OvcaCore.Lib.BinarySearch

set_option autoImplicit false

namespace OvcaCore

structure GuardEvaluationContext where
  approval_request_id : ApprovalRequestId
  requested_at : DateTime
  deriving DecidableEq, Repr

open OvcaCore.BinarySearch

namespace Guardrails

/-- `if c { reasons.insert(reason); }`. -/
def insert_if (c : Prop) [Decidable c] (reason : GuardDenyReason)
    (reasons : BTreeSet GuardDenyReason) : BTreeSet GuardDenyReason :=
  if c then reasons.insert reason else reasons

def validate_keys (keys : List String) (reasons : BTreeSet GuardDenyReason) :
    BTreeSet GuardDenyReason :=
  let unique : BTreeSet String := .ofList keys
  insert_if (has_descent keys) .InvalidKey
    (insert_if (unique.size ≠ keys.length) .DuplicateKey
      (insert_if (keys.any blank) .BlankKey reasons))

/-- `is_subset`; `permitted.binary_search(key).is_ok()` can miss a key of a list that is not
sorted, which is denied for that. -/
def is_subset (requested permitted : List String) : Bool :=
  requested.all fun key => found permitted key

def validate_request (request : GuardRequest) : BTreeSet GuardDenyReason :=
  let reasons := insert_if (blank request.id) .BlankGuardRequestId ∅
  let reasons := insert_if (request.contract_version ≠ ContractVersion.current
      ∨ request.permission_profile.contract_version ≠ ContractVersion.current)
    .UnsupportedContractVersion reasons
  let reasons := insert_if (blank request.operation_label) .BlankOperationLabel reasons
  let reasons := validate_keys request.resource_keys reasons
  let reasons := validate_keys request.write_keys reasons
  let reasons := validate_keys request.permission_profile.resource_keys reasons
  let reasons := validate_keys request.permission_profile.write_keys reasons
  let reasons := insert_if
    (¬ is_subset request.resource_keys request.permission_profile.resource_keys)
    .MissingResourcePermission reasons
  let reasons := insert_if (¬ is_subset request.write_keys request.permission_profile.write_keys)
    .MissingWritePermission reasons
  insert_if (request.side_effect = .ReadOnly ∧ request.write_keys ≠ [])
    .MissingWritePermission reasons

def minimum_risk_tier (side_effect : SideEffectClass) : RiskTier :=
  match side_effect with
  | .ReadOnly => .R0
  | .ReversibleLocalWrite => .R1
  | .RepositoryWrite | .NetworkAction | .Publication | .ExternalSideEffect => .R2
  | .Destructive | .SecretBearing | .Irreversible | .Privileged => .R3

def deny_missing_declaration : GuardOutcome :=
  .Deny (.ofList [GuardDenyReason.MissingRequiredDeclaration])

def conditional_audit (side_effect : SideEffectClass) : Bool :=
  match side_effect with
  | .NetworkAction | .Publication | .ExternalSideEffect => true
  | _ => false

def evaluate_r2 (request : GuardRequest) (context : GuardEvaluationContext) : GuardOutcome :=
  let profile := request.permission_profile
  if !profile.approval_required || !profile.review_required
      || (conditional_audit request.side_effect && !profile.audit_required) then
    deny_missing_declaration
  else
    let required_gates : BTreeSet GuardRequirement :=
      .ofList [GuardRequirement.OwnerApproval, GuardRequirement.Reviewer]
    .PauseForApproval
      { contract_version := ContractVersion.current
        id := context.approval_request_id
        guard_request := request
        requested_at := context.requested_at }
      (if profile.audit_required then required_gates.insert .Auditor else required_gates)

def evaluate_guard_request (request : GuardRequest) (context : GuardEvaluationContext) :
    GuardOutcome :=
  let minimum_tier := minimum_risk_tier request.side_effect
  let reasons := insert_if (blank context.approval_request_id) .BlankApprovalRequestId
    (validate_request request)
  let reasons := insert_if (request.permission_profile.risk_tier.rank < minimum_tier.rank)
    .RiskTierMismatch reasons
  let reasons := insert_if (minimum_tier = .R3 ∨ request.permission_profile.risk_tier = .R3)
    .R3DenyByDefault reasons
  if ¬ reasons.isEmpty then
    .Deny reasons
  else
    match request.permission_profile.risk_tier with
    | .R0 => .Allow ∅
    | .R1 =>
      if !request.permission_profile.review_required then deny_missing_declaration
      else .Allow (.ofList [GuardRequirement.Reviewer])
    | .R2 => evaluate_r2 request context
    | .R3 => .Deny (.ofList [GuardDenyReason.R3DenyByDefault])

end Guardrails

end OvcaCore

/-
The goal-runtime contracts (`ovca-types/src/goal_runtime.rs`).

Records, closed enumerations and identifiers, with the fields and spellings of
the source. Serialization attributes are left out: what is stored is modelled
where it is stored.

Conventions. A newtype over `String` is `String`; `DateTime<Utc>` is the number
of nanoseconds since the epoch, of which the code only uses the order;
`BTreeMap` and `BTreeSet` are the extensional search trees of `Std`, whose
iteration order is the one of the keys; `u32` and `u64` values are natural
numbers, and the width appears where a computation can reach it.
-/
import Mathlib.Data.String.Basic
import Mathlib.Order.Basic
import Std.Data.ExtTreeMap
import Std.Data.ExtTreeSet

set_option autoImplicit false

namespace OvcaCore

/-! ## Scalars and collections -/

abbrev DateTime := Int

abbrev BTreeMap (κ : Type) (ν : Type) [Ord κ] := Std.ExtTreeMap κ ν compare

abbrev BTreeSet (κ : Type) [Ord κ] := Std.ExtTreeSet κ compare

def U32_MAX : ℕ := 2 ^ 32 - 1

def U64_MAX : ℕ := 2 ^ 64 - 1

abbrev ContractVersion := ℕ

def GOAL_RUNTIME_CONTRACT_VERSION : ContractVersion := 1

abbrev ContractVersion.current : ContractVersion := GOAL_RUNTIME_CONTRACT_VERSION

abbrev ProjectId := String
abbrev GoalId := String
abbrev TaskId := String
abbrev RunId := String
abbrev EvidenceId := String
abbrev EventId := String
abbrev WorkerId := String
abbrev LeaseId := String
abbrev IdempotencyKey := String
abbrev GuardRequestId := String
abbrev ApprovalRequestId := String
abbrev ReviewDecisionId := String
abbrev AuditDecisionId := String

/-- `char::is_whitespace`: the code points with the property White_Space. -/
def is_whitespace (c : Char) : Bool :=
  (9 ≤ c.toNat && c.toNat ≤ 13) || c.toNat == 0x20 || c.toNat == 0x85 || c.toNat == 0xA0
    || c.toNat == 0x1680 || (0x2000 ≤ c.toNat && c.toNat ≤ 0x200A) || c.toNat == 0x2028
    || c.toNat == 0x2029 || c.toNat == 0x202F || c.toNat == 0x205F || c.toNat == 0x3000

/-- `value.trim().is_empty()`. -/
def blank (value : String) : Bool := value.toList.all is_whitespace

/-- `keys.windows(2).any(|pair| pair[0] > pair[1])`. -/
def has_descent : List String → Bool
  | a :: b :: keys => decide (a > b) || has_descent (b :: keys)
  | _ => false

inductive Role where
  | Coordinator
  | Engineer
  | Reviewer
  | Auditor
  deriving DecidableEq, Repr

/-! ## Tasks, leases and terminal records -/

inductive TaskStatus where
  | Pending
  | Ready
  | Running
  | AwaitingApproval
  | Reviewing
  | Completed
  | Failed
  | Cancelled
  deriving DecidableEq, Repr

structure Task where
  contract_version : ContractVersion
  id : TaskId
  goal_id : GoalId
  outcome : String
  dependencies : List TaskId
  assigned_role : Role
  resource_keys : List String
  write_keys : List String
  status : TaskStatus
  created_at : DateTime
  updated_at : DateTime
  deriving DecidableEq, Repr

structure RetryBudget where
  contract_version : ContractVersion
  max_attempts : ℕ
  deriving DecidableEq, Repr

structure TaskLease where
  contract_version : ContractVersion
  run_id : RunId
  task_id : TaskId
  worker_id : WorkerId
  worker_role : Role
  lease_id : LeaseId
  write_keys : BTreeSet String
  attempt : ℕ
  max_attempts : ℕ
  claimed_at : DateTime
  heartbeat_at : DateTime
  expires_at : DateTime
  deriving DecidableEq, Repr

inductive TaskTerminalOutcome where
  | Completed
  | Cancelled
  deriving DecidableEq, Repr

structure TaskTerminalRecord where
  contract_version : ContractVersion
  run_id : RunId
  task_id : TaskId
  worker_id : WorkerId
  lease_id : LeaseId
  idempotency_key : IdempotencyKey
  outcome : TaskTerminalOutcome
  occurred_at : DateTime
  reason : Option String
  deriving DecidableEq, Repr

/-! ## Guard policy -/

inductive RiskTier where
  | R0
  | R1
  | R2
  | R3
  deriving DecidableEq, Repr

/-- The derived order of the tiers. -/
def RiskTier.rank : RiskTier → ℕ
  | .R0 => 0
  | .R1 => 1
  | .R2 => 2
  | .R3 => 3

structure PermissionProfile where
  contract_version : ContractVersion
  risk_tier : RiskTier
  resource_keys : List String
  write_keys : List String
  approval_required : Bool
  review_required : Bool
  audit_required : Bool
  deriving DecidableEq, Repr

inductive GuardSurface where
  | Input
  | Output
  | Tool
  deriving DecidableEq, Repr

inductive SideEffectClass where
  | ReadOnly
  | ReversibleLocalWrite
  | RepositoryWrite
  | NetworkAction
  | Publication
  | ExternalSideEffect
  | Destructive
  | SecretBearing
  | Irreversible
  | Privileged
  deriving DecidableEq, Repr

inductive GuardRequirement where
  | OwnerApproval
  | Reviewer
  | Auditor
  deriving DecidableEq, Repr

inductive GuardDenyReason where
  | UnsupportedContractVersion
  | BlankGuardRequestId
  | BlankApprovalRequestId
  | BlankOperationLabel
  | InvalidKey
  | DuplicateKey
  | BlankKey
  | RiskTierMismatch
  | MissingResourcePermission
  | MissingWritePermission
  | MissingRequiredDeclaration
  | R3DenyByDefault
  deriving DecidableEq, Repr

/-- Closed enumerations are ordered by the position of their constructors, as
the derived `Ord` of the source does. -/
instance : Ord GuardRequirement := ⟨compareOn GuardRequirement.ctorIdx⟩

instance : Std.TransOrd GuardRequirement :=
  inferInstanceAs (Std.TransCmp (compareOn GuardRequirement.ctorIdx))

instance : Std.LawfulEqOrd GuardRequirement where
  eq_of_compare {a b} h := by
    have hidx : a.ctorIdx = b.ctorIdx :=
      Std.LawfulEqCmp.eq_of_compare (show compare a.ctorIdx b.ctorIdx = .eq from h)
    cases a <;> cases b <;> first | rfl | cases hidx

instance : Ord GuardDenyReason := ⟨compareOn GuardDenyReason.ctorIdx⟩

instance : Std.TransOrd GuardDenyReason :=
  inferInstanceAs (Std.TransCmp (compareOn GuardDenyReason.ctorIdx))

instance : Std.LawfulEqOrd GuardDenyReason where
  eq_of_compare {a b} h := by
    have hidx : a.ctorIdx = b.ctorIdx :=
      Std.LawfulEqCmp.eq_of_compare (show compare a.ctorIdx b.ctorIdx = .eq from h)
    cases a <;> cases b <;> first | rfl | cases hidx

inductive ApprovalAuthority where
  | ExplicitOwner
  deriving DecidableEq, Repr

inductive ApprovalDisposition where
  | Approved
  | Denied
  deriving DecidableEq, Repr

inductive ApprovalState where
  | Pending
  | Approved
  | Denied
  | Consumed
  deriving DecidableEq, Repr

structure GuardRequest where
  contract_version : ContractVersion
  id : GuardRequestId
  surface : GuardSurface
  side_effect : SideEffectClass
  operation_label : String
  resource_keys : List String
  write_keys : List String
  permission_profile : PermissionProfile
  deriving DecidableEq, Repr

structure ApprovalRequest where
  contract_version : ContractVersion
  id : ApprovalRequestId
  guard_request : GuardRequest
  requested_at : DateTime
  deriving DecidableEq, Repr

structure ApprovalDecisionRecord where
  contract_version : ContractVersion
  approval_request_id : ApprovalRequestId
  guard_request_id : GuardRequestId
  authority : ApprovalAuthority
  disposition : ApprovalDisposition
  decided_at : DateTime
  deriving DecidableEq, Repr

inductive GuardOutcome where
  | Allow (required_gates : BTreeSet GuardRequirement)
  | PauseForApproval (approval_request : ApprovalRequest)
      (required_gates : BTreeSet GuardRequirement)
  | Deny (reasons : BTreeSet GuardDenyReason)
  deriving DecidableEq

/-! ## Errors of the two projections of an execution run -/

inductive EngineerVerifierError where
  | UnsupportedContractVersion
  | InvalidPlan
  | InvalidBinding
  | InvalidDigest
  | InvalidEffectOrder
  | InvalidPayload
  | InvalidLedger
  | InvalidWorkspaceDiff
  | InvalidState
  | InvalidTransition
  | InvalidExecutorOutcome
  | InvalidVerifierReplay
  | InvalidProjection
  | Overflow
  | Serialization
  deriving DecidableEq, Repr

inductive IndependentReviewError where
  | Contract
  | InvalidState
  | InvalidTransition
  | InvalidExecutionRequest
  | InvalidExecutorOutcome
  | InvalidDigest
  | Serialization
  deriving DecidableEq, Repr

end OvcaCore

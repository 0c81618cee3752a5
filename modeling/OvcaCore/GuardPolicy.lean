/-
What the guard policy decides.

The reasons of a denial accumulate over the request, its profile and the context. A request
for which none is collected is admissible (`admissible_iff`), and for an admissible request the
declared tier decides (`guard_policy_exact`). The subset test is a binary search: it decides
membership because a profile whose keys are not sorted is denied anyway.
-/
import OvcaCore.Guardrails
import OvcaCore.Lib.OrderedMaps
import Mathlib.Data.List.Nodup

set_option autoImplicit false

namespace OvcaCore.Guardrails

open OvcaCore.BinarySearch OvcaCore.OrderedMaps

variable {request : GuardRequest} {context : GuardEvaluationContext} {reason : GuardDenyReason}

/-! ## The specification -/

/-- The four key lists that are checked. -/
def key_lists (request : GuardRequest) : List (List String) :=
  [request.resource_keys, request.write_keys, request.permission_profile.resource_keys,
    request.permission_profile.write_keys]

/-- A reason to deny a request. -/
def Applies (request : GuardRequest) (context : GuardEvaluationContext) :
    GuardDenyReason → Prop
  | .UnsupportedContractVersion => request.contract_version ≠ ContractVersion.current
      ∨ request.permission_profile.contract_version ≠ ContractVersion.current
  | .BlankGuardRequestId => blank request.id = true
  | .BlankApprovalRequestId => blank context.approval_request_id = true
  | .BlankOperationLabel => blank request.operation_label = true
  | .InvalidKey => ∃ keys ∈ key_lists request, ¬ keys.Pairwise (· ≤ ·)
  | .DuplicateKey => ∃ keys ∈ key_lists request, ¬ keys.Nodup
  | .BlankKey => ∃ keys ∈ key_lists request, ∃ key ∈ keys, blank key = true
  | .RiskTierMismatch =>
    request.permission_profile.risk_tier.rank < (minimum_risk_tier request.side_effect).rank
  | .MissingResourcePermission =>
    ¬ request.resource_keys ⊆ request.permission_profile.resource_keys
  | .MissingWritePermission => ¬ request.write_keys ⊆ request.permission_profile.write_keys
      ∨ request.side_effect = .ReadOnly ∧ request.write_keys ≠ []
  | .MissingRequiredDeclaration => False
  | .R3DenyByDefault => minimum_risk_tier request.side_effect = .R3
      ∨ request.permission_profile.risk_tier = .R3

/-- A request that is not denied before its tier is looked at. -/
structure Admissible (request : GuardRequest) (context : GuardEvaluationContext) : Prop where
  request_id : blank request.id = false
  approval_request_id : blank context.approval_request_id = false
  operation_label : blank request.operation_label = false
  contract_version : request.contract_version = ContractVersion.current
  profile_version : request.permission_profile.contract_version = ContractVersion.current
  keys : ∀ keys ∈ key_lists request,
    keys.Pairwise (· < ·) ∧ ∀ key ∈ keys, blank key = false
  resources : request.resource_keys ⊆ request.permission_profile.resource_keys
  writes : request.write_keys ⊆ request.permission_profile.write_keys
  read_only : request.side_effect = .ReadOnly → request.write_keys = []
  minimum : minimum_risk_tier request.side_effect ≠ .R3
  declared : request.permission_profile.risk_tier ≠ .R3
  tier : (minimum_risk_tier request.side_effect).rank ≤ request.permission_profile.risk_tier.rank

/-! ## The reasons that are collected -/

/-- The reasons that `evaluate_guard_request` collects. -/
def collected_reasons (request : GuardRequest) (context : GuardEvaluationContext) :
    BTreeSet GuardDenyReason :=
  insert_if (minimum_risk_tier request.side_effect = .R3
      ∨ request.permission_profile.risk_tier = .R3) .R3DenyByDefault
    (insert_if (request.permission_profile.risk_tier.rank
        < (minimum_risk_tier request.side_effect).rank) .RiskTierMismatch
      (insert_if (blank context.approval_request_id) .BlankApprovalRequestId
        (validate_request request)))

theorem evaluate_of_empty (h : (collected_reasons request context).isEmpty = true) :
    evaluate_guard_request request context
      = match request.permission_profile.risk_tier with
        | .R0 => .Allow ∅
        | .R1 =>
          if !request.permission_profile.review_required then deny_missing_declaration
          else .Allow (.ofList [GuardRequirement.Reviewer])
        | .R2 => evaluate_r2 request context
        | .R3 => .Deny (.ofList [GuardDenyReason.R3DenyByDefault]) :=
  if_neg (not_not.mpr h)

theorem evaluate_of_nonempty (h : (collected_reasons request context).isEmpty = false) :
    evaluate_guard_request request context = .Deny (collected_reasons request context) := by
  have hne : ¬ (collected_reasons request context).isEmpty = true := by
    rw [h]
    exact Bool.false_ne_true
  exact if_pos hne

theorem mem_insert_if {c : Prop} [Decidable c] {added : GuardDenyReason}
    {reasons : BTreeSet GuardDenyReason} :
    reason ∈ insert_if c added reasons ↔ (c ∧ added = reason) ∨ reason ∈ reasons := by
  unfold insert_if
  by_cases hc : c
  · rw [if_pos hc, Std.ExtTreeSet.mem_insert, Std.LawfulEqCmp.compare_eq_iff_eq,
      and_iff_right hc]
  · rw [if_neg hc, or_iff_right fun h => hc h.1]

theorem has_descent_iff {keys : List String} :
    has_descent keys = true ↔ ¬ keys.Pairwise (· ≤ ·) := by
  rw [← List.isChain_iff_pairwise]
  induction keys with
  | nil => simp [has_descent]
  | cons a keys ih =>
    cases keys with
    | nil => simp [has_descent]
    | cons b keys =>
      rw [List.isChain_cons_cons, not_and_or, not_le, ← ih, has_descent, Bool.or_eq_true,
        decide_eq_true_iff]

theorem any_blank_iff {keys : List String} :
    keys.any blank = true ↔ ∃ key ∈ keys, blank key = true := List.any_eq_true

theorem mem_validate_keys {keys : List String} {reasons : BTreeSet GuardDenyReason} :
    reason ∈ validate_keys keys reasons ↔
      (¬ keys.Pairwise (· ≤ ·) ∧ GuardDenyReason.InvalidKey = reason) ∨
      (¬ keys.Nodup ∧ GuardDenyReason.DuplicateKey = reason) ∨
      ((∃ key ∈ keys, blank key = true) ∧ GuardDenyReason.BlankKey = reason) ∨
      reason ∈ reasons := by
  unfold validate_keys
  simp only [mem_insert_if, has_descent_iff, any_blank_iff, ne_eq, size_ofList_iff]

theorem is_subset_iff {requested permitted : List String} (hsorted : permitted.Pairwise (· ≤ ·)) :
    is_subset requested permitted = true ↔ requested ⊆ permitted := by
  unfold is_subset
  rw [List.all_eq_true]
  exact forall₂_congr fun key _ => found_iff hsorted

theorem subset_of_is_subset {requested permitted : List String}
    (h : is_subset requested permitted = true) : requested ⊆ permitted :=
  fun key hkey => mem_of_found (List.all_eq_true.mp h key hkey)

/-- One of the key lists has a property, from the list that is checked last on. -/
theorem exists_key_list {p : List String → Prop} : (∃ keys ∈ key_lists request, p keys) ↔
    p request.permission_profile.write_keys ∨ p request.permission_profile.resource_keys
      ∨ p request.write_keys ∨ p request.resource_keys := by
  simp only [key_lists, List.mem_cons, List.not_mem_nil, or_false, or_and_right, exists_or,
    exists_eq_left]
  tauto

/-- A reason is collected iff it applies, with the subset tests as the source makes them. -/
theorem mem_collected : reason ∈ collected_reasons request context ↔
    match reason with
    | .MissingResourcePermission =>
      is_subset request.resource_keys request.permission_profile.resource_keys = false
    | .MissingWritePermission =>
      is_subset request.write_keys request.permission_profile.write_keys = false
        ∨ request.side_effect = .ReadOnly ∧ request.write_keys ≠ []
    | reason => Applies request context reason := by
  unfold collected_reasons validate_request
  simp only [mem_insert_if, mem_validate_keys]
  -- each reason is inserted at one place, but for those of the four key lists
  cases reason <;> simp [Applies, exists_key_list]
  exact or_comm

/-- **Every reason that applies is collected.** -/
theorem Applies.collected (h : Applies request context reason) :
    reason ∈ collected_reasons request context := by
  rw [mem_collected]
  cases reason with
  | MissingResourcePermission =>
    exact Bool.eq_false_iff.mpr fun hsubset => h (subset_of_is_subset hsubset)
  | MissingWritePermission =>
    refine h.imp_left fun hnot => ?_
    exact Bool.eq_false_iff.mpr fun hsubset => hnot (subset_of_is_subset hsubset)
  | _ => exact h

/-- What is collected applies, unless it is a missed key of a profile that is not sorted. -/
theorem applies_of_collected (h : reason ∈ collected_reasons request context)
    (hsorted : ¬ Applies request context .InvalidKey) : Applies request context reason := by
  rw [mem_collected] at h
  have hpairwise : ∀ keys ∈ key_lists request, keys.Pairwise (· ≤ ·) := by
    intro keys hmem
    by_contra hdescent
    exact hsorted ⟨keys, hmem, hdescent⟩
  cases reason with
  | MissingResourcePermission =>
    intro hsubset
    -- the source searches the permitted keys by halves, which is exact where they are sorted
    rw [← is_subset_iff (hpairwise _ (by simp [key_lists])), h] at hsubset
    exact Bool.false_ne_true hsubset
  | MissingWritePermission =>
    refine h.imp_left fun hnot hsubset => ?_
    rw [← is_subset_iff (hpairwise _ (by simp [key_lists])), hnot] at hsubset
    exact Bool.false_ne_true hsubset
  | _ => exact h

/-- **A request is admissible iff no reason applies.** -/
theorem admissible_iff :
    Admissible request context ↔ ∀ reason, ¬ Applies request context reason := by
  constructor
  · intro h reason happlies
    cases reason with
    | UnsupportedContractVersion => exact happlies.elim (· h.contract_version) (· h.profile_version)
    | BlankGuardRequestId => exact absurd happlies (Bool.eq_false_iff.mp h.request_id)
    | BlankApprovalRequestId => exact absurd happlies (Bool.eq_false_iff.mp h.approval_request_id)
    | BlankOperationLabel => exact absurd happlies (Bool.eq_false_iff.mp h.operation_label)
    | InvalidKey =>
      obtain ⟨keys, hmem, hdescent⟩ := happlies
      exact hdescent ((h.keys keys hmem).1.imp le_of_lt)
    | DuplicateKey =>
      obtain ⟨keys, hmem, hduplicate⟩ := happlies
      exact hduplicate ((h.keys keys hmem).1.imp ne_of_lt)
    | BlankKey =>
      obtain ⟨keys, hmem, key, hkey, hblank⟩ := happlies
      exact absurd hblank (Bool.eq_false_iff.mp ((h.keys keys hmem).2 key hkey))
    | RiskTierMismatch => exact absurd h.tier (Nat.not_le_of_lt happlies)
    | MissingResourcePermission => exact happlies h.resources
    | MissingWritePermission => exact happlies.elim (· h.writes) fun hro => hro.2 (h.read_only hro.1)
    | MissingRequiredDeclaration => exact happlies
    | R3DenyByDefault => exact happlies.elim h.minimum h.declared
  · intro h
    -- each field of `Admissible` is what one reason denies
    have hversions := not_or.mp (h .UnsupportedContractVersion)
    have hwrites := not_or.mp (h .MissingWritePermission)
    have htiers := not_or.mp (h .R3DenyByDefault)
    refine ⟨Bool.eq_false_iff.mpr (h .BlankGuardRequestId),
      Bool.eq_false_iff.mpr (h .BlankApprovalRequestId),
      Bool.eq_false_iff.mpr (h .BlankOperationLabel), not_not.mp hversions.1,
      not_not.mp hversions.2, ?_, not_not.mp (h .MissingResourcePermission),
      not_not.mp hwrites.1, ?_, htiers.1, htiers.2, Nat.le_of_not_lt (h .RiskTierMismatch)⟩
    · intro keys hmem
      have hsorted : keys.Pairwise (· ≤ ·) := by
        by_contra hdescent
        exact h .InvalidKey ⟨keys, hmem, hdescent⟩
      have hnodup : keys.Nodup := by
        by_contra hduplicate
        exact h .DuplicateKey ⟨keys, hmem, hduplicate⟩
      -- sorted without repetition is strictly ascending
      refine ⟨(hsorted.and hnodup).imp fun h => lt_of_le_of_ne h.1 h.2, fun key hkey => ?_⟩
      exact Bool.eq_false_iff.mpr fun hblank => h .BlankKey ⟨keys, hmem, key, hkey, hblank⟩
    · intro hro
      by_contra hkeys
      exact hwrites.2 ⟨hro, hkeys⟩

/-- Nothing is collected iff the request is admissible. -/
theorem collected_empty_iff :
    (collected_reasons request context).isEmpty = true ↔ Admissible request context := by
  rw [admissible_iff, Std.ExtTreeSet.isEmpty_iff]
  constructor
  · intro hempty reason happlies
    have hmem := happlies.collected
    rw [hempty] at hmem
    exact Std.ExtTreeSet.not_mem_empty hmem
  · intro hnone
    refine set_ext fun reason => ?_
    constructor
    · intro hmem
      exact absurd (applies_of_collected hmem (hnone .InvalidKey)) (hnone reason)
    · exact fun hmem => absurd hmem Std.ExtTreeSet.not_mem_empty

/-! ## The decision -/

/-- The declarations a request of the second tier must have: approval and review, and an audit
for effects beyond the machine. -/
def Declared (request : GuardRequest) : Prop :=
  request.permission_profile.approval_required = true ∧
  request.permission_profile.review_required = true ∧
  (request.side_effect = .NetworkAction ∨ request.side_effect = .Publication
      ∨ request.side_effect = .ExternalSideEffect →
    request.permission_profile.audit_required = true)

/-- The approval request that carries a request. -/
def approval_of (request : GuardRequest) (context : GuardEvaluationContext) : ApprovalRequest where
  contract_version := ContractVersion.current
  id := context.approval_request_id
  guard_request := request
  requested_at := context.requested_at

/-- What the declared tier decides of an admissible request. -/
def TierDecides (request : GuardRequest) (context : GuardEvaluationContext)
    (outcome : GuardOutcome) : Prop :=
  match request.permission_profile.risk_tier with
  | .R0 => outcome = .Allow ∅
  | .R1 =>
    if request.permission_profile.review_required = true then
      outcome = .Allow (.ofList [GuardRequirement.Reviewer])
    else outcome = deny_missing_declaration
  | .R2 =>
    (Declared request → ∃ gates, outcome = .PauseForApproval (approval_of request context) gates
      ∧ ∀ gate, gate ∈ gates ↔
        (gate = .Auditor → request.permission_profile.audit_required = true)) ∧
    (¬ Declared request → outcome = deny_missing_declaration)
  | .R3 => False

theorem conditional_audit_iff {side_effect : SideEffectClass} :
    conditional_audit side_effect = true ↔ side_effect = .NetworkAction
      ∨ side_effect = .Publication ∨ side_effect = .ExternalSideEffect := by
  cases side_effect <;> simp [conditional_audit]

theorem missing_declaration_iff :
    (!request.permission_profile.approval_required || !request.permission_profile.review_required
      || (conditional_audit request.side_effect && !request.permission_profile.audit_required))
        = true ↔ ¬ Declared request := by
  unfold Declared
  rw [← conditional_audit_iff]
  simp only [Bool.or_eq_true, Bool.and_eq_true, Bool.not_eq_true']
  cases request.permission_profile.approval_required <;>
    cases request.permission_profile.review_required <;>
      cases conditional_audit request.side_effect <;> simp

theorem evaluate_r2_declared (h : Declared request) :
    ∃ gates, evaluate_r2 request context = .PauseForApproval (approval_of request context) gates
      ∧ ∀ gate, gate ∈ gates ↔
        (gate = .Auditor → request.permission_profile.audit_required = true) := by
  refine ⟨_, if_neg fun hmissing => missing_declaration_iff.mp hmissing h, fun gate => ?_⟩
  by_cases haudit : request.permission_profile.audit_required = true
  · -- the auditor is added to the two gates that every pause has
    rw [if_pos haudit, Std.ExtTreeSet.mem_insert, Std.LawfulEqCmp.compare_eq_iff_eq,
      mem_set_ofList]
    cases gate <;> simp [haudit]
  · rw [if_neg haudit, mem_set_ofList]
    cases gate <;> simp [haudit]

theorem Admissible.decides (h : Admissible request context) :
    TierDecides request context (evaluate_guard_request request context) := by
  rw [evaluate_of_empty (collected_empty_iff.mpr h)]
  unfold TierDecides
  cases htier : request.permission_profile.risk_tier with
  | R0 => rfl
  | R1 =>
    by_cases hreview : request.permission_profile.review_required = true
    · simp [hreview]
    · simp [hreview]
  | R2 => exact ⟨evaluate_r2_declared, fun h => if_pos (missing_declaration_iff.mpr h)⟩
  | R3 => exact h.declared htier

/-- A request that is not admissible is denied, with the reasons that were collected. -/
theorem denied_of_not_admissible (h : ¬ Admissible request context) :
    evaluate_guard_request request context = .Deny (collected_reasons request context) := by
  refine evaluate_of_nonempty (Bool.eq_false_iff.mpr fun hempty => ?_)
  exact h (collected_empty_iff.mp hempty)

/-- An admissible request whose side effect needs the second tier declares it. -/
theorem Admissible.second_tier (h : Admissible request context)
    (hminimum : minimum_risk_tier request.side_effect = .R2) :
    request.permission_profile.risk_tier = .R2 := by
  -- the tiers below are less than the minimum, and the third is not admissible
  have htier := h.tier
  rw [hminimum] at htier
  cases hdeclared : request.permission_profile.risk_tier with
  | R0 =>
    rw [hdeclared] at htier
    exact absurd htier (by decide)
  | R1 =>
    rw [hdeclared] at htier
    exact absurd htier (by decide)
  | R2 => rfl
  | R3 => exact absurd hdeclared h.declared

theorem Admissible.not_allowed (h : Admissible request context)
    (hminimum : minimum_risk_tier request.side_effect = .R2) (gates : BTreeSet GuardRequirement) :
    evaluate_guard_request request context ≠ .Allow gates := by
  have hdecides := h.decides
  unfold TierDecides at hdecides
  rw [h.second_tier hminimum] at hdecides
  -- in the second tier a request is paused or denied
  by_cases hdeclared : Declared request
  · obtain ⟨_, hpause, -⟩ := hdecides.1 hdeclared
    rw [hpause]
    exact GuardOutcome.noConfusion
  · rw [hdecides.2 hdeclared]
    exact GuardOutcome.noConfusion

/-- **The guard policy, exactly.** A request is denied with every reason that applies unless it
is admissible, and then its tier decides. A request whose side effect needs the second tier is
never allowed without a pause, and one that needs the third is denied. -/
theorem guard_policy_exact (request : GuardRequest) (context : GuardEvaluationContext) :
    (¬ Admissible request context → ∃ reasons,
      evaluate_guard_request request context = .Deny reasons ∧
      (∀ reason, Applies request context reason → reason ∈ reasons) ∧
      (¬ Applies request context .InvalidKey →
        ∀ reason ∈ reasons, Applies request context reason)) ∧
    (Admissible request context →
      TierDecides request context (evaluate_guard_request request context)) ∧
    (minimum_risk_tier request.side_effect = .R2 → ∀ gates,
      evaluate_guard_request request context ≠ .Allow gates) ∧
    (minimum_risk_tier request.side_effect = .R3 → ∃ reasons,
      evaluate_guard_request request context = .Deny reasons) := by
  refine ⟨fun h => ?_, Admissible.decides, fun hminimum gates => ?_, fun hminimum => ?_⟩
  · exact ⟨_, denied_of_not_admissible h, fun _ happlies => happlies.collected,
      fun hsorted reason hmem => applies_of_collected hmem hsorted⟩
  · by_cases h : Admissible request context
    · exact h.not_allowed hminimum gates
    · rw [denied_of_not_admissible h]
      exact GuardOutcome.noConfusion
  · exact ⟨_, denied_of_not_admissible fun h => h.minimum hminimum⟩

end OvcaCore.Guardrails

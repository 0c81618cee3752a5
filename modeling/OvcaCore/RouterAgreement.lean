/-
When the two routers of failures agree.

Both check the same texts (`valid_symbolic_name_eq`), the same records
(`failure_record_error_eq_none`) and the same bindings in the same order (`route_valid_eq`).
They differ in one place: the Rust router also asks that a prior record which is itself a
confirmed product bug or fragile test has its own provisional record in the collection, and
the script asks that of the current record only (`routers_agree_iff`).
-/
import OvcaCore.SymbolicNames

set_option autoImplicit false

namespace OvcaCore

open OvcaCore.Checks OvcaCore.OrderedMaps

namespace RevisionLoop

/-! ## Records -/

/-- What one classified failure is on both sides of the wire: its time is in whole
microseconds, and the two languages agree on whether its summary is blank. -/
structure Wire (strip : String → String) (classification : ClassifiedVerificationFailure) :
    Prop where
  canonical_time : classification.failure.recorded_at % 1000 = 0
  trimmed : strip classification.failure.summary = "" ↔
    blank classification.failure.summary = true

variable {strip : String → String} {failure prior : ClassifiedVerificationFailure}
  {prior_failure : Option ClassifiedVerificationFailure} {state : RevisionState}
  {bindings : FailureOwnerBindings}

/-- `if c: return error`, and then the rest. -/
theorem error_if_eq_none {α : Type} {c : Prop} [Decidable c] {e : α} {rest : Option α} :
    (if c then some e else rest) = none ↔ ¬ c ∧ rest = none := by
  by_cases hc : c <;> simp [hc]

theorem valid_symbolic_actor_eq (actor : Option String) :
    valid_symbolic_actor actor = actor.any LocalVerification.validate_stable_id := by
  unfold valid_symbolic_actor
  congr 1
  funext value
  exact valid_symbolic_name_eq value

/-- An identifier that may be absent. -/
theorem optional_actor_iff (actor : Option String) :
    ¬ (actor ≠ none ∧ ¬ valid_symbolic_actor actor = true) ↔
      actor.all LocalVerification.validate_stable_id = true := by
  rw [valid_symbolic_actor_eq]
  rcases actor with _ | actor <;> simp

/-- The link of a record to a superseded one is another record's identifier. -/
theorem other_identifier_iff {supersedes : Option String} {failure_id : String} :
    (supersedes.all fun value => LocalVerification.validate_stable_id value && value != failure_id)
        = true ↔
      supersedes.all LocalVerification.validate_stable_id = true
        ∧ supersedes ≠ some failure_id := by
  rcases supersedes with _ | value <;> simp

theorem validate_confirmation_iff {record : VerificationFailure} :
    record.validate_confirmation = true ↔
      (FailureRouting.sensitive record.category = true →
        (record.confirmation = .Provisional ↔ record.supersedes_failure_id = none)) := by
  unfold VerificationFailure.validate_confirmation FailureRouting.sensitive
  rcases record.category <;> rcases record.confirmation <;>
    simp [Option.isSome_iff_ne_none]

theorem supersession_error_eq_none :
    supersession_error (record_of failure) = none ↔
      failure.failure.validate_confirmation = true := by
  rw [validate_confirmation_iff]
  unfold supersession_error record_of
  by_cases hsensitive : FailureRouting.sensitive failure.failure.category = true
  · by_cases hprovisional : failure.failure.confirmation = .Provisional <;>
      simp [hsensitive, hprovisional]
  · simp [hsensitive]

/-- Both routers accept the same records. -/
theorem failure_record_error_eq_none (h : Wire strip failure) :
    failure_record_error strip (record_of failure) = none ↔ failure.validate = true := by
  have hcast : ∀ n : ℕ, (n : ℤ) = 1 ↔ n = 1 := by
    intro n
    omega
  have hversion : ((record_of failure).contract_version = 1) ↔
      failure.failure.contract_version = LOCAL_VERIFICATION_CONTRACT_VERSION :=
    hcast failure.failure.contract_version
  unfold failure_record_error
  simp only [error_if_eq_none, optional_actor_iff, ne_eq, not_not, hversion,
    valid_symbolic_name_eq, supersession_error_eq_none]
  simp only [record_of, h.trimmed]
  unfold ClassifiedVerificationFailure.validate VerificationFailure.validate
    LocalVerification.validate_text
  simp only [Bool.and_eq_true, beq_iff_eq, other_identifier_iff, contains_nul, h.canonical_time,
    Bool.not_eq_true', not_or, Bool.not_eq_true]
  tauto

end RevisionLoop

/-! ## Owners -/

/-- The route of the Rust router in the words of the script. -/
def VerificationFailureRoute.record (route : VerificationFailureRoute) : FailureRoute where
  directive := route.directive
  category := some route.category
  owner_binding := route.owner_binding
  target_owner := route.target_owner

section Owners

open FailureRouting

variable {failure : ClassifiedVerificationFailure} {bindings : FailureOwnerBindings}
  {binding : FailureOwnerBinding} {actor : String} {state : RevisionState}

/-- A binding to a valid identifier. -/
def BoundTo (bindings : FailureOwnerBindings) (binding : FailureOwnerBinding) (actor : String) :
    Prop :=
  binding_of bindings binding = some actor ∧ LocalVerification.validate_stable_id actor = true

theorem BoundTo.required (h : BoundTo bindings binding actor) :
    require_binding failure bindings binding = .ok actor := by
  unfold require_binding
  rw [h.1, ok_or, ok_bind, reject_if_of_not (not_not.mpr h.2)]
  rfl

theorem BoundTo.valid (h : BoundTo bindings binding actor) :
    RevisionLoop.valid_symbolic_actor (binding_of bindings binding) = true := by
  rw [RevisionLoop.valid_symbolic_actor_eq, h.1]
  exact h.2

/-- A required binding is there and valid, or both routers stop at it. -/
theorem bound_or_blocked (failure : ClassifiedVerificationFailure)
    (bindings : FailureOwnerBindings) (binding : FailureOwnerBinding) :
    (∃ actor, BoundTo bindings binding actor) ∨
      (require_binding failure bindings binding = .error (blocked failure (some binding))
        ∧ ¬ RevisionLoop.valid_symbolic_actor (binding_of bindings binding) = true) := by
  rw [RevisionLoop.valid_symbolic_actor_eq]
  unfold require_binding BoundTo
  rcases binding_of bindings binding with _ | actor
  · exact .inr ⟨rfl, Bool.false_ne_true⟩
  · by_cases hvalid : LocalVerification.validate_stable_id actor = true
    · exact .inl ⟨actor, rfl, hvalid⟩
    · refine .inr ⟨?_, hvalid⟩
      rw [ok_or, ok_bind, reject_if_of hvalid]
      rfl

theorem required_owner_binding_eq (category : VerificationFailureCategory) :
    RevisionLoop.required_owner_binding category = failure_owner_binding category := by
  rcases category <;> rfl

/-- Once the classification is valid, both routers go the same way. -/
theorem route_valid_eq :
    RevisionLoop.route_valid (RevisionLoop.record_of failure) state bindings
      = (returned (route_owner failure bindings (RevisionLoop.should_retry state))).record := by
  unfold route_owner RevisionLoop.route_valid
  rcases bound_or_blocked failure bindings .ImplementationActor with
    ⟨implementation, himplementation⟩ | ⟨hstop, hinvalid⟩
  swap
  · rw [hstop, error_bind]
    exact if_pos hinvalid
  have hvalid : RevisionLoop.valid_symbolic_actor bindings.implementation_actor = true :=
    himplementation.valid
  rw [himplementation.required, ok_bind, if_neg (not_not.mpr hvalid)]
  rcases bound_or_blocked failure bindings .VerifierActor with
    ⟨verifier, hverifier⟩ | ⟨hstop, hinvalid⟩
  swap
  · rw [hstop, error_bind]
    exact if_pos hinvalid
  have hvalid : RevisionLoop.valid_symbolic_actor bindings.verifier_actor = true :=
    hverifier.valid
  rw [hverifier.required, ok_bind, if_neg (not_not.mpr hvalid)]
  by_cases hsame : bindings.implementation_actor = bindings.verifier_actor
  · rw [reject_if_of hsame, error_bind, if_pos hsame]
    rfl
  rw [reject_if_of_not hsame, ok_bind, if_neg hsame]
  by_cases hawaiting : failure.failure.confirmation = .Provisional
      ∧ sensitive failure.failure.category = true
  · have hdirective : directive_of failure (RevisionLoop.should_retry state)
        = (.AwaitingConfirmation, .ConfirmationOwner) := if_pos hawaiting
    rw [hdirective]
    refine (if_pos hawaiting).trans ?_
    dsimp only
    rcases bound_or_blocked failure bindings .ConfirmationOwner with
      ⟨owner, howner⟩ | ⟨hstop, hinvalid⟩
    swap
    · rw [hstop, error_bind]
      exact if_pos hinvalid
    have hvalid : RevisionLoop.valid_symbolic_actor bindings.confirmation_owner = true :=
      howner.valid
    have hbound : bindings.confirmation_owner = some owner := howner.1
    rw [howner.required, ok_bind, if_neg (not_not.mpr hvalid), hbound]
    by_cases hclassifier : owner = failure.classifier_actor
    · rw [reject_if_of ⟨rfl, hclassifier⟩, error_bind]
      exact if_pos (congrArg some hclassifier)
    · rw [reject_if_of_not (fun h => hclassifier h.2), ok_bind]
      exact if_neg fun h => hclassifier (Option.some.inj h)
  · have hdirective : directive_of failure (RevisionLoop.should_retry state)
        = (if RevisionLoop.should_retry state then .Retry else .EscalateToOwner,
          failure_owner_binding failure.failure.category) := if_neg hawaiting
    have hcategory : (RevisionLoop.record_of failure).category = failure.failure.category := rfl
    rw [hdirective]
    refine (if_neg hawaiting).trans ?_
    dsimp only
    rw [required_owner_binding_eq, hcategory]
    rcases bound_or_blocked failure bindings (failure_owner_binding failure.failure.category) with
      ⟨owner, howner⟩ | ⟨hstop, hinvalid⟩
    swap
    · rw [hstop, error_bind]
      exact if_pos hinvalid
    rw [howner.required, ok_bind, if_neg (not_not.mpr howner.valid), howner.1]
    by_cases hretry : RevisionLoop.should_retry state = true
    · rw [if_pos hretry, if_pos hretry, reject_if_of_not (fun h => nomatch h.1), ok_bind]
      rfl
    · rw [if_neg hretry, if_neg hretry, reject_if_of_not (fun h => nomatch h.1), ok_bind]
      rfl

end Owners

/-! ## Collections of classified failures -/

/-- A product bug or a fragile test that is reported as confirmed. -/
def ConfirmedSensitive (classification : ClassifiedVerificationFailure) : Prop :=
  classification.failure.confirmation = .Confirmed
    ∧ FailureRouting.sensitive classification.failure.category = true

/-- A later record confirms an earlier provisional one, by another classifier. -/
structure Supersedes (later earlier : ClassifiedVerificationFailure) : Prop where
  identified : later.failure.supersedes_failure_id = some earlier.failure.failure_id
  provisional : earlier.failure.confirmation = .Provisional
  same_category : earlier.failure.category = later.failure.category
  same_criterion : earlier.failure.criterion_id = later.failure.criterion_id
  not_later : earlier.failure.recorded_at ≤ later.failure.recorded_at
  independent : earlier.classifier_actor ≠ later.classifier_actor

theorem Supersedes.not_confirmed {later earlier : ClassifiedVerificationFailure}
    (h : Supersedes later earlier) : ¬ ConfirmedSensitive earlier := by
  intro hconfirmed
  have hprovisional := h.provisional
  rw [hconfirmed.1] at hprovisional
  exact nomatch hprovisional

namespace FailureRouting

/-- The index of a collection has its records under their identifiers. -/
def Indexed (by_id : BTreeMap String ClassifiedVerificationFailure)
    (classifications : List ClassifiedVerificationFailure) : Prop :=
  ∀ failure_id classification, by_id[failure_id]? = some classification ↔
    classification ∈ classifications ∧ classification.failure.failure_id = failure_id

/-- What the first loop has established of the records it has gone through. -/
structure Collected (classifications : List ClassifiedVerificationFailure)
    (by_id : BTreeMap String ClassifiedVerificationFailure) : Prop where
  indexed : Indexed by_id classifications
  valid : ∀ classification ∈ classifications, classification.validate = true
  distinct : (classifications.map (·.failure.failure_id)).Nodup

variable {by_id by_id' : BTreeMap String ClassifiedVerificationFailure}
  {classifications : List ClassifiedVerificationFailure}
  {classification : ClassifiedVerificationFailure}

theorem insert_classification_eq_ok : insert_classification by_id classification = .ok by_id' ↔
    classification.validate = true ∧ by_id[classification.failure.failure_id]? = none
      ∧ by_id.insert classification.failure.failure_id classification = by_id' := by
  simp only [insert_classification, bind_eq_ok, reject_if_eq_ok, pure_eq_ok, exists_const,
    Bool.not_eq_true, Bool.not_eq_false]
  rw [Std.ExtTreeMap.contains_eq_isSome_getElem?, Option.isSome_eq_false_iff,
    Option.isNone_iff_eq_none]

/-- A record under a new identifier extends the index. -/
theorem Indexed.insert (h : Indexed by_id classifications)
    (hnew : by_id[classification.failure.failure_id]? = none) :
    Indexed (by_id.insert classification.failure.failure_id classification)
      (classifications ++ [classification]) := by
  intro failure_id found
  rw [get_insert, List.mem_append, List.mem_singleton]
  by_cases hid : classification.failure.failure_id = failure_id
  · rw [if_pos hid, Option.some_inj]
    constructor
    · rintro rfl
      exact ⟨.inr rfl, hid⟩
    · rintro ⟨hmem | hsame, hfound⟩
      · rw [hid, (h failure_id found).mpr ⟨hmem, hfound⟩] at hnew
        exact nomatch hnew
      · exact hsame.symm
  · rw [if_neg hid, h failure_id found]
    constructor
    · intro ⟨hmem, hfound⟩
      exact ⟨.inl hmem, hfound⟩
    · rintro ⟨hmem | rfl, hfound⟩
      · exact ⟨hmem, hfound⟩
      · exact absurd hfound hid

theorem Collected.start : Collected [] ∅ where
  indexed failure_id found := by simp
  valid := List.forall_mem_nil _
  distinct := List.nodup_nil

theorem Collected.is_new (h : Collected classifications by_id) :
    by_id[classification.failure.failure_id]? = none ↔
      classification.failure.failure_id ∉ classifications.map (·.failure.failure_id) := by
  rw [Option.eq_none_iff_forall_ne_some, List.mem_map]
  constructor
  · rintro hnone ⟨found, hmem, hid⟩
    exact hnone found ((h.indexed _ found).mpr ⟨hmem, hid⟩)
  · intro hnew found hfound
    exact hnew ⟨found, (h.indexed _ found).mp hfound⟩

theorem Collected.step (h : Collected classifications by_id)
    (hinsert : insert_classification by_id classification = .ok by_id') :
    Collected (classifications ++ [classification]) by_id' := by
  obtain ⟨hvalid, hnew, rfl⟩ := insert_classification_eq_ok.mp hinsert
  refine ⟨h.indexed.insert hnew, ?_, ?_⟩
  · intro found hmem
    rcases List.mem_append.mp hmem with hmem | hmem
    · exact h.valid found hmem
    · rw [List.mem_singleton.mp hmem]
      exact hvalid
  · rw [List.map_append, List.map_singleton, List.nodup_append]
    refine ⟨h.distinct, List.nodup_singleton _, ?_⟩
    intro past hpast new hsingleton
    rw [List.mem_singleton.mp hsingleton]
    rintro rfl
    exact h.is_new.mp hnew hpast

/-- The first loop goes through exactly the collections of valid records with distinct
identifiers. -/
theorem collected_iff :
    (∃ by_id, fold_checked insert_classification ∅ classifications = .ok by_id) ↔
      (∀ classification ∈ classifications, classification.validate = true)
        ∧ (classifications.map (·.failure.failure_id)).Nodup := by
  constructor
  · intro ⟨by_id, hfold⟩
    have h := fold_checked_prefix (I := Collected) Collected.step Collected.start hfold
    exact ⟨h.valid, h.distinct⟩
  · intro ⟨hvalid, hdistinct⟩
    have hstep : ∀ past classification rest by_id, classifications = past ++ classification :: rest →
        Collected past by_id → ∃ by_id', insert_classification by_id classification = .ok by_id'
          ∧ Collected (past ++ [classification]) by_id' := by
      intro past classification rest by_id hsplit hpast
      subst hsplit
      have hnew : by_id[classification.failure.failure_id]? = none := by
        rw [hpast.is_new]
        rw [List.map_append, List.map_cons, List.nodup_append] at hdistinct
        exact fun hmem => hdistinct.2.2 _ hmem _ List.mem_cons_self rfl
      have hinsert := insert_classification_eq_ok.mpr
        ⟨hvalid classification (List.mem_append_right _ List.mem_cons_self), hnew, rfl⟩
      exact ⟨_, hinsert, hpast.step hinsert⟩
    obtain ⟨by_id, hfold, -⟩ := fold_checked_progress hstep Collected.start
    exact ⟨by_id, hfold⟩

/-- A confirmed sensitive record has the record it supersedes in the collection. -/
theorem check_confirmation_eq_ok (h : Indexed by_id classifications) :
    check_confirmation by_id classification = .ok () ↔
      (ConfirmedSensitive classification →
        ∃ earlier ∈ classifications, Supersedes classification earlier) := by
  have hskip : (classification.failure.confirmation ≠ .Confirmed
      ∨ ¬ sensitive classification.failure.category = true) ↔ ¬ ConfirmedSensitive classification :=
    not_and_or.symm
  unfold check_confirmation
  dsimp only
  by_cases hconfirmed : ConfirmedSensitive classification
  · rw [if_neg (fun hne => hskip.mp hne hconfirmed)]
    simp only [bind_eq_ok, ok_or_eq_ok, reject_if_eq_ok, exists_const, not_or, ne_eq, not_not,
      not_lt, gt_iff_lt]
    constructor
    · rintro ⟨superseded_id, hsupersedes, earlier, hearlier, hprior, hcausal, hindependent⟩ -
      obtain ⟨hmem, rfl⟩ := (h superseded_id earlier).mp hearlier
      exact ⟨earlier, hmem, hsupersedes, hprior.1, hprior.2.1, hprior.2.2, hcausal, hindependent⟩
    · intro hlinked
      obtain ⟨earlier, hmem, hearlier⟩ := hlinked hconfirmed
      exact ⟨_, hearlier.identified, earlier, (h _ earlier).mpr ⟨hmem, rfl⟩,
        ⟨hearlier.provisional, hearlier.same_category, hearlier.same_criterion⟩,
        hearlier.not_later, hearlier.independent⟩
  · rw [if_pos (hskip.mpr hconfirmed)]
    exact ⟨fun _ hc => absurd hc hconfirmed, fun _ => rfl⟩

/-- **The Rust router checks the links of every record of a collection.** -/
theorem validate_failure_classifications_eq_ok :
    validate_failure_classifications classifications = .ok () ↔
      (∀ classification ∈ classifications, classification.validate = true)
        ∧ (classifications.map (·.failure.failure_id)).Nodup
        ∧ ∀ classification ∈ classifications, ConfirmedSensitive classification →
          ∃ earlier ∈ classifications, Supersedes classification earlier := by
  simp only [validate_failure_classifications, bind_eq_ok, check_all_eq_ok]
  rw [← and_assoc, ← collected_iff]
  constructor
  · rintro ⟨by_id, hfold, hlinks⟩
    have h := fold_checked_prefix (I := Collected) Collected.step Collected.start hfold
    exact ⟨⟨by_id, hfold⟩, fun classification hmem =>
      (check_confirmation_eq_ok h.indexed).mp (hlinks classification hmem)⟩
  · rintro ⟨⟨by_id, hfold⟩, hlinks⟩
    have h := fold_checked_prefix (I := Collected) Collected.step Collected.start hfold
    exact ⟨by_id, hfold, fun classification hmem =>
      (check_confirmation_eq_ok h.indexed).mpr (hlinks classification hmem)⟩

end FailureRouting

/-! ## What each router accepts -/

section Accepted

open FailureRouting
open RevisionLoop (Wire)

variable {strip : String → String} {failure : ClassifiedVerificationFailure}
  {prior_failure : Option ClassifiedVerificationFailure} {state : RevisionState}
  {bindings : FailureOwnerBindings} {score : ℚ}

/-- The checks that both routers make: of each record, and of the link of the current one. -/
structure Accepted (failure : ClassifiedVerificationFailure)
    (prior_failure : Option ClassifiedVerificationFailure) : Prop where
  valid : failure.validate = true
  prior_valid : ∀ earlier, prior_failure = some earlier →
    earlier.validate = true ∧ earlier.failure.failure_id ≠ failure.failure.failure_id
  confirmed : ConfirmedSensitive failure →
    ∃ earlier, prior_failure = some earlier ∧ Supersedes failure earlier

/-- The check that only the Rust router makes: the link of the prior record. -/
def PriorLinked (failure : ClassifiedVerificationFailure)
    (prior_failure : Option ClassifiedVerificationFailure) : Prop :=
  ∀ earlier, prior_failure = some earlier → ConfirmedSensitive earlier → Supersedes earlier failure

theorem supersedes_irrefl : ¬ Supersedes failure failure := fun h => h.independent rfl

theorem rust_accepts_iff :
    validate_failure_classifications (prior_failure.toList ++ [failure]) = .ok () ↔
      Accepted failure prior_failure ∧ PriorLinked failure prior_failure := by
  rw [validate_failure_classifications_eq_ok]
  rcases prior_failure with _ | prior
  · simp only [Option.toList_none, List.nil_append, List.mem_singleton, forall_eq, exists_eq_left]
    constructor
    · rintro ⟨hvalid, -, hconfirmed⟩
      refine ⟨⟨hvalid, (fun _ hnone => nomatch hnone), ?_⟩, fun _ hnone => nomatch hnone⟩
      exact fun hc => absurd (hconfirmed hc) supersedes_irrefl
    · rintro ⟨haccepted, -⟩
      refine ⟨haccepted.valid, List.nodup_singleton _, fun hc => ?_⟩
      obtain ⟨earlier, hnone, -⟩ := haccepted.confirmed hc
      exact nomatch hnone
  · simp only [Option.toList_some, List.singleton_append, List.mem_cons, List.not_mem_nil,
      or_false, forall_eq_or_imp, forall_eq, exists_eq_or_imp, exists_eq_left, List.map_cons,
      List.map_nil, List.nodup_cons, supersedes_irrefl, false_or, not_false_eq_true,
      List.nodup_nil, and_true]
    constructor
    · intro ⟨⟨hprior, hvalid⟩, hdistinct, hlinked, hconfirmed⟩
      refine ⟨⟨hvalid, ?_, ?_⟩, ?_⟩
      · rintro _ ⟨⟩
        exact ⟨hprior, hdistinct⟩
      · exact fun hc => ⟨prior, rfl, hconfirmed hc⟩
      · rintro _ ⟨⟩
        exact hlinked
    · intro ⟨haccepted, hlinked⟩
      obtain ⟨hprior, hdistinct⟩ := haccepted.prior_valid prior rfl
      refine ⟨⟨hprior, haccepted.valid⟩, hdistinct, hlinked prior rfl, fun hc => ?_⟩
      obtain ⟨_, ⟨⟩, hsupersedes⟩ := haccepted.confirmed hc
      exact hsupersedes

/-- A whole number of microseconds keeps its order when it is written as one. -/
theorem recorded_later_iff {earlier : ClassifiedVerificationFailure} (h : Wire strip failure)
    (hearlier : Wire strip earlier) :
    (RevisionLoop.record_of earlier).recorded_at > (RevisionLoop.record_of failure).recorded_at ↔
      ¬ earlier.failure.recorded_at ≤ failure.failure.recorded_at := by
  have hcast : ∀ a b : ℤ, a % 1000 = 0 → b % 1000 = 0 → (a / 1000 > b / 1000 ↔ ¬ a ≤ b) := by
    intro a b ha hb
    omega
  exact hcast _ _ hearlier.canonical_time h.canonical_time

theorem confirmation_error_eq_none (h : Wire strip failure)
    (hprior : ∀ earlier, prior_failure = some earlier → Wire strip earlier) :
    RevisionLoop.confirmation_error (RevisionLoop.record_of failure)
        (prior_failure.map RevisionLoop.record_of) = none ↔
      ∃ earlier, prior_failure = some earlier ∧ Supersedes failure earlier := by
  rcases prior_failure with _ | prior
  · exact ⟨(fun hnone => nomatch hnone), fun ⟨_, hnone, _⟩ => nomatch hnone⟩
  · rw [Option.map_some]
    unfold RevisionLoop.confirmation_error
    simp only [RevisionLoop.error_if_eq_none, recorded_later_iff h (hprior prior rfl), ne_eq,
      not_not, and_true, Option.some_inj, exists_eq_left']
    constructor
    · intro ⟨hid, hprovisional, hcategory, hcriterion, hindependent, htime⟩
      exact ⟨hid.symm, hprovisional, hcategory, hcriterion, htime, hindependent⟩
    · intro hsupersedes
      exact ⟨hsupersedes.identified.symm, hsupersedes.provisional, hsupersedes.same_category,
        hsupersedes.same_criterion, hsupersedes.independent, hsupersedes.not_later⟩

theorem prior_error_eq_none
    (hprior : ∀ earlier, prior_failure = some earlier → Wire strip earlier) :
    RevisionLoop.prior_error strip (RevisionLoop.record_of failure)
        (prior_failure.map RevisionLoop.record_of) = none ↔
      ∀ earlier, prior_failure = some earlier →
        earlier.validate = true ∧ earlier.failure.failure_id ≠ failure.failure.failure_id := by
  rcases prior_failure with _ | prior
  · exact ⟨(fun _ _ hnone => nomatch hnone), fun _ => rfl⟩
  · have hrecord := RevisionLoop.failure_record_error_eq_none (hprior prior rfl)
    rw [Option.map_some]
    unfold RevisionLoop.prior_error
    simp only [Option.some_inj, forall_eq', ← hrecord]
    rcases hvalid : RevisionLoop.failure_record_error strip (RevisionLoop.record_of prior) with _ | e
    · dsimp only
      rw [RevisionLoop.error_if_eq_none]
      exact ⟨fun hdistinct => ⟨rfl, hdistinct.1⟩, fun hdistinct => ⟨hdistinct.2, rfl⟩⟩
    · exact ⟨(fun herror => nomatch herror), fun herror => nomatch herror.1⟩

/-- The script makes the shared checks, and no other. -/
theorem script_accepts_iff (h : Wire strip failure)
    (hprior : ∀ earlier, prior_failure = some earlier → Wire strip earlier) :
    RevisionLoop.classification_error strip (RevisionLoop.record_of failure)
        (prior_failure.map RevisionLoop.record_of) = none ↔
      Accepted failure prior_failure := by
  have hvalid := RevisionLoop.failure_record_error_eq_none h
  have hprior_valid := @prior_error_eq_none _ failure _ hprior
  have hlinked := confirmation_error_eq_none h hprior
  have hskip : (¬ sensitive (RevisionLoop.record_of failure).category = true
      ∨ (RevisionLoop.record_of failure).confirmation = .Provisional) ↔
        ¬ ConfirmedSensitive failure := by
    unfold ConfirmedSensitive RevisionLoop.record_of
    rcases failure.failure.confirmation <;> simp
  unfold RevisionLoop.classification_error
  rcases hrecord : RevisionLoop.failure_record_error strip (RevisionLoop.record_of failure)
    with _ | e
  swap
  · rw [hrecord] at hvalid
    exact ⟨(fun herror => nomatch herror), fun haccepted => nomatch hvalid.mpr haccepted.valid⟩
  rcases hother : RevisionLoop.prior_error strip (RevisionLoop.record_of failure)
    (prior_failure.map RevisionLoop.record_of) with _ | e
  swap
  · rw [hother] at hprior_valid
    exact ⟨(fun herror => nomatch herror), fun haccepted =>
      nomatch hprior_valid.mpr haccepted.prior_valid⟩
  dsimp only
  by_cases hconfirmed : ConfirmedSensitive failure
  · rw [if_neg (fun hne => hskip.mp hne hconfirmed), hlinked]
    constructor
    · intro hconfirms
      exact ⟨hvalid.mp hrecord, hprior_valid.mp hother, fun _ => hconfirms⟩
    · intro haccepted
      exact haccepted.confirmed hconfirmed
  · rw [if_pos (hskip.mpr hconfirmed)]
    constructor
    · intro _
      exact ⟨hvalid.mp hrecord, hprior_valid.mp hother, fun hc => absurd hc hconfirmed⟩
    · exact fun _ => rfl

/-! ## Agreement -/

/-- One valid actor is bound as implementer and as verifier. -/
def OneActor (bindings : FailureOwnerBindings) : Prop :=
  ∃ actor, BoundTo bindings .ImplementationActor actor ∧ BoundTo bindings .VerifierActor actor

/-- The route of a valid classification: blocked for want of independence, blocked at a
binding, or to the owner that the failure calls for. -/
theorem route_owner_cases (failure : ClassifiedVerificationFailure)
    (bindings : FailureOwnerBindings) (retry_permitted : Bool) :
    (OneActor bindings
        ∧ returned (route_owner failure bindings retry_permitted) = blocked failure none)
      ∨ (¬ OneActor bindings ∧ ∃ binding,
        returned (route_owner failure bindings retry_permitted) = blocked failure (some binding))
      ∨ (¬ OneActor bindings ∧ ∃ owner,
        ((directive_of failure retry_permitted).1 = .AwaitingConfirmation →
          owner ≠ failure.classifier_actor)
        ∧ returned (route_owner failure bindings retry_permitted)
          = ⟨(directive_of failure retry_permitted).1, failure.failure.category,
              some (directive_of failure retry_permitted).2, some owner⟩) := by
  have hdiffer : bindings.implementation_actor ≠ bindings.verifier_actor → ¬ OneActor bindings :=
    fun hne ⟨_, himplementation, hverifier⟩ => hne (himplementation.1.trans hverifier.1.symm)
  unfold route_owner
  rcases bound_or_blocked failure bindings .ImplementationActor with
    ⟨implementation, himplementation⟩ | ⟨hstop, hinvalid⟩
  swap
  · rw [hstop, error_bind]
    exact .inr (.inl ⟨fun ⟨_, h, _⟩ => hinvalid h.valid, _, rfl⟩)
  rcases bound_or_blocked failure bindings .VerifierActor with
    ⟨verifier, hverifier⟩ | ⟨hstop, hinvalid⟩
  swap
  · rw [himplementation.required, ok_bind, hstop, error_bind]
    exact .inr (.inl ⟨fun ⟨_, _, h⟩ => hinvalid h.valid, _, rfl⟩)
  rw [himplementation.required, ok_bind, hverifier.required, ok_bind]
  by_cases hsame : bindings.implementation_actor = bindings.verifier_actor
  · rw [reject_if_of hsame, error_bind]
    have hone : BoundTo bindings .VerifierActor implementation :=
      ⟨hsame.symm.trans himplementation.1, himplementation.2⟩
    exact .inl ⟨⟨implementation, himplementation, hone⟩, rfl⟩
  rw [reject_if_of_not hsame, ok_bind]
  rcases directive_of failure retry_permitted with ⟨directive, owner_binding⟩
  dsimp only
  rcases bound_or_blocked failure bindings owner_binding with ⟨owner, howner⟩ | ⟨hstop, -⟩
  swap
  · rw [hstop, error_bind]
    exact .inr (.inl ⟨hdiffer hsame, _, rfl⟩)
  rw [howner.required, ok_bind]
  by_cases hclassifier : directive = .AwaitingConfirmation ∧ owner = failure.classifier_actor
  · rw [reject_if_of hclassifier, error_bind]
    exact .inr (.inl ⟨hdiffer hsame, _, rfl⟩)
  · rw [reject_if_of_not hclassifier, ok_bind]
    exact .inr (.inr ⟨hdiffer hsame, owner, fun ha ho => hclassifier ⟨ha, ho⟩, rfl⟩)

/-- What a route of a product bug or a fragile test keeps to. -/
structure SafeRoute (failure : ClassifiedVerificationFailure)
    (prior_failure : Option ClassifiedVerificationFailure) (route : FailureRoute) : Prop where
  unconfirmed : sensitive failure.failure.category = true →
    failure.failure.confirmation = .Provisional →
      route.directive ≠ .Retry ∧ route.directive ≠ .EscalateToOwner
  other_confirmer : route.directive = .AwaitingConfirmation →
    route.target_owner ≠ some failure.classifier_actor
  superseding : ConfirmedSensitive failure → route.directive ≠ .Blocked →
    ∃ earlier, prior_failure = some earlier ∧ Supersedes failure earlier

theorem safe_of_blocked {route : FailureRoute} (h : route.directive = .Blocked) :
    SafeRoute failure prior_failure route where
  unconfirmed _ _ := by
    rw [h]
    exact ⟨nofun, nofun⟩
  other_confirmer hawaiting := by
    rw [h] at hawaiting
    exact nomatch hawaiting
  superseding _ hrouted := absurd h hrouted

/-- A route to an owner is safe. -/
theorem safe_of_accepted {retry_permitted : Bool} (h : Accepted failure prior_failure) :
    SafeRoute failure prior_failure
      (returned (route_owner failure bindings retry_permitted)).record := by
  rcases route_owner_cases failure bindings retry_permitted with
    ⟨-, hroute⟩ | ⟨-, binding, hroute⟩ | ⟨-, owner, hclassifier, hroute⟩
  · rw [hroute]
    exact safe_of_blocked rfl
  · rw [hroute]
    exact safe_of_blocked rfl
  · rw [hroute]
    refine ⟨fun hsensitive hprovisional => ?_, fun hawaiting => ?_, fun hc _ => h.confirmed hc⟩
    · have hdirective : directive_of failure retry_permitted
          = (.AwaitingConfirmation, .ConfirmationOwner) := if_pos ⟨hprovisional, hsensitive⟩
      rw [hdirective]
      exact ⟨nofun, nofun⟩
    · intro htarget
      exact hclassifier hawaiting (Option.some.inj htarget)

theorem rust_route_of_accepted {retry_permitted : Bool} (h : Accepted failure prior_failure)
    (hlinked : PriorLinked failure prior_failure) :
    route_classified_verification_failure failure prior_failure bindings retry_permitted
      = returned (route_owner failure bindings retry_permitted) := by
  unfold route_classified_verification_failure
  rw [rust_accepts_iff.mpr ⟨h, hlinked⟩]

theorem rust_route_of_not_accepted {retry_permitted : Bool}
    (h : ¬ (Accepted failure prior_failure ∧ PriorLinked failure prior_failure)) :
    route_classified_verification_failure failure prior_failure bindings retry_permitted
      = blocked failure none := by
  unfold route_classified_verification_failure
  rcases hresult : validate_failure_classifications (prior_failure.toList ++ [failure])
    with _ | ⟨⟩
  · rfl
  · exact absurd (rust_accepts_iff.mp hresult) h

theorem script_route_of_accepted (h : Wire strip failure)
    (hprior : ∀ earlier, prior_failure = some earlier → Wire strip earlier)
    (hstate : RevisionLoop.revision_state_error state = none)
    (hscore : RevisionLoop.valid_score score = true) (haccepted : Accepted failure prior_failure) :
    RevisionLoop.route_verification_failure strip (RevisionLoop.record_of failure) state bindings
        score (prior_failure.map RevisionLoop.record_of)
      = (returned (route_owner failure bindings (RevisionLoop.should_retry state))).record := by
  unfold RevisionLoop.route_verification_failure
  rw [(script_accepts_iff h hprior).mpr haccepted, hstate, if_neg (by simp), if_neg (by simp),
    if_neg (not_not.mpr hscore), route_valid_eq]

theorem script_route_of_not_accepted (h : Wire strip failure)
    (hprior : ∀ earlier, prior_failure = some earlier → Wire strip earlier)
    (haccepted : ¬ Accepted failure prior_failure) :
    RevisionLoop.route_verification_failure strip (RevisionLoop.record_of failure) state bindings
        score (prior_failure.map RevisionLoop.record_of)
      = (blocked failure none).record := by
  have herror : (RevisionLoop.classification_error strip (RevisionLoop.record_of failure)
      (prior_failure.map RevisionLoop.record_of)).isSome = true := by
    rw [Option.isSome_iff_ne_none, ne_eq, script_accepts_iff h hprior]
    exact haccepted
  unfold RevisionLoop.route_verification_failure
  rw [if_pos herror]
  rfl

/-- The prior record is a confirmed product bug or fragile test which confirms something else
than the current failure, and only the Rust router objects. -/
structure UnlinkedPrior (failure earlier : ClassifiedVerificationFailure) : Prop where
  valid : failure.validate = true
  prior_valid : earlier.validate = true
  distinct : earlier.failure.failure_id ≠ failure.failure.failure_id
  unconfirmed : ¬ ConfirmedSensitive failure
  prior_confirmed : ConfirmedSensitive earlier
  unlinked : ¬ Supersedes earlier failure

theorem unlinked_prior_iff :
    (∃ earlier, prior_failure = some earlier ∧ UnlinkedPrior failure earlier) ↔
      Accepted failure prior_failure ∧ ¬ PriorLinked failure prior_failure := by
  constructor
  · rintro ⟨earlier, rfl, h⟩
    refine ⟨⟨h.valid, ?_, fun hc => absurd hc h.unconfirmed⟩, ?_⟩
    · rintro _ ⟨⟩
      exact ⟨h.prior_valid, h.distinct⟩
    · exact fun hlinked => h.unlinked (hlinked earlier rfl h.prior_confirmed)
  · intro ⟨h, hunlinked⟩
    unfold PriorLinked at hunlinked
    push Not at hunlinked
    obtain ⟨earlier, hsome, hconfirmed, hsupersedes⟩ := hunlinked
    obtain ⟨hvalid, hdistinct⟩ := h.prior_valid earlier hsome
    refine ⟨earlier, hsome, h.valid, hvalid, hdistinct, fun hc => ?_, hconfirmed, hsupersedes⟩
    -- a confirmed current failure has a provisional record before it
    obtain ⟨other, hother, hprovisional⟩ := h.confirmed hc
    obtain rfl := Option.some.inj (hsome.symm.trans hother)
    exact hprovisional.not_confirmed hconfirmed

/-- **The two routers agree on all that both accept or both refuse.** They differ exactly on a
prior record that is itself confirmed and whose own provisional record is not the current
failure, unless one actor is bound as implementer and verifier, which blocks both alike. Both
are safe on every input. -/
theorem routers_agree_iff (h : Wire strip failure)
    (hprior : ∀ earlier, prior_failure = some earlier → Wire strip earlier)
    (hstate : RevisionLoop.revision_state_error state = none)
    (hscore : RevisionLoop.valid_score score = true) :
    (RevisionLoop.route_verification_failure strip (RevisionLoop.record_of failure) state bindings
          score (prior_failure.map RevisionLoop.record_of)
        = (route_classified_verification_failure failure prior_failure bindings
            (RevisionLoop.should_retry state)).record
      ∧ SafeRoute failure prior_failure (RevisionLoop.route_verification_failure strip
          (RevisionLoop.record_of failure) state bindings score
          (prior_failure.map RevisionLoop.record_of))
      ∧ SafeRoute failure prior_failure (route_classified_verification_failure failure
          prior_failure bindings (RevisionLoop.should_retry state)).record) ↔
    ((∃ earlier, prior_failure = some earlier ∧ UnlinkedPrior failure earlier) →
      OneActor bindings) := by
  rw [unlinked_prior_iff]
  by_cases haccepted : Accepted failure prior_failure
  swap
  · rw [script_route_of_not_accepted h hprior haccepted,
      rust_route_of_not_accepted (fun hboth => haccepted hboth.1)]
    exact ⟨fun _ hunlinked => absurd hunlinked.1 haccepted,
      fun _ => ⟨rfl, safe_of_blocked rfl, safe_of_blocked rfl⟩⟩
  rw [script_route_of_accepted h hprior hstate hscore haccepted]
  have hsafe := @safe_of_accepted _ _ bindings (RevisionLoop.should_retry state) haccepted
  by_cases hlinked : PriorLinked failure prior_failure
  · rw [rust_route_of_accepted haccepted hlinked]
    exact ⟨fun _ hunlinked => absurd hlinked hunlinked.2, fun _ => ⟨rfl, hsafe, hsafe⟩⟩
  · rw [rust_route_of_not_accepted (fun hboth => hlinked hboth.2)]
    -- the script goes on to the bindings, where only one actor in two roles gives the same
    rcases route_owner_cases failure bindings (RevisionLoop.should_retry state) with
      ⟨hone, hroute⟩ | ⟨hdiffer, binding, hroute⟩ | ⟨hdiffer, owner, -, hroute⟩
    · rw [hroute]
      exact ⟨fun _ _ => hone, fun _ => ⟨rfl, safe_of_blocked rfl, safe_of_blocked rfl⟩⟩
    · rw [hroute]
      exact ⟨fun hsame => (nomatch congrArg FailureRoute.owner_binding hsame.1),
        fun hcondition => absurd (hcondition ⟨haccepted, hlinked⟩) hdiffer⟩
    · rw [hroute]
      exact ⟨fun hsame => (nomatch congrArg FailureRoute.owner_binding hsame.1),
        fun hcondition => absurd (hcondition ⟨haccepted, hlinked⟩) hdiffer⟩

end Accepted

/-! ## The difference -/

section Difference

/-- `str.strip` and `str::trim` on ASCII text. -/
def strip_text (value : String) : String :=
  .ofList (((value.toList.dropWhile is_whitespace).reverse.dropWhile is_whitespace).reverse)

def timed_out : ClassifiedVerificationFailure where
  failure :=
    { contract_version := 1
      failure_id := "failure-2"
      category := .Timeout
      confirmation := .Confirmed
      supersedes_failure_id := none
      criterion_id := none
      summary := "timed out"
      recorded_at := 2000 }
  classifier_actor := "classifier"

/-- A record of a product bug, which supersedes the given one or none. -/
def product_bug (failure_id classifier_actor : String) (supersedes_failure_id : Option String) :
    ClassifiedVerificationFailure where
  failure :=
    { contract_version := 1
      failure_id := failure_id
      category := .ProductBug
      confirmation := if supersedes_failure_id.isSome then .Confirmed else .Provisional
      supersedes_failure_id := supersedes_failure_id
      criterion_id := none
      summary := "product bug"
      recorded_at := 1000 }
  classifier_actor := classifier_actor

def owners : FailureOwnerBindings where
  implementation_actor := some "implementer"
  verifier_actor := some "verifier"
  capability_owner := some "owner"
  test_owner := some "owner"
  coordinator := some "coordinator"
  confirmation_owner := some "reviewer"

def first_attempt : RevisionState where
  task_name := "task"
  attempt := 1
  max_attempts := 3
  score_history := []
  blocked := false

/-- A product bug, confirmed after its provisional record, is retried by its owner on both
sides. -/
theorem routers_agree_confirmed :
    RevisionLoop.route_verification_failure strip_text
        (RevisionLoop.record_of (product_bug "failure-2" "reviewer" (some "failure-1")))
        first_attempt owners 1 (some (RevisionLoop.record_of (product_bug "failure-1" "author" none)))
      = (FailureRouting.route_classified_verification_failure
          (product_bug "failure-2" "reviewer" (some "failure-1"))
          (some (product_bug "failure-1" "author" none)) owners
          (RevisionLoop.should_retry first_attempt)).record := by
  have hcurrent : RevisionLoop.Wire strip_text
      (product_bug "failure-2" "reviewer" (some "failure-1")) :=
    ⟨by decide, by decide⟩
  have hprior : ∀ earlier, some (product_bug "failure-1" "author" none) = some earlier →
      RevisionLoop.Wire strip_text earlier := by
    rintro _ ⟨⟩
    exact ⟨by decide, by decide⟩
  have hstate : RevisionLoop.revision_state_error first_attempt = none := by decide
  have hscore : RevisionLoop.valid_score 1 = true := by decide
  refine ((routers_agree_iff hcurrent hprior hstate hscore).mpr ?_).1
  intro ⟨_, _, hunlinked⟩
  exact absurd ⟨rfl, rfl⟩ hunlinked.unconfirmed

/-- Where the prior record is a confirmed product bug without its provisional record, the
script retries and the Rust router blocks. -/
theorem routers_differ :
    RevisionLoop.Wire strip_text timed_out
      ∧ RevisionLoop.Wire strip_text (product_bug "failure-1" "reviewer" (some "failure-0"))
      ∧ RevisionLoop.revision_state_error first_attempt = none
      ∧ RevisionLoop.valid_score 1 = true
      ∧ RevisionLoop.route_verification_failure strip_text (RevisionLoop.record_of timed_out)
          first_attempt owners 1
          (some (RevisionLoop.record_of (product_bug "failure-1" "reviewer" (some "failure-0"))))
        = ⟨.Retry, some .Timeout, some .Coordinator, some "coordinator"⟩
      ∧ FailureRouting.route_classified_verification_failure timed_out
          (some (product_bug "failure-1" "reviewer" (some "failure-0"))) owners
          (RevisionLoop.should_retry first_attempt)
        = ⟨.Blocked, .Timeout, none, none⟩ := by
  refine ⟨⟨?_, ?_⟩, ⟨?_, ?_⟩, ?_, ?_, ?_, ?_⟩ <;> decide

end Difference

end OvcaCore

/-
The approval ledger (`ovca-runtime-core/src/durable_guardrails.rs`).

One row of the versioned store for each approval request: the paused request,
the gates it requires, its state, and the owner's decision once there is one.
`evaluate_and_record` creates the row, `record_decision` moves it out of
pending, and `resume_approved` consumes an approval and then runs the effect it
was for.

The effect is a closure of the caller. In a program it is an operation that is
answered by its result; the ledger keeps a journal of the effects that ran,
each with the number of commits made before it.
-/
import OvcaCore.Guardrails
import OvcaCore.VersionedState
import OvcaCore.Lib.Checks

set_option autoImplicit false

namespace OvcaCore

open OvcaCore.Checks OvcaCore.Interleaving OvcaCore.Guardrails

def DEFAULT_APPROVAL_CAS_RETRY_LIMIT : ℕ := 16

def APPROVAL_ENTITY_PREFIX : String := "guard_approval:"

/-! ## Records -/

structure ApprovalEnvelope where
  contract_version : ContractVersion
  approval_request : ApprovalRequest
  required_gates : BTreeSet GuardRequirement
  state : ApprovalState
  decision : Option ApprovalDecisionRecord
  deriving DecidableEq

structure DurableApprovalRecord where
  envelope : ApprovalEnvelope
  revision : ℕ
  deriving DecidableEq

structure DurableDecisionResult where
  record : DurableApprovalRecord
  applied : Bool
  deriving DecidableEq

inductive DurableApprovalEvaluation where
  | Allow (required_gates : BTreeSet GuardRequirement)
  | Deny (reasons : BTreeSet GuardDenyReason)
  | Pending (record : DurableApprovalRecord) (initialized : Bool)
  deriving DecidableEq

/-- The outcomes of `resume_approved`; the other three of the source are those
of `execute_guarded`. -/
inductive GuardedExecution (T Err : Type) where
  | Executed (output : T) (required_gates : BTreeSet GuardRequirement)
  | StillPending (record : DurableApprovalRecord) (required_gates : BTreeSet GuardRequirement)
  | DeniedByOwner (record : DurableApprovalRecord) (required_gates : BTreeSet GuardRequirement)
  | AlreadyConsumed (record : DurableApprovalRecord) (required_gates : BTreeSet GuardRequirement)
  | EffectFailedAfterConsumption (error : Err) (consumed_record : DurableApprovalRecord)
      (required_gates : BTreeSet GuardRequirement)

inductive ApprovalStateCorruption where
  | UnsupportedEnvelopeVersion
  | UnsupportedApprovalRequestVersion
  | UnsupportedGuardRequestVersion
  | UnsupportedPermissionProfileVersion
  | UnsupportedDecisionVersion
  | EnvelopeApprovalIdMismatch
  | PendingHasDecision
  | TerminalDecisionMissing
  | StateDispositionMismatch
  | ConsumedDecisionNotApproved
  | DecisionApprovalIdMismatch
  | DecisionGuardIdMismatch
  | UnsupportedAuthority
  | DecisionBeforeRequest
  | StoredRequestNoLongerRequiresApproval
  | StoredApprovalRequestBindingMismatch
  | RequiredGatesMismatch
  deriving DecidableEq, Repr

inductive DurableApprovalError where
  | NotFound (approval_request_id : ApprovalRequestId)
  | DefinitionConflict (approval_request_id : ApprovalRequestId) (existing_revision : ℕ)
  | DecisionConflict (approval_request_id : ApprovalRequestId) (existing_revision : ℕ)
  | RequestMismatch (approval_request_id : ApprovalRequestId)
  | InvalidDecision (source : ApprovalStateCorruption)
  | CorruptState (approval_request_id : ApprovalRequestId) (source : ApprovalStateCorruption)
  | CorruptPayload (approval_request_id : ApprovalRequestId) (source : SerdeError)
  | Storage (source : VersionedStateError)
  | Serialization (source : SerdeError)
  | ContentionExhausted (approval_request_id : ApprovalRequestId)
      (retry_limit current_revision : ℕ)
  deriving DecidableEq

/-! ## Validation -/

namespace DurableGuardrails

def validate_decision_shape (decision : ApprovalDecisionRecord) :
    Except ApprovalStateCorruption Unit := do
  reject_if (decision.contract_version ≠ ContractVersion.current) .UnsupportedDecisionVersion
  reject_if (decision.authority ≠ .ExplicitOwner) .UnsupportedAuthority

def validate_decision_for (envelope : ApprovalEnvelope) (decision : ApprovalDecisionRecord) :
    Except ApprovalStateCorruption Unit := do
  validate_decision_shape decision
  reject_if (decision.approval_request_id ≠ envelope.approval_request.id)
    .DecisionApprovalIdMismatch
  reject_if (decision.guard_request_id ≠ envelope.approval_request.guard_request.id)
    .DecisionGuardIdMismatch
  reject_if (decision.decided_at < envelope.approval_request.requested_at) .DecisionBeforeRequest

/-- Does the disposition of a decision go with the state it is stored in? -/
def validate_disposition (state : ApprovalState) (disposition : ApprovalDisposition) :
    Except ApprovalStateCorruption Unit :=
  match state, disposition with
  | .Approved, .Approved | .Denied, .Denied | .Consumed, .Approved => .ok ()
  | .Consumed, _ => .error .ConsumedDecisionNotApproved
  | _, _ => .error .StateDispositionMismatch

/-- The last check of `validate_envelope`: the state and the decision agree. -/
def validate_state (envelope : ApprovalEnvelope) : Except ApprovalStateCorruption Unit :=
  match envelope.state, envelope.decision with
  | .Pending, none => .ok ()
  | .Pending, some _ => .error .PendingHasDecision
  | _, none => .error .TerminalDecisionMissing
  | state, some decision => do
    validate_decision_for envelope decision
    validate_disposition state decision.disposition

/-- The stored request is evaluated again, and must pause in the same way. -/
def validate_pause (envelope : ApprovalEnvelope) : Except ApprovalStateCorruption Unit :=
  match evaluate_guard_request envelope.approval_request.guard_request
      ⟨envelope.approval_request.id, envelope.approval_request.requested_at⟩ with
  | .PauseForApproval approval_request required_gates => do
    reject_if (approval_request ≠ envelope.approval_request)
      ApprovalStateCorruption.StoredApprovalRequestBindingMismatch
    reject_if (required_gates ≠ envelope.required_gates)
      ApprovalStateCorruption.RequiredGatesMismatch
  | _ => .error .StoredRequestNoLongerRequiresApproval

def validate_envelope (id : ApprovalRequestId) (envelope : ApprovalEnvelope) :
    Except ApprovalStateCorruption Unit := do
  reject_if (envelope.contract_version ≠ ContractVersion.current)
    ApprovalStateCorruption.UnsupportedEnvelopeVersion
  reject_if (envelope.approval_request.contract_version ≠ ContractVersion.current)
    ApprovalStateCorruption.UnsupportedApprovalRequestVersion
  reject_if (envelope.approval_request.guard_request.contract_version ≠ ContractVersion.current)
    ApprovalStateCorruption.UnsupportedGuardRequestVersion
  reject_if (envelope.approval_request.guard_request.permission_profile.contract_version
      ≠ ContractVersion.current)
    ApprovalStateCorruption.UnsupportedPermissionProfileVersion
  reject_if (envelope.approval_request.id ≠ id)
    ApprovalStateCorruption.EnvelopeApprovalIdMismatch
  validate_pause envelope
  validate_state envelope

end DurableGuardrails

/-! ## Operations -/

/-- What a guarded program can do: use the store, or run the effect of an
approval, which is answered by its result. -/
inductive GuardOp (P T Err : Type) where
  | store (o : StoreOp P)
  | effect (approval_request_id : ApprovalRequestId) (request : GuardRequest)
      (result : Except Err T)

def GuardOp.Answer {P T Err : Type} : GuardOp P T Err → Type
  | .store o => o.Answer
  | .effect _ _ _ => Except Err T

abbrev GuardProg (P T Err α : Type) :=
  Prog (GuardOp P T Err) GuardOp.Answer DurableApprovalError α

/-- The authority: its serialization and how often it retries. -/
structure DurableGuardrailAuthority (P : Type) where
  serde_json : SerdeJson ApprovalEnvelope P
  cas_retry_limit : ℕ

namespace DurableGuardrailAuthority

open DurableGuardrails

variable {P T Err : Type}

def entity_key (id : ApprovalRequestId) : String := APPROVAL_ENTITY_PREFIX ++ id

def to_vec (a : DurableGuardrailAuthority P) (envelope : ApprovalEnvelope) :
    Except DurableApprovalError P :=
  (a.serde_json.to_vec envelope).mapError .Serialization

def decode_state (a : DurableGuardrailAuthority P) (id : ApprovalRequestId)
    (state : VersionedState P) : Except DurableApprovalError DurableApprovalRecord := do
  let envelope ← (a.serde_json.from_slice state.payload).mapError (.CorruptPayload id)
  (validate_envelope id envelope).mapError (.CorruptState id)
  pure ⟨envelope, state.revision⟩

/-- The first envelope of an approval request. -/
def pending_envelope (approval_request : ApprovalRequest)
    (required_gates : BTreeSet GuardRequirement) : ApprovalEnvelope where
  contract_version := ContractVersion.current
  approval_request := approval_request
  required_gates := required_gates
  state := .Pending
  decision := none

/-- The checks of a pause before it is stored. -/
def prepare_pause (a : DurableGuardrailAuthority P) (envelope : ApprovalEnvelope) :
    Except DurableApprovalError P := do
  (validate_envelope envelope.approval_request.id envelope).mapError .InvalidDecision
  to_vec a envelope

/-- Its checks on the row that the store has afterwards. -/
def check_pending (a : DurableGuardrailAuthority P) (envelope : ApprovalEnvelope)
    (state : VersionedState P) (initialized : Bool) :
    Except DurableApprovalError DurableApprovalEvaluation := do
  let existing ← decode_state a envelope.approval_request.id state
  reject_if (existing.envelope ≠ envelope)
    (.DefinitionConflict envelope.approval_request.id existing.revision)
  pure (.Pending existing initialized)

def evaluate_and_record (a : DurableGuardrailAuthority P) (request : GuardRequest)
    (context : GuardEvaluationContext) : GuardProg P T Err DurableApprovalEvaluation :=
  match evaluate_guard_request request context with
  | .Allow required_gates => pure (.Allow required_gates)
  | .Deny reasons => pure (.Deny reasons)
  | .PauseForApproval approval_request required_gates => do
    let envelope := pending_envelope approval_request required_gates
    let payload ← prepare_pause a envelope
    .op (.store (.initialize_entity (entity_key approval_request.id) payload)) fun
      | .Initialized state => .done (check_pending a envelope state true)
      | .Existing state => .done (check_pending a envelope state false)

/-- `load`, before its result is used. -/
def load (a : DurableGuardrailAuthority P) (id : ApprovalRequestId) :
    GuardProg P T Err DurableApprovalRecord :=
  .op (.store (.load (entity_key id))) fun row =>
    .done (ok_or row (.NotFound id) >>= decode_state a id)

/-- The payload that consumes an approval. -/
def prepare_consumption (a : DurableGuardrailAuthority P) (id : ApprovalRequestId)
    (envelope : ApprovalEnvelope) : Except DurableApprovalError P := do
  let consumed := { envelope with state := .Consumed }
  (validate_envelope id consumed).mapError .InvalidDecision
  to_vec a consumed

/-- The answer of a resume that lost its race. -/
def lost_consumption (a : DurableGuardrailAuthority P) (id : ApprovalRequestId)
    (state : VersionedState P) : Except DurableApprovalError (GuardedExecution T Err) := do
  let current ← decode_state a id state
  match current.envelope.state with
  | .Consumed => pure (.AlreadyConsumed current current.envelope.required_gates)
  | _ => .error (.DecisionConflict id current.revision)

/-- The effect of an approval that has just been consumed. -/
def run_effect (id : ApprovalRequestId) (request : GuardRequest) (effect : Except Err T)
    (consumed_record : DurableApprovalRecord) (required_gates : BTreeSet GuardRequirement) :
    GuardProg P T Err (GuardedExecution T Err) :=
  .op (.effect id request effect) fun
    | .ok output => pure (.Executed output required_gates)
    | .error error => pure (.EffectFailedAfterConsumption error consumed_record required_gates)

/-- The branch of a resume that finds the approval unused. -/
def consume (a : DurableGuardrailAuthority P) (id : ApprovalRequestId) (request : GuardRequest)
    (effect : Except Err T) (loaded : DurableApprovalRecord) :
    GuardProg P T Err (GuardedExecution T Err) := do
  let payload ← prepare_consumption a id loaded.envelope
  .op (.store (.compare_and_swap (entity_key id) loaded.revision payload)) fun
    | .error e => .fail (.Storage e)
    | .ok (.Applied state) => do
      let consumed_record ← decode_state a id state
      run_effect id request effect consumed_record loaded.envelope.required_gates
    | .ok (.Conflict state) => .done (lost_consumption a id state)

def resume_approved (a : DurableGuardrailAuthority P) (id : ApprovalRequestId)
    (request : GuardRequest) (effect : Except Err T) :
    GuardProg P T Err (GuardedExecution T Err) := do
  let loaded ← a.load id
  if loaded.envelope.approval_request.guard_request ≠ request then
    .fail (.RequestMismatch id)
  else
    let required_gates := loaded.envelope.required_gates
    match loaded.envelope.state with
    | .Pending => pure (.StillPending loaded required_gates)
    | .Denied => pure (.DeniedByOwner loaded required_gates)
    | .Consumed => pure (.AlreadyConsumed loaded required_gates)
    | .Approved => consume a id request effect loaded

/-- The state a disposition leads to. -/
def decided_state (disposition : ApprovalDisposition) : ApprovalState :=
  match disposition with
  | .Approved => .Approved
  | .Denied => .Denied

/-- The envelope after a decision. -/
def decided (envelope : ApprovalEnvelope) (decision : ApprovalDecisionRecord) : ApprovalEnvelope :=
  { envelope with
    state := decided_state decision.disposition
    decision := some decision }

/-- The part of a round of `record_decision` before its write: the answer of a
repeated decision, or the payload to write. -/
def decision_round (a : DurableGuardrailAuthority P) (decision : ApprovalDecisionRecord)
    (loaded : DurableApprovalRecord) : Except DurableApprovalError (Option P) := do
  (validate_decision_for loaded.envelope decision).mapError .InvalidDecision
  if loaded.envelope.decision = some decision then
    pure none
  else do
    reject_if (loaded.envelope.state ≠ .Pending)
      (.DecisionConflict decision.approval_request_id loaded.revision)
    let next := decided loaded.envelope decision
    (validate_envelope decision.approval_request_id next).mapError .InvalidDecision
    let payload ← to_vec a next
    pure (some payload)

/-- One round of `record_decision`, given what to do on a conflict. -/
def decide_once (a : DurableGuardrailAuthority P) (decision : ApprovalDecisionRecord)
    (retry : DurableApprovalRecord → GuardProg P T Err DurableDecisionResult)
    (loaded : DurableApprovalRecord) : GuardProg P T Err DurableDecisionResult := do
  let round ← decision_round a decision loaded
  match round with
  | none => pure ⟨loaded, false⟩
  | some payload =>
    .op (.store (.compare_and_swap (entity_key decision.approval_request_id) loaded.revision
        payload)) fun
      | .error e => .fail (.Storage e)
      | .ok (.Applied state) => .done do
        let record ← decode_state a decision.approval_request_id state
        pure ⟨record, true⟩
      | .ok (.Conflict state) => do
        let current ← decode_state a decision.approval_request_id state
        retry current

/-- The loop of `record_decision`, with the number of conflicts it may still
retry. -/
def decision_loop (a : DurableGuardrailAuthority P) (decision : ApprovalDecisionRecord) :
    ℕ → DurableApprovalRecord → GuardProg P T Err DurableDecisionResult
  | 0 => decide_once a decision fun loaded =>
      .fail (.ContentionExhausted decision.approval_request_id a.cas_retry_limit loaded.revision)
  | remaining + 1 => decide_once a decision (decision_loop a decision remaining)

def record_decision (a : DurableGuardrailAuthority P) (decision : ApprovalDecisionRecord) :
    GuardProg P T Err DurableDecisionResult := do
  (validate_decision_shape decision).mapError DurableApprovalError.InvalidDecision
  let loaded ← a.load decision.approval_request_id
  decision_loop a decision a.cas_retry_limit loaded

/-! ## Callers -/

inductive Call (T Err : Type) where
  | evaluate_and_record (request : GuardRequest) (context : GuardEvaluationContext)
  | record_decision (decision : ApprovalDecisionRecord)
  | resume_approved (id : ApprovalRequestId) (request : GuardRequest) (effect : Except Err T)

inductive Response (T Err : Type) where
  | evaluation (evaluation : DurableApprovalEvaluation)
  | decision (result : DurableDecisionResult)
  | execution (execution : GuardedExecution T Err)

def execute (a : DurableGuardrailAuthority P) :
    Call T Err → GuardProg P T Err (Response T Err)
  | .evaluate_and_record request context => do
    let evaluation ← a.evaluate_and_record request context
    pure (.evaluation evaluation)
  | .record_decision decision => do
    let result ← a.record_decision decision
    pure (.decision result)
  | .resume_approved id request effect => do
    let execution ← a.resume_approved id request effect
    pure (.execution execution)

end DurableGuardrailAuthority

end OvcaCore

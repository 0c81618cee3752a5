/-
The loop of review and audit (`ovca-langgraph/src/review_audit_loop.rs`).

One call of `drive` takes a candidate as far as it gets: it starts the Reviewer and then the
Auditor, records what they answer, and resolves the review. What it has done is in the
durable state of the run, so that another call, of the same process or of one after a crash,
goes on from there. A call is a program over the operations of the databases, the log, the
clock and the executor; one access to a database is one operation, and so is reading the log
or appending to it.

The executor is asked for a live outcome, which is taken here in its persisted form. The
errors of the file system are not modelled.
-/
import OvcaCore.AdmissionLease
import OvcaCore.EvidenceInvariants
import OvcaCore.IndependentReviewState
import OvcaCore.Lib.Crashes
import OvcaCore.TerminalReview

set_option autoImplicit false

namespace OvcaCore

open OvcaCore.Checks OvcaCore.Interleaving EngineerVerifier

def EXECUTION_TIMEOUT_CODE : String := "execution_timeout"

structure ReviewAuditLoopInput where
  review_packet : ReviewPacketV1
  auditor_invocation : RoleInvocationV1
  audit_manifest : EvidenceManifestV1
  coordinator : PrincipalIdentityV1
  repair_successor_run_id : Option RunId
  deriving DecidableEq

inductive ReviewAuditLoopOutcome where
  | ResolvedPass (state_digest : String)
  | RepairDirected (state_digest : String) (directive : RepairDirectiveV1)
  | OwnerEscalated (state_digest : String) (reason : OwnerEscalationReasonV1)
  | InProgress
  deriving DecidableEq

inductive ReviewAuditLoopError where
  | InvalidInput
  | ProjectionConflict
  | Durable (source : DurableExecutionError)
  | State (source : IndependentReviewError)
  | Storage (source : LocalVerificationStoreError)
  | Events (source : RunEventLogError)
  deriving DecidableEq

/-- A run of the loop, as it is loaded. -/
abbrev LoadedReviewRun (P : Type) :=
  LoadedExecutionRun (EngineerVerifierStateV1 P) IndependentReviewStateV1

inductive ReviewAuditStep (P : Type) where
  | Continue (loaded : LoadedReviewRun P)
  | Complete (outcome : ReviewAuditLoopOutcome)

/-! ## Operations -/

inductive ReviewAuditOp (Q : Type) where
  | now
  | store (o : StoreOp Q)
  | begin_lease (keys : List EvidenceKey)
  | end_lease
  | invoke (request : IndependentRoleExecutionRequest)
  | read_log
  | append (event : RunEvent)
  | evidence (operation : StoreOperation)

/-- What an operation is answered by. The executor may fail to answer. -/
def ReviewAuditOp.Answer (P : Type) {Q : Type} : ReviewAuditOp Q → Type
  | .now => DateTime
  | .store o => o.Answer
  | .begin_lease _ => LocalVerificationStoreResult CompletionAdmissionSnapshot
  | .end_lease => LocalVerificationStoreResult Unit
  | .invoke _ => Option PersistedRoleExecutionOutcomeV1
  | .read_log => List P
  | .append _ => Except RunEventLogError Unit
  | .evidence _ => LocalVerificationStoreResult StoreAnswer

abbrev ReviewAuditProg (P Q α : Type) :=
  Prog (ReviewAuditOp Q) (ReviewAuditOp.Answer P) (Fault ReviewAuditLoopError) α

section Operations

variable {P Q : Type}

/-- `clock.now()`. -/
def now : ReviewAuditProg P Q DateTime := .op .now fun at_ => .done (.ok at_)

/-- `executor.invoke(request)`. -/
def invoke (request : IndependentRoleExecutionRequest) :
    ReviewAuditProg P Q (Option PersistedRoleExecutionOutcomeV1) :=
  .op (.invoke request) fun answer => .done (.ok answer)

def read_log : ReviewAuditProg P Q (List P) := .op .read_log fun rows => .done (.ok rows)

/-- `log.append(&event)`. -/
def append_event (event : RunEvent) : ReviewAuditProg P Q (Except RunEventLogError Unit) :=
  .op (.append event) fun answer => .done (.ok answer)

end Operations

/-- The error of a call of the durable authority. -/
def of_durable : Fault DurableExecutionError → Fault ReviewAuditLoopError
  | .error source => .error (.Durable source)
  | .panic message => .panic message

/-- A call of the durable authority, as a part of the loop. -/
def on_store {P Q α : Type} (p : StoreProg Q (Fault DurableExecutionError) α) :
    ReviewAuditProg P Q α :=
  p.embed .store (fun _ answer => answer) of_durable

/-- `with_completion_admission_lease`: the lease is given back whatever the callback
returns, and its commit may fail. -/
def with_completion_admission_lease {P Q α : Type} (keys : List EvidenceKey)
    (callback : CompletionAdmissionSnapshot → ReviewAuditProg P Q α) : ReviewAuditProg P Q α :=
  .op (.begin_lease keys) fun
    | .error source => .fail (.error (.Storage source))
    | .ok snapshot => do
      let result ← (callback snapshot).attempt
      match result with
      | .error e => .op .end_lease fun _ => .fail e
      | .ok value => .op .end_lease fun
        | .error source => .fail (.error (.Storage source))
        | .ok _ => pure value

/-! ## The authority -/

/-- The diff of the packet is the one of the bridge, within the grant of the workspace, and
its receipts are those of the transcript. -/
def bridges_packet (packet : ReviewPacketV1) (bridge : WorkspaceDiffBridgeV1)
    (workspace : DurableWorkspaceAuthorityV1) (transcript : VerificationTranscriptIdentity) :
    Bool :=
  bridge.changed_paths == [packet.frozen_diff.logical_path]
    && bridge.before_file_identities.map (fun identity => identity.file)
      == [packet.frozen_diff.before_file]
    && bridge.after_file_identities.map (fun identity => identity.file)
      == [some packet.frozen_diff.after_file]
    && packet.verifier_receipts == transcript.commands
    && workspace.grant.write_paths.contains packet.frozen_diff.logical_path
    && decide (packet.frozen_diff.after_bytes.length ≤ workspace.grant.max_write_bytes)
    && packet.frozen_diff.before_bytes.all fun bytes =>
      decide (bytes.length ≤ workspace.grant.max_read_bytes)

/-- The publication that the verifier of a state has been admitted with. -/
def admitted_publication : VerifierExecutionStateV1 → Option VerifierPublication
  | .Admitted publication _ => some publication
  | .NotStarted _ | .Started _ _ | .PublicationObserved _ => none

/-- The row of the evidence store that the packet is frozen with. -/
def anchors (anchor : EvidenceCurrentAnchorV1) (current : EvidenceCurrent) : Bool :=
  anchor.bundle_id == current.bundle_id && anchor.record_digest == current.record_digest
    && anchor.generation == current.token.generation
    && anchor.state_digest == current.token.state_digest

def validate_independent_review_binding {P : Type}
    (envelope : ExecutionRunBinding (EngineerVerifierStateV1 P))
    (state : IndependentReviewStateV1) : Except IndependentReviewError Unit := do
  let packet := state.review_packet
  let task ← ok_or envelope.tasks[packet.task_id]? .InvalidState
  let issue6 ← ok_or envelope.engineer_verifier .InvalidState
  let bridge ← ok_or issue6.workspace_bridge .InvalidState
  let replay ← ok_or issue6.verifier_replay_plan .InvalidState
  let workspace ← ok_or issue6.workspace .InvalidState
  let verifier ← ok_or issue6.verifier .InvalidState
  let publication ← ok_or (admitted_publication verifier) .InvalidState
  reject_if (issue6.phase ≠ .Reviewing
    ∨ packet.run_id ≠ envelope.run_id
    ∨ packet.goal_id ≠ task.goal_id
    ∨ packet.task ≠ task
    ∨ packet.issue6_state_digest ≠ issue6.state_digest
    ∨ packet.logical_plan_digest ≠ issue6.plan.logical_plan_digest
    ∨ packet.resolved_effect_ledger_digest ≠ issue6.ledger.resolved_effect_ledger_digest
    ∨ some packet.engineer_result_digest ≠ issue6.engineer_result_digest
    ∨ packet.verifier_replay_plan_digest ≠ replay.replay_plan_digest
    ∨ packet.verifier_transcript_digest ≠ publication.transcript_digest
    ∨ packet.frozen_diff.issue6_diff_digest ≠ bridge.canonical_diff_digest
    ∨ packet.verification_bundle ≠ publication.bundle
    ∨ packet.verification_bundle_record_digest ≠ publication.bundle_record_digest
    ∨ ¬ anchors packet.evidence_current publication.evidence_current
    ∨ packet.engineer ≠ issue6.plan.invocation.target
    ∨ packet.verifier ≠ publication.bundle.verifier_actor
    ∨ ¬ bridges_packet packet bridge workspace publication.transcript) .InvalidState

def independent_review_rules {P : Type} (sha256 : IndependentReviewDigests P) :
    ProjectionRules (EngineerVerifierStateV1 P) IndependentReviewStateV1 IndependentReviewError where
  validate state := state.validate sha256
  validate_binding := validate_independent_review_binding
  validate_initial_install state := state.validate_initial_install sha256
  validate_successor state next := state.validate_successor sha256 next
  state_digest state := state.state_digest

/-- What the loop works with: its digests, the serializations of the rows of the log, of
the runs and of the evidence, and how often a lifecycle command is retried. -/
structure ReviewAuthority (P Q : Type) where
  sha256 : IndependentReviewDigests P
  run_event : SerdeJson RunEvent P
  phase_projection : SerdeJson EngineerVerifierPhaseProjectionV1 String
  serde_json :
    SerdeJson (ExecutionRunEnvelope (EngineerVerifierStateV1 P) IndependentReviewStateV1) Q
  evidence : StoreCodec
  cas_retry_limit : ℕ

namespace ReviewAuthority

variable {P Q : Type} (authority : ReviewAuthority P Q)

def codec : EngineerVerifierCodec P where
  sha256 := authority.sha256.toEngineerVerifierDigests
  run_event := authority.run_event
  phase_projection := authority.phase_projection

def log : RunEventLog P := ⟨authority.run_event⟩

def execution [DecidableEq P] :
    DurableExecutionAuthority (EngineerVerifierStateV1 P) IndependentReviewStateV1 Q where
  engineer_verifier := EngineerVerifierLoop.engineer_verifier_rules authority.codec
  independent_review := independent_review_rules authority.sha256
  serde_json := authority.serde_json
  cas_retry_limit := authority.cas_retry_limit

end ReviewAuthority

/-! ## Checks -/

namespace ReviewAuditLoop

/-- A check of the loop, as a part of what may panic. -/
def checked {P Q α : Type} (x : Except ReviewAuditLoopError α) : ReviewAuditProg P Q α :=
  .done (lift x)

/-- A step on the durable state. -/
def of_state {α : Type} (x : Except IndependentReviewError α) : Except ReviewAuditLoopError α :=
  x.mapError .State

def evidence_key (packet : ReviewPacketV1) : EvidenceKey where
  run_id := packet.run_id
  goal_id := packet.goal_id
  task_id := packet.task_id

section Checks

variable {P : Type}

def projection (loaded : LoadedReviewRun P) :
    Except ReviewAuditLoopError IndependentReviewStateV1 :=
  ok_or loaded.envelope.independent_review .ProjectionConflict

def validate_candidate (loaded : LoadedReviewRun P) (packet : ReviewPacketV1) :
    Except ReviewAuditLoopError Unit := do
  let issue6 ← ok_or loaded.envelope.engineer_verifier .InvalidInput
  let bridge ← ok_or issue6.workspace_bridge .InvalidInput
  let workspace ← ok_or issue6.workspace .InvalidInput
  let verifier ← ok_or issue6.verifier .InvalidInput
  let publication ← ok_or (admitted_publication verifier) .InvalidInput
  reject_if (¬ bridges_packet packet bridge workspace publication.transcript) .InvalidInput

def validate_current (snapshot : CompletionAdmissionSnapshot) (packet : ReviewPacketV1) :
    Except ReviewAuditLoopError Unit :=
  match snapshot.bundles with
  | [bundle] => reject_if (bundle.current.key ≠ evidence_key packet
      ∨ ¬ anchors packet.evidence_current bundle.current
      ∨ bundle.record.digest ≠ packet.verification_bundle_record_digest
      ∨ bundle.record.bundle ≠ packet.verification_bundle) .InvalidInput
  | _ => .error .InvalidInput

def packet_context (packet : ReviewPacketV1) : ReviewDecisionValidationContext where
  expected_run_id := packet.run_id
  goal_contract := packet.goal_contract
  completion_evidence := packet.completion_evidence
  evidence_catalog := packet.evidence_catalog

def validate_input (sha256 : IndependentReviewDigests P) (input : ReviewAuditLoopInput) :
    Except ReviewAuditLoopError Unit := do
  (input.review_packet.validate sha256.toIndependentContractDigests).mapError fun _ => .InvalidInput
  (ReviewAudit.validate_review_evidence_context (packet_context input.review_packet)).mapError
    fun _ => .InvalidInput
  reject_if (¬ input.auditor_invocation.validate sha256.toControlPlaneDigests) .InvalidInput
  reject_if (¬ input.coordinator.validate) .InvalidInput
  reject_if (input.coordinator.role ≠ .Coordinator
    ∨ input.auditor_invocation.target.role ≠ .Auditor
    ∨ input.auditor_invocation.run_id ≠ input.review_packet.run_id
    ∨ input.auditor_invocation.task_id ≠ input.review_packet.task_id
    ∨ input.auditor_invocation.budget.max_attempts ≠ 1) .InvalidInput

/-- The run before a repair has been directed to exactly this candidate. -/
def validate_prior (prior : LoadedReviewRun P) (packet : ReviewPacketV1) (prior_run_id : RunId) :
    Except ReviewAuditLoopError Unit := do
  let prior_state ← ok_or prior.envelope.independent_review .InvalidInput
  let directive ← ok_or prior_state.repair_directive .InvalidInput
  reject_if (prior_state.phase ≠ .RepairDirected
    ∨ some directive.directive_digest ≠ packet.prior_repair_directive_digest
    ∨ directive.successor_run_id ≠ packet.run_id
    ∨ directive.failed_run_id ≠ prior_run_id
    ∨ directive.root_run_id ≠ packet.root_run_id
    ∨ directive.goal_id ≠ packet.goal_id
    ∨ directive.task_id ≠ packet.task_id
    ∨ directive.successor_candidate_cycle ≠ packet.candidate_cycle
    ∨ directive.max_repair_cycles ≠ packet.max_repair_cycles) .InvalidInput

end Checks

/-! ## What the executor answers -/

/-- A failure is a timeout exactly when its code says so. -/
def failure_code_matches : PersistedRoleExecutionOutcomeV1 → Bool
  | .Failed result _ =>
    match result.payload with
    | .Failure code _ => code != EXECUTION_TIMEOUT_CODE
    | _ => false
  | .TimedOut result _ =>
    match result.payload with
    | .Failure code _ => code == EXECUTION_TIMEOUT_CODE
    | _ => false
  | .Completed _ _ | .Cancelled _ _ | .RetryRequired _ _ _ _ => true

/-- `try_from_live`. The other checks of a live outcome are those of the persisted one. -/
def try_from_live {P : Type} (sha256 : IndependentReviewDigests P)
    (outcome : PersistedRoleExecutionOutcomeV1) (request : RoleExecutionRequest) :
    Except IndependentReviewError PersistedRoleExecutionOutcomeV1 := do
  reject_if (¬ failure_code_matches outcome) .InvalidExecutorOutcome
  (outcome.validate_against sha256.toEngineerVerifierDigests request).mapError
    fun _ => .InvalidExecutorOutcome
  pure outcome

/-! ## States -/

section States

variable {P : Type} (sha256 : IndependentReviewDigests P)

/-- A changed state, at the time of the change and with its digest. -/
def changed (state : IndependentReviewStateV1) (at_ : DateTime) :
    Except ReviewAuditLoopError IndependentReviewStateV1 :=
  of_state (({ state with controller_time := at_ } : IndependentReviewStateV1).refresh_digest sha256)

def with_review_call (state : IndependentReviewStateV1) (call : IndependentCallStateV1) :
    IndependentReviewStateV1 := { state with review_call := call }

def with_audit_call (state : IndependentReviewStateV1) (call : IndependentCallStateV1) :
    IndependentReviewStateV1 := { state with audit_call := some call }

/-- The packet of the Auditor, behind a result of the Reviewer. -/
def audit_packet (input : ReviewAuditLoopInput) (state : IndependentReviewStateV1)
    (review_result : RoleResultV1) (decision : ReviewDecision) :
    Except ReviewAuditLoopError AuditPacketV1 := do
  let review_result_digest := sha256.result review_result
  let auditor_invocation_digest ← ok_or
    (input.auditor_invocation.canonical_digest sha256.toControlPlaneDigests) .InvalidInput
  let packet : AuditPacketV1 :=
    { contract_version := INDEPENDENT_REVIEW_CONTRACT_VERSION
      packet_id := s!"audit.{review_result_digest}"
      review_packet := state.review_packet
      review_packet_digest := state.review_packet.packet_digest
      review_result_digest := review_result_digest
      review_decision := decision
      auditor := input.auditor_invocation.target
      auditor_invocation := input.auditor_invocation
      auditor_invocation_digest := auditor_invocation_digest
      evidence_manifest := input.audit_manifest
      packet_digest := "" }
  let packet := { packet with
    packet_digest := packet.computed_digest sha256.toIndependentContractDigests }
  (packet.validate sha256.toIndependentContractDigests).mapError fun _ => .InvalidInput
  pure packet

def auditing (state : IndependentReviewStateV1) (packet : AuditPacketV1) :
    IndependentReviewStateV1 :=
  { state with
    phase := .Auditing
    audit_packet := some packet
    audit_call := some .NotStarted }

def resolved_pass (state : IndependentReviewStateV1)
    (review_result_digest audit_result_digest : String) : IndependentReviewStateV1 :=
  { state with
    phase := .ResolvedPass
    resolution := some (.Pass review_result_digest audit_result_digest) }

def repair_directed (state : IndependentReviewStateV1) (directive : RepairDirectiveV1) :
    IndependentReviewStateV1 :=
  { state with
    phase := .RepairDirected
    resolution := some (.Repair directive.directive_digest directive.successor_run_id)
    repair_directive := some directive }

/-- Is the reason one for which a review that is left before its audit has no packet? -/
def drops_audit (phase : IndependentReviewPhaseV1) : OwnerEscalationReasonV1 → Bool
  | .ReviewerOutcomeUnknown | .ReviewerExecutionFailed | .EvidenceInvalid => phase == .Reviewing
  | _ => false

def owner_escalated (state : IndependentReviewStateV1) (reason : OwnerEscalationReasonV1) :
    IndependentReviewStateV1 :=
  let audit_packet := if drops_audit state.phase reason then none else state.audit_packet
  { state with
    phase := .OwnerEscalated
    audit_packet := audit_packet
    audit_call := if audit_packet.isNone then none else state.audit_call
    repair_directive := none
    resolution := some (.OwnerEscalation reason) }

/-- The cycle of a repair, whose number has 32 bits. -/
def successor_cycle (state : IndependentReviewStateV1) : Except ReviewAuditLoopError ℕ := do
  reject_if (U32_MAX < state.review_packet.candidate_cycle + 1) .InvalidInput
  pure (state.review_packet.candidate_cycle + 1)

def build_directive (state : IndependentReviewStateV1) (review : ReviewDecision)
    (audit : AuditDecision) (review_result_digest audit_result_digest : String)
    (coordinator : PrincipalIdentityV1) (successor_run_id : RunId) :
    Except ReviewAuditLoopError RepairDirectiveV1 := do
  let cycle ← successor_cycle state
  let criteria := IndependentReviewStateV1.unsatisfied_criteria review audit
  reject_if (criteria = []) .InvalidInput
  let audit_packet ← ok_or state.audit_packet .InvalidInput
  let directive : RepairDirectiveV1 :=
    { contract_version := INDEPENDENT_REVIEW_CONTRACT_VERSION
      directive_id := s!"repair-directive.{cycle}.{review_result_digest}"
      root_run_id := state.review_packet.root_run_id
      failed_run_id := state.review_packet.run_id
      successor_run_id := successor_run_id
      goal_id := state.review_packet.goal_id
      task_id := state.review_packet.task_id
      failed_candidate_cycle := state.review_packet.candidate_cycle
      successor_candidate_cycle := cycle
      max_repair_cycles := state.review_packet.max_repair_cycles
      prior_repair_directive_digest := state.review_packet.prior_repair_directive_digest
      review_packet_digest := state.review_packet.packet_digest
      review_result_digest := review_result_digest
      audit_packet_digest := audit_packet.packet_digest
      audit_result_digest := audit_result_digest
      repair_paths := [state.review_packet.frozen_diff.logical_path]
      unsatisfied_criteria := criteria
      routed_by := coordinator
      grants_authority := false
      directive_digest := "" }
  let directive := { directive with
    directive_digest := directive.computed_digest sha256.toIndependentContractDigests }
  (directive.validate sha256.toIndependentContractDigests).mapError fun _ => .InvalidInput
  pure directive

/-- The directive to the one run that may repair the candidate, which the caller has to
have named. -/
def directive_for (input : ReviewAuditLoopInput) (state : IndependentReviewStateV1)
    (review : ReviewDecision) (audit : AuditDecision)
    (review_result_digest audit_result_digest : String) :
    Except ReviewAuditLoopError RepairDirectiveV1 := do
  let cycle ← successor_cycle state
  let expected_successor_run_id ← (derive_repair_successor_run_id
    sha256.toIndependentContractDigests state.review_packet.root_run_id cycle review_result_digest
    audit_result_digest).mapError fun _ => .InvalidInput
  reject_if (input.repair_successor_run_id ≠ some expected_successor_run_id) .InvalidInput
  build_directive sha256 state review audit review_result_digest audit_result_digest
    input.coordinator expected_successor_run_id

def outcome_from_state (state : IndependentReviewStateV1) :
    Except ReviewAuditLoopError ReviewAuditLoopOutcome :=
  match state.phase, state.resolution with
  | .ResolvedPass, some (.Pass _ _) => pure (.ResolvedPass state.state_digest)
  | .RepairDirected, some (.Repair _ _) => do
    let directive ← ok_or state.repair_directive .ProjectionConflict
    pure (.RepairDirected state.state_digest directive)
  | .OwnerEscalated, some (.OwnerEscalation reason) =>
    pure (.OwnerEscalated state.state_digest reason)
  | _, _ => .error .ProjectionConflict

end States

/-! ## The two decisions in the log -/

inductive DecisionProjectionState where
  | Absent
  | ReviewOnly
  | Complete
  deriving DecidableEq, Repr

def next_projection_event (events : List RunEvent) (id : EventId) (run_id : RunId)
    (occurred_at : DateTime) (producer_role : Role) (payload : RunEventPayload) :
    Except ReviewAuditLoopError RunEvent := do
  reject_if (U64_MAX < events.length) .InvalidInput
  pure
    { contract_version := ContractVersion.current
      id := id
      run_id := run_id
      sequence := events.length
      previous_event_id := events.getLast?.map RunEvent.id
      occurred_at := occurred_at
      producer_role := producer_role
      payload := payload
      metadata := ∅ }

/-- The two decisions of a passed review, with the ids of their events. -/
structure PassingPair where
  review : ReviewDecision
  audit : AuditDecision
  review_event_id : EventId
  audit_event_id : EventId

namespace PassingPair

/-- The event of the Reviewer's decision behind these events of a run. -/
def review_event (pair : PassingPair) (run_id : RunId) (events : List RunEvent) :
    Except ReviewAuditLoopError RunEvent :=
  next_projection_event events pair.review_event_id run_id pair.review.decided_at .Reviewer
    (.ReviewDecisionRecorded pair.review)

def audit_event (pair : PassingPair) (run_id : RunId) (events : List RunEvent) :
    Except ReviewAuditLoopError RunEvent :=
  next_projection_event events pair.audit_event_id run_id pair.audit.decided_at .Auditor
    (.AuditDecisionRecorded pair.audit)

end PassingPair

/-- An event with the id of a decision has to be the event of it, and the only one. -/
def find_decision (event_id : EventId)
    (expected : List RunEvent → Except ReviewAuditLoopError RunEvent) (events : List RunEvent)
    (index : ℕ) (event : RunEvent) (found : Option ℕ) :
    Except ReviewAuditLoopError (Option ℕ) :=
  if event.id = event_id then do
    let expected ← expected (events.take index)
    reject_if (event ≠ expected ∨ found.isSome) .ProjectionConflict
    pure (some index)
  else
    pure found

/-- An event with a decision has to be of this decision, and have its id. -/
def is_of_pair (pair : PassingPair) (event : RunEvent) : Bool :=
  match event.payload with
  | .ReviewDecisionRecorded decision => decision == pair.review && event.id == pair.review_event_id
  | .AuditDecisionRecorded decision => decision == pair.audit && event.id == pair.audit_event_id
  | _ => true

/-- The positions of the two events among these, which begin at an index. -/
def find_decisions (pair : PassingPair) (events : List RunEvent) :
    ℕ → List RunEvent → Option ℕ × Option ℕ → Except ReviewAuditLoopError (Option ℕ × Option ℕ)
  | _, [], found => pure found
  | index, event :: rest, found => do
    let review_index ← find_decision pair.review_event_id (pair.review_event pair.review.run_id)
      events index event found.1
    let audit_index ← find_decision pair.audit_event_id (pair.audit_event pair.audit.run_id)
      events index event found.2
    reject_if (¬ is_of_pair pair event) .ProjectionConflict
    find_decisions pair events (index + 1) rest (review_index, audit_index)

def classify_decision_projection (events : List RunEvent) (issue6_sequence : ℕ)
    (pair : PassingPair) : Except ReviewAuditLoopError DecisionProjectionState := do
  let terminal ← ok_or events[issue6_sequence]? .ProjectionConflict
  reject_if (terminal.run_id ≠ pair.review.run_id) .ProjectionConflict
  let found ← find_decisions pair events (issue6_sequence + 1) (events.drop (issue6_sequence + 1))
    (none, none)
  match found with
  | (none, none) => do
    reject_if (events.length ≠ issue6_sequence + 1) .ProjectionConflict
    pure .Absent
  | (some review_index, none) => do
    reject_if (review_index ≠ issue6_sequence + 1 ∨ review_index + 1 ≠ events.length)
      .ProjectionConflict
    pure .ReviewOnly
  | (some review_index, some audit_index) => do
    reject_if (review_index ≠ issue6_sequence + 1 ∨ audit_index ≠ review_index + 1)
      .ProjectionConflict
    pure .Complete
  | (none, some _) => .error .ProjectionConflict

/-- The decisions of a state that has been resolved as passed. -/
def passing_pair {P : Type} (sha256 : IndependentReviewDigests P)
    (state : IndependentReviewStateV1) : Except ReviewAuditLoopError PassingPair := do
  let review_result ← (completed_result state.review_call).mapError fun _ => .ProjectionConflict
  let audit_call ← ok_or state.audit_call .ProjectionConflict
  let audit_result ← (completed_result audit_call).mapError fun _ => .ProjectionConflict
  let review ← ok_or (review_decision_from_payload review_result.payload) .ProjectionConflict
  let audit ← ok_or (audit_decision_from_payload audit_result.payload) .ProjectionConflict
  match state.resolution with
  | some (.Pass review_result_digest audit_result_digest) => do
    reject_if (state.phase ≠ .ResolvedPass
      ∨ review.2.verdict ≠ .Pass
      ∨ audit.2.verdict ≠ .Pass
      ∨ sha256.result review_result ≠ review_result_digest
      ∨ sha256.result audit_result ≠ audit_result_digest) .ProjectionConflict
    pure
      { review := review.2
        audit := audit.2
        review_event_id := s!"a05.review.{review_result_digest}"
        audit_event_id := s!"a05.audit.{audit_result_digest}" }
  | _ => .error .ProjectionConflict

/-! ## The loop -/

section Loop

variable {P Q : Type} [DecidableEq P] (authority : ReviewAuthority P Q)

def load (run_id : RunId) : ReviewAuditProg P Q (LoadedReviewRun P) :=
  on_store (authority.execution.load run_id)

/-- The loaded run with the next state, or nothing where another writer was first. -/
def swapped : ProjectionCasOutcome (EngineerVerifierStateV1 P) IndependentReviewStateV1 →
    Option (LoadedReviewRun P)
  | .Applied value | .Unchanged value => some value
  | .Conflict _ => none

def cas_replace (loaded : LoadedReviewRun P) (next : IndependentReviewStateV1) :
    ReviewAuditProg P Q (Option (LoadedReviewRun P)) := do
  let prior ← checked (projection loaded)
  let outcome ← on_store (authority.execution.compare_and_swap_independent_review
    next.review_packet.run_id loaded.revision (some prior.state_digest) next)
  pure (swapped outcome)

/-- The end of a step that has written its state, or has found another writer's. -/
def continue_with : Option (LoadedReviewRun P) → ReviewAuditProg P Q (ReviewAuditStep P)
  | some value => pure (.Continue value)
  | none => pure (.Complete .InProgress)

/-- The end of a step that has resolved the review, or has found another writer's state. -/
def complete_with : Option (LoadedReviewRun P) → ReviewAuditProg P Q (ReviewAuditStep P)
  | some value => do
    let state ← checked (projection value)
    let outcome ← checked (outcome_from_state state)
    pure (.Complete outcome)
  | none => pure (.Complete .InProgress)

def escalate (loaded : LoadedReviewRun P) (reason : OwnerEscalationReasonV1) :
    ReviewAuditProg P Q (ReviewAuditStep P) := do
  let state ← checked (projection loaded)
  let at_ ← now
  let next ← checked (changed authority.sha256 (owner_escalated state reason) at_)
  let value ← cas_replace authority loaded next
  complete_with value

/-- A write of the review under the lease: the evidence of the packet is current, and the
candidate is still the one of the packet. -/
def cas_under_lease (packet : ReviewPacketV1) (loaded : LoadedReviewRun P)
    (next : Except ReviewAuditLoopError IndependentReviewStateV1) :
    ReviewAuditProg P Q (Option (LoadedReviewRun P)) :=
  with_completion_admission_lease [evidence_key packet] fun snapshot => do
    checked (validate_current snapshot packet)
    checked (validate_candidate loaded packet)
    let next ← checked next
    cas_replace authority loaded next

/-- What comes of a write under the lease. Without current evidence the owner is asked. -/
def after_lease (loaded : LoadedReviewRun P)
    (next : Option (LoadedReviewRun P) → ReviewAuditProg P Q (ReviewAuditStep P)) :
    Except (Fault ReviewAuditLoopError) (Option (LoadedReviewRun P)) →
      ReviewAuditProg P Q (ReviewAuditStep P)
  | .ok value => next value
  | .error (.error (.Storage _)) | .error (.error .InvalidInput) =>
    escalate authority loaded .EvidenceInvalid
  | .error e => .fail e

/-- The part of a call behind its start: the executor is asked, once, and its outcome is
recorded. -/
def record_outcome (request : IndependentRoleExecutionRequest)
    (set_call : IndependentReviewStateV1 → IndependentCallStateV1 → IndependentReviewStateV1)
    (request_digest : String) (started_at : DateTime) (started : LoadedReviewRun P) :
    ReviewAuditProg P Q (ReviewAuditStep P) := do
  let answer ← invoke request
  let outcome ← checked (ok_or answer .ProjectionConflict)
  let persisted ← checked (of_state (try_from_live authority.sha256 outcome request.role_request))
  let recorded_at ← now
  let state ← checked (projection started)
  let next ← checked (changed authority.sha256 (set_call state (.OutcomeRecorded request_digest
    started_at persisted (authority.sha256.role_outcome persisted) recorded_at)) recorded_at)
  let recorded ← cas_replace authority started next
  continue_with recorded

/-- `start_review` and `start_audit`, which differ in the request and in the call it is for. -/
def start_call (packet : ReviewPacketV1) (request : IndependentRoleExecutionRequest)
    (set_call : IndependentReviewStateV1 → IndependentCallStateV1 → IndependentReviewStateV1)
    (loaded : LoadedReviewRun P) : ReviewAuditProg P Q (ReviewAuditStep P) := do
  let request_digest ← checked (of_state (request.canonical_digest authority.sha256))
  let started_at ← now
  let started ← (cas_under_lease authority packet loaded (do
    let state ← projection loaded
    changed authority.sha256 (set_call state (.Started request_digest started_at))
      started_at)).attempt
  after_lease authority loaded (fun
    | some started => record_outcome authority request set_call request_digest started_at started
    | none => pure (.Complete .InProgress)) started

def start_review (input : ReviewAuditLoopInput) (loaded : LoadedReviewRun P) :
    ReviewAuditProg P Q (ReviewAuditStep P) :=
  start_call authority input.review_packet (review_execution_request input.review_packet)
    with_review_call loaded

def start_audit (input : ReviewAuditLoopInput) (loaded : LoadedReviewRun P) :
    ReviewAuditProg P Q (ReviewAuditStep P) := do
  let state ← checked (projection loaded)
  let packet ← checked (ok_or state.audit_packet .ProjectionConflict)
  checked (reject_if (packet.auditor_invocation ≠ input.auditor_invocation
    ∨ packet.evidence_manifest ≠ input.audit_manifest) .ProjectionConflict)
  start_call authority state.review_packet (audit_execution_request packet) with_audit_call loaded

/-- The audit of a candidate whose review is valid. -/
def open_audit (input : ReviewAuditLoopInput) (loaded : LoadedReviewRun P)
    (state : IndependentReviewStateV1) (review_result : RoleResultV1)
    (decision : ReviewDecision) : ReviewAuditProg P Q (ReviewAuditStep P) := do
  let packet ← checked (audit_packet authority.sha256 input state review_result decision)
  let at_ ← now
  let next ← checked (changed authority.sha256 (auditing state packet) at_)
  let value ← cas_replace authority loaded next
  continue_with value

def after_review (input : ReviewAuditLoopInput) (loaded : LoadedReviewRun P) :
    ReviewAuditProg P Q (ReviewAuditStep P) := do
  let state ← checked (projection loaded)
  match completed_result state.review_call with
  | .error _ => escalate authority loaded .ReviewerExecutionFailed
  | .ok review_result =>
    match review_decision_from_payload review_result.payload with
    | none => escalate authority loaded .EvidenceInvalid
    | some (_, decision) =>
      match ReviewAudit.validate_review_decision state.context decision with
      | .error _ => escalate authority loaded .EvidenceInvalid
      | .ok _ => open_audit authority input loaded state review_result decision

/-! ### The decisions of a passed review -/

def load_validated_projection_events (state : IndependentReviewStateV1) :
    ReviewAuditProg P Q (List RunEvent) := do
  let loaded ← load authority state.review_packet.run_id
  checked (validate_candidate loaded state.review_packet)
  let stored ← checked (projection loaded)
  checked (reject_if (stored ≠ state) .ProjectionConflict)
  let issue6 ← checked (ok_or loaded.envelope.engineer_verifier .ProjectionConflict)
  let rows ← read_log
  checked ((EngineerVerifierLoop.validate_terminal_reviewing_projection_chain authority.codec rows
    issue6).mapError fun _ => .ProjectionConflict)

/-- An event appended to the log, and the events of the run read anew. -/
def append_and_reload (state : IndependentReviewStateV1)
    (event : Except ReviewAuditLoopError RunEvent) : ReviewAuditProg P Q (List RunEvent) := do
  let event ← checked event
  let appended ← append_event event
  checked (appended.mapError .Events)
  load_validated_projection_events authority state

def project_review (state : IndependentReviewStateV1) (pair : PassingPair) (issue6_sequence : ℕ)
    (events : List RunEvent) : ReviewAuditProg P Q (List RunEvent) := do
  let found ← checked (classify_decision_projection events issue6_sequence pair)
  if found = .Absent then do
    let events ← append_and_reload authority state
      (pair.review_event state.review_packet.run_id events)
    let found ← checked (classify_decision_projection events issue6_sequence pair)
    checked (reject_if (found ≠ .ReviewOnly) .ProjectionConflict)
    pure events
  else
    pure events

def project_audit (state : IndependentReviewStateV1) (pair : PassingPair) (issue6_sequence : ℕ)
    (events : List RunEvent) : ReviewAuditProg P Q (List RunEvent) := do
  let found ← checked (classify_decision_projection events issue6_sequence pair)
  if found = .ReviewOnly then
    append_and_reload authority state (pair.audit_event state.review_packet.run_id events)
  else
    pure events

def project_passing_pair_under_lease (state : IndependentReviewStateV1) :
    ReviewAuditProg P Q Unit := do
  let pair ← checked (passing_pair authority.sha256 state)
  let events ← load_validated_projection_events authority state
  let loaded ← load authority state.review_packet.run_id
  let issue6_sequence ← checked (ok_or (loaded.envelope.engineer_verifier.bind
    fun issue6 => issue6.projected_sequence) .ProjectionConflict)
  let events ← project_review authority state pair issue6_sequence events
  let events ← project_audit authority state pair issue6_sequence events
  let found ← checked (classify_decision_projection events issue6_sequence pair)
  checked (reject_if (found ≠ .Complete) .ProjectionConflict)

def project_passing_pair (state : IndependentReviewStateV1) : ReviewAuditProg P Q Unit :=
  with_completion_admission_lease [evidence_key state.review_packet] fun snapshot => do
    checked (validate_current snapshot state.review_packet)
    project_passing_pair_under_lease authority state

/-! ### Resolving -/

/-- A state that has been resolved as passed: its decisions go to the log, and it is
reported. -/
def report_pass (state : IndependentReviewStateV1) : ReviewAuditProg P Q (ReviewAuditStep P) := do
  project_passing_pair authority state
  let outcome ← checked (outcome_from_state state)
  pure (.Complete outcome)

def resolve_pass (loaded : LoadedReviewRun P) (state : IndependentReviewStateV1)
    (review_result_digest audit_result_digest : String) :
    ReviewAuditProg P Q (ReviewAuditStep P) := do
  let at_ ← now
  let resolved ← (cas_under_lease authority state.review_packet loaded
    (changed authority.sha256 (resolved_pass state review_result_digest audit_result_digest)
      at_)).attempt
  after_lease authority loaded (fun
    | some value => do
      let resolved ← checked (projection value)
      report_pass authority resolved
    | none => pure (.Complete .InProgress)) resolved

def direct_repair (input : ReviewAuditLoopInput) (loaded : LoadedReviewRun P)
    (state : IndependentReviewStateV1) (review : ReviewDecision) (audit : AuditDecision)
    (review_result_digest audit_result_digest : String) :
    ReviewAuditProg P Q (ReviewAuditStep P) := do
  let directive ← checked (directive_for authority.sha256 input state review audit
    review_result_digest audit_result_digest)
  let at_ ← now
  let next ← checked (changed authority.sha256 (repair_directed state directive) at_)
  let value ← cas_replace authority loaded next
  complete_with value

/-- The resolution that two valid decisions lead to. -/
def resolve_decided (input : ReviewAuditLoopInput) (loaded : LoadedReviewRun P)
    (state : IndependentReviewStateV1) (review : ReviewDecision) (audit : AuditDecision)
    (review_result_digest audit_result_digest : String) :
    ReviewAuditProg P Q (ReviewAuditStep P) :=
  match review.verdict, audit.verdict with
  | .Pass, .Pass => resolve_pass authority loaded state review_result_digest audit_result_digest
  | .Fail, .Fail =>
    if state.review_packet.candidate_cycle < state.review_packet.max_repair_cycles then
      direct_repair authority input loaded state review audit review_result_digest
        audit_result_digest
    else
      escalate authority loaded .RepairBudgetExhausted
  | _, _ => escalate authority loaded .VerdictDisagreement

/-- Both decisions of two completed results, if they are valid. -/
def decided (state : IndependentReviewStateV1) (review_result audit_result : RoleResultV1) :
    Option (ReviewDecision × AuditDecision) := do
  let review ← review_decision_from_payload review_result.payload
  let audit ← audit_decision_from_payload audit_result.payload
  let validated_review ←
    (ReviewAudit.validate_review_decision state.context review.2).toOption
  let _ ← (ReviewAudit.validate_audit_decision state.context validated_review audit.2).toOption
  pure (review.2, audit.2)

def resolve (input : ReviewAuditLoopInput) (loaded : LoadedReviewRun P) :
    ReviewAuditProg P Q (ReviewAuditStep P) := do
  let state ← checked (projection loaded)
  let review_result ← checked ((completed_result state.review_call).mapError
    fun _ => .ProjectionConflict)
  let audit_call ← checked (ok_or state.audit_call .ProjectionConflict)
  match completed_result audit_call with
  | .error _ => escalate authority loaded .AuditorExecutionFailed
  | .ok audit_result =>
    match decided state review_result audit_result with
    | none => escalate authority loaded .EvidenceInvalid
    | some (review, audit) =>
      resolve_decided authority input loaded state review audit
        (authority.sha256.result review_result) (authority.sha256.result audit_result)

/-! ### Driving a candidate -/

def resume_reviewing (input : ReviewAuditLoopInput) (loaded : LoadedReviewRun P) :
    IndependentCallStateV1 → ReviewAuditProg P Q (ReviewAuditStep P)
  | .NotStarted => start_review authority input loaded
  | .Started _ _ => escalate authority loaded .ReviewerOutcomeUnknown
  | .OutcomeRecorded _ _ _ _ _ => after_review authority input loaded

def resume_auditing (input : ReviewAuditLoopInput) (loaded : LoadedReviewRun P) :
    IndependentCallStateV1 → ReviewAuditProg P Q (ReviewAuditStep P)
  | .NotStarted => start_audit authority input loaded
  | .Started _ _ => escalate authority loaded .AuditorOutcomeUnknown
  | .OutcomeRecorded _ _ _ _ _ => resolve authority input loaded

def resume_step (input : ReviewAuditLoopInput) (loaded : LoadedReviewRun P) :
    ReviewAuditProg P Q (ReviewAuditStep P) := do
  let state ← checked (projection loaded)
  match state.phase with
  | .ResolvedPass => report_pass authority state
  | .RepairDirected => do
    let directive ← checked (ok_or state.repair_directive .ProjectionConflict)
    checked (reject_if (input.repair_successor_run_id ≠ some directive.successor_run_id)
      .ProjectionConflict)
    let outcome ← checked (outcome_from_state state)
    pure (.Complete outcome)
  | .OwnerEscalated => do
    let outcome ← checked (outcome_from_state state)
    pure (.Complete outcome)
  | .Reviewing => resume_reviewing authority input loaded state.review_call
  | .Auditing => do
    let audit_call ← checked (ok_or state.audit_call .ProjectionConflict)
    resume_auditing authority input loaded audit_call

def validate_repair_chain (packet : ReviewPacketV1) : ReviewAuditProg P Q Unit :=
  if packet.candidate_cycle = 0 then
    pure ()
  else do
    let prior_run_id ← checked (ok_or packet.prior_run_id .InvalidInput)
    let prior ← load authority prior_run_id
    checked (validate_prior prior packet prior_run_id)

/-- The review that a run has, or the first one; none where another writer was first. -/
def install (input : ReviewAuditLoopInput) (loaded : LoadedReviewRun P) :
    ReviewAuditProg P Q (Option (LoadedReviewRun P)) :=
  match loaded.envelope.independent_review with
  | some existing => do
    checked (reject_if (existing.review_packet ≠ input.review_packet) .ProjectionConflict)
    pure (some loaded)
  | none => do
    let at_ ← now
    let initial ← checked (of_state
      (IndependentReviewStateV1.initial authority.sha256 input.review_packet at_))
    let outcome ← on_store (authority.execution.compare_and_swap_independent_review
      input.review_packet.run_id loaded.revision none initial)
    pure (swapped outcome)

/-- The loop of `drive`, for as many rounds; no answer where it would go on. -/
def drive_rounds (input : ReviewAuditLoopInput) :
    ℕ → LoadedReviewRun P → ReviewAuditProg P Q (Option ReviewAuditLoopOutcome)
  | 0, _ => pure none
  | rounds + 1, loaded => do
    let step ← resume_step authority input loaded
    match step with
    | .Continue next => drive_rounds input rounds next
    | .Complete outcome => pure (some outcome)

def drive (rounds : ℕ) (input : ReviewAuditLoopInput) :
    ReviewAuditProg P Q (Option ReviewAuditLoopOutcome) := do
  checked (validate_input authority.sha256 input)
  let loaded ← load authority input.review_packet.run_id
  checked (validate_candidate loaded input.review_packet)
  validate_repair_chain authority input.review_packet
  let installed ← install authority input loaded
  match installed with
  | some loaded => drive_rounds authority input rounds loaded
  | none => pure (some .InProgress)

end Loop

end ReviewAuditLoop

end OvcaCore

/-
The durable execution authority (`ovca-runtime-core/src/sqlite_execution.rs`).

One row of the versioned store holds everything about an execution run: its
definition, the snapshot of the lifecycle kernel and two optional projections,
the engineer-verifier state and the independent-review state. Lifecycle
commands replace the snapshot and retry on a conflict; the two projection
writers replace their projection and report a conflict to their caller.

The states of the projections and their rules come from other modules of the
source; here they are a parameter (`ProjectionRules`), and so is the
serialization of the envelope (`SerdeJson`). Taking the workspace lock before
an engineer-verifier write is left out: it only narrows the interleavings.
-/
import OvcaCore.ExecutionLifecycle
import OvcaCore.VersionedState

set_option autoImplicit false

namespace OvcaCore

open OvcaCore.Checks OvcaCore.Interleaving

def DEFAULT_EXECUTION_CAS_RETRY_LIMIT : ℕ := 16

def EXECUTION_ENVELOPE_V1 : ContractVersion := 1

def EXECUTION_ENVELOPE_V2 : ContractVersion := 2

def EXECUTION_ENTITY_PREFIX : String := "execution_run:"

/-! ## Records -/

structure ExecutionRunEnvelope (E R : Type) where
  contract_version : ContractVersion
  run_id : RunId
  tasks : BTreeMap TaskId Task
  retry_budget : RetryBudget
  snapshot : ExecutionLifecycleSnapshot
  engineer_verifier : Option E
  independent_review : Option R
  deriving DecidableEq

structure LoadedExecutionRun (E R : Type) where
  envelope : ExecutionRunEnvelope E R
  revision : ℕ
  deriving DecidableEq

structure InitializeRunResult (E R : Type) where
  state : LoadedExecutionRun E R
  initialized : Bool
  deriving DecidableEq

structure DurableCommandResult where
  output : ExecutionResponse
  snapshot : ExecutionLifecycleSnapshot
  revision : ℕ
  deriving DecidableEq

/-- `EngineerVerifierCasOutcome` and `IndependentReviewCasOutcome`. -/
inductive ProjectionCasOutcome (E R : Type) where
  | Applied (state : LoadedExecutionRun E R)
  | Unchanged (state : LoadedExecutionRun E R)
  | Conflict (state : LoadedExecutionRun E R)
  deriving DecidableEq

inductive ExecutionStateCorruption where
  | UnsupportedEnvelopeVersion (expected actual : ContractVersion)
  | EnvelopeRunMismatch (expected actual : RunId)
  | EngineerVerifier (source : EngineerVerifierError)
  | IndependentReview (source : IndependentReviewError)
  | EnvelopeProjectionVersionMismatch
  | Lifecycle (source : ExecutionLifecycleRestoreError)
  deriving DecidableEq

inductive DurableExecutionError where
  | RunNotFound (run_id : RunId)
  | DefinitionConflict (run_id : RunId) (existing_revision : ℕ)
  | Lifecycle (source : ExecutionLifecycleError)
  | EngineerVerifier (source : EngineerVerifierError)
  | IndependentReview (source : IndependentReviewError)
  | Storage (source : VersionedStateError)
  | Serialization (source : SerdeError)
  | CorruptState (run_id : RunId) (source : ExecutionStateCorruption)
  | ContentionExhausted (run_id : RunId) (retry_limit current_revision : ℕ)
  deriving DecidableEq

/-- A fallible step of the authority: it returns an error or panics. -/
abbrev Durable := Except (Fault DurableExecutionError)

/-! ## Parameters -/

/-- The part of an envelope that a projection is bound to. -/
structure ExecutionRunBinding (E : Type) where
  run_id : RunId
  tasks : BTreeMap TaskId Task
  retry_budget : RetryBudget
  engineer_verifier : Option E

def ExecutionRunEnvelope.binding {E R : Type} (envelope : ExecutionRunEnvelope E R) :
    ExecutionRunBinding E where
  run_id := envelope.run_id
  tasks := envelope.tasks
  retry_budget := envelope.retry_budget
  engineer_verifier := envelope.engineer_verifier

/-- The rules of one projection with states `S`, failing with `X`: when a state
is valid, bound to its envelope, a first state or the successor of another, and
what its digest is. -/
structure ProjectionRules (E S X : Type) where
  validate : S → Except X Unit
  validate_binding : ExecutionRunBinding E → S → Except X Unit
  validate_initial_install : S → Except X Unit
  validate_successor : S → S → Except X Unit
  state_digest : S → String

/-- The authority: the rules of its projections, its serialization and how
often it retries. -/
structure DurableExecutionAuthority (E R P : Type) where
  engineer_verifier : ProjectionRules E E EngineerVerifierError
  independent_review : ProjectionRules E R IndependentReviewError
  serde_json : SerdeJson (ExecutionRunEnvelope E R) P
  cas_retry_limit : ℕ

namespace DurableExecutionAuthority

open VersionedStateStore

variable {E R P : Type}

/-! ## Reading a row -/

def entity_key (run_id : RunId) : String := EXECUTION_ENTITY_PREFIX ++ run_id

/-- `same_definition`. -/
def same_definition (left right : ExecutionRunEnvelope E R) : Prop :=
  left.run_id = right.run_id ∧ left.tasks = right.tasks ∧ left.retry_budget = right.retry_budget

instance (left right : ExecutionRunEnvelope E R) : Decidable (same_definition left right) := by
  unfold same_definition
  infer_instance

def corrupt (run_id : RunId) (source : ExecutionStateCorruption) : Fault DurableExecutionError :=
  .error (.CorruptState run_id source)

/-- `map_err` for a computation that can also panic. -/
def map_fault {ε ε' α : Type} (f : ε → ε') (x : Except (Fault ε) α) : Except (Fault ε') α :=
  x.mapError fun
    | .error e => .error (f e)
    | .panic message => .panic message

@[simp] theorem map_fault_eq_ok {ε ε' α : Type} {f : ε → ε'} {x : Except (Fault ε) α} {b : α} :
    map_fault f x = .ok b ↔ x = .ok b := mapError_eq_ok

/-- The check of a projection that a stored envelope carries. -/
def restore_projection {S X : Type} (rules : ProjectionRules E S X)
    (run_id : RunId) (wrap : X → ExecutionStateCorruption) (envelope : ExecutionRunEnvelope E R)
    (state : Option S) : Durable Unit :=
  check_some state fun state => do
    (rules.validate state).mapError fun source => corrupt run_id (wrap source)
    (rules.validate_binding envelope.binding state).mapError fun source => corrupt run_id (wrap source)

def restore_kernel (a : DurableExecutionAuthority E R P) (expected_run_id : RunId)
    (envelope : ExecutionRunEnvelope E R) : Durable ExecutionLifecycleKernel := do
  reject_if (envelope.contract_version ≠ EXECUTION_ENVELOPE_V1
      ∧ envelope.contract_version ≠ EXECUTION_ENVELOPE_V2)
    (corrupt expected_run_id
      (.UnsupportedEnvelopeVersion EXECUTION_ENVELOPE_V2 envelope.contract_version))
  reject_if (envelope.contract_version = EXECUTION_ENVELOPE_V1
        ∧ envelope.independent_review.isSome
      ∨ envelope.contract_version = EXECUTION_ENVELOPE_V2
        ∧ envelope.independent_review.isNone)
    (corrupt expected_run_id .EnvelopeProjectionVersionMismatch)
  reject_if (envelope.run_id ≠ expected_run_id)
    (corrupt expected_run_id (.EnvelopeRunMismatch expected_run_id envelope.run_id))
  restore_projection a.engineer_verifier expected_run_id .EngineerVerifier envelope
    envelope.engineer_verifier
  restore_projection a.independent_review expected_run_id .IndependentReview envelope
    envelope.independent_review
  map_fault (fun source => .CorruptState expected_run_id (.Lifecycle source))
    (ExecutionLifecycleKernel.restore envelope.run_id (envelope.tasks.toList.map Prod.snd)
      envelope.retry_budget envelope.snapshot)

/-- The part of what `restore_kernel` checks that does not look at the
snapshot. -/
structure Header (a : DurableExecutionAuthority E R P) (run_id : RunId)
    (envelope : ExecutionRunEnvelope E R) : Prop where
  version : envelope.contract_version = EXECUTION_ENVELOPE_V1 ∧ envelope.independent_review = none
    ∨ envelope.contract_version = EXECUTION_ENVELOPE_V2 ∧ envelope.independent_review.isSome
  run_id_eq : envelope.run_id = run_id
  engineer_verifier : ∀ state, envelope.engineer_verifier = some state →
    a.engineer_verifier.validate state = .ok () ∧
      a.engineer_verifier.validate_binding envelope.binding state = .ok ()
  independent_review : ∀ state, envelope.independent_review = some state →
    a.independent_review.validate state = .ok () ∧
      a.independent_review.validate_binding envelope.binding state = .ok ()

theorem restore_projection_eq_ok {S X : Type} {rules : ProjectionRules E S X} {run_id : RunId}
    {wrap : X → ExecutionStateCorruption} {envelope : ExecutionRunEnvelope E R}
    {state : Option S} {u : Unit} :
    restore_projection rules run_id wrap envelope state = .ok u ↔
      ∀ s, state = some s → rules.validate s = .ok () ∧
        rules.validate_binding envelope.binding s = .ok () := by
  simp only [restore_projection, check_some_eq_ok, bind_eq_ok, mapError_eq_ok, exists_and_right,
    exists_unit_eq_ok]

/-- An envelope is restored when its header is admitted and its snapshot is
accepted for its definition. -/
theorem restore_kernel_eq_ok {a : DurableExecutionAuthority E R P} {run_id : RunId}
    {envelope : ExecutionRunEnvelope E R} {k : ExecutionLifecycleKernel} :
    a.restore_kernel run_id envelope = .ok k ↔
      a.Header run_id envelope ∧
      ExecutionLifecycleKernel.restore envelope.run_id (envelope.tasks.toList.map Prod.snd)
        envelope.retry_budget envelope.snapshot = .ok k := by
  have hversion : (¬ (envelope.contract_version ≠ EXECUTION_ENVELOPE_V1
        ∧ envelope.contract_version ≠ EXECUTION_ENVELOPE_V2) ∧
      ¬ (envelope.contract_version = EXECUTION_ENVELOPE_V1 ∧ envelope.independent_review.isSome
        ∨ envelope.contract_version = EXECUTION_ENVELOPE_V2
          ∧ envelope.independent_review.isNone)) ↔
      (envelope.contract_version = EXECUTION_ENVELOPE_V1 ∧ envelope.independent_review = none
        ∨ envelope.contract_version = EXECUTION_ENVELOPE_V2
          ∧ envelope.independent_review.isSome) := by
    unfold EXECUTION_ENVELOPE_V1 EXECUTION_ENVELOPE_V2
    by_cases h1 : envelope.contract_version = 1
    · cases envelope.independent_review <;> simp [h1]
    · by_cases h2 : envelope.contract_version = 2
      · cases envelope.independent_review <;> simp [h2]
      · simp [h1, h2]
  simp only [restore_kernel, bind_eq_ok, reject_if_eq_ok, exists_const,
    restore_projection_eq_ok, map_fault_eq_ok]
  constructor
  · rintro ⟨hsupported, hpresent, hrun, hengineer, hreview, hrestore⟩
    exact ⟨⟨hversion.mp ⟨hsupported, hpresent⟩, not_not.mp hrun, hengineer, hreview⟩, hrestore⟩
  · rintro ⟨⟨hv, hrun, hengineer, hreview⟩, hrestore⟩
    obtain ⟨hsupported, hpresent⟩ := hversion.mpr hv
    exact ⟨hsupported, hpresent, not_not.mpr hrun, hengineer, hreview, hrestore⟩

/-- The header is not about the snapshot. -/
theorem Header.with_snapshot {a : DurableExecutionAuthority E R P} {run_id : RunId}
    {envelope : ExecutionRunEnvelope E R} (h : a.Header run_id envelope)
    (snapshot : ExecutionLifecycleSnapshot) :
    a.Header run_id { envelope with snapshot := snapshot } :=
  ⟨h.version, h.run_id_eq, h.engineer_verifier, h.independent_review⟩

def from_slice (a : DurableExecutionAuthority E R P) (payload : P) :
    Durable (ExecutionRunEnvelope E R) :=
  (a.serde_json.from_slice payload).mapError fun source => .error (.Serialization source)

def to_vec (a : DurableExecutionAuthority E R P) (envelope : ExecutionRunEnvelope E R) :
    Durable P :=
  (a.serde_json.to_vec envelope).mapError fun source => .error (.Serialization source)

def decode_and_restore (a : DurableExecutionAuthority E R P) (expected_run_id : RunId)
    (state : VersionedState P) : Durable (LoadedExecutionRun E R) := do
  let envelope ← from_slice a state.payload
  let _ ← restore_kernel a expected_run_id envelope
  pure ⟨envelope, state.revision⟩

theorem decode_and_restore_eq_ok {a : DurableExecutionAuthority E R P} {run_id : RunId}
    {state : VersionedState P} {loaded : LoadedExecutionRun E R} :
    a.decode_and_restore run_id state = .ok loaded ↔
      a.serde_json.from_slice state.payload = .ok loaded.envelope ∧
      loaded.revision = state.revision ∧
      ∃ k, a.restore_kernel run_id loaded.envelope = .ok k := by
  obtain ⟨envelope, revision⟩ := loaded
  simp only [decode_and_restore, from_slice, bind_eq_ok, mapError_eq_ok, pure_eq_ok,
    LoadedExecutionRun.mk.injEq]
  constructor
  · rintro ⟨_, hslice, k, hrestore, rfl, rfl⟩
    exact ⟨hslice, rfl, k, hrestore⟩
  · rintro ⟨hslice, rfl, k, hrestore⟩
    exact ⟨envelope, hslice, k, hrestore, rfl, rfl⟩

/-! ## Initialization -/

/-- The first envelope of a run. -/
def initial_envelope (run_id : RunId) (tasks : List Task) (retry_budget : RetryBudget)
    (kernel : ExecutionLifecycleKernel) : ExecutionRunEnvelope E R where
  contract_version := GOAL_RUNTIME_CONTRACT_VERSION
  run_id := run_id
  tasks := ExecutionLifecycle.task_map tasks
  retry_budget := retry_budget
  snapshot := kernel.snapshot
  engineer_verifier := none
  independent_review := none

/-- The checks of `initialize_run` before it touches the store. -/
def prepare_run (a : DurableExecutionAuthority E R P) (run_id : RunId) (tasks : List Task)
    (retry_budget : RetryBudget) : Durable (ExecutionRunEnvelope E R × P) := do
  let kernel ← lift ((ExecutionLifecycleKernel.new run_id tasks retry_budget).mapError .Lifecycle)
  let envelope := initial_envelope run_id tasks retry_budget kernel
  let _ ← restore_kernel a run_id envelope
  let payload ← to_vec a envelope
  pure (envelope, payload)

/-- Its checks on the row the store has afterwards. -/
def check_definition (a : DurableExecutionAuthority E R P) (run_id : RunId)
    (envelope : ExecutionRunEnvelope E R) (state : VersionedState P) (initialized : Bool) :
    Durable (InitializeRunResult E R) := do
  let loaded ← decode_and_restore a run_id state
  reject_if (¬ same_definition loaded.envelope envelope)
    (Fault.error (.DefinitionConflict run_id loaded.revision))
  pure ⟨loaded, initialized⟩

theorem check_definition_initialized {a : DurableExecutionAuthority E R P} {run_id : RunId}
    {envelope : ExecutionRunEnvelope E R} {state : VersionedState P} {initialized : Bool}
    {result : InitializeRunResult E R}
    (h : a.check_definition run_id envelope state initialized = .ok result) :
    result.initialized = initialized := by
  simp only [check_definition, bind_eq_ok, pure_eq_ok] at h
  obtain ⟨_, _, _, _, rfl⟩ := h
  rfl

def initialize_run (a : DurableExecutionAuthority E R P) (run_id : RunId) (tasks : List Task)
    (retry_budget : RetryBudget) :
    StoreProg P (Fault DurableExecutionError) (InitializeRunResult E R) := do
  let prepared ← prepare_run a run_id tasks retry_budget
  .op (.initialize_entity (entity_key run_id) prepared.2) fun
    | .Initialized state => .done (check_definition a run_id prepared.1 state true)
    | .Existing state => .done (check_definition a run_id prepared.1 state false)

/-! ## Loading -/

/-- The row of a run, or `RunNotFound`. -/
def load_row (run_id : RunId) :
    StoreProg P (Fault DurableExecutionError) (VersionedState P) :=
  .op (.load (entity_key run_id)) fun row =>
    .done (ok_or row (Fault.error (.RunNotFound run_id)))

def load (a : DurableExecutionAuthority E R P) (run_id : RunId) :
    StoreProg P (Fault DurableExecutionError) (LoadedExecutionRun E R) := do
  let state ← load_row run_id
  decode_and_restore a run_id state

/-! ## Lifecycle commands -/

/-- What one round of `apply` computes from a state it has read: the answer,
and the payload to write when the kernel changed. -/
structure Round (P : Type) where
  output : ExecutionResponse
  snapshot : ExecutionLifecycleSnapshot
  revision : ℕ
  payload : Option P

/-- The part of a round between reading a state and writing its successor. -/
def apply_round (a : DurableExecutionAuthority E R P) (run_id : RunId)
    (request : ExecutionRequest) (current : VersionedState P) : Durable (Round P) := do
  let loaded ← decode_and_restore a run_id current
  let kernel ← restore_kernel a run_id loaded.envelope
  let result ← map_fault .Lifecycle (kernel.step request)
  let snapshot := result.2.snapshot
  if snapshot = kernel.snapshot then
    pure ⟨result.1, snapshot, loaded.revision, none⟩
  else do
    let next_envelope := { loaded.envelope with snapshot := snapshot }
    let _ ← restore_kernel a run_id next_envelope
    let payload ← to_vec a next_envelope
    pure ⟨result.1, snapshot, loaded.revision, some payload⟩

/-- What a round computes: the answer of the kernel that the state restores to,
and an envelope with its next snapshot when that is another one. -/
theorem apply_round_eq_ok {a : DurableExecutionAuthority E R P} {run_id : RunId}
    {request : ExecutionRequest} {current : VersionedState P} {round : Round P} :
    a.apply_round run_id request current = .ok round ↔
      ∃ loaded k k' response, a.decode_and_restore run_id current = .ok loaded ∧
        a.restore_kernel run_id loaded.envelope = .ok k ∧
        k.step request = .ok (response, k') ∧
        (k'.snapshot = k.snapshot ∧
            round = ⟨response, k'.snapshot, loaded.revision, none⟩ ∨
          k'.snapshot ≠ k.snapshot ∧ ∃ payload,
            (∃ restored, a.restore_kernel run_id
              { loaded.envelope with snapshot := k'.snapshot } = .ok restored) ∧
            a.serde_json.to_vec { loaded.envelope with snapshot := k'.snapshot } = .ok payload ∧
            round = ⟨response, k'.snapshot, loaded.revision, some payload⟩) := by
  simp only [apply_round, bind_eq_ok, map_fault_eq_ok]
  constructor
  · rintro ⟨loaded, hloaded, k, hk, ⟨response, k'⟩, hstep, hround⟩
    refine ⟨loaded, k, k', response, hloaded, hk, hstep, ?_⟩
    dsimp only at hround
    split at hround
    · next heq => exact Or.inl ⟨heq, (pure_eq_ok.mp hround).symm⟩
    · next hne =>
      simp only [bind_eq_ok, to_vec, mapError_eq_ok, pure_eq_ok] at hround
      obtain ⟨restored, hrestored, payload, hpayload, rfl⟩ := hround
      exact Or.inr ⟨hne, payload, ⟨restored, hrestored⟩, hpayload, rfl⟩
  · rintro ⟨loaded, k, k', response, hloaded, hk, hstep, hround⟩
    refine ⟨loaded, hloaded, k, hk, (response, k'), hstep, ?_⟩
    dsimp only
    rcases hround with ⟨heq, rfl⟩ | ⟨hne, payload, ⟨restored, hrestored⟩, hpayload, rfl⟩
    · rw [if_pos heq, pure_eq_ok]
    · rw [if_neg hne]
      simp only [bind_eq_ok, to_vec, mapError_eq_ok, pure_eq_ok]
      exact ⟨restored, hrestored, payload, hpayload, rfl⟩

/-- One round of `apply`, given what to do on a conflict. -/
def apply_once (a : DurableExecutionAuthority E R P) (run_id : RunId)
    (request : ExecutionRequest)
    (retry : VersionedState P → StoreProg P (Fault DurableExecutionError) DurableCommandResult)
    (current : VersionedState P) :
    StoreProg P (Fault DurableExecutionError) DurableCommandResult := do
  let round ← apply_round a run_id request current
  match round.payload with
  | none => pure ⟨round.output, round.snapshot, round.revision⟩
  | some payload =>
    .op (.compare_and_swap (entity_key run_id) round.revision payload) fun
      | .error e => .fail (.error (.Storage e))
      | .ok (.Applied state) => pure ⟨round.output, round.snapshot, state.revision⟩
      | .ok (.Conflict state) => retry state

/-- The loop of `apply`, with the number of conflicts it may still retry. -/
def apply_loop (a : DurableExecutionAuthority E R P) (run_id : RunId)
    (request : ExecutionRequest) :
    ℕ → VersionedState P → StoreProg P (Fault DurableExecutionError) DurableCommandResult
  | 0 => apply_once a run_id request fun state =>
      .fail (.error (.ContentionExhausted run_id a.cas_retry_limit state.revision))
  | remaining + 1 => apply_once a run_id request (apply_loop a run_id request remaining)

/-- `claim`, `heartbeat`, `fail`, `complete` and `cancel`. -/
def apply (a : DurableExecutionAuthority E R P) (run_id : RunId) (request : ExecutionRequest) :
    StoreProg P (Fault DurableExecutionError) DurableCommandResult := do
  let current ← load_row run_id
  apply_loop a run_id request a.cas_retry_limit current

/-! ## Projection writers -/

/-- How a projection sits in the envelope. -/
structure ProjectionSlot (E R S X : Type) where
  get : ExecutionRunEnvelope E R → Option S
  set : ExecutionRunEnvelope E R → S → ExecutionRunEnvelope E R
  wrap : X → DurableExecutionError

def engineer_verifier_slot : ProjectionSlot E R E EngineerVerifierError where
  get envelope := envelope.engineer_verifier
  set envelope next := { envelope with engineer_verifier := some next }
  wrap := .EngineerVerifier

/-- The first install of a review upgrades the envelope to its second version. -/
def independent_review_slot : ProjectionSlot E R R IndependentReviewError where
  get envelope := envelope.independent_review
  set envelope next :=
    { envelope with
      contract_version := EXECUTION_ENVELOPE_V2
      independent_review := some next }
  wrap := .IndependentReview

/-- What a projection writer decides from the state it has read. -/
inductive SwapPlan (E R P : Type) where
  | answer (outcome : ProjectionCasOutcome E R)
  | swap (payload : P)

/-- The part of a projection write between reading a state and writing. -/
def plan_swap {S X : Type} [DecidableEq S] (a : DurableExecutionAuthority E R P)
    (rules : ProjectionRules E S X) (slot : ProjectionSlot E R S X)
    (run_id : RunId) (expected_revision : ℕ) (expected_state_digest : Option String) (next : S)
    (current : VersionedState P) : Durable (SwapPlan E R P) := do
  let loaded ← decode_and_restore a run_id current
  if loaded.revision ≠ expected_revision
      ∨ (slot.get loaded.envelope).map rules.state_digest ≠ expected_state_digest then
    pure (.answer (.Conflict loaded))
  else do
    lift ((rules.validate_binding loaded.envelope.binding next).mapError slot.wrap)
    if slot.get loaded.envelope = some next then
      pure (.answer (.Unchanged loaded))
    else do
      match slot.get loaded.envelope with
      | some previous => lift ((rules.validate_successor previous next).mapError slot.wrap)
      | none => lift ((rules.validate_initial_install next).mapError slot.wrap)
      let next_envelope := slot.set loaded.envelope next
      let _ ← restore_kernel a run_id next_envelope
      let payload ← to_vec a next_envelope
      pure (.swap payload)

/-- A state may be written over what the envelope has: as a successor, or as a
first state. -/
def Admits {S X : Type} (rules : ProjectionRules E S X) (previous : Option S) (next : S) : Prop :=
  match previous with
  | some previous => rules.validate_successor previous next = .ok ()
  | none => rules.validate_initial_install next = .ok ()

/-- What a projection write that goes through has checked. -/
structure Swaps {S X : Type} (a : DurableExecutionAuthority E R P) (rules : ProjectionRules E S X)
    (slot : ProjectionSlot E R S X) (run_id : RunId) (expected_state_digest : Option String)
    (next : S) (envelope : ExecutionRunEnvelope E R) (payload : P) : Prop where
  digest : (slot.get envelope).map rules.state_digest = expected_state_digest
  changed : slot.get envelope ≠ some next
  admits : Admits rules (slot.get envelope) next
  restores : ∃ k, a.restore_kernel run_id (slot.set envelope next) = .ok k
  written : a.serde_json.to_vec (slot.set envelope next) = .ok payload

/-- A projection writer answers without writing, or writes over a state it may
replace. -/
theorem plan_swap_eq_ok {S X : Type} [DecidableEq S] {a : DurableExecutionAuthority E R P}
    {rules : ProjectionRules E S X} {slot : ProjectionSlot E R S X} {run_id : RunId}
    {expected_revision : ℕ} {expected_state_digest : Option String} {next : S}
    {current : VersionedState P} {plan : SwapPlan E R P}
    (h : a.plan_swap rules slot run_id expected_revision expected_state_digest next current
      = .ok plan) :
    (∃ loaded, plan = .answer (.Conflict loaded) ∨ plan = .answer (.Unchanged loaded)) ∨
    ∃ loaded payload, plan = .swap payload ∧
      a.decode_and_restore run_id current = .ok loaded ∧ loaded.revision = expected_revision ∧
      a.Swaps rules slot run_id expected_state_digest next loaded.envelope payload := by
  simp only [plan_swap, bind_eq_ok] at h
  obtain ⟨loaded, hloaded, h⟩ := h
  split at h
  · exact Or.inl ⟨loaded, Or.inl (pure_eq_ok.mp h).symm⟩
  · next hfresh =>
    obtain ⟨hrevision, hdigest⟩ := not_or.mp hfresh
    simp only [bind_eq_ok] at h
    obtain ⟨_, _, h⟩ := h
    split at h
    · exact Or.inl ⟨loaded, Or.inr (pure_eq_ok.mp h).symm⟩
    · next hchanged =>
      have hrest : ∃ payload, plan = .swap payload ∧
          Admits rules (slot.get loaded.envelope) next ∧
          (∃ k, a.restore_kernel run_id (slot.set loaded.envelope next) = .ok k) ∧
          a.serde_json.to_vec (slot.set loaded.envelope next) = .ok payload := by
        unfold Admits
        cases hget : slot.get loaded.envelope with
        | some previous =>
          simp only [hget, bind_eq_ok, lift_eq_ok, mapError_eq_ok, to_vec, pure_eq_ok] at h
          obtain ⟨_, hgate, k, hk, payload, hpayload, rfl⟩ := h
          exact ⟨payload, rfl, hgate, ⟨k, hk⟩, hpayload⟩
        | none =>
          simp only [hget, bind_eq_ok, lift_eq_ok, mapError_eq_ok, to_vec, pure_eq_ok] at h
          obtain ⟨_, hgate, k, hk, payload, hpayload, rfl⟩ := h
          exact ⟨payload, rfl, hgate, ⟨k, hk⟩, hpayload⟩
      obtain ⟨payload, hplan, hadmits, hrestores, hwritten⟩ := hrest
      exact Or.inr ⟨loaded, payload, hplan, hloaded, not_not.mp hrevision,
        ⟨not_not.mp hdigest, hchanged, hadmits, hrestores, hwritten⟩⟩

def compare_and_swap_projection {S X : Type} [DecidableEq S]
    (a : DurableExecutionAuthority E R P)
    (rules : ProjectionRules E S X) (slot : ProjectionSlot E R S X)
    (run_id : RunId) (expected_revision : ℕ) (expected_state_digest : Option String) (next : S) :
    StoreProg P (Fault DurableExecutionError) (ProjectionCasOutcome E R) := do
  lift ((rules.validate next).mapError slot.wrap)
  let current ← load_row run_id
  let plan ← plan_swap a rules slot run_id expected_revision expected_state_digest next current
  match plan with
  | .answer outcome => pure outcome
  | .swap payload =>
    .op (.compare_and_swap (entity_key run_id) expected_revision payload) fun
      | .error e => .fail (.error (.Storage e))
      | .ok (.Applied state) => .done ((decode_and_restore a run_id state).map .Applied)
      | .ok (.Conflict state) => .done ((decode_and_restore a run_id state).map .Conflict)

def compare_and_swap_engineer_verifier [DecidableEq E] (a : DurableExecutionAuthority E R P)
    (run_id : RunId) (expected_revision : ℕ) (expected_state_digest : Option String) (next : E) :
    StoreProg P (Fault DurableExecutionError) (ProjectionCasOutcome E R) :=
  compare_and_swap_projection a a.engineer_verifier engineer_verifier_slot run_id
    expected_revision expected_state_digest next

def compare_and_swap_independent_review [DecidableEq R] (a : DurableExecutionAuthority E R P)
    (run_id : RunId) (expected_revision : ℕ) (expected_state_digest : Option String) (next : R) :
    StoreProg P (Fault DurableExecutionError) (ProjectionCasOutcome E R) :=
  compare_and_swap_projection a a.independent_review independent_review_slot run_id
    expected_revision expected_state_digest next

/-! ## Callers -/

/-- A call of the authority, on a run given elsewhere. -/
inductive Command (E R : Type) where
  | initialize_run (tasks : List Task) (retry_budget : RetryBudget)
  | lifecycle (request : ExecutionRequest)
  | engineer_verifier (expected_revision : ℕ) (expected_state_digest : Option String) (next : E)
  | independent_review (expected_revision : ℕ) (expected_state_digest : Option String) (next : R)

inductive Response (E R : Type) where
  | initialized (result : InitializeRunResult E R)
  | command (result : DurableCommandResult)
  | projection (outcome : ProjectionCasOutcome E R)

def execute [DecidableEq E] [DecidableEq R] (a : DurableExecutionAuthority E R P)
    (run_id : RunId) : Command E R → StoreProg P (Fault DurableExecutionError) (Response E R)
  | .initialize_run tasks retry_budget => do
    let result ← a.initialize_run run_id tasks retry_budget
    pure (.initialized result)
  | .lifecycle request => do
    let result ← a.apply run_id request
    pure (.command result)
  | .engineer_verifier expected_revision expected_state_digest next => do
    let outcome ← a.compare_and_swap_engineer_verifier run_id expected_revision
      expected_state_digest next
    pure (.projection outcome)
  | .independent_review expected_revision expected_state_digest next => do
    let outcome ← a.compare_and_swap_independent_review run_id expected_revision
      expected_state_digest next
    pure (.projection outcome)

end DurableExecutionAuthority

end OvcaCore

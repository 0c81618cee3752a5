/-
The approval ledger under concurrent callers.

Callers evaluate requests, record decisions and resume approvals in any
interleaving. `Moves` says what one commit to a ledger row is: a pending entry
is decided, or an approved one is consumed. An entry therefore is pending,
decided and consumed at its revisions zero, one and two, and there is no other.
An effect is run only by the caller whose commit consumed the entry, so it runs
once, after an approval, and never beside a denial (`approved_effect_once`).
-/
import OvcaCore.DurableGuardrails

set_option autoImplicit false

namespace OvcaCore

open OvcaCore.Checks OvcaCore.Interleaving OvcaCore.DurableGuardrails

/-! ## What the checks of the ledger establish -/

namespace DurableGuardrails

/-- A valid entry is pending exactly when it has no decision, and a decision it
has goes with its state. -/
theorem validate_state_eq_ok {envelope : ApprovalEnvelope} {u : Unit}
    (h : validate_state envelope = .ok u) :
    (envelope.state = .Pending ↔ envelope.decision = none) ∧
    ∀ decision, envelope.decision = some decision →
      validate_decision_for envelope decision = .ok () ∧
      validate_disposition envelope.state decision.disposition = .ok () := by
  unfold validate_state at h
  cases hs : envelope.state <;> cases hd : envelope.decision <;> rw [hs, hd] at h <;>
    simp_all [bind_eq_ok]

theorem validate_envelope_eq_ok {id : ApprovalRequestId} {envelope : ApprovalEnvelope} {u : Unit}
    (h : validate_envelope id envelope = .ok u) :
    envelope.approval_request.id = id ∧ validate_state envelope = .ok () := by
  simp only [validate_envelope, bind_eq_ok, reject_if_eq_ok, exists_const, ne_eq, not_not] at h
  obtain ⟨_, _, _, _, hid, _, _, hstate⟩ := h
  exact ⟨hid, hstate⟩

/-- The decision of a valid entry names the approval and the guard request. -/
theorem validate_decision_for_eq_ok {envelope : ApprovalEnvelope}
    {decision : ApprovalDecisionRecord} {u : Unit}
    (h : validate_decision_for envelope decision = .ok u) :
    decision.approval_request_id = envelope.approval_request.id ∧
      decision.guard_request_id = envelope.approval_request.guard_request.id := by
  simp only [validate_decision_for, bind_eq_ok, reject_if_eq_ok, exists_const, ne_eq,
    not_not] at h
  obtain ⟨_, _, happroval, hguard, _⟩ := h
  exact ⟨happroval, hguard⟩

end DurableGuardrails

/-! ## The world of the ledger -/

/-- An effect that ran: for whom, for which approval and with which request, and
how many commits had been made before. -/
structure EffectRun (ι : Type) where
  caller : ι
  approval_request_id : ApprovalRequestId
  request : GuardRequest
  after : ℕ

/-- The store with its commits, and the effects run so far. -/
structure Ledger (ι P : Type) where
  journal : Journal ι P
  effects : List (EffectRun ι)

namespace Ledger

variable {ι P T Err : Type}

/-- Operations performed by callers. -/
def sem (i : ι) : (o : GuardOp P T Err) → Ledger ι P → o.Answer × Ledger ι P
  | .store o, w => ((o.journaled i w.journal).1, { w with journal := (o.journaled i w.journal).2 })
  | .effect id request result, w =>
    (result, { w with effects := w.effects ++ [⟨i, id, request, w.journal.commits.length⟩] })

/-- What a caller can count on while others act. -/
structure Others (i : ι) (w w' : Ledger ι P) : Prop where
  journal : Journal.Others i w.journal w'.journal
  effects : ∃ l, w'.effects = w.effects ++ l ∧ ∀ e ∈ l, e.caller ≠ i

/-- The caller has run no effect. -/
def Unspent (w : Ledger ι P) (i : ι) : Prop := ∀ e ∈ w.effects, e.caller ≠ i

theorem Others.refl (i : ι) (w : Ledger ι P) : Others i w w :=
  ⟨Journal.Others.refl i _, [], (List.append_nil _).symm, fun _ h => absurd h List.not_mem_nil⟩

theorem Others.trans {i : ι} {w w' w'' : Ledger ι P} (h : Others i w w') (h' : Others i w' w'') :
    Others i w w'' := by
  obtain ⟨hjournal, l, hl, hne⟩ := h
  obtain ⟨hjournal', l', hl', hne'⟩ := h'
  refine ⟨hjournal.trans hjournal', l ++ l', by rw [hl', hl, List.append_assoc], fun e he => ?_⟩
  rcases List.mem_append.mp he with he | he
  · exact hne e he
  · exact hne' e he

theorem Unspent.others {i : ι} {w w' : Ledger ι P} (h : w.Unspent i) (hw : Others i w w') :
    w'.Unspent i := by
  obtain ⟨_, l, hl, hne⟩ := hw
  intro e he
  rw [hl] at he
  rcases List.mem_append.mp he with he | he
  · exact h e he
  · exact hne e he

/-- The others see a store operation as a change of the journal only. -/
theorem others_store {i : ι} {w : Ledger ι P} {journal : Journal ι P}
    (h : Journal.Others i w.journal journal) : Others i w { w with journal := journal } :=
  ⟨h, [], (List.append_nil _).symm, fun _ h => absurd h List.not_mem_nil⟩

end Ledger

/-! ## What one commit does to an entry -/

namespace DurableGuardrailAuthority

open Ledger

variable {P T Err : Type}

/-- The two moves of an entry: an owner decides it while it is pending, or a
resume with its own guard request consumes the approval. -/
inductive Moves (id : ApprovalRequestId) :
    Call T Err → ApprovalEnvelope → ApprovalEnvelope → Prop
  | decide (decision : ApprovalDecisionRecord) (envelope : ApprovalEnvelope)
      (hid : decision.approval_request_id = id)
      (hguard : decision.guard_request_id = envelope.approval_request.guard_request.id)
      (hpending : envelope.state = .Pending) (hnone : envelope.decision = none) :
      Moves id (.record_decision decision) envelope (decided envelope decision)
  | consume (request : GuardRequest) (effect : Except Err T) (envelope : ApprovalEnvelope)
      (happroved : envelope.state = .Approved)
      (hrequest : envelope.approval_request.guard_request = request) :
      Moves id (.resume_approved id request effect) envelope { envelope with state := .Consumed }

/-- The first commit of an entry, by an evaluation that pauses. -/
def Opens (a : DurableGuardrailAuthority P) (id : ApprovalRequestId) (call : Call T Err)
    (state : VersionedState P) : Prop :=
  ∃ request context approval_request required_gates,
    call = .evaluate_and_record request context ∧
    Guardrails.evaluate_guard_request request context =
      .PauseForApproval approval_request required_gates ∧
    approval_request.id = id ∧
    a.serde_json.from_slice state.payload = .ok (pending_envelope approval_request required_gates)

/-- A later commit of an entry. -/
def Advances (a : DurableGuardrailAuthority P) (id : ApprovalRequestId) (call : Call T Err)
    (state state' : VersionedState P) : Prop :=
  ∃ envelope envelope', a.serde_json.from_slice state.payload = .ok envelope ∧
    a.serde_json.from_slice state'.payload = .ok envelope' ∧ Moves id call envelope envelope'

variable {ι : Type}

/-- The row of an approval is a sequence of moves. -/
abbrev SequentialEntry (a : DurableGuardrailAuthority P) (id : ApprovalRequestId)
    (calls : ι → Call T Err) (journal : Journal ι P) : Prop :=
  journal.Sequential (entity_key id) (fun i => a.Opens id (calls i))
    (fun i => a.Advances id (calls i))

/-- What the commit of a revision is: the pause, the decision or the
consumption. -/
inductive Stage (id : ApprovalRequestId) (call : Call T Err) (envelope : ApprovalEnvelope) :
    ℕ → Prop
  | pending (hstate : envelope.state = .Pending) (hnone : envelope.decision = none) :
      Stage id call envelope 0
  | decided (decision : ApprovalDecisionRecord) (hcall : call = .record_decision decision)
      (hid : decision.approval_request_id = id)
      (hguard : decision.guard_request_id = envelope.approval_request.guard_request.id)
      (hstate : envelope.state = decided_state decision.disposition)
      (hdecision : envelope.decision = some decision) : Stage id call envelope 1
  | consumed (hstate : envelope.state = .Consumed) : Stage id call envelope 2

/-- The commits of an entry pass its stages in order, and then end. -/
theorem stage_of_history {a : DurableGuardrailAuthority P} {id : ApprovalRequestId}
    {calls : ι → Call T Err} {journal : Journal ι P} (h : SequentialEntry a id calls journal) :
    ∀ (r : ℕ) c, (journal.history (entity_key id))[r]? = some c →
      ∃ envelope, a.serde_json.from_slice c.state.payload = .ok envelope ∧
        Stage id (calls c.caller) envelope r := by
  intro r
  induction r with
  | zero =>
    intro c hc
    obtain ⟨_, _, approval_request, required_gates, _, _, _, hslice⟩ := h.first c hc
    exact ⟨_, hslice, Stage.pending rfl rfl⟩
  | succ r ih =>
    intro c' hc'
    obtain ⟨c, hc⟩ : ∃ c, (journal.history (entity_key id))[r]? = some c := by
      have hlt := (List.getElem?_eq_some_iff.mp hc').1
      exact ⟨_, List.getElem?_eq_getElem (by omega)⟩
    obtain ⟨envelope, hslice, hstage⟩ := ih c hc
    obtain ⟨envelope₁, envelope', hslice₁, hslice', hmoves⟩ := h.next r c c' hc hc'
    rw [hslice, Except.ok.injEq] at hslice₁
    subst hslice₁
    refine ⟨envelope', hslice', ?_⟩
    generalize hcall : calls c'.caller = call at hmoves
    cases hmoves with
    | decide decision _ hid hguard hpending hnone =>
      -- only the first stage is pending
      cases hstage with
      | pending => exact Stage.decided decision rfl hid hguard rfl rfl
      | decided d _ _ _ hstate =>
        rw [hpending] at hstate
        cases hd : d.disposition <;> rw [hd] at hstate <;> cases hstate
      | consumed hstate =>
        rw [hpending] at hstate
        cases hstate
    | consume request effect _ happroved hrequest =>
      -- and only the second can be approved
      cases hstage with
      | pending hstate =>
        rw [happroved] at hstate
        cases hstate
      | decided => exact Stage.consumed rfl
      | consumed hstate =>
        rw [happroved] at hstate
        cases hstate

/-! ## Effects -/

/-- The effect was run by a caller that resumed this approval with this request,
after a commit of its own that consumed the entry. -/
def Earned (a : DurableGuardrailAuthority P) (id : ApprovalRequestId) (calls : ι → Call T Err)
    (journal : Journal ι P) (e : EffectRun ι) : Prop :=
  ∃ c envelope effect, c ∈ journal.commits.take e.after ∧ c.entity_key = entity_key id ∧
    c.caller = e.caller ∧ a.serde_json.from_slice c.state.payload = .ok envelope ∧
    envelope.state = .Consumed ∧ envelope.approval_request.guard_request = e.request ∧
    calls e.caller = .resume_approved id e.request effect

/-- The invariant of the ledger for one approval: its row is a sequence of
moves, and at most one effect was run for it, which was earned. -/
structure Justified (a : DurableGuardrailAuthority P) (id : ApprovalRequestId)
    (calls : ι → Call T Err) (w : Ledger ι P) : Prop where
  sequential : SequentialEntry a id calls w.journal
  once : (w.effects.filter fun e => e.approval_request_id = id).length ≤ 1
  earned : ∀ e ∈ w.effects, e.approval_request_id = id → Earned a id calls w.journal e

/-- Caller `i` has consumed the entry, for this request. -/
def Ticket (a : DurableGuardrailAuthority P) (id : ApprovalRequestId) (w : Ledger ι P) (i : ι)
    (request : GuardRequest) : Prop :=
  ∃ c envelope, c ∈ w.journal.commits ∧ c.entity_key = entity_key id ∧ c.caller = i ∧
    a.serde_json.from_slice c.state.payload = .ok envelope ∧ envelope.state = .Consumed ∧
    envelope.approval_request.guard_request = request

variable {a : DurableGuardrailAuthority P} {id : ApprovalRequestId} {calls : ι → Call T Err}
  {w : Ledger ι P} {i : ι}

theorem mem_history_iff {journal : Journal ι P} {key : String} {c : Commit ι P} :
    c ∈ journal.history key ↔ c ∈ journal.commits ∧ c.entity_key = key := by
  rw [Journal.history, List.mem_filter, decide_eq_true_iff]

/-- An entry is consumed at its revision two. -/
theorem consumed_index {journal : Journal ι P} (h : SequentialEntry a id calls journal)
    {c : Commit ι P} (hc : c ∈ journal.history (entity_key id)) {envelope : ApprovalEnvelope}
    (hslice : a.serde_json.from_slice c.state.payload = .ok envelope)
    (hstate : envelope.state = .Consumed) : (journal.history (entity_key id))[2]? = some c := by
  obtain ⟨r, hr⟩ := List.getElem?_of_mem hc
  obtain ⟨_, hslice', hstage⟩ := stage_of_history h r c hr
  rw [hslice, Except.ok.injEq] at hslice'
  subst hslice'
  cases hstage with
  | pending hpending =>
    rw [hstate] at hpending
    cases hpending
  | decided decision _ _ _ hdecided =>
    rw [hstate] at hdecided
    cases hd : decision.disposition <;> rw [hd] at hdecided <;> cases hdecided
  | consumed => exact hr

theorem consumed_unique {journal : Journal ι P} (h : SequentialEntry a id calls journal)
    {c c' : Commit ι P} (hc : c ∈ journal.history (entity_key id))
    (hc' : c' ∈ journal.history (entity_key id)) {envelope envelope' : ApprovalEnvelope}
    (hslice : a.serde_json.from_slice c.state.payload = .ok envelope)
    (hslice' : a.serde_json.from_slice c'.state.payload = .ok envelope')
    (hstate : envelope.state = .Consumed) (hstate' : envelope'.state = .Consumed) : c = c' := by
  have hindex := consumed_index h hc hslice hstate
  rw [consumed_index h hc' hslice' hstate', Option.some_inj] at hindex
  exact hindex.symm

/-- A change of the journal that keeps the row a sequence of moves keeps the
ledger justified. -/
theorem Justified.store (h : Justified a id calls w) {journal : Journal ι P}
    (hsequential : SequentialEntry a id calls journal)
    (hcommits : ∃ l, journal.commits = w.journal.commits ++ l) :
    Justified a id calls { w with journal := journal } := by
  refine ⟨hsequential, h.once, fun e he hid => ?_⟩
  obtain ⟨c, envelope, effect, hc, hrest⟩ := h.earned e he hid
  obtain ⟨l, hl⟩ := hcommits
  refine ⟨c, envelope, effect, ?_, hrest⟩
  rw [hl, List.take_append]
  exact List.mem_append_left _ hc

/-- The holder of the ticket may run the effect. -/
theorem Justified.effect (h : Justified a id calls w) {request : GuardRequest}
    (hticket : Ticket a id w i request) (hunspent : w.Unspent i) {effect : Except Err T}
    (hcall : calls i = .resume_approved id request effect) :
    Justified a id calls
      { w with effects := w.effects ++ [⟨i, id, request, w.journal.commits.length⟩] } := by
  obtain ⟨c, envelope, hc, hkey, hcaller, hslice, hstate, hrequest⟩ := hticket
  have hmem : c ∈ w.journal.history (entity_key id) := mem_history_iff.mpr ⟨hc, hkey⟩
  -- an earlier effect would have been earned by the same commit, hence by this caller
  have hnone : w.effects.filter (fun e => e.approval_request_id = id) = [] := by
    rw [List.filter_eq_nil_iff]
    intro e he hid
    obtain ⟨c', envelope', _, hc', hkey', hcaller', hslice', hstate', _⟩ :=
      h.earned e he (of_decide_eq_true hid)
    have hmem' : c' ∈ w.journal.history (entity_key id) :=
      mem_history_iff.mpr ⟨List.mem_of_mem_take hc', hkey'⟩
    have heq := consumed_unique h.sequential hmem hmem' hslice hslice' hstate hstate'
    refine hunspent e he ?_
    rw [← hcaller', ← heq, hcaller]
  refine ⟨h.sequential, ?_, fun e he hid => ?_⟩
  · rw [List.filter_append, hnone, List.nil_append]
    exact List.length_filter_le _ _
  · rcases List.mem_append.mp he with he | he
    · exact h.earned e he hid
    · obtain rfl := List.mem_singleton.mp he
      refine ⟨c, envelope, effect, ?_, hkey, hcaller, hslice, hstate, hrequest, hcall⟩
      show c ∈ w.journal.commits.take w.journal.commits.length
      rw [List.take_length]
      exact hc

/-! ## Safe programs -/

/-- A program of caller `i` keeps the ledger justified for this approval. -/
abbrev SafeCall {α : Type} (a : DurableGuardrailAuthority P) (id : ApprovalRequestId)
    (calls : ι → Call T Err) (i : ι) (p : GuardProg P T Err α) (w : Ledger ι P) : Prop :=
  Safe Ledger.sem (Justified a id calls) Others i (fun _ _ => True) p w

theorem safe_done {α : Type} (r : Except DurableApprovalError α) :
    SafeCall a id calls i (.done r) w := fun _ _ _ => trivial

theorem allowed_store (h : Justified a id calls w) {journal : Journal ι P}
    (hsequential : SequentialEntry a id calls journal)
    (hothers : ∀ j, j ≠ i → Journal.Others j w.journal journal)
    (hcommits : ∃ l, journal.commits = w.journal.commits ++ l) :
    Allowed (Justified a id calls) Others i w { w with journal := journal } :=
  ⟨h.store hsequential hcommits, fun j hj => others_store (hothers j hj)⟩

section Rules

variable {α : Type}

theorem safe_load {next : Option (VersionedState P) → GuardProg P T Err α}
    (h : ∀ t, Others i w t → ∀ row,
      (∀ state, row = some state → t.journal.At (entity_key id) state) →
      SafeCall a id calls i (next row) t) :
    SafeCall a id calls i (.op (.store (.load (entity_key id))) next) w := by
  intro t ht hI
  have hload : (StoreOp.load (entity_key id)).journaled i t.journal =
      (t.journal.store[entity_key id]?, t.journal) := StoreOp.journaled_load i t.journal _
  rw [Ledger.sem, hload]
  refine ⟨⟨hI, fun j _ => Others.refl j t⟩, h t ht _ fun state hstate => ?_⟩
  exact (hI.sequential.consistent.row_eq_some hstate).2

theorem safe_initialize {payload : P} {next : InitializeOutcome P → GuardProg P T Err α}
    (hopens : a.Opens id (calls i) ⟨payload, 0⟩)
    (h : ∀ t outcome, SafeCall a id calls i (next outcome) t) :
    SafeCall a id calls i (.op (.store (.initialize_entity (entity_key id) payload)) next) w := by
  intro t ht hI
  rcases StoreOp.journaled_initialize i hI.sequential.consistent payload with
    ⟨state, _, hj⟩ | ⟨hempty, hj⟩
  · rw [Ledger.sem, hj]
    exact ⟨⟨hI, fun j _ => Others.refl j t⟩, h _ _⟩
  · rw [Ledger.sem, hj]
    refine ⟨allowed_store hI (hI.sequential.commit_first hempty hopens)
      (fun j hj => Journal.others_commit _ (Ne.symm hj)) ⟨_, rfl⟩, h _ _⟩

theorem safe_compare_and_swap {state : VersionedState P} {payload : P}
    {next : Except VersionedStateError (CompareAndSwapOutcome P) → GuardProg P T Err α}
    (hat : w.journal.At (entity_key id) state)
    (hadvances : a.Advances id (calls i) state ⟨payload, state.revision + 1⟩)
    (herror : ∀ t e, SafeCall a id calls i (next (.error e)) t)
    (hconflict : ∀ t, Others i w t → ∀ current, t.journal.At (entity_key id) current →
      SafeCall a id calls i (next (.ok (.Conflict current))) t)
    (happlied : ∀ t, Others i w t → SafeCall a id calls i
      (next (.ok (.Applied ⟨payload, state.revision + 1⟩)))
      { t with journal := t.journal.commit ⟨i, entity_key id, ⟨payload, state.revision + 1⟩⟩ }) :
    SafeCall a id calls i
      (.op (.store (.compare_and_swap (entity_key id) state.revision payload)) next) w := by
  intro t ht hI
  rcases StoreOp.journaled_compare_and_swap i hI.sequential.consistent state.revision payload with
    ⟨e, hj⟩ | ⟨current, hcurrent, hj⟩ | ⟨hlength, _, hj⟩
  · rw [Ledger.sem, hj]
    exact ⟨⟨hI, fun j _ => Others.refl j t⟩, herror t e⟩
  · rw [Ledger.sem, hj]
    exact ⟨⟨hI, fun j _ => Others.refl j t⟩, hconflict t ht current hcurrent⟩
  · rw [Ledger.sem, hj]
    refine ⟨allowed_store hI
      (hI.sequential.commit_next (hat.others ht.journal) hlength hadvances)
      (fun j hj => Journal.others_commit _ (Ne.symm hj)) ⟨_, rfl⟩, happlied t ht⟩

end Rules

/-! ## Programs about other approvals -/

/-- No operation of the program is about this approval. -/
def Elsewhere {α : Type} (id : ApprovalRequestId) : GuardProg P T Err α → Prop
  | .done _ => True
  | .op (.store o) next => o.entity_key ≠ entity_key id ∧ ∀ answer, Elsewhere id (next answer)
  | .op (.effect id' _ _) next => id' ≠ id ∧ ∀ answer, Elsewhere id (next answer)

theorem Elsewhere.bind {α β : Type} {p : GuardProg P T Err α} {f : α → GuardProg P T Err β}
    (hp : Elsewhere id p) (hf : ∀ x, Elsewhere id (f x)) : Elsewhere id (p >>= f) := by
  induction p with
  | done r =>
    rcases r with e | x
    · exact trivial
    · exact hf x
  | op o next ih =>
    cases o with
    | store o => exact ⟨hp.1, fun answer => ih answer (hp.2 answer)⟩
    | effect id' request result => exact ⟨hp.1, fun answer => ih answer (hp.2 answer)⟩

/-- A program about other approvals is safe for this one. -/
theorem Elsewhere.safe {α : Type} {p : GuardProg P T Err α} (hp : Elsewhere id p) :
    SafeCall a id calls i p w := by
  induction p generalizing w with
  | done r => exact safe_done r
  | op o next ih =>
    intro t ht hI
    cases o with
    | store o =>
      refine ⟨?_, ih _ (hp.2 _)⟩
      exact allowed_store hI (hI.sequential.elsewhere hp.1)
        (fun j hj => Journal.others_journaled hj o t.journal) ⟨_, rfl⟩
    | effect id' request result =>
      refine ⟨⟨⟨hI.sequential, ?_, fun e he hid => ?_⟩, fun j hj => ?_⟩, ih _ (hp.2 _)⟩
      · have hnot : ¬ (id' = id) := hp.1
        show ((t.effects ++ [_]).filter _).length ≤ 1
        rw [List.filter_append, List.filter_singleton]
        simpa [hnot] using hI.once
      · rcases List.mem_append.mp he with he | he
        · exact hI.earned e he hid
        · obtain rfl := List.mem_singleton.mp he
          exact absurd hid hp.1
      · refine ⟨Journal.Others.refl j _, _, rfl, fun e he => ?_⟩
        obtain rfl := List.mem_singleton.mp he
        exact Ne.symm hj

theorem entity_key_ne {id' : ApprovalRequestId} (h : id' ≠ id) :
    entity_key id' ≠ entity_key id := by
  intro heq
  have htoList := congrArg String.toList heq
  simp only [entity_key, String.toList_append, List.append_cancel_left_eq] at htoList
  exact h (String.ext_iff.mpr htoList)

theorem evaluate_elsewhere (request : GuardRequest) (context : GuardEvaluationContext)
    (h : ∀ approval_request required_gates,
      Guardrails.evaluate_guard_request request context =
        .PauseForApproval approval_request required_gates → approval_request.id ≠ id) :
    Elsewhere id (a.evaluate_and_record request context :
      GuardProg P T Err DurableApprovalEvaluation) := by
  unfold evaluate_and_record
  cases hout : Guardrails.evaluate_guard_request request context with
  | Allow gates => exact trivial
  | Deny reasons => exact trivial
  | PauseForApproval approval_request required_gates =>
    refine Elsewhere.bind trivial fun payload => ⟨entity_key_ne (h _ _ hout), ?_⟩
    rintro (state | state) <;> exact trivial

theorem load_elsewhere {id' : ApprovalRequestId} (h : id' ≠ id) :
    Elsewhere id (a.load id' : GuardProg P T Err DurableApprovalRecord) :=
  ⟨entity_key_ne h, fun _ => trivial⟩

theorem decide_once_elsewhere {decision : ApprovalDecisionRecord}
    (h : decision.approval_request_id ≠ id)
    {retry : DurableApprovalRecord → GuardProg P T Err DurableDecisionResult}
    (hretry : ∀ loaded, Elsewhere id (retry loaded)) (loaded : DurableApprovalRecord) :
    Elsewhere id (a.decide_once decision retry loaded) := by
  refine Elsewhere.bind trivial fun round => ?_
  rcases round with _ | payload
  · exact trivial
  · refine ⟨entity_key_ne h, ?_⟩
    rintro (e | state | state)
    · exact trivial
    · exact trivial
    · exact Elsewhere.bind trivial hretry

theorem record_decision_elsewhere {decision : ApprovalDecisionRecord}
    (h : decision.approval_request_id ≠ id) :
    Elsewhere id (a.record_decision decision : GuardProg P T Err DurableDecisionResult) := by
  refine Elsewhere.bind trivial fun _ => Elsewhere.bind (load_elsewhere h) ?_
  have hloop : ∀ n loaded, Elsewhere id
      (a.decision_loop decision n loaded : GuardProg P T Err DurableDecisionResult) := by
    intro n
    induction n with
    | zero => exact decide_once_elsewhere h fun _ => trivial
    | succ n ih => exact decide_once_elsewhere h ih
  exact hloop a.cas_retry_limit

theorem resume_approved_elsewhere {id' : ApprovalRequestId} (h : id' ≠ id)
    (request : GuardRequest) (effect : Except Err T) :
    Elsewhere id (a.resume_approved id' request effect) := by
  refine Elsewhere.bind (load_elsewhere h) fun loaded => ?_
  split
  · exact trivial
  · dsimp only
    cases loaded.envelope.state with
    | Pending => exact trivial
    | Denied => exact trivial
    | Consumed => exact trivial
    | Approved =>
      refine Elsewhere.bind trivial fun payload => ⟨entity_key_ne h, ?_⟩
      rintro (e | state | state)
      · exact trivial
      · refine Elsewhere.bind trivial fun record => ⟨h, ?_⟩
        rintro (e | output) <;> exact trivial
      · exact trivial

/-! ## Programs about this approval -/

theorem Ticket.others {w' : Ledger ι P} {request : GuardRequest}
    (h : Ticket a id w i request) (hw : Others i w w') : Ticket a id w' i request := by
  obtain ⟨c, envelope, hc, hrest⟩ := h
  obtain ⟨l, hl, _⟩ := hw.journal
  refine ⟨c, envelope, ?_, hrest⟩
  rw [hl]
  exact List.mem_append_left _ hc

theorem safe_effect {α : Type} {request : GuardRequest} {effect : Except Err T}
    {next : Except Err T → GuardProg P T Err α} (hticket : Ticket a id w i request)
    (hunspent : w.Unspent i) (hcall : calls i = .resume_approved id request effect)
    (h : ∀ t result, SafeCall a id calls i (next result) t) :
    SafeCall a id calls i (.op (.effect id request effect) next) w := by
  intro t ht hI
  refine ⟨⟨hI.effect (hticket.others ht) (hunspent.others ht) hcall, fun j hj => ?_⟩, h _ _⟩
  refine ⟨Journal.Others.refl j _, _, rfl, fun e he => ?_⟩
  obtain rfl := List.mem_singleton.mp he
  exact Ne.symm hj

theorem decode_state_eq_ok {state : VersionedState P} {record : DurableApprovalRecord} :
    a.decode_state id state = .ok record ↔
      a.serde_json.from_slice state.payload = .ok record.envelope ∧
      validate_envelope id record.envelope = .ok () ∧ record.revision = state.revision := by
  obtain ⟨envelope, revision⟩ := record
  simp only [decode_state, bind_eq_ok, mapError_eq_ok, pure_eq_ok,
    DurableApprovalRecord.mk.injEq]
  constructor
  · rintro ⟨_, hslice, _, hvalid, rfl, rfl⟩
    exact ⟨hslice, hvalid, rfl⟩
  · rintro ⟨hslice, hvalid, rfl⟩
    exact ⟨envelope, hslice, (), hvalid, rfl, rfl⟩

/-- A load continues with an entry that the row had. -/
theorem safe_load_record {α : Type} {f : DurableApprovalRecord → GuardProg P T Err α}
    (h : ∀ t, Others i w t → ∀ state loaded, t.journal.At (entity_key id) state →
      a.decode_state id state = .ok loaded → SafeCall a id calls i (f loaded) t) :
    SafeCall a id calls i (a.load id >>= f) w := by
  refine safe_load fun t ht row hrow => ?_
  cases row with
  | none => exact safe_done _
  | some state =>
    show SafeCall a id calls i (Prog.done (a.decode_state id state) >>= f) t
    cases hdecode : a.decode_state id state with
    | error e => exact safe_done _
    | ok loaded => exact h t ht state loaded (hrow state rfl) hdecode

theorem safe_evaluate (hround : a.serde_json.RoundTrips) {request : GuardRequest}
    {context : GuardEvaluationContext} (hcall : calls i = .evaluate_and_record request context) :
    SafeCall a id calls i (a.evaluate_and_record request context) w := by
  by_cases hthis : ∃ approval_request required_gates,
      Guardrails.evaluate_guard_request request context =
        .PauseForApproval approval_request required_gates ∧ approval_request.id = id
  · obtain ⟨approval_request, required_gates, hout, rfl⟩ := hthis
    unfold evaluate_and_record
    rw [hout]
    dsimp only
    cases hprepare : a.prepare_pause (pending_envelope approval_request required_gates) with
    | error e => exact safe_done _
    | ok payload =>
      simp only [prepare_pause, bind_eq_ok, to_vec, mapError_eq_ok] at hprepare
      obtain ⟨_, _, hwritten⟩ := hprepare
      refine safe_initialize ⟨request, context, approval_request, required_gates, hcall, hout,
        rfl, hround _ _ hwritten⟩ ?_
      rintro t (state | state) <;> exact safe_done _
  · refine (evaluate_elsewhere request context ?_).safe
    intro approval_request required_gates hout hid
    exact hthis ⟨approval_request, required_gates, hout, hid⟩

/-- A round that writes has found the entry pending and without a decision. -/
theorem decision_round_eq_ok {decision : ApprovalDecisionRecord} {loaded : DurableApprovalRecord}
    {payload : P} (h : a.decision_round decision loaded = .ok (some payload)) :
    validate_decision_for loaded.envelope decision = .ok () ∧ loaded.envelope.state = .Pending ∧
      a.serde_json.to_vec (decided loaded.envelope decision) = .ok payload := by
  simp only [decision_round, bind_eq_ok, mapError_eq_ok] at h
  obtain ⟨_, hvalid, h⟩ := h
  split at h
  · cases h
  · simp only [bind_eq_ok, reject_if_eq_ok, exists_const, not_not, mapError_eq_ok, to_vec,
      pure_eq_ok, Option.some_inj, ne_eq] at h
    obtain ⟨hpending, _, _, _, hwritten, rfl⟩ := h
    exact ⟨hvalid, hpending, hwritten⟩

theorem safe_decide_once (hround : a.serde_json.RoundTrips) {decision : ApprovalDecisionRecord}
    (hcall : calls i = .record_decision decision) (hid : decision.approval_request_id = id)
    {retry : DurableApprovalRecord → GuardProg P T Err DurableDecisionResult}
    (hretry : ∀ t state loaded, t.journal.At (entity_key id) state →
      a.decode_state id state = .ok loaded → SafeCall a id calls i (retry loaded) t)
    {state : VersionedState P} {loaded : DurableApprovalRecord}
    (hat : w.journal.At (entity_key id) state) (hdecode : a.decode_state id state = .ok loaded) :
    SafeCall a id calls i (a.decide_once decision retry loaded) w := by
  obtain ⟨hslice, henvelope, hrevision⟩ := decode_state_eq_ok.mp hdecode
  obtain ⟨_, hstate⟩ := validate_envelope_eq_ok henvelope
  unfold decide_once
  cases hr : a.decision_round decision loaded with
  | error e => exact safe_done _
  | ok round =>
    rw [Prog.liftM_eq, Prog.done_ok_bind]
    cases round with
    | none => exact safe_done _
    | some payload =>
      obtain ⟨hvalid, hpending, hwritten⟩ := decision_round_eq_ok hr
      have hnone := (validate_state_eq_ok hstate).1.mp hpending
      have hguard := (validate_decision_for_eq_ok hvalid).2
      dsimp only
      rw [hid, hrevision]
      refine safe_compare_and_swap hat ?_ (fun t e => safe_done _) (fun t ht current hcurrent => ?_)
        (fun t ht => safe_done _)
      · refine ⟨loaded.envelope, _, hslice, hround _ _ hwritten, ?_⟩
        rw [hcall]
        exact Moves.decide decision loaded.envelope hid hguard hpending hnone
      · dsimp only
        cases hc : a.decode_state id current with
        | error e => exact safe_done _
        | ok record => exact hretry t current record hcurrent hc

theorem safe_record_decision (hround : a.serde_json.RoundTrips)
    {decision : ApprovalDecisionRecord} (hcall : calls i = .record_decision decision) :
    SafeCall a id calls i (a.record_decision decision) w := by
  by_cases hid : decision.approval_request_id = id
  · unfold record_decision
    cases hshape : (validate_decision_shape decision).mapError
        DurableApprovalError.InvalidDecision with
    | error e => exact safe_done _
    | ok u =>
      rw [Prog.liftM_eq, Prog.done_ok_bind, hid]
      refine safe_load_record fun t _ state loaded hat hdecode => ?_
      have hloop : ∀ n t state loaded, t.journal.At (entity_key id) state →
          a.decode_state id state = .ok loaded →
          SafeCall a id calls i (a.decision_loop decision n loaded) t := by
        intro n
        induction n with
        | zero =>
          intro t state loaded hat hdecode
          exact safe_decide_once hround hcall hid (fun _ _ _ _ _ => safe_done _) hat hdecode
        | succ n ih =>
          intro t state loaded hat hdecode
          exact safe_decide_once hround hcall hid ih hat hdecode
      exact hloop a.cas_retry_limit t state loaded hat hdecode
  · exact (record_decision_elsewhere hid).safe

theorem safe_consume (hround : a.serde_json.RoundTrips) {request : GuardRequest}
    {effect : Except Err T} (hcall : calls i = .resume_approved id request effect)
    {state : VersionedState P} {loaded : DurableApprovalRecord}
    (hat : w.journal.At (entity_key id) state) (hdecode : a.decode_state id state = .ok loaded)
    (hrequest : loaded.envelope.approval_request.guard_request = request)
    (happroved : loaded.envelope.state = .Approved) (hunspent : w.Unspent i) :
    SafeCall a id calls i (a.consume id request effect loaded) w := by
  obtain ⟨hslice, _, hrevision⟩ := decode_state_eq_ok.mp hdecode
  unfold consume
  cases hprepare : a.prepare_consumption id loaded.envelope with
  | error e => exact safe_done _
  | ok payload =>
    simp only [prepare_consumption, bind_eq_ok, mapError_eq_ok, to_vec] at hprepare
    obtain ⟨_, _, hwritten⟩ := hprepare
    rw [Prog.liftM_eq, Prog.done_ok_bind, hrevision]
    refine safe_compare_and_swap hat ?_ (fun t e => safe_done _) (fun t _ current _ => safe_done _)
      (fun t ht => ?_)
    · refine ⟨loaded.envelope, _, hslice, hround _ _ hwritten, ?_⟩
      rw [hcall]
      exact Moves.consume request effect loaded.envelope happroved hrequest
    · dsimp only
      cases hc : a.decode_state id ⟨payload, state.revision + 1⟩ with
      | error e => exact safe_done _
      | ok record =>
        rw [Prog.liftM_eq, Prog.done_ok_bind]
        refine safe_effect ?_ (fun e he => (hunspent.others ht) e he) hcall ?_
        · refine ⟨⟨i, entity_key id, ⟨payload, state.revision + 1⟩⟩,
            { loaded.envelope with state := .Consumed }, ?_, rfl, rfl, hround _ _ hwritten, rfl,
            hrequest⟩
          exact List.mem_append_right _ (List.mem_singleton.mpr rfl)
        · rintro t (e | output) <;> exact safe_done _

theorem safe_resume_approved (hround : a.serde_json.RoundTrips) {id' : ApprovalRequestId}
    {request : GuardRequest} {effect : Except Err T}
    (hcall : calls i = .resume_approved id' request effect) (hunspent : w.Unspent i) :
    SafeCall a id calls i (a.resume_approved id' request effect) w := by
  by_cases hid : id' = id
  · subst hid
    refine safe_load_record fun t ht state loaded hat hdecode => ?_
    split
    · exact safe_done _
    · next hrequest =>
      dsimp only
      cases hstate : loaded.envelope.state with
      | Pending => exact safe_done _
      | Denied => exact safe_done _
      | Consumed => exact safe_done _
      | Approved =>
        exact safe_consume hround hcall hat hdecode (not_not.mp hrequest) hstate
          (hunspent.others ht)
  · exact (resume_approved_elsewhere hid request effect).safe

/-- Every call is safe for a caller that has run no effect yet. -/
theorem safe_execute (hround : a.serde_json.RoundTrips) {call : Call T Err}
    (hcall : calls i = call) (hunspent : w.Unspent i) :
    SafeCall a id calls i (a.execute call) w := by
  cases call with
  | evaluate_and_record request context => exact Safe.map (safe_evaluate hround hcall)
  | record_decision decision => exact Safe.map (safe_record_decision hround hcall)
  | resume_approved id' request effect =>
    exact Safe.map (safe_resume_approved hround hcall hunspent)

/-! ## Every schedule -/

/-- Callers with one call each, on a ledger without commits or effects so far. -/
def concurrent (a : DurableGuardrailAuthority P) (calls : ι → Call T Err)
    (store : VersionedStateStore P) :
    System ι (Ledger ι P) (GuardOp P T Err) GuardOp.Answer DurableApprovalError
      (Response T Err) where
  callers i := a.execute (calls i)
  world := ⟨⟨store, []⟩, []⟩

theorem concurrent_justified [DecidableEq ι] (calls : ι → Call T Err)
    (hround : a.serde_json.RoundTrips) {store : VersionedStateStore P}
    (hstore : store[entity_key id]? = none) (schedule : List ι) :
    Justified a id calls ((a.concurrent calls store).run Ledger.sem schedule).world := by
  have hcallers : ∀ i, Safe Ledger.sem (Justified a id calls) Others i (fun _ _ => True)
      ((a.concurrent calls store).callers i) (a.concurrent calls store).world :=
    fun i => safe_execute hround rfl fun e he => absurd he List.not_mem_nil
  refine (run_safe (fun _ _ _ _ => Others.trans) Others.refl hcallers ?_ schedule).2
  · refine ⟨⟨⟨hstore, fun r c hc => ?_⟩, fun c hc => ?_, fun r c c' hc => ?_⟩, ?_, fun e he => ?_⟩
    · cases hc
    · cases hc
    · cases hc
    · exact Nat.zero_le 1
    · exact absurd he List.not_mem_nil

/-- The states an entry can pass through. -/
def Transition (state state' : ApprovalState) : Prop :=
  state = .Pending ∧ state' = .Approved ∨ state = .Approved ∧ state' = .Consumed ∨
    state = .Pending ∧ state' = .Denied

/-- A move is one of the three transitions, and changes neither the request nor
the gates nor a decision. -/
theorem Moves.transition {call : Call T Err} {envelope envelope' : ApprovalEnvelope}
    (h : Moves id call envelope envelope') :
    Transition envelope.state envelope'.state ∧
      envelope'.approval_request = envelope.approval_request ∧
      envelope'.required_gates = envelope.required_gates ∧
      ∀ decision, envelope.decision = some decision → envelope'.decision = some decision := by
  cases h with
  | decide decision _ _ _ hpending hnone =>
    refine ⟨?_, rfl, rfl, fun d hd => ?_⟩
    · cases hdisposition : decision.disposition with
      | Approved => exact Or.inl ⟨hpending, by rw [decided, hdisposition]; rfl⟩
      | Denied => exact Or.inr (Or.inr ⟨hpending, by rw [decided, hdisposition]; rfl⟩)
    · rw [hnone] at hd
      cases hd
  | consume request effect _ happroved _ =>
    exact ⟨Or.inr (Or.inl ⟨happroved, rfl⟩), rfl, rfl, fun _ hd => hd⟩

/-- What the commits to an entry are, over its whole life. -/
structure EntryHistory (a : DurableGuardrailAuthority P) (id : ApprovalRequestId)
    (journal : Journal ι P) : Prop where
  row : journal.Consistent (entity_key id)
  first : ∀ c, (journal.history (entity_key id))[0]? = some c →
    ∃ envelope, a.serde_json.from_slice c.state.payload = .ok envelope ∧
      envelope.state = .Pending ∧ envelope.decision = none
  next : ∀ (r : ℕ) c c', (journal.history (entity_key id))[r]? = some c →
    (journal.history (entity_key id))[r + 1]? = some c' →
    ∃ envelope envelope', a.serde_json.from_slice c.state.payload = .ok envelope ∧
      a.serde_json.from_slice c'.state.payload = .ok envelope' ∧
      Transition envelope.state envelope'.state ∧
      envelope'.approval_request = envelope.approval_request ∧
      envelope'.required_gates = envelope.required_gates ∧
      ∀ decision, envelope.decision = some decision → envelope'.decision = some decision

/-- What an effect that ran rests on: a resume with the stored request, an
earlier commit that approved it, and no denial at any time. -/
structure Approved (a : DurableGuardrailAuthority P) (id : ApprovalRequestId)
    (calls : ι → Call T Err) (journal : Journal ι P) (e : EffectRun ι) : Prop where
  resumed : ∃ effect, calls e.caller = .resume_approved id e.request effect
  decided : ∃ c envelope decision, c ∈ journal.commits.take e.after ∧
    c.entity_key = entity_key id ∧ calls c.caller = .record_decision decision ∧
    decision.disposition = .Approved ∧ decision.approval_request_id = id ∧
    decision.guard_request_id = e.request.id ∧
    a.serde_json.from_slice c.state.payload = .ok envelope ∧ envelope.state = .Approved ∧
    envelope.decision = some decision
  stored : ∀ c ∈ journal.history (entity_key id),
    ∃ envelope, a.serde_json.from_slice c.state.payload = .ok envelope ∧
      envelope.approval_request.guard_request = e.request
  undenied : ∀ c ∈ journal.history (entity_key id), ∀ envelope,
    a.serde_json.from_slice c.state.payload = .ok envelope →
    envelope.state ≠ .Denied ∧
      ∀ decision, envelope.decision = some decision → decision.disposition = .Approved

theorem SequentialEntry.entry_history {journal : Journal ι P}
    (h : SequentialEntry a id calls journal) : EntryHistory a id journal := by
  refine ⟨h.consistent, fun c hc => ?_, fun r c c' hc hc' => ?_⟩
  · obtain ⟨_, _, approval_request, required_gates, _, _, _, hslice⟩ := h.first c hc
    exact ⟨_, hslice, rfl, rfl⟩
  · obtain ⟨envelope, envelope', hslice, hslice', hmoves⟩ := h.next r c c' hc hc'
    exact ⟨envelope, envelope', hslice, hslice', hmoves.transition⟩

/-- A consumed entry was opened, then approved, then consumed, and nothing else. -/
theorem history_of_consumed {journal : Journal ι P} (h : SequentialEntry a id calls journal)
    {c : Commit ι P} (hc : c ∈ journal.history (entity_key id)) {envelope : ApprovalEnvelope}
    (hslice : a.serde_json.from_slice c.state.payload = .ok envelope)
    (hstate : envelope.state = .Consumed) :
    ∃ c₀ c₁ envelope₀ decision, journal.history (entity_key id) = [c₀, c₁, c] ∧
      a.serde_json.from_slice c₀.state.payload = .ok envelope₀ ∧
      envelope₀.state = .Pending ∧ envelope₀.decision = none ∧
      a.serde_json.from_slice c₁.state.payload = .ok (decided envelope₀ decision) ∧
      calls c₁.caller = .record_decision decision ∧ decision.disposition = .Approved ∧
      decision.approval_request_id = id ∧
      decision.guard_request_id = envelope₀.approval_request.guard_request.id ∧
      envelope = { decided envelope₀ decision with state := .Consumed } := by
  have hlength : (journal.history (entity_key id)).length ≤ 3 := by
    by_contra hlt
    obtain ⟨_, _, hstage⟩ := stage_of_history h 3 _ (List.getElem?_eq_getElem (by omega))
    cases hstage
  have hindex := consumed_index h hc hslice hstate
  generalize hl : journal.history (entity_key id) = l at hlength hindex
  have hfirst := h.entry_history.first
  have hnext := h.next
  rw [hl] at hfirst hnext
  match l, hlength, hindex with
  | [c₀, c₁, _], _, rfl =>
    obtain ⟨envelope₀, hslice₀, hpending, hnone⟩ := hfirst c₀ rfl
    obtain ⟨_, envelope₁, hslice₀', hslice₁, hmoves₀⟩ := hnext 0 c₀ c₁ rfl rfl
    obtain ⟨_, _, hslice₁', hslice', hmoves₁⟩ := hnext 1 c₁ c rfl rfl
    rw [hslice₀, Except.ok.injEq] at hslice₀'
    rw [hslice₁, Except.ok.injEq] at hslice₁'
    rw [hslice, Except.ok.injEq] at hslice'
    subst hslice₀' hslice₁' hslice'
    generalize hcall₀ : calls c₁.caller = call₀ at hmoves₀
    generalize calls c.caller = call₁ at hmoves₁
    cases hmoves₀ with
    | consume _ _ _ happroved =>
      rw [happroved] at hpending
      cases hpending
    | decide decision _ hid hguard _ _ =>
      cases hmoves₁ with
      | decide d _ _ _ hpending₁ hnone₁ => cases hnone₁
      | consume _ _ _ happroved _ =>
        have hdisposition : decision.disposition = .Approved := by
          cases hd : decision.disposition with
          | Approved => rfl
          | Denied =>
            rw [decided, hd] at happroved
            cases happroved
        exact ⟨c₀, c₁, envelope₀, decision, rfl, hslice₀, hpending, hnone, hslice₁, hcall₀,
          hdisposition, hid, hguard, rfl⟩

/-- An earned effect was approved. -/
theorem Earned.approved {journal : Journal ι P} (h : SequentialEntry a id calls journal)
    {e : EffectRun ι} (he : Earned a id calls journal e) : Approved a id calls journal e := by
  obtain ⟨c, envelope, effect, hc, hkey, _, hslice, hstate, hrequest, hcall⟩ := he
  have hmem : c ∈ journal.history (entity_key id) :=
    mem_history_iff.mpr ⟨List.mem_of_mem_take hc, hkey⟩
  obtain ⟨c₀, c₁, envelope₀, decision, hl, hslice₀, hpending, hnone, hslice₁, hcall₁,
    hdisposition, hid, hguard, rfl⟩ := history_of_consumed h hmem hslice hstate
  have happroved : (decided envelope₀ decision).state = .Approved := by
    rw [decided, hdisposition]
    rfl
  -- the approval is older than the consumption, which is older than the effect
  have hbefore : c₁ ∈ journal.commits.take e.after := by
    have hprefix : (journal.commits.take e.after).filter (fun c => c.entity_key = entity_key id)
        <+: [c₀, c₁, c] := by
      rw [← hl]
      exact (List.take_prefix _ _).filter _
    have hin : c ∈ (journal.commits.take e.after).filter
        (fun c => c.entity_key = entity_key id) :=
      List.mem_filter.mpr ⟨hc, decide_eq_true hkey⟩
    have hne₀ : c ≠ c₀ := by
      rintro rfl
      rw [hslice, Except.ok.injEq] at hslice₀
      rw [← hslice₀] at hpending
      cases hpending
    have hmem₁ : c₁ ∈ (journal.commits.take e.after).filter
        (fun c => c.entity_key = entity_key id) := by
      obtain ⟨rest, hrest⟩ := hprefix
      generalize (journal.commits.take e.after).filter
        (fun c => c.entity_key = entity_key id) = front at hin hrest
      match front, hin, hrest with
      | [_], hin, hrest =>
        obtain rfl := List.mem_singleton.mp hin
        exact absurd (List.cons.inj hrest).1 hne₀
      | _ :: _ :: _, _, hrest =>
        obtain ⟨_, hrest⟩ := List.cons.inj hrest
        obtain ⟨rfl, _⟩ := List.cons.inj hrest
        exact List.mem_cons_of_mem _ List.mem_cons_self
    exact (List.mem_filter.mp hmem₁).1
  have hmem₁ : c₁ ∈ journal.history (entity_key id) := by
    rw [hl]
    exact List.mem_cons_of_mem _ List.mem_cons_self
  have hrequest₀ : envelope₀.approval_request.guard_request = e.request := hrequest
  refine ⟨⟨effect, hcall⟩, ⟨c₁, _, decision, hbefore, (mem_history_iff.mp hmem₁).2, hcall₁,
    hdisposition, hid, by rw [hguard, hrequest₀], hslice₁, happroved, rfl⟩, ?_, ?_⟩
  · intro d hd
    rw [hl] at hd
    simp only [List.mem_cons, List.not_mem_nil, or_false] at hd
    rcases hd with rfl | rfl | rfl
    · exact ⟨_, hslice₀, hrequest₀⟩
    · exact ⟨_, hslice₁, hrequest₀⟩
    · exact ⟨_, hslice, hrequest₀⟩
  · intro d hd envelope' hslice'
    rw [hl] at hd
    simp only [List.mem_cons, List.not_mem_nil, or_false] at hd
    rcases hd with rfl | rfl | rfl
    · rw [hslice₀, Except.ok.injEq] at hslice'
      subst hslice'
      rw [hpending, hnone]
      exact ⟨ApprovalState.noConfusion, fun _ hd => by cases hd⟩
    · rw [hslice₁, Except.ok.injEq] at hslice'
      subst hslice'
      refine ⟨fun hdenied => ?_, fun d hd => ?_⟩
      · rw [happroved] at hdenied
        cases hdenied
      · obtain rfl := Option.some.inj hd
        exact hdisposition
    · rw [hslice, Except.ok.injEq] at hslice'
      subst hslice'
      refine ⟨ApprovalState.noConfusion, fun d hd => ?_⟩
      obtain rfl := Option.some.inj hd
      exact hdisposition

/-- **At most one approved effect.** However the calls of any number of callers
interleave, at most one effect is run for an approval; one that runs follows a
committed approval of the very request it is run with, and no denial of it is
ever committed. The entry moves from pending to approved to consumed, or from
pending to denied, and keeps its request, its gates and its decision. -/
theorem approved_effect_once [DecidableEq ι] (a : DurableGuardrailAuthority P)
    (hround : a.serde_json.RoundTrips) (id : ApprovalRequestId) (calls : ι → Call T Err)
    (store : VersionedStateStore P) (hstore : store[entity_key id]? = none) (schedule : List ι) :
    let w := ((a.concurrent calls store).run Ledger.sem schedule).world
    (w.effects.filter fun e => e.approval_request_id = id).length ≤ 1 ∧
      (∀ e ∈ w.effects, e.approval_request_id = id → Approved a id calls w.journal e) ∧
      EntryHistory a id w.journal := by
  intro w
  have hjustified := concurrent_justified calls hround hstore schedule
  refine ⟨hjustified.once, fun e he hid => ?_, hjustified.sequential.entry_history⟩
  exact (hjustified.earned e he hid).approved hjustified.sequential

/-- A repository write that an owner has to approve. -/
def repositoryWrite : GuardRequest where
  contract_version := ContractVersion.current
  id := "guard"
  surface := .Tool
  side_effect := .RepositoryWrite
  operation_label := "write"
  resource_keys := ["src"]
  write_keys := ["src"]
  permission_profile := ⟨ContractVersion.current, .R2, ["src"], ["src"], true, true, false⟩

/-- Caller 0 evaluates the request, caller 1 approves it, and callers 2 and 3
resume it. -/
def racingResumes : Fin 4 → Call Unit Unit
  | 0 => .evaluate_and_record repositoryWrite ⟨"approval", 5⟩
  | 1 => .record_decision
      ⟨ContractVersion.current, "approval", "guard", .ExplicitOwner, .Approved, 6⟩
  | _ => .resume_approved "approval" repositoryWrite (.ok ())

/-- An authority whose payloads are the envelopes themselves. -/
def plainAuthority : DurableGuardrailAuthority ApprovalEnvelope where
  serde_json := ⟨.ok, .ok⟩
  cas_retry_limit := 3

/-- Both resumes load the approved entry, and one of them runs its effect. -/
theorem approved_effect_once_racing :
    ∃ e, ((plainAuthority.concurrent racingResumes ∅).run Ledger.sem
        [0, 1, 1, 2, 3, 2, 3, 2]).world.effects = [e] ∧
      Approved plainAuthority "approval" racingResumes
        ((plainAuthority.concurrent racingResumes ∅).run Ledger.sem
          [0, 1, 1, 2, 3, 2, 3, 2]).world.journal e := by
  have h := approved_effect_once plainAuthority
    (fun _ _ h => congrArg Except.ok (Except.ok.inj h).symm) "approval" racingResumes ∅
    Std.ExtTreeMap.getElem?_empty [0, 1, 1, 2, 3, 2, 3, 2]
  have heffects : ((plainAuthority.concurrent racingResumes ∅).run Ledger.sem
      [0, 1, 1, 2, 3, 2, 3, 2]).world.effects = [⟨2, "approval", repositoryWrite, 3⟩] := by
    rfl
  exact ⟨_, heffects, h.2.1 _ (by rw [heffects]; exact List.mem_singleton.mpr rfl) rfl⟩

end DurableGuardrailAuthority

end OvcaCore

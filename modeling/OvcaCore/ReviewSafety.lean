/-
What holds in every world that controllers of reviews and other writers bring about, and
what each of them can rely on.

`ReviewInv` says what the trace and the log have to do with the rows; `Relies` says what a
caller can count on while the others act. Every operation of every caller respects the two,
and so do the calls of the durable authority that they are made of.
-/
import OvcaCore.Lib.Disciplines
import OvcaCore.Lib.Histories
import OvcaCore.ReviewWorld

set_option autoImplicit false

namespace OvcaCore

open OvcaCore.Checks OvcaCore.Histories OvcaCore.Interleaving EngineerVerifier
  DurableExecutionAuthority Relation

namespace ReviewWorld

section Facts

variable {ι P Q : Type}

/-! ## Starts, outcomes and passes -/

/-- The request of a role that a review has been started with. -/
def started (role : JudgeRole) (review : Option IndependentReviewStateV1) :
    Option IndependentRoleExecutionRequest :=
  review.bind (started_request role)

def recorded (role : JudgeRole) (review : Option IndependentReviewStateV1) :
    Option PersistedRoleExecutionOutcomeV1 :=
  review.bind (recorded_outcome role)

/-- The review has been resolved as passed. -/
def passed (review : Option IndependentReviewStateV1) : Bool :=
  review.any fun state => state.phase == .ResolvedPass

/-- The event starts the call of a role in a run. -/
def Starts (authority : ReviewAuthority P Q) (role : JudgeRole) (run_id : RunId)
    (event : ReviewEvent Q) : Prop :=
  ∃ before after, event = .committed (entity_key run_id) before after ∧
    started role (review_of authority before) = none ∧
    (started role (review_of authority (some after))).isSome

/-- The event starts the call with this request. -/
def StartsCall (authority : ReviewAuthority P Q) (request : IndependentRoleExecutionRequest)
    (event : ReviewEvent Q) : Prop :=
  ∃ before after, event = .committed (entity_key request.run_id) before after ∧
    started request.role (review_of authority before) = none ∧
    started request.role (review_of authority (some after)) = some request

/-- Two requests are for the same role and run. -/
def SameCall (request request' : IndependentRoleExecutionRequest) : Prop :=
  request.role = request'.role ∧ request.run_id = request'.run_id

theorem StartsCall.starts {authority : ReviewAuthority P Q}
    {request : IndependentRoleExecutionRequest} {event : ReviewEvent Q}
    (h : StartsCall authority request event) :
    Starts authority request.role request.run_id event := by
  obtain ⟨before, after, hevent, hbefore, hafter⟩ := h
  exact ⟨before, after, hevent, hbefore, by simp [hafter]⟩

/-! ## Writes of a review -/

/-- A write that is made only under the lease: it starts a call or resolves the review as
passed. -/
def Guarded (before after : Option IndependentReviewStateV1) : Prop :=
  (∃ role, started role before = none ∧ (started role after).isSome) ∨
    passed before = false ∧ passed after = true

/-- The evidence of the packet is current: the store has the fresh row and the bundle that
the packet was frozen with. -/
def Warrants (evidence : LocalVerificationStore) (packet : ReviewPacketV1) : Prop :=
  ∃ bundle, evidence.HoldsCurrent (ReviewAuditLoop.evidence_key packet) bundle ∧
    anchors packet.evidence_current bundle.current = true ∧
    bundle.record.digest = packet.verification_bundle_record_digest ∧
    bundle.record.bundle = packet.verification_bundle

/-- The directive of a run that failed sends its repair to exactly this candidate. -/
structure Directs (directive : RepairDirectiveV1) (failed_run_id : RunId)
    (packet : ReviewPacketV1) : Prop where
  digest : packet.prior_repair_directive_digest = some directive.directive_digest
  failed : directive.failed_run_id = failed_run_id
  successor : directive.successor_run_id = packet.run_id
  root : directive.root_run_id = packet.root_run_id
  goal : directive.goal_id = packet.goal_id
  task : directive.task_id = packet.task_id
  cycle : directive.successor_candidate_cycle = packet.candidate_cycle
  budget : directive.max_repair_cycles = packet.max_repair_cycles

/-- A candidate behind the first one repairs a run whose review has directed that. -/
def Descends (authority : ReviewAuthority P Q) (store : VersionedStateStore Q)
    (packet : ReviewPacketV1) : Prop :=
  packet.candidate_cycle ≠ 0 → ∃ prior_run_id prior directive,
    packet.prior_run_id = some prior_run_id ∧
    review_of authority store[entity_key prior_run_id]? = some prior ∧
    prior.validate authority.sha256 = .ok () ∧ prior.phase = .RepairDirected ∧
    prior.repair_directive = some directive ∧ Directs directive prior_run_id packet

/-- What a caller has to have for a write: for a guarded one the lease with current evidence,
for an outcome its own invocation that was answered so, and for a new review the one that it
repairs. -/
structure Licensed (authority : ReviewAuthority P Q) (store : VersionedStateStore Q)
    (earlier : List (ReviewEntry ι Q)) (entry : ReviewEntry ι Q)
    (before after : Option IndependentReviewStateV1) : Prop where
  warranted : Guarded before after → entry.lease = some entry.caller ∧
    ∀ state, after = some state → Warrants entry.evidence state.review_packet
  answered : ∀ role outcome, recorded role before = none → recorded role after = some outcome →
    ∃ e ∈ earlier, e.caller = entry.caller ∧ ∃ request, started role after = some request ∧
      e.event = .invoked request (some outcome)
  descends : before = none → ∀ state, after = some state →
    Descends authority store state.review_packet

/-! ## Decisions in the log -/

/-- The event is one of the two decisions of a passed review. -/
def IsDecision (pair : ReviewAuditLoop.PassingPair) (event : RunEvent) : Prop :=
  (event.id = pair.review_event_id ∧ event.producer_role = .Reviewer ∧
      event.payload = .ReviewDecisionRecorded pair.review) ∨
    (event.id = pair.audit_event_id ∧ event.producer_role = .Auditor ∧
      event.payload = .AuditDecisionRecorded pair.audit)

/-- The row is a phase event of the run. -/
def IsPhaseLine (codec : EngineerVerifierCodec P) (run_id : RunId) (line : P) : Prop :=
  ∃ event projection, codec.run_event.from_slice line = .ok event ∧ event.run_id = run_id ∧
    EngineerVerifierLoop.validate_phase_event codec event = .ok (some projection)

/-- The log has the event, behind a phase event of its run. -/
def BehindPhase (codec : EngineerVerifierCodec P) (rows : List P) (event : RunEvent) : Prop :=
  ∃ earlier phase_line line later, rows = earlier ++ line :: later ∧ phase_line ∈ earlier ∧
    IsPhaseLine codec event.run_id phase_line ∧ codec.run_event.from_slice line = .ok event

theorem BehindPhase.append {codec : EngineerVerifierCodec P} {rows rows' : List P}
    {event : RunEvent} (h : BehindPhase codec rows event) (hrows : rows <+: rows') :
    BehindPhase codec rows' event := by
  obtain ⟨more, rfl⟩ := hrows
  obtain ⟨earlier, phase_line, line, later, rfl, hphase, hline, hread⟩ := h
  refine ⟨earlier, phase_line, line, later ++ more, ?_, hphase, hline, hread⟩
  rw [List.append_assoc, List.cons_append]

/-- What is behind an event that a controller has appended: it had the lease and current
evidence, and the event is a decision of the passed review that the run has. -/
structure Projected (authority : ReviewAuthority P Q) (w : ReviewWorld ι P Q)
    (entry : ReviewEntry ι Q) (event : RunEvent) : Prop where
  lease : entry.lease = some entry.caller
  decision : ∃ state pair,
    review_of authority w.store[entity_key event.run_id]? = some state ∧
      state.phase = .ResolvedPass ∧
      ReviewAuditLoop.passing_pair authority.sha256 state = .ok pair ∧ IsDecision pair event ∧
      Warrants entry.evidence state.review_packet
  behind : BehindPhase authority.codec w.rows event

/-- The two events are the decision of one role in one run. -/
def SameDecision (event event' : RunEvent) : Prop :=
  event.run_id = event'.run_id ∧ event.producer_role = event'.producer_role

/-! ## The invariant -/

variable [DecidableEq P]

/-- What holds of an event and those before it: a row goes on by the rules, and its review by
what the caller is licensed to; a call is started once, whoever invokes its role has started
it with this request, and nobody does so twice; a controller appends a decision that is there
to be appended, and only once. -/
structure Fits (authority : ReviewAuthority P Q) (controls : ι → Prop) (w : ReviewWorld ι P Q)
    (earlier : List (ReviewEntry ι Q)) (entry : ReviewEntry ι Q) : Prop where
  step : ∀ key before after, entry.event = .committed key before after →
    RowStep authority before (some after)
  licensed : ∀ key before after, entry.event = .committed key before after →
    Licensed authority w.store earlier entry (review_of authority before)
      (review_of authority (some after))
  starts : ∀ role run_id, Starts authority role run_id entry.event →
    ∀ e ∈ earlier, ¬ Starts authority role run_id e.event
  bound : ∀ request answer, entry.event = .invoked request answer →
    ∃ e ∈ earlier, e.caller = entry.caller ∧ StartsCall authority request e.event
  invoked : ∀ request answer, entry.event = .invoked request answer →
    ∀ e ∈ earlier, ∀ request' answer', e.event = .invoked request' answer' →
      ¬ SameCall request' request
  appended : controls entry.caller → ∀ event, entry.event = .appended event →
    ∀ e ∈ earlier, controls e.caller → ∀ event', e.event = .appended event' →
      ¬ SameDecision event' event
  projected : controls entry.caller → ∀ event, entry.event = .appended event →
    Projected authority w entry event

/-- What holds in every world, where `controls` says who the controllers are. -/
structure ReviewInv (authority : ReviewAuthority P Q) (controls : ι → Prop)
    (w : ReviewWorld ι P Q) : Prop where
  started : ∀ e ∈ w.trace, ∀ role run_id, Starts authority role run_id e.event →
    (started role (review_of authority w.store[entity_key run_id]?)).isSome
  history : Each (Fits authority controls w) w.trace

/-- The rows and the log only go on, whoever acts. -/
structure Onward (authority : ReviewAuthority P Q) (w w' : ReviewWorld ι P Q) : Prop where
  rows : ∀ key : String, RowLater authority w.store[key]? w'.store[key]?
  log : w.rows <+: w'.rows

/-- What a caller knows while the others act: only it acts for itself. -/
structure Later (authority : ReviewAuthority P Q) (i : ι) (w w' : ReviewWorld ι P Q) : Prop
    extends Onward authority w w' where
  trace : ∃ entries, w'.trace = w.trace ++ entries ∧ ∀ e ∈ entries, e.caller ≠ i

/-- What a caller can rely on: while it has the lease, nobody takes it, the evidence stays
as it is, and no controller appends to the log. -/
structure Relies (authority : ReviewAuthority P Q) (controls : ι → Prop) (i : ι)
    (w w' : ReviewWorld ι P Q) : Prop extends Later authority i w w' where
  lease : w.lease = some i → w'.lease = some i
  evidence : w.lease = some i → w'.evidence = w.evidence
  appends : w.lease = some i → ∀ e ∈ w'.trace, controls e.caller →
    ∀ event, e.event = .appended event → e ∈ w.trace

variable {authority : ReviewAuthority P Q} {controls : ι → Prop} {i : ι}
  {w w' w'' : ReviewWorld ι P Q}

theorem Onward.refl (w : ReviewWorld ι P Q) : Onward authority w w :=
  ⟨fun _ => .refl, List.prefix_rfl⟩

theorem Onward.trans (h : Onward authority w w') (h' : Onward authority w' w'') :
    Onward authority w w'' :=
  ⟨fun key => (h.rows key).trans (h'.rows key), h.log.trans h'.log⟩

theorem Later.refl (i : ι) (w : ReviewWorld ι P Q) : Later authority i w w where
  toOnward := .refl w
  trace := ⟨[], (List.append_nil _).symm, fun _ h => absurd h List.not_mem_nil⟩

theorem Later.trans (h : Later authority i w w') (h' : Later authority i w' w'') :
    Later authority i w w'' where
  toOnward := h.toOnward.trans h'.toOnward
  trace := by
    obtain ⟨entries, hentries, hothers⟩ := h.trace
    obtain ⟨entries', hentries', hothers'⟩ := h'.trace
    refine ⟨entries ++ entries', by rw [hentries', hentries, List.append_assoc], fun e he => ?_⟩
    rcases List.mem_append.mp he with he | he
    · exact hothers e he
    · exact hothers' e he

theorem Relies.refl (i : ι) (w : ReviewWorld ι P Q) : Relies authority controls i w w where
  toLater := .refl i w
  lease := id
  evidence _ := rfl
  appends _ _ he _ _ _ := he

theorem Relies.trans (h : Relies authority controls i w w')
    (h' : Relies authority controls i w' w'') : Relies authority controls i w w'' where
  toLater := h.toLater.trans h'.toLater
  lease hlease := h'.lease (h.lease hlease)
  evidence hlease := (h'.evidence (h.lease hlease)).trans (h.evidence hlease)
  appends hlease e he hcontrols event hevent :=
    h.appends hlease e (h'.appends (h.lease hlease) e he hcontrols event hevent) hcontrols event
      hevent

/-- What the callers of a world of reviews keep to. -/
def discipline (authority : ReviewAuthority P Q) (controls : ι → Prop) :
    Discipline ι (ReviewWorld ι P Q) where
  Inv := ReviewInv authority controls
  Rely := Relies authority controls
  On := Onward authority
  rely_refl := .refl
  rely_trans _ _ _ _ := Relies.trans
  on_refl := .refl
  on_trans := Onward.trans
  rely_on := fun h => h.toOnward

/-- What an operation of a caller may do to the world. -/
abbrev May (authority : ReviewAuthority P Q) (controls : ι → Prop) (i : ι)
    (w w' : ReviewWorld ι P Q) : Prop :=
  (discipline authority controls).May i w w'

end Facts

/-! ## What one operation does -/

section Steps

variable {ι P Q : Type} [DecidableEq P] {authority : ReviewAuthority P Q} {controls : ι → Prop}
  {i : ι} {w w' : ReviewWorld ι P Q}

/-! ### What stays -/

/-- A start that is in a row stays in it. -/
theorem started_later {row row' : Option (VersionedState Q)} (h : RowLater authority row row')
    {role : JudgeRole} {request : IndependentRoleExecutionRequest}
    (hstarted : started role (review_of authority row) = some request) :
    started role (review_of authority row') = some request := by
  obtain ⟨state, hstate, hrequest⟩ := Option.bind_eq_some_iff.mp hstarted
  obtain ⟨state', hstate', hkeeps, _⟩ := h.review state hstate
  exact Option.bind_eq_some_iff.mpr ⟨state', hstate', started_request_keeps hkeeps hrequest⟩

/-- A review that is over stays as it is. -/
theorem Onward.terminal (h : Onward authority w w') {key : String}
    {state : IndependentReviewStateV1} (hstate : review_of authority w.store[key]? = some state)
    (hover : state.phase.is_terminal = true) :
    review_of authority w'.store[key]? = some state := by
  obtain ⟨state', hstate', _, hsame⟩ := (h.rows key).review state hstate
  rw [hsame hover] at hstate'
  exact hstate'

theorem Descends.onward {packet : ReviewPacketV1} (h : Descends authority w.store packet)
    (hon : Onward authority w w') : Descends authority w'.store packet := by
  intro hcycle
  obtain ⟨prior_run_id, prior, directive, hprior_run, hprior, hvalid, hphase, hdirective, hdirects⟩ :=
    h hcycle
  have hover : prior.phase.is_terminal = true := by
    rw [hphase]
    rfl
  exact ⟨prior_run_id, prior, directive, hprior_run, hon.terminal hprior hover, hvalid, hphase,
    hdirective, hdirects⟩

theorem Licensed.onward {earlier : List (ReviewEntry ι Q)} {entry : ReviewEntry ι Q}
    {before after : Option IndependentReviewStateV1}
    (h : Licensed authority w.store earlier entry before after) (hon : Onward authority w w') :
    Licensed authority w'.store earlier entry before after :=
  ⟨h.warranted, h.answered, fun hnone state hstate => (h.descends hnone state hstate).onward hon⟩

/-- A decision that was projected stays so. -/
theorem Projected.onward {entry : ReviewEntry ι Q} {event : RunEvent}
    (h : Projected authority w entry event) (hon : Onward authority w w') :
    Projected authority w' entry event where
  lease := h.lease
  decision := by
    obtain ⟨state, pair, hstate, hphase, hpair, hdecision, hwarrants⟩ := h.decision
    have hover : state.phase.is_terminal = true := by
      rw [hphase]
      rfl
    exact ⟨state, pair, hon.terminal hstate hover, hphase, hpair, hdecision, hwarrants⟩
  behind := h.behind.append hon.log

theorem Fits.onward {earlier : List (ReviewEntry ι Q)} {entry : ReviewEntry ι Q}
    (h : Fits authority controls w earlier entry) (hon : Onward authority w w') :
    Fits authority controls w' earlier entry where
  step := h.step
  licensed key before after hevent := (h.licensed key before after hevent).onward hon
  starts := h.starts
  bound := h.bound
  invoked := h.invoked
  appended := h.appended
  projected hcontrols event hevent := (h.projected hcontrols event hevent).onward hon

/-- Two starts of one call are the same event. -/
theorem ReviewInv.start_unique (h : ReviewInv authority controls w) {e e' : ReviewEntry ι Q}
    (he : e ∈ w.trace) (he' : e' ∈ w.trace) {role : JudgeRole} {run_id : RunId}
    (hstarts : Starts authority role run_id e.event)
    (hstarts' : Starts authority role run_id e'.event) : e = e' := by
  have hfits : Each (fun earlier e' : _ => Starts authority role run_id e'.event →
      ∀ e ∈ earlier, ¬ Starts authority role run_id e.event) w.trace :=
    h.history.mono fun earlier e _ hfits => hfits.starts role run_id
  exact Each.eq_of_mem (p := fun e => Starts authority role run_id e.event) hfits he he' hstarts
    hstarts'

/-! ### Steps without an event -/

/-- The worlds have the same rows, log and trace. -/
structure Same (w w' : ReviewWorld ι P Q) : Prop where
  store : w'.store = w.store
  rows : w'.rows = w.rows
  trace : w'.trace = w.trace

theorem Same.onward (hsame : Same w w') : Onward authority w w' where
  rows key := by
    rw [hsame.store]
  log := hsame.rows ▸ List.prefix_rfl

/-- The invariant is not about the lease, the evidence or the ticks. -/
theorem Same.inv (hsame : Same w w') (h : ReviewInv authority controls w) :
    ReviewInv authority controls w' where
  started := by
    rw [hsame.trace, hsame.store]
    exact h.started
  history := by
    rw [hsame.trace]
    exact h.history.mono fun _ _ _ hfits => hfits.onward hsame.onward

theorem Same.later (hsame : Same w w') (i : ι) : Later authority i w w' where
  toOnward := hsame.onward
  trace := ⟨[], by rw [hsame.trace, List.append_nil], fun _ h => absurd h List.not_mem_nil⟩

/-- Whoever has the lease keeps it, with the evidence. -/
theorem Same.relies (hsame : Same w w') (i : ι)
    (hlease : w.lease = some i → w'.lease = some i ∧ w'.evidence = w.evidence) :
    Relies authority controls i w w' where
  toLater := hsame.later i
  lease h := (hlease h).1
  evidence h := (hlease h).2
  appends _ _ he _ _ _ := hsame.trace ▸ he

/-- A step without an event may be made if nobody who has the lease loses it. -/
theorem Same.may (hsame : Same w w') (h : ReviewInv authority controls w)
    (hlease : ∀ j, j ≠ i → w.lease = some j → w'.lease = some j ∧ w'.evidence = w.evidence) :
    May authority controls i w w' where
  allowed := ⟨hsame.inv h, fun j hj => hsame.relies j (hlease j hj)⟩
  on := hsame.onward

omit [DecidableEq P] in
theorem same_tick (w : ReviewWorld ι P Q) : Same w w.tick := ⟨rfl, rfl, rfl⟩

theorem relies_tick (i : ι) (w : ReviewWorld ι P Q) : Relies authority controls i w w.tick :=
  (same_tick w).relies i fun h => ⟨h, rfl⟩

theorem may_tick (h : ReviewInv authority controls w) : May authority controls i w w.tick :=
  (same_tick w).may h fun _ _ hlease => ⟨hlease, rfl⟩

omit [DecidableEq P] in
theorem same_release [DecidableEq ι] (i : ι) (w : ReviewWorld ι P Q) : Same w (w.release i) := by
  unfold release
  split
  · exact ⟨rfl, rfl, rfl⟩
  · exact ⟨rfl, rfl, rfl⟩

/-- Giving the lease back does not touch that of another. -/
theorem may_release [DecidableEq ι] (h : ReviewInv authority controls w) :
    May authority controls i w (w.release i) := by
  refine (same_release i w).may h fun j hj hlease => ?_
  have hother : w.lease ≠ some i := by
    rw [hlease]
    exact fun heq => hj (Option.some.inj heq)
  rw [release, if_neg hother]
  exact ⟨hlease, rfl⟩

omit [DecidableEq P] in
theorem begin_lease_cases (codec : StoreCodec) (environment : ReviewEnvironment) (i : ι)
    (keys : List EvidenceKey) (w : ReviewWorld ι P Q) :
    (∃ e, w.begin_lease codec environment i keys = (.error e, w)) ∨
    ∃ snapshot, w.lease = none ∧
      w.evidence.completion_admission_snapshot codec keys = .ok snapshot ∧
      w.begin_lease codec environment i keys = (.ok snapshot, { w with lease := some i }) := by
  unfold begin_lease
  by_cases hheld : w.lease.isSome
  · rw [if_pos hheld]
    exact Or.inl ⟨_, rfl⟩
  · rw [if_neg hheld]
    cases environment.begin_fails w.ticks with
    | some e => exact Or.inl ⟨e, rfl⟩
    | none =>
      cases hsnapshot : w.evidence.completion_admission_snapshot codec keys with
      | error e => exact Or.inl ⟨e, rfl⟩
      | ok snapshot =>
        rw [Option.not_isSome_iff_eq_none] at hheld
        exact Or.inr ⟨snapshot, hheld, rfl, rfl⟩

omit [DecidableEq P] in
theorem same_take (i : ι) (w : ReviewWorld ι P Q) : Same w { w with lease := some i } :=
  ⟨rfl, rfl, rfl⟩

/-- Only a lease that nobody has is taken. -/
theorem may_take (h : ReviewInv authority controls w) (hfree : w.lease = none) :
    May authority controls i w { w with lease := some i } := by
  refine (same_take i w).may h fun j _ hlease => ?_
  rw [hfree] at hlease
  cases hlease

/-- The evidence only changes while nobody has the lease. -/
theorem may_write_evidence (h : ReviewInv authority controls w) (codec : StoreCodec)
    (environment : ReviewEnvironment) (operation : StoreOperation) :
    May authority controls i w (w.write_evidence codec environment operation).2 := by
  unfold write_evidence
  by_cases hheld : w.lease.isSome
  · rw [if_pos hheld]
    exact ⟨⟨h, fun j _ => Relies.refl j w⟩, .refl w⟩
  · rw [if_neg hheld]
    have hsame : Same w { w with evidence := (operation.exec codec w.evidence).2 } :=
      ⟨rfl, rfl, rfl⟩
    refine hsame.may h fun j _ hlease => ?_
    rw [hlease] at hheld
    exact absurd rfl hheld

/-! ### One more event -/

/-- **One more event keeps the invariant**, where rows and log only go on. -/
theorem ReviewInv.extend (h : ReviewInv authority controls w) {entry : ReviewEntry ι Q}
    (htrace : w'.trace = w.trace ++ [entry]) (hon : Onward authority w w')
    (hstarted : ∀ role run_id, Starts authority role run_id entry.event →
      (ReviewWorld.started role (review_of authority w'.store[entity_key run_id]?)).isSome)
    (hentry : Fits authority controls w' w.trace entry) : ReviewInv authority controls w' where
  started := by
    intro e he role run_id hstarts
    rw [htrace] at he
    rcases List.mem_append.mp he with he | he
    · obtain ⟨request, hrequest⟩ := Option.isSome_iff_exists.mp (h.started e he role run_id hstarts)
      rw [started_later (hon.rows _) hrequest]
      rfl
    · rw [List.mem_singleton.mp he] at hstarts
      exact hstarted role run_id hstarts
  history := by
    rw [htrace, each_snoc]
    exact ⟨h.history.mono fun _ _ _ hfits => hfits.onward hon, hentry⟩

/-- The others go on relying on what they did, unless a controller appends to the log under
the lease of one of them. -/
theorem relies_extend {entry : ReviewEntry ι Q} (htrace : w'.trace = w.trace ++ [entry])
    (hon : Onward authority w w') (hlease : w'.lease = w.lease)
    (hevidence : w'.evidence = w.evidence) {j : ι} (hj : j ≠ entry.caller)
    (happend : controls entry.caller → ∀ event, entry.event = .appended event →
      w.lease ≠ some j) : Relies authority controls j w w' where
  toOnward := hon
  trace := by
    refine ⟨[entry], htrace, fun e he => ?_⟩
    rw [List.mem_singleton.mp he]
    exact hj.symm
  lease h := hlease.trans h
  evidence _ := hevidence
  appends h e he hcontrols event hevent := by
    rw [htrace] at he
    rcases List.mem_append.mp he with he | he
    · exact he
    · -- the new event is no append of a controller under this lease
      rw [List.mem_singleton.mp he] at hcontrols hevent
      exact absurd h (happend hcontrols event hevent)

theorem onward_commit (i : ι) {key : String} {state : VersionedState Q}
    (hstep : RowStep authority w.store[key]? (some state)) :
    Onward authority w (w.commit i key state) where
  rows key' := by
    have hstore : (w.commit i key state).store = w.store.insert key state := rfl
    rw [hstore]
    by_cases hkey : key = key'
    · rw [← hkey, Std.ExtTreeMap.getElem?_insert_self]
      exact .single hstep
    · rw [OrderedMaps.get_insert_of_ne _ _ hkey]
  log := List.prefix_rfl

/-- A write of a row is by the rules of the authority, and the caller has the license. -/
theorem may_commit (h : ReviewInv authority controls w) {key : String} {state : VersionedState Q}
    (hstep : RowStep authority w.store[key]? (some state))
    (hlicensed : Licensed authority w.store w.trace
      ⟨i, .committed key w.store[key]? state, w.lease, w.evidence⟩
      (review_of authority w.store[key]?) (review_of authority (some state))) :
    May authority controls i w (w.commit i key state) := by
  have hon := onward_commit i hstep
  refine ⟨⟨h.extend rfl hon ?_ ⟨?_, ?_, ?_, ?_, ?_, ?_, ?_⟩, fun j hj =>
    relies_extend rfl hon rfl rfl hj ?_⟩, hon⟩
  · -- what the write starts is in the row from now on
    rintro role run_id ⟨before, after, hevent, _, hafter⟩
    cases hevent
    have hstore : (w.commit i (entity_key run_id) state).store[entity_key run_id]? = some state :=
      Std.ExtTreeMap.getElem?_insert_self
    rw [hstore]
    exact hafter
  · intro key' before after hevent
    cases hevent
    exact hstep
  · intro key' before after hevent
    cases hevent
    exact hlicensed.onward hon
  · rintro role run_id ⟨before, after, hevent, hbefore, _⟩ e he hstarts
    cases hevent
    -- a call that has been started is not started again
    have hsome := h.started e he role run_id hstarts
    rw [hbefore] at hsome
    cases hsome
  · intro request answer hevent
    cases hevent
  · intro request answer hevent
    cases hevent
  · intro _ event hevent
    cases hevent
  · intro _ event hevent
    cases hevent
  · intro _ event hevent
    cases hevent

/-! ### Invocations -/

/-- The caller has started the call with this request, and has not invoked its role yet. -/
structure Begun (authority : ReviewAuthority P Q) (i : ι) (w : ReviewWorld ι P Q)
    (request : IndependentRoleExecutionRequest) : Prop where
  started : ∃ e ∈ w.trace, e.caller = i ∧ StartsCall authority request e.event
  fresh : ∀ e ∈ w.trace, e.caller = i → ∀ request' answer, e.event = .invoked request' answer →
    ¬ SameCall request' request

theorem Begun.later {request : IndependentRoleExecutionRequest} (h : Begun authority i w request)
    (hlater : Later authority i w w') : Begun authority i w' request := by
  obtain ⟨entries, htrace, hothers⟩ := hlater.trace
  refine ⟨?_, fun e he hcaller => ?_⟩
  · obtain ⟨e, he, hcaller, hstarts⟩ := h.started
    exact ⟨e, htrace ▸ List.mem_append_left _ he, hcaller, hstarts⟩
  · rw [htrace] at he
    rcases List.mem_append.mp he with he | he
    · exact h.fresh e he hcaller
    · -- the others have not acted for this caller
      exact absurd hcaller (hothers e he)

/-- Whoever has started a call is the only one to invoke its role. -/
theorem Begun.uninvoked {request : IndependentRoleExecutionRequest}
    (h : Begun authority i w request) (hinv : ReviewInv authority controls w)
    {e : ReviewEntry ι Q} (he : e ∈ w.trace) {request' : IndependentRoleExecutionRequest}
    {answer : Option PersistedRoleExecutionOutcomeV1} (hevent : e.event = .invoked request' answer) :
    ¬ SameCall request' request := by
  intro hsame
  obtain ⟨earlier, later, htrace, hfits⟩ := hinv.history.of_mem he
  obtain ⟨start, hstart, hcaller, hstarts⟩ := hfits.bound request' answer hevent
  obtain ⟨own, hown, howner, howns⟩ := h.started
  have hmem : start ∈ w.trace := by
    rw [htrace]
    exact List.mem_append_left _ hstart
  -- both have started the call, which is one event
  have hstarts' := hstarts.starts
  rw [hsame.1, hsame.2] at hstarts'
  have hone := hinv.start_unique hmem hown hstarts' howns.starts
  rw [hone, howner] at hcaller
  exact h.fresh e he hcaller.symm request' answer hevent hsame

theorem onward_record (w : ReviewWorld ι P Q) (i : ι) (event : ReviewEvent Q) :
    Onward authority w (w.record i event) :=
  ⟨fun _ => .refl, List.prefix_rfl⟩

theorem may_invoke (h : ReviewInv authority controls w)
    {request : IndependentRoleExecutionRequest} (hbegun : Begun authority i w request)
    (answer : Option PersistedRoleExecutionOutcomeV1) :
    May authority controls i w (w.record i (.invoked request answer)) := by
  have hon : Onward authority w (w.record i (.invoked request answer)) := onward_record w i _
  refine ⟨⟨h.extend rfl hon ?_ ⟨?_, ?_, ?_, ?_, ?_, ?_, ?_⟩, fun j hj =>
    relies_extend rfl hon rfl rfl hj ?_⟩, hon⟩
  · rintro role run_id ⟨before, after, hevent, _⟩
    cases hevent
  · intro key before after hevent
    cases hevent
  · intro key before after hevent
    cases hevent
  · rintro role run_id ⟨before, after, hevent, _⟩
    cases hevent
  · intro request' answer' hevent
    cases hevent
    exact hbegun.started
  · -- whoever had asked before would be this caller, which has not
    intro request' answer' hevent e he request'' answer'' hevent'
    cases hevent
    exact hbegun.uninvoked h he hevent'
  · intro _ event hevent
    cases hevent
  · intro _ event hevent
    cases hevent
  · intro _ event hevent
    cases hevent

/-! ### Events of the log -/

/-- The world with another event in its log. -/
def appended (w : ReviewWorld ι P Q) (i : ι) (event : RunEvent) (line : P) : ReviewWorld ι P Q :=
  { w.record i (.appended event) with rows := w.rows ++ [line] }

/-- What a controller has to know to append an event: it has the lease, the event is a
decision of the passed review that the run has, the log has a phase event of the run, and no
controller has appended the decision yet. -/
structure MayAppend (authority : ReviewAuthority P Q) (controls : ι → Prop) (i : ι)
    (w : ReviewWorld ι P Q) (event : RunEvent) : Prop where
  lease : w.lease = some i
  decision : ∃ state pair,
    review_of authority w.store[entity_key event.run_id]? = some state ∧
      state.phase = .ResolvedPass ∧
      ReviewAuditLoop.passing_pair authority.sha256 state = .ok pair ∧ IsDecision pair event ∧
      Warrants w.evidence state.review_packet
  phase : ∃ line ∈ w.rows, IsPhaseLine authority.codec event.run_id line
  fresh : ∀ e ∈ w.trace, controls e.caller → ∀ event', e.event = .appended event' →
    ¬ SameDecision event' event

theorem may_append (h : ReviewInv authority controls w) {event : RunEvent} {line : P}
    (hread : authority.codec.run_event.from_slice line = .ok event)
    (hmay : controls i → MayAppend authority controls i w event) :
    May authority controls i w (w.appended i event line) := by
  have hon : Onward authority w (w.appended i event line) :=
    ⟨fun _ => .refl, List.prefix_append _ _⟩
  refine ⟨⟨h.extend rfl hon ?_ ⟨?_, ?_, ?_, ?_, ?_, ?_, ?_⟩, fun j hj =>
    relies_extend rfl hon rfl rfl hj ?_⟩, hon⟩
  · rintro role run_id ⟨before, after, hevent, _⟩
    cases hevent
  · intro key before after hevent
    cases hevent
  · intro key before after hevent
    cases hevent
  · rintro role run_id ⟨before, after, hevent, _⟩
    cases hevent
  · intro request answer hevent
    cases hevent
  · intro request answer hevent
    cases hevent
  · intro hcontrols event' hevent
    cases hevent
    exact (hmay hcontrols).fresh
  · intro hcontrols event' hevent
    cases hevent
    have hmay := hmay hcontrols
    obtain ⟨phase_line, hphase, hline⟩ := hmay.phase
    exact ⟨hmay.lease, hmay.decision, w.rows, phase_line, line, [], rfl, hphase, hline, hread⟩
  · -- a controller appends under the lease, so nobody else has it
    intro hcontrols _ _
    rw [(hmay hcontrols).lease]
    exact fun heq => hj (Option.some.inj heq).symm

end Steps

end ReviewWorld

end OvcaCore

/-
What a world of reviews guarantees, whoever acts in it and however they are scheduled.

Each guarantee is about the world that any schedule with crashes leads to, from any table of
runs, any evidence and any log: who has asked the executor and how often, where the outcomes
and the passes in the table have come from, which runs a repair goes back to, what is in the
log of the decisions, and what a controller says.
-/
import OvcaCore.ReviewRuns

set_option autoImplicit false

namespace OvcaCore

open OvcaCore.Checks OvcaCore.Histories OvcaCore.Interleaving EngineerVerifier
  DurableExecutionAuthority
open IndependentReviewStateV1.ReviewedRun (loop_authority loop_authority_serde_json
  loop_authority_run_event surroundings activities repaired_start turns repaired)

/-- What the directive of a valid state says of the candidate that has failed. -/
theorem IndependentReviewStateV1.directive_of_valid {P : Type} {sha256 : IndependentReviewDigests P}
    {state : IndependentReviewStateV1} (h : state.validate sha256 = .ok ())
    {directive : RepairDirectiveV1} (hdirective : state.repair_directive = some directive) :
    directive.failed_run_id = state.review_packet.run_id ∧
      directive.root_run_id = state.review_packet.root_run_id ∧
      directive.successor_candidate_cycle = state.review_packet.candidate_cycle + 1 := by
  have hchecked := (IndependentReviewStateV1.validate_eq_ok h).directive
  simp only [validate_directive, check_some_eq_ok, bind_eq_ok, of_contract_eq_ok, reject_if_eq_ok,
    exists_const, not_or, ne_eq, not_not] at hchecked
  obtain ⟨hvalid, hfailed, hroot, _, _, hcycle, _⟩ := hchecked directive hdirective
  simp only [RepairDirectiveV1.validate, RepairDirectiveV1.validate_succession, bind_eq_ok,
    reject_if_eq_ok, exists_const, exists_and_right, exists_unit_eq_ok, not_or, ne_eq, not_not,
    Bool.not_eq_true] at hvalid
  obtain ⟨_, ⟨_, _, ⟨hsuccessor, _⟩, _⟩, _⟩ := hvalid
  exact ⟨hfailed, hroot, by rw [hsuccessor, hcycle]⟩

namespace ReviewWorld

section Guarantees

variable {ι P Q : Type} [DecidableEq ι] [DecidableEq P] {authority : ReviewAuthority P Q}
  {environment : ReviewEnvironment} {callers : ι → ReviewActivity P} {start : ReviewStart P Q}

/-! ## Asking the executor -/

omit [DecidableEq ι] [DecidableEq P] in
/-- A role is asked only by the caller that has started the call before, and with the request
it has been started with; for a run it is asked once, and not at all where the call had been
started before anybody of these callers has acted. -/
structure AsksOnce (authority : ReviewAuthority P Q) (start : ReviewStart P Q)
    (trace : List (ReviewEntry ι Q)) : Prop where
  once : trace.Pairwise fun e e' => ∀ request answer request' answer',
    e.event = .invoked request answer → e'.event = .invoked request' answer' →
      ¬ SameCall request request'
  own : Each (fun earlier e => ∀ request answer, e.event = .invoked request answer →
    ∃ s ∈ earlier, s.caller = e.caller ∧ StartsCall authority request s.event) trace
  fresh : ∀ e ∈ trace, ∀ request answer, e.event = .invoked request answer →
    started request.role (review_of authority start.store[entity_key request.run_id]?) = none

omit [DecidableEq ι] [DecidableEq P] in
/-- An outcome that is recorded stays so. -/
theorem recorded_later {role : JudgeRole} {before after : Option IndependentReviewStateV1}
    (h : ReviewLater before after) {outcome : PersistedRoleExecutionOutcomeV1}
    (hrecorded : recorded role before = some outcome) : recorded role after = some outcome := by
  obtain ⟨state, hstate, houtcome⟩ := Option.bind_eq_some_iff.mp hrecorded
  obtain ⟨call, hcall, hcall_outcome⟩ := Option.bind_eq_some_iff.mp houtcome
  obtain ⟨state', hstate', hkeeps, _⟩ := h state hstate
  obtain ⟨call', hcall', hcall_keeps⟩ := role_call_keeps hkeeps hcall
  have hsame : call' = call := by
    apply hcall_keeps.recorded
    cases call with
    | NotStarted => cases hcall_outcome
    | Started digest at_ => cases hcall_outcome
    | OutcomeRecorded digest at_ answer outcome_digest recorded_at => rfl
  rw [hsame] at hcall'
  exact Option.bind_eq_some_iff.mpr ⟨state', hstate', Option.bind_eq_some_iff.mpr
    ⟨call, hcall', hcall_outcome⟩⟩

omit [DecidableEq ι] [DecidableEq P] in
/-- Every outcome that has been recorded since the start is an answer of the executor, to the
request that the review has been started with, and to the caller that has started it. -/
def Authentic (authority : ReviewAuthority P Q) (start : ReviewStart P Q) (w : ReviewWorld ι P Q) :
    Prop :=
  ∀ run_id role outcome,
    recorded role (review_of authority w.store[entity_key run_id]?) = some outcome →
    recorded role (review_of authority start.store[entity_key run_id]?) = none →
    ∃ i request, started role (review_of authority w.store[entity_key run_id]?) = some request ∧
      (∃ s ∈ w.trace, s.caller = i ∧ StartsCall authority request s.event) ∧
      ∃ e ∈ w.trace, e.caller = i ∧ e.event = .invoked request (some outcome)

omit [DecidableEq ι] [DecidableEq P] in
/-- Every call that has been started, and every review that has been resolved as passed, since
the start has been so by a caller that had the lease, while the evidence of the packet was
current. -/
structure Warranted (authority : ReviewAuthority P Q) (start : ReviewStart P Q)
    (w : ReviewWorld ι P Q) : Prop where
  starts : ∀ run_id role state request,
    review_of authority w.store[entity_key run_id]? = some state →
    started_request role state = some request →
    started role (review_of authority start.store[entity_key run_id]?) = none →
    ∃ e ∈ w.trace, Starts authority role run_id e.event ∧ e.lease = some e.caller ∧
      Warrants e.evidence state.review_packet
  passes : ∀ run_id state, review_of authority w.store[entity_key run_id]? = some state →
    state.phase = .ResolvedPass →
    passed (review_of authority start.store[entity_key run_id]?) = false →
    ∃ e ∈ w.trace, (∃ before after, e.event = .committed (entity_key run_id) before after ∧
      review_of authority (some after) = some state) ∧ e.lease = some e.caller ∧
      Warrants e.evidence state.review_packet

omit [DecidableEq ι] in
/-- A start that is in a row, and was not there at the start, is warranted. -/
theorem start_warranted {controls : ι → Prop} {w : ReviewWorld ι P Q}
    (hinv : ReviewInv authority controls w) (hrecounts : Recounts start w) {run_id : RunId}
    {role : JudgeRole} {state : IndependentReviewStateV1} {request : IndependentRoleExecutionRequest}
    (hstate : review_of authority w.store[entity_key run_id]? = some state)
    (hrequest : started_request role state = some request)
    (hbefore : started role (review_of authority start.store[entity_key run_id]?) = none) :
    ∃ e ∈ w.trace, Starts authority role run_id e.event ∧ e.lease = some e.caller ∧
      Warrants e.evidence state.review_packet := by
  -- the write of the start, in a review of the same packet
  have hnot_before : ¬ ∃ state', review_of authority start.store[entity_key run_id]? = some state' ∧
      state'.review_packet = state.review_packet ∧ started_request role state' = some request := by
    rintro ⟨state', hstate', _, hrequest'⟩
    simp [started, hstate', hrequest'] at hbefore
  obtain ⟨earlier, e, later, before, after, htrace, hevent, hnot, state', hstate', hpacket,
      hrequest'⟩ := hrecounts.turn (p := fun row => ∃ state', review_of authority row = some state' ∧
      state'.review_packet = state.review_packet ∧ started_request role state' = some request)
    hnot_before ⟨state, hstate, rfl, hrequest⟩
  obtain ⟨hlater, hlicensed⟩ := hinv.written htrace hevent
  have hnone : started role (review_of authority before) = none := by
    cases hstarted : started role (review_of authority before) with
    | none => rfl
    | some other =>
      -- what was started before is still so, with the same packet
      obtain ⟨first, hfirst, hother⟩ := Option.bind_eq_some_iff.mp hstarted
      obtain ⟨next, hnext, hkeeps, _⟩ := hlater first hfirst
      rw [hstate', Option.some.injEq] at hnext
      rw [← hnext] at hkeeps
      have hsame := started_request_keeps hkeeps hother
      rw [hrequest'] at hsame
      refine absurd ⟨first, hfirst, ?_, ?_⟩ hnot
      · rw [← hkeeps.review_packet, hpacket]
      · rw [hother, hsame]
  have hsome : (started role (review_of authority (some after))).isSome := by
    simp [started, hstate', hrequest']
  obtain ⟨hlease, hwarrants⟩ := hlicensed.warranted (Or.inl ⟨role, hnone, hsome⟩)
  refine ⟨e, ?_, ⟨before, after, hevent, hnone, hsome⟩, hlease, ?_⟩
  · rw [htrace]
    simp
  · rw [← hpacket]
    exact hwarrants state' hstate'

omit [DecidableEq ι] in
/-- A review that has passed, and had not at the start, is warranted: it is the one that was
written. -/
theorem pass_warranted {controls : ι → Prop} {w : ReviewWorld ι P Q}
    (hinv : ReviewInv authority controls w) (hrecounts : Recounts start w) {run_id : RunId}
    {state : IndependentReviewStateV1}
    (hstate : review_of authority w.store[entity_key run_id]? = some state)
    (hphase : state.phase = .ResolvedPass)
    (hbefore : passed (review_of authority start.store[entity_key run_id]?) = false) :
    ∃ e ∈ w.trace, (∃ before after, e.event = .committed (entity_key run_id) before after ∧
      review_of authority (some after) = some state) ∧ e.lease = some e.caller ∧
      Warrants e.evidence state.review_packet := by
  have hpass : passed (some state) = true := by simp [passed, hphase]
  have hnot_before : review_of authority start.store[entity_key run_id]? ≠ some state := by
    intro hsame
    rw [hsame, hpass] at hbefore
    cases hbefore
  obtain ⟨earlier, e, later, before, after, htrace, hevent, hnot, hafter⟩ :=
    hrecounts.turn (p := fun row => review_of authority row = some state) hnot_before hstate
  obtain ⟨hlater, hlicensed⟩ := hinv.written htrace hevent
  have hnot_passed : passed (review_of authority before) = false := by
    cases hreview : review_of authority before with
    | none => rfl
    | some first =>
      by_cases hfirst : first.phase = .ResolvedPass
      · -- a review that has passed is not written again
        obtain ⟨next, hnext, _, hsame⟩ := hlater first hreview
        have hover : first.phase.is_terminal = true := by
          rw [hfirst]
          rfl
        rw [hsame hover, hafter] at hnext
        rw [hreview, ← hnext] at hnot
        exact absurd rfl hnot
      · simp [passed, hfirst]
  have hguarded : Guarded (review_of authority before) (review_of authority (some after)) := by
    refine Or.inr ⟨hnot_passed, ?_⟩
    rw [hafter]
    exact hpass
  obtain ⟨hlease, hwarrants⟩ := hlicensed.warranted hguarded
  refine ⟨e, ?_, ⟨before, after, hevent, hafter⟩, hlease, hwarrants state hafter⟩
  rw [htrace]
  simp

omit [DecidableEq ι] [DecidableEq P] in
/-- The runs that a candidate repairs, the last one first, back to the first candidate. The
review of each is there, and has directed its repair to exactly the next. -/
inductive Lineage (authority : ReviewAuthority P Q) (store : VersionedStateStore Q) :
    ReviewPacketV1 → List RunId → Prop where
  | first (packet : ReviewPacketV1) (cycle : packet.candidate_cycle = 0) :
      Lineage authority store packet []
  | repair (packet : ReviewPacketV1) (prior : IndependentReviewStateV1)
      (directive : RepairDirectiveV1) (runs : List RunId)
      (named : packet.prior_run_id = some prior.review_packet.run_id)
      (stored : review_of authority store[entity_key prior.review_packet.run_id]? = some prior)
      (phase : prior.phase = .RepairDirected) (directed : prior.repair_directive = some directive)
      (directs : Directs directive prior.review_packet.run_id packet)
      (cycle : packet.candidate_cycle = prior.review_packet.candidate_cycle + 1)
      (root : packet.root_run_id = prior.review_packet.root_run_id)
      (earlier : Lineage authority store prior.review_packet runs) :
      Lineage authority store packet (prior.review_packet.run_id :: runs)

omit [DecidableEq ι] [DecidableEq P] in
/-- Every review repairs a run that has directed it, if it is not one of a first candidate. -/
def Founded (authority : ReviewAuthority P Q) (store : VersionedStateStore Q) : Prop :=
  ∀ run_id state, review_of authority store[entity_key run_id]? = some state →
    Descends authority store state.review_packet

omit [DecidableEq ι] [DecidableEq P] in
/-- A lineage has as many runs as there were repairs, of ever earlier cycles. -/
theorem Lineage.runs {store : VersionedStateStore Q} {packet : ReviewPacketV1} {runs : List RunId}
    (h : Lineage authority store packet runs) :
    runs.length = packet.candidate_cycle ∧ ∀ run_id ∈ runs, ∃ prior,
      review_of authority store[entity_key run_id]? = some prior ∧
        prior.review_packet.candidate_cycle < packet.candidate_cycle ∧
        prior.review_packet.root_run_id = packet.root_run_id := by
  induction h with
  | first packet cycle => simp [cycle]
  | repair packet prior directive runs named stored phase directed directs cycle root earlier ih =>
    obtain ⟨hlength, hearlier⟩ := ih
    refine ⟨by rw [List.length_cons, hlength, cycle], fun run_id hmem => ?_⟩
    rcases List.mem_cons.mp hmem with rfl | hmem
    · exact ⟨prior, stored, by omega, root.symm⟩
    · obtain ⟨first, hfirst, hcycle, hroot⟩ := hearlier run_id hmem
      exact ⟨first, hfirst, by omega, hroot.trans root.symm⟩

omit [DecidableEq ι] [DecidableEq P] in
/-- No run is in a lineage twice: its review is of one cycle. -/
theorem Lineage.nodup {store : VersionedStateStore Q} {packet : ReviewPacketV1} {runs : List RunId}
    (h : Lineage authority store packet runs) : runs.Nodup := by
  induction h with
  | first packet cycle => exact List.nodup_nil
  | repair packet prior directive runs named stored phase directed directs cycle root earlier ih =>
    refine List.nodup_cons.mpr ⟨fun hmem => ?_, ih⟩
    obtain ⟨again, hagain, hlt, _⟩ := earlier.runs.2 _ hmem
    rw [stored, Option.some.injEq] at hagain
    rw [hagain] at hlt
    exact absurd hlt (lt_irrefl _)

omit [DecidableEq ι] [DecidableEq P] in
/-- Where every review is founded, every review has its whole lineage. By induction on the
cycle of the candidate. -/
theorem Founded.lineage {store : VersionedStateStore Q} (h : Founded authority store) {cycle : ℕ}
    {packet : ReviewPacketV1} (hcycle : packet.candidate_cycle = cycle)
    (hdescends : Descends authority store packet) : ∃ runs, Lineage authority store packet runs := by
  induction cycle generalizing packet with
  | zero => exact ⟨[], .first packet hcycle⟩
  | succ cycle ih =>
    obtain ⟨prior_run_id, prior, directive, hprior_run, hprior, hvalid, hphase, hdirective,
      hdirects⟩ := hdescends (by omega)
    obtain ⟨hfailed, hroot, hsuccessor⟩ :=
      IndependentReviewStateV1.directive_of_valid hvalid hdirective
    -- the directive is about the run that it was found in
    have hrun : prior_run_id = prior.review_packet.run_id := hdirects.failed.symm.trans hfailed
    rw [hrun] at hprior_run hprior hdirects
    have hnext : packet.candidate_cycle = prior.review_packet.candidate_cycle + 1 :=
      hdirects.cycle.symm.trans hsuccessor
    obtain ⟨runs, hruns⟩ := ih (by omega) (h _ _ hprior)
    exact ⟨prior.review_packet.run_id :: runs, .repair packet prior directive runs hprior_run hprior
      hphase hdirective hdirects hnext (hdirects.root.symm.trans hroot) hruns⟩

omit [DecidableEq ι] [DecidableEq P] in
/-- Every review goes back to a first candidate, by as many repairs as its cycle says, each of
another run and all of one root. -/
def Traceable (authority : ReviewAuthority P Q) (store : VersionedStateStore Q) : Prop :=
  ∀ run_id state, review_of authority store[entity_key run_id]? = some state →
    ∃ runs, Lineage authority store state.review_packet runs ∧
      runs.length = state.review_packet.candidate_cycle ∧ runs.Nodup

/-- Every schedule keeps the reviews founded. -/
theorem reviewed_founded (hround : authority.serde_json.RoundTrips)
    (hevents : authority.run_event.RoundTrips) (hstart : Founded authority start.store)
    (events : List (Event ι)) :
    Founded authority (reviewed authority environment callers start events).world.store := by
  have hinv := (reviewed_keeps environment callers start hround hevents events).1
  have hrecounts := reviewed_recounts authority environment callers start events
  generalize (reviewed authority environment callers start events).world = w at *
  intro run_id state hstate
  have hon : Onward authority (reviewing authority callers start).world w :=
    ⟨hrecounts.later hinv, hrecounts.log⟩
  by_cases hbefore : ∃ first, review_of authority start.store[entity_key run_id]? = some first ∧
      first.review_packet = state.review_packet
  · obtain ⟨first, hfirst, hpacket⟩ := hbefore
    have hdescends : Descends authority (reviewing authority callers start).world.store
        state.review_packet := hpacket ▸ hstart run_id first hfirst
    exact hdescends.onward hon
  · -- the write that has installed a review of this packet
    obtain ⟨earlier, e, later, before, after, htrace, hevent, hnot, state', hstate', hpacket⟩ :=
      hrecounts.turn (p := fun row => ∃ state', review_of authority row = some state' ∧
        state'.review_packet = state.review_packet) hbefore ⟨state, hstate, rfl⟩
    obtain ⟨hlater, hlicensed⟩ := hinv.written htrace hevent
    have hnone : review_of authority before = none := by
      cases hreview : review_of authority before with
      | none => rfl
      | some first =>
        obtain ⟨next, hnext, hkeeps, _⟩ := hlater first hreview
        rw [hstate', Option.some.injEq] at hnext
        rw [← hnext] at hkeeps
        exact absurd ⟨first, hreview, hkeeps.review_packet.symm.trans hpacket⟩ hnot
    rw [← hpacket]
    exact hlicensed.descends hnone state' hstate'

/-- The one review of the start is of a first candidate. -/
theorem repaired_start_founded : Founded loop_authority repaired_start.store := by
  intro run_id state hstate hcycle
  by_cases hkey : entity_key "run" = entity_key run_id
  · rw [← hkey, repaired_start, Std.ExtTreeMap.getElem?_insert_self] at hstate
    cases hstate
    exact absurd rfl hcycle
  · rw [repaired_start, OrderedMaps.get_insert_of_ne _ _ hkey] at hstate
    simp [review_of, envelope_of] at hstate

omit [DecidableEq ι] [DecidableEq P] in
/-- What controllers append: each decision of a run once, under the lease, with current
evidence, behind a phase event of the run, and only where the run has a review that has
passed with this decision. -/
def DecidesOnce (authority : ReviewAuthority P Q) (callers : ι → ReviewActivity P)
    (w : ReviewWorld ι P Q) : Prop :=
  Each (fun earlier e => (callers e.caller).controls → ∀ event, e.event = .appended event →
    Projected authority w e event ∧
      ∀ e' ∈ earlier, (callers e'.caller).controls → ∀ event', e'.event = .appended event' →
        ¬ SameDecision event' event) w.trace

omit [DecidableEq ι] in
/-- What a controller has answered is true of the review in the table, and of the log, at
the time it has ended and ever after; with four rounds it always has an answer. -/
def Truthful (authority : ReviewAuthority P Q) (callers : ι → ReviewActivity P)
    (c : System ι (ReviewWorld ι P Q) (ReviewAuditOp Q) (ReviewAuditOp.Answer P)
      (Fault ReviewAuditLoopError) (Option ReviewAuditLoopOutcome)) : Prop :=
  ∀ i rounds input answer, callers i = .drive rounds input →
    c.callers i = .done (.ok answer) →
      Answered authority input.review_packet rounds 4 answer c.world

end Guarantees

end ReviewWorld

end OvcaCore

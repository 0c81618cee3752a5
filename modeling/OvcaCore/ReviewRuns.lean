/-
Whole runs of a world of reviews: any number of controllers, restarts of them among these,
and of other programs, under any schedule, with crashes at any point.

Another program is any program over the calls that the rest of the system makes on the same
databases and the same log (`OtherCall`). Whatever they all do, the invariant holds, and a
controller that has ended has told the truth (`reviewed_keeps`). Rows and trace tell the same
story (`reviewed_recounts`), so what is in a row at the end was there at the start or has been
put there by an event of the trace (`Recounts.turn`).
-/
import OvcaCore.LogIsolation
import OvcaCore.ReviewResolutions
import OvcaCore.ReviewRounds

set_option autoImplicit false

namespace OvcaCore

open OvcaCore.Checks OvcaCore.Histories OvcaCore.Interleaving EngineerVerifier
  DurableExecutionAuthority Relation

/-! ## Who acts -/

/-- A call of a program that is no controller. -/
inductive OtherCall (P : Type) where
  | initialize_run (run_id : RunId) (tasks : List Task) (retry_budget : RetryBudget)
  | apply (run_id : RunId) (request : ExecutionRequest)
  | compare_and_swap_engineer_verifier (run_id : RunId) (expected_revision : ℕ)
      (expected_state_digest : Option String) (next : EngineerVerifierStateV1 P)
  | load (run_id : RunId)
  | evidence (operation : StoreOperation)
  | begin_lease (keys : List EvidenceKey)
  | end_lease
  | append (event : RunEvent)
  | read_log
  | now

namespace OtherCall

variable {P Q : Type}

def Answer : OtherCall P → Type
  | .initialize_run _ _ _ => Except (Fault ReviewAuditLoopError)
      (InitializeRunResult (EngineerVerifierStateV1 P) IndependentReviewStateV1)
  | .apply _ _ => Except (Fault ReviewAuditLoopError) DurableCommandResult
  | .compare_and_swap_engineer_verifier _ _ _ _ => Except (Fault ReviewAuditLoopError)
      (ProjectionCasOutcome (EngineerVerifierStateV1 P) IndependentReviewStateV1)
  | .load _ => Except (Fault ReviewAuditLoopError) (LoadedReviewRun P)
  | .evidence _ => LocalVerificationStoreResult StoreAnswer
  | .begin_lease _ => LocalVerificationStoreResult CompletionAdmissionSnapshot
  | .end_lease => LocalVerificationStoreResult Unit
  | .append _ => Except RunEventLogError Unit
  | .read_log => List P
  | .now => DateTime

/-- The call, as a program over the operations. What fails is an answer of it. -/
def program [DecidableEq P] (authority : ReviewAuthority P Q) :
    (call : OtherCall P) → ReviewAuditProg P Q call.Answer
  | .initialize_run run_id tasks retry_budget =>
    (on_store (authority.execution.initialize_run run_id tasks retry_budget)).attempt
  | .apply run_id request => (on_store (authority.execution.apply run_id request)).attempt
  | .compare_and_swap_engineer_verifier run_id revision digest next =>
    (on_store (authority.execution.compare_and_swap_engineer_verifier run_id revision digest
      next)).attempt
  | .load run_id => (ReviewAuditLoop.load authority run_id).attempt
  | .evidence operation => .op (.evidence operation) fun answer => .done (.ok answer)
  | .begin_lease keys => .op (.begin_lease keys) fun answer => .done (.ok answer)
  | .end_lease => .op .end_lease fun answer => .done (.ok answer)
  | .append event => append_event event
  | .read_log => OvcaCore.read_log
  | .now => OvcaCore.now

end OtherCall

/-- A caller drives a candidate, as a controller, or runs another program. -/
inductive ReviewActivity (P : Type) where
  | drive (rounds : ℕ) (input : ReviewAuditLoopInput)
  | other (program : Prog (OtherCall P) OtherCall.Answer (Fault ReviewAuditLoopError) Unit)

namespace ReviewActivity

variable {P Q : Type}

def program [DecidableEq P] (authority : ReviewAuthority P Q) :
    ReviewActivity P → ReviewAuditProg P Q (Option ReviewAuditLoopOutcome)
  | .drive rounds input => ReviewAuditLoop.drive authority rounds input
  | .other program => program.expand (OtherCall.program authority) >>= fun _ => pure none

def controls : ReviewActivity P → Prop
  | .drive _ _ => True
  | .other _ => False

/-- What is known of a caller that has ended without an error: a controller has told the
truth, if its rounds were enough. -/
def Ended {ι : Type} (authority : ReviewAuthority P Q) (answer : Option ReviewAuditLoopOutcome)
    (w : ReviewWorld ι P Q) : ReviewActivity P → Prop
  | .drive rounds input =>
    ReviewWorld.Answered authority input.review_packet rounds 4 answer w
  | .other _ => True

end ReviewActivity

namespace ReviewWorld

/-- What a caller has ended with that has crashed. -/
def crashed : Fault ReviewAuditLoopError := .panic "crashed"

/-- Where a run of the world begins: nobody has acted, and nobody has the lease. -/
structure ReviewStart (P Q : Type) where
  store : VersionedStateStore Q
  evidence : LocalVerificationStore
  rows : List P

section Runs

variable {ι P Q : Type} [DecidableEq ι] [DecidableEq P]

/-- The world, and the callers in it, before anybody has acted. -/
def reviewing (authority : ReviewAuthority P Q) (activities : ι → ReviewActivity P)
    (start : ReviewStart P Q) :
    System ι (ReviewWorld ι P Q) (ReviewAuditOp Q) (ReviewAuditOp.Answer P)
      (Fault ReviewAuditLoopError) (Option ReviewAuditLoopOutcome) where
  callers i := (activities i).program authority
  world :=
    { store := start.store
      evidence := start.evidence
      lease := none
      rows := start.rows
      ticks := 0
      trace := [] }

/-- The system after a schedule with crashes. A caller that crashes loses the lease. -/
def reviewed (authority : ReviewAuthority P Q) (environment : ReviewEnvironment)
    (activities : ι → ReviewActivity P) (start : ReviewStart P Q) (events : List (Event ι)) :
    System ι (ReviewWorld ι P Q) (ReviewAuditOp Q) (ReviewAuditOp.Answer P)
      (Fault ReviewAuditLoopError) (Option ReviewAuditLoopOutcome) :=
  (reviewing authority activities start).runEvents (perform authority environment) release crashed
    events

end Runs

/-! ## Other programs -/

section Others

variable {ι P Q : Type} [DecidableEq ι] [DecidableEq P] {authority : ReviewAuthority P Q}
  {environment : ReviewEnvironment} {controls : ι → Prop} {i : ι} {w : ReviewWorld ι P Q}

theorem runs_single {o : ReviewAuditOp Q}
    (h : ∀ t, ReviewInv authority controls t →
      May authority controls i t (perform authority environment i o t).2) :
    Runs authority environment controls i (fun _ _ => True)
      (.op o fun answer => .done (.ok answer)) w := by
  apply Discipline.runs_op
  intro t _ hinv
  exact ⟨h t hinv, Discipline.runs_done fun _ _ _ _ _ => trivial⟩

theorem runs_attempt {α : Type} {p : ReviewAuditProg P Q α} (hinv : ReviewInv authority controls w)
    (h : Runs authority environment controls i (fun _ _ => True) p w) :
    Runs authority environment controls i (fun _ _ => True) p.attempt w := by
  rw [← Prog.bind_pure p.attempt]
  apply Discipline.Runs.attempt_bind h hinv
  intro _ _ _ _ _
  exact Discipline.runs_pure fun _ _ _ => trivial

/-- **Any call of another program** may be made at any time. -/
theorem runs_other (hround : authority.serde_json.RoundTrips)
    (hevents : authority.run_event.RoundTrips) (hcontrols : ¬ controls i)
    (hinv : ReviewInv authority controls w) (call : OtherCall P) :
    Runs authority environment controls i (fun _ _ => True) (call.program authority) w := by
  cases call with
  | initialize_run run_id tasks retry_budget =>
    exact runs_attempt hinv (runs_initialize_run hround run_id tasks retry_budget)
  | apply run_id request => exact runs_attempt hinv (runs_lifecycle hround run_id request)
  | compare_and_swap_engineer_verifier run_id revision digest next =>
    exact runs_attempt hinv (runs_engineer_verifier hround run_id revision digest next)
  | load run_id =>
    apply runs_attempt hinv
    rw [← Prog.bind_pure (ReviewAuditLoop.load authority run_id)]
    apply runs_load_bind
    exact fun _ _ _ _ _ _ _ => Discipline.runs_pure fun _ _ _ => trivial
  | evidence operation =>
    apply runs_single
    intro t ht
    have hwrite := may_write_evidence (i := i) ht authority.evidence environment operation
    exact hwrite.trans (may_tick hwrite.allowed.1)
  | begin_lease keys =>
    apply runs_single
    intro t ht
    rcases begin_lease_cases authority.evidence environment i keys t with
      ⟨e, hbegin⟩ | ⟨snapshot, hfree, _, hbegin⟩
    · simp only [perform, hbegin]
      exact may_tick ht
    · simp only [perform, hbegin]
      have htake : May authority controls i t { t with lease := some i } := may_take ht hfree
      exact htake.trans (may_tick htake.allowed.1)
  | end_lease =>
    apply runs_single
    intro t ht
    have hrelease : May authority controls i t (t.release i) := may_release ht
    exact hrelease.trans (may_tick hrelease.allowed.1)
  | append event =>
    -- only a controller has to know something to append
    have hrule : Runs authority environment controls i (fun _ _ => True)
        (append_event event >>= fun answer => pure answer) w := by
      apply runs_append_event_bind hevents
      · exact fun hcontrols' => absurd hcontrols' hcontrols
      · exact fun _ _ _ _ _ => Discipline.runs_pure fun _ _ _ => trivial
    rw [Prog.bind_pure] at hrule
    exact hrule
  | read_log => exact runs_single fun t ht => may_tick ht
  | now => exact runs_single fun t ht => may_tick ht

end Others

/-! ## Every schedule -/

section Schedules

variable {ι P Q : Type} [DecidableEq ι] [DecidableEq P] {authority : ReviewAuthority P Q}
  {environment : ReviewEnvironment} {controls : ι → Prop} {i : ι} {w : ReviewWorld ι P Q}
  {activities : ι → ReviewActivity P} {start : ReviewStart P Q}

/-- What any caller runs, it may run from any world. -/
theorem runs_activity (hround : authority.serde_json.RoundTrips)
    (hevents : authority.run_event.RoundTrips) (activity : ReviewActivity P)
    (hcontrols : controls i → activity.controls) (hinv : ReviewInv authority controls w) :
    Runs authority environment controls i (fun answer t => activity.Ended authority answer t)
      (activity.program authority) w := by
  cases activity with
  | drive rounds input => exact runs_drive hround hevents rounds input
  | other program =>
    -- its calls may be made from anywhere, in any order
    have hother : ¬ controls i := hcontrols
    apply Discipline.Runs.map
    apply Discipline.Runs.mono (fun _ _ _ => trivial)
    exact Discipline.runs_expand (fun call t ht => runs_other hround hevents hother ht call) program
      hinv

variable (environment activities start) in
/-- **Every schedule keeps the invariant**, and whoever has ended has told the truth. -/
theorem reviewed_keeps (hround : authority.serde_json.RoundTrips)
    (hevents : authority.run_event.RoundTrips) (events : List (Event ι)) :
    ReviewInv authority (fun i => (activities i).controls)
        (reviewed authority environment activities start events).world ∧
      ∀ i answer, (reviewed authority environment activities start events).callers i =
          .done (.ok answer) →
        (activities i).Ended authority answer
          (reviewed authority environment activities start events).world := by
  let D := discipline authority fun i : ι => (activities i).controls
  -- before anybody has acted there is no event
  have hinv : D.Inv (reviewing authority activities start).world :=
    ⟨fun e he => absurd he List.not_mem_nil, each_nil⟩
  have hruns : ∀ i, D.Runs (perform authority environment) i
      (fun answer t => (activities i).Ended authority answer t)
      ((reviewing authority activities start).callers i)
      (reviewing authority activities start).world :=
    fun i => runs_activity hround hevents (activities i) id hinv
  exact Discipline.runEvents_runs hruns hinv (fun i t ht => may_release ht) events

end Schedules

/-! ## Rows and trace -/

section Accounts

variable {ι P Q : Type}

/-- The row of a key behind an event. -/
def row_behind (key : String) (row : Option (VersionedState Q)) (entry : ReviewEntry ι Q) :
    Option (VersionedState Q) :=
  match entry.event with
  | .committed key' _ after => if key' = key then some after else row
  | .invoked _ _ | .appended _ => row

/-- The rows are those of the start with what the trace has written, and each write has gone
over the row that was there; the log has only grown. -/
structure Recounts (start : ReviewStart P Q) (w : ReviewWorld ι P Q) : Prop where
  rows : ∀ key : String, w.store[key]? = w.trace.foldl (row_behind key) start.store[key]?
  commits : Each (fun earlier e => ∀ key before after, e.event = .committed key before after →
    before = earlier.foldl (row_behind key) start.store[key]?) w.trace
  log : start.rows <+: w.rows

variable {start : ReviewStart P Q} {w w' : ReviewWorld ι P Q}

/-- Without another event, only the log may grow. -/
theorem Recounts.same (h : Recounts start w) (hstore : w'.store = w.store)
    (htrace : w'.trace = w.trace) (hlog : w.rows <+: w'.rows) : Recounts start w' where
  rows := by
    rw [hstore, htrace]
    exact h.rows
  commits := by
    rw [htrace]
    exact h.commits
  log := h.log.trans hlog

theorem Recounts.record (h : Recounts start w) (i : ι) {event : ReviewEvent Q}
    (hevent : ∀ key before after, event ≠ .committed key before after) :
    Recounts start (w.record i event) where
  rows key := by
    have htrace : (w.record i event).trace = w.trace ++ [⟨i, event, w.lease, w.evidence⟩] := rfl
    rw [htrace, List.foldl_append, ← h.rows key]
    cases event with
    | committed key' before after => exact absurd rfl (hevent key' before after)
    | invoked request answer => rfl
    | appended event => rfl
  commits := by
    refine each_snoc.mpr ⟨h.commits, fun key before after hcommitted => ?_⟩
    exact absurd hcommitted (hevent key before after)
  log := h.log

theorem Recounts.commit (h : Recounts start w) (i : ι) (key : String) (state : VersionedState Q) :
    Recounts start (w.commit i key state) where
  rows key' := by
    have htrace : (w.commit i key state).trace =
        w.trace ++ [⟨i, .committed key w.store[key]? state, w.lease, w.evidence⟩] := rfl
    have hstore : (w.commit i key state).store = w.store.insert key state := rfl
    rw [htrace, hstore, List.foldl_append, ← h.rows key']
    -- the row that is written, or one of the others
    by_cases hkey : key = key'
    · rw [← hkey, Std.ExtTreeMap.getElem?_insert_self]
      simp [row_behind]
    · rw [OrderedMaps.get_insert_of_ne _ _ hkey]
      simp [row_behind, hkey]
  commits := by
    refine each_snoc.mpr ⟨h.commits, fun key' before after hcommitted => ?_⟩
    cases hcommitted
    exact h.rows key
  log := h.log

variable [DecidableEq ι] [DecidableEq P] {authority : ReviewAuthority P Q}
  {environment : ReviewEnvironment}

omit [DecidableEq ι] [DecidableEq P] in
theorem Recounts.tick (h : Recounts start w) : Recounts start w.tick :=
  h.same rfl rfl List.prefix_rfl

omit [DecidableEq P] in
theorem Recounts.release (h : Recounts start w) (i : ι) : Recounts start (w.release i) := by
  have hsame := same_release i w
  exact h.same hsame.store hsame.trace (hsame.rows ▸ List.prefix_rfl)

omit [DecidableEq P] in
/-- No operation tells another story. -/
theorem Recounts.perform (h : Recounts start w) (i : ι) (o : ReviewAuditOp Q) :
    Recounts start (perform authority environment i o w).2 := by
  cases o with
  | now => exact h.tick
  | store o =>
    cases o with
    | load key => exact h.tick
    | initialize_entity key payload =>
      rcases perform_initialize authority environment i w key payload with
        ⟨row, _, hperform⟩ | ⟨_, hperform⟩
      · rw [hperform]
        exact h.tick
      · rw [hperform]
        exact h.tick.commit i key _
    | compare_and_swap key revision payload =>
      rcases perform_compare_and_swap authority environment i w key revision payload with
        ⟨answer, _, hperform, _⟩ | ⟨row, _, _, hperform⟩
      · rw [hperform]
        exact h.tick
      · rw [hperform]
        exact h.tick.commit i key _
  | begin_lease keys =>
    rcases begin_lease_cases authority.evidence environment i keys w with
      ⟨e, hbegin⟩ | ⟨snapshot, _, _, hbegin⟩
    · simp only [ReviewWorld.perform, hbegin]
      exact h.tick
    · simp only [ReviewWorld.perform, hbegin]
      exact h.same rfl rfl List.prefix_rfl
  | end_lease => exact (h.release i).tick
  | invoke request =>
    apply Recounts.tick
    apply h.record i
    intro key before after hevent
    cases hevent
  | read_log => exact h.tick
  | append event =>
    simp only [ReviewWorld.perform, append]
    cases happend : authority.log.append w.rows event with
    | error e => exact h.tick
    | ok rows =>
      obtain ⟨line, _, rfl⟩ := RunEventLog.append_eq_ok.mp happend
      have hrecord : Recounts start (w.record i (.appended event)) := by
        apply h.record i
        intro key before after hevent
        cases hevent
      exact hrecord.same rfl rfl (List.prefix_append _ _)
  | evidence operation =>
    apply Recounts.tick
    simp only [write_evidence]
    split
    · exact h
    · exact h.same rfl rfl List.prefix_rfl

/-- **Rows and trace tell the same story** under every schedule. -/
theorem reviewed_recounts (authority : ReviewAuthority P Q) (environment : ReviewEnvironment)
    (activities : ι → ReviewActivity P) (start : ReviewStart P Q)
    (events : List (Event ι)) :
    Recounts start (reviewed authority environment activities start events).world := by
  have hstart : Recounts start (reviewing authority activities start).world :=
    ⟨fun _ => rfl, each_nil, List.prefix_rfl⟩
  apply runEvents_invariant ?_ ?_ hstart
  · exact fun i o t ht => ht.perform i o
  · exact fun i t ht => ht.release i

end Accounts

/-! ## What is in a row has been put there -/

section Turns

variable {ι P Q : Type} {start : ReviewStart P Q} {w : ReviewWorld ι P Q}

/-- What is true of a row, and was not true of it at the start, has become true by an event. -/
theorem Recounts.turn (h : Recounts start w) {key : String}
    {p : Option (VersionedState Q) → Prop} (hbefore : ¬ p start.store[key]?)
    (hafter : p w.store[key]?) : ∃ earlier e later before after,
      w.trace = earlier ++ e :: later ∧ e.event = .committed key before after ∧ ¬ p before ∧
        p (some after) := by
  rw [h.rows key] at hafter
  obtain ⟨earlier, e, later, htrace, hnot, hturn⟩ := exists_turn hbefore hafter
  cases hevent : e.event with
  | committed key' before after =>
    by_cases hkey : key' = key
    · have hrow := h.commits earlier e later htrace key' before after hevent
      rw [hkey] at hrow hevent
      simp only [row_behind, hevent, if_pos] at hturn
      exact ⟨earlier, e, later, before, after, htrace, hevent, hrow ▸ hnot, hturn⟩
    · -- a write of another row changes nothing here
      simp only [row_behind, hevent, if_neg hkey] at hturn
      exact absurd hturn hnot
  | invoked request answer =>
    simp only [row_behind, hevent] at hturn
    exact absurd hturn hnot
  | appended event =>
    simp only [row_behind, hevent] at hturn
    exact absurd hturn hnot

variable [DecidableEq P] {authority : ReviewAuthority P Q} {controls : ι → Prop}

/-- The row behind writes that each go on by the rules is a later one. -/
theorem later_of_commits {key : String} {row : Option (VersionedState Q)}
    {trace : List (ReviewEntry ι Q)}
    (hsteps : ∀ e ∈ trace, ∀ before after, e.event = .committed key before after →
      RowStep authority before (some after))
    (hcommits : Each (fun earlier e => ∀ before after, e.event = .committed key before after →
      before = earlier.foldl (row_behind key) row) trace) :
    RowLater authority row (trace.foldl (row_behind key) row) := by
  induction trace using List.reverseRecOn with
  | nil => exact .refl
  | append_singleton trace e ih =>
    obtain ⟨hearlier, he⟩ := each_snoc.mp hcommits
    have hlater := ih (fun e' he' => hsteps e' (List.mem_append_left _ he')) hearlier
    rw [List.foldl_append]
    apply hlater.trans
    simp only [List.foldl_cons, List.foldl_nil]
    cases hevent : e.event with
    | committed key' before after =>
      by_cases hkey : key' = key
      · rw [hkey] at hevent
        have hrow := he before after hevent
        have hmem : e ∈ trace ++ [e] := List.mem_append_right _ (List.mem_singleton_self e)
        have hstep := hsteps e hmem before after hevent
        rw [← hrow]
        simp only [row_behind, hevent, if_pos]
        exact .single hstep
      · -- a write of another row
        simp only [row_behind, hevent, if_neg hkey]
        exact .refl
    | invoked request answer =>
      simp only [row_behind, hevent]
      exact .refl
    | appended event =>
      simp only [row_behind, hevent]
      exact .refl

/-- A row that is written over is a later one of the row at the start. -/
theorem Recounts.later_before (h : Recounts start w) (hinv : ReviewInv authority controls w)
    {earlier later : List (ReviewEntry ι Q)} {e : ReviewEntry ι Q}
    (htrace : w.trace = earlier ++ e :: later) {key : String}
    {before : Option (VersionedState Q)} {after : VersionedState Q}
    (hevent : e.event = .committed key before after) :
    RowLater authority start.store[key]? before := by
  rw [h.commits earlier e later htrace key before after hevent]
  apply later_of_commits
  · intro e' he' before' after' hevent'
    have hmem : e' ∈ w.trace := by
      rw [htrace]
      exact List.mem_append_left _ he'
    obtain ⟨_, _, _, hfits⟩ := hinv.history.of_mem hmem
    exact hfits.step key before' after' hevent'
  · intro earlier' e' later' hearlier before' after' hevent'
    apply h.commits earlier' e' (later' ++ e :: later) ?_ key before' after' hevent'
    rw [htrace, hearlier, List.append_assoc, List.cons_append]

/-- The rows at the end are later ones of the rows at the start. -/
theorem Recounts.later (h : Recounts start w) (hinv : ReviewInv authority controls w)
    (key : String) : RowLater authority start.store[key]? w.store[key]? := by
  rw [h.rows key]
  apply later_of_commits
  · intro e he before after hevent
    obtain ⟨_, _, _, hfits⟩ := hinv.history.of_mem he
    exact hfits.step key before after hevent
  · exact h.commits.mono fun _ _ _ hcommit before after => hcommit key before after

/-- The rows at the end are later ones of what has been written. -/
theorem Recounts.later_after (h : Recounts start w) (hinv : ReviewInv authority controls w)
    {earlier later : List (ReviewEntry ι Q)} {e : ReviewEntry ι Q}
    (htrace : w.trace = earlier ++ e :: later) {key : String}
    {before : Option (VersionedState Q)} {after : VersionedState Q}
    (hevent : e.event = .committed key before after) :
    RowLater authority (some after) w.store[key]? := by
  have hbehind : (earlier ++ [e]).foldl (row_behind key) start.store[key]? = some after := by
    simp [List.foldl_append, row_behind, hevent]
  have hsplit : w.trace = (earlier ++ [e]) ++ later := by
    rw [htrace, List.append_assoc, List.singleton_append]
  rw [h.rows key, hsplit, List.foldl_append, hbehind]
  apply later_of_commits
  · intro e' he' before' after' hevent'
    have hmem : e' ∈ w.trace := by
      rw [hsplit]
      exact List.mem_append_right _ he'
    obtain ⟨_, _, _, hfits⟩ := hinv.history.of_mem hmem
    exact hfits.step key before' after' hevent'
  · intro earlier' e' later' hlater before' after' hevent'
    have htrace' : w.trace = ((earlier ++ [e]) ++ earlier') ++ e' :: later' := by
      rw [hsplit, hlater, List.append_assoc (earlier ++ [e])]
    rw [h.commits _ e' later' htrace' key before' after' hevent', List.foldl_append, hbehind]

/-- What an event has written, by the rules and with the license for it. -/
theorem ReviewInv.written (h : ReviewInv authority controls w) {earlier later : List (ReviewEntry ι Q)}
    {e : ReviewEntry ι Q} (htrace : w.trace = earlier ++ e :: later) {key : String}
    {before : Option (VersionedState Q)} {after : VersionedState Q}
    (hevent : e.event = .committed key before after) :
    ReviewLater (review_of authority before) (review_of authority (some after)) ∧
      Licensed authority w.store earlier e (review_of authority before)
        (review_of authority (some after)) := by
  have hfits := h.history earlier e later htrace
  exact ⟨reviewLater_of_rowStep (hfits.step key before after hevent),
    hfits.licensed key before after hevent⟩

end Turns

end ReviewWorld

/-! ## Two controllers of one candidate -/

namespace IndependentReviewStateV1.ReviewedRun

open ReviewWorld
open EngineerVerifierStateV1.LocalRun (at_ digest coordinator claim_codec Payload)

abbrev Envelope := ExecutionRunEnvelope (EngineerVerifierStateV1 Payload) IndependentReviewStateV1

/-- Rows hold their envelopes, and lines of the log their events. -/
def loop_authority : ReviewAuthority Payload Envelope where
  sha256 := digests
  run_event := claim_codec.run_event
  phase_projection := claim_codec.phase_projection
  serde_json := ⟨.ok, .ok⟩
  evidence := Reset.codec
  cas_retry_limit := 1

/-- The executor never answers, and the database of the evidence never fails. -/
def surroundings : ReviewEnvironment where
  now := at_
  invoke _ _ := none
  begin_fails _ := none
  commit_fails _ := none
  busy := .CasWriteLost

def loop_input : ReviewAuditLoopInput where
  review_packet := review_packet .Fail
  auditor_invocation := role_invocation auditor
  audit_manifest := manifest auditor "audit" (digest 501)
  coordinator := coordinator
  repair_successor_run_id := none

/-- The first two callers drive the same candidate, and another one initializes its run. -/
def activities : ℕ → ReviewActivity Payload
  | 0 | 1 => .drive 4 loop_input
  | _ => .other (.op (.initialize_run "run" [loop_input.review_packet.task]
    ⟨ContractVersion.current, 1⟩) fun _ => pure ())

/-- The run of a candidate whose review has directed its repair. -/
def repaired_start : ReviewStart Payload Envelope where
  store := (∅ : VersionedStateStore Envelope).insert (entity_key "run")
    { revision := 0
      payload :=
        { contract_version := ContractVersion.current
          run_id := "run"
          tasks := ∅
          retry_budget := ⟨ContractVersion.current, 1⟩
          snapshot := ⟨"run", none, 1, ∅, ∅⟩
          engineer_verifier := none
          independent_review := some repaired } }
  evidence := .empty
  rows := []

/-- The first controller crashes, and the second goes on. -/
def turns : List (Event ℕ) := [.step 2, .step 0, .step 1, .crash 0, .step 1, .step 2, .step 1]

theorem loop_authority_serde_json : loop_authority.serde_json.RoundTrips := by
  intro envelope payload hwritten
  cases hwritten
  rfl

theorem loop_authority_run_event : loop_authority.run_event.RoundTrips := by
  intro event line hwritten
  cases hwritten
  rfl

end IndependentReviewStateV1.ReviewedRun

end OvcaCore

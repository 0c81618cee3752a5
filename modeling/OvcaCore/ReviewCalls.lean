/-
The rules of the operations and of the calls of the durable authority, for callers in a
world of reviews.

Each rule says from where a caller may go on behind the operation, and what it knows there.
A row that is loaded is the one of that time; a projection that is written is written over
exactly the row that was read, because its revision names it.
-/
import OvcaCore.ReviewSafety

set_option autoImplicit false

namespace OvcaCore

open OvcaCore.Checks OvcaCore.Interleaving EngineerVerifier DurableExecutionAuthority Relation

/-! ## Calls of the durable authority as parts of a program -/

section Parts

variable {P Q α β : Type}

theorem on_store_op (o : StoreOp Q) (next : o.Answer → StoreProg Q (Fault DurableExecutionError) α) :
    (on_store (.op o next) : ReviewAuditProg P Q α) = .op (.store o) fun a => on_store (next a) :=
  rfl

theorem on_store_bind (p : StoreProg Q (Fault DurableExecutionError) α)
    (f : α → StoreProg Q (Fault DurableExecutionError) β) :
    (on_store (p >>= f) : ReviewAuditProg P Q β) = on_store p >>= fun a => on_store (f a) :=
  Prog.embed_bind _ _ _ p f

theorem now_bind (f : DateTime → ReviewAuditProg P Q α) : (now >>= f) = .op .now f := rfl

theorem read_log_bind (f : List P → ReviewAuditProg P Q α) : (read_log >>= f) = .op .read_log f :=
  rfl

theorem invoke_bind (request : IndependentRoleExecutionRequest)
    (f : Option PersistedRoleExecutionOutcomeV1 → ReviewAuditProg P Q α) :
    (invoke request >>= f) = .op (.invoke request) f := rfl

theorem append_event_bind (event : RunEvent)
    (f : Except RunEventLogError Unit → ReviewAuditProg P Q α) :
    (append_event event >>= f) = .op (.append event) f := rfl

theorem load_row_bind (run_id : RunId) (f : VersionedState Q → ReviewAuditProg P Q α) :
    (on_store (load_row run_id) >>= f) = .op (.store (.load (entity_key run_id))) fun row =>
      on_store (.done (ok_or row (Fault.error (.RunNotFound run_id)))) >>= f := rfl

end Parts

/-- A projection writer that leaves the row has found its state in the row it expects. -/
theorem plan_swap_unchanged {E R Q S X : Type} [DecidableEq S]
    {a : DurableExecutionAuthority E R Q} {rules : ProjectionRules E S X}
    {slot : ProjectionSlot E R S X} {run_id : RunId} {revision : ℕ} {digest : Option String}
    {next : S} {row : VersionedState Q} {loaded : LoadedExecutionRun E R}
    (h : a.plan_swap rules slot run_id revision digest next row = .ok (.answer (.Unchanged loaded))) :
    a.decode_and_restore run_id row = .ok loaded ∧ loaded.revision = revision ∧
      slot.get loaded.envelope = some next := by
  simp only [plan_swap, bind_eq_ok] at h
  obtain ⟨found, hfound, h⟩ := h
  by_cases hstale : found.revision ≠ revision
      ∨ (slot.get found.envelope).map rules.state_digest ≠ digest
  · rw [if_pos hstale] at h
    cases pure_eq_ok.mp h
  · rw [if_neg hstale] at h
    simp only [bind_eq_ok] at h
    obtain ⟨_, _, h⟩ := h
    by_cases hsame : slot.get found.envelope = some next
    · rw [if_pos hsame] at h
      cases pure_eq_ok.mp h
      exact ⟨hfound, not_not.mp (not_or.mp hstale).1, hsame⟩
    · -- a state that differs is written
      rw [if_neg hsame] at h
      cases hget : slot.get found.envelope with
      | none =>
        simp only [hget, bind_eq_ok, pure_eq_ok] at h
        obtain ⟨_, _, _, _, _, _, h⟩ := h
        cases h
      | some previous =>
        simp only [hget, bind_eq_ok, pure_eq_ok] at h
        obtain ⟨_, _, _, _, _, _, h⟩ := h
        cases h

namespace ReviewWorld

section Rules

variable {ι P Q : Type} [DecidableEq ι] [DecidableEq P] {authority : ReviewAuthority P Q}
  {environment : ReviewEnvironment} {controls : ι → Prop} {i : ι} {w : ReviewWorld ι P Q}

/-- The caller may run this part of a program, and ends in `K` if it does not fail. -/
abbrev Runs {α : Type} (authority : ReviewAuthority P Q) (environment : ReviewEnvironment)
    (controls : ι → Prop) (i : ι) (K : α → ReviewWorld ι P Q → Prop) (p : ReviewAuditProg P Q α)
    (w : ReviewWorld ι P Q) : Prop :=
  (discipline authority controls).Runs (perform authority environment) i K p w

variable {α β : Type} {K : α → ReviewWorld ι P Q → Prop}

/-! ### Checks -/

theorem runs_checked_bind {x : Except ReviewAuditLoopError β} {f : β → ReviewAuditProg P Q α}
    (h : ∀ b, x = .ok b → Runs authority environment controls i K (f b) w) :
    Runs authority environment controls i K (ReviewAuditLoop.checked x >>= f) w := by
  apply Discipline.runs_check_bind
  intro b hb
  exact h b (lift_eq_ok.mp hb)

theorem runs_checked {x : Except ReviewAuditLoopError α}
    (h : ∀ a t, x = .ok a → Relies authority controls i w t → K a t) :
    Runs authority environment controls i K (ReviewAuditLoop.checked x) w := by
  apply Discipline.runs_done
  intro a t ha ht _
  exact h a t (lift_eq_ok.mp ha) ht

theorem runs_on_store_done_bind {x : Except (Fault DurableExecutionError) β}
    {f : β → ReviewAuditProg P Q α}
    (h : ∀ b, x = .ok b → Runs authority environment controls i K (f b) w) :
    Runs authority environment controls i K (on_store (.done x) >>= f) w := by
  apply Discipline.runs_check_bind
  intro b hb
  exact h b (mapError_eq_ok.mp hb)

/-! ### Operations -/

theorem runs_now_bind {f : DateTime → ReviewAuditProg P Q α}
    (h : ∀ at_ t, Relies authority controls i w t → ReviewInv authority controls t →
      Runs authority environment controls i K (f at_) t) :
    Runs authority environment controls i K (now >>= f) w := by
  rw [now_bind]
  apply Discipline.runs_op
  intro t ht hinv
  have hmay : May authority controls i t t.tick := may_tick hinv
  exact ⟨hmay, h _ _ (ht.trans (relies_tick i t)) hmay.allowed.1⟩

theorem runs_read_log_bind {f : List P → ReviewAuditProg P Q α}
    (h : ∀ t, Relies authority controls i w t → ReviewInv authority controls t →
      Runs authority environment controls i K (f t.rows) t) :
    Runs authority environment controls i K (read_log >>= f) w := by
  rw [read_log_bind]
  apply Discipline.runs_op
  intro t ht hinv
  have hmay : May authority controls i t t.tick := may_tick hinv
  exact ⟨hmay, h t.tick (ht.trans (relies_tick i t)) hmay.allowed.1⟩

theorem runs_load_row_bind {run_id : RunId} {f : VersionedState Q → ReviewAuditProg P Q α}
    (h : ∀ t row, Relies authority controls i w t → ReviewInv authority controls t →
      t.store[entity_key run_id]? = some row →
      Runs authority environment controls i K (f row) t) :
    Runs authority environment controls i K (on_store (load_row run_id) >>= f) w := by
  rw [load_row_bind]
  apply Discipline.runs_op
  intro t ht hinv
  have hmay : May authority controls i t t.tick := may_tick hinv
  rw [perform_load]
  refine ⟨hmay, ?_⟩
  cases hrow : t.store[entity_key run_id]? with
  | none => exact Discipline.runs_fail
  | some row => exact h t.tick row (ht.trans (relies_tick i t)) hmay.allowed.1 hrow

/-- The rule of loading a run. -/
theorem runs_load_bind {run_id : RunId} {f : LoadedReviewRun P → ReviewAuditProg P Q α}
    (h : ∀ t row loaded, Relies authority controls i w t → ReviewInv authority controls t →
      t.store[entity_key run_id]? = some row →
      authority.execution.decode_and_restore run_id row = .ok loaded →
      Runs authority environment controls i K (f loaded) t) :
    Runs authority environment controls i K (ReviewAuditLoop.load authority run_id >>= f) w := by
  unfold ReviewAuditLoop.load DurableExecutionAuthority.load
  rw [on_store_bind, Prog.assoc]
  apply runs_load_row_bind
  intro t row ht hinv hrow
  apply runs_on_store_done_bind
  intro loaded hloaded
  exact h t row loaded ht hinv hrow hloaded

/-! ### Writes -/

/-- What a caller writes over a row it has read: the next row by the rules, for which it has
the license. -/
structure MayWrite (authority : ReviewAuthority P Q) (i : ι)
    (t : ReviewWorld ι P Q) (key : String) (row row' : VersionedState Q) : Prop where
  step : RowStep authority (some row) (some row')
  licensed : Licensed authority t.store t.trace
    ⟨i, .committed key (some row) row', t.lease, t.evidence⟩ (review_of authority (some row))
    (review_of authority (some row'))

/-- The rule of a compare-and-swap on a row. -/
theorem runs_compare_and_swap {key : String} {revision : ℕ} {payload : Q}
    {next : Except VersionedStateError (CompareAndSwapOutcome Q) → ReviewAuditProg P Q α}
    (hwrite : ∀ t row, Relies authority controls i w t → ReviewInv authority controls t →
      t.store[key]? = some row → row.revision = revision →
      MayWrite authority i t key row ⟨payload, revision + 1⟩ ∧
        Runs authority environment controls i K (next (.ok (.Applied ⟨payload, revision + 1⟩)))
          (t.commit i key ⟨payload, revision + 1⟩))
    (hother : ∀ t answer, Relies authority controls i w t → ReviewInv authority controls t →
      (∀ state, answer ≠ .ok (.Applied state)) →
      (∀ current, answer = .ok (.Conflict current) → t.store[key]? = some current) →
        Runs authority environment controls i K (next answer) t) :
    Runs authority environment controls i K
      (.op (.store (.compare_and_swap key revision payload)) next) w := by
  apply Discipline.runs_op
  intro t ht hinv
  have hmay : May authority controls i t t.tick := may_tick hinv
  have ht' := ht.trans (relies_tick i t)
  rcases perform_compare_and_swap authority environment i t key revision payload with
    ⟨answer, hanswer, hperform, hcurrent⟩ | ⟨row, hrow, hrevision, hperform⟩
  · rw [hperform]
    exact ⟨hmay, hother t.tick answer ht' hmay.allowed.1 hanswer hcurrent⟩
  · rw [hperform]
    obtain ⟨⟨hstep, hlicensed⟩, hnext⟩ := hwrite t.tick row ht' hmay.allowed.1 hrow hrevision
    rw [← hrow] at hstep hlicensed
    exact ⟨hmay.trans (may_commit hmay.allowed.1 hstep hlicensed), hnext⟩

/-- The rule of a projection writer. It may write over the row it reads if it is the one of
the revision it expects, and goes on from the row it has written, from one that has its state
already, or from a conflict. -/
theorem runs_compare_and_swap_projection_bind {S X : Type} [DecidableEq S]
    (hround : authority.serde_json.RoundTrips)
    {rules : ProjectionRules (EngineerVerifierStateV1 P) S X}
    {slot : ProjectionSlot (EngineerVerifierStateV1 P) IndependentReviewStateV1 S X}
    {run_id : RunId} {revision : ℕ} {digest : Option String} {next : S}
    {f : ProjectionCasOutcome (EngineerVerifierStateV1 P) IndependentReviewStateV1 →
      ReviewAuditProg P Q α}
    (hwrite : ∀ t row loaded payload, Relies authority controls i w t →
      ReviewInv authority controls t → t.store[entity_key run_id]? = some row →
      authority.execution.decode_and_restore run_id row = .ok loaded → row.revision = revision →
      authority.execution.Swaps rules slot run_id digest next loaded.envelope payload →
      MayWrite authority i t (entity_key run_id) row ⟨payload, revision + 1⟩ ∧
        (authority.execution.decode_and_restore run_id ⟨payload, revision + 1⟩ =
            .ok ⟨slot.set loaded.envelope next, revision + 1⟩ →
          Runs authority environment controls i K
            (f (.Applied ⟨slot.set loaded.envelope next, revision + 1⟩))
            (t.commit i (entity_key run_id) ⟨payload, revision + 1⟩)))
    (hunchanged : ∀ t row loaded, Relies authority controls i w t →
      ReviewInv authority controls t → t.store[entity_key run_id]? = some row →
      authority.execution.decode_and_restore run_id row = .ok loaded → row.revision = revision →
      slot.get loaded.envelope = some next →
      Runs authority environment controls i K (f (.Unchanged loaded)) t)
    (hconflict : ∀ t loaded, Relies authority controls i w t → ReviewInv authority controls t →
      Runs authority environment controls i K (f (.Conflict loaded)) t) :
    Runs authority environment controls i K
      (on_store (authority.execution.compare_and_swap_projection rules slot run_id revision digest
        next) >>= f) w := by
  unfold compare_and_swap_projection
  rw [on_store_bind, Prog.assoc]
  apply runs_on_store_done_bind
  intro _ _
  rw [on_store_bind, Prog.assoc]
  apply runs_load_row_bind
  intro t row ht hinv hrow
  rw [on_store_bind, Prog.assoc]
  apply runs_on_store_done_bind
  intro plan hplan
  cases plan with
  | answer outcome =>
    cases outcome with
    | Applied loaded =>
      -- a plan never answers that it has written
      rcases plan_swap_eq_ok hplan with ⟨_, h | h⟩ | ⟨_, _, h, _⟩ <;> cases h
    | Unchanged loaded =>
      obtain ⟨hloaded, hrevision, hsame⟩ := plan_swap_unchanged hplan
      have hrow_revision := (decode_and_restore_eq_ok.mp hloaded).2.1
      exact hunchanged t row loaded ht hinv hrow hloaded (hrow_revision.symm.trans hrevision) hsame
    | Conflict loaded => exact hconflict t loaded ht hinv
  | swap payload =>
    rcases plan_swap_eq_ok hplan with ⟨_, h | h⟩ | ⟨loaded, payload', h, hloaded, hrevision, hswaps⟩
    · cases h
    · cases h
    · cases h
      have hrow_revision := (decode_and_restore_eq_ok.mp hloaded).2.1
      dsimp only
      rw [on_store_op]
      apply runs_compare_and_swap
      · intro u row' hu hinv' hrow' hrevision'
        -- a row of that revision is the one that was read
        have hsame : row' = row := by
          apply (hrow ▸ hu.rows (entity_key run_id)).same hrow'
          rw [hrevision', ← hrevision, hrow_revision]
        rw [hsame] at hrow' hrevision' ⊢
        obtain ⟨hmay, hnext⟩ := hwrite u row loaded payload (ht.trans hu) hinv' hrow' hloaded
          hrevision' hswaps
        refine ⟨hmay, ?_⟩
        have hdecode := decode_written hround hswaps.written hswaps.restores (revision + 1)
        dsimp only
        rw [hdecode]
        exact hnext hdecode
      · intro u answer hu hinv' hanswer _
        rcases answer with e | state | state
        · exact Discipline.runs_fail
        · exact absurd rfl (hanswer state)
        · dsimp only
          cases authority.execution.decode_and_restore run_id state with
          | error e => exact Discipline.runs_fail
          | ok found => exact hconflict u found (ht.trans hu) hinv'

/-! ### The commands of other writers -/

omit [DecidableEq ι] in
theorem rowStep_of_review (hround : authority.serde_json.RoundTrips) {run_id : RunId}
    {digest : Option String} {next : IndependentReviewStateV1} {row : VersionedState Q}
    {loaded : LoadedReviewRun P} {payload : Q}
    (hloaded : authority.execution.decode_and_restore run_id row = .ok loaded)
    (hswaps : authority.execution.Swaps authority.execution.independent_review
      independent_review_slot run_id digest next loaded.envelope payload) :
    RowStep authority (some row) (some ⟨payload, row.revision + 1⟩) := by
  have hread := (decode_and_restore_eq_ok.mp hloaded).1
  refine .next row _ loaded.envelope _ rfl hread (hround _ _ hswaps.written) ⟨?_, .kept rfl⟩
  exact .written next rfl hswaps.admits

omit [DecidableEq ι] in
theorem rowStep_of_engineer_verifier (hround : authority.serde_json.RoundTrips) {run_id : RunId}
    {digest : Option String} {next : EngineerVerifierStateV1 P} {row : VersionedState Q}
    {loaded : LoadedReviewRun P} {payload : Q}
    (hloaded : authority.execution.decode_and_restore run_id row = .ok loaded)
    (hswaps : authority.execution.Swaps authority.execution.engineer_verifier
      engineer_verifier_slot run_id digest next loaded.envelope payload) :
    RowStep authority (some row) (some ⟨payload, row.revision + 1⟩) := by
  have hread := (decode_and_restore_eq_ok.mp hloaded).1
  refine .next row _ loaded.envelope _ rfl hread (hround _ _ hswaps.written) ⟨.kept rfl, ?_⟩
  exact .written next rfl hswaps.admits

omit [DecidableEq ι] [DecidableEq P] in
/-- A write that leaves the review alone needs no license. -/
theorem licensed_of_same {store : VersionedStateStore Q} {earlier : List (ReviewEntry ι Q)}
    {entry : ReviewEntry ι Q} {before after : Option IndependentReviewStateV1}
    (hsame : after = before) : Licensed authority store earlier entry before after := by
  rw [hsame]
  refine ⟨?_, ?_, ?_⟩
  · rintro (⟨role, hnone, hsome⟩ | ⟨hnone, hsome⟩)
    · rw [hnone] at hsome
      cases hsome
    · rw [hnone] at hsome
      cases hsome
  · intro role outcome hnone hsome
    rw [hnone] at hsome
    cases hsome
  · intro hnone state hsome
    rw [hnone] at hsome
    cases hsome

omit [DecidableEq ι] in
/-- Another writer may write over a row what leaves its review alone. -/
theorem mayWrite_of_step {key : String} {row row' : VersionedState Q}
    {envelope envelope' :
      ExecutionRunEnvelope (EngineerVerifierStateV1 P) IndependentReviewStateV1}
    (hread : authority.serde_json.from_slice row.payload = .ok envelope)
    (hread' : authority.serde_json.from_slice row'.payload = .ok envelope')
    (hsame : envelope'.independent_review = envelope.independent_review)
    (hstep : RowStep authority (some row) (some row')) : MayWrite authority i w key row row' := by
  refine ⟨hstep, licensed_of_same ?_⟩
  rw [review_of_read hread, review_of_read hread', hsame]

/-- One round of a lifecycle command, when what it does on a conflict may be run. -/
theorem runs_apply_once (hround : authority.serde_json.RoundTrips)
    {run_id : RunId} {request : ExecutionRequest}
    {retry : VersionedState Q → StoreProg Q (Fault DurableExecutionError) DurableCommandResult}
    (hretry : ∀ row t, ReviewInv authority controls t → t.store[entity_key run_id]? = some row →
      Runs authority environment controls i (fun _ _ => True) (on_store (retry row)) t)
    {row : VersionedState Q} (hseen : w.store[entity_key run_id]? = some row) :
    Runs authority environment controls i (fun _ _ => True)
      (on_store (authority.execution.apply_once run_id request retry row)) w := by
  unfold apply_once
  cases hr : authority.execution.apply_round run_id request row with
  | error e => exact Discipline.runs_fail
  | ok round =>
    obtain ⟨loaded, k, k', response, hloaded, _, _, hcases⟩ := apply_round_eq_ok.mp hr
    obtain ⟨hread, hrevision, _⟩ := decode_and_restore_eq_ok.mp hloaded
    rw [Prog.liftM_eq, Prog.done_ok_bind]
    rcases hcases with ⟨_, rfl⟩ | ⟨_, payload, _, hwritten, rfl⟩
    · exact Discipline.runs_done fun _ _ _ _ _ => trivial
    · dsimp only
      rw [on_store_op]
      apply runs_compare_and_swap
      · intro t row' ht _ hrow' hrevision'
        have hsame : row' = row := by
          apply (hseen ▸ ht.rows (entity_key run_id)).same hrow'
          rw [hrevision', hrevision]
        rw [hsame, hrevision]
        -- only the snapshot is another one
        have hread' := hround _ _ hwritten
        refine ⟨mayWrite_of_step hread hread' rfl (.next row _ loaded.envelope _ rfl hread hread'
          ⟨.kept rfl, .kept rfl⟩), ?_⟩
        exact Discipline.runs_done fun _ _ _ _ _ => trivial
      · intro t answer _ hinv' hanswer hcurrent
        rcases answer with e | state | state
        · exact Discipline.runs_fail
        · exact absurd rfl (hanswer state)
        · exact hretry state t hinv' (hcurrent state rfl)

theorem runs_apply_loop (hround : authority.serde_json.RoundTrips)
    {run_id : RunId} {request : ExecutionRequest} (remaining : ℕ) {row : VersionedState Q}
    (hinv : ReviewInv authority controls w) (hseen : w.store[entity_key run_id]? = some row) :
    Runs authority environment controls i (fun _ _ => True)
      (on_store (authority.execution.apply_loop run_id request remaining row)) w := by
  induction remaining generalizing row w with
  | zero =>
    apply runs_apply_once hround ?_ hseen
    exact fun _ _ _ _ => Discipline.runs_fail
  | succ remaining ih =>
    apply runs_apply_once hround ?_ hseen
    exact fun row' t hinv' hseen' => ih hinv' hseen'

theorem runs_initialize_run (hround : authority.serde_json.RoundTrips)
    (run_id : RunId) (tasks : List Task) (retry_budget : RetryBudget) :
    Runs authority environment controls i (fun _ _ => True)
      (on_store (authority.execution.initialize_run run_id tasks retry_budget)) w := by
  unfold initialize_run
  cases hp : authority.execution.prepare_run run_id tasks retry_budget with
  | error e => exact Discipline.runs_fail
  | ok prepared =>
    obtain ⟨envelope, payload⟩ := prepared
    simp only [prepare_run, bind_eq_ok, lift_eq_ok, mapError_eq_ok, to_vec, pure_eq_ok,
      Prod.mk.injEq] at hp
    obtain ⟨k, _, _, _, payload, hwritten, rfl, rfl⟩ := hp
    rw [Prog.liftM_eq, Prog.done_ok_bind, on_store_op]
    apply Discipline.runs_op
    intro t ht hinv
    have hmay : May authority controls i t t.tick := may_tick hinv
    rcases perform_initialize authority environment i t (entity_key run_id) payload with
      ⟨row, hrow, hperform⟩ | ⟨hnone, hperform⟩
    · rw [hperform]
      exact ⟨hmay, Discipline.runs_done fun _ _ _ _ _ => trivial⟩
    · rw [hperform]
      -- the first row has no review
      have hstep : RowStep authority t.tick.store[entity_key run_id]? (some ⟨payload, 0⟩) := by
        rw [show t.tick.store[entity_key run_id]? = none from hnone]
        exact .first _ _ (hround _ _ hwritten) rfl rfl
      have hsame : review_of authority (some ⟨payload, 0⟩) =
          review_of authority t.tick.store[entity_key run_id]? := by
        have hread : authority.serde_json.from_slice payload =
            .ok (initial_envelope run_id tasks retry_budget k) := hround _ _ hwritten
        have hfirst : review_of authority (some ⟨payload, 0⟩) =
            (initial_envelope run_id tasks retry_budget k).independent_review := review_of_read hread
        have hnothing : t.tick.store[entity_key run_id]? = none := hnone
        rw [hfirst, hnothing]
        rfl
      have hlicensed : Licensed authority t.tick.store t.tick.trace
          ⟨i, .committed (entity_key run_id) t.tick.store[entity_key run_id]? ⟨payload, 0⟩,
            t.tick.lease, t.tick.evidence⟩
          (review_of authority t.tick.store[entity_key run_id]?)
          (review_of authority (some ⟨payload, 0⟩)) := licensed_of_same hsame
      have hcommit := may_commit hmay.allowed.1 hstep hlicensed
      exact ⟨hmay.trans hcommit, Discipline.runs_done fun _ _ _ _ _ => trivial⟩

theorem runs_lifecycle (hround : authority.serde_json.RoundTrips) (run_id : RunId)
    (request : ExecutionRequest) :
    Runs authority environment controls i (fun _ _ => True)
      (on_store (authority.execution.apply run_id request)) w := by
  unfold apply
  rw [on_store_bind]
  apply runs_load_row_bind
  intro t row _ hinv hrow
  exact runs_apply_loop hround _ hinv hrow

theorem runs_engineer_verifier (hround : authority.serde_json.RoundTrips) (run_id : RunId)
    (revision : ℕ) (digest : Option String) (next : EngineerVerifierStateV1 P) :
    Runs authority environment controls i (fun _ _ => True)
      (on_store (authority.execution.compare_and_swap_engineer_verifier run_id revision digest
        next)) w := by
  unfold compare_and_swap_engineer_verifier
  rw [← Prog.bind_pure (on_store _)]
  apply runs_compare_and_swap_projection_bind hround
  · intro t row loaded payload _ _ _ hloaded hrevision hswaps
    have hread := (decode_and_restore_eq_ok.mp hloaded).1
    have hread' := hround _ payload hswaps.written
    have hstep := rowStep_of_engineer_verifier hround hloaded hswaps
    rw [hrevision] at hstep
    exact ⟨mayWrite_of_step hread hread' rfl hstep, fun _ =>
      Discipline.runs_done fun _ _ _ _ _ => trivial⟩
  · exact fun _ _ _ _ _ _ _ _ _ => Discipline.runs_done fun _ _ _ _ _ => trivial
  · exact fun _ _ _ _ => Discipline.runs_done fun _ _ _ _ _ => trivial

end Rules

/-! ## What a controller knows -/

section Knowledge

variable {ι P Q : Type} [DecidableEq P] {authority : ReviewAuthority P Q} {controls : ι → Prop}
  {i : ι} {w w' : ReviewWorld ι P Q}

/-- The run has been in the table as it was loaded. -/
def Seen (authority : ReviewAuthority P Q) (w : ReviewWorld ι P Q) (run_id : RunId)
    (loaded : LoadedReviewRun P) : Prop :=
  ∃ row, RowLater authority (some row) w.store[entity_key run_id]? ∧
    authority.execution.decode_and_restore run_id row = .ok loaded

theorem Seen.onward {run_id : RunId} {loaded : LoadedReviewRun P}
    (h : Seen authority w run_id loaded) (hon : Onward authority w w') :
    Seen authority w' run_id loaded := by
  obtain ⟨row, hlater, hloaded⟩ := h
  exact ⟨row, hlater.trans (hon.rows _), hloaded⟩

/-- What has been read of a row is its review. -/
theorem review_of_loaded {run_id : RunId} {row : VersionedState Q} {loaded : LoadedReviewRun P}
    (h : authority.execution.decode_and_restore run_id row = .ok loaded) :
    review_of authority (some row) = loaded.envelope.independent_review :=
  review_of_read (decode_and_restore_eq_ok.mp h).1

/-- The caller has the lease, and the evidence of the packet is current. -/
structure Holds (i : ι) (w : ReviewWorld ι P Q) (packet : ReviewPacketV1) : Prop where
  lease : w.lease = some i
  warrants : Warrants w.evidence packet

theorem Holds.relies {packet : ReviewPacketV1} (h : Holds i w packet)
    (hrelies : Relies authority controls i w w') : Holds i w' packet where
  lease := hrelies.lease h.lease
  warrants := by
    rw [hrelies.evidence h.lease]
    exact h.warrants

/-- The caller has replaced the review of a run; where that started a call, it has begun it. -/
structure Replaced (authority : ReviewAuthority P Q) (i : ι) (w : ReviewWorld ι P Q)
    (run_id : RunId) (review : Option IndependentReviewStateV1) (next : IndependentReviewStateV1)
    (loaded : LoadedReviewRun P) : Prop where
  seen : Seen authority w run_id loaded
  written : loaded.envelope.independent_review = some next
  begun : ∀ request, request.run_id = run_id → started request.role review = none →
    started request.role (some next) = some request → Begun authority i w request

theorem Replaced.later {run_id : RunId} {review : Option IndependentReviewStateV1}
    {next : IndependentReviewStateV1} {loaded : LoadedReviewRun P}
    (h : Replaced authority i w run_id review next loaded) (hlater : Later authority i w w') :
    Replaced authority i w' run_id review next loaded where
  seen := h.seen.onward hlater.toOnward
  written := h.written
  begun request hrun hbefore hafter := (h.begun request hrun hbefore hafter).later hlater

/-- Whoever writes the start of a call has begun it. -/
theorem begun_commit (hinv : ReviewInv authority controls w) {row row' : VersionedState Q}
    {request : IndependentRoleExecutionRequest}
    (hrow : w.store[entity_key request.run_id]? = some row)
    (hbefore : started request.role (review_of authority (some row)) = none)
    (hafter : started request.role (review_of authority (some row')) = some request) :
    Begun authority i (w.commit i (entity_key request.run_id) row') request := by
  have htrace : (w.commit i (entity_key request.run_id) row').trace =
      w.trace ++ [⟨i, .committed (entity_key request.run_id) (some row) row', w.lease,
        w.evidence⟩] := by
    rw [← hrow]
    rfl
  refine ⟨⟨_, htrace ▸ List.mem_append_right _ (List.mem_singleton_self _), rfl, some row, row',
    rfl, hbefore, hafter⟩, fun e he _ request' answer hevent hsame => ?_⟩
  rw [htrace] at he
  rcases List.mem_append.mp he with he | he
  · -- an earlier invocation would have its start in the row
    obtain ⟨earlier, later, hearlier, hfits⟩ := hinv.history.of_mem he
    obtain ⟨start, hstart, _, hstarts⟩ := hfits.bound request' answer hevent
    have hmem : start ∈ w.trace := by
      rw [hearlier]
      exact List.mem_append_left _ hstart
    have hsome := hinv.started start hmem _ _ hstarts.starts
    rw [hsame.1, hsame.2, hrow, hbefore] at hsome
    cases hsome
  · rw [List.mem_singleton.mp he] at hevent
    cases hevent

end Knowledge

section ControllerRules

variable {ι P Q : Type} [DecidableEq ι] [DecidableEq P] {authority : ReviewAuthority P Q}
  {environment : ReviewEnvironment} {controls : ι → Prop} {i : ι} {w : ReviewWorld ι P Q}
  {α : Type} {K : α → ReviewWorld ι P Q → Prop}

/-- The rule of writing the review of a run that has been loaded. -/
theorem runs_replace_bind (hround : authority.serde_json.RoundTrips) {run_id : RunId}
    {loaded : LoadedReviewRun P} {review : Option IndependentReviewStateV1}
    {next : IndependentReviewStateV1} {digest : Option String}
    {f : ProjectionCasOutcome (EngineerVerifierStateV1 P) IndependentReviewStateV1 →
      ReviewAuditProg P Q α}
    (hseen : Seen authority w run_id loaded)
    (hreview : loaded.envelope.independent_review = review)
    (hlicensed : ∀ t event, Relies authority controls i w t → ReviewInv authority controls t →
      Licensed authority t.store t.trace ⟨i, event, t.lease, t.evidence⟩ review (some next))
    (hdone : ∀ t outcome, Onward authority w t → ReviewInv authority controls t →
      (∀ loaded', ReviewAuditLoop.swapped outcome = some loaded' →
        Replaced authority i t run_id review next loaded') →
      Runs authority environment controls i K (f outcome) t) :
    Runs authority environment controls i K
      (on_store (authority.execution.compare_and_swap_independent_review run_id loaded.revision
        digest next) >>= f) w := by
  obtain ⟨seen, hlater, hloaded⟩ := hseen
  -- the row that is read at the revision of the loaded run is the loaded one
  have hsame : ∀ {t : ReviewWorld ι P Q} {row : VersionedState Q} {found : LoadedReviewRun P},
      Relies authority controls i w t → t.store[entity_key run_id]? = some row →
      authority.execution.decode_and_restore run_id row = .ok found →
      row.revision = loaded.revision → found = loaded := by
    intro t row found ht hrow hfound hrevision
    have hrow_eq : row = seen := by
      apply RowLater.same (hlater.trans (ht.rows (entity_key run_id))) hrow
      rw [hrevision, (decode_and_restore_eq_ok.mp hloaded).2.1]
    rw [hrow_eq, hloaded] at hfound
    exact (Except.ok.inj hfound).symm
  unfold compare_and_swap_independent_review
  apply runs_compare_and_swap_projection_bind hround
  · intro t row found payload ht hinv hrow hfound hrevision hswaps
    have hfound_eq := hsame ht hrow hfound hrevision
    have hbefore : review_of authority (some row) = review := by
      rw [review_of_loaded hfound, hfound_eq, hreview]
    have hwritten : authority.serde_json.to_vec
        (independent_review_slot.set found.envelope next) = .ok payload := hswaps.written
    have hread : authority.serde_json.from_slice payload =
        .ok (independent_review_slot.set found.envelope next) := hround _ payload hwritten
    have hafter : review_of authority (some ⟨payload, loaded.revision + 1⟩) = some next := by
      rw [review_of_read hread]
      rfl
    have hstep := rowStep_of_review hround hfound hswaps
    rw [hrevision] at hstep
    have hwrite : MayWrite authority i t (entity_key run_id) row
        ⟨payload, loaded.revision + 1⟩ := by
      refine ⟨hstep, ?_⟩
      rw [hbefore, hafter]
      exact hlicensed t _ ht hinv
    refine ⟨hwrite, fun hdecode => ?_⟩
    rw [← hrow] at hstep
    have hcommit := may_commit hinv hstep (by rw [hrow]; exact hwrite.licensed)
    apply hdone _ _ (ht.toOnward.trans hcommit.on) hcommit.allowed.1
    intro loaded' hloaded'
    cases hloaded'
    refine ⟨⟨_, ?_, hdecode⟩, rfl, ?_⟩
    · rw [show (t.commit i (entity_key run_id) ⟨payload, loaded.revision + 1⟩).store[
        entity_key run_id]? = _ from Std.ExtTreeMap.getElem?_insert_self]
    · rintro request rfl hnone hsome
      apply begun_commit hinv hrow
      · rw [hbefore]
        exact hnone
      · rw [hafter]
        exact hsome
  · intro t row found ht hinv hrow hfound hrevision hget
    have hfound_eq := hsame ht hrow hfound hrevision
    apply hdone t _ ht.toOnward hinv
    intro loaded' hloaded'
    cases hloaded'
    refine ⟨⟨row, ?_, hfound⟩, hget, ?_⟩
    · rw [hrow]
    · -- the review is already the next one, so nothing starts
      intro request _ hnone hsome
      have hnext : review = some next := by
        rw [← hreview, ← hfound_eq]
        exact hget
      rw [hnext, hsome] at hnone
      cases hnone
  · intro t found ht hinv
    apply hdone t _ ht.toOnward hinv
    intro loaded' hloaded'
    cases hloaded'

/-- The rule of the lease. The callback has it, and its one bundle is the current one of the
store; what it ends in is known further on, whatever the others do. -/
theorem runs_with_lease {key : EvidenceKey}
    {callback : CompletionAdmissionSnapshot → ReviewAuditProg P Q α}
    (hK : ∀ a t t', Later authority i t t' → K a t → K a t')
    (h : ∀ t snapshot bundle, Later authority i w t → ReviewInv authority controls t →
      t.lease = some i → snapshot.bundles = [bundle] → t.evidence.HoldsCurrent key bundle →
      Runs authority environment controls i K (callback snapshot) t) :
    Runs authority environment controls i K (with_completion_admission_lease [key] callback) w := by
  apply Discipline.runs_op
  intro u hu hinv
  rcases begin_lease_cases authority.evidence environment i [key] u with
    ⟨e, hbegin⟩ | ⟨snapshot, hfree, hsnapshot, hbegin⟩
  · simp only [perform, hbegin]
    exact ⟨may_tick hinv, Discipline.runs_fail⟩
  · simp only [perform, hbegin]
    have htake : May authority controls i u { u with lease := some i } := may_take hinv hfree
    have hmay := htake.trans (may_tick htake.allowed.1)
    have hlater : Later authority i w ({ u with lease := some i } : ReviewWorld ι P Q).tick := by
      have hsame : Same u ({ u with lease := some i } : ReviewWorld ι P Q).tick := ⟨rfl, rfl, rfl⟩
      exact hu.toLater.trans (hsame.later i)
    obtain ⟨bundle, hbundle, hcurrent⟩ := LocalVerificationStore.snapshot_of_key hsnapshot
    refine ⟨hmay, (h _ snapshot bundle hlater hmay.allowed.1 rfl hbundle hcurrent).attempt_bind
      hmay.allowed.1 fun r t _ hinv' hr => ?_⟩
    -- the lease is given back, and the answer of the callback is the answer
    have hback : ∀ v : ReviewWorld ι P Q, ReviewInv authority controls v →
        May authority controls i v (v.release i).tick := by
      intro v hv
      have hrelease : May authority controls i v (v.release i) := may_release hv
      exact hrelease.trans (may_tick hrelease.allowed.1)
    cases r with
    | error e =>
      apply Discipline.runs_op
      exact fun v _ hv => ⟨hback v hv, Discipline.runs_fail⟩
    | ok value =>
      apply Discipline.runs_op
      intro v hv hinv_v
      refine ⟨hback v hinv_v, ?_⟩
      have hlater_v : Later authority i t (v.release i).tick := by
        have hsame : Same v (v.release i).tick :=
          ⟨(same_release i v).store, (same_release i v).rows, (same_release i v).trace⟩
        exact hv.toLater.trans (hsame.later i)
      simp only [perform]
      cases environment.commit_fails v.ticks with
      | some e => exact Discipline.runs_fail
      | none =>
        apply Discipline.runs_pure
        intro v' hv' _
        exact hK value t v' (hlater_v.trans hv'.toLater) (hr value rfl)

/-- The rule of asking the executor: the call has been begun, and what it answers is in the
trace. -/
theorem runs_invoke_bind {request : IndependentRoleExecutionRequest}
    {f : Option PersistedRoleExecutionOutcomeV1 → ReviewAuditProg P Q α}
    (hbegun : Begun authority i w request)
    (h : ∀ answer t, Onward authority w t → ReviewInv authority controls t →
      (∃ e ∈ t.trace, e.caller = i ∧ e.event = .invoked request answer) →
      Runs authority environment controls i K (f answer) t) :
    Runs authority environment controls i K (invoke request >>= f) w := by
  rw [invoke_bind]
  apply Discipline.runs_op
  intro t ht hinv
  have hinvoke := may_invoke hinv (hbegun.later ht.toLater) (environment.invoke t.ticks request)
  have hmay := hinvoke.trans (may_tick hinvoke.allowed.1)
  refine ⟨hmay, h _ _ (ht.toOnward.trans hmay.on) hmay.allowed.1 ?_⟩
  exact ⟨_, List.mem_append_right _ (List.mem_singleton_self _), rfl, rfl⟩

/-- The rule of appending an event. The lease and the evidence stay as they are. -/
theorem runs_append_event_bind (hround : authority.run_event.RoundTrips) {event : RunEvent}
    {f : Except RunEventLogError Unit → ReviewAuditProg P Q α}
    (hmay : controls i → ∀ t, Relies authority controls i w t → ReviewInv authority controls t →
      MayAppend authority controls i t event)
    (h : ∀ answer t, Onward authority w t → ReviewInv authority controls t →
      (∀ packet, Holds i w packet → Holds i t packet) →
      Runs authority environment controls i K (f answer) t) :
    Runs authority environment controls i K (append_event event >>= f) w := by
  rw [append_event_bind]
  apply Discipline.runs_op
  intro t ht hinv
  simp only [perform, append]
  cases happend : authority.log.append t.rows event with
  | error e =>
    have hmay_tick : May authority controls i t t.tick := may_tick hinv
    refine ⟨hmay_tick, h _ _ (ht.toOnward.trans hmay_tick.on) hmay_tick.allowed.1 ?_⟩
    intro packet hholds
    exact hholds.relies (ht.trans (relies_tick i t))
  | ok rows =>
    obtain ⟨line, hline, rfl⟩ := RunEventLog.append_eq_ok.mp happend
    have hread : authority.codec.run_event.from_slice line = .ok event := hround event line hline
    have happended := may_append hinv hread fun hcontrols => hmay hcontrols t ht hinv
    have hgoes := happended.trans (may_tick happended.allowed.1)
    refine ⟨hgoes, h _ _ (ht.toOnward.trans hgoes.on) hgoes.allowed.1 ?_⟩
    intro packet hholds
    exact ⟨(hholds.relies ht).lease, (hholds.relies ht).warrants⟩

end ControllerRules

end ReviewWorld

end OvcaCore

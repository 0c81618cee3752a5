/-
The order in which evidence is recorded.

Replay keeps the recorded evidence in a list and hands that list to the review
gate, which wants it sorted. Apart from that one reader neither the order of the
evidence nor the place of an event in the chain matters: states that differ in
nothing else (`Similar`) take the same events to similar states. So a block of
evidence can be recorded in any other order, unless a review decision is judged
behind it (`evidence_block_order`).
-/
import OvcaCore.AfterCompletion

set_option autoImplicit false

namespace OvcaCore

open OvcaCore.Checks OvcaCore.RunTransition OvcaCore.ReviewAudit

namespace Replay

variable {goal : Option GoalContract} {declared_tasks : BTreeSet TaskId}
  {state state' next : ReplayState} {event event' : RunEvent}

/-! ## What the steps do not read -/

/-- An event without its place in the chain. -/
def unchained (event : RunEvent) : RunEvent :=
  { event with id := "", sequence := 0, previous_event_id := none }

/-- A state without what counts and dates its events and without the ids of its
evidence, and with another catalog. -/
def unordered (evidence_references : List EvidenceRef) (state : ReplayState) : ReplayState :=
  { state with
    evidence_references := evidence_references
    run_record := { state.run_record with
      event_count := 0
      last_event_sequence := none
      last_event_id := none
      updated_at := 0
      evidence_refs := [] } }

/-- States that differ in the order of their evidence, and in what counts and
dates their events. -/
structure Similar (state state' : ReplayState) : Prop where
  same : unordered [] state = unordered [] state'
  catalog : state.evidence_references.Perm state'.evidence_references
  evidence_refs : state.run_record.evidence_refs.Perm state'.run_record.evidence_refs

theorem Similar.refl (state : ReplayState) : Similar state state :=
  ⟨rfl, List.Perm.refl _, List.Perm.refl _⟩

theorem Similar.trans {s s' s'' : ReplayState} (h : Similar s s') (h' : Similar s' s'') :
    Similar s s'' :=
  ⟨h.same.trans h'.same, h.catalog.trans h'.catalog, h.evidence_refs.trans h'.evidence_refs⟩

/-- Similar states have one review, and have seen the same evidence. -/
theorem Similar.review_decisions (h : Similar state state') :
    state.review_decisions = state'.review_decisions := by
  have hreviews := congrArg (fun s => s.review_decisions) h.same
  exact hreviews

theorem Similar.evidence_ids (h : Similar state state') :
    state.evidence_ids = state'.evidence_ids := by
  have hids := congrArg ReplayState.evidence_ids h.same
  exact hids

theorem Similar.unordered_eq (h : Similar state state') (l : List EvidenceRef) :
    unordered l state = unordered l state' := by
  have hcatalogs := congrArg (unordered l) h.same
  exact hcatalogs

/-! ## A step from similar states -/

theorem plan_task_eq_ok {sequence : ℕ} {planned planned' : BTreeSet TaskId} {task_id : TaskId} :
    plan_task sequence declared_tasks planned task_id = .ok planned' ↔
      task_id ∈ declared_tasks ∧ task_id ∉ planned ∧ planned.insert task_id = planned' := by
  simp only [plan_task, bind_eq_ok, reject_if_eq_ok, exists_const, pure_eq_ok, not_not]

/-- The sequence of an event occurs in the errors about its plan only. -/
theorem validate_execution_plan_sequence {sequence : ℕ} {plan : ExecutionPlan} {u : Unit} :
    validate_execution_plan sequence plan declared_tasks = .ok u ↔
      validate_execution_plan 0 plan declared_tasks = .ok u := by
  have htask : ∀ planned task_id planned',
      plan_task sequence declared_tasks planned task_id = .ok planned' ↔
        plan_task 0 declared_tasks planned task_id = .ok planned' := by
    intro planned task_id planned'
    rw [plan_task_eq_ok, plan_task_eq_ok]
  have hwave : ∀ planned wave planned',
      plan_wave sequence declared_tasks planned wave = .ok planned' ↔
        plan_wave 0 declared_tasks planned wave = .ok planned' := by
    intro planned wave planned'
    simp only [plan_wave, bind_eq_ok, reject_if_eq_ok]
    rw [fold_checked_congr_ok fun p t _ p' => htask p t p']
  simp only [validate_execution_plan, bind_eq_ok, check_some_eq_ok]
  refine exists_congr fun planned => and_congr ?_ ?_
  · exact fold_checked_congr_ok fun p w _ p' => hwave p w p'
  · exact forall_congr' fun task_id => by simp

/-- The completion check reads the catalog only to judge a review. -/
theorem check_completion_unordered {sequence : ℕ} {l : List EvidenceRef}
    (hl : state.evidence_references = l ∨ state.review_decisions = []) {u : Unit} :
    check_completion goal state sequence = .ok u ↔
      check_completion goal (unordered l state) 0 = .ok u := by
  have hevaluate : ∀ contract evidence, evaluate_run state.toReplayedRun contract evidence
      = evaluate_run (unordered l state).toReplayedRun contract evidence := by
    intro contract evidence
    rcases hl with rfl | hnone
    · rfl
    · have hnone' : (unordered l state).review_decisions = [] := hnone
      unfold evaluate_run
      rw [hnone, hnone']
      rfl
  simp only [check_completion, bind_eq_ok, ok_or_eq_ok, check_all_eq_ok, reject_if_eq_ok,
    mapError_eq_ok, hevaluate]
  exact Iff.rfl

/-- What an event has to satisfy, without what is not read. -/
theorem admissible_unordered {l : List EvidenceRef}
    (hl : completes event = true →
      state.evidence_references = l ∨ state.review_decisions = []) :
    Admissible goal declared_tasks state event ↔
      Admissible goal declared_tasks (unordered l state) (unchained event) := by
  have hpayload : (unchained event).payload = event.payload := rfl
  unfold Admissible
  rw [hpayload]
  cases hcase : event.payload with
  | ExecutionPlanRecorded plan =>
    exact and_congr Iff.rfl (and_congr Iff.rfl validate_execution_plan_sequence)
  | StatusTransition from_ to_ =>
    refine and_congr Iff.rfl (and_congr Iff.rfl ?_)
    refine forall_congr' fun hto => ?_
    have hcompletes : completes event = true := completes_iff.mpr ⟨from_, by rw [hcase, hto]⟩
    exact check_completion_unordered (hl hcompletes)
  | _ => exact Iff.rfl

theorem attach_evidence_unordered {l : List EvidenceRef} {evidence_id : EvidenceId} :
    unordered l (attach_evidence state evidence_id)
      = unordered l (attach_evidence (unordered [] state) evidence_id) := by
  unfold attach_evidence
  by_cases h : evidence_id ∈ state.evidence_ids
  · rw [if_pos h, if_pos (show evidence_id ∈ (unordered [] state).evidence_ids from h)]
    rfl
  · rw [if_neg h, if_neg (show ¬ evidence_id ∈ (unordered [] state).evidence_ids from h)]
    rfl

/-- What an event changes, without what is not read. -/
theorem updated_unordered (state : ReplayState) (event : RunEvent) :
    unordered [] (count_event (updated state event) event)
      = unordered [] (updated (unordered [] state) (unchained event)) := by
  have hpayload : (unchained event).payload = event.payload := rfl
  have hcounted : unordered [] (count_event (updated state event) event)
      = unordered [] (updated state event) := rfl
  rw [hcounted]
  unfold updated
  rw [hpayload]
  cases event.payload with
  | EvidenceAttached evidence_id => exact attach_evidence_unordered
  | _ => rfl

theorem attach_evidence_refs (evidence_id : EvidenceId) :
    (attach_evidence state evidence_id).run_record.evidence_refs
      = state.run_record.evidence_refs
        ++ (if evidence_id ∈ state.evidence_ids then [] else [evidence_id]) := by
  unfold attach_evidence
  by_cases h : evidence_id ∈ state.evidence_ids
  · rw [if_pos h, if_pos h, List.append_nil]
  · rw [if_neg h, if_neg h]

/-- The ids that an event adds to the run record depend on those seen so far. -/
theorem updated_evidence_refs (h : state.evidence_ids = state'.evidence_ids)
    (hevent : event.payload = event'.payload) :
    ∃ added, (updated state event).run_record.evidence_refs
        = state.run_record.evidence_refs ++ added ∧
      (updated state' event').run_record.evidence_refs
        = state'.run_record.evidence_refs ++ added := by
  unfold updated
  rw [← hevent]
  cases event.payload with
  | EvidenceReferenceRecorded evidence => exact ⟨[evidence.id], rfl, rfl⟩
  | EvidenceAttached evidence_id =>
    refine ⟨_, attach_evidence_refs evidence_id, ?_⟩
    rw [h]
    exact attach_evidence_refs evidence_id
  | _ => exact ⟨[], (List.append_nil _).symm, (List.append_nil _).symm⟩

/-- The step lemma: similar states accept the same events, and stay similar. The
completion of a reviewed run is the exception, which wants one catalog. -/
theorem Similar.step (h : Similar state state') (hevent : unchained event = unchained event')
    (hadmissible : Admissible goal declared_tasks state event)
    (hcompletes : completes event = true →
      state.evidence_references = state'.evidence_references ∨ state.review_decisions = []) :
    Admissible goal declared_tasks state' event' ∧
      Similar (count_event (updated state event) event)
        (count_event (updated state' event') event') := by
  have hpayload : (unchained event).payload = (unchained event').payload := by rw [hevent]
  replace hpayload : event.payload = event'.payload := hpayload
  have hcompletes' : completes event' = completes event := by
    rw [completes, completes, hpayload]
  refine ⟨?_, ?_, ?_, ?_⟩
  · by_cases hsame : state.evidence_references = state'.evidence_references
    · refine (admissible_unordered (l := state.evidence_references) fun _ => ?_).mpr ?_
      · exact Or.inl hsame.symm
      · rw [← h.unordered_eq, ← hevent]
        exact (admissible_unordered fun _ => Or.inl rfl).mp hadmissible
    · -- nothing is reviewed when the event completes the run
      have hnone : completes event = true → state.review_decisions = [] :=
        fun hc => (hcompletes hc).resolve_left hsame
      refine (admissible_unordered (l := []) fun hc => ?_).mpr ?_
      · rw [hcompletes'] at hc
        rw [← h.review_decisions]
        exact Or.inr (hnone hc)
      · rw [← h.unordered_eq, ← hevent]
        exact (admissible_unordered fun hc => Or.inr (hnone hc)).mp hadmissible
  · rw [updated_unordered, updated_unordered, h.same, hevent]
  · have hrecorded : evidence_recorded event = evidence_recorded event' := by
      rw [evidence_recorded, evidence_recorded, hpayload]
    show (updated state event).evidence_references.Perm (updated state' event').evidence_references
    rw [updated_catalog, updated_catalog, hrecorded]
    exact h.catalog.append_right _
  · show (updated state event).run_record.evidence_refs.Perm
      (updated state' event').run_record.evidence_refs
    obtain ⟨added, hadded, hadded'⟩ := updated_evidence_refs h.evidence_ids hpayload
    rw [hadded, hadded']
    exact h.evidence_refs.append_right added

/-! ## Runs from similar states -/

/-- No event completes a run of which a review is recorded in front of it. -/
def Unreviewed (past events : List RunEvent) : Prop :=
  ∀ earlier event later, events = earlier ++ event :: later → completes event = true →
    (past ++ earlier).filterMap review_recorded = []

theorem Unreviewed.tail {past rest : List RunEvent} (h : Unreviewed past (event :: rest)) :
    Unreviewed (past ++ [event]) rest := by
  intro earlier e later hrest hcompletes
  rw [List.append_assoc]
  exact h (event :: earlier) e later (by rw [hrest]; rfl) hcompletes

/-- The run lemma: similar states take the same events to similar states, with
one catalog or with no review to judge it. -/
theorem Similar.fold {past events events' : List RunEvent} (h : Similar state state')
    (hevents : events.map unchained = events'.map unchained)
    (hpast : state.review_decisions = past.filterMap review_recorded)
    (hcatalog : state.evidence_references = state'.evidence_references ∨ Unreviewed past events)
    (hfold : fold_checked (apply_event goal declared_tasks) state events = .ok next) :
    ∃ next', fold_checked (apply_event goal declared_tasks) state' events' = .ok next' ∧
      Similar next next' := by
  induction events generalizing state state' past events' with
  | nil =>
    obtain rfl := List.map_eq_nil_iff.mp hevents.symm
    cases hfold
    exact ⟨state', rfl, h⟩
  | cons event events ih =>
    obtain ⟨event', events', rfl, hevent, hrest⟩ := List.map_eq_cons_iff.mp hevents.symm
    obtain ⟨middle, hstep, hfold⟩ := fold_checked_cons_eq_ok.mp hfold
    obtain ⟨hadmissible, rfl⟩ := apply_event_eq_ok.mp hstep
    have hcompletes : completes event = true →
        state.evidence_references = state'.evidence_references ∨ state.review_decisions = [] := by
      intro hc
      refine hcatalog.imp_right fun hnone => ?_
      rw [hpast, ← List.append_nil past]
      exact hnone [] event events rfl hc
    obtain ⟨hadmissible', hsimilar⟩ := h.step hevent.symm hadmissible hcompletes
    have hstep' : apply_event goal declared_tasks state' event'
        = .ok (count_event (updated state' event') event') :=
      apply_event_eq_ok.mpr ⟨hadmissible', rfl⟩
    have hpast' : (count_event (updated state event) event).review_decisions
        = (past ++ [event]).filterMap review_recorded := by
      rw [filterMap_concat, ← hpast, ← updated_reviews]
      rfl
    have hpayload : (unchained event).payload = (unchained event').payload := by rw [hevent]
    have hrecorded : evidence_recorded event = evidence_recorded event' := by
      rw [evidence_recorded, evidence_recorded, show event.payload = event'.payload from hpayload]
    have hcatalog' : (count_event (updated state event) event).evidence_references
        = (count_event (updated state' event') event').evidence_references ∨
          Unreviewed (past ++ [event]) events := by
      refine hcatalog.imp (fun hsame => ?_) Unreviewed.tail
      show (updated state event).evidence_references = (updated state' event').evidence_references
      rw [updated_catalog, updated_catalog, hsame, hrecorded]
    obtain ⟨next', hfold', hnext⟩ := ih hsimilar hrest.symm hpast' hcatalog' hfold
    exact ⟨next', fold_checked_cons_eq_ok.mpr ⟨_, hstep', hfold'⟩, hnext⟩

/-! ## A block of evidence -/

theorem evidence_recorded_eq_some {evidence : EvidenceRef} :
    evidence_recorded event = some evidence ↔
      event.payload = .EvidenceReferenceRecorded evidence := by
  unfold evidence_recorded
  cases event.payload <;> simp

theorem not_completes_of_evidence (h : (evidence_recorded event).isSome = true) :
    completes event = false := by
  obtain ⟨evidence, hevidence⟩ := Option.isSome_iff_exists.mp h
  rw [← Bool.not_eq_true, completes_iff]
  rintro ⟨from_, hpayload⟩
  rw [evidence_recorded_eq_some.mp hevidence] at hpayload
  cases hpayload

theorem admissible_evidence {evidence : EvidenceRef}
    (h : event.payload = .EvidenceReferenceRecorded evidence) :
    Admissible goal declared_tasks state event ↔
      evidence.contract_version = ContractVersion.current ∧
        (∀ integrity, evidence.integrity = some integrity →
          integrity.contract_version = ContractVersion.current) ∧
        evidence.id ∉ state.evidence_ids := by
  unfold Admissible
  rw [h]

theorem updated_evidence_ids {evidence : EvidenceRef}
    (h : event.payload = .EvidenceReferenceRecorded evidence) :
    (updated state event).evidence_ids = state.evidence_ids.insert evidence.id := by
  unfold updated
  rw [h]

theorem insert_insert_comm {ids : BTreeSet EvidenceId} {x y : EvidenceId} :
    (ids.insert x).insert y = (ids.insert y).insert x := by
  apply OrderedMaps.set_ext
  intro id
  simp only [mem_insert_evidence]
  exact or_right_comm

/-- Two records of evidence can be exchanged. -/
theorem evidence_swap {x y : RunEvent} (hx : (evidence_recorded x).isSome = true)
    (hy : (evidence_recorded y).isSome = true)
    (hstep : apply_event goal declared_tasks state x = .ok state')
    (hstep' : apply_event goal declared_tasks state' y = .ok next) :
    ∃ middle next', apply_event goal declared_tasks state y = .ok middle ∧
      apply_event goal declared_tasks middle x = .ok next' ∧ Similar next next' := by
  obtain ⟨evidence, hevidence⟩ := Option.isSome_iff_exists.mp hx
  obtain ⟨evidence', hevidence'⟩ := Option.isSome_iff_exists.mp hy
  rw [evidence_recorded_eq_some] at hevidence hevidence'
  obtain ⟨hadmissible, rfl⟩ := apply_event_eq_ok.mp hstep
  obtain ⟨hadmissible', rfl⟩ := apply_event_eq_ok.mp hstep'
  rw [admissible_evidence hevidence] at hadmissible
  rw [admissible_evidence hevidence'] at hadmissible'
  obtain ⟨hversion, hintegrity, hnew⟩ := hadmissible
  obtain ⟨hversion', hintegrity', hnew'⟩ := hadmissible'
  have hids : ¬ (evidence'.id ∈ state.evidence_ids ∨ evidence'.id ∈ (some evidence.id).toList) := by
    rw [← mem_insert_evidence, ← updated_evidence_ids hevidence]
    exact hnew'
  rw [not_or, Option.toList_some, List.mem_singleton] at hids
  refine ⟨_, _, apply_event_eq_ok.mpr ⟨?_, rfl⟩, apply_event_eq_ok.mpr ⟨?_, rfl⟩, ?_, ?_, ?_⟩
  · exact (admissible_evidence hevidence').mpr ⟨hversion', hintegrity', hids.1⟩
  · refine (admissible_evidence hevidence).mpr ⟨hversion, hintegrity, ?_⟩
    show evidence.id ∉ (updated state y).evidence_ids
    rw [updated_evidence_ids hevidence', mem_insert_evidence, not_or, Option.toList_some,
      List.mem_singleton]
    exact ⟨hnew, fun heq => hids.2 heq.symm⟩
  · unfold updated
    rw [hevidence, hevidence']
    have hcomm : (state.evidence_ids.insert evidence.id).insert evidence'.id
        = (state.evidence_ids.insert evidence'.id).insert evidence.id := insert_insert_comm
    exact congrArg (fun ids => unordered [] { state with evidence_ids := ids }) hcomm
  · unfold updated
    rw [hevidence, hevidence']
    show (state.evidence_references ++ [evidence] ++ [evidence']).Perm
      (state.evidence_references ++ [evidence'] ++ [evidence])
    rw [List.append_assoc, List.append_assoc]
    exact (List.Perm.swap evidence' evidence []).append_left _
  · unfold updated
    rw [hevidence, hevidence']
    show (state.run_record.evidence_refs ++ [evidence.id] ++ [evidence'.id]).Perm
      (state.run_record.evidence_refs ++ [evidence'.id] ++ [evidence.id])
    rw [List.append_assoc, List.append_assoc]
    exact (List.Perm.swap evidence'.id evidence.id []).append_left _

/-- A block of evidence can be recorded in any order. -/
theorem fold_evidence_perm {block block' : List RunEvent} (hperm : block.Perm block')
    (hblock : ∀ e ∈ block, (evidence_recorded e).isSome = true)
    (h : fold_checked (apply_event goal declared_tasks) state block = .ok next) :
    ∃ next', fold_checked (apply_event goal declared_tasks) state block' = .ok next' ∧
      Similar next next' := by
  refine fold_checked_perm (R := Similar) Similar.refl Similar.trans ?_ evidence_swap hperm
    hblock h
  intro s s' x t hx hsimilar hstep
  obtain ⟨hadmissible, rfl⟩ := apply_event_eq_ok.mp hstep
  have hnone := not_completes_of_evidence hx
  obtain ⟨hadmissible', hnext⟩ := hsimilar.step rfl hadmissible fun hc => by
    rw [hnone] at hc
    cases hc
  exact ⟨_, apply_event_eq_ok.mpr ⟨hadmissible', rfl⟩, hnext⟩

/-! ## A stream and its loop -/

theorem declare_task_eq_ok {sequence : ℕ} {declared declared' : BTreeSet TaskId}
    {task_id : TaskId} :
    declare_task sequence declared task_id = .ok declared' ↔
      task_id ∉ declared ∧ declared.insert task_id = declared' := by
  simp only [declare_task, bind_eq_ok, reject_if_eq_ok, exists_const, pure_eq_ok]

/-- The place of the first event occurs in the errors about the run only. -/
theorem declare_run_unchained {first : RunEvent} {created : RunCreated} :
    declare_run first created goal = .ok declared_tasks ↔
      declare_run (unchained first) created goal = .ok declared_tasks := by
  have htasks : ∀ declared, ∀ task_id ∈ created.task_ids, ∀ declared',
      declare_task first.sequence declared task_id = .ok declared' ↔
        declare_task 0 declared task_id = .ok declared' := by
    intro declared task_id _ declared'
    rw [declare_task_eq_ok, declare_task_eq_ok]
  simp only [declare_run, bind_eq_ok, reject_if_eq_ok, exists_const]
  exact and_congr Iff.rfl (exists_congr fun _ => and_congr Iff.rfl (fold_checked_congr_ok htasks))

/-- The loop over a stream, from the state that its first event creates, ends in
a state. -/
def Loops (goal : Option GoalContract) (events : List RunEvent) (state : ReplayState) : Prop :=
  ∃ first created declared_tasks, events.head? = some first ∧
    first.payload = .RunCreated created ∧ declare_run first created goal = .ok declared_tasks ∧
    fold_checked (apply_event goal declared_tasks) (initial_state first created) events
      = .ok state

/-- A stream is accepted when its chain is valid and its loop goes through. -/
theorem replay_run_iff_loops {events : List RunEvent} {run : ReplayedRun} :
    replay_run events goal = .ok run ↔ (∃ run_id, validate_event_chain events = .ok run_id) ∧
      ∃ state, Loops goal events state ∧ state.toReplayedRun = run := by
  rw [replay_run_eq_ok]
  constructor
  · rintro ⟨first, created, declared_tasks, state, hchain, hfirst, hpayload, hdeclare, hfold, hrun⟩
    exact ⟨⟨_, hchain⟩, state, ⟨first, created, declared_tasks, hfirst, hpayload, hdeclare, hfold⟩,
      hrun⟩
  · rintro ⟨⟨run_id, hchain⟩, state, ⟨first, created, declared_tasks, hfirst, hpayload, hdeclare,
      hfold⟩, hrun⟩
    refine ⟨first, created, declared_tasks, state, ?_, hfirst, hpayload, hdeclare, hfold, hrun⟩
    obtain ⟨head, rest, _, rfl, rfl, _⟩ := validate_event_chain_eq_ok.mp hchain
    rwa [← Option.some.inj hfirst]

/-- The loop does not read the places of the events. -/
theorem Loops.rechained {events events' : List RunEvent} (h : Loops goal events state)
    (hevents : events.map unchained = events'.map unchained) :
    ∃ state', Loops goal events' state' ∧ Similar state state' := by
  obtain ⟨first, created, declared_tasks, hfirst, hpayload, hdeclare, hfold⟩ := h
  obtain ⟨rest, rfl⟩ := List.head?_eq_some_iff.mp hfirst
  obtain ⟨first', rest', rfl, hfirst', _⟩ := List.map_eq_cons_iff.mp hevents.symm
  have hinitial : initial_state first created = initial_state first' created := by
    show initial_state (unchained first) created = initial_state (unchained first') created
    rw [hfirst']
  rw [hinitial] at hfold
  have hpast : (initial_state first' created).review_decisions
      = ([] : List RunEvent).filterMap review_recorded := rfl
  obtain ⟨state', hfold', hsimilar⟩ := (Similar.refl _).fold hevents hpast (Or.inl rfl) hfold
  refine ⟨state', ⟨first', created, declared_tasks, rfl, ?_, ?_, hfold'⟩, hsimilar⟩
  · have hsame : (unchained first').payload = (unchained first).payload := by rw [hfirst']
    exact Eq.trans hsame hpayload
  · rw [declare_run_unchained, hfirst', ← declare_run_unchained]
    exact hdeclare

/-- What the loop has done in front of a position. -/
theorem Loops.split {past rest : List RunEvent} (h : Loops goal (past ++ event :: rest) state) :
    ∃ middle declared_tasks, Recorded past middle ∧
      Admissible goal declared_tasks middle event := by
  obtain ⟨first, created, declared_tasks, _, _, _, hfold⟩ := h
  obtain ⟨middle, hpast, hrest⟩ := fold_checked_append_eq_ok.mp hfold
  obtain ⟨_, hstep, _⟩ := fold_checked_cons_eq_ok.mp hrest
  exact ⟨middle, declared_tasks, recorded_of_fold hpast, (apply_event_eq_ok.mp hstep).1⟩

/-- The loop goes through a stream in which a block of evidence is permuted, with
the same evidence or when nothing is judged behind it. -/
theorem Loops.permuted {before block block' after : List RunEvent}
    (h : Loops goal (before ++ block ++ after) state)
    (hblock : ∀ e ∈ block, (evidence_recorded e).isSome = true) (hperm : block.Perm block')
    (hcatalog : block'.filterMap evidence_recorded = block.filterMap evidence_recorded ∨
      Unreviewed before after) :
    ∃ state', Loops goal (before ++ block' ++ after) state' ∧ Similar state state' := by
  obtain ⟨first, created, declared_tasks, hfirst, hpayload, hdeclare, hfold⟩ := h
  obtain ⟨middle, hmiddle, hafter⟩ := fold_checked_append_eq_ok.mp hfold
  obtain ⟨start, hbefore, hfold⟩ := fold_checked_append_eq_ok.mp hmiddle
  obtain ⟨middle', hfold', hsimilar⟩ := fold_evidence_perm hperm hblock hfold
  have hmiddle' : fold_checked (apply_event goal declared_tasks) (initial_state first created)
      (before ++ block') = .ok middle' :=
    fold_checked_append_eq_ok.mpr ⟨start, hbefore, hfold'⟩
  have hrecorded := recorded_of_fold hmiddle
  have hrecorded' := recorded_of_fold hmiddle'
  -- a block of evidence records no review
  have hreviews : block.filterMap review_recorded = [] := by
    refine List.filterMap_eq_nil_iff.mpr fun e he => ?_
    obtain ⟨evidence, hevidence⟩ := Option.isSome_iff_exists.mp (hblock e he)
    rw [review_recorded, evidence_recorded_eq_some.mp hevidence]
  have hpast : middle.review_decisions = before.filterMap review_recorded := by
    rw [hrecorded.reviews, List.filterMap_append, hreviews, List.append_nil]
  have hcondition : middle.evidence_references = middle'.evidence_references ∨
      Unreviewed before after := by
    refine hcatalog.imp_left fun hsame => ?_
    rw [hrecorded.catalog, hrecorded'.catalog, List.filterMap_append, List.filterMap_append, hsame]
  obtain ⟨state', hafter', hend⟩ := hsimilar.fold rfl hpast hcondition hafter
  refine ⟨state', ⟨first, created, declared_tasks, ?_, hpayload, hdeclare, ?_⟩, hend⟩
  · cases before with
    | cons e before => exact hfirst
    | nil =>
      -- the event that creates the run is no evidence
      cases block with
      | nil => rwa [List.nil_perm.mp hperm]
      | cons e block =>
        obtain ⟨evidence, hevidence⟩ := Option.isSome_iff_exists.mp (hblock e List.mem_cons_self)
        rw [evidence_recorded_eq_some, Option.some.inj hfirst, hpayload] at hevidence
        cases hevidence
  · exact fold_checked_append_eq_ok.mpr ⟨middle', hmiddle', hafter'⟩

/-! ## The catalog that a review is judged with -/

/-- A valid catalog is the one order of its evidence. -/
theorem catalog_eq_of_perm {l l' : List EvidenceRef} (h : validate_catalog l = .ok ())
    (h' : validate_catalog l' = .ok ()) (hperm : l.Perm l') : l = l' := by
  have hsorted : ∀ l : List EvidenceRef, validate_catalog l = .ok () →
      (l.map EvidenceRef.id).Nodup ∧ l.Pairwise (fun x y => x.id ≤ y.id) := by
    intro l hl
    obtain ⟨_, hnodup, hfollow⟩ := scan_checked_eq_ok.mp hl
    have htrans : Trans (fun x y : EvidenceRef => x.id ≤ y.id)
        (fun x y : EvidenceRef => x.id ≤ y.id) (fun x y : EvidenceRef => x.id ≤ y.id) :=
      ⟨fun hxy hyz => le_trans hxy hyz⟩
    refine ⟨hnodup, pairwise_of_predecessor fun i x y hx hy => ?_⟩
    have hxy := hfollow i y hy
    rw [check_some_eq_ok] at hxy
    exact not_lt.mp (reject_if_eq_ok.mp (hxy x hx))
  refine List.Perm.eq_of_pairwise ?_ (hsorted l h).2 (hsorted l' h').2 hperm
  intro x y hx hy hxy hyx
  exact List.inj_on_of_nodup_map (hsorted l h).1 hx (hperm.mem_iff.mpr hy) (le_antisymm hxy hyx)

/-- A reviewed run completes with a valid catalog. -/
theorem valid_catalog_of_completes {contract : GoalContract} {past rest : List RunEvent}
    (h : Loops (some contract) (past ++ event :: rest) state) (hcompletes : completes event = true)
    (hreviewed : past.filterMap review_recorded ≠ []) :
    validate_catalog (past.filterMap evidence_recorded) = .ok () := by
  obtain ⟨middle, declared_tasks, hrecorded, hadmissible⟩ := h.split
  obtain ⟨from_, hpayload⟩ := completes_iff.mp hcompletes
  unfold Admissible at hadmissible
  rw [hpayload] at hadmissible
  obtain ⟨evidence, _, _, hgate⟩ := check_completion_eq_ok (hadmissible.2.2 rfl)
  rcases hgate with ⟨hnone, _⟩ | ⟨review, validated, _, hvalidated, _⟩
  · rw [hrecorded.reviews, List.head?_eq_none_iff] at hnone
    exact absurd hnone hreviewed
  · obtain ⟨⟨_, hcontext, _⟩, _⟩ := check_review_decision_eq_ok
      (validate_review_decision_eq_ok.mp hvalidated).1
    rw [← hrecorded.catalog]
    exact (validate_context_eq_ok.mp hcontext).2.1

/-! ## Evidence in another order -/

/-- Runs with one outcome, and the same evidence in some order. -/
structure SameOutcome (run run' : ReplayedRun) : Prop where
  status : run'.run_record.status = run.run_record.status
  started_at : run'.run_record.started_at = run.run_record.started_at
  finished_at : run'.run_record.finished_at = run.run_record.finished_at
  execution_plan : run'.execution_plan = run.execution_plan
  task_statuses : run'.task_statuses = run.task_statuses
  guard_outcomes : run'.guard_outcomes = run.guard_outcomes
  review_audit_requirements : run'.review_audit_requirements = run.review_audit_requirements
  review_decisions : run'.review_decisions = run.review_decisions
  audit_decisions : run'.audit_decisions = run.audit_decisions
  completion_evidence : run'.completion_evidence = run.completion_evidence
  specialist_outputs : run'.specialist_outputs = run.specialist_outputs
  coordinator_final_response : run'.coordinator_final_response = run.coordinator_final_response
  evidence_references : run'.evidence_references.Perm run.evidence_references
  evidence_refs : run'.run_record.evidence_refs.Perm run.run_record.evidence_refs

theorem Similar.same_outcome (h : Similar state state') :
    SameOutcome state.toReplayedRun state'.toReplayedRun := by
  have hsame : (unordered [] state).toReplayedRun = (unordered [] state').toReplayedRun := by
    rw [h.same]
  simp only [unordered, ReplayedRun.mk.injEq, RunRecord.mk.injEq] at hsame
  constructor <;> first
    | exact h.catalog.symm
    | exact h.evidence_refs.symm
    | simp only [hsame]

/-- **Evidence in another order.** An accepted stream in which a block of
evidence is permuted, and which is chained again, is accepted exactly if the
evidence of the block comes in the same order or no event behind the block
completes a reviewed run. It then has the same outcome. -/
theorem evidence_block_order {contract : GoalContract}
    {events events' before block block' after : List RunEvent} {run : ReplayedRun} {run_id : RunId}
    (h : replay_run events (some contract) = .ok run)
    (hevents : events.map unchained = before ++ block ++ after)
    (hevents' : events'.map unchained = before ++ block' ++ after)
    (hblock : ∀ e ∈ block, (evidence_recorded e).isSome = true) (hperm : block.Perm block')
    (hchain : validate_event_chain events' = .ok run_id) :
    ((∃ run', replay_run events' (some contract) = .ok run') ↔
      block'.filterMap evidence_recorded = block.filterMap evidence_recorded ∨
        Unreviewed before after) ∧
    ∀ run', replay_run events' (some contract) = .ok run' → SameOutcome run run' := by
  have hplain : ∀ l : List RunEvent, ∀ e ∈ l.map unchained, unchained e = e := by
    intro l e he
    obtain ⟨d, _, rfl⟩ := List.mem_map.mp he
    rfl
  have hidem : ∀ l : List RunEvent, (l.map unchained).map unchained = l.map unchained := by
    intro l
    rw [List.map_map]
    rfl
  obtain ⟨_, state, hloops, rfl⟩ := replay_run_iff_loops.mp h
  obtain ⟨plain, hplain, hsimilar⟩ := hloops.rechained (hidem events).symm
  rw [hevents] at hplain
  -- an order that is accepted has the same outcome
  have haccepted : (block'.filterMap evidence_recorded = block.filterMap evidence_recorded ∨
      Unreviewed before after) → ∃ run', replay_run events' (some contract) = .ok run' ∧
        SameOutcome state.toReplayedRun run' := by
    intro hcatalog
    obtain ⟨permuted, hpermuted, hsimilar₁⟩ := hplain.permuted hblock hperm hcatalog
    rw [← hevents'] at hpermuted
    obtain ⟨state', hloops', hsimilar₂⟩ := hpermuted.rechained (hidem events')
    exact ⟨state'.toReplayedRun, replay_run_iff_loops.mpr ⟨⟨run_id, hchain⟩, state', hloops', rfl⟩,
      ((hsimilar.trans hsimilar₁).trans hsimilar₂).same_outcome⟩
  have hcondition : ∀ run', replay_run events' (some contract) = .ok run' →
      block'.filterMap evidence_recorded = block.filterMap evidence_recorded ∨
        Unreviewed before after := by
    intro run' h'
    by_contra hneither
    obtain ⟨hdiffers, hreviewed⟩ := not_or.mp hneither
    unfold Unreviewed at hreviewed
    push Not at hreviewed
    obtain ⟨earlier, event, later, hafter, hcompletes, hreviewed⟩ := hreviewed
    obtain ⟨_, state', hloops', rfl⟩ := replay_run_iff_loops.mp h'
    obtain ⟨plain', hplain', _⟩ := hloops'.rechained (hidem events').symm
    rw [hevents', hafter, ← List.append_assoc] at hplain'
    rw [hafter, ← List.append_assoc] at hplain
    have hreviews : ∀ middle : List RunEvent,
        (before ++ middle ++ earlier).filterMap review_recorded ≠ [] := by
      intro middle hnone
      simp only [List.filterMap_append, List.append_eq_nil_iff] at hnone
      refine hreviewed ?_
      rw [List.filterMap_append, hnone.1.1, hnone.2, List.append_nil]
    have hvalid := valid_catalog_of_completes hplain hcompletes (hreviews block)
    have hvalid' := valid_catalog_of_completes hplain' hcompletes (hreviews block')
    have hcatalogs := catalog_eq_of_perm hvalid hvalid'
      (((hperm.append_left before).append_right earlier).filterMap evidence_recorded)
    simp only [List.filterMap_append, List.append_cancel_right_eq,
      List.append_cancel_left_eq] at hcatalogs
    exact hdiffers hcatalogs.symm
  refine ⟨⟨fun ⟨run', h'⟩ => hcondition run' h', fun hcatalog => ?_⟩, fun run' h' => ?_⟩
  · obtain ⟨run', h', _⟩ := haccepted hcatalog
    exact ⟨run', h'⟩
  · obtain ⟨run'', h'', hsame⟩ := haccepted (hcondition run' h')
    rw [h'] at h''
    rwa [Except.ok.inj h'']

/-! ## Two orders -/

/-- A stream of these events, chained again. -/
def rechained (events : List RunEvent) : List RunEvent :=
  events.zipIdx.map fun place => { place.1 with
    id := toString place.2
    sequence := place.2
    previous_event_id := if place.2 = 0 then none else some (toString (place.2 - 1)) }

/-- A stream in which two neighbours are exchanged. -/
def exchanged (index : ℕ) (events : List RunEvent) : List RunEvent :=
  rechained (events.take index ++ ((events.drop index).take 2).reverse ++ events.drop (index + 2))

/-- Evidence that is recorded when the reviewed run is complete. -/
def lateStream : List RunEvent := streamed "run" (reviewedPayloads ["a"] ["c", "d"])

/-- Late evidence can be recorded in any order. -/
theorem evidence_block_order_late :
    ∃ run run', replay_run lateStream (some reviewedGoal) = .ok run ∧
      replay_run (exchanged 9 lateStream) (some reviewedGoal) = .ok run' ∧
      SameOutcome run run' := by
  have haccepted : ok_and (replay_run lateStream (some reviewedGoal)) (fun _ => true) = true := by
    decide
  have hchained : ok_and (validate_event_chain (exchanged 9 lateStream)) (fun _ => true) = true := by
    decide
  obtain ⟨run, hrun, _⟩ := ok_and_eq_true.mp haccepted
  obtain ⟨run_id, hchain, _⟩ := ok_and_eq_true.mp hchained
  let plain := lateStream.map unchained
  have hevents : plain = plain.take 9 ++ plain.drop 9 ++ [] := by decide
  have hevents' : (exchanged 9 lateStream).map unchained
      = plain.take 9 ++ (plain.drop 9).reverse ++ [] := by decide
  obtain ⟨hiff, houtcome⟩ := evidence_block_order hrun hevents hevents' (by decide)
    (List.reverse_perm _).symm hchain
  have hunreviewed : Unreviewed (plain.take 9) [] := by
    intro earlier event later h
    cases earlier <;> cases h
  obtain ⟨run', hrun'⟩ := hiff.mpr (Or.inr hunreviewed)
  exact ⟨run, run', hrun, hrun', houtcome run' hrun'⟩

/-- The review of a run finds the evidence in one order, and not in the other. -/
theorem evidence_order_matters :
    ¬ ∀ (contract : GoalContract) (events events' before block block' after : List RunEvent)
      (run : ReplayedRun) (run_id : RunId), replay_run events (some contract) = .ok run →
      events.map unchained = before ++ block ++ after →
      events'.map unchained = before ++ block' ++ after →
      (∀ e ∈ block, (evidence_recorded e).isSome = true) → block.Perm block' →
      validate_event_chain events' = .ok run_id →
      ∃ run', replay_run events' (some contract) = .ok run' := by
  intro h
  have haccepted : ok_and (replay_run reviewedStream (some reviewedGoal)) (fun _ => true)
      = true := by decide
  have hchained : ok_and (validate_event_chain (exchanged 4 reviewedStream)) (fun _ => true)
      = true := by decide
  have hrejected : ok_and (replay_run (exchanged 4 reviewedStream) (some reviewedGoal))
      (fun _ => true) = false := by decide
  obtain ⟨run, hrun, _⟩ := ok_and_eq_true.mp haccepted
  obtain ⟨run_id, hchain, _⟩ := ok_and_eq_true.mp hchained
  let plain := reviewedStream.map unchained
  obtain ⟨run', hrun'⟩ := h reviewedGoal reviewedStream (exchanged 4 reviewedStream)
    (plain.take 4) ((plain.drop 4).take 2) ((plain.drop 4).take 2).reverse (plain.drop 6)
    run run_id hrun (by decide) (by decide) (by decide)
    (List.reverse_perm _).symm hchain
  rw [hrun'] at hrejected
  cases hrejected

end Replay

end OvcaCore

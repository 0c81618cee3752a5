/-
The histories that replay of the control plane accepts.

The walk over the events holds at each turn what `Walked` says: the events so far are
chained and spell a word whose state and attempt the walk has. So
`validate_control_plane_replay` accepts the chained and bound histories whose moves are a
word of the protocol, with the result that the last of them names, and no others
(`replay_exact`).
-/
import OvcaCore.ReplayMoves

set_option autoImplicit false

namespace OvcaCore

open OvcaCore.Checks

/-! ## One turn of the loop -/

section Turns

variable {sha256 : ReplayDigests} {invocation : RoleInvocationV1} {results : List RoleResultV1}
  {events : List ControlPlaneEvent} {event : ControlPlaneEvent} {walk walk' : ControlPlaneWalk}
  {state state' : ControlPlaneState} {attempt attempt' : ℕ} {used used' : Bool}

/-- A terminal event names a result by its id and its digest. The result is valid for the
invocation, of the state and the attempt of the event, and not later. -/
structure Names (sha256 : ReplayDigests) (invocation : RoleInvocationV1)
    (event : ControlPlaneEvent) (state : ControlPlaneState) (result : RoleResultV1) : Prop where
  named : event.payload.terminal_binding
    = some (result.attempt, result.result_id, sha256.result result)
  valid : result.validate_against sha256.toControlPlaneDigests invocation = true
  same_state : result.state = state
  not_later : result.occurred_at ≤ event.envelope.occurred_at

theorem validate_terminal_result_eq_ok :
    ControlPlaneWalk.validate_terminal_result sha256 invocation event results state used = .ok ()
      ↔ used = false ∧ ∃ result, results = [result] ∧ Names sha256 invocation event state result := by
  unfold ControlPlaneWalk.validate_terminal_result
  simp only [bind_eq_ok, reject_if_eq_ok, ok_or_eq_ok, exists_const, not_or, ne_eq, not_not,
    Bool.not_eq_true, Bool.not_eq_false, Int.not_lt]
  constructor
  · rintro ⟨⟨hused, hlen⟩, ⟨named_attempt, named_id, named_digest⟩, hnamed, result, hhead, hvalid,
      ⟨hstate, hattempt, hid, hdigest⟩, htime⟩
    obtain ⟨only, rfl⟩ := List.length_eq_one_iff.mp hlen
    rw [List.head?_cons, Option.some_inj] at hhead
    refine ⟨hused, only, rfl, ?_⟩
    rw [← hhead] at hvalid hstate hattempt hid hdigest htime
    refine ⟨?_, hvalid, hstate, htime⟩
    rw [hnamed, hattempt, hid, hdigest]
  · rintro ⟨hused, result, rfl, hnames⟩
    exact ⟨⟨hused, rfl⟩, _, hnames.named, result, rfl, hnames.valid,
      ⟨hnames.same_state, rfl, rfl, rfl⟩, hnames.not_later⟩

theorem transition_none_eq_ok (hstate : walk.state = none) :
    walk.transition sha256 invocation results event = .ok (state, attempt, used)
      ↔ event.payload.move = .Submit ∧ state = .Pending ∧ attempt = 1
        ∧ used = walk.terminal_result_used := by
  unfold ControlPlaneWalk.transition
  rw [hstate]
  cases event.payload <;>
    simp [ControlPlaneEventPayload.move, eq_comm]

/-- The table of the transitions is that of the moves. A terminal state is entered with
the result. -/
theorem transition_some_eq_ok (hstate : walk.state = some state)
    (hmax : walk.current_attempt ≤ invocation.budget.max_attempts) :
    walk.transition sha256 invocation results event = .ok (state', attempt', used')
      ↔ Move.Step invocation.budget.max_attempts state walk.current_attempt event.payload.move
          state' attempt'
        ∧ if state'.is_terminal then used' = true
            ∧ ControlPlaneWalk.validate_terminal_result sha256 invocation event results state'
              walk.terminal_result_used = .ok ()
          else used' = walk.terminal_result_used := by
  have hguard : ∀ {c : Prop} [Decidable c]
      {x : Except ControlPlaneValidationError (ControlPlaneState × ℕ × Bool)},
      (if c then x else .error .InvalidTransition) = .ok (state', attempt', used')
        ↔ c ∧ x = .ok (state', attempt', used') := by
    intro c _ x
    by_cases hc : c <;> simp [hc]
  -- the terminal moves, with and without the result
  have hfinish : ∀ (named : ℕ) (final : ControlPlaneState), final.is_terminal = true →
      ((if named = walk.current_attempt then (do
          ControlPlaneWalk.validate_terminal_result sha256 invocation event results final
            walk.terminal_result_used
          return (final, walk.current_attempt, true)) else .error .InvalidTransition)
          = .ok (state', attempt', used')
        ↔ (named = walk.current_attempt ∧ state' = final ∧ attempt' = walk.current_attempt)
          ∧ if state'.is_terminal then used' = true
              ∧ ControlPlaneWalk.validate_terminal_result sha256 invocation event results state'
                walk.terminal_result_used = .ok ()
            else used' = walk.terminal_result_used) := by
    intro named final hfinal
    simp only [hguard, bind_eq_ok, pure_eq_ok, Prod.mk.injEq]
    constructor
    · rintro ⟨rfl, _, hresult, rfl, rfl, rfl⟩
      rw [if_pos hfinal]
      exact ⟨⟨rfl, rfl, rfl⟩, rfl, hresult⟩
    · rintro ⟨⟨rfl, rfl, rfl⟩, h⟩
      rw [if_pos hfinal] at h
      exact ⟨rfl, _, h.2, rfl, rfl, h.1.symm⟩
  rw [Move.step_iff]
  unfold ControlPlaneWalk.transition
  rw [hstate]
  cases state with
  | Pending =>
    cases event.payload with
    | AttemptStarted _ _ named =>
      simp only [hguard, ControlPlaneEventPayload.move, Except.ok.injEq, Prod.mk.injEq,
        Move.Start.injEq, true_and, reduceCtorEq, false_and, and_self, or_false, and_false, or_self]
      constructor
      · rintro ⟨⟨rfl, -⟩, rfl, rfl, rfl⟩
        exact ⟨⟨rfl, rfl, rfl⟩, rfl⟩
      · rintro ⟨⟨rfl, rfl, rfl⟩, hused⟩
        exact ⟨⟨rfl, hmax⟩, rfl, rfl, hused.symm⟩
    | InvocationCancelled _ _ named _ _ =>
      simpa [ControlPlaneEventPayload.move] using hfinish named .Cancelled rfl
    | _ => simp [ControlPlaneEventPayload.move]
  | Running =>
    cases event.payload with
    | RetryScheduled _ _ completed_attempt next_attempt =>
      simp only [hguard, ControlPlaneEventPayload.move, Except.ok.injEq, Prod.mk.injEq,
        reduceCtorEq, false_and, and_self, Move.Retry.injEq, true_and, and_false, or_true, or_self,
        or_false, false_or]
      constructor
      · rintro ⟨⟨rfl, rfl, hnext⟩, rfl, rfl, rfl⟩
        exact ⟨⟨⟨rfl, rfl⟩, hnext, rfl, rfl⟩, rfl⟩
      · rintro ⟨⟨⟨rfl, rfl⟩, hnext, rfl, rfl⟩, hused⟩
        exact ⟨⟨rfl, rfl, hnext⟩, rfl, rfl, hused.symm⟩
    | InvocationCompleted _ _ named _ _ =>
      simpa [ControlPlaneEventPayload.move] using hfinish named .Completed rfl
    | InvocationFailed _ _ named _ _ =>
      simpa [ControlPlaneEventPayload.move] using hfinish named .Failed rfl
    | InvocationCancelled _ _ named _ _ =>
      simpa [ControlPlaneEventPayload.move] using hfinish named .Cancelled rfl
    | _ => simp [ControlPlaneEventPayload.move]
  | Completed => simp
  | Failed => simp
  | Cancelled => simp

theorem replay_event_eq_ok :
    walk.replay_event sha256 invocation results event = .ok walk'
      ↔ event.validate_against sha256 invocation = .ok ()
        ∧ event.envelope.event_id ∉ walk.event_ids
        ∧ ControlPlaneWalk.follow walk.previous event = .ok ()
        ∧ ∃ state attempt used,
          walk.transition sha256 invocation results event = .ok (state, attempt, used)
          ∧ walk' = ⟨some state, attempt, used, some event,
            event.envelope.event_id :: walk.event_ids⟩ := by
  unfold ControlPlaneWalk.replay_event
  simp only [bind_eq_ok, pure_eq_ok, reject_if_eq_ok, exists_const, exists_and_right,
    exists_unit_eq_ok, Prod.exists, eq_comm (a := walk')]

end Turns

/-! ## The walk -/

section Walk

variable {sha256 : ReplayDigests} {invocation : RoleInvocationV1} {results : List RoleResultV1}
  {events : List ControlPlaneEvent} {event : ControlPlaneEvent} {walk walk' : ControlPlaneWalk}
  {state : ControlPlaneState}

def moves (events : List ControlPlaneEvent) : List Move := events.map fun event => event.payload.move

theorem moves_concat : moves (events ++ [event]) = moves events ++ [event.payload.move] := by
  unfold moves
  rw [List.map_append, List.map_singleton]

theorem moves_eq_nil_iff : moves events = [] ↔ events = [] := List.map_eq_nil_iff

/-- The last event names the only result. -/
def Settled (sha256 : ReplayDigests) (invocation : RoleInvocationV1)
    (events : List ControlPlaneEvent) (results : List RoleResultV1) (state : ControlPlaneState) :
    Prop :=
  ∃ event result, events.getLast? = some event ∧ results = [result]
    ∧ Names sha256 invocation event state result

/-- What the variables of the loop hold after some events. -/
structure Walked (sha256 : ReplayDigests) (invocation : RoleInvocationV1)
    (results : List RoleResultV1) (events : List ControlPlaneEvent) (walk : ControlPlaneWalk) :
    Prop where
  chained : Chained sha256 invocation events
  previous : walk.previous = events.getLast?
  event_ids : walk.event_ids = (events.map fun event => event.envelope.event_id).reverse
  fresh : walk.state = none →
    events = [] ∧ walk.current_attempt = 1 ∧ walk.terminal_result_used = false
  spelled : ∀ state, walk.state = some state →
    Move.Spells invocation.budget.max_attempts (moves events) state walk.current_attempt
    ∧ walk.terminal_result_used = state.is_terminal
    ∧ (state.is_terminal = true → Settled sha256 invocation events results state)

theorem walked_start : Walked sha256 invocation results [] .start where
  chained := chained_nil
  previous := rfl
  event_ids := rfl
  fresh := fun _ => ⟨rfl, rfl, rfl⟩
  spelled := fun _ h => nomatch h

theorem eq_start_of_walked (h : Walked sha256 invocation results [] walk) : walk = .start := by
  obtain ⟨walk_state, current_attempt, used, previous, event_ids⟩ := walk
  cases walk_state with
  | none =>
    obtain ⟨-, hattempt, hused⟩ := h.fresh rfl
    have hprevious := h.previous
    have hids := h.event_ids
    simp only [List.getLast?_nil, List.map_nil, List.reverse_nil] at hattempt hused hprevious hids
    rw [hattempt, hused, hprevious, hids]
    rfl
  | some state => exact absurd rfl (Move.spells_ne_nil (h.spelled state rfl).1)

theorem one_le_max_attempts (h : event.validate_against sha256 invocation = .ok ()) :
    1 ≤ invocation.budget.max_attempts := by
  unfold ControlPlaneEvent.validate_against at h
  simp only [bind_eq_ok, reject_if_eq_ok, exists_const] at h
  have hvalid := h.1
  simp only [RoleInvocationV1.validate, ExecutionBudget.validate, Bool.not_eq_false,
    Bool.and_eq_true, bne_iff_ne, ne_eq] at hvalid
  have hne : invocation.budget.max_attempts ≠ 0 := by tauto
  omega

/-- The step of the walk, forward. -/
theorem walked_concat (h : Walked sha256 invocation results events walk)
    (hturn : walk.replay_event sha256 invocation results event = .ok walk') :
    Walked sha256 invocation results (events ++ [event]) walk' := by
  obtain ⟨hbound, hfresh, hfollow, state, attempt, used, htransition, rfl⟩ :=
    replay_event_eq_ok.mp hturn
  rw [h.event_ids, List.mem_reverse] at hfresh
  rw [h.previous] at hfollow
  refine ⟨chained_concat_iff.mpr ⟨h.chained, hbound, hfresh, hfollow⟩, ?_, ?_, ?_, ?_⟩
  · rw [List.getLast?_append, List.getLast?_singleton, Option.some_or]
  · rw [h.event_ids, List.map_append, List.map_singleton, List.reverse_append]
    rfl
  · intro hnone
    cases hnone
  · intro state' hstate'
    obtain rfl : state = state' := Option.some.inj hstate'
    rw [moves_concat]
    cases hstate : walk.state with
    | none =>
      obtain ⟨hnil, -, hunused⟩ := h.fresh hstate
      obtain ⟨hmove, rfl, rfl, rfl⟩ := (transition_none_eq_ok hstate).mp htransition
      refine ⟨Move.spells_concat_iff.mpr (Or.inl ?_), hunused, fun hterminal => nomatch hterminal⟩
      exact ⟨moves_eq_nil_iff.mpr hnil, hmove, rfl, rfl, one_le_max_attempts hbound⟩
    | some previous_state =>
      obtain ⟨hspells, hused, -⟩ := h.spelled previous_state hstate
      obtain ⟨hstep, hresult⟩ :=
        (transition_some_eq_ok hstate (Move.spells_attempt_le hspells).2).mp htransition
      refine ⟨Move.spells_concat_iff.mpr (Or.inr ⟨_, _, hspells, hstep⟩), ?_, ?_⟩
      · by_cases hterminal : state.is_terminal = true
        · rw [if_pos hterminal] at hresult
          rw [hterminal]
          exact hresult.1
        · rw [if_neg hterminal] at hresult
          change used = state.is_terminal
          rw [hresult, hused, (Move.step_implies hstep).2, Bool.eq_false_iff.mpr hterminal]
      · intro hterminal
        rw [if_pos hterminal] at hresult
        obtain ⟨-, result, hresults, hnames⟩ := validate_terminal_result_eq_ok.mp hresult.2
        exact ⟨event, result, by simp, hresults, hnames⟩

/-- The same, backward. -/
theorem exists_walked_of_concat
    (h : Walked sha256 invocation results (events ++ [event]) walk') :
    ∃ walk, Walked sha256 invocation results events walk
      ∧ walk.replay_event sha256 invocation results event = .ok walk' := by
  obtain ⟨hchained, hbound, hfresh, hfollow⟩ := chained_concat_iff.mp h.chained
  obtain ⟨walk_state, attempt, used, previous, event_ids⟩ := walk'
  have hprevious : previous = some event := by
    rw [← Option.some_or (a := event) (o := events.getLast?), ← List.getLast?_singleton,
      ← List.getLast?_append]
    exact h.previous
  have hids : event_ids = event.envelope.event_id
      :: (events.map fun event => event.envelope.event_id).reverse := by
    have hids := h.event_ids
    rw [List.map_append, List.map_singleton, List.reverse_append] at hids
    exact hids
  subst hprevious hids
  cases walk_state with
  | none => exact absurd (h.fresh rfl).1 (by simp)
  | some state =>
    obtain ⟨hspells, hused, hsettled⟩ := h.spelled state rfl
    change used = state.is_terminal at hused
    rw [moves_concat] at hspells
    rcases Move.spells_concat_iff.mp hspells with
      ⟨hnil, hmove, rfl, hattempt, hmax⟩ | ⟨previous_state, previous_attempt, hspells', hstep⟩
    · obtain rfl := moves_eq_nil_iff.mp hnil
      refine ⟨.start, walked_start, replay_event_eq_ok.mpr ⟨hbound, hfresh, hfollow,
        .Pending, attempt, used, ?_, rfl⟩⟩
      exact (transition_none_eq_ok rfl).mpr ⟨hmove, rfl, hattempt, hused⟩
    · have hopen := (Move.step_implies hstep).2
      refine ⟨⟨some previous_state, previous_attempt, false, events.getLast?,
        (events.map fun event => event.envelope.event_id).reverse⟩, ?_, ?_⟩
      · refine ⟨hchained, rfl, rfl, (fun hnone => nomatch hnone), ?_⟩
        intro state' hstate'
        obtain rfl : previous_state = state' := Option.some.inj hstate'
        refine ⟨hspells', hopen.symm, ?_⟩
        intro hterminal
        exact absurd hterminal (by simp [hopen])
      · refine replay_event_eq_ok.mpr ⟨hbound, ?_, hfollow, state, attempt, used, ?_, rfl⟩
        · rw [List.mem_reverse]
          exact hfresh
        · refine (transition_some_eq_ok rfl (Move.spells_attempt_le hspells').2).mpr ⟨hstep, ?_⟩
          by_cases hterminal : state.is_terminal = true
          · rw [if_pos hterminal, validate_terminal_result_eq_ok]
            obtain ⟨last, result, hlast, hresults, hnames⟩ := hsettled hterminal
            obtain rfl : event = last := by simpa using hlast
            exact ⟨hused.trans hterminal, rfl, result, hresults, hnames⟩
          · rw [if_neg hterminal]
            exact hused.trans (Bool.eq_false_iff.mpr hterminal)

theorem walk_eq_ok_iff :
    fold_checked (ControlPlaneWalk.replay_event sha256 invocation results) .start events = .ok walk
      ↔ Walked sha256 invocation results events walk := by
  induction events using List.reverseRecOn generalizing walk with
  | nil =>
    constructor
    · intro h
      obtain rfl : ControlPlaneWalk.start = walk := Except.ok.inj h
      exact walked_start
    · intro h
      rw [eq_start_of_walked h]
      rfl
  | append_singleton events event ih =>
    rw [fold_checked_append_eq_ok]
    simp only [ih, fold_checked_cons_eq_ok]
    constructor
    · rintro ⟨walk', hwalked, walk'', hturn, hend⟩
      obtain rfl : walk'' = walk := Except.ok.inj hend
      exact walked_concat hwalked hturn
    · intro h
      obtain ⟨walk', hwalked, hturn⟩ := exists_walked_of_concat h
      exact ⟨walk', hwalked, walk, hturn, rfl⟩

end Walk

/-! ## The accepted histories -/

section Accepted

variable {sha256 : ReplayDigests} {invocation : RoleInvocationV1} {results results' : List RoleResultV1}
  {events more : List ControlPlaneEvent} {state state' : ControlPlaneState}

/-- The histories of an invocation that is valid: chained and bound events that spell a word
of the protocol, with the result that a terminal event names, and no other. -/
structure Accepts (sha256 : ReplayDigests) (invocation : RoleInvocationV1)
    (events : List ControlPlaneEvent) (results : List RoleResultV1) (state : ControlPlaneState) :
    Prop where
  valid : invocation.validate sha256.toControlPlaneDigests = true
  chained : Chained sha256 invocation events
  spelled : ∃ attempt, Move.Spells invocation.budget.max_attempts (moves events) state attempt
  resolved : if state.is_terminal then Settled sha256 invocation events results state
    else results = []

theorem check_result_ids_singleton {result : RoleResultV1}
    (h : result.validate_against sha256.toControlPlaneDigests invocation = true) :
    check_result_ids [result] = .ok () := by
  simp only [RoleResultV1.validate_against, RoleResultV1.validate_shape, Bool.and_eq_true] at h
  have hstable : validate_stable_id result.result_id = true := by tauto
  unfold check_result_ids
  rw [scan_checked_eq_ok]
  refine ⟨?_, List.nodup_singleton _, fun _ _ _ => rfl⟩
  intro i other hi
  rw [List.mem_singleton.mp (List.mem_of_getElem? hi), reject_if_eq_ok, hstable]
  exact Bool.noConfusion

theorem replay_eq_ok_iff :
    validate_control_plane_replay sha256 invocation events results = .ok state
      ↔ Accepts sha256 invocation events results state := by
  unfold validate_control_plane_replay
  simp only [bind_eq_ok, reject_if_eq_ok, exists_const, ok_or_eq_ok, pure_eq_ok, walk_eq_ok_iff,
    exists_and_right, exists_unit_eq_ok, Bool.not_eq_false]
  constructor
  · rintro ⟨hvalid, -, -, walk, hwalked, final_state, hstate, hresults, rfl⟩
    obtain ⟨hspells, hused, hsettled⟩ := hwalked.spelled final_state hstate
    refine ⟨hvalid, hwalked.chained, ⟨_, hspells⟩, ?_⟩
    by_cases hterminal : final_state.is_terminal = true
    · rw [if_pos hterminal]
      exact hsettled hterminal
    · rw [if_neg hterminal]
      rw [hused, Bool.eq_false_iff.mpr hterminal, not_or] at hresults
      simpa using hresults.1
  · rintro ⟨hvalid, hchained, ⟨attempt, hspells⟩, hresolved⟩
    have hne : events ≠ [] := by
      intro hnil
      exact Move.spells_ne_nil hspells (moves_eq_nil_iff.mpr hnil)
    refine ⟨hvalid, hne, ?_, ⟨some state, attempt, state.is_terminal, events.getLast?,
      (events.map fun event => event.envelope.event_id).reverse⟩, ?_, state, rfl, ?_, rfl⟩
    · by_cases hterminal : state.is_terminal = true
      · rw [if_pos hterminal] at hresolved
        obtain ⟨event, result, -, rfl, hnames⟩ := hresolved
        exact check_result_ids_singleton hnames.valid
      · rw [if_neg hterminal] at hresolved
        rw [hresolved]
        rfl
    · refine ⟨hchained, rfl, rfl, (fun hnone => absurd hnone (Option.some_ne_none _)), ?_⟩
      intro state' hstate'
      obtain rfl : state = state' := Option.some.inj hstate'
      refine ⟨hspells, rfl, ?_⟩
      intro hterminal
      rw [if_pos hterminal] at hresolved
      exact hresolved
    · by_cases hterminal : state.is_terminal = true
      · rw [if_pos hterminal] at hresolved
        obtain ⟨event, result, -, rfl, -⟩ := hresolved
        simp [hterminal]
      · rw [if_neg hterminal] at hresolved
        simp [hresolved, hterminal]

theorem accepts_getLast (h : Accepts sha256 invocation events results state) :
    events.getLast?.map (fun event => event.payload.move.implies) = some state := by
  obtain ⟨attempt, hspells⟩ := h.spelled
  have hlast := Move.spells_getLast hspells
  unfold moves at hlast
  rw [List.getLast?_map, Option.map_map] at hlast
  exact hlast

theorem chained_of_append (h : Chained sha256 invocation (events ++ more)) :
    Chained sha256 invocation events := by
  induction more using List.reverseRecOn with
  | nil =>
    rw [List.append_nil] at h
    exact h
  | append_singleton more event ih =>
    rw [← List.append_assoc] at h
    exact ih (chained_concat_iff.mp h).1

/-- **What an accepted history starts with is accepted.** It has no result yet. -/
theorem accepts_of_append (hne : events ≠ []) (hmore : more ≠ [])
    (h : Accepts sha256 invocation (events ++ more) results state) :
    ∃ state', state'.is_terminal = false ∧ Accepts sha256 invocation events [] state' := by
  obtain ⟨attempt, hspells⟩ := h.spelled
  unfold moves at hspells
  rw [List.map_append] at hspells
  obtain ⟨state', attempt', hspells', hopen⟩ := Move.spells_of_append
    (mt List.map_eq_nil_iff.mp hne) (mt List.map_eq_nil_iff.mp hmore) hspells
  refine ⟨state', hopen, h.valid, chained_of_append h.chained, ⟨attempt', hspells'⟩, ?_⟩
  rw [hopen]
  rfl

end Accepted

/-- **Replay accepts its protocol and nothing else.** The state is the one that the last
event implies, what an accepted history starts with is accepted, and no event follows a
terminal state. -/
theorem replay_exact (sha256 : ReplayDigests) (invocation : RoleInvocationV1)
    (events : List ControlPlaneEvent) (results : List RoleResultV1) (state : ControlPlaneState) :
    (validate_control_plane_replay sha256 invocation events results = .ok state
      ↔ Accepts sha256 invocation events results state)
    ∧ (validate_control_plane_replay sha256 invocation events results = .ok state →
      events.getLast?.map (fun event => event.payload.move.implies) = some state
      ∧ (∀ start rest, start ≠ [] → rest ≠ [] → start ++ rest = events →
        ∃ state', state'.is_terminal = false
          ∧ validate_control_plane_replay sha256 invocation start [] = .ok state')
      ∧ (state.is_terminal = true → ∀ more, more ≠ [] → ∀ results' state',
        validate_control_plane_replay sha256 invocation (events ++ more) results'
          ≠ .ok state')) := by
  refine ⟨replay_eq_ok_iff, ?_⟩
  intro hok
  have haccepts := replay_eq_ok_iff.mp hok
  refine ⟨accepts_getLast haccepts, ?_, ?_⟩
  · intro start rest hstart hrest hevents
    rw [← hevents] at haccepts
    obtain ⟨state', hopen, hprefix⟩ := accepts_of_append hstart hrest haccepts
    exact ⟨state', hopen, replay_eq_ok_iff.mpr hprefix⟩
  · intro hterminal more hmore results' state' hlonger
    have hne : events ≠ [] := by
      intro hnil
      have hlast := accepts_getLast haccepts
      rw [hnil] at hlast
      exact nomatch hlast
    obtain ⟨open_state, hopen, hprefix⟩ :=
      accepts_of_append hne hmore (replay_eq_ok_iff.mp hlonger)
    have hsame := (accepts_getLast haccepts).symm.trans (accepts_getLast hprefix)
    rw [Option.some_inj] at hsame
    rw [hsame, hopen] at hterminal
    exact nomatch hterminal

namespace OwnerGoal

def digest : String := "aaaaaaaaaaaaaaaaaaaaaaaaaaaaaaaaaaaaaaaaaaaaaaaaaaaaaaaaaaaaaaaa"

def sha256 : ReplayDigests where
  authority := fun _ => digest
  invocation := fun _ => digest
  result := fun _ => digest
  payload := fun _ => digest

def owner : PrincipalIdentityV1 := ⟨"owner", .Owner⟩

def coordinator : PrincipalIdentityV1 := ⟨"coordinator", .Coordinator⟩

def scope : FoundationScopeV1 := ⟨"project", some "goal", some "task", some "run"⟩

def invocation : RoleInvocationV1 where
  contract_version := 1
  invocation_id := "invocation"
  invoker := owner
  target := coordinator
  task_id := "task"
  run_id := "run"
  scope := scope
  budget := ⟨1, 2⟩
  idempotency_key := "key"
  authority := {
    contract_version := 1
    authority_id := "authority"
    principal := owner
    scope := scope
    «namespace» := .CodeReview
    permission_profile := ⟨1, .R1, [], [], false, false, false⟩
    visibility := .Private
    sensitivity := .Internal
    validity := ⟨.Active, 0, none⟩ }
  authority_digest := digest
  input_digest := digest
  invoked_at := 1

def event (sequence : ℕ) (event_id : String) (previous_event_id : Option String)
    (producer : PrincipalIdentityV1) (payload : ControlPlaneEventPayload) : ControlPlaneEvent where
  contract_version := 1
  envelope := {
    contract_version := 1
    event_id := event_id
    domain := .ControlPlane
    scope := scope
    producer := producer
    event_kind := payload.event_kind
    sequence := sequence
    previous_event_id := previous_event_id
    occurred_at := sequence + 1
    payload_digest := digest }
  payload := payload

/-- The first attempt is retried, the second one completes. -/
def events : List ControlPlaneEvent :=
  [event 0 "submitted" none owner (.InvocationSubmitted "invocation" digest),
    event 1 "started" (some "submitted") coordinator (.AttemptStarted "invocation" digest 1),
    event 2 "retried" (some "started") coordinator (.RetryScheduled "invocation" digest 1 2),
    event 3 "restarted" (some "retried") coordinator (.AttemptStarted "invocation" digest 2),
    event 4 "completed" (some "restarted") coordinator
      (.InvocationCompleted "invocation" digest 2 "result" digest)]

def result : RoleResultV1 where
  contract_version := 1
  result_id := "result"
  invocation_id := "invocation"
  invocation_digest := digest
  producer := coordinator
  task_id := "task"
  run_id := "run"
  scope := scope
  idempotency_key := "key"
  attempt := 2
  state := .Completed
  payload := .OwnerFinal "done"
  evidence_ids := ["evidence"]
  occurred_at := 5

theorem replayed :
    validate_control_plane_replay sha256 invocation events [result] = .ok .Completed := by
  decide

/-- The retried goal is a word of the protocol, and it has ended. -/
theorem replayed_exact : Accepts sha256 invocation events [result] .Completed
    ∧ ∀ more, more ≠ [] → ∀ results state,
      validate_control_plane_replay sha256 invocation (events ++ more) results ≠ .ok state :=
  ⟨(replay_exact sha256 invocation events [result] .Completed).1.mp replayed,
    ((replay_exact sha256 invocation events [result] .Completed).2 replayed).2.2 rfl⟩

end OwnerGoal

end OvcaCore

/-
The moves of an invocation, and chains of its events.

A history is a word over the moves of its events: an invocation is submitted, attempts
are started and retried in turn, and it may end with the attempt that is pending or
running (`Spells`). Words grow by the table of the moves (`spells_concat_iff`), chains by
an event that follows their last one (`chained_concat_iff`).
-/
import OvcaCore.ControlPlaneReplay
import Mathlib.Data.List.Basic

set_option autoImplicit false

namespace OvcaCore

open OvcaCore.Checks

/-! ## Moves -/

inductive Move where
  | Submit
  | Start (attempt : ℕ)
  | Retry (completed_attempt next_attempt : ℕ)
  | Complete (attempt : ℕ)
  | Fail (attempt : ℕ)
  | Cancel (attempt : ℕ)
  deriving DecidableEq, Repr

def ControlPlaneEventPayload.move : ControlPlaneEventPayload → Move
  | .InvocationSubmitted .. => .Submit
  | .AttemptStarted _ _ attempt => .Start attempt
  | .RetryScheduled _ _ completed_attempt next_attempt => .Retry completed_attempt next_attempt
  | .InvocationCompleted _ _ attempt _ _ => .Complete attempt
  | .InvocationFailed _ _ attempt _ _ => .Fail attempt
  | .InvocationCancelled _ _ attempt _ _ => .Cancel attempt

namespace Move

/-- The state that a move leads to. -/
def implies : Move → ControlPlaneState
  | .Submit | .Retry .. => .Pending
  | .Start _ => .Running
  | .Complete _ => .Completed
  | .Fail _ => .Failed
  | .Cancel _ => .Cancelled

/-- The word of an invocation whose attempt after a number of retries is pending. -/
def pending (retries : ℕ) : List Move :=
  .Submit :: (List.range retries).flatMap fun i => [.Start (i + 1), .Retry (i + 1) (i + 2)]

/-- The same, with the attempt started. -/
def running (retries : ℕ) : List Move := pending retries ++ [.Start (retries + 1)]

/-- The words of the protocol, with the state and the attempt they end in. -/
inductive Spells (max_attempts : ℕ) : List Move → ControlPlaneState → ℕ → Prop
  | Pending (retries : ℕ) (h : retries + 1 ≤ max_attempts) :
    Spells max_attempts (pending retries) .Pending (retries + 1)
  | Running (retries : ℕ) (h : retries + 1 ≤ max_attempts) :
    Spells max_attempts (running retries) .Running (retries + 1)
  | Completed (retries : ℕ) (h : retries + 1 ≤ max_attempts) :
    Spells max_attempts (running retries ++ [.Complete (retries + 1)]) .Completed (retries + 1)
  | Failed (retries : ℕ) (h : retries + 1 ≤ max_attempts) :
    Spells max_attempts (running retries ++ [.Fail (retries + 1)]) .Failed (retries + 1)
  | CancelledPending (retries : ℕ) (h : retries + 1 ≤ max_attempts) :
    Spells max_attempts (pending retries ++ [.Cancel (retries + 1)]) .Cancelled (retries + 1)
  | CancelledRunning (retries : ℕ) (h : retries + 1 ≤ max_attempts) :
    Spells max_attempts (running retries ++ [.Cancel (retries + 1)]) .Cancelled (retries + 1)

/-- One move of the protocol. -/
inductive Step (max_attempts : ℕ) :
    ControlPlaneState → ℕ → Move → ControlPlaneState → ℕ → Prop
  | Start (attempt : ℕ) : Step max_attempts .Pending attempt (.Start attempt) .Running attempt
  | Retry (attempt : ℕ) (h : attempt + 1 ≤ max_attempts) :
    Step max_attempts .Running attempt (.Retry attempt (attempt + 1)) .Pending (attempt + 1)
  | Complete (attempt : ℕ) :
    Step max_attempts .Running attempt (.Complete attempt) .Completed attempt
  | Fail (attempt : ℕ) : Step max_attempts .Running attempt (.Fail attempt) .Failed attempt
  | CancelPending (attempt : ℕ) :
    Step max_attempts .Pending attempt (.Cancel attempt) .Cancelled attempt
  | CancelRunning (attempt : ℕ) :
    Step max_attempts .Running attempt (.Cancel attempt) .Cancelled attempt

theorem pending_succ (retries : ℕ) :
    pending (retries + 1) = running retries ++ [.Retry (retries + 1) (retries + 2)] := by
  unfold running pending
  rw [List.range_succ, List.flatMap_append, List.flatMap_singleton]
  simp

section Words

variable {max_attempts : ℕ} {w w' : List Move} {m : Move} {s s' : ControlPlaneState} {k k' : ℕ}

theorem spells_attempt_le (h : Spells max_attempts w s k) : 1 ≤ k ∧ k ≤ max_attempts := by
  cases h <;> exact ⟨by omega, by assumption⟩

theorem spells_ne_nil (h : Spells max_attempts w s k) : w ≠ [] := by
  cases h <;> simp [running, pending]

theorem spells_pending_iff : Spells max_attempts w .Pending k
    ↔ ∃ retries, w = pending retries ∧ k = retries + 1 ∧ retries + 1 ≤ max_attempts := by
  constructor
  · intro h
    cases h with
    | Pending retries h => exact ⟨retries, rfl, rfl, h⟩
  · rintro ⟨retries, rfl, rfl, h⟩
    exact .Pending retries h

theorem spells_running_iff : Spells max_attempts w .Running k
    ↔ ∃ retries, w = running retries ∧ k = retries + 1 ∧ retries + 1 ≤ max_attempts := by
  constructor
  · intro h
    cases h with
    | Running retries h => exact ⟨retries, rfl, rfl, h⟩
  · rintro ⟨retries, rfl, rfl, h⟩
    exact .Running retries h

/-- The words grow by the moves of the protocol. -/
theorem spells_concat_iff : Spells max_attempts (w ++ [m]) s k
    ↔ (w = [] ∧ m = .Submit ∧ s = .Pending ∧ k = 1 ∧ 1 ≤ max_attempts)
      ∨ ∃ s' k', Spells max_attempts w s' k' ∧ Step max_attempts s' k' m s k := by
  have hlast : ∀ {u : List Move} {a : Move}, w ++ [m] = u ++ [a] → w = u ∧ m = a := by
    intro u a h
    simpa using List.append_inj' h rfl
  constructor
  · intro h
    generalize hword : w ++ [m] = word at h
    -- each word ends with the move that was added
    cases h with
    | Pending retries h =>
      cases retries with
      | zero =>
        left
        obtain ⟨rfl, rfl⟩ := hlast (hword.trans (List.nil_append _).symm)
        exact ⟨rfl, rfl, rfl, rfl, h⟩
      | succ retries =>
        right
        obtain ⟨rfl, rfl⟩ := hlast (hword.trans (pending_succ retries))
        exact ⟨_, _, .Running retries (by omega), .Retry (retries + 1) h⟩
    | Running retries h =>
      right
      obtain ⟨rfl, rfl⟩ := hlast hword
      exact ⟨_, _, .Pending retries h, .Start (retries + 1)⟩
    | Completed retries h =>
      right
      obtain ⟨rfl, rfl⟩ := hlast hword
      exact ⟨_, _, .Running retries h, .Complete (retries + 1)⟩
    | Failed retries h =>
      right
      obtain ⟨rfl, rfl⟩ := hlast hword
      exact ⟨_, _, .Running retries h, .Fail (retries + 1)⟩
    | CancelledPending retries h =>
      right
      obtain ⟨rfl, rfl⟩ := hlast hword
      exact ⟨_, _, .Pending retries h, .CancelPending (retries + 1)⟩
    | CancelledRunning retries h =>
      right
      obtain ⟨rfl, rfl⟩ := hlast hword
      exact ⟨_, _, .Running retries h, .CancelRunning (retries + 1)⟩
  · rintro (⟨rfl, rfl, rfl, rfl, h⟩ | ⟨s', k', hw, hstep⟩)
    · exact .Pending 0 h
    · cases hstep with
      | Start attempt =>
        obtain ⟨retries, rfl, rfl, h⟩ := spells_pending_iff.mp hw
        exact .Running retries h
      | Retry attempt hmax =>
        obtain ⟨retries, rfl, rfl, -⟩ := spells_running_iff.mp hw
        rw [← pending_succ]
        exact .Pending (retries + 1) hmax
      | Complete attempt =>
        obtain ⟨retries, rfl, rfl, h⟩ := spells_running_iff.mp hw
        exact .Completed retries h
      | Fail attempt =>
        obtain ⟨retries, rfl, rfl, h⟩ := spells_running_iff.mp hw
        exact .Failed retries h
      | CancelPending attempt =>
        obtain ⟨retries, rfl, rfl, h⟩ := spells_pending_iff.mp hw
        exact .CancelledPending retries h
      | CancelRunning attempt =>
        obtain ⟨retries, rfl, rfl, h⟩ := spells_running_iff.mp hw
        exact .CancelledRunning retries h

/-- The table of the moves. -/
theorem step_iff : Step max_attempts s k m s' k' ↔
    (s = .Pending ∧ m = .Start k ∧ s' = .Running ∧ k' = k)
      ∨ (s = .Running ∧ m = .Retry k (k + 1) ∧ k + 1 ≤ max_attempts ∧ s' = .Pending ∧ k' = k + 1)
      ∨ (s = .Running ∧ m = .Complete k ∧ s' = .Completed ∧ k' = k)
      ∨ (s = .Running ∧ m = .Fail k ∧ s' = .Failed ∧ k' = k)
      ∨ ((s = .Pending ∨ s = .Running) ∧ m = .Cancel k ∧ s' = .Cancelled ∧ k' = k) := by
  constructor
  · intro h
    cases h <;> simp_all
  · rintro (⟨rfl, rfl, rfl, rfl⟩ | ⟨rfl, rfl, h, rfl, rfl⟩ | ⟨rfl, rfl, rfl, rfl⟩
      | ⟨rfl, rfl, rfl, rfl⟩ | ⟨rfl | rfl, rfl, rfl, rfl⟩)
    · exact .Start _
    · exact .Retry _ h
    · exact .Complete _
    · exact .Fail _
    · exact .CancelPending _
    · exact .CancelRunning _

theorem step_implies (h : Step max_attempts s k m s' k') :
    m.implies = s' ∧ s.is_terminal = false := by
  cases h <;> exact ⟨rfl, rfl⟩

/-- **The last move of a word implies its state.** -/
theorem spells_getLast (h : Spells max_attempts w s k) :
    w.getLast?.map implies = some s := by
  rcases List.eq_nil_or_concat w with hnil | ⟨u, m, rfl⟩
  · exact absurd hnil (spells_ne_nil h)
  · rw [List.concat_eq_append] at h ⊢
    rw [List.getLast?_append, List.getLast?_singleton, Option.some_or, Option.map_some,
      Option.some_inj]
    rcases spells_concat_iff.mp h with ⟨-, rfl, rfl, -⟩ | ⟨s', k', -, hstep⟩
    · rfl
    · exact (step_implies hstep).1

/-- **A word that goes on has not ended.** -/
theorem spells_of_append (hw : w ≠ []) (hw' : w' ≠ [])
    (h : Spells max_attempts (w ++ w') s k) :
    ∃ s' k', Spells max_attempts w s' k' ∧ s'.is_terminal = false := by
  induction w' using List.reverseRecOn generalizing s k with
  | nil => exact absurd rfl hw'
  | append_singleton u m ih =>
    rw [← List.append_assoc] at h
    rcases spells_concat_iff.mp h with ⟨hnil, -⟩ | ⟨s', k', hu, hstep⟩
    · exact absurd (List.append_eq_nil_iff.mp hnil).1 hw
    · by_cases hempty : u = []
      · rw [hempty, List.append_nil] at hu
        exact ⟨s', k', hu, (step_implies hstep).2⟩
      · exact ih hempty hu

end Words

end Move

/-! ## Chains of events -/

section Chains

variable {sha256 : ReplayDigests} {invocation : RoleInvocationV1} {events : List ControlPlaneEvent}
  {event : ControlPlaneEvent}

/-- The events of an invocation are bound to it, have different ids, are numbered from
zero, name their predecessors and do not go back in time. -/
structure Chained (sha256 : ReplayDigests) (invocation : RoleInvocationV1)
    (events : List ControlPlaneEvent) : Prop where
  bound : ∀ event ∈ events, event.validate_against sha256 invocation = .ok ()
  distinct : (events.map fun event => event.envelope.event_id).Nodup
  numbered : ∀ (i : ℕ) (event : ControlPlaneEvent), events[i]? = some event →
    event.envelope.sequence = i
  opened : ∀ event : ControlPlaneEvent, events[0]? = some event →
    event.envelope.previous_event_id = none
  linked : ∀ (i : ℕ) (event event' : ControlPlaneEvent),
    events[i]? = some event → events[i + 1]? = some event' →
    event'.envelope.previous_event_id = some event.envelope.event_id
  ordered : ∀ (i : ℕ) (event event' : ControlPlaneEvent),
    events[i]? = some event → events[i + 1]? = some event' →
    event.envelope.occurred_at ≤ event'.envelope.occurred_at

theorem follow_none_eq_ok :
    ControlPlaneWalk.follow none event = .ok ()
      ↔ event.envelope.sequence = 0 ∧ event.envelope.previous_event_id = none := by
  unfold ControlPlaneWalk.follow
  simp only [reject_if_eq_ok, not_or, ne_eq, not_not]

theorem follow_some_eq_ok {previous : ControlPlaneEvent} :
    ControlPlaneWalk.follow (some previous) event = .ok ()
      ↔ event.envelope.sequence = previous.envelope.sequence + 1
        ∧ event.envelope.previous_event_id = some previous.envelope.event_id
        ∧ previous.envelope.occurred_at ≤ event.envelope.occurred_at := by
  unfold ControlPlaneWalk.follow
  simp only [bind_eq_ok, reject_if_eq_ok, exists_const, not_or, ne_eq, not_not, Int.not_lt,
    and_assoc]
  exact and_congr_left fun _ => eq_comm

theorem chained_nil : Chained sha256 invocation [] where
  bound := by simp
  distinct := List.nodup_nil
  numbered := by simp
  opened := by simp
  linked := by simp
  ordered := by simp

/-- A chain grows at its end. -/
theorem chained_concat_iff : Chained sha256 invocation (events ++ [event])
    ↔ Chained sha256 invocation events ∧ event.validate_against sha256 invocation = .ok ()
      ∧ event.envelope.event_id ∉ (events.map fun event => event.envelope.event_id)
      ∧ ControlPlaneWalk.follow events.getLast? event = .ok () := by
  have hget : ∀ {i : ℕ} {e : ControlPlaneEvent}, events[i]? = some e →
      (events ++ [event])[i]? = some e := by
    intro i e he
    rw [List.getElem?_append_left (List.getElem?_eq_some_iff.mp he).1]
    exact he
  have hnew : (events ++ [event])[events.length]? = some event := List.getElem?_concat_length
  have hcases : ∀ {i : ℕ} {e : ControlPlaneEvent}, (events ++ [event])[i]? = some e →
      events[i]? = some e ∨ i = events.length ∧ e = event := by
    intro i e he
    by_cases hi : i < events.length
    · rw [List.getElem?_append_left hi] at he
      exact Or.inl he
    · have hlt := (List.getElem?_eq_some_iff.mp he).1
      rw [List.length_append, List.length_singleton] at hlt
      have heq : i = events.length := by omega
      rw [heq, hnew, Option.some_inj] at he
      exact Or.inr ⟨heq, he.symm⟩
  constructor
  · intro hc
    have hids := hc.distinct
    rw [List.map_append, List.map_singleton, List.nodup_append_comm, List.singleton_append,
      List.nodup_cons] at hids
    refine ⟨⟨?_, hids.2, ?_, ?_, ?_, ?_⟩, ?_, hids.1, ?_⟩
    · intro e he
      exact hc.bound e (List.mem_append_left _ he)
    · intro i e he
      exact hc.numbered i e (hget he)
    · intro e he
      exact hc.opened e (hget he)
    · intro i e e' he he'
      exact hc.linked i e e' (hget he) (hget he')
    · intro i e e' he he'
      exact hc.ordered i e e' (hget he) (hget he')
    · exact hc.bound event (List.mem_append_right _ List.mem_cons_self)
    · rcases List.eq_nil_or_concat events with hnil | ⟨init, previous, hevents⟩
      · have hfirst : (events ++ [event])[0]? = some event := by
          rw [hnil]
          rfl
        rw [hnil]
        exact follow_none_eq_ok.mpr ⟨hc.numbered _ _ hfirst, hc.opened _ hfirst⟩
      · rw [List.concat_eq_append] at hevents
        have hlen : events.length = init.length + 1 := by rw [hevents, List.length_append]; rfl
        have hlast : events[init.length]? = some previous := by
          rw [hevents]
          exact List.getElem?_concat_length
        rw [hlen] at hnew
        rw [hevents, List.getLast?_append, List.getLast?_singleton, Option.some_or,
          follow_some_eq_ok, hc.numbered _ _ (hget hlast), hc.numbered _ _ hnew]
        exact ⟨rfl, hc.linked _ _ _ (hget hlast) hnew, hc.ordered _ _ _ (hget hlast) hnew⟩
  · rintro ⟨hc, hbound, hfresh, hfollow⟩
    have hlast : ∀ {i e}, events[i]? = some e → i + 1 = events.length →
        events.getLast? = some e := by
      intro i e he hi
      rw [List.getLast?_eq_getElem?, ← hi, Nat.add_sub_cancel]
      exact he
    refine ⟨?_, ?_, ?_, ?_, ?_, ?_⟩
    · intro e he
      rw [List.mem_append, List.mem_singleton] at he
      rcases he with he | rfl
      · exact hc.bound e he
      · exact hbound
    · rw [List.map_append, List.map_singleton, List.nodup_append_comm, List.singleton_append,
        List.nodup_cons]
      exact ⟨hfresh, hc.distinct⟩
    · intro i e he
      rcases hcases he with he | ⟨rfl, rfl⟩
      · exact hc.numbered i e he
      · cases hgetLast : events.getLast? with
        | none =>
          rw [hgetLast] at hfollow
          rw [List.getLast?_eq_none_iff.mp hgetLast]
          exact (follow_none_eq_ok.mp hfollow).1
        | some previous =>
          rw [hgetLast] at hfollow
          rw [List.getLast?_eq_getElem?] at hgetLast
          have hlt := (List.getElem?_eq_some_iff.mp hgetLast).1
          rw [(follow_some_eq_ok.mp hfollow).1, hc.numbered _ _ hgetLast]
          omega
    · intro e he
      rcases hcases he with he | ⟨hlen, rfl⟩
      · exact hc.opened e he
      · rw [List.eq_nil_of_length_eq_zero hlen.symm] at hfollow
        exact (follow_none_eq_ok.mp hfollow).2
    · intro i e e' he he'
      rcases hcases he' with he' | ⟨hlen, rfl⟩
      · rw [List.getElem?_append_left (by
          have := (List.getElem?_eq_some_iff.mp he').1
          omega)] at he
        exact hc.linked i e e' he he'
      · rw [List.getElem?_append_left (by omega)] at he
        rw [hlast he hlen] at hfollow
        exact (follow_some_eq_ok.mp hfollow).2.1
    · intro i e e' he he'
      rcases hcases he' with he' | ⟨hlen, rfl⟩
      · rw [List.getElem?_append_left (by
          have := (List.getElem?_eq_some_iff.mp he').1
          omega)] at he
        exact hc.ordered i e e' he he'
      · rw [List.getElem?_append_left (by omega)] at he
        rw [hlast he hlen] at hfollow
        exact (follow_some_eq_ok.mp hfollow).2.2

end Chains

end OvcaCore

/-
What a published bundle says of its verification.

The transcript is the prefix of the plan that was spawned, every criterion has the
largest of the verdicts that concern it, and the bundle passes exactly when the whole
plan did on an intact source and snapshot (`verdicts_exact`).
-/
import OvcaCore.PublishableBundles

set_option autoImplicit false

namespace OvcaCore

open OvcaCore.Checks OvcaCore.Maxima

namespace VerifierRequest

/-! ## Criteria and capabilities -/

namespace Accepted

variable {json : VerifierJson} {request : VerifierRequest}

theorem capability_ids_eq (h : Accepted json request) :
    request.capabilities.map CapabilityDefinition.capability_id
      = request.selection.capability_ids := by
  unfold TargetedRerunSelection.capability_ids
  apply List.ext_getElem?
  intro i
  rw [List.getElem?_map, List.getElem?_map]
  by_cases hi : i < request.capabilities.length
  · have hi' : i < request.selection.capabilities.length := h.lengths ▸ hi
    have hmem : (request.capabilities[i], request.selection.capabilities[i])
        ∈ request.capabilities.zip request.selection.capabilities := by
      rw [List.mem_iff_getElem?]
      refine ⟨i, List.getElem?_zip_eq_some.mpr ⟨?_, ?_⟩⟩
      · exact List.getElem?_eq_getElem hi
      · exact List.getElem?_eq_getElem hi'
    have hbinds := h.selected _ hmem
    unfold binds_selected at hbinds
    simp only [Bool.and_eq_true, beq_iff_eq] at hbinds
    rw [List.getElem?_eq_getElem hi, List.getElem?_eq_getElem hi', Option.map_some,
      Option.map_some, hbinds.1.1]
  · have hi' : ¬ i < request.selection.capabilities.length := h.lengths ▸ hi
    rw [List.getElem?_eq_none (by omega), List.getElem?_eq_none (by omega)]
    rfl

theorem capability_ids_nodup (h : Accepted json request) :
    (request.capabilities.map CapabilityDefinition.capability_id).Nodup := by
  have hvalid := h.selection
  unfold TargetedRerunSelection.validate validate_selected_capabilities at hvalid
  simp only [Bool.and_eq_true] at hvalid
  have hascending : strictly_ascending request.selection.capability_ids = true := by
    unfold TargetedRerunSelection.capability_ids
    tauto
  rw [h.capability_ids_eq, List.nodup_iff_pairwise_ne]
  exact (strictly_ascending_iff.mp hascending).imp fun hlt => ne_of_lt hlt

/-- **A capability names a criterion exactly when the criterion names it.** -/
theorem names_iff (h : Accepted json request) {capability : CapabilityDefinition}
    (hcapability : capability ∈ request.capabilities) {criterion : BehaviorCriterion}
    (hcriterion : criterion ∈ request.behavior.criteria) :
    criterion.criterion_id ∈ capability.criterion_ids
      ↔ capability.capability_id ∈ criterion.capability_ids := by
  constructor
  · intro hid
    have hbinds := h.capabilities_bind capability hcapability
    unfold capability_binds at hbinds
    simp only [Bool.and_eq_true, List.all_eq_true] at hbinds
    have hany := hbinds.2 _ hid
    rw [Option.any_eq_true] at hany
    obtain ⟨found, hfind, hcontains⟩ := hany
    unfold find_criterion at hfind
    have hmem := List.mem_of_find?_eq_some hfind
    have heq := List.find?_some hfind
    rw [beq_iff_eq] at heq
    have hsame : found = criterion :=
      List.inj_on_of_nodup_map h.criterion_ids_nodup hmem hcriterion heq
    rw [← hsame]
    exact List.contains_iff_mem.mp hcontains
  · intro hid
    have hbinds := h.criteria_bind criterion hcriterion
    unfold criterion_binds at hbinds
    simp only [Bool.and_eq_true, List.all_eq_true] at hbinds
    have hany := hbinds.2 _ hid
    rw [Option.any_eq_true] at hany
    obtain ⟨found, hfind, hcontains⟩ := hany
    unfold find_capability at hfind
    have hmem := List.mem_of_find?_eq_some hfind
    have heq := List.find?_some hfind
    rw [beq_iff_eq] at heq
    have hsame : found = capability :=
      List.inj_on_of_nodup_map h.capability_ids_nodup hmem hcapability heq
    rw [← hsame]
    exact List.contains_iff_mem.mp hcontains

/-- Every criterion has a capability in the request. -/
theorem exists_capability (h : Accepted json request) {criterion : BehaviorCriterion}
    (hcriterion : criterion ∈ request.behavior.criteria) :
    ∃ capability ∈ request.capabilities, capability.capability_id ∈ criterion.capability_ids := by
  have hbinds := h.criteria_bind criterion hcriterion
  unfold criterion_binds at hbinds
  simp only [Bool.and_eq_true, List.all_eq_true, Bool.not_eq_true', List.isEmpty_eq_false_iff]
    at hbinds
  obtain ⟨capability_id, hid⟩ := List.exists_mem_of_ne_nil _ hbinds.1.1
  have hany := hbinds.2 _ hid
  rw [Option.any_eq_true] at hany
  obtain ⟨found, hfind, -⟩ := hany
  unfold find_capability at hfind
  have heq := List.find?_some hfind
  rw [beq_iff_eq] at heq
  exact ⟨found, List.mem_of_find?_eq_some hfind, heq ▸ hid⟩

theorem planned_ne_nil (h : Accepted json request) : request.planned ≠ [] := by
  obtain ⟨capability, hmem⟩ := List.exists_mem_of_ne_nil _ h.nonempty
  have hvalid := h.capabilities capability hmem
  unfold CapabilityDefinition.validate CapabilityDefinition.validate_commands at hvalid
  simp only [Bool.and_eq_true, Bool.not_eq_true', List.isEmpty_eq_false_iff] at hvalid
  have hlen := commands_length_le hmem
  have hpos := List.length_pos_iff.mpr hvalid.2.1.1
  intro hnil
  unfold planned at hnil
  rw [hnil, List.length_nil] at hlen
  omega

end Accepted

/-! ## What was spawned, and where it ended -/

/-- A spawned command, with its evidence. -/
abbrev Spawned := PlannedCommand × ExecutionEvidence

def spawned_of (reached : Reached) : Option Spawned :=
  match reached.2 with
  | .Executed evidence => some (reached.1, evidence)
  | _ => none

/-- The commands that were spawned. -/
def spawned : Course → List Spawned
  | .Ran trace => trace.filterMap spawned_of
  | _ => []

/-- The capabilities at and behind the one where execution stopped, and the verdict it
stopped with. A command that is blocked before any was spawned stops execution at the
first capability. -/
def stopped (request : VerifierRequest) :
    Course → Option (List CapabilityDefinition × CriterionResultVerdict)
  | .Ran trace =>
    match trace.getLast? with
    | some (planned, .Executed evidence) =>
      if stops (.Executed evidence) then
        some (planned.capability :: planned.later, contribution (.Executed evidence))
      else none
    | some (planned, .PreSpawn failure) =>
      some (planned.capability :: planned.later, contribution (.PreSpawn failure))
    | _ => none
  | .Blocked _ failure => some (request.capabilities, contribution (.PreSpawn failure))
  | _ => none

instance (json : VerifierJson) (request : VerifierRequest) (answers : HostAnswers) :
    Decidable (Intact json request answers) :=
  inferInstanceAs (Decidable (_ ∧ _))

/-- The integrity of source or snapshot failed: before any command was spawned, where a
command should have had its directory, or after the commands. -/
def integrity_failed (json : VerifierJson) (request : VerifierRequest) (answers : HostAnswers) :
    Course → Bool
  | .Ran trace => (trace.any fun r => r.2 == .SnapshotTamper) || !decide (Intact json request answers)
  | .Drifted | .Torn => true
  | _ => false

/-- The largest verdict that concerns a criterion: of the spawned commands of its
capabilities, of the end of the execution, and of the loss of integrity. -/
def verdict_of (json : VerifierJson) (request : VerifierRequest) (answers : HostAnswers)
    (course : Course) (criterion : BehaviorCriterion) : CriterionResultVerdict :=
  let own := (spawned course).filter fun s =>
    criterion.capability_ids.contains s.1.capability.capability_id
  let stop := (request.stopped course).elim .Pass fun s =>
    if s.1.any fun c => criterion.capability_ids.contains c.capability_id then s.2 else .Pass
  let integrity := if integrity_failed json request answers course then .Invalid else .Pass
  max (largest (own.map fun s => contribution (.Executed s.2))) (max stop integrity)

/-- The command with a number was not spawned: the run stopped right before it, or no
command was spawned at all. -/
def NotSpawned : Course → ℕ → Prop
  | .Ran trace, n => ∃ planned execution, (trace)[n]? = some (planned, execution)
    ∧ ((∃ failure, execution = .PreSpawn failure) ∨ execution = .SnapshotTamper)
  | _, n => n = 0

/-- The spawned commands are the plan up to and including the first command that stops
the run, or up to but excluding the first that is not spawned. -/
structure SpawnedPrefix (request : VerifierRequest) (answers : HostAnswers) (course : Course) :
    Prop where
  in_order : (spawned course).map Prod.fst = request.planned.take (spawned course).length
  answered : ∀ i s, (spawned course)[i]? = some s →
    ∃ prepared, execute_prepared prepared (answers.command i) = .ok (.Executed s.2)
  goes_on : ∀ i s, (spawned course)[i]? = some s → i + 1 < (spawned course).length →
    stops (.Executed s.2) = false
  ends : (spawned course).length < request.planned.length →
    (∃ s, (spawned course).getLast? = some s ∧ stops (.Executed s.2) = true)
      ∨ NotSpawned course (spawned course).length

theorem spawned_of_eq_some {r : Reached} {s : Spawned} :
    spawned_of r = some s ↔ r = (s.1, .Executed s.2) := by
  obtain ⟨planned, execution⟩ := r
  unfold spawned_of
  cases execution <;> simp [Prod.ext_iff]

theorem spawned_ran (trace : List Reached) :
    spawned (.Ran trace) = trace.filterMap spawned_of := rfl

/-- The spawned commands stand where they stand in the trace. -/
theorem spawned_get {answers : ℕ → CommandAnswers}
    {rest : List (PlannedCommand × PreparedCommand)} {sequence : ℕ} {trace : List Reached}
    (h : reached answers sequence rest = .ok trace) (i : ℕ) :
    (spawned (.Ran trace))[i]? = ((trace)[i]?).bind spawned_of := by
  rw [spawned_ran]
  induction rest generalizing sequence trace i with
  | nil =>
    rw [reached_nil h]
    rfl
  | cons x rest ih =>
    obtain ⟨execution, later, -, htrace, hlater⟩ := reached_cons h
    rw [htrace, List.filterMap_cons]
    rcases hlater with ⟨-, hnil⟩ | ⟨hgoes, hlater⟩
    · rw [hnil]
      cases i with
      | zero => cases hof : spawned_of (x.1, execution) <;> simp [hof]
      | succ i => cases hof : spawned_of (x.1, execution) <;> simp
    · obtain ⟨evidence, rfl, -⟩ := executed_of_not_stops hgoes
      cases i with
      | zero => rfl
      | succ i => exact ih hlater i

namespace Traced

variable {json : VerifierJson} {request : VerifierRequest} {answers : ℕ → CommandAnswers}
  {prepared : List PreparedCommand} {trace : List Reached}

theorem spawned_iff (ht : Traced request answers prepared trace) {i : ℕ} {s : Spawned} :
    (spawned (.Ran trace))[i]? = some s ↔ (trace)[i]? = some (s.1, .Executed s.2) := by
  rw [spawned_get ht.reached, Option.bind_eq_some_iff]
  constructor
  · rintro ⟨r, hr, hof⟩
    rw [hr, spawned_of_eq_some.mp hof]
  · intro hr
    exact ⟨_, hr, spawned_of_eq_some.mpr rfl⟩

/-- A command of a trace stops the run only if it is the last. -/
theorem last_of_stops (ht : Traced request answers prepared trace) {i : ℕ} {r : Reached}
    (hr : (trace)[i]? = some r) (hstops : stops r.2 = true) : i + 1 = trace.length := by
  have hlt := (List.getElem?_eq_some_iff.mp hr).1
  rcases reached_shape ht.reached with ⟨-, hall⟩ | ⟨init, last, htrace, -, hinit, -⟩
  · rw [hall r (List.mem_of_getElem? hr)] at hstops
    simp at hstops
  · rw [htrace, List.length_append, List.length_singleton] at hlt ⊢
    by_contra hne
    rw [htrace, List.getElem?_append_left (by omega)] at hr
    rw [hinit r (List.mem_of_getElem? hr)] at hstops
    simp at hstops

theorem getLast_of_stops (ht : Traced request answers prepared trace) {r : Reached}
    (hr : r ∈ trace) (hstops : stops r.2 = true) : trace.getLast? = some r := by
  obtain ⟨i, hi⟩ := List.mem_iff_getElem?.mp hr
  have hlast := ht.last_of_stops hi hstops
  rw [List.getLast?_eq_getElem?, ← hlast, Nat.add_sub_cancel]
  exact hi

theorem spawned_prefix (ht : Traced request answers prepared trace) {host : HostAnswers}
    (hhost : host.command = answers) : SpawnedPrefix request host (.Ran trace) where
  in_order := by
    apply List.ext_getElem?
    intro i
    rw [List.getElem?_map, List.getElem?_take]
    by_cases hi : i < (spawned (.Ran trace)).length
    · have hs := List.getElem?_eq_getElem hi
      rw [if_pos hi, (ht.get (ht.spawned_iff.mp hs)).1, hs]
      rfl
    · rw [if_neg hi, List.getElem?_eq_none (by omega)]
      rfl
  answered i s hs := by
    obtain ⟨-, p, -, hexec⟩ := ht.get (ht.spawned_iff.mp hs)
    exact ⟨p, hhost ▸ hexec⟩
  goes_on i s hs hlt := by
    have hr := ht.spawned_iff.mp hs
    -- the command behind it was reached
    have hnext := ht.spawned_iff.mp (List.getElem?_eq_getElem hlt)
    have hlen := (List.getElem?_eq_some_iff.mp hnext).1
    by_contra hstops
    rw [Bool.not_eq_false] at hstops
    have hlast := ht.last_of_stops hr hstops
    omega
  ends hlt := by
    -- the trace ends with the spawned commands, or goes one command further
    by_cases hmore : (spawned (.Ran trace)).length < trace.length
    · right
      have hr := List.getElem?_eq_getElem hmore
      have hnone := spawned_get ht.reached (spawned (.Ran trace)).length
      rw [List.getElem?_eq_none (le_refl _), hr, Option.bind_some] at hnone
      refine ⟨_, _, hr, ?_⟩
      unfold spawned_of at hnone
      split at hnone
      · simp at hnone
      case h_2 hnot =>
        cases hexec : ((trace).get ⟨_, hmore⟩).2 with
        | Executed evidence => exact absurd hexec (hnot evidence)
        | PreSpawn failure => exact Or.inl ⟨failure, rfl⟩
        | SnapshotTamper => exact Or.inr rfl
    · left
      rcases reached_shape ht.reached with ⟨hlen, -⟩ | ⟨init, last, htrace, hstops, -, -⟩
      · rw [List.length_zip, ht.prepared_length, min_self] at hlen
        omega
      · have hlast : (trace)[trace.length - 1]? = some last := by
          rw [htrace, List.length_append, List.length_singleton, Nat.add_sub_cancel,
            List.getElem?_append_right (le_refl _), Nat.sub_self]
          rfl
        have hpos : 0 < trace.length := by
          rw [htrace, List.length_append, List.length_singleton]
          omega
        have hle : (spawned (.Ran trace)).length ≤ trace.length := List.length_filterMap_le _ _
        have hin : trace.length - 1 < (spawned (.Ran trace)).length := by omega
        have hs := List.getElem?_eq_getElem hin
        have hr := ht.spawned_iff.mp hs
        rw [hlast, Option.some_inj] at hr
        refine ⟨_, ?_, hr ▸ hstops⟩
        rw [List.getLast?_eq_getElem?, show (spawned (.Ran trace)).length = trace.length by omega]
        exact hs

/-- The transcript is of the spawned commands. -/
theorem entries_eq (json : VerifierJson) (ht : Traced request answers prepared trace) :
    entries_from json 0 trace = (spawned (.Ran trace)).zipIdx.map fun p =>
      transcript_entry ((verification_command_digest json.toVerificationJson p.1.1.capability
        p.1.1.command_index).getD "") p.2 p.1.2 := by
  apply List.ext_getElem?
  intro i
  rw [entries_get json ht.reached, List.getElem?_map, List.getElem?_zipIdx,
    spawned_get ht.reached, Nat.zero_add]
  cases (trace)[i]? with
  | none => rfl
  | some r =>
    obtain ⟨planned, execution⟩ := r
    cases execution <;> rfl

/-- A trace that was stopped by a command, not by its directory, concerns what remains. -/
theorem stopped_of_stops (ht : Traced request answers prepared trace) {r : Reached} (hr : r ∈ trace)
    (hstops : stops r.2 = true) (htamper : r.2 ≠ .SnapshotTamper) :
    request.stopped (.Ran trace) = some (r.1.capability :: r.1.later, contribution r.2)
      ∧ request.concerned r = r.1.remaining := by
  have hlast := ht.getLast_of_stops hr hstops
  obtain ⟨planned, execution⟩ := r
  unfold stopped concerned
  dsimp only
  rw [hlast]
  cases execution with
  | Executed evidence =>
    have hexec : stops (.Executed evidence) = true := hstops
    dsimp only
    rw [if_pos hexec, if_pos hexec]
    exact ⟨rfl, rfl⟩
  | PreSpawn failure => exact ⟨rfl, rfl⟩
  | SnapshotTamper => exact absurd rfl htamper

theorem stopped_eq_some {capabilities : List CapabilityDefinition} {verdict : CriterionResultVerdict}
    (h : request.stopped (.Ran trace) = some (capabilities, verdict)) :
    ∃ r ∈ trace, capabilities = r.1.capability :: r.1.later ∧ verdict = contribution r.2
      ∧ request.concerned r = r.1.remaining := by
  unfold stopped at h
  dsimp only at h
  split at h
  case h_1 planned evidence hlast =>
    split at h
    case isTrue hstops =>
      obtain ⟨rfl, rfl⟩ := Prod.mk.inj (Option.some_inj.mp h)
      refine ⟨_, List.mem_of_getLast? hlast, rfl, rfl, ?_⟩
      unfold concerned
      dsimp only
      rw [if_pos hstops]
    case isFalse => simp at h
  case h_2 planned failure hlast =>
    obtain ⟨rfl, rfl⟩ := Prod.mk.inj (Option.some_inj.mp h)
    exact ⟨_, List.mem_of_getLast? hlast, rfl, rfl, rfl⟩
  case h_3 => simp at h

/-- **The verdict that a trace gives a criterion.** -/
theorem largest_concerning_eq (h : Accepted json request)
    (ht : Traced request answers prepared trace) {host : HostAnswers}
    (hintact : Intact json request host) {criterion : BehaviorCriterion}
    (hcriterion : criterion ∈ request.behavior.criteria) :
    largest (concerning (request.contributions trace) criterion.criterion_id)
      = request.verdict_of json host (.Ran trace) criterion := by
  have hplanned : ∀ r ∈ trace, ∀ c ∈ r.1.capability :: r.1.later, c ∈ request.capabilities := by
    intro r hr
    obtain ⟨i, hi⟩ := List.mem_iff_getElem?.mp hr
    obtain ⟨hhere, hlater, -⟩ := mem_planned_commands (List.mem_of_getElem? (ht.get hi).1)
    rw [List.forall_mem_cons]
    exact ⟨hhere, hlater⟩
  have hid : criterion.criterion_id ∈ request.criterion_ids :=
    List.mem_map.mpr ⟨criterion, hcriterion, rfl⟩
  have hnames : ∀ r ∈ trace, ∀ c ∈ r.1.capability :: r.1.later,
      (criterion.criterion_id ∈ c.criterion_ids
        ↔ criterion.capability_ids.contains c.capability_id = true) := by
    intro r hr c hc
    rw [List.contains_iff_mem]
    exact h.names_iff (hplanned r hr c hc) hcriterion
  -- a criterion remains when one of its capabilities does
  have hremaining : ∀ r ∈ trace, criterion.criterion_id ∈ r.1.remaining
      ↔ ((r.1.capability :: r.1.later).any fun c =>
        criterion.capability_ids.contains c.capability_id) = true := by
    intro r hr
    rw [mem_remaining, List.any_eq_true]
    exact exists_congr fun c => and_congr_right fun hc => hnames r hr c hc
  have htamper : integrity_failed json request host (.Ran trace) = true
      ↔ ∃ r ∈ trace, r.2 = .SnapshotTamper := by
    unfold integrity_failed
    simp [hintact]
  have hown : ∀ {planned evidence}, (planned, PreparedExecution.Executed evidence) ∈ trace →
      stops (.Executed evidence) = false →
      request.concerned (planned, .Executed evidence) = planned.capability.criterion_ids := by
    intro planned evidence _ hgoes
    unfold concerned
    dsimp only
    rw [if_neg (by rw [hgoes]; decide)]
  unfold verdict_of
  dsimp only
  apply le_antisymm
  · rw [largest_le_iff]
    intro v hv
    obtain ⟨r, hr, hconcerned, rfl⟩ := mem_concerning_contributions.mp hv
    by_cases hcwd : r.2 = .SnapshotTamper
    · rw [if_pos (htamper.mpr ⟨r, hr, hcwd⟩)]
      exact le_max_of_le_right (le_max_of_le_right (CriterionResultVerdict.le_invalid _))
    by_cases hstops : stops r.2 = true
    · obtain ⟨hstopped, heq⟩ := ht.stopped_of_stops hr hstops hcwd
      rw [heq, hremaining r hr] at hconcerned
      rw [hstopped, Option.elim_some, if_pos hconcerned]
      exact le_max_of_le_right (le_max_left _ _)
    · rw [Bool.not_eq_true] at hstops
      obtain ⟨planned, execution⟩ := r
      obtain ⟨evidence, rfl, -⟩ := executed_of_not_stops hstops
      rw [hown hr hstops, hnames _ hr _ List.mem_cons_self] at hconcerned
      apply le_max_of_le_left
      apply le_largest
      refine List.mem_map.mpr ⟨(planned, evidence), List.mem_filter.mpr ⟨?_, hconcerned⟩, rfl⟩
      exact List.mem_filterMap.mpr ⟨_, hr, rfl⟩
  · refine max_le ?_ (max_le ?_ ?_)
    · rw [largest_le_iff]
      intro v hv
      obtain ⟨s, hs, rfl⟩ := List.mem_map.mp hv
      obtain ⟨hspawned, hcontains⟩ := List.mem_filter.mp hs
      obtain ⟨r, hr, hof⟩ := List.mem_filterMap.mp hspawned
      rw [spawned_of_eq_some.mp hof] at hr
      apply le_largest
      refine mem_concerning_contributions.mpr ⟨_, hr, ?_, rfl⟩
      have hmem := (hnames _ hr _ List.mem_cons_self).mpr hcontains
      by_cases hstops : stops (.Executed s.2) = true
      · rw [(ht.stopped_of_stops hr hstops (by simp)).2]
        exact mem_remaining.mpr ⟨_, List.mem_cons_self, hmem⟩
      · rw [hown hr (by simpa using hstops)]
        exact hmem
    · cases hstopped : request.stopped (.Ran trace) with
      | none => exact bot_le
      | some stop =>
        obtain ⟨r, hr, hcapabilities, hverdict, heq⟩ := stopped_eq_some hstopped
        rw [Option.elim_some]
        split
        case isTrue hany =>
          rw [hverdict]
          apply le_largest
          refine mem_concerning_contributions.mpr ⟨r, hr, ?_, rfl⟩
          rw [heq, hremaining r hr, ← hcapabilities]
          exact hany
        case isFalse => exact bot_le
    · split
      case isTrue hfailed =>
        obtain ⟨r, hr, hcwd⟩ := htamper.mp hfailed
        apply le_largest
        refine mem_concerning_contributions.mpr ⟨r, hr, ?_, ?_⟩
        · unfold concerned
          rw [hcwd]
          exact hid
        · rw [hcwd]
          rfl
      case isFalse => exact bot_le

end Traced

/-! ## Published bundles -/

section Published

variable {json : VerifierJson} {request : VerifierRequest} {answers : HostAnswers}
  {bundle : VerificationBundle} {transcript : VerificationTranscriptIdentity}

/-- Every planned command was spawned and ended with exit code zero, its executable
unchanged, and source and snapshot are intact at the end. -/
def AllPassed (json : VerifierJson) (request : VerifierRequest) (answers : HostAnswers)
    (course : Course) : Prop :=
  (spawned course).length = request.planned.length
    ∧ (∀ s ∈ spawned course, s.2.termination = .Completed ∧ s.2.exit_code = some 0)
    ∧ Intact json request answers

/-- What a bundle and its transcript say of the course of their verification. -/
structure Exact (json : VerifierJson) (request : VerifierRequest) (answers : HostAnswers)
    (course : Course) (bundle : VerificationBundle) (transcript : VerificationTranscriptIdentity) :
    Prop where
  transcript_eq : transcript.commands = (spawned course).zipIdx.map fun p =>
    transcript_entry ((verification_command_digest json.toVerificationJson p.1.1.capability
      p.1.1.command_index).getD "") p.2 p.1.2
  spawned_prefix : SpawnedPrefix request answers course
  results_eq : bundle.criterion_results = request.behavior.criteria.map fun criterion =>
    criterion.result (request.verdict_of json answers course criterion)
  pass_iff : bundle.verdict = .Pass ↔ AllPassed json request answers course

/-- A bundle that was published of ready accumulators says what they say. -/
theorem exact_of_publish (h : Accepted json request) {course : Course}
    {verdicts : CriterionVerdicts} {events : List FailureEvent}
    {entries : List VerificationTranscriptCommandIdentity} {source_post : String}
    (hr : Ready json request verdicts events ⟨entries⟩)
    (hpost : validate_sha256_digest source_post = true)
    (hdrift : source_post ≠ request.selection.source_fingerprint →
      ∃ event ∈ events, event.code = .SourceDrift)
    (heq : request.verify_and_publish json answers
      = request.publish json verdicts (request.failures_of events) ⟨entries⟩
        request.selection.source_fingerprint source_post)
    (hpublished : request.verify_and_publish json answers = .ok (.Published bundle transcript))
    (hentries : entries = (spawned course).zipIdx.map fun p =>
      transcript_entry ((verification_command_digest json.toVerificationJson p.1.1.capability
        p.1.1.command_index).getD "") p.2 p.1.2)
    (hspawned : SpawnedPrefix request answers course)
    (hverdicts : ∀ criterion ∈ request.behavior.criteria,
      verdicts[criterion.criterion_id]? = some (request.verdict_of json answers course criterion))
    (hevents : events = [] ↔ AllPassed json request answers course) :
    Exact json request answers course bundle transcript := by
  rw [heq, publish_eq h hr] at hpublished
  by_cases hvalid : validate_verification_bundle_bindings json.toVerificationJson request.behavior
      request.capabilities request.selection
      (request.built json verdicts events ⟨entries⟩ source_post) ⟨entries⟩ = true
  · rw [if_pos hvalid, Except.ok.injEq, VerifierOutcome.Published.injEq] at hpublished
    obtain ⟨rfl, rfl⟩ := hpublished
    refine ⟨hentries, hspawned, ?_, ?_⟩
    · refine List.map_congr_left fun criterion hcriterion => ?_
      rw [hverdicts criterion hcriterion]
      rfl
    · rw [built_verdict_pass_iff hr, ← hevents]
      constructor
      · exact ((built_valid_iff h hr hpost hdrift).mp hvalid).1
      · intro hnil id hid
        obtain ⟨verdict, hverdict⟩ := hr.total id hid
        by_contra hne
        have hbad : verdict ≠ .Pass := fun hpass => hne (hpass ▸ hverdict)
        obtain ⟨event, hevent, -⟩ := hr.matched id hid verdict hverdict hbad
        rw [hnil] at hevent
        simp at hevent
  · rw [if_neg hvalid] at hpublished
    simp at hpublished

theorem verdict_of_broken {course : Course} {criterion : BehaviorCriterion}
    (h : integrity_failed json request answers course = true) :
    request.verdict_of json answers course criterion = .Invalid := by
  unfold verdict_of
  rw [if_pos h]
  exact le_antisymm (CriterionResultVerdict.le_invalid _)
    (le_max_of_le_right (le_max_right _ _))

theorem verdict_of_blocked (h : Accepted json request) (sequence : ℕ)
    (failure : RuntimePreflightFailure) {criterion : BehaviorCriterion}
    (hcriterion : criterion ∈ request.behavior.criteria) :
    request.verdict_of json answers (.Blocked sequence failure) criterion
      = (runtime_preflight_shape failure).1 := by
  obtain ⟨capability, hmem, hid⟩ := h.exists_capability hcriterion
  have hany : (request.capabilities.any fun c =>
      criterion.capability_ids.contains c.capability_id) = true :=
    List.any_eq_true.mpr ⟨capability, hmem, List.contains_iff_mem.mpr hid⟩
  have hstopped : request.stopped (.Blocked sequence failure)
      = some (request.capabilities, (runtime_preflight_shape failure).1) := rfl
  have hintegrity : integrity_failed json request answers (.Blocked sequence failure) = false := rfl
  have hspawned : spawned (.Blocked sequence failure) = [] := rfl
  unfold verdict_of
  dsimp only
  rw [hstopped, hintegrity, hspawned, Option.elim_some, if_pos hany, if_neg (by decide),
    List.filter_nil, List.map_nil, largest_nil, ← CriterionResultVerdict.bot_eq, max_bot_right,
    max_bot_left]

/-- No command was spawned: nothing is claimed of any. -/
theorem spawned_prefix_nil {course : Course} (hnone : spawned course = [])
    (hnot : NotSpawned course 0) : SpawnedPrefix request answers course where
  in_order := by rw [hnone]; rfl
  answered i s hs := by rw [hnone] at hs; simp at hs
  goes_on i s hs := by rw [hnone] at hs; simp at hs
  ends _ := by
    right
    rw [hnone]
    exact hnot

theorem not_allPassed_nil (h : Accepted json request) {course : Course}
    (hnone : spawned course = []) : ¬ AllPassed json request answers course := by
  rintro ⟨hlen, -⟩
  rw [hnone, List.length_nil] at hlen
  exact h.planned_ne_nil (List.length_eq_zero_iff.mp hlen.symm)

/-- A trace without events is the whole plan, and passes. -/
theorem allPassed_ran_iff {commands : ℕ → CommandAnswers} {prepared : List PreparedCommand}
    {trace : List Reached} (ht : Traced request commands prepared trace) :
    AllPassed json request answers (.Ran trace)
      ↔ (∀ r ∈ trace, passes r.2) ∧ Intact json request answers := by
  unfold AllPassed
  constructor
  · rintro ⟨hlen, hall, hintact⟩
    refine ⟨?_, hintact⟩
    intro r hr
    obtain ⟨i, hi⟩ := List.mem_iff_getElem?.mp hr
    have hlt : i < (spawned (.Ran trace)).length := by
      have := (List.getElem?_eq_some_iff.mp hi).1
      have := ht.length_le
      omega
    have hs := List.getElem?_eq_getElem hlt
    have hr' := ht.spawned_iff.mp hs
    rw [hi, Option.some_inj] at hr'
    rw [hr', passes_executed]
    exact hall _ (List.mem_of_getElem? hs)
  · rintro ⟨hall, hintact⟩
    refine ⟨?_, ?_, hintact⟩
    · have hlen := (ht.entries_complete json hall).1
      rw [ht.entries_eq json, List.length_map, List.length_zipIdx] at hlen
      exact hlen
    · intro s hs
      obtain ⟨i, hi⟩ := List.mem_iff_getElem?.mp hs
      have hr := hall _ (List.mem_of_getElem? (ht.spawned_iff.mp hi))
      rw [passes_executed] at hr
      exact hr

/-- A verification that ended before its first command. -/
theorem exact_early (h : Accepted json request) {course : Course} (hnone : spawned course = [])
    (hnot : NotSpawned course 0) {event : FailureEvent} (hknown : request.Known event)
    {contribution : CriterionResultVerdict}
    (hmatches : failure_matches_verdict (failure_shape event).1 contribution.bundle = true)
    (hinvalid : event.code = .SourceDrift → contribution = .Invalid) {source_post : String}
    (hpost : validate_sha256_digest source_post = true)
    (hdrift : source_post ≠ request.selection.source_fingerprint → event.code = .SourceDrift)
    (heq : request.verify_and_publish json answers
      = request.publish json (uniform_verdicts request.criterion_ids contribution)
        (request.failures_of [event]) ⟨[]⟩ request.selection.source_fingerprint source_post)
    (hverdict : ∀ criterion ∈ request.behavior.criteria,
      request.verdict_of json answers course criterion = contribution)
    (hpublished : request.verify_and_publish json answers = .ok (.Published bundle transcript)) :
    Exact json request answers course bundle transcript := by
  refine exact_of_publish h (ready_early h hknown hmatches hinvalid) hpost
    (fun hne => ⟨event, List.mem_cons_self, hdrift hne⟩) heq hpublished ?_
    (spawned_prefix_nil hnone hnot) ?_ ?_
  · rw [hnone]
    rfl
  · intro criterion hcriterion
    rw [get_uniform_verdicts h.criterion_ids_nodup contribution
      (List.mem_map.mpr ⟨criterion, hcriterion, rfl⟩), hverdict criterion hcriterion]
  · exact iff_of_false (by simp) (not_allPassed_nil h hnone)

/-- **Published verdicts are exact.** -/
theorem verdicts_exact (h : request.structural_preflight json answers.preflight = .ok ())
    (hpublished : request.verify_and_publish json answers = .ok (.Published bundle transcript)) :
    Exact json request answers (request.course json answers) bundle transcript
      ∧ (request.selection.source_fingerprint ≠ drift_digest "source" →
        (Intact json request answers
          ↔ (inspect_tree json request.source_manifest .Source answers.source_post).isOk = true
            ∧ (inspect_tree json request.source_manifest .Snapshot
              answers.snapshot_post).isOk = true)) := by
  have haccepted := accepted_of_preflight h
  have hfingerprint := SourceManifest.fingerprint_valid haccepted.fingerprint
  constructor
  · cases hcourse : request.course json answers with
    | Unreadable error =>
      have hverify : request.verify_and_publish json answers = _ := ends_with_course h hcourse
      rw [hverify] at hpublished
      simp at hpublished
    | Unspawned error =>
      have hverify : request.verify_and_publish json answers = _ := ends_with_course h hcourse
      rw [hverify] at hpublished
      simp at hpublished
    | Blocked sequence failure =>
      obtain ⟨hlt, heq⟩ := ends_with_course h hcourse
      obtain ⟨-, hmatches, hcode⟩ := blocked_event_shape sequence failure
      rw [publish_pre_spawn_eq haccepted hlt] at heq
      exact exact_early haccepted rfl rfl (Or.inr ⟨sequence, hlt, rfl, command_code_mem⟩) hmatches
        (fun hdrift => absurd hdrift hcode) hfingerprint (fun hpost => absurd rfl hpost) heq
        (fun criterion hcriterion => verdict_of_blocked haccepted sequence failure hcriterion)
        hpublished
    | Drifted =>
      have hverify : request.verify_and_publish json answers = _ := ends_with_course h hcourse
      have heq := hverify.trans (publish_global_integrity_eq haccepted (Or.inl rfl) _)
      exact exact_early haccepted rfl rfl (Or.inl drift_global) drift_global.matches
        (fun _ => rfl) (verification_sha256_hex_valid _) (fun _ => rfl) heq
        (fun criterion _ => verdict_of_broken rfl) hpublished
    | Torn =>
      have hverify : request.verify_and_publish json answers = _ := ends_with_course h hcourse
      have heq := hverify.trans (publish_global_integrity_eq haccepted (Or.inr rfl) _)
      exact exact_early haccepted rfl rfl (Or.inl tamper_global) tamper_global.matches
        (fun _ => rfl) hfingerprint (fun hpost => absurd rfl hpost) heq
        (fun criterion _ => verdict_of_broken rfl) hpublished
    | Ran trace =>
      obtain ⟨prepared, after, ht, hclosed, heq⟩ := ends_with_course h hcourse
      refine exact_of_publish haccepted hclosed.ready (source_post_valid json request _)
        hclosed.drifted.mpr heq hpublished (ht.entries_eq json) (ht.spawned_prefix rfl) ?_ ?_
      · intro criterion hcriterion
        have hid : criterion.criterion_id ∈ request.criterion_ids :=
          List.mem_map.mpr ⟨criterion, hcriterion, rfl⟩
        by_cases hintact : Intact json request answers
        · rw [hclosed.intact hintact, Traced.get_verdicts haccepted trace hid,
            ht.largest_concerning_eq haccepted hintact hcriterion]
        · rw [(hclosed.broken hintact).1 _ hid, verdict_of_broken]
          unfold integrity_failed
          simp [hintact]
      · rw [allPassed_ran_iff ht]
        by_cases hintact : Intact json request answers
        · rw [hclosed.intact hintact, Traced.events_eq_nil_iff]
          exact (and_iff_left hintact).symm
        · exact iff_of_false (hclosed.broken hintact).2 fun hall => hintact hall.2
  · intro hmarker
    unfold Intact source_post
    cases hinspect : inspect_tree json request.source_manifest .Source answers.source_post with
    | ok fingerprint =>
      have hsame : fingerprint = request.selection.source_fingerprint :=
        Except.ok.inj ((inspect_tree_eq_ok.mp hinspect).2.symm.trans haccepted.fingerprint)
      exact and_congr_left fun _ => iff_of_true hsame rfl
    | error e =>
      refine and_congr_left fun _ => iff_of_false (fun heq => hmarker heq.symm) ?_
      simp [Except.isOk, Except.toBool]

end Published

namespace SilentCapability

/-- The executable of the second command is gone when it is prepared. -/
def unprepared : HostAnswers := answers none fun _ => 0

def unprepared_bundle : VerificationBundle :=
  request.built json (uniform_verdicts request.criterion_ids .Blocked)
    [blocked_event 1 .ExecutableUnavailable] ⟨[]⟩ request.selection.source_fingerprint

theorem unprepared_published :
    request.verify_and_publish json unprepared = .ok (.Published unprepared_bundle ⟨[]⟩) := by
  have hpreflight : request.structural_preflight json unprepared.preflight = .ok () := preflight_ok
  have haccepted := accepted_of_preflight hpreflight
  have hcourse : request.course json unprepared = .Blocked 1 .ExecutableUnavailable := by
    unfold unprepared
    rw [course_eq]
    rfl
  obtain ⟨hlt, heq⟩ := ends_with_course hpreflight hcourse
  obtain ⟨hne, hmatches, hcode⟩ := blocked_event_shape 1 .ExecutableUnavailable
  rw [heq, publish_pre_spawn_eq haccepted hlt]
  refine publish_of_ready haccepted (ready_early haccepted
    (Or.inr ⟨1, hlt, rfl, command_code_mem⟩) hmatches fun hdrift => absurd hdrift hcode)
    (SourceManifest.fingerprint_valid haccepted.fingerprint) (fun hpost => absurd rfl hpost) ?_ ?_
  · intro hall
    exact absurd hall (not_allPass_of_eq haccepted hne fun id hid =>
      get_uniform_verdicts haccepted.criterion_ids_nodup _ hid)
  · rintro ⟨event, hmem, hdrift⟩
    rw [List.mem_singleton.mp hmem] at hdrift
    exact absurd hdrift hcode

end SilentCapability

open SilentCapability in
/-- Where the second command cannot be prepared, the first is not spawned either, and the
criterion of its capability is blocked. -/
theorem late_block_is_early :
    request.structural_preflight json unprepared.preflight = .ok ()
      ∧ request.prepare_all unprepared.prepare = .error (1, .ExecutableUnavailable)
      ∧ request.planned.map (fun p => p.capability.capability_id) = ["a.unit", "b.lint"]
      ∧ request.behavior.criteria.map BehaviorCriterion.capability_ids = [["a.unit"]]
      ∧ request.verify_and_publish json unprepared = .ok (.Published unprepared_bundle ⟨[]⟩)
      ∧ unprepared_bundle.criterion_results.map CriterionResult.verdict = [.Blocked] := by
  refine ⟨preflight_ok, ?_, rfl, rfl, unprepared_published, ?_⟩
  · unfold unprepared
    exact prepare_all_eq none
  · unfold unprepared_bundle built results_of
    rfl

open SilentCapability in
theorem unprepared_exact :
    Exact json request unprepared (request.course json unprepared) unprepared_bundle ⟨[]⟩
      ∧ (request.selection.source_fingerprint ≠ drift_digest "source" →
        (Intact json request unprepared
          ↔ (inspect_tree json request.source_manifest .Source unprepared.source_post).isOk = true
            ∧ (inspect_tree json request.source_manifest .Snapshot
              unprepared.snapshot_post).isOk = true)) :=
  verdicts_exact preflight_ok unprepared_published

end VerifierRequest

end OvcaCore

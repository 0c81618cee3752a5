/-
Whether the ledger of an engineer-verifier run is a write-ahead record of its
workspace.

The checks look at an entry, a prepared write and a snapshot each for itself: a
prepared write may be laid down with any new entry, a changed snapshot has to be
the one after the last entry, and a reconciliation has to have its entry, but
nothing asks that an entry starts at the current snapshot, that an applied write
was prepared or that a reconciled entry has its reconciliation. Here is what the
steps of a chain have to do for that.
-/
import OvcaCore.PhaseDiscipline

set_option autoImplicit false

namespace OvcaCore

open OvcaCore.Checks OvcaCore.Chains EngineerVerifier EngineerVerifierLoop

/-! ## Chains of snapshots -/

/-- The entries lead from one snapshot to another, each from where the one before
it has ended. -/
def Linked : String → List ResolvedEffectLedgerEntryV1 → String → Prop
  | before, [], after => before = after
  | before, entry :: entries, after =>
    entry.before_snapshot_digest = before ∧ Linked entry.after_snapshot_digest entries after

theorem linked_concat {before after : String} {entries : List ResolvedEffectLedgerEntryV1}
    {entry : ResolvedEffectLedgerEntryV1} :
    Linked before (entries ++ [entry]) after ↔
      Linked before entries entry.before_snapshot_digest ∧
        entry.after_snapshot_digest = after := by
  induction entries generalizing before with
  | nil =>
    simp only [List.nil_append, Linked]
    exact ⟨fun ⟨h, h'⟩ => ⟨h.symm, h'⟩, fun ⟨h, h'⟩ => ⟨h.symm, h'⟩⟩
  | cons other entries ih =>
    simp only [List.cons_append, Linked, ih, and_assoc]

/-- The snapshot that entries lead to is determined by where they start. -/
theorem Linked.unique {before after after' : String} {entries : List ResolvedEffectLedgerEntryV1}
    (h : Linked before entries after) (h' : Linked before entries after') : after = after' := by
  induction entries generalizing before with
  | nil =>
    simp only [Linked] at h h'
    rw [← h, h']
  | cons entry entries ih =>
    exact ih h.2 h'.2

namespace EngineerVerifierStateV1

section WriteAhead

variable {P : Type} [DecidableEq P] {codec : EngineerVerifierCodec P}

/-! ## What is claimed of a state -/

/-- The ledger leads from the initial to the current snapshot of the workspace. -/
def SnapshotChain (state : EngineerVerifierStateV1 P) : Prop :=
  match state.workspace with
  | some workspace => Linked workspace.initial_snapshot.snapshot_digest state.ledger.entries
      workspace.current_snapshot.snapshot_digest
  | none => state.ledger.entries = []

/-- The reconciliation of a state is that of an entry. -/
def Reconciles (state : EngineerVerifierStateV1 P) (entry : ResolvedEffectLedgerEntryV1) : Prop :=
  ∃ reconciliation, state.write_reconciliation = some reconciliation ∧
    entry.reconciliation_digest = some reconciliation.reconciliation_digest ∧
    entry.effect_id = reconciliation.effect_id ∧
    entry.request_digest = reconciliation.request_digest

/-- Every reconciled entry has its reconciliation. -/
def Reconciled (state : EngineerVerifierStateV1 P) : Prop :=
  ∀ entry ∈ state.ledger.entries, entry.resolution = .WriteReconciledApplied →
    state.Reconciles entry

/-- A prepared write is that of an entry: the effect, the request, the snapshot
before it and the file that the plan has for it. -/
structure PreparedFor (plan : EngineerLogicalPlanV1) (prepared : PreparedWriteEffectV1)
    (entry : ResolvedEffectLedgerEntryV1) : Prop where
  effect_id : prepared.effect_id = entry.effect_id
  request_digest : prepared.request_digest = entry.request_digest
  before : prepared.expected_before_snapshot.snapshot_digest = entry.before_snapshot_digest
  file : ∃ effect, plan.ordered_effects[entry.ordinal]? = some effect ∧
    effect.operation = .WriteFile prepared.intended_after_file.logical_path
      prepared.intended_after_file.sha256 prepared.intended_after_file.byte_length

/-- Every applied write of a state of a chain was prepared in an earlier state of
the attempt. -/
def PreparedFirst (states : List (EngineerVerifierStateV1 P)) : Prop :=
  ∀ j, ∀ _ : j < states.length, ∀ entry ∈ states[j].ledger.entries,
    entry.is_applied_write = true → ∃ i, ∃ _ : i < j, ∃ prepared,
      states[i].attempt = states[j].attempt ∧ states[i].prepared_write = some prepared ∧
        PreparedFor states[j].plan prepared entry

/-! ## What the steps have to do -/

/-- A workspace has not been written to. -/
def starts_fresh (state : EngineerVerifierStateV1 P) : Bool :=
  state.workspace.all fun workspace =>
    workspace.initial_snapshot.snapshot_digest == workspace.current_snapshot.snapshot_digest

/-- The entry that a step appends is from the current snapshot to the next. -/
def follows_snapshot (state next : EngineerVerifierStateV1 P)
    (entry : ResolvedEffectLedgerEntryV1) : Prop :=
  ∃ before after, state.workspace = some before ∧ next.workspace = some after ∧
    entry.before_snapshot_digest = before.current_snapshot.snapshot_digest ∧
    entry.after_snapshot_digest = after.current_snapshot.snapshot_digest

/-- A step takes the snapshots it records from the workspace, and stores a
reconciliation with the entry of it. -/
structure FollowsWorkspace (state next : EngineerVerifierStateV1 P) : Prop where
  fresh : next.attempt ≠ state.attempt → next.starts_fresh = true
  snapshots : ∀ entry, next.ledger.entries = state.ledger.entries ++ [entry] →
    state.follows_snapshot next entry
  reconciliation : ∀ entry, next.ledger.entries = state.ledger.entries ++ [entry] →
    entry.resolution = .WriteReconciledApplied → next.Reconciles entry

/-- A step records an applied write only of the write that is prepared. -/
def WritesPrepared (state next : EngineerVerifierStateV1 P) : Prop :=
  ∀ entry, next.ledger.entries = state.ledger.entries ++ [entry] → entry.is_applied_write = true →
    ∃ prepared, state.prepared_write = some prepared ∧ prepared.effect_id = entry.effect_id ∧
      prepared.request_digest = entry.request_digest

/-! ## Entries and prepared writes -/

/-- An entry of a valid ledger is of the effect at its position. -/
theorem Valid.entry {sha256 : EngineerVerifierDigests P} {state : EngineerVerifierStateV1 P}
    (h : Valid sha256 state) {i : ℕ} {entry : ResolvedEffectLedgerEntryV1}
    (hentry : state.ledger.entries[i]? = some entry) :
    entry.ordinal = i ∧ entry.valid_identity = true ∧
      ∃ effect, state.plan.ordered_effects[i]? = some effect ∧
        entry.effect_id = effect.effect_id := by
  have hledger := h.ledger
  simp only [ResolvedEffectLedgerV1.validate_against, ResolvedEffectLedgerV1.validate_without_digest,
    bind_eq_ok, reject_if_eq_ok, exists_const, exists_and_right, exists_unit_eq_ok,
    check_enumerated_eq_ok] at hledger
  have hvalid := hledger.1.2.2.2 i entry hentry
  simp only [ResolvedEffectLedgerV1.validate_entry, ResolvedEffectLedgerEntryV1.validate,
    bind_eq_ok, reject_if_eq_ok, ok_or_eq_ok, exists_const, exists_and_right, exists_unit_eq_ok,
    not_or, ne_eq, not_not] at hvalid
  obtain ⟨⟨_, _, _, _, _, hidentity, _⟩, _, effect, heffect, _, _, _, hordinal, hid, _⟩ := hvalid
  exact ⟨hordinal, hidentity, effect, heffect, hid⟩

/-- What a valid state has with a prepared write. -/
theorem Valid.prepared_write {sha256 : EngineerVerifierDigests P}
    {state : EngineerVerifierStateV1 P} (h : Valid sha256 state) {prepared : PreparedWriteEffectV1}
    (hprepared : state.prepared_write = some prepared) :
    state.ledger.entries.length = prepared.ordinal ∧
      (∃ effect, state.plan.ordered_effects[prepared.ordinal]? = some effect ∧
        effect.effect_id = prepared.effect_id ∧
        effect.operation = .WriteFile prepared.intended_after_file.logical_path
          prepared.intended_after_file.sha256 prepared.intended_after_file.byte_length) ∧
      ∃ workspace, state.workspace = some workspace ∧
        prepared.expected_before_snapshot = workspace.current_snapshot := by
  have hvalid := h.prepared
  rw [validate_prepared, check_some_eq_ok] at hvalid
  have hchecks := hvalid prepared hprepared
  simp only [bind_eq_ok, reject_if_eq_ok, ok_or_eq_ok, exists_and_right, exists_unit_eq_ok, not_or,
    ne_eq, not_not] at hchecks
  obtain ⟨hwrite, effect, heffect, _, _, workspace, hworkspace, hlength, hid, hoperation, _, _, _,
    _, _, _, _, hsnapshot, _⟩ := hchecks
  refine ⟨hlength, ⟨effect, heffect, hid, ?_⟩, workspace, hworkspace, hsnapshot⟩
  simp only [PreparedWriteEffectV1.validate, bind_eq_ok, reject_if_eq_ok, exists_const,
    exists_and_right, exists_unit_eq_ok] at hwrite
  obtain ⟨_, _, _, _, _, _, _, hwrite⟩ := hwrite
  rw [hoperation]
  cases hkind : prepared.request.operation with
  | ReadFile _ => simp [hkind] at hwrite
  | Unsupported _ _ => simp [hkind] at hwrite
  | WriteFile logical_path content_sha256 byte_length =>
    simp only [hkind, PreparedWriteEffectV1.validate_write, reject_if_eq_ok, not_or, ne_eq,
      not_not] at hwrite
    obtain ⟨_, _, _, _, _, _, _, _, hpath, hsha256, hlength, _⟩ := hwrite
    rw [hpath, hsha256, hlength]

omit [DecidableEq P] in
/-- A step within an attempt leaves the entries alone or appends one. -/
theorem Grows.appends {state next : EngineerVerifierStateV1 P} (h : state.Grows next) :
    next.ledger.entries = state.ledger.entries ∨
      ∃ entry, next.ledger.entries = state.ledger.entries ++ [entry] := by
  obtain ⟨added, hadded⟩ := h.ledger
  have hlength := h.ledger_length
  rw [← hadded, List.length_append] at hlength
  rcases added with _ | ⟨entry, _ | ⟨other, added⟩⟩
  · exact Or.inl (by rw [← hadded, List.append_nil])
  · exact Or.inr ⟨entry, hadded.symm⟩
  · simp only [List.length_cons] at hlength
    omega

omit [DecidableEq P] in
/-- The workspace of an attempt stays, with its initial snapshot, and its current
snapshot only changes with an entry. -/
theorem Proceeds.snapshots {state next : EngineerVerifierStateV1 P} (h : state.Proceeds next) :
    state.workspace = none ∧ next.workspace = none ∨
      ∃ before after, state.workspace = some before ∧ next.workspace = some after ∧
        after.initial_snapshot = before.initial_snapshot ∧
        (next.ledger.entries = state.ledger.entries →
          after.current_snapshot = before.current_snapshot) := by
  have hworkspace := h.workspace
  unfold workspace_successor at hworkspace
  cases hbefore : state.workspace with
  | none =>
    cases hafter : next.workspace with
    | none => exact Or.inl ⟨rfl, rfl⟩
    | some after => simp [hbefore, hafter] at hworkspace
  | some before =>
    cases hafter : next.workspace with
    | none => simp [hbefore, hafter] at hworkspace
    | some after =>
      simp only [hbefore, hafter, Bool.and_eq_true] at hworkspace
      obtain ⟨⟨⟨hdisposition, _⟩, hsnapshot⟩, _⟩ := hworkspace
      simp only [disposition_successor, Bool.and_eq_true, beq_iff_eq, and_assoc] at hdisposition
      refine Or.inr ⟨before, after, rfl, rfl, hdisposition.2.2.1.symm, ?_⟩
      intro hsame
      simp only [snapshot_successor, Bool.or_eq_true, beq_iff_eq, Option.any_eq_true,
        Bool.and_eq_true, hsame] at hsnapshot
      rcases hsnapshot with hsnapshot | ⟨entry, _, hlength, _⟩
      · exact hsnapshot
      · omega

/-! ## Snapshots and reconciliations -/

/-- A step that follows the workspace keeps the chain of snapshots. -/
theorem Succeeds.snapshotChain {state next : EngineerVerifierStateV1 P}
    (h : Succeeds codec state next) (hfollows : state.FollowsWorkspace next)
    (hchain : state.SnapshotChain) : next.SnapshotChain := by
  rcases h.step with ⟨pending, _, rfl⟩ | hstep
  · exact hchain
  unfold SnapshotChain at hchain ⊢
  rcases hstep.attempt with hretries | hproceeds
  · obtain ⟨_, after, _, hafter, _⟩ := hretries.workspaces
    have hattempt := hretries.attempt
    have hfresh := hfollows.fresh (by omega)
    rw [starts_fresh, hafter, Option.all_some, beq_iff_eq] at hfresh
    rw [hafter, hretries.ledger]
    exact hfresh
  · rcases hproceeds.snapshots with ⟨hbefore, hafter⟩ | ⟨before, after, hbefore, hafter, hinitial,
      hcurrent⟩
    · rw [hbefore] at hchain
      rw [hafter]
      rcases hproceeds.grows.appends with hsame | ⟨entry, happended⟩
      · rw [hsame]
        exact hchain
      · obtain ⟨workspace, _, hworkspace, _⟩ := hfollows.snapshots entry happended
        rw [hbefore] at hworkspace
        cases hworkspace
    · rw [hbefore] at hchain
      rw [hafter]
      simp only [hinitial]
      rcases hproceeds.grows.appends with hsame | ⟨entry, happended⟩
      · rw [hsame, hcurrent hsame]
        exact hchain
      · obtain ⟨before', after', hbefore', hafter', hfrom, hto⟩ :=
          hfollows.snapshots entry happended
        rw [hbefore] at hbefore'
        rw [hafter] at hafter'
        obtain rfl := Option.some.inj hbefore'
        obtain rfl := Option.some.inj hafter'
        rw [happended, linked_concat, hfrom]
        exact ⟨hchain, hto⟩

/-- A step that follows the workspace keeps its reconciliations. -/
theorem Succeeds.reconciled {state next : EngineerVerifierStateV1 P}
    (h : Succeeds codec state next) (hfollows : state.FollowsWorkspace next)
    (hreconciled : state.Reconciled) : next.Reconciled := by
  rcases h.step with ⟨pending, _, rfl⟩ | hstep
  · exact hreconciled
  intro entry hentry hresolution
  rcases hstep.attempt with hretries | hproceeds
  · rw [hretries.ledger] at hentry
    cases hentry
  have hold : entry ∈ state.ledger.entries → next.Reconciles entry := by
    intro hmem
    obtain ⟨reconciliation, hsome, hmatches⟩ := hreconciled entry hmem hresolution
    exact ⟨reconciliation, hproceeds.grows.write_reconciliation _ hsome, hmatches⟩
  rcases hproceeds.grows.appends with hsame | ⟨added, happended⟩
  · rw [hsame] at hentry
    exact hold hentry
  · rw [happended, List.mem_append, List.mem_singleton] at hentry
    rcases hentry with hmem | rfl
    · exact hold hmem
    · exact hfollows.reconciliation entry happended hresolution

/-- A step between two chains of snapshots has followed the workspace. -/
theorem Succeeds.followsWorkspace {state next : EngineerVerifierStateV1 P}
    (h : Succeeds codec state next) (hchain : state.SnapshotChain) (hnext : next.SnapshotChain)
    (hreconciled : next.Reconciled) : state.FollowsWorkspace next := by
  unfold SnapshotChain at hchain hnext
  have hgrows : ∀ entry, next.ledger.entries = state.ledger.entries ++ [entry] →
      state.Proceeds next := by
    intro entry happended
    rcases h.step with ⟨pending, _, rfl⟩ | hstep
    · have hlength := congrArg List.length happended
      rw [List.length_append, List.length_singleton] at hlength
      have hsame : (state.acknowledged pending).ledger = state.ledger := rfl
      rw [hsame] at hlength
      omega
    · rcases hstep.attempt with hretries | hproceeds
      · rw [hretries.ledger] at happended
        exact absurd happended.symm (by simp)
      · exact hproceeds
  refine ⟨?_, ?_, ?_⟩
  · intro hattempt
    rcases h.step with ⟨pending, _, rfl⟩ | hstep
    · exact absurd rfl hattempt
    rcases hstep.attempt with hretries | hproceeds
    · obtain ⟨_, after, _, hafter, _⟩ := hretries.workspaces
      rw [hafter, hretries.ledger] at hnext
      rw [starts_fresh, hafter, Option.all_some, beq_iff_eq]
      exact hnext
    · exact absurd hproceeds.attempt hattempt
  · intro entry happended
    rcases (hgrows entry happended).snapshots with ⟨_, hafter⟩ | ⟨before, after, hbefore, hafter,
      hinitial, _⟩
    · rw [hafter, happended] at hnext
      exact absurd hnext (by simp)
    · rw [hbefore] at hchain
      rw [hafter, happended] at hnext
      simp only [hinitial] at hnext
      obtain ⟨hlinked, hto⟩ := linked_concat.mp hnext
      exact ⟨before, after, hbefore, hafter, hlinked.unique hchain, hto⟩
  · intro entry happended hresolution
    refine hreconciled entry ?_ hresolution
    rw [happended]
    exact List.mem_append_right _ (List.mem_singleton_self entry)

variable {first : EngineerVerifierStateV1 P} {rest : List (EngineerVerifierStateV1 P)}

theorem snapshotChain_of_install (h : first.validate_initial_install codec = .ok ()) :
    first.SnapshotChain ↔ first.starts_fresh = true := by
  obtain ⟨_, huntouched, _⟩ := validate_initial_install_eq_ok h
  unfold SnapshotChain starts_fresh
  rw [huntouched.ledger]
  cases first.workspace with
  | none => simp
  | some workspace => simp [Linked]

/-- The snapshots and the reconciliations of a chain are those of its workspace
exactly when it starts fresh and its steps follow the workspace. -/
theorem AcceptedChain.snapshots_iff (h : AcceptedChain codec first rest) :
    (∀ state ∈ first :: rest, state.SnapshotChain ∧ state.Reconciled) ↔
      first.starts_fresh = true ∧ ∀ step ∈ steps first rest, step.1.FollowsWorkspace step.2 := by
  constructor
  · intro hstates
    refine ⟨(snapshotChain_of_install h.installed).mp (hstates first List.mem_cons_self).1, ?_⟩
    intro step hstep
    obtain ⟨hbefore, hafter⟩ := mem_of_mem_steps hstep
    exact (h.succeeds step hstep).followsWorkspace (hstates _ hbefore).1 (hstates _ hafter).1
      (hstates _ hafter).2
  · rintro ⟨hfresh, hfollows⟩
    refine chain_invariant ⟨(snapshotChain_of_install h.installed).mpr hfresh, ?_⟩ ?_
    · intro entry hentry
      rw [(validate_initial_install_eq_ok h.installed).2.1.ledger] at hentry
      cases hentry
    · rintro step hstep ⟨hchain, hreconciled⟩
      exact ⟨(h.succeeds step hstep).snapshotChain (hfollows step hstep) hchain,
        (h.succeeds step hstep).reconciled (hfollows step hstep) hreconciled⟩

/-! ## Prepared writes -/

/-- The entry that a step appends is of the write that is prepared, when it is of
its effect and its request. -/
theorem Succeeds.preparedFor {state next : EngineerVerifierStateV1 P}
    (h : Succeeds codec state next) (hfollows : state.FollowsWorkspace next)
    {entry : ResolvedEffectLedgerEntryV1} {prepared : PreparedWriteEffectV1}
    (happended : next.ledger.entries = state.ledger.entries ++ [entry])
    (hprepared : state.prepared_write = some prepared)
    (heffect : prepared.effect_id = entry.effect_id)
    (hrequest : prepared.request_digest = entry.request_digest) :
    PreparedFor next.plan prepared entry := by
  obtain ⟨hordinal, ⟨effect, hplanned, _, hoperation⟩, workspace, hworkspace, hsnapshot⟩ :=
    (validate_eq_ok h.valid).prepared_write hprepared
  obtain ⟨before, _, hbefore, _, hfrom, _⟩ := hfollows.snapshots entry happended
  rw [hworkspace] at hbefore
  obtain rfl := Option.some.inj hbefore
  have hposition : next.ledger.entries[state.ledger.entries.length]? = some entry := by
    rw [happended, List.getElem?_append_right (le_refl _), Nat.sub_self]
    rfl
  have hentry := ((validate_eq_ok h.next_valid).entry hposition).1
  refine ⟨heffect, hrequest, by rw [hsnapshot, hfrom], effect, ?_, hoperation⟩
  rw [hentry, h.same_run.plan, hordinal]
  exact hplanned

/-- The run lemma: when the steps write what is prepared, every applied write of
the chain was prepared first. -/
theorem AcceptedChain.preparedFirst (h : AcceptedChain codec first rest)
    (hfollows : ∀ step ∈ steps first rest, step.1.FollowsWorkspace step.2)
    (hwrites : ∀ step ∈ steps first rest, step.1.WritesPrepared step.2) :
    PreparedFirst (first :: rest) := by
  intro j
  induction j with
  | zero =>
    intro hj entry hentry
    have hempty := (validate_initial_install_eq_ok h.installed).2.1.ledger
    rw [List.getElem_cons_zero, hempty] at hentry
    cases hentry
  | succ j ih =>
    intro hj entry hentry happlied
    have hstep : ((first :: rest)[j], (first :: rest)[j + 1]) ∈ steps first rest :=
      mem_steps_iff.mpr ⟨j, hj, rfl⟩
    have hsucceeds := h.succeeds _ hstep
    have hplan := hsucceeds.same_run.plan
    simp only at hsucceeds hplan
    have hold : (first :: rest)[j + 1].attempt = (first :: rest)[j].attempt →
        entry ∈ (first :: rest)[j].ledger.entries → ∃ i, ∃ _ : i < j + 1, ∃ prepared,
          (first :: rest)[i].attempt = (first :: rest)[j + 1].attempt ∧
            (first :: rest)[i].prepared_write = some prepared ∧
            PreparedFor (first :: rest)[j + 1].plan prepared entry := by
      intro hattempt hmem
      obtain ⟨i, hi, prepared, hsame, hprepared, hfor⟩ := ih (by omega) entry hmem happlied
      exact ⟨i, by omega, prepared, hsame.trans hattempt.symm, hprepared, by rwa [hplan]⟩
    rcases hsucceeds.step with ⟨pending, _, hack⟩ | hadvances
    · refine hold (by rw [hack]; rfl) ?_
      rw [hack] at hentry
      exact hentry
    rcases hadvances.attempt with hretries | hproceeds
    · rw [hretries.ledger] at hentry
      cases hentry
    rcases hproceeds.grows.appends with hsame | ⟨added, happended⟩
    · exact hold hproceeds.attempt (hsame ▸ hentry)
    · rw [happended, List.mem_append, List.mem_singleton] at hentry
      rcases hentry with hmem | rfl
      · exact hold hproceeds.attempt hmem
      · obtain ⟨prepared, hprepared, heffect, hrequest⟩ := hwrites _ hstep entry happended happlied
        exact ⟨j, by omega, prepared, hproceeds.attempt.symm, hprepared,
          hsucceeds.preparedFor (hfollows _ hstep) happended hprepared heffect hrequest⟩

omit [DecidableEq P] in
/-- The effects of a valid plan have different ids. -/
theorem effect_position_unique {sha256 : EngineerVerifierDigests P} {plan : EngineerLogicalPlanV1}
    (h : plan.validate sha256 = .ok ()) {i j : ℕ} {effect effect' : PlannedToolEffectTemplateV1}
    (hi : plan.ordered_effects[i]? = some effect) (hj : plan.ordered_effects[j]? = some effect')
    (hsame : effect.effect_id = effect'.effect_id) : i = j := by
  simp only [EngineerLogicalPlanV1.validate, EngineerLogicalPlanV1.validate_without_digest,
    bind_eq_ok, exists_const, exists_and_right, exists_unit_eq_ok, check_enumerated_eq_ok] at h
  have hnew : ∀ (a b : ℕ) (x y : PlannedToolEffectTemplateV1), a < b → plan.ordered_effects[a]? = some x →
      plan.ordered_effects[b]? = some y → x.effect_id ≠ y.effect_id := by
    intro a b x y hab ha hb heq
    have hvalid := h.1.2.2.2.2.2.2.2 b y hb
    simp only [EngineerLogicalPlanV1.validate_effect, bind_eq_ok, reject_if_eq_ok, exists_const,
      exists_and_right, exists_unit_eq_ok, not_or] at hvalid
    refine hvalid.2.2.1.2 (List.mem_map.mpr ⟨x, ?_, heq⟩)
    exact List.mem_iff_getElem?.mpr ⟨a, by rw [List.getElem?_take_of_lt hab]; exact ha⟩
  by_contra hne
  rcases Nat.lt_or_gt_of_ne hne with hlt | hlt
  · exact hnew i j effect effect' hlt hi hj hsame
  · exact hnew j i effect' effect hlt hj hi hsame.symm

/-- A prepared write stays until the ledger grows, unless the run is cancelled. -/
theorem AcceptedChain.prepared_stays (h : AcceptedChain codec first rest) {i j : ℕ}
    (hi : i < (first :: rest).length) (hij : i ≤ j) (hj : j < (first :: rest).length)
    (hattempt : (first :: rest)[i].attempt = (first :: rest)[j].attempt)
    (hlength : (first :: rest)[i].ledger.entries.length
      = (first :: rest)[j].ledger.entries.length)
    (hphase : (first :: rest)[j].phase ≠ .Cancelled) {prepared : PreparedWriteEffectV1}
    (hprepared : (first :: rest)[i].prepared_write = some prepared) :
    (first :: rest)[j].prepared_write = some prepared := by
  induction j with
  | zero =>
    obtain rfl : i = 0 := by omega
    exact hprepared
  | succ j ih =>
    by_cases hlast : i = j + 1
    · subst hlast
      exact hprepared
    have hstep : ((first :: rest)[j], (first :: rest)[j + 1]) ∈ steps first rest :=
      mem_steps_iff.mpr ⟨j, hj, rfl⟩
    have hsucceeds := h.succeeds _ hstep
    simp only at hsucceeds
    -- between the two states the attempt and the ledger stand still
    obtain ⟨hle, hkeeps⟩ := h.keeps (i := i) (j := j) (by omega) (by omega)
    obtain ⟨hle', hkeeps'⟩ := h.keeps (i := j) (j := j + 1) (by omega) hj
    have hsame : (first :: rest)[i].attempt = (first :: rest)[j].attempt := by omega
    have hnext : (first :: rest)[j].attempt = (first :: rest)[j + 1].attempt := by omega
    have hprefix := (hkeeps hsame).ledger.length_le
    have hprefix' := (hkeeps' hnext).ledger.length_le
    have hstays : (first :: rest)[j].phase ≠ .Cancelled := by
      intro hcancelled
      have hterminal : (first :: rest)[j].phase.is_terminal = true := by rw [hcancelled]; rfl
      exact hphase ((hsucceeds.disciplined.terminal_phase hterminal).trans hcancelled)
    have hbefore := ih (by omega) (by omega) hsame (by omega) hstays
    rcases hsucceeds.step with ⟨pending, _, hack⟩ | hadvances
    · rw [hack]
      exact hbefore
    rcases hadvances.attempt with hretries | hproceeds
    · have hraised := hretries.attempt
      omega
    · have hsuccessor := hproceeds.prepared
      simp only [prepared_successor, hbefore, Option.isNone_some, Option.isSome_some,
        Bool.false_and, Bool.true_and, Bool.or_false, Bool.or_eq_true, Bool.and_eq_true,
        beq_iff_eq] at hsuccessor
      rcases hsuccessor with hkept | ⟨_, hgrown | hcancelled⟩
      · exact hkept.symm
      · omega
      · exact absurd hcancelled hphase

/-- When every applied write of a chain was prepared first, the steps write what is
prepared, as long as the run is not cancelled. -/
theorem AcceptedChain.writesPrepared (h : AcceptedChain codec first rest)
    (hfirst : PreparedFirst (first :: rest)) {step : EngineerVerifierStateV1 P ×
      EngineerVerifierStateV1 P} (hstep : step ∈ steps first rest)
    (hphase : step.1.phase ≠ .Cancelled) : step.1.WritesPrepared step.2 := by
  obtain ⟨j, hj, rfl⟩ := mem_steps_iff.mp hstep
  intro entry happended happlied
  simp only at happended hphase ⊢
  have hentry : entry ∈ (first :: rest)[j + 1].ledger.entries := by
    rw [happended]
    exact List.mem_append_right _ (List.mem_singleton_self entry)
  obtain ⟨i, hi, prepared, hattempt, hprepared, hfor⟩ := hfirst (j + 1) hj entry hentry happlied
  obtain ⟨hle, _⟩ := h.keeps (i := i) (j := j) (by omega) (by omega)
  obtain ⟨hle', _⟩ := h.keeps (i := j) (j := j + 1) (by omega) hj
  have hsame : (first :: rest)[i].attempt = (first :: rest)[j].attempt := by omega
  -- the entry is of the effect that the write was prepared for, so the ledger has not grown
  have hposition : (first :: rest)[j + 1].ledger.entries[(first :: rest)[j].ledger.entries.length]?
      = some entry := by
    rw [happended, List.getElem?_append_right (le_refl _), Nat.sub_self]
    rfl
  obtain ⟨_, _, effect, hplanned, heffect⟩ :=
    (h.valid _ (List.getElem_mem hj)).entry hposition
  have hi' : i < (first :: rest).length := by omega
  obtain ⟨hordinal, ⟨effect', hplanned', heffect', _⟩, _⟩ :=
    (h.valid _ (List.getElem_mem hi')).prepared_write hprepared
  have hplan : (first :: rest)[i].plan = (first :: rest)[j + 1].plan := by
    rw [(h.same_identity _ (List.getElem_mem hi')).plan,
      (h.same_identity _ (List.getElem_mem hj)).plan]
  rw [hplan] at hplanned'
  have hids : effect'.effect_id = effect.effect_id := by
    rw [heffect', hfor.effect_id, heffect]
  have hsamePosition := effect_position_unique (h.valid _ (List.getElem_mem hj)).plan hplanned'
    hplanned hids
  refine ⟨prepared, ?_, hfor.effect_id, hfor.request_digest⟩
  exact h.prepared_stays hi' (by omega) (by omega) hsame (by omega) hphase hprepared

/-! ## The write-ahead record -/

/-- The ledgers of a chain are write-ahead records of its workspace. -/
structure WriteAhead (states : List (EngineerVerifierStateV1 P)) : Prop where
  snapshots : ∀ state ∈ states, state.SnapshotChain
  reconciled : ∀ state ∈ states, state.Reconciled
  prepared : PreparedFirst states

/-- The steps of a chain start each attempt in a workspace that has not been
written to, and append entries of the current snapshot, of the prepared write and
with its reconciliation. -/
structure RecordsWrites (first : EngineerVerifierStateV1 P)
    (rest : List (EngineerVerifierStateV1 P)) : Prop where
  fresh : first.starts_fresh = true
  follows : ∀ step ∈ steps first rest, step.1.FollowsWorkspace step.2
  writes : ∀ step ∈ steps first rest, step.1.WritesPrepared step.2

/-- **The ledger is a write-ahead record when the steps record what they write**,
and only then, but for a write that is recorded when the run has been cancelled. -/
theorem write_ahead (h : AcceptedChain codec first rest) :
    (RecordsWrites first rest → WriteAhead (first :: rest)) ∧
    (WriteAhead (first :: rest) → first.starts_fresh = true ∧
      ∀ step ∈ steps first rest, step.1.FollowsWorkspace step.2 ∧
        (step.1.phase ≠ .Cancelled → step.1.WritesPrepared step.2)) := by
  constructor
  · intro hrecords
    have hstates := h.snapshots_iff.mpr ⟨hrecords.fresh, hrecords.follows⟩
    exact ⟨fun state hstate => (hstates state hstate).1, fun state hstate => (hstates state hstate).2,
      h.preparedFirst hrecords.follows hrecords.writes⟩
  · intro hahead
    obtain ⟨hfresh, hfollows⟩ := h.snapshots_iff.mp fun state hstate =>
      ⟨hahead.snapshots state hstate, hahead.reconciled state hstate⟩
    refine ⟨hfresh, ?_⟩
    intro step hstep
    exact ⟨hfollows step hstep, h.writesPrepared hahead.prepared hstep⟩

end WriteAhead

/-! ## A run that writes a file -/

namespace LocalRun

def file : WorkspaceFileV1 := ⟨"out.txt", digest 31, 5⟩

def write_effect : PlannedToolEffectTemplateV1 where
  contract_version := 1
  ordinal := 0
  effect_id := "write"
  operation := .WriteFile "out.txt" (digest 31) 5
  payload_sha256 := digest 31

def request : ToolRequestV1 where
  contract_version := 1
  request_id := "request." ++ digest 8
  idempotency_key := "idempotency." ++ digest 9
  invocation_id := "invocation"
  invocation_digest := digest 2
  attempt := 1
  grant_id := "grant"
  grant_digest := digest 121
  lease_id := "lease"
  lease_digest := digest 111
  workspace_id := "workspace"
  expected_snapshot_digest := digest 100
  requester := engineer
  scope := scope
  operation := write_effect.operation
  requested_at := at_ 3

def prepared : PreparedWriteEffectV1 where
  contract_version := 1
  ordinal := 0
  effect_id := "write"
  request := request
  request_digest := digest 4
  payload_sha256 := digest 31
  lease_digest := digest 111
  grant_digest := digest 121
  expected_before_snapshot := snapshot 0 []
  expected_before_file := none
  intended_after_snapshot := snapshot 1 [file]
  intended_after_file := file
  reserved_sequence := 1
  prepared_at := at_ 3

def reconciliation : WriteReconciliationV1 where
  contract_version := 1
  effect_id := "write"
  request_digest := digest 4
  expected_before_snapshot_digest := digest 100
  intended_after_snapshot_digest := digest 101
  observed_snapshot_digest := digest 101
  reconciled_at := at_ 4
  reconciliation_digest := digest 12

/-- The entry of the write that was found applied. -/
def reconciled_entry : ResolvedEffectLedgerEntryV1 where
  contract_version := 1
  ordinal := 0
  effect_id := "write"
  request_id := "request." ++ digest 8
  request_digest := digest 4
  idempotency_key := "idempotency." ++ digest 9
  resolution := .WriteReconciledApplied
  tool_receipt_digest := none
  reconciliation_digest := some (digest 12)
  before_snapshot_digest := digest 100
  after_snapshot_digest := digest 101

def writing : EngineerVerifierStateV1 Payload :=
  announced .Planned .ClaimAccepted (opened 1 [write_effect])

def with_entry (state : EngineerVerifierStateV1 Payload) : EngineerVerifierStateV1 Payload :=
  rehashed { state with
    ledger := { state.ledger with
      entries := [reconciled_entry]
      resolved_effect_ledger_digest := digest 161 } }

def prepared_state : EngineerVerifierStateV1 Payload :=
  { settled writing with prepared_write := some prepared }

/-- The prepared write is found in the workspace, and reconciled. -/
def reconciled_state : EngineerVerifierStateV1 Payload :=
  with_entry { prepared_state with
    prepared_write := none
    write_reconciliation := some reconciliation
    workspace := some { workspace 1 with current_snapshot := snapshot 1 [file] } }

def written : List (EngineerVerifierStateV1 Payload) :=
  [settled writing, prepared_state, reconciled_state]

/-- The entry of the write without the write. -/
def unwritten : List (EngineerVerifierStateV1 Payload) :=
  [settled writing, with_entry (settled writing)]

def writing_codec : EngineerVerifierCodec Payload :=
  codec [phase_projection (opened 1 [write_effect]) .Planned .ClaimAccepted]

/-- The acknowledged claim, behind which the two runs part. -/
theorem writing_accepted : AcceptedChain writing_codec writing [settled writing] := by
  refine ⟨isOk_iff.mp (by decide +kernel), isChain_iff_steps.mpr ?_⟩
  simp only [steps_cons, steps_nil, List.forall_mem_cons]
  exact ⟨isOk_iff.mp (by decide +kernel), List.forall_mem_nil _⟩

theorem writing_successors :
    (settled writing).validate_successor writing_codec prepared_state = .ok ()
      ∧ prepared_state.validate_successor writing_codec reconciled_state = .ok ()
      ∧ (settled writing).validate_successor writing_codec (with_entry (settled writing))
        = .ok () := by
  refine ⟨?_, ?_, ?_⟩
  all_goals exact isOk_iff.mp (by decide +kernel)

theorem written_accepted : AcceptedChain writing_codec writing written := by
  obtain ⟨hprepared, hreconciled, -⟩ := writing_successors
  exact AcceptedChain.concat (AcceptedChain.concat writing_accepted hprepared) hreconciled

theorem unwritten_accepted : AcceptedChain writing_codec writing unwritten := by
  obtain ⟨-, -, hentry⟩ := writing_successors
  exact AcceptedChain.concat writing_accepted hentry

/-- The steps of the run record what they write. -/
theorem written_records : RecordsWrites writing written := by
  have hentry : ∀ step ∈ steps writing written, ∀ entry,
      step.2.ledger.entries = step.1.ledger.entries ++ [entry] →
        step = (prepared_state, reconciled_state) ∧ entry = reconciled_entry := by
    intro step hstep entry happended
    simp only [written, steps_cons, steps_nil, List.mem_cons, List.not_mem_nil, or_false] at hstep
    rcases hstep with rfl | rfl | rfl
    · exact absurd happended.symm (List.append_ne_nil_of_right_ne_nil _ (List.cons_ne_nil _ _))
    · exact absurd happended.symm (List.append_ne_nil_of_right_ne_nil _ (List.cons_ne_nil _ _))
    · exact ⟨rfl, (List.head_eq_of_cons_eq happended).symm⟩
  refine ⟨by decide, ?_, ?_⟩
  · intro step hstep
    refine ⟨?_, ?_, ?_⟩
    · intro hattempt
      simp only [written, steps_cons, steps_nil, List.mem_cons, List.not_mem_nil,
        or_false] at hstep
      rcases hstep with rfl | rfl | rfl <;> exact absurd rfl hattempt
    · intro entry happended
      obtain ⟨rfl, rfl⟩ := hentry step hstep entry happended
      exact ⟨_, _, rfl, rfl, rfl, rfl⟩
    · intro entry happended _
      obtain ⟨rfl, rfl⟩ := hentry step hstep entry happended
      exact ⟨reconciliation, rfl, rfl, rfl, rfl⟩
  · intro step hstep entry happended _
    obtain ⟨rfl, rfl⟩ := hentry step hstep entry happended
    exact ⟨prepared, rfl, rfl, rfl⟩

end LocalRun

/-- The run that prepares its write has a write-ahead record. -/
theorem write_ahead_written : WriteAhead (LocalRun.writing :: LocalRun.written) :=
  (write_ahead LocalRun.written_accepted).1 LocalRun.written_records

/-- A write is recorded as applied, by a reconciliation that is not there, in a run
that has never prepared one and whose workspace is as it was. -/
theorem unwritten_recorded :
    AcceptedChain LocalRun.writing_codec LocalRun.writing LocalRun.unwritten ∧
      (final LocalRun.writing LocalRun.unwritten).ledger.entries = [LocalRun.reconciled_entry] ∧
      (∀ state ∈ LocalRun.writing :: LocalRun.unwritten, state.prepared_write = none) ∧
      (final LocalRun.writing LocalRun.unwritten).write_reconciliation = none ∧
      ¬ (final LocalRun.writing LocalRun.unwritten).SnapshotChain ∧
      ¬ WriteAhead (LocalRun.writing :: LocalRun.unwritten) := by
  have hnever : ∀ state ∈ LocalRun.writing :: LocalRun.unwritten, state.prepared_write = none := by
    intro state hstate
    simp only [LocalRun.unwritten, List.mem_cons, List.not_mem_nil, or_false] at hstate
    rcases hstate with rfl | rfl | rfl <;> rfl
  have hchain : ¬ (final LocalRun.writing LocalRun.unwritten).SnapshotChain := by
    intro hchain
    have hlast : LocalRun.digest 101 = LocalRun.digest 100 := hchain.2
    exact absurd hlast (by decide)
  refine ⟨LocalRun.unwritten_accepted, rfl, hnever, rfl, hchain, ?_⟩
  exact fun hahead => hchain (hahead.snapshots _ (final_mem _ _))

end EngineerVerifierStateV1

end OvcaCore

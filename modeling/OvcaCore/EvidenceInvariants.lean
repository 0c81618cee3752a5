/-
Invariants of the local store over its runs.

A run starts from an empty database and takes any operations with any arguments; one that
fails leaves the store as it was. In every store of a run the current rows are bound to
published records and their tokens are those of the allocators (`Sound`), and between any
two of them records stay and allocators do not go back (`Later`).

The generation of a key rises with every swap. A rebuild may remove a row, and it may
select again the token that the allocator remembers, as after a reset; and a publication
stays when the swap that follows it in its transaction finds a conflict. `evidence_invariants`
says what holds with these two, `Reset` shows them.
-/
import OvcaCore.EvidenceSwaps

set_option autoImplicit false

namespace OvcaCore

open OvcaCore.Checks OvcaCore.Slots

/-! ## Operations -/

inductive StoreOperation where
  | publish_capability (definition : CapabilityDefinition)
  | seed_capability (definition : CapabilityDefinition) (expected_record_digest : String)
  | publish_bundle (bundle : VerificationBundle)
  | compare_and_swap_capability (capability_id : String) (revision : ℕ) (record_digest : String)
      (expectation : ProjectionExpectation)
  | compare_and_swap_bundle (record_digest : String) (expectation : ProjectionExpectation)
  | publish_bundle_and_cas (bundle : VerificationBundle) (expectation : ProjectionExpectation)
  | mark_stale (key : EvidenceKey) (expected : CasToken) (causes : List StaleCause)
  | mark_stale_if_fingerprints_changed (key : EvidenceKey) (expected_token : CasToken)
      (expected : VerificationFingerprints)
  | rebuild_projections (selection : AuthoritativeProjectionSelection)

open LocalVerificationStore in
inductive StoreAnswer where
  | PublishedCapability (outcome : PublishOutcome CapabilityRecord)
  | PublishedBundle (outcome : PublishOutcome BundleRecord)
  | SwappedCapability (outcome : CasOutcome CapabilityCurrent)
  | SwappedBundle (outcome : CasOutcome EvidenceCurrent)
  | PublishedAndSwapped (publication : PublishOutcome BundleRecord)
      (projection : CasOutcome EvidenceCurrent)
  | Rebuilt
  deriving DecidableEq

def CasOutcome.is_conflict {α : Type} : CasOutcome α → Bool
  | .Conflict _ => true
  | _ => false

def StoreAnswer.is_conflict : StoreAnswer → Bool
  | .SwappedCapability outcome => outcome.is_conflict
  | .SwappedBundle outcome | .PublishedAndSwapped _ outcome => outcome.is_conflict
  | _ => false

namespace StoreOperation

def is_rebuild : StoreOperation → Bool
  | .rebuild_projections _ => true
  | _ => false

def is_publication_and_swap : StoreOperation → Bool
  | .publish_bundle_and_cas _ _ => true
  | _ => false

variable (codec : StoreCodec)

def perform (store : LocalVerificationStore) :
    StoreOperation → LocalVerificationStoreResult (StoreAnswer × LocalVerificationStore)
  | .publish_capability definition => do
    let (outcome, store) ← store.publish_capability_tx codec definition
    return (.PublishedCapability outcome, store)
  | .seed_capability definition expected_record_digest => do
    let (outcome, store) ← store.seed_capability codec definition expected_record_digest
    return (.PublishedCapability outcome, store)
  | .publish_bundle bundle => do
    let (outcome, store) ← store.publish_bundle_tx codec bundle
    return (.PublishedBundle outcome, store)
  | .compare_and_swap_capability capability_id revision record_digest expectation => do
    let (outcome, store) ← store.compare_and_swap_capability codec capability_id revision
      record_digest expectation
    return (.SwappedCapability outcome, store)
  | .compare_and_swap_bundle record_digest expectation => do
    let (outcome, store) ← store.compare_and_swap_bundle codec record_digest expectation
    return (.SwappedBundle outcome, store)
  | .publish_bundle_and_cas bundle expectation => do
    let (outcome, store) ← store.publish_bundle_and_cas codec bundle expectation
    return (.PublishedAndSwapped outcome.1 outcome.2, store)
  | .mark_stale key expected causes => do
    let (outcome, store) ← store.mark_stale codec key expected causes
    return (.SwappedBundle outcome, store)
  | .mark_stale_if_fingerprints_changed key expected_token expected => do
    let (outcome, store) ← store.mark_stale_if_fingerprints_changed codec key expected_token
      expected
    return (.SwappedBundle outcome, store)
  | .rebuild_projections selection => do
    let store ← store.rebuild_projections codec selection
    return (.Rebuilt, store)

/-- An operation in its transaction. -/
def exec (store : LocalVerificationStore) (operation : StoreOperation) :
    LocalVerificationStoreResult StoreAnswer × LocalVerificationStore :=
  match operation.perform codec store with
  | .ok (answer, store') => (.ok answer, store')
  | .error error => (.error error, store)

def run (store : LocalVerificationStore) (operations : List StoreOperation) :
    LocalVerificationStore :=
  operations.foldl (fun store operation => (exec codec store operation).2) store

end StoreOperation

/-! ## One operation -/

section Operations

open LocalVerificationStore

variable {codec : StoreCodec} {store store' : LocalVerificationStore} {operation : StoreOperation}
  {answer : StoreAnswer}

theorem perform_swaps (hrebuild : operation.is_rebuild = false)
    (h : operation.perform codec store = .ok (answer, store')) : Swaps codec store store' := by
  cases operation <;>
    simp only [StoreOperation.perform, bind_eq_ok, pure_eq_ok, Prod.exists, Prod.mk.injEq] at h
  case publish_capability =>
    obtain ⟨_, _, h, -, rfl⟩ := h
    exact (publish_capability_tx_publishes h).swaps
  case seed_capability =>
    obtain ⟨_, _, h, -, rfl⟩ := h
    exact (seed_capability_publishes h).swaps
  case publish_bundle =>
    obtain ⟨_, _, h, -, rfl⟩ := h
    exact (publish_bundle_tx_eq_ok h).1.swaps
  case compare_and_swap_capability =>
    obtain ⟨_, _, h, -, rfl⟩ := h
    exact (compare_and_swap_capability_swaps h).1
  case compare_and_swap_bundle =>
    obtain ⟨_, _, h, -, rfl⟩ := h
    exact compare_and_swap_bundle_swaps h
  case publish_bundle_and_cas =>
    obtain ⟨_, _, _, h, -, rfl⟩ := h
    exact publish_bundle_and_cas_swaps h
  case mark_stale =>
    obtain ⟨_, _, h, -, rfl⟩ := h
    exact mark_stale_swaps h
  case mark_stale_if_fingerprints_changed =>
    obtain ⟨_, _, h, -, rfl⟩ := h
    exact mark_stale_if_fingerprints_changed_swaps h
  case rebuild_projections => cases hrebuild

theorem perform_moves (h : operation.perform codec store = .ok (answer, store')) :
    Moves codec store store' := by
  by_cases hrebuild : operation.is_rebuild = true
  · cases operation with
    | rebuild_projections selection =>
      simp only [StoreOperation.perform, bind_eq_ok, pure_eq_ok, Prod.mk.injEq] at h
      obtain ⟨_, h, -, rfl⟩ := h
      exact (rebuild_projections_eq_ok h).2
    | _ => cases hrebuild
  · exact (perform_swaps (Bool.eq_false_iff.mpr hrebuild) h).moves

/-- A conflict changes nothing, a publication before it apart. -/
theorem perform_conflict (hconflict : answer.is_conflict = true)
    (h : operation.perform codec store = .ok (answer, store')) :
    Publishes store store' ∧ (operation.is_publication_and_swap = false → store' = store) := by
  have hunapplied : ∀ {α : Type} {outcome : CasOutcome α} {next : α},
      outcome.is_conflict = true → outcome ≠ .Applied next := by
    rintro α outcome next hconflict rfl
    cases hconflict
  have hswap : ∀ {record : BundleRecord} {expectation : ProjectionExpectation}
      {freshness : EvidenceFreshness} {outcome : CasOutcome EvidenceCurrent}
      {store store' : LocalVerificationStore}, outcome.is_conflict = true →
      apply_bundle_cas codec store record expectation freshness = .ok (outcome, store') →
        store' = store := by
    intro record expectation freshness outcome store store' hconflict h
    rcases apply_bundle_cas_cases h with ⟨-, hsame⟩ | ⟨next, happlied, -⟩
    · exact hsame
    · exact absurd happlied (hunapplied hconflict)
  have hstale : ∀ {key : EvidenceKey} {expected : CasToken} {causes : List StaleCause}
      {outcome : CasOutcome EvidenceCurrent}, outcome.is_conflict = true →
      mark_stale codec store key expected causes = .ok (outcome, store') → store' = store := by
    intro key expected causes outcome hconflict h
    rcases mark_stale_cases h with ⟨hsame, -⟩ | ⟨_, _, next, -, happlied, -⟩
    · exact hsame
    · exact absurd happlied (hunapplied hconflict)
  suffices hsame : operation.is_publication_and_swap = false → store' = store by
    refine ⟨?_, hsame⟩
    by_cases hboth : operation.is_publication_and_swap = true
    · cases operation with
      | publish_bundle_and_cas bundle expectation =>
        simp only [StoreOperation.perform, bind_eq_ok, pure_eq_ok, Prod.exists, Prod.mk.injEq] at h
        obtain ⟨publication, projection, final, h, rfl, rfl⟩ := h
        obtain ⟨published, hpublish, hcas⟩ := publish_bundle_and_cas_eq_ok h
        rw [hswap hconflict hcas]
        exact (publish_bundle_tx_eq_ok hpublish).1
      | _ => cases hboth
    · rw [hsame (Bool.eq_false_iff.mpr hboth)]
      exact Publishes.refl store
  intro hboth
  cases operation <;>
    simp only [StoreOperation.perform, bind_eq_ok, pure_eq_ok, Prod.exists, Prod.mk.injEq] at h
  case publish_capability =>
    obtain ⟨_, _, h, rfl, -⟩ := h
    cases hconflict
  case seed_capability =>
    obtain ⟨_, _, h, rfl, -⟩ := h
    cases hconflict
  case publish_bundle =>
    obtain ⟨_, _, h, rfl, -⟩ := h
    cases hconflict
  case compare_and_swap_capability =>
    obtain ⟨outcome, _, h, rfl, rfl⟩ := h
    refine (compare_and_swap_capability_swaps h).2 ?_
    cases outcome with
    | Conflict current => exact ⟨current, rfl⟩
    | _ => cases hconflict
  case compare_and_swap_bundle =>
    obtain ⟨_, _, h, rfl, rfl⟩ := h
    unfold compare_and_swap_bundle at h
    simp only [bind_eq_ok, ok_or_eq_ok] at h
    obtain ⟨_, -, record, -, h⟩ := h
    exact hswap hconflict h
  case publish_bundle_and_cas => cases hboth
  case mark_stale =>
    obtain ⟨_, _, h, rfl, rfl⟩ := h
    exact hstale hconflict h
  case mark_stale_if_fingerprints_changed =>
    obtain ⟨_, _, h, rfl, rfl⟩ := h
    rcases mark_stale_if_fingerprints_changed_cases h with ⟨hsame, -⟩ | ⟨causes, h⟩
    · exact hsame
    · exact hstale hconflict h
  case rebuild_projections =>
    obtain ⟨_, _, rfl, -⟩ := h
    cases hconflict

end Operations

/-! ## Runs -/

/-- Current rows are bound to published records, and allocators hold their tokens. -/
structure Sound (codec : StoreCodec) (store : LocalVerificationStore) : Prop where
  capability_bound : ∀ (capability_id : String) (row : CapabilityCurrentRow),
    store.capabilities.current[capability_id]? = some row →
      store.CapabilityBound codec capability_id row
  bundle_bound : ∀ (key : EvidenceKey) (row : BundleCurrentRow),
    store.bundles.current[key]? = some row → store.BundleBound codec key row
  capability_tokens : ∀ capability_id : String,
    Matches CapabilityCurrentRow.token (store.capabilities.slot capability_id)
  bundle_tokens : ∀ key : EvidenceKey, Matches BundleCurrentRow.token (store.bundles.slot key)

/-- Records stay, and allocators do not go back. -/
structure Later (store store' : LocalVerificationStore) : Prop where
  capability_records : ∀ (key : CapabilityRevision) (record : CapabilityRecord),
    store.capability_records[key]? = some record → store'.capability_records[key]? = some record
  bundle_records : ∀ (bundle_id : String) (record : BundleRow),
    store.bundle_records[bundle_id]? = some record →
      store'.bundle_records[bundle_id]? = some record
  capability_slots : ∀ capability_id : String, Before CasToken.generation
    (store.capabilities.slot capability_id) (store'.capabilities.slot capability_id)
  bundle_slots : ∀ key : EvidenceKey, Before CasToken.generation
    (store.bundles.slot key) (store'.bundles.slot key)

section Runs

open LocalVerificationStore

variable {codec : StoreCodec} {store store' store'' : LocalVerificationStore}
  {operation : StoreOperation} {operations : List StoreOperation}

theorem Later.refl (store : LocalVerificationStore) : Later store store :=
  ⟨fun _ _ h => h, fun _ _ h => h, fun _ => Before.refl _, fun _ => Before.refl _⟩

theorem Later.trans (h : Later store store') (h' : Later store' store'') : Later store store'' where
  capability_records := fun key record hrecord =>
    h'.capability_records key record (h.capability_records key record hrecord)
  bundle_records := fun bundle_id record hrecord =>
    h'.bundle_records bundle_id record (h.bundle_records bundle_id record hrecord)
  capability_slots := fun capability_id =>
    (h.capability_slots capability_id).trans (h'.capability_slots capability_id)
  bundle_slots := fun key => (h.bundle_slots key).trans (h'.bundle_slots key)

theorem later_of_moves (h : Moves codec store store') : Later store store' where
  capability_records := h.capability_records
  bundle_records := h.bundle_records
  capability_slots := fun capability_id => (h.capability_slots capability_id).before
  bundle_slots := fun key => (h.bundle_slots key).before

theorem capabilityBound_of_keeps (h : Keeps codec store store') {capability_id : String}
    {row : CapabilityCurrentRow} (hbound : CapabilityBound codec store capability_id row) :
    CapabilityBound codec store' capability_id row := by
  obtain ⟨⟨record, hrecord, hbinding⟩, hdigest⟩ := hbound
  exact ⟨⟨record, h.capability_records _ _ hrecord, hbinding⟩, hdigest⟩

theorem bundleBound_of_keeps (h : Keeps codec store store') {key : EvidenceKey}
    {row : BundleCurrentRow} (hbound : BundleBound codec store key row) :
    BundleBound codec store' key row := by
  obtain ⟨⟨record, hrecord, hbinding⟩, hdigest⟩ := hbound
  exact ⟨⟨record, h.bundle_records _ _ hrecord, hbinding⟩, hdigest⟩

theorem sound_of_moves (h : Moves codec store store') (hsound : Sound codec store) :
    Sound codec store' where
  capability_bound := by
    intro capability_id row hrow
    rcases h.capability_bound capability_id row hrow with hold | hnew
    · exact capabilityBound_of_keeps h.toKeeps (hsound.capability_bound capability_id row hold)
    · exact hnew
  bundle_bound := by
    intro key row hrow
    rcases h.bundle_bound key row hrow with hold | hnew
    · exact bundleBound_of_keeps h.toKeeps (hsound.bundle_bound key row hold)
    · exact hnew
  capability_tokens := fun capability_id =>
    (h.capability_slots capability_id).matches (hsound.capability_tokens capability_id)
  bundle_tokens := fun key => (h.bundle_slots key).matches (hsound.bundle_tokens key)

theorem sound_empty : Sound codec LocalVerificationStore.empty where
  capability_bound := by simp [LocalVerificationStore.empty]
  bundle_bound := by simp [LocalVerificationStore.empty]
  capability_tokens := by simp [LocalVerificationStore.empty, Matches, Projection.slot]
  bundle_tokens := by simp [LocalVerificationStore.empty, Matches, Projection.slot]

theorem exec_moves : Moves codec store (operation.exec codec store).2 := by
  unfold StoreOperation.exec
  cases hperform : operation.perform codec store with
  | error error => exact (Swaps.refl store).moves
  | ok result => exact perform_moves hperform

theorem run_cons : StoreOperation.run codec store (operation :: operations)
    = StoreOperation.run codec (operation.exec codec store).2 operations := rfl

theorem run_later : Later store (StoreOperation.run codec store operations) := by
  induction operations generalizing store with
  | nil => exact Later.refl store
  | cons operation operations ih =>
    rw [run_cons]
    exact (later_of_moves exec_moves).trans ih

theorem run_sound (h : Sound codec store) :
    Sound codec (StoreOperation.run codec store operations) := by
  induction operations generalizing store with
  | nil => exact h
  | cons operation operations ih =>
    rw [run_cons]
    exact ih (sound_of_moves exec_moves h)

end Runs

/-! ## Generations and tokens -/

namespace Projection

variable {κ ρ : Type} [Ord κ] [Std.TransOrd κ]

/-- A row that was not there is above every generation that its key had, unless a rebuild
selects the token that the allocator remembers. Only a rebuild removes a row, and it leaves
the allocator. -/
def Rises (rebuild : Bool) (token : ρ → CasToken) (projection projection' : Projection κ ρ) :
    Prop :=
  ∀ key : κ,
    (∀ row : ρ, projection'.current[key]? = some row → projection.current[key]? ≠ some row →
      (∀ last : DurableGenerationBinding, projection.generations[key]? = some last →
        last.generation < (token row).generation)
        ∨ rebuild = true ∧ projection.generations[key]? = some (token row))
    ∧ (projection'.current[key]? = none → projection.current[key]? ≠ none →
      rebuild = true ∧ projection'.generations[key]? = projection.generations[key]?)

/-- Generations go up, and a generation names one token and one digest of a state. -/
def NamesOnce (token : ρ → CasToken) (digest : κ → ρ → String)
    (projection projection' : Projection κ ρ) : Prop :=
  ∀ (key : κ) (row row' : ρ), projection.current[key]? = some row → projection'.current[key]? = some row' →
    (token row).generation ≤ (token row').generation
      ∧ ((token row).generation = (token row').generation →
        token row = token row' ∧ digest key row = digest key row')

variable {token : ρ → CasToken} {digest : κ → ρ → String} {projection projection' : Projection κ ρ}

theorem rises_of_step (h : ∀ key, Step token CasToken.generation (projection.slot key)
    (projection'.slot key)) : Rises true token projection projection' := by
  intro key
  have hstep := h key
  refine ⟨?_, ?_⟩
  · intro row hrow hne
    rcases hstep.fresh hrow (fun heq => hne (heq.symm.trans hrow)) with hfresh | hsame
    · exact Or.inl hfresh
    · exact Or.inr ⟨rfl, hsame⟩
  · intro hnone hsome
    refine ⟨rfl, ?_⟩
    change (projection'.slot key).allocator = (projection.slot key).allocator
    change (projection'.slot key).current = none at hnone
    change (projection.slot key).current ≠ none at hsome
    generalize projection'.slot key = slot' at hstep hnone
    cases hstep with
    | keep => rfl
    | assign row h => exact nomatch hnone
    | select_again row h => exact nomatch hnone
    | remove => rfl

theorem rises_of_assigns (h : ∀ key, Assigns token CasToken.generation (projection.slot key)
    (projection'.slot key)) : Rises false token projection projection' := by
  intro key
  rcases h key with hsame | ⟨assigned, hassigned, hfresh⟩
  · have hcurrent : projection'.current[key]? = projection.current[key]? :=
      congrArg Slot.current hsame
    rw [hcurrent]
    exact ⟨fun row hrow hne => absurd hrow hne, fun hnone hsome => absurd hnone hsome⟩
  · have hcurrent : projection'.current[key]? = some assigned := congrArg Slot.current hassigned
    rw [hcurrent]
    refine ⟨?_, ?_⟩
    · intro row hrow _
      rw [← Option.some.inj hrow]
      exact Or.inl hfresh
    · intro hnone
      exact nomatch hnone

theorem namesOnce (hbefore : ∀ key, Before CasToken.generation (projection.slot key)
      (projection'.slot key))
    (hmatches : ∀ key, Matches token (projection.slot key))
    (hmatches' : ∀ key, Matches token (projection'.slot key))
    (hdigest : ∀ key row, projection.current[key]? = some row →
      digest key row = (token row).state_digest)
    (hdigest' : ∀ key row, projection'.current[key]? = some row →
      digest key row = (token row).state_digest) :
    NamesOnce token digest projection projection' := by
  intro key row row' hrow hrow'
  obtain ⟨hle, hsame⟩ := token_unique (hbefore key) (hmatches key) (hmatches' key) hrow hrow'
  refine ⟨hle, ?_⟩
  intro hgeneration
  rw [hdigest key row hrow, hdigest' key row' hrow', hsame hgeneration]
  exact ⟨rfl, rfl⟩

end Projection

def LocalVerificationStore.Rises (rebuild : Bool) (store store' : LocalVerificationStore) : Prop :=
  Projection.Rises rebuild CapabilityCurrentRow.token store.capabilities store'.capabilities
    ∧ Projection.Rises rebuild BundleCurrentRow.token store.bundles store'.bundles

def LocalVerificationStore.NamesOnce (codec : StoreCodec) (store store' : LocalVerificationStore) :
    Prop :=
  Projection.NamesOnce CapabilityCurrentRow.token
      (fun capability_id row => capability_state_digest codec (row.at capability_id))
      store.capabilities store'.capabilities
    ∧ Projection.NamesOnce BundleCurrentRow.token
      (fun key row => evidence_state_digest codec (row.at key)) store.bundles store'.bundles

/-- What fails changes nothing, and a conflict changes nothing but what the same operation
has published. -/
def Atomic (operation : StoreOperation) (store : LocalVerificationStore)
    (result : LocalVerificationStoreResult StoreAnswer) (store' : LocalVerificationStore) : Prop :=
  (∀ error, result = .error error → store' = store)
    ∧ ∀ answer, result = .ok answer → answer.is_conflict = true →
      store.Publishes store' ∧ (operation.is_publication_and_swap = false → store' = store)

theorem exec_rises {codec : StoreCodec} {store : LocalVerificationStore}
    {operation : StoreOperation} :
    store.Rises operation.is_rebuild (operation.exec codec store).2 := by
  by_cases hrebuild : operation.is_rebuild = true
  · rw [hrebuild]
    have hmoves := @exec_moves codec store operation
    exact ⟨Projection.rises_of_step hmoves.capability_slots,
      Projection.rises_of_step hmoves.bundle_slots⟩
  · rw [Bool.eq_false_iff.mpr hrebuild]
    have hswaps : store.Swaps codec (operation.exec codec store).2 := by
      unfold StoreOperation.exec
      cases hperform : operation.perform codec store with
      | error error => exact LocalVerificationStore.Swaps.refl store
      | ok result => exact perform_swaps (Bool.eq_false_iff.mpr hrebuild) hperform
    exact ⟨Projection.rises_of_assigns hswaps.capability_slots,
      Projection.rises_of_assigns hswaps.bundle_slots⟩

theorem exec_atomic {codec : StoreCodec} {store : LocalVerificationStore}
    {operation : StoreOperation} :
    Atomic operation store (operation.exec codec store).1 (operation.exec codec store).2 := by
  unfold StoreOperation.exec
  cases hperform : operation.perform codec store with
  | error error => exact ⟨fun _ _ => rfl, (fun _ h => nomatch h)⟩
  | ok result =>
    refine ⟨(fun _ h => nomatch h), ?_⟩
    intro answer hanswer hconflict
    rw [← Except.ok.inj hanswer] at hconflict
    exact perform_conflict hconflict hperform

theorem later_namesOnce {codec : StoreCodec} {store store' : LocalVerificationStore}
    (h : Later store store') (hsound : Sound codec store) (hsound' : Sound codec store') :
    store.NamesOnce codec store' :=
  ⟨Projection.namesOnce h.capability_slots hsound.capability_tokens hsound'.capability_tokens
      (fun key row hrow => (hsound.capability_bound key row hrow).state_digest)
      (fun key row hrow => (hsound'.capability_bound key row hrow).state_digest),
    Projection.namesOnce h.bundle_slots hsound.bundle_tokens hsound'.bundle_tokens
      (fun key row hrow => (hsound.bundle_bound key row hrow).state_digest)
      (fun key row hrow => (hsound'.bundle_bound key row hrow).state_digest)⟩

/-- **Invariants of the evidence store.** After any operations the rows are bound and hold
the tokens of their allocators. Records and generations survive every later operation, a
generation names one state up to its digest, a new row is fresh or selected again by a
rebuild, and what fails changes nothing. -/
theorem evidence_invariants (codec : StoreCodec) (earlier later : List StoreOperation)
    (operation : StoreOperation) :
    let store := StoreOperation.run codec .empty earlier
    let store' := StoreOperation.run codec store later
    Sound codec store ∧ Later store store' ∧ store.NamesOnce codec store'
      ∧ store.Rises operation.is_rebuild (operation.exec codec store).2
      ∧ Atomic operation store (operation.exec codec store).1 (operation.exec codec store).2 := by
  intro store store'
  have hsound : Sound codec store := run_sound sound_empty
  have hlater : Later store store' := run_later
  exact ⟨hsound, hlater, later_namesOnce hlater hsound (run_sound hsound), exec_rises, exec_atomic⟩

namespace Reset

/-- A checksum of some bytes, in the place of their hash. -/
def checksum (bytes : List UInt8) : String :=
  let word := bytes.foldl (fun word byte => word * 31 + byte.toUInt32) 7
  String.ofList ((List.replicate 8 word).flatMap Sha256.format_08x)

def codec : StoreCodec where
  behavior := fun behavior => as_bytes behavior.contract_id
  capability := fun capability => as_bytes capability.capability_id
  changed_path_manifest := fun manifest => manifest.logical_paths.flatMap as_bytes
  selection := fun payload => as_bytes payload.run_id
  command := fun payload => as_bytes payload.capability_id
  transcript := fun transcript => transcript.commands.flatMap fun entry =>
    as_bytes entry.command_digest
  bundle_identity := fun payload => as_bytes payload.transcript_sha256
  capability_set := fun capabilities => capabilities.flatMap fun capability =>
    as_bytes capability.record_digest
  command_set := fun entries => entries.flatMap fun entry => as_bytes entry.command_digest
  policy_set := fun entries => entries.flatMap fun entry => as_bytes entry.capability_id
  bundle := fun bundle => as_bytes bundle.bundle_id
  capability_state := fun state => state.generation.toUInt8 :: as_bytes state.capability_id
  evidence_state := fun state => state.generation.toUInt8 :: as_bytes state.bundle_id
  projection_selection := fun selection => selection.capabilities.flatMap fun current =>
    as_bytes current.capability_id
  sha256_hex := checksum
  sha256_hex_valid := fun _ => format_valid rfl

def definition : CapabilityDefinition where
  contract_version := 1
  capability_id := "unit"
  revision := 1
  criterion_ids := []
  dependencies := []
  changed_path_selectors := []
  policy := {
    local_only := true
    network := .Denied
    provider := .Denied
    telemetry := .Denied
    egress := .Denied
    external_evidence := .Denied
    external_storage := .Denied
    raw_shell := .Forbidden
    inherit_environment := false
    fingerprint_algorithm := .Sha256
    allowed_executable_ids := (∅ : BTreeSet String).insert "cargo"
    allowed_environment_names := ∅ }
  commands := [⟨"run", "cargo", ["test"], .SnapshotRoot, ∅⟩]

def current : CapabilityCurrent :=
  LocalVerificationStore.new_capability_current codec "unit" 1
    (checksum (as_bytes "unit")) 7

def selected : AuthoritativeProjectionSelection where
  intent := .Replace
  capabilities := [current]
  bundles := []
  selection_set_digest := checksum (as_bytes "unit")

def reset : AuthoritativeProjectionSelection where
  intent := .Reset
  capabilities := []
  bundles := []
  selection_set_digest := checksum []

/-- The row is selected, and the reset removes it. -/
def earlier : List StoreOperation :=
  [.publish_capability definition, .rebuild_projections selected, .rebuild_projections reset]

def store : LocalVerificationStore := StoreOperation.run codec .empty earlier

def bundle : VerificationBundle where
  contract_version := 1
  bundle_id := "bundle"
  run_id := "run"
  goal_id := "goal"
  task_id := "task"
  behavior_contract_id := "behavior"
  capability_ids := ["unit"]
  implementation_actor := "engineer"
  verifier_actor := "verifier"
  fingerprints := {
    source_pre := checksum []
    source_post := checksum []
    behavior_contract := checksum []
    capability_set := checksum []
    command := checksum []
    policy := checksum []
    environment := checksum [] }
  criterion_results := [⟨"c", 0, .Acceptance, "the tests pass", .Pass⟩]
  failures := []
  verdict := .Pass
  created_at := 0

/-- The bundle with a token, where no row is. -/
def swap : StoreOperation := .publish_bundle_and_cas bundle (.Token ⟨1, ""⟩)

/-- **The generation of a key need not rise, and a conflict may change the store.** The row
that the reset removed comes back under its old token; a publication whose swap finds a
conflict has added its record. -/
theorem generation_not_raised :
    (store.capabilities.current["unit"]? = none
      ∧ store.capabilities.generations["unit"]? = some ⟨7, current.token.state_digest⟩
      ∧ ((StoreOperation.rebuild_projections selected).exec codec store).2.capabilities.current[
        "unit"]? = some ⟨1, current.record_digest, ⟨7, current.token.state_digest⟩⟩)
    ∧ (swap.exec codec .empty).1 = .ok (.PublishedAndSwapped
        (.Inserted ⟨bundle, checksum (as_bytes "bundle")⟩) (.Conflict none))
    ∧ LocalVerificationStore.empty.bundle_records["bundle"]? = none
    ∧ (swap.exec codec .empty).2.bundle_records["bundle"]?
      = some ⟨checksum (as_bytes "bundle"), bundle.key, bundle⟩ := by
  decide

end Reset

end OvcaCore

/-
Archives are immutable, and recovery from them is exact.

`archive_recovery` puts together what holds in every store of a run and what holds between
two of them. A recovery that fails leaves the records, rows and allocators as they were; it
may have imported the archives of an older layout before it failed, and after the import it
changes nothing. `Recovery` is a run in which a capability is recovered.
-/
import Mathlib.Logic.Equiv.List
import Mathlib.Tactic.DeriveEncodable
import OvcaCore.ArchiveOwnership

set_option autoImplicit false

namespace OvcaCore

open OvcaCore.Checks OvcaCore.OrderedMaps OvcaCore.Slots LocalVerificationStore

section Calls

variable {codec : ArchiveCodec} {state state' : ArchiveStore} {legacy : LegacyFiles}
  {archive_id record_digest : String} {selection : AuthoritativeProjectionSelection}
  {operation : ArchiveOperation} {operations : List ArchiveOperation}

/-! ## Recovery -/

/-- A read leaves the store, and after the import everything. -/
theorem read_keeps {result : LocalVerificationStoreResult ArchiveRecord}
    (h : read_projection_archive codec legacy state archive_id record_digest = (result, state')) :
    state'.store = state.store
      ∧ (state.legacy_import_complete = true → state' = state)
      ∧ (Archived codec state → ArchiveStep codec state state') := by
  obtain ⟨rfl | hmigration, -⟩ := read_projection_archive_cases h
  · exact ⟨rfl, fun _ => rfl, ArchiveStep.refl⟩
  · exact (ensure_projection_archive_migration_eq_ok hmigration).2

/-- A recovery reads the archive of the selection and writes its rows, or leaves the store. -/
theorem recover_projections_from_archive_cases {result : LocalVerificationStoreResult Unit}
    (h : recover_projections_from_archive codec legacy state archive_id record_digest selection
      = (result, state')) :
    (∃ error answer, result = .error error
      ∧ read_projection_archive codec legacy state archive_id record_digest = (answer, state'))
    ∨ ∃ record middle store, result = .ok ()
      ∧ read_projection_archive codec legacy state archive_id record_digest
        = (.ok record, middle)
      ∧ record.manifest.selection = selection
      ∧ recover_selection codec.toStoreCodec middle.store selection = .ok store
      ∧ state' = { middle with store } := by
  unfold recover_projections_from_archive at h
  cases hread : read_projection_archive codec legacy state archive_id record_digest with
  | mk answer middle =>
    rw [hread] at h
    cases answer with
    | error error =>
      obtain ⟨rfl, rfl⟩ := Prod.mk.inj h
      exact Or.inl ⟨error, _, rfl, rfl⟩
    | ok record =>
      dsimp only at h
      by_cases hselection : record.manifest.selection ≠ selection
      · rw [if_pos hselection] at h
        obtain ⟨rfl, rfl⟩ := Prod.mk.inj h
        exact Or.inl ⟨_, _, rfl, rfl⟩
      rw [if_neg hselection] at h
      cases hrecover : recover_selection codec.toStoreCodec middle.store selection with
      | error error =>
        rw [hrecover] at h
        obtain ⟨rfl, rfl⟩ := Prod.mk.inj h
        exact Or.inl ⟨error, _, rfl, rfl⟩
      | ok store =>
        rw [hrecover] at h
        obtain ⟨rfl, rfl⟩ := Prod.mk.inj h
        exact Or.inr ⟨record, middle, store, rfl, rfl, not_not.mp hselection, hrecover, rfl⟩

theorem recover_projections_from_archive_step {result : LocalVerificationStoreResult Unit}
    (harchived : Archived codec state)
    (h : recover_projections_from_archive codec legacy state archive_id record_digest selection
      = (result, state')) : ArchiveStep codec state state' := by
  rcases recover_projections_from_archive_cases h with
    ⟨_, _, -, hread⟩ | ⟨_, middle, store, -, hread, -, hrecover, rfl⟩
  · exact (read_keeps hread).2.2 harchived
  · have hstep := (read_keeps hread).2.2 harchived
    refine hstep.trans (archiveStep_of_store (recover_selection_moves hrecover) ?_ hstep.archived)
    exact distinctBundles_of_eq (recover_selection_bundle_records hrecover)
      hstep.archived.distinct

/-! ## One operation -/

theorem exec_archive_step (harchived : Archived codec state) :
    ArchiveStep codec state (operation.exec codec state) := by
  cases operation with
  | store operation =>
    exact archiveStep_of_store exec_moves (exec_distinct harchived.distinct) harchived
  | persist legacy archive_id selection =>
    exact (persist_projection_archive_cases harchived rfl).1
  | read legacy archive_id record_digest => exact (read_keeps rfl).2.2 harchived
  | recover legacy archive_id record_digest selection =>
    exact recover_projections_from_archive_step harchived rfl

/-- **Archives stay over runs.** -/
theorem run_archive_step (harchived : Archived codec state) :
    ArchiveStep codec state (ArchiveOperation.run codec state operations) := by
  induction operations generalizing state with
  | nil => exact ArchiveStep.refl harchived
  | cons operation operations ih =>
    have hstep := @exec_archive_step codec state operation harchived
    exact hstep.trans (ih hstep.archived)

theorem archived_empty : Archived codec ArchiveStore.empty where
  owned := fun _ _ hrow => absurd hrow (by simp [ArchiveStore.empty])
  imported := fun _ => rfl
  distinct := fun _ _ _ _ hrow => absurd hrow (by
    simp [ArchiveStore.empty, LocalVerificationStore.empty])

end Calls

/-! ## The result -/

/-- What is owned in the first state is bound to its digest and its bytes in the second one:
it is read back there, the same selection is persisted again without change, and any other
one is refused without change. -/
def ArchivesStay (codec : ArchiveCodec) (state state' : ArchiveStore) : Prop :=
  ∀ (archive_id : String) (row : ArchiveRow), state.archives[archive_id]? = some row →
    state'.archives[archive_id]? = some row
    ∧ ∃ selection,
      row.canonical_json = codec.manifest ⟨ARCHIVE_VERSION, archive_id, selection⟩
      ∧ row.record_digest = codec.sha256_hex row.canonical_json
      ∧ ∀ legacy,
        read_projection_archive codec legacy state' archive_id row.record_digest
            = (.ok (archive_record archive_id row selection), state')
        ∧ persist_projection_archive codec legacy state' archive_id selection
            = (.ok (archive_record archive_id row selection), state')
        ∧ ∀ other, other ≠ selection → ∃ error,
          persist_projection_archive codec legacy state' archive_id other
            = (.error error, state')

/-- A publication that succeeds owns its archive. -/
def PersistOwns (codec : ArchiveCodec) (state : ArchiveStore) : Prop :=
  ∀ legacy archive_id selection record after,
    persist_projection_archive codec legacy state archive_id selection = (.ok record, after) →
      record.manifest = ⟨ARCHIVE_VERSION, archive_id, selection⟩
      ∧ after.archives[archive_id]?
        = some ⟨record.record_digest, codec.manifest record.manifest⟩

/-- A recovery that succeeds gives back the archived selection, and a healthy report as long
as the records can be read. Every key that had an allocator at any time before has a row. -/
def RecoversExactly (codec : ArchiveCodec) (earlier state : ArchiveStore) : Prop :=
  ∀ legacy archive_id record_digest selection after,
    recover_projections_from_archive codec legacy state archive_id record_digest selection
        = (.ok (), after) →
      selection.intent = .Replace →
      after.archives[archive_id]?
          = some ⟨record_digest, codec.manifest ⟨ARCHIVE_VERSION, archive_id, selection⟩⟩
      ∧ Recovered state.store after.store selection
      ∧ (∀ capability_id : String, earlier.store.capabilities.generations[capability_id]? ≠ none →
        after.store.capabilities.current[capability_id]? ≠ none)
      ∧ (∀ key : EvidenceKey, earlier.store.bundles.generations[key]? ≠ none →
        after.store.bundles.current[key]? ≠ none)
      ∧ (after.store.capability_records.size + after.store.bundle_records.size
          ≤ OPERATOR_MAX_ROWS →
        ∃ report, local_verification_health codec.toStoreCodec after.store = .ok report
          ∧ report.current_projection_integrity.state = .Healthy
          ∧ report.capability_dependency_health.state = .Healthy
          ∧ report.evidence_binding_health.state = .Healthy)

/-- A recovery that fails leaves the store, and after the import everything. -/
def FailedRecoveryKeeps (codec : ArchiveCodec) (state : ArchiveStore) : Prop :=
  ∀ legacy archive_id record_digest selection error after,
    recover_projections_from_archive codec legacy state archive_id record_digest selection
        = (.error error, after) →
      after.store = state.store ∧ (state.legacy_import_complete = true → after = state)

section Result

variable {codec : ArchiveCodec} {state state' : ArchiveStore}

theorem archivesStay_of_step (harchived : Archived codec state)
    (h : ArchiveStep codec state state') : ArchivesStay codec state state' := by
  intro archive_id row hrow
  have hrow' := h.archives archive_id row hrow
  obtain ⟨selection, howned⟩ := harchived.owned archive_id row hrow
  have howned' := howned.stay (recordsStay_of_later h.later h.archived.distinct)
  refine ⟨hrow', selection, howned.bytes, howned.digest, ?_⟩
  intro legacy
  refine ⟨read_of_owned h.archived hrow' howned', persist_of_owned h.archived hrow' howned', ?_⟩
  intro other hother
  exact persist_other hother h.archived hrow' howned'

theorem persistOwns (harchived : Archived codec state) : PersistOwns codec state := by
  intro legacy archive_id selection record after h
  obtain ⟨-, hrecord⟩ := persist_projection_archive_cases harchived h
  obtain ⟨row, hrow, howned, rfl⟩ := hrecord record rfl
  refine ⟨rfl, ?_⟩
  rw [hrow]
  change some row = some ⟨row.record_digest,
    codec.manifest ⟨ARCHIVE_VERSION, archive_id, selection⟩⟩
  rw [← howned.bytes]

/-- An allocator stays, so the key is among those the recovery must select. -/
theorem complete_of_later {κ ρ α : Type} [Ord κ] [Std.TransOrd κ] {token : ρ → CasToken}
    {key : α → κ} {row : α → ρ} {selected : List α} {before projection projection' : Projection κ ρ}
    (hlater : ∀ k, Before CasToken.generation (before.slot k) (projection.slot k))
    (h : Projection.Recovered token key row selected projection projection') :
    ∀ k : κ, before.generations[k]? ≠ none → projection'.current[k]? ≠ none := by
  intro k hk
  obtain ⟨last, hlast⟩ := Option.ne_none_iff_exists'.mp hk
  obtain ⟨last', hlast', -⟩ := hlater k last hlast
  refine h.complete k ?_
  change projection.generations[k]? = some last' at hlast'
  rw [hlast']
  exact nofun

theorem recoversExactly {earlier : ArchiveStore} (hlater : Later earlier.store state.store) :
    RecoversExactly codec earlier state := by
  intro legacy archive_id record_digest selection after h hintent
  rcases recover_projections_from_archive_cases h with
    ⟨_, _, herror, -⟩ | ⟨record, middle, store, -, hread, rfl, hrecover, rfl⟩
  · exact nomatch herror
  obtain ⟨hrow, hversion, hid, hbounds⟩ :=
    read_owned_archive_eq_ok ((read_projection_archive_cases hread).2 record rfl)
  rw [(read_keeps hread).1] at hrecover
  have hrecovered := recover_selection_recovered hintent hrecover
  refine ⟨?_, hrecovered, complete_of_later hlater.capability_slots hrecovered.capabilities,
    complete_of_later hlater.bundle_slots hrecovered.bundles, ?_⟩
  · rw [hrow, ← hversion, ← hid]
  · intro hcount
    obtain ⟨hrecords, -⟩ := recover_selection_eq_ok hrecover
    obtain ⟨rows, hrows⟩ := validate_selection_records_eq_ok.mp hrecords
    have hstay := hrows.stay (recordsStay_of_eq hrecovered.capability_records
      hrecovered.bundle_records)
    unfold validate_archive_selection_bounds at hbounds
    simp only [bind_eq_ok, reject_if_eq_ok, not_lt] at hbounds
    obtain ⟨-, -, hbounds⟩ := hbounds
    exact health_of_selected hstay hrecovered.selectedRows hbounds hcount

theorem failedRecoveryKeeps : FailedRecoveryKeeps codec state := by
  intro legacy archive_id record_digest selection error after h
  rcases recover_projections_from_archive_cases h with
    ⟨_, _, -, hread⟩ | ⟨_, _, _, hok, -⟩
  · obtain ⟨hstore, hsame, -⟩ := read_keeps hread
    exact ⟨hstore, hsame⟩
  · exact nomatch hok

end Result

/-- **Archives are immutable and recovery is exact.** The second state is any later one, and
may be the first. -/
theorem archive_recovery (codec : ArchiveCodec) (earlier later : List ArchiveOperation) :
    let state := ArchiveOperation.run codec .empty earlier
    let state' := ArchiveOperation.run codec state later
    ArchivesStay codec state state' ∧ PersistOwns codec state'
      ∧ RecoversExactly codec state state' ∧ FailedRecoveryKeeps codec state' := by
  intro state state'
  have harchived : Archived codec state := (run_archive_step archived_empty).archived
  have hstep : ArchiveStep codec state state' := run_archive_step harchived
  exact ⟨archivesStay_of_step harchived hstep, persistOwns hstep.archived,
    recoversExactly hstep.later, failedRecoveryKeeps⟩

namespace Recovery

/-! A codec: manifests are countable, so their number is a code in unary. -/

instance encodable_char : Encodable Char :=
  Encodable.ofLeftInjection Char.toNat (fun n => some (Char.ofNat n)) (by intro c; simp)

instance encodable_string : Encodable String :=
  Encodable.ofLeftInjection String.toList (fun cs => some (String.ofList cs)) (by intro s; simp)

deriving instance Encodable for CasToken
deriving instance Encodable for StaleCause
deriving instance Encodable for EvidenceFreshness
deriving instance Encodable for EvidenceKey
deriving instance Encodable for EvidenceCurrent
deriving instance Encodable for CapabilityCurrent
deriving instance Encodable for ProjectionRebuildIntent
deriving instance Encodable for AuthoritativeProjectionSelection
deriving instance Encodable for ProjectionArchiveManifest

def current : CapabilityCurrent :=
  new_capability_current Reset.codec "unit" 1 (Reset.checksum (as_bytes "unit")) 1

def selected : AuthoritativeProjectionSelection where
  intent := .Replace
  capabilities := [current]
  bundles := []
  selection_set_digest := Reset.checksum (as_bytes "unit")

/-- The manifest of the run has a short code. -/
def manifest : ProjectionArchiveManifest := ⟨ARCHIVE_VERSION, "archive", selected⟩

def codec : ArchiveCodec where
  toStoreCodec := Reset.codec
  manifest := fun value =>
    if value = manifest then [0] else List.replicate (Encodable.encode value + 2) 0
  manifest_of := fun bytes =>
    if bytes.length = 1 then some manifest else Encodable.decode (bytes.length - 2)
  manifest_of_manifest := by
    intro value
    by_cases hvalue : value = manifest
    · rw [if_pos hvalue, hvalue]
      rfl
    · rw [if_neg hvalue, List.length_replicate, if_neg (by omega), Nat.add_sub_cancel]
      exact Encodable.encodek value

def legacy : LegacyFiles := ⟨[], []⟩

/-- The definition is published, and a selection of it is archived. -/
def archived : ArchiveStore :=
  ArchiveOperation.run codec .empty
    [.store (.publish_capability Reset.definition), .persist legacy "archive" selected]

/-- The capability is recovered. -/
example :
    (recover_projections_from_archive codec legacy archived "archive" (Reset.checksum [0])
      selected).1 = .ok ()
    ∧ archived.store.capabilities.current["unit"]? = none
    ∧ (recover_projections_from_archive codec legacy archived "archive" (Reset.checksum [0])
      selected).2.store.capabilities.current["unit"]? = some current.row := by
  decide +kernel

end Recovery

end OvcaCore

/-
Archives over the runs of a store.

A run takes operations of the store and calls on its archives in any order, each with the
files of the older layout as it finds them. An archive that is owned stays owned with its
bytes (`ArchiveStep`), and its selection stays valid as the store grows, so that it is read
back, and persisted again, as it was. A recovery from it gives back the rows of the selection.
-/
import OvcaCore.ProjectionRecovery

set_option autoImplicit false

namespace OvcaCore

open OvcaCore.Checks OvcaCore.OrderedMaps LocalVerificationStore

/-! ## Runs -/

inductive ArchiveOperation where
  | store (operation : StoreOperation)
  | persist (legacy : LegacyFiles) (archive_id : String)
      (selection : AuthoritativeProjectionSelection)
  | read (legacy : LegacyFiles) (archive_id expected_record_digest : String)
  | recover (legacy : LegacyFiles) (archive_id expected_record_digest : String)
      (exact_selection : AuthoritativeProjectionSelection)

namespace ArchiveOperation

variable (codec : ArchiveCodec)

def exec (state : ArchiveStore) : ArchiveOperation → ArchiveStore
  | .store operation =>
    { state with store := (operation.exec codec.toStoreCodec state.store).2 }
  | .persist legacy archive_id selection =>
    (persist_projection_archive codec legacy state archive_id selection).2
  | .read legacy archive_id expected_record_digest =>
    (read_projection_archive codec legacy state archive_id expected_record_digest).2
  | .recover legacy archive_id expected_record_digest exact_selection =>
    (recover_projections_from_archive codec legacy state archive_id expected_record_digest
      exact_selection).2

def run (state : ArchiveStore) (operations : List ArchiveOperation) : ArchiveStore :=
  operations.foldl (exec codec) state

end ArchiveOperation

/-! ## Ownership -/

/-- The row of an archive holds the manifest of a selection that is valid in the store. -/
structure OwnedRow (codec : ArchiveCodec) (store : LocalVerificationStore) (archive_id : String)
    (row : ArchiveRow) (selection : AuthoritativeProjectionSelection) : Prop where
  bytes : row.canonical_json = codec.manifest ⟨ARCHIVE_VERSION, archive_id, selection⟩
  digest : row.record_digest = codec.sha256_hex row.canonical_json
  length : row.canonical_json.length ≤ ARCHIVE_MAX_BYTES
  id_valid : validate_archive_id archive_id = .ok ()
  bounds : validate_archive_selection_bounds codec.toStoreCodec selection = .ok ()
  records : validate_selection_records codec.toStoreCodec store selection = .ok ()

/-- Every row is owned by some selection. -/
def Owned (codec : ArchiveCodec) (store : LocalVerificationStore)
    (archives : BTreeMap String ArchiveRow) : Prop :=
  ∀ (archive_id : String) (row : ArchiveRow), archives[archive_id]? = some row →
    ∃ selection, OwnedRow codec store archive_id row selection

/-- The invariant of the archives. -/
structure Archived (codec : ArchiveCodec) (state : ArchiveStore) : Prop where
  owned : Owned codec state.store state.archives
  imported : state.legacy_import_complete = false → state.archives = ∅
  distinct : DistinctBundles state.store

/-- Records and archives stay, and the invariant is kept. -/
structure ArchiveStep (codec : ArchiveCodec) (state state' : ArchiveStore) : Prop where
  later : Later state.store state'.store
  archives : ∀ (archive_id : String) (row : ArchiveRow), state.archives[archive_id]? = some row →
    state'.archives[archive_id]? = some row
  archived : Archived codec state'

section Ownership

variable {codec : ArchiveCodec} {state state' state'' : ArchiveStore}
  {store store' : LocalVerificationStore} {archives archives' : BTreeMap String ArchiveRow}
  {legacy : LegacyFiles} {archive_id record_digest : String} {bytes : List UInt8}
  {selection : AuthoritativeProjectionSelection} {row : ArchiveRow}

theorem ArchiveStep.refl (h : Archived codec state) : ArchiveStep codec state state :=
  ⟨Later.refl state.store, fun _ _ h => h, h⟩

theorem ArchiveStep.trans (h : ArchiveStep codec state state')
    (h' : ArchiveStep codec state' state'') : ArchiveStep codec state state'' :=
  ⟨h.later.trans h'.later, fun id row hrow => h'.archives id row (h.archives id row hrow),
    h'.archived⟩

theorem OwnedRow.stay (h : OwnedRow codec store archive_id row selection)
    (hstay : RecordsStay codec.toStoreCodec store store') :
    OwnedRow codec store' archive_id row selection :=
  ⟨h.bytes, h.digest, h.length, h.id_valid, h.bounds,
    validate_selection_records_stay hstay h.records⟩

theorem complete_of_row (h : Archived codec state) (hrow : state.archives[archive_id]? = some row) :
    state.legacy_import_complete = true := by
  by_contra hpending
  rw [h.imported (Bool.eq_false_iff.mpr hpending)] at hrow
  exact absurd hrow (by simp)

/-- The store may move under its archives. -/
theorem archiveStep_of_store (hmoves : Moves codec.toStoreCodec state.store store')
    (hdistinct : DistinctBundles store') (h : Archived codec state) :
    ArchiveStep codec state { state with store := store' } := by
  have hlater := later_of_moves hmoves
  refine ⟨hlater, fun _ _ h => h, ?_, h.imported, hdistinct⟩
  intro id row hrow
  obtain ⟨selection, howned⟩ := h.owned id row hrow
  exact ⟨selection, howned.stay (recordsStay_of_later hlater hdistinct)⟩

/-! ## Claims -/

theorem claim_projection_archive_tx_eq_ok
    (h : claim_projection_archive_tx archives archive_id record_digest bytes = .ok archives') :
    archives'[archive_id]? = some ⟨record_digest, bytes⟩
      ∧ (archives' = archives
        ∨ archives[archive_id]? = none
          ∧ archives' = archives.insert archive_id ⟨record_digest, bytes⟩) := by
  unfold claim_projection_archive_tx at h
  cases hrow : archives[archive_id]? with
  | some owned =>
    rw [hrow] at h
    simp only [bind_eq_ok, pure_eq_ok, reject_if_eq_ok, exists_const, not_or, ne_eq, not_not] at h
    obtain ⟨⟨rfl, rfl⟩, rfl⟩ := h
    exact ⟨hrow, Or.inl rfl⟩
  | none =>
    rw [hrow] at h
    simp only [bind_eq_ok, pure_eq_ok] at h
    obtain ⟨-, -, rfl⟩ := h
    refine ⟨?_, Or.inr ⟨rfl, rfl⟩⟩
    rw [get_insert, if_pos rfl]

theorem claim_keeps
    (h : claim_projection_archive_tx archives archive_id record_digest bytes = .ok archives') :
    ∀ (id : String) (row : ArchiveRow), archives[id]? = some row → archives'[id]? = some row := by
  obtain ⟨-, rfl | ⟨hnone, rfl⟩⟩ := claim_projection_archive_tx_eq_ok h
  · exact fun _ _ h => h
  · intro id row hrow
    rw [get_insert, if_neg]
    · exact hrow
    · rintro rfl
      rw [hnone] at hrow
      exact nomatch hrow

/-- A claim adds an owned row. -/
theorem claim_owned (howned : Owned codec store archives)
    (hrow : OwnedRow codec store archive_id ⟨record_digest, bytes⟩ selection)
    (h : claim_projection_archive_tx archives archive_id record_digest bytes = .ok archives') :
    Owned codec store archives' := by
  obtain ⟨-, rfl | ⟨-, rfl⟩⟩ := claim_projection_archive_tx_eq_ok h
  · exact howned
  · intro id row hget
    rw [get_insert] at hget
    by_cases hid : archive_id = id
    · rw [if_pos hid, Option.some_inj] at hget
      rw [← hid, ← hget]
      exact ⟨selection, hrow⟩
    · rw [if_neg hid] at hget
      exact howned id row hget

theorem decode_archive_manifest_eq_ok {manifest : ProjectionArchiveManifest} :
    decode_archive_manifest codec bytes record_digest = .ok manifest ↔
      bytes.length ≤ ARCHIVE_MAX_BYTES ∧ codec.sha256_hex bytes = record_digest
        ∧ codec.manifest manifest = bytes := by
  unfold decode_archive_manifest
  simp only [bind_eq_ok, ok_or_eq_ok, reject_if_eq_ok, exists_const, pure_eq_ok, ne_eq, not_not,
    not_lt]
  constructor
  · rintro ⟨hlength, hdigest, _, -, hcanonical, rfl⟩
    exact ⟨hlength, hdigest, hcanonical⟩
  · rintro ⟨hlength, hdigest, hcanonical⟩
    refine ⟨hlength, hdigest, manifest, ?_, hcanonical, rfl⟩
    rw [← hcanonical, codec.manifest_of_manifest]

theorem manifest_injective {manifest manifest' : ProjectionArchiveManifest}
    (h : codec.manifest manifest = codec.manifest manifest') : manifest = manifest' := by
  have hdecoded := congrArg codec.manifest_of h
  rw [codec.manifest_of_manifest, codec.manifest_of_manifest] at hdecoded
  exact Option.some.inj hdecoded

/-! ## The import of the older layout -/

theorem import_archive_owned {mapping : ArchiveIdentityMapping}
    (hid : validate_archive_id mapping.archive_id = .ok ()) (howned : Owned codec store archives)
    (h : import_archive codec legacy store archives mapping = .ok archives') :
    Owned codec store archives' := by
  unfold import_archive at h
  simp only [bind_eq_ok, ok_or_eq_ok, reject_if_eq_ok, exists_const, not_or, ne_eq, not_not,
    exists_and_right, exists_unit_eq_ok, decode_archive_manifest_eq_ok] at h
  obtain ⟨file, -, manifest, ⟨hlength, hdigest, hcanonical⟩, ⟨hversion, harchive_id⟩, hbounds,
    hrecords, hclaim⟩ := h
  have hrow : OwnedRow codec store mapping.archive_id ⟨mapping.record_digest, file⟩
      manifest.selection := by
    refine ⟨?_, hdigest.symm, hlength, hid, hbounds, hrecords⟩
    rw [← hversion, ← harchive_id]
    exact hcanonical.symm
  exact claim_owned howned hrow hclaim

theorem scan_archive_ownership_ids {mappings : List ArchiveIdentityMapping}
    (h : scan_archive_ownership codec legacy = .ok mappings) :
    ∀ mapping ∈ mappings, validate_archive_id mapping.archive_id = .ok () := by
  unfold scan_archive_ownership at h
  simp only [bind_eq_ok, pure_eq_ok, map_checked_eq_ok] at h
  obtain ⟨-, -, scanned, hscanned, -, -, -, -, -, -, -, -, rfl⟩ := h
  intro mapping hmem
  unfold sort_mappings at hmem
  rw [List.mem_mergeSort] at hmem
  obtain ⟨entry, -, hentry⟩ := exists_left_of_forall₂ hscanned hmem
  unfold scan_record at hentry
  simp only [bind_eq_ok, pure_eq_ok, exists_and_right, exists_unit_eq_ok] at hentry
  obtain ⟨-, manifest, -, hid, -, rfl⟩ := hentry
  exact hid

theorem ensure_projection_archive_migration_eq_ok
    (h : ensure_projection_archive_migration codec legacy state = .ok state') :
    state'.legacy_import_complete = true ∧ state'.store = state.store
      ∧ (state.legacy_import_complete = true → state' = state)
      ∧ (Archived codec state → ArchiveStep codec state state') := by
  unfold ensure_projection_archive_migration at h
  by_cases hcomplete : state.legacy_import_complete = true
  · rw [if_pos hcomplete, pure_eq_ok] at h
    subst h
    exact ⟨hcomplete, rfl, fun _ => rfl, ArchiveStep.refl⟩
  · rw [if_neg hcomplete] at h
    simp only [bind_eq_ok, pure_eq_ok] at h
    obtain ⟨mappings, hscan, archives, himport, rfl⟩ := h
    refine ⟨rfl, rfl, fun hcomplete' => absurd hcomplete' hcomplete, ?_⟩
    intro harchived
    refine ⟨Later.refl _, ?_, ?_, Bool.noConfusion, harchived.distinct⟩
    · rw [harchived.imported (Bool.eq_false_iff.mpr hcomplete)]
      exact fun _ _ hrow => absurd hrow (by simp)
    · -- every mapping of the scan has a valid id, so the loop imports owned rows
      refine fold_checked_prefix (I := fun past archives =>
        (∀ mapping ∈ past, validate_archive_id mapping.archive_id = .ok ()) →
          Owned codec state.store archives) ?_ ?_ himport (scan_archive_ownership_ids hscan)
      · intro past archives mapping archives' howned himport hids
        refine import_archive_owned (hids mapping ?_) (howned ?_) himport
        · exact List.mem_append_right _ (List.mem_singleton_self mapping)
        · exact fun mapping hmem => hids mapping (List.mem_append_left _ hmem)
      · exact fun _ _ _ hrow => absurd hrow (by simp)

theorem after_migration_of_complete {α : Type} {call : ArchiveStore → ArchiveCall α}
    (hcomplete : state.legacy_import_complete = true) :
    after_migration codec legacy state call = call state := by
  unfold after_migration ensure_projection_archive_migration
  rw [if_pos hcomplete]
  rfl

/-! ## Calls -/

/-- What a read of an owned archive gives. -/
def archive_record (archive_id : String) (row : ArchiveRow)
    (selection : AuthoritativeProjectionSelection) : ArchiveRecord where
  manifest := ⟨ARCHIVE_VERSION, archive_id, selection⟩
  record_digest := row.record_digest
  canonical_bytes := row.canonical_json.length

/-- **An owned archive is read back.** -/
theorem read_of_owned (harchived : Archived codec state)
    (hrow : state.archives[archive_id]? = some row)
    (howned : OwnedRow codec state.store archive_id row selection) :
    read_projection_archive codec legacy state archive_id row.record_digest
      = (.ok (archive_record archive_id row selection), state) := by
  have hcomplete := complete_of_row harchived hrow
  have hdigest : validate_digest row.record_digest = .ok () := by
    unfold validate_digest
    rw [howned.digest, codec.sha256_hex_valid]
    exact reject_if_of_not (by simp)
  have hdecode : decode_archive_manifest codec row.canonical_json row.record_digest
      = .ok ⟨ARCHIVE_VERSION, archive_id, selection⟩ :=
    decode_archive_manifest_eq_ok.mpr ⟨howned.length, howned.digest.symm, howned.bytes.symm⟩
  have hread : read_owned_archive codec state archive_id row.record_digest
      = .ok (archive_record archive_id row selection) := by
    unfold read_owned_archive
    simp only [bind_eq_ok, ok_or_eq_ok, reject_if_eq_ok, exists_const, exists_and_right,
      exists_unit_eq_ok, pure_eq_ok]
    refine ⟨?_, row, ?_, _, hdecode, ?_, howned.bounds, howned.records, rfl⟩
    · rw [hcomplete]
      exact Bool.noConfusion
    · rw [hrow, Option.filter_some, beq_self_eq_true, if_pos rfl]
    · exact not_or.mpr ⟨not_not.mpr rfl, not_not.mpr rfl⟩
  unfold read_projection_archive
  rw [howned.id_valid, ok_bind, hdigest]
  dsimp only
  rw [after_migration_of_complete hcomplete, hread]

/-- A read answers from a row, after the import at most. -/
theorem read_projection_archive_cases {result : LocalVerificationStoreResult ArchiveRecord}
    (h : read_projection_archive codec legacy state archive_id record_digest = (result, state')) :
    (state' = state ∨ ensure_projection_archive_migration codec legacy state = .ok state')
      ∧ ∀ record, result = .ok record →
        read_owned_archive codec state' archive_id record_digest = .ok record := by
  unfold read_projection_archive at h
  cases hvalid : (do validate_archive_id archive_id; validate_digest record_digest :
      LocalVerificationStoreResult Unit) with
  | error error =>
    rw [hvalid] at h
    obtain ⟨rfl, rfl⟩ := Prod.mk.inj h
    exact ⟨Or.inl rfl, nofun⟩
  | ok valid =>
    rw [hvalid] at h
    unfold after_migration at h
    cases hmigration : ensure_projection_archive_migration codec legacy state with
    | error error =>
      rw [hmigration] at h
      obtain ⟨rfl, rfl⟩ := Prod.mk.inj h
      exact ⟨Or.inl rfl, nofun⟩
    | ok migrated =>
      rw [hmigration] at h
      obtain ⟨rfl, rfl⟩ := Prod.mk.inj h
      exact ⟨Or.inr rfl, fun record hrecord => hrecord⟩

theorem read_owned_archive_eq_ok {record : ArchiveRecord}
    (h : read_owned_archive codec state archive_id record_digest = .ok record) :
    state.archives[archive_id]? = some ⟨record_digest, codec.manifest record.manifest⟩
      ∧ record.manifest.archive_version = ARCHIVE_VERSION
      ∧ record.manifest.archive_id = archive_id
      ∧ validate_archive_selection_bounds codec.toStoreCodec record.manifest.selection = .ok () := by
  unfold read_owned_archive at h
  simp only [bind_eq_ok, ok_or_eq_ok, reject_if_eq_ok, exists_const, exists_and_right,
    exists_unit_eq_ok, pure_eq_ok, decode_archive_manifest_eq_ok, not_or, ne_eq, not_not] at h
  obtain ⟨-, row, hrow, manifest, ⟨-, -, hcanonical⟩, ⟨hversion, hid⟩, hbounds, -, rfl⟩ := h
  rw [Option.filter_eq_some_iff] at hrow
  obtain ⟨hrow, hdigest⟩ := hrow
  obtain rfl := eq_of_beq hdigest
  refine ⟨?_, hversion, hid, hbounds⟩
  rw [hrow]
  change some row = some ⟨row.record_digest, codec.manifest manifest⟩
  rw [hcanonical]

/-- Everything but the claim of a publication. -/
theorem claim_archive_eq_ok (h : claim_archive codec state archive_id selection
      = .ok (record_digest, state')) :
    state.legacy_import_complete = true ∧ state'.store = state.store
      ∧ state'.legacy_import_complete = true
      ∧ (codec.manifest ⟨ARCHIVE_VERSION, archive_id, selection⟩).length ≤ ARCHIVE_MAX_BYTES
      ∧ record_digest = codec.sha256_hex (codec.manifest ⟨ARCHIVE_VERSION, archive_id, selection⟩)
      ∧ claim_projection_archive_tx state.archives archive_id record_digest
        (codec.manifest ⟨ARCHIVE_VERSION, archive_id, selection⟩) = .ok state'.archives := by
  unfold claim_archive at h
  simp only [bind_eq_ok, pure_eq_ok, reject_if_eq_ok, exists_const, not_lt, Bool.not_eq_false,
    Prod.mk.injEq] at h
  obtain ⟨hlength, hcomplete, archives, hclaim, rfl, rfl⟩ := h
  exact ⟨hcomplete, rfl, hcomplete, hlength, rfl, hclaim⟩

/-- A claim of a valid selection. -/
theorem claim_archive_step (hid : validate_archive_id archive_id = .ok ())
    (hbounds : validate_archive_selection_bounds codec.toStoreCodec selection = .ok ())
    (hrecords : validate_selection_records codec.toStoreCodec state.store selection = .ok ())
    (harchived : Archived codec state)
    (h : claim_archive codec state archive_id selection = .ok (record_digest, state')) :
    ArchiveStep codec state state'
      ∧ ∃ row : ArchiveRow, state'.archives[archive_id]? = some row
        ∧ row.record_digest = record_digest
        ∧ OwnedRow codec state'.store archive_id row selection := by
  obtain ⟨-, hstore, hcomplete, hlength, hdigest, hclaim⟩ := claim_archive_eq_ok h
  have howned : OwnedRow codec state'.store archive_id
      ⟨record_digest, codec.manifest ⟨ARCHIVE_VERSION, archive_id, selection⟩⟩ selection := by
    rw [hstore]
    exact ⟨rfl, hdigest, hlength, hid, hbounds, hrecords⟩
  refine ⟨⟨?_, claim_keeps hclaim, ?_, ?_, ?_⟩, _,
    (claim_projection_archive_tx_eq_ok hclaim).1, rfl, howned⟩
  · rw [hstore]
    exact Later.refl state.store
  · rw [hstore] at howned ⊢
    exact claim_owned harchived.owned howned hclaim
  · rw [hcomplete]
    exact nofun
  · rw [hstore]
    exact harchived.distinct

/-- A publication validates, imports and claims, and reads what it has claimed. -/
theorem persist_projection_archive_cases {result : LocalVerificationStoreResult ArchiveRecord}
    (harchived : Archived codec state)
    (h : persist_projection_archive codec legacy state archive_id selection = (result, state')) :
    ArchiveStep codec state state'
      ∧ ∀ record, result = .ok record → ∃ row, state'.archives[archive_id]? = some row
        ∧ OwnedRow codec state'.store archive_id row selection
        ∧ record = archive_record archive_id row selection := by
  unfold persist_projection_archive at h
  cases hvalid : (do
      validate_archive_id archive_id
      validate_archive_selection_bounds codec.toStoreCodec selection
      validate_selection_records codec.toStoreCodec state.store selection :
      LocalVerificationStoreResult Unit) with
  | error error =>
    rw [hvalid] at h
    obtain ⟨rfl, rfl⟩ := Prod.mk.inj h
    exact ⟨ArchiveStep.refl harchived, nofun⟩
  | ok valid =>
    rw [hvalid] at h
    simp only [bind_eq_ok, exists_and_right, exists_unit_eq_ok] at hvalid
    obtain ⟨hid, hbounds, hrecords⟩ := hvalid
    unfold after_migration at h
    cases hmigration : ensure_projection_archive_migration codec legacy state with
    | error error =>
      rw [hmigration] at h
      obtain ⟨rfl, rfl⟩ := Prod.mk.inj h
      exact ⟨ArchiveStep.refl harchived, nofun⟩
    | ok migrated =>
      rw [hmigration] at h
      dsimp only at h
      obtain ⟨-, hstore, -, hmigrated⟩ := ensure_projection_archive_migration_eq_ok hmigration
      have hstep := hmigrated harchived
      cases hclaim : claim_archive codec migrated archive_id selection with
      | error error =>
        rw [hclaim] at h
        obtain ⟨rfl, rfl⟩ := Prod.mk.inj h
        exact ⟨hstep, nofun⟩
      | ok claimed =>
        obtain ⟨digest, claimed⟩ := claimed
        rw [hclaim] at h
        dsimp only at h
        rw [← hstore] at hrecords
        obtain ⟨hclaimed, row, hrow, rfl, howned⟩ :=
          claim_archive_step hid hbounds hrecords hstep.archived hclaim
        rw [read_of_owned hclaimed.archived hrow howned] at h
        obtain ⟨rfl, rfl⟩ := Prod.mk.inj h
        refine ⟨hstep.trans hclaimed, ?_⟩
        intro record hrecord
        exact ⟨row, hrow, howned, (Except.ok.inj hrecord).symm⟩

/-- **The same selection is persisted again without change.** -/
theorem persist_of_owned (harchived : Archived codec state)
    (hrow : state.archives[archive_id]? = some row)
    (howned : OwnedRow codec state.store archive_id row selection) :
    persist_projection_archive codec legacy state archive_id selection
      = (.ok (archive_record archive_id row selection), state) := by
  have hcomplete := complete_of_row harchived hrow
  have hclaim : claim_archive codec state archive_id selection
      = .ok (row.record_digest, state) := by
    unfold claim_archive claim_projection_archive_tx
    rw [hrow]
    simp only [bind_eq_ok, reject_if_eq_ok, exists_const, pure_eq_ok, Prod.mk.injEq]
    refine ⟨?_, ?_, state.archives, ⟨?_, rfl⟩, ?_, rfl⟩
    · rw [← howned.bytes, not_lt]
      exact howned.length
    · rw [hcomplete]
      exact Bool.noConfusion
    · rw [← howned.bytes, ← howned.digest]
      exact not_or.mpr ⟨not_not.mpr rfl, not_not.mpr rfl⟩
    · rw [← howned.bytes, ← howned.digest]
  unfold persist_projection_archive
  rw [howned.id_valid, ok_bind, howned.bounds, ok_bind, howned.records]
  dsimp only
  rw [after_migration_of_complete hcomplete, hclaim]
  exact read_of_owned harchived hrow howned

/-- **Another selection is refused without change.** -/
theorem persist_other {other : AuthoritativeProjectionSelection} (hother : other ≠ selection)
    (harchived : Archived codec state) (hrow : state.archives[archive_id]? = some row)
    (howned : OwnedRow codec state.store archive_id row selection) :
    ∃ error, persist_projection_archive codec legacy state archive_id other
      = (.error error, state) := by
  have hcomplete := complete_of_row harchived hrow
  unfold persist_projection_archive
  cases hvalid : (do
      validate_archive_id archive_id
      validate_archive_selection_bounds codec.toStoreCodec other
      validate_selection_records codec.toStoreCodec state.store other :
      LocalVerificationStoreResult Unit) with
  | error error => exact ⟨error, rfl⟩
  | ok valid =>
    dsimp only
    rw [after_migration_of_complete hcomplete]
    cases hclaim : claim_archive codec state archive_id other with
    | error error => exact ⟨error, rfl⟩
    | ok claimed =>
      -- the claim of the identity finds other bytes
      obtain ⟨digest, claimed⟩ := claimed
      obtain ⟨-, -, -, -, -, hclaimed⟩ := claim_archive_eq_ok hclaim
      have hkept := claim_keeps hclaimed archive_id row hrow
      rw [(claim_projection_archive_tx_eq_ok hclaimed).1, Option.some_inj] at hkept
      have hbytes := howned.bytes
      rw [← hkept] at hbytes
      have hmanifest := manifest_injective hbytes
      rw [ProjectionArchiveManifest.mk.injEq] at hmanifest
      exact absurd hmanifest.2.2 hother

end Ownership

end OvcaCore

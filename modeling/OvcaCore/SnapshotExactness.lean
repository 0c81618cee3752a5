/-
A frozen snapshot is exact.

Alone, `materialize` succeeds exactly on a source that holds the manifest, and leaves a
snapshot with the bytes of the source (`materialize_alone`). Beside a process that changes
the source in any way between any two steps, a success still leaves a snapshot that holds
the manifest (`materialize_beside`): the last inspection sees nothing of the source. Later
inspections are exact again, and a fingerprint stands for one manifest.
-/
import OvcaCore.SnapshotCopy
import OvcaCore.SnapshotFingerprint

set_option autoImplicit false

namespace OvcaCore

open OvcaCore.Checks OvcaCore.Interleaving OvcaCore.FileTrees

namespace Snapshots

/-! ## The preflight -/

section Preflight

variable {json : VerifierJson} {fuel : ℕ} {manifest : SourceManifest} {disk : Disk}
  {source_root snapshot_root : PathBuf} {S T : List FileName}

theorem Roots.get_source (h : Roots disk source_root snapshot_root S T) :
    disk.get S = some .dir := disk.get_of_stat_dir h.source_dir h.source

theorem Roots.get_snapshot (h : Roots disk source_root snapshot_root S T) :
    disk.get T = some .dir := disk.get_of_stat_dir h.snapshot_dir h.snapshot

/-- A directory at an absolute path is a valid root, and for a snapshot if it is empty. -/
theorem eval_validate_root {root : PathBuf} {require_empty : Bool}
    (habsolute : root.absolute = true) (hdir : disk.stat root.parts = .ok .dir)
    (hempty : require_empty = true → disk.list root.parts = .ok ∅) :
    (validate_root root require_empty).eval (answers disk) = .ok () := by
  have hmetadata (e : SnapshotError) :
      (symlink_metadata root.parts e).eval (answers disk) = .ok .dir := by
    rw [eval_symlink_metadata, hdir]
    rfl
  unfold validate_root
  dsimp only
  rw [Prog.eval_bind, eval_check, reject_if_of_not (by rw [habsolute]; exact Bool.noConfusion)]
  change Prog.eval _ (symlink_metadata _ _ >>= _) = _
  rw [Prog.eval_bind, hmetadata]
  change Prog.eval _ (check (reject_if (Kind.dir ≠ Kind.dir) _) >>= _) = _
  rw [Prog.eval_bind, eval_check, reject_if_of_not (fun hne => hne rfl)]
  change Prog.eval _ (if require_empty = true then _ else _) = _
  by_cases hrequired : require_empty = true
  · rw [if_pos hrequired, Prog.eval_bind, eval_read_dir, hempty hrequired]
    change Prog.eval (answers disk)
      (check (reject_if ((∅ : Finset FileName) ≠ ∅) SnapshotError.InvalidSnapshotRoot)) = _
    rw [eval_check, reject_if_of_not (fun hne => hne rfl)]
    rfl
  · rw [if_neg hrequired]
    rfl

/-- The preflight of good roots is the inspection of the source. -/
theorem eval_preflight_roots (hvalid : manifest.validate = true)
    (h : Roots disk source_root snapshot_root S T) :
    (preflight_roots json fuel manifest source_root snapshot_root).eval (answers disk)
      = (inspect_disk json fuel source_root.parts manifest .Source).eval (answers disk) := by
  have hlist : disk.list snapshot_root.parts = .ok ∅ :=
    disk.list_eq_ok.mpr ⟨T, h.snapshot, h.get_snapshot, h.empty⟩
  have hcanonicalize {path loc : List FileName} (e : SnapshotError)
      (hpath : disk.resolve path = .ok loc) :
      (canonicalize path e).eval (answers disk) = .ok loc := by
    change ((((disk.resolve path).mapError fun _ => e).mapError Stop.error)) = _
    rw [hpath]
    rfl
  have hdisjoint : ¬ (T = S ∨ S <+: T ∨ T <+: S) := by
    rintro (heq | hprefix | hprefix)
    · exact h.apart (heq ▸ List.prefix_rfl)
    · exact h.apart hprefix
    · exact h.apart' hprefix
  unfold preflight_roots
  rw [Prog.eval_bind, eval_check, reject_if_of_not (by rw [hvalid]; exact Bool.noConfusion)]
  change Prog.eval _ (validate_root source_root false >>= _) = _
  rw [Prog.eval_bind, eval_validate_root h.source_absolute h.source_dir Bool.noConfusion, ok_bind,
    Prog.eval_bind, eval_validate_root h.snapshot_absolute h.snapshot_dir (fun _ => hlist), ok_bind,
    Prog.eval_bind, hcanonicalize .Io h.source, ok_bind, Prog.eval_bind,
    hcanonicalize .Io h.snapshot, ok_bind, Prog.eval_bind, eval_check, reject_if_of_not hdisjoint]
  rfl

/-- The preflight only looks. -/
theorem preflight_quiet (json : VerifierJson) (fuel : ℕ) (manifest : SourceManifest)
    (source_root snapshot_root : PathBuf) (disk : Disk) :
    (preflight_roots json fuel manifest source_root snapshot_root).Only
      fun o => (o.perform disk).2 = disk := by
  have hroot (root : PathBuf) (require_empty : Bool) : (validate_root root require_empty).Only
      fun o => (o.perform disk).2 = disk := by
    refine Prog.Only.bind trivial fun _ => Prog.Only.bind ⟨rfl, fun _ => trivial⟩ fun _ =>
      Prog.Only.bind trivial fun _ => ?_
    cases require_empty with
    | false => trivial
    | true => exact Prog.Only.bind ⟨rfl, fun _ => trivial⟩ fun _ => trivial
  refine Prog.Only.bind trivial fun _ => Prog.Only.bind (hroot _ _) fun _ =>
    Prog.Only.bind (hroot _ _) fun _ => Prog.Only.bind ⟨rfl, fun _ => trivial⟩ fun _ =>
    Prog.Only.bind ⟨rfl, fun _ => trivial⟩ fun _ => Prog.Only.bind trivial fun _ => ?_
  exact inspect_disk_looks.mono fun _ ho => perform_of_looks ho

theorem run_preflight (hvalid : manifest.validate = true)
    (h : Roots disk source_root snapshot_root S T) :
    run_alone (preflight_roots json fuel manifest source_root snapshot_root) disk
      = ((inspect_disk json fuel source_root.parts manifest .Source).eval (answers disk),
        disk) := by
  rw [← eval_preflight_roots hvalid h]
  exact Prog.run_eq_eval (preflight_quiet json fuel manifest source_root snapshot_root disk)

end Preflight

/-! ## Alone -/

section Alone

variable {json : VerifierJson} {fuel : ℕ} {manifest : SourceManifest} {disk d : Disk}
  {source_root snapshot_root : PathBuf} {S T : List FileName} {fingerprint : String}

/-- What stands at two places alike is held alike. -/
theorem Holds.congr {loc loc' : List FileName} (h : Holds disk loc manifest)
    (hsame : ∀ rel, d.get (loc' ++ rel) = disk.get (loc ++ rel)) : Holds d loc' manifest where
  files := by
    rw [← h.files]
    ext p
    simp only [mem_regular_files, hsame]
  plain rel node hget := h.plain rel node ((hsame rel).symm.trans hget)

/-- **At the end the snapshot has the files of the source**, byte by byte. -/
theorem Copied.get_file_iff (hholds : Holds disk S manifest)
    (h : Copied disk S T manifest.files d) (rel : List FileName) (bytes : List UInt8) :
    d.get (T ++ rel) = some (.file bytes) ↔ disk.get (S ++ rel) = some (.file bytes) := by
  constructor
  · intro hget
    exact h.part rel _ hget
  · intro hget
    have hin : (rel, verification_sha256_hex bytes) ∈ listed manifest := by
      rw [← hholds.files]
      exact ⟨bytes, hget, rfl⟩
    obtain ⟨file, hfile, heq⟩ := hin
    obtain ⟨rfl, -⟩ := Prod.mk.inj heq
    obtain ⟨copy, hcopy⟩ := h.all file hfile
    have hpart := h.part _ _ hcopy
    rw [hget] at hpart
    rw [hcopy, hpart]

theorem Copied.holds (hholds : Holds disk S manifest) (h : Copied disk S T manifest.files d) :
    Holds d T manifest where
  files := by
    rw [← hholds.files]
    ext p
    simp only [mem_regular_files, h.get_file_iff hholds]
  plain rel node hget := hholds.plain rel node (h.part rel node hget)

/-- A copy is no deeper than the source. -/
theorem Copied.deep {done : List SourceFile} (h : Copied disk S T done d)
    (hdeep : Deep disk S fuel) : Deep d T fuel := by
  intro rel hget
  obtain ⟨node, hnode⟩ := Option.ne_none_iff_exists'.mp hget
  exact hdeep rel (Tree.ne_none (h.part rel node hnode))

/-- A source that holds the manifest is copied. -/
theorem materialize_holds (hvalid : manifest.validate = true)
    (h : Roots disk source_root snapshot_root S T) (hdeep : Deep disk S fuel)
    (hholds : Holds disk S manifest) (hfingerprint : manifest.fingerprint json = .ok fingerprint) :
    ∃ final,
      run_alone (FrozenSnapshot.materialize json fuel source_root snapshot_root manifest) disk
        = (.ok ⟨source_root, snapshot_root, manifest, fingerprint⟩, final)
      ∧ Copied disk S T manifest.files final := by
  have hpre : run_alone (preflight_roots json fuel manifest source_root snapshot_root) disk
      = (.ok fingerprint, disk) := by
    rw [run_preflight hvalid h, inspect_disk_holds hvalid h.source hdeep hholds hfingerprint]
  obtain ⟨final, hloop, hcopied⟩ := (copied_nil h.empty h.get_source h.get_snapshot).copy_files
    hvalid h.source h.snapshot h.apart h.apart' h.get_snapshot hholds (List.nil_append _).symm
  have hsource := hcopied.get_source h.apart h.apart'
  have hdeep' : Deep final S fuel := fun rel hget => hdeep rel (by rw [← hsource]; exact hget)
  have hpost : run_alone ((inspect_disk json fuel source_root.parts manifest .Source).mapError
      Stop.changed) final = (.ok fingerprint, final) := by
    unfold run_alone
    rw [Prog.run_mapError, run_inspect_disk, inspect_disk_holds hvalid
      (hcopied.grown.resolve h.source) hdeep' (hholds.congr hsource) hfingerprint]
    rfl
  have hlast : run_alone (inspect_disk json fuel snapshot_root.parts manifest .Snapshot) final
      = (.ok fingerprint, final) := by
    unfold run_alone
    rw [run_inspect_disk, inspect_disk_holds hvalid (hcopied.grown.resolve h.snapshot)
      (hcopied.deep hdeep) (hcopied.holds hholds) hfingerprint]
  refine ⟨final, ?_, hcopied⟩
  unfold FrozenSnapshot.materialize
  rw [run_bind_ok hpre, run_bind_ok hloop, run_bind_ok hpost,
    reject_if_of_not (fun hne => hne rfl)]
  change run_alone (inspect_disk json fuel _ _ _ >>= _) final = _
  rw [run_bind_ok hlast]
  rfl

/-- Another source is turned away before anything is made. -/
theorem materialize_fails (hvalid : manifest.validate = true)
    (h : Roots disk source_root snapshot_root S T) (hdeep : Deep disk S fuel) (hpos : 0 < fuel)
    (hholds : ¬ Holds disk S manifest) :
    ∃ e, run_alone (FrozenSnapshot.materialize json fuel source_root snapshot_root manifest) disk
      = (.error (.error e), disk) := by
  have hpre := @run_preflight json fuel manifest disk source_root snapshot_root S T hvalid h
  have hends := @inspect_disk_ends json manifest .Source disk source_root.parts fuel hvalid hpos
    fun loc hloc => by
      rw [h.source] at hloc
      exact Except.ok.inj hloc ▸ hdeep
  cases hresult : (inspect_disk json fuel source_root.parts manifest .Source).eval
    (answers disk) with
  | ok found =>
    obtain ⟨-, loc, hloc, hfound⟩ := inspect_disk_sound hvalid hresult
    rw [h.source] at hloc
    exact absurd (Except.ok.inj hloc ▸ hfound) hholds
  | error stop =>
    rw [hresult] at hpre hends
    cases stop with
    | out_of_fuel => exact absurd rfl hends
    | error e =>
      refine ⟨e, ?_⟩
      unfold FrozenSnapshot.materialize
      exact run_bind_error hpre

end Alone

/-! ## Beside a process that changes the source -/

section Beside

variable {json : VerifierJson} {fuel : ℕ} {manifest : SourceManifest} {disk d d' : Disk}
  {source_root snapshot_root : PathBuf} {S T snapshot : List FileName}

/-- What neither the program nor a change of the source undoes: the way to the snapshot root
is clear of the source, and no link stands where it leads or below. -/
structure Kept (S T snapshot : List FileName) (d : Disk) : Prop where
  way : d.Clear S [] snapshot
  leads : d.resolve snapshot = .ok T
  plain : d.PlainBelow T

/-- Changes of the source are not seen at the snapshot. -/
theorem get_changes (hapart : ¬ S <+: T) (hapart' : ¬ T <+: S) (h : Tree.ChangesOnly S d d')
    (rel : List FileName) : d'.get (T ++ rel) = d.get (T ++ rel) :=
  h _ (not_prefix_of_apart hapart' hapart rel)

theorem Kept.changes (hapart : ¬ S <+: T) (hapart' : ¬ T <+: S) (h : Tree.ChangesOnly S d d')
    (hkept : Kept S T snapshot d) : Kept S T snapshot d' where
  way := (hkept.way.changes h).1
  leads := (hkept.way.changes h).2.trans hkept.leads
  plain rel node hget := hkept.plain rel node (by
    rw [← get_changes hapart hapart' h]
    exact hget)

theorem Kept.perform (o : FsOp) (hkept : Kept S T snapshot d) :
    Kept S T snapshot (o.perform d).2 where
  way := hkept.way.extends (o.extends_perform d)
  leads := (o.extends_perform d).resolve hkept.leads
  plain := o.plainBelow_perform hkept.plain

/-- **An inspection of the snapshot sees nothing of the source**: a success means that the
snapshot held the manifest, and still does. -/
theorem inspect_beside (hvalid : manifest.validate = true) (hapart : ¬ S <+: T)
    (hapart' : ¬ T <+: S) {kind : TreeKind} {fingerprint : String} (hkept : Kept S T snapshot d)
    (h : Runs Op.perform (Tree.ChangesOnly S) (inspect_disk json fuel snapshot manifest kind) d
      (.ok fingerprint) d') : Holds d' T manifest := by
  have hlooks : (inspect_disk json fuel snapshot manifest kind).Only fun o => ∀ s,
      (Kept S T snapshot s ∧ ∀ rel, s.get (T ++ rel) = d.get (T ++ rel)) →
      (o.perform s).1 = answers d o ∧ (o.perform s).2 = s := by
    refine inspect_disk_looks.mono fun o ho s hs => ?_
    have hagrees : Tree.Agrees snapshot T d s := ⟨hkept.leads, hs.1.leads, hs.2⟩
    exact hagrees.perform hkept.plain ho
  obtain ⟨hresult, hkept', hsame⟩ := h.eq_eval
    (fun s s' henv hs => ⟨hs.1.changes hapart hapart' henv, fun rel =>
      (get_changes hapart hapart' henv rel).trans (hs.2 rel)⟩) hlooks ⟨hkept, fun _ => rfl⟩
  obtain ⟨-, loc, hloc, hholds⟩ := inspect_disk_sound hvalid hresult.symm
  rw [hkept.leads] at hloc
  rw [← Except.ok.inj hloc] at hholds
  exact hholds.congr hsame

/-- **Whatever happens to the source meanwhile**, a success leaves a snapshot that holds the
manifest. -/
theorem materialize_beside (hvalid : manifest.validate = true)
    (h : Roots disk source_root snapshot_root S T) (hclear : disk.Clear S [] snapshot_root.parts)
    {frozen : FrozenSnapshot} {final : Disk}
    (hrun : Runs Op.perform (Tree.ChangesOnly S)
      (FrozenSnapshot.materialize json fuel source_root snapshot_root manifest) disk
      (.ok frozen) final) :
    frozen.snapshot_root = snapshot_root ∧ frozen.source_root = source_root
      ∧ frozen.manifest = manifest ∧ final.resolve snapshot_root.parts = .ok T
      ∧ Holds final T manifest := by
  have hrefl := @Tree.ChangesOnly.refl FileName (List UInt8) S
  have hstart : Kept S T snapshot_root.parts disk := by
    refine ⟨hclear, h.snapshot, fun rel node hget => ?_⟩
    have hrel := nil_of_get h.empty (Tree.ne_none hget)
    rw [hrel, List.append_nil, h.get_snapshot] at hget
    exact Option.some.inj hget ▸ Node.plain_dir
  have hstep {α : Type} {p : DiskM α} {d d' : Disk} {r : Except Stop α}
      (hp : Runs Op.perform (Tree.ChangesOnly S) p d r d')
      (hd : Kept S T snapshot_root.parts d) : Kept S T snapshot_root.parts d' :=
    hp.inv (fun _ _ henv hs => hs.changes h.apart h.apart' henv) (fun o _ hs => hs.perform o) hd
  unfold FrozenSnapshot.materialize at hrun
  obtain ⟨pre, d₁, hpre, hrun⟩ := hrun.of_bind hrefl
  obtain ⟨_, d₂, hloop, hrun⟩ := hrun.of_bind hrefl
  obtain ⟨post, d₃, hpost, hrun⟩ := hrun.of_bind hrefl
  obtain ⟨_, d₄, hcheck, hrun⟩ := hrun.of_bind hrefl
  obtain ⟨last, d₅, hlast, hrun⟩ := hrun.of_bind hrefl
  have hkept := hstep hcheck (hstep hpost (hstep hloop (hstep hpre hstart)))
  have hholds := inspect_beside hvalid h.apart h.apart' hkept hlast
  have hfrozen : frozen = ⟨source_root, snapshot_root, manifest, pre⟩
      ∧ Tree.ChangesOnly S d₅ final := by
    cases hrun with
    | done henv => exact ⟨rfl, henv⟩
  obtain ⟨rfl, henv⟩ := hfrozen
  exact ⟨rfl, rfl, rfl, ((hstep hlast hkept).changes h.apart h.apart' henv).leads,
    hholds.congr (get_changes h.apart h.apart' henv)⟩

end Beside

/-! ## The whole component -/

section Whole

variable (json : VerifierJson) (manifest : SourceManifest)

/-- Alone on a disk, `materialize` into an empty root ends, touches nothing outside that root,
and succeeds exactly if the source holds the manifest. Then the snapshot holds it too, with
the bytes of the source. -/
def FreezesAlone : Prop :=
  ∀ disk source_root snapshot_root S T, Roots disk source_root snapshot_root S T →
    ∃ bound, ∀ fuel ≥ bound, ∃ result final,
      run_alone (FrozenSnapshot.materialize json fuel source_root snapshot_root manifest) disk
          = (result, final)
        ∧ result ≠ .error .out_of_fuel
        ∧ (∀ loc, ¬ T <+: loc → final.get loc = disk.get loc)
        ∧ ((∃ frozen, result = .ok frozen) ↔ Holds disk S manifest)
        ∧ ∀ frozen, result = .ok frozen →
          frozen.source_root = source_root ∧ frozen.snapshot_root = snapshot_root
            ∧ frozen.manifest = manifest ∧ manifest.fingerprint json = .ok frozen.source_pre
            ∧ final.resolve snapshot_root.parts = .ok T ∧ Holds final T manifest
            ∧ ∀ rel bytes, final.get (T ++ rel) = some (.file bytes)
              ↔ disk.get (S ++ rel) = some (.file bytes)

/-- Whatever another process does to the source between any two steps, a snapshot that is
made holds the manifest. The way to the snapshot root does not lead through the source. -/
def FreezesBeside : Prop :=
  ∀ fuel disk source_root snapshot_root S T frozen final,
    Roots disk source_root snapshot_root S T → disk.Clear S [] snapshot_root.parts →
    Runs Op.perform (Tree.ChangesOnly S)
      (FrozenSnapshot.materialize json fuel source_root snapshot_root manifest) disk
      (.ok frozen) final →
    frozen.snapshot_root = snapshot_root ∧ frozen.source_root = source_root
      ∧ frozen.manifest = manifest ∧ final.resolve snapshot_root.parts = .ok T
      ∧ Holds final T manifest

/-- On any disk an inspection of a root ends, changes nothing, and succeeds exactly if the root
leads to a directory that holds the manifest. -/
def InspectsExactly (root : PathBuf) (inspect : ℕ → DiskM String) : Prop :=
  ∀ later : Disk, ∃ bound, ∀ fuel ≥ bound, ∃ result,
    run_alone (inspect fuel) later = (result, later) ∧ result ≠ .error .out_of_fuel
      ∧ ((∃ fingerprint, result = .ok fingerprint)
        ↔ ∃ loc, later.resolve root.parts = .ok loc ∧ Holds later loc manifest)
      ∧ ∀ fingerprint, result = .ok fingerprint → manifest.fingerprint json = .ok fingerprint

/-- No other accepted manifest has the fingerprint, and trees that hold the manifest have the
same files. SHA-256 is taken to have no collision on the bytes that are compared. -/
def FingerprintsTell : Prop :=
  (∀ other : SourceManifest, other.validate = true →
    Set.InjOn verification_sha256_hex
      {canonical_json_bytes json manifest, canonical_json_bytes json other} →
    (manifest.fingerprint json = other.fingerprint json ↔ manifest = other))
  ∧ ∀ (disk disk' : Disk) loc loc', Holds disk loc manifest → Holds disk' loc' manifest →
    Set.InjOn verification_sha256_hex (contents disk loc ∪ contents disk' loc') →
    ∀ rel bytes, disk.get (loc ++ rel) = some (.file bytes)
      ↔ disk'.get (loc' ++ rel) = some (.file bytes)

variable {json manifest}

theorem freezes_alone (hvalid : manifest.validate = true) : FreezesAlone json manifest := by
  intro disk source_root snapshot_root S T hroots
  obtain ⟨depth, hdepth⟩ := disk.exists_depth
  refine ⟨depth + 1, fun fuel hfuel => ?_⟩
  have hdeep : Deep disk S fuel := by
    intro rel hget
    have hlength := hdepth _ hget
    rw [List.length_append] at hlength
    omega
  by_cases hholds : Holds disk S manifest
  · obtain ⟨fingerprint, hfingerprint⟩ := @fingerprint_ok json manifest hvalid
    obtain ⟨final, hrun, hcopied⟩ := materialize_holds hvalid hroots hdeep hholds hfingerprint
    refine ⟨_, final, hrun, nofun, hcopied.frame, iff_of_true ⟨_, rfl⟩ hholds, ?_⟩
    intro frozen hfrozen
    obtain rfl := Except.ok.inj hfrozen
    exact ⟨rfl, rfl, rfl, hfingerprint, hcopied.grown.resolve hroots.snapshot,
      hcopied.holds hholds, hcopied.get_file_iff hholds⟩
  · obtain ⟨e, hrun⟩ := @materialize_fails json fuel manifest disk source_root snapshot_root S T
      hvalid hroots hdeep (by omega) hholds
    refine ⟨_, disk, hrun, by simp, fun _ _ => rfl, iff_of_false ?_ hholds, nofun⟩
    rintro ⟨_, hfrozen⟩
    nomatch hfrozen

theorem inspects_exactly (hvalid : manifest.validate = true) (root : PathBuf) (kind : TreeKind) :
    InspectsExactly json manifest root
      fun fuel => inspect_disk json fuel root.parts manifest kind := by
  intro later
  obtain ⟨bound, hbound⟩ := inspect_disk_iff json hvalid later root.parts kind
  refine ⟨bound, fun fuel hfuel => ⟨_, run_inspect_disk, (hbound fuel hfuel).1,
    (hbound fuel hfuel).2, fun fingerprint h => ?_⟩⟩
  exact (inspect_disk_sound hvalid h).1

/-- Renaming errors changes nothing about that. -/
theorem InspectsExactly.changed {root : PathBuf} {inspect : ℕ → DiskM String}
    (h : InspectsExactly json manifest root inspect) :
    InspectsExactly json manifest root fun fuel => (inspect fuel).mapError Stop.changed := by
  intro later
  obtain ⟨bound, hbound⟩ := h later
  refine ⟨bound, fun fuel hfuel => ?_⟩
  obtain ⟨result, hrun, hends, hiff, hfingerprint⟩ := hbound fuel hfuel
  refine ⟨result.mapError Stop.changed, ?_, ?_, ?_, ?_⟩
  · unfold run_alone at hrun ⊢
    rw [Prog.run_mapError, hrun]
  · intro hfuel'
    obtain stop | fingerprint := result
    · obtain e | _ := stop
      · nomatch hfuel'
      · exact hends rfl
    · nomatch hfuel'
  · simp only [mapError_eq_ok]
    exact hiff
  · intro fingerprint hok
    rw [mapError_eq_ok] at hok
    exact hfingerprint fingerprint hok

/-- **Frozen snapshots are exact.** A copy alone succeeds exactly from a source that holds the
manifest, and its files have the bytes of the source; beside a process that changes the source
a success still means that the snapshot holds the manifest; later inspections of either tree
tell whether it still does; and fingerprints tell manifests apart. -/
theorem frozen_snapshot_exact (json : VerifierJson)
    (hjson : Function.Injective json.source_manifest) (manifest : SourceManifest) (hvalid : manifest.validate = true) :
    FreezesAlone json manifest ∧ FreezesBeside json manifest
      ∧ (∀ frozen : FrozenSnapshot, frozen.manifest = manifest →
        InspectsExactly json manifest frozen.snapshot_root
            (fun fuel => frozen.verify_snapshot_integrity json fuel)
          ∧ InspectsExactly json manifest frozen.source_root
            (fun fuel => frozen.source_post_fingerprint json fuel))
      ∧ FingerprintsTell json manifest := by
  refine ⟨freezes_alone hvalid, ?_, ?_, ?_, ?_⟩
  · intro fuel disk source_root snapshot_root S T frozen final hroots hclear hrun
    exact materialize_beside hvalid hroots hclear hrun
  · rintro frozen rfl
    exact ⟨inspects_exactly hvalid _ _, (inspects_exactly hvalid _ _).changed⟩
  · intro other hother hsha
    exact fingerprint_eq_iff hjson hvalid hother hsha
  · intro disk disk' loc loc' h h' hsha rel bytes
    exact h.get_file_iff h' hsha rel bytes

end Whole

/-! ## A small disk -/

namespace SmallDisk

def source : FileName := ⟨[115], by decide⟩

def snapshot : FileName := ⟨[116], by decide⟩

def name : FileName := ⟨[97], by decide⟩

/-- `/s` with one file, and `/t` without any. -/
def disk : Disk :=
  ((Tree.empty.insert [] source .dir (by decide) (by decide)).insert [source] name (.file [1])
    (by decide) (by decide)).insert [] snapshot .dir (by decide) (by decide)

def manifest : SourceManifest := ⟨[⟨"a", verification_sha256_hex [1]⟩]⟩

def json : VerifierJson where
  behavior _ := []
  capability _ := []
  changed_path_manifest _ := []
  selection _ := []
  command _ := []
  transcript _ := []
  bundle_identity _ := []
  capability_set _ := []
  command_set _ := []
  policy_set _ := []
  source_manifest := source_manifest_json

abbrev copy (fuel : ℕ) : DiskM FrozenSnapshot :=
  FrozenSnapshot.materialize json fuel ⟨true, [source]⟩ ⟨true, [snapshot]⟩ manifest

theorem validate : manifest.validate = true := by
  refine validate_iff.mpr ⟨List.cons_ne_nil _ _, ?_, List.pairwise_singleton _ _⟩
  intro file hfile
  rw [List.mem_singleton.mp hfile]
  exact ⟨by decide, verification_sha256_hex_valid _⟩

theorem roots : Roots disk ⟨true, [source]⟩ ⟨true, [snapshot]⟩ [source] [snapshot] where
  source_absolute := rfl
  snapshot_absolute := rfl
  source_dir := by decide
  snapshot_dir := by decide
  source := by decide
  snapshot := by decide
  empty := by decide
  apart := by decide
  apart' := by decide

theorem clear : disk.Clear [source] [] [snapshot] :=
  ⟨by decide, [snapshot], by decide, by decide, trivial⟩

/-- What stands in the source, and below. -/
theorem get_source (rel : List FileName) : disk.get ([source] ++ rel)
    = if rel = [] then some .dir else if rel = [name] then some (.file [1]) else none := by
  have hsnapshot : [source] ++ rel ≠ [] ++ [snapshot] := by
    intro heq
    exact absurd (List.cons.inj heq).1 (by decide)
  unfold disk
  rw [Tree.get_insert_of_ne hsnapshot]
  by_cases hname : rel = [name]
  · rw [hname]
    rfl
  · rw [Tree.get_insert_of_ne fun heq => hname (List.append_cancel_left heq), if_neg hname]
    by_cases hnil : rel = []
    · rw [hnil]
      rfl
    · rw [Tree.get_insert_of_ne fun heq => hnil (by simpa using heq), if_neg hnil]
      rfl

theorem holds : Holds disk [source] manifest where
  files := by
    have hsegments : segments "a" = [name] := by decide
    ext ⟨rel, sha⟩
    constructor
    · rintro ⟨bytes, hget, rfl⟩
      rw [get_source] at hget
      split at hget
      · nomatch hget
      · split at hget
        · rename_i hname
          obtain rfl : [1] = bytes := by simpa using hget
          exact ⟨_, List.mem_singleton_self _, Prod.ext (hname.trans hsegments.symm) rfl⟩
        · nomatch hget
    · rintro ⟨file, hfile, heq⟩
      rw [List.mem_singleton.mp hfile] at heq
      obtain ⟨rfl, rfl⟩ := Prod.mk.inj heq
      refine ⟨[1], ?_, rfl⟩
      rw [hsegments]
      rfl
  plain rel node hget := by
    rw [get_source] at hget
    split at hget
    · exact Option.some.inj hget ▸ Node.plain_dir
    · split at hget
      · exact Option.some.inj hget ▸ Node.plain_file _
      · nomatch hget

end SmallDisk

open SmallDisk in
/-- The copy of a source with one file, alone and beside a process that does nothing. -/
theorem frozen_snapshot_exact_small :
    (∃ bound, ∀ fuel ≥ bound, ∃ frozen final, run_alone (copy fuel) disk = (.ok frozen, final)
      ∧ Holds final [snapshot] manifest ∧ final.get [snapshot, name] = some (.file [1]))
    ∧ ∃ fuel frozen final,
      Runs Op.perform (Tree.ChangesOnly [source]) (copy fuel) disk (.ok frozen) final
        ∧ Holds final [snapshot] manifest := by
  obtain ⟨halone, hbeside, -, -⟩ :=
    frozen_snapshot_exact json source_manifest_json_injective manifest validate
  obtain ⟨bound, hbound⟩ := halone disk _ _ _ _ roots
  have hfrozen (fuel : ℕ) (hfuel : fuel ≥ bound) : ∃ frozen final,
      run_alone (copy fuel) disk = (.ok frozen, final)
        ∧ Holds final [snapshot] manifest ∧ final.get [snapshot, name] = some (.file [1]) := by
    obtain ⟨result, final, hrun, -, -, hiff, hfinal⟩ := hbound fuel hfuel
    obtain ⟨frozen, rfl⟩ := hiff.mpr holds
    obtain ⟨-, -, -, -, -, hholds, hbytes⟩ := hfinal frozen rfl
    exact ⟨frozen, final, hrun, hholds, (hbytes [name] [1]).mpr rfl⟩
  refine ⟨⟨bound, hfrozen⟩, ?_⟩
  obtain ⟨frozen, final, hrun, -⟩ := hfrozen bound le_rfl
  have hruns : Runs Op.perform (Tree.ChangesOnly [source]) (copy bound) disk
      (run_alone (copy bound) disk).1 (run_alone (copy bound) disk).2 :=
    .alone (Tree.ChangesOnly.refl [source]) (copy bound) disk
  rw [hrun] at hruns
  obtain ⟨-, -, -, -, hholds⟩ := hbeside bound disk _ _ _ _ frozen final roots clear hruns
  exact ⟨bound, frozen, final, hruns, hholds⟩

end Snapshots

end OvcaCore

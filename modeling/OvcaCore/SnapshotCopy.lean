/-
The copy of a source into an empty root, with nobody else at work.

While the loop of `materialize` runs, what stands below the snapshot is part of what
stands below the source, and its files are those copied so far (`Copied`). From there on
every step of a copy succeeds: a parent is a directory or is made, the new file has no
predecessor, and its bytes are the ones the manifest has the digest of.
-/
import OvcaCore.SnapshotWalk

set_option autoImplicit false

namespace OvcaCore

open OvcaCore.Checks OvcaCore.Interleaving OvcaCore.FileTrees

namespace Snapshots

/-! ## Running alone -/

/-- A program run alone on a disk. -/
abbrev run_alone {α : Type} (p : DiskM α) (disk : Disk) : Except Stop α × Disk :=
  p.run Op.perform disk

section Run

variable {α β : Type} {disk next : Disk} {e : SnapshotError}

theorem run_bind_ok {p : DiskM α} {f : α → DiskM β} {a : α} (h : run_alone p disk = (.ok a, next)) :
    run_alone (p >>= f) disk = run_alone (f a) next := Prog.run_bind_of_ok h

theorem run_bind_error {p : DiskM α} {f : α → DiskM β} {stop : Stop}
    (h : run_alone p disk = (.error stop, next)) :
    run_alone (p >>= f) disk = (.error stop, next) := by
  unfold run_alone at h ⊢
  rw [Prog.run_bind, h]

theorem run_attempt_ok {o : FsOp} {out : o.Out} (h : o.perform disk = (.ok out, next)) :
    run_alone (attempt o e) disk = (.ok out, next) := by
  change run_alone (check ((o.perform disk).1.mapError fun _ => e)) (o.perform disk).2 = _
  rw [h]
  rfl

theorem run_symlink_metadata {path : List FileName} {node : Node FileName (List UInt8)}
    (h : disk.stat path = .ok node) :
    run_alone (symlink_metadata path e) disk = (.ok node.kind, disk) := by
  apply run_attempt_ok
  change ((disk.stat path).map Node.kind, disk) = _
  rw [h]
  rfl

theorem run_read {path : List FileName} {bytes : List UInt8} (h : disk.read path = .ok bytes) :
    run_alone (read path e) disk = (.ok bytes, disk) := by
  apply run_attempt_ok
  change (disk.read path, disk) = _
  rw [h]
  rfl

theorem run_hash_file {path : List FileName} {bytes : List UInt8} (h : disk.read path = .ok bytes) :
    run_alone (hash_file path) disk = (.ok (verification_sha256_hex bytes), disk) := by
  unfold hash_file
  rw [run_bind_ok (run_read h)]
  rfl

/-- A parent that is there is left alone. -/
theorem run_ensure_directory_dir {path : List FileName} (h : disk.stat path = .ok .dir) :
    run_alone (ensure_directory path) disk = (.ok (), disk) := by
  have hanswer : (Op.symlink_metadata path : FsOp).perform disk = (.ok .dir, disk) := by
    change ((disk.stat path).map Node.kind, disk) = _
    rw [h]
    rfl
  unfold run_alone ensure_directory
  rw [Prog.run_op, hanswer]
  rfl

/-- A parent that is missing is made. -/
theorem run_ensure_directory_new {path : List FileName} (h : disk.stat path = .error .NotFound)
    (hcreate : disk.create path .dir = (.ok (), next)) (hnext : next.stat path = .ok .dir) :
    run_alone (ensure_directory path) disk = (.ok (), next) := by
  have hanswer : (Op.symlink_metadata path : FsOp).perform disk = (.error .NotFound, disk) := by
    change ((disk.stat path).map Node.kind, disk) = _
    rw [h]
    rfl
  have hmade : run_alone (create_dir path .Io) disk = (.ok (), next) := run_attempt_ok hcreate
  unfold run_alone ensure_directory
  rw [Prog.run_op, hanswer]
  change run_alone (create_dir path .Io >>= _) disk = _
  rw [run_bind_ok hmade, run_bind_ok (run_symlink_metadata hnext)]
  rfl

end Run

/-! ## A copy in progress -/

section Copy

variable {disk d : Disk} {source snapshot S T : List FileName} {done : List SourceFile}

/-- Some files of the source at `S` are copied to the snapshot at `T`. -/
structure Copied (disk : Disk) (S T : List FileName) (done : List SourceFile) (d : Disk) :
    Prop where
  grown : disk.Extends d
  frame : ∀ loc, ¬ T <+: loc → d.get loc = disk.get loc
  part : ∀ rel node, d.get (T ++ rel) = some node → disk.get (S ++ rel) = some node
  only : ∀ rel bytes, d.get (T ++ rel) = some (.file bytes) →
    ∃ file ∈ done, segments file.logical_path = rel
  all : ∀ file ∈ done, ∃ bytes, d.get (T ++ segments file.logical_path) = some (.file bytes)

/-- Two roots of which neither is in the other, and a snapshot root that is empty. -/
structure Roots (disk : Disk) (source_root snapshot_root : PathBuf) (S T : List FileName) :
    Prop where
  source_absolute : source_root.absolute = true
  snapshot_absolute : snapshot_root.absolute = true
  source_dir : disk.stat source_root.parts = .ok .dir
  snapshot_dir : disk.stat snapshot_root.parts = .ok .dir
  source : disk.resolve source_root.parts = .ok S
  snapshot : disk.resolve snapshot_root.parts = .ok T
  empty : disk.children T = ∅
  apart : ¬ S <+: T
  apart' : ¬ T <+: S

/-- Nothing below the source is below the snapshot. -/
theorem not_prefix_of_apart (hapart : ¬ S <+: T) (hapart' : ¬ T <+: S) (rel : List FileName) :
    ¬ T <+: S ++ rel := by
  intro h
  rcases List.prefix_or_prefix_of_prefix h (List.prefix_append S rel) with h | h
  · exact hapart' h
  · exact hapart h

/-- An empty directory has nothing below it. -/
theorem nil_of_get (hempty : disk.children T = ∅) {rel : List FileName}
    (hget : disk.get (T ++ rel) ≠ none) : rel = [] := by
  obtain _ | ⟨n, rel⟩ := rel
  · rfl
  · have hsplit : T ++ n :: rel = T ++ [n] ++ rel := by simp
    have hchild : disk.get (T ++ [n]) ≠ none := by
      by_cases hrel : rel = []
      · rw [hsplit, hrel, List.append_nil] at hget
        exact hget
      · rw [hsplit] at hget
        exact Tree.ne_none (disk.dir_of_below hrel hget)
    have hmem := disk.mem_children.mpr hchild
    rw [hempty] at hmem
    exact absurd hmem (Finset.notMem_empty n)

/-- Before the loop nothing is copied. -/
theorem copied_nil (hempty : disk.children T = ∅) (hS : disk.get S = some .dir)
    (hT : disk.get T = some .dir) : Copied disk S T [] disk where
  grown := .refl disk
  frame _ _ := rfl
  part rel node hget := by
    have hrel := nil_of_get hempty (Tree.ne_none hget)
    subst hrel
    rw [List.append_nil] at hget ⊢
    rw [hS, ← hT]
    exact hget
  only rel bytes hget := by
    have hrel := nil_of_get hempty (Tree.ne_none hget)
    subst hrel
    rw [List.append_nil, hT] at hget
    nomatch hget
  all file hfile := absurd hfile List.not_mem_nil

/-- The source of a copy in progress is the one it began with. -/
theorem Copied.get_source (h : Copied disk S T done d) (hapart : ¬ S <+: T) (hapart' : ¬ T <+: S)
    (rel : List FileName) : d.get (S ++ rel) = disk.get (S ++ rel) :=
  h.frame _ (not_prefix_of_apart hapart hapart' rel)

/-! ## Parents -/

/-- A new directory of the snapshot where the source has one. -/
theorem Copied.insert_dir (h : Copied disk S T done d) {rel : List FileName} {n : FileName}
    (hdir : d.get (T ++ rel) = some .dir) (hfree : d.get (T ++ rel ++ [n]) = none)
    (hsource : disk.get (S ++ (rel ++ [n])) = some .dir) :
    Copied disk S T done (d.insert (T ++ rel) n .dir hdir hfree) where
  grown := h.grown.trans (Tree.extends_insert hdir hfree)
  frame loc hloc := by
    rw [← h.frame loc hloc]
    apply Tree.get_insert_of_ne
    rintro rfl
    exact hloc ⟨rel ++ [n], by simp⟩
  part place node hget := by
    by_cases hplace : T ++ place = T ++ rel ++ [n]
    · rw [hplace, Tree.get_insert_self] at hget
      rw [List.append_assoc] at hplace
      rw [List.append_cancel_left hplace, hsource]
      exact hget
    · rw [Tree.get_insert_of_ne hplace] at hget
      exact h.part place node hget
  only place bytes hget := by
    by_cases hplace : T ++ place = T ++ rel ++ [n]
    · rw [hplace, Tree.get_insert_self] at hget
      nomatch hget
    · rw [Tree.get_insert_of_ne hplace] at hget
      exact h.only place bytes hget
  all file hfile := by
    obtain ⟨bytes, hbytes⟩ := h.all file hfile
    refine ⟨bytes, (Tree.get_insert_of_ne ?_).trans hbytes⟩
    intro heq
    rw [heq, hfree] at hbytes
    nomatch hbytes

/-- A path of the snapshot in a copy in progress. -/
theorem Copied.resolve (h : Copied disk S T done d) (hsnapshot : disk.resolve snapshot = .ok T)
    {rel : List FileName} {node : Node FileName (List UInt8)} (hget : d.get (T ++ rel) = some node)
    (hplain : node.Plain) : d.resolve (snapshot ++ rel) = .ok (T ++ rel) :=
  resolve_below (h.grown.resolve hsnapshot) hget hplain

/-- One parent is there, or is made. -/
theorem Copied.ensure_directory (h : Copied disk S T done d)
    (hsnapshot : disk.resolve snapshot = .ok T) {rel : List FileName} {n : FileName}
    (hdir : d.get (T ++ rel) = some .dir) (hsource : disk.get (S ++ (rel ++ [n])) = some .dir) :
    ∃ d', run_alone (Snapshots.ensure_directory (snapshot ++ (rel ++ [n]))) d = (.ok (), d')
      ∧ Copied disk S T done d' ∧ d'.get (T ++ (rel ++ [n])) = some .dir := by
  have hparent := h.resolve hsnapshot hdir Node.plain_dir
  cases hget : d.get (T ++ rel ++ [n]) with
  | some node =>
    -- what stands there stands in the source, which has a directory
    have hnode : node = .dir := by
      rw [List.append_assoc] at hget
      have hpart := h.part _ node hget
      rw [hsource] at hpart
      exact (Option.some.inj hpart).symm
    subst hnode
    have hstat := d.stat_of_some hparent hget
    rw [List.append_assoc] at hstat hget
    exact ⟨d, run_ensure_directory_dir hstat, h, hget⟩
  | none =>
    have hstat := d.stat_of_none hparent hget
    have habsent : d.absent (T ++ rel) = .NotFound := by
      unfold Tree.absent
      rw [hdir]
    have hcreate := @Tree.create_eq FileName (List UInt8) _ _ d _ _ n .dir hparent hdir hget
    have hcopied := h.insert_dir hdir hget hsource
    have hnew : (d.insert (T ++ rel) n .dir hdir hget).get (T ++ (rel ++ [n])) = some .dir := by
      rw [← List.append_assoc]
      exact Tree.get_insert_self
    have hstat' : (d.insert (T ++ rel) n .dir hdir hget).stat (snapshot ++ (rel ++ [n]))
        = .ok .dir := by
      refine stat_below (hcopied.grown.resolve hsnapshot) ?_ hnew
      exact (Tree.extends_insert hdir hget).get_dir hdir
    rw [List.append_assoc] at hstat hcreate
    rw [habsent] at hstat
    exact ⟨_, run_ensure_directory_new hstat hcreate hstat', hcopied, hnew⟩

/-- All the parents of a file of the source. -/
theorem Copied.ensure_directories (hsnapshot : disk.resolve snapshot = .ok T)
    {rel parts : List FileName} (hparts : parts ≠ []) (h : Copied disk S T done d)
    (hdir : d.get (T ++ rel) = some .dir) (hsource : disk.get (S ++ (rel ++ parts)) ≠ none) :
    ∃ d', run_alone (Snapshots.ensure_directories (snapshot ++ rel) parts) d = (.ok (), d')
      ∧ Copied disk S T done d' ∧ d'.get (T ++ (rel ++ parts.dropLast)) = some .dir := by
  induction parts generalizing rel d with
  | nil => exact absurd rfl hparts
  | cons part parts ih =>
    obtain _ | ⟨next, parts⟩ := parts
    · refine ⟨d, rfl, h, ?_⟩
      rw [List.dropLast_singleton, List.append_nil]
      exact hdir
    · have hassoc : rel ++ part :: next :: parts = rel ++ [part] ++ next :: parts := by simp
      rw [hassoc] at hsource
      have hparent : disk.get (S ++ (rel ++ [part])) = some .dir := by
        rw [← List.append_assoc] at hsource
        exact disk.dir_of_below (List.cons_ne_nil next parts) hsource
      obtain ⟨d₁, hrun₁, hcopied₁, hdir₁⟩ := h.ensure_directory hsnapshot hdir hparent
      obtain ⟨d₂, hrun₂, hcopied₂, hdir₂⟩ := ih (List.cons_ne_nil next parts) hcopied₁ hdir₁ hsource
      refine ⟨d₂, ?_, hcopied₂, ?_⟩
      · rw [Snapshots.ensure_directories, List.append_assoc, run_bind_ok hrun₁]
        exact hrun₂
      · rw [List.dropLast_cons_cons]
        rw [List.append_assoc] at hdir₂
        exact hdir₂

/-! ## Files -/

/-- One more file, with the bytes of the source. -/
theorem Copied.add_file {d' : Disk} {file : SourceFile} {bytes : List UInt8}
    (h : Copied disk S T done d) (hgrown : d.Extends d')
    (hself : d'.get (T ++ segments file.logical_path) = some (.file bytes))
    (hother : ∀ loc, loc ≠ T ++ segments file.logical_path → d'.get loc = d.get loc)
    (hsource : disk.get (S ++ segments file.logical_path) = some (.file bytes)) :
    Copied disk S T (done ++ [file]) d' where
  grown := h.grown.trans hgrown
  frame loc hloc := by
    rw [← h.frame loc hloc]
    apply hother
    rintro rfl
    exact hloc (List.prefix_append T _)
  part rel node hget := by
    by_cases hrel : T ++ rel = T ++ segments file.logical_path
    · rw [hrel, hself] at hget
      rw [List.append_cancel_left hrel, hsource]
      exact hget
    · rw [hother _ hrel] at hget
      exact h.part rel node hget
  only rel content hget := by
    by_cases hrel : T ++ rel = T ++ segments file.logical_path
    · exact ⟨file, by simp, (List.append_cancel_left hrel).symm⟩
    · rw [hother _ hrel] at hget
      obtain ⟨copied, hcopied, hsegments⟩ := h.only rel content hget
      exact ⟨copied, List.mem_append_left _ hcopied, hsegments⟩
  all copied hcopied := by
    by_cases hrel : T ++ segments copied.logical_path = T ++ segments file.logical_path
    · rw [hrel]
      exact ⟨bytes, hself⟩
    · rw [hother _ hrel]
      rcases List.mem_append.mp hcopied with hcopied | hcopied
      · exact h.all copied hcopied
      · exact absurd (by rw [List.mem_singleton.mp hcopied]) hrel

/-- A new file is made, filled, and hashed. -/
theorem Copied.copy_bytes (h : Copied disk S T done d) (hsnapshot : disk.resolve snapshot = .ok T)
    {file : SourceFile} {rel : List FileName} {n : FileName} {bytes : List UInt8}
    (hsegments : segments file.logical_path = rel ++ [n])
    (hdir : d.get (T ++ rel) = some .dir)
    (hsource : disk.get (S ++ segments file.logical_path) = some (.file bytes))
    (hnew : ∀ copied ∈ done, segments copied.logical_path ≠ segments file.logical_path)
    (hsha : file.sha256 = verification_sha256_hex bytes) :
    ∃ d', run_alone (Snapshots.copy_bytes file (join_logical snapshot file.logical_path) bytes) d
        = (.ok (), d') ∧ Copied disk S T (done ++ [file]) d' := by
  have hfree : d.get (T ++ rel ++ [n]) = none := by
    by_contra hsome
    obtain ⟨node, hget⟩ := Option.ne_none_iff_exists'.mp hsome
    rw [List.append_assoc, ← hsegments] at hget
    have hpart := h.part _ node hget
    rw [hsource] at hpart
    rw [← Option.some.inj hpart] at hget
    obtain ⟨copied, hcopied, hsame⟩ := h.only _ bytes hget
    exact hnew copied hcopied hsame
  have hcreate := @Tree.create_eq FileName (List UInt8) _ _ d _ _ n (.file [])
    (h.resolve hsnapshot hdir Node.plain_dir) hdir hfree
  have hfilled : (d.insert (T ++ rel) n (.file []) hdir hfree).get (T ++ rel ++ [n])
      = some (.file []) := Tree.get_insert_self
  have hgrown₁ : d.Extends (d.insert (T ++ rel) n (.file []) hdir hfree) :=
    Tree.extends_insert hdir hfree
  have hloc : T ++ rel ++ [n] = T ++ segments file.logical_path := by
    rw [hsegments, List.append_assoc]
  have hpath : snapshot ++ rel ++ [n] = join_logical snapshot file.logical_path := by
    unfold join_logical
    rw [hsegments, List.append_assoc]
  rw [hpath] at hcreate
  rw [hloc] at hfilled
  have hresolve : (d.insert (T ++ rel) n (.file []) hdir hfree).resolve
      (join_logical snapshot file.logical_path) = .ok (T ++ segments file.logical_path) :=
    resolve_below ((h.grown.trans hgrown₁).resolve hsnapshot) hfilled (Node.plain_file [])
  have hfill := @Tree.fill_eq FileName (List UInt8) _ _ _ _ _ bytes hresolve hfilled
  have hgrown₂ := @Tree.extends_put FileName (List UInt8) _ _ _ bytes ⟨_, hfilled⟩
  have hcopied := @Copied.add_file disk d S T done _ file bytes h (hgrown₁.trans hgrown₂)
    Tree.get_put_self (fun loc hne => (Tree.get_put_of_ne hne).trans
      (Tree.get_insert_of_ne (by rw [hloc]; exact hne))) hsource
  have hread : Tree.read _ (join_logical snapshot file.logical_path) = .ok bytes :=
    read_below (hcopied.grown.resolve hsnapshot) Tree.get_put_self
  have hmade : run_alone (create_new (join_logical snapshot file.logical_path) .Io) d
      = (.ok (), _) := run_attempt_ok hcreate
  have hwritten : run_alone (write (join_logical snapshot file.logical_path) bytes .Io) _
      = (.ok (), _) := run_attempt_ok hfill
  refine ⟨_, ?_, hcopied⟩
  unfold Snapshots.copy_bytes
  rw [run_bind_ok hmade, run_bind_ok hwritten, run_bind_ok (run_hash_file hread), hsha,
    reject_if_of_not (fun hne => hne rfl)]
  rfl

/-- **The copy of one file of the manifest.** -/
theorem Copied.copy_file {manifest : SourceManifest} (hvalid : manifest.validate = true)
    (hsource : disk.resolve source = .ok S) (hsnapshot : disk.resolve snapshot = .ok T)
    (hapart : ¬ S <+: T) (hapart' : ¬ T <+: S) (hT : disk.get T = some .dir)
    (hholds : Holds disk S manifest) (h : Copied disk S T done d) {file : SourceFile}
    (hfile : file ∈ manifest.files)
    (hnew : ∀ copied ∈ done, segments copied.logical_path ≠ segments file.logical_path) :
    ∃ d', run_alone (Snapshots.copy_file source snapshot file) d = (.ok (), d')
      ∧ Copied disk S T (done ++ [file]) d' := by
  have hin : (segments file.logical_path, file.sha256) ∈ regular_files disk S := by
    rw [hholds.files]
    exact ⟨file, hfile, rfl⟩
  obtain ⟨bytes, hget, hsha⟩ := hin
  have hne := segments_ne_nil (path_valid hvalid hfile)
  have hroot : d.get (T ++ []) = some .dir := by
    rw [List.append_nil]
    exact h.grown.get_dir hT
  obtain ⟨d₁, hparents, hcopied₁, hdir⟩ := @Copied.ensure_directories disk d snapshot S T done
    hsnapshot [] _ hne h hroot (by rw [List.nil_append]; exact Tree.ne_none hget)
  rw [List.append_nil] at hparents
  have hread : d₁.read (join_logical source file.logical_path) = .ok bytes :=
    read_below (hcopied₁.grown.resolve hsource)
      ((hcopied₁.get_source hapart hapart' _).trans hget)
  have hsplit := List.dropLast_append_getLast hne
  obtain ⟨d₂, hbytes, hcopied₂⟩ := hcopied₁.copy_bytes hsnapshot hsplit.symm
    (by rw [List.nil_append] at hdir; exact hdir) hget hnew hsha
  refine ⟨d₂, ?_, hcopied₂⟩
  have hparents' : run_alone (ensure_destination_parent snapshot file.logical_path) d
      = (.ok (), d₁) := hparents
  unfold Snapshots.copy_file
  rw [run_bind_ok hparents']
  change run_alone (copy_opened file _ (d₁.read (join_logical source file.logical_path))) d₁ = _
  rw [hread]
  exact hbytes

/-- **The loop over the manifest** copies what is left of it. -/
theorem Copied.copy_files {manifest : SourceManifest} (hvalid : manifest.validate = true)
    (hsource : disk.resolve source = .ok S) (hsnapshot : disk.resolve snapshot = .ok T)
    (hapart : ¬ S <+: T) (hapart' : ¬ T <+: S) (hT : disk.get T = some .dir)
    (hholds : Holds disk S manifest) {rest : List SourceFile}
    (hfiles : manifest.files = done ++ rest) (h : Copied disk S T done d) :
    ∃ d', run_alone (rest.forM (Snapshots.copy_file source snapshot)) d = (.ok (), d')
      ∧ Copied disk S T manifest.files d' := by
  induction rest generalizing done d with
  | nil =>
    rw [List.append_nil] at hfiles
    exact ⟨d, rfl, hfiles ▸ h⟩
  | cons file rest ih =>
    have hfile : file ∈ manifest.files := by rw [hfiles]; simp
    have hnodup := nodup_files hvalid
    have hnew (copied : SourceFile) (hcopied : copied ∈ done) :
        segments copied.logical_path ≠ segments file.logical_path := by
      intro hsame
      have heq := segments_inj hvalid (by rw [hfiles]; exact List.mem_append_left _ hcopied) hfile
        hsame
      rw [hfiles, List.nodup_append] at hnodup
      exact hnodup.2.2 copied hcopied file List.mem_cons_self heq
    obtain ⟨d₁, hrun₁, hcopied₁⟩ :=
      h.copy_file hvalid hsource hsnapshot hapart hapart' hT hholds hfile hnew
    obtain ⟨d₂, hrun₂, hcopied₂⟩ := ih (by rw [hfiles]; simp) hcopied₁
    refine ⟨d₂, ?_, hcopied₂⟩
    change run_alone (Snapshots.copy_file source snapshot file >>= fun _ => _) d = _
    rw [run_bind_ok hrun₁]
    exact hrun₂

end Copy

end Snapshots

end OvcaCore

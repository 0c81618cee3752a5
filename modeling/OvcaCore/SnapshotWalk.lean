/-
What the walk of a tree finds.

On a disk that stays as it is, `visit` finds every regular file below a directory once,
under the path that joins its names, or it fails: at an entry that is neither a directory
nor a regular file, or at a file whose names make no valid path (`visit_sound`,
`visit_total`). So an inspection succeeds exactly on the trees that hold a manifest
(`Holds`, `inspect_disk_iff`).
-/
import OvcaCore.SnapshotPaths

set_option autoImplicit false

namespace OvcaCore

open OvcaCore.Checks OvcaCore.Interleaving OvcaCore.FileTrees

namespace Snapshots

/-! ## What a tree holds -/

/-- The regular files below a location: their names from there on, and their digests. -/
def regular_files (disk : Disk) (loc : List FileName) : Set (List FileName × String) :=
  {p | ∃ bytes, disk.get (loc ++ p.1) = some (.file bytes) ∧ p.2 = verification_sha256_hex bytes}

theorem mem_regular_files {disk : Disk} {loc : List FileName} {p : List FileName × String} :
    p ∈ regular_files disk loc ↔ ∃ bytes, disk.get (loc ++ p.1) = some (.file bytes)
      ∧ p.2 = verification_sha256_hex bytes := Iff.rfl

/-- The files that a manifest lists. -/
def listed (manifest : SourceManifest) : Set (List FileName × String) :=
  {p | ∃ file ∈ manifest.files, p = (segments file.logical_path, file.sha256)}

/-- The regular files below a location are the manifest's, by path and digest, and nothing
else stands there but directories. -/
structure Holds (disk : Disk) (loc : List FileName) (manifest : SourceManifest) : Prop where
  files : regular_files disk loc = listed manifest
  plain : disk.PlainBelow loc

/-! ## Answers of a disk -/

/-- A disk as the oracle of a program. -/
abbrev answers (disk : Disk) (o : FsOp) : o.Ans := (o.perform disk).1

section Answers

variable {disk : Disk} {root loc rel : List FileName} {e : SnapshotError}

@[simp] theorem eval_check {α : Type} (r : Except SnapshotError α) :
    (check r).eval (answers disk) = r.mapError .error := rfl

@[simp] theorem eval_failed {α : Type} :
    (fail e : DiskM α).eval (answers disk) = .error (.error e) := rfl

theorem eval_symlink_metadata (path : List FileName) :
    (symlink_metadata path e).eval (answers disk)
      = ((disk.stat path).map Node.kind).mapError fun _ => .error e := by
  change ((((disk.stat path).map Node.kind).mapError fun _ => e).mapError Stop.error) = _
  cases disk.stat path <;> rfl

theorem eval_read_dir (path : List FileName) :
    (read_dir path e).eval (answers disk) = (disk.list path).mapError fun _ => .error e := by
  change (((disk.list path).mapError fun _ => e).mapError Stop.error) = _
  cases disk.list path <;> rfl

theorem eval_read (path : List FileName) :
    (read path e).eval (answers disk) = (disk.read path).mapError fun _ => .error e := by
  change (((disk.read path).mapError fun _ => e).mapError Stop.error) = _
  cases disk.read path <;> rfl

/-- Below the directory that the root leads to, paths lead where they say. -/
theorem resolve_below (hroot : disk.resolve root = .ok loc) {node : Node FileName (List UInt8)}
    (hget : disk.get (loc ++ rel) = some node) (hplain : node.Plain) :
    disk.resolve (root ++ rel) = .ok (loc ++ rel) := by
  rw [disk.resolve_append hroot]
  exact disk.walk_of_plain hget hplain

theorem list_below (hroot : disk.resolve root = .ok loc)
    (hdir : disk.get (loc ++ rel) = some .dir) :
    disk.list (root ++ rel) = .ok (disk.children (loc ++ rel)) := by
  unfold Tree.list
  rw [resolve_below hroot hdir Node.plain_dir, ok_bind, hdir]

theorem stat_below (hroot : disk.resolve root = .ok loc)
    (hdir : disk.get (loc ++ rel) = some .dir) {n : FileName} {node : Node FileName (List UInt8)}
    (hget : disk.get (loc ++ (rel ++ [n])) = some node) :
    disk.stat (root ++ (rel ++ [n])) = .ok node := by
  rw [← List.append_assoc] at hget ⊢
  exact disk.stat_of_some (resolve_below hroot hdir Node.plain_dir) hget

theorem read_below (hroot : disk.resolve root = .ok loc) {bytes : List UInt8}
    (hget : disk.get (loc ++ rel) = some (.file bytes)) : disk.read (root ++ rel) = .ok bytes := by
  unfold Tree.read
  rw [resolve_below hroot hget (Node.plain_file bytes), ok_bind, hget]

end Answers

/-! ## What is found -/

section Found

variable {disk : Disk} {loc : List FileName} {P Q : List FileName → Prop}

/-- The entries at some places below a location are directories, and files with a path. -/
structure Tidy (disk : Disk) (loc : List FileName) (P : List FileName → Prop) : Prop where
  plain : ∀ rel node, P rel → disk.get (loc ++ rel) = some node → node.Plain
  named : ∀ rel bytes, P rel → disk.get (loc ++ rel) = some (.file bytes) →
    ∃ p, to_logical rel = some p ∧ LocalVerification.validate_logical_path p = true

/-- A list of exactly the files at some places below a location, each once. -/
structure Found (disk : Disk) (loc : List FileName) (P : List FileName → Prop)
    (found : List SourceFile) : Prop extends Tidy disk loc P where
  mem : ∀ file, file ∈ found ↔ ∃ rel bytes, P rel ∧ disk.get (loc ++ rel) = some (.file bytes)
    ∧ to_logical rel = some file.logical_path ∧ file.sha256 = verification_sha256_hex bytes
  nodup : found.Nodup

/-- Places where nothing stands do not count. -/
theorem Tidy.congr (h : Tidy disk loc P)
    (hPQ : ∀ rel, disk.get (loc ++ rel) ≠ none → (Q rel → P rel)) : Tidy disk loc Q where
  plain rel node hQ hget := h.plain rel node (hPQ rel (Tree.ne_none hget) hQ) hget
  named rel bytes hQ hget :=
    h.named rel bytes (hPQ rel (Tree.ne_none hget) hQ) hget

theorem Found.congr {found : List SourceFile} (h : Found disk loc P found)
    (hPQ : ∀ rel, disk.get (loc ++ rel) ≠ none → (P rel ↔ Q rel)) : Found disk loc Q found where
  toTidy := h.toTidy.congr fun rel hget => (hPQ rel hget).mpr
  mem file := by
    have hiff (rel : List FileName) (bytes : List UInt8)
        (hget : disk.get (loc ++ rel) = some (.file bytes)) : P rel ↔ Q rel :=
      hPQ rel (Tree.ne_none hget)
    rw [h.mem]
    constructor
    · rintro ⟨rel, bytes, hP, hget, hrest⟩
      exact ⟨rel, bytes, (hiff rel bytes hget).mp hP, hget, hrest⟩
    · rintro ⟨rel, bytes, hQ, hget, hrest⟩
      exact ⟨rel, bytes, (hiff rel bytes hget).mpr hQ, hget, hrest⟩
  nodup := h.nodup

theorem Found.nil (h : ∀ rel, P rel → disk.get (loc ++ rel) = none) : Found disk loc P [] where
  plain rel node hP hget := by
    rw [h rel hP] at hget
    nomatch hget
  named rel bytes hP hget := by
    rw [h rel hP] at hget
    nomatch hget
  mem file := by
    constructor
    · intro hmem
      exact absurd hmem List.not_mem_nil
    · rintro ⟨rel, bytes, hP, hget, -⟩
      rw [h rel hP] at hget
      nomatch hget
  nodup := List.nodup_nil

/-- Two lists of files at different places. The paths tell the places apart. -/
theorem Found.append {xs ys : List SourceFile} (hxs : Found disk loc P xs)
    (hys : Found disk loc Q ys) (hdisjoint : ∀ rel, P rel → ¬ Q rel)
    (hP : ∀ rel, P rel → rel ≠ []) (hQ : ∀ rel, Q rel → rel ≠ []) :
    Found disk loc (fun rel => P rel ∨ Q rel) (xs ++ ys) where
  plain rel node hrel hget :=
    hrel.elim (fun h => hxs.plain rel node h hget) (fun h => hys.plain rel node h hget)
  named rel bytes hrel hget :=
    hrel.elim (fun h => hxs.named rel bytes h hget) (fun h => hys.named rel bytes h hget)
  mem file := by
    rw [List.mem_append, hxs.mem, hys.mem]
    constructor
    · rintro (⟨rel, bytes, hrel, hrest⟩ | ⟨rel, bytes, hrel, hrest⟩)
      · exact ⟨rel, bytes, .inl hrel, hrest⟩
      · exact ⟨rel, bytes, .inr hrel, hrest⟩
    · rintro ⟨rel, bytes, hrel | hrel, hrest⟩
      · exact .inl ⟨rel, bytes, hrel, hrest⟩
      · exact .inr ⟨rel, bytes, hrel, hrest⟩
  nodup := by
    rw [List.nodup_append]
    refine ⟨hxs.nodup, hys.nodup, ?_⟩
    rintro file hx _ hy rfl
    obtain ⟨rel, _, hrelP, -, hpath, -⟩ := (hxs.mem file).mp hx
    obtain ⟨rel', _, hrelQ, -, hpath', -⟩ := (hys.mem file).mp hy
    have hsame : rel = rel' :=
      (segments_of_to_logical (hP rel hrelP) hpath).symm.trans
        (segments_of_to_logical (hQ rel' hrelQ) hpath')
    exact hdisjoint rel hrelP (hsame ▸ hrelQ)

end Found

/-! ## One entry -/

section Entry

variable {disk : Disk} {root loc rel : List FileName} {kind : TreeKind} {n : FileName}
  {rec : List FileName → List SourceFile → DiskM (List SourceFile)} {discovered : List SourceFile}

/-- The entry of a file that has a valid path. -/
def file_entry (kind : TreeKind) (rel : List FileName) (bytes : List UInt8) :
    Except SnapshotError SourceFile := do
  let logical_path ← ok_or (to_logical rel) kind.mismatch
  reject_if (LocalVerification.validate_logical_path logical_path = false) .InvalidManifest
  return ⟨logical_path, verification_sha256_hex bytes⟩

/-- The value of one entry, by what stands there. -/
theorem eval_visit_entry (hroot : disk.resolve root = .ok loc)
    (hdir : disk.get (loc ++ rel) = some .dir) {node : Node FileName (List UInt8)}
    (hget : disk.get (loc ++ (rel ++ [n])) = some node) :
    (visit_entry kind root rec (root ++ (rel ++ [n])) discovered).eval (answers disk)
      = match node with
        | .dir => (rec (root ++ (rel ++ [n])) discovered).eval (answers disk)
        | .file bytes => ((file_entry kind (rel ++ [n]) bytes).map
          fun file => discovered ++ [file]).mapError .error
        | _ => .error (.error kind.mismatch) := by
  unfold visit_entry
  rw [Prog.eval_bind, eval_symlink_metadata, stat_below hroot hdir hget]
  cases node with
  | dir => rfl
  | link target => rfl
  | special content => rfl
  | file bytes =>
    change Prog.eval _ (check (ok_or (strip_root _ _) kind.mismatch) >>= _) = _
    rw [Prog.eval_bind, eval_check, strip_root_append]
    change Prog.eval _ (check (ok_or (to_logical (rel ++ [n])) kind.mismatch) >>= _) = _
    unfold file_entry
    rw [Prog.eval_bind, eval_check]
    cases to_logical (rel ++ [n]) with
    | none => rfl
    | some p =>
      change Prog.eval _ (check (reject_if _ _) >>= _) = _
      rw [Prog.eval_bind, eval_check]
      by_cases hvalid : LocalVerification.validate_logical_path p = false
      · rw [reject_if_of hvalid]
        change _ = Except.mapError _ (Except.map _ (reject_if _ _ >>= _))
        rw [reject_if_of hvalid]
        rfl
      · rw [reject_if_of_not hvalid]
        change Prog.eval _ (hash_file _ >>= _)
          = Except.mapError _ (Except.map _ (reject_if _ _ >>= _))
        rw [reject_if_of_not hvalid, Prog.eval_bind]
        unfold hash_file
        rw [Prog.eval_bind, eval_read, read_below hroot hget]
        rfl

theorem SourceFile.ext_fields {file other : SourceFile}
    (hpath : file.logical_path = other.logical_path) (hsha : file.sha256 = other.sha256) :
    file = other := by
  cases file
  cases other
  simp_all

theorem file_entry_eq_ok {bytes : List UInt8} {file : SourceFile} :
    file_entry kind rel bytes = .ok file ↔ to_logical rel = some file.logical_path
      ∧ LocalVerification.validate_logical_path file.logical_path = true
      ∧ file.sha256 = verification_sha256_hex bytes := by
  unfold file_entry
  simp only [bind_eq_ok, ok_or_eq_ok, reject_if_eq_ok, pure_eq_ok, exists_const, Bool.not_eq_false]
  constructor
  · rintro ⟨p, hpath, hvalid, rfl⟩
    exact ⟨hpath, hvalid, rfl⟩
  · rintro ⟨hpath, hvalid, hsha⟩
    exact ⟨file.logical_path, hpath, hvalid, by rw [← hsha]⟩

/-- The places strictly below a directory. -/
def Below (rel : List FileName) (place : List FileName) : Prop :=
  ∃ sub, sub ≠ [] ∧ place = rel ++ sub

/-- At a directory, the places below it are all that counts. -/
theorem Found.of_dir {found : List SourceFile} (hget : disk.get (loc ++ rel) = some .dir)
    (hfound : Found disk loc (Below rel) found) :
    Found disk loc (fun place => rel <+: place) found where
  plain := by
    rintro _ node ⟨sub, rfl⟩ hnode
    by_cases hsub : sub = []
    · rw [hsub, List.append_nil, hget] at hnode
      exact Option.some.inj hnode ▸ Node.plain_dir
    · exact hfound.plain _ node ⟨sub, hsub, rfl⟩ hnode
  named := by
    rintro _ bytes ⟨sub, rfl⟩ hnode
    by_cases hsub : sub = []
    · rw [hsub, List.append_nil, hget] at hnode
      nomatch hnode
    · exact hfound.named _ bytes ⟨sub, hsub, rfl⟩ hnode
  mem := by
    intro file
    rw [hfound.mem]
    constructor
    · rintro ⟨_, bytes, ⟨sub, -, rfl⟩, hrest⟩
      exact ⟨_, bytes, ⟨sub, rfl⟩, hrest⟩
    · rintro ⟨_, bytes, ⟨sub, rfl⟩, hnode, hrest⟩
      refine ⟨_, bytes, ⟨sub, ?_, rfl⟩, hnode, hrest⟩
      rintro rfl
      rw [List.append_nil, hget] at hnode
      nomatch hnode
  nodup := hfound.nodup

/-- At a file, nothing else counts. -/
theorem Found.of_file {bytes : List UInt8} {file : SourceFile}
    (hget : disk.get (loc ++ rel) = some (.file bytes))
    (hentry : file_entry kind rel bytes = .ok file) :
    Found disk loc (fun place => rel <+: place) [file] := by
  obtain ⟨hpath, hvalid, hsha⟩ := file_entry_eq_ok.mp hentry
  have honly {place : List FileName} {node : Node FileName (List UInt8)} (hplace : rel <+: place)
      (hnode : disk.get (loc ++ place) = some node) : place = rel := by
    obtain ⟨sub, rfl⟩ := hplace
    by_contra hne
    have hsub : sub ≠ [] := by
      rintro rfl
      exact hne (List.append_nil _)
    rw [← List.append_assoc, disk.get_below_file hget hsub] at hnode
    nomatch hnode
  refine ⟨⟨?_, ?_⟩, ?_, List.nodup_singleton file⟩
  · intro place node hplace hnode
    rw [honly hplace hnode, hget] at hnode
    exact Option.some.inj hnode ▸ Node.plain_file bytes
  · intro place content hplace hnode
    exact ⟨file.logical_path, by rw [honly hplace hnode]; exact hpath, hvalid⟩
  · intro other
    rw [List.mem_singleton]
    constructor
    · rintro rfl
      exact ⟨rel, bytes, List.prefix_rfl, hget, hpath, hsha⟩
    · rintro ⟨place, content, hplace, hnode, hother, hother_sha⟩
      have hsame := honly hplace hnode
      rw [hsame, hget] at hnode
      rw [hsame, hpath] at hother
      have hcontent : bytes = content := by simpa using hnode
      rw [← hcontent, ← hsha] at hother_sha
      exact SourceFile.ext_fields (Option.some.inj hother).symm hother_sha

/-- What one entry adds to the list: the files at it or below. -/
theorem entry_sound (hroot : disk.resolve root = .ok loc)
    (hdir : disk.get (loc ++ rel) = some .dir) (hsome : disk.get (loc ++ (rel ++ [n])) ≠ none)
    (hrec : ∀ discovered result, disk.get (loc ++ (rel ++ [n])) = some .dir →
      (rec (root ++ (rel ++ [n])) discovered).eval (answers disk) = .ok result →
      ∃ found, result = discovered ++ found ∧ Found disk loc (Below (rel ++ [n])) found)
    {result : List SourceFile}
    (h : (visit_entry kind root rec (root ++ (rel ++ [n])) discovered).eval (answers disk)
      = .ok result) :
    ∃ found, result = discovered ++ found
      ∧ Found disk loc (fun place => rel ++ [n] <+: place) found := by
  obtain ⟨node, hget⟩ := Option.ne_none_iff_exists'.mp hsome
  rw [eval_visit_entry hroot hdir hget] at h
  cases node with
  | link target => nomatch h
  | special content => nomatch h
  | dir =>
    obtain ⟨found, hresult, hfound⟩ := hrec discovered result hget h
    exact ⟨found, hresult, hfound.of_dir hget⟩
  | file bytes =>
    dsimp only at h
    cases hentry : file_entry kind (rel ++ [n]) bytes with
    | error e =>
      rw [hentry] at h
      nomatch h
    | ok file =>
      rw [hentry] at h
      exact ⟨[file], (Except.ok.inj h).symm, .of_file hget hentry⟩

/-- An entry whose places are tidy is passed, if the directories below are. The fuel never
runs out in an entry itself. -/
theorem entry_total (hroot : disk.resolve root = .ok loc)
    (hdir : disk.get (loc ++ rel) = some .dir) (hsome : disk.get (loc ++ (rel ++ [n])) ≠ none)
    (hrec : ∀ discovered, disk.get (loc ++ (rel ++ [n])) = some .dir →
      (rec (root ++ (rel ++ [n])) discovered).eval (answers disk) ≠ .error .out_of_fuel
        ∧ (Tidy disk loc (Below (rel ++ [n])) → ∃ result,
          (rec (root ++ (rel ++ [n])) discovered).eval (answers disk) = .ok result)) :
    (visit_entry kind root rec (root ++ (rel ++ [n])) discovered).eval (answers disk)
        ≠ .error .out_of_fuel
      ∧ (Tidy disk loc (fun place => rel ++ [n] <+: place) → ∃ result,
        (visit_entry kind root rec (root ++ (rel ++ [n])) discovered).eval (answers disk)
          = .ok result) := by
  obtain ⟨node, hget⟩ := Option.ne_none_iff_exists'.mp hsome
  have hplain {node : Node FileName (List UInt8)}
      (htidy : Tidy disk loc fun place => rel ++ [n] <+: place)
      (hnode : disk.get (loc ++ (rel ++ [n])) = some node) : node.Plain :=
    htidy.plain _ node List.prefix_rfl hnode
  rw [eval_visit_entry hroot hdir hget]
  cases node with
  | link target =>
    exact ⟨by simp, fun htidy => absurd (hplain htidy hget) (by simp [Node.Plain, Node.kind])⟩
  | special content =>
    exact ⟨by simp, fun htidy => absurd (hplain htidy hget) (by simp [Node.Plain, Node.kind])⟩
  | dir =>
    obtain ⟨hfuel, htotal⟩ := hrec discovered hget
    refine ⟨hfuel, fun htidy => htotal (htidy.congr ?_)⟩
    rintro _ - ⟨sub, -, rfl⟩
    exact ⟨sub, rfl⟩
  | file bytes =>
    dsimp only
    refine ⟨?_, fun htidy => ?_⟩
    · intro hfuel
      cases hentry : file_entry kind (rel ++ [n]) bytes <;> rw [hentry] at hfuel <;> cases hfuel
    · obtain ⟨p, hpath, hvalid⟩ := htidy.named _ bytes List.prefix_rfl hget
      have hentry : file_entry kind (rel ++ [n]) bytes
          = .ok ⟨p, verification_sha256_hex bytes⟩ := file_entry_eq_ok.mpr ⟨hpath, hvalid, rfl⟩
      rw [hentry]
      exact ⟨_, rfl⟩

end Entry

/-! ## The whole walk -/

section Visit

variable {disk : Disk} {root loc : List FileName} {kind : TreeKind}

theorem eval_visit (hroot : disk.resolve root = .ok loc) {rel : List FileName}
    (hdir : disk.get (loc ++ rel) = some .dir) (fuel : ℕ) (discovered : List SourceFile) :
    (visit kind root (fuel + 1) (root ++ rel) discovered).eval (answers disk)
      = (Finset.sort (disk.children (loc ++ rel))).foldlM (fun discovered name =>
        (visit_entry kind root (visit kind root fuel) (root ++ (rel ++ [name])) discovered).eval
          (answers disk)) discovered := by
  rw [visit, Prog.eval_bind, eval_read_dir, list_below hroot hdir]
  change Prog.eval _ (List.foldlM _ _ _) = _
  rw [Prog.eval_foldlM]
  simp only [List.append_assoc]

/-- The loop over the names of a directory finds what is at them or below. -/
theorem loop_sound {rel : List FileName}
    {f : FileName → List SourceFile → Except Stop (List SourceFile)} {names : List FileName} (hnodup : names.Nodup)
    (hentry : ∀ n ∈ names, ∀ discovered result, f n discovered = .ok result →
      ∃ found, result = discovered ++ found
        ∧ Found disk loc (fun place => rel ++ [n] <+: place) found)
    {discovered result : List SourceFile}
    (h : names.foldlM (fun discovered n => f n discovered) discovered = .ok result) :
    ∃ found, result = discovered ++ found
      ∧ Found disk loc (fun place => ∃ n ∈ names, rel ++ [n] <+: place) found := by
  induction names generalizing discovered with
  | nil =>
    refine ⟨[], ?_, .nil ?_⟩
    · rw [List.append_nil]
      exact (Except.ok.inj h).symm
    · rintro place ⟨n, hn, -⟩
      exact absurd hn List.not_mem_nil
  | cons n names ih =>
    rw [List.foldlM_cons, bind_eq_ok] at h
    obtain ⟨middle, hfirst, hrest⟩ := h
    obtain ⟨xs, rfl, hxs⟩ := hentry n List.mem_cons_self _ _ hfirst
    obtain ⟨ys, rfl, hys⟩ := ih (List.nodup_cons.mp hnodup).2
      (fun m hm => hentry m (List.mem_cons_of_mem n hm)) hrest
    have hne {place : List FileName} {m : FileName} (hplace : rel ++ [m] <+: place) :
        place ≠ [] := by
      rintro rfl
      simpa using List.prefix_nil.mp hplace
    have happend := hxs.append hys ?_ (fun place => hne) (fun place ⟨m, _, hplace⟩ => hne hplace)
    · refine ⟨xs ++ ys, (List.append_assoc _ _ _), happend.congr ?_⟩
      intro place _
      simp only [List.mem_cons, exists_eq_or_imp]
    · -- two names lead to different places
      rintro place ⟨sub, rfl⟩ ⟨m, hm, sub', hsub'⟩
      have hsame : m = n := by
        rw [List.append_assoc, List.append_assoc, List.append_cancel_left_eq] at hsub'
        exact (List.cons.inj hsub').1
      exact (List.nodup_cons.mp hnodup).1 (hsame ▸ hm)

/-- **What a walk finds**: exactly the regular files below the directory, all of them in
order, and nothing else is there but directories. -/
theorem visit_sound (hroot : disk.resolve root = .ok loc) {fuel : ℕ} {rel : List FileName}
    (hdir : disk.get (loc ++ rel) = some .dir) {discovered result : List SourceFile}
    (h : (visit kind root fuel (root ++ rel) discovered).eval (answers disk) = .ok result) :
    ∃ found, result = discovered ++ found ∧ Found disk loc (Below rel) found := by
  induction fuel generalizing rel discovered result with
  | zero => nomatch h
  | succ fuel ih =>
    rw [eval_visit hroot hdir] at h
    have hchild {n : FileName} (hn : n ∈ Finset.sort (disk.children (loc ++ rel))) :
        disk.get (loc ++ (rel ++ [n])) ≠ none := by
      rw [Finset.mem_sort, Tree.mem_children, List.append_assoc] at hn
      exact hn
    obtain ⟨found, hresult, hfound⟩ := loop_sound (Finset.sort_nodup _ _)
      (fun n hn discovered result hentry => entry_sound hroot hdir (hchild hn)
        (fun discovered result hsub hvisit => ih hsub hvisit) hentry) h
    refine ⟨found, hresult, hfound.congr ?_⟩
    intro place hplace
    constructor
    · rintro ⟨n, -, sub, rfl⟩
      exact ⟨n :: sub, by simp, by simp⟩
    · rintro ⟨sub, hsub, rfl⟩
      obtain ⟨n, sub, rfl⟩ := List.exists_cons_of_ne_nil hsub
      refine ⟨n, ?_, sub, by simp⟩
      have hsplit : loc ++ (rel ++ n :: sub) = loc ++ rel ++ [n] ++ sub := by simp
      rw [Finset.mem_sort, Tree.mem_children]
      by_cases hnil : sub = []
      · rw [hsplit, hnil, List.append_nil] at hplace
        exact hplace
      · rw [hsplit] at hplace
        exact Tree.ne_none (disk.dir_of_below hnil hplace)

theorem loop_total {f : FileName → List SourceFile → Except Stop (List SourceFile)}
    {names : List FileName}
    {good : Prop} (hentry : ∀ n ∈ names, ∀ discovered, f n discovered ≠ .error .out_of_fuel
      ∧ (good → ∃ result, f n discovered = .ok result)) (discovered : List SourceFile) :
    names.foldlM (fun discovered n => f n discovered) discovered ≠ .error .out_of_fuel
      ∧ (good → ∃ result,
        names.foldlM (fun discovered n => f n discovered) discovered = .ok result) := by
  induction names generalizing discovered with
  | nil => exact ⟨nofun, fun _ => ⟨discovered, rfl⟩⟩
  | cons n names ih =>
    obtain ⟨hfuel, htotal⟩ := hentry n List.mem_cons_self discovered
    have hrest := ih fun m hm => hentry m (List.mem_cons_of_mem n hm)
    rw [List.foldlM_cons]
    cases hfirst : f n discovered with
    | error e =>
      rw [error_bind]
      refine ⟨?_, fun hgood => ?_⟩
      · rw [← hfirst]
        exact hfuel
      · obtain ⟨result, hresult⟩ := htotal hgood
        rw [hfirst] at hresult
        nomatch hresult
    | ok middle =>
      rw [ok_bind]
      exact hrest middle

/-- **A walk with enough fuel ends by itself**, and succeeds on a tidy tree. -/
theorem visit_total (hroot : disk.resolve root = .ok loc) {fuel : ℕ} {rel : List FileName}
    (hdir : disk.get (loc ++ rel) = some .dir)
    (hdepth : ∀ sub, disk.get (loc ++ (rel ++ sub)) ≠ none → sub.length < fuel)
    (discovered : List SourceFile) :
    (visit kind root fuel (root ++ rel) discovered).eval (answers disk) ≠ .error .out_of_fuel
      ∧ (Tidy disk loc (Below rel) → ∃ result,
        (visit kind root fuel (root ++ rel) discovered).eval (answers disk) = .ok result) := by
  induction fuel generalizing rel discovered with
  | zero =>
    have hnone := hdepth [] (by rw [List.append_nil]; exact Tree.ne_none hdir)
    exact absurd hnone (Nat.not_lt_zero _)
  | succ fuel ih =>
    rw [eval_visit hroot hdir]
    apply loop_total
    intro n hn discovered
    have hchild : disk.get (loc ++ (rel ++ [n])) ≠ none := by
      rw [Finset.mem_sort, Tree.mem_children, List.append_assoc] at hn
      exact hn
    have hbelow (sub : List FileName) (hget : disk.get (loc ++ (rel ++ [n] ++ sub)) ≠ none) :
        sub.length < fuel := by
      have hassoc : loc ++ (rel ++ [n] ++ sub) = loc ++ (rel ++ n :: sub) := by simp
      rw [hassoc] at hget
      have hlength := hdepth (n :: sub) hget
      rw [List.length_cons] at hlength
      omega
    obtain ⟨hfuel, htotal⟩ := @entry_total disk root loc rel kind n (visit kind root fuel)
      discovered hroot hdir hchild fun discovered hsub => ih hsub hbelow discovered
    refine ⟨hfuel, fun htidy => htotal (htidy.congr ?_)⟩
    rintro _ - ⟨sub, rfl⟩
    exact ⟨n :: sub, by simp, by simp⟩

end Visit

/-! ## The comparison with a manifest -/

section Manifest

variable {manifest : SourceManifest}

/-- What an accepted manifest is. -/
theorem validate_iff : manifest.validate = true ↔ manifest.files ≠ []
    ∧ (∀ file ∈ manifest.files, LocalVerification.validate_logical_path file.logical_path = true
      ∧ validate_sha256_digest file.sha256 = true)
    ∧ manifest.files.Pairwise fun a b => a.logical_path < b.logical_path := by
  unfold SourceManifest.validate
  simp only [Bool.and_eq_true, Bool.not_eq_true', List.isEmpty_eq_false_iff, List.all_eq_true,
    strictly_ascending_iff, List.pairwise_map, and_assoc]

theorem path_valid (hvalid : manifest.validate = true) {file : SourceFile}
    (hfile : file ∈ manifest.files) :
    LocalVerification.validate_logical_path file.logical_path = true :=
  ((validate_iff.mp hvalid).2.1 file hfile).1

theorem nodup_files (hvalid : manifest.validate = true) : manifest.files.Nodup :=
  (validate_iff.mp hvalid).2.2.imp fun hlt heq => absurd (heq ▸ hlt) (lt_irrefl _)

/-- The names of a file of the manifest tell it from the others. -/
theorem segments_inj (hvalid : manifest.validate = true) {file other : SourceFile}
    (hfile : file ∈ manifest.files) (hother : other ∈ manifest.files)
    (h : segments file.logical_path = segments other.logical_path) : file = other := by
  have hpath : file.logical_path = other.logical_path := by
    have hjoin := to_logical_segments (path_valid hvalid hfile)
    rw [h, to_logical_segments (path_valid hvalid hother)] at hjoin
    exact (Option.some.inj hjoin).symm
  have hpaths : (manifest.files.map SourceFile.logical_path).Nodup := by
    rw [List.Nodup, List.pairwise_map]
    exact (validate_iff.mp hvalid).2.2.imp ne_of_lt
  exact List.inj_on_of_nodup_map hpaths hfile hother hpath

/-- Sorting by path gives the manifest exactly for the manifest's own files. -/
theorem sort_files_eq_iff (hvalid : manifest.validate = true) {found : List SourceFile} :
    sort_files found = manifest.files ↔ found.Perm manifest.files := by
  have hperm : (sort_files found).Perm found := List.perm_insertionSort _ _
  constructor
  · intro h
    rw [h] at hperm
    exact hperm.symm
  · intro h
    have : IsTrans SourceFile fun a b => a.logical_path ≤ b.logical_path :=
      ⟨fun _ _ _ => le_trans⟩
    have : Std.Total fun a b : SourceFile => a.logical_path ≤ b.logical_path :=
      ⟨fun a b => le_total a.logical_path b.logical_path⟩
    have hsorted : (sort_files found).Pairwise fun a b => a.logical_path ≤ b.logical_path :=
      List.pairwise_insertionSort _ found
    have hfiles : manifest.files.Pairwise fun a b => a.logical_path ≤ b.logical_path :=
      (validate_iff.mp hvalid).2.2.imp le_of_lt
    refine (hperm.trans h).eq_of_pairwise ?_ hsorted hfiles
    -- two files of one path are one file of the manifest
    intro a b ha hb hab hba
    have ha' : a ∈ manifest.files := (hperm.trans h).mem_iff.mp ha
    exact segments_inj hvalid ha' hb (congrArg segments (le_antisymm hab hba))

/-- **A walk has found the manifest** exactly when the tree holds it. -/
theorem found_perm_iff {disk : Disk} {loc : List FileName} (hvalid : manifest.validate = true)
    (hdir : disk.get loc = some .dir) {found : List SourceFile}
    (hfound : Found disk loc (Below []) found) :
    found.Perm manifest.files ↔ regular_files disk loc = listed manifest := by
  have hplace {rel : List FileName} {bytes : List UInt8}
      (hget : disk.get (loc ++ rel) = some (.file bytes)) : Below [] rel := by
    refine ⟨rel, ?_, rfl⟩
    rintro rfl
    rw [List.append_nil, hdir] at hget
    nomatch hget
  have hne {rel : List FileName} (h : Below [] rel) : rel ≠ [] := by
    obtain ⟨sub, hsub, rfl⟩ := h
    exact hsub
  rw [List.perm_ext_iff_of_nodup hfound.nodup (nodup_files hvalid)]
  constructor
  · intro hmem
    ext ⟨rel, sha⟩
    constructor
    · rintro ⟨bytes, hget, rfl⟩
      obtain ⟨p, hpath, hp⟩ := hfound.named rel bytes (hplace hget) hget
      have hfile : (⟨p, verification_sha256_hex bytes⟩ : SourceFile) ∈ found :=
        (hfound.mem _).mpr ⟨rel, bytes, hplace hget, hget, hpath, rfl⟩
      refine ⟨_, (hmem _).mp hfile, ?_⟩
      rw [segments_of_to_logical (hne (hplace hget)) hpath]
    · rintro ⟨file, hfile, heq⟩
      obtain ⟨rel', bytes, hrel', hget, hpath, hsha⟩ := (hfound.mem file).mp ((hmem file).mpr hfile)
      obtain ⟨rfl, rfl⟩ := Prod.mk.inj heq
      rw [segments_of_to_logical (hne hrel') hpath]
      exact ⟨bytes, hget, hsha⟩
  · intro hfiles file
    rw [hfound.mem]
    constructor
    · rintro ⟨rel, bytes, hrel, hget, hpath, hsha⟩
      have hin : (rel, verification_sha256_hex bytes) ∈ listed manifest := by
        rw [← hfiles]
        exact ⟨bytes, hget, rfl⟩
      obtain ⟨other, hother, heq⟩ := hin
      obtain ⟨hnames, hdigest⟩ := Prod.mk.inj heq
      have hother_path : to_logical rel = some other.logical_path := by
        rw [hnames]
        exact to_logical_segments (path_valid hvalid hother)
      rw [hpath] at hother_path
      have hsame : file = other :=
        SourceFile.ext_fields (Option.some.inj hother_path) (hsha.trans hdigest)
      exact hsame ▸ hother
    · intro hfile
      have hin : (segments file.logical_path, file.sha256) ∈ regular_files disk loc := by
        rw [hfiles]
        exact ⟨file, hfile, rfl⟩
      obtain ⟨bytes, hget, hsha⟩ := hin
      exact ⟨_, bytes, hplace hget, hget, to_logical_segments (path_valid hvalid hfile), hsha⟩

/-- A tree that holds a manifest is a directory, and tidy. -/
theorem Holds.dir {disk : Disk} {loc : List FileName} (hvalid : manifest.validate = true)
    (h : Holds disk loc manifest) : disk.get loc = some .dir := by
  obtain ⟨file, hfile⟩ := List.exists_mem_of_ne_nil _ (validate_iff.mp hvalid).1
  have hin : (segments file.logical_path, file.sha256) ∈ regular_files disk loc := by
    rw [h.files]
    exact ⟨file, hfile, rfl⟩
  obtain ⟨bytes, hget, -⟩ := hin
  exact disk.dir_of_below (segments_ne_nil (path_valid hvalid hfile))
    (Tree.ne_none hget)

theorem Holds.tidy {disk : Disk} {loc : List FileName} (hvalid : manifest.validate = true)
    (h : Holds disk loc manifest) (P : List FileName → Prop) : Tidy disk loc P where
  plain rel node _ hget := h.plain rel node hget
  named rel bytes _ hget := by
    have hin : (rel, verification_sha256_hex bytes) ∈ listed manifest := by
      rw [← h.files]
      exact ⟨bytes, hget, rfl⟩
    obtain ⟨file, hfile, heq⟩ := hin
    obtain ⟨rfl, -⟩ := Prod.mk.inj heq
    exact ⟨_, to_logical_segments (path_valid hvalid hfile), path_valid hvalid hfile⟩

end Manifest

/-! ## Inspections -/

section Inspect

variable {json : VerifierJson} {manifest : SourceManifest} {kind : TreeKind} {disk : Disk}
  {root loc : List FileName} {fuel : ℕ}

/-- The operations of a walk only look, at the root or below it. -/
theorem visit_looks (rel : List FileName) (discovered : List SourceFile) :
    (visit kind root fuel (root ++ rel) discovered).Only (Op.Looks root) := by
  induction fuel generalizing rel discovered with
  | zero => trivial
  | succ fuel ih =>
    refine ⟨⟨rel, rfl⟩, fun answer => ?_⟩
    refine Prog.Only.bind trivial fun entries => Prog.Only.foldlM (fun discovered n _ => ?_) _
    rw [List.append_assoc]
    refine ⟨⟨rel, n, by rw [List.append_assoc]⟩, fun answer => ?_⟩
    refine Prog.Only.bind trivial fun node => ?_
    cases node with
    | dir => exact ih (rel ++ [n]) discovered
    | link => trivial
    | special => trivial
    | file =>
      refine Prog.Only.bind trivial fun _ => Prog.Only.bind trivial fun _ =>
        Prog.Only.bind trivial fun _ => Prog.Only.bind ?_ fun _ => trivial
      exact Prog.Only.bind ⟨⟨rel ++ [n], rfl⟩, fun _ => trivial⟩ fun _ => trivial

theorem inspect_disk_looks :
    (inspect_disk json fuel root manifest kind).Only (Op.Looks root) := by
  have hvisit := @visit_looks kind root fuel [] []
  rw [List.append_nil] at hvisit
  exact hvisit.bind fun _ => Prog.Only.bind trivial fun _ => trivial

/-- An operation that only looks leaves the disk as it is. -/
theorem perform_of_looks {o : FsOp} (h : o.Looks root) : (o.perform disk).2 = disk := by
  cases o <;> first | rfl | exact h.elim

/-- An inspection is run alone as it is evaluated. -/
theorem run_inspect_disk : (inspect_disk json fuel root manifest kind).run Op.perform disk
    = ((inspect_disk json fuel root manifest kind).eval (answers disk), disk) :=
  Prog.run_eq_eval (inspect_disk_looks.mono fun _ ho => perform_of_looks ho)

theorem fingerprint_ok (hvalid : manifest.validate = true) :
    ∃ fingerprint, manifest.fingerprint json = .ok fingerprint := by
  unfold SourceManifest.fingerprint
  rw [reject_if_of_not (by rw [hvalid]; exact Bool.noConfusion)]
  exact ⟨_, rfl⟩

/-- **A successful inspection**, with any fuel, has seen the manifest. -/
theorem inspect_disk_sound (hvalid : manifest.validate = true) {fingerprint : String}
    (h : (inspect_disk json fuel root manifest kind).eval (answers disk) = .ok fingerprint) :
    manifest.fingerprint json = .ok fingerprint
      ∧ ∃ loc, disk.resolve root = .ok loc ∧ Holds disk loc manifest := by
  unfold inspect_disk at h
  rw [Prog.eval_bind, bind_eq_ok] at h
  obtain ⟨discovered, hvisit, h⟩ := h
  rw [Prog.eval_bind, eval_check, bind_eq_ok] at h
  obtain ⟨_, hsorted, h⟩ := h
  rw [eval_check, mapError_eq_ok] at h
  rw [mapError_eq_ok, reject_if_eq_ok, ne_eq, not_not] at hsorted
  refine ⟨h, ?_⟩
  obtain _ | fuel := fuel
  · nomatch hvisit
  -- the root could be read, so it leads to a directory
  have hlist : ∃ loc, disk.resolve root = .ok loc ∧ disk.get loc = some .dir := by
    rw [visit, Prog.eval_bind, eval_read_dir, bind_eq_ok] at hvisit
    obtain ⟨entries, hentries, -⟩ := hvisit
    rw [mapError_eq_ok, Tree.list_eq_ok] at hentries
    obtain ⟨loc, hloc, hdir, -⟩ := hentries
    exact ⟨loc, hloc, hdir⟩
  obtain ⟨loc, hroot, hdir⟩ := hlist
  have hdir' : disk.get (loc ++ []) = some .dir := by rw [List.append_nil]; exact hdir
  have hvisit' : (visit kind root (fuel + 1) (root ++ []) []).eval (answers disk)
      = .ok discovered := by rw [List.append_nil]; exact hvisit
  obtain ⟨found, hresult, hfound⟩ := visit_sound hroot hdir' hvisit'
  refine ⟨loc, hroot, ?_, ?_⟩
  · rw [← found_perm_iff hvalid hdir hfound, ← sort_files_eq_iff hvalid]
    rw [hresult] at hsorted
    exact hsorted
  · intro rel node hget
    by_cases hrel : rel = []
    · rw [hrel, List.append_nil, hdir] at hget
      exact Option.some.inj hget ▸ Node.plain_dir
    · exact hfound.plain rel node ⟨rel, hrel, rfl⟩ hget

/-- Fuel for the tree at a location. -/
def Deep (disk : Disk) (loc : List FileName) (fuel : ℕ) : Prop :=
  ∀ rel, disk.get (loc ++ rel) ≠ none → rel.length < fuel

/-- The value of an inspection, by what the walk gives. -/
theorem eval_inspect_disk : (inspect_disk json fuel root manifest kind).eval (answers disk)
    = (visit kind root fuel root []).eval (answers disk) >>= fun discovered =>
      ((reject_if (sort_files discovered ≠ manifest.files) kind.mismatch).mapError Stop.error)
        >>= fun _ => (manifest.fingerprint json).mapError Stop.error := by
  unfold inspect_disk
  simp only [Prog.eval_bind, eval_check]

/-- An inspection is `inspect_tree` of what the walk answers. -/
theorem eval_inspect_disk_eq_inspect_tree {answer : TreeAnswer}
    (h : (visit kind root fuel root []).eval (answers disk) = answer.mapError .error) :
    (inspect_disk json fuel root manifest kind).eval (answers disk)
      = (inspect_tree json manifest kind answer).mapError .error := by
  rw [eval_inspect_disk, h]
  unfold inspect_tree
  cases answer with
  | error e => rfl
  | ok discovered =>
    change (reject_if (sort_files discovered ≠ manifest.files) kind.mismatch).mapError Stop.error
      >>= _ = Except.mapError _ (reject_if (sort_files discovered ≠ manifest.files) _ >>= _)
    cases reject_if (sort_files discovered ≠ manifest.files) kind.mismatch <;> rfl

/-- With enough fuel an inspection ends by itself. -/
theorem inspect_disk_ends (hvalid : manifest.validate = true) (hpos : 0 < fuel)
    (hfuel : ∀ loc, disk.resolve root = .ok loc → Deep disk loc fuel) :
    (inspect_disk json fuel root manifest kind).eval (answers disk) ≠ .error .out_of_fuel := by
  have hvisit : (visit kind root fuel root []).eval (answers disk) ≠ .error .out_of_fuel := by
    obtain ⟨fuel, rfl⟩ := Nat.exists_eq_succ_of_ne_zero hpos.ne'
    cases hlist : disk.list root with
    | error e =>
      rw [Nat.succ_eq_add_one, visit, Prog.eval_bind, eval_read_dir, hlist]
      nofun
    | ok names =>
      obtain ⟨loc, hroot, hdir, -⟩ := disk.list_eq_ok.mp hlist
      have hdir' : disk.get (loc ++ []) = some .dir := by rw [List.append_nil]; exact hdir
      have htotal := (@visit_total disk root loc kind hroot (fuel + 1) [] hdir'
        (fun sub hget => hfuel loc hroot sub hget) []).1
      rw [List.append_nil] at htotal
      exact htotal
  rw [eval_inspect_disk]
  cases hresult : (visit kind root fuel root []).eval (answers disk) with
  | error e =>
    rw [error_bind]
    rw [hresult] at hvisit
    intro h
    exact hvisit (by rw [Except.error.inj h])
  | ok discovered =>
    obtain ⟨fingerprint, hfingerprint⟩ := @fingerprint_ok json manifest hvalid
    rw [ok_bind]
    by_cases hsorted : sort_files discovered ≠ manifest.files
    · rw [reject_if_of hsorted]
      nofun
    · rw [reject_if_of_not hsorted, hfingerprint]
      nofun

/-- **An inspection of a tree that holds the manifest succeeds**, with enough fuel. -/
theorem inspect_disk_holds (hvalid : manifest.validate = true) (hroot : disk.resolve root = .ok loc)
    (hfuel : Deep disk loc fuel) (hholds : Holds disk loc manifest) {fingerprint : String}
    (hfingerprint : manifest.fingerprint json = .ok fingerprint) :
    (inspect_disk json fuel root manifest kind).eval (answers disk) = .ok fingerprint := by
  have hdir := hholds.dir hvalid
  have hdir' : disk.get (loc ++ []) = some .dir := by rw [List.append_nil]; exact hdir
  obtain ⟨discovered, hdiscovered⟩ := (@visit_total disk root loc kind hroot fuel [] hdir'
    (fun sub hget => hfuel sub hget) []).2 (hholds.tidy hvalid _)
  obtain ⟨found, hfound_eq, hfound⟩ := visit_sound hroot hdir' hdiscovered
  rw [List.nil_append] at hfound_eq
  have hsorted : sort_files discovered = manifest.files := by
    rw [hfound_eq, sort_files_eq_iff hvalid, found_perm_iff hvalid hdir hfound]
    exact hholds.files
  rw [List.append_nil] at hdiscovered
  rw [eval_inspect_disk, hdiscovered, ok_bind, reject_if_of_not (not_not.mpr hsorted), hfingerprint]
  rfl

/-- **Inspections are exact**: from some fuel on, an inspection of a disk ends by itself, and it
succeeds exactly when the root leads to a directory that holds the manifest. -/
theorem inspect_disk_iff (json : VerifierJson) (hvalid : manifest.validate = true) (disk : Disk)
    (root : List FileName) (kind : TreeKind) : ∃ bound, ∀ fuel ≥ bound,
      (inspect_disk json fuel root manifest kind).eval (answers disk) ≠ .error .out_of_fuel
        ∧ ((∃ fingerprint,
            (inspect_disk json fuel root manifest kind).eval (answers disk) = .ok fingerprint)
          ↔ ∃ loc, disk.resolve root = .ok loc ∧ Holds disk loc manifest) := by
  obtain ⟨depth, hdepth⟩ := disk.exists_depth
  refine ⟨depth + 1, fun fuel hfuel => ?_⟩
  have hdeep (loc : List FileName) : Deep disk loc fuel := by
    intro rel hget
    have hlength := hdepth _ hget
    rw [List.length_append] at hlength
    omega
  refine ⟨inspect_disk_ends hvalid (by omega) fun loc _ => hdeep loc, ?_, ?_⟩
  · rintro ⟨fingerprint, h⟩
    exact (inspect_disk_sound hvalid h).2
  · rintro ⟨loc, hroot, hholds⟩
    obtain ⟨fingerprint, hfingerprint⟩ := @fingerprint_ok json manifest hvalid
    exact ⟨fingerprint, inspect_disk_holds hvalid hroot (hdeep loc) hholds hfingerprint⟩

end Inspect

end Snapshots

end OvcaCore

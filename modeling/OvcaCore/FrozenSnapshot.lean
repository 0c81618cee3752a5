/-
Frozen snapshots on a disk (`ovca-verifier/src/snapshot.rs`).

`OvcaCore.VerifierExecution` takes what the host answers about the trees as given. Here
the functions are programs over the operations on a disk (`OvcaCore.Lib.FileTrees`): the
walk of a tree, the comparison with a manifest, and the copy of a source into an empty
root, each step one operation of the file system. A failed operation that says nothing
about the disk (a broken device, a missing right) is not modelled.

The walk goes as deep as the tree does, so it carries fuel; `out_of_fuel` is no answer of
the source.
-/
import OvcaCore.VerifierExecution
import OvcaCore.Lib.FileTrees
import OvcaCore.Lib.Utf8
import Mathlib.Data.Finset.Sort
import Mathlib.Data.List.Lex

set_option autoImplicit false

namespace OvcaCore

open OvcaCore.Checks OvcaCore.Interleaving OvcaCore.FileTrees OvcaCore.Texts

namespace Snapshots

/-! ## Names and paths -/

/-- A name of a directory entry: bytes without a slash or a zero, and neither of the two
names that every directory has. -/
structure FileName where
  bytes : List UInt8
  ordinary : bytes ≠ [] ∧ bytes ≠ [46] ∧ bytes ≠ [46, 46] ∧ 0 ∉ bytes ∧ 47 ∉ bytes
  deriving DecidableEq

namespace FileName

theorem ext_bytes {n m : FileName} (h : n.bytes = m.bytes) : n = m := by
  cases n
  cases m
  simpa using h

/-- Names are compared byte by byte. -/
instance : LinearOrder FileName :=
  LinearOrder.lift' (fun name : FileName => name.bytes.map UInt8.toNat) fun _ _ h =>
    ext_bytes (List.map_injective_iff.mpr (fun _ _ h => UInt8.toNat_inj.mp h) h)

def of_bytes (bytes : List UInt8) : Option FileName :=
  if h : bytes ≠ [] ∧ bytes ≠ [46] ∧ bytes ≠ [46, 46] ∧ 0 ∉ bytes ∧ 47 ∉ bytes
  then some ⟨bytes, h⟩ else none

/-- `as_os_str().to_str()`. -/
def to_str (name : FileName) : Option Text := Utf8.decode name.bytes

end FileName

abbrev Disk := Tree FileName (List UInt8)

abbrev FsOp := Op FileName (List UInt8)

/-- A path. One that is not absolute is turned away before the disk is asked about it. -/
structure PathBuf where
  absolute : Bool
  parts : List FileName
  deriving DecidableEq

/-- `logical.split('/')`. A validated path has ordinary segments only. -/
def segments (logical : String) : List FileName :=
  (logical.toList.splitOn '/').filterMap fun part => FileName.of_bytes (Utf8.encode part)

def join_logical (root : List FileName) (logical : String) : List FileName :=
  root ++ segments logical

/-- The components of a relative path, as text, with slashes between them. -/
def to_logical (relative : List FileName) : Option String :=
  (relative.mapM FileName.to_str).map fun parts => String.ofList (['/'].intercalate parts)

/-- `strip_prefix`. -/
def strip_root (root path : List FileName) : Option (List FileName) :=
  if root <+: path then some (path.drop root.length) else none

/-! ## Programs on the disk -/

/-- How a program ends without a result. -/
inductive Stop where
  | error (e : SnapshotError)
  | out_of_fuel
  deriving DecidableEq, Repr

abbrev DiskM := Prog FsOp Op.Ans Stop

variable {α : Type}

def fail (e : SnapshotError) : DiskM α := .fail (.error e)

def check (r : Except SnapshotError α) : DiskM α := .done (r.mapError .error)

/-- An operation whose errors are all mapped to one. -/
def attempt (o : FsOp) (e : SnapshotError) : DiskM o.Out :=
  .op o fun answer => check (answer.mapError fun _ => e)

def symlink_metadata (path : List FileName) (e : SnapshotError) : DiskM Kind :=
  attempt (.symlink_metadata path) e

def read_dir (path : List FileName) (e : SnapshotError) : DiskM (Finset FileName) :=
  attempt (.read_dir path) e

def canonicalize (path : List FileName) (e : SnapshotError) : DiskM (List FileName) :=
  attempt (.canonicalize path) e

/-- `File::open` and `read_to_end`. -/
def read (path : List FileName) (e : SnapshotError) : DiskM (List UInt8) :=
  attempt (.read path) e

def create_dir (path : List FileName) (e : SnapshotError) : DiskM Unit :=
  attempt (.create_dir path) e

def create_new (path : List FileName) (e : SnapshotError) : DiskM Unit :=
  attempt (.create_new path []) e

def write (path : List FileName) (bytes : List UInt8) (e : SnapshotError) : DiskM Unit :=
  attempt (.write path bytes) e

/-- `hash_file`. -/
def hash_file (path : List FileName) : DiskM String := do
  let bytes ← read path .Io
  return verification_sha256_hex bytes

/-! ## Roots -/

def validate_root (root : PathBuf) (require_empty : Bool) : DiskM Unit := do
  let invalid := if require_empty then SnapshotError.InvalidSnapshotRoot else .InvalidSourceRoot
  check (reject_if (root.absolute = false) invalid)
  let kind ← symlink_metadata root.parts invalid
  check (reject_if (kind ≠ .dir) invalid)
  if require_empty then
    let entries ← read_dir root.parts .Io
    check (reject_if (entries ≠ ∅) .InvalidSnapshotRoot)

/-! ## The walk -/

/-- One entry of a directory; `visit` goes on in a directory. -/
def visit_entry (kind : TreeKind) (root : List FileName)
    (visit : List FileName → List SourceFile → DiskM (List SourceFile)) (path : List FileName)
    (discovered : List SourceFile) : DiskM (List SourceFile) := do
  match ← symlink_metadata path .Io with
  | .link => fail kind.mismatch
  | .dir => visit path discovered
  | .file =>
    let relative ← check (ok_or (strip_root root path) kind.mismatch)
    let logical_path ← check (ok_or (to_logical relative) kind.mismatch)
    check (reject_if (LocalVerification.validate_logical_path logical_path = false)
      .InvalidManifest)
    let sha256 ← hash_file path
    return discovered ++ [⟨logical_path, sha256⟩]
  | .special => fail kind.mismatch

def visit (kind : TreeKind) (root : List FileName) :
    ℕ → List FileName → List SourceFile → DiskM (List SourceFile)
  | 0, _, _ => .fail .out_of_fuel
  | fuel + 1, directory, discovered => do
    let entries ← read_dir directory .Io
    (Finset.sort entries).foldlM
      (fun discovered name =>
        visit_entry kind root (visit kind root fuel) (directory ++ [name]) discovered) discovered

variable (json : VerifierJson) (fuel : ℕ)

/-- `inspect_tree`. -/
def inspect_disk (root : List FileName) (manifest : SourceManifest) (kind : TreeKind) :
    DiskM String := do
  let discovered ← visit kind root fuel root []
  check (reject_if (sort_files discovered ≠ manifest.files) kind.mismatch)
  check (manifest.fingerprint json)

def preflight_roots (manifest : SourceManifest) (source_root snapshot_root : PathBuf) :
    DiskM String := do
  check (reject_if (manifest.validate = false) .InvalidManifest)
  validate_root source_root false
  validate_root snapshot_root true
  let canonical_source ← canonicalize source_root.parts .Io
  let canonical_snapshot ← canonicalize snapshot_root.parts .Io
  check (reject_if (canonical_snapshot = canonical_source
    ∨ canonical_source <+: canonical_snapshot ∨ canonical_snapshot <+: canonical_source)
    .InvalidSnapshotRoot)
  inspect_disk json fuel source_root.parts manifest .Source

/-! ## The copy -/

/-- The body of the loop of `ensure_destination_parent`. -/
def ensure_directory (current : List FileName) : DiskM Unit :=
  .op (.symlink_metadata current) fun
    | .ok .dir => pure ()
    | .ok _ => fail .SnapshotMismatch
    | .error .NotFound => do
      create_dir current .Io
      let kind ← symlink_metadata current .Io
      check (reject_if (kind ≠ .dir) .SnapshotMismatch)
    | .error _ => fail .Io

/-- The loop of `ensure_destination_parent`: all parts but the last. -/
def ensure_directories (current : List FileName) : List FileName → DiskM Unit
  | part :: next :: parts => do
    ensure_directory (current ++ [part])
    ensure_directories (current ++ [part]) (next :: parts)
  | _ => pure ()

def ensure_destination_parent (root : List FileName) (logical : String) : DiskM Unit :=
  ensure_directories root (segments logical)

/-- From `create_new` on: the new file is filled and hashed. -/
def copy_bytes (file : SourceFile) (destination : List FileName) (bytes : List UInt8) :
    DiskM Unit := do
  create_new destination .Io
  write destination bytes .Io
  let copied ← hash_file destination
  check (reject_if (copied ≠ file.sha256) .SourceChanged)

/-- What follows the opening of the source, which is read at once: a source that changes
while it is copied is one that changes before and after. A directory in its place can be
opened, and only the copy of it fails. -/
def copy_opened (file : SourceFile) (destination : List FileName) :
    Except IoError (List UInt8) → DiskM Unit
  | .ok bytes => copy_bytes file destination bytes
  | .error .IsADirectory => do
    create_new destination .Io
    fail .Io
  | .error _ => fail .SourceChanged

/-- The body of the loop of `materialize`. -/
def copy_file (source_root snapshot_root : List FileName) (file : SourceFile) : DiskM Unit := do
  ensure_destination_parent snapshot_root file.logical_path
  .op (.read (join_logical source_root file.logical_path))
    (copy_opened file (join_logical snapshot_root file.logical_path))

structure FrozenSnapshot where
  source_root : PathBuf
  snapshot_root : PathBuf
  manifest : SourceManifest
  source_pre : String
  deriving DecidableEq

/-- `SourceMismatch => SourceChanged, other => other`. -/
def Stop.changed : Stop → Stop
  | .error e => .error e.changed
  | .out_of_fuel => .out_of_fuel

namespace FrozenSnapshot

def materialize (source_root snapshot_root : PathBuf) (manifest : SourceManifest) :
    DiskM FrozenSnapshot := do
  let source_pre ← preflight_roots json fuel manifest source_root snapshot_root
  manifest.files.forM (copy_file source_root.parts snapshot_root.parts)
  let source_post ← (inspect_disk json fuel source_root.parts manifest .Source).mapError
    Stop.changed
  check (reject_if (source_pre ≠ source_post) .SourceChanged)
  let _ ← inspect_disk json fuel snapshot_root.parts manifest .Snapshot
  return ⟨source_root, snapshot_root, manifest, source_pre⟩

def source_post_fingerprint (frozen : FrozenSnapshot) : DiskM String :=
  (inspect_disk json fuel frozen.source_root.parts frozen.manifest .Source).mapError Stop.changed

def verify_snapshot_integrity (frozen : FrozenSnapshot) : DiskM String :=
  inspect_disk json fuel frozen.snapshot_root.parts frozen.manifest .Snapshot

end FrozenSnapshot

end Snapshots

end OvcaCore

/-
A fingerprint stands for one manifest.

The fingerprint of an accepted manifest is the digest of its canonical JSON, which
`serde_json` writes: an object of a version and the files, each an object of two strings.
No two lists of files are written alike (`source_manifest_json_injective`), so a manifest
is told by its fingerprint as long as SHA-256 has no collision on the bytes at hand.
-/
import OvcaCore.SnapshotWalk
import OvcaCore.Lib.PrefixCodes
import Mathlib.Tactic.FinCases

set_option autoImplicit false

namespace OvcaCore

open OvcaCore.Checks OvcaCore.PrefixCodes

namespace Snapshots

/-! ## JSON strings -/

/-- `0` to `f`. -/
def hex_digit (n : UInt8) : UInt8 := if n < 10 then 48 + n else 87 + n

def hex_value (digit : UInt8) : UInt8 := if digit < 58 then digit - 48 else digit - 87

/-- One byte of a string. Quotes, backslashes and control characters are escaped. -/
def escape_byte (byte : UInt8) : List UInt8 :=
  if byte = 34 ∨ byte = 92 then [92, byte]
  else if byte = 8 then [92, 98]
  else if byte = 9 then [92, 116]
  else if byte = 10 then [92, 110]
  else if byte = 12 then [92, 102]
  else if byte = 13 then [92, 114]
  else if byte < 32 then [92, 117, 48, 48, hex_digit (byte / 16), hex_digit (byte % 16)]
  else [byte]

def string_json (s : String) : List UInt8 := [34] ++ (as_bytes s).flatMap escape_byte ++ [34]

/-- What an escape after a backslash stands for. -/
def unescape : List UInt8 → Option (UInt8 × List UInt8)
  | 117 :: _ :: _ :: high :: low :: rest => some (16 * hex_value high + hex_value low, rest)
  | 98 :: rest => some (8, rest)
  | 116 :: rest => some (9, rest)
  | 110 :: rest => some (10, rest)
  | 102 :: rest => some (12, rest)
  | 114 :: rest => some (13, rest)
  | byte :: rest => some (byte, rest)
  | [] => none

def read_byte : List UInt8 → Option (UInt8 × List UInt8)
  | [] => none
  | byte :: rest => if byte = 92 then unescape rest else some (byte, rest)

/-- A control character is read back. -/
theorem read_control (n : Fin 32) (rest : List UInt8) :
    read_byte (escape_byte (UInt8.ofNat n) ++ rest) = some (UInt8.ofNat n, rest) := by
  fin_cases n <;> rfl

theorem read_escape (byte : UInt8) (rest : List UInt8) :
    read_byte (escape_byte byte ++ rest) = some (byte, rest) := by
  by_cases hcontrol : byte < 32
  · have hbyte : UInt8.ofNat byte.toNat = byte := UInt8.ofNat_toNat
    have hread := read_control ⟨byte.toNat, UInt8.lt_iff_toNat_lt.mp hcontrol⟩ rest
    rw [hbyte] at hread
    exact hread
  · by_cases hescaped : byte = 34 ∨ byte = 92
    · rcases hescaped with rfl | rfl <;> rfl
    · have hplain : escape_byte byte = [byte] := by
        unfold escape_byte
        have hne (n : UInt8) (hn : n < 32) : byte ≠ n := fun heq => hcontrol (heq ▸ hn)
        rw [if_neg hescaped, if_neg (hne 8 (by decide)), if_neg (hne 9 (by decide)),
          if_neg (hne 10 (by decide)), if_neg (hne 12 (by decide)), if_neg (hne 13 (by decide)),
          if_neg hcontrol]
      rw [hplain, List.singleton_append, read_byte, if_neg fun heq => hescaped (.inr heq)]

theorem escape_byte_code : PrefixCode escape_byte := .of_read read_escape

/-- No escape begins with a quote. -/
theorem escape_byte_avoids : Avoids escape_byte [34] := by
  intro byte rest rest' heq
  have hread := read_escape byte rest
  rw [heq, List.singleton_append, read_byte, if_neg (by decide)] at hread
  obtain ⟨rfl, -⟩ := Prod.mk.inj (Option.some.inj hread)
  nomatch heq

theorem as_bytes_injective : Function.Injective as_bytes := by
  intro s t h
  rw [as_bytes_eq_encode, as_bytes_eq_encode] at h
  have hdecode := congrArg Utf8.decode h
  rw [Utf8.decode_encode, Utf8.decode_encode] at hdecode
  exact String.ext (Option.some.inj hdecode)

theorem string_json_code : PrefixCode string_json := by
  have hbytes := (escape_byte_code.flatMap escape_byte_avoids).surround [34] []
  intro s t rest rest' heq
  unfold string_json at heq
  obtain ⟨hst, hrest⟩ := hbytes (as_bytes s) (as_bytes t) rest rest' (by
    simp only [List.append_assoc, List.append_nil] at heq ⊢
    exact heq)
  exact ⟨as_bytes_injective hst, hrest⟩

/-! ## The manifest -/

def source_file_json (file : SourceFile) : List UInt8 :=
  as_bytes "\x7b\"logical_path\":" ++ (string_json file.logical_path
    ++ (as_bytes ",\"sha256\":" ++ string_json file.sha256)) ++ as_bytes "\x7d"

/-- `serde_json::to_vec` of the payload of a manifest. -/
def source_manifest_json (files : List SourceFile) : List UInt8 :=
  as_bytes "\x7b\"version\":\"ovca.source-manifest.v1\",\"files\":["
    ++ ([44].intercalate (files.map source_file_json) ++ as_bytes "]\x7d")

example : source_manifest_json [⟨"a", "0"⟩, ⟨"b\"", "1"⟩]
    = as_bytes ("\x7b\"version\":\"ovca.source-manifest.v1\",\"files\":["
      ++ "\x7b\"logical_path\":\"a\",\"sha256\":\"0\"\x7d,"
      ++ "\x7b\"logical_path\":\"b\\\"\",\"sha256\":\"1\"\x7d]\x7d") := by decide

theorem source_file_json_code : PrefixCode source_file_json := by
  have hsha := string_json_code.surround (as_bytes ",\"sha256\":") []
  simp only [List.append_nil] at hsha
  exact (string_json_code.append hsha fun file other =>
    SourceFile.ext_fields).surround _ _

/-- **No two manifests are written alike.** -/
theorem source_manifest_json_injective : Function.Injective source_manifest_json := by
  have hbrace : (as_bytes "\x7b\"logical_path\":").head? = some 123 := by decide
  have hmark : (as_bytes "]\x7d").head? = some 93 := by decide
  have hfile : Avoids source_file_json (as_bytes "]\x7d") := by
    intro file rest rest' heq
    have hhead := congrArg List.head? heq
    unfold source_file_json at hhead
    simp only [List.head?_append, hbrace, hmark, Option.some_or] at hhead
    exact absurd hhead (by decide)
  have hcomma (rest rest' : List UInt8) : [44] ++ rest ≠ as_bytes "]\x7d" ++ rest' := by
    intro heq
    have hhead := congrArg List.head? heq
    simp only [List.head?_append, hmark, List.head?_cons, Option.some_or] at hhead
    exact absurd hhead (by decide)
  have hcode := (source_file_json_code.intercalate hfile hcomma).surround
    (as_bytes "\x7b\"version\":\"ovca.source-manifest.v1\",\"files\":[") []
  simp only [List.append_nil] at hcode
  exact hcode.injective

/-! ## Fingerprints -/

/-- `SourceManifest::canonical_json_bytes` of an accepted manifest. -/
def canonical_json_bytes (json : VerifierJson) (manifest : SourceManifest) : List UInt8 :=
  canonical_json_lf (json.source_manifest manifest.files)

/-- The bytes of the regular files below a location. -/
def contents (disk : Disk) (loc : List FileName) : Set (List UInt8) :=
  {bytes | ∃ rel, disk.get (loc ++ rel) = some (.file bytes)}

section Fingerprints

variable {json : VerifierJson} {manifest other : SourceManifest} {disk disk' : Disk}
  {loc loc' : List FileName}

theorem fingerprint_eq (hvalid : manifest.validate = true) : manifest.fingerprint json
    = .ok (verification_sha256_hex (canonical_json_bytes json manifest)) := by
  unfold SourceManifest.fingerprint
  rw [reject_if_of_not (by rw [hvalid]; exact Bool.noConfusion)]
  rfl

theorem canonical_json_bytes_injective (hjson : Function.Injective json.source_manifest) :
    Function.Injective (canonical_json_bytes json) := by
  intro manifest other h
  have hfiles := hjson (List.append_cancel_right h)
  cases manifest
  cases other
  exact congrArg SourceManifest.mk hfiles

/-- **A fingerprint stands for one manifest.** -/
theorem fingerprint_eq_iff (hjson : Function.Injective json.source_manifest)
    (hvalid : manifest.validate = true) (hother : other.validate = true)
    (hsha : Set.InjOn verification_sha256_hex
      {canonical_json_bytes json manifest, canonical_json_bytes json other}) :
    manifest.fingerprint json = other.fingerprint json ↔ manifest = other := by
  constructor
  · intro h
    rw [fingerprint_eq hvalid, fingerprint_eq hother] at h
    have hbytes := hsha (Set.mem_insert _ _) (Set.mem_insert_of_mem _ (Set.mem_singleton _))
      (Except.ok.inj h)
    exact canonical_json_bytes_injective hjson hbytes
  · intro h
    rw [h]

/-- What one of two trees with the manifest has in a file, the other has there. -/
theorem Holds.get_file (h : Holds disk loc manifest) (h' : Holds disk' loc' manifest)
    (hsha : Set.InjOn verification_sha256_hex (contents disk loc ∪ contents disk' loc'))
    {rel : List FileName} {bytes : List UInt8} (hget : disk.get (loc ++ rel) = some (.file bytes)) :
    disk'.get (loc' ++ rel) = some (.file bytes) := by
  have hin : (rel, verification_sha256_hex bytes) ∈ regular_files disk' loc' := by
    rw [h'.files, ← h.files]
    exact ⟨bytes, hget, rfl⟩
  obtain ⟨bytes', hget', hdigest⟩ := hin
  have hsame := hsha (.inl ⟨rel, hget⟩) (.inr ⟨rel, hget'⟩) hdigest
  rw [hsame]
  exact hget'

/-- **Two trees with one manifest have the same files**, byte by byte. -/
theorem Holds.get_file_iff (h : Holds disk loc manifest) (h' : Holds disk' loc' manifest)
    (hsha : Set.InjOn verification_sha256_hex (contents disk loc ∪ contents disk' loc'))
    (rel : List FileName) (bytes : List UInt8) :
    disk.get (loc ++ rel) = some (.file bytes) ↔ disk'.get (loc' ++ rel) = some (.file bytes) :=
  ⟨h.get_file h' hsha, h'.get_file h (by rw [Set.union_comm]; exact hsha)⟩

end Fingerprints

end Snapshots

end OvcaCore

/-
The digest of the verification contracts: `verification_sha256_hex` of
`ovca-types/src/goal_runtime/local_verification.rs`.

The function is the one of the source, block by block; what its callers rely on is
that every value of it is a valid digest (`verification_sha256_hex_valid`). The bytes
of a string are computed here as far as the identifiers built from a digest need it.
-/
import OvcaCore.ControlPlane

set_option autoImplicit false

namespace OvcaCore

/-! ## Bytes of ASCII text -/

def is_ascii_char (c : Char) : Bool := decide (c.toNat < 128)

theorem utf8EncodeChar_of_ascii {c : Char} (hc : is_ascii_char c = true) :
    String.utf8EncodeChar c = [c.val.toUInt8] := by
  have hlt : c.toNat < 128 := by simpa [is_ascii_char] using hc
  have hsize : c.utf8Size = 1 := by
    unfold Char.utf8Size
    rw [if_pos]
    exact UInt32.le_iff_toNat_le.mpr (by simpa using Nat.le_of_lt_succ hlt)
  exact String.utf8EncodeChar_eq_singleton hsize

theorem as_bytes_ofList {chars : List Char} (h : chars.all is_ascii_char = true) :
    as_bytes (String.ofList chars) = chars.map fun c => c.val.toUInt8 := by
  unfold as_bytes
  rw [String.toByteArray_ofList, List.utf8Encode]
  induction chars with
  | nil => rfl
  | cons c chars ih =>
    rw [List.all_cons, Bool.and_eq_true] at h
    rw [List.flatMap_cons, utf8EncodeChar_of_ascii h.1, List.map_cons, ← ih h.2]
    simp

theorem as_bytes_append (s t : String) : as_bytes (s ++ t) = as_bytes s ++ as_bytes t := by
  unfold as_bytes
  rw [String.toByteArray_append, ByteArray.data_append, Array.toList_append]

/-! ## SHA-256 -/

namespace Sha256

/-- The eight words of a hash. -/
structure State where
  a : UInt32
  b : UInt32
  c : UInt32
  d : UInt32
  e : UInt32
  f : UInt32
  g : UInt32
  h : UInt32
  deriving DecidableEq, Repr

namespace State

def words (state : State) : List UInt32 :=
  [state.a, state.b, state.c, state.d, state.e, state.f, state.g, state.h]

/-- `wrapping_add`, word by word. -/
def wrapping_add (state other : State) : State where
  a := state.a + other.a
  b := state.b + other.b
  c := state.c + other.c
  d := state.d + other.d
  e := state.e + other.e
  f := state.f + other.f
  g := state.g + other.g
  h := state.h + other.h

end State

def INITIAL : State where
  a := 0x6a09e667
  b := 0xbb67ae85
  c := 0x3c6ef372
  d := 0xa54ff53a
  e := 0x510e527f
  f := 0x9b05688c
  g := 0x1f83d9ab
  h := 0x5be0cd19

def K : List UInt32 :=
  [0x428a2f98, 0x71374491, 0xb5c0fbcf, 0xe9b5dba5, 0x3956c25b, 0x59f111f1, 0x923f82a4,
    0xab1c5ed5, 0xd807aa98, 0x12835b01, 0x243185be, 0x550c7dc3, 0x72be5d74, 0x80deb1fe,
    0x9bdc06a7, 0xc19bf174, 0xe49b69c1, 0xefbe4786, 0x0fc19dc6, 0x240ca1cc, 0x2de92c6f,
    0x4a7484aa, 0x5cb0a9dc, 0x76f988da, 0x983e5152, 0xa831c66d, 0xb00327c8, 0xbf597fc7,
    0xc6e00bf3, 0xd5a79147, 0x06ca6351, 0x14292967, 0x27b70a85, 0x2e1b2138, 0x4d2c6dfc,
    0x53380d13, 0x650a7354, 0x766a0abb, 0x81c2c92e, 0x92722c85, 0xa2bfe8a1, 0xa81a664b,
    0xc24b8b70, 0xc76c51a3, 0xd192e819, 0xd6990624, 0xf40e3585, 0x106aa070, 0x19a4c116,
    0x1e376c08, 0x2748774c, 0x34b0bcb5, 0x391c0cb3, 0x4ed8aa4a, 0x5b9cca4f, 0x682e6ff3,
    0x748f82ee, 0x78a5636f, 0x84c87814, 0x8cc70208, 0x90befffa, 0xa4506ceb, 0xbef9a3f7,
    0xc67178f2]

def rotate_right (x n : UInt32) : UInt32 := (x >>> n) ||| (x <<< (32 - n))

/-- `u32::from_be_bytes` of four bytes. -/
def from_be_bytes (bytes : List UInt8) : UInt32 :=
  bytes.foldl (fun word byte => (word <<< 8) ||| byte.toUInt32) 0

/-- `bit_len.to_be_bytes()`. -/
def to_be_bytes (value : UInt64) : List UInt8 :=
  ([56, 48, 40, 32, 24, 16, 8, 0] : List UInt64).map fun shift => (value >>> shift).toUInt8

/-- The number of zeros that the padding loop pushes behind the byte `0x80`. -/
def padding_zeros (length : ℕ) : ℕ := (119 - length % 64) % 64

def padded (input : List UInt8) : List UInt8 :=
  input ++ 0x80 :: List.replicate (padding_zeros input.length) 0
    ++ to_be_bytes (UInt64.ofNat input.length * 8)

/-- One more word of the message schedule. -/
def extend (schedule : List UInt32) : List UInt32 :=
  let word (back : ℕ) : UInt32 := schedule.getD (schedule.length - back) 0
  let s0 := rotate_right (word 15) 7 ^^^ rotate_right (word 15) 18 ^^^ (word 15 >>> 3)
  let s1 := rotate_right (word 2) 17 ^^^ rotate_right (word 2) 19 ^^^ (word 2 >>> 10)
  schedule ++ [word 16 + s0 + word 7 + s1]

def schedule (block : List UInt8) : List UInt32 :=
  (List.range 48).foldl (fun words _ => extend words)
    ((List.range 16).map fun i => from_be_bytes ((block.drop (4 * i)).take 4))

def round (state : State) (k word : UInt32) : State :=
  let s1 := rotate_right state.e 6 ^^^ rotate_right state.e 11 ^^^ rotate_right state.e 25
  let choice := (state.e &&& state.f) ^^^ (~~~state.e &&& state.g)
  let temp1 := state.h + s1 + choice + k + word
  let s0 := rotate_right state.a 2 ^^^ rotate_right state.a 13 ^^^ rotate_right state.a 22
  let majority := (state.a &&& state.b) ^^^ (state.a &&& state.c) ^^^ (state.b &&& state.c)
  { a := temp1 + (s0 + majority)
    b := state.a
    c := state.b
    d := state.c
    e := state.d + temp1
    f := state.e
    g := state.f
    h := state.g }

def compress (hash : State) (block : List UInt8) : State :=
  hash.wrapping_add ((K.zip (schedule block)).foldl (fun state p => round state p.1 p.2) hash)

def hash (input : List UInt8) : State :=
  let bytes := padded input
  (List.range (bytes.length / 64)).foldl
    (fun state i => compress state ((bytes.drop (64 * i)).take 64)) INITIAL

/-- `format!("\x7bword:08x\x7d")`. -/
def format_08x (word : UInt32) : List Char :=
  ([28, 24, 20, 16, 12, 8, 4, 0] : List UInt32).map fun shift =>
    Nat.digitChar ((word >>> shift) &&& 15).toNat

end Sha256

/-- `verification_sha256_hex`. -/
def verification_sha256_hex (input : List UInt8) : String :=
  String.ofList ((Sha256.hash input).words.flatMap Sha256.format_08x)

example : verification_sha256_hex [97, 98, 99]
    = "ba7816bf8f01cfea414140de5dae2223b00361a396177a9cb410ff61f20015ad" := by decide +kernel

/-! ## Every value is a digest -/

/-- A lower-case hexadecimal digit. -/
def is_hex_digit (c : Char) : Bool :=
  is_ascii_char c && (is_ascii_digit c.val.toUInt8 || (97 ≤ c.val.toUInt8 && c.val.toUInt8 ≤ 102))

theorem is_hex_digit_digitChar {n : ℕ} (hn : n < 16) : is_hex_digit (Nat.digitChar n) = true := by
  revert n
  decide

theorem is_hex_digit_of_mem_format {word : UInt32} {c : Char} (hc : c ∈ Sha256.format_08x word) :
    is_hex_digit c = true := by
  unfold Sha256.format_08x at hc
  rw [List.mem_map] at hc
  obtain ⟨shift, -, rfl⟩ := hc
  apply is_hex_digit_digitChar
  rw [UInt32.toNat_and]
  exact Nat.lt_of_le_of_lt Nat.and_le_right (by decide)

theorem length_format (word : UInt32) : (Sha256.format_08x word).length = 8 := by
  unfold Sha256.format_08x
  rw [List.length_map]
  rfl

theorem length_flatMap_format (words : List UInt32) :
    (words.flatMap Sha256.format_08x).length = 8 * words.length := by
  induction words with
  | nil => rfl
  | cons word words ih =>
    rw [List.flatMap_cons, List.length_append, length_format, ih, List.length_cons]
    omega

/-- The characters of some words, as the bytes that a validator reads. -/
theorem as_bytes_format (words : List UInt32) :
    as_bytes (String.ofList (words.flatMap Sha256.format_08x))
      = (words.flatMap Sha256.format_08x).map fun c => c.val.toUInt8 := by
  apply as_bytes_ofList
  rw [List.all_eq_true]
  intro c hc
  obtain ⟨word, -, hmem⟩ := List.mem_flatMap.mp hc
  have hhex := is_hex_digit_of_mem_format hmem
  unfold is_hex_digit at hhex
  exact (Bool.and_eq_true_iff.mp hhex).1

/-- Eight words are a digest. -/
theorem format_valid {words : List UInt32} (hwords : words.length = 8) :
    validate_sha256_digest (String.ofList (words.flatMap Sha256.format_08x)) = true := by
  unfold validate_sha256_digest
  rw [as_bytes_format, Bool.and_eq_true, decide_eq_true_eq]
  refine ⟨?_, ?_⟩
  · rw [List.length_map, length_flatMap_format, hwords]
  · rw [List.all_eq_true]
    intro byte hbyte
    obtain ⟨c, hc, rfl⟩ := List.mem_map.mp hbyte
    obtain ⟨word, -, hmem⟩ := List.mem_flatMap.mp hc
    have hhex := is_hex_digit_of_mem_format hmem
    unfold is_hex_digit at hhex
    exact (Bool.and_eq_true_iff.mp hhex).2

/-- **Every value of the hash is a digest**: 64 lower-case hexadecimal digits. -/
theorem verification_sha256_hex_valid (input : List UInt8) :
    validate_sha256_digest (verification_sha256_hex input) = true :=
  format_valid rfl

/-- The digits of a digest are letters and digits of an identifier. -/
theorem is_ascii_alphanumeric_of_digest {digest : String}
    (h : validate_sha256_digest digest = true) {byte : UInt8} (hbyte : byte ∈ as_bytes digest) :
    is_ascii_alphanumeric byte = true := by
  unfold validate_sha256_digest at h
  rw [Bool.and_eq_true, List.all_eq_true] at h
  have hhex := h.2 byte hbyte
  unfold is_ascii_alphanumeric
  simp only [Bool.or_eq_true, Bool.and_eq_true, decide_eq_true_eq] at hhex ⊢
  rcases hhex with hdigit | ⟨hlow, hhigh⟩
  · left; left
    exact hdigit
  · -- the letters of a digest end at `f`
    right
    exact ⟨hlow, UInt8.le_trans hhigh (show (102 : UInt8) ≤ 122 by decide)⟩

theorem length_of_digest {digest : String} (h : validate_sha256_digest digest = true) :
    (as_bytes digest).length = 64 := by
  unfold validate_sha256_digest at h
  rw [Bool.and_eq_true, decide_eq_true_eq] at h
  exact h.1

end OvcaCore

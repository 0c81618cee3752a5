/-
The dependency-free SHA-256 of the contract layer, loop by loop.

`ovca-types` writes the function twice: `verification_sha256_hex` of
`goal_runtime/local_verification.rs` and the private `sha256_hex` of
`goal_runtime/local_verification/targeted_rerun.rs`. The two bodies differ in nothing
but the place of their tables, so the loops are one definition over the tables
(`Sha256.loops`) and each function is that definition at its own. The storage layer
hashes with the `sha2` crate instead, and writes the bytes of the digest.

The first function is the `verification_sha256_hex` that the rest of the development
hashes with (`verification_sha256_hex_eq_loops`).
-/
import OvcaCore.VerificationDigest
import OvcaCore.Lib.Sha2

set_option autoImplicit false

namespace OvcaCore

/-! ## The loops -/

namespace Sha256

/-- `while padded.len() % 64 != 56 \x7b padded.push(0); \x7d`. The distance of the length
to the next 56 modulo 64 falls at every step. -/
def padding_loop (padded : List UInt8) : List UInt8 :=
  if padded.length % 64 ≠ 56 then padding_loop (padded ++ [0]) else padded
termination_by (120 - padded.length % 64) % 64
decreasing_by
  simp only [List.length_append, List.length_cons, List.length_nil]
  omega

/-- The padded input, `bit_len` included. -/
def pad_loop (input : List UInt8) : List UInt8 :=
  padding_loop (input ++ [0x80]) ++ to_be_bytes (UInt64.ofNat input.length * 8)

/-- `chunks_exact`: the whole chunks, without the remainder. -/
def chunks_exact (size : ℕ) (bytes : List UInt8) : List (List UInt8) :=
  (List.range (bytes.length / size)).map fun i => (bytes.drop (size * i)).take size

/-- The body of `for index in 16..64`. -/
def schedule_step (schedule : List UInt32) (index : ℕ) : List UInt32 :=
  let word (i : ℕ) : UInt32 := schedule.getD i 0
  let s0 := rotate_right (word (index - 15)) 7 ^^^ rotate_right (word (index - 15)) 18
    ^^^ (word (index - 15) >>> 3)
  let s1 := rotate_right (word (index - 2)) 17 ^^^ rotate_right (word (index - 2)) 19
    ^^^ (word (index - 2) >>> 10)
  schedule.set index (word (index - 16) + s0 + word (index - 7) + s1)

/-- The schedule of a block: an array of 64 words, written twice. -/
def schedule_loops (block : List UInt8) : List UInt32 :=
  let schedule := (chunks_exact 4 block).zipIdx.foldl
    (fun schedule p => schedule.set p.2 (from_be_bytes p.1)) (List.replicate 64 0)
  (List.range' 16 48).foldl schedule_step schedule

/-- `for index in 0..64`. -/
def round_loop (K schedule : List UInt32) (hash : State) : State :=
  (List.range 64).foldl
    (fun state index => round state (K.getD index 0) (schedule.getD index 0)) hash

/-- The whole function, over the tables `INITIAL` and `K` of its body. -/
def loops (INITIAL : State) (K : List UInt32) (input : List UInt8) : String :=
  let hash := (chunks_exact 64 (pad_loop input)).foldl
    (fun hash block => hash.wrapping_add (round_loop K (schedule_loops block) hash)) INITIAL
  String.ofList (hash.words.flatMap format_08x)

/-- `format!("\x7bbyte:02x\x7d")`. -/
def format_02x (byte : UInt8) : List Char :=
  ([4, 0] : List UInt8).map fun shift => Nat.digitChar ((byte >>> shift) &&& 15).toNat

end Sha256

/-! ## The second function and the storage layer -/

namespace TargetedRerun

def INITIAL : Sha256.State where
  a := 0x6a09e667
  b := 0xbb67ae85
  c := 0x3c6ef372
  d := 0xa54ff53a
  e := 0x510e527f
  f := 0x9b05688c
  g := 0x1f83d9ab
  h := 0x5be0cd19

def K : List UInt32 :=
  [0x428a2f98, 0x71374491, 0xb5c0fbcf, 0xe9b5dba5, 0x3956c25b, 0x59f111f1, 0x923f82a4,
    0xab1c5ed5, 0xd807aa98, 0x12835b01, 0x243185be, 0x550c7dc3, 0x72be5d74, 0x80deb1fe,
    0x9bdc06a7, 0xc19bf174, 0xe49b69c1, 0xefbe4786, 0x0fc19dc6, 0x240ca1cc, 0x2de92c6f,
    0x4a7484aa, 0x5cb0a9dc, 0x76f988da, 0x983e5152, 0xa831c66d, 0xb00327c8, 0xbf597fc7,
    0xc6e00bf3, 0xd5a79147, 0x06ca6351, 0x14292967, 0x27b70a85, 0x2e1b2138, 0x4d2c6dfc,
    0x53380d13, 0x650a7354, 0x766a0abb, 0x81c2c92e, 0x92722c85, 0xa2bfe8a1, 0xa81a664b,
    0xc24b8b70, 0xc76c51a3, 0xd192e819, 0xd6990624, 0xf40e3585, 0x106aa070, 0x19a4c116,
    0x1e376c08, 0x2748774c, 0x34b0bcb5, 0x391c0cb3, 0x4ed8aa4a, 0x5b9cca4f, 0x682e6ff3,
    0x748f82ee, 0x78a5636f, 0x84c87814, 0x8cc70208, 0x90befffa, 0xa4506ceb, 0xbef9a3f7,
    0xc67178f2]

/-- `sha256_hex` of `targeted_rerun.rs`. -/
def sha256_hex (input : List UInt8) : String := Sha256.loops INITIAL K input

end TargetedRerun

namespace LocalVerificationStore

/-- `sha256_hex` of `ovca-storage/src/local_verification.rs`, over the `Sha256::digest` of
the `sha2` crate. -/
def sha256_hex (digest : List UInt8 → List UInt8) (bytes : List UInt8) : String :=
  String.ofList ((digest bytes).flatMap Sha256.format_02x)

end LocalVerificationStore

/-! ## The padding loop -/

namespace Sha256

theorem padding_loop_of_done {padded : List UInt8} (h : padded.length % 64 = 56) :
    padding_loop padded = padded := by
  rw [padding_loop, if_neg (not_not.mpr h)]

theorem padding_loop_of_short {padded : List UInt8} (h : padded.length % 64 ≠ 56) :
    padding_loop padded = padding_loop (padded ++ [0]) := by
  rw [padding_loop, if_pos h]

/-- The loop runs exactly until the length is 56 modulo 64. -/
theorem padding_loop_eq {padded : List UInt8} {n : ℕ} (hend : (padded.length + n) % 64 = 56)
    (hrun : ∀ m < n, (padded.length + m) % 64 ≠ 56) :
    padding_loop padded = padded ++ List.replicate n 0 := by
  induction n generalizing padded with
  | zero =>
    rw [padding_loop_of_done (by simpa using hend)]
    simp
  | succ n ih =>
    have hfirst : padded.length % 64 ≠ 56 := by simpa using hrun 0 (by omega)
    have hlength : (padded ++ [(0 : UInt8)]).length = padded.length + 1 := by simp
    rw [padding_loop_of_short hfirst, ih]
    · rw [List.append_assoc, List.singleton_append, ← List.replicate_succ]
    · rw [hlength]
      omega
    · intro m hm
      rw [hlength]
      have hnext := hrun (m + 1) (by omega)
      omega

/-- **The padding loop ends**: after fewer than 64 pushes, each of them behind a length that
is not yet 56 modulo 64. -/
theorem padding_loop_ends (padded : List UInt8) :
    ∃ n < 64, padding_loop padded = padded ++ List.replicate n 0
      ∧ (padded.length + n) % 64 = 56 ∧ ∀ m < n, (padded.length + m) % 64 ≠ 56 := by
  have hend : (padded.length + (120 - padded.length % 64) % 64) % 64 = 56 := by omega
  have hrun : ∀ m < (120 - padded.length % 64) % 64, (padded.length + m) % 64 ≠ 56 := by
    intro m hm
    omega
  exact ⟨_, by omega, padding_loop_eq hend hrun, hend, hrun⟩

/-- The loop pushes the zeros that `padded` counts. -/
theorem pad_loop_eq (input : List UInt8) : pad_loop input = padded input := by
  have hlength : (input ++ [(0x80 : UInt8)]).length = input.length + 1 := by simp
  unfold pad_loop padded
  rw [@padding_loop_eq _ (padding_zeros input.length)]
  · rw [List.append_assoc, List.append_assoc, List.singleton_append, List.append_assoc,
      List.cons_append]
  · rw [hlength]
    unfold padding_zeros
    omega
  · intro m hm
    rw [hlength]
    unfold padding_zeros at hm
    omega

theorem length_to_be_bytes (value : UInt64) : (to_be_bytes value).length = 8 := rfl

theorem length_padded (input : List UInt8) : (padded input).length % 64 = 0 := by
  unfold padded
  rw [List.length_append, List.length_append, List.length_cons, List.length_replicate,
    length_to_be_bytes]
  unfold padding_zeros
  omega

/-! ## The other loops -/

theorem length_extend (words : List UInt32) : (extend words).length = words.length + 1 := by
  unfold extend
  simp

/-- A step of the array behind the words known so far is one more word. -/
theorem schedule_step_append {words rest : List UInt32} {z : UInt32} (h : 16 ≤ words.length) :
    schedule_step (words ++ z :: rest) words.length = extend words ++ rest := by
  have hword (back : ℕ) (hpos : 0 < back) (hback : back ≤ 16) :
      (words ++ z :: rest).getD (words.length - back) 0 = words.getD (words.length - back) 0 :=
    List.getD_append _ _ _ _ (by omega)
  unfold schedule_step extend
  simp only [hword 16 (by omega) (by omega), hword 15 (by omega) (by omega),
    hword 7 (by omega) (by omega), hword 2 (by omega) (by omega)]
  rw [List.set_append_right _ _ (le_refl _), Nat.sub_self, List.set_cons_zero, List.append_assoc,
    List.singleton_append]

/-- The second loop, from any number of words on. -/
theorem foldl_schedule_step {words rest : List UInt32} (h : 16 ≤ words.length) :
    (List.range' words.length rest.length).foldl schedule_step (words ++ rest)
      = (List.range rest.length).foldl (fun words _ => extend words) words := by
  induction rest generalizing words with
  | nil => simp
  | cons z rest ih =>
    have hlength := length_extend words
    have hnext := @ih (extend words) (by omega)
    rw [hlength] at hnext
    rw [List.length_cons, List.range'_succ, List.foldl_cons, schedule_step_append h, hnext,
      List.range_succ_eq_map, List.foldl_cons, List.foldl_map]

/-- Writing the entries of a list over the front of an array. -/
theorem foldl_set_zipIdx {α β : Type} (f : α → β) (xs : List α) (front back : List β)
    (h : xs.length ≤ back.length) :
    (xs.zipIdx front.length).foldl (fun array p => array.set p.2 (f p.1)) (front ++ back)
      = front ++ xs.map f ++ back.drop xs.length := by
  induction xs generalizing front back with
  | nil => simp
  | cons x xs ih =>
    obtain _ | ⟨b, back⟩ := back
    · simp at h
    · have hset : (front ++ b :: back).set front.length (f x) = (front ++ [f x]) ++ back := by
        rw [List.set_append_right _ _ (le_refl _), Nat.sub_self, List.set_cons_zero,
          List.append_assoc, List.singleton_append]
      have hrest := ih (front ++ [f x]) back (by simpa using h)
      rw [List.length_append, List.length_singleton] at hrest
      rw [List.zipIdx_cons, List.foldl_cons, hset, hrest, List.map_cons, List.length_cons,
        List.drop_succ_cons]
      simp

theorem length_chunks_exact (size : ℕ) (bytes : List UInt8) :
    (chunks_exact size bytes).length = bytes.length / size := by
  unfold chunks_exact
  rw [List.length_map, List.length_range]

/-- The words of a block of 64 bytes. -/
theorem schedule_loops_eq {block : List UInt8} (h : block.length = 64) :
    schedule_loops block = schedule block := by
  have hchunks : (chunks_exact 4 block).length = 16 := by rw [length_chunks_exact, h]
  have hfirst := foldl_set_zipIdx from_be_bytes (chunks_exact 4 block) []
    (List.replicate 64 0) (by rw [hchunks]; simp)
  rw [hchunks, List.drop_replicate, List.length_nil, List.nil_append, List.nil_append] at hfirst
  have hwords : (chunks_exact 4 block).map from_be_bytes
      = (List.range 16).map fun i => from_be_bytes ((block.drop (4 * i)).take 4) := by
    unfold chunks_exact
    rw [h, List.map_map]
    rfl
  have hlength : ((chunks_exact 4 block).map from_be_bytes).length = 16 := by
    rw [List.length_map, hchunks]
  have hsecond := @foldl_schedule_step _ (List.replicate 48 0) (le_of_eq hlength.symm)
  rw [hlength, List.length_replicate] at hsecond
  unfold schedule_loops schedule
  rw [hfirst, hsecond, hwords]

theorem foldl_range_getD {α β γ : Type} (f : γ → α → β → γ) (a : α) (b : β) {xs : List α}
    {ys : List β} (h : xs.length = ys.length) (start : γ) :
    (List.range xs.length).foldl (fun c i => f c (xs.getD i a) (ys.getD i b)) start
      = (xs.zip ys).foldl (fun c p => f c p.1 p.2) start := by
  induction xs generalizing ys start with
  | nil => simp
  | cons x xs ih =>
    obtain _ | ⟨y, ys⟩ := ys
    · simp at h
    · rw [List.length_cons, List.range_succ_eq_map, List.foldl_cons, List.foldl_map,
        List.zip_cons_cons, List.foldl_cons]
      exact ih (by simpa using h) _

theorem length_foldl_extend (n : ℕ) (words : List UInt32) :
    ((List.range n).foldl (fun words _ => extend words) words).length = words.length + n := by
  induction n with
  | zero => simp
  | succ n ih =>
    rw [List.range_succ, List.foldl_append, List.foldl_cons, List.foldl_nil, length_extend, ih]
    omega

theorem length_schedule (block : List UInt8) : (schedule block).length = 64 := by
  unfold schedule
  rw [length_foldl_extend, List.length_map, List.length_range]

theorem round_loop_eq (block : List UInt8) (hash : State) :
    round_loop K (schedule block) hash
      = (K.zip (schedule block)).foldl (fun state p => round state p.1 p.2) hash := by
  have hlength : K.length = (schedule block).length := by rw [length_schedule]; rfl
  exact foldl_range_getD round 0 0 hlength hash

theorem length_of_mem_chunks_exact {size : ℕ} {bytes block : List UInt8}
    (h : block ∈ chunks_exact size bytes) : block.length = size := by
  unfold chunks_exact at h
  obtain ⟨i, hi, rfl⟩ := List.mem_map.mp h
  have hlt := List.mem_range.mp hi
  have hfits : size * (i + 1) ≤ bytes.length :=
    le_trans (Nat.mul_le_mul_left size hlt) (Nat.mul_div_le _ _)
  rw [List.length_take, List.length_drop, Nat.mul_succ] at *
  omega

end Sha256

/-- **The digest of the contracts is computed by these loops.** -/
theorem verification_sha256_hex_eq_loops (input : List UInt8) :
    verification_sha256_hex input = Sha256.loops Sha256.INITIAL Sha256.K input := by
  unfold verification_sha256_hex Sha256.loops Sha256.hash
  rw [Sha256.pad_loop_eq]
  have hbody (hash : Sha256.State) (block : List UInt8)
      (hblock : block ∈ Sha256.chunks_exact 64 (Sha256.padded input)) :
      hash.wrapping_add (Sha256.round_loop Sha256.K (Sha256.schedule_loops block) hash)
        = Sha256.compress hash block := by
    rw [Sha256.schedule_loops_eq (Sha256.length_of_mem_chunks_exact hblock),
      Sha256.round_loop_eq]
    rfl
  rw [List.foldl_ext _ _ _ hbody]
  unfold Sha256.chunks_exact
  rw [List.foldl_map]

/-- The second function is the first: their tables are the same. -/
theorem TargetedRerun.sha256_hex_eq (input : List UInt8) :
    TargetedRerun.sha256_hex input = verification_sha256_hex input :=
  (verification_sha256_hex_eq_loops input).symm

end OvcaCore

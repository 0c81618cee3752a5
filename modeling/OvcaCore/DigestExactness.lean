/-
The digest of the contract layer is SHA-256.

The loops of `OvcaCore.DigestLoops` are compared with the standard's definition on strings
of bits (`OvcaCore.Lib.Sha2`), layer by layer: words, padding, schedule, rounds, blocks,
digits. The message of the standard is the input, byte by byte and most significant bit
first; it is short enough for the standard when the input has fewer than `2⁶¹` bytes.
-/
import OvcaCore.DigestLoops

set_option autoImplicit false

namespace OvcaCore

open OvcaCore.Bits

namespace Sha256

/-! ## Words -/

/-- The words of the standard. -/
def State.to_hash (state : State) : Sha2.Hash where
  a := state.a.toBitVec
  b := state.b.toBitVec
  c := state.c.toBitVec
  d := state.d.toBitVec
  e := state.e.toBitVec
  f := state.f.toBitVec
  g := state.g.toBitVec
  h := state.h.toBitVec

theorem toBitVec_rotate_right (x : UInt32) {n : UInt32} (hpos : 0 < n.toNat)
    (hlt : n.toNat < 32) : (rotate_right x n).toBitVec = x.toBitVec.rotateRight n.toNat := by
  have hback : (32 - n).toNat = 32 - n.toNat := by
    rw [UInt32.toNat_sub_of_le]
    · rfl
    · exact UInt32.le_iff_toNat_le.mpr (by simpa using hlt.le)
  apply BitVec.eq_of_toNat_eq
  rw [BitVec.toNat_rotateRight, Nat.mod_eq_of_lt hlt]
  change (rotate_right x n).toNat = _
  unfold rotate_right
  rw [UInt32.toNat_or, UInt32.toNat_shiftRight, UInt32.toNat_shiftLeft, hback,
    Nat.mod_eq_of_lt hlt, Nat.mod_eq_of_lt (show 32 - n.toNat < 32 by omega)]
  rfl

theorem toBitVec_shiftRight (x : UInt32) {n : UInt32} (hlt : n.toNat < 32) :
    (x >>> n).toBitVec = x.toBitVec >>> n.toNat := by
  apply BitVec.eq_of_toNat_eq
  rw [BitVec.toNat_ushiftRight]
  change (x >>> n).toNat = _
  rw [UInt32.toNat_shiftRight, Nat.mod_eq_of_lt hlt]
  rfl

/-- Four bytes are one word of the standard's message. -/
theorem toNat_from_be_bytes (bytes : List UInt8) :
    (from_be_bytes bytes).toNat = bytes_value bytes % 2 ^ 32 := by
  induction bytes using List.reverseRecOn with
  | nil => rfl
  | append_singleton bytes byte ih =>
    have hstep : from_be_bytes (bytes ++ [byte])
        = (from_be_bytes bytes <<< 8) ||| byte.toUInt32 := by
      unfold from_be_bytes
      rw [List.foldl_append, List.foldl_cons, List.foldl_nil]
    have hbyte : byte.toNat < 2 ^ 8 := byte.toNat_lt
    have hshift : (from_be_bytes bytes <<< 8).toNat
        = (from_be_bytes bytes).toNat % 2 ^ 24 * 2 ^ 8 := by
      rw [UInt32.toNat_shiftLeft]
      change (from_be_bytes bytes).toNat <<< 8 % 2 ^ 32 = _
      rw [Nat.shiftLeft_eq]
      omega
    rw [hstep, UInt32.toNat_or, hshift, UInt8.toNat_toUInt32, ← Nat.shiftLeft_eq,
      ← Nat.shiftLeft_add_eq_or_of_lt hbyte, Nat.shiftLeft_eq, ih,
      bytes_value_append_singleton]
    omega

theorem toBitVec_from_be_bytes (bytes : List UInt8) :
    (from_be_bytes bytes).toBitVec = BitVec.ofNat 32 (value (bytes_bits bytes)) := by
  apply BitVec.eq_of_toNat_eq
  rw [BitVec.toNat_ofNat, value_bytes_bits]
  exact toNat_from_be_bytes bytes

/-! ## Padding -/

theorem byte_bits_toUInt8 (value : UInt64) {shift : UInt64} (hshift : shift.toNat < 64) :
    byte_bits (value >>> shift).toUInt8 = nat_bits 8 (value.toNat >>> shift.toNat) := by
  unfold byte_bits
  rw [UInt64.toNat_toUInt8, UInt64.toNat_shiftRight, Nat.mod_eq_of_lt hshift, nat_bits_mod]

/-- The eight bytes of the length are its 64 bits. -/
theorem bytes_bits_to_be_bytes (value : UInt64) :
    bytes_bits (to_be_bytes value) = nat_bits 64 value.toNat := by
  have hsplit (n : ℕ) : nat_bits (8 + n) value.toNat
      = nat_bits 8 (value.toNat >>> n) ++ nat_bits n value.toNat := nat_bits_add 8 n _
  unfold to_be_bytes
  simp only [List.map_cons, List.map_nil, bytes_bits_cons, bytes_bits_nil, List.append_nil]
  rw [byte_bits_toUInt8 value (by decide), byte_bits_toUInt8 value (by decide),
    byte_bits_toUInt8 value (by decide), byte_bits_toUInt8 value (by decide),
    byte_bits_toUInt8 value (by decide), byte_bits_toUInt8 value (by decide),
    byte_bits_toUInt8 value (by decide), byte_bits_toUInt8 value (by decide)]
  rw [hsplit 56, hsplit 48, hsplit 40, hsplit 32, hsplit 24, hsplit 16, hsplit 8]
  rfl

theorem toNat_bit_len {length : ℕ} (h : length < 2 ^ 61) :
    (UInt64.ofNat length * 8).toNat = 8 * length := by
  rw [UInt64.toNat_mul, UInt64.toNat_ofNat']
  change length % 2 ^ 64 * 8 % 2 ^ 64 = 8 * length
  omega

/-- One bit, seven zeros, and then whole bytes of zeros. -/
theorem padding_zeros_bits (length : ℕ) :
    Sha2.padding_zeros (8 * length) = 7 + 8 * padding_zeros length := by
  unfold padding_zeros
  apply Sha2.padding_zeros_eq
  · omega
  · omega

/-- **The padded input is the padded message**, for every residue of the length. -/
theorem pad_of_bytes (input : List UInt8) (h : input.length < 2 ^ 61) :
    (Sha2.Message.of_bytes input h).pad = bytes_bits (padded input) := by
  have hmarker : byte_bits 0x80 = true :: List.replicate 7 false := by decide
  unfold padded Sha2.Message.pad Sha2.Message.of_bytes
  rw [bytes_bits_append, bytes_bits_append, bytes_bits_cons, hmarker, bytes_bits_zeros,
    bytes_bits_to_be_bytes, toNat_bit_len h]
  dsimp only
  rw [length_bytes_bits, padding_zeros_bits, List.cons_append, List.replicate_append_replicate]

/-- The words of block `i`, cut out of the padded input. -/
theorem word_of_bytes (input : List UInt8) (h : input.length < 2 ^ 61) (i t : ℕ) :
    (Sha2.Message.of_bytes input h).word i t
      = (from_be_bytes (((padded input).drop (64 * i + 4 * t)).take 4)).toBitVec := by
  have hstart : 512 * i + 32 * t = 8 * (64 * i + 4 * t) := by ring
  have htake := take_bytes_bits ((padded input).drop (64 * i + 4 * t)) 4
  unfold Sha2.Message.word
  rw [pad_of_bytes, hstart, drop_bytes_bits, toBitVec_from_be_bytes, ← htake]

/-! ## The schedule -/

/-- The words known so far are those of the standard's schedule. -/
def Scheduled (block : ℕ → Sha2.Word) (words : List UInt32) : Prop :=
  ∀ t < words.length, (words.getD t 0).toBitVec = Sha2.W block t

theorem toBitVec_s0 (x : UInt32) :
    (rotate_right x 7 ^^^ rotate_right x 18 ^^^ (x >>> 3)).toBitVec = Sha2.sigma0 x.toBitVec := by
  unfold Sha2.sigma0
  rw [UInt32.toBitVec_xor, UInt32.toBitVec_xor, toBitVec_rotate_right x (by decide) (by decide),
    toBitVec_rotate_right x (by decide) (by decide), toBitVec_shiftRight x (by decide)]
  rfl

theorem toBitVec_s1 (x : UInt32) :
    (rotate_right x 17 ^^^ rotate_right x 19 ^^^ (x >>> 10)).toBitVec
      = Sha2.sigma1 x.toBitVec := by
  unfold Sha2.sigma1
  rw [UInt32.toBitVec_xor, UInt32.toBitVec_xor, toBitVec_rotate_right x (by decide) (by decide),
    toBitVec_rotate_right x (by decide) (by decide), toBitVec_shiftRight x (by decide)]
  rfl

/-- One more word follows the recurrence of the schedule. -/
theorem scheduled_extend {block : ℕ → Sha2.Word} {words : List UInt32}
    (hlength : 16 ≤ words.length) (h : Scheduled block words) :
    Scheduled block (extend words) := by
  intro t ht
  rw [length_extend] at ht
  by_cases hold : t < words.length
  · unfold extend
    rw [List.getD_append _ _ _ _ hold]
    exact h t hold
  · have hlast : t = words.length := by omega
    subst hlast
    unfold extend
    rw [List.getD_append_right _ _ _ _ (le_refl _), Nat.sub_self, List.getD_cons_zero,
      Sha2.W_of_ge hlength]
    simp only [UInt32.toBitVec_add, toBitVec_s0, toBitVec_s1]
    rw [h _ (by omega), h _ (by omega), h _ (by omega), h _ (by omega)]
    -- the source adds the four words in another order
    ac_rfl

theorem scheduled_foldl {block : ℕ → Sha2.Word} {words : List UInt32}
    (hlength : 16 ≤ words.length) (h : Scheduled block words) (n : ℕ) :
    Scheduled block ((List.range n).foldl (fun words _ => extend words) words) := by
  induction n with
  | zero => exact h
  | succ n ih =>
    rw [List.range_succ, List.foldl_append, List.foldl_cons, List.foldl_nil]
    exact scheduled_extend (by rw [length_foldl_extend]; omega) ih

/-- **The schedule loops compute the message schedule.** -/
theorem scheduled_schedule {block : List UInt8} {words : ℕ → Sha2.Word}
    (h : ∀ t < 16, (from_be_bytes ((block.drop (4 * t)).take 4)).toBitVec = words t) :
    Scheduled words (schedule block) := by
  apply scheduled_foldl
  · simp
  · intro t ht
    have hlt : t < 16 := by simpa using ht
    rw [Sha2.W_of_lt hlt, ← h t hlt, List.getD_eq_getElem _ _ ht, List.getElem_map,
      List.getElem_range]

/-! ## Rounds and blocks -/

/-- The table of the source is the one of the standard. -/
theorem K_eq : K.map UInt32.toBitVec = Sha2.K := by
  rw [Sha2.K, Sha2.primes_eq]
  decide

theorem INITIAL_eq : INITIAL.to_hash = Sha2.H0 := by
  rw [Sha2.H0, Sha2.primes_eq]
  decide

theorem length_K : K.length = 64 := rfl

theorem K_getD {t : ℕ} (ht : t < 64) : (K.getD t 0).toBitVec = Sha2.K.getD t 0 := by
  have hlength : t < (K.map UInt32.toBitVec).length := by rw [List.length_map, length_K]; exact ht
  rw [← K_eq, List.getD_eq_getElem _ _ hlength, List.getElem_map,
    List.getD_eq_getElem K _ (by rw [length_K]; exact ht)]

theorem to_hash_round {t : ℕ} (ht : t < 64) (word : UInt32) (state : State) :
    (round state (K.getD t 0) word).to_hash = Sha2.round t word.toBitVec state.to_hash := by
  have hs1 (x : UInt32) : (rotate_right x 6 ^^^ rotate_right x 11 ^^^ rotate_right x 25).toBitVec
      = Sha2.Sum1 x.toBitVec := by
    unfold Sha2.Sum1
    rw [UInt32.toBitVec_xor, UInt32.toBitVec_xor, toBitVec_rotate_right x (by decide) (by decide),
      toBitVec_rotate_right x (by decide) (by decide),
      toBitVec_rotate_right x (by decide) (by decide)]
    rfl
  have hs0 (x : UInt32) : (rotate_right x 2 ^^^ rotate_right x 13 ^^^ rotate_right x 22).toBitVec
      = Sha2.Sum0 x.toBitVec := by
    unfold Sha2.Sum0
    rw [UInt32.toBitVec_xor, UInt32.toBitVec_xor, toBitVec_rotate_right x (by decide) (by decide),
      toBitVec_rotate_right x (by decide) (by decide),
      toBitVec_rotate_right x (by decide) (by decide)]
    rfl
  unfold round Sha2.round State.to_hash
  simp only [UInt32.toBitVec_add, hs0, hs1, K_getD ht]
  rfl

/-- The loop over the rounds keeps the working variables of the standard. -/
theorem to_hash_rounds {block : ℕ → Sha2.Word} {words : List UInt32} (hlength : words.length = 64)
    (h : Scheduled block words) (hash : State) {t : ℕ} (ht : t ≤ 64) :
    ((List.range t).foldl
        (fun state index => round state (K.getD index 0) (words.getD index 0)) hash).to_hash
      = Sha2.working block hash.to_hash t := by
  induction t with
  | zero => rfl
  | succ t ih =>
    rw [List.range_succ, List.foldl_append, List.foldl_cons, List.foldl_nil,
      to_hash_round (by omega), ih (by omega), h t (by omega)]
    rfl

theorem to_hash_wrapping_add (state other : State) :
    (state.wrapping_add other).to_hash = other.to_hash.add state.to_hash := by
  unfold State.wrapping_add Sha2.Hash.add State.to_hash
  simp only [UInt32.toBitVec_add, BitVec.add_comm]

/-- **The compression of a block** is that of the standard, on the words of the block. -/
theorem to_hash_compress {block : List UInt8} {words : ℕ → Sha2.Word}
    (h : ∀ t < 16, (from_be_bytes ((block.drop (4 * t)).take 4)).toBitVec = words t)
    (hash : State) : (compress hash block).to_hash = Sha2.compress hash.to_hash words := by
  have hrounds := to_hash_rounds (length_schedule block) (scheduled_schedule h) hash (le_refl 64)
  have hloop : round_loop K (schedule block) hash
      = (K.zip (schedule block)).foldl (fun state p => round state p.1 p.2) hash :=
    round_loop_eq block hash
  unfold compress Sha2.compress
  rw [to_hash_wrapping_add, ← hloop, ← hrounds]
  rfl

/-- The words of a block, cut out of the whole input. -/
theorem word_of_block (bytes : List UInt8) (i : ℕ) {t : ℕ} (ht : t < 16) :
    ((((bytes.drop (64 * i)).take 64).drop (4 * t)).take 4)
      = (bytes.drop (64 * i + 4 * t)).take 4 := by
  rw [List.drop_take, List.drop_drop, List.take_take, Nat.min_eq_left (by omega)]

/-- **The hash after any number of blocks** is that of the standard. -/
theorem to_hash_blocks (input : List UInt8) (h : input.length < 2 ^ 61) (n : ℕ) :
    ((List.range n).foldl
        (fun state i => compress state (((padded input).drop (64 * i)).take 64)) INITIAL).to_hash
      = (Sha2.Message.of_bytes input h).hash n := by
  induction n with
  | zero => exact INITIAL_eq
  | succ n ih =>
    rw [List.range_succ, List.foldl_append, List.foldl_cons, List.foldl_nil,
      @to_hash_compress _ ((Sha2.Message.of_bytes input h).word n), ih]
    · rfl
    · intro t ht
      rw [word_of_block _ _ ht, word_of_bytes]

theorem to_hash_hash (input : List UInt8) (h : input.length < 2 ^ 61) :
    (hash input).to_hash = (Sha2.Message.of_bytes input h).hash
      ((Sha2.Message.of_bytes input h).pad.length / 512) := by
  have hlength : (Sha2.Message.of_bytes input h).pad.length / 512 = (padded input).length / 64 := by
    rw [pad_of_bytes, length_bytes_bits]
    omega
  rw [hlength]
  exact to_hash_blocks input h _

/-! ## Digits -/

theorem format_08x_eq (word : UInt32) :
    format_08x word = Sha2.hex (nat_bits 32 word.toNat) := by
  have hdigit {shift : UInt32} (hshift : shift.toNat < 32) :
      ((word >>> shift) &&& 15).toNat = word.toNat >>> shift.toNat % 16 := by
    rw [UInt32.toNat_and, UInt32.toNat_shiftRight, Nat.mod_eq_of_lt hshift]
    exact Nat.and_two_pow_sub_one_eq_mod _ 4
  have hhex := Sha2.hex_nat_bits 8 word.toNat
  unfold format_08x
  rw [show 32 = 4 * 8 from rfl, hhex]
  simp only [List.map_cons, List.map_nil]
  rw [hdigit (by decide), hdigit (by decide), hdigit (by decide), hdigit (by decide),
    hdigit (by decide), hdigit (by decide), hdigit (by decide), hdigit (by decide)]
  rfl

theorem format_02x_eq (byte : UInt8) : format_02x byte = Sha2.hex (byte_bits byte) := by
  have hdigit {shift : UInt8} (hshift : shift.toNat < 8) :
      ((byte >>> shift) &&& 15).toNat = byte.toNat >>> shift.toNat % 16 := by
    rw [UInt8.toNat_and, UInt8.toNat_shiftRight, Nat.mod_eq_of_lt hshift]
    exact Nat.and_two_pow_sub_one_eq_mod _ 4
  have hhex := Sha2.hex_nat_bits 2 byte.toNat
  unfold format_02x byte_bits
  rw [show 8 = 4 * 2 from rfl, hhex]
  simp only [List.map_cons, List.map_nil]
  rw [hdigit (by decide), hdigit (by decide)]
  rfl

theorem words_to_hash (state : State) :
    state.to_hash.words = state.words.map UInt32.toBitVec := rfl

end Sha256

/-- The digest of the contracts is the standard's, as lower-case hexadecimal digits. -/
theorem verification_sha256_hex_eq (input : List UInt8) (h : input.length < 2 ^ 61) :
    verification_sha256_hex input
      = String.ofList (Sha2.hex (Sha2.sha256 (Sha2.Message.of_bytes input h))) := by
  have hdigits : (Sha256.hash input).words.flatMap Sha256.format_08x
      = (Sha256.hash input).words.flatMap fun word => Sha2.hex (nat_bits 32 word.toNat) := by
    apply List.flatMap_congr
    intro word _
    exact Sha256.format_08x_eq word
  unfold verification_sha256_hex Sha2.sha256
  rw [hdigits, ← Sha256.to_hash_hash, Sha256.words_to_hash, List.flatMap_map,
    Sha2.hex_flatMap (n := 8) (fun word => length_nat_bits 32 _)]
  rfl

/-- The storage layer writes the digits of the bytes where the contracts write those of the
words. -/
theorem storage_sha256_hex_eq {digest : List UInt8 → List UInt8} {bytes : List UInt8}
    {h : bytes.length < 2 ^ 61}
    (hdigest : digest bytes = Sha2.to_bytes (Sha2.sha256 (Sha2.Message.of_bytes bytes h))) :
    LocalVerificationStore.sha256_hex digest bytes
      = String.ofList (Sha2.hex (Sha2.sha256 (Sha2.Message.of_bytes bytes h))) := by
  have hwhole : 8 ∣ (Sha2.sha256 (Sha2.Message.of_bytes bytes h)).length := by
    rw [Sha2.length_sha256]
    decide
  have hdigits : (digest bytes).flatMap Sha256.format_02x
      = (digest bytes).flatMap fun byte => Sha2.hex (byte_bits byte) := by
    apply List.flatMap_congr
    intro byte _
    exact Sha256.format_02x_eq byte
  unfold LocalVerificationStore.sha256_hex
  rw [hdigits, hdigest, ← Sha2.hex_to_bytes hwhole]

/-- What is relied on of the `sha2` crate: its `Sha256::digest` is the digest of the standard,
as bytes. -/
def ComputesSha256 (digest : List UInt8 → List UInt8) : Prop :=
  ∀ (bytes : List UInt8) (h : bytes.length < 2 ^ 61),
    digest bytes = Sha2.to_bytes (Sha2.sha256 (Sha2.Message.of_bytes bytes h))

/-- **The contract layer computes SHA-256.** For every input of fewer than `2⁶¹` bytes, both
functions of the contract layer return the digits of the standard's digest, which are those
that the storage layer recomputes with the `sha2` crate. The padding loop ends, after fewer
than 64 pushes and as soon as the length is 56 modulo 64, and leaves whole blocks. -/
theorem contract_digests_are_sha256 (input : List UInt8) (h : input.length < 2 ^ 61)
    (digest : List UInt8 → List UInt8) (hdigest : ComputesSha256 digest) :
    verification_sha256_hex input = Sha256.loops Sha256.INITIAL Sha256.K input
      ∧ verification_sha256_hex input
        = String.ofList (Sha2.hex (Sha2.sha256 (Sha2.Message.of_bytes input h)))
      ∧ TargetedRerun.sha256_hex input
        = String.ofList (Sha2.hex (Sha2.sha256 (Sha2.Message.of_bytes input h)))
      ∧ LocalVerificationStore.sha256_hex digest input = verification_sha256_hex input
      ∧ (∃ n < 64, Sha256.padding_loop (input ++ [0x80]) = input ++ [0x80] ++ List.replicate n 0
        ∧ (input.length + 1 + n) % 64 = 56 ∧ ∀ m < n, (input.length + 1 + m) % 64 ≠ 56)
      ∧ (Sha256.pad_loop input).length % 64 = 0 := by
  have hcontract := verification_sha256_hex_eq input h
  refine ⟨verification_sha256_hex_eq_loops input, hcontract, ?_, ?_, ?_, ?_⟩
  · rw [TargetedRerun.sha256_hex_eq]
    exact hcontract
  · rw [storage_sha256_hex_eq (hdigest input h)]
    exact hcontract.symm
  · have hends := Sha256.padding_loop_ends (input ++ [0x80])
    rw [List.length_append, List.length_singleton] at hends
    exact hends
  · rw [Sha256.pad_loop_eq]
    exact Sha256.length_padded input

theorem contract_digests_are_sha256_abc :
    LocalVerificationStore.sha256_hex Sha2.digest_bytes [97, 98, 99]
        = verification_sha256_hex [97, 98, 99]
      ∧ TargetedRerun.sha256_hex [97, 98, 99]
        = "ba7816bf8f01cfea414140de5dae2223b00361a396177a9cb410ff61f20015ad" := by
  have hdigest : ComputesSha256 Sha2.digest_bytes := fun bytes h => Sha2.digest_bytes_eq bytes h
  obtain ⟨hloops, -, -, hstorage, -, -⟩ :=
    contract_digests_are_sha256 [97, 98, 99] (by decide) Sha2.digest_bytes hdigest
  refine ⟨hstorage, hloops.symm.trans ?_⟩
  decide +kernel

end OvcaCore

/-
SHA-256 as FIPS 180-4 defines it, on strings of bits.

The functions, the constants, the padding, the message schedule and the compression
carry the numbers of the standard's sections. The constants are not a table here: they
are the fractional parts of roots of primes, which is what the standard says they are.
Nothing of this module is an implementation; an implementation is compared with it.
-/
import OvcaCore.Lib.Bits
import Mathlib.Data.Nat.NthRoot.Defs
import Mathlib.Data.Nat.Prime.Basic

set_option autoImplicit false

namespace OvcaCore.Sha2

open OvcaCore.Bits

abbrev Word := BitVec 32

/-! ## Functions (4.1.2) -/

def Ch (x y z : Word) : Word := (x &&& y) ^^^ (~~~x &&& z)

def Maj (x y z : Word) : Word := (x &&& y) ^^^ (x &&& z) ^^^ (y &&& z)

/-- `Σ₀`. -/
def Sum0 (x : Word) : Word := x.rotateRight 2 ^^^ x.rotateRight 13 ^^^ x.rotateRight 22

/-- `Σ₁`. -/
def Sum1 (x : Word) : Word := x.rotateRight 6 ^^^ x.rotateRight 11 ^^^ x.rotateRight 25

/-- `σ₀`. -/
def sigma0 (x : Word) : Word := x.rotateRight 7 ^^^ x.rotateRight 18 ^^^ (x >>> 3)

/-- `σ₁`. -/
def sigma1 (x : Word) : Word := x.rotateRight 17 ^^^ x.rotateRight 19 ^^^ (x >>> 10)

/-! ## Constants (4.2.2, 5.3.3) -/

/-- The first 32 bits of the fractional part of the `n`-th root of `p`. -/
def root_fraction (n p : ℕ) : Word := BitVec.ofNat 32 (Nat.nthRoot n (p * 2 ^ (32 * n)))

/-- The first sixty-four primes. -/
def primes : List ℕ := (List.range 312).filter fun p => Nat.Prime p

/-- Below `18 * 18`, the primes below `18` are the divisors to try. -/
theorem prime_iff_of_lt {p : ℕ} (hp : p < 312) :
    p.Prime ↔ 2 ≤ p ∧ ∀ m ∈ [2, 3, 5, 7, 11, 13, 17], m ∣ p → m = p := by
  constructor
  · intro hprime
    refine ⟨hprime.two_le, ?_⟩
    intro m hm hdvd
    rcases (Nat.dvd_prime hprime).mp hdvd with rfl | heq
    · simp at hm
    · exact heq
  · rintro ⟨htwo, hdivisors⟩
    by_contra hprime
    have hsq : p.minFac ^ 2 ≤ p := Nat.minFac_sq_le_self (by omega) hprime
    have hfac : p.minFac.Prime := Nat.minFac_prime (by omega)
    have hlt : p.minFac < 18 := (Nat.pow_lt_pow_iff_left (by omega)).mp (by omega : _ < 18 ^ 2)
    have hsmall : ∀ q < 18, q.Prime → q ∈ [2, 3, 5, 7, 11, 13, 17] := by decide
    have heq := hdivisors _ (hsmall _ hlt hfac) p.minFac_dvd
    have hdouble := Nat.mul_le_mul_right p.minFac hfac.two_le
    rw [Nat.pow_two] at hsq
    omega

/-- The primes by trial division, which is quicker to run than `Nat.Prime`. -/
theorem primes_eq : primes = (List.range 312).filter fun p =>
    2 ≤ p ∧ ∀ m ∈ [2, 3, 5, 7, 11, 13, 17], m ∣ p → m = p := by
  refine List.filter_congr fun p hp => ?_
  rw [decide_eq_decide]
  exact prime_iff_of_lt (List.mem_range.mp hp)

/-- The constants `K₀ … K₆₃`: cube roots. -/
def K : List Word := primes.map (root_fraction 3)

/-- The eight words of a hash value, which are also the working variables. -/
structure Hash where
  a : Word
  b : Word
  c : Word
  d : Word
  e : Word
  f : Word
  g : Word
  h : Word
  deriving DecidableEq, Repr

namespace Hash

def words (hash : Hash) : List Word :=
  [hash.a, hash.b, hash.c, hash.d, hash.e, hash.f, hash.g, hash.h]

/-- A hash value of eight words; what is missing is zero. -/
def of_words (words : List Word) : Hash where
  a := words.getD 0 0
  b := words.getD 1 0
  c := words.getD 2 0
  d := words.getD 3 0
  e := words.getD 4 0
  f := words.getD 5 0
  g := words.getD 6 0
  h := words.getD 7 0

def add (x y : Hash) : Hash where
  a := x.a + y.a
  b := x.b + y.b
  c := x.c + y.c
  d := x.d + y.d
  e := x.e + y.e
  f := x.f + y.f
  g := x.g + y.g
  h := x.h + y.h

end Hash

/-- The initial hash value: square roots. -/
def H0 : Hash := .of_words ((primes.take 8).map (root_fraction 2))

/-! ## Preprocessing (5.1.1, 5.2.1) -/

/-- A message has fewer than `2⁶⁴` bits. -/
structure Message where
  bits : List Bool
  short : bits.length < 2 ^ 64

theorem exists_padding (l : ℕ) : ∃ k, (l + 1 + k) % 512 = 448 :=
  ⟨447 + (512 - l % 512), by omega⟩

/-- The smallest solution `k` of `l + 1 + k ≡ 448 (mod 512)`. -/
def padding_zeros (l : ℕ) : ℕ := Nat.find (exists_padding l)

namespace Message

/-- The message, a one, zeros, and the length of the message in 64 bits. -/
def pad (message : Message) : List Bool :=
  message.bits ++ true :: List.replicate (padding_zeros message.bits.length) false
    ++ nat_bits 64 message.bits.length

/-- The word `t` of the block `i` of the padded message. -/
def word (message : Message) (i t : ℕ) : Word :=
  BitVec.ofNat 32 (value ((message.pad.drop (512 * i + 32 * t)).take 32))

end Message

/-- A string of bytes as a message. -/
def Message.of_bytes (bytes : List UInt8) (h : bytes.length < 2 ^ 61) : Message where
  bits := bytes_bits bytes
  short := by
    rw [length_bytes_bits]
    omega

/-! ## Hash computation (6.2.2) -/

/-- The message schedule of a block. -/
def W (block : ℕ → Word) (t : ℕ) : Word :=
  if t < 16 then block t
  else sigma1 (W block (t - 2)) + W block (t - 7) + sigma0 (W block (t - 15)) + W block (t - 16)
termination_by t

/-- Round `t` of the compression, with the word of the schedule that it takes. -/
def round (t : ℕ) (w : Word) (v : Hash) : Hash :=
  let T1 := v.h + Sum1 v.e + Ch v.e v.f v.g + K.getD t 0 + w
  let T2 := Sum0 v.a + Maj v.a v.b v.c
  { a := T1 + T2
    b := v.a
    c := v.b
    d := v.c
    e := v.d + T1
    f := v.e
    g := v.f
    h := v.g }

/-- The working variables after the first `t` rounds. -/
def working (block : ℕ → Word) (hash : Hash) : ℕ → Hash
  | 0 => hash
  | t + 1 => round t (W block t) (working block hash t)

def compress (hash : Hash) (block : ℕ → Word) : Hash := (working block hash 64).add hash

/-- The hash value after the first `i` blocks. -/
def Message.hash (message : Message) : ℕ → Hash
  | 0 => H0
  | i + 1 => compress (message.hash i) (message.word i)

/-- The message digest: 256 bits. -/
def sha256 (message : Message) : List Bool :=
  (message.hash (message.pad.length / 512)).words.flatMap fun w => nat_bits 32 w.toNat

/-! ## Digests as text -/

/-- Bits as lower-case hexadecimal digits, four a digit. -/
def hex (bits : List Bool) : List Char :=
  (List.range (bits.length / 4)).map fun i => Nat.digitChar (value ((bits.drop (4 * i)).take 4))

/-- Bits as bytes. -/
def to_bytes (bits : List Bool) : List UInt8 :=
  (List.range (bits.length / 8)).map fun i => UInt8.ofNat (value ((bits.drop (8 * i)).take 8))

/-- The digest of a string of bytes, as bytes. A string that is too long to be a message
has none. -/
def digest_bytes (bytes : List UInt8) : List UInt8 :=
  if h : bytes.length < 2 ^ 61 then to_bytes (sha256 (Message.of_bytes bytes h)) else []

/-! ## Facts of the definitions -/

theorem digest_bytes_eq (bytes : List UInt8) (h : bytes.length < 2 ^ 61) :
    digest_bytes bytes = to_bytes (sha256 (Message.of_bytes bytes h)) := by
  unfold digest_bytes
  rw [dif_pos h]

theorem padding_zeros_spec (l : ℕ) : (l + 1 + padding_zeros l) % 512 = 448 :=
  Nat.find_spec (exists_padding l)

theorem padding_zeros_lt (l : ℕ) : padding_zeros l < 512 := by
  have hle : padding_zeros l ≤ (447 + (512 - l % 512)) % 512 := by
    apply Nat.find_min'
    omega
  omega

/-- The solution below 512 is the smallest one. -/
theorem padding_zeros_eq {l k : ℕ} (hk : (l + 1 + k) % 512 = 448) (hlt : k < 512) :
    padding_zeros l = k := by
  have hspec := padding_zeros_spec l
  have hzeros := padding_zeros_lt l
  omega

/-- A padded message is a number of whole blocks. -/
theorem Message.length_pad (message : Message) : message.pad.length % 512 = 0 := by
  have hspec := padding_zeros_spec message.bits.length
  unfold Message.pad
  rw [List.length_append, List.length_append, List.length_cons, List.length_replicate,
    length_nat_bits]
  omega

theorem W_of_lt {block : ℕ → Word} {t : ℕ} (ht : t < 16) : W block t = block t := by
  rw [W, if_pos ht]

theorem W_of_ge {block : ℕ → Word} {t : ℕ} (ht : 16 ≤ t) :
    W block t = sigma1 (W block (t - 2)) + W block (t - 7) + sigma0 (W block (t - 15))
      + W block (t - 16) := by
  rw [W, if_neg (by omega)]

theorem hex_append {front : List Bool} (hfront : 4 ∣ front.length) (back : List Bool) :
    hex (front ++ back) = hex front ++ hex back := by
  obtain ⟨n, hn⟩ := hfront
  have hfront_div : front.length / 4 = n := by omega
  have hdiv : (front ++ back).length / 4 = n + back.length / 4 := by
    rw [List.length_append]
    omega
  unfold hex
  rw [hdiv, hfront_div, List.range_add, List.map_append, List.map_map]
  refine congrArg₂ (· ++ ·) ?_ ?_
  · apply List.map_congr_left
    intro i hi
    have hlt := List.mem_range.mp hi
    rw [List.drop_append_of_le_length (by omega),
      List.take_append_of_le_length (by rw [List.length_drop]; omega)]
  · apply List.map_congr_left
    intro i _
    have hindex : 4 * (n + i) = front.length + 4 * i := by omega
    rw [Function.comp_apply, hindex, List.drop_length_add_append]

/-- Hexadecimal digits of pieces of whole digits are the digits of each piece. -/
theorem hex_flatMap {α : Type} {f : α → List Bool} {n : ℕ} (hf : ∀ a, (f a).length = 4 * n)
    (xs : List α) :
    hex (xs.flatMap f) = xs.flatMap fun a => hex (f a) := by
  induction xs with
  | nil => simp [hex]
  | cons x xs ih =>
    rw [List.flatMap_cons, List.flatMap_cons, ← ih]
    exact hex_append ⟨n, hf x⟩ _

/-- The digits of a number of `n` digits, written out. -/
theorem hex_nat_bits (n v : ℕ) :
    hex (nat_bits (4 * n) v)
      = (List.range n).map fun i => Nat.digitChar (v >>> (4 * (n - 1 - i)) % 16) := by
  have hdiv : 4 * n / 4 = n := by omega
  unfold hex
  rw [length_nat_bits, hdiv]
  apply List.map_congr_left
  intro i hi
  have hlt := List.mem_range.mp hi
  have hkeep : 4 * n - 4 * i = 4 + 4 * (n - 1 - i) := by omega
  rw [drop_nat_bits, hkeep, take_nat_bits, value_nat_bits]
  rfl

theorem bytes_bits_to_bytes {bits : List Bool} (h : 8 ∣ bits.length) :
    bytes_bits (to_bytes bits) = bits := by
  obtain ⟨n, hn⟩ := h
  induction n generalizing bits with
  | zero =>
    have hnil : bits = [] := List.length_eq_zero_iff.mp hn
    rw [hnil]
    rfl
  | succ n ih =>
    have hdiv : bits.length / 8 = n + 1 := by omega
    have hdrop : (bits.drop 8).length = 8 * n := by rw [List.length_drop]; omega
    have htake : (bits.take 8).length = 8 := by rw [List.length_take]; omega
    have hvalue := value_lt (bits.take 8)
    rw [htake] at hvalue
    have hhead : byte_bits (UInt8.ofNat (value (bits.take 8))) = bits.take 8 := by
      unfold byte_bits
      rw [UInt8.toNat_ofNat', Nat.mod_eq_of_lt hvalue]
      have h8 := nat_bits_value (bits.take 8)
      rw [htake] at h8
      exact h8
    have htail : to_bytes bits = UInt8.ofNat (value (bits.take 8)) :: to_bytes (bits.drop 8) := by
      unfold to_bytes
      rw [hdiv, hdrop, List.range_succ_eq_map, List.map_cons, List.map_map,
        Nat.mul_div_cancel_left n (by omega)]
      refine congrArg₂ List.cons rfl ?_
      apply List.map_congr_left
      intro i _
      rw [Function.comp_apply, List.drop_drop, Nat.succ_eq_add_one, Nat.mul_add, Nat.mul_one,
        Nat.add_comm]
    rw [htail, bytes_bits_cons, hhead, ih hdrop, List.take_append_drop]

/-- The digits of some whole bytes are two for each byte. -/
theorem hex_to_bytes {bits : List Bool} (h : 8 ∣ bits.length) :
    hex bits = (to_bytes bits).flatMap fun byte => hex (byte_bits byte) := by
  have hpieces : hex (bytes_bits (to_bytes bits))
      = (to_bytes bits).flatMap fun byte => hex (byte_bits byte) :=
    hex_flatMap (n := 2) length_byte_bits (to_bytes bits)
  rw [bytes_bits_to_bytes h] at hpieces
  exact hpieces

theorem length_sha256 (message : Message) : (sha256 message).length = 256 := by
  unfold sha256
  rw [length_flatMap_pieces (fun w : Word => length_nat_bits 32 w.toNat)]
  rfl

end OvcaCore.Sha2

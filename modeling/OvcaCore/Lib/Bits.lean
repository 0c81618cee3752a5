/-
Numbers as bits, and bytes as eight of them, most significant first.

`value` reads a list of bits as a number and `nat_bits` writes a number with a given
count of bits; the bits of a list of bytes are those of each byte in turn. What is cut
out of them at multiples of eight is cut out of the bytes.
-/
import Mathlib.Data.List.Induction
import Mathlib.Data.Nat.Bitwise
import Mathlib.Tactic.Ring

set_option autoImplicit false

namespace OvcaCore.Bits

/-! ## Reading and writing -/

/-- The number that the bits spell, most significant first. -/
def value (bits : List Bool) : ℕ := bits.foldl (fun n b => 2 * n + b.toNat) 0

/-- The last `n` binary digits of `v`, most significant first. -/
def nat_bits (n v : ℕ) : List Bool := (List.range n).map fun i => v.testBit (n - 1 - i)

@[simp] theorem value_nil : value [] = 0 := rfl

@[simp] theorem length_nat_bits (n v : ℕ) : (nat_bits n v).length = n := by
  unfold nat_bits
  rw [List.length_map, List.length_range]

theorem foldl_value (bits : List Bool) (start : ℕ) :
    bits.foldl (fun n b => 2 * n + b.toNat) start = start * 2 ^ bits.length + value bits := by
  unfold value
  induction bits generalizing start with
  | nil => simp
  | cons b bits ih =>
    rw [List.foldl_cons, List.foldl_cons, ih, ih (2 * 0 + b.toNat), List.length_cons, Nat.pow_succ]
    ring

theorem value_append (front back : List Bool) :
    value (front ++ back) = value front * 2 ^ back.length + value back := by
  have h := foldl_value back (value front)
  rw [← h]
  unfold value
  rw [List.foldl_append]

theorem value_cons (b : Bool) (bits : List Bool) :
    value (b :: bits) = b.toNat * 2 ^ bits.length + value bits := by
  have h := foldl_value bits (2 * 0 + b.toNat)
  rw [Nat.mul_zero, Nat.zero_add] at h
  unfold value at h ⊢
  rw [List.foldl_cons, Nat.mul_zero, Nat.zero_add]
  exact h

theorem value_lt (bits : List Bool) : value bits < 2 ^ bits.length := by
  induction bits with
  | nil => simp
  | cons b bits ih =>
    rw [value_cons, List.length_cons, Nat.pow_succ]
    have hb : b.toNat ≤ 1 := Bool.toNat_le b
    have hmul : b.toNat * 2 ^ bits.length ≤ 1 * 2 ^ bits.length := Nat.mul_le_mul_right _ hb
    omega

theorem nat_bits_succ (n v : ℕ) : nat_bits (n + 1) v = v.testBit n :: nat_bits n v := by
  unfold nat_bits
  rw [List.range_succ_eq_map, List.map_cons, List.map_map]
  refine congrArg₂ List.cons (by simp) ?_
  apply List.map_congr_left
  intro i hi
  have hlt := List.mem_range.mp hi
  have hindex : n + 1 - 1 - (i + 1) = n - 1 - i := by omega
  simp only [Function.comp_apply, Nat.succ_eq_add_one, hindex]

/-- **Writing and reading back** keeps the number, as far as the bits reach. -/
theorem value_nat_bits (n v : ℕ) : value (nat_bits n v) = v % 2 ^ n := by
  induction n with
  | zero => simp [nat_bits, Nat.mod_one]
  | succ n ih =>
    rw [nat_bits_succ, value_cons, length_nat_bits, ih, Nat.toNat_testBit]
    have hmod := Nat.mod_pow_succ (b := 2) (k := n) (x := v)
    rw [hmod, Nat.mul_comm (2 ^ n)]
    omega

theorem value_injective {front back : List Bool} (hlength : front.length = back.length)
    (hvalue : value front = value back) : front = back := by
  induction front generalizing back with
  | nil => exact (List.length_eq_zero_iff.mp hlength.symm).symm
  | cons b bits ih =>
    obtain _ | ⟨c, cs⟩ := back
    · simp at hlength
    · have hlen : bits.length = cs.length := by simpa using hlength
      rw [value_cons, value_cons, hlen] at hvalue
      have hbits := value_lt bits
      have hcs := value_lt cs
      rw [hlen] at hbits
      have hhead : b = c := by
        by_contra hne
        rcases b with _ | _ <;> rcases c with _ | _ <;> simp at hvalue hne
        · omega
        · omega
      subst hhead
      rw [ih hlen (by omega)]

theorem nat_bits_value (bits : List Bool) : nat_bits bits.length (value bits) = bits := by
  apply value_injective (length_nat_bits _ _)
  rw [value_nat_bits]
  exact Nat.mod_eq_of_lt (value_lt bits)

theorem drop_nat_bits (n v k : ℕ) : (nat_bits n v).drop k = nat_bits (n - k) v := by
  unfold nat_bits
  apply List.ext_getElem
  · simp
  · intro i hi hi'
    simp only [List.getElem_drop, List.getElem_map, List.getElem_range]
    have hindex : n - 1 - (k + i) = n - k - 1 - i := by omega
    rw [hindex]

theorem take_nat_bits (k n v : ℕ) : (nat_bits (k + n) v).take k = nat_bits k (v >>> n) := by
  unfold nat_bits
  apply List.ext_getElem
  · simp
  · intro i hi hi'
    have hlt : i < k := by simpa using hi'
    simp only [List.getElem_take, List.getElem_map, List.getElem_range, Nat.testBit_shiftRight]
    have hindex : k + n - 1 - i = n + (k - 1 - i) := by omega
    rw [hindex]

theorem nat_bits_add (k n v : ℕ) : nat_bits (k + n) v = nat_bits k (v >>> n) ++ nat_bits n v := by
  have hdrop := drop_nat_bits (k + n) v k
  rw [Nat.add_sub_cancel_left] at hdrop
  rw [← take_nat_bits, ← hdrop, List.take_append_drop]

theorem nat_bits_mod (n v : ℕ) : nat_bits n (v % 2 ^ n) = nat_bits n v := by
  apply value_injective
  · rw [length_nat_bits, length_nat_bits]
  · rw [value_nat_bits, value_nat_bits, Nat.mod_mod]

/-! ## Pieces of one length -/

section Pieces

variable {α β : Type} {f : α → List β} {k : ℕ}

theorem length_flatMap_pieces (hf : ∀ a, (f a).length = k) (xs : List α) :
    (xs.flatMap f).length = k * xs.length := by
  induction xs with
  | nil => simp
  | cons x xs ih =>
    rw [List.flatMap_cons, List.length_append, hf, ih, List.length_cons]
    ring

theorem drop_flatMap_pieces (hf : ∀ a, (f a).length = k) (xs : List α) (n : ℕ) :
    (xs.flatMap f).drop (k * n) = (xs.drop n).flatMap f := by
  induction n generalizing xs with
  | zero => simp
  | succ n ih =>
    obtain _ | ⟨x, xs⟩ := xs
    · simp
    · have hsplit : k * (n + 1) = (f x).length + k * n := by rw [hf]; ring
      rw [List.flatMap_cons, hsplit, List.drop_length_add_append, ih, List.drop_succ_cons]

theorem take_flatMap_pieces (hf : ∀ a, (f a).length = k) (xs : List α) (n : ℕ) :
    (xs.flatMap f).take (k * n) = (xs.take n).flatMap f := by
  induction n generalizing xs with
  | zero => simp
  | succ n ih =>
    obtain _ | ⟨x, xs⟩ := xs
    · simp
    · have hsplit : k * (n + 1) = (f x).length + k * n := by rw [hf]; ring
      rw [List.flatMap_cons, hsplit, List.take_length_add_append, ih, List.take_succ_cons,
        List.flatMap_cons]

end Pieces

/-! ## Bytes -/

def byte_bits (byte : UInt8) : List Bool := nat_bits 8 byte.toNat

def bytes_bits (bytes : List UInt8) : List Bool := bytes.flatMap byte_bits

/-- The number that the bytes spell, most significant first. -/
def bytes_value (bytes : List UInt8) : ℕ := bytes.foldl (fun n byte => 256 * n + byte.toNat) 0

@[simp] theorem length_byte_bits (byte : UInt8) : (byte_bits byte).length = 8 :=
  length_nat_bits 8 _

theorem value_byte_bits (byte : UInt8) : value (byte_bits byte) = byte.toNat := by
  unfold byte_bits
  rw [value_nat_bits]
  exact Nat.mod_eq_of_lt byte.toNat_lt

@[simp] theorem bytes_bits_nil : bytes_bits [] = [] := rfl

theorem bytes_bits_cons (byte : UInt8) (bytes : List UInt8) :
    bytes_bits (byte :: bytes) = byte_bits byte ++ bytes_bits bytes := List.flatMap_cons

theorem bytes_bits_append (front back : List UInt8) :
    bytes_bits (front ++ back) = bytes_bits front ++ bytes_bits back := List.flatMap_append

@[simp] theorem length_bytes_bits (bytes : List UInt8) :
    (bytes_bits bytes).length = 8 * bytes.length := length_flatMap_pieces length_byte_bits bytes

theorem drop_bytes_bits (bytes : List UInt8) (n : ℕ) :
    (bytes_bits bytes).drop (8 * n) = bytes_bits (bytes.drop n) :=
  drop_flatMap_pieces length_byte_bits bytes n

theorem take_bytes_bits (bytes : List UInt8) (n : ℕ) :
    (bytes_bits bytes).take (8 * n) = bytes_bits (bytes.take n) :=
  take_flatMap_pieces length_byte_bits bytes n

theorem bytes_value_append_singleton (bytes : List UInt8) (byte : UInt8) :
    bytes_value (bytes ++ [byte]) = 256 * bytes_value bytes + byte.toNat := by
  unfold bytes_value
  rw [List.foldl_append]
  rfl

/-- The bits of some bytes spell the number that the bytes spell. -/
theorem value_bytes_bits (bytes : List UInt8) : value (bytes_bits bytes) = bytes_value bytes := by
  induction bytes using List.reverseRecOn with
  | nil => rfl
  | append_singleton bytes byte ih =>
    rw [bytes_value_append_singleton, bytes_bits_append, value_append, ih, bytes_bits_cons,
      bytes_bits_nil, List.append_nil, value_byte_bits, length_byte_bits]
    ring

theorem byte_bits_zero : byte_bits 0 = List.replicate 8 false := by decide

theorem bytes_bits_zeros (n : ℕ) :
    bytes_bits (List.replicate n 0) = List.replicate (8 * n) false := by
  induction n with
  | zero => rfl
  | succ n ih =>
    rw [List.replicate_succ, bytes_bits_cons, ih, byte_bits_zero, List.replicate_append_replicate,
      Nat.mul_succ, Nat.add_comm]

end OvcaCore.Bits

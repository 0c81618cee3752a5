/-
UTF-8.

A text is encoded as a list of bytes. The bytes from a position on are the encoding of a text
iff the position is at the border of two characters: there the text of the rest starts, and
anywhere else stands a byte that no character begins with.
-/
import OvcaCore.Lib.Texts

set_option autoImplicit false

namespace OvcaCore.Utf8

open OvcaCore.Texts

variable {s t : Text} {i : ℕ}

/-- `s.as_bytes()`. -/
def encode (s : Text) : List UInt8 := s.flatMap String.utf8EncodeChar

/-- `String::from_utf8(bytes)`. -/
def decode (bytes : List UInt8) : Option Text := bytes.toByteArray.utf8Decode?.map Array.toList

@[simp] theorem encode_nil : encode [] = [] := rfl

theorem encode_cons {c : Char} : encode (c :: s) = String.utf8EncodeChar c ++ encode s := rfl

theorem encode_append : encode (s ++ t) = encode s ++ encode t := List.flatMap_append

/-- **Decoding inverts encoding.** -/
@[simp] theorem decode_encode : decode (encode s) = some s := by
  have hbytes : (encode s).toByteArray = s.utf8Encode := rfl
  rw [decode, hbytes, List.utf8Decode?_utf8Encode, Option.map_some]

theorem encode_of_decode {bytes : List UInt8} (h : decode bytes = some s) : bytes = encode s := by
  obtain ⟨chars, hchars, rfl⟩ := Option.map_eq_some_iff.mp h
  have hvalid : bytes.toByteArray.utf8Decode?.isSome = true := by
    rw [hchars]
    rfl
  have hget := @ByteArray.utf8Encode_get_utf8Decode? bytes.toByteArray hvalid
  simp only [hchars, Option.get_some] at hget
  exact (List.toByteArray_inj.mp hget).symm

/-- The position is at the border of two characters, or at an end. -/
def AtBorder (s : Text) (i : ℕ) : Prop :=
  ∃ before after, s = before ++ after ∧ i = (encode before).length

theorem drop_border {before after : Text} :
    (encode (before ++ after)).drop (encode before).length = encode after := by
  rw [encode_append, List.drop_left]

/-- Only the first byte of a character is one that characters begin with. -/
theorem isFirstByte_iff {c : Char} {b : UInt8} (h : (String.utf8EncodeChar c)[i]? = some b) :
    b.IsUTF8FirstByte ↔ i = 0 := by
  obtain ⟨hi, rfl⟩ := List.getElem?_eq_some_iff.mp h
  exact UInt8.isUTF8FirstByte_getElem_utf8EncodeChar

theorem encodeChar_length_pos (c : Char) : 0 < (String.utf8EncodeChar c).length := by
  rw [String.length_utf8EncodeChar]
  exact c.utf8Size_pos

/-- A text begins with a byte that characters begin with. -/
theorem isFirstByte_of_encode {b : UInt8} (h : (encode s)[0]? = some b) : b.IsUTF8FirstByte := by
  cases s with
  | nil => exact nomatch h
  | cons c s =>
    rw [encode_cons, List.getElem?_append_left (encodeChar_length_pos c)] at h
    exact (isFirstByte_iff h).mpr rfl

/-- A position is at a border, or within a character. -/
theorem border_or_within (hi : i < (encode s).length) :
    AtBorder s i ∨ ∃ b, (encode s)[i]? = some b ∧ ¬ b.IsUTF8FirstByte := by
  induction s generalizing i with
  | nil => exact absurd hi (Nat.not_lt_zero i)
  | cons c s ih =>
    by_cases hzero : i = 0
    · subst hzero
      exact Or.inl ⟨[], c :: s, rfl, rfl⟩
    · by_cases hwithin : i < (String.utf8EncodeChar c).length
      · right
        have hget := List.getElem?_eq_getElem hwithin
        refine ⟨_, ?_, fun hfirst => hzero ((isFirstByte_iff hget).mp hfirst)⟩
        rw [encode_cons, List.getElem?_append_left hwithin]
        exact hget
      · -- behind the first character
        obtain ⟨j, rfl⟩ := Nat.exists_eq_add_of_le (Nat.le_of_not_lt hwithin)
        rw [encode_cons, List.length_append] at hi
        rcases ih (show j < (encode s).length by omega) with ⟨before, after, rfl, rfl⟩ | ⟨b, hb, hnot⟩
        · refine Or.inl ⟨c :: before, after, rfl, ?_⟩
          rw [encode_cons, List.length_append]
        · refine Or.inr ⟨b, ?_, hnot⟩
          rw [encode_cons, List.getElem?_append_right (Nat.le_add_right _ _), Nat.add_sub_cancel_left]
          exact hb

/-- **Away from a border nothing can be decoded.** -/
theorem decode_drop (hi : i < (encode s).length) (h : ¬ AtBorder s i) :
    decode ((encode s).drop i) = none := by
  obtain ⟨b, hb, hnot⟩ := (border_or_within hi).resolve_left h
  cases hdecode : decode ((encode s).drop i) with
  | none => rfl
  | some t =>
    have hfirst : (encode t)[0]? = some b := by
      rw [← encode_of_decode hdecode, List.getElem?_drop, Nat.add_zero]
      exact hb
    exact absurd (isFirstByte_of_encode hfirst) hnot

end OvcaCore.Utf8

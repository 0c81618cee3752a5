/-
Symbolic names.

The Rust code tests the bytes of an identifier and the script matches its characters. A test
that only ASCII bytes pass amounts to a test of characters (`CharTest`), so the two accept the
same identifiers (`valid_symbolic_name_eq`).
-/
import OvcaCore.FailureRouting

set_option autoImplicit false

namespace OvcaCore

/-! ## Bytes and characters -/

theorem as_bytes_eq (s : String) : as_bytes s = s.toList.flatMap String.utf8EncodeChar := by
  have hbytes : s.toByteArray = (String.ofList s.toList).toByteArray := by
    rw [String.ofList_toList]
  unfold as_bytes
  rw [hbytes, String.toByteArray_ofList, List.utf8Encode]
  simp

/-- Every byte of a character beyond ASCII has its high bit set. -/
theorem le_of_mem_utf8EncodeChar {c : Char} (hc : is_ascii_char c = false) {b : UInt8}
    (hb : b ∈ String.utf8EncodeChar c) : 128 ≤ b.toNat := by
  have hge : 128 ≤ c.val.toNat := Nat.not_lt.mp (of_decide_eq_false hc)
  have hbyte : ∀ n, 128 ≤ n → n < 256 → b = UInt8.ofNat n → 128 ≤ b.toNat := by
    intro n hn hlt heq
    rw [heq, UInt8.toNat_ofNat_of_lt' hlt]
    exact hn
  unfold String.utf8EncodeChar at hb
  dsimp only at hb
  rw [if_neg (Nat.not_le.mpr hge)] at hb
  generalize c.val.toNat = v at hb
  -- two, three or four bytes
  split_ifs at hb <;> simp only [List.mem_cons, List.not_mem_nil, or_false] at hb
  · rcases hb with hb | hb <;> exact hbyte _ (by omega) (by omega) hb
  · rcases hb with hb | hb | hb <;> exact hbyte _ (by omega) (by omega) hb
  · rcases hb with hb | hb | hb | hb <;> exact hbyte _ (by omega) (by omega) hb

theorem byte_of_ascii {c : Char} (hc : is_ascii_char c = true) :
    c.val.toUInt8.toNat = c.toNat := by
  have hlt : c.toNat < 128 := of_decide_eq_true hc
  rw [UInt32.toNat_toUInt8]
  exact Nat.mod_eq_of_lt (by unfold Char.toNat at hlt; omega)

/-- A test of bytes that only ASCII bytes pass, and the test of characters it amounts to. -/
structure CharTest (byte : UInt8 → Bool) (char : Char → Bool) : Prop where
  ascii : ∀ c, is_ascii_char c = true → byte c.val.toUInt8 = char c
  high_byte : ∀ b : UInt8, 128 ≤ b.toNat → byte b = false
  high_char : ∀ c, is_ascii_char c = false → char c = false

namespace CharTest

variable {byte : UInt8 → Bool} {char : Char → Bool}

theorem of_not_ascii (h : CharTest byte char) {c : Char} (hc : is_ascii_char c = false) :
    ∃ b bs, String.utf8EncodeChar c = b :: bs ∧ byte b = char c ∧ ∀ b' ∈ bs, byte b' = char c := by
  obtain ⟨b, bs, hbytes⟩ := List.exists_cons_of_ne_nil (@String.utf8EncodeChar_ne_nil c)
  have hhigh : ∀ b' ∈ b :: bs, byte b' = char c := by
    intro b' hb'
    rw [← hbytes] at hb'
    rw [h.high_byte b' (le_of_mem_utf8EncodeChar hc hb'), h.high_char c hc]
  exact ⟨b, bs, hbytes, hhigh b List.mem_cons_self, fun b' hb' =>
    hhigh b' (List.mem_cons_of_mem b hb')⟩

theorem all_char (h : CharTest byte char) (c : Char) :
    (String.utf8EncodeChar c).all byte = char c := by
  by_cases hc : is_ascii_char c = true
  · rw [utf8EncodeChar_of_ascii hc, List.all_cons, List.all_nil, Bool.and_true, h.ascii c hc]
  · rw [Bool.not_eq_true] at hc
    obtain ⟨b, bs, hbytes, hb, -⟩ := h.of_not_ascii hc
    rw [hbytes, List.all_cons, hb, h.high_char c hc, Bool.false_and]

theorem any_char (h : CharTest byte char) (c : Char) :
    (String.utf8EncodeChar c).any byte = char c := by
  by_cases hc : is_ascii_char c = true
  · rw [utf8EncodeChar_of_ascii hc, List.any_cons, List.any_nil, Bool.or_false, h.ascii c hc]
  · rw [Bool.not_eq_true] at hc
    obtain ⟨b, bs, hbytes, hb, hbs⟩ := h.of_not_ascii hc
    have hrest : bs.any byte = false := by
      rw [List.any_eq_false]
      intro b' hb'
      rw [hbs b' hb', h.high_char c hc]
      exact Bool.false_ne_true
    rw [hbytes, List.any_cons, hb, hrest, Bool.or_false]

theorem head_char (h : CharTest byte char) (c : Char) :
    (String.utf8EncodeChar c).head?.any byte = char c := by
  by_cases hc : is_ascii_char c = true
  · rw [utf8EncodeChar_of_ascii hc, List.head?_cons, Option.any_some, h.ascii c hc]
  · rw [Bool.not_eq_true] at hc
    obtain ⟨b, bs, hbytes, hb, -⟩ := h.of_not_ascii hc
    rw [hbytes, List.head?_cons, Option.any_some, hb]

theorem all_bytes (h : CharTest byte char) (s : String) :
    (as_bytes s).all byte = s.toList.all char := by
  rw [as_bytes_eq, List.all_flatMap]
  simp only [h.all_char]

theorem any_bytes (h : CharTest byte char) (s : String) :
    (as_bytes s).any byte = s.toList.any char := by
  rw [as_bytes_eq, List.any_flatMap]
  simp only [h.any_char]

theorem head_bytes (h : CharTest byte char) (s : String) :
    (as_bytes s).head?.any byte = s.toList.head?.any char := by
  rw [as_bytes_eq]
  rcases s.toList with _ | ⟨c, cs⟩
  · rfl
  · rw [List.flatMap_cons, List.head?_append_of_ne_nil _ String.utf8EncodeChar_ne_nil, h.head_char]
    rfl

end CharTest

/-! ## Texts -/

theorem is_ascii_alphanumeric_iff {b : UInt8} : is_ascii_alphanumeric b = true ↔
    (48 ≤ b.toNat ∧ b.toNat ≤ 57) ∨ (65 ≤ b.toNat ∧ b.toNat ≤ 90)
      ∨ (97 ≤ b.toNat ∧ b.toNat ≤ 122) := by
  simp only [is_ascii_alphanumeric, is_ascii_digit, Bool.or_eq_true, Bool.and_eq_true,
    decide_eq_true_eq, UInt8.le_iff_toNat_le, or_assoc]
  rfl

theorem is_id_punctuation_iff {b : UInt8} : is_id_punctuation b = true ↔
    b.toNat = 46 ∨ b.toNat = 95 ∨ b.toNat = 58 ∨ b.toNat = 45 := by
  simp only [is_id_punctuation, Bool.or_eq_true, beq_iff_eq, ← UInt8.toNat_inj, or_assoc]
  rfl

namespace RevisionLoop

theorem is_alphanumeric_iff {c : Char} : is_alphanumeric c = true ↔
    (48 ≤ c.toNat ∧ c.toNat ≤ 57) ∨ (65 ≤ c.toNat ∧ c.toNat ≤ 90)
      ∨ (97 ≤ c.toNat ∧ c.toNat ≤ 122) := by
  simp only [is_alphanumeric, Bool.or_eq_true, Bool.and_eq_true, decide_eq_true_eq,
    Char.le_def, UInt32.le_iff_toNat_le]
  change ((65 ≤ c.toNat ∧ c.toNat ≤ 90) ∨ (97 ≤ c.toNat ∧ c.toNat ≤ 122)) ∨
    (48 ≤ c.toNat ∧ c.toNat ≤ 57) ↔ _
  omega

theorem is_symbolic_iff {c : Char} : is_symbolic c = true ↔
    is_alphanumeric c = true ∨ c.toNat = 46 ∨ c.toNat = 95 ∨ c.toNat = 58 ∨ c.toNat = 45 := by
  simp only [is_symbolic, Bool.or_eq_true, beq_iff_eq, ← Char.toNat_inj, or_assoc]
  rfl

theorem alphanumeric_test : CharTest is_ascii_alphanumeric is_alphanumeric where
  ascii c hc := by
    rw [Bool.eq_iff_iff, is_ascii_alphanumeric_iff, is_alphanumeric_iff, byte_of_ascii hc]
  high_byte b hb := by
    rw [Bool.eq_false_iff, ne_eq, is_ascii_alphanumeric_iff]
    omega
  high_char c hc := by
    have hge : ¬ c.toNat < 128 := of_decide_eq_false hc
    rw [Bool.eq_false_iff, ne_eq, is_alphanumeric_iff]
    omega

theorem symbolic_test :
    CharTest (fun b => is_ascii_alphanumeric b || is_id_punctuation b) is_symbolic where
  ascii c hc := by
    rw [Bool.eq_iff_iff, Bool.or_eq_true, is_id_punctuation_iff, is_symbolic_iff,
      alphanumeric_test.ascii c hc, byte_of_ascii hc]
  high_byte b hb := by
    rw [Bool.eq_false_iff, ne_eq, Bool.or_eq_true, is_ascii_alphanumeric_iff,
      is_id_punctuation_iff]
    omega
  high_char c hc := by
    have hge : ¬ c.toNat < 128 := of_decide_eq_false hc
    rw [Bool.eq_false_iff, ne_eq, is_symbolic_iff, is_alphanumeric_iff]
    omega

theorem nul_test : CharTest (fun b => 0 == b) (fun c => Char.ofNat 0 == c) where
  ascii c hc := by
    rw [Bool.eq_iff_iff, beq_iff_eq, beq_iff_eq, ← UInt8.toNat_inj, byte_of_ascii hc,
      ← Char.toNat_inj]
    rfl
  high_byte b hb := by
    rw [beq_eq_false_iff_ne, ne_eq, ← UInt8.toNat_inj]
    change ¬ 0 = b.toNat
    omega
  high_char c hc := by
    have hge : ¬ c.toNat < 128 := of_decide_eq_false hc
    rw [beq_eq_false_iff_ne, ne_eq, ← Char.toNat_inj]
    change ¬ 0 = c.toNat
    omega

/-- The two routers accept the same identifiers. -/
theorem valid_symbolic_name_eq (value : String) :
    valid_symbolic_name value = LocalVerification.validate_stable_id value := by
  unfold LocalVerification.validate_stable_id valid_symbolic_name
  rw [symbolic_test.all_bytes, alphanumeric_test.head_bytes]
  rcases value.toList with _ | ⟨first, rest⟩
  · rfl
  · rw [List.all_cons, List.head?_cons, Option.any_some, Bool.eq_iff_iff]
    simp only [Bool.and_eq_true]
    constructor
    · intro ⟨hfirst, hrest⟩
      exact ⟨⟨is_symbolic_iff.mpr (.inl hfirst), hrest⟩, hfirst⟩
    · intro ⟨⟨_, hrest⟩, hfirst⟩
      exact ⟨hfirst, hrest⟩

theorem contains_nul (value : String) :
    (as_bytes value).contains 0 = value.toList.contains (Char.ofNat 0) := by
  rw [List.contains_eq_any_beq, List.contains_eq_any_beq]
  exact nul_test.any_bytes value

end RevisionLoop

end OvcaCore

/-
What `read_jsonl_tail` reads.

The scan starts at a byte that may be within a character, within a line, or at the start of a
line. Within a character nothing can be decoded, and nothing is read. Else the rest of the line
it starts in is dropped, also when that is a whole line; so where the scan starts at a line,
that line is in the window and is not read (`tail_agrees_iff`).
-/
import OvcaCore.Jsonl

set_option autoImplicit false

namespace OvcaCore.Jsonl

open OvcaCore.Texts OvcaCore.Utf8

variable {T U E : Type} {serde : Serde T U E} {ls : List Text} {i n : ℕ}

/-! ## The specification -/

/-- The bytes of a list of lines, each with its line feed. -/
def size_of (ls : List Text) : ℕ := (encode (unlines ls)).length

/-- The number of lines that lie within the last bytes of a file of lines. -/
def lines_within (limit : ℕ) (ls : List Text) : ℕ :=
  (List.range ls.length).countP fun i => size_of (ls.drop i) ≤ limit

/-- A line of the file starts at the byte. -/
def AtLineStart (ls : List Text) (i : ℕ) : Prop := ∃ k < ls.length, i = size_of (ls.take k)

/-- The tail read agrees with the full read: it returns the last records, as many as there are
lines within the window, but at most `n`. -/
def TailAgrees (serde : Serde T U E) (values : List T) (n : ℕ) : Prop :=
  let file := append_all serde values
  let m := lines_within TAIL_SCAN_BYTES (written serde values)
  read_jsonl_tail serde file n <:+ read_jsonl serde file
    ∧ (read_jsonl_tail serde file n).length = min n m

/-- When the tail read agrees: the file is short, there is nothing to return, or the scan starts
at the border of two characters, and not at a line that would have to be returned. -/
def ScansWell (ls : List Text) (n : ℕ) : Prop :=
  let m := lines_within TAIL_SCAN_BYTES ls
  let start := scan_start (size_of ls)
  start = 0 ∨ min n m = 0 ∨
    AtBorder (unlines ls) start ∧ (AtLineStart ls start → n < m)

/-! ## Sizes -/

theorem size_of_cons {l : Text} : size_of (l :: ls) = (encode l).length + 1 + size_of ls := by
  unfold size_of
  rw [unlines_cons, encode_append, encode_cons, List.length_append, List.length_append]
  have hnewline : (String.utf8EncodeChar '\n').length = 1 := rfl
  omega

theorem size_of_append {ls' : List Text} : size_of (ls ++ ls') = size_of ls + size_of ls' := by
  unfold size_of
  rw [unlines_append, encode_append, List.length_append]

theorem size_of_split (ls : List Text) (k : ℕ) :
    size_of ls = size_of (ls.take k) + size_of (ls.drop k) := by
  rw [← size_of_append, List.take_append_drop]

/-- A split of a text of lines is within one of its lines, or at an end of one. -/
theorem split_unlines {before after : Text} (h : unlines ls = before ++ after)
    (hafter : after ≠ []) : ∃ ls₁ l₁ l₂ ls₂, ls = ls₁ ++ (l₁ ++ l₂) :: ls₂
      ∧ before = unlines ls₁ ++ l₁ ∧ after = l₂ ++ '\n' :: unlines ls₂ := by
  induction ls generalizing before with
  | nil =>
    obtain ⟨-, rfl⟩ := List.append_eq_nil_iff.mp h.symm
    exact absurd rfl hafter
  | cons l ls ih =>
    rw [unlines_cons] at h
    rcases List.append_eq_append_iff.mp h with ⟨rest, hbefore, hrest⟩ | ⟨rest, hl, hafter'⟩
    · -- the split is after the line
      cases rest with
      | nil =>
        rw [List.append_nil] at hbefore
        exact ⟨[], l, [], ls, by simp, by simp [hbefore, unlines], hrest.symm⟩
      | cons c rest =>
        obtain ⟨rfl, htail⟩ := List.cons.inj hrest
        obtain ⟨ls₁, l₁, l₂, ls₂, rfl, rfl, rfl⟩ := ih htail
        refine ⟨l :: ls₁, l₁, l₂, ls₂, rfl, ?_, rfl⟩
        rw [hbefore, unlines_cons, List.append_assoc, List.cons_append]
    · -- the split is within the first line
      exact ⟨[], before, rest, ls, by rw [hl]; rfl, rfl, hafter'⟩

/-! ## Where the scan starts -/

theorem length_le_size_of (ls : List Text) : ls.length ≤ size_of ls := by
  induction ls with
  | nil => exact Nat.zero_le _
  | cons l ls ih =>
    rw [size_of_cons, List.length_cons]
    omega

theorem encode_length_eq_zero {s : Text} : (encode s).length = 0 ↔ s = [] := by
  cases s with
  | nil => simp
  | cons c s =>
    have hpos := encodeChar_length_pos c
    rw [encode_cons, List.length_append]
    constructor
    · intro h
      omega
    · exact fun h => nomatch h

section Split

variable {ls₁ ls₂ : List Text} {l₁ l₂ : Text}

/-- The lines that start no earlier than a place within a line. -/
theorem le_size_of_take : size_of ls₁ + (encode l₁).length
      ≤ size_of ((ls₁ ++ (l₁ ++ l₂) :: ls₂).take i)
    ↔ ls₁.length < i ∨ l₁ = [] ∧ i = ls₁.length := by
  -- a later line starts behind the whole line that the place is in; an earlier one starts no
  -- later than the line itself, and at the place only if nothing of the line is before it
  by_cases hi : ls₁.length < i
  · obtain ⟨k, rfl⟩ := Nat.exists_eq_add_of_lt hi
    rw [show ls₁.length + k + 1 = ls₁.length + (k + 1) by omega, List.take_length_add_append,
      List.take_succ_cons, size_of_append, size_of_cons, encode_append, List.length_append]
    constructor
    · exact fun _ => Or.inl (by omega)
    · exact fun _ => by omega
  · have hsplit := size_of_split ls₁ i
    have hrest := length_le_size_of (ls₁.drop i)
    rw [List.length_drop] at hrest
    rw [List.take_append_of_le_length (by omega), ← encode_length_eq_zero]
    by_cases heq : i = ls₁.length
    · subst heq
      rw [List.take_length]
      omega
    · omega

theorem atLineStart_iff :
    AtLineStart (ls₁ ++ (l₁ ++ l₂) :: ls₂) (size_of ls₁ + (encode l₁).length) ↔ l₁ = [] := by
  constructor
  · rintro ⟨k, hk, heq⟩
    rcases le_size_of_take.mp (Nat.le_of_eq heq) with hlt | ⟨hnil, -⟩
    · -- a later line starts behind the line feed
      obtain ⟨j, rfl⟩ := Nat.exists_eq_add_of_lt hlt
      rw [show ls₁.length + j + 1 = ls₁.length + (j + 1) by omega, List.take_length_add_append,
        List.take_succ_cons, size_of_append, size_of_cons, encode_append,
        List.length_append] at heq
      omega
    · exact hnil
  · rintro rfl
    refine ⟨ls₁.length, ?_, ?_⟩
    · rw [List.length_append, List.length_cons]
      omega
    · rw [List.take_left]
      rfl

theorem countP_range {p : ℕ → Bool} {k m : ℕ} (h : ∀ i < m, p i = true ↔ k ≤ i) :
    (List.range m).countP p = m - k := by
  induction m with
  | zero => rw [List.range_zero, List.countP_nil, Nat.zero_sub]
  | succ m ih =>
    rw [List.range_succ, List.countP_append, ih fun i hi => h i (by omega), List.countP_singleton]
    -- the last position counts iff it is not before the first that counts
    by_cases hm : k ≤ m
    · rw [if_pos ((h m (Nat.lt_succ_self m)).mpr hm)]
      omega
    · rw [if_neg fun hp => hm ((h m (Nat.lt_succ_self m)).mp hp)]
      omega

/-- The lines within the window: those after the line it starts in, and that line if the window
starts with it. -/
theorem lines_within_eq {limit : ℕ} (hlimit : size_of (ls₁ ++ (l₁ ++ l₂) :: ls₂)
      = size_of ls₁ + (encode l₁).length + limit) :
    lines_within limit (ls₁ ++ (l₁ ++ l₂) :: ls₂)
      = if l₁ = [] then ls₂.length + 1 else ls₂.length := by
  have hwithin : ∀ i, size_of ((ls₁ ++ (l₁ ++ l₂) :: ls₂).drop i) ≤ limit
      ↔ ls₁.length < i ∨ l₁ = [] ∧ i = ls₁.length := by
    intro i
    have hsplit := size_of_split (ls₁ ++ (l₁ ++ l₂) :: ls₂) i
    rw [← @le_size_of_take i ls₁ ls₂ l₁ l₂]
    omega
  unfold lines_within
  by_cases hnil : l₁ = []
  · rw [if_pos hnil, @countP_range _ ls₁.length, List.length_append, List.length_cons]
    · omega
    · intro i _
      rw [decide_eq_true_iff, hwithin]
      constructor
      · rintro (hlt | ⟨-, rfl⟩)
        · omega
        · exact Nat.le_refl _
      · intro hle
        by_cases heq : i = ls₁.length
        · exact Or.inr ⟨hnil, heq⟩
        · exact Or.inl (by omega)
  · rw [if_neg hnil, @countP_range _ (ls₁.length + 1), List.length_append, List.length_cons]
    · omega
    · intro i _
      rw [decide_eq_true_iff, hwithin, or_iff_left fun h => hnil h.1]
      rfl

end Split

theorem lines_within_all {limit : ℕ} (h : size_of ls ≤ limit) :
    lines_within limit ls = ls.length := by
  unfold lines_within
  rw [@countP_range _ 0]
  · rfl
  · intro i _
    have hsplit := size_of_split ls i
    simp only [decide_eq_true_iff, Nat.zero_le, iff_true]
    omega

/-! ## What is read -/

theorem read_jsonl_file (h : WritesLines serde)
    (hls : ∀ l ∈ ls, ∃ value, serde.to_string value = .ok l) :
    read_jsonl serde (file_of ls) = ls.filterMap serde.from_str := by
  unfold read_jsonl file_of
  by_cases hnil : ls = []
  · rw [if_pos hnil, hnil]
    rfl
  · rw [if_neg hnil, Option.bind_some, decode_encode]
    exact (records_of_unlines h hls).1

theorem read_jsonl_tail_eq (hne : ls ≠ []) : read_jsonl_tail serde (file_of ls) n
      = last_records n (records_of serde (from_line_boundary (scan_start (size_of ls))
        ((decode ((encode (unlines ls)).drop (scan_start (size_of ls)))).getD []))) := by
  unfold read_jsonl_tail file_of
  rw [if_neg hne]
  rfl

/-- A scan from the start reads all lines. -/
theorem tail_of_short (h : WritesLines serde)
    (hls : ∀ l ∈ ls, ∃ value, serde.to_string value = .ok l) (hne : ls ≠ [])
    (hstart : scan_start (size_of ls) = 0) :
    read_jsonl_tail serde (file_of ls) n = last_records n (ls.filterMap serde.from_str) := by
  rw [read_jsonl_tail_eq hne, hstart, from_line_boundary_start, List.drop_zero, decode_encode,
    Option.getD_some, (records_of_unlines h hls).1]

/-- A scan from within a character reads nothing. -/
theorem tail_of_torn (hstart : 0 < scan_start (size_of ls))
    (htorn : ¬ AtBorder (unlines ls) (scan_start (size_of ls))) :
    read_jsonl_tail serde (file_of ls) n = [] := by
  have hne : ls ≠ [] := by
    rintro rfl
    exact absurd hstart (Nat.lt_irrefl 0)
  have hlt : scan_start (size_of ls) < size_of ls := by
    unfold scan_start TAIL_SCAN_BYTES at hstart ⊢
    omega
  rw [read_jsonl_tail_eq hne, decode_drop hlt htorn]
  have hempty : records_of serde (from_line_boundary (scan_start (size_of ls)) []) = [] := by
    unfold from_line_boundary
    rw [if_pos hstart]
    rfl
  rw [Option.getD_none, hempty]
  exact List.drop_nil

/-- **A scan from within a line, or from its start, reads the lines after it.** -/
theorem tail_of_split (h : WritesLines serde) {ls₁ ls₂ : List Text} {l₁ l₂ : Text}
    (hls : ∀ l ∈ ls₁ ++ (l₁ ++ l₂) :: ls₂, ∃ value, serde.to_string value = .ok l)
    (hstart : scan_start (size_of (ls₁ ++ (l₁ ++ l₂) :: ls₂))
      = size_of ls₁ + (encode l₁).length)
    (hpositive : 0 < size_of ls₁ + (encode l₁).length) :
    read_jsonl_tail serde (file_of (ls₁ ++ (l₁ ++ l₂) :: ls₂)) n
      = last_records n (ls₂.filterMap serde.from_str) := by
  have hnewline : '\n' ∉ l₂ := by
    obtain ⟨value, hvalue⟩ := hls (l₁ ++ l₂) (List.mem_append_right _ List.mem_cons_self)
    exact fun hmem => h.newline value _ hvalue (List.mem_append_right _ hmem)
  have htext : unlines (ls₁ ++ (l₁ ++ l₂) :: ls₂)
      = (unlines ls₁ ++ l₁) ++ (l₂ ++ '\n' :: unlines ls₂) := by
    rw [unlines_append, unlines_cons]
    simp only [List.append_assoc]
  have hbefore : size_of ls₁ + (encode l₁).length = (encode (unlines ls₁ ++ l₁)).length := by
    rw [encode_append, List.length_append]
    rfl
  have hrest := records_of_unlines h fun l hl =>
    hls l (List.mem_append_right _ (List.mem_cons_of_mem _ hl))
  rw [read_jsonl_tail_eq (List.append_ne_nil_of_right_ne_nil _ (List.cons_ne_nil _ _)), hstart,
    htext, hbefore, drop_border, decode_encode, Option.getD_some,
    from_line_boundary_append (hbefore ▸ hpositive) hnewline, hrest.1]

/-- Where a scan that starts at a border of characters is within the lines. -/
theorem exists_split (hlt : scan_start (size_of ls) < size_of ls)
    (hborder : AtBorder (unlines ls) (scan_start (size_of ls))) :
    ∃ ls₁ l₁ l₂ ls₂, ls = ls₁ ++ (l₁ ++ l₂) :: ls₂
      ∧ scan_start (size_of ls) = size_of ls₁ + (encode l₁).length := by
  obtain ⟨before, after, htext, hstart⟩ := hborder
  have hafter : after ≠ [] := by
    rintro rfl
    have hsize : size_of ls = (encode before).length := by
      unfold size_of
      rw [htext, List.append_nil]
    omega
  obtain ⟨ls₁, l₁, l₂, ls₂, hls, rfl, -⟩ := split_unlines htext hafter
  refine ⟨ls₁, l₁, l₂, ls₂, hls, ?_⟩
  rw [hstart, encode_append, List.length_append]
  rfl

/-- **When the tail read agrees with the full read.** For every file that appends can make and
every `n`: it does iff the file is no longer than the window, there is nothing to return, or the
window starts at the border of two characters, and not with a line that has to be returned. -/
theorem tail_agrees_iff (h : WritesLines serde) (values : List T) (n : ℕ) :
    TailAgrees serde values n ↔ ScansWell (written serde values) n := by
  have hls : ∀ l ∈ written serde values, ∃ value, serde.to_string value = .ok l :=
    fun l hl => mem_written hl
  unfold TailAgrees ScansWell
  simp only [append_all_eq, read_jsonl_file h hls]
  generalize written serde values = ls at hls
  have hlength := (records_of_unlines h hls).2
  by_cases hstart : scan_start (size_of ls) = 0
  · -- the whole file is in the window
    have hwithin : lines_within TAIL_SCAN_BYTES ls = ls.length :=
      lines_within_all (Nat.sub_eq_zero_iff_le.mp hstart)
    refine iff_of_true ?_ (Or.inl hstart)
    by_cases hne : ls = []
    · subst hne
      exact ⟨List.nil_suffix, (Nat.min_zero n).symm⟩
    · rw [tail_of_short h hls hne hstart, hwithin, length_last_records, hlength]
      exact ⟨last_records_suffix _ _, rfl⟩
  · -- the window is smaller than the file, so its size is known
    have hpositive := Nat.pos_of_ne_zero hstart
    have hsize : size_of ls = scan_start (size_of ls) + TAIL_SCAN_BYTES := by
      unfold scan_start at hpositive ⊢
      omega
    simp only [hstart, false_or]
    by_cases hborder : AtBorder (unlines ls) (scan_start (size_of ls))
    · have hlt : scan_start (size_of ls) < size_of ls := by
        unfold TAIL_SCAN_BYTES at hsize
        omega
      -- the records that are read are those of the lines behind the one the window starts in
      obtain ⟨ls₁, l₁, l₂, ls₂, rfl, hsplit⟩ := exists_split hlt hborder
      have htail := tail_of_split (n := n) h hls hsplit (hsplit ▸ hpositive)
      have hwithin := lines_within_eq (hsize.trans (by rw [hsplit]))
      have hrest := (records_of_unlines h fun l hl =>
        hls l (List.mem_append_right _ (List.mem_cons_of_mem _ hl))).2
      have hsuffix : last_records n (ls₂.filterMap serde.from_str)
          <:+ (ls₁ ++ (l₁ ++ l₂) :: ls₂).filterMap serde.from_str := by
        refine (last_records_suffix _ _).trans (List.IsSuffix.filterMap _ ?_)
        exact ⟨ls₁ ++ [l₁ ++ l₂], by simp⟩
      rw [htail, hwithin, length_last_records, hrest, hsplit, atLineStart_iff,
        and_iff_right hsuffix, and_iff_right (hsplit ▸ hborder)]
      by_cases hnil : l₁ = []
      · simp only [hnil, if_true, forall_true_left]
        omega
      · simp only [hnil, if_false, false_imp_iff, or_true]
    · -- nothing is read, which is right iff there is nothing to read
      rw [tail_of_torn hpositive hborder]
      simp only [List.nil_suffix, true_and, List.length_nil, hborder, false_and, or_false]
      exact eq_comm

/-! ## Files of Booleans -/

def boolean_text (value : Bool) : Text := if value then "true".toList else "false".toList

/-- What `serde_json` does with a Boolean. -/
def booleans : Serde Bool Bool Empty where
  to_string value := .ok (boolean_text value)
  from_str line :=
    if line = boolean_text true then some true
    else if line = boolean_text false then some false else none

theorem booleans_writes_lines : WritesLines booleans := by
  refine ⟨?_, ?_, ?_, ?_⟩ <;> rintro value line ⟨⟩ <;> cases value <;> decide

theorem tail_agrees_booleans : TailAgrees booleans [true, false] 1 := by
  refine (tail_agrees_iff booleans_writes_lines [true, false] 1).mpr (Or.inl ?_)
  decide

/-- Lines that fill the window, after one more line. -/
def full_window : List Bool :=
  [true] ++ true :: (List.replicate 6549 true ++ List.replicate 3 false)

theorem size_of_replicate (k : ℕ) (l : Text) :
    size_of (List.replicate k l) = k * ((encode l).length + 1) := by
  induction k with
  | zero => exact (Nat.zero_mul _).symm
  | succ k ih => rw [List.replicate_succ, size_of_cons, ih, Nat.succ_mul, Nat.add_comm]

theorem written_full_window : written booleans full_window = [boolean_text true]
    ++ ([] ++ boolean_text true) ::
      (List.replicate 6549 (boolean_text true) ++ List.replicate 3 (boolean_text false)) := by
  have hmap : ∀ values, written booleans values = values.map boolean_text :=
    fun values => congrFun (List.filterMap_eq_map (f := boolean_text)) values
  rw [hmap, full_window]
  simp only [List.map_append, List.map_cons, List.map_nil, List.map_replicate, List.nil_append]

theorem size_of_full_window : size_of (written booleans full_window) = 5 + TAIL_SCAN_BYTES := by
  have htrue : (encode (boolean_text true)).length = 4 := by decide
  have hfalse : (encode (boolean_text false)).length = 5 := by decide
  rw [written_full_window, size_of_append, size_of_cons, size_of_cons, size_of_append,
    size_of_replicate, size_of_replicate, List.nil_append, htrue, hfalse]
  rfl

/-- The window holds 6553 whole lines, and one less is read. -/
theorem full_window_missed : lines_within TAIL_SCAN_BYTES (written booleans full_window) = 6553 ∧
    (read_jsonl_tail booleans (append_all booleans full_window) 6553).length = 6552 ∧
    ¬ TailAgrees booleans full_window 6553 := by
  have hsize := size_of_full_window
  have hstart : scan_start (size_of (written booleans full_window)) = 5 := by
    rw [hsize]
    exact Nat.add_sub_cancel 5 TAIL_SCAN_BYTES
  have hwithin : lines_within TAIL_SCAN_BYTES (written booleans full_window) = 6553 := by
    rw [written_full_window] at hsize ⊢
    rw [lines_within_eq hsize, if_pos rfl, List.length_append, List.length_replicate,
      List.length_replicate]
  have hread : (read_jsonl_tail booleans (append_all booleans full_window) 6553).length = 6552 := by
    have hls : ∀ l ∈ written booleans full_window, ∃ value, booleans.to_string value = .ok l :=
      fun l hl => mem_written hl
    rw [append_all_eq]
    rw [written_full_window] at hstart hls ⊢
    rw [tail_of_split booleans_writes_lines hls hstart (Nat.succ_pos 4), length_last_records,
      (records_of_unlines booleans_writes_lines fun l hl =>
        hls l (List.mem_append_right _ (List.mem_cons_of_mem _ hl))).2, List.length_append,
      List.length_replicate, List.length_replicate]
    rfl
  refine ⟨hwithin, hread, fun hagrees => ?_⟩
  have hlength := hagrees.2
  rw [hread, hwithin] at hlength
  exact absurd hlength (by decide)

end OvcaCore.Jsonl

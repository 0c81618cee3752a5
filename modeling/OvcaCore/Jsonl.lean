/-
JSONL files (`ovca-storage/src/jsonl.rs`).

A file is its bytes, or is not there. A record is appended as one line; a file is read by
reading its lines, in full or from a position near its end. `serde_json` is a parameter: what a
value is written as, if it can be written, and what a line is read as, if it can be read. The
locks of the writers, the directory that is made and errors of the file system are left out.
-/
import OvcaCore.Types
import OvcaCore.Lib.Utf8

set_option autoImplicit false

namespace OvcaCore.Jsonl

open OvcaCore.Texts OvcaCore.Utf8

/-- `serde_json::to_string` and `serde_json::from_str`. -/
structure Serde (T U E : Type) where
  to_string : T → Except E Text
  from_str : Text → Option U

variable {T U E : Type}

def append_jsonl (serde : Serde T U E) (file : Option (List UInt8)) (value : T) :
    Except E (Option (List UInt8)) := do
  let line ← serde.to_string value
  return some (file.getD [] ++ encode (line ++ ['\n']))

/-- The records of the lines of a text: blank lines, and lines that cannot be read, are left
out. -/
def records_of (serde : Serde T U E) (text : Text) : List U :=
  ((lines text).filter fun l => !(trim is_whitespace l).isEmpty).filterMap serde.from_str

def read_jsonl (serde : Serde T U E) (file : Option (List UInt8)) : List U :=
  match file.bind decode with
  | none => []
  | some text => records_of serde text

def TAIL_SCAN_BYTES : ℕ := 32768

/-- The position from which the end of a file of some size is read. -/
def scan_start (size : ℕ) : ℕ := size - TAIL_SCAN_BYTES

/-- What is read of a buffer that was read from some position: it begins after the first line
feed, unless the position is the start of the file. -/
def from_line_boundary (start : ℕ) (buf : Text) : Text :=
  if start > 0 then
    match split_once ['\n'] buf with
    | some (_, rest) => rest
    | none => buf
  else buf

/-- `records.into_iter().skip(skip)`, which leaves at most `n` records. -/
def last_records (n : ℕ) (records : List U) : List U :=
  let skip := records.length - n
  records.drop skip

def read_jsonl_tail (serde : Serde T U E) (file : Option (List UInt8)) (n : ℕ) : List U :=
  match file with
  | none => []
  | some bytes =>
    let start := scan_start bytes.length
    -- `read_to_string` leaves the buffer empty when the bytes are not UTF-8
    let buf := (decode (bytes.drop start)).getD []
    last_records n (records_of serde (from_line_boundary start buf))

/-! ## What is written -/

/-- Appends one after the other; a value that cannot be written leaves the file as it is. -/
def append_all (serde : Serde T U E) (values : List T) : Option (List UInt8) :=
  values.foldl (fun file value => (append_jsonl serde file value).toOption.getD file) none

/-- The lines that the values are written as. -/
def written (serde : Serde T U E) (values : List T) : List Text :=
  values.filterMap fun value => (serde.to_string value).toOption

/-- The text of a file of lines. -/
def file_of (ls : List Text) : Option (List UInt8) :=
  if ls = [] then none else some (encode (unlines ls))

/-- What `serde_json` writes is one line that is not blank, and it can be read. -/
structure WritesLines (serde : Serde T U E) : Prop where
  newline : ∀ value line, serde.to_string value = .ok line → '\n' ∉ line
  carriage_return : ∀ value line, serde.to_string value = .ok line → line.getLast? ≠ some '\r'
  not_blank : ∀ value line, serde.to_string value = .ok line → ∃ c ∈ line, is_whitespace c = false
  readable : ∀ value line, serde.to_string value = .ok line →
    (serde.from_str line).isSome = true

variable {serde : Serde T U E}

theorem append_jsonl_eq {value : T} {line : Text} (h : serde.to_string value = .ok line)
    (ls : List Text) : append_jsonl serde (file_of ls) value = .ok (file_of (ls ++ [line])) := by
  have hbytes : (file_of ls).getD [] = encode (unlines ls) := by
    unfold file_of
    by_cases hls : ls = []
    · rw [if_pos hls, hls]
      rfl
    · rw [if_neg hls, Option.getD_some]
  have hfile : file_of (ls ++ [line]) = some (encode (unlines (ls ++ [line]))) :=
    if_neg (List.append_ne_nil_of_right_ne_nil _ (List.cons_ne_nil _ _))
  unfold append_jsonl
  rw [h, hfile, hbytes, unlines_append, encode_append, unlines_cons]
  rfl

/-- **What a file holds after any appends.** -/
theorem append_all_eq (values : List T) :
    append_all serde values = file_of (written serde values) := by
  induction values using List.reverseRecOn with
  | nil => rfl
  | append_singleton values value ih =>
    have hsnoc : append_all serde (values ++ [value])
        = (append_jsonl serde (append_all serde values) value).toOption.getD
          (append_all serde values) := by
      unfold append_all
      rw [List.foldl_append]
      rfl
    have hwritten : written serde (values ++ [value])
        = written serde values ++ (serde.to_string value).toOption.toList := by
      unfold written
      rw [List.filterMap_append, List.filterMap_cons]
      cases (serde.to_string value).toOption <;> rfl
    rw [hsnoc, ih, hwritten]
    cases hline : serde.to_string value with
    | error e =>
      have herror : append_jsonl serde (file_of (written serde values)) value = .error e := by
        unfold append_jsonl
        rw [hline]
        rfl
      rw [herror]
      exact congrArg file_of (List.append_nil _).symm
    | ok line =>
      rw [append_jsonl_eq hline]
      rfl

theorem mem_written {values : List T} {line : Text} (h : line ∈ written serde values) :
    ∃ value, serde.to_string value = .ok line := by
  obtain ⟨value, -, hline⟩ := List.mem_filterMap.mp h
  refine ⟨value, ?_⟩
  cases htext : serde.to_string value with
  | error e =>
    rw [htext] at hline
    exact nomatch hline
  | ok text =>
    rw [htext] at hline
    rw [Option.some.inj hline]

/-! ## What is read -/

theorem from_line_boundary_start (buf : Text) : from_line_boundary 0 buf = buf := rfl

theorem from_line_boundary_append {start : ℕ} (hstart : 0 < start) {l rest : Text}
    (hl : '\n' ∉ l) : from_line_boundary start (l ++ '\n' :: rest) = rest := by
  unfold from_line_boundary
  rw [if_pos hstart, split_once_append hl]

theorem length_last_records (n : ℕ) (records : List U) :
    (last_records n records).length = min n records.length := by
  unfold last_records
  rw [List.length_drop]
  omega

theorem last_records_suffix (n : ℕ) (records : List U) : last_records n records <:+ records :=
  List.drop_suffix _ _

/-- The lines of a text of lines, when none has a line break in it. -/
theorem lines_unlines {ls : List Text} (hnewline : ∀ l ∈ ls, '\n' ∉ l)
    (hreturn : ∀ l ∈ ls, l.getLast? ≠ some '\r') : lines (unlines ls) = ls := by
  unfold lines
  induction ls with
  | nil => rfl
  | cons l ls ih =>
    rw [List.forall_mem_cons] at hnewline hreturn
    obtain ⟨first, rest, hsplit⟩ := List.exists_cons_of_ne_nil
      (List.splitOn_ne_nil '\n' (unlines ls))
    have hparts : (unlines (l :: ls)).splitOn '\n' = l :: (unlines ls).splitOn '\n' := by
      rw [unlines_cons, splitOn_append hnewline.1, List.splitOn_cons_eq_if_modifyHead,
        if_pos (by simp)]
      simp
    rw [hparts, hsplit, lines_of, ← hsplit, ih hnewline.2 hreturn.2, strip_carriage_return,
      if_neg hreturn.1]

/-- **The records of a text of written lines:** one a line. -/
theorem records_of_unlines {ls : List Text} (h : WritesLines serde)
    (hls : ∀ l ∈ ls, ∃ value, serde.to_string value = .ok l) :
    records_of serde (unlines ls) = ls.filterMap serde.from_str
      ∧ (ls.filterMap serde.from_str).length = ls.length := by
  have hlines : lines (unlines ls) = ls := by
    refine lines_unlines (fun l hl => ?_) fun l hl => ?_
    · obtain ⟨value, hvalue⟩ := hls l hl
      exact h.newline value l hvalue
    · obtain ⟨value, hvalue⟩ := hls l hl
      exact h.carriage_return value l hvalue
  have hkept : (ls.filter fun l => !(trim is_whitespace l).isEmpty) = ls := by
    refine List.filter_eq_self.mpr fun l hl => ?_
    obtain ⟨value, hvalue⟩ := hls l hl
    obtain ⟨c, hc, hsolid⟩ := h.not_blank value l hvalue
    rw [Bool.not_eq_true', List.isEmpty_eq_false_iff]
    intro hblank
    rw [trim_eq_nil.mp hblank c hc] at hsolid
    exact nomatch hsolid
  refine ⟨by rw [records_of, hlines, hkept], ?_⟩
  rw [List.length_filterMap_eq_countP, List.countP_eq_length]
  intro l hl
  obtain ⟨value, hvalue⟩ := hls l hl
  exact h.readable value l hvalue

end OvcaCore.Jsonl

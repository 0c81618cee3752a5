/-
Texts as lists of characters, with the operations that line-based formats are read with:
trimming, the first occurrence of a separator, and the lines of a text.

What counts as white space is a parameter.
-/
import Mathlib.Data.List.Chain
import Mathlib.Data.List.DropRight
import Mathlib.Tactic.Common

set_option autoImplicit false

namespace OvcaCore.Texts

/-- A text as its characters. -/
abbrev Text := List Char

/-! ## Deciding

What holds of the characters of a text is decided along the text, never by going through every
character there is. -/

section Deciding

variable (p : Char → Prop) [DecidablePred p]

instance (priority := 2000) decidable_forall_mem_text (s : Text) : Decidable (∀ c ∈ s, p c) :=
  List.decidableBAll p s

instance (priority := 2000) decidable_exists_mem_text (s : Text) : Decidable (∃ c ∈ s, p c) :=
  List.decidableBEx p s

instance (priority := 2000) decidable_forall_mem_char (c? : Option Char) :
    Decidable (∀ c ∈ c?, p c) :=
  Option.decidableForallMem c?

end Deciding

/-! ## Trimming -/

section Trim

variable {ws : Char → Bool} {s t : Text}

def trim_start (ws : Char → Bool) (s : Text) : Text := s.dropWhile ws

def trim_end (ws : Char → Bool) (s : Text) : Text := s.rdropWhile ws

def trim (ws : Char → Bool) (s : Text) : Text := trim_end ws (trim_start ws s)

theorem trim_start_append_blank (h : ∀ c ∈ s, ws c = true) :
    trim_start ws (s ++ t) = trim_start ws t := by
  unfold trim_start
  exact List.dropWhile_append_of_pos h

theorem trim_end_append_blank (h : ∀ c ∈ t, ws c = true) :
    trim_end ws (s ++ t) = trim_end ws s := by
  unfold trim_end List.rdropWhile
  rw [List.reverse_append, List.dropWhile_append_of_pos]
  intro c hc
  exact h c (List.mem_reverse.mp hc)

theorem length_trim_start_le : (trim_start ws s).length ≤ s.length :=
  (List.dropWhile_sublist ws).length_le

theorem length_trim_end_le : (trim_end ws s).length ≤ s.length :=
  (List.rdropWhile_prefix ws s).length_le

/-- A text that trimming leaves alone has nothing to trim at its start, -/
theorem trim_start_of_trimmed (h : trim ws s = s) : trim_start ws s = s := by
  have hlength := congrArg List.length h
  have hend := @length_trim_end_le ws (trim_start ws s)
  unfold trim at hlength
  exact (List.dropWhile_sublist ws).eq_of_length_le (by unfold trim_start at *; omega)

/-- and nothing at its end. -/
theorem trim_end_of_trimmed (h : trim ws s = s) : trim_end ws s = s := by
  have hstart := trim_start_of_trimmed h
  unfold trim at h
  rwa [hstart] at h

theorem trim_of_ends (hstart : trim_start ws s = s) (hend : trim_end ws s = s) :
    trim ws s = s := by
  unfold trim
  rw [hstart, hend]

theorem trim_nil : trim ws [] = [] := rfl

/-- The first character that trimming keeps guards all that follows it. -/
theorem trim_start_cons {c : Char} (h : ws c = false) : trim_start ws (c :: s) = c :: s := by
  unfold trim_start
  rw [List.dropWhile_cons_of_neg (by rw [h]; exact Bool.false_ne_true)]

theorem trim_start_cons_blank {c : Char} (h : ws c = true) :
    trim_start ws (c :: s) = trim_start ws s := by
  unfold trim_start
  rw [List.dropWhile_cons_of_pos h]

theorem head_of_trim_start {c : Char} (h : trim_start ws (c :: s) = c :: s) : ws c = false := by
  rw [← Bool.not_eq_true]
  intro hc
  rw [trim_start_cons_blank hc] at h
  have hlength := congrArg List.length h
  have hle := @length_trim_start_le ws s
  rw [List.length_cons] at hlength
  omega

theorem trim_start_append (hne : s ≠ []) (h : trim_start ws s = s) :
    trim_start ws (s ++ t) = s ++ t := by
  obtain ⟨c, s, rfl⟩ := List.exists_cons_of_ne_nil hne
  rw [List.cons_append, trim_start_cons (head_of_trim_start h)]

theorem trim_end_append (hne : t ≠ []) (h : trim_end ws t = t) :
    trim_end ws (s ++ t) = s ++ t := by
  unfold trim_end at h ⊢
  rw [List.rdropWhile_eq_self_iff] at h ⊢
  intro hl
  rw [List.getLast_append_of_right_ne_nil _ _ hne]
  exact h hne

theorem trim_end_of_append (hne : t ≠ []) (h : trim_end ws (s ++ t) = s ++ t) :
    trim_end ws t = t := by
  unfold trim_end at h ⊢
  rw [List.rdropWhile_eq_self_iff] at h ⊢
  intro hl
  have hlast := h (List.append_ne_nil_of_right_ne_nil _ hne)
  rwa [List.getLast_append_of_right_ne_nil _ _ hne] at hlast

/-- Trimming leaves nothing of a blank text only. -/
theorem trim_eq_nil : trim ws s = [] ↔ ∀ c ∈ s, ws c = true := by
  unfold trim trim_end trim_start
  rw [List.rdropWhile_eq_nil_iff]
  constructor
  · intro h c hc
    rw [← List.takeWhile_append_dropWhile (p := ws) (l := s), List.mem_append] at hc
    rcases hc with hc | hc
    · exact List.mem_takeWhile_imp hc
    · exact h c hc
  · intro h c hc
    exact h c ((List.dropWhile_sublist ws).mem hc)

/-- What is left of a text after trimming has nothing left to trim. -/
theorem trim_trim : trim ws (trim ws s) = trim ws s := by
  have hend : trim_end ws (trim ws s) = trim ws s := List.rdropWhile_idempotent ws _
  refine trim_of_ends ?_ hend
  by_cases hne : trim ws s = []
  · rw [hne]
    rfl
  -- trimming at the end leaves the first kept character in place
  obtain ⟨rest, hrest⟩ := List.rdropWhile_prefix ws (trim_start ws s)
  have hsplit : trim ws s ++ rest = trim_start ws s := hrest
  obtain ⟨c, u, hcons⟩ := List.exists_cons_of_ne_nil hne
  have hidem : trim_start ws (trim_start ws s) = trim_start ws s := List.dropWhile_idempotent ws s
  rw [← hsplit, hcons, List.cons_append] at hidem
  rw [hcons, trim_start_cons (head_of_trim_start hidem)]

/-- What trimming leaves before a character that is kept. -/
theorem trim_end_append_cons {c : Char} (h : ws c = false) :
    trim_end ws (s ++ c :: t) = s ++ c :: trim_end ws t := by
  have hc : ¬ ws c = true := by
    rw [h]
    exact Bool.false_ne_true
  unfold trim_end
  induction t using List.reverseRecOn with
  | nil => rw [List.rdropWhile_concat_neg _ _ _ hc, List.rdropWhile_nil]
  | append_singleton t d ih =>
    have hassoc : s ++ c :: (t ++ [d]) = (s ++ c :: t) ++ [d] := by simp
    rw [hassoc, List.rdropWhile_concat, List.rdropWhile_concat]
    split_ifs
    · exact ih
    · exact hassoc.symm

/-- The two ends are trimmed in either order. -/
theorem trim_start_trim_end : trim_start ws (trim_end ws s) = trim ws s := by
  have hsplit : s.takeWhile ws ++ trim_start ws s = s := List.takeWhile_append_dropWhile
  have hblank : ∀ c ∈ s.takeWhile ws, ws c = true := fun c hc => List.mem_takeWhile_imp hc
  have hidem : trim_start ws (trim_start ws s) = trim_start ws s := List.dropWhile_idempotent ws s
  rcases hkept : trim_start ws s with _ | ⟨c, t⟩
  · rw [hkept, List.append_nil] at hsplit
    have hend : trim_end ws s = [] := by
      rw [hsplit] at hblank
      exact List.rdropWhile_eq_nil_iff.mpr hblank
    rw [hend, trim, hkept]
    rfl
  · rw [hkept] at hsplit hidem
    have hc := head_of_trim_start hidem
    have hend : trim_end ws s = s.takeWhile ws ++ c :: trim_end ws t := by
      rw [← trim_end_append_cons hc, hsplit]
    rw [hend, trim_start_append_blank hblank, trim_start_cons hc, trim, hkept,
      ← List.nil_append (c :: t), trim_end_append_cons hc]
    rfl

theorem trim_trim_end : trim ws (trim_end ws s) = trim ws s := by
  have hend : trim_end ws (trim ws s) = trim ws s := List.rdropWhile_idempotent ws _
  rw [trim, trim_start_trim_end, hend]

end Trim

/-! ## The first occurrence of a separator -/

section SplitOnce

variable {c : Char} {a b s : Text}

/-- The parts of a text before and after the first occurrence of a separator. -/
def split_once (separator : Text) : Text → Option (Text × Text)
  | [] => if separator.isEmpty then some ([], []) else none
  | c :: s =>
    if separator.isPrefixOf (c :: s) then some ([], (c :: s).drop separator.length)
    else (split_once separator s).map fun parts => (c :: parts.1, parts.2)

/-- A separator of one character. -/
theorem split_once_append (h : c ∉ a) : split_once [c] (a ++ c :: b) = some (a, b) := by
  induction a with
  | nil =>
    rw [List.nil_append, split_once, if_pos (by simp)]
    rfl
  | cons d a ih =>
    rw [List.mem_cons, not_or] at h
    rw [List.cons_append, split_once, if_neg (by simp [h.1]), ih h.2]
    rfl

theorem split_once_eq_none : split_once [c] s = none ↔ c ∉ s := by
  induction s with
  | nil => simp [split_once]
  | cons d s ih =>
    rw [split_once, List.mem_cons, not_or]
    by_cases hd : c = d
    · subst hd
      rw [if_pos (by simp)]
      simp
    · rw [if_neg (by simp [hd]), Option.map_eq_none_iff, ih]
      exact ⟨fun hs => ⟨hd, hs⟩, fun hs => hs.2⟩

variable {newline : Char} {marker line : Text}

/-- A marker at the start of a line does not begin inside a line. -/
theorem split_once_line (h : newline ∉ line) :
    split_once (newline :: marker) (line ++ newline :: s) =
      if marker.isPrefixOf s then some (line, s.drop marker.length)
      else (split_once (newline :: marker) s).map fun parts => (line ++ newline :: parts.1, parts.2) := by
  induction line with
  | nil =>
    rw [List.nil_append, split_once]
    simp only [List.isPrefixOf_cons_cons, beq_self_eq_true, Bool.true_and, List.length_cons,
      List.drop_succ_cons, List.nil_append]
  | cons d line ih =>
    rw [List.mem_cons, not_or] at h
    rw [List.cons_append, split_once, if_neg (by simp [h.1]), ih h.2]
    by_cases hmarker : marker.isPrefixOf s = true
    · rw [if_pos hmarker, if_pos hmarker]
      rfl
    · rw [if_neg hmarker, if_neg hmarker, Option.map_map]
      rfl

end SplitOnce

/-! ## Lines -/

section Lines

variable {l : Text} {ls : List Text} {s : Text}

/-- A line without the carriage return before its line feed. -/
def strip_carriage_return (line : Text) : Text :=
  if line.getLast? = some '\r' then line.dropLast else line

/-- The last part is a line only when it is not empty, and keeps its carriage return. -/
def lines_of : List Text → List Text
  | [] => []
  | [last] => if last.isEmpty then [] else [last]
  | line :: next :: rest => strip_carriage_return line :: lines_of (next :: rest)

def lines (s : Text) : List Text := lines_of (s.splitOn '\n')

/-- Every `\r\n` becomes `\n`. -/
def replace_crlf : Text → Text
  | [] => []
  | [c] => [c]
  | c :: d :: s =>
    if c = '\r' ∧ d = '\n' then '\n' :: replace_crlf s else c :: replace_crlf (d :: s)

/-- Lines joined by line feeds. -/
def join (ls : List Text) : Text := ['\n'].intercalate ls

theorem join_singleton : join [l] = l := List.intercalate_singleton

theorem join_cons (hne : ls ≠ []) : join (l :: ls) = l ++ '\n' :: join ls := by
  unfold join
  rw [List.intercalate_cons_of_ne_nil hne]
  simp

theorem splitOn_join (hne : ls ≠ []) (h : ∀ l ∈ ls, '\n' ∉ l) : (join ls).splitOn '\n' = ls :=
  List.splitOn_intercalate '\n' h hne

theorem lines_join (hne : ls ≠ []) (h : ∀ l ∈ ls, '\n' ∉ l) : lines (join ls) = lines_of ls := by
  unfold lines
  rw [splitOn_join hne h]

/-- Lines that end in no carriage return, the last of them not empty, are read as they are. -/
theorem lines_of_eq_self (h : ∀ l ∈ ls, l.getLast? ≠ some '\r') (hlast : ls.getLast? ≠ some []) :
    lines_of ls = ls := by
  induction ls with
  | nil => rfl
  | cons line rest ih =>
    cases rest with
    | nil =>
      unfold lines_of
      rw [if_neg]
      intro hempty
      exact hlast (by rw [List.getLast?_singleton, List.isEmpty_iff.mp hempty])
    | cons next rest =>
      rw [List.getLast?_cons_cons] at hlast
      have hline : strip_carriage_return line = line := if_neg (h line List.mem_cons_self)
      unfold lines_of
      rw [hline, ih (fun l hl => h l (List.mem_cons_of_mem _ hl)) hlast]

theorem replace_crlf_line (h : '\n' ∉ l) :
    replace_crlf (l ++ '\n' :: s) = strip_carriage_return l ++ '\n' :: replace_crlf s := by
  induction l with
  | nil =>
    rw [List.nil_append]
    cases s with
    | nil => rfl
    | cons c s =>
      rw [replace_crlf, if_neg (fun hc => absurd hc.1 (by decide))]
      rfl
  | cons c l ih =>
    rw [List.mem_cons, not_or] at h
    have ih := ih h.2
    cases l with
    | nil =>
      rw [List.cons_append, List.nil_append, replace_crlf]
      by_cases hc : c = '\r'
      · rw [if_pos ⟨hc, rfl⟩, hc]
        rfl
      · rw [if_neg (fun hboth => hc hboth.1)]
        have hline : strip_carriage_return [c] = [c] := by
          unfold strip_carriage_return
          rw [if_neg]
          intro hlast
          exact hc (Option.some.inj hlast)
        rw [hline, List.singleton_append, ← List.nil_append ('\n' :: s), ih]
        rfl
    | cons d l =>
      have hd : d ≠ '\n' := fun hd => h.2 (hd ▸ List.mem_cons_self)
      have hline : strip_carriage_return (c :: d :: l) = c :: strip_carriage_return (d :: l) := by
        unfold strip_carriage_return
        rw [List.getLast?_cons_cons]
        by_cases hlast : (d :: l).getLast? = some '\r'
        · rw [if_pos hlast, if_pos hlast, List.dropLast_cons_cons]
        · rw [if_neg hlast, if_neg hlast]
      rw [List.cons_append, List.cons_append, replace_crlf, if_neg (fun hboth => hd hboth.2), hline,
        List.cons_append, ← List.cons_append, ih]

theorem replace_crlf_concat (h : s.getLast? ≠ some '\r') :
    replace_crlf (s ++ ['\n']) = replace_crlf s ++ ['\n'] := by
  induction s using replace_crlf.induct with
  | case1 => rfl
  | case2 c =>
    have hlone : replace_crlf [c] = [c] := rfl
    rw [hlone, List.singleton_append, replace_crlf, if_neg]
    · rfl
    · intro hboth
      exact h (by rw [List.getLast?_singleton, hboth.1])
  | case3 c d s hboth ih =>
    rw [List.cons_append, List.cons_append, replace_crlf, if_pos hboth, replace_crlf, if_pos hboth,
      List.cons_append]
    cases s with
    | nil => rfl
    | cons e s =>
      rw [ih]
      rwa [List.getLast?_cons_cons, List.getLast?_cons_cons] at h
  | case4 c d s hboth ih =>
    rw [List.getLast?_cons_cons] at h
    rw [List.cons_append, List.cons_append, replace_crlf, if_neg hboth, replace_crlf, if_neg hboth,
      List.cons_append, ← List.cons_append, ih h]

/-- Without line feeds there is nothing to replace. -/
theorem replace_crlf_of_single_line (h : '\n' ∉ s) : replace_crlf s = s := by
  induction s using replace_crlf.induct with
  | case1 => rfl
  | case2 c => rfl
  | case3 c d s hboth ih =>
    exact absurd (List.mem_cons_of_mem c (hboth.2 ▸ List.mem_cons_self)) h
  | case4 c d s hboth ih =>
    rw [List.mem_cons, not_or] at h
    rw [replace_crlf, if_neg hboth, ih h.2]

theorem isPrefixOf_of_head {c : Char} (h : s.head? ≠ some c) (marker : Text) :
    (c :: marker).isPrefixOf s = false := by
  rcases s with _ | ⟨d, s⟩
  · rfl
  · have hc : (c == d) = false := by
      rw [beq_eq_false_iff_ne]
      rintro rfl
      exact h rfl
    exact (congrArg (· && _) hc).trans (Bool.false_and _)

/-- Whether a line starts with a marker shows before its end. -/
theorem isPrefixOf_line {marker : Text} (hmarker : '\n' ∉ marker) :
    marker.isPrefixOf (l ++ '\n' :: s) = marker.isPrefixOf l := by
  induction marker generalizing l with
  | nil => simp
  | cons c marker ih =>
    rw [List.mem_cons, not_or] at hmarker
    cases l with
    | nil =>
      rw [List.nil_append, List.isPrefixOf_cons_cons, beq_eq_false_iff_ne.mpr (Ne.symm hmarker.1)]
      rfl
    | cons d l =>
      rw [List.cons_append, List.isPrefixOf_cons_cons, List.isPrefixOf_cons_cons, ih hmarker.2]

theorem join_append_cons (hne : ls ≠ []) {ls' : List Text} (hne' : ls' ≠ []) :
    join (ls ++ ls') = join ls ++ '\n' :: join ls' := by
  induction ls with
  | nil => exact absurd rfl hne
  | cons line ls ih =>
    by_cases htail : ls = []
    · subst htail
      rw [List.singleton_append, join_cons hne', join_singleton]
    · rw [List.cons_append, join_cons (by simp [htail]), ih htail, join_cons htail,
        List.append_assoc, List.cons_append]

/-- The first line after the first that starts with the marker is found at its line feed. -/
theorem split_once_join {marker : Text} (hmarker : '\n' ∉ marker) (hne : ls ≠ [])
    (h : ∀ l ∈ ls, '\n' ∉ l) (hother : ∀ l ∈ ls.tail, marker.isPrefixOf l = false) :
    split_once ('\n' :: marker) (join ls ++ '\n' :: (marker ++ s)) = some (join ls, s) := by
  induction ls with
  | nil => exact absurd rfl hne
  | cons line ls ih =>
    have hline := h line List.mem_cons_self
    by_cases htail : ls = []
    · subst htail
      rw [join_singleton, split_once_line hline, if_pos (by simp), List.drop_left]
    · obtain ⟨next, rest, rfl⟩ := List.exists_cons_of_ne_nil htail
      have hnext : ¬ marker.isPrefixOf (join (next :: rest) ++ '\n' :: (marker ++ s)) = true := by
        have hfirst := hother next List.mem_cons_self
        rw [Bool.not_eq_true]
        by_cases hrest : rest = []
        · rw [hrest, join_singleton, isPrefixOf_line hmarker, hfirst]
        · rw [join_cons hrest, List.append_assoc, List.cons_append, isPrefixOf_line hmarker, hfirst]
      have ih := ih htail (fun l hl => h l (List.mem_cons_of_mem _ hl))
        (fun l hl => hother l (List.mem_cons_of_mem _ hl))
      rw [join_cons htail, List.append_assoc, List.cons_append, split_once_line hline,
        if_neg hnext, ih]
      rfl

/-- Lines each with its line feed. -/
def unlines (ls : List Text) : Text := ls.flatMap (· ++ ['\n'])

theorem unlines_cons : unlines (l :: ls) = l ++ '\n' :: unlines ls := by
  unfold unlines
  rw [List.flatMap_cons, List.append_assoc]
  rfl

theorem unlines_append (ls ls' : List Text) : unlines (ls ++ ls') = unlines ls ++ unlines ls' :=
  List.flatMap_append

theorem unlines_eq_join (hne : ls ≠ []) : unlines ls = join ls ++ ['\n'] := by
  induction ls with
  | nil => exact absurd rfl hne
  | cons line ls ih =>
    rw [unlines_cons]
    by_cases htail : ls = []
    · subst htail
      rw [join_singleton]
      rfl
    · rw [ih htail, join_cons htail, List.append_assoc, List.cons_append]

/-- In a text of lines, `\r\n` can only stand at the end of a line. -/
theorem replace_crlf_unlines (h : ∀ l ∈ ls, '\n' ∉ l) :
    replace_crlf (unlines ls ++ s) = unlines (ls.map strip_carriage_return) ++ replace_crlf s := by
  induction ls with
  | nil => rfl
  | cons line ls ih =>
    rw [unlines_cons, List.append_assoc, List.cons_append, replace_crlf_line (h line List.mem_cons_self),
      ih (fun l hl => h l (List.mem_cons_of_mem _ hl)), List.map_cons, unlines_cons,
      List.append_assoc, List.cons_append]

/-! ## Texts that may hold several lines -/

theorem newline_not_mem_splitOn : ∀ l ∈ s.splitOn '\n', '\n' ∉ l := by
  induction s with
  | nil => simp
  | cons c s ih =>
    rw [List.splitOn_cons_eq_if_modifyHead]
    split_ifs with hc
    · exact List.forall_mem_cons.mpr ⟨List.not_mem_nil, ih⟩
    · obtain ⟨first, rest, hsplit⟩ := List.exists_cons_of_ne_nil (List.splitOn_ne_nil '\n' s)
      rw [hsplit, List.forall_mem_cons] at ih
      rw [hsplit, List.modifyHead_cons, List.forall_mem_cons, List.mem_cons, not_or]
      refine ⟨⟨fun hnewline => hc ?_, ih.1⟩, ih.2⟩
      rw [hnewline]
      exact beq_self_eq_true c

theorem unlines_splitOn : unlines (s.splitOn '\n') = s ++ ['\n'] := by
  have hjoin : join (s.splitOn '\n') = s := List.intercalate_splitOn '\n'
  rw [unlines_eq_join (List.splitOn_ne_nil '\n' s), hjoin]

/-- A text of several lines is written as these lines. -/
theorem unlines_flatMap_splitOn : unlines (ls.flatMap fun l => l.splitOn '\n') = unlines ls := by
  induction ls with
  | nil => rfl
  | cons line ls ih =>
    rw [List.flatMap_cons, unlines_append, unlines_splitOn, ih, unlines_cons, List.append_assoc]
    rfl

/-- What is put before a text goes before its first line. -/
theorem splitOn_append (h : '\n' ∉ l) :
    (l ++ s).splitOn '\n' = (l ++ (s.splitOn '\n').headD []) :: (s.splitOn '\n').tail := by
  induction l with
  | nil =>
    obtain ⟨first, rest, hsplit⟩ := List.exists_cons_of_ne_nil (List.splitOn_ne_nil '\n' s)
    rw [List.nil_append, List.nil_append, hsplit]
    rfl
  | cons c l ih =>
    rw [List.mem_cons, not_or] at h
    rw [List.cons_append, List.splitOn_cons_eq_if_modifyHead, if_neg (by simpa using Ne.symm h.1),
      ih h.2]
    rfl

theorem strip_carriage_return_cases (line : Text) : strip_carriage_return line = line
    ∨ line = strip_carriage_return line ++ ['\r'] := by
  unfold strip_carriage_return
  split_ifs with h
  · right
    obtain ⟨rest, hrest⟩ := List.getLast?_eq_some_iff.mp h
    rw [hrest, List.dropLast_concat]
  · exact .inl rfl

theorem isPrefixOf_strip {marker : Text} (hmarker : '\r' ∉ marker) (line : Text) :
    marker.isPrefixOf (strip_carriage_return line) = marker.isPrefixOf line := by
  have hconcat : ∀ t : Text, marker.isPrefixOf (t ++ ['\r']) = marker.isPrefixOf t := by
    intro t
    induction marker generalizing t with
    | nil => simp
    | cons c marker ih =>
      rw [List.mem_cons, not_or] at hmarker
      cases t with
      | nil =>
        rw [List.nil_append, List.isPrefixOf_cons_cons, beq_eq_false_iff_ne.mpr (Ne.symm hmarker.1)]
        rfl
      | cons d t =>
        rw [List.cons_append, List.isPrefixOf_cons_cons, List.isPrefixOf_cons_cons, ih hmarker.2]
  rcases strip_carriage_return_cases line with h | h
  · rw [h]
  · conv_rhs => rw [h]
    exact (hconcat _).symm

theorem trim_strip {ws : Char → Bool} (hws : ws '\r' = true) (line : Text) :
    trim ws (strip_carriage_return line) = trim ws line := by
  have hblank : ∀ c ∈ ['\r'], ws c = true := fun c hc => List.mem_singleton.mp hc ▸ hws
  rcases strip_carriage_return_cases line with h | h
  · rw [h]
  · conv_rhs => rw [h]
    rw [← trim_trim_end (s := strip_carriage_return line ++ ['\r']), trim_end_append_blank hblank,
      trim_trim_end]

theorem lines_of_concat (hlast : l ≠ []) :
    lines_of (ls ++ [l]) = ls.map strip_carriage_return ++ [l] := by
  induction ls with
  | nil =>
    rw [List.nil_append, lines_of, if_neg (by simpa using hlast)]
    rfl
  | cons line ls ih =>
    obtain ⟨next, rest, hnext⟩ := List.exists_cons_of_ne_nil (List.concat_ne_nil l ls)
    rw [List.cons_append, hnext, lines_of, ← hnext, ih]
    rfl

/-- A later line that starts with the marker ends the first part before it. -/
theorem split_once_join_marker {marker : Text} (hmarker : '\n' ∉ marker)
    (h : ∀ l ∈ ls, '\n' ∉ l) (hmarked : ∃ l ∈ ls.tail, marker.isPrefixOf l = true) :
    ∃ before after rest, ls = before ++ after ∧ after ≠ [] ∧ before ≠ []
      ∧ split_once ('\n' :: marker) (join ls ++ '\n' :: s) = some (join before, rest) := by
  induction ls with
  | nil =>
    obtain ⟨l, hl, -⟩ := hmarked
    exact absurd hl List.not_mem_nil
  | cons line ls ih =>
    have hline := h line List.mem_cons_self
    obtain ⟨l, hl, hfront⟩ := hmarked
    obtain ⟨next, rest, rfl⟩ := List.exists_cons_of_ne_nil (List.ne_nil_of_mem hl)
    have htext : ∃ t, join (next :: rest) ++ '\n' :: s = next ++ '\n' :: t := by
      by_cases hrest : rest = []
      · exact ⟨s, by rw [hrest, join_singleton]⟩
      · exact ⟨_, by rw [join_cons hrest, List.append_assoc, List.cons_append]⟩
    obtain ⟨t, ht⟩ := htext
    by_cases hnext : marker.isPrefixOf next = true
    · refine ⟨[line], next :: rest, (join (next :: rest) ++ '\n' :: s).drop marker.length, rfl,
        by simp, by simp, ?_⟩
      rw [join_cons (by simp), List.append_assoc, List.cons_append, split_once_line hline, if_pos,
        join_singleton]
      rw [ht, isPrefixOf_line hmarker]
      exact hnext
    · have hmarked : ∃ l ∈ rest, marker.isPrefixOf l = true := by
        rcases List.mem_cons.mp hl with rfl | hl
        · exact absurd hfront hnext
        · exact ⟨l, hl, hfront⟩
      obtain ⟨before, after, tail, hparts, hafter, hbefore, hsplit⟩ :=
        ih (fun l hl => h l (List.mem_cons_of_mem _ hl)) hmarked
      refine ⟨line :: before, after, tail, by rw [hparts]; rfl, hafter, by simp, ?_⟩
      rw [join_cons (by simp), List.append_assoc, List.cons_append, split_once_line hline, if_neg,
        hsplit, join_cons hbefore]
      · rfl
      · rw [ht, isPrefixOf_line hmarker]
        exact hnext

theorem join_injective_length {before after : List Text} (hbefore : before ≠ [])
    (hafter : after ≠ []) : join before ≠ join (before ++ after) := by
  rw [join_append_cons hbefore hafter]
  intro h
  have hlength := congrArg List.length h
  rw [List.length_append, List.length_cons] at hlength
  omega

end Lines

/-! ## Parts of a text -/

section Parts

variable {ws : Char → Bool} {c : Char} {part s t blanks : Text}

/-- A part of two texts around a character is in one of them, or goes over the character. -/
theorem infix_append_cons : part <:+: s ++ c :: t
    ↔ part <:+: s ∨ part <:+: t ∨ ∃ p q, part = p ++ c :: q ∧ p <:+ s ∧ q <+: t := by
  rw [List.infix_append_iff_ne_nil, List.infix_cons_iff]
  constructor
  · rintro (h | (h | h) | ⟨p, q, -, hq, rfl, hp, hfront⟩)
    · exact .inl h
    · rcases List.prefix_cons_iff.mp h with rfl | ⟨q, rfl, hq⟩
      · exact .inl (List.nil_infix)
      · exact .inr (.inr ⟨[], q, rfl, List.nil_suffix, hq⟩)
    · exact .inr (.inl h)
    · rcases List.prefix_cons_iff.mp hfront with rfl | ⟨q, rfl, hrest⟩
      · exact absurd rfl hq
      · exact .inr (.inr ⟨p, q, rfl, hp, hrest⟩)
  · rintro (h | h | ⟨p, q, rfl, hp, hq⟩)
    · exact .inl h
    · exact .inr (.inl (.inr h))
    · by_cases hempty : p = []
      · subst hempty
        exact .inr (.inl (.inl (List.prefix_cons_iff.mpr (.inr ⟨q, rfl, hq⟩))))
      · exact .inr (.inr ⟨p, c :: q, hempty, List.cons_ne_nil _ _, rfl, hp,
          List.prefix_cons_iff.mpr (.inr ⟨q, rfl, hq⟩)⟩)

/-- A text that neither starts nor ends with white space, and has no two blanks in a row. -/
structure Solid (ws : Char → Bool) (s : Text) : Prop where
  non_empty : s ≠ []
  head : ∀ c ∈ s.head?, ws c = false
  last : ∀ c ∈ s.getLast?, ws c = false
  single : List.IsChain (fun a b => ¬ (ws a = true ∧ ws b = true)) s

instance (ws : Char → Bool) (s : Text) : Decidable (Solid ws s) :=
  decidable_of_iff (s ≠ [] ∧ (∀ c ∈ s.head?, ws c = false) ∧ (∀ c ∈ s.getLast?, ws c = false)
      ∧ List.IsChain (fun a b => ¬ (ws a = true ∧ ws b = true)) s)
    ⟨fun ⟨non_empty, head, last, single⟩ => ⟨non_empty, head, last, single⟩,
      fun h => ⟨h.non_empty, h.head, h.last, h.single⟩⟩

/-- White space around a text has no part of it. -/
theorem not_infix_blank (h : Solid ws part) (hblanks : ∀ c ∈ blanks, ws c = true) :
    ¬ part <:+: blanks := by
  intro hinner
  obtain ⟨c, rest, rfl⟩ := List.exists_cons_of_ne_nil h.non_empty
  have hc := h.head c rfl
  rw [hblanks c (hinner.subset List.mem_cons_self)] at hc
  exact Bool.false_ne_true hc.symm

theorem infix_blank_append (h : Solid ws part) (hblanks : ∀ c ∈ blanks, ws c = true) :
    part <:+: blanks ++ s ↔ part <:+: s := by
  refine ⟨fun hinner => ?_, List.infix_append_of_infix_right⟩
  rcases List.infix_append_iff_ne_nil.mp hinner with hpart | hpart | ⟨p, q, hp, -, rfl, hsuffix, -⟩
  · exact absurd hpart (not_infix_blank h hblanks)
  · exact hpart
  · obtain ⟨c, rest, rfl⟩ := List.exists_cons_of_ne_nil hp
    have hc := h.head c rfl
    rw [hblanks c (hsuffix.subset List.mem_cons_self)] at hc
    exact absurd hc.symm Bool.false_ne_true

theorem infix_append_blank (h : Solid ws part) (hblanks : ∀ c ∈ blanks, ws c = true) :
    part <:+: s ++ blanks ↔ part <:+: s := by
  refine ⟨fun hinner => ?_, List.infix_append_of_infix_left⟩
  rcases List.infix_append_iff_ne_nil.mp hinner with hpart | hpart | ⟨p, q, -, hq, rfl, -, hfront⟩
  · exact hpart
  · exact absurd hpart (not_infix_blank h hblanks)
  · have hlast := h.last (q.getLast hq) (by
      rw [List.getLast?_append_of_ne_nil _ hq, List.getLast?_eq_some_getLast hq]
      rfl)
    rw [hblanks _ (hfront.subset (List.getLast_mem hq))] at hlast
    exact absurd hlast.symm Bool.false_ne_true

/-- Before a blank inside such a text there is a character that is kept. -/
theorem Solid.before_blank {p q : Text} (h : Solid ws (p ++ c :: q)) (hc : ws c = true) :
    ∃ hp : p ≠ [], ws (p.getLast hp) = false := by
  have hp : p ≠ [] := by
    rintro rfl
    have hhead := h.head c rfl
    rw [hc] at hhead
    exact Bool.false_ne_true hhead.symm
  refine ⟨hp, ?_⟩
  obtain ⟨init, last, rfl⟩ : ∃ init last, p = init ++ [last] :=
    ⟨p.dropLast, p.getLast hp, (List.dropLast_append_getLast hp).symm⟩
  have hsingle := h.single
  rw [List.append_assoc, List.singleton_append, List.isChain_append_cons_cons] at hsingle
  rw [List.getLast_concat, ← Bool.not_eq_true]
  exact fun hlast => hsingle.2.1 ⟨hlast, hc⟩

/-- A second blank cuts it off from what comes before. -/
theorem infix_two_blanks (h : Solid ws part) (hblanks : ∀ c ∈ blanks, ws c = true)
    (hne : blanks ≠ []) (hc : ws c = true) :
    part <:+: (s ++ blanks) ++ c :: t ↔ part <:+: s ∨ part <:+: t := by
  rw [infix_append_cons, infix_append_blank h hblanks]
  constructor
  · rintro (hpart | hpart | ⟨p, q, rfl, hsuffix, -⟩)
    · exact .inl hpart
    · exact .inr hpart
    · obtain ⟨hp, hlast⟩ := h.before_blank hc
      have hsame : p.getLast hp = blanks.getLast hne := by
        rw [hsuffix.getLast hp, List.getLast_append_of_right_ne_nil _ _ hne]
      rw [hsame, hblanks _ (List.getLast_mem hne)] at hlast
      exact absurd hlast.symm Bool.false_ne_true
  · rintro (hpart | hpart)
    · exact .inl hpart
    · exact .inr (.inl hpart)

end Parts

end OvcaCore.Texts

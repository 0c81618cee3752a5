/-
Logical paths and the names on a disk.

A logical path is the names of its segments with slashes between them, and both ways of
reading it agree: `to_logical` joins names to a path, `segments` splits a path into names,
and on validated paths each inverts the other. A slash is one byte and no other character
has that byte, so a path may be split as text or as bytes.
-/
import OvcaCore.FrozenSnapshot

set_option autoImplicit false

namespace OvcaCore

open OvcaCore.Checks OvcaCore.Texts

namespace Snapshots

/-! ## Slashes -/

theorem as_bytes_eq_encode (p : String) : as_bytes p = Utf8.encode p.toList := by
  unfold as_bytes Utf8.encode
  conv_lhs => rw [← String.ofList_toList (s := p)]
  rw [String.toByteArray_ofList, List.utf8Encode]
  simp

/-- Every byte of a character past ASCII has the highest bit. -/
theorem slash_of_mem_encodeChar {c : Char} (h : (47 : UInt8) ∈ String.utf8EncodeChar c) :
    c = '/' := by
  have hbyte {k : ℕ} (hk : (47 : UInt8) = UInt8.ofNat k) : k % 256 = 47 := by
    have hnat := congrArg UInt8.toNat hk
    rw [UInt8.toNat_ofNat'] at hnat
    exact hnat.symm
  have hval : c.val.toNat = 47 := by
    unfold String.utf8EncodeChar at h
    dsimp only at h
    split_ifs at h with h1 h2 h3
    all_goals simp only [List.mem_cons, List.not_mem_nil, or_false] at h
    · have := hbyte h
      omega
    · rcases h with h | h <;> have := hbyte h <;> omega
    · rcases h with h | h | h <;> have := hbyte h <;> omega
    · rcases h with h | h | h | h <;> have := hbyte h <;> omega
  exact Char.ext (UInt32.toNat_inj.mp hval)

theorem slash_of_mem_encode {s : Text} (h : (47 : UInt8) ∈ Utf8.encode s) : '/' ∈ s := by
  obtain ⟨c, hc, hbyte⟩ := List.mem_flatMap.mp h
  exact slash_of_mem_encodeChar hbyte ▸ hc

theorem slash_mem_encode {s : Text} (h : '/' ∈ s) : (47 : UInt8) ∈ Utf8.encode s :=
  List.mem_flatMap.mpr ⟨'/', h, by decide⟩

theorem not_mem_of_mem_splitOn {α : Type} [BEq α] [LawfulBEq α] {a : α} {s part : List α}
    (h : part ∈ s.splitOn a) : a ∉ part := by
  induction s generalizing part with
  | nil =>
    have hnil : part = [] := by simpa using h
    exact hnil ▸ List.not_mem_nil
  | cons c s ih =>
    rw [List.splitOn_cons_eq_if_modifyHead] at h
    split_ifs at h with hc
    · rcases List.mem_cons.mp h with rfl | h
      · exact List.not_mem_nil
      · exact ih h
    · obtain ⟨first, rest, hsplit⟩ := List.exists_cons_of_ne_nil (List.splitOn_ne_nil a s)
      rw [hsplit] at h ih
      rw [List.modifyHead_cons, List.mem_cons] at h
      rcases h with rfl | h
      · rw [List.mem_cons, not_or]
        exact ⟨fun heq => hc (by rw [heq]; exact beq_self_eq_true c), ih List.mem_cons_self⟩
      · exact ih (List.mem_cons_of_mem first h)

/-- Joining texts with slashes joins their bytes. -/
theorem encode_intercalate (parts : List Text) :
    Utf8.encode (['/'].intercalate parts) = [47].intercalate (parts.map Utf8.encode) := by
  induction parts with
  | nil => rfl
  | cons part parts ih =>
    obtain _ | ⟨next, parts⟩ := parts
    · simp
    · rw [List.intercalate_cons_cons, Utf8.encode_append, Utf8.encode_append, ih, List.map_cons,
        List.map_cons, List.map_cons, List.intercalate_cons_cons]
      rfl

theorem mem_intercalate {α : Type} {x : α} {separator part : List α} {parts : List (List α)}
    (hpart : part ∈ parts) (hx : x ∈ part) : x ∈ separator.intercalate parts := by
  induction parts with
  | nil => exact absurd hpart List.not_mem_nil
  | cons first parts ih =>
    obtain _ | ⟨next, parts⟩ := parts
    · rw [List.intercalate_singleton]
      exact List.mem_singleton.mp hpart ▸ hx
    · rw [List.intercalate_cons_cons]
      rcases List.mem_cons.mp hpart with rfl | hpart
      · exact List.mem_append_left _ (List.mem_append_left _ hx)
      · exact List.mem_append_right _ (ih hpart)

/-- **A path may be split as text or as bytes.** -/
theorem splitOn_as_bytes (p : String) :
    (as_bytes p).splitOn 47 = (p.toList.splitOn '/').map Utf8.encode := by
  have hjoin : ['/'].intercalate (p.toList.splitOn '/') = p.toList := List.intercalate_splitOn '/'
  have hne : (p.toList.splitOn '/').map Utf8.encode ≠ [] := by
    rw [ne_eq, List.map_eq_nil_iff]
    exact List.splitOn_ne_nil '/' p.toList
  have hslash (part : List UInt8) (hpart : part ∈ (p.toList.splitOn '/').map Utf8.encode) :
      (47 : UInt8) ∉ part := by
    obtain ⟨text, htext, rfl⟩ := List.mem_map.mp hpart
    exact fun hmem => not_mem_of_mem_splitOn htext (slash_of_mem_encode hmem)
  have hbytes : as_bytes p = [47].intercalate ((p.toList.splitOn '/').map Utf8.encode) := by
    rw [as_bytes_eq_encode, ← encode_intercalate, hjoin]
  rw [hbytes]
  exact List.splitOn_intercalate 47 hslash hne

/-! ## Names -/

namespace FileName

theorem of_bytes_bytes (name : FileName) : of_bytes name.bytes = some name := by
  unfold of_bytes
  rw [dif_pos name.ordinary]

theorem of_bytes_eq_some {bytes : List UInt8} {name : FileName} :
    of_bytes bytes = some name ↔ name.bytes = bytes := by
  constructor
  · intro h
    unfold of_bytes at h
    split_ifs at h
    exact congrArg FileName.bytes (Option.some.inj h).symm
  · rintro rfl
    exact name.of_bytes_bytes

theorem to_str_eq_some {name : FileName} {text : Text} :
    name.to_str = some text ↔ name.bytes = Utf8.encode text := by
  constructor
  · exact Utf8.encode_of_decode
  · intro h
    unfold to_str
    rw [h, Utf8.decode_encode]

end FileName

/-! ## Paths -/

/-- Every segment of a validated path is an ordinary name. -/
theorem ordinary_of_validated {p : String} (h : LocalVerification.validate_logical_path p = true)
    {part : Text} (hpart : part ∈ p.toList.splitOn '/') :
    ∃ name, FileName.of_bytes (Utf8.encode part) = some name := by
  unfold LocalVerification.validate_logical_path at h
  simp only [Bool.and_eq_true, List.all_eq_true, splitOn_as_bytes] at h
  obtain ⟨⟨-, hbytes⟩, hsegments⟩ := h
  have hsegment := hsegments (Utf8.encode part) (List.mem_map_of_mem hpart)
  have hjoin : ['/'].intercalate (p.toList.splitOn '/') = p.toList := List.intercalate_splitOn '/'
  have hmem {byte : UInt8} (hbyte : byte ∈ Utf8.encode part) : byte ∈ as_bytes p := by
    rw [as_bytes_eq_encode, ← hjoin, encode_intercalate]
    exact mem_intercalate (List.mem_map_of_mem hpart) hbyte
  have hordinary : Utf8.encode part ≠ [] ∧ Utf8.encode part ≠ [46] ∧ Utf8.encode part ≠ [46, 46]
      ∧ 0 ∉ Utf8.encode part ∧ 47 ∉ Utf8.encode part := by
    simp only [Bool.not_eq_true', List.isEmpty_eq_false_iff, bne_iff_ne] at hsegment
    refine ⟨hsegment.1.1, hsegment.1.2, hsegment.2, ?_, ?_⟩
    · intro hbyte
      have hcontrol := hbytes 0 (hmem hbyte)
      simp at hcontrol
    · intro hbyte
      exact not_mem_of_mem_splitOn hpart (slash_of_mem_encode hbyte)
  exact ⟨⟨_, hordinary⟩, FileName.of_bytes_eq_some.mpr rfl⟩

theorem segments_bytes {p : String} (h : LocalVerification.validate_logical_path p = true) :
    (segments p).map FileName.bytes = (p.toList.splitOn '/').map Utf8.encode := by
  have hfilter (parts : List Text)
      (hparts : ∀ part ∈ parts, ∃ name, FileName.of_bytes (Utf8.encode part) = some name) :
      (parts.filterMap fun part => FileName.of_bytes (Utf8.encode part)).map FileName.bytes
        = parts.map Utf8.encode := by
    induction parts with
    | nil => rfl
    | cons part parts ih =>
      obtain ⟨name, hname⟩ := hparts part List.mem_cons_self
      have hrest := ih fun part hpart => hparts part (List.mem_cons_of_mem _ hpart)
      rw [List.filterMap_cons, hname, List.map_cons, List.map_cons, ← hrest,
        FileName.of_bytes_eq_some.mp hname]
  exact hfilter _ fun part hpart => ordinary_of_validated h hpart

theorem segments_ne_nil {p : String} (h : LocalVerification.validate_logical_path p = true) :
    segments p ≠ [] := by
  intro hnil
  have hbytes := segments_bytes h
  rw [hnil, List.map_nil, eq_comm, List.map_eq_nil_iff] at hbytes
  exact List.splitOn_ne_nil '/' p.toList hbytes

theorem mapM_to_str {names : List FileName} {parts : List Text} :
    names.mapM FileName.to_str = some parts ↔ names.map FileName.bytes = parts.map Utf8.encode := by
  have hmaps : names.map FileName.bytes = parts.map Utf8.encode
      ↔ List.Forall₂ Eq (names.map FileName.bytes) (parts.map Utf8.encode) := by
    rw [List.forall₂_eq_eq_eq]
  rw [mapM_eq_some_iff, hmaps, List.forall₂_map_left_iff, List.forall₂_map_right_iff]
  simp only [FileName.to_str_eq_some]

/-- The names of a validated path are joined to it. -/
theorem to_logical_segments {p : String} (h : LocalVerification.validate_logical_path p = true) :
    to_logical (segments p) = some p := by
  have hjoin : ['/'].intercalate (p.toList.splitOn '/') = p.toList := List.intercalate_splitOn '/'
  unfold to_logical
  rw [mapM_to_str.mpr (segments_bytes h), Option.map_some, hjoin, String.ofList_toList]

/-- A joined path is split into the names it was joined from. -/
theorem segments_of_to_logical {names : List FileName} {p : String} (hne : names ≠ [])
    (h : to_logical names = some p) : segments p = names := by
  unfold to_logical at h
  obtain ⟨parts, hparts, rfl⟩ := Option.map_eq_some_iff.mp h
  have hbytes := mapM_to_str.mp hparts
  have hparts_ne : parts ≠ [] := by
    rintro rfl
    rw [List.map_nil, List.map_eq_nil_iff] at hbytes
    exact hne hbytes
  have hslash (part : Text) (hpart : part ∈ parts) : '/' ∉ part := by
    intro hmem
    have hname : Utf8.encode part ∈ names.map FileName.bytes := by
      rw [hbytes]
      exact List.mem_map_of_mem hpart
    obtain ⟨name, -, heq⟩ := List.mem_map.mp hname
    have hbyte := slash_mem_encode hmem
    rw [← heq] at hbyte
    exact name.ordinary.2.2.2.2 hbyte
  have hfilter : (parts.filterMap fun part => FileName.of_bytes (Utf8.encode part)) = names := by
    have hmap : (parts.filterMap fun part => FileName.of_bytes (Utf8.encode part))
        = (parts.map Utf8.encode).filterMap FileName.of_bytes := by
      rw [List.filterMap_map]
      rfl
    rw [hmap, ← hbytes, List.filterMap_map]
    have hsome : FileName.of_bytes ∘ FileName.bytes = some := funext FileName.of_bytes_bytes
    rw [hsome, List.filterMap_some]
  unfold segments
  rw [String.toList_ofList, List.splitOn_intercalate '/' hslash hparts_ne, hfilter]

/-- **Names and paths correspond**, on validated paths. -/
theorem to_logical_eq_some {names : List FileName} {p : String} (hne : names ≠ [])
    (h : LocalVerification.validate_logical_path p = true) :
    to_logical names = some p ↔ segments p = names := by
  constructor
  · exact segments_of_to_logical hne
  · rintro rfl
    exact to_logical_segments h

theorem strip_root_append (root rel : List FileName) :
    strip_root root (root ++ rel) = some rel := by
  unfold strip_root
  rw [if_pos (List.prefix_append root rel), List.drop_left]

end Snapshots

end OvcaCore

import Mathlib
import MutationTesting.Source.Unit

/-!
Lines and columns against offsets. The line of an offset is one more than the newlines before it,
its column one more than the bytes since the last of them. Offsets and places correspond one to one,
in order: every byte has its place, and so has the end of a text whose last line is empty.
-/

namespace MutationTesting

namespace SourceUnit

def newline : UInt8 := 10

def bytes (u : SourceUnit) : List UInt8 := u.text.toUTF8.data.toList

/-- The number of newlines before an offset. -/
def newlinesBefore (u : SourceUnit) (offset : Nat) : Nat := (u.bytes.take offset).count newline

/-- The number of bytes between the last newline before an offset, or the start of the text, and the
offset. -/
def sinceNewline (u : SourceUnit) (offset : Nat) : Nat :=
  ((u.bytes.take offset).rtakeWhile (· != newline)).length

/-- The offsets that are places: those of the bytes, and the end of a text whose last line is
empty. -/
def IsPlace (u : SourceUnit) (offset : Nat) : Prop :=
  offset < u.size ∨ offset = u.size ∧ (u.bytes = [] ∨ u.bytes.getLast? = some newline)

/-! ### The bytes of a text -/

theorem length_bytes (u : SourceUnit) : u.bytes.length = u.size := Array.length_toList

theorem bytes_eq_flatMap (u : SourceUnit) :
    u.bytes = u.text.toList.flatMap String.utf8EncodeChar := by
  have h : u.text.toByteArray = u.text.toList.utf8Encode := by
    rw [← String.toByteArray_ofList, String.ofList_toList]
  rw [bytes, String.toUTF8, h, List.utf8Encode, List.data_toByteArray]

/-- Only a newline is written with a byte that is one. -/
theorem newline_notMem_utf8EncodeChar {c : Char} (h : c ≠ '\n') :
    newline ∉ String.utf8EncodeChar c := by
  have hc : c.val.toNat ≠ 10 := fun hval => h (Char.ext (UInt32.toNat_inj.mp hval))
  have hnewline : newline.toNat = 10 := rfl
  simp only [String.utf8EncodeChar]
  split_ifs
  all_goals
    simp only [List.mem_cons, List.not_mem_nil, or_false, ← UInt8.toNat_inj, UInt8.toNat_ofNat',
      hnewline]
    omega

theorem getElem?_lineStartsFrom_iff (offset : Nat) (chars : List Char) (index start : Nat) :
    (lineStartsFrom offset chars)[index]? = some start ↔
      ∃ before, start = offset + before + 1 ∧
        (chars.flatMap String.utf8EncodeChar)[before]? = some newline ∧
        ((chars.flatMap String.utf8EncodeChar).take before).count newline = index := by
  induction chars generalizing offset index with
  | nil => simp [lineStartsFrom]
  | cons c rest ih =>
      rw [List.flatMap_cons]
      by_cases hc : c = '\n'
      · subst hc
        have hbyte : String.utf8EncodeChar '\n' = [newline] := by decide
        rw [lineStartsFrom, if_pos rfl, hbyte, List.singleton_append]
        cases index with
        | zero =>
            rw [List.getElem?_cons_zero, Option.some.injEq]
            constructor
            · rintro rfl
              exact ⟨0, rfl, rfl, rfl⟩
            · rintro ⟨before, rfl, -, hcount⟩
              cases before with
              | zero => rfl
              | succ before => simp at hcount
        | succ index =>
            rw [List.getElem?_cons_succ, ih]
            constructor
            · rintro ⟨before, rfl, hbefore, hcount⟩
              refine ⟨before + 1, by omega, hbefore, ?_⟩
              rw [List.take_succ_cons, List.count_cons_self, hcount]
            · rintro ⟨before, rfl, hbefore, hcount⟩
              cases before with
              | zero => simp at hcount
              | succ before =>
                  rw [List.take_succ_cons, List.count_cons_self] at hcount
                  exact ⟨before, by omega, hbefore, by omega⟩
      · have hnone := newline_notMem_utf8EncodeChar hc
        rw [lineStartsFrom, if_neg hc, ih, ← String.length_utf8EncodeChar]
        constructor
        · rintro ⟨before, rfl, hbefore, hcount⟩
          refine ⟨(String.utf8EncodeChar c).length + before, by omega, ?_, ?_⟩
          · rw [List.getElem?_append_right (by omega), Nat.add_sub_cancel_left, hbefore]
          · rw [List.take_length_add_append, List.count_append,
              List.count_eq_zero_of_not_mem hnone, hcount, Nat.zero_add]
        · rintro ⟨before, rfl, hbefore, hcount⟩
          have hle : (String.utf8EncodeChar c).length ≤ before := by
            by_contra hlt
            rw [List.getElem?_append_left (by omega)] at hbefore
            exact hnone (List.mem_of_getElem? hbefore)
          obtain ⟨more, rfl⟩ := Nat.exists_eq_add_of_le hle
          rw [List.getElem?_append_right (by omega), Nat.add_sub_cancel_left] at hbefore
          rw [List.take_length_add_append, List.count_append,
            List.count_eq_zero_of_not_mem hnone, Nat.zero_add] at hcount
          exact ⟨more, by omega, hbefore, hcount⟩

/-! ### Walking over the bytes -/

variable {u : SourceUnit} {offset line start : Nat}

theorem newlinesBefore_mono {a b : Nat} (h : a ≤ b) : u.newlinesBefore a ≤ u.newlinesBefore b :=
  (List.take_sublist_take_left h).count_le newline

theorem newlinesBefore_succ {byte : UInt8} (h : u.bytes[offset]? = some byte) :
    u.newlinesBefore (offset + 1) =
      u.newlinesBefore offset + if byte = newline then 1 else 0 := by
  rw [newlinesBefore, List.take_add_one, h, Option.toList_some, List.count_append,
    List.count_singleton, newlinesBefore]
  simp only [beq_iff_eq]

theorem sinceNewline_succ {byte : UInt8} (h : u.bytes[offset]? = some byte) :
    u.sinceNewline (offset + 1) = if byte = newline then 0 else u.sinceNewline offset + 1 := by
  rw [sinceNewline, List.take_add_one, h, Option.toList_some, List.rtakeWhile_concat, sinceNewline]
  by_cases hbyte : byte = newline <;> simp [hbyte]

theorem sinceNewline_le (u : SourceUnit) (offset : Nat) : u.sinceNewline offset ≤ offset := by
  rw [sinceNewline, List.rtakeWhile, List.length_reverse]
  exact ((List.takeWhile_sublist _).length_le.trans_eq List.length_reverse).trans
    (List.length_take_le _ _)

theorem newlinesBefore_zero (u : SourceUnit) : u.newlinesBefore 0 = 0 := rfl

theorem sinceNewline_zero (u : SourceUnit) : u.sinceNewline 0 = 0 := rfl

/-- No byte follows the last newline at the start of the text and right after a newline. -/
theorem sinceNewline_eq_zero_iff (h : offset ≤ u.size) :
    u.sinceNewline offset = 0 ↔
      offset = 0 ∨ ∃ before, offset = before + 1 ∧ u.bytes[before]? = some newline := by
  cases offset with
  | zero => simp [sinceNewline_zero]
  | succ before =>
      have hbyte : before < u.bytes.length := by rw [length_bytes]; omega
      rw [sinceNewline_succ (List.getElem?_eq_getElem hbyte)]
      simp [List.getElem?_eq_getElem hbyte]

theorem sinceNewline_size_iff (u : SourceUnit) :
    u.sinceNewline u.size = 0 ↔ u.bytes = [] ∨ u.bytes.getLast? = some newline := by
  rw [sinceNewline_eq_zero_iff le_rfl, ← length_bytes, List.length_eq_zero_iff,
    List.getLast?_eq_getElem?]
  refine or_congr_right ⟨?_, fun h => ?_⟩
  · rintro ⟨before, hlength, h⟩
    rwa [hlength, Nat.add_sub_cancel]
  · have hlt : u.bytes.length - 1 < u.bytes.length := (List.getElem?_eq_some_iff.mp h).1
    exact ⟨u.bytes.length - 1, by omega, h⟩

/-- Lines begin where no byte follows the last newline. -/
theorem getElem?_lineStarts_iff (u : SourceUnit) (line start : Nat) :
    (lineStarts u.text)[line]? = some start ↔
      start ≤ u.size ∧ u.newlinesBefore start = line ∧ u.sinceNewline start = 0 := by
  have hline : ∀ before, u.bytes[before]? = some newline →
      u.newlinesBefore (before + 1) = u.newlinesBefore before + 1 := fun before h => by
    rw [newlinesBefore_succ h, if_pos rfl]
  cases line with
  | zero =>
      rw [lineStarts, List.getElem?_cons_zero, Option.some.injEq]
      constructor
      · rintro rfl
        exact ⟨Nat.zero_le _, u.newlinesBefore_zero, u.sinceNewline_zero⟩
      · rintro ⟨hsize, hnone, hstart⟩
        rcases (sinceNewline_eq_zero_iff hsize).mp hstart with rfl | ⟨before, rfl, hbyte⟩
        · rfl
        · rw [hline before hbyte] at hnone
          cases hnone
  | succ line =>
      rw [lineStarts, List.getElem?_cons_succ, getElem?_lineStartsFrom_iff, ← bytes_eq_flatMap]
      constructor
      · rintro ⟨before, rfl, hbyte, hcount⟩
        have hsize := (List.getElem?_eq_some_iff.mp hbyte).1
        rw [length_bytes] at hsize
        rw [Nat.zero_add]
        refine ⟨hsize, ?_, (sinceNewline_eq_zero_iff hsize).mpr (.inr ⟨before, rfl, hbyte⟩)⟩
        rw [hline before hbyte, newlinesBefore, hcount]
      · rintro ⟨hsize, hcount, hstart⟩
        rcases (sinceNewline_eq_zero_iff hsize).mp hstart with rfl | ⟨before, rfl, hbyte⟩
        · cases hcount
        · rw [hline before hbyte] at hcount
          exact ⟨before, by omega, hbyte, Nat.succ.inj hcount⟩

/-- The line of an offset begins as many bytes before it as follow the last newline. -/
theorem lineStart_of_le (h : offset ≤ u.size) :
    (lineStarts u.text)[u.newlinesBefore offset]? = some (offset - u.sinceNewline offset) := by
  induction offset with
  | zero => rfl
  | succ offset ih =>
      have hbyte : offset < u.bytes.length := by rw [length_bytes]; omega
      rw [newlinesBefore_succ (List.getElem?_eq_getElem hbyte),
        sinceNewline_succ (List.getElem?_eq_getElem hbyte)]
      by_cases hnewline : u.bytes[offset] = newline
      · rw [if_pos hnewline, if_pos hnewline, Nat.sub_zero, getElem?_lineStarts_iff,
          newlinesBefore_succ (List.getElem?_eq_getElem hbyte),
          sinceNewline_succ (List.getElem?_eq_getElem hbyte), if_pos hnewline, if_pos hnewline]
        exact ⟨h, rfl, rfl⟩
      · rw [if_neg hnewline, if_neg hnewline, Nat.add_zero, Nat.add_sub_add_right]
        exact ih (by omega)

/-- Only offsets before its start are on earlier lines than a line. -/
theorem newlinesBefore_lt_iff (hstart : (lineStarts u.text)[line]? = some start)
    (h : offset ≤ u.size) : u.newlinesBefore offset < line ↔ offset < start := by
  obtain ⟨-, rfl, -⟩ := (getElem?_lineStarts_iff u line start).mp hstart
  refine ⟨fun hlt => ?_, fun hlt => ?_⟩
  · by_contra hle
    exact absurd hlt (newlinesBefore_mono (Nat.le_of_not_lt hle)).not_gt
  · refine lt_of_le_of_ne (newlinesBefore_mono hlt.le) fun heq => ?_
    -- a line begins only once
    have hsame := lineStart_of_le h
    rw [heq, hstart, Option.some.injEq] at hsame
    have := u.sinceNewline_le offset
    omega

/-! ### Places -/

/-- An offset is the one of a line and a column, both counted from one. -/
structure IsAt (u : SourceUnit) (line column offset : Nat) : Prop where
  place : u.IsPlace offset
  line : u.newlinesBefore offset + 1 = line
  column : u.sinceNewline offset + 1 = column

theorem IsPlace.le_size (h : u.IsPlace offset) : offset ≤ u.size := by
  rcases h with hlt | ⟨rfl, -⟩
  · exact hlt.le
  · exact le_rfl

/-- The offsets of a line are those from its start on that its end admits. -/
theorem admitted_iff (hstart : (lineStarts u.text)[line]? = some start) (hle : start ≤ offset) :
    (offset < ((lineStarts u.text)[line + 1]?).getD u.size ∨
        offset = start ∧ start = ((lineStarts u.text)[line + 1]?).getD u.size) ↔
      u.IsPlace offset ∧ u.newlinesBefore offset = line := by
  obtain ⟨hsize, hline, hsince⟩ := (getElem?_lineStarts_iff u line start).mp hstart
  have hbefore : line ≤ u.newlinesBefore offset := hline ▸ newlinesBefore_mono hle
  cases hnext : (lineStarts u.text)[line + 1]? with
  | some stop =>
      obtain ⟨hstop, hlast, -⟩ := (getElem?_lineStarts_iff u (line + 1) stop).mp hnext
      rw [Option.getD_some]
      constructor
      · rintro (hlt | ⟨rfl, rfl⟩)
        · have := (newlinesBefore_lt_iff hnext (hlt.le.trans hstop)).mpr hlt
          exact ⟨.inl (hlt.trans_le hstop), by omega⟩
        · omega
      · rintro ⟨hplace, hoffset⟩
        exact .inl ((newlinesBefore_lt_iff hnext hplace.le_size).mp (by omega))
  | none =>
      rw [Option.getD_none]
      -- there is no later line for an offset to be on
      have hlast : offset ≤ u.size → u.newlinesBefore offset = line := fun h => by
        have hlength := (List.getElem?_eq_some_iff.mp (lineStart_of_le h)).1
        have hend := List.getElem?_eq_none_iff.mp hnext
        omega
      constructor
      · rintro (hlt | ⟨rfl, heq⟩)
        · exact ⟨.inl hlt, hlast hlt.le⟩
        · exact ⟨.inr ⟨heq, u.sinceNewline_size_iff.mp (heq ▸ hsince)⟩, hlast hsize⟩
      · rintro ⟨hlt | ⟨rfl, hend⟩, hoffset⟩
        · exact .inl hlt
        · have hsame := lineStart_of_le (u := u) le_rfl
          rw [hoffset, hstart, u.sinceNewline_size_iff.mpr hend, Option.some.injEq] at hsame
          exact .inr ⟨hsame.symm, hsame⟩

theorem offset_zero (u : SourceUnit) (column : Nat) : u.offset 0 column = none := rfl

theorem offset_column_zero (u : SourceUnit) (line : Nat) : u.offset line 0 = u.offset line 1 := by
  cases line <;> rfl

/-- The offset of a line and a column is the one that is there, with column 0 as column 1. -/
theorem offset_eq_some_iff (u : SourceUnit) (line column offset : Nat) :
    u.offset line column = some offset ↔ u.IsAt line (max column 1) offset := by
  cases line with
  | zero => exact iff_of_false (by simp [offset_zero]) fun h => Nat.succ_ne_zero _ h.line
  | succ line =>
      rw [SourceUnit.offset]
      cases hstart : (lineStarts u.text)[line]? with
      | none =>
          refine iff_of_false (by simp) fun h => ?_
          have hsome := lineStart_of_le h.place.le_size
          rw [Nat.succ.inj h.line, hstart] at hsome
          cases hsome
      | some start =>
          simp only [Option.ite_none_right_eq_some, Option.some.injEq]
          constructor
          · rintro ⟨hadmitted, rfl⟩
            obtain ⟨hplace, hline⟩ := (admitted_iff hstart (Nat.le_add_right _ _)).mp hadmitted
            have hsame := lineStart_of_le hplace.le_size
            rw [hline, hstart, Option.some.injEq] at hsame
            have := u.sinceNewline_le (start + (column - 1))
            exact ⟨hplace, by rw [hline], by omega⟩
          · intro h
            have hsame := lineStart_of_le h.place.le_size
            rw [Nat.succ.inj h.line, hstart, Option.some.injEq] at hsame
            have := u.sinceNewline_le offset
            have hcolumn := h.column
            have hoffset : start + (column - 1) = offset := by omega
            rw [hoffset]
            exact ⟨(admitted_iff hstart (by omega)).mpr ⟨h.place, Nat.succ.inj h.line⟩, rfl⟩

/-- Later places have later offsets. -/
theorem IsAt.lt_of_lt {line' column column' offset' : Nat} (h : u.IsAt line column offset)
    (h' : u.IsAt line' column' offset') (hlt : line < line' ∨ line = line' ∧ column < column') :
    offset < offset' := by
  have hline := h.line
  have hline' := h'.line
  by_contra hle
  have hmono := newlinesBefore_mono (u := u) (Nat.le_of_not_lt hle)
  rcases hlt with hlt | ⟨rfl, hlt⟩
  · omega
  · -- both are that many bytes behind the start of the one line
    have hstart := lineStart_of_le h.place.le_size
    have hstart' := lineStart_of_le h'.place.le_size
    have hsame : u.newlinesBefore offset = u.newlinesBefore offset' := by omega
    rw [hsame, hstart', Option.some.injEq] at hstart
    have hcolumn := h.column
    have hcolumn' := h'.column
    have := u.sinceNewline_le offset
    have := u.sinceNewline_le offset'
    omega

/-- The place of an offset is the only one. -/
theorem IsAt.eq {line' column column' : Nat} (h : u.IsAt line column offset)
    (h' : u.IsAt line' column' offset) : line = line' ∧ column = column' :=
  ⟨h.line.symm.trans h'.line, h.column.symm.trans h'.column⟩

theorem isAt_iff {column : Nat} (hline : 1 ≤ line) (hcolumn : 1 ≤ column) :
    u.IsAt line column offset ↔
      u.IsPlace offset ∧ u.newlinesBefore offset = line - 1 ∧
        u.sinceNewline offset = column - 1 := by
  constructor
  · intro h
    have := h.line
    have := h.column
    exact ⟨h.place, by omega, by omega⟩
  · rintro ⟨hplace, hbefore, hsince⟩
    exact ⟨hplace, by omega, by omega⟩

/-! ### Lines and columns that are words -/

theorem one_le_toNat {word : UInt32} (h : 1 ≤ word) : 1 ≤ word.toNat := UInt32.le_iff_toNat_le.mp h

theorem offset_toNat_iff (u : SourceUnit) (line : UInt32) {column : UInt32} (hcolumn : 1 ≤ column)
    (offset : Nat) : u.offset line.toNat column.toNat = some offset ↔
      u.IsAt line.toNat column.toNat offset := by
  rw [u.offset_eq_some_iff, max_eq_left (one_le_toNat hcolumn)]

/-- Lines and columns of a text that is short enough, counted from one, fit a word. -/
theorem exists_word {n : Nat} (hsize : u.size < 2 ^ 32 - 1) (hn : n ≤ u.size) :
    ∃ word : UInt32, 1 ≤ word ∧ word.toNat = n + 1 := by
  have hword : (UInt32.ofNat (n + 1)).toNat = n + 1 :=
    UInt32.toNat_ofNat_of_lt' (by rw [UInt32.size]; omega)
  refine ⟨.ofNat (n + 1), UInt32.le_iff_toNat_le.mpr ?_, hword⟩
  rw [hword]
  exact Nat.succ_le_succ (Nat.zero_le n)

/-- In such a text the place of each offset is given by words. -/
theorem IsPlace.exists_words (h : u.IsPlace offset) (hsize : u.size < 2 ^ 32 - 1) :
    ∃ line column : UInt32, 1 ≤ line ∧ 1 ≤ column ∧ u.IsAt line.toNat column.toNat offset := by
  have hnewlines : u.newlinesBefore offset ≤ offset :=
    List.count_le_length.trans (List.length_take_le _ _)
  obtain ⟨line, hline, hlineNat⟩ := exists_word hsize (hnewlines.trans h.le_size)
  obtain ⟨column, hcolumn, hcolumnNat⟩ :=
    exists_word hsize ((u.sinceNewline_le offset).trans h.le_size)
  exact ⟨line, column, hline, hcolumn, h, hlineNat.symm, hcolumnNat.symm⟩

/-- **Offsets and places.** On the lines and columns that are words, both counted from one, the
offset is a bijection onto the offsets of bytes, together with the end of a text that is empty or
ends with a newline. Before an offset there are as many newlines as there are lines before its own,
and since the last of them as many bytes as there are columns before its own; lines and columns of
which this is true for no such offset have none. Column 0 is column 1, line 0 has no offset, and
offsets grow with the line and then with the column. -/
theorem offset_bijOn (u : SourceUnit) (hsize : u.size < 2 ^ 32 - 1) :
    let place : UInt32 × UInt32 → Option Nat := fun p => u.offset p.1.toNat p.2.toNat
    Set.BijOn place {p | 1 ≤ p.1 ∧ 1 ≤ p.2 ∧ (place p).isSome = true}
        (some '' {offset | offset < u.size ∨
          offset = u.size ∧ (u.bytes = [] ∨ u.bytes.getLast? = some newline)}) ∧
      (∀ line column, 1 ≤ line → 1 ≤ column → ∀ offset,
        place (line, column) = some offset ↔
          u.IsPlace offset ∧ u.newlinesBefore offset = line.toNat - 1 ∧
            u.sinceNewline offset = column.toNat - 1) ∧
      (∀ line, place (line, 0) = place (line, 1)) ∧
      (∀ column, place (0, column) = none) ∧
      (∀ line column line' column' offset offset', 1 ≤ column → 1 ≤ column' →
        place (line, column) = some offset → place (line', column') = some offset' →
        (line < line' ∨ line = line' ∧ column < column') → offset < offset') := by
  intro place
  have hat : ∀ line column offset, 1 ≤ column →
      (place (line, column) = some offset ↔ u.IsAt line.toNat column.toNat offset) :=
    fun line _ offset hcolumn => u.offset_toNat_iff line hcolumn offset
  refine ⟨⟨?_, ?_, ?_⟩, ?_, ?_, ?_, ?_⟩
  · rintro ⟨line, column⟩ ⟨-, hcolumn, hsome⟩
    obtain ⟨offset, hoffset⟩ := Option.isSome_iff_exists.mp hsome
    exact ⟨offset, ((hat line column offset hcolumn).mp hoffset).place, hoffset.symm⟩
  · rintro ⟨line, column⟩ ⟨-, hcolumn, hsome⟩ ⟨line', column'⟩ ⟨-, hcolumn', -⟩ hsame
    obtain ⟨offset, hoffset⟩ := Option.isSome_iff_exists.mp hsome
    obtain ⟨hline, hcolumnEq⟩ := ((hat line column offset hcolumn).mp hoffset).eq
      ((hat line' column' offset hcolumn').mp (hsame.symm.trans hoffset))
    exact Prod.ext (UInt32.toNat_inj.mp hline) (UInt32.toNat_inj.mp hcolumnEq)
  · rintro _ ⟨offset, hplace, rfl⟩
    obtain ⟨line, column, hline, hcolumn, h⟩ := IsPlace.exists_words hplace hsize
    have hoffset := (hat line column offset hcolumn).mpr h
    exact ⟨(line, column), ⟨hline, hcolumn, Option.isSome_of_eq_some hoffset⟩, hoffset⟩
  · intro line column hline hcolumn offset
    rw [hat line column offset hcolumn, isAt_iff (one_le_toNat hline) (one_le_toNat hcolumn)]
  · exact fun line => u.offset_column_zero line.toNat
  · exact fun column => u.offset_zero column.toNat
  · intro line column line' column' offset offset' hcolumn hcolumn' h h' hlt
    refine ((hat line column offset hcolumn).mp h).lt_of_lt
      ((hat line' column' offset' hcolumn').mp h') ?_
    rcases hlt with hlt | ⟨rfl, hlt⟩
    · exact .inl (UInt32.lt_iff_toNat_lt.mp hlt)
    · exact .inr ⟨rfl, UInt32.lt_iff_toNat_lt.mp hlt⟩

/-- A line with a letter of two bytes, and an empty one after it. -/
def accented : SourceUnit := ⟨⟨"a.c"⟩, [], "é\n", default⟩

/-- The text ends with a place, on its second line; the newline before it is the third byte. -/
theorem accented_offset_bijOn :
    accented.size < 2 ^ 32 - 1 ∧ accented.offset 1 3 = some 2 ∧ accented.offset 2 1 = some 3 ∧
      accented.offset 1 4 = none := by
  have hsize : accented.size = 3 := by decide +kernel
  have hbytes : accented.bytes = [0xc3, 0xa9, 0x0a] := by decide +kernel
  have hsmall : accented.size < 2 ^ 32 - 1 := by rw [hsize]; decide
  obtain ⟨-, hplace, -⟩ := offset_bijOn accented hsmall
  refine ⟨hsmall, ?_, ?_, ?_⟩
  · refine (hplace 1 3 (by decide) (by decide) 2).mpr ⟨.inl (by rw [hsize]; decide), ?_, ?_⟩
    · rw [newlinesBefore, hbytes]
      decide
    · rw [sinceNewline, hbytes]
      decide
  · refine (hplace 2 1 (by decide) (by decide) 3).mpr
      ⟨.inr ⟨hsize.symm, .inr (by rw [hbytes]; decide)⟩, ?_, ?_⟩
    · rw [newlinesBefore, hbytes]
      decide
    · rw [sinceNewline, hbytes]
      decide
  · refine Option.eq_none_iff_forall_ne_some.mpr fun offset h => ?_
    obtain ⟨hoffset, hnone, hsince⟩ := (hplace 1 4 (by decide) (by decide) offset).mp h
    have hle := hsize ▸ hoffset.le_size
    have hge := hsince ▸ accented.sinceNewline_le offset
    obtain rfl : offset = 3 := hle.antisymm hge
    rw [newlinesBefore, hbytes] at hnone
    exact absurd hnone (by decide)

end SourceUnit

end MutationTesting

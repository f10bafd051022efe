import MutationTesting.Json.Reader
import MutationTesting.Json.Writer

/-!
Strings and whole numbers as JSON text. Reading takes back what writing gives and leaves the text
that follows: after a string any text, after a number one that does not go on with a digit, a point
or an exponent.
-/

namespace MutationTesting.Json

/-! ### Strings -/

/-- How a character comes back: as a unit if it is escaped by its number. -/
def pieceOf (c : Char) : Piece :=
  if c.toNat < 0x20 ∧ c ≠ '\x08' ∧ c ≠ '\x0c' ∧ c ≠ '\n' ∧ c ≠ '\r' ∧ c ≠ '\t' then .unit c.toNat
  else .char c

theorem hexValue?_hexDigit : ∀ n < 16, hexValue? (hexDigit n) = some n := by decide

theorem pieces_plain {c : Char} (hquote : c ≠ '"') (hslash : c ≠ '\\') (hlow : ¬c.toNat < 0x20)
    (text : List Char) :
    pieces (c :: text) = (pieces text).map fun (ps, r) => (.char c :: ps, r) := by
  rw [pieces.eq_def]
  split
  · simp_all
  · simp_all
  · simp_all
  · simp_all
  · rename_i heq
    obtain ⟨rfl, rfl⟩ := List.cons.inj heq
    rw [if_neg fun h => h.elim hslash hlow]

theorem pieces_escape (c : Char) (text : List Char) :
    pieces (escape c ++ text) = (pieces text).map fun (ps, r) => (pieceOf c :: ps, r) := by
  unfold escape
  -- the quote, the backslash and the control characters that a letter stands for
  iterate 7
    split
    · subst c
      rfl
  split
  · rename_i hquote hslash hb hf hn hr ht hlow
    have hzero : hexValue? '0' = some 0 := by decide
    have hhigh := hexValue?_hexDigit (c.toNat / 16) (by omega)
    have hdigit := hexValue?_hexDigit (c.toNat % 16) (by omega)
    have hvalue : ((0 * 16 + 0) * 16 + c.toNat / 16) * 16 + c.toNat % 16 = c.toNat := by omega
    have hunit : pieceOf c = .unit c.toNat := if_pos ⟨hlow, hb, hf, hn, hr, ht⟩
    simp only [List.cons_append, List.nil_append]
    rw [pieces]
    simp only [hzero, hhigh, hdigit, hvalue, hunit]
  · rename_i hquote hslash hb hf hn hr ht hlow
    have hchar : pieceOf c = .char c := if_neg fun h => hlow h.1
    rw [List.singleton_append, pieces_plain hquote hslash hlow, hchar]

theorem pieces_quoted (s text : List Char) :
    pieces (s.flatMap escape ++ '"' :: text) = some (s.map pieceOf, text) := by
  induction s with
  | nil => rfl
  | cons c s ih =>
      rw [List.flatMap_cons, List.append_assoc, pieces_escape, ih]
      rfl

theorem assemble_unit {n : Nat} (hn : n < 0xD800) (rest : List Piece) :
    assemble (.unit n :: rest) = (assemble rest).map (Char.ofNat n :: ·) := by
  have hhigh : isHighSurrogate n = false := by
    simp only [isHighSurrogate, Bool.and_eq_false_iff, decide_eq_false_iff_not]
    omega
  have hlow : isLowSurrogate n = false := by
    simp only [isLowSurrogate, Bool.and_eq_false_iff, decide_eq_false_iff_not]
    omega
  rw [assemble.eq_def]
  split
  · simp_all
  · simp_all
  · simp_all
  · simp_all

theorem assemble_pieceOf (s : List Char) : assemble (s.map pieceOf) = some s := by
  induction s with
  | nil => rfl
  | cons c s ih =>
      rw [List.map_cons]
      by_cases h : c.toNat < 0x20 ∧ c ≠ '\x08' ∧ c ≠ '\x0c' ∧ c ≠ '\n' ∧ c ≠ '\r' ∧ c ≠ '\t'
      · have hunit : pieceOf c = .unit c.toNat := if_pos h
        have hbound : c.toNat < 0xD800 := by omega
        rw [hunit, assemble_unit hbound, ih, Char.ofNat_toNat]
        rfl
      · have hchar : pieceOf c = .char c := if_neg h
        rw [hchar, assemble, ih]
        rfl

/-! ### Whole numbers -/

/-- A text that does not go on with what a number may contain. -/
def EndsNumber (text : List Char) : Prop :=
  ∀ c ∈ text.head?, c.isDigit = false ∧ c ≠ '.' ∧ c ≠ 'e' ∧ c ≠ 'E'

theorem isDigit_of_mem_natChars {n : Nat} {c : Char} (h : c ∈ natChars n) : c.isDigit = true :=
  Nat.isDigit_of_mem_toDigits (by decide) (by decide) h

theorem natChars_ne_nil (n : Nat) : natChars n ≠ [] := Nat.toDigits_ne_nil

theorem digitChar_eq_zero : ∀ n < 10, n.digitChar = '0' → n = 0 := by decide

/-- Only zero is written with a leading zero. -/
theorem head?_natChars {n : Nat} (h : (natChars n).head? = some '0') : n = 0 := by
  induction n using Nat.strongRecOn with
  | ind n ih =>
      by_cases hn : n < 10
      · rw [natChars, Nat.toDigits_of_lt_base hn, List.head?_cons, Option.some.injEq] at h
        exact digitChar_eq_zero n hn h
      · have hsplit : natChars n = natChars (n / 10) ++ [(n % 10).digitChar] :=
          Nat.toDigits_of_base_le (by decide) (by omega)
        have hfirst : (natChars (n / 10)).head? = some '0' := by
          rw [hsplit, List.head?_append] at h
          cases hd : natChars (n / 10) with
          | nil => exact absurd hd (natChars_ne_nil _)
          | cons c digits => simpa [hd] using h
        have hzero := ih (n / 10) (by omega) hfirst
        omega

theorem length_natChars_of_lt {n : Nat} (h : n < 10) : (natChars n).length = 1 := by
  rw [natChars, Nat.toDigits_of_lt_base h]
  rfl

theorem le_ofDigitChars (digits : List Char) (n : Nat) : n ≤ Nat.ofDigitChars 10 digits n := by
  induction digits generalizing n with
  | nil => exact Nat.le_of_eq Nat.ofDigitChars_nil.symm
  | cons c digits ih =>
      rw [Nat.ofDigitChars_cons]
      exact Nat.le_trans (by omega) (ih _)

/-- Digits of a number that fits are absorbed to the last. -/
theorem absorb_eq {digits : List Char} {n : Nat} (h : Nat.ofDigitChars 10 digits n < UInt64.size) :
    absorb n digits = (Nat.ofDigitChars 10 digits n, []) := by
  induction digits generalizing n with
  | nil => rw [absorb, Nat.ofDigitChars_nil]
  | cons c digits ih =>
      rw [Nat.ofDigitChars_cons] at h ⊢
      have hnext : n * 10 + digitValue c = 10 * n + (c.toNat - '0'.toNat) := by
        rw [digitValue, Nat.mul_comm]
      have hfits : 10 * n + (c.toNat - '0'.toNat) < UInt64.size :=
        Nat.lt_of_le_of_lt (le_ofDigitChars digits _) h
      rw [absorb]
      simp only [hnext, if_pos hfits]
      exact ih h

theorem absorb_natChars {n : Nat} (h : n < UInt64.size) : absorb 0 (natChars n) = (n, []) := by
  have hvalue : Nat.ofDigitChars 10 (natChars n) 0 = n := Nat.ofDigitChars_ten_toDigits
  rw [absorb_eq (by rwa [hvalue]), hvalue]

theorem EndsNumber.takeWhile {text : List Char} (h : EndsNumber text) (n : Nat) :
    (natChars n ++ text).takeWhile Char.isDigit = natChars n := by
  rw [List.takeWhile_append_of_pos fun c hc => isDigit_of_mem_natChars hc]
  cases text with
  | nil => rw [List.takeWhile_nil, List.append_nil]
  | cons c text =>
      have hc := (h c rfl).1
      rw [List.takeWhile_cons_of_neg (by simp [hc]), List.append_nil]

theorem EndsNumber.dropWhile {text : List Char} (h : EndsNumber text) (n : Nat) :
    (natChars n ++ text).dropWhile Char.isDigit = text := by
  rw [List.dropWhile_append_of_pos fun c hc => isDigit_of_mem_natChars hc]
  cases text with
  | nil => rfl
  | cons c text =>
      have hc := (h c rfl).1
      rw [List.dropWhile_cons_of_neg (by simp [hc])]

/-- A number whose digits fit is whole, whatever its sign. -/
theorem number_natChars {n : Nat} (hn : n < UInt64.size) {text : List Char} (h : EndsNumber text)
    (negative : Bool) : number negative (natChars n ++ text) = (number.whole negative n, text) := by
  have hplain : ((natChars n).isEmpty ||
      ((natChars n).head? = some '0' && 1 < (natChars n).length)) = false := by
    rw [Bool.or_eq_false_iff, List.isEmpty_eq_false_iff]
    refine ⟨natChars_ne_nil n, ?_⟩
    rw [Bool.and_eq_false_iff]
    by_cases hhead : (natChars n).head? = some '0'
    · have hlength := length_natChars_of_lt (n := n) (by rw [head?_natChars hhead]; decide)
      exact Or.inr (by simp [hlength])
    · exact Or.inl (by simp [hhead])
  rw [number]
  simp only [h.takeWhile, h.dropWhile, hplain, absorb_natChars hn, Bool.false_eq_true, if_false]
  cases text with
  | nil => rfl
  | cons c text =>
      obtain ⟨-, hpoint, hsmall, hlarge⟩ := h c rfl
      split
      · rename_i heq
        exact absurd (List.cons.inj heq).1 hpoint
      · rename_i heq
        obtain ⟨rfl, rfl⟩ := List.cons.inj heq
        rw [if_neg]
        simp [hsmall, hlarge]
      · rename_i heq
        cases heq

theorem number_of_nat {n : Nat} (hn : n < UInt64.size) {text : List Char} (h : EndsNumber text) :
    number false (natChars n ++ text) = (.integer n, text) :=
  number_natChars hn h false

theorem number_of_negative {n : Nat} (hpos : 0 < n) (hn : n ≤ 9223372036854775808)
    {text : List Char} (h : EndsNumber text) :
    number true (natChars n ++ text) = (.integer (-n), text) := by
  have hfits : n < UInt64.size := Nat.lt_of_le_of_lt hn (by decide)
  have hsigned : ¬(n = 0 ∨ 9223372036854775808 < n) := by omega
  rw [number_natChars hfits h true, number.whole, if_pos rfl, if_neg hsigned]

end MutationTesting.Json

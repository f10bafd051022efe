import MutationTesting.Proofs.Json.Scalar

/-!
Documents as JSON text. A value that text denotes exactly is read back from its compact form, and
nothing of the text that follows is touched. The supply of steps is no matter here: a reader that
has two for every character does not run out.
-/

namespace MutationTesting.Json

/-- A value that its text denotes: whole numbers fit 64 bits, signed or unsigned, and no part is a
double or no value at all. -/
inductive Exact : Json → Prop where
  | null : Exact .null
  | bool (b : Bool) : Exact (.bool b)
  | integer {i : Int} (low : -9223372036854775808 ≤ i) (high : i < UInt64.size) : Exact (.integer i)
  | string (s : String) : Exact (.string s)
  | array {elements : List Json} (all : ∀ v ∈ elements, Exact v) : Exact (.array elements)
  | object {members : List (String × Json)} (all : ∀ m ∈ members, Exact m.2) :
      Exact (.object members)

theorem skipBlanks_cons {c : Char} (h : isBlank c = false) (text : List Char) :
    skipBlanks (c :: text) = c :: text :=
  List.dropWhile_cons_of_neg (by simp [h])

theorem isBlank_eq_false_of_isDigit {c : Char} (h : c.isDigit = true) : isBlank c = false := by
  have hne : ∀ d : Char, d.isDigit = false → c ≠ d := by
    rintro d hd rfl
    rw [h] at hd
    cases hd
  simp [isBlank, hne]

/-- Neither a blank nor a closing bracket starts a value. -/
theorem Exact.chars_cons {v : Json} (h : Exact v) :
    ∃ c text, v.chars = c :: text ∧ isBlank c = false ∧ c ≠ ']' := by
  cases h with
  | null => exact ⟨'n', ['u', 'l', 'l'], rfl, rfl, by decide⟩
  | bool b =>
      cases b with
      | true => exact ⟨'t', ['r', 'u', 'e'], rfl, rfl, by decide⟩
      | false => exact ⟨'f', ['a', 'l', 's', 'e'], rfl, rfl, by decide⟩
  | @integer i =>
      cases i with
      | ofNat n =>
          cases hdigits : natChars n with
          | nil => exact absurd hdigits (natChars_ne_nil n)
          | cons c digits =>
              have hc := isDigit_of_mem_natChars (n := n) (hdigits ▸ List.mem_cons_self)
              refine ⟨c, digits, hdigits, isBlank_eq_false_of_isDigit hc, ?_⟩
              rintro rfl
              cases hc
      | negSucc n => exact ⟨'-', natChars (n + 1), rfl, rfl, by decide⟩
  | string s => exact ⟨'"', s.toList.flatMap escape ++ ['"'], rfl, rfl, by decide⟩
  | @array elements => exact ⟨'[', elementChars elements ++ [']'], rfl, rfl, by decide⟩
  | @object members => exact ⟨'{', memberChars members ++ ['}'], rfl, rfl, by decide⟩

/-- What a reader with enough steps makes of the text of a value. -/
def ReadsBack (v : Json) : Prop :=
  ∀ fuel text, EndsNumber text → 2 * v.chars.length ≤ fuel →
    readValue fuel (v.chars ++ text) = (v, text)

theorem endsNumber_cons {c : Char} {text : List Char}
    (h : c.isDigit = false ∧ c ≠ '.' ∧ c ≠ 'e' ∧ c ≠ 'E') : EndsNumber (c :: text) := by
  intro d hd
  rw [List.head?_cons, Option.mem_some_iff] at hd
  rw [← hd]
  exact h

theorem elementTailChars_cons (v : Json) (rest : List Json) :
    elementTailChars (v :: rest) = ',' :: elementChars (v :: rest) := by
  rw [elementTailChars, elementChars, List.cons_append]

theorem memberTailChars_cons (m : String × Json) (rest : List (String × Json)) :
    memberTailChars (m :: rest) = ',' :: memberChars (m :: rest) := by
  obtain ⟨key, v⟩ := m
  rw [memberTailChars, memberChars]
  simp only [List.cons_append]

theorem readElements_elementChars {elements : List Json} (hne : elements ≠ [])
    (hall : ∀ v ∈ elements, ReadsBack v) (fuel : Nat) (text : List Char)
    (hfuel : 2 * (elementChars elements).length + 1 ≤ fuel) :
    readElements fuel (elementChars elements ++ ']' :: text) = (elements, text) := by
  induction elements generalizing fuel with
  | nil => exact absurd rfl hne
  | cons v rest ih =>
      obtain ⟨fuel, rfl⟩ : ∃ n, fuel = n + 1 := ⟨fuel - 1, by omega⟩
      have hv := hall v List.mem_cons_self
      rw [elementChars, List.length_append] at hfuel
      cases rest with
      | nil =>
          have hread := hv fuel (']' :: text) (endsNumber_cons (by decide)) (by omega)
          rw [elementChars, elementTailChars, List.append_nil, readElements, hread]
          rfl
      | cons w rest =>
          rw [elementTailChars_cons, List.length_cons] at hfuel
          have hread := hv fuel (',' :: (elementChars (w :: rest) ++ ']' :: text))
            (endsNumber_cons (by decide)) (by omega)
          have hrest := ih (List.cons_ne_nil w rest)
            (fun u hu => hall u (List.mem_cons_of_mem v hu)) fuel (by omega)
          rw [elementChars, elementTailChars_cons, List.append_assoc, List.cons_append,
            readElements, hread]
          simp only [skipBlanks_cons (show isBlank ',' = false from rfl), hrest]

theorem quoteChars_append (s text : List Char) :
    quoteChars s ++ text = '"' :: (s.flatMap escape ++ '"' :: text) := by
  rw [quoteChars, List.append_assoc, List.cons_append, List.singleton_append]

/-- A member that is not the last one. -/
theorem readMembers_next {fuel : Nat} {key : String} {v : Json} {members : List (String × Json)}
    {text rest after : List Char} (hv : readValue fuel text = (v, ',' :: rest))
    (hrest : readMembers fuel rest = (members, after)) :
    readMembers (fuel + 1) (quoteChars key.toList ++ ':' :: text) =
      ((key, v) :: members, after) := by
  rw [quoteChars_append, readMembers, skipBlanks_cons rfl]
  simp only [pieces_quoted, assemble_pieceOf, skipBlanks_cons (show isBlank ':' = false from rfl),
    skipBlanks_cons (show isBlank ',' = false from rfl), hv, hrest, String.ofList_toList]

theorem readMembers_last {fuel : Nat} {key : String} {v : Json} {text after : List Char}
    (hv : readValue fuel text = (v, '}' :: after)) :
    readMembers (fuel + 1) (quoteChars key.toList ++ ':' :: text) = ([(key, v)], after) := by
  rw [quoteChars_append, readMembers, skipBlanks_cons rfl]
  simp only [pieces_quoted, assemble_pieceOf, skipBlanks_cons (show isBlank ':' = false from rfl),
    skipBlanks_cons (show isBlank '}' = false from rfl), hv, String.ofList_toList]

theorem readMembers_memberChars {members : List (String × Json)} (hne : members ≠ [])
    (hall : ∀ m ∈ members, ReadsBack m.2) (fuel : Nat) (text : List Char)
    (hfuel : 2 * (memberChars members).length + 1 ≤ fuel) :
    readMembers fuel (memberChars members ++ '}' :: text) = (members, text) := by
  induction members generalizing fuel with
  | nil => exact absurd rfl hne
  | cons m rest ih =>
      obtain ⟨key, v⟩ := m
      obtain ⟨fuel, rfl⟩ : ∃ n, fuel = n + 1 := ⟨fuel - 1, by omega⟩
      have hv : ReadsBack v := hall (key, v) List.mem_cons_self
      simp only [memberChars, List.length_append, List.length_cons] at hfuel
      cases rest with
      | nil =>
          have hread := hv fuel ('}' :: text) (endsNumber_cons (by decide)) (by omega)
          rw [memberChars, memberTailChars, List.append_nil, List.append_assoc, List.cons_append]
          exact readMembers_last hread
      | cons m rest =>
          rw [memberTailChars_cons, List.length_cons] at hfuel
          have hread := hv fuel (',' :: (memberChars (m :: rest) ++ '}' :: text))
            (endsNumber_cons (by decide)) (by omega)
          have hrest := ih (List.cons_ne_nil m rest)
            (fun u hu => hall u (List.mem_cons_of_mem (key, v) hu)) fuel (by omega)
          rw [memberChars, memberTailChars_cons, List.append_assoc, List.append_assoc,
            List.cons_append, List.cons_append]
          exact readMembers_next hread hrest

theorem readValue_digit {c : Char} (h : c.isDigit = true) (fuel : Nat) (text : List Char) :
    readValue (fuel + 1) (c :: text) = number false (c :: text) := by
  have hne : ∀ d : Char, d.isDigit = false → c ≠ d := by
    rintro d hd rfl
    rw [h] at hd
    cases hd
  rw [readValue, skipBlanks_cons (isBlank_eq_false_of_isDigit h)]
  split
  · rename_i heq
    cases heq
  all_goals
    rename_i heq
    obtain ⟨rfl, rfl⟩ := List.cons.inj heq
    first
      | exact absurd h (by decide)
      | rw [if_pos h]

theorem readValue_bracket {c : Char} (hblank : isBlank c = false) (hne : c ≠ ']') (fuel : Nat)
    (text : List Char) :
    readValue (fuel + 1) ('[' :: c :: text) =
      (.array (readElements fuel (c :: text)).1, (readElements fuel (c :: text)).2) := by
  rw [readValue, skipBlanks_cons rfl]
  simp only [skipBlanks_cons hblank]
  split
  · rename_i heq
    exact absurd (List.cons.inj heq).1 hne
  · rfl

theorem readValue_brace (fuel : Nat) (text : List Char) :
    readValue (fuel + 1) ('{' :: '"' :: text) =
      (.object (readMembers fuel ('"' :: text)).1, (readMembers fuel ('"' :: text)).2) := by
  rw [readValue, skipBlanks_cons rfl]
  simp only [skipBlanks_cons (show isBlank '"' = false from rfl)]
  rfl

/-- **Reading takes back what writing gives.** -/
theorem Exact.readsBack {v : Json} (h : Exact v) : ReadsBack v := by
  induction h with
  | null =>
      intro fuel text _ hfuel
      obtain ⟨fuel, rfl⟩ : ∃ n, fuel = n + 1 := ⟨fuel - 1, by simp [chars] at hfuel; omega⟩
      rfl
  | bool b =>
      intro fuel text _ hfuel
      have hlength : 1 ≤ (Json.bool b).chars.length := by cases b <;> decide
      obtain ⟨fuel, rfl⟩ : ∃ n, fuel = n + 1 := ⟨fuel - 1, by omega⟩
      cases b <;> rfl
  | @integer i low high =>
      intro fuel text htext hfuel
      cases i with
      | ofNat n =>
          cases hdigits : natChars n with
          | nil => exact absurd hdigits (natChars_ne_nil n)
          | cons c digits =>
              have hc := isDigit_of_mem_natChars (n := n) (hdigits ▸ List.mem_cons_self)
              have hchars : chars (.integer (.ofNat n)) = c :: digits := by
                rw [chars, intChars, hdigits]
              rw [hchars, List.length_cons] at hfuel
              obtain ⟨fuel, rfl⟩ : ∃ k, fuel = k + 1 := ⟨fuel - 1, by omega⟩
              have hn : n < UInt64.size := Int.ofNat_lt.mp high
              rw [hchars, List.cons_append, readValue_digit hc, ← List.cons_append, ← hdigits]
              exact number_of_nat hn htext
      | negSucc n =>
          have hchars : chars (.integer (.negSucc n)) = '-' :: natChars (n + 1) := by
            rw [chars, intChars]
          rw [hchars, List.length_cons] at hfuel
          obtain ⟨fuel, rfl⟩ : ∃ k, fuel = k + 1 := ⟨fuel - 1, by omega⟩
          have hn : n + 1 ≤ 9223372036854775808 := by
            rw [Int.negSucc_eq] at low
            omega
          rw [hchars, List.cons_append, readValue, skipBlanks_cons rfl]
          exact number_of_negative (Nat.succ_pos n) hn htext
  | string s =>
      intro fuel text _ hfuel
      rw [chars, quoteChars] at hfuel
      obtain ⟨fuel, rfl⟩ : ∃ k, fuel = k + 1 := ⟨fuel - 1, by simp at hfuel; omega⟩
      rw [chars, quoteChars_append, readValue, skipBlanks_cons rfl]
      simp only [pieces_quoted, assemble_pieceOf, String.ofList_toList]
  | @array elements all ih =>
      intro fuel text _ hfuel
      simp only [chars, List.length_append, List.length_cons, List.length_nil] at hfuel
      obtain ⟨fuel, rfl⟩ : ∃ k, fuel = k + 1 := ⟨fuel - 1, by omega⟩
      rw [chars, List.append_assoc, List.cons_append, List.singleton_append]
      cases elements with
      | nil => rfl
      | cons v rest =>
          have hread := readElements_elementChars (List.cons_ne_nil v rest) ih fuel text (by omega)
          obtain ⟨c, tail, hc, hblank, hbracket⟩ := (all v List.mem_cons_self).chars_cons
          rw [elementChars, hc, List.cons_append, List.cons_append] at hread ⊢
          rw [readValue_bracket hblank hbracket, hread]
  | @object members all ih =>
      intro fuel text _ hfuel
      simp only [chars, List.length_append, List.length_cons, List.length_nil] at hfuel
      obtain ⟨fuel, rfl⟩ : ∃ k, fuel = k + 1 := ⟨fuel - 1, by omega⟩
      rw [chars, List.append_assoc, List.cons_append, List.singleton_append]
      cases members with
      | nil => rfl
      | cons m rest =>
          obtain ⟨key, v⟩ := m
          have hread := readMembers_memberChars (List.cons_ne_nil (key, v) rest) ih fuel text
            (by omega)
          rw [memberChars, List.append_assoc, List.append_assoc, quoteChars_append] at hread ⊢
          rw [readValue_brace, hread]

/-- The compact form of a value is a document of that value and nothing else. -/
theorem Exact.read_compact {v : Json} (h : Exact v) : read v.compact = ⟨v, false⟩ := by
  have hread := h.readsBack (2 * v.chars.length + 2) [] (by intro c hc; cases hc) (by omega)
  rw [List.append_nil] at hread
  rw [read, compact, ← String.length_toList, String.toList_ofList, hread]
  rfl

theorem fromUTF8?_toUTF8 (s : String) : String.fromUTF8? s.toUTF8 = some s := by
  have hvalid : s.toUTF8.IsValidUTF8 := s.isValidUTF8
  rw [String.fromUTF8?, dif_pos hvalid]
  rfl

theorem Exact.readBytes_compact {v : Json} (h : Exact v) :
    readBytes v.compact.toUTF8 = ⟨v, false⟩ := by
  rw [readBytes, fromUTF8?_toUTF8]
  exact h.read_compact

end MutationTesting.Json

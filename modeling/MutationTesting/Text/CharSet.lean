/-!
Sets of characters as lists of ranges. Ranges are given by their first and last code point; the
tables of the character database write them in hexadecimal, separated by blanks.
-/

namespace MutationTesting.Text

/-- A set of code points: the union of the ranges from the first to the second number, both
included. -/
structure CharSet where
  ranges : List (Nat × Nat)
  deriving DecidableEq, Inhabited

namespace CharSet

def empty : CharSet := ⟨[]⟩

def lastCodePoint : Nat := 0x10FFFF

def full : CharSet := ⟨[(0, lastCodePoint)]⟩

def range (first last : Nat) : CharSet := ⟨[(first, last)]⟩

def singleton (n : Nat) : CharSet := range n n

def ofChar (c : Char) : CharSet := singleton c.toNat

def containsCode (s : CharSet) (n : Nat) : Bool := s.ranges.any fun r => r.1 ≤ n && n ≤ r.2

def contains (s : CharSet) (c : Char) : Bool := s.containsCode c.toNat

def union (s t : CharSet) : CharSet := ⟨s.ranges ++ t.ranges⟩

def unions (sets : List CharSet) : CharSet := ⟨sets.flatMap ranges⟩

/-- The ranges by their first numbers. -/
def sorted (s : CharSet) : List (Nat × Nat) := s.ranges.mergeSort fun a b => a.1 ≤ b.1

/-- The numbers from `next` on that the ranges, sorted by their first numbers, leave out. -/
def gaps (next : Nat) : List (Nat × Nat) → List (Nat × Nat)
  | [] => if next ≤ lastCodePoint then [(next, lastCodePoint)] else []
  | (first, last) :: rest =>
    if next < first then (next, first - 1) :: gaps (max next (last + 1)) rest
    else gaps (max next (last + 1)) rest

def complement (s : CharSet) : CharSet := ⟨gaps 0 s.sorted⟩

def inter (s t : CharSet) : CharSet := (s.complement.union t.complement).complement

def diff (s t : CharSet) : CharSet := s.inter t.complement

def symmDiff (s t : CharSet) : CharSet := (s.diff t).union (t.diff s)

def hexDigitValue (c : Char) : Nat :=
  if c.isDigit then c.toNat - '0'.toNat
  else if 'A' ≤ c ∧ c ≤ 'F' then c.toNat - 'A'.toNat + 10
  else c.toNat - 'a'.toNat + 10

def hexNat (text : String) : Nat := text.toList.foldl (fun n c => n * 16 + hexDigitValue c) 0

/-- The entries of a table, which blanks and line ends separate. -/
def entries (text : String) : List String :=
  ((text.splitOn "\n").flatMap fun line => line.splitOn " ").filter fun entry => !entry.isEmpty

/-- Reads ranges such as `41-5A AA`. -/
def decode (text : String) : CharSet :=
  ⟨(entries text).filterMap fun item =>
    match item.splitOn "-" with
    | [one] => some (hexNat one, hexNat one)
    | [first, last] => some (hexNat first, hexNat last)
    | _ => none⟩

end CharSet

end MutationTesting.Text

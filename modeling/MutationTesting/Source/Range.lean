/-!
Ranges of bytes in a source text, both ends included, and the search for the innermost of them
around an offset.
-/

namespace MutationTesting

structure SourceRange where
  first : Nat
  last : Nat
  deriving DecidableEq, Inhabited

namespace SourceRange

/-- The range between two offsets, in whatever order they are given. -/
def between (a b : Nat) : SourceRange := ⟨min a b, max a b⟩

/-- The range of a piece of text that begins at `start` and ends before `stop`; an empty piece
counts as the offset that it stands at. -/
def ofPiece (start stop : Nat) : SourceRange := ⟨start, max (stop - 1) start⟩

def contains (r : SourceRange) (offset : Nat) : Bool := r.first ≤ offset && offset ≤ r.last

/-- The distance between the ends. -/
def length (r : SourceRange) : Nat := r.last - r.first

def isEmpty (r : SourceRange) : Bool := r.first == r.last

end SourceRange

/-- A search for the shortest range around an offset; of several the first one met stays. -/
structure RangeSearch where
  offset : Nat
  found : Option SourceRange
  deriving DecidableEq, Inhabited

namespace RangeSearch

def start (offset : Nat) : RangeSearch := ⟨offset, none⟩

def visit (s : RangeSearch) (r : SourceRange) : RangeSearch :=
  if !r.contains s.offset then s
  else
    match s.found with
    | some best => if best.length ≤ r.length then s else { s with found := some r }
    | none => { s with found := some r }

end RangeSearch

end MutationTesting

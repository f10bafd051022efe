import MutationTesting.Failure
import MutationTesting.Source.Grammar.Parse

/-!
Source files that have been read and parsed. Places in them are given by line and column, both
counted from one, or by the offset of a byte.
-/

namespace MutationTesting

/-- A parsed file with the arguments it is compiled with. -/
structure SourceUnit where
  path : Path
  arguments : List String
  text : String
  tree : SyntaxTree
  deriving Inhabited

namespace SourceUnit

/-- The offsets at which lines begin, from the text whose first byte is at `offset`. -/
def lineStartsFrom : Nat → List Char → List Nat
  | _, [] => []
  | offset, c :: rest =>
    if c = '\n' then (offset + 1) :: lineStartsFrom (offset + 1) rest
    else lineStartsFrom (offset + c.utf8Size) rest

def lineStarts (text : String) : List Nat := 0 :: lineStartsFrom 0 text.toList

/-- Reads and parses a file. -/
def parse (files : Files) (path : Path) (arguments : List String) : Except Failure SourceUnit :=
  match files.readText path with
  | .error cause => .error (.source path (.file cause))
  | .ok text =>
    match SyntaxTree.ofText? (.ofPath path) text with
    | none => .error (.source path .syntaxErrors)
    | some tree => .ok ⟨path, arguments, text, tree⟩

def size (u : SourceUnit) : Nat := u.text.utf8ByteSize

/-- The offset of a place on one of its lines; column 0 is the same as column 1. The end of the text
is a place if an empty line is there. -/
def offset (u : SourceUnit) (line column : Nat) : Option Nat :=
  match line with
  | 0 => none
  | index + 1 =>
    let starts := lineStarts u.text
    match starts[index]? with
    | none => none
    | some start =>
      let stop := (starts[index + 1]?).getD u.size
      let offset := start + (column - 1)
      if offset < stop ∨ (offset = start ∧ start = stop) then some offset else none

def smallestEnclosing (u : SourceUnit) (offset : Nat) (category : SyntaxCategory) :
    Option SourceRange :=
  u.tree.smallestEnclosing offset category

/-- The text of a range, and nothing if the range is not made of whole characters. -/
def textOf (u : SourceUnit) (r : SourceRange) : String :=
  if r.last < u.size then
    (String.fromUTF8? (u.text.toUTF8.extract r.first (r.last + 1))).getD ""
  else ""

end SourceUnit

end MutationTesting

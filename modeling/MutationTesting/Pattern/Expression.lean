import MutationTesting.Text.Property

/-!
Regular expressions over characters, and the search for a match. A text is read between its
characters: position `i` stands before the character numbered `i`. The meaning of an expression is
the set of positions that it reaches from a set of positions; a text contains a match if some
position of it is reached from some other.
-/

namespace MutationTesting.Pattern

open Text (CharSet)

/-- A condition on the characters around a position. -/
inductive Boundary where
  | textStart
  | textEnd
  | lineStart
  | lineEnd
  /-- As `lineStart` and `lineEnd`, where a carriage return ends a line too, alone or before a line
  feed. -/
  | anyLineStart
  | anyLineEnd
  /-- Conditions on which of the neighbours belong to the set of the characters of words. -/
  | wordEdge (word : CharSet)
  | noWordEdge (word : CharSet)
  | wordStart (word : CharSet)
  | wordEnd (word : CharSet)
  | noWordBefore (word : CharSet)
  | noWordAfter (word : CharSet)
  deriving DecidableEq, Inhabited

/-- A regular expression without groups, which have no bearing on whether there is a match. -/
inductive Expression where
  | empty
  | one (set : CharSet)
  | boundary (condition : Boundary)
  | sequence (first second : Expression)
  | either (left right : Expression)
  /-- From `least` to `most` times, or any number from `least` on. -/
  | repeated (body : Expression) (least : Nat) (most : Option Nat)
  deriving Inhabited

namespace Boundary

def before? (text : Array Char) (i : Nat) : Option Char := if i = 0 then none else text[i - 1]?

def holds (text : Array Char) (i : Nat) : Boundary → Bool
  | .textStart => i = 0
  | .textEnd => i = text.size
  | .lineStart => i = 0 || before? text i == some '\n'
  | .lineEnd => i = text.size || text[i]? == some '\n'
  | .anyLineStart =>
    i = 0 || before? text i == some '\n' || (before? text i == some '\r' && text[i]? != some '\n')
  | .anyLineEnd =>
    i = text.size || text[i]? == some '\r' || (text[i]? == some '\n' && before? text i != some '\r')
  | .wordEdge word => (before? text i).any word.contains != text[i]?.any word.contains
  | .noWordEdge word => (before? text i).any word.contains == text[i]?.any word.contains
  | .wordStart word => !(before? text i).any word.contains && text[i]?.any word.contains
  | .wordEnd word => (before? text i).any word.contains && !text[i]?.any word.contains
  | .noWordBefore word => !(before? text i).any word.contains
  | .noWordAfter word => !text[i]?.any word.contains

end Boundary

/-- The numbers of two increasing lists, increasing. -/
def mergePositions : List Nat → List Nat → List Nat
  | [], right => right
  | left, [] => left
  | a :: left, b :: right =>
    if a < b then a :: mergePositions left (b :: right)
    else if b < a then b :: mergePositions (a :: left) right
    else a :: mergePositions left right
  termination_by left right => left.length + right.length

/-- Takes a step `n` times; nothing follows from no positions. -/
def iterate (step : List Nat → List Nat) : Nat → List Nat → List Nat
  | 0, starts => starts
  | n + 1, starts => if starts.isEmpty then [] else iterate step n (step starts)

/-- All positions that at most `n` steps from `border` reach, and `reached`. -/
def saturate (step : List Nat → List Nat) : Nat → List Nat → List Nat → List Nat
  | 0, reached, _ => reached
  | n + 1, reached, border =>
    let fresh := (step border).filter fun i => !reached.contains i
    if fresh.isEmpty then reached else saturate step n (mergePositions reached fresh) fresh

namespace Expression

/-- The position after a character of the set. -/
def advance (text : Array Char) (set : CharSet) (i : Nat) : Option Nat :=
  if text[i]?.any set.contains then some (i + 1) else none

/-- The positions that matches of the expression end at if they start at one of `starts`. Any number
of repetitions reaches no more than one for each position of the text does. -/
def reach (text : Array Char) : Expression → List Nat → List Nat
  | .empty, starts => starts
  | .one set, starts => starts.filterMap (advance text set)
  | .boundary condition, starts => starts.filter fun i => condition.holds text i
  | .sequence first second, starts => second.reach text (first.reach text starts)
  | .either left right, starts => mergePositions (left.reach text starts) (right.reach text starts)
  | .repeated body least most, starts =>
    let step := fun starts => body.reach text starts
    let first := iterate step least starts
    let more := match most with
      | some most => min (most - least) (text.size + 1)
      | none => text.size + 1
    saturate step more first first

/-- Whether some part of the text matches. -/
def occursIn (e : Expression) (text : String) : Bool :=
  let chars := text.toList.toArray
  !(e.reach chars (List.range (chars.size + 1))).isEmpty

/-- What a set of characters adds to the size of an expression: two places for each gap beyond
ASCII. -/
def sizeOfSet (set : CharSet) : Nat :=
  1 + 2 * (set.complement.ranges.filter fun gap => gap.1 > 0x7F).length

/-- The number of places in the expression once its repetitions are written out. -/
def size : Expression → Nat
  | .empty => 1
  | .one set => sizeOfSet set
  | .boundary _ => 1
  | .sequence first second => first.size + second.size
  | .either left right => left.size + right.size + 1
  | .repeated body least most =>
    match most with
    | some most => least * body.size + (most - least) * (body.size + 1) + 1
    | none => max least 1 * body.size + 1

def sequenceOf : List Expression → Expression
  | [] => .empty
  | [e] => e
  | e :: rest => .sequence e (sequenceOf rest)

/-- An alternative of the expressions, which are not none. -/
def eitherOf : List Expression → Expression
  | [] => .empty
  | [e] => e
  | e :: rest => .either e (eitherOf rest)

end Expression

end MutationTesting.Pattern

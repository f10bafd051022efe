import MutationTesting.Pattern.Escape

/-!
Classes in brackets: characters, ranges, named classes and further brackets, whose union is taken.
Two ampersands, hyphens or tildes stand for the intersection, the difference or the symmetric
difference of what stands before and after them, from left to right.
-/

namespace MutationTesting.Pattern

open Text (CharSet)

/-- The members of a class so far, the number of items they came from, and how deeply those are
nested. -/
structure Members where
  set : CharSet
  items : Nat
  depth : Nat
  deriving DecidableEq, Inhabited

inductive SetOperation where
  | intersection
  | difference
  | symmetricDifference
  deriving DecidableEq, Inhabited

def SetOperation.perform : SetOperation → CharSet → CharSet → CharSet
  | .intersection => CharSet.inter
  | .difference => CharSet.diff
  | .symmetricDifference => CharSet.symmDiff

/-- What a class being read stands in: brackets with the members read before them, or the right side
of an operation. -/
inductive ClassFrame where
  | bracket (negated : Bool) (outer : Members)
  | operation (op : SetOperation) (left : Members)
  deriving Inhabited

namespace Members

def empty : Members := ⟨CharSet.empty, 0, 0⟩

def insert (m : Members) (set : CharSet) (depth : Nat) : Members :=
  ⟨m.set.union set, m.items + 1, max m.depth depth⟩

/-- All members as one item; several of them are one level deeper. -/
def item (m : Members) : Members := ⟨m.set, 1, if m.items ≤ 1 then m.depth else m.depth + 1⟩

end Members

namespace Bracket

/-- Finishes the operations that a closing bracket or a further operation ends. -/
def finishOperation (flags : Flags) (right : Members) : List ClassFrame → Members × List ClassFrame
  | .operation op left :: frames =>
    (⟨op.perform (flags.closed left.set) (flags.closed right.set), 1,
      max left.depth right.depth + 1⟩,
      frames)
  | frames => (right, frames)

/-- Members that an opening bracket begins with: hyphens, or else a closing bracket. -/
def leadingHyphens (flags : Flags) : Nat → Members → List Char → Members × List Char
  | fuel + 1, m, '-' :: rest =>
    leadingHyphens flags fuel (m.insert (CharSet.ofChar '-') 0) (flags.skip rest)
  | _, m, chars => (m, chars)

/-- Begins a class after its opening bracket. -/
def start (flags : Flags) (chars : List Char) : Bool × Members × List Char :=
  let (negated, chars) := match flags.skip chars with
    | '^' :: rest => (true, flags.skip rest)
    | chars => (false, chars)
  let (members, chars) := leadingHyphens flags chars.length .empty chars
  match members.items, chars with
  | 0, ']' :: rest => (negated, members.insert (CharSet.ofChar ']') 0, flags.skip rest)
  | _, _ => (negated, members, chars)

/-- A named class such as `[:alpha:]` after its opening bracket. -/
def named? (flags : Flags) : List Char → Option (CharSet × List Char)
  | ':' :: rest => do
    let (negated, rest) := match rest with
      | '^' :: rest => (true, rest)
      | rest => (false, rest)
    match rest.dropWhile (· ≠ ':') with
    | ':' :: ']' :: after =>
      let members ← Named.asciiClass? (String.ofList (rest.takeWhile (· ≠ ':')))
      let members := flags.closed members
      return (if negated then flags.complement members else members, after)
    | _ => none
  | _ => none

/-- One end of a range, or a set. -/
def primitive? (flags : Flags) : List Char → Option (Escape × List Char)
  | '\\' :: rest => Escape.read? flags rest
  | c :: rest => some (.literal c.toNat false, rest)
  | [] => none

/-- A character of a class; without the Unicode flag it has to be ASCII or a byte. -/
def code? (flags : Flags) : Escape → Option Nat
  | .literal code byte =>
    if flags.unicode || code ≤ 0x7F || (byte && code ≤ 0xFF) then some code else none
  | _ => none

/-- A character, a set or a range. -/
def range? (flags : Flags) (chars : List Char) : Option (CharSet × List Char) := do
  let (first, rest) ← primitive? flags chars
  let single : Option (CharSet × List Char) := do
    match first with
    | .set members => return (members, flags.skip rest)
    | .literal _ _ => return (CharSet.singleton (← code? flags first), flags.skip rest)
    | .boundary _ => none
  match flags.skip rest with
  | [] => none
  | '-' :: after =>
    match flags.skip after with
    | [] => none
    | ']' :: _ => single
    | '-' :: _ => single
    | after =>
      let (last, rest) ← primitive? flags after
      let low ← code? flags first
      let high ← code? flags last
      if low ≤ high then return (CharSet.range low high, rest) else none
  | _ => single

/-- Reads on in a class, up to the bracket that closes all frames. -/
def loop (flags : Flags) : Nat → List ClassFrame → Members → List Char →
    Option (Members × List Char)
  | 0, _, _, _ => none
  | fuel + 1, frames, members, chars =>
    let operate (op : SetOperation) (rest : List Char) :=
      let (left, frames) := finishOperation flags members.item frames
      loop flags fuel (.operation op left :: frames) .empty rest
    match flags.skip chars with
    | [] => none
    | '[' :: rest =>
      match named? flags rest with
      | some (set, rest) => loop flags fuel frames (members.insert set 0) rest
      | none =>
        let (negated, inner, rest) := start flags rest
        loop flags fuel (.bracket negated members :: frames) inner rest
    | ']' :: rest =>
      let (inner, frames) := finishOperation flags members.item frames
      match frames with
      | .bracket negated outer :: frames =>
        let set := flags.closed inner.set
        let set := if negated then flags.complement set else set
        if frames.isEmpty then some (⟨set, 1, inner.depth + 1⟩, rest)
        else loop flags fuel frames (outer.insert set (inner.depth + 1)) rest
      | _ => none
    | '&' :: '&' :: rest => operate .intersection rest
    | '-' :: '-' :: rest => operate .difference rest
    | '~' :: '~' :: rest => operate .symmetricDifference rest
    | chars => do
      let (set, rest) ← range? flags chars
      loop flags fuel frames (members.insert set 0) rest

/-- Reads a class after its opening bracket. -/
def read? (flags : Flags) (chars : List Char) : Option (Members × List Char) :=
  let (negated, members, rest) := start flags chars
  loop flags (chars.length + 1) [.bracket negated .empty] members rest

end Bracket

end MutationTesting.Pattern

import MutationTesting.Pattern.Bracket

/-!
Reading patterns. A pattern is read sign by sign; the groups that are open at a sign are kept in a
list, innermost first. Patterns that nest too deeply or grow too large once their repetitions are
written out are refused, as are all that are not well formed.
-/

namespace MutationTesting.Pattern

open Text (CharSet)

/-- An expression read, how deeply its notation is nested, and whether a repetition may follow it.
-/
structure Item where
  expression : Expression
  depth : Nat
  repeatable : Bool
  deriving Inhabited

/-- An open group, or the whole pattern: its finished alternatives and the items of the last one,
newest first, and the flags to restore at its end. -/
structure Level where
  alternatives : List Item
  items : List Item
  restore : Flags
  deriving Inhabited

/-- The state between two signs. -/
structure Progress where
  level : Level
  outer : List Level
  flags : Flags
  names : List String
  deriving Inhabited

namespace Level

def start (restore : Flags) : Level := ⟨[], [], restore⟩

def maxDepth (items : List Item) : Nat := items.foldl (fun d i => max d i.depth) 0

/-- The items of the last alternative in a row. -/
def row (l : Level) : Item :=
  match l.items with
  | [] => ⟨.empty, 0, false⟩
  | [item] => item
  | items => ⟨.sequenceOf (items.reverse.map (·.expression)), maxDepth items + 1, true⟩

def nextAlternative (l : Level) : Level :=
  { l with alternatives := l.row :: l.alternatives, items := [] }

/-- All alternatives together. -/
def finished (l : Level) : Item :=
  match l.alternatives with
  | [] => l.row
  | alternatives =>
    let items := l.row :: alternatives
    ⟨.eitherOf (items.reverse.map (·.expression)), maxDepth items + 1, true⟩

end Level

namespace Progress

def push (p : Progress) (item : Item) : Progress :=
  { p with level := { p.level with items := item :: p.level.items } }

def pushOne (p : Progress) (set : CharSet) : Progress := p.push ⟨.one set, 0, true⟩

def pushBoundary (p : Progress) (b : Boundary) : Progress := p.push ⟨.boundary b, 0, true⟩

/-- Opens a group in which `flags` hold. -/
def openGroup (p : Progress) (flags : Flags) : Progress :=
  { p with level := .start p.flags, outer := p.level :: p.outer, flags := flags }

def closeGroup? (p : Progress) : Option Progress :=
  match p.outer with
  | [] => none
  | level :: outer =>
    let inner := p.level.finished
    some ({ p with level := level, outer := outer, flags := p.level.restore }.push
      ⟨inner.expression, inner.depth + 1, true⟩)

/-- Repeats the last item. -/
def repeatLast? (p : Progress) (least : Nat) (most : Option Nat) : Option Progress :=
  match p.level.items with
  | item :: items =>
    if item.repeatable then
      some { p with level := { p.level with
        items := ⟨.repeated item.expression least most, item.depth + 1, true⟩ :: items } }
    else none
  | [] => none

end Progress

namespace Reader

/-- A question mark after a repetition asks for the shortest match, which is a match all the same.
-/
def skipLazy : List Char → List Char
  | '?' :: rest => rest
  | chars => chars

/-- A count between braces; blanks may stand around it. -/
def count? (flags : Flags) (chars : List Char) : Option (Nat × List Char) :=
  let rec digits : Nat → List Char → List Char → List Char × List Char
    | fuel + 1, found, c :: rest =>
      if c.isDigit then digits fuel (c :: found) (flags.skip rest) else (found, c :: rest)
    | _, found, chars => (found, chars)
  let (found, rest) := digits chars.length [] (chars.dropWhile Text.isBlank)
  if found.isEmpty then none
  else
    let n := found.reverse.foldl (fun n c => n * 10 + (c.toNat - '0'.toNat)) 0
    if n < UInt32.size then some (n, flags.skip (rest.dropWhile Text.isBlank)) else none

/-- The bounds of a repetition after its opening brace. -/
def bounds? (flags : Flags) (chars : List Char) : Option (Nat × Option Nat × List Char) := do
  let (least, rest) ← count? flags (flags.skip chars)
  match rest with
  | '\x7d' :: rest => return (least, some least, skipLazy (flags.skip rest))
  | ',' :: rest =>
    match flags.skip rest with
    | '\x7d' :: rest => return (least, none, skipLazy (flags.skip rest))
    | rest =>
      let (most, rest) ← count? flags rest
      match rest with
      | '\x7d' :: rest =>
        if least ≤ most then return (least, some most, skipLazy (flags.skip rest)) else none
      | _ => none
  | _ => none

/-- Flags up to the colon or parenthesis that ends them; none may occur twice, and a hyphen before
those to clear has to be followed by one. -/
def flags? (seen : List Char) (negated : Bool) (flags : Flags) : List Char →
    Option (Flags × Bool × Char × List Char)
  | [] => none
  | c :: rest =>
    if c = ':' || c = ')' then
      if seen.head? = some '-' then none else some (flags, seen.isEmpty, c, rest)
    else if seen.contains c then none
    else if c = '-' then flags? (c :: seen) true flags rest
    else do flags? (c :: seen) negated (← flags.set? c (!negated)) rest

def isAlphanumeric (c : Char) : Bool :=
  Text.alphabetic.contains c || (Text.Category.ofStem "N").contains c

/-- A group name and what follows the bracket that ends it. -/
def groupName? (chars : List Char) : Option (String × List Char) :=
  let name := chars.takeWhile (· ≠ '>')
  match name, chars.dropWhile (· ≠ '>') with
  | c :: more, _ :: rest =>
    if (c = '_' || Text.alphabetic.contains c)
        && more.all fun c => c = '_' || c = '.' || c = '[' || c = ']' || isAlphanumeric c then
      some (String.ofList name, rest)
    else none
  | _, _ => none

/-- Opens a group after its parenthesis, or sets flags for the rest of the present one. -/
def group? (p : Progress) (chars : List Char) : Option (Progress × List Char) := do
  let named (rest : List Char) : Option (Progress × List Char) := do
    let (name, rest) ← groupName? rest
    if p.names.contains name then none
    else return ({ p.openGroup p.flags with names := name :: p.names }, rest)
  match p.flags.skip chars with
  | '?' :: 'P' :: '<' :: rest => named rest
  | '?' :: '<' :: rest => named rest
  | '?' :: rest =>
    let (flags, isEmpty, last, rest) ← flags? [] false p.flags rest
    if last = ':' then return (p.openGroup flags, rest)
    else if isEmpty then none
    else return ({ p with flags := flags }.push ⟨.empty, 0, false⟩, rest)
  | rest => return (p.openGroup p.flags, rest)

/-- A character by itself or with a backslash. -/
def literal? (p : Progress) (code : Nat) (byte : Bool) : Option Progress :=
  if p.flags.unicode then some (p.pushOne (p.flags.closed (CharSet.singleton code)))
  else if byte && code > 0x7F then none
  else some (p.pushOne (if code ≤ 0x7F then p.flags.closed (CharSet.singleton code)
    else CharSet.singleton code))

/-- Reads one sign. -/
def sign? (p : Progress) : List Char → Option (Progress × List Char)
  | [] => some (p, [])
  | c :: rest =>
    match c with
    | '(' => group? p rest
    | ')' => p.closeGroup?.map (·, rest)
    | '|' => some ({ p with level := p.level.nextAlternative }, rest)
    | '[' => do
      let (members, rest) ← Bracket.read? p.flags rest
      return (p.push ⟨.one (← p.flags.valid? members.set), members.depth, true⟩, rest)
    | '?' => (p.repeatLast? 0 (some 1)).map (·, skipLazy rest)
    | '*' => (p.repeatLast? 0 none).map (·, skipLazy rest)
    | '+' => (p.repeatLast? 1 none).map (·, skipLazy rest)
    | '\x7b' => do
      let (least, most, rest) ← bounds? p.flags rest
      return (← p.repeatLast? least most, rest)
    | '.' => do return (p.pushOne (← p.flags.dot?), rest)
    | '^' => some (p.pushBoundary p.flags.lineStart, rest)
    | '$' => some (p.pushBoundary p.flags.lineEnd, rest)
    | '\\' => do
      let (escape, rest) ← Escape.read? p.flags rest
      match escape with
      | .literal code byte => return (← literal? p code byte, rest)
      | .set members => return (p.pushOne members, rest)
      | .boundary condition => return (p.pushBoundary condition, rest)
    | c => do return (← literal? p c.toNat false, rest)

/-- Reads all signs. -/
def loop : Nat → Progress → List Char → Option Progress
  | 0, _, _ => none
  | fuel + 1, p, chars =>
    match p.flags.skip chars with
    | [] => some p
    | chars => do
      let (p, rest) ← sign? p chars
      loop fuel p rest

end Reader

def maxDepth : Nat := 250

/-- The most places that an expression may have with its repetitions written out. -/
def maxSize : Nat := 327680

/-- The expression of a pattern. -/
def read? (pattern : String) : Option Expression := do
  let chars := pattern.toList
  let p ← Reader.loop (chars.length + 1) ⟨.start .initial, [], .initial, []⟩ chars
  if !p.outer.isEmpty then none
  else
    let item := p.level.finished
    if item.depth > maxDepth || item.expression.size > maxSize then none
    else return item.expression

end MutationTesting.Pattern

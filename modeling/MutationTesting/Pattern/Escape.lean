import MutationTesting.Pattern.Flags

/-!
What a backslash introduces in a pattern: a character, given by itself, by a letter or by its
number; a class of characters; or a condition on a position. Backslashes before other letters and
digits are refused, among them back-references.
-/

namespace MutationTesting.Pattern

open Text (CharSet)

inductive Escape where
  /-- A character; `byte` if it is written with two hexadecimal digits. -/
  | literal (code : Nat) (byte : Bool)
  | set (members : CharSet)
  | boundary (condition : Boundary)
  deriving Inhabited

namespace Escape

/-- Characters that mean something else unless a backslash stands before them. -/
def isMeta (c : Char) : Bool := "\\.+*?()|[]\x7b\x7d^$#&-~".contains c

/-- Characters that a backslash leaves as they are. -/
def isPlain (c : Char) : Bool :=
  isMeta c || (c.toNat < 0x80 && !c.isAlphanum && c != '<' && c != '>')

def isHexDigit (c : Char) : Bool := c.isDigit || ('a' ≤ c && c ≤ 'f') || ('A' ≤ c && c ≤ 'F')

def ofCode? (code : Nat) (byte : Bool) : Option Escape :=
  if code.isValidChar then some (.literal code byte) else none

/-- A given number of hexadecimal digits. -/
def fixedHex (flags : Flags) : Nat → Nat → List Char → Option (Nat × List Char)
  | 0, code, chars => some (code, chars)
  | n + 1, code, c :: rest =>
    if isHexDigit c then fixedHex flags n (code * 16 + CharSet.hexDigitValue c) (flags.skip rest)
    else none
  | _ + 1, _, [] => none

/-- The signs up to a closing brace, and what follows it. -/
def braced (flags : Flags) : Nat → List Char → Option (List Char × List Char)
  | 0, _ => none
  | _ + 1, [] => none
  | fuel + 1, c :: rest =>
    if c = '\x7d' then some ([], rest)
    else do
      let (more, rest) ← braced flags fuel (flags.skip rest)
      return (c :: more, rest)

/-- A character by its number, after the letter that says how many digits it has. -/
def numbered? (flags : Flags) (digits : Nat) (byte : Bool) (chars : List Char) :
    Option (Escape × List Char) := do
  match flags.skip chars with
  | '\x7b' :: rest =>
    let (name, rest) ← braced flags (rest.length + 1) (flags.skip rest)
    if name.isEmpty || !name.all isHexDigit then none
    else return (← ofCode? (CharSet.hexNat (String.ofList name)) false, flags.skip rest)
  | chars =>
    let (code, rest) ← fixedHex flags digits 0 chars
    return (← ofCode? code byte, rest)

/-- Splits at the first occurrence of `mark`. -/
def splitAt? (mark : List Char) : List Char → Option (List Char × List Char)
  | [] => none
  | c :: rest =>
    if mark.isPrefixOf (c :: rest) then some ([], (c :: rest).drop mark.length)
    else do
      let (before, after) ← splitAt? mark rest
      return (c :: before, after)

/-- The set of a property, by its name or by its name and a value, and whether it is the complement.
-/
def propertyOf? (name : List Char) : Option (CharSet × Bool) := do
  match splitAt? ['!', '='] name with
  | some (property, value) => return (← Named.propertyValue? property value, true)
  | none =>
    match (splitAt? [':'] name).or (splitAt? ['='] name) with
    | some (property, value) => return (← Named.propertyValue? property value, false)
    | none => return (← Named.property? name, false)

/-- The characters with a property, or those without it. -/
def property? (flags : Flags) (negated : Bool) (chars : List Char) :
    Option (Escape × List Char) := do
  if !flags.unicode then none
  else
    let (name, rest) ← match flags.skip chars with
      | '\x7b' :: rest => braced flags (rest.length + 1) (flags.skip rest)
      | '\\' :: _ => none
      | c :: rest => some ([c], flags.skip rest)
      | [] => none
    let (members, opposite) ← propertyOf? name
    let members := flags.closed members
    return (.set (if negated != opposite then flags.complement members else members), rest)

def edgeName (c : Char) : Bool := c.isAlpha || c = '-'

/-- A name such as `start` in braces, which says what edge of a word is meant; other braces are
left. -/
def wordEdge? (flags : Flags) (chars : List Char) : Option (Escape × List Char) := do
  match chars with
  | '\x7b' :: rest =>
    match flags.skip rest with
    | [] => none
    | c :: more =>
      if !edgeName c then some (.boundary (.wordEdge flags.word), chars)
      else
        let (name, rest) ← braced flags (more.length + 2) (c :: more)
        let boundary ← match String.ofList name with
          | "start" => some (Boundary.wordStart flags.word)
          | "end" => some (Boundary.wordEnd flags.word)
          | "start-half" => some (Boundary.noWordBefore flags.word)
          | "end-half" => some (Boundary.noWordAfter flags.word)
          | _ => none
        return (.boundary boundary, rest)
  | _ => some (.boundary (.wordEdge flags.word), chars)

/-- Control characters by their letters. -/
def control? : Char → Option Nat
  | 'a' => some 0x07
  | 'f' => some 0x0C
  | 't' => some 0x09
  | 'n' => some 0x0A
  | 'r' => some 0x0D
  | 'v' => some 0x0B
  | _ => none

/-- What follows a backslash, and the signs after it. -/
def read? (flags : Flags) : List Char → Option (Escape × List Char)
  | [] => none
  | c :: rest =>
    if isPlain c then some (.literal c.toNat false, rest)
    else match c with
      | 'x' => numbered? flags 2 true rest
      | 'u' => numbered? flags 4 false rest
      | 'U' => numbered? flags 8 false rest
      | 'p' => property? flags false rest
      | 'P' => property? flags true rest
      | 'A' => some (.boundary .textStart, rest)
      | 'z' => some (.boundary .textEnd, rest)
      | 'b' => wordEdge? flags rest
      | 'B' => some (.boundary (.noWordEdge flags.word), rest)
      | '<' => some (.boundary (.wordStart flags.word), rest)
      | '>' => some (.boundary (.wordEnd flags.word), rest)
      | c =>
        match control? c with
        | some code => some (.literal code false, rest)
        | none => (flags.letterClass? c).map fun members => (.set members, rest)

end Escape

end MutationTesting.Pattern

import MutationTesting.Text.Property
import MutationTesting.Text.Script

/-!
Character sets that patterns call by name: the ASCII classes such as `alpha`, and properties of the
Unicode character database such as general categories and scripts. Case, blanks, underscores,
hyphens and a leading `is` do not count in the name of a property.
-/

namespace MutationTesting.Pattern

open Text (CharSet)

namespace Named

def asciiDigit : CharSet := CharSet.range 0x30 0x39

def asciiUpper : CharSet := CharSet.range 0x41 0x5A

def asciiLower : CharSet := CharSet.range 0x61 0x7A

def asciiAlpha : CharSet := asciiUpper.union asciiLower

def asciiWord : CharSet := CharSet.unions [asciiDigit, asciiAlpha, CharSet.ofChar '_']

def asciiSpace : CharSet := (CharSet.range 0x9 0xD).union (CharSet.ofChar ' ')

/-- The ASCII classes. -/
def asciiClass? : String → Option CharSet
  | "alnum" => some (asciiDigit.union asciiAlpha)
  | "alpha" => some asciiAlpha
  | "ascii" => some (CharSet.range 0 0x7F)
  | "blank" => some ((CharSet.ofChar '\t').union (CharSet.ofChar ' '))
  | "cntrl" => some ((CharSet.range 0 0x1F).union (CharSet.singleton 0x7F))
  | "digit" => some asciiDigit
  | "graph" => some (CharSet.range 0x21 0x7E)
  | "lower" => some asciiLower
  | "print" => some (CharSet.range 0x20 0x7E)
  | "punct" =>
    some (CharSet.unions [CharSet.range 0x21 0x2F, CharSet.range 0x3A 0x40, CharSet.range 0x5B 0x60,
      CharSet.range 0x7B 0x7E])
  | "space" => some asciiSpace
  | "upper" => some asciiUpper
  | "word" => some asciiWord
  | "xdigit" => some (CharSet.unions [asciiDigit, CharSet.range 0x41 0x46, CharSet.range 0x61 0x66])
  | _ => none

/-- A name of a property without what does not count in it. -/
def normalized (name : List Char) : String :=
  let (leading, rest) : Bool × List Char := match name with
    | i :: s :: rest =>
      if (i = 'i' || i = 'I') && (s = 's' || s = 'S') then (true, rest) else (false, name)
    | _ => (false, name)
  let counts (c : Char) : Bool := c.toNat < 0x80 && !(c = ' ' || c = '_' || c = '-')
  let kept := (rest.filter counts).map Char.toLower
  if leading && kept = ['c'] then "isc" else String.ofList kept

/-- Whether a normalized name means one of `names`. -/
def isCalled (name : String) (names : List String) : Bool :=
  names.any fun other => normalized other.toList == name

/-- Groups of general categories, and further names of single ones. -/
def categoryGroup? : String → Option CharSet
  | "any" => some CharSet.full
  | "assigned" => some Text.Category.assigned
  | "ascii" => some (CharSet.range 0 0x7F)
  | "l" | "letter" => some (Text.Category.ofStem "L")
  | "lc" | "casedletter" => some (CharSet.unions (["Lu", "Ll", "Lt"].map Text.Category.ofStem))
  | "m" | "mark" | "combiningmark" => some (Text.Category.ofStem "M")
  | "n" | "number" => some (Text.Category.ofStem "N")
  | "digit" => some (Text.Category.ofStem "Nd")
  | "p" | "punctuation" | "punct" => some (Text.Category.ofStem "P")
  | "s" | "symbol" => some (Text.Category.ofStem "S")
  | "z" | "separator" => some (Text.Category.ofStem "Z")
  | "c" | "other" =>
    some ((CharSet.unions (["Cc", "Cf", "Co"].map Text.Category.ofStem)).union
      Text.Category.assigned.complement)
  | "cn" | "unassigned" => some Text.Category.assigned.complement
  | "cntrl" => some (Text.Category.ofStem "Cc")
  | _ => none

def category? (name : String) : Option CharSet :=
  (categoryGroup? name).or do
    let entry ← Text.Category.table.find? fun e => isCalled name [e.1, e.2.1]
    if entry.1 = "Cs" then none else some (CharSet.decode entry.2.2)

def script? (name : String) : Option CharSet := do
  let entry ← Text.Script.table.find? fun e => isCalled name [e.1, e.2.1]
  return CharSet.decode entry.2.2

/-- Properties that a character has or has not. -/
def binary? : String → Option CharSet
  | "alphabetic" | "alpha" => some Text.alphabetic
  | "lowercase" | "lower" => some Text.lowercase
  | "uppercase" | "upper" => some Text.uppercase
  | "whitespace" | "wspace" | "space" => some Text.whiteSpace
  | "xidstart" | "xids" => some Text.identifierStart
  | "xidcontinue" | "xidc" => some Text.identifierContinue
  | "asciihexdigit" | "ahex" => asciiClass? "xdigit"
  | "joincontrol" | "joinc" => some Text.joinControl
  | "graphemeextend" | "grext" => some Text.graphemeExtend
  | _ => none

/-- The set that a single name stands for. -/
def property? (name : List Char) : Option CharSet :=
  let name := normalized name
  (binary? name).or ((category? name).or (script? name))

/-- The set of the characters for which a property has a value. -/
def propertyValue? (property value : List Char) : Option CharSet :=
  let value := normalized value
  match normalized property with
  | "gc" | "generalcategory" | "category" => category? value
  | "sc" | "script" | "scx" | "scriptextensions" => script? value
  | _ => none

end Named

end MutationTesting.Pattern

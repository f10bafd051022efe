import MutationTesting.Json.Value
import MutationTesting.Decimal.Shortest

/-!
The compact written form of JSON, without blanks, and an indented one for reading. Text is written
verbatim apart from the quote, the backslash and the control characters, which are escaped; so a
value has one compact form.
-/

namespace MutationTesting

namespace Json

/-- One lower case hexadecimal digit. -/
def hexDigit (n : Nat) : Char :=
  if n < 10 then Char.ofNat ('0'.toNat + n) else Char.ofNat ('a'.toNat + (n - 10))

/-- Quote, backslash and control characters are escaped, five of the latter by a letter. -/
def escape (c : Char) : List Char :=
  if c = '"' then ['\\', '"']
  else if c = '\\' then ['\\', '\\']
  else if c = '\x08' then ['\\', 'b']
  else if c = '\x0c' then ['\\', 'f']
  else if c = '\n' then ['\\', 'n']
  else if c = '\r' then ['\\', 'r']
  else if c = '\t' then ['\\', 't']
  else if c.toNat < 0x20 then
    ['\\', 'u', '0', '0', hexDigit (c.toNat / 16), hexDigit (c.toNat % 16)]
  else [c]

def quoteChars (s : List Char) : List Char := '"' :: s.flatMap escape ++ ['"']

/-- Decimal digits, most significant first. -/
def natChars (n : Nat) : List Char := Nat.toDigits 10 n

def intChars : Int → List Char
  | .ofNat n => natChars n
  | .negSucc n => '-' :: natChars (n + 1)

mutual

/-- Compact written form. A value that no text denotes is written as `null`. -/
def chars : Json → List Char
  | .null => "null".toList
  | .bool true => "true".toList
  | .bool false => "false".toList
  | .integer i => intChars i
  | .real x => (Decimal.shortest x.toFloat).toList
  | .string s => quoteChars s.toList
  | .array elements => '[' :: elementChars elements ++ [']']
  | .object members => '{' :: memberChars members ++ ['}']
  | .valueless => "null".toList
  | .malformed => "null".toList

def elementChars : List Json → List Char
  | [] => []
  | v :: rest => v.chars ++ elementTailChars rest

def elementTailChars : List Json → List Char
  | [] => []
  | v :: rest => ',' :: v.chars ++ elementTailChars rest

def memberChars : List (String × Json) → List Char
  | [] => []
  | (key, v) :: rest => quoteChars key.toList ++ ':' :: v.chars ++ memberTailChars rest

def memberTailChars : List (String × Json) → List Char
  | [] => []
  | (key, v) :: rest => ',' :: quoteChars key.toList ++ ':' :: v.chars ++ memberTailChars rest

end

def compact (v : Json) : String := String.ofList v.chars

/-- A line break and the indentation of a nesting level, two blanks each. -/
def breakChars (level : Nat) : List Char := '\n' :: List.replicate (2 * level) ' '

mutual

/-- Indented written form: one element or member a line, empty containers on one line. -/
def indentedChars (level : Nat) : Json → List Char
  | .array [] => ['[', ']']
  | .array (v :: rest) =>
    '[' :: breakChars (level + 1) ++ v.indentedChars (level + 1) ++ indentedElements level rest
      ++ breakChars level ++ [']']
  | .object [] => ['{', '}']
  | .object ((key, v) :: rest) =>
    '{' :: breakChars (level + 1) ++ quoteChars key.toList ++ ':' :: ' '
      :: v.indentedChars (level + 1) ++ indentedMembers level rest ++ breakChars level ++ ['}']
  | v => v.chars

def indentedElements (level : Nat) : List Json → List Char
  | [] => []
  | v :: rest =>
    ',' :: breakChars (level + 1) ++ v.indentedChars (level + 1) ++ indentedElements level rest

def indentedMembers (level : Nat) : List (String × Json) → List Char
  | [] => []
  | (key, v) :: rest =>
    ',' :: breakChars (level + 1) ++ quoteChars key.toList ++ ':' :: ' '
      :: v.indentedChars (level + 1) ++ indentedMembers level rest

end

def indented (v : Json) : String := String.ofList (v.indentedChars 0)

end Json

end MutationTesting

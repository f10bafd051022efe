import MutationTesting.Json.Value

/-!
Reading JSON text. Reading never fails: where the text stops being JSON the tree holds `malformed`
and ends. Integers that fit 64 bits, signed or unsigned, are kept exactly; every other number
becomes a double, by way of the longest run of its digits that fits 64 bits.
-/

namespace MutationTesting

namespace Json

def isBlank (c : Char) : Bool := c = ' ' || c = '\n' || c = '\t' || c = '\r'

def skipBlanks (text : List Char) : List Char := text.dropWhile isBlank

def digitValue (c : Char) : Nat := c.toNat - '0'.toNat

def hexValue? (c : Char) : Option Nat :=
  if '0' ≤ c ∧ c ≤ '9' then some (c.toNat - '0'.toNat)
  else if 'a' ≤ c ∧ c ≤ 'f' then some (c.toNat - 'a'.toNat + 10)
  else if 'A' ≤ c ∧ c ≤ 'F' then some (c.toNat - 'A'.toNat + 10)
  else none

/-! ### Strings -/

/-- What stands in a string: a character, or one escaped 16-bit unit. -/
inductive Piece where
  | char (c : Char)
  | unit (value : Nat)
  deriving DecidableEq

/-- The characters that a single letter after the backslash stands for. -/
def escapedLetter? (c : Char) : Option Char :=
  if c = '"' then some '"'
  else if c = '\\' then some '\\'
  else if c = '/' then some '/'
  else if c = 'b' then some '\x08'
  else if c = 'f' then some '\x0c'
  else if c = 'n' then some '\n'
  else if c = 'r' then some '\r'
  else if c = 't' then some '\t'
  else none

/-- The pieces up to the closing quote, and the text after it. -/
def pieces : List Char → Option (List Piece × List Char)
  | [] => none
  | '"' :: rest => some ([], rest)
  | '\\' :: 'u' :: a :: b :: c :: d :: rest =>
    match hexValue? a, hexValue? b, hexValue? c, hexValue? d with
    | some a, some b, some c, some d =>
      (pieces rest).map fun (ps, r) => (.unit (((a * 16 + b) * 16 + c) * 16 + d) :: ps, r)
    | _, _, _, _ => none
  | '\\' :: c :: rest =>
    match escapedLetter? c with
    | some letter => (pieces rest).map fun (ps, r) => (.char letter :: ps, r)
    | none => none
  | c :: rest =>
    if c = '\\' ∨ c.toNat < 0x20 then none
    else (pieces rest).map fun (ps, r) => (.char c :: ps, r)

def isHighSurrogate (n : Nat) : Bool := 0xD800 ≤ n && n ≤ 0xDBFF

def isLowSurrogate (n : Nat) : Bool := 0xDC00 ≤ n && n ≤ 0xDFFF

/-- Joins surrogate pairs; `none` if a surrogate stands alone. -/
def assemble : List Piece → Option (List Char)
  | [] => some []
  | .char c :: rest => (assemble rest).map (c :: ·)
  | .unit high :: .unit low :: rest =>
    if isHighSurrogate high then
      if isLowSurrogate low then
        (assemble rest).map (Char.ofNat (0x10000 + (high - 0xD800) * 0x400 + (low - 0xDC00)) :: ·)
      else none
    else if isLowSurrogate high then none
    else (assemble (.unit low :: rest)).map (Char.ofNat high :: ·)
  | .unit n :: rest =>
    if isHighSurrogate n || isLowSurrogate n then none else (assemble rest).map (Char.ofNat n :: ·)

/-! ### Numbers -/

/-- Appends digits while the number fits 64 bits; also gives the digits left over. -/
def absorb (significand : Nat) : List Char → Nat × List Char
  | [] => (significand, [])
  | c :: rest =>
    let next := significand * 10 + digitValue c
    if next < UInt64.size then absorb next rest else (significand, c :: rest)

/-- Divides by the largest finite power of ten until the exponent is within range. -/
def scaleDown : Nat → Float → Int → Float × Int
  | 0, x, exponent => (x, exponent)
  | steps + 1, x, exponent =>
    if exponent < -308 && x != 0.0 then
      scaleDown steps (x / Float.ofScientific 1 false 308) (exponent + 308)
    else (x, exponent)

/-- `significand * 10 ^ exponent` by one multiplication or division of doubles; `none` if it
overflows. -/
def scaledReal (significand : Nat) (exponent : Int) : Option Float :=
  let x := significand.toUInt64.toFloat
  if 0 ≤ exponent then
    if 308 < exponent then
      if x == 0.0 then some x else none
    else
      let y := x * Float.ofScientific 1 false exponent.toNat
      if y.isInf then none else some y
  else
    let (y, e) := scaleDown 5 x exponent
    if y == 0.0 then some y else some (y / Float.ofScientific 1 false (-e).toNat)

def ofReal? (negative : Bool) : Option Float → Json
  | none => .valueless
  | some x => .real (.ofFloat (if negative then -x else x))

/-- Largest exponent that is told apart from an infinite one. -/
def exponentLimit : Nat := 2147483647

/-- A number with the exponent digits `digits`. -/
def withExponent (negative : Bool) (significand : Nat) (exponent : Int) (positive : Bool)
    (digits : List Char) : Json :=
  let magnitude := digits.foldl (fun n c => min (n * 10 + digitValue c) (exponentLimit + 1)) 0
  if exponentLimit < magnitude then
    if significand ≠ 0 ∧ positive then .valueless else ofReal? negative (some 0.0)
  else
    ofReal? negative
      (scaledReal significand (if positive then exponent + magnitude else exponent - magnitude))

/-- The rest of a number from its exponent mark on, if there is one. -/
def exponentPart (negative : Bool) (significand : Nat) (exponent : Int) (text : List Char) :
    Json × List Char :=
  match text with
  | c :: rest =>
    if c = 'e' ∨ c = 'E' then
      let (positive, rest) : Bool × List Char :=
        match rest with
        | '+' :: r => (true, r)
        | '-' :: r => (false, r)
        | r => (true, r)
      let digits := rest.takeWhile Char.isDigit
      if digits.isEmpty then (.malformed, [])
      else (withExponent negative significand exponent positive digits, rest.dropWhile Char.isDigit)
    else (ofReal? negative (scaledReal significand exponent), text)
  | [] => (ofReal? negative (scaledReal significand exponent), [])

/-- A number after its sign. -/
def number (negative : Bool) (text : List Char) : Json × List Char :=
  let digits := text.takeWhile Char.isDigit
  let rest := text.dropWhile Char.isDigit
  if digits.isEmpty || (digits.head? = some '0' && 1 < digits.length) then (.malformed, [])
  else
    let (significand, dropped) := absorb 0 digits
    let exponent : Int := dropped.length
    match rest with
    | '.' :: afterPoint =>
      let fraction := afterPoint.takeWhile Char.isDigit
      if fraction.isEmpty then (.malformed, [])
      else
        let (longer, ignored) := absorb significand fraction
        exponentPart negative longer (exponent - ((fraction.length - ignored.length : Nat) : Int))
          (afterPoint.dropWhile Char.isDigit)
    | c :: _ =>
      if c = 'e' ∨ c = 'E' ∨ ¬ dropped.isEmpty then exponentPart negative significand exponent rest
      else (whole significand, rest)
    | [] =>
      if dropped.isEmpty then (whole significand, [])
      else exponentPart negative significand exponent []
where
  /-- Zero has a sign only as a double, and so has what is below the signed range. -/
  whole (significand : Nat) : Json :=
    if negative then
      if significand = 0 ∨ 9223372036854775808 < significand then
        ofReal? true (some significand.toUInt64.toFloat)
      else .integer (-(significand : Int))
    else .integer significand

/-! ### Values -/

/-- The text after `word`, if it starts with it. -/
def after? : List Char → List Char → Option (List Char)
  | [], text => some text
  | _ :: _, [] => none
  | w :: word, c :: text => if w = c then after? word text else none

def literal (word : String) (value : Json) (text : List Char) : Json × List Char :=
  match after? word.toList text with
  | some rest => (value, rest)
  | none => (.malformed, [])

mutual

/-- Reads one value and gives the text after it, which is empty once the text is malformed. -/
def readValue : Nat → List Char → Json × List Char
  | 0, _ => (.malformed, [])
  | fuel + 1, text =>
    match skipBlanks text with
    | [] => (.malformed, [])
    | '{' :: rest =>
      match skipBlanks rest with
      | '}' :: rest => (.object [], rest)
      | rest =>
        let (members, rest) := readMembers fuel rest
        (.object members, rest)
    | '[' :: rest =>
      match skipBlanks rest with
      | ']' :: rest => (.array [], rest)
      | rest =>
        let (elements, rest) := readElements fuel rest
        (.array elements, rest)
    | '"' :: rest =>
      match pieces rest with
      | none => (.malformed, [])
      | some (found, rest) =>
        match assemble found with
        | none => (.valueless, rest)
        | some content => (.string (String.ofList content), rest)
    | '-' :: rest => number true rest
    | c :: rest =>
      if c.isDigit then number false (c :: rest)
      else if c = 'n' then literal "null" .null (c :: rest)
      else if c = 't' then literal "true" (.bool true) (c :: rest)
      else if c = 'f' then literal "false" (.bool false) (c :: rest)
      else (.malformed, [])

/-- The elements of an array up to its closing bracket. -/
def readElements : Nat → List Char → List Json × List Char
  | 0, _ => ([.malformed], [])
  | fuel + 1, text =>
    let (value, rest) := readValue fuel text
    match skipBlanks rest with
    | ',' :: rest =>
      let (values, rest) := readElements fuel rest
      (value :: values, rest)
    | ']' :: rest => ([value], rest)
    | _ => ([value, .malformed], [])

/-- The members of an object up to its closing brace. -/
def readMembers : Nat → List Char → List (String × Json) × List Char
  | 0, _ => ([("", .malformed)], [])
  | fuel + 1, text =>
    match skipBlanks text with
    | '"' :: rest =>
      match pieces rest with
      | none => ([("", .malformed)], [])
      | some (found, rest) =>
        match assemble found with
        | none => ([("", .malformed)], [])
        | some content =>
          let key := String.ofList content
          match skipBlanks rest with
          | ':' :: rest =>
            let (value, rest) := readValue fuel rest
            match skipBlanks rest with
            | ',' :: rest =>
              let (members, rest) := readMembers fuel rest
              ((key, value) :: members, rest)
            | '}' :: rest => ([(key, value)], rest)
            | _ => ([(key, value), ("", .malformed)], [])
          | _ => ([(key, .malformed)], [])
    | _ => ([("", .malformed)], [])

end

/-- A text read as one value; `trailing` tells whether more than blanks follow it. -/
structure Document where
  value : Json
  trailing : Bool

def read (text : String) : Document :=
  let (value, rest) := readValue (2 * text.length + 2) text.toList
  ⟨value, !(skipBlanks rest).isEmpty⟩

/-- The longest prefix that is UTF-8. -/
def validHead (bytes : ByteArray) : Nat → String
  | 0 => ""
  | n + 1 =>
    match String.fromUTF8? (bytes.extract 0 (n + 1)) with
    | some text => text
    | none => validHead bytes n

/-- Bytes read as text; what is not UTF-8 is cut off, and a character that JSON never allows stands
in its place. -/
def readBytes (bytes : ByteArray) : Document :=
  match String.fromUTF8? bytes with
  | some text => read text
  | none => read ((validHead bytes bytes.size).push '\x00')

end Json

end MutationTesting

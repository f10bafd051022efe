import MutationTesting.Pattern.Reader
import MutationTesting.Source.Language

/-!
Tokens of source files. Blanks and comments stand between tokens and are left out. Directives that
do not govern what follows, such as definitions, are one token with their line; a condition ends
with a token for the end of its line. A greater-than sign is always a token of its own, since it may
end a list of template arguments; what it forms with the next signs is decided where it is read.
-/

namespace MutationTesting

inductive TokenKind where
  | word
  | number
  | character
  | text
  | sign
  /-- A directive that parts of the file depend on. -/
  | directive
  /-- Another directive, with all of its line. -/
  | line
  /-- The end of the line of a condition. -/
  | lineEnd
  /-- What is no token. -/
  | invalid
  deriving DecidableEq, Inhabited

structure Token where
  kind : TokenKind
  text : String
  start : Nat
  stop : Nat
  deriving DecidableEq, Inhabited

namespace Lexer

/-! ### Sizes of tokens, as numbers of characters -/

def isSpace (c : Char) : Bool :=
  c = ' ' || c = '\t' || c = '\n' || c = '\r' || c = '\x0b' || c = '\x0c'

/-- A line comment after its slashes; a backslash continues it on the next line. -/
def lineCommentSize : List Char → Nat
  | [] => 0
  | '\n' :: _ => 0
  | '\\' :: '\r' :: '\n' :: rest => lineCommentSize rest + 3
  | '\\' :: _ :: rest => lineCommentSize rest + 2
  | _ :: rest => lineCommentSize rest + 1

/-- A block comment after its opening sign, if it ends. -/
def blockCommentSize? : List Char → Option Nat
  | [] => none
  | '*' :: '/' :: _ => some 2
  | _ :: rest => (blockCommentSize? rest).map (· + 1)

def isNameStart (c : Char) : Bool :=
  c.isAlpha || c = '_' || c = '$' || (c.toNat ≥ 0x80 && Text.identifierStart.contains c)

def isNamePart (c : Char) : Bool :=
  c.isAlphanum || c = '_' || c = '$' || (c.toNat ≥ 0x80 && Text.identifierContinue.contains c)

/-- A character in a name by its number. -/
def escapedPartSize : List Char → Nat
  | '\\' :: 'u' :: rest => if (rest.take 4).countP Pattern.Escape.isHexDigit = 4 then 6 else 0
  | '\\' :: 'U' :: rest => if (rest.take 8).countP Pattern.Escape.isHexDigit = 8 then 10 else 0
  | _ => 0

/-- The rest of a name. -/
def namePartsSize : Nat → List Char → Nat
  | 0, _ => 0
  | _ + 1, [] => 0
  | fuel + 1, c :: rest =>
    if isNamePart c then namePartsSize fuel rest + 1
    else
      match escapedPartSize (c :: rest) with
      | 0 => 0
      | n => n + namePartsSize fuel ((c :: rest).drop n)

def nameSize : List Char → Nat
  | [] => 0
  | c :: rest =>
    if isNameStart c then namePartsSize rest.length rest + 1
    else
      match escapedPartSize (c :: rest) with
      | 0 => 0
      | n => n + namePartsSize rest.length ((c :: rest).drop n)

/-- Numbers: decimal, hexadecimal or binary digits, which single quotes may part, with a fraction,
an exponent and letters for their type. -/
def numberPattern : String :=
  "(?:0[xX]|0[bB])?(?:(?:[0-9]+(?:'[0-9]+)*|0[bB][0-9]+(?:'[0-9]+)*"
    ++ "|0[xX][0-9a-fA-F]+(?:'[0-9a-fA-F]+)*)(?:\\.(?:[0-9a-fA-F]+(?:'[0-9a-fA-F]+)*)?)?"
    ++ "|\\.[0-9]+(?:'[0-9]+)*)(?:[eEpP](?:[-+]?[0-9a-fA-F]+(?:'[0-9a-fA-F]+)*)?)?[uUlLwWfFbBdD]*"

def numberExpression : Pattern.Expression := (Pattern.read? numberPattern).getD .empty

def isNumberPart (c : Char) : Bool := c.isAlphanum || c = '.' || c = '\'' || c = '+' || c = '-'

/-- The longest number that the text begins with. -/
def numberSize (chars : List Char) : Nat :=
  let part := (chars.takeWhile isNumberPart).toArray
  (numberExpression.reach part [0]).foldl max 0

/-- A sign after a backslash in a literal: any but those that begin numbers, or a number. -/
def escapeSize : List Char → Nat
  | 'x' :: rest =>
    let digits := ((rest.take 4).takeWhile Pattern.Escape.isHexDigit).length
    if digits = 0 then 0 else digits + 1
  | 'u' :: rest => if (rest.take 4).countP Pattern.Escape.isHexDigit = 4 then 5 else 0
  | 'U' :: rest => if (rest.take 8).countP Pattern.Escape.isHexDigit = 8 then 9 else 0
  | _ :: _ => 1
  | [] => 0

/-- A literal after its opening quote, with the closing one; it stays on its line. -/
def literalSize? (quote : Char) : Nat → List Char → Option Nat
  | 0, _ => none
  | _ + 1, [] => none
  | fuel + 1, c :: rest =>
    if c = quote then some 1
    else if c = '\n' then none
    else if c = '\\' then
      match escapeSize rest with
      | 0 => none
      | n => (literalSize? quote fuel (rest.drop n)).map (· + n + 1)
    else (literalSize? quote fuel rest).map (· + 1)

/-- A raw text up to its closing bracket, delimiter and quote. -/
def rawEndSize? (closing : List Char) : List Char → Option Nat
  | [] => none
  | c :: rest =>
    if closing.isPrefixOf (c :: rest) then some closing.length
    else (rawEndSize? closing rest).map (· + 1)

/-- A raw text after its opening quote. -/
def rawSize? (chars : List Char) : Option Nat :=
  let delimiter := chars.takeWhile fun c => c != '(' && c != '\\' && !isSpace c
  match chars.drop delimiter.length with
  | '(' :: rest =>
    (rawEndSize? (')' :: delimiter ++ ['"']) rest).map (· + delimiter.length + 1)
  | _ => none

/-- Signs of several characters, longer ones first. -/
def signs : Language → List String
  | .c =>
    ["...", "<<=", "->", "++", "--", "<<", "<=", "==", "!=", "&&", "||", "+=", "-=", "*=", "/=",
      "%=", "&=", "^=", "|=", "::"]
  | .cpp =>
    ["...", "<<=", "<=>", "->", "++", "--", "<<", "<=", "==", "!=", "&&", "||", "+=", "-=", "*=",
      "/=", "%=", "&=", "^=", "|=", "::", ".*"]

/-! ### Directives -/

/-- What follows blanks within a line and block comments. -/
def skipInLine : Nat → List Char → List Char
  | 0, chars => chars
  | fuel + 1, c :: rest =>
    if c = ' ' || c = '\t' || c = '\r' then skipInLine fuel rest
    else
      match c, rest with
      | '\\', '\n' :: rest => skipInLine fuel rest
      | '\\', '\r' :: '\n' :: rest => skipInLine fuel rest
      | '/', '*' :: more =>
        match blockCommentSize? more with
        | some n => skipInLine fuel (more.drop n)
        | none => c :: rest
      | '/', '/' :: more => skipInLine fuel (more.drop (lineCommentSize more))
      | _, _ => c :: rest
  | _ + 1, [] => []

/-- Text up to the end of its line or to a block comment; a backslash continues it. -/
def replacementSize : List Char → Nat
  | [] => 0
  | '\n' :: _ => 0
  | '/' :: '*' :: _ => 0
  | '\\' :: '\n' :: rest => replacementSize rest + 2
  | '\\' :: '\r' :: '\n' :: rest => replacementSize rest + 3
  | _ :: rest => replacementSize rest + 1

/-- The end of a line, after blanks and comments. -/
def lineBreak? (chars : List Char) : Option (List Char) :=
  match skipInLine (chars.length + 1) chars with
  | '\n' :: rest => some rest
  | _ => none

/-- An optional text up to the end of the line. -/
def afterReplacement? (chars : List Char) : Option (List Char) :=
  let chars := skipInLine (chars.length + 1) chars
  lineBreak? (chars.drop (replacementSize chars))

/-- The parameters of a definition after their opening parenthesis. -/
def afterParameters? : Nat → (needed : Bool) → List Char → Option (List Char)
  | 0, _, _ => none
  | fuel + 1, needed, chars =>
    match skipInLine (chars.length + 1) chars with
    | ')' :: rest => if needed then none else some rest
    | chars =>
      let n := if ['.', '.', '.'].isPrefixOf chars then 3 else nameSize chars
      if n = 0 then none
      else
        let rest := chars.drop n
        match skipInLine (rest.length + 1) rest with
        | ')' :: rest => some rest
        | ',' :: rest => afterParameters? fuel true rest
        | _ => none

def afterDefinition? (chars : List Char) : Option (List Char) :=
  let chars := skipInLine (chars.length + 1) chars
  match nameSize chars with
  | 0 => none
  | n =>
    match chars.drop n with
    | '(' :: rest => (afterParameters? (rest.length + 1) false rest).bind afterReplacement?
    | rest => afterReplacement? rest

/-- A file name in angle brackets, after the first. -/
def bracketedSize? : List Char → Option Nat
  | [] => none
  | '\n' :: _ => none
  | '>' :: _ => some 1
  | '\\' :: '>' :: rest => (bracketedSize? rest).map (· + 2)
  | _ :: rest => (bracketedSize? rest).map (· + 1)

def afterInclusion? (chars : List Char) : Option (List Char) :=
  match skipInLine (chars.length + 1) chars with
  | '"' :: rest => do
    let n ← literalSize? '"' (rest.length + 1) rest
    lineBreak? (rest.drop n)
  | '<' :: rest => do
    let n ← bracketedSize? rest
    lineBreak? (rest.drop n)
  | chars =>
    match nameSize chars with
    | 0 => none
    | n => lineBreak? (chars.drop n)

/-- Directives that parts of the file depend on. -/
def governing : List String :=
  ["if", "ifdef", "ifndef", "elif", "elifdef", "elifndef", "else", "endif"]

/-- The rest of the line of any other directive. -/
def afterDirective? (name : String) (chars : List Char) : Option (List Char) :=
  if name = "define" then afterDefinition? chars
  else if name = "include" then afterInclusion? chars
  else afterReplacement? chars

/-! ### Texts -/

def byteSize (chars : List Char) : Nat := chars.foldl (fun n c => n + c.utf8Size) 0

/-- The size of the literal or name that the text begins with, and its kind. In C++ a literal may
have a name as its suffix. -/
def wordSize (language : Language) (chars : List Char) : Option (TokenKind × Nat) :=
  let name := nameSize chars
  let before := String.ofList (chars.take name)
  let after := chars.drop name
  let closed (kind : TokenKind) (n : Nat) : Option (TokenKind × Nat) :=
    let suffix := if language = .cpp then nameSize (chars.drop n) else 0
    some (kind, n + suffix)
  let isMark := name = 0 || ["L", "u", "U", "u8"].contains before
  match after with
  | '"' :: rest =>
    if isMark then
      match literalSize? '"' (rest.length + 1) rest with
      | some n => closed .text (name + n + 1)
      | none => none
    else if language = .cpp && ["R", "LR", "uR", "UR", "u8R"].contains before then
      match rawSize? rest with
      | some n => closed .text (name + n + 1)
      | none => none
    else some (.word, name)
  | '\'' :: rest =>
    if isMark then
      match literalSize? '\'' (rest.length + 1) rest with
      | some n => if n ≤ 1 then none else closed .character (name + n + 1)
      | none => none
    else some (.word, name)
  | _ =>
    if name > 0 then some (.word, name)
    else
      match numberSize chars with
      | 0 => none
      | n => closed .number n

def signSize (language : Language) (chars : List Char) : Nat :=
  match (signs language).find? fun s => s.toList.isPrefixOf chars with
  | some s => s.length
  | none => 1

/-- What stands between tokens. -/
def gapSize (chars : List Char) : Nat :=
  match chars with
  | '\\' :: '\n' :: _ => 2
  | '\\' :: '\r' :: '\n' :: _ => 3
  | '/' :: '/' :: rest => lineCommentSize rest + 2
  | '/' :: '*' :: rest =>
    match blockCommentSize? rest with
    | some n => n + 2
    | none => 0
  | c :: _ => if isSpace c then 1 else 0
  | [] => 0

/-- The tokens from an offset on; in a condition the end of the line is one. -/
def tokensFrom (language : Language) : Nat → (inCondition : Bool) → Nat → List Char → List Token
  | 0, _, _, _ => []
  | _ + 1, _, _, [] => []
  | fuel + 1, inCondition, offset, c :: rest =>
    let chars := c :: rest
    let emit (kind : TokenKind) (text : String) (n : Nat) (inCondition : Bool) : List Token :=
      let stop := offset + byteSize (chars.take n)
      ⟨kind, text, offset, stop⟩ :: tokensFrom language fuel inCondition stop (chars.drop n)
    if inCondition && c = '\n' then emit .lineEnd "" 1 false
    else
      match gapSize chars with
      | 0 =>
        if c = '#' then
          let blanks := (rest.takeWhile fun c => c = ' ' || c = '\t').length
          let name := (rest.drop blanks).takeWhile fun c => c.isAlphanum || c = '_'
          let text := String.ofList name
          let size := 1 + blanks + name.length
          if name.isEmpty then emit .invalid "#" 1 inCondition
          else if governing.contains text then
            emit .directive text size (text = "if" || text = "elif")
          else
            match afterDirective? text (chars.drop size) with
            | some after => emit .line text (chars.length - after.length) false
            | none => emit .invalid text size inCondition
        else if c = '"' || c = '\'' || c.isDigit || nameSize chars > 0
            || (c = '.' && rest.head?.any Char.isDigit) then
          match wordSize language chars with
          | some (kind, n) => emit kind (String.ofList (chars.take n)) n inCondition
          | none => emit .invalid "" 1 inCondition
        else
          let n := signSize language chars
          emit .sign (String.ofList (chars.take n)) n inCondition
      | n => tokensFrom language fuel inCondition (offset + byteSize (chars.take n)) (chars.drop n)

/-- The tokens of a text; a mark of byte order at its start does not count. -/
def tokens (language : Language) (text : String) : List Token :=
  match text.toList with
  | '\ufeff' :: rest => tokensFrom language (rest.length + 1) false 3 rest
  | chars => tokensFrom language (chars.length + 1) false 0 chars

end Lexer

end MutationTesting

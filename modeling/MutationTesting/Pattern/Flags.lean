import MutationTesting.Pattern.Expression
import MutationTesting.Pattern.Named
import MutationTesting.Text.Folding
import MutationTesting.Text.Blank

/-!
The flags of pattern notation, and what they make of sets: letters of either case, the characters
that classes such as `\\d` stand for, and the blanks between signs.
-/

namespace MutationTesting.Pattern

open Text (CharSet)

/-- The flags in force at a place of a pattern. -/
structure Flags where
  ignoreCase : Bool
  multiLine : Bool
  dotAll : Bool
  unicode : Bool
  /-- Blanks and comments stand between signs. -/
  blanks : Bool
  anyLineEnd : Bool
  deriving DecidableEq, Inhabited

namespace Flags

def initial : Flags := ⟨false, false, false, true, false, false⟩

/-- Sets or clears the flag of a letter; `U`, which asks for shorter matches, has no bearing here.
-/
def set? (flags : Flags) (letter : Char) (value : Bool) : Option Flags :=
  match letter with
  | 'i' => some { flags with ignoreCase := value }
  | 'm' => some { flags with multiLine := value }
  | 's' => some { flags with dotAll := value }
  | 'u' => some { flags with unicode := value }
  | 'x' => some { flags with blanks := value }
  | 'R' => some { flags with anyLineEnd := value }
  | 'U' => some flags
  | _ => none

/-- What follows blanks and comments, which reach to the end of their line. -/
def afterBlanks : (inComment : Bool) → List Char → List Char
  | _, [] => []
  | true, c :: rest => afterBlanks (c != '\n') rest
  | false, c :: rest =>
    if c = '#' then afterBlanks true rest
    else if Text.isBlank c then afterBlanks false rest
    else c :: rest

def skip (flags : Flags) (chars : List Char) : List Char :=
  if flags.blanks then afterBlanks false chars else chars

/-- Characters are code points, or bytes without the Unicode flag; this is the set of all. -/
def everything (flags : Flags) : CharSet :=
  if flags.unicode then CharSet.full else CharSet.range 0 0xFF

def complement (flags : Flags) (s : CharSet) : CharSet := flags.everything.diff s

/-- Closes a set under change of case where case does not count. -/
def closed (flags : Flags) (s : CharSet) : CharSet :=
  if !flags.ignoreCase then s
  else if flags.unicode then Text.Folding.close s
  else
    let letters := Named.asciiAlpha.inter s
    s.union ⟨letters.ranges.flatMap fun r =>
      [(r.1 + 32, r.2 + 32), (r.1 - 32, r.2 - 32)].filter fun r =>
        Named.asciiAlpha.containsCode r.1 && Named.asciiAlpha.containsCode r.2⟩

/-- Only sets of whole characters can occur in text: a byte from 128 on is part of one. -/
def valid? (flags : Flags) (s : CharSet) : Option CharSet :=
  if flags.unicode || (s.diff (CharSet.range 0 0x7F)).ranges.isEmpty then some s else none

def word (flags : Flags) : CharSet :=
  if flags.unicode then Text.wordCharacter else Named.asciiWord

/-- The sets of the letters `d`, `s` and `w` and, in upper case, their complements. -/
def letterClass? (flags : Flags) (letter : Char) : Option CharSet :=
  let pick (wide narrow : CharSet) := if flags.unicode then wide else narrow
  match letter with
  | 'd' => some (pick Text.decimalNumber Named.asciiDigit)
  | 's' => some (pick Text.whiteSpace Named.asciiSpace)
  | 'w' => some flags.word
  | 'D' => flags.valid? (flags.complement (pick Text.decimalNumber Named.asciiDigit))
  | 'S' => flags.valid? (flags.complement (pick Text.whiteSpace Named.asciiSpace))
  | 'W' => flags.valid? (flags.complement flags.word)
  | _ => none

/-- The set of a full stop. -/
def dot? (flags : Flags) : Option CharSet :=
  let ends :=
    if flags.anyLineEnd then [CharSet.ofChar '\n', CharSet.ofChar '\r'] else [CharSet.ofChar '\n']
  flags.valid? (if flags.dotAll then flags.everything else flags.complement (CharSet.unions ends))

def lineStart (flags : Flags) : Boundary :=
  if !flags.multiLine then .textStart else if flags.anyLineEnd then .anyLineStart else .lineStart

def lineEnd (flags : Flags) : Boundary :=
  if !flags.multiLine then .textEnd else if flags.anyLineEnd then .anyLineEnd else .lineEnd

end Flags

end MutationTesting.Pattern

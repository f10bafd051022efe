import MutationTesting.Source.Grammar.Statement

/-!
Conditions of directives, which know names, numbers, characters and calls with them.
-/

namespace MutationTesting.Grammar

open Recognizer

namespace Rules

/-- Within an expression that is not complete the end of a line does not count. -/
def skipLineEnds : Recognizer Unit := many (satisfy fun t => t.kind = .lineEnd)

def conditionOperand (g : Rules) : Recognizer Unit := do
  skipLineEnds
  many do
    discard (satisfy fun t => t.kind = .sign && ["!", "~", "-", "+"].contains t.text)
    skipLineEnds
  firstOf [
    do
      word "defined"
      anyWord <|> parens anyWord,
    do
      anyWord
      possibly (parens (commas (g.read (.condition 1)))),
    discard (satisfy fun t => t.kind = .number || t.kind = .character),
    parens (g.read (.condition 1))]

def condition (g : Rules) (level : Nat) : Recognizer Unit := do
  skipLineEnds
  let start ← position
  g.conditionOperand
  many do
    let (s, l) ← { g with language := .c }.binaryOperator level false
    g.read (.condition (l + 1))
    wrap .binary s start

end Rules

end MutationTesting.Grammar

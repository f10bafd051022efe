import MutationTesting.Source.Cursor

/-!
What the rules of the grammar can ask for. The rules are written against a recogniser of goals,
which is made of the rules themselves at the end, so that each can be read on its own.
-/

namespace MutationTesting.Grammar

/-- What the parts around an operand leave to it. -/
structure OperandMode where
  /-- A greater-than sign ends the template arguments that the operand stands in. -/
  closed : Bool
  /-- An increment or decrement may follow. -/
  updated : Bool
  /-- The operand says what an indirection before it applies to, and is nothing to assign to by
  itself. -/
  pointed : Bool
  deriving DecidableEq, Inhabited

inductive Goal where
  | expression (closed : Bool)
  | conditional (closed : Bool)
  /-- Binary operations of at least some level. -/
  | operation (level : Nat) (closed : Bool)
  | operand (mode : OperandMode)
  /-- Expressions with commas between them. -/
  | comma
  | initializer
  | typeName
  | specifiers
  | declarator
  | abstractDeclarator
  | parameters
  | declaration
  | compound
  | statement
  | item
  | fields
  | enumerators
  | templateArguments
  | templateParameters
  /-- Binary operations of at least some level in the condition of a directive. -/
  | condition (level : Nat)
  deriving DecidableEq, Inhabited

/-- The form of what a rule has read, where that decides what may follow. -/
inductive Form where
  /-- An expression that can be assigned to in C. -/
  | place
  | operation
  | value
  /-- A type that consists of a name, and so may be an expression as well. -/
  | name
  | type
  deriving DecidableEq, Inhabited

structure Rules where
  language : Language
  goal : Goal → Recognizer Form

namespace Rules

def read (g : Rules) (goal : Goal) : Recognizer Unit := discard (g.goal goal)

def inCpp (g : Rules) : Recognizer Unit := Recognizer.check (g.language = .cpp)

def inC (g : Rules) : Recognizer Unit := Recognizer.check (g.language = .c)

/-- A word that is no reserved one. -/
def identifier (g : Rules) : Recognizer Unit :=
  discard (Recognizer.satisfy fun t => t.kind = .word && !g.language.reserved t.text)

def expression (g : Rules) : Recognizer Unit := g.read (.expression false)

/-- A text, in C++ also one with a suffix. -/
def textLiteral : Recognizer Unit := discard (Recognizer.satisfy fun t => t.kind = .text)

open Recognizer in
/-- A list of arguments in parentheses. -/
def arguments (g : Rules) : Recognizer Unit :=
  parens (commas (firstOf [
    do
      g.inCpp
      g.read .initializer
      possibly (sign "..."),
    do
      g.expression
      possibly (do g.inCpp; sign "..."),
    g.read .compound]))

open Recognizer in
/-- Attributes in double brackets. -/
def attributeDeclaration (g : Rules) : Recognizer Unit := do
  let outer ← satisfy (isSign "[")
  let inner ← satisfy (isSign "[")
  check (inner.start = outer.stop)
  commas1 do
    anyWord
    possibly (do sign "::"; anyWord)
    possibly g.arguments
  let inner ← satisfy (isSign "]")
  let outer ← satisfy (isSign "]")
  check (outer.start = inner.stop)

open Recognizer in
def attributeSpecifier (g : Rules) : Recognizer Unit := do
  discard (wordOf Language.attributeWords)
  parens g.arguments

open Recognizer in
/-- Assembler text with its operands. -/
def assembly (g : Rules) : Recognizer Unit := do
  discard (wordOf Language.assemblyWords)
  many (wordOf ["volatile", "__volatile__", "inline", "goto"])
  let operand : Recognizer Unit := do
    possibly (brackets g.identifier)
    textLiteral
    possibly (parens g.expression)
  parens do
    many1 textLiteral
    many do
      -- an absent list leaves two colons together
      sign ":" <|> sign "::"
      commas (operand <|> g.identifier)

end Rules

end MutationTesting.Grammar

import MutationTesting.Source.Grammar.Condition

/-!
The grammar as a whole: each goal has its rule, and a file is a sequence of items. Rules lie in each
other as deeply as the text has tokens at most, with some rules for each.
-/

namespace MutationTesting.Grammar

open Recognizer

/-- A rule that has no form to report. -/
def plain (r : Recognizer Unit) : Recognizer Form := do
  r
  return .value

/-- The rule of a goal. -/
def rule (g : Rules) : Goal → Recognizer Form
  | .expression closed => g.fullExpression closed
  | .conditional closed => g.conditionalWith closed (.conditional closed)
  | .operation level closed => g.operation level closed
  | .operand mode => g.operand mode
  | .comma => g.commaExpression
  | .initializer => plain g.initializer
  | .typeName => g.typeName
  | .specifiers => g.specifiers
  | .declarator => plain g.declarator
  | .abstractDeclarator => plain g.abstractDeclarator
  | .parameters => plain g.parameters
  | .declaration => plain g.declaration
  | .compound => plain g.compound
  | .statement => plain g.statement
  | .item => plain g.item
  | .fields => plain g.fields
  | .enumerators => plain g.enumerators
  | .templateArguments => plain g.templateArguments
  | .templateParameters => plain g.templateParameters
  | .condition level => plain (g.condition level)

/-- The recogniser of goals in which rules lie in each other at most `depth` times. -/
def recognize (language : Language) : (depth : Nat) → Goal → Recognizer Form
  | 0, _ => fail
  | depth + 1, goal => rule ⟨language, recognize language depth⟩ goal

/-- All items of a file, up to its end. -/
def file (language : Language) (depth : Nat) : Recognizer Unit := do
  let g : Rules := ⟨language, recognize language depth⟩
  g.itemsWith g.topItem
  check (← get).rest.isEmpty

end MutationTesting.Grammar

namespace MutationTesting.SyntaxTree

/-- The tree of a source text; a text with an error has none. -/
def ofText? (language : Language) (text : String) : Option SyntaxTree :=
  let tokens := Lexer.tokens language text
  match Grammar.file language (8 * tokens.length + 8) ⟨tokens, 0, []⟩ with
  | some (_, c) => some (.node none 0 text.utf8ByteSize c.trees.reverse)
  | none => none

end MutationTesting.SyntaxTree

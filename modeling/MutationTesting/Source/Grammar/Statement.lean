import MutationTesting.Source.Grammar.Declaration

/-!
Statements, and the items of blocks and files. Where an item may be read both as a declaration and
as an expression it is a declaration.
-/

namespace MutationTesting.Grammar

open Recognizer

namespace Rules

/-- An expression, perhaps with commas, that may be left out. -/
def possibleExpression (g : Rules) : Recognizer Unit := possibly (g.read .comma)

def expressionStatement (g : Rules) : Recognizer Unit := do
  g.possibleExpression
  sign ";"

/-- An expression by itself outside of any function, which is no binary operation. -/
def topExpressionStatement (g : Rules) : Recognizer Unit := do
  possibly do
    let form ← g.goal (.expression false)
    check (form ≠ .operation)
  sign ";"

/-- A declaration with a value, as the condition of a statement. -/
def conditionDeclaration (g : Rules) : Recognizer Unit := do
  g.read .specifiers
  g.read .declarator
  firstOf [
    do
      sign "="
      g.expression,
    g.read .initializer]

/-- What may stand before a condition or a loop over a range. -/
def initStatement (g : Rules) : Recognizer Unit :=
  firstOf [
    g.usingDeclaration,
    g.typeDefinition,
    g.read .declaration,
    g.expressionStatement]

/-- The condition of a statement in its parentheses. -/
def conditionClause (g : Rules) : Recognizer Unit :=
  match g.language with
  | .c => g.parenthesized
  | .cpp =>
    parens (firstOf [
      do
        g.conditionDeclaration
        foreseen (sign ")"),
      do
        g.read .comma
        foreseen (sign ")"),
      do
        g.initStatement
        g.conditionDeclaration
        foreseen (sign ")"),
      do
        g.initStatement
        g.read .comma])

def elseClause (g : Rules) : Recognizer Unit := do
  word "else"
  g.read .statement

def ifStatement (g : Rules) : Recognizer Unit := do
  word "if"
  firstOf [
    do
      g.inCpp
      possibly (sign "!")
      word "consteval",
    do
      possibly (do g.inCpp; word "constexpr")
      g.conditionClause]
  g.read .statement
  possibly g.elseClause

/-- What a loop goes over. -/
def rangeHead (g : Rules) : Recognizer Unit := do
  g.inCpp
  let loopVariable : Recognizer Unit := do
    g.read .specifiers
    g.read .declarator
    sign ":"
  loopVariable <|> (do g.initStatement; loopVariable)
  g.read .initializer <|> g.expression

def forStatement (g : Rules) : Recognizer Unit := do
  word "for"
  parens (firstOf [
    do
      g.rangeHead
      foreseen (sign ")"),
    do
      g.read .declaration <|> g.expressionStatement
      g.possibleExpression
      sign ";"
      g.possibleExpression])
  g.read .statement

def doStatement (g : Rules) : Recognizer Unit := do
  word "do"
  g.read .statement
  word "while"
  g.parenthesized
  sign ";"

/-- Handlers of structured exceptions. -/
def guardedBlock (g : Rules) : Recognizer Unit := do
  word "__try"
  g.read .compound
  firstOf [
    do
      word "__except"
      g.parenthesized
      g.read .compound,
    do
      word "__finally"
      g.read .compound]

/-- Statements that leave the place they stand at. -/
def jumpStatement (g : Rules) : Recognizer Unit :=
  firstOf [
    do
      word "return"
      (do g.inCpp; g.read .initializer) <|> g.possibleExpression,
    do
      discard (wordOf ["break", "continue", "__leave"]),
    do
      word "goto"
      g.identifier,
    do
      g.inCpp
      word "throw"
      possibly g.expression,
    do
      g.inCpp
      discard (wordOf ["co_return", "co_yield"])
      g.read .initializer <|> g.possibleExpression]

/-- Statements that begin with a word or a brace of their own. -/
def markedStatement (g : Rules) : Recognizer Unit :=
  firstOf [
    g.read .compound,
    g.ifStatement,
    do
      word "switch"
      g.conditionClause
      g.read .compound,
    do
      word "while"
      g.conditionClause
      g.read .statement,
    g.doStatement,
    g.forStatement,
    do
      g.jumpStatement
      sign ";",
    g.guardedBlock,
    g.tryBlock]

def label (g : Rules) : Recognizer Unit := do
  g.identifier
  sign ":"

def nonCaseStatement (g : Rules) : Recognizer Unit :=
  firstOf [
    g.markedStatement,
    do
      g.label
      g.read .declaration <|> g.read .statement,
    do
      many1 g.attributeDeclaration
      g.read .statement,
    g.expressionStatement]

def caseStatement (g : Rules) : Recognizer Unit := do
  firstOf [
    do
      word "case"
      g.expression
      possibly (do sign "..."; g.expression),
    word "default"]
  sign ":"
  many (firstOf [
    g.markedStatement,
    g.typeDefinition,
    do
      absent g.label
      g.read .declaration,
    g.nonCaseStatement])

def statement (g : Rules) : Recognizer Unit := g.nonCaseStatement <|> g.caseStatement

/-- What a file or a block is made of. -/
def itemWith (g : Rules) (expression : Recognizer Unit) : Recognizer Unit :=
  firstOf [
    g.markedStatement,
    g.caseStatement,
    sign ";",
    do
      g.label
      g.read .declaration <|> g.read .statement,
    g.linkage,
    g.typeDefinition,
    g.namespaceItem,
    g.template,
    g.templateInstance,
    g.usingDeclaration,
    g.staticAssertion,
    g.concept,
    g.emptyDeclaration,
    g.functionDefinition,
    g.read .declaration,
    g.constructorDefinition,
    do
      foreseen (do many g.constructorModifier; possibly (do g.typePath; sign "::"); word "operator")
      g.conversion,
    do
      many1 g.attributeDeclaration
      g.read .statement,
    expression]

def item (g : Rules) : Recognizer Unit := g.itemWith g.expressionStatement

def topItem (g : Rules) : Recognizer Unit := g.itemWith g.topExpressionStatement

def compound (g : Rules) : Recognizer Unit := braces (g.itemsWith (g.read .item))

end Rules

end MutationTesting.Grammar

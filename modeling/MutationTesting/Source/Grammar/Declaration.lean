import MutationTesting.Source.Grammar.Type

/-!
Declarations and definitions, the members of structures and classes, and templates.
-/

namespace MutationTesting.Grammar

open Recognizer

/-- Items that parts of a file hold, among which conditional groups and other directives may stand.
-/
def withDirectives (g : Rules) (item : Recognizer Unit) : Nat → Recognizer Unit
  | 0 => fail
  | depth + 1 =>
    let items : Recognizer Unit := many (withDirectives g item depth)
    let condition : Recognizer Unit := do
      g.read (.condition 1)
      discard (satisfy fun t => t.kind = .lineEnd)
    let named (words : List String) : Recognizer Unit := do
      discard (satisfy fun t => t.kind = .directive && words.contains t.text)
      anyWord
    firstOf [
      discard (satisfy fun t => t.kind = .line),
      do
        (do directive "if"; condition) <|> named ["ifdef", "ifndef"]
        items
        many do
          (do directive "elif"; condition) <|> named ["elifdef", "elifndef"]
          items
        possibly do
          directive "else"
          items
        directive "endif",
      item]

namespace Rules

/-- As many conditional groups may lie in each other as there are tokens. -/
def itemsWith (g : Rules) (item : Recognizer Unit) : Recognizer Unit := do
  many (withDirectives g item ((← get).rest.length + 1))

def initialValue (g : Rules) : Recognizer Unit :=
  firstOf [
    do
      sign "="
      g.read .initializer <|> g.expression,
    do
      g.inCpp
      g.read .initializer <|> g.arguments]

/-- A declarator with its initial value, if any. -/
def initDeclarator (g : Rules) : Recognizer Unit := do
  possibly callConvention
  g.read .declarator
  possibly g.assembly
  many g.attributeSpecifier
  possibly g.initialValue

def declaration (g : Rules) : Recognizer Unit := do
  g.read .specifiers
  commas1 g.initDeclarator
  sign ";"

/-- A type by itself. -/
def emptyDeclaration (g : Rules) : Recognizer Unit := do
  discard g.typeSpecifier
  sign ";"

def tryBlock (g : Rules) : Recognizer Unit := do
  g.inCpp
  word "try"
  g.read .compound
  many1 do
    word "catch"
    g.read .parameters
    g.read .compound

def functionBody (g : Rules) : Recognizer Unit := g.read .compound <|> g.tryBlock

/-- Function names that stand for text between parameters and body. -/
def trailingMacro (g : Rules) : Recognizer Unit := do
  g.inC
  g.identifier
  possibly g.arguments

def functionDefinition (g : Rules) : Recognizer Unit := do
  possibly callConvention
  g.read .specifiers
  possibly callConvention
  g.read .declarator
  firstOf [
    g.functionBody,
    -- parameters by name only, declared before the body
    do
      g.inC
      many1 (g.read .declaration)
      g.read .compound,
    do
      many1 g.trailingMacro
      g.functionBody]

def typeDefinition (g : Rules) : Recognizer Unit := do
  possibly (word "__extension__")
  word "typedef"
  many g.qualifier
  discard g.typeSpecifier
  many g.qualifier
  commas1 (g.read .declarator)
  many g.attributeSpecifier
  sign ";"

def linkage (g : Rules) : Recognizer Unit := do
  word "extern"
  textLiteral
  firstOf [
    braces (g.itemsWith (g.read .item)),
    g.functionDefinition,
    g.read .declaration]

/-! ### Classes -/

def constructorModifier (g : Rules) : Recognizer Unit :=
  firstOf [
    g.modifier,
    do
      g.inCpp
      word "explicit"
      possibly (parens g.expression)]

def memberInitializers (g : Rules) : Recognizer Unit := do
  sign ":"
  commas1 do
    g.typePath
    g.read .initializer <|> g.arguments
    possibly (sign "...")

/-- A function whose body the compiler makes, or that has none. -/
def givenBody : Recognizer Unit := do
  sign "="
  firstOf [word "default", word "delete",
    discard (satisfy fun t => t.kind = .number && t.text == "0")]
  sign ";"

/-- The name and parameters of a constructor or destructor. -/
def constructorHead (g : Rules) : Recognizer Unit := do
  g.inCpp
  many g.constructorModifier
  g.declaredName
  g.read .parameters
  g.functionSuffix

def constructorDefinition (g : Rules) : Recognizer Unit := do
  g.constructorHead
  firstOf [
    do
      possibly g.memberInitializers
      g.read .compound,
    do
      word "try"
      possibly g.memberInitializers
      g.read .compound
      many1 do
        word "catch"
        g.read .parameters
        g.read .compound,
    givenBody]

def constructorDeclaration (g : Rules) : Recognizer Unit := do
  g.constructorHead
  sign ";"

/-- A conversion to a type. -/
def conversion (g : Rules) : Recognizer Unit := do
  g.inCpp
  many g.constructorModifier
  possibly (do g.typePath; sign "::")
  word "operator"
  g.read .specifiers
  g.read .abstractDeclarator
  firstOf [
    g.functionBody,
    givenBody,
    sign ";"]

/-- A method with its body. -/
def method (g : Rules) : Recognizer Unit := do
  g.inCpp
  g.read .specifiers
  g.read .declarator
  g.functionBody <|> givenBody

def friend (g : Rules) : Recognizer Unit := do
  g.inCpp
  possibly (word "constexpr")
  word "friend"
  firstOf [
    g.read .declaration,
    g.functionDefinition,
    do
      possibly (wordOf ["class", "struct", "union"])
      g.typePath
      sign ";"]

def usingDeclaration (g : Rules) : Recognizer Unit := do
  g.inCpp
  word "using"
  firstOf [
    do
      g.identifier
      many g.attributeDeclaration
      sign "="
      g.read .typeName
      sign ";",
    do
      possibly (wordOf ["namespace", "enum"])
      possibly (word "typename")
      possibly (sign "::")
      g.identifier
      possibly g.templateArguments
      many do
        sign "::"
        firstOf [
          do
            g.identifier
            possibly g.templateArguments,
          g.operatorName,
          g.destructorName]
      sign ";"]

def staticAssertion (g : Rules) : Recognizer Unit := do
  g.inCpp
  word "static_assert"
  parens do
    g.expression
    possibly do
      sign ","
      g.texts
  sign ";"

/-- A declared member with its width or initial value. -/
def fieldDeclarator (g : Rules) : Recognizer Unit := do
  g.read .declarator
  possibly (firstOf [
    do
      sign ":"
      g.expression,
    do
      g.inCpp
      g.read .initializer,
    do
      g.inCpp
      sign "="
      g.read .initializer <|> g.expression])

def field (g : Rules) : Recognizer Unit := do
  g.read .specifiers
  firstOf [
    commas1 g.fieldDeclarator,
    do
      sign ":"
      g.expression,
    pure ()]
  possibly g.attributeSpecifier
  sign ";"

/-! ### Templates -/

def templateParameter (g : Rules) : Recognizer Unit :=
  let typeParameter : Recognizer Unit := do
    discard (wordOf ["typename", "class"])
    possibly (sign "...")
    possibly g.identifier
    possibly do
      sign "="
      g.read .typeName
    foreseen (sign "," <|> sign ">")
  firstOf [
    typeParameter,
    do
      word "template"
      g.read .templateParameters
      typeParameter,
    do
      g.read .specifiers
      possibly (firstOf [
        do
          sign "..."
          possibly g.identifier,
        g.read .declarator,
        g.read .abstractDeclarator])
      possibly do
        sign "="
        g.read (.expression true)]

def templateParameters (g : Rules) : Recognizer Unit := do
  g.inCpp
  sign "<"
  commas g.templateParameter
  sign ">"

def concept (g : Rules) : Recognizer Unit := do
  g.inCpp
  word "concept"
  g.identifier
  sign "="
  g.expression
  sign ";"

/-- What a template is of. -/
def templateBody (g : Rules) : Recognizer Unit :=
  firstOf [
    g.emptyDeclaration,
    g.functionDefinition,
    g.method,
    g.read .declaration,
    g.usingDeclaration,
    g.concept,
    g.friend,
    g.constructorDefinition,
    g.constructorDeclaration,
    g.conversion]

def template (g : Rules) : Recognizer Unit := do
  g.inCpp
  many1 do
    word "template"
    g.read .templateParameters
    possibly g.constraint
  g.templateBody

def templateInstance (g : Rules) : Recognizer Unit := do
  g.inCpp
  word "template"
  firstOf [
    do
      g.read .specifiers
      g.read .declarator,
    do
      discard g.typeSpecifier,
    g.read .declarator]
  sign ";"

def namespaceItem (g : Rules) : Recognizer Unit := do
  g.inCpp
  possibly (word "inline")
  word "namespace"
  possibly g.attributeDeclaration
  let path : Recognizer Unit := do
    g.identifier
    many do
      sign "::"
      possibly (word "inline")
      g.identifier
  firstOf [
    do
      g.identifier
      sign "="
      possibly (sign "::")
      path
      sign ";",
    do
      possibly path
      braces (g.itemsWith (g.read .item))]

/-! ### Bodies of types -/

def member? (g : Rules) : Recognizer Unit :=
  match g.language with
  | .c => g.field
  | .cpp =>
    firstOf [
      do
        discard (wordOf ["public", "private", "protected"])
        sign ":",
      sign ";",
      g.template,
      g.usingDeclaration,
      g.staticAssertion,
      g.friend,
      g.typeDefinition,
      g.conversion,
      g.constructorDefinition,
      g.constructorDeclaration,
      g.method,
      g.field]

def fields (g : Rules) : Recognizer Unit := braces (g.itemsWith g.member?)

def enumerator (g : Rules) : Recognizer Unit := do
  g.identifier
  many g.attributeDeclaration
  possibly do
    sign "="
    g.expression

/-- Enumerators with commas between them, and after the last if one likes. -/
def enumerators (g : Rules) : Recognizer Unit :=
  braces do
    g.itemsWith do
      g.enumerator
      sign ","
    possibly (withDirectives g g.enumerator ((← get).rest.length + 1))

end Rules

end MutationTesting.Grammar

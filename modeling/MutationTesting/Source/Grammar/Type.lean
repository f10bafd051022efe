import MutationTesting.Source.Grammar.Expression

/-!
Types and declarators: what is declared, in how many steps it leads to its type, and the parameters
of functions.
-/

namespace MutationTesting.Grammar

open Recognizer

namespace Rules

def alignment (g : Rules) : Recognizer Unit := do
  discard (wordOf ["alignas", "_Alignas"])
  parens ((do g.read .typeName; foreseen (sign ")")) <|> g.expression)

def qualifier (g : Rules) : Recognizer Unit :=
  discard (wordOf g.language.qualifierWords) <|> g.alignment

/-- A word or an attribute before or after the type of a declaration. -/
def modifier (g : Rules) : Recognizer Unit :=
  firstOf [
    discard (wordOf g.language.storageWords),
    g.qualifier,
    g.attributeSpecifier,
    g.attributeDeclaration,
    do
      word "__declspec"
      parens g.identifier]

/-- Types such as `unsigned long int`, whose words come in any order. -/
def sizedType (g : Rules) : Recognizer Unit := do
  let size : Recognizer Unit := discard (wordOf Language.sizeWords)
  let base : Recognizer Unit := discard (wordOf Language.basicTypes)
  firstOf [
    do
      many1 size
      many g.qualifier
      possibly (base <|> (do g.identifier; foreseen g.identifier))
      many size,
    do
      base
      many1 size]

def baseClause (g : Rules) : Recognizer Unit := do
  g.inCpp
  sign ":"
  commas1 do
    many g.attributeDeclaration
    many (wordOf ["public", "private", "protected", "virtual"])
    g.typePath
    possibly (sign "...")

/-- A structure, union or class, by its name, with its members or with both. -/
def compositeType (g : Rules) : Recognizer Unit := do
  match g.language with
  | .c => discard (wordOf ["struct", "union"])
  | .cpp => discard (wordOf ["struct", "union", "class"])
  many (g.attributeSpecifier <|> g.alignment)
  possibly (do word "__declspec"; parens g.identifier)
  many g.attributeDeclaration
  firstOf [
    do
      possibly g.typePath
      possibly (do g.inCpp; word "final")
      possibly g.baseClause
      g.read .fields,
    g.typePath]
  possibly g.attributeSpecifier

def enumeration (g : Rules) : Recognizer Unit := do
  word "enum"
  possibly (do g.inCpp; wordOf ["class", "struct"])
  let base : Recognizer Unit := do
    sign ":"
    match g.language with
    | .c => discard (wordOf Language.basicTypes)
    | .cpp => firstOf [g.sizedType, discard (wordOf Language.basicTypes), g.typePath]
  firstOf [
    do
      g.typePath
      possibly base
      possibly (g.read .enumerators),
    g.read .enumerators]
  possibly g.attributeSpecifier

/-- A type without its qualifiers and declarators. -/
def typeSpecifier (g : Rules) : Recognizer Form :=
  firstOf [
    do
      g.compositeType <|> g.enumeration
      return .type,
    do
      g.sizedType
      return .type,
    do
      discard (wordOf Language.basicTypes)
      return .type,
    do
      g.inCpp
      word "auto"
      return .type,
    do
      g.typeOf
      many (do sign "::"; g.typePath)
      return .type,
    do
      g.inCpp
      word "typename"
      g.typePath
      return .type,
    -- a name that makes a type of another
    do
      g.inC
      g.identifier
      parens (g.read .typeName)
      foreseen g.identifier
      return .type,
    do
      g.typePath
      possibly (do g.inCpp; word "auto")
      return .name]

def specifiers (g : Rules) : Recognizer Form := do
  many g.modifier
  let form ← g.typeSpecifier
  many g.modifier
  return form

/-- A type as it stands in a cast. -/
def typeName (g : Rules) : Recognizer Form := do
  let isQualified ← given (many1 g.qualifier)
  let form ← g.typeSpecifier
  let isQualifiedAfter ← given (many1 g.qualifier)
  let isPlain := form = .name && !isQualified && !isQualifiedAfter
  let first ← token?
  let isDeclared ← given (g.read .abstractDeclarator)
  -- brackets and parentheses may belong to an expression as well
  let mayFollow := !isDeclared || first.any fun t => isSign "[" t || isSign "(" t
  return if isPlain && mayFollow then .name else .type

/-- The bounds of an array. -/
def bounds (g : Rules) : Recognizer Unit :=
  brackets do
    many (g.qualifier <|> word "static")
    possibly ((do sign "*"; foreseen (sign "]")) <|> g.expression)

/-- The signs of pointers and, in C++, of references. -/
def indirection (g : Rules) : Recognizer Unit :=
  firstOf [
    do
      sign "*"
      many (wordOf ["__restrict", "__unaligned", "_unaligned", "__uptr", "__sptr"])
      many g.qualifier,
    do
      g.inCpp
      sign "&" <|> sign "&&"]

def callConvention : Recognizer Unit := discard (wordOf Language.callConventions)

/-- What is declared, around its name. -/
def declarator (g : Rules) : Recognizer Unit := do
  many g.indirection
  firstOf [
    g.declaredName,
    parens do
      possibly callConvention
      g.read .declarator,
    do
      g.inCpp
      sign "..."
      possibly g.identifier]
  many (firstOf [
    do
      g.read .parameters
      g.functionSuffix,
    g.bounds,
    g.attributeDeclaration])

/-- What a type without a name is of. -/
def abstractDeclarator (g : Rules) : Recognizer Unit := do
  let suffix : Recognizer Unit := firstOf [
    do
      g.read .parameters
      g.functionSuffix,
    g.bounds]
  let direct : Recognizer Unit := firstOf [
    do
      parens (g.read .abstractDeclarator)
      many suffix,
    many1 suffix]
  firstOf [
    do
      many1 g.indirection
      possibly direct,
    direct]

def parameter (g : Rules) : Recognizer Unit :=
  firstOf [
    sign "...",
    do
      possibly (do g.inCpp; word "this")
      g.read .specifiers
      possibly (firstOf [
        do
          g.read .declarator
          foreseen (firstOf [sign ",", sign ")", sign "=", sign ">",
            discard (wordOf Language.attributeWords)]),
        do
          many g.indirection
          sign "..."
          possibly g.identifier,
        g.read .abstractDeclarator])
      many g.attributeSpecifier
      possibly do
        g.inCpp
        sign "="
        g.expression]

/-- The parameters of a function; in C a block may stand in their place. -/
def parameters (g : Rules) : Recognizer Unit :=
  parens (firstOf [
    do
      commas1 g.parameter
      possibly (do g.inCpp; sign "..."),
    do
      g.inC
      g.read .compound,
    pure ()])

end Rules

end MutationTesting.Grammar

import MutationTesting.Source.Grammar.Name

/-!
Expressions. Binary operators bind by their levels, from the left. In C an operator that assigns
takes the nearest operand that can be assigned to as its left side; in C++ it takes all that stands
before it.
-/

namespace MutationTesting.Grammar

open Recognizer

/-- The levels of the binary operators. -/
def binaryLevels : List (String × Nat) :=
  [("||", 1), ("&&", 2), ("|", 3), ("^", 4), ("&", 5), ("==", 6), ("!=", 6), ("<", 7), ("<=", 7),
    ("<=>", 8), ("<<", 9), ("+", 10), ("-", 10), ("*", 11), ("/", 11), ("%", 11)]

/-- Words in place of binary operators. -/
def binaryWords : List (String × Nat) :=
  [("or", 1), ("and", 2), ("bitor", 3), ("xor", 4), ("bitand", 5), ("not_eq", 6)]

def assignmentSigns : List String :=
  ["=", "*=", "/=", "%=", "+=", "-=", "<<=", "&=", "^=", "|="]

def assignmentWords : List String := ["and_eq", "or_eq", "xor_eq"]

/-- What a greater-than sign forms with the signs right after it, and the number of those signs. -/
def greaterSign (first : Token) : List Token → String × Nat
  | second :: rest =>
    if second.start ≠ first.stop then (">", 1)
    else if isSign "=" second then (">=", 2)
    else if isSign ">" second then
      match rest with
      | third :: _ =>
        if isSign "=" third && third.start = second.stop then (">>=", 3) else (">>", 2)
      | [] => (">>", 2)
    else (">", 1)
  | [] => (">", 1)

/-- Reads the next `n` tokens. -/
def skipTokens : Nat → Recognizer Unit
  | 0 => pure ()
  | n + 1 => do
    discard (satisfy fun _ => true)
    skipTokens n

namespace Rules

/-- A binary operator of at least some level. -/
def binaryOperator (g : Rules) (level : Nat) (closed : Bool) : Recognizer (String × Nat) := do
  match (← get).rest with
  | [] => fail
  | t :: rest =>
    if isSign ">" t then
      check !closed
      let (s, n) := greaterSign t rest
      let l := if s = ">>" then 9 else 7
      check (s != ">>=" && level ≤ l)
      skipTokens n
      return (s, l)
    else
      let table := if t.kind = .sign then binaryLevels
        else if t.kind = .word && g.language = .cpp then binaryWords else []
      match table.lookup t.text with
      | some l =>
        check (level ≤ l)
        skipTokens 1
        return (t.text, l)
      | none => fail

def assignmentOperator (g : Rules) (closed : Bool) : Recognizer String := do
  match (← get).rest with
  | [] => fail
  | t :: rest =>
    if isSign ">" t then
      check (!closed && greaterSign t rest = (">>=", 3))
      skipTokens 3
      return ">>="
    else
      check (t.kind = .sign && assignmentSigns.contains t.text
        || t.kind = .word && g.language = .cpp && assignmentWords.contains t.text)
      skipTokens 1
      return t.text

/-- Binary operations of at least some level. -/
def operation (g : Rules) (level : Nat) (closed : Bool) : Recognizer Form := do
  let start ← position
  let form ← g.goal (.operand ⟨closed, true, false⟩)
  loop (fun _ => do
    let (s, l) ← g.binaryOperator level closed
    g.read (.operation (l + 1) closed)
    wrap .binary s start
    return Form.operation) form

/-- A condition with its alternatives, or an expression without any; `last` reads the second
alternative. -/
def conditionalWith (g : Rules) (closed : Bool) (last : Goal) : Recognizer Form := do
  let form ← g.goal (.operation 1 closed)
  let isCondition ← given do
    sign "?"
    possibly (g.read .comma)
    sign ":"
    g.read last
  return if isCondition then .value else form

/-- The right side of an assignment whose left side began at `start`. -/
def assignment (g : Rules) (closed : Bool) (start : Nat) : Recognizer Form := do
  let s ← g.assignmentOperator closed
  (do g.inCpp; g.read .initializer) <|> g.read (.expression closed)
  wrap .assignment s start
  return .value

def fullExpression (g : Rules) (closed : Bool) : Recognizer Form :=
  match g.language with
  | .c => g.conditionalWith closed (.expression closed)
  | .cpp => do
    let start ← position
    let form ← g.goal (.conditional closed)
    g.assignment closed start <|> return form

def commaExpression (g : Rules) : Recognizer Form := do
  let form ← g.goal (.expression false)
  let isList ← given (many1 (do sign ","; g.expression))
  return if isList then .value else form

/-- An item of an initializer list: a value, with or without what it is for. -/
def initializerItem (g : Rules) : Recognizer Unit :=
  let value : Recognizer Unit := g.read .initializer <|> g.expression
  let designator : Recognizer Unit :=
    (do sign "."; g.identifier) <|> brackets do
      g.expression
      possibly (do sign "..."; g.expression)
  firstOf [
    do
      many1 designator
      sign "="
      value,
    do
      many1 designator
      g.inCpp
      g.read .initializer,
    do
      g.identifier
      sign ":"
      value,
    do
      value
      possibly (do g.inCpp; sign "...")]

/-- A list of initial values in braces. -/
def initializer (g : Rules) : Recognizer Unit :=
  braces do
    commas g.initializerItem
    possibly (sign ",")

/-- Texts side by side make up one; names among them stand for texts. -/
def texts (g : Rules) : Recognizer Unit := do
  textLiteral
  many (textLiteral <|> g.identifier)

/-- A pack of arguments with an operator in between. -/
def fold (g : Rules) : Recognizer Unit := do
  g.inCpp
  let anOperator : Recognizer Unit :=
    discard (g.binaryOperator 1 false) <|> discard (g.assignmentOperator false)
  let operand : Recognizer Unit := g.read (.operand ⟨false, true, false⟩)
  firstOf [
    do
      sign "..."
      anOperator
      operand,
    do
      operand
      anOperator
      sign "..."
      possibly (do anOperator; operand)]

/-- The captures of a lambda expression. -/
def captures (g : Rules) : Recognizer Unit :=
  let capture : Recognizer Unit := do
    possibly (sign "...")
    firstOf [
      do
        sign "&"
        sign "..."
        g.identifier,
      do
        sign "&"
        g.identifier
        sign "="
        g.expression,
      g.expression]
    possibly (sign "...")
  brackets (firstOf [
    do
      sign "=" <|> sign "&"
      many (do sign ","; capture)
      foreseen (sign "]"),
    commas capture])

/-- A type in an exception specification, or what a function says about exceptions at all. -/
def exceptions (g : Rules) : Recognizer Unit :=
  firstOf [
    do
      word "noexcept"
      possibly (parens (possibly g.expression)),
    do
      word "throw"
      parens (commas (g.read .typeName))]

/-- What a template asks of its parameters. -/
def constraint (g : Rules) : Recognizer Unit := do
  let clause : Recognizer Unit :=
    g.typePath <|> parens g.expression <|> g.read (.operand ⟨false, true, false⟩)
  word "requires"
  clause
  many do
    sign "&&" <|> sign "||" <|> discard (wordOf ["and", "or"])
    clause

/-- What follows the parameters of a function. -/
def functionSuffix (g : Rules) : Recognizer Unit := do
  let attributes : Recognizer Unit := many g.attributeSpecifier
  match g.language with
  | .c => do
    possibly g.assembly
    attributes
  | .cpp => do
    attributes
    many (discard (wordOf (Language.qualifierWords .cpp)))
    possibly (sign "&" <|> sign "&&")
    possibly g.exceptions
    possibly g.assembly
    attributes
    many g.attributeDeclaration
    possibly (do sign "->"; g.read .typeName)
    many (wordOf ["final", "override"])
    possibly g.constraint

def lambda (g : Rules) : Recognizer Unit := do
  g.inCpp
  g.captures
  possibly do
    g.read .templateParameters
    possibly g.constraint
  possibly do
    g.read .parameters
    g.functionSuffix
  g.read .compound

/-- The type of a new object and its initial values. -/
def newExpression (g : Rules) : Recognizer Unit := do
  g.inCpp
  possibly (sign "::")
  word "new"
  let object : Recognizer Unit := do
    g.read .specifiers
    many (sign "*")
    many (brackets g.expression)
    possibly (g.arguments <|> g.read .initializer)
  object <|> (do g.arguments; object)

def deleteExpression (g : Rules) : Recognizer Unit := do
  g.inCpp
  possibly (sign "::")
  word "delete"
  possibly (brackets (pure ()))
  g.read (.operation 1 false)

/-- A choice by type. -/
def genericExpression (g : Rules) : Recognizer Unit := do
  word "_Generic"
  parens do
    g.expression
    many1 do
      sign ","
      word "default" <|> g.read .typeName
      sign ":"
      g.expression

/-- What a type has to offer. -/
def requirement (g : Rules) : Recognizer Unit :=
  firstOf [
    do
      braces g.expression
      possibly (word "noexcept")
      possibly (do sign "->"; g.read .typeName)
      sign ";",
    do
      word "typename"
      g.typePath
      sign ";",
    do
      word "requires"
      g.expression
      sign ";",
    do
      g.expression
      sign ";"]

def requiresExpression (g : Rules) : Recognizer Unit := do
  g.inCpp
  word "requires"
  possibly (g.read .parameters)
  braces (many1 g.requirement)

/-- An expression with parentheses around it. -/
def parenthesized (g : Rules) : Recognizer Unit :=
  parens (firstOf [
    do
      g.read .comma
      foreseen (sign ")"),
    g.fold,
    g.read .compound])

/-- A value with its type in front of it in parentheses. -/
def compoundLiteral (g : Rules) : Recognizer Unit := do
  parens (g.read .typeName)
  g.read .initializer

/-- A type in parentheses in front of a value. Where the type may be an expression as well, the next
token has to begin a value. -/
def cast (g : Rules) : Recognizer Unit := do
  let form ← parens (g.goal .typeName)
  if form = .name then
    check ((← token?).any (beginsOperand g.language))

/-- The size of a type or of the type of an expression. -/
def sizeExpression (g : Rules) (mode : OperandMode) : Recognizer Unit := do
  word "sizeof"
  firstOf [
    do
      g.inCpp
      sign "..."
      parens g.identifier,
    do
      let form ← parens (g.goal .typeName)
      check (form = .type)
      absent (sign "\x7b"),
    g.read (.operand { mode with updated := true })]

/-- Operators in front of their operand. -/
def prefixed (g : Rules) (mode : OperandMode) (start : Nat) : Recognizer Form :=
  firstOf [
    do
      discard (satisfy fun t => t.kind = .sign && ["!", "~", "-", "+"].contains t.text
        || t.kind = .word && g.language = .cpp && ["not", "compl", "co_await"].contains t.text)
      g.read (.operand { mode with updated := false })
      return .value,
    do
      sign "*" <|> sign "&"
      g.read (.operand { mode with updated := true, pointed := true })
      return .place,
    do
      let s ← satisfy fun t => isSign "++" t || isSign "--" t
      g.read (.operand { mode with updated := true })
      wrap .update s.text start
      return .value,
    do
      g.sizeExpression mode
      return .value,
    do
      discard (wordOf Language.alignmentWords)
      parens (g.read .typeName)
      return .value,
    do
      word "offsetof"
      parens do
        g.read .typeName
        sign ","
        g.identifier
      return .value,
    do
      word "__extension__"
      g.read (.operation 1 mode.closed)
      return .value,
    do
      g.deleteExpression
      return .value,
    do
      g.cast
      g.read (.operand { mode with updated := true })
      return .value]

/-- Operands without operators. -/
def primary (g : Rules) : Recognizer Form :=
  firstOf [
    do
      discard (satisfy fun t => t.kind = .number || t.kind = .character)
      return .value,
    do
      g.texts
      return .value,
    do
      discard (wordOf Language.constantWords)
      return .value,
    do
      g.genericExpression
      return .value,
    do
      g.assembly
      return .value,
    do
      g.compoundLiteral
      return .value,
    do
      g.inCpp
      word "this"
      return .value,
    do
      g.inCpp
      discard (wordOf Language.basicTypes)
      g.arguments <|> g.read .initializer
      return .place,
    do
      g.newExpression
      return .value,
    do
      g.requiresExpression
      return .value,
    do
      g.expressionName
      possibly (many1 textLiteral <|> (do g.inCpp; g.read .initializer))
      return .place,
    do
      g.lambda
      return .value,
    do
      g.parenthesized
      return .place]

/-- The member of an object. -/
def member (g : Rules) : Recognizer Unit := do
  sign "." <|> sign "->" <|> (do g.inCpp; sign ".*")
  firstOf [
    do
      possibly (do g.inCpp; word "template")
      g.expressionName,
    g.destructorName]

def index (g : Rules) : Recognizer Unit :=
  match g.language with
  | .c => brackets g.expression
  | .cpp => brackets (commas (g.read .initializer <|> g.expression))

/-- What follows an operand that begins at `start`. After an operator with its operand only an
increment or decrement does. -/
def suffixed (g : Rules) (updated : Bool) (start : Nat) : Form × Bool → Recognizer (Form × Bool)
  | (_, isOpen) =>
    firstOf [
      do
        check isOpen
        g.arguments <|> g.index <|> g.member
        return (.place, true),
      do
        check updated
        let s ← satisfy fun t => isSign "++" t || isSign "--" t
        wrap .update s.text start
        return (.value, true)]

/-- An operand with all that belongs to it; in C with the assignment to it. -/
def operand (g : Rules) (mode : OperandMode) : Recognizer Form := do
  let start ← position
  let first ← (do return (← g.prefixed mode start, false)) <|> (do return (← g.primary, true))
  let (form, _) ← loop (g.suffixed mode.updated start) first
  if g.language = .c && form = .place && !mode.pointed then
    g.assignment mode.closed start <|> return form
  else return form

end Rules

end MutationTesting.Grammar

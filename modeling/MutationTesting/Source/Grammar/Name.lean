import MutationTesting.Source.Grammar.Goal

/-!
Names with their scopes and template arguments. In an expression a less-than sign after a name may
also be a comparison: it begins template arguments only if they end, and only if what follows them
cannot begin an operand of a comparison alone.
-/

namespace MutationTesting.Grammar

open Recognizer

namespace Rules

/-- A type or, failing that, an expression, up to the next comma or the end of the arguments. -/
def templateArgument (g : Rules) : Recognizer Unit :=
  firstOf [
    do
      g.read .typeName
      possibly (sign "...")
      foreseen (sign "," <|> sign ">"),
    do
      g.read (.expression true)
      possibly (sign "...")]

/-- Whether a greater-than sign comes before the brackets around it close or the statement ends. -/
def closesAhead (depth : Nat) : List Token → Bool
  | [] => false
  | t :: rest =>
    if t.kind ≠ .sign then closesAhead depth rest
    else if t.text = ">" then depth = 0 || closesAhead depth rest
    else if t.text = "(" || t.text = "[" || t.text = "\x7b" then closesAhead (depth + 1) rest
    else if t.text = ")" || t.text = "]" || t.text = "\x7d" then
      depth ≠ 0 && closesAhead (depth - 1) rest
    else if t.text = ";" && depth = 0 then false
    else closesAhead depth rest

def templateArguments (g : Rules) : Recognizer Unit := do
  sign "<"
  check (closesAhead 0 (← get).rest)
  commas g.templateArgument
  sign ">"

/-- Words between operands. -/
def operatorWords : List String :=
  ["or", "and", "bitor", "xor", "bitand", "not_eq", "and_eq", "or_eq", "xor_eq"]

/-- Whether a token can begin an operand only, and not go on with an expression. -/
def beginsOperand (language : Language) (t : Token) : Bool :=
  match t.kind with
  | .word => !(language = .cpp && operatorWords.contains t.text)
  | .number | .character | .text => true
  | .sign => t.text == "!" || t.text == "~"
  | _ => false

/-- Whether an increment or decrement stands before an operand and not after one. -/
def beginsUpdate (language : Language) (first second : Token) : Bool :=
  (isSign "++" first || isSign "--" first) &&
    (beginsOperand language second || isSign "(" second || isSign "*" second || isSign "&" second)

/-- Template arguments after a name in an expression. -/
def expressionArguments (g : Rules) : Recognizer Unit := do
  g.inCpp
  g.read .templateArguments
  match (← get).rest with
  | first :: second :: _ =>
    check (!beginsOperand g.language first && !beginsUpdate g.language first second)
  | [first] => check (!beginsOperand g.language first)
  | [] => pure ()

/-- What stands after the word `operator` in the name of one. -/
def operatorSign (g : Rules) : Recognizer Unit :=
  firstOf [
    parens (pure ()),
    brackets (pure ()),
    do
      discard (wordOf ["new", "delete"])
      possibly (brackets (pure ())),
    word "co_await",
    do textLiteral; possibly g.identifier,
    do sign ">"; possibly (sign ">"); possibly (sign "="),
    do sign "->"; possibly (sign "*"),
    discard (satisfy fun t => t.kind = .sign &&
      ["+", "-", "*", "/", "%", "^", "&", "|", "~", "!", "=", "<", "+=", "-=", "*=", "/=", "%=",
        "^=", "&=", "|=", "<<", "<<=", "==", "!=", "<=", "<=>", "&&", "||", "++", "--",
        ","].contains t.text)]

def operatorName (g : Rules) : Recognizer Unit := do
  g.inCpp
  word "operator"
  g.operatorSign

def destructorName (g : Rules) : Recognizer Unit := do
  g.inCpp
  sign "~"
  g.identifier

/-- The type that an expression has. -/
def typeOf (g : Rules) : Recognizer Unit := do
  g.inCpp
  word "decltype"
  parens ((do word "auto"; foreseen (sign ")")) <|> g.expression)

/-- A name in an expression, with its scopes. -/
def expressionName (g : Rules) : Recognizer Unit := do
  let part : Recognizer Unit := do
    g.identifier
    possibly g.expressionArguments
  let inner : Recognizer Unit := do
    g.inCpp
    sign "::"
    firstOf [
      do
        possibly (word "template")
        part,
      g.destructorName,
      g.operatorName]
  firstOf [
    do
      part
      many inner,
    many1 inner,
    do
      g.typeOf
      many1 inner,
    g.operatorName]

/-- A name of a type, with its scopes. -/
def typePath (g : Rules) : Recognizer Unit := do
  let part : Recognizer Unit := do
    g.identifier
    possibly do
      g.inCpp
      g.read .templateArguments
  let inner : Recognizer Unit := do
    g.inCpp
    sign "::"
    possibly (word "template")
    part
  firstOf [
    do
      part
      many inner,
    many1 inner]

/-- A name that a declarator declares. -/
def declaredName (g : Rules) : Recognizer Unit := do
  let part : Recognizer Unit := do
    g.identifier
    possibly do
      g.inCpp
      g.read .templateArguments
  let inner : Recognizer Unit := do
    g.inCpp
    sign "::"
    firstOf [part, g.destructorName, g.operatorName]
  firstOf [
    do
      part
      many inner,
    many1 inner,
    g.destructorName,
    g.operatorName,
    do
      g.inCpp
      brackets (commas1 g.identifier)]

end Rules

end MutationTesting.Grammar

/-!
The syntax of command lines: options with a long name and perhaps a letter, their values, and the
words between them. A value is attached to its option or is the next word; letters may be joined in
one word, and after `--` every word stands for itself.
-/

namespace MutationTesting

namespace CommandLine

/-- The number of values an option has each time it is given. -/
inductive Arity where
  | none
  | atMostOne
  | one
  deriving DecidableEq

/-- What an option is called and what may follow it. -/
structure OptionForm where
  name : String
  letter : Option Char
  arity : Arity
  /-- The next word is the value even if it looks like an option. -/
  anyValue : Bool
  /-- It may be given more than once. -/
  repeated : Bool
  deriving DecidableEq

namespace OptionForm

def flag (name : String) (letter : Option Char) : OptionForm := ⟨name, letter, .none, false, false⟩

def valued (name : String) (letter : Option Char) : OptionForm := ⟨name, letter, .one, false, false⟩

end OptionForm

/-- An option as given, with its value. -/
structure Given where
  option : String
  value : Option String
  deriving DecidableEq

/-- A command line taken apart. -/
structure Parsed where
  given : List Given
  words : List String
  deriving DecidableEq

namespace Parsed

def empty : Parsed := ⟨[], []⟩

def withGiven (p : Parsed) (given : List Given) : Parsed := { p with given := given ++ p.given }

def withWord (p : Parsed) (word : String) : Parsed := { p with words := word :: p.words }

/-- The value of an option that is given at most once. -/
def value? (p : Parsed) (name : String) : Option String :=
  (p.given.find? fun g => g.option == name).bind (·.value)

/-- The values of an option, if it is given. -/
def values? (p : Parsed) (name : String) : Option (List String) :=
  match p.given.filter fun g => g.option == name with
  | [] => none
  | found => some (found.filterMap (·.value))

def has (p : Parsed) (name : String) : Bool := p.given.any fun g => g.option == name

end Parsed

/-- What a word looks like. -/
inductive WordShape where
  | plain
  /-- Two hyphens alone. -/
  | escape
  | long (name : String) (value : Option String)
  | letters (letters : List Char)
  deriving DecidableEq

namespace WordShape

/-- The text before the first `=` and the text after it. -/
def splitValue (s : List Char) : String × Option String :=
  match s.dropWhile (· ≠ '=') with
  | [] => (String.ofList s, none)
  | _ :: value => (String.ofList (s.takeWhile (· ≠ '=')), some (String.ofList value))

def ofWord (word : String) : WordShape :=
  match word.toList with
  | ['-', '-'] => .escape
  | '-' :: '-' :: rest =>
    let (name, value) := splitValue rest
    .long name value
  | '-' :: c :: rest => .letters (c :: rest)
  | _ => .plain

end WordShape

/-- A text attached to a letter; `=` may stand between. -/
def attached : List Char → String
  | '=' :: value => String.ofList value
  | value => String.ofList value

/-- The options of joined letters, and the one that still waits for its value. -/
def joined (forms : List OptionForm) : List Char → Option (List Given × Option OptionForm)
  | [] => some ([], none)
  | c :: rest => do
    let form ← forms.find? fun f => f.letter == some c
    if form.arity = .none then
      let (given, waiting) ← joined forms rest
      return (⟨form.name, none⟩ :: given, waiting)
    else if rest.isEmpty then return ([], some form)
    else return ([⟨form.name, some (attached rest)⟩], none)

/-- An option by its long name: given, or waiting for its value. -/
def named (forms : List OptionForm) (name : String) (value : Option String) :
    Option (List Given × Option OptionForm) := do
  let form ← forms.find? fun f => f.name == name
  match form.arity, value with
  | .none, none => return ([⟨name, none⟩], none)
  | .none, some _ => none
  | _, some value => return ([⟨name, some value⟩], none)
  | _, none => return ([], some form)

/-- What a waiting option amounts to if no value comes. -/
def withoutValue : Option OptionForm → Option (List Given)
  | none => some []
  | some form => if form.arity = .atMostOne then some [⟨form.name, none⟩] else none

/-- Takes words apart while an option may be waiting for its value. -/
def parseFrom (forms : List OptionForm) : Option OptionForm → List String → Option Parsed
  | waiting, [] => do return Parsed.empty.withGiven (← withoutValue waiting)
  | waiting, word :: rest =>
    match waiting, WordShape.ofWord word with
    | none, .plain => do return (← parseFrom forms none rest).withWord word
    | some form, .plain => do
      return (← parseFrom forms none rest).withGiven [⟨form.name, some word⟩]
    | waiting, shape =>
      if waiting.any (·.anyValue) then do
        return (← parseFrom forms none rest).withGiven [⟨(waiting.map (·.name)).getD "", some word⟩]
      else do
        let before ← withoutValue waiting
        match shape with
        | .escape => return ⟨before, rest⟩
        | .long name value =>
          let (given, waiting) ← named forms name value
          return (← parseFrom forms waiting rest).withGiven (before ++ given)
        | .letters letters =>
          let (given, waiting) ← joined forms letters
          return (← parseFrom forms waiting rest).withGiven (before ++ given)
        | .plain => none

/-- Whether every option that may be given once is. -/
def onceEach (forms : List OptionForm) (p : Parsed) : Bool :=
  forms.all fun f => f.repeated || (p.given.filter fun g => g.option == f.name).length ≤ 1

/-- Takes a command line apart; `none` if it does not go by the forms. -/
def parse (forms : List OptionForm) (words : List String) : Option Parsed := do
  let p ← parseFrom forms none words
  if onceEach forms p then some p else none

end CommandLine

end MutationTesting

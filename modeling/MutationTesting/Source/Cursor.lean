import MutationTesting.Source.SyntaxTree
import MutationTesting.Source.Token

/-!
Recognisers: rules that read tokens from a cursor or fail, and put the operations they meet into
trees. A rule that fails leaves the cursor as it was, so that another can be tried in its place.
-/

namespace MutationTesting

/-- A place between tokens: those that follow, the offset that the last one before ended at, and the
trees of the text before, latest first. -/
structure Cursor where
  rest : List Token
  last : Nat
  trees : List SyntaxTree
  deriving Inhabited

abbrev Recognizer := StateT Cursor Option

namespace Recognizer

def token? : Recognizer (Option Token) := do return (← get).rest.head?

/-- The token after `n` others. -/
def ahead? (n : Nat) : Recognizer (Option Token) := do return (← get).rest[n]?

/-- Reads the next token if it satisfies a condition. -/
def satisfy (accepts : Token → Bool) : Recognizer Token := fun c =>
  match c.rest with
  | t :: rest => if accepts t then some (t, { c with rest := rest, last := t.stop }) else none
  | [] => none

def isSign (sign : String) (t : Token) : Bool := t.kind = .sign && t.text == sign

def isWord (word : String) (t : Token) : Bool := t.kind = .word && t.text == word

def sign (s : String) : Recognizer Unit := discard (satisfy (isSign s))

def word (w : String) : Recognizer Unit := discard (satisfy (isWord w))

def wordOf (words : List String) : Recognizer String := do
  return (← satisfy fun t => t.kind = .word && words.contains t.text).text

def anyWord : Recognizer Unit := discard (satisfy fun t => t.kind = .word)

def directive (name : String) : Recognizer Unit :=
  discard (satisfy fun t => t.kind = .directive && t.text == name)

def parens {α : Type} (r : Recognizer α) : Recognizer α := do
  sign "("
  let a ← r
  sign ")"
  return a

def brackets {α : Type} (r : Recognizer α) : Recognizer α := do
  sign "["
  let a ← r
  sign "]"
  return a

def braces {α : Type} (r : Recognizer α) : Recognizer α := do
  sign "\x7b"
  let a ← r
  sign "\x7d"
  return a

/-- Whether the next token is a certain sign. -/
def atSign (s : String) : Recognizer Bool := do return (← token?).any (isSign s)

def atWord (w : String) : Recognizer Bool := do return (← token?).any (isWord w)

def fail {α : Type} : Recognizer α := fun _ => none

def check (condition : Bool) : Recognizer Unit := if condition then pure () else fail

/-- Reads on where something is given, and says whether it is. -/
def given {α : Type} (r : Recognizer α) : Recognizer Bool := fun c =>
  match r c with
  | some (_, c) => some (true, c)
  | none => some (false, c)

def possibly {α : Type} (r : Recognizer α) : Recognizer Unit := discard (given r)

/-- Succeeds where something could be read, without reading it. -/
def foreseen {α : Type} (r : Recognizer α) : Recognizer Unit := fun c => (r c).map fun _ => ((), c)

/-- Succeeds where something could not be read. -/
def absent {α : Type} (r : Recognizer α) : Recognizer Unit := fun c =>
  match r c with
  | some _ => none
  | none => some ((), c)

/-- Takes a step again and again, at most `n` times, as long as there is one. -/
def iterate {α : Type} (step : α → Recognizer α) : Nat → α → Recognizer α
  | 0, a => pure a
  | n + 1, a => fun c =>
    match step a c with
    | some (b, c) => iterate step n b c
    | none => some (a, c)

/-- Takes a step that reads at least one token as often as possible. -/
def loop {α : Type} (step : α → Recognizer α) (start : α) : Recognizer α := do
  iterate step (← get).rest.length start

def many {α : Type} (r : Recognizer α) : Recognizer Unit := loop (fun _ => discard r) ()

def many1 {α : Type} (r : Recognizer α) : Recognizer Unit := do
  discard r
  many r

/-- One item or more, with commas between them. -/
def commas1 {α : Type} (r : Recognizer α) : Recognizer Unit := do
  discard r
  many do
    sign ","
    r

def commas {α : Type} (r : Recognizer α) : Recognizer Unit := possibly (commas1 r)

def firstOf {α : Type} : List (Recognizer α) → Recognizer α
  | [] => fail
  | r :: rest => fun c =>
    match r c with
    | some found => some found
    | none => firstOf rest c

/-- The offset of the next token. -/
def position : Recognizer Nat := do
  let c ← get
  return match c.rest with
    | t :: _ => t.start
    | [] => c.last

/-- Makes an operation of the text from `start` to the last token read. -/
def wrap (form : OperationForm) (sign : String) (start : Nat) : Recognizer Unit := fun c =>
  let inner := c.trees.takeWhile fun t => start ≤ t.start
  let tree := SyntaxTree.node (some ⟨form, sign⟩) start c.last inner.reverse
  some ((), { c with trees := tree :: c.trees.drop inner.length })

end Recognizer

end MutationTesting

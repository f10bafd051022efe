import MutationTesting.Mutation.Operator
import MutationTesting.Source.Range

/-!
Syntax trees as far as mutations are concerned: the operations of a source text with their
operators, the ranges of bytes they cover, and how they lie within each other.
-/

namespace MutationTesting

/-- The forms of expressions that operators make. -/
inductive OperationForm where
  | binary
  | assignment
  | update
  deriving DecidableEq, Inhabited

structure Operation where
  form : OperationForm
  sign : String
  deriving DecidableEq, Inhabited

/-- A part of the text from `start` to before `stop`, and the parts in it; without an operation it
only holds the others together. -/
inductive SyntaxTree where
  | node (operation : Option Operation) (start stop : Nat) (children : List SyntaxTree)
  deriving Inhabited

/-- The kind of expression that an instruction a mutation changes comes from. -/
inductive SyntaxCategory where
  | relational
  | addition
  | subtraction
  deriving DecidableEq, Inhabited

namespace SyntaxCategory

def ofName? : String → Option SyntaxCategory
  | "relational" => some .relational
  | "addition" => some .addition
  | "subtraction" => some .subtraction
  | _ => none

/-- Only some operators change what a single kind of expression stands for. -/
def ofKind : MutatorKind → Option SyntaxCategory
  | .conditionalsBoundary => some .relational
  | .mathAdd => some .addition
  | .mathSub => some .subtraction
  | _ => none

def accepts (category : SyntaxCategory) (operation : Operation) : Bool :=
  match category, operation.form with
  | .relational, .binary => ["<", "<=", ">", ">="].contains operation.sign
  | .addition, .binary => operation.sign == "+"
  | .addition, .assignment => operation.sign == "+="
  | .addition, .update => operation.sign == "++"
  | .subtraction, .binary => operation.sign == "-"
  | .subtraction, .assignment => operation.sign == "-="
  | .subtraction, .update => operation.sign == "--"
  | .relational, _ => false

end SyntaxCategory

namespace SyntaxTree

def operation : SyntaxTree → Option Operation
  | .node operation _ _ _ => operation

def start : SyntaxTree → Nat
  | .node _ start _ _ => start

def stop : SyntaxTree → Nat
  | .node _ _ stop _ => stop

def children : SyntaxTree → List SyntaxTree
  | .node _ _ _ children => children

def range (t : SyntaxTree) : SourceRange := .ofPiece t.start t.stop

def isOf (category : SyntaxCategory) (t : SyntaxTree) : Bool := t.operation.any category.accepts

mutual

/-- Visits the operations of a category, each before those in it. -/
def search (category : SyntaxCategory) : SyntaxTree → RangeSearch → RangeSearch
  | .node operation start stop children, s =>
    searchAll category children
      (if operation.any category.accepts then s.visit (.ofPiece start stop) else s)

def searchAll (category : SyntaxCategory) : List SyntaxTree → RangeSearch → RangeSearch
  | [], s => s
  | t :: rest, s => searchAll category rest (t.search category s)

end

/-- The range of the innermost operation of a category around an offset. -/
def smallestEnclosing (t : SyntaxTree) (offset : Nat) (category : SyntaxCategory) :
    Option SourceRange :=
  (t.search category (.start offset)).found

end SyntaxTree

end MutationTesting

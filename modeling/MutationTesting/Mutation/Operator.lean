import MutationTesting.Program.Module
import MutationTesting.Failure
import MutationTesting.Text.Blank

/-!
Mutation operators: named changes of single opcodes. An operator gives the replacement of an
eligible opcode and nothing for others. The six standard operators swap an arithmetic operation or a
comparison for another one; a run may bring operators of its own.
-/

namespace MutationTesting

inductive MutatorKind where
  | conditionalsBoundary
  | mathAdd
  | mathSub
  | mathMul
  | mathDiv
  | negateCondition
  | custom (name : String)
  deriving DecidableEq, Inhabited

namespace MutatorKind

def name : MutatorKind → String
  | .conditionalsBoundary => "conditionals_boundary"
  | .mathAdd => "math_add"
  | .mathSub => "math_sub"
  | .mathMul => "math_mul"
  | .mathDiv => "math_div"
  | .negateCondition => "negate_condition"
  | .custom name => name

def standard : List MutatorKind :=
  [.conditionalsBoundary, .mathAdd, .mathSub, .mathMul, .mathDiv, .negateCondition]

/-- The standard kind of a name, or a custom one. -/
def ofName (name : String) : MutatorKind :=
  (standard.find? fun kind => kind.name == name).getD (.custom name)

end MutatorKind

structure MutationOperator where
  kind : MutatorKind
  mutate : Opcode → Option Opcode

namespace BinaryOp

/-- Another operation in place of one. -/
def swap (source target : BinaryOp) : Opcode → Option Opcode
  | .binary dst op lhs rhs => if op = source then some (.binary dst target lhs rhs) else none
  | _ => none

end BinaryOp

namespace Predicate

/-- The comparison that differs on equal operands only. -/
def boundary? : Predicate → Option Predicate
  | .slt => some .sle
  | .sle => some .slt
  | .sgt => some .sge
  | .sge => some .sgt
  | .eq => none
  | .ne => none

/-- The opposite comparison. -/
def negated : Predicate → Predicate
  | .eq => .ne
  | .ne => .eq
  | .slt => .sge
  | .sge => .slt
  | .sle => .sgt
  | .sgt => .sle

/-- Another comparison in place of one, where `change` has one. -/
def swap (change : Predicate → Option Predicate) : Opcode → Option Opcode
  | .compare dst pred lhs rhs => (change pred).map fun pred => .compare dst pred lhs rhs
  | _ => none

end Predicate

namespace MutationOperator

/-- The change that a standard kind makes; a custom kind makes none of its own. -/
def standardMutation : MutatorKind → Opcode → Option Opcode
  | .conditionalsBoundary => Predicate.swap Predicate.boundary?
  | .mathAdd => BinaryOp.swap .add .sub
  | .mathSub => BinaryOp.swap .sub .add
  | .mathMul => BinaryOp.swap .mul .div
  | .mathDiv => BinaryOp.swap .div .mul
  | .negateCondition => Predicate.swap fun pred => some pred.negated
  | .custom _ => fun _ => none

def ofKind (kind : MutatorKind) : MutationOperator := ⟨kind, standardMutation kind⟩

/-- The operators of a run that names none. -/
def defaults : List MutationOperator := [.conditionalsBoundary, .mathAdd, .mathSub].map ofKind

def all : List MutationOperator := MutatorKind.standard.map ofKind

/-- Blank characters at either end of a name do not count. -/
def byName (name : String) : Except Failure MutationOperator :=
  match all.find? fun op => op.kind.name == Text.trim name with
  | some op => .ok op
  | none => .error (.input (.unknownMutator name))

/-- The operators of the given names in their order; no names select the defaults. -/
def select (names : List String) : Except Failure (List MutationOperator) :=
  if names.isEmpty then .ok defaults else names.mapM byName

end MutationOperator

end MutationTesting

/-!
Register code. An instruction reads operands, which are registers of the frame, arguments of the
call or constants, and control passes to the next instruction unless it says otherwise. Jump targets
are indices into the body of the function.
-/

namespace MutationTesting

/-- Where an instruction reads a value. -/
inductive Operand where
  | reg (index : UInt32)
  | arg (index : UInt32)
  | imm (value : Int64)
  deriving DecidableEq, Inhabited

inductive BinaryOp where
  | add
  | sub
  | mul
  | div
  | rem
  deriving DecidableEq, Inhabited

/-- A comparison of signed numbers. -/
inductive Predicate where
  | eq
  | ne
  | slt
  | sle
  | sgt
  | sge
  deriving DecidableEq, Inhabited

inductive Opcode where
  | move (dst : UInt32) (src : Operand)
  | binary (dst : UInt32) (op : BinaryOp) (lhs rhs : Operand)
  | compare (dst : UInt32) (pred : Predicate) (lhs rhs : Operand)
  | call (dst : Option UInt32) (callee : String) (args : List Operand)
  | jump (target : UInt64)
  | branch (cond : Operand) (thenTarget elseTarget : UInt64)
  | ret (value : Option Operand)
  deriving DecidableEq, Inhabited

namespace BinaryOp

def name : BinaryOp → String
  | .add => "add"
  | .sub => "sub"
  | .mul => "mul"
  | .div => "div"
  | .rem => "rem"

def all : List BinaryOp := [.add, .sub, .mul, .div, .rem]

def ofName? (name : String) : Option BinaryOp := all.find? fun op => op.name == name

end BinaryOp

namespace Predicate

def name : Predicate → String
  | .eq => "eq"
  | .ne => "ne"
  | .slt => "slt"
  | .sle => "sle"
  | .sgt => "sgt"
  | .sge => "sge"

def all : List Predicate := [.eq, .ne, .slt, .sle, .sgt, .sge]

def ofName? (name : String) : Option Predicate := all.find? fun pred => pred.name == name

def holds : Predicate → Int64 → Int64 → Bool
  | .eq, l, r => l = r
  | .ne, l, r => l ≠ r
  | .slt, l, r => l < r
  | .sle, l, r => l ≤ r
  | .sgt, l, r => l > r
  | .sge, l, r => l ≥ r

end Predicate

namespace Opcode

/-- The operands an instruction reads, in the order it reads them. -/
def operands : Opcode → List Operand
  | .move _ src => [src]
  | .binary _ _ lhs rhs => [lhs, rhs]
  | .compare _ _ lhs rhs => [lhs, rhs]
  | .call _ _ args => args
  | .jump _ => []
  | .branch cond _ _ => [cond]
  | .ret value => value.toList

/-- Where control may pass to other than the next instruction. -/
def targets : Opcode → List UInt64
  | .jump target => [target]
  | .branch _ thenTarget elseTarget => [thenTarget, elseTarget]
  | _ => []

def callee? : Opcode → Option String
  | .call _ callee _ => some callee
  | _ => none

end Opcode

end MutationTesting

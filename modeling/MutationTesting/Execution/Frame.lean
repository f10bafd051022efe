import MutationTesting.Execution.Arithmetic
import MutationTesting.Execution.Executable

/-!
One instruction in one frame. A frame has the arguments of its call and registers, of which none is
defined at first. What an instruction does, be it to the frame or to the calls around it, is its
effect; effects leave open how calls are carried out.
-/

namespace MutationTesting

/-- Why a started program stops without a value. -/
inductive Trap where
  | outOfFuel
  | pastEnd (function : String)
  | missingArgument (index : UInt32)
  | undefinedRegister (index : UInt32)
  | divisionByZero
  | callDepthExceeded (function : String)
  | argumentCount (function : String) (expected : UInt32) (given : Nat)
  | aborted
  | assertionFailed
  | unresolved (name : String)
  deriving DecidableEq

namespace Trap

def message : Trap → String
  | .outOfFuel => "out of fuel"
  | .pastEnd function => s!"{function} runs past its last instruction"
  | .missingArgument index => s!"missing argument {index}"
  | .undefinedRegister index => s!"read of undefined register {index}"
  | .divisionByZero => "division by zero"
  | .callDepthExceeded function => s!"call depth exceeded in {function}"
  | .argumentCount function expected given =>
    s!"{function} expects {expected} arguments, got {given}"
  | .aborted => "abort called"
  | .assertionFailed => "assertion failed"
  | .unresolved name => s!"unresolved symbol {name}"

end Trap

/-- The defined registers of a frame. -/
abbrev Registers := Std.HashMap UInt32 Int64

/-- What an instruction does. -/
inductive Effect where
  /-- The frame goes on at `pc`. -/
  | proceed (registers : Registers) (pc : Nat)
  /-- The frame waits for a call and puts its value into `dst`. -/
  | call (dst : Option UInt32) (callee : String) (args : List Int64)
  | ret (value : Int64)
  | trap (cause : Trap)

namespace Operand

def read (args : List Int64) (registers : Registers) : Operand → Except Trap Int64
  | .imm value => .ok value
  | .arg index =>
    match args[index.toNat]? with
    | some value => .ok value
    | none => .error (.missingArgument index)
  | .reg index =>
    match registers[index]? with
    | some value => .ok value
    | none => .error (.undefinedRegister index)

/-- Reads operands in order up to the first that cannot be read. -/
def readAll (args : List Int64) (registers : Registers) : List Operand → Except Trap (List Int64)
  | [] => .ok []
  | o :: rest => do
    let value ← o.read args registers
    let values ← readAll args registers rest
    .ok (value :: values)

end Operand

namespace Opcode

/-- The effect of the instruction at `pc`. -/
def effect (o : Opcode) (args : List Int64) (registers : Registers) (pc : Nat) : Effect :=
  match o with
  | .move dst src =>
    match src.read args registers with
    | .error t => .trap t
    | .ok value => .proceed (registers.insert dst value) (pc + 1)
  | .binary dst op lhs rhs =>
    match lhs.read args registers with
    | .error t => .trap t
    | .ok l =>
      match rhs.read args registers with
      | .error t => .trap t
      | .ok r =>
        match op.eval? l r with
        | none => .trap .divisionByZero
        | some value => .proceed (registers.insert dst value) (pc + 1)
  | .compare dst pred lhs rhs =>
    match lhs.read args registers with
    | .error t => .trap t
    | .ok l =>
      match rhs.read args registers with
      | .error t => .trap t
      | .ok r => .proceed (registers.insert dst (if pred.holds l r then 1 else 0)) (pc + 1)
  | .call dst callee operands =>
    match Operand.readAll args registers operands with
    | .error t => .trap t
    | .ok values => .call dst callee values
  | .jump target => .proceed registers target.toNat
  | .branch cond thenTarget elseTarget =>
    match cond.read args registers with
    | .error t => .trap t
    | .ok value => .proceed registers (if value ≠ 0 then thenTarget else elseTarget).toNat
  | .ret none => .ret 0
  | .ret (some operand) =>
    match operand.read args registers with
    | .error t => .trap t
    | .ok value => .ret value

end Opcode

/-- The registers after a call has returned `value`. -/
def Registers.receive (registers : Registers) (dst : Option UInt32) (value : Int64) : Registers :=
  match dst with
  | some dst => registers.insert dst value
  | none => registers

/-- Names that need no definition: `abort` stops the program, `assert` does if its argument is zero.
-/
def builtin (name : String) (args : List Int64) : Except Trap Int64 :=
  if name = "abort" then .error .aborted
  else if name = "assert" then
    match args with
    | [condition] => if condition ≠ 0 then .ok 0 else .error .assertionFailed
    | _ => .error (.unresolved name)
  else .error (.unresolved name)

/-- Calls that may be active at one time. -/
def maxCallDepth : Nat := 256

end MutationTesting

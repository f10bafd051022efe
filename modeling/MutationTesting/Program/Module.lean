import MutationTesting.Program.Opcode

/-!
Modules and the program they make up. A module is plain data: functions with bodies of instructions,
each with an optional place in a source file. A program is the list of modules in the order of their
loading, and an instruction has an address in it.
-/

namespace MutationTesting

/-- A place in source text; line 0 marks code without a counterpart there. -/
structure DebugLocation where
  line : UInt32
  column : UInt32
  file : Option String
  deriving DecidableEq, Inhabited

structure Instruction where
  opcode : Opcode
  debug : Option DebugLocation
  deriving DecidableEq, Inhabited

structure Function where
  name : String
  params : UInt32
  body : List Instruction
  deriving DecidableEq, Inhabited

structure Module where
  name : String
  sourceFile : Option String
  functions : List Function
  deriving DecidableEq, Inhabited

/-- The modules of a program in load order; their positions identify them. -/
structure Program where
  modules : List Module
  deriving DecidableEq, Inhabited

/-- The slot of an instruction: positions of its module, its function and itself. -/
structure Address where
  module : Nat
  function : Nat
  instruction : Nat
  deriving DecidableEq, Inhabited

namespace Function

/-- The bare code of a function. -/
def code (f : Function) : List Opcode := f.body.map (·.opcode)

/-- The names a body calls, in instruction order. -/
def callees (f : Function) : List String := f.body.filterMap fun i => i.opcode.callee?

def setOpcode (f : Function) (index : Nat) (opcode : Opcode) : Function :=
  { f with body := f.body.modify index fun i => { i with opcode := opcode } }

end Function

namespace Module

/-- Position of the first function of a name. -/
def function? (m : Module) (name : String) : Option Nat :=
  m.functions.findIdx? fun f => f.name == name

def instruction? (m : Module) (function index : Nat) : Option Instruction := do
  (← m.functions[function]?).body[index]?

def setOpcode (m : Module) (function index : Nat) (opcode : Opcode) : Module :=
  { m with functions := m.functions.modify function fun f => f.setOpcode index opcode }

end Module

namespace Program

def empty : Program := ⟨[]⟩

/-- Adds a module at the end; its number is the former size. -/
def add (p : Program) (m : Module) : Program := ⟨p.modules ++ [m]⟩

def size (p : Program) : Nat := p.modules.length

def module? (p : Program) (id : Nat) : Option Module := p.modules[id]?

def function? (p : Program) (module function : Nat) : Option Function := do
  (← p.module? module).functions[function]?

def instruction? (p : Program) (a : Address) : Option Instruction := do
  (← p.module? a.module).instruction? a.function a.instruction

def opcode? (p : Program) (a : Address) : Option Opcode := (p.instruction? a).map (·.opcode)

/-- Writes an opcode into a slot; without such a slot nothing changes. -/
def setOpcode (p : Program) (a : Address) (opcode : Opcode) : Program :=
  ⟨p.modules.modify a.module fun m => m.setOpcode a.function a.instruction opcode⟩

/-- The first definition of a name among modules numbered from `id` on. -/
def findFrom (name : String) : Nat → List Module → Option (Nat × Nat)
  | _, [] => none
  | id, m :: rest =>
    match m.function? name with
    | some index => some (id, index)
    | none => findFrom name (id + 1) rest

/-- The first definition of a name in load order: its module and its position there. -/
def definition? (p : Program) (name : String) : Option (Nat × Nat) := findFrom name 0 p.modules

end Program

end MutationTesting

import MutationTesting.Program.Module
import MutationTesting.Json.Shape

/-!
Modules as JSON. An opcode is an object whose member `kind` names it; operands are objects with one
member. Writing gives every member of an opcode and leaves out an absent debug location or file.
Reading takes the members in any order, lets those with a default be missing, and keeps an opcode
whole before looking at its parts, since its kind may come last.
-/

namespace MutationTesting

/-! ### Writing -/

namespace Operand

def json : Operand → Json
  | .reg index => .object [("reg", .integer index.toNat)]
  | .arg index => .object [("arg", .integer index.toNat)]
  | .imm value => .object [("imm", .integer value.toInt)]

end Operand

namespace Opcode

def kind : Opcode → String
  | .move .. => "move"
  | .binary .. => "binary"
  | .compare .. => "compare"
  | .call .. => "call"
  | .jump .. => "jump"
  | .branch .. => "branch"
  | .ret .. => "return"

/-- The members after the kind. -/
def parts : Opcode → List (String × Json)
  | .move dst src => [("dst", .integer dst.toNat), ("src", src.json)]
  | .binary dst op lhs rhs =>
    [("dst", .integer dst.toNat), ("op", .string op.name), ("lhs", lhs.json), ("rhs", rhs.json)]
  | .compare dst pred lhs rhs =>
    [("dst", .integer dst.toNat), ("pred", .string pred.name), ("lhs", lhs.json), ("rhs", rhs.json)]
  | .call dst callee args =>
    [("dst", .ofOption (fun d : UInt32 => .integer d.toNat) dst), ("callee", .string callee),
      ("args", .ofList Operand.json args)]
  | .jump target => [("target", .integer target.toNat)]
  | .branch cond thenTarget elseTarget =>
    [("cond", cond.json), ("then_target", .integer thenTarget.toNat),
      ("else_target", .integer elseTarget.toNat)]
  | .ret value => [("value", .ofOption Operand.json value)]

def json (o : Opcode) : Json := .object (("kind", .string o.kind) :: o.parts)

end Opcode

/-- The member of a value that may be absent, and then is left out. -/
def presentMember {α : Type} (name : String) (write : α → Json) : Option α → List (String × Json)
  | none => []
  | some a => [(name, write a)]

namespace DebugLocation

def json (d : DebugLocation) : Json :=
  .object ([("line", .integer d.line.toNat), ("column", .integer d.column.toNat)]
    ++ presentMember "file" .string d.file)

end DebugLocation

namespace Instruction

def json (i : Instruction) : Json :=
  .object (("opcode", i.opcode.json) :: presentMember "debug_loc" DebugLocation.json i.debug)

end Instruction

namespace Function

def json (f : Function) : Json :=
  .object [("name", .string f.name), ("params", .integer f.params.toNat),
    ("instructions", .ofList Instruction.json f.body)]

end Function

namespace Module

def json (m : Module) : Json :=
  .object [("name", .string m.name), ("source_file", .ofOption .string m.sourceFile),
    ("functions", .ofList Function.json m.functions)]

end Module

/-! ### Reading -/

namespace Shape

/-- A choice among names: the name alone, or an object with the name as its one member. -/
def tagged (known : List String) : Shape (String × Option Json) := fun v =>
  match v with
  | .string name =>
    if known.contains name then .ok (name, none) else .error (.unknownVariant name known)
  | .object [(name, content)] =>
    if known.contains name then .ok (name, some content) else .error (.unknownVariant name known)
  | .object _ => .error (.invalidValue .map "map with a single key")
  | v => mismatch "string or map" v

/-- Nothing: `null`, or an object without members. -/
def unit : Shape Unit
  | .null => .ok ()
  | .object [] => .ok ()
  | v => mismatch "unit" v

/-- A name with nothing to it. -/
def plainTag (known : List String) : Shape String := fun v => do
  let (name, content) ← tagged known v
  match content with
  | none => .ok name
  | some content => do
    unit content
    .ok name

/-- A name with a value to it. -/
def valueTag (known : List String) : Shape (String × Json) := fun v => do
  let (name, content) ← tagged known v
  match content with
  | none => .error (.invalidType .unitVariant "newtype variant")
  | some content => .ok (name, content)

end Shape

open Shape

namespace Operand

def shape : Shape Operand := fun v => do
  let (name, content) ← valueTag ["reg", "arg", "imm"] v
  if name = "reg" then (uint32 content).map .reg
  else if name = "arg" then (uint32 content).map .arg
  else (int64 content).map .imm

end Operand

namespace BinaryOp

def shape : Shape BinaryOp := fun v => do
  let name ← plainTag (all.map BinaryOp.name) v
  .ok ((ofName? name).getD .add)

end BinaryOp

namespace Predicate

def shape : Shape Predicate := fun v => do
  let name ← plainTag (all.map Predicate.name) v
  .ok ((ofName? name).getD .eq)

end Predicate

namespace Opcode

/-- The parts of an opcode as far as they have been read. -/
structure Parts where
  dst : Option UInt32 := none
  src : Option Operand := none
  op : Option BinaryOp := none
  pred : Option Predicate := none
  lhs : Option Operand := none
  rhs : Option Operand := none
  callDst : Option (Option UInt32) := none
  callee : Option String := none
  args : Option (List Operand) := none
  target : Option UInt64 := none
  cond : Option Operand := none
  thenTarget : Option UInt64 := none
  elseTarget : Option UInt64 := none
  value : Option (Option Operand) := none

namespace Parts

def dstField : RecordField Parts :=
  requiredField "dst" dst (fun p x => { p with dst := some x }) uint32

def srcField : RecordField Parts :=
  requiredField "src" src (fun p x => { p with src := some x }) Operand.shape

def opField : RecordField Parts :=
  requiredField "op" op (fun p x => { p with op := some x }) BinaryOp.shape

def predField : RecordField Parts :=
  requiredField "pred" pred (fun p x => { p with pred := some x }) Predicate.shape

def lhsField : RecordField Parts :=
  requiredField "lhs" lhs (fun p x => { p with lhs := some x }) Operand.shape

def rhsField : RecordField Parts :=
  requiredField "rhs" rhs (fun p x => { p with rhs := some x }) Operand.shape

def callDstField : RecordField Parts :=
  optionalField "dst" callDst (fun p x => { p with callDst := some x }) (optional uint32)

def calleeField : RecordField Parts :=
  requiredField "callee" callee (fun p x => { p with callee := some x }) string

def argsField : RecordField Parts :=
  optionalField "args" args (fun p x => { p with args := some x }) (list Operand.shape)

def targetField : RecordField Parts :=
  requiredField "target" target (fun p x => { p with target := some x }) (uint64 "usize")

def condField : RecordField Parts :=
  requiredField "cond" cond (fun p x => { p with cond := some x }) Operand.shape

def thenTargetField : RecordField Parts :=
  requiredField "then_target" thenTarget (fun p x => { p with thenTarget := some x })
    (uint64 "usize")

def elseTargetField : RecordField Parts :=
  requiredField "else_target" elseTarget (fun p x => { p with elseTarget := some x })
    (uint64 "usize")

def valueField : RecordField Parts :=
  optionalField "value" value (fun p x => { p with value := some x }) (optional Operand.shape)

end Parts

open Parts

/-- A kind of opcode: its name as written and in errors, its fields, and what they make. -/
structure Form where
  kind : String
  title : String
  fields : List (RecordField Parts)
  build : Parts → Opcode

/-- The kinds of opcodes in the order in which errors list them. Building is applied to parts that
have every required field; the defaults below are never seen. -/
def forms : List Form :=
  [⟨"move", "Move", [dstField, srcField], fun p => .move (p.dst.getD 0) (p.src.getD (.imm 0))⟩,
   ⟨"binary", "Binary", [dstField, opField, lhsField, rhsField],
     fun p => .binary (p.dst.getD 0) (p.op.getD .add) (p.lhs.getD (.imm 0)) (p.rhs.getD (.imm 0))⟩,
   ⟨"compare", "Compare", [dstField, predField, lhsField, rhsField],
     fun p =>
       .compare (p.dst.getD 0) (p.pred.getD .eq) (p.lhs.getD (.imm 0)) (p.rhs.getD (.imm 0))⟩,
   ⟨"call", "Call", [callDstField, calleeField, argsField],
     fun p => .call (p.callDst.getD none) (p.callee.getD "") (p.args.getD [])⟩,
   ⟨"jump", "Jump", [targetField], fun p => .jump (p.target.getD 0)⟩,
   ⟨"branch", "Branch", [condField, thenTargetField, elseTargetField],
     fun p => .branch (p.cond.getD (.imm 0)) (p.thenTarget.getD 0) (p.elseTarget.getD 0)⟩,
   ⟨"return", "Return", [valueField], fun p => .ret (p.value.getD none)⟩]

/-- The kind of an opcode by its name. -/
def form : Shape Form
  | .string name =>
    match forms.find? fun f => f.kind == name with
    | some f => .ok f
    | none => .error (.unknownVariant name (forms.map (·.kind)))
  | v => mismatch "variant identifier" v

/-- Keeps the members other than the kind, in order, and reads the kind where it stands. Containers
in them nest at most `room` deep. -/
def split (room : Nat) : Option Form → List (String × Json) →
    Except ShapeError (Option Form × List (String × Json))
  | found, [] => .ok (found, [])
  | found, (key, value) :: rest =>
    if key = "kind" then
      if found.isSome then .error (.duplicateField "kind")
      else do split room (some (← form value)) rest
    else do
      keep room value
      let (found, kept) ← split room found rest
      .ok (found, (key, value) :: kept)

def ofMembers (f : Form) (kept : List (String × Json)) : Except ShapeError Opcode :=
  (fromMembers f.fields {} kept).map f.build

/-- `1 element in sequence` -/
def sequenceText (count : Nat) : String :=
  s!"{count} element" ++ (if count = 1 then "" else "s") ++ " in sequence"

/-- The parts in order; none may be left over. -/
def ofElements (f : Form) (kept : List Json) : Except ShapeError Opcode := do
  let expected := lengthText ("struct variant Opcode::" ++ f.title) f.fields.length
  let (parts, rest) ← positions expected 0 f.fields {} kept
  if rest.isEmpty then .ok (f.build parts)
  else .error (.invalidLength kept.length (sequenceText f.fields.length))

/-- Containers in an opcode nest at most `room` deep. -/
def shape (room : Nat) : Shape Opcode
  | .object found => do
    match ← split room none found with
    | (none, _) => .error (.missingField "kind")
    | (some f, kept) => ofMembers f kept
  | .array [] => .error (.missingField "kind")
  | .array (first :: rest) => do
    let f ← form first
    keepElements room rest
    ofElements f rest
  | v => mismatch "internally tagged enum Opcode" v

end Opcode

namespace DebugLocation

structure Parts where
  line : Option UInt32 := none
  column : Option UInt32 := none
  file : Option (Option String) := none

def fields : List (RecordField Parts) :=
  [requiredField "line" Parts.line (fun p x => { p with line := some x }) uint32,
   requiredField "column" Parts.column (fun p x => { p with column := some x }) uint32,
   optionalField "file" Parts.file (fun p x => { p with file := some x }) (optional string)]

def shape : Shape DebugLocation := fun v =>
  (record "struct DebugLoc" fields {} v).map fun p =>
    ⟨p.line.getD 0, p.column.getD 0, p.file.getD none⟩

end DebugLocation

namespace Instruction

/-- A document nests at most 127 containers; an opcode is the sixth. -/
def room : Nat := 127 - 6

structure Parts where
  opcode : Option Opcode := none
  debug : Option (Option DebugLocation) := none

def fields : List (RecordField Parts) :=
  [requiredField "opcode" Parts.opcode (fun p x => { p with opcode := some x }) (Opcode.shape room),
   optionalField "debug_loc" Parts.debug (fun p x => { p with debug := some x })
     (optional DebugLocation.shape)]

def shape : Shape Instruction := fun v =>
  (record "struct Instruction" fields {} v).map fun p =>
    ⟨p.opcode.getD (.ret none), p.debug.getD none⟩

end Instruction

namespace Function

structure Parts where
  name : Option String := none
  params : Option UInt32 := none
  body : Option (List Instruction) := none

def fields : List (RecordField Parts) :=
  [requiredField "name" Parts.name (fun p x => { p with name := some x }) string,
   optionalField "params" Parts.params (fun p x => { p with params := some x }) uint32,
   requiredField "instructions" Parts.body (fun p x => { p with body := some x })
     (list Instruction.shape)]

def shape : Shape Function := fun v =>
  (record "struct Function" fields {} v).map fun p =>
    ⟨p.name.getD "", p.params.getD 0, p.body.getD []⟩

end Function

namespace Module

structure Parts where
  name : Option String := none
  sourceFile : Option (Option String) := none
  functions : Option (List Function) := none

def fields : List (RecordField Parts) :=
  [requiredField "name" Parts.name (fun p x => { p with name := some x }) string,
   optionalField "source_file" Parts.sourceFile (fun p x => { p with sourceFile := some x })
     (optional string),
   requiredField "functions" Parts.functions (fun p x => { p with functions := some x })
     (list Function.shape)]

def shape : Shape Module := fun v =>
  (record "struct Module" fields {} v).map fun p =>
    ⟨p.name.getD "", p.sourceFile.getD none, p.functions.getD []⟩

/-- A module from the text of a document. -/
def ofText (text : String) : Except ShapeError Module := document shape (Json.read text)

end Module

end MutationTesting

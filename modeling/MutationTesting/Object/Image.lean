import MutationTesting.Program.Notation
import MutationTesting.Json.Writer

/-!
Object images: what linking needs of a module, and its written form. An image keeps names, parameter
counts and opcodes; debug locations and source files do not reach it.
-/

namespace MutationTesting

/-- The code of one function under its link name. -/
structure Symbol where
  name : String
  params : UInt32
  code : Array Opcode
  deriving DecidableEq, Inhabited

structure Image where
  formatVersion : UInt32
  module : String
  symbols : List Symbol
  deriving DecidableEq, Inhabited

namespace Symbol

def ofFunction (f : Function) : Symbol := ⟨f.name, f.params, f.code.toArray⟩

def json (s : Symbol) : Json :=
  .object [("name", .string s.name), ("params", .integer s.params.toNat),
    ("code", .ofList Opcode.json s.code.toList)]

/-- A document nests at most 127 containers; an opcode is the fifth. -/
def room : Nat := 127 - 5

structure Parts where
  name : Option String := none
  params : Option UInt32 := none
  code : Option (List Opcode) := none

open Shape in
def fields : List (RecordField Parts) :=
  [requiredField "name" Parts.name (fun p x => { p with name := some x }) string,
   requiredField "params" Parts.params (fun p x => { p with params := some x }) uint32,
   requiredField "code" Parts.code (fun p x => { p with code := some x })
     (list (Opcode.shape room))]

def shape : Shape Symbol := fun v =>
  (Shape.record "struct Symbol" fields {} v).map fun p =>
    ⟨p.name.getD "", p.params.getD 0, (p.code.getD []).toArray⟩

end Symbol

namespace Image

def currentVersion : UInt32 := 1

def ofModule (m : Module) : Image := ⟨currentVersion, m.name, m.functions.map Symbol.ofFunction⟩

def json (i : Image) : Json :=
  .object [("format_version", .integer i.formatVersion.toNat), ("module", .string i.module),
    ("symbols", .ofList Symbol.json i.symbols)]

structure Parts where
  formatVersion : Option UInt32 := none
  module : Option String := none
  symbols : Option (List Symbol) := none

open Shape in
def fields : List (RecordField Parts) :=
  [requiredField "format_version" Parts.formatVersion
     (fun p x => { p with formatVersion := some x })
     uint32,
   requiredField "module" Parts.module (fun p x => { p with module := some x }) string,
   requiredField "symbols" Parts.symbols (fun p x => { p with symbols := some x })
     (list Symbol.shape)]

def shape : Shape Image := fun v =>
  (Shape.record "struct ObjectImage" fields {} v).map fun p =>
    ⟨p.formatVersion.getD 0, p.module.getD "", p.symbols.getD []⟩

def encode (i : Image) : ByteArray := i.json.compact.toUTF8

def decode (bytes : ByteArray) : Except ShapeError Image :=
  Shape.document shape (Json.readBytes bytes)

end Image

end MutationTesting

import MutationTesting.Mutation.Operator

/-!
Mutation points: single edits of a program that can be applied and reverted. A point remembers the
opcode it replaces, its replacement, and whether it is applied; either call checks that the slot
holds the form it is about to replace, and a call that fails changes nothing.
-/

namespace MutationTesting

/-- A place in a source file; column 0 stands for an unknown one. -/
structure SourceLocation where
  filePath : String
  line : UInt32
  column : UInt32
  deriving DecidableEq, Inhabited

namespace SourceLocation

/-- The place an instruction comes from. The instruction's own file goes before that of the module;
line 0 and an empty file name stand for no place. -/
def correlate (m : Module) (i : Instruction) : Option SourceLocation := do
  let debug ← i.debug
  if debug.line = 0 then none
  else
    let file ← debug.file.or m.sourceFile
    if file = "" then none else some ⟨file, debug.line, debug.column⟩

def fileName (l : SourceLocation) : Option String := (Path.mk l.filePath).fileName

def text (l : SourceLocation) : String := s!"{l.filePath}:{l.line}:{l.column}"

end SourceLocation

structure MutationPoint where
  address : Address
  kind : MutatorKind
  function : String
  initial : Opcode
  mutated : Opcode
  location : Option SourceLocation
  applied : Bool
  deriving DecidableEq, Inhabited

namespace MutationPoint

/-- Module number, function name, instruction index and operator, joined by colons. -/
def id (p : MutationPoint) : String :=
  s!"{p.address.module}:{p.function}:{p.address.instruction}:{p.kind.name}"

/-- The id and the place in the source. -/
def text (p : MutationPoint) : String :=
  match p.location with
  | some l => s!"{p.id} at {l.text}"
  | none => s!"{p.id} at <unknown>"

/-- Writes `replacement` into the slot if it holds `expected`. -/
def exchange (p : MutationPoint) (program : Program) (expected replacement : Opcode) :
    Except Failure Program :=
  match program.opcode? p.address with
  | none => .error (.stalePoint p.id)
  | some opcode =>
    if opcode = expected then .ok (program.setOpcode p.address replacement)
    else .error (.stalePoint p.id)

def apply (p : MutationPoint) (program : Program) : Except Failure (MutationPoint × Program) :=
  if p.applied then .error (.alreadyApplied p.id)
  else do
    let program ← p.exchange program p.initial p.mutated
    .ok ({ p with applied := true }, program)

def revert (p : MutationPoint) (program : Program) : Except Failure (MutationPoint × Program) :=
  if p.applied then do
    let program ← p.exchange program p.mutated p.initial
    .ok ({ p with applied := false }, program)
  else .error (.notApplied p.id)

end MutationPoint

namespace MutationOperator

/-- The points of an operator among instructions numbered from `index` on. -/
def pointsFrom (op : MutationOperator) (id : Nat) (m : Module) (function : Nat) (name : String) :
    Nat → List Instruction → List MutationPoint
  | _, [] => []
  | index, i :: rest =>
    match op.mutate i.opcode with
    | some mutated =>
      ⟨⟨id, function, index⟩, op.kind, name, i.opcode, mutated, SourceLocation.correlate m i, false⟩
        :: pointsFrom op id m function name (index + 1) rest
    | none => pointsFrom op id m function name (index + 1) rest

/-- One unapplied point for each eligible instruction of a function, in body order. -/
def points (op : MutationOperator) (id : Nat) (m : Module) (function : Nat) : List MutationPoint :=
  match m.functions[function]? with
  | some f => op.pointsFrom id m function f.name 0 f.body
  | none => []

end MutationOperator

end MutationTesting

import MutationTesting.Object.Image
import MutationTesting.Digest.Sha256
import MutationTesting.Failure

/-!
Compilation. A module is checked function by function, and the first violation is reported; a module
without one becomes an artifact: its image as bytes, and their digest. A run may be given another
compiler, which may keep a state between its calls.
-/

namespace MutationTesting

/-- The outcome of compiling a module. -/
structure Artifact where
  moduleName : String
  object : ByteArray
  digest : String
  deriving Inhabited

instance : DecidableEq Artifact := fun ⟨m, ⟨o⟩, d⟩ ⟨m', ⟨o'⟩, d'⟩ =>
  decidable_of_iff (m = m' ∧ o = o' ∧ d = d') (by simp)

namespace Artifact

def ofImage (i : Image) : Artifact := ⟨i.module, i.encode, Sha256.digest i.encode⟩

def image (a : Artifact) : Except ShapeError Image := Image.decode a.object

end Artifact

namespace Operand

/-- The index of an argument that a function with `params` parameters does not have. -/
def badArgument? (params : UInt32) : Operand → Option UInt32
  | .arg index => if index < params then none else some index
  | _ => none

end Operand

namespace Function

/-- The first bad target of an instruction, else its first bad argument. -/
def instructionViolation? (f : Function) (index : Nat) (o : Opcode) : Option Violation :=
  match o.targets.find? fun target => f.body.length ≤ target.toNat with
  | some target => some (.badTarget f.name index target)
  | none => (o.operands.findSome? (Operand.badArgument? f.params)).map fun argument =>
      .badArgument f.name index argument f.params

/-- The first violation among instructions numbered from `index` on. -/
def bodyViolation? (f : Function) : Nat → List Instruction → Option Violation
  | _, [] => none
  | index, i :: rest =>
    (f.instructionViolation? index i.opcode).or (bodyViolation? f (index + 1) rest)

end Function

namespace Module

/-- The first violation among functions that come after those named in `seen`. -/
def violationFrom? (seen : List String) : List Function → Option Violation
  | [] => none
  | f :: rest =>
    if seen.contains f.name then some (.duplicateFunction f.name)
    else if f.body.isEmpty then some (.emptyBody f.name)
    else (f.bodyViolation? 0 f.body).or (violationFrom? (f.name :: seen) rest)

def violation? (m : Module) : Option Violation := violationFrom? [] m.functions

/-- The artifact of a well-formed module. -/
def compile (m : Module) : Except Failure Artifact :=
  match m.violation? with
  | some v => .error (.compile m.name v)
  | none => .ok (.ofImage (.ofModule m))

theorem compile_of_violation?_none {m : Module} (h : m.violation? = none) :
    m.compile = .ok (.ofImage (.ofModule m)) := by
  rw [compile, h]

theorem eq_ofModule_of_compile {m : Module} {a : Artifact} (h : m.compile = .ok a) :
    a = .ofImage (.ofModule m) := by
  rw [compile] at h
  split at h
  · cases h
  · exact (Except.ok.inj h).symm

theorem compile_error {m : Module} {cause : Failure} (h : m.compile = .error cause) :
    ∃ v, cause = .compile m.name v := by
  rw [compile] at h
  split at h
  next v _ => exact ⟨v, (Except.error.inj h).symm⟩
  · cases h

end Module

/-- A compiler with a state that its calls pass on. -/
structure Compiler (σ : Type) where
  compile : Module → σ → Except Failure Artifact × σ

namespace Compiler

/-- The compiler of object images, which keeps nothing between its calls. -/
def standard : Compiler Unit := ⟨fun m s => (m.compile, s)⟩

end Compiler

end MutationTesting

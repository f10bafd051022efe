import MutationTesting.Discovery.Finder
import MutationTesting.Proofs.Program.Slot

/-!
Tests and points by their sites. The tests of a program and the points of a function are what one
gets by going through all positions and leaving out those that are not eligible. A point so found is
unapplied, and its slot holds the form that it replaces.
-/

namespace MutationTesting

namespace MutationOperator

/-- The point of an operator at one instruction, if that is eligible. -/
def pointAt? (op : MutationOperator) (id : Nat) (m : Module) (function : Nat) (name : String)
    (site : Instruction × Nat) : Option MutationPoint :=
  (op.mutate site.1.opcode).map fun mutated =>
    ⟨⟨id, function, site.2⟩, op.kind, name, site.1.opcode, mutated,
      SourceLocation.correlate m site.1, false⟩

theorem pointsFrom_eq (op : MutationOperator) (id : Nat) (m : Module) (function : Nat)
    (name : String) (index : Nat) (body : List Instruction) :
    op.pointsFrom id m function name index body =
      (body.zipIdx index).filterMap (op.pointAt? id m function name) := by
  induction body generalizing index with
  | nil => rfl
  | cons i rest ih =>
      rw [pointsFrom, List.zipIdx_cons, List.filterMap_cons, pointAt?]
      cases op.mutate i.opcode with
      | none => exact ih (index + 1)
      | some mutated => exact congrArg _ (ih (index + 1))

/-- Every point of an operator is that of one instruction. -/
theorem exists_of_mem_points {op : MutationOperator} {id : Nat} {m : Module} {function : Nat}
    {p : MutationPoint} (h : p ∈ op.points id m function) :
    ∃ f i index, m.functions[function]? = some f ∧ f.body[index]? = some i ∧
      op.pointAt? id m function f.name (i, index) = some p := by
  rw [points] at h
  cases hf : m.functions[function]? with
  | none =>
      rw [hf] at h
      exact absurd h List.not_mem_nil
  | some f =>
      simp only [hf, pointsFrom_eq] at h
      obtain ⟨⟨i, index⟩, hi, hp⟩ := List.mem_filterMap.mp h
      exact ⟨f, i, index, rfl, List.mem_zipIdx_iff_getElem?.mp hi, hp⟩

end MutationOperator

/-- A point that can be applied to a program, in this module of it. -/
structure MutationPoint.Fits (p : MutationPoint) (program : Program) (m : Module) : Prop where
  unapplied : p.applied = false
  module : program.module? p.address.module = some m
  holds : program.opcode? p.address = some p.initial

namespace Testee

/-- The points of a function, operator by operator and instruction by instruction. -/
def pointsBySite (t : Testee) (program : Program) (operators : List MutationOperator) :
    List MutationPoint :=
  match program.module? t.module with
  | none => []
  | some m =>
    match m.functions[t.function]? with
    | none => []
    | some f => operators.flatMap fun op =>
        f.body.zipIdx.filterMap (op.pointAt? t.module m t.function f.name)

theorem points_eq (t : Testee) (program : Program) (operators : List MutationOperator) :
    t.points program operators = t.pointsBySite program operators := by
  rw [points, pointsBySite]
  cases program.module? t.module with
  | none => rfl
  | some m =>
      simp only [MutationOperator.points]
      cases m.functions[t.function]? with
      | none => exact List.flatMap_eq_nil_iff.mpr fun _ _ => rfl
      | some f => simp only [MutationOperator.pointsFrom_eq]

/-- Every point of a function is that of one operator at one instruction. -/
theorem exists_of_mem {t : Testee} {program : Program} {operators : List MutationOperator}
    {p : MutationPoint} (h : p ∈ t.points program operators) :
    ∃ m op f i index, program.module? t.module = some m ∧ op ∈ operators ∧
      m.functions[t.function]? = some f ∧ f.body[index]? = some i ∧
      op.pointAt? t.module m t.function f.name (i, index) = some p := by
  rw [points] at h
  cases hm : program.module? t.module with
  | none =>
      rw [hm] at h
      exact absurd h List.not_mem_nil
  | some m =>
      rw [hm] at h
      obtain ⟨op, hop, hp⟩ := List.mem_flatMap.mp h
      obtain ⟨f, i, index, hf, hi, hpoint⟩ := MutationOperator.exists_of_mem_points hp
      exact ⟨m, op, f, i, index, rfl, hop, hf, hi, hpoint⟩

theorem fits_of_mem {t : Testee} {program : Program} {operators : List MutationOperator}
    {p : MutationPoint} (h : p ∈ t.points program operators) :
    ∃ m, p.Fits program m ∧ p.address.module = t.module := by
  obtain ⟨m, op, f, i, index, hm, -, hf, hi, hpoint⟩ := exists_of_mem h
  obtain ⟨mutated, -, rfl⟩ := Option.map_eq_some_iff.mp hpoint
  refine ⟨m, ⟨rfl, hm, ?_⟩, rfl⟩
  rw [Program.opcode?_eq_of_module? hm, Module.instruction?, hf, Option.bind_eq_bind,
    Option.bind_some, hi]
  rfl

end Testee

namespace Finder

/-- The test at one position of a module, if the function there is one. -/
def testAt? (finder : Finder) (id : Nat) (site : Function × Nat) : Option Test :=
  if finder.isTest site.1.name then some ⟨site.1.name, id, site.2⟩ else none

theorem testsFrom_eq (finder : Finder) (id index : Nat) (functions : List Function) :
    finder.testsFrom id index functions =
      (functions.zipIdx index).filterMap (finder.testAt? id) := by
  induction functions generalizing index with
  | nil => rfl
  | cons f rest ih =>
      rw [testsFrom, List.zipIdx_cons, List.filterMap_cons, testAt?]
      by_cases hf : finder.isTest f.name = true
      · rw [if_pos hf, if_pos hf, ih]
      · rw [if_neg hf, if_neg hf, ih]

theorem testsOfModules_eq (finder : Finder) (id : Nat) (modules : List Module) :
    finder.testsOfModules id modules = (modules.zipIdx id).flatMap fun (m, id) =>
      m.functions.zipIdx.filterMap (finder.testAt? id) := by
  induction modules generalizing id with
  | nil => rfl
  | cons m rest ih =>
      rw [testsOfModules, List.zipIdx_cons, List.flatMap_cons, testsFrom_eq, ih]

/-- The tests of a program, module by module and function by function. -/
def testsBySite (finder : Finder) (program : Program) : List Test :=
  program.modules.zipIdx.flatMap fun (m, id) => m.functions.zipIdx.filterMap (finder.testAt? id)

theorem tests_eq (finder : Finder) (program : Program) :
    finder.tests program = finder.testsBySite program :=
  finder.testsOfModules_eq 0 program.modules

end Finder

end MutationTesting

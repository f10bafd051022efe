import MutationTesting.Proofs.Campaign.Work
import MutationTesting.Proofs.Discovery.Sites
import MutationTesting.Proofs.Mutation.Balance

/-!
One mutant. For a point that fits the program, the steps from its application to the restored
artifact come to this: the mutated module is compiled and run, the program is as before, and the
artifact of the module is replaced by one of the same digest unless there is none.
-/

namespace MutationTesting

/-- How a test fares on the mutant of a point: the module of the point, as the mutated program has
it, is linked after other artifacts. -/
def mutantStatus (program : Program) (test : Test) (others : List Artifact) (fuel : Nat)
    (p : MutationPoint) : Status :=
  match (program.setOpcode p.address p.mutated).module? p.address.module with
  | none => .invalid
  | some m =>
    match m.compile with
    | .ok mutant => runTest test.name (others ++ [mutant]) fuel
    | .error _ => .invalid

namespace MutationPoint

variable {p : MutationPoint} {program : Program} {m : Module}

theorem Fits.apply (h : p.Fits program m) :
    p.apply program =
      .ok ({ p with applied := true }, program.setOpcode p.address p.mutated) := by
  rw [apply_eq, h.unapplied, if_neg Bool.false_ne_true, if_pos h.holds]

/-- The applied point is reverted to itself, and the program with it. -/
theorem Fits.revert (h : p.Fits program m) :
    MutationPoint.revert { p with applied := true } (program.setOpcode p.address p.mutated) =
      .ok (p, program) := by
  have hheld : (program.setOpcode p.address p.mutated).opcode? p.address = some p.mutated :=
    Program.opcode?_setOpcode_self h.holds p.mutated
  have hpoint : { p with applied := false } = p := by rw [← h.unapplied]
  rw [revert_eq]
  simp only [hheld, if_true, Program.setOpcode_setOpcode_self h.holds, hpoint]

theorem Fits.module_mutated (h : p.Fits program m) :
    (program.setOpcode p.address p.mutated).module? p.address.module =
      some (m.setOpcode p.address.function p.address.instruction p.mutated) := by
  rw [Program.module?_setOpcode, if_pos rfl, h.module]
  rfl

end MutationPoint

namespace Campaign

open Work

variable {c : Campaign Unit} {bench : Workbench Unit} {p : MutationPoint} {m : Module}

theorem perform_edit {change : Program → Except Failure (MutationPoint × Program)}
    {q : MutationPoint} {program : Program} (h : change bench.program = .ok (q, program)) :
    perform (edit change) bench = (.ok q, { bench with program := program }) := by
  rw [edit, perform_get_bind, h]
  rfl

theorem perform_compile (hc : c.compiler = .standard) (m : Module) (bench : Workbench Unit) :
    perform (c.compile m) bench = (.ok m.compile, bench) := by
  rw [compile, perform_get_bind, hc]
  rfl

theorem perform_compileModuleOf (hc : c.compiler = .standard)
    (hm : bench.program.module? p.address.module = some m) :
    perform (c.compileModuleOf p) bench = (.ok m.compile, bench) := by
  rw [compileModuleOf, perform_get_bind, hm]
  exact perform_compile hc m bench

theorem perform_restore (hc : c.compiler = .standard)
    (hm : bench.program.module? p.address.module = some m) :
    perform (c.restore p) bench =
      match m.compile with
      | .error cause => (.error cause, bench)
      | .ok restored =>
        if (bench.artifacts.get? p.address.module).any (·.digest == restored.digest) then
          (.ok (), { bench with
            artifacts := bench.artifacts.insert p.address.module restored })
        else (.error (.revertMismatch m.name p.id), bench) := by
  rw [restore, perform_get_bind, hm]
  refine (perform_bind_ok (perform_compile hc m bench) _).trans ?_
  cases m.compile with
  | error cause => rfl
  | ok restored =>
      refine (perform_get_bind _ bench).trans ?_
      by_cases hdigest : (bench.artifacts.get? p.address.module).any (·.digest == restored.digest)
      · simp only [hdigest, if_true]
        rfl
      · simp only [hdigest]
        rfl

/-- What becomes of one mutant, whatever the store holds. -/
theorem perform_mutantResult (hc : c.compiler = .standard) (h : p.Fits bench.program m)
    (test : Test) (others : List Artifact) :
    perform (c.mutantResult test others p) bench =
      match m.compile with
      | .error cause => (.error cause, bench)
      | .ok restored =>
        if (bench.artifacts.get? p.address.module).any (·.digest == restored.digest) then
          (.ok ⟨.untimed (mutantStatus bench.program test others c.fuel p), p⟩, { bench with
            artifacts := bench.artifacts.insert p.address.module restored })
        else (.error (.revertMismatch m.name p.id), bench) := by
  have happly := perform_edit h.apply
  have hcompile : perform (c.compileModuleOf { p with applied := true })
      { bench with program := bench.program.setOpcode p.address p.mutated } =
        (.ok (m.setOpcode p.address.function p.address.instruction p.mutated).compile,
          { bench with program := bench.program.setOpcode p.address p.mutated }) :=
    perform_compileModuleOf hc h.module_mutated
  have hrevert : perform (edit (MutationPoint.revert { p with applied := true }))
      { bench with program := bench.program.setOpcode p.address p.mutated } = (.ok p, bench) :=
    perform_edit h.revert
  have hrestore := perform_restore hc h.module
  have hstatus : mutantStatus bench.program test others c.fuel p =
      match (m.setOpcode p.address.function p.address.instruction p.mutated).compile with
      | .ok mutant => runTest test.name (others ++ [mutant]) c.fuel
      | .error _ => .invalid := by
    rw [mutantStatus, h.module_mutated]
  rw [mutantResult, perform_bind_ok happly, perform_bind_ok hcompile, perform_bind_ok hrevert,
    hstatus]
  cases hm : m.compile with
  | error cause =>
      rw [hm] at hrestore
      exact perform_bind_error hrestore _
  | ok restored =>
      rw [hm] at hrestore
      simp only at hrestore ⊢
      split at hrestore
      next hdigest =>
        rw [if_pos hdigest]
        exact perform_bind_ok hrestore _
      next hdigest =>
        rw [if_neg hdigest]
        exact perform_bind_error hrestore _

end Campaign

end MutationTesting

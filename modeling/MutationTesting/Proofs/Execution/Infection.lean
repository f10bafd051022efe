import Mathlib.Tactic.IntervalCases
import MutationTesting.Proofs.Execution.Build
import MutationTesting.Proofs.Mutation.Standard

/-!
Infection. A standard mutation shows in a run only if the mutated instruction is executed on values
of which it makes something else than the original one. As long as it makes the same of them, the
machines of the program and of the mutant take the same steps, with the same fuel.
-/

namespace MutationTesting

theorem Operand.readAll_pair {args : List Int64} {registers : Registers} {x y : Operand}
    {l r : Int64} (hx : x.read args registers = .ok l) (hy : y.read args registers = .ok r) :
    readAll args registers [x, y] = .ok [l, r] := by
  simp only [readAll, hx, hy]
  rfl

namespace Opcode

/-- What an arithmetic or a comparing instruction makes of the values of its operands: a value for
its register, or a trap. -/
def outcome? : Opcode → List Int64 → Option (Except Trap Int64)
  | .binary _ op _ _, [l, r] =>
    match op.eval? l r with
    | none => some (.error .divisionByZero)
    | some value => some (.ok value)
  | .compare _ pred _ _, [l, r] => some (.ok (if pred.holds l r then 1 else 0))
  | _, _ => none

theorem eval?_eq_of_outcome? {dst : UInt32} {op op' : BinaryOp} {lhs rhs : Operand} {l r : Int64}
    (h : (binary dst op' lhs rhs).outcome? [l, r] = (binary dst op lhs rhs).outcome? [l, r]) :
    op'.eval? l r = op.eval? l r := by
  simp only [outcome?] at h
  cases hop : op.eval? l r with
  | none =>
      cases hop' : op'.eval? l r with
      | none => rfl
      | some value' =>
          rw [hop, hop'] at h
          cases h
  | some value =>
      cases hop' : op'.eval? l r with
      | none =>
          rw [hop, hop'] at h
          cases h
      | some value' =>
          rw [hop, hop'] at h
          cases h
          rfl

/-- Nothing but their outcome tells similar opcodes apart. -/
theorem Similar.effect_eq {o m : Opcode} (h : o.Similar m) {args : List Int64}
    {registers : Registers}
    (houtcome : ∀ values, Operand.readAll args registers o.operands = .ok values →
      m.outcome? values = o.outcome? values)
    (pc : Nat) : m.effect args registers pc = o.effect args registers pc := by
  cases h with
  | binary dst op op' lhs rhs =>
      rw [effect, effect]
      cases hlhs : lhs.read args registers with
      | error t => rfl
      | ok l =>
          cases hrhs : rhs.read args registers with
          | error t => rfl
          | ok r =>
              have hsame := houtcome [l, r] (Operand.readAll_pair hlhs hrhs)
              simp only [eval?_eq_of_outcome? hsame]
  | compare dst pred pred' lhs rhs =>
      rw [effect, effect]
      cases hlhs : lhs.read args registers with
      | error t => rfl
      | ok l =>
          cases hrhs : rhs.read args registers with
          | error t => rfl
          | ok r =>
              have hsame := houtcome [l, r] (Operand.readAll_pair hlhs hrhs)
              simp only [outcome?, Option.some.injEq, Except.ok.injEq] at hsame
              simp only [hsame]

end Opcode

open Machine

/-- A call that is not infected when it executes `m` in place of `o`: of the operand values that it
reads, both make the same. -/
def Machine.Frame.Masks (frame : Frame) (o m : Opcode) : Prop :=
  ∀ values, Operand.readAll frame.args frame.registers o.operands = .ok values →
    m.outcome? values = o.outcome? values

/-- A run without infection ends as that of the unmutated code. -/
theorem Executable.call_of_masks {p : Executable} {function : String} {index : Nat}
    {s : Symbol} {o m : Opcode} (hs : p.symbol? function = some s) (ho : s.code[index]? = some o)
    (hsimilar : o.Similar m) {name : String} {args : List Int64} {fuel : Nat}
    (hmasks : ∀ n < fuel, ∀ frame callers,
      p.Reaches (p.start name args) n (.running frame callers) →
        frame.function = function → frame.pc = index → frame.Masks o m) :
    (p.setOpcode function index m).call name args fuel = p.call name args fuel := by
  refine p.call_setOpcode fun n hn frame callers h => ?_
  by_cases hslot : frame.function = function ∧ frame.pc = index
  · obtain ⟨rfl, rfl⟩ := hslot
    exact p.step_setOpcode_of_effect callers hs ho
      (hsimilar.effect_eq (hmasks n hn frame callers h rfl rfl) frame.pc)
  · exact p.step_setOpcode_of_ne callers m fun hfunction hpc => hslot ⟨hfunction, hpc⟩

namespace Program

variable {program : Program} {a : Address} {f : Function} {o m : Opcode}

/-- A program that builds no executable has no valid test. -/
theorem freshStatus_of_not_builds (h : ∀ exe, ¬ program.Builds exe) (name : String) (fuel : Nat) :
    program.freshStatus name fuel = .invalid := by
  rw [freshStatus]
  cases hrebuild : program.rebuild with
  | error cause => rfl
  | ok artifacts =>
      simp only [runTest, executeTest]
      cases hlink : Executable.link artifacts with
      | error cause => rfl
      | ok exe => exact absurd ((program.builds_iff exe).mpr ⟨artifacts, hrebuild, hlink⟩) (h exe)

/-- The status of a test under a mutation of which its run sees nothing. -/
theorem freshStatus_setOpcode (hf : program.function? a.module a.function = some f)
    (ho : program.opcode? a = some o) (htargets : m.targets = o.targets)
    (hoperands : m.operands = o.operands) {name : String} {fuel : Nat}
    (hcall : ∀ exe, program.Builds exe →
      (exe.setOpcode f.name a.instruction m).call name [] fuel = exe.call name [] fuel) :
    (program.setOpcode a m).freshStatus name fuel = program.freshStatus name fuel := by
  have haccepted := accepted_setOpcode_iff ho htargets hoperands
  by_cases hbuilds : ∃ exe, program.Builds exe
  · obtain ⟨exe, hexe⟩ := hbuilds
    have hmutated := hexe.setOpcode hf (haccepted.mpr hexe.accepted)
    obtain ⟨artifacts, hrebuild, hlink⟩ := (program.builds_iff exe).mp hexe
    obtain ⟨artifacts', hrebuild', hlink'⟩ := (builds_iff _ _).mp hmutated
    rw [freshStatus, freshStatus, hrebuild, hrebuild']
    exact congrArg Status.ofOutcome (exe.executeTest_setOpcode hlink hlink' (hcall exe hexe))
  · have hno : ∀ exe, ¬ (program.setOpcode a m).Builds exe := by
      intro exe hexe
      exact hbuilds (program.exists_builds_iff.mpr
        ⟨haccepted.mp hexe.accepted, (program.distinct_setOpcode_iff a m).mp hexe.distinct⟩)
    rw [freshStatus_of_not_builds hno, freshStatus_of_not_builds (not_exists.mp hbuilds)]

end Program

/-- **Killed only by infection.** Let a standard mutation put `m` in place of `o` in one slot of a
linked program. If, each time a call executes that slot, `o` and `m` make the same of the values
read there, the call has the same result in the mutated program, whatever the fuel. In particular a
test that does not execute the slot has the status that it has on the unmutated program, also where
that program or the mutated one does not build. -/
theorem standard_mutation_infects :
    (∀ (p : Executable) (function : String) (index : Nat) (s : Symbol) (o m : Opcode)
        (kind : MutatorKind), p.symbol? function = some s → s.code[index]? = some o →
        MutationOperator.standardMutation kind o = some m →
      ∀ name args fuel,
        (∀ n < fuel, ∀ frame callers,
          p.Reaches (p.start name args) n (.running frame callers) →
            frame.function = function → frame.pc = index → frame.Masks o m) →
        (p.setOpcode function index m).call name args fuel = p.call name args fuel) ∧
      ∀ (program : Program) (a : Address) (f : Function) (o m : Opcode) (kind : MutatorKind),
        program.function? a.module a.function = some f → program.opcode? a = some o →
        MutationOperator.standardMutation kind o = some m →
      ∀ name fuel,
        (∀ artifacts exe, program.rebuild = .ok artifacts → Executable.link artifacts = .ok exe →
          ∀ n < fuel, ∀ frame callers,
            exe.Reaches (exe.start name []) n (.running frame callers) →
              frame.function = f.name → frame.pc ≠ a.instruction) →
        (program.setOpcode a m).freshStatus name fuel = program.freshStatus name fuel := by
  constructor
  · intro p function index s o m kind hs ho hm name args fuel hmasks
    have hsimilar := MutationOperator.similar_of_standardMutation hm
    exact Executable.call_of_masks hs ho hsimilar hmasks
  · intro program a f o m kind hf ho hm name fuel hexecutes
    have hsimilar := MutationOperator.similar_of_standardMutation hm
    refine Program.freshStatus_setOpcode hf ho hsimilar.targets hsimilar.operands fun exe hexe => ?_
    obtain ⟨artifacts, hrebuild, hlink⟩ := (program.builds_iff exe).mp hexe
    exact exe.call_setOpcode fun n hn frame callers h => exe.step_setOpcode_of_ne callers m
      (hexecutes artifacts exe hrebuild hlink n hn frame callers h)

/-- A test that calls a function on a number below its limit. So it executes the comparison, but not
the subtraction, which is for numbers from the limit on. -/
def belowLimit : Program :=
  ⟨[⟨"tests", none, [⟨"test_excess", 0,
      [⟨.call none "excess" [.imm 3], none⟩, ⟨.ret (some (.imm 1)), none⟩]⟩]⟩,
    ⟨"library", none, [⟨"excess", 1,
      [⟨.compare 0 .slt (.arg 0) (.imm 10), none⟩, ⟨.branch (.reg 0) 2 3, none⟩,
        ⟨.ret none, none⟩, ⟨.binary 1 .sub (.arg 0) (.imm 10), none⟩,
        ⟨.ret (some (.reg 1)), none⟩]⟩]⟩]⟩

theorem belowLimit_reaches {n : Nat} {frame : Frame} {callers : List Pending}
    (h : belowLimit.executable.Reaches (belowLimit.executable.start "test_excess" []) n
      (.running frame callers)) (hfunction : frame.function = "excess") :
    frame.args = [3] ∧ frame.pc < 3 := by
  let registers : Registers := ({} : Registers).insert 0 1
  let caller : Pending := ⟨⟨"test_excess", [], {}, 0⟩, none⟩
  have h0 : belowLimit.executable.Reaches (belowLimit.executable.start "test_excess" []) 0
      (.running caller.frame []) := .refl
  have h1 : belowLimit.executable.Reaches _ 1 (.running ⟨"excess", [3], {}, 0⟩ [caller]) := h0.tail
  have h2 : belowLimit.executable.Reaches _ 2 (.running ⟨"excess", [3], registers, 1⟩ [caller]) :=
    h1.tail
  have hbranch : belowLimit.executable.step ⟨"excess", [3], registers, 1⟩ [caller] =
      .running ⟨"excess", [3], registers, 2⟩ [caller] := by
    rw [Executable.step_eq (o := .branch (.reg 0) 2 3) rfl rfl]
    simp [Opcode.effect, Operand.read, registers]
  have h3 := hbranch ▸ h2.tail
  have h4 : belowLimit.executable.Reaches _ 4 (.running ⟨"test_excess", [], {}, 1⟩ []) := h3.tail
  have h5 : belowLimit.executable.Reaches _ 5 (.halted (.ok 1)) := h4.tail
  have hn : n ≤ 5 := h5.le_of_halted h
  interval_cases n
  · cases h.unique h0
    exact absurd hfunction (by decide)
  · cases h.unique h1
    exact ⟨rfl, by decide⟩
  · cases h.unique h2
    exact ⟨rfl, by decide⟩
  · cases h.unique h3
    exact ⟨rfl, by decide⟩
  · cases h.unique h4
    exact absurd hfunction (by decide)
  · cases h.unique h5

/-- The first instruction is executed, on 3 and 10, which are below one another as they are below or
equal; the fourth one is not. -/
theorem belowLimit_standard_mutation_infects :
    (∃ artifacts, belowLimit.rebuild = .ok artifacts ∧
        Executable.link artifacts = .ok belowLimit.executable) ∧
      (belowLimit.executable.setOpcode "excess" 0 (.compare 0 .sle (.arg 0) (.imm 10))).call
        "test_excess" [] 10 = belowLimit.executable.call "test_excess" [] 10 ∧
      (belowLimit.setOpcode ⟨1, 0, 3⟩ (.binary 1 .add (.arg 0) (.imm 10))).freshStatus
        "test_excess" 10 = belowLimit.freshStatus "test_excess" 10 := by
  refine ⟨?_, ?_, ?_⟩
  · obtain ⟨exe, hbuilds⟩ := belowLimit.exists_builds_iff.mpr ⟨by decide, by decide⟩
    rw [← hbuilds.eq_executable]
    exact (belowLimit.builds_iff exe).mp hbuilds
  · refine standard_mutation_infects.1 belowLimit.executable "excess" 0 _ _ _ .conditionalsBoundary
      rfl rfl rfl "test_excess" [] 10 fun n _ frame callers h hfunction hpc values hread => ?_
    rw [(belowLimit_reaches h hfunction).1] at hread
    cases hread
    rfl
  · refine standard_mutation_infects.2 belowLimit ⟨1, 0, 3⟩ _ _ _ .mathSub rfl rfl rfl
      "test_excess" 10 fun artifacts exe hrebuild hlink n _ frame callers h hfunction hpc => ?_
    have hbuilds := (belowLimit.builds_iff exe).mpr ⟨artifacts, hrebuild, hlink⟩
    rw [hbuilds.eq_executable] at h
    have hlt := (belowLimit_reaches h hfunction).2
    rw [hpc] at hlt
    exact absurd hlt (by decide)

end MutationTesting

import Mathlib.Data.List.Forall2
import Mathlib.Logic.Function.Iterate
import MutationTesting.Proofs.Execution.Machine

/-!
The evaluator as a machine with a call stack and a meter. The machine has one stack of frames, which
is never higher than as many calls may be active, and one counter, from which each step takes a unit
of fuel. Its frames have the functions themselves, and a frame that waits knows the register for the
value of its call. The run of this machine is that of the machine without fuel, cut off where the
counter is empty, so it ends with the result of the evaluator.
-/

namespace MutationTesting

namespace StackMachine

/-- An active call: a linked function and how far its execution has come. While it waits for a call
of its own, `pc` is behind the call instruction and `dst` is the register for the value. -/
structure Frame where
  symbol : Symbol
  pc : Nat
  registers : Registers
  args : List Int64
  dst : Option UInt32

/-- The active calls. The one on top is being executed; those below wait, the innermost first. -/
structure Stack where
  top : Frame
  below : List Frame
  bounded : below.length < maxCallDepth

inductive State where
  /-- A run that goes on, and the fuel that is left for all of its frames. -/
  | active (stack : Stack) (fuel : Nat)
  | ended (outcome : Except Trap Int64)

namespace State

/-- A value is returned to the innermost call that waits; where none waits, the run ends with it. -/
def resume (value : Int64) (fuel : Nat) :
    (waiting : List Frame) → waiting.length ≤ maxCallDepth → State
  | [], _ => .ended (.ok value)
  | caller :: below, bounded =>
    .active ⟨{ caller with registers := caller.registers.receive caller.dst value }, below, bounded⟩
      fuel

/-- A name is called. A linked function gets a frame without any register if there is room for one;
a builtin answers at once. -/
def call (p : Executable) (name : String) (args : List Int64) (fuel : Nat) (waiting : List Frame)
    (bounded : waiting.length ≤ maxCallDepth) : State :=
  match p.symbol? name with
  | none =>
    match builtin name args with
    | .error t => .ended (.error t)
    | .ok value => .resume value fuel waiting bounded
  | some s =>
    if s.params.toNat ≠ args.length then
      .ended (.error (.argumentCount name s.params args.length))
    else if room : waiting.length < maxCallDepth then
      .active ⟨⟨s, 0, {}, args, none⟩, waiting, room⟩ fuel
    else .ended (.error (.callDepthExceeded name))

end State

/-- The machine when a program is called from outside. -/
def start (p : Executable) (name : String) (args : List Int64) (fuel : Nat) : State :=
  .call p name args fuel [] (Nat.zero_le maxCallDepth)

/-- One step: a trap where no fuel is left, else a unit of fuel for the next instruction of the top
frame. A trap of any frame is the end of the run. -/
def step (p : Executable) : State → State
  | .ended outcome => .ended outcome
  | .active _ 0 => .ended (.error .outOfFuel)
  | .active ⟨top, below, bounded⟩ (fuel + 1) =>
    match top.symbol.code[top.pc]? with
    | none => .ended (.error (.pastEnd top.symbol.name))
    | some o =>
      match o.effect top.args top.registers top.pc with
      | .trap t => .ended (.error t)
      | .proceed registers pc =>
        .active ⟨{ top with registers := registers, pc := pc }, below, bounded⟩ fuel
      | .ret value => .resume value fuel below (Nat.le_of_lt bounded)
      | .call dst callee values =>
        .call p callee values fuel ({ top with pc := top.pc + 1, dst := dst } :: below) bounded

/-- A frame that stands at `pc` in the function that the other frame has by its name. -/
structure Resolves (p : Executable) (named : Machine.Frame) (pc : Nat) (frame : Frame) : Prop where
  symbol : p.symbol? named.function = some frame.symbol
  pc : frame.pc = pc
  registers : frame.registers = named.registers
  args : frame.args = named.args

/-- A frame that waits has passed its call. -/
structure Waits (p : Executable) (pending : Machine.Pending) (frame : Frame) : Prop extends
    Resolves p pending.frame (pending.frame.pc + 1) frame where
  dst : frame.dst = pending.dst

/-- The state of the machine without fuel, with what is left of the fuel. -/
inductive Simulates (p : Executable) (fuel : Nat) : Machine.State → State → Prop
  | active {frame : Machine.Frame} {callers : List Machine.Pending} {stack : Stack}
      (htop : Resolves p frame frame.pc stack.top)
      (hbelow : List.Forall₂ (Waits p) callers stack.below) :
      Simulates p fuel (.running frame callers) (.active stack fuel)
  | ended (outcome : Except Trap Int64) : Simulates p fuel (.halted outcome) (.ended outcome)

variable {p : Executable} {fuel : Nat} {callers : List Machine.Pending} {waiting : List Frame}

theorem Simulates.resume (value : Int64) (hwaits : List.Forall₂ (Waits p) callers waiting)
    (bounded : waiting.length ≤ maxCallDepth) :
    Simulates p fuel (.ofReturn value callers) (.resume value fuel waiting bounded) := by
  cases hwaits with
  | nil => exact .ended (.ok value)
  | cons hcaller hbelow =>
      refine .active ⟨hcaller.symbol, hcaller.pc, ?_, hcaller.args⟩ hbelow
      rw [hcaller.registers, hcaller.dst]

theorem Simulates.call (name : String) (args : List Int64)
    (hwaits : List.Forall₂ (Waits p) callers waiting) (bounded : waiting.length ≤ maxCallDepth) :
    Simulates p fuel (p.enter name args callers) (.call p name args fuel waiting bounded) := by
  rw [Executable.enter, State.call, hwaits.length_eq]
  cases hsymbol : p.symbol? name with
  | none =>
      simp only
      cases builtin name args with
      | error t => exact .ended (.error t)
      | ok value => exact .resume value hwaits bounded
  | some s =>
      simp only
      by_cases hargs : s.params.toNat ≠ args.length
      · rw [if_pos hargs, if_pos hargs]
        exact .ended _
      · rw [if_neg hargs, if_neg hargs]
        by_cases hroom : waiting.length < maxCallDepth
        · rw [if_pos hroom, dif_pos hroom]
          exact .active ⟨hsymbol, rfl, rfl, rfl⟩ hwaits
        · rw [if_neg hroom, dif_neg hroom]
          exact .ended _

/-- With a unit of fuel the two machines execute the same instruction. -/
theorem Simulates.step_step {frame : Machine.Frame} {s : State}
    (h : Simulates p (fuel + 1) (.running frame callers) s) :
    Simulates p fuel (p.step frame callers) (step p s) := by
  cases h with
  | @active _ _ stack htop hbelow =>
      obtain ⟨top, below, bounded⟩ := stack
      rw [StackMachine.step, htop.pc, htop.args, htop.registers]
      have hsteps := Executable.steps_step callers htop.symbol
      generalize p.step frame callers = t at hsteps ⊢
      cases hsteps with
      | pastEnd hcode =>
          simp only [hcode]
          exact .ended _
      | trap hcode heffect =>
          simp only [hcode, heffect]
          exact .ended _
      | ret hcode heffect =>
          simp only [hcode, heffect]
          exact .resume _ hbelow _
      | proceed hcode heffect =>
          simp only [hcode, heffect]
          exact .active ⟨htop.symbol, rfl, rfl, rfl⟩ hbelow
      | call hcode heffect =>
          simp only [hcode, heffect]
          -- the caller is the first of those that wait
          exact .call _ _ (.cons ⟨⟨htop.symbol, rfl, rfl, rfl⟩, rfl⟩ hbelow) bounded

/-- As long as there is fuel, the two machines run together. -/
theorem Simulates.of_reaches {name : String} {args : List Int64} {n : Nat} {s : Machine.State}
    (h : p.Reaches (p.start name args) n s) (hn : n ≤ fuel) :
    Simulates p (fuel - n) s ((step p)^[n] (start p name args fuel)) := by
  induction h with
  | refl => exact .call name args .nil (Nat.zero_le maxCallDepth)
  | @tail n frame callers _ ih =>
      have hrun := ih (Nat.le_of_succ_le hn)
      rw [show fuel - n = fuel - (n + 1) + 1 by omega] at hrun
      rw [Function.iterate_succ_apply']
      exact hrun.step_step

end StackMachine

end MutationTesting

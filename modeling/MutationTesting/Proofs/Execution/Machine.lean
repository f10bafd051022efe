import MutationTesting.Execution.Evaluation
import MutationTesting.Proofs.Execution.Effect

/-!
The evaluator as a machine. The machine keeps the active calls on a stack and executes one
instruction after another, without fuel. A call with some fuel is as many instructions of the
machine, or fewer if it halts before: its result is what the machine halts with, and the fuel it
spends is the number of instructions executed in all its calls together. So what holds of every
state of the machine holds throughout every call, and two programs whose machines take the same
steps have the same results.
-/

namespace MutationTesting

namespace Machine

/-- An active call: the function by its link name, and how far its execution has come. -/
structure Frame where
  function : String
  args : List Int64
  registers : Registers
  pc : Nat

/-- A call that waits at a call instruction, and the register that the value goes to. -/
structure Pending where
  frame : Frame
  dst : Option UInt32

inductive State where
  /-- One call is being executed; the others wait, the innermost first. -/
  | running (frame : Frame) (callers : List Pending)
  | halted (outcome : Except Trap Int64)

/-- The innermost waiting call goes on with a value; where none waits, that is the outcome. -/
def State.ofReturn (value : Int64) : List Pending → State
  | [] => .halted (.ok value)
  | ⟨frame, dst⟩ :: callers =>
    .running
      { frame with registers := frame.registers.receive dst value, pc := frame.pc + 1 } callers

end Machine

namespace Executable

open Machine

/-- Begins a call, or carries it out at once if it is one of a builtin. -/
def enter (p : Executable) (name : String) (args : List Int64) (callers : List Pending) : State :=
  match p.symbol? name with
  | none =>
    match builtin name args with
    | .error t => .halted (.error t)
    | .ok value => .ofReturn value callers
  | some s =>
    if s.params.toNat ≠ args.length then
      .halted (.error (.argumentCount name s.params args.length))
    else if callers.length < maxCallDepth then .running ⟨name, args, {}, 0⟩ callers
    else .halted (.error (.callDepthExceeded name))

/-- The machine before the first instruction of a call. -/
def start (p : Executable) (name : String) (args : List Int64) : State := p.enter name args []

/-- Executes the next instruction. -/
def step (p : Executable) (frame : Frame) (callers : List Pending) : State :=
  match p.symbol? frame.function with
  | none => .halted (.error (.unresolved frame.function))
  | some s =>
    match s.code[frame.pc]? with
    | none => .halted (.error (.pastEnd s.name))
    | some o =>
      match o.effect frame.args frame.registers frame.pc with
      | .trap t => .halted (.error t)
      | .ret value => .ofReturn value callers
      | .proceed registers pc => .running { frame with registers := registers, pc := pc } callers
      | .call dst callee values => p.enter callee values (⟨frame, dst⟩ :: callers)

/-- All the ways in which a call begins. -/
inductive Enters (p : Executable) (name : String) (args : List Int64) (callers : List Pending) :
    State → Prop
  | frame {s : Symbol} (hsymbol : p.symbol? name = some s) (hargs : s.params.toNat = args.length)
      (hroom : callers.length < maxCallDepth) :
      Enters p name args callers (.running ⟨name, args, {}, 0⟩ callers)
  | argumentCount {s : Symbol} (hsymbol : p.symbol? name = some s)
      (hargs : s.params.toNat ≠ args.length) :
      Enters p name args callers (.halted (.error (.argumentCount name s.params args.length)))
  | tooDeep {s : Symbol} (hsymbol : p.symbol? name = some s)
      (hfull : maxCallDepth ≤ callers.length) :
      Enters p name args callers (.halted (.error (.callDepthExceeded name)))
  | value {value : Int64} (hsymbol : p.symbol? name = none)
      (hbuiltin : builtin name args = .ok value) :
      Enters p name args callers (.ofReturn value callers)
  | trap {cause : Trap} (hsymbol : p.symbol? name = none)
      (hbuiltin : builtin name args = .error cause) :
      Enters p name args callers (.halted (.error cause))

theorem enters_enter (p : Executable) (name : String) (args : List Int64)
    (callers : List Pending) : p.Enters name args callers (p.enter name args callers) := by
  rw [enter]
  cases hsymbol : p.symbol? name with
  | none =>
      simp only
      cases hbuiltin : builtin name args with
      | ok value => exact .value hsymbol hbuiltin
      | error cause => exact .trap hsymbol hbuiltin
  | some s =>
      simp only
      split
      next hargs => exact .argumentCount hsymbol hargs
      next hargs =>
        split
        next hroom => exact .frame hsymbol (Classical.not_not.mp hargs) hroom
        next hfull => exact .tooDeep hsymbol (Nat.le_of_not_lt hfull)

/-- `p.Reaches s n t`: from `s` the machine comes to `t` by executing `n` instructions. -/
inductive Reaches (p : Executable) (s : State) : Nat → State → Prop
  | refl : Reaches p s 0 s
  | tail {n : Nat} {frame : Frame} {callers : List Pending}
      (h : Reaches p s n (.running frame callers)) : Reaches p s (n + 1) (p.step frame callers)

variable {p : Executable} {s t u : State} {m n : Nat} {frame : Frame} {callers : List Pending}

theorem Reaches.single (p : Executable) (frame : Frame) (callers : List Pending) :
    p.Reaches (.running frame callers) 1 (p.step frame callers) :=
  .tail .refl

theorem Reaches.trans (h : p.Reaches s m t) (h' : p.Reaches t n u) : p.Reaches s (m + n) u := by
  induction h' with
  | refl => exact h
  | tail _ ih => exact .tail ih

/-- The machine is deterministic. -/
theorem Reaches.unique (h : p.Reaches s n t) (h' : p.Reaches s n u) : t = u := by
  induction h generalizing u with
  | refl =>
      cases h'
      rfl
  | tail _ ih =>
      cases h' with
      | tail h' =>
          have heq := ih h'
          cases heq
          rfl

/-- Before the last instruction the machine is running. -/
theorem Reaches.running_of_lt (h : p.Reaches s n t) (hlt : m < n) :
    ∃ frame callers, p.Reaches s m (.running frame callers) := by
  induction h with
  | refl => exact absurd hlt (Nat.not_lt_zero m)
  | tail h ih =>
      rcases Nat.lt_succ_iff_lt_or_eq.mp hlt with hlt | rfl
      · exact ih hlt
      · exact ⟨_, _, h⟩

/-- Nothing is executed once the machine has halted. -/
theorem Reaches.le_of_halted {outcome : Except Trap Int64} (h : p.Reaches s n (.halted outcome))
    (h' : p.Reaches s m t) : m ≤ n := by
  refine Nat.le_of_not_lt fun hlt => ?_
  obtain ⟨frame, callers, hrunning⟩ := h'.running_of_lt hlt
  cases h.unique hrunning

/-- What every state of a run has, given that the first state has it and that steps keep it. -/
theorem Reaches.invariant {inv : State → Prop} (h : p.Reaches s n t) (hs : inv s)
    (hstep : ∀ frame callers, inv (.running frame callers) → inv (p.step frame callers)) :
    inv t := by
  induction h with
  | refl => exact hs
  | tail _ ih => exact hstep _ _ ih

/-! ### Calls -/

/-- How a reply of the evaluator agrees with the machine: it took this fuel to come from `s` to the
state that the reply stands for, where `callers` wait for the value. -/
inductive Leads (p : Executable) (s : State) (callers : List Pending) (fuel : Nat) :
    Except Trap Int64 × Nat → Prop
  | value {spent left : Nat} {value : Int64} (h : p.Reaches s spent (.ofReturn value callers))
      (hfuel : spent + left = fuel) : Leads p s callers fuel (.ok value, left)
  | trap {spent left : Nat} {cause : Trap} (h : p.Reaches s spent (.halted (.error cause)))
      (hfuel : spent + left = fuel) (hcause : cause ≠ .outOfFuel) :
      Leads p s callers fuel (.error cause, left)
  | starved {frame : Frame} {waiting : List Pending}
      (h : p.Reaches s fuel (.running frame waiting)) :
      Leads p s callers fuel (.error .outOfFuel, 0)

/-- Instructions executed before count as well. -/
theorem Leads.of_reaches {fuel left : Nat} {r : Except Trap Int64 × Nat} (h : p.Reaches s n t)
    (hleads : p.Leads t callers left r) (hfuel : n + left = fuel) : p.Leads s callers fuel r := by
  cases hleads with
  | value ht hleft => exact .value (h.trans ht) (by omega)
  | trap ht hleft hcause => exact .trap (h.trans ht) (by omega) hcause
  | starved ht =>
      subst hfuel
      exact .starved (h.trans ht)

/-- Where the next instruction leads to, the whole run leads. -/
theorem Leads.of_step {fuel : Nat} {r : Except Trap Int64 × Nat} {waiting : List Pending}
    (hleads : p.Leads (p.step frame callers) waiting fuel r) :
    p.Leads (.running frame callers) waiting (fuel + 1) r :=
  hleads.of_reaches (.single p frame callers) (Nat.add_comm 1 fuel)

theorem step_pastEnd {symbol : Symbol} (hsymbol : p.symbol? frame.function = some symbol)
    (hcode : symbol.code[frame.pc]? = none) :
    p.step frame callers = .halted (.error (.pastEnd symbol.name)) := by
  rw [step, hsymbol]
  simp only [hcode]

theorem step_eq {symbol : Symbol} {o : Opcode} (hsymbol : p.symbol? frame.function = some symbol)
    (hcode : symbol.code[frame.pc]? = some o) :
    p.step frame callers =
      match o.effect frame.args frame.registers frame.pc with
      | .trap t => .halted (.error t)
      | .ret value => .ofReturn value callers
      | .proceed registers pc => .running { frame with registers := registers, pc := pc } callers
      | .call dst callee values => p.enter callee values (⟨frame, dst⟩ :: callers) := by
  rw [step, hsymbol]
  simp only [hcode]

/-- All that executing the next instruction of `s` can lead to. -/
inductive Steps (p : Executable) (frame : Frame) (callers : List Pending) (s : Symbol) :
    State → Prop
  | pastEnd (hcode : s.code[frame.pc]? = none) :
      Steps p frame callers s (.halted (.error (.pastEnd s.name)))
  | trap {o : Opcode} {cause : Trap} (hcode : s.code[frame.pc]? = some o)
      (heffect : o.effect frame.args frame.registers frame.pc = .trap cause) :
      Steps p frame callers s (.halted (.error cause))
  | ret {o : Opcode} {value : Int64} (hcode : s.code[frame.pc]? = some o)
      (heffect : o.effect frame.args frame.registers frame.pc = .ret value) :
      Steps p frame callers s (.ofReturn value callers)
  | proceed {o : Opcode} {registers : Registers} {pc : Nat} (hcode : s.code[frame.pc]? = some o)
      (heffect : o.effect frame.args frame.registers frame.pc = .proceed registers pc) :
      Steps p frame callers s
        (.running { frame with registers := registers, pc := pc } callers)
  | call {o : Opcode} {dst : Option UInt32} {callee : String} {values : List Int64}
      (hcode : s.code[frame.pc]? = some o)
      (heffect : o.effect frame.args frame.registers frame.pc = .call dst callee values) :
      Steps p frame callers s (p.enter callee values (⟨frame, dst⟩ :: callers))

theorem steps_step (callers : List Pending) {symbol : Symbol}
    (hsymbol : p.symbol? frame.function = some symbol) :
    p.Steps frame callers symbol (p.step frame callers) := by
  cases hcode : symbol.code[frame.pc]? with
  | none =>
      rw [step_pastEnd hsymbol hcode]
      exact .pastEnd hcode
  | some o =>
      rw [step_eq hsymbol hcode]
      cases heffect : o.effect frame.args frame.registers frame.pc with
      | trap cause => exact .trap hcode heffect
      | ret value => exact .ret hcode heffect
      | proceed registers pc => exact .proceed hcode heffect
      | call dst callee values => exact .call hcode heffect

/-- A body, executed by recursion, does what the machine does from its frame on, if the calls in it
do what the machine does. -/
theorem execute_leads {enter : String → List Int64 → (fuel : Nat) → Reply fuel} {name : String}
    {symbol : Symbol} (hsymbol : p.symbol? name = some symbol) (args : List Int64)
    (callers : List Pending)
    (henter : ∀ callee values caller fuel,
      p.Leads (p.enter callee values (caller :: callers)) (caller :: callers) fuel
        (enter callee values fuel).1)
    (fuel : Nat) (registers : Registers) (pc : Nat) :
    p.Leads (.running ⟨name, args, registers, pc⟩ callers) callers fuel
      (execute enter symbol args registers pc fuel).1 := by
  induction fuel using Nat.strongRecOn generalizing registers pc with
  | ind fuel ih =>
      cases fuel with
      | zero =>
          rw [execute]
          exact .starved .refl
      | succ fuel =>
          rw [execute]
          refine Leads.of_step ?_
          cases hcode : symbol.code[pc]? with
          | none =>
              rw [step_pastEnd hsymbol hcode]
              exact .trap .refl (Nat.zero_add fuel) (by simp)
          | some o =>
              rw [step_eq hsymbol hcode]
              simp only
              cases heffect : o.effect args registers pc with
              | trap cause =>
                  refine .trap .refl (Nat.zero_add fuel) fun hcause => ?_
                  exact o.effect_ne_outOfFuel args registers pc (hcause ▸ heffect)
              | ret value => exact .value .refl (Nat.zero_add fuel)
              | proceed registers pc => exact ih fuel (Nat.lt_succ_self fuel) registers pc
              | call dst callee values =>
                  have hcall := henter callee values ⟨⟨name, args, registers, pc⟩, dst⟩ fuel
                  simp only
                  cases hreply : enter callee values fuel with
                  | mk r hr =>
                      obtain ⟨outcome, left⟩ := r
                      rw [hreply] at hcall
                      cases outcome with
                      | error cause =>
                          -- a trap in a call is one of the caller as well
                          cases hcall with
                          | trap h hfuel hcause => exact .trap h hfuel hcause
                          | starved h => exact .starved h
                      | ok value =>
                          cases hcall with
                          | value h hfuel =>
                              have hrest := ih left (Nat.lt_succ_of_le hr)
                                (registers.receive dst value) (pc + 1)
                              exact hrest.of_reaches h hfuel

/-- The evaluator does what the machine does. The calls that wait and those that may still begin are
together as many as may be active. -/
theorem invoke_leads (p : Executable) (room : Nat) (name : String) (args : List Int64)
    (callers : List Pending) (hroom : callers.length + room = maxCallDepth) (fuel : Nat) :
    p.Leads (p.enter name args callers) callers fuel (p.invoke room name args fuel).1 := by
  rw [enter, invoke.eq_def]
  cases hsymbol : p.symbol? name with
  | none =>
      simp only
      cases hbuiltin : builtin name args with
      | ok value => exact .value .refl (Nat.zero_add fuel)
      | error cause =>
          refine .trap .refl (Nat.zero_add fuel) ?_
          rcases builtin_error hbuiltin with rfl | rfl | rfl <;> exact nofun
  | some symbol =>
      simp only
      by_cases hargs : symbol.params.toNat ≠ args.length
      · rw [if_pos hargs, if_pos hargs]
        exact .trap .refl (Nat.zero_add fuel) nofun
      · rw [if_neg hargs, if_neg hargs]
        cases room with
        | zero =>
            have hfull : ¬ callers.length < maxCallDepth := by omega
            rw [if_neg hfull]
            exact .trap .refl (Nat.zero_add fuel) nofun
        | succ room =>
            have hfree : callers.length < maxCallDepth := by omega
            rw [if_pos hfree]
            refine execute_leads hsymbol args callers ?_ fuel {} 0
            intro callee values caller fuel
            refine invoke_leads p room callee values (caller :: callers) ?_ fuel
            rw [List.length_cons]
            omega

/-- The fuel that a call leaves. -/
def remaining (p : Executable) (name : String) (args : List Int64) (fuel : Nat) : Nat :=
  (p.invoke maxCallDepth name args fuel).1.2

/-- **The evaluator is the machine.** A call ends with what the machine halts with after as many
instructions as the call spends fuel, unless the machine is still running after all the fuel. -/
theorem call_cases (p : Executable) (name : String) (args : List Int64) (fuel : Nat) :
    (∃ spent, spent + p.remaining name args fuel = fuel ∧
        p.Reaches (p.start name args) spent (.halted (p.call name args fuel)) ∧
        p.call name args fuel ≠ .error .outOfFuel) ∨
      p.remaining name args fuel = 0 ∧ p.call name args fuel = .error .outOfFuel ∧
        ∃ frame callers, p.Reaches (p.start name args) fuel (.running frame callers) := by
  have hleads := p.invoke_leads maxCallDepth name args [] (Nat.zero_add maxCallDepth) fuel
  rw [start, call, remaining]
  cases hreply : (p.invoke maxCallDepth name args fuel).1 with
  | mk outcome left =>
      rw [hreply] at hleads
      cases hleads with
      | value h hfuel => exact Or.inl ⟨_, hfuel, h, nofun⟩
      | trap h hfuel hcause =>
          exact Or.inl ⟨_, hfuel, h, fun hout => hcause (Except.error.inj hout)⟩
      | starved h => exact Or.inr ⟨rfl, rfl, _, _, h⟩

/-- A call with enough fuel for the machine to halt. -/
theorem call_of_halted {name : String} {args : List Int64} {fuel : Nat}
    {outcome : Except Trap Int64} (h : p.Reaches (p.start name args) n (.halted outcome))
    (hfuel : n ≤ fuel) : p.call name args fuel = outcome ∧ outcome ≠ .error .outOfFuel := by
  rcases p.call_cases name args fuel with ⟨spent, -, hspent, hout⟩ | ⟨-, -, frame, callers, hrun⟩
  · have hn : n = spent := Nat.le_antisymm (hspent.le_of_halted h) (h.le_of_halted hspent)
    subst hn
    have heq := hspent.unique h
    rw [State.halted.injEq] at heq
    exact ⟨heq, heq ▸ hout⟩
  · have hn : n = fuel := Nat.le_antisymm hfuel (h.le_of_halted hrun)
    subst hn
    cases h.unique hrun

/-- A call during all of which the machine is running. -/
theorem call_of_running {name : String} {args : List Int64} {fuel : Nat}
    (h : p.Reaches (p.start name args) fuel (.running frame callers)) :
    p.call name args fuel = .error .outOfFuel := by
  rcases p.call_cases name args fuel with ⟨spent, hfuel, hspent, -⟩ | ⟨-, hout, -⟩
  · have hle : fuel ≤ spent := hspent.le_of_halted h
    have hn : fuel = spent := by omega
    subst hn
    cases h.unique hspent
  · exact hout

/-- Executables whose machines execute every instruction of a call alike give it one result. -/
theorem call_congr {q : Executable} {name : String} {args : List Int64} {fuel : Nat}
    (hstart : q.start name args = p.start name args)
    (hstep : ∀ n < fuel, ∀ frame callers,
      p.Reaches (p.start name args) n (.running frame callers) →
        q.step frame callers = p.step frame callers) :
    q.call name args fuel = p.call name args fuel := by
  have hsame : ∀ n t, n ≤ fuel → p.Reaches (p.start name args) n t →
      q.Reaches (q.start name args) n t := by
    intro n t hn h
    induction h with
    | refl =>
        rw [hstart]
        exact .refl
    | tail h ih =>
        rw [← hstep _ hn _ _ h]
        exact .tail (ih (Nat.le_of_lt hn))
  rcases p.call_cases name args fuel with ⟨spent, hfuel, h, -⟩ | ⟨-, hout, frame, callers, h⟩
  · exact (call_of_halted (hsame spent _ (by omega) h) (by omega)).1
  · rw [hout]
    exact call_of_running (hsame fuel _ (Nat.le_refl fuel) h)

end Executable

end MutationTesting

import MutationTesting.Proofs.Execution.Build
import MutationTesting.Proofs.Execution.Machine

/-!
Safety of accepted code. In a program whose modules the compiler accepts, every active call has all
the arguments that its code may read, and is at an instruction of its body, or has run past a last
one that passes control on. The machine keeps this from one instruction to the next, in the running
call and in those that wait, and so it holds throughout every run.
-/

namespace MutationTesting

namespace Function

/-- A function whose last instruction passes control on. -/
def FallsThrough (f : Function) : Prop :=
  ∃ i, f.body.getLast? = some i ∧ i.opcode.endsBody = false

/-- Behind an instruction that passes control on there is another one, or it was the last. -/
theorem next_of_endsBody {f : Function} {pc : Nat} {i : Instruction} (hi : f.body[pc]? = some i)
    (hends : i.opcode.endsBody = false) :
    pc + 1 < f.body.length ∨ pc + 1 = f.body.length ∧ f.FallsThrough := by
  have hlt : pc < f.body.length := (List.getElem?_eq_some_iff.mp hi).1
  rcases Nat.lt_or_eq_of_le (Nat.succ_le_of_lt hlt) with hnext | hlast
  · exact Or.inl hnext
  · refine Or.inr ⟨hlast, i, ?_, hends⟩
    rw [List.getLast?_eq_getElem?, ← hlast]
    exact hi

/-- Allowed code finds its arguments in every call of the function. -/
theorem Allows.read_ne_missingArgument {params : UInt32} {length : Nat} {o : Opcode}
    (h : Allows params length o) {args : List Int64} (hargs : params.toNat = args.length)
    {x : Operand} (hx : x ∈ o.operands) (registers : Registers) (index : UInt32) :
    x.read args registers ≠ .error (.missingArgument index) := by
  intro hread
  rcases Operand.read_error hread with ⟨index', rfl, hmissing, -⟩ | ⟨index', hcause⟩
  · have hlt : index'.toNat < params.toNat := UInt32.lt_iff_toNat_lt.mp (h.arguments index' hx)
    omega
  · cases hcause

end Function

namespace Machine

variable {program : Program} {exe : Executable}

/-- A frame of a function with the arguments that it takes. -/
structure Frame.Runs (program : Program) (frame : Frame) (f : Function) : Prop where
  defined : f ∈ program.functions
  name : f.name = frame.function
  params : f.params.toNat = frame.args.length

/-- The frame is at an instruction, or has run past a last one that passes control on. -/
structure Frame.Sound (program : Program) (frame : Frame) (f : Function) : Prop
    extends frame.Runs program f where
  pc : frame.pc < f.body.length ∨ frame.pc = f.body.length ∧ f.FallsThrough

/-- The frame waits at an instruction that passes control on. -/
structure Pending.Sound (program : Program) (caller : Pending) (f : Function) : Prop
    extends caller.frame.Runs program f where
  pc : ∃ i, f.body[caller.frame.pc]? = some i ∧ i.opcode.endsBody = false

/-- What every state of a run has. -/
def State.Sound (program : Program) : State → Prop
  | .running frame callers =>
    (∃ f, frame.Sound program f) ∧ ∀ caller ∈ callers, ∃ f, caller.Sound program f
  | .halted outcome =>
    (∀ index, outcome ≠ .error (.missingArgument index)) ∧
      ∀ name, outcome = .error (.pastEnd name) →
        ∃ f ∈ program.functions, f.name = name ∧ f.FallsThrough

theorem State.Sound.ofReturn {callers : List Pending} (value : Int64)
    (h : ∀ caller ∈ callers, ∃ f, caller.Sound program f) :
    (State.ofReturn value callers).Sound program := by
  cases callers with
  | nil => simp [State.ofReturn, State.Sound]
  | cons caller callers =>
      obtain ⟨f, hf⟩ := h caller List.mem_cons_self
      obtain ⟨i, hi, hends⟩ := hf.pc
      refine ⟨⟨f, ⟨hf.defined, hf.name, hf.params⟩, ?_⟩, ?_⟩
      · exact Function.next_of_endsBody hi hends
      · exact fun other hother => h other (List.mem_cons_of_mem caller hother)

theorem State.Sound.enter (hbuilds : program.Builds exe) (name : String) (args : List Int64)
    {callers : List Pending} (h : ∀ caller ∈ callers, ∃ f, caller.Sound program f) :
    (exe.enter name args callers).Sound program := by
  have henters := exe.enters_enter name args callers
  generalize exe.enter name args callers = s at henters ⊢
  cases henters with
  | frame hsymbol hargs hroom =>
      obtain ⟨f, hf, hname, rfl⟩ := (hbuilds.symbol name _).mp hsymbol
      have hbody : 0 < f.body.length := List.length_pos_iff.mpr (hbuilds.wellFormed hf).nonempty
      exact ⟨⟨f, ⟨hf, hname, hargs⟩, Or.inl hbody⟩, h⟩
  | argumentCount hsymbol hargs => simp [State.Sound]
  | tooDeep hsymbol hfull => simp [State.Sound]
  | value hsymbol hbuiltin => exact .ofReturn _ h
  | trap hsymbol hbuiltin =>
      rcases builtin_error hbuiltin with rfl | rfl | rfl <;> simp [State.Sound]

theorem State.Sound.step (hbuilds : program.Builds exe) {frame : Frame} {callers : List Pending}
    (h : (State.running frame callers).Sound program) :
    (exe.step frame callers).Sound program := by
  obtain ⟨⟨f, hf⟩, hcallers⟩ := h
  have hallowed := (hbuilds.wellFormed hf.defined).allowed
  have hsymbol : exe.symbol? frame.function = some (.ofFunction f) :=
    (hbuilds.symbol _ _).mpr ⟨f, hf.defined, hf.name, rfl⟩
  have hsteps := Executable.steps_step callers hsymbol
  generalize exe.step frame callers = s at hsteps ⊢
  cases hsteps with
  | pastEnd hcode =>
      refine ⟨by simp, fun name hname => ?_⟩
      cases hname
      refine ⟨f, hf.defined, rfl, ?_⟩
      rcases hf.pc with hlt | ⟨-, hfalls⟩
      · exact absurd hlt (Nat.not_lt.mpr (Function.length_le_of_code hcode))
      · exact hfalls
  | trap hcode heffect =>
      obtain ⟨i, hi, rfl⟩ := Function.exists_of_code hcode
      have hacts := i.opcode.acts_effect frame.args frame.registers frame.pc
      rw [heffect] at hacts
      cases hacts with
      | divisionByZero => simp [State.Sound]
      | unreadable hx hread =>
          have hne := (hallowed i (List.mem_of_getElem? hi)).read_ne_missingArgument hf.params hx
            frame.registers
          rcases Operand.read_error hread with ⟨index, -, -, rfl⟩ | ⟨index, rfl⟩
          · exact absurd hread (hne index)
          · simp [State.Sound]
  | ret hcode heffect => exact .ofReturn _ hcallers
  | proceed hcode heffect =>
      obtain ⟨i, hi, rfl⟩ := Function.exists_of_code hcode
      have hacts := i.opcode.acts_effect frame.args frame.registers frame.pc
      rw [heffect] at hacts
      refine ⟨⟨f, ⟨hf.defined, hf.name, hf.params⟩, ?_⟩, hcallers⟩
      cases hacts with
      | next after hends => exact Function.next_of_endsBody hi hends
      | jump htarget => exact Or.inl ((hallowed i (List.mem_of_getElem? hi)).targets _ htarget)
  | call hcode heffect =>
      obtain ⟨i, hi, rfl⟩ := Function.exists_of_code hcode
      have hacts := i.opcode.acts_effect frame.args frame.registers frame.pc
      rw [heffect] at hacts
      cases hacts with
      | call _ _ operands _ ho =>
          refine .enter hbuilds _ _ fun caller hcaller => ?_
          rcases List.mem_cons.mp hcaller with rfl | hcaller
          · exact ⟨f, ⟨hf.defined, hf.name, hf.params⟩, i, hi, by rw [ho]; rfl⟩
          · exact hcallers caller hcaller

/-- Every state of a run is sound. -/
theorem State.Sound.of_reaches (hbuilds : program.Builds exe) {name : String} {args : List Int64}
    {n : Nat} {s : State} (h : exe.Reaches (exe.start name args) n s) : s.Sound program := by
  refine h.invariant ?_ fun frame callers hs => hs.step hbuilds
  exact .enter hbuilds name args fun caller hcaller => absurd hcaller List.not_mem_nil

/-- What every call ends with. -/
theorem State.Sound.of_call (hbuilds : program.Builds exe) (name : String) (args : List Int64)
    (fuel : Nat) : (State.halted (exe.call name args fuel)).Sound program := by
  rcases exe.call_cases name args fuel with ⟨spent, -, h, -⟩ | ⟨-, hout, -⟩
  · exact .of_reaches hbuilds h
  · rw [hout]
    simp [State.Sound]

/-- A call that is about to execute an instruction of `s`, or has run past the last one of `s`. -/
structure Frame.Safe (exe : Executable) (frame : Frame) (s : Symbol) : Prop where
  symbol : exe.symbol? frame.function = some s
  operands : ∀ o, s.code[frame.pc]? = some o → ∀ x ∈ o.operands, ∀ index,
    x.read frame.args frame.registers ≠ .error (.missingArgument index)
  targets : ∀ o registers pc, s.code[frame.pc]? = some o → o.targets ≠ [] →
    o.effect frame.args frame.registers frame.pc = .proceed registers pc → pc < s.code.size
  fetch : s.code[frame.pc]? = none →
    frame.pc = s.code.size ∧ ∃ o, s.code.back? = some o ∧ o.endsBody = false

theorem Frame.Sound.safe (hbuilds : program.Builds exe) {frame : Frame} {f : Function}
    (h : frame.Sound program f) : frame.Safe exe (.ofFunction f) where
  symbol := (hbuilds.symbol _ _).mpr ⟨f, h.defined, h.name, rfl⟩
  operands := by
    intro o ho x hx index
    obtain ⟨i, hi, rfl⟩ := Function.exists_of_code ho
    have hallowed := (hbuilds.wellFormed h.defined).allowed i (List.mem_of_getElem? hi)
    exact hallowed.read_ne_missingArgument h.params hx frame.registers index
  targets := by
    intro o registers pc ho htargets heffect
    obtain ⟨i, hi, rfl⟩ := Function.exists_of_code ho
    have hallowed := (hbuilds.wellFormed h.defined).allowed i (List.mem_of_getElem? hi)
    obtain ⟨target, htarget, rfl⟩ := i.opcode.proceed_of_targets htargets heffect
    rw [f.size_ofFunction]
    exact hallowed.targets target htarget
  fetch := by
    intro hnone
    rcases h.pc with hlt | ⟨hpc, i, hi, hends⟩
    · exact absurd hlt (Nat.not_lt.mpr (Function.length_le_of_code hnone))
    · refine ⟨hpc.trans f.size_ofFunction.symm, i.opcode, ?_, hends⟩
      rw [Array.back?_eq_getElem?, f.size_ofFunction, f.getElem?_ofFunction,
        ← List.getLast?_eq_getElem?, hi]
      rfl

end Machine

open Machine in
/-- **Accepted code is safe.** Let modules be accepted and their artifacts link, and call any
function with any arguments. Whatever call is active at any moment, every operand of its instruction
finds its argument, a jump leads to an instruction of the body, and there is an instruction unless
control fell through the last one. So no call reports a missing argument, one that runs past an end
does so in a function whose last instruction passes control on, and without such functions there is
an instruction at every moment. -/
theorem Program.accepted_call_safe (program : Program) (artifacts : List Artifact)
    (exe : Executable) (hrebuild : program.rebuild = .ok artifacts)
    (hlink : Executable.link artifacts = .ok exe) (name : String) (args : List Int64) :
    (∀ n frame callers, exe.Reaches (exe.start name args) n (.running frame callers) →
        ∃ s, frame.Safe exe s) ∧
      (∀ fuel index, exe.call name args fuel ≠ .error (.missingArgument index)) ∧
      (∀ fuel function, exe.call name args fuel = .error (.pastEnd function) →
        ∃ f ∈ program.functions, f.name = function ∧ f.FallsThrough) ∧
      ((∀ f ∈ program.functions, ¬ f.FallsThrough) →
        ∀ n frame callers, exe.Reaches (exe.start name args) n (.running frame callers) →
          ∃ s o, exe.symbol? frame.function = some s ∧ s.code[frame.pc]? = some o) := by
  have hbuilds : program.Builds exe := (program.builds_iff exe).mpr ⟨artifacts, hrebuild, hlink⟩
  have hsound : ∀ n frame callers, exe.Reaches (exe.start name args) n (.running frame callers) →
      ∃ f, frame.Sound program f :=
    fun n frame callers h => (State.Sound.of_reaches hbuilds h).1
  refine ⟨?_, ?_, ?_, ?_⟩
  · intro n frame callers h
    obtain ⟨f, hf⟩ := hsound n frame callers h
    exact ⟨_, hf.safe hbuilds⟩
  · intro fuel
    exact (State.Sound.of_call hbuilds name args fuel).1
  · intro fuel
    exact (State.Sound.of_call hbuilds name args fuel).2
  · intro hends n frame callers h
    obtain ⟨f, hf⟩ := hsound n frame callers h
    have hlt : frame.pc < (Symbol.ofFunction f).code.size := by
      rw [f.size_ofFunction]
      rcases hf.pc with hlt | ⟨-, hfalls⟩
      · exact hlt
      · exact absurd hfalls (hends f hf.defined)
    exact ⟨_, _, (hf.safe hbuilds).symbol, Array.getElem?_eq_getElem hlt⟩

/-- A test in one module, and in another one the recursive function that it calls. -/
def recursiveSum : Program :=
  ⟨[⟨"tests", none, [⟨"test_sum", 0,
      [⟨.call (some 0) "sum" [.imm 5], none⟩, ⟨.compare 1 .eq (.reg 0) (.imm 15), none⟩,
        ⟨.ret (some (.reg 1)), none⟩]⟩]⟩,
    ⟨"library", none, [⟨"sum", 1,
      [⟨.branch (.arg 0) 1 5, none⟩, ⟨.binary 0 .sub (.arg 0) (.imm 1), none⟩,
        ⟨.call (some 1) "sum" [.reg 0], none⟩, ⟨.binary 2 .add (.reg 1) (.arg 0), none⟩,
        ⟨.ret (some (.reg 2)), none⟩, ⟨.ret (some (.imm 0)), none⟩]⟩]⟩]⟩

/-- Neither function falls through, so that a call of the test has an instruction to begin with and
never runs past an end. -/
theorem recursiveSum_call_safe :
    ∃ artifacts exe frame, recursiveSum.rebuild = .ok artifacts ∧
      Executable.link artifacts = .ok exe ∧
      exe.start "test_sum" [] = .running frame [] ∧ (∃ s, frame.Safe exe s) ∧
      (∃ s o, exe.symbol? frame.function = some s ∧ s.code[frame.pc]? = some o) ∧
      (∀ fuel index, exe.call "test_sum" [] fuel ≠ .error (.missingArgument index)) ∧
      ∀ fuel function, exe.call "test_sum" [] fuel ≠ .error (.pastEnd function) := by
  obtain ⟨exe, hbuilds⟩ := recursiveSum.exists_builds_iff.mpr ⟨by decide, by decide⟩
  obtain ⟨artifacts, hrebuild, hlink⟩ := (recursiveSum.builds_iff exe).mp hbuilds
  obtain ⟨hsafe, hmissing, hpast, hfetch⟩ :=
    recursiveSum.accepted_call_safe artifacts exe hrebuild hlink "test_sum" []
  have hends : ∀ f ∈ recursiveSum.functions, ¬ f.FallsThrough := by
    rintro f hf ⟨i, hi, hends⟩
    have hall : ∀ f ∈ recursiveSum.functions, ∀ i ∈ f.body.getLast?, i.opcode.endsBody = true := by
      decide
    rw [hall f hf i hi] at hends
    cases hends
  have hstart : exe.start "test_sum" [] = .running ⟨"test_sum", [], {}, 0⟩ [] := by
    have hsymbol := hbuilds.symbol?_of_function?
      (show recursiveSum.function? 0 0 = some recursiveSum.modules[0].functions[0] from rfl)
    rw [Executable.start, Executable.enter, show exe.symbol? "test_sum" = _ from hsymbol]
    rfl
  refine ⟨artifacts, exe, _, hrebuild, hlink, hstart, hsafe 0 _ [] ?_, hfetch hends 0 _ [] ?_,
    hmissing, ?_⟩
  · rw [hstart]
    exact .refl
  · rw [hstart]
    exact .refl
  · intro fuel function hfuel
    obtain ⟨f, hf, -, hfalls⟩ := hpast fuel function hfuel
    exact hends f hf hfalls

end MutationTesting

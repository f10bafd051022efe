import MutationTesting.Execution.Verdict
import MutationTesting.Proofs.Execution.Machine

/-!
Executables with one opcode written over. Calls of such an executable begin as before, and all its
other instructions are executed as before. So a call has another result only if it executes the
instruction written over at a moment when that has another effect.
-/

namespace MutationTesting

namespace Symbol

/-- A symbol with one opcode written over. -/
def setOpcode (s : Symbol) (index : Nat) (o : Opcode) : Symbol :=
  { s with code := s.code.setIfInBounds index o }

theorem ofFunction_setOpcode (f : Function) (index : Nat) (o : Opcode) :
    ofFunction (f.setOpcode index o) = (ofFunction f).setOpcode index o := by
  have hcode : (f.setOpcode index o).code = f.code.set index o := by
    apply List.ext_getElem?
    intro i
    simp only [Function.code, Function.setOpcode, List.getElem?_map, List.getElem?_modify,
      List.getElem?_set, List.length_map]
    by_cases hi : index = i
    · subst hi
      by_cases hlt : index < f.body.length
      · simp [hlt]
      · simp [hlt]
    · simp [hi]
  rw [ofFunction, hcode, ofFunction, setOpcode, List.setIfInBounds_toArray]
  rfl

end Symbol

namespace Executable

open Machine

/-- An executable with one opcode of one function written over. -/
def setOpcode (p : Executable) (function : String) (index : Nat) (o : Opcode) : Executable :=
  ⟨fun name => (p.symbol? name).map fun s => if name = function then s.setOpcode index o else s⟩

variable (p : Executable) {function : String} {index : Nat} {o m : Opcode}

theorem symbol?_setOpcode_self (function : String) (index : Nat) (m : Opcode) :
    (p.setOpcode function index m).symbol? function =
      (p.symbol? function).map fun s => s.setOpcode index m := by
  simp only [setOpcode, if_pos]

theorem symbol?_setOpcode_of_ne {name : String} (index : Nat) (m : Opcode)
    (h : name ≠ function) : (p.setOpcode function index m).symbol? name = p.symbol? name := by
  simp only [setOpcode, if_neg h, Option.map_id_fun', id_eq]

theorem params_setOpcode (function : String) (index : Nat) (m : Opcode) (name : String) :
    ((p.setOpcode function index m).symbol? name).map Symbol.params =
      (p.symbol? name).map Symbol.params := by
  rw [setOpcode, Option.map_map]
  refine Option.map_congr fun s _ => ?_
  simp only [Function.comp_apply]
  split <;> rfl

theorem enter_setOpcode (function : String) (index : Nat) (m : Opcode) (name : String)
    (args : List Int64) (callers : List Pending) :
    (p.setOpcode function index m).enter name args callers = p.enter name args callers := by
  have hparams := p.params_setOpcode function index m name
  rw [enter, enter]
  cases hs : p.symbol? name with
  | none =>
      rw [hs, Option.map_none, Option.map_eq_none_iff] at hparams
      rw [hparams]
  | some s =>
      rw [hs, Option.map_some, Option.map_eq_some_iff] at hparams
      obtain ⟨t, ht, hparams⟩ := hparams
      simp only [ht, hparams]

/-- Every instruction but the one written over is executed as before. -/
theorem step_setOpcode_of_ne {frame : Frame} (callers : List Pending) (m : Opcode)
    (h : frame.function = function → frame.pc ≠ index) :
    (p.setOpcode function index m).step frame callers = p.step frame callers := by
  rw [step, step]
  by_cases hfunction : frame.function = function
  · have hpc := h hfunction
    subst hfunction
    rw [symbol?_setOpcode_self]
    cases p.symbol? frame.function with
    | none => rfl
    | some s =>
        simp only [Option.map_some, Symbol.setOpcode, Array.getElem?_setIfInBounds_ne hpc.symm,
          enter_setOpcode]
  · rw [p.symbol?_setOpcode_of_ne index m hfunction]
    simp only [enter_setOpcode]

/-- An opcode that has the effect of the one before it is executed as that one. -/
theorem step_setOpcode_of_effect {frame : Frame} {s : Symbol} (callers : List Pending)
    (hs : p.symbol? frame.function = some s) (ho : s.code[frame.pc]? = some o)
    (heffect : m.effect frame.args frame.registers frame.pc =
      o.effect frame.args frame.registers frame.pc) :
    (p.setOpcode frame.function frame.pc m).step frame callers = p.step frame callers := by
  have hlt : frame.pc < s.code.size := (Array.getElem?_eq_some_iff.mp ho).1
  have hs' : (p.setOpcode frame.function frame.pc m).symbol? frame.function =
      some (s.setOpcode frame.pc m) := by
    rw [symbol?_setOpcode_self, hs, Option.map_some]
  have hm : (s.setOpcode frame.pc m).code[frame.pc]? = some m :=
    Array.getElem?_setIfInBounds_self_of_lt hlt
  rw [step_eq hs' hm, step_eq hs ho, heffect]
  simp only [enter_setOpcode]

/-- A call in which every instruction is executed as before. -/
theorem call_setOpcode {name : String} {args : List Int64} {fuel : Nat}
    (hstep : ∀ n < fuel, ∀ frame callers,
      p.Reaches (p.start name args) n (.running frame callers) →
        (p.setOpcode function index m).step frame callers = p.step frame callers) :
    (p.setOpcode function index m).call name args fuel = p.call name args fuel :=
  call_congr (p.enter_setOpcode function index m name args []) hstep

/-- A test that gives the same value gives the same outcome. -/
theorem executeTest_setOpcode {artifacts mutated : List Artifact} {name : String} {fuel : Nat}
    (hlink : link artifacts = .ok p) (hmutated : link mutated = .ok (p.setOpcode function index m))
    (hcall : (p.setOpcode function index m).call name [] fuel = p.call name [] fuel) :
    executeTest name mutated fuel = executeTest name artifacts fuel := by
  have hparams := p.params_setOpcode function index m name
  rw [executeTest, executeTest, hlink, hmutated]
  simp only [hcall]
  cases hs : p.symbol? name with
  | none =>
      rw [hs, Option.map_none, Option.map_eq_none_iff] at hparams
      rw [hparams]
  | some s =>
      rw [hs, Option.map_some, Option.map_eq_some_iff] at hparams
      obtain ⟨t, ht, hparams⟩ := hparams
      simp only [ht, hparams]

end Executable

end MutationTesting

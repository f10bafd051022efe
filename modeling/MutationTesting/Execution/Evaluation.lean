import MutationTesting.Execution.Frame

/-!
Running a linked program by recursion: a call in a body is a call of the evaluator. One supply of
fuel is shared by all calls; each instruction takes one unit of it, and the evaluator gives back
what is left, which is never more than it was given.
-/

namespace MutationTesting

/-- The outcome of a call and the fuel it leaves. -/
abbrev Reply (fuel : Nat) := { r : Except Trap Int64 × Nat // r.2 ≤ fuel }

namespace Executable

/-- Runs a body from `pc` on; `enter` carries out its calls. -/
def execute (enter : String → List Int64 → (fuel : Nat) → Reply fuel) (s : Symbol)
    (args : List Int64) (registers : Registers) (pc : Nat) (fuel : Nat) : Reply fuel :=
  match fuel with
  | 0 => ⟨(.error .outOfFuel, 0), Nat.le_refl 0⟩
  | fuel + 1 =>
    match s.code[pc]? with
    | none => ⟨(.error (.pastEnd s.name), fuel), Nat.le_succ fuel⟩
    | some o =>
      match o.effect args registers pc with
      | .trap t => ⟨(.error t, fuel), Nat.le_succ fuel⟩
      | .ret value => ⟨(.ok value, fuel), Nat.le_succ fuel⟩
      | .proceed registers pc =>
        let r := execute enter s args registers pc fuel
        ⟨r.1, Nat.le_succ_of_le r.2⟩
      | .call dst callee values =>
        match enter callee values fuel with
        | ⟨(.error t, left), h⟩ => ⟨(.error t, left), Nat.le_succ_of_le h⟩
        | ⟨(.ok value, left), h⟩ =>
          let r := execute enter s args (registers.receive dst value) (pc + 1) left
          ⟨r.1, Nat.le_succ_of_le (Nat.le_trans r.2 h)⟩
termination_by fuel
decreasing_by
  · exact Nat.lt_succ_self _
  · exact Nat.lt_succ_of_le h

/-- Carries out a call while at most `room` more calls may become active. -/
def invoke (p : Executable) (room : Nat) (name : String) (args : List Int64) (fuel : Nat) :
    Reply fuel :=
  match p.symbol? name with
  | none => ⟨(builtin name args, fuel), Nat.le_refl fuel⟩
  | some s =>
    if s.params.toNat ≠ args.length then
      ⟨(.error (.argumentCount name s.params args.length), fuel), Nat.le_refl fuel⟩
    else
      match room with
      | 0 => ⟨(.error (.callDepthExceeded name), fuel), Nat.le_refl fuel⟩
      | room + 1 => execute (p.invoke room) s args {} 0 fuel

/-- The value of a call with at most `fuel` instructions to execute. -/
def call (p : Executable) (name : String) (args : List Int64) (fuel : Nat) : Except Trap Int64 :=
  (p.invoke maxCallDepth name args fuel).1.1

end Executable

end MutationTesting

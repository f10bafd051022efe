import MutationTesting.Proofs.Execution.Machine

/-!
Fuel. The machine either runs forever, and then every call is out of fuel, or it halts after some
number of instructions, and then a call with less fuel is out of fuel and one with that much or more
has the outcome of the machine. Fuel is therefore nothing but the point at which a run is cut off.
-/

namespace MutationTesting

namespace Trap

/-- No other trap reads like that of an empty supply. -/
theorem message_ne_outOfFuel {t : Trap} (ht : t ≠ .outOfFuel) :
    t.message ≠ outOfFuel.message := by
  intro h
  -- each of the other texts has a letter that "out of fuel" has not
  have hletter : ∀ c : Char, c ∉ "out of fuel".toList → ∀ text rest : String,
      c ∈ text.toList → t.message = text ++ rest → False := by
    intro c hnot text rest hc htext
    rw [show "out of fuel" = text ++ rest from h.symm.trans htext, String.toList_append] at hnot
    exact hnot (List.mem_append_left _ hc)
  have hnamed : ∀ c : Char, c ∉ "out of fuel".toList → ∀ name text : String,
      c ∈ text.toList → ∀ rest, t.message = name ++ text ++ rest → False := by
    intro c hnot name text hc rest
    refine hletter c hnot (name ++ text) rest ?_
    rw [String.toList_append]
    exact List.mem_append_right _ hc
  cases t with
  | outOfFuel => exact ht rfl
  | pastEnd function =>
      refine hnamed 's' (by decide) function " runs past its last instruction" (by decide) "" ?_
      exact String.append_empty.symm
  | missingArgument index =>
      exact hletter 's' (by decide) "missing argument " (toString index) (by decide) rfl
  | undefinedRegister index =>
      exact hletter 's' (by decide) "read of undefined register " (toString index) (by decide) rfl
  | divisionByZero =>
      exact hletter 's' (by decide) "division by zero" "" (by decide) String.append_empty.symm
  | callDepthExceeded function =>
      exact hletter 'c' (by decide) "call depth exceeded in " function (by decide) rfl
  | argumentCount function expected given =>
      refine hnamed 's' (by decide) function " expects " (by decide)
        (toString expected ++ " arguments, got " ++ toString given) ?_
      show function ++ " expects " ++ toString expected ++ " arguments, got " ++ toString given = _
      simp only [String.append_assoc]
  | aborted => exact hletter 'a' (by decide) "abort called" "" (by decide) String.append_empty.symm
  | assertionFailed =>
      exact hletter 's' (by decide) "assertion failed" "" (by decide) String.append_empty.symm
  | unresolved name => exact hletter 's' (by decide) "unresolved symbol " name (by decide) rfl

end Trap

namespace Executable

open Machine

/-- **Fuel is only a cut-off.** Either the machine never halts and a call traps with every supply of
fuel, or it halts after `n` instructions, every call with less fuel is cut off, and every call with
more has the one outcome that the machine halts with, which no reader could take for a cut-off. The
instructions that a call executes in all its frames are the fuel that it spends, never more than it
was given. -/
theorem call_cutoff (p : Executable) (name : String) (args : List Int64) :
    ((∀ n, ∃ frame callers, p.Reaches (p.start name args) n (.running frame callers)) ∧
        (∀ fuel, p.call name args fuel = .error .outOfFuel) ∨
      ∃ n outcome, p.Reaches (p.start name args) n (.halted outcome) ∧
        (∀ t, outcome = .error t → t.message ≠ Trap.outOfFuel.message) ∧
        (∀ fuel < n, p.call name args fuel = .error .outOfFuel) ∧
        ∀ fuel, n ≤ fuel → p.call name args fuel = outcome) ∧
      ∀ fuel, ∃ executed s, p.Reaches (p.start name args) executed s ∧ executed ≤ fuel ∧
        executed + p.remaining name args fuel = fuel ∧
        (s = .halted (p.call name args fuel) ∨
          executed = fuel ∧ (∃ frame callers, s = .running frame callers) ∧
            p.call name args fuel = .error .outOfFuel) := by
  constructor
  · by_cases hhalts : ∃ n outcome, p.Reaches (p.start name args) n (.halted outcome)
    · obtain ⟨n, outcome, h⟩ := hhalts
      refine Or.inr ⟨n, outcome, h, ?_, ?_, ?_⟩
      · rintro t rfl
        refine Trap.message_ne_outOfFuel fun hcause => ?_
        exact (call_of_halted h (Nat.le_refl n)).2 (congrArg Except.error hcause)
      · intro fuel hfuel
        obtain ⟨frame, callers, hrunning⟩ := h.running_of_lt hfuel
        exact call_of_running hrunning
      · intro fuel hfuel
        exact (call_of_halted h hfuel).1
    · have hruns : ∀ fuel, p.call name args fuel = .error .outOfFuel ∧
          ∃ frame callers, p.Reaches (p.start name args) fuel (.running frame callers) := by
        intro fuel
        rcases p.call_cases name args fuel with ⟨spent, -, h, -⟩ | ⟨-, hout, hrunning⟩
        · exact absurd ⟨spent, _, h⟩ hhalts
        · exact ⟨hout, hrunning⟩
      exact Or.inl ⟨fun n => (hruns n).2, fun fuel => (hruns fuel).1⟩
  · intro fuel
    rcases p.call_cases name args fuel with ⟨spent, hfuel, h, -⟩ | ⟨hleft, hout, frame, callers, h⟩
    · exact ⟨spent, _, h, by omega, hfuel, Or.inl rfl⟩
    · exact ⟨fuel, _, h, Nat.le_refl fuel, by omega, Or.inr ⟨rfl, ⟨frame, callers, rfl⟩, hout⟩⟩

end Executable

end MutationTesting

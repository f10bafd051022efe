import MutationTesting.Execution.Frame

/-!
What an instruction can do. It traps, because of an operand or of a division; it returns; it goes on
to the next instruction or to one of its targets; or it calls. Control leaves a body behind its last
instruction only if that one goes on to the next.
-/

namespace MutationTesting

namespace Operand

variable {args : List Int64} {registers : Registers}

theorem read_error {x : Operand} {t : Trap} (h : x.read args registers = .error t) :
    (∃ index, x = .arg index ∧ args.length ≤ index.toNat ∧ t = .missingArgument index) ∨
      ∃ index, t = .undefinedRegister index := by
  cases x with
  | imm value => cases h
  | arg index =>
      rw [read] at h
      cases hget : args[index.toNat]? with
      | some value =>
          rw [hget] at h
          cases h
      | none =>
          rw [hget] at h
          cases h
          exact Or.inl ⟨index, rfl, List.getElem?_eq_none_iff.mp hget, rfl⟩
  | reg index =>
      rw [read] at h
      cases hget : registers[index]? with
      | some value =>
          rw [hget] at h
          cases h
      | none =>
          rw [hget] at h
          cases h
          exact Or.inr ⟨index, rfl⟩

theorem readAll_error {operands : List Operand} {t : Trap}
    (h : readAll args registers operands = .error t) :
    ∃ x ∈ operands, x.read args registers = .error t := by
  induction operands with
  | nil => cases h
  | cons x rest ih =>
      rw [readAll] at h
      cases hx : x.read args registers with
      | error t' =>
          rw [hx] at h
          cases h
          exact ⟨x, List.mem_cons_self, hx⟩
      | ok value =>
          cases hrest : readAll args registers rest with
          | error t' =>
              rw [hx, hrest] at h
              cases h
              obtain ⟨y, hy, hread⟩ := ih hrest
              exact ⟨y, List.mem_cons_of_mem x hy, hread⟩
          | ok values =>
              rw [hx, hrest] at h
              cases h

end Operand

namespace Opcode

/-- Whether control never passes from an instruction to the next one of the body. -/
def endsBody : Opcode → Bool
  | .jump _ => true
  | .branch _ _ _ => true
  | .ret _ => true
  | _ => false

/-- All that an instruction can do. -/
inductive Acts (o : Opcode) (args : List Int64) (registers : Registers) (pc : Nat) : Effect → Prop
  | divisionByZero : Acts o args registers pc (.trap .divisionByZero)
  | unreadable {x : Operand} {t : Trap} (hx : x ∈ o.operands)
      (hread : x.read args registers = .error t) : Acts o args registers pc (.trap t)
  | next (after : Registers) (hends : o.endsBody = false) :
      Acts o args registers pc (.proceed after (pc + 1))
  | jump {target : UInt64} (htarget : target ∈ o.targets) :
      Acts o args registers pc (.proceed registers target.toNat)
  | call (dst : Option UInt32) (callee : String) (operands : List Operand) (values : List Int64)
      (ho : o = .call dst callee operands) : Acts o args registers pc (.call dst callee values)
  | ret (value : Int64) : Acts o args registers pc (.ret value)

theorem acts_effect (o : Opcode) (args : List Int64) (registers : Registers) (pc : Nat) :
    o.Acts args registers pc (o.effect args registers pc) := by
  cases o with
  | move dst src =>
      rw [effect]
      cases hsrc : src.read args registers with
      | error t => exact .unreadable (List.mem_singleton_self src) hsrc
      | ok value => exact .next _ rfl
  | binary dst op lhs rhs =>
      rw [effect]
      cases hlhs : lhs.read args registers with
      | error t => exact .unreadable List.mem_cons_self hlhs
      | ok l =>
          cases hrhs : rhs.read args registers with
          | error t => exact .unreadable (List.mem_cons_of_mem lhs List.mem_cons_self) hrhs
          | ok r =>
              simp only
              cases op.eval? l r with
              | none => exact .divisionByZero
              | some value => exact .next _ rfl
  | compare dst pred lhs rhs =>
      rw [effect]
      cases hlhs : lhs.read args registers with
      | error t => exact .unreadable List.mem_cons_self hlhs
      | ok l =>
          cases hrhs : rhs.read args registers with
          | error t => exact .unreadable (List.mem_cons_of_mem lhs List.mem_cons_self) hrhs
          | ok r => exact .next _ rfl
  | call dst callee operands =>
      rw [effect]
      cases hoperands : Operand.readAll args registers operands with
      | error t =>
          obtain ⟨x, hx, hread⟩ := Operand.readAll_error hoperands
          exact .unreadable hx hread
      | ok values => exact .call dst callee operands values rfl
  | jump target => exact .jump (List.mem_singleton_self target)
  | branch cond thenTarget elseTarget =>
      rw [effect]
      cases hcond : cond.read args registers with
      | error t => exact .unreadable (List.mem_singleton_self cond) hcond
      | ok value =>
          simp only
          split
          · exact .jump List.mem_cons_self
          · exact .jump (List.mem_cons_of_mem thenTarget List.mem_cons_self)
  | ret value =>
      cases value with
      | none => exact .ret 0
      | some operand =>
          rw [effect]
          cases hoperand : operand.read args registers with
          | error t => exact .unreadable (List.mem_singleton_self operand) hoperand
          | ok value => exact .ret value

/-- An instruction with targets leads to one of them only. -/
theorem proceed_of_targets {o : Opcode} {args : List Int64} {registers after : Registers}
    {pc next : Nat} (htargets : o.targets ≠ [])
    (h : o.effect args registers pc = .proceed after next) :
    ∃ target ∈ o.targets, next = target.toNat := by
  have hacts := o.acts_effect args registers pc
  rw [h] at hacts
  cases hacts with
  | next _ hends => cases o <;> first | exact absurd rfl htargets | cases hends
  | jump htarget => exact ⟨_, htarget, rfl⟩

/-- Only the supply of fuel runs out, never an instruction of itself. -/
theorem effect_ne_outOfFuel (o : Opcode) (args : List Int64) (registers : Registers) (pc : Nat) :
    o.effect args registers pc ≠ .trap .outOfFuel := by
  intro h
  have hacts := o.acts_effect args registers pc
  rw [h] at hacts
  cases hacts with
  | unreadable hx hread =>
      rcases Operand.read_error hread with ⟨index, -, -, hcause⟩ | ⟨index, hcause⟩
      · cases hcause
      · cases hcause

end Opcode

theorem builtin_error {name : String} {args : List Int64} {t : Trap}
    (h : builtin name args = .error t) :
    t = .aborted ∨ t = .assertionFailed ∨ t = .unresolved name := by
  unfold builtin at h
  by_cases habort : name = "abort"
  · rw [if_pos habort] at h
    exact Or.inl (Except.error.inj h).symm
  · rw [if_neg habort] at h
    by_cases hassert : name = "assert"
    · rw [if_pos hassert] at h
      match args with
      | [condition] =>
          simp only at h
          split at h
          · cases h
          · exact Or.inr (Or.inl (Except.error.inj h).symm)
      | [] => exact Or.inr (Or.inr (Except.error.inj h).symm)
      | _ :: _ :: _ => exact Or.inr (Or.inr (Except.error.inj h).symm)
    · rw [if_neg hassert] at h
      exact Or.inr (Or.inr (Except.error.inj h).symm)

end MutationTesting

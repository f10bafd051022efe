import MutationTesting.Mutation.Operator
import MutationTesting.Proofs.Object.Acceptance

/-!
The standard mutations. Each puts an arithmetic operation in place of another one, or a comparison
in place of another one, and leaves the register and the operands of the instruction as they are. So
it leaves alone all that the compiler looks at. Every standard change makes a different opcode, and
where two kinds change the same opcode they make two different ones of it.
-/

namespace MutationTesting

namespace Opcode

/-- The register that an instruction writes to, if it writes to one. -/
def destination? : Opcode → Option UInt32
  | .move dst _ => some dst
  | .binary dst _ _ _ => some dst
  | .compare dst _ _ _ => some dst
  | .call dst _ _ => dst
  | .jump _ => none
  | .branch _ _ _ => none
  | .ret _ => none

/-- Two opcodes that differ at most in what they do to the values of their operands. -/
inductive Similar : Opcode → Opcode → Prop
  | binary (dst : UInt32) (op op' : BinaryOp) (lhs rhs : Operand) :
      Similar (.binary dst op lhs rhs) (.binary dst op' lhs rhs)
  | compare (dst : UInt32) (pred pred' : Predicate) (lhs rhs : Operand) :
      Similar (.compare dst pred lhs rhs) (.compare dst pred' lhs rhs)

section Similar

variable {o m : Opcode}

theorem Similar.destination? (h : o.Similar m) : m.destination? = o.destination? := by
  cases h <;> rfl

theorem Similar.operands (h : o.Similar m) : m.operands = o.operands := by cases h <;> rfl

theorem Similar.targets (h : o.Similar m) : m.targets = o.targets := by cases h <;> rfl

end Similar

end Opcode

/-- Where an operation is put in place of another one. -/
theorem BinaryOp.exists_of_swap {source target : BinaryOp} {o m : Opcode}
    (h : BinaryOp.swap source target o = some m) :
    ∃ dst lhs rhs, o = .binary dst source lhs rhs ∧ m = .binary dst target lhs rhs := by
  cases o with
  | binary dst op lhs rhs =>
      rw [BinaryOp.swap] at h
      split at h
      next hop =>
        subst hop
        cases h
        exact ⟨dst, lhs, rhs, rfl, rfl⟩
      next => cases h
  | _ => cases h

/-- Where a comparison is put in place of another one. -/
theorem Predicate.exists_of_swap {change : Predicate → Option Predicate} {o m : Opcode}
    (h : Predicate.swap change o = some m) :
    ∃ dst pred pred' lhs rhs, change pred = some pred' ∧ o = .compare dst pred lhs rhs ∧
      m = .compare dst pred' lhs rhs := by
  cases o with
  | compare dst pred lhs rhs =>
      obtain ⟨pred', hpred, rfl⟩ := Option.map_eq_some_iff.mp h
      exact ⟨dst, pred, pred', lhs, rhs, hpred, rfl, rfl⟩
  | _ => cases h

theorem BinaryOp.similar_of_swap {source target : BinaryOp} {o m : Opcode}
    (h : BinaryOp.swap source target o = some m) : o.Similar m := by
  obtain ⟨dst, lhs, rhs, rfl, rfl⟩ := BinaryOp.exists_of_swap h
  exact .binary dst source target lhs rhs

theorem Predicate.similar_of_swap {change : Predicate → Option Predicate} {o m : Opcode}
    (h : Predicate.swap change o = some m) : o.Similar m := by
  obtain ⟨dst, pred, pred', lhs, rhs, -, rfl, rfl⟩ := Predicate.exists_of_swap h
  exact .compare dst pred pred' lhs rhs

theorem MutationOperator.similar_of_standardMutation {kind : MutatorKind} {o m : Opcode}
    (h : MutationOperator.standardMutation kind o = some m) : o.Similar m := by
  cases kind with
  | conditionalsBoundary => exact Predicate.similar_of_swap h
  | mathAdd => exact BinaryOp.similar_of_swap h
  | mathSub => exact BinaryOp.similar_of_swap h
  | mathMul => exact BinaryOp.similar_of_swap h
  | mathDiv => exact BinaryOp.similar_of_swap h
  | negateCondition => exact Predicate.similar_of_swap h
  | custom name => cases h

/-! ### Changes told apart -/

theorem BinaryOp.swap_ne_self {source target : BinaryOp} (hne : source ≠ target) (o : Opcode) :
    BinaryOp.swap source target o ≠ some o := by
  cases o with
  | binary dst op lhs rhs =>
      rw [BinaryOp.swap]
      split
      next hop =>
        rw [ne_eq, Option.some.injEq, Opcode.binary.injEq, hop]
        exact fun h => hne h.2.1.symm
      next => exact nofun
  | _ => exact nofun

theorem BinaryOp.eq_of_swap {source target op : BinaryOp} {dst : UInt32} {lhs rhs : Operand}
    {m : Opcode} (h : BinaryOp.swap source target (.binary dst op lhs rhs) = some m) :
    op = source := by
  obtain ⟨_, _, _, ho, -⟩ := BinaryOp.exists_of_swap h
  cases ho
  rfl

theorem Predicate.swap_ne_self {change : Predicate → Option Predicate}
    (hchange : ∀ pred, change pred ≠ some pred) (o : Opcode) :
    Predicate.swap change o ≠ some o := by
  cases o with
  | compare dst pred lhs rhs =>
      rw [Predicate.swap, ne_eq, Option.map_eq_some_iff]
      rintro ⟨pred', hpred, heq⟩
      rw [Opcode.compare.injEq] at heq
      exact hchange pred (hpred.trans (congrArg some heq.2.1))
  | _ => exact nofun

theorem Predicate.boundary?_ne_negated (pred : Predicate) : pred.boundary? ≠ some pred.negated := by
  cases pred <;> decide

/-- The kind that puts another operation in place of one. -/
def BinaryOp.kind? : BinaryOp → Option MutatorKind
  | .add => some .mathAdd
  | .sub => some .mathSub
  | .mul => some .mathMul
  | .div => some .mathDiv
  | .rem => none

namespace MutationOperator

/-- Every standard change is one. -/
theorem standardMutation_ne_self (kind : MutatorKind) (o : Opcode) :
    standardMutation kind o ≠ some o := by
  cases kind with
  | conditionalsBoundary => exact Predicate.swap_ne_self (fun pred => by cases pred <;> decide) o
  | mathAdd => exact BinaryOp.swap_ne_self (by decide) o
  | mathSub => exact BinaryOp.swap_ne_self (by decide) o
  | mathMul => exact BinaryOp.swap_ne_self (by decide) o
  | mathDiv => exact BinaryOp.swap_ne_self (by decide) o
  | negateCondition => exact Predicate.swap_ne_self (fun pred => by cases pred <;> decide) o
  | custom name => exact nofun

theorem mutate_ne_self_of_mem_all {op : MutationOperator} (h : op ∈ all) (o : Opcode) :
    op.mutate o ≠ some o := by
  obtain ⟨kind, -, rfl⟩ := List.mem_map.mp h
  exact standardMutation_ne_self kind o

theorem kind?_of_standardMutation {kind : MutatorKind} {dst : UInt32} {op : BinaryOp}
    {lhs rhs : Operand} {m : Opcode} (h : standardMutation kind (.binary dst op lhs rhs) = some m) :
    op.kind? = some kind := by
  cases kind with
  | mathAdd => rw [BinaryOp.eq_of_swap h, BinaryOp.kind?]
  | mathSub => rw [BinaryOp.eq_of_swap h, BinaryOp.kind?]
  | mathMul => rw [BinaryOp.eq_of_swap h, BinaryOp.kind?]
  | mathDiv => rw [BinaryOp.eq_of_swap h, BinaryOp.kind?]
  | _ => cases h

theorem change_of_standardMutation {kind : MutatorKind} {dst : UInt32} {pred : Predicate}
    {lhs rhs : Operand} {m : Opcode}
    (h : standardMutation kind (.compare dst pred lhs rhs) = some m) :
    ∃ pred', m = .compare dst pred' lhs rhs ∧
      (kind = .conditionalsBoundary ∧ pred.boundary? = some pred' ∨
        kind = .negateCondition ∧ pred.negated = pred') := by
  cases kind with
  | conditionalsBoundary =>
      obtain ⟨pred', hpred, rfl⟩ := Option.map_eq_some_iff.mp h
      exact ⟨pred', rfl, Or.inl ⟨rfl, hpred⟩⟩
  | negateCondition =>
      cases h
      exact ⟨_, rfl, Or.inr ⟨rfl, rfl⟩⟩
  | _ => cases h

/-- No two standard kinds change an opcode alike. -/
theorem kind_eq_of_standardMutation {kind kind' : MutatorKind} {o m : Opcode}
    (h : standardMutation kind o = some m) (h' : standardMutation kind' o = some m) :
    kind = kind' := by
  cases similar_of_standardMutation h with
  | binary dst op op' lhs rhs =>
      have hkind := kind?_of_standardMutation h
      rw [kind?_of_standardMutation h', Option.some.injEq] at hkind
      exact hkind.symm
  | compare dst pred pred' lhs rhs =>
      obtain ⟨_, heq, hkind⟩ := change_of_standardMutation h
      obtain ⟨_, heq', hkind'⟩ := change_of_standardMutation h'
      cases heq
      cases heq'
      rcases hkind with ⟨rfl, hboundary⟩ | ⟨rfl, hnegated⟩
      · rcases hkind' with ⟨rfl, -⟩ | ⟨-, hnegated⟩
        · rfl
        · exact absurd (hboundary.trans (congrArg some hnegated.symm)) pred.boundary?_ne_negated
      · rcases hkind' with ⟨-, hboundary⟩ | ⟨rfl, -⟩
        · exact absurd (hboundary.trans (congrArg some hnegated.symm)) pred.boundary?_ne_negated
        · rfl

end MutationOperator

end MutationTesting

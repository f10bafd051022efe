import MutationTesting.Proofs.Execution.Infection

/-!
What the standard mutations change at run time. A negated comparison answers the opposite on all
operands; one with its boundary moved answers otherwise on equal operands and on no others. Addition
and subtraction come to the same exactly if the second operand is its own negative: as numbers wrap
around, that is 0 and the least number. As long as the mutated instruction meets only operands on
which it does the same, no call can tell the two programs apart.
-/

namespace MutationTesting

/-! ### Comparisons -/

namespace Predicate

theorem holds_negated (pred : Predicate) (l r : Int64) :
    pred.negated.holds l r = !pred.holds l r := by
  cases pred with
  | eq => rw [negated, holds, holds, decide_not]
  | ne => rw [negated, holds, holds, decide_not, Bool.not_not]
  | slt => rw [negated, holds, holds, ← decide_not, decide_eq_decide, Int64.not_lt]
  | sle => rw [negated, holds, holds, ← decide_not, decide_eq_decide, Int64.not_le]
  | sgt => rw [negated, holds, holds, ← decide_not, decide_eq_decide, Int64.not_lt]
  | sge => rw [negated, holds, holds, ← decide_not, decide_eq_decide, Int64.not_le]

/-- A strict comparison and the one that allows equality. -/
theorem lt_ne_le_iff (l r : Int64) : decide (l < r) ≠ decide (l ≤ r) ↔ l = r := by
  rw [ne_eq, decide_eq_decide]
  constructor
  · intro h
    by_contra hne
    exact h ⟨Int64.le_of_lt, fun hle => Int64.lt_of_le_of_ne hle hne⟩
  · rintro rfl h
    exact Int64.lt_irrefl (h.mpr Int64.le_rfl)

theorem holds_boundary_ne_iff {pred pred' : Predicate} (h : pred.boundary? = some pred')
    (l r : Int64) : pred'.holds l r ≠ pred.holds l r ↔ l = r := by
  cases pred with
  | slt =>
      cases h
      exact ne_comm.trans (lt_ne_le_iff l r)
  | sle =>
      cases h
      exact lt_ne_le_iff l r
  | sgt =>
      cases h
      exact ne_comm.trans ((lt_ne_le_iff r l).trans eq_comm)
  | sge =>
      cases h
      exact (lt_ne_le_iff r l).trans eq_comm
  | eq => cases h
  | ne => cases h

end Predicate

/-! ### Arithmetic -/

namespace BinaryOp

/-- Adding and subtracting come to the same for what is its own negative. -/
theorem add_eq_sub_iff (l r : Int64) : l + r = l - r ↔ r = 0 ∨ r = Int64.minValue := by
  have hbits : ∀ x y : BitVec 64, x + y = x - y ↔ y = 0#64 ∨ y = BitVec.intMin 64 := by
    intro x y
    have hmin : BitVec.intMin 64 = 0x8000000000000000#64 := rfl
    rw [hmin]
    bv_omega
  calc l + r = l - r
      ↔ l.toBitVec + r.toBitVec = l.toBitVec - r.toBitVec := by
        rw [← Int64.toBitVec_inj, Int64.toBitVec_add, Int64.toBitVec_sub]
    _ ↔ r.toBitVec = 0#64 ∨ r.toBitVec = BitVec.intMin 64 := hbits _ _
    _ ↔ r = 0 ∨ r = Int64.minValue := by
        rw [← Int64.toBitVec_inj, ← Int64.toBitVec_inj, Int64.toBitVec_minValue,
          Int64.toBitVec_zero]

end BinaryOp

namespace MutationOperator

variable {o m : Opcode}

theorem exists_of_negateCondition (h : standardMutation .negateCondition o = some m) :
    ∃ dst pred pred' lhs rhs, o = .compare dst pred lhs rhs ∧ m = .compare dst pred' lhs rhs ∧
      ∀ l r, pred'.holds l r = !pred.holds l r := by
  obtain ⟨dst, pred, pred', lhs, rhs, hpred, ho, hm⟩ := Predicate.exists_of_swap h
  cases hpred
  exact ⟨dst, pred, pred.negated, lhs, rhs, ho, hm, pred.holds_negated⟩

theorem exists_of_conditionalsBoundary (h : standardMutation .conditionalsBoundary o = some m) :
    ∃ dst pred pred' lhs rhs, o = .compare dst pred lhs rhs ∧ m = .compare dst pred' lhs rhs ∧
      ∀ l r, pred'.holds l r ≠ pred.holds l r ↔ l = r := by
  obtain ⟨dst, pred, pred', lhs, rhs, hpred, ho, hm⟩ := Predicate.exists_of_swap h
  exact ⟨dst, pred, pred', lhs, rhs, ho, hm, Predicate.holds_boundary_ne_iff hpred⟩

theorem exists_of_math {kind : MutatorKind} (hkind : kind = .mathAdd ∨ kind = .mathSub)
    (h : standardMutation kind o = some m) :
    ∃ dst op op' lhs rhs, o = .binary dst op lhs rhs ∧ m = .binary dst op' lhs rhs ∧
      ∀ l r, ∃ x y, op.eval? l r = some x ∧ op'.eval? l r = some y ∧
        (x = y ↔ r = 0 ∨ r = Int64.minValue) := by
  rcases hkind with rfl | rfl
  · obtain ⟨dst, lhs, rhs, ho, hm⟩ := BinaryOp.exists_of_swap h
    exact ⟨dst, .add, .sub, lhs, rhs, ho, hm, fun l r =>
      ⟨l + r, l - r, rfl, rfl, BinaryOp.add_eq_sub_iff l r⟩⟩
  · obtain ⟨dst, lhs, rhs, ho, hm⟩ := BinaryOp.exists_of_swap h
    exact ⟨dst, .sub, .add, lhs, rhs, ho, hm, fun l r =>
      ⟨l - r, l + r, rfl, rfl, eq_comm.trans (BinaryOp.add_eq_sub_iff l r)⟩⟩

/-- **What the standard mutations change.** Whatever the values that a comparison reads, its negation
answers the opposite, and with its boundary moved it answers otherwise exactly if they are equal.
The sum and the difference, put one for the other, are the same exactly if the second value is 0 or
the least number. No standard mutation changes the register that is written, or the operands. -/
theorem standardMutation_contrast (o m : Opcode) :
    (standardMutation .negateCondition o = some m →
      ∃ dst pred pred' lhs rhs, o = .compare dst pred lhs rhs ∧ m = .compare dst pred' lhs rhs ∧
        ∀ l r, pred'.holds l r = !pred.holds l r) ∧
    (standardMutation .conditionalsBoundary o = some m →
      ∃ dst pred pred' lhs rhs, o = .compare dst pred lhs rhs ∧ m = .compare dst pred' lhs rhs ∧
        ∀ l r, pred'.holds l r ≠ pred.holds l r ↔ l = r) ∧
    (∀ kind, kind = .mathAdd ∨ kind = .mathSub → standardMutation kind o = some m →
      ∃ dst op op' lhs rhs, o = .binary dst op lhs rhs ∧ m = .binary dst op' lhs rhs ∧
        ∀ l r, ∃ x y, op.eval? l r = some x ∧ op'.eval? l r = some y ∧
          (x = y ↔ r = 0 ∨ r = Int64.minValue)) ∧
    ∀ kind, standardMutation kind o = some m →
      m.destination? = o.destination? ∧ m.operands = o.operands := by
  refine ⟨exists_of_negateCondition, exists_of_conditionalsBoundary, ?_, fun kind h => ?_⟩
  · exact fun kind hkind h => exists_of_math hkind h
  · have hsimilar := similar_of_standardMutation h
    exact ⟨hsimilar.destination?, hsimilar.operands⟩

/-- On equal operands both changes of a strict comparison answer otherwise; the least number may be
added or subtracted. -/
theorem strict_standardMutation_contrast :
    standardMutation .negateCondition (.compare 0 .slt (.arg 0) (.arg 1)) =
        some (.compare 0 .sge (.arg 0) (.arg 1)) ∧
      standardMutation .conditionalsBoundary (.compare 0 .slt (.arg 0) (.arg 1)) =
        some (.compare 0 .sle (.arg 0) (.arg 1)) ∧
      standardMutation .mathAdd (.binary 0 .add (.arg 0) (.arg 1)) =
        some (.binary 0 .sub (.arg 0) (.arg 1)) ∧
      (Predicate.sge.holds 3 3 = !Predicate.slt.holds 3 3) ∧
      Predicate.sle.holds 3 3 ≠ Predicate.slt.holds 3 3 ∧
      BinaryOp.sub.eval? 3 Int64.minValue = BinaryOp.add.eval? 3 Int64.minValue ∧
      (Opcode.binary 0 .sub (.arg 0) (.arg 1)).destination? =
        (Opcode.binary 0 .add (.arg 0) (.arg 1)).destination? := by
  have hnegate : standardMutation .negateCondition (.compare 0 .slt (.arg 0) (.arg 1)) =
      some (.compare 0 .sge (.arg 0) (.arg 1)) := by decide
  have hboundary : standardMutation .conditionalsBoundary (.compare 0 .slt (.arg 0) (.arg 1)) =
      some (.compare 0 .sle (.arg 0) (.arg 1)) := by decide
  have hadd : standardMutation .mathAdd (.binary 0 .add (.arg 0) (.arg 1)) =
      some (.binary 0 .sub (.arg 0) (.arg 1)) := by decide
  refine ⟨hnegate, hboundary, hadd, ?_, ?_, ?_, ?_⟩
  · obtain ⟨_, _, _, _, _, ho, hm, hholds⟩ := (standardMutation_contrast _ _).1 hnegate
    cases ho
    cases hm
    exact hholds 3 3
  · obtain ⟨_, _, _, _, _, ho, hm, hholds⟩ := (standardMutation_contrast _ _).2.1 hboundary
    cases ho
    cases hm
    exact (hholds 3 3).mpr rfl
  · obtain ⟨_, _, _, _, _, ho, hm, heval⟩ :=
      (standardMutation_contrast _ _).2.2.1 .mathAdd (.inl rfl) hadd
    cases ho
    cases hm
    obtain ⟨x, y, hx, hy, hiff⟩ := heval 3 Int64.minValue
    rw [hx, hy, hiff.mpr (.inr rfl)]
  · exact ((standardMutation_contrast _ _).2.2.2 .mathAdd hadd).1

end MutationOperator

/-! ### In a run -/

theorem Operand.eq_pair_of_readAll {args : List Int64} {registers : Registers} {x y : Operand}
    {values : List Int64} (h : readAll args registers [x, y] = .ok values) :
    ∃ l r, values = [l, r] := by
  obtain ⟨l, -, h⟩ := bind_ok h
  obtain ⟨rest, hrest, h⟩ := bind_ok h
  obtain ⟨r, -, hrest⟩ := bind_ok hrest
  obtain ⟨none, hnone, hrest⟩ := bind_ok hrest
  cases hnone
  cases hrest
  cases h
  exact ⟨l, r, rfl⟩

theorem Opcode.outcome?_compare_eq_iff {dst : UInt32} {pred pred' : Predicate} {lhs rhs : Operand}
    {l r : Int64} :
    (compare dst pred' lhs rhs).outcome? [l, r] = (compare dst pred lhs rhs).outcome? [l, r] ↔
      pred'.holds l r = pred.holds l r := by
  rw [outcome?, outcome?, Option.some.injEq, Except.ok.injEq]
  cases pred'.holds l r <;> cases pred.holds l r <;> decide

namespace Machine

variable {frame : Frame} {o m : Opcode}

/-- A change is masked as far as the two operands that are read go. -/
theorem Frame.masks_iff (h : o.Similar m) : frame.Masks o m ↔
    ∀ l r, Operand.readAll frame.args frame.registers o.operands = .ok [l, r] →
      m.outcome? [l, r] = o.outcome? [l, r] := by
  constructor
  · exact fun hmasks l r hread => hmasks [l, r] hread
  · intro hpairs values hread
    have hpair : ∃ l r, values = [l, r] := by
      cases h with
      | binary => exact Operand.eq_pair_of_readAll hread
      | compare => exact Operand.eq_pair_of_readAll hread
    obtain ⟨l, r, rfl⟩ := hpair
    exact hpairs l r hread

/-- A negated comparison is masked only where its operands cannot be read. -/
theorem Frame.masks_negateCondition_iff
    (h : MutationOperator.standardMutation .negateCondition o = some m) : frame.Masks o m ↔
      ∀ l r, Operand.readAll frame.args frame.registers o.operands ≠ .ok [l, r] := by
  obtain ⟨dst, pred, pred', lhs, rhs, rfl, rfl, hholds⟩ :=
    MutationOperator.exists_of_negateCondition h
  rw [Frame.masks_iff (.compare dst pred pred' lhs rhs)]
  refine forall₂_congr fun l r => imp_congr_right fun _ => ?_
  rw [Opcode.outcome?_compare_eq_iff, hholds]
  simp

/-- A moved boundary is masked on operands that differ. -/
theorem Frame.masks_conditionalsBoundary_iff
    (h : MutationOperator.standardMutation .conditionalsBoundary o = some m) : frame.Masks o m ↔
      ∀ l r, Operand.readAll frame.args frame.registers o.operands = .ok [l, r] → l ≠ r := by
  obtain ⟨dst, pred, pred', lhs, rhs, rfl, rfl, hholds⟩ :=
    MutationOperator.exists_of_conditionalsBoundary h
  rw [Frame.masks_iff (.compare dst pred pred' lhs rhs)]
  refine forall₂_congr fun l r => imp_congr_right fun _ => ?_
  rw [Opcode.outcome?_compare_eq_iff, ne_eq, ← hholds, ne_eq, not_not]

/-- A sum for a difference, or the reverse, is masked on second operands that are their own
negatives. -/
theorem Frame.masks_math_iff {kind : MutatorKind} (hkind : kind = .mathAdd ∨ kind = .mathSub)
    (h : MutationOperator.standardMutation kind o = some m) : frame.Masks o m ↔
      ∀ l r, Operand.readAll frame.args frame.registers o.operands = .ok [l, r] →
        r = 0 ∨ r = Int64.minValue := by
  obtain ⟨dst, op, op', lhs, rhs, rfl, rfl, heval⟩ := MutationOperator.exists_of_math hkind h
  rw [Frame.masks_iff (.binary dst op op' lhs rhs)]
  refine forall₂_congr fun l r => imp_congr_right fun _ => ?_
  obtain ⟨x, y, hx, hy, hiff⟩ := heval l r
  rw [← hiff, Opcode.outcome?, Opcode.outcome?, hx, hy, Option.some.injEq, Except.ok.injEq]
  exact eq_comm

end Machine

namespace Executable

variable {p : Executable} {function : String} {index : Nat} {s : Symbol} {o m : Opcode}

/-- A call that compares no equal operands in a slot does not see the boundary moved there. -/
theorem call_of_unequal (hs : p.symbol? function = some s) (ho : s.code[index]? = some o)
    (hm : MutationOperator.standardMutation .conditionalsBoundary o = some m) {name : String}
    {args : List Int64} {fuel : Nat}
    (hunequal : ∀ n < fuel, ∀ frame callers,
      p.Reaches (p.start name args) n (.running frame callers) →
        frame.function = function → frame.pc = index →
        ∀ l r, Operand.readAll frame.args frame.registers o.operands = .ok [l, r] → l ≠ r) :
    (p.setOpcode function index m).call name args fuel = p.call name args fuel := by
  refine call_of_masks hs ho (MutationOperator.similar_of_standardMutation hm) ?_
  intro n hn frame callers hreach hfunction hpc
  exact (Machine.Frame.masks_conditionalsBoundary_iff hm).mpr
    (hunequal n hn frame callers hreach hfunction hpc)

/-- A call that adds or subtracts in a slot only what is its own negative does not see the one put
for the other there. -/
theorem call_of_self_negative (hs : p.symbol? function = some s) (ho : s.code[index]? = some o)
    {kind : MutatorKind} (hkind : kind = .mathAdd ∨ kind = .mathSub)
    (hm : MutationOperator.standardMutation kind o = some m) {name : String} {args : List Int64}
    {fuel : Nat}
    (hnegative : ∀ n < fuel, ∀ frame callers,
      p.Reaches (p.start name args) n (.running frame callers) →
        frame.function = function → frame.pc = index →
        ∀ l r, Operand.readAll frame.args frame.registers o.operands = .ok [l, r] →
          r = 0 ∨ r = Int64.minValue) :
    (p.setOpcode function index m).call name args fuel = p.call name args fuel := by
  refine call_of_masks hs ho (MutationOperator.similar_of_standardMutation hm) ?_
  intro n hn frame callers hreach hfunction hpc
  exact (Machine.Frame.masks_math_iff hkind hm).mpr
    (hnegative n hn frame callers hreach hfunction hpc)

end Executable

end MutationTesting

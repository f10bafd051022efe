import Mathlib.Data.Int.ModEq
import MutationTesting.Execution.Frame

/-!
The arithmetic of the machine against that of the integers. Of the integers in a residue class modulo
2 ^ 64 one is a word, and an operation gives the word in the class of what the integers come to.
Division by zero alone has no value. The least number divided by -1 is the one quotient that is no
word; remainders always are words, so they keep the laws that they have for integers.
-/

namespace MutationTesting

namespace BinaryOp

/-- The operation on integers; `none` for a division by zero. -/
def onInt? : BinaryOp → Int → Int → Option Int
  | .add, l, r => some (l + r)
  | .sub, l, r => some (l - r)
  | .mul, l, r => some (l * r)
  | .div, l, r => if r = 0 then none else some (l.tdiv r)
  | .rem, l, r => if r = 0 then none else some (l.tmod r)

theorem toInt_eq_zero_iff (x : Int64) : x.toInt = 0 ↔ x = 0 := by
  rw [← Int64.toInt_zero, Int64.toInt_inj]

/-- One word stands for a residue class. -/
theorem ofInt_eq_iff_modEq (n : Int) (x : Int64) :
    Int64.ofInt n = x ↔ x.toInt ≡ n [ZMOD 2 ^ 64] := by
  have hx : x.toInt.bmod (2 ^ 64) = x.toInt := x.toInt_bmod
  calc Int64.ofInt n = x
      ↔ n.bmod (2 ^ 64) = x.toInt.bmod (2 ^ 64) := by rw [Int64.ofInt_eq_iff_bmod_eq_toInt, hx]
    _ ↔ ((2 ^ 64 : Nat) : Int) ∣ n - x.toInt := by
        rw [Int.bmod_eq_bmod_iff_bmod_sub_eq_zero, Int.dvd_iff_bmod_eq_zero]
    _ ↔ x.toInt ≡ n [ZMOD 2 ^ 64] := Int.modEq_iff_dvd.symm

/-- Words are calculated with as integers, and what comes out is reduced to a word. -/
theorem eval?_eq_map_onInt? (op : BinaryOp) (l r : Int64) :
    op.eval? l r = (op.onInt? l.toInt r.toInt).map Int64.ofInt := by
  have hword : ∀ {n : Int} {x : Int64}, x.toInt = n.bmod (2 ^ 64) → x = Int64.ofInt n :=
    fun h => ((Int64.ofInt_eq_iff_bmod_eq_toInt _ _).mpr h.symm).symm
  cases op with
  | add => exact congrArg some (hword (Int64.toInt_add l r))
  | sub => exact congrArg some (hword (Int64.toInt_sub l r))
  | mul => exact congrArg some (hword (Int64.toInt_mul l r))
  | div =>
      simp only [eval?, onInt?, toInt_eq_zero_iff]
      split
      · rfl
      · exact congrArg some (hword (Int64.toInt_div l r))
  | rem =>
      simp only [eval?, onInt?, toInt_eq_zero_iff]
      split
      · rfl
      · rw [Option.map_some, ← Int64.toInt_mod, Int64.ofInt_toInt]

theorem eval?_eq_some_iff {op : BinaryOp} {l r x : Int64} :
    op.eval? l r = some x ↔
      ∃ n, op.onInt? l.toInt r.toInt = some n ∧ x.toInt ≡ n [ZMOD 2 ^ 64] := by
  simp only [eval?_eq_map_onInt?, Option.map_eq_some_iff, ofInt_eq_iff_modEq]

theorem eval?_eq_none_iff {op : BinaryOp} {l r : Int64} :
    op.eval? l r = none ↔ (op = div ∨ op = rem) ∧ r = 0 := by
  cases op <;> simp [eval?]

/-! ### Division -/

theorem natAbs_tmod_lt (l : Int) {r : Int} (hr : r ≠ 0) : (l.tmod r).natAbs < r.natAbs := by
  rw [Int.natAbs_tmod]
  exact Nat.mod_lt _ (Int.natAbs_pos.mpr hr)

theorem tmod_eq_zero_or_sign (l r : Int) : l.tmod r = 0 ∨ (l.tmod r).sign = l.sign := by
  by_cases hdvd : r ∣ l
  · exact .inl (Int.tmod_eq_zero_of_dvd hdvd)
  · exact .inr (by rw [Int.sign_tmod, if_neg hdvd])

/-- A word divided by another one that is not zero. -/
theorem exists_quotient {l r : Int64} (hr : r ≠ 0) :
    ∃ q m, div.eval? l r = some q ∧ rem.eval? l r = some m ∧
      q.toInt ≡ l.toInt.tdiv r.toInt [ZMOD 2 ^ 64] ∧
      q.toInt * r.toInt + m.toInt ≡ l.toInt [ZMOD 2 ^ 64] ∧
      m.toInt.natAbs < r.toInt.natAbs ∧ (m = 0 ∨ m.toInt.sign = l.toInt.sign) := by
  have hr' : r.toInt ≠ 0 := mt (toInt_eq_zero_iff r).mp hr
  have hq : (l / r).toInt ≡ l.toInt.tdiv r.toInt [ZMOD 2 ^ 64] := by
    rw [Int64.toInt_div]
    exact Int.bmod_emod
  have hm : (l % r).toInt = l.toInt.tmod r.toInt := Int64.toInt_mod l r
  refine ⟨l / r, l % r, if_neg hr, if_neg hr, hq, ?_, ?_, ?_⟩
  · calc (l / r).toInt * r.toInt + (l % r).toInt
        ≡ l.toInt.tdiv r.toInt * r.toInt + l.toInt.tmod r.toInt [ZMOD 2 ^ 64] := by
          rw [hm]
          exact (hq.mul_right _).add_right _
      _ = l.toInt := Int.tdiv_mul_add_tmod _ _
  · rw [hm]
    exact natAbs_tmod_lt l.toInt hr'
  · rw [← toInt_eq_zero_iff, hm]
    exact tmod_eq_zero_or_sign l.toInt r.toInt

end BinaryOp

/-! ### Instructions -/

/-- An arithmetic instruction that can read its operands writes a value or divides by zero. -/
theorem Opcode.effect_binary {args : List Int64} {registers : Registers} {lhs rhs : Operand}
    {l r : Int64} (hl : lhs.read args registers = .ok l) (hr : rhs.read args registers = .ok r)
    (dst : UInt32) (op : BinaryOp) (pc : Nat) :
    ((op = .div ∨ op = .rem) ∧ r = 0 ∧
        (binary dst op lhs rhs).effect args registers pc = .trap .divisionByZero) ∨
      ∃ x, op.eval? l r = some x ∧
        (binary dst op lhs rhs).effect args registers pc =
          .proceed (registers.insert dst x) (pc + 1) := by
  simp only [effect, hl, hr]
  cases heval : op.eval? l r with
  | none =>
      obtain ⟨hop, hzero⟩ := BinaryOp.eval?_eq_none_iff.mp heval
      exact .inl ⟨hop, hzero, rfl⟩
  | some x => exact .inr ⟨x, rfl, rfl⟩

namespace BinaryOp

/-- **Arithmetic is exact modulo 2 ^ 64.** Sums, differences and products are the one word congruent
to what the integers come to. A division by zero has no value, and nothing else has none. Any other
division gives the truncated quotient, reduced, and a remainder that makes up the dividend with it,
is smaller than the divisor and, if not zero, has the sign of the dividend. An instruction that has
read these operands writes the value and goes on, and stops only where there is none. -/
theorem eval?_exact (l r : Int64) :
    (∀ x, add.eval? l r = some x ↔ x.toInt ≡ l.toInt + r.toInt [ZMOD 2 ^ 64]) ∧
    (∀ x, sub.eval? l r = some x ↔ x.toInt ≡ l.toInt - r.toInt [ZMOD 2 ^ 64]) ∧
    (∀ x, mul.eval? l r = some x ↔ x.toInt ≡ l.toInt * r.toInt [ZMOD 2 ^ 64]) ∧
    (∀ op : BinaryOp, op.eval? l r = none ↔ (op = div ∨ op = rem) ∧ r = 0) ∧
    (r ≠ 0 → ∃ q m, div.eval? l r = some q ∧ rem.eval? l r = some m ∧
      q.toInt ≡ l.toInt.tdiv r.toInt [ZMOD 2 ^ 64] ∧
      q.toInt * r.toInt + m.toInt ≡ l.toInt [ZMOD 2 ^ 64] ∧
      m.toInt.natAbs < r.toInt.natAbs ∧ (m = 0 ∨ m.toInt.sign = l.toInt.sign)) ∧
    ∀ (op : BinaryOp) (dst : UInt32) (lhs rhs : Operand) (args : List Int64)
      (registers : Registers) (pc : Nat),
      lhs.read args registers = .ok l → rhs.read args registers = .ok r →
      ((op = div ∨ op = rem) ∧ r = 0 ∧
          (Opcode.binary dst op lhs rhs).effect args registers pc = .trap .divisionByZero) ∨
        ∃ x, op.eval? l r = some x ∧
          (Opcode.binary dst op lhs rhs).effect args registers pc =
            .proceed (registers.insert dst x) (pc + 1) := by
  have hunique : ∀ {op : BinaryOp} {n : Int}, op.onInt? l.toInt r.toInt = some n →
      ∀ x, op.eval? l r = some x ↔ x.toInt ≡ n [ZMOD 2 ^ 64] := by
    intro op n hn x
    rw [eval?_eq_some_iff, hn]
    simp
  exact ⟨hunique rfl, hunique rfl, hunique rfl, fun op => eval?_eq_none_iff, exists_quotient,
    fun op dst lhs rhs args registers pc hl hr => Opcode.effect_binary hl hr dst op pc⟩

/-- The least number by -1: the quotient wraps around to the least number, and nothing is left. -/
theorem least_eval?_exact :
    (-1 : Int64) ≠ 0 ∧
      (Operand.imm Int64.minValue).read [] {} = .ok Int64.minValue ∧
      (Operand.arg 0).read [-1] {} = .ok (-1) ∧
      (∃ q m, div.eval? Int64.minValue (-1) = some q ∧ rem.eval? Int64.minValue (-1) = some m ∧
        q.toInt ≡ 2 ^ 63 [ZMOD 2 ^ 64] ∧ m = 0) ∧
      ∃ x, mul.eval? Int64.minValue (-1) = some x ∧
        (Opcode.binary 0 .mul (.imm Int64.minValue) (.arg 0)).effect [-1] {} 4 =
          .proceed (({} : Registers).insert 0 x) 5 := by
  obtain ⟨-, -, -, -, hdivision, hrun⟩ := eval?_exact Int64.minValue (-1)
  refine ⟨by decide, rfl, rfl, ?_, ?_⟩
  · obtain ⟨q, m, hq, hm, hquotient, -, hlt, -⟩ := hdivision (by decide)
    refine ⟨q, m, hq, hm, hquotient, ?_⟩
    have hdivisor : (-1 : Int64).toInt.natAbs = 1 := by decide
    rw [hdivisor, Nat.lt_one_iff, Int.natAbs_eq_zero] at hlt
    exact (toInt_eq_zero_iff m).mp hlt
  · rcases hrun .mul 0 (.imm Int64.minValue) (.arg 0) [-1] {} 4 rfl rfl with ⟨hop, -⟩ | h
    · rcases hop with hop | hop <;> cases hop
    · exact h

example : div.eval? Int64.minValue (-1) = some Int64.minValue := by decide

end BinaryOp

end MutationTesting

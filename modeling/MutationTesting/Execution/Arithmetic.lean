import MutationTesting.Program.Opcode

/-!
Arithmetic of the machine: 64-bit signed numbers that wrap around. Division rounds toward zero, the
remainder takes the sign of the dividend, and only a zero divisor stops the program.
-/

namespace MutationTesting

namespace BinaryOp

/-- `none` for a division by zero. -/
def eval? : BinaryOp → Int64 → Int64 → Option Int64
  | .add, l, r => some (l + r)
  | .sub, l, r => some (l - r)
  | .mul, l, r => some (l * r)
  | .div, l, r => if r = 0 then none else some (l / r)
  | .rem, l, r => if r = 0 then none else some (l % r)

end BinaryOp

end MutationTesting

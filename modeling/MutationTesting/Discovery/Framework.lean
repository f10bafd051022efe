import MutationTesting.Discovery.Finder
import MutationTesting.Pattern.Reader

/-!
Test frameworks, which say what the name of a test looks like: it begins with `test`, or it matches
a pattern.
-/

namespace MutationTesting

inductive Framework where
  | simple
  | pattern (text : String)
  deriving DecidableEq, Inhabited

namespace Framework

def testPattern : Framework → String
  | .simple => "^test"
  | .pattern text => text

/-- A finder of the tests of this framework. A distance of zero, which would leave no testees, is
refused before the pattern is read. -/
def finder (framework : Framework) (maxDistance : Nat) : Except Failure Finder :=
  if h : maxDistance = 0 then .error (.input .zeroDistance)
  else
    match Pattern.read? framework.testPattern with
    | some e => .ok ⟨e.occursIn, maxDistance, Nat.pos_of_ne_zero h⟩
    | none => .error .pattern

end Framework

end MutationTesting

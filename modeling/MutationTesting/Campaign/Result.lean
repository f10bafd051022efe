import MutationTesting.Discovery.Finder
import MutationTesting.Execution.Verdict

/-!
Results of a campaign: how each test fared on the unmutated program, its baseline, and then on every
mutant.
-/

namespace MutationTesting

/-- A status and the time it took to find out, which is zero where nobody measured it. -/
structure Verdict where
  status : Status
  milliseconds : Nat
  deriving DecidableEq, Inhabited

namespace Verdict

def untimed (status : Status) : Verdict := ⟨status, 0⟩

end Verdict

/-- How a test fared on one mutant. -/
structure MutantResult where
  verdict : Verdict
  point : MutationPoint
  deriving DecidableEq, Inhabited

namespace MutantResult

/-- The test did not notice the mutation. -/
def survived (r : MutantResult) : Bool := r.verdict.status = .passed

def killed (r : MutantResult) : Bool := r.verdict.status = .failed

end MutantResult

structure TestResult where
  test : Test
  /-- On the unmutated program. -/
  baseline : Verdict
  mutants : List MutantResult
  deriving DecidableEq, Inhabited

namespace TestResult

/-- Mutants count only for a test that passes on the unmutated program. -/
def isScored (r : TestResult) : Bool := r.baseline.status = .passed

end TestResult

end MutationTesting

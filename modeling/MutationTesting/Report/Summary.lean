import MutationTesting.Campaign.Result
import MutationTesting.Decimal.Shortest

/-!
The figures of a campaign. Every mutant counts once: as killed, survived or invalid if its test
passes on the unmutated program, and as unscored if not. The score is the share of killed mutants
among those that were killed or survived.
-/

namespace MutationTesting

structure Summary where
  tests : Nat
  mutants : Nat
  killed : Nat
  survived : Nat
  invalid : Nat
  unscored : Nat
  deriving DecidableEq, Inhabited

namespace Summary

def empty : Summary := ⟨0, 0, 0, 0, 0, 0⟩

/-- Counts the status of a scored mutant. -/
def addStatus (s : Summary) : Status → Summary
  | .failed => { s with killed := s.killed + 1 }
  | .passed => { s with survived := s.survived + 1 }
  | .invalid => { s with invalid := s.invalid + 1 }

/-- Counts a test and its mutants. -/
def addTest (s : Summary) (r : TestResult) : Summary :=
  let s := { s with tests := s.tests + 1, mutants := s.mutants + r.mutants.length }
  if r.isScored then r.mutants.foldl (fun s m => s.addStatus m.verdict.status) s
  else { s with unscored := s.unscored + r.mutants.length }

def ofResults (results : List TestResult) : Summary := results.foldl addTest empty

/-- Killed and survived mutants. -/
def scored (s : Summary) : Nat := s.killed + s.survived

/-- The share of killed mutants, and everything where there is nothing to score. -/
def score (s : Summary) : Float := if s.scored = 0 then 1 else s.killed.toFloat / s.scored.toFloat

def json (s : Summary) : Json :=
  .object [("tests", .ofNat s.tests), ("mutants", .ofNat s.mutants), ("killed", .ofNat s.killed),
    ("survived", .ofNat s.survived), ("invalid", .ofNat s.invalid), ("unscored", .ofNat s.unscored),
    ("mutation_score", .real (.ofFloat s.score))]

/-- The figures and the score in percent, a line each. -/
def lines (s : Summary) : List String :=
  [s!"Tests: {s.tests}, mutants: {s.mutants}, killed: {s.killed}, survived: {s.survived}, "
      ++ s!"invalid: {s.invalid}, unscored: {s.unscored}",
   s!"Mutation score: {Decimal.fixed 2 (s.score * 100)}%"]

end Summary

/-- The mutants that their tests did not notice. -/
def survivors (results : List TestResult) : List MutantResult :=
  (results.flatMap (·.mutants)).filter (·.survived)

/-- What a campaign prints of its results: the survivors, if there are any, and the summary. -/
def resultLines (results : List TestResult) : List String :=
  let listed := (survivors results).map (·.point.text)
  (if listed.isEmpty then [] else "Surviving mutants:" :: listed ++ ["--------------"])
    ++ (Summary.ofResults results).lines

end MutationTesting

import Mathlib.Data.List.Flatten
import MutationTesting.Proofs.Report.Summary

/-!
Survivors as they are listed and as they are counted. The list has every mutant that its test did not
notice, the figure below the list only those of tests that pass on the unmutated program.
-/

namespace MutationTesting

/-- What is printed of survivors. -/
def survivorLines (listed : List MutantResult) : List String :=
  if listed.isEmpty then []
  else "Surviving mutants:" :: listed.map (·.point.text) ++ ["--------------"]

theorem resultLines_eq (results : List TestResult) :
    resultLines results =
      survivorLines (survivors results) ++ (Summary.ofResults results).lines := by
  rw [resultLines, survivorLines]
  simp only [List.isEmpty_map]

namespace Summary

/-- The survivors that the figures count as such. -/
def countedSurvivors (results : List TestResult) : List MutantResult :=
  (scoredMutants results).filter (·.survived)

/-- The survivors among the mutants of tests that do not pass on the unmutated program. -/
def uncountedSurvivors (results : List TestResult) : List MutantResult :=
  (unscoredMutants results).filter (·.survived)

theorem survived_ofResults (results : List TestResult) :
    (ofResults results).survived = (countedSurvivors results).length := by
  rw [ofResults_eq, countedSurvivors, ← List.countP_eq_length_filter]
  rfl

theorem countedSurvivors_sublist (results : List TestResult) :
    (countedSurvivors results).Sublist (survivors results) := by
  have hscored : (scoredMutants results).Sublist (results.flatMap (·.mutants)) :=
    List.filter_sublist.flatMap _
  exact hscored.filter _

theorem survivors_perm (results : List TestResult) :
    (survivors results).Perm (countedSurvivors results ++ uncountedSurvivors results) := by
  rw [countedSurvivors, uncountedSurvivors, ← List.filter_append]
  exact (mutants_perm results).filter _

theorem length_survivors (results : List TestResult) :
    (survivors results).length =
      (ofResults results).survived + (uncountedSurvivors results).length := by
  rw [(survivors_perm results).length_eq, List.length_append, survived_ofResults]

/-- The list is as long as the figure says exactly if nothing in it is uncounted. -/
theorem length_survivors_eq_iff (results : List TestResult) :
    (survivors results).length = (ofResults results).survived ↔
      uncountedSurvivors results = [] := by
  rw [length_survivors, Nat.add_eq_left, List.length_eq_zero_iff]

/-- **Which survivors are counted.** All survivors are printed, above the figures. The counted ones
are among them, in their order, and as many as the figure says; the rest are those of tests that do
not pass on the unmutated program. So the printed survivors are the counted ones, and are as many,
exactly if no such test has a survivor. -/
theorem survivors_eq_counted_iff (results : List TestResult) :
    resultLines results = survivorLines (survivors results) ++ (ofResults results).lines ∧
      (ofResults results).survived = (countedSurvivors results).length ∧
      (countedSurvivors results).Sublist (survivors results) ∧
      (survivors results).Perm (countedSurvivors results ++ uncountedSurvivors results) ∧
      (survivors results = countedSurvivors results ↔ uncountedSurvivors results = []) ∧
      ((survivors results).length = (ofResults results).survived ↔
        uncountedSurvivors results = []) := by
  refine ⟨resultLines_eq results, survived_ofResults results, countedSurvivors_sublist results,
    survivors_perm results, ?_, length_survivors_eq_iff results⟩
  rw [← length_survivors_eq_iff, survived_ofResults]
  constructor
  · intro h
    rw [h]
  · intro h
    exact ((countedSurvivors_sublist results).eq_of_length h.symm).symm

/-- A test that fails on the unmutated program, and does not notice its mutant. -/
def brokenTest : List TestResult :=
  [⟨⟨"test_add", 0, 0⟩, ⟨.failed, 0⟩, [⟨⟨.passed, 1⟩, ⟨⟨1, 0, 2⟩, .mathAdd, "add",
    .binary 0 .add (.arg 0) (.arg 1), .binary 0 .sub (.arg 0) (.arg 1), none, false⟩⟩]⟩]

/-- One survivor is printed, and the figure below says that there is none. -/
theorem brokenTest_survivor_uncounted :
    (resultLines brokenTest).take 4 =
        ["Surviving mutants:", "1:add:2:math_add at <unknown>", "--------------",
          "Tests: 1, mutants: 1, killed: 0, survived: 0, invalid: 0, unscored: 1"] ∧
      (survivors brokenTest).length = 1 ∧ (ofResults brokenTest).survived = 0 ∧
      survivors brokenTest ≠ countedSurvivors brokenTest := by
  refine ⟨?_, by decide, by decide, by decide⟩
  rfl

end Summary

end MutationTesting

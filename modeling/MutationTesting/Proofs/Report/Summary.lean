import MutationTesting.Report.Summary

/-!
The figures of a campaign as counts. Of the mutants of tests that pass on the unmutated program
those of each status are counted, of the other mutants all.
-/

namespace MutationTesting.Summary

/-- The mutants of the tests that pass on the unmutated program. -/
def scoredMutants (results : List TestResult) : List MutantResult :=
  (results.filter TestResult.isScored).flatMap (·.mutants)

/-- The mutants of all other tests. -/
def unscoredMutants (results : List TestResult) : List MutantResult :=
  (results.filter fun r => !r.isScored).flatMap (·.mutants)

/-- How many of the mutants have a status. -/
def countStatus (status : Status) (mutants : List MutantResult) : Nat :=
  mutants.countP fun m => m.verdict.status = status

theorem countStatus_append (status : Status) (left right : List MutantResult) :
    countStatus status (left ++ right) = countStatus status left + countStatus status right :=
  List.countP_append

theorem countStatus_cons (status : Status) (m : MutantResult) (mutants : List MutantResult) :
    countStatus status (m :: mutants) =
      countStatus status mutants + if m.verdict.status = status then 1 else 0 := by
  simp [countStatus, List.countP_cons]

theorem foldl_addStatus (s : Summary) (mutants : List MutantResult) :
    mutants.foldl (fun s m => s.addStatus m.verdict.status) s =
      { s with
        killed := s.killed + countStatus .failed mutants
        survived := s.survived + countStatus .passed mutants
        invalid := s.invalid + countStatus .invalid mutants } := by
  induction mutants generalizing s with
  | nil => rfl
  | cons m mutants ih =>
      rw [List.foldl_cons, ih]
      simp only [countStatus_cons]
      cases m.verdict.status with
      | failed =>
          simp [addStatus]
          omega
      | passed =>
          simp [addStatus]
          omega
      | invalid =>
          simp [addStatus]
          omega

theorem foldl_addTest (s : Summary) (results : List TestResult) :
    results.foldl addTest s =
      ⟨s.tests + results.length, s.mutants + (results.flatMap (·.mutants)).length,
        s.killed + countStatus .failed (scoredMutants results),
        s.survived + countStatus .passed (scoredMutants results),
        s.invalid + countStatus .invalid (scoredMutants results),
        s.unscored + (unscoredMutants results).length⟩ := by
  induction results generalizing s with
  | nil => rfl
  | cons r results ih =>
      rw [List.foldl_cons, ih]
      cases hr : r.isScored with
      | true =>
          simp [addTest, hr, foldl_addStatus, scoredMutants, unscoredMutants, countStatus_append]
          omega
      | false =>
          simp [addTest, hr, scoredMutants, unscoredMutants]
          omega

/-- The figures count the mutants by their statuses. -/
theorem ofResults_eq (results : List TestResult) :
    ofResults results =
      ⟨results.length, (results.flatMap (·.mutants)).length,
        countStatus .failed (scoredMutants results), countStatus .passed (scoredMutants results),
        countStatus .invalid (scoredMutants results), (unscoredMutants results).length⟩ := by
  rw [ofResults, foldl_addTest]
  simp [empty]

/-- Every mutant is one of a scored test or one of another test. -/
theorem mutants_perm (results : List TestResult) :
    (results.flatMap (·.mutants)).Perm (scoredMutants results ++ unscoredMutants results) := by
  have hsplit := List.filter_append_perm TestResult.isScored results
  rw [scoredMutants, unscoredMutants, ← List.flatMap_append]
  exact (hsplit.flatMap_right _).symm

end MutationTesting.Summary

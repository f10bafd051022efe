import Mathlib.Algebra.Order.Field.Rat
import Mathlib.Algebra.Order.Field.Basic
import Mathlib.Data.List.Forall2
import Mathlib.Data.Nat.Cast.Order.Field
import MutationTesting.Proofs.Report.Summary
import MutationTesting.Report.Document

/-!
The figures of a campaign, taken several ways. Whoever counts the mutants in the report, by flags and
texts, gets the figures of the summary; they do not depend on any order, and add up over campaigns.
-/

namespace MutationTesting

namespace Status

theorem mutantName_inj {s t : Status} : s.mutantName = t.mutantName ↔ s = t := by
  cases s <;> cases t <;> simp [mutantName]

end Status

namespace Report

/-- The mutants of the tests with a flag. -/
def entriesOf (scored : Bool) (r : Report) : List MutantEntry :=
  (r.tests.filter fun t => t.scored == scored).flatMap (·.mutants)

/-- The figures by the flags of the tests and the texts of the mutants. -/
def recount (r : Report) : Summary :=
  let texts := (r.entriesOf true).map (·.status)
  ⟨r.tests.length, (r.tests.flatMap (·.mutants)).length, texts.count "killed",
    texts.count "survived", texts.count "invalid", (r.entriesOf false).length⟩

end Report

namespace Summary

/-! ### Recounting -/

theorem count_mutantName (status : Status) (mutants : List MutantResult) :
    (mutants.map fun m => m.verdict.status.mutantName).count status.mutantName =
      countStatus status mutants := by
  rw [List.count, List.countP_map, countStatus]
  refine List.countP_congr fun m _ => ?_
  simp [Status.mutantName_inj]

theorem entriesOf_true (date : String) (results : List TestResult) :
    (Report.ofResults date results).entriesOf true =
      (scoredMutants results).map .ofResult := by
  rw [Report.entriesOf, Report.ofResults, scoredMutants, List.filter_map, List.flatMap_map,
    List.map_flatMap]
  simp only [Function.comp_def, TestEntry.ofResult, beq_true]

theorem entriesOf_false (date : String) (results : List TestResult) :
    (Report.ofResults date results).entriesOf false =
      (unscoredMutants results).map .ofResult := by
  rw [Report.entriesOf, Report.ofResults, unscoredMutants, List.filter_map, List.flatMap_map,
    List.map_flatMap]
  simp only [Function.comp_def, TestEntry.ofResult, beq_false]

theorem recount_ofResults (date : String) (results : List TestResult) :
    (Report.ofResults date results).recount = ofResults results := by
  have htexts : ((Report.ofResults date results).entriesOf true).map (·.status) =
      (scoredMutants results).map fun m => m.verdict.status.mutantName := by
    rw [entriesOf_true, List.map_map]
    rfl
  have hmutants : ((Report.ofResults date results).tests.flatMap (·.mutants)).length =
      (results.flatMap (·.mutants)).length := by
    simp [Report.ofResults, TestEntry.ofResult, List.flatMap_map, List.length_flatMap]
  have htests : (Report.ofResults date results).tests.length = results.length :=
    List.length_map ..
  rw [ofResults_eq, Report.recount, htexts, hmutants, htests, entriesOf_false, List.length_map,
    ← count_mutantName .failed, ← count_mutantName .passed, ← count_mutantName .invalid]
  rfl

/-! ### Conservation, order and sums -/

/-- Every mutant has one of the three statuses. -/
theorem countStatus_add (mutants : List MutantResult) :
    countStatus .failed mutants + countStatus .passed mutants + countStatus .invalid mutants =
      mutants.length := by
  induction mutants with
  | nil => rfl
  | cons m mutants ih =>
      simp only [countStatus_cons, List.length_cons]
      cases m.verdict.status with
      | failed =>
          simp
          omega
      | passed =>
          simp
          omega
      | invalid =>
          simp
          omega

theorem length_mutants (results : List TestResult) :
    (results.flatMap (·.mutants)).length =
      (scoredMutants results).length + (unscoredMutants results).length := by
  rw [(mutants_perm results).length_eq, List.length_append]

theorem figures_add (results : List TestResult) :
    (ofResults results).killed + (ofResults results).survived + (ofResults results).invalid +
      (ofResults results).unscored = (ofResults results).mutants := by
  simp only [ofResults_eq, countStatus_add, length_mutants]

/-- The results of one test on the same mutants in another order. -/
structure Shuffled (r s : TestResult) : Prop where
  test : r.test = s.test
  baseline : r.baseline = s.baseline
  mutants : r.mutants.Perm s.mutants

/-- The same tests in another order, and the mutants of each in another order. -/
def Reordered (results shuffled : List TestResult) : Prop :=
  ∃ sorted, results.Perm sorted ∧ List.Forall₂ Shuffled sorted shuffled

theorem Shuffled.isScored {r s : TestResult} (h : Shuffled r s) : r.isScored = s.isScored := by
  rw [TestResult.isScored, TestResult.isScored, h.baseline]

/-- Of tests that are kept by their scoring the mutants are the same. -/
theorem shuffled_filter {sorted shuffled : List TestResult}
    (h : List.Forall₂ Shuffled sorted shuffled) (keep : Bool → Bool) :
    ((sorted.filter fun r => keep r.isScored).flatMap (·.mutants)).Perm
      ((shuffled.filter fun r => keep r.isScored).flatMap (·.mutants)) := by
  induction h with
  | nil => exact .refl _
  | cons hrs _ ih =>
      rw [List.filter_cons, List.filter_cons, hrs.isScored]
      split
      · rw [List.flatMap_cons, List.flatMap_cons]
        exact hrs.mutants.append ih
      · exact ih

theorem Reordered.filter {results shuffled : List TestResult} (h : Reordered results shuffled)
    (keep : Bool → Bool) :
    ((results.filter fun r => keep r.isScored).flatMap (·.mutants)).Perm
      ((shuffled.filter fun r => keep r.isScored).flatMap (·.mutants)) := by
  obtain ⟨sorted, hperm, hshuffled⟩ := h
  exact ((hperm.filter _).flatMap_right _).trans (shuffled_filter hshuffled keep)

theorem ofResults_reordered {results shuffled : List TestResult}
    (h : Reordered results shuffled) : ofResults shuffled = ofResults results := by
  have hscored : (scoredMutants results).Perm (scoredMutants shuffled) := h.filter id
  have hunscored : (unscoredMutants results).Perm (unscoredMutants shuffled) := h.filter not
  have hlength : results.length = shuffled.length := by
    obtain ⟨sorted, hperm, hshuffled⟩ := h
    rw [hperm.length_eq, hshuffled.length_eq]
  have hcount : ∀ status, countStatus status (scoredMutants results) =
      countStatus status (scoredMutants shuffled) := fun status => hscored.countP_eq _
  rw [ofResults_eq, ofResults_eq, length_mutants, length_mutants, hlength, hcount, hcount, hcount,
    hscored.length_eq, hunscored.length_eq]

instance : Add Summary where
  add s t := ⟨s.tests + t.tests, s.mutants + t.mutants, s.killed + t.killed,
    s.survived + t.survived, s.invalid + t.invalid, s.unscored + t.unscored⟩

theorem ofResults_append (results more : List TestResult) :
    ofResults (results ++ more) = ofResults results + ofResults more := by
  have hscored : scoredMutants (results ++ more) = scoredMutants results ++ scoredMutants more := by
    rw [scoredMutants, List.filter_append, List.flatMap_append]
    rfl
  have hunscored : unscoredMutants (results ++ more) =
      unscoredMutants results ++ unscoredMutants more := by
    rw [unscoredMutants, List.filter_append, List.flatMap_append]
    rfl
  simp only [ofResults_eq, hscored, hunscored, countStatus_append, List.flatMap_append,
    List.length_append]
  rfl

/-! ### The score -/

/-- The score as a numerator and a denominator. -/
def fraction (s : Summary) : Nat × Nat := if s.scored = 0 then (1, 1) else (s.killed, s.scored)

/-- The score as a rational number. -/
def share (s : Summary) : ℚ := s.fraction.1 / s.fraction.2

theorem score_eq_fraction (s : Summary) :
    s.score = s.fraction.1.toFloat / s.fraction.2.toFloat := by
  rw [score, fraction]
  split
  · rfl
  · rfl

theorem share_eq (s : Summary) :
    s.share = if s.killed + s.survived = 0 then 1
      else (s.killed : ℚ) / ((s.killed : ℚ) + (s.survived : ℚ)) := by
  rw [share, fraction, scored]
  split
  · norm_num
  · rw [Nat.cast_add]

theorem fraction_fst_le (s : Summary) : s.fraction.1 ≤ s.fraction.2 := by
  rw [fraction, scored]
  split
  · exact Nat.le_refl 1
  · exact Nat.le_add_right s.killed s.survived

theorem fraction_snd_pos (s : Summary) : (0 : ℚ) < s.fraction.2 := by
  rw [Nat.cast_pos, fraction]
  split
  · exact Nat.one_pos
  · omega

theorem share_le_one (s : Summary) : s.share ≤ 1 := by
  rw [share, div_le_one s.fraction_snd_pos, Nat.cast_le]
  exact s.fraction_fst_le

theorem share_eq_one_iff (s : Summary) : s.share = 1 ↔ s.survived = 0 := by
  rw [share, div_eq_one_iff_eq s.fraction_snd_pos.ne', Nat.cast_inj, fraction, scored]
  split
  · omega
  · omega

/-- **Every mutant is accounted for once.** Of any results: the four figures make up the number of
mutants; the report has these figures, and counting its mutants by flags and texts gives them again;
they are the same for the tests and the mutants of each in any other order, and for results that are
put together they add up. The score is the quotient of a numerator and a denominator that make up the
share of the killed among the killed and survived mutants, which is one where there are none of them;
it is from zero to one, and one exactly if no mutant survived. -/
theorem report_accounts (date : String) (results : List TestResult) :
    ((ofResults results).killed + (ofResults results).survived + (ofResults results).invalid +
        (ofResults results).unscored = (ofResults results).mutants ∧
      (ofResults results).mutants = (results.map fun r => r.mutants.length).sum) ∧
    ((Report.ofResults date results).summary = ofResults results ∧
      (Report.ofResults date results).recount = ofResults results) ∧
    (∀ shuffled, Reordered results shuffled → ofResults shuffled = ofResults results) ∧
    (∀ more, ofResults (results ++ more) = ofResults results + ofResults more) ∧
    (ofResults results).score =
      (ofResults results).fraction.1.toFloat / (ofResults results).fraction.2.toFloat ∧
    (ofResults results).share =
      (if (ofResults results).killed + (ofResults results).survived = 0 then 1
        else ((ofResults results).killed : ℚ) /
          (((ofResults results).killed : ℚ) + ((ofResults results).survived : ℚ))) ∧
    0 ≤ (ofResults results).share ∧ (ofResults results).share ≤ 1 ∧
    ((ofResults results).share = 1 ↔ (ofResults results).survived = 0) := by
  have hmutants : (ofResults results).mutants = (results.map fun r => r.mutants.length).sum := by
    rw [ofResults_eq, List.length_flatMap]
  have hnonneg : 0 ≤ (ofResults results).share :=
    div_nonneg (Nat.cast_nonneg _) (Nat.cast_nonneg _)
  exact ⟨⟨figures_add results, hmutants⟩, ⟨rfl, recount_ofResults date results⟩,
    fun _ h => ofResults_reordered h, ofResults_append results, score_eq_fraction _, share_eq _,
    hnonneg, share_le_one _, share_eq_one_iff _⟩

end Summary

end MutationTesting

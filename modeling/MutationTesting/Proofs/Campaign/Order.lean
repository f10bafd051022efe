import MutationTesting.Proofs.Campaign.Return
import MutationTesting.Proofs.Discovery.Renumbering

/-!
Load order. Where no two functions share a name, a campaign on the same modules in another order
fares alike: it returns or not, and each test has the results that it had, in their order, with the
modules under their new numbers. The tests themselves come in the order of their modules.
-/

namespace MutationTesting

def MutantResult.renumber (σ : Equiv.Perm Nat) (r : MutantResult) : MutantResult :=
  { r with point := r.point.renumber σ }

def TestResult.renumber (σ : Equiv.Perm Nat) (r : TestResult) : TestResult :=
  { r with test := r.test.renumber σ, mutants := r.mutants.map (MutantResult.renumber σ) }

namespace Program

theorem accepted_of_perm {p q : Program} (h : p.modules.Perm q.modules) (hp : p.Accepted) :
    q.Accepted :=
  fun m hm => hp m (h.mem_iff.mpr hm)

theorem rebuild_error_of_not_accepted {p : Program} (h : ¬ p.Accepted) :
    ∃ cause, p.rebuild = .error cause := by
  cases hrebuild : p.rebuild with
  | error cause => exact ⟨cause, rfl⟩
  | ok artifacts => exact absurd ((p.rebuild_eq_ok_iff artifacts).mp hrebuild).1 h

/-- The status of a test does not depend on the order of the modules. -/
theorem freshStatus_perm {p q : Program} (h : p.modules.Perm q.modules) (name : String)
    (fuel : Nat) : q.freshStatus name fuel = p.freshStatus name fuel := by
  by_cases hp : p.Accepted
  · have hq := accepted_of_perm h hp
    have hrebuild := (p.rebuild_eq_ok_iff _).mpr ⟨hp, rfl⟩
    have hrebuild' := (q.rebuild_eq_ok_iff _).mpr ⟨hq, rfl⟩
    rw [freshStatus, freshStatus, hrebuild, hrebuild']
    exact runTest_perm (h.symm.map _) name fuel
  · have hq : ¬ q.Accepted := fun hq => hp (accepted_of_perm h.symm hq)
    obtain ⟨cause, hrebuild⟩ := rebuild_error_of_not_accepted hp
    obtain ⟨cause', hrebuild'⟩ := rebuild_error_of_not_accepted hq
    rw [freshStatus, freshStatus, hrebuild, hrebuild']

end Program

namespace Campaign

open Program

section Renumbered

variable {c : Campaign Unit} {detector : Option JunkDetector} {σ : Equiv.Perm Nat} {p q : Program}

/-- A detector looks at the kind of a point and at its place in the source, not at its address. -/
theorem passes_renumber (files : Files) (detector : Option JunkDetector) (σ : Equiv.Perm Nat)
    (point : MutationPoint) :
    passes files detector (point.renumber σ) = passes files detector point := rfl

/-- The mutated modules, too, are the same in another order. -/
theorem scratchMutant_renumber (h : Renumbered σ p q) (test : Test) (point : MutationPoint) :
    c.scratchMutant q (test.renumber σ) (point.renumber σ) =
      (c.scratchMutant p test point).renumber σ := by
  have hmodules := (h.setOpcode point.address point.mutated).modules_perm
  have hstatus := freshStatus_perm hmodules test.name c.fuel
  simp only [scratchMutant, MutantResult.renumber, ← hstatus]
  rfl

theorem scratchMutants_renumber (h : Renumbered σ p q) (test : Test) (testee : Testee) :
    c.scratchMutants detector q (test.renumber σ) (testee.renumber σ) =
      (c.scratchMutants detector p test testee).map (MutantResult.renumber σ) := by
  have hpasses : passes c.files detector ∘ MutationPoint.renumber σ = passes c.files detector :=
    funext fun point => passes_renumber c.files detector σ point
  rw [scratchMutants, scratchMutants, ← Testee.points_eq, ← Testee.points_eq, h.points,
    List.filter_map, hpasses, List.map_map, List.map_map]
  exact List.map_congr_left fun point _ => scratchMutant_renumber h test point

theorem scratchResult_renumber (h : Renumbered σ p q) (hdistinct : p.Distinct) (test : Test) :
    c.scratchResult detector q (test.renumber σ) =
      (c.scratchResult detector p test).renumber σ := by
  have hstatus : q.freshStatus (test.renumber σ).name c.fuel = p.freshStatus test.name c.fuel :=
    freshStatus_perm h.modules_perm test.name c.fuel
  rw [scratchResult, scratchResult, TestResult.renumber, h.testees hdistinct, hstatus,
    List.flatMap_map, List.map_flatMap]
  simp only [scratchMutants_renumber h]

/-- The results of the tests are the same up to the order of the tests. -/
theorem scratchResults_perm (h : Renumbered σ p q) (hdistinct : p.Distinct) :
    ((c.scratchResults detector p).map (TestResult.renumber σ)).Perm
      (c.scratchResults detector q) := by
  have htests := (h.tests_perm c.finder).map (c.scratchResult detector q)
  rw [scratchResults, scratchResults, ← Finder.tests_eq, ← Finder.tests_eq]
  rw [List.map_map] at htests ⊢
  have hresult : c.scratchResult detector q ∘ Test.renumber σ =
      TestResult.renumber σ ∘ c.scratchResult detector p :=
    funext fun test => scratchResult_renumber h hdistinct test
  rwa [hresult] at htests

theorem Finds.renumber (h : Renumbered σ p q) (hdistinct : p.Distinct) {point : MutationPoint}
    (hpoint : c.Finds p point) : c.Finds q (point.renumber σ) := by
  obtain ⟨test, htest, testee, htestee, hmem⟩ := hpoint
  refine ⟨test.renumber σ, ?_, testee.renumber σ, ?_, ?_⟩
  · exact (h.tests_perm c.finder).mem_iff.mp (List.mem_map_of_mem htest)
  · rw [h.testees hdistinct]
    exact List.mem_map_of_mem htestee
  · rw [h.points]
    exact List.mem_map_of_mem hmem

/-- A campaign on one order of the modules returns if that on another does. -/
theorem execute_returns (h : Renumbered σ p q) (hdistinct : p.Distinct) {settings : Settings}
    {files : Files} {results : List TestResult}
    (hq : (execute settings .standard () files q).1 = .ok results) :
    ∃ results, (execute settings .standard () files p).1 = .ok results := by
  obtain ⟨haccepted, finder, operators, hfinder, hoperators, hanswered, -⟩ :=
    (execute_eq_ok_iff _ _ _ _).mp hq
  refine ⟨_, (execute_eq_ok_iff _ _ _ _).mpr ⟨accepted_of_perm h.modules_perm.symm haccepted,
    finder, operators, hfinder, hoperators, fun point hpoint => ?_, rfl⟩⟩
  exact hanswered (point.renumber σ) (hpoint.renumber h hdistinct)

end Renumbered

/-- **Load order does not matter.** Let the same modules, with no function name defined twice, be
loaded in two orders. For any settings and files, the campaign returns on the one exactly if it
returns on the other. There is a renumbering of the modules such that, if they return, the results
on the second order are those on the first up to the order of the tests: each test has the same
baseline and the same list of mutants, apart from the numbers of the modules. -/
theorem execute_perm (p q : Program) (hperm : p.modules.Perm q.modules) (hdistinct : p.Distinct)
    (settings : Settings) (files : Files) :
    ((∃ results, (execute settings .standard () files p).1 = .ok results) ↔
        ∃ results, (execute settings .standard () files q).1 = .ok results) ∧
      ∃ σ : Equiv.Perm Nat, (∀ id, q.module? (σ id) = p.module? id) ∧
        ∀ results results', (execute settings .standard () files p).1 = .ok results →
          (execute settings .standard () files q).1 = .ok results' →
            (results.map (TestResult.renumber σ)).Perm results' := by
  obtain ⟨σ, h⟩ := exists_renumbered hperm
  refine ⟨⟨?_, ?_⟩, σ, h, fun results results' hp hq => ?_⟩
  · rintro ⟨results, hp⟩
    exact execute_returns h.symm (h.distinct hdistinct) hp
  · rintro ⟨results, hq⟩
    exact execute_returns h hdistinct hq
  · obtain ⟨-, finder, operators, hfinder, hoperators, -, rfl⟩ :=
      (execute_eq_ok_iff _ _ _ _).mp hp
    obtain ⟨-, finder', operators', hfinder', hoperators', -, rfl⟩ :=
      (execute_eq_ok_iff _ _ _ _).mp hq
    rw [hfinder, Except.ok.injEq] at hfinder'
    rw [hoperators, Except.ok.injEq] at hoperators'
    subst hfinder' hoperators'
    exact scratchResults_perm h hdistinct

/-- Settings that leave no point out. -/
def keepAll : Settings := { Settings.defaults with junk := ⟨false, none, none⟩ }

theorem keepAll_execute {program : Program} (h : program.Accepted) :
    ∃ results, (execute keepAll .standard () .empty program).1 = .ok results := by
  have hpattern : (Pattern.read? Framework.simple.testPattern).isSome = true := by cbv
  obtain ⟨e, he⟩ := Option.isSome_iff_exists.mp hpattern
  have hfinder : Framework.simple.finder 1 = .ok ⟨e.occursIn, 1, Nat.one_pos⟩ := by
    simp [Framework.finder, he]
  refine ⟨_, (execute_eq_ok_iff _ _ _ _).mpr ⟨h, _, MutationOperator.defaults, hfinder, rfl, ?_,
    rfl⟩⟩
  exact fun _ _ d hd => absurd hd (Option.not_mem_none d)

/-- The tests and the library may be loaded in either order. -/
theorem sum_execute_perm :
    ∃ (results results' : List TestResult) (σ : Equiv.Perm Nat),
      (execute keepAll .standard () .empty sum).1 = .ok results ∧
      (execute keepAll .standard () .empty ⟨sum.modules.reverse⟩).1 = .ok results' ∧
      (∀ id, Program.module? ⟨sum.modules.reverse⟩ (σ id) = sum.module? id) ∧
      (results.map (TestResult.renumber σ)).Perm results' := by
  have hperm : sum.modules.Perm sum.modules.reverse := (List.reverse_perm _).symm
  obtain ⟨hreturns, σ, hσ, hresults⟩ :=
    execute_perm sum ⟨sum.modules.reverse⟩ hperm (by decide) keepAll .empty
  obtain ⟨results, hrun⟩ := keepAll_execute (show sum.Accepted by decide)
  obtain ⟨results', hrun'⟩ := hreturns.mp ⟨results, hrun⟩
  exact ⟨results, results', σ, hrun, hrun', hσ, hresults results results' hrun hrun'⟩

end Campaign

end MutationTesting

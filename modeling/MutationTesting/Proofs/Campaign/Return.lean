import MutationTesting.Proofs.Campaign.Outcome
import MutationTesting.Proofs.Execution.Build

/-!
When campaigns return. A campaign by settings returns if every module is accepted, the settings name
a framework and operators, and the detector answers at every point that is found; not otherwise.
What it returns are the results from scratch.
-/

namespace MutationTesting.Campaign

open Work

/-- A campaign that begins with the artifacts of its program fails exactly where its detector fails.
-/
theorem results_eq_ok_iff {c : Campaign Unit} (hc : c.compiler = .standard) {program : Program}
    {store : ArtifactStore} (hfresh : store.Fresh program) (detector : Option JunkDetector)
    (results : List TestResult) :
    (perform c.results ⟨program, store, detector, ()⟩).1 = .ok results ↔
      (∀ p, c.Finds program p → Answered c.files detector p) ∧
        results = c.scratchResults detector program := by
  obtain ⟨-, hresults, hexcuse⟩ := results_exit hc ⟨program, store, detector, ()⟩
  constructor
  · intro h
    exact ⟨fun p hp => results_answered hc h hp, hresults results h hfresh⟩
  · rintro ⟨hanswered, rfl⟩
    cases hrun : (perform c.results ⟨program, store, detector, ()⟩).1 with
    | ok results => rw [hresults results hrun hfresh]
    | error cause =>
        obtain ⟨d, p, hd, hp, hjunk⟩ := (hexcuse cause hrun).of_fresh hfresh
        obtain ⟨junk, hok⟩ := hanswered p hp d hd
        rw [hjunk] at hok
        cases hok

theorem exists_compileAll {modules : List Module} (h : ∀ m ∈ modules, m.violation? = none)
    (id : Nat) (store : ArtifactStore) :
    ∃ store', compileAll .standard id modules store () = .ok (store', ()) := by
  induction modules generalizing id store with
  | nil => exact ⟨store, rfl⟩
  | cons m rest ih =>
      obtain ⟨hm, hrest⟩ := List.forall_mem_cons.mp h
      have hcompile := Module.compile_of_violation?_none hm
      obtain ⟨store', hstore'⟩ := ih hrest (id + 1) (store.insert id (.ofImage (.ofModule m)))
      refine ⟨store', ?_⟩
      simp only [compileAll, Compiler.standard, hcompile]
      exact hstore'

theorem accepted_of_compileAll {program : Program} {store : ArtifactStore}
    (h : compileAll .standard 0 program.modules .empty () = .ok (store, ())) :
    program.Accepted := by
  obtain ⟨artifacts, hrebuild, -⟩ := compileAll_fresh h
  exact ((program.rebuild_eq_ok_iff artifacts).mp hrebuild).1

/-- The campaign that settings make with a finder and operators. -/
def ofSettings (settings : Settings) (files : Files) (finder : Finder)
    (operators : List MutationOperator) : Campaign Unit :=
  ⟨.standard, finder, operators, files, settings.fuel.toNat⟩

/-- The detector of a campaign by settings, if they ask for one. -/
def detectorOf (settings : Settings) (files : Files) : Option JunkDetector :=
  if settings.junk.enabled then some (.ofSettings files settings.junk) else none

theorem prepare_eq_ok {settings : Settings} {files : Files} {program : Program}
    {store : ArtifactStore} {finder : Finder} {operators : List MutationOperator}
    (hstore : compileAll .standard 0 program.modules .empty () = .ok (store, ()))
    (hfinder : settings.framework.finder settings.maxDistance.toNat = .ok finder)
    (hoperators : MutationOperator.select settings.mutators = .ok operators) :
    prepare settings [] .standard () files program =
      .ok (ofSettings settings files finder operators,
        ⟨program, store, detectorOf settings files, ()⟩) := by
  simp only [prepare, hstore, hfinder, hoperators, bind, Except.bind, List.append_nil]
  rfl

/-- **When a campaign returns, and what.** -/
theorem execute_eq_ok_iff (settings : Settings) (files : Files) (program : Program)
    (results : List TestResult) :
    (execute settings .standard () files program).1 = .ok results ↔
      program.Accepted ∧ ∃ finder operators,
        settings.framework.finder settings.maxDistance.toNat = .ok finder ∧
        MutationOperator.select settings.mutators = .ok operators ∧
        (∀ p, (ofSettings settings files finder operators).Finds program p →
          Answered files (detectorOf settings files) p) ∧
        results = (ofSettings settings files finder operators).scratchResults
          (detectorOf settings files) program := by
  constructor
  · intro h
    rw [execute] at h
    cases hprepare : prepare settings [] .standard () files program with
    | error cause =>
        rw [hprepare] at h
        cases h
    | ok prepared =>
        obtain ⟨c, bench⟩ := prepared
        rw [hprepare] at h
        obtain ⟨store, finder, operators, hstore, hfinder, hoperators, rfl, rfl⟩ :=
          prepare_ok hprepare
        rw [List.append_nil] at h
        have hiff := results_eq_ok_iff (c := ofSettings settings files finder operators) rfl
          (compileAll_fresh hstore) (detectorOf settings files) results
        obtain ⟨hanswered, hresults⟩ := hiff.mp h
        exact ⟨accepted_of_compileAll hstore, finder, operators, hfinder, hoperators, hanswered,
          hresults⟩
  · rintro ⟨haccepted, finder, operators, hfinder, hoperators, hanswered, hresults⟩
    obtain ⟨store, hstore⟩ := exists_compileAll haccepted 0 .empty
    rw [execute, prepare_eq_ok hstore hfinder hoperators]
    have hiff := results_eq_ok_iff (c := ofSettings settings files finder operators) rfl
      (compileAll_fresh hstore) (detectorOf settings files) results
    exact hiff.mpr ⟨hanswered, hresults⟩

/-- A run that returns has executed a campaign on a program that was loaded. -/
theorem run_ok {settings : Settings} {files : Files} {results : List TestResult}
    (h : run settings .standard () files = .ok results) :
    ∃ program, files.loadProgram settings.modulePaths = .ok program ∧
      (execute settings .standard () files program).1 = .ok results := by
  obtain ⟨_, -, h⟩ := bind_ok h
  obtain ⟨program, hprogram, h⟩ := bind_ok h
  exact ⟨program, hprogram, h⟩

end MutationTesting.Campaign

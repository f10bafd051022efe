import MutationTesting.Proofs.Campaign.Return
import MutationTesting.Proofs.Execution.Infection
import MutationTesting.Proofs.Report.Summary

/-!
Validity of mutants. Whether a test has a valid status is a matter of what the standard mutations
leave alone: whether the modules are accepted, and the names and parameter counts of the functions.
So a mutant is invalid exactly if its test is invalid on the unmutated program, and then it does not
count.
-/

namespace MutationTesting

namespace Program

/-- Whether a test can be called: there is a function of its name without parameters. -/
def Callable (p : Program) (name : String) : Prop :=
  ∃ f ∈ p.functions, f.name = name ∧ f.params = 0

instance (p : Program) (name : String) : Decidable (p.Callable name) :=
  inferInstanceAs (Decidable (∃ f ∈ p.functions, f.name = name ∧ f.params = 0))

theorem freshStatus_eq_invalid_iff (p : Program) (name : String) (fuel : Nat) :
    p.freshStatus name fuel = .invalid ↔ ¬ (p.Accepted ∧ p.Distinct ∧ p.Callable name) := by
  by_cases hbuilds : ∃ exe, p.Builds exe
  · obtain ⟨exe, hexe⟩ := hbuilds
    obtain ⟨artifacts, hrebuild, hlink⟩ := (p.builds_iff exe).mp hexe
    have hstatus : p.freshStatus name fuel = runTest name artifacts fuel := by
      rw [freshStatus, hrebuild]
    have hcallable : p.Callable name ↔ ∃ s, exe.symbol? name = some s ∧ s.params = 0 := by
      constructor
      · rintro ⟨f, hf, hname, hparams⟩
        exact ⟨_, (hexe.symbol name _).mpr ⟨f, hf, hname, rfl⟩, hparams⟩
      · rintro ⟨s, hs, hparams⟩
        obtain ⟨f, hf, hname, rfl⟩ := (hexe.symbol name s).mp hs
        exact ⟨f, hf, hname, hparams⟩
    rw [hstatus, runTest, Status.ofOutcome_eq_invalid_iff, isLinkError_executeTest_of_link hlink,
      hcallable]
    simp only [hexe.accepted, hexe.distinct, true_and]
  · rw [freshStatus_of_not_builds (not_exists.mp hbuilds)]
    rw [exists_builds_iff] at hbuilds
    simp only [true_iff]
    rintro ⟨haccepted, hdistinct, -⟩
    exact hbuilds ⟨haccepted, hdistinct⟩

/-- Names and parameter counts belong to the outline. -/
theorem callable_iff (p : Program) (name : String) :
    p.Callable name ↔ ∃ m ∈ p.outline, ∃ f ∈ m.2.2, f.1 = name ∧ f.2.1 = 0 := by
  simp only [Callable, functions, outline, Module.outline, List.mem_flatMap,
    List.mem_map]
  constructor
  · rintro ⟨f, ⟨m, hm, hf⟩, hname, hparams⟩
    exact ⟨_, ⟨m, hm, rfl⟩, _, List.mem_map_of_mem hf, hname, hparams⟩
  · rintro ⟨_, ⟨m, hm, rfl⟩, o, ho, hname, hparams⟩
    obtain ⟨f, hf, rfl⟩ := List.mem_map.mp ho
    exact ⟨f, ⟨m, hm, hf⟩, hname, hparams⟩

/-- Similar opcodes leave a test invalid or valid, as it is. -/
theorem freshStatus_setOpcode_eq_invalid_iff {p : Program} {a : Address} {o m : Opcode}
    (ho : p.opcode? a = some o) (hsimilar : o.Similar m) (name : String) (fuel : Nat) :
    (p.setOpcode a m).freshStatus name fuel = .invalid ↔ p.freshStatus name fuel = .invalid := by
  have haccepted := accepted_setOpcode_iff ho hsimilar.targets hsimilar.operands
  have hdistinct := p.distinct_setOpcode_iff a m
  have hcallable : (p.setOpcode a m).Callable name ↔ p.Callable name := by
    rw [callable_iff, callable_iff, outline_setOpcode]
  rw [freshStatus_eq_invalid_iff, freshStatus_eq_invalid_iff, haccepted, hdistinct, hcallable]

end Program

namespace Symbol

/-- What linking sees of a symbol besides its code. -/
def extent (s : Symbol) : String × UInt32 × Nat := (s.name, s.params, s.code.size)

end Symbol

namespace Module

/-- The extents of its symbols belong to the outline of a module. -/
theorem extents_eq (m : Module) :
    (Image.ofModule m).symbols.map Symbol.extent =
      m.outline.2.2.map fun f => (f.1, f.2.1, f.2.2.length) := by
  simp only [Image.ofModule, outline, List.map_map]
  refine List.map_congr_left fun f _ => ?_
  simp [Symbol.extent, Symbol.ofFunction, Function.code, Function.outline]

end Module

/-- The points of standard operators replace opcodes by similar ones. -/
theorem Testee.similar_of_mem {t : Testee} {program : Program} {operators : List MutationOperator}
    (hoperators : ∀ op ∈ operators, op ∈ MutationOperator.all) {p : MutationPoint}
    (h : p ∈ t.points program operators) : p.initial.Similar p.mutated := by
  obtain ⟨m, op, f, i, index, -, hop, -, -, hpoint⟩ := exists_of_mem h
  obtain ⟨kind, -, rfl⟩ := List.mem_map.mp (hoperators op hop)
  obtain ⟨mutated, hmutated, rfl⟩ := Option.map_eq_some_iff.mp hpoint
  exact MutationOperator.similar_of_standardMutation hmutated

namespace MutationOperator

/-- Settings select standard operators only. -/
theorem mem_all_of_select {names : List String} {operators : List MutationOperator}
    (h : select names = .ok operators) : ∀ op ∈ operators, op ∈ all := by
  intro op hop
  rw [select] at h
  split at h
  · cases h
    obtain ⟨kind, hkind, rfl⟩ := List.mem_map.mp hop
    refine List.mem_map_of_mem ?_
    simp only [List.mem_cons, List.not_mem_nil, or_false] at hkind
    rcases hkind with rfl | rfl | rfl <;> simp [MutatorKind.standard]
  · obtain ⟨name, -, hname⟩ := exists_of_mem_mapM h hop
    rw [byName] at hname
    split at hname
    next found hfound =>
      cases hname
      exact List.mem_of_find?_eq_some hfound
    next => cases hname

end MutationOperator

/-- Mutants are invalid where their tests are, and only there. -/
def ValidAlike (results : List TestResult) : Prop :=
  ∀ r ∈ results, ∀ m ∈ r.mutants, m.verdict.status = .invalid ↔ r.baseline.status = .invalid

/-- No invalid mutant counts, since its test does not pass. -/
theorem ValidAlike.invalid_eq_zero {results : List TestResult} (h : ValidAlike results) :
    (Summary.ofResults results).invalid = 0 := by
  rw [Summary.ofResults_eq]
  refine List.countP_eq_zero.mpr fun m hm => ?_
  obtain ⟨r, hr, hmr⟩ := List.mem_flatMap.mp hm
  obtain ⟨hr, hscored⟩ := List.mem_filter.mp hr
  have hpassed : r.baseline.status = .passed := by simpa [TestResult.isScored] using hscored
  have hvalid : ¬ m.verdict.status = .invalid := by
    rw [h r hr m hmr, hpassed]
    exact nofun
  simpa using hvalid

namespace Campaign

open Work

theorem baseline_scratchResult (c : Campaign Unit) (detector : Option JunkDetector)
    (program : Program) (test : Test) :
    (c.scratchResult detector program test).baseline.status =
      program.freshStatus test.name c.fuel := rfl

theorem scratchResults_validAlike {c : Campaign Unit}
    (hoperators : ∀ op ∈ c.operators, op ∈ MutationOperator.all) (detector : Option JunkDetector)
    (program : Program) : ValidAlike (c.scratchResults detector program) := by
  intro r hr m hm
  obtain ⟨test, -, rfl⟩ := List.mem_map.mp hr
  obtain ⟨testee, -, hm⟩ := List.mem_flatMap.mp hm
  obtain ⟨p, hp, rfl⟩ := List.mem_map.mp hm
  have hp : p ∈ testee.points program c.operators := by
    rw [testee.points_eq]
    exact List.mem_of_mem_filter hp
  obtain ⟨_, hfits, -⟩ := Testee.fits_of_mem hp
  exact Program.freshStatus_setOpcode_eq_invalid_iff hfits.holds
    (Testee.similar_of_mem hoperators hp) test.name c.fuel

/-- A point of a standard operator leaves an accepted module accepted, and changes no extent. -/
theorem compile_mutated {operators : List MutationOperator}
    (hoperators : ∀ op ∈ operators, op ∈ MutationOperator.all) {program : Program}
    (haccepted : program.Accepted) {testee : Testee} {p : MutationPoint}
    (hp : p ∈ testee.points program operators) :
    ∃ m n, program.module? p.address.module = some m ∧
      (program.setOpcode p.address p.mutated).module? p.address.module = some n ∧
      m.compile = .ok (.ofImage (.ofModule m)) ∧ n.compile = .ok (.ofImage (.ofModule n)) ∧
      (Image.ofModule n).symbols.map Symbol.extent =
        (Image.ofModule m).symbols.map Symbol.extent := by
  obtain ⟨m, hfits, -⟩ := Testee.fits_of_mem hp
  have hsimilar := Testee.similar_of_mem hoperators hp
  have hmutated := hfits.module_mutated
  have haccepted' : (program.setOpcode p.address p.mutated).Accepted :=
    (Program.accepted_setOpcode_iff hfits.holds hsimilar.targets hsimilar.operands).mpr haccepted
  have hm := haccepted m (List.mem_of_getElem? hfits.module)
  have hn := haccepted' _ (List.mem_of_getElem? hmutated)
  refine ⟨m, _, hfits.module, hmutated, Module.compile_of_violation?_none hm,
    Module.compile_of_violation?_none hn, ?_⟩
  rw [Module.extents_eq, Module.extents_eq, Module.outline_setOpcode]

/-- **Standard mutants are well formed.** Of a program whose modules compile, every point that
standard operators find can be applied, and its module then compiles to symbols with the same names,
parameter counts and code sizes. So in a campaign of standard operators that returns, and in every
run by settings, a mutant is invalid exactly if its test is invalid on the unmutated program, and no
invalid mutant counts. -/
theorem standard_mutants_valid (operators : List MutationOperator)
    (hoperators : ∀ op ∈ operators, op ∈ MutationOperator.all) (program : Program)
    (files : Files) :
    ((∀ m ∈ program.modules, ∃ a, m.compile = .ok a) → ∀ (testee : Testee) (p : MutationPoint),
      p ∈ testee.points program operators →
        ∃ p' mutated m n a b i j, p.apply program = .ok (p', mutated) ∧
          program.module? p.address.module = some m ∧ m.compile = .ok a ∧ a.image = .ok i ∧
          mutated.module? p.address.module = some n ∧ n.compile = .ok b ∧ b.image = .ok j ∧
          (j.symbols.map fun s => (s.name, s.params, s.code.size)) =
            i.symbols.map fun s => (s.name, s.params, s.code.size)) ∧
      (∀ (finder : Finder) (fuel : Nat) (detector : Option JunkDetector) (store : ArtifactStore)
        (results : List TestResult),
        compileAll .standard 0 program.modules .empty () = .ok (store, ()) →
        (perform (⟨.standard, finder, operators, files, fuel⟩ : Campaign Unit).results
          ⟨program, store, detector, ()⟩).1 = .ok results →
        ValidAlike results ∧ (Summary.ofResults results).invalid = 0) ∧
      (∀ (settings : Settings) (results : List TestResult),
        (execute settings .standard () files program).1 = .ok results →
          ValidAlike results ∧ (Summary.ofResults results).invalid = 0) ∧
      ∀ (settings : Settings) (results : List TestResult),
        run settings .standard () files = .ok results →
          ValidAlike results ∧ (Summary.ofResults results).invalid = 0 := by
  have hexecute : ∀ (settings : Settings) (loaded : Program) (results : List TestResult),
      (execute settings .standard () files loaded).1 = .ok results →
        ValidAlike results ∧ (Summary.ofResults results).invalid = 0 := by
    intro settings loaded results h
    obtain ⟨-, finder, selected, -, hselected, -, rfl⟩ := (execute_eq_ok_iff _ _ _ _).mp h
    have hvalid := scratchResults_validAlike (c := ofSettings settings files finder selected)
      (MutationOperator.mem_all_of_select hselected) (detectorOf settings files) loaded
    exact ⟨hvalid, hvalid.invalid_eq_zero⟩
  refine ⟨fun hcompile testee p hp => ?_, fun finder fuel detector store results hstore h => ?_,
    fun settings results => hexecute settings program results, fun settings results h => ?_⟩
  · have haccepted : program.Accepted := by
      intro m hm
      obtain ⟨a, ha⟩ := hcompile m hm
      exact ((m.compile_eq_ok_iff a).mp ha).1
    obtain ⟨m, n, hm, hn, hcompile, hcompile', hextents⟩ :=
      compile_mutated hoperators haccepted hp
    obtain ⟨_, hfits, -⟩ := Testee.fits_of_mem hp
    exact ⟨_, _, m, n, _, _, _, _, hfits.apply, hm, hcompile, Artifact.image_ofImage _, hn,
      hcompile', Artifact.image_ofImage _, hextents⟩
  · have hiff := results_eq_ok_iff (c := ⟨.standard, finder, operators, files, fuel⟩) rfl
      (compileAll_fresh hstore) detector results
    have hvalid := scratchResults_validAlike (c := ⟨.standard, finder, operators, files, fuel⟩)
      hoperators detector program
    rw [(hiff.mp h).2]
    exact ⟨hvalid, hvalid.invalid_eq_zero⟩
  · obtain ⟨loaded, -, hloaded⟩ := run_ok h
    exact hexecute settings loaded results hloaded

/-- Two tests of one function, of which the second cannot be run because it takes an argument. -/
def doubleSum : Program :=
  ⟨[⟨"tests", none, [⟨"test_sum", 0, [⟨.call (some 0) "sum" [.imm 2, .imm 3], none⟩,
        ⟨.ret (some (.reg 0)), none⟩]⟩,
      ⟨"test_sum_of", 1, [⟨.call (some 0) "sum" [.arg 0, .imm 3], none⟩,
        ⟨.ret (some (.reg 0)), none⟩]⟩]⟩,
    ⟨"library", none, [⟨"sum", 2, [⟨.binary 0 .add (.arg 0) (.arg 1), none⟩,
      ⟨.ret (some (.reg 0)), none⟩]⟩]⟩]⟩

/-- Its campaign with one operator, given twice. -/
def doubleSumCampaign : Campaign Unit :=
  ⟨.standard, ⟨["test_sum", "test_sum_of"].contains, 1, Nat.one_pos⟩,
    [.ofKind .mathAdd, .ofKind .mathAdd], .empty, 100⟩

/-- The campaign returns, the mutants of the second test are invalid as it is, and none counts. -/
theorem doubleSum_mutants_valid :
    ∃ store r s, compileAll .standard 0 doubleSum.modules .empty () = .ok (store, ()) ∧
      (perform doubleSumCampaign.results ⟨doubleSum, store, none, ()⟩).1 = .ok [r, s] ∧
      (r.baseline.status ≠ .invalid ∧ r.mutants.length = 2 ∧
        ∀ m ∈ r.mutants, m.verdict.status ≠ .invalid) ∧
      (s.baseline.status = .invalid ∧ s.mutants.length = 2 ∧
        ∀ m ∈ s.mutants, m.verdict.status = .invalid) ∧
      (Summary.ofResults [r, s]).invalid = 0 := by
  have hoperators : ∀ op ∈ doubleSumCampaign.operators, op ∈ MutationOperator.all := by
    intro op hop
    simp only [doubleSumCampaign, List.mem_cons, List.not_mem_nil, or_false, or_self] at hop
    rw [hop]
    exact List.mem_map_of_mem (by simp [MutatorKind.standard])
  obtain ⟨store, hstore⟩ := exists_compileAll (show doubleSum.Accepted by decide) 0 .empty
  have hresults : doubleSumCampaign.scratchResults none doubleSum =
      [doubleSumCampaign.scratchResult none doubleSum ⟨"test_sum", 0, 0⟩,
        doubleSumCampaign.scratchResult none doubleSum ⟨"test_sum_of", 0, 1⟩] := rfl
  have hrun : (perform doubleSumCampaign.results ⟨doubleSum, store, none, ()⟩).1 =
      .ok [doubleSumCampaign.scratchResult none doubleSum ⟨"test_sum", 0, 0⟩,
        doubleSumCampaign.scratchResult none doubleSum ⟨"test_sum_of", 0, 1⟩] := by
    rw [results_eq_ok_iff rfl (compileAll_fresh hstore)]
    exact ⟨fun _ _ d hd => absurd hd (Option.not_mem_none d), hresults.symm⟩
  obtain ⟨-, hvalid, -⟩ := standard_mutants_valid doubleSumCampaign.operators hoperators doubleSum
    .empty
  obtain ⟨halike, hcount⟩ := hvalid _ _ none store _ hstore hrun
  have hfirst : (doubleSumCampaign.scratchResult none doubleSum
      ⟨"test_sum", 0, 0⟩).baseline.status ≠ .invalid := by
    rw [baseline_scratchResult, ne_eq, Program.freshStatus_eq_invalid_iff, not_not]
    have hmem : doubleSum.modules[0].functions[0] ∈ doubleSum.functions := List.mem_cons_self
    exact ⟨by decide, by decide, _, hmem, rfl, rfl⟩
  have hsecond : (doubleSumCampaign.scratchResult none doubleSum
      ⟨"test_sum_of", 0, 1⟩).baseline.status = .invalid := by
    rw [baseline_scratchResult, Program.freshStatus_eq_invalid_iff]
    rintro ⟨-, -, hcallable⟩
    revert hcallable
    decide
  refine ⟨store, _, _, hstore, hrun, ⟨hfirst, rfl, fun m hm hinvalid => hfirst ?_⟩,
    ⟨hsecond, rfl, fun m hm => ?_⟩, hcount⟩
  · exact (halike _ List.mem_cons_self m hm).mp hinvalid
  · exact (halike _ (List.mem_cons_of_mem _ List.mem_cons_self) m hm).mpr hsecond

end Campaign

end MutationTesting

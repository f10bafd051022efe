import MutationTesting.Proofs.Campaign.Scratch
import MutationTesting.Proofs.Relevance.Detector

/-!
Outcomes of campaigns. On every exit from every loop the program is the one at the start, and so are
the modules of the store and their digests; a store that was made from the program does not change
at all, and the detector answers as it did. So the results are those of a campaign from scratch.
-/

namespace MutationTesting.Campaign

open Work

/-- The points that a campaign may come to. -/
def Finds {σ : Type} (c : Campaign σ) (program : Program) (p : MutationPoint) : Prop :=
  ∃ test ∈ c.finder.tests program, ∃ testee ∈ c.finder.testees program test,
    p ∈ testee.points program c.operators

variable {c : Campaign Unit} {start : Workbench Unit}

/-- What a campaign keeps. -/
structure Kept (c : Campaign Unit) (start bench : Workbench Unit) : Prop where
  program : bench.program = start.program
  digests : bench.artifacts.digests = start.artifacts.digests
  fresh : start.artifacts.Fresh start.program → bench.artifacts = start.artifacts
  detector : Option.Rel (JunkDetector.Agrees c.files) start.detector bench.detector

/-- Why a campaign may fail: the detector fails at a point, a module does not compile, or the store
holds no artifact like that of a module. -/
inductive Excuse (c : Campaign Unit) (start : Workbench Unit) : Failure → Prop
  | junk {d : JunkDetector} {p : MutationPoint} {cause : Failure}
      (hdetector : start.detector = some d) (hpoint : c.Finds start.program p)
      (hjunk : (d.isJunk c.files p).1 = .error cause) : Excuse c start cause
  | refused {id : Nat} {m : Module} {cause : Failure} (hm : start.program.module? id = some m)
      (hcompile : m.compile = .error cause) : Excuse c start cause
  | mismatch {p : MutationPoint} {m : Module} {a : Artifact} (hpoint : c.Finds start.program p)
      (hm : start.program.module? p.address.module = some m) (hcompile : m.compile = .ok a)
      (hdigest : (p.address.module, a.digest) ∉ start.artifacts.digests) :
      Excuse c start (.revertMismatch m.name p.id)

theorem Kept.refl (c : Campaign Unit) (start : Workbench Unit) : Kept c start start where
  program := rfl
  digests := rfl
  fresh := fun _ => rfl
  detector := by
    cases start.detector with
    | none => exact .none
    | some d => exact .some (JunkDetector.Agrees.refl d)

/-- A restored artifact takes the place of one with its digest, and of itself in a fresh store. -/
theorem Kept.restore {bench : Workbench Unit} (h : Kept c start bench) {id : Nat} {m : Module}
    {restored : Artifact} (hm : start.program.module? id = some m)
    (hcompile : m.compile = .ok restored)
    (hdigest : (bench.artifacts.get? id).any (·.digest == restored.digest) = true) :
    Kept c start { bench with artifacts := bench.artifacts.insert id restored } where
  program := h.program
  digests := by
    obtain ⟨a, ha, heq⟩ := (Option.any_eq_true _ _).mp hdigest
    exact (ArtifactStore.digests_insert ha (beq_iff_eq.mp heq)).trans h.digests
  fresh := by
    intro hfresh
    obtain ⟨a, ha, hget⟩ := hfresh.get? hm
    rw [hcompile, Except.ok.injEq] at ha
    rw [← h.fresh hfresh, ← ha] at hget
    exact (ArtifactStore.insert_self hget).trans (h.fresh hfresh)
  detector := h.detector

theorem isJunk_keeps {p : MutationPoint} (hpoint : c.Finds start.program p) :
    Keeps (Kept c start) (Excuse c start)
      (fun junk => passes c.files start.detector p = (!junk) ∧ Answered c.files start.detector p)
      (c.isJunk p) := by
  intro bench hbench
  have hrel := hbench.detector
  rw [isJunk, perform_get_bind]
  cases hstart : start.detector with
  | none =>
      cases hd : bench.detector with
      | none => exact ⟨hbench, rfl, fun d hd => by cases hd⟩
      | some e =>
          rw [hstart, hd] at hrel
          cases hrel
  | some d =>
      cases hd : bench.detector with
      | none =>
          rw [hstart, hd] at hrel
          cases hrel
      | some e =>
          rw [hstart, hd] at hrel
          cases hrel with
          | some hagrees =>
              have hanswer := hagrees.isJunk p
              have hnext := hagrees.trans (e.agrees_isJunk c.files p)
              cases hrun : e.isJunk c.files p with
              | mk answer e' =>
                  rw [hrun] at hanswer hnext
                  have hkept : Kept c start { bench with detector := some e' } :=
                    { hbench with detector := by rw [hstart]; exact .some hnext }
                  simp only [hrun]
                  cases answer with
                  | ok junk =>
                      refine ⟨hkept, ?_, fun d' hd' => ?_⟩
                      · show ((d.isJunk c.files p).1.toOption != some true) = !junk
                        rw [← hanswer]
                        cases junk <;> rfl
                      · cases hd'
                        exact ⟨junk, hanswer.symm⟩
                  | error cause => exact ⟨hkept, .junk hstart hpoint hanswer.symm⟩

theorem mutantResult_keeps (hc : c.compiler = .standard) {p : MutationPoint}
    (hpoint : c.Finds start.program p) (test : Test) (others : List Artifact) :
    Keeps (Kept c start) (Excuse c start)
      (fun r => r = ⟨.untimed (mutantStatus start.program test others c.fuel p), p⟩)
      (c.mutantResult test others p) := by
  intro bench hbench
  have hfound := hpoint
  obtain ⟨_, -, _, -, hp⟩ := hfound
  obtain ⟨m, hfits, -⟩ := Testee.fits_of_mem hp
  rw [← hbench.program] at hfits
  have hm : start.program.module? p.address.module = some m := hbench.program ▸ hfits.module
  rw [perform_mutantResult hc hfits]
  cases hcompile : m.compile with
  | error cause => exact ⟨hbench, .refused hm hcompile⟩
  | ok restored =>
      simp only
      by_cases hdigest :
          (bench.artifacts.get? p.address.module).any (·.digest == restored.digest) = true
      · rw [if_pos hdigest]
        exact ⟨hbench.restore hm hcompile hdigest, by rw [hbench.program]⟩
      · rw [if_neg hdigest]
        refine ⟨hbench, .mismatch hpoint hm hcompile ?_⟩
        rwa [← hbench.digests, ← ArtifactStore.digest_eq_iff]

theorem pointResults_keeps (hc : c.compiler = .standard) (test : Test) (others : List Artifact)
    (points : List MutationPoint) (hpoints : ∀ p ∈ points, c.Finds start.program p) :
    Keeps (Kept c start) (Excuse c start)
      (fun results =>
        (results = (points.filter (passes c.files start.detector)).map
          fun p => ⟨.untimed (mutantStatus start.program test others c.fuel p), p⟩) ∧
        ∀ p ∈ points, Answered c.files start.detector p)
      (c.pointResults test others points) := by
  induction points with
  | nil => exact Keeps.pure ⟨rfl, fun p hp => absurd hp List.not_mem_nil⟩
  | cons p rest ih =>
      have hrest := ih fun q hq => hpoints q (List.mem_cons_of_mem p hq)
      have hp := hpoints p List.mem_cons_self
      rw [pointResults]
      refine Keeps.bind (isJunk_keeps hp) fun junk ⟨hjunk, hanswered⟩ => ?_
      rw [List.forall_mem_cons]
      cases junk with
      | true =>
          rw [List.filter_cons_of_neg (by rw [hjunk]; exact Bool.false_ne_true)]
          exact Keeps.weaken hrest fun rs hrs => ⟨hrs.1, hanswered, hrs.2⟩
      | false =>
          rw [List.filter_cons_of_pos hjunk, List.map_cons]
          refine Keeps.bind (mutantResult_keeps hc hp test others) fun r hr => ?_
          refine Keeps.bind hrest fun rs hrs => ?_
          exact Keeps.pure ⟨by rw [hr, hrs.1], hanswered, hrs.2⟩

theorem testeeResults_keeps (hc : c.compiler = .standard) {test : Test} {testee : Testee}
    (htest : test ∈ c.finder.tests start.program)
    (htestee : testee ∈ c.finder.testees start.program test) :
    Keeps (Kept c start) (Excuse c start)
      (fun results => (start.artifacts.Fresh start.program →
          results = c.scratchMutants start.detector start.program test testee) ∧
        ∀ p ∈ testee.points start.program c.operators, Answered c.files start.detector p)
      (c.testeeResults test testee) := by
  rw [testeeResults]
  refine Keeps.get_bind fun bench hbench => ?_
  rw [hbench.program]
  have hpoints : ∀ p ∈ testee.points start.program c.operators, c.Finds start.program p :=
    fun p hp => ⟨test, htest, testee, htestee, hp⟩
  refine Keeps.weaken (pointResults_keeps hc test _ _ hpoints) fun results hresults => ?_
  refine ⟨fun hfresh => ?_, hresults.2⟩
  rw [hresults.1, hbench.fresh hfresh, scratchMutants, ← Testee.points_eq]
  refine List.map_congr_left fun p hp => ?_
  obtain ⟨m, hfits, hmodule⟩ := Testee.fits_of_mem (List.mem_of_mem_filter hp)
  rw [scratchMutant, ← hmodule, hfresh.mutantStatus hfits.module]

theorem testResult_keeps (hc : c.compiler = .standard) {test : Test}
    (htest : test ∈ c.finder.tests start.program) :
    Keeps (Kept c start) (Excuse c start)
      (fun result => (start.artifacts.Fresh start.program →
          result = c.scratchResult start.detector start.program test) ∧
        ∀ testee ∈ c.finder.testees start.program test,
          ∀ p ∈ testee.points start.program c.operators, Answered c.files start.detector p)
      (c.testResult test) := by
  rw [testResult]
  refine Keeps.get_bind fun bench hbench => ?_
  rw [hbench.program]
  refine Keeps.bind (Keeps.mapM fun testee htestee => testeeResults_keeps hc htest htestee)
    fun mutants hmutants => ?_
  refine Keeps.pure ⟨fun hfresh => ?_, hmutants.2⟩
  rw [hmutants.1 hfresh, hbench.fresh hfresh, hfresh.baseline, scratchResult, List.flatMap_def]

theorem results_keeps (hc : c.compiler = .standard) :
    Keeps (Kept c start) (Excuse c start)
      (fun results => (start.artifacts.Fresh start.program →
          results = c.scratchResults start.detector start.program) ∧
        ∀ p, c.Finds start.program p → Answered c.files start.detector p)
      c.results := by
  rw [results]
  refine Keeps.get_bind fun bench hbench => ?_
  rw [hbench.program]
  refine Keeps.weaken (Keeps.mapM fun test htest => testResult_keeps hc htest)
    fun results hresults => ⟨fun hfresh => ?_, ?_⟩
  · rw [hresults.1 hfresh, scratchResults, Finder.tests_eq]
  · rintro p ⟨test, htest, testee, htestee, hp⟩
    exact hresults.2 test htest testee htestee p hp

/-- What every exit of a campaign has in common. -/
theorem results_exit (hc : c.compiler = .standard) (start : Workbench Unit) :
    Kept c start (perform c.results start).2 ∧
      (∀ results, (perform c.results start).1 = .ok results →
        start.artifacts.Fresh start.program →
          results = c.scratchResults start.detector start.program) ∧
      ∀ cause, (perform c.results start).1 = .error cause → Excuse c start cause := by
  obtain ⟨hkept, hout⟩ := results_keeps hc start (Kept.refl c start)
  refine ⟨hkept, fun results hresults => ?_, fun cause hcause => ?_⟩
  · rw [hresults] at hout
    exact hout.1
  · rw [hcause] at hout
    exact hout

/-- A campaign that returns has had an answer at every point. -/
theorem results_answered (hc : c.compiler = .standard) {start : Workbench Unit}
    {results : List TestResult} (h : (perform c.results start).1 = .ok results)
    {p : MutationPoint} (hp : c.Finds start.program p) : Answered c.files start.detector p := by
  obtain ⟨-, hout⟩ := results_keeps hc start (Kept.refl c start)
  rw [h] at hout
  exact hout.2 p hp

/-! ### Causes of failure -/

theorem Excuse.cases_cause {cause : Failure} (h : Excuse c start cause) :
    (∃ path reason, cause = .source path reason) ∨ (∃ name v, cause = .compile name v) ∨
      ∃ p m a, cause = .revertMismatch m.name p.id ∧ c.Finds start.program p ∧
        start.program.module? p.address.module = some m ∧ m.compile = .ok a ∧
        (p.address.module, a.digest) ∉ start.artifacts.digests := by
  cases h with
  | junk _ _ hjunk => exact Or.inl (JunkDetector.isJunk_error hjunk)
  | refused _ hcompile =>
      obtain ⟨v, hv⟩ := Module.compile_error hcompile
      exact Or.inr (Or.inl ⟨_, v, hv⟩)
  | mismatch hpoint hm hcompile hdigest =>
      exact Or.inr (Or.inr ⟨_, _, _, rfl, hpoint, hm, hcompile, hdigest⟩)

/-- With the artifacts of the program itself a campaign fails only through its detector. -/
theorem Excuse.of_fresh {cause : Failure} (h : Excuse c start cause)
    (hfresh : start.artifacts.Fresh start.program) :
    ∃ d p, start.detector = some d ∧ c.Finds start.program p ∧
      (d.isJunk c.files p).1 = .error cause := by
  cases h with
  | junk hdetector hpoint hjunk => exact ⟨_, _, hdetector, hpoint, hjunk⟩
  | refused hm hcompile =>
      obtain ⟨a, ha, -⟩ := hfresh.get? hm
      rw [hcompile] at ha
      cases ha
  | mismatch hpoint hm hcompile hdigest =>
      obtain ⟨a, ha, hget⟩ := hfresh.get? hm
      rw [hcompile, Except.ok.injEq] at ha
      rw [← ArtifactStore.digest_eq_iff, hget, ha] at hdigest
      exact absurd (beq_self_eq_true a.digest) hdigest

/-- **Every exit restores the program.** Whatever store a campaign is given, it leaves the program
and the digests of the store as they were, whether it returns or fails. Its points are never out of
turn or stale, and a mismatch after a revert is reported only for a point whose module, compiled,
has a digest that the store does not hold for it; not, therefore, if the store is made from the
program. -/
theorem results_restore (finder : Finder) (operators : List MutationOperator) (files : Files)
    (fuel : Nat) (program : Program) (store : ArtifactStore) (detector : Option JunkDetector) :
    let c : Campaign Unit := ⟨.standard, finder, operators, files, fuel⟩
    let exit := perform c.results ⟨program, store, detector, ()⟩
    exit.2.program = program ∧ exit.2.artifacts.digests = store.digests ∧
      ∀ cause, exit.1 = .error cause →
        (∀ id, cause ≠ .alreadyApplied id ∧ cause ≠ .notApplied id ∧ cause ≠ .stalePoint id) ∧
        ∀ name id, cause = .revertMismatch name id →
          (∃ p m a, c.Finds program p ∧ id = p.id ∧ name = m.name ∧
            program.module? p.address.module = some m ∧ m.compile = .ok a ∧
            (p.address.module, a.digest) ∉ store.digests) ∧
          compileAll .standard 0 program.modules .empty () ≠ .ok (store, ()) := by
  intro c exit
  obtain ⟨hkept, -, hexcuse⟩ := results_exit (c := c) rfl ⟨program, store, detector, ()⟩
  refine ⟨hkept.program, hkept.digests, fun cause hcause =>
    ⟨fun id => ?_, fun name id hmismatch => ⟨?_, fun hstore => ?_⟩⟩⟩
  · rcases (hexcuse cause hcause).cases_cause with ⟨_, _, rfl⟩ | ⟨_, _, rfl⟩ | ⟨_, _, _, rfl, _⟩
    all_goals exact ⟨nofun, nofun, nofun⟩
  · rcases (hexcuse cause hcause).cases_cause with
      ⟨_, _, rfl⟩ | ⟨_, _, rfl⟩ | ⟨p, m, a, rfl, hp, hm, ha, hdigest⟩
    · cases hmismatch
    · cases hmismatch
    · cases hmismatch
      exact ⟨p, m, a, hp, rfl, rfl, hm, ha, hdigest⟩
  · obtain ⟨d, p, -, -, hjunk⟩ := (hexcuse cause hcause).of_fresh (compileAll_fresh hstore)
    obtain ⟨path, reason, hsource⟩ := JunkDetector.isJunk_error hjunk
    rw [hmismatch] at hsource
    cases hsource

/-- A test of one function in another module. -/
def sum : Program :=
  ⟨[⟨"tests", none, [⟨"test_sum", 0, [⟨.call (some 0) "sum" [.imm 2, .imm 3], none⟩,
      ⟨.compare 1 .eq (.reg 0) (.imm 5), none⟩, ⟨.ret (some (.reg 1)), none⟩]⟩]⟩,
    ⟨"library", none, [⟨"sum", 2, [⟨.binary 0 .add (.arg 0) (.arg 1), none⟩,
      ⟨.ret (some (.reg 0)), none⟩]⟩]⟩]⟩

/-- A campaign on it with one operator, which finds the one addition. -/
def sumCampaign : Campaign Unit :=
  ⟨.standard, ⟨(· == "test_sum"), 1, Nat.one_pos⟩, [.ofKind .mathAdd], .empty, 100⟩

/-- A store that lacks the artifact of the mutated module. -/
example : perform sumCampaign.results ⟨sum, .empty, none, ()⟩ =
    (.error (.revertMismatch "library" "1:sum:0:math_add"), ⟨sum, .empty, none, ()⟩) := by
  rfl

/-! ### Results -/

/-- What settings make of a program before a campaign begins. -/
theorem prepare_ok {settings : Settings} {extra : List MutationOperator} {files : Files}
    {program : Program} {bench : Workbench Unit}
    (h : prepare settings extra .standard () files program = .ok (c, bench)) :
    ∃ store finder operators,
      compileAll .standard 0 program.modules .empty () = .ok (store, ()) ∧
      settings.framework.finder settings.maxDistance.toNat = .ok finder ∧
      MutationOperator.select settings.mutators = .ok operators ∧
      c = ⟨.standard, finder, operators ++ extra, files, settings.fuel.toNat⟩ ∧
      bench = ⟨program, store,
        if settings.junk.enabled then some (.ofSettings files settings.junk) else none, ()⟩ := by
  rw [prepare] at h
  obtain ⟨⟨store, _⟩, hstore, h⟩ := bind_ok h
  obtain ⟨operators, hoperators, h⟩ := bind_ok h
  obtain ⟨finder, hfinder, h⟩ := bind_ok h
  cases h
  exact ⟨store, finder, operators, hstore, hfinder, hoperators, rfl, rfl⟩

/-- **In place as from scratch.** A campaign that begins with the artifacts of its program has, if
it returns, the results from scratch, and it fails only where its detector fails. This is so with
any finder and operators, and with those that settings select. -/
theorem results_eq_scratch (files : Files) (program : Program) :
    (∀ (finder : Finder) (operators : List MutationOperator) (fuel : Nat)
      (detector : Option JunkDetector) (store : ArtifactStore),
      compileAll .standard 0 program.modules .empty () = .ok (store, ()) →
        let c : Campaign Unit := ⟨.standard, finder, operators, files, fuel⟩
        let exit := perform c.results ⟨program, store, detector, ()⟩
        (∀ results, exit.1 = .ok results → results = c.scratchResults detector program) ∧
          ∀ cause, exit.1 = .error cause →
            ∃ d p, detector = some d ∧ c.Finds program p ∧ (d.isJunk files p).1 = .error cause) ∧
    ∀ (settings : Settings) (results : List TestResult),
      (execute settings .standard () files program).1 = .ok results →
        ∃ finder operators,
          settings.framework.finder settings.maxDistance.toNat = .ok finder ∧
          MutationOperator.select settings.mutators = .ok operators ∧
          results = scratchResults
            (⟨.standard, finder, operators, files, settings.fuel.toNat⟩ : Campaign Unit)
            (if settings.junk.enabled then some (.ofSettings files settings.junk) else none)
            program := by
  constructor
  · intro finder operators fuel detector store hstore c exit
    have hfresh := compileAll_fresh hstore
    obtain ⟨-, hresults, hexcuse⟩ := results_exit (c := c) rfl ⟨program, store, detector, ()⟩
    exact ⟨fun results hok => hresults results hok hfresh,
      fun cause hcause => (hexcuse cause hcause).of_fresh hfresh⟩
  · intro settings results h
    rw [execute] at h
    cases hprepare : prepare settings [] .standard () files program with
    | error cause =>
        rw [hprepare] at h
        cases h
    | ok prepared =>
        obtain ⟨c, bench⟩ := prepared
        rw [hprepare] at h
        obtain ⟨store, finder, operators, hstore, hfinder, hoperators, rfl, rfl⟩ :=
          prepare_ok hprepare
        rw [List.append_nil] at h
        obtain ⟨-, hresults, -⟩ := results_exit
          (c := ⟨.standard, finder, operators, files, settings.fuel.toNat⟩) rfl
          ⟨program, store,
            if settings.junk.enabled then some (.ofSettings files settings.junk) else none, ()⟩
        exact ⟨finder, operators, hfinder, hoperators, hresults results h (compileAll_fresh hstore)⟩

/-- Without a detector the campaign on the sum returns, with one mutant. -/
theorem sum_results_eq_scratch :
    ∃ store results, compileAll .standard 0 sum.modules .empty () = .ok (store, ()) ∧
      (perform sumCampaign.results ⟨sum, store, none, ()⟩).1 = .ok results ∧
      results = sumCampaign.scratchResults none sum ∧
      results.map (fun r => r.mutants.map (·.point.id)) = [["1:sum:0:math_add"]] := by
  have htests := Module.compile_of_violation?_none (m := sum.modules[0]) (by decide)
  have hlibrary := Module.compile_of_violation?_none (m := sum.modules[1]) (by decide)
  have hstore : compileAll .standard 0 sum.modules .empty () =
      .ok ((ArtifactStore.empty.insert 0 (.ofImage (.ofModule sum.modules[0]))).insert 1
        (.ofImage (.ofModule sum.modules[1])), ()) := by
    show compileAll .standard 0 [sum.modules[0], sum.modules[1]] .empty () = _
    simp only [compileAll, Compiler.standard, htests, hlibrary]
  obtain ⟨hresults, hcause⟩ := (results_eq_scratch .empty sum).1 sumCampaign.finder
    sumCampaign.operators sumCampaign.fuel none _ hstore
  cases hrun : (perform sumCampaign.results ⟨sum, _, none, ()⟩).1 with
  | error cause =>
      obtain ⟨d, -, hd, -⟩ := hcause cause hrun
      cases hd
  | ok results =>
      refine ⟨_, results, hstore, hrun, hresults results hrun, ?_⟩
      rw [hresults results hrun]
      rfl

end MutationTesting.Campaign

import Mathlib.Logic.Relation
import MutationTesting.Proofs.Discovery.Layers
import MutationTesting.Proofs.Discovery.Sites
import MutationTesting.Proofs.Execution.Build

/-!
What a test can reach. A run executes only functions to which calls lead from the test, as the names
in the bodies are resolved in the program, for linking resolves them in the same way. The testees
are all of these functions, if none of them is a test and the distance does not leave any out. So a
change of any other function cannot show in the test.
-/

namespace MutationTesting

open Relation (ReflTransGen)

namespace Finder

variable {finder : Finder} {program : Program} {test : Test}

theorem function?_of_mem_tests (h : test ∈ finder.tests program) :
    ∃ f, program.function? test.module test.function = some f ∧ f.name = test.name := by
  rw [tests_eq, testsBySite] at h
  obtain ⟨⟨m, id⟩, hm, h⟩ := List.mem_flatMap.mp h
  obtain ⟨⟨f, index⟩, hf, h⟩ := List.mem_filterMap.mp h
  rw [testAt?] at h
  split at h
  · cases h
    exact ⟨f, (program.function?_eq_some_iff id index f).mpr
      ⟨m, List.mem_zipIdx_iff_getElem?.mp hm, List.mem_zipIdx_iff_getElem?.mp hf⟩, rfl⟩
  · cases h

/-- The functions to which calls lead from a test, if none of them is another test. -/
theorem mem_testees_of_calls (hdefined : test.site ∈ program.sites)
    (hdistance : program.functions.length ≤ finder.maxDistance)
    (htests : ∀ site f, ReflTransGen program.Calls test.site site →
      program.function? site.1 site.2 = some f → finder.isTest f.name = true → site = test.site)
    {site : Nat × Nat} (h : ReflTransGen program.Calls test.site site) :
    site = test.site ∨ site ∈ (finder.testees program test).map Testee.site := by
  induction h with
  | refl => exact Or.inl rfl
  | tail hreach hcall ih =>
      obtain ⟨name, hname, hsite⟩ := id hcall
      obtain ⟨f, hf, rfl⟩ := Program.definition?_eq_some hsite
      by_cases htest : finder.isTest f.name = true
      · exact Or.inl (htests _ f (hreach.tail hcall) hf htest)
      · exact testees_closed hdefined hdistance ih
          ⟨f.name, hname, Bool.not_eq_true _ ▸ htest, hsite⟩

end Finder

namespace Machine

variable {program : Program} {exe : Executable} {root : Nat × Nat}

/-- A call of a function to which calls lead from `root`. -/
def Frame.Within (program : Program) (root : Nat × Nat) (frame : Frame) : Prop :=
  ∃ site f, ReflTransGen program.Calls root site ∧
    program.function? site.1 site.2 = some f ∧ f.name = frame.function

/-- All active calls are of such functions. -/
def State.Within (program : Program) (root : Nat × Nat) : State → Prop
  | .running frame callers =>
    frame.Within program root ∧ ∀ caller ∈ callers, caller.frame.Within program root
  | .halted _ => True

theorem State.Within.ofReturn {callers : List Pending} (value : Int64)
    (h : ∀ caller ∈ callers, caller.frame.Within program root) :
    (State.ofReturn value callers).Within program root := by
  cases callers with
  | nil => trivial
  | cons caller callers =>
      exact ⟨h caller List.mem_cons_self,
        fun other hother => h other (List.mem_cons_of_mem caller hother)⟩

theorem State.Within.enter (hbuilds : program.Builds exe) {name : String} (args : List Int64)
    {callers : List Pending}
    (hname : ∀ site, program.definition? name = some site → ReflTransGen program.Calls root site)
    (h : ∀ caller ∈ callers, caller.frame.Within program root) :
    (exe.enter name args callers).Within program root := by
  have henters := exe.enters_enter name args callers
  generalize exe.enter name args callers = s at henters ⊢
  cases henters with
  | frame hsymbol hargs hroom =>
      obtain ⟨id, index, f, hdefinition, hf, hfname, -⟩ := hbuilds.definition?_of_symbol? hsymbol
      exact ⟨⟨(id, index), f, hname _ hdefinition, hf, hfname⟩, h⟩
  | argumentCount hsymbol hargs => trivial
  | tooDeep hsymbol hfull => trivial
  | value hsymbol hbuiltin => exact .ofReturn _ h
  | trap hsymbol hbuiltin => trivial

/-- A call in a body leads on from the function of that body. -/
theorem State.Within.step (hbuilds : program.Builds exe) {frame : Frame} {callers : List Pending}
    (h : (State.running frame callers).Within program root) :
    (exe.step frame callers).Within program root := by
  obtain ⟨hframe, hcallers⟩ := h
  obtain ⟨site, f, hreach, hf, hname⟩ := id hframe
  have hsymbol : exe.symbol? frame.function = some (.ofFunction f) :=
    hname ▸ hbuilds.symbol?_of_function? hf
  have hsteps := Executable.steps_step callers hsymbol
  generalize exe.step frame callers = s at hsteps ⊢
  cases hsteps with
  | pastEnd hcode => trivial
  | trap hcode heffect => trivial
  | ret hcode heffect => exact .ofReturn _ hcallers
  | proceed hcode heffect => exact ⟨⟨site, f, hreach, hf, hname⟩, hcallers⟩
  | @call _ _ callee values hcode heffect =>
      obtain ⟨i, hi, rfl⟩ := Function.exists_of_code hcode
      have hacts := i.opcode.acts_effect frame.args frame.registers frame.pc
      rw [heffect] at hacts
      cases hacts with
      | call _ _ operands _ ho =>
          have hcallee : callee ∈ Finder.calleesAt program site := by
            rw [Finder.calleesAt, hf]
            refine List.mem_filterMap.mpr ⟨i, List.mem_of_getElem? hi, ?_⟩
            rw [ho]
            rfl
          refine .enter hbuilds values (fun next hnext => ?_) fun caller hcaller => ?_
          · exact hreach.tail ⟨callee, hcallee, hnext⟩
          · rcases List.mem_cons.mp hcaller with rfl | hcaller
            · exact hframe
            · exact hcallers caller hcaller

/-- A run executes only functions to which calls lead from its own. -/
theorem State.Within.of_reaches (hbuilds : program.Builds exe) {id index : Nat} {f : Function}
    (hf : program.function? id index = some f) {args : List Int64} {n : Nat} {s : State}
    (h : exe.Reaches (exe.start f.name args) n s) : s.Within program (id, index) := by
  refine h.invariant ?_ fun frame callers hs => hs.step hbuilds
  refine .enter hbuilds args (fun site hsite => ?_) fun caller hcaller => ?_
  · have hdefinition := (hbuilds.distinct.definition?_eq_some_iff f.name id index).mpr ⟨f, hf, rfl⟩
    rw [hdefinition, Option.some.injEq] at hsite
    rw [hsite]
  · exact absurd hcaller List.not_mem_nil

end Machine

namespace Finder

/-- A run of a test executes the test and its testees only. -/
theorem executes_testees {finder : Finder} {program : Program} {exe : Executable}
    (hbuilds : program.Builds exe) {test : Test} (htest : test ∈ finder.tests program)
    (hdistance : program.functions.length ≤ finder.maxDistance)
    (htests : ∀ site f, ReflTransGen program.Calls test.site site →
      program.function? site.1 site.2 = some f → finder.isTest f.name = true → site = test.site)
    {n : Nat} {frame : Machine.Frame} {callers : List Machine.Pending}
    (h : exe.Reaches (exe.start test.name []) n (.running frame callers)) :
    ∃ site f, (site = test.site ∨ site ∈ (finder.testees program test).map Testee.site) ∧
      program.function? site.1 site.2 = some f ∧ f.name = frame.function := by
  obtain ⟨t, ht, hname⟩ := function?_of_mem_tests htest
  rw [← hname] at h
  obtain ⟨⟨site, f, hreach, hf, hfname⟩, -⟩ := Machine.State.Within.of_reaches hbuilds ht h
  have hdefined : test.site ∈ program.sites := Program.mem_sites_of_function? ht
  exact ⟨site, f, mem_testees_of_calls hdefined hdistance htests hreach, hf, hfname⟩

/-- **Discovery misses nothing that matters.** Let the modules of a program compile and their
artifacts link, let the finder look as far as there are functions, and let calls lead from a test to
no other test. Then a mutation of a function that is neither the test nor a testee of it, by
whatever operator, does not show: if the mutated module compiles, the test has the same outcome with
its artifact in place of the unmutated one, in whatever order they are linked and with whatever
fuel. -/
theorem executeTest_of_not_testee (finder : Finder) (program : Program)
    (artifacts : List Artifact) (exe : Executable) (hrebuild : program.rebuild = .ok artifacts)
    (hlink : Executable.link artifacts = .ok exe)
    (hdistance : program.functions.length ≤ finder.maxDistance) (test : Test)
    (htest : test ∈ finder.tests program)
    (htests : ∀ site f, ReflTransGen program.Calls test.site site →
      program.function? site.1 site.2 = some f → finder.isTest f.name = true → site = test.site)
    (id function : Nat) (hother : (id, function) ≠ test.site)
    (hmissed : (id, function) ∉ (finder.testees program test).map Testee.site) (m : Module)
    (hm : program.module? id = some m) (op : MutationOperator) (point : MutationPoint)
    (hpoint : point ∈ op.points id m function) (mutant : Artifact)
    (hmutant : (m.setOpcode function point.address.instruction point.mutated).compile = .ok mutant)
    (mutated : List Artifact) (hmutated : mutated.Perm (artifacts.set id mutant)) (fuel : Nat) :
    executeTest test.name mutated fuel = executeTest test.name artifacts fuel := by
  have hbuilds : program.Builds exe := (program.builds_iff exe).mpr ⟨artifacts, hrebuild, hlink⟩
  obtain ⟨g, i, index, hg, -, hpointAt⟩ := MutationOperator.exists_of_mem_points hpoint
  obtain ⟨o, -, rfl⟩ := Option.map_eq_some_iff.mp hpointAt
  have hset := hbuilds.link_set (a := ⟨id, function, index⟩) hrebuild hm hg hmutant
  refine exe.executeTest_setOpcode hlink (Executable.link_perm hmutated.symm hset) ?_
  -- the run never comes to the function that the opcode is in
  refine exe.call_setOpcode fun n _ frame callers h => ?_
  refine exe.step_setOpcode_of_ne callers o fun hfunction => ?_
  obtain ⟨site, f, hsite, hf, hname⟩ := executes_testees hbuilds htest hdistance htests h
  have hgsite : program.function? id function = some g :=
    (program.function?_eq_some_iff id function g).mpr ⟨m, hm, hg⟩
  have hsame := hbuilds.distinct.site_unique hf hgsite (hname.trans hfunction)
  rw [show site = (id, function) from Prod.ext hsame.1 hsame.2] at hsite
  exact (hsite.elim hother hmissed).elim

end Finder

/-- A test, the function that it calls, and one that nothing calls. -/
def sumAndDifference : Program :=
  ⟨[⟨"tests", none, [⟨"test_sum", 0,
      [⟨.call (some 0) "sum" [.imm 2, .imm 3], none⟩, ⟨.compare 1 .eq (.reg 0) (.imm 5), none⟩,
        ⟨.ret (some (.reg 1)), none⟩]⟩]⟩,
    ⟨"library", none,
      [⟨"sum", 2, [⟨.binary 0 .add (.arg 0) (.arg 1), none⟩, ⟨.ret (some (.reg 0)), none⟩]⟩,
        ⟨"difference", 2,
          [⟨.binary 0 .sub (.arg 0) (.arg 1), none⟩, ⟨.ret (some (.reg 0)), none⟩]⟩]⟩]⟩

/-- The difference may be mutated without the test of the sum noticing. -/
theorem sumAndDifference_executeTest :
    ∃ artifacts mutant, sumAndDifference.rebuild = .ok artifacts ∧
      (sumAndDifference.modules[1].setOpcode 1 0 (.binary 0 .add (.arg 0) (.arg 1))).compile =
        .ok mutant ∧
      ∀ fuel, executeTest "test_sum" (artifacts.set 1 mutant) fuel =
        executeTest "test_sum" artifacts fuel := by
  obtain ⟨exe, hbuilds⟩ := sumAndDifference.exists_builds_iff.mpr ⟨by decide, by decide⟩
  obtain ⟨artifacts, hrebuild, hlink⟩ := (sumAndDifference.builds_iff exe).mp hbuilds
  have hmutant := Module.compile_of_violation?_none
    (m := sumAndDifference.modules[1].setOpcode 1 0 (.binary 0 .add (.arg 0) (.arg 1))) (by decide)
  refine ⟨artifacts, _, hrebuild, hmutant, fun fuel => ?_⟩
  refine Finder.executeTest_of_not_testee ⟨(· == "test_sum"), 3, by decide⟩ sumAndDifference
    artifacts exe hrebuild hlink (by decide) ⟨"test_sum", 0, 0⟩ (by decide) ?_ 1 1 (by decide)
    (by decide) sumAndDifference.modules[1] rfl (.ofKind .mathSub)
    ⟨⟨1, 1, 0⟩, .mathSub, "difference", .binary 0 .sub (.arg 0) (.arg 1),
      .binary 0 .add (.arg 0) (.arg 1), none, false⟩ (by decide) _ hmutant _ (.refl _) fuel
  intro site f _ hf htest
  have hname : f.name = "test_sum" := beq_iff_eq.mp htest
  have hsite := hbuilds.distinct.site_unique hf
    (show sumAndDifference.function? 0 0 = some sumAndDifference.modules[0].functions[0] from rfl)
    hname
  exact Prod.ext hsite.1 hsite.2

end MutationTesting

import MutationTesting.Proofs.Campaign.Mutant
import MutationTesting.Proofs.Execution.Verdict
import MutationTesting.Proofs.Object.Store
import MutationTesting.Proofs.Success

/-!
Results from scratch. A campaign could do without stores, detectors that remember, and programs that
change: each mutant would be a copy of the program with one opcode written over, all modules of it
compiled anew and linked in their order. The results of such a campaign are defined here, together
with what ties them to a store of the artifacts of the unmutated program.
-/

namespace MutationTesting

namespace Program

/-- The artifacts of all modules, each compiled anew, in load order. -/
def rebuild (p : Program) : Except Failure (List Artifact) := p.modules.mapM Module.compile

/-- With an opcode written over, it is only its module that compiles to something else. -/
theorem rebuild_setOpcode {p : Program} {artifacts : List Artifact} (h : p.rebuild = .ok artifacts)
    {a : Address} {m : Module} (hm : p.module? a.module = some m) (o : Opcode) :
    (p.setOpcode a o).rebuild =
      (m.setOpcode a.function a.instruction o).compile.map fun mutant =>
        artifacts.set a.module mutant :=
  mapM_modify h hm fun m => m.setOpcode a.function a.instruction o

/-- How a test fares on a program that is compiled as a whole; it is invalid unless every module
compiles. -/
def freshStatus (p : Program) (name : String) (fuel : Nat) : Status :=
  match p.rebuild with
  | .ok artifacts => runTest name artifacts fuel
  | .error _ => .invalid

end Program

/-- A store of the artifacts of all modules of a program. -/
def ArtifactStore.Fresh (s : ArtifactStore) (p : Program) : Prop :=
  ∃ artifacts, p.rebuild = .ok artifacts ∧ s.Lists artifacts

section Fresh

variable {s : ArtifactStore} {program : Program}

theorem ArtifactStore.Fresh.get? (h : s.Fresh program) {id : Nat} {m : Module}
    (hm : program.module? id = some m) : ∃ a, m.compile = .ok a ∧ s.get? id = some a := by
  obtain ⟨artifacts, hrebuild, hlists⟩ := h
  obtain ⟨a, ha, hget⟩ := mapM_ok_getElem? hrebuild hm
  exact ⟨a, ha, (hlists.get? id).trans hget⟩

theorem ArtifactStore.Fresh.baseline (h : s.Fresh program) (name : String) (fuel : Nat) :
    runTest name s.all fuel = program.freshStatus name fuel := by
  obtain ⟨artifacts, hrebuild, hlists⟩ := h
  rw [Program.freshStatus, hrebuild, hlists.all]

/-- Compiling the mutated module alone and linking it last is as good as compiling the mutated
program as a whole. -/
theorem ArtifactStore.Fresh.mutantStatus (h : s.Fresh program) {p : MutationPoint} {m : Module}
    (hm : program.module? p.address.module = some m) (test : Test) (fuel : Nat) :
    mutantStatus program test (s.allExcept p.address.module) fuel p =
      (program.setOpcode p.address p.mutated).freshStatus test.name fuel := by
  obtain ⟨artifacts, hrebuild, hlists⟩ := h
  obtain ⟨a, -, hget⟩ := mapM_ok_getElem? hrebuild hm
  have hlength : p.address.module < artifacts.length := (List.getElem?_eq_some_iff.mp hget).1
  rw [MutationTesting.mutantStatus, Program.module?_setOpcode, if_pos rfl, hm, Option.map_some,
    Program.freshStatus, Program.rebuild_setOpcode hrebuild hm]
  simp only
  cases (m.setOpcode p.address.function p.address.instruction p.mutated).compile with
  | error cause => rfl
  | ok mutant => exact runTest_perm (hlists.perm_set hlength mutant) test.name fuel

end Fresh

namespace Campaign

theorem compileAll_entries {id : Nat} {modules : List Module} {store store' : ArtifactStore}
    (hbelow : ∀ e ∈ store.entries, e.1 < id)
    (h : compileAll .standard id modules store () = .ok (store', ())) :
    ∃ artifacts, modules.mapM Module.compile = .ok artifacts ∧
      store'.entries = store.entries ++ ArtifactStore.numbered id artifacts := by
  induction modules generalizing id store with
  | nil =>
      cases h
      exact ⟨[], rfl, (List.append_nil _).symm⟩
  | cons m rest ih =>
      cases ha : m.compile with
      | error cause =>
          simp only [compileAll, Compiler.standard, ha] at h
          cases h
      | ok a =>
          simp only [compileAll, Compiler.standard, ha] at h
          have hentries : (store.insert id a).entries = store.entries ++ [(id, a)] :=
            ArtifactStore.insertInto_of_lt hbelow
          have hbelow' : ∀ e ∈ (store.insert id a).entries, e.1 < id + 1 := by
            intro e he
            rw [hentries, List.mem_append, List.mem_singleton] at he
            rcases he with he | rfl
            · exact Nat.lt_succ_of_lt (hbelow e he)
            · exact Nat.lt_succ_self id
          obtain ⟨artifacts, hartifacts, hstore⟩ := ih hbelow' h
          refine ⟨a :: artifacts, ?_, ?_⟩
          · rw [List.mapM_cons, ha, hartifacts]
            rfl
          · rw [hstore, hentries, List.append_assoc]
            rfl

/-- The store that a campaign begins with holds the artifacts of all modules. -/
theorem compileAll_fresh {program : Program} {store : ArtifactStore}
    (h : compileAll .standard 0 program.modules .empty () = .ok (store, ())) :
    store.Fresh program := by
  obtain ⟨artifacts, hartifacts, hstore⟩ :=
    compileAll_entries (fun e he => absurd he List.not_mem_nil) h
  exact ⟨artifacts, hartifacts, hstore⟩

variable {σ : Type}

/-- Whether a point is not junk for the detector, if there is one. -/
def passes (files : Files) (detector : Option JunkDetector) (p : MutationPoint) : Bool :=
  detector.all fun d => (d.isJunk files p).1.toOption != some true

/-- The detector, if there is one, does not fail at a point. -/
def Answered (files : Files) (detector : Option JunkDetector) (p : MutationPoint) : Prop :=
  ∀ d ∈ detector, ∃ junk, (d.isJunk files p).1 = .ok junk

/-- The result for one point, from a copy of the program. -/
def scratchMutant (c : Campaign σ) (program : Program) (test : Test) (p : MutationPoint) :
    MutantResult :=
  ⟨.untimed ((program.setOpcode p.address p.mutated).freshStatus test.name c.fuel), p⟩

/-- The results for one function: one for each point that is not junk. -/
def scratchMutants (c : Campaign σ) (detector : Option JunkDetector) (program : Program)
    (test : Test) (testee : Testee) : List MutantResult :=
  ((testee.pointsBySite program c.operators).filter (passes c.files detector)).map
    (c.scratchMutant program test)

def scratchResult (c : Campaign σ) (detector : Option JunkDetector) (program : Program)
    (test : Test) : TestResult :=
  ⟨test, .untimed (program.freshStatus test.name c.fuel),
    (c.finder.testees program test).flatMap (c.scratchMutants detector program test)⟩

/-- The results of a campaign in which nothing is done in place and nothing remembered. -/
def scratchResults (c : Campaign σ) (detector : Option JunkDetector) (program : Program) :
    List TestResult :=
  (c.finder.testsBySite program).map (c.scratchResult detector program)

end Campaign

end MutationTesting

import MutationTesting.Campaign.Loading
import MutationTesting.Campaign.Result
import MutationTesting.Campaign.Settings
import MutationTesting.Object.Store

/-!
Campaigns. A campaign compiles every module once and then goes through the tests: each is run on the
unmutated program and on one mutant after another. Mutants are made in place: a point is applied,
its module compiled and linked to the artifacts of the other modules, and the point reverted; after
that the module has to compile to the object it had before. A step that fails ends the campaign and
leaves the program as it is at that moment, which is part of its outcome.
-/

namespace MutationTesting

/-- What a campaign works on. -/
structure Workbench (σ : Type) where
  program : Program
  artifacts : ArtifactStore
  detector : Option JunkDetector
  compilerState : σ

/-- A step of a campaign. It changes the workbench, and a failure keeps what has been changed so
far. -/
abbrev Work (σ α : Type) := ExceptT Failure (StateM (Workbench σ)) α

/-- What stays the same throughout a campaign. -/
structure Campaign (σ : Type) where
  compiler : Compiler σ
  finder : Finder
  operators : List MutationOperator
  files : Files
  fuel : Nat

namespace Campaign

variable {σ : Type}

/-- Compiles a module; that it does not compile is not yet a failure of the campaign. -/
def compile (c : Campaign σ) (m : Module) : Work σ (Except Failure Artifact) := do
  let bench ← get
  let (compiled, state) := c.compiler.compile m bench.compilerState
  set { bench with compilerState := state }
  return compiled

/-- Changes the program as a point says, and gives the point as it is then. -/
def edit (change : Program → Except Failure (MutationPoint × Program)) : Work σ MutationPoint := do
  let bench ← get
  match change bench.program with
  | .error cause => throw cause
  | .ok (point, program) =>
    set { bench with program := program }
    return point

/-- Whether there is a detector that finds the point to be junk. -/
def isJunk (c : Campaign σ) (point : MutationPoint) : Work σ Bool := do
  let bench ← get
  match bench.detector with
  | none => return false
  | some detector =>
    let (answer, detector) := detector.isJunk c.files point
    set { bench with detector := some detector }
    match answer with
    | .error cause => throw cause
    | .ok junk => return junk

/-- Compiles the module of a point as it stands. -/
def compileModuleOf (c : Campaign σ) (point : MutationPoint) :
    Work σ (Except Failure Artifact) := do
  match (← get).program.module? point.address.module with
  | some m => c.compile m
  | none => return .error (.stalePoint point.id)

/-- Compiles the module of a reverted point anew. It takes the place of the artifact that was there
before, which has to have the same digest. -/
def restore (c : Campaign σ) (point : MutationPoint) : Work σ Unit := do
  let id := point.address.module
  match (← get).program.module? id with
  | none => throw (.stalePoint point.id)
  | some m =>
    match ← c.compile m with
    | .error cause => throw cause
    | .ok restored =>
      if ((← get).artifacts.get? id).any (·.digest == restored.digest) then
        modify fun bench => { bench with artifacts := bench.artifacts.insert id restored }
      else throw (.revertMismatch m.name point.id)

/-- How a test fares on one mutant, linked after the artifacts of the other modules. A mutant that
does not compile is invalid. -/
def mutantResult (c : Campaign σ) (test : Test) (others : List Artifact) (point : MutationPoint) :
    Work σ MutantResult := do
  let point ← edit point.apply
  let compiled ← c.compileModuleOf point
  let status : Status := match compiled with
    | .ok mutant => runTest test.name (others ++ [mutant]) c.fuel
    | .error _ => .invalid
  let point ← edit point.revert
  c.restore point
  return ⟨.untimed status, point⟩

/-- How a test fares on the mutants of the points that are not junk. -/
def pointResults (c : Campaign σ) (test : Test) (others : List Artifact) :
    List MutationPoint → Work σ (List MutantResult)
  | [] => return []
  | point :: rest => do
    if ← c.isJunk point then c.pointResults test others rest
    else
      let result ← c.mutantResult test others point
      return result :: (← c.pointResults test others rest)

/-- How a test fares on the mutants of one function. -/
def testeeResults (c : Campaign σ) (test : Test) (testee : Testee) :
    Work σ (List MutantResult) := do
  let bench ← get
  c.pointResults test (bench.artifacts.allExcept testee.module)
    (testee.points bench.program c.operators)

/-- How a test fares on the unmutated program and on the mutants of the functions that it exercises.
-/
def testResult (c : Campaign σ) (test : Test) : Work σ TestResult := do
  let bench ← get
  let status := runTest test.name bench.artifacts.all c.fuel
  let mutants ← (c.finder.testees bench.program test).mapM (c.testeeResults test)
  return ⟨test, .untimed status, mutants.flatten⟩

/-- The results of every test that there is in the program. -/
def results (c : Campaign σ) : Work σ (List TestResult) := do
  (c.finder.tests (← get).program).mapM c.testResult

/-- The artifacts of modules numbered from `id` on, beside those of `store`. -/
def compileAll (compiler : Compiler σ) :
    Nat → List Module → ArtifactStore → σ → Except Failure (ArtifactStore × σ)
  | _, [], store, state => .ok (store, state)
  | id, m :: rest, store, state =>
    match compiler.compile m state with
    | (.error cause, _) => .error cause
    | (.ok artifact, state) => compileAll compiler (id + 1) rest (store.insert id artifact) state

/-- A campaign by the settings, and its workbench. Operators of `extra` come after those that the
settings name. -/
def prepare (settings : Settings) (extra : List MutationOperator) (compiler : Compiler σ)
    (state : σ) (files : Files) (program : Program) :
    Except Failure (Campaign σ × Workbench σ) := do
  let (artifacts, state) ← compileAll compiler 0 program.modules .empty state
  let operators ← MutationOperator.select settings.mutators
  let finder ← settings.framework.finder settings.maxDistance.toNat
  let detector := if settings.junk.enabled then some (.ofSettings files settings.junk) else none
  return (⟨compiler, finder, operators ++ extra, files, settings.fuel.toNat⟩,
    ⟨program, artifacts, detector, state⟩)

/-- The results of a campaign on a program, and the program as the campaign leaves it. -/
def execute (settings : Settings) (compiler : Compiler σ) (state : σ) (files : Files)
    (program : Program) : Except Failure (List TestResult) × Program :=
  match prepare settings [] compiler state files program with
  | .error cause => (.error cause, program)
  | .ok (campaign, bench) =>
    let (results, bench) := campaign.results.run.run bench
    (results, bench.program)

/-- The results of a campaign on the modules that the settings name. -/
def run (settings : Settings) (compiler : Compiler σ) (state : σ) (files : Files) :
    Except Failure (List TestResult) := do
  settings.validate
  let program ← files.loadProgram settings.modulePaths
  (execute settings compiler state files program).1

end Campaign

end MutationTesting

import MutationTesting.Execution.Evaluation

/-!
Running tests. A test is a linked function without parameters; it passes if it returns something
other than zero. Failure to link is not a failure of the test but of its setting.
-/

namespace MutationTesting

/-- Why a test has no value. -/
inductive ExecutionError where
  | link (cause : LinkError)
  | trap (cause : Trap)
  deriving DecidableEq

namespace ExecutionError

def message : ExecutionError → String
  | .link cause => s!"link error: {cause.message}"
  | .trap cause => s!"trap: {cause.message}"

end ExecutionError

/-- The outcome of a test as far as scoring goes. -/
inductive Status where
  | invalid
  | failed
  | passed
  deriving DecidableEq, Inhabited

namespace Status

def name : Status → String
  | .invalid => "invalid"
  | .failed => "failed"
  | .passed => "passed"

def ofOutcome : Except ExecutionError Int64 → Status
  | .ok value => if value ≠ 0 then .passed else .failed
  | .error (.trap _) => .failed
  | .error (.link _) => .invalid

end Status

/-- Links the artifacts and calls a function of theirs. -/
def callLinked (name : String) (args : List Int64) (artifacts : List Artifact) (fuel : Nat) :
    Except ExecutionError Int64 :=
  match Executable.link artifacts with
  | .error cause => .error (.link cause)
  | .ok p =>
    match p.call name args fuel with
    | .error cause => .error (.trap cause)
    | .ok value => .ok value

/-- Links the artifacts and runs a test of theirs. -/
def executeTest (name : String) (artifacts : List Artifact) (fuel : Nat) :
    Except ExecutionError Int64 :=
  match Executable.link artifacts with
  | .error cause => .error (.link cause)
  | .ok p =>
    match p.symbol? name with
    | none => .error (.link (.testNotLinked name))
    | some s =>
      if s.params = 0 then
        match p.call name [] fuel with
        | .error cause => .error (.trap cause)
        | .ok value => .ok value
      else .error (.link (.testTakesArguments name))

/-- The status of a test on the program that the artifacts make up. -/
def runTest (name : String) (artifacts : List Artifact) (fuel : Nat) : Status :=
  .ofOutcome (executeTest name artifacts fuel)

end MutationTesting

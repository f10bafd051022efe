import MutationTesting.Console
import MutationTesting.Json.Writer
import MutationTesting.Report.Summary

/-!
The report of a campaign as a document: its date, its summary, and every test with its mutants.
-/

namespace MutationTesting

namespace Status

/-- What a test's status says about the mutant it ran on. -/
def mutantName : Status → String
  | .failed => "killed"
  | .passed => "survived"
  | .invalid => "invalid"

end Status

structure MutantEntry where
  id : String
  function : String
  mutator : String
  location : Option String
  status : String
  milliseconds : Nat
  deriving DecidableEq, Inhabited

structure TestEntry where
  name : String
  status : String
  milliseconds : Nat
  scored : Bool
  mutants : List MutantEntry
  deriving DecidableEq, Inhabited

structure Report where
  date : String
  summary : Summary
  tests : List TestEntry
  deriving DecidableEq, Inhabited

namespace MutantEntry

def ofResult (r : MutantResult) : MutantEntry where
  id := r.point.id
  function := r.point.function
  mutator := r.point.kind.name
  location := r.point.location.map (·.text)
  status := r.verdict.status.mutantName
  milliseconds := r.verdict.milliseconds

def json (e : MutantEntry) : Json :=
  .object [("id", .string e.id), ("function", .string e.function), ("mutator", .string e.mutator),
    ("location", .ofOption .string e.location), ("status", .string e.status),
    ("running_time_ms", .ofNat e.milliseconds)]

end MutantEntry

namespace TestEntry

def ofResult (r : TestResult) : TestEntry where
  name := r.test.name
  status := r.baseline.status.name
  milliseconds := r.baseline.milliseconds
  scored := r.isScored
  mutants := r.mutants.map .ofResult

def json (e : TestEntry) : Json :=
  .object [("name", .string e.name), ("status", .string e.status),
    ("running_time_ms", .ofNat e.milliseconds), ("scored", .bool e.scored),
    ("mutants", .ofList MutantEntry.json e.mutants)]

end TestEntry

namespace Report

def ofResults (date : String) (results : List TestResult) : Report :=
  ⟨date, .ofResults results, results.map .ofResult⟩

def json (r : Report) : Json :=
  .object [("date", .string r.date), ("summary", r.summary.json),
    ("tests", .ofList TestEntry.json r.tests)]

/-- The text of the document. -/
def text (r : Report) : String := r.json.indented

/-- Writes the document to a file. -/
def save (r : Report) (path : Path) : Action Unit := do
  Action.change fun files => files.writeText path r.text
  Action.say s!"Report saved to {path.text}"

end Report

end MutationTesting

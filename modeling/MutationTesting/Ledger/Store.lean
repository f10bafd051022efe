import MutationTesting.Console
import MutationTesting.Digest.Sha256
import MutationTesting.Ledger.Schema
import MutationTesting.Report.Document

/-!
The ledger of campaigns: a database file that every campaign adds its results to. Before a campaign
the ledger is made, or an existing one checked for the tables and columns it needs; names count
letter by letter there. Afterwards the results are added as a whole or not at all.
-/

namespace MutationTesting

namespace Ledger

def defaultPath : Path := ⟨"db/mutation.db"⟩

/-- Paths that stand for a database of the moment, which is in no file. -/
def isTransient (path : Path) : Bool := path.text = "" ∨ path.text = ":memory:"

/-- Opens the file of a database and makes an empty one where there is none. The content is `none`
if the file holds something else, which shows only when it is used. -/
def openFile (path : Path) : Action (Option Database) := do
  if isTransient path then return some .empty
  let files := (← get).files
  match files.node path with
  | .ok (.database content) => return some content
  | .ok (.file bytes) => return if bytes.isEmpty then some .empty else none
  | .ok (.directory _) => throw (.database .unusable)
  | .error _ =>
    match files.write path (.file .empty) with
    | .error _ => throw (.database .unusable)
    | .ok files =>
      modify fun console => { console with files := files }
      return some .empty

/-- Keeps the content of a database in its file. -/
def keep (path : Path) (content : Database) : Action Unit := do
  if isTransient path then return
  match (← get).files.write path (.database content) with
  | .error _ => throw (.database .unusable)
  | .ok files => modify fun console => { console with files := files }

/-- The first table or column of the schema that a database lacks. -/
def deficiency? (content : Database) (needed : List Table) : Option DatabaseError :=
  needed.findSome? fun table =>
    match content.tables.find? fun t => t.name == table.name with
    | none => some (.missingTable table.name)
    | some found =>
      (table.columns.find? fun c => found.columns.all fun d => d.name != c.name).map fun c =>
        .missingColumn c.name table.name

/-- The tables of the schema, beside tables of other names. -/
def withSchema (content : Database) : Database :=
  ⟨content.tables ++ schema.filter fun t => (content.table? t.name).isNone⟩

def makeDirectoryOf (path : Path) : Action Unit :=
  match path.parent with
  | none => return
  | some outer => do
    if outer.text = "" ∨ (← get).files.exists outer then return
    Action.change fun files => files.makeDirectories (outer.components.length + 1) outer

/-- Makes a ledger, or checks the one that is there. -/
def check (path : Path) : Action Unit := do
  Action.say "SQLite option: Checking if db exist..."
  let isNew := !(← get).files.exists path
  makeDirectoryOf path
  let content ← openFile path
  if isNew then
    Action.say "SQLite option: New db detected, creating schema..."
    match content with
    | none => throw (.database .unusable)
    | some content => keep path (withSchema content)
  else
    Action.say "SQLite option: Current db exists!"
    Action.say "SQLite option: Checking schema integrity..."
    match content with
    | none => throw (.database .unusable)
    | some content =>
      match deficiency? content schema with
      | some cause => throw (.database cause)
      | none => Action.say "SQLite option: Schema verified successfully."

/-- Identifies the edit that a mutant makes, wherever it makes it. -/
def patchHash (point : MutationPoint) : String :=
  Sha256.digest (point.initial.json.compact ++ point.mutated.json.compact).toUTF8

def optionalText : Option String → Cell
  | none => .null
  | some s => .text s

def runCells (s : Summary) : List (String × Cell) :=
  [("tool_version", .text "mutang 0.1.0"), ("mutation_score", .real (.ofFloat s.score))]

def testCells (run : Nat) (r : TestResult) : List (String × Cell) :=
  [("run_id", .integer run), ("name", .text r.test.name), ("status", .text r.baseline.status.name),
    ("running_time_ms", .integer r.baseline.milliseconds)]

def mutantCells (run test : Nat) (r : MutantResult) : List (String × Cell) :=
  [("run_id", .integer run), ("test_id", .integer test), ("mutation_id", .text r.point.id),
    ("function_name", .text r.point.function), ("operator", .text r.point.kind.name),
    ("location", optionalText (r.point.location.map (·.text))),
    ("patch_hash", .text (patchHash r.point)), ("status", .text r.verdict.status.mutantName),
    ("running_time_ms", .integer r.verdict.milliseconds)]

/-- Adds the mutants of a test. -/
def addMutants (run test : Nat) : List MutantResult → Database → Option Database
  | [], content => some content
  | r :: rest, content => do
    let (content, _) ← content.insert "mutants" (mutantCells run test r)
    addMutants run test rest content

/-- Adds tests with their mutants. -/
def addTests (run : Nat) : List TestResult → Database → Option Database
  | [], content => some content
  | r :: rest, content => do
    let (content, test) ← content.insert "tests" (testCells run r)
    addTests run rest (← addMutants run test r.mutants content)

/-- Adds a campaign and gives the key of its row; `none` if a table refuses a row. -/
def addRun (results : List TestResult) (content : Database) : Option (Database × Nat) := do
  let (content, run) ← content.insert "runs" (runCells (.ofResults results))
  return (← addTests run results content, run)

/-- Adds the results of a campaign to a ledger and gives their number. -/
def store (path : Path) (results : List TestResult) : Action Nat := do
  Action.say s!"SQLite option: Storing current run on {path.text}"
  match (← openFile path).bind (addRun results) with
  | none => throw (.database .unusable)
  | some (content, run) =>
    keep path content
    Action.say s!"SQLite option: Stored run {run}"
    return run

end Ledger

end MutationTesting

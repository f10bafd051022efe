import MutationTesting.Object.Artifact
import Std.Data.HashMap

/-!
Linking. The symbols of all artifacts go into one table, in which a name occurs once. An executable
is the look-up in that table; nothing else of the artifacts matters to a run.
-/

namespace MutationTesting

/-- Why artifacts do not make a program, or a program not a test. -/
inductive LinkError where
  | undecodable (artifact : String) (cause : ShapeError)
  | duplicateSymbol (name artifact : String)
  | testTakesArguments (name : String)
  | testNotLinked (name : String)
  deriving DecidableEq

namespace LinkError

def message : LinkError → String
  | .undecodable artifact cause => s!"can't decode {artifact}: JSON error: {cause.message}"
  | .duplicateSymbol name artifact => s!"duplicate symbol {name} in {artifact}"
  | .testTakesArguments name => s!"test {name} takes arguments"
  | .testNotLinked name => s!"test {name} is not linked"

end LinkError

/-- A linked program, as the symbol that each name stands for. -/
structure Executable where
  symbol? : String → Option Symbol

/-- Symbols by name. -/
abbrev SymbolTable := Std.HashMap String Symbol

namespace SymbolTable

def addSymbols (artifact : String) : SymbolTable → List Symbol → Except LinkError SymbolTable
  | table, [] => .ok table
  | table, s :: rest =>
    if table.contains s.name then .error (.duplicateSymbol s.name artifact)
    else addSymbols artifact (table.insert s.name s) rest

def addArtifacts : SymbolTable → List Artifact → Except LinkError SymbolTable
  | table, [] => .ok table
  | table, a :: rest =>
    match a.image with
    | .error cause => .error (.undecodable a.moduleName cause)
    | .ok image => do addArtifacts (← addSymbols a.moduleName table image.symbols) rest

end SymbolTable

namespace Executable

def link (artifacts : List Artifact) : Except LinkError Executable := do
  let table ← SymbolTable.addArtifacts {} artifacts
  .ok ⟨fun name => table[name]?⟩

end Executable

end MutationTesting

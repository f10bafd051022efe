import MutationTesting.Files.Tree
import MutationTesting.Json.Shape

/-!
What can go wrong outside of a program under test, by cause, and the text that reports it.
-/

namespace MutationTesting

/-- Why a module file cannot be loaded. -/
inductive LoadError where
  | file (cause : FileError)
  | shape (cause : ShapeError)
  deriving DecidableEq

namespace LoadError

def message : LoadError → String
  | .file cause => cause.message
  | .shape cause => cause.message

end LoadError

/-- Why a module is not well formed; a place is a function name and an instruction index. -/
inductive Violation where
  | duplicateFunction (name : String)
  | emptyBody (name : String)
  | badTarget (function : String) (index : Nat) (target : UInt64)
  | badArgument (function : String) (index : Nat) (argument params : UInt32)
  /-- A compiler other than the standard one refused the module. -/
  | refused (reason : String)
  deriving DecidableEq

namespace Violation

def message : Violation → String
  | .duplicateFunction name => s!"duplicate definition of {name}"
  | .emptyBody name => s!"function {name} has no body"
  | .badTarget function index target =>
    s!"{function}:{index} jumps to {target} outside of the function"
  | .badArgument function index argument params =>
    s!"{function}:{index} reads argument {argument} but takes {params}"
  | .refused reason => reason

end Violation

/-- Why a source file has no syntax tree. -/
inductive SourceError where
  | file (cause : FileError)
  | syntaxErrors
  deriving DecidableEq

namespace SourceError

def message : SourceError → String
  | .file cause => cause.message
  | .syntaxErrors => "source contains syntax errors"

end SourceError

/-- Settings and arguments that cannot be used. -/
inductive InputError where
  | noModulePaths
  | zeroDistance
  | zeroLimit
  | noModules
  | unknownMutator (name : String)
  deriving DecidableEq

namespace InputError

def message : InputError → String
  | .noModulePaths => "No module paths configured"
  | .zeroDistance => "max_distance must be at least 1"
  | .zeroLimit => "timeout and fuel must be positive"
  | .noModules => "No modules found in the configured paths"
  | .unknownMutator name => s!"Unknown mutator: {name}"

end InputError

/-- Why a run database cannot be used. The store reports only the missing parts in detail. -/
inductive DatabaseError where
  | missingTable (table : String)
  | missingColumn (column table : String)
  | unusable
  deriving DecidableEq

namespace DatabaseError

def message : DatabaseError → String
  | .missingTable table => s!"Missing table: {table}"
  | .missingColumn column table => s!"Missing column '{column}' in table '{table}'"
  | .unusable => ""

end DatabaseError

/-- Why a settings file cannot be used. -/
inductive SettingsError where
  | reading (path : Path)
  | parsing (path : Path)
  deriving DecidableEq

namespace SettingsError

def message : SettingsError → String
  | .reading path => s!"reading config {path.text}"
  | .parsing path => s!"parsing config {path.text}"

end SettingsError

inductive Failure where
  | file (cause : FileError)
  | json (cause : ShapeError)
  | moduleLoad (path : Path) (cause : LoadError)
  | compile (module : String) (cause : Violation)
  | source (path : Path) (cause : SourceError)
  | input (cause : InputError)
  | alreadyApplied (point : String)
  | notApplied (point : String)
  | stalePoint (point : String)
  | revertMismatch (module point : String)
  | pattern
  | database (cause : DatabaseError)
  | settings (cause : SettingsError)
  deriving DecidableEq

namespace Failure

def message : Failure → String
  | .file cause => s!"IO error: {cause.message}"
  | .json cause => s!"JSON error: {cause.message}"
  | .moduleLoad path cause => s!"Can't load module {path.text}: {cause.message}"
  | .compile module cause => s!"Compilation of module {module} failed: {cause.message}"
  | .source path cause => s!"Can't build AST for {path.text}: {cause.message}"
  | .input cause => s!"Invalid input: {cause.message}"
  | .alreadyApplied point => s!"Mutation point {point} is already applied"
  | .notApplied point => s!"Mutation point {point} is not applied"
  | .stalePoint point => s!"Mutation point {point} does not match the instruction it addresses"
  | .revertMismatch module point =>
    s!"Module {module} does not recompile to its original object after reverting {point}"
  | .pattern => "Regex error"
  | .database cause => s!"SQLite error: {cause.message}"
  | .settings cause => s!"Other error: {cause.message}"

end Failure

end MutationTesting

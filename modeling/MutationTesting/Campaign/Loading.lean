import MutationTesting.Program.Notation
import MutationTesting.Failure

/-!
Finding and loading the modules of a program. A directory stands for the module files at any depth
below it in the order of their paths, any other path for itself.
-/

namespace MutationTesting

namespace Path

/-- Whether a path names a module file. -/
def isModuleFile (p : Path) : Bool := p.fileName.any fun name => name.endsWith ".ir.json"

end Path

namespace Files

/-- The module paths that one path stands for. -/
def modulePathsAt (files : Files) (p : Path) : List Path :=
  if files.isDirectory p then (files.filesBelow p).filter (·.isModuleFile) else [p]

def modulePaths (files : Files) (paths : List Path) : List Path :=
  paths.flatMap files.modulePathsAt

/-- The module in a file. -/
def loadModule (files : Files) (path : Path) : Except Failure Module :=
  match files.readText path with
  | .error cause => .error (.moduleLoad path (.file cause))
  | .ok text =>
    match Module.ofText text with
    | .error cause => .error (.moduleLoad path (.shape cause))
    | .ok m => .ok m

/-- The program that the modules make up in the order of their paths; the first one that cannot be
loaded is fatal, and there has to be one. -/
def loadProgram (files : Files) (paths : List Path) : Except Failure Program := do
  match ← (files.modulePaths paths).mapM files.loadModule with
  | [] => .error (.input .noModules)
  | modules => .ok ⟨modules⟩

end Files

end MutationTesting

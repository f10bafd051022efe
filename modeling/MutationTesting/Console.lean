import MutationTesting.Failure

/-!
Commands as actions on files and a console. An action that fails keeps what it has done to the files
and what it has printed.
-/

namespace MutationTesting

structure Console where
  files : Files
  /-- Everything printed so far. -/
  printed : String
  deriving Inhabited

abbrev Action (α : Type) := ExceptT Failure (StateM Console) α

namespace Action

def say (line : String) : Action Unit :=
  modify fun console => { console with printed := console.printed ++ line ++ "\n" }

def sayAll (lines : List String) : Action Unit := lines.forM say

/-- An action on the files that the operating system may refuse. -/
def change (edit : Files → Except FileError Files) : Action Unit := do
  match edit (← get).files with
  | .error cause => throw (.file cause)
  | .ok files => modify fun console => { console with files := files }

/-- The outcome of an action on the given files, the files it leaves and what it prints. -/
def perform {α : Type} (action : Action α) (files : Files) : Except Failure α × Console :=
  action.run.run ⟨files, ""⟩

end Action

end MutationTesting

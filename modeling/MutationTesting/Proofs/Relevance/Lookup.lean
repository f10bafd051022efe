import Mathlib
import MutationTesting.Proofs.Relevance.Detector

/-!
Where a source file is looked for. The compile command is the first one for the very file, else the
first one for a file of its name, else the flags stand in for it. A file that is not at its own path
is looked for below the directory of the command and then below each include directory. Commands for
other files, wherever they stand, do not matter.
-/

namespace MutationTesting

/-- The first item of a list that has a property. -/
def Earliest {α : Type} (p : α → Prop) (items : List α) (a : α) : Prop :=
  ∃ before after, items = before ++ a :: after ∧ p a ∧ ∀ b ∈ before, ¬ p b

namespace CompilationDatabase

end CompilationDatabase

/-! ### The path -/

namespace SourceArguments

/-- Where an include directory lies: below the directory of the command, if there is one and the
include directory is relative. -/
def place (source : SourceArguments) (included : Path) : Path :=
  match source.directory with
  | some directory => if included.isRelative = true then directory.join included else included
  | none => included

/-- The path that a file is read from. -/
inductive Resolves (files : Files) (source : SourceArguments) (file : String) : Path → Prop
  | own (own : (Path.mk file).isAbsolute = true ∨ files.exists ⟨file⟩ = true) :
      Resolves files source file ⟨file⟩
  | directory {directory : Path}
      (own : ¬ ((Path.mk file).isAbsolute = true ∨ files.exists ⟨file⟩ = true))
      (given : source.directory = some directory)
      (there : files.exists (directory.join ⟨file⟩) = true) :
      Resolves files source file (directory.join ⟨file⟩)
  | included {included : Path}
      (own : ¬ ((Path.mk file).isAbsolute = true ∨ files.exists ⟨file⟩ = true))
      (directory : ∀ directory, source.directory = some directory →
        ¬ files.exists (directory.join ⟨file⟩) = true)
      (first : Earliest (fun included => files.exists ((source.place included).join ⟨file⟩) = true)
        (CompileArguments.includeDirectories source.arguments) included) :
      Resolves files source file ((source.place included).join ⟨file⟩)
  | nowhere (own : ¬ ((Path.mk file).isAbsolute = true ∨ files.exists ⟨file⟩ = true))
      (directory : ∀ directory, source.directory = some directory →
        ¬ files.exists (directory.join ⟨file⟩) = true)
      (included : ∀ included ∈ CompileArguments.includeDirectories source.arguments,
        ¬ files.exists ((source.place included).join ⟨file⟩) = true) :
      Resolves files source file ⟨file⟩

end SourceArguments

/-! ### Looking a file up -/

namespace JunkDetector

/-- What a new detector knows of a file: the file as it is parsed, or why it cannot be. -/
def lookup (database : Option CompilationDatabase) (flags : List String) (files : Files)
    (file : String) : Except Failure SourceUnit :=
  ((⟨database, flags, []⟩ : JunkDetector).unit files file).1

end JunkDetector

end MutationTesting

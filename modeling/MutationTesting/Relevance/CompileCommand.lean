import MutationTesting.Failure
import MutationTesting.Json.Reader
import MutationTesting.Text.Blank

/-!
Compile commands of source files, the databases that hold them, and what their arguments say about
where included files lie.
-/

namespace MutationTesting

/-- How a file is compiled: its arguments, or else a command line that blanks divide into them. -/
structure CompileCommand where
  directory : String
  file : String
  arguments : List String
  command : Option String
  deriving DecidableEq, Inhabited

namespace CompileCommand

def commandLine (c : CompileCommand) : List String :=
  if c.arguments.isEmpty then (c.command.map Text.words).getD [] else c.arguments

/-- The path of the file, below the directory unless it is absolute. -/
def fullPath (c : CompileCommand) : Path := (Path.mk c.directory).join ⟨c.file⟩

structure Parts where
  directory : Option String := none
  file : Option String := none
  arguments : Option (List String) := none
  command : Option (Option String) := none

open Shape in
def fields : List (RecordField Parts) :=
  [requiredField "directory" Parts.directory (fun p x => { p with directory := some x }) string,
   requiredField "file" Parts.file (fun p x => { p with file := some x }) string,
   optionalField "arguments" Parts.arguments (fun p x => { p with arguments := some x })
     (list string),
   optionalField "command" Parts.command (fun p x => { p with command := some x })
     (optional string)]

def shape : Shape CompileCommand := fun v =>
  (Shape.record "struct CompileCommand" fields {} v).map fun p =>
    ⟨p.directory.getD "", p.file.getD "", p.arguments.getD [], p.command.getD none⟩

end CompileCommand

/-- Compile commands in the order of their document. -/
structure CompilationDatabase where
  commands : List CompileCommand
  deriving DecidableEq, Inhabited

namespace CompilationDatabase

def fileName : String := "compile_commands.json"

/-- The database of a directory. -/
def load (files : Files) (directory : Path) : Except Failure CompilationDatabase :=
  match files.readText (directory.join ⟨fileName⟩) with
  | .error cause => .error (.file cause)
  | .ok text =>
    match Shape.document (Shape.list CompileCommand.shape) (Json.read text) with
    | .error cause => .error (.json cause)
    | .ok commands => .ok ⟨commands⟩

/-- Whether a command is for the very file. -/
def isFor (file : String) (c : CompileCommand) : Bool :=
  c.file == file || c.fullPath.same ⟨file⟩

/-- Whether a command is for a file of that name. -/
def isForName (name : String) (c : CompileCommand) : Bool := (Path.mk c.file).fileName == some name

/-- The first command for the file, or else the first one for a file of the same name. -/
def command? (d : CompilationDatabase) (file : String) : Option CompileCommand :=
  match d.commands.find? (isFor file) with
  | some c => some c
  | none =>
    match (Path.mk file).fileName with
    | some name => d.commands.find? (isForName name)
    | none => none

end CompilationDatabase

namespace CompileArguments

/-- Leaves out the file that is compiled, and the words `-c` and `-o` with the one after them. -/
def strip (file : String) : List String → List String
  | [] => []
  | [a] => if a = "-c" ∨ a = "-o" ∨ a = file then [] else [a]
  | a :: b :: rest =>
    if a = "-c" ∨ a = "-o" then strip file rest
    else if a = file then strip file (b :: rest)
    else a :: strip file (b :: rest)

/-- The directory that an argument names together with its option. -/
def attached? (argument : String) : Option String :=
  match argument.toList with
  | '-' :: 'I' :: rest => some (String.ofList rest)
  | _ => none

/-- The directories named by `-I`, in the same argument or in the next. -/
def includeDirectories : List String → List Path
  | [] => []
  | [a] => if a = "-I" then [] else (attached? a).toList.map Path.mk
  | a :: b :: rest =>
    if a = "-I" then ⟨b⟩ :: includeDirectories rest
    else (attached? a).toList.map Path.mk ++ includeDirectories (b :: rest)

end CompileArguments

end MutationTesting

import MutationTesting.Mutation.Point
import MutationTesting.Relevance.CompileCommand
import MutationTesting.Source.Unit

/-!
Which mutation points are junk: those without a place in the source, and those at whose place no
expression stands that the mutated instruction could come from. Each source file is parsed once, and
what it was then counts for as long as the detector lives.
-/

namespace MutationTesting

/-- The arguments a file is compiled with, and the directory they are relative to. -/
structure SourceArguments where
  directory : Option Path
  arguments : List String
  deriving DecidableEq, Inhabited

namespace SourceArguments

/-- The include directories, below the directory of the command unless they are absolute. -/
def includePaths (s : SourceArguments) : List Path :=
  (CompileArguments.includeDirectories s.arguments).map fun included =>
    match s.directory with
    | some base => if included.isRelative then base.join included else included
    | none => included

/-- Where the file may lie apart from its own path. -/
def candidates (s : SourceArguments) (file : String) : List Path :=
  (s.directory.toList ++ s.includePaths).map fun directory => directory.join ⟨file⟩

/-- The path a file is read from: its own if it is absolute or exists, else the first candidate that
exists. -/
def resolve (files : Files) (s : SourceArguments) (file : String) : Path :=
  let path : Path := ⟨file⟩
  if path.isAbsolute || files.exists path then path
  else ((s.candidates file).find? files.exists).getD path

end SourceArguments

/-- What a detector is made from. -/
structure JunkSettings where
  enabled : Bool
  databaseDirectory : Option Path
  flags : Option String
  deriving DecidableEq, Inhabited

/-- A detector with the files it has parsed so far, by the paths they were asked for. -/
structure JunkDetector where
  database : Option CompilationDatabase
  flags : List String
  units : List (String × SourceUnit)
  deriving Inhabited

namespace JunkDetector

/-- A database that cannot be loaded is as good as none. -/
def ofSettings (files : Files) (settings : JunkSettings) : JunkDetector where
  database := settings.databaseDirectory.bind fun directory =>
    (CompilationDatabase.load files directory).toOption
  flags := (settings.flags.map Text.words).getD []
  units := []

def withDatabase (database : CompilationDatabase) (flags : String) : JunkDetector :=
  ⟨some database, Text.words flags, []⟩

/-- The arguments of the compile command of a file, or else the flags. -/
def arguments (d : JunkDetector) (file : String) : SourceArguments :=
  match d.database.bind (·.command? file) with
  | some c => ⟨some ⟨c.directory⟩, CompileArguments.strip c.file c.commandLine⟩
  | none => ⟨none, d.flags⟩

def unit? (d : JunkDetector) (file : String) : Option SourceUnit := d.units.lookup file

/-- Finds and parses a file as if for the first time. -/
def parse (d : JunkDetector) (files : Files) (file : String) : Except Failure SourceUnit :=
  let source := d.arguments file
  SourceUnit.parse files (source.resolve files file) source.arguments

/-- The parsed file, and the detector that knows it. -/
def unit (d : JunkDetector) (files : Files) (file : String) :
    Except Failure SourceUnit × JunkDetector :=
  match d.unit? file with
  | some u => (.ok u, d)
  | none =>
    match d.parse files file with
    | .ok u => (.ok u, { d with units := (file, u) :: d.units })
    | .error e => (.error e, d)

end JunkDetector

namespace SourceUnit

/-- Whether no expression of a category is at a place; a place outside of the text has none. -/
def isJunkAt (u : SourceUnit) (location : SourceLocation) (category : SyntaxCategory) : Bool :=
  match u.offset location.line.toNat location.column.toNat with
  | none => true
  | some offset => (u.smallestEnclosing offset category).isNone

end SourceUnit

namespace JunkDetector

def isJunkAt (d : JunkDetector) (files : Files) (location : SourceLocation)
    (category : SyntaxCategory) : Except Failure Bool × JunkDetector :=
  let (found, d) := d.unit files location.filePath
  (found.map fun u => u.isJunkAt location category, d)

/-- A point whose kind says nothing about the source is not junk. -/
def isJunk (d : JunkDetector) (files : Files) (point : MutationPoint) :
    Except Failure Bool × JunkDetector :=
  match point.location with
  | none => (.ok true, d)
  | some location =>
    match SyntaxCategory.ofKind point.kind with
    | some category => d.isJunkAt files location category
    | none => (.ok false, d)

def cachedUnits (d : JunkDetector) : Nat := d.units.length

end JunkDetector

end MutationTesting

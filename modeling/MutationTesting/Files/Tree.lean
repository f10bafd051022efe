import MutationTesting.Files.Path
import MutationTesting.Ledger.Database

/-!
The files a run sees, as a value: a tree of directories below the working directory. Files hold
bytes or a run database. Looking a path up walks the tree name by name; the ways in which that fails
are the operating system's, with its texts. Absolute paths other than the root itself lead nowhere.
-/

namespace MutationTesting

/-- A file or a directory; the entries of a directory have different names. -/
inductive Node where
  | file (content : ByteArray)
  | database (content : Database)
  | directory (entries : List (String × Node))
  deriving Inhabited

/-- The tree below the working directory. -/
structure Files where
  root : Node
  deriving Inhabited

/-- Why a file cannot be used. -/
inductive FileError where
  | notFound
  | notADirectory
  | isADirectory
  | notText
  | nulInName
  deriving DecidableEq

namespace FileError

def message : FileError → String
  | .notFound => "No such file or directory (os error 2)"
  | .notADirectory => "Not a directory (os error 20)"
  | .isADirectory => "Is a directory (os error 21)"
  | .notText => "stream did not contain valid UTF-8"
  | .nulInName => "file name contained an unexpected NUL byte"

end FileError

namespace Node

def isDirectory : Node → Bool
  | .directory _ => true
  | _ => false

def entries : Node → List (String × Node)
  | .directory entries => entries
  | _ => []

def child (node : Node) (name : String) : Option Node :=
  (node.entries.find? fun entry => entry.1 == name).map (·.2)

/-- Replaces the entry of a name or adds it at the end. -/
def setEntry (entries : List (String × Node)) (name : String) (node : Node) :
    List (String × Node) :=
  match entries with
  | [] => [(name, node)]
  | (n, old) :: rest => if n = name then (n, node) :: rest else (n, old) :: setEntry rest name node

/-- The node at a list of names. -/
def at? : Node → List String → Option Node
  | node, [] => some node
  | node, name :: names =>
    match node.child name with
    | some next => next.at? names
    | none => none

/-- Puts a node at a list of names, making directories on the way. -/
def put (node : Node) (names : List String) (new : Node) : Node :=
  match names with
  | [] => new
  | name :: names =>
    let next := (node.child name).getD (.directory [])
    .directory (setEntry node.entries name (next.put names new))

/-- Takes the node at a list of names out. -/
def remove (node : Node) (names : List String) : Node :=
  match names with
  | [] => node
  | [name] => .directory (node.entries.filter fun entry => entry.1 != name)
  | name :: names =>
    match node.child name with
    | none => node
    | some next => .directory (setEntry node.entries name (next.remove names))

mutual

/-- The files at any depth below a node, each with the names that lead to it. -/
def files : Node → List (List String)
  | .file _ => [[]]
  | .database _ => [[]]
  | .directory entries => filesOfEntries entries

def filesOfEntries : List (String × Node) → List (List String)
  | [] => []
  | (name, node) :: rest => node.files.map (name :: ·) ++ filesOfEntries rest

end

end Node

namespace Files

def empty : Files := ⟨.directory []⟩

/-- The names that lead from the working directory to where the segments go, or why they go nowhere.
`names` is where the walk is, innermost first. -/
def walk (root : Node) : List String → List String → Except FileError (List String)
  | names, [] => .ok names
  | names, segment :: rest =>
    match root.at? names.reverse with
    | none => .error .notFound
    | some node =>
      if segment = "" then
        -- a separator at the end asks for a directory
        if rest.isEmpty ∧ ¬ node.isDirectory then .error .notADirectory else walk root names rest
      else if ¬ node.isDirectory then .error .notADirectory
      else if segment = "." then walk root names rest
      else if segment = ".." then
        match names with
        | [] => .error .notFound
        | _ :: outer => walk root outer rest
      else if (node.child segment).isSome then walk root (segment :: names) rest
      else .error .notFound

/-- Where an existing path leads. -/
def locate (files : Files) (p : Path) : Except FileError (List String) :=
  if p.text.contains '\x00' then .error .nulInName
  else if p.text = "" then .error .notFound
  else if p.isAbsolute then .error .notFound
  else (walk files.root [] p.segments).map List.reverse

def node (files : Files) (p : Path) : Except FileError Node := do
  let names ← files.locate p
  match files.root.at? names with
  | some node => .ok node
  | none => .error .notFound

/-- The root of the file system exists, whatever else does. -/
def isRoot (p : Path) : Bool := p.isAbsolute && p.components.all fun c => c == .root || c == .up

def «exists» (files : Files) (p : Path) : Bool := isRoot p || (files.node p).isOk

def isDirectory (files : Files) (p : Path) : Bool :=
  isRoot p ||
    match files.node p with
    | .ok node => node.isDirectory
    | .error _ => false

def readBytes (files : Files) (p : Path) : Except FileError ByteArray := do
  if isRoot p then .error .isADirectory
  else
    match ← files.node p with
    | .file content => .ok content
    | .database _ => .error .notText
    | .directory _ => .error .isADirectory

/-- The content of a file that is UTF-8. -/
def readText (files : Files) (p : Path) : Except FileError String := do
  match String.fromUTF8? (← files.readBytes p) with
  | some text => .ok text
  | none => .error .notText

/-- The directory that holds the last segment of a path, and that segment. -/
def locateParent (files : Files) (p : Path) : Except FileError (List String × String) :=
  if p.text.contains '\x00' then .error .nulInName
  else if p.text = "" ∨ p.isAbsolute then .error .notFound
  else
    match p.segments.reverse with
    | [] => .error .notFound
    | last :: outer => do
      let names ← walk files.root [] outer.reverse
      match files.root.at? names.reverse with
      | some (.directory _) =>
        if last = "" ∨ last = "." ∨ last = ".." then .error .isADirectory
        else .ok (names.reverse, last)
      | some _ => .error .notADirectory
      | none => .error .notFound

/-- Writes a file, in place of one that is there; its directory has to exist. -/
def write (files : Files) (p : Path) (content : Node) : Except FileError Files := do
  match files.node p with
  | .ok (.directory _) => .error .isADirectory
  | .ok _ =>
    let names ← files.locate p
    .ok ⟨files.root.put names content⟩
  | .error _ =>
    let (names, last) ← files.locateParent p
    .ok ⟨files.root.put (names ++ [last]) content⟩

def writeText (files : Files) (p : Path) (text : String) : Except FileError Files :=
  files.write p (.file text.toUTF8)

/-- Makes one directory. -/
def makeDirectory (files : Files) (p : Path) : Except FileError Files := do
  let trimmed : Path := Path.ofComponents p.components
  let (names, last) ← files.locateParent trimmed
  match files.root.at? (names ++ [last]) with
  | some _ => .error .notADirectory
  | none => .ok ⟨files.root.put (names ++ [last]) (.directory [])⟩

/-- Makes a directory and those it lies in, from the outermost missing one on. -/
def makeDirectories (files : Files) : Nat → Path → Except FileError Files
  | 0, _ => .error .notFound
  | depth + 1, p =>
    if p.text = "" ∨ files.isDirectory p then .ok files
    else
      match files.makeDirectory p with
      | .ok made => .ok made
      | .error .notFound =>
        match p.parent with
        | none => .error .notFound
        | some outer => do
          let made ← makeDirectories files depth outer
          if made.isDirectory p then .ok made else made.makeDirectory p
      | .error e => .error e

/-- The names a path spells, without regard to what exists. -/
def namesOf (p : Path) : List String :=
  p.components.foldl (fun names c =>
    match c with
    | .name s => names ++ [s]
    | .up => names.dropLast
    | _ => names) []

/-- Puts a node at a path, making the directories it lies in. -/
def place (files : Files) (p : Path) (content : Node) : Files :=
  ⟨files.root.put (namesOf p) content⟩

def delete (files : Files) (p : Path) : Files := ⟨files.root.remove (namesOf p)⟩

/-- The files at any depth below a directory, in the order of their paths. -/
def filesBelow (files : Files) (p : Path) : List Path :=
  match files.node p with
  | .ok node =>
    (node.files.map fun names => names.foldl (fun q name => q.join ⟨name⟩) p).mergeSort
      fun a b => !b.before a
  | .error _ => []

end Files

end MutationTesting

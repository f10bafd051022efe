/-!
File paths. A path is its text; two paths are the same place if their components are equal, which
ignores repeated and final separators and every `.` but a leading one, and keeps `..`. Paths are
ordered by components, not by text.
-/

namespace MutationTesting

structure Path where
  text : String
  deriving DecidableEq, Inhabited

/-- A part of a path; `here` occurs only at its front. -/
inductive PathComponent where
  | root
  | here
  | up
  | name (text : String)
  deriving DecidableEq

namespace PathComponent

def rank : PathComponent → Nat
  | .root => 0
  | .here => 1
  | .up => 2
  | .name _ => 3

/-- Kinds come in the order of their constructors, names in the order of their characters. -/
def before : PathComponent → PathComponent → Bool
  | .name a, .name b => a < b
  | a, b => a.rank < b.rank

end PathComponent

namespace Path

def isAbsolute (p : Path) : Bool := p.text.startsWith "/"

def isRelative (p : Path) : Bool := !p.isAbsolute

/-- The pieces between separators. -/
def segments (p : Path) : List String := p.text.splitOn "/"

def components (p : Path) : List PathComponent :=
  let inner := p.segments.filterMap fun s =>
    if s = "" ∨ s = "." then none else if s = ".." then some .up else some (.name s)
  if p.isAbsolute then .root :: inner
  else if p.segments.head? = some "." then .here :: inner
  else inner

/-- Equality of places. -/
def same (p q : Path) : Bool := p.components = q.components

/-- Lexicographic order of component lists. -/
def componentsBefore : List PathComponent → List PathComponent → Bool
  | [], [] => false
  | [], _ :: _ => true
  | _ :: _, [] => false
  | a :: as, b :: bs => if a = b then componentsBefore as bs else a.before b

def before (p q : Path) : Bool := componentsBefore p.components q.components

/-- The other path from here on; an absolute one stands for itself. -/
def join (p q : Path) : Path :=
  if q.isAbsolute then q
  else if p.text = "" ∨ p.text.endsWith "/" then ⟨p.text ++ q.text⟩
  else ⟨p.text ++ "/" ++ q.text⟩

/-- The last component, if it is a name. -/
def fileName (p : Path) : Option String :=
  match p.components.getLast? with
  | some (.name s) => some s
  | _ => none

/-- What follows the last dot of the file name; a leading dot starts no extension. -/
def extension (p : Path) : Option String :=
  match p.fileName with
  | none => none
  | some name =>
    match (name.splitOn ".").reverse with
    | last :: stem => if stem.all (· = "") && stem.length ≤ 1 then none else some last
    | [] => none

def ofComponents (components : List PathComponent) : Path :=
  let names := components.filterMap fun
    | .root => none
    | .here => some "."
    | .up => some ".."
    | .name s => some s
  ⟨(if components.head? = some .root then "/" else "") ++ "/".intercalate names⟩

/-- The path without its last component; a root has no parent, nor has the empty path. -/
def parent (p : Path) : Option Path :=
  match p.components.getLast? with
  | none => none
  | some .root => none
  | some _ => some (ofComponents p.components.dropLast)

end Path

end MutationTesting

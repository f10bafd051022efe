import MutationTesting.Json.Value

/-!
A small relational store: tables of rows with a numeric key each, checked on insertion. Names of
tables and columns are the same if they differ in the case of Latin letters only. A change is made
as a whole: an insertion that a table refuses leaves nothing behind.
-/

namespace MutationTesting

/-- What a row holds in a column. -/
inductive Cell where
  | null
  | integer (value : Int)
  | real (value : Binary64)
  | text (value : String)
  deriving DecidableEq, Inhabited

/-- A column and what it demands of its cells. -/
structure Column where
  name : String
  /-- The column shows the key of the row. -/
  isKey : Bool
  /-- Every row has a value here. -/
  required : Bool
  /-- The texts a cell may hold, if it is restricted. -/
  allowed : Option (List String)
  /-- A computed column: one where the named column holds the given text, zero elsewhere. -/
  flag : Option (String × String)
  deriving DecidableEq

/-- A row: its key and its cells by column name, without the computed ones. -/
structure Row where
  key : Nat
  cells : List (String × Cell)
  deriving DecidableEq

structure Table where
  name : String
  columns : List Column
  /-- The newest row comes first. -/
  rows : List Row
  deriving DecidableEq

/-- Tables in the order of their making. -/
structure Database where
  tables : List Table
  deriving DecidableEq

/-- Equality of names. -/
def sameName (a b : String) : Bool := a.toLower == b.toLower

namespace Column

def plain (name : String) : Column := ⟨name, false, false, none, none⟩

def key (name : String) : Column := ⟨name, true, false, none, none⟩

def filled (name : String) : Column := ⟨name, false, true, none, none⟩

def oneOf (name : String) (texts : List String) : Column := ⟨name, false, true, some texts, none⟩

def flagOf (name column text : String) : Column := ⟨name, false, false, none, some (column, text)⟩

/-- A column from a definition such as `id INTEGER PRIMARY KEY`. -/
def ofDefinition (definition : String) : Column :=
  let words := (definition.splitOn " ").filter fun word => !word.isEmpty
  let rules := " ".intercalate ((words.drop 1).map String.toUpper)
  ⟨words.headD "", (rules.splitOn "INTEGER PRIMARY KEY").length = 2,
    (rules.splitOn "NOT NULL").length = 2, none, none⟩

/-- Whether the column takes the cell. -/
def admits (c : Column) : Cell → Bool
  | .null => c.isKey || !c.required
  | .text s =>
    match c.allowed with
    | some texts => texts.contains s
    | none => true
  | _ => c.allowed.isNone

end Column

namespace Row

def cell (row : Row) (name : String) : Cell :=
  match row.cells.find? fun entry => sameName entry.1 name with
  | some entry => entry.2
  | none => .null

/-- What a column shows of a row. -/
def view (row : Row) (c : Column) : Cell :=
  if c.isKey then .integer row.key
  else
    match c.flag with
    | some (name, text) => if row.cell name = .text text then .integer 1 else .integer 0
    | none => row.cell c.name

end Row

namespace Table

def column? (t : Table) (name : String) : Option Column :=
  t.columns.find? fun c => sameName c.name name

/-- Keys count up from one. -/
def nextKey (t : Table) : Nat :=
  match t.rows with
  | [] => 1
  | newest :: _ => newest.key + 1

/-- Adds a row with the next key; `none` if a column is missing or refuses its cell. -/
def insert (t : Table) (cells : List (String × Cell)) : Option (Table × Nat) :=
  let row : Row := ⟨t.nextKey, cells⟩
  if cells.all (fun entry => (t.column? entry.1).any fun c => c.flag.isNone) &&
      t.columns.all (fun c => c.flag.isSome || c.admits (row.cell c.name)) then
    some (⟨t.name, t.columns, row :: t.rows⟩, row.key)
  else none

/-- The cells of the named columns, row by row from the oldest on; `none` if there is no such
column. -/
def select (t : Table) (names : List String) : Option (List (List Cell)) := do
  let columns ← names.mapM t.column?
  return t.rows.reverse.map fun row => columns.map row.view

end Table

namespace Database

def empty : Database := ⟨[]⟩

def table? (d : Database) (name : String) : Option Table :=
  d.tables.find? fun t => sameName t.name name

/-- Replaces the table of the same name. -/
def replace (d : Database) (changed : Table) : Database :=
  ⟨d.tables.map fun t => if sameName t.name changed.name then changed else t⟩

/-- Adds a row to a table and gives its key. -/
def insert (d : Database) (table : String) (cells : List (String × Cell)) :
    Option (Database × Nat) := do
  let t ← d.table? table
  let (changed, key) ← t.insert cells
  return (d.replace changed, key)

def select (d : Database) (table : String) (names : List String) : Option (List (List Cell)) := do
  (← d.table? table).select names

end Database

end MutationTesting

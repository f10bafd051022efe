import MutationTesting.Json.Reader
import MutationTesting.Json.Writer
import MutationTesting.Ledger.Database

/-!
The written form of a database: a JSON document with the columns and the rows of each table. A
document of any other form is no database.
-/

namespace MutationTesting

namespace Cell

def json : Cell → Json
  | .null => .null
  | .integer value => .integer value
  | .real value => .real value
  | .text value => .string value

def ofJson? : Json → Option Cell
  | .null => some .null
  | .integer value => some (.integer value)
  | .real value => some (.real value)
  | .string value => some (.text value)
  | _ => none

end Cell

namespace Column

def allowedJson : Option (List String) → Json
  | none => .null
  | some texts => .ofList .string texts

def flagJson : Option (String × String) → Json
  | none => .null
  | some (column, text) => .array [.string column, .string text]

def json (c : Column) : Json :=
  .array [.string c.name, .bool c.isKey, .bool c.required, allowedJson c.allowed, flagJson c.flag]

def text? : Json → Option String
  | .string s => some s
  | _ => none

def allowed? : Json → Option (Option (List String))
  | .null => some none
  | .array texts => (texts.mapM text?).map some
  | _ => none

def flag? : Json → Option (Option (String × String))
  | .null => some none
  | .array [.string column, .string text] => some (some (column, text))
  | _ => none

def ofJson? : Json → Option Column
  | .array [.string name, .bool isKey, .bool required, allowed, flag] => do
    return ⟨name, isKey, required, ← allowed? allowed, ← flag? flag⟩
  | _ => none

end Column

namespace Row

def json (row : Row) : Json :=
  .array [.ofNat row.key, .object (row.cells.map fun entry => (entry.1, entry.2.json))]

def cell? (entry : String × Json) : Option (String × Cell) := do
  return (entry.1, ← Cell.ofJson? entry.2)

def ofJson? : Json → Option Row
  | .array [.integer key, .object cells] => do return ⟨key.toNat, ← cells.mapM cell?⟩
  | _ => none

end Row

namespace Table

def json (t : Table) : Json :=
  .array [.string t.name, .ofList Column.json t.columns, .ofList Row.json t.rows]

def ofJson? : Json → Option Table
  | .array [.string name, .array columns, .array rows] => do
    return ⟨name, ← columns.mapM Column.ofJson?, ← rows.mapM Row.ofJson?⟩
  | _ => none

end Table

namespace Database

def json (d : Database) : Json := .object [("tables", .ofList Table.json d.tables)]

def ofJson? : Json → Option Database
  | .object [("tables", .array tables)] => do return ⟨← tables.mapM Table.ofJson?⟩
  | _ => none

/-- The text that keeps a database in a file. -/
def text (d : Database) : String := d.json.compact

def ofText? (text : String) : Option Database :=
  let document := Json.read text
  if document.trailing then none else ofJson? document.value

end Database

end MutationTesting

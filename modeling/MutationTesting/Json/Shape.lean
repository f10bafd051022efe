import MutationTesting.Json.Reader
import MutationTesting.Decimal.Shortest
import MutationTesting.Text.Quoted

/-!
The shape of a document: readers from JSON trees to values of the domain. A reader walks its
document in the order of the text and stops at the first problem. A record may be written as an
object, whose unknown members are skipped, or as an array of its fields in their order.
-/

namespace MutationTesting

/-- What a document holds in place of something else. -/
inductive Found where
  | null
  | boolean (value : Bool)
  | integer (value : Int)
  | real (value : Binary64)
  | text (value : String)
  | sequence
  | map
  | unitVariant
  deriving DecidableEq

/-- Why a document cannot be read. -/
inductive ShapeError where
  | malformed
  | missingField (name : String)
  | duplicateField (name : String)
  | invalidType (found : Found) (expected : String)
  | invalidValue (found : Found) (expected : String)
  | invalidLength (length : Nat) (expected : String)
  | unknownVariant (name : String) (known : List String)
  deriving DecidableEq

namespace Found

def describe : Found → String
  | .null => "null"
  | .boolean value => s!"boolean `{value}`"
  | .integer value => s!"integer `{value}`"
  | .real value => "floating point `" ++ Decimal.shortest value.toFloat ++ "`"
  | .text value => "string " ++ Text.quoted value
  | .sequence => "sequence"
  | .map => "map"
  | .unitVariant => "unit variant"

end Found

namespace ShapeError

/-- The known names in backticks, joined as a list of choices. -/
def choices : List String → String
  | [] => "there are no variants"
  | [one] => s!"expected `{one}`"
  | [one, other] => s!"expected `{one}` or `{other}`"
  | many => "expected one of " ++ ", ".intercalate (many.map fun name => s!"`{name}`")

def message : ShapeError → String
  | .malformed => "invalid JSON"
  | .missingField name => s!"missing field `{name}`"
  | .duplicateField name => s!"duplicate field `{name}`"
  | .invalidType found expected => s!"invalid type: {found.describe}, expected {expected}"
  | .invalidValue found expected => s!"invalid value: {found.describe}, expected {expected}"
  | .invalidLength length expected => s!"invalid length {length}, expected {expected}"
  | .unknownVariant name known => s!"unknown variant `{name}`, {choices known}"

end ShapeError

/-- A reader of one kind of value. -/
abbrev Shape (α : Type) := Json → Except ShapeError α

namespace Shape

/-- The value is not of the expected kind; text that is no value at all is malformed. -/
def mismatch {α : Type} (expected : String) : Shape α
  | .null => .error (.invalidType .null expected)
  | .bool b => .error (.invalidType (.boolean b) expected)
  | .integer i => .error (.invalidType (.integer i) expected)
  | .real x => .error (.invalidType (.real x) expected)
  | .string s => .error (.invalidType (.text s) expected)
  | .array _ => .error (.invalidType .sequence expected)
  | .object _ => .error (.invalidType .map expected)
  | .valueless => .error .malformed
  | .malformed => .error .malformed

mutual

/-- A skipped value has to be JSON, and nothing more. -/
def skip : Shape Unit
  | .malformed => .error .malformed
  | .array elements => skipElements elements
  | .object members => skipMembers members
  | _ => .ok ()

def skipElements : List Json → Except ShapeError Unit
  | [] => .ok ()
  | v :: rest => do
    skip v
    skipElements rest

def skipMembers : List (String × Json) → Except ShapeError Unit
  | [] => .ok ()
  | (_, v) :: rest => do
    skip v
    skipMembers rest

end

mutual

/-- A value that is kept to be read later: it is JSON, denotes something, and its containers nest at
most `room` deep. -/
def keep (room : Nat) : Shape Unit
  | .malformed => .error .malformed
  | .valueless => .error .malformed
  | .array elements =>
    match room with
    | 0 => .error .malformed
    | room + 1 => keepElements room elements
  | .object members =>
    match room with
    | 0 => .error .malformed
    | room + 1 => keepMembers room members
  | _ => .ok ()

def keepElements (room : Nat) : List Json → Except ShapeError Unit
  | [] => .ok ()
  | v :: rest => do
    keep room v
    keepElements room rest

def keepMembers (room : Nat) : List (String × Json) → Except ShapeError Unit
  | [] => .ok ()
  | (_, v) :: rest => do
    keep room v
    keepMembers room rest

end

/-! ### Scalars -/

def string : Shape String
  | .string s => .ok s
  | v => mismatch "a string" v

def boolean : Shape Bool
  | .bool b => .ok b
  | v => mismatch "a boolean" v

/-- A whole number from `low` up to, not including, `high`. -/
def integer (low high : Int) (expected : String) : Shape Int
  | .integer i =>
    if low ≤ i ∧ i < high then .ok i else .error (.invalidValue (.integer i) expected)
  | v => mismatch expected v

def uint32 (v : Json) : Except ShapeError UInt32 :=
  (integer 0 UInt32.size "u32" v).map fun i => UInt32.ofNat i.toNat

/-- `kind` names the use of the number in errors. -/
def uint64 (kind : String) (v : Json) : Except ShapeError UInt64 :=
  (integer 0 UInt64.size kind v).map fun i => UInt64.ofNat i.toNat

def int64 (v : Json) : Except ShapeError Int64 :=
  (integer (-9223372036854775808) 9223372036854775808 "i64" v).map Int64.ofInt

/-- `null` stands for an absent value. -/
def optional {α : Type} (shape : Shape α) : Shape (Option α)
  | .null => .ok none
  | v => (shape v).map some

def list {α : Type} (shape : Shape α) : Shape (List α)
  | .array elements => elements.mapM shape
  | v => mismatch "a sequence" v

/-! ### Records -/

/-- Reads one field into a partial record; the record tells whether it had the field already. -/
structure RecordField (σ : Type) where
  name : String
  present : σ → Bool
  read : σ → Json → Except ShapeError σ
  /-- Whether a document may leave the field out. -/
  optional : Bool

/-- A field of a partial record that a document may leave out. -/
def optionalField {σ α : Type} (name : String) (get : σ → Option α)
    (set : σ → α → σ) (shape : Shape α) : RecordField σ :=
  ⟨name, fun s => (get s).isSome, fun s v => (shape v).map (set s), true⟩

def requiredField {σ α : Type} (name : String) (get : σ → Option α)
    (set : σ → α → σ) (shape : Shape α) : RecordField σ :=
  ⟨name, fun s => (get s).isSome, fun s v => (shape v).map (set s), false⟩

/-- Members in order: a known one is read, once, and an unknown one skipped. -/
def members {σ : Type} (fields : List (RecordField σ)) :
    σ → List (String × Json) → Except ShapeError σ
  | record, [] => .ok record
  | record, (key, value) :: rest =>
    match fields.find? (fun field => field.name == key) with
    | none => do
      skip value
      members fields record rest
    | some field =>
      if field.present record then .error (.duplicateField key)
      else do members fields (← field.read record value) rest

/-- Fields in order from the elements of an array; gives the elements left over. -/
def positions {σ : Type} (expected : String) :
    Nat → List (RecordField σ) → σ → List Json → Except ShapeError (σ × List Json)
  | _, [], record, rest => .ok (record, rest)
  | index, field :: fields, record, [] =>
    if field.optional then positions expected (index + 1) fields record []
    else .error (.invalidLength index expected)
  | index, field :: fields, record, value :: rest => do
    positions expected (index + 1) fields (← field.read record value) rest

/-- The first required field that the record lacks. -/
def missing? {σ : Type} (fields : List (RecordField σ)) (record : σ) : Option String :=
  (fields.find? fun field => !field.optional && !field.present record).map (·.name)

/-- `name with 3 elements` -/
def lengthText (name : String) (count : Nat) : String :=
  s!"{name} with {count} element" ++ if count = 1 then "" else "s"

/-- A record read from its members, with every required field present. -/
def fromMembers {σ : Type} (fields : List (RecordField σ)) (empty : σ)
    (found : List (String × Json)) : Except ShapeError σ := do
  let record ← members fields empty found
  match missing? fields record with
  | some name => .error (.missingField name)
  | none => .ok record

/-- A record with a name for errors. An array may not be longer than the record. -/
def record {σ : Type} (name : String) (fields : List (RecordField σ)) (empty : σ) : Shape σ
  | .object found => fromMembers fields empty found
  | .array elements => do
    let (record, rest) ← positions (lengthText name fields.length) 0 fields empty elements
    if rest.isEmpty then .ok record else .error .malformed
  | v => mismatch name v

/-- A whole document: nothing but blanks may follow its value. -/
def document {α : Type} (shape : Shape α) (text : Json.Document) : Except ShapeError α := do
  let value ← shape text.value
  if text.trailing then .error .malformed else .ok value

end Shape

end MutationTesting

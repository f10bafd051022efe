/-!
JSON documents as values. Two constructors stand for text that is not a value: `valueless`, a scalar
that is spelled correctly and denotes nothing, and `malformed`, the place where the text stops being
JSON. With them every text has a tree, and whoever walks the tree in order meets the first problem
of the text first, be it a wrong shape or a wrong character.
-/

namespace MutationTesting

/-- A double-precision number, held by its bits so that equality is decidable. -/
structure Binary64 where
  bits : UInt64
  deriving DecidableEq, Inhabited

namespace Binary64

def ofFloat (x : Float) : Binary64 := ⟨x.toBits⟩

def toFloat (x : Binary64) : Float := Float.ofBits x.bits

end Binary64

/-- A JSON document in the order of its text; a repeated member is kept. -/
inductive Json where
  | null
  | bool (value : Bool)
  | integer (value : Int)
  | real (value : Binary64)
  | string (value : String)
  | array (elements : List Json)
  | object (members : List (String × Json))
  /-- A number beyond the range of doubles, or a string with an unpaired surrogate. -/
  | valueless
  /-- The text is not JSON from here on. -/
  | malformed
  deriving Inhabited

namespace Json

/-- The member an absent value is written as. -/
def ofOption {α : Type} (write : α → Json) : Option α → Json
  | none => .null
  | some a => write a

def ofNat (n : Nat) : Json := .integer n

def ofList {α : Type} (write : α → Json) (items : List α) : Json := .array (items.map write)

end Json

end MutationTesting

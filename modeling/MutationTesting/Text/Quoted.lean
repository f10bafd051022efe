import MutationTesting.Text.Category

/-!
Text in double quotes for messages. Quote, backslash, tabulator and line ends are escaped by a
letter, NUL as `\0`, and what cannot be seen, or joins the character before it, by its number in
hexadecimal.
-/

namespace MutationTesting.Text

/-- A character that shows on its own: none of the invisible classes, and no blank but the space. -/
def isVisible (c : Char) : Bool :=
  c = ' ' || !(Category.invisible.contains c) && !(graphemeExtend.contains c)

def quotedChar (c : Char) : String :=
  if c = '\x00' then "\\0"
  else if c = '\t' then "\\t"
  else if c = '\r' then "\\r"
  else if c = '\n' then "\\n"
  else if c = '"' then "\\\""
  else if c = '\\' then "\\\\"
  else if isVisible c then c.toString
  else "\\u\x7b" ++ String.ofList (Nat.toDigits 16 c.toNat) ++ "\x7d"

def quoted (s : String) : String := "\"" ++ String.join (s.toList.map quotedChar) ++ "\""

end MutationTesting.Text

import MutationTesting.Text.Property

/-!
Blanks around and between words, in the sense of the character database.
-/

namespace MutationTesting.Text

def isBlank (c : Char) : Bool := whiteSpace.contains c

/-- Without the blanks at either end. -/
def trim (s : String) : String :=
  String.ofList (((s.toList.dropWhile isBlank).reverse.dropWhile isBlank).reverse)

/-- The pieces between blanks; `word` holds the characters of the current one, last first. -/
def wordsFrom (word : List Char) : List Char → List String
  | [] => if word.isEmpty then [] else [String.ofList word.reverse]
  | c :: rest =>
    if isBlank c then
      if word.isEmpty then wordsFrom [] rest
      else String.ofList word.reverse :: wordsFrom [] rest
    else wordsFrom (c :: word) rest

/-- The words of a text, none of them empty. -/
def words (s : String) : List String := wordsFrom [] s.toList

end MutationTesting.Text

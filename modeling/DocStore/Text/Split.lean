/-! # Splitting texts

The parts of a text between separators.
-/

namespace DocStore

/-- The parts of a text between separators; there is one more than there are separators. -/
def splitChars (separator : Char) : List Char → List (List Char)
  | [] => [[]]
  | c :: rest =>
      if c = separator then [] :: splitChars separator rest
      else
        match splitChars separator rest with
        | [] => [[c]]
        | part :: parts => (c :: part) :: parts

def splitText (separator : Char) (text : String) : List String :=
  (splitChars separator text.toList).map String.ofList

end DocStore

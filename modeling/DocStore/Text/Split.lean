/-!
# Splitting text

The parts of a text between the occurrences of one character.
-/

namespace DocStore.Text

/-- The pieces of a text between occurrences of a character. -/
def pieces (sep : Char) : List Char → List (List Char)
  | [] => [[]]
  | c :: rest =>
    if c == sep then [] :: pieces sep rest
    else match pieces sep rest with
      | [] => [[c]]
      | p :: ps => (c :: p) :: ps

/-- The pieces of a string. -/
def split (sep : Char) (s : String) : List String := (pieces sep s.toList).map String.ofList

end DocStore.Text

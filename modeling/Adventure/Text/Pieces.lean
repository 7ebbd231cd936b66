/-!
# Pieces

The pieces of a text between the occurrences of a separating character. There is always one piece
more than there are separators, and joining the pieces gives the text back.
-/

namespace Adventure.Text

def extendFirst (c : Char) : List (List Char) → List (List Char)
  | [] => [[c]]
  | p :: ps => (c :: p) :: ps

/-- The pieces between the occurrences of `sep`. -/
def pieces (sep : Char) : List Char → List (List Char)
  | [] => [[]]
  | c :: cs => if c = sep then [] :: pieces sep cs else extendFirst c (pieces sep cs)

theorem pieces_ne_nil (sep : Char) (cs : List Char) : pieces sep cs ≠ [] := by
  cases cs with
  | nil => simp [pieces]
  | cons c cs =>
    simp only [pieces]
    split
    · simp
    · cases pieces sep cs <;> simp [extendFirst]

def split (sep : Char) (s : String) : List String := (pieces sep s.toList).map String.ofList

end Adventure.Text

/-!
# Lines

A line ends with a newline, or with a carriage return and a newline.
-/

namespace Adventure.Text

/-- The characters before the first end of a line, all of them if there is none. -/
def untilLineEnd : List Char → List Char
  | [] => []
  | '\n' :: _ => []
  | '\r' :: '\n' :: _ => []
  | c :: cs => c :: untilLineEnd cs

def firstLine (s : String) : String := String.ofList (untilLineEnd s.toList)

/-- A text of lines, each with its end. -/
def unlines (lines : List String) : String := String.join (lines.map (· ++ "\n"))

end Adventure.Text

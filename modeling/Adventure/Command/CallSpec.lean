import Adventure.Text.Blank
import Adventure.Text.Pieces

/-!
# Call specifications

A call is written as the name of a function, or as the name, a colon and the arguments with commas
between them. White space around the whole and around each argument does not count. The arguments
may hold any character but a comma and the end of a line.

See section 10.4 of the specification.
-/

namespace Adventure.Command

/-- A function and the literals of its arguments. -/
structure CallSpec where
  name : String
  args : List String
  deriving DecidableEq, Repr

def isNameStart (c : Char) : Bool := c.isAlpha || c == '_'

def isNameChar (c : Char) : Bool := c.isAlphanum || c == '_'

def readArguments (cs : List Char) : List String :=
  if cs.isEmpty then []
  else (Text.pieces ',' cs).map fun piece => String.ofList (Text.trimBlank piece)

/-- What follows the name: nothing, or the arguments on one line behind a colon. -/
def readTail : List Char → Option (List String)
  | [] => some []
  | ':' :: cs => if '\n' ∈ cs then none else some (readArguments cs)
  | _ :: _ => none

def CallSpec.read (spec : String) : Option CallSpec :=
  let cs := Text.trimBlank spec.toList
  let name := cs.takeWhile isNameChar
  if name.head?.any isNameStart then
    (readTail (cs.dropWhile isNameChar)).map fun args => ⟨String.ofList name, args⟩
  else none

end Adventure.Command

import Adventure.Json.Reader
import Adventure.Json.Writer
import Adventure.Record.Json

/-!
# Records from texts

A record is the JSON text of an object whose members can all be fields. For any other text the fault
that comes first from the left is reported. A member that cannot be a field is a fault at the place
behind it, blanks and a brace that ends the object included.
-/

namespace Adventure

open Json

/-! ### Faults -/

/-- What a value is that stands where an object should. -/
def Json.misfit : Json → Misfit
  | .null => .null
  | .bool b => .bool b
  | .number (.int n) => .integer n
  | .number n => .float (numberText n)
  | .string s => .string s
  | _ => .sequence

/-- What follows a member that cannot be a field. -/
def behindMember (cs : List Char) : List Char :=
  match skipBlanks cs with
  | '}' :: rest => rest
  | rest => rest

/-- Walks over the members of an object up to the first fault; `fuel` bounds their number. -/
def walkMembers : Nat → List Char → Except Fault (List Char)
  | 0, cs => stopBefore .endInObject cs
  | fuel + 1, cs =>
    match readName cs with
    | .error f => .error f
    | .ok (_, rest) =>
      match readValue (stepLimit rest) (depthLimit - 1) rest with
      | .error f => .error f
      | .ok (value, rest) =>
        if (Field.ofJson value).isNone then stopBefore .noField (behindMember rest)
        else
          match afterMember rest with
          | .error f => .error f
          | .ok (true, rest) => walkMembers fuel rest
          | .ok (false, rest) => .ok rest

/-- Walks over a value that must be an object, up to the first fault. -/
def walkObject (cs : List Char) : Except Fault (List Char) :=
  match skipBlanks cs with
  | [] => stopBefore .endInValue []
  | '{' :: rest =>
    match skipBlanks rest with
    | [] => stopBefore .endInObject []
    | '}' :: rest => .ok rest
    | rest => walkMembers (stepLimit rest) rest
  | '[' :: rest => stopBefore (.notAnObject .sequence) ('[' :: rest)
  | rest =>
    match readValue (stepLimit rest) depthLimit rest with
    | .error f => .error f
    | .ok (value, rest) => stopBefore (.notAnObject value.misfit) rest

def Record.fault (text : String) : Fault :=
  match (walkObject text.toList).bind atEnd with
  | .error f => f
  | .ok () => ⟨.endInValue, 0⟩

/-! ### Records -/

def Record.read? (text : String) : Option Record := (Json.read? text).bind Record.ofJson

def Record.read (text : String) : Except Report Record :=
  match Record.read? text with
  | some r => .ok r
  | none => .error ((Record.fault text).report text)

end Adventure

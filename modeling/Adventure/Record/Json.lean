import Adventure.Json.Basic
import Adventure.Record.Basic

/-!
# Records as JSON

A record is an object; of a repeated name the last member counts. Whole numbers of eight bytes are
numbers without a fraction, all other numbers are floats. An array must hold objects alone, and
`null` stands for nothing.
-/

namespace Adventure

def Field.ofNumber : Number → Field
  | .int n =>
    if -9223372036854775808 ≤ n ∧ n ≤ 9223372036854775807 then .int (Int64.ofInt n)
    else .float (UInt64.ofNat n.toNat).toFloat
  | .double x => .float x
  | .single x => .float x.toFloat

mutual

def Field.ofJson : Json → Option Field
  | .null => none
  | .bool b => some (.bool b)
  | .number n => some (.ofNumber n)
  | .string s => some (.string s)
  | .array items => (Field.rowsOfJson items).map .list
  | .object members => (Field.membersOfJson members).map fun entries => .struct (Dict.ofList entries)

def Field.rowsOfJson : List Json → Option (List Record)
  | [] => some []
  | .object members :: items =>
    match Field.membersOfJson members, Field.rowsOfJson items with
    | some entries, some rows => some (Dict.ofList entries :: rows)
    | _, _ => none
  | _ :: _ => none

def Field.membersOfJson : List (String × Json) → Option (List (String × Field))
  | [] => some []
  | (name, value) :: members =>
    match Field.ofJson value, Field.membersOfJson members with
    | some f, some entries => some ((name, f) :: entries)
    | _, _ => none

end

def Record.ofJson : Json → Option Record
  | .object members => (Field.membersOfJson members).map Dict.ofList
  | _ => none

def Record.listOfJson : Json → Option (List Record)
  | .array items => Field.rowsOfJson items
  | _ => none

mutual

def Field.toJson : Field → Json
  | .bool b => .bool b
  | .int n => .number (.int n.toInt)
  | .float x => if x.isFinite then .number (.double x) else .null
  | .string s => .string s
  | .list rows => .array (Field.rowsToJson rows)
  | .struct fields => .object (Field.membersToJson fields)

def Field.rowsToJson : List (Dict Field) → List Json
  | [] => []
  | row :: rows => .object (Field.membersToJson row) :: Field.rowsToJson rows

def Field.membersToJson : List (String × Field) → List (String × Json)
  | [] => []
  | (name, f) :: fields => (name, Field.toJson f) :: Field.membersToJson fields

end

def Record.toJson (r : Record) : Json := .object (Field.membersToJson r)

end Adventure

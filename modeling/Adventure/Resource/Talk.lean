/-!
# The talk table

Localized strings by number, with variants for a female listener where they differ.

See sections 6 and 10.6 of the specification.
-/

namespace Adventure

inductive Gender where
  | male
  | female
  deriving DecidableEq, Repr

def Gender.ofScript (n : Int32) : Gender := if n = 1 then .female else .male

def Gender.name : Gender → String
  | .male => "Male"
  | .female => "Female"

/-- Strings by number; the female ones may be fewer, and an empty one counts as absent. -/
structure TalkTable where
  male : List String
  female : List String

namespace TalkTable

def empty : TalkTable := ⟨[], []⟩

def size (t : TalkTable) : Nat := t.male.length

def isEmpty (t : TalkTable) : Bool := t.male.isEmpty

/-- The string of a number, empty if there is none. -/
def get (t : TalkTable) (strref : UInt32) (gender : Gender) : String :=
  let index := strref.toNat
  let own : Option String := match gender with
    | .female => t.female[index]?.filter (· ≠ "")
    | .male => none
  (own.or t.male[index]?).getD ""

end TalkTable

end Adventure

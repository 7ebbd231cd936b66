import Adventure.Decimal.Numeral

/-!
# JSON values

The tree of a JSON text. Objects keep their members in the order of the text, with repeated names;
what a repeated name means is for the reader of the tree to say.
-/

namespace Adventure

/-- A number: whole, or a float of either width. Reading never gives a four-byte one. -/
inductive Number where
  | int (n : Int)
  | double (x : Float)
  | single (x : Float32)

inductive Json where
  | null
  | bool (b : Bool)
  | number (n : Number)
  | string (s : String)
  | array (items : List Json)
  | object (members : List (String × Json))

namespace Json

instance : Inhabited Json := ⟨.null⟩

def ofNat (n : Nat) : Json := .number (.int n)

def ofInt (n : Int) : Json := .number (.int n)

def ofStrings (texts : List String) : Json := .array (texts.map .string)

def ofOption {α : Type} (f : α → Json) : Option α → Json
  | none => .null
  | some a => f a

/-- The member of a name in an object; the last one counts. -/
def member? (j : Json) (name : String) : Option Json :=
  match j with
  | .object members => members.reverse.lookup name
  | _ => none

def strings? : Json → Option (List String)
  | .array items => items.mapM fun
    | .string s => some s
    | _ => none
  | _ => none

end Json

end Adventure

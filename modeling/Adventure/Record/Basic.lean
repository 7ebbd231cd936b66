import Adventure.Decimal.Layout
import Adventure.Decimal.Numeral
import Adventure.Dict
import Adventure.Resource.Talk
import Adventure.Text.Blank

/-!
# Records

Named fields of a blueprint, an instance, an area or a table row. Reading a field never fails: one
that is missing or of the wrong kind gives the default of the reader.

See section 10.4 of the specification.
-/

namespace Adventure

inductive Field where
  | bool (b : Bool)
  | int (n : Int64)
  | float (x : Float)
  | string (s : String)
  | list (rows : List (List (String × Field)))
  | struct (fields : List (String × Field))

abbrev Record := Dict Field

namespace Field

def text? : Field → Option String
  | .string s => some s
  | .int n => some (toString n.toInt)
  | .float x => some (Decimal.plain.text64 x)
  | _ => none

mutual

/-- The localized text of a field: a text itself, a number in the talk table, or a structure with
either under `string` or `strref`. -/
def locText (talk : TalkTable) : Field → Option String
  | .string s => some s
  | .int n =>
    if 0 ≤ n.toInt ∧ n.toInt ≤ 4294967295 then
      some (talk.get (UInt32.ofNat n.toInt.toNat) .male)
    else none
  | .struct fields =>
    match Dict.find? fields "string" with
    | some f => some (f.text?.getD "")
    | none => locTextOf talk "strref" fields
  | _ => none

def locTextOf (talk : TalkTable) (name : String) : List (String × Field) → Option String
  | [] => none
  | (k, f) :: fields => if k = name then locText talk f else locTextOf talk name fields

end

end Field

namespace Record

def hasField (r : Record) (name : String) : Bool := Dict.contains r name

def set (r : Record) (name : String) (f : Field) : Record := Dict.insert r name f

def getString (r : Record) (name default : String) : String :=
  ((Dict.find? r name).bind Field.text?).getD default

def getInt (r : Record) (name : String) (default : Int64) : Int64 :=
  match Dict.find? r name with
  | some (.int n) => n
  | some (.bool b) => if b then 1 else 0
  | some (.float x) => x.toInt64
  | some (.string s) =>
    match Decimal.readInt64 (Text.trim s) with
    | .ok n => n
    | .error _ => default
  | _ => default

/-- A number without a sign; one out of range gives the default. -/
def getUInt (r : Record) (name : String) (default : UInt32) : UInt32 :=
  let n := (r.getInt name (Int64.ofNat default.toNat)).toInt
  if 0 ≤ n ∧ n ≤ 4294967295 then UInt32.ofNat n.toNat else default

def getBool (r : Record) (name : String) (default : Bool) : Bool :=
  match Dict.find? r name with
  | some (.bool b) => b
  | some (.int n) => n != 0
  | _ => default

def getDouble (r : Record) (name : String) (default : Float) : Float :=
  match Dict.find? r name with
  | some (.float x) => x
  | some (.int n) => n.toFloat
  | some (.string s) =>
    match Decimal.readFloat64 (Text.trim s) with
    | .ok x => x
    | .error _ => default
  | _ => default

def getFloat (r : Record) (name : String) (default : Float32) : Float32 :=
  (r.getDouble name default.toFloat).toFloat32

def getList (r : Record) (name : String) : List Record :=
  match Dict.find? r name with
  | some (.list rows) => rows
  | _ => []

def getStruct (r : Record) (name : String) : Option Record :=
  match Dict.find? r name with
  | some (.struct fields) => some fields
  | _ => none

/-- The localized text of a field, for a male listener. -/
def getLocText (r : Record) (name : String) (talk : TalkTable) : Option String :=
  Field.locTextOf talk name r

end Record

end Adventure

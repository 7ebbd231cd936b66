import Adventure.Location

/-!
# Script values

The values that scripts and script functions pass to each other, their types, and the one implicit
conversion of the script language: a whole number where a float is declared.

See section 4.5 of the specification.
-/

namespace Adventure

inductive ValueType where
  | void
  | int
  | float
  | string
  | object
  | vector
  | engine
  | state
  deriving DecidableEq, Repr

/-- The script language's word for a type. -/
def ValueType.name : ValueType → String
  | .void => "void"
  | .int => "int"
  | .float => "float"
  | .string => "string"
  | .object => "object"
  | .vector => "vector"
  | .engine => "engine_type"
  | .state => "action"

/-- The word for a type in written signatures. -/
def ValueType.key : ValueType → String
  | .state => "script_state"
  | t => t.name

/-- A value owned by the game and passed through scripts unseen. -/
inductive EngineValue where
  | location (l : Location)
  | effect

/-- A saved frame of a script: where it goes on and what is on its stack. -/
structure Frame (α : Type) where
  offset : UInt32
  stack : List α

inductive Value where
  | void
  | int (n : Int32)
  | float (x : Float32)
  | string (s : String)
  | object (h : Handle)
  | vector (v : Vec3)
  | engine (e : Option EngineValue)
  | state (f : Frame Value)

/-- A frame whose stack holds script values. -/
abbrev ScriptState := Frame Value

/-- A value of another type than the one wanted, or no value at all at that index. -/
inductive ValueError where
  | mismatch (expected found : ValueType)
  | outOfRange (index : Nat)
  deriving DecidableEq, Repr

def ValueError.message : ValueError → String
  | .mismatch expected found => "expected " ++ expected.name ++ ", found " ++ found.name
  | .outOfRange index => "parameter " ++ toString index ++ " out of range"

namespace Value

def type : Value → ValueType
  | .void => .void
  | .int _ => .int
  | .float _ => .float
  | .string _ => .string
  | .object _ => .object
  | .vector _ => .vector
  | .engine _ => .engine
  | .state _ => .state

/-- The value a declared type starts with. -/
def default : ValueType → Value
  | .void => .void
  | .int => .int 0
  | .float => .float 0
  | .string => .string ""
  | .object => .object .invalid
  | .vector => .vector .zero
  | .engine => .engine none
  | .state => .state ⟨0, []⟩

instance : Inhabited Value := ⟨.void⟩

theorem type_default (t : ValueType) : (default t).type = t := by
  cases t <;> rfl

def ofBool (b : Bool) : Value := .int (if b then 1 else 0)

def ofLocation (l : Location) : Value := .engine (some (.location l))

/-- A value where `t` is declared: itself if it has that type, a float for a whole number. -/
def coerce (v : Value) (t : ValueType) : Except ValueError Value :=
  match v, t with
  | .int n, .float => .ok (.float n.toFloat32)
  | v, t => if v.type = t then .ok v else .error (.mismatch t v.type)

/-! ### Reading a value at its type -/

def asInt : Value → Except ValueError Int32
  | .int n => .ok n
  | v => .error (.mismatch .int v.type)

def asFloat : Value → Except ValueError Float32
  | .float x => .ok x
  | v => .error (.mismatch .float v.type)

def asString : Value → Except ValueError String
  | .string s => .ok s
  | v => .error (.mismatch .string v.type)

def asObject : Value → Except ValueError Handle
  | .object h => .ok h
  | v => .error (.mismatch .object v.type)

def asVector : Value → Except ValueError Vec3
  | .vector a => .ok a
  | v => .error (.mismatch .vector v.type)

def asEngine : Value → Except ValueError (Option EngineValue)
  | .engine e => .ok e
  | v => .error (.mismatch .engine v.type)

def asState : Value → Except ValueError ScriptState
  | .state f => .ok f
  | v => .error (.mismatch .state v.type)

def location? : Value → Option Location
  | .engine (some (.location l)) => some l
  | _ => none

end Value

end Adventure

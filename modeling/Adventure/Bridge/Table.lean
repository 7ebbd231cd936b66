import Adventure.Bridge.Signature

/-!
# The function table

Functions are registered by number until the table is frozen. Numbers and names are unique, and
every default has the type of its parameter. The table lists its functions in ascending order of
their numbers.

See section 4.5 of the specification.
-/

namespace Adventure.Bridge

/-- Registered functions in ascending order of their numbers, and an index of their names. -/
structure Table (α : Type) where
  entries : List (Entry α)
  /-- The number behind each name. -/
  numbers : List (String × Nat)
  frozen : Bool

namespace Table

variable {α : Type}

def empty : Table α := ⟨[], [], false⟩

def find? (t : Table α) (id : Nat) : Option (Entry α) := t.entries.find? fun e => e.id = id

/-- The number of a function name, spelled exactly. -/
def findByName? (t : Table α) (name : String) : Option Nat := t.numbers.lookup name

def signature? (t : Table α) (id : Nat) : Option Signature := (t.find? id).map Entry.signature

/-- Puts an entry in front of those with larger numbers. -/
def insertEntry (e : Entry α) : List (Entry α) → List (Entry α)
  | [] => [e]
  | a :: rest => if e.id < a.id then e :: a :: rest else a :: insertEntry e rest

/-- The defaults at the types of their parameters; `index` is the number of the first one. -/
def checkDefaults (name : String) :
    Nat → List Value → List ValueType → Except RegistrationError (List Value)
  | _, [], _ => .ok []
  | _, _ :: _, [] => .ok []
  | index, v :: values, t :: types =>
    match v.coerce t with
    | .error _ => .error (.defaultType name index t v.type)
    | .ok checked =>
      match checkDefaults name (index + 1) values types with
      | .error e => .error e
      | .ok rest => .ok (checked :: rest)

/-- Registers a function. The defaults belong to its last parameters, in order. -/
def register (t : Table α) (name : String) (id : Nat) (handler : α) (signature : Signature)
    (defaults : List Value) : Except RegistrationError (Table α) :=
  if t.frozen then .error (.frozen name)
  else
    match t.find? id with
    | some existing => .error (.duplicateId id existing.name)
    | none =>
      if (t.findByName? name).isSome then .error (.duplicateName name)
      else
        let params := signature.params.length
        if params < defaults.length then .error (.tooManyDefaults name defaults.length params)
        else
          let first := params - defaults.length
          match checkDefaults name first defaults (signature.params.drop first) with
          | .error e => .error e
          | .ok checked =>
            .ok { t with
              entries := insertEntry ⟨id, name, signature, checked, handler⟩ t.entries
              numbers := (name, id) :: t.numbers }

/-- Closes the table; later registrations fail. -/
def freeze (t : Table α) : Table α := { t with frozen := true }

/-- Tears the table down; what is left is empty and open again. -/
def clear (_ : Table α) : Table α := .empty

def size (t : Table α) : Nat := t.entries.length

end Table

end Adventure.Bridge

import Adventure.Value.Text

/-!
# Signatures

What a script function declares: the type it returns, the types of its parameters, and values for
some of the last parameters. A call must supply the others.

See section 4.5 of the specification.
-/

namespace Adventure.Bridge

/-- The return type and the parameter types of a function. -/
structure Signature where
  ret : ValueType
  params : List ValueType
  deriving DecidableEq, Repr

/-- One registered function. `handler` says which handler carries it out. -/
structure Entry (α : Type) where
  id : Nat
  name : String
  signature : Signature
  defaults : List Value
  handler : α

namespace Entry

variable {α : Type}

def required (e : Entry α) : Nat := e.signature.params.length - e.defaults.length

def maximum (e : Entry α) : Nat := e.signature.params.length

end Entry

inductive RegistrationError where
  | frozen (name : String)
  | duplicateId (id : Nat) (existing : String)
  | duplicateName (name : String)
  | tooManyDefaults (name : String) (defaults params : Nat)
  | defaultType (name : String) (index : Nat) (expected found : ValueType)
  deriving DecidableEq, Repr

def RegistrationError.message : RegistrationError → String
  | .frozen name => "function table is frozen; cannot register " ++ name
  | .duplicateId id existing =>
    "function id " ++ toString id ++ " already registered as " ++ existing
  | .duplicateName name => "function name " ++ name ++ " already registered"
  | .tooManyDefaults name defaults params =>
    name ++ ": " ++ toString defaults ++ " defaults for " ++ toString params ++ " parameters"
  | .defaultType name index expected found =>
    name ++ ": default for parameter " ++ toString index ++ " is " ++ found.name ++ ", expected "
      ++ expected.name

inductive CallError where
  | unknownFunction (id : Nat)
  | unknownName (name : String)
  | insufficientArguments (name : String) (required supplied : Nat)
  | tooManyArguments (name : String) (maximum supplied : Nat)
  | parameterType (name : String) (index : Nat) (error : ValueError)
  deriving DecidableEq, Repr

def CallError.message : CallError → String
  | .unknownFunction id => "unknown function id " ++ toString id
  | .unknownName name => "unknown function " ++ name
  | .insufficientArguments name required supplied =>
    name ++ ": expected at least " ++ toString required ++ " arguments, got " ++ toString supplied
  | .tooManyArguments name maximum supplied =>
    name ++ ": expected at most " ++ toString maximum ++ " arguments, got " ++ toString supplied
  | .parameterType name index error =>
    name ++ ": parameter " ++ toString index ++ ": " ++ error.message

end Adventure.Bridge

import Adventure.Bridge.Table

/-!
# Calling a function

A call is admitted if its function is registered, the number of arguments fits and every argument
has the declared type or widens to it. The handler then runs once. Whatever it does, the caller gets
a value of the declared return type: the handler's own if it finished with one, the default of that
type otherwise, and then the fault is reported beside the value.

See section 4.5 of the specification.
-/

namespace Adventure.Bridge

/-- Who calls, on whose behalf, and from which script. -/
structure CallSite where
  caller : Handle
  triggerer : Handle
  script : String

def CallSite.none : CallSite := ⟨.invalid, .invalid, ""⟩

/-- What a handler sees of a call: all parameters, and how many of them the script passed. -/
structure CallContext where
  id : Nat
  name : String
  params : List Value
  specified : Nat
  ret : ValueType
  site : CallSite

namespace CallContext

/-- What the return slot holds when the handler starts. -/
def preset (c : CallContext) : Value := .default c.ret

def param (c : CallContext) (index : Nat) : Except ValueError Value :=
  match c.params[index]? with
  | some v => .ok v
  | none => .error (.outOfRange index)

def int (c : CallContext) (index : Nat) : Except ValueError Int32 :=
  c.param index >>= Value.asInt

def float (c : CallContext) (index : Nat) : Except ValueError Float32 :=
  c.param index >>= Value.asFloat

def string (c : CallContext) (index : Nat) : Except ValueError String :=
  c.param index >>= Value.asString

def object (c : CallContext) (index : Nat) : Except ValueError Handle :=
  c.param index >>= Value.asObject

def vector (c : CallContext) (index : Nat) : Except ValueError Vec3 :=
  c.param index >>= Value.asVector

def engine (c : CallContext) (index : Nat) : Except ValueError (Option EngineValue) :=
  c.param index >>= Value.asEngine

def state (c : CallContext) (index : Nat) : Except ValueError ScriptState :=
  c.param index >>= Value.asState

/-- Parameter `index`, or the caller when the script left it out. -/
def objectOrCaller (c : CallContext) (index : Nat) : Handle :=
  if c.specified ≤ index then c.site.caller
  else match c.object index with
    | .ok h => h
    | .error _ => .invalid

end CallContext

/-- What a handler breaks off with. -/
inductive Payload where
  | text (s : String)
  /-- Something that is no text. -/
  | other
  deriving DecidableEq, Repr

def Payload.message : Payload → String
  | .text s => s
  | .other => "non-string panic payload"

inductive Fate where
  | finished
  | failed (reason : String)
  | panicked (payload : Payload)
  deriving DecidableEq, Repr

/-- The return slot and the fate of a handler that has ended. -/
structure Ending where
  slot : Value
  fate : Fate

abbrev Handler (ε : Type) := CallContext → ε → Ending × ε

/-- What went wrong in an admitted call. -/
inductive FaultCause where
  | failed (reason : String)
  | panicked (text : String)
  | mistyped (found expected : ValueType)
  deriving DecidableEq, Repr

structure Fault where
  name : String
  id : Nat
  cause : FaultCause
  deriving DecidableEq, Repr

def Fault.message (f : Fault) : String :=
  let label := f.name ++ " (" ++ toString f.id ++ ")"
  match f.cause with
  | .failed reason => label ++ " failed: " ++ reason
  | .panicked text => label ++ " panicked: " ++ text
  | .mistyped found expected => label ++ " returned " ++ found.name ++ ", expected " ++ expected.name

structure Reply (ε : Type) where
  value : Value
  fault : Option Fault
  engine : ε

/-- The arguments at the declared types; `index` is the number of the first one. -/
def coerceArguments (name : String) :
    Nat → List Value → List ValueType → Except CallError (List Value)
  | _, [], _ => .ok []
  | _, _ :: _, [] => .ok []
  | index, v :: values, t :: types =>
    match v.coerce t with
    | .error e => .error (.parameterType name index e)
    | .ok coerced =>
      match coerceArguments name (index + 1) values types with
      | .error e => .error e
      | .ok rest => .ok (coerced :: rest)

namespace Entry

variable {α : Type}

/-- All parameters of a call with these arguments, if it is admitted. -/
def fill (e : Entry α) (args : List Value) : Except CallError (List Value) :=
  if args.length < e.required then
    .error (.insufficientArguments e.name e.required args.length)
  else if e.maximum < args.length then
    .error (.tooManyArguments e.name e.maximum args.length)
  else
    match coerceArguments e.name 0 args e.signature.params with
    | .error err => .error err
    | .ok coerced => .ok (coerced ++ e.defaults.drop (args.length - e.required))

def context (e : Entry α) (params : List Value) (specified : Nat) (site : CallSite) :
    CallContext :=
  ⟨e.id, e.name, params, specified, e.signature.ret, site⟩

def settle (e : Entry α) (ending : Ending) : Value × Option Fault :=
  let fallback := Value.default e.signature.ret
  match ending.fate with
  | .failed reason => (fallback, some ⟨e.name, e.id, .failed reason⟩)
  | .panicked payload => (fallback, some ⟨e.name, e.id, .panicked payload.message⟩)
  | .finished =>
    if ending.slot.type = e.signature.ret then (ending.slot, none)
    else (fallback, some ⟨e.name, e.id, .mistyped ending.slot.type e.signature.ret⟩)

end Entry

namespace Table

variable {α ε : Type}

/-- Calls a function by number. `perform` carries out the handlers of the table. -/
def call (perform : α → Handler ε) (t : Table α) (engine : ε) (id : Nat) (args : List Value)
    (site : CallSite) : Except CallError (Reply ε) :=
  match t.find? id with
  | none => .error (.unknownFunction id)
  | some e =>
    match e.fill args with
    | .error err => .error err
    | .ok params =>
      let (ending, engine) := perform e.handler (e.context params args.length site) engine
      let (value, fault) := e.settle ending
      .ok ⟨value, fault, engine⟩

def callByName (perform : α → Handler ε) (t : Table α) (engine : ε) (name : String)
    (args : List Value) (site : CallSite) : Except CallError (Reply ε) :=
  match t.findByName? name with
  | none => .error (.unknownName name)
  | some id => t.call perform engine id args site

end Table

end Adventure.Bridge

import Adventure.Decimal.Numeral

/-!
# Command line arguments

Options take a value, behind an equals sign or as the next argument; flags take none. Everything is
given by its full name and at most once, calls aside. An argument that looks like an option is never
taken as a value. The value of an option is looked at when the next known option or flag comes, or
at the end of the line.

See section 10.4 of the specification.
-/

namespace Adventure.Command

/-- Why a command line is not understood, or the request for a text about the program. -/
inductive UsageError where
  | unknownArgument
  | badValue
  /-- No value, or an empty path. -/
  | missingValue
  | conflict
  /-- A flag with a value. -/
  | unexpectedValue
  | helpRequested
  | versionRequested
  deriving DecidableEq, Repr

inductive Setting where
  | resources
  | module
  | pc
  | seed
  | ticks
  | tickMs
  | call
  | caller
  | report
  deriving DecidableEq, Repr

inductive Flag where
  | listFunctions
  | verbose
  | help
  | version
  deriving DecidableEq, Repr

def Setting.ofName? (name : String) : Option Setting :=
  match name with
  | "resources" => some .resources
  | "module" => some .module
  | "pc" => some .pc
  | "seed" => some .seed
  | "ticks" => some .ticks
  | "tick-ms" => some .tickMs
  | "call" => some .call
  | "caller" => some .caller
  | "report" => some .report
  | _ => none

def Flag.ofName? (name : String) : Option Flag :=
  match name with
  | "list-functions" => some .listFunctions
  | "verbose" => some .verbose
  | "help" => some .help
  | "version" => some .version
  | _ => none

/-- What a command line says. -/
structure Arguments where
  resources : Option String
  module : Option String
  pc : Option String
  seed : Option UInt64
  ticks : Option UInt32
  tickMs : Option UInt64
  calls : List String
  caller : Option String
  report : Option String
  listFunctions : Bool
  verbose : Bool
  deriving DecidableEq, Repr

namespace Arguments

def empty : Arguments := ⟨none, none, none, none, none, none, [], none, none, false, false⟩

/-! ### Values -/

/-- Gives a value to something that must not have one yet. -/
def once {α β : Type} (current : Option α) (value : Except UsageError α) (set : α → β) :
    Except UsageError β :=
  if current.isSome then .error .conflict else value.map set

/-- A path must not be empty. -/
def path (value : String) : Except UsageError String :=
  if value.isEmpty then .error .missingValue else .ok value

/-- A number that is read without fault. -/
def number {α : Type} : Except Decimal.IntError α → Except UsageError α
  | .ok n => .ok n
  | .error _ => .error .badValue

/-- A number of ticks. It is read with its sign and must fit four bytes without one, so that a
negative zero is zero. -/
def tickCount (value : String) : Except UsageError UInt32 :=
  match Decimal.readInt64 value with
  | .ok n => if 0 ≤ n ∧ n ≤ 4294967295 then .ok (UInt32.ofNat n.toInt.toNat) else .error .badValue
  | .error _ => .error .badValue

def give (a : Arguments) (s : Setting) (value : String) : Except UsageError Arguments :=
  match s with
  | .resources => once a.resources (path value) fun v => { a with resources := some v }
  | .module => once a.module (.ok value) fun v => { a with module := some v }
  | .pc => once a.pc (.ok value) fun v => { a with pc := some v }
  | .seed => once a.seed (number (Decimal.readUInt64 value)) fun n => { a with seed := some n }
  | .ticks => once a.ticks (tickCount value) fun n => { a with ticks := some n }
  | .tickMs =>
    once a.tickMs (number (Decimal.readUInt64 value)) fun n => { a with tickMs := some n }
  | .call => .ok { a with calls := a.calls ++ [value] }
  | .caller => once a.caller (.ok value) fun v => { a with caller := some v }
  | .report => once a.report (path value) fun v => { a with report := some v }

def raise (a : Arguments) (f : Flag) : Except UsageError Arguments :=
  match f with
  | .listFunctions =>
    if a.listFunctions then .error .conflict else .ok { a with listFunctions := true }
  | .verbose => if a.verbose then .error .conflict else .ok { a with verbose := true }
  | .help => .error .helpRequested
  | .version => .error .versionRequested

/-! ### Reading a line -/

/-- An option that waits for the next argument, or whose value has not been looked at yet. -/
structure Waiting where
  setting : Setting
  value : Option String

def settle (a : Arguments) : Option Waiting → Except UsageError Arguments
  | none => .ok a
  | some ⟨_, none⟩ => .error .missingValue
  | some ⟨s, some value⟩ => a.give s value

inductive Token where
  /-- Two hyphens alone. -/
  | escape
  | long (name : String) (value : Option String)
  | short (letter : Char)
  | plain (text : String)

def Token.ofText (text : String) : Token :=
  match text.toList with
  | ['-', '-'] => .escape
  | '-' :: '-' :: cs =>
    let name := String.ofList (cs.takeWhile (· ≠ '='))
    match cs.dropWhile (· ≠ '=') with
    | [] => .long name none
    | _ :: value => .long name (some (String.ofList value))
  | '-' :: c :: _ => .short c
  | _ => .plain text

/-- Takes an option or a flag with its value into account. -/
def readLong (a : Arguments) (waiting : Option Waiting) (name : String) (value : Option String) :
    Except UsageError (Arguments × Option Waiting) :=
  match Setting.ofName? name, Flag.ofName? name with
  | some s, _ => do
    let a ← a.settle waiting
    match value with
    | some value => return (← a.give s value, none)
    | none => return (a, some ⟨s, none⟩)
  | none, some f =>
    if value.isSome then .error .unexpectedValue
    else do
      let a ← a.settle waiting
      return (← a.raise f, none)
  | none, none => .error .unknownArgument

/-- A flag of one letter: both ask for a text. -/
def readShort (a : Arguments) (waiting : Option Waiting) (letter : Char) :
    Except UsageError Arguments :=
  if letter = 'h' then a.settle waiting >>= fun a => a.raise .help
  else if letter = 'V' then a.settle waiting >>= fun a => a.raise .version
  else .error .unknownArgument

def readFrom (a : Arguments) (waiting : Option Waiting) :
    List String → Except UsageError Arguments
  | [] => a.settle waiting
  | text :: rest =>
    match Token.ofText text with
    | .escape => if rest.isEmpty then a.settle waiting else .error .unknownArgument
    | .long name value => do
      let (a, waiting) ← a.readLong waiting name value
      a.readFrom waiting rest
    | .short letter => do
      let a ← a.readShort waiting letter
      a.readFrom none rest
    | .plain text =>
      match waiting with
      | some ⟨s, none⟩ => a.readFrom (some ⟨s, some text⟩) rest
      | _ => .error .unknownArgument

def read (line : List String) : Except UsageError Arguments := empty.readFrom none line

end Arguments

end Adventure.Command

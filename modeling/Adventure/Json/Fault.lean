import Adventure.Text.Quoted

/-!
# What is wrong with a JSON text

A fault is found while reading, where only the characters still ahead are known; it says how many
bytes of the text stand behind its place. Its report names the line and the column: lines count from
one, columns are the bytes of the line up to the place.
-/

namespace Adventure.Json

/-! ### Kinds of faults -/

/-- A value that stands where an object should. -/
inductive Misfit where
  | null
  | bool (b : Bool)
  | integer (n : Int)
  | float (text : String)
  | string (s : String)
  | sequence
  deriving DecidableEq, Repr

def Misfit.text : Misfit → String
  | .null => "null"
  | .bool b => "boolean `" ++ (if b then "true" else "false") ++ "`"
  | .integer n => "integer `" ++ toString n ++ "`"
  | .float text => "floating point `" ++ text ++ "`"
  | .string s => "string " ++ Text.quoted s
  | .sequence => "sequence"

inductive FaultKind where
  | endInList
  | endInObject
  | endInString
  | endInValue
  | expectedColon
  | expectedCommaOrBracket
  | expectedCommaOrBrace
  | badWord
  | expectedValue
  | badEscape
  | badNumber
  | numberOutOfRange
  | controlCharacter
  | nameNotString
  | loneSurrogate
  | unfinishedPair
  | trailingComma
  | trailingCharacters
  | tooDeep
  /-- A value that no field can hold. -/
  | noField
  | notAnObject (found : Misfit)
  deriving DecidableEq, Repr

def FaultKind.message : FaultKind → String
  | .endInList => "EOF while parsing a list"
  | .endInObject => "EOF while parsing an object"
  | .endInString => "EOF while parsing a string"
  | .endInValue => "EOF while parsing a value"
  | .expectedColon => "expected `:`"
  | .expectedCommaOrBracket => "expected `,` or `]`"
  | .expectedCommaOrBrace => "expected `,` or `\x7d`"
  | .badWord => "expected ident"
  | .expectedValue => "expected value"
  | .badEscape => "invalid escape"
  | .badNumber => "invalid number"
  | .numberOutOfRange => "number out of range"
  | .controlCharacter => "control character (\\u0000-\\u001F) found while parsing a string"
  | .nameNotString => "key must be a string"
  | .loneSurrogate => "lone leading surrogate in hex escape"
  | .unfinishedPair => "unexpected end of hex escape"
  | .trailingComma => "trailing comma"
  | .trailingCharacters => "trailing characters"
  | .tooDeep => "recursion limit exceeded"
  | .noField => "data did not match any variant of untagged enum Field"
  | .notAnObject found => "invalid type: " ++ found.text ++ ", expected a map"

/-! ### Faults while reading -/

/-- A fault, and the number of bytes behind its place. -/
structure Fault where
  kind : FaultKind
  left : Nat
  deriving DecidableEq, Repr

def byteCount (cs : List Char) : Nat := cs.foldr (fun c count => c.utf8Size + count) 0

/-- What a reader of `α` makes of the characters ahead: a value and those behind it. -/
abbrev Reading (α : Type) := Except Fault (α × List Char)

/-- Stops in front of `cs`. -/
def stopBefore {α : Type} (kind : FaultKind) (cs : List Char) : Except Fault α :=
  .error ⟨kind, byteCount cs⟩

/-- Stops behind the first byte of `cs`, or at the end when there is none. -/
def stopIn {α : Type} (kind : FaultKind) (cs : List Char) : Except Fault α :=
  .error ⟨kind, byteCount cs - 1⟩

/-! ### Reports -/

structure Place where
  line : Nat
  column : Nat
  deriving DecidableEq, Repr

/-- The place `n` bytes further on in the characters `cs`. -/
def Place.advance (p : Place) : Nat → List Char → Place
  | _, [] => p
  | n, c :: cs =>
    if n < c.utf8Size then { p with column := p.column + n }
    else
      Place.advance (if c = '\n' then ⟨p.line + 1, 0⟩ else ⟨p.line, p.column + c.utf8Size⟩)
        (n - c.utf8Size) cs

structure Report where
  kind : FaultKind
  place : Place
  deriving DecidableEq, Repr

def Fault.report (f : Fault) (text : String) : Report :=
  let cs := text.toList
  ⟨f.kind, Place.advance ⟨1, 0⟩ (byteCount cs - f.left) cs⟩

def Report.message (r : Report) : String :=
  r.kind.message ++ " at line " ++ toString r.place.line ++ " column " ++ toString r.place.column

end Adventure.Json

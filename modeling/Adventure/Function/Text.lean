import Adventure.Function.Basic
import Adventure.Text.Blank
import Adventure.Text.Casing

/-!
# Functions on texts

Lengths, cuts, searches and case, all counted in characters, and the conversions between texts and
numbers. Counts that are negative or too large are brought into range.

See section 10.9 of the specification.
-/

namespace Adventure.Function

open Bridge

/-! ### Cuts -/

def takeRight (n : Nat) (cs : List Char) : List Char := cs.drop (cs.length - n)

/-- The text with another one put in before character `at_`, or behind it if it is shorter. -/
def insertAt (cs new : List Char) (at_ : Nat) : List Char := cs.take at_ ++ new ++ cs.drop at_

/-- At most `n` characters from `start` on; none before the beginning. -/
def cut (cs : List Char) (start : Int32) (n : Nat) : List Char :=
  if start < 0 then [] else (cs.drop (count start)).take n

/-- The first place of a text from `start` on where `needle` begins. An empty needle is nowhere. -/
def find? (cs needle : List Char) (start : Nat) : Except Panic (Option Nat) := do
  if needle.isEmpty || cs.length ≤ start then return none
  else
    let stretches ← Text.windows needle.length (← Text.charsFrom cs start)
    return (stretches.findIdx? (· = needle)).map (start + ·)

def scriptIndex : Option Nat → Int32
  | some i => if i ≤ 2147483647 then Int32.ofInt i else -1
  | none => -1

/-! ### Numbers in texts -/

/-- A number of a type with these bounds. -/
def inBounds (lo hi : Int) (doing : String) (n : Int) : Except Panic Int :=
  if lo ≤ n ∧ n ≤ hi then .ok n else .error (.overflow doing)

def inEightBytes (doing : String) (n : Int) : Except Panic Int :=
  inBounds (-9223372036854775808) 9223372036854775807 doing n

/-- A number with one more digit behind it, which is given by its byte. Numbers from `2 ^ 31` on all
count as `2 ^ 31`. -/
def appendDigit (n : Int) (byte : UInt8) : Except Panic Int := do
  let digit ← inBounds 0 255 "subtract" ((byte.toNat : Int) - 48)
  let shifted ← inEightBytes "multiply" (n * 10)
  let sum ← inEightBytes "add" (shifted + digit)
  return min sum 2147483648

def takeSignByte (cs : List Char) : Except Panic (Bool × List Char) := do
  match (Text.bytes cs).head? with
  | some 0x2D => return (true, ← Text.sliceFrom cs 1)
  | some 0x2B => return (false, ← Text.sliceFrom cs 1)
  | _ => return (false, cs)

/-- The whole number a text begins with, behind white space; zero if it begins with none. It is
brought into the range of script numbers. -/
def leadingInt (cs : List Char) : Except Panic Int32 := do
  let (negative, rest) ← takeSignByte (Text.dropBlank cs)
  let digits ← Text.sliceTo rest (Text.placeOrEnd (fun c => !Decimal.isDigit c) rest)
  let magnitude ← (Text.bytes digits).foldlM appendDigit 0
  let n ← if negative then inEightBytes "negate" (-magnitude) else pure magnitude
  return Int32.ofInt (max (-2147483648) (min 2147483647 n))

def isNumeric (c : Char) : Bool := Decimal.isDigit c || c ∈ ['+', '-', '.', 'e', 'E']

/-- The number in the first `n` bytes, or else in fewer of them, the longest first. -/
def longestFloat (cs : List Char) : Nat → Except Panic (Option Float32)
  | 0 => return none
  | n + 1 => do
    match Decimal.readFloat32 (String.ofList (← Text.sliceTo cs (n + 1))) with
    | .ok x => return some x
    | .error _ => longestFloat cs n

/-- The longest decimal number a text begins with, behind white space; zero if it begins with none,
or with one that is out of range. -/
def leadingFloat (cs : List Char) : Except Panic Float32 := do
  let rest := Text.dropBlank cs
  let candidate ← Text.sliceTo rest (Text.placeOrEnd (fun c => !isNumeric c) rest)
  match ← longestFloat candidate (Text.byteSize candidate) with
  | some x => return if x.isFinite then x else 0
  | none => return 0

/-! ### The functions -/

inductive TextFunction where
  | length
  | upperCase
  | lowerCase
  | right
  | left
  | insert
  | subString
  | find
  | ofInt
  | ofFloat
  | ofObject
  | toInt
  | toFloat
  deriving DecidableEq, Repr

def textValue (cs : List Char) : Value := .string (String.ofList cs)

def TextFunction.perform (f : TextFunction) (c : CallContext) : Attempt Value := do
  match f with
  | .length => return .int (scriptCount (← c.string 0).length)
  | .upperCase => return .string (Text.upper (← c.string 0))
  | .lowerCase => return .string (Text.lower (← c.string 0))
  | .right => return textValue (takeRight (count (← c.int 1)) (← c.string 0).toList)
  | .left => return textValue ((← c.string 0).toList.take (count (← c.int 1)))
  | .insert =>
    return textValue (insertAt (← c.string 0).toList (← c.string 1).toList (count (← c.int 2)))
  | .subString => return textValue (cut (← c.string 0).toList (← c.int 1) (count (← c.int 2)))
  | .find =>
    let found ← find? (← c.string 0).toList (← c.string 1).toList (count (← c.int 2))
    return .int (scriptIndex found)
  | .ofInt => return .string (toString (← c.int 0).toInt)
  | .ofFloat =>
    let text ← floatText (← c.float 0) (← c.int 1) (← c.int 2)
    return .string text
  | .ofObject => return .string (← c.object 0).text
  | .toInt => return .int (← leadingInt (← c.string 0).toList)
  | .toFloat => return .float (← leadingFloat (← c.string 0).toList)

end Adventure.Function

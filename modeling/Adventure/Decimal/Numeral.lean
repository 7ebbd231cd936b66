import Adventure.Decimal.Shortest

/-!
# Reading numbers

Whole numbers in a radix with an optional sign, refused with the first thing that is wrong from the
left; and decimal numbers, read as digits and a power of ten and rounded once to the nearest float.
-/

namespace Adventure.Decimal

/-! ### Whole numbers -/

inductive IntError where
  | empty
  | badDigit
  | tooLarge
  | tooSmall
  deriving DecidableEq, Repr

def IntError.message : IntError → String
  | .empty => "cannot parse integer from empty string"
  | .badDigit => "invalid digit found in string"
  | .tooLarge => "number too large to fit in target type"
  | .tooSmall => "number too small to fit in target type"

/-- The value of a digit in a radix of at most 36, letters in either case. -/
def digitValue (radix : Nat) (c : Char) : Option Nat :=
  let v :=
    if '0' ≤ c ∧ c ≤ '9' then some (c.toNat - '0'.toNat)
    else if 'a' ≤ c ∧ c ≤ 'z' then some (c.toNat - 'a'.toNat + 10)
    else if 'A' ≤ c ∧ c ≤ 'Z' then some (c.toNat - 'A'.toNat + 10)
    else none
  v.filter (· < radix)

/-- Appends digits to a number, upward or downward, and stops at the first that is no digit or
leaves the range. -/
def appendDigits (radix : Nat) (negative : Bool) (lo hi : Int) :
    Int → List Char → Except IntError Int
  | acc, [] => .ok acc
  | acc, c :: cs =>
    match digitValue radix c with
    | none => .error .badDigit
    | some d =>
      let next := if negative then acc * radix - d else acc * radix + d
      if hi < next then .error .tooLarge
      else if next < lo then .error .tooSmall
      else appendDigits radix negative lo hi next cs

/-- Reads a whole number between `lo` and `hi`. A minus sign is allowed only if `lo` is negative. -/
def readInt (radix : Nat) (lo hi : Int) (text : String) : Except IntError Int :=
  match text.toList with
  | [] => .error .empty
  | ['+'] => .error .badDigit
  | ['-'] => .error .badDigit
  | '+' :: cs => appendDigits radix false lo hi 0 cs
  | '-' :: cs => if lo < 0 then appendDigits radix true lo hi 0 cs else .error .badDigit
  | cs => appendDigits radix false lo hi 0 cs

def readInt32 (text : String) : Except IntError Int32 :=
  (readInt 10 (-2147483648) 2147483647 text).map Int32.ofInt

def readInt64 (text : String) : Except IntError Int64 :=
  (readInt 10 (-9223372036854775808) 9223372036854775807 text).map Int64.ofInt

def readUInt32 (radix : Nat) (text : String) : Except IntError UInt32 :=
  (readInt radix 0 4294967295 text).map fun n => UInt32.ofNat n.toNat

def readUInt64 (text : String) : Except IntError UInt64 :=
  (readInt 10 0 18446744073709551615 text).map fun n => UInt64.ofNat n.toNat

/-! ### Decimal numbers -/

inductive FloatError where
  | empty
  | invalid
  deriving DecidableEq, Repr

def FloatError.message : FloatError → String
  | .empty => "cannot parse float from empty string"
  | .invalid => "invalid float literal"

/-- A signed decimal: `± digits * 10 ^ exponent`. -/
structure Numeral where
  negative : Bool
  digits : Nat
  exponent : Int
  deriving DecidableEq, Repr

def digitsValue (cs : List Char) : Nat :=
  cs.foldl (fun n c => n * 10 + (c.toNat - '0'.toNat)) 0

def isDigit (c : Char) : Bool := '0' ≤ c && c ≤ '9'

def takeSign : List Char → Bool × List Char
  | '-' :: cs => (true, cs)
  | '+' :: cs => (false, cs)
  | cs => (false, cs)

/-- Takes an exponent off the front: `e` or `E`, an optional sign and at least one digit. Anything
less leaves the text alone. -/
def takeExponent : List Char → Int × List Char
  | [] => (0, [])
  | c :: cs =>
    let (negative, rest) := takeSign cs
    let digits := rest.takeWhile isDigit
    if (c == 'e' || c == 'E') && !digits.isEmpty then
      let n : Int := digitsValue digits
      (if negative then -n else n, rest.dropWhile isDigit)
    else (0, c :: cs)

/-- Takes digits with an optional point among or around them off the front: the digits before the
point, those after it, and the rest. -/
def takeMantissa (cs : List Char) : Option (List Char × List Char × List Char) :=
  let whole := cs.takeWhile isDigit
  match cs.dropWhile isDigit with
  | '.' :: rest =>
    let fraction := rest.takeWhile isDigit
    if whole.isEmpty && fraction.isEmpty then none
    else some (whole, fraction, rest.dropWhile isDigit)
  | rest => if whole.isEmpty then none else some (whole, [], rest)

/-- The longest decimal number at the front of the text, and what follows it. -/
def numeral? (cs : List Char) : Option (Numeral × List Char) :=
  let (negative, unsigned) := takeSign cs
  match takeMantissa unsigned with
  | none => none
  | some (whole, fraction, rest) =>
    let (e, rest) := takeExponent rest
    some (⟨negative, digitsValue (whole ++ fraction), e - fraction.length⟩, rest)

/-- The bit pattern of the float nearest to a numeral. Numbers far outside the range of the format
are settled by their decimal place alone. -/
def Numeral.bits (f : Format) (n : Numeral) : Nat :=
  let place := digitCount n.digits + n.exponent
  let magnitude :=
    if n.digits = 0 then 0
    else if 400 < place then f.infinity
    else if place < -400 then 0
    else f.nearest (n.digits * Nat.pow 10 n.exponent.toNat) (Nat.pow 10 (-n.exponent).toNat)
  magnitude + (if n.negative then f.signWeight else 0)

def Format.quietNaN (f : Format) : Nat := f.infinity + f.unit / 2

/-- The words for infinity and NaN, in any case. -/
def wordBits? (f : Format) (negative : Bool) (cs : List Char) : Option Nat :=
  let sign := if negative then f.signWeight else 0
  match String.ofList (cs.map Char.toLower) with
  | "inf" => some (f.infinity + sign)
  | "infinity" => some (f.infinity + sign)
  | "nan" => some (f.quietNaN + sign)
  | _ => none

/-- Reads a whole text as a float of format `f`. -/
def readBits (f : Format) (text : String) : Except FloatError Nat :=
  let cs := text.toList
  if cs.isEmpty then .error .empty
  else
    match numeral? cs with
    | some (n, []) => .ok (n.bits f)
    | _ =>
      let (negative, rest) := takeSign cs
      match wordBits? f negative rest with
      | some bits => .ok bits
      | none => .error .invalid

def Numeral.toFloat32 (n : Numeral) : Float32 := Float32.ofBits (UInt32.ofNat (n.bits single))

def readFloat32 (text : String) : Except FloatError Float32 :=
  (readBits single text).map fun bits => Float32.ofBits (UInt32.ofNat bits)

def readFloat64 (text : String) : Except FloatError Float :=
  (readBits double text).map fun bits => Float.ofBits (UInt64.ofNat bits)

end Adventure.Decimal

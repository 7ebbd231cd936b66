import Adventure.Decimal.Shortest

/-!
# How a float is written

A layout says which numbers are written positionally, whether whole numbers keep a point, whether
positive exponents have a sign, and how a tie between two shortest decimals goes. The layouts this
library uses are `plain` and `exact`; the text files have their own.
-/

namespace Adventure.Decimal

/-- The decisions behind one way of writing floats. -/
structure Layout where
  /-- Of two shortest decimals equally near, which one. -/
  tie : Tie
  /-- Positional when the decimal point stands right of this place, counted from the first digit. -/
  after : Option Int
  /-- Positional when the decimal point stands at this place or left of it. -/
  upto : Option Int
  /-- Whole numbers keep `.0`. -/
  pointed : Bool
  /-- Positive exponents have a plus sign. -/
  plus : Bool

/-- Always positional, whole numbers without a point. -/
def plain : Layout := ⟨.up, none, none, false, false⟩

/-- Whole numbers keep `.0`; an exponent below `1e-4` and from `1e16` on. -/
def exact : Layout := ⟨.up, some (-4), some 16, true, false⟩

/-- Digits before and after a point that stands `place` digits into `digits`. -/
def positional (pointed : Bool) (digits : List Char) (place : Int) : String :=
  if (digits.length : Int) ≤ place then
    String.ofList (digits ++ List.replicate (place - digits.length).toNat '0')
      ++ (if pointed then ".0" else "")
  else if 0 < place then
    String.ofList (digits.take place.toNat) ++ "." ++ String.ofList (digits.drop place.toNat)
  else
    "0." ++ String.ofList (List.replicate (-place).toNat '0' ++ digits)

/-- One digit, the rest behind a point, and the exponent. -/
def scientific (plus : Bool) (digits : List Char) (place : Int) : String :=
  let rest := digits.drop 1
  String.ofList (digits.take 1)
    ++ (if rest.isEmpty then "" else "." ++ String.ofList rest)
    ++ "e" ++ (if plus && 1 < place then "+" else "") ++ toString (place - 1)

def Layout.decimal (l : Layout) (d : Scientific) : String :=
  let digits := Nat.toDigits 10 d.digits
  let place := digits.length + d.exponent
  if l.after.all (· < place) && l.upto.all (place ≤ ·) then positional l.pointed digits place
  else scientific l.plus digits place

/-- The text of a value in format `f`. The sign of zero is written, that of NaN is not. -/
def Layout.text (l : Layout) (f : Format) : Datum → String
  | .nan => "NaN"
  | .infinite negative => (if negative then "-" else "") ++ "inf"
  | .finite negative m q =>
    (if negative then "-" else "")
      ++ (if m = 0 then (if l.pointed then "0.0" else "0") else l.decimal (shortest l.tie f m q))

def Layout.text32 (l : Layout) (x : Float32) : String := l.text single (datum32 x)

def Layout.text64 (l : Layout) (x : Float) : String := l.text double (datum64 x)

end Adventure.Decimal

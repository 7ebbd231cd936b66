import Adventure.Decimal.Binary

/-!
# A fixed number of places

The exact binary value rounded to a given number of decimals, a half to the even neighbour, and
padding with blanks to a width counted in characters.
-/

namespace Adventure.Decimal

/-- The digits of `n`, with zeros in front up to `width` characters. -/
def zeroPadded (width n : Nat) : String :=
  let digits := Nat.toDigits 10 n
  String.ofList (List.replicate (width - digits.length) '0' ++ digits)

/-- The text of `units / 10 ^ places` with exactly `places` decimals. -/
def fixedText (places units : Nat) : String :=
  let whole := toString (units / Nat.pow 10 places)
  if places = 0 then whole else whole ++ "." ++ zeroPadded places (units % Nat.pow 10 places)

/-- A value with `places` decimals; infinities and NaN have none. -/
def fixed (places : Nat) : Datum → String
  | .nan => "NaN"
  | .infinite negative => (if negative then "-" else "") ++ "inf"
  | .finite negative m q =>
    (if negative then "-" else "")
      ++ fixedText places (roundHalfEven (scaledNum m q * Nat.pow 10 places) (scaledDen q))

/-- On which side the blanks go. -/
inductive Side where
  | left
  | right
  deriving DecidableEq, Repr

/-- Blanks up to `width` characters, on the given side of the text. -/
def padTo (side : Side) (width : Nat) (text : String) : String :=
  let blanks := String.ofList (List.replicate (width - text.length) ' ')
  match side with
  | .left => blanks ++ text
  | .right => text ++ blanks

end Adventure.Decimal

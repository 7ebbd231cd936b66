import Adventure.Decimal.Binary

/-!
# The fewest digits that read back

A finite binary value lies in an interval of reals that round to it. Its shortest decimal is the
point with the fewest digits inside that interval, and the nearest of those. The search goes through
the decimal grids from one digit upward and tests the two grid points around the value.
-/

namespace Adventure.Decimal

/-- Which of two decimals equally near to the value is taken. -/
inductive Tie where
  | up
  | even
  deriving DecidableEq, Repr

/-- A decimal number: `digits * 10 ^ exponent`. -/
structure Scientific where
  digits : Nat
  exponent : Int
  deriving DecidableEq, Repr

/-- How many decimal digits a natural number has; zero has one. -/
def digitCount (n : Nat) : Nat := (Nat.toDigits 10 n).length

/-- The largest `k` with `10 ^ k ≤ num / den`, for a positive quotient. -/
def decimalExponent (num den : Nat) : Int :=
  if den ≤ num then (digitCount (num / den) : Int) - 1
  else
    let inverse := (den + num - 1) / num
    Int.neg (digitCount (inverse - 1))

/-- The reals that round to a value: the bounds over one common denominator, and whether they
belong to it. -/
structure Interval where
  low : Nat
  value : Nat
  high : Nat
  den : Nat
  closed : Bool

/-- The interval around `m * 2 ^ q`. Below a power of two the neighbours stand twice as close. -/
def Interval.around (f : Format) (m : Nat) (q : Int) : Interval :=
  let below := if m = f.unit ∧ f.least < q then 1 else 2
  { low := scaledNum (4 * m - below) (q - 2)
    value := scaledNum (4 * m) (q - 2)
    high := scaledNum (4 * m + 2) (q - 2)
    den := scaledDen (q - 2)
    closed := m % 2 == 0 }

/-- Does `d * 10 ^ e` lie in the interval? -/
def Interval.holds (i : Interval) (d : Nat) (e : Int) : Bool :=
  let point := d * Nat.pow 10 e.toNat * i.den
  let scale := Nat.pow 10 (-e).toNat
  if i.closed then i.low * scale ≤ point && point ≤ i.high * scale
  else i.low * scale < point && point < i.high * scale

/-- The grid point of step `10 ^ e` that stands for the interval, if the grid has one inside. -/
def Interval.pick (tie : Tie) (i : Interval) (e : Int) : Option Nat :=
  let scaled := i.value * Nat.pow 10 (-e).toNat
  let step := i.den * Nat.pow 10 e.toNat
  let floor := scaled / step
  let rest := scaled % step
  match i.holds floor e, i.holds (floor + 1) e with
  | false, false => none
  | true, false => some floor
  | false, true => some (floor + 1)
  | true, true =>
    if 2 * rest < step then some floor
    else if step < 2 * rest then some (floor + 1)
    else match tie with
      | .up => some (floor + 1)
      | .even => some (floor + floor % 2)

/-- The first grid with a point in the interval, from exponent `e` downward; `fuel` bounds the
number of grids. -/
def Interval.search (tie : Tie) (i : Interval) : Nat → Int → Scientific
  | 0, e => ⟨i.value * Nat.pow 10 (-e).toNat / (i.den * Nat.pow 10 e.toNat), e⟩
  | fuel + 1, e =>
    match i.pick tie e with
    | some d => ⟨d, e⟩
    | none => Interval.search tie i fuel (e - 1)

/-- Takes trailing zeros off the digits; `fuel` bounds their number. -/
def Scientific.strip : Nat → Scientific → Scientific
  | 0, d => d
  | fuel + 1, d =>
    if d.digits ≠ 0 ∧ d.digits % 10 = 0 then
      Scientific.strip fuel ⟨d.digits / 10, d.exponent + 1⟩
    else d

/-- The shortest decimal of the positive value `m * 2 ^ q`. Seventeen digits are enough for every
format of at most 53 bits. -/
def shortest (tie : Tie) (f : Format) (m : Nat) (q : Int) : Scientific :=
  let i := Interval.around f m q
  Scientific.strip 20 (i.search tie 17 (decimalExponent i.value i.den))

end Adventure.Decimal

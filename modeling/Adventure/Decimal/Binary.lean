/-!
# Binary floating-point formats

A binary format is given by the width of its significand, the exponent of its smallest unit and the
number of its exponent codes. Here a bit pattern is taken apart into sign, significand and exponent,
and a positive quotient of natural numbers is rounded to the nearest pattern, halves to the even
neighbour. Everything is exact arithmetic on natural numbers.
-/

namespace Adventure.Decimal

structure Format where
  /-- Bits of a full significand, its leading one included. -/
  precision : Nat
  /-- Exponent of the unit in the last place of the smallest values. -/
  least : Int
  /-- How many codes the exponent field has; the last one is for infinities and NaN. -/
  exponents : Nat
  deriving DecidableEq, Repr

def single : Format := ⟨24, -149, 256⟩

def double : Format := ⟨53, -1074, 2048⟩

/-- What a bit pattern stands for; a finite value is `significand * 2 ^ exponent`. -/
inductive Datum where
  | nan
  | infinite (negative : Bool)
  | finite (negative : Bool) (significand : Nat) (exponent : Int)
  deriving DecidableEq, Repr

def scaledNum (m : Nat) (q : Int) : Nat := m * Nat.pow 2 q.toNat

def scaledDen (q : Int) : Nat := Nat.pow 2 (-q).toNat

/-- The quotient rounded to the nearest natural number, a half to the even one. -/
def roundHalfEven (num den : Nat) : Nat :=
  let whole := num / den
  let rest := num % den
  if 2 * rest < den then whole
  else if den < 2 * rest then whole + 1
  else whole + whole % 2

namespace Format

/-- The least significand with its leading one in place. -/
def unit (f : Format) : Nat := Nat.pow 2 (f.precision - 1)

def infinity (f : Format) : Nat := (f.exponents - 1) * f.unit

/-- The weight of the sign bit. -/
def signWeight (f : Format) : Nat := f.exponents * f.unit

def decode (f : Format) (bits : Nat) : Datum :=
  let negative := bits / f.signWeight % 2 == 1
  let code := bits % f.signWeight / f.unit
  let fraction := bits % f.unit
  if code + 1 = f.exponents then
    if fraction = 0 then .infinite negative else .nan
  else if code = 0 then .finite negative fraction f.least
  else .finite negative (f.unit + fraction) (f.least + code - 1)

/-- The exponent that gives the positive quotient `num / den` a full significand, or the least
exponent of the format when that is larger. -/
def exponentOf (f : Format) (num den : Nat) : Int :=
  let guess : Int := num.log2 - den.log2 - f.precision
  let top : Int := guess + f.precision
  let e := if scaledNum den top ≤ num * scaledDen top then guess + 1 else guess
  max e f.least

/-- The pattern nearest to the quotient `num / den`, infinity when it is out of range. -/
def nearest (f : Format) (num den : Nat) : Nat :=
  if num = 0 then 0
  else
    let e := f.exponentOf num den
    let significand := roundHalfEven (num * scaledDen e) (den * Nat.pow 2 e.toNat)
    min f.infinity ((e - f.least).toNat * f.unit + significand)

end Format

def datum32 (x : Float32) : Datum := single.decode x.toBits.toNat

def datum64 (x : Float) : Datum := double.decode x.toBits.toNat

end Adventure.Decimal

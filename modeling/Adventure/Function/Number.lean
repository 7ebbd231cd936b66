import Adventure.Function.Basic

/-!
# Functions on numbers and vectors

Arithmetic gives zero where the result is no number or not finite. Functions that have no exact
result are computed with eight bytes and rounded once.

See section 10.9 of the specification.
-/

namespace Adventure.Function

open Bridge

/-- A result that must be a finite number. -/
def finiteOrZero (x : Float32) : Float32 := if x.isFinite then x else 0

/-- A function computed with eight bytes and rounded to four. -/
def rounded (f : Float → Float) (x : Float32) : Float32 := (f x.toFloat).toFloat32

/-- The point of the unit circle at an angle in degrees. -/
def unitAt (angle : Float32) : Vec3 :=
  let a := radians angle
  ⟨rounded Float.cos a, rounded Float.sin a, 0⟩

/-- The angle of a vector in the plane, in degrees from zero to 360. -/
def angleOf (v : Vec3) : Float32 :=
  let d := degrees (direction v.x v.y)
  if d < 0 then d + 360 else d

inductive FloatFunction where
  | abs
  | cos
  | sin
  | tan
  | acos
  | asin
  | atan
  | log
  | sqrt
  deriving DecidableEq, Repr

def FloatFunction.apply : FloatFunction → Float32 → Float32
  | .abs => Float32.abs
  | .cos => rounded Float.cos
  | .sin => rounded Float.sin
  | .tan => rounded Float.tan
  | .acos => rounded Float.acos
  | .asin => rounded Float.asin
  | .atan => rounded Float.atan
  | .log => rounded Float.log
  | .sqrt => Float32.sqrt

inductive NumberFunction where
  | float (f : FloatFunction)
  | pow
  | absInt
  | ofInt
  | toInt
  /-- A length multiplied by a factor given by its bits. -/
  | scaled (factor : UInt32)
  /-- A number of periods of the given number of seconds. -/
  | periods (seconds : Nat)
  | magnitude
  | normalize
  | vector
  | ofAngle
  | toAngle
  /-- The same number at every call. -/
  | constant (n : Int32)
  deriving DecidableEq, Repr

def NumberFunction.perform (f : NumberFunction) (c : CallContext) : Attempt Value := do
  match f with
  | .float f => return .float (finiteOrZero (f.apply (← c.float 0)))
  | .pow =>
    let x ← c.float 0
    let y ← c.float 1
    return .float (finiteOrZero (Float.pow x.toFloat y.toFloat).toFloat32)
  | .absInt => return .int (← c.int 0).abs
  | .ofInt => return .float (← c.int 0).toFloat32
  | .toInt => return .int (← c.float 0).toInt32
  | .scaled factor => return .float ((← c.float 0) * Float32.ofBits factor)
  | .periods seconds => return .float ((← c.int 0).toFloat32 * seconds.toFloat32)
  | .magnitude => return .float (← c.vector 0).length
  | .normalize => return .vector (← c.vector 0).normalizeOrZero
  | .vector => return .vector ⟨← c.float 0, ← c.float 1, ← c.float 2⟩
  | .ofAngle => return .vector (unitAt (← c.float 0))
  | .toAngle => return .float (angleOf (← c.vector 0))
  | .constant n => return .int n

end Adventure.Function

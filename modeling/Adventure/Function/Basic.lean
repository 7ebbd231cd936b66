import Adventure.Decimal.Fixed
import Adventure.Session.Basic

/-!
# Handlers

What the handlers of script functions have in common: they read their parameters by number, and they
answer with a value or with what stopped them.

See section 4.6 of the specification.
-/

namespace Adventure.Function

abbrev Attempt := Except Trouble

/-- A parameter that is missing or of another type stops the handler. -/
instance : MonadLift (Except ValueError) Attempt where
  monadLift
    | .ok a => .ok a
    | .error e => .error (.failure (.of (.value e)))

/-- What breaks off in a handler's work breaks the handler off. -/
instance : MonadLift (Except Panic) Attempt where
  monadLift
    | .ok a => .ok a
    | .error p => .error (.panic p)

instance : MonadLift (Except Text.SliceError) (Except Panic) where
  monadLift
    | .ok a => .ok a
    | .error e => .error (.slice e)

def stop {α : Type} (cause : Cause) : Attempt α := .error (.failure (.of cause))

/-- A script-supplied count or index; negative means zero. -/
def count (n : Int32) : Nat := n.toInt.toNat

/-- A number of things as scripts see it, at most the largest script number. -/
def scriptCount (n : Nat) : Int32 := Int32.ofInt (min n 2147483647)

/-- A script-supplied delay in seconds as milliseconds; negative and no number mean none. -/
def delay (seconds : Float32) : UInt64 :=
  let seconds := if seconds > 0 then seconds else 0
  (seconds * 1000).toUInt64

/-- The text of a float padded to a width; a negative width pads behind it. The width has a
limit. -/
def floatText (x : Float32) (width decimals : Int32) : Attempt String :=
  let places := (max 0 (min 64 decimals.toInt)).toNat
  let pad := width.toInt.natAbs
  if 65535 < pad then .error (.panic .widthOutOfRange)
  else
    .ok (Decimal.padTo (if width < 0 then .right else .left) pad
      (Decimal.fixed places (Decimal.datum32 x)))

end Adventure.Function

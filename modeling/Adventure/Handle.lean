/-!
# Handles

Scripts name objects by handle. A handle is a plain number that may outlive its object; the last
number is set aside for the handle that never names anything.

See section 3 of the specification.
-/

namespace Adventure

/-- A script-side name of an object. -/
structure Handle where
  raw : UInt32
  deriving DecidableEq, Repr

namespace Handle

/-- The handle that names nothing. -/
def invalid : Handle := ⟨4294967295⟩

instance : Inhabited Handle := ⟨invalid⟩

def isValid (h : Handle) : Bool := h != invalid

/-- Drops the handle that names nothing. -/
def valid? (h : Handle) : Option Handle := if h.isValid then some h else none

def text (h : Handle) : String :=
  let digits := Nat.toDigits 16 h.raw.toNat
  String.ofList (List.replicate (8 - digits.length) '0' ++ digits)

end Handle

end Adventure

import Adventure.Decimal.Layout

/-!
# Vectors

Positions, directions and rotations: three four-byte floats. Sums go from left to right and nothing
is fused, so each result is the one the separate operations give.
-/

namespace Adventure

structure Vec3 where
  x : Float32
  y : Float32
  z : Float32

namespace Vec3

def zero : Vec3 := ⟨0, 0, 0⟩

def one : Vec3 := ⟨1, 1, 1⟩

instance : Inhabited Vec3 := ⟨zero⟩

def sub (a b : Vec3) : Vec3 := ⟨a.x - b.x, a.y - b.y, a.z - b.z⟩

def scale (a : Vec3) (s : Float32) : Vec3 := ⟨a.x * s, a.y * s, a.z * s⟩

def dot (a b : Vec3) : Float32 := a.x * b.x + a.y * b.y + a.z * b.z

def length (a : Vec3) : Float32 := (a.dot a).sqrt

def distance (a b : Vec3) : Float32 := (a.sub b).length

/-- The sum of the distances along the axes. -/
def manhattan (a b : Vec3) : Float32 :=
  let d := a.sub b
  d.x.abs + d.y.abs + d.z.abs

/-- The vector of length one in the same direction, zero if there is none. -/
def normalizeOrZero (a : Vec3) : Vec3 :=
  let r := 1 / a.length
  if r.isFinite && r > 0 then a.scale r else zero

/-- Equal coordinates as numbers: both zeros are equal, a NaN is not equal to itself. -/
def numEq (a b : Vec3) : Bool := a.x == b.x && a.y == b.y && a.z == b.z

end Vec3

/-! ### Angles -/

/-- Degrees of an angle in radians. -/
def degrees (x : Float32) : Float32 := x * Float32.ofBits 0x42652ee1

/-- Radians of an angle in degrees. -/
def radians (x : Float32) : Float32 := x * (Float32.ofBits 0x40490fdb / 180)

/-- The angle of a direction in the plane, in radians. -/
def direction (x y : Float32) : Float32 := (Float.atan2 y.toFloat x.toFloat).toFloat32

/-- The bearing of a direction in degrees, zero along the first axis and for no direction. -/
def bearing (x y : Float32) : Float32 :=
  if x == 0 && y == 0 then 0 else degrees (direction x y)

/-- A place of a float in the total order of floats: negative numbers, the two zeros, positive
numbers, and NaN last. There is one NaN here; the signs and payloads of NaNs are identified. -/
def totalKey (x : Float32) : Int :=
  let bits := x.toBits.toNat
  if bits < 2147483648 then bits else 2147483647 - (bits : Int)

end Adventure

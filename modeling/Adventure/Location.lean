import Adventure.Handle
import Adventure.Vector

/-!
# Locations

A point in an area with a facing, passed around by value. The area is only named: it may be gone by
the time the location is used.

See sections 3 and 4.2 of the specification.
-/

namespace Adventure

/-- A place and a facing in degrees. -/
structure Location where
  area : Option Handle
  position : Vec3
  facing : Float32

namespace Location

/-- A location; the handle that names nothing stands for no area. -/
def make (area : Option Handle) (position : Vec3) (facing : Float32) : Location :=
  ⟨area.bind Handle.valid?, position, facing⟩

def none : Location := ⟨Option.none, Vec3.zero, 0⟩

instance : Inhabited Location := ⟨none⟩

def setArea (l : Location) (area : Option Handle) : Location :=
  { l with area := area.bind Handle.valid? }

def setPosition (l : Location) (position : Vec3) : Location := { l with position }

def setFacing (l : Location) (facing : Float32) : Location := { l with facing }

/-- Equal areas, and coordinates and facings equal as numbers. -/
def numEq (a b : Location) : Bool :=
  a.area == b.area && a.position.numEq b.position && a.facing == b.facing

def text (l : Location) : String :=
  let number := Decimal.exact.text32
  let area := match l.area with
    | .some h => "Some(ObjectId(" ++ toString h.raw.toNat ++ "))"
    | .none => "None"
  "Location \x7b area: " ++ area ++ ", position: Vec3(" ++ number l.position.x ++ ", "
    ++ number l.position.y ++ ", " ++ number l.position.z ++ "), facing: " ++ number l.facing
    ++ " \x7d"

end Location

end Adventure

import Adventure.Dict
import Adventure.Location

/-!
# Local variables

Variables that scripts attach to an object, by name and separately for each type. A variable that
was never set reads as the default of its type.

See section 10.7 of the specification.
-/

namespace Adventure

structure Locals where
  ints : Dict Int32
  floats : Dict Float32
  strings : Dict String
  objects : Dict Handle
  locations : Dict Location

namespace Locals

def empty : Locals := ⟨[], [], [], [], []⟩

def getInt (l : Locals) (name : String) : Int32 := (l.ints.find? name).getD 0

def setInt (l : Locals) (name : String) (n : Int32) : Locals :=
  { l with ints := l.ints.insert name n }

def deleteInt (l : Locals) (name : String) : Locals := { l with ints := l.ints.erase name }

def getFloat (l : Locals) (name : String) : Float32 := (l.floats.find? name).getD 0

def setFloat (l : Locals) (name : String) (x : Float32) : Locals :=
  { l with floats := l.floats.insert name x }

def deleteFloat (l : Locals) (name : String) : Locals := { l with floats := l.floats.erase name }

def getString (l : Locals) (name : String) : String := (l.strings.find? name).getD ""

def setString (l : Locals) (name text : String) : Locals :=
  { l with strings := l.strings.insert name text }

def deleteString (l : Locals) (name : String) : Locals := { l with strings := l.strings.erase name }

def getObject (l : Locals) (name : String) : Handle := (l.objects.find? name).getD .invalid

def setObject (l : Locals) (name : String) (h : Handle) : Locals :=
  { l with objects := l.objects.insert name h }

def deleteObject (l : Locals) (name : String) : Locals := { l with objects := l.objects.erase name }

def getLocation (l : Locals) (name : String) : Option Location := l.locations.find? name

def setLocation (l : Locals) (name : String) (place : Location) : Locals :=
  { l with locations := l.locations.insert name place }

def deleteLocation (l : Locals) (name : String) : Locals :=
  { l with locations := l.locations.erase name }

end Locals

end Adventure

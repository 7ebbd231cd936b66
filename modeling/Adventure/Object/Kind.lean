/-!
# Kinds of objects

The kinds of objects the game knows, the type bits scripts use for them, and the numbers scripts use
for abilities and alignments.

See section 10.7 of the specification.
-/

namespace Adventure

/-- A set of object types, one bit each. -/
structure ObjectType where
  bits : UInt32
  deriving DecidableEq, Repr

namespace ObjectType

def none : ObjectType := ⟨0⟩

def creature : ObjectType := ⟨1⟩

def door : ObjectType := ⟨8⟩

def waypoint : ObjectType := ⟨32⟩

def placeable : ObjectType := ⟨64⟩

/-- Every type, and what scripts see for something that is no game object. -/
def all : ObjectType := ⟨0x7FFF⟩

/-- The types of a script number; a negative number has none. -/
def ofScript (n : Int32) : ObjectType := if n < 0 then none else ⟨n.toUInt32⟩

def number (t : ObjectType) : Int32 := t.bits.toInt32

def intersects (a b : ObjectType) : Bool := a.bits &&& b.bits != 0

end ObjectType

inductive ObjectKind where
  | module
  | area
  | creature
  | door
  | placeable
  | waypoint
  deriving DecidableEq, Repr

namespace ObjectKind

def all : List ObjectKind := [.module, .area, .creature, .door, .placeable, .waypoint]

def type : ObjectKind → ObjectType
  | .module => .none
  | .area => .none
  | .creature => .creature
  | .door => .door
  | .placeable => .placeable
  | .waypoint => .waypoint

def name : ObjectKind → String
  | .module => "module"
  | .area => "area"
  | .creature => "creature"
  | .door => "door"
  | .placeable => "placeable"
  | .waypoint => "waypoint"

/-- Can it be placed in an area and found by type? -/
def isGameObject : ObjectKind → Bool
  | .module => false
  | .area => false
  | _ => true

end ObjectKind

inductive Ability where
  | strength
  | dexterity
  | constitution
  | intelligence
  | wisdom
  | charisma
  deriving DecidableEq, Repr

namespace Ability

def all : List Ability :=
  [.strength, .dexterity, .constitution, .intelligence, .wisdom, .charisma]

def ofScript? (n : Int32) : Option Ability := if n < 0 then none else all[n.toInt.toNat]?

def field : Ability → String
  | .strength => "Str"
  | .dexterity => "Dex"
  | .constitution => "Con"
  | .intelligence => "Int"
  | .wisdom => "Wis"
  | .charisma => "Cha"

def name : Ability → String
  | .strength => "Strength"
  | .dexterity => "Dexterity"
  | .constitution => "Constitution"
  | .intelligence => "Intelligence"
  | .wisdom => "Wisdom"
  | .charisma => "Charisma"

end Ability

/-- The race of something that has none. -/
def raceInvalid : UInt32 := 28

/-- Lawful from 70 on, chaotic up to 30, neutral between. -/
def alignmentLawChaos (value : UInt8) : Int32 :=
  if 70 ≤ value then 2 else if value ≤ 30 then 3 else 1

/-- Good from 70 on, evil up to 30, neutral between. -/
def alignmentGoodEvil (value : UInt8) : Int32 :=
  if 70 ≤ value then 4 else if value ≤ 30 then 5 else 1

end Adventure

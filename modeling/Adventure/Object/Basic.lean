import Adventure.Object.Kind
import Adventure.Object.Locals
import Adventure.Object.Model

/-!
# Objects

Everything the game keeps of an object: what all objects have, and in `details` what its kind adds.
The setters keep the model of an object in step with it.

See sections 3 and 4.1 of the specification.
-/

namespace Adventure

/-! ### What the kinds add -/

structure Abilities where
  strength : UInt8
  dexterity : UInt8
  constitution : UInt8
  intelligence : UInt8
  wisdom : UInt8
  charisma : UInt8
  deriving DecidableEq, Repr

namespace Abilities

def average : Abilities := ⟨10, 10, 10, 10, 10, 10⟩

def get (a : Abilities) : Ability → UInt8
  | .strength => a.strength
  | .dexterity => a.dexterity
  | .constitution => a.constitution
  | .intelligence => a.intelligence
  | .wisdom => a.wisdom
  | .charisma => a.charisma

/-- The scores given by a function of the abilities. -/
def ofFn (f : Ability → UInt8) : Abilities :=
  ⟨f .strength, f .dexterity, f .constitution, f .intelligence, f .wisdom, f .charisma⟩

end Abilities

structure Creature where
  appearance : Option UInt32
  gender : Gender
  race : UInt32
  lawChaos : UInt8
  goodEvil : UInt8
  abilities : Abilities
  currentHp : Int32
  maxHp : Int32
  /-- Classes with their levels. -/
  classes : List (UInt32 × UInt32)
  isPc : Bool
  deriving DecidableEq, Repr

namespace Creature

def blank : Creature := ⟨none, .male, raceInvalid, 50, 50, .average, 1, 1, [], false⟩

def isDead (c : Creature) : Bool := c.currentHp ≤ 0

def levels (c : Creature) : Nat :=
  c.classes.foldr (fun (_, level) total => level.toNat + total) 0

end Creature

structure Sounds where
  opened : String
  closed : String
  destroyed : String
  used : String
  locked : String
  deriving DecidableEq, Repr

/-- What doors and placeables share. -/
structure Situated where
  appearance : Option UInt32
  locked : Bool
  soundType : Option UInt32
  sounds : Sounds
  deriving DecidableEq, Repr

def Situated.blank : Situated := ⟨none, false, none, ⟨"", "", "", "", ""⟩⟩

structure Door where
  situated : Situated
  isOpen : Bool
  /-- Tag of the place the door leads to. -/
  linkedTo : String
  deriving DecidableEq, Repr

structure Placeable where
  situated : Situated
  hasInventory : Bool
  deriving DecidableEq, Repr

structure Waypoint where
  hasMapNote : Bool
  noteEnabled : Bool
  mapNote : String
  noteShown : Bool
  deriving DecidableEq, Repr

/-- An area and the objects placed in it, in the order in which they came. -/
structure Area where
  resref : String
  objects : List Handle
  deriving DecidableEq, Repr

namespace Area

def addObject (a : Area) (h : Handle) : Area :=
  if h ∈ a.objects then a else { a with objects := a.objects ++ [h] }

def removeObject (a : Area) (h : Handle) : Area :=
  { a with objects := a.objects.filter (· ≠ h) }

end Area

/-- Where the player enters a module, its areas, and how fast time goes. -/
structure ModuleInfo where
  entryArea : String
  entryPosition : Vec3
  entryFacing : Float32
  minutesPerHour : UInt32
  areas : List String

def ModuleInfo.blank : ModuleInfo := ⟨"", .zero, 0, 2, []⟩

/-- What the kind of an object adds to it. -/
inductive Details where
  | module (m : ModuleInfo)
  | area (a : Area)
  | creature (c : Creature)
  | door (d : Door)
  | placeable (p : Placeable)
  | waypoint (w : Waypoint)

def Details.kind : Details → ObjectKind
  | .module _ => .module
  | .area _ => .area
  | .creature _ => .creature
  | .door _ => .door
  | .placeable _ => .placeable
  | .waypoint _ => .waypoint

/-! ### Objects -/

structure Object where
  id : Handle
  /-- The blueprint the object was built from. -/
  template : String
  tag : String
  name : String
  description : String
  portrait : String
  conversation : String
  isStatic : Bool
  usable : Bool
  commandable : Bool
  modelIds : List UInt32
  position : Vec3
  /-- The facing in degrees is its second coordinate. -/
  orientation : Vec3
  area : Option Handle
  /-- The player's creature in conversation with the object. -/
  pcSpeaker : Option Handle
  locals : Locals
  /-- Scripts by event. -/
  hooks : Dict String
  modelName : String
  model : Option Model
  loaded : Bool
  details : Details

namespace Object

def blank (id : Handle) (details : Details) : Object :=
  { id, template := "", tag := "", name := "", description := "", portrait := "",
    conversation := "", isStatic := false, usable := true, commandable := true, modelIds := [],
    position := .zero, orientation := .zero, area := none, pcSpeaker := none, locals := .empty,
    hooks := [], modelName := "", model := none, loaded := false, details }

def kind (o : Object) : ObjectKind := o.details.kind

def type (o : Object) : ObjectType := o.kind.type

def isClickable (o : Object) : Bool := !o.isStatic && o.usable

def facing (o : Object) : Float32 := o.orientation.y

def location (o : Object) : Location := .make o.area o.position o.facing

/-- Does the object have this tag, ASCII case aside? -/
def hasTag (o : Object) (tag : String) : Bool := Text.asciiLower o.tag = Text.asciiLower tag

/-- The script bound to an event; an empty name binds nothing. -/
def hook? (o : Object) (event : String) : Option String :=
  (o.hooks.find? event).filter (· ≠ "")

def isVisible (o : Object) : Bool := o.model.any Model.visible

def size (o : Object) : Vec3 := (o.model.map Model.size).getD .zero

/-! ### Views by kind -/

def creature? (o : Object) : Option Creature :=
  match o.details with
  | .creature c => some c
  | _ => none

def door? (o : Object) : Option Door :=
  match o.details with
  | .door d => some d
  | _ => none

def placeable? (o : Object) : Option Placeable :=
  match o.details with
  | .placeable p => some p
  | _ => none

def situated? (o : Object) : Option Situated :=
  match o.details with
  | .door d => some d.situated
  | .placeable p => some p.situated
  | _ => none

def waypoint? (o : Object) : Option Waypoint :=
  match o.details with
  | .waypoint w => some w
  | _ => none

def area? (o : Object) : Option Area :=
  match o.details with
  | .area a => some a
  | _ => none

def module? (o : Object) : Option ModuleInfo :=
  match o.details with
  | .module m => some m
  | _ => none

def isPc (o : Object) : Bool := o.creature?.any Creature.isPc

/-! ### Setters -/

def mapModel (o : Object) (f : Model → Model) : Object := { o with model := o.model.map f }

def setTag (o : Object) (tag : String) : Object :=
  { o with tag }.mapModel fun m => { m with tag }

def setPosition (o : Object) (position : Vec3) : Object :=
  { o with position }.mapModel fun m => { m with position }

def setOrientation (o : Object) (orientation : Vec3) : Object :=
  { o with orientation }.mapModel fun m => { m with rotation := modelRotation orientation }

def setFacing (o : Object) (facing : Float32) : Object :=
  o.setOrientation { o.orientation with y := facing }

def setHook (o : Object) (event script : String) : Object :=
  { o with hooks := o.hooks.insert event script }

def mapCreature (o : Object) (f : Creature → Creature) : Object :=
  match o.details with
  | .creature c => { o with details := .creature (f c) }
  | _ => o

def mapDoor (o : Object) (f : Door → Door) : Object :=
  match o.details with
  | .door d => { o with details := .door (f d) }
  | _ => o

def mapSituated (o : Object) (f : Situated → Situated) : Object :=
  match o.details with
  | .door d => { o with details := .door { d with situated := f d.situated } }
  | .placeable p => { o with details := .placeable { p with situated := f p.situated } }
  | _ => o

def mapWaypoint (o : Object) (f : Waypoint → Waypoint) : Object :=
  match o.details with
  | .waypoint w => { o with details := .waypoint (f w) }
  | _ => o

def mapArea (o : Object) (f : Area → Area) : Object :=
  match o.details with
  | .area a => { o with details := .area (f a) }
  | _ => o

/-- Shows the object: a waypoint's note if it has an enabled one, the model of everything else.
Modules and areas have nothing to show. -/
def reveal (o : Object) : Object :=
  match o.details with
  | .module _ => o
  | .area _ => o
  | .waypoint w =>
    { o with details := .waypoint { w with noteShown := w.hasMapNote && w.noteEnabled } }
  | _ => o.mapModel fun m => { m with visible := true }

/-- Hides what `reveal` shows. -/
def hide (o : Object) : Object :=
  match o.details with
  | .module _ => o
  | .area _ => o
  | .waypoint w => { o with details := .waypoint { w with noteShown := false } }
  | _ => o.mapModel fun m => { m with visible := false }

/-- Draws or drops the outline of a game object's model. -/
def highlight (o : Object) (enabled : Bool) : Object :=
  if o.kind.isGameObject then o.mapModel fun m => { m with bound := some enabled } else o

end Object

end Adventure

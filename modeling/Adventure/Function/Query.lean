import Adventure.Function.Basic

/-!
# Functions that look at the world

None of them changes anything. A handle that names nothing, or something of another kind, gives the
answer for nothing.

See section 10.9 of the specification.
-/

namespace Adventure.Function

open Bridge

/-! ### Reading one object -/

/-- A property of a live object, or the answer for nothing. -/
def ofObject {α : Type} (w : World) (h : Handle) (absent : α) (f : Object → α) : α :=
  ((w.get? h).map f).getD absent

def ofCreature {α : Type} (w : World) (h : Handle) (absent : α) (f : Creature → α) : α :=
  (((w.get? h).bind Object.creature?).map f).getD absent

/-- The area an object is in; an area is in itself. -/
def areaOf (o : Object) : Handle := if o.area?.isSome then o.id else o.area.getD .invalid

/-- The type number of an object; all types for one that is no game object. -/
def typeNumber (o : Object) : Int32 :=
  if o.kind.isGameObject then o.type.number else ObjectType.all.number

/-- A number without a sign as a script number, `-1` if it is too large. -/
def scriptNumber (n : UInt32) : Int32 := if n.toNat ≤ 2147483647 then n.toInt32 else -1

/-- The sum of a creature's levels; a sum of more than four bytes breaks play off, as it does in a
build with overflow checks. -/
def hitDice (c : Creature) : Attempt Int32 :=
  if 4294967295 < c.levels then .error (.panic .levelOverflow)
  else .ok (scriptCount c.levels)

/-! ### Distances -/

def distance? (w : World) (a b : Handle) : Option Float32 :=
  match w.get? a, w.get? b with
  | some a, some b =>
    if a.area.isSome && a.area == b.area then some (a.position.distance b.position) else none
  | _, _ => none

/-- The distance of two locations in one loaded area. -/
def locationDistance? (w : World) (a b : Option Location) : Option Float32 :=
  match a, b with
  | some a, some b =>
    if a.area == b.area && a.area.any w.isArea then some (a.position.distance b.position) else none
  | _, _ => none

/-! ### Local variables -/

inductive LocalType where
  | int
  | float
  | string
  | object
  | location
  deriving DecidableEq, Repr

def LocalType.get (t : LocalType) (l : Locals) (name : String) : Value :=
  match t with
  | .int => .int (l.getInt name)
  | .float => .float (l.getFloat name)
  | .string => .string (l.getString name)
  | .object => .object (l.getObject name)
  | .location => .ofLocation ((l.getLocation name).getD .none)

/-! ### The functions -/

/-- Functions that only look. -/
inductive Query where
  | area
  | enteringObject
  | exitingObject
  | position
  | facing
  | isValid
  | nearestCreature
  | nearestObject
  | nearestByTag
  | nearestToLocation
  | distanceToObject
  | distanceBetween
  | distanceBetweenLocations
  | currentHp
  | maxHp
  | localVariable (type : LocalType)
  | hoursToSeconds
  | objectType
  | race
  | lawChaos
  | goodEvil
  | alignmentLawChaos
  | alignmentGoodEvil
  | abilityScore
  | isDead
  | commandable
  | hitDice
  | tag
  | name
  | waypointByTag
  | objectByTag
  | location
  | makeLocation
  | locationPosition
  | locationArea
  | locationFacing
  | isPc
  | pcSpeaker
  | talkString
  | module
  deriving DecidableEq, Repr

/-- The location parameter of a number, if it holds a location. -/
def locationParam (c : CallContext) (index : Nat) : Attempt (Option Location) := do
  return (← c.param index).location?

def Query.perform (q : Query) (w : World) (c : CallContext) : Attempt Value := do
  match q with
  | .area => return .object (ofObject w (← c.object 0) .invalid areaOf)
  | .enteringObject => return .object w.entering
  | .exitingObject => return .object w.exiting
  | .position => return .vector (ofObject w (← c.object 0) .zero Object.position)
  | .facing => return .float (ofObject w (← c.object 0) 0 Object.facing)
  | .isValid => return .ofBool (w.registry.contains (← c.object 0))
  | .nearestCreature =>
    return .object (w.nearestTo (c.objectOrCaller 2) (← c.int 3) fun o => o.creature?.isSome)
  | .nearestObject =>
    let type := ObjectType.ofScript (← c.int 0)
    return .object (w.nearestTo (c.objectOrCaller 1) (← c.int 2) fun o => o.type.intersects type)
  | .nearestByTag =>
    let tag ← c.string 0
    return .object (w.nearestTo (c.objectOrCaller 1) (← c.int 2) fun o => o.hasTag tag)
  | .nearestToLocation =>
    let type := ObjectType.ofScript (← c.int 0)
    let nth ← c.int 2
    let place ← locationParam c 1
    match place.bind fun l => (w.loadedArea? l).map (·, l.position) with
    | some (there, point) =>
      return .object (World.pickNth
        (w.nearestObjects there point .invalid fun o => o.type.intersects type) nth)
    | none => return .object .invalid
  | .distanceToObject => return .float ((distance? w c.site.caller (← c.object 0)).getD (-1))
  | .distanceBetween => return .float ((distance? w (← c.object 0) (← c.object 1)).getD 0)
  | .distanceBetweenLocations =>
    return .float ((locationDistance? w (← locationParam c 0) (← locationParam c 1)).getD 0)
  | .currentHp => return .int (ofCreature w (c.objectOrCaller 0) 0 Creature.currentHp)
  | .maxHp => return .int (ofCreature w (c.objectOrCaller 0) 0 Creature.maxHp)
  | .localVariable type =>
    let name ← c.string 1
    let locals := ofObject w (← c.object 0) .empty Object.locals
    return type.get locals name
  | .hoursToSeconds =>
    return .float ((← c.int 0).toFloat32 * w.minutesPerHour.toFloat32 * 60)
  | .objectType =>
    return .int (ofObject w (← c.object 0) ObjectType.all.number typeNumber)
  | .race => return .int (scriptNumber (ofCreature w (← c.object 0) raceInvalid Creature.race))
  | .lawChaos => return .int (ofCreature w (← c.object 0) (-1) fun a => scriptCount a.lawChaos.toNat)
  | .goodEvil => return .int (ofCreature w (← c.object 0) (-1) fun a => scriptCount a.goodEvil.toNat)
  | .alignmentLawChaos =>
    return .int (ofCreature w (← c.object 0) (-1) fun a => Adventure.alignmentLawChaos a.lawChaos)
  | .alignmentGoodEvil =>
    return .int (ofCreature w (← c.object 0) (-1) fun a => Adventure.alignmentGoodEvil a.goodEvil)
  | .abilityScore =>
    match Ability.ofScript? (← c.int 1) with
    | some ability =>
      return .int (ofCreature w (← c.object 0) 0 fun a => scriptCount (a.abilities.get ability).toNat)
    | none => return .int 0
  | .isDead => return .ofBool (ofCreature w (← c.object 0) false Creature.isDead)
  | .commandable => return .ofBool (ofObject w (c.objectOrCaller 0) false Object.commandable)
  | .hitDice =>
    match (w.get? (← c.object 0)).bind Object.creature? with
    | some a => return .int (← Function.hitDice a)
    | none => return .int 0
  | .tag => return .string (ofObject w (← c.object 0) "" Object.tag)
  | .name => return .string (ofObject w (← c.object 0) "" Object.name)
  | .waypointByTag =>
    let handles := w.registry.withTag (← c.string 0)
    return .object ((handles.find? fun h => ((w.get? h).bind Object.waypoint?).isSome).getD .invalid)
  | .objectByTag => return .object (w.objectByTag (← c.string 0) (← c.int 1))
  | .location => return .ofLocation (ofObject w (← c.object 0) .none Object.location)
  | .makeLocation =>
    let area ← c.object 0
    return .ofLocation
      (.make (if w.isArea area then some area else none) (← c.vector 1) (← c.float 2))
  | .locationPosition =>
    return .vector (((← locationParam c 0).map Location.position).getD .zero)
  | .locationArea =>
    return .object (((← locationParam c 0).bind w.loadedArea?).getD .invalid)
  | .locationFacing =>
    return .float (((← locationParam c 0).map Location.facing).getD 0)
  | .isPc => return .ofBool (w.isPc (← c.object 0))
  | .pcSpeaker =>
    return .object (((w.get? c.site.caller).bind Object.pcSpeaker).getD .invalid)
  | .talkString =>
    let gender := Gender.ofScript (← c.int 1)
    let n ← c.int 0
    return .string (if n < 0 then "" else w.library.talk.get n.toUInt32 gender)
  | .module => return .object w.moduleId

end Adventure.Function

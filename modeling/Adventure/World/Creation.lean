import Adventure.World.Conversation

/-!
# Creating and destroying objects

Creatures, placeables and waypoints can be created from their blueprints in a loaded area.
Everything but modules and areas can be destroyed.

See section 10.8 of the specification.
-/

namespace Adventure.World

def creatable? (t : ObjectType) : Option Object.PlacedKind :=
  if t = .creature then some .creature
  else if t = .placeable then some .placeable
  else if t = .waypoint then some .waypoint
  else none

def loadedArea? (w : World) (place : Location) : Option Handle := place.area.filter w.isArea

/-- Dresses a new object: its blueprint name, a tag if one is given, its place, and whether it can
be seen. -/
def dress (template tag : String) (place : Location) (area : Handle) (visible : Bool) (o : Object) :
    Object :=
  let o := { o with template }
  let o := if tag.isEmpty then o else o.setTag tag
  let o := ({ o with area := some area }.setFacing place.facing).setPosition place.position
  if visible then o.reveal else o

def addObject (w : World) (o : Object) (area : Handle) : World :=
  let w := w.update area fun a => a.mapArea fun list => list.addObject o.id
  let w := w.setRegistry (w.registry.register o)
  w.logEvent ("object.create " ++ o.tag ++ " (#" ++ o.id.text ++ ")")

def createObject (w : World) (t : ObjectType) (template : String) (place : Location)
    (tag : String) : Except Failure Handle × World :=
  match creatable? t with
  | none => (.error (.of (.load (.unsupportedType t.number))), w)
  | some kind =>
    match w.loadedArea? place with
    | none => (.error (.of (.nowhereToCreate template)), w)
    | some area =>
      match w.library.resources.load kind.blueprintKind template with
      | .error e => (.error (.of (.load e)), w)
      | .ok none => (.error (.of (.load (.missingResource template kind.blueprintKind))), w)
      | .ok (some blueprint) =>
        let (h, registry) := w.registry.issue
        match Object.load w.library [] (some blueprint) (.blank h kind.blank) w.models with
        | .error e => (.error (.of (.load e)), w.setRegistry registry)
        | .ok (o, models) =>
          let o := dress template tag place area (w.currentArea = some area) o
          (.ok h, { w with registry, models }.addObject o area)

def delist (w : World) (o : Object) : World :=
  match o.area with
  | some area => w.update area fun a => a.mapArea fun list => list.removeObject o.id
  | none => w

def inConversation (w : World) (h : Handle) : Bool :=
  w.conversation.any fun c => c.object = h || c.pc = h

/-- Takes a live game object out of the world. -/
def removeObject (w : World) (h : Handle) : Bool × World :=
  let w := if w.inConversation h then w.endConversation else w
  let (removed, registry) := w.registry.unregister h
  match removed with
  | none => (false, w)
  | some o =>
    let w := (w.setRegistry registry).delist o
    let w := { w with
      pc := if w.pc = some h then none else w.pc
      walks := w.walks.filter fun ((caller, _), _) => caller ≠ h }
    (true, w.logEvent ("object.destroy " ++ o.tag ++ " (#" ++ h.text ++ ")"))

/-- Destroys an object. Answers whether it was there and could be destroyed. -/
def destroyObject (w : World) (h : Handle) : Bool × World :=
  match w.get? h with
  | none => (false, w)
  | some o => if o.kind.isGameObject then w.removeObject h else (false, w)

end Adventure.World

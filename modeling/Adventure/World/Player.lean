import Adventure.World.Areas

/-!
# The player's creature

One creature at a time is the player's. Another that takes its place drives it out of the world.

See section 10.8 of the specification.
-/

namespace Adventure.World

def usePc (w : World) (h : Handle) : Except Failure Unit × World :=
  match (w.get? h).filter fun o => o.creature?.isSome with
  | none => (.error (.of (.notACreature h)), w)
  | some o =>
    let w := w.update h fun o => o.mapCreature fun c => { c with isPc := true }
    let registry := match w.pc with
      | some old => if old = h then w.registry else (w.registry.unregister old).2
      | none => w.registry
    let w := { w with registry, pc := some h }
    (.ok (), w.logEvent ("pc.use " ++ o.tag ++ " (#" ++ h.text ++ ")"))

/-- Builds a creature from a record and makes it the player's. -/
def loadPc (w : World) (r : Record) : Except Failure Handle × World :=
  let (h, registry) := w.registry.issue
  match Object.load w.library r none (.blank h (.creature .blank)) w.models with
  | .error e => (.error ((Failure.of (.load e)).during .loadingPlayer), w.setRegistry registry)
  | .ok (o, models) =>
    let w := { w with registry := registry.register o, models }
    let (result, w) := w.usePc h
    (result.map fun _ => h, w)

/-- Puts the player's creature at the entry of the module: which creature and the name of the entry
area. Its arrival is noticed later. -/
def placeAtEntry (w : World) : Except Failure (Handle × String) × World :=
  match w.pc with
  | none => (.error (.of .noPlayer), w)
  | some pc =>
    match w.moduleInfo? with
    | none => (.error (.of .noModule), w)
    | some m =>
      match w.area? m.entryArea with
      | none => (.error (.of (.entryAreaNotLoaded m.entryArea)), w)
      | some area =>
        let w := w.update pc fun o =>
          ({ o with area := some area }.setPosition m.entryPosition).setFacing m.entryFacing
        (.ok (pc, m.entryArea), w)

/-! ### Jumping -/

/-- Can the object jump into the area? It must be in an area, and the other one must be loaded. -/
def canJump (w : World) (h area : Handle) : Option Handle :=
  match (w.get? h).bind Object.area with
  | none => none
  | some current => if w.isArea area then some current else none

def changeLists (w : World) (h old new : Handle) : World :=
  (w.update old fun o => o.mapArea fun a => a.removeObject h).update new fun o =>
    o.mapArea fun a => a.addObject h

/-- Moves an object into another area. It is hidden when it leaves the area of the player's creature
and shown when it comes there. The player's creature is in no list of an area. -/
def changeArea (w : World) (h current area : Handle) : World :=
  let pcArea := w.pcArea?
  let w := w.update h fun o =>
    let o := if pcArea = some current then o.hide else o
    let o := { o with area := some area }
    if pcArea = some area then o.reveal else o
  if w.pc = some h then w else w.changeLists h current area

def relocate (w : World) (h current area : Handle) (position : Vec3) : World :=
  let w := if current = area then w else w.changeArea h current area
  w.update h fun o => o.setPosition position

end Adventure.World

import Adventure.World.Conversation

/-!
# Modules and areas

Loading a module loads its areas, loading an area builds everything placed in it. An object that
cannot be built is left out, and so is an area of the module that cannot be loaded. Unloading drops
objects for good; only the player's creature outlives its area.

See section 10.8 of the specification.
-/

namespace Adventure.World

/-! ### Areas -/

/-- The instance lists of an area's second record, in the order in which they are built. -/
def instanceLists : List (String × Object.PlacedKind) :=
  [("Creature List", .creature), ("Door List", .door), ("Placeable List", .placeable),
    ("WaypointList", .waypoint)]

def instances (git : Record) : List (Object.PlacedKind × Record) :=
  instanceLists.flatMap fun (list, kind) => (git.getList list).map (kind, ·)

/-- Objects being placed in an area: what has been built, and what was used up on the way. -/
structure Placing where
  registry : Registry
  models : Models
  placed : List Object

/-- Builds one more instance. Its handle is used up even if it cannot be built. -/
def Placing.add (lib : Library) (area : Handle) (p : Placing) (kind : Object.PlacedKind)
    (placed : Record) : Placing :=
  let (h, registry) := p.registry.issue
  match Object.loadInstance lib kind placed (.blank h kind.blank) p.models with
  | .ok (o, models) => ⟨registry, models, p.placed ++ [{ o with area := some area }]⟩
  | .error _ => { p with registry }

/-- The record of the instances in an area, empty if it cannot be read. -/
def instanceRecord (lib : Library) (resref : String) : Record :=
  match lib.resources.load .git resref with
  | .ok (some git) => git
  | _ => []

def addArea (w : World) (resref : String) (are : Record) : Handle × World :=
  let (h, registry) := w.registry.issue
  let start : Placing := ⟨registry, w.models, []⟩
  let done := (instances (instanceRecord w.library resref)).foldl
    (fun p (kind, placed) => p.add w.library h kind placed) start
  let area := Object.loadArea w.library resref are (.blank h (.area ⟨resref, []⟩))
  let area := area.mapArea fun a => done.placed.foldl (fun a o => a.addObject o.id) a
  let registry := (area :: done.placed).foldl Registry.register done.registry
  let w := { w with
    registry, models := done.models, areas := w.areas.insert (Text.asciiLower resref) h }
  (h, w.logEvent ("area.load " ++ area.tag ++ " (" ++ toString done.placed.length ++ " objects)"))

def loadArea (w : World) (resref : String) : Except Failure Handle × World :=
  match w.area? resref with
  | some h => (.ok h, w)
  | none =>
    match w.library.resources.load .are resref with
    | .error e => (.error (.of (.load e)), w)
    | .ok none => (.error (.of (.load (.missingResource resref .are))), w)
    | .ok (some are) =>
      let (h, w) := w.addArea resref are
      (.ok h, w)

/-- Takes one object of an area that is being unloaded out of the world. The player's creature is
hidden and has no area any more. -/
def evict (w : World) (h : Handle) : World :=
  if w.pc = some h then w.update h fun o => { o.hide with area := none }
  else w.setRegistry (w.registry.unregister h).2

def unloadArea (w : World) (area : Handle) : World :=
  if w.isArea area then
    let w := (w.registry.inArea area).foldl evict w
    let (removed, registry) := w.registry.unregister area
    let w := w.setRegistry registry
    let w := match removed with
      | some o => w.logEvent ("area.unload " ++ o.tag)
      | none => w
    { w with
      areas := w.areas.filter fun (_, h) => h ≠ area
      walks := w.walks.filter fun ((_, walked), _) => walked ≠ area
      currentArea := if w.currentArea = some area then none else w.currentArea }
  else w

/-! ### Modules -/

/-- Drops everything the module owns. -/
def unload (w : World) : World :=
  let w := { w with queue := .empty, walks := [] }.endConversation
  let w := w.areas.values.foldl unloadArea w
  let registry := match w.pc with
    | some pc => (w.registry.unregister pc).2
    | none => w.registry
  let w := { w with
    pc := none
    registry := registry.clear
    moduleId := .invalid
    currentArea := none
    tokens := []
    entering := .invalid
    exiting := .invalid }
  w.logEvent "module.unload"

/-- The areas a module loads: those it lists, or its entry area if it lists none. -/
def areasToLoad (m : ModuleInfo) : List String :=
  if m.areas.isEmpty && !m.entryArea.isEmpty then [m.entryArea] else m.areas

/-- Puts the object of a module into the world and loads its areas. -/
def addModule (w : World) (name : String) (ifo : Record) : World :=
  let (h, registry) := w.registry.issue
  let o := Object.loadModule w.library name ifo (.blank h (.module .blank))
  let w := { w with registry := registry.register o, moduleId := h }
  let areas := ((o.module?).map areasToLoad).getD []
  let w := areas.foldl (fun w area => (w.loadArea area).2) w
  w.logEvent ("module.load " ++ o.tag ++ " (" ++ toString w.areas.length ++ " areas)")

/-- Loads a module in place of the one that is loaded. -/
def loadModule (w : World) (name : String) : Except Failure Unit × World :=
  let w := if w.isLoaded then w.unload else w
  match w.library.resources.load .ifo name with
  | .error e => (.error ((Failure.of (.load e)).during (.loadingModule name)), w)
  | .ok none => (.error (.of (.moduleNotFound name)), w)
  | .ok (some ifo) => (.ok (), w.addModule name ifo)

end Adventure.World

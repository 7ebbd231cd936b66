import Adventure.Scenario.Stage

/-!
# Building and changing objects in a scenario

Steps may build an object of any kind from records of their own, and set single properties of
objects, past the operations of the world that keep them in step with each other.
-/

namespace Adventure.Scenario

/-! ### Building -/

def placedKind? : ObjectKind → Option Object.PlacedKind
  | .creature => some .creature
  | .door => some .door
  | .placeable => some .placeable
  | .waypoint => some .waypoint
  | .area => none
  | .module => none

/-- What the kind of an object adds before any record is applied. -/
def blankDetails (kind : ObjectKind) (name : String) : Details :=
  match placedKind? kind with
  | some placed => placed.blank
  | none => if kind = .area then .area ⟨name, []⟩ else .module .blank

def Making.build (m : Making) (lib : Library) (r : Record) (o : Object) (models : Models) :
    Except LoadError (Object × Models) :=
  match placedKind? m.kind with
  | some placed =>
    match m.blueprint with
    | some blueprint => Object.load lib r (some blueprint) o models
    | none => Object.loadInstance lib placed r o models
  | none =>
    if o.loaded then .error (.loadedTwice o.id.text)
    else if m.kind = .area then .ok (Object.loadArea lib m.name r o, models)
    else .ok (Object.loadModule lib m.name r o, models)

/-- The handle of the object: the given one or a new one. -/
def Making.handle (m : Making) (r : Registry) : Handle × Registry :=
  match m.id with
  | some h => (h, r)
  | none => r.issue

/-- Builds an object from a record and registers what has been used up. -/
def buildIn {σ : Type} (m : Making) (r : Record) (o : Object) :
    Play σ (Except Failure Object) := do
  let w ← Play.world
  match m.build w.library r o w.models with
  | .error (.loadedTwice h) => throw (.loadedTwice h)
  | .error e => return .error (.of (.load e))
  | .ok (o, models) =>
    Play.change fun w => { w with models }
    return .ok o

def Making.complete {σ : Type} (m : Making) (o : Object) : Play σ (Except Failure Object) :=
  match m.record with
  | none => return .ok o
  | some r => do
    match ← buildIn m r o with
    | .error f => return .error f
    | .ok o => if m.twice then buildIn m r o else return .ok o

/-- Builds and registers an object. Its handle is used up even if it cannot be built. -/
def Making.add {σ : Type} (m : Making) : Play σ (Except Failure Handle) := do
  let h ← Play.act fun w =>
    let (h, registry) := m.handle w.registry
    (h, w.setRegistry registry)
  match ← m.complete (.blank h (blankDetails m.kind m.name)) with
  | .error f => return .error f
  | .ok o =>
    let o := match m.tag with
      | some tag => o.setTag tag
      | none => o
    Play.change fun w => w.setRegistry (w.registry.register o)
    return .ok h

/-! ### Changing -/

def Property.apply (w : World) (site : Bridge.CallSite) (p : Property) (o : Object) :
    Option Object :=
  match p with
  | .shown b => some (if b then o.reveal else o.hide)
  | .highlighted b => some (o.highlight b)
  | .position v => some (o.setPosition v)
  | .orientation v => some (o.setOrientation v)
  | .facing x => some (o.setFacing x)
  | .tag s => some (o.setTag s)
  | .name s => some { o with name := s }
  | .conversation s => some { o with conversation := s }
  | .commandable b => some { o with commandable := b }
  | .hook event script => some (o.setHook event script)
  | .pcSpeaker s => some { o with pcSpeaker := s.map fun s => s.resolve w site }
  | .isPc b => o.creature?.map fun _ => o.mapCreature fun c => { c with isPc := b }
  | .locked b => o.situated?.map fun _ => o.mapSituated fun s => { s with locked := b }
  | .isOpen b => o.door?.map fun _ => o.mapDoor fun d => { d with isOpen := b }
  | .noteEnabled b => o.waypoint?.map fun _ => o.mapWaypoint fun a => { a with noteEnabled := b }

/-- Changes a property of a live object. Answers whether it has the property. -/
def setProperty (w : World) (site : Bridge.CallSite) (h : Handle) (p : Property) : Bool × World :=
  match (w.get? h).bind (p.apply w site) with
  | some o => (true, w.update h fun _ => o)
  | none => (false, w)

end Adventure.Scenario

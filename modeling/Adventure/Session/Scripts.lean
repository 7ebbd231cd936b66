import Adventure.Session.Basic

/-!
# Scripts in play

Running scripts and the hooks of objects, and everything that may run a hook on its way: the
player's creature coming into another area, jumping, entering the module, and delayed actions.

See sections 4.4 and 10.8 of the specification.
-/

namespace Adventure.Play

variable {σ : Type}

/-! ### Scripts and hooks -/

/-- Hands a script to the interpreter. An empty name runs nothing. -/
def runScript (run : Runner σ) (r : Request) : Play σ (Except Failure Unit) :=
  if r.script.isEmpty then return .ok ()
  else do
    change fun w => w.logEvent ("script.run " ++ r.script ++ " (owner " ++ r.owner.text ++ ")")
    run r

/-- Runs the script that a live object has for an event, if it has one. Its failure is passed
over. -/
def runHook (run : Runner σ) (h : Handle) (event : String) (triggerer : Handle) : Play σ Unit := do
  match ((← world).get? h).bind fun o => o.hook? event with
  | none => return ()
  | some script =>
    let _ ← runScript run ⟨script, none, h, triggerer⟩
    return ()

/-! ### The player's creature on its way -/

def leaveArea (run : Runner σ) (pc : Handle) : Option Handle → Play σ Unit
  | none => return ()
  | some old => do
    change fun w => { w with exiting := pc }.setAreaVisible old false
    runHook run old "OnExit" pc

def enterArea (run : Runner σ) (pc : Handle) : Option Handle → Play σ Unit
  | none => return ()
  | some new => do
    change fun w => { w with entering := pc }.setAreaVisible new true
    runHook run new "OnEnter" pc
    change fun w => w.logEvent ("pc.area " ++ w.tagOf new)

/-- Notices that the player's creature has moved: when its area is another one than before, what is
visible changes and the hooks of both areas run. -/
def movedPc (run : Runner σ) : Play σ Unit := do
  let w ← world
  match w.pc with
  | none => return ()
  | some pc =>
    let new := w.pcArea?
    if new = w.currentArea then return ()
    else
      leaveArea run pc w.currentArea
      change fun w => { w with currentArea := new }
      enterArea run pc new

/-- Moves an object to a place in a loaded area. Answers whether it could jump; if not, nothing
changes. -/
def jumpTo (run : Runner σ) (h area : Handle) (position : Vec3) : Play σ Bool := do
  let w ← world
  match w.canJump h area with
  | none => return false
  | some current =>
    change fun w => w.relocate h current area position
    if w.pc = some h then movedPc run
    return true

/-- Puts the player's creature at the entry of the module and runs the hooks for its arrival. -/
def enter (run : Runner σ) : Play σ (Except Failure Unit) := do
  match ← act World.placeAtEntry with
  | .error e => return .error e
  | .ok (pc, entry) =>
    movedPc run
    runHook run (← world).moduleId "OnClientEntr" pc
    change fun w => w.logEvent ("module.enter " ++ entry)
    return .ok ()

/-- Moves the player's creature to a place in a loaded area, given by resource name. -/
def movePc (run : Runner σ) (area : String) (position : Vec3) : Play σ (Except Failure Unit) := do
  let w ← world
  match w.pc with
  | none => return .error (.of .noPlayer)
  | some pc =>
    match w.area? area with
    | none => return .error (.of (.areaNotLoaded area))
    | some target =>
      if ← jumpTo run pc target position then return .ok ()
      else return .error (.of (.playerCannotJump area))

/-! ### Delayed actions -/

/-- Carries out an action that has fallen due, if its owner and its triggerer are still there.
Answers whether it was carried out. The failure of a script is passed over. -/
def carryOut (run : Runner σ) (a : Action) : Play σ Bool := do
  let w ← world
  if w.isAlive a.owner && w.isAlive a.triggerer then
    match a.work with
    | .script name state => do let _ ← runScript run ⟨name, state, a.owner, a.triggerer⟩
    | .destroy => do let _ ← act fun w => w.destroyObject a.owner
    return true
  else return false

/-- Carries out actions in their order and counts those that were carried out. -/
def carryOutAll (run : Runner σ) : List Action → Play σ Nat
  | [] => return 0
  | a :: rest => do
    let done ← carryOut run a
    let others ← carryOutAll run rest
    return (if done then 1 else 0) + others

/-- Carries out every action that has fallen due. Actions queued on the way wait for the next
time. -/
def processActions (run : Runner σ) : Play σ Nat := do
  let due ← act fun w =>
    let (due, queue) := w.queue.drainDue w.clock
    (due, { w with queue })
  carryOutAll run due

/-! ### Doors -/

/-- Opens or closes a door on behalf of a caller. A locked door is not opened; a door that is
already as it should be stays as it is. -/
def setDoorOpen (run : Runner σ) (h caller : Handle) (wanted : Bool) : Play σ Unit := do
  match ((← world).get? h).bind fun o => o.door?.map (o.tag, ·) with
  | none => return ()
  | some (tag, door) =>
    if wanted && door.situated.locked then runHook run h "OnFailToOpen" caller
    else if door.isOpen = wanted then return ()
    else
      let (event, hook) := if wanted then ("open", "OnOpen") else ("close", "OnClosed")
      change fun w =>
        (w.update h fun o => o.mapDoor fun d => { d with isOpen := wanted }).logEvent
          ("door." ++ event ++ " " ++ tag)
      runHook run h hook caller

end Adventure.Play

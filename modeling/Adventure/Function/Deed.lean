import Adventure.Function.Basic
import Adventure.Session.Scripts

/-!
# Functions that may run scripts

Executing a script, opening and closing doors, and jumping: on their way hooks run, which may call
back into any function.

See section 10.9 of the specification.
-/

namespace Adventure.Function

open Bridge

/-- Functions that may run scripts before they return. -/
inductive Deed where
  | executeScript
  | openDoor
  | closeDoor
  | jumpToObject
  | jumpToLocation
  deriving DecidableEq, Repr

/-- What a deed is after its parameters have been read. -/
inductive Intent where
  | nothing
  | execute (script : String) (target : Handle)
  | door (h : Handle) (wanted : Bool)
  | jump (area : Handle) (position : Vec3) (facing : Option Float32)

def Deed.intent (d : Deed) (w : World) (c : CallContext) : Attempt Intent := do
  match d with
  | .executeScript =>
    let script ← c.string 0
    let target ← c.object 1
    return if w.registry.contains target then .execute script target else .nothing
  | .openDoor => return .door (← c.object 0) true
  | .closeDoor => return .door (← c.object 0) false
  | .jumpToObject =>
    match (w.get? (← c.object 0)).bind fun o => o.area.map (·, o.position) with
    | some (area, position) => return .jump area position none
    | none => return .nothing
  | .jumpToLocation =>
    match (← c.param 0).location?.bind fun l => l.area.map (·, l) with
    | some (area, place) => return .jump area place.position (some place.facing)
    | none => return .nothing

variable {σ : Type}

def Intent.carryOut (run : Runner σ) (caller : Handle) : Intent → Play σ (Except Failure Unit)
  | .nothing => return .ok ()
  | .execute script target => Play.runScript run ⟨script, none, target, caller⟩
  | .door h wanted => do
    Play.setDoorOpen run h caller wanted
    return .ok ()
  | .jump area position facing => do
    let jumped ← Play.jumpTo run caller area position
    match facing with
    | some facing => if jumped then Play.change fun w => w.update caller fun o => o.setFacing facing
    | none => pure ()
    return .ok ()

def Deed.perform (run : Runner σ) (d : Deed) (c : CallContext) : Play σ (Attempt Value) := do
  match d.intent (← Play.world) c with
  | .error e => return .error e
  | .ok intent =>
    match ← intent.carryOut run c.site.caller with
    | .ok () => return .ok c.preset
    | .error f => return .error (.failure f)

end Adventure.Function

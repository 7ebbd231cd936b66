import Adventure.Dice
import Adventure.Failure
import Adventure.Object.Loading
import Adventure.Queue
import Adventure.Registry

/-!
# The world

Everything a running module consists of: the registry of objects, the loaded areas, the player's
creature and the area it is in, the queue of delayed actions, the dice, the conversation, and the
trail of events that reports show. The operations of the other modules of this folder are functions
on this state; none of them runs a script.

See section 10.8 of the specification.
-/

namespace Adventure

/-- A conversation between the player's creature and an object. -/
structure Conversation where
  dialog : String
  pc : Handle
  object : Handle
  deriving DecidableEq, Repr

structure World where
  library : Library
  models : Models
  /-- The time in milliseconds. -/
  clock : UInt64
  registry : Registry
  /-- The module object; the handle that names nothing while no module is loaded. -/
  moduleId : Handle
  /-- Loaded areas by resource name in small letters. -/
  areas : Dict Handle
  /-- The area the player's creature is in, as far as has been noticed. -/
  currentArea : Option Handle
  pc : Option Handle
  queue : Queue
  dice : Dice
  tokens : Dict String
  /-- The walks of callers over areas. -/
  walks : List ((Handle × Handle) × Search)
  entering : Handle
  exiting : Handle
  conversation : Option Conversation
  events : List String

namespace World

/-- A world in which nothing is loaded. -/
def new (library : Library) (models : ModelSource) (clock seed : UInt64) : World :=
  { library, models := ⟨models, 0⟩, clock, registry := .empty, moduleId := .invalid, areas := [],
    currentArea := none, pc := none, queue := .empty, dice := .ofSeed seed, tokens := [],
    walks := [], entering := .invalid, exiting := .invalid, conversation := none, events := [] }

def logEvent (w : World) (event : String) : World := { w with events := w.events ++ [event] }

/-! ### Looking at the world -/

def get? (w : World) (h : Handle) : Option Object := w.registry.get? h

def tagOf (w : World) (h : Handle) : String := ((w.get? h).map Object.tag).getD ""

def isLoaded (w : World) : Bool := w.moduleId.isValid

def moduleInfo? (w : World) : Option ModuleInfo := (w.get? w.moduleId).bind Object.module?

def minutesPerHour (w : World) : UInt32 := (w.moduleInfo?.map ModuleInfo.minutesPerHour).getD 2

/-- A loaded area by resource name, ASCII case aside. -/
def area? (w : World) (resref : String) : Option Handle := w.areas.find? (Text.asciiLower resref)

def isArea (w : World) (h : Handle) : Bool := ((w.get? h).bind Object.area?).isSome

def pcArea? (w : World) : Option Handle := (w.pc.bind w.get?).bind Object.area

def isPc (w : World) (h : Handle) : Bool := (w.get? h).any Object.isPc

/-- Is nothing wrong with acting for this handle: does it name a live object, or nothing at all? -/
def isAlive (w : World) (h : Handle) : Bool := !h.isValid || w.registry.contains h

/-! ### Changing parts of it -/

def setRegistry (w : World) (registry : Registry) : World := { w with registry }

def update (w : World) (h : Handle) (f : Object → Object) : World :=
  { w with registry := w.registry.update h f }

def setAreaVisible (w : World) (area : Handle) (visible : Bool) : World :=
  (w.registry.inArea area).foldl
    (fun w h => w.update h fun o => if visible then o.reveal else o.hide) w

/-! ### Tokens -/

def setToken (w : World) (n : Int32) (text : String) : World :=
  { w with tokens := w.tokens.insert ("<CUSTOM" ++ toString n.toInt ++ ">") text }

/-! ### Delayed actions -/

def delayScript (w : World) (script : String) (state : Option ScriptState)
    (owner triggerer : Handle) (ms : UInt64) : World :=
  { w with queue := w.queue.push ⟨.script script state, owner, triggerer, later w.clock ms⟩ }

def delayDestroy (w : World) (owner : Handle) (ms : UInt64) : World :=
  { w with queue := w.queue.push (.destroy owner (later w.clock ms)) }

def advance (w : World) (ms : UInt64) : World := { w with clock := later w.clock ms }

end World

end Adventure

import Adventure.Bridge.Call
import Adventure.Text.Slice
import Adventure.World.Creation
import Adventure.World.Player
import Adventure.World.Searching

/-!
# Play

A session is a world together with whatever the script interpreter keeps, and the faults the
function bridge has reported. Play is a change of the session that may break off. The interpreter
itself is a parameter of everything that can run a script: it may do with the session what it likes,
and in particular call back into the same operations.

See sections 5 and 10.6 of the specification.
-/

namespace Adventure

/-- Why play breaks off. -/
inductive Panic where
  | loadedTwice (handle : String)
  | widthOutOfRange
  | levelOverflow
  /-- A number has left its type while something was done with it. -/
  | overflow (doing : String)
  | slice (e : Text.SliceError)
  deriving DecidableEq, Repr

def Panic.message : Panic → String
  | .loadedTwice handle => (LoadError.loadedTwice handle).message
  | .widthOutOfRange => "Formatting argument out of range"
  | .levelOverflow => "attempt to add with overflow"
  | .overflow doing => "attempt to " ++ doing ++ " with overflow"
  | .slice e => e.message

/-- What stops an operation: a failure, or play breaking off. -/
inductive Trouble where
  | failure (f : Failure)
  | panic (p : Panic)
  deriving DecidableEq, Repr

structure Session (σ : Type) where
  world : World
  /-- What the interpreter keeps. -/
  host : σ
  /-- The faults reported so far. -/
  faults : List Bridge.Fault

/-- A change of the session that may break off. -/
abbrev Play (σ : Type) := ExceptT Panic (StateM (Session σ))

structure Request where
  script : String
  state : Option ScriptState
  owner : Handle
  triggerer : Handle

/-- The interpreter: it runs a script to its end or fails. -/
abbrev Runner (σ : Type) := Request → Play σ (Except Failure Unit)

def Runner.idle {σ : Type} : Runner σ := fun _ => pure (.ok ())

namespace Play

variable {σ α : Type}

def world : Play σ World := do return (← get).world

def change (f : World → World) : Play σ Unit := modify fun s => { s with world := f s.world }

def act (f : World → α × World) : Play σ α := do
  let s ← get
  let (a, w) := f s.world
  set { s with world := w }
  return a

def report (fault : Option Bridge.Fault) : Play σ Unit :=
  modify fun s => { s with faults := s.faults ++ fault.toList }

end Play

end Adventure

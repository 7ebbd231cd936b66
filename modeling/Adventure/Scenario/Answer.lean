import Adventure.Scenario.Step
import Adventure.World.Snapshot

/-!
# Answers

What the steps of a scenario answer, and what is noted on the way: the trail of events, the scripts
that were asked for and the faults of functions.
-/

namespace Adventure.Scenario

structure RegistryView where
  objects : List (Handle × ObjectKind)
  tagged : Option (List Handle)
  inArea : Option (List Handle)

structure Inspection where
  object : Object
  hooks : List (Option String)
  /-- Does the source of models keep what it is told about them? -/
  staged : Bool

inductive Answer where
  | done
  | flag (b : Bool)
  | number (n : Nat)
  | handle (h : Handle)
  | handles (hs : List Handle)
  | value (v : Value)
  /-- A value together with its text. -/
  | shown (v : Value)
  | text (s : Option String)
  | pending (q : Queue)
  | registry (r : RegistryView)
  | search (found : Bool) (current : Option Handle)
  | inspection (i : Option Inspection)
  | object (o : Option Object)
  | state (w : World)
  | snapshot (s : Snapshot)
  | refused (e : Bridge.CallError)
  | failed (f : Failure)
  | panicked (p : Panic)

namespace Answer

def ofUnit : Except Failure Unit → Answer
  | .ok () => done
  | .error f => failed f

def ofHandle : Except Failure Handle → Answer
  | .ok h => value (.object h)
  | .error f => failed f

def ofValue : Except Failure Value → Answer
  | .ok v => value v
  | .error f => failed f

end Answer

/-- A script that was asked for, with the answers of its steps once it has ended. -/
structure Note where
  request : Request
  results : Option (List Answer)

/-- What a step of a scenario answered, and what was noted while it ran. -/
structure Outcome where
  answer : Answer
  events : List String
  notes : List Note
  faults : List Bridge.Fault

end Adventure.Scenario

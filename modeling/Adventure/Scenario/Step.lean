import Adventure.Function.Table

/-!
# Steps

A scenario is a list of steps, each of which does one thing to a session or asks one thing about it.
The scripts of a scenario are lists of steps as well, or fail at once. Steps name objects by what
they are, so that a scenario can be written down before any handle is known.
-/

namespace Adventure.Scenario

/-- How a step names an object. What cannot be found is the handle that names nothing. -/
inductive Subject where
  | handle (h : Handle)
  | player
  | module
  | caller
  | triggerer
  /-- A loaded area by resource name. -/
  | area (resref : String)
  /-- An object by its place among those with a tag, counted from zero. -/
  | tagged (tag : String) (index : Nat)
  deriving DecidableEq, Repr

inductive Term where
  | value (v : Value)
  | object (s : Subject)
  | location (area : Subject) (position : Vec3) (facing : Float32)
  | state (offset : UInt32) (stack : List Term)
  /-- The value that an earlier call kept under a name. -/
  | kept (name : String)

/-- An object to be built and registered. Without a record it stays as it was made; with a blueprint
it is built from both, without one from the blueprint that its record names. -/
structure Making where
  kind : ObjectKind
  /-- The resource name of an area or a module. -/
  name : String
  record : Option Record
  blueprint : Option Record
  /-- The handle to use in place of a new one. -/
  id : Option Handle
  /-- The tag to be set before registration. -/
  tag : Option String
  /-- Build it a second time. -/
  twice : Bool

inductive Property where
  | shown (b : Bool)
  | highlighted (b : Bool)
  | position (v : Vec3)
  | orientation (v : Vec3)
  | facing (x : Float32)
  | tag (s : String)
  | name (s : String)
  | conversation (s : String)
  | commandable (b : Bool)
  | hook (event script : String)
  | pcSpeaker (s : Option Subject)
  | isPc (b : Bool)
  | locked (b : Bool)
  | isOpen (b : Bool)
  | noteEnabled (b : Bool)

inductive Step where
  /-- Calls a function; `keep` is the name under which its value is kept, and `shown` asks for its
  text too. -/
  | call (f : Function.Callee) (args : List Term) (asCaller asTriggerer : Option Subject)
      (script keep : Option String) (shown : Bool)
  | readLiteral (type : ValueType) (literal : String) (asCaller : Option Subject)
  | readObject (literal : String) (asCaller : Option Subject)
  | loadModule (name : String)
  | loadArea (name : String)
  | unloadArea (area : Subject)
  | unload
  | loadPc (r : Record)
  | usePc (s : Subject)
  | enter
  | movePc (area : String) (position : Vec3)
  | movedPc
  | jump (s area : Subject) (position : Vec3)
  | seed (n : UInt64)
  | advance (ms : UInt64)
  | setClock (now : UInt64)
  | process
  | delayScript (name : String) (owner trigger : Subject) (ms : UInt64)
      (state : Option (UInt32 × List Term))
  | delayDestroy (owner : Subject) (ms : UInt64)
  | pending
  | destroy (s : Subject)
  | create (type : Int32) (template : String) (area : Subject) (position : Vec3)
      (facing : Float32) (tag : String)
  | add (m : Making)
  | retag (s : Subject) (tag : String)
  | unregister (s : Subject)
  | clearRegistry
  | registry (tag : Option String) (area : Option Subject)
  | searchInit (context : String) (tag : Option String)
  | searchOver (context : String) (subjects : List Subject)
  | searchNext (context : String)
  | nearest (area : Subject) (position : Vec3) (exclude : Subject) (type : Int32)
  | firstInArea (walker area : Subject)
  | nextInArea (walker area : Subject)
  | set (s : Subject) (p : Property)
  | inspect (s : Subject) (events : List String)
  | views (s : Subject)
  | runScript (name : String) (owner trigger : Subject)
  | runHook (owner : Subject) (event : String) (trigger : Subject)
  | startConversation (dialog : String) (pc object : Subject)
  | endConversation
  | setToken (n : Int32) (text : String)
  | token (text : String)
  | state
  | snapshot

inductive Script where
  | steps (steps : List Step)
  | failing (text : String)

end Adventure.Scenario

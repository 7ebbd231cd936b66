import Adventure.Value.Basic

/-!
# Delayed actions

Work for a later moment: running a script or destroying an object. The queue lists its actions in
the order in which they fall due; actions due at one time stand in the order in which they were
queued. It is what a heap of numbered actions stands for as long as there are numbers.

See sections 3 and 4.4 of the specification.
-/

namespace Adventure

/-- What is done when an action falls due. -/
inductive Work where
  | script (name : String) (state : Option ScriptState)
  | destroy

/-- An action queued for `due`, in milliseconds. -/
structure Action where
  work : Work
  owner : Handle
  triggerer : Handle
  due : UInt64

namespace Action

def destroy (owner : Handle) (due : UInt64) : Action := ⟨.destroy, owner, .invalid, due⟩

def label (a : Action) : String :=
  match a.work with
  | .script name _ => "script " ++ name
  | .destroy => "destroy"

end Action

/-- Actions in the order in which they fall due. -/
structure Queue where
  actions : List Action

namespace Queue

def empty : Queue := ⟨[]⟩

/-- Puts an action behind all that fall due no later. -/
def insert (a : Action) : List Action → List Action
  | [] => [a]
  | b :: rest => if b.due ≤ a.due then b :: insert a rest else a :: b :: rest

def push (q : Queue) (a : Action) : Queue := ⟨insert a q.actions⟩

/-- The actions due at `now`, and the queue of the others. -/
def drainDue (q : Queue) (now : UInt64) : List Action × Queue :=
  (q.actions.takeWhile fun a => a.due ≤ now, ⟨q.actions.dropWhile fun a => a.due ≤ now⟩)

def nextDue? (q : Queue) : Option UInt64 := q.actions.head?.map Action.due

def size (q : Queue) : Nat := q.actions.length

structure Pending where
  label : String
  owner : Handle
  due : UInt64

/-- All actions, the next one first. -/
def pending (q : Queue) : List Pending := q.actions.map fun a => ⟨a.label, a.owner, a.due⟩

end Queue

/-- The moment `ms` milliseconds after `now`; time ends at its largest value. -/
def later (now ms : UInt64) : UInt64 := UInt64.ofNat (min (now.toNat + ms.toNat) 18446744073709551615)

end Adventure

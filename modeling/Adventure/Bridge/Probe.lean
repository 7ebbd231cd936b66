import Adventure.Bridge.Call

/-!
# Probes

Handlers for trying the bridge out. A probe counts its runs; it may set the return slot first, and
then answers with something it sees of its call, fails or breaks off.
-/

namespace Adventure.Bridge

/-- What a probe does after it has set the return slot. -/
inductive ProbeAct where
  | nothing
  | param (index : Nat)
  /-- Answers with a parameter read at a type. -/
  | access (index : Nat) (type : ValueType)
  | describe
  | fail (text : String)
  | panic (payload : Payload)

structure Probe where
  /-- What the return slot is set to first. -/
  slot : Option Value
  act : ProbeAct

/-- A parameter read at a type. An engine value answers whether there is one; a parameter of no type
can be read as anything. -/
def CallContext.access (c : CallContext) (index : Nat) : ValueType → Except ValueError Value
  | .void => c.param index
  | .int => (c.int index).map .int
  | .float => (c.float index).map .float
  | .string => (c.string index).map .string
  | .object => (c.object index).map .object
  | .vector => (c.vector index).map .vector
  | .engine => (c.engine index).map fun e => .ofBool e.isSome
  | .state => (c.state index).map .state

def CallContext.describe (c : CallContext) (slot : Value) : String :=
  "|".intercalate
    [toString c.id, c.name, ",".intercalate (c.params.map Value.text), toString c.specified,
      c.site.caller.text, c.site.triggerer.text, c.site.script, c.ret.name, slot.text]

def probeEnding (slot : Value) : Except ValueError Value → Ending
  | .ok v => ⟨v, .finished⟩
  | .error e => ⟨slot, .failed e.message⟩

/-- A probe as a handler; the engine is the number of runs. -/
def Probe.handler (p : Probe) : Handler Nat := fun c runs =>
  let slot := p.slot.getD c.preset
  let ending := match p.act with
    | .nothing => ⟨slot, .finished⟩
    | .param index => probeEnding slot (c.param index)
    | .access index type => probeEnding slot (c.access index type)
    | .describe => ⟨.string (c.describe slot), .finished⟩
    | .fail text => ⟨slot, .failed text⟩
    | .panic payload => ⟨slot, .panicked payload⟩
  (ending, runs + 1)

end Adventure.Bridge

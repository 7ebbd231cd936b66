import Adventure.Function.Change
import Adventure.Function.Deed
import Adventure.Function.Number
import Adventure.Function.Text

/-!
# Builtins

What a script function of the game does when it is called. A builtin acts on the session; as a
handler of the function bridge it ends with a value, with a failure or by breaking off.

See section 10.9 of the specification.
-/

namespace Adventure.Function

open Bridge

inductive Builtin where
  /-- Nothing: the rules it stands for are not part of the game yet. -/
  | placeholder
  | text (f : TextFunction)
  | number (f : NumberFunction)
  | query (q : Query)
  | change (f : Change)
  | deed (d : Deed)
  deriving DecidableEq, Repr

variable {σ : Type}

def looking (f : World → Attempt Value) : Play σ (Attempt Value) := do
  return f (← Play.world)

/-- Changes the world and answers; what is stopped changes nothing. -/
def changing (f : World → Attempt (Value × World)) : Play σ (Attempt Value) :=
  Play.act fun w =>
    match f w with
    | .ok (v, w) => (.ok v, w)
    | .error e => (.error e, w)

def Builtin.perform (run : Runner σ) (b : Builtin) (c : CallContext) : Play σ (Attempt Value) :=
  match b with
  | .placeholder => return .ok c.preset
  | .text f => return f.perform c
  | .number f => return f.perform c
  | .query q => looking fun w => q.perform w c
  | .change f => changing fun w => f.perform w c
  | .deed d => d.perform run c

def ending (c : CallContext) : Except Panic (Attempt Value) → Ending
  | .ok (.ok v) => ⟨v, .finished⟩
  | .ok (.error (.failure f)) => ⟨c.preset, .failed f.text⟩
  | .ok (.error (.panic p)) => ⟨c.preset, .panicked (.text p.message)⟩
  | .error p => ⟨c.preset, .panicked (.text p.message)⟩

/-- A builtin as a handler of the function bridge. What it has done before it breaks off stays
done. -/
def Builtin.handler (run : Runner σ) (b : Builtin) : Handler (Session σ) := fun c s =>
  let (answer, s) := (b.perform run c).run.run s
  (ending c answer, s)

inductive Callee where
  | id (n : Nat)
  | name (s : String)
  deriving DecidableEq, Repr

/-- Calls a function of a table in play. Its fault, if it has one, is reported. -/
def callIn (t : Table Builtin) (run : Runner σ) (f : Callee) (args : List Value)
    (site : CallSite) : Play σ (Except CallError Value) := do
  let s ← get
  let reply := match f with
    | .id n => t.call (Builtin.handler run) s n args site
    | .name n => t.callByName (Builtin.handler run) s n args site
  match reply with
  | .error e => return .error e
  | .ok reply =>
    set reply.engine
    Play.report reply.fault
    return .ok reply.value

end Adventure.Function

import Adventure.Function.Query

/-!
# Functions that change the world

They print and speak, set what objects carry, roll dice, walk over areas, start conversations,
create and destroy, and queue work for later. None of them runs a script at once.

See section 10.9 of the specification.
-/

namespace Adventure.Function

open Bridge

/-! ### Printing and speaking -/

/-- Puts a printed line on the trail. -/
def print (w : World) (text : String) : World := w.logEvent ("print " ++ text)

def speak (w : World) (speaker : Handle) (text : String) : World :=
  match w.get? speaker with
  | some o => w.logEvent ("speak " ++ o.tag ++ ": " ++ text)
  | none => w

inductive Printed where
  | string
  | float
  | int
  | object
  | vector
  deriving DecidableEq, Repr

def Printed.line (p : Printed) (c : CallContext) : Attempt String := do
  match p with
  | .string => return ← c.string 0
  | .float =>
    let text ← floatText (← c.float 0) (← c.int 1) (← c.int 2)
    return text
  | .int => return toString (← c.int 0).toInt
  | .object => return (← c.object 0).text
  | .vector =>
    let v ← c.vector 0
    let label := if (← c.int 1) != 0 then "PRINTVECTOR:" else ""
    let number (x : Float32) := Decimal.fixed 6 (Decimal.datum32 x)
    return label ++ number v.x ++ ", " ++ number v.y ++ ", " ++ number v.z

/-! ### Setting local variables -/

/-- A change of local variables: the parameter at its place is the new value. A location variable is
set by a location alone. -/
def LocalType.setter (t : LocalType) (c : CallContext) (name : String) :
    Attempt (Locals → Locals) := do
  match t with
  | .int => let n ← c.int 2; return (·.setInt name n)
  | .float => let x ← c.float 2; return (·.setFloat name x)
  | .string => let s ← c.string 2; return (·.setString name s)
  | .object => let h ← c.object 2; return (·.setObject name h)
  | .location =>
    match ← locationParam c 2 with
    | some place => return (·.setLocation name place)
    | none => return id

def LocalType.delete (t : LocalType) (name : String) (l : Locals) : Locals :=
  match t with
  | .int => l.deleteInt name
  | .float => l.deleteFloat name
  | .string => l.deleteString name
  | .object => l.deleteObject name
  | .location => l.deleteLocation name

def updateLocals (w : World) (h : Handle) (f : Locals → Locals) : World :=
  w.update h fun o => { o with locals := f o.locals }

/-! ### Dice -/

def rollDice (w : World) (lo hi n : Int32) : Int32 × World :=
  let (sum, dice) := w.dice.roll lo hi n
  (sum, { w with dice })

/-- A number below `limit`; none is below a limit that is not positive, and nothing is drawn. -/
def randomBelow (w : World) (limit : Int32) : Int32 × World :=
  if limit ≤ 0 then (0, w) else rollDice w 0 (limit - 1) 1

/-! ### Walks -/

/-- The area a walk goes over: the parameter, or the caller's area when that is no area. -/
def walkedArea (w : World) (c : CallContext) : Attempt Handle := do
  let area ← c.object 0
  if w.isArea area then return area
  else return ((w.get? c.site.caller).bind Object.area).getD .invalid

/-! ### Conversations -/

/-- The other side of a conversation that the caller begins: the parameter, else the triggerer, else
the player's creature. -/
def otherSide (w : World) (c : CallContext) : Attempt Handle := do
  let h ← c.object 1
  match [h, c.site.triggerer].find? w.registry.contains with
  | some other => return other
  | none => return w.pc.getD .invalid

/-! ### The functions -/

/-- Functions that change the world without running a script. -/
inductive Change where
  | print (what : Printed)
  | speak
  | setLocal (type : LocalType)
  | deleteLocal (type : LocalType)
  | setFacing
  | setFacingPoint
  | setCommandable
  | clearActions
  | random
  | dice (sides : Nat)
  | firstInArea
  | nextInArea
  | startConversation
  | beginConversation
  | createObject
  | destroyObject
  | setToken
  | assignCommand
  | delayCommand
  | doCommand
  deriving DecidableEq, Repr

/-- The saved frame of a call that must come from a script, which `function` names in the
complaint. -/
def commandFrame (c : CallContext) (index : Nat) (function : String) : Attempt ScriptState := do
  let state ← c.state index
  if c.site.script.isEmpty then stop (.outsideOfScript function) else return state

def Change.perform (f : Change) (w : World) (c : CallContext) : Attempt (Value × World) := do
  match f with
  | .print what => return (c.preset, Function.print w (← what.line c))
  | .speak => return (c.preset, Function.speak w c.site.caller (← c.string 0))
  | .setLocal type =>
    let set ← type.setter c (← c.string 1)
    return (c.preset, updateLocals w (← c.object 0) set)
  | .deleteLocal type =>
    let name ← c.string 1
    return (c.preset, updateLocals w (← c.object 0) (type.delete name))
  | .setFacing =>
    let facing ← c.float 0
    return (c.preset, w.update c.site.caller fun o => o.setFacing facing)
  | .setFacingPoint =>
    let target ← c.vector 0
    return (c.preset, w.update c.site.caller fun o =>
      let d := target.sub o.position
      o.setFacing (bearing d.x d.y))
  | .setCommandable =>
    let commandable := (← c.int 0) != 0
    return (c.preset, w.update (c.objectOrCaller 1) fun o => { o with commandable })
  | .clearActions => return (c.preset, w)
  | .random =>
    let (n, w) := randomBelow w (← c.int 0)
    return (.int n, w)
  | .dice sides =>
    let (n, w) := rollDice w 1 (Int32.ofNat sides) (← c.int 0)
    return (.int n, w)
  | .firstInArea =>
    let (h, w) := w.firstInArea c.site.caller (← walkedArea w c)
    return (.object h, w)
  | .nextInArea =>
    let (h, w) := w.nextInArea c.site.caller (← walkedArea w c)
    return (.object h, w)
  | .startConversation =>
    let pc ← c.object 0
    let dialog ← c.string 1
    let (_, w) := w.startConversation dialog pc c.site.caller
    return (c.preset, w)
  | .beginConversation =>
    let other ← otherSide w c
    let (pc, object) := if w.isPc other then (other, c.site.caller) else (c.site.caller, other)
    let (started, w) := w.startConversation (← c.string 0) pc object
    return (.ofBool started, w)
  | .createObject =>
    let type := ObjectType.ofScript (← c.int 0)
    let template ← c.string 1
    match ← locationParam c 2 with
    | none => return (c.preset, w)
    | some place =>
      match w.createObject type template place (← c.string 4) with
      | (.ok h, w) => return (.object h, w)
      | (.error _, w) => return (.object .invalid, w)
  | .destroyObject =>
    let h ← c.object 0
    let ms := delay (← c.float 1)
    return (c.preset, if w.registry.contains h then w.delayDestroy h ms else w)
  | .setToken =>
    let n ← c.int 0
    return (c.preset, w.setToken n (← c.string 1))
  | .assignCommand =>
    let subject ← c.object 0
    let state ← commandFrame c 1 "AssignCommand"
    let w := if w.registry.contains subject then
        w.delayScript c.site.script (some state) subject c.site.triggerer 0
      else w
    return (c.preset, w)
  | .delayCommand =>
    let ms := delay (← c.float 0)
    let state ← commandFrame c 1 "DelayCommand"
    return (c.preset, w.delayScript c.site.script (some state) c.site.caller c.site.triggerer ms)
  | .doCommand =>
    let state ← commandFrame c 0 "ActionDoCommand"
    return (c.preset, w.delayScript c.site.script (some state) c.site.caller c.site.triggerer 0)

end Adventure.Function

import Adventure.Command.Job
import Adventure.Function.Table
import Adventure.Literal
import Adventure.Resource.Directory
import Adventure.World.Snapshot

/-!
# Runs

A run loads a module and possibly a player's creature, calls functions one after the other, lets
time pass in ticks and reports what has become of it all. A call that fails is a part of the report.
No script is carried out on the way: the scripts that are asked for only leave their traces.

See section 10.4 of the specification.
-/

namespace Adventure.Command

structure CallRecord where
  call : CallSpec
  outcome : Except Failure Value

structure RunReport where
  module : String
  seed : UInt64
  caller : Handle
  calls : List CallRecord
  ticks : UInt32
  executed : Nat
  events : List String
  snapshot : Snapshot

/-- The script that calls from the command line come from. -/
def scriptName : String := "cli"

/-- Play in which no script is carried out. -/
abbrev Bare := Play Unit

/-! ### Parts of a run -/

def signatureOf (name : String) : Except Failure Bridge.Signature :=
  match (Function.table.findByName? name).bind Function.table.signature? with
  | some signature => .ok signature
  | none => .error (.of (.unknownFunction name))

def argumentsOf (w : World) (call : CallSpec) (caller : Handle) : Except Failure (List Value) := do
  let signature ← signatureOf call.name
  Literal.readAll w caller 0 signature.params call.args

def makeCall (caller : Handle) (call : CallSpec) : Bare (Except Failure Value) := do
  match argumentsOf (← Play.world) call caller with
  | .error f => return .error f
  | .ok args =>
    match ← Function.call .idle (.name call.name) args ⟨caller, .invalid, scriptName⟩ with
    | .error e => return .error (.of (.call e))
    | .ok v => return .ok v

def makeCalls (caller : Handle) : List CallSpec → Bare (List CallRecord)
  | [] => return []
  | call :: calls => do
    let outcome ← makeCall caller call
    let records ← makeCalls caller calls
    return ⟨call, outcome⟩ :: records

/-- Lets `n` ticks pass and carries out what falls due in each; `done` actions have been carried out
before. -/
def passTicks (tickMs : UInt64) : Nat → Nat → Bare Nat
  | 0, done => return done
  | n + 1, done => do
    Play.change fun w => w.advance tickMs
    let executed ← Play.processActions .idle
    passTicks tickMs n (done + executed)

/-- Makes a creature the player's and lets it enter the module, if there is one. -/
def bringPlayer : Option Record → Bare (Except Failure Unit)
  | none => return .ok ()
  | some r => do
    match ← Play.act fun w => w.loadPc r with
    | .error f => return .error f
    | .ok _ => Play.enter .idle

/-- The caller of the calls: the module, unless another object is named. -/
def callerOf (w : World) : Option String → Except Failure Handle
  | none => .ok w.moduleId
  | some literal => Literal.object w literal w.moduleId

/-! ### The whole run -/

def session (r : RunRequest) (caller : Handle) : Bare RunReport := do
  let calls ← makeCalls caller r.calls
  let executed ← passTicks r.tickMs r.ticks.toNat 0
  let w ← Play.world
  return ⟨r.module, r.seed, caller, calls, r.ticks, executed, w.events, w.snapshot⟩

/-- Loads the module and the player's creature and goes through the session. -/
def play (r : RunRequest) (pc : Option Record) : Bare (Except Failure RunReport) := do
  match ← Play.act fun w => w.loadModule r.module with
  | .error f => return .error (f.during (.loadingRunModule r.module))
  | .ok () =>
    match ← bringPlayer pc with
    | .error f => return .error f
    | .ok () =>
      match callerOf (← Play.world) r.caller with
      | .error f => return .error f
      | .ok caller => return .ok (← session r caller)

/-- The blueprint of the player's creature, if one is named. -/
def playerRecord (resources : Resources) : Option String → Except Failure (Option Record)
  | none => .ok none
  | some name =>
    match resources.load .utc name with
    | .error e => .error (.of (.load e))
    | .ok none => .error (.of (.playerBlueprintNotFound name))
    | .ok (some r) => .ok (some r)

def startWorld (r : RunRequest) (d : Directory) (files : List File) : World :=
  .new ⟨d.resources files, d.talk?.getD .empty⟩ .plain 0 r.seed

/-- Runs a module from the files below its resource directory; `none` says that there is no such
directory. -/
def execute (r : RunRequest) (listing : Option (List File)) : Except Trouble RunReport :=
  match Directory.load r.resources listing with
  | .error e =>
    .error (.failure ((Failure.of (.directory e)).during (.loadingResources r.resources)))
  | .ok d =>
    let files := listing.getD []
    match playerRecord (d.resources files) r.pc with
    | .error f => .error (.failure f)
    | .ok pc =>
      match ((play r pc).run.run ⟨startWorld r d files, (), []⟩).1 with
      | .error p => .error (.panic p)
      | .ok (.error f) => .error (.failure f)
      | .ok (.ok report) => .ok report

end Adventure.Command

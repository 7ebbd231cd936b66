import Adventure.Command.Arguments
import Adventure.Command.CallSpec
import Adventure.Text.Quoted

/-!
# Jobs

The program lists its functions, or runs a module and reports on it.

See section 10.4 of the specification.
-/

namespace Adventure.Command

structure RunRequest where
  resources : String
  module : String
  pc : Option String
  seed : UInt64
  ticks : UInt32
  tickMs : UInt64
  calls : List CallSpec
  caller : Option String
  report : Option String
  deriving DecidableEq, Repr

inductive Job where
  | listFunctions
  | run (r : RunRequest)
  deriving DecidableEq, Repr

inductive JobError where
  | moduleWithoutResources
  | resourcesRequired
  | moduleRequired
  | tickMsNotPositive
  | malformedCall (spec : String)
  deriving DecidableEq, Repr

def JobError.message : JobError → String
  | .moduleWithoutResources => "--module requires --resources"
  | .resourcesRequired => "--resources is required unless --list-functions is given"
  | .moduleRequired => "--module is required to run"
  | .tickMsNotPositive => "--tick-ms must be positive"
  | .malformedCall spec =>
    "malformed --call " ++ Text.quoted spec ++ ", expected NAME[:ARG,...]"

def readCall (spec : String) : Except JobError CallSpec :=
  match CallSpec.read spec with
  | some call => .ok call
  | none => .error (.malformedCall spec)

def Arguments.runRequest (a : Arguments) : Except JobError RunRequest :=
  match a.resources, a.module with
  | none, some _ => .error .moduleWithoutResources
  | none, none => .error .resourcesRequired
  | some _, none => .error .moduleRequired
  | some resources, some module =>
    let ticks := a.ticks.getD 0
    let tickMs := a.tickMs.getD 100
    if tickMs = 0 && 0 < ticks then .error .tickMsNotPositive
    else
      (a.calls.mapM readCall).map fun calls =>
        { resources, module, pc := a.pc, seed := a.seed.getD 0, ticks, tickMs, calls,
          caller := a.caller, report := a.report }

def Arguments.job (a : Arguments) : Except JobError Job :=
  if a.listFunctions then .ok .listFunctions else a.runRequest.map .run

end Adventure.Command

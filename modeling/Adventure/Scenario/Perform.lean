import Adventure.Literal
import Adventure.Scenario.Making

/-!
# Performing steps

Each step is one operation of the session, or one question about it. The interpreter of a scenario
notes every script that it is asked for and performs the steps the scenario gives for it: those may
ask for scripts in turn, as deep as there is budget.
-/

namespace Adventure.Scenario

open Bridge

abbrev Staged := Play Stage

def stage : Staged Stage := do return (← get).host

def changeStage (f : Stage → Stage) : Staged Unit := modify fun s => { s with host := f s.host }

def find (site : CallSite) (s : Subject) : Staged Handle := do return s.resolve (← Play.world) site

def findOr (site : CallSite) (default : Handle) : Option Subject → Staged Handle
  | some s => find site s
  | none => return default

/-! ### Calls -/

def performCall (run : Runner Stage) (site : CallSite) (f : Function.Callee) (args : List Term)
    (keep : Option String) (shown : Bool) (from_ : CallSite) : Staged Answer := do
  let args := Term.resolveAll (← Play.world) (← stage) site args
  match ← Function.call run f args from_ with
  | .error e => return .refused e
  | .ok v =>
    changeStage fun stage => stage.keep keep v
    return if shown then .shown v else .value v

/-! ### Questions -/

/-- What the registry holds, and on demand the objects with a tag or in an area. -/
def registryView (r : Registry) (tag : Option String) (area : Option Handle) : RegistryView :=
  ⟨r.objects.map fun o => (o.id, o.kind), tag.map r.withTag, area.map r.inArea⟩

def inspection (w : World) (h : Handle) (events : List String) : Option Inspection :=
  (w.get? h).map fun o => ⟨o, events.map o.hook?, w.models.source.recorded⟩

/-! ### Searches -/

/-- Begins a search of a name and answers whether it has anything to go through. -/
def searchInit (context : String) (tag : Option String) : Staged Bool := do
  let (any, s) := (← Play.world).registry.search tag
  changeStage fun stage => stage.setSearch context s
  return any

def searchNext (context : String) : Staged Answer := do
  let (found, s) := ((← stage).searchOf context).next (← Play.world).registry
  changeStage fun stage => stage.setSearch context s
  return .search found s.current

/-! ### Steps -/

def perform (run : Runner Stage) (site : CallSite) (step : Step) : Staged Answer := do
  match step with
  | .call f args asCaller asTriggerer script keep shown =>
    let caller ← findOr site site.caller asCaller
    let triggerer ← findOr site site.triggerer asTriggerer
    performCall run site f args keep shown ⟨caller, triggerer, script.getD site.script⟩
  | .readLiteral type literal asCaller =>
    let caller ← findOr site site.caller asCaller
    return .ofValue (Literal.read (← Play.world) type literal caller)
  | .readObject literal asCaller =>
    let caller ← findOr site site.caller asCaller
    return .ofHandle (Literal.object (← Play.world) literal caller)
  | .loadModule name => return .ofUnit (← Play.act fun w => w.loadModule name)
  | .loadArea name => return .ofHandle (← Play.act fun w => w.loadArea name)
  | .unloadArea area =>
    let area ← find site area
    Play.change fun w => w.unloadArea area
    return .done
  | .unload =>
    Play.change World.unload
    return .done
  | .loadPc r => return .ofHandle (← Play.act fun w => w.loadPc r)
  | .usePc s =>
    let h ← find site s
    return .ofUnit (← Play.act fun w => w.usePc h)
  | .enter => return .ofUnit (← Play.enter run)
  | .movePc area position => return .ofUnit (← Play.movePc run area position)
  | .movedPc =>
    Play.movedPc run
    return .done
  | .jump s area position =>
    return .flag (← Play.jumpTo run (← find site s) (← find site area) position)
  | .seed n =>
    Play.change fun w => { w with dice := .ofSeed n }
    return .done
  | .advance ms =>
    Play.change fun w => w.advance ms
    return .done
  | .setClock now =>
    Play.change fun w => { w with clock := now }
    return .done
  | .process => return .number (← Play.processActions run)
  | .delayScript name owner trigger ms saved =>
    let owner ← find site owner
    let trigger ← find site trigger
    let stage ← stage
    Play.change fun w =>
      let saved := saved.map fun (offset, stack) => ⟨offset, Term.resolveAll w stage site stack⟩
      w.delayScript name saved owner trigger ms
    return .done
  | .delayDestroy owner ms =>
    let owner ← find site owner
    Play.change fun w => w.delayDestroy owner ms
    return .done
  | .pending => return .pending (← Play.world).queue
  | .destroy s =>
    let h ← find site s
    return .flag (← Play.act fun w => w.destroyObject h)
  | .create type template area position facing tag =>
    let place := Location.make (some (← find site area)) position facing
    return .ofHandle (← Play.act fun w => w.createObject (.ofScript type) template place tag)
  | .add m => return .ofHandle (← m.add)
  | .retag s tag =>
    let h ← find site s
    return .flag (← Play.act fun w =>
      let (found, registry) := w.registry.retag h tag
      (found, w.setRegistry registry))
  | .unregister s =>
    let h ← find site s
    return .text (← Play.act fun w =>
      let (removed, registry) := w.registry.unregister h
      (removed.map Object.tag, w.setRegistry registry))
  | .clearRegistry =>
    Play.change fun w => w.setRegistry w.registry.clear
    return .done
  | .registry tag area =>
    let area ← area.mapM (find site)
    return .registry (registryView (← Play.world).registry tag area)
  | .searchInit context tag => return .flag (← searchInit context tag)
  | .searchOver context subjects =>
    let handles ← subjects.mapM (find site)
    changeStage fun stage => stage.setSearch context (.ofList handles)
    return .done
  | .searchNext context => searchNext context
  | .nearest area position exclude type =>
    let area ← find site area
    let exclude ← find site exclude
    let mask := ObjectType.ofScript type
    return .handles ((← Play.world).nearestObjects area position exclude fun o =>
      o.type.intersects mask)
  | .firstInArea walker area =>
    let walker ← find site walker
    let area ← find site area
    return .handle (← Play.act fun w => w.firstInArea walker area)
  | .nextInArea walker area =>
    let walker ← find site walker
    let area ← find site area
    return .handle (← Play.act fun w => w.nextInArea walker area)
  | .set s p =>
    let h ← find site s
    return .flag (← Play.act fun w => setProperty w site h p)
  | .inspect s events => return .inspection (inspection (← Play.world) (← find site s) events)
  | .views s => return .object ((← Play.world).get? (← find site s))
  | .runScript name owner trigger =>
    return .ofUnit (← Play.runScript run
      ⟨name, none, ← find site owner, ← find site trigger⟩)
  | .runHook owner event trigger =>
    Play.runHook run (← find site owner) event (← find site trigger)
    return .done
  | .startConversation dialog pc object =>
    let pc ← find site pc
    let object ← find site object
    return .flag (← Play.act fun w => w.startConversation dialog pc object)
  | .endConversation =>
    Play.change World.endConversation
    return .done
  | .setToken n text =>
    Play.change fun w => w.setToken n text
    return .done
  | .token text => return .text ((← Play.world).tokens.find? text)
  | .state => return .state (← Play.world)
  | .snapshot => return .snapshot (← Play.world).snapshot

def performAll (run : Runner Stage) (site : CallSite) : List Step → Staged (List Answer)
  | [] => return []
  | step :: steps => do
    let answer ← perform run site step
    let answers ← performAll run site steps
    return answer :: answers

/-! ### Scripts -/

def siteOf (request : Request) : CallSite := ⟨request.owner, request.triggerer, request.script⟩

def performScript (run : Runner Stage) (request : Request) (index : Nat) :
    Script → Staged (Except Failure Unit)
  | .failing text => return .error (.of (.script text))
  | .steps steps => do
    let answers ← performAll run (siteOf request) steps
    changeStage fun stage => stage.finish index answers
    return .ok ()

/-- The interpreter of a scenario: it notes each request and performs the script it has for it, if
it has one. Scripts may ask for scripts `depth` levels deep. -/
def interpreter : Nat → Runner Stage
  | 0 => fun _ => return .error (.of .nestedTooDeep)
  | depth + 1 => fun request => do
    let before ← stage
    changeStage fun stage => stage.begin request
    match before.scripts.find? request.script with
    | none => return .ok ()
    | some script => performScript (interpreter depth) request before.notes.length script

/-! ### Scenarios -/

/-- Performs one step of a scenario on behalf of a call site and collects what was noted
meanwhile. -/
def outcome (run : Runner Stage) (site : CallSite) (step : Step) (s : Session Stage) :
    Outcome × Session Stage :=
  let before := s.world.events.length
  let fresh : Session Stage := { s with host := { s.host with notes := [] }, faults := [] }
  let (result, s) := (perform run site step).run.run fresh
  let answer := match result with
    | .ok answer => answer
    | .error p => .panicked p
  (⟨answer, s.world.events.drop before, s.host.notes, s.faults⟩, s)

def outcomes (run : Runner Stage) (site : CallSite) : List Step → Session Stage → List Outcome
  | [], _ => []
  | step :: steps, s =>
    let (first, s) := outcome run site step s
    first :: outcomes run site steps s

end Adventure.Scenario

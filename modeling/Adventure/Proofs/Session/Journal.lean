import Adventure.Proofs.Function.Doors
import Adventure.Proofs.Session.Arrivals
import Adventure.Proofs.Session.Parts

/-!
# Journals of play

What scripts do with doors, cue by cue in the order in which it is done: who asks for which door to
be open or closed, which doors turn, and which scripts are handed to the interpreter, those that a
door has for what has happened to it and all others. What a script does on the way stands behind the
cue by which it was handed over.
-/

namespace Adventure

open Adventure.Function (Callee Builtin Deed)
open World (Steady tells)

variable {σ α β : Type}

/-! ### Cues -/

inductive Cue where
  /-- A caller asks for the door of a handle to be open or closed. -/
  | asked (door caller : Handle) (wanted : Bool)
  /-- A door is open or closed from here on. -/
  | turned (door : Handle) (tag : String) (isOpen : Bool)
  /-- A door's script for an event is handed over, the door being its owner. -/
  | hook (door : Handle) (event script : String) (triggerer : Handle)
  /-- Another script is handed over. -/
  | script (r : Request)

namespace Cue

def isOf (h : Handle) : Cue → Bool
  | asked door _ _ | turned door _ _ | hook door _ _ _ => door = h
  | script _ => false

def turn? : Cue → Option Bool
  | turned _ _ isOpen => some isOpen
  | _ => none

/-- What is handed to the interpreter. -/
def request? : Cue → Option Request
  | hook door _ name triggerer => some ⟨name, none, door, triggerer⟩
  | script r => some r
  | _ => none

def turnLine (tag : String) (isOpen : Bool) : String :=
  "door." ++ (if isOpen then "open" else "close") ++ " " ++ tag

def startLine (r : Request) : String := "script.run " ++ r.script ++ " (owner " ++ r.owner.text ++ ")"

def line? : Cue → Option String
  | asked _ _ _ => none
  | turned _ tag isOpen => some (turnLine tag isOpen)
  | hook door _ name triggerer => some (startLine ⟨name, none, door, triggerer⟩)
  | script r => some (startLine r)

def turn (w : World) : Cue → World
  | turned door _ isOpen => w.update door fun o => o.mapDoor fun d => { d with isOpen }
  | _ => w

theorem tells_line? {m : Cue} {line : String} (h : m.line? = some line) : tells line = true := by
  cases m with
  | asked => cases h
  | turned =>
    cases h
    unfold turnLine
    simp only [String.append_assoc]
    exact World.tells_append (by decide) _
  | hook =>
    cases h
    unfold startLine
    simp only [String.append_assoc]
    exact World.tells_append (by decide) _
  | script =>
    cases h
    unfold startLine
    simp only [String.append_assoc]
    exact World.tells_append (by decide) _

end Cue

/-- The world at a cue: a door that turns has its new state, and the line is on the trail. -/
def World.cue (w : World) (m : Cue) : World :=
  match m.line? with
  | none => m.turn w
  | some line => (m.turn w).logEvent line

def World.cued (w : World) (ms : List Cue) : World := ms.foldl World.cue w

def Session.cued (s : Session σ) (ms : List Cue) : Session σ := { s with world := s.world.cued ms }

/-! ### Answers of doors -/

namespace Doorway

/-- The cues of running the door's script for an event: none if it has no script for it. -/
def run (d : Doorway) (h caller : Handle) (event : String) : List Cue :=
  ((d.hook? event).map fun script => .hook h event script caller).toList

def eventOf (isOpen : Bool) : String := if isOpen then "OnOpen" else "OnClosed"

/-- What the door does when it is asked to be open or closed, and what it is like then. -/
def respond (d : Doorway) (h caller : Handle) (wanted : Bool) : List Cue × Doorway :=
  if wanted && d.locked then (d.run h caller "OnFailToOpen", d)
  else if d.isOpen = wanted then ([], d)
  else (.turned h d.tag wanted :: d.run h caller (eventOf wanted), { d with isOpen := wanted })

end Doorway

/-- The cues of asking for a door, up to where its script has been handed over. -/
def World.answer (w : World) (h caller : Handle) (wanted : Bool) : List Cue :=
  .asked h caller wanted ::
    match w.doorway? h with
    | none => []
    | some d => (d.respond h caller wanted).1

/-- Runs the script that the last cue hands over, if it does. -/
def Play.handOver (run : Runner σ) (ms : List Cue) : Play σ Unit :=
  match ms.getLast?.bind Cue.request? with
  | none => return ()
  | some r => do let _ ← run r

/-! ### Worlds at cues -/

section Cued

variable {w : World} {h k : Handle} {d : Doorway}

theorem World.tellings_cue (w : World) (c : Cue) :
    (w.cue c).tellings = w.tellings ++ c.line?.toList := by
  have hturn : (c.turn w).tellings = w.tellings := by
    unfold Cue.turn
    split <;> rfl
  unfold World.cue
  cases hline : c.line? with
  | none => rw [hturn, Option.toList_none, List.append_nil]
  | some line =>
    show ((c.turn w).logEvent line).tellings = _
    rw [World.tellings_logEvent, hturn, Cue.tells_line? hline, if_pos rfl, Option.toList_some]

theorem World.tellings_cued (w : World) (cs : List Cue) :
    (w.cued cs).tellings = w.tellings ++ cs.filterMap Cue.line? := by
  induction cs generalizing w with
  | nil => exact (List.append_nil _).symm
  | cons c cs ih =>
    show ((w.cue c).cued cs).tellings = _
    rw [ih, tellings_cue, List.append_assoc, List.filterMap_cons]
    cases c.line? <;> rfl

theorem Object.doorway?_turned (o : Object) (isOpen : Bool) :
    (o.mapDoor fun d => { d with isOpen }).doorway? = o.doorway?.map fun d => { d with isOpen } := by
  unfold mapDoor
  cases hd : o.details with
  | door d =>
    unfold doorway? door?
    simp only [hd, Option.map_some]
    rfl
  | _ =>
    unfold doorway? door?
    simp only [hd, Option.map_none]

theorem World.doorway?_cue (w : World) (c : Cue) (k : Handle) : (w.cue c).doorway? k =
    match c with
    | .turned h _ isOpen => if k = h then (w.doorway? k).map ({ · with isOpen }) else w.doorway? k
    | _ => w.doorway? k := by
  cases c with
  | turned h tag isOpen =>
    show (w.update h fun o => o.mapDoor fun d => { d with isOpen }).doorway? k = _
    unfold doorway?
    rw [get?_update w h fun o => (Object.alike_mapDoor o _).kin.id]
    cases ho : w.get? k with
    | none => simp
    | some o =>
      have hid : o.id = k := id_of_get? ho
      simp only [Option.map_some, Option.bind_some, hid]
      split
      · exact Object.doorway?_turned o isOpen
      · rfl
  | _ => rfl

theorem World.doorway?_run (w : World) (d : Doorway) (h caller : Handle) (event : String) :
    (w.cued (d.run h caller event)).doorway? = w.doorway? := by
  unfold Doorway.run
  cases d.hook? event <;> rfl

theorem World.doorway?_answer (w : World) (h caller : Handle) (wanted : Bool) (k : Handle) :
    (w.cued (w.answer h caller wanted)).doorway? k =
      if k = h then (w.doorway? h).map fun d => (d.respond h caller wanted).2
      else w.doorway? k := by
  have hstays : ∀ {cs : List Cue} {d : Doorway}, w.doorway? h = some d →
      (w.cued cs).doorway? = w.doorway? →
      (w.cued cs).doorway? k = if k = h then some d else w.doorway? k := by
    intro cs d hd hcs
    rw [hcs]
    split
    · rename_i hk
      rw [hk, hd]
    · rfl
  unfold answer
  cases hd : w.doorway? h with
  | none =>
    show w.doorway? k = _
    split
    · rename_i hk
      rw [hk, hd]
      rfl
    · rfl
  | some d =>
    rw [Option.map_some]
    simp only
    unfold Doorway.respond
    split
    · exact hstays hd (w.doorway?_run d h caller _)
    · split
      · exact hstays hd rfl
      · show ((w.cue (.turned h d.tag wanted)).cued (d.run h caller _)).doorway? k = _
        rw [doorway?_run, doorway?_cue]
        simp only
        split
        · rename_i hk
          rw [hk, hd, Option.map_some]
        · rfl

theorem World.hook?_of_doorway? (hdoor : w.doorway? h = some d) (event : String) :
    ((w.get? h).bind fun o => o.hook? event) = d.hook? event := by
  unfold doorway? at hdoor
  obtain ⟨o, ho, hd⟩ := Option.bind_eq_some_iff.1 hdoor
  unfold Object.doorway? at hd
  obtain ⟨door, -, rfl⟩ := Option.map_eq_some_iff.1 hd
  rw [ho, Option.bind_some]

theorem World.named_of_doorway? (hdoor : w.doorway? h = some d) {event script : String}
    (hscript : d.hook? event = some script) : script.isEmpty = false := by
  rw [← hook?_of_doorway? hdoor, Option.bind_eq_some_iff] at hscript
  obtain ⟨o, -, ho⟩ := hscript
  have hne : script ≠ "" := by simpa using (Option.filter_eq_some_iff.1 ho).2
  rwa [← Bool.not_eq_true, String.isEmpty_iff]

theorem World.door_of_doorway? (w : World) (h : Handle) :
    match w.doorway? h with
    | none => ((w.get? h).bind fun o => o.door?.map (o.tag, ·)) = none
    | some d => ∃ door : Door, ((w.get? h).bind fun o => o.door?.map (o.tag, ·)) = some (d.tag, door) ∧
        door.situated.locked = d.locked ∧ door.isOpen = d.isOpen := by
  unfold doorway?
  cases w.get? h with
  | none => rfl
  | some o =>
    simp only [Option.bind_some]
    unfold Object.doorway?
    cases o.door? with
    | none => rfl
    | some door => exact ⟨door, rfl, rfl, rfl⟩

end Cued

/-! ### What doors do -/

namespace Play

variable {run : Runner σ} {s : Session σ}

theorem bind_same {m m' : Play σ α} {s s' : Session σ}
    (h : m.ended s = m'.ended s' ∧ m.after s = m'.after s') (f : α → Play σ β) :
    (m >>= f).ended s = (m' >>= f).ended s' ∧ (m >>= f).after s = (m' >>= f).after s' := by
  obtain ⟨hended, hafter⟩ := h
  cases he : m'.ended s' with
  | ok a =>
    rw [he] at hended
    rw [(bind_of_ok hended f).1, (bind_of_ok he f).1, (bind_of_ok hended f).2, (bind_of_ok he f).2,
      hafter]
    exact ⟨rfl, rfl⟩
  | error p =>
    rw [he] at hended
    rw [(bind_of_error hended f).1, (bind_of_error he f).1, (bind_of_error hended f).2,
      (bind_of_error he f).2]
    exact ⟨rfl, hafter⟩

theorem runScript_named (run : Runner σ) {r : Request} (hname : r.script.isEmpty = false)
    (s : Session σ) : (runScript run r).ended s = (run r).ended (s.cued [.script r]) ∧
      (runScript run r).after s = (run r).after (s.cued [.script r]) := by
  unfold runScript
  rw [hname, if_neg Bool.false_ne_true]
  exact bind_of_ok (m := change _) rfl fun _ => run r

theorem runHook_door {h : Handle} {d : Doorway} (hdoor : s.world.doorway? h = some d)
    (run : Runner σ) (caller : Handle) (event : String) :
    (runHook run h event caller).ended s =
        (handOver run (d.run h caller event)).ended (s.cued (d.run h caller event)) ∧
      (runHook run h event caller).after s =
        (handOver run (d.run h caller event)).after (s.cued (d.run h caller event)) := by
  unfold runHook
  rw [(world_bind _ s).1, (world_bind _ s).2, World.hook?_of_doorway? hdoor]
  unfold Doorway.run
  cases hscript : d.hook? event with
  | none => exact ⟨rfl, rfl⟩
  | some script =>
    have hname := World.named_of_doorway? hdoor hscript
    exact bind_same (runScript_named run (r := ⟨script, none, h, caller⟩) hname s) fun _ => pure ()

theorem handOver_run (run : Runner σ) (cs : List Cue) (hcs : cs.getLast?.bind Cue.request? = none)
    (d : Doorway) (h caller : Handle) (event : String) :
    handOver run (cs ++ d.run h caller event) = handOver run (d.run h caller event) := by
  unfold Doorway.run handOver
  cases d.hook? event with
  | none => simp [hcs]
  | some script => simp

theorem runHook_behind (cs : List Cue) (hcs : cs.getLast?.bind Cue.request? = none) {h : Handle}
    {d : Doorway} (hdoor : (s.cued cs).world.doorway? h = some d) (run : Runner σ) (caller : Handle)
    (event : String) :
    (runHook run h event caller).ended (s.cued cs) = (handOver run (cs ++ d.run h caller event)).ended
        (s.cued (cs ++ d.run h caller event)) ∧
      (runHook run h event caller).after (s.cued cs) = (handOver run (cs ++ d.run h caller event)).after
        (s.cued (cs ++ d.run h caller event)) := by
  have hcued : s.cued (cs ++ d.run h caller event) = (s.cued cs).cued (d.run h caller event) := by
    unfold Session.cued World.cued
    rw [List.foldl_append]
  rw [handOver_run run cs hcs, hcued]
  exact runHook_door hdoor run caller event

/-- Asking for a door comes to its answer, and then the script that the answer hands over runs. -/
theorem setDoorOpen_eq (run : Runner σ) (h caller : Handle) (wanted : Bool) (s : Session σ) :
    (setDoorOpen run h caller wanted).ended s =
        (handOver run (s.world.answer h caller wanted)).ended
          (s.cued (s.world.answer h caller wanted)) ∧
      (setDoorOpen run h caller wanted).after s =
        (handOver run (s.world.answer h caller wanted)).after
          (s.cued (s.world.answer h caller wanted)) := by
  have hdoor := s.world.door_of_doorway? h
  unfold setDoorOpen World.answer
  rw [(world_bind _ s).1, (world_bind _ s).2]
  cases hd : s.world.doorway? h with
  | none =>
    rw [hd] at hdoor
    rw [hdoor]
    exact ⟨rfl, rfl⟩
  | some d =>
    rw [hd] at hdoor
    obtain ⟨door, hfound, hlocked, hopen⟩ := hdoor
    simp only [hfound, hlocked, hopen]
    unfold Doorway.respond
    split
    · exact runHook_behind [.asked h caller wanted] rfl hd run caller "OnFailToOpen"
    · split
      · exact ⟨rfl, rfl⟩
      · -- The hook is looked up after the turn, so on a door that has its new state.
        have hturned : (s.cued [.asked h caller wanted, .turned h d.tag wanted]).world.doorway? h =
            some { d with isOpen := wanted } := by
          show ((s.world.cue (.turned h d.tag wanted)).doorway? h) = _
          rw [World.doorway?_cue]
          simp only [if_true, hd, Option.map_some]
        have hevent : (if wanted = true then ("open", "OnOpen") else ("close", "OnClosed")) =
            (if wanted = true then "open" else "close", Doorway.eventOf wanted) := by
          cases wanted <;> rfl
        have hhook := runHook_behind [.asked h caller wanted, .turned h d.tag wanted] rfl hturned run
          caller (Doorway.eventOf wanted)
        have hchange := bind_of_ok (m := change fun w => (w.update h fun o => o.mapDoor fun d =>
          { d with isOpen := wanted }).logEvent (Cue.turnLine d.tag wanted)) (s := s) rfl
          fun _ => runHook run h (Doorway.eventOf wanted) caller
        simp only [hevent]
        exact ⟨hchange.1.trans hhook.1, hchange.2.trans hhook.2⟩

end Play

/-! ### Journals -/

/-- Play that gives these cues from this session on, calling functions of the game. Whatever it does
beside them leaves doors alone. -/
inductive Play.Journal : {α : Type} → Play σ α → Session σ → List Cue → Prop where
  | answer {α : Type} (a : α) (s : Session σ) : Journal (pure a) s []
  | stop {α : Type} (p : Panic) (s : Session σ) : Journal (throw p : Play σ α) s []
  | look (s : Session σ) : Journal get s []
  | host (f : σ → σ) (s : Session σ) :
    Journal (modify fun s => { s with host := f s.host } : Play σ Unit) s []
  | change {f : World → World} {s : Session σ} (aside : Steady s.world (f s.world)) :
    Journal (change f) s []
  | chain {α β : Type} {m : Play σ α} {f : α → Play σ β} {s : Session σ} {a : α}
    {cs cs' : List Cue} (first : Journal m s cs) (ended : m.ended s = .ok a)
    (rest : Journal (f a) (m.after s) cs') : Journal (m >>= f) s (cs ++ cs')
  | broken {α β : Type} {m : Play σ α} {f : α → Play σ β} {s : Session σ} {p : Panic}
    {cs : List Cue} (first : Journal m s cs) (ended : m.ended s = .error p) :
    Journal (m >>= f) s cs
  | script {run : Runner σ} {r : Request} {s : Session σ} {cs : List Cue}
    (named : r.script.isEmpty = false) (inner : Journal (run r) (s.cued [.script r]) cs) :
    Journal (runScript run r) s (.script r :: cs)
  | door {run : Runner σ} {h caller : Handle} {wanted : Bool} {s : Session σ} {cs : List Cue}
    (inner : Journal (handOver run (s.world.answer h caller wanted))
      (s.cued (s.world.answer h caller wanted)) cs) :
    Journal (setDoorOpen run h caller wanted) s (s.world.answer h caller wanted ++ cs)
  | refused {run : Runner σ} {f : Callee} {args : List Value} {site : Bridge.CallSite}
    {err : Bridge.CallError} {s : Session σ} (h : f.admission Function.table args site = .error err) :
    Journal (Function.call run f args site) s []
  | called {run : Runner σ} {f : Callee} {args : List Value} {site : Bridge.CallSite}
    {e : Bridge.Entry Builtin} {c : Bridge.CallContext} {s : Session σ}
    (h : f.admission Function.table args site = .ok (e, c)) (plain : e.handler.isDeed = false) :
    Journal (Function.call run f args site) s []
  | deed {run : Runner σ} {f : Callee} {args : List Value} {site : Bridge.CallSite}
    {e : Bridge.Entry Builtin} {c : Bridge.CallContext} {d : Deed} {s : Session σ}
    {cs : List Cue} (h : f.admission Function.table args site = .ok (e, c))
    (handler : e.handler = .deed d) (inner : Journal (d.perform run c) s cs) :
    Journal (Function.call run f args site) s cs

namespace Play

def Kept (m : Play σ α) : Prop := ∀ s, ∃ cs, Journal m s cs

theorem kept_bind {m : Play σ α} {f : α → Play σ β} (hm : Kept m) (hf : ∀ a, Kept (f a)) :
    Kept (m >>= f) := by
  intro s
  obtain ⟨cs, hcs⟩ := hm s
  cases hended : m.ended s with
  | ok a =>
    obtain ⟨cs', hcs'⟩ := hf a (m.after s)
    exact ⟨cs ++ cs', hcs.chain hended hcs'⟩
  | error p => exact ⟨cs, hcs.broken hended⟩

theorem hereditary_kept : Hereditary Steady fun {α : Type} (m : Play σ α) => Kept m where
  answer a s := ⟨[], .answer a s⟩
  look s := ⟨[], .look s⟩
  change aside s := ⟨[], .change (aside s.world)⟩
  chain := kept_bind

variable {run : Runner σ} (hrun : ∀ r, Kept (run r))

include hrun

theorem kept_runScript (r : Request) : Kept (runScript run r) := by
  intro s
  cases hname : r.script.isEmpty with
  | true =>
    unfold runScript
    rw [hname, if_pos rfl]
    exact ⟨[], .answer _ s⟩
  | false =>
    obtain ⟨cs, hcs⟩ := hrun r (s.cued [.script r])
    exact ⟨_, .script hname hcs⟩

theorem kept_handOver (cs : List Cue) : Kept (handOver run cs) := by
  unfold handOver
  split
  · exact hereditary_kept.answer ()
  · exact kept_bind (hrun _) fun _ => hereditary_kept.answer ()

theorem kept_setDoorOpen (h caller : Handle) (wanted : Bool) :
    Kept (setDoorOpen run h caller wanted) := by
  intro s
  obtain ⟨cs, hcs⟩ := kept_handOver hrun (s.world.answer h caller wanted)
    (s.cued (s.world.answer h caller wanted))
  exact ⟨_, .door hcs⟩

theorem kept_call (f : Callee) (args : List Value) (site : Bridge.CallSite) :
    Kept (Function.call run f args site) := by
  intro s
  cases h : f.admission Function.table args site with
  | error err => exact ⟨[], .refused h⟩
  | ok p =>
    cases hhandler : p.1.handler with
    | deed d =>
      obtain ⟨cs, hcs⟩ := hereditary_kept.deed World.Calm.toSteady (kept_runScript hrun)
        (kept_setDoorOpen hrun) d p.2 s
      exact ⟨cs, .deed (e := p.1) h hhandler hcs⟩
    | _ => exact ⟨[], .called (e := p.1) h (by rw [hhandler]; rfl)⟩

theorem kept_calls {m : Play σ α} (h : Play.Made Operation.IsCall run m) : Kept m := by
  induction h with
  | answer a => exact hereditary_kept.answer a
  | chain _ _ ihm ihf => exact kept_bind ihm ihf
  | look => exact hereditary_kept.look
  | host f => exact fun s => ⟨[], .host f s⟩
  | operation op h =>
    cases op with
    | stop p => exact fun s => ⟨[], .stop p s⟩
    | call t f args site =>
      obtain rfl : t = Function.table := h
      exact kept_call hrun f args site
    | _ => exact h.elim

end Play

theorem Runner.kept_calls {run : Runner σ} (h : run.Made Operation.IsCall) :
    ∀ r, Play.Kept (run r) := by
  induction h with
  | idle => exact fun _ => Play.hereditary_kept.answer _
  | scripted _ scripts ih => exact fun r => Play.kept_calls ih (scripts r)

end Adventure

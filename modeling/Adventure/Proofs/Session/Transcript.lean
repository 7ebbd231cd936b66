import Adventure.Proofs.Function.Effects
import Adventure.Proofs.Session.Operation
import Adventure.Proofs.Session.Parts

/-!
# Transcripts of play

The calls of script functions that are made in play, in the order in which they return, those of the
scripts that run on the way included. Hooks, doors, jumps and all other ways in which a function of
the game may run a script are followed down to the calls that the script makes.
-/

namespace Adventure

open Adventure.Function (Callee Builtin Deed Intent settled)

variable {σ α β : Type} {Q : World → World → Prop}

/-! ### Calls that have returned -/

/-- A call of a function of the game: what its handler was given and the value that it gave. -/
structure Exchange where
  context : Bridge.CallContext
  value : Value

/-- Play that makes these calls of the game's functions from this session on. Whatever it does with
the world beside them keeps to `Q`. A call stands behind those that were made on its way. -/
inductive Play.Transcript (Q : World → World → Prop) :
    {α : Type} → Play σ α → Session σ → List Exchange → Prop where
  | answer {α : Type} (a : α) (s : Session σ) : Transcript Q (pure a) s []
  | stop {α : Type} (p : Panic) (s : Session σ) : Transcript Q (throw p : Play σ α) s []
  | look (s : Session σ) : Transcript Q get s []
  | host (f : σ → σ) (s : Session σ) :
    Transcript Q (modify fun s => { s with host := f s.host } : Play σ Unit) s []
  | change {f : World → World} {s : Session σ} (aside : Q s.world (f s.world)) :
    Transcript Q (change f) s []
  | act {α : Type} {f : World → α × World} {s : Session σ} (aside : Q s.world (f s.world).2) :
    Transcript Q (act f) s []
  | chain {α β : Type} {m : Play σ α} {f : α → Play σ β} {s : Session σ} {a : α}
    {es es' : List Exchange} (first : Transcript Q m s es) (ended : m.ended s = .ok a)
    (rest : Transcript Q (f a) (m.after s) es') : Transcript Q (m >>= f) s (es ++ es')
  | broken {α β : Type} {m : Play σ α} {f : α → Play σ β} {s : Session σ} {p : Panic}
    {es : List Exchange} (first : Transcript Q m s es) (ended : m.ended s = .error p) :
    Transcript Q (m >>= f) s es
  | refused {run : Runner σ} {f : Callee} {args : List Value} {site : Bridge.CallSite}
    {err : Bridge.CallError} {s : Session σ} (h : f.admission Function.table args site = .error err) :
    Transcript Q (Function.call run f args site) s []
  | called {run : Runner σ} {f : Callee} {args : List Value} {site : Bridge.CallSite}
    {e : Bridge.Entry Builtin} {c : Bridge.CallContext} {s : Session σ}
    (h : f.admission Function.table args site = .ok (e, c)) (plain : e.handler.isDeed = false) :
    Transcript Q (Function.call run f args site) s [⟨c, (settled run e c s).1⟩]
  | deed {run : Runner σ} {f : Callee} {args : List Value} {site : Bridge.CallSite}
    {e : Bridge.Entry Builtin} {c : Bridge.CallContext} {d : Deed} {s : Session σ}
    {es : List Exchange} (h : f.admission Function.table args site = .ok (e, c))
    (handler : e.handler = .deed d) (inner : Transcript Q (d.perform run c) s es) :
    Transcript Q (Function.call run f args site) s (es ++ [⟨c, (settled run e c s).1⟩])

/-- Wherever it begins, play has a transcript. -/
def Play.Told (Q : World → World → Prop) (m : Play σ α) : Prop := ∀ s, ∃ es, Transcript Q m s es

/-- The scripts of the interpreter have transcripts. -/
def Runner.Told (Q : World → World → Prop) (run : Runner σ) : Prop := ∀ r, Play.Told Q (run r)

namespace Play

/-! ### Parts of play -/

theorem told_pure (a : α) : Told Q (pure a : Play σ α) := fun s => ⟨[], .answer a s⟩

theorem told_change {f : World → World} (hf : ∀ w, Q w (f w)) : Told Q (change f : Play σ Unit) :=
  fun s => ⟨[], .change (hf s.world)⟩

theorem told_act {f : World → α × World} (hf : ∀ w, Q w (f w).2) : Told Q (act f : Play σ α) :=
  fun s => ⟨[], .act (hf s.world)⟩

theorem told_bind {m : Play σ α} {f : α → Play σ β} (hm : Told Q m) (hf : ∀ a, Told Q (f a)) :
    Told Q (m >>= f) := by
  intro s
  obtain ⟨es, hes⟩ := hm s
  cases hended : m.ended s with
  | ok a =>
    obtain ⟨es', hes'⟩ := hf a (m.after s)
    exact ⟨es ++ es', hes.chain hended hes'⟩
  | error p => exact ⟨es, hes.broken hended⟩

theorem hereditary_told : Hereditary Q fun {α : Type} (m : Play σ α) => Told Q m where
  answer := told_pure
  look s := ⟨[], .look s⟩
  change := told_change
  chain := told_bind

theorem told_world {f : World → Play σ β} (hf : ∀ w, Told Q (f w)) : Told Q (world >>= f) :=
  hereditary_told.world hf

/-! ### Play that may run scripts -/

section Parts

variable {run : Runner σ} (hQ : ∀ {w w'}, World.Gentle w w' → Q w w') (hrun : run.Told Q)

include hQ

theorem told_log (f : World → String) : Told Q (change fun w => w.logEvent (f w) : Play σ Unit) :=
  told_change fun w => hQ (.logEvent w (f w))

include hrun

theorem told_runScript (r : Request) : Told Q (runScript run r) :=
  hereditary_told.runScript (fun w line => hQ (.logEvent w line)) hrun r

theorem told_runHook (h : Handle) (event : String) (triggerer : Handle) :
    Told Q (runHook run h event triggerer) :=
  hereditary_told.runHook (told_runScript hQ hrun) h event triggerer

theorem told_movedPc : Told Q (movedPc run) :=
  hereditary_told.movedPc (fun h => hQ h.toGentle) (told_runScript hQ hrun)

theorem told_jumpTo (h area : Handle) (position : Vec3) : Told Q (jumpTo run h area position) :=
  hereditary_told.jumpTo (fun h => hQ h.toGentle) (told_runScript hQ hrun) h area position

theorem told_setDoorOpen (h caller : Handle) (wanted : Bool) :
    Told Q (setDoorOpen run h caller wanted) := by
  refine hereditary_told.setDoorOpen (told_runScript hQ hrun) (fun w h wanted line => hQ ?_) h caller
    wanted
  have hopened := World.Gentle.update w h (fun o => (Object.alike_mapDoor o fun d =>
    { d with isOpen := wanted }).kin.same) (by simp)
  exact hopened.trans (.logEvent _ line)

theorem told_deed (d : Deed) (c : Bridge.CallContext) : Told Q (d.perform run c) :=
  hereditary_told.deed (fun h => hQ h.toGentle) (told_runScript hQ hrun)
    (told_setDoorOpen hQ hrun) d c

/-- A call of a function of the game has a transcript, which ends with the call itself if it is
admitted. -/
theorem told_call (f : Callee) (args : List Value) (site : Bridge.CallSite) :
    Told Q (Function.call run f args site) := by
  intro s
  cases h : f.admission Function.table args site with
  | error err => exact ⟨[], .refused h⟩
  | ok p =>
    cases hhandler : p.1.handler with
    | deed d =>
      obtain ⟨es, hes⟩ := told_deed hQ hrun d p.2 s
      exact ⟨_, .deed (e := p.1) h hhandler hes⟩
    | _ => exact ⟨_, .called (e := p.1) h (by rw [hhandler]; rfl)⟩

end Parts

end Play

/-! ### Operations -/

/-- Whatever the operations themselves do with a world, seeding the dice apart, keeps to `Q`. -/
structure World.Regular (Q : World → World → Prop) : Prop where
  gentle {w w' : World} (h : Gentle w w') : Q w w'
  loadModule (w : World) (name : String) : Q w (w.loadModule name).2
  loadArea (w : World) (resref : String) : Q w (w.loadArea resref).2
  unloadArea (w : World) (area : Handle) : Q w (w.unloadArea area)
  unload (w : World) : Q w w.unload
  loadPc (w : World) (r : Record) : Q w (w.loadPc r).2
  usePc (w : World) (h : Handle) : Q w (w.usePc h).2
  placeAtEntry (w : World) : Q w w.placeAtEntry.2
  createObject (w : World) (t : ObjectType) (template : String) (place : Location) (tag : String) :
    Q w (w.createObject t template place tag).2
  destroyObject (w : World) (h : Handle) : Q w (w.destroyObject h).2
  startConversation (w : World) (dialog : String) (pc object : Handle) :
    Q w (w.startConversation dialog pc object).2
  endConversation (w : World) : Q w w.endConversation

/-- The dice are seeded only if that keeps to `Q`, and only functions of the game are called. -/
def Operation.Tellable (Q : World → World → Prop) : Operation → Prop
  | .seed n => ∀ w : World, Q w { w with dice := .ofSeed n }
  | .call t _ _ _ => t = Function.table
  | _ => True

namespace Play

variable {run : Runner σ} (hQ : World.Regular Q) (hrun : run.Told Q)

include hQ hrun

theorem told_carryOutAction (a : Action) : Told Q (carryOut run a) := by
  unfold carryOut
  refine told_world fun w => ?_
  split
  · cases a.work with
    | script name state =>
      exact told_bind (told_runScript hQ.gentle hrun _) fun _ => told_pure true
    | destroy =>
      exact told_bind (told_act fun w => hQ.destroyObject w a.owner) fun _ => told_pure true
  · exact told_pure false

theorem told_carryOutAll (actions : List Action) : Told Q (carryOutAll run actions) := by
  induction actions with
  | nil => exact told_pure 0
  | cons a rest ih =>
    exact told_bind (told_carryOutAction hQ hrun a) fun _ => told_bind ih fun _ => told_pure _

theorem told_processActions : Told Q (processActions run) := by
  unfold processActions
  exact told_bind (told_act fun w => hQ.gentle (.aside rfl rfl)) fun due =>
    told_carryOutAll hQ hrun due

theorem told_enter : Told Q (enter run) := by
  unfold enter
  refine told_bind (told_act hQ.placeAtEntry) fun result => ?_
  cases result with
  | error e => exact told_pure _
  | ok entered =>
    refine told_bind (told_movedPc hQ.gentle hrun) fun _ => told_world fun w => ?_
    exact told_bind (told_runHook hQ.gentle hrun _ _ _) fun _ =>
      told_bind (told_log hQ.gentle _) fun _ => told_pure _

theorem told_movePc (area : String) (position : Vec3) : Told Q (movePc run area position) := by
  unfold movePc
  refine told_world fun w => ?_
  split
  · exact told_pure _
  · split
    · exact told_pure _
    · refine told_bind (told_jumpTo hQ.gentle hrun _ _ _) fun jumped => ?_
      cases jumped <;> exact told_pure _

theorem told_operation (op : Operation) (hop : op.Tellable Q) : Told Q (op.play run) := by
  cases op with
  | stop p => exact fun s => ⟨[], .stop p s⟩
  | loadModule name =>
    show Told Q (Play.act fun w => w.loadModule name)
    exact told_act fun w => hQ.loadModule w name
  | loadArea resref =>
    show Told Q (Play.act fun w => w.loadArea resref)
    exact told_act fun w => hQ.loadArea w resref
  | unloadArea area =>
    show Told Q (Play.change fun w => w.unloadArea area)
    exact told_change fun w => hQ.unloadArea w area
  | unload =>
    show Told Q (Play.change World.unload)
    exact told_change hQ.unload
  | loadPc r =>
    show Told Q (Play.act fun w => w.loadPc r)
    exact told_act fun w => hQ.loadPc w r
  | usePc h =>
    show Told Q (Play.act fun w => w.usePc h)
    exact told_act fun w => hQ.usePc w h
  | enter => exact told_enter hQ hrun
  | movePc area position => exact told_movePc hQ hrun area position
  | movedPc => exact told_movedPc hQ.gentle hrun
  | jumpTo h area position => exact told_jumpTo hQ.gentle hrun h area position
  | createObject t template place tag =>
    show Told Q (Play.act fun w => w.createObject t template place tag)
    exact told_act fun w => hQ.createObject w t template place tag
  | destroyObject h =>
    show Told Q (Play.act fun w => w.destroyObject h)
    exact told_act fun w => hQ.destroyObject w h
  | startConversation dialog pc object =>
    show Told Q (Play.act fun w => w.startConversation dialog pc object)
    exact told_act fun w => hQ.startConversation w dialog pc object
  | endConversation =>
    show Told Q (Play.change World.endConversation)
    exact told_change hQ.endConversation
  | processActions => exact told_processActions hQ hrun
  | delayScript script state owner triggerer ms =>
    show Told Q (Play.change fun w => w.delayScript script state owner triggerer ms)
    exact told_change fun w => hQ.gentle (.aside rfl rfl)
  | delayDestroy owner ms =>
    show Told Q (Play.change fun w => w.delayDestroy owner ms)
    exact told_change fun w => hQ.gentle (.aside rfl rfl)
  | runScript r => exact told_runScript hQ.gentle hrun r
  | runHook h event triggerer => exact told_runHook hQ.gentle hrun h event triggerer
  | firstInArea caller area =>
    show Told Q (Play.act fun w => w.firstInArea caller area)
    exact told_act fun w => hQ.gentle
      (.aside (World.Untouched.firstInArea w caller area).registry
        (World.firstInArea_dice w caller area))
  | nextInArea caller area =>
    show Told Q (Play.act fun w => w.nextInArea caller area)
    exact told_act fun w => hQ.gentle
      (.aside (World.Untouched.nextInArea w caller area).registry (World.nextInArea_dice w caller area))
  | setToken n text =>
    show Told Q (Play.change fun w => w.setToken n text)
    exact told_change fun w => hQ.gentle (.aside rfl rfl)
  | seed n =>
    show Told Q (Play.change fun w => { w with dice := .ofSeed n })
    exact told_change hop
  | setClock now =>
    show Told Q (Play.change fun w => { w with clock := now })
    exact told_change fun w => hQ.gentle (.aside rfl rfl)
  | advance ms =>
    show Told Q (Play.change fun w => w.advance ms)
    exact told_change fun w => hQ.gentle (.aside rfl rfl)
  | call t f args site =>
    obtain rfl : t = Function.table := hop
    exact told_call hQ.gentle hrun f args site

theorem Made.tells {allowed : Operation → Prop} (hallowed : ∀ op, allowed op → op.Tellable Q)
    {m : Play σ α} (h : Play.Made allowed run m) : Told Q m := by
  induction h with
  | answer a => exact told_pure a
  | chain _ _ ihm ihf => exact told_bind ihm ihf
  | look => exact fun s => ⟨[], .look s⟩
  | host f => exact fun s => ⟨[], .host f s⟩
  | operation op h => exact told_operation hQ hrun op (hallowed op h)

end Play

theorem Runner.Made.tells (hQ : World.Regular Q) {allowed : Operation → Prop}
    (hallowed : ∀ op, allowed op → op.Tellable Q) {run : Runner σ} (h : run.Made allowed) :
    run.Told Q := by
  induction h with
  | idle => exact fun _ => Play.told_pure _
  | scripted _ scripts ih => exact fun r => (scripts r).tells hQ ih hallowed

end Adventure

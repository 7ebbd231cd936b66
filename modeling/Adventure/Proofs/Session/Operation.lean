import Adventure.Proofs.Function.Moves

/-!
# Operations of a session

What can be done with a session, from outside and from a script, is a number of operations. Play is
made of operations of some sort if it does nothing else with the world; what it does next may depend
on anything that is to be seen. The scripts of an interpreter are made of operations of a sort if
they are, and so are those that run on their way, to any finite depth.
-/

namespace Adventure

open World (Kind Course Moves course_movesBy)
open Play (Stepwise stepwise_act stepwise_change)

inductive Operation where
  /-- Breaks off. -/
  | stop (p : Panic)
  | loadModule (name : String)
  | loadArea (resref : String)
  | unloadArea (area : Handle)
  | unload
  | loadPc (r : Record)
  | usePc (h : Handle)
  | enter
  | movePc (area : String) (position : Vec3)
  | movedPc
  | jumpTo (h area : Handle) (position : Vec3)
  | createObject (t : ObjectType) (template : String) (place : Location) (tag : String)
  | destroyObject (h : Handle)
  | startConversation (dialog : String) (pc object : Handle)
  | endConversation
  | processActions
  | delayScript (script : String) (state : Option ScriptState) (owner triggerer : Handle)
    (ms : UInt64)
  | delayDestroy (owner : Handle) (ms : UInt64)
  | runScript (r : Request)
  | runHook (h : Handle) (event : String) (triggerer : Handle)
  | firstInArea (caller area : Handle)
  | nextInArea (caller area : Handle)
  | setToken (n : Int32) (text : String)
  | seed (n : UInt64)
  | setClock (now : UInt64)
  | advance (ms : UInt64)
  | call (t : Bridge.Table Function.Builtin) (f : Function.Callee) (args : List Value)
    (site : Bridge.CallSite)

namespace Operation

def Answer : Operation → Type
  | stop _ => Empty
  | loadModule _ | usePc _ | enter | movePc _ _ | runScript _ => Except Failure Unit
  | loadArea _ | loadPc _ | createObject _ _ _ _ => Except Failure Handle
  | jumpTo _ _ _ | destroyObject _ | startConversation _ _ _ => Bool
  | processActions => Nat
  | firstInArea _ _ | nextInArea _ _ => Handle
  | call _ _ _ _ => Except Bridge.CallError Value
  | unloadArea _ | unload | movedPc | endConversation | delayScript _ _ _ _ _ | delayDestroy _ _
  | runHook _ _ _ | setToken _ _ | seed _ | setClock _ | advance _ => Unit

variable {σ : Type}

/-- The operation in play, with an interpreter for the scripts that it runs. -/
def play (run : Runner σ) : (op : Operation) → Play σ op.Answer
  | stop p => throw p
  | loadModule name => Play.act fun w => w.loadModule name
  | loadArea resref => Play.act fun w => w.loadArea resref
  | unloadArea area => Play.change fun w => w.unloadArea area
  | unload => Play.change World.unload
  | loadPc r => Play.act fun w => w.loadPc r
  | usePc h => Play.act fun w => w.usePc h
  | enter => Play.enter run
  | movePc area position => Play.movePc run area position
  | movedPc => Play.movedPc run
  | jumpTo h area position => Play.jumpTo run h area position
  | createObject t template place tag => Play.act fun w => w.createObject t template place tag
  | destroyObject h => Play.act fun w => w.destroyObject h
  | startConversation dialog pc object =>
    Play.act fun w => w.startConversation dialog pc object
  | endConversation => Play.change World.endConversation
  | processActions => Play.processActions run
  | delayScript script state owner triggerer ms =>
    Play.change fun w => w.delayScript script state owner triggerer ms
  | delayDestroy owner ms => Play.change fun w => w.delayDestroy owner ms
  | runScript r => Play.runScript run r
  | runHook h event triggerer => Play.runHook run h event triggerer
  | firstInArea caller area => Play.act fun w => w.firstInArea caller area
  | nextInArea caller area => Play.act fun w => w.nextInArea caller area
  | setToken n text => Play.change fun w => w.setToken n text
  | seed n => Play.change fun w => { w with dice := .ofSeed n }
  | setClock now => Play.change fun w => { w with clock := now }
  | advance ms => Play.change fun w => w.advance ms
  | call t f args site => Function.callIn t run f args site

/-! ### The steps of an operation -/

/-- The kinds of steps that an operation makes itself, apart from the scripts it runs. -/
def kinds : Operation → List Kind
  | loadModule _ | unload => [.module]
  | loadArea _ | unloadArea _ => [.area]
  | loadPc _ | usePc _ => [.player]
  | enter => [.call, .player]
  | destroyObject _ => [.destruction]
  | processActions => [.call, .destruction, .batch]
  | _ => [.call]

theorem stepwise {P : Kind → Prop} {R : World → World → Prop} (hR : Course P R) {run : Runner σ}
    (hrun : run.Stepwise R) (op : Operation) (hP : ∀ k ∈ op.kinds, P k) :
    Stepwise R (op.play run) := by
  have hfirst : ∀ {k rest}, op.kinds = k :: rest → P k := by
    intro k rest hk
    exact hP k (hk ▸ List.mem_cons_self)
  cases op with
  | stop p => exact Play.steps_throw hR p
  | loadModule name =>
    show Stepwise R (Play.act fun w => w.loadModule name)
    exact stepwise_act fun w => hR.loadModule (hfirst rfl) w name
  | loadArea resref =>
    show Stepwise R (Play.act fun w => w.loadArea resref)
    exact stepwise_act fun w =>
      hR.undisturbed (hfirst rfl) (.loadArea resref) (World.undisturbed_loadArea w resref)
  | unloadArea area =>
    show Stepwise R (Play.change fun w => w.unloadArea area)
    exact stepwise_change fun w => hR.stride (hfirst rfl) (.unloadArea area)
  | unload =>
    show Stepwise R (Play.change World.unload)
    exact stepwise_change fun w => hR.stride (hfirst rfl) .unload
  | loadPc r =>
    show Stepwise R (Play.act fun w => w.loadPc r)
    exact stepwise_act fun w =>
      hR.undisturbed (hfirst rfl) (.loadPc r) (World.undisturbed_loadPc w r)
  | usePc h =>
    show Stepwise R (Play.act fun w => w.usePc h)
    exact stepwise_act fun w =>
      hR.undisturbed (hfirst rfl) (.usePc h) (World.undisturbed_usePc w h)
  | enter => exact Play.stepwise_enter hR (hfirst rfl) (hP .player (by decide)) hrun
  | movePc area position => exact Play.stepwise_movePc hR (hfirst rfl) hrun area position
  | movedPc => exact Play.stepwise_movedPc hR (hfirst rfl) hrun
  | jumpTo h area position => exact Play.stepwise_jumpTo hR (hfirst rfl) hrun h area position
  | createObject t template place tag =>
    show Stepwise R (Play.act fun w => w.createObject t template place tag)
    exact stepwise_act fun w =>
      hR.undisturbed (hfirst rfl) (.createObject t template place tag)
        (World.undisturbed_createObject w t template place tag)
  | destroyObject h =>
    show Stepwise R (Play.act fun w => w.destroyObject h)
    exact stepwise_act fun w => hR.stride (hfirst rfl) (.destroy h)
  | startConversation dialog pc object =>
    show Stepwise R (Play.act fun w => w.startConversation dialog pc object)
    exact stepwise_act fun w =>
      Function.moves_startConversation hR (hfirst rfl) w dialog pc object
  | endConversation =>
    show Stepwise R (Play.change World.endConversation)
    exact stepwise_change fun w =>
      hR.undisturbed (hfirst rfl) .endConversation (World.undisturbed_endConversation w)
  | processActions =>
    exact Play.stepwise_processActions hR (hfirst rfl) (hP .destruction (by decide))
      (hP .batch (by decide)) hrun
  | delayScript script state owner triggerer ms =>
    show Stepwise R (Play.change fun w => w.delayScript script state owner triggerer ms)
    exact stepwise_change fun w =>
      Function.moves_delayScript hR (hfirst rfl) w script state owner triggerer ms
  | delayDestroy owner ms =>
    show Stepwise R (Play.change fun w => w.delayDestroy owner ms)
    exact stepwise_change fun w => Function.moves_delayDestroy hR (hfirst rfl) w owner ms
  | runScript r => exact Play.stepwise_runScript hR (hfirst rfl) hrun r
  | runHook h event triggerer => exact Play.stepwise_runHook hR (hfirst rfl) hrun h event triggerer
  | firstInArea caller area =>
    show Stepwise R (Play.act fun w => w.firstInArea caller area)
    exact stepwise_act fun w => hR.stride (hfirst rfl) (.first caller area)
  | nextInArea caller area =>
    show Stepwise R (Play.act fun w => w.nextInArea caller area)
    exact stepwise_act fun w => hR.stride (hfirst rfl) (.next caller area)
  | setToken n text =>
    show Stepwise R (Play.change fun w => w.setToken n text)
    exact stepwise_change fun w => hR.aside (hfirst rfl) rfl rfl rfl rfl rfl rfl rfl rfl rfl
  | seed n =>
    show Stepwise R (Play.change fun w => { w with dice := .ofSeed n })
    exact stepwise_change fun w => hR.aside (hfirst rfl) rfl rfl rfl rfl rfl rfl rfl rfl rfl
  | setClock now =>
    show Stepwise R (Play.change fun w => { w with clock := now })
    exact stepwise_change fun w => hR.aside (hfirst rfl) rfl rfl rfl rfl rfl rfl rfl rfl rfl
  | advance ms =>
    show Stepwise R (Play.change fun w => w.advance ms)
    exact stepwise_change fun w => hR.aside (hfirst rfl) rfl rfl rfl rfl rfl rfl rfl rfl rfl
  | call t f args site => exact Function.stepwise_callIn hR t (hfirst rfl) hrun f args site

theorem moves {run : Runner σ} (hrun : run.Stepwise Moves) (op : Operation) (s : Session σ) :
    Moves s.world ((op.play run).after s).world :=
  op.stepwise (course_movesBy _) hrun (fun _ _ => trivial) s

end Operation

/-! ### Play made of operations -/

variable {σ α : Type}

/-- Play that does nothing with the world but operations of this sort. -/
inductive Play.Made (allowed : Operation → Prop) (run : Runner σ) :
    {α : Type} → Play σ α → Prop where
  | answer {α : Type} (a : α) : Made allowed run (pure a : Play σ α)
  | chain {α β : Type} {m : Play σ α} {f : α → Play σ β} (first : Made allowed run m)
    (rest : ∀ a, Made allowed run (f a)) : Made allowed run (m >>= f)
  | look : Made allowed run (get : Play σ (Session σ))
  | host (f : σ → σ) :
    Made allowed run (modify fun s => { s with host := f s.host } : Play σ Unit)
  | operation (op : Operation) (h : allowed op) : Made allowed run (op.play run)

/-- An interpreter whose scripts are made of operations of this sort. They may ask for scripts of an
interpreter of this kind. -/
inductive Runner.Made (allowed : Operation → Prop) : Runner σ → Prop where
  | idle : Made allowed .idle
  | scripted {inner run : Runner σ} (deeper : Made allowed inner)
    (scripts : ∀ r, Play.Made allowed inner (run r)) : Made allowed run

theorem Play.Made.stepwise {allowed : Operation → Prop} {P : Kind → Prop}
    {R : World → World → Prop} (hR : Course P R) {run : Runner σ}
    (hP : ∀ op, allowed op → ∀ k ∈ op.kinds, P k) (hrun : run.Stepwise R) {m : Play σ α}
    (h : Play.Made allowed run m) : Stepwise R m := by
  induction h with
  | answer a => exact Play.steps_pure hR a
  | chain first rest ihm ihf => exact Play.stepwise_bind hR ihm ihf
  | look => exact fun s => hR.refl s.world
  | host f => exact fun s => hR.refl s.world
  | operation op h => exact op.stepwise hR hrun (hP op h)

theorem Runner.Made.stepwise {allowed : Operation → Prop} {P : Kind → Prop}
    {R : World → World → Prop} (hR : Course P R) {run : Runner σ}
    (hP : ∀ op, allowed op → ∀ k ∈ op.kinds, P k) (h : run.Made allowed) : run.Stepwise R := by
  induction h with
  | idle => exact fun _ => Play.steps_pure hR _
  | scripted _ scripts ih => exact fun r => (scripts r).stepwise hR hP ih

end Adventure

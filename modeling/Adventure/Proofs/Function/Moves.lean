import Adventure.Proofs.Session.Moves

/-!
# Script functions move the world step by step

Whatever course the strides of calls keep to, the functions of scripts keep to it as well. Most only
look, or change what nothing refers to. Those that create objects or start conversations are
operations of the world, and those that run scripts are operations of the session.
-/

namespace Adventure.Function

open Bridge
open World (Kind Course)
open Object (alike_locals alike_commandable alike_setFacing)
open Play (Stepwise steps_pure steps_bind steps_world stepwise_bind stepwise_change
  stepwise_runScript stepwise_setDoorOpen stepwise_jumpTo)

variable {α β σ : Type} {P : Kind → Prop} {R : World → World → Prop}

/-! ### Answers with a new world -/

/-- If this attempt succeeds, the course leads to the world that it answers with. -/
def Reaches (R : World → World → Prop) (w : World) (x : Attempt (α × World)) : Prop :=
  ∀ a w', x = .ok (a, w') → R w w'

theorem reaches_pure {w w' : World} (h : R w w') (a : α) :
    Reaches R w (pure (a, w') : Attempt (α × World)) := by
  intro b w'' he
  cases he
  exact h

theorem reaches_bind {w : World} {x : Attempt β} {f : β → Attempt (α × World)}
    (hf : ∀ b, Reaches R w (f b)) : Reaches R w (x >>= f) := by
  intro a w' he
  cases x with
  | error t => cases he
  | ok b => exact hf b a w' he

/-! ### Functions that change the world -/

section Courses

variable (hR : Course P R)

include hR

theorem moves_speak (hP : P .call) (w : World) (speaker : Handle) (text : String) :
    R w (speak w speaker text) := by
  unfold speak
  split
  · exact hR.logEvent hP w _
  · exact hR.refl w

theorem moves_rollDice (hP : P .call) (w : World) (lo hi n : Int32) :
    R w (rollDice w lo hi n).2 := hR.aside hP rfl rfl rfl rfl rfl rfl rfl rfl rfl

theorem moves_randomBelow (hP : P .call) (w : World) (limit : Int32) :
    R w (randomBelow w limit).2 := by
  unfold randomBelow
  split
  · exact hR.refl w
  · exact moves_rollDice hR hP w _ _ _

theorem moves_delayScript (hP : P .call) (w : World) (script : String) (state : Option ScriptState)
    (owner triggerer : Handle) (ms : UInt64) :
    R w (w.delayScript script state owner triggerer ms) := hR.other hP (.queued _) rfl

theorem moves_delayDestroy (hP : P .call) (w : World) (owner : Handle) (ms : UInt64) :
    R w (w.delayDestroy owner ms) := hR.other hP (.queued _) rfl

theorem moves_startConversation (hP : P .call) (w : World) (dialog : String) (pc object : Handle) :
    R w (w.startConversation dialog pc object).2 :=
  hR.undisturbed hP (.startConversation dialog pc object)
    (World.undisturbed_startConversation w dialog pc object)

theorem reaches_perform (hP : P .call) (f : Change) (w : World) (c : CallContext) :
    Reaches R w (f.perform w c) := by
  unfold Change.perform
  cases f with
  | print what => exact reaches_bind fun line => reaches_pure (hR.logEvent hP w _) _
  | speak => exact reaches_bind fun text => reaches_pure (moves_speak hR hP w _ text) _
  | setLocal type =>
    refine reaches_bind fun name => reaches_bind fun set => reaches_bind fun h => ?_
    exact reaches_pure (hR.touch hP w h fun o => alike_locals o _) _
  | deleteLocal type =>
    refine reaches_bind fun name => reaches_bind fun h => ?_
    exact reaches_pure (hR.touch hP w h fun o => alike_locals o _) _
  | setFacing =>
    refine reaches_bind fun facing => reaches_pure ?_ _
    exact hR.touch hP w _ fun o => alike_setFacing o facing
  | setFacingPoint =>
    exact reaches_bind fun target => reaches_pure (hR.touch hP w _ fun o => alike_setFacing o _) _
  | setCommandable =>
    refine reaches_bind fun n => reaches_pure (hR.touch hP w _ fun o => alike_commandable o _) _
  | clearActions => exact reaches_pure (hR.refl w) _
  | random => exact reaches_bind fun n => reaches_pure (moves_randomBelow hR hP w n) _
  | dice sides =>
    exact reaches_bind fun n => reaches_pure (moves_rollDice hR hP w 1 (Int32.ofNat sides) n) _
  | firstInArea => exact reaches_bind fun area => reaches_pure (hR.stride hP (.first _ area)) _
  | nextInArea => exact reaches_bind fun area => reaches_pure (hR.stride hP (.next _ area)) _
  | startConversation =>
    refine reaches_bind fun pc => reaches_bind fun dialog => ?_
    exact reaches_pure (moves_startConversation hR hP w dialog pc _) _
  | beginConversation =>
    refine reaches_bind fun other => ?_
    split
    exact reaches_bind fun dialog => reaches_pure (moves_startConversation hR hP w dialog _ _) _
  | createObject =>
    refine reaches_bind fun n => reaches_bind fun template => reaches_bind fun place => ?_
    cases place with
    | none => exact reaches_pure (hR.refl w) _
    | some place =>
      refine reaches_bind fun tag => ?_
      have hcreate : R w (w.createObject (ObjectType.ofScript n) template place tag).2 :=
        hR.undisturbed hP (.createObject _ template place tag)
          (World.undisturbed_createObject w _ template place tag)
      split
      · rename_i h w' hw
        rw [hw] at hcreate
        exact reaches_pure hcreate _
      · rename_i e w' hw
        rw [hw] at hcreate
        exact reaches_pure hcreate _
  | destroyObject =>
    refine reaches_bind fun h => reaches_bind fun seconds => reaches_pure ?_ _
    split
    · exact moves_delayDestroy hR hP w h _
    · exact hR.refl w
  | setToken =>
    refine reaches_bind fun n => reaches_bind fun text => reaches_pure ?_ _
    exact hR.aside hP rfl rfl rfl rfl rfl rfl rfl rfl rfl
  | assignCommand =>
    refine reaches_bind fun subject => reaches_bind fun state => reaches_pure ?_ _
    split
    · exact moves_delayScript hR hP w _ _ _ _ _
    · exact hR.refl w
  | delayCommand =>
    refine reaches_bind fun seconds => reaches_bind fun state => ?_
    exact reaches_pure (moves_delayScript hR hP w _ _ _ _ _) _
  | doCommand => exact reaches_bind fun state => reaches_pure (moves_delayScript hR hP w _ _ _ _ _) _

/-! ### Functions that may run scripts -/

variable {run : Runner σ}

theorem stepwise_carryOut (hP : P .call) (hrun : run.Stepwise R) (caller : Handle)
    (intent : Intent) : Stepwise R (intent.carryOut run caller) := by
  unfold Intent.carryOut
  cases intent with
  | nothing => exact steps_pure hR _
  | execute script target => exact stepwise_runScript hR hP hrun _
  | door h wanted =>
    exact stepwise_bind hR (stepwise_setDoorOpen hR hP hrun h caller wanted) fun _ => steps_pure hR _
  | jump area position facing =>
    refine stepwise_bind hR (stepwise_jumpTo hR hP hrun caller area position) fun jumped => ?_
    cases facing with
    | none => exact steps_pure hR _
    | some facing =>
      simp only
      split
      · refine stepwise_bind hR (stepwise_change fun w => ?_) fun _ => steps_pure hR _
        exact hR.touch hP w caller fun o => alike_setFacing o facing
      · exact steps_pure hR _

theorem stepwise_deed (hP : P .call) (hrun : run.Stepwise R) (d : Deed) (c : CallContext) :
    Stepwise R (d.perform run c) := by
  intro s
  unfold Deed.perform
  refine steps_world hR ?_
  split
  · exact steps_pure hR _ s
  · refine stepwise_bind hR (stepwise_carryOut hR hP hrun _ _) (fun ended => ?_) s
    cases ended <;> exact steps_pure hR _

/-! ### Builtins and calls -/

theorem stepwise_perform (hP : P .call) (hrun : run.Stepwise R) (b : Builtin)
    (c : CallContext) : Stepwise R (b.perform run c) := by
  unfold Builtin.perform
  cases b with
  | placeholder => exact steps_pure hR _
  | text f => exact steps_pure hR _
  | number f => exact steps_pure hR _
  | query q => exact fun s => steps_world hR (steps_pure hR _ s)
  | change f =>
    refine Play.stepwise_act fun w => ?_
    split
    · rename_i v w' hw
      exact reaches_perform hR hP f w c v w' hw
    · exact hR.refl w
  | deed d => exact stepwise_deed hR hP hrun d c

end Courses

theorem engine_of_call {t : Table Builtin} {run : Runner σ} {s : Session σ} {n : Nat}
    {args : List Value} {site : CallSite} {reply : Reply (Session σ)}
    (h : t.call (Builtin.handler run) s n args site = .ok reply) :
    ∃ (e : Entry Builtin) (c : CallContext), t.find? n = some e ∧
      reply.engine = (e.handler.perform run c).after s := by
  unfold Table.call at h
  split at h
  · cases h
  · rename_i e hfound
    split at h
    · cases h
    · rename_i params _
      cases h
      exact ⟨e, e.context params args.length site, hfound, rfl⟩

def Callee.number? (t : Table Builtin) : Callee → Option Nat
  | .id n => some n
  | .name s => t.findByName? s

/-- Whatever holds of a session, and holds after a function of the table has been called in it,
holds after the call, whether it is admitted or not and however its handler ends. -/
theorem after_callIn {t : Table Builtin} {run : Runner σ} {f : Callee} {args : List Value}
    {site : CallSite} {s : Session σ} {Q : World → Prop} (hrefused : Q s.world)
    (hperformed : ∀ n e c, f.number? t = some n → t.find? n = some e →
      Q ((e.handler.perform run c).after s).world) :
    ∃ answer, (callIn t run f args site).ended s = .ok answer ∧
      Q ((callIn t run f args site).after s).world := by
  have hreply : ∀ {n : Nat} {reply : Reply (Session σ)}, f.number? t = some n →
      t.call (Builtin.handler run) s n args site = .ok reply → Q reply.engine.world := by
    intro n reply hn h
    obtain ⟨e, c, hfound, hengine⟩ := engine_of_call h
    rw [hengine]
    exact hperformed n e c hn hfound
  have hget : ∀ g : Session σ → Play σ (Except CallError Value),
      (get >>= g).ended s = (g s).ended s ∧ (get >>= g).after s = (g s).after s :=
    fun g => Play.bind_of_ok rfl g
  unfold callIn
  rw [(hget _).1, (hget _).2]
  cases f with
  | id n =>
    simp only
    split
    · exact ⟨_, rfl, hrefused⟩
    · rename_i reply h
      exact ⟨_, rfl, hreply rfl h⟩
  | name name =>
    simp only
    split
    · exact ⟨_, rfl, hrefused⟩
    · rename_i reply h
      unfold Table.callByName at h
      split at h
      · cases h
      · rename_i n hn
        exact ⟨_, rfl, hreply hn h⟩

theorem stepwise_callIn {run : Runner σ} (hR : Course P R) (t : Table Builtin) (hP : P .call)
    (hrun : run.Stepwise R) (f : Callee) (args : List Value) (site : CallSite) :
    Stepwise R (callIn t run f args site) := by
  intro s
  have hmoves : ∃ reply, (callIn t run f args site).ended s = .ok reply ∧
      R s.world ((callIn t run f args site).after s).world :=
    after_callIn (hR.refl s.world) fun n e c _ _ => stepwise_perform hR hP hrun e.handler c s
  obtain ⟨_, -, hmoves⟩ := hmoves
  exact hmoves

end Adventure.Function

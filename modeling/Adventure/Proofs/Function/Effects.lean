import Adventure.Proofs.Function.Calls
import Adventure.Proofs.Function.Dispatch
import Adventure.Proofs.Function.Parameters
import Adventure.Proofs.World.Frames

/-!
# Effects of script functions

What the functions that run no script can do to a session. Those that only look do nothing, and what
is stopped has done nothing. The others throw the dice, create an object, begin a conversation of
the caller, touch one object that the call is about, or leave the registry alone.
-/

namespace Adventure

namespace Bridge.CallContext

/-- The call is about this handle: it is the caller, a parameter, or it names nothing. -/
def Concerns (c : CallContext) (h : Handle) : Prop :=
  h = c.site.caller ∨ .object h ∈ c.params ∨ h = .invalid

theorem mem_of_object {c : CallContext} {index : Nat} {h : Handle} (ho : c.object index = .ok h) :
    .object h ∈ c.params := by
  unfold object param at ho
  cases hv : c.params[index]? with
  | none => rw [hv] at ho; cases ho
  | some v =>
    rw [hv] at ho
    cases v with
    | object a =>
      cases ho
      exact List.mem_of_getElem? hv
    | _ => cases ho

theorem concerns_object {c : CallContext} {index : Nat} {h : Handle} (ho : c.object index = .ok h) :
    c.Concerns h := .inr (.inl (mem_of_object ho))

theorem concerns_objectOrCaller (c : CallContext) (index : Nat) :
    c.Concerns (c.objectOrCaller index) := by
  unfold objectOrCaller
  split
  · exact .inl rfl
  · cases ho : c.object index with
    | ok h => exact concerns_object ho
    | error e => exact .inr (.inr rfl)

end Bridge.CallContext

namespace Function

open Bridge
open Object (Alike alike_locals alike_commandable alike_setFacing)
open World (Untouched)

variable {α β σ : Type} {w : World} {c : CallContext}

/-! ### What changes can do -/

/-- Does the change neither throw the dice nor create anything? -/
def Change.isPlain : Change → Bool
  | .random | .dice _ | .createObject => false
  | _ => true

/-- What a change that succeeds answers and makes of the world. -/
inductive Effect (w : World) (c : CallContext) : Change → Value → World → Prop where
  /-- The trail, the queue, the tokens and the walks may change. -/
  | aside {f : Change} {v : Value} {w' : World} (plain : f.isPlain = true) (untouched : Untouched w w')
    (dice : w'.dice = w.dice) : Effect w c f v w'
  | touched {f : Change} (plain : f.isPlain = true) {h : Handle} {g : Object → Object}
    (about : c.Concerns h) (alike : ∀ o, Alike o (g o)) : Effect w c f c.preset (w.update h g)
  | talked {f : Change} {v : Value} (plain : f.isPlain = true) {dialog : String} {pc object : Handle}
    (caller : pc = c.site.caller ∨ object = c.site.caller) :
    Effect w c f v (w.startConversation dialog pc object).2
  | random {n : Int32} (argument : c.int 0 = .ok n) :
    Effect w c .random (.int (randomBelow w n).1) (randomBelow w n).2
  | dice {sides : Nat} {n : Int32} (argument : c.int 0 = .ok n) :
    Effect w c (.dice sides) (.int (rollDice w 1 (Int32.ofNat sides) n).1)
      (rollDice w 1 (Int32.ofNat sides) n).2
  | nowhere : Effect w c .createObject c.preset w
  | created {t : ObjectType} {template : String} {place : Location} {tag : String} :
    Effect w c .createObject
      (.object ((w.createObject t template place tag).1.toOption.getD .invalid))
      (w.createObject t template place tag).2

/-- If this attempt succeeds, then with this answer and this world. -/
def Has (E : Value → World → Prop) (x : Attempt (Value × World)) : Prop :=
  ∀ v w', x = .ok (v, w') → E v w'

theorem has_pure {E : Value → World → Prop} {v : Value} {w' : World} (h : E v w') :
    Has E (pure (v, w')) := by
  intro u w'' he
  cases he
  exact h

theorem has_bind {E : Value → World → Prop} {x : Attempt β} {f : β → Attempt (Value × World)}
    (hf : ∀ b, x = .ok b → Has E (f b)) : Has E (x >>= f) := by
  intro v w' he
  obtain ⟨b, hb, he⟩ := ok_of_bind he
  exact hf b hb v w' he

theorem untouched_speak (w : World) (speaker : Handle) (text : String) :
    Untouched w (speak w speaker text) ∧ (speak w speaker text).dice = w.dice := by
  unfold speak
  split
  · exact ⟨.logEvent w _, rfl⟩
  · exact ⟨.refl w, rfl⟩

theorem untouched_randomBelow (w : World) (limit : Int32) :
    Untouched w (randomBelow w limit).2 := by
  unfold randomBelow
  split
  · exact .refl w
  · exact ⟨rfl, rfl, rfl, rfl, rfl⟩

theorem effect_perform (f : Change) (w : World) (c : CallContext) :
    Has (Effect w c f) (f.perform w c) := by
  unfold Change.perform
  cases f with
  | print what => exact has_bind fun line _ => has_pure (.aside rfl (.logEvent w _) rfl)
  | speak =>
    refine has_bind fun text _ => has_pure ?_
    obtain ⟨huntouched, hdice⟩ := untouched_speak w c.site.caller text
    exact .aside rfl huntouched hdice
  | setLocal type =>
    refine has_bind fun name _ => has_bind fun set _ => has_bind fun h hh => has_pure ?_
    exact .touched rfl (CallContext.concerns_object (ok_of_lift hh)) fun o => alike_locals o _
  | deleteLocal type =>
    refine has_bind fun name _ => has_bind fun h hh => has_pure ?_
    exact .touched rfl (CallContext.concerns_object (ok_of_lift hh)) fun o => alike_locals o _
  | setFacing =>
    exact has_bind fun facing _ => has_pure (.touched rfl (.inl rfl) fun o => alike_setFacing o _)
  | setFacingPoint =>
    exact has_bind fun target _ => has_pure (.touched rfl (.inl rfl) fun o => alike_setFacing o _)
  | setCommandable =>
    refine has_bind fun n _ => has_pure ?_
    exact .touched rfl (c.concerns_objectOrCaller 1) fun o => alike_commandable o _
  | clearActions => exact has_pure (.aside rfl (.refl w) rfl)
  | random => exact has_bind fun n hn => has_pure (.random (ok_of_lift hn))
  | dice sides => exact has_bind fun n hn => has_pure (.dice (ok_of_lift hn))
  | firstInArea =>
    refine has_bind fun area _ => has_pure ?_
    exact .aside rfl (.firstInArea w _ area) (World.firstInArea_dice w _ area)
  | nextInArea =>
    refine has_bind fun area _ => has_pure ?_
    exact .aside rfl (.nextInArea w _ area) (World.nextInArea_dice w _ area)
  | startConversation =>
    exact has_bind fun pc _ => has_bind fun dialog _ => has_pure (.talked rfl (.inr rfl))
  | beginConversation =>
    refine has_bind fun other _ => ?_
    split
    rename_i pc object hsides
    -- The caller is one side whether or not it is the player's creature.
    refine has_bind fun dialog _ => has_pure (.talked rfl ?_)
    split at hsides
    · cases hsides
      exact .inr rfl
    · cases hsides
      exact .inl rfl
  | createObject =>
    refine has_bind fun n _ => has_bind fun template _ => has_bind fun place _ => ?_
    cases place with
    | none => exact has_pure .nowhere
    | some place =>
      refine has_bind fun tag _ => ?_
      have hcreated : Effect w c .createObject (.object ((w.createObject (ObjectType.ofScript n)
          template place tag).1.toOption.getD .invalid))
          (w.createObject (ObjectType.ofScript n) template place tag).2 := .created
      split
      · rename_i h w' hw
        rw [hw] at hcreated
        exact has_pure hcreated
      · rename_i e w' hw
        rw [hw] at hcreated
        exact has_pure hcreated
  | destroyObject =>
    refine has_bind fun h _ => has_bind fun seconds _ => has_pure ?_
    split
    · exact .aside rfl ⟨rfl, rfl, rfl, rfl, rfl⟩ rfl
    · exact .aside rfl (.refl w) rfl
  | setToken =>
    exact has_bind fun n _ => has_bind fun text _ =>
      has_pure (.aside rfl ⟨rfl, rfl, rfl, rfl, rfl⟩ rfl)
  | assignCommand =>
    refine has_bind fun subject _ => has_bind fun state _ => has_pure ?_
    split
    · exact .aside rfl ⟨rfl, rfl, rfl, rfl, rfl⟩ rfl
    · exact .aside rfl (.refl w) rfl
  | delayCommand =>
    exact has_bind fun seconds _ => has_bind fun state _ =>
      has_pure (.aside rfl ⟨rfl, rfl, rfl, rfl, rfl⟩ rfl)
  | doCommand =>
    exact has_bind fun state _ => has_pure (.aside rfl ⟨rfl, rfl, rfl, rfl, rfl⟩ rfl)

/-! ### What builtins that run no script do to a session -/

def Builtin.isDeed : Builtin → Bool
  | .deed _ => true
  | _ => false

/-- What an attempt to change a world answers, and the world that is there then. -/
def attempted (x : Attempt (Value × World)) (w : World) : Attempt Value × World :=
  match x with
  | .ok (v, w) => (.ok v, w)
  | .error e => (.error e, w)

/-- A builtin that runs no script ends, and either leaves the session as it is or is a change that
succeeds. -/
theorem perform_plain {b : Builtin} (hb : b.isDeed = false) (run : Runner σ) (c : CallContext)
    (s : Session σ) : ∃ answer, (b.perform run c).ended s = .ok answer ∧
      ((b.perform run c).after s = s ∧ (∀ f, b = .change f → ∃ t, answer = .error t) ∨
        ∃ f v w', b = .change f ∧ answer = .ok v ∧
          (b.perform run c).after s = { s with world := w' } ∧ Effect s.world c f v w') := by
  cases b with
  | placeholder => exact ⟨_, rfl, .inl ⟨rfl, fun f hf => by cases hf⟩⟩
  | text f => exact ⟨_, rfl, .inl ⟨rfl, fun f hf => by cases hf⟩⟩
  | number f => exact ⟨_, rfl, .inl ⟨rfl, fun f hf => by cases hf⟩⟩
  | query q => exact ⟨_, rfl, .inl ⟨rfl, fun f hf => by cases hf⟩⟩
  | change f =>
    have heffect := effect_perform f s.world c
    have hact : ((Builtin.change f).perform run c).ended s =
        .ok (attempted (f.perform s.world c) s.world).1 ∧
        ((Builtin.change f).perform run c).after s =
          { s with world := (attempted (f.perform s.world c) s.world).2 } := ⟨rfl, rfl⟩
    refine ⟨_, hact.1, ?_⟩
    rw [hact.2]
    cases hf : f.perform s.world c with
    | error e => exact .inl ⟨rfl, fun _ _ => ⟨e, rfl⟩⟩
    | ok p => exact .inr ⟨f, p.1, p.2, rfl, rfl, rfl, heffect p.1 p.2 hf⟩
  | deed d => cases hb

theorem settle_preset {e : Entry Builtin} (hslot : c.preset = .default e.signature.ret) :
    e.settle (ending c (.ok (.ok c.preset))) = (.default e.signature.ret, none) := by
  rw [hslot]
  exact Entry.settle_of_sound ⟨rfl, Value.type_default _⟩

/-! ### The table of the game -/

theorem suits_of_admission {f : Callee} {args : List Value} {site : CallSite} {e : Entry Builtin}
    (h : f.admission table args site = .ok (e, c)) : Suits e := by
  obtain ⟨_, -, hfound, -⟩ := Callee.found_of_admission h
  exact suits_of_found hfound

theorem admission_of_admits {f : Callee} {id : Nat} {args : List Value} (site : CallSite)
    (hid : f.number? table = some id) (h : table.Admits id args) :
    ∃ e c, table.find? id = some e ∧ f.admission table args site = .ok (e, c) ∧
      e.Prepares e.id args site c := by
  obtain ⟨e, hfound, hlow, hhigh, hfit⟩ := h
  have hwell := (suits_of_found hfound).wellTyped
  obtain ⟨params, hfill, hprepares⟩ := fill_of_fit hwell site hlow hhigh hfit
  refine ⟨e, e.context params args.length site, hfound, ?_, hprepares⟩
  simp only [Callee.admission_of_number hid, Table.admission, hfound, hfill]

/-- Handlers that only answer what is preset. -/
def answerPreset : Builtin → Handler Unit := fun _ c u => (⟨c.preset, .finished⟩, u)

/-- Whatever has been admitted fits, so the handler is given what the signature declares. -/
theorem prepares_of_admission {f : Callee} {args : List Value} {site : CallSite} {e : Entry Builtin}
    (h : f.admission table args site = .ok (e, c)) : e.Prepares e.id args site c := by
  obtain ⟨n, hn, -⟩ := Callee.found_of_admission h
  rcases admits_or_refuses table n args with hadmits | ⟨err, hrefuses⟩
  · obtain ⟨e', c', -, hadmission, hprepares⟩ := admission_of_admits site hn hadmits
    rw [h] at hadmission
    cases hadmission
    exact hprepares
  · -- A call that is refused has no reply, and this one has.
    rw [Callee.admission_of_number hn] at h
    have hcall := Table.call_of_admission answerPreset () h
    rw [call_of_refuses answerPreset () site hrefuses] at hcall
    cases hcall

theorem provides_of_admission {f : Callee} {args : List Value} {site : CallSite} {e : Entry Builtin}
    (h : f.admission table args site = .ok (e, c)) : Provides c e.handler.takes := by
  unfold Provides
  rw [(prepares_of_admission h).types]
  exact (suits_of_admission h).takes

def sidesOf? : String → Option Nat
  | "d2" => some 2
  | "d3" => some 3
  | "d4" => some 4
  | "d6" => some 6
  | "d8" => some 8
  | "d10" => some 10
  | "d12" => some 12
  | "d20" => some 20
  | "d100" => some 100
  | _ => none

def Builtin.sides? : Builtin → Option Nat
  | .change (.dice sides) => some sides
  | _ => none

/-- The functions that throw dice or create objects are known by their names. -/
structure Named (e : Entry Builtin) : Prop where
  random : e.handler = .change .random ↔ e.name = "Random"
  sides : e.handler.sides? = sidesOf? e.name
  create : e.handler = .change .createObject ↔ e.name = "CreateObject"

instance (e : Entry Builtin) : Decidable (Named e) :=
  decidable_of_iff
    ((e.handler = .change .random ↔ e.name = "Random") ∧ e.handler.sides? = sidesOf? e.name ∧
      (e.handler = .change .createObject ↔ e.name = "CreateObject"))
    ⟨fun ⟨h₁, h₂, h₃⟩ => ⟨h₁, h₂, h₃⟩, fun ⟨h₁, h₂, h₃⟩ => ⟨h₁, h₂, h₃⟩⟩

theorem entries_named : ∀ e ∈ entries, Named e := by
  decide +kernel

theorem named_of_admission {f : Callee} {args : List Value} {site : CallSite} {e : Entry Builtin}
    (h : f.admission table args site = .ok (e, c)) : Named e := by
  obtain ⟨_, -, hfound, -⟩ := Callee.found_of_admission h
  exact entries_named e (List.mem_of_find?_eq_some hfound)

end Function

end Adventure

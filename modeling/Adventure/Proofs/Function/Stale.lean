import Adventure.Proofs.Function.Effects
import Adventure.Proofs.Session.Scenes

/-!
# Calls with stale handles

A function that is called by nobody who is there, on behalf of nobody who is there and about nothing
that is there does no harm. It answers, but no object changes and no script runs, whatever else the
function takes for an object that is left out. Creating an object is the one thing that needs no
live object but an area of a location.
-/

namespace Adventure

/-! ### Operations on nothing -/

namespace World

variable {w : World} {h : Handle}

theorem startConversation_dead {pc object : Handle}
    (hdead : w.get? pc = none ∨ w.get? object = none) (dialog : String) :
    w.startConversation dialog pc object = (false, w) := by
  rcases w.startConversation_cases dialog pc object with hrefused | ⟨_, _, hpc, -, hobject, -⟩
  · exact hrefused
  · rw [hpc, hobject] at hdead
    rcases hdead with hdead | hdead <;> cases hdead

theorem canJump_dead (hdead : w.get? h = none) (area : Handle) : w.canJump h area = none := by
  unfold canJump
  rw [hdead]
  rfl

theorem not_contains_dead (hdead : w.get? h = none) : w.registry.contains h = false := by
  unfold Registry.contains
  rw [show w.registry.get? h = none from hdead]
  rfl

end World

namespace Play

variable {σ : Type} {s : Session σ} {h : Handle}

theorem setDoorOpen_dead (hdead : s.world.get? h = none) (run : Runner σ) (caller : Handle)
    (wanted : Bool) : (setDoorOpen run h caller wanted).ended s = .ok () ∧
      (setDoorOpen run h caller wanted).after s = s := by
  unfold setDoorOpen
  rw [(world_bind _ s).1, (world_bind _ s).2, hdead]
  exact ⟨rfl, rfl⟩

theorem jumpTo_dead (hdead : s.world.get? h = none) (run : Runner σ) (area : Handle)
    (position : Vec3) : (jumpTo run h area position).ended s = .ok false ∧
      (jumpTo run h area position).after s = s := by
  unfold jumpTo
  rw [(world_bind _ s).1, (world_bind _ s).2, World.canJump_dead hdead]
  exact ⟨rfl, rfl⟩

end Play

namespace Function

open Bridge
open World (Untouched)

variable {σ : Type} {c : CallContext} {s : Session σ}

/-! ### Contexts about nothing -/

/-- Neither the caller nor the triggerer nor a parameter is a live object. -/
structure Stale (w : World) (c : CallContext) : Prop where
  caller : w.get? c.site.caller = none
  triggerer : w.get? c.site.triggerer = none
  params : ∀ h, .object h ∈ c.params → w.get? h = none

theorem Stale.dead {w : World} (hc : Stale w c) {h : Handle} (about : c.Concerns h) :
    w.get? h = none := by
  rcases about with rfl | hparam | rfl
  · exact hc.caller
  · exact hc.params h hparam
  · rfl

theorem Effect.untouched {w w' : World} {f : Change} {v : Value} (h : Effect w c f v w')
    (hc : Stale w c) (hf : f ≠ .createObject) : Untouched w w' := by
  cases h with
  | aside _ untouched => exact untouched
  | touched _ about =>
    rw [World.update_dead (hc.dead about)]
    exact .refl w
  | talked _ caller =>
    -- One side of the conversation is the caller, who is not there; the other may well be.
    have hdead : ∀ {h}, h = c.site.caller → w.get? h = none := fun hh => hh ▸ hc.caller
    rw [World.startConversation_dead (caller.imp hdead hdead)]
    exact .refl w
  | random => exact untouched_randomBelow w _
  | dice => exact ⟨rfl, rfl, rfl, rfl, rfl⟩
  | nowhere => exact absurd rfl hf
  | created => exact absurd rfl hf

/-! ### Functions that may run scripts -/

/-- What does nothing if the caller is not there. -/
inductive Intent.Idle (w : World) : Intent → Prop where
  | nothing : Idle w .nothing
  | door {h : Handle} {wanted : Bool} (dead : w.get? h = none) : Idle w (.door h wanted)
  | jump {area : Handle} {position : Vec3} {facing : Option Float32} :
    Idle w (.jump area position facing)

theorem idle_intent {w : World} (hc : Stale w c) (d : Deed) :
    ∀ intent, d.intent w c = .ok intent → intent.Idle w := by
  have hobject : ∀ {index : Nat} {h : Handle}, (liftM (c.object index) : Attempt Handle) = .ok h →
      w.get? h = none :=
    fun ho => hc.params _ (CallContext.mem_of_object (ok_of_lift ho))
  unfold Deed.intent
  intro intent hintent
  cases d with
  | executeScript =>
    obtain ⟨script, -, hintent⟩ := ok_of_bind hintent
    obtain ⟨target, htarget, hintent⟩ := ok_of_bind hintent
    rw [World.not_contains_dead (hobject htarget)] at hintent
    cases hintent
    exact .nothing
  | openDoor =>
    obtain ⟨h, hh, hintent⟩ := ok_of_bind hintent
    cases hintent
    exact .door (hobject hh)
  | closeDoor =>
    obtain ⟨h, hh, hintent⟩ := ok_of_bind hintent
    cases hintent
    exact .door (hobject hh)
  | jumpToObject =>
    obtain ⟨h, hh, hintent⟩ := ok_of_bind hintent
    rw [hobject hh] at hintent
    cases hintent
    exact .nothing
  | jumpToLocation =>
    obtain ⟨v, -, hintent⟩ := ok_of_bind hintent
    split at hintent
    · cases hintent
      exact .jump
    · cases hintent
      exact .nothing

theorem carryOut_idle {intent : Intent} (hidle : intent.Idle s.world) {caller : Handle}
    (hcaller : s.world.get? caller = none) (run : Runner σ) :
    (intent.carryOut run caller).ended s = .ok (.ok ()) ∧
      (intent.carryOut run caller).after s = s := by
  unfold Intent.carryOut
  cases hidle with
  | nothing => exact ⟨rfl, rfl⟩
  | @door h wanted dead =>
    obtain ⟨hended, hafter⟩ := Play.setDoorOpen_dead dead run caller wanted
    simp only
    rw [(Play.bind_of_ok hended _).1, (Play.bind_of_ok hended _).2, hafter]
    exact ⟨rfl, rfl⟩
  | @jump area position facing =>
    obtain ⟨hended, hafter⟩ := Play.jumpTo_dead hcaller run area position
    simp only
    rw [(Play.bind_of_ok hended _).1, (Play.bind_of_ok hended _).2, hafter]
    cases facing <;> exact ⟨rfl, rfl⟩

theorem deed_stale (hc : Stale s.world c) (d : Deed) : ∃ answer, ∀ run : Runner σ,
    (d.perform run c).ended s = .ok answer ∧ (d.perform run c).after s = s := by
  have hidle := idle_intent hc d
  cases hintent : d.intent s.world c with
  | error e =>
    refine ⟨.error e, fun run => ?_⟩
    unfold Deed.perform
    rw [(Play.world_bind _ s).1, (Play.world_bind _ s).2, hintent]
    exact ⟨rfl, rfl⟩
  | ok intent =>
    refine ⟨.ok c.preset, fun run => ?_⟩
    obtain ⟨hended, hafter⟩ := carryOut_idle (hidle intent hintent) hc.caller run
    unfold Deed.perform
    rw [(Play.world_bind _ s).1, (Play.world_bind _ s).2, hintent]
    simp only
    rw [(Play.bind_of_ok hended _).1, (Play.bind_of_ok hended _).2, hafter]
    exact ⟨rfl, rfl⟩

/-! ### Builtins -/

theorem perform_stale (hc : Stale s.world c) {b : Builtin} (hb : b ≠ .change .createObject) :
    ∃ answer s', (∀ run : Runner σ, (b.perform run c).ended s = .ok answer ∧
        (b.perform run c).after s = s') ∧
      s'.host = s.host ∧ Untouched s.world s'.world := by
  cases hdeed : b.isDeed with
  | true =>
    cases b with
    | deed d =>
      obtain ⟨answer, hperform⟩ := deed_stale hc d
      exact ⟨answer, s, hperform, rfl, .refl s.world⟩
    | _ => cases hdeed
  | false =>
    -- These take no notice of the interpreter, so one of them stands for all.
    have hsame : ∀ run : Runner σ, b.perform run c = b.perform .idle c := by
      intro run
      cases b with
      | deed d => cases hdeed
      | _ => rfl
    obtain ⟨answer, hended, heffect⟩ := perform_plain hdeed .idle c s
    refine ⟨answer, (b.perform .idle c).after s, fun run => ?_, ?_⟩
    · rw [hsame run]
      exact ⟨hended, rfl⟩
    · rcases heffect with ⟨hafter, -⟩ | ⟨f, v, w', rfl, -, hafter, heffect⟩
      · rw [hafter]
        exact ⟨rfl, .refl s.world⟩
      · rw [hafter]
        exact ⟨rfl, heffect.untouched hc fun hf => hb (congrArg Builtin.change hf)⟩

/-! ### Parameters of calls -/

/-- The handle of an object that a value is, if any, names nothing. -/
def namesNothing : Value → Bool
  | .object h => h == .invalid
  | _ => true

theorem defaults_name_nothing : ∀ e ∈ entries, ∀ v ∈ e.defaults, namesNothing v = true := by
  decide +kernel

theorem object_of_becomes {v : Value} {t : ValueType} {a : Handle}
    (h : Value.Becomes v t (.object a)) : v = .object a := by
  cases h
  rfl

theorem mem_of_coerced {args coerced : List Value} {types : List ValueType}
    (h : Coerced args types coerced) {a : Handle} (ha : .object a ∈ coerced) :
    .object a ∈ args := by
  induction args generalizing types coerced with
  | nil =>
    cases h
    exact ha
  | cons v args ih =>
    cases types with
    | nil =>
      cases h
      cases ha
    | cons t types =>
      cases h with
      | cons hv hrest =>
        rcases List.mem_cons.1 ha with hhead | ha
        · rw [← hhead] at hv
          exact List.mem_cons.2 (.inl (object_of_becomes hv).symm)
        · exact List.mem_cons_of_mem _ (ih hrest ha)

theorem admission_stale {w : World} {f : Callee} {id : Nat} {args : List Value} {site : CallSite}
    (hid : f.number? table = some id) (h : table.Admits id args)
    (hcaller : w.get? site.caller = none) (htriggerer : w.get? site.triggerer = none)
    (hargs : ∀ a, .object a ∈ args → w.get? a = none) :
    ∃ e c, table.find? id = some e ∧ f.admission table args site = .ok (e, c) ∧ Stale w c := by
  obtain ⟨e, c, hfound, hadmission, hprepares⟩ := admission_of_admits site hid h
  refine ⟨e, c, hfound, hadmission, ?_, ?_, ?_⟩
  · rwa [hprepares.site]
  · rwa [hprepares.site]
  · intro a ha
    obtain ⟨coerced, hcoerced, hparams⟩ := hprepares.params
    rw [hparams, List.mem_append] at ha
    -- An argument of the call, or one of the defaults, which name nothing.
    rcases ha with ha | ha
    · exact hargs a (mem_of_coerced hcoerced ha)
    · have hdefault := defaults_name_nothing e (List.mem_of_find?_eq_some hfound) _
        (List.mem_of_mem_drop ha)
      obtain rfl : a = .invalid := by simpa [namesNothing] using hdefault
      rfl

/-- A call of any function of the game but the one that creates objects, in any session, that
neither comes from a live object nor was triggered by one, and that no live object is an argument
of. It returns a value, the same with every interpreter, and leaves the same session with every
interpreter, so it runs no script. All objects, the tags, the areas, the player's creature, the area
it is in and the conversation are as they were. -/
theorem stale_calls_harmless (s : Session σ) (f : Callee) (id : Nat) (args : List Value)
    (site : CallSite) (hid : f.number? table = some id) (h : table.Admits id args)
    (hother : ∀ e, table.find? id = some e → e.name ≠ "CreateObject")
    (hcaller : s.world.get? site.caller = none) (htriggerer : s.world.get? site.triggerer = none)
    (hargs : ∀ a, .object a ∈ args → s.world.get? a = none) :
    ∃ v s', (∀ run : Runner σ, (call run f args site).ended s = .ok (.ok v) ∧
        (call run f args site).after s = s') ∧
      s'.host = s.host ∧ Untouched s.world s'.world := by
  obtain ⟨e, c, hfound, hadmission, hstale⟩ := admission_stale hid h hcaller htriggerer hargs
  have hcreate : e.handler ≠ .change .createObject :=
    fun hcreate => hother e hfound ((named_of_admission hadmission).create.1 hcreate)
  obtain ⟨answer, s', hperform, hhost, huntouched⟩ := perform_stale hstale hcreate
  refine ⟨(e.settle (ending c (.ok answer))).1, { s' with
    faults := s'.faults ++ (e.settle (ending c (.ok answer))).2.toList }, fun run => ?_, hhost,
    huntouched⟩
  obtain ⟨hended, hafter⟩ := hperform run
  have hsettled : settled run e c s = e.settle (ending c (.ok answer)) := by
    unfold settled
    rw [hended]
  obtain ⟨hcall, hcalled⟩ := callIn_admitted hadmission run s
  rw [hsettled] at hcall hcalled
  rw [hafter] at hcalled
  exact ⟨hcall, hcalled⟩

/-- While the player's creature talks with the guard, a stranger who is not there begins a
conversation with nobody. The player's creature would be its other side, but it goes on talking with
the guard. -/
theorem stranger_harmless : ∃ v s',
    (call (fun _ => throw .levelOverflow) (.id 255) [.string "talk", .object ⟨9⟩]
      ⟨⟨8⟩, .invalid, "hook"⟩).ended talking = .ok (.ok v) ∧
    (call (fun _ => throw .levelOverflow) (.id 255) [.string "talk", .object ⟨9⟩]
      ⟨⟨8⟩, .invalid, "hook"⟩).after talking = s' ∧
    s'.world.conversation = some ⟨"talk", ⟨3⟩, ⟨2⟩⟩ ∧ Untouched talking.world s'.world := by
  have hentry : (table.find? 255).map (fun e => (e.name, e.signature.params, e.required)) =
      some ("BeginConversation", [.string, .object], 0) := by decide +kernel
  obtain ⟨e, hfound, he⟩ := Option.map_eq_some_iff.1 hentry
  simp only [Prod.mk.injEq] at he
  obtain ⟨hname, hparams, hrequired⟩ := he
  have hadmits : table.Admits 255 [.string "talk", .object ⟨9⟩] := by
    refine ⟨e, hfound, by rw [hrequired]; exact Nat.zero_le _, ?_, ?_⟩
    · unfold Entry.maximum
      rw [hparams]
      exact Nat.le_refl _
    · rw [hparams]
      exact fit_cons.2 ⟨.inl rfl, fit_cons.2 ⟨.inl rfl, fun k v t hv => by simp at hv⟩⟩
  have hplay : talking.world.conversation = some ⟨"talk", ⟨3⟩, ⟨2⟩⟩ ∧
      (talking.world.get? ⟨8⟩).isNone = true ∧ (talking.world.get? ⟨9⟩).isNone = true := by
    decide +kernel
  obtain ⟨hrunning, hcaller, hobject⟩ := hplay
  obtain ⟨v, s', hcall, -, huntouched⟩ := stale_calls_harmless talking (.id 255) 255
    [.string "talk", .object ⟨9⟩] ⟨⟨8⟩, .invalid, "hook"⟩ rfl hadmits
    (fun e' he' => by
      rw [hfound] at he'
      cases he'
      rw [hname]
      decide)
    (Option.isNone_iff_eq_none.1 hcaller) rfl
    (fun a ha => by
      obtain rfl : a = ⟨9⟩ := by simpa using ha
      exact Option.isNone_iff_eq_none.1 hobject)
  obtain ⟨hended, hafter⟩ := hcall fun _ => throw .levelOverflow
  exact ⟨v, s', hended, hafter, huntouched.conversation.trans hrunning, huntouched⟩

end Function

end Adventure

import Adventure.Function.Table
import Adventure.Proofs.Bridge.Outcome
import Adventure.Proofs.Function.Answers
import Adventure.Proofs.Session.Returning

/-!
# Calls of script functions

Every admitted call of a script function of the game is answered by its handler with a value of the
declared type, so the bridge has neither a fault to note nor a default to give. The exceptions are
four, and they are named by the functions they strike: a command that comes from no script, an
executed script that fails, a text too wide to be padded, and levels too many to be added.
-/

namespace Adventure

variable {σ α β : Type}

theorem Play.ended_of_returns {m : Play σ α} (hm : Returns m) {f : α → Play σ β} {b : β}
    (hf : ∀ a s, (f a).ended s = .ok b) (s : Session σ) : (m >>= f).ended s = .ok b := by
  obtain ⟨a, ha, -⟩ := hm s
  rw [(bind_of_ok ha f).1]
  exact hf a _

namespace Function

open Bridge
open Play (Returns returns_jumpTo returns_setDoorOpen runScript_of_named ended_of_returns)

variable {run : Runner σ} {s : Session σ} {c : CallContext}

/-! ### Functions that may run scripts -/

def Deed.takes : Deed → List ValueType
  | .executeScript => [.string, .object]
  | .openDoor | .closeDoor | .jumpToObject => [.object]
  | .jumpToLocation => [.engine]

/-- The script that the call executes is there to run, and the interpreter fails on it. -/
def ScriptFails (run : Runner σ) (s : Session σ) (c : CallContext) : Prop :=
  ∃ script target fault, c.string 0 = .ok script ∧ c.object 1 = .ok target ∧
    s.world.registry.contains target = true ∧ script ≠ "" ∧
    (run ⟨script, none, target, c.site.caller⟩).ended
      (s.announce script target) = .ok (.error fault)

/-- Nothing that is to be carried out can fail, unless it is a script. -/
def Intent.Plain : Intent → Prop
  | .execute _ _ => False
  | _ => True

theorem ended_carryOut (hrun : run.Returns) (caller : Handle) {intent : Intent}
    (h : intent.Plain) (s : Session σ) :
    (intent.carryOut run caller).ended s = .ok (.ok ()) := by
  unfold Intent.carryOut
  cases intent with
  | nothing => rfl
  | execute script target => exact h.elim
  | door a wanted =>
    exact ended_of_returns (returns_setDoorOpen hrun a caller wanted) (fun _ _ => rfl) s
  | jump area position facing =>
    refine ended_of_returns (returns_jumpTo hrun caller area position) (fun jumped s' => ?_) s
    cases facing with
    | none => rfl
    | some facing =>
      simp only
      split
      · exact (Play.bind_of_ok rfl _).1
      · rfl

theorem gives_intent {d : Deed} {w : World} (h : Provides c d.takes) (hd : d ≠ .executeScript) :
    Gives Intent.Plain (d.intent w c) := by
  unfold Deed.intent
  cases d with
  | executeScript => exact absurd rfl hd
  | openDoor => exact (h.object 0 rfl).bind fun a _ => gives_pure trivial
  | closeDoor => exact (h.object 0 rfl).bind fun a _ => gives_pure trivial
  | jumpToObject =>
    refine (h.object 0 rfl).bind fun a _ => ?_
    cases (w.get? a).bind fun o => o.area.map (·, o.position) with
    | none => exact gives_pure trivial
    | some spot => exact gives_pure trivial
  | jumpToLocation =>
    refine (h.param 0 rfl).bind fun v _ => ?_
    cases v.location?.bind fun l => l.area.map (·, l) with
    | none => exact gives_pure trivial
    | some spot => exact gives_pure trivial

theorem intent_executeScript {w : World} {script : String} {target : Handle}
    (hscript : c.string 0 = .ok script) (htarget : c.object 1 = .ok target) :
    Deed.executeScript.intent w c =
      .ok (if w.registry.contains target then .execute script target else .nothing) := by
  simp only [Deed.intent, hscript, htarget]
  rfl

theorem ended_deed {d : Deed} {intent : Intent} {r : Except Failure Unit}
    (hintent : d.intent s.world c = .ok intent)
    (hr : (intent.carryOut run c.site.caller).ended s = .ok r) :
    (d.perform run c).ended s = .ok (match r with
      | .ok () => .ok c.preset
      | .error f => .error (.failure f)) := by
  have hworld : (Play.world : Play σ World).ended s = .ok s.world := rfl
  have hafter : (Play.world : Play σ World).after s = s := rfl
  unfold Deed.perform
  rw [(Play.bind_of_ok hworld _).1, hafter]
  simp only [hintent]
  rw [(Play.bind_of_ok hr _).1]
  cases r <;> rfl

theorem deed_answers (hrun : run.Returns) {d : Deed} (h : Provides c d.takes)
    (hscript : d = .executeScript → ¬ ScriptFails run s c) :
    (d.perform run c).ended s = .ok (.ok c.preset) := by
  by_cases hd : d = .executeScript
  · subst hd
    obtain ⟨script, -, hname⟩ := h.string 0 rfl
    obtain ⟨target, -, htarget⟩ := h.object 1 rfl
    have hintent := intent_executeScript (w := s.world) hname htarget
    by_cases hlive : s.world.registry.contains target = true
    · rw [if_pos hlive] at hintent
      by_cases hempty : script = ""
      · subst hempty
        have hnothing : ((Intent.execute "" target).carryOut run c.site.caller).ended s =
            .ok (.ok ()) := rfl
        exact ended_deed hintent hnothing
      · obtain ⟨r, hr, -⟩ := hrun ⟨script, none, target, c.site.caller⟩
          (s.announce script target)
        have hcarried : ((Intent.execute script target).carryOut run c.site.caller).ended s =
            .ok r := (runScript_of_named run s hempty).1.trans hr
        cases r with
        | ok u => exact ended_deed hintent hcarried
        | error fault =>
          exact absurd ⟨script, target, fault, hname, htarget, hlive, hempty, hr⟩ (hscript rfl)
    · rw [if_neg hlive] at hintent
      have hplain : Intent.nothing.Plain := trivial
      exact ended_deed hintent (ended_carryOut hrun _ hplain s)
  · obtain ⟨intent, hintent, hplain⟩ := gives_intent (w := s.world) h hd
    exact ended_deed hintent (ended_carryOut hrun _ hplain s)

theorem deed_fails (h : ScriptFails run s c) :
    ∃ t, (Deed.executeScript.perform run c).ended s = .ok (.error t) := by
  obtain ⟨script, target, fault, hname, htarget, hlive, hnonempty, hr⟩ := h
  have hintent := intent_executeScript (w := s.world) hname htarget
  rw [if_pos hlive] at hintent
  have hcarried : ((Intent.execute script target).carryOut run c.site.caller).ended s =
      .ok (.error fault) := (runScript_of_named run s hnonempty).1.trans hr
  exact ⟨_, ended_deed hintent hcarried⟩

/-! ### Builtins -/

/-- What may strike a function although its call is admitted. -/
inductive Hazard where
  | noScript
  | scriptFails
  | wide
  | overflow
  deriving DecidableEq, Repr

def Hazard.Strikes (run : Runner σ) (s : Session σ) (c : CallContext) : Hazard → Prop
  | .noScript => c.site.script = ""
  | .scriptFails => ScriptFails run s c
  | .wide => Wide c
  | .overflow => Overflowing s.world c

theorem ended_changing (f : World → Attempt (Value × World)) (s : Session σ) :
    (changing f : Play σ (Attempt Value)).ended s = .ok ((f s.world).map Prod.fst) := by
  have hact : ∀ g : World → Attempt Value × World,
      (Play.act g : Play σ (Attempt Value)).ended s = .ok (g s.world).1 := fun _ => rfl
  unfold changing
  rw [hact]
  cases f s.world <;> rfl

namespace Builtin

def takes : Builtin → List ValueType
  | .placeholder => []
  | .text f => f.takes
  | .number f => f.takes
  | .query q => q.takes
  | .change f => f.takes
  | .deed d => d.takes

def returns (ret : ValueType) : Builtin → ValueType
  | .placeholder | .deed _ => ret
  | .text f => f.returns
  | .number f => f.returns
  | .query q => q.returns
  | .change f => f.returns ret

def hazard? : Builtin → Option Hazard
  | .change .assignCommand | .change .delayCommand | .change .doCommand => some .noScript
  | .deed .executeScript => some .scriptFails
  | .change (.print .float) | .text .ofFloat => some .wide
  | .query .hitDice => some .overflow
  | _ => none

theorem answers {b : Builtin} (hrun : run.Returns) (h : Provides c b.takes)
    (hret : b.returns c.ret = c.ret) (hsafe : ∀ k, b.hazard? = some k → ¬ k.Strikes run s c) :
    ∃ v, (b.perform run c).ended s = .ok (.ok v) ∧ v.type = c.ret := by
  cases b with
  | placeholder => exact ⟨c.preset, rfl, type_preset c⟩
  | text f =>
    have hwide : f = .ofFloat → ¬ Wide c := by
      rintro rfl
      exact hsafe .wide rfl
    obtain ⟨v, hv, ht⟩ := TextFunction.gives h hwide
    exact ⟨v, congrArg Except.ok hv, ht.trans hret⟩
  | number f =>
    obtain ⟨v, hv, ht⟩ := NumberFunction.gives h
    exact ⟨v, congrArg Except.ok hv, ht.trans hret⟩
  | query q =>
    have hlevels : q = .hitDice → ¬ Overflowing s.world c := by
      rintro rfl
      exact hsafe .overflow rfl
    obtain ⟨v, hv, ht⟩ := Query.gives (w := s.world) h hlevels
    exact ⟨v, congrArg Except.ok hv, ht.trans hret⟩
  | change f =>
    have hwide : f = .print .float → ¬ Wide c := by
      rintro rfl
      exact hsafe .wide rfl
    have hscript : f.Commands → c.site.script ≠ "" := by
      intro hf
      cases f with
      | assignCommand => exact hsafe .noScript rfl
      | delayCommand => exact hsafe .noScript rfl
      | doCommand => exact hsafe .noScript rfl
      | _ => exact hf.elim
    obtain ⟨⟨v, w⟩, hv, ht⟩ := Change.gives (w := s.world) h hret hwide hscript
    have hended := ended_changing (fun w => f.perform w c) s
    rw [hv] at hended
    exact ⟨v, hended, ht⟩
  | deed d =>
    have hscript : d = .executeScript → ¬ ScriptFails run s c := by
      rintro rfl
      exact hsafe .scriptFails rfl
    exact ⟨c.preset, deed_answers hrun h hscript, type_preset c⟩

/-- A hazard that strikes stops the function, so that it answers with nothing. -/
theorem stops {b : Builtin} {k : Hazard} (hb : b.hazard? = some k) (hk : k.Strikes run s c) :
    ∃ t, (b.perform run c).ended s = .ok (.error t) := by
  have hchange : ∀ f : Change, Stops (f.perform s.world c) →
      ∃ t, ((Builtin.change f).perform run c).ended s = .ok (.error t) := by
    rintro f ⟨t, ht⟩
    have hended := ended_changing (fun w => f.perform w c) s
    rw [ht] at hended
    exact ⟨t, hended⟩
  unfold hazard? at hb
  split at hb
  · cases hb
    exact hchange _ (Change.stops_command trivial hk)
  · cases hb
    exact hchange _ (Change.stops_command trivial hk)
  · cases hb
    exact hchange _ (Change.stops_command trivial hk)
  · cases hb
    exact deed_fails hk
  · cases hb
    exact hchange _ (Change.stops_print hk)
  · cases hb
    obtain ⟨t, ht⟩ := TextFunction.stops hk
    exact ⟨t, congrArg Except.ok ht⟩
  · cases hb
    obtain ⟨t, ht⟩ := Query.stops hk
    exact ⟨t, congrArg Except.ok ht⟩
  · cases hb

end Builtin

/-! ### The table of the game -/

/-- The functions of the game that a hazard may strike. -/
def hazardOf? : String → Option Hazard
  | "AssignCommand" | "DelayCommand" | "ActionDoCommand" => some .noScript
  | "ExecuteScript" => some .scriptFails
  | "PrintFloat" | "FloatToString" => some .wide
  | "GetHitDice" => some .overflow
  | _ => none

/-- The signature fits the handler, the defaults fit the signature, and the name tells the
hazard. -/
structure Suits (e : Entry Builtin) : Prop where
  takes : e.handler.takes <+: e.signature.params
  returns : e.handler.returns e.signature.ret = e.signature.ret
  hazard : e.handler.hazard? = hazardOf? e.name
  wellTyped : e.WellTyped

instance (e : Entry Builtin) : Decidable (Suits e) :=
  decidable_of_iff
    (e.handler.takes <+: e.signature.params ∧
      e.handler.returns e.signature.ret = e.signature.ret ∧
      e.handler.hazard? = hazardOf? e.name ∧
      e.defaults.length ≤ e.signature.params.length ∧
      e.defaults.map Value.type = e.signature.params.drop e.required)
    ⟨fun ⟨h₁, h₂, h₃, h₄, h₅⟩ => ⟨h₁, h₂, h₃, h₄, h₅⟩,
      fun ⟨h₁, h₂, h₃, h₄, h₅⟩ => ⟨h₁, h₂, h₃, h₄, h₅⟩⟩

theorem entries_suit : ∀ e ∈ entries, Suits e := by
  decide +kernel

theorem suits_of_found {id : Nat} {e : Entry Builtin} (h : table.find? id = some e) : Suits e :=
  entries_suit e (List.mem_of_find?_eq_some h)

/-- The parameter for which a function takes the caller where the script leaves it out. -/
def Builtin.callerParam? : Builtin → Option Nat
  | .query .currentHp | .query .maxHp | .query .commandable => some 0
  | .query .nearestObject | .query .nearestByTag | .change .setCommandable => some 1
  | .query .nearestCreature => some 2
  | _ => none

theorem Builtin.takes_callerParam {b : Builtin} {i : Nat} (h : b.callerParam? = some i) :
    b.takes[i]? = some .object := by
  unfold Builtin.callerParam? at h
  split at h <;> cases h <;> rfl

/-- Every admitted call of a function of the game, in any session, provided that the interpreter
returns from its scripts. Unless a hazard of the function strikes, the handler answers with a value
of the declared type and the bridge passes it on without a fault. If one strikes, the handler is
stopped, and the bridge notes a fault and gives the default. A parameter that may be left to the
caller is an object wherever it is given. -/
theorem calls_answered (hrun : run.Returns) (s : Session σ) (id : Nat) (args : List Value)
    (site : CallSite) (h : table.Admits id args) :
    ∃ e c reply, table.find? id = some e ∧ e.Prepares id args site c ∧
      table.call (Builtin.handler run) s id args site = .ok reply ∧
      ((∀ k, hazardOf? e.name = some k → ¬ k.Strikes run s c) →
        ∃ v, (e.handler.perform run c).ended s = .ok (.ok v) ∧ v.type = e.signature.ret ∧
          reply.value = v ∧ reply.fault = none) ∧
      (∀ k, hazardOf? e.name = some k → k.Strikes run s c →
        (∃ t, (e.handler.perform run c).ended s = .ok (.error t)) ∧
        reply.value = .default e.signature.ret ∧
        ∃ cause, reply.fault = some ⟨e.name, id, cause⟩) ∧
      (∀ i, e.handler.callerParam? = some i → ∃ a, c.object i = .ok a) := by
  have htyped : ∀ id e, table.find? id = some e → e.WellTyped :=
    fun _ _ he => (suits_of_found he).wellTyped
  obtain ⟨e, c, he, hprep, hcall⟩ := call_of_wellTyped (Builtin.handler run) htyped s site h
  have hsuits := suits_of_found he
  have hid : e.id = id := by simpa using List.find?_some he
  have hret : c.ret = e.signature.ret := by
    have hslot := congrArg Value.type hprep.slot
    rwa [type_preset, Value.type_default] at hslot
  have hprovides : Provides c e.handler.takes := by
    unfold Provides
    rw [hprep.types]
    exact hsuits.takes
  have hending : (Builtin.handler run e.handler c s).1 =
      ending c ((e.handler.perform run c).ended s) := rfl
  refine ⟨e, c, _, he, hprep, hcall, ?_, ?_, ?_⟩
  · intro hsafe
    rw [← hsuits.hazard] at hsafe
    have hreturns : e.handler.returns c.ret = c.ret := by
      rw [hret]
      exact hsuits.returns
    obtain ⟨v, hv, htype⟩ := Builtin.answers hrun hprovides hreturns hsafe
    have hsound : (ending c ((e.handler.perform run c).ended s)).Sound e.signature.ret := by
      rw [hv]
      exact ⟨rfl, htype.trans hret⟩
    have hslot : (ending c ((e.handler.perform run c).ended s)).slot = v := by
      rw [hv]
      rfl
    have hsettle := Entry.settle_of_sound hsound
    refine ⟨v, hv, htype.trans hret, ?_, ?_⟩
    · simp only [hending, hsettle, hslot]
    · simp only [hending, hsettle]
  · intro k hk hstrikes
    rw [← hsuits.hazard] at hk
    obtain ⟨t, ht⟩ := Builtin.stops hk hstrikes
    have hnot : ¬ (ending c ((e.handler.perform run c).ended s)).Sound e.signature.ret := by
      rw [ht]
      rintro ⟨hfate, -⟩
      cases t <;> cases hfate
    obtain ⟨cause, hfaulty⟩ := (Ending.sound_or_faulty e.signature.ret _).resolve_left hnot
    have hsettle := Entry.settle_of_faulty hfaulty
    refine ⟨⟨t, ht⟩, ?_, cause, ?_⟩
    · simp only [hending, hsettle]
    · simp only [hending, hsettle, hid]
  · intro i hi
    obtain ⟨a, -, ha⟩ := hprovides.object i (Builtin.takes_callerParam hi)
    exact ⟨a, ha⟩

/-- A session in which nothing has been played. -/
def untouched : Session Unit :=
  .fresh ⟨.ofTexts (fun _ _ => none) fun _ _ => none, .empty⟩ .plain 0 0 ()

theorem stringLength_admits : table.Admits 59 [.string "gate"] :=
  ⟨_, rfl, by decide, by decide, fit_cons.2 ⟨Or.inl rfl, fun k v t hv => by simp at hv⟩⟩

theorem assignCommand_admits : table.Admits 6 [.object .invalid, .state ⟨0, []⟩] :=
  ⟨_, rfl, by decide, by decide, fit_cons.2 ⟨Or.inl rfl,
    fit_cons.2 ⟨Or.inl rfl, fun k v t hv => by simp at hv⟩⟩⟩

/-- Outside of a script a length is answered, and a command is not taken. -/
theorem untouched_answered : (Runner.idle : Runner Unit).Returns ∧
    (∃ reply, table.call (Builtin.handler .idle) untouched 59 [.string "gate"] .none = .ok reply ∧
      reply.value.type = .int ∧ reply.fault = none) ∧
    ∃ reply, table.call (Builtin.handler .idle) untouched 6 [.object .invalid, .state ⟨0, []⟩]
      .none = .ok reply ∧ reply.fault ≠ none := by
  refine ⟨Runner.returns_idle, ?_, ?_⟩
  · obtain ⟨e, c, reply, he, -, hcall, hanswers, -, -⟩ := calls_answered Runner.returns_idle
      untouched 59 [.string "gate"] .none stringLength_admits
    cases he
    have hsafe : hazardOf? "GetStringLength" = none := by decide
    obtain ⟨v, -, htype, hvalue, hfault⟩ := hanswers fun k hk => by
      rw [hsafe] at hk
      cases hk
    exact ⟨reply, hcall, hvalue ▸ htype, hfault⟩
  · obtain ⟨e, c, reply, he, hprep, hcall, -, hstruck, -⟩ := calls_answered Runner.returns_idle
      untouched 6 [.object .invalid, .state ⟨0, []⟩] .none assignCommand_admits
    cases he
    have hhazard : hazardOf? "AssignCommand" = some .noScript := by decide
    have hscript : c.site.script = "" := by rw [hprep.site]; rfl
    obtain ⟨-, -, cause, hfault⟩ := hstruck .noScript hhazard hscript
    exact ⟨reply, hcall, by rw [hfault]; exact Option.some_ne_none _⟩

end Function

end Adventure

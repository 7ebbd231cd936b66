import Adventure.Proofs.Session.Coherence
import Adventure.Proofs.Session.Transcript
import Adventure.Proofs.World.Gains

/-!
# What calls bring into the world

No function of the game takes an object out of the world at once, not even with the scripts that run
on its way, as long as these do nothing but call further functions. Objects come in by being
created, and each of them is what some call has answered.
-/

namespace Adventure

open Adventure.Function (Builtin Change Callee settled named_of_admission suits_of_admission)
open Object (Same)
open World (Gains Keeps Quiet)

variable {σ α : Type}

/-! ### Creations -/

/-- The object that a call has created. -/
def Exchange.created? (x : Exchange) : Option Handle :=
  if x.context.name = "CreateObject" then
    match x.value with
    | .object h => h.valid?
    | _ => none
  else none

/-- The objects that some calls have created, one after the other. -/
def createdIn (es : List Exchange) : List Handle := es.filterMap Exchange.created?

theorem createdIn_append (es es' : List Exchange) :
    createdIn (es ++ es') = createdIn es ++ createdIn es' := List.filterMap_append ..

/-! ### One call -/

section Calls

variable {run : Runner σ} {f : Callee} {args : List Value} {site : Bridge.CallSite}
  {e : Bridge.Entry Builtin} {c : Bridge.CallContext}

theorem createdIn_other (h : f.admission Function.table args site = .ok (e, c))
    (hother : e.handler ≠ .change .createObject) (v : Value) : createdIn [⟨c, v⟩] = [] := by
  have hname := Callee.name_of_admission h
  have hnone : Exchange.created? ⟨c, v⟩ = none :=
    if_neg fun hcreate => hother ((named_of_admission h).create.2 (hname.symm.trans hcreate))
  simp only [createdIn, List.filterMap_cons, hnone, List.filterMap_nil]

theorem createdIn_create (h : f.admission Function.table args site = .ok (e, c))
    (hcreate : e.handler = .change .createObject) (a : Handle) :
    createdIn [⟨c, .object a⟩] = a.valid?.toList := by
  have hname : c.name = "CreateObject" :=
    (Callee.name_of_admission h).trans ((named_of_admission h).create.1 hcreate)
  have hcreated : Exchange.created? ⟨c, .object a⟩ = a.valid? := if_pos hname
  simp only [createdIn, List.filterMap_cons, hcreated, List.filterMap_nil]
  cases a.valid? <;> rfl

theorem gains_create (h : f.admission Function.table args site = .ok (e, c))
    (hcreate : e.handler = .change .createObject) (s : Session σ) :
    Gains s.world (createdIn [⟨c, (settled run e c s).1⟩])
      ((e.handler.perform run c).after s).world := by
  have hret : e.signature.ret = .object := by
    have hreturns := (suits_of_admission h).returns
    rw [hcreate] at hreturns
    exact hreturns.symm
  have hpreset : c.preset = .object .invalid := by
    obtain ⟨_, -, -, _, -, rfl⟩ := Callee.found_of_admission h
    show Value.default e.signature.ret = _
    rw [hret]
    rfl
  have hsettled : ∀ a, e.settle ⟨.object a, .finished⟩ = (.object a, none) := fun a =>
    Bridge.Entry.settle_of_sound ⟨rfl, hret.symm⟩
  have hplain : e.handler.isDeed = false := by rw [hcreate]; rfl
  obtain ⟨answer, hended, ⟨hsame, hstopped⟩ | ⟨change, v, w', hhandler, rfl, hafter, heffect⟩⟩ :=
    Function.perform_plain hplain run c s
  · obtain ⟨t, rfl⟩ := hstopped _ hcreate
    have hvalue : (settled run e c s).1 = .object .invalid := by
      unfold Function.settled
      rw [hended]
      cases t <;> exact congrArg Value.default hret
    rw [hvalue, createdIn_create h hcreate, hsame]
    exact .of_keeps (.refl s.world)
  · obtain rfl : change = .createObject := by
      rw [hcreate] at hhandler
      cases hhandler
      rfl
    have hvalue : (settled run e c s).1 = (e.settle ⟨v, .finished⟩).1 := by
      unfold Function.settled
      rw [hended]
      rfl
    rw [hvalue, hafter]
    cases heffect with
    | aside plain => cases plain
    | touched plain => cases plain
    | talked plain => cases plain
    | nowhere =>
      rw [hpreset, hsettled, createdIn_create h hcreate]
      exact .of_keeps (.refl s.world)
    | created =>
      rw [hsettled, createdIn_create h hcreate]
      exact World.gains_createObject _ _ _ _ _

theorem keeps_other (hplain : e.handler.isDeed = false)
    (hother : e.handler ≠ .change .createObject) (s : Session σ) :
    Keeps s.world ((e.handler.perform run c).after s).world := by
  obtain ⟨-, -, ⟨hsame, -⟩ | ⟨change, v, w', hhandler, -, hafter, heffect⟩⟩ :=
    Function.perform_plain hplain run c s
  · rw [hsame]
    exact .refl s.world
  · rw [hafter]
    cases heffect with
    | aside _ untouched => exact .of_registry untouched.registry
    | touched _ _ alike => exact .update s.world _ fun o => (alike o).kin.same
    | talked => exact .startConversation s.world _ _ _
    | random => exact .of_registry (Function.untouched_randomBelow s.world _).registry
    | dice => exact .of_registry rfl
    | nowhere => exact absurd hhandler hother
    | created => exact absurd hhandler hother

theorem gains_called (h : f.admission Function.table args site = .ok (e, c))
    (plain : e.handler.isDeed = false) (s : Session σ) :
    Gains s.world (createdIn [⟨c, (settled run e c s).1⟩])
      ((e.handler.perform run c).after s).world := by
  by_cases hcreate : e.handler = .change .createObject
  · exact gains_create h hcreate s
  · rw [createdIn_other h hcreate]
    exact .of_keeps (keeps_other plain hcreate s)

end Calls

/-! ### Transcripts -/

theorem Play.Transcript.gains {m : Play σ α} {s : Session σ} {es : List Exchange}
    (h : Play.Transcript Quiet m s es) : Gains s.world (createdIn es) (m.after s).world := by
  induction h with
  | answer a s => exact .of_keeps (.refl s.world)
  | stop p s => exact .of_keeps (.refl s.world)
  | look s => exact .of_keeps (.refl s.world)
  | host f s => exact .of_keeps (.refl s.world)
  | change aside => exact .of_keeps aside.toKeeps
  | act aside => exact .of_keeps aside.toKeeps
  | @chain _ _ m f s a es es' first ended rest ihfirst ihrest =>
    rw [(bind_of_ok ended f).2, createdIn_append]
    exact ihfirst.trans ihrest
  | @broken _ _ m f s p es first ended ih =>
    rw [(bind_of_error ended f).2]
    exact ih
  | @refused run f args site err s h =>
    rw [Function.call_refused h]
    exact .of_keeps (.refl s.world)
  | @called run f args site e c s h plain =>
    rw [Function.call_world h]
    exact gains_called h plain s
  | @deed run f args site e c d s es h handler inner ih =>
    have hnone := createdIn_other h (by rw [handler]; exact fun hdeed => nomatch hdeed)
      (settled run e c s).1
    rw [Function.call_world h, createdIn_append, hnone, List.append_nil, handler]
    exact ih

/-! ### Scripts that only call -/

/-- A call of a function of the game, or breaking off. -/
def Operation.IsCall : Operation → Prop
  | .call t _ _ _ => t = Function.table
  | .stop _ => True
  | _ => False

theorem Play.told_calls {run : Runner σ} (hrun : run.Told Quiet) {m : Play σ α}
    (h : Play.Made Operation.IsCall run m) : Play.Told Quiet m := by
  induction h with
  | answer a => exact told_pure a
  | chain _ _ ihm ihf => exact told_bind ihm ihf
  | look => exact fun s => ⟨[], .look s⟩
  | host f => exact fun s => ⟨[], .host f s⟩
  | operation op h =>
    cases op with
    | stop p => exact fun s => ⟨[], .stop p s⟩
    | call t f args site =>
      obtain rfl : t = Function.table := h
      exact told_call World.Gentle.toQuiet hrun f args site
    | _ => exact h.elim

theorem Runner.told_calls {run : Runner σ} (h : run.Made Operation.IsCall) : run.Told Quiet := by
  induction h with
  | idle => exact fun _ => Play.told_pure _
  | scripted _ scripts ih => exact fun r => Play.told_calls ih (scripts r)

/-- A library in which every area and every waypoint has an empty record. -/
def emptyFields : Library :=
  ⟨.ofTexts (fun kind _ => if kind = .are ∨ kind = .utw then some "{}" else none) fun _ _ => none,
    .empty⟩

def placeFlag (run : Runner Unit) : Play Unit (Except Bridge.CallError Value) :=
  Function.call run (.id 243)
    [.int 32, .string "flag", .engine (some (.location ⟨some ⟨1⟩, .zero, 0⟩))] .none

def flagging : Runner Unit := fun _ => placeFlag .idle >>= fun _ => pure (.ok ())

def openField : Session Unit :=
  (Play.act fun w => w.loadArea "Field").after (.fresh emptyFields .plain 0 0 ())

theorem openField_reached : openField.Reached :=
  ⟨emptyFields, .plain, 0, 0, (), (Session.Leads.here _).operation .idle (.loadArea "Field")⟩

theorem flagging_made : flagging.Made Operation.IsCall := by
  refine .scripted .idle fun _ => Play.Made.chain ?_ fun _ => .answer _
  exact .operation (.call Function.table (.id 243) _ .none) rfl

end Adventure

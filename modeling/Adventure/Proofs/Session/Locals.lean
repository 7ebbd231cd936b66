import Adventure.Proofs.Function.Variables
import Adventure.Proofs.Session.Chronicle
import Adventure.Proofs.Session.Coherence
import Adventure.Proofs.World.Whereabouts

/-!
# Local variables over whole runs

A variable of a live object reads as what the last call that has written to it has left there,
whoever made that call and whatever else has been done since. What is written to an object that is
gone is lost, and so is what was written to an object once that is gone.
-/

namespace Adventure

open Adventure.Function (Callee Builtin Variable Puts accessOf? readOf? writeOf? updateLocals settled
  settled_read handling_of_admission perform_change retains_plain)
open Registry (limit)
open World (Retains)

variable {σ α : Type} {v : Variable} {o : Occasion} {os os' past : List Occasion}

/-! ### What a chronicle tells of a variable -/

/-- What a call makes of a variable: its new value, or nothing if it is deleted. Only variables of
live objects are written to. -/
def Occasion.writeTo? (v : Variable) (o : Occasion) : Option (Option Value) :=
  match writeOf? o.call.context with
  | some (u, x) => if u = v ∧ (o.world.get? v.object).isSome then some x else none
  | none => none

/-- What a variable holds after these calls: the value that the last of those that wrote to it gave
it, and its initial value if that one deleted it or none wrote to it. -/
def held (v : Variable) (os : List Occasion) : Value :=
  ((os.filterMap (Occasion.writeTo? v)).getLast?.join).getD v.type.initial

/-- If the call reads a variable, it gives what these earlier calls have left there, provided that
the object is live. -/
def Occasion.Truthful (past : List Occasion) (o : Occasion) : Prop :=
  ∀ v, readOf? o.call.context = some v →
    o.call.value = if (o.world.get? v.object).isSome then held v past else v.type.initial

/-- Each of the calls gives what those before it have left. -/
def AllTruthful : List Occasion → List Occasion → Prop
  | _, [] => True
  | past, o :: os => o.Truthful past ∧ AllTruthful (past ++ [o]) os

theorem held_concat (v : Variable) (os : List Occasion) (o : Occasion) :
    held v (os ++ [o]) = match o.writeTo? v with
      | some x => x.getD v.type.initial
      | none => held v os := by
  unfold held
  rw [List.filterMap_append]
  cases hwrite : o.writeTo? v with
  | none => simp [hwrite]
  | some x => simp [hwrite]

theorem held_of_unwritten (h : ∀ o ∈ os, o.writeTo? v = none) : held v os = v.type.initial := by
  unfold held
  rw [List.filterMap_eq_nil_iff.2 h]
  rfl

theorem allTruthful_append :
    AllTruthful past (os ++ os') ↔ AllTruthful past os ∧ AllTruthful (past ++ os) os' := by
  induction os generalizing past with
  | nil => simp [AllTruthful]
  | cons o os ih => simp [AllTruthful, ih, and_assoc]

theorem AllTruthful.at_each (h : AllTruthful past os) {before after : List Occasion}
    (hos : os = before ++ o :: after) : o.Truthful (past ++ before) := by
  rw [hos] at h
  exact (allTruthful_append.1 h).2.1

/-! ### Calls that write -/

theorem writeTo?_of_none (h : writeOf? o.call.context = none) (v : Variable) :
    o.writeTo? v = none := by
  unfold Occasion.writeTo?
  rw [h]

section

variable {x : Option Value} (h : writeOf? o.call.context = some (v, x))

include h

theorem writeTo?_self {a : Object} (hlive : o.world.get? v.object = some a) :
    o.writeTo? v = some x := by
  simp [Occasion.writeTo?, h, hlive]

theorem writeTo?_other {u : Variable} (hne : v ≠ u) : o.writeTo? u = none := by
  simp [Occasion.writeTo?, h, hne]

theorem writeTo?_dead (hdead : o.world.get? v.object = none) (u : Variable) :
    o.writeTo? u = none := by
  by_cases hu : v = u
  · subst hu
    simp [Occasion.writeTo?, h, hdead]
  · exact writeTo?_other h hu

end

/-! ### Worlds that keep to a chronicle -/

/-- The live objects have the variables that the chronicle tells of, and no others were written to
than those of objects whose handles have been given out. -/
structure Faithful (os : List Occasion) (w : World) : Prop where
  written : ∀ o ∈ os, ∀ v x, o.writeTo? v = some x → v.object.number ≤ w.registry.issued
  known : ∀ o ∈ w.registry.objects, o.id.number ≤ w.registry.issued
  holds : ∀ o ∈ w.registry.objects, ∀ t name, t.get o.locals name = held ⟨o.id, t, name⟩ os

namespace Faithful

variable {w w' : World}

theorem retains (h : Faithful os w) (hretains : Retains w w') (hlimit : w'.registry.issued < limit) :
    Faithful os w' := by
  refine ⟨fun o ho v x hx => (h.written o ho v x hx).trans hretains.issued, fun a ha => ?_,
    fun a ha t name => ?_⟩
  · rcases hretains.objects hlimit a ha with ⟨b, hb, hid, -⟩ | ⟨⟨-, hnumber⟩, -⟩
    · rw [hid]
      exact (h.known b hb).trans hretains.issued
    · exact hnumber
  · rcases hretains.objects hlimit a ha with ⟨b, hb, hid, hlocals⟩ | ⟨⟨hnew, -⟩, hempty⟩
    · rw [hid, hlocals]
      exact h.holds b hb t name
    · -- Nothing has been written to an object that was not there yet.
      rw [hempty, t.get_empty, held_of_unwritten]
      intro o ho
      cases hwrite : o.writeTo? ⟨a.id, t, name⟩ with
      | none => rfl
      | some x =>
        have hold := h.written o ho _ x hwrite
        exact absurd hnew (Nat.not_lt.2 hold)

theorem note (h : Faithful os w) (ho : ∀ v, o.writeTo? v = none) : Faithful (os ++ [o]) w := by
  refine ⟨fun a ha v x hx => ?_, h.known, fun a ha t name => ?_⟩
  · rcases List.mem_append.1 ha with ha | ha
    · exact h.written a ha v x hx
    · obtain rfl := List.mem_singleton.1 ha
      rw [ho] at hx
      cases hx
  · rw [held_concat, ho]
    exact h.holds a ha t name

theorem mem_updateLocals {h : Handle} {g : Locals → Locals} {b : Object} (hh : h.isValid = true)
    (hb : b ∈ (updateLocals w h g).registry.objects) : ∃ a ∈ w.registry.objects,
      b.id = a.id ∧ b.locals = if a.id = h then g a.locals else a.locals := by
  unfold updateLocals World.update Registry.update at hb
  simp only [if_pos hh] at hb
  obtain ⟨a, ha, rfl⟩ := List.mem_map.1 hb
  refine ⟨a, ha, ?_⟩
  split
  · exact ⟨rfl, rfl⟩
  · exact ⟨rfl, rfl⟩

theorem write_live (h : Faithful os w) (hworld : o.world = w) {a : Object}
    (hlive : w.get? v.object = some a) {x : Option Value} {g : Locals → Locals}
    (hwrite : writeOf? o.call.context = some (v, x)) (hputs : Puts v x g) :
    Faithful (os ++ [o]) (updateLocals w v.object g) := by
  have hissued : (updateLocals w v.object g).registry.issued = w.registry.issued :=
    Registry.update_issued w.registry v.object _
  have hvalid : v.object.isValid = true := World.valid_of_get? hlive
  have hobject : v.object.number ≤ w.registry.issued :=
    World.id_of_get? hlive ▸ h.known a (World.mem_of_get? hlive)
  refine ⟨fun b hb u y hy => ?_, fun b hb => ?_, fun b hb t name => ?_⟩
  · rw [hissued]
    rcases List.mem_append.1 hb with hb | hb
    · exact h.written b hb u y hy
    · obtain rfl := List.mem_singleton.1 hb
      by_cases hu : v = u
      · exact hu ▸ hobject
      · rw [writeTo?_other hwrite hu] at hy
        cases hy
  · obtain ⟨b₀, hb₀, hid, -⟩ := mem_updateLocals hvalid hb
    rw [hissued, hid]
    exact h.known b₀ hb₀
  · obtain ⟨b₀, hb₀, hid, hlocals⟩ := mem_updateLocals hvalid hb
    rw [held_concat, hid, hlocals]
    by_cases hu : v = ⟨b₀.id, t, name⟩
    · rw [← hworld] at hlive
      subst hu
      rw [writeTo?_self hwrite hlive, if_pos rfl]
      exact hputs.self b₀.locals
    · -- Another variable, of the same object or of another one.
      rw [writeTo?_other hwrite hu]
      refine Eq.trans ?_ (h.holds b₀ hb₀ t name)
      split
      · rename_i hsame
        refine hputs.other (not_and_or.1 fun hboth => hu ?_) b₀.locals
        rw [hsame, hboth.1, hboth.2]
      · rfl

theorem write (h : Faithful os w) (hworld : o.world = w) {x : Option Value} {g : Locals → Locals}
    (hwrite : writeOf? o.call.context = some (v, x)) (hputs : Puts v x g) :
    Faithful (os ++ [o]) (updateLocals w v.object g) := by
  cases hlive : w.get? v.object with
  | none =>
    unfold updateLocals
    rw [World.update_dead hlive]
    exact h.note (writeTo?_dead hwrite (hworld ▸ hlive))
  | some a => exact h.write_live hworld hlive hwrite hputs

end Faithful

/-! ### One call -/

section Calls

variable {f : Callee} {args : List Value} {site : Bridge.CallSite} {e : Bridge.Entry Builtin}
  {c : Bridge.CallContext}

theorem truthful_called (h : f.admission Function.table args site = .ok (e, c)) (run : Runner σ)
    {s : Session σ} (hpast : Faithful past s.world) :
    Occasion.Truthful past ⟨s.world, ⟨c, (settled run e c s).1⟩⟩ := by
  intro v hread
  show (settled run e c s).1 = _
  rw [settled_read h hread]
  cases hlive : s.world.get? v.object with
  | none => rfl
  | some o =>
    have hholds := hpast.holds o (World.mem_of_get? hlive) v.type v.name
    rw [World.id_of_get? hlive] at hholds
    exact hholds

theorem untold_deed (h : f.admission Function.table args site = .ok (e, c)) {d : Function.Deed}
    (handler : e.handler = .deed d) : readOf? c = none ∧ writeOf? c = none := by
  have hhandling := handling_of_admission h
  rw [handler] at hhandling
  cases hhandling with
  | other read write => exact ⟨read, write⟩

theorem issued_called (h : f.admission Function.table args site = .ok (e, c))
    (plain : e.handler.isDeed = false) (run : Runner σ) (s : Session σ) :
    s.world.registry.issued ≤ ((e.handler.perform run c).after s).world.registry.issued := by
  have hhandling := handling_of_admission h
  generalize e.handler = b at hhandling plain ⊢
  cases hhandling with
  | reads => exact Nat.le_refl _
  | writes _ _ _ performs =>
    rw [(perform_change (performs s.world) run).2]
    exact Nat.le_of_eq (Registry.update_issued s.world.registry _ _).symm
  | declines _ _ performs =>
    rw [(perform_change (performs s.world) run).2]
    exact Nat.le_of_eq (Registry.update_issued s.world.registry _ _).symm
  | other _ _ _ aside => exact (retains_plain plain aside run s).issued

theorem faithful_called (h : f.admission Function.table args site = .ok (e, c))
    (plain : e.handler.isDeed = false) (run : Runner σ) {s : Session σ}
    (hpast : Faithful past s.world)
    (hlimit : ((e.handler.perform run c).after s).world.registry.issued < limit) (answer : Value) :
    Faithful (past ++ [⟨s.world, ⟨c, answer⟩⟩]) ((e.handler.perform run c).after s).world := by
  have hhandling := handling_of_admission h
  generalize e.handler = b at hhandling plain hlimit ⊢
  cases hhandling with
  | reads _ write => exact hpast.note (writeTo?_of_none write)
  | writes _ write puts performs =>
    rw [(perform_change (performs s.world) run).2]
    exact hpast.write rfl write puts
  | declines _ write performs =>
    rw [(perform_change (performs s.world) run).2, Function.updateLocals_id]
    exact hpast.note (writeTo?_of_none write)
  | other _ write _ aside =>
    exact (hpast.note (writeTo?_of_none write)).retains (retains_plain plain aside run s) hlimit

theorem still_of_change (h : f.admission Function.table args site = .ok (e, c))
    {change : Function.Change} (handler : e.handler = .change change) {s : Session σ}
    (hperform : change.perform s.world c = .ok (c.preset, s.world)) (run : Runner σ) :
    (e.handler.perform run c).after s = s ∧ (settled run e c s).2 = none := by
  obtain ⟨hended, hafter⟩ := perform_change hperform run
  rw [← handler] at hended hafter
  refine ⟨hafter, ?_⟩
  unfold Function.settled
  rw [hended, Function.settle_preset (Function.prepares_of_admission h).slot]

theorem still_unwritten (h : f.admission Function.table args site = .ok (e, c))
    (haccess : (accessOf? c.name).isSome = true) (run : Runner σ) (s : Session σ)
    (hnone : ∀ v, Occasion.writeTo? v ⟨s.world, ⟨c, (settled run e c s).1⟩⟩ = none) :
    (e.handler.perform run c).after s = s ∧ (settled run e c s).2 = none := by
  have hhandling := handling_of_admission h
  generalize hb : e.handler = b at hhandling
  cases hhandling with
  | reads read => exact ⟨rfl, by rw [settled_read h read]⟩
  | @writes _ v x g _ write _ performs =>
    have hdead : s.world.get? v.object = none := by
      cases hlive : s.world.get? v.object with
      | none => rfl
      | some a => exact absurd ((writeTo?_self write hlive).symm.trans (hnone v)) nofun
    rw [← hb]
    exact still_of_change h hb (by rw [performs, updateLocals, World.update_dead hdead]) run
  | declines _ _ performs =>
    rw [← hb]
    exact still_of_change h hb (by rw [performs, Function.updateLocals_id]) run
  | other _ _ access =>
    rw [access] at haccess
    cases haccess

theorem call_unwritten (h : f.admission Function.table args site = .ok (e, c))
    (haccess : (accessOf? c.name).isSome = true) (run : Runner σ) (s : Session σ)
    (hnone : ∀ v, Occasion.writeTo? v ⟨s.world, ⟨c, (settled run e c s).1⟩⟩ = none) :
    (Function.call run f args site).after s = s := by
  obtain ⟨hafter, hfault⟩ := still_unwritten h haccess run s hnone
  refine (Function.callIn_admitted h run s).2.trans ?_
  rw [hafter, hfault]
  simp

end Calls

/-! ### Chronicles -/

namespace Play.Chronicle

variable {m : Play σ α} {s : Session σ}

theorem issued (h : Play.Chronicle Retains m s os) :
    s.world.registry.issued ≤ (m.after s).world.registry.issued := by
  induction h with
  | answer a s => exact Nat.le_refl _
  | stop p s => exact Nat.le_refl _
  | look s => exact Nat.le_refl _
  | host f s => exact Nat.le_refl _
  | change aside => exact aside.issued
  | act aside => exact aside.issued
  | @chain _ _ m f s a os os' first ended rest ihfirst ihrest =>
    rw [(bind_of_ok ended f).2]
    exact ihfirst.trans ihrest
  | @broken _ _ m f s p os first ended ih =>
    rw [(bind_of_error ended f).2]
    exact ih
  | refused h =>
    rw [Function.call_refused h]
  | called h plain =>
    rw [Function.call_world h]
    exact issued_called h plain _ _
  | deed h handler inner ih =>
    rw [Function.call_world h, handler]
    exact ih

/-- What was told before play began and what is told of it agree with the world in which it ends,
and every call in it gives what those before it have left. -/
theorem faithful (h : Play.Chronicle Retains m s os) (hpast : Faithful past s.world)
    (hlimit : (m.after s).world.registry.issued < limit) :
    Faithful (past ++ os) (m.after s).world ∧ AllTruthful past os := by
  induction h generalizing past with
  | answer a s => exact ⟨by rwa [List.append_nil], trivial⟩
  | stop p s => exact ⟨by rwa [List.append_nil], trivial⟩
  | look s => exact ⟨by rwa [List.append_nil], trivial⟩
  | host f s => exact ⟨by rwa [List.append_nil], trivial⟩
  | change aside => exact ⟨by rw [List.append_nil]; exact hpast.retains aside hlimit, trivial⟩
  | act aside => exact ⟨by rw [List.append_nil]; exact hpast.retains aside hlimit, trivial⟩
  | @chain _ _ m f s a os os' first ended rest ihfirst ihrest =>
    rw [(bind_of_ok ended f).2] at hlimit ⊢
    obtain ⟨hmiddle, hfirst⟩ := ihfirst hpast (Nat.lt_of_le_of_lt rest.issued hlimit)
    obtain ⟨hend, hrest⟩ := ihrest hmiddle hlimit
    rw [List.append_assoc] at hend
    exact ⟨hend, allTruthful_append.2 ⟨hfirst, hrest⟩⟩
  | @broken _ _ m f s p os first ended ih =>
    rw [(bind_of_error ended f).2] at hlimit ⊢
    exact ih hpast hlimit
  | refused h =>
    rw [Function.call_refused h, List.append_nil]
    exact ⟨hpast, trivial⟩
  | @called run f args site e c s h plain =>
    rw [Function.call_world h] at hlimit ⊢
    exact ⟨faithful_called h plain run hpast hlimit _, truthful_called h run hpast, trivial⟩
  | @deed run f args site e c d s os h handler inner ih =>
    rw [Function.call_world h, handler] at hlimit ⊢
    obtain ⟨hread, hwrite⟩ := untold_deed h handler
    obtain ⟨hend, hinner⟩ := ih hpast hlimit
    rw [← List.append_assoc]
    refine ⟨hend.note (writeTo?_of_none hwrite), allTruthful_append.2 ⟨hinner, ?_, trivial⟩⟩
    intro v hsome
    exact absurd (hread.symm.trans hsome) nofun

end Play.Chronicle

/-! ### Everything that can be done -/

/-- Calls are those of the functions of the game. -/
def Operation.OfGame : Operation → Prop
  | .call t _ _ _ => t = Function.table
  | _ => True

/-- Gives an object another tag, and answers whether it is there. -/
def Play.retag (h : Handle) (tag : String) : Play σ Bool :=
  act fun w =>
    let (found, registry) := w.registry.retag h tag
    (found, w.setRegistry registry)

/-- Play that does nothing with the world but operations and giving other tags to objects. -/
inductive Play.Free (run : Runner σ) : {α : Type} → Play σ α → Prop where
  | answer {α : Type} (a : α) : Free run (pure a : Play σ α)
  | chain {α β : Type} {m : Play σ α} {f : α → Play σ β} (first : Free run m)
    (rest : ∀ a, Free run (f a)) : Free run (m >>= f)
  | look : Free run (get : Play σ (Session σ))
  | host (f : σ → σ) : Free run (modify fun s => { s with host := f s.host } : Play σ Unit)
  | operation (op : Operation) (h : op.OfGame) : Free run (op.play run)
  | retag (h : Handle) (tag : String) : Free run (Play.retag h tag)

/-- An interpreter whose scripts are such play. They may ask for scripts of an interpreter of this
kind. -/
inductive Runner.Free : Runner σ → Prop where
  | idle : Free .idle
  | scripted {inner run : Runner σ} (deeper : Free inner)
    (scripts : ∀ r, Play.Free inner (run r)) : Free run

theorem World.regular_retains : World.Regular Retains where
  gentle h := h.retains
  loadModule := retains_loadModule
  loadArea := retains_loadArea
  unloadArea := retains_unloadArea
  unload := retains_unload
  loadPc := retains_loadPc
  usePc := retains_usePc
  placeAtEntry := retains_placeAtEntry
  createObject := retains_createObject
  destroyObject := retains_destroyObject
  startConversation := retains_startConversation
  endConversation := retains_endConversation

theorem Operation.OfGame.tellable {op : Operation} (h : op.OfGame) : op.Tellable Retains := by
  cases op with
  | seed n => exact fun w => World.retains_of_registry rfl
  | call t f args site => exact h
  | _ => trivial

theorem Play.Free.told {run : Runner σ} (hrun : run.Told Retains) {m : Play σ α}
    (h : Play.Free run m) : Play.Told Retains m := by
  induction h with
  | answer a => exact told_pure a
  | chain _ _ ihm ihf => exact told_bind ihm ihf
  | look => exact fun s => ⟨[], .look s⟩
  | host f => exact fun s => ⟨[], .host f s⟩
  | operation op h => exact told_operation World.regular_retains hrun op h.tellable
  | retag h tag => exact told_act fun w => World.retains_retag w h tag

theorem Runner.Free.told {run : Runner σ} (h : run.Free) : run.Told Retains := by
  induction h with
  | idle => exact fun _ => Play.told_pure _
  | scripted _ scripts ih => exact fun r => (scripts r).told ih

/-! ### Runs -/

/-- Play leads from the first session to the second one, piece by piece, and these are the calls
that it makes on its way. -/
inductive Session.Chronicled : Session σ → List Occasion → Session σ → Prop where
  | here (s : Session σ) : Chronicled s [] s
  | play {α : Type} {s s' : Session σ} {run : Runner σ} {m : Play σ α} {os os' : List Occasion}
    (before : Chronicled s os s') (scripts : run.Free) (free : Play.Free run m)
    (told : Play.Chronicle Retains m s' os') : Chronicled s (os ++ os') (m.after s')

namespace Session.Chronicled

theorem extend {s₀ s : Session σ} (h : s₀.Chronicled os s) {run : Runner σ} (scripts : run.Free)
    {m : Play σ α} (free : Play.Free run m) : ∃ os', s₀.Chronicled (os ++ os') (m.after s) := by
  obtain ⟨es, htold⟩ := free.told scripts.told s
  obtain ⟨os', hchronicle, -⟩ := htold.chronicle
  exact ⟨os', h.play scripts free hchronicle⟩

theorem faithful {s₀ s : Session σ} (h : s₀.Chronicled os s) (hstart : Faithful [] s₀.world)
    (hlimit : s.world.registry.issued < limit) : Faithful os s.world ∧ AllTruthful [] os := by
  induction h with
  | here s => exact ⟨hstart, trivial⟩
  | play before scripts free told ih =>
    obtain ⟨hbefore, htruthful⟩ := ih hstart (Nat.lt_of_le_of_lt told.issued hlimit)
    obtain ⟨hend, hplay⟩ := told.faithful hbefore hlimit
    exact ⟨hend, allTruthful_append.2 ⟨htruthful, hplay⟩⟩

end Session.Chronicled

theorem faithful_fresh (library : Library) (models : ModelSource) (clock seed : UInt64) (host : σ) :
    Faithful [] (Session.fresh library models clock seed host).world := by
  have hobjects : (Session.fresh library models clock seed host).world.registry.objects = [] := rfl
  refine ⟨fun o ho => ?_, ?_, ?_⟩
  · cases ho
  · rw [hobjects]
    exact fun o ho => nomatch ho
  · rw [hobjects]
    exact fun o ho => nomatch ho

/-- The session with one area after that has been given a number. -/
def numbered : Session Unit :=
  (Function.call .idle (.id 55) [.object ⟨1⟩, .string "tally", .int 5] .none).after oneArea

def tally : Variable := ⟨⟨1⟩, .int, "tally"⟩

theorem numbered_chronicled : ∃ os,
    (Session.fresh emptyAreas .plain 0 0 ()).Chronicled os numbered ∧ held tally os = .int 5 := by
  obtain ⟨e, c, hset, hplain, hwrite⟩ : ∃ e c, (Callee.id 55).admission Function.table
      [.object ⟨1⟩, .string "tally", .int 5] .none = .ok (e, c) ∧ e.handler.isDeed = false ∧
        writeOf? c = some (tally, some (.int 5)) := ⟨_, _, rfl, rfl, rfl⟩
  have hloaded : (Session.fresh emptyAreas .plain 0 0 ()).Chronicled [] oneArea :=
    (Session.Chronicled.here _).play .idle (.operation (.loadArea "Field") trivial)
      (.act (World.retains_loadArea _ "Field"))
  have hlive : (oneArea.world.get? tally.object).isSome = true := by decide
  refine ⟨_, hloaded.play .idle (.operation (.call Function.table (.id 55)
    [.object ⟨1⟩, .string "tally", .int 5] .none) rfl) (.called hset hplain), ?_⟩
  simp [held, Occasion.writeTo?, hwrite, hlive]

/-- The session in which as many more handles have been given out, to no object. -/
def Session.spent (s : Session σ) (n : Nat) : Session σ := { s with
  world := s.world.setRegistry { s.world.registry with issued := s.world.registry.issued + n } }

theorem spent_chronicled {s₀ s : Session Unit} (h : s₀.Chronicled os s) (n : Nat) :
    s₀.Chronicled os (s.spent n) := by
  induction n with
  | zero => exact h
  | succ n ih =>
    have hspent := ih.play .idle (.operation (.loadPc []) trivial)
      (.act (f := fun w => w.loadPc []) (World.retains_loadPc _ []))
    rw [List.append_nil] at hspent
    exact hspent

/-- The session in which the area has been loaded anew, under the handle that it had at first. -/
def renumbered : Session Unit :=
  (Play.act fun w => w.loadArea "Field").after
    ((Play.change fun w => w.unloadArea ⟨1⟩).after (numbered.spent 4294967295))

end Adventure

import Adventure.Proofs.Session.Batch

/-!
# Delayed actions and the lifetime of a module

Unloading a module empties the queue, but not the batch that is being carried out. What is left of
the batch is dropped if its owner or its triggerer is an object from before, since that one is gone.
An action whose owner and triggerer name nothing is carried out all the same.
-/

namespace Adventure

open Registry (limit)

variable {σ : Type}

namespace World

/-- The module is still the one with this handle, or every object is newer than the first `n`. -/
def Renewed (module : Handle) (n : Nat) (w : World) : Prop :=
  w.moduleId = module ∨ ∀ o ∈ w.registry.objects, n < o.id.number

/-- Objects that were there before the module was unloaded are not there again. -/
theorem Step.renewed {k : Kind} {w w' : World} {module : Handle} {n : Nat} (h : Step w k w')
    (hvalid : module.isValid = true) (hn : n ≤ w.registry.issued)
    (hlimit : w'.registry.issued < limit) (hw : Renewed module n w) : Renewed module n w' := by
  have hnewer : ∀ {a b : World}, n ≤ a.registry.issued → b.registry.issued < limit →
      Follows a b → (∀ o ∈ a.registry.objects, n < o.id.number) →
      ∀ o ∈ b.registry.objects, n < o.id.number := by
    intro a b ha hb hfollows hold o ho
    rcases hfollows.live hb o ho with ⟨c, hc, hsame⟩ | hnew
    · exact hsame.id ▸ hold c hc
    · exact ha.trans_lt hnew
  rcases hw with hmodule | hold
  · rcases h.schedule with hsame | ⟨-, a, rfl⟩ | ⟨-, rfl⟩ | ⟨-, rfl | ⟨name, rfl⟩⟩
    · exact .inl (hsame.moduleId.trans hmodule)
    · exact .inl hmodule
    · exact .inl hmodule
    · exact .inr fun o ho => nomatch ho
    · have hloaded : w.isLoaded = true := by rw [isLoaded, hmodule, hvalid]
      rw [loadModule_of_loaded hloaded] at hlimit ⊢
      have hn' : n ≤ w.unload.registry.issued := hn.trans (follows_unload w).issued
      exact .inr (hnewer hn' hlimit (follows_loadModule _ name) fun o ho => nomatch ho)
  · exact .inr (hnewer hn hlimit h.follows hold)

theorem MovesBy.renewed {P : Kind → Prop} {w w' : World} {module : Handle} {n : Nat}
    (h : MovesBy P w w') (hvalid : module.isValid = true) (hn : n ≤ w.registry.issued)
    (hlimit : w'.registry.issued < limit) (hw : Renewed module n w) : Renewed module n w' := by
  induction h with
  | refl => exact hw
  | tail hmoves hlast ih =>
    obtain ⟨k, hk, hstep⟩ := hlast
    have hlimit' := hstep.follows.issued.trans_lt hlimit
    exact hstep.renewed hvalid (hn.trans (follows hmoves).issued) hlimit (ih hlimit')

/-- Once the module of the first world has gone, there are only objects that came later. -/
theorem MovesBy.newer_of_gone {P : Kind → Prop} {w w' : World} (hmoves : MovesBy P w w')
    (hl : w.Linked) (hloaded : w.isLoaded = true) (hlimit : w'.registry.issued < limit)
    (hgone : w'.get? w.moduleId = none) :
    ∀ o ∈ w'.registry.objects, w.registry.issued < o.id.number := by
  rcases hmoves.renewed hloaded (Nat.le_refl _) hlimit (.inl rfl) with hmodule | hnewer
  · have hl' := hmoves.linked hl hlimit
    obtain ⟨o, ho, hid, -⟩ := hl'.module (by rw [hmodule]; exact hloaded)
    have hlive : w'.get? w.moduleId = some o :=
      hl'.sound.indexed.get?_eq_some.2 ⟨ho, hid.trans hmodule⟩
    rw [hgone] at hlive
    cases hlive
  · exact hnewer

end World

open World (Kind MovesBy Renewed)

/-! ### The worlds of a batch -/

namespace Turn

variable {run : Runner σ} {P : Kind → Prop}

theorem Fair.after_of_dropped {t : Turn σ} (h : t.Fair run) (hdropped : t.ended = .ok false) :
    t.after = t.before := by
  cases h with
  | dropped gone => rfl
  | destroyed present => cases hdropped
  | unnamed present => cases hdropped
  | ran present named result => cases hdropped
  | brokeOff present named panic => cases hdropped

theorem Fair.moves {t : Turn σ} (h : t.Fair run) (hcall : P .call) (hdestruction : P .destruction)
    (hrun : run.Stepwise (MovesBy P)) : MovesBy P t.before.world t.after.world := by
  have hran : ∀ (r : Request) (s : Session σ),
      MovesBy P s.world ((run r).after (s.announce r.script r.owner)).world := by
    intro r s
    have hannounced : MovesBy P s.world (s.announce r.script r.owner).world := .logEvent hcall _ _
    exact hannounced.trans (hrun r _)
  cases h with
  | dropped gone => exact .refl
  | destroyed present => exact .step hdestruction (.destroyObject _)
  | unnamed present => exact .refl
  | ran present named result => exact hran ⟨_, _, _, _⟩ _
  | brokeOff present named panic => exact hran ⟨_, _, _, _⟩ _

theorem Chain.moves {s s' : Session σ} {turns : List (Turn σ)} (h : Chain s turns s')
    (hfair : ∀ t ∈ turns, t.Fair run) (hcall : P .call) (hdestruction : P .destruction)
    (hrun : run.Stepwise (MovesBy P)) : MovesBy P s.world s'.world ∧
      ∀ t ∈ turns, MovesBy P s.world t.before.world ∧ MovesBy P t.before.world s'.world := by
  induction turns generalizing s with
  | nil =>
    cases h
    exact ⟨.refl, by simp⟩
  | cons t turns ih =>
    obtain ⟨rfl, hrest⟩ := h
    have hturn := (hfair t List.mem_cons_self).moves hcall hdestruction hrun
    obtain ⟨hend, hturns⟩ := ih hrest fun u hu => hfair u (List.mem_cons_of_mem t hu)
    refine ⟨hturn.trans hend, ?_⟩
    intro u hu
    rcases List.mem_cons.1 hu with rfl | hu
    · exact ⟨.refl, hturn.trans hend⟩
    · exact ⟨hturn.trans (hturns u hu).1, (hturns u hu).2⟩

end Turn

/-! ### Actions of a module that has gone -/

/-- When the module goes in the middle of a batch, an action of the batch that has not had its turn
is dropped if its owner or its triggerer had been given out when the batch began, and is carried out
if both name nothing. In the queue there is nothing left. -/
theorem leftover_of_unloaded {run : Runner σ} (hrun : run.Composed) {s : Session σ}
    (hs : s.Reached) (hloaded : s.world.isLoaded = true)
    (hlimit : ((Play.processActions run).after s).world.registry.issued < limit) :
    (∃ turns, Batch run s.world.due (s.withQueue s.world.waiting)
        ((Play.processActions run).after s) ((Play.processActions run).ended s) turns ∧
      ∀ t ∈ turns, t.before.world.get? s.world.moduleId = none →
        (∀ h, h = t.action.owner ∨ h = t.action.triggerer → h.isValid = true →
          h.number ≤ s.world.registry.issued → t.ended = .ok false ∧ t.after = t.before) ∧
        (t.action.owner = .invalid → t.action.triggerer = .invalid → t.ended ≠ .ok false)) ∧
      (∀ w : World, w.unload.queue = .empty) ∧
      ∀ (w : World) (name : String), w.isLoaded = true →
        (w.loadModule name).2.queue = .empty := by
  have hemptied : ∀ (w : World) (name : String), w.isLoaded = true →
      (w.loadModule name).2.queue = .empty := by
    intro w name hw
    rw [World.loadModule_queue, if_pos hw]
  refine ⟨?_, World.unload_queue, hemptied⟩
  have hbatch := Play.batch_processActions run hs.ordered
  obtain ⟨hend, hturns⟩ := hbatch.chain.moves (P := fun _ => True) hbatch.fair trivial trivial
    hrun.stepwise
  refine ⟨_, hbatch, ?_⟩
  intro t ht hgone
  obtain ⟨hbefore, hrest⟩ := hturns t ht
  have hfair := hbatch.fair t ht
  have hlimit' : t.before.world.registry.issued < limit := hrest.follows.issued.trans_lt hlimit
  have hlinked : (s.withQueue s.world.waiting).world.Linked :=
    (hs.linked (hend.follows.issued.trans_lt hlimit)).congr rfl rfl rfl rfl
  have hnewer : ∀ o ∈ t.before.world.registry.objects, s.world.registry.issued < o.id.number :=
    hbefore.newer_of_gone hlinked hloaded hlimit' hgone
  have hsound := (hbefore.linked hlinked hlimit').sound
  refine ⟨?_, ?_⟩
  · intro h hwhich hvalid hold
    have habsent : ¬ t.before.world.Present h := by
      rintro (rfl | ⟨o, ho⟩)
      · cases hvalid
      · obtain ⟨hmem, rfl⟩ := hsound.indexed.get?_eq_some.1 ho
        exact absurd (hnewer o hmem) (Nat.not_lt.2 hold)
    have hdropped : t.ended = .ok false := by
      refine hfair.dropped_iff.2 ?_
      rcases hwhich with rfl | rfl
      · exact fun hpresent => habsent hpresent.1
      · exact fun hpresent => habsent hpresent.2
    exact ⟨hdropped, hfair.after_of_dropped hdropped⟩
  · intro howner htriggerer hdropped
    refine hfair.dropped_iff.1 hdropped ?_
    rw [howner, htriggerer]
    exact ⟨.inl rfl, .inl rfl⟩

/-! ### A script that unloads the module -/

/-- A library in which every record is empty. -/
def emptyRecords : Library := ⟨.ofTexts (fun _ _ => some "{}") fun _ _ => none, .empty⟩

/-- The interpreter of a script that unloads the module; the others do nothing. -/
def leaver : Runner Unit := fun r =>
  if r.script = "leave" then do
    Play.change World.unload
    return .ok ()
  else return .ok ()

theorem leaver_composed : leaver.Composed := by
  refine .scripted .idle fun r => ?_
  unfold leaver
  split
  · exact .first .unload fun _ => .answer _
  · exact .answer _

/-- After the script that unloads the module come one of the module's and one that belongs to
nothing. -/
def departures : Play Unit Unit := do
  let _ ← Play.act fun w => w.loadModule "house"
  Play.change fun w => w.delayScript "leave" none .invalid .invalid 0
  Play.change fun w => w.delayScript "stay" none ⟨1⟩ .invalid 0
  Play.change fun w => w.delayScript "stay" none .invalid .invalid 0

def departing : Session Unit := departures.after (.fresh emptyRecords .plain 0 0 ())

theorem departing_reached : departing.Reached := by
  refine ⟨emptyRecords, .plain, 0, 0, (), (Session.Leads.here _).play .idle ?_⟩
  refine .first (.loadModule "house") fun _ => ?_
  refine .first (.delayScript "leave" none .invalid .invalid 0) fun _ => ?_
  refine .first (.delayScript "stay" none ⟨1⟩ .invalid 0) fun _ => ?_
  exact .operation (.delayScript "stay" none .invalid .invalid 0) trivial

def departingTurns : List (Turn Unit) :=
  Play.turns leaver departing.world.due (departing.withQueue departing.world.waiting)

/-- The script of the module is dropped. -/
theorem departing_leftover : departing.world.isLoaded = true ∧
    ∃ turns, Batch leaver departing.world.due (departing.withQueue departing.world.waiting)
        ((Play.processActions leaver).after departing)
        ((Play.processActions leaver).ended departing) turns ∧
      ∀ t ∈ turns, t.before.world.get? ⟨1⟩ = none → t.action.owner = ⟨1⟩ → t.ended = .ok false := by
  have hloaded : departing.world.isLoaded = true := by decide +kernel
  have hlimit : ((Play.processActions leaver).after departing).world.registry.issued <
      limit := by decide +kernel
  have hmodule : departing.world.moduleId = ⟨1⟩ := by decide +kernel
  obtain ⟨⟨turns, hbatch, hleft⟩, -, -⟩ :=
    leftover_of_unloaded leaver_composed departing_reached hloaded hlimit
  refine ⟨hloaded, turns, hbatch, ?_⟩
  intro t ht hgone howner
  rw [← hmodule] at hgone
  refine ((hleft t ht hgone).1 ⟨1⟩ (.inl howner.symm) (by decide) ?_).1
  decide +kernel

/-- The other one is carried out, although the module it was queued in has been unloaded. -/
theorem script_outlives_module : departing.world.isLoaded = true ∧
    Batch leaver departing.world.due (departing.withQueue departing.world.waiting)
      ((Play.processActions leaver).after departing)
      ((Play.processActions leaver).ended departing) departingTurns ∧
    ∃ t ∈ departingTurns, t.before.world.get? departing.world.moduleId = none ∧
      t.before.world.moduleId = .invalid ∧ t.ended = .ok true := by
  refine ⟨by decide +kernel, Play.batch_processActions leaver departing_reached.ordered, ?_⟩
  have hany : departingTurns.any (fun t =>
      (t.before.world.get? departing.world.moduleId).isNone &&
        t.before.world.moduleId = .invalid && t.carriedOut) = true := by
    decide +kernel
  obtain ⟨t, ht, hleft⟩ := List.any_eq_true.1 hany
  rw [Bool.and_eq_true, Bool.and_eq_true, decide_eq_true_eq, Option.isNone_iff_eq_none,
    Turn.carriedOut_iff] at hleft
  exact ⟨t, ht, hleft.1.1, hleft.1.2, hleft.2⟩

end Adventure

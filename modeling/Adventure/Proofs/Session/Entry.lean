import Adventure.Proofs.Session.Batch
import Adventure.Proofs.Session.Visibility

/-!
# Entering a module

With scripts that leave the world alone, what entering does to the player's creature is decided by
the area that has been noted. If that is another one than the entry area, or none, the creature is
shown there and the scripts for leaving and for entering are asked for. If it is the entry area, the
creature comes unnoticed, also when it was another creature that was noted there.
-/

namespace Adventure

open World (Linked)
open Registry (limit Sound)

variable {σ α β : Type} {run : Runner σ} {s : Session σ}

/-! ### What is asked for -/

/-- What the interpreter keeps has a log of all that it has been asked for. -/
def Runner.Logs (run : Runner σ) (log : σ → List Request) : Prop :=
  ∀ r s, log ((run r).after s).host = log s.host ++ [r]

/-- The hook of a live object as it is asked for, nothing if there is none. -/
def World.hooked (w : World) (event : String) (triggerer h : Handle) : List Request :=
  (((w.get? h).bind fun o => o.hook? event).map fun script => ⟨script, none, h, triggerer⟩).toList

/-- Play returns, asks for these scripts, and this holds of the world then. -/
structure Play.Asks (run : Runner σ) (m : Play σ α) (s : Session σ) (requests : List Request)
    (Q : World → Prop) : Prop where
  yields : Yields m s Q
  logged : ∀ log, run.Logs log → log (m.after s).host = log s.host ++ requests

namespace Play

variable {Q : World → Prop} {requests later : List Request}

theorem asks_pure (a : α) (h : Q s.world) : Asks run (pure a : Play σ α) s [] Q :=
  ⟨yields_pure a h, fun log _ => (List.append_nil (log s.host)).symm⟩

theorem asks_bind {m : Play σ α} {f : α → Play σ β} {Q' : World → Prop}
    (hm : Asks run m s requests Q') (hf : ∀ a s', Q' s'.world → Asks run (f a) s' later Q) :
    Asks run (m >>= f) s (requests ++ later) Q := by
  obtain ⟨⟨a, ha, hq⟩, hlogged⟩ := hm
  obtain ⟨hyields, hlater⟩ := hf a (m.after s) hq
  refine ⟨yields_after ha hyields, fun log hlog => ?_⟩
  rw [(bind_of_ok ha f).2, hlater log hlog, hlogged log hlog, List.append_assoc]

theorem asks_last {m : Play σ α} {f : α → Play σ β} {Q' : World → Prop}
    (hm : Asks run m s requests Q') (hf : ∀ a s', Q' s'.world → Asks run (f a) s' [] Q) :
    Asks run (m >>= f) s requests Q := by
  rw [← List.append_nil requests]
  exact asks_bind hm hf

theorem asks_change {f : World → World} (h : Q (f s.world)) : Asks run (change f) s [] Q :=
  ⟨yields_change h, fun log _ => (List.append_nil (log s.host)).symm⟩

theorem asks_next {f : World → World} {g : Unit → Play σ β}
    (hg : Asks run (g ()) { s with world := f s.world } requests Q) :
    Asks run (change f >>= g) s requests Q := ⟨yields_next hg.yields, hg.logged⟩

theorem asks_world {f : World → Play σ β} (hf : Asks run (f s.world) s requests Q) :
    Asks run (world >>= f) s requests Q := by
  refine ⟨yields_world hf.yields, fun log hlog => ?_⟩
  rw [(world_bind f s).2]
  exact hf.logged log hlog

theorem asks_act {f : World → α × World} {g : α → Play σ β}
    (hg : Asks run (g (f s.world).1) { s with world := (f s.world).2 } requests Q) :
    Asks run (act f >>= g) s requests Q := by
  refine ⟨yields_act hg.yields, fun log hlog => ?_⟩
  rw [(act_bind f g s).2]
  exact hg.logged log hlog

theorem Asks.mono {m : Play σ α} {Q' : World → Prop} (hm : Asks run m s requests Q)
    (h : ∀ w, Q w → Q' w) : Asks run m s requests Q' := ⟨hm.yields.mono h, hm.logged⟩

theorem asks_hook {h triggerer : Handle} {event : String} (hrun : run.Aloof)
    (hQ : ∀ events, Q { s.world with events })
    (hhooked : s.world.hooked event triggerer h = requests) :
    Asks run (runHook run h event triggerer) s requests Q := by
  subst hhooked
  refine ⟨yields_hook hrun hQ h event triggerer, fun log hlog => ?_⟩
  unfold runHook World.hooked
  rw [(world_bind _ s).2]
  cases hbound : (s.world.get? h).bind fun o => o.hook? event with
  | none => exact (List.append_nil (log s.host)).symm
  | some script =>
    obtain ⟨o, -, hscript⟩ := Option.bind_eq_some_iff.1 hbound
    have hnamed : script ≠ "" := by
      unfold Object.hook? at hscript
      simpa using (Option.filter_eq_some_iff.1 hscript).2
    -- A hook that is bound has a name, so the interpreter does get to see it.
    let request : Request := ⟨script, none, h, triggerer⟩
    obtain ⟨a, ha, -⟩ := yields_aloof hrun hQ request
    simp only
    rw [(bind_of_ok ha fun _ => pure ()).2, (runScript_of_named run s (r := request) hnamed).2]
    exact hlog request (s.announce script h)

end Play

/-! ### What becomes of the objects -/

namespace World

variable {w w' : World} {f g : Object → Object}

/-- The same objects are there with the same scripts, each as what it has become. -/
structure Staged (f : Object → Object) (w w' : World) : Prop where
  pc : w'.pc = w.pc
  moduleId : w'.moduleId = w.moduleId
  sound : w'.registry.Sound
  bound : ∀ o, Object.Bound o (f o)
  get? : ∀ h, w'.get? h = (w.get? h).map f

namespace Staged

theorem trans {a b c : World} (first : Staged f a b) (second : Staged g b c) :
    Staged (g ∘ f) a c := by
  refine ⟨second.pc.trans first.pc, second.moduleId.trans first.moduleId, second.sound, ?_, ?_⟩
  · intro o
    have hf := first.bound o
    have hg := second.bound (f o)
    exact ⟨hg.id.trans hf.id, hg.hooks.trans hf.hooks⟩
  · intro h
    rw [second.get?, first.get?, Option.map_map]

theorem refl (hs : w.registry.Sound) : Staged id w w :=
  ⟨rfl, rfl, hs, fun _ => ⟨rfl, rfl⟩, fun _ => (Option.map_id' ).symm⟩

theorem congr {w'' : World} (h : Staged f w w') (hregistry : w''.registry = w'.registry)
    (hpc : w''.pc = w'.pc) (hmodule : w''.moduleId = w'.moduleId) : Staged f w w'' := by
  refine ⟨hpc.trans h.pc, hmodule.trans h.moduleId, hregistry ▸ h.sound, h.bound, fun k => ?_⟩
  rw [← h.get?]
  unfold World.get?
  rw [hregistry]

theorem hooked (h : Staged f w w') (event : String) (triggerer k : Handle) :
    w'.hooked event triggerer k = w.hooked event triggerer k := by
  unfold World.hooked
  rw [h.get?]
  cases w.get? k with
  | none => rfl
  | some o => simp only [Option.map_some, Option.bind_some, Object.hook?, (h.bound o).hooks]

end Staged

/-- What an object is left as when what is in an area is shown or hidden. -/
def sighted (area : Handle) (visible : Bool) (o : Object) : Object :=
  if o.area = some area then (if visible then o.reveal else o.hide) else o

/-- What an object is left as when the area that was noted has been left. -/
def dimmed (noted : Option Handle) (o : Object) : Object :=
  match noted with
  | none => o
  | some old => sighted old false o

theorem staged_setAreaVisible {area : Handle} {visible : Bool} (hs : w.registry.Sound)
    (hregistry : w'.registry = w.registry) (hpc : w'.pc = w.pc) (hmodule : w'.moduleId = w.moduleId) :
    Staged (sighted area visible) w (w'.setAreaVisible area visible) := by
  obtain ⟨hsound, hobjects⟩ := setAreaVisible_objects (hregistry ▸ hs) area visible
  have hbound : ∀ o, Object.Bound o (sighted area visible o) := by
    intro o
    unfold sighted
    split
    · split
      · exact Object.bound_reveal o
      · exact Object.bound_hide o
    · exact ⟨rfl, rfl⟩
  have hrest := w'.setAreaVisible_rest area visible
  refine ⟨by rw [hrest, ← hpc], by rw [hrest, ← hmodule], hsound, hbound, fun h => ?_⟩
  exact get?_of_objects (fun o => (hbound o).id) (hregistry ▸ hobjects) h

/-- What the player's creature is left as at the entry of a module. -/
def atEntry (area : Handle) (m : ModuleInfo) (o : Object) : Object :=
  ({ o with area := some area }.setPosition m.entryPosition).setFacing m.entryFacing

theorem staged_atEntry (hs : w.registry.Sound) (pc area : Handle) (m : ModuleInfo) :
    Staged (Object.changed pc (atEntry area m)) w (w.update pc (atEntry area m)) := by
  have hbound : ∀ o, Object.Bound o (Object.changed pc (atEntry area m) o) := by
    intro o
    unfold Object.changed
    split <;> exact ⟨rfl, rfl⟩
  refine ⟨rfl, rfl, hs.update pc _ fun o => ⟨rfl, rfl⟩, hbound, fun h => ?_⟩
  exact get?_of_objects (fun o => (hbound o).id) (objects_update hs pc _) h

end World

/-! ### Noticing where the creature is -/

namespace Play

open World (Staged dimmed sighted staged_setAreaVisible)

theorem asks_leaveArea (hrun : run.Aloof) (hs : s.world.registry.Sound) (pc : Handle)
    (noted : Option Handle) : Asks run (leaveArea run pc noted) s
      (noted.toList.flatMap (s.world.hooked "OnExit" pc)) fun w =>
        Staged (dimmed noted) s.world w ∧ w.entering = s.world.entering := by
  cases noted with
  | none => exact asks_pure () ⟨.refl hs, rfl⟩
  | some old =>
    let leaving : World := { s.world with exiting := pc }
    have hleft : Staged (sighted old false) s.world (leaving.setAreaVisible old false) :=
      staged_setAreaVisible hs rfl rfl rfl
    have hentering : (leaving.setAreaVisible old false).entering = s.world.entering := by
      rw [World.setAreaVisible_rest]
    rw [Option.toList_some, List.flatMap_singleton]
    exact asks_next (asks_hook hrun (fun _ => ⟨hleft.congr rfl rfl rfl, hentering⟩)
      (hleft.hooked "OnExit" pc old))

theorem asks_enterArea (hrun : run.Aloof) (hs : s.world.registry.Sound) (pc area : Handle) :
    Asks run (enterArea run pc (some area)) s (s.world.hooked "OnEnter" pc area) fun w =>
      Staged (sighted area true) s.world w ∧ w.entering = pc ∧
        w.currentArea = s.world.currentArea := by
  let arriving : World := { s.world with entering := pc }
  have hcame : Staged (sighted area true) s.world (arriving.setAreaVisible area true) :=
    staged_setAreaVisible hs rfl rfl rfl
  have hnoted : (arriving.setAreaVisible area true).entering = pc ∧
      (arriving.setAreaVisible area true).currentArea = s.world.currentArea := by
    rw [World.setAreaVisible_rest]
    exact ⟨rfl, rfl⟩
  have hwelcome : Asks run (runHook run area "OnEnter" pc)
      { s with world := arriving.setAreaVisible area true } (s.world.hooked "OnEnter" pc area)
      fun w => Staged (sighted area true) s.world w ∧ w.entering = pc ∧
        w.currentArea = s.world.currentArea :=
    asks_hook hrun (fun _ => ⟨hcame.congr rfl rfl rfl, hnoted⟩) (hcame.hooked "OnEnter" pc area)
  refine asks_next (asks_last hwelcome ?_)
  rintro _ s' ⟨hstaged, hentering, hcurrent⟩
  exact asks_change ⟨hstaged.congr rfl rfl rfl, hentering, hcurrent⟩

theorem asks_movedPc (hrun : run.Aloof) (hs : s.world.registry.Sound) {pc area : Handle}
    (hpc : s.world.pc = some pc) (hplace : s.world.pcArea? = some area)
    (helsewhere : s.world.currentArea ≠ some area) : Asks run (movedPc run) s
      (s.world.currentArea.toList.flatMap (s.world.hooked "OnExit" pc) ++
        s.world.hooked "OnEnter" pc area) fun w =>
      Staged (sighted area true ∘ dimmed s.world.currentArea) s.world w ∧ w.entering = pc ∧
        w.currentArea = some area := by
  unfold movedPc
  refine asks_world ?_
  simp only [hpc, hplace, if_neg (Ne.symm helsewhere)]
  refine asks_bind (asks_leaveArea hrun hs pc s.world.currentArea) ?_
  rintro _ s₁ ⟨hleft, -⟩
  let noted : Session σ := { s₁ with world := { s₁.world with currentArea := some area } }
  have hnoted : Staged (dimmed s.world.currentArea) s.world noted.world := hleft.congr rfl rfl rfl
  have henters := asks_enterArea (s := noted) hrun hnoted.sound pc area
  rw [hnoted.hooked] at henters
  refine asks_next (henters.mono ?_)
  rintro w ⟨hcame, hentering, hcurrent⟩
  exact ⟨hnoted.trans hcame, hentering, hcurrent⟩

theorem asks_movedPc_noted {pc area : Handle} (hpc : s.world.pc = some pc)
    (hplace : s.world.pcArea? = some area) (hnoted : s.world.currentArea = some area) :
    Asks run (movedPc run) s [] fun w => w = s.world := by
  unfold movedPc
  refine asks_world ?_
  simp only [hpc, hplace, hnoted, if_true]
  exact asks_pure () rfl

end Play

/-! ### The player's creature at the entry -/

namespace World

open Object (changed)

variable {w : World} {pc area : Handle} {m : ModuleInfo}

/-- What an object is left as when the player's creature has entered the module. -/
def settled (w : World) (pc area : Handle) (m : ModuleInfo) : Object → Object :=
  if w.currentArea = some area then changed pc (atEntry area m)
  else (sighted area true ∘ dimmed w.currentArea) ∘ changed pc (atEntry area m)

/-- What is asked for on the way into the area: the scripts for leaving the one that was noted and
for entering this one, and none if it is noted already. -/
def hooksOnWay (w : World) (pc area : Handle) : List Request :=
  if w.currentArea = some area then []
  else w.currentArea.toList.flatMap (w.hooked "OnExit" pc) ++ w.hooked "OnEnter" pc area

/-- The player's creature has been put at the entry, and it is noted in the area. -/
structure Settled (pc area : Handle) (m : ModuleInfo) (w w' : World) : Prop where
  staged : Staged (w.settled pc area m) w w'
  currentArea : w'.currentArea = some area
  entering : w'.entering = if w.currentArea = some area then w.entering else pc

theorem placeAtEntry_ok (h : ∃ p, w.placeAtEntry.1 = .ok p) : ∃ pc m area,
    w.pc = some pc ∧ w.moduleInfo? = some m ∧ w.area? m.entryArea = some area ∧
      w.placeAtEntry = (.ok (pc, m.entryArea), w.update pc (atEntry area m)) := by
  obtain ⟨p, h⟩ := h
  rcases w.placeAtEntry_cases with ⟨e, hfailed⟩ | hplaced
  · rw [hfailed] at h
    cases h
  · exact hplaced

theorem settled_creature (w : World) (area : Handle) (m : ModuleInfo) {o : Object}
    (hid : o.id = pc) (hkind : o.kind = .creature) :
    (w.settled pc area m o).area = some area ∧
      (w.settled pc area m o).position = m.entryPosition ∧
      (w.settled pc area m o).facing = m.entryFacing ∧
      (w.settled pc area m o).isVisible =
        if w.currentArea = some area then o.isVisible else o.model.isSome := by
  have hatEntry : (atEntry area m o).area = some area ∧
      (atEntry area m o).position = m.entryPosition ∧ (atEntry area m o).facing = m.entryFacing ∧
      (atEntry area m o).isVisible = o.isVisible := by
    refine ⟨rfl, rfl, rfl, ?_⟩
    cases hmodel : o.model <;> simp [atEntry, Object.setFacing, Object.setOrientation,
      Object.setPosition, Object.mapModel, Object.isVisible, hmodel]
  unfold settled
  split
  · rw [Object.changed_of_eq _ hid]
    exact hatEntry
  · rename_i helsewhere
    -- By the time the noted area is hidden the creature is not in it any more.
    have hundimmed : dimmed w.currentArea (atEntry area m o) = atEntry area m o := by
      unfold dimmed
      split
      · rfl
      · rename_i old hold
        rw [hold] at helsewhere
        exact if_neg (Ne.symm helsewhere)
    have hrevealed : sighted area true (atEntry area m o) =
        (atEntry area m o).mapModel fun model => { model with visible := true } := by
      obtain ⟨c, hc⟩ := Object.details_of_creature hkind
      have hdetails : (atEntry area m o).details = .creature c := hc
      unfold sighted
      rw [if_pos hatEntry.1, if_pos rfl]
      unfold Object.reveal
      rw [hdetails]
    rw [Function.comp_apply, Function.comp_apply, Object.changed_of_eq _ hid, hundimmed, hrevealed]
    refine ⟨rfl, rfl, rfl, ?_⟩
    cases hmodel : o.model <;> simp [atEntry, Object.setFacing, Object.setOrientation,
      Object.setPosition, Object.mapModel, Object.isVisible, hmodel]

end World

namespace Play

open World (Settled Staged atEntry staged_atEntry)

variable {pc area : Handle} {m : ModuleInfo}

theorem asks_settling (hrun : run.Aloof) (hl : Linked s.world) (hpc : s.world.pc = some pc) :
    Asks run (movedPc run) { s with world := s.world.update pc (atEntry area m) }
      (s.world.hooksOnWay pc area) (Settled pc area m s.world) := by
  let placed : Session σ := { s with world := s.world.update pc (atEntry area m) }
  have hstaged : Staged (Object.changed pc (atEntry area m)) s.world placed.world :=
    staged_atEntry hl.sound pc area m
  have hplace : placed.world.pcArea? = some area := by
    obtain ⟨o, ho, hid, -⟩ := hl.player pc hpc
    have hlive : s.world.get? pc = some o := hl.sound.indexed.get?_eq_some.2 ⟨ho, hid⟩
    unfold World.pcArea?
    rw [hstaged.pc, hpc, Option.bind_some, hstaged.get?, hlive, Option.map_some, Option.bind_some,
      Object.changed_of_eq _ hid]
    rfl
  unfold World.hooksOnWay
  by_cases hnoted : s.world.currentArea = some area
  · rw [if_pos hnoted]
    refine (asks_movedPc_noted (s := placed) hpc hplace hnoted).mono ?_
    rintro w rfl
    refine ⟨?_, hnoted, (if_pos hnoted).symm⟩
    unfold World.settled
    rw [if_pos hnoted]
    exact hstaged
  · rw [if_neg hnoted]
    have hmoves := asks_movedPc (s := placed) hrun hstaged.sound hpc hplace hnoted
    -- Putting the creature at the entry changes no hook, so what is asked for can be read off before.
    have hasks : placed.world.hooked = s.world.hooked := by
      funext event triggerer k
      exact hstaged.hooked event triggerer k
    rw [hasks] at hmoves
    refine hmoves.mono ?_
    rintro w ⟨hcame, hentering, hcurrent⟩
    refine ⟨?_, hcurrent, hentering.trans (if_neg hnoted).symm⟩
    unfold World.settled
    rw [if_neg hnoted]
    exact hstaged.trans hcame

theorem asks_enter (hrun : run.Aloof) (hl : Linked s.world) (hpc : s.world.pc = some pc)
    (hplaced : s.world.placeAtEntry = (.ok (pc, m.entryArea), s.world.update pc (atEntry area m))) :
    Asks run (enter run) s
      (s.world.hooksOnWay pc area ++ s.world.hooked "OnClientEntr" pc s.world.moduleId)
      (Settled pc area m s.world) := by
  unfold enter
  refine asks_act ?_
  rw [hplaced]
  refine asks_bind (asks_settling hrun hl hpc) fun _ s₁ hsettled => ?_
  have hhook : Asks run (runHook run s₁.world.moduleId "OnClientEntr" pc) s₁
      (s.world.hooked "OnClientEntr" pc s.world.moduleId) (Settled pc area m s.world) := by
    refine asks_hook hrun (fun events => ?_) ?_
    · exact ⟨hsettled.staged.congr rfl rfl rfl, hsettled.currentArea, hsettled.entering⟩
    · rw [hsettled.staged.hooked, hsettled.staged.moduleId]
  refine asks_world (asks_last hhook fun _ s₂ hdone => asks_next (asks_pure _ ?_))
  exact ⟨hdone.staged.congr rfl rfl rfl, hdone.currentArea, hdone.entering⟩

end Play

theorem Play.placed_of_entered (h : (Play.enter run).ended s = .ok (.ok ())) :
    ∃ p, s.world.placeAtEntry.1 = .ok p := by
  unfold Play.enter at h
  rw [(Play.act_bind _ _ s).1] at h
  cases hplaced : s.world.placeAtEntry.1 with
  | ok p => exact ⟨p, rfl⟩
  | error e =>
    rw [hplaced] at h
    cases h

/-- With scripts that leave the world alone, the player's creature that has entered a reached
session is at the entry, and the area of the entry is noted. If another area was noted, or none, the
creature is shown, it is the one that has entered last, and the scripts for leaving the area that
was noted, for entering the area and for entering the module are asked for with it as triggerer, in
this order, those of them that are bound. If the area was noted already, no matter for which
creature, the creature is as visible as it was, the one that has entered last stays so, and only the
script of the module is asked for. As long as the creature is tracked, that is so exactly if it was
in the area itself. -/
theorem enter_unless_noted (hs : s.Reached) (hlimit : s.world.registry.issued < limit)
    (hrun : run.Aloof) (hentered : (Play.enter run).ended s = .ok (.ok ())) :
    let w := ((Play.enter run).after s).world
    ∃ pc m area o p, s.world.pc = some pc ∧ s.world.moduleInfo? = some m ∧
      s.world.area? m.entryArea = some area ∧ s.world.get? pc = some o ∧
      w.pc = some pc ∧ w.currentArea = some area ∧ w.get? pc = some p ∧
      p.area = some area ∧ p.position = m.entryPosition ∧ p.facing = m.entryFacing ∧
      (s.world.currentArea ≠ some area → w.entering = pc ∧ p.isVisible = o.model.isSome ∧
        ∀ log, run.Logs log → log ((Play.enter run).after s).host = log s.host ++
          (s.world.currentArea.toList.flatMap (s.world.hooked "OnExit" pc) ++
            s.world.hooked "OnEnter" pc area ++
            s.world.hooked "OnClientEntr" pc s.world.moduleId)) ∧
      (s.world.currentArea = some area → w.entering = s.world.entering ∧
        p.isVisible = o.isVisible ∧
        ∀ log, run.Logs log → log ((Play.enter run).after s).host =
          log s.host ++ s.world.hooked "OnClientEntr" pc s.world.moduleId) ∧
      (s.world.Tracks → (s.world.currentArea = some area ↔ o.area = some area)) := by
  have hl := hs.linked hlimit
  obtain ⟨pc, m, area, hpc, hm, harea, hplaced⟩ :=
    World.placeAtEntry_ok (Play.placed_of_entered hentered)
  obtain ⟨o, ho, hid, hisPc⟩ := hl.player pc hpc
  have hlive : s.world.get? pc = some o := hl.sound.indexed.get?_eq_some.2 ⟨ho, hid⟩
  obtain ⟨⟨-, -, hsettled⟩, hlogged⟩ := Play.asks_enter hrun hl hpc hplaced
  obtain ⟨hplace, hposition, hfacing, hvisible⟩ :=
    World.settled_creature s.world area m hid (Object.kind_of_isPc hisPc)
  have hget := hsettled.staged.get? pc
  rw [hlive, Option.map_some] at hget
  refine ⟨pc, m, area, o, _, hpc, hm, harea, hlive, hsettled.staged.pc.trans hpc,
    hsettled.currentArea, hget, hplace, hposition, hfacing, ?_, ?_, ?_⟩
  · intro helsewhere
    rw [if_neg helsewhere] at hvisible
    refine ⟨hsettled.entering.trans (if_neg helsewhere), hvisible, fun log hlog => ?_⟩
    rw [hlogged log hlog, World.hooksOnWay, if_neg helsewhere]
  · intro hnoted
    rw [if_pos hnoted] at hvisible
    refine ⟨hsettled.entering.trans (if_pos hnoted), hvisible, fun log hlog => ?_⟩
    rw [hlogged log hlog, World.hooksOnWay, if_pos hnoted, List.nil_append]
  · intro htracks
    unfold World.Tracks World.pcArea? at htracks
    rw [htracks, hpc, Option.bind_some, hlive, Option.bind_some]

/-! ### A welcome for the first creature only -/

/-- The interpreter that writes down what it is asked for and runs nothing. -/
def Runner.recording : Runner (List Request) := fun r => do
  modify fun s => { s with host := s.host ++ [r] }
  return .ok ()

theorem aloof_recording : Runner.recording.Aloof := fun _ _ => ⟨.ok (), rfl, rfl⟩

theorem logs_recording : Runner.recording.Logs id := fun _ _ => rfl

theorem composed_recording : Runner.recording.Composed :=
  .scripted .idle fun r => .chain (.host (· ++ [r])) fun _ => .answer _

/-- A module with a script for entering its areas, and creatures that look like something. -/
def welcoming : Library :=
  let text (kind : ResourceKind) (_ : String) : Option String :=
    if kind = .ifo then some "\x7b\"Mod_Entry_Area\": \"field\"\x7d"
    else if kind = .are then some "\x7b\"OnEnter\": \"welcome\"\x7d"
    else none
  ⟨.ofTexts text fun _ _ => some [("RACE", .string "guard")], .empty⟩

def loadVisitor : Play (List Request) (Except Failure Handle) :=
  Play.act fun w => w.loadPc [("Appearance_Type", .int 0)]

/-- A creature of the player is at the door of the module. -/
def visitor : Session (List Request) :=
  loadVisitor.after ((Play.act fun w => w.loadModule "house").after (.fresh welcoming .plain 0 0 []))

/-- Another creature is, after the first one has entered. -/
def successor : Session (List Request) :=
  loadVisitor.after ((Play.enter .recording).after visitor)

theorem visitor_leads : (Session.fresh welcoming .plain 0 0 []).Leads visitor :=
  ((Session.Leads.here _).operation composed_recording (.loadModule "house")).operation
    composed_recording (.loadPc _)

theorem visitor_reached : visitor.Reached := ⟨welcoming, .plain, 0, 0, [], visitor_leads⟩

/-- The first creature is shown and welcomed. -/
theorem visitor_welcomed :
    ((Play.enter .recording).after visitor).world.entering = ⟨3⟩ ∧
    (((Play.enter .recording).after visitor).world.get? ⟨3⟩).map Object.isVisible = some true ∧
    ((Play.enter .recording).after visitor).host.map
      (fun r => (r.script, r.owner, r.triggerer)) = [("welcome", ⟨2⟩, ⟨3⟩)] := by
  have hplay : visitor.world.registry.issued < limit ∧
      (Play.enter .recording).ended visitor = .ok (.ok ()) ∧
      visitor.world.currentArea = none ∧ visitor.world.pc = some ⟨3⟩ ∧
      (visitor.world.get? ⟨3⟩).map (fun o => o.model.isSome) = some true ∧
      (visitor.world.moduleInfo?.bind fun m => visitor.world.area? m.entryArea) = some ⟨2⟩ ∧
      visitor.host.isEmpty = true ∧
      (visitor.world.hooked "OnEnter" ⟨3⟩ ⟨2⟩ ++
        visitor.world.hooked "OnClientEntr" ⟨3⟩ visitor.world.moduleId).map
          (fun r => (r.script, r.owner, r.triggerer)) = [("welcome", ⟨2⟩, ⟨3⟩)] := by
    decide +kernel
  obtain ⟨hlimit, hentered, hnone, hplayer, hmodel, hentry, hsilent, hasked⟩ := hplay
  obtain ⟨pc, m, area, o, p, hpc, hm, harea, ho, -, -, hp, -, -, -, hwelcome, -⟩ :=
    enter_unless_noted visitor_reached hlimit aloof_recording hentered
  obtain rfl : ⟨3⟩ = pc := Option.some_inj.1 (hplayer.symm.trans hpc)
  rw [hm, Option.bind_some, harea] at hentry
  obtain rfl : area = ⟨2⟩ := Option.some_inj.1 hentry
  have helsewhere : visitor.world.currentArea ≠ some ⟨2⟩ := by
    rw [hnone]
    exact (Option.some_ne_none _).symm
  obtain ⟨hentering, hvisible, hlogged⟩ := hwelcome helsewhere
  have hlog := hlogged id logs_recording
  rw [hnone, id, id, List.isEmpty_iff.1 hsilent] at hlog
  rw [ho, Option.map_some] at hmodel
  refine ⟨hentering, ?_, ?_⟩
  · rw [hp, Option.map_some, hvisible]
    exact hmodel
  · rw [hlog, Option.toList_none, List.flatMap_nil, List.nil_append, List.nil_append]
    exact hasked

/-- The second creature comes into the area in which the first one was noted. It is not shown there,
and the script for entering the area is not asked for. -/
theorem successor_unwelcomed : successor.Reached ∧ Runner.recording.Aloof ∧
    Runner.recording.Logs id ∧ (Play.enter .recording).ended successor = .ok (.ok ()) ∧
    successor.world.pc = some ⟨4⟩ ∧ (successor.world.get? ⟨4⟩).bind Object.area = none ∧
    let entered := (Play.enter .recording).after successor
    entered.world.entering = ⟨3⟩ ∧
      (entered.world.get? ⟨4⟩).map (fun o => (o.area, o.model.isSome, o.isVisible)) =
        some (some ⟨2⟩, true, false) ∧
      (successor.world.get? ⟨2⟩).bind (·.hook? "OnEnter") = some "welcome" ∧
      entered.host.length = successor.host.length := by
  have hreached : successor.Reached :=
    visitor_reached.leads (((Session.Leads.here _).operation composed_recording .enter).operation
      composed_recording (.loadPc _))
  refine ⟨hreached, aloof_recording, logs_recording, ?_⟩
  decide +kernel

end Adventure

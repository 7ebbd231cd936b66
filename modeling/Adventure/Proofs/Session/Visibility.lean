import Adventure.Proofs.Session.Tracking
import Adventure.Proofs.World.Visibility

/-!
# What can be seen during play

With scripts that leave the world alone, the operations of a module keep what is shown in step with
the player's creature: what is in its area is shown, as far as it can be, and nothing else is. Only
the operations that put another creature in its place or destroy it are left out; those note
nothing.
-/

namespace Adventure

open World (Arriving Darkened Linked Lit Still)
open Registry (limit Sound)

variable {σ α β : Type} {run : Runner σ} {s : Session σ}

namespace Play

/-! ### Scripts and hooks -/

theorem yields_aloof (hrun : run.Aloof) {Q : World → Prop}
    (hQ : ∀ events, Q { s.world with events }) (r : Request) : Yields (runScript run r) s Q := by
  unfold runScript
  split
  · exact yields_pure _ (hQ s.world.events)
  · refine yields_next ((hrun r _).mono ?_)
    rintro w rfl
    exact hQ _

theorem yields_hook (hrun : run.Aloof) {Q : World → Prop}
    (hQ : ∀ events, Q { s.world with events }) (h : Handle) (event : String)
    (triggerer : Handle) : Yields (runHook run h event triggerer) s Q := by
  unfold runHook
  refine yields_world ?_
  split
  · exact yields_pure () (hQ s.world.events)
  · exact yields_bind (yields_aloof hrun hQ _) fun _ _ h => yields_pure () h

theorem lit_runScript (hrun : run.Aloof) (hw : s.world.Lit) (r : Request) :
    Yields (runScript run r) s Lit := yields_aloof hrun (fun _ => hw.aside rfl rfl) r

theorem lit_runHook (hrun : run.Aloof) (hw : s.world.Lit) (h : Handle) (event : String)
    (triggerer : Handle) : Yields (runHook run h event triggerer) s Lit :=
  yields_hook hrun (fun _ => hw.aside rfl rfl) h event triggerer

/-! ### Coming into another area -/

theorem darkened_leaveArea (hrun : run.Aloof) (hs : s.world.registry.Sound)
    (hw : s.world.Arriving) (pc : Handle) : Yields (leaveArea run pc s.world.currentArea) s fun w =>
      w.registry.Sound ∧ w.Darkened ∧ w.pcArea? = s.world.pcArea? := by
  unfold leaveArea
  cases hold : s.world.currentArea with
  | none => exact yields_pure () ⟨hs, hw.darkened_of_none hold, rfl⟩
  | some old =>
    let leaving : World := { s.world with exiting := pc }
    have hdark : (leaving.setAreaVisible old false).Darkened :=
      Arriving.darkened (w := leaving) hw hs hold
    have hstill : Still (fun _ => True) leaving (leaving.setAreaVisible old false) :=
      .setAreaVisible leaving old false
    have hsound := (World.setAreaVisible_objects (w := leaving) hs old false).1
    refine yields_next (yields_hook hrun (fun events => ?_) old _ pc)
    exact ⟨hsound, hdark, hstill.pcArea?⟩

theorem lit_enterArea (hrun : run.Aloof) (hs : s.world.registry.Sound) (hw : s.world.Darkened)
    (pc : Handle) {new : Option Handle} (hnoted : s.world.currentArea = new)
    (hplace : s.world.pcArea? = new) : Yields (enterArea run pc new) s Lit := by
  unfold enterArea
  cases new with
  | none => exact yields_pure () (hw.lit_of_none hs hnoted hplace)
  | some new =>
    let arriving : World := { s.world with entering := pc }
    have hlit : (arriving.setAreaVisible new true).Lit :=
      Darkened.lit (w := arriving) hw hs hnoted hplace
    refine yields_next (yields_bind (lit_runHook hrun hlit new _ pc) ?_)
    exact fun _ _ hlit => yields_change (hlit.aside rfl rfl)

theorem lit_movedPc (hrun : run.Aloof) (hs : s.world.registry.Sound) (hw : s.world.Arriving) :
    Yields (movedPc run) s Lit := by
  unfold movedPc
  refine yields_world ?_
  split
  · rename_i hnone
    refine yields_pure () (hw.lit fun o _ hpc => ?_)
    rw [hnone] at hpc
    cases hpc
  · rename_i pc _
    simp only
    split
    · rename_i hsame
      refine yields_pure () (hw.lit fun o ho hpc => ?_)
      rw [← hsame, World.pcArea?_of_mem hs ho hpc]
    · refine yields_bind (darkened_leaveArea hrun hs hw pc) ?_
      rintro _ s₁ ⟨hs₁, hdark, hplace⟩
      let noted : World := { s₁.world with currentArea := s.world.pcArea? }
      exact yields_next
        (lit_enterArea (s := { s₁ with world := noted }) hrun hs₁ hdark pc rfl hplace)

/-! ### Relocations -/

theorem lit_jumpTo (hrun : run.Aloof) (hl : Linked s.world) (ht : s.world.Tracks)
    (hw : s.world.Lit) (h area : Handle) (position : Vec3) :
    Yields (jumpTo run h area position) s Lit := by
  unfold jumpTo
  refine yields_world ?_
  split
  · exact yields_pure false hw
  · rename_i current hjump
    obtain ⟨harriving, hlit⟩ := World.lit_relocate hw hl ht position hjump
    have hs := World.sound_relocate hl.sound h current area position
    refine yields_next ?_
    split
    · exact yields_bind (lit_movedPc hrun hs harriving) fun _ _ h => yields_pure true h
    · rename_i hother
      exact yields_pure true (hlit hother)

theorem lit_movePc (hrun : run.Aloof) (hl : Linked s.world) (ht : s.world.Tracks)
    (hw : s.world.Lit) (area : String) (position : Vec3) :
    Yields (movePc run area position) s Lit := by
  unfold movePc
  refine yields_world ?_
  split
  · exact yields_pure _ hw
  · split
    · exact yields_pure _ hw
    · refine yields_bind (lit_jumpTo hrun hl ht hw _ _ position) fun jumped _ h => ?_
      cases jumped <;> exact yields_pure _ h

theorem lit_enter (hrun : run.Aloof) (hl : Linked s.world) (ht : s.world.Tracks)
    (hw : s.world.Lit) : Yields (enter run) s Lit := by
  unfold enter
  refine yields_act ?_
  have harriving := World.arriving_placeAtEntry hw hl ht
  have hs := hl.placeAtEntry.sound
  rcases s.world.placeAtEntry_cases with ⟨e, hfail⟩ | ⟨pc, m, area, -, -, -, hplaced⟩
  · rw [hfail]
    exact yields_pure _ hw
  · rw [hplaced] at harriving hs ⊢
    refine yields_bind (lit_movedPc hrun hs harriving) fun _ _ hw => yields_world ?_
    refine yields_bind (lit_runHook hrun hw _ _ pc) fun _ _ hw => ?_
    exact yields_next (yields_pure _ (hw.aside rfl rfl))

/-! ### Delayed actions -/

/-- No action in the list destroys the player's creature. -/
def Spares (pc : Option Handle) (actions : List Action) : Prop :=
  ∀ a ∈ actions, a.work = .destroy → pc ≠ some a.owner

/-- The player's creature stays where it is, and the world is lit. -/
structure StaysLit (w w' : World) : Prop where
  still : Still (fun _ => True) w w'
  linked : Linked w'
  lit : w'.Lit

theorem StaysLit.trans {a b c : World} (hab : StaysLit a b) (hbc : StaysLit b c) : StaysLit a c :=
  ⟨hab.still.trans hbc.still, hbc.linked, hbc.lit⟩

theorem lit_carryOut (hrun : run.Aloof) (a : Action)
    (hspared : a.work = .destroy → s.world.pc ≠ some a.owner) (hl : Linked s.world)
    (hw : s.world.Lit) : Yields (carryOut run a) s (StaysLit s.world) := by
  unfold carryOut
  refine yields_world ?_
  split
  · cases hwork : a.work with
    | script name state =>
      have hstays : ∀ events, StaysLit s.world { s.world with events } := fun _ =>
        ⟨.aside rfl rfl rfl, hl.congr rfl rfl rfl rfl, hw.aside rfl rfl⟩
      exact yields_bind (yields_aloof hrun hstays _) fun _ _ h => yields_pure true h
    | destroy =>
      refine yields_act (yields_pure true ?_)
      exact ⟨.destroyObject s.world (hspared hwork), hl.destroyObject a.owner,
        World.lit_destroyObject hw hl a.owner⟩
  · exact yields_pure false ⟨.refl s.world, hl, hw⟩

theorem lit_carryOutAll (hrun : run.Aloof) (actions : List Action)
    (hspared : Spares s.world.pc actions) (hl : Linked s.world) (hw : s.world.Lit) :
    Yields (carryOutAll run actions) s (StaysLit s.world) := by
  induction actions generalizing s with
  | nil => exact yields_pure 0 ⟨.refl s.world, hl, hw⟩
  | cons a rest ih =>
    refine yields_bind (lit_carryOut hrun a (hspared a List.mem_cons_self) hl hw) ?_
    intro _ s₁ hfirst
    have hrest : Spares s₁.world.pc rest := by
      rw [hfirst.still.pc]
      exact fun b hb => hspared b (List.mem_cons_of_mem a hb)
    refine yields_bind (ih hrest hfirst.linked hfirst.lit) ?_
    exact fun _ _ hthen => yields_pure _ (hfirst.trans hthen)

theorem lit_processActions (hrun : run.Aloof)
    (hspared : Spares s.world.pc (s.world.queue.drainDue s.world.clock).1) (hl : Linked s.world)
    (hw : s.world.Lit) : Yields (processActions run) s (StaysLit s.world) := by
  unfold processActions
  refine yields_act ?_
  let drained : World :=
    { s.world with queue := (s.world.queue.drainDue s.world.clock).2 }
  have hdrained : StaysLit s.world drained :=
    ⟨.aside rfl rfl rfl, hl.congr rfl rfl rfl rfl, hw.aside rfl rfl⟩
  have hall := lit_carryOutAll (s := { s with world := drained }) hrun _ hspared hdrained.linked
    hdrained.lit
  exact hall.mono fun _ h => hdrained.trans h

end Play

/-! ### The operations of a module -/

namespace Operation

open Play (Yields Spares)

/-- The operation is one of a module itself. It puts no other creature in the place of the player's
and destroys another object if any. -/
def Sparing (w : World) : Operation → Prop
  | stop _ | call _ _ _ _ | usePc _ => False
  | loadPc _ => w.pc = none
  | destroyObject h => w.pc ≠ some h
  | processActions => Spares w.pc (w.queue.drainDue w.clock).1
  | _ => True

theorem Sparing.managed {op : Operation} (h : op.Sparing s.world) : op.Managed := by
  cases op <;> trivial

theorem Sparing.inPlace (hrun : run.Aloof) {op : Operation} (h : op.Sparing s.world)
    (hl : Linked s.world) (hw : s.world.Lit)
    (hlimit : ((op.play run).after s).world.registry.issued < limit) (hd : op.Displaces) :
    ((op.play run).after s).world.pcArea? = s.world.pcArea? := by
  cases op with
  | loadPc r =>
    have hnone : s.world.pcArea? = none := by
      unfold World.pcArea?
      rw [show s.world.pc = none from h]
      rfl
    exact (World.loadPc_pcArea? hl.sound r hlimit h).trans hnone.symm
  | destroyObject gone =>
    have hstill : Still (fun _ => True) s.world (s.world.destroyObject gone).2 :=
      .destroyObject s.world h
    exact hstill.pcArea?
  | processActions =>
    obtain ⟨-, -, hstays⟩ := Play.lit_processActions hrun h hl hw
    exact hstays.still.pcArea?
  | usePc chosen => exact h.elim
  | _ => exact hd.elim

theorem Sparing.lit (hrun : run.Aloof) {op : Operation} (h : op.Sparing s.world)
    (hl : Linked s.world) (ht : s.world.Tracks)
    (hlimit : ((op.play run).after s).world.registry.issued < limit) (hw : s.world.Lit) :
    Yields (op.play run) s Lit := by
  cases op with
  | stop p => exact h.elim
  | call t f args site => exact h.elim
  | usePc chosen => exact h.elim
  | loadModule name => exact ⟨_, rfl, World.lit_loadModule hw hl ht name hlimit⟩
  | loadArea resref => exact ⟨_, rfl, World.lit_loadArea hw hl ht resref hlimit⟩
  | unloadArea area => exact ⟨_, rfl, World.lit_unloadArea hw hl.sound area⟩
  | unload => exact ⟨_, rfl, World.lit_unload s.world⟩
  | loadPc r => exact ⟨_, rfl, World.lit_loadPc hw hl.sound r hlimit h⟩
  | enter => exact Play.lit_enter hrun hl ht hw
  | movePc area position => exact Play.lit_movePc hrun hl ht hw area position
  | movedPc => exact Play.lit_movedPc hrun hl.sound hw.arriving
  | jumpTo moved area position => exact Play.lit_jumpTo hrun hl ht hw moved area position
  | createObject t template place tag =>
    exact ⟨_, rfl, World.lit_createObject hw hl t template place tag hlimit⟩
  | destroyObject gone => exact ⟨_, rfl, World.lit_destroyObject hw hl gone⟩
  | startConversation dialog pc object => exact ⟨_, rfl, hw.startConversation hl dialog pc object⟩
  | endConversation => exact ⟨_, rfl, hw.endConversation hl.sound⟩
  | processActions =>
    exact (Play.lit_processActions hrun h hl hw).mono fun _ hstays => hstays.lit
  | runScript r => exact Play.lit_runScript hrun hw r
  | runHook hooked event triggerer => exact Play.lit_runHook hrun hw hooked event triggerer
  | firstInArea caller area => exact ⟨_, rfl, hw.firstInArea caller area⟩
  | nextInArea caller area => exact ⟨_, rfl, hw.nextInArea caller area⟩
  | delayScript script state owner triggerer ms => exact ⟨_, rfl, hw.aside rfl rfl⟩
  | delayDestroy owner ms => exact ⟨_, rfl, hw.aside rfl rfl⟩
  | setToken n text => exact ⟨_, rfl, hw.aside rfl rfl⟩
  | seed n => exact ⟨_, rfl, hw.aside rfl rfl⟩
  | setClock now => exact ⟨_, rfl, hw.aside rfl rfl⟩
  | advance ms => exact ⟨_, rfl, hw.aside rfl rfl⟩

end Operation

namespace Session

/-- Operations of a module have led here from a fresh session, and none of them has destroyed the
player's creature or put another one in its place. -/
inductive Spared (run : Runner σ) : Session σ → Prop where
  | fresh (library : Library) (models : ModelSource) (clock seed : UInt64) (host : σ) :
    Spared run (.fresh library models clock seed host)
  | operation {s : Session σ} (before : Spared run s) (op : Operation)
    (sparing : op.Sparing s.world) : Spared run ((op.play run).after s)

theorem Spared.lit (hrun : run.Aloof) (h : s.Spared run)
    (hlimit : s.world.registry.issued < limit) : s.Undisplaced run ∧ s.world.Lit := by
  induction h with
  | fresh library models clock seed host =>
    exact ⟨.fresh library models clock seed host, fun o ho => (nomatch ho)⟩
  | @operation s before op sparing ih =>
    have hmoves := op.moves hrun.moves s
    have hbefore := hmoves.follows.issued.trans_lt hlimit
    obtain ⟨hundisplaced, hlit⟩ := ih hbefore
    have hl := hundisplaced.linked hrun hbefore
    have ht := hundisplaced.tracks hrun hbefore
    obtain ⟨-, -, hlit'⟩ := sparing.lit hrun hl ht hlimit hlit
    exact ⟨.operation hundisplaced op sparing.managed (sparing.inPlace hrun hl hlit hlimit), hlit'⟩

end Session

/-- As long as the player's creature has only been moved, the area that is noted is the one it is
in. Of all live objects, exactly those in that area are shown: creatures, doors and placeables that
have a model by it, and waypoints by their note if they have one and it is enabled. -/
theorem shown_where_noted (hrun : run.Aloof) (hs : s.Spared run)
    (hlimit : s.world.registry.issued < limit) :
    (∀ a, s.world.currentArea = some a ↔
      ∃ p o, s.world.pc = some p ∧ s.world.get? p = some o ∧ o.area = some a) ∧
    ∀ h o, s.world.get? h = some o →
      ((o.kind = .creature ∨ o.kind = .door ∨ o.kind = .placeable) → o.model.isSome = true →
        (o.isVisible = true ↔ ∃ a, s.world.currentArea = some a ∧ o.area = some a)) ∧
      ∀ w, o.waypoint? = some w → (w.noteShown = true ↔
        (∃ a, s.world.currentArea = some a ∧ o.area = some a) ∧ w.hasMapNote = true ∧
          w.noteEnabled = true) := by
  obtain ⟨hundisplaced, hlit⟩ := hs.lit hrun hlimit
  refine ⟨(World.tracks_iff s.world).1 (hundisplaced.tracks hrun hlimit), ?_⟩
  intro h o ho
  have hshows := hlit o (World.mem_of_get? ho)
  exact ⟨hshows.isVisible, fun w hw => hshows.noteShown hw⟩

/-! ### Two watched areas -/

/-- A module in which every area has a guard. -/
def watched : Library :=
  let text (kind : ResourceKind) (_ : String) : Option String :=
    if kind = .ifo then some "\x7b\"Mod_Entry_Area\": \"yard\"\x7d"
    else if kind = .are then some "\x7b\x7d"
    else if kind = .git then some "\x7b\"Creature List\": [\x7b\"Appearance_Type\": 0\x7d]\x7d"
    else none
  ⟨.ofTexts text fun _ _ => some [("RACE", .string "guard")], .empty⟩

/-- The player's creature has entered the yard and gone into the hall. -/
def visiting : List Operation := [.loadModule "castle", .loadArea "hall",
  .loadPc [("Appearance_Type", .int 0)], .enter, .movePc "hall" .zero]

def visit : Session Unit :=
  visiting.foldl (fun s op => (op.play .idle).after s) (.fresh watched .plain 0 0 ())

theorem visit_spared : visit.Spared .idle := by
  have hfresh : Session.Spared .idle (.fresh watched .plain 0 0 ()) := .fresh _ _ _ _ _
  have hcastle := hfresh.operation (.loadModule "castle") trivial
  have hhall := hcastle.operation (.loadArea "hall") trivial
  have hready := hhall.operation (.loadPc [("Appearance_Type", .int 0)]) (by
    show _ = none
    decide +kernel)
  exact (hready.operation .enter trivial).operation (.movePc "hall" .zero) trivial

/-- The guard of the hall is shown, and the guard of the yard is not shown any more. -/
theorem visit_shown : ∃ yard hall, visit.world.get? ⟨3⟩ = some yard ∧
    visit.world.get? ⟨5⟩ = some hall ∧ yard.isVisible = false ∧ hall.isVisible = true := by
  have hplay : visit.world.registry.issued < limit ∧ visit.world.currentArea = some ⟨4⟩ ∧
      (visit.world.get? ⟨3⟩).map (fun o => (o.kind, o.model.isSome, o.area)) =
        some (.creature, true, some ⟨2⟩) ∧
      (visit.world.get? ⟨5⟩).map (fun o => (o.kind, o.model.isSome, o.area)) =
        some (.creature, true, some ⟨4⟩) := by decide +kernel
  obtain ⟨hlimit, hcurrent, hyard, hhall⟩ := hplay
  obtain ⟨yard, hyard, hyardFacts⟩ := Option.map_eq_some_iff.1 hyard
  obtain ⟨hall, hhall, hhallFacts⟩ := Option.map_eq_some_iff.1 hhall
  simp only [Prod.mk.injEq] at hyardFacts hhallFacts
  obtain ⟨hyardKind, hyardModel, hyardArea⟩ := hyardFacts
  obtain ⟨hhallKind, hhallModel, hhallArea⟩ := hhallFacts
  obtain ⟨-, hshown⟩ := shown_where_noted aloof_idle visit_spared hlimit
  have hyardShown := (hshown ⟨3⟩ yard hyard).1 (Or.inl hyardKind) hyardModel
  have hhallShown := (hshown ⟨5⟩ hall hhall).1 (Or.inl hhallKind) hhallModel
  refine ⟨yard, hall, hyard, hhall, Bool.eq_false_iff.2 fun hvisible => ?_, ?_⟩
  · obtain ⟨a, ha, harea⟩ := hyardShown.1 hvisible
    rw [hcurrent] at ha
    rw [hyardArea, ← ha] at harea
    revert harea
    decide
  · exact hhallShown.2 ⟨⟨4⟩, hcurrent, hhallArea⟩

/-! ### When the handles are used up -/

/-- A library in which every area, creature and waypoint has an empty record. -/
def bare : Library :=
  let text (kind : ResourceKind) (_ : String) : Option String :=
    if kind = .are ∨ kind = .utc ∨ kind = .utw then some "{}" else none
  ⟨.ofTexts text fun _ _ => none, .empty⟩

/-- The player's creature has not entered the field. -/
def awaiting : Session Unit :=
  [Operation.loadArea "field", .loadPc [("Appearance_Type", .int 0)]].foldl
    (fun s op => (op.play .idle).after s) (.fresh bare .plain 0 0 ())

/-- Creates an object of a type in the field. A creature is not built for want of an appearance, but
its handle is given out. -/
def inField (bits : UInt32) : Operation := .createObject ⟨bits⟩ "post" ⟨some ⟨1⟩, .zero, 0⟩ ""

theorem awaiting_spared (n : Nat) : Session.Spared .idle { awaiting with
    world := awaiting.world.setRegistry
      { awaiting.world.registry with issued := awaiting.world.registry.issued + n } } := by
  induction n with
  | zero =>
    have hfresh : Session.Spared .idle (.fresh bare .plain 0 0 ()) := .fresh _ _ _ _ _
    have hfield := hfresh.operation (.loadArea "field") trivial
    exact hfield.operation (.loadPc [("Appearance_Type", .int 0)]) (by
      show _ = none
      decide +kernel)
  | succ n ih => exact ih.operation (inField 1) trivial

/-- The bound is needed: when the handles come round again, a waypoint in the field gets the one of
the player's creature and takes its place, and no area is noted. This rests on the count going
round; with overflow checks the waypoint is not made. -/
theorem astray_past_limit : ∃ s : Session Unit, s.Spared .idle ∧ s.world.currentArea = none ∧
    s.world.pc = some ⟨2⟩ ∧ (s.world.get? ⟨2⟩).map Object.area = some (some ⟨1⟩) := by
  refine ⟨_, (awaiting_spared 4294967295).operation (inField 32) trivial, ?_⟩
  decide +kernel

end Adventure

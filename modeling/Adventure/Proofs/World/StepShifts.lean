import Adventure.Proofs.World.Shifts

/-!
# Steps as shifts

Every step of a world shifts its scene, and `Takes` says what goes by it. A side of the conversation
goes without ending it in three of them only: when an area is unloaded, and when another creature
becomes the player's, be it built for that or not. `Disrupts` is such a step.
-/

namespace Adventure.World

open Object (Abides listing unlisting alike_hide alike_setPosition alike_setFacing alike_reveal
  abides_mapCreature area?_isSome ne_of_isGameObject built_load)
open Registry (limit handleOf)

variable {P : Mark → Prop} {w w' : World}

/-! ### The player's creature -/

theorem usePc_creature {h : Handle} (hcreature : w.isCreature h = true) :
    (w.usePc h).1 = .ok () ∧
      (w.usePc h).2.scene = { ((w.flag h).vacate h).scene with pc := some h } := by
  rcases w.usePc_cases h with ⟨hnot, -⟩ | ⟨o, -, -, hused⟩
  · rw [hnot] at hcreature
    cases hcreature
  · rw [hused]
    exact ⟨rfl, rfl⟩

theorem usePc_other {h : Handle} (hcreature : w.isCreature h = false) : (w.usePc h).2 = w := by
  rcases w.usePc_cases h with ⟨-, hrefused⟩ | ⟨o, hlive, hkind, -⟩
  · rw [hrefused]
  · unfold isCreature at hcreature
    rw [hlive, Option.any_some, hkind] at hcreature
    cases hcreature

theorem shifts_vacate (h : Handle)
    (hP : ∀ old, w.pc = some old → old ≠ h → P (.left old (w.inConversation old))) :
    Shifts P w.scene (w.vacate h).scene := by
  unfold vacate
  cases hpc : w.pc with
  | none => exact .refl
  | some old =>
    by_cases hsame : old = h
    · simp only [if_pos hsame]
      exact .refl
    · simp only [if_neg hsame]
      exact shifts_unregister old (hP old hpc hsame) rfl (if_pos hpc).symm rfl

theorem vacate_pc {h p : Handle} (hp : (w.vacate h).pc = some p) : p = h := by
  unfold vacate at hp
  split at hp
  · rename_i old hold
    split at hp
    · rename_i hsame
      rw [hold, Option.some_inj] at hp
      exact hp ▸ hsame
    · cases hp
  · rename_i hnone
    rw [hnone] at hp
    cases hp

theorem shifts_usePc (calm : P .calm) (hs : w.registry.Sound) (h : Handle)
    (hP : ∀ old, w.pc = some old → old ≠ h → w.isCreature h = true →
      P (.left old (w.inConversation old))) :
    Shifts P w.scene (w.usePc h).2.scene := by
  cases hcreature : w.isCreature h with
  | false => rw [usePc_other hcreature]
  | true =>
    have hflagged : Shifts P w.scene (w.flag h).scene :=
      shifts_update calm hs h abides_mapCreature fun o _ => Object.mapCreature_area o _
    have hvacated : Shifts P (w.flag h).scene ((w.flag h).vacate h).scene :=
      shifts_vacate h fun old hold hne => hP old hold hne hcreature
    have hchosen := Shift.chosen (s := ((w.flag h).vacate h).scene) h fun _ => vacate_pc
    rw [(usePc_creature hcreature).2]
    exact (hflagged.trans hvacated).trans (Shifts.shift calm hchosen)

theorem loadPc_built (hs : w.registry.Sound) (r : Record)
    (hlimit : (w.loadPc r).2.registry.issued < limit) :
    (∃ e, w.loadPc r = (.error e, w.setRegistry w.registry.issue.2)) ∨
      ∃ o models, Object.Built (.blank (handleOf (w.registry.issued + 1)) (.creature .blank)) o ∧
        w.registry.issued + 1 < limit ∧ (w.withBuilt o models).registry.Sound ∧
        (w.withBuilt o models).registry.objects = w.registry.objects ++ [o] ∧
        (w.withBuilt o models).isCreature o.id = true ∧
        w.loadPc r = (.ok o.id, ((w.withBuilt o models).usePc o.id).2) := by
  rcases w.loadPc_cases r with hfailed | ⟨o, models, hload, hloaded⟩
  · exact Or.inl hfailed
  · rw [hloaded] at hlimit
    have hnext := (follows_usePc _ _).issued.trans_lt hlimit
    rw [withBuilt_issued] at hnext
    have hbuilt := built_load hload
    have hid : o.id = handleOf (w.registry.issued + 1) := hbuilt.id
    rw [← hid] at hloaded
    obtain ⟨hsound, hobjects⟩ := Linked.register_newest hs w.registry.issue.2 rfl rfl rfl hnext hid
    generalize hu : w.withBuilt o models = u at hloaded
    have hsound : u.registry.Sound := hu ▸ hsound
    have hobjects : u.registry.objects = w.registry.objects ++ [o] := hu ▸ hobjects
    have hcreature : u.isCreature o.id = true := by
      have hlive : u.get? o.id = some o := by
        refine hsound.indexed.get?_eq_some.2 ⟨?_, rfl⟩
        rw [hobjects]
        exact List.mem_append_right _ List.mem_cons_self
      unfold isCreature
      rw [hlive, Option.any_some, Object.creature?_isSome]
      exact hbuilt.kind
    rw [(usePc_creature hcreature).1] at hloaded
    exact Or.inr ⟨o, models, hbuilt, hnext, hu ▸ hsound, hu ▸ hobjects, hu ▸ hcreature, hu ▸ hloaded⟩

theorem shifts_loadPc (calm : P .calm) (hl : Linked w) (r : Record)
    (hlimit : (w.loadPc r).2.registry.issued < limit)
    (hP : ∀ old h, w.pc = some old → (w.loadPc r).1 = .ok h → P (.left old (w.inConversation old))) :
    Shifts P w.scene (w.loadPc r).2.scene := by
  rcases loadPc_built hl.sound r hlimit with
    ⟨e, hfailed⟩ | ⟨o, models, hbuilt, hnext, hs, -, -, hloaded⟩
  · rw [hfailed]
    exact shifts_issued calm rfl (Nat.le_succ _) rfl rfl
  · have hplain : o.area? = none := by
      have hkind : o.kind = .creature := hbuilt.kind
      rw [← Option.not_isSome_iff_eq_none, area?_isSome, hkind]
      exact ObjectKind.noConfusion
    have hcame : Shifts P w.scene (w.withBuilt o models).scene :=
      shifts_newest calm hl rfl rfl rfl hbuilt.id hnext hbuilt.pcSpeaker hbuilt.area hplain
    rw [hloaded] at hP ⊢
    exact hcame.trans (shifts_usePc calm hs o.id fun old hold _ _ => hP old o.id hold rfl)

theorem usePc_gone {h old : Handle} (hcreature : w.isCreature h = true) (hbefore : w.pc = some old)
    (hother : old ≠ h) : ∀ o ∈ (w.usePc h).2.registry.objects, o.id ≠ old := by
  intro o ho
  have hobjects := congrArg Scene.objects (usePc_creature hcreature).2
  rw [show (w.usePc h).2.registry.objects = _ from hobjects] at ho
  unfold vacate at ho
  simp only [show (w.flag h).pc = some old from hbefore, if_neg hother] at ho
  exact (Registry.mem_unregister.1 ho).2

theorem loadPc_gone (hl : Linked w) {r : Record} {h old : Handle}
    (hlimit : (w.loadPc r).2.registry.issued < limit) (hbuilt : (w.loadPc r).1 = .ok h)
    (hbefore : w.pc = some old) :
    ∀ o ∈ (w.loadPc r).2.registry.objects, o.id ≠ old := by
  rcases loadPc_built hl.sound r hlimit with
    ⟨e, hfailed⟩ | ⟨o, models, hnew, hnext, -, -, hcreature, hloaded⟩
  · rw [hfailed] at hbuilt
    cases hbuilt
  · rw [hloaded]
    refine usePc_gone hcreature hbefore ?_
    rw [hnew.id]
    exact (hl.pcIssued.ne_next hnext hbefore).symm

theorem shifts_placeAtEntry (calm : P .calm) (hs : w.registry.Sound) :
    Shifts P w.scene w.placeAtEntry.2.scene := by
  rcases w.placeAtEntry_cases with ⟨e, hfailed⟩ | ⟨pc, m, area, hpc, -, -, hplaced⟩
  · rw [hfailed]
  · rw [hplaced]
    refine shifts_update calm hs pc (fun o => ?_) fun _ hne => absurd hpc hne
    exact (Abides.place o _).trans
      ((Abides.of_alike (alike_setPosition _ _)).trans (.of_alike (alike_setFacing _ _)))

/-! ### Moving -/

theorem abides_transfer (hides shows : Prop) [Decidable hides] [Decidable shows] (area : Handle)
    (o : Object) : Abides o (transfer hides shows area o) := by
  have hhide : Abides o (if hides then o.hide else o) := by
    split
    · exact .of_alike (alike_hide o)
    · exact .refl o
  have hplace := hhide.trans (.place _ (some area))
  unfold transfer
  simp only
  split
  · exact hplace.trans (.of_alike (alike_reveal _))
  · exact hplace

theorem Linked.area_of_canJump (hl : Linked w) {h area current : Handle}
    (hjump : w.canJump h area = some current) :
    h ∈ w.registry.ids ∧ ∀ o ∈ w.registry.objects, o.id = h → o.area = some current := by
  obtain ⟨o, hlive, harea, -⟩ := Linked.canJump_eq_some.1 hjump
  obtain ⟨ho, hid⟩ := hl.sound.indexed.get?_eq_some.1 hlive
  refine ⟨hid ▸ List.mem_map_of_mem ho, fun a ha haid => ?_⟩
  rw [hl.same ha ho (haid.trans hid.symm)]
  exact harea

theorem sound_mapArea (hs : w.registry.Sound) (h : Handle) {f : Area → Area}
    (hf : ∀ a, (f a).resref = a.resref) : (w.update h fun o => o.mapArea f).registry.Sound :=
  hs.update h _ fun o => ⟨(Object.kin_mapArea o hf).id, (Object.kin_mapArea o hf).tag⟩

theorem sound_transfer (hs : w.registry.Sound) (h : Handle) (hides shows : Prop) [Decidable hides]
    [Decidable shows] (area : Handle) : (w.update h (transfer hides shows area)).registry.Sound :=
  hs.update h _ fun o =>
    ⟨(kin_transfer hides shows area o).id, (kin_transfer hides shows area o).tag⟩

theorem sound_changeLists (hs : w.registry.Sound) (h old new : Handle) :
    (w.changeLists h old new).registry.Sound :=
  sound_mapArea (sound_mapArea hs old fun a => Object.resref_removeObject a h) new
    fun a => Object.resref_addObject a h

theorem sound_changeArea (hs : w.registry.Sound) (h current area : Handle) :
    (w.changeArea h current area).registry.Sound := by
  have hmoved := sound_transfer hs h (w.pcArea? = some current) (w.pcArea? = some area) area
  rw [changeArea_eq]
  simp only
  split
  · exact hmoved
  · exact sound_changeLists hmoved h current area

theorem scene_changeLists (hs : w.registry.Sound) (h old new : Handle) :
    (w.changeLists h old new).scene = { w.scene with
      objects := (w.scene.objects.map (unlisting old h)).map (listing new h) } := by
  have hremoved := sound_mapArea hs old fun a => Object.resref_removeObject a h
  unfold changeLists
  rw [scene_update hremoved, scene_update hs]
  rfl

theorem shifts_changeArea (calm : P .calm) (hl : Linked w) {h current area : Handle}
    (hjump : w.canJump h area = some current) :
    Shifts P w.scene (w.changeArea h current area).scene := by
  let hides := w.pcArea? = some current
  let shows := w.pcArea? = some area
  rw [changeArea_eq]
  simp only
  split
  · rename_i hpc
    exact shifts_update calm hl.sound h (abides_transfer hides shows area)
      fun _ hne => absurd hpc hne
  · obtain ⟨hlive, hleaves⟩ := hl.area_of_canJump hjump
    rw [scene_changeLists (sound_transfer hl.sound h hides shows area), scene_update hl.sound]
    exact .shift calm (.moved h current area _ (abides_transfer hides shows area)
      (fun o => (kin_transfer hides shows area o).area) hleaves (hl.sound.given h hlive).2
      (List.mem_map.1 hlive))

theorem shifts_relocate (calm : P .calm) (hl : Linked w) {h current area : Handle}
    (position : Vec3) (hjump : w.canJump h area = some current) :
    Shifts P w.scene (w.relocate h current area position).scene := by
  have hposed : ∀ u : World, u.registry.Sound →
      Shifts P u.scene (u.update h fun o => o.setPosition position).scene := fun u hs =>
    shifts_update calm hs h (fun o => .of_alike (alike_setPosition o position)) fun _ _ => rfl
  unfold relocate
  split
  · exact hposed w hl.sound
  · have hs := sound_changeArea hl.sound h current area
    exact (shifts_changeArea calm hl hjump).trans (hposed _ hs)

/-! ### Creating and destroying -/

theorem scene_addObject (hl : Linked w) {o : Object} (area : Handle) (models : Models)
    (hid : o.id = handleOf (w.registry.issued + 1)) (hlimit : w.registry.issued + 1 < limit) :
    ({ w with registry := w.registry.issue.2, models }.addObject o area).scene =
      { w.scene with
        objects := w.scene.objects.map (listing area o.id) ++ [o]
        issued := w.registry.issued + 1 } := by
  let listed := w.registry.issue.2.update area fun a => a.mapArea fun list => list.addObject o.id
  have hs : listed.Sound := by
    refine hl.sound.issue.update area _ fun a => ?_
    have hkin := Object.kin_mapArea a fun list => Object.resref_addObject list o.id
    exact ⟨hkin.id, hkin.tag⟩
  have hobjects : listed.objects = w.registry.objects.map (listing area o.id) :=
    Registry.update_objects hl.sound.issue.indexed.valid area _
  have hissued : listed.issued = w.registry.issued + 1 :=
    Registry.update_issued w.registry.issue.2 area _
  have hnumber := Registry.number_of_newest hid hlimit
  have hnewest : ∀ a ∈ listed.ids, Handle.Before a o.id := by
    intro a ha
    obtain ⟨b', hb', rfl⟩ := List.mem_map.1 ha
    rw [hobjects] at hb'
    obtain ⟨b, hb, rfl⟩ := List.mem_map.1 hb'
    have hle : b.id.number ≤ w.registry.issued := hl.known.ids b hb
    rw [Handle.Before, (Object.relisted_listing area o.id b).id, hnumber]
    omega
  obtain ⟨-, hfinal⟩ := hs.register (by omega) (by omega) (by omega) hnewest
  show Scene.mk (listed.register o).objects (listed.register o).issued w.pc w.conversation = _
  rw [hfinal, hobjects, Registry.register_issued, hissued]
  rfl

theorem shifts_createObject (calm : P .calm) (hl : Linked w) (t : ObjectType) (template : String)
    (place : Location) (tag : String)
    (hlimit : (w.createObject t template place tag).2.registry.issued < limit) :
    Shifts P w.scene (w.createObject t template place tag).2.scene := by
  rcases w.createObject_cases t template place tag with
    ⟨e, hfailed⟩ | ⟨e, hfailed⟩ | ⟨kind, area, _, o, models, -, -, hload, hcreated⟩
  · rw [hfailed]
  · rw [hfailed]
    exact shifts_issued calm rfl (Nat.le_succ _) rfl rfl
  · rw [hcreated] at hlimit ⊢
    rw [addObject_issued] at hlimit
    have hbuilt := built_load hload
    have hdressed := dressed template tag place area (w.currentArea = some area) o
    generalize dress template tag place area (w.currentArea = some area) o = o' at hdressed
    have hid : o'.id = handleOf (w.registry.issued + 1) := hdressed.id.trans hbuilt.id
    have hnumber := Registry.number_of_newest hid hlimit
    have hplain : o'.area? = none := by
      rw [← Option.not_isSome_iff_eq_none, area?_isSome, hdressed.kind, hbuilt.kind]
      refine (ne_of_isGameObject ?_).1
      show kind.blank.kind.isGameObject = true
      rw [Object.placedKind_blank, Object.placedKind_isGameObject]
    have hshift : Shift w.scene .calm _ := .created o' area (w.registry.issued + 1) hl.known
      ⟨show w.registry.issued < _ by omega, by omega⟩
      (hdressed.pcSpeaker.trans hbuilt.pcSpeaker) hdressed.area hplain
    rw [scene_addObject hl area models hid hlimit]
    exact .shift calm hshift

theorem shifts_parted (calm : P .calm) (hl : Linked w) (h : Handle) :
    Shifts P w.scene (w.parted h).scene ∧ (w.parted h).inConversation h = false := by
  rcases w.parted_cases h with ⟨hnot, hsame⟩ | ⟨-, hended⟩
  · rw [hsame]
    exact ⟨.refl, hnot⟩
  · rw [hended]
    refine ⟨shifts_endConversation calm hl, ?_⟩
    unfold inConversation
    rw [endConversation_conversation]
    rfl

theorem shifts_without (calm : P .calm) (hs : w.registry.Sound) (o : Object)
    (hP : P (.left o.id (w.inConversation o.id))) : Shifts P w.scene (w.without o.id o).scene := by
  let gone : World := { w with
    registry := (w.registry.unregister o.id).2
    pc := if w.pc = some o.id then none else w.pc }
  have hleft : Shifts P w.scene gone.scene := shifts_unregister o.id hP rfl rfl rfl
  refine hleft.trans ?_
  unfold without delist
  cases o.area with
  | none => exact .refl
  | some area =>
    have hdelisted : Shift gone.scene .calm _ := .delisted area o.id fun a ha =>
      (Registry.mem_unregister.1 (show a ∈ (w.registry.unregister o.id).2.objects from ha)).2
    have hs' : gone.registry.Sound := hs.unregister o.id
    refine Shifts.shift calm ?_
    show Shift gone.scene .calm
      (gone.update area fun a => a.mapArea fun list => list.removeObject o.id).scene
    rw [scene_update hs']
    exact hdelisted

theorem shifts_removeObject (calm : P .calm) (hl : Linked w) (h : Handle)
    (hP : P (.left h false)) :
    Shifts P w.scene (w.removeObject h).2.scene := by
  obtain ⟨hparted, hsilent⟩ := shifts_parted calm hl h
  rcases w.removeObject_cases h with ⟨-, hgone⟩ | ⟨o, hfound, hremoved⟩
  · rw [hgone]
    exact hparted
  · obtain ⟨-, rfl⟩ := (hl.parted h).sound.indexed.lookup_eq_some.1 hfound
    rw [hremoved]
    exact hparted.trans (shifts_without calm (hl.parted o.id).sound o (hsilent ▸ hP))

theorem shifts_destroyObject (calm : P .calm) (hl : Linked w) (h : Handle)
    (hP : P (.left h false)) :
    Shifts P w.scene (w.destroyObject h).2.scene := by
  rcases w.destroyObject_cases h with hrefused | ⟨o, -, -, hdestroyed⟩
  · rw [hrefused]
  · rw [hdestroyed]
    exact shifts_removeObject calm hl h hP

/-! ### Steps -/

/-- A step takes an object out of the world, and others may stay: it goes with an area, another
creature takes its place, or it is destroyed. The flag tells whether it is a side of the
conversation that runs on. -/
inductive Takes (w : World) (h : Handle) (side : Bool) : World → Prop where
  | unloadArea (area : Handle) (loaded : w.isArea area = true) (goes : w.goesWith area h)
    (talks : w.inConversation h = side) : Takes w h side (w.unloadArea area)
  | usePc (next : Handle) (creature : w.isCreature next = true) (before : w.pc = some h)
    (other : h ≠ next) (talks : w.inConversation h = side) : Takes w h side (w.usePc next).2
  | loadPc (r : Record) (next : Handle) (built : (w.loadPc r).1 = .ok next) (before : w.pc = some h)
    (talks : w.inConversation h = side) : Takes w h side (w.loadPc r).2
  | destroyObject (silent : side = false) : Takes w h side (w.destroyObject h).2

theorem Step.shifts_taking {k : Kind} (h : Step w k w') (hl : Linked w)
    (hlimit : w'.registry.issued < limit) :
    Shifts (fun m => ∀ a side, m = .left a side → w.Takes a side w') w.scene w'.scene := by
  have calm : ∀ a side, Mark.calm = .left a side → w.Takes a side w' := fun _ _ he => nomatch he
  have hleft : ∀ {a side}, w.Takes a side w' →
      ∀ b side', Mark.left a side = .left b side' → w.Takes b side' w' := by
    intro a side htakes b side' he
    cases he
    exact htakes
  cases h with
  | aside _ registry _ _ _ pc conversation _ =>
    rw [scene_congr registry pc conversation]
  | queued a => exact .refl
  | touch h f alike =>
    exact shifts_update calm hl.sound h (fun o => .of_alike (alike o))
      fun o _ => (alike o).kin.area
  | notice area => exact .refl
  | relocate h current area position jump => exact shifts_relocate calm hl position jump
  | createObject t template place tag =>
    exact shifts_createObject calm hl t template place tag hlimit
  | startConversation dialog pc object => exact shifts_startConversation calm hl dialog pc object
  | endConversation => exact shifts_endConversation calm hl
  | loadArea resref => exact shifts_loadArea calm hl resref hlimit
  | unloadArea area =>
    exact shifts_unloadArea calm hl area fun loaded h goes =>
      hleft (.unloadArea area loaded goes rfl)
  | loadModule name => exact shifts_loadModule calm hl name hlimit
  | unload => exact shifts_unload calm w
  | loadPc r =>
    exact shifts_loadPc calm hl r hlimit fun old h before built =>
      hleft (.loadPc r h built before rfl)
  | usePc h =>
    exact shifts_usePc calm hl.sound h fun old before other creature =>
      hleft (.usePc h creature before other rfl)
  | placeAtEntry => exact shifts_placeAtEntry calm hl.sound
  | destroyObject h => exact shifts_destroyObject calm hl h (hleft (.destroyObject rfl))
  | drained => exact .refl

/-- A step by which a side of the conversation goes and the conversation runs on: it goes with an
area, or it was the player's creature and another one has been chosen. -/
inductive Disrupts (w : World) : World → Prop where
  | unloadArea (area h : Handle) (loaded : w.isArea area = true) (goes : w.goesWith area h)
    (side : w.inConversation h = true) : Disrupts w (w.unloadArea area)
  | usePc (h old : Handle) (creature : w.isCreature h = true) (before : w.pc = some old)
    (other : old ≠ h) (side : w.inConversation old = true) : Disrupts w (w.usePc h).2
  | loadPc (r : Record) (h old : Handle) (built : (w.loadPc r).1 = .ok h) (before : w.pc = some old)
    (side : w.inConversation old = true) : Disrupts w (w.loadPc r).2

theorem Takes.disrupts {h : Handle} (ht : w.Takes h true w') : w.Disrupts w' := by
  cases ht with
  | unloadArea area loaded goes talks => exact .unloadArea area h loaded goes talks
  | usePc next creature before other talks => exact .usePc next h creature before other talks
  | loadPc r next built before talks => exact .loadPc r next h built before talks
  | destroyObject silent => cases silent

theorem Step.shifts {k : Kind} (h : Step w k w') (hl : Linked w)
    (hlimit : w'.registry.issued < limit) :
    Shifts (fun m => m.torn = true → w.Disrupts w') w.scene w'.scene := by
  refine (h.shifts_taking hl hlimit).mono fun m htakes htorn => ?_
  cases m with
  | calm => cases htorn
  | left a side =>
    have hside : side = true := htorn
    subst hside
    exact (htakes a true rfl).disrupts

theorem MovesBy.keeps {Q : Kind → Prop} {I : Scene → Prop}
    (hI : ∀ {a b m}, Shift a m b → I a → I b) (h : MovesBy Q w w') (hl : Linked w)
    (hlimit : w'.registry.issued < limit) (hw : I w.scene) : I w'.scene := by
  induction h with
  | refl => exact hw
  | tail hbefore hstep ih =>
    obtain ⟨k, -, hstep⟩ := hstep
    have hmid := hstep.follows.issued.trans_lt hlimit
    exact (hstep.shifts (MovesBy.linked hbefore hl hmid) hlimit).keeps hI (ih hmid)

/-! ### Disruptions -/

theorem not_mem_ids {h : Handle} (hgone : ∀ o ∈ w.registry.objects, o.id ≠ h) :
    h ∉ w.registry.ids := by
  intro hlive
  obtain ⟨o, ho, hid⟩ := List.mem_map.1 hlive
  exact hgone o ho hid

theorem evict_ids {h a : Handle} (ha : a ∈ (w.evict h).registry.ids) : a ∈ w.registry.ids := by
  unfold evict at ha
  split at ha
  · rwa [show (w.update h fun o => { o.hide with area := none }).registry.ids = w.registry.ids from
      Registry.update_ids w.registry h fun o => (alike_hide o).kin.id] at ha
  · rw [show (w.setRegistry (w.registry.unregister h).2).registry.ids = _ from
      Registry.unregister_ids w.registry h] at ha
    exact List.mem_of_mem_filter ha

theorem evictAll_ids {hs : List Handle} {a : Handle} (ha : a ∈ (hs.foldl evict w).registry.ids) :
    a ∈ w.registry.ids := by
  induction hs generalizing w with
  | nil => exact ha
  | cons h hs ih => exact evict_ids (ih ha)

theorem evictAll_gone {hs : List Handle} {h : Handle} (hh : h ∈ hs) (hpc : w.pc ≠ some h) :
    h ∉ (hs.foldl evict w).registry.ids := by
  induction hs generalizing w with
  | nil => cases hh
  | cons k hs ih =>
    rcases List.mem_cons.1 hh with rfl | hh
    · intro hlive
      have hfirst : h ∈ (w.evict h).registry.ids := evictAll_ids hlive
      unfold evict at hfirst
      rw [if_neg hpc, show (w.setRegistry (w.registry.unregister h).2).registry.ids = _ from
        Registry.unregister_ids w.registry h] at hfirst
      simp at hfirst
    · refine ih hh ?_
      rw [(Linked.evict_rest w k).2.2]
      exact hpc

theorem vacate_conversation (w : World) (h : Handle) :
    (w.vacate h).conversation = w.conversation := by
  unfold vacate
  split
  · split <;> rfl
  · rfl

theorem usePc_conversation (w : World) (h : Handle) :
    (w.usePc h).2.conversation = w.conversation := by
  rcases w.usePc_cases h with ⟨-, hrefused⟩ | ⟨o, -, -, hused⟩
  · rw [hrefused]
  · rw [hused]
    exact vacate_conversation (w.flag h) h

theorem loadPc_conversation (w : World) (r : Record) :
    (w.loadPc r).2.conversation = w.conversation := by
  rcases w.loadPc_cases r with ⟨e, hfailed⟩ | ⟨o, models, -, hloaded⟩
  · rw [hfailed]
    rfl
  · rw [hloaded]
    exact usePc_conversation _ _

namespace Disrupts

theorem step (h : w.Disrupts w') : ∃ k, Step w k w' := by
  cases h with
  | unloadArea area h loaded goes side => exact ⟨_, .unloadArea area⟩
  | usePc h old creature before other side => exact ⟨_, .usePc h⟩
  | loadPc r h old built before side => exact ⟨_, .loadPc r⟩

theorem conversation (h : w.Disrupts w') : w'.conversation = w.conversation := by
  cases h with
  | unloadArea area h loaded goes side => exact unloadArea_conversation w area
  | usePc h old creature before other side => exact usePc_conversation w h
  | loadPc r h old built before side => exact loadPc_conversation w r

theorem gone (h : w.Disrupts w') (hl : Linked w) (hlimit : w'.registry.issued < limit) :
    ∃ side, w.inConversation side = true ∧ side ∈ w.registry.ids ∧ side ∉ w'.registry.ids := by
  have hplayer : ∀ {old}, w.pc = some old → old ∈ w.registry.ids := by
    intro old before
    obtain ⟨o, ho, rfl, -⟩ := hl.player old before
    exact List.mem_map_of_mem ho
  cases h with
  | unloadArea area h loaded goes side =>
    obtain ⟨b, hb, hbid, -⟩ := (Linked.isArea_iff hl.sound area).1 loaded
    obtain ⟨noted, hclosed⟩ := w.unloadArea_loaded loaded
    rw [hclosed, closeArea_registry, Registry.unregister_ids]
    simp only [List.mem_filter, decide_eq_true_eq]
    rcases goes with rfl | ⟨hin, hpc⟩
    · exact ⟨h, side, hbid ▸ List.mem_map_of_mem hb, fun hlive => hlive.2 rfl⟩
    · obtain ⟨o, ho, -, hid⟩ := Linked.mem_inArea.1 hin
      exact ⟨h, side, hid ▸ List.mem_map_of_mem ho, fun hlive => evictAll_gone hin hpc hlive.1⟩
  | usePc h old creature before other side =>
    exact ⟨old, side, hplayer before, not_mem_ids (usePc_gone creature before other)⟩
  | loadPc r h old built before side =>
    exact ⟨old, side, hplayer before, not_mem_ids (loadPc_gone hl hlimit built before)⟩

end Disrupts

end Adventure.World

import Adventure.Proofs.World.StepShifts

/-!
# What can be seen in a world

A world is lit when every game object shows what it can show exactly if it is in the area that is
noted for the player's creature. The operations that bring objects in, move them and take them out
keep it lit, one by one, as long as they track the creature. When the creature itself is on its way
into another area, it is lit again once the old area has been hidden and the new one revealed.
-/

namespace Adventure.World

open Object (ShowsIf showsIf_reveal showsIf_of_not_shown not_shown_of_kind isShown_hide isShown_congr
  sight?_reveal sight?_mapArea sight?_mapCreature sight?_setPosition sight?_setFacing changed listing
  alike_hide alike_reveal relisted_listing)
open Registry (limit handleOf Sound)

variable {w w' : World}

/-- The object is in the area that is noted for the player's creature. -/
def inView (w : World) (o : Object) : Prop := ∃ a, w.currentArea = some a ∧ o.area = some a

def Lit (w : World) : Prop := ∀ o ∈ w.registry.objects, o.ShowsIf (w.inView o)

theorem inView_congr (hcurrent : w'.currentArea = w.currentArea) {o o' : Object}
    (harea : o'.area = o.area) : w'.inView o' ↔ w.inView o := by
  unfold inView
  rw [hcurrent, harea]

theorem inView_iff {a : Handle} (hcurrent : w.currentArea = some a) (o : Object) :
    w.inView o ↔ o.area = some a := by
  constructor
  · rintro ⟨b, hb, harea⟩
    rw [harea, ← hb, hcurrent]
  · exact fun harea => ⟨a, hcurrent, harea⟩

theorem inView_iff_noted {a : Handle} {o : Object} (harea : o.area = some a) :
    w.inView o ↔ w.currentArea = some a := by
  constructor
  · rintro ⟨b, hb, hob⟩
    rw [hb, ← hob, harea]
  · exact fun hcurrent => ⟨a, hcurrent, harea⟩

theorem not_inView (hcurrent : w.currentArea = none) (o : Object) : ¬w.inView o := by
  rintro ⟨a, ha, -⟩
  rw [hcurrent] at ha
  cases ha

theorem not_inView_of_none {o : Object} (h : o.area = none) : ¬w.inView o := by
  rintro ⟨a, -, ha⟩
  rw [h] at ha
  cases ha

namespace Lit

/-- Objects stay where they are and look the same, and what has come is not shown and in no area
that is noted. -/
theorem congr (hw : w.Lit) (hcurrent : w'.currentArea = w.currentArea)
    (each : ∀ o' ∈ w'.registry.objects,
      (∃ o ∈ w.registry.objects, o'.area = o.area ∧ o'.sight? = o.sight?) ∨
      o'.isShown = false ∧ ¬w'.inView o') : w'.Lit := by
  intro o' ho'
  rcases each o' ho' with ⟨o, ho, harea, hsight⟩ | ⟨hhidden, hview⟩
  · exact (hw o ho).congr hsight (inView_congr hcurrent harea)
  · exact showsIf_of_not_shown hhidden hview

theorem aside (hw : w.Lit) (hobjects : w'.registry.objects = w.registry.objects)
    (hcurrent : w'.currentArea = w.currentArea) : w'.Lit := by
  refine hw.congr hcurrent fun o ho => Or.inl ⟨o, ?_, rfl, rfl⟩
  rw [← hobjects]
  exact ho

theorem update (hw : w.Lit) (hs : w.registry.Sound) (h : Handle) {f : Object → Object}
    (harea : ∀ o, (f o).area = o.area) (hsight : ∀ o, (f o).sight? = o.sight?) :
    (w.update h f).Lit := by
  refine hw.congr rfl fun o' ho' => Or.inl ?_
  rw [objects_update hs] at ho'
  obtain ⟨o, ho, rfl⟩ := List.mem_map.1 ho'
  refine ⟨o, ho, ?_⟩
  unfold changed
  split
  · exact ⟨harea o, hsight o⟩
  · exact ⟨rfl, rfl⟩

/-! ### Conversations -/

theorem pcSpeaker (hw : w.Lit) (hs : w.registry.Sound) (h : Handle) (speaker : Option Handle) :
    (w.update h fun o => { o with pcSpeaker := speaker }).Lit :=
  hw.update hs h (fun _ => rfl) fun _ => rfl

theorem endConversation (hw : w.Lit) (hs : w.registry.Sound) : w.endConversation.Lit := by
  rcases w.endConversation_cases with ⟨-, hsame⟩ | ⟨c, -, hended⟩
  · rw [hsame]
    exact hw
  · have hquiet : Lit { w with conversation := none } := hw.aside rfl rfl
    rw [hended]
    exact (hquiet.pcSpeaker hs c.object none).aside rfl rfl

theorem startConversation (hw : w.Lit) (hl : Linked w) (dialog : String) (pc object : Handle) :
    (w.startConversation dialog pc object).2.Lit := by
  rcases w.startConversation_cases dialog pc object with hrefused | ⟨_, _, -, -, -, hstarted⟩
  · rw [hrefused]
    exact hw
  · have hended := hw.endConversation hl.sound
    rw [hstarted]
    exact (hended.pcSpeaker hl.endConversation.sound object (some pc)).aside rfl rfl

/-! ### Walks -/

theorem nextInArea (hw : w.Lit) (caller area : Handle) : (w.nextInArea caller area).2.Lit := by
  unfold World.nextInArea
  split
  · exact hw
  · exact hw.aside rfl rfl

theorem firstInArea (hw : w.Lit) (caller area : Handle) : (w.firstInArea caller area).2.Lit := by
  have hbegun : (w.setWalk caller area
      (.ofList ((w.registry.inArea area).filter fun h => w.pc ≠ some h))).Lit := hw.aside rfl rfl
  exact hbegun.nextInArea caller area

end Lit

/-! ### Loading -/

theorem Linked.noted_given (hl : Linked w) (ht : w.Tracks) {a : Handle}
    (ha : w.currentArea = some a) : a.number ≤ w.registry.issued := by
  obtain ⟨p, o, -, hlive, harea⟩ := ((tracks_iff w).1 ht a).1 ha
  exact hl.known.areas o (mem_of_get? hlive) a harea

theorem lit_addArea (hw : w.Lit) (hl : Linked w) (ht : w.Tracks) (resref : String) (are : Record)
    (hlimit : (w.addArea resref are).2.registry.issued < limit) :
    (w.addArea resref are).2.Lit := by
  have hadded := w.areaAdded resref are
  have hlist := w.newArea_area? resref are
  obtain ⟨-, hobjects⟩ := hadded.settled hl.sound hlimit
  rw [hadded.final_issued] at hlimit
  have hnumbered := hadded.numbered hlimit
  refine hw.congr rfl fun o ho => ?_
  rw [hobjects, List.mem_append, List.mem_cons] at ho
  rcases ho with ho | rfl | ho
  · exact Or.inl ⟨o, ho, rfl, rfl⟩
  · have hkind := (Object.area?_isSome (w.newArea resref are)).1 (by rw [hlist]; rfl)
    exact Or.inr ⟨not_shown_of_kind (Or.inl hkind), not_inView_of_none hadded.unplaced⟩
  · refine Or.inr ⟨(hadded.each o ho).hidden, ?_⟩
    -- The new area has a newer handle than the one that is noted.
    rintro ⟨a, hcurrent, harea⟩
    have hgiven := hl.noted_given ht hcurrent
    rw [(hadded.each o ho).area, Option.some_inj] at harea
    have hnew := (hnumbered.given _ List.mem_cons_self).1
    rw [hadded.id, harea] at hnew
    exact Nat.not_le_of_lt hnew hgiven

theorem lit_loadArea (hw : w.Lit) (hl : Linked w) (ht : w.Tracks) (resref : String)
    (hlimit : (w.loadArea resref).2.registry.issued < limit) : (w.loadArea resref).2.Lit := by
  rcases w.loadArea_cases resref with hsame | ⟨are, -, hadded⟩
  · rw [hsame]
    exact hw
  · rw [hadded] at hlimit ⊢
    exact lit_addArea hw hl ht resref are hlimit

theorem lit_loadAreas (hw : w.Lit) (hl : Linked w) (ht : w.Tracks) (areas : List String)
    (hlimit : (areas.foldl (fun w area => (w.loadArea area).2) w).registry.issued < limit) :
    (areas.foldl (fun w area => (w.loadArea area).2) w).Lit := by
  induction areas generalizing w with
  | nil => exact hw
  | cons area areas ih =>
    have hnext := (follows_foldl follows_loadArea areas (w.loadArea area).2).issued
    have hfirst := hnext.trans_lt hlimit
    exact ih (lit_loadArea hw hl ht area hfirst) (hl.loadArea area hfirst)
      (tracks_loadArea hl.pcIssued area hfirst ht) hlimit

theorem lit_unload (w : World) : w.unload.Lit := by
  intro o ho
  cases ho

/-! ### Unloading -/

theorem evict_cases (hs : w.registry.Sound) (h : Handle) {o' : Object}
    (ho' : o' ∈ (w.evict h).registry.objects) : o' ∈ w.registry.objects ∧ o'.id ≠ h ∨
      o'.area = none ∧ o'.isShown = false := by
  unfold evict at ho'
  split at ho'
  · rw [objects_update hs] at ho'
    obtain ⟨o, ho, rfl⟩ := List.mem_map.1 ho'
    unfold changed
    split
    · exact Or.inr ⟨rfl, isShown_hide o⟩
    · rename_i hne
      exact Or.inl ⟨ho, hne⟩
  · exact Or.inl (Registry.mem_unregister.1 ho')

theorem evictAll_cases (hs : w.registry.Sound) (l : List Handle) {o' : Object}
    (ho' : o' ∈ (l.foldl evict w).registry.objects) : o' ∈ w.registry.objects ∧ o'.id ∉ l ∨
      o'.area = none ∧ o'.isShown = false := by
  induction l generalizing w with
  | nil => exact Or.inl ⟨ho', by simp⟩
  | cons h l ih =>
    rcases ih (sound_evict hs h) ho' with ⟨hmem, hnot⟩ | hevicted
    · rcases evict_cases hs h hmem with ⟨hmem, hne⟩ | hevicted
      · exact Or.inl ⟨hmem, by rw [List.mem_cons, not_or]; exact ⟨hne, hnot⟩⟩
      · exact Or.inr hevicted
    · exact Or.inr hevicted

theorem lit_unloadArea (hw : w.Lit) (hs : w.registry.Sound) (area : Handle) :
    (w.unloadArea area).Lit := by
  rcases w.unloadArea_cases area with ⟨-, hsame⟩ | ⟨-, noted, hclosed⟩
  · rw [hsame]
    exact hw
  · have hcurrent : (w.unloadArea area).currentArea =
        if w.currentArea = some area then none else w.currentArea := by
      rw [← (evictAll_notes w (w.registry.inArea area)).2, hclosed]
      rfl
    intro o ho
    rw [hclosed, closeArea_registry, Registry.mem_unregister] at ho
    rcases evictAll_cases hs _ ho.1 with ⟨hmem, hnot⟩ | ⟨hnone, hhidden⟩
    · have hother : o.area ≠ some area := fun ha => hnot (Linked.mem_inArea.2 ⟨o, hmem, ha, rfl⟩)
      refine (hw o hmem).congr rfl ?_
      -- Nothing that is left was in the area, so it does not matter whether that was noted.
      by_cases hnoted : w.currentArea = some area
      · rw [if_pos hnoted] at hcurrent
        exact iff_of_false (not_inView hcurrent o) fun h => hother ((inView_iff hnoted o).1 h)
      · rw [if_neg hnoted] at hcurrent
        exact inView_congr hcurrent rfl
    · exact showsIf_of_not_shown hhidden (not_inView_of_none hnone)

/-! ### Modules -/

theorem lit_addModule (hw : w.Lit) (hl : Linked w) (ht : w.Tracks) (name : String) (ifo : Record)
    (hnone : w.moduleId.isValid = false)
    (hlimit : (w.addModule name ifo).registry.issued < limit) : (w.addModule name ifo).Lit := by
  obtain ⟨o, areas, events, hid, hkind, harea, -, hadded⟩ := w.addModule_parts name ifo
  rw [hadded] at hlimit ⊢
  have hnext := Linked.withModule_limit hlimit
  obtain ⟨hfirst, hobjects⟩ := hl.withModule hnone hid hkind harea hnext
  have hlit : (w.withModule o).Lit := by
    refine hw.congr rfl fun o' ho' => ?_
    rw [hobjects, List.mem_append, List.mem_singleton] at ho'
    rcases ho' with ho' | rfl
    · exact Or.inl ⟨o', ho', rfl, rfl⟩
    · exact Or.inr ⟨not_shown_of_kind (Or.inr hkind), not_inView_of_none harea⟩
  have htracks : (w.withModule o).Tracks := tracks_withModule hl.pcIssued hid hnext ht
  exact (lit_loadAreas hlit hfirst htracks areas hlimit).aside rfl rfl

theorem lit_loadModule (hw : w.Lit) (hl : Linked w) (ht : w.Tracks) (name : String)
    (hlimit : (w.loadModule name).2.registry.issued < limit) : (w.loadModule name).2.Lit := by
  have hcleared : w.cleared.Lit ∧ w.cleared.Tracks := by
    unfold cleared
    split
    · exact ⟨lit_unload w, tracks_unload w⟩
    · exact ⟨hw, ht⟩
  rcases w.loadModule_cases name with hfailed | ⟨ifo, hadded⟩
  · rw [hfailed]
    exact hcleared.1
  · rw [hadded] at hlimit ⊢
    exact lit_addModule hcleared.1 hl.cleared hcleared.2 name ifo w.cleared_moduleId hlimit

/-! ### Creating and destroying -/

theorem showsIf_dress {o : Object} (h : o.isShown = false) (template tag : String)
    (place : Location) (area : Handle) (visible : Bool) :
    (dress template tag place area visible o).ShowsIf (visible = true) := by
  have hposed : ∀ o' : Object, o'.sight? = o.sight? →
      (({ o' with area := some area }.setFacing place.facing).setPosition place.position).isShown =
        false := by
    intro o' hsight
    refine Eq.trans (isShown_congr ?_) h
    rw [sight?_setPosition, sight?_setFacing]
    exact hsight
  unfold dress
  simp only
  split
  · rename_i hvisible
    exact showsIf_reveal _ hvisible
  · rename_i hhidden
    refine showsIf_of_not_shown ?_ hhidden
    split
    · exact hposed { o with template } rfl
    · exact hposed _ (Object.sight?_setTag _ tag)

theorem lit_createObject (hw : w.Lit) (hl : Linked w) (t : ObjectType) (template : String)
    (place : Location) (tag : String)
    (hlimit : (w.createObject t template place tag).2.registry.issued < limit) :
    (w.createObject t template place tag).2.Lit := by
  rcases w.createObject_cases t template place tag with
    ⟨e, hfailed⟩ | ⟨e, hfailed⟩ | ⟨kind, area, _, o, models, -, -, hload, hcreated⟩
  · rw [hfailed]
    exact hw
  · rw [hfailed]
    exact hw.aside rfl rfl
  · rw [hcreated] at hlimit ⊢
    rw [addObject_issued] at hlimit
    have hbuilt := Object.built_load hload
    have hdressed := dressed template tag place area (w.currentArea = some area) o
    have hshows := showsIf_dress hbuilt.not_shown template tag place area
      (w.currentArea = some area)
    generalize dress template tag place area (w.currentArea = some area) o = o' at hdressed hshows
    have hobjects : ({ w with registry := w.registry.issue.2, models }.addObject
        o' area).registry.objects = w.registry.objects.map (listing area o'.id) ++ [o'] :=
      congrArg Scene.objects (scene_addObject hl area models (hdressed.id.trans hbuilt.id) hlimit)
    intro b' hb'
    rw [hobjects] at hb'
    rcases List.mem_append.1 hb' with hmem | hmem
    · obtain ⟨b, hb, rfl⟩ := List.mem_map.1 hmem
      refine (hw b hb).congr ?_ (inView_congr rfl (relisted_listing area o'.id b).area)
      unfold listing changed
      split
      · exact sight?_mapArea b _
      · rfl
    · rw [List.mem_singleton.1 hmem]
      refine hshows.congr rfl ?_
      rw [decide_eq_true_eq]
      exact inView_iff_noted hdressed.area

theorem lit_parted (hw : w.Lit) (hs : w.registry.Sound) (h : Handle) : (w.parted h).Lit := by
  rcases w.parted_cases h with ⟨-, hsame⟩ | ⟨-, hended⟩
  · rw [hsame]
    exact hw
  · rw [hended]
    exact hw.endConversation hs

theorem lit_without (hw : w.Lit) (hs : w.registry.Sound) (h : Handle) (o : Object) :
    (w.without h o).Lit := by
  have hgone : (w.setRegistry (w.registry.unregister h).2).Lit :=
    hw.congr rfl fun a ha => Or.inl ⟨a, (Registry.mem_unregister.1 ha).1, rfl, rfl⟩
  have hdelisted : ((w.setRegistry (w.registry.unregister h).2).delist o).Lit := by
    unfold delist
    split
    · exact hgone.update (hs.unregister h) _ (fun a => Object.mapArea_area a _)
        fun a => sight?_mapArea a _
    · exact hgone
  exact hdelisted.aside rfl rfl

theorem lit_removeObject (hw : w.Lit) (hl : Linked w) (h : Handle) : (w.removeObject h).2.Lit := by
  have hparted := lit_parted hw hl.sound h
  rcases w.removeObject_cases h with ⟨-, hgone⟩ | ⟨o, -, hremoved⟩
  · rw [hgone]
    exact hparted
  · rw [hremoved]
    exact lit_without hparted (hl.parted h).sound h o

theorem lit_destroyObject (hw : w.Lit) (hl : Linked w) (h : Handle) :
    (w.destroyObject h).2.Lit := by
  rcases w.destroyObject_cases h with hrefused | ⟨o, -, -, hdestroyed⟩
  · rw [hrefused]
    exact hw
  · rw [hdestroyed]
    exact lit_removeObject hw hl h

/-! ### The player's creature -/

theorem loadPc_vacant (hs : w.registry.Sound) (r : Record)
    (hlimit : (w.loadPc r).2.registry.issued < limit) (hpc : w.pc = none) :
    (w.loadPc r).2 = w.setRegistry w.registry.issue.2 ∨
      ∃ o, Object.Built (.blank (handleOf (w.registry.issued + 1)) (.creature .blank)) o ∧
        (w.loadPc r).2.pc = some o.id ∧ (w.loadPc r).2.registry.objects =
          (w.registry.objects ++ [o]).map
            (changed o.id fun o => o.mapCreature fun c => { c with isPc := true }) := by
  rcases loadPc_built hs r hlimit with
    ⟨e, hfailed⟩ | ⟨o, models, hbuilt, -, hs', hobjects, hc, hloaded⟩
  · exact Or.inl (by rw [hfailed])
  · have hscene := (usePc_creature hc).2
    have hnone : (w.withBuilt o models).pc = none := hpc
    generalize w.withBuilt o models = u at *
    have hkept : (u.flag o.id).vacate o.id = u.flag o.id := by
      unfold vacate
      rw [show (u.flag o.id).pc = none from hnone]
    rw [hkept] at hscene
    have hflagged : (u.flag o.id).registry.objects = _ := objects_update hs' o.id _
    rw [hloaded]
    refine Or.inr ⟨o, hbuilt, congrArg Scene.pc hscene, ?_⟩
    rw [← hobjects]
    exact (congrArg Scene.objects hscene).trans hflagged

theorem lit_loadPc (hw : w.Lit) (hs : w.registry.Sound) (r : Record)
    (hlimit : (w.loadPc r).2.registry.issued < limit) (hpc : w.pc = none) : (w.loadPc r).2.Lit := by
  rcases loadPc_vacant hs r hlimit hpc with hfailed | ⟨o, hbuilt, -, hobjects⟩
  · rw [hfailed]
    exact hw.aside rfl rfl
  · have hsame : ∀ a, (changed o.id (fun o => o.mapCreature fun c => { c with isPc := true }) a).area =
        a.area ∧ (changed o.id (fun o => o.mapCreature fun c => { c with isPc := true }) a).sight? =
        a.sight? := by
      intro a
      unfold changed
      split
      · exact ⟨Object.mapCreature_area a _, sight?_mapCreature a _⟩
      · exact ⟨rfl, rfl⟩
    refine hw.congr (loadPc_currentArea w r) fun a' ha' => ?_
    rw [hobjects] at ha'
    obtain ⟨a, ha, rfl⟩ := List.mem_map.1 ha'
    obtain ⟨harea, hsight⟩ := hsame a
    rcases List.mem_append.1 ha with ha | ha
    · exact Or.inl ⟨a, ha, harea, hsight⟩
    · rw [List.mem_singleton.1 ha] at harea hsight ⊢
      have hblank : Object.Built (.blank (handleOf (w.registry.issued + 1))
          Object.PlacedKind.creature.blank) o := hbuilt
      have hhidden := hblank.not_shown
      refine Or.inr ⟨(isShown_congr hsight).trans hhidden, not_inView_of_none ?_⟩
      exact harea.trans hbuilt.area

theorem pcArea?_of_mem (hs : w.registry.Sound) {o : Object} (ho : o ∈ w.registry.objects)
    (hpc : w.pc = some o.id) : w.pcArea? = o.area := by
  have hlive : w.get? o.id = some o := hs.indexed.get?_eq_some.2 ⟨ho, rfl⟩
  unfold pcArea?
  rw [hpc, Option.bind_some, hlive, Option.bind_some]

theorem loadPc_pcArea? (hs : w.registry.Sound) (r : Record)
    (hlimit : (w.loadPc r).2.registry.issued < limit) (hpc : w.pc = none) :
    (w.loadPc r).2.pcArea? = none := by
  have hs' := (follows_loadPc w r).sound hs hlimit
  rcases loadPc_vacant hs r hlimit hpc with hfailed | ⟨o, hbuilt, hchosen, hobjects⟩
  · rw [hfailed]
    unfold pcArea?
    rw [show (w.setRegistry w.registry.issue.2).pc = none from hpc]
    rfl
  · let flagged := o.mapCreature fun c => { c with isPc := true }
    have hmem : flagged ∈ (w.loadPc r).2.registry.objects := by
      rw [hobjects]
      refine List.mem_map.2 ⟨o, List.mem_append_right _ List.mem_cons_self, ?_⟩
      exact Object.changed_of_eq _ rfl
    have hid : flagged.id = o.id := (Object.same_mapCreature o _).id
    rw [pcArea?_of_mem hs' hmem (hid ▸ hchosen), Object.mapCreature_area]
    exact hbuilt.area

/-- The player's creature has been put into another area than the one that is noted, or nothing has
been put anywhere. -/
def Arriving (w : World) : Prop := ∀ o ∈ w.registry.objects, o.ShowsIf (w.inView o) ∨
  w.pc = some o.id ∧ ∃ a, o.area = some a ∧ w.currentArea ≠ some a

theorem Lit.arriving (hw : w.Lit) : w.Arriving := fun o ho => Or.inl (hw o ho)

theorem Arriving.lit (hw : w.Arriving)
    (hnoticed : ∀ o ∈ w.registry.objects, w.pc = some o.id → w.currentArea = o.area) : w.Lit := by
  intro o ho
  refine (hw o ho).resolve_right ?_
  rintro ⟨hpc, a, ha, hne⟩
  exact hne ((hnoticed o ho hpc).trans ha)

theorem Linked.area_of_pc (hl : Linked w) (ht : w.Tracks) {o : Object}
    (ho : o ∈ w.registry.objects) (hpc : w.pc = some o.id) : w.currentArea = o.area := by
  rw [ht]
  exact pcArea?_of_mem hl.sound ho hpc

theorem arriving_placeAtEntry (hw : w.Lit) (hl : Linked w) (ht : w.Tracks) :
    w.placeAtEntry.2.Arriving := by
  rcases w.placeAtEntry_cases with ⟨e, hfailed⟩ | ⟨pc, m, area, hpc, -, -, hplaced⟩
  · rw [hfailed]
    exact hw.arriving
  · let enter : Object → Object := fun o =>
      ({ o with area := some area }.setPosition m.entryPosition).setFacing m.entryFacing
    rw [hplaced]
    intro o' ho'
    rw [show (w.update pc enter).registry.objects = _ from objects_update hl.sound pc enter] at ho'
    obtain ⟨o, ho, rfl⟩ := List.mem_map.1 ho'
    unfold changed
    split
    · rename_i hid
      have hsight : (enter o).sight? = o.sight? := by
        show (Object.setFacing _ _).sight? = _
        rw [sight?_setFacing, sight?_setPosition]
        rfl
      have hplayer : w.pc = some o.id := hid ▸ hpc
      have hnoted := hl.area_of_pc ht ho hplayer
      -- At the entry already, the creature stays in view; else it is to be noticed.
      by_cases hentry : w.currentArea = some area
      · refine Or.inl ((hw o ho).congr hsight (inView_congr rfl ?_))
        exact hentry.symm.trans hnoted
      · exact Or.inr ⟨hplayer, area, rfl, hentry⟩
    · exact Or.inl ((hw o ho).congr rfl (inView_congr rfl rfl))

/-! ### Moving -/

theorem sight?_transfer (hides shows : Prop) [Decidable hides] [Decidable shows] (area : Handle)
    (o : Object) : (transfer hides shows area o).sight? =
      if shows then (if hides then o.hide else o).reveal.sight?
      else (if hides then o.hide else o).sight? := by
  have hplaced : ∀ o' : Object, { o' with area := some area }.reveal.sight? = o'.reveal.sight? := by
    intro o'
    rw [sight?_reveal, sight?_reveal]
    rfl
  unfold transfer
  simp only
  split
  · exact hplaced _
  · rfl

theorem lit_transfer (hw : w.Lit) (hl : Linked w) (ht : w.Tracks) {h current : Handle}
    (area : Handle) (hleaves : ∀ o ∈ w.registry.objects, o.id = h → o.area = some current) :
    (w.update h (transfer (w.pcArea? = some current) (w.pcArea? = some area) area)).Lit := by
  let hides := w.pcArea? = some current
  let shows := w.pcArea? = some area
  intro o' ho'
  rw [objects_update hl.sound] at ho'
  obtain ⟨o, ho, rfl⟩ := List.mem_map.1 ho'
  unfold changed
  split
  · rename_i hid
    have hview : (w.update h (transfer hides shows area)).inView (transfer hides shows area o) ↔
        shows := by
      rw [inView_iff_noted (kin_transfer hides shows area o).area]
      show w.currentArea = some area ↔ w.pcArea? = some area
      rw [ht]
    have hsight := sight?_transfer hides shows area o
    by_cases hshows : shows
    · rw [if_pos hshows] at hsight
      exact (showsIf_reveal (if hides then o.hide else o) hshows).congr hsight hview
    · rw [if_neg hshows] at hsight
      refine showsIf_of_not_shown ((isShown_congr hsight).trans ?_) fun h => hshows (hview.1 h)
      split
      · exact isShown_hide o
      · rename_i hother
        refine (hw o ho).not_shown fun hview => hother ?_
        exact ht.symm.trans ((inView_iff_noted (hleaves o ho hid)).1 hview)
  · exact (hw o ho).congr rfl (inView_congr rfl rfl)

theorem Lit.changeLists (hw : w.Lit) (hs : w.registry.Sound) (h old new : Handle) :
    (w.changeLists h old new).Lit := by
  have hremoved := sound_mapArea hs old fun a => Object.resref_removeObject a h
  have hunlisted : (w.update old fun o => o.mapArea fun a => a.removeObject h).Lit :=
    hw.update hs old (fun o => Object.mapArea_area o _) fun o => sight?_mapArea o _
  exact hunlisted.update hremoved new (fun o => Object.mapArea_area o _) fun o => sight?_mapArea o _

theorem Arriving.setPosition (hw : w.Arriving) (hs : w.registry.Sound) (h : Handle)
    (position : Vec3) : (w.update h fun o => o.setPosition position).Arriving := by
  intro o' ho'
  rw [objects_update hs] at ho'
  obtain ⟨o, ho, rfl⟩ := List.mem_map.1 ho'
  unfold changed
  split
  · exact (hw o ho).imp (·.congr (sight?_setPosition o position) (inView_congr rfl rfl)) id
  · exact (hw o ho).imp (·.congr rfl (inView_congr rfl rfl)) id

/-- The player's creature leaves the area that is noted, and so it has to be noticed. -/
theorem arriving_changeArea (hw : w.Lit) (hl : Linked w) (ht : w.Tracks) {h current area : Handle}
    (hleaves : ∀ o ∈ w.registry.objects, o.id = h → o.area = some current)
    (hdiffer : current ≠ area) (hpc : w.pc = some h) : (w.changeArea h current area).Arriving := by
  let hides := w.pcArea? = some current
  let shows := w.pcArea? = some area
  rw [changeArea_eq]
  simp only
  rw [if_pos hpc]
  intro o' ho'
  rw [objects_update hl.sound] at ho'
  obtain ⟨o, ho, rfl⟩ := List.mem_map.1 ho'
  unfold changed
  split
  · rename_i hid
    have hkin := kin_transfer hides shows area o
    refine Or.inr ⟨?_, area, hkin.area, ?_⟩
    · rw [hkin.id]
      exact hid ▸ hpc
    · show w.currentArea ≠ some area
      rw [hl.area_of_pc ht ho (hid ▸ hpc), hleaves o ho hid]
      exact fun he => hdiffer (Option.some_inj.1 he)
  · exact Or.inl ((hw o ho).congr rfl (inView_congr rfl rfl))

theorem lit_changeArea (hw : w.Lit) (hl : Linked w) (ht : w.Tracks) {h current area : Handle}
    (hleaves : ∀ o ∈ w.registry.objects, o.id = h → o.area = some current)
    (hpc : w.pc ≠ some h) : (w.changeArea h current area).Lit := by
  have hs := sound_transfer hl.sound h (w.pcArea? = some current) (w.pcArea? = some area) area
  rw [changeArea_eq]
  simp only
  rw [if_neg hpc]
  exact (lit_transfer hw hl ht area hleaves).changeLists hs h current area

theorem lit_relocate (hw : w.Lit) (hl : Linked w) (ht : w.Tracks) {h current area : Handle}
    (position : Vec3) (hjump : w.canJump h area = some current) :
    (w.relocate h current area position).Arriving ∧
      (w.pc ≠ some h → (w.relocate h current area position).Lit) := by
  have hposed : ∀ {u : World}, u.Lit → u.registry.Sound →
      (u.update h fun o => o.setPosition position).Lit := fun hlit hs =>
    hlit.update hs h (fun _ => rfl) fun o => sight?_setPosition o position
  obtain ⟨-, hleaves⟩ := hl.area_of_canJump hjump
  have hs := sound_changeArea hl.sound h current area
  unfold relocate
  split
  · have hlit := hposed hw hl.sound
    exact ⟨hlit.arriving, fun _ => hlit⟩
  · rename_i hdiffer
    by_cases hpc : w.pc = some h
    · have harriving := arriving_changeArea hw hl ht hleaves hdiffer hpc
      exact ⟨harriving.setPosition hs h position, fun hne => absurd hpc hne⟩
    · have hlit := hposed (lit_changeArea hw hl ht hleaves hpc) hs
      exact ⟨hlit.arriving, fun _ => hlit⟩

theorem sound_relocate (hs : w.registry.Sound) (h current area : Handle) (position : Vec3) :
    (w.relocate h current area position).registry.Sound := by
  have hmoved : (if current = area then w else w.changeArea h current area).registry.Sound := by
    split
    · exact hs
    · exact sound_changeArea hs h current area
  exact hmoved.update h _ fun o => ⟨rfl, rfl⟩

/-! ### Coming into another area -/

theorem updateAll_objects (hs : w.registry.Sound) {f : Object → Object}
    (hf : ∀ o, (f o).id = o.id ∧ (f o).tag = o.tag) (l : List Handle) (hl : l.Nodup) :
    (l.foldl (fun w h => w.update h f) w).registry.Sound ∧
      (l.foldl (fun w h => w.update h f) w).registry.objects =
        w.registry.objects.map fun o => if o.id ∈ l then f o else o := by
  induction l generalizing w with
  | nil => exact ⟨hs, by simp⟩
  | cons h l ih =>
    obtain ⟨hnot, hrest⟩ := List.nodup_cons.1 hl
    have hfirst : (w.update h f).registry.Sound := hs.update h f hf
    obtain ⟨hsound, hobjects⟩ := ih hfirst hrest
    refine ⟨hsound, ?_⟩
    rw [List.foldl_cons, hobjects, objects_update hs, List.map_map]
    refine List.map_congr_left fun o _ => ?_
    rw [Function.comp_apply]
    by_cases hid : o.id = h
    · rw [Object.changed_of_eq f hid, (hf o).1, hid, if_neg hnot, if_pos List.mem_cons_self]
    · rw [Object.changed_of_ne f hid]
      simp only [List.mem_cons, hid, false_or]

theorem id_mem_inArea {r : Registry} (hr : r.Indexed) {o : Object} (ho : o ∈ r.objects)
    {area : Handle} : o.id ∈ r.inArea area ↔ o.area = some area := by
  rw [Linked.mem_inArea]
  constructor
  · rintro ⟨b, hb, harea, hid⟩
    rw [← hr.eq_of_id hb ho hid]
    exact harea
  · exact fun harea => ⟨o, ho, harea, rfl⟩

theorem setAreaVisible_objects (hs : w.registry.Sound) (area : Handle) (visible : Bool) :
    (w.setAreaVisible area visible).registry.Sound ∧
      (w.setAreaVisible area visible).registry.objects = w.registry.objects.map fun o =>
        if o.area = some area then (if visible then o.reveal else o.hide) else o := by
  have hf : ∀ o : Object, (if visible then o.reveal else o.hide).id = o.id ∧
      (if visible then o.reveal else o.hide).tag = o.tag := by
    intro o
    split
    · exact ⟨(alike_reveal o).kin.id, (alike_reveal o).kin.tag⟩
    · exact ⟨(alike_hide o).kin.id, (alike_hide o).kin.tag⟩
  have hnodup : (w.registry.inArea area).Nodup :=
    hs.indexed.distinct.sublist (List.filter_sublist.map Object.id)
  obtain ⟨hsound, hobjects⟩ := updateAll_objects hs hf (w.registry.inArea area) hnodup
  refine ⟨hsound, hobjects.trans (List.map_congr_left fun o ho => ?_)⟩
  simp only [id_mem_inArea hs.indexed ho]

theorem setAreaVisible_rest (w : World) (area : Handle) (visible : Bool) :
    w.setAreaVisible area visible =
      { w with registry := (w.setAreaVisible area visible).registry } := by
  unfold setAreaVisible
  generalize w.registry.inArea area = l
  induction l generalizing w with
  | nil => rfl
  | cons h l ih => rw [List.foldl_cons, ih, update]

/-- Nothing is shown but perhaps the player's creature, which is in an area. -/
def Darkened (w : World) : Prop := ∀ o ∈ w.registry.objects, o.isShown = false ∨
  w.pc = some o.id ∧ ∃ a, o.area = some a

theorem Arriving.not_shown (hw : w.Arriving) {o : Object} (ho : o ∈ w.registry.objects)
    (hview : ¬w.inView o) : o.isShown = false ∨ w.pc = some o.id ∧ ∃ a, o.area = some a := by
  refine (hw o ho).imp (·.not_shown hview) ?_
  rintro ⟨hplayer, a, ha, -⟩
  exact ⟨hplayer, a, ha⟩

theorem Arriving.darkened (hw : w.Arriving) (hs : w.registry.Sound)
    {old : Handle} (hcurrent : w.currentArea = some old) : (w.setAreaVisible old false).Darkened := by
  intro o' ho'
  have hstill : Still (fun _ => True) w (w.setAreaVisible old false) := .setAreaVisible w old false
  rw [(setAreaVisible_objects hs old false).2] at ho'
  obtain ⟨o, ho, rfl⟩ := List.mem_map.1 ho'
  rw [hstill.pc]
  split
  · exact Or.inl (isShown_hide o)
  · rename_i hother
    exact hw.not_shown ho fun hview => hother ((inView_iff hcurrent o).1 hview)

theorem Arriving.darkened_of_none (hw : w.Arriving) (hcurrent : w.currentArea = none) :
    w.Darkened := fun o ho => hw.not_shown ho (not_inView hcurrent o)

theorem Darkened.lit (hw : w.Darkened) (hs : w.registry.Sound) {new : Handle}
    (hcurrent : w.currentArea = some new) (hplace : w.pcArea? = some new) :
    (w.setAreaVisible new true).Lit := by
  have hstill : Still (fun _ => True) w (w.setAreaVisible new true) := .setAreaVisible w new true
  have hnoted := hstill.currentArea.trans hcurrent
  intro o' ho'
  rw [(setAreaVisible_objects hs new true).2] at ho'
  obtain ⟨o, ho, rfl⟩ := List.mem_map.1 ho'
  split
  · rename_i harea
    exact showsIf_reveal o ((inView_iff hnoted _).2 ((alike_reveal o).kin.area.trans harea))
  · rename_i hother
    have hhidden : o.isShown = false := by
      refine (hw o ho).resolve_right ?_
      rintro ⟨hpc, -⟩
      exact hother ((pcArea?_of_mem hs ho hpc).symm.trans hplace)
    exact showsIf_of_not_shown hhidden fun hview => hother ((inView_iff hnoted o).1 hview)

theorem Darkened.lit_of_none (hw : w.Darkened) (hs : w.registry.Sound)
    (hcurrent : w.currentArea = none) (hplace : w.pcArea? = none) : w.Lit := by
  intro o ho
  have hhidden : o.isShown = false := by
    refine (hw o ho).resolve_right ?_
    rintro ⟨hpc, a, ha⟩
    rw [pcArea?_of_mem hs ho hpc, ha] at hplace
    cases hplace
  exact showsIf_of_not_shown hhidden (not_inView hcurrent o)

end Adventure.World

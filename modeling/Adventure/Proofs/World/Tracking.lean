import Adventure.Proofs.World.Whereabouts
import Adventure.World.Searching

/-!
# What keeps track of the player's creature

Operations that load and unload or bring objects in leave the player's creature where it is, or they
note that it is in no area any more. Choosing another creature and destroying objects note nothing.
-/

namespace Adventure

open Registry (limit handleOf)

namespace Registry

/-! ### Looking up other handles -/

theorem get?_unregister_of_ne (r : Registry) {h p : Handle} (hne : h ≠ p) :
    (r.unregister h).2.get? p = r.get? p := by
  unfold get? lookup
  rw [unregister_objects, List.find?_filter]
  split
  · refine congrArg (fun q => List.find? q r.objects) (funext fun o => ?_)
    by_cases hid : o.id = p
    · simp [hid, hne.symm]
    · simp [hid]
  · rfl

theorem get?_register_of_ne (r : Registry) {o : Object} {p : Handle} (hne : o.id ≠ p) :
    (r.register o).get? p = r.get? p := by
  cases hv : o.id.isValid with
  | false => rw [register_invalid r hv]
  | true =>
    rw [← get?_unregister_of_ne r hne]
    unfold get? lookup
    rw [register_objects r hv, unregister_objects, List.find?_append]
    have hnone : [o].find? (fun a => a.id = p) = none := by simp [hne]
    rw [hnone, Option.or_none]

theorem get?_registerAll_of_ne (r : Registry) {os : List Object} {p : Handle}
    (hne : ∀ o ∈ os, o.id ≠ p) : (os.foldl register r).get? p = r.get? p := by
  induction os generalizing r with
  | nil => rfl
  | cons o os ih =>
    rw [List.foldl_cons, ih _ fun b hb => hne b (List.mem_cons_of_mem o hb),
      get?_register_of_ne r (hne o List.mem_cons_self)]

end Registry

namespace World

variable {w w' : World}

theorem pcArea?_congr (hpc : w'.pc = w.pc) (hget : ∀ p, w.pc = some p → w'.get? p = w.get? p) :
    w'.pcArea? = w.pcArea? := by
  unfold pcArea?
  rw [hpc]
  cases hp : w.pc with
  | none => rfl
  | some p => rw [Option.bind_some, Option.bind_some, hget p hp]

theorem Tracks.congr (ht : w.Tracks) (hcurrent : w'.currentArea = w.currentArea)
    (hpc : w'.pc = w.pc) (hget : ∀ p, w.pc = some p → w'.get? p = w.get? p) : w'.Tracks := by
  unfold Tracks
  rw [hcurrent, pcArea?_congr hpc hget]
  exact ht

theorem Still.tracks {exits : String → Prop} (h : Still exits w w') (ht : w.Tracks) :
    w'.Tracks := by
  unfold Tracks
  rw [h.currentArea, h.pcArea?]
  exact ht

/-- The handle of the player's creature has been given out. -/
def PcIssued (w : World) : Prop := ∀ p, w.pc = some p → p.number ≤ w.registry.issued

theorem Linked.pcIssued (hl : Linked w) : w.PcIssued := by
  intro p hp
  obtain ⟨o, ho, rfl, -⟩ := hl.player p hp
  exact (hl.sound.given o.id (List.mem_map_of_mem ho)).2

theorem PcIssued.ne_next (h : w.PcIssued) (hnext : w.registry.issued + 1 < limit) {p : Handle}
    (hp : w.pc = some p) : handleOf (w.registry.issued + 1) ≠ p := by
  rintro rfl
  have hle := h _ hp
  rw [Registry.number_of_newest rfl hnext] at hle
  omega

/-! ### Loading -/

theorem loadArea_pc (w : World) (resref : String) : (w.loadArea resref).2.pc = w.pc := by
  rcases w.loadArea_cases resref with hsame | ⟨are, -, hadded⟩
  · rw [hsame]
  · rw [hadded]
    rfl

theorem tracks_loadArea (hissued : w.PcIssued) (resref : String)
    (hlimit : (w.loadArea resref).2.registry.issued < limit) (ht : w.Tracks) :
    (w.loadArea resref).2.Tracks := by
  have hadd : ∀ are, (w.addArea resref are).2.registry.issued < limit →
      (w.addArea resref are).2.Tracks := by
    intro are hlimit
    obtain ⟨area, placed, r, hadded⟩ := addArea_spec w resref are
    rw [hadded.final_issued] at hlimit
    refine ht.congr rfl hadded.rest.2 fun p hp => ?_
    have hnew : ∀ o ∈ area :: placed, o.id ≠ p := by
      rintro o ho rfl
      have hlow := ((hadded.numbered hlimit).given o ho).1
      exact Nat.lt_irrefl _ (hlow.trans_le (hissued _ hp))
    unfold World.get?
    rw [hadded.registry, Registry.get?_registerAll_of_ne r hnew]
    unfold Registry.get? Registry.lookup
    rw [hadded.objects]
  rcases w.loadArea_cases resref with hsame | ⟨are, -, hadded⟩
  · rw [hsame]
    exact ht
  · rw [hadded] at hlimit ⊢
    exact hadd are hlimit

theorem tracks_loadAreas (hissued : w.PcIssued) (areas : List String)
    (hlimit : (areas.foldl (fun w area => (w.loadArea area).2) w).registry.issued < limit)
    (ht : w.Tracks) : (areas.foldl (fun w area => (w.loadArea area).2) w).Tracks := by
  induction areas generalizing w with
  | nil => exact ht
  | cons area areas ih =>
    have hnext := (follows_foldl follows_loadArea areas (w.loadArea area).2).issued
    have hfirst := tracks_loadArea hissued area (hnext.trans_lt hlimit) ht
    refine ih ?_ hlimit hfirst
    intro p hp
    rw [loadArea_pc] at hp
    exact (hissued p hp).trans (follows_loadArea w area).issued

theorem tracks_withModule (hissued : w.PcIssued) {o : Object}
    (hid : o.id = handleOf (w.registry.issued + 1)) (hnext : w.registry.issued + 1 < limit)
    (ht : w.Tracks) : (w.withModule o).Tracks := by
  refine ht.congr rfl rfl fun p hp => Registry.get?_register_of_ne w.registry.issue.2 ?_
  rw [hid]
  exact hissued.ne_next hnext hp

theorem tracks_addModule (hissued : w.PcIssued) (name : String) (ifo : Record)
    (hlimit : (w.addModule name ifo).registry.issued < limit) (ht : w.Tracks) :
    (w.addModule name ifo).Tracks := by
  obtain ⟨o, areas, events, hid, -, -, -, hadded⟩ := w.addModule_parts name ifo
  rw [hadded] at hlimit ⊢
  have hnext := Linked.withModule_limit hlimit
  have hfirst := tracks_withModule hissued hid hnext ht
  have hgiven : (w.withModule o).PcIssued := by
    intro p hp
    rw [withModule_issued]
    exact (hissued p hp).trans (Nat.le_succ _)
  exact tracks_loadAreas hgiven areas hlimit hfirst

theorem tracks_unload (w : World) : w.unload.Tracks := rfl

theorem tracks_loadModule (hissued : w.PcIssued) (name : String)
    (hlimit : (w.loadModule name).2.registry.issued < limit) (ht : w.Tracks) :
    (w.loadModule name).2.Tracks := by
  have hcleared : w.cleared.PcIssued ∧ w.cleared.Tracks := by
    unfold cleared
    split
    · exact ⟨fun p hp => (nomatch hp), tracks_unload w⟩
    · exact ⟨hissued, ht⟩
  rcases w.loadModule_cases name with hfailed | ⟨ifo, hadded⟩
  · rw [hfailed]
    exact hcleared.2
  · rw [hadded] at hlimit ⊢
    exact tracks_addModule hcleared.1 name ifo hlimit hcleared.2

/-! ### Unloading -/

theorem evict_pcArea? (w : World) (h : Handle) :
    (w.evict h).pcArea? = if w.pc = some h then none else w.pcArea? := by
  unfold evict
  split
  · rename_i hpc
    let away : Object → Object := fun o => { o.hide with area := none }
    have hid : ∀ o, (away o).id = o.id := fun o => (Object.bound_hide o).id
    show ((w.pc.bind (w.update h away).get?).bind Object.area) = none
    rw [hpc, Option.bind_some, get?_update w h hid]
    cases ho : w.get? h with
    | none => rfl
    | some o =>
      rw [Option.map_some, Option.bind_some, if_pos (id_of_get? ho)]
  · rename_i hpc
    refine pcArea?_congr rfl fun p hp => ?_
    have hne : h ≠ p := by
      rintro rfl
      exact hpc hp
    exact Registry.get?_unregister_of_ne w.registry hne

theorem evictAll_pcArea? (w : World) (hs : List Handle) : (hs.foldl evict w).pcArea? =
    if ∃ p ∈ hs, w.pc = some p then none else w.pcArea? := by
  induction hs generalizing w with
  | nil => simp
  | cons h hs ih =>
    rw [List.foldl_cons, ih, (Linked.evict_rest w h).2.2, evict_pcArea?]
    by_cases hfirst : w.pc = some h
    · simp [hfirst]
    · simp [hfirst]

theorem evictAll_notes (w : World) (hs : List Handle) :
    (hs.foldl evict w).pc = w.pc ∧ (hs.foldl evict w).currentArea = w.currentArea := by
  induction hs generalizing w with
  | nil => exact ⟨rfl, rfl⟩
  | cons h hs ih =>
    have hfirst : (w.evict h).pc = w.pc ∧ (w.evict h).currentArea = w.currentArea := by
      unfold evict
      split <;> exact ⟨rfl, rfl⟩
    exact ⟨(ih _).1.trans hfirst.1, (ih _).2.trans hfirst.2⟩

theorem Linked.pc_inArea (hl : Linked w) (area : Handle) :
    (∃ p ∈ w.registry.inArea area, w.pc = some p) ↔ w.pcArea? = some area := by
  unfold pcArea?
  constructor
  · rintro ⟨p, hp, hpc⟩
    obtain ⟨o, ho, harea, hid⟩ := mem_inArea.1 hp
    have hget : w.get? p = some o := hl.sound.indexed.get?_eq_some.2 ⟨ho, hid⟩
    rw [hpc, Option.bind_some, hget, Option.bind_some, harea]
  · intro h
    obtain ⟨o, hlive, harea⟩ := Option.bind_eq_some_iff.1 h
    obtain ⟨p, hp, hget⟩ := Option.bind_eq_some_iff.1 hlive
    exact ⟨p, mem_inArea.2 ⟨o, mem_of_get? hget, harea, id_of_get? hget⟩, hp⟩

theorem Linked.pc_ne_area (hl : Linked w) {area : Handle} (harea : w.isArea area = true) :
    w.pc ≠ some area := by
  intro hpc
  obtain ⟨o, ho, hid, hkind⟩ := (isArea_iff hl.sound area).1 harea
  obtain ⟨c, hc, hcid, hisPc⟩ := hl.player area hpc
  have hcreature := Object.kind_of_isPc hisPc
  rw [hl.same hc ho (hcid.trans hid.symm), hkind] at hcreature
  cases hcreature

theorem tracks_unloadArea (hl : Linked w) (area : Handle) (ht : w.Tracks) :
    (w.unloadArea area).Tracks := by
  rcases w.unloadArea_cases area with ⟨-, hsame⟩ | ⟨harea, noted, hclosed⟩
  · rw [hsame]
    exact ht
  · have hevicted := evictAll_pcArea? w (w.registry.inArea area)
    obtain ⟨hkept, hnoted⟩ := evictAll_notes w (w.registry.inArea area)
    rw [hclosed]
    generalize (w.registry.inArea area).foldl evict w = evicted at hevicted hkept hnoted
    have hcurrent : (evicted.closeArea area noted).currentArea =
        if evicted.currentArea = some area then none else evicted.currentArea := rfl
    have hsame : (evicted.closeArea area noted).pcArea? = evicted.pcArea? := by
      refine pcArea?_congr rfl fun p hp => Registry.get?_unregister_of_ne _ ?_
      rintro rfl
      rw [hkept] at hp
      exact hl.pc_ne_area harea hp
    -- The creature is evicted exactly if this is the area it is in, which is the one noted.
    unfold Tracks at ht ⊢
    rw [hcurrent, hsame, hevicted, hnoted, ht]
    simp only [hl.pc_inArea area]

/-! ### Creating objects -/

theorem tracks_addObject {o : Object} (area : Handle) (hnew : ∀ p, w.pc = some p → o.id ≠ p)
    (ht : w.Tracks) : (w.addObject o area).Tracks := by
  have hlisted : Still (fun _ => True) w
      (w.update area fun a => a.mapArea fun list => list.addObject o.id) :=
    .update w area (Object.bound_mapArea · _) fun a _ _ => Object.mapArea_area a _
  exact (hlisted.tracks ht).congr rfl rfl fun p hp => Registry.get?_register_of_ne _ (hnew p hp)

theorem tracks_createObject (hl : Linked w) (t : ObjectType) (template : String)
    (place : Location) (tag : String)
    (hlimit : (w.createObject t template place tag).2.registry.issued < limit) (ht : w.Tracks) :
    (w.createObject t template place tag).2.Tracks := by
  have hissue : ∀ models, Tracks { w with registry := w.registry.issue.2, models } := fun models =>
    ht.congr rfl rfl fun _ _ => rfl
  rcases w.createObject_cases t template place tag with
    ⟨e, hfailed⟩ | ⟨e, hfailed⟩ | ⟨kind, area, _, o, models, -, -, hload, hcreated⟩
  · rw [hfailed]
    exact ht
  · rw [hfailed]
    exact hissue w.models
  · rw [hcreated] at hlimit ⊢
    rw [addObject_issued] at hlimit
    have hdressed := dressed template tag place area (w.currentArea = some area) o
    refine tracks_addObject area (fun p hp => ?_) (hissue models)
    rw [hdressed.id, (Object.built_load hload).id]
    exact hl.pcIssued.ne_next hlimit hp

/-! ### Conversations and walks -/

variable {exits : String → Prop}

namespace Still

theorem pcSpeaker (w : World) (h : Handle) (speaker : Option Handle) :
    Still exits w (w.update h fun o => { o with pcSpeaker := speaker }) :=
  .update w h (fun _ => ⟨rfl, rfl⟩) fun _ _ _ => rfl

theorem endConversation (w : World) : Still exits w w.endConversation := by
  rcases w.endConversation_cases with ⟨-, hsame⟩ | ⟨c, -, hended⟩
  · rw [hsame]
    exact .refl w
  · have htold : Still exits w { w with conversation := none } := .aside rfl rfl rfl
    rw [hended]
    exact (htold.trans (pcSpeaker _ c.object none)).trans (logEvent _ _)

theorem startConversation (w : World) (dialog : String) (pc object : Handle) :
    Still exits w (w.startConversation dialog pc object).2 := by
  rcases w.startConversation_cases dialog pc object with hrefused | ⟨_, _, -, -, -, hstarted⟩
  · rw [hrefused]
    exact .refl w
  · have hspoken : Still exits w
        (w.endConversation.update object fun o => { o with pcSpeaker := some pc }) :=
      (endConversation w).trans (pcSpeaker _ object (some pc))
    rw [hstarted]
    exact hspoken.trans (.aside rfl rfl rfl)

theorem nextInArea (w : World) (caller area : Handle) :
    Still exits w (w.nextInArea caller area).2 := by
  unfold World.nextInArea
  split
  · exact .refl w
  · exact .aside rfl rfl rfl

theorem firstInArea (w : World) (caller area : Handle) :
    Still exits w (w.firstInArea caller area).2 := by
  have hbegun : Still exits w (w.setWalk caller area
      (.ofList ((w.registry.inArea area).filter fun h => w.pc ≠ some h))) := .aside rfl rfl rfl
  exact hbegun.trans (nextInArea _ caller area)

end Still

/-! ### What notes nothing -/

theorem vacate_currentArea (w : World) (h : Handle) :
    (w.vacate h).currentArea = w.currentArea := by
  unfold vacate
  split
  · split <;> rfl
  · rfl

theorem usePc_currentArea (w : World) (h : Handle) :
    (w.usePc h).2.currentArea = w.currentArea := by
  rcases w.usePc_cases h with ⟨-, hrefused⟩ | ⟨o, -, -, hused⟩
  · rw [hrefused]
  · rw [hused]
    exact vacate_currentArea (w.flag h) h

theorem loadPc_currentArea (w : World) (r : Record) :
    (w.loadPc r).2.currentArea = w.currentArea := by
  rcases w.loadPc_cases r with ⟨e, hfailed⟩ | ⟨o, models, -, hloaded⟩
  · rw [hfailed]
    rfl
  · rw [hloaded]
    exact usePc_currentArea _ _

theorem delist_currentArea (w : World) (o : Object) :
    (w.delist o).currentArea = w.currentArea := by
  unfold delist
  split <;> rfl

theorem Still.parted (w : World) (h : Handle) : Still exits w (w.parted h) := by
  rcases w.parted_cases h with ⟨-, hsame⟩ | ⟨-, hended⟩
  · rw [hsame]
    exact .refl w
  · rw [hended]
    exact .endConversation w

theorem destroyObject_currentArea (w : World) (h : Handle) :
    (w.destroyObject h).2.currentArea = w.currentArea := by
  have hparted : Still (fun _ => True) w (w.parted h) := .parted w h
  rcases w.destroyObject_cases h with hrefused | ⟨_, -, -, hdestroyed⟩
  · rw [hrefused]
  · rcases w.removeObject_cases h with ⟨-, hgone⟩ | ⟨o, -, hremoved⟩
    · rw [hdestroyed, hgone]
      exact hparted.currentArea
    · rw [hdestroyed, hremoved]
      exact (delist_currentArea _ o).trans hparted.currentArea

/-! ### Destroying other objects -/

namespace Still

theorem unregister (w : World) {h : Handle} (hother : w.pc ≠ some h) :
    Still exits w (w.setRegistry (w.registry.unregister h).2) := by
  have hkept : ∀ p, h ≠ p → (w.registry.unregister h).2.get? p = w.registry.get? p :=
    fun _ hne => Registry.get?_unregister_of_ne w.registry hne
  refine ⟨rfl, fun he p o script ho => ?_, rfl, ?_⟩
  · have hne : h ≠ p := by
      rintro rfl
      exact (Registry.mem_unregister.1 (mem_of_get? ho)).2 (id_of_get? ho)
    exact he p o script ((hkept p hne).symm.trans ho)
  · refine pcArea?_congr rfl fun p hp => hkept p ?_
    rintro rfl
    exact hother hp

theorem delist (w : World) (o : Object) : Still exits w (w.delist o) := by
  unfold World.delist
  split
  · exact update w _ (Object.bound_mapArea · _) fun a _ _ => Object.mapArea_area a _
  · exact refl w

theorem without (w : World) {h : Handle} (hother : w.pc ≠ some h) (o : Object) :
    Still exits w (w.without h o) := by
  have hgone : Still exits w ((w.setRegistry (w.registry.unregister h).2).delist o) :=
    (unregister w hother).trans (delist _ o)
  refine hgone.trans (.aside rfl (if_neg fun hp => hother ?_) rfl)
  rw [← hgone.pc]
  exact hp

theorem removeObject (w : World) {h : Handle} (hother : w.pc ≠ some h) :
    Still exits w (w.removeObject h).2 := by
  have hparted : Still exits w (w.parted h) := parted w h
  rcases w.removeObject_cases h with ⟨-, hgone⟩ | ⟨o, -, hremoved⟩
  · rw [hgone]
    exact hparted
  · rw [hremoved]
    exact hparted.trans (without _ (hparted.pc ▸ hother) o)

theorem destroyObject (w : World) {h : Handle} (hother : w.pc ≠ some h) :
    Still exits w (w.destroyObject h).2 := by
  rcases w.destroyObject_cases h with hrefused | ⟨_, -, -, hdestroyed⟩
  · rw [hrefused]
    exact refl w
  · rw [hdestroyed]
    exact removeObject w hother

end Still

end World

end Adventure

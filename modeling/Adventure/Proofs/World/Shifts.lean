import Adventure.Proofs.World.Scene
import Adventure.Proofs.World.Step
import Adventure.Proofs.World.Tracking

/-!
# Loading and unloading as shifts

Conversations begin and end by one shift each. Loading brings objects in together with the areas
that list them, unloading takes them out one by one. Only the latter may take a side of the
conversation away and leave it running: whether that is allowed is left open here, as a predicate on
marks.
-/

namespace Adventure.World

open Object (Abides changed told told_keeps alike_hide area?_isSome ne_of_isGameObject loadArea_keeps
  area?_mapArea)
open Registry (limit handleOf unregister_objects unregister_issued)

variable {P : Mark → Prop} {w w' : World}

/-! ### Scenes of worlds -/

theorem scene_congr (hregistry : w'.registry = w.registry) (hpc : w'.pc = w.pc)
    (hconversation : w'.conversation = w.conversation) : w'.scene = w.scene := by
  unfold scene
  rw [hregistry, hpc, hconversation]

theorem objects_update (hs : w.registry.Sound) (h : Handle) (f : Object → Object) :
    (w.update h f).registry.objects = w.registry.objects.map (changed h f) :=
  Registry.update_objects hs.indexed.valid h f

theorem scene_update (hs : w.registry.Sound) (h : Handle) (f : Object → Object) :
    (w.update h f).scene =
      { w.scene with objects := w.scene.objects.map (changed h f) } := by
  have hissued : (w.update h f).registry.issued = w.registry.issued :=
    Registry.update_issued w.registry h f
  unfold scene
  rw [objects_update hs, hissued]
  rfl

theorem Linked.known (hl : Linked w) : w.scene.Known := by
  have hids : ∀ o ∈ w.registry.objects, o.id.number ≤ w.registry.issued := fun o ho =>
    (hl.sound.given o.id (List.mem_map_of_mem ho)).2
  refine ⟨hids, ?_⟩
  intro o ho a ha
  obtain ⟨b, hb, rfl, -⟩ := hl.placed o ho a ha
  exact hids b hb

theorem shifts_issued (calm : P .calm) (hobjects : w'.registry.objects = w.registry.objects)
    (hissued : w.registry.issued ≤ w'.registry.issued) (hpc : w'.pc = w.pc)
    (hconversation : w'.conversation = w.conversation) : Shifts P w.scene w'.scene := by
  have hscene : w'.scene = { w.scene with issued := w'.registry.issued } := by
    unfold scene
    rw [hobjects, hpc, hconversation]
  rw [hscene]
  exact .shift calm (.issued _ hissued)

theorem shifts_update (calm : P .calm) (hs : w.registry.Sound) (h : Handle) {f : Object → Object}
    (abides : ∀ o, Abides o (f o)) (stays : ∀ o, w.pc ≠ some h → (f o).area = o.area) :
    Shifts P w.scene (w.update h f).scene := by
  rw [scene_update hs]
  refine .shift calm (.inPlace _ (Abides.changed abides) ?_)
  intro o hpc
  unfold changed
  split
  · rename_i ho
    exact stays o (ho ▸ hpc)
  · rfl

theorem shifts_unregister (h : Handle) (hP : P (.left h (w.inConversation h)))
    (hregistry : w'.registry = (w.registry.unregister h).2)
    (hpc : w'.pc = if w.pc = some h then none else w.pc)
    (hconversation : w'.conversation = w.conversation) : Shifts P w.scene w'.scene := by
  have hleft : Shift w.scene (.left h (w.inConversation h)) _ := .left h
  have hscene : w'.scene = { w.scene with
      objects := w.scene.objects.filter fun o => o.id ≠ h
      pc := if w.pc = some h then none else w.pc } := by
    unfold scene
    rw [hregistry, hpc, hconversation, unregister_objects, unregister_issued]
  rw [hscene]
  exact .shift hP hleft

/-! ### Conversations -/

theorem endConversation_conversation (w : World) : w.endConversation.conversation = none := by
  rcases w.endConversation_cases with ⟨hnone, hsame⟩ | ⟨c, -, hended⟩
  · rw [hsame, hnone]
  · rw [hended]
    rfl

theorem scene_endConversation (hl : Linked w) : w.endConversation = w ∨
    ∃ c, w.conversation = some c ∧ w.endConversation.scene = { w.scene with
      objects := w.scene.objects.map (told c.object none), conversation := none } := by
  rcases w.endConversation_cases with ⟨-, hsame⟩ | ⟨c, hc, hended⟩
  · exact Or.inl hsame
  · have hquiet : Linked { w with conversation := none } := hl.congr rfl rfl rfl rfl
    have hscene := scene_update hquiet.sound c.object fun o => { o with pcSpeaker := none }
    rw [hended]
    exact Or.inr ⟨c, hc, hscene⟩

theorem shifts_endConversation (calm : P .calm) (hl : Linked w) :
    Shifts P w.scene w.endConversation.scene := by
  rcases scene_endConversation hl with hsame | ⟨c, hc, hscene⟩
  · rw [hsame]
  · rw [hscene]
    exact .shift calm (.silenced c hc)

theorem attends_endConversation (hl : Linked w) {c : Conversation} (h : w.scene.Attends c) :
    w.endConversation.scene.Attends c := by
  rcases scene_endConversation hl with hsame | ⟨d, -, hscene⟩
  · rw [hsame]
    exact h
  · refine h.mono fun o ho _ => ⟨told d.object none o, ?_, (told_keeps d.object none o).1, ?_⟩
    · rw [hscene]
      exact List.mem_map_of_mem ho
    · exact (told_keeps d.object none o).2.2.2.trans

theorem shifts_startConversation (calm : P .calm) (hl : Linked w) (dialog : String)
    (pc object : Handle) : Shifts P w.scene (w.startConversation dialog pc object).2.scene := by
  rcases w.startConversation_cases dialog pc object with
    hrefused | ⟨player, target, hlive, hisPc, htarget, hstarted⟩
  · rw [hrefused]
  · obtain ⟨hp, hpid⟩ := hl.sound.indexed.get?_eq_some.1 hlive
    obtain ⟨ht, htid⟩ := hl.sound.indexed.get?_eq_some.1 htarget
    let c : Conversation := ⟨dialogFor dialog target, pc, object⟩
    have hattends : w.endConversation.scene.Attends c :=
      attends_endConversation hl ⟨⟨target, ht, htid⟩, player, hp, hpid, hisPc⟩
    have hgiven : object.number ≤ w.endConversation.registry.issued :=
      htid ▸ (hl.known.ids target ht).trans (follows_endConversation w).issued
    have hspoken := Shift.spoken c (endConversation_conversation w) hattends hgiven
    rw [hstarted]
    refine (shifts_endConversation calm hl).trans (Shifts.shift calm ?_)
    show Shift _ .calm { (w.endConversation.update object fun o =>
      { o with pcSpeaker := some pc }).scene with conversation := some c }
    rw [scene_update hl.endConversation.sound]
    exact hspoken

/-! ### Unloading -/

theorem sound_evict (hs : w.registry.Sound) (h : Handle) : (w.evict h).registry.Sound := by
  unfold evict
  split
  · exact hs.update h _ fun o => ⟨(alike_hide o).kin.id, (alike_hide o).kin.tag⟩
  · exact hs.unregister h

theorem evict_conversation (w : World) (h : Handle) : (w.evict h).conversation = w.conversation := by
  unfold evict
  split <;> rfl

theorem shifts_evict (calm : P .calm) (hs : w.registry.Sound) (h : Handle)
    (hP : w.pc ≠ some h → P (.left h (w.inConversation h))) : Shifts P w.scene (w.evict h).scene := by
  unfold evict
  split
  · rename_i hpc
    refine shifts_update calm hs h (fun o => (Abides.of_alike (alike_hide o)).trans ?_) ?_
    · exact .place o.hide none
    · intro o hne
      exact absurd hpc hne
  · rename_i hpc
    exact shifts_unregister h (hP hpc) rfl (if_neg hpc).symm rfl

theorem shifts_evictAll (calm : P .calm) (hs : w.registry.Sound) (hs' : List Handle)
    (hP : ∀ h ∈ hs', w.pc ≠ some h → P (.left h (w.inConversation h))) :
    Shifts P w.scene (hs'.foldl evict w).scene := by
  induction hs' generalizing w with
  | nil => exact .refl
  | cons h hs' ih =>
    refine (shifts_evict calm hs h (hP h List.mem_cons_self)).trans (ih (sound_evict hs h) ?_)
    intro k hk hpc
    rw [(Linked.evict_rest w h).2.2] at hpc
    unfold inConversation
    rw [evict_conversation]
    exact hP k (List.mem_cons_of_mem h hk) hpc

theorem evictAll_conversation (w : World) (hs : List Handle) :
    (hs.foldl evict w).conversation = w.conversation := by
  induction hs generalizing w with
  | nil => rfl
  | cons h hs ih => exact (ih (w.evict h)).trans (evict_conversation w h)

theorem unloadArea_conversation (w : World) (area : Handle) :
    (w.unloadArea area).conversation = w.conversation := by
  rcases w.unloadArea_cases area with ⟨-, hsame⟩ | ⟨-, noted, hclosed⟩
  · rw [hsame]
  · rw [hclosed]
    exact evictAll_conversation w (w.registry.inArea area)

theorem unloadAreas_conversation (w : World) (areas : List Handle) :
    (areas.foldl unloadArea w).conversation = w.conversation := by
  induction areas generalizing w with
  | nil => rfl
  | cons area areas ih => exact (ih _).trans (unloadArea_conversation w area)

/-- The area goes with everything in it but the player's creature. -/
def goesWith (w : World) (area h : Handle) : Prop :=
  h = area ∨ h ∈ w.registry.inArea area ∧ w.pc ≠ some h

theorem shifts_unloadArea (calm : P .calm) (hl : Linked w) (area : Handle)
    (hP : w.isArea area = true → ∀ h, w.goesWith area h → P (.left h (w.inConversation h))) :
    Shifts P w.scene (w.unloadArea area).scene := by
  rcases w.unloadArea_cases area with ⟨-, hsame⟩ | ⟨harea, noted, hclosed⟩
  · rw [hsame]
  · have hkept := (evictAll_notes w (w.registry.inArea area)).1
    have htalk := evictAll_conversation w (w.registry.inArea area)
    rw [hclosed]
    refine (shifts_evictAll calm hl.sound (w.registry.inArea area) ?_).trans ?_
    · intro h hh hne
      exact hP harea h (Or.inr ⟨hh, hne⟩)
    · refine shifts_unregister area ?_ rfl ?_ rfl
      · unfold inConversation
        rw [htalk]
        exact hP harea area (Or.inl rfl)
      · rw [hkept, if_neg (hl.pc_ne_area harea)]
        exact hkept

theorem unload_conversation (w : World) : w.unload.conversation = none :=
  (unloadAreas_conversation _ _).trans (endConversation_conversation _)

theorem shifts_unload (calm : P .calm) (w : World) : Shifts P w.scene w.unload.scene := by
  have hissued := Shift.issued (s := w.scene) w.unload.registry.issued (follows_unload w).issued
  have hcleared := Shift.cleared (s := { w.scene with issued := w.unload.registry.issued })
  have hscene : w.unload.scene = ⟨[], w.unload.registry.issued, none, none⟩ := by
    unfold scene
    rw [unload_conversation]
    rfl
  rw [hscene]
  exact (Shifts.shift calm hissued).trans (Shifts.shift calm hcleared)

/-! ### Loading -/

theorem shifts_arrived (calm : P .calm) (hl : Linked w) {news : List Object}
    (hobjects : w'.registry.objects = w.registry.objects ++ news)
    (hissued : w.registry.issued ≤ w'.registry.issued) (hpc : w'.pc = w.pc)
    (hconversation : w'.conversation = w.conversation)
    (arrivals : w.scene.Arrivals w'.registry.issued news) : Shifts P w.scene w'.scene := by
  have hscene : w'.scene = { w.scene with
      objects := w.scene.objects ++ news, issued := w'.registry.issued } := by
    unfold scene
    rw [hobjects, hpc, hconversation]
  rw [hscene]
  exact .shift calm (.arrived news _ hl.known arrivals hissued)

theorem Scene.arrivals_single {s : Scene} {o : Object} {n : Nat}
    (fresh : s.issued < o.id.number ∧ o.id.number ≤ n) (quiet : o.pcSpeaker = none)
    (unplaced : o.area = none) (plain : o.area? = none) : s.Arrivals n [o] := by
  have hplain : ∀ b ∈ [o], b.area? = none := by
    intro b hb
    rw [List.mem_singleton.1 hb]
    exact plain
  refine ⟨?_, ?_, ?_, ?_, ?_, ?_⟩
  · intro b hb
    rw [List.mem_singleton.1 hb]
    exact fresh
  · intro b hb
    rw [List.mem_singleton.1 hb]
    exact quiet
  · intro b hb a ha
    rw [List.mem_singleton.1 hb, unplaced] at ha
    cases ha
  all_goals
    intro b hb a ha
    rw [hplain b hb] at ha
    cases ha

theorem newArea_area? (w : World) (resref : String) (are : Record) :
    (w.newArea resref are).area? = some
      ((w.placing resref).placed.foldl (fun a o => a.addObject o.id) ⟨resref, []⟩) := by
  obtain ⟨-, -, hdetails⟩ := loadArea_keeps w.library resref are
    (.blank (handleOf (w.registry.issued + 1)) (.area ⟨resref, []⟩))
  unfold newArea
  simp only
  rw [area?_mapArea, Object.area?, hdetails]
  rfl

theorem newArea_pcSpeaker (w : World) (resref : String) (are : Record) :
    (w.newArea resref are).pcSpeaker = none := by
  have hkept : ∀ (o : Object) (f : Area → Area), (o.mapArea f).pcSpeaker = o.pcSpeaker :=
    fun o f => (Object.relisted_mapArea o f).pcSpeaker
  unfold newArea
  simp only
  rw [hkept]
  unfold Object.loadArea
  simp only
  split <;> rfl

/-- The objects of a new area are in it and on its list, and the area itself is in none. -/
theorem arrivals_newArea (w : World) (resref : String) (are : Record)
    (hlimit : (w.addArea resref are).2.registry.issued < limit) :
    w.scene.Arrivals (w.addArea resref are).2.registry.issued
      (w.newArea resref are :: (w.placing resref).placed) := by
  have hadded := w.areaAdded resref are
  have hissued := hadded.final_issued
  rw [hissued] at hlimit
  have hnumbered := hadded.numbered hlimit
  have hlist := w.newArea_area? resref are
  have hquiet := w.newArea_pcSpeaker resref are
  generalize w.newArea resref are = area at hadded hnumbered hlist hquiet
  generalize (w.placing resref).placed = placed at hadded hnumbered hlist
  have hareas : ∀ b ∈ area :: placed, ∀ a, b.area? = some a → b = area := by
    intro b hb a ha
    exact hadded.eq_area hb ((area?_isSome b).1 (by rw [ha]; rfl))
  have hmem : ∀ a, area.area? = some a → ∀ h, h ∈ a.objects ↔ ∃ o ∈ placed, o.id = h := by
    intro a ha h
    rw [hlist, Option.some_inj] at ha
    rw [← ha, Area.mem_addObjects]
    simp
  refine ⟨?_, ?_, ?_, ?_, ?_, ?_⟩
  · rw [hissued]
    exact hnumbered.given
  · intro o ho
    rcases List.mem_cons.1 ho with rfl | ho
    · exact hquiet
    · exact (hadded.each o ho).pcSpeaker
  · intro o ho a ha
    refine ⟨area, List.mem_cons_self, ?_⟩
    rcases List.mem_cons.1 ho with rfl | ho
    · rw [hadded.unplaced] at ha
      cases ha
    · rw [(hadded.each o ho).area, Option.some_inj] at ha
      exact hadded.id.trans ha
  · intro b hb a ha
    rw [hareas b hb a ha, hlist, Option.some_inj] at ha
    rw [← ha]
    exact Area.nodup_addObjects placed List.nodup_nil
  · intro b hb a ha h hh
    rw [hareas b hb a ha] at ha
    obtain ⟨o, ho, hid⟩ := (hmem a ha h).1 hh
    exact ⟨o, List.mem_cons_of_mem area ho, hid⟩
  · intro b hb a ha o ho
    have hb' := hareas b hb a ha
    rw [hb'] at ha ⊢
    rw [hmem a ha]
    rcases List.mem_cons.1 ho with rfl | ho
    · rw [hadded.unplaced]
      refine ⟨?_, fun hnone => nomatch hnone⟩
      rintro ⟨o, ho, hid⟩
      exact absurd hid (hadded.placed_ne hlimit ho)
    · rw [(hadded.each o ho).area, hadded.id]
      exact ⟨fun _ => rfl, fun _ => ⟨o, ho, rfl⟩⟩

theorem shifts_addArea (calm : P .calm) (hl : Linked w) (resref : String) (are : Record)
    (hlimit : (w.addArea resref are).2.registry.issued < limit) :
    Shifts P w.scene (w.addArea resref are).2.scene := by
  have hadded := w.areaAdded resref are
  exact shifts_arrived calm hl (hadded.settled hl.sound hlimit).2
    (follows_addArea w resref are).issued hadded.rest.2 rfl (arrivals_newArea w resref are hlimit)

theorem shifts_loadArea (calm : P .calm) (hl : Linked w) (resref : String)
    (hlimit : (w.loadArea resref).2.registry.issued < limit) :
    Shifts P w.scene (w.loadArea resref).2.scene := by
  rcases w.loadArea_cases resref with hsame | ⟨are, -, hadded⟩
  · rw [hsame]
  · rw [hadded] at hlimit ⊢
    exact shifts_addArea calm hl resref are hlimit

theorem shifts_loadAreas (calm : P .calm) (hl : Linked w) (areas : List String)
    (hlimit : (areas.foldl (fun w area => (w.loadArea area).2) w).registry.issued < limit) :
    Shifts P w.scene (areas.foldl (fun w area => (w.loadArea area).2) w).scene := by
  induction areas generalizing w with
  | nil => exact .refl
  | cons area areas ih =>
    have hnext := (follows_foldl follows_loadArea areas (w.loadArea area).2).issued
    have hfirst := hnext.trans_lt hlimit
    exact (shifts_loadArea calm hl area hfirst).trans (ih (hl.loadArea area hfirst) hlimit)

theorem shifts_newest (calm : P .calm) (hl : Linked w) {o : Object}
    (hregistry : w'.registry = w.registry.issue.2.register o) (hpc : w'.pc = w.pc)
    (hconversation : w'.conversation = w.conversation)
    (hid : o.id = handleOf (w.registry.issued + 1)) (hlimit : w.registry.issued + 1 < limit)
    (quiet : o.pcSpeaker = none) (unplaced : o.area = none) (plain : o.area? = none) :
    Shifts P w.scene w'.scene := by
  obtain ⟨-, hobjects⟩ :=
    Linked.register_newest hl.sound w.registry.issue.2 rfl rfl rfl hlimit hid
  have hissued : w'.registry.issued = w.registry.issued + 1 := by
    rw [hregistry, Registry.register_issued]
    rfl
  have hnumber := Registry.number_of_newest hid hlimit
  refine shifts_arrived calm hl (hregistry ▸ hobjects) (by omega) hpc hconversation ?_
  refine Scene.arrivals_single ⟨?_, by omega⟩ quiet unplaced plain
  show w.registry.issued < o.id.number
  omega

theorem shifts_addModule (calm : P .calm) (hl : Linked w) (name : String) (ifo : Record)
    (hnone : w.moduleId.isValid = false)
    (hlimit : (w.addModule name ifo).registry.issued < limit) :
    Shifts P w.scene (w.addModule name ifo).scene := by
  obtain ⟨o, areas, events, hid, hkind, harea, hquiet, hadded⟩ := w.addModule_parts name ifo
  rw [hadded] at hlimit ⊢
  have hnext := Linked.withModule_limit hlimit
  have hplain : o.area? = none := by
    rw [← Option.not_isSome_iff_eq_none, area?_isSome, hkind]
    exact ObjectKind.noConfusion
  have hobject : Shifts P w.scene (w.withModule o).scene :=
    shifts_newest calm hl rfl rfl rfl hid hnext hquiet harea hplain
  exact hobject.trans
    (shifts_loadAreas calm (hl.withModule hnone hid hkind harea hnext).1 areas hlimit)

theorem shifts_loadModule (calm : P .calm) (hl : Linked w) (name : String)
    (hlimit : (w.loadModule name).2.registry.issued < limit) :
    Shifts P w.scene (w.loadModule name).2.scene := by
  have hcleared : Shifts P w.scene w.cleared.scene := by
    unfold cleared
    split
    · exact shifts_unload calm w
    · exact .refl
  rcases w.loadModule_cases name with hfailed | ⟨ifo, hadded⟩
  · rw [hfailed]
    exact hcleared
  · rw [hadded] at hlimit ⊢
    exact hcleared.trans (shifts_addModule calm hl.cleared name ifo w.cleared_moduleId hlimit)

end Adventure.World

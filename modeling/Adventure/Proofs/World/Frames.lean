import Adventure.Proofs.World.Schedule
import Adventure.World.Searching

/-!
# What operations leave alone

No operation of a world throws the dice. Most leave the objects where they are in the registry, each
with its handle, its tag and its kind, even if they change something else about them; and some leave
the registry and all that refers to it untouched.
-/

namespace Adventure.World

open Object (Same)

variable {w w' w₁ w₂ w₃ : World}

/-! ### Changes of nothing -/

theorem update_dead {h : Handle} (hdead : w.get? h = none) (f : Object → Object) :
    w.update h f = w := by
  have hsame : w.registry.update h f = w.registry := by
    unfold get? Registry.get? at hdead
    unfold Registry.update
    cases hv : h.isValid with
    | false => rfl
    | true =>
      rw [hv, if_pos rfl] at hdead
      have hother : ∀ o ∈ w.registry.objects, (if o.id = h then f o else o) = o := by
        intro o ho
        have hne := List.find?_eq_none.1 hdead o ho
        exact if_neg fun hid => hne (decide_eq_true hid)
      rw [if_pos rfl, List.map_congr_left hother, List.map_id']
  unfold update
  rw [hsame]

/-! ### Untouched worlds -/

/-- The objects with all that belongs to them, their tags, the areas, the player's creature and the
conversation are as they were. -/
structure Untouched (w w' : World) : Prop where
  registry : w'.registry = w.registry
  areas : w'.areas = w.areas
  pc : w'.pc = w.pc
  currentArea : w'.currentArea = w.currentArea
  conversation : w'.conversation = w.conversation

namespace Untouched

theorem refl (w : World) : Untouched w w := ⟨rfl, rfl, rfl, rfl, rfl⟩

theorem logEvent (w : World) (event : String) : Untouched w (w.logEvent event) :=
  ⟨rfl, rfl, rfl, rfl, rfl⟩

theorem nextInArea (w : World) (caller area : Handle) :
    Untouched w (w.nextInArea caller area).2 := by
  unfold World.nextInArea
  split
  · exact refl w
  · exact ⟨rfl, rfl, rfl, rfl, rfl⟩

theorem firstInArea (w : World) (caller area : Handle) :
    Untouched w (w.firstInArea caller area).2 := by
  have hnext := nextInArea (w.setWalk caller area
    (.ofList ((w.registry.inArea area).filter fun h => w.pc ≠ some h))) caller area
  exact ⟨hnext.registry, hnext.areas, hnext.pc, hnext.currentArea, hnext.conversation⟩

end Untouched

/-! ### Objects kept one by one -/

/-- The same objects are there in the same order, each as what it has become, and no handle has been
given out. -/
structure Keeps (w w' : World) : Prop where
  objects : ∃ f, (∀ o, Same o (f o)) ∧ w'.registry.objects = w.registry.objects.map f
  issued : w'.registry.issued = w.registry.issued

namespace Keeps

theorem refl (w : World) : Keeps w w := ⟨⟨id, Same.refl, (List.map_id _).symm⟩, rfl⟩

theorem trans (first : Keeps w₁ w₂) (second : Keeps w₂ w₃) : Keeps w₁ w₃ := by
  obtain ⟨f, hf, hobjects⟩ := first.objects
  obtain ⟨g, hg, hobjects'⟩ := second.objects
  refine ⟨⟨g ∘ f, fun o => (hf o).trans (hg (f o)), ?_⟩, second.issued.trans first.issued⟩
  rw [hobjects', hobjects, List.map_map]

theorem ids (h : Keeps w w') : w'.registry.ids = w.registry.ids := by
  obtain ⟨f, hf, hobjects⟩ := h.objects
  unfold Registry.ids
  rw [hobjects, List.map_map]
  exact List.map_congr_left fun o _ => (hf o).id

theorem of_registry (h : w'.registry = w.registry) : Keeps w w' := by
  obtain ⟨f, hf, hobjects⟩ := (refl w).objects
  exact ⟨⟨f, hf, by rw [h, ← hobjects]⟩, by rw [h]⟩

theorem update (w : World) (h : Handle) {f : Object → Object} (hf : ∀ o, Same o (f o)) :
    Keeps w (w.update h f) := by
  refine ⟨?_, Registry.update_issued _ _ _⟩
  show ∃ g, (∀ o, Same o (g o)) ∧ (w.registry.update h f).objects = w.registry.objects.map g
  unfold Registry.update
  split
  · refine ⟨fun o => if o.id = h then f o else o, fun o => ?_, rfl⟩
    simp only
    split
    · exact hf o
    · exact .refl o
  · exact (refl w).objects

theorem setAreaVisible (w : World) (area : Handle) (visible : Bool) :
    Keeps w (w.setAreaVisible area visible) := by
  unfold World.setAreaVisible
  generalize w.registry.inArea area = hs
  induction hs generalizing w with
  | nil => exact refl w
  | cons h hs ih =>
    refine (update w h fun o => ?_).trans (ih _)
    split
    · exact (Object.alike_reveal o).kin.same
    · exact (Object.alike_hide o).kin.same

theorem changeLists (w : World) (h old new : Handle) : Keeps w (w.changeLists h old new) := by
  have hleft := update w old fun o => (Object.kin_mapArea o fun a =>
    Object.resref_removeObject a h).same
  exact hleft.trans (update _ new fun o => (Object.kin_mapArea o fun a =>
    Object.resref_addObject a h).same)

theorem changeArea (w : World) (h current area : Handle) :
    Keeps w (w.changeArea h current area) := by
  have hmoved : Keeps w
      (w.update h (transfer (w.pcArea? = some current) (w.pcArea? = some area) area)) :=
    update w h fun o => (Object.same_area o _).trans (kin_transfer _ _ area o).same
  rw [changeArea_eq]
  simp only
  split
  · exact hmoved
  · exact hmoved.trans (changeLists _ h current area)

theorem relocate (w : World) (h current area : Handle) (position : Vec3) :
    Keeps w (w.relocate h current area position) := by
  have hmoved : Keeps w (if current = area then w else w.changeArea h current area) := by
    split
    · exact refl w
    · exact changeArea w h current area
  exact hmoved.trans (update _ h fun o => (Object.alike_setPosition o position).kin.same)

theorem endConversation (w : World) : Keeps w w.endConversation := by
  rcases w.endConversation_cases with ⟨-, hsame⟩ | ⟨c, -, hended⟩
  · rw [hsame]
    exact refl w
  · have htold := update w c.object fun o => (Object.kin_pcSpeaker o none).same
    rw [hended]
    exact ⟨htold.objects, htold.issued⟩

theorem startConversation (w : World) (dialog : String) (pc object : Handle) :
    Keeps w (w.startConversation dialog pc object).2 := by
  rcases w.startConversation_cases dialog pc object with hrefused | ⟨_, _, -, -, -, hstarted⟩
  · rw [hrefused]
    exact refl w
  · have htold := (endConversation w).trans (update w.endConversation object fun o =>
      (Object.kin_pcSpeaker o (some pc)).same)
    rw [hstarted]
    exact ⟨htold.objects, htold.issued⟩

theorem parted (w : World) (h : Handle) : Keeps w (w.parted h) := by
  rcases w.parted_cases h with ⟨-, hsame⟩ | ⟨-, hended⟩
  · rw [hsame]
    exact refl w
  · rw [hended]
    exact endConversation w

end Keeps

/-! ### The dice -/

theorem foldl_dice {β : Type} {f : World → β → World} (hf : ∀ w b, (f w b).dice = w.dice)
    (bs : List β) (w : World) : (bs.foldl f w).dice = w.dice := by
  induction bs generalizing w with
  | nil => rfl
  | cons b bs ih => exact (ih (f w b)).trans (hf w b)

theorem setAreaVisible_dice (w : World) (area : Handle) (visible : Bool) :
    (w.setAreaVisible area visible).dice = w.dice := by
  refine foldl_dice (fun w h => ?_) (w.registry.inArea area) w
  rfl

theorem relocate_dice (w : World) (h current area : Handle) (position : Vec3) :
    (w.relocate h current area position).dice = w.dice := by
  show (if current = area then w else w.changeArea h current area).dice = w.dice
  split
  · rfl
  · rw [changeArea_eq]
    simp only
    split <;> rfl

theorem endConversation_dice (w : World) : w.endConversation.dice = w.dice := by
  rcases w.endConversation_cases with ⟨-, hsame⟩ | ⟨c, -, hended⟩
  · rw [hsame]
  · rw [hended]
    rfl

theorem startConversation_dice (w : World) (dialog : String) (pc object : Handle) :
    (w.startConversation dialog pc object).2.dice = w.dice := by
  rcases w.startConversation_cases dialog pc object with hrefused | ⟨_, _, -, -, -, hstarted⟩
  · rw [hrefused]
  · rw [hstarted]
    exact endConversation_dice w

theorem nextInArea_dice (w : World) (caller area : Handle) :
    (w.nextInArea caller area).2.dice = w.dice := by
  unfold nextInArea
  split <;> rfl

theorem firstInArea_dice (w : World) (caller area : Handle) :
    (w.firstInArea caller area).2.dice = w.dice :=
  nextInArea_dice (w.setWalk caller area _) caller area

theorem createObject_dice (w : World) (t : ObjectType) (template : String) (place : Location)
    (tag : String) : (w.createObject t template place tag).2.dice = w.dice := by
  rcases w.createObject_cases t template place tag with
    ⟨e, hfailed⟩ | ⟨e, hfailed⟩ | ⟨_, _, _, _, _, -, -, -, hcreated⟩
  · rw [hfailed]
  · rw [hfailed]
    rfl
  · rw [hcreated]
    rfl

theorem delist_dice (w : World) (o : Object) : (w.delist o).dice = w.dice := by
  unfold delist
  split <;> rfl

theorem parted_dice (w : World) (h : Handle) : (w.parted h).dice = w.dice := by
  rcases w.parted_cases h with ⟨-, hsame⟩ | ⟨-, hended⟩
  · rw [hsame]
  · rw [hended]
    exact endConversation_dice w

theorem removeObject_dice (w : World) (h : Handle) : (w.removeObject h).2.dice = w.dice := by
  rcases w.removeObject_cases h with ⟨-, hgone⟩ | ⟨o, -, hremoved⟩
  · rw [hgone]
    exact parted_dice w h
  · rw [hremoved]
    exact (delist_dice _ o).trans (parted_dice w h)

theorem destroyObject_dice (w : World) (h : Handle) : (w.destroyObject h).2.dice = w.dice := by
  rcases w.destroyObject_cases h with hrefused | ⟨o, -, -, hdestroyed⟩
  · rw [hrefused]
  · rw [hdestroyed]
    exact removeObject_dice w h

theorem vacate_dice (w : World) (h : Handle) : (w.vacate h).dice = w.dice := by
  unfold vacate
  split
  · split <;> rfl
  · rfl

theorem usePc_dice (w : World) (h : Handle) : (w.usePc h).2.dice = w.dice := by
  rcases w.usePc_cases h with ⟨-, hrefused⟩ | ⟨o, -, -, hused⟩
  · rw [hrefused]
  · rw [hused]
    exact vacate_dice (w.flag h) h

theorem loadPc_dice (w : World) (r : Record) : (w.loadPc r).2.dice = w.dice := by
  rcases w.loadPc_cases r with ⟨e, hfailed⟩ | ⟨o, models, -, hloaded⟩
  · rw [hfailed]
    rfl
  · rw [hloaded]
    exact usePc_dice _ _

theorem placeAtEntry_dice (w : World) : w.placeAtEntry.2.dice = w.dice := by
  rcases w.placeAtEntry_cases with ⟨e, hfailed⟩ | ⟨pc, m, area, -, -, -, hplaced⟩
  · rw [hfailed]
  · rw [hplaced]
    rfl

theorem loadArea_dice (w : World) (resref : String) : (w.loadArea resref).2.dice = w.dice := by
  rcases w.loadArea_cases resref with hsame | ⟨are, -, hadded⟩
  · rw [hsame]
  · rw [hadded]
    rfl

theorem evict_dice (w : World) (h : Handle) : (w.evict h).dice = w.dice := by
  unfold evict
  split <;> rfl

theorem unloadArea_dice (w : World) (area : Handle) : (w.unloadArea area).dice = w.dice := by
  rcases w.unloadArea_cases area with ⟨-, hsame⟩ | ⟨-, noted, hclosed⟩
  · rw [hsame]
  · rw [hclosed]
    exact foldl_dice evict_dice (w.registry.inArea area) w

theorem unload_dice (w : World) : w.unload.dice = w.dice := by
  have hended := endConversation_dice { w with queue := .empty, walks := [] }
  exact (foldl_dice unloadArea_dice _ _).trans hended

theorem addModule_dice (w : World) (name : String) (ifo : Record) :
    (w.addModule name ifo).dice = w.dice := by
  obtain ⟨o, areas, events, -, -, -, -, hadded⟩ := w.addModule_parts name ifo
  rw [hadded]
  exact foldl_dice loadArea_dice areas (w.withModule o)

theorem loadModule_dice (w : World) (name : String) : (w.loadModule name).2.dice = w.dice := by
  have hcleared : w.cleared.dice = w.dice := by
    unfold cleared
    split
    · exact unload_dice w
    · rfl
  rcases w.loadModule_cases name with hfailed | ⟨ifo, hadded⟩
  · rw [hfailed]
    exact hcleared
  · rw [hadded]
    exact (addModule_dice w.cleared name ifo).trans hcleared

/-! ### Quiet steps -/

/-- The objects are kept and no dice are thrown. -/
structure Quiet (w w' : World) : Prop extends Keeps w w' where
  dice : w'.dice = w.dice

namespace Quiet

theorem trans (first : Quiet w₁ w₂) (second : Quiet w₂ w₃) : Quiet w₁ w₃ :=
  ⟨first.toKeeps.trans second.toKeeps, second.dice.trans first.dice⟩

theorem aside (registry : w'.registry = w.registry) (dice : w'.dice = w.dice) : Quiet w w' :=
  ⟨.of_registry registry, dice⟩

theorem update (w : World) (h : Handle) {f : Object → Object} (hf : ∀ o, Same o (f o)) :
    Quiet w (w.update h f) := ⟨.update w h hf, rfl⟩

theorem setAreaVisible (w : World) (area : Handle) (visible : Bool) :
    Quiet w (w.setAreaVisible area visible) := ⟨.setAreaVisible w area visible,
      setAreaVisible_dice w area visible⟩

theorem relocate (w : World) (h current area : Handle) (position : Vec3) :
    Quiet w (w.relocate h current area position) := ⟨.relocate w h current area position,
      relocate_dice w h current area position⟩

end Quiet

end Adventure.World

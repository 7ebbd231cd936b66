import Adventure.Proofs.Object.Locals
import Adventure.Proofs.World.Frames

/-!
# What operations do to local variables

Nothing. Whatever is done with a world but setting and deleting variables, every object that stays
has the variables that it had, and an object that comes in has none. Handles are not given out
twice, so what comes in cannot be taken for something that was there before.
-/

namespace Adventure

open Object (Same same_area same_mapCreature kin_pcSpeaker kin_mapArea resref_addObject
  resref_removeObject alike_setPosition alike_setFacing alike_reveal alike_hide built_load)

/-! ### Registries -/

namespace Registry

variable {r r₀ r' : Registry}

/-- Every object of the second registry has the variables that it had in the first one, or it has
none and its handle was given out since. -/
structure Retains (r r' : Registry) : Prop where
  issued : r.issued ≤ r'.issued
  objects : r'.issued < limit → ∀ o' ∈ r'.objects,
    (∃ o ∈ r.objects, o'.id = o.id ∧ o'.locals = o.locals) ∨
      (r.issued < o'.id.number ∧ o'.id.number ≤ r'.issued) ∧ o'.locals = .empty

namespace Retains

theorem of_kept (hissued : r.issued ≤ r'.issued)
    (hobjects : ∀ o' ∈ r'.objects, ∃ o ∈ r.objects, o'.id = o.id ∧ o'.locals = o.locals) :
    Retains r r' := ⟨hissued, fun _ o' ho' => .inl (hobjects o' ho')⟩

theorem refl (r : Registry) : Retains r r :=
  of_kept (Nat.le_refl _) fun o ho => ⟨o, ho, rfl, rfl⟩

theorem trans {a b c : Registry} (hab : Retains a b) (hbc : Retains b c) : Retains a c := by
  refine ⟨hab.issued.trans hbc.issued, fun hlimit o hc => ?_⟩
  have hmid : b.issued < limit := Nat.lt_of_le_of_lt hbc.issued hlimit
  rcases hbc.objects hlimit o hc with ⟨o₁, hb, hid, hlocals⟩ | ⟨⟨hlow, hhigh⟩, hempty⟩
  · rcases hab.objects hmid o₁ hb with ⟨o₀, ha, hid₀, hlocals₀⟩ | ⟨⟨hlow, hhigh⟩, hempty⟩
    · exact .inl ⟨o₀, ha, hid.trans hid₀, hlocals.trans hlocals₀⟩
    · rw [← hid] at hlow hhigh
      exact .inr ⟨⟨hlow, hhigh.trans hbc.issued⟩, hlocals.trans hempty⟩
  · exact .inr ⟨⟨Nat.lt_of_le_of_lt hab.issued hlow, hhigh⟩, hempty⟩

theorem issue (r : Registry) : Retains r r.issue.2 :=
  of_kept (Nat.le_succ _) fun o ho => ⟨o, ho, rfl, rfl⟩

theorem update (r : Registry) (h : Handle) {f : Object → Object} (hf : ∀ o, Same o (f o))
    (hlocals : ∀ o, (f o).locals = o.locals) : Retains r (r.update h f) := by
  refine of_kept (by simp) fun o' ho' => ?_
  unfold Registry.update at ho'
  split at ho'
  · obtain ⟨o, ho, rfl⟩ := List.mem_map.1 ho'
    refine ⟨o, ho, ?_⟩
    split
    · exact ⟨(hf o).id, hlocals o⟩
    · exact ⟨rfl, rfl⟩
  · exact ⟨o', ho', rfl, rfl⟩

theorem retag (r : Registry) (h : Handle) (tag : String) : Retains r (r.retag h tag).2 := by
  refine of_kept (Nat.le_of_eq (retag_issued r h tag).symm) fun o' ho' => ?_
  rw [retag_objects] at ho'
  obtain ⟨o, ho, rfl⟩ := List.mem_map.1 ho'
  refine ⟨o, ho, ?_⟩
  split
  · exact ⟨rfl, rfl⟩
  · exact ⟨rfl, rfl⟩

theorem unregister (r : Registry) (h : Handle) : Retains r (r.unregister h).2 := by
  refine of_kept (by simp) fun o ho => ?_
  rw [unregister_objects] at ho
  exact ⟨o, List.mem_of_mem_filter ho, rfl, rfl⟩

theorem registerAll {os : List Object} (h : Retains r₀ r)
    (hos : r.issued < limit → ∀ o ∈ os, (r₀.issued < o.id.number ∧ o.id.number ≤ r.issued) ∧
      o.locals = .empty) : Retains r₀ (os.foldl Registry.register r) := by
  have hissued := Follows.registerAll_issued os r
  refine ⟨hissued ▸ h.issued, fun hlimit o ho => ?_⟩
  rw [hissued] at hlimit ⊢
  rcases Follows.mem_registerAll ho with hm | hm
  · exact h.objects hlimit o hm
  · exact .inr (hos hlimit o hm)

theorem register {o : Object} (h : Retains r₀ r) (hid : o.id = handleOf (r₀.issued + 1))
    (hissued : r.issued = r₀.issued + 1) (hempty : o.locals = .empty) :
    Retains r₀ (r.register o) := by
  show Retains r₀ ([o].foldl Registry.register r)
  refine h.registerAll fun hlimit a ha => ?_
  obtain rfl := List.mem_singleton.1 ha
  rw [hissued] at hlimit
  have hnumber := number_of_newest hid hlimit
  exact ⟨⟨by omega, by omega⟩, hempty⟩

end Retains

end Registry

/-! ### Worlds -/

namespace World

open Registry (handleOf update_issued)

variable {w w' w₁ w₂ w₃ : World}

/-- The objects of the second world have the variables that they had in the first one. -/
abbrev Retains (w w' : World) : Prop := Registry.Retains w.registry w'.registry

theorem retains_of_registry (h : w'.registry = w.registry) : Retains w w' := by
  unfold Retains
  rw [h]
  exact .refl w.registry

theorem retains_update (w : World) (h : Handle) {f : Object → Object} (hf : ∀ o, Same o (f o))
    (hlocals : ∀ o, (f o).locals = o.locals) : Retains w (w.update h f) :=
  .update w.registry h hf hlocals

theorem retains_retag (w : World) (h : Handle) (tag : String) :
    Retains w (w.setRegistry (w.registry.retag h tag).2) :=
  .retag w.registry h tag

theorem retains_foldl {α : Type} {f : World → α → World} (hf : ∀ w a, Retains w (f w a))
    (l : List α) (w : World) : Retains w (l.foldl f w) := by
  induction l generalizing w with
  | nil => exact .refl w.registry
  | cons a l ih => exact (hf w a).trans (ih (f w a))

theorem retains_mapArea (w : World) (h : Handle) {f : Area → Area}
    (hf : ∀ a, (f a).resref = a.resref) : Retains w (w.update h fun o => o.mapArea f) :=
  retains_update w h (fun o => (kin_mapArea o hf).same) (by simp)

theorem retains_setAreaVisible (w : World) (area : Handle) (visible : Bool) :
    Retains w (w.setAreaVisible area visible) := by
  refine retains_foldl (fun w h => retains_update w h (fun o => ?_) fun o => ?_) _ w
  · split
    · exact (alike_reveal o).kin.same
    · exact (alike_hide o).kin.same
  · split <;> simp

/-! ### Conversations -/

theorem retains_endConversation (w : World) : Retains w w.endConversation := by
  rcases w.endConversation_cases with ⟨-, hsame⟩ | ⟨c, -, hended⟩
  · rw [hsame]
    exact .refl w.registry
  · rw [hended]
    exact retains_update _ c.object (fun o => (kin_pcSpeaker o none).same) fun _ => rfl

theorem retains_startConversation (w : World) (dialog : String) (pc object : Handle) :
    Retains w (w.startConversation dialog pc object).2 := by
  rcases w.startConversation_cases dialog pc object with hrefused | ⟨_, _, -, -, -, hstarted⟩
  · rw [hrefused]
    exact .refl w.registry
  · rw [hstarted]
    exact (retains_endConversation w).trans
      (retains_update _ object (fun o => (kin_pcSpeaker o (some pc)).same) fun _ => rfl)

/-! ### Moving -/

@[simp] theorem transfer_locals (hides shows : Prop) [Decidable hides] [Decidable shows]
    (area : Handle) (o : Object) : (transfer hides shows area o).locals = o.locals := by
  unfold transfer
  simp only
  split <;> split <;> simp

theorem retains_relocate (w : World) (h current area : Handle) (position : Vec3) :
    Retains w (w.relocate h current area position) := by
  have hmoved : Retains w
      (w.update h (transfer (w.pcArea? = some current) (w.pcArea? = some area) area)) :=
    retains_update w h (fun o => (same_area o _).trans (kin_transfer _ _ area o).same) (by simp)
  have hchanged : Retains w (w.changeArea h current area) := by
    rw [changeArea_eq]
    simp only
    split
    · exact hmoved
    · refine hmoved.trans ((retains_mapArea _ current fun a => resref_removeObject a h).trans ?_)
      exact retains_mapArea _ area fun a => resref_addObject a h
  have hposed : ∀ u : World, Retains u (u.update h fun o => o.setPosition position) := fun u =>
    retains_update u h (fun o => (alike_setPosition o position).kin.same) fun _ => rfl
  unfold relocate
  refine Registry.Retains.trans ?_ (hposed _)
  split
  · exact .refl w.registry
  · exact hchanged

/-! ### Areas and modules -/

theorem add_locals (library : Library) (area : Handle) (p : Placing) (kind : Object.PlacedKind)
    (placed : Record) (hp : ∀ o ∈ p.placed, o.locals = .empty) :
    ∀ o ∈ (p.add library area kind placed).placed, o.locals = .empty := by
  intro o ho
  unfold Placing.add at ho
  simp only [Registry.issue] at ho
  split at ho
  · rename_i built models hload
    rcases List.mem_append.1 ho with ho | ho
    · exact hp o ho
    · obtain rfl := List.mem_singleton.1 ho
      have hlocals := Object.loadInstance_locals hload
      exact hlocals
  · exact hp o ho

theorem placing_locals (w : World) (resref : String) :
    ∀ o ∈ (w.placing resref).placed, o.locals = .empty := by
  unfold placing
  refine List.foldlRecOn (motive := fun p : Placing => ∀ o ∈ p.placed, o.locals = .empty)
    _ _ ?_ ?_
  · exact fun o ho => absurd ho List.not_mem_nil
  · exact fun p hp entry _ => add_locals w.library _ p entry.1 entry.2 hp

theorem retains_addArea (w : World) (resref : String) (are : Record) :
    Retains w (w.addArea resref are).2 := by
  have hadded := w.areaAdded resref are
  have hbefore : Registry.Retains w.registry (w.placing resref).registry :=
    .of_kept (Nat.le_of_lt hadded.issued) fun o ho => ⟨o, hadded.objects ▸ ho, rfl, rfl⟩
  show Registry.Retains w.registry (w.addArea resref are).2.registry
  rw [hadded.registry]
  refine hbefore.registerAll fun hlimit o ho => ⟨(hadded.numbered hlimit).given o ho, ?_⟩
  rcases List.mem_cons.1 ho with rfl | ho
  · simp [newArea, Object.blank]
  · exact placing_locals w resref o ho

theorem retains_loadArea (w : World) (resref : String) : Retains w (w.loadArea resref).2 := by
  rcases w.loadArea_cases resref with hsame | ⟨are, -, hadded⟩
  · rw [hsame]
    exact .refl w.registry
  · rw [hadded]
    exact retains_addArea w resref are

theorem retains_evict (w : World) (h : Handle) : Retains w (w.evict h) := by
  unfold evict
  split
  · exact retains_update w h (fun o => (alike_hide o).kin.same.trans (same_area _ none)) (by simp)
  · exact .unregister w.registry h

theorem retains_unloadArea (w : World) (area : Handle) : Retains w (w.unloadArea area) := by
  rcases w.unloadArea_cases area with ⟨-, hsame⟩ | ⟨-, noted, hclosed⟩
  · rw [hsame]
    exact .refl w.registry
  · rw [hclosed]
    exact (retains_foldl retains_evict (w.registry.inArea area) w).trans (.unregister _ area)

theorem retains_unload (w : World) : Retains w w.unload :=
  .of_kept (follows_unload w).issued fun _ ho => nomatch ho

theorem retains_addModule (w : World) (name : String) (ifo : Record) :
    Retains w (w.addModule name ifo) := by
  unfold addModule
  simp only
  refine Registry.Retains.trans ?_ (retains_foldl retains_loadArea _ _)
  refine (Registry.Retains.issue w.registry).register ?_ rfl ?_
  · rfl
  · simp [Object.blank]

theorem retains_loadModule (w : World) (name : String) : Retains w (w.loadModule name).2 := by
  have hcleared : Retains w w.cleared := by
    unfold cleared
    split
    · exact retains_unload w
    · exact .refl w.registry
  rcases w.loadModule_cases name with hfailed | ⟨ifo, hadded⟩
  · rw [hfailed]
    exact hcleared
  · rw [hadded]
    exact hcleared.trans (retains_addModule w.cleared name ifo)

/-! ### The player's creature -/

theorem retains_vacate (w : World) (h : Handle) : Retains w (w.vacate h) := by
  unfold vacate
  split
  · split
    · exact .refl w.registry
    · exact .unregister w.registry _
  · exact .refl w.registry

theorem retains_usePc (w : World) (h : Handle) : Retains w (w.usePc h).2 := by
  rcases w.usePc_cases h with ⟨-, hrefused⟩ | ⟨o, -, -, hused⟩
  · rw [hrefused]
    exact .refl w.registry
  · have hflagged : Retains w (w.flag h) :=
      retains_update w h (fun o => same_mapCreature o _) (by simp)
    rw [hused]
    exact hflagged.trans (retains_vacate (w.flag h) h)

theorem retains_loadPc (w : World) (r : Record) : Retains w (w.loadPc r).2 := by
  rcases w.loadPc_cases r with ⟨e, hfailed⟩ | ⟨o, models, hload, hloaded⟩
  · rw [hfailed]
    exact .issue w.registry
  · have hbuilt : Retains w (w.withBuilt o models) :=
      (Registry.Retains.issue w.registry).register (built_load hload).id rfl
        (Object.load_locals hload)
    rw [hloaded]
    exact hbuilt.trans (retains_usePc _ _)

theorem retains_placeAtEntry (w : World) : Retains w w.placeAtEntry.2 := by
  rcases w.placeAtEntry_cases with ⟨e, hfailed⟩ | ⟨pc, m, area, -, -, -, hplaced⟩
  · rw [hfailed]
    exact .refl w.registry
  · rw [hplaced]
    refine retains_update w pc (fun o => (same_area o (some area)).trans ?_) fun _ => rfl
    exact ((alike_setPosition _ _).trans (alike_setFacing _ _)).kin.same

/-! ### Creating and destroying -/

@[simp] theorem dress_locals (template tag : String) (place : Location) (area : Handle)
    (visible : Bool) (o : Object) : (dress template tag place area visible o).locals = o.locals := by
  unfold dress
  simp only
  split <;> split <;> simp

theorem retains_addObject {o : Object} {models : Models} (area : Handle)
    (hid : o.id = handleOf (w.registry.issued + 1)) (hempty : o.locals = .empty) :
    Retains w ({ w with registry := w.registry.issue.2, models }.addObject o area) := by
  have hlisted := (Registry.Retains.issue w.registry).trans
    (.update w.registry.issue.2 area (fun a => (kin_mapArea a fun list =>
      resref_addObject list o.id).same) (by simp))
  unfold addObject
  exact hlisted.register hid (update_issued w.registry.issue.2 area _) hempty

theorem retains_createObject (w : World) (t : ObjectType) (template : String) (place : Location)
    (tag : String) : Retains w (w.createObject t template place tag).2 := by
  rcases w.createObject_cases t template place tag with
    ⟨e, hfailed⟩ | ⟨e, hfailed⟩ | ⟨kind, area, _, o, models, -, -, hload, hcreated⟩
  · rw [hfailed]
    exact .refl w.registry
  · rw [hfailed]
    exact .issue w.registry
  · rw [hcreated]
    refine retains_addObject area ((dressed _ _ _ _ _ o).id.trans (built_load hload).id) ?_
    rw [dress_locals, Object.load_locals hload]
    rfl

theorem retains_parted (w : World) (h : Handle) : Retains w (w.parted h) := by
  rcases w.parted_cases h with ⟨-, hsame⟩ | ⟨-, hended⟩
  · rw [hsame]
    exact .refl w.registry
  · rw [hended]
    exact retains_endConversation w

theorem retains_delist (w : World) (o : Object) : Retains w (w.delist o) := by
  unfold delist
  split
  · exact retains_mapArea w _ fun _ => rfl
  · exact .refl w.registry

theorem retains_without (w : World) (h : Handle) (o : Object) : Retains w (w.without h o) :=
  (Registry.Retains.unregister w.registry h).trans
    (retains_delist (w.setRegistry (w.registry.unregister h).2) o)

theorem retains_removeObject (w : World) (h : Handle) : Retains w (w.removeObject h).2 := by
  refine Registry.Retains.trans (retains_parted w h) ?_
  rcases w.removeObject_cases h with ⟨-, hgone⟩ | ⟨o, -, hremoved⟩
  · rw [hgone]
    exact .refl _
  · rw [hremoved]
    exact retains_without _ h o

theorem retains_destroyObject (w : World) (h : Handle) : Retains w (w.destroyObject h).2 := by
  rcases w.destroyObject_cases h with hrefused | ⟨_, -, -, hdestroyed⟩
  · rw [hrefused]
    exact .refl w.registry
  · rw [hdestroyed]
    exact retains_removeObject w h

/-! ### Gentle steps -/

/-- A quiet step that leaves the variables of all objects as they are. -/
structure Gentle (w w' : World) : Prop extends Quiet w w' where
  retains : Retains w w'

namespace Gentle

theorem trans (first : Gentle w₁ w₂) (second : Gentle w₂ w₃) : Gentle w₁ w₃ :=
  ⟨first.toQuiet.trans second.toQuiet, first.retains.trans second.retains⟩

theorem aside (registry : w'.registry = w.registry) (dice : w'.dice = w.dice) : Gentle w w' :=
  ⟨.aside registry dice, retains_of_registry registry⟩

theorem update (w : World) (h : Handle) {f : Object → Object} (hf : ∀ o, Same o (f o))
    (hlocals : ∀ o, (f o).locals = o.locals) : Gentle w (w.update h f) :=
  ⟨.update w h hf, retains_update w h hf hlocals⟩

theorem logEvent (w : World) (event : String) : Gentle w (w.logEvent event) := aside rfl rfl

theorem setAreaVisible (w : World) (area : Handle) (visible : Bool) :
    Gentle w (w.setAreaVisible area visible) :=
  ⟨.setAreaVisible w area visible, retains_setAreaVisible w area visible⟩

theorem relocate (w : World) (h current area : Handle) (position : Vec3) :
    Gentle w (w.relocate h current area position) :=
  ⟨.relocate w h current area position, retains_relocate w h current area position⟩

end Gentle

end World

end Adventure

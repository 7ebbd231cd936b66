import Adventure.Proofs.Queue.Order
import Adventure.Proofs.World.Step

/-!
# The module, what is queued in it and the walks over its areas

Most steps leave the module and the queue as they are. An action is queued, what is due is taken
out, and loading a module in place of another one or unloading it empties the queue: nothing else
happens to it. So the queue stays in order, and without the last three it only grows. The walks stay
as well, but for those of an object that is destroyed, those over an area that is unloaded, and all
of them when the module goes.
-/

namespace Adventure.World

/-- The module stays, and so does all that is queued in it. -/
structure SameModule (w w' : World) : Prop where
  moduleId : w'.moduleId = w.moduleId
  queue : w'.queue = w.queue

namespace SameModule

theorem refl (w : World) : SameModule w w := ⟨rfl, rfl⟩

theorem trans {a b c : World} (hab : SameModule a b) (hbc : SameModule b c) : SameModule a c :=
  ⟨hbc.moduleId.trans hab.moduleId, hbc.queue.trans hab.queue⟩

theorem foldl {β : Type} {f : World → β → World} (hf : ∀ w b, SameModule w (f w b)) (bs : List β)
    (w : World) : SameModule w (bs.foldl f w) := by
  induction bs generalizing w with
  | nil => exact .refl w
  | cons b bs ih => exact (hf w b).trans (ih (f w b))

end SameModule

/-- So do the walks over areas. -/
structure Undisturbed (w w' : World) : Prop extends SameModule w w' where
  walks : w'.walks = w.walks

namespace Undisturbed

theorem refl (w : World) : Undisturbed w w := ⟨.refl w, rfl⟩

theorem trans {a b c : World} (hab : Undisturbed a b) (hbc : Undisturbed b c) : Undisturbed a c :=
  ⟨hab.toSameModule.trans hbc.toSameModule, hbc.walks.trans hab.walks⟩

theorem foldl {β : Type} {f : World → β → World} (hf : ∀ w b, Undisturbed w (f w b))
    (bs : List β) (w : World) : Undisturbed w (bs.foldl f w) := by
  induction bs generalizing w with
  | nil => exact .refl w
  | cons b bs ih => exact (hf w b).trans (ih (f w b))

end Undisturbed

/-! ### Operations that leave them as they are -/

theorem undisturbed_endConversation (w : World) : Undisturbed w w.endConversation := by
  rcases w.endConversation_cases with ⟨-, hsame⟩ | ⟨c, -, hended⟩
  · rw [hsame]
    exact .refl w
  · rw [hended]
    exact ⟨⟨rfl, rfl⟩, rfl⟩

theorem undisturbed_startConversation (w : World) (dialog : String) (pc object : Handle) :
    Undisturbed w (w.startConversation dialog pc object).2 := by
  rcases w.startConversation_cases dialog pc object with hrefused | ⟨_, _, -, -, -, hstarted⟩
  · rw [hrefused]
    exact .refl w
  · have hended := undisturbed_endConversation w
    rw [hstarted]
    exact ⟨⟨hended.moduleId, hended.queue⟩, hended.walks⟩

theorem undisturbed_loadArea (w : World) (resref : String) :
    Undisturbed w (w.loadArea resref).2 := by
  rcases w.loadArea_cases resref with hsame | ⟨are, -, hadded⟩
  · rw [hsame]
    exact .refl w
  · rw [hadded]
    exact ⟨⟨rfl, rfl⟩, rfl⟩

theorem undisturbed_evict (w : World) (h : Handle) : Undisturbed w (w.evict h) := by
  unfold evict
  split <;> exact ⟨⟨rfl, rfl⟩, rfl⟩

theorem undisturbed_vacate (w : World) (h : Handle) : Undisturbed w (w.vacate h) := by
  unfold vacate
  split
  · split
    · exact .refl w
    · exact ⟨⟨rfl, rfl⟩, rfl⟩
  · exact .refl w

theorem undisturbed_usePc (w : World) (h : Handle) : Undisturbed w (w.usePc h).2 := by
  rcases w.usePc_cases h with ⟨-, hrefused⟩ | ⟨o, -, -, hused⟩
  · rw [hrefused]
    exact .refl w
  · have hvacated := undisturbed_vacate (w.flag h) h
    rw [hused]
    exact ⟨⟨hvacated.moduleId, hvacated.queue⟩, hvacated.walks⟩

theorem undisturbed_loadPc (w : World) (r : Record) : Undisturbed w (w.loadPc r).2 := by
  rcases w.loadPc_cases r with ⟨e, hfailed⟩ | ⟨o, models, -, hloaded⟩
  · rw [hfailed]
    exact ⟨⟨rfl, rfl⟩, rfl⟩
  · have hbuilt : Undisturbed w (w.withBuilt o models) := ⟨⟨rfl, rfl⟩, rfl⟩
    rw [hloaded]
    exact hbuilt.trans (undisturbed_usePc _ _)

theorem undisturbed_placeAtEntry (w : World) : Undisturbed w w.placeAtEntry.2 := by
  rcases w.placeAtEntry_cases with ⟨e, hfailed⟩ | ⟨pc, m, area, -, -, -, hplaced⟩
  · rw [hfailed]
    exact .refl w
  · rw [hplaced]
    exact ⟨⟨rfl, rfl⟩, rfl⟩

theorem undisturbed_relocate (w : World) (h current area : Handle) (position : Vec3) :
    Undisturbed w (w.relocate h current area position) := by
  have hmoved : Undisturbed w (if current = area then w else w.changeArea h current area) := by
    split
    · exact .refl w
    · rw [changeArea_eq]
      simp only
      split <;> exact ⟨⟨rfl, rfl⟩, rfl⟩
  exact ⟨⟨hmoved.moduleId, hmoved.queue⟩, hmoved.walks⟩

theorem undisturbed_createObject (w : World) (t : ObjectType) (template : String)
    (place : Location) (tag : String) :
    Undisturbed w (w.createObject t template place tag).2 := by
  rcases w.createObject_cases t template place tag with
    ⟨e, hfailed⟩ | ⟨e, hfailed⟩ | ⟨_, _, _, _, _, -, -, -, hcreated⟩
  · rw [hfailed]
    exact .refl w
  · rw [hfailed]
    exact ⟨⟨rfl, rfl⟩, rfl⟩
  · rw [hcreated]
    exact ⟨⟨rfl, rfl⟩, rfl⟩

theorem undisturbed_parted (w : World) (h : Handle) : Undisturbed w (w.parted h) := by
  rcases w.parted_cases h with ⟨-, hsame⟩ | ⟨-, hended⟩
  · rw [hsame]
    exact .refl w
  · rw [hended]
    exact undisturbed_endConversation w

theorem undisturbed_delist (w : World) (o : Object) : Undisturbed w (w.delist o) := by
  unfold delist
  split
  · exact ⟨⟨rfl, rfl⟩, rfl⟩
  · exact .refl w

/-! ### What goes takes its walks with it -/

theorem removeObject_spec (w : World) (h : Handle) : SameModule w (w.removeObject h).2 ∧
    ((w.removeObject h).1 = true ∧
        (w.removeObject h).2.walks = w.walks.filter (fun entry => entry.1.1 ≠ h) ∨
      (w.removeObject h).1 = false ∧ (w.removeObject h).2.walks = w.walks) := by
  have hparted := undisturbed_parted w h
  rcases w.removeObject_cases h with ⟨-, hgone⟩ | ⟨o, -, hremoved⟩
  · rw [hgone]
    exact ⟨hparted.toSameModule, .inr ⟨rfl, hparted.walks⟩⟩
  · have hdelisted :=
      undisturbed_delist ((w.parted h).setRegistry ((w.parted h).registry.unregister h).2) o
    have hleft := hparted.trans ⟨⟨hdelisted.moduleId, hdelisted.queue⟩, hdelisted.walks⟩
    rw [hremoved, ← hleft.walks]
    exact ⟨⟨hleft.moduleId, hleft.queue⟩, .inl ⟨rfl, rfl⟩⟩

theorem destroyObject_spec (w : World) (h : Handle) : SameModule w (w.destroyObject h).2 ∧
    ((w.destroyObject h).1 = true ∧
        (w.destroyObject h).2.walks = w.walks.filter (fun entry => entry.1.1 ≠ h) ∨
      (w.destroyObject h).1 = false ∧ (w.destroyObject h).2.walks = w.walks) := by
  rcases w.destroyObject_cases h with hrefused | ⟨o, -, -, hdestroyed⟩
  · rw [hrefused]
    exact ⟨.refl w, .inr ⟨rfl, rfl⟩⟩
  · rw [hdestroyed]
    exact removeObject_spec w h

theorem unloadArea_spec (w : World) (area : Handle) : SameModule w (w.unloadArea area) ∧
    (w.isArea area = true ∧
        (w.unloadArea area).walks = w.walks.filter (fun entry => entry.1.2 ≠ area) ∨
      w.isArea area = false ∧ (w.unloadArea area).walks = w.walks) := by
  rcases w.unloadArea_cases area with ⟨hnot, hsame⟩ | ⟨hisArea, noted, hclosed⟩
  · rw [hsame]
    exact ⟨.refl w, .inr ⟨hnot, rfl⟩⟩
  · have hevicted := Undisturbed.foldl undisturbed_evict (w.registry.inArea area) w
    rw [hclosed, ← hevicted.walks]
    exact ⟨⟨hevicted.moduleId, hevicted.queue⟩, .inl ⟨hisArea, rfl⟩⟩

/-! ### Modules that come and go -/

theorem unload_queue (w : World) : w.unload.queue = .empty := by
  have hended := undisturbed_endConversation { w with queue := .empty, walks := [] }
  have hemptied := SameModule.foldl (fun w area => (unloadArea_spec w area).1)
    (endConversation { w with queue := .empty, walks := [] }).areas.values
    (endConversation { w with queue := .empty, walks := [] })
  exact hemptied.queue.trans hended.queue

theorem unload_walks (w : World) : w.unload.walks = [] := by
  have hnone : ∀ (areas : List Handle) (w : World), w.walks = [] →
      (areas.foldl unloadArea w).walks = [] := by
    intro areas
    induction areas with
    | nil => exact fun w hw => hw
    | cons area areas ih =>
      intro w hw
      refine ih (w.unloadArea area) ?_
      rcases (unloadArea_spec w area).2 with ⟨-, hwalks⟩ | ⟨-, hwalks⟩
      · rw [hwalks, hw, List.filter_nil]
      · rw [hwalks, hw]
  exact hnone _ _ (undisturbed_endConversation { w with queue := .empty, walks := [] }).walks

theorem addModule_spec (w : World) (name : String) (ifo : Record) :
    (w.addModule name ifo).queue = w.queue ∧ (w.addModule name ifo).walks = w.walks := by
  obtain ⟨o, areas, events, -, -, -, -, hadded⟩ := w.addModule_parts name ifo
  have hloaded := Undisturbed.foldl undisturbed_loadArea areas (w.withModule o)
  rw [hadded]
  exact ⟨hloaded.queue, hloaded.walks⟩

theorem loadModule_queue (w : World) (name : String) :
    (w.loadModule name).2.queue = if w.isLoaded then .empty else w.queue := by
  have hcleared : w.cleared.queue = if w.isLoaded then .empty else w.queue := by
    unfold cleared
    split
    · exact unload_queue w
    · rfl
  rcases w.loadModule_cases name with hfailed | ⟨ifo, hadded⟩
  · rw [hfailed]
    exact hcleared
  · rw [hadded]
    exact (addModule_spec w.cleared name ifo).1.trans hcleared

theorem loadModule_walks {w : World} (h : w.isLoaded = false) (name : String) :
    (w.loadModule name).2.walks = w.walks := by
  have hcleared : w.cleared = w := if_neg (by rw [h]; exact Bool.false_ne_true)
  rcases w.loadModule_cases name with hfailed | ⟨ifo, hadded⟩
  · rw [hfailed, hcleared]
  · rw [hadded, hcleared]
    exact (addModule_spec w name ifo).2

theorem loadModule_of_loaded {w : World} (h : w.isLoaded = true) (name : String) :
    w.loadModule name = w.unload.loadModule name := by
  have hnone : ¬ w.unload.isLoaded = true := Bool.false_ne_true
  unfold loadModule
  rw [if_pos h, if_neg hnone]

/-! ### Steps -/

/-- All that a step can do to the module and to the queue. -/
theorem Step.schedule {k : Kind} {w w' : World} (h : Step w k w') :
    SameModule w w' ∨ (k = .call ∧ ∃ a, w' = { w with queue := w.queue.push a }) ∨
      (k = .batch ∧ w' = { w with queue := (w.queue.drainDue w.clock).2 }) ∨
      (k = .module ∧ (w' = w.unload ∨ ∃ name, w' = (w.loadModule name).2)) := by
  cases h with
  | aside _ _ moduleId _ _ _ _ queue => exact .inl ⟨moduleId, queue⟩
  | queued a => exact .inr (.inl ⟨rfl, a, rfl⟩)
  | touch h f alike => exact .inl ⟨rfl, rfl⟩
  | notice area => exact .inl ⟨rfl, rfl⟩
  | relocate h current area position _ =>
    exact .inl (undisturbed_relocate w h current area position).toSameModule
  | createObject t template place tag =>
    exact .inl (undisturbed_createObject w t template place tag).toSameModule
  | startConversation dialog pc object =>
    exact .inl (undisturbed_startConversation w dialog pc object).toSameModule
  | endConversation => exact .inl (undisturbed_endConversation w).toSameModule
  | loadArea resref => exact .inl (undisturbed_loadArea w resref).toSameModule
  | unloadArea area => exact .inl (unloadArea_spec w area).1
  | loadModule name => exact .inr (.inr (.inr ⟨rfl, .inr ⟨name, rfl⟩⟩))
  | unload => exact .inr (.inr (.inr ⟨rfl, .inl rfl⟩))
  | loadPc r => exact .inl (undisturbed_loadPc w r).toSameModule
  | usePc h => exact .inl (undisturbed_usePc w h).toSameModule
  | placeAtEntry => exact .inl (undisturbed_placeAtEntry w).toSameModule
  | destroyObject h => exact .inl (destroyObject_spec w h).1
  | drained => exact .inr (.inr (.inl ⟨rfl, rfl⟩))

theorem Step.ordered {k : Kind} {w w' : World} (h : Step w k w') (hq : w.queue.Ordered) :
    w'.queue.Ordered := by
  rcases h.schedule with hsame | ⟨-, a, rfl⟩ | ⟨-, rfl⟩ | ⟨-, rfl | ⟨name, rfl⟩⟩
  · exact hsame.queue ▸ hq
  · exact hq.push a
  · exact hq.drained w.clock
  · exact w.unload_queue ▸ Queue.ordered_empty
  · rw [loadModule_queue]
    split
    · exact Queue.ordered_empty
    · exact hq

namespace MovesBy

variable {P : Kind → Prop} {w w' : World}

theorem ordered (h : MovesBy P w w') (hq : w.queue.Ordered) : w'.queue.Ordered := by
  induction h with
  | refl => exact hq
  | tail _ hstep ih =>
    obtain ⟨k, -, hstep⟩ := hstep
    exact hstep.ordered ih

theorem queued (hbatch : ¬ P .batch) (hmodule : ¬ P .module) (h : MovesBy P w w') :
    ∃ actions : List Action, w'.queue = actions.foldl Queue.push w.queue := by
  induction h with
  | refl => exact ⟨[], rfl⟩
  | tail _ hlast ih =>
    obtain ⟨k, hk, hstep⟩ := hlast
    obtain ⟨actions, hactions⟩ := ih
    rcases hstep.schedule with hsame | ⟨-, a, rfl⟩ | ⟨hkind, -⟩ | ⟨hkind, -⟩
    · exact ⟨actions, hsame.queue.trans hactions⟩
    · refine ⟨actions ++ [a], ?_⟩
      rw [List.foldl_append, ← hactions]
      rfl
    · exact absurd (hkind ▸ hk) hbatch
    · exact absurd (hkind ▸ hk) hmodule

end MovesBy

end Adventure.World

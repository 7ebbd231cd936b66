import Adventure.Proofs.World.Outcomes
import Adventure.Proofs.World.Placing

/-!
# Every operation keeps the order of handles

Whatever an operation does to the world, its registry follows the one before: objects come in with
handles given out meanwhile and in their order, and go for good.
-/

namespace Adventure.World

open Object (Kin Same same_area same_mapCreature kin_pcSpeaker kin_mapArea resref_addObject
  resref_removeObject alike_setPosition alike_setFacing alike_reveal alike_hide built_load)
open Registry (Within within_update limit handleOf update_issued)

/-- The registry of the second world follows that of the first one. -/
abbrev Follows (w w' : World) : Prop := Registry.Follows w.registry w'.registry

/-! ### Changing objects in place -/

theorem follows_update (w : World) (h : Handle) {f : Object → Object} (hf : ∀ o, Same o (f o)) :
    Follows w (w.update h f) := .update w.registry h f hf

theorem follows_kin (w : World) (h : Handle) {f : Object → Object} (hf : ∀ o, Kin o (f o)) :
    Follows w (w.update h f) := follows_update w h fun o => (hf o).same

theorem follows_foldl {α : Type} {f : World → α → World} (hf : ∀ w a, Follows w (f w a))
    (l : List α) (w : World) : Follows w (l.foldl f w) := by
  induction l generalizing w with
  | nil => exact .refl w.registry
  | cons a l ih => exact (hf w a).trans (ih (f w a))

/-! ### Conversations -/

theorem follows_endConversation (w : World) : Follows w w.endConversation := by
  rcases w.endConversation_cases with ⟨-, hsame⟩ | ⟨c, -, hended⟩
  · rw [hsame]
    exact .refl w.registry
  · rw [hended]
    exact follows_kin { w with conversation := none } c.object (kin_pcSpeaker · none)

theorem follows_startConversation (w : World) (dialog : String) (pc object : Handle) :
    Follows w (w.startConversation dialog pc object).2 := by
  rcases w.startConversation_cases dialog pc object with hrefused | ⟨_, _, -, -, -, hstarted⟩
  · rw [hrefused]
    exact .refl w.registry
  · rw [hstarted]
    exact (follows_endConversation w).trans
      (follows_kin w.endConversation object (kin_pcSpeaker · (some pc)))

/-! ### Areas and modules -/

theorem follows_addArea (w : World) (resref : String) (are : Record) :
    Follows w (w.addArea resref are).2 := by
  obtain ⟨area, placed, r, hadded⟩ := addArea_spec w resref are
  have hwithin : Within w.registry r := by
    intro o ho
    rw [hadded.objects] at ho
    exact ⟨o, ho, .refl o⟩
  have hheld : Registry.Follows w.registry r :=
    .within (Nat.le_of_lt hadded.issued) (·.congr hadded.objects hadded.tags)
      (fun _ ha => ha.congr hadded.objects hadded.tags)
      (·.grow hadded.objects hadded.tags (Nat.le_of_lt hadded.issued)) hwithin
  show Registry.Follows w.registry (w.addArea resref are).2.registry
  rw [hadded.registry]
  refine hheld.registerAll hwithin ?_
  intro hlt
  exact ⟨(hadded.numbered hlt).ordered, (hadded.numbered hlt).given⟩

theorem follows_loadArea (w : World) (resref : String) : Follows w (w.loadArea resref).2 := by
  rcases w.loadArea_cases resref with hsame | ⟨are, -, hadded⟩
  · rw [hsame]
    exact .refl w.registry
  · rw [hadded]
    exact follows_addArea w resref are

theorem follows_evict (w : World) (h : Handle) : Follows w (w.evict h) := by
  unfold evict
  split
  · exact follows_update w h fun o => (alike_hide o).kin.same.trans (same_area _ none)
  · exact .unregister w.registry h

theorem follows_unloadArea (w : World) (area : Handle) : Follows w (w.unloadArea area) := by
  rcases w.unloadArea_cases area with ⟨-, hsame⟩ | ⟨-, _, hclosed⟩
  · rw [hsame]
    exact .refl w.registry
  · rw [hclosed]
    exact (follows_foldl follows_evict (w.registry.inArea area) w).trans (.unregister _ area)

theorem follows_unload (w : World) : Follows w w.unload := by
  have hend := follows_endConversation { w with queue := .empty, walks := [] }
  refine Registry.Follows.trans hend ?_
  unfold unload
  simp only
  generalize endConversation { w with queue := .empty, walks := [] } = talked
  refine (follows_foldl follows_unloadArea talked.areas.values talked).trans ?_
  generalize talked.areas.values.foldl unloadArea talked = emptied
  cases emptied.pc with
  | none => exact .clear _
  | some pc => exact (Registry.Follows.unregister emptied.registry pc).trans (.clear _)

theorem follows_register {r₀ r : Registry} {o : Object} (h : Registry.Follows r₀ r)
    (hin : Within r₀ r) (hid : o.id = handleOf (r₀.issued + 1))
    (hissued : r.issued = r₀.issued + 1) : Registry.Follows r₀ (r.register o) := by
  have hall : (r.issued < limit → ([o].map Object.id).Pairwise Handle.Before ∧
      ∀ a ∈ [o], r₀.issued < a.id.number ∧ a.id.number ≤ r.issued) →
      Registry.Follows r₀ ([o].foldl Registry.register r) := h.registerAll hin
  refine hall ?_
  intro hlt
  have hnumber := Registry.number_of_newest hid (hissued ▸ hlt)
  have hone : Numbered r₀.issued r.issued [o] := .single (by omega) (by omega)
  exact ⟨hone.ordered, hone.given⟩

/-- The object of a module is registered under a new handle. -/
def withModule (w : World) (o : Object) : World :=
  { w with registry := w.registry.issue.2.register o, moduleId := o.id }

theorem withModule_issued (w : World) (o : Object) :
    (w.withModule o).registry.issued = w.registry.issued + 1 :=
  Registry.register_issued w.registry.issue.2 o

theorem addModule_parts (w : World) (name : String) (ifo : Record) :
    ∃ (o : Object) (areas : List String) (events : List String),
      o.id = handleOf (w.registry.issued + 1) ∧ o.kind = .module ∧ o.area = none ∧
        o.pcSpeaker = none ∧ w.addModule name ifo =
          { areas.foldl (fun w area => (w.loadArea area).2) (w.withModule o) with events } :=
  ⟨_, _, _, rfl, rfl, rfl, rfl, rfl⟩

theorem follows_addModule (w : World) (name : String) (ifo : Record) :
    Follows w (w.addModule name ifo) := by
  obtain ⟨o, areas, events, hid, -, -, -, hadded⟩ := w.addModule_parts name ifo
  have hobject : Follows w (w.withModule o) :=
    follows_register (Registry.Follows.issue w.registry) (Within.refl w.registry) hid rfl
  rw [hadded]
  exact hobject.trans (follows_foldl follows_loadArea areas (w.withModule o))

/-- What a module is loaded into: no other one is loaded any more. -/
def cleared (w : World) : World := if w.isLoaded then w.unload else w

theorem cleared_moduleId (w : World) : w.cleared.moduleId.isValid = false := by
  unfold cleared
  split
  · rfl
  · rename_i hnot
    exact Bool.eq_false_iff.2 hnot

theorem loadModule_cases (w : World) (name : String) : (w.loadModule name).2 = w.cleared ∨
    ∃ ifo, (w.loadModule name).2 = w.cleared.addModule name ifo := by
  unfold loadModule
  simp only
  split
  · exact Or.inl rfl
  · exact Or.inl rfl
  · exact Or.inr ⟨_, rfl⟩

theorem follows_loadModule (w : World) (name : String) : Follows w (w.loadModule name).2 := by
  have hcleared : Follows w w.cleared := by
    unfold cleared
    split
    · exact follows_unload w
    · exact .refl w.registry
  rcases w.loadModule_cases name with hfailed | ⟨ifo, hadded⟩
  · rw [hfailed]
    exact hcleared
  · rw [hadded]
    exact hcleared.trans (follows_addModule w.cleared name ifo)

/-! ### The player's creature -/

theorem follows_vacate (w : World) (h : Handle) : Follows w (w.vacate h) := by
  unfold vacate
  split
  · split
    · exact .refl w.registry
    · exact .unregister w.registry _
  · exact .refl w.registry

theorem follows_usePc (w : World) (h : Handle) : Follows w (w.usePc h).2 := by
  rcases w.usePc_cases h with ⟨-, hrefused⟩ | ⟨o, -, -, hused⟩
  · rw [hrefused]
    exact .refl w.registry
  · rw [hused]
    exact (follows_update w h fun o => same_mapCreature o _).trans (follows_vacate (w.flag h) h)

theorem withBuilt_issued (w : World) (o : Object) (models : Models) :
    (w.withBuilt o models).registry.issued = w.registry.issued + 1 :=
  Registry.register_issued w.registry.issue.2 o

theorem follows_withBuilt (w : World) {o : Object} (models : Models)
    (hid : o.id = handleOf (w.registry.issued + 1)) : Follows w (w.withBuilt o models) :=
  follows_register (Registry.Follows.issue w.registry) (Within.refl w.registry) hid rfl

theorem follows_loadPc (w : World) (r : Record) : Follows w (w.loadPc r).2 := by
  rcases w.loadPc_cases r with ⟨e, hfailed⟩ | ⟨o, models, hload, hloaded⟩
  · rw [hfailed]
    exact .issue w.registry
  · rw [hloaded]
    exact (follows_withBuilt w models (built_load hload).id).trans (follows_usePc _ _)

theorem follows_placeAtEntry (w : World) : Follows w w.placeAtEntry.2 := by
  rcases w.placeAtEntry_cases with ⟨e, hfailed⟩ | ⟨pc, m, area, -, -, -, hplaced⟩
  · rw [hfailed]
    exact .refl w.registry
  · rw [hplaced]
    refine follows_update w pc fun o => (same_area o (some area)).trans ?_
    exact ((alike_setPosition _ _).trans (alike_setFacing _ _)).kin.same

/-- An object that comes into an area. It may be hidden before and shown afterwards. -/
def transfer (hides shows : Prop) [Decidable hides] [Decidable shows] (area : Handle)
    (o : Object) : Object :=
  let o := if hides then o.hide else o
  let o := { o with area := some area }
  if shows then o.reveal else o

theorem kin_transfer (hides shows : Prop) [Decidable hides] [Decidable shows] (area : Handle)
    (o : Object) : Kin { o with area := some area } (transfer hides shows area o) := by
  have hhide : Kin o (if hides then o.hide else o) := by
    split
    · exact (alike_hide o).kin
    · exact .refl o
  have hplace := hhide.place (some area)
  unfold transfer
  simp only
  split
  · exact hplace.trans (alike_reveal _).kin
  · exact hplace

theorem changeArea_eq (w : World) (h current area : Handle) :
    w.changeArea h current area =
      (let moved := w.update h (transfer (w.pcArea? = some current) (w.pcArea? = some area) area)
       if w.pc = some h then moved else moved.changeLists h current area) := rfl

theorem follows_changeLists (w : World) (h old new : Handle) :
    Follows w (w.changeLists h old new) := by
  unfold changeLists
  refine (follows_kin w old fun o => kin_mapArea o fun a => resref_removeObject a h).trans ?_
  exact follows_kin _ new fun o => kin_mapArea o fun a => resref_addObject a h

theorem follows_changeArea (w : World) (h current area : Handle) :
    Follows w (w.changeArea h current area) := by
  have hmove : Follows w
      (w.update h (transfer (w.pcArea? = some current) (w.pcArea? = some area) area)) :=
    follows_update w h fun o => (same_area o _).trans (kin_transfer _ _ area o).same
  rw [changeArea_eq]
  simp only
  split
  · exact hmove
  · exact hmove.trans (follows_changeLists _ h current area)

theorem follows_relocate (w : World) (h current area : Handle) (position : Vec3) :
    Follows w (w.relocate h current area position) := by
  unfold relocate
  refine Registry.Follows.trans ?_ (follows_kin _ h fun o => (alike_setPosition o position).kin)
  split
  · exact .refl w.registry
  · exact follows_changeArea w h current area

/-! ### Creating and destroying -/

/-- A new object keeps its handle and its kind and stands where it is put. -/
structure Dressed (area : Handle) (o o' : Object) : Prop where
  id : o'.id = o.id
  kind : o'.kind = o.kind
  area : o'.area = some area
  pcSpeaker : o'.pcSpeaker = o.pcSpeaker

theorem dressed (template tag : String) (place : Location) (area : Handle) (visible : Bool)
    (o : Object) : Dressed area o (dress template tag place area visible o) := by
  have hreveal : ∀ {o' : Object}, Dressed area o o' →
      Dressed area o (if visible then o'.reveal else o') := by
    intro o' h
    split
    · have ha := alike_reveal o'
      exact ⟨ha.kin.id.trans h.id, ha.kin.kind.trans h.kind, ha.kin.area.trans h.area,
        ha.pcSpeaker.trans h.pcSpeaker⟩
    · exact h
  unfold dress
  refine hreveal ?_
  split <;> exact ⟨rfl, rfl, rfl, rfl⟩

theorem addObject_issued (w : World) (models : Models) (o : Object) (area : Handle) :
    ({ w with registry := w.registry.issue.2, models }.addObject o area).registry.issued =
      w.registry.issued + 1 := by
  unfold addObject
  simp only [logEvent, setRegistry, Registry.register_issued, World.update, Registry.update_issued]
  rfl

theorem follows_addObject {w : World} {o : Object} {models : Models} (area : Handle)
    (hid : o.id = handleOf (w.registry.issued + 1)) :
    Follows w ({ w with registry := w.registry.issue.2, models }.addObject o area) := by
  have hsame : ∀ a : Object, Same a (a.mapArea fun list => list.addObject o.id) :=
    fun a => (kin_mapArea a fun list => resref_addObject list o.id).same
  have hlisted : Registry.Follows w.registry (w.registry.issue.2.update area fun a =>
      a.mapArea fun list => list.addObject o.id) :=
    (Registry.Follows.issue w.registry).trans (.update w.registry.issue.2 area _ hsame)
  unfold addObject
  exact follows_register hlisted (within_update w.registry.issue.2 area hsame) hid
    (update_issued w.registry.issue.2 area _)

theorem follows_createObject (w : World) (t : ObjectType) (template : String) (place : Location)
    (tag : String) : Follows w (w.createObject t template place tag).2 := by
  rcases w.createObject_cases t template place tag with
    ⟨e, hfailed⟩ | ⟨e, hfailed⟩ | ⟨kind, area, _, o, models, -, -, hload, hcreated⟩
  · rw [hfailed]
    exact .refl w.registry
  · rw [hfailed]
    exact .issue w.registry
  · rw [hcreated]
    exact follows_addObject area ((dressed _ _ _ _ _ o).id.trans (built_load hload).id)

theorem follows_delist (w : World) (o : Object) : Follows w (w.delist o) := by
  unfold delist
  cases o.area with
  | none => exact .refl w.registry
  | some area => exact follows_kin w area fun a => kin_mapArea a fun _ => rfl

theorem follows_parted (w : World) (h : Handle) : Follows w (w.parted h) := by
  rcases w.parted_cases h with ⟨-, hsame⟩ | ⟨-, hended⟩
  · rw [hsame]
    exact .refl w.registry
  · rw [hended]
    exact follows_endConversation w

theorem follows_without (w : World) (h : Handle) (o : Object) : Follows w (w.without h o) :=
  (Registry.Follows.unregister w.registry h).trans
    (follows_delist (w.setRegistry (w.registry.unregister h).2) o)

theorem follows_removeObject (w : World) (h : Handle) : Follows w (w.removeObject h).2 := by
  refine Registry.Follows.trans (follows_parted w h) ?_
  rcases w.removeObject_cases h with ⟨-, hgone⟩ | ⟨o, -, hremoved⟩
  · rw [hgone]
    exact .refl _
  · rw [hremoved]
    exact follows_without _ h o

theorem follows_destroyObject (w : World) (h : Handle) : Follows w (w.destroyObject h).2 := by
  rcases w.destroyObject_cases h with hrefused | ⟨o, -, -, hdestroyed⟩
  · rw [hrefused]
    exact .refl w.registry
  · rw [hdestroyed]
    exact follows_removeObject w h

end Adventure.World

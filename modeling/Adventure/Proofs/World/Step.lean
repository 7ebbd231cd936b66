import Adventure.Proofs.World.LinkedOperations
import Mathlib.Logic.Relation

/-!
# Steps of a world

All play with a world is made of a few kinds of steps: things change that nothing refers to, an
action is queued or the due ones are taken out, an object changes where it stands, the area of the
player's creature is noticed, or one of the operations on areas, modules, the player's creature,
objects and conversations is carried out. `Moves` is any number of steps, `MovesBy` any number of
steps of some kinds only.
-/

namespace Adventure.World

open Object (Alike)
open Registry (limit)

/-- What a step belongs to. Calls of script functions make steps of their own kind; the others are
those of loading areas and modules, of choosing and placing the player's creature, of destroying
objects and of taking a batch of delayed actions out of the queue. -/
inductive Kind where
  | call
  | area
  | module
  | player
  | destruction
  | batch
  deriving DecidableEq

/-- A step from a world to the next one. -/
inductive Step (w : World) : Kind → World → Prop where
  /-- The clock, the dice, the trail and the like. -/
  | aside {w' : World} (library : w'.library = w.library) (registry : w'.registry = w.registry)
    (moduleId : w'.moduleId = w.moduleId) (areas : w'.areas = w.areas)
    (currentArea : w'.currentArea = w.currentArea) (pc : w'.pc = w.pc)
    (conversation : w'.conversation = w.conversation) (queue : w'.queue = w.queue) : Step w .call w'
  | queued (a : Action) : Step w .call { w with queue := w.queue.push a }
  | touch (h : Handle) (f : Object → Object) (alike : ∀ o, Alike o (f o)) :
    Step w .call (w.update h f)
  | notice (area : Option Handle) : Step w .call { w with currentArea := area }
  | relocate (h current area : Handle) (position : Vec3) (jump : w.canJump h area = some current) :
    Step w .call (w.relocate h current area position)
  | createObject (t : ObjectType) (template : String) (place : Location) (tag : String) :
    Step w .call (w.createObject t template place tag).2
  | startConversation (dialog : String) (pc object : Handle) :
    Step w .call (w.startConversation dialog pc object).2
  | endConversation : Step w .call w.endConversation
  | loadArea (resref : String) : Step w .area (w.loadArea resref).2
  | unloadArea (area : Handle) : Step w .area (w.unloadArea area)
  | loadModule (name : String) : Step w .module (w.loadModule name).2
  | unload : Step w .module w.unload
  | loadPc (r : Record) : Step w .player (w.loadPc r).2
  | usePc (h : Handle) : Step w .player (w.usePc h).2
  | placeAtEntry : Step w .player w.placeAtEntry.2
  | destroyObject (h : Handle) : Step w .destruction (w.destroyObject h).2
  | drained : Step w .batch { w with queue := (w.queue.drainDue w.clock).2 }

theorem Step.follows {k : Kind} {w w' : World} (h : Step w k w') : Follows w w' := by
  cases h with
  | aside _ registry _ _ _ _ _ _ =>
    unfold Follows
    rw [registry]
    exact .refl _
  | queued a => exact .refl _
  | touch h f alike => exact follows_kin w h fun o => (alike o).kin
  | notice area => exact .refl _
  | relocate h current area position _ => exact follows_relocate w h current area position
  | createObject t template place tag => exact follows_createObject w t template place tag
  | startConversation dialog pc object => exact follows_startConversation w dialog pc object
  | endConversation => exact follows_endConversation w
  | loadArea resref => exact follows_loadArea w resref
  | unloadArea area => exact follows_unloadArea w area
  | loadModule name => exact follows_loadModule w name
  | unload => exact follows_unload w
  | loadPc r => exact follows_loadPc w r
  | usePc h => exact follows_usePc w h
  | placeAtEntry => exact follows_placeAtEntry w
  | destroyObject h => exact follows_destroyObject w h
  | drained => exact .refl _

theorem Step.linked {k : Kind} {w w' : World} (h : Step w k w') (hl : Linked w)
    (hlimit : w'.registry.issued < limit) : Linked w' := by
  cases h with
  | aside _ registry moduleId areas _ pc _ _ => exact hl.congr registry areas moduleId pc
  | queued a => exact hl.congr rfl rfl rfl rfl
  | touch h f alike => exact hl.kin h fun o => (alike o).kin
  | notice area => exact hl.congr rfl rfl rfl rfl
  | relocate h current area position jump => exact hl.relocate position jump
  | createObject t template place tag => exact hl.createObject t template place tag hlimit
  | startConversation dialog pc object => exact hl.startConversation dialog pc object
  | endConversation => exact hl.endConversation
  | loadArea resref => exact hl.loadArea resref hlimit
  | unloadArea area => exact (hl.unloadArea area).1
  | loadModule name => exact hl.loadModule name hlimit
  | unload => exact hl.unload
  | loadPc r => exact hl.loadPc r hlimit
  | usePc h => exact hl.usePc h
  | placeAtEntry => exact hl.placeAtEntry
  | destroyObject h => exact hl.destroyObject h
  | drained => exact hl.congr rfl rfl rfl rfl

/-! ### Any number of steps -/

/-- Any number of steps of these kinds. -/
abbrev MovesBy (P : Kind → Prop) : World → World → Prop :=
  Relation.ReflTransGen fun w w' => ∃ k, P k ∧ Step w k w'

abbrev Moves : World → World → Prop := MovesBy fun _ => True

namespace MovesBy

variable {P : Kind → Prop} {w w' : World}

theorem step {k : Kind} (hk : P k) (h : Step w k w') : MovesBy P w w' := .single ⟨k, hk, h⟩

theorem aside (hP : P .call) (library : w'.library = w.library)
    (registry : w'.registry = w.registry) (moduleId : w'.moduleId = w.moduleId)
    (areas : w'.areas = w.areas) (currentArea : w'.currentArea = w.currentArea)
    (pc : w'.pc = w.pc) (conversation : w'.conversation = w.conversation)
    (queue : w'.queue = w.queue) : MovesBy P w w' :=
  step hP (.aside library registry moduleId areas currentArea pc conversation queue)

theorem logEvent (hP : P .call) (w : World) (event : String) : MovesBy P w (w.logEvent event) :=
  aside hP rfl rfl rfl rfl rfl rfl rfl rfl

theorem follows (h : MovesBy P w w') : Follows w w' := by
  induction h with
  | refl => exact .refl _
  | tail _ hstep ih =>
    obtain ⟨k, -, hstep⟩ := hstep
    exact ih.trans hstep.follows

theorem linked (h : MovesBy P w w') (hl : Linked w) (hlimit : w'.registry.issued < limit) :
    Linked w' := by
  induction h with
  | refl => exact hl
  | tail _ hstep ih =>
    obtain ⟨k, -, hstep⟩ := hstep
    exact hstep.linked (ih (hstep.follows.issued.trans_lt hlimit)) hlimit

end MovesBy

theorem linked_new (library : Library) (models : ModelSource) (clock seed : UInt64) :
    Linked (.new library models clock seed) :=
  .nothing rfl (Registry.sound_clear .empty) rfl rfl rfl

end Adventure.World

import Adventure.Proofs.World.Schedule
import Adventure.World.Searching

/-!
# Strides of a world

A finer account of the steps of a world, in which the calls that move walks over areas on are told
apart from all others, and so is everything that takes walks away. The rest leaves the walks as they
are. A course is a relation between worlds that whoever makes strides of certain kinds, one after
the other, keeps to; `MovesBy` is one.
-/

namespace Adventure.World

open Object (Alike)

/-- What is done with a world, as far as the walks over areas go. -/
inductive Doing where
  | first (caller area : Handle)
  | next (caller area : Handle)
  | destroy (h : Handle)
  | unloadArea (area : Handle)
  | unload
  | other
  deriving DecidableEq

/-- A stride from a world to the next one. -/
inductive Stride (w : World) : Kind → Doing → World → Prop where
  | first (caller area : Handle) :
    Stride w .call (.first caller area) (w.firstInArea caller area).2
  | next (caller area : Handle) : Stride w .call (.next caller area) (w.nextInArea caller area).2
  | destroy (h : Handle) : Stride w .destruction (.destroy h) (w.destroyObject h).2
  | unloadArea (area : Handle) : Stride w .area (.unloadArea area) (w.unloadArea area)
  | unload : Stride w .module .unload w.unload
  | other {k : Kind} {w' : World} (step : Step w k w') (walks : w'.walks = w.walks) :
    Stride w k .other w'

theorem step_nextInArea (w : World) (caller area : Handle) :
    Step w .call (w.nextInArea caller area).2 := by
  unfold nextInArea
  split <;> exact .aside rfl rfl rfl rfl rfl rfl rfl rfl

theorem step_firstInArea (w : World) (caller area : Handle) :
    Step w .call (w.firstInArea caller area).2 := by
  unfold firstInArea nextInArea
  simp only
  split <;> exact .aside rfl rfl rfl rfl rfl rfl rfl rfl

theorem Stride.step {k : Kind} {d : Doing} {w w' : World} (h : Stride w k d w') : Step w k w' := by
  cases h with
  | first caller area => exact step_firstInArea w caller area
  | next caller area => exact step_nextInArea w caller area
  | destroy h => exact .destroyObject h
  | unloadArea area => exact .unloadArea area
  | unload => exact .unload
  | other step _ => exact step

/-! ### Courses -/

/-- A relation that any number of strides of these kinds keep to. -/
structure Course (P : Kind → Prop) (R : World → World → Prop) : Prop where
  refl (w : World) : R w w
  trans {a b c : World} (first : R a b) (second : R b c) : R a c
  stride {k : Kind} {d : Doing} {w w' : World} (hk : P k) (h : Stride w k d w') : R w w'

theorem course_movesBy (P : Kind → Prop) : Course P (MovesBy P) where
  refl _ := .refl
  trans first second := first.trans second
  stride hk h := .step hk h.step

namespace Course

variable {P : Kind → Prop} {R : World → World → Prop} {w w' : World}

theorem other (hR : Course P R) {k : Kind} (hk : P k) (step : Step w k w')
    (walks : w'.walks = w.walks) : R w w' := hR.stride hk (.other step walks)

theorem undisturbed (hR : Course P R) {k : Kind} (hk : P k) (step : Step w k w')
    (h : Undisturbed w w') : R w w' := hR.other hk step h.walks

theorem aside (hR : Course P R) (hP : P .call) (library : w'.library = w.library)
    (registry : w'.registry = w.registry) (moduleId : w'.moduleId = w.moduleId)
    (areas : w'.areas = w.areas) (currentArea : w'.currentArea = w.currentArea)
    (pc : w'.pc = w.pc) (conversation : w'.conversation = w.conversation)
    (queue : w'.queue = w.queue) (walks : w'.walks = w.walks) : R w w' :=
  hR.other hP (.aside library registry moduleId areas currentArea pc conversation queue) walks

theorem logEvent (hR : Course P R) (hP : P .call) (w : World) (event : String) :
    R w (w.logEvent event) := hR.aside hP rfl rfl rfl rfl rfl rfl rfl rfl rfl

theorem touch (hR : Course P R) (hP : P .call) (w : World) (h : Handle) {f : Object → Object}
    (alike : ∀ o, Alike o (f o)) : R w (w.update h f) := hR.other hP (.touch h f alike) rfl

theorem setAreaVisible (hR : Course P R) (hP : P .call) (w : World) (area : Handle)
    (visible : Bool) : R w (w.setAreaVisible area visible) := by
  unfold World.setAreaVisible
  generalize w.registry.inArea area = hs
  induction hs generalizing w with
  | nil => exact hR.refl w
  | cons h hs ih =>
    refine hR.trans (hR.touch hP w h ?_) (ih _)
    intro o
    split
    · exact Object.alike_reveal o
    · exact Object.alike_hide o

theorem loadModule (hR : Course P R) (hP : P .module) (w : World) (name : String) :
    R w (w.loadModule name).2 := by
  have hvacant : ∀ {w : World}, w.isLoaded = false → R w (w.loadModule name).2 :=
    fun h => hR.other hP (.loadModule name) (loadModule_walks h name)
  cases h : w.isLoaded with
  | false => exact hvacant h
  | true =>
    rw [loadModule_of_loaded h]
    exact hR.trans (hR.stride hP .unload) (hvacant rfl)

end Course

end Adventure.World

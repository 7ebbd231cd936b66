import Adventure.Proofs.Session.Scenes
import Adventure.Proofs.World.Frames

/-!
# Unloading everything

What is left when a module is unloaded: what the world was made with, how many handles have been
given out, the dice and the trail. Most of the rest is dropped whatever the world was like; the list
of areas is emptied area by area, and that it comes out empty is owed to every area on it being
live.
-/

namespace Adventure

variable {σ : Type} {s : Session σ}

namespace World

variable {w w₁ w₂ w₃ : World}

/-! ### What unloading keeps -/

/-- What a world was made with, the number of handles given out, and the dice are as they were, and
the trail goes on. -/
structure Carries (w w' : World) : Prop where
  library : w'.library = w.library
  models : w'.models = w.models
  clock : w'.clock = w.clock
  issued : w'.registry.issued = w.registry.issued
  dice : w'.dice = w.dice
  events : w.events <+: w'.events

namespace Carries

theorem refl (w : World) : Carries w w := ⟨rfl, rfl, rfl, rfl, rfl, List.prefix_refl _⟩

theorem trans (first : Carries w₁ w₂) (second : Carries w₂ w₃) : Carries w₁ w₃ where
  library := second.library.trans first.library
  models := second.models.trans first.models
  clock := second.clock.trans first.clock
  issued := second.issued.trans first.issued
  dice := second.dice.trans first.dice
  events := first.events.trans second.events

theorem foldl {α : Type} {f : World → α → World} (hf : ∀ w a, Carries w (f w a)) (as : List α)
    (w : World) : Carries w (as.foldl f w) := by
  induction as generalizing w with
  | nil => exact refl w
  | cons a as ih => exact (hf w a).trans (ih (f w a))

theorem endConversation (w : World) : Carries w w.endConversation := by
  rcases w.endConversation_cases with ⟨-, hsame⟩ | ⟨c, -, hended⟩
  · rw [hsame]
    exact refl w
  · rw [hended]
    exact ⟨rfl, rfl, rfl, by simp [World.update, logEvent], rfl, List.prefix_append _ _⟩

theorem evict (w : World) (h : Handle) : Carries w (w.evict h) := by
  unfold World.evict
  split
  · exact ⟨rfl, rfl, rfl, by simp [World.update], rfl, List.prefix_refl _⟩
  · exact ⟨rfl, rfl, rfl, by simp [setRegistry], rfl, List.prefix_refl _⟩

theorem unloadArea (w : World) (area : Handle) : Carries w (w.unloadArea area) := by
  rcases w.unloadArea_cases area with ⟨-, hsame⟩ | ⟨-, noted, hclosed⟩
  · rw [hsame]
    exact refl w
  · rw [hclosed]
    exact (foldl evict (w.registry.inArea area) w).trans
      ⟨rfl, rfl, rfl, Registry.unregister_issued _ area, rfl, List.prefix_append _ noted⟩

theorem unload (w : World) : Carries w w.unload ∧
    ∃ noted, w.unload.events = w.events ++ noted ++ ["module.unload"] := by
  have hended := endConversation { w with queue := .empty, walks := [] }
  unfold World.unload
  simp only
  generalize World.endConversation { w with queue := .empty, walks := [] } = talked at hended ⊢
  have hemptied := hended.trans (foldl unloadArea talked.areas.values talked)
  generalize talked.areas.values.foldl World.unloadArea talked = emptied at hemptied ⊢
  refine ⟨⟨hemptied.library, hemptied.models, hemptied.clock, ?_, hemptied.dice,
    hemptied.events.trans (List.prefix_append _ _)⟩, ?_⟩
  · cases emptied.pc with
    | none => exact hemptied.issued
    | some pc => exact (Registry.unregister_issued emptied.registry pc).trans hemptied.issued
  · obtain ⟨noted, hnoted⟩ := hemptied.events
    exact ⟨noted, congrArg (· ++ ["module.unload"]) hnoted.symm⟩

end Carries

/-- A world is as it is made new once it is unloaded, if only no area is left on the list. -/
theorem unload_eq_new (hareas : w.unload.areas = []) :
    ∃ noted, w.unload = { World.new w.library w.models.source w.clock 0 with
      models := w.models
      registry := { Registry.empty with issued := w.registry.issued }
      dice := w.dice
      events := w.events ++ noted ++ ["module.unload"] } := by
  obtain ⟨⟨hlibrary, hmodels, hclock, hissued, hdice, -⟩, noted, hevents⟩ := Carries.unload w
  have hregistry : w.unload.registry = { Registry.empty with issued := w.registry.issued } := by
    rw [← hissued]
    rfl
  have hqueue := unload_queue w
  have hwalks := unload_walks w
  have hconversation := unload_conversation w
  have hcleared : w.unload.moduleId = .invalid ∧ w.unload.currentArea = none ∧ w.unload.pc = none ∧
      w.unload.tokens = [] ∧ w.unload.entering = .invalid ∧ w.unload.exiting = .invalid :=
    ⟨rfl, rfl, rfl, rfl, rfl, rfl⟩
  refine ⟨noted, ?_⟩
  generalize w.unload = u at *
  cases u
  simp_all [World.new]

end World

/-- Unloading in a reached session leaves a world as it is made new with the same library, the same
models and the same clock, in every field but three: as many handles as before count as given out,
the dice are where they were, and the trail goes on from what it was and ends with the note of
it. -/
theorem unload_leaves_new (hs : s.Reached) (hlimit : s.world.registry.issued < Registry.limit) :
    ∃ noted, s.world.unload = { World.new s.world.library s.world.models.source s.world.clock 0 with
      models := s.world.models
      registry := { Registry.empty with issued := s.world.registry.issued }
      dice := s.world.dice
      events := s.world.events ++ noted ++ ["module.unload"] } :=
  World.unload_eq_new (hs.linked hlimit).unload_areas

/-- The player's creature and the guard are gone with the yard, and they talk no more. -/
theorem talking_unloaded : talking.world.unload.registry = ⟨[], [], 3⟩ ∧
    talking.world.unload.areas = [] ∧ talking.world.unload.pc = none ∧
    talking.world.unload.conversation = none := by
  obtain ⟨hissued, -⟩ := talking_plays
  obtain ⟨noted, hunloaded⟩ := unload_leaves_new talking_reached talking_below_limit
  rw [hunloaded, hissued]
  exact ⟨rfl, rfl, rfl, rfl⟩

/-- The bound is needed: an area that comes after the last handle stays on the list. It does so in
every build: the count has not gone round yet. -/
theorem leftover_past_limit : ∃ s : Session Unit, s.Reached ∧ s.world.unload.areas ≠ [] := by
  obtain ⟨s, hs, hworld⟩ := spent_reached 4294967294
  refine ⟨_, hs.leads ((Session.Leads.here s).operation .idle (.loadArea "Field")), ?_⟩
  show (s.world.loadArea "Field").2.unload.areas ≠ []
  rw [hworld]
  decide

end Adventure

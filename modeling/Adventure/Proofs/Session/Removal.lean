import Adventure.Proofs.Session.Strays
import Adventure.Proofs.World.Removal

/-!
# Removal from reached sessions

What destroying an object and unloading an area take out of a reached session, and that they take
nothing else.
-/

namespace Adventure

open World (Destroyed Unloaded)

variable {σ : Type} {s : Session σ}

/-- In every reached session, an object that is destroyed goes alone: every other object that was
live is live, in the same order and as it was, but for the partner in a conversation that ends and
for the area that listed it. An area that is unloaded goes with what is in it, and every other
object is as it was; the player's creature stays without an area and hidden. The walks of the object
and the walks over the area go too, and nothing else in the world changes but what names them and
the trail. -/
theorem removal_exact (hs : s.Reached) :
    (∀ h, (s.world.destroyObject h).1 = true →
      Destroyed s.world h (s.world.destroyObject h).2) ∧
    ∀ area, s.world.isArea area = true → Unloaded s.world area (s.world.unloadArea area) :=
  ⟨fun _ hdone => World.destroyed_destroyObject hs.indexed hdone,
    fun _ harea => World.unloaded_unloadArea hs.indexed harea⟩

/-- The player's creature is destroyed while it talks with the guard, and the guard loses its
speaker. The guard that has become the player's creature outlasts the yard. -/
theorem guard_outlasts :
    (talking.world.destroyObject ⟨3⟩).2.registry.ids = [⟨1⟩, ⟨2⟩] ∧
    ((talking.world.destroyObject ⟨3⟩).2.get? ⟨2⟩).map Object.pcSpeaker = some none ∧
    (drafted.world.unloadArea ⟨1⟩).registry.ids = [⟨2⟩] ∧
    ((drafted.world.unloadArea ⟨1⟩).get? ⟨2⟩).map (fun o => (o.area, o.isVisible)) =
      some (none, false) := by
  have hdrafted : drafted.Reached := ⟨guarded, .plain, 0, 0, (), drafted_leads⟩
  have htalk : (talking.world.destroyObject ⟨3⟩).1 = true ∧
      talking.world.registry.ids.filter (· ≠ ⟨3⟩) = [⟨1⟩, ⟨2⟩] ∧
      talking.world.partner? ⟨3⟩ = some ⟨2⟩ ∧ (talking.world.get? ⟨2⟩).isSome = true ∧
      ((talking.world.get? ⟨3⟩).bind Object.area) = none := by decide +kernel
  have hyard : drafted.world.isArea ⟨1⟩ = true ∧
      drafted.world.registry.ids.filter (drafted.world.outlasts ⟨1⟩) = [⟨2⟩] ∧
      drafted.world.pc = some ⟨2⟩ ∧
      (drafted.world.get? ⟨2⟩).map (fun o => (o.area, o.hide.isVisible)) =
        some (some ⟨1⟩, false) := by decide +kernel
  obtain ⟨hdone, hleft, hpartner, hguard, hnowhere⟩ := htalk
  obtain ⟨harea, hstay, hpc, hplayer⟩ := hyard
  have hdestroyed := (removal_exact talking_reached).1 ⟨3⟩ hdone
  have hunloaded := (removal_exact hdrafted).2 ⟨1⟩ harea
  obtain ⟨guard, hguard⟩ := Option.isSome_iff_exists.1 hguard
  obtain ⟨player, hplayer, hplace⟩ := Option.map_eq_some_iff.1 hplayer
  rw [Prod.mk.injEq] at hplace
  have hid : guard.id = ⟨2⟩ := World.id_of_get? hguard
  refine ⟨hdestroyed.ids.trans hleft, ?_, hunloaded.ids.trans hstay, ?_⟩
  · rw [hdestroyed.others ⟨2⟩ guard hguard (by decide), Option.map_some]
    simp [World.survivor, World.silenced, hnowhere, hpartner, hid]
  · rw [hunloaded.player ⟨2⟩ player hplayer (by decide) hplace.1 hpc, Option.map_some]
    exact congrArg some (Prod.ext rfl hplace.2)

end Adventure

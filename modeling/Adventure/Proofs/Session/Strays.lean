import Adventure.Proofs.Session.Scenes
import Adventure.Proofs.World.Strays

/-!
# Lists of reached sessions

What an area lists is in it, in every reached session, with two exceptions: the player's creature
may have gone elsewhere, and a handle that has been stranded on the list is not live.
-/

namespace Adventure

open World (Stranded Moves)
open Registry (limit)

variable {σ : Type} {s : Session σ}

/-- In a session that a fresh one leads to, what an area lists is live and in that area, unless it
is the player's creature and that is elsewhere, or a step has left it behind there. Such a step
leaves the handle of an object that is not live any more on the list. -/
theorem listed_unless_stranded {library : Library} {models : ModelSource} {clock seed : UInt64}
    {host : σ} (hs : (Session.fresh library models clock seed host).Leads s)
    (hlimit : s.world.registry.issued < limit) :
    (∀ area h, s.world.onList area h = true →
      ((∃ o, s.world.get? h = some o ∧ o.area = some area) ↔
        ¬(s.world.pc = some h ∧ s.world.pcArea? ≠ some area ∨
          Stranded (.new library models clock seed) s.world area h))) ∧
    ∀ area h w, s.world.Strands area h w → w.registry.issued < limit →
      w.onList area h = true ∧ w.get? h = none := by
  have hreached : s.Reached := ⟨library, models, clock, seed, host, hs⟩
  have hmoves : Moves (.new library models clock seed) s.world := hs.moves
  have hnew := World.linked_new library models clock seed
  have hl := hreached.linked hlimit
  have hlisted := hreached.listed hlimit
  refine ⟨?_, ?_⟩
  · intro area h hon
    rw [World.onList_iff hl.sound] at hon
    have hnothing : (World.new library models clock seed).scene.Listed :=
      ⟨fun _ hb => (nomatch hb), fun _ hb => (nomatch hb), fun _ hb => nomatch hb⟩
    have hnone : ¬(World.new library models clock seed).scene.Stray area h := by
      rintro ⟨⟨b, hb, -⟩, -⟩
      cases hb
    have hlive := World.live_iff hmoves hnew hnothing hlimit hnone hon
    rw [not_or, ← hlive]
    constructor
    · rintro ⟨o, ho, harea⟩
      obtain ⟨hmem, hid⟩ := hl.sound.indexed.get?_eq_some.1 ho
      exact ⟨(hl.home_iff hlisted hon ho).1 harea, o, hmem, hid⟩
    · rintro ⟨hplayer, o, hmem, hid⟩
      have ho : s.world.get? h = some o := hl.sound.indexed.get?_eq_some.2 ⟨hmem, hid⟩
      exact ⟨o, ho, (hl.home_iff hlisted hon ho).2 hplayer⟩
  · intro area h w hstrands hlimit'
    obtain ⟨kind, hstep⟩ := hstrands.step
    have hl' := hstep.linked hl hlimit'
    obtain ⟨hon, hgone⟩ := hstrands.stray hl hlimit'
    refine ⟨(World.onList_iff hl'.sound).2 hon, Option.eq_none_iff_forall_ne_some.2 fun o ho => ?_⟩
    obtain ⟨hmem, hid⟩ := hl'.sound.indexed.get?_eq_some.1 ho
    exact hgone o hmem hid

/-! ### A guard that becomes the player's creature -/

/-- The guard of the yard becomes the player's creature. -/
def draft : Play Unit Unit := do
  let _ ← Play.act fun w => w.loadArea "yard"
  let _ ← Play.act fun w => w.usePc ⟨2⟩

def drafted : Session Unit := draft.after (.fresh guarded .plain 0 0 ())

theorem drafted_leads : (Session.fresh guarded .plain 0 0 ()).Leads drafted := by
  refine (Session.Leads.here _).play .idle ?_
  refine .first (.loadArea "yard") fun _ => ?_
  exact .first (.usePc ⟨2⟩) fun _ => .answer _

/-- The guard has not been stranded on the list of the yard, and it would be if another creature
became the player's. -/
theorem drafted_listed :
    ¬Stranded (.new guarded .plain 0 0) drafted.world ⟨1⟩ ⟨2⟩ ∧
    (drafted.world.loadPc [("Appearance_Type", .int 0)]).2.onList ⟨1⟩ ⟨2⟩ = true ∧
    (drafted.world.loadPc [("Appearance_Type", .int 0)]).2.get? ⟨2⟩ = none := by
  have hplay : drafted.world.registry.issued < limit ∧ drafted.world.pc = some ⟨2⟩ ∧
      drafted.world.onList ⟨1⟩ ⟨2⟩ = true ∧
      ((drafted.world.get? ⟨2⟩).bind Object.area) = some ⟨1⟩ ∧
      (drafted.world.loadPc [("Appearance_Type", .int 0)]).1.toOption = some ⟨3⟩ ∧
      (drafted.world.loadPc [("Appearance_Type", .int 0)]).2.registry.issued < limit := by
    decide +kernel
  obtain ⟨hlimit, hpc, hon, hplace, hbuilt, hlimit'⟩ := hplay
  obtain ⟨o, ho, harea⟩ := Option.bind_eq_some_iff.1 hplace
  have hok : ∀ {answer : Except Failure Handle} {h}, answer.toOption = some h → answer = .ok h := by
    rintro (e | k) h hsome
    · cases hsome
    · exact congrArg _ (Option.some_inj.1 hsome)
  obtain ⟨hlists, hleaves⟩ := listed_unless_stranded drafted_leads hlimit
  refine ⟨fun hstranded => (hlists ⟨1⟩ ⟨2⟩ hon).1 ⟨o, ho, harea⟩ (Or.inr hstranded), ?_⟩
  exact hleaves ⟨1⟩ ⟨2⟩ _ (.loadPc _ ⟨3⟩ (hok hbuilt) hpc hon) hlimit'

/-- Another creature becomes the player's. The yard still lists the guard, which is not live. -/
theorem replaced_listed :
    let replaced := ((Operation.loadPc [("Appearance_Type", .int 0)]).play .idle).after drafted
    replaced.Reached ∧ replaced.world.onList ⟨1⟩ ⟨2⟩ = true ∧ replaced.world.get? ⟨2⟩ = none := by
  refine ⟨⟨guarded, .plain, 0, 0, (), drafted_leads.operation .idle (.loadPc _)⟩, ?_⟩
  decide +kernel

end Adventure

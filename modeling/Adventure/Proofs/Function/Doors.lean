import Adventure.Proofs.Function.Effects
import Adventure.Proofs.World.Doors

/-!
# Functions that leave doors alone

No function but those that may run scripts does anything to a door, or puts a line on the trail that
tells of doors or of scripts.
-/

namespace Adventure.Function

open Bridge
open World (Steady)

variable {σ : Type}

theorem steady_speak (w : World) (speaker : Handle) (text : String) :
    Steady w (speak w speaker text) := by
  unfold speak
  split
  · refine .logEvent w ?_
    simp only [String.append_assoc]
    exact World.not_tells_append "speak " _ (by decide)
  · exact .refl w

theorem steady_randomBelow (w : World) (limit : Int32) : Steady w (randomBelow w limit).2 := by
  unfold randomBelow
  split <;> exact .aside rfl rfl

theorem steady_change (f : Change) (w : World) (c : CallContext) :
    Has (fun _ w' => Steady w w') (f.perform w c) := by
  unfold Change.perform
  cases f with
  | print what =>
    exact has_bind fun line _ =>
      has_pure (.logEvent w (World.not_tells_append "print " line (by decide)))
  | speak => exact has_bind fun text _ => has_pure (steady_speak w _ text)
  | setLocal type =>
    exact has_bind fun name _ => has_bind fun set _ => has_bind fun h _ =>
      has_pure (.update w h fun _ => ⟨rfl, rfl⟩)
  | deleteLocal type =>
    exact has_bind fun name _ => has_bind fun h _ => has_pure (.update w h fun _ => ⟨rfl, rfl⟩)
  | setFacing => exact has_bind fun facing _ => has_pure (.update w _ fun _ => ⟨rfl, rfl⟩)
  | setFacingPoint => exact has_bind fun target _ => has_pure (.update w _ fun _ => ⟨rfl, rfl⟩)
  | setCommandable => exact has_bind fun n _ => has_pure (.update w _ fun _ => ⟨rfl, rfl⟩)
  | clearActions => exact has_pure (.refl w)
  | random =>
    exact has_bind fun n _ => has_pure (steady_randomBelow w n)
  | dice sides => exact has_bind fun n _ => has_pure (.aside rfl rfl)
  | firstInArea =>
    exact has_bind fun area _ => has_pure (.firstInArea w _ area)
  | nextInArea =>
    exact has_bind fun area _ => has_pure (.nextInArea w _ area)
  | startConversation =>
    exact has_bind fun pc _ => has_bind fun dialog _ => has_pure (.startConversation w dialog pc _)
  | beginConversation =>
    refine has_bind fun other _ => ?_
    split
    exact has_bind fun dialog _ => has_pure (.startConversation w dialog _ _)
  | createObject =>
    refine has_bind fun n _ => has_bind fun template _ => has_bind fun place _ => ?_
    cases place with
    | none => exact has_pure (.refl w)
    | some place =>
      refine has_bind fun tag _ => ?_
      have hcreated := Steady.createObject w (ObjectType.ofScript n) template place tag
      split
      · rename_i h w' hw
        rw [hw] at hcreated
        exact has_pure hcreated
      · rename_i e w' hw
        rw [hw] at hcreated
        exact has_pure hcreated
  | destroyObject =>
    refine has_bind fun h _ => has_bind fun seconds _ => has_pure ?_
    split
    · exact .aside rfl rfl
    · exact .refl w
  | setToken => exact has_bind fun n _ => has_bind fun text _ => has_pure (.aside rfl rfl)
  | assignCommand =>
    refine has_bind fun subject _ => has_bind fun state _ => has_pure ?_
    split
    · exact .aside rfl rfl
    · exact .refl w
  | delayCommand => exact has_bind fun seconds _ => has_bind fun state _ => has_pure (.aside rfl rfl)
  | doCommand => exact has_bind fun state _ => has_pure (.aside rfl rfl)

theorem steady_perform {b : Builtin} (hb : b.isDeed = false) (run : Runner σ) (c : CallContext)
    (s : Session σ) : Steady s.world ((b.perform run c).after s).world := by
  cases b with
  | change f =>
    have hafter : (((Builtin.change f).perform run c).after s).world =
        (attempted (f.perform s.world c) s.world).2 := rfl
    rw [hafter]
    cases hf : f.perform s.world c with
    | error e => exact .refl s.world
    | ok p => exact steady_change f s.world c p.1 p.2 hf
  | deed d => cases hb
  | _ => exact .refl s.world

end Adventure.Function

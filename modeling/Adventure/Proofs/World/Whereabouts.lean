import Adventure.Proofs.World.LinkedOperations

/-!
# Where the player's creature is

The world notes the area that the player's creature was last noticed in. It tracks the creature when
that is the area the creature is in. Changing objects in place, or moving any other object, leaves
the creature where it is, and leaves every object the script for leaving it that it had.
-/

namespace Adventure

namespace Object

/-- The second object has the handle and the scripts of the first one. -/
structure Bound (a b : Object) : Prop where
  id : b.id = a.id
  hooks : b.hooks = a.hooks

theorem bound_hide (o : Object) : Bound o o.hide := by
  unfold hide
  split <;> exact ⟨rfl, rfl⟩

theorem bound_reveal (o : Object) : Bound o o.reveal := by
  unfold reveal
  split <;> exact ⟨rfl, rfl⟩

theorem bound_mapArea (o : Object) (f : Area → Area) : Bound o (o.mapArea f) := by
  unfold mapArea
  split <;> exact ⟨rfl, rfl⟩

theorem bound_transfer (hides shows : Prop) [Decidable hides] [Decidable shows] (area : Handle)
    (o : Object) : Bound o (World.transfer hides shows area o) := by
  have hhidden : Bound o (if hides then o.hide else o) := by
    split
    · exact bound_hide o
    · exact ⟨rfl, rfl⟩
  unfold World.transfer
  simp only
  split
  · have hshown := bound_reveal { (if hides then o.hide else o) with area := some area }
    exact ⟨hshown.id.trans hhidden.id, hshown.hooks.trans hhidden.hooks⟩
  · exact ⟨hhidden.id, hhidden.hooks⟩

theorem mapArea_area (o : Object) (f : Area → Area) : (o.mapArea f).area = o.area := by
  unfold mapArea
  split <;> rfl

end Object

namespace World

open Object (Bound)

/-- The area noted for the player's creature is the area it is in. -/
def Tracks (w : World) : Prop := w.currentArea = w.pcArea?

/-- All scripts for leaving an object are among these. -/
def ExitsAmong (exits : String → Prop) (w : World) : Prop :=
  ∀ h o script, w.get? h = some o → o.hook? "OnExit" = some script → exits script

variable {w w' : World} {exits : String → Prop}

theorem tracks_iff (w : World) : w.Tracks ↔ ∀ a, w.currentArea = some a ↔
    ∃ p o, w.pc = some p ∧ w.get? p = some o ∧ o.area = some a := by
  have hwhere : ∀ a, w.pcArea? = some a ↔
      ∃ p o, w.pc = some p ∧ w.get? p = some o ∧ o.area = some a := by
    intro a
    unfold pcArea?
    rw [Option.bind_eq_some_iff]
    constructor
    · rintro ⟨o, ho, harea⟩
      obtain ⟨p, hp, hlive⟩ := Option.bind_eq_some_iff.1 ho
      exact ⟨p, o, hp, hlive, harea⟩
    · rintro ⟨p, o, hp, hlive, harea⟩
      exact ⟨o, Option.bind_eq_some_iff.2 ⟨p, hp, hlive⟩, harea⟩
  unfold Tracks
  constructor
  · intro htracks a
    rw [htracks, hwhere]
  · intro hsame
    refine Option.ext fun a => ?_
    rw [hsame, hwhere]

/-! ### Changing objects in place -/

theorem get?_update (w : World) (h : Handle) {f : Object → Object} (hid : ∀ o, (f o).id = o.id)
    (p : Handle) : (w.update h f).get? p = (w.get? p).map fun o => if o.id = h then f o else o := by
  unfold World.get? World.update Registry.get? Registry.update Registry.lookup
  by_cases hp : p.isValid = true
  · rw [if_pos hp, if_pos hp]
    split
    · rw [List.find?_map]
      congr 1
      refine congrArg (fun q => List.find? q w.registry.objects) (funext fun o => ?_)
      simp only [Function.comp_apply]
      split
      · rw [hid]
      · rfl
    · rename_i hh
      cases hfound : w.registry.objects.find? fun o => o.id = p with
      | none => rfl
      | some o =>
        have hop : o.id = p := by simpa using List.find?_some hfound
        have hne : o.id ≠ h := by
          rintro rfl
          exact hh (hop ▸ hp)
        rw [Option.map_some, if_neg hne]
  · rw [if_neg hp, if_neg hp]
    rfl

theorem get?_of_objects {g : Object → Object} (hid : ∀ o, (g o).id = o.id)
    (hobjects : w'.registry.objects = w.registry.objects.map g) (p : Handle) :
    w'.get? p = (w.get? p).map g := by
  unfold World.get? Registry.get? Registry.lookup
  split
  · simp only [hobjects, List.find?_map, Function.comp_def, hid]
  · rfl

theorem exitsAmong_update (he : ExitsAmong exits w) (h : Handle) {f : Object → Object}
    (hf : ∀ o, Bound o (f o)) : ExitsAmong exits (w.update h f) := by
  intro p o script ho hscript
  rw [get?_update w h (fun o => (hf o).id), Option.map_eq_some_iff] at ho
  obtain ⟨before, hbefore, rfl⟩ := ho
  refine he p before script hbefore ?_
  rw [← hscript]
  unfold Object.hook?
  split
  · rw [(hf before).hooks]
  · rfl

theorem id_of_get? {p : Handle} {o : Object} (h : w.get? p = some o) : o.id = p := by
  unfold World.get? Registry.get? Registry.lookup at h
  split at h
  · simpa using List.find?_some h
  · cases h

theorem mem_of_get? {p : Handle} {o : Object} (h : w.get? p = some o) :
    o ∈ w.registry.objects := by
  unfold World.get? Registry.get? at h
  split at h
  · exact List.mem_of_find?_eq_some h
  · cases h

theorem valid_of_get? {p : Handle} {o : Object} (h : w.get? p = some o) : p.isValid = true := by
  unfold World.get? Registry.get? at h
  split at h
  · assumption
  · cases h

theorem pcArea?_update (w : World) (h : Handle) {f : Object → Object}
    (hid : ∀ o, (f o).id = o.id)
    (harea : ∀ o, o.id = h → w.pc = some o.id → (f o).area = o.area) :
    (w.update h f).pcArea? = w.pcArea? := by
  have hpc : (w.update h f).pc = w.pc := rfl
  unfold pcArea?
  rw [hpc]
  cases hp : w.pc with
  | none => rfl
  | some p =>
    rw [Option.bind_some, Option.bind_some, get?_update w h hid]
    cases ho : w.get? p with
    | none => rfl
    | some o =>
      rw [Option.map_some, Option.bind_some, Option.bind_some]
      split
      · rename_i hh
        exact harea o hh (by rw [hp, id_of_get? ho])
      · rfl

/-- Nothing has moved as far as the player's creature is concerned. -/
structure Still (exits : String → Prop) (w w' : World) : Prop where
  pc : w'.pc = w.pc
  bound : ExitsAmong exits w → ExitsAmong exits w'
  currentArea : w'.currentArea = w.currentArea
  pcArea? : w'.pcArea? = w.pcArea?

namespace Still

theorem refl (w : World) : Still exits w w := ⟨rfl, id, rfl, rfl⟩

theorem trans {a b c : World} (hab : Still exits a b) (hbc : Still exits b c) : Still exits a c :=
  ⟨hbc.pc.trans hab.pc, fun h => hbc.bound (hab.bound h), hbc.currentArea.trans hab.currentArea,
    hbc.pcArea?.trans hab.pcArea?⟩

theorem aside (hregistry : w'.registry = w.registry) (hpc : w'.pc = w.pc)
    (hcurrent : w'.currentArea = w.currentArea) : Still exits w w' := by
  have hget : w'.get? = w.get? := by
    unfold World.get?
    rw [hregistry]
  refine ⟨hpc, ?_, hcurrent, ?_⟩
  · unfold ExitsAmong
    rw [hget]
    exact id
  · unfold World.pcArea?
    rw [hpc, hget]

theorem logEvent (w : World) (event : String) : Still exits w (w.logEvent event) :=
  aside rfl rfl rfl

theorem update (w : World) (h : Handle) {f : Object → Object} (hf : ∀ o, Bound o (f o))
    (harea : ∀ o, o.id = h → w.pc = some o.id → (f o).area = o.area) :
    Still exits w (w.update h f) :=
  ⟨rfl, fun he => exitsAmong_update he h hf, rfl, pcArea?_update w h (fun o => (hf o).id) harea⟩

theorem setAreaVisible (w : World) (area : Handle) (visible : Bool) :
    Still exits w (w.setAreaVisible area visible) := by
  unfold World.setAreaVisible
  generalize w.registry.inArea area = hs
  induction hs generalizing w with
  | nil => exact .refl w
  | cons h hs ih =>
    refine trans (update w h ?_ ?_) (ih _)
    · intro o
      split
      · exact Object.bound_reveal o
      · exact Object.bound_hide o
    · intro o _ _
      split
      · exact (Object.alike_reveal o).kin.area
      · exact (Object.alike_hide o).kin.area

end Still

/-- The player's creature may have moved, and then it is tracked if it was tracked before. -/
structure Guides (exits : String → Prop) (w w' : World) : Prop where
  pc : w'.pc = w.pc
  bound : ExitsAmong exits w'
  tracks : w.Tracks → w'.Tracks

namespace Guides

theorem refl (he : ExitsAmong exits w) : Guides exits w w := ⟨rfl, he, id⟩

theorem trans {a b c : World} (hab : Guides exits a b) (hbc : Guides exits b c) :
    Guides exits a c :=
  ⟨hbc.pc.trans hab.pc, hbc.bound, fun ht => hbc.tracks (hab.tracks ht)⟩

end Guides

theorem Still.guides (h : Still exits w w') (he : ExitsAmong exits w) : Guides exits w w' := by
  refine ⟨h.pc, h.bound he, fun ht => ?_⟩
  unfold Tracks
  rw [h.currentArea, h.pcArea?]
  exact ht

/-! ### Moving -/

theorem relocate_pc (w : World) (h current area : Handle) (position : Vec3) :
    (w.relocate h current area position).pc = w.pc := by
  unfold relocate
  show (if current = area then w else w.changeArea h current area).pc = w.pc
  split
  · rfl
  · rw [changeArea_eq]
    simp only
    split <;> rfl

theorem exitsAmong_relocate (he : ExitsAmong exits w) (h current area : Handle)
    (position : Vec3) : ExitsAmong exits (w.relocate h current area position) := by
  unfold relocate
  refine exitsAmong_update ?_ h fun o => ⟨rfl, rfl⟩
  split
  · exact he
  · have hmoved := exitsAmong_update he h
      (Object.bound_transfer (w.pcArea? = some current) (w.pcArea? = some area) area)
    rw [changeArea_eq]
    simp only
    split
    · exact hmoved
    · exact exitsAmong_update (exitsAmong_update hmoved current (Object.bound_mapArea · _)) area
        (Object.bound_mapArea · _)

theorem still_relocate (h current area : Handle) (position : Vec3) (hpc : w.pc ≠ some h) :
    Still exits w (w.relocate h current area position) := by
  have hother : ∀ {f : Object → Object}, ∀ o : Object, o.id = h → w.pc = some o.id →
      (f o).area = o.area := fun o hid hp => absurd (hid ▸ hp) hpc
  have hmoved : Still exits w (if current = area then w else w.changeArea h current area) := by
    split
    · exact .refl w
    · rw [changeArea_eq]
      simp only
      have hfirst : Still exits w (w.update h
          (transfer (w.pcArea? = some current) (w.pcArea? = some area) area)) :=
        .update w h (Object.bound_transfer _ _ area) hother
      split
      · exact hfirst
      · have hlist : ∀ (w : World) (a : Handle) (f : Area → Area),
            Still exits w (w.update a fun o => o.mapArea f) := fun w a f =>
          .update w a (Object.bound_mapArea · f) fun o _ _ => Object.mapArea_area o f
        exact (hfirst.trans (hlist _ current _)).trans (hlist _ area _)
  exact hmoved.trans (.update _ h (fun o => ⟨rfl, rfl⟩) fun o _ _ => rfl)

end World

end Adventure

import Adventure.Proofs.World.Frames
import Adventure.Proofs.World.Listing
import Adventure.Proofs.World.Visibility

/-!
# What a jump changes

An object that jumps comes to another place, and its handle goes from one list to another if that is
in another area. What is shown of it may change on the way. Nothing else does, unless it is the
player's creature, whose coming and going has to be noticed.
-/

namespace Adventure.World

open Object (hide_hide hide_reveal hide_place hide_setPosition)

variable {w w' : World} {h old new : Handle}

/-- An object other than the player's creature has come from one area to a place in another or the
same one, and nothing else has happened. What is shown of it is left open. -/
structure Jumped (w : World) (h old new : Handle) (position : Vec3) (w' : World) : Prop where
  object : ∀ o, w.get? h = some o → ∃ o', w'.get? h = some o' ∧
    o'.hide = ({ o with area := some new }.setPosition position).hide
  leaves : old ≠ new → ∀ b, w.get? old = some b → w'.get? old = some
    (b.mapArea fun a => { a with objects := a.objects.filter (· ≠ h) })
  joins : old ≠ new → ∀ b, w.get? new = some b → w'.get? new = some
    (b.mapArea fun a => { a with objects := a.objects ++ [h] })
  others : ∀ k, k ≠ h → (old ≠ new → k ≠ old ∧ k ≠ new) → w'.get? k = w.get? k
  ids : w'.registry.ids = w.registry.ids
  tags : w'.registry.tags = w.registry.tags
  issued : w'.registry.issued = w.registry.issued
  rest : w' = { w with registry := w'.registry }

/-! ### One object on its way -/

theorem hide_transfer (hides shows : Prop) [Decidable hides] [Decidable shows] (o : Object) :
    (transfer hides shows new o).hide = { o with area := some new }.hide := by
  have hhidden : (if hides then o.hide else o).hide = o.hide := by
    split
    · exact hide_hide o
    · rfl
  have hplaced : { (if hides then o.hide else o) with area := some new }.hide =
      { o with area := some new }.hide := by
    calc _ = { (if hides then o.hide else o).hide with area := some new } := hide_place _ _
      _ = { o.hide with area := some new } := by rw [hhidden]
      _ = _ := (hide_place o (some new)).symm
  unfold transfer
  simp only
  split
  · exact (hide_reveal _).trans hplaced
  · exact hplaced

theorem get?_relocate (hpc : w.pc ≠ some h) (hold : h ≠ old) (hnew : h ≠ new) (hdiffer : old ≠ new)
    (position : Vec3) (k : Handle) : (w.relocate h old new position).get? k =
      (w.get? k).map fun o =>
        if k = h then
          (transfer (w.pcArea? = some old) (w.pcArea? = some new) new o).setPosition position
        else if k = old then o.mapArea (·.removeObject h)
        else if k = new then o.mapArea (·.addObject h)
        else o := by
  have htransfer : ∀ o, (transfer (w.pcArea? = some old) (w.pcArea? = some new) new o).id = o.id :=
    fun o => (kin_transfer _ _ new o).id
  have hlist : ∀ (f : Area → Area) (o : Object), (o.mapArea f).id = o.id :=
    fun f o => (Object.relisted_mapArea o f).id
  unfold relocate
  rw [if_neg hdiffer, changeArea_eq]
  simp only [if_neg hpc]
  unfold changeLists
  have hposed : ∀ o : Object, (o.setPosition position).id = o.id := fun _ => rfl
  rw [get?_update _ _ hposed, get?_update _ _ (hlist _), get?_update _ _ (hlist _),
    get?_update _ _ htransfer]
  cases ho : w.get? k with
  | none => rfl
  | some o =>
    obtain rfl : o.id = k := id_of_get? ho
    simp only [Option.map_some]
    by_cases hself : o.id = h
    · simp [hself, hold, hnew, htransfer]
    · by_cases hleft : o.id = old
      · simp [hleft, hdiffer, hlist, Ne.symm hold]
      · by_cases hright : o.id = new
        · simp [hright, Ne.symm hdiffer, hlist, Ne.symm hnew]
        · simp [hself, hleft, hright]

theorem relocate_rest (w : World) (h old new : Handle) (position : Vec3) :
    (w.relocate h old new position).registry.tags = w.registry.tags ∧
      w.relocate h old new position =
        { w with registry := (w.relocate h old new position).registry } := by
  unfold relocate
  split
  · exact ⟨Registry.update_tags _ _ _, rfl⟩
  · rw [changeArea_eq]
    simp only
    split
    · exact ⟨by simp [update], rfl⟩
    · exact ⟨by simp [update, changeLists], rfl⟩

theorem Linked.not_listed (hl : Linked w) (hlisted : w.scene.Listed) {o b : Object}
    (ho : w.get? h = some o) (hb : w.get? new = some b) (hpc : w.pc ≠ some h)
    (helsewhere : o.area ≠ some new) : ∀ a, b.area? = some a → h ∉ a.objects := by
  obtain ⟨hmem, rfl⟩ := hl.sound.indexed.get?_eq_some.1 ho
  obtain ⟨hbmem, rfl⟩ := hl.sound.indexed.get?_eq_some.1 hb
  intro a ha hin
  exact helsewhere ((hlisted.listed b hbmem a ha o hmem hpc).1 hin)

/-- What jumps is a game object, so it is neither of the two areas. -/
theorem Linked.canJump_apart (hl : Linked w) (hjump : w.canJump h new = some old) :
    h ≠ old ∧ h ≠ new := by
  obtain ⟨hgame, b, hb, hbid, hbkind⟩ := hl.of_canJump hjump
  obtain ⟨o, ho, harea, -⟩ := Linked.canJump_eq_some.1 hjump
  obtain ⟨hmem, hid⟩ := hl.sound.indexed.get?_eq_some.1 ho
  obtain ⟨c, hc, hcid, hckind⟩ := hl.placed o hmem old harea
  have hapart : ∀ a ∈ w.registry.objects, a.kind = .area → h ≠ a.id := by
    intro a ha hkind hsame
    exact (Object.ne_of_isGameObject (hgame a ha hsame.symm)).1 hkind
  rw [← hcid, ← hbid]
  exact ⟨hapart c hc hckind, hapart b hb hbkind⟩

theorem get?_relocate_within (w : World) (h area : Handle) (position : Vec3) (k : Handle) :
    (w.relocate h area area position).get? k =
      (w.get? k).map fun o => if o.id = h then o.setPosition position else o := by
  unfold World.relocate
  rw [if_pos rfl, get?_update]
  exact fun _ => rfl

theorem jumped_within {o : Object} (ho : w.get? h = some o) (harea : o.area = some old)
    (position : Vec3) : Jumped w h old old position (w.relocate h old old position) := by
  have hkeeps := Keeps.relocate w h old old position
  obtain ⟨htags, hrest⟩ := w.relocate_rest h old old position
  have hget := get?_relocate_within w h old position
  refine ⟨?_, absurd rfl, absurd rfl, ?_, hkeeps.ids, htags, hkeeps.issued, hrest⟩
  · intro a ha
    obtain rfl : o = a := Option.some_inj.1 (ho.symm.trans ha)
    refine ⟨o.setPosition position, by simp [hget, ho, id_of_get? ho], ?_⟩
    rw [← harea]
  · intro k hk _
    rw [hget]
    cases ha : w.get? k with
    | none => rfl
    | some a => simp [id_of_get? ha, hk]

theorem Linked.jumped (hl : Linked w) (hlisted : w.scene.Listed)
    (hjump : w.canJump h new = some old) (hpc : w.pc ≠ some h) (position : Vec3) :
    Jumped w h old new position (w.relocate h old new position) := by
  obtain ⟨hold, hnew⟩ := hl.canJump_apart hjump
  obtain ⟨o, ho, harea, -⟩ := Linked.canJump_eq_some.1 hjump
  by_cases hdiffer : old = new
  · subst hdiffer
    exact jumped_within ho harea position
  · have hkeeps := Keeps.relocate w h old new position
    obtain ⟨htags, hrest⟩ := w.relocate_rest h old new position
    have hget := get?_relocate hpc hold hnew hdiffer position
    refine ⟨?_, ?_, ?_, ?_, hkeeps.ids, htags, hkeeps.issued, hrest⟩
    · intro a ha
      refine ⟨_, by rw [hget, ha, Option.map_some, if_pos rfl], ?_⟩
      rw [hide_setPosition, hide_transfer, hide_setPosition]
    · intro _ a ha
      rw [hget, ha, Option.map_some, if_neg (Ne.symm hold), if_pos rfl]
      rfl
    · intro _ a ha
      rw [hget, ha, Option.map_some, if_neg (Ne.symm hnew), if_neg (Ne.symm hdiffer), if_pos rfl]
      have helsewhere : o.area ≠ some new := by
        rw [harea]
        exact fun hsame => hdiffer (Option.some_inj.1 hsame)
      refine congrArg some (Object.mapArea_congr fun list hlist => ?_)
      exact if_neg (hl.not_listed hlisted ho ha hpc helsewhere list hlist)
    · intro k hk hother
      obtain ⟨hkold, hknew⟩ := hother hdiffer
      simp [hget, hk, hkold, hknew]

end Adventure.World

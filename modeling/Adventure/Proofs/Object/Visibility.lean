import Adventure.Object.Basic

/-!
# What can be seen of an object

A waypoint has its map note to show, all other game objects their model, if they have one. Showing
and hiding set what is shown; no other setter touches it.
-/

namespace Adventure

/-- Whether something is shown, and whether it can be. -/
structure Sight where
  able : Bool
  shown : Bool
  deriving DecidableEq

namespace Object

/-- The note of a waypoint, or the model of another game object. -/
def sight? (o : Object) : Option Sight :=
  match o.details with
  | .module _ => none
  | .area _ => none
  | .waypoint w => some ⟨w.hasMapNote && w.noteEnabled, w.noteShown⟩
  | _ => o.model.map fun m => ⟨true, m.visible⟩

def isShown (o : Object) : Bool := o.sight?.any Sight.shown

variable {o o' : Object}

/-! ### Showing and hiding -/

theorem sight?_reveal (o : Object) : o.reveal.sight? = o.sight?.map fun s => ⟨s.able, s.able⟩ := by
  unfold reveal
  cases hd : o.details with
  | waypoint w => simp only [sight?, hd, Option.map_some]
  | _ => simp only [sight?, mapModel, hd, Option.map_map, Option.map_none] <;> rfl

theorem sight?_hide (o : Object) : o.hide.sight? = o.sight?.map fun s => ⟨s.able, false⟩ := by
  unfold hide
  cases hd : o.details with
  | waypoint w => simp only [sight?, hd, Option.map_some]
  | _ => simp only [sight?, mapModel, hd, Option.map_map, Option.map_none] <;> rfl

theorem isShown_hide (o : Object) : o.hide.isShown = false := by
  unfold isShown
  rw [sight?_hide]
  cases o.sight? <;> rfl

/-! ### What is there apart from what is shown -/

theorem hide_hide (o : Object) : o.hide.hide = o.hide := by
  unfold hide
  cases hd : o.details with
  | module m => simp only [hd]
  | area a => simp only [hd]
  | _ => simp [mapModel, hd, Function.comp_def]

theorem hide_reveal (o : Object) : o.reveal.hide = o.hide := by
  unfold hide reveal
  cases hd : o.details with
  | module m => simp only [hd]
  | area a => simp only [hd]
  | _ => simp [mapModel, hd, Function.comp_def]

theorem hide_place (o : Object) (area : Option Handle) :
    { o with area }.hide = { o.hide with area } := by
  unfold hide
  cases hd : o.details <;> simp [mapModel, hd]

theorem hide_setPosition (o : Object) (position : Vec3) :
    (o.setPosition position).hide = o.hide.setPosition position := by
  unfold hide setPosition
  cases hd : o.details with
  | module m => simp only [mapModel, hd]
  | area a => simp only [mapModel, hd]
  | _ => simp [mapModel, hd, Function.comp_def]

/-! ### Setters -/

theorem sight?_mapModel (o : Object) {f : Model → Model} (hf : ∀ m, (f m).visible = m.visible) :
    (o.mapModel f).sight? = o.sight? := by
  have hmodel : ∀ model : Option Model, ((model.map f).map fun m => (⟨true, m.visible⟩ : Sight)) =
      model.map fun m => ⟨true, m.visible⟩ := by
    intro model
    rw [Option.map_map]
    refine congrArg (model.map ·) (funext fun m => ?_)
    rw [Function.comp_apply, hf m]
  unfold mapModel
  cases hd : o.details <;> simp only [sight?, hd, hmodel]

theorem sight?_setPosition (o : Object) (position : Vec3) :
    (o.setPosition position).sight? = o.sight? := sight?_mapModel { o with position } fun _ => rfl

theorem sight?_setOrientation (o : Object) (orientation : Vec3) :
    (o.setOrientation orientation).sight? = o.sight? :=
  sight?_mapModel { o with orientation } fun _ => rfl

theorem sight?_setFacing (o : Object) (facing : Float32) :
    (o.setFacing facing).sight? = o.sight? := sight?_setOrientation o _

theorem sight?_setTag (o : Object) (tag : String) : (o.setTag tag).sight? = o.sight? :=
  sight?_mapModel { o with tag } fun _ => rfl

theorem sight?_mapArea (o : Object) (f : Area → Area) : (o.mapArea f).sight? = o.sight? := by
  unfold mapArea
  cases hd : o.details <;> simp only [sight?, hd]

theorem sight?_mapCreature (o : Object) (f : Creature → Creature) :
    (o.mapCreature f).sight? = o.sight? := by
  unfold mapCreature
  cases hd : o.details <;> simp only [sight?, hd]

theorem sight?_mapDoor (o : Object) (f : Door → Door) : (o.mapDoor f).sight? = o.sight? := by
  unfold mapDoor
  cases hd : o.details <;> simp only [sight?, hd]

theorem sight?_mapSituated (o : Object) (f : Situated → Situated) :
    (o.mapSituated f).sight? = o.sight? := by
  unfold mapSituated
  cases hd : o.details <;> simp only [sight?, hd]

/-- A waypoint's note stays shown or hidden, but it may come to be one that can be shown. -/
theorem isShown_mapWaypoint (o : Object) {f : Waypoint → Waypoint}
    (hf : ∀ w, (f w).noteShown = w.noteShown) : (o.mapWaypoint f).isShown = o.isShown := by
  unfold mapWaypoint isShown
  cases hd : o.details <;> simp only [sight?, hd, Option.any_some, hf]

theorem not_shown_of_kind (h : o.kind = .area ∨ o.kind = .module) : o.isShown = false := by
  unfold kind Details.kind at h
  unfold isShown sight?
  cases hd : o.details <;> simp only [hd, reduceCtorEq, or_self] at h
  all_goals rfl

theorem isShown_congr (h : o'.sight? = o.sight?) : o'.isShown = o.isShown := by
  unfold isShown
  rw [h]

/-! ### Objects that are shown where they should be -/

/-- What the object has to show is shown, as far as it can be, exactly if this is so. -/
def ShowsIf (o : Object) (b : Prop) : Prop :=
  ∀ s, o.sight? = some s → (s.shown = true ↔ b ∧ s.able = true)

variable {b : Prop}

theorem ShowsIf.congr (h : o.ShowsIf b) {b' : Prop} (hsight : o'.sight? = o.sight?)
    (hb : b' ↔ b) : o'.ShowsIf b' := by
  intro s hs
  rw [hb]
  exact h s (hsight ▸ hs)

theorem showsIf_reveal (o : Object) (hb : b) : o.reveal.ShowsIf b := by
  intro s hs
  rw [sight?_reveal] at hs
  obtain ⟨s', -, rfl⟩ := Option.map_eq_some_iff.1 hs
  exact ⟨fun h => ⟨hb, h⟩, fun h => h.2⟩

theorem showsIf_of_not_shown (h : o.isShown = false) (hb : ¬b) : o.ShowsIf b := by
  intro s hs
  unfold isShown at h
  rw [hs, Option.any_some] at h
  rw [h]
  exact ⟨fun hf => (nomatch hf), fun hbs => absurd hbs.1 hb⟩

theorem ShowsIf.not_shown (h : o.ShowsIf b) (hb : ¬b) : o.isShown = false := by
  unfold isShown
  cases hs : o.sight? with
  | none => rfl
  | some s => exact Bool.eq_false_iff.2 fun hshown => hb ((h s hs).1 hshown).1

theorem ShowsIf.isVisible (h : o.ShowsIf b)
    (hkind : o.kind = .creature ∨ o.kind = .door ∨ o.kind = .placeable)
    (hmodel : o.model.isSome = true) : o.isVisible = true ↔ b := by
  obtain ⟨m, hm⟩ := Option.isSome_iff_exists.1 hmodel
  have hsight : o.sight? = some ⟨true, m.visible⟩ := by
    unfold kind Details.kind at hkind
    unfold sight?
    cases hd : o.details <;> simp only [hd, reduceCtorEq, or_self] at hkind
    all_goals rw [hm, Option.map_some]
  unfold Object.isVisible
  rw [hm, Option.any_some]
  exact (h _ hsight).trans ⟨fun hb => hb.1, fun hb => ⟨hb, rfl⟩⟩

theorem ShowsIf.noteShown (h : o.ShowsIf b) {w : Waypoint} (hw : o.waypoint? = some w) :
    w.noteShown = true ↔ b ∧ w.hasMapNote = true ∧ w.noteEnabled = true := by
  have hsight : o.sight? = some ⟨w.hasMapNote && w.noteEnabled, w.noteShown⟩ := by
    unfold waypoint? at hw
    unfold sight?
    cases hd : o.details <;> rw [hd] at hw
    case waypoint => rw [Option.some_inj.1 hw]
    all_goals cases hw
  rw [← Bool.and_eq_true_iff]
  exact h _ hsight

end Object

end Adventure

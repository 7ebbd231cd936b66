import Adventure.Object.Loading
import Adventure.Proofs.Object.Setters
import Adventure.Proofs.Object.Visibility

/-!
# What building an object keeps

Records say much about an object, but not its handle, the area it stands in, who talks to it or what
kind of object it is: those come from the blank object that is built on. Nothing is shown that was
not shown before.
-/

namespace Adventure.Object

/-- The second object has the handle, the place, the speaker and the kind of the first one, and it
is not shown unless the first one is. -/
structure Built (a b : Object) : Prop where
  id : b.id = a.id
  area : b.area = a.area
  pcSpeaker : b.pcSpeaker = a.pcSpeaker
  kind : b.kind = a.kind
  shown : b.isShown = true → a.isShown = true

namespace Built

theorem refl (o : Object) : Built o o := ⟨rfl, rfl, rfl, rfl, fun h => h⟩

theorem trans {a b c : Object} (hab : Built a b) (hbc : Built b c) : Built a c :=
  ⟨hbc.id.trans hab.id, hbc.area.trans hab.area, hbc.pcSpeaker.trans hab.pcSpeaker,
    hbc.kind.trans hab.kind, fun h => hab.shown (hbc.shown h)⟩

theorem of_alike {a b : Object} (h : Alike a b) (hshown : b.isShown = a.isShown) : Built a b :=
  ⟨h.kin.id, h.kin.area, h.pcSpeaker, h.kin.kind, hshown.symm.trans⟩

theorem foldl {α : Type} {f : Object → α → Object} (hf : ∀ o a, Built o (f o a)) (l : List α)
    (o : Object) : Built o (l.foldl f o) := by
  induction l generalizing o with
  | nil => exact refl o
  | cons a l ih => exact (hf o a).trans (ih (f o a))

end Built

/-! ### Parts of building -/

theorem built_shared (lib : Library) (r : Record) (o : Object) : Built o (o.applyShared lib r) :=
  ⟨rfl, rfl, rfl, rfl, fun h => h⟩

theorem built_name (o : Object) (name : String) : Built o { o with name } :=
  ⟨rfl, rfl, rfl, rfl, fun h => h⟩

theorem built_modelName (o : Object) (modelName : String) : Built o { o with modelName } :=
  ⟨rfl, rfl, rfl, rfl, fun h => h⟩

theorem built_template (o : Object) (template : String) : Built o { o with template } :=
  ⟨rfl, rfl, rfl, rfl, fun h => h⟩

theorem built_mapCreature (o : Object) (f : Creature → Creature) : Built o (o.mapCreature f) := by
  have hsame := same_mapCreature o f
  refine ⟨hsame.id, mapCreature_area o f, ?_, hsame.kind,
    (isShown_congr (sight?_mapCreature o f)).symm.trans⟩
  unfold mapCreature
  cases o.details <;> rfl

theorem built_mapSituated (o : Object) (f : Situated → Situated) : Built o (o.mapSituated f) := by
  have hshown := isShown_congr (sight?_mapSituated o f)
  unfold mapSituated at hshown ⊢
  cases hd : o.details with
  | door d =>
    rw [hd] at hshown
    exact ⟨rfl, rfl, rfl, by simp only [kind, Details.kind, hd], hshown.symm.trans⟩
  | placeable p =>
    rw [hd] at hshown
    exact ⟨rfl, rfl, rfl, by simp only [kind, Details.kind, hd], hshown.symm.trans⟩
  | _ => exact .refl o

theorem built_finishLoad (o : Object) : Built o o.finishLoad := ⟨rfl, rfl, rfl, rfl, fun h => h⟩

theorem built_posed (o : Object) (position orientation : Vec3) :
    Built o ((o.setPosition position).setOrientation orientation) :=
  (Built.of_alike (alike_setPosition o _) (isShown_congr (sight?_setPosition o _))).trans
    (.of_alike (alike_setOrientation _ _) (isShown_congr (sight?_setOrientation _ _)))

theorem built_pose (r : Record) (o : Object) : Built o (o.pose r) := built_posed o _ _

theorem built_poseSituated (r : Record) (o : Object) : Built o (o.poseSituated r) :=
  built_posed o _ _

theorem built_loadModel {o o' : Object} {models models' : Models}
    (h : o.loadModel models = .ok (o', models')) : Built o o' := by
  unfold loadModel at h
  split at h
  · cases h
    exact .refl o
  · split at h
    · cases h
    · cases h
      exact .refl o
    -- A model that has just been loaded is hidden.
    · rename_i given
      have hhidden := Models.hidden_of_request given
      cases h
      refine ⟨rfl, rfl, rfl, rfl, ?_⟩
      unfold isShown sight?
      cases o.details with
      | waypoint w => exact fun h => h
      | module m => exact fun h => h
      | area a => exact fun h => h
      | _ => exact fun h => absurd (hhidden.symm.trans h) Bool.false_ne_true

/-- The last two parts of building an object with a model. -/
theorem modelled_parts {o o' : Object} {models models' : Models}
    (h : (match o.loadModel models with
      | .error e => .error e
      | .ok (o, models) => .ok (o.finishLoad, models) : Except LoadError (Object × Models)) =
        .ok (o', models')) :
    ∃ o₁, o.loadModel models = .ok (o₁, models') ∧ o' = o₁.finishLoad := by
  cases hm : o.loadModel models with
  | error e =>
    rw [hm] at h
    cases h
  | ok loaded =>
    rw [hm] at h
    cases h
    exact ⟨loaded.1, rfl, rfl⟩

theorem built_modelled {o o' : Object} {models models' : Models}
    (h : (match o.loadModel models with
      | .error e => .error e
      | .ok (o, models) => .ok (o.finishLoad, models) : Except LoadError (Object × Models)) =
        .ok (o', models')) : Built o o' := by
  obtain ⟨o₁, hm, rfl⟩ := modelled_parts h
  exact (built_loadModel hm).trans (built_finishLoad o₁)

/-! ### The kinds -/

theorem built_applyCreature (lib : Library) (o : Object) (r : Record) :
    Built o (applyCreature lib o r) := by
  unfold applyCreature
  exact (built_shared lib r o).trans ((built_name _ _).trans (built_mapCreature _ _))

theorem built_finishCreature {lib : Library} {r : Record} {o o' : Object}
    {models models' : Models} (h : finishCreature lib r o models = .ok (o', models')) :
    Built o o' := by
  unfold finishCreature at h
  split at h
  · cases h
  · refine Built.trans ?_ ((built_pose r _).trans (built_modelled h))
    split
    · exact built_modelName o _
    · exact .refl o

theorem built_applyDoor (lib : Library) (o : Object) (r : Record) :
    Built o (applyDoor lib o r) := by
  unfold applyDoor
  exact (built_shared lib r o).trans
    (.of_alike (alike_mapDoor _ _) (isShown_congr (sight?_mapDoor _ _)))

theorem built_applyPlaceable (lib : Library) (o : Object) (r : Record) :
    Built o (applyPlaceable lib o r) := by
  have hb : Built o ((o.applyShared lib r).mapSituated (applyToSituated r)) :=
    (built_shared lib r o).trans (built_mapSituated _ _)
  unfold applyPlaceable
  simp only
  split
  · rename_i p hd
    refine hb.trans ⟨rfl, rfl, rfl, ?_, ?_⟩
    · simp only [kind, Details.kind, hd]
    · unfold isShown sight?
      rw [hd]
      exact fun h => h
  · exact hb

theorem built_applyAppearance (column : String) (row : Record) (o : Object) :
    Built o (o.applyAppearance column row) := by
  simp only [applyAppearance]
  split
  · exact (built_modelName o _).trans (built_mapSituated _ _)
  · exact built_modelName o _

theorem built_applySounds (lib : Library) (o : Object) : Built o (o.applySounds lib) := by
  unfold applySounds
  split
  · exact built_mapSituated _ _
  · exact .refl o

theorem built_finishSituated {lib : Library} {table column : String} {r : Record} {o o' : Object}
    {models models' : Models}
    (h : finishSituated lib table column r o models = .ok (o', models')) : Built o o' := by
  unfold finishSituated at h
  split at h
  · cases h
  · refine Built.trans ?_ ((built_applySounds lib _).trans
      ((built_poseSituated r _).trans (built_modelled h)))
    split
    · exact built_applyAppearance column _ o
    · exact .refl o

theorem built_applyWaypoint (lib : Library) (o : Object) (r : Record) :
    Built o (applyWaypoint lib o r) := by
  unfold applyWaypoint
  exact (built_shared lib r o).trans
    ((built_name _ _).trans
      (.of_alike (alike_mapWaypoint _ _) (isShown_mapWaypoint _ fun _ => rfl)))

/-! ### Whole objects -/

theorem built_load {lib : Library} {placed : Record} {blueprint : Option Record} {o o' : Object}
    {models models' : Models} (h : load lib placed blueprint o models = .ok (o', models')) :
    Built o o' := by
  unfold load at h
  split at h
  · cases h
  · split at h
    · exact (Built.foldl (built_applyCreature lib) _ o).trans (built_finishCreature h)
    · exact (Built.foldl (built_applyDoor lib) _ o).trans (built_finishSituated h)
    · exact (Built.foldl (built_applyPlaceable lib) _ o).trans (built_finishSituated h)
    · cases h
      exact (Built.foldl (built_applyWaypoint lib) _ o).trans
        ((built_pose placed _).trans (built_finishLoad _))
    · cases h
    · cases h

theorem built_loadInstance {lib : Library} {kind : PlacedKind} {placed : Record} {o o' : Object}
    {models models' : Models}
    (h : loadInstance lib kind placed o models = .ok (o', models')) : Built o o' := by
  unfold loadInstance at h
  simp only at h
  split at h
  · exact (built_template o _).trans (built_load h)
  · split at h
    · cases h
    · exact (built_template o _).trans (built_load h)

theorem Built.not_shown {h : Handle} {kind : PlacedKind} {o : Object}
    (hbuilt : Built (.blank h kind.blank) o) : o.isShown = false := by
  refine Bool.eq_false_iff.2 fun hshown => ?_
  have hblank := hbuilt.shown hshown
  cases kind <;> cases hblank

theorem placedKind_blank (kind : PlacedKind) : kind.blank.kind = kind.kind := by
  cases kind <;> rfl

theorem placedKind_isGameObject (kind : PlacedKind) : kind.kind.isGameObject = true := by
  cases kind <;> rfl

theorem loadArea_keeps (lib : Library) (resref : String) (r : Record) (o : Object) :
    (loadArea lib resref r o).id = o.id ∧ (loadArea lib resref r o).area = o.area ∧
      (loadArea lib resref r o).details = o.details := by
  unfold loadArea
  simp only [finishLoad]
  split
  · exact ⟨rfl, rfl, rfl⟩
  · exact ⟨rfl, rfl, rfl⟩

end Adventure.Object

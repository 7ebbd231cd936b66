import Adventure.Proofs.Object.Loading

/-!
# Models and their numbers

How many models have been given out shows in the numbers of the models of a new object and in
nothing else. Whether an object can be built, and what comes of it otherwise, rests on the source of
models alone.
-/

namespace Adventure.Object

/-- The object as it is with all its models numbered zero. -/
def unnumbered (o : Object) : Object :=
  { o with
    modelIds := o.modelIds.map fun _ => 0
    model := o.model.map Model.unnumbered }

/-- What has been built, the numbers of its models aside. -/
def yielded (built : Except LoadError (Object × Models)) : Except LoadError Object :=
  built.map fun (o, _) => o.unnumbered

/-- What is kept of an object when it gets a model whose number is not kept. -/
def yieldedWith (o : Object) : Option Model → Object
  | none => o.unnumbered
  | some model =>
    { o.unnumbered with
      modelIds := o.unnumbered.modelIds ++ [0]
      model := some
        { model with
          tag := o.tag, clickable := o.isClickable, position := o.position
          rotation := modelRotation o.orientation } }

theorem yielded_loadModel {o : Object} (hname : o.modelName.isEmpty = false) (models : Models) :
    yielded (o.loadModel models) =
      ((models.source.give models.given o.modelName).map (Option.map Model.unnumbered)).map
        o.yieldedWith := by
  unfold loadModel Models.request
  simp only [hname]
  cases models.source.give models.given o.modelName with
  | error e => rfl
  | ok given =>
    cases given with
    | none => rfl
    | some model => simp [yielded, Except.map, unnumbered, Model.unnumbered, yieldedWith]

/-- How many models have been given out before makes no difference to what is built but for the
numbers of models. The source of models stays the same. -/
structure Uncounted (build : Models → Except LoadError (Object × Models)) : Prop where
  yields : ∀ models models', models.source = models'.source →
    yielded (build models) = yielded (build models')
  source : ∀ models o models', build models = .ok (o, models') → models'.source = models.source

namespace Uncounted

theorem refused (e : LoadError) : Uncounted fun _ => .error e := by
  refine ⟨fun _ _ _ => rfl, ?_⟩
  intro models o models' h
  cases h

theorem unmodelled (o : Object) : Uncounted fun models => .ok (o, models) := by
  refine ⟨fun _ _ _ => rfl, ?_⟩
  intro models o' models' h
  cases h
  rfl

theorem loadModel (o : Object) : Uncounted o.loadModel := by
  cases hname : o.modelName.isEmpty with
  | true =>
    unfold Object.loadModel
    simp only [hname, if_true]
    exact unmodelled o
  | false =>
    refine ⟨?_, ?_⟩
    · intro models models' hsource
      rw [yielded_loadModel hname, yielded_loadModel hname, hsource,
        models'.source.uncounted models.given models'.given]
    · intro models o' models' h
      unfold Object.loadModel Models.request at h
      simp only [hname] at h
      cases hgive : models.source.give models.given o.modelName with
      | error e =>
        rw [hgive] at h
        cases h
      | ok given =>
        rw [hgive] at h
        cases given <;> cases h <;> rfl

theorem finished {build : Models → Except LoadError (Object × Models)} (h : Uncounted build) :
    Uncounted fun models =>
      match build models with
      | .error e => .error e
      | .ok (o, models) => .ok (o.finishLoad, models) := by
  have hfinish : ∀ models, yielded (match build models with
      | .error e => .error e
      | .ok (o, models) => .ok (o.finishLoad, models)) = (yielded (build models)).map finishLoad := by
    intro models
    cases build models <;> rfl
  refine ⟨?_, ?_⟩
  · intro models models' hsource
    rw [hfinish, hfinish, h.yields models models' hsource]
  · intro models o models' hbuilt
    cases hbuild : build models with
    | error e =>
      simp only [hbuild] at hbuilt
      cases hbuilt
    | ok built =>
      simp only [hbuild] at hbuilt
      cases hbuilt
      exact h.source models _ _ hbuild

theorem finishCreature (lib : Library) (r : Record) (o : Object) :
    Uncounted (Object.finishCreature lib r o) := by
  unfold Object.finishCreature
  cases o.creature?.bind Creature.appearance with
  | none => exact refused _
  | some appearance => exact finished (loadModel _)

theorem finishSituated (lib : Library) (table column : String) (r : Record) (o : Object) :
    Uncounted (Object.finishSituated lib table column r o) := by
  unfold Object.finishSituated
  cases o.situated?.bind Situated.appearance with
  | none => exact refused _
  | some appearance => exact finished (loadModel _)

theorem load (lib : Library) (placed : Record) (blueprint : Option Record) (o : Object) :
    Uncounted (Object.load lib placed blueprint o) := by
  unfold Object.load
  by_cases hloaded : o.loaded = true
  · simp only [hloaded, if_true]
    exact refused _
  · simp only [hloaded]
    cases o.details with
    | module m => exact refused _
    | area a => exact refused _
    | creature c => exact finishCreature lib placed _
    | door d => exact finishSituated lib "doortypes" "Model" placed _
    | placeable p => exact finishSituated lib "placeables" "ModelName" placed _
    | waypoint w => exact unmodelled _

theorem loadInstance (lib : Library) (kind : PlacedKind) (placed : Record) (o : Object) :
    Uncounted (Object.loadInstance lib kind placed o) := by
  unfold Object.loadInstance
  by_cases hplain : (placed.getString "TemplateResRef" "").isEmpty = true
  · simp only [hplain, if_true]
    exact load lib placed none _
  · simp only [hplain]
    cases lib.resources.load kind.blueprintKind (placed.getString "TemplateResRef" "") with
    | error e => exact refused e
    | ok blueprint => exact load lib placed blueprint _

end Uncounted

end Adventure.Object

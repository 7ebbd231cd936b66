import Adventure.Proofs.Object.Loading

/-!
# What leaves local variables alone

No setter of an object but those of the local variables themselves touches them, and building an
object does not either: what has just been built has the variables of the blank object, which are
none.
-/

namespace Adventure.Object

/-! ### Setters -/

@[simp] theorem mapCreature_locals (o : Object) (f : Creature → Creature) :
    (o.mapCreature f).locals = o.locals := by
  unfold mapCreature
  cases o.details <;> rfl

@[simp] theorem mapDoor_locals (o : Object) (f : Door → Door) :
    (o.mapDoor f).locals = o.locals := by
  unfold mapDoor
  cases o.details <;> rfl

@[simp] theorem mapSituated_locals (o : Object) (f : Situated → Situated) :
    (o.mapSituated f).locals = o.locals := by
  unfold mapSituated
  cases o.details <;> rfl

@[simp] theorem mapWaypoint_locals (o : Object) (f : Waypoint → Waypoint) :
    (o.mapWaypoint f).locals = o.locals := by
  unfold mapWaypoint
  cases o.details <;> rfl

@[simp] theorem mapArea_locals (o : Object) (f : Area → Area) :
    (o.mapArea f).locals = o.locals := by
  unfold mapArea
  cases o.details <;> rfl

@[simp] theorem reveal_locals (o : Object) : o.reveal.locals = o.locals := by
  unfold reveal
  cases o.details <;> rfl

@[simp] theorem hide_locals (o : Object) : o.hide.locals = o.locals := by
  unfold hide
  cases o.details <;> rfl

@[simp] theorem setTag_locals (o : Object) (tag : String) : (o.setTag tag).locals = o.locals := rfl

@[simp] theorem setPosition_locals (o : Object) (position : Vec3) :
    (o.setPosition position).locals = o.locals := rfl

@[simp] theorem setFacing_locals (o : Object) (facing : Float32) :
    (o.setFacing facing).locals = o.locals := rfl

/-! ### Building -/

@[simp] theorem applyShared_locals (lib : Library) (r : Record) (o : Object) :
    (o.applyShared lib r).locals = o.locals := rfl

@[simp] theorem pose_locals (r : Record) (o : Object) : (o.pose r).locals = o.locals := rfl

@[simp] theorem poseSituated_locals (r : Record) (o : Object) :
    (o.poseSituated r).locals = o.locals := rfl

@[simp] theorem applyCreature_locals (lib : Library) (o : Object) (r : Record) :
    (applyCreature lib o r).locals = o.locals := by
  simp [applyCreature]

@[simp] theorem applyDoor_locals (lib : Library) (o : Object) (r : Record) :
    (applyDoor lib o r).locals = o.locals := by
  simp [applyDoor]

@[simp] theorem applyPlaceable_locals (lib : Library) (o : Object) (r : Record) :
    (applyPlaceable lib o r).locals = o.locals := by
  unfold applyPlaceable
  simp only
  split <;> simp

@[simp] theorem applyWaypoint_locals (lib : Library) (o : Object) (r : Record) :
    (applyWaypoint lib o r).locals = o.locals := by
  simp [applyWaypoint]

@[simp] theorem applyAppearance_locals (column : String) (row : Record) (o : Object) :
    (o.applyAppearance column row).locals = o.locals := by
  unfold applyAppearance
  simp only
  split <;> simp

@[simp] theorem applySounds_locals (lib : Library) (o : Object) :
    (o.applySounds lib).locals = o.locals := by
  unfold applySounds
  split <;> simp

theorem foldl_locals {f : Object → Record → Object} (hf : ∀ o r, (f o r).locals = o.locals)
    (records : List Record) (o : Object) : (records.foldl f o).locals = o.locals := by
  induction records generalizing o with
  | nil => rfl
  | cons r records ih => exact (ih (f o r)).trans (hf o r)

theorem loadModel_locals {o o' : Object} {models models' : Models}
    (h : o.loadModel models = .ok (o', models')) : o'.locals = o.locals := by
  unfold loadModel at h
  split at h
  · cases h
    rfl
  · split at h
    · cases h
    · cases h
      rfl
    · cases h
      rfl

theorem modelled_locals {o o' : Object} {models models' : Models}
    (h : (match o.loadModel models with
      | .error e => .error e
      | .ok (o, models) => .ok (o.finishLoad, models) : Except LoadError (Object × Models)) =
        .ok (o', models')) : o'.locals = o.locals := by
  obtain ⟨o₁, hm, rfl⟩ := modelled_parts h
  show o₁.locals = o.locals
  exact loadModel_locals hm

theorem finishCreature_locals {lib : Library} {r : Record} {o o' : Object} {models models' : Models}
    (h : finishCreature lib r o models = .ok (o', models')) : o'.locals = o.locals := by
  unfold finishCreature at h
  split at h
  · cases h
  · refine (modelled_locals h).trans ?_
    split <;> simp

theorem finishSituated_locals {lib : Library} {table column : String} {r : Record} {o o' : Object}
    {models models' : Models}
    (h : finishSituated lib table column r o models = .ok (o', models')) :
    o'.locals = o.locals := by
  unfold finishSituated at h
  split at h
  · cases h
  · refine (modelled_locals h).trans ?_
    split <;> simp

theorem load_locals {lib : Library} {placed : Record} {blueprint : Option Record} {o o' : Object}
    {models models' : Models} (h : load lib placed blueprint o models = .ok (o', models')) :
    o'.locals = o.locals := by
  unfold load at h
  split at h
  · cases h
  · split at h
    · exact (finishCreature_locals h).trans (foldl_locals (applyCreature_locals lib) _ o)
    · exact (finishSituated_locals h).trans (foldl_locals (applyDoor_locals lib) _ o)
    · exact (finishSituated_locals h).trans (foldl_locals (applyPlaceable_locals lib) _ o)
    · cases h
      exact foldl_locals (applyWaypoint_locals lib) _ o
    · cases h
    · cases h

theorem loadInstance_locals {lib : Library} {kind : PlacedKind} {placed : Record} {o o' : Object}
    {models models' : Models}
    (h : loadInstance lib kind placed o models = .ok (o', models')) : o'.locals = o.locals := by
  unfold loadInstance at h
  simp only at h
  split at h
  · have hloaded := load_locals h
    exact hloaded
  · split at h
    · cases h
    · have hloaded := load_locals h
      exact hloaded

@[simp] theorem loadArea_locals (lib : Library) (resref : String) (r : Record) (o : Object) :
    (loadArea lib resref r o).locals = o.locals := by
  unfold loadArea
  simp only [finishLoad]
  split <;> simp

@[simp] theorem loadModule_locals (lib : Library) (name : String) (r : Record) (o : Object) :
    (loadModule lib name r o).locals = o.locals := by
  simp [loadModule, finishLoad]

end Adventure.Object

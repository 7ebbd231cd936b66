import Adventure.Resource.Basic
import Adventure.Vector

/-!
# Models

What the renderer keeps of an object, and where models come from. The source of models belongs to
the renderer: it may have none for a name, or fail to load it. What the game relies on is that a new
model is hidden, that a source has no say in the appearances of objects, and that what it gives rests
on the name alone, but for the number of the model. Two sources come with the game.

See sections 6 and 10.6 of the specification.
-/

namespace Adventure

/-- The renderer's side of an object. -/
structure Model where
  id : UInt32
  name : String
  size : Vec3
  visible : Bool
  tag : String
  clickable : Bool
  position : Vec3
  rotation : Vec3
  /-- Whether the outline is drawn, once that has been asked for. -/
  bound : Option Bool

/-- The renderer's rotation for an object's orientation. -/
def modelRotation (orientation : Vec3) : Vec3 := ⟨orientation.x, orientation.z, -orientation.y⟩

namespace Model

/-- A model of which nothing has been asked yet. -/
def fresh (number : Nat) (name : String) (size : Vec3) : Model :=
  { id := UInt32.ofNat number, name, size, visible := false, tag := "", clickable := false,
    position := .zero, rotation := .zero, bound := none }

/-- The model as it is but for its number. -/
def unnumbered (m : Model) : Model := { m with id := 0 }

end Model

/-- A source of models: what it gives for a name when so many models have been given out before. -/
structure ModelSource where
  give : Nat → String → Except LoadError (Option Model)
  /-- Can it be looked up what a model has been told? -/
  recorded : Bool := false
  hidden : ∀ n name m, give n name = .ok (some m) → m.visible = false
  /-- That an object lacks an appearance is nothing a source could say. -/
  unblaming : ∀ n name kind, give n name ≠ .error (.missingAppearance kind)
  /-- The models given out before show in the number of the next one alone. -/
  uncounted : ∀ n n' name, (give n name).map (Option.map Model.unnumbered) =
    (give n' name).map (Option.map Model.unnumbered)

namespace ModelSource

/-- The source that has no models. -/
def none : ModelSource where
  give _ _ := .ok .none
  hidden _ _ _ h := nomatch h
  unblaming _ _ _ h := nomatch h
  uncounted _ _ _ := rfl

/-- The source that has a model of unit size for every name. -/
def plain : ModelSource where
  give n name := .ok (if name.isEmpty then .none else some (.fresh (n + 1) name .one))
  hidden n name m h := by
    split at h
    · cases h
    · cases h
      rfl
  unblaming _ _ _ h := nomatch h
  uncounted n n' name := by
    cases name.isEmpty <;> rfl

end ModelSource

/-- A source of models and how many it has given out. -/
structure Models where
  source : ModelSource
  given : Nat

namespace Models

def request (m : Models) (name : String) : Except LoadError (Option Model × Models) :=
  match m.source.give m.given name with
  | .error e => .error e
  | .ok none => .ok (none, m)
  | .ok (some model) => .ok (some model, { m with given := m.given + 1 })

theorem hidden_of_request {m m' : Models} {name : String} {model : Model}
    (h : m.request name = .ok (some model, m')) : model.visible = false := by
  unfold request at h
  split at h
  · cases h
  · cases h
  · rename_i given
    cases h
    exact m.source.hidden _ _ _ given

theorem request_unblaming (m : Models) (name kind : String) :
    m.request name ≠ .error (.missingAppearance kind) := by
  intro h
  unfold request at h
  split at h
  · rename_i refused
    cases h
    exact m.source.unblaming _ _ _ refused
  · cases h
  · cases h

end Models

end Adventure

import Adventure.Proofs.Session.Scenes
import Adventure.Proofs.World.Frames

/-!
# Operations that fail

An operation that answers that it has failed, or that it was refused, has done nothing. Those that
build an object may have given out a handle for it before they fail, and loading a module has
unloaded the one before. This is so in every session, reached or not.
-/

namespace Adventure

open Registry (handleOf)

variable {σ : Type}

/-! ### Operations on the world -/

namespace World

variable {w : World}

theorem loadArea_failed {resref : String} {e : Failure} (h : (w.loadArea resref).1 = .error e) :
    (w.loadArea resref).2 = w := by
  unfold loadArea at h ⊢
  split at h
  · cases h
  · split at h
    · rfl
    · rfl
    · cases h

theorem usePc_failed {h : Handle} {e : Failure} (he : (w.usePc h).1 = .error e) :
    (w.usePc h).2 = w := by
  rcases w.usePc_cases h with ⟨-, hrefused⟩ | ⟨o, -, -, hused⟩
  · rw [hrefused]
  · rw [hused] at he
    cases he

theorem startConversation_refused {dialog : String} {pc object : Handle}
    (h : (w.startConversation dialog pc object).1 = false) :
    (w.startConversation dialog pc object).2 = w := by
  rcases w.startConversation_cases dialog pc object with hrefused | ⟨_, _, -, -, -, hstarted⟩
  · rw [hrefused]
  · rw [hstarted] at h
    cases h

theorem placeAtEntry_failed {e : Failure} (h : w.placeAtEntry.1 = .error e) :
    w.placeAtEntry.2 = w := by
  rcases w.placeAtEntry_cases with ⟨_, hfailed⟩ | ⟨_, _, _, -, -, -, hplaced⟩
  · rw [hfailed]
  · rw [hplaced] at h
    cases h

theorem removeObject_live {h : Handle} {o : Object} (ho : w.get? h = some o) :
    (w.removeObject h).1 = true := by
  have hlive : h ∈ w.registry.ids := by
    unfold get? Registry.get? at ho
    split at ho
    · by_contra hnot
      rw [Registry.lookup_eq_none.2 hnot] at ho
      cases ho
    · cases ho
  rcases w.removeObject_cases h with ⟨hgone, -⟩ | ⟨a, -, hremoved⟩
  · rw [Registry.lookup_eq_none, (Keeps.parted w h).ids] at hgone
    exact absurd hlive hgone
  · rw [hremoved]

theorem destroyObject_refused {h : Handle} (hrefused : (w.destroyObject h).1 = false) :
    (w.destroyObject h).2 = w := by
  rcases w.destroyObject_cases h with hsame | ⟨o, ho, -, hdestroyed⟩
  · rw [hsame]
  · rw [hdestroyed, removeObject_live ho] at hrefused
    cases hrefused

theorem createObject_failed {t : ObjectType} {template : String} {place : Location} {tag : String}
    {e : Failure} (h : (w.createObject t template place tag).1 = .error e) :
    (w.createObject t template place tag).2 = w ∨
      (w.createObject t template place tag).2 =
        w.setRegistry { w.registry with issued := w.registry.issued + 1 } := by
  rcases w.createObject_cases t template place tag with
    ⟨_, hfailed⟩ | ⟨_, hfailed⟩ | ⟨_, _, _, _, _, -, -, -, hcreated⟩
  · exact .inl (by rw [hfailed])
  · exact .inr (by rw [hfailed]; rfl)
  · rw [hcreated] at h
    cases h

/-! ### Loading the player's creature -/

theorem loadPc_failed {r : Record} {e : Failure} (h : (w.loadPc r).1 = .error e) :
    ∃ models, (w.loadPc r).2 =
        { w with models, registry := { w.registry with issued := w.registry.issued + 1 } } ∧
      ((handleOf (w.registry.issued + 1)).isValid = true → models = w.models) := by
  rcases w.loadPc_cases r with ⟨_, hfailed⟩ | ⟨o, models, hload, hloaded⟩
  · rw [hfailed]
    exact ⟨w.models, rfl, fun _ => rfl⟩
  · have hbuilt := Object.built_load hload
    have hid : o.id = handleOf (w.registry.issued + 1) := hbuilt.id
    rw [hloaded] at h ⊢
    generalize hu : w.withBuilt o models = u at h ⊢
    rw [← hid] at h ⊢
    have hfailed : ∃ e', (u.usePc o.id).1 = .error e' := by
      cases hused : (u.usePc o.id).1 with
      | ok a => simp [hused, Except.map] at h
      | error e' => exact ⟨e', rfl⟩
    obtain ⟨e', hused⟩ := hfailed
    cases hvalid : o.id.isValid with
    | true =>
      have hlive : u.get? o.id = some o := hu ▸ Registry.get?_register _ hvalid
      have hcreature : u.isCreature o.id = true := by
        unfold isCreature
        rw [hlive, Option.any_some, Object.creature?_isSome]
        exact hbuilt.kind
      rw [(usePc_creature hcreature).1] at hused
      cases hused
    | false =>
      refine ⟨models, ?_, fun hcontra => by simp at hcontra⟩
      rw [show (u.usePc o.id).2 = u from usePc_failed hused, ← hu]
      unfold withBuilt Registry.register
      rw [if_neg (by simp [hvalid])]
      rfl

theorem loadModule_failed {name : String} {e : Failure} (h : (w.loadModule name).1 = .error e) :
    (w.loadModule name).2 = if w.isLoaded then w.unload else w := by
  unfold loadModule at h ⊢
  simp only at h ⊢
  split at h
  · rfl
  · rfl
  · cases h

end World

/-! ### Operations that run scripts -/

namespace Play

variable {s : Session σ} {run : Runner σ}

theorem enter_failed {e : Failure} (h : (enter run).ended s = .ok (.error e)) :
    (enter run).after s = s := by
  unfold enter at h ⊢
  rw [(act_bind _ _ s).1] at h
  rw [(act_bind _ _ s).2]
  cases hplaced : s.world.placeAtEntry.1 with
  | error e' =>
    rw [World.placeAtEntry_failed hplaced]
    rfl
  | ok p =>
    -- Once the creature is at the entry nothing is answered but that it has entered.
    rw [hplaced] at h
    obtain ⟨_, -, h⟩ := answer_of_bind h
    obtain ⟨_, -, h⟩ := answer_of_bind h
    obtain ⟨_, -, h⟩ := answer_of_bind h
    obtain ⟨_, -, h⟩ := answer_of_bind h
    cases h

theorem jumpTo_refused {h area : Handle} {position : Vec3}
    (hrefused : (jumpTo run h area position).ended s = .ok false) :
    (jumpTo run h area position).after s = s := by
  unfold jumpTo at hrefused ⊢
  rw [(world_bind _ s).1] at hrefused
  rw [(world_bind _ s).2]
  cases hjump : s.world.canJump h area with
  | none => rfl
  | some current =>
    rw [hjump] at hrefused
    obtain ⟨_, -, hrefused⟩ := answer_of_bind hrefused
    simp only at hrefused
    split at hrefused
    · obtain ⟨_, -, hrefused⟩ := answer_of_bind hrefused
      cases hrefused
    · cases hrefused

theorem movePc_failed {area : String} {position : Vec3} {e : Failure}
    (h : (movePc run area position).ended s = .ok (.error e)) :
    (movePc run area position).after s = s := by
  unfold movePc at h ⊢
  rw [(world_bind _ s).1] at h
  rw [(world_bind _ s).2]
  split at h
  · rfl
  · split at h
    · rfl
    · obtain ⟨jumped, hjumped, h⟩ := answer_of_bind h
      cases jumped with
      | true => cases h
      | false =>
        rw [(bind_of_ok hjumped _).2, jumpTo_refused hjumped]
        rfl

end Play

/-! ### All of them -/

/-- In every session, whatever is asked for and whatever interpreter runs the scripts: nothing has
happened where an area cannot be loaded, where a creature cannot become the player's, enter or move,
where a conversation is not started and where nothing is destroyed. Where an object cannot be
created or the player's creature cannot be built, a handle may have been used up, and nothing else
has happened; the models that a renderer has given out belong to no world, and they stay too unless
the handle is the one that names nothing. A module that cannot be loaded leaves what unloading the
one before leaves. -/
theorem failed_operations_undone (s : Session σ) (run : Runner σ) :
    (∀ resref e, (s.world.loadArea resref).1 = .error e → (s.world.loadArea resref).2 = s.world) ∧
    (∀ h e, (s.world.usePc h).1 = .error e → (s.world.usePc h).2 = s.world) ∧
    (∀ e, (Play.enter run).ended s = .ok (.error e) → (Play.enter run).after s = s) ∧
    (∀ area position e, (Play.movePc run area position).ended s = .ok (.error e) →
      (Play.movePc run area position).after s = s) ∧
    (∀ dialog pc object, (s.world.startConversation dialog pc object).1 = false →
      (s.world.startConversation dialog pc object).2 = s.world) ∧
    (∀ h, (s.world.destroyObject h).1 = false → (s.world.destroyObject h).2 = s.world) ∧
    (∀ t template place tag e, (s.world.createObject t template place tag).1 = .error e →
      (s.world.createObject t template place tag).2 = s.world ∨
        (s.world.createObject t template place tag).2 = s.world.setRegistry
          { s.world.registry with issued := s.world.registry.issued + 1 }) ∧
    (∀ r e, (s.world.loadPc r).1 = .error e → ∃ models, (s.world.loadPc r).2 =
        { s.world with models, registry :=
          { s.world.registry with issued := s.world.registry.issued + 1 } } ∧
      ((handleOf (s.world.registry.issued + 1)).isValid = true → models = s.world.models)) ∧
    ∀ name e, (s.world.loadModule name).1 = .error e →
      (s.world.loadModule name).2 = if s.world.isLoaded then s.world.unload else s.world :=
  ⟨fun _ _ => World.loadArea_failed, fun _ _ => World.usePc_failed, fun _ => Play.enter_failed,
    fun _ _ _ => Play.movePc_failed, fun _ _ _ => World.startConversation_refused,
    fun _ => World.destroyObject_refused, fun _ _ _ _ _ => World.createObject_failed,
    fun _ _ => World.loadPc_failed, fun _ _ => World.loadModule_failed⟩

/-! ### Where everything fails -/

/-- A library with one area and with creatures that look like nothing, so that they cannot be
built. -/
def sparse : Library :=
  let text (kind : ResourceKind) (name : String) : Option String :=
    if kind = .git then some "\x7b\"Creature List\": [\x7b\"Appearance_Type\": 0\x7d]\x7d"
    else if (kind = .are ∧ name = "yard") ∨ kind = .dlg ∨ kind = .utc then some "\x7b\x7d"
    else none
  ⟨.ofTexts text fun _ _ => none, .empty⟩

def stuck : Session Unit := talk.after (.fresh sparse .plain 0 0 ())

/-- The player's creature talks with the guard of the only area, and nothing else succeeds. -/
theorem stuck_stays :
    (stuck.world.loadArea "ruin").2 = stuck.world ∧ (stuck.world.usePc ⟨9⟩).2 = stuck.world ∧
    (Play.enter .idle).after stuck = stuck ∧
    (Play.movePc .idle "ruin" ⟨0, 0, 0⟩).after stuck = stuck ∧
    (stuck.world.startConversation "talk" ⟨2⟩ ⟨3⟩).2 = stuck.world ∧
    (stuck.world.destroyObject ⟨1⟩).2 = stuck.world ∧
    ((stuck.world.createObject .creature "ghost" ⟨some ⟨1⟩, ⟨0, 0, 0⟩, 0⟩ "").2 = stuck.world ∨
      (stuck.world.createObject .creature "ghost" ⟨some ⟨1⟩, ⟨0, 0, 0⟩, 0⟩ "").2 =
        stuck.world.setRegistry
          { stuck.world.registry with issued := stuck.world.registry.issued + 1 }) ∧
    (∃ models, (stuck.world.loadPc []).2 = { stuck.world with models, registry :=
        { stuck.world.registry with issued := stuck.world.registry.issued + 1 } }) ∧
    (stuck.world.loadModule "ruin").2 =
      if stuck.world.isLoaded then stuck.world.unload else stuck.world := by
  have failed : ∀ {α : Type} {x : Except Failure α}, x.toBool = false → ∃ e, x = .error e := by
    intro α x hx
    cases x with
    | error e => exact ⟨e, rfl⟩
    | ok a => cases hx
  have hplay : (stuck.world.loadArea "ruin").1.toBool = false ∧
      (stuck.world.usePc ⟨9⟩).1.toBool = false ∧
      (Play.enter .idle).ended stuck = .ok (.error (.of .noModule)) ∧
      (Play.movePc .idle "ruin" ⟨0, 0, 0⟩).ended stuck = .ok (.error (.of (.areaNotLoaded "ruin"))) ∧
      (stuck.world.startConversation "talk" ⟨2⟩ ⟨3⟩).1 = false ∧
      (stuck.world.destroyObject ⟨1⟩).1 = false ∧
      (stuck.world.createObject .creature "ghost" ⟨some ⟨1⟩, ⟨0, 0, 0⟩, 0⟩ "").1.toBool = false ∧
      (stuck.world.loadPc []).1.toBool = false ∧
      (stuck.world.loadModule "ruin").1.toBool = false := by
    decide +kernel
  obtain ⟨harea, hcreature, henter, hmove, htalk, hdestroy, hcreate, hload, hmodule⟩ := hplay
  obtain ⟨e₁, harea⟩ := failed harea
  obtain ⟨e₂, hcreature⟩ := failed hcreature
  obtain ⟨e₃, hcreate⟩ := failed hcreate
  obtain ⟨e₄, hload⟩ := failed hload
  obtain ⟨e₅, hmodule⟩ := failed hmodule
  obtain ⟨h₁, h₂, h₃, h₄, h₅, h₆, h₇, h₈, h₉⟩ := failed_operations_undone stuck .idle
  obtain ⟨models, hmodels, -⟩ := h₈ _ _ hload
  exact ⟨h₁ _ _ harea, h₂ _ _ hcreature, h₃ _ henter, h₄ _ _ _ hmove, h₅ _ _ _ htalk, h₆ _ hdestroy,
    h₇ _ _ _ _ _ hcreate, ⟨models, hmodels⟩, h₉ _ _ hmodule⟩

end Adventure

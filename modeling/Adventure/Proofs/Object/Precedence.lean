import Adventure.Proofs.Object.Properties

/-!
# The instance over the blueprint

An object is built from its blueprint and then from its instance record. Each of its properties is
what the instance carries, what the blueprint carries if the instance lacks the field, and what the
kind begins with if both lack it. Where it stands and faces is said by the instance alone. What has
a look is not built without an appearance, and nothing but the model that the appearance leads to
can be in the way otherwise. What is placed in an area is built over the blueprint that it names.
-/

namespace Adventure.Object

variable {kind : PlacedKind} {lib : Library} {placed : Record} {blueprint : Option Record}
  {o : Object} {models : Models}

/-! ### Runs of records -/

theorem Fits.applied (h : Fits kind o) (lib : Library) (r : Record) :
    Fits kind (applyRecord kind lib o r) := by
  have hkind : (applyRecord kind lib o r).kind = o.kind := by
    cases kind with
    | creature => exact (built_applyCreature lib o r).kind
    | door => exact (built_applyDoor lib o r).kind
    | placeable => exact (built_applyPlaceable lib o r).kind
    | waypoint => exact (built_applyWaypoint lib o r).kind
  have hmodel : (applyRecord kind lib o r).modelName = o.modelName :=
    congrArg (fun o => o.bare.modelName) (bare_applyRecord kind lib o r)
  refine ⟨hkind.trans h.kind, hmodel.trans h.modelName, fun c hc => ?_⟩
  cases kind with
  | creature =>
    obtain ⟨c', hc'⟩ := details_of_kind h.kind
    have hdetails := details_applyCreature hc' lib r
    have hc : (applyCreature lib o r).creature? = some c := hc
    rw [creature?, hdetails] at hc
    cases hc
    exact balanced_applyToCreature r c'
  | _ =>
    have hcreature := (creature?_isSome _).1 (Option.isSome_of_eq_some hc)
    rw [hkind, h.kind] at hcreature
    cases hcreature

theorem Fits.run (h : Fits kind o) (lib : Library) (records : List Record) :
    Fits kind (records.foldl (applyRecord kind lib) o) := by
  induction records generalizing o with
  | nil => exact h
  | cons r records ih => exact ih (h.applied lib r)

theorem fits_unread (kind : PlacedKind) (h : Handle) (template : String) :
    Fits kind (unread kind h template) := by
  refine ⟨placedKind_blank kind, rfl, fun c hc => ?_⟩
  cases kind with
  | creature =>
    cases hc
    exact ⟨by decide, by decide⟩
  | _ => cases hc

theorem Property.Kept.lacking_run {p : Property} (hp : p.Kept kind lib) {records : List Record}
    (hlack : ∀ r ∈ records, r.hasField p.field = false) (h : Fits kind o) :
    p.view (records.foldl (applyRecord kind lib) o) = p.view o := by
  induction records generalizing o with
  | nil => rfl
  | cons r records ih =>
    rw [List.foldl_cons, ih (fun r' hr' => hlack r' (List.mem_cons_of_mem r hr')) (h.applied lib r),
      hp.lacking h (hlack r List.mem_cons_self)]

theorem Property.Kept.carried_run {p : Property} (hp : p.Kept kind lib) (front : List Record)
    {r : Record} {back : List Record} {a : p.Value} (hr : Dict.Ordered r)
    (ha : r.carried? p.field p.read = some a) (hlack : ∀ r ∈ back, r.hasField p.field = false)
    (h : Fits kind o) :
    p.view ((front ++ r :: back).foldl (applyRecord kind lib) o) = some a := by
  have hfront := h.run lib front
  rw [List.foldl_append, List.foldl_cons, hp.lacking_run hlack (hfront.applied lib r)]
  exact hp.carried hfront hr ha

/-- The property has the instance's value where the instance carries one, the blueprint's where the
instance lacks the field, and what objects begin with where both do. -/
structure Property.Settled (p : Property) (placed : Record) (blueprint : Option Record)
    (o : Object) : Prop where
  own : ∀ a, placed.carried? p.field p.read = some a → p.view o = some a
  inherited : ∀ b a, blueprint = some b → placed.hasField p.field = false →
    b.carried? p.field p.read = some a → p.view o = some a
  neither : (∀ r ∈ layers placed blueprint, r.hasField p.field = false) → p.view o = some p.initial

theorem Property.Kept.settled {p : Property} (hp : p.Kept kind lib)
    (hordered : ∀ r ∈ layers placed blueprint, Dict.Ordered r) (h : Handle) (template : String) :
    p.Settled placed blueprint
      ((layers placed blueprint).foldl (applyRecord kind lib) (unread kind h template)) := by
  have hfits := fits_unread kind h template
  refine ⟨fun a ha => ?_, fun b a hb hlacks ha => ?_, fun hlack => ?_⟩
  · have hplaced := hordered placed (List.mem_append_right _ List.mem_cons_self)
    exact hp.carried_run blueprint.toList hplaced ha (fun r hr => nomatch hr) hfits
  · subst hb
    refine hp.carried_run [] (hordered b List.mem_cons_self) ha (fun r hr => ?_) hfits
    obtain rfl := List.mem_singleton.1 hr
    exact hlacks
  · rw [hp.lacking_run hlack hfits, hp.begins]

/-! ### Appearances -/

/-- The field of the appearance, for the kinds that need one. -/
def PlacedKind.appearanceField? : PlacedKind → Option String
  | .creature => some "Appearance_Type"
  | .door | .placeable => some "Appearance"
  | .waypoint => none

/-- The kind needs an appearance, and neither record has the field. -/
def PlacedKind.Faceless (kind : PlacedKind) (placed : Record) (blueprint : Option Record) : Prop :=
  ∃ field, kind.appearanceField? = some field ∧
    ∀ r ∈ layers placed blueprint, r.hasField field = false

def appearance? (o : Object) : Option UInt32 :=
  match o.details with
  | .creature c => c.appearance
  | .door d => d.situated.appearance
  | .placeable p => p.situated.appearance
  | _ => none

theorem appearance?_applyRecord {field : String} (hfield : kind.appearanceField? = some field)
    (h : Fits kind o) (r : Record) :
    (applyRecord kind lib o r).appearance? =
      if r.hasField field then some (r.getUInt field 0) else o.appearance? := by
  cases kind with
  | creature =>
    cases hfield
    obtain ⟨c, hc⟩ := details_of_kind h.kind
    show (applyCreature lib o r).appearance? = _
    rw [appearance?, appearance?, details_applyCreature hc, hc]
    rfl
  | door =>
    cases hfield
    obtain ⟨d, hd⟩ := details_of_kind h.kind
    show (applyDoor lib o r).appearance? = _
    rw [appearance?, appearance?, details_applyDoor hd, hd]
    rfl
  | placeable =>
    cases hfield
    obtain ⟨p, hp⟩ := details_of_kind h.kind
    show (applyPlaceable lib o r).appearance? = _
    rw [appearance?, appearance?, details_applyPlaceable hp, hp]
    rfl
  | waypoint => cases hfield

theorem appearance?_run {field : String} (hfield : kind.appearanceField? = some field)
    (h : Fits kind o) (records : List Record) :
    (records.foldl (applyRecord kind lib) o).appearance? = none ↔
      o.appearance? = none ∧ ∀ r ∈ records, r.hasField field = false := by
  induction records generalizing o with
  | nil => exact ⟨fun ho => ⟨ho, fun r hr => nomatch hr⟩, fun ho => ho.1⟩
  | cons r records ih =>
    rw [List.foldl_cons, ih (h.applied lib r), appearance?_applyRecord hfield h, List.forall_mem_cons]
    cases r.hasField field with
    | true => simp
    | false => simp

theorem appearance?_unread (kind : PlacedKind) (h : Handle) (template : String) :
    (unread kind h template).appearance? = none := by
  cases kind <;> rfl

theorem appearance?_creature (h : Fits .creature o) :
    o.creature?.bind Creature.appearance = o.appearance? := by
  obtain ⟨c, hc⟩ := details_of_kind h.kind
  rw [creature?, appearance?, hc]
  rfl

theorem appearance?_situated (hkind : kind.isSituated = true) (h : Fits kind o) :
    o.situated?.bind Situated.appearance = o.appearance? := by
  cases kind with
  | door =>
    obtain ⟨d, hd⟩ := details_of_kind h.kind
    rw [situated?, appearance?, hd]
    rfl
  | placeable =>
    obtain ⟨p, hp⟩ := details_of_kind h.kind
    rw [situated?, appearance?, hp]
    rfl
  | creature => cases hkind
  | waypoint => cases hkind

/-! ### Finishing -/

/-- The table that gives the looks of a kind, and the column of it that names the model. -/
def PlacedKind.modelColumn? : PlacedKind → Option (String × String)
  | .creature => some ("appearance", "RACE")
  | .door => some ("doortypes", "Model")
  | .placeable => some ("placeables", "ModelName")
  | .waypoint => none

/-- The name of the model that the object's appearance leads to, empty if it leads to none. -/
def PlacedKind.modelName (kind : PlacedKind) (lib : Library) (o : Object) : String :=
  match kind.modelColumn?, o.appearance? with
  | some (table, column), some a =>
    ((lib.resources.row table a.toNat).map fun row => row.getString column "").getD ""
  | _, _ => ""

/-- Looks up what the appearance adds, poses the object and asks for its model. -/
def finish (kind : PlacedKind) (lib : Library) (placed : Record) (o : Object) (models : Models) :
    Except LoadError (Object × Models) :=
  match kind with
  | .creature => finishCreature lib placed o models
  | .door => finishSituated lib "doortypes" "Model" placed o models
  | .placeable => finishSituated lib "placeables" "ModelName" placed o models
  | .waypoint => .ok ((o.pose placed).finishLoad, models)

theorem load_eq (lib : Library) (kind : PlacedKind) (placed : Record) (blueprint : Option Record)
    (h : Handle) (template : String) (models : Models) :
    load lib placed blueprint (unread kind h template) models =
      finish kind lib placed
        ((layers placed blueprint).foldl (applyRecord kind lib) (unread kind h template)) models := by
  cases kind <;> rfl

def PlacedKind.positionIn (kind : PlacedKind) (r : Record) : Vec3 :=
  match kind with
  | .creature | .waypoint =>
    ⟨r.getFloat "XPosition" 0, r.getFloat "YPosition" 0, r.getFloat "ZPosition" 0⟩
  | .door | .placeable => ⟨r.getFloat "X" 0, r.getFloat "Y" 0, r.getFloat "Z" 0⟩

def PlacedKind.facingIn (kind : PlacedKind) (r : Record) : Float32 :=
  match kind with
  | .creature | .waypoint => bearing (r.getFloat "XOrientation" 0) (r.getFloat "YOrientation" 0)
  | .door | .placeable => degrees (r.getFloat "Bearing" 0)

/-- The object has been built with all that its records say, in its pose and with a model of this
name, or the model is missing. -/
def Finished (models : Models) (o : Object) (model : String) (position orientation : Vec3)
    (built : Except LoadError (Object × Models)) : Prop :=
  (model ≠ "" ∧ ∃ e, models.request model = .error e ∧ built = .error e) ∨
    ∃ o' models', built = .ok (o', models') ∧ o'.plain = o.plain ∧ o'.position = position ∧
      o'.orientation = orientation ∧ o'.modelName = model

theorem Finished.of_plain {o o₁ : Object} {model : String} {position orientation : Vec3}
    {built : Except LoadError (Object × Models)} (hplain : o₁.plain = o.plain)
    (h : Finished models o₁ model position orientation built) :
    Finished models o model position orientation built := by
  obtain hrefused | ⟨o', models', hbuilt, hread, hpose⟩ := h
  · exact Or.inl hrefused
  · exact Or.inr ⟨o', models', hbuilt, hread.trans hplain, hpose⟩

theorem plain_mapSituated (o : Object) {f : Situated → Situated} (hf : ∀ s, silent (f s) = silent s) :
    (o.mapSituated f).plain = o.plain := by
  unfold mapSituated plain
  cases hd : o.details <;> simp [silentDetails, hd, hf]

theorem plain_applySounds (lib : Library) (o : Object) : (o.applySounds lib).plain = o.plain := by
  unfold applySounds
  split
  · exact plain_mapSituated o fun _ => rfl
  · rfl

theorem plain_applyAppearance (column : String) (row : Record) (o : Object) :
    (o.applyAppearance column row).plain = o.plain := by
  simp only [applyAppearance]
  split
  · exact plain_mapSituated _ fun _ => rfl
  · rfl

theorem modelName_applySounds (lib : Library) (o : Object) :
    (o.applySounds lib).modelName = o.modelName := by
  unfold applySounds mapSituated
  split
  · cases o.details <;> rfl
  · rfl

theorem modelName_applyAppearance (column : String) (row : Record) (o : Object) :
    (o.applyAppearance column row).modelName = row.getString column "" := by
  simp only [applyAppearance]
  split
  · unfold mapSituated
    cases o.details <;> rfl
  · rfl

theorem finished_modelled (o : Object) (models : Models) :
    Finished models o o.modelName o.position o.orientation
      (match o.loadModel models with
        | .error e => .error e
        | .ok (o, models) => .ok (o.finishLoad, models)) := by
  unfold loadModel
  by_cases hname : o.modelName.isEmpty = true
  · simp only [hname, if_true]
    exact Or.inr ⟨_, _, rfl, rfl, rfl, rfl, rfl⟩
  · simp only [hname]
    cases hrequest : models.request o.modelName with
    | error e => exact Or.inl ⟨fun hnone => hname (by rw [hnone]; rfl), e, hrequest, rfl⟩
    | ok answer =>
      obtain ⟨model, models'⟩ := answer
      cases model with
      | none => exact Or.inr ⟨_, _, rfl, rfl, rfl, rfl, rfl⟩
      | some model => exact Or.inr ⟨_, _, rfl, rfl, rfl, rfl, rfl⟩

theorem finished_creature (h : Fits .creature o) {a : UInt32} (ha : o.appearance? = some a)
    (lib : Library) (placed : Record) (models : Models) :
    Finished models o (PlacedKind.creature.modelName lib o) (PlacedKind.creature.positionIn placed)
      ⟨0, PlacedKind.creature.facingIn placed, 0⟩ (finishCreature lib placed o models) := by
  have hposed : ∀ o₁ : Object, o₁.plain = o.plain → Finished models o o₁.modelName
      (PlacedKind.creature.positionIn placed) ⟨0, PlacedKind.creature.facingIn placed, 0⟩
      (match (o₁.pose placed).loadModel models with
        | .error e => .error e
        | .ok (o, models) => .ok (o.finishLoad, models)) :=
    fun o₁ hplain => (finished_modelled (o₁.pose placed) models).of_plain hplain
  unfold finishCreature PlacedKind.modelName
  rw [appearance?_creature h, ha]
  simp only [PlacedKind.modelColumn?]
  cases lib.resources.row "appearance" a.toNat with
  | none => exact h.modelName ▸ hposed o rfl
  | some row => exact hposed { o with modelName := row.getString "RACE" "" } rfl

theorem finished_situated {kind : PlacedKind} (hkind : kind.isSituated = true) (h : Fits kind o)
    {a : UInt32} (ha : o.appearance? = some a) (lib : Library) {table column : String}
    (hcolumn : kind.modelColumn? = some (table, column)) (placed : Record) (models : Models) :
    Finished models o (kind.modelName lib o) (kind.positionIn placed) ⟨0, kind.facingIn placed, 0⟩
      (finishSituated lib table column placed o models) := by
  have hposed : ∀ o₁ : Object, o₁.plain = o.plain → Finished models o o₁.modelName
      (kind.positionIn placed) ⟨0, kind.facingIn placed, 0⟩
      (match ((o₁.applySounds lib).poseSituated placed).loadModel models with
        | .error e => .error e
        | .ok (o, models) => .ok (o.finishLoad, models)) := by
    intro o₁ hplain
    have hfinished := (finished_modelled ((o₁.applySounds lib).poseSituated placed) models).of_plain
      ((plain_applySounds lib o₁).trans hplain)
    rw [← modelName_applySounds lib o₁]
    cases kind with
    | door => exact hfinished
    | placeable => exact hfinished
    | creature => cases hkind
    | waypoint => cases hkind
  unfold finishSituated PlacedKind.modelName
  rw [appearance?_situated hkind h, ha, hcolumn]
  simp only
  cases lib.resources.row table a.toNat with
  | none => exact h.modelName ▸ hposed o rfl
  | some row =>
    have hfinished := hposed _ (plain_applyAppearance column row o)
    rw [modelName_applyAppearance] at hfinished
    exact hfinished

theorem finish_missing {field : String} (hfield : kind.appearanceField? = some field)
    (h : Fits kind o) (ha : o.appearance? = none) :
    finish kind lib placed o models = .error (.missingAppearance kind.kind.name) := by
  cases kind with
  | creature =>
    simp only [finish, finishCreature, appearance?_creature h, ha]
    rfl
  | door => simp only [finish, finishSituated, appearance?_situated rfl h, ha, h.kind]
  | placeable => simp only [finish, finishSituated, appearance?_situated rfl h, ha, h.kind]
  | waypoint => cases hfield

theorem finished (h : Fits kind o)
    (ha : ∀ field, kind.appearanceField? = some field → o.appearance? ≠ none) :
    Finished models o (kind.modelName lib o) (kind.positionIn placed) ⟨0, kind.facingIn placed, 0⟩
      (finish kind lib placed o models) := by
  cases kind with
  | creature =>
    obtain ⟨a, hsome⟩ := Option.ne_none_iff_exists'.1 (ha _ rfl)
    exact finished_creature h hsome lib placed models
  | door =>
    obtain ⟨a, hsome⟩ := Option.ne_none_iff_exists'.1 (ha _ rfl)
    exact finished_situated rfl h hsome lib rfl placed models
  | placeable =>
    obtain ⟨a, hsome⟩ := Option.ne_none_iff_exists'.1 (ha _ rfl)
    exact finished_situated rfl h hsome lib rfl placed models
  | waypoint => exact Or.inr ⟨_, _, rfl, rfl, rfl, rfl, h.modelName⟩

/-! ### Loading -/

theorem Property.Kept.settled_of_plain {p : Property} (hp : p.Kept kind lib) {o' : Object}
    (hplain : o'.plain = o.plain) (h : p.Settled placed blueprint o) :
    p.Settled placed blueprint o' := by
  have hview : p.view o' = p.view o := by rw [← hp.plain o', hplain, hp.plain o]
  refine ⟨fun a ha => ?_, fun b a hb hlacks ha => ?_, fun hlack => ?_⟩
  · exact hview.trans (h.own a ha)
  · exact hview.trans (h.inherited b a hb hlacks ha)
  · exact hview.trans (h.neither hlack)

theorem load_of_faceless (hface : kind.Faceless placed blueprint) (lib : Library) (h : Handle)
    (template : String) (models : Models) :
    load lib placed blueprint (unread kind h template) models =
      .error (.missingAppearance kind.kind.name) := by
  obtain ⟨field, hfield, hlack⟩ := hface
  have hfits := fits_unread kind h template
  rw [load_eq]
  exact finish_missing hfield (hfits.run lib _) ((appearance?_run hfield hfits _).2
    ⟨appearance?_unread kind h template, hlack⟩)

theorem finished_load (hface : ¬kind.Faceless placed blueprint) (lib : Library) (h : Handle)
    (template : String) (models : Models) :
    let read := (layers placed blueprint).foldl (applyRecord kind lib) (unread kind h template)
    Finished models read (kind.modelName lib read) (kind.positionIn placed)
      ⟨0, kind.facingIn placed, 0⟩ (load lib placed blueprint (unread kind h template) models) := by
  have hfits := fits_unread kind h template
  rw [load_eq]
  refine finished (hfits.run lib _) fun field hfield hnone => hface ⟨field, hfield, ?_⟩
  exact ((appearance?_run hfield hfits _).1 hnone).2

theorem load_ok {h : Handle} {template : String} {models' : Models}
    (ho : load lib placed blueprint (unread kind h template) models = .ok (o, models')) :
    let read := (layers placed blueprint).foldl (applyRecord kind lib) (unread kind h template)
    ¬kind.Faceless placed blueprint ∧ o.plain = read.plain ∧ o.position = kind.positionIn placed ∧
      o.orientation = ⟨0, kind.facingIn placed, 0⟩ ∧ o.modelName = kind.modelName lib read := by
  intro read
  have hface : ¬kind.Faceless placed blueprint := by
    intro hface
    rw [load_of_faceless hface] at ho
    cases ho
  obtain ⟨-, e, -, he⟩ | ⟨o', models'', ho', hread, hposition, horientation, hmodel⟩ :=
    finished_load hface lib h template models
  · rw [he] at ho
    cases ho
  · rw [ho'] at ho
    cases ho
    exact ⟨hface, hread, hposition, horientation, hmodel⟩

/-- The blueprint that goes with a template name: none without a name, and else the one of that name,
if it exists. -/
def PlacedKind.Stamps (kind : PlacedKind) (lib : Library) (template : String)
    (blueprint : Option Record) : Prop :=
  if template = "" then blueprint = none
  else lib.resources.load kind.blueprintKind template = .ok blueprint

theorem loadInstance_eq {template : String} (hplaced : Dict.Ordered placed)
    (htemplate : placed.getString "TemplateResRef" "" = template)
    (hstamps : kind.Stamps lib template blueprint) (h : Handle) (models : Models) :
    loadInstance lib kind placed (blank h kind.blank) models =
        load lib placed blueprint (unread kind h template) models ∧
      ∀ r ∈ layers placed blueprint, Dict.Ordered r := by
  unfold loadInstance
  unfold PlacedKind.Stamps at hstamps
  simp only [htemplate, String.isEmpty_iff]
  split at hstamps
  · rename_i hplain
    subst hstamps
    refine ⟨by rw [if_pos hplain]; rfl, fun r hr => ?_⟩
    obtain rfl := List.mem_singleton.1 hr
    exact hplaced
  · rename_i hnamed
    refine ⟨by rw [if_neg hnamed, hstamps]; rfl, fun r hr => ?_⟩
    rcases List.mem_append.1 hr with hr | hr
    · obtain rfl := Option.mem_toList.1 hr
      exact Resources.ordered_of_load hstamps
    · obtain rfl := List.mem_singleton.1 hr
      exact hplaced

/-- A creature, a door or a placeable is refused for want of an appearance exactly if neither record
has the field of it. Any other object is built, unless the model that its appearance leads to cannot
be loaded, which is no matter for waypoints. Each property of what is built is the instance's, or
else the blueprint's, or else what its kind begins with; and its pose is the instance's alone. An
instance placed in an area is built that way over the blueprint that it names. -/
theorem instance_over_blueprint (lib : Library) (kind : PlacedKind) (placed : Record)
    (blueprint : Option Record) (h : Handle) (template : String) (models : Models) :
    let built := load lib placed blueprint (unread kind h template) models
    let model := kind.modelName lib
      ((layers placed blueprint).foldl (applyRecord kind lib) (unread kind h template))
    (∀ name, built = .error (.missingAppearance name) ↔
      name = kind.kind.name ∧ kind.Faceless placed blueprint) ∧
    (¬kind.Faceless placed blueprint →
      (∃ o models', built = .ok (o, models')) ∨
        kind ≠ .waypoint ∧ model ≠ "" ∧ ∃ e, models.request model = .error e ∧ built = .error e) ∧
    (∀ o models', built = .ok (o, models') →
      ((∀ r ∈ layers placed blueprint, Dict.Ordered r) →
        (∀ p ∈ kind.properties lib.talk, p.Settled placed blueprint o) ∧
        ∀ event, isHookName event = true → (hookProperty event).Settled placed blueprint o) ∧
      o.position = kind.positionIn placed ∧ o.facing = kind.facingIn placed ∧
      o.modelName = model) ∧
    (Dict.Ordered placed → placed.getString "TemplateResRef" "" = template →
      kind.Stamps lib template blueprint →
      loadInstance lib kind placed (blank h kind.blank) models = built ∧
        ∀ r ∈ layers placed blueprint, Dict.Ordered r) := by
  intro built model
  have hcases : ¬kind.Faceless placed blueprint → Finished models _ model _ _ built :=
    fun hface => finished_load hface lib h template models
  refine ⟨fun name => ⟨fun hmissing => ?_, ?_⟩, fun hface => ?_, fun o models' ho => ?_,
    fun hplaced htemplate hstamps => loadInstance_eq hplaced htemplate hstamps h models⟩
  · by_cases hface : kind.Faceless placed blueprint
    · cases (load_of_faceless hface lib h template models).symm.trans hmissing
      exact ⟨rfl, hface⟩
    · obtain ⟨-, e, hrequest, he⟩ | ⟨o, models', ho, -⟩ := hcases hface
      · cases he.symm.trans hmissing
        exact absurd hrequest (models.request_unblaming model name)
      · cases ho.symm.trans hmissing
  · rintro ⟨rfl, hface⟩
    exact load_of_faceless hface lib h template models
  · obtain ⟨hname, hrefused⟩ | ⟨o, models', ho, -⟩ := hcases hface
    · refine Or.inr ⟨?_, hname, hrefused⟩
      rintro rfl
      exact hname rfl
    · exact Or.inl ⟨o, models', ho⟩
  · obtain ⟨-, hread, hposition, horientation, hmodel⟩ := load_ok ho
    refine ⟨fun hordered => ?_, hposition, congrArg Vec3.y horientation, hmodel⟩
    have hsettled : ∀ p : Property, p.Kept kind lib → p.Settled placed blueprint o :=
      fun p hp => hp.settled_of_plain hread (hp.settled hordered h template)
    exact ⟨fun p hp => hsettled p (kept_properties hp), fun event hname =>
      hsettled _ (kept_hook hname)⟩

/-! ### A chief among goblins -/

def goblin : Record :=
  [("Appearance_Type", .int 9), ("Conversation", .string "growl"), ("OnDeath", .string "goblin_dies"),
    ("Race", .int 6), ("Tag", .string "goblin")]

/-- An instance that is a chief and does not talk, but whose race is not readable. -/
def chief : Record :=
  [("Conversation", .string ""), ("GoodEvil", .int 500), ("Race", .list []), ("Tag", .string "chief")]

/-- The chief looks like a goblin and dies like one. It has its own tag and conversation, and its
goodness is cut to the range. Law is what creatures begin with. -/
theorem chief_over_goblin : ∃ o models,
    load ⟨.ofTexts (fun _ _ => none) fun _ _ => none, .empty⟩ chief (some goblin)
      (unread .creature ⟨7⟩ "goblin") ⟨.plain, 0⟩ = .ok (o, models) ∧
    o.tag = "chief" ∧ o.conversation = "" ∧ o.hooks.find? "OnDeath" = some "goblin_dies" ∧
    o.creature?.map Creature.appearance = some (some 9) ∧
    o.creature?.map Creature.goodEvil = some 100 ∧ o.creature?.map Creature.lawChaos = some 50 := by
  have hordered : ∀ r ∈ layers chief (some goblin), Dict.Ordered r := by
    unfold layers Dict.Ordered
    decide
  obtain ⟨-, hbuilt, hsettled, -⟩ := instance_over_blueprint
    ⟨.ofTexts (fun _ _ => none) fun _ _ => none, .empty⟩ .creature chief (some goblin) ⟨7⟩ "goblin"
    ⟨.plain, 0⟩
  have hface : ¬PlacedKind.Faceless .creature chief (some goblin) := by
    rintro ⟨field, hfield, hlack⟩
    cases hfield
    exact absurd (hlack goblin List.mem_cons_self) (by decide)
  obtain ⟨o, models, ho⟩ | ⟨-, hname, -⟩ := hbuilt hface
  · obtain ⟨hproperties, hhooks⟩ := (hsettled o models ho).1 hordered
    refine ⟨o, models, ho, ?_, ?_, ?_, ?_, ?_, ?_⟩
    · exact Option.some_inj.1 ((hproperties _ (List.mem_append_left _ (.head _))).own "chief" rfl)
    · exact Option.some_inj.1
        ((hproperties _ (List.mem_append_left _ (.tail _ (.head _)))).own "" rfl)
    · exact Option.some_inj.1
        ((hhooks "OnDeath" (by decide +kernel)).inherited goblin _ rfl (by decide) rfl)
    · exact (hproperties _ (List.mem_append_right _ (.head _))).inherited goblin (some 9) rfl
        (by decide) rfl
    · exact (hproperties _ (List.mem_append_right _ (.tail _ (.tail _ (.tail _ (.tail _
        (.head _))))))).own 100 rfl
    · exact (hproperties _ (List.mem_append_right _ (.tail _ (.tail _ (.tail _ (.head _)))))).neither
        (by decide)
  -- No table has a row for its appearance, so there is no model to wait for.
  · exact absurd rfl hname

end Adventure.Object

import Adventure.Object.Basic

/-!
# Building objects from records

An object is built from its blueprint, if it has one, and then from its instance record: every
property of a later record overrides the earlier one only where the record carries it. Position and
facing come from the instance alone. Creatures, doors and placeables need an appearance, which also
names their model.

See sections 3, 4.1 and 10.7 of the specification.
-/

namespace Adventure

/-- What building an object reads: resources and the talk table. -/
structure Library where
  resources : Resources
  talk : TalkTable

namespace Object

/-! ### What all objects read -/

def isHookName (name : String) : Bool := "On".isPrefixOf name || "Script".isPrefixOf name

def applyHooks (r : Record) (hooks : Dict String) : Dict String :=
  r.foldl (fun hooks (name, field) =>
    match field with
    | .string script => if isHookName name then hooks.insert name script else hooks
    | _ => hooks) hooks

/-- The portrait a record leads to: a row of the portrait table, or the record's own text. -/
def applyPortrait (lib : Library) (r : Record) (portrait : String) : String :=
  let id := r.getUInt "PortraitId" 0
  let fromTable :=
    if id = 0 then portrait
    else
      match lib.resources.row "portraits" id.toNat with
      | none => portrait
      | some row =>
        let base := row.getString "BaseResRef" ""
        if base.isEmpty then portrait else "po_" ++ base
  r.getString "Portrait" fromTable

def applyShared (lib : Library) (r : Record) (o : Object) : Object :=
  { o with
    tag := r.getString "Tag" o.tag
    name := (r.getLocText "LocName" lib.talk).getD o.name
    description := (r.getLocText "Description" lib.talk).getD o.description
    portrait := applyPortrait lib r o.portrait
    conversation := r.getString "Conversation" o.conversation
    isStatic := r.getBool "Static" o.isStatic
    usable := r.getBool "Useable" o.usable
    hooks := applyHooks r o.hooks }

/-- Asks for the model of the object's model name and poses it. -/
def loadModel (o : Object) (models : Models) : Except LoadError (Object × Models) :=
  if o.modelName.isEmpty then .ok (o, models)
  else
    match models.request o.modelName with
    | .error e => .error e
    | .ok (none, models) => .ok (o, models)
    | .ok (some model, models) =>
      let model : Model :=
        { model with
          tag := o.tag, clickable := o.isClickable, position := o.position
          rotation := modelRotation o.orientation }
      .ok ({ o with modelIds := o.modelIds ++ [model.id], model := some model }, models)

def finishLoad (o : Object) : Object := { o with loaded := true }

/-- The blueprint first, then the instance. -/
def layers (placed : Record) (blueprint : Option Record) : List Record :=
  blueprint.toList ++ [placed]

/-- A position and a direction as creatures and waypoints record them. -/
def pose (r : Record) (o : Object) : Object :=
  let o := o.setPosition
    ⟨r.getFloat "XPosition" 0, r.getFloat "YPosition" 0, r.getFloat "ZPosition" 0⟩
  o.setOrientation ⟨0, bearing (r.getFloat "XOrientation" 0) (r.getFloat "YOrientation" 0), 0⟩

/-! ### Creatures -/

/-- A number kept between 0 and 100. -/
def clampAxis (n : Int64) : UInt8 := UInt8.ofNat (max 0 (min 100 n.toInt)).toNat

/-- The name made of a first and a last name, if there is either. -/
def personName? (first last : Option String) : Option String :=
  if first.isSome || last.isSome then
    some (" ".intercalate ([first.getD "", last.getD ""].filter fun part => !part.isEmpty))
  else none

/-- The number of a record field cut to four bytes. -/
def int32Of (n : Int64) : Int32 := n.toInt32

def applyToCreature (r : Record) (c : Creature) : Creature :=
  let score (a : Ability) : UInt8 :=
    UInt8.ofNat (min 255 (r.getUInt a.field (UInt32.ofNat (c.abilities.get a).toNat)).toNat)
  let hp := int32Of (r.getInt "HitPoints" 1)
  let maxHp := if r.hasField "HitPoints" then hp else c.maxHp
  let currentHp := if r.hasField "HitPoints" then hp else c.currentHp
  let classes := (r.getList "ClassList").map fun row =>
    (row.getUInt "Class" 0, row.getUInt "ClassLevel" 0)
  { appearance :=
      if r.hasField "Appearance_Type" then some (r.getUInt "Appearance_Type" 0) else c.appearance
    gender :=
      if r.hasField "Gender" then Gender.ofScript (int32Of (r.getInt "Gender" 0)) else c.gender
    race := r.getUInt "Race" c.race
    lawChaos := clampAxis (r.getInt "LawfulChaotic" (Int64.ofNat c.lawChaos.toNat))
    goodEvil := clampAxis (r.getInt "GoodEvil" (Int64.ofNat c.goodEvil.toNat))
    abilities := Abilities.ofFn score
    maxHp := int32Of (r.getInt "MaxHitPoints" maxHp.toInt64)
    currentHp := int32Of (r.getInt "CurrentHitPoints" currentHp.toInt64)
    classes := if classes.isEmpty then c.classes else classes
    isPc := r.getBool "IsPC" c.isPc }

def applyCreature (lib : Library) (o : Object) (r : Record) : Object :=
  let o := o.applyShared lib r
  let name := personName? (r.getLocText "FirstName" lib.talk) (r.getLocText "LastName" lib.talk)
  { o with name := name.getD o.name }.mapCreature (applyToCreature r)

def finishCreature (lib : Library) (r : Record) (o : Object) (models : Models) :
    Except LoadError (Object × Models) :=
  match o.creature?.bind Creature.appearance with
  | none => .error (.missingAppearance "creature")
  | some appearance =>
    let o := match lib.resources.row "appearance" appearance.toNat with
      | some row => { o with modelName := row.getString "RACE" "" }
      | none => o
    match (o.pose r).loadModel models with
    | .error e => .error e
    | .ok (o, models) => .ok (o.finishLoad, models)

/-! ### Doors and placeables -/

def applyToSituated (r : Record) (s : Situated) : Situated :=
  { s with
    appearance := if r.hasField "Appearance" then some (r.getUInt "Appearance" 0) else s.appearance
    locked := r.getBool "Locked" s.locked }

def applyDoor (lib : Library) (o : Object) (r : Record) : Object :=
  (o.applyShared lib r).mapDoor fun d =>
    { situated := applyToSituated r d.situated
      isOpen := r.getInt "OpenState" (if d.isOpen then 1 else 0) != 0
      linkedTo := r.getString "LinkedTo" d.linkedTo }

def applyPlaceable (lib : Library) (o : Object) (r : Record) : Object :=
  let o := (o.applyShared lib r).mapSituated (applyToSituated r)
  match o.details with
  | .placeable p =>
    { o with
      details := .placeable { p with hasInventory := r.getBool "HasInventory" p.hasInventory } }
  | _ => o

def applyAppearance (column : String) (row : Record) (o : Object) : Object :=
  let o := { o with modelName := row.getString column "" }
  if row.hasField "SoundAppType" then
    o.mapSituated fun s => { s with soundType := some (row.getUInt "SoundAppType" 0) }
  else o

def soundsOf (row : Record) : Sounds :=
  ⟨row.getString "Opened" "", row.getString "Closed" "", row.getString "Destroyed" "",
    row.getString "Used" "", row.getString "Locked" ""⟩

/-- Sets the sounds of the object's sound type, if that has a row. -/
def applySounds (lib : Library) (o : Object) : Object :=
  match (o.situated?.bind Situated.soundType).bind fun n =>
      lib.resources.row "placeableobjsnds" n.toNat with
  | some row => o.mapSituated fun s => { s with sounds := soundsOf row }
  | none => o

/-- A position and a bearing in radians as doors and placeables record them. -/
def poseSituated (r : Record) (o : Object) : Object :=
  let o := o.setPosition ⟨r.getFloat "X" 0, r.getFloat "Y" 0, r.getFloat "Z" 0⟩
  o.setOrientation ⟨0, degrees (r.getFloat "Bearing" 0), 0⟩

/-- Appearance, sounds, pose and model of a door or a placeable. -/
def finishSituated (lib : Library) (table column : String) (r : Record) (o : Object)
    (models : Models) : Except LoadError (Object × Models) :=
  match o.situated?.bind Situated.appearance with
  | none => .error (.missingAppearance o.kind.name)
  | some appearance =>
    let o := match lib.resources.row table appearance.toNat with
      | some row => o.applyAppearance column row
      | none => o
    match ((o.applySounds lib).poseSituated r).loadModel models with
    | .error e => .error e
    | .ok (o, models) => .ok (o.finishLoad, models)

/-! ### Waypoints -/

def applyWaypoint (lib : Library) (o : Object) (r : Record) : Object :=
  let o := o.applyShared lib r
  { o with name := (r.getLocText "LocalizedName" lib.talk).getD o.name }.mapWaypoint fun w =>
    { w with
      hasMapNote := r.getBool "HasMapNote" w.hasMapNote
      noteEnabled := r.getBool "MapNoteEnabled" w.noteEnabled
      mapNote := (r.getLocText "MapNote" lib.talk).getD w.mapNote }

/-! ### Placed objects -/

inductive PlacedKind where
  | creature
  | door
  | placeable
  | waypoint
  deriving DecidableEq, Repr

namespace PlacedKind

def kind : PlacedKind → ObjectKind
  | .creature => .creature
  | .door => .door
  | .placeable => .placeable
  | .waypoint => .waypoint

def blueprintKind : PlacedKind → ResourceKind
  | .creature => .utc
  | .door => .utd
  | .placeable => .utp
  | .waypoint => .utw

def blank : PlacedKind → Details
  | .creature => .creature .blank
  | .door => .door ⟨.blank, false, ""⟩
  | .placeable => .placeable ⟨.blank, false⟩
  | .waypoint => .waypoint ⟨false, false, "", false⟩

end PlacedKind

/-- Builds an object from an instance record and the blueprint it goes with. An object is built only
once. -/
def load (lib : Library) (placed : Record) (blueprint : Option Record) (o : Object)
    (models : Models) : Except LoadError (Object × Models) :=
  if o.loaded then .error (.loadedTwice o.id.text)
  else
    let records := layers placed blueprint
    match o.details with
    | .creature _ => finishCreature lib placed (records.foldl (applyCreature lib) o) models
    | .door _ =>
      finishSituated lib "doortypes" "Model" placed (records.foldl (applyDoor lib) o) models
    | .placeable _ =>
      finishSituated lib "placeables" "ModelName" placed (records.foldl (applyPlaceable lib) o)
        models
    | .waypoint _ =>
      .ok (((records.foldl (applyWaypoint lib) o).pose placed).finishLoad, models)
    | .area _ => .error (.unsupportedType o.type.number)
    | .module _ => .error (.unsupportedType o.type.number)

/-- Builds an object from an instance record and the blueprint that it names, if it names one that
exists. -/
def loadInstance (lib : Library) (kind : PlacedKind) (placed : Record) (o : Object)
    (models : Models) : Except LoadError (Object × Models) :=
  let template := placed.getString "TemplateResRef" ""
  let o := { o with template }
  if template.isEmpty then load lib placed none o models
  else
    match lib.resources.load kind.blueprintKind template with
    | .error e => .error e
    | .ok blueprint => load lib placed blueprint o models

/-! ### Areas and modules -/

/-- Builds an area from its record. The resource name is also the tag of an area without one. -/
def loadArea (lib : Library) (resref : String) (r : Record) (o : Object) : Object :=
  let o := { o with template := resref }.applyShared lib r
  let o := { o with name := (r.getLocText "Name" lib.talk).getD o.name }
  (if o.tag.isEmpty then o.setTag resref else o).finishLoad

def dropBeginning? (beginning name : String) : Option String :=
  if beginning.isPrefixOf name then some (String.ofList (name.toList.drop beginning.length))
  else none

/-- Sets the hooks of a module record, whose fields are marked as the module's. -/
def applyModuleHooks (r : Record) (hooks : Dict String) : Dict String :=
  r.foldl (fun hooks (name, field) =>
    match dropBeginning? "Mod_" name, field with
    | some event, .string script => if "On".isPrefixOf event then hooks.insert event script else hooks
    | _, _ => hooks) hooks

def moduleInfo (r : Record) : ModuleInfo where
  entryArea := r.getString "Mod_Entry_Area" ""
  entryPosition := ⟨r.getFloat "Mod_Entry_X" 0, r.getFloat "Mod_Entry_Y" 0, r.getFloat "Mod_Entry_Z" 0⟩
  entryFacing := bearing (r.getFloat "Mod_Entry_Dir_X" 0) (r.getFloat "Mod_Entry_Dir_Y" 0)
  minutesPerHour := max 1 (r.getUInt "Mod_MinPerHour" 2)
  areas := ((r.getList "Mod_Area_list").map fun row => row.getString "Area_Name" "").filter (· ≠ "")

def loadModule (lib : Library) (name : String) (r : Record) (o : Object) : Object :=
  let o := { o with template := name }.setTag (r.getString "Mod_Tag" name)
  let o := { o with
    name := (r.getLocText "Mod_Name" lib.talk).getD o.name
    hooks := applyModuleHooks r o.hooks
    details := .module (moduleInfo r) }
  o.finishLoad

end Object

end Adventure

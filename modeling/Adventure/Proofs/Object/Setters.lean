import Adventure.Object.Basic

/-!
# What the setters of objects leave alone

Every setter touches the model of an object and one thing beside it. `Object.Alike` says that two
objects agree on all that other parts of the game hold on to; `Object.Kin` is the same without the
speaker and the list of an area, which the operations on conversations and areas keep in step
themselves.
-/

namespace Adventure.Object

/-! ### Agreement of two objects -/

def resref? (o : Object) : Option String := o.area?.map Area.resref

/-- The second object has the handle, the tag, the place and the kind of the first one, is the same
area by name, and is the player's if the first one is. -/
structure Kin (a b : Object) : Prop where
  id : b.id = a.id
  tag : b.tag = a.tag
  area : b.area = a.area
  kind : b.kind = a.kind
  resref : b.resref? = a.resref?
  isPc : b.isPc = a.isPc

/-- The second object is what the first one has become: it has its handle, its tag and its kind. -/
structure Same (a b : Object) : Prop where
  id : b.id = a.id
  tag : b.tag = a.tag
  kind : b.kind = a.kind

/-- Objects of one kin that also have the same speaker and the same objects in their area. -/
structure Alike (a b : Object) : Prop where
  kin : Kin a b
  pcSpeaker : b.pcSpeaker = a.pcSpeaker
  area? : b.area? = a.area?
  module? : b.module? = a.module?

theorem Same.refl (o : Object) : Same o o := ⟨rfl, rfl, rfl⟩

theorem Same.trans {a b c : Object} (hab : Same a b) (hbc : Same b c) : Same a c :=
  ⟨hbc.id.trans hab.id, hbc.tag.trans hab.tag, hbc.kind.trans hab.kind⟩

theorem Kin.same {a b : Object} (h : Kin a b) : Same a b := ⟨h.id, h.tag, h.kind⟩

theorem same_area (o : Object) (area : Option Handle) : Same o { o with area } := ⟨rfl, rfl, rfl⟩

theorem Kin.refl (o : Object) : Kin o o := ⟨rfl, rfl, rfl, rfl, rfl, rfl⟩

theorem Alike.refl (o : Object) : Alike o o := ⟨.refl o, rfl, rfl, rfl⟩

theorem Kin.trans {a b c : Object} (hab : Kin a b) (hbc : Kin b c) : Kin a c :=
  ⟨hbc.id.trans hab.id, hbc.tag.trans hab.tag, hbc.area.trans hab.area, hbc.kind.trans hab.kind,
    hbc.resref.trans hab.resref, hbc.isPc.trans hab.isPc⟩

theorem Alike.trans {a b c : Object} (hab : Alike a b) (hbc : Alike b c) : Alike a c :=
  ⟨hab.kin.trans hbc.kin, hbc.pcSpeaker.trans hab.pcSpeaker, hbc.area?.trans hab.area?,
    hbc.module?.trans hab.module?⟩

theorem Kin.place {a b : Object} (h : Kin a b) (area : Option Handle) :
    Kin { a with area } { b with area } := ⟨h.id, h.tag, rfl, h.kind, h.resref, h.isPc⟩

theorem alike_of_details {a b : Object} (hid : b.id = a.id) (htag : b.tag = a.tag)
    (harea : b.area = a.area) (hspeaker : b.pcSpeaker = a.pcSpeaker)
    (hdetails : b.details = a.details) : Alike a b := by
  refine ⟨⟨hid, htag, harea, ?_, ?_, ?_⟩, hspeaker, ?_, ?_⟩
  · rw [kind, kind, hdetails]
  · rw [resref?, resref?, Object.area?, Object.area?, hdetails]
  · rw [isPc, isPc, creature?, creature?, hdetails]
  · rw [Object.area?, Object.area?, hdetails]
  · rw [Object.module?, Object.module?, hdetails]

/-! ### Kinds and views -/

theorem area?_isSome (o : Object) : o.area?.isSome = true ↔ o.kind = .area := by
  unfold area? kind Details.kind
  cases o.details <;> simp

theorem module?_isSome (o : Object) : o.module?.isSome = true ↔ o.kind = .module := by
  unfold module? kind Details.kind
  cases o.details <;> simp

theorem creature?_isSome (o : Object) : o.creature?.isSome = true ↔ o.kind = .creature := by
  unfold creature? kind Details.kind
  cases o.details <;> simp

theorem resref?_isSome (o : Object) : o.resref?.isSome = true ↔ o.kind = .area := by
  rw [resref?, Option.isSome_map, area?_isSome]

theorem kind_of_isPc {o : Object} (h : o.isPc = true) : o.kind = .creature := by
  rw [← creature?_isSome]
  unfold isPc at h
  cases hc : o.creature? with
  | none =>
    rw [hc] at h
    cases h
  | some c => rfl

theorem details_of_creature {o : Object} (h : o.kind = .creature) :
    ∃ c, o.details = .creature c := by
  unfold kind Details.kind at h
  cases hd : o.details with
  | creature c => exact ⟨c, rfl⟩
  | _ =>
    rw [hd] at h
    cases h

theorem ne_of_isGameObject {kind : ObjectKind} (h : kind.isGameObject = true) :
    kind ≠ .area ∧ kind ≠ .module := by
  constructor
  all_goals
    rintro rfl
    cases h

/-! ### Tags -/

@[simp] theorem setTag_id (o : Object) (tag : String) : (o.setTag tag).id = o.id := rfl

@[simp] theorem setTag_tag (o : Object) (tag : String) : (o.setTag tag).tag = tag := rfl

/-! ### Models, poses and properties -/

theorem alike_mapModel (o : Object) (f : Model → Model) : Alike o (o.mapModel f) :=
  alike_of_details rfl rfl rfl rfl rfl

theorem alike_setPosition (o : Object) (position : Vec3) : Alike o (o.setPosition position) :=
  alike_of_details rfl rfl rfl rfl rfl

theorem alike_setOrientation (o : Object) (orientation : Vec3) :
    Alike o (o.setOrientation orientation) := alike_of_details rfl rfl rfl rfl rfl

theorem alike_setFacing (o : Object) (facing : Float32) : Alike o (o.setFacing facing) :=
  alike_setOrientation o _

theorem alike_locals (o : Object) (locals : Locals) : Alike o { o with locals } :=
  alike_of_details rfl rfl rfl rfl rfl

theorem alike_commandable (o : Object) (commandable : Bool) : Alike o { o with commandable } :=
  alike_of_details rfl rfl rfl rfl rfl

theorem alike_mapDoor (o : Object) (f : Door → Door) : Alike o (o.mapDoor f) := by
  unfold mapDoor
  cases hd : o.details with
  | door d =>
    refine ⟨⟨rfl, rfl, rfl, ?_, ?_, ?_⟩, rfl, ?_, ?_⟩
    all_goals simp only [kind, resref?, isPc, creature?, area?, module?, Details.kind, hd]
  | _ => exact .refl o

theorem alike_mapWaypoint (o : Object) (f : Waypoint → Waypoint) : Alike o (o.mapWaypoint f) := by
  unfold mapWaypoint
  cases hd : o.details with
  | waypoint w =>
    refine ⟨⟨rfl, rfl, rfl, ?_, ?_, ?_⟩, rfl, ?_, ?_⟩
    all_goals simp only [kind, resref?, isPc, creature?, area?, module?, Details.kind, hd]
  | _ => exact .refl o

theorem alike_reveal (o : Object) : Alike o o.reveal := by
  cases hd : o.details with
  | module m => simpa only [reveal, hd] using Alike.refl o
  | area a => simpa only [reveal, hd] using Alike.refl o
  | waypoint w =>
    have hmap := alike_mapWaypoint o fun w => { w with noteShown := w.hasMapNote && w.noteEnabled }
    simpa only [mapWaypoint, reveal, hd] using hmap
  | _ => simpa only [reveal, hd] using alike_mapModel o _

theorem alike_hide (o : Object) : Alike o o.hide := by
  cases hd : o.details with
  | module m => simpa only [hide, hd] using Alike.refl o
  | area a => simpa only [hide, hd] using Alike.refl o
  | waypoint w =>
    have hmap := alike_mapWaypoint o fun w => { w with noteShown := false }
    simpa only [mapWaypoint, hide, hd] using hmap
  | _ => simpa only [hide, hd] using alike_mapModel o _

/-! ### Speakers and areas -/

theorem kin_pcSpeaker (o : Object) (pcSpeaker : Option Handle) : Kin o { o with pcSpeaker } :=
  ⟨rfl, rfl, rfl, rfl, rfl, rfl⟩

theorem kin_mapArea (o : Object) {f : Area → Area} (hf : ∀ a, (f a).resref = a.resref) :
    Kin o (o.mapArea f) := by
  unfold mapArea
  cases hd : o.details with
  | area a =>
    refine ⟨rfl, rfl, rfl, ?_, ?_, ?_⟩
    · simp only [kind, Details.kind, hd]
    · simp only [resref?, area?, hd, Option.map_some, hf a]
    · simp only [isPc, creature?, hd]
  | _ => exact .refl o

theorem resref_addObject (a : Area) (h : Handle) : (a.addObject h).resref = a.resref := by
  unfold Area.addObject
  split <;> rfl

theorem resref_removeObject (a : Area) (h : Handle) : (a.removeObject h).resref = a.resref := rfl

theorem mapCreature_isPc {o : Object} (hc : o.kind = .creature) :
    (o.mapCreature fun c => { c with isPc := true }).isPc = true := by
  obtain ⟨c, hd⟩ := details_of_creature hc
  simp only [mapCreature, hd, isPc, creature?, Option.any_some]

theorem same_mapCreature (o : Object) (f : Creature → Creature) : Same o (o.mapCreature f) := by
  unfold mapCreature
  cases hd : o.details with
  | creature c => exact ⟨rfl, rfl, by simp only [kind, Details.kind, hd]⟩
  | _ => exact .refl o

theorem mapCreature_resref? (o : Object) (f : Creature → Creature) :
    (o.mapCreature f).resref? = o.resref? := by
  unfold mapCreature
  cases hd : o.details with
  | creature c => simp only [resref?, area?, hd]
  | _ => rfl

theorem mapCreature_area (o : Object) (f : Creature → Creature) :
    (o.mapCreature f).area = o.area := by
  unfold mapCreature
  cases o.details <;> rfl

end Adventure.Object

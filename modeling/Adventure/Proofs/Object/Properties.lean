import Adventure.Proofs.Object.Loading
import Adventure.Proofs.Record.Reading

/-!
# Properties that records carry

A property of an object stands in one field of its records. Applying a record sets the property to
what the record carries, and leaves it as it is if the record lacks the field. So after any number
of records it is what the last one with the field carries.
-/

namespace Adventure.Object

/-- A property of objects: the field that it stands in, how the field is read, what objects have of
it and what they begin with. -/
structure Property where
  Value : Type
  field : String
  read : Field → Option Value
  view : Object → Option Value
  initial : Value

/-- An object of a kind that no record has been applied to. -/
def unread (kind : PlacedKind) (h : Handle) (template : String) : Object :=
  { blank h kind.blank with template }

def applyRecord (kind : PlacedKind) (lib : Library) : Object → Record → Object :=
  match kind with
  | .creature => applyCreature lib
  | .door => applyDoor lib
  | .placeable => applyPlaceable lib
  | .waypoint => applyWaypoint lib

/-! ### The properties of the kinds -/

def sharedProperties : List Property :=
  [⟨String, "Tag", Field.text?, fun o => some o.tag, ""⟩,
    ⟨String, "Conversation", Field.text?, fun o => some o.conversation, ""⟩,
    ⟨Bool, "Static", Field.flag?, fun o => some o.isStatic, false⟩,
    ⟨Bool, "Useable", Field.flag?, fun o => some o.usable, true⟩]

/-- The script that is bound to an event, if there is one. -/
def hookProperty (event : String) : Property :=
  ⟨Option String, event, fun f => f.plainText?.map some, fun o => some (o.hooks.find? event), none⟩

/-- A score of at most one byte. -/
def scoreOf (n : UInt32) : UInt8 := UInt8.ofNat (min 255 n.toNat)

def abilityProperty (a : Ability) : Property :=
  ⟨UInt8, a.field, fun f => f.uint?.map scoreOf, fun o => o.creature?.map (·.abilities.get a), 10⟩

def classesOf (rows : List Record) : List (UInt32 × UInt32) :=
  rows.map fun row => (row.getUInt "Class" 0, row.getUInt "ClassLevel" 0)

def creatureProperties : List Property :=
  [⟨Option UInt32, "Appearance_Type", fun f => f.uint?.map some,
      fun o => o.creature?.map Creature.appearance, none⟩,
    ⟨Gender, "Gender", fun f => f.int?.map fun n => Gender.ofScript (int32Of n),
      fun o => o.creature?.map Creature.gender, .male⟩,
    ⟨UInt32, "Race", Field.uint?, fun o => o.creature?.map Creature.race, raceInvalid⟩,
    ⟨UInt8, "LawfulChaotic", fun f => f.int?.map clampAxis,
      fun o => o.creature?.map Creature.lawChaos, 50⟩,
    ⟨UInt8, "GoodEvil", fun f => f.int?.map clampAxis,
      fun o => o.creature?.map Creature.goodEvil, 50⟩,
    ⟨Bool, "IsPC", Field.flag?, fun o => o.creature?.map Creature.isPc, false⟩,
    ⟨List (UInt32 × UInt32), "ClassList", fun f => f.rows?.map classesOf,
      fun o => o.creature?.map Creature.classes, []⟩] ++ Ability.all.map abilityProperty

def situatedProperties : List Property :=
  [⟨Option UInt32, "Appearance", fun f => f.uint?.map some,
      fun o => o.situated?.map Situated.appearance, none⟩,
    ⟨Bool, "Locked", Field.flag?, fun o => o.situated?.map Situated.locked, false⟩]

def doorProperties : List Property :=
  [⟨Bool, "OpenState", fun f => f.int?.map (· != 0), fun o => o.door?.map Door.isOpen, false⟩,
    ⟨String, "LinkedTo", Field.text?, fun o => o.door?.map Door.linkedTo, ""⟩]

def placeableProperties : List Property :=
  [⟨Bool, "HasInventory", Field.flag?, fun o => o.placeable?.map Placeable.hasInventory, false⟩]

def waypointProperties (talk : TalkTable) : List Property :=
  [⟨Bool, "HasMapNote", Field.flag?, fun o => o.waypoint?.map Waypoint.hasMapNote, false⟩,
    ⟨Bool, "MapNoteEnabled", Field.flag?, fun o => o.waypoint?.map Waypoint.noteEnabled, false⟩,
    ⟨String, "MapNote", Field.locText talk, fun o => o.waypoint?.map Waypoint.mapNote, ""⟩]

/-- What objects of a kind have, their hooks aside. -/
def PlacedKind.properties (kind : PlacedKind) (talk : TalkTable) : List Property :=
  sharedProperties ++
    match kind with
    | .creature => creatureProperties
    | .door => situatedProperties ++ doorProperties
    | .placeable => situatedProperties ++ placeableProperties
    | .waypoint => waypointProperties talk

/-! ### Single records -/

/-- Neither axis of the alignment is out of range. -/
def balanced (c : Creature) : Prop := c.lawChaos.toNat ≤ 100 ∧ c.goodEvil.toNat ≤ 100

/-- The object is of the kind, has no model yet, and is balanced if it is a creature. -/
structure Fits (kind : PlacedKind) (o : Object) : Prop where
  kind : o.kind = kind.kind
  modelName : o.modelName = ""
  balanced : ∀ c, o.creature? = some c → balanced c

/-- What doors and placeables share, without the sounds that their appearance adds. -/
def silent (s : Situated) : Situated := { s with soundType := none, sounds := ⟨"", "", "", "", ""⟩ }

def silentDetails : Details → Details
  | .door d => .door { d with situated := silent d.situated }
  | .placeable p => .placeable { p with situated := silent p.situated }
  | d => d

/-- What an object is as far as its records say, before its appearance adds a model and sounds and
its place a pose. -/
def plain (o : Object) : Object :=
  { o with
    modelIds := []
    position := .zero
    orientation := .zero
    modelName := ""
    model := none
    loaded := false
    details := silentDetails o.details }

/-- The records of a kind set a property: each of them to what it carries, if it has the field. -/
structure Property.Kept (p : Property) (kind : PlacedKind) (lib : Library) : Prop where
  begins : ∀ h template, p.view (unread kind h template) = some p.initial
  carried : ∀ {o} {r : Record} {a}, Fits kind o → Dict.Ordered r →
    r.carried? p.field p.read = some a → p.view (applyRecord kind lib o r) = some a
  lacking : ∀ {o} {r : Record}, Fits kind o → r.hasField p.field = false →
    p.view (applyRecord kind lib o r) = p.view o
  plain : ∀ o, p.view o.plain = p.view o

/-- Applying records to values, which are part of objects, sets what the values have of a
property. -/
structure Sets {α β : Type} (I : β → Prop) (apply : Record → β → β) (field : String)
    (read : Field → Option α) (get : β → α) : Prop where
  carried : ∀ {r : Record} {b a}, I b → Dict.Ordered r → r.carried? field read = some a →
    get (apply r b) = a
  lacking : ∀ {r : Record} {b}, I b → r.hasField field = false → get (apply r b) = get b

theorem details_of_kind {o : Object} {kind : PlacedKind} (h : o.kind = kind.kind) :
    match kind with
    | .creature => ∃ c, o.details = .creature c
    | .door => ∃ d, o.details = .door d
    | .placeable => ∃ p, o.details = .placeable p
    | .waypoint => ∃ w, o.details = .waypoint w := by
  unfold Object.kind Details.kind at h
  cases kind <;> cases hd : o.details <;> rw [hd] at h <;> first | exact ⟨_, rfl⟩ | cases h

/-- A part that the objects of a kind have, and that a record is applied to by itself. -/
def Part {β : Type} (kind : PlacedKind) (lib : Library) (part : Object → Option β) (I : β → Prop)
    (apply : Record → β → β) : Prop :=
  ∀ o, Fits kind o → ∃ b, part o = some b ∧ I b ∧
    ∀ r, part (applyRecord kind lib o r) = some (apply r b)

section

variable {α β : Type} {I : β → Prop} {apply : Record → β → β} {field : String}
  {read : Field → Option α} {get : β → α}

theorem Sets.of_override
    (h : ∀ (r : Record) b, I b → get (apply r b) = (r.carried? field read).getD (get b)) :
    Sets I apply field read get := by
  refine ⟨fun {r b a} hb _ ha => ?_, fun {r b} hb hlacks => ?_⟩
  · rw [h r b hb, ha, Option.getD_some]
  · rw [h r b hb, Record.carried?_of_lacks hlacks, Option.getD_none]

/-- A property that is made of what is read, or else of what stands for the value that is there. -/
theorem Sets.of_made {γ : Type} {read : Field → Option γ} {make : γ → α} (stand : β → γ)
    (hstand : ∀ b, I b → make (stand b) = get b)
    (h : ∀ (r : Record) b, get (apply r b) = make ((r.carried? field read).getD (stand b))) :
    Sets I apply field (fun f => (read f).map make) get :=
  .of_override fun r b hb => by
    rw [h, Record.carried?_map, ← hstand b hb, Option.getD_map]

theorem Sets.of_field {value : Record → α}
    (h : ∀ (r : Record) b, get (apply r b) = if r.hasField field then value r else get b)
    (hvalue : ∀ (r : Record) a, r.carried? field read = some a → value r = a) :
    Sets I apply field read get := by
  refine ⟨fun {r b a} _ _ ha => ?_, fun {r b} _ hlacks => ?_⟩
  · rw [h, if_pos (Record.hasField_of_carried ha), hvalue r a ha]
  · rw [h, hlacks]
    rfl

theorem Part.kept {kind : PlacedKind} {lib : Library} {part : Object → Option β}
    (hpart : Part kind lib part I apply) (hsets : Sets I apply field read get) {initial : α}
    (hbegins : ∀ h template, (part (unread kind h template)).map get = some initial)
    (hplain : ∀ o, (part o.plain).map get = (part o).map get) :
    Property.Kept ⟨α, field, read, fun o => (part o).map get, initial⟩ kind lib := by
  refine ⟨hbegins, ?_, ?_, hplain⟩
  · intro o r a hfits hr ha
    obtain ⟨b, hb, hI, happlied⟩ := hpart o hfits
    simp only [happlied r, Option.map_some, hsets.carried hI hr ha]
  · intro o r hfits hlacks
    obtain ⟨b, hb, hI, happlied⟩ := hpart o hfits
    simp only [happlied r, hb, Option.map_some, hsets.lacking hI hlacks]

end

/-! ### What all objects have -/

variable {kind : PlacedKind} {lib : Library}

/-- What all objects read alike, their names aside. -/
def bare (o : Object) : Object := { o with name := "", details := PlacedKind.waypoint.blank }

theorem bare_mapCreature (o : Object) (f : Creature → Creature) :
    (o.mapCreature f).bare = o.bare := by
  unfold mapCreature
  cases o.details <;> rfl

theorem bare_mapDoor (o : Object) (f : Door → Door) : (o.mapDoor f).bare = o.bare := by
  unfold mapDoor
  cases o.details <;> rfl

theorem bare_mapSituated (o : Object) (f : Situated → Situated) :
    (o.mapSituated f).bare = o.bare := by
  unfold mapSituated
  cases o.details <;> rfl

theorem bare_mapWaypoint (o : Object) (f : Waypoint → Waypoint) :
    (o.mapWaypoint f).bare = o.bare := by
  unfold mapWaypoint
  cases o.details <;> rfl

theorem bare_applyRecord (kind : PlacedKind) (lib : Library) (o : Object) (r : Record) :
    (applyRecord kind lib o r).bare = (o.applyShared lib r).bare := by
  cases kind with
  | creature => exact bare_mapCreature _ _
  | door => exact bare_mapDoor _ _
  | placeable =>
    refine Eq.trans ?_ (bare_mapSituated (o.applyShared lib r) (applyToSituated r))
    simp only [applyRecord, applyPlaceable]
    split <;> rfl
  | waypoint => exact bare_mapWaypoint _ _

theorem part_bare (kind : PlacedKind) (lib : Library) :
    Part kind lib (fun o => some o.bare) (fun _ => True) fun r o => (o.applyShared lib r).bare :=
  fun o _ => ⟨o.bare, rfl, trivial, fun r => congrArg some (bare_applyRecord kind lib o r)⟩

theorem kept_bare {α : Type} {field : String} {read : Field → Option α} (get : Object → α)
    (h : Sets (fun _ => True) (fun r o => (o.applyShared lib r).bare) field read get) {initial : α}
    (hbegins : ∀ h template, get (unread kind h template).bare = initial)
    (hplain : ∀ o : Object, get o.plain.bare = get o.bare) :
    Property.Kept ⟨α, field, read, fun o => some (get o.bare), initial⟩ kind lib :=
  (part_bare kind lib).kept h (fun h template => congrArg some (hbegins h template))
    fun o => congrArg some (hplain o)

theorem kept_shared {p : Property} (hp : p ∈ sharedProperties) : p.Kept kind lib := by
  unfold sharedProperties at hp
  simp only [List.mem_cons, List.not_mem_nil, or_false] at hp
  rcases hp with rfl | rfl | rfl | rfl
  · exact kept_bare Object.tag (.of_override fun r o _ => r.getString_eq "Tag" o.tag)
      (fun _ _ => rfl) fun _ => rfl
  · exact kept_bare Object.conversation
      (.of_override fun r o _ => r.getString_eq "Conversation" o.conversation)
      (fun _ _ => rfl) fun _ => rfl
  · exact kept_bare Object.isStatic (.of_override fun r o _ => r.getBool_eq "Static" o.isStatic)
      (fun _ _ => rfl) fun _ => rfl
  · exact kept_bare Object.usable (.of_override fun r o _ => r.getBool_eq "Useable" o.usable)
      (fun _ _ => rfl) fun _ => rfl

/-! ### Hooks -/

theorem applyHooks_cons (name : String) (f : Field) (r : Record) (hooks : Dict String) :
    ∃ hooks', applyHooks ((name, f) :: r) hooks = applyHooks r hooks' ∧
      (∀ event, event ≠ name → hooks'.find? event = hooks.find? event) ∧
      ∀ script, f = .string script → isHookName name = true → hooks'.find? name = some script := by
  cases f with
  | string script =>
    cases hname : isHookName name with
    | true =>
      refine ⟨hooks.insert name script, ?_, fun event hne => ?_, fun script' hf _ => ?_⟩
      · simp only [applyHooks, List.foldl_cons, hname, if_true]
      · exact Dict.find?_insert_of_ne hooks script hne
      · cases hf
        exact Dict.find?_insert_self hooks name script
    | false =>
      refine ⟨hooks, ?_, fun _ _ => rfl, fun _ _ h => nomatch h⟩
      simp only [applyHooks, List.foldl_cons, hname, Bool.false_eq_true, if_false]
  | _ => exact ⟨hooks, rfl, fun _ _ => rfl, fun _ h => nomatch h⟩

theorem find?_applyHooks_of_lacks {r : Record} {event : String} (h : Dict.find? r event = none)
    (hooks : Dict String) : (applyHooks r hooks).find? event = hooks.find? event := by
  induction r generalizing hooks with
  | nil => rfl
  | cons entry r ih =>
    obtain ⟨name, f⟩ := entry
    simp only [Dict.find?] at h
    split at h
    · cases h
    · rename_i hne
      obtain ⟨hooks', happlied, hother, -⟩ := applyHooks_cons name f r hooks
      rw [happlied, ih h, hother event (Ne.symm hne)]

theorem find?_applyHooks_of_text {r : Record} (hr : Dict.Ordered r) {event script : String}
    (hname : isHookName event = true) (h : Dict.find? r event = some (.string script))
    (hooks : Dict String) : (applyHooks r hooks).find? event = some script := by
  induction r generalizing hooks with
  | nil => cases h
  | cons entry r ih =>
    obtain ⟨name, f⟩ := entry
    obtain ⟨hfirst, hrest⟩ := List.pairwise_cons.1 hr
    obtain ⟨hooks', happlied, -, hset⟩ := applyHooks_cons name f r hooks
    simp only [Dict.find?] at h
    rw [happlied]
    split at h
    · rename_i heq
      subst heq
      -- The names after the first one are greater, so none of them is the event.
      have hlast : Dict.find? r name = none :=
        Option.eq_none_iff_forall_ne_some.2 fun g hg =>
          absurd (hfirst _ (Dict.mem_of_find? hg)) (lt_irrefl _)
      rw [find?_applyHooks_of_lacks hlast]
      exact hset script (Option.some_inj.1 h) hname
    · exact ih hrest h hooks'

theorem kept_hook {event : String} (hname : isHookName event = true) :
    (hookProperty event).Kept kind lib := by
  refine kept_bare (fun o => o.hooks.find? event) ⟨?_, ?_⟩ (fun _ _ => rfl) fun _ => rfl
  · intro r o a _ hr ha
    obtain ⟨f, hf, htext⟩ := Option.bind_eq_some_iff.1 ha
    cases f with
    | string script =>
      obtain rfl := Option.some_inj.1 htext
      exact find?_applyHooks_of_text hr hname hf o.hooks
    | _ => cases htext
  · intro r o _ hlacks
    exact find?_applyHooks_of_lacks (Record.find?_of_lacks hlacks) o.hooks

/-! ### Creatures -/

theorem toNat_clampAxis (n : Int64) : (clampAxis n).toNat = (max 0 (min 100 n.toInt)).toNat := by
  unfold clampAxis
  rw [UInt8.toNat_ofNat']
  omega

theorem clampAxis_ofNat {n : UInt8} (h : n.toNat ≤ 100) : clampAxis (Int64.ofNat n.toNat) = n := by
  rw [← UInt8.toNat_inj, toNat_clampAxis, Int64.toInt_ofNat_of_lt (by omega)]
  omega

theorem balanced_applyToCreature (r : Record) (c : Creature) : balanced (applyToCreature r c) := by
  unfold balanced applyToCreature
  simp only [toNat_clampAxis]
  omega

theorem scoreOf_ofNat (n : UInt8) : scoreOf (UInt32.ofNat n.toNat) = n := by
  have hn := n.toNat_lt
  unfold scoreOf
  rw [← UInt8.toNat_inj, UInt8.toNat_ofNat', UInt32.toNat_ofNat']
  omega

theorem details_applyCreature {o : Object} {c : Creature} (h : o.details = .creature c)
    (lib : Library) (r : Record) :
    (applyCreature lib o r).details = .creature (applyToCreature r c) := by
  have hc : (o.applyShared lib r).details = .creature c := h
  unfold applyCreature mapCreature
  simp only [hc]

theorem part_creature (lib : Library) :
    Part .creature lib creature? balanced applyToCreature := by
  intro o hfits
  obtain ⟨c, hc⟩ := details_of_kind hfits.kind
  have hcreature : o.creature? = some c := by rw [creature?, hc]
  refine ⟨c, hcreature, hfits.balanced c hcreature, fun r => ?_⟩
  show (applyCreature lib o r).creature? = _
  rw [creature?, details_applyCreature hc]

theorem plain_creature? (o : Object) : o.plain.creature? = o.creature? := by
  unfold plain creature? silentDetails
  cases o.details <;> rfl

theorem kept_creature (lib : Library) {α : Type} {field : String} {read : Field → Option α}
    {get : Creature → α} (h : Sets balanced applyToCreature field read get) :
    Property.Kept ⟨α, field, read, fun o => o.creature?.map get, get .blank⟩ .creature lib :=
  (part_creature lib).kept h (fun _ _ => rfl) fun o => by rw [plain_creature?]

theorem get_ofFn (f : Ability → UInt8) (a : Ability) : (Abilities.ofFn f).get a = f a := by
  cases a <;> rfl

theorem kept_ability (a : Ability) : (abilityProperty a).Kept .creature lib := by
  have hsets : Sets balanced applyToCreature a.field (fun f => f.uint?.map scoreOf)
      (·.abilities.get a) := by
    refine .of_made (fun c => UInt32.ofNat (c.abilities.get a).toNat)
      (fun c _ => scoreOf_ofNat _) fun r c => ?_
    rw [← Record.getUInt_eq]
    exact get_ofFn _ a
  have hbegins : Creature.blank.abilities.get a = 10 := by cases a <;> rfl
  have hkept := kept_creature lib hsets
  rwa [hbegins] at hkept

theorem classes_applyToCreature (r : Record) (c : Creature) :
    (applyToCreature r c).classes =
      ((r.carried? "ClassList" Field.rows?).map classesOf).getD c.classes := by
  have happlied : (applyToCreature r c).classes =
      if (classesOf (r.getList "ClassList")).isEmpty then c.classes
      else classesOf (r.getList "ClassList") := rfl
  rw [happlied, Record.getList_eq]
  cases hrows : r.carried? "ClassList" Field.rows? with
  | none => rfl
  | some rows =>
    -- The rows that are carried are not none at all.
    obtain ⟨f, -, hf⟩ := Option.bind_eq_some_iff.1 hrows
    cases f with
    | list l =>
      cases l with
      | nil => cases hf
      | cons row l =>
        cases hf
        rfl
    | _ => cases hf

theorem appearance_carried {field : String} (r : Record) (a : Option UInt32)
    (ha : r.carried? field (fun f => f.uint?.map some) = some a) : some (r.getUInt field 0) = a := by
  rw [Record.carried?_map] at ha
  obtain ⟨n, hn, rfl⟩ := Option.map_eq_some_iff.1 ha
  rw [Record.getUInt_eq, hn, Option.getD_some]

theorem gender_carried {field : String} (r : Record) (a : Gender)
    (ha : r.carried? field (fun f => f.int?.map fun n => Gender.ofScript (int32Of n)) = some a) :
    Gender.ofScript (int32Of (r.getInt field 0)) = a := by
  rw [Record.carried?_map] at ha
  obtain ⟨n, hn, rfl⟩ := Option.map_eq_some_iff.1 ha
  rw [Record.getInt_eq, hn, Option.getD_some]

theorem kept_ofCreature {p : Property} (hp : p ∈ creatureProperties) : p.Kept .creature lib := by
  unfold creatureProperties at hp
  rcases List.mem_append.1 hp with hp | hp
  · simp only [List.mem_cons, List.not_mem_nil, or_false] at hp
    rcases hp with rfl | rfl | rfl | rfl | rfl | rfl | rfl
    · exact kept_creature lib (.of_field (fun _ _ => rfl) appearance_carried)
    · exact kept_creature lib (.of_field (fun _ _ => rfl) gender_carried)
    · exact kept_creature lib (.of_override fun r c _ => r.getUInt_eq "Race" c.race)
    · refine kept_creature lib (.of_made (fun c => Int64.ofNat c.lawChaos.toNat)
        (fun c hc => clampAxis_ofNat hc.1) fun r c => ?_)
      rw [← Record.getInt_eq]
      rfl
    · refine kept_creature lib (.of_made (fun c => Int64.ofNat c.goodEvil.toNat)
        (fun c hc => clampAxis_ofNat hc.2) fun r c => ?_)
      rw [← Record.getInt_eq]
      rfl
    · exact kept_creature lib (.of_override fun r c _ => r.getBool_eq "IsPC" c.isPc)
    · refine kept_creature lib (.of_override fun r c _ => ?_)
      rw [Record.carried?_map]
      exact classes_applyToCreature r c
  · obtain ⟨a, -, rfl⟩ := List.mem_map.1 hp
    exact kept_ability a

/-! ### Doors and placeables -/

def applyToDoor (r : Record) (d : Door) : Door where
  situated := applyToSituated r d.situated
  isOpen := r.getInt "OpenState" (if d.isOpen then 1 else 0) != 0
  linkedTo := r.getString "LinkedTo" d.linkedTo

def applyToPlaceable (r : Record) (p : Placeable) : Placeable where
  situated := applyToSituated r p.situated
  hasInventory := r.getBool "HasInventory" p.hasInventory

theorem details_applyDoor {o : Object} {d : Door} (h : o.details = .door d) (lib : Library)
    (r : Record) : (applyDoor lib o r).details = .door (applyToDoor r d) := by
  have hd : (o.applyShared lib r).details = .door d := h
  unfold applyDoor mapDoor
  rw [hd]
  rfl

theorem details_applyPlaceable {o : Object} {p : Placeable} (h : o.details = .placeable p)
    (lib : Library) (r : Record) :
    (applyPlaceable lib o r).details = .placeable (applyToPlaceable r p) := by
  have hd : (o.applyShared lib r).details = .placeable p := h
  unfold applyPlaceable mapSituated
  rw [hd]
  rfl

theorem part_door (lib : Library) : Part .door lib door? (fun _ => True) applyToDoor := by
  intro o hfits
  obtain ⟨d, hd⟩ := details_of_kind hfits.kind
  refine ⟨d, by rw [door?, hd], trivial, fun r => ?_⟩
  show (applyDoor lib o r).door? = _
  rw [door?, details_applyDoor hd]

theorem part_placeable (lib : Library) :
    Part .placeable lib placeable? (fun _ => True) applyToPlaceable := by
  intro o hfits
  obtain ⟨p, hp⟩ := details_of_kind hfits.kind
  refine ⟨p, by rw [placeable?, hp], trivial, fun r => ?_⟩
  show (applyPlaceable lib o r).placeable? = _
  rw [placeable?, details_applyPlaceable hp]

def PlacedKind.isSituated : PlacedKind → Bool
  | .door | .placeable => true
  | .creature | .waypoint => false

theorem part_situated (hkind : kind.isSituated = true) (lib : Library) :
    Part kind lib situated? (fun _ => True) applyToSituated := by
  intro o hfits
  cases kind with
  | door =>
    obtain ⟨d, hd⟩ := details_of_kind hfits.kind
    refine ⟨d.situated, by rw [situated?, hd], trivial, fun r => ?_⟩
    show (applyDoor lib o r).situated? = _
    rw [situated?, details_applyDoor hd]
    rfl
  | placeable =>
    obtain ⟨p, hp⟩ := details_of_kind hfits.kind
    refine ⟨p.situated, by rw [situated?, hp], trivial, fun r => ?_⟩
    show (applyPlaceable lib o r).situated? = _
    rw [situated?, details_applyPlaceable hp]
    rfl
  | creature => cases hkind
  | waypoint => cases hkind

theorem plain_situated? (o : Object) : o.plain.situated? = o.situated?.map silent := by
  unfold plain situated? silentDetails
  cases o.details <;> rfl

theorem kept_situated (hkind : kind.isSituated = true) {p : Property}
    (hp : p ∈ situatedProperties) : p.Kept kind lib := by
  have hbegins : ∀ h template, (unread kind h template).situated? = some Situated.blank := by
    intro h template
    cases kind with
    | door => rfl
    | placeable => rfl
    | creature => cases hkind
    | waypoint => cases hkind
  unfold situatedProperties at hp
  simp only [List.mem_cons, List.not_mem_nil, or_false] at hp
  rcases hp with rfl | rfl
  · refine (part_situated hkind lib).kept (.of_field (fun _ _ => rfl) appearance_carried)
      (fun h template => by rw [hbegins h template]; rfl) fun o => ?_
    rw [plain_situated?, Option.map_map]
    rfl
  · refine (part_situated hkind lib).kept (.of_override fun r s _ => r.getBool_eq "Locked" s.locked)
      (fun h template => by rw [hbegins h template]; rfl) fun o => ?_
    rw [plain_situated?, Option.map_map]
    rfl

theorem plain_door? (o : Object) : o.plain.door? =
    o.door?.map fun d => { d with situated := silent d.situated } := by
  unfold plain door? silentDetails
  cases o.details <;> rfl

theorem kept_door {p : Property} (hp : p ∈ doorProperties) : p.Kept .door lib := by
  unfold doorProperties at hp
  simp only [List.mem_cons, List.not_mem_nil, or_false] at hp
  rcases hp with rfl | rfl
  · refine (part_door lib).kept (.of_made (fun d => if d.isOpen then 1 else 0)
      (fun d _ => ?_) fun r d => ?_) (fun _ _ => rfl) fun o => ?_
    · cases d.isOpen <;> rfl
    · rw [← Record.getInt_eq]
      rfl
    · rw [plain_door?, Option.map_map]
      rfl
  · refine (part_door lib).kept (.of_override fun r d _ => r.getString_eq "LinkedTo" d.linkedTo)
      (fun _ _ => rfl) fun o => ?_
    rw [plain_door?, Option.map_map]
    rfl

theorem kept_placeable {p : Property} (hp : p ∈ placeableProperties) : p.Kept .placeable lib := by
  obtain rfl := List.mem_singleton.1 hp
  refine (part_placeable lib).kept
    (.of_override fun r p _ => r.getBool_eq "HasInventory" p.hasInventory) (fun _ _ => rfl)
    fun o => ?_
  unfold plain placeable? silentDetails
  cases o.details <;> rfl

/-! ### Waypoints -/

def applyToWaypoint (talk : TalkTable) (r : Record) (w : Waypoint) : Waypoint where
  hasMapNote := r.getBool "HasMapNote" w.hasMapNote
  noteEnabled := r.getBool "MapNoteEnabled" w.noteEnabled
  mapNote := (r.getLocText "MapNote" talk).getD w.mapNote
  noteShown := w.noteShown

theorem details_applyWaypoint {o : Object} {w : Waypoint} (h : o.details = .waypoint w)
    (lib : Library) (r : Record) :
    (applyWaypoint lib o r).details = .waypoint (applyToWaypoint lib.talk r w) := by
  have hw : (o.applyShared lib r).details = .waypoint w := h
  unfold applyWaypoint mapWaypoint
  simp only [hw]
  rfl

theorem part_waypoint (lib : Library) :
    Part .waypoint lib waypoint? (fun _ => True) (applyToWaypoint lib.talk) := by
  intro o hfits
  obtain ⟨w, hw⟩ := details_of_kind hfits.kind
  refine ⟨w, by rw [waypoint?, hw], trivial, fun r => ?_⟩
  show (applyWaypoint lib o r).waypoint? = _
  rw [waypoint?, details_applyWaypoint hw]

theorem plain_waypoint? (o : Object) : o.plain.waypoint? = o.waypoint? := by
  unfold plain waypoint? silentDetails
  cases o.details <;> rfl

theorem kept_waypoint {p : Property} (hp : p ∈ waypointProperties lib.talk) :
    p.Kept .waypoint lib := by
  unfold waypointProperties at hp
  simp only [List.mem_cons, List.not_mem_nil, or_false] at hp
  rcases hp with rfl | rfl | rfl
  · exact (part_waypoint lib).kept
      (.of_override fun r w _ => r.getBool_eq "HasMapNote" w.hasMapNote) (fun _ _ => rfl)
      fun o => by rw [plain_waypoint?]
  · exact (part_waypoint lib).kept
      (.of_override fun r w _ => r.getBool_eq "MapNoteEnabled" w.noteEnabled) (fun _ _ => rfl)
      fun o => by rw [plain_waypoint?]
  · refine (part_waypoint lib).kept (.of_override fun r w _ => ?_) (fun _ _ => rfl)
      fun o => by rw [plain_waypoint?]
    rw [← Record.getLocText_eq]
    rfl

/-! ### All kinds -/

/-- Every property of a kind is set by what its records carry. -/
theorem kept_properties {p : Property} (hp : p ∈ kind.properties lib.talk) : p.Kept kind lib := by
  unfold PlacedKind.properties at hp
  rcases List.mem_append.1 hp with hp | hp
  · exact kept_shared hp
  · cases kind with
    | creature => exact kept_ofCreature hp
    | door =>
      rcases List.mem_append.1 hp with hp | hp
      · exact kept_situated rfl hp
      · exact kept_door hp
    | placeable =>
      rcases List.mem_append.1 hp with hp | hp
      · exact kept_situated rfl hp
      · exact kept_placeable hp
    | waypoint => exact kept_waypoint hp

end Adventure.Object

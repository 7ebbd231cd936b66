import Adventure.Proofs.World.Locals
import Adventure.Proofs.World.Tracking
import Adventure.Proofs.World.Whereabouts

/-!
# What operations do to doors

Nothing but opening and closing a door changes what a door is to those who ask for it: its tag, its
lock, its scripts, and whether it is open. Nothing else puts a line on the trail that tells of
doors, and nothing that a script can create is a door.
-/

namespace Adventure

open Object (alike_setPosition alike_reveal alike_hide built_load)

/-! ### Doors -/

/-- What a door is to those who ask for it. -/
structure Doorway where
  tag : String
  locked : Bool
  isOpen : Bool
  hook? : String → Option String

namespace Object

def doorway? (o : Object) : Option Doorway :=
  o.door?.map fun d => ⟨o.tag, d.situated.locked, d.isOpen, o.hook?⟩

/-- The second object is the first one as far as doors go. -/
structure Unturned (a b : Object) : Prop where
  id : b.id = a.id
  doorway? : b.doorway? = a.doorway?

namespace Unturned

theorem refl (o : Object) : Unturned o o := ⟨rfl, rfl⟩

theorem trans {a b c : Object} (hab : Unturned a b) (hbc : Unturned b c) : Unturned a c :=
  ⟨hbc.id.trans hab.id, hbc.doorway?.trans hab.doorway?⟩

end Unturned

theorem doorway?_isSome (o : Object) : o.doorway?.isSome = true ↔ o.kind = .door := by
  unfold doorway? door? kind Details.kind
  cases o.details <;> simp

theorem doorway?_of_kind {o : Object} (h : o.kind ≠ .door) : o.doorway? = none := by
  rwa [← Option.not_isSome_iff_eq_none, doorway?_isSome]

theorem unturned_mapWaypoint (o : Object) (f : Waypoint → Waypoint) :
    Unturned o (o.mapWaypoint f) := by
  unfold mapWaypoint
  cases hd : o.details with
  | waypoint w =>
    refine ⟨rfl, ?_⟩
    unfold doorway? door?
    simp only [hd, Option.map_none]
  | _ => exact .refl o

theorem unturned_mapArea (o : Object) (f : Area → Area) : Unturned o (o.mapArea f) := by
  unfold mapArea
  cases hd : o.details with
  | area a =>
    refine ⟨rfl, ?_⟩
    unfold doorway? door?
    simp only [hd, Option.map_none]
  | _ => exact .refl o

theorem unturned_reveal (o : Object) : Unturned o o.reveal := by
  cases hd : o.details with
  | module m => simpa only [reveal, hd] using Unturned.refl o
  | area a => simpa only [reveal, hd] using Unturned.refl o
  | waypoint w =>
    have hmap := unturned_mapWaypoint o fun w =>
      { w with noteShown := w.hasMapNote && w.noteEnabled }
    simpa only [mapWaypoint, reveal, hd] using hmap
  | _ => simpa only [reveal, hd] using ⟨rfl, rfl⟩

theorem unturned_hide (o : Object) : Unturned o o.hide := by
  cases hd : o.details with
  | module m => simpa only [hide, hd] using Unturned.refl o
  | area a => simpa only [hide, hd] using Unturned.refl o
  | waypoint w =>
    have hmap := unturned_mapWaypoint o fun w => { w with noteShown := false }
    simpa only [mapWaypoint, hide, hd] using hmap
  | _ => simpa only [hide, hd] using ⟨rfl, rfl⟩

end Object

namespace World

def doorway? (w : World) (h : Handle) : Option Doorway := (w.get? h).bind Object.doorway?

/-! ### Lines that tell -/

/-- How the lines begin that tell of doors and of scripts. -/
def tellingWords : List String := ["door.", "script.run "]

def tells (line : String) : Bool := tellingWords.any fun word => word.toList.isPrefixOf line.toList

/-- What the trail tells of doors and of scripts. -/
def tellings (w : World) : List String := w.events.filter tells

theorem tells_append {word : String} (hword : word ∈ tellingWords) (rest : String) :
    tells (word ++ rest) = true := by
  unfold tells
  rw [List.any_eq_true]
  refine ⟨word, hword, ?_⟩
  rw [String.toList_append, List.isPrefixOf_iff_prefix]
  exact List.prefix_append _ _

/-- A line tells nothing if its beginning and those of the lines that tell go apart. -/
theorem not_tells_append (start rest : String)
    (h : ∀ word ∈ tellingWords, ¬ word.toList <+: start.toList ∧ ¬ start.toList <+: word.toList) :
    tells (start ++ rest) = false := by
  unfold tells
  rw [List.any_eq_false]
  intro word hword hprefix
  rw [String.toList_append, List.isPrefixOf_iff_prefix] at hprefix
  rcases List.prefix_or_prefix_of_prefix hprefix (List.prefix_append _ _) with hlong | hshort
  · exact (h word hword).1 hlong
  · exact (h word hword).2 hshort

theorem tellings_logEvent (w : World) (line : String) :
    (w.logEvent line).tellings = w.tellings ++ (if tells line then [line] else []) := by
  unfold tellings logEvent
  rw [List.filter_append, List.filter_singleton]
  cases tells line <;> rfl

/-! ### Steps that leave doors alone -/

variable {w w' w₁ w₂ w₃ : World}

/-- Every door of the second world is the door it was in the first one, and what has been told is
the same. A door may go. -/
structure Steady (w w' : World) : Prop where
  doors : ∀ {h d}, w'.doorway? h = some d → w.doorway? h = some d
  told : w'.tellings = w.tellings

namespace Steady

theorem refl (w : World) : Steady w w := ⟨id, rfl⟩

theorem trans (first : Steady w₁ w₂) (second : Steady w₂ w₃) : Steady w₁ w₃ :=
  ⟨fun h => first.doors (second.doors h), second.told.trans first.told⟩

theorem aside (objects : w'.registry.objects = w.registry.objects) (events : w'.events = w.events) :
    Steady w w' := by
  refine ⟨fun {h d} hdoor => ?_, ?_⟩
  · unfold doorway? World.get? Registry.get? Registry.lookup at hdoor ⊢
    rwa [objects] at hdoor
  · unfold tellings
    rw [events]

theorem logEvent (w : World) {line : String} (hline : tells line = false) :
    Steady w (w.logEvent line) := by
  refine ⟨id, ?_⟩
  rw [tellings_logEvent, hline]
  exact List.append_nil _

theorem update (w : World) (h : Handle) {f : Object → Object} (hf : ∀ o, Object.Unturned o (f o)) :
    Steady w (w.update h f) := by
  refine ⟨fun {p d} hdoor => ?_, rfl⟩
  unfold doorway? at hdoor ⊢
  rw [get?_update w h fun o => (hf o).id] at hdoor
  cases ho : w.get? p with
  | none =>
    rw [ho] at hdoor
    cases hdoor
  | some o =>
    rw [ho, Option.map_some, Option.bind_some] at hdoor
    rw [Option.bind_some]
    split at hdoor
    · rwa [(hf o).doorway?] at hdoor
    · exact hdoor

theorem foldl {α : Type} {f : World → α → World} (hf : ∀ w a, Steady w (f w a)) (l : List α)
    (w : World) : Steady w (l.foldl f w) := by
  induction l generalizing w with
  | nil => exact refl w
  | cons a l ih => exact (hf w a).trans (ih (f w a))

theorem setAreaVisible (w : World) (area : Handle) (visible : Bool) :
    Steady w (w.setAreaVisible area visible) := by
  refine foldl (fun w h => update w h fun o => ?_) _ w
  split
  · exact Object.unturned_reveal o
  · exact Object.unturned_hide o

theorem relocate (w : World) (h current area : Handle) (position : Vec3) :
    Steady w (w.relocate h current area position) := by
  have htransfer : ∀ o : Object, Object.Unturned o
      (transfer (w.pcArea? = some current) (w.pcArea? = some area) area o) := by
    intro o
    have hhidden : Object.Unturned o (if w.pcArea? = some current then o.hide else o) := by
      split
      · exact Object.unturned_hide o
      · exact .refl o
    have hplaced : Object.Unturned o
        { (if w.pcArea? = some current then o.hide else o) with area := some area } :=
      hhidden.trans ⟨rfl, rfl⟩
    unfold transfer
    simp only
    split
    · exact hplaced.trans (Object.unturned_reveal _)
    · exact hplaced
  have hchanged : Steady w (w.changeArea h current area) := by
    rw [changeArea_eq]
    simp only
    split
    · exact update w h htransfer
    · refine (update w h htransfer).trans ?_
      unfold changeLists
      exact (update _ current fun o => Object.unturned_mapArea o _).trans
        (update _ area fun o => Object.unturned_mapArea o _)
  unfold World.relocate
  refine trans ?_ (update _ h fun o => ⟨rfl, rfl⟩)
  split
  · exact refl w
  · exact hchanged

theorem endConversation (w : World) : Steady w w.endConversation := by
  rcases w.endConversation_cases with ⟨-, hsame⟩ | ⟨c, -, hended⟩
  · rw [hsame]
    exact refl w
  · rw [hended]
    have haside : Steady w { w with conversation := none } := aside rfl rfl
    have hdropped := haside.trans (update _ c.object
      (f := fun o => { o with pcSpeaker := none }) fun o => ⟨rfl, rfl⟩)
    exact hdropped.trans (logEvent _ (not_tells_append "conversation.end " c.dialog (by decide)))

theorem startConversation (w : World) (dialog : String) (pc object : Handle) :
    Steady w (w.startConversation dialog pc object).2 := by
  rcases w.startConversation_cases dialog pc object with
    hrefused | ⟨player, target, -, -, -, hstarted⟩
  · rw [hrefused]
    exact refl w
  · have hsilent : tells ("conversation.start " ++ dialogFor dialog target ++ " (" ++ player.tag ++
        " <-> " ++ target.tag ++ ")") = false := by
      simp only [String.append_assoc]
      exact not_tells_append "conversation.start " _ (by decide)
    have htalking := (endConversation w).trans
      (update _ object (f := fun o => { o with pcSpeaker := some pc }) fun o => ⟨rfl, rfl⟩)
    rw [hstarted]
    exact (htalking.trans (logEvent _ hsilent)).trans (aside rfl rfl)

theorem nextInArea (w : World) (caller area : Handle) : Steady w (w.nextInArea caller area).2 := by
  unfold World.nextInArea
  split
  · exact refl w
  · exact aside rfl rfl

theorem firstInArea (w : World) (caller area : Handle) : Steady w (w.firstInArea caller area).2 := by
  have hset : Steady w (w.setWalk caller area
      (.ofList ((w.registry.inArea area).filter fun h => w.pc ≠ some h))) := aside rfl rfl
  exact hset.trans (nextInArea _ caller area)

theorem creatable_ne_door {t : ObjectType} {kind : Object.PlacedKind}
    (h : creatable? t = some kind) : kind.kind ≠ .door := by
  unfold creatable? at h
  split at h
  · cases h
    decide
  · split at h
    · cases h
      decide
    · split at h
      · cases h
        decide
      · cases h

/-- What is created takes the place of the door that had its handle, if one had. -/
theorem addObject (w : World) {o : Object} (ho : o.kind ≠ .door) (area : Handle) :
    Steady w (w.addObject o area) := by
  have hregistered : ∀ w : World, Steady w (w.setRegistry (w.registry.register o)) := by
    intro w
    refine ⟨fun {p d} hdoor => ?_, rfl⟩
    unfold doorway? World.get? setRegistry at hdoor
    unfold doorway? World.get?
    by_cases hid : o.id = p
    · subst hid
      cases hvalid : o.id.isValid with
      | false => rwa [Registry.register_invalid _ hvalid] at hdoor
      | true =>
        rw [Registry.get?_register w.registry hvalid, Option.bind_some,
          Object.doorway?_of_kind ho] at hdoor
        cases hdoor
    · rwa [Registry.get?_register_of_ne w.registry hid] at hdoor
  unfold World.addObject
  refine ((update w area fun a => Object.unturned_mapArea a _).trans (hregistered _)).trans
    (logEvent _ ?_)
  simp only [String.append_assoc]
  exact not_tells_append "object.create " _ (by decide)

theorem createObject (w : World) (t : ObjectType) (template : String) (place : Location)
    (tag : String) : Steady w (w.createObject t template place tag).2 := by
  rcases w.createObject_cases t template place tag with
    ⟨e, hfailed⟩ | ⟨e, hfailed⟩ | ⟨kind, area, _, o, models, hkind, -, hload, hcreated⟩
  · rw [hfailed]
    exact refl w
  · rw [hfailed]
    exact aside rfl rfl
  · have hdressed := dressed template tag place area (w.currentArea = some area) o
    have hplain : (dress template tag place area (w.currentArea = some area) o).kind ≠ .door := by
      rw [hdressed.kind, (built_load hload).kind]
      show kind.blank.kind ≠ .door
      rw [Object.placedKind_blank]
      exact creatable_ne_door hkind
    have hissued : Steady w { w with registry := w.registry.issue.2, models } := aside rfl rfl
    rw [hcreated]
    exact hissued.trans (addObject _ hplain area)

end Steady

/-- A gentle step that leaves doors alone. -/
structure Calm (w w' : World) : Prop extends Gentle w w', Steady w w'

namespace Calm

theorem trans (first : Calm w₁ w₂) (second : Calm w₂ w₃) : Calm w₁ w₃ :=
  ⟨first.toGentle.trans second.toGentle, first.toSteady.trans second.toSteady⟩

theorem aside (registry : w'.registry = w.registry) (dice : w'.dice = w.dice)
    (events : w'.events = w.events) : Calm w w' :=
  ⟨.aside registry dice, .aside (by rw [registry]) events⟩

theorem logEvent (w : World) {line : String} (hline : tells line = false) :
    Calm w (w.logEvent line) := ⟨.logEvent w line, .logEvent w hline⟩

theorem setAreaVisible (w : World) (area : Handle) (visible : Bool) :
    Calm w (w.setAreaVisible area visible) :=
  ⟨.setAreaVisible w area visible, .setAreaVisible w area visible⟩

theorem relocate (w : World) (h current area : Handle) (position : Vec3) :
    Calm w (w.relocate h current area position) :=
  ⟨.relocate w h current area position, .relocate w h current area position⟩

theorem setFacing (w : World) (h : Handle) (facing : Float32) :
    Calm w (w.update h fun o => o.setFacing facing) :=
  ⟨.update w h (fun o => (Object.alike_setFacing o facing).kin.same) fun _ => rfl,
    .update w h fun _ => ⟨rfl, rfl⟩⟩

end Calm

end World

end Adventure

import Adventure.Proofs.Registry.TagIndex
import Adventure.World.Creation
import Adventure.World.Player

/-!
# What operations come to

An operation of a world fails in one of several ways or does its work. Here is for each of them what
there can be left of the world, and what must have held of it before. What operations keep is proved
from that, without opening them again.
-/

namespace Adventure.World

open Registry (handleOf)

variable (w : World)

/-! ### Conversations -/

theorem endConversation_cases : w.conversation = none ∧ w.endConversation = w ∨
    ∃ c, w.conversation = some c ∧ w.endConversation =
      ({ w with conversation := none }.update c.object fun o => { o with pcSpeaker := none }).logEvent
        ("conversation.end " ++ c.dialog) := by
  unfold endConversation
  cases w.conversation with
  | none => exact Or.inl ⟨rfl, rfl⟩
  | some c => exact Or.inr ⟨c, rfl, rfl⟩

/-- A conversation runs once the one before has ended. -/
def talking (dialog : String) (player target : Object) (pc object : Handle) : World :=
  { (w.endConversation.update object fun o => { o with pcSpeaker := some pc }).logEvent
      ("conversation.start " ++ dialog ++ " (" ++ player.tag ++ " <-> " ++ target.tag ++ ")") with
    conversation := some ⟨dialog, pc, object⟩ }

theorem startConversation_cases (dialog : String) (pc object : Handle) :
    w.startConversation dialog pc object = (false, w) ∨
      ∃ player target, w.get? pc = some player ∧ player.isPc = true ∧ w.get? object = some target ∧
        w.startConversation dialog pc object =
          (true, w.talking (dialogFor dialog target) player target pc object) := by
  unfold startConversation
  split
  · rename_i player target hplayer htarget
    obtain ⟨hlive, hisPc⟩ := Option.filter_eq_some_iff.1 hplayer
    simp only
    split
    · exact Or.inr ⟨player, target, hlive, hisPc, htarget, rfl⟩
    · exact Or.inl rfl
  · exact Or.inl rfl

/-! ### Unloading areas -/

/-- What is left when an area goes that is empty already. -/
def closeArea (area : Handle) (noted : List String) : World :=
  { w with
    registry := (w.registry.unregister area).2
    events := w.events ++ noted
    areas := w.areas.filter fun entry => entry.2 ≠ area
    walks := w.walks.filter fun entry => entry.1.2 ≠ area
    currentArea := if w.currentArea = some area then none else w.currentArea }

theorem closeArea_registry (area : Handle) (noted : List String) :
    (w.closeArea area noted).registry = (w.registry.unregister area).2 := rfl

theorem unloadArea_cases (area : Handle) : w.isArea area = false ∧ w.unloadArea area = w ∨
    w.isArea area = true ∧ ∃ noted,
      w.unloadArea area = ((w.registry.inArea area).foldl evict w).closeArea area noted := by
  unfold unloadArea
  cases w.isArea area with
  | false => exact Or.inl ⟨rfl, rfl⟩
  | true =>
    refine Or.inr ⟨rfl, ?_⟩
    rw [if_pos rfl]
    generalize (w.registry.inArea area).foldl evict w = evicted
    simp only
    split
    · exact ⟨_, rfl⟩
    · refine ⟨[], ?_⟩
      unfold closeArea
      rw [List.append_nil]
      rfl

theorem unloadArea_loaded {area : Handle} (harea : w.isArea area = true) : ∃ noted,
    w.unloadArea area = ((w.registry.inArea area).foldl evict w).closeArea area noted := by
  rcases w.unloadArea_cases area with ⟨hnot, -⟩ | ⟨-, hclosed⟩
  · rw [hnot] at harea
    cases harea
  · exact hclosed

/-! ### The player's creature -/

def isCreature (h : Handle) : Bool := (w.get? h).any fun o => o.creature?.isSome

/-- The creature is marked as a player's. -/
def flag (h : Handle) : World :=
  w.update h fun o => o.mapCreature fun c => { c with isPc := true }

/-- The player's creature goes if it is another one than this. -/
def vacate (h : Handle) : World :=
  match w.pc with
  | some old => if old = h then w else { w with registry := (w.registry.unregister old).2, pc := none }
  | none => w

/-- A creature is marked, the one before it goes, and it is chosen. -/
theorem usePc_cases (h : Handle) : w.isCreature h = false ∧
      w.usePc h = (.error (.of (.notACreature h)), w) ∨
    ∃ o, w.get? h = some o ∧ o.creature?.isSome = true ∧ w.usePc h = (.ok (),
      { (w.flag h).vacate h with pc := some h }.logEvent
        ("pc.use " ++ o.tag ++ " (#" ++ h.text ++ ")")) := by
  unfold usePc isCreature
  cases hlive : w.get? h with
  | none => exact Or.inl ⟨rfl, rfl⟩
  | some o =>
    rw [Option.any_some, Option.filter_some]
    cases hkind : o.creature?.isSome with
    | false => exact Or.inl ⟨rfl, rfl⟩
    | true =>
      refine Or.inr ⟨o, rfl, hkind, ?_⟩
      unfold vacate flag
      simp only [World.update, if_true]
      cases w.pc with
      | none => rfl
      | some old =>
        simp only
        split <;> rfl

/-- What has been built with the next handle is registered. -/
def withBuilt (o : Object) (models : Models) : World :=
  { w with registry := w.registry.issue.2.register o, models }

/-- The handle is used up even if nothing can be built. -/
theorem loadPc_cases (r : Record) :
    (∃ e, w.loadPc r = (.error e, w.setRegistry w.registry.issue.2)) ∨
      ∃ o models, Object.load w.library r none
          (.blank (handleOf (w.registry.issued + 1)) (.creature .blank)) w.models = .ok (o, models) ∧
        w.loadPc r =
          (((w.withBuilt o models).usePc (handleOf (w.registry.issued + 1))).1.map
              fun _ => handleOf (w.registry.issued + 1),
            ((w.withBuilt o models).usePc (handleOf (w.registry.issued + 1))).2) := by
  unfold loadPc
  simp only [Registry.issue]
  split
  · exact Or.inl ⟨_, rfl⟩
  · rename_i o models hload
    exact Or.inr ⟨o, models, hload, rfl⟩

theorem placeAtEntry_cases : (∃ e, w.placeAtEntry = (.error e, w)) ∨
    ∃ pc m area, w.pc = some pc ∧ w.moduleInfo? = some m ∧ w.area? m.entryArea = some area ∧
      w.placeAtEntry = (.ok (pc, m.entryArea), w.update pc fun o =>
        ({ o with area := some area }.setPosition m.entryPosition).setFacing m.entryFacing) := by
  unfold placeAtEntry
  split
  · exact Or.inl ⟨_, rfl⟩
  · rename_i pc hpc
    split
    · exact Or.inl ⟨_, rfl⟩
    · rename_i m hm
      split
      · exact Or.inl ⟨_, rfl⟩
      · rename_i area harea
        exact Or.inr ⟨pc, m, area, hpc, hm, harea, rfl⟩

/-! ### Creating and destroying -/

/-- Creation fails, perhaps after a handle has been given out, or a new object with that handle has
been dressed and comes into a live area. -/
theorem createObject_cases (t : ObjectType) (template : String) (place : Location) (tag : String) :
    (∃ e, w.createObject t template place tag = (.error e, w)) ∨
      (∃ e, w.createObject t template place tag = (.error e, w.setRegistry w.registry.issue.2)) ∨
      ∃ kind area blueprint o models, creatable? t = some kind ∧ w.isArea area = true ∧
        Object.load w.library [] (some blueprint)
          (.blank (handleOf (w.registry.issued + 1)) kind.blank) w.models = .ok (o, models) ∧
        w.createObject t template place tag = (.ok (handleOf (w.registry.issued + 1)),
          { w with registry := w.registry.issue.2, models }.addObject
            (dress template tag place area (w.currentArea = some area) o) area) := by
  unfold createObject
  split
  · exact Or.inl ⟨_, rfl⟩
  · rename_i kind hkind
    split
    · exact Or.inl ⟨_, rfl⟩
    · rename_i area harea
      have hisArea : w.isArea area = true := (Option.filter_eq_some_iff.1 harea).2
      split
      · exact Or.inl ⟨_, rfl⟩
      · exact Or.inl ⟨_, rfl⟩
      · rename_i blueprint _
        simp only [Registry.issue]
        split
        · exact Or.inr (Or.inl ⟨_, rfl⟩)
        · rename_i o models hload
          exact Or.inr (Or.inr ⟨kind, area, blueprint, o, models, hkind, hisArea, hload, rfl⟩)

/-- The conversation that the object is in ends. -/
def parted (h : Handle) : World := if w.inConversation h then w.endConversation else w

theorem parted_cases (h : Handle) : w.inConversation h = false ∧ w.parted h = w ∨
    w.inConversation h = true ∧ w.parted h = w.endConversation := by
  unfold parted
  cases w.inConversation h with
  | false => exact Or.inl ⟨rfl, rfl⟩
  | true => exact Or.inr ⟨rfl, rfl⟩

/-- What is left when an object goes that is in no conversation. -/
def without (h : Handle) (o : Object) : World :=
  let left := (w.setRegistry (w.registry.unregister h).2).delist o
  { left with
    pc := if left.pc = some h then none else left.pc
    walks := left.walks.filter fun entry => entry.1.1 ≠ h }.logEvent
      ("object.destroy " ++ o.tag ++ " (#" ++ h.text ++ ")")

theorem removeObject_cases (h : Handle) :
    (w.parted h).registry.lookup h = none ∧ w.removeObject h = (false, w.parted h) ∨
      ∃ o, (w.parted h).registry.lookup h = some o ∧
        w.removeObject h = (true, (w.parted h).without h o) := by
  unfold removeObject
  rw [← parted]
  generalize w.parted h = parted
  rw [← Registry.unregister_fst]
  simp only
  cases (parted.registry.unregister h).1 with
  | none => exact Or.inl ⟨rfl, rfl⟩
  | some o => exact Or.inr ⟨o, rfl, rfl⟩

theorem removeObject_gone {h : Handle} (hgone : (w.parted h).registry.lookup h = none) :
    w.removeObject h = (false, w.parted h) := by
  rcases w.removeObject_cases h with ⟨-, hremoved⟩ | ⟨o, ho, -⟩
  · exact hremoved
  · rw [hgone] at ho
    cases ho

theorem removeObject_found {h : Handle} {o : Object}
    (hfound : (w.parted h).registry.lookup h = some o) :
    w.removeObject h = (true, (w.parted h).without h o) := by
  rcases w.removeObject_cases h with ⟨hgone, -⟩ | ⟨a, ha, hremoved⟩
  · rw [hgone] at hfound
    cases hfound
  · rw [ha] at hfound
    cases hfound
    exact hremoved

theorem destroyObject_cases (h : Handle) : w.destroyObject h = (false, w) ∨
    ∃ o, w.get? h = some o ∧ o.kind.isGameObject = true ∧
      w.destroyObject h = w.removeObject h := by
  unfold destroyObject
  split
  · exact Or.inl rfl
  · rename_i o hlive
    split
    · rename_i hgame
      exact Or.inr ⟨o, hlive, hgame, rfl⟩
    · exact Or.inl rfl

theorem destroyObject_live {h : Handle} {o : Object} (hlive : w.get? h = some o)
    (hgame : o.kind.isGameObject = true) : w.destroyObject h = w.removeObject h := by
  unfold destroyObject
  rw [hlive]
  exact if_pos hgame

end Adventure.World

import Adventure.Proofs.World.Visibility

/-!
# What goes and what stays

A game object that is destroyed goes alone, and an area that is unloaded goes with everything that
is in it but the player's creature. The objects that are left stand in the order they stood in, and
what has changed about them is said here object by object. The handles need not be in order for
this, so it holds however many have been given out.
-/

namespace Adventure.World

open Object (changed)
open Registry (Indexed held tagKey)

variable {w w' : World} {h area : Handle}

theorem objects_update_indexed (hw : w.registry.Indexed) (h : Handle) (f : Object → Object) :
    (w.update h f).registry.objects = w.registry.objects.map (changed h f) :=
  Registry.update_objects hw.valid h f

theorem left_of_objects {p : Handle → Bool} {g : Object → Object} (hg : ∀ o, (g o).id = o.id)
    (hobjects : w'.registry.objects = (w.registry.objects.filter fun o => p o.id).map g) :
    w'.registry.ids = w.registry.ids.filter p ∧ (w.registry.Indexed → w'.registry.Indexed →
      ∀ k o, w.get? k = some o → p k = true → w'.get? k = some (g o)) := by
  constructor
  · have hkept : Object.id ∘ g = Object.id := funext hg
    unfold Registry.ids
    rw [hobjects, List.map_map, hkept, List.filter_map]
    rfl
  · intro hw hw' k o ho hk
    obtain ⟨hmem, rfl⟩ := hw.get?_eq_some.1 ho
    have hleft : g o ∈ w'.registry.objects := by
      rw [hobjects]
      exact List.mem_map_of_mem (List.mem_filter.2 ⟨hmem, hk⟩)
    exact hw'.get?_eq_some.2 ⟨hleft, hg o⟩

/-! ### Destroying an object -/

/-- The object whose conversation ends when `h` goes. -/
def partner? (w : World) (h : Handle) : Option Handle :=
  if w.inConversation h then w.conversation.map Conversation.object else none

/-- Nobody talks to an object any more whose conversation ends when `h` goes. -/
def silenced (w : World) (h : Handle) (o : Object) : Object :=
  if w.partner? h = some o.id then { o with pcSpeaker := none } else o

/-- What another object is left as when `h` goes. The area of `h` does not list it any more. -/
def survivor (w : World) (h : Handle) (o : Object) : Object :=
  if (w.get? h).bind Object.area = some o.id then
    (w.silenced h o).mapArea fun list => list.removeObject h
  else w.silenced h o

@[simp] theorem silenced_id (w : World) (h : Handle) (o : Object) : (w.silenced h o).id = o.id := by
  unfold silenced
  split <;> rfl

@[simp] theorem silenced_area (w : World) (h : Handle) (o : Object) :
    (w.silenced h o).area = o.area := by
  unfold silenced
  split <;> rfl

@[simp] theorem survivor_id (w : World) (h : Handle) (o : Object) : (w.survivor h o).id = o.id := by
  unfold survivor
  split
  · rw [(Object.relisted_mapArea _ _).id, silenced_id]
  · exact silenced_id w h o

/-- The object that `h` names is destroyed, and nothing else is. -/
structure Destroyed (w : World) (h : Handle) (w' : World) : Prop where
  ids : w'.registry.ids = w.registry.ids.filter (· ≠ h)
  others : ∀ k o, w.get? k = some o → k ≠ h → w'.get? k = some (w.survivor h o)
  tagged : ∀ tag, w'.registry.withTag tag = (w.registry.withTag tag).filter (· ≠ h)
  walks : w'.walks = w.walks.filter fun entry => entry.1.1 ≠ h
  rest : w' = { w with
    registry := w'.registry, walks := w'.walks, events := w'.events
    pc := if w.pc = some h then none else w.pc
    conversation := if w.inConversation h then none else w.conversation }

theorem parted_spec (hw : w.registry.Indexed) (h : Handle) :
    (w.parted h).registry.objects = w.registry.objects.map (w.silenced h) ∧
      (w.parted h).registry.tags = w.registry.tags ∧ w.parted h = { w with
        registry := (w.parted h).registry, events := (w.parted h).events
        conversation := if w.inConversation h then none else w.conversation } := by
  rcases w.parted_cases h with ⟨hside, hsame⟩ | ⟨hside, hparted⟩
  · have hsilent : w.silenced h = id := funext fun o => by simp [silenced, partner?, hside]
    rw [hsame, hside, hsilent, List.map_id]
    exact ⟨rfl, rfl, rfl⟩
  · rcases w.endConversation_cases with ⟨hnone, -⟩ | ⟨c, hc, hended⟩
    · simp [inConversation, hnone] at hside
    have hsilent : w.silenced h = changed c.object fun o => { o with pcSpeaker := none } := by
      funext o
      simp only [silenced, partner?, hside, hc, changed, Option.map_some, Option.some.injEq, if_true,
        eq_comm]
    have hobjects := objects_update_indexed (w := { w with conversation := none }) hw c.object
      fun o => { o with pcSpeaker := none }
    rw [hparted, hended, hside, hsilent]
    exact ⟨hobjects, Registry.update_tags _ _ _, rfl⟩

theorem delist_spec (hw : w.registry.Indexed) (o : Object) :
    (w.delist o).registry.objects = w.registry.objects.map (fun b =>
        if o.area = some b.id then b.mapArea (·.removeObject o.id) else b) ∧
      (w.delist o).registry.tags = w.registry.tags ∧
      w.delist o = { w with registry := (w.delist o).registry } := by
  unfold delist
  cases o.area with
  | none => simp
  | some area =>
    refine ⟨?_, Registry.update_tags _ _ _, rfl⟩
    simp only [objects_update_indexed hw]
    refine List.map_congr_left fun b _ => ?_
    simp only [changed, Option.some.injEq, eq_comm]

theorem destroyed_removeObject (hw : w.registry.Indexed) {o : Object} (ho : w.get? h = some o) :
    Destroyed w h (w.removeObject h).2 := by
  have hw' : (w.removeObject h).2.registry.Indexed := (follows_removeObject w h).indexed hw
  obtain ⟨hobjects, htags, hrest⟩ := parted_spec hw h
  have hindexed : (w.parted h).registry.Indexed := (follows_parted w h).indexed hw
  obtain ⟨hmem, rfl⟩ := hw.get?_eq_some.1 ho
  have hfound : (w.parted o.id).registry.lookup o.id = some (w.silenced o.id o) := by
    refine hindexed.lookup_eq_some.2 ⟨?_, silenced_id w o.id o⟩
    rw [hobjects]
    exact List.mem_map_of_mem hmem
  -- The object is looked up once its conversation has ended. That does not change its area, so the list
  -- it is taken from is that of the area it was in.
  rw [w.removeObject_found hfound] at hw' ⊢
  revert hw'
  unfold without
  generalize w.parted o.id = parted at *
  have hgone := hindexed.unregister o.id
  obtain ⟨hleft, hkept, hsame⟩ := delist_spec
    (w := parted.setRegistry (parted.registry.unregister o.id).2) hgone (w.silenced o.id o)
  generalize World.delist _ _ = left at hleft hkept hsame ⊢
  intro hw'
  have hsurvivors : left.registry.objects =
      (w.registry.objects.filter fun b => b.id ≠ o.id).map (w.survivor o.id) := by
    rw [hleft]
    simp only [setRegistry, Registry.unregister_objects, hobjects, List.filter_map, List.map_map]
    refine congrArg₂ _ (funext fun b => ?_) ?_
    · simp [survivor, ho]
    · simp [Function.comp_def]
  obtain ⟨hids, hothers⟩ := left_of_objects (p := fun k => k ≠ o.id) (survivor_id w o.id) hsurvivors
  refine ⟨hids, ?_, ?_, ?_, ?_⟩
  · intro k b hb hne
    exact hothers hw hw' k b hb (decide_eq_true hne)
  · intro tag
    have hheld := Registry.unregister_held hindexed o.id (tagKey tag)
    rw [htags] at hheld
    show held left.registry.tags (tagKey tag) = (held w.registry.tags (tagKey tag)).filter _
    rw [hkept]
    exact hheld
  · simp only [logEvent]
    rw [hsame, hrest]
    rfl
  · simp only [logEvent]
    rw [hsame, hrest]
    rfl

theorem destroyed_destroyObject (hw : w.registry.Indexed) (hdone : (w.destroyObject h).1 = true) :
    Destroyed w h (w.destroyObject h).2 := by
  rcases w.destroyObject_cases h with hrefused | ⟨o, ho, -, hdestroyed⟩
  · rw [hrefused] at hdone
    cases hdone
  · rw [hdestroyed]
    exact destroyed_removeObject hw ho

/-! ### Unloading an area -/

/-- What the player's creature is left as when the area that it is in is unloaded. -/
def displaced (o : Object) : Object := { o.hide with area := none }

@[simp] theorem displaced_id (o : Object) : (displaced o).id = o.id := (Object.bound_hide o).id

/-- What is left of an object once the handles on a list have been evicted. -/
def ousted (l : List Handle) (o : Object) : Object := if o.id ∈ l then displaced o else o

@[simp] theorem ousted_id (l : List Handle) (o : Object) : (ousted l o).id = o.id := by
  unfold ousted
  split <;> simp

/-- No handle is evicted twice, so what the first step leaves of an object is what the others leave
alone. -/
theorem ousted_changed {h : Handle} {l : List Handle} (hnot : h ∉ l) (o : Object) :
    ousted l (changed h displaced o) = ousted (h :: l) o := by
  unfold ousted changed
  by_cases ho : o.id = h
  · simp [ho, hnot]
  · simp [ho]

theorem changed_displaced_id (h : Handle) (o : Object) : (changed h displaced o).id = o.id := by
  unfold changed
  split <;> simp

/-- Does the object stay when the area is unloaded? -/
def outlasts (w : World) (area h : Handle) : Bool :=
  h ≠ area && (h ∉ w.registry.inArea area || w.pc = some h)

/-- The area is unloaded with everything in it but the player's creature, and nothing else is. -/
structure Unloaded (w : World) (area : Handle) (w' : World) : Prop where
  ids : w'.registry.ids = w.registry.ids.filter (w.outlasts area)
  others : ∀ h o, w.get? h = some o → h ≠ area → o.area ≠ some area → w'.get? h = some o
  player : ∀ p o, w.get? p = some o → p ≠ area → o.area = some area → w.pc = some p →
    w'.get? p = some { o.hide with area := none }
  tagged : ∀ tag, w'.registry.withTag tag = (w.registry.withTag tag).filter (w.outlasts area)
  walks : w'.walks = w.walks.filter fun entry => entry.1.2 ≠ area
  rest : w' = { w with
    registry := w'.registry, walks := w'.walks, events := w'.events
    areas := w.areas.filter fun entry => entry.2 ≠ area
    currentArea := if w.currentArea = some area then none else w.currentArea }

theorem evict_objects (hw : w.registry.Indexed) (h : Handle) : (w.evict h).registry.objects =
    (w.registry.objects.filter fun o => o.id ≠ h || w.pc = some h).map (changed h displaced) := by
  unfold evict
  split
  · rename_i hpc
    simp only [hpc, decide_true, Bool.or_true, List.filter_true]
    exact objects_update_indexed hw h displaced
  · rename_i hpc
    simp only [hpc, decide_false, Bool.or_false, setRegistry, Registry.unregister_objects]
    refine (List.map_id _).symm.trans (List.map_congr_left fun o ho => ?_)
    have hne : o.id ≠ h := of_decide_eq_true (List.mem_filter.1 ho).2
    exact (Object.changed_of_ne displaced hne).symm

theorem evict_held (hw : w.registry.Indexed) (h : Handle) (key : String) :
    held (w.evict h).registry.tags key =
      (held w.registry.tags key).filter fun k => k ≠ h || w.pc = some h := by
  unfold evict
  split
  · rename_i hpc
    simp only [hpc, decide_true, Bool.or_true, List.filter_true]
    exact congrArg (held · key) (Registry.update_tags _ _ _)
  · rename_i hpc
    simp only [hpc, decide_false, Bool.or_false]
    exact Registry.unregister_held hw h key

theorem evict_rest (w : World) (h : Handle) :
    w.evict h = { w with registry := (w.evict h).registry } := by
  unfold evict
  split <;> rfl

theorem evictAll_left (hw : w.registry.Indexed) {l : List Handle} (hl : l.Nodup) :
    (l.foldl evict w).registry.objects =
        (w.registry.objects.filter fun o => o.id ∉ l || w.pc = some o.id).map (ousted l) ∧
      (∀ key, held (l.foldl evict w).registry.tags key =
        (held w.registry.tags key).filter fun k => k ∉ l || w.pc = some k) ∧
      l.foldl evict w = { w with registry := (l.foldl evict w).registry } := by
  induction l generalizing w with
  | nil =>
    have hnone : ousted [] = id := funext fun o => if_neg List.not_mem_nil
    simp [hnone]
  | cons h l ih =>
    obtain ⟨hnot, hrest⟩ := List.nodup_cons.1 hl
    have hpc : (w.evict h).pc = w.pc := by rw [evict_rest]
    obtain ⟨hobjects, hheld, hsame⟩ := ih ((follows_evict w h).indexed hw) hrest
    rw [hpc] at hobjects hheld
    rw [List.foldl_cons]
    refine ⟨?_, ?_, ?_⟩
    · rw [hobjects, evict_objects hw, List.filter_map, List.map_map, List.filter_filter]
      refine congrArg₂ _ (funext fun o => ousted_changed hnot o) (List.filter_congr fun o _ => ?_)
      rw [Function.comp_apply, changed_displaced_id]
      by_cases ho : o.id = h
      · simp [ho, hnot]
      · simp [ho]
    · intro key
      rw [hheld, evict_held hw, List.filter_filter]
      refine List.filter_congr fun k _ => ?_
      by_cases hk : k = h
      · simp [hk, hnot]
      · simp [hk]
    · rw [hsame, evict_rest]

theorem unloadArea_eq (harea : w.isArea area = true) {evicted : World}
    (hevicted : (w.registry.inArea area).foldl evict w = evicted)
    (hsame : evicted = { w with registry := evicted.registry }) :
    w.unloadArea area = { w with
      registry := (evicted.registry.unregister area).2
      events := (w.unloadArea area).events
      areas := w.areas.filter fun entry => entry.2 ≠ area
      walks := w.walks.filter fun entry => entry.1.2 ≠ area
      currentArea := if w.currentArea = some area then none else w.currentArea } := by
  obtain ⟨noted, hclosed⟩ := w.unloadArea_loaded harea
  rw [hclosed, hevicted]
  unfold closeArea
  rw [hsame]

theorem unloaded_unloadArea (hw : w.registry.Indexed) (harea : w.isArea area = true) :
    Unloaded w area (w.unloadArea area) := by
  have hw' : (w.unloadArea area).registry.Indexed := (follows_unloadArea w area).indexed hw
  have hnodup : (w.registry.inArea area).Nodup :=
    hw.distinct.sublist (List.filter_sublist.map Object.id)
  obtain ⟨hobjects, hheld, hsame⟩ := evictAll_left hw hnodup
  have hevicted := (follows_foldl follows_evict (w.registry.inArea area) w).indexed hw
  have hrest := unloadArea_eq harea rfl hsame
  generalize (w.registry.inArea area).foldl evict w = evicted at *
  have hregistry : (w.unloadArea area).registry = (evicted.registry.unregister area).2 := by
    rw [hrest]
  have hleft : (w.unloadArea area).registry.objects =
      (w.registry.objects.filter fun o => w.outlasts area o.id).map
        (ousted (w.registry.inArea area)) := by
    rw [hregistry, Registry.unregister_objects, hobjects, List.filter_map, List.filter_filter]
    refine congrArg _ (List.filter_congr fun o _ => ?_)
    rw [Function.comp_apply, ousted_id]
    rfl
  obtain ⟨hids, hothers⟩ := left_of_objects (ousted_id _) hleft
  refine ⟨hids, ?_, ?_, ?_, ?_, ?_⟩
  · intro h o ho hne hother
    obtain ⟨hmem, rfl⟩ := hw.get?_eq_some.1 ho
    have hout : o.id ∉ w.registry.inArea area := fun hin => hother ((id_mem_inArea hw hmem).1 hin)
    have hstays : w.outlasts area o.id = true := by simp [outlasts, hne, hout]
    have hsame : ousted (w.registry.inArea area) o = o := if_neg hout
    rw [hothers hw hw' o.id o ho hstays, hsame]
  · intro p o ho hne hinside hpc
    obtain ⟨hmem, rfl⟩ := hw.get?_eq_some.1 ho
    have hin : o.id ∈ w.registry.inArea area := (id_mem_inArea hw hmem).2 hinside
    have hstays : w.outlasts area o.id = true := by simp [outlasts, hne, hpc]
    have haway : ousted (w.registry.inArea area) o = displaced o := if_pos hin
    rw [hothers hw hw' o.id o ho hstays, haway]
    rfl
  · intro tag
    show held (w.unloadArea area).registry.tags (tagKey tag) =
      (held w.registry.tags (tagKey tag)).filter _
    rw [hregistry, Registry.unregister_held hevicted, hheld, List.filter_filter]
    rfl
  · rw [hrest]
  · rw [hrest]

end Adventure.World

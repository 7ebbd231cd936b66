import Adventure.Proofs.Object.Setters

/-!
# One object among many

A change of one object leaves every other object of a list as it is. `Object.Abides` says that an
object stays the same but for its place, `Object.Relisted` that at most the list of an area changes.
-/

namespace Adventure

namespace Object

/-- The object changes if it is the one with this handle. -/
def changed (h : Handle) (f : Object → Object) (o : Object) : Object :=
  if o.id = h then f o else o

section Changed

variable {h : Handle} {o : Object} (f : Object → Object)

theorem changed_of_eq (ho : o.id = h) : changed h f o = f o := if_pos ho

theorem changed_of_ne (ho : o.id ≠ h) : changed h f o = o := if_neg ho

end Changed

/-- The object with this handle is told who talks to it. -/
def told (h : Handle) (speaker : Option Handle) : Object → Object :=
  changed h fun o => { o with pcSpeaker := speaker }

theorem told_keeps (h : Handle) (speaker : Option Handle) (o : Object) :
    (told h speaker o).id = o.id ∧ (told h speaker o).area = o.area ∧
      (told h speaker o).area? = o.area? ∧ (told h speaker o).isPc = o.isPc := by
  unfold told changed
  split <;> exact ⟨rfl, rfl, rfl, rfl⟩

/-- A handle is put on the list of an area. -/
def listing (area h : Handle) : Object → Object := changed area fun o => o.mapArea (·.addObject h)

/-- A handle is taken off the list of an area. -/
def unlisting (area h : Handle) : Object → Object :=
  changed area fun o => o.mapArea (·.removeObject h)

/-! ### Staying the same -/

/-- The second object is the first one in another state. It may stand elsewhere. -/
structure Abides (a b : Object) : Prop where
  id : b.id = a.id
  pcSpeaker : b.pcSpeaker = a.pcSpeaker
  area? : b.area? = a.area?
  isPc : a.isPc = true → b.isPc = true

namespace Abides

theorem refl (o : Object) : Abides o o := ⟨rfl, rfl, rfl, fun h => h⟩

theorem trans {a b c : Object} (hab : Abides a b) (hbc : Abides b c) : Abides a c :=
  ⟨hbc.id.trans hab.id, hbc.pcSpeaker.trans hab.pcSpeaker, hbc.area?.trans hab.area?,
    fun h => hbc.isPc (hab.isPc h)⟩

theorem of_alike {a b : Object} (h : Alike a b) : Abides a b :=
  ⟨h.kin.id, h.pcSpeaker, h.area?, fun ha => h.kin.isPc.trans ha⟩

theorem place (o : Object) (area : Option Handle) : Abides o { o with area } :=
  ⟨rfl, rfl, rfl, fun h => h⟩

theorem changed {h : Handle} {f : Object → Object} (hf : ∀ o, Abides o (f o)) (o : Object) :
    Abides o (changed h f o) := by
  unfold Object.changed
  split
  · exact hf o
  · exact refl o

end Abides

theorem abides_mapCreature (o : Object) :
    Abides o (o.mapCreature fun c => { c with isPc := true }) := by
  unfold mapCreature
  cases hd : o.details with
  | creature c =>
    refine ⟨rfl, rfl, ?_, ?_⟩
    · simp only [area?, hd]
    · intro _
      simp only [isPc, creature?, Option.any_some]
  | _ => exact .refl o

/-! ### Lists of areas -/

theorem area?_mapArea (o : Object) (f : Area → Area) : (o.mapArea f).area? = o.area?.map f := by
  unfold mapArea
  cases hd : o.details with
  | area a => simp only [area?, hd, Option.map_some]
  | _ => simp only [area?, hd, Option.map_none]

theorem mapArea_congr {o : Object} {f g : Area → Area} (h : ∀ a, o.area? = some a → f a = g a) :
    o.mapArea f = o.mapArea g := by
  unfold mapArea
  cases hd : o.details with
  | area a => simp only [h a (by simp only [area?, hd])]
  | _ => rfl

/-- Nothing but the list of an area changes. -/
structure Relisted (a b : Object) : Prop where
  id : b.id = a.id
  pcSpeaker : b.pcSpeaker = a.pcSpeaker
  area : b.area = a.area
  isPc : b.isPc = a.isPc

theorem Relisted.trans {a b c : Object} (hab : Relisted a b) (hbc : Relisted b c) : Relisted a c :=
  ⟨hbc.id.trans hab.id, hbc.pcSpeaker.trans hab.pcSpeaker, hbc.area.trans hab.area,
    hbc.isPc.trans hab.isPc⟩

theorem relisted_mapArea (o : Object) (f : Area → Area) : Relisted o (o.mapArea f) := by
  unfold mapArea
  cases hd : o.details with
  | area a => exact ⟨rfl, rfl, rfl, by simp only [isPc, creature?, hd]⟩
  | _ => exact ⟨rfl, rfl, rfl, rfl⟩

theorem relisted_changed (area : Handle) (f : Area → Area) (o : Object) :
    Relisted o (changed area (fun o => o.mapArea f) o) := by
  unfold changed
  split
  · exact relisted_mapArea o f
  · exact ⟨rfl, rfl, rfl, rfl⟩

theorem relisted_listing (area h : Handle) (o : Object) : Relisted o (listing area h o) :=
  relisted_changed area _ o

theorem relisted_unlisting (area h : Handle) (o : Object) : Relisted o (unlisting area h o) :=
  relisted_changed area _ o

theorem relisted_carried (h old new : Handle) (o : Object) :
    Relisted o (listing new h (unlisting old h o)) :=
  (relisted_unlisting old h o).trans (relisted_listing new h _)

theorem area?_listing (area h : Handle) (o : Object) : (listing area h o).area? =
    o.area?.map fun a => if o.id = area then a.addObject h else a := by
  unfold listing changed
  split
  · exact area?_mapArea o _
  · exact Option.map_id'.symm

theorem area?_unlisting (area h : Handle) (o : Object) : (unlisting area h o).area? =
    o.area?.map fun a => if o.id = area then a.removeObject h else a := by
  unfold unlisting changed
  split
  · exact area?_mapArea o _
  · exact Option.map_id'.symm

end Object

namespace Area

theorem mem_addObject {a : Area} {h k : Handle} :
    k ∈ (a.addObject h).objects ↔ k ∈ a.objects ∨ k = h := by
  unfold addObject
  split
  · rename_i hmem
    refine ⟨Or.inl, ?_⟩
    rintro (hk | rfl)
    · exact hk
    · exact hmem
  · simp

theorem nodup_addObject {a : Area} (ha : a.objects.Nodup) (h : Handle) :
    (a.addObject h).objects.Nodup := by
  unfold addObject
  split
  · exact ha
  · rename_i hnot
    rw [List.nodup_append]
    refine ⟨ha, List.pairwise_singleton _ h, ?_⟩
    intro k hk b hb hkb
    rw [List.mem_singleton.1 hb] at hkb
    exact hnot (hkb ▸ hk)

theorem mem_removeObject {a : Area} {h k : Handle} :
    k ∈ (a.removeObject h).objects ↔ k ∈ a.objects ∧ k ≠ h := by
  unfold removeObject
  rw [List.mem_filter, decide_eq_true_eq]

theorem nodup_removeObject {a : Area} (ha : a.objects.Nodup) (h : Handle) :
    (a.removeObject h).objects.Nodup := ha.filter _

theorem mem_addObjects {os : List Object} {a : Area} {h : Handle} :
    h ∈ (os.foldl (fun a o => a.addObject o.id) a).objects ↔
      h ∈ a.objects ∨ ∃ o ∈ os, o.id = h := by
  induction os generalizing a with
  | nil => simp
  | cons o os ih =>
    rw [List.foldl_cons, ih, mem_addObject, or_assoc, eq_comm]
    simp only [List.mem_cons, exists_eq_or_imp]

theorem nodup_addObjects (os : List Object) {a : Area} (ha : a.objects.Nodup) :
    (os.foldl (fun a o => a.addObject o.id) a).objects.Nodup := by
  induction os generalizing a with
  | nil => exact ha
  | cons o os ih => exact ih (nodup_addObject ha o.id)

theorem addObjects_of_nodup {os : List Object} {a : Area}
    (h : (a.objects ++ os.map Object.id).Nodup) :
    os.foldl (fun a o => a.addObject o.id) a = { a with objects := a.objects ++ os.map Object.id } := by
  induction os generalizing a with
  | nil => simp
  | cons o os ih =>
    have hnew : o.id ∉ a.objects := by
      intro hin
      exact (List.nodup_append.1 h).2.2 o.id hin o.id (by simp) rfl
    have hadded : a.addObject o.id = { a with objects := a.objects ++ [o.id] } := if_neg hnew
    rw [List.map_cons, List.append_cons] at h ⊢
    rw [List.foldl_cons, hadded, ih h]

/-! ### From list to list -/

/-- What the list of the area `self` becomes when a handle goes from the list of one area to that of
another one. -/
def carry (h old new self : Handle) (a : Area) : Area :=
  let a := if self = old then a.removeObject h else a
  if self = new then a.addObject h else a

section Carry

variable {h k old new self : Handle} {a : Area}

theorem nodup_carry (ha : a.objects.Nodup) : (a.carry h old new self).objects.Nodup := by
  have hremoved : (if self = old then a.removeObject h else a).objects.Nodup := by
    split
    · exact nodup_removeObject ha h
    · exact ha
  unfold carry
  simp only
  split
  · exact nodup_addObject hremoved h
  · exact hremoved

theorem mem_carry_of_ne (hne : k ≠ h) : k ∈ (a.carry h old new self).objects ↔ k ∈ a.objects := by
  have hremoved : k ∈ (if self = old then a.removeObject h else a).objects ↔ k ∈ a.objects := by
    split
    · rw [mem_removeObject, and_iff_left hne]
    · rfl
  unfold carry
  simp only
  split
  · rw [mem_addObject, hremoved, or_iff_left hne]
  · exact hremoved

theorem mem_carry_self (hold : h ∈ a.objects ↔ self = old) :
    h ∈ (a.carry h old new self).objects ↔ self = new := by
  have hremoved : h ∉ (if self = old then a.removeObject h else a).objects := by
    split
    · rw [mem_removeObject]
      exact fun hh => hh.2 rfl
    · rename_i hother
      exact fun hh => hother (hold.1 hh)
  unfold carry
  simp only
  split
  · rename_i hnew
    exact ⟨fun _ => hnew, fun _ => mem_addObject.2 (Or.inr rfl)⟩
  · rename_i hother
    exact ⟨fun hh => absurd hh hremoved, fun hnew => absurd hnew hother⟩

end Carry

end Area

theorem Object.area?_carried (h old new : Handle) (o : Object) :
    (listing new h (unlisting old h o)).area? = o.area?.map (·.carry h old new o.id) := by
  rw [area?_listing, area?_unlisting, (relisted_unlisting old h o).id, Option.map_map]
  rfl

end Adventure

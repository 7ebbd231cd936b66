import Adventure.Proofs.Dict
import Adventure.Proofs.Object.Setters
import Adventure.Registry
import Mathlib.Data.List.Nodup

/-!
# The tag index of a registry

A registry keeps its objects in one list and the handles of every folded tag in another. This module
says what each operation does to both, and that they go on agreeing: under a folded tag stand the
handles of exactly the objects with that tag, and no list in the index is empty.
-/

namespace Adventure.Registry

open Object (setTag_tag)

/-! ### Objects and their handles -/

theorem find?_of_nodup {objects : List Object} (hn : (objects.map Object.id).Nodup) {o : Object}
    (ho : o ∈ objects) : objects.find? (fun a => a.id = o.id) = some o := by
  induction objects with
  | nil => cases ho
  | cons a objects ih =>
    rw [List.map_cons, List.nodup_cons] at hn
    rcases List.mem_cons.1 ho with rfl | hm
    · simp
    · have hne : a.id ≠ o.id := fun he => hn.1 (he ▸ List.mem_map_of_mem hm)
      rw [List.find?_cons_of_neg (by simpa using hne)]
      exact ih hn.2 hm

theorem lookup_eq_some {r : Registry} (hn : r.ids.Nodup) {h : Handle} {o : Object} :
    r.lookup h = some o ↔ o ∈ r.objects ∧ o.id = h := by
  constructor
  · intro hl
    exact ⟨List.mem_of_find?_eq_some hl, by simpa using List.find?_some hl⟩
  · rintro ⟨ho, rfl⟩
    exact find?_of_nodup hn ho

theorem lookup_eq_none {r : Registry} {h : Handle} : r.lookup h = none ↔ h ∉ r.ids := by
  unfold lookup ids
  rw [List.find?_eq_none, List.mem_map]
  constructor
  · rintro hall ⟨o, ho, rfl⟩
    exact hall o ho (by simp)
  · intro hno o ho he
    exact hno ⟨o, ho, by simpa using he⟩

theorem get?_of_valid {r : Registry} {h : Handle} (hv : h.isValid = true) :
    r.get? h = r.lookup h := by
  simp only [get?, hv, if_true]

/-! ### The lists of the index -/

/-- There is one way to list given handles in an order. -/
theorem eq_of_order {before : Handle → Handle → Prop}
    (hasymm : ∀ {a b}, before a b → ¬ before b a) {hs hs' : List Handle}
    (h : hs.Pairwise before) (h' : hs'.Pairwise before) (hmem : ∀ a, a ∈ hs ↔ a ∈ hs') :
    hs = hs' := by
  have hnodup : ∀ {l : List Handle}, l.Pairwise before → l.Nodup := by
    intro l hl
    refine List.Pairwise.imp ?_ hl
    intro a b hab he
    subst he
    exact hasymm hab hab
  have hperm : hs.Perm hs' := (List.perm_ext_iff_of_nodup (hnodup h) (hnodup h')).2 hmem
  exact hperm.eq_of_pairwise (fun a b _ _ hab hba => absurd hba (hasymm hab)) h h'

def held (tags : Dict (List Handle)) (key : String) : List Handle := (tags.find? key).getD []

theorem held_index (tags : Dict (List Handle)) (tag key : String) (h : Handle) :
    held (index tags tag h) key =
      if key = tagKey tag then held tags key ++ [h] else held tags key := by
  unfold held index
  split
  · rename_i he
    rw [he, Dict.find?_insert_self]
    rfl
  · rename_i hne
    rw [Dict.find?_insert_of_ne _ _ hne]

theorem held_unindex (tags : Dict (List Handle)) (tag key : String) (h : Handle) :
    held (unindex tags tag h) key =
      if key = tagKey tag then (held tags key).filter (· ≠ h) else held tags key := by
  unfold unindex
  cases hf : tags.find? (tagKey tag) with
  | none =>
    simp only
    split
    · rename_i he
      simp only [held, he, hf, Option.getD_none, List.filter_nil]
    · rfl
  | some handles =>
    simp only
    by_cases hkey : key = tagKey tag
    · subst hkey
      rw [if_pos rfl]
      split
      · rename_i hempty
        have hnil : handles.filter (· ≠ h) = [] := List.isEmpty_iff.1 hempty
        simp only [held, Dict.find?_erase_self, hf, Option.getD_none, Option.getD_some, hnil]
      · simp only [held, Dict.find?_insert_self, hf, Option.getD_some]
    · rw [if_neg hkey]
      split
      · simp only [held, Dict.find?_erase_of_ne _ hkey]
      · simp only [held, Dict.find?_insert_of_ne _ _ hkey]

/-- The index is a map whose lists are not empty. -/
structure Tidy (tags : Dict (List Handle)) : Prop where
  ordered : tags.Ordered
  filled : ∀ entry ∈ tags, entry.2 ≠ []

theorem Tidy.index {tags : Dict (List Handle)} (ht : Tidy tags) (tag : String) (h : Handle) :
    Tidy (Registry.index tags tag h) := by
  refine ⟨Dict.ordered_insert ht.ordered _ _, ?_⟩
  intro entry he
  rcases Dict.mem_insert he with rfl | hm
  · simp
  · exact ht.filled entry hm

theorem Tidy.unindex {tags : Dict (List Handle)} (ht : Tidy tags) (tag : String) (h : Handle) :
    Tidy (Registry.unindex tags tag h) := by
  unfold Registry.unindex
  cases tags.find? (tagKey tag) with
  | none => exact ht
  | some handles =>
    simp only
    split
    · exact ⟨Dict.ordered_erase ht.ordered _,
        fun entry he => ht.filled entry (List.mem_of_mem_filter he)⟩
    · rename_i hfull
      refine ⟨Dict.ordered_insert ht.ordered _ _, ?_⟩
      intro entry he
      rcases Dict.mem_insert he with rfl | hm
      · exact fun hnil => hfull (List.isEmpty_iff.2 hnil)
      · exact ht.filled entry hm

/-! ### Agreement of the two lists -/

/-- The objects have handles of their own, and the index lists each of them once, under its folded
tag. -/
structure Indexed (r : Registry) : Prop where
  distinct : r.ids.Nodup
  valid : ∀ h ∈ r.ids, h.isValid = true
  tidy : Tidy r.tags
  mem_held : ∀ key h, h ∈ held r.tags key ↔ ∃ o ∈ r.objects, o.id = h ∧ tagKey o.tag = key
  once : ∀ key, (held r.tags key).Nodup

namespace Indexed

variable {r : Registry}

theorem lookup_eq_some (hr : r.Indexed) {h : Handle} {o : Object} :
    r.lookup h = some o ↔ o ∈ r.objects ∧ o.id = h := Registry.lookup_eq_some hr.distinct

theorem get?_eq_some (hr : r.Indexed) {h : Handle} {o : Object} :
    r.get? h = some o ↔ o ∈ r.objects ∧ o.id = h := by
  constructor
  · intro hg
    unfold get? at hg
    split at hg
    · exact hr.lookup_eq_some.1 hg
    · cases hg
  · intro ho
    have hv : h.isValid = true := hr.valid h (ho.2 ▸ List.mem_map_of_mem ho.1)
    rw [get?_of_valid hv]
    exact hr.lookup_eq_some.2 ho

theorem eq_of_id (hr : r.Indexed) {a b : Object} (ha : a ∈ r.objects) (hb : b ∈ r.objects)
    (h : a.id = b.id) : a = b := List.inj_on_of_nodup_map hr.distinct ha hb h

theorem mem_withTag (hr : r.Indexed) (tag : String) (h : Handle) :
    h ∈ r.withTag tag ↔ ∃ o ∈ r.objects, o.id = h ∧ tagKey o.tag = tagKey tag :=
  hr.mem_held (tagKey tag) h

end Indexed

theorem indexed_empty : Registry.empty.Indexed := by
  refine ⟨List.nodup_nil, fun h hh => ?_, ⟨List.Pairwise.nil, fun e he => ?_⟩, ?_,
    fun key => List.nodup_nil⟩
  · cases hh
  · cases he
  intro key h
  constructor
  · intro hh
    cases hh
  · rintro ⟨o, ho, -⟩
    cases ho

/-! ### Taking an object out -/

theorem filter_ids (objects : List Object) (h : Handle) :
    (objects.filter fun a => a.id ≠ h).map Object.id = (objects.map Object.id).filter (· ≠ h) := by
  rw [List.filter_map]
  rfl

theorem unregister_fst (r : Registry) (h : Handle) : (r.unregister h).1 = r.lookup h := by
  unfold unregister
  cases r.lookup h <;> rfl

@[simp] theorem unregister_issued (r : Registry) (h : Handle) :
    (r.unregister h).2.issued = r.issued := by
  unfold unregister
  cases r.lookup h <;> rfl

@[simp] theorem unregister_objects (r : Registry) (h : Handle) :
    (r.unregister h).2.objects = r.objects.filter fun a => a.id ≠ h := by
  unfold unregister
  cases hl : r.lookup h with
  | none =>
    have hno := lookup_eq_none.1 hl
    refine (List.filter_eq_self.2 ?_).symm
    intro a ha
    have hne : a.id ≠ h := fun he => hno (he ▸ List.mem_map_of_mem ha)
    simpa using hne
  | some o => rfl

theorem mem_unregister {r : Registry} {h : Handle} {o : Object} :
    o ∈ (r.unregister h).2.objects ↔ o ∈ r.objects ∧ o.id ≠ h := by
  rw [unregister_objects, List.mem_filter, decide_eq_true_eq]

theorem unregister_ids (r : Registry) (h : Handle) :
    (r.unregister h).2.ids = r.ids.filter (· ≠ h) := by
  unfold ids
  rw [unregister_objects, filter_ids]

theorem unregister_tidy {r : Registry} (ht : Tidy r.tags) (h : Handle) :
    Tidy (r.unregister h).2.tags := by
  unfold unregister
  cases r.lookup h with
  | none => exact ht
  | some o => exact ht.unindex _ _

theorem unregister_held {r : Registry} (hr : r.Indexed) (h : Handle) (key : String) :
    held (r.unregister h).2.tags key = (held r.tags key).filter (· ≠ h) := by
  have hother : ∀ k, (∀ o ∈ r.objects, o.id = h → tagKey o.tag ≠ k) →
      (held r.tags k).filter (· ≠ h) = held r.tags k := by
    intro k hk
    refine List.filter_eq_self.2 ?_
    intro a ha
    have hne : a ≠ h := by
      rintro rfl
      obtain ⟨o, ho, hid, ht⟩ := (hr.mem_held k a).1 ha
      exact hk o ho hid ht
    simpa using hne
  unfold unregister
  cases hl : r.lookup h with
  | none =>
    have hno := lookup_eq_none.1 hl
    exact (hother key fun o ho hid => absurd (hid ▸ List.mem_map_of_mem ho) hno).symm
  | some o =>
    obtain ⟨ho, hid⟩ := hr.lookup_eq_some.1 hl
    simp only
    rw [held_unindex]
    split
    · rfl
    · rename_i hne
      refine (hother key ?_).symm
      intro a ha haid ht
      rw [hr.eq_of_id ha ho (haid.trans hid.symm)] at ht
      exact hne ht.symm

theorem Indexed.unregister {r : Registry} (hr : r.Indexed) (h : Handle) :
    (r.unregister h).2.Indexed := by
  refine ⟨?_, ?_, unregister_tidy hr.tidy h, ?_, ?_⟩
  · rw [unregister_ids]
    exact hr.distinct.filter _
  · intro a ha
    rw [unregister_ids] at ha
    exact hr.valid a (List.mem_of_mem_filter ha)
  · intro key a
    rw [unregister_held hr, unregister_objects]
    simp only [List.mem_filter, hr.mem_held key a, decide_eq_true_eq]
    constructor
    · rintro ⟨⟨o, ho, rfl, ht⟩, hne⟩
      exact ⟨o, ⟨ho, hne⟩, rfl, ht⟩
    · rintro ⟨o, ⟨ho, hne⟩, rfl, ht⟩
      exact ⟨⟨o, ho, rfl, ht⟩, hne⟩
  · intro key
    rw [unregister_held hr]
    exact (hr.once key).filter _

/-! ### Putting an object at the end -/

/-- The handles under a folded tag after `h` has come to stand at the end of the list of `own`, and
nowhere else. -/
def moved (handles : List Handle) (h : Handle) (own key : String) : List Handle :=
  handles.filter (· ≠ h) ++ if key = own then [h] else []

theorem mem_moved {handles : List Handle} {h a : Handle} {own key : String} :
    a ∈ moved handles h own key ↔ a ∈ handles ∧ a ≠ h ∨ a = h ∧ key = own := by
  unfold moved
  split
  · rename_i hk
    simp [hk]
  · rename_i hk
    simp [hk]

theorem moved_nodup {handles : List Handle} (hn : handles.Nodup) (h : Handle) (own key : String) :
    (moved handles h own key).Nodup := by
  unfold moved
  refine List.Nodup.append (hn.filter _) (by split <;> simp) ?_
  intro a ha hb
  have hne : a ≠ h := by simpa using (List.mem_filter.1 ha).2
  split at hb
  · exact hne (List.mem_singleton.1 hb)
  · cases hb

theorem Indexed.place {r r' : Registry} (hr : r.Indexed) {o : Object} (hv : o.id.isValid = true)
    (hobjects : ∀ a, a ∈ r'.objects ↔ a ∈ r.objects ∧ a.id ≠ o.id ∨ a = o)
    (hdistinct : r'.ids.Nodup) (htidy : Tidy r'.tags)
    (hheld : ∀ key, held r'.tags key = moved (held r.tags key) o.id (tagKey o.tag) key) :
    r'.Indexed := by
  refine ⟨hdistinct, ?_, htidy, ?_, ?_⟩
  · intro h hh
    obtain ⟨a, ha, rfl⟩ := List.mem_map.1 hh
    rcases (hobjects a).1 ha with ⟨ha, -⟩ | rfl
    · exact hr.valid _ (List.mem_map_of_mem ha)
    · exact hv
  · intro key h
    rw [hheld, mem_moved, hr.mem_held]
    constructor
    · rintro (⟨⟨a, ha, rfl, ht⟩, hne⟩ | ⟨rfl, rfl⟩)
      · exact ⟨a, (hobjects a).2 (Or.inl ⟨ha, hne⟩), rfl, ht⟩
      · exact ⟨o, (hobjects o).2 (Or.inr rfl), rfl, rfl⟩
    · rintro ⟨a, ha, rfl, ht⟩
      rcases (hobjects a).1 ha with ⟨ha, hne⟩ | rfl
      · exact Or.inl ⟨⟨a, ha, rfl, ht⟩, hne⟩
      · exact Or.inr ⟨rfl, ht.symm⟩
  · intro key
    rw [hheld]
    exact moved_nodup (hr.once key) _ _ _

@[simp] theorem register_issued (r : Registry) (o : Object) :
    (r.register o).issued = r.issued := by
  unfold register
  split
  · exact unregister_issued r o.id
  · rfl

theorem register_objects (r : Registry) {o : Object} (hv : o.id.isValid = true) :
    (r.register o).objects = (r.objects.filter fun a => a.id ≠ o.id) ++ [o] := by
  simp only [register, hv, if_true, unregister_objects]

theorem register_invalid (r : Registry) {o : Object} (hv : o.id.isValid = false) :
    r.register o = r := by
  simp only [register, hv, Bool.false_eq_true, if_false]

theorem get?_register (r : Registry) {o : Object} (hv : o.id.isValid = true) :
    (r.register o).get? o.id = some o := by
  have hgone : (r.objects.filter fun a => a.id ≠ o.id).find? (fun a => a.id = o.id) = none := by
    simp [List.find?_eq_none]
  unfold get? lookup
  rw [if_pos hv, register_objects r hv, List.find?_append, hgone, Option.none_or]
  simp

theorem register_ids (r : Registry) {o : Object} (hv : o.id.isValid = true) :
    (r.register o).ids = r.ids.filter (· ≠ o.id) ++ [o.id] := by
  unfold ids
  rw [register_objects r hv, List.map_append, filter_ids]
  rfl

theorem register_held {r : Registry} (hr : r.Indexed) {o : Object} (hv : o.id.isValid = true)
    (key : String) :
    held (r.register o).tags key = moved (held r.tags key) o.id (tagKey o.tag) key := by
  simp only [register, hv, if_true]
  rw [held_index, unregister_held hr]
  unfold moved
  split
  · rfl
  · rw [List.append_nil]

theorem Indexed.register {r : Registry} (hr : r.Indexed) (o : Object) :
    (r.register o).Indexed := by
  cases hv : o.id.isValid with
  | false =>
    rw [register_invalid r hv]
    exact hr
  | true =>
    refine hr.place hv ?_ ?_ ?_ (register_held hr hv)
    · intro a
      rw [register_objects r hv]
      simp [or_comm]
    · rw [register_ids r hv]
      refine List.Nodup.append (hr.distinct.filter _) (by simp) ?_
      intro a ha hb
      have hne : a ≠ o.id := by simpa using (List.mem_filter.1 ha).2
      exact hne (List.mem_singleton.1 hb)
    · simp only [Registry.register, hv, if_true]
      exact (unregister_tidy hr.tidy o.id).index _ _

/-! ### Changing objects where they stand -/

theorem Indexed.map {r : Registry} (hr : r.Indexed) (f : Object → Object)
    (hid : ∀ a ∈ r.objects, (f a).id = a.id)
    (htag : ∀ a ∈ r.objects, tagKey (f a).tag = tagKey a.tag) :
    Indexed { r with objects := r.objects.map f } := by
  have hids : ({ r with objects := r.objects.map f } : Registry).ids = r.ids := by
    unfold ids
    rw [List.map_map]
    exact List.map_congr_left hid
  refine ⟨hids ▸ hr.distinct, hids ▸ hr.valid, hr.tidy, ?_, hr.once⟩
  intro key h
  rw [hr.mem_held]
  constructor
  · rintro ⟨a, ha, hh, ht⟩
    exact ⟨f a, List.mem_map_of_mem ha, (hid a ha).trans hh, (htag a ha).trans ht⟩
  · rintro ⟨b, hb, hh, ht⟩
    obtain ⟨a, ha, rfl⟩ := List.mem_map.1 hb
    exact ⟨a, ha, (hid a ha).symm.trans hh, (htag a ha).symm.trans ht⟩

@[simp] theorem update_issued (r : Registry) (h : Handle) (f : Object → Object) :
    (r.update h f).issued = r.issued := by
  unfold update
  split <;> rfl

@[simp] theorem update_tags (r : Registry) (h : Handle) (f : Object → Object) :
    (r.update h f).tags = r.tags := by
  unfold update
  split <;> rfl

theorem update_ids (r : Registry) (h : Handle) {f : Object → Object}
    (hf : ∀ o, (f o).id = o.id) : (r.update h f).ids = r.ids := by
  unfold update
  split
  · unfold ids
    rw [List.map_map]
    refine List.map_congr_left fun o _ => ?_
    simp only [Function.comp_apply]
    split
    · exact hf o
    · rfl
  · rfl

theorem update_objects {r : Registry} (hv : ∀ a ∈ r.ids, a.isValid = true) (h : Handle)
    (f : Object → Object) :
    (r.update h f).objects = r.objects.map fun o => if o.id = h then f o else o := by
  unfold update
  split
  · rfl
  · rename_i hh
    symm
    have hid : ∀ o ∈ r.objects, (if o.id = h then f o else o) = o := by
      intro o ho
      refine if_neg fun he => hh ?_
      exact he ▸ hv _ (List.mem_map_of_mem ho)
    rw [List.map_congr_left hid, List.map_id']

theorem Indexed.update {r : Registry} (hr : r.Indexed) (h : Handle) (f : Object → Object)
    (hf : ∀ o, (f o).id = o.id ∧ (f o).tag = o.tag) : (r.update h f).Indexed := by
  unfold Registry.update
  split
  · refine hr.map _ ?_ ?_
    · intro a _
      split
      · exact (hf a).1
      · rfl
    · intro a _
      split
      · rw [(hf a).2]
      · rfl
  · exact hr

/-! ### Giving an object another tag -/

theorem retag_objects (r : Registry) (h : Handle) (tag : String) :
    (r.retag h tag).2.objects = r.objects.map fun a => if a.id = h then a.setTag tag else a := by
  unfold retag
  cases hl : r.lookup h with
  | none =>
    have hno := lookup_eq_none.1 hl
    have hid : ∀ a ∈ r.objects, (if a.id = h then a.setTag tag else a) = a := by
      intro a ha
      have hne : a.id ≠ h := fun he => hno (he ▸ List.mem_map_of_mem ha)
      exact if_neg hne
    rw [List.map_congr_left hid, List.map_id']
  | some o =>
    simp only
    split <;> rfl

theorem retag_ids (r : Registry) (h : Handle) (tag : String) : (r.retag h tag).2.ids = r.ids := by
  unfold ids
  rw [retag_objects, List.map_map]
  refine List.map_congr_left fun a _ => ?_
  simp only [Function.comp_apply]
  split <;> rfl

theorem retag_issued (r : Registry) (h : Handle) (tag : String) :
    (r.retag h tag).2.issued = r.issued := by
  unfold retag
  cases r.lookup h with
  | none => rfl
  | some o =>
    simp only
    split <;> rfl

theorem retag_none {r : Registry} {h : Handle} (tag : String) (hl : r.lookup h = none) :
    (r.retag h tag).2 = r := by
  simp only [retag, hl]

theorem retag_tags_same {r : Registry} {h : Handle} {o : Object} {tag : String}
    (hl : r.lookup h = some o) (hk : tagKey o.tag = tagKey tag) :
    (r.retag h tag).2.tags = r.tags := by
  simp only [retag, hl, if_pos hk]

theorem retag_tidy {r : Registry} (ht : Tidy r.tags) (h : Handle) (tag : String) :
    Tidy (r.retag h tag).2.tags := by
  unfold retag
  cases r.lookup h with
  | none => exact ht
  | some o =>
    simp only
    split
    · exact ht
    · exact (ht.unindex _ _).index _ _

theorem retag_held {r : Registry} (hr : r.Indexed) {h : Handle} {o : Object} {tag : String}
    (hl : r.lookup h = some o) (hk : tagKey o.tag ≠ tagKey tag) (key : String) :
    held (r.retag h tag).2.tags key = moved (held r.tags key) h (tagKey tag) key := by
  have hout := unregister_held hr h key
  simp only [unregister, hl] at hout
  simp only [retag, hl, if_neg hk, held_index]
  unfold moved
  split
  · rw [hout]
  · rw [hout, List.append_nil]

theorem Indexed.retag {r : Registry} (hr : r.Indexed) (h : Handle) (tag : String) :
    (r.retag h tag).2.Indexed := by
  cases hl : r.lookup h with
  | none =>
    rw [retag_none tag hl]
    exact hr
  | some o =>
    obtain ⟨ho, rfl⟩ := hr.lookup_eq_some.1 hl
    by_cases hk : tagKey o.tag = tagKey tag
    · have heq : (r.retag o.id tag).2 =
          { r with objects := r.objects.map fun a => if a.id = o.id then a.setTag tag else a } := by
        simp only [Registry.retag, hl, if_pos hk]
      rw [heq]
      refine hr.map _ ?_ ?_
      · intro a _
        split <;> rfl
      · intro a ha
        split
        · rename_i he
          rw [hr.eq_of_id ha ho he, setTag_tag, hk]
        · rfl
    · have hv : (o.setTag tag).id.isValid = true := hr.valid o.id (List.mem_map_of_mem ho)
      refine hr.place hv ?_ (retag_ids r o.id tag ▸ hr.distinct) (retag_tidy hr.tidy _ _)
        (retag_held hr hl hk)
      intro a
      rw [retag_objects, List.mem_map]
      constructor
      · rintro ⟨b, hb, rfl⟩
        split
        · rename_i he
          exact Or.inr (by rw [hr.eq_of_id hb ho he])
        · rename_i hne
          exact Or.inl ⟨hb, hne⟩
      · rintro (⟨ha, hne⟩ | rfl)
        · exact ⟨a, ha, if_neg hne⟩
        · exact ⟨o, ho, if_pos rfl⟩

/-! ### Dropping everything -/

theorem indexed_clear (r : Registry) : r.clear.Indexed :=
  ⟨indexed_empty.distinct, indexed_empty.valid, indexed_empty.tidy, indexed_empty.mem_held,
    indexed_empty.once⟩

theorem Indexed.issue {r : Registry} (hr : r.Indexed) : r.issue.2.Indexed :=
  ⟨hr.distinct, hr.valid, hr.tidy, hr.mem_held, hr.once⟩

end Adventure.Registry

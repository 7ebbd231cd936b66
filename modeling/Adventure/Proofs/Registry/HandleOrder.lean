import Adventure.Proofs.Registry.TagOrder

/-!
# Handles in the order in which they are given out

Handles are numbered as they are given out. As long as the numbers last, a registry into which
objects come with ever newer handles lists them in ascending order, under every tag as well, and a
handle that is live later was live before or has been given out since.
-/

namespace Adventure

/-- The number under which a handle was given out. -/
def Handle.number (h : Handle) : Nat := h.raw.toNat

/-- Was the first handle given out before the second one? -/
abbrev Handle.Before (a b : Handle) : Prop := a.number < b.number

namespace Registry

open Handle (Before)

/-- The number of the handle that names nothing. -/
def limit : Nat := 4294967295

theorem number_handleOf {n : Nat} (h : n < 4294967296) : (handleOf n).number = n := by
  unfold Handle.number handleOf
  exact UInt32.toNat_ofNat_of_lt h

theorem number_of_newest {h : Handle} {n : Nat} (hid : h = handleOf (n + 1)) (hlt : n + 1 < limit) :
    h.number = n + 1 := by
  rw [hid]
  refine number_handleOf (hlt.trans ?_)
  unfold limit
  decide

theorem valid_of_number_lt {h : Handle} (hlt : h.number < limit) : h.isValid = true := by
  simp only [Handle.isValid, bne_iff_ne, ne_eq]
  rintro rfl
  exact absurd hlt (by decide)

theorem ids_congr {r r' : Registry} (hobjects : r'.objects = r.objects) : r'.ids = r.ids :=
  congrArg (List.map Object.id) hobjects

theorem ids_of_append {r r' : Registry} {os : List Object}
    (hobjects : r'.objects = r.objects ++ os) : r'.ids = r.ids ++ os.map Object.id := by
  unfold ids
  rw [hobjects, List.map_append]

theorem Indexed.congr {r r' : Registry} (hr : r.Indexed) (hobjects : r'.objects = r.objects)
    (htags : r'.tags = r.tags) : r'.Indexed := by
  have hids := ids_congr hobjects
  refine ⟨hids ▸ hr.distinct, hids ▸ hr.valid, htags ▸ hr.tidy, ?_, htags ▸ hr.once⟩
  rw [htags, hobjects]
  exact hr.mem_held

/-! ### Registries in order -/

theorem ascending_concat {hs : List Handle} {h : Handle} (hp : hs.Pairwise Before)
    (hnew : ∀ a ∈ hs, Before a h) : (hs ++ [h]).Pairwise Before := by
  rw [List.pairwise_append]
  refine ⟨hp, List.pairwise_singleton _ _, ?_⟩
  intro a ha b hb
  rw [List.mem_singleton.1 hb]
  exact hnew a ha

theorem ne_of_before {hs : List Handle} {h : Handle} (hnew : ∀ a ∈ hs, Before a h) :
    ∀ a ∈ hs, a ≠ h := by
  rintro a ha rfl
  exact Nat.lt_irrefl _ (hnew a ha)

/-- The live handles were given out, and stand in that order in the registry and under every tag. -/
structure Sound (r : Registry) : Prop where
  indexed : r.Indexed
  ordered : r.ids.Pairwise Before
  given : ∀ h ∈ r.ids, 0 < h.number ∧ h.number ≤ r.issued
  tagged : ∀ key, (held r.tags key).Pairwise Before

theorem sound_clear (r : Registry) : r.clear.Sound := by
  refine ⟨indexed_clear r, List.Pairwise.nil, ?_, fun key => List.Pairwise.nil⟩
  intro h hh
  cases hh

namespace Sound

variable {r : Registry}

theorem grow {r' : Registry} (hr : r.Sound) (hobjects : r'.objects = r.objects)
    (htags : r'.tags = r.tags) (hissued : r.issued ≤ r'.issued) : r'.Sound := by
  have hids := ids_congr hobjects
  refine ⟨hr.indexed.congr hobjects htags, hids ▸ hr.ordered, ?_, htags ▸ hr.tagged⟩
  rw [hids]
  intro h hh
  obtain ⟨hpos, hle⟩ := hr.given h hh
  exact ⟨hpos, hle.trans hissued⟩

theorem issue (hr : r.Sound) : r.issue.2.Sound := hr.grow rfl rfl (Nat.le_succ _)

theorem unregister (hr : r.Sound) (h : Handle) : (r.unregister h).2.Sound := by
  refine ⟨hr.indexed.unregister h, ?_, ?_, ?_⟩
  · rw [unregister_ids]
    exact hr.ordered.filter _
  · intro a ha
    rw [unregister_ids] at ha
    rw [unregister_issued]
    exact hr.given a (List.mem_of_mem_filter ha)
  · intro key
    rw [unregister_held hr.indexed]
    exact (hr.tagged key).filter _

theorem update (hr : r.Sound) (h : Handle) (f : Object → Object)
    (hf : ∀ o, (f o).id = o.id ∧ (f o).tag = o.tag) : (r.update h f).Sound := by
  have hids := update_ids r h fun o => (hf o).1
  refine ⟨hr.indexed.update h f hf, hids ▸ hr.ordered, ?_, ?_⟩
  · rw [hids, update_issued]
    exact hr.given
  · rw [update_tags]
    exact hr.tagged

theorem register_new {o : Object} (hv : o.id.isValid = true) (hnew : ∀ a ∈ r.ids, Before a o.id) :
    (r.register o).objects = r.objects ++ [o] := by
  have hkept : r.objects.filter (·.id ≠ o.id) = r.objects := by
    refine List.filter_eq_self.2 ?_
    intro a ha
    exact decide_eq_true (ne_of_before hnew a.id (List.mem_map_of_mem ha))
  rw [register_objects r hv, hkept]

theorem held_register_new (hr : r.Sound) {o : Object} (hv : o.id.isValid = true)
    (hnew : ∀ a ∈ r.ids, Before a o.id) (key : String) :
    (held (r.register o).tags key).Pairwise Before := by
  have hsub : ∀ a ∈ held r.tags key, a ∈ r.ids := by
    intro a ha
    obtain ⟨b, hb, rfl, -⟩ := (hr.indexed.mem_held key a).1 ha
    exact List.mem_map_of_mem hb
  have hbefore : ∀ a ∈ held r.tags key, Before a o.id := fun a ha => hnew a (hsub a ha)
  have hkept : (held r.tags key).filter (· ≠ o.id) = held r.tags key := by
    refine List.filter_eq_self.2 ?_
    intro a ha
    exact decide_eq_true (ne_of_before hbefore a ha)
  rw [register_held hr.indexed hv, moved, hkept]
  split
  · exact ascending_concat (hr.tagged key) hbefore
  · rw [List.append_nil]
    exact hr.tagged key

theorem register (hr : r.Sound) {o : Object} (hlimit : r.issued < limit) (hpos : 0 < o.id.number)
    (hle : o.id.number ≤ r.issued) (hnew : ∀ a ∈ r.ids, Before a o.id) :
    (r.register o).Sound ∧ (r.register o).objects = r.objects ++ [o] := by
  have hv : o.id.isValid = true := valid_of_number_lt (Nat.lt_of_le_of_lt hle hlimit)
  have hobjects := register_new hv hnew
  have hids : (r.register o).ids = r.ids ++ [o.id] := ids_of_append hobjects
  refine ⟨⟨hr.indexed.register o, ?_, ?_, hr.held_register_new hv hnew⟩, hobjects⟩
  · rw [hids]
    exact ascending_concat hr.ordered hnew
  · intro a ha
    rw [hids, List.mem_append, List.mem_singleton] at ha
    rw [register_issued]
    rcases ha with ha | rfl
    · exact hr.given a ha
    · exact ⟨hpos, hle⟩

theorem registerAll (hr : r.Sound) (hlimit : r.issued < limit) {os : List Object}
    (hgiven : ∀ o ∈ os, 0 < o.id.number ∧ o.id.number ≤ r.issued)
    (hnew : (r.ids ++ os.map Object.id).Pairwise Before) :
    (os.foldl Registry.register r).Sound ∧
      (os.foldl Registry.register r).objects = r.objects ++ os := by
  induction os generalizing r with
  | nil => exact ⟨hr, (List.append_nil _).symm⟩
  | cons o os ih =>
    have hfirst : ∀ a ∈ r.ids, Before a o.id := by
      intro a ha
      exact (List.pairwise_append.1 hnew).2.2 a ha o.id List.mem_cons_self
    obtain ⟨hpos, hle⟩ := hgiven o List.mem_cons_self
    obtain ⟨hsound, hobjects⟩ := hr.register hlimit hpos hle hfirst
    have hids : (r.register o).ids = r.ids ++ [o.id] := ids_of_append hobjects
    have hrest : ((r.register o).ids ++ os.map Object.id).Pairwise Before := by
      rw [hids, List.append_assoc]
      exact hnew
    have hgiven' : ∀ a ∈ os, 0 < a.id.number ∧ a.id.number ≤ (r.register o).issued := by
      intro a ha
      rw [register_issued]
      exact hgiven a (List.mem_cons_of_mem _ ha)
    have hall := ih hsound (by rwa [register_issued]) hgiven' hrest
    rw [hobjects, List.append_assoc] at hall
    exact hall

end Sound

/-! ### One registry after another -/

open Object (Same)

/-- Everything in the second registry is what something in the first one has become. -/
def Within (r r' : Registry) : Prop := ∀ o' ∈ r'.objects, ∃ o ∈ r.objects, Same o o'

theorem Within.refl (r : Registry) : Within r r := fun o ho => ⟨o, ho, .refl o⟩

theorem Within.ids {r r' : Registry} (h : Within r r') {a : Handle} (ha : a ∈ r'.ids) :
    a ∈ r.ids := by
  obtain ⟨o', ho', rfl⟩ := List.mem_map.1 ha
  obtain ⟨o, ho, hsame⟩ := h o' ho'
  rw [hsame.id]
  exact List.mem_map_of_mem ho

theorem within_update (r : Registry) (h : Handle) {f : Object → Object}
    (hf : ∀ o, Same o (f o)) : Within r (r.update h f) := by
  intro o' ho'
  unfold Registry.update at ho'
  split at ho'
  · obtain ⟨o, ho, rfl⟩ := List.mem_map.1 ho'
    refine ⟨o, ho, ?_⟩
    split
    · exact hf o
    · exact .refl o
  · exact ⟨o', ho', .refl o'⟩

/-- How registries follow each other: numbers only grow, order is kept, and an object of the later
one is what an object of the earlier one has become or has a handle that was given out since. The
tag index is kept right, and in the order of the registry, even beyond the last number. -/
structure Follows (r r' : Registry) : Prop where
  issued : r.issued ≤ r'.issued
  indexed : r.Indexed → r'.Indexed
  aligned : r.Indexed → r.Aligned → r'.Aligned
  sound : r.Sound → r'.issued < limit → r'.Sound
  live : r'.issued < limit → ∀ o' ∈ r'.objects,
    (∃ o ∈ r.objects, Same o o') ∨ r.issued < o'.id.number

namespace Follows

theorem within {r r' : Registry} (hissued : r.issued ≤ r'.issued)
    (hindexed : r.Indexed → r'.Indexed) (haligned : r.Indexed → r.Aligned → r'.Aligned)
    (hsound : r.Sound → r'.Sound) (h : Within r r') : Follows r r' :=
  ⟨hissued, hindexed, haligned, fun hr _ => hsound hr, fun _ o' ho' => Or.inl (h o' ho')⟩

theorem refl (r : Registry) : Follows r r :=
  .within (Nat.le_refl _) id (fun _ ha => ha) id (.refl r)

theorem trans {a b c : Registry} (hab : Follows a b) (hbc : Follows b c) : Follows a c := by
  refine ⟨hab.issued.trans hbc.issued, hbc.indexed ∘ hab.indexed, ?_, ?_, ?_⟩
  · exact fun hi ha => hbc.aligned (hab.indexed hi) (hab.aligned hi ha)
  · intro ha hlt
    have hmid : b.issued < limit := Nat.lt_of_le_of_lt hbc.issued hlt
    exact hbc.sound (hab.sound ha hmid) hlt
  · intro hlt o hc
    have hmid : b.issued < limit := Nat.lt_of_le_of_lt hbc.issued hlt
    rcases hbc.live hlt o hc with ⟨o₁, hb, hsame⟩ | hnew
    · rcases hab.live hmid o₁ hb with ⟨o₀, ha, hsame₀⟩ | hnew
      · exact Or.inl ⟨o₀, ha, hsame₀.trans hsame⟩
      · exact Or.inr (hsame.id ▸ hnew)
    · exact Or.inr (Nat.lt_of_le_of_lt hab.issued hnew)

theorem gone {r r' : Registry} (h : Follows r r') (hlimit : r'.issued < limit) {a : Handle}
    (hgiven : a.number ≤ r.issued) (hgone : a ∉ r.ids) : a ∉ r'.ids := by
  intro ha
  obtain ⟨o', ho', rfl⟩ := List.mem_map.1 ha
  rcases h.live hlimit o' ho' with ⟨o, ho, hsame⟩ | hnew
  · exact hgone (hsame.id ▸ List.mem_map_of_mem ho)
  · exact Nat.not_lt_of_le hgiven hnew

theorem issue (r : Registry) : Follows r r.issue.2 :=
  .within (Nat.le_succ _) Indexed.issue (fun _ ha => ha.congr rfl rfl) Sound.issue (.refl r)

theorem unregister (r : Registry) (h : Handle) : Follows r (r.unregister h).2 := by
  refine .within (Nat.le_of_eq (unregister_issued r h).symm) (·.unregister h)
    (fun hi ha => ha.unregister hi h) (·.unregister h) ?_
  intro o ho
  rw [unregister_objects] at ho
  exact ⟨o, List.mem_of_mem_filter ho, .refl o⟩

theorem clear (r : Registry) : Follows r r.clear := by
  refine .within (Nat.le_refl _) (fun _ => indexed_clear r) (fun _ _ => .clear r)
    (fun _ => sound_clear r) ?_
  intro o ho
  cases ho

theorem update (r : Registry) (h : Handle) (f : Object → Object) (hf : ∀ o, Same o (f o)) :
    Follows r (r.update h f) :=
  have hkeeps : ∀ o, (f o).id = o.id ∧ (f o).tag = o.tag := fun o => ⟨(hf o).id, (hf o).tag⟩
  .within (Nat.le_of_eq (update_issued r h f).symm) (·.update h f hkeeps)
    (fun _ ha => ha.update h hkeeps) (·.update h f hkeeps) (within_update r h hf)

theorem mem_registerAll {r : Registry} {os : List Object} {a : Object}
    (ha : a ∈ (os.foldl Registry.register r).objects) : a ∈ r.objects ∨ a ∈ os := by
  induction os generalizing r with
  | nil => exact Or.inl ha
  | cons o os ih =>
    rw [List.mem_cons]
    rcases ih ha with hm | hm
    · cases hv : o.id.isValid with
      | false =>
        rw [register_invalid r hv] at hm
        exact Or.inl hm
      | true =>
        rw [register_objects r hv, List.mem_append, List.mem_singleton] at hm
        rcases hm with hm | hm
        · exact Or.inl (List.mem_of_mem_filter hm)
        · exact Or.inr (Or.inl hm)
    · exact Or.inr (Or.inr hm)

theorem registerAll_issued (os : List Object) (r : Registry) :
    (os.foldl Registry.register r).issued = r.issued := by
  induction os generalizing r with
  | nil => rfl
  | cons o os ih => exact (ih (r.register o)).trans (register_issued r o)

theorem registerAll_indexed (os : List Object) {r : Registry} (hr : r.Indexed) :
    (os.foldl Registry.register r).Indexed := by
  induction os generalizing r with
  | nil => exact hr
  | cons o os ih => exact ih (hr.register o)

theorem registerAll {r₀ r : Registry} {os : List Object} (h : Follows r₀ r) (hin : Within r₀ r)
    (hos : r.issued < limit → (os.map Object.id).Pairwise Before ∧
      ∀ o ∈ os, r₀.issued < o.id.number ∧ o.id.number ≤ r.issued) :
    Follows r₀ (os.foldl Registry.register r) := by
  refine ⟨?_, fun hr₀ => registerAll_indexed os (h.indexed hr₀), ?_, ?_, ?_⟩
  · rw [registerAll_issued]
    exact h.issued
  · exact fun hr₀ ha => (h.aligned hr₀ ha).registerAll (h.indexed hr₀) os
  · intro hr₀ hlt
    rw [registerAll_issued] at hlt
    obtain ⟨hordered, hgiven⟩ := hos hlt
    have hr := h.sound hr₀ hlt
    refine (hr.registerAll hlt ?_ ?_).1
    · intro o ho
      obtain ⟨hlo, hhi⟩ := hgiven o ho
      exact ⟨by omega, hhi⟩
    · rw [List.pairwise_append]
      refine ⟨hr.ordered, hordered, ?_⟩
      intro a ha b hb
      obtain ⟨o, ho, rfl⟩ := List.mem_map.1 hb
      have hold := (hr₀.given a (hin.ids ha)).2
      have hnew := (hgiven o ho).1
      exact Nat.lt_of_le_of_lt hold hnew
  · intro hlt o ho
    rw [registerAll_issued] at hlt
    rcases mem_registerAll ho with hm | hm
    · exact Or.inl (hin o hm)
    · exact Or.inr ((hos hlt).2 o hm).1

end Follows

end Registry

end Adventure

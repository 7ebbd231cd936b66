import Adventure.Proofs.World.Order

/-!
# The cross-references of a world

A world names objects outside the registry: its areas by resource name, its module, the player's
creature; and objects name the area they are in. `Linked` says that all of these name live objects
of the right kind and that no area and no module is left out. Every operation keeps the world
linked, as long as the handles last.
-/

namespace Adventure.World

open Object (Kin Same same_area resref?_isSome area?_isSome ne_of_isGameObject)
open Registry (mem_unregister update_objects)

/-- Everything the world says about objects is true of live ones. -/
structure Linked (w : World) : Prop where
  sound : w.registry.Sound
  keys : w.areas.Ordered
  values : w.areas.values.Nodup
  /-- An area stands under its own resource name in small letters. -/
  named : ∀ entry ∈ w.areas, ∃ o ∈ w.registry.objects,
    o.id = entry.2 ∧ o.resref?.map Text.asciiLower = some entry.1
  listed : ∀ o ∈ w.registry.objects, o.kind = .area → o.id ∈ w.areas.values
  module : w.moduleId.isValid = true → ∃ o ∈ w.registry.objects, o.id = w.moduleId ∧ o.kind = .module
  only : ∀ o ∈ w.registry.objects, o.kind = .module → o.id = w.moduleId
  placed : ∀ o ∈ w.registry.objects, ∀ a, o.area = some a →
    ∃ b ∈ w.registry.objects, b.id = a ∧ b.kind = .area
  game : ∀ o ∈ w.registry.objects, ∀ a, o.area = some a → o.kind.isGameObject = true
  player : ∀ p, w.pc = some p → ∃ o ∈ w.registry.objects, o.id = p ∧ o.isPc = true

namespace Linked

variable {w w' : World}

theorem kind_area_of_resref {o : Object} {key : String}
    (h : o.resref?.map Text.asciiLower = some key) : o.kind = .area := by
  rw [← resref?_isSome]
  obtain ⟨name, hn, -⟩ := Option.map_eq_some_iff.1 h
  rw [hn]
  rfl

theorem mem_values (hl : Linked w) {a : Handle} :
    a ∈ w.areas.values ↔ ∃ o ∈ w.registry.objects, o.id = a ∧ o.kind = .area := by
  constructor
  · intro ha
    obtain ⟨entry, he, rfl⟩ := List.mem_map.1 ha
    obtain ⟨o, ho, hid, hname⟩ := hl.named entry he
    exact ⟨o, ho, hid, kind_area_of_resref hname⟩
  · rintro ⟨o, ho, rfl, hkind⟩
    exact hl.listed o ho hkind

theorem isArea_iff (hs : w.registry.Sound) (a : Handle) :
    w.isArea a = true ↔ ∃ o ∈ w.registry.objects, o.id = a ∧ o.kind = .area := by
  unfold isArea get?
  constructor
  · intro h
    obtain ⟨area, ha⟩ := Option.isSome_iff_exists.1 h
    obtain ⟨o, hg, ho⟩ := Option.bind_eq_some_iff.1 ha
    obtain ⟨hmem, hid⟩ := hs.indexed.get?_eq_some.1 hg
    refine ⟨o, hmem, hid, ?_⟩
    rw [← area?_isSome, ho]
    rfl
  · rintro ⟨o, ho, hid, hkind⟩
    rw [hs.indexed.get?_eq_some.2 ⟨ho, hid⟩, Option.bind_some]
    exact (area?_isSome o).2 hkind

theorem same (hl : Linked w) {a b : Object} (ha : a ∈ w.registry.objects)
    (hb : b ∈ w.registry.objects) (h : a.id = b.id) : a = b := hl.sound.indexed.eq_of_id ha hb h

theorem congr (hl : Linked w) (hregistry : w'.registry = w.registry) (hareas : w'.areas = w.areas)
    (hmodule : w'.moduleId = w.moduleId) (hpc : w'.pc = w.pc) : Linked w' := by
  refine ⟨hregistry ▸ hl.sound, hareas ▸ hl.keys, hareas ▸ hl.values, ?_, ?_, ?_, ?_, ?_, ?_, ?_⟩
  · rw [hareas, hregistry]
    exact hl.named
  · rw [hareas, hregistry]
    exact hl.listed
  · rw [hmodule, hregistry]
    exact hl.module
  · rw [hmodule, hregistry]
    exact hl.only
  · rw [hregistry]
    exact hl.placed
  · rw [hregistry]
    exact hl.game
  · rw [hpc, hregistry]
    exact hl.player

theorem choose (hl : Linked w) {p : Handle}
    (hp : ∃ o ∈ w.registry.objects, o.id = p ∧ o.isPc = true) : Linked { w with pc := some p } := by
  refine ⟨hl.sound, hl.keys, hl.values, hl.named, hl.listed, hl.module, hl.only, hl.placed, hl.game,
    ?_⟩
  intro q hq
  cases hq
  exact hp

/-! ### Changing objects in place -/

/-- Objects change where they stand and stay the same. A new place is a live area, and only game
objects come to one. -/
theorem map (hl : Linked w) (g : Object → Object) (hs : w'.registry.Sound)
    (hobjects : w'.registry.objects = w.registry.objects.map g) (hareas : w'.areas = w.areas)
    (hmodule : w'.moduleId = w.moduleId) (hpc : w'.pc = w.pc) (hsame : ∀ o, Same o (g o))
    (hresref : ∀ o, (g o).resref? = o.resref?) (hisPc : ∀ o, o.isPc = true → (g o).isPc = true)
    (harea : ∀ o ∈ w.registry.objects, ∀ a, (g o).area = some a → o.area = some a ∨
      o.kind.isGameObject = true ∧ ∃ b ∈ w.registry.objects, b.id = a ∧ b.kind = .area) :
    Linked w' := by
  have hmem : ∀ {o}, o ∈ w.registry.objects → g o ∈ w'.registry.objects := by
    intro o ho
    rw [hobjects]
    exact List.mem_map_of_mem ho
  have hmem' : ∀ {o'}, o' ∈ w'.registry.objects → ∃ o ∈ w.registry.objects, g o = o' := by
    intro o' ho'
    rw [hobjects] at ho'
    exact List.mem_map.1 ho'
  have hlive : ∀ {a}, (∃ b ∈ w.registry.objects, b.id = a ∧ b.kind = .area) →
      ∃ b ∈ w'.registry.objects, b.id = a ∧ b.kind = .area := by
    rintro a ⟨b, hb, hba, hbk⟩
    exact ⟨g b, hmem hb, (hsame b).id.trans hba, (hsame b).kind.trans hbk⟩
  refine ⟨hs, hareas ▸ hl.keys, hareas ▸ hl.values, ?_, ?_, ?_, ?_, ?_, ?_, ?_⟩
  · intro entry he
    rw [hareas] at he
    obtain ⟨o, ho, hid, hname⟩ := hl.named entry he
    exact ⟨g o, hmem ho, (hsame o).id.trans hid, (hresref o).symm ▸ hname⟩
  · intro o' ho' hk
    obtain ⟨o, ho, rfl⟩ := hmem' ho'
    rw [hareas, (hsame o).id]
    exact hl.listed o ho ((hsame o).kind.symm.trans hk)
  · intro hv
    rw [hmodule] at hv ⊢
    obtain ⟨o, ho, hid, hk⟩ := hl.module hv
    exact ⟨g o, hmem ho, (hsame o).id.trans hid, (hsame o).kind.trans hk⟩
  · intro o' ho' hk
    obtain ⟨o, ho, rfl⟩ := hmem' ho'
    rw [hmodule, (hsame o).id]
    exact hl.only o ho ((hsame o).kind.symm.trans hk)
  · intro o' ho' a ha
    obtain ⟨o, ho, rfl⟩ := hmem' ho'
    rcases harea o ho a ha with hold | ⟨-, hb⟩
    · exact hlive (hl.placed o ho a hold)
    · exact hlive hb
  · intro o' ho' a ha
    obtain ⟨o, ho, rfl⟩ := hmem' ho'
    rw [(hsame o).kind]
    rcases harea o ho a ha with hold | ⟨hgame, -⟩
    · exact hl.game o ho a hold
    · exact hgame
  · intro p hp
    rw [hpc] at hp
    obtain ⟨o, ho, hid, ho'⟩ := hl.player p hp
    exact ⟨g o, hmem ho, (hsame o).id.trans hid, hisPc o ho'⟩

theorem update (hl : Linked w) (h : Handle) {f : Object → Object} (hsame : ∀ o, Same o (f o))
    (hresref : ∀ o, (f o).resref? = o.resref?) (hisPc : ∀ o, o.isPc = true → (f o).isPc = true)
    (harea : ∀ o ∈ w.registry.objects, o.id = h → ∀ a, (f o).area = some a → o.area = some a ∨
      o.kind.isGameObject = true ∧ ∃ b ∈ w.registry.objects, b.id = a ∧ b.kind = .area) :
    Linked (w.update h f) := by
  have hs : (w.update h f).registry.Sound :=
    hl.sound.update h f fun o => ⟨(hsame o).id, (hsame o).tag⟩
  refine hl.map (fun o => if o.id = h then f o else o) hs
    (update_objects hl.sound.indexed.valid h f) rfl rfl rfl ?_ ?_ ?_ ?_
  · intro o
    split
    · exact hsame o
    · exact .refl o
  · intro o
    split
    · exact hresref o
    · rfl
  · intro o ho
    split
    · exact hisPc o ho
    · exact ho
  · intro o ho a ha
    split at ha
    · rename_i hid
      exact harea o ho hid a ha
    · exact Or.inl ha

theorem place (hl : Linked w) (h : Handle) {f : Object → Object} (target : Option Handle)
    (hf : ∀ o, Kin { o with area := target } (f o))
    (hgame : ∀ o ∈ w.registry.objects, o.id = h → ∀ a, target = some a →
      o.kind.isGameObject = true ∧ ∃ b ∈ w.registry.objects, b.id = a ∧ b.kind = .area) :
    Linked (w.update h f) := by
  refine hl.update h (fun o => (same_area o target).trans (hf o).same) (fun o => (hf o).resref)
    (fun o ho => (hf o).isPc.trans ho) ?_
  intro o ho hid a ha
  exact Or.inr (hgame o ho hid a ((hf o).area.symm.trans ha))

theorem kin (hl : Linked w) (h : Handle) {f : Object → Object} (hf : ∀ o, Kin o (f o)) :
    Linked (w.update h f) := by
  refine hl.update h (fun o => (hf o).same) (fun o => (hf o).resref)
    (fun o ho => (hf o).isPc.trans ho) ?_
  intro o _ _ a ha
  exact Or.inl ((hf o).area.symm.trans ha)

/-! ### Objects that come and go -/

/-- Objects come: areas with their entries, the module where there was none, and game objects. -/
theorem extend (hl : Linked w) {news : List Object} (hs : w'.registry.Sound)
    (hobjects : w'.registry.objects = w.registry.objects ++ news)
    (hkeys : w'.areas.Ordered) (hvalues : w'.areas.values.Nodup)
    (hentries : ∀ entry, entry ∈ w'.areas ↔ entry ∈ w.areas ∨ ∃ o ∈ news,
      o.id = entry.2 ∧ o.resref?.map Text.asciiLower = some entry.1)
    (hmodule : w'.moduleId = w.moduleId ∨
      w.moduleId.isValid = false ∧ ∃ o ∈ news, o.id = w'.moduleId ∧ o.kind = .module)
    (honly : ∀ o ∈ news, o.kind = .module → o.id = w'.moduleId)
    (hplaced : ∀ o ∈ news, ∀ a, o.area = some a →
      o.kind.isGameObject = true ∧ ∃ b ∈ w'.registry.objects, b.id = a ∧ b.kind = .area)
    (hpc : w'.pc = w.pc) : Linked w' := by
  have hmem : ∀ {o}, o ∈ w'.registry.objects ↔ o ∈ w.registry.objects ∨ o ∈ news := by
    intro o
    rw [hobjects, List.mem_append]
  refine ⟨hs, hkeys, hvalues, ?_, ?_, ?_, ?_, ?_, ?_, ?_⟩
  · intro entry he
    rcases (hentries entry).1 he with he | ⟨o, ho, hname⟩
    · obtain ⟨o, ho, hname⟩ := hl.named entry he
      exact ⟨o, hmem.2 (Or.inl ho), hname⟩
    · exact ⟨o, hmem.2 (Or.inr ho), hname⟩
  · intro o ho hk
    rcases hmem.1 ho with ho | ho
    · obtain ⟨entry, he, hid⟩ := List.mem_map.1 (hl.listed o ho hk)
      exact List.mem_map.2 ⟨entry, (hentries entry).2 (Or.inl he), hid⟩
    · obtain ⟨name, hname⟩ := Option.isSome_iff_exists.1 ((resref?_isSome o).2 hk)
      have he := (hentries (Text.asciiLower name, o.id)).2
        (Or.inr ⟨o, ho, rfl, by rw [hname, Option.map_some]⟩)
      exact List.mem_map.2 ⟨_, he, rfl⟩
  · intro hv
    rcases hmodule with hold | ⟨-, o, ho, hid, hk⟩
    · rw [hold] at hv ⊢
      obtain ⟨o, ho, hid, hk⟩ := hl.module hv
      exact ⟨o, hmem.2 (Or.inl ho), hid, hk⟩
    · exact ⟨o, hmem.2 (Or.inr ho), hid, hk⟩
  · intro o ho hk
    rcases hmem.1 ho with ho | ho
    · rcases hmodule with hold | ⟨hnone, -⟩
      · rw [hold]
        exact hl.only o ho hk
      · have hvalid := hl.sound.indexed.valid o.id (List.mem_map_of_mem ho)
        rw [hl.only o ho hk, hnone] at hvalid
        cases hvalid
    · exact honly o ho hk
  · intro o ho a ha
    rcases hmem.1 ho with ho | ho
    · obtain ⟨b, hb, hba, hbk⟩ := hl.placed o ho a ha
      exact ⟨b, hmem.2 (Or.inl hb), hba, hbk⟩
    · exact (hplaced o ho a ha).2
  · intro o ho a ha
    rcases hmem.1 ho with ho | ho
    · exact hl.game o ho a ha
    · exact (hplaced o ho a ha).1
  · intro p hp
    rw [hpc] at hp
    obtain ⟨o, ho, hid, hisPc⟩ := hl.player p hp
    exact ⟨o, hmem.2 (Or.inl ho), hid, hisPc⟩

theorem add (hl : Linked w) {o : Object} (hs : w'.registry.Sound)
    (hobjects : w'.registry.objects = w.registry.objects ++ [o]) (hareas : w'.areas = w.areas)
    (hmodule : w'.moduleId = w.moduleId) (hpc : w'.pc = w.pc)
    (hgame : o.kind.isGameObject = true)
    (harea : ∀ a, o.area = some a → ∃ b ∈ w.registry.objects, b.id = a ∧ b.kind = .area) :
    Linked w' := by
  obtain ⟨hnoArea, hnoModule⟩ := ne_of_isGameObject hgame
  refine hl.extend hs hobjects (hareas ▸ hl.keys) (hareas ▸ hl.values) ?_ (Or.inl hmodule) ?_ ?_ hpc
  · intro entry
    rw [hareas]
    refine ⟨Or.inl, ?_⟩
    rintro (he | ⟨b, hb, -, hname⟩)
    · exact he
    · rw [List.mem_singleton.1 hb] at hname
      exact absurd (kind_area_of_resref hname) hnoArea
  · intro b hb hk
    rw [List.mem_singleton.1 hb] at hk
    exact absurd hk hnoModule
  · intro b hb a ha
    rw [List.mem_singleton.1 hb] at ha ⊢
    obtain ⟨c, hc, hca, hck⟩ := harea a ha
    exact ⟨hgame, c, hobjects ▸ List.mem_append_left _ hc, hca, hck⟩

/-- An object goes that is not the module, that nothing is in and that is not the player's creature
any more, and its entry goes with it. -/
theorem shrink (hl : Linked w) (h : Handle)
    (hregistry : w'.registry = (w.registry.unregister h).2)
    (hareas : w'.areas = w.areas.filter fun entry => entry.2 ≠ h)
    (hmodule : w'.moduleId = w.moduleId)
    (hkind : ∀ o ∈ w.registry.objects, o.id = h → o.kind ≠ .module)
    (hempty : ∀ o ∈ w.registry.objects, o.area ≠ some h)
    (hplayer : ∀ p, w'.pc = some p → p ≠ h ∧ ∃ o ∈ w.registry.objects, o.id = p ∧ o.isPc = true) :
    Linked w' := by
  have hmem : ∀ {o}, o ∈ w'.registry.objects ↔ o ∈ w.registry.objects ∧ o.id ≠ h := by
    intro o
    rw [hregistry, mem_unregister]
  refine ⟨?_, ?_, ?_, ?_, ?_, ?_, ?_, ?_, ?_, ?_⟩
  · rw [hregistry]
    exact hl.sound.unregister h
  · rw [hareas]
    exact List.Pairwise.filter _ hl.keys
  · rw [hareas]
    exact hl.values.sublist (List.Sublist.map _ List.filter_sublist)
  · intro entry he
    rw [hareas, List.mem_filter, decide_eq_true_eq] at he
    obtain ⟨o, ho, hid, hname⟩ := hl.named entry he.1
    exact ⟨o, hmem.2 ⟨ho, hid ▸ he.2⟩, hid, hname⟩
  · intro o ho hk
    obtain ⟨ho, hne⟩ := hmem.1 ho
    obtain ⟨entry, he, hid⟩ := List.mem_map.1 (hl.listed o ho hk)
    rw [hareas]
    refine List.mem_map.2 ⟨entry, List.mem_filter.2 ⟨he, ?_⟩, hid⟩
    rw [hid]
    exact decide_eq_true hne
  · intro hv
    rw [hmodule] at hv ⊢
    obtain ⟨o, ho, hid, hk⟩ := hl.module hv
    exact ⟨o, hmem.2 ⟨ho, fun he => hkind o ho he hk⟩, hid, hk⟩
  · intro o ho hk
    rw [hmodule]
    exact hl.only o (hmem.1 ho).1 hk
  · intro o ho a ha
    obtain ⟨ho, -⟩ := hmem.1 ho
    obtain ⟨b, hb, hba, hbk⟩ := hl.placed o ho a ha
    refine ⟨b, hmem.2 ⟨hb, ?_⟩, hba, hbk⟩
    intro he
    exact hempty o ho (by rw [ha, ← hba, he])
  · intro o ho a ha
    exact hl.game o (hmem.1 ho).1 a ha
  · intro p hp
    obtain ⟨hne, o, ho, hid, hpc⟩ := hplayer p hp
    exact ⟨o, hmem.2 ⟨ho, fun he => hne (hid.symm.trans he)⟩, hid, hpc⟩

theorem drop (hl : Linked w) (h : Handle)
    (hregistry : w'.registry = (w.registry.unregister h).2) (hareas : w'.areas = w.areas)
    (hmodule : w'.moduleId = w.moduleId)
    (hgame : ∀ o ∈ w.registry.objects, o.id = h → o.kind.isGameObject = true)
    (hplayer : ∀ p, w'.pc = some p → p ≠ h ∧ ∃ o ∈ w.registry.objects, o.id = p ∧ o.isPc = true) :
    Linked w' := by
  have hnoArea : ∀ b ∈ w.registry.objects, b.kind = .area → b.id ≠ h := by
    intro b hb hk hid
    exact (ne_of_isGameObject (hgame b hb hid)).1 hk
  refine hl.shrink h hregistry ?_ hmodule ?_ ?_ hplayer
  · rw [hareas]
    refine (List.filter_eq_self.2 ?_).symm
    intro entry he
    obtain ⟨b, hb, hid, hname⟩ := hl.named entry he
    rw [← hid]
    exact decide_eq_true (hnoArea b hb (kind_area_of_resref hname))
  · intro o ho hid
    exact (ne_of_isGameObject (hgame o ho hid)).2
  · intro o ho ha
    obtain ⟨b, hb, hid, hk⟩ := hl.placed o ho h ha
    exact hnoArea b hb hk hid

end Linked

end Adventure.World

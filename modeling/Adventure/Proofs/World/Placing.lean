import Adventure.Proofs.Object.Loading
import Adventure.Proofs.Registry.HandleOrder
import Adventure.World.Areas

/-!
# Placing the objects of an area

While an area is built, handles are given out one after the other and some of the instances fail, so
that their handles are lost. The objects that come of it have ever newer handles all the same; they
are registered together, the area first.
-/

namespace Adventure.World

open Handle (Before)
open Object (kin_mapArea loadArea_keeps placedKind_blank placedKind_isGameObject
  built_loadInstance resref_addObject)
open Registry (limit handleOf)

/-! ### Objects with ever newer handles -/

/-- The handles of the objects were given out one after the other, after number `low` and up to
number `high`. -/
structure Numbered (low high : Nat) (os : List Object) : Prop where
  ordered : (os.map Object.id).Pairwise Before
  given : ∀ o ∈ os, low < o.id.number ∧ o.id.number ≤ high

namespace Numbered

theorem nil (low high : Nat) : Numbered low high [] := by
  refine ⟨List.Pairwise.nil, ?_⟩
  intro o ho
  cases ho

theorem single {o : Object} {low high : Nat} (hlow : low < o.id.number)
    (hhigh : o.id.number ≤ high) : Numbered low high [o] := by
  refine ⟨List.pairwise_singleton _ _, ?_⟩
  intro a ha
  rw [List.mem_singleton.1 ha]
  exact ⟨hlow, hhigh⟩

theorem append {low mid high : Nat} {os news : List Object} (h : Numbered low mid os)
    (hnew : Numbered mid high news) (hle : low ≤ mid) (hle' : mid ≤ high) :
    Numbered low high (os ++ news) := by
  refine ⟨?_, ?_⟩
  · rw [List.map_append, List.pairwise_append]
    refine ⟨h.ordered, hnew.ordered, ?_⟩
    intro a ha b hb
    obtain ⟨o, ho, rfl⟩ := List.mem_map.1 ha
    obtain ⟨o', ho', rfl⟩ := List.mem_map.1 hb
    exact Nat.lt_of_le_of_lt (h.given o ho).2 (hnew.given o' ho').1
  · intro o ho
    rcases List.mem_append.1 ho with ho | ho
    · obtain ⟨hlo, hhi⟩ := h.given o ho
      exact ⟨hlo, hhi.trans hle'⟩
    · obtain ⟨hlo, hhi⟩ := hnew.given o ho
      exact ⟨Nat.lt_of_le_of_lt hle hlo, hhi⟩

end Numbered

/-! ### Placing -/

/-- An object as it is placed in an area: a game object in it that talks to nobody and is not
shown. -/
structure Placed (area : Handle) (o : Object) : Prop where
  area : o.area = some area
  game : o.kind.isGameObject = true
  pcSpeaker : o.pcSpeaker = none
  hidden : o.isShown = false

/-- What placing objects does: it gives out handles and adds objects with them. -/
structure Placing.Adds (area : Handle) (p p' : Placing) (news : List Object) : Prop where
  objects : p'.registry.objects = p.registry.objects
  tags : p'.registry.tags = p.registry.tags
  issued : p.registry.issued ≤ p'.registry.issued
  placed : p'.placed = p.placed ++ news
  each : ∀ o ∈ news, Placed area o
  numbered : p'.registry.issued < limit → Numbered p.registry.issued p'.registry.issued news

namespace Placing

theorem adds_add (lib : Library) (area : Handle) (p : Placing) (kind : Object.PlacedKind)
    (placed : Record) : ∃ news, Adds area p (p.add lib area kind placed) news := by
  unfold add
  simp only [Registry.issue]
  split
  · rename_i o models hload
    have hbuilt := built_loadInstance hload
    refine ⟨[{ o with area := some area }], rfl, rfl, Nat.le_succ _, rfl, ?_, ?_⟩
    · intro a ha
      rw [List.mem_singleton.1 ha]
      refine ⟨rfl, ?_, hbuilt.pcSpeaker, hbuilt.not_shown⟩
      have hkind : o.kind = kind.kind := hbuilt.kind.trans (placedKind_blank kind)
      show o.kind.isGameObject = true
      rw [hkind]
      exact placedKind_isGameObject kind
    · intro hlt
      have hid : o.id = handleOf (p.registry.issued + 1) := hbuilt.id
      have hnumber := Registry.number_of_newest hid hlt
      exact .single (Nat.lt_of_lt_of_eq (Nat.lt_succ_self _) hnumber.symm) (Nat.le_of_eq hnumber)
  -- An instance that fails has used up its handle all the same.
  · refine ⟨[], rfl, rfl, Nat.le_succ _, (List.append_nil _).symm, ?_, fun _ => .nil _ _⟩
    intro a ha
    cases ha

theorem adds_foldl (lib : Library) (area : Handle) (l : List (Object.PlacedKind × Record))
    (p : Placing) :
    ∃ news, Adds area p (l.foldl (fun p (kind, placed) => p.add lib area kind placed) p) news := by
  induction l generalizing p with
  | nil =>
    refine ⟨[], rfl, rfl, Nat.le_refl _, (List.append_nil _).symm, ?_, fun _ => .nil _ _⟩
    intro a ha
    cases ha
  | cons entry l ih =>
    obtain ⟨first, hfirst⟩ := adds_add lib area p entry.1 entry.2
    obtain ⟨rest, hrest⟩ := ih (p.add lib area entry.1 entry.2)
    refine ⟨first ++ rest, hrest.objects.trans hfirst.objects, hrest.tags.trans hfirst.tags,
      hfirst.issued.trans hrest.issued, ?_, ?_, ?_⟩
    · rw [List.foldl_cons, hrest.placed, hfirst.placed, List.append_assoc]
    · intro o ho
      rcases List.mem_append.1 ho with ho | ho
      · exact hfirst.each o ho
      · exact hrest.each o ho
    · intro hlt
      have hmid := Nat.lt_of_le_of_lt hrest.issued hlt
      exact (hfirst.numbered hmid).append (hrest.numbered hlt) hfirst.issued hrest.issued

end Placing

/-! ### Areas -/

theorem resref_addObjects (os : List Object) (a : Area) :
    (os.foldl (fun a o => a.addObject o.id) a).resref = a.resref := by
  induction os generalizing a with
  | nil => rfl
  | cons o os ih => exact (ih _).trans (resref_addObject a o.id)

/-- What a world is after an area has been put into it: the area and the objects placed in it have
been registered, all of them with handles given out meanwhile. -/
structure AreaAdded (w : World) (resref : String) (h : Handle) (w' : World) (area : Object)
    (placed : List Object) (r : Registry) : Prop where
  handle : h = handleOf (w.registry.issued + 1)
  id : area.id = h
  unplaced : area.area = none
  named : area.resref? = some resref
  each : ∀ o ∈ placed, Placed h o
  objects : r.objects = w.registry.objects
  tags : r.tags = w.registry.tags
  issued : w.registry.issued < r.issued
  numbered : r.issued < limit → Numbered w.registry.issued r.issued (area :: placed)
  registry : w'.registry = (area :: placed).foldl Registry.register r
  areas : w'.areas = w.areas.insert (Text.asciiLower resref) h
  rest : w'.moduleId = w.moduleId ∧ w'.pc = w.pc

/-- What has been built for the places of an area once every instance has been tried. -/
def placing (w : World) (resref : String) : Placing :=
  (instances (instanceRecord w.library resref)).foldl
    (fun p (kind, placed) => p.add w.library (handleOf (w.registry.issued + 1)) kind placed)
    ⟨w.registry.issue.2, w.models, []⟩

/-- The object of an area that is put into the world. What has been placed in it is on its list. -/
def newArea (w : World) (resref : String) (are : Record) : Object :=
  let area := Object.loadArea w.library resref are
    (.blank (handleOf (w.registry.issued + 1)) (.area ⟨resref, []⟩))
  area.mapArea fun a => (w.placing resref).placed.foldl (fun a o => a.addObject o.id) a

theorem areaAdded (w : World) (resref : String) (are : Record) :
    AreaAdded w resref (w.addArea resref are).1 (w.addArea resref are).2 (w.newArea resref are)
      (w.placing resref).placed (w.placing resref).registry := by
  let h := handleOf (w.registry.issued + 1)
  obtain ⟨news, hadds⟩ := Placing.adds_foldl w.library h
    (instances (instanceRecord w.library resref)) ⟨w.registry.issue.2, w.models, []⟩
  let loaded := Object.loadArea w.library resref are (.blank h (.area ⟨resref, []⟩))
  obtain ⟨hid, harea, hdetails⟩ :=
    loadArea_keeps w.library resref are (.blank h (.area ⟨resref, []⟩))
  have hkin : Object.Kin loaded (w.newArea resref are) :=
    kin_mapArea loaded (resref_addObjects (w.placing resref).placed)
  have hplaced : (w.placing resref).placed = news := hadds.placed
  have hissued : w.registry.issued + 1 ≤ (w.placing resref).registry.issued := hadds.issued
  refine ⟨rfl, hkin.id.trans hid, hkin.area.trans harea, ?_, hplaced ▸ hadds.each, hadds.objects,
    hadds.tags, hissued, ?_, rfl, rfl, rfl, rfl⟩
  · rw [hkin.resref, Object.resref?, Object.area?, hdetails]
    rfl
  · intro hlt
    have hnumber := Registry.number_of_newest (hkin.id.trans hid) (hissued.trans_lt hlt)
    have hfirst : Numbered w.registry.issued (w.registry.issued + 1) [w.newArea resref are] :=
      .single (by omega) (by omega)
    rw [hplaced]
    exact hfirst.append (hadds.numbered hlt) (Nat.le_succ _) hissued

theorem addArea_spec (w : World) (resref : String) (are : Record) :
    ∃ area placed r,
      AreaAdded w resref (w.addArea resref are).1 (w.addArea resref are).2 area placed r :=
  ⟨_, _, _, w.areaAdded resref are⟩

namespace AreaAdded

variable {w w' : World} {resref : String} {h : Handle} {area : Object} {placed : List Object}
  {r : Registry}

theorem final_issued (ha : AreaAdded w resref h w' area placed r) :
    w'.registry.issued = r.issued := by
  rw [ha.registry, Registry.Follows.registerAll_issued]

theorem area_kind (ha : AreaAdded w resref h w' area placed r) : area.kind = .area := by
  rw [← Object.resref?_isSome, ha.named]
  rfl

theorem eq_area (ha : AreaAdded w resref h w' area placed r) {b : Object} (hb : b ∈ area :: placed)
    (hkind : b.kind = .area) : b = area := by
  rcases List.mem_cons.1 hb with rfl | hb
  · rfl
  · exact absurd hkind (Object.ne_of_isGameObject (ha.each b hb).game).1

theorem not_module (ha : AreaAdded w resref h w' area placed r) {b : Object}
    (hb : b ∈ area :: placed) : b.kind ≠ .module := by
  rcases List.mem_cons.1 hb with rfl | hb
  · rw [ha.area_kind]
    nofun
  · exact (Object.ne_of_isGameObject (ha.each b hb).game).2

theorem placed_ne (ha : AreaAdded w resref h w' area placed r) (hlimit : r.issued < limit)
    {o : Object} (ho : o ∈ placed) : o.id ≠ area.id := by
  intro hid
  have hordered := (ha.numbered hlimit).ordered
  rw [List.map_cons, List.pairwise_cons] at hordered
  have hbefore := hordered.1 o.id (List.mem_map_of_mem ho)
  rw [hid] at hbefore
  exact Nat.lt_irrefl _ hbefore

theorem settled (ha : AreaAdded w resref h w' area placed r) (hs : w.registry.Sound)
    (hlimit : w'.registry.issued < limit) :
    w'.registry.Sound ∧ w'.registry.objects = w.registry.objects ++ area :: placed := by
  rw [ha.final_issued] at hlimit
  have hnumbered := ha.numbered hlimit
  have hgrown : r.Sound := hs.grow ha.objects ha.tags (Nat.le_of_lt ha.issued)
  have hids : r.ids = w.registry.ids := Registry.ids_congr ha.objects
  rw [ha.registry, ← ha.objects]
  refine hgrown.registerAll hlimit ?_ ?_
  · intro o ho
    obtain ⟨hlo, hhi⟩ := hnumbered.given o ho
    exact ⟨by omega, hhi⟩
  · rw [hids, List.pairwise_append]
    refine ⟨hs.ordered, hnumbered.ordered, ?_⟩
    intro a ha b hb
    obtain ⟨o, ho, rfl⟩ := List.mem_map.1 hb
    exact Nat.lt_of_le_of_lt (hs.given a ha).2 (hnumbered.given o ho).1

end AreaAdded

theorem loadArea_cases (w : World) (resref : String) : (w.loadArea resref).2 = w ∨
    ∃ are, w.area? resref = none ∧ (w.loadArea resref).2 = (w.addArea resref are).2 := by
  unfold loadArea
  split
  · exact Or.inl rfl
  · rename_i hfree
    split
    · exact Or.inl rfl
    · exact Or.inl rfl
    · rename_i are _
      exact Or.inr ⟨are, hfree, rfl⟩

end Adventure.World

import Adventure.Proofs.Object.Numbering
import Adventure.Proofs.World.Shifts

/-!
# What an area is loaded with

The entries of an area's second record are built one after the other. Each of them takes the next
handle, whether or not anything comes of it, and what comes of it is what it yields alone: an entry
that fails leaves a gap in the handles and no other trace. Models are numbered across entries, and
their numbers are left aside here.
-/

namespace Adventure.World

open Object (Uncounted unnumbered yielded built_loadInstance)
open Registry (limit handleOf)

variable {w w' : World} {lib : Library} {models models' : Models} {area h : Handle} {resref : String}

/-! ### Entries one by one -/

/-- What an entry yields when it is built alone under a handle and put into an area. -/
def alone (lib : Library) (models : Models) (area h : Handle)
    (entry : Object.PlacedKind × Record) : Option Object :=
  (yielded (Object.loadInstance lib entry.1 entry.2 (.blank h entry.1.blank) models)).toOption.map
    fun o => { o with area := some area }

/-- What entries yield one by one, the `k`-th of all of them under the `k`-th handle after that of
the area. -/
def contents (lib : Library) (models : Models) (area : Handle)
    (entries : List (Object.PlacedKind × Record)) : List Object :=
  (entries.zipIdx 1).filterMap fun (entry, k) =>
    alone lib models area (handleOf (area.number + k)) entry

theorem alone_congr (hsource : models.source = models'.source) :
    alone lib models = alone lib models' := by
  funext area h entry
  unfold alone
  rw [(Uncounted.loadInstance lib entry.1 entry.2 _).yields models models' hsource]

theorem alone_of_ok (area : Handle) {entry : Object.PlacedKind × Record} {o : Object}
    (hload : Object.loadInstance lib entry.1 entry.2 (.blank h entry.1.blank) models =
      .ok (o, models')) :
    alone lib models area h entry = some { o with area := some area }.unnumbered := by
  unfold alone
  rw [hload]
  rfl

theorem alone_of_error {entry : Object.PlacedKind × Record} {e : LoadError}
    (hload : Object.loadInstance lib entry.1 entry.2 (.blank h entry.1.blank) models = .error e) :
    alone lib models area h entry = none := by
  unfold alone
  rw [hload]
  rfl

theorem alone_id (lib : Library) (models : Models) (area h : Handle)
    (entry : Object.PlacedKind × Record) :
    (alone lib models area h entry).map Object.id =
      (alone lib models area h entry).map fun _ => h := by
  cases hload : Object.loadInstance lib entry.1 entry.2 (.blank h entry.1.blank) models with
  | error e => rw [alone_of_error hload]; rfl
  | ok built =>
    rw [alone_of_ok area hload]
    exact congrArg some (built_loadInstance hload).id

namespace Placing

/-- Entries have been tried in an area, the first of them with number `k`. -/
structure Tried (lib : Library) (area : Handle) (k : Nat)
    (entries : List (Object.PlacedKind × Record)) (p p' : Placing) : Prop where
  issued : p'.registry.issued = p.registry.issued + entries.length
  source : p'.models.source = p.models.source
  placed : ∀ models, models.source = p.models.source →
    p'.placed.map unnumbered = p.placed.map unnumbered ++ (entries.zipIdx k).filterMap
      fun (entry, k) => alone lib models area (handleOf (area.number + k)) entry

theorem tried_add (lib : Library) (p : Placing) (kind : Object.PlacedKind) (placed : Record) {k : Nat}
    (hk : p.registry.issued + 1 = area.number + k) :
    Tried lib area k [(kind, placed)] p (p.add lib area kind placed) := by
  have hyields : ∀ models, models.source = p.models.source →
      ([(kind, placed)].zipIdx k).filterMap (fun (entry, k) =>
        alone lib models area (handleOf (area.number + k)) entry) =
      (alone lib p.models area (handleOf (p.registry.issued + 1)) (kind, placed)).toList := by
    intro models hsource
    rw [List.zipIdx_singleton, hk, alone_congr hsource.symm]
    simp only [List.filterMap_cons, List.filterMap_nil]
    cases alone lib models area (handleOf (area.number + k)) (kind, placed) <;> rfl
  unfold add
  simp only [Registry.issue]
  cases hload : Object.loadInstance lib kind placed
      (.blank (handleOf (p.registry.issued + 1)) kind.blank) p.models with
  -- The handle is used up all the same, and the numbers of models are as they were.
  | error e =>
    refine ⟨rfl, rfl, ?_⟩
    intro models hsource
    rw [hyields models hsource, alone_of_error hload]
    exact (List.append_nil _).symm
  | ok built =>
    refine ⟨rfl, (Uncounted.loadInstance lib kind placed _).source _ _ _ hload, ?_⟩
    intro models hsource
    rw [hyields models hsource, alone_of_ok area hload]
    exact List.map_append

theorem tried_foldl (lib : Library) (area : Handle)
    (entries : List (Object.PlacedKind × Record)) (p : Placing) {k : Nat}
    (hk : p.registry.issued + 1 = area.number + k) :
    Tried lib area k entries p
      (entries.foldl (fun p (kind, placed) => p.add lib area kind placed) p) := by
  -- The number of the next entry goes up with the number of handles given out.
  induction entries generalizing p k with
  | nil => exact ⟨rfl, rfl, fun _ _ => (List.append_nil _).symm⟩
  | cons entry entries ih =>
    obtain ⟨kind, placed⟩ := entry
    have hfirst := tried_add lib p kind placed hk
    have hrest := ih (p.add lib area kind placed) (k := k + 1) (by
      rw [hfirst.issued, List.length_singleton]
      omega)
    refine ⟨?_, hrest.source.trans hfirst.source, ?_⟩
    · rw [List.foldl_cons, hrest.issued, hfirst.issued, List.length_singleton, List.length_cons]
      omega
    · intro models hsource
      rw [List.foldl_cons, hrest.placed models (hsource.trans hfirst.source.symm),
        hfirst.placed models hsource, List.append_assoc, ← List.filterMap_append]
      rfl

end Placing

/-! ### The area -/

theorem mapArea_loadArea (lib : Library) (resref : String) (are : Record) (h : Handle) (a : Area)
    (f : Area → Area) : (Object.loadArea lib resref are (.blank h (.area a))).mapArea f =
      Object.loadArea lib resref are (.blank h (.area (f a))) := by
  cases htag : (are.getString "Tag" "").isEmpty <;>
    simp [Object.loadArea, Object.applyShared, Object.blank, Object.mapArea, Object.setTag,
      Object.mapModel, Object.finishLoad, htag]

/-- A new area has been put into the world, with what its entries yield one by one in it and on its
list. Nothing else has happened. -/
structure Furnished (w : World) (resref : String) (are : Record)
    (entries : List (Object.PlacedKind × Record)) (h : Handle) (area : Object)
    (placed : List Object) (w' : World) : Prop where
  handle : h.number = w.registry.issued + 1
  described : area = Object.loadArea w.library resref are
    (.blank h (.area ⟨resref, placed.map Object.id⟩))
  built : ∀ models, models.source = w.models.source →
    placed.map unnumbered = contents w.library models h entries
  handles : placed.map Object.id = (entries.zipIdx 1).filterMap fun (entry, k) =>
    (alone w.library w.models h (handleOf (h.number + k)) entry).map fun _ =>
      handleOf (h.number + k)
  objects : w'.registry.objects = w.registry.objects ++ area :: placed
  issued : w'.registry.issued = h.number + entries.length
  source : w'.models.source = w.models.source
  trail : w'.events = w.events ++
    ["area.load " ++ area.tag ++ " (" ++ toString placed.length ++ " objects)"]
  rest : w' = { w with
    registry := w'.registry, models := w'.models, events := w'.events
    areas := w.areas.insert (Text.asciiLower resref) h }

theorem handles_of_built {entries : List (Object.PlacedKind × Record)} {placed : List Object}
    (hbuilt : placed.map unnumbered = contents lib models h entries) :
    placed.map Object.id = (entries.zipIdx 1).filterMap fun (entry, k) =>
      (alone lib models h (handleOf (h.number + k)) entry).map fun _ => handleOf (h.number + k) := by
  calc placed.map Object.id = (placed.map unnumbered).map Object.id := by rw [List.map_map]; rfl
    _ = _ := by
      rw [hbuilt, contents, List.map_filterMap]
      congr 1
      funext entry
      exact alone_id lib models h _ entry.1

theorem furnished_addArea (hs : w.registry.Sound) (resref : String) (are : Record)
    (hlimit : (w.addArea resref are).2.registry.issued < limit) :
    Furnished w resref are (instances (instanceRecord w.library resref)) (w.addArea resref are).1
      (w.newArea resref are) (w.placing resref).placed (w.addArea resref are).2 := by
  have hadded := w.areaAdded resref are
  obtain ⟨-, hobjects⟩ := hadded.settled hs hlimit
  have hfinal := hadded.final_issued
  rw [hfinal] at hlimit
  have hfirst : w.registry.issued + 1 < limit := Nat.lt_of_le_of_lt hadded.issued hlimit
  have hnumber := Registry.number_of_newest hadded.handle hfirst
  have htried := Placing.tried_foldl w.library (w.addArea resref are).1
    (instances (instanceRecord w.library resref)) ⟨w.registry.issue.2, w.models, []⟩ (k := 1) (by
      rw [hnumber]
      rfl)
  have hbuilt := htried.placed
  have hnodup : ((w.placing resref).placed.map Object.id).Nodup := by
    refine (List.pairwise_cons.1 (hadded.numbered hlimit).ordered).2.imp ?_
    rintro a _ hbefore rfl
    exact Nat.lt_irrefl _ hbefore
  refine ⟨hnumber, ?_, hbuilt, handles_of_built (hbuilt w.models rfl), hobjects, ?_, htried.source,
    rfl, rfl⟩
  · unfold newArea
    simp only
    rw [mapArea_loadArea, Area.addObjects_of_nodup (a := ⟨resref, []⟩) hnodup]
    rfl
  · rw [hfinal, hnumber]
    exact htried.issued

theorem instances_of_read {git : Record} (hgit : lib.resources.load .git resref = .ok (some git)) :
    instances (instanceRecord lib resref) = instances git := by
  unfold instanceRecord
  rw [hgit]

theorem instances_of_unread (hgit : ∀ git, lib.resources.load .git resref ≠ .ok (some git)) :
    instances (instanceRecord lib resref) = [] := by
  have hempty : instanceRecord lib resref = [] := by
    unfold instanceRecord
    split
    · rename_i git hread
      exact absurd hread (hgit git)
    · rfl
  rw [hempty]
  rfl

/-! ### Areas that are loaded -/

/-- There is a live area of this resource name, ASCII case aside. -/
def Standing (w : World) (resref : String) (h : Handle) : Prop :=
  ∃ o a, w.get? h = some o ∧ o.area? = some a ∧ Text.asciiLower a.resref = Text.asciiLower resref

theorem Linked.area?_eq_some (hl : Linked w) : w.area? resref = some h ↔ w.Standing resref h := by
  have hget : ∀ {k o}, w.get? k = some o ↔ o ∈ w.registry.objects ∧ o.id = k :=
    hl.sound.indexed.get?_eq_some
  have hname : ∀ {entry}, entry ∈ w.areas → ∃ o a, w.get? entry.2 = some o ∧
      o.area? = some a ∧ Text.asciiLower a.resref = entry.1 := by
    intro entry hentry
    obtain ⟨o, ho, hid, hname⟩ := hl.named entry hentry
    obtain ⟨name, hresref, hkey⟩ := Option.map_eq_some_iff.1 hname
    obtain ⟨a, ha, rfl⟩ := Option.map_eq_some_iff.1 hresref
    exact ⟨o, a, hget.2 ⟨ho, hid⟩, ha, hkey⟩
  constructor
  · intro harea
    exact hname (Dict.mem_of_find? harea)
  · rintro ⟨o, a, ho, ha, hkey⟩
    obtain ⟨hmem, rfl⟩ := hget.1 ho
    have hkind : o.kind = .area := (Object.area?_isSome o).1 (by rw [ha]; rfl)
    obtain ⟨entry, hentry, hid⟩ := List.mem_map.1 (hl.listed o hmem hkind)
    obtain ⟨o', a', ho', ha', hkey'⟩ := hname hentry
    rw [hid, ho, Option.some_inj] at ho'
    rw [← ho', ha, Option.some_inj] at ha'
    unfold area?
    rw [← hkey, ha', hkey']
    exact Dict.find?_of_mem hl.keys (by rw [← hid]; exact hentry)

end Adventure.World

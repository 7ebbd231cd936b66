import Adventure.Proofs.World.Frames
import Adventure.Proofs.World.StepShifts

/-!
# Worlds that gain objects

Creating an object puts it behind those that are there. Since its handle has not been given out
before, it takes the place of none of them, as long as the handles last.
-/

namespace Adventure.World

open Object (Same)
open Registry (handleOf limit)

variable {w w' w₁ w₂ w₃ : World} {new new' : List Handle}

/-- The second world has the objects of the first one, each as what it has become, and behind them
objects with these handles, which have been given out since. This goes as far as the handles last
and where the live handles have been given out. -/
structure Gains (w : World) (new : List Handle) (w' : World) : Prop where
  issued : w.registry.issued ≤ w'.registry.issued
  objects : w'.registry.issued < limit → (∀ h ∈ w.registry.ids, h.number ≤ w.registry.issued) →
    ∃ f added, (∀ o, Same o (f o)) ∧
      w'.registry.objects = w.registry.objects.map f ++ added ∧ added.map Object.id = new ∧
      ∀ h ∈ new, w.registry.issued < h.number ∧ h.number ≤ w'.registry.issued

namespace Gains

theorem of_keeps (h : Keeps w w') : Gains w [] w' := by
  obtain ⟨f, hf, hobjects⟩ := h.objects
  refine ⟨Nat.le_of_eq h.issued.symm, fun _ _ => ⟨f, [], hf, ?_, rfl, fun h hh => by cases hh⟩⟩
  rw [hobjects, List.append_nil]

theorem trans (first : Gains w₁ new w₂) (second : Gains w₂ new' w₃) :
    Gains w₁ (new ++ new') w₃ := by
  refine ⟨first.issued.trans second.issued, fun hlimit hgiven => ?_⟩
  have hlimit₂ : w₂.registry.issued < limit := Nat.lt_of_le_of_lt second.issued hlimit
  obtain ⟨f, added, hf, hobjects, hids, hnew⟩ := first.objects hlimit₂ hgiven
  have hgiven₂ : ∀ h ∈ w₂.registry.ids, h.number ≤ w₂.registry.issued := by
    intro h hh
    unfold Registry.ids at hh
    rw [hobjects, List.map_append, List.map_map, hids, List.mem_append] at hh
    rcases hh with hold | hadded
    · obtain ⟨o, ho, rfl⟩ := List.mem_map.1 hold
      rw [Function.comp_apply, (hf o).id]
      exact (hgiven _ (List.mem_map_of_mem ho)).trans first.issued
    · exact (hnew h hadded).2
  obtain ⟨g, added', hg, hobjects', hids', hnew'⟩ := second.objects hlimit hgiven₂
  refine ⟨g ∘ f, added.map g ++ added', fun o => (hf o).trans (hg (f o)), ?_, ?_, ?_⟩
  · rw [hobjects', hobjects, List.map_append, List.map_map, List.append_assoc]
  · have hkept : (added.map g).map Object.id = new := by
      rw [← hids, List.map_map]
      exact List.map_congr_left fun o _ => (hg o).id
    rw [List.map_append, hkept, hids']
  · intro h hh
    have hfirst := first.issued
    have hsecond := second.issued
    rcases List.mem_append.1 hh with hh | hh
    · have hbounds := hnew h hh
      omega
    · have hbounds := hnew' h hh
      omega

end Gains

theorem gains_addObject (w : World) {o : Object} (models : Models) (area : Handle)
    (hid : o.id = handleOf (w.registry.issued + 1)) :
    Gains w (handleOf (w.registry.issued + 1)).valid?.toList
      ({ w with registry := w.registry.issue.2, models }.addObject o area) := by
  let issued : World := { w with registry := w.registry.issue.2, models }
  let listed : World := issued.update area fun a => a.mapArea fun list => list.addObject o.id
  refine ⟨?_, fun hlimit hgiven => ?_⟩
  · rw [addObject_issued]
    exact Nat.le_succ _
  rw [addObject_issued] at hlimit ⊢
  have hnumber := Registry.number_of_newest hid hlimit
  have hvalid : o.id.isValid = true := Registry.valid_of_number_lt (hnumber ▸ hlimit)
  have hobjects : (issued.addObject o area).registry.objects =
      listed.registry.objects.filter (fun a => a.id ≠ o.id) ++ [o] :=
    Registry.register_objects _ hvalid
  have hlisted : Keeps issued listed := .update _ area fun a =>
    (Object.kin_mapArea a fun list => Object.resref_addObject list o.id).same
  obtain ⟨f, hf, hkept⟩ := hlisted.objects
  -- All live handles have smaller numbers, so the new object displaces none.
  have hfresh : ∀ a ∈ w.registry.objects.map f, a.id ≠ o.id := by
    intro a ha hsame
    obtain ⟨b, hb, rfl⟩ := List.mem_map.1 ha
    have hle := hgiven b.id (List.mem_map_of_mem hb)
    rw [← (hf b).id, hsame, hnumber] at hle
    omega
  have hnew : (handleOf (w.registry.issued + 1)).valid?.toList = [o.id] := by
    rw [← hid]
    unfold Handle.valid?
    rw [if_pos hvalid]
    rfl
  refine ⟨f, [o], hf, ?_, hnew.symm, ?_⟩
  · rw [hobjects, hkept]
    exact congrArg (· ++ [o]) (List.filter_eq_self.2 fun a ha => decide_eq_true (hfresh a ha))
  · intro h hh
    obtain rfl := List.mem_singleton.1 (hnew ▸ hh : h ∈ [o.id])
    omega

theorem gains_createObject (w : World) (t : ObjectType) (template : String) (place : Location)
    (tag : String) :
    Gains w ((w.createObject t template place tag).1.toOption.getD .invalid).valid?.toList
      (w.createObject t template place tag).2 := by
  rcases w.createObject_cases t template place tag with
    ⟨e, hfailed⟩ | ⟨e, hfailed⟩ | ⟨kind, area, _, o, models, -, -, hload, hcreated⟩
  · rw [hfailed]
    exact .of_keeps (.refl w)
  · rw [hfailed]
    obtain ⟨f, hf, hobjects⟩ := (Keeps.refl w).objects
    refine ⟨Nat.le_succ _, fun _ _ => ⟨f, [], hf, ?_, rfl, fun h hh => by cases hh⟩⟩
    rw [List.append_nil]
    exact hobjects
  · have hdressed := dressed template tag place area (w.currentArea = some area) o
    rw [hcreated]
    exact gains_addObject w models area (hdressed.id.trans (Object.built_load hload).id)

end Adventure.World

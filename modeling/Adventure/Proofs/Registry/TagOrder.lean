import Adventure.Proofs.Registry.TagIndex

/-!
# Tags in the order of the registry

Only `retag` can give an object another place under a tag than the one it has in the registry. As
long as objects are registered, taken out and changed in place, each with the tag it came with, the
list of a folded tag is what a scan of the registry finds. This needs no order of the handles: an
object that takes the place of another one with its handle goes to the end of both lists.
-/

namespace Adventure.Registry

/-- What a scan of the registry finds under a folded tag. -/
def scan (r : Registry) (key : String) : List Handle :=
  (r.objects.filter fun o => tagKey o.tag = key).map Object.id

/-- Under every folded tag stands what a scan finds. -/
def Aligned (r : Registry) : Prop := ∀ key, held r.tags key = r.scan key

theorem scan_unregister (r : Registry) (h : Handle) (key : String) :
    (r.unregister h).2.scan key = (r.scan key).filter (· ≠ h) := by
  unfold scan
  rw [unregister_objects, List.filter_comm, filter_ids]

theorem scan_register (r : Registry) {o : Object} (hv : o.id.isValid = true) (key : String) :
    (r.register o).scan key = moved (r.scan key) o.id (tagKey o.tag) key := by
  unfold scan moved
  rw [register_objects r hv, List.filter_append, List.filter_comm, List.map_append, filter_ids]
  by_cases hkey : tagKey o.tag = key
  · simp [hkey]
  · simp [hkey, Ne.symm hkey]

theorem scan_update (r : Registry) (h : Handle) {f : Object → Object}
    (hf : ∀ o, (f o).id = o.id ∧ (f o).tag = o.tag) (key : String) :
    (r.update h f).scan key = r.scan key := by
  have hchanged : ∀ o : Object, (if o.id = h then f o else o).id = o.id ∧
      (if o.id = h then f o else o).tag = o.tag := by
    intro o
    split
    · exact hf o
    · exact ⟨rfl, rfl⟩
  unfold update
  split
  · unfold scan
    rw [List.filter_map, List.map_map]
    have hids : (Object.id ∘ fun o => if o.id = h then f o else o) = Object.id :=
      funext fun o => (hchanged o).1
    have htags : ((fun o => decide (tagKey o.tag = key)) ∘ fun o => if o.id = h then f o else o) =
        fun o => decide (tagKey o.tag = key) :=
      funext fun o => congrArg (fun tag => decide (tagKey tag = key)) (hchanged o).2
    rw [hids, htags]
  · rfl

namespace Aligned

variable {r : Registry}

theorem congr {r' : Registry} (hr : r.Aligned) (hobjects : r'.objects = r.objects)
    (htags : r'.tags = r.tags) : r'.Aligned := by
  intro key
  rw [htags, hr key]
  unfold scan
  rw [hobjects]

theorem clear (r : Registry) : r.clear.Aligned := fun _ => rfl

theorem unregister (hr : r.Aligned) (hi : r.Indexed) (h : Handle) :
    (r.unregister h).2.Aligned := by
  intro key
  rw [unregister_held hi, scan_unregister, hr key]

theorem register (hr : r.Aligned) (hi : r.Indexed) (o : Object) : (r.register o).Aligned := by
  cases hv : o.id.isValid with
  | false =>
    rw [register_invalid r hv]
    exact hr
  | true =>
    intro key
    rw [register_held hi hv, scan_register r hv, hr key]

theorem update (hr : r.Aligned) (h : Handle) {f : Object → Object}
    (hf : ∀ o, (f o).id = o.id ∧ (f o).tag = o.tag) : (r.update h f).Aligned := by
  intro key
  rw [update_tags, scan_update r h hf, hr key]

theorem registerAll (hr : r.Aligned) (hi : r.Indexed) (os : List Object) :
    (os.foldl Registry.register r).Aligned := by
  induction os generalizing r with
  | nil => exact hr
  | cons o os ih => exact ih (hr.register hi o) (hi.register o)

end Aligned

end Adventure.Registry

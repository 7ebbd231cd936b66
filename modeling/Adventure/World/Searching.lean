import Adventure.World.Basic

/-!
# Finding objects

The objects of an area by their distance from a point, and the walks of callers over the objects of
an area. The distance is the sum of the distances along the axes; objects equally far away stay in
registration order.

See section 4.3 of the specification.
-/

namespace Adventure.World

/-- Is it a game object in the area, other than the excluded one, that passes the filter? -/
def isCandidate (area exclude : Handle) (filter : Object → Bool) (o : Object) : Bool :=
  o.id != exclude && o.kind.isGameObject && o.area == some area && filter o

/-- The game objects of an area that pass a filter, the nearest to `position` first. -/
def nearestObjects (w : World) (area : Handle) (position : Vec3) (exclude : Handle)
    (filter : Object → Bool) : List Handle :=
  let found := (w.registry.objects.filter (isCandidate area exclude filter)).map fun o =>
    (o.id, totalKey (position.manhattan o.position))
  (found.mergeSort fun a b => decide (a.2 ≤ b.2)).map Prod.fst

/-- The element of a number counted from one; smaller numbers count as one. -/
def pickNth (found : List Handle) (nth : Int32) : Handle :=
  (found[(nth.toInt - 1).toNat]?).getD .invalid

/-- The `nth` object that passes a filter in the area of `target`, from `target` outward. -/
def nearestTo (w : World) (target : Handle) (nth : Int32) (filter : Object → Bool) : Handle :=
  match w.get? target with
  | none => .invalid
  | some o =>
    match o.area with
    | none => .invalid
    | some area => pickNth (w.nearestObjects area o.position target filter) nth

/-! ### Walks over an area -/

def setWalk (w : World) (caller area : Handle) (s : Search) : World :=
  { w with walks := ((caller, area), s) :: w.walks.filter fun entry => entry.1 ≠ (caller, area) }

/-- The next object of a caller's walk over an area; nothing when it is at its end or was never
begun. -/
def nextInArea (w : World) (caller area : Handle) : Handle × World :=
  match w.walks.lookup (caller, area) with
  | none => (.invalid, w)
  | some s =>
    let (found, s) := s.next w.registry
    (if found then s.current.getD .invalid else .invalid, w.setWalk caller area s)

/-- Begins a caller's walk over the objects in an area, the player's creature aside. -/
def firstInArea (w : World) (caller area : Handle) : Handle × World :=
  let handles := (w.registry.inArea area).filter fun h => w.pc ≠ some h
  (w.setWalk caller area (.ofList handles)).nextInArea caller area

/-! ### By tag -/

/-- Takes `n` steps of a search; answers whether all of them found something. -/
def stepSearch (r : Registry) : Nat → Search → Bool × Search
  | 0, s => (true, s)
  | n + 1, s =>
    let (found, s) := s.next r
    if found then stepSearch r n s else (false, s)

/-- The object at a place of the objects with a tag, counted from zero. -/
def objectByTag (w : World) (tag : String) (nth : Int32) : Handle :=
  if tag.isEmpty || nth < 0 then .invalid
  else
    let (any, s) := w.registry.search (some tag)
    if any then
      let (found, s) := stepSearch w.registry (nth.toInt.toNat + 1) s
      if found then s.current.getD .invalid else .invalid
    else .invalid

end Adventure.World

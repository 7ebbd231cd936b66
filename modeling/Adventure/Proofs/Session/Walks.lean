import Adventure.Proofs.Session.Lifetime
import Adventure.Proofs.World.Walks

/-!
# Walks over areas in play

Whatever is played from a fresh session on, at whatever depth, goes along a trail of strides. The
walks of a caller on it are those of its own calls and of what takes walks away; nothing else that
is done with the world, by scripts or from outside, comes between.
-/

namespace Adventure

open Search (Visit Passes)
open World (Moment Trail visits)

variable {σ : Type}

def putPost (w : World) : Except Failure Handle × World :=
  w.createObject .waypoint "post" (.make (some ⟨1⟩) ⟨0, 0, 0⟩ 0) ""

/-- Somebody walks over a yard with three waypoints. Meanwhile the second one goes and another one
comes. -/
def stroll : Play Unit Unit := do
  let _ ← Play.act fun w => w.loadArea "yard"
  let _ ← Play.act putPost
  let _ ← Play.act putPost
  let _ ← Play.act putPost
  let _ ← Play.act fun w => w.firstInArea ⟨9⟩ ⟨1⟩
  let _ ← Play.act fun w => w.destroyObject ⟨3⟩
  let _ ← Play.act putPost
  let _ ← Play.act fun w => w.nextInArea ⟨9⟩ ⟨1⟩
  let _ ← Play.act fun w => w.nextInArea ⟨9⟩ ⟨1⟩

theorem stroll_composed : Play.Composed .idle stroll := by
  have hpost : Play.Composed (.idle : Runner Unit) (Play.act putPost) :=
    .operation (.createObject .waypoint "post" (.make (some ⟨1⟩) ⟨0, 0, 0⟩ 0) "") trivial
  refine .first (.loadArea "yard") fun _ => .chain hpost fun _ => .chain hpost fun _ => ?_
  refine .chain hpost fun _ => .first (.firstInArea ⟨9⟩ ⟨1⟩) fun _ => ?_
  refine .first (.destroyObject ⟨3⟩) fun _ => .chain hpost fun _ => ?_
  refine .first (.nextInArea ⟨9⟩ ⟨1⟩) fun _ => .first (.nextInArea ⟨9⟩ ⟨1⟩) fun _ => .answer _

namespace Stroll

def start : World := .new emptyRecords .plain 0 0
def yard : World := (start.loadArea "yard").2
def posted : World := (putPost (putPost (putPost yard).2).2).2
def begun : World := (posted.firstInArea ⟨9⟩ ⟨1⟩).2
def thinned : World := (begun.destroyObject ⟨3⟩).2
def refilled : World := (putPost thinned).2
def further : World := (refilled.nextInArea ⟨9⟩ ⟨1⟩).2

/-- Up to the beginning of the walk. -/
def past : List Moment :=
  [⟨start, .other⟩, ⟨yard, .other⟩, ⟨(putPost yard).2, .other⟩,
    ⟨(putPost (putPost yard).2).2, .other⟩]

/-- After its first call. -/
def later : List Moment :=
  [⟨begun, .destroy ⟨3⟩⟩, ⟨thinned, .other⟩, ⟨refilled, .next ⟨9⟩ ⟨1⟩⟩, ⟨further, .next ⟨9⟩ ⟨1⟩⟩]

theorem trail : Trail start (past ++ ⟨posted, .first ⟨9⟩ ⟨1⟩⟩ :: later)
    (further.nextInArea ⟨9⟩ ⟨1⟩).2 := by
  have hpost : ∀ w : World, World.Stride w .call .other (putPost w).2 := fun w =>
    .other (.createObject _ _ _ _) (World.undisturbed_createObject w _ _ _ _).walks
  refine .stride (.other (.loadArea "yard") (World.undisturbed_loadArea start "yard").walks) ?_
  refine .stride (hpost yard) (.stride (hpost _) (.stride (hpost _) ?_))
  refine .stride (.first ⟨9⟩ ⟨1⟩) (.stride (.destroy ⟨3⟩) (.stride (hpost thinned) ?_))
  exact .stride (.next ⟨9⟩ ⟨1⟩) (.stride (.next ⟨9⟩ ⟨1⟩) (.rest _))

end Stroll

end Adventure

import Adventure.Proofs.Function.Finding
import Adventure.Proofs.Session.Reach

/-!
# Finding objects in reached sessions

In every reached session, what a script finds one number after the other is what there is to be
found, every object once and in one order: the nearest first for the functions that look around, and
as the registry lists them for the function that looks for a tag.
-/

namespace Adventure

open World (Ranked Counted stepSearch)
open Adventure.Function (Callee Quest atPlace call table)

variable {σ : Type} {s : Session σ}

/-! ### The nearest objects -/

/-- In every reached session the nearest objects of an area are all that there are, once each,
ordered by their distance and then as the registry lists them. The functions of scripts that look
for the nearest object enumerate them as they are asked for the first, the second and so on. After
the last of them they give the handle that names nothing, and numbers below one ask for the first.
They do nothing else. -/
theorem nearest_enumerated (hs : s.Reached) :
    (∀ area position exclude filter, s.world.Ranked area position exclude filter
      (s.world.nearestObjects area position exclude filter)) ∧
    ∀ q : Quest, ∃ found answer, q.Finds s.world found ∧ Counted found answer ∧
      ∀ (f : Callee) (n : Int32) (run : Runner σ) (site : Bridge.CallSite),
        f.number? table = some q.number →
          (call run f (q.args n) site).ended s = .ok (.ok (.object (answer n))) ∧
          (call run f (q.args n) site).after s = s := by
  refine ⟨World.ranked_nearestObjects hs.indexed, fun q => ?_⟩
  obtain ⟨found, hfinds, hcounted⟩ := q.finds hs.indexed
  exact ⟨found, _, hfinds, hcounted, fun f n run site hf => q.call_eq hf n site run s⟩

/-! ### Objects with a tag -/

/-- In every reached session the objects with a tag are found in one order by a scan of the
registry, by the index of tags and by a cursor that steps over them, each of them once. The function
of scripts that looks for a tag enumerates them from zero on. A search says that it has something to
go through exactly if its first step finds something. -/
theorem tag_enumerated (hs : s.Reached) (tag : String) :
    (s.world.tagged tag).Nodup ∧ (s.world.tagged tag).Sublist s.world.registry.ids ∧
    (∀ h, h ∈ s.world.tagged tag ↔ ∃ o, s.world.get? h = some o ∧ o.hasTag tag = true) ∧
    s.world.registry.withTag tag = s.world.tagged tag ∧
    (∀ k : Nat, let stepped :=
        stepSearch s.world.registry (k + 1) (s.world.registry.search (some tag)).2
      stepped.1 = (s.world.tagged tag)[k]?.isSome ∧ stepped.2.current = (s.world.tagged tag)[k]?) ∧
    (∀ t : Option String, (s.world.registry.search t).1 =
      ((s.world.registry.search t).2.next s.world.registry).1) ∧
    ∀ (f : Callee) (n : Int32) (run : Runner σ) (site : Bridge.CallSite),
      f.number? table = some 200 →
        (call run f [.string tag, .int n] site).ended s =
          .ok (.ok (.object (atPlace tag (s.world.tagged tag) n))) ∧
        (call run f [.string tag, .int n] site).after s = s := by
  have hi := hs.indexed
  have hindex := World.withTag_eq_tagged hi hs.aligned tag
  have hlisted : (s.world.tagged tag).Sublist s.world.registry.ids := List.filter_sublist
  refine ⟨hlisted.nodup hi.distinct, hlisted, fun h => World.mem_tagged hi, hindex, ?_,
    World.search_fst hi, ?_⟩
  · intro k
    have hstepped := World.stepSearch_live k (World.search_live hi (some tag))
    have hahead : (s.world.registry.search (some tag)).2.ahead = s.world.tagged tag := hindex
    rwa [hahead] at hstepped
  · intro f n run site hf
    have hcalled := Function.call_objectByTag hf tag n site run s
    rwa [World.objectByTag_eq hi, hindex] at hcalled

/-! ### A shore with posts -/

/-- A library with a shore and with one blueprint of waypoints. -/
def coastal : Library :=
  let text (kind : ResourceKind) (_ : String) : Option String :=
    if kind = .are ∨ kind = .git ∨ kind = .utw then some "\x7b\x7d" else none
  ⟨.ofTexts text fun _ _ => none, .empty⟩

/-- Posts are set in a line, three paces to one side of a mark at the water and one to either
side. -/
def staking : Play Unit Unit := do
  let _ ← Play.act fun w => w.loadArea "shore"
  let _ ← Play.act fun w => w.createObject .waypoint "mark" ⟨some ⟨1⟩, .zero, 0⟩ "water"
  let _ ← Play.act fun w => w.createObject .waypoint "mark" ⟨some ⟨1⟩, ⟨3, 0, 0⟩, 0⟩ "post"
  let _ ← Play.act fun w => w.createObject .waypoint "mark" ⟨some ⟨1⟩, ⟨1, 0, 0⟩, 0⟩ "Post"
  let _ ← Play.act fun w => w.createObject .waypoint "mark" ⟨some ⟨1⟩, ⟨-1, 0, 0⟩, 0⟩ "POST"

/-- The shore is ⟨1⟩, the mark ⟨2⟩, and the posts are ⟨3⟩, ⟨4⟩ and ⟨5⟩. -/
def staked : Session Unit := staking.after (.fresh coastal .plain 0 0 ())

theorem staked_reached : staked.Reached := by
  refine ⟨coastal, .plain, 0, 0, (), (Session.Leads.here _).play .idle ?_⟩
  refine .first (.loadArea "shore") fun _ => ?_
  refine .first (.createObject .waypoint "mark" ⟨some ⟨1⟩, .zero, 0⟩ "water") fun _ => ?_
  refine .first (.createObject .waypoint "mark" ⟨some ⟨1⟩, ⟨3, 0, 0⟩, 0⟩ "post") fun _ => ?_
  refine .first (.createObject .waypoint "mark" ⟨some ⟨1⟩, ⟨1, 0, 0⟩, 0⟩ "Post") fun _ => ?_
  exact .first (.createObject .waypoint "mark" ⟨some ⟨1⟩, ⟨-1, 0, 0⟩, 0⟩ "POST") fun _ => .answer _

/-- From the mark the farthest post comes last, though the registry lists it first, and the two at
one distance come as the registry lists them. -/
theorem nearest_posts : ∃ answer : Int32 → Handle,
    [answer 1, answer 2, answer 3, answer 4, answer 0] = [⟨4⟩, ⟨5⟩, ⟨3⟩, .invalid, ⟨4⟩] ∧
    ∀ n, (call .idle (.name "GetNearestObjectByTag") (Quest.args n (.tagged "post" ⟨2⟩)) .none).ended
      staked = .ok (.ok (.object (answer n))) := by
  obtain ⟨hranked, hquests⟩ := nearest_enumerated staked_reached
  obtain ⟨found, answer, hfinds, hcounted, hcalls⟩ := hquests (.tagged "post" ⟨2⟩)
  have hspot : (Quest.tagged "post" ⟨2⟩).spot? staked.world = some (⟨1⟩, .zero) := by rfl
  have hkeys : ((staked.world.registry.objects.filter
      (World.isCandidate ⟨1⟩ ⟨2⟩ (·.hasTag "post"))).map fun o =>
        (o.id, totalKey (Vec3.zero.manhattan o.position))) =
      [(⟨3⟩, 1077936128), (⟨4⟩, 1065353216), (⟨5⟩, 1065353216)] := by rfl
  have hnearest : staked.world.nearestObjects ⟨1⟩ .zero ⟨2⟩ (·.hasTag "post") = [⟨4⟩, ⟨5⟩, ⟨3⟩] := by
    unfold World.nearestObjects
    rw [hkeys]
    simp [List.mergeSort]
  have hfound : found = [⟨4⟩, ⟨5⟩, ⟨3⟩] := by
    unfold Quest.Finds at hfinds
    rw [hspot] at hfinds
    rw [← hnearest]
    exact hfinds.unique staked_reached.indexed (hranked _ _ _ _)
  subst hfound
  refine ⟨answer, ?_, fun n => (hcalls (.name _) n .idle .none (by decide)).1⟩
  have hfirst : answer 1 = ⟨4⟩ := hcounted.each 0 _ rfl 1 (by decide)
  rw [hcounted.below 0 (by decide), hfirst, hcounted.each 1 _ rfl 2 (by decide),
    hcounted.each 2 _ rfl 3 (by decide), hcounted.past 4 (by decide)]

/-- The posts are found in the order in which they stand in the registry, however their tag is
written, and nothing is found before the first or after the last of them. -/
theorem posts_found : staked.Reached ∧ staked.world.tagged "POST" = [⟨3⟩, ⟨4⟩, ⟨5⟩] ∧
    ∀ n : Int32, (call .idle (.name "GetObjectByTag") [.string "POST", .int n] .none).ended staked =
      .ok (.ok (.object (atPlace "POST" [⟨3⟩, ⟨4⟩, ⟨5⟩] n))) := by
  obtain ⟨-, -, -, -, -, -, hcalls⟩ := tag_enumerated staked_reached "POST"
  have hfound : staked.world.tagged "POST" = [⟨3⟩, ⟨4⟩, ⟨5⟩] := by rfl
  refine ⟨staked_reached, hfound, fun n => ?_⟩
  rw [← hfound]
  exact (hcalls (.name _) n .idle .none (by decide)).1

end Adventure

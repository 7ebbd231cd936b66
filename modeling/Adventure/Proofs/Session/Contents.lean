import Adventure.Proofs.Session.Coherence
import Adventure.Proofs.World.Contents

/-!
# Loading an area in a reached session

An area is loaded once, and with what its entries yield one by one. An entry that fails takes
nothing from the others.
-/

namespace Adventure

open World (Furnished Standing instances)

variable {σ : Type} {s : Session σ}

/-- In every reached session, an area that is loaded already is answered, and one without a record
that can be read is refused; nothing changes in either case. Otherwise the new area is put into the
world with those of its entries that can be built, in their order. Every entry has the handle of its
place, whether or not those before it could be built, and becomes what it becomes alone, the numbers
of models aside. If there is no second record that can be read, the area is empty. -/
theorem loading_isolates_entries (hs : s.Reached) (resref : String)
    (hlimit : (s.world.loadArea resref).2.registry.issued < Registry.limit) :
    (∀ h, s.world.Standing resref h → s.world.loadArea resref = (.ok h, s.world)) ∧
    ((∀ h, ¬s.world.Standing resref h) →
      (s.world.library.resources.load .are resref = .ok none → s.world.loadArea resref =
        (.error (.of (.load (.missingResource resref .are))), s.world)) ∧
      (∀ e, s.world.library.resources.load .are resref = .error e →
        s.world.loadArea resref = (.error (.of (.load e)), s.world)) ∧
      ∀ are, s.world.library.resources.load .are resref = .ok (some are) →
        ∃ h area placed w, s.world.loadArea resref = (.ok h, w) ∧
          (∀ git, s.world.library.resources.load .git resref = .ok (some git) →
            Furnished s.world resref are (instances git) h area placed w) ∧
          ((∀ git, s.world.library.resources.load .git resref ≠ .ok (some git)) →
            Furnished s.world resref are [] h area placed w)) := by
  have hloaded : s.Leads ((Play.act fun w => w.loadArea resref).after s) :=
    (Session.Leads.here s).operation .idle (.loadArea resref)
  have hgrown : s.world.registry.issued ≤ (s.world.loadArea resref).2.registry.issued :=
    hloaded.moves.follows.issued
  have hlinked := hs.linked (Nat.lt_of_le_of_lt hgrown hlimit)
  refine ⟨?_, ?_⟩
  · intro h hstanding
    unfold World.loadArea
    rw [hlinked.area?_eq_some.2 hstanding]
  · intro hnone
    have hfree : s.world.area? resref = none := by
      cases harea : s.world.area? resref with
      | none => rfl
      | some h => exact absurd (hlinked.area?_eq_some.1 harea) (hnone h)
    unfold World.loadArea at hlimit ⊢
    rw [hfree] at hlimit ⊢
    refine ⟨?_, ?_, ?_⟩
    · intro hare
      rw [hare]
    · intro e hare
      rw [hare]
    · intro are hare
      rw [hare] at hlimit ⊢
      have hfurnished := World.furnished_addArea hlinked.sound resref are hlimit
      refine ⟨(s.world.addArea resref are).1, s.world.newArea resref are,
        (s.world.placing resref).placed, (s.world.addArea resref are).2, rfl, ?_, ?_⟩
      · intro git hgit
        exact World.instances_of_read hgit ▸ hfurnished
      · intro hunread
        exact World.instances_of_unread hunread ▸ hfurnished

/-- A market with a baker and a well. A creature without an appearance and a door whose blueprint is
no record stand before them in its lists. -/
def stalls : Library :=
  let text (kind : ResourceKind) (_ : String) : Option String :=
    if kind = .are then some "\x7b\x7d"
    else if kind = .git then some ("\x7b\"Creature List\": [\x7b\x7d, \x7b\"Appearance_Type\": 0, " ++
      "\"Tag\": \"baker\"\x7d], \"Door List\": [\x7b\"TemplateResRef\": \"gate\"\x7d], " ++
      "\"WaypointList\": [\x7b\"Tag\": \"well\"\x7d]\x7d")
    else if kind = .utd then some "gate"
    else none
  ⟨.ofTexts text fun _ _ => some [("RACE", .string "baker")], .empty⟩

def beforeMarket : Session Unit := .fresh stalls .plain 0 0 ()

theorem beforeMarket_reached : beforeMarket.Reached := ⟨stalls, .plain, 0, 0, (), .here _⟩

/-- The baker is the second entry and the well the fourth. -/
theorem market_filled : ∃ area placed w, beforeMarket.world.loadArea "Market" = (.ok ⟨1⟩, w) ∧
    w.registry.objects = area :: placed ∧ placed.map Object.id = [⟨3⟩, ⟨5⟩] ∧
    placed.map (fun o => (o.tag, o.area)) = [("baker", some ⟨1⟩), ("well", some ⟨1⟩)] := by
  let entries := instances (World.instanceRecord stalls "Market")
  let market := World.contents stalls ⟨.plain, 0⟩ ⟨1⟩ entries
  have hplay : (beforeMarket.world.loadArea "Market").2.registry.issued < Registry.limit ∧
      (beforeMarket.world.loadArea "Market").1.toOption = some ⟨1⟩ ∧
      (stalls.resources.load .are "Market").toOption.join.isSome = true ∧
      (stalls.resources.load .git "Market").toOption.join.isSome = true ∧
      market.map Object.id = [⟨3⟩, ⟨5⟩] ∧
      market.map (fun o => (o.tag, o.area)) = [("baker", some ⟨1⟩), ("well", some ⟨1⟩)] := by
    decide +kernel
  obtain ⟨hlimit, hanswer, hare, hgit, hids, hplaces⟩ := hplay
  have hread : ∀ {kind}, (stalls.resources.load kind "Market").toOption.join.isSome = true →
      ∃ r, stalls.resources.load kind "Market" = .ok (some r) := by
    intro kind hsome
    cases hload : stalls.resources.load kind "Market" with
    | error e =>
      rw [hload] at hsome
      cases hsome
    | ok r =>
      rw [hload] at hsome
      obtain ⟨r, rfl⟩ := Option.isSome_iff_exists.1 hsome
      exact ⟨r, rfl⟩
  obtain ⟨are, hare⟩ := hread hare
  obtain ⟨git, hgit⟩ := hread hgit
  have hnone : ∀ h, ¬beforeMarket.world.Standing "Market" h := by
    rintro h ⟨o, a, ho, -⟩
    obtain ⟨hmem, -⟩ := beforeMarket_reached.indexed.get?_eq_some.1 ho
    cases hmem
  obtain ⟨-, hloads⟩ := loading_isolates_entries beforeMarket_reached "Market" hlimit
  obtain ⟨h, area, placed, w, hload, hfilled, -⟩ := (hloads hnone).2.2 are hare
  obtain rfl : h = ⟨1⟩ := by
    rw [hload] at hanswer
    exact Option.some_inj.1 hanswer
  have hfurnished := hfilled git hgit
  have hbuilt : placed.map Object.unnumbered = market := by
    rw [hfurnished.built ⟨.plain, 0⟩ rfl, ← World.instances_of_read hgit]
    rfl
  refine ⟨area, placed, w, hload, hfurnished.objects, ?_, ?_⟩
  · rw [← hids, ← hbuilt, List.map_map]
    rfl
  · rw [← hplaces, ← hbuilt, List.map_map]
    rfl

/-- The bound is needed: the area that comes after the last handle is answered with the handle that
names nothing, and is not put into the world. That is so in every build: the count has not gone
round yet. -/
theorem unbuilt_past_limit : ∃ s : Session Unit, s.Reached ∧
    (s.world.loadArea "Field").1.toOption = some .invalid ∧
    (s.world.loadArea "Field").2.registry.objects = [] := by
  obtain ⟨s, hs, hworld⟩ := spent_reached 4294967294
  refine ⟨s, hs, ?_, ?_⟩
  · rw [hworld]
    decide
  · rw [hworld]
    rfl

end Adventure

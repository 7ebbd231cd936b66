import Adventure.Proofs.Session.Atomicity
import Adventure.Proofs.Session.Returning
import Adventure.Proofs.World.Jumps

/-!
# Jumps in reached sessions

Which jumps are refused, and what the others change. The jump of an object other than the player's
creature asks for no script, so the interpreter makes no difference to it.
-/

namespace Adventure

open World (Jumped Linked)

variable {σ : Type} {s : Session σ}

namespace Play

variable {h area old : Handle}

theorem jumpTo_of_none (hjump : s.world.canJump h area = none) (position : Vec3)
    (run : Runner σ) : (jumpTo run h area position).ended s = .ok false ∧
      (jumpTo run h area position).after s = s := by
  unfold jumpTo
  rw [(world_bind _ s).1, (world_bind _ s).2, hjump]
  exact ⟨rfl, rfl⟩

theorem jumpTo_of_other (hjump : s.world.canJump h area = some old) (hpc : s.world.pc ≠ some h)
    (position : Vec3) (run : Runner σ) : (jumpTo run h area position).ended s = .ok true ∧
      (jumpTo run h area position).after s =
        { s with world := s.world.relocate h old area position } := by
  unfold jumpTo
  rw [(world_bind _ s).1, (world_bind _ s).2, hjump]
  simp only [if_neg hpc]
  exact ⟨rfl, rfl⟩

theorem jumpTo_answer (hjump : s.world.canJump h area = some old) {position : Vec3}
    {run : Runner σ} {answer : Bool}
    (hanswer : (jumpTo run h area position).ended s = .ok answer) : answer = true := by
  unfold jumpTo at hanswer
  rw [(world_bind _ s).1, hjump] at hanswer
  obtain ⟨_, -, hanswer⟩ := answer_of_bind hanswer
  simp only at hanswer
  split at hanswer
  · obtain ⟨_, -, hanswer⟩ := answer_of_bind hanswer
    exact (Except.ok.inj hanswer).symm
  · exact (Except.ok.inj hanswer).symm

end Play

/-- Whatever interpreter runs the scripts, a jump that answers is one of a live object in an area
into a live area, or it is refused and changes nothing. It answers if scripts return or none is
asked for. In every reached session, as long as the handles last, the jump of an object other than
the player's creature brings it to its new place and its handle to the list of the new area, and
nothing else happens: what is shown of the object aside, the rest of it, the rest of the world, and
the session around the world are as they were, and no interpreter would make a difference. -/
theorem jump_moves_alone (hs : s.Reached) (h area : Handle) (position : Vec3) :
    (∀ (run : Runner σ) answer, (Play.jumpTo run h area position).ended s = .ok answer →
      (answer = true ↔
        ∃ o, s.world.get? h = some o ∧ o.area.isSome = true ∧ s.world.isArea area = true) ∧
      (answer = false → (Play.jumpTo run h area position).after s = s)) ∧
    (∀ run : Runner σ, run.Returns ∨ s.world.pc ≠ some h →
      ∃ answer, (Play.jumpTo run h area position).ended s = .ok answer) ∧
    ∀ o old, s.world.get? h = some o → o.area = some old → s.world.isArea area = true →
      s.world.pc ≠ some h → s.world.registry.issued < Registry.limit →
      ∃ w, Jumped s.world h old area position w ∧ ∀ run : Runner σ,
        (Play.jumpTo run h area position).ended s = .ok true ∧
          (Play.jumpTo run h area position).after s = { s with world := w } := by
  have hcan : (∃ o, s.world.get? h = some o ∧ o.area.isSome = true ∧ s.world.isArea area = true) ↔
      (s.world.canJump h area).isSome = true := by
    simp only [Option.isSome_iff_exists, Linked.canJump_eq_some]
    constructor
    · rintro ⟨o, ho, ⟨old, hold⟩, harea⟩
      exact ⟨old, o, ho, hold, harea⟩
    · rintro ⟨old, o, ho, hold, harea⟩
      exact ⟨o, ho, ⟨old, hold⟩, harea⟩
  refine ⟨?_, ?_, ?_⟩
  · intro run answer hanswer
    rw [hcan]
    cases hjump : s.world.canJump h area with
    | none =>
      obtain ⟨hrefused, hsame⟩ := Play.jumpTo_of_none hjump position run
      obtain rfl : false = answer := Except.ok.inj (hrefused.symm.trans hanswer)
      exact ⟨by simp, fun _ => hsame⟩
    | some old =>
      obtain rfl := Play.jumpTo_answer hjump hanswer
      exact ⟨by simp, fun hfalse => nomatch hfalse⟩
  · rintro run (hrun | hpc)
    · obtain ⟨answer, hanswer, -⟩ := Play.returns_jumpTo hrun h area position s
      exact ⟨answer, hanswer⟩
    · cases hjump : s.world.canJump h area with
      | none => exact ⟨false, (Play.jumpTo_of_none hjump position run).1⟩
      | some old => exact ⟨true, (Play.jumpTo_of_other hjump hpc position run).1⟩
  · intro o old ho hold harea hpc hlimit
    have hjump : s.world.canJump h area = some old :=
      Linked.canJump_eq_some.2 ⟨o, ho, hold, harea⟩
    exact ⟨_, (hs.linked hlimit).jumped (hs.listed hlimit) hjump hpc position,
      Play.jumpTo_of_other hjump hpc position⟩

/-! ### A waypoint with a note -/

/-- A module with a field to enter it, and a cave with a waypoint that has a note for the map. -/
def charted : Library :=
  let text (kind : ResourceKind) (name : String) : Option String :=
    if kind = .ifo then some "\x7b\"Mod_Entry_Area\": \"field\"\x7d"
    else if kind = .are then some "\x7b\x7d"
    else if kind = .git ∧ name = "cave" then
      some "\x7b\"WaypointList\": [\x7b\"HasMapNote\": 1, \"MapNoteEnabled\": 1\x7d]\x7d"
    else none
  ⟨.ofTexts text fun _ _ => none, .empty⟩

/-- The player's creature is in the field, and the waypoint in the cave. -/
def surveying : Session Unit := arrival.after (.fresh charted .plain 0 0 ())

theorem surveying_reached : surveying.Reached :=
  ⟨charted, .plain, 0, 0, (), (Session.Leads.here _).play .idle arrival_composed⟩

/-- The waypoint jumps into the field, and the cave does not list it any more. -/
theorem waypoint_jumps : ∃ w,
    (Play.jumpTo .idle ⟨4⟩ ⟨2⟩ .zero).after surveying = { surveying with world := w } ∧
      (w.get? ⟨4⟩).map Object.area = some (some ⟨2⟩) ∧ w.list? ⟨3⟩ = some [] := by
  have hplay : (surveying.world.get? ⟨4⟩).map Object.area = some (some ⟨3⟩) ∧
      surveying.world.isArea ⟨2⟩ = true ∧ surveying.world.pc ≠ some ⟨4⟩ ∧
      surveying.world.registry.issued < Registry.limit ∧
      surveying.world.list? ⟨3⟩ = some [⟨4⟩] := by decide +kernel
  obtain ⟨hplace, harea, hpc, hlimit, hcave⟩ := hplay
  obtain ⟨o, ho, hplace⟩ := Option.map_eq_some_iff.1 hplace
  obtain ⟨-, -, hmoves⟩ := jump_moves_alone surveying_reached ⟨4⟩ ⟨2⟩ .zero
  obtain ⟨w, hjumped, hplayed⟩ := hmoves o ⟨3⟩ ho hplace harea hpc hlimit
  obtain ⟨o', ho', hsame⟩ := hjumped.object o ho
  refine ⟨w, (hplayed .idle).2, ?_, ?_⟩
  · have hhidden := congrArg Object.area hsame
    rw [(Object.alike_hide _).kin.area, (Object.alike_hide _).kin.area] at hhidden
    rw [ho', Option.map_some, hhidden]
    rfl
  · obtain ⟨a, ha, hlist⟩ := Option.map_eq_some_iff.1 hcave
    obtain ⟨cave, hcave, ha⟩ := Option.bind_eq_some_iff.1 ha
    unfold World.list?
    rw [hjumped.leaves (by decide) cave hcave, Option.bind_some, Object.area?_mapArea, ha]
    simp [hlist]

/-- The note of the waypoint, which has no model, is shown when the waypoint jumps to the player's
creature. -/
theorem jump_shows_note : surveying.Reached ∧ surveying.world.pc ≠ some ⟨4⟩ ∧
    (Play.jumpTo .idle ⟨4⟩ ⟨2⟩ .zero).ended surveying = .ok true ∧
    (surveying.world.get? ⟨4⟩).map
        (fun o => (o.model.isSome, o.waypoint?.map Waypoint.noteShown)) = some (false, some false) ∧
    (((Play.jumpTo .idle ⟨4⟩ ⟨2⟩ .zero).after surveying).world.get? ⟨4⟩).map
        (fun o => (o.model.isSome, o.waypoint?.map Waypoint.noteShown)) =
      some (false, some true) := by
  refine ⟨surveying_reached, ?_⟩
  decide +kernel

end Adventure

import Adventure.Proofs.Session.Reach

/-!
# Coherent worlds

In every reached session what the world says about its objects holds of live ones: its areas are the
live areas by name, its module is the only one, objects are in live areas, and the player's creature
is a live creature of the player. This goes on until the handles are used up; the next area would
get the handle that names nothing.
-/

namespace Adventure

namespace World

/-- The four cross-references of a world. -/
structure Coherent (w : World) : Prop where
  /-- A key of the areas is the resource name, in small letters, of the area that its handle leads
  to. -/
  named : ∀ key h, (key, h) ∈ w.areas →
    ∃ o a, w.get? h = some o ∧ o.area? = some a ∧ key = Text.asciiLower a.resref
  keys : w.areas.keys.Nodup
  /-- Every live area is in the map once. -/
  once : ∀ h o, w.get? h = some o → o.area?.isSome = true → w.areas.values.count h = 1
  module : w.moduleId = .invalid ∨
    ∃ o, w.get? w.moduleId = some o ∧ o.module?.isSome = true
  only : ∀ h o, w.get? h = some o → o.module?.isSome = true → h = w.moduleId
  placed : ∀ h o a, w.get? h = some o → o.area = some a →
    ∃ b, w.get? a = some b ∧ b.area?.isSome = true
  unplaced : ∀ h o, w.get? h = some o → o.area?.isSome = true ∨ o.module?.isSome = true →
    o.area = none
  player : ∀ p, w.pc = some p → ∃ o c, w.get? p = some o ∧ o.creature? = some c ∧ c.isPc = true

theorem Linked.unplaced {w : World} (hl : Linked w) {o : Object} (ho : o ∈ w.registry.objects)
    (hk : o.kind.isGameObject = false) : o.area = none := by
  cases ha : o.area with
  | none => rfl
  | some a =>
    rw [hl.game o ho a ha] at hk
    cases hk

theorem Linked.coherent {w : World} (hl : Linked w) : Coherent w := by
  have hget : ∀ {h o}, w.get? h = some o ↔ o ∈ w.registry.objects ∧ o.id = h :=
    hl.sound.indexed.get?_eq_some
  refine ⟨?_, Dict.keys_nodup hl.keys, ?_, ?_, ?_, ?_, ?_, ?_⟩
  · intro key h hentry
    obtain ⟨o, ho, hid, hname⟩ := hl.named (key, h) hentry
    obtain ⟨resref, hresref, hkey⟩ := Option.map_eq_some_iff.1 hname
    obtain ⟨a, ha, rfl⟩ := Option.map_eq_some_iff.1 hresref
    exact ⟨o, a, hget.2 ⟨ho, hid⟩, ha, hkey.symm⟩
  · intro h o hg harea
    obtain ⟨ho, rfl⟩ := hget.1 hg
    have hvalue := hl.listed o ho ((Object.area?_isSome o).1 harea)
    exact List.count_eq_one_of_mem hl.values hvalue
  · cases hv : w.moduleId.isValid with
    | false => exact Or.inl (by simpa [Handle.isValid] using hv)
    | true =>
      obtain ⟨o, ho, hid, hkind⟩ := hl.module hv
      exact Or.inr ⟨o, hget.2 ⟨ho, hid⟩, (Object.module?_isSome o).2 hkind⟩
  · intro h o hg hmodule
    obtain ⟨ho, rfl⟩ := hget.1 hg
    exact hl.only o ho ((Object.module?_isSome o).1 hmodule)
  · intro h o a hg ha
    obtain ⟨ho, -⟩ := hget.1 hg
    obtain ⟨b, hb, hba, hbk⟩ := hl.placed o ho a ha
    exact ⟨b, hget.2 ⟨hb, hba⟩, (Object.area?_isSome b).2 hbk⟩
  · intro h o hg hkind
    obtain ⟨ho, -⟩ := hget.1 hg
    refine hl.unplaced ho ?_
    rcases hkind with harea | hmodule
    · rw [(Object.area?_isSome o).1 harea]
      rfl
    · rw [(Object.module?_isSome o).1 hmodule]
      rfl
  · intro p hp
    obtain ⟨o, ho, hid, hisPc⟩ := hl.player p hp
    unfold Object.isPc at hisPc
    obtain ⟨c, hc, hflag⟩ := (Option.any_eq_true ..).1 hisPc
    exact ⟨o, c, hget.2 ⟨ho, hid⟩, hc, hflag⟩

end World

open World (Coherent)

variable {σ : Type}

/-- Every reached session has a coherent world, as long as fewer handles have been given out than
there are. -/
theorem reached_coherent {s : Session σ} (hs : s.Reached)
    (hlimit : s.world.registry.issued < Registry.limit) : s.world.Coherent :=
  (hs.linked hlimit).coherent

/-! ### A session with an area -/

/-- A library in which every area has an empty record. -/
def emptyAreas : Library :=
  ⟨.ofTexts (fun kind _ => if kind = .are then some "{}" else none) fun _ _ => none, .empty⟩

def oneArea : Session Unit :=
  (Play.act fun w => w.loadArea "Field").after (.fresh emptyAreas .plain 0 0 ())

theorem oneArea_reached : oneArea.Reached :=
  ⟨emptyAreas, .plain, 0, 0, (), (Session.Leads.here _).operation .idle (.loadArea "Field")⟩

theorem oneArea_coherent : oneArea.world.areas = [("field", ⟨1⟩)] ∧ oneArea.world.Coherent :=
  ⟨rfl, reached_coherent oneArea_reached (by decide)⟩

/-! ### When the handles are used up -/

/-- A player's creature without an appearance is not built, but its handle is given out. So attempts
to build one use up any number of handles. -/
theorem spent_leads (s : Session Unit) (n : Nat) : s.Leads { s with
    world := s.world.setRegistry
      { s.world.registry with issued := s.world.registry.issued + n } } := by
  induction n with
  | zero => exact .here s
  | succ n ih => exact ih.operation .idle (.loadPc [])

theorem spent_reached (n : Nat) : ∃ s : Session Unit, s.Reached ∧ s.world =
    (World.new emptyAreas .plain 0 0).setRegistry { Registry.empty with issued := n } := by
  refine ⟨_, ⟨emptyAreas, .plain, 0, 0, (), spent_leads (.fresh emptyAreas .plain 0 0 ()) n⟩, ?_⟩
  show World.setRegistry _ { Registry.empty with issued := 0 + n } = _
  rw [Nat.zero_add]
  rfl

/-- The bound is needed: the area that comes after the last handle leads to nothing. It does so in
every build: the count has not gone round yet. -/
theorem incoherent_past_limit : ∃ s : Session Unit, s.Reached ∧ ¬ s.world.Coherent := by
  obtain ⟨s, hs, hworld⟩ := spent_reached 4294967294
  refine ⟨_, hs.leads ((Session.Leads.here s).operation .idle (.loadArea "Field")), ?_⟩
  show ¬ (s.world.loadArea "Field").2.Coherent
  intro hc
  have hload : (s.world.loadArea "Field").2 = (s.world.addArea "Field" []).2 := by
    rw [hworld]
    rfl
  obtain ⟨area, placed, r, hadded⟩ := World.addArea_spec s.world "Field" []
  have hhandle : (s.world.addArea "Field" []).1 = .invalid := by
    rw [hadded.handle, hworld]
    rfl
  have hentry : ("field", Handle.invalid) ∈ (s.world.loadArea "Field").2.areas := by
    rw [hload, hadded.areas, hhandle, hworld]
    exact List.mem_singleton.2 rfl
  obtain ⟨o, a, hg, -⟩ := hc.named _ _ hentry
  cases hg

end Adventure

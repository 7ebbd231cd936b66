import Adventure.Proofs.Registry.History
import Adventure.Proofs.Session.Coherence

/-!
# Handles are never given out twice

However play goes on, a handle whose object has gone leads to nothing for good, and what comes in
has a handle that was given out for it. So the order of handles is the order in which objects are
listed, in the registry, under every tag and in every area.
-/

namespace Adventure

open Handle (Before)
open Object (Same)

namespace World

/-- The handle leads to nothing: no view finds anything behind it and no change reaches anything. -/
structure Gone (w : World) (h : Handle) : Prop where
  object : w.get? h = none
  view : ∀ (β : Type) (view : Object → Option β), (w.get? h).bind view = none
  change : ∀ f : Object → Object, w.update h f = w

/-- The live handles in the order in which they were given out, and every list of them in the same
order. -/
structure InOrder (w : World) : Prop where
  ids : w.registry.ids.Pairwise Before
  issued : ∀ h ∈ w.registry.ids, 0 < h.number ∧ h.number ≤ w.registry.issued
  withTag : ∀ tag, w.registry.withTag tag =
    w.registry.ids.filter fun h => (w.get? h).any (·.hasTag tag)
  inArea : ∀ area, w.registry.inArea area =
    w.registry.ids.filter fun h => (w.get? h).any fun o => o.area = some area

theorem gone_of_none {w : World} (hs : w.registry.Sound) {h : Handle} (hg : w.get? h = none) :
    Gone w h := by
  refine ⟨hg, ?_, ?_⟩
  · intro β view
    rw [hg]
    rfl
  · intro f
    have hno : ∀ o ∈ w.registry.objects, o.id ≠ h := by
      intro o ho hid
      have hfound := hs.indexed.get?_eq_some.2 ⟨ho, hid⟩
      rw [show w.registry.get? h = none from hg] at hfound
      cases hfound
    have hobjects : (w.registry.objects.map fun o => if o.id = h then f o else o) =
        w.registry.objects := by
      rw [List.map_congr_left fun o ho => if_neg (hno o ho), List.map_id']
    unfold update Registry.update
    split
    · rw [hobjects]
    · rfl

theorem inOrder {w : World} (hs : w.registry.Sound) : InOrder w := by
  refine ⟨hs.ordered, hs.given, ?_, ?_⟩
  · intro tag
    refine Registry.eq_of_order Nat.lt_asymm (hs.tagged _) (hs.ordered.filter _) ?_
    intro h
    rw [hs.indexed.mem_withTag_hasTag, List.mem_filter, Option.any_eq_true, hs.indexed.mem_ids]
    constructor
    · rintro ⟨o, hg, htag⟩
      exact ⟨by rw [hg]; rfl, o, hg, htag⟩
    · exact fun hh => hh.2
  · intro area
    unfold Registry.inArea Registry.ids
    rw [List.filter_map]
    congr 1
    refine List.filter_congr fun o ho => ?_
    have hg : w.get? o.id = some o := hs.indexed.get?_eq_some.2 ⟨ho, rfl⟩
    simp only [Function.comp_apply, hg, Option.any_some]

end World

variable {σ : Type}

/-- From one reached session to a later one, as long as fewer handles have been given out than there
are. A handle that has lost its object leads to nothing later. An object of the later session is
what one of the earlier session has become, or its handle had not been given out. Handles and lists
of handles are in the order in which the handles were given out. -/
theorem handles_never_return {s₀ s₁ s₂ : Session σ} (hs : s₀.Reached) (hfirst : s₀.Leads s₁)
    (hsecond : s₁.Leads s₂) (hlimit : s₂.world.registry.issued < Registry.limit) :
    (∀ h, s₀.world.get? h ≠ none → s₁.world.get? h = none → s₂.world.Gone h) ∧
      (∀ o₂ ∈ s₂.world.registry.objects,
        (∃ o₁ ∈ s₁.world.registry.objects, Same o₁ o₂) ∨
          s₁.world.registry.issued < o₂.id.number) ∧
      s₁.world.registry.issued ≤ s₂.world.registry.issued ∧ s₂.world.InOrder := by
  have hfollows := hsecond.moves.follows
  have hlimit₁ := hfollows.issued.trans_lt hlimit
  have hlimit₀ := hfirst.moves.follows.issued.trans_lt hlimit₁
  have hsound₀ := (hs.linked hlimit₀).sound
  have hsound₁ := ((hs.leads hfirst).linked hlimit₁).sound
  have hsound₂ := (((hs.leads hfirst).leads hsecond).linked hlimit).sound
  refine ⟨?_, hfollows.live hlimit, hfollows.issued, World.inOrder hsound₂⟩
  intro h hlive hgone
  refine World.gone_of_none hsound₂ ?_
  -- The handle was given out before the first session, so nothing new can have it.
  obtain ⟨o₀, hg₀⟩ := Option.ne_none_iff_exists'.1 hlive
  obtain ⟨ho₀, rfl⟩ := hsound₀.indexed.get?_eq_some.1 hg₀
  have hold : o₀.id.number ≤ s₁.world.registry.issued :=
    (hsound₀.given _ (List.mem_map_of_mem ho₀)).2.trans hfirst.moves.follows.issued
  cases hg₂ : s₂.world.get? o₀.id with
  | none => rfl
  | some o₂ =>
    obtain ⟨ho₂, hid⟩ := hsound₂.indexed.get?_eq_some.1 hg₂
    rcases hfollows.live hlimit o₂ ho₂ with ⟨o₁, ho₁, hsame⟩ | hnew
    · have hg₁ := hsound₁.indexed.get?_eq_some.2 ⟨ho₁, hsame.id.symm.trans hid⟩
      rw [show s₁.world.registry.get? o₀.id = none from hgone] at hg₁
      cases hg₁
    · rw [hid] at hnew
      omega

/-! ### An area that is loaded twice -/

/-- The session after the area has been unloaded again. -/
def noArea : Session Unit := (Play.change fun w => w.unloadArea ⟨1⟩).after oneArea

/-- The session after it has been loaded anew. -/
def oneAreaAgain : Session Unit := (Play.act fun w => w.loadArea "Field").after noArea

theorem handle_of_area_never_returns : oneArea.world.get? ⟨1⟩ ≠ none ∧
    noArea.world.get? ⟨1⟩ = none ∧ oneAreaAgain.world.areas = [("field", ⟨2⟩)] ∧
    oneAreaAgain.world.Gone ⟨1⟩ := by
  have hlive : oneArea.world.get? ⟨1⟩ ≠ none := by
    intro h
    cases h
  have hgone : noArea.world.get? ⟨1⟩ = none := rfl
  have hunloaded : oneArea.Leads noArea := (Session.Leads.here _).operation .idle (.unloadArea ⟨1⟩)
  have hloaded : noArea.Leads oneAreaAgain := (Session.Leads.here _).operation .idle (.loadArea "Field")
  refine ⟨hlive, hgone, rfl, ?_⟩
  exact (handles_never_return oneArea_reached hunloaded hloaded (by decide)).1 ⟨1⟩ hlive hgone

end Adventure

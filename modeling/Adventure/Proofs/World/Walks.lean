import Adventure.Proofs.Registry.Searching
import Adventure.Proofs.World.Strides

/-!
# Walks over areas

A walk belongs to a caller and an area. Beginning it sets out what is ahead, its calls use that up
from the front, and whatever else is done with the world leaves it alone or takes it away. One lemma
says this of a stride; along a trail of strides a walk is then a search over what was in the area
when it was begun, and without a walk there is nothing to be found.
-/

namespace Adventure.World

open Search (Visit Passes)

variable {w w' : World} {caller area : Handle}

/-! ### What is ahead -/

/-- What a caller's walk over an area has still ahead of it, nothing if it was never begun. -/
def ahead (w : World) (caller area : Handle) : List Handle :=
  ((w.walks.lookup (caller, area)).map Search.ahead).getD []

/-- What a walk over an area goes through when it is begun. -/
def walkable (w : World) (area : Handle) : List Handle :=
  (w.registry.inArea area).filter fun h => w.pc ≠ some h

theorem ahead_congr (h : w'.walks = w.walks) (caller area : Handle) :
    w'.ahead caller area = w.ahead caller area := by
  unfold ahead
  rw [h]

theorem ahead_filter {p : Handle × Handle → Bool}
    (h : w'.walks = w.walks.filter fun entry => p entry.1) (caller area : Handle) :
    w'.ahead caller area = if p (caller, area) then w.ahead caller area else [] := by
  unfold ahead
  rw [h, lookup_filter]
  split <;> rfl

theorem ahead_setWalk (w : World) (caller area : Handle) (s : Search) (key : Handle × Handle) :
    (w.setWalk caller area s).ahead key.1 key.2 =
      if key = (caller, area) then s.ahead else w.ahead key.1 key.2 := by
  unfold setWalk ahead
  simp only [List.lookup_cons]
  by_cases hkey : key = (caller, area)
  · simp [hkey]
  · have hne : (key == (caller, area)) = false := beq_eq_false_iff_ne.2 hkey
    simp only [Prod.mk.eta, hne, if_neg hkey]
    rw [lookup_filter fun k => decide (k ≠ (caller, area))]
    simp [hkey]

/-! ### One call -/

theorem visit_answer {r : Registry} (hr : r.Indexed) (s : Search) {answer : Handle}
    (h : answer = if (s.next r).1 then (s.next r).2.current.getD .invalid else .invalid) :
    (⟨r, answer.isValid, answer.valid?⟩ : Visit) = s.visit r := by
  unfold Search.visit
  rcases Search.next_cases hr s with ⟨gone, g, rest, -, -, hlive, hnext⟩ | ⟨-, hnext⟩
  · rw [hnext] at h ⊢
    have hvalid : g.isValid = true := by
      by_contra hg
      exact hlive (if_neg hg)
    subst h
    simp [Handle.valid?, hvalid]
  · rw [hnext] at h ⊢
    subst h
    rfl

theorem passes_nextInArea (hw : w.registry.Indexed) (caller area : Handle) {visits : List Visit}
    {left : List Handle} (h : Passes ((w.nextInArea caller area).2.ahead caller area) visits left) :
    Passes (w.ahead caller area) (⟨w.registry, (w.nextInArea caller area).1.isValid,
      (w.nextInArea caller area).1.valid?⟩ :: visits) left := by
  unfold nextInArea at h ⊢
  cases hwalk : w.walks.lookup (caller, area) with
  | none =>
    have hnothing : w.ahead caller area = [] := by
      unfold ahead
      rw [hwalk]
      rfl
    rw [hwalk] at h
    simp only [hnothing] at h ⊢
    exact .missed (fun g hg => nomatch hg) h
  | some s =>
    have hahead : w.ahead caller area = s.ahead := by
      unfold ahead
      rw [hwalk]
      rfl
    rw [hwalk] at h
    have hset := ahead_setWalk w caller area (s.next w.registry).2 (caller, area)
    rw [if_pos rfl] at hset
    rw [hahead]
    simp only [hset] at h ⊢
    rw [visit_answer hw s rfl]
    exact Passes.next hw h

theorem passes_firstInArea (hw : w.registry.Indexed) (caller area : Handle) {visits : List Visit}
    {left : List Handle} (h : Passes ((w.firstInArea caller area).2.ahead caller area) visits left) :
    Passes (w.walkable area) (⟨w.registry, (w.firstInArea caller area).1.isValid,
      (w.firstInArea caller area).1.valid?⟩ :: visits) left := by
  have hbegun : (w.setWalk caller area (.ofList (w.walkable area))).ahead caller area =
      w.walkable area := by
    have hset := ahead_setWalk w caller area (.ofList (w.walkable area)) (caller, area)
    rwa [if_pos rfl] at hset
  have hpasses := passes_nextInArea
    (w := w.setWalk caller area (.ofList (w.walkable area))) hw caller area h
  rw [hbegun] at hpasses
  exact hpasses

theorem ahead_nextInArea_other {c a : Handle} (hne : (caller, area) ≠ (c, a)) :
    (w.nextInArea c a).2.ahead caller area = w.ahead caller area := by
  unfold nextInArea
  split
  · rfl
  · rename_i s _
    have hset := ahead_setWalk w c a (s.next w.registry).2 (caller, area)
    rwa [if_neg hne] at hset

theorem ahead_firstInArea_other {c a : Handle} (hne : (caller, area) ≠ (c, a)) :
    (w.firstInArea c a).2.ahead caller area = w.ahead caller area := by
  have hset := ahead_setWalk w c a (.ofList (w.walkable a)) (caller, area)
  rw [if_neg hne] at hset
  exact (ahead_nextInArea_other hne).trans hset

/-! ### One stride -/

/-- A world and what is done with it. -/
structure Moment where
  world : World
  doing : Doing

namespace Moment

def Calls (m : Moment) (caller area : Handle) : Prop :=
  m.doing = .first caller area ∨ m.doing = .next caller area

instance (m : Moment) (caller area : Handle) : Decidable (m.Calls caller area) :=
  inferInstanceAs (Decidable (_ ∨ _))

def Begins (m : Moment) (caller area : Handle) : Prop := m.doing = .first caller area

/-- Does this take the caller's walk over the area away? The caller is destroyed, the area is
unloaded, or the module is. -/
def Breaks (m : Moment) (caller area : Handle) : Prop :=
  match m.doing with
  | .destroy h => h = caller ∧ (m.world.destroyObject h).1 = true
  | .unloadArea a => a = area ∧ m.world.isArea a = true
  | .unload => True
  | _ => False

def answer (m : Moment) : Handle :=
  match m.doing with
  | .first caller area => (m.world.firstInArea caller area).1
  | .next caller area => (m.world.nextInArea caller area).1
  | _ => .invalid

def visit (m : Moment) : Visit := ⟨m.world.registry, m.answer.isValid, m.answer.valid?⟩

end Moment

/-- Apart from its own calls a walk is left alone or taken away. -/
theorem Stride.ahead_cases {k : Kind} {d : Doing} (h : Stride w k d w') (caller area : Handle)
    (hcalls : ¬ Moment.Calls ⟨w, d⟩ caller area) :
    Moment.Breaks ⟨w, d⟩ caller area ∧ w'.ahead caller area = [] ∨
      ¬ Moment.Breaks ⟨w, d⟩ caller area ∧ w'.ahead caller area = w.ahead caller area := by
  cases h with
  | first c a =>
    refine .inr ⟨id, ahead_firstInArea_other ?_⟩
    rintro ⟨⟩
    exact hcalls (.inl rfl)
  | next c a =>
    refine .inr ⟨id, ahead_nextInArea_other ?_⟩
    rintro ⟨⟩
    exact hcalls (.inr rfl)
  | destroy h =>
    rcases (destroyObject_spec w h).2 with ⟨hdone, hwalks⟩ | ⟨hnot, hwalks⟩
    · have hahead := ahead_filter (p := fun key => decide (key.1 ≠ h)) hwalks caller area
      by_cases hcaller : h = caller
      · exact .inl ⟨⟨hcaller, hdone⟩, hahead.trans (if_neg (by simp [hcaller]))⟩
      · refine .inr ⟨fun hbreaks => hcaller hbreaks.1, hahead.trans (if_pos ?_)⟩
        simpa using Ne.symm hcaller
    · refine .inr ⟨fun hbreaks => ?_, ahead_congr hwalks caller area⟩
      exact Bool.false_ne_true (hnot.symm.trans hbreaks.2)
  | unloadArea a =>
    rcases (unloadArea_spec w a).2 with ⟨hdone, hwalks⟩ | ⟨hnot, hwalks⟩
    · have hahead := ahead_filter (p := fun key => decide (key.2 ≠ a)) hwalks caller area
      by_cases harea : a = area
      · exact .inl ⟨⟨harea, hdone⟩, hahead.trans (if_neg (by simp [harea]))⟩
      · refine .inr ⟨fun hbreaks => harea hbreaks.1, hahead.trans (if_pos ?_)⟩
        simpa using Ne.symm harea
    · refine .inr ⟨fun hbreaks => ?_, ahead_congr hwalks caller area⟩
      exact Bool.false_ne_true (hnot.symm.trans hbreaks.2)
  | unload =>
    refine .inl ⟨trivial, ?_⟩
    unfold ahead
    rw [unload_walks]
    rfl
  | other _ walks => exact .inr ⟨id, ahead_congr walks caller area⟩

/-! ### Trails -/

/-- Strides one after the other, each with the world that it is made in. -/
inductive Trail : World → List Moment → World → Prop where
  | rest (w : World) : Trail w [] w
  | stride {k : Kind} {d : Doing} {w middle w' : World} {trail : List Moment}
    (first : Stride w k d middle) (later : Trail middle trail w') : Trail w (⟨w, d⟩ :: trail) w'

def visits (caller area : Handle) (trail : List Moment) : List Visit :=
  (trail.filter fun m => m.Calls caller area).map Moment.visit

theorem visits_cons_of_calls {m : Moment} (h : m.Calls caller area) (trail : List Moment) :
    visits caller area (m :: trail) = m.visit :: visits caller area trail := by
  unfold visits
  rw [List.filter_cons_of_pos (by simpa using h), List.map_cons]

theorem visits_cons_of_not_calls {m : Moment} (h : ¬ m.Calls caller area) (trail : List Moment) :
    visits caller area (m :: trail) = visits caller area trail := by
  unfold visits
  rw [List.filter_cons_of_neg (by simpa using h)]

namespace Trail

variable {trail : List Moment}

theorem append {middle : World} {later : List Moment} (h : Trail w trail middle)
    (hlater : Trail middle later w') : Trail w (trail ++ later) w' := by
  induction h with
  | rest w => exact hlater
  | stride first _ ih => exact .stride first (ih hlater)

theorem split {past later : List Moment} (h : Trail w (past ++ later) w') :
    ∃ middle, Trail w past middle ∧ Trail middle later w' := by
  induction past generalizing w with
  | nil => exact ⟨w, .rest w, h⟩
  | cons m past ih =>
    cases h with
    | stride first rest =>
      obtain ⟨middle, hpast, hlater⟩ := ih rest
      exact ⟨middle, .stride first hpast, hlater⟩

theorem indexed (h : Trail w trail w') (hw : w.registry.Indexed) : w'.registry.Indexed := by
  induction h with
  | rest w => exact hw
  | stride first _ ih => exact ih (first.step.follows.indexed hw)

/-- As long as it is neither begun anew nor taken away, a walk goes through what was ahead of it. -/
theorem passes (h : Trail w trail w') (hw : w.registry.Indexed)
    (hcalm : ∀ m ∈ trail, ¬ m.Begins caller area ∧ ¬ m.Breaks caller area) :
    Passes (w.ahead caller area) (visits caller area trail) (w'.ahead caller area) := by
  -- Along the trail; what is ahead after the first stride is what the rest goes through.
  induction h with
  | rest w => exact .ahead _
  | @stride k d w middle w' trail first later ih =>
    obtain ⟨⟨hbegins, hbreaks⟩, hrest⟩ := List.forall_mem_cons.1 hcalm
    have hpasses := ih (first.step.follows.indexed hw) hrest
    by_cases hcalls : Moment.Calls ⟨w, d⟩ caller area
    · rw [visits_cons_of_calls hcalls]
      obtain rfl : d = .next caller area := hcalls.resolve_left hbegins
      cases first with
      | next => exact passes_nextInArea hw caller area hpasses
    · rw [visits_cons_of_not_calls hcalls]
      rcases first.ahead_cases caller area hcalls with ⟨hbroken, -⟩ | ⟨-, hsame⟩
      · exact absurd hbroken hbreaks
      · rwa [← hsame]

theorem passes_of_begins {m : Moment} (h : Trail w (m :: trail) w') (hw : w.registry.Indexed)
    (hbegins : m.Begins caller area)
    (hcalm : ∀ e ∈ trail, ¬ e.Begins caller area ∧ ¬ e.Breaks caller area) :
    Passes (m.world.walkable area) (visits caller area (m :: trail)) (w'.ahead caller area) := by
  obtain ⟨u, d⟩ := m
  obtain rfl : d = .first caller area := hbegins
  rw [visits_cons_of_calls (.inl rfl)]
  cases h with
  | stride first later =>
    have hpasses := later.passes (first.step.follows.indexed hw) hcalm
    cases first with
    | first => exact passes_firstInArea hw caller area hpasses

theorem silent (h : Trail w trail w') (hw : w.registry.Indexed) (hnone : w.ahead caller area = [])
    (hbegins : ∀ m ∈ trail, ¬ m.Begins caller area) :
    ∀ m ∈ trail, m.Calls caller area → m.answer = .invalid := by
  induction h with
  | rest w => exact fun m hm => nomatch hm
  | @stride k d w middle w' trail first later ih =>
    obtain ⟨hfirst, hrest⟩ := List.forall_mem_cons.1 hbegins
    -- The walk has nothing ahead after this stride either.
    have hstep : middle.ahead caller area = [] ∧
        (Moment.Calls ⟨w, d⟩ caller area → Moment.answer ⟨w, d⟩ = .invalid) := by
      by_cases hcalls : Moment.Calls ⟨w, d⟩ caller area
      · obtain rfl : d = .next caller area := hcalls.resolve_left hfirst
        cases first with
        | next =>
          have hpasses := passes_nextInArea hw caller area (.ahead _)
          rw [hnone] at hpasses
          have hmissed := (hpasses.nothing _ List.mem_cons_self).1
          have hinvalid : (w.nextInArea caller area).1 = .invalid := by
            simpa [Handle.isValid] using hmissed
          have hsub := (List.sublist_append_right _ _).trans hpasses.sublist
          exact ⟨List.sublist_nil.1 hsub, fun _ => hinvalid⟩
      · refine ⟨?_, fun h => absurd h hcalls⟩
        rcases first.ahead_cases caller area hcalls with ⟨-, hgone⟩ | ⟨-, hsame⟩
        · exact hgone
        · exact hsame.trans hnone
    intro m hm
    rcases List.mem_cons.1 hm with rfl | hm
    · exact hstep.2
    · exact ih (first.step.follows.indexed hw) hstep.1 hrest m hm

theorem ahead_of_breaks {m : Moment} (h : Trail w (trail ++ [m]) w')
    (hbreaks : m.Breaks caller area) : w'.ahead caller area = [] := by
  obtain ⟨middle, -, hlast⟩ := h.split
  cases hlast with
  | @stride k d _ _ _ _ first later =>
    cases later
    have hcalls : ¬ Moment.Calls ⟨middle, d⟩ caller area := by
      rintro (rfl | rfl) <;> exact hbreaks
    rcases first.ahead_cases caller area hcalls with ⟨-, hgone⟩ | ⟨hnot, -⟩
    · exact hgone
    · exact absurd hbreaks hnot

end Trail

theorem course_trail : Course (fun _ => True) fun w w' => ∃ trail, Trail w trail w' where
  refl w := ⟨[], .rest w⟩
  trans := fun ⟨_, first⟩ ⟨_, second⟩ => ⟨_, first.append second⟩
  stride _ h := ⟨_, .stride h (.rest _)⟩

theorem mem_walkable (hw : w.registry.Indexed) {h : Handle} : h ∈ w.walkable area ↔
    ∃ o, w.get? h = some o ∧ o.area = some area ∧ w.pc ≠ some h := by
  unfold walkable Registry.inArea
  simp only [List.mem_filter, List.mem_map, decide_eq_true_eq]
  constructor
  · rintro ⟨⟨o, ⟨ho, harea⟩, rfl⟩, hpc⟩
    exact ⟨o, hw.get?_eq_some.2 ⟨ho, rfl⟩, harea, hpc⟩
  · rintro ⟨o, hlive, harea, hpc⟩
    obtain ⟨ho, hid⟩ := hw.get?_eq_some.1 hlive
    exact ⟨⟨o, ⟨ho, harea⟩, hid⟩, hpc⟩

theorem walkable_sublist (w : World) (area : Handle) :
    (w.walkable area).Sublist w.registry.ids :=
  List.filter_sublist.trans (List.filter_sublist.map Object.id)

end Adventure.World

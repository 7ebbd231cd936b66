import Adventure.Object.Loading
import Adventure.Proofs.Registry.History
import Mathlib.Logic.Function.Basic

/-!
# Searches over a changing registry

A search goes through the handles that were there when it began. Between its calls the registry may
change in any way and other searches may go on. Each call passes over the candidates that are not
live at its time and stops on the first one that is, and after the last one there is nothing more to
stop on. One lemma says what a call does, the others follow it through a run.
-/

namespace Adventure.Search

/-! ### Calls one after another -/

/-- A call that moves a search on: the registry at that time, whether the search has found anything,
and what it has stopped on. -/
structure Visit where
  registry : Registry
  found : Bool
  stop : Option Handle

/-- The calls take a search through its candidates to those that are still ahead. -/
inductive Passes : List Handle → List Visit → List Handle → Prop where
  | ahead (hs : List Handle) : Passes hs [] hs
  | stop {gone rest left : List Handle} {h : Handle} {r : Registry} {visits : List Visit}
    (skipped : ∀ g ∈ gone, r.get? g = none) (live : r.get? h ≠ none)
    (later : Passes rest visits left) : Passes (gone ++ h :: rest) (⟨r, true, some h⟩ :: visits) left
  | missed {gone left : List Handle} {r : Registry} {visits : List Visit}
    (skipped : ∀ g ∈ gone, r.get? g = none) (later : Passes [] visits left) :
    Passes gone (⟨r, false, none⟩ :: visits) left

namespace Passes

variable {hs left : List Handle} {visits : List Visit}

theorem sublist (h : Passes hs visits left) :
    (visits.filterMap Visit.stop ++ left).Sublist hs := by
  induction h with
  | ahead hs => exact List.Sublist.refl hs
  | @stop gone rest left h r visits skipped live later ih =>
    rw [List.filterMap_cons_some (show Visit.stop ⟨r, true, some h⟩ = some h from rfl)]
    exact (ih.cons_cons h).trans (List.sublist_append_right gone (h :: rest))
  | @missed gone left r visits skipped later ih =>
    rw [List.filterMap_cons_none (show Visit.stop ⟨r, false, none⟩ = none from rfl)]
    exact ih.trans (List.nil_sublist gone)

theorem live (h : Passes hs visits left) :
    ∀ v ∈ visits, (v.found = true ↔ v.stop.isSome = true) ∧
      ∀ g, v.stop = some g → v.registry.get? g ≠ none := by
  induction h with
  | ahead hs => exact fun v hv => nomatch hv
  | stop skipped live later ih =>
    intro v hv
    rcases List.mem_cons.1 hv with rfl | hv
    · refine ⟨iff_of_true rfl rfl, ?_⟩
      rintro g ⟨⟩
      exact live
    · exact ih v hv
  | missed skipped later ih =>
    intro v hv
    rcases List.mem_cons.1 hv with rfl | hv
    · exact ⟨iff_of_false Bool.false_ne_true Bool.false_ne_true, fun g hg => nomatch hg⟩
    · exact ih v hv

theorem nothing (h : Passes [] visits left) : ∀ v ∈ visits, v.found = false ∧ v.stop = none := by
  generalize hnil : ([] : List Handle) = hs at h
  induction h with
  | ahead hs => exact fun v hv => nomatch hv
  | @stop gone rest left h r visits skipped live later ih =>
    have hlength := congrArg List.length hnil
    simp at hlength
  | missed skipped later ih =>
    intro v hv
    rcases List.mem_cons.1 hv with rfl | hv
    · exact ⟨rfl, rfl⟩
    · exact ih rfl v hv

theorem ends (h : Passes hs visits left) : visits.Pairwise fun u v =>
    u.found = false → v.found = false ∧ v.stop = none := by
  induction h with
  | ahead hs => exact List.Pairwise.nil
  | stop skipped live later ih => exact ih.cons fun v _ hfound => nomatch hfound
  | missed skipped later ih => exact ih.cons fun v hv _ => later.nothing v hv

theorem complete (h : Passes hs visits left) (hover : ∃ v ∈ visits, v.found = false) :
    ∀ g ∈ hs, g ∈ visits.filterMap Visit.stop ∨ ∃ v ∈ visits, v.registry.get? g = none := by
  induction h with
  | ahead hs =>
    obtain ⟨v, hv, -⟩ := hover
    cases hv
  | @stop gone rest left h r visits skipped live later ih =>
    have hrest : ∃ v ∈ visits, v.found = false := by
      obtain ⟨v, hv, hfound⟩ := hover
      rcases List.mem_cons.1 hv with rfl | hv
      · cases hfound
      · exact ⟨v, hv, hfound⟩
    intro g hg
    rcases List.mem_append.1 hg with hg | hg
    · exact Or.inr ⟨_, List.mem_cons_self, skipped g hg⟩
    · rw [List.filterMap_cons_some (show Visit.stop ⟨r, true, some h⟩ = some h from rfl)]
      rcases List.mem_cons.1 hg with rfl | hg
      · exact Or.inl List.mem_cons_self
      · rcases ih hrest g hg with hstop | ⟨v, hv, hgone⟩
        · exact Or.inl (List.mem_cons_of_mem _ hstop)
        · exact Or.inr ⟨v, List.mem_cons_of_mem _ hv, hgone⟩
  | missed skipped later ih => exact fun g hg => Or.inr ⟨_, List.mem_cons_self, skipped g hg⟩

theorem found_le (h : Passes hs visits left) : visits.countP Visit.found ≤ hs.length := by
  induction h with
  | ahead hs => exact Nat.zero_le _
  | stop skipped live later ih =>
    simp only [List.countP_cons, List.length_append, List.length_cons, if_true]
    omega
  | missed skipped later ih =>
    simp only [List.countP_cons, List.length_nil, Bool.false_eq_true, if_false] at ih ⊢
    omega

end Passes

/-! ### One call -/

theorem lookup_eq_get? {r : Registry} (hr : r.Indexed) (h : Handle) : r.lookup h = r.get? h := by
  cases hv : h.isValid with
  | true => exact (Registry.get?_of_valid hv).symm
  | false =>
    have hno : h ∉ r.ids := by
      intro hh
      rw [hr.valid h hh] at hv
      cases hv
    rw [Registry.lookup_eq_none.2 hno, Registry.get?, if_neg (by simp [hv])]

theorem next_cases {r : Registry} (hr : r.Indexed) (s : Search) :
    (∃ gone h rest, s.ahead = gone ++ h :: rest ∧ (∀ g ∈ gone, r.get? g = none) ∧
      r.get? h ≠ none ∧ s.next r = (true, ⟨rest, some h⟩)) ∨
    ((∀ g ∈ s.ahead, r.get? g = none) ∧ s.next r = (false, fresh)) := by
  obtain ⟨ahead, current⟩ := s
  unfold next
  induction ahead with
  | nil => exact Or.inr ⟨fun g hg => (nomatch hg), rfl⟩
  | cons h ahead ih =>
    cases hl : r.get? h with
    | some o =>
      refine Or.inl ⟨[], h, ahead, rfl, fun g hg => (nomatch hg), by simp [hl], ?_⟩
      simp [lookup_eq_get? hr, hl]
    | none =>
      have hskip : (h :: ahead).dropWhile (fun h => (r.lookup h).isNone) =
          ahead.dropWhile fun h => (r.lookup h).isNone := by
        simp [lookup_eq_get? hr, hl]
      simp only at ih ⊢
      rw [hskip]
      rcases ih with ⟨gone, g, rest, rfl, hgone, hlive, hnext⟩ | ⟨hgone, hnext⟩
      · refine Or.inl ⟨h :: gone, g, rest, rfl, ?_, hlive, hnext⟩
        intro k hk
        rcases List.mem_cons.1 hk with rfl | hk
        · exact hl
        · exact hgone k hk
      · refine Or.inr ⟨?_, hnext⟩
        intro k hk
        rcases List.mem_cons.1 hk with rfl | hk
        · exact hl
        · exact hgone k hk

def visit (r : Registry) (s : Search) : Visit := ⟨r, (s.next r).1, (s.next r).2.current⟩

theorem Passes.next {r : Registry} (hr : r.Indexed) {s : Search} {visits : List Visit}
    {left : List Handle} (h : Passes (s.next r).2.ahead visits left) :
    Passes s.ahead (s.visit r :: visits) left := by
  unfold visit
  rcases next_cases hr s with ⟨gone, g, rest, hahead, hgone, hlive, hnext⟩ | ⟨hgone, hnext⟩
  · rw [hnext] at h ⊢
    rw [hahead]
    exact .stop hgone hlive h
  · rw [hnext] at h ⊢
    exact .missed hgone h

/-! ### Any number of searches -/

/-- What a search is begun with: all objects, those with a tag, or handles that it names itself. -/
inductive Start where
  | all
  | tagged (tag : String)
  | given (handles : List Handle)

def Start.candidates (r : Registry) : Start → List Handle
  | .all => r.ids
  | .tagged tag => r.withTag tag
  | .given handles => handles

def Start.named : Start → List Handle
  | .given handles => handles
  | _ => []

def Start.begin (r : Registry) : Start → Search
  | .all => (r.search none).2
  | .tagged tag => (r.search (some tag)).2
  | .given handles => .ofList handles

theorem Start.ahead_begin (r : Registry) (start : Start) :
    (start.begin r).ahead = start.candidates r := by
  cases start <;> rfl

/-- A registry and searches over it, each with a number. -/
structure Desk where
  registry : Registry
  searches : Nat → Search

inductive Event where
  | change (op : Registry.Op)
  | begin (k : Nat) (start : Start)
  | next (k : Nat)

def Event.apply (d : Desk) : Event → Desk
  | .change op => { d with registry := op.apply d.registry }
  | .begin k start =>
    { d with searches := Function.update d.searches k (start.begin d.registry) }
  | .next k =>
    { d with searches := Function.update d.searches k ((d.searches k).next d.registry).2 }

def Desk.after (events : List Event) : Desk := events.foldl Event.apply ⟨.empty, fun _ => .fresh⟩

/-- What the calls of search `k` come to. -/
def visits (k : Nat) : Desk → List Event → List Visit
  | _, [] => []
  | d, .next j :: later =>
    let rest := visits k (Event.apply d (.next j)) later
    if j = k then (d.searches k).visit d.registry :: rest else rest
  | d, e :: later => visits k (e.apply d) later

def Event.Begins (k : Nat) : Event → Prop
  | .begin j _ => j = k
  | _ => False

def Event.concerns (k : Nat) : Event → Bool
  | .change _ => true
  | .begin j _ => j = k
  | .next j => j = k

theorem indexed_apply {r : Registry} (hr : r.Indexed) (op : Registry.Op) :
    (op.apply r).Indexed := by
  cases op with
  | issue => exact hr.issue
  | register o => exact hr.register o
  | unregister h => exact hr.unregister h
  | retag h tag => exact hr.retag h tag
  | update h f keeps => exact hr.update h f keeps
  | clear => exact Registry.indexed_clear r

theorem Event.indexed {d : Desk} (hd : d.registry.Indexed) (e : Event) :
    (e.apply d).registry.Indexed := by
  cases e with
  | change op => exact indexed_apply hd op
  | begin k start => exact hd
  | next k => exact hd

theorem Desk.indexed (events : List Event) : (Desk.after events).registry.Indexed := by
  have hall : ∀ (events : List Event) (d : Desk), d.registry.Indexed →
      (events.foldl Event.apply d).registry.Indexed := by
    intro events
    induction events with
    | nil => exact fun d hd => hd
    | cons e events ih => exact fun d hd => ih _ (e.indexed hd)
  exact hall events _ (Registry.indexed_clear .empty)

/-- As long as search `k` is not begun anew, its calls take it through what was ahead of it. -/
theorem passes_visits {k : Nat} {d : Desk} (hd : d.registry.Indexed) {later : List Event}
    (hlater : ∀ e ∈ later, ¬ e.Begins k) :
    ∃ left, Passes (d.searches k).ahead (visits k d later) left := by
  induction later generalizing d with
  | nil => exact ⟨_, .ahead _⟩
  | cons e later ih =>
    obtain ⟨hfirst, hrest⟩ := List.forall_mem_cons.1 hlater
    obtain ⟨left, hleft⟩ := ih (e.indexed hd) hrest
    refine ⟨left, ?_⟩
    cases e with
    | change op => exact hleft
    | begin j start =>
      have hne : k ≠ j := fun he => hfirst he.symm
      simp only [Event.apply, Function.update_of_ne hne] at hleft
      exact hleft
    | next j =>
      by_cases hj : j = k
      · subst hj
        simp only [Event.apply, Function.update_self] at hleft
        simp only [visits, if_true]
        exact Passes.next hd hleft
      · simp only [Event.apply, Function.update_of_ne (Ne.symm hj)] at hleft
        simp only [visits, if_neg hj]
        exact hleft

theorem visits_filter {k : Nat} {d d' : Desk} (hregistry : d'.registry = d.registry)
    (hsearch : d'.searches k = d.searches k) (later : List Event) :
    visits k d' (later.filter (Event.concerns k)) = visits k d later := by
  induction later generalizing d d' with
  | nil => rfl
  | cons e later ih =>
    by_cases he : e.concerns k = true
    · rw [List.filter_cons_of_pos he]
      have hnext : visits k (e.apply d') (later.filter (Event.concerns k)) =
          visits k (e.apply d) later := by
        refine ih ?_ ?_
        · cases e <;> simp only [Event.apply, hregistry]
        · cases e with
          | change op => exact hsearch
          | begin j start =>
            have hj : j = k := of_decide_eq_true he
            subst hj
            simp only [Event.apply, Function.update_self, hregistry]
          | next j =>
            have hj : j = k := of_decide_eq_true he
            subst hj
            simp only [Event.apply, Function.update_self, hregistry, hsearch]
      cases e with
      | change op => exact hnext
      | begin j start => exact hnext
      | next j => simp only [visits, hnext, hregistry, hsearch]
    · rw [List.filter_cons_of_neg he]
      cases e with
      | change op => exact absurd rfl he
      | begin j start =>
        have hne : k ≠ j := fun hk => he (decide_eq_true hk.symm)
        exact ih hregistry (by simp only [Event.apply, Function.update_of_ne hne, hsearch])
      | next j =>
        have hne : j ≠ k := fun hj => he (decide_eq_true hj)
        simp only [visits, if_neg hne]
        exact ih hregistry (by simp only [Event.apply, Function.update_of_ne hne.symm, hsearch])

theorem Start.live {r : Registry} (hr : r.Indexed) {start : Start} {h : Handle}
    (hh : h ∈ start.candidates r) : r.get? h ≠ none ∨ h ∈ start.named := by
  cases start with
  | all => exact Or.inl (Option.isSome_iff_ne_none.1 ((hr.mem_ids h).1 hh))
  | tagged tag =>
    obtain ⟨o, ho, -⟩ := (hr.mem_withTag_hasTag tag h).1 hh
    exact Or.inl (by rw [ho]; exact Option.some_ne_none o)
  | given handles => exact Or.inr hh

/-- A search that is begun at any time stops, one after the other, on candidates of that time, in
their order and each place at most once. Its calls pass over what is not live then and over nothing
else, and once one of them finds nothing no later one does. What was not live at the beginning is
found only if the search named it itself. Other searches make no difference. -/
theorem search_thorough (past : List Event) (k : Nat) (start : Start) (later : List Event)
    (hlater : ∀ e ∈ later, ¬ e.Begins k) :
    let d := Desk.after past
    let candidates := start.candidates d.registry
    let begun := Event.apply d (.begin k start)
    let seen := visits k begun later
    (∃ left, Passes candidates seen left) ∧
      (seen.filterMap Visit.stop).Sublist candidates ∧
      (∀ v ∈ seen, (v.found = true ↔ v.stop.isSome = true) ∧
        ∀ h, v.stop = some h → v.registry.get? h ≠ none) ∧
      (∀ v ∈ seen, ∀ h, v.stop = some h → d.registry.get? h ≠ none ∨ h ∈ start.named) ∧
      seen.Pairwise (fun u v => u.found = false → v.found = false ∧ v.stop = none) ∧
      seen.countP Visit.found ≤ candidates.length ∧
      visits k begun (later.filter (Event.concerns k)) = seen := by
  intro d candidates begun seen
  have hd : d.registry.Indexed := Desk.indexed past
  have hbegun : (begun.searches k).ahead = candidates := by
    simp only [begun, Event.apply, Function.update_self, Start.ahead_begin, candidates]
  obtain ⟨left, hleft⟩ := passes_visits (d := begun) hd hlater
  rw [hbegun] at hleft
  have hsub : (seen.filterMap Visit.stop).Sublist candidates :=
    (List.sublist_append_left _ left).trans hleft.sublist
  refine ⟨⟨left, hleft⟩, hsub, hleft.live, ?_, hleft.ends, hleft.found_le,
    visits_filter rfl rfl later⟩
  intro v hv h hstop
  exact Start.live hd (hsub.subset (List.mem_filterMap.2 ⟨v, hv, hstop⟩))

/-! ### Three waypoints -/

/-- A waypoint that comes into the registry. -/
def posting (n : UInt32) : Event :=
  .change (.register (.blank ⟨n⟩ Object.PlacedKind.waypoint.blank))

/-- The first waypoint is found, the second one goes, a fourth one comes, and another search
begins. -/
def patrol : List Event :=
  [.next 0, .change (.unregister ⟨2⟩), posting 4, .begin 1 .all, .next 1, .next 0, .next 0, .next 0]

theorem patrol_searched :
    (∀ e ∈ patrol, ¬ e.Begins 0) ∧
      let begun := Event.apply (Desk.after [posting 1, posting 2, posting 3]) (.begin 0 .all)
      (visits 0 begun patrol).map Visit.stop = [some ⟨1⟩, some ⟨3⟩, none, none] ∧
      ∃ left, Passes [⟨1⟩, ⟨2⟩, ⟨3⟩] (visits 0 begun patrol) left := by
  have hagain : ∀ e ∈ patrol, ¬ e.Begins 0 := by simp [patrol, posting, Event.Begins]
  have hsearched := search_thorough [posting 1, posting 2, posting 3] 0 .all patrol hagain
  exact ⟨hagain, by decide +kernel, hsearched.1⟩

end Adventure.Search

import Adventure.Proofs.Registry.TagIndex
import Adventure.Proofs.Text.AsciiCase

/-!
# Histories of a registry

A ledger reads off a history alone which handles are live, when each was registered last, when it
last came by the folded form of its tag, and the tag. The main statement says that a registry always
answers as the ledger of its history says: which objects there are and in what order, which stand
under a tag and in what order, and that the index holds nothing else.
-/

namespace Adventure.Registry

open Object (setTag_id setTag_tag)
open Text (SameLetter asciiLower_eq_iff)

/-! ### Operations and histories -/

/-- What is done to a registry. Objects may be changed where they stand as long as they keep their
handle and their tag; only `retag` gives a registered object another tag. -/
inductive Op where
  | issue
  | register (o : Object)
  | unregister (h : Handle)
  | retag (h : Handle) (tag : String)
  | update (h : Handle) (f : Object → Object) (keeps : ∀ o, (f o).id = o.id ∧ (f o).tag = o.tag)
  | clear

def Op.apply (r : Registry) : Op → Registry
  | .issue => r.issue.2
  | .register o => r.register o
  | .unregister h => (r.unregister h).2
  | .retag h tag => (r.retag h tag).2
  | .update h f _ => r.update h f
  | .clear => r.clear

/-- The registry after a history, whose newest operation comes first. -/
def after : List Op → Registry
  | [] => .empty
  | op :: past => op.apply (after past)

/-! ### Ledgers -/

/-- What a history says of a live handle. Moments are counted by the operations before them. -/
structure Mark where
  /-- When it was registered last. -/
  registered : Nat
  /-- When it last came by the folded form of its tag. -/
  acquired : Nat
  tag : String

/-- Another tag given at a moment; one that differs in case alone is no new acquisition. -/
def Mark.retag (m : Mark) (tag : String) (now : Nat) : Mark :=
  if tagKey m.tag = tagKey tag then { m with tag } else { m with tag, acquired := now }

namespace Mark

theorem retag_registered (m : Mark) (tag : String) (now : Nat) :
    (m.retag tag now).registered = m.registered := by
  unfold retag
  split <;> rfl

theorem retag_tag (m : Mark) (tag : String) (now : Nat) : (m.retag tag now).tag = tag := by
  unfold retag
  split <;> rfl

theorem retag_acquired_lt (m : Mark) (tag : String) {now : Nat} (h : m.acquired < now + 1) :
    (m.retag tag now).acquired < now + 1 := by
  unfold retag
  split
  · exact h
  · exact Nat.lt_succ_self now

end Mark

abbrev Ledger := Handle → Option Mark

/-- Enters an operation. -/
def Ledger.enter (l : Ledger) (now : Nat) : Op → Ledger
  | .issue => l
  | .register o => if o.id.isValid then fun h => if h = o.id then some ⟨now, now, o.tag⟩ else l h else l
  | .unregister gone => fun h => if h = gone then none else l h
  | .retag k tag => fun h => if h = k then (l h).map (·.retag tag now) else l h
  | .update _ _ _ => l
  | .clear => fun _ => none

def ledger : List Op → Ledger
  | [] => fun _ => none
  | op :: past => (ledger past).enter past.length op

/-- `a` comes before `b` by the given moment of their marks. -/
def Ledger.Earlier (l : Ledger) (moment : Mark → Nat) (a b : Handle) : Prop :=
  ∃ i j, (l a).map moment = some i ∧ (l b).map moment = some j ∧ i < j

namespace Ledger

section Entering

variable (l : Ledger) (now : Nat)

theorem enter_register_self {o : Object} (hv : o.id.isValid = true) :
    l.enter now (.register o) o.id = some ⟨now, now, o.tag⟩ := by
  simp only [enter, hv, if_true]

theorem enter_register_other {o : Object} {h : Handle} (hne : h ≠ o.id) :
    l.enter now (.register o) h = l h := by
  simp only [enter]
  split
  · exact if_neg hne
  · rfl

theorem enter_retag_self {h : Handle} {m : Mark} (tag : String) (hm : l h = some m) :
    l.enter now (.retag h tag) h = some (m.retag tag now) := by
  simp only [enter, if_true, hm, Option.map_some]

theorem enter_retag_other {h a : Handle} (tag : String) (hne : a ≠ h) :
    l.enter now (.retag h tag) a = l a :=
  if_neg hne

theorem enter_retag_none {h : Handle} (tag : String) (hgone : l h = none) :
    l.enter now (.retag h tag) = l := by
  funext a
  by_cases ha : a = h
  · simp only [enter, ha, if_true, hgone, Option.map_none]
  · exact l.enter_retag_other now tag ha

theorem enter_retag_registered (h : Handle) (tag : String) (a : Handle) :
    (l.enter now (.retag h tag) a).map Mark.registered = (l a).map Mark.registered := by
  simp only [enter]
  split
  · cases l a with
    | none => rfl
    | some m => exact congrArg some (m.retag_registered tag now)
  · rfl

end Entering

variable {l l' : Ledger} {moment : Mark → Nat}

theorem earlier_congr {hs : List Handle} (heq : ∀ a ∈ hs, (l' a).map moment = (l a).map moment)
    (h : hs.Pairwise (l.Earlier moment)) : hs.Pairwise (l'.Earlier moment) := by
  refine List.Pairwise.imp_of_mem ?_ h
  rintro a b ha hb ⟨i, j, hi, hj, hlt⟩
  exact ⟨i, j, (heq a ha).trans hi, (heq b hb).trans hj, hlt⟩

theorem earlier_append {hs : List Handle} {h : Handle} {now : Nat}
    (hp : hs.Pairwise (l.Earlier moment)) (hh : (l h).map moment = some now)
    (hb : ∀ a ∈ hs, ∃ i, (l a).map moment = some i ∧ i < now) :
    (hs ++ [h]).Pairwise (l.Earlier moment) := by
  rw [List.pairwise_append]
  refine ⟨hp, List.pairwise_singleton _ _, ?_⟩
  intro a ha b hm
  obtain ⟨i, hi, hlt⟩ := hb a ha
  rw [List.mem_singleton.1 hm]
  exact ⟨i, now, hi, hh, hlt⟩

theorem earlier_asymm {a b : Handle} (h : l.Earlier moment a b) : ¬ l.Earlier moment b a := by
  rintro ⟨j, i, hj, hi, hlt⟩
  obtain ⟨i', j', hi', hj', hlt'⟩ := h
  rw [hi] at hi'
  rw [hj] at hj'
  cases hi'
  cases hj'
  omega

end Ledger

/-! ### What a ledger and its registry have in common -/

/-- The ledger marks the live handles before `now`, and both lists of the registry follow its
moments. -/
structure Told (r : Registry) (l : Ledger) (now : Nat) : Prop where
  indexed : r.Indexed
  marked : ∀ o ∈ r.objects, ∃ m, l o.id = some m ∧ m.tag = o.tag
  live : ∀ h m, l h = some m → h ∈ r.ids ∧ m.registered < now ∧ m.acquired < now
  ids : r.ids.Pairwise (l.Earlier Mark.registered)
  held : ∀ key, (held r.tags key).Pairwise (l.Earlier Mark.acquired)

namespace Told

variable {r : Registry} {l : Ledger} {now : Nat}

theorem mark_of_mem_ids (ht : Told r l now) {h : Handle} (hh : h ∈ r.ids) :
    ∃ m, l h = some m ∧ m.registered < now ∧ m.acquired < now := by
  obtain ⟨o, ho, rfl⟩ := List.mem_map.1 hh
  obtain ⟨m, hm, -⟩ := ht.marked o ho
  exact ⟨m, hm, (ht.live _ _ hm).2⟩

theorem mark_of_mem_held (ht : Told r l now) {key : String} {h : Handle}
    (hh : h ∈ Registry.held r.tags key) :
    ∃ m, l h = some m ∧ m.registered < now ∧ m.acquired < now := by
  obtain ⟨o, ho, rfl, -⟩ := (ht.indexed.mem_held key h).1 hh
  exact ht.mark_of_mem_ids (List.mem_map_of_mem ho)

theorem registered_before (ht : Told r l now) {h : Handle} (hh : h ∈ r.ids) :
    ∃ i, (l h).map Mark.registered = some i ∧ i < now := by
  obtain ⟨m, hm, hlt, -⟩ := ht.mark_of_mem_ids hh
  exact ⟨m.registered, by rw [hm, Option.map_some], hlt⟩

theorem acquired_before (ht : Told r l now) {key : String} {h : Handle}
    (hh : h ∈ Registry.held r.tags key) :
    ∃ i, (l h).map Mark.acquired = some i ∧ i < now := by
  obtain ⟨m, hm, -, hlt⟩ := ht.mark_of_mem_held hh
  exact ⟨m.acquired, by rw [hm, Option.map_some], hlt⟩

theorem none_of_not_mem (ht : Told r l now) {h : Handle} (hh : h ∉ r.ids) : l h = none := by
  cases hl : l h with
  | none => rfl
  | some m => exact absurd (ht.live h m hl).1 hh

theorem later (ht : Told r l now) : Told r l (now + 1) := by
  refine ⟨ht.indexed, ht.marked, ?_, ht.ids, ht.held⟩
  intro h m hm
  obtain ⟨hid, hr, ha⟩ := ht.live h m hm
  exact ⟨hid, by omega, by omega⟩

theorem issue (ht : Told r l now) : Told r.issue.2 l (now + 1) := by
  have hl := ht.later
  exact ⟨hl.indexed.issue, hl.marked, hl.live, hl.ids, hl.held⟩

theorem update (ht : Told r l now) (h : Handle) (f : Object → Object)
    (hf : ∀ o, (f o).id = o.id ∧ (f o).tag = o.tag) : Told (r.update h f) l (now + 1) := by
  have hl := ht.later
  have hobjects := update_objects ht.indexed.valid h f
  have hids := update_ids r h fun o => (hf o).1
  refine ⟨ht.indexed.update h f hf, ?_, hids ▸ hl.live, hids ▸ hl.ids, ?_⟩
  · intro b hb
    rw [hobjects] at hb
    obtain ⟨o, ho, rfl⟩ := List.mem_map.1 hb
    split
    · rw [(hf o).1, (hf o).2]
      exact ht.marked o ho
    · exact ht.marked o ho
  · rw [update_tags]
    exact hl.held

theorem clear (r : Registry) (now : Nat) : Told r.clear (fun _ => none) now := by
  refine ⟨indexed_clear r, ?_, ?_, List.Pairwise.nil, fun key => List.Pairwise.nil⟩
  · intro o ho
    cases ho
  · intro h m hm
    cases hm

theorem unregister (ht : Told r l now) (gone : Handle) :
    Told (r.unregister gone).2 (l.enter now (.unregister gone)) (now + 1) := by
  have hl := ht.later
  have hkeep : ∀ (moment : Mark → Nat) (hs : List Handle), hs.Pairwise (l.Earlier moment) →
      (hs.filter (· ≠ gone)).Pairwise ((l.enter now (.unregister gone)).Earlier moment) := by
    intro moment hs hp
    refine Ledger.earlier_congr ?_ (hp.filter _)
    intro a ha
    have hne : a ≠ gone := by simpa using (List.mem_filter.1 ha).2
    simp only [Ledger.enter, if_neg hne]
  refine ⟨ht.indexed.unregister gone, ?_, ?_, ?_, ?_⟩
  · intro o ho
    rw [unregister_objects, List.mem_filter] at ho
    have hne : o.id ≠ gone := by simpa using ho.2
    simp only [Ledger.enter, if_neg hne]
    exact ht.marked o ho.1
  · intro h m hm
    simp only [Ledger.enter] at hm
    split at hm
    · cases hm
    · rename_i hne
      rw [unregister_ids]
      exact ⟨List.mem_filter.2 ⟨(ht.live h m hm).1, by simpa using hne⟩, (hl.live h m hm).2⟩
  · rw [unregister_ids]
    exact hkeep _ _ ht.ids
  · intro key
    rw [unregister_held ht.indexed]
    exact hkeep _ _ (ht.held key)

/-! ### A handle that is placed anew -/

/-- When one handle gets a mark with the present moment, it belongs at the end of a list by that
moment. -/
theorem earlier_moved {l' : Ledger} {moment : Mark → Nat} {hs : List Handle} {h : Handle}
    (hother : ∀ a, a ≠ h → (l' a).map moment = (l a).map moment)
    (hnow : (l' h).map moment = some now) (hp : hs.Pairwise (l.Earlier moment))
    (hb : ∀ a ∈ hs, ∃ i, (l a).map moment = some i ∧ i < now) (own key : String) :
    (moved hs h own key).Pairwise (l'.Earlier moment) := by
  have hsame : ∀ a ∈ hs.filter (· ≠ h), (l' a).map moment = (l a).map moment := by
    intro a ha
    exact hother a (by simpa using (List.mem_filter.1 ha).2)
  have hrest := Ledger.earlier_congr hsame (hp.filter (· ≠ h))
  unfold moved
  split
  · refine Ledger.earlier_append hrest hnow ?_
    intro a ha
    rw [hsame a ha]
    exact hb a (List.mem_of_mem_filter ha)
  · rw [List.append_nil]
    exact hrest

theorem register (ht : Told r l now) (o : Object) :
    Told (r.register o) (l.enter now (.register o)) (now + 1) := by
  cases hv : o.id.isValid with
  | false =>
    rw [register_invalid r hv]
    simp only [Ledger.enter, hv, Bool.false_eq_true, if_false]
    exact ht.later
  | true =>
    have hself := l.enter_register_self now hv
    have hother := fun a (hne : a ≠ o.id) => l.enter_register_other now hne
    -- In both lists the handle belongs at the end, since both its moments are the present one.
    have hnow : ∀ moment : Mark → Nat, moment ⟨now, now, o.tag⟩ = now →
        ((l.enter now (.register o)) o.id).map moment = some now := by
      intro moment hmoment
      rw [hself, Option.map_some, hmoment]
    refine ⟨ht.indexed.register o, ?_, ?_, ?_, ?_⟩
    · intro a ha
      rw [register_objects r hv, List.mem_append, List.mem_filter, List.mem_singleton] at ha
      rcases ha with ⟨ha, hne⟩ | rfl
      · rw [hother a.id (by simpa using hne)]
        exact ht.marked a ha
      · exact ⟨_, hself, rfl⟩
    · intro h m hm
      rw [register_ids r hv, List.mem_append, List.mem_filter, List.mem_singleton]
      by_cases he : h = o.id
      · rw [he, hself] at hm
        cases hm
        exact ⟨Or.inr he, Nat.lt_succ_self now, Nat.lt_succ_self now⟩
      · rw [hother h he] at hm
        exact ⟨Or.inl ⟨(ht.live h m hm).1, by simpa using he⟩, (ht.later.live h m hm).2⟩
    · have hmoved := earlier_moved (fun a hne => congrArg _ (hother a hne)) (hnow _ rfl) ht.ids
        (fun a ha => ht.registered_before ha) (tagKey o.tag) (tagKey o.tag)
      rw [moved, if_pos rfl] at hmoved
      rw [register_ids r hv]
      exact hmoved
    · intro key
      rw [register_held ht.indexed hv]
      exact earlier_moved (fun a hne => congrArg _ (hother a hne)) (hnow _ rfl) (ht.held key)
        (fun a ha => ht.acquired_before ha) _ _

/-- A live object that is given another tag keeps its place among all objects. Among those with its
tag it moves to the end, unless the tag differs in case alone. -/
theorem retag_live (ht : Told r l now) {o : Object} (hl : r.lookup o.id = some o) (tag : String) :
    Told (r.retag o.id tag).2 (l.enter now (.retag o.id tag)) (now + 1) := by
  obtain ⟨ho, -⟩ := ht.indexed.lookup_eq_some.1 hl
  obtain ⟨m, hm, htag⟩ := ht.marked o ho
  have hself := l.enter_retag_self now tag hm
  have hother := fun a (hne : a ≠ o.id) => l.enter_retag_other now tag hne
  refine ⟨ht.indexed.retag o.id tag, ?_, ?_, ?_, ?_⟩
  · intro b hb
    rw [retag_objects] at hb
    obtain ⟨a, ha, rfl⟩ := List.mem_map.1 hb
    split
    · rename_i he
      rw [setTag_id, he, setTag_tag]
      exact ⟨_, hself, m.retag_tag tag now⟩
    · rename_i hne
      rw [hother a.id hne]
      exact ht.marked a ha
  · intro a k hk
    rw [retag_ids]
    by_cases ha : a = o.id
    · rw [ha, hself] at hk
      cases hk
      obtain ⟨hid, hregistered, hacquired⟩ := ht.later.live _ _ hm
      rw [ha, Mark.retag_registered]
      exact ⟨hid, hregistered, m.retag_acquired_lt tag hacquired⟩
    · rw [hother a ha] at hk
      exact ht.later.live a k hk
  · rw [retag_ids]
    exact Ledger.earlier_congr (fun a _ => l.enter_retag_registered now o.id tag a) ht.ids
  · intro key
    by_cases hk : tagKey o.tag = tagKey tag
    · rw [retag_tags_same hl hk]
      refine Ledger.earlier_congr (fun a _ => ?_) (ht.held key)
      by_cases ha : a = o.id
      · rw [ha, hself, hm, Option.map_some, Option.map_some, Mark.retag, if_pos (by rw [htag, hk])]
      · rw [hother a ha]
    · have hnow : (l.enter now (.retag o.id tag) o.id).map Mark.acquired = some now := by
        rw [hself, Option.map_some, Mark.retag, if_neg (by rw [htag]; exact hk)]
      rw [retag_held ht.indexed hl hk]
      exact earlier_moved (fun a hne => congrArg _ (hother a hne)) hnow (ht.held key)
        (fun a ha => ht.acquired_before ha) _ _

theorem retag (ht : Told r l now) (h : Handle) (tag : String) :
    Told (r.retag h tag).2 (l.enter now (.retag h tag)) (now + 1) := by
  cases hl : r.lookup h with
  | none =>
    rw [retag_none tag hl, l.enter_retag_none now tag (ht.none_of_not_mem (lookup_eq_none.1 hl))]
    exact ht.later
  | some o =>
    obtain ⟨-, rfl⟩ := ht.indexed.lookup_eq_some.1 hl
    exact ht.retag_live hl tag

theorem step (ht : Told r l now) (op : Op) : Told (op.apply r) (l.enter now op) (now + 1) := by
  cases op with
  | issue => exact ht.issue
  | register o => exact ht.register o
  | unregister h => exact ht.unregister h
  | retag h tag => exact ht.retag h tag
  | update h f keeps => exact ht.update h f keeps
  | clear => exact clear r (now + 1)

theorem run (past : List Op) : Told (after past) (ledger past) past.length := by
  induction past with
  | nil => exact clear .empty 0
  | cons op past ih => exact ih.step op

end Told

/-! ### Histories in which no tag is folded anew -/

/-- Does the operation give a live object a tag with another folded form? -/
def Op.Refolds (l : Ledger) : Op → Prop
  | .retag h tag => ∃ m, l h = some m ∧ tagKey m.tag ≠ tagKey tag
  | _ => False

/-- No operation of the history gives an object a tag with another folded form. -/
def Steady : List Op → Prop
  | [] => True
  | op :: past => ¬ op.Refolds (ledger past) ∧ Steady past

theorem Steady.acquired {past : List Op} (hs : Steady past) {h : Handle} {m : Mark}
    (hm : ledger past h = some m) : m.acquired = m.registered := by
  induction past generalizing h m with
  | nil => cases hm
  | cons op past ih =>
    obtain ⟨hop, hs⟩ := hs
    cases op with
    | issue => exact ih hs hm
    | update k f keeps => exact ih hs hm
    | clear => cases hm
    | register o =>
      simp only [ledger, Ledger.enter] at hm
      split at hm
      · by_cases hh : h = o.id
        · simp only [if_pos hh] at hm
          cases hm
          rfl
        · simp only [if_neg hh] at hm
          exact ih hs hm
      · exact ih hs hm
    | unregister k =>
      simp only [ledger, Ledger.enter] at hm
      split at hm
      · cases hm
      · exact ih hs hm
    | retag k tag =>
      simp only [ledger, Ledger.enter] at hm
      split at hm
      · rename_i hk
        subst hk
        obtain ⟨m₀, hm₀, rfl⟩ := Option.map_eq_some_iff.1 hm
        have hkey : tagKey m₀.tag = tagKey tag := by
          by_contra hne
          exact hop ⟨m₀, hm₀, hne⟩
        have hold : m₀.acquired = m₀.registered := ih hs hm₀
        rw [Mark.retag, if_pos hkey]
        exact hold
      · exact ih hs hm

/-! ### What a registry answers -/

/-- The registry answers as the ledger says. -/
structure Answers (r : Registry) (l : Ledger) : Prop where
  /-- The handles that resolve are the marked ones, and their objects have the marked tags. -/
  get : ∀ h, (r.get? h).map Object.tag = (l h).map Mark.tag
  /-- Every object is found by its handle. -/
  object : ∀ o, o ∈ r.objects ↔ r.get? o.id = some o
  mem_ids : ∀ h, h ∈ r.ids ↔ (r.get? h).isSome
  ids_order : r.ids.Pairwise (l.Earlier Mark.registered)
  mem_withTag : ∀ tag h, h ∈ r.withTag tag ↔ ∃ o, r.get? h = some o ∧ o.hasTag tag
  once : ∀ tag, (r.withTag tag).Nodup
  withTag_order : ∀ tag, (r.withTag tag).Pairwise (l.Earlier Mark.acquired)
  keys : r.tags.keys.Nodup
  filled : ∀ entry ∈ r.tags, entry.2 ≠ []
  /-- A handle stands under the folded tag of its object alone. -/
  own : ∀ entry ∈ r.tags, ∀ h ∈ entry.2, ∃ o, r.get? h = some o ∧ tagKey o.tag = entry.1
  invalid : Handle.invalid ∉ r.ids ∧ r.get? .invalid = none

theorem hasTag_iff (o : Object) (tag : String) :
    o.hasTag tag = true ↔ tagKey o.tag = tagKey tag := by
  simp only [Object.hasTag, tagKey, decide_eq_true_eq]

theorem Indexed.mem_withTag_hasTag {r : Registry} (hr : r.Indexed) (tag : String) (h : Handle) :
    h ∈ r.withTag tag ↔ ∃ o, r.get? h = some o ∧ o.hasTag tag := by
  rw [hr.mem_withTag]
  constructor
  · rintro ⟨o, ho, hid, ht⟩
    exact ⟨o, hr.get?_eq_some.2 ⟨ho, hid⟩, (hasTag_iff o tag).2 ht⟩
  · rintro ⟨o, hg, ht⟩
    obtain ⟨ho, hid⟩ := hr.get?_eq_some.1 hg
    exact ⟨o, ho, hid, (hasTag_iff o tag).1 ht⟩

theorem Indexed.mem_ids {r : Registry} (hr : r.Indexed) (h : Handle) :
    h ∈ r.ids ↔ (r.get? h).isSome := by
  constructor
  · intro hh
    obtain ⟨o, ho, hid⟩ := List.mem_map.1 hh
    rw [hr.get?_eq_some.2 ⟨ho, hid⟩]
    rfl
  · intro hs
    obtain ⟨o, hg⟩ := Option.isSome_iff_exists.1 hs
    obtain ⟨ho, rfl⟩ := hr.get?_eq_some.1 hg
    exact List.mem_map_of_mem ho

theorem get?_invalid (r : Registry) : r.get? .invalid = none := rfl

theorem Told.answers {r : Registry} {l : Ledger} {now : Nat} (ht : Told r l now) :
    Answers r l := by
  have hr := ht.indexed
  refine ⟨?_, ?_, hr.mem_ids, ht.ids, hr.mem_withTag_hasTag, fun tag => hr.once _,
    fun tag => ht.held _, Dict.keys_nodup hr.tidy.ordered, hr.tidy.filled, ?_,
    fun hmem => ?_, get?_invalid r⟩
  · intro h
    cases hg : r.get? h with
    | none =>
      have hno : h ∉ r.ids := by
        rw [hr.mem_ids, hg]
        exact Bool.false_ne_true
      rw [ht.none_of_not_mem hno]
      rfl
    | some o =>
      obtain ⟨ho, rfl⟩ := hr.get?_eq_some.1 hg
      obtain ⟨m, hm, htag⟩ := ht.marked o ho
      rw [hm, Option.map_some, Option.map_some, htag]
  · intro o
    rw [hr.get?_eq_some]
    exact ⟨fun ho => ⟨ho, rfl⟩, fun ho => ho.1⟩
  · intro entry he h hh
    have hfind := Dict.find?_of_mem hr.tidy.ordered he
    have hheld : h ∈ Registry.held r.tags entry.1 := by
      rw [Registry.held, hfind]
      exact hh
    obtain ⟨o, ho, hid, htag⟩ := (hr.mem_held entry.1 h).1 hheld
    exact ⟨o, hr.get?_eq_some.2 ⟨ho, hid⟩, htag⟩
  · have hvalid := hr.valid _ hmem
    exact absurd hvalid (by decide)

theorem Told.withTag_eq {r : Registry} {l : Ledger} {now : Nat} (ht : Told r l now)
    (hsame : ∀ h m, l h = some m → m.acquired = m.registered) (tag : String) :
    r.withTag tag = r.ids.filter fun h => (r.get? h).any (·.hasTag tag) := by
  have hr := ht.indexed
  have hmoment : ∀ h, (l h).map Mark.acquired = (l h).map Mark.registered := by
    intro h
    cases hl : l h with
    | none => rfl
    | some m => rw [Option.map_some, Option.map_some, hsame h m hl]
  have hp : (r.withTag tag).Pairwise (l.Earlier Mark.registered) := by
    refine List.Pairwise.imp ?_ (ht.held (tagKey tag))
    rintro a b ⟨i, j, hi, hj, hlt⟩
    exact ⟨i, j, (hmoment a).symm.trans hi, (hmoment b).symm.trans hj, hlt⟩
  refine eq_of_order Ledger.earlier_asymm hp (ht.ids.filter _) ?_
  intro h
  rw [hr.mem_withTag_hasTag, List.mem_filter, Option.any_eq_true, hr.mem_ids]
  constructor
  · rintro ⟨o, hg, htag⟩
    exact ⟨by rw [hg]; rfl, o, hg, htag⟩
  · exact fun hh => hh.2

/-- After every history the registry answers as its ledger says. A tag stands for all tags that
differ from it in the case of ASCII letters alone; as long as no object gets another tag than one of
those, the objects with a tag are listed in the order of the registry. Taking an object out leaves
the others in their order. -/
theorem answers_after (past : List Op) :
    Answers (after past) (ledger past) ∧
      (∀ (o : Object) (tag : String),
        o.hasTag tag = true ↔ List.Forall₂ SameLetter o.tag.toList tag.toList) ∧
      (Steady past → ∀ tag, (after past).withTag tag =
        (after past).ids.filter fun h => ((after past).get? h).any (·.hasTag tag)) ∧
      ∀ h, ((after past).unregister h).2.ids = (after past).ids.filter (· ≠ h) := by
  refine ⟨(Told.run past).answers, ?_, ?_, unregister_ids (after past)⟩
  · intro o tag
    rw [hasTag_iff]
    exact asciiLower_eq_iff o.tag tag
  · intro hs
    exact (Told.run past).withTag_eq fun h m hm => hs.acquired hm

end Adventure.Registry

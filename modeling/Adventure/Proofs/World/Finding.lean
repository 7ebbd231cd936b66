import Adventure.Proofs.Registry.History
import Adventure.Proofs.Registry.TagOrder
import Adventure.World.Searching
import Mathlib.Data.List.Perm.Basic

/-!
# Finding objects

The objects nearest to a point come in the total order of their distances, and those at one distance
in the order of the registry. A cursor over the objects with a tag stops on each of them in turn, so
that after any number of steps it is where the index, and a scan of the registry, has its next
entry.
-/

namespace Adventure.World

open Registry (Indexed Aligned held scan tagKey hasTag_iff)

variable {w : World}

/-! ### The order of distances -/

/-- How far the object of a handle is from a point, as a place in the total order of floats. -/
def remoteness (w : World) (position : Vec3) (h : Handle) : Int :=
  ((w.get? h).map fun o => totalKey (position.manhattan o.position)).getD 0

/-- The game objects of an area that are found from a point: all of them but the excluded one that
pass the filter, the nearest first, and those at one distance as the registry lists them. -/
structure Ranked (w : World) (area : Handle) (position : Vec3) (exclude : Handle)
    (filter : Object → Bool) (found : List Handle) : Prop where
  once : found.Nodup
  mem_iff : ∀ h, h ∈ found ↔ ∃ o, w.get? h = some o ∧ o.kind.isGameObject = true ∧
    o.area = some area ∧ h ≠ exclude ∧ filter o = true
  ascending : found.Pairwise fun a b => w.remoteness position a ≤ w.remoteness position b
  level : ∀ k, (found.filter fun h => w.remoteness position h = k).Sublist w.registry.ids

/-- Is the first entry no farther away than the second one? -/
def noFarther (a b : Handle × Int) : Bool := decide (a.2 ≤ b.2)

theorem noFarther_trans (a b c : Handle × Int) (hab : noFarther a b = true)
    (hbc : noFarther b c = true) : noFarther a c = true :=
  decide_eq_true ((of_decide_eq_true hab).trans (of_decide_eq_true hbc))

theorem noFarther_total (a b : Handle × Int) : (noFarther a b || noFarther b a) = true := by
  simpa [noFarther] using Int.le_total a.2 b.2

theorem filter_mergeSort (l : List (Handle × Int)) (k : Int) :
    (l.mergeSort noFarther).filter (fun a => a.2 = k) = l.filter fun a => a.2 = k := by
  have hlevel : (l.filter fun a => a.2 = k).Pairwise fun a b => noFarther a b = true := by
    refine List.pairwise_of_forall_mem_list fun a ha b hb => decide_eq_true ?_
    have hka : a.2 = k := of_decide_eq_true (List.mem_filter.1 ha).2
    have hkb : b.2 = k := of_decide_eq_true (List.mem_filter.1 hb).2
    exact (hka.trans hkb.symm).le
  have hsub := (List.sublist_mergeSort noFarther_trans noFarther_total hlevel
    List.filter_sublist).filter fun a => decide (a.2 = k)
  rw [List.filter_filter] at hsub
  simp only [Bool.and_self] at hsub
  exact (hsub.eq_of_length ((List.mergeSort_perm l noFarther).filter _).length_eq.symm).symm

theorem isCandidate_iff {area exclude : Handle} {filter : Object → Bool} {o : Object} :
    isCandidate area exclude filter o = true ↔
      o.kind.isGameObject = true ∧ o.area = some area ∧ o.id ≠ exclude ∧ filter o = true := by
  simp only [isCandidate, Bool.and_eq_true, bne_iff_ne, beq_iff_eq]
  tauto

theorem ranked_nearestObjects (hi : w.registry.Indexed) (area : Handle) (position : Vec3)
    (exclude : Handle) (filter : Object → Bool) :
    w.Ranked area position exclude filter (w.nearestObjects area position exclude filter) := by
  let candidates := w.registry.objects.filter (isCandidate area exclude filter)
  let pairs := candidates.map fun o => (o.id, totalKey (position.manhattan o.position))
  let sorted := pairs.mergeSort noFarther
  have hfound : w.nearestObjects area position exclude filter = sorted.map Prod.fst := rfl
  have hperm : sorted.Perm pairs := List.mergeSort_perm _ _
  have hids : pairs.map Prod.fst = candidates.map Object.id := List.map_map
  have hlisted : (pairs.map Prod.fst).Sublist w.registry.ids := by
    rw [hids]
    exact List.filter_sublist.map Object.id
  have hkey : ∀ p ∈ sorted, w.remoteness position p.1 = p.2 := by
    intro p hp
    obtain ⟨o, ho, rfl⟩ := List.mem_map.1 (hperm.subset hp)
    have hget : w.get? o.id = some o := hi.get?_eq_some.2 ⟨List.mem_of_mem_filter ho, rfl⟩
    simp only [remoteness, hget, Option.map_some, Option.getD_some]
  rw [hfound]
  refine ⟨((hperm.map Prod.fst).nodup_iff).2 (hlisted.nodup hi.distinct), ?_, ?_, ?_⟩
  · intro h
    rw [(hperm.map Prod.fst).mem_iff, hids]
    constructor
    · intro hh
      obtain ⟨o, ho, rfl⟩ := List.mem_map.1 hh
      obtain ⟨hmem, hcandidate⟩ := List.mem_filter.1 ho
      exact ⟨o, hi.get?_eq_some.2 ⟨hmem, rfl⟩, isCandidate_iff.1 hcandidate⟩
    · rintro ⟨o, hget, hcandidate⟩
      obtain ⟨hmem, rfl⟩ := hi.get?_eq_some.1 hget
      exact List.mem_map_of_mem (List.mem_filter.2 ⟨hmem, isCandidate_iff.2 hcandidate⟩)
  · rw [List.pairwise_map]
    refine List.Pairwise.imp_of_mem (fun ha hb hab => ?_)
      (List.pairwise_mergeSort noFarther_trans noFarther_total pairs)
    rw [hkey _ ha, hkey _ hb]
    exact of_decide_eq_true hab
  · intro k
    have hlevel : sorted.filter ((fun h => decide (w.remoteness position h = k)) ∘ Prod.fst) =
        pairs.filter fun a => a.2 = k := by
      rw [← filter_mergeSort]
      refine List.filter_congr fun p hp => ?_
      rw [Function.comp_apply, hkey p hp]
    rw [List.filter_map, hlevel]
    exact (List.filter_sublist.map Prod.fst).trans hlisted

theorem Ranked.before {area : Handle} {position : Vec3} {exclude : Handle} {filter : Object → Bool}
    {found : List Handle} (h : w.Ranked area position exclude filter found) :
    found.Pairwise fun a b => w.remoteness position a ≤ w.remoteness position b ∧
      (w.remoteness position a = w.remoteness position b → [a, b].Sublist w.registry.ids) := by
  refine List.pairwise_iff_forall_sublist.2 fun {a b} hab => ?_
  refine ⟨List.pairwise_iff_forall_sublist.1 h.ascending hab, fun heq => ?_⟩
  have hlevel := hab.filter fun x => decide (w.remoteness position x = w.remoteness position b)
  have hboth : [a, b].filter (fun x => decide (w.remoteness position x = w.remoteness position b)) =
      [a, b] := by simp [heq]
  rw [hboth] at hlevel
  exact hlevel.trans (h.level _)

theorem Ranked.unique (hi : w.registry.Indexed) {area : Handle} {position : Vec3} {exclude : Handle}
    {filter : Object → Bool} {l l' : List Handle} (h : w.Ranked area position exclude filter l)
    (h' : w.Ranked area position exclude filter l') : l = l' := by
  have hperm : l.Perm l' := (List.perm_ext_iff_of_nodup h.once h'.once).2 fun a => by
    rw [h.mem_iff, h'.mem_iff]
  refine List.Perm.eq_of_pairwise (fun a b _ _ hab hba => ?_) h.before h'.before hperm
  have heq := Int.le_antisymm hab.1 hba.1
  have hswap : [a, b] = [b, a] :=
    (List.Nodup.perm_iff_eq_of_sublist hi.distinct (hab.2 heq) (hba.2 heq.symm)).1 (.swap b a [])
  exact (List.cons.inj hswap).1

/-! ### Counting what has been found -/

/-- Asked for the first, the second and so on, these answers give the handles one after the other
and then the handle that names nothing. Numbers below one ask for the first. -/
structure Counted (found : List Handle) (answer : Int32 → Handle) : Prop where
  each : ∀ (k : Nat) (h : Handle), found[k]? = some h → ∀ n : Int32, n.toInt = k + 1 → answer n = h
  past : ∀ n : Int32, found.length < n.toInt → answer n = .invalid
  below : ∀ n : Int32, n.toInt < 1 → answer n = answer 1

theorem counted_pickNth (found : List Handle) : Counted found (pickNth found) := by
  refine ⟨?_, ?_, ?_⟩
  · intro k h hk n hn
    have hindex : (n.toInt - 1).toNat = k := by omega
    rw [pickNth, hindex, hk, Option.getD_some]
  · intro n hn
    have hpast : found.length ≤ (n.toInt - 1).toNat := by omega
    rw [pickNth, List.getElem?_eq_none hpast, Option.getD_none]
  · intro n hn
    have hfirst : (n.toInt - 1).toNat = ((1 : Int32).toInt - 1).toNat := by
      have hone : (1 : Int32).toInt = 1 := by decide
      omega
    rw [pickNth, pickNth, hfirst]

theorem counted_nothing : Counted [] fun _ => .invalid :=
  ⟨fun k h hk => by simp at hk, fun _ _ => rfl, fun _ _ => rfl⟩

/-! ### The cursor over a tag -/

theorem next_live {r : Registry} {h : Handle} {rest : List Handle} {current : Option Handle}
    (hlive : (r.lookup h).isSome = true) :
    Search.next r ⟨h :: rest, current⟩ = (true, ⟨rest, some h⟩) := by
  obtain ⟨o, ho⟩ := Option.isSome_iff_exists.1 hlive
  have hstop : (h :: rest).dropWhile (fun h => (r.lookup h).isNone) = h :: rest :=
    List.dropWhile_cons_of_neg (by simp [ho])
  simp only [Search.next, hstop]

theorem stepSearch_live {r : Registry} (n : Nat) {s : Search}
    (hlive : ∀ h ∈ s.ahead, (r.lookup h).isSome = true) :
    (stepSearch r (n + 1) s).1 = s.ahead[n]?.isSome ∧
      (stepSearch r (n + 1) s).2.current = s.ahead[n]? := by
  obtain ⟨hs, current⟩ := s
  induction n generalizing hs current with
  | zero =>
    cases hs with
    | nil => exact ⟨rfl, rfl⟩
    | cons h rest =>
      simp only [stepSearch, next_live (hlive h List.mem_cons_self)]
      exact ⟨rfl, rfl⟩
  | succ n ih =>
    cases hs with
    | nil => exact ⟨rfl, rfl⟩
    | cons h rest =>
      rw [stepSearch, next_live (hlive h List.mem_cons_self)]
      exact ih rest (some h) fun a ha => hlive a (List.mem_cons_of_mem h ha)

theorem search_live {r : Registry} (hi : r.Indexed) (tag : Option String) :
    ∀ h ∈ (r.search tag).2.ahead, (r.lookup h).isSome = true := by
  intro h hh
  have hmem : h ∈ r.ids := by
    cases tag with
    | none => exact hh
    | some tag =>
      obtain ⟨o, ho, rfl, -⟩ := (hi.mem_withTag tag h).1 hh
      exact List.mem_map_of_mem ho
  rw [Option.isSome_iff_ne_none, ne_eq, Registry.lookup_eq_none]
  exact fun hnot => hnot hmem

theorem search_fst {r : Registry} (hi : r.Indexed) (tag : Option String) :
    (r.search tag).1 = ((r.search tag).2.next r).1 := by
  have hlive := search_live hi tag
  have hany : (r.search tag).1 = !(r.search tag).2.ahead.isEmpty := by
    cases tag <;> rfl
  rw [hany]
  generalize (r.search tag).2 = s at hlive
  obtain ⟨hs, current⟩ := s
  cases hs with
  | nil => rfl
  | cons h rest => rw [next_live (hlive h List.mem_cons_self), List.isEmpty_cons, Bool.not_false]

/-- What a scan of the registry finds with a tag. -/
def tagged (w : World) (tag : String) : List Handle :=
  w.registry.ids.filter fun h => (w.get? h).any (·.hasTag tag)

theorem mem_tagged (hi : w.registry.Indexed) {tag : String} {h : Handle} :
    h ∈ w.tagged tag ↔ ∃ o, w.get? h = some o ∧ o.hasTag tag = true := by
  unfold tagged
  rw [List.mem_filter, hi.mem_ids, Option.any_eq_true]
  constructor
  · exact fun hh => hh.2
  · rintro ⟨o, hget, htag⟩
    exact ⟨Option.isSome_of_eq_some hget, o, hget, htag⟩

theorem withTag_eq_tagged (hi : w.registry.Indexed) (ha : w.registry.Aligned) (tag : String) :
    w.registry.withTag tag = w.tagged tag := by
  show held w.registry.tags (tagKey tag) = _
  rw [ha (tagKey tag)]
  unfold scan tagged Registry.ids
  rw [List.filter_map]
  refine congrArg (List.map Object.id) (List.filter_congr fun o ho => ?_)
  have hget : w.get? o.id = some o := hi.get?_eq_some.2 ⟨ho, rfl⟩
  rw [Function.comp_apply, hget, Option.any_some, Bool.eq_iff_iff, decide_eq_true_eq,
    hasTag_iff]

theorem objectByTag_eq (hi : w.registry.Indexed) (tag : String) (nth : Int32) :
    w.objectByTag tag nth =
      if tag = "" ∨ nth.toInt < 0 then .invalid
      else ((w.registry.withTag tag)[nth.toInt.toNat]?).getD .invalid := by
  have hahead : (w.registry.search (some tag)).2.ahead = w.registry.withTag tag := rfl
  have hlive := search_live hi (some tag)
  obtain ⟨hfound, hcurrent⟩ := stepSearch_live nth.toInt.toNat hlive
  have hnegative : nth < 0 ↔ nth.toInt < 0 := Int32.lt_iff_toInt_lt
  unfold objectByTag
  simp only [Bool.or_eq_true, String.isEmpty_iff, decide_eq_true_eq, hnegative]
  split
  · rfl
  · rw [hahead] at hfound hcurrent
    cases hany : (w.registry.search (some tag)).1 with
    | false =>
      have hempty : w.registry.withTag tag = [] := by
        simpa [Registry.search] using hany
      simp [hempty]
    | true =>
      simp only [if_true, hfound, hcurrent]
      cases (w.registry.withTag tag)[nth.toInt.toNat]? <;> rfl

end Adventure.World

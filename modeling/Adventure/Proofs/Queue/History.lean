import Adventure.Proofs.Queue.Order
import Mathlib.Data.List.Perm.Basic
import Mathlib.Data.List.Sort

/-!
# Histories of a queue

A ledger gives every action a ticket when it is queued, numbered by the actions queued before it,
and reads off the history alone where each ticket has gone: it is held, it came out in one of the
drains, or it was dropped. A queue always answers as the ledger of its history says, and what it
lists as pending is what drains to come will return, in that order.
-/

namespace Adventure.Queue

/-! ### Operations and histories -/

inductive Op where
  | push (a : Action)
  | drain (now : UInt64)
  | clear

def Op.apply (q : Queue) : Op → Queue
  | .push a => q.push a
  | .drain now => (q.drainDue now).2
  | .clear => .empty

/-- The queue after a history, whose newest operation comes first. -/
def after : List Op → Queue
  | [] => .empty
  | op :: past => op.apply (after past)

/-- The actions that were queued, the first one first. -/
def pushed : List Op → List Action
  | [] => []
  | .push a :: past => pushed past ++ [a]
  | _ :: past => pushed past

/-- What each drain has returned, the first drain first. -/
def drained : List Op → List (List Action)
  | [] => []
  | .drain now :: past => drained past ++ [((after past).drainDue now).1]
  | _ :: past => drained past

/-! ### Tickets -/

/-- A queued action and the number of those that were queued before it. -/
structure Ticket where
  number : Nat
  action : Action

namespace Ticket

/-- The first one falls due earlier, or at the same moment and was queued earlier. -/
def Before (a b : Ticket) : Prop :=
  a.action.due < b.action.due ∨ a.action.due = b.action.due ∧ a.number < b.number

instance : DecidableRel Before := fun a b =>
  inferInstanceAs (Decidable (a.action.due < b.action.due ∨
    a.action.due = b.action.due ∧ a.number < b.number))

theorem before_asymm {a b : Ticket} (h : a.Before b) : ¬ b.Before a := by
  unfold Before at *
  simp only [UInt64.lt_iff_toNat_lt, ← UInt64.toNat_inj] at *
  omega

theorem before_of_not {a b : Ticket} (h : ¬ b.Before a) (hne : a.number ≠ b.number) :
    a.Before b := by
  unfold Before at *
  simp only [UInt64.lt_iff_toNat_lt, ← UInt64.toNat_inj] at *
  omega

theorem not_before_trans {a b c : Ticket} (hab : ¬ b.Before a) (hbc : ¬ c.Before b) :
    ¬ c.Before a := by
  unfold Before at *
  simp only [UInt64.lt_iff_toNat_lt, ← UInt64.toNat_inj] at *
  omega

theorem due_le_of_before {a b : Ticket} (h : a.Before b) : a.action.due ≤ b.action.due := by
  rcases h with hlt | ⟨heq, -⟩
  · exact UInt64.le_of_lt hlt
  · exact heq ▸ UInt64.le_refl _

end Ticket

open Ticket (Before before_asymm)

/-- Tickets sorted by the moment at which they fall due, and those of one moment by their
numbers. -/
def inTurn (tickets : List Ticket) : List Ticket :=
  tickets.mergeSort fun a b => decide (¬ b.Before a)

theorem inTurn_perm (tickets : List Ticket) : (inTurn tickets).Perm tickets :=
  List.mergeSort_perm tickets _

theorem inTurn_nil : inTurn [] = [] := List.mergeSort_nil

section Distinct

variable {tickets : List Ticket}

abbrev Distinct (tickets : List Ticket) : Prop := (tickets.map Ticket.number).Nodup

theorem Distinct.filter (hd : Distinct tickets) (p : Ticket → Bool) : Distinct (tickets.filter p) :=
  List.Nodup.sublist (List.filter_sublist.map _) hd

theorem not_due (now : UInt64) : (tickets.filter fun t => !decide (t.action.due ≤ now)) =
    tickets.filter fun t => now < t.action.due := by
  refine List.filter_congr fun t _ => ?_
  rw [← decide_not, decide_eq_decide, UInt64.not_le]

theorem inTurn_before (hd : Distinct tickets) : (inTurn tickets).Pairwise Before := by
  have hsorted : (inTurn tickets).Pairwise fun a b => decide (¬ b.Before a) = true := by
    refine List.pairwise_mergeSort ?_ ?_ tickets
    · intro a b c hab hbc
      simp only [decide_eq_true_eq] at hab hbc ⊢
      exact Ticket.not_before_trans hab hbc
    · intro a b
      simp only [Bool.or_eq_true, decide_eq_true_eq]
      by_cases hab : b.Before a
      · exact Or.inr (before_asymm hab)
      · exact Or.inl hab
  have hnumbers : (inTurn tickets).Pairwise fun a b => a.number ≠ b.number := by
    have hd' : Distinct (inTurn tickets) := (((inTurn_perm tickets).map _).nodup_iff).2 hd
    exact List.pairwise_map.1 hd'
  refine hsorted.imp₂ ?_ hnumbers
  intro a b hab hne
  exact Ticket.before_of_not (of_decide_eq_true hab) hne

theorem eq_inTurn {listed : List Ticket} (hd : Distinct tickets) (hperm : listed.Perm tickets)
    (horder : listed.Pairwise Before) : listed = inTurn tickets := by
  have hperm' : listed.Perm (inTurn tickets) := hperm.trans (inTurn_perm tickets).symm
  exact hperm'.eq_of_pairwise (fun a b _ _ hab hba => absurd hba (before_asymm hab)) horder
    (inTurn_before hd)

theorem inTurn_filter (hd : Distinct tickets) (p : Ticket → Bool) :
    (inTurn tickets).filter p = inTurn (tickets.filter p) := by
  exact eq_inTurn (hd.filter p) ((inTurn_perm tickets).filter p) ((inTurn_before hd).filter p)

theorem inTurn_split (hd : Distinct tickets) (now : UInt64) :
    inTurn tickets = inTurn (tickets.filter fun t => t.action.due ≤ now) ++
      inTurn (tickets.filter fun t => now < t.action.due) := by
  have hpart : (inTurn tickets).Pairwise fun a b =>
      decide (b.action.due ≤ now) = true → decide (a.action.due ≤ now) = true := by
    refine (inTurn_before hd).imp ?_
    intro a b hab hb
    exact decide_eq_true (UInt64.le_trans (Ticket.due_le_of_before hab) (of_decide_eq_true hb))
  obtain ⟨htake, hdrop⟩ := takeWhile_eq_filter hpart
  rw [← inTurn_filter hd, ← inTurn_filter hd, ← not_due now, ← htake, ← hdrop,
    List.takeWhile_append_dropWhile]

theorem inTurn_append (t : Ticket) (hd : Distinct (tickets ++ [t]))
    (hnew : ∀ u ∈ tickets, u.number < t.number) :
    inTurn (tickets ++ [t]) = inTurn (tickets.filter fun u => u.action.due ≤ t.action.due) ++
      t :: inTurn (tickets.filter fun u => t.action.due < u.action.due) := by
  have hd₀ : Distinct tickets := List.Nodup.sublist ((List.sublist_append_left _ _).map _) hd
  have hsplit := inTurn_split hd₀ t.action.due
  have horder := inTurn_before hd₀
  rw [hsplit] at horder
  obtain ⟨hfirst, hlast, hacross⟩ := List.pairwise_append.1 horder
  have hmem : ∀ {p : Ticket → Bool} {u : Ticket}, u ∈ inTurn (tickets.filter p) →
      u ∈ tickets ∧ p u = true := fun hu => List.mem_filter.1 ((inTurn_perm _).mem_iff.1 hu)
  symm
  refine eq_inTurn hd ?_ ?_
  · have hall := inTurn_perm tickets
    rw [hsplit] at hall
    have hfront := (hall.cons t).trans (List.perm_append_singleton t tickets).symm
    exact List.perm_middle.trans hfront
  · refine List.pairwise_append.2 ⟨hfirst, List.pairwise_cons.2 ⟨?_, hlast⟩, ?_⟩
    · intro u hu
      exact Or.inl (of_decide_eq_true (hmem hu).2)
    · intro u hu v hv
      obtain ⟨hin, hdue⟩ := hmem hu
      rcases List.mem_cons.1 hv with rfl | hv
      · rcases UInt64.le_iff_lt_or_eq.1 (of_decide_eq_true hdue) with hlt | heq
        · exact Or.inl hlt
        · exact Or.inr ⟨heq, hnew u hin⟩
      · exact hacross u hu v hv

end Distinct

/-! ### Ledgers -/

/-- What a history says of its tickets. -/
structure Ledger where
  queued : List Ticket
  held : List Ticket
  /-- What came out in each drain. -/
  drained : List (List Ticket)
  dropped : List Ticket

def Ledger.enter (l : Ledger) : Op → Ledger
  | .push a =>
    let t : Ticket := ⟨l.queued.length, a⟩
    { l with queued := l.queued ++ [t], held := l.held ++ [t] }
  | .drain now =>
    { l with
      held := l.held.filter fun t => now < t.action.due
      drained := l.drained ++ [inTurn (l.held.filter fun t => t.action.due ≤ now)] }
  | .clear => { l with held := [], dropped := l.dropped ++ l.held }

def ledger : List Op → Ledger
  | [] => ⟨[], [], [], []⟩
  | op :: past => (ledger past).enter op

/-- Every ticket is in one place, and numbers count the tickets. -/
structure Ledger.Balanced (l : Ledger) : Prop where
  numbers : l.queued.map Ticket.number = List.range l.queued.length
  places : (l.drained.flatten ++ l.dropped ++ l.held).Perm l.queued

namespace Ledger

variable {l : Ledger}

theorem Balanced.distinct (hl : l.Balanced) : Distinct l.held := by
  have hnodup : Distinct l.queued := by
    unfold Distinct
    rw [hl.numbers]
    exact List.nodup_range
  have hall : Distinct (l.drained.flatten ++ l.dropped ++ l.held) :=
    ((hl.places.map Ticket.number).nodup_iff).2 hnodup
  exact List.Nodup.sublist ((List.sublist_append_right _ _).map _) hall

theorem Balanced.number_lt (hl : l.Balanced) {t : Ticket} (ht : t ∈ l.held) :
    t.number < l.queued.length := by
  have hmem : t ∈ l.queued := hl.places.mem_iff.1 (List.mem_append_right _ ht)
  have hnumber : t.number ∈ List.range l.queued.length :=
    hl.numbers ▸ List.mem_map_of_mem hmem
  exact List.mem_range.1 hnumber

theorem Balanced.drain (hl : l.Balanced) (now : UInt64) : (l.enter (.drain now)).Balanced := by
  refine ⟨hl.numbers, ?_⟩
  have hout : (inTurn (l.held.filter fun t => t.action.due ≤ now) ++
      l.held.filter fun t => now < t.action.due).Perm l.held := by
    rw [← not_due now]
    exact ((inTurn_perm _).append_right _).trans (List.filter_append_perm _ l.held)
  refine List.Perm.trans ?_ ((hout.append_left (l.drained.flatten ++ l.dropped)).trans hl.places)
  simp only [Ledger.enter]
  generalize inTurn (l.held.filter fun t => t.action.due ≤ now) = out
  generalize (l.held.filter fun t => now < t.action.due) = waiting
  -- What comes out stands in front of what has been dropped, and the rest behind it.
  rw [List.flatten_append, List.flatten_singleton, List.append_assoc, List.append_assoc,
    List.append_assoc]
  refine List.Perm.append_left _ ?_
  rw [← List.append_assoc, ← List.append_assoc]
  exact List.perm_append_comm.append_right waiting

theorem Balanced.enter (hl : l.Balanced) (op : Op) : (l.enter op).Balanced := by
  cases op with
  | push a =>
    refine ⟨?_, ?_⟩
    · simp only [Ledger.enter, List.map_append, hl.numbers, List.length_append, List.map_singleton,
        List.length_singleton, List.range_succ]
    · simp only [Ledger.enter]
      rw [← List.append_assoc]
      exact hl.places.append_right _
  | drain now => exact hl.drain now
  | clear =>
    refine ⟨hl.numbers, ?_⟩
    simp only [Ledger.enter, List.append_nil]
    rw [← List.append_assoc]
    exact hl.places

end Ledger

theorem ledger_balanced (past : List Op) : (ledger past).Balanced := by
  induction past with
  | nil => exact ⟨rfl, .refl _⟩
  | cons op past ih => exact ih.enter op

/-! ### A queue and its ledger -/

/-- The queue lists the actions of the held tickets in their turn. -/
def Holds (q : Queue) (l : Ledger) : Prop := q.actions = (inTurn l.held).map Ticket.action

section Holds

variable {q : Queue} {l : Ledger}

theorem Holds.ordered (hq : Holds q l) (hl : l.Balanced) : q.Ordered := by
  unfold Ordered
  rw [hq, List.pairwise_map]
  exact (inTurn_before hl.distinct).imp Ticket.due_le_of_before

theorem Holds.drainDue (hq : Holds q l) (hl : l.Balanced) (now : UInt64) :
    q.drainDue now =
      ((inTurn (l.held.filter fun t => t.action.due ≤ now)).map Ticket.action,
        ⟨(inTurn (l.held.filter fun t => now < t.action.due)).map Ticket.action⟩) := by
  rw [(hq.ordered hl).drainDue, hq, List.filter_map, List.filter_map, ← inTurn_filter hl.distinct,
    ← inTurn_filter hl.distinct]
  rfl

theorem Holds.pending (hq : Holds q l) :
    q.pending = (inTurn l.held).map fun t => ⟨t.action.label, t.action.owner, t.action.due⟩ := by
  unfold Queue.pending
  rw [hq, List.map_map]
  rfl

theorem Holds.nextDue? (hq : Holds q l) :
    q.nextDue? = (inTurn l.held).head?.map fun t => t.action.due := by
  unfold Queue.nextDue?
  rw [hq, List.head?_map, Option.map_map]
  rfl

theorem Holds.size (hq : Holds q l) : q.size = l.held.length := by
  unfold Queue.size
  rw [hq, List.length_map, (inTurn_perm l.held).length_eq]

theorem push_actions (q : Queue) (a : Action) :
    (q.push a).actions = (q.drainDue a.due).1 ++ a :: (q.drainDue a.due).2.actions := by
  obtain ⟨actions⟩ := q
  unfold push drainDue
  induction actions with
  | nil => rfl
  | cons b rest ih =>
    by_cases hb : b.due ≤ a.due <;> simp_all [insert]

theorem Holds.enter (hq : Holds q l) (hl : l.Balanced) (op : Op) :
    Holds (op.apply q) (l.enter op) := by
  unfold Holds
  cases op with
  | push a =>
    have hd := (hl.enter (.push a)).distinct
    have hturn := inTurn_append ⟨l.queued.length, a⟩ hd fun u hu => hl.number_lt hu
    have hpush : (q.push a).actions = _ := q.push_actions a
    rw [hq.drainDue hl] at hpush
    show (q.push a).actions = (inTurn (l.held ++ [⟨l.queued.length, a⟩])).map Ticket.action
    rw [hpush, hturn, List.map_append, List.map_cons]
  | drain now =>
    show (q.drainDue now).2.actions = _
    rw [hq.drainDue hl]
    rfl
  | clear => exact (congrArg (List.map Ticket.action) inTurn_nil).symm

end Holds

theorem holds_after (past : List Op) : Holds (after past) (ledger past) := by
  induction past with
  | nil => exact (congrArg (List.map Ticket.action) inTurn_nil).symm
  | cons op past ih => exact ih.enter (ledger_balanced past) op

theorem drained_eq (past : List Op) :
    drained past = (ledger past).drained.map (List.map Ticket.action) := by
  induction past with
  | nil => rfl
  | cons op past ih =>
    cases op with
    | push a => exact ih
    | clear => exact ih
    | drain now =>
      have hout := congrArg Prod.fst ((holds_after past).drainDue (ledger_balanced past) now)
      simp only [drained, ledger, Ledger.enter, List.map_append, List.map_singleton, ih, hout]

theorem pushed_eq (past : List Op) : pushed past = (ledger past).queued.map Ticket.action := by
  induction past with
  | nil => rfl
  | cons op past ih =>
    cases op with
    | push a => simp only [pushed, ledger, Ledger.enter, List.map_append, List.map_singleton, ih]
    | drain now => exact ih
    | clear => exact ih

/-! ### Drains to come -/

theorem queued_length_le (past later : List Op) :
    (ledger past).queued.length ≤ (ledger (later ++ past)).queued.length := by
  induction later with
  | nil => exact Nat.le_refl _
  | cons op later ih =>
    cases op with
    | push a =>
      simp only [List.cons_append, ledger, Ledger.enter, List.length_append, List.length_singleton]
      omega
    | drain now => exact ih
    | clear => exact ih

theorem Ledger.drained_enter (l : Ledger) (op : Op) : l.drained <+: (l.enter op).drained := by
  cases op with
  | drain now => exact List.prefix_append _ _
  | push a => exact List.prefix_rfl
  | clear => exact List.prefix_rfl

/-- Of some tickets, those that have come out and those that are held, in their turn. -/
def Ledger.listed (l : Ledger) (old : Ticket → Bool) : List Ticket :=
  l.drained.flatten.filter old ++ inTurn (l.held.filter old)

theorem Ledger.listed_enter {l : Ledger} (hl : l.Balanced) {old : Ticket → Bool} {op : Op}
    (hnew : ∀ a, old ⟨l.queued.length, a⟩ = false) :
    (l.enter op).listed old <+: l.listed old ∧
      (op ≠ .clear → (l.enter op).listed old = l.listed old) := by
  cases op with
  | push a =>
    have hheld : (l.held ++ [(⟨l.queued.length, a⟩ : Ticket)]).filter old = l.held.filter old := by
      rw [List.filter_append, List.filter_cons_of_neg (by simp [hnew]), List.filter_nil,
        List.append_nil]
    have hsame : (l.enter (.push a)).listed old = l.listed old :=
      congrArg (fun held => l.drained.flatten.filter old ++ inTurn held) hheld
    exact ⟨hsame ▸ List.prefix_rfl, fun _ => hsame⟩
  | drain now =>
    -- What comes out and what stays held, the old tickets of both in a row.
    have hsame : (l.enter (.drain now)).listed old = l.listed old := by
      unfold listed
      simp only [Ledger.enter]
      rw [inTurn_split (hl.distinct.filter old) now, List.flatten_append, List.flatten_singleton,
        List.filter_append, List.append_assoc, inTurn_filter (hl.distinct.filter _)]
      simp only [List.filter_filter, Bool.and_comm]
    exact ⟨hsame ▸ List.prefix_rfl, fun _ => hsame⟩
  | clear =>
    refine ⟨?_, fun hclear => absurd rfl hclear⟩
    have hnone : (l.enter .clear).listed old = l.drained.flatten.filter old := by
      simp only [listed, Ledger.enter, List.filter_nil, inTurn_nil, List.append_nil]
    rw [hnone]
    exact List.prefix_append _ _

/-- Tickets that there have been stay listed as they are, and some may be dropped from the end. -/
theorem listed_later (past later : List Op) :
    let l := ledger past
    let l' := ledger (later ++ past)
    let old : Ticket → Bool := fun t => t.number < l.queued.length
    l.drained <+: l'.drained ∧ l'.listed old <+: l.listed old ∧
      (.clear ∉ later → l'.listed old = l.listed old) := by
  intro l l' old
  induction later with
  | nil => exact ⟨List.prefix_rfl, List.prefix_rfl, fun _ => rfl⟩
  | cons op later ih =>
    obtain ⟨hdrained, hprefix, hall⟩ := ih
    have hnew : ∀ a, old ⟨(ledger (later ++ past)).queued.length, a⟩ = false := fun a =>
      decide_eq_false (Nat.not_lt.2 (queued_length_le past later))
    obtain ⟨hstep, hkept⟩ := Ledger.listed_enter (ledger_balanced (later ++ past)) hnew
    refine ⟨hdrained.trans (Ledger.drained_enter _ op), hstep.trans hprefix, fun hclear => ?_⟩
    have hop : op ≠ .clear := fun h => hclear (h ▸ List.mem_cons_self)
    exact (hkept hop).trans (hall fun h => hclear (List.mem_cons_of_mem _ h))

/-- Whatever is done later, the tickets that are held now come out in their turn, and none of them
is passed over unless the queue is cleared. -/
theorem ledger_later (past later : List Op) :
    let l := ledger past
    let l' := ledger (later ++ past)
    let old : Ticket → Bool := fun t => t.number < l.queued.length
    ∃ more, l'.drained = l.drained ++ more ∧
      more.flatten.filter old ++ inTurn (l'.held.filter old) <+: inTurn l.held ∧
      (.clear ∉ later →
        more.flatten.filter old ++ inTurn (l'.held.filter old) = inTurn l.held) := by
  intro l l' old
  obtain ⟨⟨more, hmore⟩, hprefix, hall⟩ := listed_later past later
  have hheld : l.held.filter old = l.held :=
    List.filter_eq_self.2 fun t ht => decide_eq_true ((ledger_balanced past).number_lt ht)
  -- What had come out before stands in front of both lists.
  have hbefore : l.listed old = l.drained.flatten.filter old ++ inTurn l.held := by
    unfold Ledger.listed
    rw [hheld]
  have hafter : l'.listed old = l.drained.flatten.filter old ++
      (more.flatten.filter old ++ inTurn (l'.held.filter old)) := by
    unfold Ledger.listed
    rw [show l'.drained = l.drained ++ more from hmore.symm, List.flatten_append,
      List.filter_append, List.append_assoc]
  refine ⟨more, hmore.symm, ?_, fun hclear => ?_⟩
  · refine (List.prefix_append_right_inj (l.drained.flatten.filter old)).1 ?_
    rw [← hbefore, ← hafter]
    exact hprefix
  · refine (List.append_right_inj (l.drained.flatten.filter old)).1 ?_
    rw [← hbefore, ← hafter]
    exact hall hclear

end Adventure.Queue

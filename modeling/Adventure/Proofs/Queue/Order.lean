import Adventure.Queue
import Mathlib.Data.List.Basic

/-!
# The order of the queue

The queue lists its actions in the order in which they fall due. Queueing an action puts it behind
those of the same moment that are there already and leaves the order of the others as it is, and
what is due at a moment is all that falls due no later.
-/

namespace Adventure.Queue

/-- Every action falls due no earlier than those before it. -/
def Ordered (q : Queue) : Prop := q.actions.Pairwise fun a b => a.due ≤ b.due

/-- The actions of one moment, in their order. -/
def dueAt (q : Queue) (t : UInt64) : List Action := q.actions.filter fun a => a.due = t

theorem ordered_empty : empty.Ordered := List.Pairwise.nil

/-! ### Queueing -/

theorem mem_insert {a b : Action} {actions : List Action} :
    b ∈ insert a actions ↔ b = a ∨ b ∈ actions := by
  induction actions with
  | nil => simp [insert]
  | cons c rest ih =>
    unfold insert
    split
    · rw [List.mem_cons, ih, List.mem_cons]
      tauto
    · rw [List.mem_cons]

theorem Ordered.push {q : Queue} (hq : q.Ordered) (a : Action) : (q.push a).Ordered := by
  obtain ⟨actions⟩ := q
  unfold Ordered at hq
  unfold Ordered Queue.push
  induction actions with
  | nil => exact List.pairwise_singleton _ a
  | cons b rest ih =>
    obtain ⟨hfirst, hrest⟩ := List.pairwise_cons.1 hq
    unfold insert
    split
    · rename_i hba
      refine List.pairwise_cons.2 ⟨?_, ih hrest⟩
      intro c hc
      rcases mem_insert.1 hc with rfl | hc
      · exact hba
      · exact hfirst c hc
    · rename_i hba
      have hab : a.due ≤ b.due := UInt64.le_of_lt (UInt64.not_le.1 hba)
      refine List.pairwise_cons.2 ⟨?_, hq⟩
      intro c hc
      rcases List.mem_cons.1 hc with rfl | hc
      · exact hab
      · exact UInt64.le_trans hab (hfirst c hc)

theorem Ordered.dueAt_push {q : Queue} (hq : q.Ordered) (a : Action) (t : UInt64) :
    (q.push a).dueAt t = q.dueAt t ++ if a.due = t then [a] else [] := by
  obtain ⟨actions⟩ := q
  unfold Ordered at hq
  unfold dueAt Queue.push
  induction actions with
  | nil => by_cases ha : a.due = t <;> simp [insert, ha]
  | cons b rest ih =>
    obtain ⟨hfirst, hrest⟩ := List.pairwise_cons.1 hq
    have ih := ih hrest
    unfold insert
    split
    · by_cases hb : b.due = t
      · simp only [List.filter_cons, hb, decide_true, if_true, List.cons_append, ih]
      · simpa only [List.filter_cons, hb, decide_false, Bool.false_eq_true, if_false] using ih
    · rename_i hba
      by_cases ha : a.due = t
      · -- Everything behind the new action falls due later than it.
        have hnone : (b :: rest).filter (fun c => c.due = t) = [] := by
          refine List.filter_eq_nil_iff.2 ?_
          intro c hc
          have hbc : b.due ≤ c.due := by
            rcases List.mem_cons.1 hc with rfl | hc
            · exact UInt64.le_refl _
            · exact hfirst c hc
          have hac : a.due < c.due := UInt64.lt_of_lt_of_le (UInt64.not_le.1 hba) hbc
          rw [decide_eq_true_eq, ← ha]
          exact (UInt64.ne_of_lt hac).symm
        rw [List.filter_cons_of_pos (by simpa using ha), hnone, if_pos ha, List.nil_append]
      · rw [List.filter_cons_of_neg (by simpa using ha), if_neg ha, List.append_nil]

theorem Ordered.foldl_push {q : Queue} (hq : q.Ordered) (actions : List Action) :
    (actions.foldl Queue.push q).Ordered := by
  induction actions generalizing q with
  | nil => exact hq
  | cons a rest ih => exact ih (hq.push a)

theorem Ordered.dueAt_foldl_push {q : Queue} (hq : q.Ordered) (actions : List Action)
    (t : UInt64) : (actions.foldl Queue.push q).dueAt t =
      q.dueAt t ++ actions.filter fun a => a.due = t := by
  induction actions generalizing q with
  | nil => simp
  | cons a rest ih =>
    rw [List.foldl_cons, ih (hq.push a), hq.dueAt_push a t, List.append_assoc]
    by_cases ha : a.due = t <;> simp [ha]

/-! ### What is due -/

section Sorted

variable {α : Type} {p : α → Bool} {l : List α}

theorem takeWhile_eq_filter (h : l.Pairwise fun a b => p b = true → p a = true) :
    l.takeWhile p = l.filter p ∧ l.dropWhile p = l.filter fun a => !p a := by
  induction l with
  | nil => exact ⟨rfl, rfl⟩
  | cons a rest ih =>
    obtain ⟨hfirst, hrest⟩ := List.pairwise_cons.1 h
    obtain ⟨htake, hdrop⟩ := ih hrest
    cases ha : p a with
    | true => simp [ha, htake, hdrop]
    | false =>
      have hnone : ∀ b ∈ rest, p b = false := by
        intro b hb
        by_contra hpb
        have hpa := hfirst b hb (by simpa using hpb)
        rw [ha] at hpa
        cases hpa
      have htaken : rest.filter p = [] := List.filter_eq_nil_iff.2 fun b hb => by simp [hnone b hb]
      have hdropped : (rest.filter fun b => !p b) = rest :=
        List.filter_eq_self.2 fun b hb => by simp [hnone b hb]
      simp [ha, htaken, hdropped]

end Sorted

theorem Ordered.drainDue {q : Queue} (hq : q.Ordered) (now : UInt64) :
    q.drainDue now =
      (q.actions.filter fun a => a.due ≤ now, ⟨q.actions.filter fun a => now < a.due⟩) := by
  have hpart : q.actions.Pairwise fun a b =>
      decide (b.due ≤ now) = true → decide (a.due ≤ now) = true := by
    refine hq.imp ?_
    intro a b hab hb
    exact decide_eq_true (UInt64.le_trans hab (of_decide_eq_true hb))
  obtain ⟨htake, hdrop⟩ := takeWhile_eq_filter hpart
  unfold Queue.drainDue
  rw [htake, hdrop]
  congr 2
  refine List.filter_congr fun a _ => ?_
  rw [← decide_not, decide_eq_decide, UInt64.not_le]

theorem drainDue_of_due {q rest : Queue} {a : Action} {now : UInt64}
    (h : q.actions = a :: rest.actions) (hdue : a.due ≤ now) :
    q.drainDue now = (a :: (rest.drainDue now).1, (rest.drainDue now).2) := by
  simp [drainDue, h, hdue]

theorem drainDue_of_later {q rest : Queue} {a : Action} {now : UInt64}
    (h : q.actions = a :: rest.actions) (hlater : ¬a.due ≤ now) : q.drainDue now = ([], q) := by
  obtain ⟨actions⟩ := q
  subst h
  simp [drainDue, hlater]

/-- What is due later is what is due now, and then what is due later of the rest. -/
theorem drainDue_drainDue (q : Queue) {t₁ t₂ : UInt64} (h : t₁ ≤ t₂) :
    ((q.drainDue t₁).1 ++ ((q.drainDue t₁).2.drainDue t₂).1,
      ((q.drainDue t₁).2.drainDue t₂).2) = q.drainDue t₂ := by
  obtain ⟨actions⟩ := q
  unfold drainDue
  induction actions with
  | nil => rfl
  | cons a rest ih =>
    by_cases ha : a.due ≤ t₁
    · have ha₂ : a.due ≤ t₂ := UInt64.le_trans ha h
      simp_all
    · simp [ha]

theorem Ordered.drained {q : Queue} (hq : q.Ordered) (now : UInt64) :
    (q.drainDue now).2.Ordered := by
  rw [hq.drainDue]
  exact List.Pairwise.filter _ hq

theorem Ordered.dueAt_drained {q : Queue} (hq : q.Ordered) {now t : UInt64} (ht : now < t) :
    (q.drainDue now).2.dueAt t = q.dueAt t := by
  rw [hq.drainDue]
  unfold dueAt
  rw [List.filter_filter]
  refine List.filter_congr fun a _ => ?_
  by_cases ha : a.due = t
  · simp [ha, ht]
  · simp [ha]

end Adventure.Queue

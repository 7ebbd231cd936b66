import Adventure.Proofs.Queue.History
import Adventure.Queue.Heap

/-!
# The heap behind the queue

In their order the entries of a heap are the actions of the queue, and each operation of the heap
does to them what the operation of the queue does. That rests on the numbers alone: no two entries
have the same one, and the next one is larger than all of them, as long as it has not started again
at zero. Nothing rests on the layout. What the ledger of a history says of the queue holds of the
heap, then, until the numbers have run out.
-/

namespace Adventure

/-! ### The order of entries -/

namespace Queued

def Le (a b : Queued) : Prop := (compare a b).isLE

theorem le_iff {a b : Queued} :
    Le a b ↔ a.due < b.due ∨ a.due = b.due ∧ a.sequence ≤ b.sequence := by
  show ((compare a.due b.due).then (compare a.sequence b.sequence)).isLE ↔ _
  rw [Ordering.isLE_then_iff_or]
  simp [Std.compare_eq_lt, Std.isLE_compare]

theorem lt_iff {a b : Queued} : compare a b = .lt ↔
    a.due < b.due ∨ a.due = b.due ∧ a.sequence < b.sequence := by
  show (compare a.due b.due).then (compare a.sequence b.sequence) = .lt ↔ _
  rw [Ordering.then_eq_lt]
  simp [Std.compare_eq_lt]

theorem le_total (a b : Queued) : Le a b ∨ Le b a := by
  simp only [le_iff, UInt64.lt_iff_toNat_lt, UInt64.le_iff_toNat_le, ← UInt64.toNat_inj]
  omega

theorem le_trans {a b c : Queued} (hab : Le a b) (hbc : Le b c) : Le a c := by
  simp only [le_iff, UInt64.lt_iff_toNat_lt, UInt64.le_iff_toNat_le, ← UInt64.toNat_inj] at *
  omega

theorem due_le_of_le {a b : Queued} (h : Le a b) : a.due ≤ b.due := by
  simp only [le_iff, UInt64.lt_iff_toNat_lt, UInt64.le_iff_toNat_le, ← UInt64.toNat_inj] at *
  omega

theorem sequence_eq_of_le {a b : Queued} (hab : Le a b) (hba : Le b a) :
    a.sequence = b.sequence := by
  simp only [le_iff, UInt64.lt_iff_toNat_lt, UInt64.le_iff_toNat_le, ← UInt64.toNat_inj] at *
  omega

theorem le_of_not_lt {a b : Queued} (h : compare a b ≠ .lt) : Le b a := by
  rw [ne_eq, lt_iff] at h
  simp only [le_iff, UInt64.lt_iff_toNat_lt, UInt64.le_iff_toNat_le, ← UInt64.toNat_inj] at *
  omega

section Sorting

variable {entries others : List Queued} {e : Queued}

/-- No two entries have the same number. -/
abbrev Distinct (entries : List Queued) : Prop := (entries.map Queued.sequence).Nodup

theorem Distinct.perm (h : Distinct entries) (hperm : others.Perm entries) : Distinct others :=
  ((hperm.map _).nodup_iff).2 h

theorem Distinct.tail (h : Distinct (e :: entries)) : Distinct entries :=
  (List.nodup_cons.1 h).2

theorem inOrder_perm (entries : List Queued) : (inOrder entries).Perm entries :=
  List.mergeSort_perm entries _

theorem inOrder_le (entries : List Queued) : (inOrder entries).Pairwise Le := by
  refine List.pairwise_mergeSort ?_ ?_ entries
  · intro a b c hab hbc
    exact le_trans hab hbc
  · intro a b
    exact Bool.or_eq_true_iff.2 (le_total a b)

theorem eq_inOrder (hd : Distinct entries) {listed : List Queued} (hperm : listed.Perm entries)
    (hle : listed.Pairwise Le) : listed = inOrder entries := by
  refine (hperm.trans (inOrder_perm entries).symm).eq_of_pairwise ?_ hle (inOrder_le entries)
  intro a b ha hb hab hba
  exact List.inj_on_of_nodup_map hd (hperm.mem_iff.1 ha) ((inOrder_perm entries).mem_iff.1 hb)
    (sequence_eq_of_le hab hba)

theorem inOrder_congr (hd : Distinct entries) (hperm : others.Perm entries) :
    inOrder others = inOrder entries :=
  eq_inOrder hd ((inOrder_perm others).trans hperm) (inOrder_le others)

theorem le_of_extract (h : extract? entries = some (e, others)) : ∀ f ∈ others, Le e f := by
  induction entries generalizing e others with
  | nil => cases h
  | cons g rest ih =>
    unfold extract? at h
    split at h
    · cases h
      exact nofun
    · rename_i least left hsome
      have hleast := ih hsome
      split at h
      · rename_i hlt
        cases h
        refine List.forall_mem_cons.2 ⟨?_, hleast⟩
        exact congrArg Ordering.isLE hlt
      · rename_i hlt
        cases h
        intro f hf
        have hg := le_of_not_lt hlt
        rcases List.mem_cons.1 ((perm_of_extract hsome).mem_iff.2 hf) with rfl | hf
        · exact hg
        · exact le_trans hg (hleast f hf)

/-- What is taken out first is the first in order. -/
theorem inOrder_of_extract (hd : Distinct entries) (h : extract? entries = some (e, others)) :
    inOrder entries = e :: inOrder others := by
  have hperm := perm_of_extract h
  refine (eq_inOrder hd ((inOrder_perm others).cons e |>.trans hperm) ?_).symm
  refine List.pairwise_cons.2 ⟨?_, inOrder_le others⟩
  intro f hf
  exact le_of_extract h f ((inOrder_perm others).mem_iff.1 hf)

/-- A new entry stands behind all that are due no later. -/
theorem inOrder_cons (hd : Distinct (e :: entries))
    (hnew : ∀ f ∈ entries, f.sequence < e.sequence) :
    inOrder (e :: entries) = (inOrder entries).takeWhile (fun f => f.due ≤ e.due) ++
      e :: (inOrder entries).dropWhile fun f => f.due ≤ e.due := by
  have hle := inOrder_le entries
  have hpart : (inOrder entries).Pairwise fun a b =>
      decide (b.due ≤ e.due) = true → decide (a.due ≤ e.due) = true := by
    refine hle.imp ?_
    intro a b hab hb
    exact decide_eq_true (UInt64.le_trans (due_le_of_le hab) (of_decide_eq_true hb))
  obtain ⟨htake, hdrop⟩ := Queue.takeWhile_eq_filter hpart
  have hmem : ∀ {p : Queued → Bool} {f : Queued}, f ∈ (inOrder entries).filter p →
      f ∈ entries ∧ p f = true := fun hf =>
    ⟨(inOrder_perm entries).mem_iff.1 (List.mem_filter.1 hf).1, (List.mem_filter.1 hf).2⟩
  symm
  refine eq_inOrder hd ?_ ?_
  · refine List.perm_middle.trans (List.Perm.cons e ?_)
    rw [List.takeWhile_append_dropWhile]
    exact inOrder_perm entries
  · rw [htake, hdrop]
    refine List.pairwise_append.2 ⟨hle.filter _, List.pairwise_cons.2 ⟨?_, hle.filter _⟩, ?_⟩
    · intro f hf
      refine le_iff.2 (.inl ?_)
      simpa using (hmem hf).2
    · intro f hf g hg
      obtain ⟨hold, hdue⟩ := hmem hf
      have hfe : Le f e := by
        refine le_iff.2 ?_
        rcases UInt64.le_iff_lt_or_eq.1 (of_decide_eq_true hdue) with hlt | heq
        · exact .inl hlt
        · exact .inr ⟨heq, UInt64.le_of_lt (hnew f hold)⟩
      rcases List.mem_cons.1 hg with rfl | hg
      · exact hfe
      · refine le_trans hfe (le_iff.2 (.inl ?_))
        simpa using (hmem hg).2

end Sorting

end Queued

/-! ### The queue in a heap -/

open Queue (Op Ledger Ticket inTurn)

/-- The entry of a ticket. -/
def Queue.Ticket.entry (t : Ticket) : Queued := ⟨t.action.due, UInt64.ofNat t.number, t.action⟩

namespace Heap

/-- The queue that the heap stands for. -/
def toQueue (h : Heap) : Queue := ⟨(Queued.inOrder h.held).map Queued.action⟩

/-- Every entry is due with its action and has a number of its own, smaller than the next one. -/
structure Sound (h : Heap) : Prop where
  due : ∀ e ∈ h.held, e.due = e.action.due
  distinct : Queued.Distinct h.held
  earlier : ∀ e ∈ h.held, e.sequence < h.nextSequence

variable {layout : HeapLayout} {h rest : Heap} {e : Queued}

theorem sound_empty : empty.Sound := ⟨nofun, List.nodup_nil, nofun⟩

theorem toQueue_of_nil (hnil : h.held = []) : h.toQueue = .empty := by
  unfold toQueue Queued.inOrder
  rw [hnil, List.mergeSort_nil]
  rfl

theorem toQueue_empty : empty.toQueue = .empty := toQueue_of_nil rfl

theorem toQueue_clear (h : Heap) : h.clear.toQueue = .empty := toQueue_of_nil rfl

theorem Sound.clear (h : Heap) : h.clear.Sound := ⟨nofun, List.nodup_nil, nofun⟩

/-! #### Queueing -/

theorem Sound.distinct_cons (hs : h.Sound) (a : Action) :
    Queued.Distinct (⟨a.due, h.nextSequence, a⟩ :: h.held) := by
  refine List.nodup_cons.2 ⟨fun hmem => ?_, hs.distinct⟩
  obtain ⟨f, hf, heq⟩ := List.mem_map.1 hmem
  exact UInt64.ne_of_lt (hs.earlier f hf) heq

theorem Sound.push (hs : h.Sound) (hlast : h.nextSequence < h.nextSequence + 1) (a : Action) :
    (h.push layout a).Sound := by
  have hadd := layout.add_perm ⟨a.due, h.nextSequence, a⟩ h.held
  refine ⟨fun e he => ?_, ?_, fun e he => ?_⟩
  · rcases List.mem_cons.1 (hadd.mem_iff.1 he) with rfl | he
    · rfl
    · exact hs.due e he
  · exact (hs.distinct_cons a).perm hadd
  · rcases List.mem_cons.1 (hadd.mem_iff.1 he) with rfl | he
    · exact hlast
    · exact UInt64.lt_trans (hs.earlier e he) hlast

theorem insert_map {entries : List Queued} (hdue : ∀ e ∈ entries, e.due = e.action.due)
    (a : Action) : Queue.insert a (entries.map Queued.action) =
      (entries.takeWhile (fun e => e.due ≤ a.due) ++ ⟨a.due, h.nextSequence, a⟩ ::
        entries.dropWhile fun e => e.due ≤ a.due).map Queued.action := by
  induction entries with
  | nil => rfl
  | cons e rest ih =>
    have he := hdue e List.mem_cons_self
    have ih := ih fun f hf => hdue f (List.mem_cons_of_mem e hf)
    rw [List.map_cons, Queue.insert, ← he]
    split
    · rename_i hle
      simp only [hle, List.takeWhile_cons, List.dropWhile_cons, decide_true, if_true,
        List.cons_append, List.map_cons, ih]
    · rename_i hle
      simp [hle]

theorem Sound.toQueue_push (hs : h.Sound) (a : Action) :
    (h.push layout a).toQueue = h.toQueue.push a := by
  have hd := hs.distinct_cons a
  have hadd := layout.add_perm ⟨a.due, h.nextSequence, a⟩ h.held
  have horder := (Queued.inOrder_congr hd hadd).trans (Queued.inOrder_cons hd hs.earlier)
  have hdue : ∀ e ∈ Queued.inOrder h.held, e.due = e.action.due := fun e he =>
    hs.due e ((Queued.inOrder_perm h.held).mem_iff.1 he)
  have hactions := (congrArg (List.map Queued.action) horder).trans (insert_map hdue a).symm
  exact congrArg Queue.mk hactions

/-! #### Draining -/

theorem pop?_eq_none (hpop : h.pop? layout = none) : h.held = [] :=
  Queued.extract?_eq_none.1 (Option.map_eq_none_iff.1 hpop)

theorem Sound.pop (hs : h.Sound) (hpop : h.pop? layout = some (e, rest)) :
    rest.Sound ∧ rest.nextSequence = h.nextSequence ∧ e.due = e.action.due ∧
      h.toQueue.actions = e.action :: rest.toQueue.actions := by
  have hheld := held_pop hpop
  obtain ⟨others, hextract, rfl⟩ := pop?_eq_some hpop
  have hd := hs.distinct.perm hheld
  have hmem : ∀ f ∈ layout.close others, f ∈ h.held := fun f hf =>
    hheld.mem_iff.1 (List.mem_cons_of_mem e hf)
  refine ⟨⟨fun f hf => hs.due f (hmem f hf), hd.tail, fun f hf => hs.earlier f (hmem f hf)⟩, rfl,
    hs.due e (hheld.mem_iff.1 List.mem_cons_self), ?_⟩
  show (Queued.inOrder h.held).map _ = _ :: (Queued.inOrder (layout.close others)).map _
  have hothers : Queued.inOrder (layout.close others) = Queued.inOrder others :=
    Queued.inOrder_congr (hd.tail.perm (layout.close_perm others).symm) (layout.close_perm others)
  rw [Queued.inOrder_of_extract hs.distinct hextract, List.map_cons, hothers]

/-- A drain takes out of a heap what it takes out of the queue. -/
theorem Sound.drainDue (hs : h.Sound) (layout : HeapLayout) (now : UInt64) :
    (h.drainDue layout now).2.Sound ∧
      (h.drainDue layout now).2.nextSequence = h.nextSequence ∧
      ((h.drainDue layout now).1, (h.drainDue layout now).2.toQueue) = h.toQueue.drainDue now := by
  fun_induction h.drainDue layout now with
  | case1 h hpop =>
    rw [toQueue_of_nil (pop?_eq_none hpop)]
    exact ⟨hs, rfl, rfl⟩
  | case2 h e rest hpop hdue due rest' hdrain ih =>
    obtain ⟨hrest, hnext, he, hactions⟩ := hs.pop hpop
    rw [hdrain] at ih
    obtain ⟨hsound, hnext', hout⟩ := ih hrest
    refine ⟨hsound, hnext'.trans hnext, ?_⟩
    rw [Queue.drainDue_of_due hactions (he ▸ hdue), ← hout]
  | case3 h e rest hpop hdue =>
    obtain ⟨-, -, he, hactions⟩ := hs.pop hpop
    refine ⟨hs, rfl, ?_⟩
    rw [Queue.drainDue_of_later hactions (he ▸ hdue)]

/-- What stays in the heap is what is due later. -/
theorem held_drainDue (h : Heap) (now : UInt64) :
    (h.drainDue layout now).2.held.Perm (h.held.filter fun e => now < e.due) := by
  fun_induction h.drainDue layout now with
  | case1 h hpop =>
    rw [pop?_eq_none hpop]
    exact .refl _
  | case2 h e rest hpop hdue due rest' hdrain ih =>
    rw [hdrain] at ih
    have hheld := (held_pop hpop).filter fun e => now < e.due
    rw [List.filter_cons_of_neg (by simpa using hdue)] at hheld
    exact ih.trans hheld
  | case3 h e rest hpop hdue =>
    obtain ⟨others, hextract, -⟩ := pop?_eq_some hpop
    have hlater : ∀ f ∈ h.held, decide (now < f.due) = true := by
      intro f hf
      have hnow := UInt64.not_le.1 hdue
      rcases List.mem_cons.1 ((Queued.perm_of_extract hextract).mem_iff.2 hf) with rfl | hf
      · exact decide_eq_true hnow
      · have hle := Queued.due_le_of_le (Queued.le_of_extract hextract f hf)
        exact decide_eq_true (UInt64.lt_of_lt_of_le hnow hle)
    rw [List.filter_eq_self.2 hlater]

/-- Two drains one after the other take out what the later one alone takes out. -/
theorem Sound.drainDue_drainDue (hs : h.Sound) {t₁ t₂ : UInt64} (hle : t₁ ≤ t₂) :
    let first := h.drainDue layout t₁
    let second := first.2.drainDue layout t₂
    first.1 ++ second.1 = (h.drainDue layout t₂).1 ∧
      second.2.held.Perm (h.drainDue layout t₂).2.held := by
  intro first second
  obtain ⟨hsound, -, hfirst⟩ := hs.drainDue layout t₁
  obtain ⟨-, -, hsecond⟩ := hsound.drainDue layout t₂
  obtain ⟨-, -, hout⟩ := hs.drainDue layout t₂
  refine ⟨?_, ?_⟩
  · have htwice := congrArg Prod.fst (h.toQueue.drainDue_drainDue hle)
    rw [← hfirst, ← hsecond, ← hout] at htwice
    exact htwice
  · refine (held_drainDue first.2 t₂).trans ?_
    refine ((held_drainDue h t₁).filter _).trans (List.Perm.trans ?_ (held_drainDue h t₂).symm)
    rw [List.filter_filter]
    refine List.Perm.of_eq (List.filter_congr fun e _ => ?_)
    rw [← Bool.decide_and, decide_eq_decide]
    exact ⟨And.left, fun hlt => ⟨hlt, UInt64.lt_of_le_of_lt hle hlt⟩⟩

/-! #### Looking -/

theorem Sound.pending (hs : h.Sound) : h.pending = h.toQueue.pending := by
  unfold Heap.pending toQueue Queue.pending
  rw [List.map_map]
  refine List.map_congr_left fun e he => ?_
  have hdue := hs.due e ((Queued.inOrder_perm h.held).mem_iff.1 he)
  exact congrArg (Queue.Pending.mk _ _) hdue

theorem Sound.nextDue? (hs : h.Sound) : h.nextDue? = h.toQueue.nextDue? := by
  unfold Heap.nextDue? peek? Queue.nextDue?
  cases hextract : Queued.extract? h.held with
  | none => rw [toQueue_of_nil (Queued.extract?_eq_none.1 hextract)]; rfl
  | some out =>
    obtain ⟨e, others⟩ := out
    have hmem := (Queued.perm_of_extract hextract).mem_iff.1 List.mem_cons_self
    have hactions : h.toQueue.actions = e.action :: (Queued.inOrder others).map Queued.action :=
      congrArg (List.map Queued.action) (Queued.inOrder_of_extract hs.distinct hextract)
    rw [hactions]
    exact congrArg some (hs.due e hmem)

theorem size_toQueue (h : Heap) : h.toQueue.size = h.size :=
  (List.length_map _).trans (Queued.inOrder_perm h.held).length_eq

/-! ### Histories of a heap -/

section Histories

variable (layout : HeapLayout)

def apply (h : Heap) : Op → Heap
  | .push a => h.push layout a
  | .drain now => (h.drainDue layout now).2
  | .clear => h.clear

/-- The heap after a history, whose newest operation comes first. -/
def after : List Op → Heap
  | [] => .empty
  | op :: past => (after past).apply layout op

/-- What each drain has returned, the first drain first. -/
def drained : List Op → List (List Action)
  | [] => []
  | .drain now :: past => drained past ++ [((after layout past).drainDue layout now).1]
  | _ :: past => drained past

end Histories

theorem pushed_length_le (later past : List Op) :
    (Queue.pushed past).length ≤ (Queue.pushed (later ++ past)).length := by
  induction later with
  | nil => exact Nat.le_refl _
  | cons op later ih =>
    cases op with
    | push a =>
      refine Nat.le_trans ih ?_
      rw [List.cons_append, Queue.pushed, List.length_append]
      exact Nat.le_add_right _ _
    | _ => exact ih

/-- The heap stands for the queue of the same history, and the next number counts the actions that
were queued. -/
structure Follows (h : Heap) (past : List Op) : Prop where
  sound : h.Sound
  counted : h.nextSequence.toNat = (Queue.pushed past).length
  queue : h.toQueue = Queue.after past
  held : h.held.Perm ((Queue.ledger past).held.map Ticket.entry)

theorem Follows.held_drainDue {past : List Op} (hf : h.Follows past) (now : UInt64) :
    (h.drainDue layout now).2.held.Perm
      (((Queue.ledger past).held.filter fun t => now < t.action.due).map Ticket.entry) := by
  refine (Heap.held_drainDue h now).trans ((hf.held.filter _).trans ?_)
  rw [List.filter_map]
  exact .refl _

theorem Follows.apply {past : List Op} (hf : h.Follows past) {op : Op}
    (hfew : (Queue.pushed (op :: past)).length < UInt64.size) :
    (h.apply layout op).Follows (op :: past) := by
  cases op with
  | push a =>
    have hlength : (Queue.pushed (.push a :: past)).length = (Queue.pushed past).length + 1 := by
      rw [Queue.pushed, List.length_append, List.length_singleton]
    have hnext : (h.nextSequence + 1).toNat = (Queue.pushed (.push a :: past)).length := by
      rw [UInt64.toNat_add, hf.counted, hlength]
      exact Nat.mod_eq_of_lt (hlength ▸ hfew)
    have hentry : Ticket.entry ⟨(Queue.ledger past).queued.length, a⟩ =
        ⟨a.due, h.nextSequence, a⟩ := by
      rw [Ticket.entry, ← List.length_map Ticket.action, ← Queue.pushed_eq, ← hf.counted,
        UInt64.ofNat_toNat]
    refine ⟨hf.sound.push ?_ a, hnext, ?_, ?_⟩
    · rw [UInt64.lt_iff_toNat_lt, hnext, hf.counted, hlength]
      exact Nat.lt_succ_self _
    · exact (hf.sound.toQueue_push a).trans (congrArg (Queue.push · a) hf.queue)
    · refine (layout.add_perm _ h.held).trans ?_
      rw [Queue.ledger, Ledger.enter, List.map_append, List.map_singleton, hentry]
      exact (hf.held.cons _).trans (List.perm_append_singleton _ _).symm
  | drain now =>
    obtain ⟨hsound, hnext, hout⟩ := hf.sound.drainDue layout now
    refine ⟨hsound, (congrArg UInt64.toNat hnext).trans hf.counted, ?_, hf.held_drainDue now⟩
    exact (congrArg Prod.snd hout).trans (congrArg (fun q => (q.drainDue now).2) hf.queue)
  | clear => exact ⟨.clear h, hf.counted, toQueue_clear h, .nil⟩

theorem follows_after (layout : HeapLayout) {past : List Op}
    (hfew : (Queue.pushed past).length < UInt64.size) : (after layout past).Follows past := by
  induction past with
  | nil => exact ⟨sound_empty, rfl, toQueue_empty, .nil⟩
  | cons op past ih =>
    exact (ih (Nat.lt_of_le_of_lt (pushed_length_le [op] past) hfew)).apply hfew

theorem drained_after (layout : HeapLayout) {past : List Op}
    (hfew : (Queue.pushed past).length < UInt64.size) : drained layout past = Queue.drained past := by
  induction past with
  | nil => rfl
  | cons op past ih =>
    have hfew' := Nat.lt_of_le_of_lt (pushed_length_le [op] past) hfew
    cases op with
    | push a => exact ih hfew'
    | clear => exact ih hfew'
    | drain now =>
      have hf := follows_after layout hfew'
      obtain ⟨-, -, hout⟩ := hf.sound.drainDue layout now
      rw [drained, Queue.drained, ih hfew', ← hf.queue]
      exact congrArg (fun due => Queue.drained past ++ [due]) (congrArg Prod.fst hout)

/-! ### What a heap answers -/

/-- The heap answers as the ledger says. -/
structure Answers (layout : HeapLayout) (h : Heap) (l : Ledger) : Prop where
  held : h.held.Perm (l.held.map Ticket.entry)
  /-- A drain returns the held actions that are due in their turn and leaves the others. -/
  drain : ∀ now,
    (h.drainDue layout now).1 =
        (inTurn (l.held.filter fun t => t.action.due ≤ now)).map Ticket.action ∧
      (h.drainDue layout now).2.held.Perm
        ((l.held.filter fun t => now < t.action.due).map Ticket.entry)
  /-- In their turn, the earliest come first, and of one moment those that were queued first. -/
  turn : ∀ p : Ticket → Bool, (inTurn (l.held.filter p)).Perm (l.held.filter p) ∧
    (inTurn (l.held.filter p)).Pairwise Ticket.Before
  pending : h.pending =
    (inTurn l.held).map fun t => ⟨t.action.label, t.action.owner, t.action.due⟩
  nextDue : h.nextDue? = (inTurn l.held).head?.map fun t => t.action.due
  size : h.size = l.held.length
  /-- Two drains one after the other return what the later one alone returns. -/
  twice : ∀ t₁ t₂, t₁ ≤ t₂ →
    let first := h.drainDue layout t₁
    let second := first.2.drainDue layout t₂
    first.1 ++ second.1 = (h.drainDue layout t₂).1 ∧
      second.2.held.Perm (h.drainDue layout t₂).2.held

theorem Follows.answers {past : List Op} (hf : h.Follows past) :
    Answers layout h (Queue.ledger past) := by
  have hl := Queue.ledger_balanced past
  have hholds := Queue.holds_after past
  rw [← hf.queue] at hholds
  exact {
    held := hf.held
    drain := by
      intro now
      obtain ⟨-, -, hout⟩ := hf.sound.drainDue layout now
      rw [hholds.drainDue hl] at hout
      exact ⟨congrArg Prod.fst hout, hf.held_drainDue now⟩
    turn := fun p => ⟨Queue.inTurn_perm _, Queue.inTurn_before (hl.distinct.filter p)⟩
    pending := hf.sound.pending.trans hholds.pending
    nextDue := hf.sound.nextDue?.trans hholds.nextDue?
    size := (size_toQueue h).symm.trans hholds.size
    twice := fun t₁ t₂ hle => hf.sound.drainDue_drainDue hle }

/-- After every history in which fewer than 2 ^ 64 actions were queued, a heap answers as the ledger
says, however it lays out its entries. Every action that was queued has one ticket, and the ticket
is in one place: in what one of the drains returned, among those dropped, or among those held. The
drains to come return the held ones in the order in which they are listed as pending, and leave none
of them behind one that they return, unless the heap is cleared. -/
theorem tickets_after (layout : HeapLayout) (past : List Op)
    (hfew : (Queue.pushed past).length < UInt64.size) :
    let l := Queue.ledger past
    Answers layout (after layout past) l ∧
      drained layout past = l.drained.map (List.map Ticket.action) ∧
      l.queued.map Ticket.action = Queue.pushed past ∧
      l.queued.map Ticket.number = List.range (Queue.pushed past).length ∧
      (l.drained.flatten ++ l.dropped ++ l.held).Perm l.queued ∧
      ∀ later, (Queue.pushed (later ++ past)).length < UInt64.size →
        let l' := Queue.ledger (later ++ past)
        let old : Ticket → Bool := fun t => t.number < (Queue.pushed past).length
        ∃ more, drained layout (later ++ past) =
            drained layout past ++ more.map (List.map Ticket.action) ∧
          l'.drained = l.drained ++ more ∧
          let listed := more.flatten.filter old ++ inTurn (l'.held.filter old)
          listed <+: inTurn l.held ∧ (.clear ∉ later → listed = inTurn l.held) := by
  have hl := Queue.ledger_balanced past
  have hpushed := Queue.pushed_eq past
  have hlength : (Queue.pushed past).length = (Queue.ledger past).queued.length := by
    rw [hpushed, List.length_map]
  have hdrained : ∀ {past}, (Queue.pushed past).length < UInt64.size →
      drained layout past = (Queue.ledger past).drained.map (List.map Ticket.action) :=
    fun hfew => (drained_after layout hfew).trans (Queue.drained_eq _)
  refine ⟨(follows_after layout hfew).answers, hdrained hfew, hpushed.symm, ?_, hl.places, ?_⟩
  · rw [hlength]
    exact hl.numbers
  · intro later hlater l' old
    obtain ⟨more, hmore, hlisted⟩ := Queue.ledger_later past later
    refine ⟨more, ?_, hmore, ?_⟩
    · rw [hdrained hlater, hdrained hfew, hmore, List.map_append]
    · rwa [← hlength] at hlisted

/-- A layout that puts new entries behind the others. -/
def behind : HeapLayout where
  add e held := held ++ [e]
  close held := held
  add_perm e held := List.perm_append_singleton e held
  close_perm := List.Perm.refl

def run (script : String) (due : UInt64) : Action := ⟨.script script none, .invalid, .invalid, due⟩

/-- A watch and a ward at one moment, and between them a bell, which comes before both. -/
def tower : List Op :=
  [.drain 10, .push (run "ward" 20), .push (run "bell" 10), .push (run "watch" 20)]

theorem bell_before_watch : (Queue.pushed tower).length < UInt64.size ∧
    (drained behind tower).map (List.map Action.label) = [["script bell"]] ∧
    (after behind tower).pending.map Queue.Pending.label = ["script watch", "script ward"] ∧
    (after behind tower).nextDue? = some 20 := by
  have hfew : (Queue.pushed tower).length < UInt64.size := by decide
  obtain ⟨hanswers, hdrained, -⟩ := tickets_after behind tower hfew
  have hturn : inTurn (Queue.ledger tower).held = [⟨0, run "watch" 20⟩, ⟨2, run "ward" 20⟩] :=
    (Queue.eq_inTurn (by decide) (.refl _) (by decide)).symm
  refine ⟨hfew, ?_, ?_, ?_⟩
  · rw [hdrained]
    decide +kernel
  · rw [hanswers.pending, hturn]
    rfl
  · rw [hanswers.nextDue, hturn]
    rfl

end Heap

end Adventure

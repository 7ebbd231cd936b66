import Adventure.Queue

/-!
# Delayed actions in a heap

What stands behind the queue: a heap of entries, each an action with the moment at which it falls
due and the number of those queued before it, which is counted in 64 bits. The heap gives out its
least entry; in which order it keeps the others is its own matter and rests on all that has been
done to it. What is listed as pending is sorted for the list.

See sections 3 and 4.4 of the specification.
-/

namespace Adventure

/-- An action as a heap holds it. -/
structure Queued where
  due : UInt64
  sequence : UInt64
  action : Action

/-- Entries are compared by their moments, and those of one moment by their numbers. -/
instance : Ord Queued where
  compare a b := (compare a.due b.due).then (compare a.sequence b.sequence)

namespace Queued

/-- The least of some entries, and the others. -/
def extract? : List Queued → Option (Queued × List Queued)
  | [] => none
  | e :: rest =>
    match extract? rest with
    | none => some (e, [])
    | some (least, others) =>
      if compare least e = .lt then some (least, e :: others) else some (e, rest)

theorem extract?_eq_none {entries : List Queued} : extract? entries = none ↔ entries = [] := by
  refine ⟨fun h => ?_, fun h => h ▸ rfl⟩
  cases entries with
  | nil => rfl
  | cons e rest =>
    unfold extract? at h
    split at h
    · cases h
    · split at h <;> cases h

theorem perm_of_extract {entries others : List Queued} {e : Queued}
    (h : extract? entries = some (e, others)) : (e :: others).Perm entries := by
  induction entries generalizing e others with
  | nil => cases h
  | cons f rest ih =>
    unfold extract? at h
    split at h
    · rename_i hnone
      cases h
      rw [extract?_eq_none.1 hnone]
    · rename_i least left hsome
      split at h
      · cases h
        exact (List.Perm.swap f e left).trans ((ih hsome).cons f)
      · cases h
        exact .refl _

/-- The entries in their order. -/
def inOrder (entries : List Queued) : List Queued :=
  entries.mergeSort fun a b => (compare a b).isLE

end Queued

/-- How a heap lays out its entries. Only that it neither loses nor doubles any is known of it. -/
structure HeapLayout where
  add : Queued → List Queued → List Queued
  close : List Queued → List Queued
  add_perm : ∀ e held, (add e held).Perm (e :: held)
  close_perm : ∀ held, (close held).Perm held

/-- Actions in a heap. -/
structure Heap where
  held : List Queued
  nextSequence : UInt64

namespace Heap

def empty : Heap := ⟨[], 0⟩

def peek? (h : Heap) : Option Queued := (Queued.extract? h.held).map Prod.fst

def nextDue? (h : Heap) : Option UInt64 := h.peek?.map Queued.due

def size (h : Heap) : Nat := h.held.length

/-- Drops all actions. The numbers go on. -/
def clear (h : Heap) : Heap := { h with held := [] }

/-- All actions, sorted for the list. -/
def pending (h : Heap) : List Queue.Pending :=
  (Queued.inOrder h.held).map fun e => ⟨e.action.label, e.action.owner, e.due⟩

section Layout

variable (layout : HeapLayout)

/-- Gives the action the next number, which starts again at zero after the last one. -/
def push (h : Heap) (a : Action) : Heap :=
  ⟨layout.add ⟨a.due, h.nextSequence, a⟩ h.held, h.nextSequence + 1⟩

def pop? (h : Heap) : Option (Queued × Heap) :=
  (Queued.extract? h.held).map fun (e, others) => (e, { h with held := layout.close others })

theorem pop?_eq_some {layout : HeapLayout} {h rest : Heap} {e : Queued}
    (hpop : h.pop? layout = some (e, rest)) :
    ∃ others, Queued.extract? h.held = some (e, others) ∧
      rest = { h with held := layout.close others } := by
  obtain ⟨⟨least, others⟩, hextract, heq⟩ := Option.map_eq_some_iff.1 hpop
  cases heq
  exact ⟨others, hextract, rfl⟩

theorem held_pop {layout : HeapLayout} {h rest : Heap} {e : Queued}
    (hpop : h.pop? layout = some (e, rest)) : (e :: rest.held).Perm h.held := by
  obtain ⟨others, hextract, rfl⟩ := pop?_eq_some hpop
  exact ((layout.close_perm others).cons e).trans (Queued.perm_of_extract hextract)

/-- Takes out entry after entry as long as the least one is due at `now`. -/
def drainDue (h : Heap) (now : UInt64) : List Action × Heap :=
  match _hpop : h.pop? layout with
  | none => ([], h)
  | some (e, rest) =>
    if e.due ≤ now then
      let (due, rest) := rest.drainDue now
      (e.action :: due, rest)
    else ([], h)
termination_by h.held.length
decreasing_by
  have hlength := (held_pop _hpop).length_eq
  rw [List.length_cons] at hlength
  omega

end Layout

end Heap

end Adventure

import Adventure.Proofs.Session.Reach
import Adventure.Proofs.World.Schedule

/-!
# Batches of delayed actions

Carrying out what is due goes action by action. Each one has its turn: it is dropped if its owner or
its triggerer has gone by then, and carried out otherwise. Together the turns are the batch, in the
order of the queue; what scripts queue on the way waits for another batch.
-/

namespace Adventure

variable {σ α : Type}

namespace World

/-- The handle names nothing at all, or it leads to a live object. -/
def Present (w : World) (h : Handle) : Prop := h = .invalid ∨ ∃ o, w.get? h = some o

theorem isAlive_iff (w : World) (h : Handle) : w.isAlive h = true ↔ w.Present h := by
  unfold isAlive Present Registry.contains
  rw [Bool.or_eq_true, Option.isSome_iff_exists]
  refine or_congr ?_ Iff.rfl
  simp [Handle.isValid]

def due (w : World) : List Action := w.queue.actions.filter fun a => a.due ≤ w.clock

def waiting (w : World) : Queue := ⟨w.queue.actions.filter fun a => w.clock < a.due⟩

end World

def Session.withQueue (s : Session σ) (queue : Queue) : Session σ :=
  { s with world := { s.world with queue } }

/-! ### Turns -/

/-- What happens to one action of a batch. -/
structure Turn (σ : Type) where
  action : Action
  before : Session σ
  /-- Whether it was carried out, or what play broke off with. -/
  ended : Except Panic Bool
  after : Session σ

/-- What may happen to an action at its turn. -/
inductive Turn.Fair (run : Runner σ) : Turn σ → Prop where
  | dropped {a : Action} {s : Session σ}
    (gone : ¬ (s.world.Present a.owner ∧ s.world.Present a.triggerer)) :
    Fair run ⟨a, s, .ok false, s⟩
  | destroyed {h triggerer : Handle} {due : UInt64} {s : Session σ}
    (present : s.world.Present h ∧ s.world.Present triggerer) :
    Fair run ⟨⟨.destroy, h, triggerer, due⟩, s, .ok true,
      { s with world := (s.world.destroyObject h).2 }⟩
  /-- An empty name runs nothing. -/
  | unnamed {state : Option ScriptState} {owner triggerer : Handle} {due : UInt64} {s : Session σ}
    (present : s.world.Present owner ∧ s.world.Present triggerer) :
    Fair run ⟨⟨.script "" state, owner, triggerer, due⟩, s, .ok true, s⟩
  /-- The interpreter is handed what was queued. Whether the script fails does not matter. -/
  | ran {name : String} {state : Option ScriptState} {owner triggerer : Handle} {due : UInt64}
    {s : Session σ} {result : Except Failure Unit}
    (present : s.world.Present owner ∧ s.world.Present triggerer) (named : name ≠ "")
    (result : (run ⟨name, state, owner, triggerer⟩).ended (s.announce name owner) = .ok result) :
    Fair run ⟨⟨.script name state, owner, triggerer, due⟩, s, .ok true,
      (run ⟨name, state, owner, triggerer⟩).after (s.announce name owner)⟩
  | brokeOff {name : String} {state : Option ScriptState} {owner triggerer : Handle} {due : UInt64}
    {s : Session σ} {p : Panic}
    (present : s.world.Present owner ∧ s.world.Present triggerer) (named : name ≠ "")
    (panic : (run ⟨name, state, owner, triggerer⟩).ended (s.announce name owner) = .error p) :
    Fair run ⟨⟨.script name state, owner, triggerer, due⟩, s, .error p,
      (run ⟨name, state, owner, triggerer⟩).after (s.announce name owner)⟩

namespace Turn

variable {run : Runner σ}

/-- An action is dropped exactly if its owner or its triggerer has gone by its turn. -/
theorem Fair.dropped_iff {t : Turn σ} (h : t.Fair run) : t.ended = .ok false ↔
    ¬ (t.before.world.Present t.action.owner ∧ t.before.world.Present t.action.triggerer) := by
  cases h with
  | dropped gone => exact iff_of_true rfl gone
  | destroyed present => exact iff_of_false (by simp) (not_not_intro present)
  | unnamed present => exact iff_of_false (by simp) (not_not_intro present)
  | ran present named result => exact iff_of_false (by simp) (not_not_intro present)
  | brokeOff present named panic => exact iff_of_false (by simp) (not_not_intro present)

theorem fair_carryOut (run : Runner σ) (a : Action) (s : Session σ) :
    Fair run ⟨a, s, (Play.carryOut run a).ended s, (Play.carryOut run a).after s⟩ := by
  have hworld : ∀ {β : Type} (f : World → Play σ β),
      (Play.world >>= f).ended s = (f s.world).ended s ∧
        (Play.world >>= f).after s = (f s.world).after s := fun f => Play.bind_of_ok rfl f
  unfold Play.carryOut
  rw [(hworld _).1, (hworld _).2]
  split
  · rename_i halive
    rw [Bool.and_eq_true, World.isAlive_iff, World.isAlive_iff] at halive
    obtain ⟨work, owner, triggerer, due⟩ := a
    cases work with
    | destroy => exact .destroyed halive
    | script name state =>
      by_cases hname : name = ""
      · rw [hname]
        exact .unnamed halive
      · obtain ⟨hended, hafter⟩ :=
          Play.runScript_of_named run s (r := ⟨name, state, owner, triggerer⟩) hname
        cases hresult : (run ⟨name, state, owner, triggerer⟩).ended (s.announce name owner) with
        | ok result =>
          have hdone := Play.bind_of_ok (hended.trans hresult) fun _ => pure true
          rw [hafter] at hdone
          rw [hdone.1, hdone.2]
          exact .ran halive hname hresult
        | error p =>
          have hbroken := Play.bind_of_error (hended.trans hresult) fun _ => pure true
          rw [hafter] at hbroken
          rw [hbroken.1, hbroken.2]
          exact .brokeOff halive hname hresult
  · rename_i hgone
    rw [Bool.and_eq_true, World.isAlive_iff, World.isAlive_iff] at hgone
    exact .dropped hgone

def carriedOut (t : Turn σ) : Bool :=
  match t.ended with
  | .ok done => done
  | .error _ => false

theorem carriedOut_iff (t : Turn σ) : t.carriedOut = true ↔ t.ended = .ok true := by
  unfold carriedOut
  cases t.ended with
  | ok done => exact ⟨fun h => congrArg Except.ok h, fun h => Except.ok.inj h⟩
  | error p => exact iff_of_false Bool.false_ne_true (by simp)

/-- The turns follow one another from the first session to the last one. -/
def Chain : Session σ → List (Turn σ) → Session σ → Prop
  | s, [], s' => s' = s
  | s, t :: turns, s' => t.before = s ∧ Chain t.after turns s'

end Turn

/-! ### Batches -/

/-- These turns are what carrying out these actions comes to, from the first session to the second
one. -/
structure Batch (run : Runner σ) (actions : List Action) (s s' : Session σ)
    (ended : Except Panic Nat) (turns : List (Turn σ)) : Prop where
  fair : ∀ t ∈ turns, t.Fair run
  chain : Turn.Chain s turns s'
  /-- Every action has one turn, in the order of the actions, until play breaks off. -/
  order : turns.map Turn.action <+: actions
  whole : ∀ n, ended = .ok n →
    turns.map Turn.action = actions ∧ (∀ t ∈ turns, ∃ done, t.ended = .ok done) ∧
      n = turns.countP Turn.carriedOut
  broken : ∀ p, ended = .error p → turns.getLast?.map Turn.ended = some (.error p)

namespace Batch

variable {run : Runner σ}

theorem nil (run : Runner σ) (s : Session σ) : Batch run [] s s (.ok 0) [] := by
  refine ⟨?_, rfl, List.prefix_rfl, ?_, ?_⟩
  · intro t ht
    cases ht
  · intro n hn
    cases hn
    refine ⟨rfl, ?_, rfl⟩
    intro t ht
    cases ht
  · intro p hp
    cases hp

theorem of_error {t : Turn σ} {p : Panic} (hfair : t.Fair run) (hp : t.ended = .error p)
    (rest : List Action) : Batch run (t.action :: rest) t.before t.after (.error p) [t] := by
  refine ⟨?_, ⟨rfl, rfl⟩, ⟨rest, rfl⟩, ?_, ?_⟩
  · intro u hu
    exact List.mem_singleton.1 hu ▸ hfair
  · intro n hn
    cases hn
  · intro q hq
    cases hq
    exact congrArg some hp

theorem cons {t : Turn σ} {done : Bool} {rest : List Action} {s' : Session σ}
    {ended : Except Panic Nat} {turns : List (Turn σ)} (hfair : t.Fair run)
    (hdone : t.ended = .ok done) (hb : Batch run rest t.after s' ended turns) :
    Batch run (t.action :: rest) t.before s' (ended.map ((if done then 1 else 0) + ·))
      (t :: turns) := by
  have hcarried : t.carriedOut = done := by
    unfold Turn.carriedOut
    rw [hdone]
  refine ⟨?_, ⟨rfl, hb.chain⟩, ?_, ?_, ?_⟩
  · intro u hu
    rcases List.mem_cons.1 hu with rfl | hu
    · exact hfair
    · exact hb.fair u hu
  · exact (List.prefix_cons_inj t.action).2 hb.order
  · intro n hn
    cases ended with
    | error p => cases hn
    | ok others =>
      cases hn
      obtain ⟨hactions, hothers, hcount⟩ := hb.whole others rfl
      refine ⟨congrArg (t.action :: ·) hactions, ?_, ?_⟩
      · intro u hu
        rcases List.mem_cons.1 hu with rfl | hu
        · exact ⟨done, hdone⟩
        · exact hothers u hu
      · rw [List.countP_cons, hcarried, ← hcount, Nat.add_comm]
  · intro p hp
    cases ended with
    | ok others => cases hp
    | error q =>
      cases hp
      -- The others broke off, so they have a last turn, and it is the last of all.
      have hbroken := hb.broken p rfl
      cases turns with
      | nil => cases hbroken
      | cons u later => exact hbroken

end Batch

namespace Play

variable {run : Runner σ}

/-- The turns of actions one after the other, until play breaks off. -/
def turns (run : Runner σ) : List Action → Session σ → List (Turn σ)
  | [], _ => []
  | a :: rest, s =>
    ⟨a, s, (carryOut run a).ended s, (carryOut run a).after s⟩ ::
      match (carryOut run a).ended s with
      | .ok _ => turns run rest ((carryOut run a).after s)
      | .error _ => []

theorem batch_carryOutAll (run : Runner σ) (actions : List Action) (s : Session σ) :
    Batch run actions s ((carryOutAll run actions).after s) ((carryOutAll run actions).ended s)
      (turns run actions s) := by
  induction actions generalizing s with
  | nil => exact .nil run s
  | cons a rest ih =>
    have hfair := Turn.fair_carryOut run a s
    let count (done : Bool) (others : Nat) : Nat := (if done then 1 else 0) + others
    have hall : carryOutAll run (a :: rest) =
        carryOut run a >>= fun done => carryOutAll run rest >>= fun others =>
          pure (count done others) := rfl
    rw [hall, turns]
    cases hfirst : (carryOut run a).ended s with
    | error p =>
      obtain ⟨hended, hafter⟩ := bind_of_error hfirst fun done =>
        carryOutAll run rest >>= fun others => pure (count done others)
      rw [hended, hafter]
      rw [hfirst] at hfair
      exact .of_error hfair rfl rest
    | ok done =>
      obtain ⟨hended, hafter⟩ := bind_of_ok hfirst fun done =>
        carryOutAll run rest >>= fun others => pure (count done others)
      obtain ⟨hothers, hlast⟩ :=
        bind_pure (carryOutAll run rest) (count done) ((carryOut run a).after s)
      rw [hended, hafter, hothers, hlast]
      rw [hfirst] at hfair
      exact .cons hfair rfl (ih _)

theorem processActions_eq (run : Runner σ) {s : Session σ} (hq : s.world.queue.Ordered) :
    (processActions run).ended s =
        (carryOutAll run s.world.due).ended (s.withQueue s.world.waiting) ∧
      (processActions run).after s =
        (carryOutAll run s.world.due).after (s.withQueue s.world.waiting) := by
  let drain : Play σ (List Action) :=
    act fun w => (w.queue.drainDue w.clock).map id fun queue => { w with queue }
  have hdrained : s.world.queue.drainDue s.world.clock = (s.world.due, s.world.waiting) :=
    hq.drainDue s.world.clock
  have htaken : drain.ended s = .ok s.world.due := by
    show Except.ok (s.world.queue.drainDue s.world.clock).1 = _
    rw [hdrained]
  have hleft : drain.after s = s.withQueue s.world.waiting := by
    show s.withQueue (s.world.queue.drainDue s.world.clock).2 = _
    rw [hdrained]
  have hprocess := bind_of_ok htaken (carryOutAll run)
  rwa [hleft] at hprocess

theorem batch_processActions (run : Runner σ) {s : Session σ} (hq : s.world.queue.Ordered) :
    Batch run s.world.due (s.withQueue s.world.waiting) ((processActions run).after s)
      ((processActions run).ended s)
      (turns run s.world.due (s.withQueue s.world.waiting)) := by
  obtain ⟨hended, hafter⟩ := processActions_eq run hq
  rw [hended, hafter]
  exact batch_carryOutAll run s.world.due (s.withQueue s.world.waiting)

end Play

/-! ### Play that leaves batches and modules alone -/

/-- The operation neither loads nor unloads a module and carries out no batch. -/
def Operation.Quiet : Operation → Prop
  | loadModule _ | unload | processActions => False
  | _ => True

def World.Kind.Quiet (k : World.Kind) : Prop := k ≠ .module ∧ k ≠ .batch

theorem Operation.Quiet.kinds {op : Operation} (h : op.Quiet) : ∀ k ∈ op.kinds, k.Quiet := by
  unfold Operation.Quiet at h
  unfold World.Kind.Quiet
  cases op <;> simp_all [Operation.kinds]

theorem World.MovesBy.queued_quiet {w w' : World} (h : MovesBy Kind.Quiet w w') :
    ∃ actions : List Action, w'.queue = actions.foldl Queue.push w.queue :=
  h.queued (fun hbatch => hbatch.2 rfl) fun hmodule => hmodule.1 rfl

namespace Play

variable {run : Runner σ}

theorem queued_processActions (hrun : run.Made Operation.Quiet) {s : Session σ}
    (hq : s.world.queue.Ordered) : ∃ queued : List Action,
      ((processActions run).after s).world.queue = queued.foldl Queue.push s.world.waiting := by
  have hcall : World.Kind.call.Quiet := ⟨by decide, by decide⟩
  have hdestruction : World.Kind.destruction.Quiet := ⟨by decide, by decide⟩
  have hR := World.course_movesBy World.Kind.Quiet
  have hsteps := stepwise_carryOutAll hR hcall hdestruction
    (hrun.stepwise hR fun _ hop => hop.kinds) s.world.due (s.withQueue s.world.waiting)
  rw [(processActions_eq run hq).2]
  exact hsteps.queued_quiet

end Play

/-- Play leads from the first session to the second one, and on the way no batch is carried out at
the moment `t` or later. -/
inductive Session.Awaits (t : UInt64) (s : Session σ) : Session σ → Prop where
  | here : Awaits t s s
  | play {β : Type} {s' : Session σ} {run : Runner σ} {m : Play σ β} (before : Awaits t s s')
    (scripts : run.Made Operation.Quiet) (made : Play.Made Operation.Quiet run m) :
    Awaits t s (m.after s')
  | batch {s' : Session σ} {run : Runner σ} (before : Awaits t s s')
    (early : s'.world.clock < t) (scripts : run.Made Operation.Quiet) :
    Awaits t s ((Play.processActions run).after s')

namespace Session

theorem Reached.ordered {s : Session σ} (hs : s.Reached) : s.world.queue.Ordered := by
  obtain ⟨library, models, clock, seed, host, hl⟩ := hs
  exact hl.moves.ordered Queue.ordered_empty

/-- The actions of a moment that is still to come stay where they are, before all that are queued
for it later. -/
theorem Awaits.dueAt {t : UInt64} {s s' : Session σ} (h : s.Awaits t s')
    (hq : s.world.queue.Ordered) :
    s'.world.queue.Ordered ∧ s.world.queue.dueAt t <+: s'.world.queue.dueAt t := by
  induction h with
  | here => exact ⟨hq, List.prefix_rfl⟩
  | play _ scripts made ih =>
    obtain ⟨hordered, hfirst⟩ := ih
    have hquiet := fun (op : Operation) (hop : op.Quiet) => hop.kinds
    have hR := World.course_movesBy World.Kind.Quiet
    obtain ⟨queued, hqueued⟩ :=
      (made.stepwise hR hquiet (scripts.stepwise hR hquiet) _).queued_quiet
    rw [hqueued, hordered.dueAt_foldl_push]
    exact ⟨hordered.foldl_push queued, hfirst.trans (List.prefix_append _ _)⟩
  | @batch middle _ _ early scripts ih =>
    obtain ⟨hordered, hfirst⟩ := ih
    obtain ⟨queued, hqueued⟩ := Play.queued_processActions scripts hordered
    have hwaiting : (middle.world.queue.drainDue middle.world.clock).2 = middle.world.waiting :=
      congrArg Prod.snd (hordered.drainDue middle.world.clock)
    have hleft := hordered.drained middle.world.clock
    rw [hqueued, ← hwaiting, hleft.dueAt_foldl_push, hordered.dueAt_drained early]
    exact ⟨hleft.foldl_push queued, hfirst.trans (List.prefix_append _ _)⟩

end Session

/-! ### Batches of reached sessions -/

theorem World.due_at (w : World) {t : UInt64} (ht : t ≤ w.clock) :
    (w.due.filter fun a => a.due = t) = w.queue.dueAt t := by
  unfold World.due Queue.dueAt
  rw [List.filter_filter]
  refine List.filter_congr fun a _ => ?_
  by_cases ha : a.due = t
  · simp [ha, ht]
  · simp [ha]

theorem Batch.ends {run : Runner σ} {actions : List Action} {s s' : Session σ}
    {ended : Except Panic Nat} {turns : List (Turn σ)} (h : Batch run actions s s' ended turns)
    (hscripts : ∀ r s, ∃ result, (run r).ended s = .ok result) : ∃ n, ended = .ok n := by
  cases hended : ended with
  | ok n => exact ⟨n, rfl⟩
  | error p =>
    obtain ⟨t, ht, htended⟩ := Option.map_eq_some_iff.1 (h.broken p hended)
    have hfair := h.fair t (List.mem_of_getLast? ht)
    cases hfair with
    | dropped gone => cases htended
    | destroyed present => cases htended
    | unnamed present => cases htended
    | ran present named result => cases htended
    | brokeOff present named panic =>
      obtain ⟨result, hresult⟩ := hscripts _ _
      rw [hresult] at panic
      cases panic

/-- In a reached session, with an interpreter whose scripts carry out no batches and load and unload
no modules, carrying out what is due is a batch of all that is due: the earliest first, and what
falls due at one moment in the order in which it was queued. What is queued on the way waits behind
what is not due yet. If no script breaks off, neither does the batch. -/
theorem due_in_turn {run : Runner σ} (hrun : run.Made Operation.Quiet) {s : Session σ}
    (hs : s.Reached) :
    s.world.due.Pairwise (fun a b => a.due ≤ b.due) ∧
      (∀ t ≤ s.world.clock, ∀ s₀ : Session σ, s₀.Reached → s₀.Awaits t s →
        s₀.world.queue.dueAt t <+: s.world.due.filter fun a => a.due = t) ∧
      (∃ turns, Batch run s.world.due (s.withQueue s.world.waiting)
        ((Play.processActions run).after s) ((Play.processActions run).ended s) turns) ∧
      (∃ queued : List Action, ((Play.processActions run).after s).world.queue =
        queued.foldl Queue.push s.world.waiting) ∧
      (∀ n, (Play.processActions run).ended s = .ok n → n ≤ s.world.due.length) ∧
      ((∀ r s', ∃ result, (run r).ended s' = .ok result) →
        ∃ n, (Play.processActions run).ended s = .ok n) := by
  have hq := hs.ordered
  have hbatch := Play.batch_processActions run hq
  refine ⟨List.Pairwise.filter _ hq, ?_, ⟨_, hbatch⟩, Play.queued_processActions hrun hq, ?_,
    hbatch.ends⟩
  · intro t ht s₀ hs₀ hawaits
    rw [s.world.due_at ht]
    exact (hawaits.dueAt hs₀.ordered).2
  · intro n hn
    obtain ⟨hactions, -, hcount⟩ := hbatch.whole n hn
    calc n = List.countP Turn.carriedOut _ := hcount
      _ ≤ List.length _ := List.countP_le_length
      _ = s.world.due.length := by rw [← List.length_map Turn.action, hactions]

/-! ### A batch in which the owner of an action goes -/

/-- A library in which every area and every waypoint has an empty record. -/
def emptyPosts : Library :=
  ⟨.ofTexts (fun kind _ => if kind = .are ∨ kind = .utw then some "{}" else none) fun _ _ => none,
    .empty⟩

/-- The interpreter of two scripts: one queues another action at once, one fails. -/
def echo : Runner Unit := fun r =>
  if r.script = "again" then do
    Play.change fun w => w.delayScript "later" none r.owner .invalid 0
    return .ok ()
  else return .error (.of .noPlayer)

theorem echo_quiet : echo.Made Operation.Quiet := by
  refine .scripted .idle fun r => ?_
  unfold echo
  split
  · exact .chain (.operation (.delayScript "later" none r.owner .invalid 0) trivial) fun _ =>
      .answer _
  · exact .answer _

/-- A waypoint in an area, a script queued for it, its destruction, another script of its own, and a
script that belongs to nothing. -/
def postings : Play Unit Unit := do
  let _ ← Play.act fun w => w.loadArea "Field"
  let _ ← Play.act fun w => w.createObject .waypoint "post" ⟨some ⟨1⟩, .zero, 0⟩ ""
  Play.change fun w => w.delayScript "again" none ⟨2⟩ .invalid 0
  Play.change fun w => w.delayDestroy ⟨2⟩ 0
  Play.change fun w => w.delayScript "again" none ⟨2⟩ .invalid 0
  Play.change fun w => w.delayScript "fail" none .invalid .invalid 0

def posted : Session Unit := postings.after (.fresh emptyPosts .plain 0 0 ())

theorem posted_reached : posted.Reached := by
  refine ⟨emptyPosts, .plain, 0, 0, (), (Session.Leads.here _).play .idle ?_⟩
  refine .first (.loadArea "Field") fun _ => ?_
  refine .first (.createObject .waypoint "post" ⟨some ⟨1⟩, .zero, 0⟩ "") fun _ => ?_
  refine .first (.delayScript "again" none ⟨2⟩ .invalid 0) fun _ => ?_
  refine .first (.delayDestroy ⟨2⟩ 0) fun _ => ?_
  refine .first (.delayScript "again" none ⟨2⟩ .invalid 0) fun _ => ?_
  exact .operation (.delayScript "fail" none .invalid .invalid 0) trivial

/-- The waypoint's second script is dropped, the failing one counts, and what the first one has
queued stays queued. -/
theorem posted_in_turn :
    posted.world.due.map Action.owner = [⟨2⟩, ⟨2⟩, ⟨2⟩, .invalid] ∧
      (Play.processActions echo).ended posted = .ok 3 ∧
      ((Play.processActions echo).after posted).world.queue.size = 1 ∧
      ∃ turns, Batch echo posted.world.due (posted.withQueue posted.world.waiting)
        ((Play.processActions echo).after posted) (.ok 3) turns := by
  obtain ⟨-, -, hbatch, -, -, -⟩ := due_in_turn echo_quiet posted_reached
  have hended : (Play.processActions echo).ended posted = .ok 3 := by decide +kernel
  rw [hended] at hbatch
  exact ⟨by decide +kernel, hended, by decide +kernel, hbatch⟩

end Adventure

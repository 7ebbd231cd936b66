import Adventure.Proofs.Session.Operation

/-!
# Reachable sessions

A session is reached from a fresh one by playing. What is played is put together from the operations
of a session and from calls of script functions, and so are the scripts that run on the way, which
may ask for scripts in turn, to any finite depth. Since a script may break off, the sessions in
which scripts start, in the middle of an operation, are reached as well. All play moves the world by
steps.
-/

namespace Adventure

variable {σ α : Type}

/-! ### Composed play -/

/-- Play put together from the operations of a session, with an interpreter for the scripts it asks
for. What is done next may depend on anything that is to be seen, and play may break off
anywhere. -/
abbrev Play.Composed (run : Runner σ) {α : Type} (m : Play σ α) : Prop :=
  Play.Made (fun _ => True) run m

/-- An interpreter whose scripts are composed play. They may ask for scripts of an interpreter of
this kind. -/
abbrev Runner.Composed (run : Runner σ) : Prop := run.Made fun _ => True

theorem Play.Made.first {run : Runner σ} (op : Operation) {f : op.Answer → Play σ α}
    (rest : ∀ a, Play.Composed run (f a)) : Play.Composed run (op.play run >>= f) :=
  .chain (.operation op trivial) rest

/-! ### Sessions one after another -/

/-- Play leads from the first session to the second one. -/
inductive Session.Leads : Session σ → Session σ → Prop where
  | here (s : Session σ) : Leads s s
  | play {α : Type} {s s' : Session σ} {run : Runner σ} {m : Play σ α} (before : Leads s s')
    (scripts : run.Composed) (composed : Play.Composed run m) : Leads s (m.after s')

theorem Session.Leads.operation {s s' : Session σ} {run : Runner σ} (before : s.Leads s')
    (scripts : run.Composed) (op : Operation) : s.Leads ((op.play run).after s') :=
  before.play scripts (.operation op trivial)

def Session.fresh (library : Library) (models : ModelSource) (clock seed : UInt64) (host : σ) :
    Session σ := ⟨.new library models clock seed, host, []⟩

/-- Play has led here from a fresh session. -/
def Session.Reached (s : Session σ) : Prop :=
  ∃ library models clock seed host, (fresh library models clock seed host).Leads s

/-! ### Composed play moves by steps -/

open World (Moves Course course_movesBy)

theorem Runner.Composed.along {R : World → World → Prop} (hR : Course (fun _ => True) R)
    {run : Runner σ} (h : run.Composed) : run.Stepwise R :=
  h.stepwise hR fun _ _ _ _ => trivial

theorem Play.Composed.along {R : World → World → Prop} (hR : Course (fun _ => True) R)
    {run : Runner σ} (hrun : run.Composed) {m : Play σ α} (h : Play.Composed run m) :
    Play.Stepwise R m :=
  h.stepwise hR (fun _ _ _ _ => trivial) (hrun.along hR)

theorem Runner.Composed.stepwise {run : Runner σ} (h : run.Composed) : run.Stepwise Moves :=
  h.along (course_movesBy _)

namespace Session

theorem Leads.along {R : World → World → Prop} (hR : Course (fun _ => True) R) {s s' : Session σ}
    (h : s.Leads s') : R s.world s'.world := by
  induction h with
  | here s => exact hR.refl s.world
  | play before scripts composed ih => exact hR.trans ih (composed.along hR scripts _)

theorem Leads.moves {s s' : Session σ} (h : s.Leads s') : Moves s.world s'.world :=
  h.along (course_movesBy _)

theorem Leads.trans {a b c : Session σ} (hab : a.Leads b) (hbc : b.Leads c) : a.Leads c := by
  induction hbc with
  | here => exact hab
  | play _ scripts composed ih => exact (ih hab).play scripts composed

theorem Reached.leads {s s' : Session σ} (hs : s.Reached) (h : s.Leads s') : s'.Reached := by
  obtain ⟨library, models, clock, seed, host, hl⟩ := hs
  exact ⟨library, models, clock, seed, host, hl.trans h⟩

/-- The tag index of a reached session goes with its objects, however many handles have been given
out. -/
theorem Reached.indexed {s : Session σ} (hs : s.Reached) : s.world.registry.Indexed := by
  obtain ⟨library, models, clock, seed, host, hl⟩ := hs
  exact hl.moves.follows.indexed Registry.indexed_empty

theorem Reached.aligned {s : Session σ} (hs : s.Reached) : s.world.registry.Aligned := by
  obtain ⟨library, models, clock, seed, host, hl⟩ := hs
  exact hl.moves.follows.aligned Registry.indexed_empty (.clear .empty)

/-- The world of a reached session is linked as long as the handles last. -/
theorem Reached.linked {s : Session σ} (hs : s.Reached)
    (hlimit : s.world.registry.issued < Registry.limit) : s.world.Linked := by
  obtain ⟨library, models, clock, seed, host, hl⟩ := hs
  exact hl.moves.linked (World.linked_new library models clock seed) hlimit

end Session

end Adventure

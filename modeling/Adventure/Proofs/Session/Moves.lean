import Adventure.Function.Table
import Adventure.Proofs.World.Strides

/-!
# Play moves the world step by step

Whatever is played, and wherever it breaks off, the world gets to its new state by strides of
certain kinds, provided that the interpreter of the scripts moves it by such strides too. Each
operation of a session is shown to do so from what its parts do, for any course that such strides
keep to.
-/

namespace Adventure

/-- The session in which a script that is asked for starts. -/
def Session.announce {σ : Type} (s : Session σ) (script : String) (owner : Handle) : Session σ :=
  { s with world := s.world.logEvent ("script.run " ++ script ++ " (owner " ++ owner.text ++ ")") }

namespace Play

open World (Kind Course)

variable {σ α β : Type} {s : Session σ} {P : Kind → Prop} {R : World → World → Prop}

/-- The session in which play ends or breaks off. -/
def after (m : Play σ α) (s : Session σ) : Session σ := (m.run.run s).2

/-- What play answers, or what it breaks off with. -/
def ended (m : Play σ α) (s : Session σ) : Except Panic α := (m.run.run s).1

theorem bind_of_ok {m : Play σ α} {a : α} (h : m.ended s = .ok a) (f : α → Play σ β) :
    (m >>= f).ended s = (f a).ended (m.after s) ∧
      (m >>= f).after s = (f a).after (m.after s) := by
  unfold ended at h
  unfold ended after
  simp only [ExceptT.run_bind, StateT.run_bind]
  generalize m.run.run s = reached at h
  obtain ⟨result, s'⟩ := reached
  cases h
  exact ⟨rfl, rfl⟩

theorem bind_of_error {m : Play σ α} {p : Panic} (h : m.ended s = .error p) (f : α → Play σ β) :
    (m >>= f).ended s = .error p ∧ (m >>= f).after s = m.after s := by
  unfold ended at h
  unfold ended after
  simp only [ExceptT.run_bind, StateT.run_bind]
  generalize m.run.run s = reached at h
  obtain ⟨result, s'⟩ := reached
  cases h
  exact ⟨rfl, rfl⟩

theorem world_bind (f : World → Play σ β) (s : Session σ) :
    (world >>= f).ended s = (f s.world).ended s ∧ (world >>= f).after s = (f s.world).after s :=
  bind_of_ok (m := world) rfl f

theorem bind_pure (m : Play σ α) (f : α → β) (s : Session σ) :
    (m >>= fun a => pure (f a)).ended s = (m.ended s).map f ∧
      (m >>= fun a => pure (f a)).after s = m.after s := by
  cases h : m.ended s with
  | ok a => exact bind_of_ok h fun a => pure (f a)
  | error p => exact bind_of_error h fun a => pure (f a)

theorem act_bind (f : World → α × World) (g : α → Play σ β) (s : Session σ) :
    (act f >>= g).ended s = (g (f s.world).1).ended { s with world := (f s.world).2 } ∧
      (act f >>= g).after s = (g (f s.world).1).after { s with world := (f s.world).2 } :=
  bind_of_ok (m := act f) rfl g

theorem answer_of_bind {m : Play σ α} {f : α → Play σ β} {b : β}
    (h : (m >>= f).ended s = .ok b) : ∃ a, m.ended s = .ok a ∧ (f a).ended (m.after s) = .ok b := by
  cases hm : m.ended s with
  | error p =>
    rw [(bind_of_error hm f).1] at h
    cases h
  | ok a =>
    rw [(bind_of_ok hm f).1] at h
    exact ⟨a, rfl, h⟩

theorem runScript_of_named (run : Runner σ) (s : Session σ) {r : Request} (h : r.script ≠ "") :
    (runScript run r).ended s = (run r).ended (s.announce r.script r.owner) ∧
      (runScript run r).after s = (run r).after (s.announce r.script r.owner) := by
  unfold runScript
  rw [if_neg (by rwa [String.isEmpty_iff])]
  exact bind_of_ok rfl _

/-- From this session, play takes the world along the course. -/
def Steps (R : World → World → Prop) (m : Play σ α) (s : Session σ) : Prop :=
  R s.world (m.after s).world

/-- Play takes the world along the course wherever it begins. -/
abbrev Stepwise (R : World → World → Prop) (m : Play σ α) : Prop := ∀ s, Steps R m s

/-! ### Parts of play -/

theorem steps_change {f : World → World} (hf : R s.world (f s.world)) :
    Steps R (change f : Play σ Unit) s := hf

theorem steps_act {f : World → α × World} (hf : R s.world (f s.world).2) :
    Steps R (act f : Play σ α) s := hf

theorem stepwise_change {f : World → World} (hf : ∀ w, R w (f w)) :
    Stepwise R (change f : Play σ Unit) := fun s => steps_change (hf s.world)

theorem stepwise_act {f : World → α × World} (hf : ∀ w, R w (f w).2) :
    Stepwise R (act f : Play σ α) := fun s => steps_act (hf s.world)

section Parts

variable (hR : Course P R)

include hR

theorem steps_pure (a : α) (s : Session σ) : Steps R (pure a : Play σ α) s := hR.refl s.world

theorem steps_throw (p : Panic) (s : Session σ) : Steps R (throw p : Play σ α) s := hR.refl s.world

theorem steps_bind {m : Play σ α} {f : α → Play σ β} (hm : Steps R m s)
    (hf : ∀ a, m.ended s = .ok a → Steps R (f a) (m.after s)) : Steps R (m >>= f) s := by
  unfold Steps at hm hf ⊢
  cases hended : m.ended s with
  | ok a =>
    rw [(bind_of_ok hended f).2]
    exact hR.trans hm (hf a hended)
  | error p =>
    rw [(bind_of_error hended f).2]
    exact hm

theorem steps_world {f : World → Play σ β} (hf : Steps R (f s.world) s) :
    Steps R (world >>= f) s := by
  refine steps_bind hR (hR.refl s.world) ?_
  intro w hw
  cases hw
  exact hf

theorem stepwise_bind {m : Play σ α} {f : α → Play σ β} (hm : Stepwise R m)
    (hf : ∀ a, Stepwise R (f a)) : Stepwise R (m >>= f) :=
  fun s => steps_bind hR (hm s) fun a _ => hf a _

theorem stepwise_log (hP : P .call) (f : World → String) :
    Stepwise R (change fun w => w.logEvent (f w) : Play σ Unit) :=
  stepwise_change fun w => hR.logEvent hP w (f w)

end Parts

end Play

/-- The interpreter takes the world along the course whatever it is asked for. -/
abbrev Runner.Stepwise {σ : Type} (R : World → World → Prop) (run : Runner σ) : Prop :=
  ∀ r, Play.Stepwise R (run r)

namespace Play

open World (Kind Course)
open Object (alike_mapDoor)

variable {σ : Type} {run : Runner σ} {P : Kind → Prop} {R : World → World → Prop}
  (hR : Course P R)

include hR

/-! ### Scripts and hooks -/

theorem stepwise_runScript (hP : P .call) (hrun : run.Stepwise R) (r : Request) :
    Stepwise R (runScript run r) := by
  unfold runScript
  split
  · exact steps_pure hR _
  · exact stepwise_bind hR (stepwise_log hR hP _) fun _ => hrun r

theorem stepwise_runHook (hP : P .call) (hrun : run.Stepwise R) (h : Handle) (event : String)
    (triggerer : Handle) : Stepwise R (runHook run h event triggerer) := by
  intro s
  unfold runHook
  refine steps_world hR ?_
  split
  · exact steps_pure hR _ s
  · exact stepwise_bind hR (stepwise_runScript hR hP hrun _) (fun _ => steps_pure hR _) s

/-! ### The player's creature on its way -/

theorem stepwise_leaveArea (hP : P .call) (hrun : run.Stepwise R) (pc : Handle)
    (old : Option Handle) : Stepwise R (leaveArea run pc old) := by
  unfold leaveArea
  cases old with
  | none => exact steps_pure hR ()
  | some old =>
    refine stepwise_bind hR (stepwise_change fun w => ?_) fun _ =>
      stepwise_runHook hR hP hrun old _ pc
    have haside : R w { w with exiting := pc } := hR.aside hP rfl rfl rfl rfl rfl rfl rfl rfl rfl
    exact hR.trans haside (hR.setAreaVisible hP _ old false)

theorem stepwise_enterArea (hP : P .call) (hrun : run.Stepwise R) (pc : Handle)
    (new : Option Handle) : Stepwise R (enterArea run pc new) := by
  unfold enterArea
  cases new with
  | none => exact steps_pure hR ()
  | some new =>
    refine stepwise_bind hR (stepwise_change fun w => ?_) fun _ =>
      stepwise_bind hR (stepwise_runHook hR hP hrun new _ pc) fun _ => stepwise_log hR hP _
    have haside : R w { w with entering := pc } := hR.aside hP rfl rfl rfl rfl rfl rfl rfl rfl rfl
    exact hR.trans haside (hR.setAreaVisible hP _ new true)

theorem stepwise_movedPc (hP : P .call) (hrun : run.Stepwise R) : Stepwise R (movedPc run) := by
  intro s
  unfold movedPc
  refine steps_world hR ?_
  split
  · exact steps_pure hR () s
  · rename_i pc _
    simp only
    split
    · exact steps_pure hR () s
    · refine stepwise_bind hR (stepwise_leaveArea hR hP hrun pc _) (fun _ => ?_) s
      refine stepwise_bind hR (stepwise_change fun w => ?_) fun _ =>
        stepwise_enterArea hR hP hrun pc _
      exact hR.other hP (.notice _) rfl

theorem stepwise_jumpTo (hP : P .call) (hrun : run.Stepwise R) (h area : Handle) (position : Vec3) :
    Stepwise R (jumpTo run h area position) := by
  intro s
  unfold jumpTo
  refine steps_world hR ?_
  split
  · exact steps_pure hR false s
  · rename_i current hjump
    refine steps_bind hR (steps_change ?_) fun _ _ => ?_
    · exact hR.undisturbed hP (.relocate h current area position hjump)
        (World.undisturbed_relocate _ h current area position)
    split
    · exact stepwise_bind hR (stepwise_movedPc hR hP hrun) (fun _ => steps_pure hR true) _
    · exact steps_pure hR true _

theorem stepwise_enter (hP : P .call) (hplayer : P .player) (hrun : run.Stepwise R) :
    Stepwise R (enter run) := by
  unfold enter
  refine stepwise_bind hR (stepwise_act fun w => ?_) fun result => ?_
  · exact hR.undisturbed hplayer .placeAtEntry (World.undisturbed_placeAtEntry w)
  cases result with
  | error e => exact steps_pure hR _
  | ok entered =>
    refine stepwise_bind hR (stepwise_movedPc hR hP hrun) fun _ s => steps_world hR ?_
    exact stepwise_bind hR (stepwise_runHook hR hP hrun _ _ _)
      (fun _ => stepwise_bind hR (stepwise_log hR hP _) fun _ => steps_pure hR _) s

theorem stepwise_movePc (hP : P .call) (hrun : run.Stepwise R) (area : String) (position : Vec3) :
    Stepwise R (movePc run area position) := by
  intro s
  unfold movePc
  refine steps_world hR ?_
  split
  · exact steps_pure hR _ s
  · split
    · exact steps_pure hR _ s
    · refine stepwise_bind hR (stepwise_jumpTo hR hP hrun _ _ _) (fun jumped => ?_) s
      cases jumped <;> exact steps_pure hR _

/-! ### Delayed actions -/

theorem stepwise_carryOut (hP : P .call) (hdestruction : P .destruction) (hrun : run.Stepwise R)
    (a : Action) : Stepwise R (carryOut run a) := by
  intro s
  unfold carryOut
  refine steps_world hR ?_
  split
  · cases a.work with
    | script name state =>
      exact stepwise_bind hR (stepwise_runScript hR hP hrun _) (fun _ => steps_pure hR true) s
    | destroy =>
      refine stepwise_bind hR (stepwise_act fun w => ?_) (fun _ => steps_pure hR true) s
      exact hR.stride hdestruction (.destroy a.owner)
  · exact steps_pure hR false s

theorem stepwise_carryOutAll (hP : P .call) (hdestruction : P .destruction)
    (hrun : run.Stepwise R) (actions : List Action) : Stepwise R (carryOutAll run actions) := by
  induction actions with
  | nil => exact steps_pure hR 0
  | cons a rest ih =>
    exact stepwise_bind hR (stepwise_carryOut hR hP hdestruction hrun a) fun _ =>
      stepwise_bind hR ih fun _ => steps_pure hR _

theorem stepwise_processActions (hP : P .call) (hdestruction : P .destruction) (hbatch : P .batch)
    (hrun : run.Stepwise R) : Stepwise R (processActions run) := by
  unfold processActions
  refine stepwise_bind hR (stepwise_act fun w => ?_) fun due =>
    stepwise_carryOutAll hR hP hdestruction hrun due
  exact hR.other hbatch .drained rfl

/-! ### Doors -/

theorem stepwise_setDoorOpen (hP : P .call) (hrun : run.Stepwise R) (h caller : Handle)
    (wanted : Bool) : Stepwise R (setDoorOpen run h caller wanted) := by
  intro s
  unfold setDoorOpen
  refine steps_world hR ?_
  split
  · exact steps_pure hR () s
  · split
    · exact stepwise_runHook hR hP hrun h _ caller s
    · split
      · exact steps_pure hR () s
      · refine stepwise_bind hR (stepwise_change fun w => ?_)
          (fun _ => stepwise_runHook hR hP hrun h _ caller) s
        exact hR.trans (hR.touch hP w h fun o => alike_mapDoor o _) (hR.logEvent hP _ _)

end Play

end Adventure

import Adventure.Function.Deed
import Adventure.Proofs.World.Doors

/-!
# Play and its parts

A property of play that passes from parts to the whole, and that changes of the world have if they
keep to a relation, holds of all that goes on when the player's creature moves, of jumps and of the
functions that may run scripts, as soon as it holds of running scripts and of opening and closing
doors.
-/

namespace Adventure.Play

open Adventure.Function (Deed Intent)
open World (Calm)

variable {σ α β : Type} {A : World → World → Prop} {T : {α : Type} → Play σ α → Prop}

structure Hereditary (A : World → World → Prop) (T : {α : Type} → Play σ α → Prop) : Prop where
  answer {α : Type} (a : α) : T (pure a : Play σ α)
  look : T (get : Play σ (Session σ))
  change {f : World → World} (aside : ∀ w, A w (f w)) : T (change f : Play σ Unit)
  chain {α β : Type} {m : Play σ α} {f : α → Play σ β} (first : T m) (rest : ∀ a, T (f a)) :
    T (m >>= f)

namespace Hereditary

theorem world (hT : Hereditary A T) {f : World → Play σ β} (hf : ∀ w, T (f w)) :
    T (Play.world >>= f) := hT.chain (hT.chain hT.look fun s => hT.answer s.world) hf

variable {run : Runner σ} (hT : Hereditary A T) (hcalm : ∀ {w w'}, Calm w w' → A w w')
  (hscripts : ∀ r : Request, T (Play.runScript run r))

include hT

/-! ### Scripts and hooks -/

theorem runScript (hlog : ∀ w line, A w (w.logEvent line)) (hrun : ∀ r, T (run r)) (r : Request) :
    T (Play.runScript run r) := by
  unfold Play.runScript
  split
  · exact hT.answer _
  · exact hT.chain (hT.change fun w => hlog w _) fun _ => hrun r

include hscripts

theorem runHook (h : Handle) (event : String) (triggerer : Handle) :
    T (runHook run h event triggerer) := by
  unfold Play.runHook
  refine hT.world fun w => ?_
  split
  · exact hT.answer ()
  · exact hT.chain (hscripts _) fun _ => hT.answer ()

theorem setDoorOpen (hturn : ∀ w h wanted line, A w ((w.update h fun o => o.mapDoor fun d =>
    { d with isOpen := wanted }).logEvent line)) (h caller : Handle) (wanted : Bool) :
    T (setDoorOpen run h caller wanted) := by
  unfold Play.setDoorOpen
  refine hT.world fun w => ?_
  split
  · exact hT.answer ()
  · split
    · exact hT.runHook hscripts h _ caller
    · split
      · exact hT.answer ()
      · exact hT.chain (hT.change fun w => hturn w h wanted _) fun _ =>
          hT.runHook hscripts h _ caller

/-! ### The player's creature on its way -/

include hcalm

theorem leaveArea (pc : Handle) (old : Option Handle) : T (leaveArea run pc old) := by
  unfold Play.leaveArea
  cases old with
  | none => exact hT.answer ()
  | some old =>
    refine hT.chain (hT.change fun w => hcalm ?_) fun _ => hT.runHook hscripts old _ pc
    have haside : Calm w { w with exiting := pc } := .aside rfl rfl rfl
    exact haside.trans (.setAreaVisible _ old false)

theorem enterArea (pc : Handle) (new : Option Handle) : T (enterArea run pc new) := by
  unfold Play.enterArea
  cases new with
  | none => exact hT.answer ()
  | some new =>
    refine hT.chain (hT.change fun w => hcalm ?_) fun _ =>
      hT.chain (hT.runHook hscripts new _ pc) fun _ => hT.change fun w => hcalm ?_
    · have haside : Calm w { w with entering := pc } := .aside rfl rfl rfl
      exact haside.trans (.setAreaVisible _ new true)
    · exact .logEvent w (World.not_tells_append "pc.area " _ (by decide))

theorem movedPc : T (movedPc run) := by
  unfold Play.movedPc
  refine hT.world fun w => ?_
  split
  · exact hT.answer ()
  · rename_i pc _
    simp only
    split
    · exact hT.answer ()
    · exact hT.chain (hT.leaveArea hcalm hscripts pc _) fun _ =>
        hT.chain (hT.change fun w => hcalm (.aside rfl rfl rfl)) fun _ =>
          hT.enterArea hcalm hscripts pc _

theorem jumpTo (h area : Handle) (position : Vec3) : T (jumpTo run h area position) := by
  unfold Play.jumpTo
  refine hT.world fun w => ?_
  split
  · exact hT.answer false
  · rename_i current _
    refine hT.chain (hT.change fun w => hcalm (.relocate w h current area position)) fun _ => ?_
    split
    · exact hT.chain (hT.movedPc hcalm hscripts) fun _ => hT.answer true
    · exact hT.answer true

/-! ### Functions that may run scripts -/

theorem carryOut (hdoors : ∀ h caller wanted, T (Play.setDoorOpen run h caller wanted))
    (caller : Handle) (intent : Intent) : T (intent.carryOut run caller) := by
  unfold Intent.carryOut
  cases intent with
  | nothing => exact hT.answer _
  | execute script target => exact hscripts _
  | door h wanted => exact hT.chain (hdoors h caller wanted) fun _ => hT.answer _
  | jump area position facing =>
    refine hT.chain (hT.jumpTo hcalm hscripts caller area position) fun jumped => ?_
    cases facing with
    | none => exact hT.answer _
    | some facing =>
      simp only
      split
      · exact hT.chain (hT.change fun w => hcalm (.setFacing w caller facing)) fun _ =>
          hT.answer _
      · exact hT.answer _

theorem deed (hdoors : ∀ h caller wanted, T (Play.setDoorOpen run h caller wanted)) (d : Deed)
    (c : Bridge.CallContext) : T (d.perform run c) := by
  unfold Deed.perform
  refine hT.world fun w => ?_
  split
  · exact hT.answer _
  · refine hT.chain (hT.carryOut hcalm hscripts hdoors _ _) fun ended => ?_
    cases ended <;> exact hT.answer _

end Hereditary

end Adventure.Play

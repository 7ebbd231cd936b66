import Adventure.Proofs.Session.Coherence
import Adventure.Proofs.Session.Transcript

/-!
# Throws of dice

Only the functions that throw dice draw random numbers, and how many they draw depends on what is
thrown and on the dice alone. So the throws of a run, those of its scripts included, give the
numbers that the same throws give one after the other with the dice as they were at its start,
whatever else the run does.
-/

namespace Adventure

open Adventure.Function (sidesOf? Builtin Change Callee settled named_of_admission suits_of_admission)
open World (Quiet)

variable {σ α : Type}

/-! ### Throws -/

/-- The function and the argument of a call that throws dice. A random number below a bound that is
not positive is no throw. -/
def Exchange.throw? (x : Exchange) : Option (String × Int32) :=
  match x.context.int 0 with
  | .ok n =>
    if (sidesOf? x.context.name).isSome ∨ x.context.name = "Random" ∧ 0 < n then
      some (x.context.name, n)
    else none
  | .error _ => none

def throwsIn (es : List Exchange) : List (String × Int32) := es.filterMap Exchange.throw?

def numbersIn (es : List Exchange) : List Value :=
  (es.filter fun x => x.throw?.isSome).map Exchange.value

theorem throwsIn_append (es es' : List Exchange) :
    throwsIn (es ++ es') = throwsIn es ++ throwsIn es' := List.filterMap_append ..

theorem numbersIn_append (es es' : List Exchange) :
    numbersIn (es ++ es') = numbersIn es ++ numbersIn es' := by
  unfold numbersIn
  rw [List.filter_append, List.map_append]

namespace Dice

/-- What a throw gives. -/
def throw (g : Dice) (t : String × Int32) : Value × Dice :=
  let (n, g) := match sidesOf? t.1 with
    | some sides => g.roll 1 (Int32.ofNat sides) t.2
    | none => g.roll 0 (t.2 - 1) 1
  (.int n, g)

def throwAll : List (String × Int32) → Dice → List Value × Dice
  | [], g => ([], g)
  | t :: ts, g => ((g.throw t).1 :: (throwAll ts (g.throw t).2).1, (throwAll ts (g.throw t).2).2)

theorem throwAll_append (ts ts' : List (String × Int32)) (g : Dice) :
    throwAll (ts ++ ts') g =
      ((throwAll ts g).1 ++ (throwAll ts' (throwAll ts g).2).1,
        (throwAll ts' (throwAll ts g).2).2) := by
  induction ts generalizing g with
  | nil => rfl
  | cons t ts ih =>
    simp only [List.cons_append, throwAll]
    rw [ih (g.throw t).2]

end Dice

/-! ### One call -/

section Calls

variable {f : Callee} {args : List Value} {site : Bridge.CallSite} {e : Bridge.Entry Builtin}
  {c : Bridge.CallContext}

theorem perform_of_throw (h : f.admission Function.table args site = .ok (e, c)) {v : Value}
    {t : String × Int32} (ht : Exchange.throw? ⟨c, v⟩ = some t) (w : World) :
    ∃ change, e.handler = .change change ∧ e.signature.ret = .int ∧
      change.perform w c = .ok ((w.dice.throw t).1, { w with dice := (w.dice.throw t).2 }) := by
  have hnamed := named_of_admission h
  have hreturns := (suits_of_admission h).returns
  obtain ⟨n, hn⟩ : ∃ n, c.int 0 = .ok n := by
    unfold Exchange.throw? at ht
    cases hn : c.int 0 with
    | ok n => exact ⟨n, rfl⟩
    | error err => simp only [hn] at ht; cases ht
  have hname := Callee.name_of_admission h
  unfold Exchange.throw? at ht
  simp only [hn, hname] at ht
  split at ht
  · rename_i hthrows
    cases ht
    unfold Dice.throw
    cases hsides : sidesOf? e.name with
    | some sides =>
      have hhandler : e.handler.sides? = some sides := hnamed.sides.trans hsides
      unfold Function.Builtin.sides? at hhandler
      split at hhandler
      · rename_i hdice
        cases hhandler
        rw [hdice] at hreturns
        refine ⟨.dice sides, hdice, hreturns.symm, ?_⟩
        unfold Change.perform
        simp only [hn]
        rfl
      · cases hhandler
    | none =>
      simp only [hsides, Option.isSome_none, Bool.false_eq_true, false_or] at hthrows
      obtain ⟨hrandom, hpos⟩ := hthrows
      have hhandler := hnamed.random.2 hrandom
      rw [hhandler] at hreturns
      refine ⟨.random, hhandler, hreturns.symm, ?_⟩
      have hbelow : Function.randomBelow w n = Function.rollDice w 0 (n - 1) 1 :=
        if_neg (Int32.not_le.2 hpos)
      unfold Change.perform
      simp only [hn]
      show Except.ok (Value.int (Function.randomBelow w n).1, (Function.randomBelow w n).2) = _
      rw [hbelow]
      rfl
  · cases ht

theorem dice_of_no_throw (h : f.admission Function.table args site = .ok (e, c))
    (plain : e.handler.isDeed = false) {v : Value} (ht : Exchange.throw? ⟨c, v⟩ = none)
    (run : Runner σ) (s : Session σ) :
    ((e.handler.perform run c).after s).world.dice = s.world.dice := by
  have hnamed := named_of_admission h
  have hname := Callee.name_of_admission h
  obtain ⟨-, -, ⟨hsame, -⟩ | ⟨change, u, w', hhandler, -, hafter, heffect⟩⟩ :=
    Function.perform_plain plain run c s
  · rw [hsame]
  · rw [hafter]
    cases heffect with
    | aside _ _ dice => exact dice
    | touched => rfl
    | talked => exact World.startConversation_dice _ _ _ _
    | @random n hn =>
      have hrandom : e.name = "Random" := hnamed.random.1 hhandler
      have hle : n ≤ 0 := by
        unfold Exchange.throw? at ht
        simp only [hn, hname, hrandom, true_and] at ht
        split at ht
        · cases ht
        · rename_i hnot
          exact Int32.not_lt.1 fun hpos => hnot (.inr hpos)
      show (Function.randomBelow s.world n).2.dice = _
      unfold Function.randomBelow
      rw [if_pos hle]
    | @dice sides n hn =>
      have hsides : sidesOf? e.name = some sides := by
        rw [← hnamed.sides, hhandler]
        rfl
      unfold Exchange.throw? at ht
      simp only [hn, hname, hsides, Option.isSome_some, true_or, if_true] at ht
      cases ht
    | nowhere => rfl
    | created => exact World.createObject_dice _ _ _ _ _

theorem settled_of_throw (h : f.admission Function.table args site = .ok (e, c)) {v : Value}
    {t : String × Int32} (ht : Exchange.throw? ⟨c, v⟩ = some t) (run : Runner σ) (s : Session σ) :
    (settled run e c s).1 = (s.world.dice.throw t).1 ∧
      ((e.handler.perform run c).after s).world.dice = (s.world.dice.throw t).2 := by
  obtain ⟨change, hhandler, hret, hperform⟩ := perform_of_throw h ht s.world
  have hended : (e.handler.perform run c).ended s = .ok (.ok (s.world.dice.throw t).1) := by
    rw [hhandler]
    show Except.ok (Function.attempted (change.perform s.world c) s.world).1 = _
    rw [hperform]
    rfl
  have hsound : (Function.ending c (.ok (.ok (s.world.dice.throw t).1))).Sound e.signature.ret :=
    ⟨rfl, hret.symm⟩
  constructor
  · unfold Function.settled
    rw [hended, Bridge.Entry.settle_of_sound hsound]
    rfl
  · rw [hhandler]
    show (Function.attempted (change.perform s.world c) s.world).2.dice = _
    rw [hperform]
    rfl

theorem no_throw_of_deed (h : f.admission Function.table args site = .ok (e, c)) {d : Function.Deed}
    (handler : e.handler = .deed d) (v : Value) : Exchange.throw? ⟨c, v⟩ = none := by
  have hnamed := named_of_admission h
  have hname := Callee.name_of_admission h
  have hsides : sidesOf? e.name = none := by
    rw [← hnamed.sides, handler]
    rfl
  have hrandom : e.name ≠ "Random" := by
    intro hrandom
    have hhandler := hnamed.random.2 hrandom
    rw [handler] at hhandler
    cases hhandler
  unfold Exchange.throw?
  cases c.int 0 with
  | error err => rfl
  | ok n =>
    refine if_neg ?_
    rintro (hsome | ⟨hname', -⟩)
    · rw [hname, hsides] at hsome
      cases hsome
    · exact hrandom (hname.symm.trans hname')

end Calls

/-! ### Transcripts -/

namespace World

def SameDice (w w' : World) : Prop := w'.dice = w.dice

end World

open World (SameDice)

/-- The throws of a transcript give what they give with the dice as they were when it began, and
leave the dice as they do then. -/
theorem Play.Transcript.throws {m : Play σ α} {s : Session σ} {es : List Exchange}
    (h : Play.Transcript SameDice m s es) :
    s.world.dice.throwAll (throwsIn es) = (numbersIn es, (m.after s).world.dice) := by
  induction h with
  | answer a s => rfl
  | stop p s => rfl
  | look s => rfl
  | host f s => rfl
  | change aside => exact congrArg (Prod.mk []) aside.symm
  | act aside => exact congrArg (Prod.mk []) aside.symm
  | @chain _ _ m f s a es es' first ended rest ihfirst ihrest =>
    rw [(bind_of_ok ended f).2, throwsIn_append, numbersIn_append, Dice.throwAll_append, ihfirst,
      ihrest]
  | @broken _ _ m f s p es first ended ih => rw [(bind_of_error ended f).2, ih]
  | refused h =>
    rw [Function.call_refused h]
    rfl
  | @called run f args site e c s h plain =>
    -- The call throws with the dice that it finds, or it leaves them alone.
    rw [Function.call_world h]
    cases ht : Exchange.throw? ⟨c, (settled run e c s).1⟩ with
    | none =>
      have hdice := dice_of_no_throw h plain ht run s
      simp only [throwsIn, numbersIn, List.filterMap_cons, List.filter_cons, ht]
      exact congrArg (Prod.mk []) hdice.symm
    | some t =>
      obtain ⟨hvalue, hdice⟩ := settled_of_throw h ht run s
      simp only [throwsIn, numbersIn, List.filterMap_cons, List.filter_cons, ht]
      exact Prod.ext (congrArg (· :: []) hvalue.symm) hdice.symm
  | @deed run f args site e c d s es h handler inner ih =>
    -- All throws are those of the calls on its way.
    have hnone := no_throw_of_deed h handler (settled run e c s).1
    have hthrows : throwsIn (es ++ [⟨c, (settled run e c s).1⟩]) = throwsIn es := by
      rw [throwsIn_append]
      simp only [throwsIn, List.filterMap_cons, hnone, List.filterMap_nil, List.append_nil]
    have hnumbers : numbersIn (es ++ [⟨c, (settled run e c s).1⟩]) = numbersIn es := by
      rw [numbersIn_append]
      simp only [numbersIn, List.filter_cons, hnone, List.filter_nil, Option.isSome_none,
        Bool.false_eq_true, if_false, List.map_nil, List.append_nil]
    rw [Function.call_world h, hthrows, hnumbers, handler]
    exact ih

/-! ### Everything that can be done but seeding -/

/-- Anything but seeding the dice. Calls are those of the functions of the game. -/
def Operation.Unseeded : Operation → Prop
  | .seed _ => False
  | .call t _ _ _ => t = Function.table
  | _ => True

theorem World.regular_sameDice : World.Regular SameDice where
  gentle h := h.dice
  loadModule := loadModule_dice
  loadArea := loadArea_dice
  unloadArea := unloadArea_dice
  unload := unload_dice
  loadPc := loadPc_dice
  usePc := usePc_dice
  placeAtEntry := placeAtEntry_dice
  createObject := createObject_dice
  destroyObject := destroyObject_dice
  startConversation := startConversation_dice
  endConversation := endConversation_dice

theorem Operation.Unseeded.tellable : ∀ op : Operation, op.Unseeded → op.Tellable SameDice := by
  intro op hop
  cases op with
  | seed n => exact hop.elim
  | call t f args site => exact hop
  | _ => trivial

theorem Runner.Made.told {run : Runner σ} (h : run.Made Operation.Unseeded) :
    run.Told SameDice := h.tells World.regular_sameDice Operation.Unseeded.tellable

theorem Play.Made.told {run : Runner σ} (hrun : run.Told SameDice) {m : Play σ α}
    (h : Play.Made Operation.Unseeded run m) : Play.Told SameDice m :=
  h.tells World.regular_sameDice hrun Operation.Unseeded.tellable

/-! ### Runs -/

/-- Play made of operations other than seeding leads from the first session to the second one, piece
by piece, and makes these calls on its way. -/
inductive Session.Runs : Session σ → List Exchange → Session σ → Prop where
  | here (s : Session σ) : Runs s [] s
  | play {α : Type} {s s' : Session σ} {run : Runner σ} {m : Play σ α} {es es' : List Exchange}
    (before : Runs s es s') (scripts : run.Made Operation.Unseeded)
    (made : Play.Made Operation.Unseeded run m) (told : Play.Transcript SameDice m s' es') :
    Runs s (es ++ es') (m.after s')

theorem Session.Runs.throws {s s' : Session σ} {es : List Exchange} (h : s.Runs es s') :
    s.world.dice.throwAll (throwsIn es) = (numbersIn es, s'.world.dice) := by
  induction h with
  | here s => rfl
  | play before scripts made told ih =>
    rw [throwsIn_append, numbersIn_append, Dice.throwAll_append, ih, told.throws]

end Adventure

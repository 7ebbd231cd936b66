import Adventure.Proofs.Dice
import Adventure.Proofs.Function.Variables
import Adventure.Proofs.Session.Scenes

/-!
# Dice from scripts

The functions that throw dice and the one that draws a number below a bound, as scripts call them:
each changes the dice of the world alone, and answers with what its throw shows.
-/

namespace Adventure.Function

open Bridge
open Dice (Source)

variable {σ : Type}

/-- The call is answered with this number and leaves these dice. Nothing else happens, and no fault
is noted. -/
def Throws (run : Runner σ) (f : Callee) (args : List Value) (site : CallSite) (s : Session σ)
    (r : Int32) (dice : Dice) : Prop :=
  (call run f args site).ended s = .ok (.ok (.int r)) ∧
    (call run f args site).after s = { s with world := { s.world with dice } }

theorem throws_change {f : Callee} {args : List Value} {site : CallSite} {e : Entry Builtin}
    {c : CallContext} {g : Change} {s : Session σ} {r : Int32} {dice : Dice}
    (h : f.admission table args site = .ok (e, c)) (hg : e.handler = .change g)
    (hret : e.signature.ret = .int)
    (hperform : g.perform s.world c = .ok (.int r, { s.world with dice })) (run : Runner σ) :
    Throws run f args site s r dice := by
  obtain ⟨hended, hafter⟩ := perform_change hperform run
  obtain ⟨hcall, hcalled⟩ := callIn_admitted h run s
  have hsound : (ending c (.ok (.ok (.int r)))).Sound e.signature.ret := ⟨rfl, hret.symm⟩
  have hsettled : settled run e c s = (.int r, none) := by
    unfold settled
    rw [hg, hended]
    exact Entry.settle_of_sound hsound
  rw [hsettled] at hcall hcalled
  refine ⟨hcall, hcalled.trans ?_⟩
  rw [hg, hafter, Option.toList_none, List.append_nil]

/-! ### Throwing a die -/

theorem entry_of_die {die : String} {sides : Nat} (h : sidesOf? die = some sides) :
    ∃ id e, table.findByName? die = some id ∧ table.find? id = some e ∧
      e.handler = .change (.dice sides) ∧ e.signature = ⟨.int, [.int]⟩ ∧ e.defaults = [.int 1] ∧
      1 ≤ sides ∧ sides < 2147483648 := by
  unfold sidesOf? at h
  split at h <;> cases h
  all_goals exact ⟨_, _, rfl, rfl, rfl, rfl, rfl, by decide, by decide⟩

theorem throws_die {f : Callee} {die : String} {sides : Nat} (hsides : sidesOf? die = some sides)
    (hf : f.number? table = table.findByName? die) (n : Option Int32) (site : CallSite)
    (run : Runner σ) (s : Session σ) :
    Throws run f (n.toList.map .int) site s (s.world.dice.roll 1 (.ofNat sides) (n.getD 1)).1
      (s.world.dice.roll 1 (.ofNat sides) (n.getD 1)).2 := by
  obtain ⟨id, e, hname, hfound, hhandler, hsignature, hdefaults, -⟩ := entry_of_die hsides
  have hfill : e.fill (n.toList.map .int) = .ok [.int (n.getD 1)] := by
    unfold Entry.fill Entry.required Entry.maximum
    rw [hsignature, hdefaults]
    cases n <;> rfl
  have hret : e.signature.ret = .int := by rw [hsignature]
  exact throws_change (Callee.admission_of_fill (hf.trans hname) hfound hfill) hhandler hret rfl run

/-! ### Drawing a number below a bound -/

theorem throws_random {f : Callee} (hf : f.number? table = some 0) (limit : Int32) (site : CallSite)
    (run : Runner σ) (s : Session σ) :
    Throws run f [.int limit] site s (Source.below Dice.between limit s.world.dice).1
      (Source.below Dice.between limit s.world.dice).2 := by
  refine throws_change (Callee.admission_of_fill hf rfl rfl) rfl rfl ?_ run
  show Except.ok (Value.int (randomBelow s.world limit).1, (randomBelow s.world limit).2) = _
  unfold randomBelow Source.below
  split
  · rfl
  · unfold rollDice
    rw [Dice.roll_eq]

/-- Whatever source of numbers dice are thrown with, if it only keeps to the range that it is asked
for, a throw of a die and a number below a bound are in range, and so they are with the dice of the
game. A script that throws a die of the game is told the sum of its numbers, at least one for each
throw and at most all sides, or the largest script number; a script that asks for a number below a
bound is told one, or zero if there is none, and then nothing is drawn. -/
theorem throws_in_range :
    (∀ {γ : Type} (draw : Source γ), draw.InRange → ∀ (n : Int32) (g : γ),
      (∀ sides, 1 ≤ sides → sides < 2147483648 → draw.Thrown sides n g
        (draw.roll 1 (.ofNat sides) n g).1 (draw.roll 1 (.ofNat sides) n g).2) ∧
      draw.Chosen n g (draw.below n g).1 (draw.below n g).2) ∧
    (∀ lo hi n g, Dice.roll lo hi n g = Source.roll Dice.between lo hi n g) ∧
    ∀ {σ : Type} (site : CallSite) (run : Runner σ) (s : Session σ),
      (∀ f die sides, sidesOf? die = some sides → f.number? table = table.findByName? die →
        ∀ n : Option Int32, ∃ r dice,
          Source.Thrown Dice.between sides (n.getD 1) s.world.dice r dice ∧
          Throws run f (n.toList.map .int) site s r dice) ∧
      ∀ f : Callee, f.number? table = some 0 → ∀ limit, ∃ r dice,
        Source.Chosen Dice.between limit s.world.dice r dice ∧
        Throws run f [.int limit] site s r dice := by
  refine ⟨fun draw hdraw n g => ⟨fun sides hone hfew => hdraw.thrown hone hfew n g,
    hdraw.chosen n g⟩, Dice.roll_eq, fun site run s => ⟨?_, ?_⟩⟩
  · intro f die sides hsides hf n
    obtain ⟨-, -, -, -, -, -, -, hone, hfew⟩ := entry_of_die hsides
    have hthrow := throws_die hsides hf n site run s
    rw [Dice.roll_eq] at hthrow
    exact ⟨_, _, Dice.between_inRange.thrown hone hfew _ _, hthrow⟩
  · intro f hf limit
    exact ⟨_, _, Dice.between_inRange.chosen limit _, throws_random hf limit site run s⟩

/-- So many throws that they show the largest script number, whatever the dice are, and a number
below zero. -/
theorem throws_fill_range : Source.InRange (fun _ hi (g : Unit) => (hi, g)) ∧
    sidesOf? "d2" = some 2 ∧ (Callee.id 95).number? table = table.findByName? "d2" ∧
    (Callee.name "Random").number? table = some 0 ∧
    (Source.roll (fun _ hi g => (hi, g)) 1 (.ofNat 6) 2147483647 ()).1 = 2147483647 ∧
    (∃ dice, Throws .idle (.id 95) [.int 2147483647] .none talking 2147483647 dice) ∧
    Throws .idle (.name "Random") [.int 0] .none talking 0 talking.world.dice := by
  have hdraw : Source.InRange fun _ hi (g : Unit) => (hi, g) :=
    fun lo hi g hle => ⟨hle, Int32.le_refl hi⟩
  have hdie : (Callee.id 95).number? table = table.findByName? "d2" := by decide
  have hrandom : (Callee.name "Random").number? table = some 0 := by decide
  have hlargest : ∀ {γ : Type} {draw : Source γ} {sides : Nat} {g g' : γ} {r : Int32},
      draw.Thrown sides 2147483647 g r g' → r = 2147483647 := by
    intro γ draw sides g g' r h
    have hleast := h.least
    have hmost := r.toInt_lt
    rw [Int32.le_iff_toInt_le] at hleast
    have hvalue : (max (2147483647 : Int32) 1).toInt = 2147483647 := by decide
    rw [← Int32.toInt_inj]
    show r.toInt = 2147483647
    omega
  obtain ⟨hsource, -, hgame⟩ := throws_in_range
  refine ⟨hdraw, rfl, hdie, hrandom, ?_, ?_, ?_⟩
  · have hthrown := (hsource _ hdraw 2147483647 ()).1 6 (by decide) (by decide)
    exact hlargest hthrown
  · obtain ⟨r, dice, hthrown, hthrow⟩ :=
      (hgame .none .idle talking).1 _ "d2" 2 rfl hdie (some 2147483647)
    rw [hlargest hthrown] at hthrow
    exact ⟨dice, hthrow⟩
  · obtain ⟨r, dice, hchosen, hthrow⟩ := (hgame .none .idle talking).2 _ hrandom 0
    obtain ⟨hzero, hundrawn⟩ := hchosen.undrawn (by decide)
    rwa [hzero, hundrawn] at hthrow

end Adventure.Function

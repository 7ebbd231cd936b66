import Adventure.Proofs.Function.Effects
import Adventure.Proofs.Session.Scenes

/-!
# Functions that only look

Apart from those that are listed here by name, no function of the game does anything to the world,
whoever calls it and with whatever arguments. What strikes such a call is noted as a fault of the
session, outside the world. The functions whose rules are not part of the game yet answer with the
blank value of their type.
-/

namespace Adventure.Function

open Bridge

variable {σ : Type} {c : CallContext} {s : Session σ}

/-! ### Builtins that do not act -/

/-- Clearing the actions does nothing either: the actions of an object are not kept. -/
def Builtin.looks : Builtin → Bool
  | .placeholder | .text _ | .number _ | .query _ | .change .clearActions => true
  | _ => false

theorem perform_looks {b : Builtin} (hb : b.looks = true) (c : CallContext) (s : Session σ) :
    ∃ answer, ∀ run : Runner σ,
      (b.perform run c).ended s = .ok answer ∧ (b.perform run c).after s = s := by
  cases b with
  | placeholder => exact ⟨.ok c.preset, fun _ => ⟨rfl, rfl⟩⟩
  | text f => exact ⟨f.perform c, fun _ => ⟨rfl, rfl⟩⟩
  | number f => exact ⟨f.perform c, fun _ => ⟨rfl, rfl⟩⟩
  | query q => exact ⟨q.perform s.world c, fun _ => ⟨rfl, rfl⟩⟩
  | change f =>
    cases f with
    | clearActions => exact ⟨.ok c.preset, fun _ => ⟨rfl, rfl⟩⟩
    | _ => simp [Builtin.looks] at hb
  | deed d => simp [Builtin.looks] at hb

/-! ### The functions that act -/

def acting : List String := [
  "Random", "d2", "d3", "d4", "d6", "d8", "d10", "d12", "d20", "d100",
  "PrintString", "PrintFloat", "PrintInteger", "PrintObject", "PrintVector",
  "AssignCommand", "DelayCommand", "ActionDoCommand", "ExecuteScript",
  "SetFacing", "SetFacingPoint", "ActionSpeakString", "SpeakString",
  "ActionOpenDoor", "ActionCloseDoor",
  "SetLocalInt", "SetLocalFloat", "SetLocalString", "SetLocalObject", "SetLocalLocation",
  "DeleteLocalInt", "DeleteLocalFloat", "DeleteLocalString", "DeleteLocalObject",
  "DeleteLocalLocation",
  "GetFirstObjectInArea", "GetNextObjectInArea", "SetCommandable",
  "ActionJumpToObject", "ActionJumpToLocation", "ActionStartConversation", "BeginConversation",
  "DestroyObject", "CreateObject", "SetCustomToken"]

theorem looks_or_acting : ∀ e ∈ entries, e.handler.looks = true ∨ e.name ∈ acting := by
  decide +kernel

/-! ### Calls -/

theorem call_looks {f : Callee} {args : List Value} {site : CallSite} {e : Entry Builtin}
    (h : f.admission table args site = .ok (e, c)) (hlooks : e.handler.looks = true)
    (s : Session σ) : ∃ answer, ∀ run : Runner σ,
      (e.handler.perform run c).ended s = .ok answer ∧
      (call run f args site).ended s = .ok (.ok (e.settle (ending c (.ok answer))).1) ∧
      (call run f args site).after s =
        { s with faults := s.faults ++ (e.settle (ending c (.ok answer))).2.toList } := by
  obtain ⟨answer, hperform⟩ := perform_looks hlooks c s
  refine ⟨answer, fun run => ?_⟩
  obtain ⟨hended, hafter⟩ := hperform run
  have hsettled : settled run e c s = e.settle (ending c (.ok answer)) := by
    simp only [settled, hended]
  obtain ⟨hcall, hcalled⟩ := callIn_admitted h run s
  rw [hsettled] at hcall hcalled
  rw [hafter] at hcalled
  exact ⟨hended, hcall, hcalled⟩

/-- An admitted call of a function that is not on the list of those that act, in any session. It
returns a value, the same with every interpreter, and leaves the world and what the interpreter
keeps as they were; a fault may be noted. A function without rules of its own gives the blank value
of its type, and not even a fault is noted. -/
theorem queries_leave_world (s : Session σ) (f : Callee) (id : Nat) (args : List Value)
    (site : CallSite) (hid : f.number? table = some id) (h : table.Admits id args) :
    ∃ e, table.find? id = some e ∧
      (e.name ∉ acting → ∃ v fault, ∀ run : Runner σ,
        (call run f args site).ended s = .ok (.ok v) ∧
        (call run f args site).after s = { s with faults := s.faults ++ Option.toList fault }) ∧
      (e.handler = .placeholder → ∀ run : Runner σ,
        (call run f args site).ended s = .ok (.ok (.default e.signature.ret)) ∧
        (call run f args site).after s = s) := by
  obtain ⟨e, c, hfound, hadmission, hprepares⟩ := admission_of_admits site hid h
  refine ⟨e, hfound, fun hname => ?_, fun hplaceholder run => ?_⟩
  · have hlooks := (looks_or_acting e (List.mem_of_find?_eq_some hfound)).resolve_right hname
    obtain ⟨answer, hcall⟩ := call_looks hadmission hlooks s
    exact ⟨_, _, fun run => (hcall run).2⟩
  · have hlooks : e.handler.looks = true := by simp [hplaceholder, Builtin.looks]
    obtain ⟨answer, hcall⟩ := call_looks hadmission hlooks s
    obtain ⟨hended, hcalled, hafter⟩ := hcall run
    rw [hplaceholder] at hended
    cases hended
    rw [settle_preset hprepares.slot] at hcalled hafter
    simpa using And.intro hcalled hafter

/-- The player's creature looks for whatever is nearest to it while it talks with the guard. -/
theorem looking_around : ∃ v,
    (call .idle (.name "GetNearestObject") [] ⟨⟨3⟩, .invalid, "hook"⟩).ended talking = .ok (.ok v) ∧
    ((call .idle (.name "GetNearestObject") [] ⟨⟨3⟩, .invalid, "hook"⟩).after talking).world =
      talking.world := by
  have hentry : (table.find? 227).map (fun e => (e.name, e.required)) =
      some ("GetNearestObject", 0) := by decide
  obtain ⟨e, hfound, he⟩ := Option.map_eq_some_iff.1 hentry
  simp only [Prod.mk.injEq] at he
  obtain ⟨hname, hrequired⟩ := he
  have hadmits : table.Admits 227 [] :=
    ⟨e, hfound, by simp [hrequired], Nat.zero_le _, fun k v t hv => by simp at hv⟩
  obtain ⟨e', hfound', hlooking, -⟩ := queries_leave_world talking (.name "GetNearestObject") 227 []
    ⟨⟨3⟩, .invalid, "hook"⟩ (by decide) hadmits
  obtain rfl : e = e' := Option.some.inj (hfound.symm.trans hfound')
  obtain ⟨v, fault, hcall⟩ := hlooking (by rw [hname]; decide)
  obtain ⟨hended, hafter⟩ := hcall .idle
  exact ⟨v, hended, by rw [hafter]⟩

end Adventure.Function

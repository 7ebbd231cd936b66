import Adventure.Proofs.Function.Queries
import Adventure.Proofs.World.Finding

/-!
# Scripts that look for objects

The functions of scripts that look for the nearest object, counted from one, and for an object with
a tag, counted from zero. Counting up, each of them enumerates what there is to be found, every
object once, and then gives the handle that names nothing.
-/

namespace Adventure

open World (Ranked Counted pickNth counted_pickNth counted_nothing)

namespace Function

open Bridge

variable {σ : Type}

/-! ### Calls that look -/

/-- What only looks and comes to a value of the declared type answers the call with it, and nothing
else happens. -/
theorem call_answers {f : Callee} {args : List Value} {site : CallSite} {e : Entry Builtin}
    {c : CallContext} {s : Session σ} {v : Value} {run : Runner σ}
    (h : f.admission table args site = .ok (e, c)) (hlooks : e.handler.looks = true)
    (hv : (e.handler.perform run c).ended s = .ok (.ok v)) (htype : v.type = e.signature.ret) :
    (call run f args site).ended s = .ok (.ok v) ∧ (call run f args site).after s = s := by
  obtain ⟨answer, hcall⟩ := call_looks h hlooks s
  obtain ⟨hended, hcalled, hafter⟩ := hcall run
  have hanswer : answer = .ok v := Except.ok.inj (hended.symm.trans hv)
  have hsound : (ending c (.ok (.ok v))).Sound e.signature.ret := ⟨rfl, htype⟩
  rw [hanswer, Entry.settle_of_sound hsound] at hcalled hafter
  refine ⟨hcalled, hafter.trans ?_⟩
  rw [Option.toList_none, List.append_nil]

theorem call_query {f : Callee} {args : List Value} {site : CallSite} {e : Entry Builtin}
    {c : CallContext} {q : Query} {s : Session σ} {v : Value}
    (h : f.admission table args site = .ok (e, c)) (hq : e.handler = .query q)
    (hv : q.perform s.world c = .ok v) (htype : v.type = e.signature.ret) (run : Runner σ) :
    (call run f args site).ended s = .ok (.ok v) ∧ (call run f args site).after s = s := by
  refine call_answers h (by rw [hq, Builtin.looks]) ?_ htype
  rw [hq]
  exact congrArg Except.ok hv

/-! ### Looking for the nearest object -/

/-- What a script may look for from where. Creatures may be looked for by up to four more criteria,
none of which counts. -/
inductive Quest where
  | object (type : Int32) (target : Handle)
  | tagged (tag : String) (target : Handle)
  | creature (type value : Int32) (target : Handle) (more : { l : List Int32 // l.length ≤ 4 })
  | around (type : Int32) (place : Option EngineValue)

namespace Quest

def number : Quest → Nat
  | object _ _ => 227
  | tagged _ _ => 229
  | creature _ _ _ _ => 38
  | around _ _ => 228

def args (n : Int32) : Quest → List Value
  | object type target => [.int type, .object target, .int n]
  | tagged tag target => [.string tag, .object target, .int n]
  | creature type value target more =>
    .int type :: .int value :: .object target :: .int n :: more.1.map .int
  | around type place => [.int type, .engine place, .int n]

/-- The area that is searched, and the point from which: those of a live object that is in an area,
or those of a location in a loaded area. -/
def spot? (w : World) : Quest → Option (Handle × Vec3)
  | object _ target | tagged _ target | creature _ _ target _ =>
    (w.get? target).bind fun o => o.area.map (·, o.position)
  | around _ place =>
    (Value.engine place).location?.bind fun l => (w.loadedArea? l).map (·, l.position)

/-- An object does not find itself. -/
def excluded : Quest → Handle
  | object _ target | tagged _ target | creature _ _ target _ => target
  | around _ _ => .invalid

/-- Is the object one of those that are looked for? -/
def wanted (o : Object) : Quest → Bool
  | object type _ | around type _ => o.type.intersects (.ofScript type)
  | tagged tag _ => o.hasTag tag
  | creature _ _ _ _ => o.creature?.isSome

/-- These are the objects to be found, in their order. -/
def Finds (w : World) (q : Quest) (found : List Handle) : Prop :=
  match q.spot? w with
  | some (area, position) => w.Ranked area position q.excluded (fun o => q.wanted o) found
  | none => found = []

def query : Quest → Query
  | object _ _ => .nearestObject
  | tagged _ _ => .nearestByTag
  | creature _ _ _ _ => .nearestCreature
  | around _ _ => .nearestToLocation

def answer (w : World) (q : Quest) (n : Int32) : Handle :=
  match q.spot? w with
  | some (area, position) =>
    pickNth (w.nearestObjects area position q.excluded fun o => q.wanted o) n
  | none => .invalid

variable {f : Callee} {site : CallSite} {w : World}

theorem nearestTo_eq (target : Handle) (n : Int32) (filter : Object → Bool) :
    w.nearestTo target n filter =
      match (w.get? target).bind fun o => o.area.map (·, o.position) with
      | some (area, position) => pickNth (w.nearestObjects area position target filter) n
      | none => .invalid := by
  unfold World.nearestTo
  cases w.get? target with
  | none => rfl
  | some o =>
    simp only [Option.bind_some]
    cases o.area <;> rfl

theorem admitted (q : Quest) (hf : f.number? table = some q.number) (n : Int32) (site : CallSite) :
    ∃ e c, f.admission table (q.args n) site = .ok (e, c) ∧ e.handler = .query q.query ∧
      e.signature.ret = .object ∧ ∀ w, q.query.perform w c = .ok (.object (q.answer w n)) := by
  cases q with
  | object type target =>
    refine ⟨_, _, Callee.admission_of_fill hf rfl rfl, rfl, rfl, fun w => ?_⟩
    show (Except.ok (Value.object (w.nearestTo target n _)) : Attempt Value) = _
    rw [nearestTo_eq]
    rfl
  | tagged tag target =>
    refine ⟨_, _, Callee.admission_of_fill hf rfl rfl, rfl, rfl, fun w => ?_⟩
    show (Except.ok (Value.object (w.nearestTo target n _)) : Attempt Value) = _
    rw [nearestTo_eq]
    rfl
  | creature type value target more =>
    obtain ⟨more, hmore⟩ := more
    -- The criteria are handed on unread, so that only their number matters.
    obtain ⟨e, hfound, rest, hfill, hhandler, hret⟩ : ∃ e, table.find? 38 = some e ∧ ∃ rest,
        e.fill (args n (creature type value target ⟨more, hmore⟩)) =
          .ok (.int type :: .int value :: .object target :: .int n :: rest) ∧
        e.handler = .query .nearestCreature ∧ e.signature.ret = .object := by
      refine ⟨_, rfl, ?_⟩
      match more, hmore with
      | [], _ => exact ⟨_, rfl, rfl, rfl⟩
      | [_], _ => exact ⟨_, rfl, rfl, rfl⟩
      | [_, _], _ => exact ⟨_, rfl, rfl, rfl⟩
      | [_, _, _], _ => exact ⟨_, rfl, rfl, rfl⟩
      | [_, _, _, _], _ => exact ⟨_, rfl, rfl, rfl⟩
    refine ⟨e, _, Callee.admission_of_fill hf hfound hfill, hhandler, hret, fun w => ?_⟩
    show (Except.ok (Value.object (w.nearestTo target n _)) : Attempt Value) = _
    rw [nearestTo_eq]
    rfl
  | around type place =>
    refine ⟨_, _, Callee.admission_of_fill hf rfl rfl, rfl, rfl, fun w => ?_⟩
    show ((match (Value.engine place).location?.bind fun l =>
        (w.loadedArea? l).map (·, l.position) with
      | some (there, point) => pure (.object (pickNth
          (w.nearestObjects there point .invalid fun o => o.type.intersects (.ofScript type)) n))
      | none => pure (.object .invalid)) : Attempt Value) = _
    unfold answer
    simp only [spot?]
    split <;> rfl

theorem finds (hi : w.registry.Indexed) (q : Quest) :
    ∃ found, q.Finds w found ∧ Counted found (q.answer w) := by
  unfold Finds answer
  cases q.spot? w with
  | none => exact ⟨[], rfl, counted_nothing⟩
  | some spot =>
    obtain ⟨area, position⟩ := spot
    exact ⟨_, World.ranked_nearestObjects hi area position q.excluded _, counted_pickNth _⟩

/-- A script that asks for number `n` is told what it is, and nothing else happens. -/
theorem call_eq (q : Quest) (hf : f.number? table = some q.number) (n : Int32) (site : CallSite)
    (run : Runner σ) (s : Session σ) :
    (call run f (q.args n) site).ended s = .ok (.ok (.object (q.answer s.world n))) ∧
      (call run f (q.args n) site).after s = s := by
  obtain ⟨e, c, hadmitted, hhandler, hret, hanswer⟩ := q.admitted hf n site
  exact call_query hadmitted hhandler (hanswer s.world) hret.symm run

end Quest

/-! ### Looking for an object with a tag -/

/-- The object at a place of a list that is counted from zero. Nothing has an empty tag. -/
def atPlace (tag : String) (found : List Handle) (n : Int32) : Handle :=
  if tag = "" ∨ n.toInt < 0 then .invalid else (found[n.toInt.toNat]?).getD .invalid

theorem call_objectByTag {f : Callee} (hf : f.number? table = some 200) (tag : String) (n : Int32)
    (site : CallSite) (run : Runner σ) (s : Session σ) :
    (call run f [.string tag, .int n] site).ended s =
        .ok (.ok (.object (s.world.objectByTag tag n))) ∧
      (call run f [.string tag, .int n] site).after s = s :=
  call_query (Callee.admission_of_fill hf rfl rfl) rfl rfl rfl run

end Function

end Adventure

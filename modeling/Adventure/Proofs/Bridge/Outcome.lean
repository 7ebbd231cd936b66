import Adventure.Bridge.Probe
import Adventure.Proofs.Bridge.Admission

/-!
# Outcomes of calls

What an admitted call gives back, whatever its handler does: a value of the declared return type,
and the engine as the handler left it. The value is the handler's own where that has the declared
type; otherwise it is the blank value of the type, and a fault says why. A handler is any function
of its context and the engine, so it may call the table itself.
-/

namespace Adventure

/-- The blank value of every type. -/
inductive Value.Blank : ValueType → Value → Prop
  | void : Blank .void .void
  | int : Blank .int (.int 0)
  | float : Blank .float (.float 0)
  | string : Blank .string (.string "")
  | object : Blank .object (.object .invalid)
  | vector : Blank .vector (.vector ⟨0, 0, 0⟩)
  | engine : Blank .engine (.engine none)
  | state : Blank .state (.state ⟨0, []⟩)

theorem Value.blank_default (t : ValueType) : Value.Blank t (.default t) := by
  cases t <;> constructor

namespace Bridge

variable {α ε : Type}

/-- Why the return slot does not count where `type` is declared. -/
inductive Ending.Faulty (type : ValueType) : Ending → FaultCause → Prop
  | failed (slot : Value) (reason : String) : Faulty type ⟨slot, .failed reason⟩ (.failed reason)
  | panicked (slot : Value) (payload : Payload) :
      Faulty type ⟨slot, .panicked payload⟩ (.panicked payload.message)
  | mistyped {slot : Value} : slot.type ≠ type →
      Faulty type ⟨slot, .finished⟩ (.mistyped slot.type type)

/-- The return slot counts: the handler finished and left a value of the declared type there. -/
def Ending.Sound (type : ValueType) (ending : Ending) : Prop :=
  ending.fate = .finished ∧ ending.slot.type = type

theorem Ending.sound_or_faulty (type : ValueType) (ending : Ending) :
    ending.Sound type ∨ ∃ cause, ending.Faulty type cause := by
  obtain ⟨slot, fate⟩ := ending
  cases fate with
  | failed reason => exact Or.inr ⟨_, .failed slot reason⟩
  | panicked payload => exact Or.inr ⟨_, .panicked slot payload⟩
  | finished =>
    by_cases ht : slot.type = type
    · exact Or.inl ⟨rfl, ht⟩
    · exact Or.inr ⟨_, .mistyped ht⟩

theorem Entry.settle_of_sound {e : Entry α} {ending : Ending}
    (h : ending.Sound e.signature.ret) : e.settle ending = (ending.slot, none) := by
  obtain ⟨hfate, htype⟩ := h
  simp only [Entry.settle, hfate, if_pos htype]

theorem Entry.settle_of_faulty {e : Entry α} {ending : Ending} {cause : FaultCause}
    (h : ending.Faulty e.signature.ret cause) :
    e.settle ending = (.default e.signature.ret, some ⟨e.name, e.id, cause⟩) := by
  cases h with
  | failed => rfl
  | panicked => rfl
  | mistyped hne => simp only [Entry.settle, if_neg hne]

theorem Entry.settle_type (e : Entry α) (ending : Ending) :
    (e.settle ending).1.type = e.signature.ret := by
  rcases ending.sound_or_faulty e.signature.ret with h | ⟨cause, h⟩
  · rw [Entry.settle_of_sound h]
    exact h.2
  · rw [Entry.settle_of_faulty h]
    exact Value.type_default _

/-- Every admitted call of every table and every handler. The call gives a value of the declared
return type and the engine that the handler left. A handler that finished with a value of that type
has its own value given, and no fault is noted; otherwise the blank value is given and the fault
noted. -/
theorem call_outcome (ops : List (TableOp α)) (perform : α → Handler ε) (engine : ε) (id : Nat)
    (args : List Value) (site : CallSite) (h : (Table.after ops).Admits id args) :
    ∃ e c reply, (Table.after ops).find? id = some e ∧ e.Prepares id args site c ∧
      (Table.after ops).call perform engine id args site = .ok reply ∧
      reply.value.type = e.signature.ret ∧
      reply.engine = (perform e.handler c engine).2 ∧
      ((perform e.handler c engine).1.Sound e.signature.ret →
        reply.value = (perform e.handler c engine).1.slot ∧ reply.fault = none) ∧
      (¬ (perform e.handler c engine).1.Sound e.signature.ret →
        Value.Blank e.signature.ret reply.value ∧
        ∃ cause, (perform e.handler c engine).1.Faulty e.signature.ret cause ∧
          reply.fault = some ⟨e.name, id, cause⟩) := by
  obtain ⟨e, c, he, hprep, hcall⟩ := call_of_admits perform engine site h
  have hid : e.id = id := by simpa using List.find?_some he
  refine ⟨e, c, _, he, hprep, hcall, e.settle_type _, rfl, ?_, ?_⟩
  · intro hsound
    have hsettle := Entry.settle_of_sound hsound
    exact ⟨congrArg Prod.fst hsettle, congrArg Prod.snd hsettle⟩
  · intro hnot
    obtain ⟨cause, hfaulty⟩ := (Ending.sound_or_faulty e.signature.ret _).resolve_left hnot
    have hsettle := Entry.settle_of_faulty hfaulty
    have hvalue := congrArg Prod.fst hsettle
    have hfault := congrArg Prod.snd hsettle
    rw [hid] at hfault
    refine ⟨?_, cause, hfaulty, hfault⟩
    simpa only [hvalue] using Value.blank_default e.signature.ret

/-- One function, with a probe that sets the return slot to a whole number and breaks off. -/
def tryout : List (TableOp Probe) :=
  [.register "Tryout" 7 ⟨some (.int 3), .panic (.text "stop")⟩ ⟨.string, [.float]⟩ [.int 2], .freeze]

theorem tryout_admits : (Table.after tryout).Admits 7 [.int 1] := by
  refine ⟨_, rfl, by decide, by decide, ?_⟩
  exact fit_cons.2 ⟨Or.inr ⟨rfl, rfl⟩, fun k v t hv => by simp at hv⟩

/-- The whole number is no string, and the probe broke off: the call gives the blank string. -/
theorem tryout_outcome : (Table.after tryout).Admits 7 [.int 1] ∧
    ∃ reply, (Table.after tryout).call Probe.handler 0 7 [.int 1] .none = .ok reply ∧
      reply.value = .string "" ∧ reply.engine = 1 ∧
      reply.fault = some ⟨"Tryout", 7, .panicked "stop"⟩ := by
  refine ⟨tryout_admits, ?_⟩
  obtain ⟨e, c, reply, he, -, hcall, -, hengine, -, hfaulty⟩ :=
    call_outcome tryout Probe.handler 0 7 [.int 1] .none tryout_admits
  cases he
  have hnot : ¬ (Ending.Sound .string ⟨.int 3, .panicked (.text "stop")⟩) := fun h => by cases h.1
  obtain ⟨hblank, cause, hcause, hfault⟩ := hfaulty hnot
  refine ⟨reply, hcall, ?_, hengine, ?_⟩
  · generalize reply.value = v at hblank
    cases hblank
    rfl
  · rw [hfault]
    cases hcause
    rfl

end Bridge

end Adventure

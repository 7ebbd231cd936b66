import Adventure.Function.Builtin

/-!
# Parameters at their types

A handler reads its parameters by number and at a type. Each of these reads succeeds where the
parameters begin with values of the types that the handler takes, and an attempt that is made of
reads and plain steps succeeds then too.
-/

namespace Adventure.Function

open Bridge

variable {α β : Type} {P : α → Prop} {Q : β → Prop}

/-! ### Attempts that succeed -/

/-- This attempt succeeds, and this holds of what it gives. -/
def Gives (P : α → Prop) (x : Attempt α) : Prop := ∃ a, x = .ok a ∧ P a

theorem gives_pure {a : α} (h : P a) : Gives P (pure a : Attempt α) := ⟨a, rfl, h⟩

theorem gives_lift {x : Except ValueError α} {a : α} (h : x = .ok a) (hP : P a) :
    Gives P (liftM x : Attempt α) := by
  subst h
  exact ⟨a, rfl, hP⟩

theorem gives_work {x : Except Panic α} {a : α} (h : x = .ok a) :
    Gives (· = a) (liftM x : Attempt α) := by
  subst h
  exact ⟨a, rfl, rfl⟩

theorem Gives.bind {x : Attempt α} {f : α → Attempt β} (hx : Gives P x)
    (hf : ∀ a, P a → Gives Q (f a)) : Gives Q (x >>= f) := by
  obtain ⟨a, rfl, ha⟩ := hx
  exact hf a ha

theorem Gives.mono {P' : α → Prop} {x : Attempt α} (hx : Gives P x) (h : ∀ a, P a → P' a) :
    Gives P' x := by
  obtain ⟨a, hok, ha⟩ := hx
  exact ⟨a, hok, h a ha⟩

/-- This attempt fails or breaks off. -/
def Stops (x : Attempt α) : Prop := ∃ t, x = .error t

theorem Stops.bind {x : Attempt α} (hx : Stops x) {f : α → Attempt β} : Stops (x >>= f) := by
  obtain ⟨t, rfl⟩ := hx
  exact ⟨t, rfl⟩

theorem stops_bind {x : Attempt α} {f : α → Attempt β} (hf : ∀ a, x = .ok a → Stops (f a)) :
    Stops (x >>= f) := by
  cases x with
  | error t => exact ⟨t, rfl⟩
  | ok a => exact hf a rfl

theorem ok_of_lift {x : Except ValueError α} {a : α} (h : (liftM x : Attempt α) = .ok a) :
    x = .ok a := by
  cases x with
  | ok b =>
    cases h
    rfl
  | error e => cases h

theorem ok_of_bind {x : Attempt α} {f : α → Attempt β} {b : β} (h : x >>= f = .ok b) :
    ∃ a, x = .ok a ∧ f a = .ok b := by
  cases x with
  | ok a => exact ⟨a, rfl, h⟩
  | error t => cases h

/-! ### What the parameters begin with -/

/-- The parameters begin with values of these types. -/
def Provides (c : CallContext) (types : List ValueType) : Prop :=
  types <+: c.params.map Value.type

variable {c : CallContext} {types : List ValueType} {t : ValueType}

theorem Provides.value (h : Provides c types) (i : Nat) (hi : types[i]? = some t) :
    ∃ v, c.params[i]? = some v ∧ v.type = t := by
  have hlen : i < types.length := (List.getElem?_eq_some_iff.1 hi).1
  obtain ⟨rest, hrest⟩ := h
  have htype : (c.params.map Value.type)[i]? = some t := by
    rw [← hrest, List.getElem?_append_left hlen]
    exact hi
  rw [List.getElem?_map, Option.map_eq_some_iff] at htype
  exact htype

theorem Provides.param (h : Provides c types) (i : Nat) (hi : types[i]? = some t) :
    Gives (fun v => v.type = t) (liftM (c.param i)) := by
  obtain ⟨v, hv, ht⟩ := h.value i hi
  have hparam : c.param i = .ok v := by simp only [CallContext.param, hv]
  exact gives_lift hparam ht

theorem Provides.reads {read : Value → Except ValueError α} (h : Provides c types) (i : Nat)
    (hi : types[i]? = some t)
    (hread : ∀ v, v.type = t → ∃ a, read v = .ok a) :
    Gives (fun a => (c.param i >>= read) = .ok a) (liftM (c.param i >>= read)) := by
  obtain ⟨v, hv, ht⟩ := h.value i hi
  obtain ⟨a, ha⟩ := hread v ht
  have hparam : c.param i = .ok v := by simp only [CallContext.param, hv]
  have hok : (c.param i >>= read) = .ok a := by
    rw [hparam]
    exact ha
  exact gives_lift hok hok

theorem Provides.int (h : Provides c types) (i : Nat) (hi : types[i]? = some .int) :
    Gives (fun n => c.int i = .ok n) (liftM (c.int i)) :=
  h.reads i hi fun v hv => by cases v with
    | int n => exact ⟨n, rfl⟩
    | _ => cases hv

theorem Provides.float (h : Provides c types) (i : Nat) (hi : types[i]? = some .float) :
    Gives (fun x => c.float i = .ok x) (liftM (c.float i)) :=
  h.reads i hi fun v hv => by cases v with
    | float x => exact ⟨x, rfl⟩
    | _ => cases hv

theorem Provides.string (h : Provides c types) (i : Nat) (hi : types[i]? = some .string) :
    Gives (fun s => c.string i = .ok s) (liftM (c.string i)) :=
  h.reads i hi fun v hv => by cases v with
    | string s => exact ⟨s, rfl⟩
    | _ => cases hv

theorem Provides.object (h : Provides c types) (i : Nat) (hi : types[i]? = some .object) :
    Gives (fun a => c.object i = .ok a) (liftM (c.object i)) :=
  h.reads i hi fun v hv => by cases v with
    | object a => exact ⟨a, rfl⟩
    | _ => cases hv

theorem Provides.vector (h : Provides c types) (i : Nat) (hi : types[i]? = some .vector) :
    Gives (fun v => c.vector i = .ok v) (liftM (c.vector i)) :=
  h.reads i hi fun v hv => by cases v with
    | vector a => exact ⟨a, rfl⟩
    | _ => cases hv

theorem Provides.state (h : Provides c types) (i : Nat) (hi : types[i]? = some .state) :
    Gives (fun f => c.state i = .ok f) (liftM (c.state i)) :=
  h.reads i hi fun v hv => by cases v with
    | state f => exact ⟨f, rfl⟩
    | _ => cases hv

end Adventure.Function

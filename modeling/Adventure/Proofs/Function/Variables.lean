import Adventure.Proofs.Dict
import Adventure.Proofs.Function.Effects
import Adventure.Proofs.World.Locals

/-!
# Local variables as scripts see them

A local variable belongs to an object and has a type and a name. The five types have functions of
their own, which read one variable, set one or delete one; those of one type never see the variables
of another. Everything else that a function of the game can do leaves the variables of all objects
alone.
-/

namespace Adventure.Function

open Bridge
open World (Retains)

/-- What a local variable belongs to, its type and its name. -/
structure Variable where
  object : Handle
  type : LocalType
  name : String
  deriving DecidableEq, Repr

namespace LocalType

def initial : LocalType → Value
  | .int => .int 0
  | .float => .float 0
  | .string => .string ""
  | .object => .object .invalid
  | .location => .ofLocation .none

/-- Not every engine value is a location, and a location variable holds nothing else. -/
def holds (t : LocalType) (v : Value) : Bool := t != .location || v.location?.isSome

def put (t : LocalType) (name : String) (v : Value) (l : Locals) : Locals :=
  match t, v with
  | .int, .int n => l.setInt name n
  | .float, .float x => l.setFloat name x
  | .string, .string s => l.setString name s
  | .object, .object h => l.setObject name h
  | .location, .engine (some (.location place)) => l.setLocation name place
  | _, _ => l

/-! ### One variable after another -/

variable {t t' : LocalType} {name name' : String} {v : Value}

theorem get_empty (t : LocalType) (name : String) : t.get .empty name = t.initial := by
  cases t <;> rfl

theorem get_put_self (htype : v.type = t.valueType) (hholds : t.holds v = true) (l : Locals) :
    t.get (t.put name v l) name = v := by
  cases t with
  | location =>
    cases v with
    | engine e =>
      cases e with
      | none => cases hholds
      | some e =>
        cases e with
        | effect => cases hholds
        | location place =>
          simp [put, get, Locals.getLocation, Locals.setLocation, Dict.find?_insert_self,
            Value.ofLocation]
    | _ => cases htype
  | _ =>
    cases v <;> simp_all [put, get, Value.type, valueType, Locals.getInt, Locals.setInt,
      Locals.getFloat, Locals.setFloat, Locals.getString, Locals.setString, Locals.getObject,
      Locals.setObject, Dict.find?_insert_self]

theorem get_put_other (h : t' ≠ t ∨ name' ≠ name) (v : Value) (l : Locals) :
    t'.get (t.put name v l) name' = t'.get l name' := by
  unfold put
  split <;> cases t' <;> simp_all [get, Locals.getInt, Locals.setInt,
      Locals.getFloat, Locals.setFloat, Locals.getString, Locals.setString, Locals.getObject,
      Locals.setObject, Locals.getLocation, Locals.setLocation, Dict.find?_insert_of_ne]

theorem put_of_not_holds (h : t.holds v = false) (l : Locals) : t.put name v l = l := by
  unfold put
  split <;> simp_all [holds, Value.location?]

theorem get_delete_self (l : Locals) : t.get (t.delete name l) name = t.initial := by
  cases t <;> simp [delete, get, initial, Locals.getInt, Locals.deleteInt, Locals.getFloat,
    Locals.deleteFloat, Locals.getString, Locals.deleteString, Locals.getObject,
    Locals.deleteObject, Locals.getLocation, Locals.deleteLocation, Dict.find?_erase_self]

theorem get_delete_other (h : t' ≠ t ∨ name' ≠ name) (l : Locals) :
    t'.get (t.delete name l) name' = t'.get l name' := by
  cases t <;> cases t' <;> simp_all [delete, get, Locals.getInt, Locals.deleteInt, Locals.getFloat,
    Locals.deleteFloat, Locals.getString, Locals.deleteString, Locals.getObject,
    Locals.deleteObject, Locals.getLocation, Locals.deleteLocation, Dict.find?_erase_of_ne]

end LocalType

/-! ### The functions by name -/

/-- What a function does with a local variable. -/
inductive Access where
  | get
  | set
  | delete
  deriving DecidableEq, Repr

def accessOf? : String → Option (Access × LocalType)
  | "GetLocalInt" => some (.get, .int)
  | "GetLocalFloat" => some (.get, .float)
  | "GetLocalString" => some (.get, .string)
  | "GetLocalObject" => some (.get, .object)
  | "GetLocalLocation" => some (.get, .location)
  | "SetLocalInt" => some (.set, .int)
  | "SetLocalFloat" => some (.set, .float)
  | "SetLocalString" => some (.set, .string)
  | "SetLocalObject" => some (.set, .object)
  | "SetLocalLocation" => some (.set, .location)
  | "DeleteLocalInt" => some (.delete, .int)
  | "DeleteLocalFloat" => some (.delete, .float)
  | "DeleteLocalString" => some (.delete, .string)
  | "DeleteLocalObject" => some (.delete, .object)
  | "DeleteLocalLocation" => some (.delete, .location)
  | _ => none

def Builtin.access? : Builtin → Option (Access × LocalType)
  | .query (.localVariable t) => some (.get, t)
  | .change (.setLocal t) => some (.set, t)
  | .change (.deleteLocal t) => some (.delete, t)
  | _ => none

def Access.builtin (t : LocalType) : Access → Builtin
  | .get => .query (.localVariable t)
  | .set => .change (.setLocal t)
  | .delete => .change (.deleteLocal t)

theorem Builtin.eq_of_access {b : Builtin} {a : Access} {t : LocalType}
    (h : b.access? = some (a, t)) : b = a.builtin t := by
  unfold Builtin.access? at h
  split at h <;> cases h <;> rfl

theorem entries_access : ∀ e ∈ entries, e.handler.access? = accessOf? e.name := by
  decide +kernel

variable {c : CallContext} {t : LocalType} {w : World}

theorem access_of_admission {f : Callee} {args : List Value} {site : CallSite} {e : Entry Builtin}
    (h : f.admission table args site = .ok (e, c)) : accessOf? c.name = e.handler.access? := by
  obtain ⟨_, -, hfound, -⟩ := Callee.found_of_admission h
  rw [Callee.name_of_admission h]
  exact (entries_access e (List.mem_of_find?_eq_some hfound)).symm

/-! ### What the functions do -/

section Parameters

variable {h : Handle} {name : String} {v : Value} {rest : List Value}

theorem object_of_params (hp : c.params = .object h :: rest) : c.object 0 = .ok h := by
  simp only [CallContext.object, CallContext.param, hp]
  rfl

theorem name_of_params (hp : c.params = .object h :: .string name :: rest) :
    c.string 1 = .ok name := by
  simp only [CallContext.string, CallContext.param, hp]
  rfl

theorem perform_get (hp : c.params = .object h :: .string name :: rest) (t : LocalType) (w : World) :
    (Query.localVariable t).perform w c =
      .ok (t.get (ofObject w h .empty Object.locals) name) := by
  simp only [Query.perform, object_of_params hp, name_of_params hp]
  rfl

theorem perform_delete (hp : c.params = .object h :: .string name :: rest) (t : LocalType)
    (w : World) :
    (Change.deleteLocal t).perform w c = .ok (c.preset, updateLocals w h (t.delete name)) := by
  simp only [Change.perform, object_of_params hp, name_of_params hp]
  rfl

theorem setter_eq (hp : c.params = .object h :: .string name :: v :: rest)
    (hv : v.type = t.valueType) : t.setter c name = .ok (t.put name v) := by
  have hparam : c.param 2 = .ok v := by simp only [CallContext.param, hp]; rfl
  unfold LocalType.setter
  cases t with
  | int =>
    cases v with
    | int n => simp only [CallContext.int, hparam]; rfl
    | _ => cases hv
  | float =>
    cases v with
    | float x => simp only [CallContext.float, hparam]; rfl
    | _ => cases hv
  | string =>
    cases v with
    | string s => simp only [CallContext.string, hparam]; rfl
    | _ => cases hv
  | object =>
    cases v with
    | object a => simp only [CallContext.object, hparam]; rfl
    | _ => cases hv
  | location =>
    cases v with
    | engine e =>
      simp only [locationParam, hparam]
      cases e with
      | none => rfl
      | some e => cases e <;> rfl
    | _ => cases hv

theorem perform_set (hp : c.params = .object h :: .string name :: v :: rest)
    (hv : v.type = t.valueType) (w : World) :
    (Change.setLocal t).perform w c = .ok (c.preset, updateLocals w h (t.put name v)) := by
  simp only [Change.perform, object_of_params hp, name_of_params hp]
  show (t.setter c name >>= fun set => pure (c.preset, updateLocals w h set)) = _
  rw [setter_eq hp hv]
  rfl

end Parameters

/-! ### Calls by what they do with variables -/

/-- The variable that a call reads. -/
def readOf? (c : CallContext) : Option Variable :=
  match accessOf? c.name, c.params with
  | some (.get, t), .object h :: .string name :: _ => some ⟨h, t, name⟩
  | _, _ => none

/-- The variable that a call sets, with its new value, or the variable that it deletes. To set a
location variable to what is not a location is to do nothing. -/
def writeOf? (c : CallContext) : Option (Variable × Option Value) :=
  match accessOf? c.name, c.params with
  | some (.set, t), .object h :: .string name :: v :: _ =>
    if t.holds v then some (⟨h, t, name⟩, some v) else none
  | some (.delete, t), .object h :: .string name :: _ => some (⟨h, t, name⟩, none)
  | _, _ => none

/-- Gives a variable a value, or makes it hold nothing, and leaves the other variables of its
object. -/
structure Puts (v : Variable) (x : Option Value) (g : Locals → Locals) : Prop where
  self (l : Locals) : v.type.get (g l) v.name = x.getD v.type.initial
  other {t : LocalType} {name : String} (h : t ≠ v.type ∨ name ≠ v.name) (l : Locals) :
    t.get (g l) name = t.get l name

/-- What the handler of an admitted call does with variables. -/
inductive Handling (c : CallContext) : Builtin → Prop where
  | reads {v : Variable} (read : readOf? c = some v) (write : writeOf? c = none)
    (performs : ∀ w, (Query.localVariable v.type).perform w c =
      .ok (v.type.get (ofObject w v.object .empty Object.locals) v.name)) :
    Handling c (.query (.localVariable v.type))
  | writes {f : Change} {v : Variable} {x : Option Value} {g : Locals → Locals}
    (read : readOf? c = none) (write : writeOf? c = some (v, x)) (puts : Puts v x g)
    (performs : ∀ w, f.perform w c = .ok (c.preset, updateLocals w v.object g)) :
    Handling c (.change f)
  | declines {f : Change} {h : Handle} (read : readOf? c = none) (write : writeOf? c = none)
    (performs : ∀ w, f.perform w c = .ok (c.preset, updateLocals w h id)) : Handling c (.change f)
  | other {b : Builtin} (read : readOf? c = none) (write : writeOf? c = none)
    (access : accessOf? c.name = none) (aside : b.access? = none) : Handling c b

theorem params_of_types {params : List Value} {types : List ValueType} {type : ValueType}
    (h : type :: types <+: params.map Value.type) :
    ∃ v rest, params = v :: rest ∧ v.type = type ∧ types <+: rest.map Value.type := by
  cases params with
  | nil => cases List.prefix_nil.1 h
  | cons v rest =>
    obtain ⟨htype, hrest⟩ := List.cons_prefix_cons.1 h
    exact ⟨v, rest, rfl, htype.symm, hrest⟩

theorem named_of_provides {types : List ValueType} (h : Provides c (.object :: .string :: types)) :
    ∃ a name rest, c.params = .object a :: .string name :: rest ∧ types <+: rest.map Value.type := by
  obtain ⟨u, most, hparams, hobject, hmost⟩ := params_of_types h
  obtain ⟨v, rest, rfl, hstring, hrest⟩ := params_of_types hmost
  cases u with
  | object a =>
    cases v with
    | string name => exact ⟨a, name, rest, hparams, hrest⟩
    | _ => cases hstring
  | _ => cases hobject

theorem reads_of_access {f : Callee} {args : List Value} {site : CallSite} {e : Entry Builtin}
    (h : f.admission table args site = .ok (e, c)) (haccess : accessOf? c.name = some (.get, t)) :
    ∃ v, v.type = t ∧ readOf? c = some v := by
  have hprovides := provides_of_admission h
  rw [Builtin.eq_of_access ((access_of_admission h).symm.trans haccess)] at hprovides
  obtain ⟨a, name, rest, hparams, -⟩ := named_of_provides hprovides
  exact ⟨⟨a, t, name⟩, rfl, by simp [readOf?, haccess, hparams]⟩

theorem handling_of_admission {f : Callee} {args : List Value} {site : CallSite} {e : Entry Builtin}
    (h : f.admission table args site = .ok (e, c)) : Handling c e.handler := by
  have hprovides := provides_of_admission h
  have hname := access_of_admission h
  cases haccess : e.handler.access? with
  | none =>
    rw [haccess] at hname
    exact .other (by simp [readOf?, hname]) (by simp [writeOf?, hname]) hname haccess
  | some p =>
    obtain ⟨a, t⟩ := p
    rw [haccess] at hname
    rw [Builtin.eq_of_access haccess] at hprovides ⊢
    cases a with
    | get =>
      obtain ⟨a, name, rest, hparams, -⟩ := named_of_provides hprovides
      exact .reads (v := ⟨a, t, name⟩) (by simp [readOf?, hname, hparams])
        (by simp [writeOf?, hname]) (perform_get hparams t)
    | set =>
      obtain ⟨a, name, values, hparams, hvalues⟩ := named_of_provides hprovides
      obtain ⟨v, rest, rfl, htype, -⟩ := params_of_types hvalues
      have hperform := perform_set hparams htype
      cases hholds : t.holds v with
      | true =>
        refine .writes (v := ⟨a, t, name⟩) (x := some v) (by simp [readOf?, hname])
          (by simp [writeOf?, hname, hparams, hholds]) ⟨?_, ?_⟩ hperform
        · exact t.get_put_self htype hholds
        · exact fun h => t.get_put_other h v
      | false =>
        have hid : t.put name v = id := funext fun l => t.put_of_not_holds hholds l
        rw [hid] at hperform
        exact .declines (by simp [readOf?, hname]) (by simp [writeOf?, hname, hparams, hholds])
          hperform
    | delete =>
      obtain ⟨a, name, rest, hparams, -⟩ := named_of_provides hprovides
      refine .writes (v := ⟨a, t, name⟩) (x := none) (by simp [readOf?, hname])
        (by simp [writeOf?, hname, hparams]) ⟨?_, ?_⟩ (perform_delete hparams t)
      · exact LocalType.get_delete_self
      · exact LocalType.get_delete_other

/-! ### Everything else -/

theorem retains_speak (w : World) (speaker : Handle) (text : String) :
    Retains w (speak w speaker text) :=
  World.retains_of_registry (untouched_speak w speaker text).1.registry

theorem retains_perform {f : Change} (hf : (Builtin.change f).access? = none) (w : World)
    (c : CallContext) : Has (fun _ w' => Retains w w') (f.perform w c) := by
  have haside : ∀ {w' : World}, w'.registry = w.registry → Retains w w' :=
    World.retains_of_registry
  unfold Change.perform
  cases f with
  | print what => exact has_bind fun line _ => has_pure (haside rfl)
  | speak => exact has_bind fun text _ => has_pure (retains_speak w _ text)
  | setLocal type => cases hf
  | deleteLocal type => cases hf
  | setFacing =>
    exact has_bind fun facing _ => has_pure
      (World.retains_update w _ (fun o => (Object.alike_setFacing o _).kin.same) fun _ => rfl)
  | setFacingPoint =>
    exact has_bind fun target _ => has_pure
      (World.retains_update w _ (fun o => (Object.alike_setFacing o _).kin.same) fun _ => rfl)
  | setCommandable =>
    exact has_bind fun n _ => has_pure
      (World.retains_update w _ (fun o => (Object.alike_commandable o _).kin.same) fun _ => rfl)
  | clearActions => exact has_pure (haside rfl)
  | random => exact has_bind fun n _ => has_pure (haside (untouched_randomBelow w n).registry)
  | dice sides => exact has_bind fun n _ => has_pure (haside rfl)
  | firstInArea =>
    exact has_bind fun area _ => has_pure (haside (World.Untouched.firstInArea w _ area).registry)
  | nextInArea =>
    exact has_bind fun area _ => has_pure (haside (World.Untouched.nextInArea w _ area).registry)
  | startConversation =>
    exact has_bind fun pc _ => has_bind fun dialog _ =>
      has_pure (World.retains_startConversation w dialog pc _)
  | beginConversation =>
    refine has_bind fun other _ => ?_
    split
    exact has_bind fun dialog _ => has_pure (World.retains_startConversation w dialog _ _)
  | createObject =>
    refine has_bind fun n _ => has_bind fun template _ => has_bind fun place _ => ?_
    cases place with
    | none => exact has_pure (haside rfl)
    | some place =>
      refine has_bind fun tag _ => ?_
      have hcreated := World.retains_createObject w (ObjectType.ofScript n) template place tag
      split
      · rename_i h w' hw
        rw [hw] at hcreated
        exact has_pure hcreated
      · rename_i e w' hw
        rw [hw] at hcreated
        exact has_pure hcreated
  | destroyObject =>
    refine has_bind fun h _ => has_bind fun seconds _ => has_pure ?_
    split <;> exact haside rfl
  | setToken => exact has_bind fun n _ => has_bind fun text _ => has_pure (haside rfl)
  | assignCommand =>
    refine has_bind fun subject _ => has_bind fun state _ => has_pure ?_
    split <;> exact haside rfl
  | delayCommand => exact has_bind fun seconds _ => has_bind fun state _ => has_pure (haside rfl)
  | doCommand => exact has_bind fun state _ => has_pure (haside rfl)

/-! ### What calls do to a session -/

theorem updateLocals_id (w : World) (h : Handle) : updateLocals w h id = w := by
  have hsame : w.registry.update h (fun o => o) = w.registry := by
    unfold Registry.update
    split
    · simp only [ite_self, List.map_id']
    · rfl
  show { w with registry := w.registry.update h fun o => o } = w
  rw [hsame]

variable {σ : Type} {s : Session σ}

theorem perform_change {f : Change} {v : Value} {w' : World} (h : f.perform s.world c = .ok (v, w'))
    (run : Runner σ) : ((Builtin.change f).perform run c).ended s = .ok (.ok v) ∧
      ((Builtin.change f).perform run c).after s = { s with world := w' } := by
  show Except.ok (attempted (f.perform s.world c) s.world).1 = _ ∧
    { s with world := (attempted (f.perform s.world c) s.world).2 } = _
  rw [h]
  exact ⟨rfl, rfl⟩

theorem retains_plain {b : Builtin} (hplain : b.isDeed = false) (haside : b.access? = none)
    (run : Runner σ) (s : Session σ) : Retains s.world ((b.perform run c).after s).world := by
  cases b with
  | change f =>
    show Retains s.world (attempted (f.perform s.world c) s.world).2
    cases hperform : f.perform s.world c with
    | error t => exact .refl s.world.registry
    | ok p => exact retains_perform haside s.world c p.1 p.2 hperform
  | deed d => cases hplain
  | _ => exact .refl s.world.registry

theorem settled_read {f : Callee} {args : List Value} {site : CallSite} {e : Entry Builtin}
    (h : f.admission table args site = .ok (e, c)) {v : Variable} (hread : readOf? c = some v)
    (run : Runner σ) (s : Session σ) :
    settled run e c s = (((s.world.get? v.object).map fun o => v.type.get o.locals v.name).getD
      v.type.initial, none) := by
  have hreturns := (suits_of_admission h).returns
  have hhandling := handling_of_admission h
  generalize hb : e.handler = b at hhandling hreturns
  cases hhandling with
  | writes hnone => exact absurd (hnone.symm.trans hread) nofun
  | declines hnone => exact absurd (hnone.symm.trans hread) nofun
  | other hnone => exact absurd (hnone.symm.trans hread) nofun
  | @reads v hv _ performs =>
    obtain rfl := Option.some.inj (hv.symm.trans hread)
    have hended : (e.handler.perform run c).ended s =
        .ok (.ok (v.type.get (ofObject s.world v.object .empty Object.locals) v.name)) := by
      rw [hb]
      exact congrArg Except.ok (performs s.world)
    have hsound : (ending c (.ok (.ok
        (v.type.get (ofObject s.world v.object .empty Object.locals) v.name)))).Sound
          e.signature.ret := ⟨rfl, (v.type.get_type _ _).trans hreturns⟩
    unfold settled
    rw [hended, Entry.settle_of_sound hsound]
    unfold ofObject ending
    cases s.world.get? v.object with
    | none => exact congrArg (·, none) (v.type.get_empty v.name)
    | some o => rfl

end Adventure.Function

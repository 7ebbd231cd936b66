import Adventure.Function.Builtin
import Mathlib.Data.List.Forall2

/-!
# Admission of calls

Which calls a function table admits, what the handler of an admitted call is given, and which error
answers the others. Everything rests on one fact about tables as they come about by registering,
freezing and clearing: no function has more defaults than parameters, and the defaults have the
types of its last parameters.
-/

namespace Adventure

/-! ### Values where a type is declared -/

namespace Value

/-- May a value stand where `t` is declared? -/
def Fits (v : Value) (t : ValueType) : Prop := v.type = t ∨ v.type = .int ∧ t = .float

/-- What a value becomes where a type is declared: it stays itself at its own type, and a whole
number is widened to a float. -/
inductive Becomes : Value → ValueType → Value → Prop
  | same (v : Value) : Becomes v v.type v
  | widened (n : Int32) : Becomes (.int n) .float (.float n.toFloat32)

theorem Becomes.type_eq {v w : Value} {t : ValueType} (h : Becomes v t w) : w.type = t := by
  cases h with
  | same => rfl
  | widened n => rfl

theorem coerce_becomes {v w : Value} {t : ValueType} (h : Becomes v t w) : v.coerce t = .ok w := by
  cases h with
  | same => cases v <;> rfl
  | widened n => rfl

theorem becomes_of_fits {v : Value} {t : ValueType} (h : v.Fits t) : ∃ w, Becomes v t w := by
  rcases h with h | ⟨hv, ht⟩
  · subst h
    exact ⟨v, .same v⟩
  · subst ht
    cases v with
    | int n => exact ⟨.float n.toFloat32, .widened n⟩
    | _ => cases hv

theorem coerce_misfit {v : Value} {t : ValueType} (h : ¬ v.Fits t) :
    v.coerce t = .error (.mismatch t v.type) := by
  unfold coerce
  split
  · exact absurd (Or.inr ⟨rfl, rfl⟩) h
  · rw [if_neg fun ht => h (Or.inl ht)]

theorem becomes_of_coerce {v w : Value} {t : ValueType} (h : v.coerce t = .ok w) :
    Becomes v t w := by
  by_cases hf : v.Fits t
  · obtain ⟨u, hu⟩ := becomes_of_fits hf
    rw [coerce_becomes hu] at h
    cases h
    exact hu
  · rw [coerce_misfit hf] at h
    cases h

end Value

namespace Bridge

/-! ### Tables as they come about -/

inductive TableOp (α : Type) where
  | register (name : String) (id : Nat) (handler : α) (signature : Signature)
      (defaults : List Value)
  | freeze
  | clear

variable {α ε : Type}

/-- Does it; a registration that fails leaves the table as it is. -/
def Table.apply (t : Table α) : TableOp α → Table α
  | .register name id handler signature defaults =>
    match t.register name id handler signature defaults with
    | .ok t => t
    | .error _ => t
  | .freeze => t.freeze
  | .clear => t.clear

def Table.after (ops : List (TableOp α)) : Table α := ops.foldl Table.apply .empty

/-- The defaults belong to the last parameters and have their types. -/
structure Entry.WellTyped (e : Entry α) : Prop where
  fewDefaults : e.defaults.length ≤ e.signature.params.length
  types : e.defaults.map Value.type = e.signature.params.drop e.required

theorem checkDefaults_types (name : String) (index : Nat) (values : List Value)
    (types : List ValueType) (checked : List Value) (hl : values.length = types.length)
    (h : Table.checkDefaults name index values types = .ok checked) :
    checked.map Value.type = types := by
  induction values generalizing index types checked with
  | nil =>
    cases types with
    | nil =>
      simp only [Table.checkDefaults, Except.ok.injEq] at h
      subst h
      rfl
    | cons t types => simp at hl
  | cons v values ih =>
    cases types with
    | nil => simp at hl
    | cons t types =>
      simp only [Table.checkDefaults] at h
      cases hv : v.coerce t with
      | error e => rw [hv] at h; cases h
      | ok w =>
        cases hr : Table.checkDefaults name (index + 1) values types with
        | error e => rw [hv, hr] at h; cases h
        | ok rest =>
          rw [hv, hr] at h
          cases h
          have htail := ih (index + 1) types rest (by simpa using hl) hr
          have hw : w.type = t := (Value.becomes_of_coerce hv).type_eq
          rw [List.map_cons, hw, htail]

theorem mem_insertEntry (e a : Entry α) (entries : List (Entry α)) :
    a ∈ Table.insertEntry e entries ↔ a = e ∨ a ∈ entries := by
  induction entries with
  | nil => simp [Table.insertEntry]
  | cons b rest ih =>
    simp only [Table.insertEntry]
    split
    · simp
    · simp only [List.mem_cons, ih]
      tauto

theorem register_entries {t t' : Table α} {name : String} {id : Nat} {handler : α}
    {signature : Signature} {defaults : List Value}
    (h : t.register name id handler signature defaults = .ok t') :
    ∃ e : Entry α, e.WellTyped ∧ t'.entries = Table.insertEntry e t.entries := by
  unfold Table.register at h
  split at h
  · cases h
  · split at h
    · cases h
    · split at h
      · cases h
      · simp only at h
        split at h
        · cases h
        · rename_i hfew
          split at h
          · cases h
          · rename_i checked hc
            cases h
            refine ⟨⟨id, name, signature, checked, handler⟩, ?_, rfl⟩
            have hl : defaults.length =
                (signature.params.drop (signature.params.length - defaults.length)).length := by
              rw [List.length_drop]
              omega
            have ht := checkDefaults_types _ _ _ _ _ hl hc
            have hn : checked.length = defaults.length := by
              have hm := congrArg List.length ht
              rw [List.length_map, ← hl] at hm
              exact hm
            refine ⟨by simp only [hn]; omega, ?_⟩
            simp only [Entry.required, hn]
            exact ht

theorem apply_wellTyped (t : Table α) (op : TableOp α) (h : ∀ e ∈ t.entries, e.WellTyped) :
    ∀ e ∈ (t.apply op).entries, e.WellTyped := by
  cases op with
  | register name id handler signature defaults =>
    simp only [Table.apply]
    cases hr : t.register name id handler signature defaults with
    | error err => exact h
    | ok t' =>
      obtain ⟨e, he, hents⟩ := register_entries hr
      intro a ha
      simp only at ha
      rw [hents, mem_insertEntry] at ha
      rcases ha with rfl | ha
      · exact he
      · exact h a ha
  | freeze => exact h
  | clear =>
    intro e he
    cases he

theorem after_wellTyped (ops : List (TableOp α)) : ∀ e ∈ (Table.after ops).entries, e.WellTyped := by
  have hrun : ∀ (ops : List (TableOp α)) (t : Table α), (∀ e ∈ t.entries, e.WellTyped) →
      ∀ e ∈ (ops.foldl Table.apply t).entries, e.WellTyped := by
    intro ops
    induction ops with
    | nil => exact fun t h => h
    | cons op ops ih => exact fun t h => ih (t.apply op) (apply_wellTyped t op h)
  exact hrun ops .empty fun e he => by cases he

theorem find?_wellTyped {ops : List (TableOp α)} {id : Nat} {e : Entry α}
    (h : (Table.after ops).find? id = some e) : e.WellTyped :=
  after_wellTyped ops e (List.mem_of_find?_eq_some h)

/-! ### Arguments at the declared types -/

/-- Do the arguments fit the parameters they belong to? -/
def Fit (args : List Value) (types : List ValueType) : Prop :=
  ∀ (k : Nat) (v : Value) (t : ValueType), args[k]? = some v → types[k]? = some t → v.Fits t

/-- Argument number `k`, a `v` where a `t` is declared, is the first that does not fit. -/
structure FirstMisfit (args : List Value) (types : List ValueType) (k : Nat) (v : Value)
    (t : ValueType) : Prop where
  arg : args[k]? = some v
  param : types[k]? = some t
  misfit : ¬ v.Fits t
  before : ∀ j < k, ∀ (u : Value) (s : ValueType),
    args[j]? = some u → types[j]? = some s → u.Fits s

theorem fit_cons {v : Value} {t : ValueType} {args : List Value} {types : List ValueType} :
    Fit (v :: args) (t :: types) ↔ v.Fits t ∧ Fit args types := by
  constructor
  · intro h
    exact ⟨h 0 v t rfl rfl, fun k u s hu hs => h (k + 1) u s hu hs⟩
  · rintro ⟨hv, hargs⟩ k u s hu hs
    cases k with
    | zero =>
      cases hu
      cases hs
      exact hv
    | succ k => exact hargs k u s hu hs

theorem firstMisfit_succ {v : Value} {t : ValueType} {args : List Value} {types : List ValueType}
    {k : Nat} {u : Value} {s : ValueType} (hv : v.Fits t) (h : FirstMisfit args types k u s) :
    FirstMisfit (v :: args) (t :: types) (k + 1) u s := by
  refine ⟨h.arg, h.param, h.misfit, ?_⟩
  intro j hj w r hw hr
  cases j with
  | zero =>
    cases hw
    cases hr
    exact hv
  | succ j => exact h.before j (by omega) w r hw hr

theorem fit_or_firstMisfit (args : List Value) (types : List ValueType) :
    Fit args types ∨ ∃ k v t, FirstMisfit args types k v t := by
  induction args generalizing types with
  | nil => exact Or.inl fun k v t hv _ => by simp at hv
  | cons v args ih =>
    cases types with
    | nil => exact Or.inl fun k u t _ ht => by simp at ht
    | cons t types =>
      by_cases hv : v.Fits t
      · rcases ih types with hfit | ⟨k, u, s, hmis⟩
        · exact Or.inl (fit_cons.2 ⟨hv, hfit⟩)
        · exact Or.inr ⟨k + 1, u, s, firstMisfit_succ hv hmis⟩
      · exact Or.inr ⟨0, v, t, rfl, rfl, hv, fun j hj => by omega⟩

/-- The supplied arguments at the types of the parameters they belong to. -/
abbrev Coerced (args : List Value) (types : List ValueType) (coerced : List Value) : Prop :=
  List.Forall₂ (fun p w => Value.Becomes p.1 p.2 w) (args.zip types) coerced

theorem coerced_types {args coerced : List Value} {types : List ValueType}
    (hl : args.length ≤ types.length) (h : Coerced args types coerced) :
    coerced.map Value.type = types.take args.length := by
  induction args generalizing types coerced with
  | nil =>
    cases h
    rfl
  | cons v args ih =>
    cases types with
    | nil => simp at hl
    | cons t types =>
      cases h with
      | cons hv hrest =>
        rw [List.map_cons, hv.type_eq, ih (by simpa using hl) hrest]
        rfl

theorem coerceArguments_of_fit (name : String) (index : Nat) {args : List Value}
    {types : List ValueType} (hl : args.length ≤ types.length) (h : Fit args types) :
    ∃ coerced, Coerced args types coerced ∧
      coerceArguments name index args types = .ok coerced := by
  induction args generalizing index types with
  | nil => exact ⟨[], .nil, by simp only [coerceArguments]⟩
  | cons v args ih =>
    cases types with
    | nil => simp at hl
    | cons t types =>
      obtain ⟨hv, hargs⟩ := fit_cons.1 h
      obtain ⟨w, hw⟩ := Value.becomes_of_fits hv
      obtain ⟨rest, hrest, hok⟩ := ih (index + 1) (by simpa using hl) hargs
      refine ⟨w :: rest, .cons hw hrest, ?_⟩
      simp only [coerceArguments, Value.coerce_becomes hw, hok]

theorem coerceArguments_of_misfit (name : String) (index : Nat) {args : List Value}
    {types : List ValueType} {k : Nat} {v : Value} {t : ValueType}
    (h : FirstMisfit args types k v t) :
    coerceArguments name index args types =
      .error (.parameterType name (index + k) (.mismatch t v.type)) := by
  induction k generalizing index args types with
  | zero =>
    obtain ⟨args, rfl⟩ : ∃ rest, args = v :: rest := by
      cases args with
      | nil => cases h.arg
      | cons u rest =>
        cases h.arg
        exact ⟨rest, rfl⟩
    obtain ⟨types, rfl⟩ : ∃ rest, types = t :: rest := by
      cases types with
      | nil => cases h.param
      | cons s rest =>
        cases h.param
        exact ⟨rest, rfl⟩
    simp only [coerceArguments, Value.coerce_misfit h.misfit, Nat.add_zero]
  -- The first argument fits, so the misfit of the others is one place nearer.
  | succ k ih =>
    cases args with
    | nil => cases h.arg
    | cons u args =>
      cases types with
      | nil => cases h.param
      | cons s types =>
        obtain ⟨w, hw⟩ := Value.becomes_of_fits (h.before 0 (by omega) u s rfl rfl)
        have hrest : FirstMisfit args types k v t :=
          ⟨h.arg, h.param, h.misfit,
            fun j hj => h.before (j + 1) (by omega)⟩
        have hi : index + (k + 1) = index + 1 + k := by omega
        simp only [coerceArguments, Value.coerce_becomes hw, ih (index + 1) hrest, hi]

/-! ### The context of an admitted call -/

/-- What the handler of an entry is given when it is called with these arguments: one value for each
declared parameter, the supplied arguments first and then as many of the last defaults as there are
parameters left. -/
structure Entry.Prepares (e : Entry α) (id : Nat) (args : List Value) (site : CallSite)
    (c : CallContext) : Prop where
  id : c.id = id
  name : c.name = e.name
  site : c.site = site
  specified : c.specified = args.length
  slot : c.preset = .default e.signature.ret
  types : c.params.map Value.type = e.signature.params
  /-- There are enough defaults for the parameters left. -/
  enough : e.maximum - args.length ≤ e.defaults.length
  params : ∃ coerced, Coerced args e.signature.params coerced ∧
    c.params = coerced ++ e.defaults.drop (e.defaults.length - (e.maximum - args.length))

theorem fill_of_fit {e : Entry α} (he : e.WellTyped) {args : List Value} (site : CallSite)
    (hlow : e.required ≤ args.length) (hhigh : args.length ≤ e.maximum)
    (hfit : Fit args e.signature.params) :
    ∃ params, e.fill args = .ok params ∧
      e.Prepares e.id args site (e.context params args.length site) := by
  obtain ⟨coerced, hc, hok⟩ := coerceArguments_of_fit e.name 0 hhigh hfit
  have hfew := he.fewDefaults
  have hdrop : args.length - e.required = e.defaults.length - (e.maximum - args.length) := by
    unfold Entry.required Entry.maximum at *
    omega
  refine ⟨coerced ++ e.defaults.drop (args.length - e.required), ?_, ?_⟩
  · have h1 : ¬ args.length < e.required := by omega
    have h2 : ¬ e.maximum < args.length := by omega
    simp only [Entry.fill, if_neg h1, if_neg h2, hok]
  · refine ⟨rfl, rfl, rfl, rfl, rfl, ?_, ?_, coerced, hc, by rw [← hdrop]; rfl⟩
    · show (coerced ++ e.defaults.drop (args.length - e.required)).map Value.type =
        e.signature.params
      have hsum : e.required + (args.length - e.required) = args.length := by omega
      rw [List.map_append, List.map_drop, he.types, coerced_types hhigh hc, List.drop_drop, hsum,
        List.take_append_drop]
    · unfold Entry.required Entry.maximum at *
      omega

/-! ### Which calls are admitted, and how the others are answered -/

/-- The call is admitted: the function is registered, the number of arguments is right, and each of
them fits its parameter. -/
def Table.Admits (t : Table α) (id : Nat) (args : List Value) : Prop :=
  ∃ e, t.find? id = some e ∧ e.required ≤ args.length ∧ args.length ≤ e.maximum ∧
    Fit args e.signature.params

/-- The error that answers a call; each rule stands behind the ones before it. -/
inductive Table.Refuses (t : Table α) (id : Nat) (args : List Value) : CallError → Prop
  | unknown : t.find? id = none → Refuses t id args (.unknownFunction id)
  | tooFew {e : Entry α} : t.find? id = some e → args.length < e.required →
      Refuses t id args (.insufficientArguments e.name e.required args.length)
  | tooMany {e : Entry α} : t.find? id = some e → e.required ≤ args.length →
      e.maximum < args.length →
      Refuses t id args (.tooManyArguments e.name e.maximum args.length)
  | mistyped {e : Entry α} {k : Nat} {v : Value} {type : ValueType} : t.find? id = some e →
      e.required ≤ args.length → args.length ≤ e.maximum →
      FirstMisfit args e.signature.params k v type →
      Refuses t id args (.parameterType e.name k (.mismatch type v.type))

theorem admits_or_refuses (t : Table α) (id : Nat) (args : List Value) :
    t.Admits id args ∨ ∃ err, t.Refuses id args err := by
  cases he : t.find? id with
  | none => exact Or.inr ⟨_, .unknown he⟩
  | some e =>
    by_cases hlow : args.length < e.required
    · exact Or.inr ⟨_, .tooFew he hlow⟩
    · by_cases hhigh : e.maximum < args.length
      · exact Or.inr ⟨_, .tooMany he (by omega) hhigh⟩
      · rcases fit_or_firstMisfit args e.signature.params with hfit | ⟨k, v, type, hmis⟩
        · exact Or.inl ⟨e, he, by omega, by omega, hfit⟩
        · exact Or.inr ⟨_, .mistyped he (by omega) (by omega) hmis⟩

theorem call_of_refuses (perform : α → Handler ε) {t : Table α} (engine : ε) {id : Nat}
    {args : List Value} (site : CallSite) {err : CallError} (h : t.Refuses id args err) :
    t.call perform engine id args site = .error err := by
  cases h with
  | unknown he => simp only [Table.call, he]
  | tooFew he hlow => simp only [Table.call, he, Entry.fill, if_pos hlow]
  | tooMany he hlow hhigh =>
    have h1 := Nat.not_lt.2 hlow
    simp only [Table.call, he, Entry.fill, if_neg h1, if_pos hhigh]
  | @mistyped e k v type he hlow hhigh hmis =>
    have h1 := Nat.not_lt.2 hlow
    have h2 := Nat.not_lt.2 hhigh
    have hc := coerceArguments_of_misfit e.name 0 hmis
    rw [Nat.zero_add] at hc
    simp only [Table.call, he, Entry.fill, if_neg h1, if_neg h2, hc]

/-- A call that is admitted runs the handler of its function once and settles what it answered. -/
theorem call_of_wellTyped (perform : α → Handler ε) {t : Table α}
    (ht : ∀ id e, t.find? id = some e → e.WellTyped) (engine : ε) {id : Nat} {args : List Value}
    (site : CallSite) (h : t.Admits id args) :
    ∃ e c, t.find? id = some e ∧ e.Prepares id args site c ∧
      t.call perform engine id args site =
        .ok ⟨(e.settle (perform e.handler c engine).1).1, (e.settle (perform e.handler c engine).1).2,
          (perform e.handler c engine).2⟩ := by
  obtain ⟨e, he, hlow, hhigh, hfit⟩ := h
  obtain ⟨params, hfill, hprep⟩ := fill_of_fit (ht id e he) site hlow hhigh hfit
  have hid : e.id = id := by simpa using List.find?_some he
  rw [hid] at hprep
  exact ⟨e, _, he, hprep, by simp only [Table.call, he, hfill]⟩

theorem call_of_admits (perform : α → Handler ε) {ops : List (TableOp α)} (engine : ε) {id : Nat}
    {args : List Value} (site : CallSite) (h : (Table.after ops).Admits id args) :
    ∃ e c, (Table.after ops).find? id = some e ∧ e.Prepares id args site c ∧
      (Table.after ops).call perform engine id args site =
        .ok ⟨(e.settle (perform e.handler c engine).1).1, (e.settle (perform e.handler c engine).1).2,
          (perform e.handler c engine).2⟩ :=
  call_of_wellTyped perform (fun _ _ he => find?_wellTyped he) engine site h

/-! ### Calls from outside -/

/-- Notes every run of a handler: which one, and what it was given. -/
def recording (perform : α → Handler ε) : α → Handler (ε × List (α × CallContext)) :=
  fun handler c engine =>
    let (ending, after) := perform handler c engine.1
    (ending, after, engine.2 ++ [(handler, c)])

/-- A call together with the engine it leaves behind; without a reply that is the engine from
before. -/
def Table.transact (perform : α → Handler ε) (t : Table α) (id : Nat) (args : List Value)
    (site : CallSite) (engine : ε) : Except CallError (Value × Option Fault) × ε :=
  match t.call perform engine id args site with
  | .ok reply => (.ok (reply.value, reply.fault), reply.engine)
  | .error err => (.error err, engine)

/-- Calls on tables as they come about. A call is admitted exactly when its function is registered,
the number of arguments lies between the required and the declared one, and every argument fits.
Then the handler runs once, on the prepared context. Otherwise the first error that applies is
answered, no handler runs and the engine stays as it is. -/
theorem call_admission (ops : List (TableOp α)) (perform : α → Handler ε) (engine : ε) (id : Nat)
    (args : List Value) (site : CallSite) :
    ((∃ reply, (Table.after ops).call perform engine id args site = .ok reply) ↔
      (Table.after ops).Admits id args) ∧
    (∀ err, (Table.after ops).call perform engine id args site = .error err ↔
      (Table.after ops).Refuses id args err) ∧
    ((Table.after ops).Admits id args → ∃ e c,
      (Table.after ops).find? id = some e ∧ e.Prepares id args site c ∧
      (Table.after ops).transact (recording perform) id args site (engine, []) =
        (.ok (e.settle (perform e.handler c engine).1),
          (perform e.handler c engine).2, [(e.handler, c)])) ∧
    (∀ err, (Table.after ops).Refuses id args err →
      (Table.after ops).transact (recording perform) id args site (engine, []) =
        (.error err, engine, [])) := by
  have hok : (Table.after ops).Admits id args →
      ∃ reply, (Table.after ops).call perform engine id args site = .ok reply := by
    intro h
    obtain ⟨e, c, -, -, hcall⟩ := call_of_admits perform engine site h
    exact ⟨_, hcall⟩
  refine ⟨⟨?_, hok⟩, fun err => ⟨?_, call_of_refuses perform engine site⟩, ?_, ?_⟩
  · rintro ⟨reply, hr⟩
    rcases admits_or_refuses (Table.after ops) id args with h | ⟨err, h⟩
    · exact h
    · rw [call_of_refuses perform engine site h] at hr
      cases hr
  · intro hr
    rcases admits_or_refuses (Table.after ops) id args with h | ⟨err', h⟩
    · obtain ⟨reply, hreply⟩ := hok h
      rw [hreply] at hr
      cases hr
    · rw [call_of_refuses perform engine site h] at hr
      cases hr
      exact h
  · intro h
    obtain ⟨e, c, he, hprep, hcall⟩ := call_of_admits (recording perform) (engine, []) site h
    refine ⟨e, c, he, hprep, ?_⟩
    simp only [Table.transact, hcall, recording, List.nil_append]
  · intro err h
    simp only [Table.transact, call_of_refuses (recording perform) (engine, []) site h]

end Bridge

end Adventure

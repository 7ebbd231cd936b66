import Adventure.Proofs.Bridge.Admission

/-!
# Registration

The two indices of a function table, over every sequence of registering, freezing and clearing: the
functions by number and the numbers by name say the same. A registration is answered by the first
rule it breaks, and then it leaves no trace; a frozen table stays as it is until it is cleared.
-/

namespace Adventure.Bridge

variable {α : Type}

/-! ### The defaults of a registration -/

theorem checkDefaults_of_coerced {name : String} {index : Nat} {values checked : List Value}
    {types : List ValueType} (h : coerceArguments name index values types = .ok checked) :
    Table.checkDefaults name index values types = .ok checked := by
  induction values generalizing index types checked with
  | nil =>
    simp only [coerceArguments, Except.ok.injEq] at h
    simp only [Table.checkDefaults, h]
  | cons v values ih =>
    cases types with
    | nil =>
      simp only [coerceArguments, Except.ok.injEq] at h
      simp only [Table.checkDefaults, h]
    | cons t types =>
      simp only [coerceArguments] at h
      cases hv : v.coerce t with
      | error e => rw [hv] at h; cases h
      | ok w =>
        cases hr : coerceArguments name (index + 1) values types with
        | error e => rw [hv, hr] at h; cases h
        | ok rest =>
          have hrest := ih hr
          rw [hv, hr] at h
          cases h
          simp only [Table.checkDefaults, hv, hrest]

theorem checkDefaults_of_mismatch {name : String} {index k : Nat} {values : List Value}
    {types : List ValueType} {t found : ValueType}
    (h : coerceArguments name index values types =
      .error (.parameterType name k (.mismatch t found))) :
    Table.checkDefaults name index values types = .error (.defaultType name k t found) := by
  induction values generalizing index types with
  | nil => simp only [coerceArguments] at h; cases h
  | cons v values ih =>
    cases types with
    | nil => simp only [coerceArguments] at h; cases h
    | cons u types =>
      by_cases hv : v.Fits u
      · obtain ⟨w, hw⟩ := Value.becomes_of_fits hv
        have hc : v.coerce u = .ok w := Value.coerce_becomes hw
        simp only [coerceArguments, hc] at h
        cases hr : coerceArguments name (index + 1) values types with
        | ok rest => rw [hr] at h; cases h
        | error e =>
          rw [hr] at h
          cases h
          simp only [Table.checkDefaults, hc, ih hr]
      · have hc : v.coerce u = .error (.mismatch u v.type) := Value.coerce_misfit hv
        simp only [coerceArguments, hc] at h
        cases h
        simp only [Table.checkDefaults, hc]

/-! ### The two indices -/

/-- The functions stand in ascending order of their numbers, no name is indexed twice, and the index
has the names of the functions and no others. -/
structure Table.Consistent (t : Table α) : Prop where
  ascending : t.entries.Pairwise fun a b => a.id < b.id
  once : (t.numbers.map Prod.fst).Nodup
  agree : ∀ name id, (name, id) ∈ t.numbers ↔ ∃ e ∈ t.entries, e.id = id ∧ e.name = name

theorem find?_iff_of_ascending {entries : List (Entry α)}
    (hp : entries.Pairwise fun a b => a.id < b.id) {id : Nat} {e : Entry α} :
    entries.find? (fun a => a.id = id) = some e ↔ e ∈ entries ∧ e.id = id := by
  induction entries with
  | nil => simp
  | cons a entries ih =>
    obtain ⟨hlt, hp⟩ := List.pairwise_cons.1 hp
    by_cases ha : a.id = id
    · rw [List.find?_cons_of_pos (by simpa using ha), Option.some.injEq]
      constructor
      · rintro rfl
        exact ⟨List.mem_cons_self, ha⟩
      · rintro ⟨hm, he⟩
        rcases List.mem_cons.1 hm with rfl | hm
        · rfl
        · have hl := hlt e hm
          omega
    · have hne : e.id = id → e ≠ a := fun he hea => ha (hea ▸ he)
      rw [List.find?_cons_of_neg (by simpa using ha), ih hp]
      constructor
      · rintro ⟨hm, he⟩
        exact ⟨List.mem_cons_of_mem a hm, he⟩
      · rintro ⟨hm, he⟩
        exact ⟨(List.mem_cons.1 hm).resolve_left (hne he), he⟩

theorem lookup_iff_of_nodup {numbers : List (String × Nat)} (hn : (numbers.map Prod.fst).Nodup)
    {name : String} {id : Nat} : numbers.lookup name = some id ↔ (name, id) ∈ numbers := by
  induction numbers with
  | nil => simp
  | cons p numbers ih =>
    obtain ⟨other, n⟩ := p
    rw [List.map_cons, List.nodup_cons] at hn
    by_cases he : name = other
    · subst he
      have hfresh : (name, id) ∉ numbers := fun hm =>
        hn.1 (List.mem_map.2 ⟨_, hm, rfl⟩)
      simp [hfresh, eq_comm]
    · have hb : (name == other) = false := by simpa using he
      simp [List.lookup_cons, hb, he, ih hn.2]

namespace Table.Consistent

variable {t : Table α}

theorem find?_iff (h : t.Consistent) {id : Nat} {e : Entry α} :
    t.find? id = some e ↔ e ∈ t.entries ∧ e.id = id := find?_iff_of_ascending h.ascending

theorem findByName?_iff (h : t.Consistent) {name : String} {id : Nat} :
    t.findByName? name = some id ↔ (name, id) ∈ t.numbers := lookup_iff_of_nodup h.once

theorem inverse (h : t.Consistent) (name : String) (id : Nat) :
    t.findByName? name = some id ↔ ∃ e, t.find? id = some e ∧ e.name = name := by
  rw [h.findByName?_iff, h.agree]
  constructor
  · rintro ⟨e, hm, hid, hname⟩
    exact ⟨e, h.find?_iff.2 ⟨hm, hid⟩, hname⟩
  · rintro ⟨e, he, hname⟩
    have hm := h.find?_iff.1 he
    exact ⟨e, hm.1, hm.2, hname⟩

theorem name_unique (h : t.Consistent) {i j : Nat} {e f : Entry α} (he : t.find? i = some e)
    (hf : t.find? j = some f) (hn : e.name = f.name) : i = j ∧ e = f := by
  have hi := (h.inverse e.name i).2 ⟨e, he, rfl⟩
  have hj := (h.inverse e.name j).2 ⟨f, hf, hn.symm⟩
  have hij : i = j := Option.some.inj (hi.symm.trans hj)
  subst hij
  exact ⟨rfl, Option.some.inj (he.symm.trans hf)⟩

end Table.Consistent

/-! ### One registration -/

/-- Why a registration is rejected; each rule stands behind the ones before it. -/
inductive Table.Rejects (t : Table α) (name : String) (id : Nat) (signature : Signature)
    (defaults : List Value) : RegistrationError → Prop
  | frozen : t.frozen = true → Rejects t name id signature defaults (.frozen name)
  | duplicateId {e : Entry α} : t.frozen = false → t.find? id = some e →
      Rejects t name id signature defaults (.duplicateId id e.name)
  | duplicateName {other : Nat} : t.frozen = false → t.find? id = none →
      t.findByName? name = some other → Rejects t name id signature defaults (.duplicateName name)
  | tooManyDefaults : t.frozen = false → t.find? id = none → t.findByName? name = none →
      signature.params.length < defaults.length →
      Rejects t name id signature defaults
        (.tooManyDefaults name defaults.length signature.params.length)
  | defaultType {k : Nat} {v : Value} {type : ValueType} : t.frozen = false →
      t.find? id = none → t.findByName? name = none →
      defaults.length ≤ signature.params.length →
      FirstMisfit defaults (signature.params.drop (signature.params.length - defaults.length))
        k v type →
      Rejects t name id signature defaults
        (.defaultType name (signature.params.length - defaults.length + k) type v.type)

/-- The registration breaks no rule, and `t'` has the new function beside those of `t`. -/
structure Table.Accepts (t : Table α) (name : String) (id : Nat) (handler : α)
    (signature : Signature) (defaults : List Value) (t' : Table α) : Prop where
  unfrozen : t.frozen = false
  freshId : t.find? id = none
  freshName : t.findByName? name = none
  added : ∃ checked,
    Coerced defaults (signature.params.drop (signature.params.length - defaults.length)) checked ∧
    t' = ⟨insertEntry ⟨id, name, signature, checked, handler⟩ t.entries, (name, id) :: t.numbers,
      false⟩

section

variable {t t' : Table α} {name : String} {id : Nat} {handler : α} {signature : Signature}
  {defaults : List Value}

theorem register_of_rejects {err : RegistrationError}
    (h : t.Rejects name id signature defaults err) :
    t.register name id handler signature defaults = .error err := by
  cases h with
  | frozen hf => simp only [Table.register, hf, if_true]
  | duplicateId hf he => simp only [Table.register, hf, he, Bool.false_eq_true, if_false]
  | duplicateName hf hid hn =>
    simp only [Table.register, hf, hid, hn, Bool.false_eq_true, if_false, Option.isSome_some,
      if_true]
  | tooManyDefaults hf hid hn hmany =>
    simp only [Table.register, hf, hid, hn, Bool.false_eq_true, if_false, Option.isSome_none,
      if_pos hmany]
  | @defaultType k v type hf hid hn hfew hmis =>
    have hle := Nat.not_lt.2 hfew
    have hc := checkDefaults_of_mismatch (coerceArguments_of_misfit name
      (signature.params.length - defaults.length) hmis)
    simp only [Table.register, hf, hid, hn, Bool.false_eq_true, if_false, Option.isSome_none,
      if_neg hle, hc]

theorem rejects_or_accepts (t : Table α) (name : String) (id : Nat) (handler : α)
    (signature : Signature) (defaults : List Value) :
    (∃ err, t.Rejects name id signature defaults err) ∨
      ∃ t', t.Accepts name id handler signature defaults t' ∧
        t.register name id handler signature defaults = .ok t' := by
  cases hf : t.frozen with
  | true => exact Or.inl ⟨_, .frozen hf⟩
  | false =>
    cases hid : t.find? id with
    | some e => exact Or.inl ⟨_, .duplicateId hf hid⟩
    | none =>
      cases hn : t.findByName? name with
      | some other => exact Or.inl ⟨_, .duplicateName hf hid hn⟩
      | none =>
        by_cases hmany : signature.params.length < defaults.length
        · exact Or.inl ⟨_, .tooManyDefaults hf hid hn hmany⟩
        · have hfew : defaults.length ≤ signature.params.length := Nat.not_lt.1 hmany
          rcases fit_or_firstMisfit defaults
            (signature.params.drop (signature.params.length - defaults.length)) with
            hfit | ⟨k, v, type, hmis⟩
          · have hlen : defaults.length ≤
                (signature.params.drop (signature.params.length - defaults.length)).length := by
              rw [List.length_drop]
              omega
            obtain ⟨checked, hc, hok⟩ := coerceArguments_of_fit name
              (signature.params.length - defaults.length) hlen hfit
            have hcheck := checkDefaults_of_coerced hok
            refine Or.inr ⟨_, ⟨hf, hid, hn, checked, hc, rfl⟩, ?_⟩
            simp only [Table.register, hf, hid, hn, Bool.false_eq_true, if_false,
              Option.isSome_none, if_neg hmany, hcheck]
          · exact Or.inl ⟨_, .defaultType hf hid hn hfew hmis⟩

theorem rejects_of_register {err : RegistrationError}
    (h : t.register name id handler signature defaults = .error err) :
    t.Rejects name id signature defaults err := by
  rcases rejects_or_accepts t name id handler signature defaults with ⟨e, hr⟩ | ⟨t', -, hok⟩
  · rw [register_of_rejects hr] at h
    cases h
    exact hr
  · rw [hok] at h
    cases h

theorem accepts_of_register (h : t.register name id handler signature defaults = .ok t') :
    t.Accepts name id handler signature defaults t' := by
  rcases rejects_or_accepts t name id handler signature defaults with ⟨e, hr⟩ | ⟨u, ha, hok⟩
  · rw [register_of_rejects hr] at h
    cases h
  · rw [hok] at h
    cases h
    exact ha

end

/-! ### What a sequence of operations keeps -/

theorem pairwise_insertEntry {e : Entry α} {entries : List (Entry α)}
    (h : entries.Pairwise fun a b => a.id < b.id) (hfresh : ∀ a ∈ entries, a.id ≠ e.id) :
    (Table.insertEntry e entries).Pairwise fun a b => a.id < b.id := by
  induction entries with
  | nil => simp [Table.insertEntry]
  | cons a rest ih =>
    obtain ⟨hlt, hp⟩ := List.pairwise_cons.1 h
    simp only [Table.insertEntry]
    split
    · rename_i hea
      refine List.pairwise_cons.2 ⟨?_, h⟩
      intro b hb
      rcases List.mem_cons.1 hb with rfl | hb
      · exact hea
      · have hab := hlt b hb
        omega
    · rename_i hea
      have hae : a.id < e.id := by
        have hne := hfresh a List.mem_cons_self
        omega
      refine List.pairwise_cons.2 ⟨?_, ih hp fun b hb => hfresh b (List.mem_cons_of_mem a hb)⟩
      intro b hb
      rcases (mem_insertEntry e b rest).1 hb with rfl | hb
      · exact hae
      · exact hlt b hb

theorem consistent_empty : (Table.empty : Table α).Consistent :=
  ⟨.nil, .nil, fun name id => by simp [Table.empty]⟩

theorem Table.Accepts.consistent {t t' : Table α} {name : String} {id : Nat} {handler : α}
    {signature : Signature} {defaults : List Value}
    (h : t.Accepts name id handler signature defaults t') (ht : t.Consistent) : t'.Consistent := by
  obtain ⟨checked, -, rfl⟩ := h.added
  have hid : ∀ a ∈ t.entries, a.id ≠ id := by
    intro a ha he
    have hfound := ht.find?_iff.2 ⟨ha, he⟩
    rw [h.freshId] at hfound
    cases hfound
  have hname : name ∉ t.numbers.map Prod.fst := by
    intro hm
    obtain ⟨p, hp, rfl⟩ := List.mem_map.1 hm
    have hfound := ht.findByName?_iff.2 hp
    rw [h.freshName] at hfound
    cases hfound
  refine ⟨pairwise_insertEntry ht.ascending hid, List.nodup_cons.2 ⟨hname, ht.once⟩, ?_⟩
  intro n i
  rw [List.mem_cons, ht.agree]
  constructor
  · rintro (hnew | ⟨e, he, hold⟩)
    · cases hnew
      exact ⟨_, (mem_insertEntry _ _ _).2 (Or.inl rfl), rfl, rfl⟩
    · exact ⟨e, (mem_insertEntry _ _ _).2 (Or.inr he), hold⟩
  · rintro ⟨e, he, hold⟩
    rcases (mem_insertEntry _ _ _).1 he with rfl | he
    · obtain ⟨rfl, rfl⟩ := hold
      exact Or.inl rfl
    · exact Or.inr ⟨e, he, hold⟩

theorem Table.Accepts.shows {t t' : Table α} {name : String} {id : Nat} {handler : α}
    {signature : Signature} {defaults : List Value}
    (h : t.Accepts name id handler signature defaults t') (ht : t.Consistent) :
    (∃ checked,
      Coerced defaults (signature.params.drop (signature.params.length - defaults.length)) checked ∧
      t'.find? id = some ⟨id, name, signature, checked, handler⟩) ∧
    ∀ j ≠ id, t'.find? j = t.find? j := by
  have ht' : t'.Consistent := h.consistent ht
  obtain ⟨checked, hc, rfl⟩ := h.added
  refine ⟨⟨checked, hc, ht'.find?_iff.2 ⟨(mem_insertEntry _ _ _).2 (Or.inl rfl), rfl⟩⟩, ?_⟩
  intro j hj
  apply Option.ext
  intro e
  have hother : e.id = j → e ≠ ⟨id, name, signature, checked, handler⟩ := by
    rintro he rfl
    exact hj he.symm
  rw [ht'.find?_iff, ht.find?_iff, mem_insertEntry]
  constructor
  · rintro ⟨hm, he⟩
    exact ⟨hm.resolve_left (hother he), he⟩
  · rintro ⟨hm, he⟩
    exact ⟨Or.inr hm, he⟩

theorem consistent_apply {t : Table α} (ht : t.Consistent) (op : TableOp α) :
    (t.apply op).Consistent := by
  cases op with
  | register name id handler signature defaults =>
    simp only [Table.apply]
    cases hr : t.register name id handler signature defaults with
    | error err => exact ht
    | ok t' => exact (accepts_of_register hr).consistent ht
  | freeze => exact ⟨ht.ascending, ht.once, ht.agree⟩
  | clear => exact consistent_empty

theorem consistent_after (ops : List (TableOp α)) : (Table.after ops).Consistent := by
  have hrun : ∀ (ops : List (TableOp α)) (t : Table α), t.Consistent →
      (ops.foldl Table.apply t).Consistent := by
    intro ops
    induction ops with
    | nil => exact fun t h => h
    | cons op ops ih => exact fun t h => ih (t.apply op) (consistent_apply h op)
  exact hrun ops .empty consistent_empty

theorem foldl_frozen {t : Table α} (hf : t.frozen = true) {ops : List (TableOp α)}
    (hc : TableOp.clear ∉ ops) : ops.foldl Table.apply t = t := by
  induction ops with
  | nil => rfl
  | cons op ops ih =>
    rw [List.mem_cons, not_or] at hc
    obtain ⟨hop, hops⟩ := hc
    have happ : t.apply op = t := by
      cases op with
      | register name id handler signature defaults =>
        simp only [Table.apply, register_of_rejects (.frozen hf)]
      | freeze =>
        obtain ⟨entries, numbers, frozen⟩ := t
        cases hf
        rfl
      | clear => exact absurd rfl hop
    rw [List.foldl_cons, happ]
    exact ih hops

theorem after_append (ops more : List (TableOp α)) :
    Table.after (ops ++ more) = more.foldl Table.apply (Table.after ops) :=
  List.foldl_append

/-! ### Tables as they come about -/

/-- Every table that registering, freezing and clearing lead to. The functions by number and the
numbers by name are inverse to each other, and no name has two functions. The defaults of a function
have the types of its last parameters. A registration is answered by the first rule it breaks and
leaves the table as it was, or it adds its function and changes no other. From a freeze to the next
clearing the table stays the same. -/
theorem table_integrity (ops : List (TableOp α)) :
    (∀ id e, (Table.after ops).find? id = some e ↔ e ∈ (Table.after ops).entries ∧ e.id = id) ∧
    (∀ name id, (Table.after ops).findByName? name = some id ↔
      ∃ e, (Table.after ops).find? id = some e ∧ e.name = name) ∧
    (∀ i j e f, (Table.after ops).find? i = some e → (Table.after ops).find? j = some f →
      e.name = f.name → i = j ∧ e = f) ∧
    (∀ e ∈ (Table.after ops).entries, e.defaults.length ≤ e.signature.params.length ∧
      e.defaults.map Value.type =
        e.signature.params.drop (e.signature.params.length - e.defaults.length)) ∧
    (∀ name id handler signature defaults err,
      (Table.after ops).register name id handler signature defaults = .error err ↔
        (Table.after ops).Rejects name id signature defaults err) ∧
    (∀ name id handler signature defaults err,
      (Table.after ops).Rejects name id signature defaults err →
        Table.after (ops ++ [.register name id handler signature defaults]) = Table.after ops) ∧
    (∀ name id handler signature defaults,
      (∀ err, ¬ (Table.after ops).Rejects name id signature defaults err) →
        (∃ checked, Coerced defaults
            (signature.params.drop (signature.params.length - defaults.length)) checked ∧
          (Table.after (ops ++ [.register name id handler signature defaults])).find? id =
            some ⟨id, name, signature, checked, handler⟩) ∧
        ∀ j ≠ id, (Table.after (ops ++ [.register name id handler signature defaults])).find? j =
          (Table.after ops).find? j) ∧
    (∀ more, TableOp.clear ∉ more →
      Table.after (ops ++ .freeze :: more) =
        ⟨(Table.after ops).entries, (Table.after ops).numbers, true⟩) := by
  have hc := consistent_after ops
  refine ⟨fun id e => hc.find?_iff, hc.inverse, fun i j e f => hc.name_unique, ?_,
    fun name id handler signature defaults err => ⟨rejects_of_register, register_of_rejects⟩,
    ?_, ?_, ?_⟩
  · intro e he
    have hw := after_wellTyped ops e he
    exact ⟨hw.fewDefaults, hw.types⟩
  · intro name id handler signature defaults err hr
    rw [after_append, List.foldl_cons, List.foldl_nil]
    simp only [Table.apply, register_of_rejects hr]
  · intro name id handler signature defaults hnone
    rw [after_append, List.foldl_cons, List.foldl_nil]
    rcases rejects_or_accepts (Table.after ops) name id handler signature defaults with
      ⟨err, hr⟩ | ⟨t', ha, hok⟩
    · exact absurd hr (hnone err)
    · simpa only [Table.apply, hok] using ha.shows hc
  · intro more hmore
    rw [after_append, List.foldl_cons]
    exact foldl_frozen rfl hmore

end Adventure.Bridge

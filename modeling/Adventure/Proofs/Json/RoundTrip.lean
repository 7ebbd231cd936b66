import Adventure.Proofs.Json.Numbers
import Adventure.Proofs.Json.Texts

/-!
# Writing JSON values and reading them back

A value whose numbers are read back from their texts is read back from its own text as long as no
more containers stand inside one another than a text may have; a deeper one is refused.
-/

namespace Adventure.Json

/-! ### What a value holds -/

mutual

/-- How many containers stand inside one another. -/
def depth : Json → Nat
  | .array items => itemsDepth items + 1
  | .object members => membersDepth members + 1
  | _ => 0

def itemsDepth : List Json → Nat
  | [] => 0
  | item :: items => max (depth item) (itemsDepth items)

def membersDepth : List (String × Json) → Nat
  | [] => 0
  | (_, value) :: members => max (depth value) (membersDepth members)

end

mutual

def numbers : Json → List Number
  | .number n => [n]
  | .array items => itemsNumbers items
  | .object members => membersNumbers members
  | _ => []

def itemsNumbers : List Json → List Number
  | [] => []
  | item :: items => numbers item ++ itemsNumbers items

def membersNumbers : List (String × Json) → List Number
  | [] => []
  | (_, value) :: members => numbers value ++ membersNumbers members

end

/-! ### Steps of the reader -/

theorem skipBlanks_cons {c : Char} (h : isJsonBlank c = false) (cs : List Char) :
    skipBlanks (c :: cs) = c :: cs :=
  List.dropWhile_cons_of_neg (by rw [h]; exact Bool.false_ne_true)

/-- Neither a blank nor the end of a container: a value can begin so. -/
def Begins (c : Char) : Prop := isJsonBlank c = false ∧ c ≠ ']' ∧ c ≠ '}'

theorem readValue_number {c : Char} (h : c = '-' ∨ Decimal.isDigit c = true) (fuel depth : Nat)
    (cs : List Char) :
    readValue (fuel + 1) depth (c :: cs) = (readNumber (c :: cs)).map fun r => (.number r.1, r.2) := by
  rcases h with rfl | hdigit
  · rfl
  · have hother : ∀ d : Char, Decimal.isDigit d = false → ∀ rest, c :: cs ≠ d :: rest := by
      rintro d hd rest heq
      cases heq
      rw [hdigit] at hd
      cases hd
    unfold readValue
    rw [skipBlanks_cons (not_blank_of_digit hdigit)]
    split
    · rename_i hnil
      cases hnil
    all_goals rename_i heq
    iterate 6 exact absurd heq (hother _ rfl _)
    cases heq
    rw [if_pos (by rw [hdigit, Bool.or_true])]

theorem ok_of_map {ε α β : Type} {x : Except ε α} {f : α → β} {b : β} (h : x.map f = .ok b) :
    ∃ a, x = .ok a ∧ f a = b := by
  cases x with
  | error e => cases h
  | ok a => exact ⟨a, rfl, Except.ok.inj h⟩

theorem readNumber_of_readValue {fuel depth : Nat} {cs left : List Char} {n : Number}
    (h : readValue fuel depth cs = .ok (.number n, left)) :
    readNumber (skipBlanks cs) = .ok (n, left) := by
  cases fuel with
  | zero =>
    unfold readValue at h
    cases h
  | succ fuel =>
    unfold readValue at h
    split at h
    · cases h
    · obtain ⟨rest, -, hword⟩ := ok_of_map h
      cases hword
    · obtain ⟨rest, -, hword⟩ := ok_of_map h
      cases hword
    · obtain ⟨rest, -, hword⟩ := ok_of_map h
      cases hword
    · obtain ⟨rest, -, htext⟩ := ok_of_map h
      cases htext
    · split at h
      · cases h
      · split at h
        · cases h
        · cases h
        · obtain ⟨rest, -, harray⟩ := ok_of_map h
          cases harray
    · split at h
      · cases h
      · split at h
        · cases h
        · cases h
        · obtain ⟨rest, -, hobject⟩ := ok_of_map h
          cases hobject
    · rename_i hcs
      split at h
      · obtain ⟨taken, hnumber, htaken⟩ := ok_of_map h
        cases htaken
        rw [hcs]
        exact hnumber
      · cases h

theorem readValue_array {c : Char} (h : Begins c) (fuel depth : Nat) (cs : List Char) :
    readValue (fuel + 1) depth ('[' :: c :: cs) =
      if depth = 0 then stopIn .tooDeep ('[' :: c :: cs)
      else (readItems fuel (depth - 1) [] (c :: cs)).map fun r => (.array r.1, r.2) := by
  unfold readValue
  rw [skipBlanks_cons rfl]
  simp only [skipBlanks_cons h.1]
  split
  · rfl
  · split
    · rename_i hc
      cases hc
    · rename_i hc
      cases hc
      exact absurd rfl h.2.1
    · rfl

theorem readValue_object {c : Char} (h : Begins c) (fuel depth : Nat) (cs : List Char) :
    readValue (fuel + 1) depth ('{' :: c :: cs) =
      if depth = 0 then stopIn .tooDeep ('{' :: c :: cs)
      else (readMembers fuel (depth - 1) [] (c :: cs)).map fun r => (.object r.1, r.2) := by
  unfold readValue
  rw [skipBlanks_cons rfl]
  simp only [skipBlanks_cons h.1]
  split
  · rfl
  · split
    · rename_i hc
      cases hc
    · rename_i hc
      cases hc
      exact absurd rfl h.2.2
    · rfl

theorem afterItem_comma {c : Char} (h : Begins c) (cs : List Char) :
    afterItem (',' :: c :: cs) = .ok (true, c :: cs) := by
  unfold afterItem
  rw [skipBlanks_cons rfl]
  simp only [skipBlanks_cons h.1]
  split
  · rename_i hc
    cases hc
  · rename_i hc
    cases hc
    exact absurd rfl h.2.1
  · rfl

theorem afterMember_comma {c : Char} (h : Begins c) (cs : List Char) :
    afterMember (',' :: c :: cs) = .ok (true, c :: cs) := by
  unfold afterMember
  rw [skipBlanks_cons rfl]
  simp only [skipBlanks_cons h.1]
  split
  · rename_i hc
    cases hc
  · rename_i hc
    cases hc
    exact absurd rfl h.2.2
  · rfl

theorem readItems_succ (fuel depth : Nat) (acc : List Json) (cs : List Char) :
    (readItems (fuel + 1) depth acc cs).toOption =
      (readValue fuel depth cs).toOption.bind fun r =>
        (afterItem r.2).toOption.bind fun more =>
          if more.1 then (readItems fuel depth (r.1 :: acc) more.2).toOption
          else some ((r.1 :: acc).reverse, more.2) := by
  rw [readItems]
  cases readValue fuel depth cs with
  | error f => rfl
  | ok r =>
    obtain ⟨item, rest⟩ := r
    simp only [Except.toOption, Option.bind_some]
    cases afterItem rest with
    | error f => rfl
    | ok more =>
      obtain ⟨more, rest⟩ := more
      cases more <;> rfl

theorem readMembers_succ (fuel depth : Nat) (acc : List (String × Json)) (cs : List Char) :
    (readMembers (fuel + 1) depth acc cs).toOption =
      (readName cs).toOption.bind fun name =>
        (readValue fuel depth name.2).toOption.bind fun r =>
          (afterMember r.2).toOption.bind fun more =>
            if more.1 then (readMembers fuel depth ((name.1, r.1) :: acc) more.2).toOption
            else some (((name.1, r.1) :: acc).reverse, more.2) := by
  rw [readMembers]
  cases readName cs with
  | error f => rfl
  | ok name =>
    obtain ⟨name, rest⟩ := name
    simp only [Except.toOption, Option.bind_some]
    cases readValue fuel depth rest with
    | error f => rfl
    | ok r =>
      obtain ⟨value, rest⟩ := r
      simp only [Option.bind_some]
      cases afterMember rest with
      | error f => rfl
      | ok more =>
        obtain ⟨more, rest⟩ := more
        cases more <;> rfl

/-! ### The text of a value -/

theorem toList_array (items : List Json) :
    (compact (.array items)).toList = '[' :: ((compactItems items).toList ++ [']']) := by
  rw [compact, String.toList_append, String.toList_append]
  rfl

theorem toList_object (members : List (String × Json)) :
    (compact (.object members)).toList = '{' :: ((compactMembers members).toList ++ ['}']) := by
  rw [compact, String.toList_append, String.toList_append]
  rfl

theorem toList_items (item next : Json) (items : List Json) :
    (compactItems (item :: next :: items)).toList =
      (compact item).toList ++ ',' :: (compactItems (next :: items)).toList := by
  rw [compactItems, String.toList_append, String.toList_append, List.append_assoc]
  · rfl
  · exact List.cons_ne_nil _ _

theorem toList_member (name : String) (value : Json) :
    (compactMembers [(name, value)]).toList =
      (writeText name).toList ++ ':' :: (compact value).toList := by
  rw [compactMembers, String.toList_append, String.toList_append, List.append_assoc]
  rfl

theorem toList_members (name : String) (value : Json) (next : String × Json)
    (members : List (String × Json)) :
    (compactMembers ((name, value) :: next :: members)).toList =
      (writeText name).toList ++
        ':' :: ((compact value).toList ++ ',' :: (compactMembers (next :: members)).toList) := by
  rw [compactMembers, String.toList_append, String.toList_append, String.toList_append,
    String.toList_append, List.append_assoc, List.append_assoc, List.append_assoc]
  · rfl
  · exact List.cons_ne_nil _ _

theorem begins_of_number {c : Char} (h : c = '-' ∨ Decimal.isDigit c = true) : Begins c := by
  rcases h with rfl | hdigit
  · exact ⟨rfl, by decide, by decide⟩
  · refine ⟨not_blank_of_digit hdigit, ?_, ?_⟩ <;> rintro rfl <;> cases hdigit

theorem begins_compact {j : Json} (h : ∀ n ∈ j.numbers, ReadBack n) :
    ∃ c cs, j.compact.toList = c :: cs ∧ Begins c := by
  cases j with
  | null => exact ⟨'n', _, rfl, rfl, by decide, by decide⟩
  | bool b => cases b <;> exact ⟨_, _, rfl, rfl, by decide, by decide⟩
  | number n =>
    obtain ⟨c, cs, htext, hbegins⟩ := begins_of_readNumber (h n List.mem_cons_self)
    exact ⟨c, cs, htext, begins_of_number hbegins⟩
  | string s => exact ⟨'"', _, toList_writeText s, rfl, by decide, by decide⟩
  | array items => exact ⟨'[', _, toList_array items, rfl, by decide, by decide⟩
  | object members => exact ⟨'{', _, toList_object members, rfl, by decide, by decide⟩

theorem begins_items {item : Json} {items : List Json}
    (h : ∀ n ∈ itemsNumbers (item :: items), ReadBack n) :
    ∃ c cs, (compactItems (item :: items)).toList = c :: cs ∧ Begins c := by
  obtain ⟨c, cs, htext, hbegins⟩ := begins_compact fun n hn => h n (List.mem_append_left _ hn)
  cases items with
  | nil => exact ⟨c, cs, htext, hbegins⟩
  | cons next items =>
    rw [toList_items, htext]
    exact ⟨c, _, rfl, hbegins⟩

theorem begins_members (member : String × Json) (members : List (String × Json)) :
    ∃ c cs, (compactMembers (member :: members)).toList = c :: cs ∧ Begins c := by
  obtain ⟨name, value⟩ := member
  refine ⟨'"', ?_⟩
  cases members with
  | nil =>
    rw [toList_member, toList_writeText]
    exact ⟨_, rfl, rfl, by decide, by decide⟩
  | cons next members =>
    rw [toList_members, toList_writeText]
    exact ⟨_, rfl, rfl, by decide, by decide⟩

/-! ### Reading back -/

/-- What is read where containers stand `held` deep and only `limit` are allowed. -/
def allowed {α : Type} (held limit : Nat) (a : α) : Option α := if held ≤ limit then some a else none

/-- The value is read back from its text, whatever follows, unless it is too deep. -/
def Inverts (j : Json) : Prop :=
  ∀ (fuel limit : Nat) (rest : List Char), j.compact.toList.length ≤ fuel → Stops rest →
    (readValue fuel limit (j.compact.toList ++ rest)).toOption = allowed j.depth limit (j, rest)

def InvertsItems (items : List Json) : Prop :=
  ∀ (fuel limit : Nat) (acc : List Json) (rest : List Char),
    (compactItems items).toList.length < fuel →
      (readItems fuel limit acc ((compactItems items).toList ++ ']' :: rest)).toOption =
        allowed (itemsDepth items) limit (acc.reverse ++ items, rest)

def InvertsMembers (members : List (String × Json)) : Prop :=
  ∀ (fuel limit : Nat) (acc : List (String × Json)) (rest : List Char),
    (compactMembers members).toList.length < fuel →
      (readMembers fuel limit acc ((compactMembers members).toList ++ '}' :: rest)).toOption =
        allowed (membersDepth members) limit (acc.reverse ++ members, rest)

theorem succ_of_length_le {cs : List Char} {fuel : Nat} (hcs : cs ≠ []) (h : cs.length ≤ fuel) :
    ∃ n, fuel = n + 1 :=
  Nat.exists_eq_add_one_of_ne_zero
    (Nat.ne_zero_of_lt (lt_of_lt_of_le (List.length_pos_iff.2 hcs) h))

theorem inverts_null : Inverts .null := by
  intro fuel limit rest hfuel hrest
  obtain ⟨fuel, rfl⟩ := succ_of_length_le (by decide) hfuel
  rfl

theorem inverts_bool (b : Bool) : Inverts (.bool b) := by
  intro fuel limit rest hfuel hrest
  cases b with
  | false =>
    obtain ⟨fuel, rfl⟩ := succ_of_length_le (by decide) hfuel
    rfl
  | true =>
    obtain ⟨fuel, rfl⟩ := succ_of_length_le (by decide) hfuel
    rfl

theorem inverts_number {n : Number} (h : ReadBack n) : Inverts (.number n) := by
  intro fuel limit rest hfuel hrest
  obtain ⟨c, cs, htext, hbegins⟩ := begins_of_readNumber h
  have hread : readNumber (c :: cs ++ rest) = .ok (n, rest) := by
    rw [← htext]
    exact (takesFront_readNumber _ _ _ h).2 rest hrest
  rw [compact] at hfuel ⊢
  rw [htext] at hfuel ⊢
  obtain ⟨fuel, rfl⟩ := succ_of_length_le (List.cons_ne_nil _ _) hfuel
  rw [List.cons_append, readValue_number hbegins, ← List.cons_append, hread]
  rfl

theorem inverts_string (s : String) : Inverts (.string s) := by
  intro fuel limit rest hfuel hrest
  rw [compact, toList_writeText] at hfuel ⊢
  obtain ⟨fuel, rfl⟩ := succ_of_length_le (List.cons_ne_nil _ _) hfuel
  rw [List.cons_append, List.append_assoc]
  show ((readText (written s.toList ++ '"' :: rest)).map fun r => (Json.string r.1, r.2)).toOption = _
  rw [readText_written]
  rfl

/-- What is read behind an opening bracket, where one container less is allowed. -/
theorem allowed_of_entered {α : Type} {held limit : Nat} {read : Reading α} {a : α}
    {rest : List Char} (h : read.toOption = allowed held (limit - 1) (a, rest)) (f : α → Json)
    (cs : List Char) :
    (if limit = 0 then stopIn .tooDeep cs else read.map fun r => (f r.1, r.2)).toOption =
      allowed (held + 1) limit (f a, rest) := by
  cases limit with
  | zero => rfl
  | succ limit =>
    have hmap : (read.map fun r => (f r.1, r.2)).toOption =
        read.toOption.map fun r => (f r.1, r.2) := by
      cases read <;> rfl
    rw [if_neg (Nat.succ_ne_zero limit), hmap, h, Nat.succ_sub_one]
    unfold allowed
    by_cases hheld : held ≤ limit
    · rw [if_pos hheld, if_pos (Nat.succ_le_succ hheld)]
      rfl
    · rw [if_neg hheld, if_neg fun hle => hheld (Nat.le_of_succ_le_succ hle)]
      rfl

theorem inverts_array {items : List Json}
    (hbegins : items ≠ [] → ∃ c cs, (compactItems items).toList = c :: cs ∧ Begins c)
    (h : items ≠ [] → InvertsItems items) : Inverts (.array items) := by
  intro fuel limit rest hfuel hrest
  rw [toList_array] at hfuel ⊢
  obtain ⟨fuel, rfl⟩ := succ_of_length_le (List.cons_ne_nil _ _) hfuel
  by_cases hsome : items = []
  · subst hsome
    cases limit <;> rfl
  · have hlength : (compactItems items).toList.length < fuel := by
      rw [List.length_cons, List.length_append, List.length_singleton] at hfuel
      omega
    have hitems := h hsome fuel (limit - 1) [] rest hlength
    obtain ⟨c, cs, htext, hc⟩ := hbegins hsome
    rw [htext, List.cons_append] at hitems
    rw [htext, List.cons_append, List.append_assoc, List.cons_append, List.singleton_append,
      readValue_array hc]
    exact allowed_of_entered hitems .array _

theorem inverts_object {members : List (String × Json)}
    (h : members ≠ [] → InvertsMembers members) : Inverts (.object members) := by
  intro fuel limit rest hfuel hrest
  rw [toList_object] at hfuel ⊢
  obtain ⟨fuel, rfl⟩ := succ_of_length_le (List.cons_ne_nil _ _) hfuel
  cases members with
  | nil => cases limit <;> rfl
  | cons member members =>
    have hlength : (compactMembers (member :: members)).toList.length < fuel := by
      rw [List.length_cons, List.length_append, List.length_singleton] at hfuel
      omega
    have hmembers := h (List.cons_ne_nil _ _) fuel (limit - 1) [] rest hlength
    obtain ⟨c, cs, htext, hc⟩ := begins_members member members
    rw [htext, List.cons_append] at hmembers
    rw [htext, List.cons_append, List.append_assoc, List.cons_append, List.singleton_append,
      readValue_object hc]
    exact allowed_of_entered hmembers .object _

theorem stops_bracket (rest : List Char) : Stops (']' :: rest) := stops_cons (by decide) rest

theorem stops_brace (rest : List Char) : Stops ('}' :: rest) := stops_cons (by decide) rest

theorem stops_comma (rest : List Char) : Stops (',' :: rest) := stops_cons (by decide) rest

theorem allowed_bind {α β : Type} {first others limit : Nat} {a : α} {b : β} {next : α → Option β}
    (h : next a = allowed others limit b) :
    (allowed first limit a).bind next = allowed (max first others) limit b := by
  unfold allowed at h ⊢
  by_cases hfirst : first ≤ limit
  · rw [if_pos hfirst, Option.bind_some, h]
    simp only [Nat.max_le, hfirst, true_and]
  · rw [if_neg hfirst, if_neg fun hmax => hfirst (Nat.max_le.1 hmax).1]
    rfl

theorem invertsItems_one {item : Json} (h : Inverts item) : InvertsItems [item] := by
  intro fuel limit acc rest hfuel
  obtain ⟨fuel, rfl⟩ := Nat.exists_eq_add_one_of_ne_zero (Nat.ne_zero_of_lt hfuel)
  have hitem := h fuel limit (']' :: rest) (Nat.le_of_lt_succ hfuel) (stops_bracket rest)
  rw [readItems_succ, compactItems, hitem]
  refine allowed_bind ?_
  show some ((item :: acc).reverse, rest) = _
  rw [List.reverse_cons]
  rfl

theorem invertsItems_more {item next : Json} {items : List Json} (h : Inverts item)
    (hbegins : ∃ c cs, (compactItems (next :: items)).toList = c :: cs ∧ Begins c)
    (hitems : InvertsItems (next :: items)) : InvertsItems (item :: next :: items) := by
  intro fuel limit acc rest hfuel
  obtain ⟨fuel, rfl⟩ := Nat.exists_eq_add_one_of_ne_zero (Nat.ne_zero_of_lt hfuel)
  rw [toList_items] at hfuel ⊢
  rw [List.length_append, List.length_cons] at hfuel
  have hmore := hitems fuel limit (item :: acc) rest (by omega)
  obtain ⟨c, cs, htext, hc⟩ := hbegins
  rw [readItems_succ, List.append_assoc, List.cons_append, h fuel limit _ (by omega) (stops_comma _)]
  refine allowed_bind ?_
  rw [htext, List.cons_append] at hmore ⊢
  rw [afterItem_comma hc]
  refine Eq.trans hmore ?_
  rw [List.reverse_cons, List.append_assoc]
  rfl

theorem invertsMembers_one {name : String} {value : Json} (h : Inverts value) :
    InvertsMembers [(name, value)] := by
  intro fuel limit acc rest hfuel
  obtain ⟨fuel, rfl⟩ := Nat.exists_eq_add_one_of_ne_zero (Nat.ne_zero_of_lt hfuel)
  rw [toList_member] at hfuel ⊢
  rw [List.length_append, List.length_cons] at hfuel
  have hvalue := h fuel limit ('}' :: rest) (by omega) (stops_brace rest)
  rw [readMembers_succ, List.append_assoc, List.cons_append, readName_written]
  show ((readValue fuel limit (value.compact.toList ++ '}' :: rest)).toOption.bind _) = _
  rw [hvalue]
  refine allowed_bind ?_
  show some (((name, value) :: acc).reverse, rest) = _
  rw [List.reverse_cons]
  rfl

theorem invertsMembers_more {name : String} {value : Json} {next : String × Json}
    {members : List (String × Json)} (h : Inverts value) (hmembers : InvertsMembers (next :: members)) :
    InvertsMembers ((name, value) :: next :: members) := by
  intro fuel limit acc rest hfuel
  obtain ⟨fuel, rfl⟩ := Nat.exists_eq_add_one_of_ne_zero (Nat.ne_zero_of_lt hfuel)
  rw [toList_members] at hfuel ⊢
  simp only [List.length_append, List.length_cons] at hfuel
  have hmore := hmembers fuel limit ((name, value) :: acc) rest (by omega)
  obtain ⟨c, cs, htext, hc⟩ := begins_members next members
  rw [readMembers_succ, List.append_assoc, List.cons_append, List.append_assoc, List.cons_append,
    readName_written]
  show ((readValue fuel limit (value.compact.toList ++
    ',' :: ((compactMembers (next :: members)).toList ++ '}' :: rest))).toOption.bind _) = _
  rw [h fuel limit _ (by omega) (stops_comma _)]
  refine allowed_bind ?_
  rw [htext, List.cons_append] at hmore ⊢
  rw [afterMember_comma hc]
  refine Eq.trans hmore ?_
  rw [List.reverse_cons, List.append_assoc]
  rfl

mutual

theorem inverts : ∀ j : Json, (∀ n ∈ j.numbers, ReadBack n) → Inverts j
  | .null, _ => inverts_null
  | .bool b, _ => inverts_bool b
  | .number n, h => inverts_number (h n List.mem_cons_self)
  | .string s, _ => inverts_string s
  | .array items, h => by
    refine inverts_array (fun hsome => ?_) fun hsome => invertsItems items hsome h
    obtain ⟨item, items, rfl⟩ := List.exists_cons_of_ne_nil hsome
    exact begins_items h
  | .object members, h => inverts_object fun hsome => invertsMembers members hsome h

theorem invertsItems : ∀ items : List Json, items ≠ [] → (∀ n ∈ itemsNumbers items, ReadBack n) →
    InvertsItems items
  | [], hsome, _ => absurd rfl hsome
  | [item], _, h => invertsItems_one (inverts item fun n hn => h n (List.mem_append_left _ hn))
  | item :: next :: items, _, h =>
    have hmore : ∀ n ∈ itemsNumbers (next :: items), ReadBack n :=
      fun n hn => h n (List.mem_append_right _ hn)
    invertsItems_more (inverts item fun n hn => h n (List.mem_append_left _ hn))
      (begins_items hmore) (invertsItems (next :: items) (List.cons_ne_nil _ _) hmore)

theorem invertsMembers : ∀ members : List (String × Json), members ≠ [] →
    (∀ n ∈ membersNumbers members, ReadBack n) → InvertsMembers members
  | [], hsome, _ => absurd rfl hsome
  | [(_, value)], _, h =>
    invertsMembers_one (inverts value fun n hn => h n (List.mem_append_left _ hn))
  | (_, value) :: next :: members, _, h =>
    have hmore : ∀ n ∈ membersNumbers (next :: members), ReadBack n :=
      fun n hn => h n (List.mem_append_right _ hn)
    invertsMembers_more (inverts value fun n hn => h n (List.mem_append_left _ hn))
      (invertsMembers (next :: members) (List.cons_ne_nil _ _) hmore)

end

/-! ### Whole texts -/

/-- The value comes back when its text is read. -/
def Survives (j : Json) : Prop := read? j.compact = some j

theorem read?_eq (text : String) :
    read? text = (readValue (stepLimit text.toList) depthLimit text.toList).toOption.bind fun r =>
      if skipBlanks r.2 = [] then some r.1 else none := by
  unfold read? read atEnd
  simp only [bind, Except.bind, pure, Except.pure]
  cases readValue (stepLimit text.toList) depthLimit text.toList with
  | error f => rfl
  | ok r =>
    obtain ⟨j, rest⟩ := r
    simp only [Except.toOption, Option.bind_some]
    cases skipBlanks rest with
    | nil => rfl
    | cons c cs => rfl

/-- A value of numbers that are read back comes back exactly if it is not too deep. -/
theorem read?_compact {j : Json} (h : ∀ n ∈ j.numbers, ReadBack n) :
    read? j.compact = allowed j.depth depthLimit j := by
  have hread := inverts j h (stepLimit j.compact.toList) depthLimit []
    (by unfold stepLimit; omega) stops_nil
  rw [List.append_nil] at hread
  rw [read?_eq, hread]
  unfold allowed
  split <;> rfl

theorem readBack_of_survives {n : Number} (h : Survives (.number n)) : ReadBack n := by
  unfold Survives at h
  rw [read?_eq, compact] at h
  obtain ⟨⟨j, left⟩, hread, hend⟩ := Option.bind_eq_some_iff.1 h
  have hdense : ∀ {cs : List Char}, (∀ c ∈ cs, c ∈ (numberText n).toList) → skipBlanks cs = cs :=
    fun hcs => Text.dropWhile_of_head fun c hc =>
      dense_numberText n c (hcs c (List.mem_of_mem_head? hc))
  split at hend
  · rename_i hleft
    cases hend
    have hnumber : readNumber (numberText n).toList = .ok (n, left) := by
      cases hvalue : readValue (stepLimit (numberText n).toList) depthLimit (numberText n).toList with
      | error f =>
        rw [hvalue] at hread
        cases hread
      | ok r =>
        rw [hvalue] at hread
        cases hread
        rw [← hdense fun c hc => hc]
        exact readNumber_of_readValue hvalue
    -- What is left is blank and a part of the text, which has no blanks.
    obtain ⟨hsuffix, -⟩ := takesFront_readNumber _ _ _ hnumber
    have hnone : left = [] := (hdense fun c hc => hsuffix.subset hc).symm.trans hleft
    rw [hnone] at hnumber
    exact hnumber
  · cases hend

end Adventure.Json

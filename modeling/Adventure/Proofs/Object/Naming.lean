import Adventure.Proofs.Object.Precedence

/-!
# Names of creatures

A creature is called by a first and a last name. A record with either part names the creature anew,
so that the other part of an earlier record is lost. The name is the one that a single record with
the parts of both records gives, unless the instance has one part alone and the blueprint has the
other.
-/

namespace Adventure.Object

variable {lib : Library} {placed : Record} {blueprint : Option Record} {o : Object} {models : Models}

/-! ### Names of two parts -/

/-- The parts of a name that are not empty, with a blank between them. -/
def joined (first last : String) : String :=
  " ".intercalate ([first, last].filter fun part => !part.isEmpty)

theorem personName?_eq (first last : Option String) : personName? first last =
    if first.isSome || last.isSome then some (joined (first.getD "") (last.getD "")) else none := rfl

theorem joined_of_ne {first last : String} (hfirst : first ≠ "") (hlast : last ≠ "") :
    joined first last = first ++ " " ++ last := by
  have hparts : [first, last].filter (fun part => !part.isEmpty) = [first, last] := by
    simp [hfirst, hlast]
  rw [joined, hparts]
  rfl

theorem joined_empty (first : String) : joined first "" = first := by
  unfold joined
  by_cases h : first = ""
  · subst h
    rfl
  · have hparts : [first, ""].filter (fun part => !part.isEmpty) = [first] := by simp [h]
    rw [hparts]
    rfl

theorem empty_joined (last : String) : joined "" last = last := by
  unfold joined
  by_cases h : last = ""
  · subst h
    rfl
  · have hparts : ["", last].filter (fun part => !part.isEmpty) = [last] := by simp [h]
    rw [hparts]
    rfl

theorem joined_eq_left {first last : String} : first = joined first last ↔ last = "" := by
  refine ⟨fun h => ?_, fun h => by rw [h, joined_empty]⟩
  by_contra hlast
  by_cases hfirst : first = ""
  · rw [hfirst, empty_joined] at h
    exact hlast h.symm
  · rw [joined_of_ne hfirst hlast] at h
    have hlength := congrArg String.length h
    rw [String.length_append, String.length_append] at hlength
    have hblank : " ".length = 1 := by decide
    omega

theorem joined_eq_right {first last : String} : last = joined first last ↔ first = "" := by
  refine ⟨fun h => ?_, fun h => by rw [h, empty_joined]⟩
  by_contra hfirst
  by_cases hlast : last = ""
  · rw [hlast, joined_empty] at h
    exact hfirst h.symm
  · rw [joined_of_ne hfirst hlast] at h
    have hlength := congrArg String.length h
    rw [String.length_append, String.length_append] at hlength
    have hblank : " ".length = 1 := by decide
    omega

/-- Naming anew and replacing the parts come to the same unless there is one part anew and the other
one was there before. -/
theorem personName?_or (first last first' last' : Option String) :
    ((personName? first last).or (personName? first' last')).getD "" =
        (personName? (first.or first') (last.or last')).getD "" ↔
      ¬((first.isSome = true ∧ last = none ∧ last'.getD "" ≠ "") ∨
        (first = none ∧ last.isSome = true ∧ first'.getD "" ≠ "")) := by
  cases first with
  | none =>
    cases last with
    | none => simp [personName?_eq]
    | some last =>
      cases first' with
      | none => simp [personName?_eq]
      | some first' => simp [personName?_eq, empty_joined, joined_eq_right]
  | some first =>
    cases last with
    | none =>
      cases last' with
      | none => simp [personName?_eq]
      | some last' => simp [personName?_eq, joined_empty, joined_eq_left]
    | some last => simp [personName?_eq]

/-! ### Names in records -/

/-- What a record calls a creature, if it has either part of a name. -/
def called? (talk : TalkTable) (r : Record) : Option String :=
  personName? (r.getLocText "FirstName" talk) (r.getLocText "LastName" talk)

/-- The record has no other name, and what it has of the two parts is text. -/
structure Named (talk : TalkTable) (r : Record) : Prop where
  first : r.hasField "FirstName" = true → (r.getLocText "FirstName" talk).isSome = true
  last : r.hasField "LastName" = true → (r.getLocText "LastName" talk).isSome = true
  alone : r.hasField "LocName" = false

instance (talk : TalkTable) (r : Record) : Decidable (Named talk r) :=
  decidable_of_iff ((r.hasField "FirstName" = true → (r.getLocText "FirstName" talk).isSome = true) ∧
      (r.hasField "LastName" = true → (r.getLocText "LastName" talk).isSome = true) ∧
      r.hasField "LocName" = false)
    ⟨fun ⟨first, last, alone⟩ => ⟨first, last, alone⟩, fun h => ⟨h.first, h.last, h.alone⟩⟩

/-- A single record has the parts of the name that the two records have, those of the instance
first. -/
def Combines (single placed : Record) (blueprint : Option Record) : Prop :=
  ∀ part ∈ ["FirstName", "LastName"], Dict.find? single part =
    (Dict.find? placed part).or (blueprint.bind fun b => Dict.find? b part)

/-- The instance has one part of the name alone, and the blueprint has the other one. -/
def Halved (talk : TalkTable) (placed : Record) (blueprint : Option Record) : Prop :=
  ∃ own other, (own, other) ∈ [("FirstName", "LastName"), ("LastName", "FirstName")] ∧
    placed.hasField own = true ∧ placed.hasField other = false ∧
    ∃ b text, blueprint = some b ∧ b.getLocText other talk = some text ∧ text ≠ ""

theorem getLocText_of_lacks {talk : TalkTable} {r : Record} {part : String}
    (h : r.hasField part = false) : r.getLocText part talk = none := by
  rw [Record.getLocText_eq, Record.carried?_of_lacks h]

theorem hasField_eq_isSome {talk : TalkTable} {r : Record} {part : String}
    (h : r.hasField part = true → (r.getLocText part talk).isSome = true) :
    r.hasField part = (r.getLocText part talk).isSome := by
  cases hfield : r.hasField part with
  | true => exact (h hfield).symm
  | false => rw [getLocText_of_lacks hfield, Option.isSome_none]

theorem getLocText_combined {talk : TalkTable} {single : Record} {part : String}
    (hreadable : placed.hasField part = true → (placed.getLocText part talk).isSome = true)
    (hsingle : Dict.find? single part =
      (Dict.find? placed part).or (blueprint.bind fun b => Dict.find? b part)) :
    single.getLocText part talk =
      (placed.getLocText part talk).or (blueprint.bind fun b => b.getLocText part talk) := by
  simp only [Record.getLocText_eq, Record.carried?] at hreadable ⊢
  rw [hsingle]
  cases hplaced : Dict.find? placed part with
  | none => cases blueprint <;> rfl
  | some f =>
    have hsome := hreadable (Option.isSome_of_eq_some hplaced)
    rw [hplaced] at hsome
    obtain ⟨text, htext⟩ := Option.isSome_iff_exists.1 hsome
    rw [Option.some_or, htext, Option.some_or]

theorem name_applyCreature {r : Record} (h : r.hasField "LocName" = false) (lib : Library)
    (o : Object) : (applyCreature lib o r).name = (called? lib.talk r).getD o.name := by
  have hshared : (o.applyShared lib r).name = o.name := by
    show (r.getLocText "LocName" lib.talk).getD o.name = o.name
    rw [getLocText_of_lacks h, Option.getD_none]
  unfold applyCreature mapCreature
  rw [← hshared]
  simp only
  split <;> rfl

/-- The last record with either part names the creature. -/
theorem name_of_load {h : Handle} {template : String} {models' : Models}
    (hnamed : ∀ r ∈ layers placed blueprint, r.hasField "LocName" = false)
    (ho : load lib placed blueprint (unread .creature h template) models = .ok (o, models')) :
    o.name = ((called? lib.talk placed).or (blueprint.bind (called? lib.talk))).getD "" := by
  have hread : o.name = ((layers placed blueprint).foldl (applyCreature lib)
      (unread .creature h template)).name := by
    obtain ⟨-, hplain, -⟩ := load_ok ho
    have hsame := congrArg Object.name hplain
    exact hsame
  rw [hread]
  cases blueprint with
  | none =>
    show (applyCreature lib (unread .creature h template) placed).name = _
    rw [name_applyCreature (hnamed placed List.mem_cons_self), Option.bind_none, Option.or_none]
    rfl
  | some b =>
    show (applyCreature lib (applyCreature lib (unread .creature h template) b) placed).name = _
    rw [name_applyCreature (hnamed placed (List.mem_cons_of_mem _ List.mem_cons_self)),
      name_applyCreature (hnamed b List.mem_cons_self), Option.bind_some]
    cases called? lib.talk placed <;> rfl

/-! ### Two records and one -/

theorem halved_iff {talk : TalkTable} (hnamed : Named talk placed) :
    Halved talk placed blueprint ↔
      ((placed.getLocText "FirstName" talk).isSome = true ∧ placed.getLocText "LastName" talk = none ∧
        (blueprint.bind fun b => b.getLocText "LastName" talk).getD "" ≠ "") ∨
      (placed.getLocText "FirstName" talk = none ∧ (placed.getLocText "LastName" talk).isSome = true ∧
        (blueprint.bind fun b => b.getLocText "FirstName" talk).getD "" ≠ "") := by
  have hother : ∀ part, (∃ b text, blueprint = some b ∧ b.getLocText part talk = some text ∧
      text ≠ "") ↔ (blueprint.bind fun b => b.getLocText part talk).getD "" ≠ "" := by
    intro part
    cases blueprint with
    | none => simp
    | some b => cases htext : b.getLocText part talk <;> simp [htext]
  unfold Halved
  simp only [List.mem_cons, List.not_mem_nil, or_false, Prod.mk.injEq, hother]
  constructor
  · rintro ⟨own, other, ⟨rfl, rfl⟩ | ⟨rfl, rfl⟩, hown, hlacks, hthere⟩
    · exact Or.inl ⟨hnamed.first hown, getLocText_of_lacks hlacks, hthere⟩
    · exact Or.inr ⟨getLocText_of_lacks hlacks, hnamed.last hown, hthere⟩
  · have hlacks : ∀ {part}, (placed.hasField part = true →
        (placed.getLocText part talk).isSome = true) → placed.getLocText part talk = none →
          placed.hasField part = false := by
      intro part hreadable hnone
      rw [hasField_eq_isSome hreadable, hnone, Option.isSome_none]
    rintro (⟨hown, hnone, hthere⟩ | ⟨hnone, hown, hthere⟩)
    · exact ⟨_, _, Or.inl ⟨rfl, rfl⟩, (hasField_eq_isSome hnamed.first).trans hown,
        hlacks hnamed.last hnone, hthere⟩
    · exact ⟨_, _, Or.inr ⟨rfl, rfl⟩, (hasField_eq_isSome hnamed.last).trans hown,
        hlacks hnamed.first hnone, hthere⟩

/-- A creature has the name that a single record with the parts of both records gives it exactly if
the instance does not have one part alone while the blueprint has the other one. If it does, the
creature is called by the instance's part alone. -/
theorem name_unless_halved {single : Record} {h h₁ : Handle} {template template₁ : String}
    {o₁ : Object} {models' models₁ models₁' : Models}
    (hnamed : ∀ r ∈ layers placed blueprint, Named lib.talk r)
    (hsingle : Combines single placed blueprint) (halone : single.hasField "LocName" = false)
    (ho : load lib placed blueprint (unread .creature h template) models = .ok (o, models'))
    (ho₁ : load lib single none (unread .creature h₁ template₁) models₁ = .ok (o₁, models₁')) :
    (o.name = o₁.name ↔ ¬Halved lib.talk placed blueprint) ∧
    (Halved lib.talk placed blueprint → o.name = (called? lib.talk placed).getD "") := by
  have hplaced : Named lib.talk placed := hnamed placed (List.mem_append_right _ List.mem_cons_self)
  have hname := name_of_load (fun r hr => (hnamed r hr).alone) ho
  have hname₁ : o₁.name = (called? lib.talk single).getD "" := by
    have hlayer : ∀ r ∈ layers single none, r.hasField "LocName" = false := by
      intro r hr
      obtain rfl := List.mem_singleton.1 hr
      exact halone
    rw [name_of_load hlayer ho₁, Option.bind_none, Option.or_none]
  have hcombined : called? lib.talk single = personName?
      ((placed.getLocText "FirstName" lib.talk).or
        (blueprint.bind fun b => b.getLocText "FirstName" lib.talk))
      ((placed.getLocText "LastName" lib.talk).or
        (blueprint.bind fun b => b.getLocText "LastName" lib.talk)) := by
    rw [called?, getLocText_combined hplaced.first (hsingle _ (.head _)),
      getLocText_combined hplaced.last (hsingle _ (.tail _ (.head _)))]
  have hbefore : blueprint.bind (called? lib.talk) = personName?
      (blueprint.bind fun b => b.getLocText "FirstName" lib.talk)
      (blueprint.bind fun b => b.getLocText "LastName" lib.talk) := by
    cases blueprint <;> rfl
  refine ⟨?_, fun hhalved => ?_⟩
  · rw [hname, hname₁, hcombined, hbefore, halved_iff hplaced]
    exact personName?_or _ _ _ _
  · obtain ⟨hfirst, -, -⟩ | ⟨-, hlast, -⟩ := (halved_iff hplaced).1 hhalved
    · rw [hname, called?, personName?_eq, if_pos (by rw [hfirst, Bool.true_or]), Option.some_or]
    · rw [hname, called?, personName?_eq, if_pos (by rw [hlast, Bool.or_true]), Option.some_or]

/-! ### Grik the goblin -/

def bookless : Library := ⟨.ofTexts (fun _ _ => none) fun _ _ => none, .empty⟩

/-- The blueprint of a goblin with a first and a last name. -/
def grik : Record := [("FirstName", .string "Grik"), ("LastName", .string "Goblin")]

/-- A creature with an appearance and these fields. -/
def looking (fields : Record) : Record := ("Appearance_Type", .int 0) :: fields

/-- An instance without a name is called what its blueprint is called. -/
theorem grik_named : ∃ o o₁ models models₁,
    load bookless (looking []) (some grik) (unread .creature ⟨1⟩ "goblin") ⟨.plain, 0⟩ =
      .ok (o, models) ∧
    load bookless (looking grik) none (unread .creature ⟨2⟩ "") ⟨.plain, 0⟩ = .ok (o₁, models₁) ∧
    o.name = o₁.name := by
  have hnamed : ∀ r ∈ layers (looking []) (some grik), Named bookless.talk r := by decide
  have hsingle : Combines (looking grik) (looking []) (some grik) := by
    intro part hpart
    simp only [List.mem_cons, List.not_mem_nil, or_false] at hpart
    obtain rfl | rfl := hpart
    · rfl
    · rfl
  have hwhole : ¬Halved bookless.talk (looking []) (some grik) := by
    rintro ⟨own, other, hparts, hown, -⟩
    simp only [List.mem_cons, List.not_mem_nil, or_false, Prod.mk.injEq] at hparts
    obtain ⟨rfl, rfl⟩ | ⟨rfl, rfl⟩ := hparts
    · exact absurd hown (by decide)
    · exact absurd hown (by decide)
  obtain ⟨o, models, ho⟩ : ∃ o models, load bookless (looking []) (some grik)
      (unread .creature ⟨1⟩ "goblin") ⟨.plain, 0⟩ = .ok (o, models) := ⟨_, _, rfl⟩
  obtain ⟨o₁, models₁, ho₁⟩ : ∃ o models, load bookless (looking grik) none
      (unread .creature ⟨2⟩ "") ⟨.plain, 0⟩ = .ok (o, models) := ⟨_, _, rfl⟩
  exact ⟨o, o₁, models, models₁, ho, ho₁, (name_unless_halved hnamed hsingle rfl ho ho₁).1.2 hwhole⟩

/-- An instance that gives the goblin the last name of a chief takes its first name away, and a
single record with the same parts does not. -/
theorem chief_halved :
    let chief : Record := looking [("LastName", .string "Chief")]
    let single : Record := looking [("FirstName", .string "Grik"), ("LastName", .string "Chief")]
    (∀ r ∈ layers chief (some grik), Named bookless.talk r) ∧ Combines single chief (some grik) ∧
    ∃ o o₁ models models₁,
      load bookless chief (some grik) (unread .creature ⟨1⟩ "goblin") ⟨.plain, 0⟩ =
        .ok (o, models) ∧
      load bookless single none (unread .creature ⟨2⟩ "") ⟨.plain, 0⟩ = .ok (o₁, models₁) ∧
      o.name = "Chief" ∧ o₁.name = "Grik Chief" := by
  refine ⟨by decide, ?_, _, _, _, _, rfl, rfl, by decide +kernel, by decide +kernel⟩
  intro part hpart
  simp only [List.mem_cons, List.not_mem_nil, or_false] at hpart
  obtain rfl | rfl := hpart
  · rfl
  · rfl

end Adventure.Object

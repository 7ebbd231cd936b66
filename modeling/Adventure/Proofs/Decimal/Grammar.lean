import Adventure.Decimal.Numeral
import Mathlib.Data.List.TakeWhile

/-!
# The grammar of decimal numbers

A decimal number is an optional sign, digits with at most one point among or around them, and an
optional exponent. The reader of numbers takes such a number off the front of a text; it reads a
whole text of digits, signs, points and exponent letters exactly if that is one.
-/

namespace Adventure.Decimal

/-! ### The grammar -/

/-- At least one digit. -/
def Digits (cs : List Char) : Prop := cs ≠ [] ∧ ∀ c ∈ cs, isDigit c = true

inductive Sign : List Char → Prop where
  | absent : Sign []
  | plus : Sign ['+']
  | minus : Sign ['-']

inductive Mantissa : List Char → Prop where
  | whole {ds : List Char} (whole : Digits ds) : Mantissa ds
  | pointed {ds fs : List Char} (whole : Digits ds) (fraction : fs = [] ∨ Digits fs) :
    Mantissa (ds ++ '.' :: fs)
  | fraction {fs : List Char} (fraction : Digits fs) : Mantissa ('.' :: fs)

inductive Exponent : List Char → Prop where
  | absent : Exponent []
  | present {e : Char} {s ds : List Char} (letter : e = 'e' ∨ e = 'E') (sign : Sign s)
    (digits : Digits ds) : Exponent (e :: (s ++ ds))

inductive DecimalNumber : List Char → Prop where
  | mk {s m e : List Char} (sign : Sign s) (mantissa : Mantissa m) (exponent : Exponent e) :
    DecimalNumber (s ++ (m ++ e))

/-! ### Runs of digits -/

theorem takeWhile_digits {ds rest : List Char} (hds : ∀ c ∈ ds, isDigit c = true)
    (hrest : ∀ c ∈ rest.head?, isDigit c = false) :
    (ds ++ rest).takeWhile isDigit = ds ∧ (ds ++ rest).dropWhile isDigit = rest := by
  rw [List.takeWhile_append_of_pos hds, List.dropWhile_append_of_pos hds]
  cases rest with
  | nil => simp
  | cons c rest =>
    have hc : isDigit c = false := hrest c rfl
    simp [hc]

theorem digits_takeWhile {cs : List Char} (h : cs.takeWhile isDigit ≠ []) :
    Digits (cs.takeWhile isDigit) := ⟨h, fun _ hc => List.mem_takeWhile_imp hc⟩

theorem Digits.head {ds : List Char} (h : Digits ds) (rest : List Char) :
    ∃ c, (ds ++ rest).head? = some c ∧ isDigit c = true := by
  obtain ⟨hne, hall⟩ := h
  cases ds with
  | nil => exact absurd rfl hne
  | cons c ds => exact ⟨c, rfl, hall c List.mem_cons_self⟩

theorem digits_toDigits (m : Nat) : Digits (Nat.toDigits 10 m) := by
  refine ⟨Nat.toDigits_ne_nil, fun c hc => ?_⟩
  have hdigit : c.isDigit = true := Nat.isDigit_of_mem_toDigits (by decide) (by decide) hc
  exact hdigit

theorem toList_ofNat (m : Nat) : (toString (Int.ofNat m)).toList = Nat.toDigits 10 m :=
  Nat.toList_repr

theorem toList_negSucc (m : Nat) :
    (toString (Int.negSucc m)).toList = '-' :: Nat.toDigits 10 (m + 1) := by
  show ("-" ++ Nat.repr (m + 1)).toList = _
  rw [String.toList_append, Nat.toList_repr]
  rfl

/-! ### Signs -/

theorem takeSign_sound (cs : List Char) : ∃ sign, Sign sign ∧ cs = sign ++ (takeSign cs).2 := by
  unfold takeSign
  split
  · exact ⟨['-'], .minus, rfl⟩
  · exact ⟨['+'], .plus, rfl⟩
  · exact ⟨[], .absent, rfl⟩

theorem takeSign_unsigned {cs : List Char} (h : ∀ c ∈ cs.head?, c ≠ '-' ∧ c ≠ '+') :
    takeSign cs = (false, cs) := by
  unfold takeSign
  split
  · exact absurd rfl (h '-' rfl).1
  · exact absurd rfl (h '+' rfl).2
  · rfl

theorem takeSign_complete {sign cs : List Char} (hsign : Sign sign)
    (h : ∀ c ∈ cs.head?, c ≠ '-' ∧ c ≠ '+') : (takeSign (sign ++ cs)).2 = cs := by
  cases hsign with
  | absent => exact congrArg Prod.snd (takeSign_unsigned h)
  | plus => rfl
  | minus => rfl

theorem unsigned_of_digit {c : Char} (h : isDigit c = true) : c ≠ '-' ∧ c ≠ '+' := by
  constructor <;> rintro rfl <;> cases h

/-! ### Exponents -/

theorem takeExponent_sound (cs : List Char) :
    ∃ e, Exponent e ∧ cs = e ++ (takeExponent cs).2 := by
  unfold takeExponent
  cases cs with
  | nil => exact ⟨[], .absent, rfl⟩
  | cons c cs =>
    obtain ⟨sign, hsign, hcs⟩ := takeSign_sound cs
    simp only
    split
    · rename_i h
      rw [Bool.and_eq_true, Bool.or_eq_true, beq_iff_eq, beq_iff_eq, Bool.not_eq_true',
        List.isEmpty_eq_false_iff] at h
      refine ⟨_, .present h.1 hsign (digits_takeWhile h.2), ?_⟩
      rw [List.cons_append, List.append_assoc, List.takeWhile_append_dropWhile, ← hcs]
    · exact ⟨[], .absent, rfl⟩

theorem takeExponent_complete {e : List Char} (h : Exponent e) : (takeExponent e).2 = [] := by
  cases h with
  | absent => rfl
  | @present letter sign ds hletter hsign hdigits =>
    obtain ⟨c, hc, hdigit⟩ := hdigits.head []
    rw [List.append_nil] at hc
    have hrest : (takeSign (sign ++ ds)).2 = ds := takeSign_complete hsign fun a ha => by
      obtain rfl : c = a := Option.some_inj.1 (hc.symm.trans ha)
      exact unsigned_of_digit hdigit
    have hall : ds.takeWhile isDigit = ds ∧ ds.dropWhile isDigit = [] := by
      have hrun : (ds ++ []).takeWhile isDigit = ds ∧ (ds ++ []).dropWhile isDigit = [] :=
        takeWhile_digits hdigits.2 nofun
      rwa [List.append_nil] at hrun
    have hletters : (letter == 'e' || letter == 'E') = true := by
      rcases hletter with rfl | rfl <;> rfl
    have hsome : ds.isEmpty = false := List.isEmpty_eq_false_iff.2 hdigits.1
    unfold takeExponent
    simp only [hrest, hall.1, hall.2, hletters, hsome, Bool.not_false, Bool.and_self, if_true]

theorem Exponent.head {e : List Char} (h : Exponent e) :
    ∀ c ∈ e.head?, isDigit c = false ∧ c ≠ '.' := by
  cases h with
  | absent => nofun
  | present letter _ _ =>
    intro c hc
    cases hc
    rcases letter with rfl | rfl <;> decide

/-! ### Mantissas -/

theorem takeMantissa_sound {cs whole fraction rest : List Char}
    (h : takeMantissa cs = some (whole, fraction, rest)) :
    ∃ m, Mantissa m ∧ cs = m ++ rest := by
  have hcs := List.takeWhile_append_dropWhile (p := isDigit) (l := cs)
  unfold takeMantissa at h
  simp only at h
  split at h
  · rename_i behind hpoint
    have hbehind := List.takeWhile_append_dropWhile (p := isDigit) (l := behind)
    split at h
    · cases h
    · rename_i hsome
      cases h
      rw [hpoint] at hcs
      -- One of the two runs of digits has to be there.
      by_cases hwhole : cs.takeWhile isDigit = []
      · have hfraction : behind.takeWhile isDigit ≠ [] := by
          intro hnone
          simp [hwhole, hnone] at hsome
        refine ⟨_, .fraction (digits_takeWhile hfraction), ?_⟩
        rw [List.cons_append, hbehind, ← hcs, hwhole, List.nil_append]
      · have hfraction : behind.takeWhile isDigit = [] ∨ Digits (behind.takeWhile isDigit) :=
          (eq_or_ne _ []).imp_right digits_takeWhile
        refine ⟨_, .pointed (digits_takeWhile hwhole) hfraction, ?_⟩
        rw [List.append_assoc, List.cons_append, hbehind, hcs]
  · split at h
    · cases h
    · rename_i hwhole
      cases h
      exact ⟨_, .whole (digits_takeWhile (by simpa using hwhole)), hcs.symm⟩

theorem takeMantissa_complete {m rest : List Char} (h : Mantissa m)
    (hrest : ∀ c ∈ rest.head?, isDigit c = false ∧ c ≠ '.') :
    ∃ whole fraction, takeMantissa (m ++ rest) = some (whole, fraction, rest) := by
  have hstops : ∀ c ∈ rest.head?, isDigit c = false := fun c hc => (hrest c hc).1
  have hpoint : ∀ cs : List Char, ∀ c ∈ ('.' :: cs).head?, isDigit c = false := by
    intro cs c hc
    cases hc
    rfl
  unfold takeMantissa
  cases h with
  | whole hwhole =>
    obtain ⟨hrun, hbehind⟩ := takeWhile_digits hwhole.2 hstops
    refine ⟨m, [], ?_⟩
    simp only [hrun, hbehind, List.isEmpty_eq_false_iff.2 hwhole.1]
    split
    · exact absurd rfl (hrest '.' rfl).2
    · rfl
  | @pointed ds fs hwhole hfraction =>
    obtain ⟨hrun, hbehind⟩ := takeWhile_digits hwhole.2 (hpoint (fs ++ rest))
    have hfs : ∀ c ∈ fs, isDigit c = true := by
      rcases hfraction with rfl | hfraction
      · nofun
      · exact hfraction.2
    obtain ⟨hrun', hbehind'⟩ := takeWhile_digits hfs hstops
    refine ⟨ds, fs, ?_⟩
    simp only [List.append_assoc, List.cons_append, hrun, hbehind, hrun', hbehind',
      List.isEmpty_eq_false_iff.2 hwhole.1, Bool.false_and, Bool.false_eq_true, if_false]
  | @fraction fs hfraction =>
    obtain ⟨hrun', hbehind'⟩ := takeWhile_digits hfraction.2 hstops
    have hnone : ∀ c ∈ ([] : List Char), isDigit c = true := nofun
    obtain ⟨hrun, hbehind⟩ := takeWhile_digits hnone (hpoint (fs ++ rest))
    rw [List.nil_append] at hrun hbehind
    refine ⟨[], fs, ?_⟩
    simp only [List.cons_append, hrun, hbehind, hrun', hbehind',
      List.isEmpty_eq_false_iff.2 hfraction.1, Bool.and_false, Bool.false_eq_true, if_false]

theorem Mantissa.head {m : List Char} (h : Mantissa m) (rest : List Char) :
    ∀ c ∈ (m ++ rest).head?, c ≠ '-' ∧ c ≠ '+' := by
  have hdigits : ∀ {ds : List Char}, Digits ds → ∀ rest : List Char,
      ∀ c ∈ (ds ++ rest).head?, c ≠ '-' ∧ c ≠ '+' := by
    intro ds hds rest c hc
    obtain ⟨a, ha, hdigit⟩ := hds.head rest
    obtain rfl : a = c := Option.some_inj.1 (ha.symm.trans hc)
    exact unsigned_of_digit hdigit
  cases h with
  | whole hwhole => exact hdigits hwhole rest
  | pointed hwhole _ =>
    rw [List.append_assoc]
    exact hdigits hwhole _
  | fraction _ =>
    intro c hc
    cases hc
    decide

/-! ### Numbers -/

theorem numeral?_sound {cs rest : List Char} {n : Numeral} (h : numeral? cs = some (n, rest)) :
    ∃ number, DecimalNumber number ∧ cs = number ++ rest := by
  unfold numeral? at h
  obtain ⟨sign, hsign, hcs⟩ := takeSign_sound cs
  simp only at h
  split at h
  · cases h
  · rename_i whole fraction behind hmantissa
    cases h
    obtain ⟨m, hm, hbody⟩ := takeMantissa_sound hmantissa
    obtain ⟨e, he, hbehind⟩ := takeExponent_sound behind
    refine ⟨_, .mk hsign hm he, ?_⟩
    rw [List.append_assoc, List.append_assoc, ← hbehind, ← hbody, ← hcs]

theorem numeral?_complete {cs : List Char} (h : DecimalNumber cs) :
    ∃ n, numeral? cs = some (n, []) := by
  cases h with
  | @mk sign m e hsign hm he =>
    have hbody := takeSign_complete hsign (hm.head e)
    obtain ⟨whole, fraction, hmantissa⟩ := takeMantissa_complete hm he.head
    have hexponent := takeExponent_complete he
    unfold numeral?
    simp only [hbody, hmantissa, hexponent]
    exact ⟨_, rfl⟩

/-- A text is a decimal number exactly if the reader takes one off it and nothing is left. -/
theorem decimalNumber_iff {cs : List Char} :
    DecimalNumber cs ↔ (numeral? cs).map Prod.snd = some [] := by
  rw [Option.map_eq_some_iff]
  constructor
  · intro h
    obtain ⟨n, hn⟩ := numeral?_complete h
    exact ⟨_, hn, rfl⟩
  · rintro ⟨⟨n, rest⟩, hn, rfl⟩
    obtain ⟨number, hnumber, hcs⟩ := numeral?_sound hn
    rwa [hcs, List.append_nil]

instance (cs : List Char) : Decidable (DecimalNumber cs) := decidable_of_iff _ decimalNumber_iff.symm

theorem wordBits?_of_no_n {cs : List Char} (h : ∀ c ∈ cs, c.toLower ≠ 'n') (f : Format)
    (negative : Bool) : wordBits? f negative cs = none := by
  have hword : ∀ word : String, 'n' ∈ word.toList → String.ofList (cs.map Char.toLower) ≠ word := by
    rintro word hn rfl
    rw [String.toList_ofList] at hn
    obtain ⟨c, hc, hlower⟩ := List.mem_map.1 hn
    exact h c hc hlower
  unfold wordBits?
  extract_lets sign
  split
  · exact absurd ‹_› (hword "inf" (by decide))
  · exact absurd ‹_› (hword "infinity" (by decide))
  · exact absurd ‹_› (hword "nan" (by decide))
  · rfl

theorem readFloat32_iff {cs : List Char} (h : ∀ c ∈ cs, c.toLower ≠ 'n') :
    (∃ x, readFloat32 (String.ofList cs) = .ok x) ↔ DecimalNumber cs := by
  have hbits : (∃ x, readFloat32 (String.ofList cs) = .ok x) ↔
      ∃ bits, readBits single (String.ofList cs) = .ok bits := by
    unfold readFloat32
    cases readBits single (String.ofList cs) with
    | ok bits => exact ⟨fun _ => ⟨bits, rfl⟩, fun _ => ⟨_, rfl⟩⟩
    | error e => exact ⟨nofun, nofun⟩
  rw [hbits]
  constructor
  · rintro ⟨bits, hread⟩
    unfold readBits at hread
    simp only [String.toList_ofList] at hread
    split at hread
    · cases hread
    · split at hread
      · rename_i n hnumeral
        obtain ⟨number, hnumber, hcs⟩ := numeral?_sound hnumeral
        rwa [hcs, List.append_nil]
      · obtain ⟨sign, -, hsign⟩ := takeSign_sound cs
        have hwords : ∀ c ∈ (takeSign cs).2, c.toLower ≠ 'n' :=
          fun c hc => h c (hsign ▸ List.mem_append_right sign hc)
        rw [wordBits?_of_no_n hwords] at hread
        cases hread
  · intro hnumber
    obtain ⟨n, hnumeral⟩ := numeral?_complete hnumber
    refine ⟨n.bits single, ?_⟩
    have hsome : cs.isEmpty = false := by
      cases cs with
      | nil => cases hnumeral
      | cons c cs => rfl
    unfold readBits
    simp only [String.toList_ofList, hsome, hnumeral, Bool.false_eq_true, if_false]

end Adventure.Decimal

import Adventure.Proofs.Decimal.Grammar
import Adventure.Proofs.Function.Finding
import Adventure.Proofs.Text.Pieces
import Mathlib.Data.List.Infix

/-!
# Reading and searching texts from scripts

A script that reads a number off a text is told the number that the text begins with: for a whole
number the sign and all the digits, brought into the range of script numbers, and for a decimal
number the longest beginning that is one. A script that searches a text is told the first place from
which a cut of the right length is what it looks for.
-/

namespace Adventure.Function

open Bridge
open Decimal (isDigit takeSign readFloat32 DecimalNumber)
open Text (isBlank dropBlank)

variable {σ : Type}

/-! ### Calls on texts -/

/-- The call is answered with this value. Nothing else happens, and no fault is noted. -/
def Answers (run : Runner σ) (f : Callee) (args : List Value) (site : CallSite) (s : Session σ)
    (v : Value) : Prop :=
  (call run f args site).ended s = .ok (.ok v) ∧ (call run f args site).after s = s

theorem Answers.unique {run : Runner σ} {f : Callee} {args : List Value} {site : CallSite}
    {s : Session σ} {v w : Value} (hv : Answers run f args site s v)
    (hw : Answers run f args site s w) : v = w :=
  Except.ok.inj (Except.ok.inj (hv.1.symm.trans hw.1))

theorem answers_text {f : Callee} {args : List Value} {site : CallSite} {e : Entry Builtin}
    {c : CallContext} {g : TextFunction} {v : Value} (h : f.admission table args site = .ok (e, c))
    (hg : e.handler = .text g) (hv : g.perform c = .ok v) (htype : v.type = e.signature.ret)
    (run : Runner σ) (s : Session σ) : Answers run f args site s v := by
  refine call_answers h (by rw [hg, Builtin.looks]) ?_ htype
  rw [hg]
  exact congrArg Except.ok hv

section

variable {f : Callee} (site : CallSite) (run : Runner σ) (s : Session σ)

theorem answers_length (hf : f.number? table = some 59) (text : String) :
    Answers run f [.string text] site s (.int (scriptCount text.length)) :=
  answers_text (Callee.admission_of_fill hf rfl rfl) rfl rfl rfl run s

theorem answers_cut (hf : f.number? table = some 65) (text : String) (start n : Int32) :
    Answers run f [.string text, .int start, .int n] site s
      (textValue (cut text.toList start (count n))) :=
  answers_text (Callee.admission_of_fill hf rfl rfl) rfl rfl rfl run s

theorem answers_find (hf : f.number? table = some 66) {text needle : String} {start : Int32}
    {found : Option Nat} (h : find? text.toList needle.toList (count start) = .ok found) :
    Answers run f [.string text, .string needle, .int start] site s (.int (scriptIndex found)) := by
  refine answers_text (Callee.admission_of_fill hf rfl rfl) rfl ?_ rfl run s
  show (liftM (find? text.toList needle.toList (count start)) >>= _ : Attempt Value) = _
  rw [h]
  rfl

theorem answers_ofInt (hf : f.number? table = some 92) (n : Int32) :
    Answers run f [.int n] site s (.string (toString n.toInt)) :=
  answers_text (Callee.admission_of_fill hf rfl rfl) rfl rfl rfl run s

theorem answers_toInt (hf : f.number? table = some 232) {text : String} {n : Int32}
    (h : leadingInt text.toList = .ok n) : Answers run f [.string text] site s (.int n) := by
  refine answers_text (Callee.admission_of_fill hf rfl rfl) rfl ?_ rfl run s
  show (liftM (leadingInt text.toList) >>= _ : Attempt Value) = _
  rw [h]
  rfl

theorem answers_toFloat (hf : f.number? table = some 233) {text : String} {x : Float32}
    (h : leadingFloat text.toList = .ok x) : Answers run f [.string text] site s (.float x) := by
  refine answers_text (Callee.admission_of_fill hf rfl rfl) rfl ?_ rfl run s
  show (liftM (leadingFloat text.toList) >>= _ : Attempt Value) = _
  rw [h]
  rfl

end

/-! ### Whole numbers -/

/-- How a text begins as a whole number: white space, a sign or none, digits or none, each taken as
far as it goes, and the rest. -/
structure WholeReading (text : List Char) where
  blanks : List Char
  sign : List Char
  digits : List Char
  rest : List Char
  parts : text = blanks ++ (sign ++ (digits ++ rest))
  blank : ∀ c ∈ blanks, isBlank c = true
  past_blanks : ∀ c ∈ (sign ++ (digits ++ rest)).head?, isBlank c = false
  signed : Decimal.Sign sign
  past_sign : sign = [] → ∀ c ∈ (digits ++ rest).head?, c ≠ '-' ∧ c ≠ '+'
  digit : ∀ c ∈ digits, isDigit c = true
  past_digits : ∀ c ∈ rest.head?, isDigit c = false

namespace WholeReading

variable {text : List Char}

/-- The number that is read; no digits stand for zero. -/
def value (r : WholeReading text) : Int :=
  let n : Int := Nat.ofDigitChars 10 r.digits 0
  if r.sign = ['-'] then -n else n

theorem dropBlank_eq (r : WholeReading text) : dropBlank text = r.sign ++ (r.digits ++ r.rest) := by
  conv_lhs => rw [r.parts]
  unfold dropBlank
  rw [List.dropWhile_append_of_pos r.blank]
  exact Text.dropWhile_of_head r.past_blanks

theorem takeSign_eq (r : WholeReading text) :
    takeSign (dropBlank text) = (decide (r.sign = ['-']), r.digits ++ r.rest) := by
  rw [r.dropBlank_eq]
  have hpast := r.past_sign
  generalize r.sign = sign, r.signed = hsigned at hpast ⊢
  cases hsigned with
  | absent => exact Decimal.takeSign_unsigned (hpast rfl)
  | plus => rfl
  | minus => rfl

theorem takeWhile_eq (r : WholeReading text) :
    (takeSign (dropBlank text)).2.takeWhile isDigit = r.digits := by
  rw [r.takeSign_eq]
  exact (Decimal.takeWhile_digits r.digit r.past_digits).1

theorem value_eq (r : WholeReading text) : r.value = wholeNumber (dropBlank text) := by
  unfold value wholeNumber
  rw [r.takeWhile_eq, r.takeSign_eq]
  simp only [decide_eq_true_eq]

theorem unique (r r' : WholeReading text) : r = r' := by
  have hbehind : r.digits ++ r.rest = r'.digits ++ r'.rest :=
    congrArg Prod.snd (r.takeSign_eq.symm.trans r'.takeSign_eq)
  have hdigits : r.digits = r'.digits := r.takeWhile_eq.symm.trans r'.takeWhile_eq
  have hsigned := r.dropBlank_eq.symm.trans r'.dropBlank_eq
  have hparts := r.parts.symm.trans r'.parts
  rw [hsigned] at hparts
  rw [hbehind] at hsigned
  rw [hdigits] at hbehind
  have hblanks := List.append_cancel_right hparts
  have hsign := List.append_cancel_right hsigned
  have hrest := List.append_cancel_left hbehind
  cases r
  cases r'
  simp only [mk.injEq]
  exact ⟨hblanks, hsign, hdigits, hrest⟩

theorem unsigned_of_takeSign {cs : List Char} (h : (takeSign cs).2 = cs) :
    ∀ c ∈ cs.head?, c ≠ '-' ∧ c ≠ '+' := by
  intro c hc
  cases cs with
  | nil => cases hc
  | cons a cs =>
    cases hc
    constructor <;> rintro rfl <;> exact List.cons_ne_self _ _ h.symm

theorem exists_reading (text : List Char) : Nonempty (WholeReading text) := by
  obtain ⟨sign, hsigned, hparts⟩ := Decimal.takeSign_sound (dropBlank text)
  generalize hcs : (takeSign (dropBlank text)).2 = cs at hparts
  have hdigits := List.takeWhile_append_dropWhile (p := isDigit) (l := cs)
  have hblanks : text.takeWhile isBlank ++ dropBlank text = text := List.takeWhile_append_dropWhile
  exact ⟨{
    blanks := text.takeWhile isBlank
    sign := sign
    digits := cs.takeWhile isDigit
    rest := cs.dropWhile isDigit
    parts := by rw [hdigits, ← hparts, hblanks]
    blank := fun c hc => List.mem_takeWhile_imp hc
    past_blanks := by
      rw [hdigits, ← hparts]
      exact Text.head_dropWhile text
    signed := hsigned
    past_sign := by
      rintro rfl
      rw [List.nil_append] at hparts
      rw [hparts] at hcs
      rw [hdigits]
      exact unsigned_of_takeSign hcs
    digit := fun c hc => List.mem_takeWhile_imp hc
    past_digits := Text.head_dropWhile cs }⟩

end WholeReading

theorem toInt_ofInt_clamped (n : Int) : (Int32.ofInt (clamped n)).toInt = clamped n := by
  unfold clamped
  exact Int32.toInt_ofInt_of_le (by omega) (by omega)

theorem wholeNumber_toString (n : Int) : wholeNumber (dropBlank (toString n).toList) = n := by
  have hreads : ∀ m, (Nat.toDigits 10 m).takeWhile isDigit = Nat.toDigits 10 m := fun m => by
    have hnone : ∀ c ∈ ([] : List Char).head?, isDigit c = false := nofun
    have hrun := (Decimal.takeWhile_digits (Decimal.digits_toDigits m).2 hnone).1
    rwa [List.append_nil] at hrun
  cases n with
  | ofNat m =>
    obtain ⟨c, hc, hdigit⟩ := (Decimal.digits_toDigits m).head []
    obtain ⟨hlow, hhigh⟩ := toNat_of_isDigit hdigit
    rw [List.append_nil] at hc
    have hunsigned : takeSign (Nat.toDigits 10 m) = (false, Nat.toDigits 10 m) :=
      Decimal.takeSign_unsigned fun a ha => by
        obtain rfl : c = a := Option.some_inj.1 (hc.symm.trans ha)
        exact Decimal.unsigned_of_digit hdigit
    have hblank : dropBlank (Nat.toDigits 10 m) = Nat.toDigits 10 m := by
      obtain ⟨cs, hcs⟩ := List.head?_eq_some_iff.1 hc
      rw [hcs]
      exact List.dropWhile_cons_of_neg (by rw [Text.isBlank_of_ascii (by omega) (by omega)]; decide)
    unfold wholeNumber
    simp only [Decimal.toList_ofNat, hblank, hunsigned, hreads, Nat.ofDigitChars_ten_toDigits]
    rfl
  | negSucc m =>
    have hblank : dropBlank ('-' :: Nat.toDigits 10 (m + 1)) = '-' :: Nat.toDigits 10 (m + 1) := rfl
    unfold wholeNumber
    simp only [Decimal.toList_negSucc, hblank, takeSign, hreads, Nat.ofDigitChars_ten_toDigits]
    rfl

/-- A script reads a whole number off any text: the one that stands behind white space, with all its
digits, brought into the range of script numbers, or zero if there are no digits. So it reads back
every number that a script has made a text of. -/
theorem stringToInt_clamps {toInt ofInt : Callee} (htoInt : toInt.number? table = some 232)
    (hofInt : ofInt.number? table = some 92) (site : CallSite) (run : Runner σ) (s : Session σ) :
    (∀ text : String, ∃ r : WholeReading text.toList, (∀ r', r' = r) ∧
      ∃ n : Int32, n.toInt = max (-2147483648) (min 2147483647 r.value) ∧
        Answers run toInt [.string text] site s (.int n)) ∧
    ∀ n : Int32, ∃ text, Answers run ofInt [.int n] site s (.string text) ∧
      Answers run toInt [.string text] site s (.int n) := by
  constructor
  · intro text
    obtain ⟨r⟩ := WholeReading.exists_reading text.toList
    refine ⟨r, fun r' => r'.unique r, Int32.ofInt (clamped r.value), toInt_ofInt_clamped _, ?_⟩
    rw [r.value_eq]
    exact answers_toInt site run s htoInt (leadingInt_eq text.toList)
  · intro n
    refine ⟨_, answers_ofInt site run s hofInt n, answers_toInt site run s htoInt ?_⟩
    have hrange : clamped n.toInt = n.toInt := by
      have hlow := n.le_toInt
      have hhigh := n.toInt_lt
      unfold clamped
      omega
    rw [leadingInt_eq, wholeNumber_toString, hrange, Int32.ofInt_toInt]

/-- A number below the range of script numbers, behind a wide blank and with zeros before it. -/
def belowRange : WholeReading "\u3000-0002147483649.5".toList where
  blanks := ['\u3000']
  sign := ['-']
  digits := "0002147483649".toList
  rest := ['.', '5']
  parts := by rfl
  blank := List.forall_mem_singleton.2 (by decide)
  past_blanks := by
    rintro _ ⟨⟩
    decide
  signed := .minus
  past_sign := nofun
  digit := List.all_eq_true.1 (by decide)
  past_digits := by
    rintro _ ⟨⟩
    decide

/-- A number out of range on the lower side reads as the lowest one. -/
theorem far_below_zero : (Callee.name "StringToInt").number? table = some 232 ∧
    (Callee.name "IntToString").number? table = some 92 ∧
    Answers .idle (.name "StringToInt") [.string "\u3000-0002147483649.5"] .none talking
      (.int (-2147483648)) := by
  have htoInt : (Callee.name "StringToInt").number? table = some 232 := by decide
  have hofInt : (Callee.name "IntToString").number? table = some 92 := by decide
  refine ⟨htoInt, hofInt, ?_⟩
  obtain ⟨r, hunique, n, hn, hanswers⟩ := (stringToInt_clamps htoInt hofInt .none .idle talking).1
    "\u3000-0002147483649.5"
  have hvalue : belowRange.value = -2147483649 := by rfl
  rw [← hunique belowRange, hvalue] at hn
  have hlowest : n = -2147483648 := Int32.toInt_inj.1 (hn.trans (by decide))
  rwa [hlowest] at hanswers

/-! ### Decimal numbers -/

theorem isNumeric_of_digit {c : Char} (h : isDigit c = true) : isNumeric c = true := by
  unfold isNumeric
  rw [h, Bool.true_or]

theorem numeric_of_digits {ds : List Char} (h : Decimal.Digits ds) : ∀ c ∈ ds, isNumeric c = true :=
  fun c hc => isNumeric_of_digit (h.2 c hc)

theorem numeric_of_sign {sign : List Char} (h : Decimal.Sign sign) :
    ∀ c ∈ sign, isNumeric c = true := by
  cases h with
  | absent => nofun
  | minus | plus => exact List.forall_mem_singleton.2 (by decide)

theorem numeric_of_mantissa {m : List Char} (h : Decimal.Mantissa m) :
    ∀ c ∈ m, isNumeric c = true := by
  cases h with
  | whole hwhole => exact numeric_of_digits hwhole
  | pointed hwhole hfraction =>
    intro c hc
    rw [List.mem_append, List.mem_cons] at hc
    rcases hc with hc | rfl | hc
    · exact numeric_of_digits hwhole c hc
    · rfl
    · rcases hfraction with rfl | hfraction
      · cases hc
      · exact numeric_of_digits hfraction c hc
  | fraction hfraction =>
    rw [List.forall_mem_cons]
    exact ⟨rfl, numeric_of_digits hfraction⟩

theorem numeric_of_exponent {e : List Char} (h : Decimal.Exponent e) :
    ∀ c ∈ e, isNumeric c = true := by
  cases h with
  | absent => nofun
  | present letter hsign hdigits =>
    rw [List.forall_mem_cons, List.forall_mem_append]
    refine ⟨?_, numeric_of_sign hsign, numeric_of_digits hdigits⟩
    rcases letter with rfl | rfl <;> rfl

theorem numeric_of_number {cs : List Char} (h : DecimalNumber cs) : ∀ c ∈ cs, isNumeric c = true := by
  obtain ⟨hsign, hmantissa, hexponent⟩ := h
  rw [List.forall_mem_append, List.forall_mem_append]
  exact ⟨numeric_of_sign hsign, numeric_of_mantissa hmantissa, numeric_of_exponent hexponent⟩

/-- Of the letters only e stands in numbers. -/
theorem toLower_of_numeric {c : Char} (h : isNumeric c = true) : c.toLower ≠ 'n' := by
  unfold isNumeric at h
  rw [Bool.or_eq_true, decide_eq_true_eq] at h
  rcases h with hdigit | hmem
  · have hbounds := toNat_of_isDigit hdigit
    rw [Ne, ← Char.toNat_inj, Text.toNat_toLower]
    have hupper : ¬ c.isUpper = true := by
      rw [Text.isUpper_iff]
      omega
    rw [if_neg hupper]
    show c.toNat ≠ 110
    omega
  · simp only [List.mem_cons, List.not_mem_nil, or_false] at hmem
    rcases hmem with rfl | rfl | rfl | rfl | rfl <;> decide

theorem reads_iff {cs : List Char} (h : ∀ c ∈ cs, isNumeric c = true) :
    (∃ x, readFloat32 (String.ofList cs) = .ok x) ↔ DecimalNumber cs :=
  Decimal.readFloat32_iff fun c hc => toLower_of_numeric (h c hc)

/-- The longest beginning of a text that is a decimal number. -/
structure LongestNumber (cs p : List Char) : Prop where
  begins : p <+: cs
  number : DecimalNumber p
  longest : ∀ q, q <+: cs → DecimalNumber q → q.length ≤ p.length

/-- All numbers that a text begins with lie before its first character that stands in no number. -/
theorem begins_candidate {cs p : List Char} (hp : p <+: cs) (hnumber : DecimalNumber p) :
    p <+: cs.takeWhile isNumeric := by
  obtain ⟨rest, rfl⟩ := hp
  rw [List.takeWhile_append_of_pos (numeric_of_number hnumber)]
  exact List.prefix_append _ _

/-- Each of them is read where it ends among the candidates. -/
theorem reads_candidate {cs p : List Char} (hp : p <+: dropBlank cs) (hnumber : DecimalNumber p) :
    0 < p.length ∧ p.length ≤ (candidate cs).length ∧
      ∃ x, readFloat32 (String.ofList ((candidate cs).take p.length)) = .ok x := by
  have hcandidate : p <+: candidate cs := begins_candidate hp hnumber
  refine ⟨?_, hcandidate.length_le, ?_⟩
  · rw [List.length_pos_iff]
    rintro rfl
    obtain ⟨n, hn⟩ := Decimal.numeral?_complete hnumber
    cases hn
  · rw [← List.prefix_iff_eq_take.1 hcandidate]
    exact (reads_iff (numeric_of_number hnumber)).2 hnumber

/-- A script reads a decimal number off any text: of the beginnings of the text behind white space
that are decimal numbers it takes the longest, and is told zero if there is none, or if its value is
out of range. -/
theorem stringToFloat_longest {f : Callee} (hf : f.number? table = some 233) (text : String)
    (site : CallSite) (run : Runner σ) (s : Session σ) :
    ∃ x, Answers run f [.string text] site s (.float x) ∧
      ((∃ p y, LongestNumber (dropBlank text.toList) p ∧ readFloat32 (String.ofList p) = .ok y ∧
          x = if y.isFinite then y else 0) ∨
        (∀ p, p <+: dropBlank text.toList → ¬ DecimalNumber p) ∧ x = 0) := by
  obtain ⟨read, hread, hsome, hnone⟩ := leadingFloat_eq text.toList
  refine ⟨_, answers_toFloat site run s hf hread, ?_⟩
  cases read with
  | none =>
    refine .inr ⟨fun p hp hnumber => ?_, rfl⟩
    obtain ⟨hpos, hwithin, x, hx⟩ := reads_candidate hp hnumber
    exact hnone rfl p.length hpos hwithin x hx
  | some y =>
    obtain ⟨k, hk⟩ := hsome y rfl
    have hbegins : (candidate text.toList).take k <+: candidate text.toList := List.take_prefix _ _
    have hnumeric : ∀ c ∈ (candidate text.toList).take k, isNumeric c = true :=
      fun c hc => List.mem_takeWhile_imp (hbegins.subset hc)
    refine .inl ⟨_, y, ⟨hbegins.trans (List.takeWhile_prefix _), (reads_iff hnumeric).1 ⟨y, hk.reads⟩,
      fun q hq hnumber => ?_⟩, hk.reads, ?_⟩
    · obtain ⟨-, hwithin, x, hx⟩ := reads_candidate hq hnumber
      rw [List.length_take_of_le hk.within]
      by_contra hlonger
      exact hk.longest q.length (by omega) hwithin x hx
    · cases hy : y.isFinite <;> simp [hy, Option.filter]

/-- An exponent without digits is no part of the number. -/
theorem exponent_missing : (Callee.name "StringToFloat").number? table = some 233 ∧ ∃ x y,
    Answers .idle (.name "StringToFloat") [.string "\u00a0-12.5e+x"] .none talking (.float x) ∧
      readFloat32 "-12.5" = .ok y ∧ x = if y.isFinite then y else 0 := by
  have hf : (Callee.name "StringToFloat").number? table = some 233 := by decide
  refine ⟨hf, ?_⟩
  obtain ⟨x, hanswers, hreading⟩ :=
    stringToFloat_longest hf "\u00a0-12.5e+x" .none .idle talking
  have hbehind : dropBlank "\u00a0-12.5e+x".toList = "-12.5e+x".toList := by rfl
  rw [hbehind] at hreading
  have hnumber : DecimalNumber "-12.5".toList := by decide
  have hbegins : "-12.5".toList <+: "-12.5e+x".toList := by decide
  rcases hreading with ⟨p, y, hp, hy, hx⟩ | ⟨hnone, -⟩
  · have hnumbers : ∀ q ∈ "-12.5e+x".toList.inits, DecimalNumber q → q.length ≤ 5 := by decide
    have hshort := hnumbers p ((List.mem_inits _ _).2 hp.begins) hp.number
    have hlong : 5 ≤ p.length := hp.longest _ hbegins hnumber
    have hlength : p.length = 5 := by omega
    obtain rfl : p = "-12.5".toList := by
      rw [List.prefix_iff_eq_take.1 hp.begins, hlength]
      rfl
    exact ⟨x, y, hanswers, hy, hx⟩
  · exact absurd hnumber (hnone _ hbegins)

/-! ### Searching -/

theorem toInt_ofInt_of_lt {n : Nat} (h : n < 2147483648) : (Int32.ofInt n).toInt = n :=
  Int32.toInt_ofInt_of_le (by omega) (by omega)

theorem count_scriptCount {n : Nat} (h : n < 2147483648) : count (scriptCount n) = n := by
  unfold count scriptCount
  rw [min_eq_left (by omega), toInt_ofInt_of_lt h, Int.toNat_natCast]

theorem scriptIndex_of_lt {k : Nat} (h : k < 2147483648) : (scriptIndex (some k)).toInt = k := by
  show (if k ≤ 2147483647 then Int32.ofInt k else -1).toInt = k
  rw [if_pos (by omega), toInt_ofInt_of_lt h]

theorem start_le_iff {start k : Int32} (hk : 0 ≤ k) : start ≤ k ↔ count start ≤ count k := by
  rw [Int32.le_iff_toInt_le] at hk ⊢
  have hzero : (0 : Int32).toInt = 0 := rfl
  unfold count
  omega

theorem part_eq_iff {text needle : String} (hneedle : needle.length < 2147483648) {k : Int32}
    (hk : 0 ≤ k) : String.ofList (cut text.toList k (count (scriptCount needle.length))) = needle ↔
      StandsAt text.toList needle.toList (count k) := by
  have hnotbefore : ¬ k < 0 := Int32.not_lt.2 hk
  rw [count_scriptCount hneedle, ← String.length_toList]
  unfold cut StandsAt
  rw [if_neg hnotbefore]
  constructor
  · intro h
    have htexts := congrArg String.toList h
    rwa [String.toList_ofList] at htexts
  · intro h
    rw [h, String.ofList_toList]

/-- A script that searches a text of fewer than `2 ^ 31` characters for another is told the first
place, not before the beginning nor before where it starts, from which a cut as long as the needle
is the needle; and it is told -1 exactly if there is no such place or the needle is empty. -/
theorem findSubString_first {find cutting length : Callee} (hfind : find.number? table = some 66)
    (hcutting : cutting.number? table = some 65) (hlength : length.number? table = some 59)
    {text needle : String} (htext : text.length < 2147483648) (hneedle : needle.length < 2147483648)
    (start : Int32) (site : CallSite) (run : Runner σ) (s : Session σ) :
    ∃ (n place : Int32) (part : Int32 → String),
      Answers run length [.string needle] site s (.int n) ∧
      Answers run find [.string text, .string needle, .int start] site s (.int place) ∧
      (∀ k, Answers run cutting [.string text, .int k, .int n] site s (.string (part k))) ∧
      (place = -1 ↔ needle = "" ∨ ∀ k, 0 ≤ k → start ≤ k → part k ≠ needle) ∧
      (place ≠ -1 → (0 ≤ place ∧ start ≤ place ∧ part place = needle) ∧
        ∀ k, 0 ≤ k → start ≤ k → part k = needle → place ≤ k) := by
  obtain ⟨found, hfound, hnone, hsome⟩ := find?_eq text.toList needle.toList (count start)
  refine ⟨_, _, _, answers_length site run s hlength needle, answers_find site run s hfind hfound,
    fun k => answers_cut site run s hcutting text k _, ?_⟩
  cases found with
  | none =>
    refine ⟨⟨fun _ => ?_, fun _ => rfl⟩, fun hplace => absurd rfl hplace⟩
    rcases hnone rfl with hempty | hnowhere
    · exact .inl (String.toList_eq_nil_iff.1 hempty)
    · refine .inr fun k hk hstart hpart => ?_
      exact hnowhere _ ((start_le_iff hk).1 hstart) ((part_eq_iff hneedle hk).1 hpart)
  | some k =>
    obtain ⟨hsomething, hfirst⟩ := hsome k rfl
    have hlt : k < 2147483648 := by
      have hwithin := hfirst.within
      simp only [String.length_toList] at hwithin
      omega
    have hindex := scriptIndex_of_lt hlt
    generalize scriptIndex (some k) = place at hindex ⊢
    have hplace : 0 ≤ place := by
      rw [Int32.le_iff_toInt_le, hindex]
      exact Int.natCast_nonneg k
    have hcount : count place = k := by
      unfold count
      rw [hindex, Int.toNat_natCast]
    have hstart : start ≤ place := (start_le_iff hplace).2 (hcount ▸ hfirst.from_start)
    have hpart := (part_eq_iff hneedle hplace).2 (hcount ▸ hfirst.stands)
    refine ⟨⟨?_, ?_⟩, fun _ => ⟨⟨hplace, hstart, hpart⟩, fun j hj hfrom hthere => ?_⟩⟩
    · rintro rfl
      exact absurd hplace (by decide)
    · rintro (rfl | hnowhere)
      · exact absurd rfl hsomething
      · exact absurd hpart (hnowhere place hplace hstart)
    · by_contra hbefore
      refine hfirst.first (count j) ((start_le_iff hj).1 hfrom) ?_ ((part_eq_iff hneedle hj).1 hthere)
      rw [start_le_iff hj, hcount] at hbefore
      omega

/-- The search counts in characters, whatever bytes they take. It starts behind the first place. -/
theorem second_wave : (Callee.name "FindSubString").number? table = some 66 ∧
    (Callee.name "GetSubString").number? table = some 65 ∧
    (Callee.name "GetStringLength").number? table = some 59 ∧
    "🌊é🌊é🌊".length < 2147483648 ∧ "é🌊".length < 2147483648 ∧
    Answers .idle (.name "FindSubString") [.string "🌊é🌊é🌊", .string "é🌊", .int 2] .none talking
      (.int 3) := by
  have hfind : (Callee.name "FindSubString").number? table = some 66 := by decide
  have hcutting : (Callee.name "GetSubString").number? table = some 65 := by decide
  have hlength : (Callee.name "GetStringLength").number? table = some 59 := by decide
  have htext : "🌊é🌊é🌊".length < 2147483648 := by decide
  have hneedle : "é🌊".length < 2147483648 := by decide
  obtain ⟨n, place, part, hn, hplace, hpart, hnone, hfirst⟩ :=
    findSubString_first hfind hcutting hlength htext hneedle 2 .none .idle talking
  refine ⟨hfind, hcutting, hlength, htext, hneedle, ?_⟩
  obtain rfl : n = 2 :=
    (Value.int.inj ((answers_length .none .idle talking hlength "é🌊").unique hn)).symm
  have hparts : ∀ k, part k = String.ofList (cut "🌊é🌊é🌊".toList k 2) := fun k =>
    Value.string.inj ((hpart k).unique (answers_cut .none .idle talking hcutting _ k 2))
  have hthere : part 3 = "é🌊" := (hparts 3).trans (by decide)
  have hsomewhere : place ≠ -1 := fun hnowhere =>
    (hnone.1 hnowhere).elim (by decide) fun h => h 3 (by decide) (by decide) hthere
  obtain ⟨⟨-, hstart, hmatches⟩, hleast⟩ := hfirst hsomewhere
  have hbefore : part 2 ≠ "é🌊" := by
    rw [hparts]
    decide
  have hend : place ≤ 3 := hleast 3 (by decide) (by decide) hthere
  have hplaces : place = 2 ∨ place = 3 := by
    rw [Int32.le_iff_toInt_le] at hstart hend
    rw [← Int32.toInt_inj, ← Int32.toInt_inj]
    change 2 ≤ place.toInt at hstart
    change place.toInt ≤ 3 at hend
    change place.toInt = 2 ∨ place.toInt = 3
    omega
  rcases hplaces with rfl | rfl
  · exact absurd hmatches hbefore
  · exact hplace

end Adventure.Function

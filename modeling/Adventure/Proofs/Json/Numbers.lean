import Adventure.Json.Reader
import Adventure.Json.Writer
import Adventure.Proofs.Decimal.Grammar
import Adventure.Proofs.Text.Slice

/-!
# Numbers inside JSON texts

A reader of numbers looks no further than the number: what it takes off the front of a text it also
takes off when something follows that no number goes on with. So a number is read in the middle of a
text as it is read alone. A whole number that fits eight bytes is read back from its digits. No text
of a number has a blank in it.
-/

namespace Adventure.Json

open Decimal

/-! ### Behind a number -/

/-- No number goes on with these characters. -/
def Stops (rest : List Char) : Prop :=
  ∀ c ∈ rest.head?, isDigit c = false ∧ c ≠ '.' ∧ c ≠ 'e' ∧ c ≠ 'E'

theorem stops_nil : Stops [] := nofun

theorem stops_cons {c : Char} (h : isDigit c = false ∧ c ≠ '.' ∧ c ≠ 'e' ∧ c ≠ 'E')
    (rest : List Char) : Stops (c :: rest) := by
  intro a ha
  cases ha
  exact h

theorem head_append {P : Char → Prop} {cs rest : List Char} (hcs : ∀ c ∈ cs.head?, P c)
    (hrest : ∀ c ∈ rest.head?, P c) : ∀ c ∈ (cs ++ rest).head?, P c := by
  cases cs with
  | nil => exact hrest
  | cons c cs => exact hcs

/-- The reader takes the same off a text whatever stands behind it that no number goes on with. -/
def TakesFront {α : Type} (read : List Char → Reading α) : Prop :=
  ∀ (cs left : List Char) (a : α), read cs = .ok (a, left) →
    left <:+ cs ∧ ∀ rest, Stops rest → read (cs ++ rest) = .ok (a, left ++ rest)

theorem run_append (cs : List Char) {rest : List Char} (h : Stops rest) :
    (cs ++ rest).takeWhile isDigit = cs.takeWhile isDigit ∧
      (cs ++ rest).dropWhile isDigit = cs.dropWhile isDigit ++ rest := by
  have hbehind : ∀ c ∈ (cs.dropWhile isDigit ++ rest).head?, isDigit c = false :=
    head_append (Text.head_dropWhile cs) fun c hc => (h c hc).1
  have hrun : ∀ c ∈ cs.takeWhile isDigit, isDigit c = true := fun c hc => List.mem_takeWhile_imp hc
  have hsplit := takeWhile_digits hrun hbehind
  rwa [← List.append_assoc, List.takeWhile_append_dropWhile] at hsplit

/-! ### The parts of a number -/

theorem takesFront_floatOfParts (negative : Bool) (digits : Nat) (e : Int) :
    TakesFront (floatOfParts negative digits e) := by
  intro cs left x h
  unfold floatOfParts at h ⊢
  cases hscaled : scaleFloat 8 (UInt64.ofNat digits).toFloat e with
  | none =>
    rw [hscaled] at h
    cases h
  | some y =>
    rw [hscaled] at h
    cases h
    exact ⟨List.suffix_refl _, fun rest _ => rfl⟩

theorem takesFront_exponentRun : TakesFront exponentRun := by
  intro cs left run h
  cases cs with
  | nil => cases h
  | cons c cs =>
    unfold exponentRun at h ⊢
    simp only at h
    split at h
    · rename_i hdigit
      cases h
      refine ⟨List.dropWhile_suffix _, fun rest hrest => ?_⟩
      obtain ⟨hrun, hbehind⟩ := run_append (c :: cs) hrest
      rw [List.cons_append] at hrun hbehind
      simp only [List.cons_append, if_pos hdigit, hrun, hbehind]
    · cases h

theorem takeSign_append {cs : List Char} (h : cs ≠ []) (rest : List Char) :
    takeSign (cs ++ rest) = ((takeSign cs).1, (takeSign cs).2 ++ rest) := by
  cases cs with
  | nil => exact absurd rfl h
  | cons c cs =>
    rw [List.cons_append]
    unfold takeSign
    split
    · rename_i hc; cases hc; rfl
    · rename_i hc; cases hc; rfl
    · rename_i hm hp
      split
      · rename_i hc; cases hc; exact absurd rfl (hm _)
      · rename_i hc; cases hc; exact absurd rfl (hp _)
      · rfl

theorem takesFront_readExponent (negative : Bool) (digits : Nat) (start : Int) :
    TakesFront (readExponent negative digits start) := by
  intro cs left x h
  unfold readExponent at h ⊢
  simp only [bind, Except.bind, pure, Except.pure] at h ⊢
  split at h
  · cases h
  · rename_i taken hrun
    obtain ⟨run, behind⟩ := taken
    have hsome : cs ≠ [] := by
      rintro rfl
      cases hrun
    obtain ⟨hbehind, hrunOn⟩ := takesFront_exponentRun _ _ _ hrun
    obtain ⟨sign, -, hcs⟩ := takeSign_sound cs
    have hsuffix : behind <:+ cs := hbehind.trans ⟨sign, hcs.symm⟩
    simp only at h
    have hon : ∀ rest, Stops rest → exponentRun (takeSign (cs ++ rest)).2 =
        .ok (run, behind ++ rest) ∧ (takeSign (cs ++ rest)).1 = (takeSign cs).1 := by
      intro rest hrest
      rw [takeSign_append hsome]
      exact ⟨hrunOn rest hrest, rfl⟩
    split at h
    · rename_i hfits
      obtain ⟨hleft, hfloat⟩ := takesFront_floatOfParts _ _ _ _ _ _ h
      refine ⟨hleft.trans hsuffix, fun rest hrest => ?_⟩
      simp only [(hon rest hrest).1, (hon rest hrest).2, if_pos hfits]
      exact hfloat rest hrest
    · rename_i hlong
      split at h
      · cases h
      · rename_i hzero
        cases h
        refine ⟨hsuffix, fun rest hrest => ?_⟩
        simp only [(hon rest hrest).1, (hon rest hrest).2, if_neg hlong, if_neg hzero]

theorem readScale_of_head {cs : List Char} (h : ∀ c ∈ cs.head?, c ≠ 'e' ∧ c ≠ 'E')
    (negative : Bool) (digits : Nat) (start : Int) :
    readScale negative digits start cs = floatOfParts negative digits start cs := by
  unfold readScale
  split
  · exact absurd rfl (h _ rfl).1
  · exact absurd rfl (h _ rfl).2
  · rfl

theorem takesFront_readScale (negative : Bool) (digits : Nat) (start : Int) :
    TakesFront (readScale negative digits start) := by
  have hexponent : ∀ (c : Char) (cs left : List Char) (x : Float),
      readExponent negative digits start cs = .ok (x, left) →
        left <:+ c :: cs ∧ ∀ rest, Stops rest →
          readExponent negative digits start (cs ++ rest) = .ok (x, left ++ rest) := by
    intro c cs left x h
    obtain ⟨hleft, hon⟩ := takesFront_readExponent _ _ _ _ _ _ h
    exact ⟨hleft.trans (List.suffix_cons _ _), hon⟩
  intro cs left x h
  by_cases hhead : ∀ c ∈ cs.head?, c ≠ 'e' ∧ c ≠ 'E'
  · rw [readScale_of_head hhead] at h
    obtain ⟨hleft, hon⟩ := takesFront_floatOfParts _ _ _ _ _ _ h
    refine ⟨hleft, fun rest hrest => ?_⟩
    rw [readScale_of_head (head_append hhead fun c hc => (hrest c hc).2.2)]
    exact hon rest hrest
  · unfold readScale at h
    split at h
    · exact hexponent _ _ _ _ h
    · exact hexponent _ _ _ _ h
    · rename_i he hE
      refine absurd (fun c hc => ?_) hhead
      obtain ⟨behind, rfl⟩ := List.head?_eq_some_iff.1 hc
      exact ⟨fun hce => he behind (by rw [hce]), fun hcE => hE behind (by rw [hcE])⟩

theorem readFraction_of_digits {cs : List Char} (h : cs.takeWhile isDigit ≠ []) (negative : Bool)
    (digits : Nat) (before : Int) :
    readFraction negative digits before cs =
      readScale negative (absorb wholeMax digits 0 (cs.takeWhile isDigit)).1
        (before - (absorb wholeMax digits 0 (cs.takeWhile isDigit)).2.1)
        (cs.dropWhile isDigit) := by
  unfold readFraction
  cases hrun : cs.takeWhile isDigit with
  | nil => exact absurd hrun h
  | cons d ds => rfl

theorem takesFront_readFraction (negative : Bool) (digits : Nat) (before : Int) :
    TakesFront (readFraction negative digits before) := by
  intro cs left x h
  by_cases hrun : cs.takeWhile isDigit = []
  · unfold readFraction at h
    rw [hrun] at h
    cases cs <;> cases h
  · rw [readFraction_of_digits hrun] at h
    obtain ⟨hleft, hon⟩ := takesFront_readScale _ _ _ _ _ _ h
    refine ⟨hleft.trans (List.dropWhile_suffix _), fun rest hrest => ?_⟩
    obtain ⟨hsame, hbehind⟩ := run_append cs hrest
    rw [readFraction_of_digits (hsame.symm ▸ hrun), hsame, hbehind]
    exact hon rest hrest

/-! ### Whole numbers -/

theorem TakesFront.map {α β : Type} {read : List Char → Reading α} (h : TakesFront read)
    (f : α → β) : TakesFront fun cs => (read cs).map fun r => (f r.1, r.2) := by
  intro cs left b hmap
  simp only at hmap ⊢
  cases hread : read cs with
  | error fault =>
    rw [hread] at hmap
    cases hmap
  | ok taken =>
    obtain ⟨a, behind⟩ := taken
    rw [hread] at hmap
    cases hmap
    obtain ⟨hleft, hon⟩ := h _ _ _ hread
    refine ⟨hleft, fun rest hrest => ?_⟩
    rw [hon rest hrest]
    rfl

theorem TakesFront.behind {α : Type} {read : List Char → Reading α} (h : TakesFront read) (c : Char)
    {cs left : List Char} {a : α} (hread : read cs = .ok (a, left)) :
    left <:+ c :: cs ∧ ∀ rest, Stops rest → read (cs ++ rest) = .ok (a, left ++ rest) := by
  obtain ⟨hleft, hon⟩ := h _ _ _ hread
  exact ⟨hleft.trans (List.suffix_cons _ _), hon⟩

/-- What a number without a fraction and an exponent is read as. -/
def readWhole (negative : Bool) (digits : Nat) (excess cs : List Char) : Reading Number :=
  if excess.isEmpty then .ok (wholeNumber negative digits, cs)
  else (floatOfParts negative digits excess.length cs).map fun r => (.double r.1, r.2)

theorem takesFront_readWhole (negative : Bool) (digits : Nat) (excess : List Char) :
    TakesFront (readWhole negative digits excess) := by
  unfold readWhole
  split
  · intro cs left n h
    cases h
    exact ⟨List.suffix_refl _, fun rest _ => rfl⟩
  · exact (takesFront_floatOfParts _ _ _).map _

theorem readTail_of_head {cs : List Char} (h : ∀ c ∈ cs.head?, c ≠ '.' ∧ c ≠ 'e' ∧ c ≠ 'E')
    (negative : Bool) (digits : Nat) (excess : List Char) :
    readTail negative digits excess cs = readWhole negative digits excess cs := by
  unfold readTail readWhole
  split
  · exact absurd rfl (h _ rfl).1
  · exact absurd rfl (h _ rfl).2.1
  · exact absurd rfl (h _ rfl).2.2
  · rfl

theorem takesFront_readTail (negative : Bool) (digits : Nat) (excess : List Char) :
    TakesFront (readTail negative digits excess) := by
  intro cs left n h
  by_cases hhead : ∀ c ∈ cs.head?, c ≠ '.' ∧ c ≠ 'e' ∧ c ≠ 'E'
  · rw [readTail_of_head hhead] at h
    obtain ⟨hleft, hon⟩ := takesFront_readWhole _ _ _ _ _ _ h
    refine ⟨hleft, fun rest hrest => ?_⟩
    rw [readTail_of_head (head_append hhead fun c hc => (hrest c hc).2)]
    exact hon rest hrest
  · unfold readTail at h
    simp only at h
    split at h
    · exact ((takesFront_readFraction _ _ _).map _).behind _ h
    · exact ((takesFront_readExponent _ _ _).map _).behind _ h
    · exact ((takesFront_readExponent _ _ _).map _).behind _ h
    · rename_i hpoint he hE
      refine absurd (fun c hc => ?_) hhead
      obtain ⟨behind, rfl⟩ := List.head?_eq_some_iff.1 hc
      exact ⟨fun heq => hpoint behind (by rw [heq]), fun heq => he behind (by rw [heq]),
        fun heq => hE behind (by rw [heq])⟩

theorem readUnsigned_of_digit {c : Char} {cs : List Char} (hdigit : isDigit c = true)
    (hzero : c = '0' → ∀ d ∈ cs.head?, isDigit d = false) (negative : Bool) :
    readUnsigned negative (c :: cs) =
      readTail negative (absorb wholeMax 0 0 ((c :: cs).takeWhile isDigit)).1
        (absorb wholeMax 0 0 ((c :: cs).takeWhile isDigit)).2.2 ((c :: cs).dropWhile isDigit) := by
  unfold readUnsigned
  split
  · rename_i hnil
    cases hnil
  · rename_i d behind hcs
    cases hcs
    have hd : isDigit d = false := hzero rfl d rfl
    have hnone : ∀ a ∈ (d :: behind).head?, isDigit a = false := hzero rfl
    rw [if_neg (by rw [hd]; exact Bool.false_ne_true), List.takeWhile_cons_of_pos hdigit,
      List.dropWhile_cons_of_pos hdigit, Text.takeWhile_of_head hnone, Text.dropWhile_of_head hnone]
    rfl
  · rename_i hcs
    cases hcs
    exact if_pos hdigit

theorem begins_of_readUnsigned {negative : Bool} {cs left : List Char} {n : Number}
    (h : readUnsigned negative cs = .ok (n, left)) :
    ∃ c behind, cs = c :: behind ∧ isDigit c = true ∧
      (c = '0' → ∀ d ∈ behind.head?, isDigit d = false) := by
  unfold readUnsigned at h
  split at h
  · cases h
  · rename_i d behind
    split at h
    · cases h
    · rename_i hdigit
      refine ⟨'0', d :: behind, rfl, rfl, fun _ a ha => ?_⟩
      cases ha
      exact eq_false_of_ne_true hdigit
  · rename_i c behind hzero
    split at h
    · rename_i hdigit
      refine ⟨c, behind, rfl, hdigit, fun hc d hd => ?_⟩
      obtain ⟨ds, rfl⟩ := List.head?_eq_some_iff.1 hd
      exact absurd rfl (hzero d ds hc)
    · cases h

theorem takesFront_readUnsigned (negative : Bool) : TakesFront (readUnsigned negative) := by
  intro cs left n h
  obtain ⟨c, behind, rfl, hdigit, hzero⟩ := begins_of_readUnsigned h
  rw [readUnsigned_of_digit hdigit hzero] at h
  obtain ⟨hleft, hon⟩ := takesFront_readTail _ _ _ _ _ _ h
  refine ⟨hleft.trans (List.dropWhile_suffix _), fun rest hrest => ?_⟩
  obtain ⟨hrun, hbehind⟩ := run_append (c :: behind) hrest
  have hzero' : c = '0' → ∀ d ∈ (behind ++ rest).head?, isDigit d = false :=
    fun hc => head_append (hzero hc) fun d hd => (hrest d hd).1
  rw [List.cons_append] at hrun hbehind ⊢
  rw [readUnsigned_of_digit hdigit hzero', hrun, hbehind]
  exact hon rest hrest

theorem readNumber_of_digit {c : Char} (hdigit : isDigit c = true) (cs : List Char) :
    readNumber (c :: cs) = readUnsigned false (c :: cs) := by
  unfold readNumber
  split
  · rename_i hc
    cases hc
    cases hdigit
  · rfl

theorem begins_of_readNumber {cs left : List Char} {n : Number} (h : readNumber cs = .ok (n, left)) :
    ∃ c behind, cs = c :: behind ∧ (c = '-' ∨ isDigit c = true) := by
  unfold readNumber at h
  split at h
  · exact ⟨_, _, rfl, .inl rfl⟩
  · obtain ⟨c, behind, rfl, hdigit, -⟩ := begins_of_readUnsigned h
    exact ⟨c, behind, rfl, .inr hdigit⟩

theorem takesFront_readNumber : TakesFront readNumber := by
  intro cs left n h
  obtain ⟨c, behind, rfl, rfl | hdigit⟩ := begins_of_readNumber h
  · exact (takesFront_readUnsigned true).behind _ h
  · rw [readNumber_of_digit hdigit] at h
    obtain ⟨hleft, hon⟩ := takesFront_readUnsigned _ _ _ _ h
    refine ⟨hleft, fun rest hrest => ?_⟩
    rw [List.cons_append, readNumber_of_digit hdigit]
    exact hon rest hrest

/-! ### Numbers read back -/

/-- The text of a number is read as the number, to its end. -/
def ReadBack (n : Number) : Prop := readNumber (numberText n).toList = .ok (n, [])

theorem le_ofDigitChars (ds : List Char) (n : Nat) : n ≤ Nat.ofDigitChars 10 ds n := by
  induction ds generalizing n with
  | nil => exact Nat.le_refl n
  | cons d ds ih =>
    rw [Nat.ofDigitChars_cons]
    exact le_trans (by omega) (ih _)

theorem absorb_of_le {limit : Nat} {ds : List Char} {n : Nat} (h : Nat.ofDigitChars 10 ds n ≤ limit)
    (count : Nat) : absorb limit n count ds = (Nat.ofDigitChars 10 ds n, count + ds.length, []) := by
  induction ds generalizing n count with
  | nil => rfl
  | cons d ds ih =>
    rw [Nat.ofDigitChars_cons, Nat.mul_comm] at h
    have hfits : ¬ limit < n * 10 + (d.toNat - '0'.toNat) :=
      not_lt.2 ((le_ofDigitChars ds _).trans h)
    rw [Nat.ofDigitChars_cons, Nat.mul_comm, List.length_cons]
    unfold absorb
    simp only [if_neg hfits]
    rw [ih h, Nat.add_right_comm, Nat.add_assoc]

theorem tail_of_leading_zero {n : Nat} {ds : List Char} (h : Nat.toDigits 10 n = '0' :: ds) :
    ds = [] := by
  induction n using Nat.strongRecOn generalizing ds with
  | _ n ih =>
    by_cases hsmall : n < 10
    · rw [Nat.toDigits_of_lt_base hsmall] at h
      exact (List.cons.inj h).2.symm
    · rw [Nat.toDigits_of_base_le (by decide) (by omega)] at h
      -- The digits before the last one are those of a smaller number that is not zero.
      cases hfront : Nat.toDigits 10 (n / 10) with
      | nil => exact absurd hfront Nat.toDigits_ne_nil
      | cons c front =>
        rw [hfront, List.cons_append] at h
        obtain ⟨rfl, -⟩ := List.cons.inj h
        obtain rfl := ih (n / 10) (by omega) hfront
        have hvalue : Nat.ofDigitChars 10 ['0'] 0 = n / 10 :=
          hfront ▸ Nat.ofDigitChars_ten_toDigits
        have hzero : Nat.ofDigitChars 10 ['0'] 0 = 0 := rfl
        omega

theorem readUnsigned_toDigits {n : Nat} (h : n ≤ wholeMax) (negative : Bool) :
    readUnsigned negative (Nat.toDigits 10 n) = .ok (wholeNumber negative n, []) := by
  have hdigits := digits_toDigits n
  have hend : ∀ c ∈ ([] : List Char).head?, isDigit c = false := nofun
  obtain ⟨hrun, hbehind⟩ := takeWhile_digits hdigits.2 hend
  rw [List.append_nil] at hrun hbehind
  have hvalue : absorb wholeMax 0 0 (Nat.toDigits 10 n) =
      (n, (Nat.toDigits 10 n).length, []) := by
    rw [absorb_of_le (by rw [Nat.ofDigitChars_ten_toDigits]; exact h),
      Nat.ofDigitChars_ten_toDigits, Nat.zero_add]
  cases hn : Nat.toDigits 10 n with
  | nil => exact absurd hn hdigits.1
  | cons c ds =>
    rw [hn] at hdigits hrun hbehind hvalue
    have hzero : c = '0' → ∀ d ∈ ds.head?, isDigit d = false := by
      rintro rfl
      rw [tail_of_leading_zero hn]
      exact nofun
    have hnone : ∀ d ∈ ([] : List Char).head?, d ≠ '.' ∧ d ≠ 'e' ∧ d ≠ 'E' := nofun
    rw [readUnsigned_of_digit (hdigits.2 c List.mem_cons_self) hzero, hrun, hbehind, hvalue,
      readTail_of_head hnone]
    rfl

theorem readBack_int {n : Int} (hlow : -9223372036854775808 ≤ n) (hhigh : n ≤ wholeMax) :
    ReadBack (.int n) := by
  unfold ReadBack numberText
  cases n with
  | ofNat m =>
    have hm : m ≤ wholeMax := Int.ofNat_le.1 hhigh
    obtain ⟨c, hc, hdigit⟩ := (digits_toDigits m).head []
    rw [List.append_nil] at hc
    obtain ⟨ds, hds⟩ := List.head?_eq_some_iff.1 hc
    rw [toList_ofNat, hds, readNumber_of_digit hdigit, ← hds, readUnsigned_toDigits hm]
    rfl
  | negSucc m =>
    have hm : m + 1 ≤ 9223372036854775808 := by omega
    have hkept : ¬ (m + 1 = 0 ∨ 9223372036854775808 < m + 1) := by omega
    rw [toList_negSucc]
    show readUnsigned true (Nat.toDigits 10 (m + 1)) = _
    rw [readUnsigned_toDigits (hm.trans (by decide))]
    unfold wholeNumber
    rw [if_pos rfl, if_neg hkept]
    rfl

/-! ### Texts of numbers -/

/-- No character is a blank. -/
def Dense (text : String) : Prop := ∀ c ∈ text.toList, isJsonBlank c = false

instance (text : String) : Decidable (Dense text) := List.decidableBAll _ text.toList

theorem Dense.append {front back : String} (hfront : Dense front) (hback : Dense back) :
    Dense (front ++ back) := by
  intro c hc
  rw [String.toList_append, List.mem_append] at hc
  exact hc.elim (hfront c) (hback c)

theorem not_blank_of_digit {c : Char} (h : isDigit c = true) : isJsonBlank c = false := by
  by_contra hblank
  simp only [isJsonBlank, Bool.not_eq_false, Bool.or_eq_true, beq_iff_eq] at hblank
  rcases hblank with ((rfl | rfl) | rfl) | rfl <;> cases h

theorem dense_ofList {ds : List Char} (h : ∀ c ∈ ds, isDigit c = true) : Dense (String.ofList ds) := by
  intro c hc
  rw [String.toList_ofList] at hc
  exact not_blank_of_digit (h c hc)

theorem dense_positional (pointed : Bool) {digits : List Char} (h : ∀ c ∈ digits, isDigit c = true)
    (place : Int) : Dense (positional pointed digits place) := by
  have hzero : ∀ n, ∀ c ∈ List.replicate n '0', isDigit c = true := by
    intro n c hc
    rw [List.eq_of_mem_replicate hc]
    rfl
  unfold positional
  split
  · refine (dense_ofList fun c hc => ?_).append ?_
    · exact (List.mem_append.1 hc).elim (h c) (hzero _ c)
    · cases pointed <;> decide
  · split
    · exact ((dense_ofList fun c hc => h c (List.mem_of_mem_take hc)).append (by decide)).append
        (dense_ofList fun c hc => h c (List.mem_of_mem_drop hc))
    · refine Dense.append (by decide) (dense_ofList fun c hc => ?_)
      exact (List.mem_append.1 hc).elim (hzero _ c) (h c)

theorem dense_toString (n : Int) : Dense (toString n) := by
  have hdigits : ∀ m, ∀ c ∈ Nat.toDigits 10 m, isJsonBlank c = false := fun m c hc =>
    not_blank_of_digit ((digits_toDigits m).2 c hc)
  intro c hc
  cases n with
  | ofNat m =>
    rw [toList_ofNat] at hc
    exact hdigits m c hc
  | negSucc m =>
    rw [toList_negSucc] at hc
    rcases List.mem_cons.1 hc with rfl | hc
    · rfl
    · exact hdigits _ c hc

theorem dense_scientific (plus : Bool) {digits : List Char} (h : ∀ c ∈ digits, isDigit c = true)
    (place : Int) : Dense (scientific plus digits place) := by
  have hrest : Dense
      (if (digits.drop 1).isEmpty then "" else "." ++ String.ofList (digits.drop 1)) := by
    split
    · decide
    · exact Dense.append (by decide) (dense_ofList fun c hc => h c (List.mem_of_mem_drop hc))
  have hsign : Dense (if plus && 1 < place then "+" else "") := by
    split <;> decide
  exact ((((dense_ofList fun c hc => h c (List.mem_of_mem_take hc)).append hrest).append
    (by decide)).append hsign).append (dense_toString _)

theorem dense_text (l : Layout) (f : Format) (d : Datum) : Dense (l.text f d) := by
  have hsign : ∀ negative : Bool, Dense (if negative then "-" else "") := by decide
  cases d with
  | nan => exact (by decide : Dense "NaN")
  | infinite negative => exact (hsign negative).append (by decide)
  | finite negative m q =>
    refine (hsign negative).append ?_
    split
    · split <;> decide
    · unfold Layout.decimal
      simp only
      split
      · exact dense_positional _ (digits_toDigits _).2 _
      · exact dense_scientific _ (digits_toDigits _).2 _

theorem dense_numberText (n : Number) : Dense (numberText n) := by
  have hfloat : ∀ (finite : Bool) {text : String}, Dense text →
      Dense (if finite then text else "null") := by
    intro finite text htext
    cases finite with
    | true => exact htext
    | false => exact (by decide : Dense "null")
  cases n with
  | int n => exact dense_toString n
  | double x => exact hfloat x.isFinite (dense_text _ _ _)
  | single x => exact hfloat x.isFinite (dense_text _ _ _)

end Adventure.Json

import Adventure.Function.Text
import Adventure.Proofs.Text.Slice

/-!
# What functions on texts find

Searching a text and reading a number at its front cut the text and compute in numbers of a fixed
size. All cuts are between characters and all numbers fit, so that none of this breaks off, and what
comes out can be told without either.
-/

namespace Adventure.Function

open Decimal (isDigit takeSign readFloat32)
open Text (bytes sliceTo sliceTo_placeOrEnd sliceTo_of_ascii byteSize_of_ascii utf8Size_eq_one)

variable {α β : Type}

theorem ok_bind {ε : Type} (a : α) (f : α → Except ε β) : (Except.ok a >>= f) = f a := rfl

theorem lift_slice {x : Except Text.SliceError α} {a : α} (h : x = .ok a) :
    (liftM x : Except Panic α) = .ok a := by
  subst h
  rfl

/-! ### Searching -/

/-- `needle` stands at place `k` of the text. -/
def StandsAt (cs needle : List Char) (k : Nat) : Prop := (cs.drop k).take needle.length = needle

/-- A search gives the first place from `start` on at which the needle stands. -/
structure Found (cs needle : List Char) (start k : Nat) : Prop where
  from_start : start ≤ k
  within : k + needle.length ≤ cs.length
  stands : StandsAt cs needle k
  first : ∀ j, start ≤ j → j < k → ¬StandsAt cs needle j

theorem StandsAt.within {cs needle : List Char} {k : Nat} (h : StandsAt cs needle k)
    (hneedle : needle ≠ []) : k + needle.length ≤ cs.length := by
  have hpos := List.length_pos_iff.2 hneedle
  have hlength := congrArg List.length h
  rw [List.length_take, List.length_drop] at hlength
  omega

theorem find?_eq (cs needle : List Char) (start : Nat) :
    ∃ found, find? cs needle start = .ok found ∧
      (found = none → needle = [] ∨ ∀ k, start ≤ k → ¬StandsAt cs needle k) ∧
      ∀ k, found = some k → needle ≠ [] ∧ Found cs needle start k := by
  unfold find?
  by_cases hempty : needle = []
  · exact ⟨none, by simp [hempty]; rfl, fun _ => .inl hempty, nofun⟩
  by_cases hpast : cs.length ≤ start
  · refine ⟨none, by simp [hpast]; rfl, fun _ => .inr fun k hk hstands => ?_, nofun⟩
    have hwithin := hstands.within hempty
    have hpos := List.length_pos_iff.2 hempty
    omega
  · obtain ⟨n, hn⟩ : ∃ n, needle.length = n + 1 :=
      Nat.exists_eq_succ_of_ne_zero (List.length_pos_iff.2 hempty).ne'
    refine ⟨((Text.stretches (n + 1) (cs.drop start)).findIdx? (· = needle)).map (start + ·),
      ?_, fun hnone => .inr fun k hk hstands => ?_, fun k hsome => ⟨hempty, ?_⟩⟩
    · have hfrom : Text.charsFrom cs start = .ok (cs.drop start) := by
        simp [Text.charsFrom, Nat.le_of_not_le hpast]
      simp [hempty, hpast, hfrom, hn, Text.windows]
      rfl
    · have hwithin := hstands.within hempty
      rw [Option.map_eq_none_iff, List.findIdx?_eq_none_iff, Text.stretches_eq] at hnone
      refine absurd (hnone _ (List.mem_map.2 ⟨k - start, ?_, rfl⟩)) ?_
      · rw [List.mem_range, List.length_drop]
        omega
      · rw [List.drop_drop, Nat.add_sub_cancel' hk, ← hn]
        simpa [StandsAt] using hstands
    · obtain ⟨i, hi, rfl⟩ := Option.map_eq_some_iff.1 hsome
      rw [Text.stretches_eq] at hi
      obtain ⟨hlt, hthere, hfirst⟩ := List.findIdx?_eq_some_iff_getElem.1 hi
      simp only [List.getElem_map, List.getElem_range, List.drop_drop, decide_eq_true_eq, ← hn]
        at hthere hfirst
      refine ⟨Nat.le_add_right _ _, StandsAt.within hthere hempty, hthere, fun j hj hjk => ?_⟩
      obtain ⟨d, rfl⟩ := Nat.exists_eq_add_of_le hj
      exact hfirst d (by omega)

/-! ### Whole numbers -/

theorem toNat_of_isDigit {c : Char} (h : isDigit c = true) : 48 ≤ c.toNat ∧ c.toNat ≤ 57 := by
  unfold isDigit at h
  rw [Bool.and_eq_true, decide_eq_true_eq, decide_eq_true_eq, Char.le_def, Char.le_def,
    UInt32.le_iff_toNat_le, UInt32.le_iff_toNat_le] at h
  exact h

theorem sliceFrom_one {c : Char} (hc : c.utf8Size = 1) (cs : List Char) :
    Text.sliceFrom (c :: cs) 1 = .ok cs := by
  have hcut := Text.sliceFrom_append [c] cs
  rwa [Text.byteSize_cons, hc] at hcut

theorem takeSignByte_eq (cs : List Char) : takeSignByte cs = .ok (takeSign cs) := by
  unfold takeSignByte
  cases cs with
  | nil => rfl
  | cons c cs =>
    by_cases hminus : c = '-'
    · have hhead : (bytes ('-' :: cs)).head? = some 0x2D := rfl
      subst hminus
      simp only [hhead, lift_slice (sliceFrom_one (c := '-') rfl cs)]
      rfl
    by_cases hplus : c = '+'
    · have hhead : (bytes ('+' :: cs)).head? = some 0x2B := rfl
      subst hplus
      simp only [hhead, lift_slice (sliceFrom_one (c := '+') rfl cs)]
      rfl
    · have hsign : takeSign (c :: cs) = (false, c :: cs) := by
        unfold takeSign
        split <;> simp_all
      have hbyte : ∀ a : Char, c ≠ a → a.toNat < 128 →
          (bytes (c :: cs)).head? ≠ some (UInt8.ofNat a.toNat) := by
        intro a hne ha hhead
        exact hne (Char.toNat_inj.1 ((Text.head?_bytes_iff ha).1 hhead))
      rw [hsign]
      split
      · exact absurd ‹_› (hbyte '-' hminus (by decide))
      · exact absurd ‹_› (hbyte '+' hplus (by decide))
      · rfl

/-- One more digit. What has reached `2 ^ 31` stays there, which a further digit would not undo. -/
theorem appendDigit_eq (m : Nat) {c : Char} (hc : isDigit c = true) :
    appendDigit ((min m 2147483648 : Nat) : Int) (UInt8.ofNat c.toNat) =
      .ok ((min (10 * m + (c.toNat - 48)) 2147483648 : Nat) : Int) := by
  obtain ⟨hlow, hhigh⟩ := toNat_of_isDigit hc
  have hbyte : (UInt8.ofNat c.toNat).toNat = c.toNat := by
    rw [UInt8.toNat_ofNat']
    omega
  have hfits : ∀ {lo hi n : Int} {doing : String}, lo ≤ n → n ≤ hi →
      inBounds lo hi doing n = .ok n := fun hl hh => if_pos ⟨hl, hh⟩
  unfold appendDigit inEightBytes
  rw [hbyte, hfits (by omega) (by omega)]
  show (inBounds _ _ "multiply" _ >>= _) = _
  rw [hfits (by omega) (by omega)]
  show (inBounds _ _ "add" _ >>= _) = _
  rw [hfits (by omega) (by omega)]
  refine congrArg Except.ok ?_
  show min _ _ = _
  omega

theorem foldlM_appendDigit {ds : List Char} (h : ∀ c ∈ ds, isDigit c = true) (m : Nat) :
    (bytes ds).foldlM appendDigit ((min m 2147483648 : Nat) : Int) =
      .ok ((min (Nat.ofDigitChars 10 ds m) 2147483648 : Nat) : Int) := by
  have hascii : ∀ c ∈ ds, c.toNat < 128 := fun c hc => by
    have hbounds := toNat_of_isDigit (h c hc)
    omega
  rw [Text.bytes_of_ascii hascii]
  clear hascii
  induction ds generalizing m with
  | nil => rfl
  | cons c ds ih =>
    have hrest := ih (fun a ha => h a (List.mem_cons_of_mem c ha)) (10 * m + (c.toNat - 48))
    rw [List.map_cons, List.foldlM_cons, appendDigit_eq m (h c List.mem_cons_self)]
    rw [Nat.ofDigitChars_cons]
    exact hrest

/-- The whole number that stands at the front of a text: a sign and digits, as many as there are. -/
def wholeNumber (cs : List Char) : Int :=
  let n : Int := Nat.ofDigitChars 10 ((takeSign cs).2.takeWhile isDigit) 0
  if (takeSign cs).1 then -n else n

/-- A number brought into the range of script numbers. -/
def clamped (n : Int) : Int := max (-2147483648) (min 2147483647 n)

theorem leadingInt_eq (cs : List Char) :
    leadingInt cs = .ok (Int32.ofInt (clamped (wholeNumber (Text.dropBlank cs)))) := by
  unfold leadingInt wholeNumber clamped
  rw [takeSignByte_eq]
  generalize takeSign (Text.dropBlank cs) = signed
  obtain ⟨negative, rest⟩ := signed
  have hdigits : ∀ c ∈ rest.takeWhile isDigit, isDigit c = true :=
    fun c hc => List.mem_takeWhile_imp hc
  have hcut := sliceTo_placeOrEnd (p := fun c => !isDigit c) rest
  simp only [Bool.not_not] at hcut
  have hsum := foldlM_appendDigit hdigits 0
  have hstart : ((min 0 2147483648 : Nat) : Int) = 0 := rfl
  rw [hstart] at hsum
  rw [ok_bind]
  simp only [lift_slice hcut, ok_bind, hsum]
  generalize Nat.ofDigitChars 10 (rest.takeWhile isDigit) 0 = n
  cases negative with
  | false =>
    refine congrArg (fun k => Except.ok (Int32.ofInt k)) ?_
    simp only [Bool.false_eq_true, if_false]
    omega
  | true =>
    have hnegated : inEightBytes "negate" (-((min n 2147483648 : Nat) : Int)) =
        .ok (-((min n 2147483648 : Nat) : Int)) := if_pos (by omega)
    simp only [if_true, hnegated, ok_bind]
    refine congrArg (fun k => Except.ok (Int32.ofInt k)) ?_
    omega

/-! ### Decimal numbers -/

theorem toNat_of_isNumeric {c : Char} (h : isNumeric c = true) : c.toNat < 128 := by
  unfold isNumeric at h
  rw [Bool.or_eq_true, decide_eq_true_eq] at h
  rcases h with hdigit | hmem
  · have hbounds := toNat_of_isDigit hdigit
    omega
  · simp only [List.mem_cons, List.not_mem_nil, or_false] at hmem
    rcases hmem with rfl | rfl | rfl | rfl | rfl <;> decide

/-- A prefix of the text reads as this number, and no longer one reads as any. -/
structure LongestRead (cs : List Char) (n k : Nat) (x : Float32) : Prop where
  pos : 0 < k
  within : k ≤ n
  reads : readFloat32 (String.ofList (cs.take k)) = .ok x
  longest : ∀ j, k < j → j ≤ n → ∀ y, readFloat32 (String.ofList (cs.take j)) ≠ .ok y

theorem longestFloat_eq {cs : List Char} (h : ∀ c ∈ cs, isNumeric c = true) {n : Nat}
    (hn : n ≤ cs.length) : ∃ read, longestFloat cs n = .ok read ∧
      (∀ x, read = some x → ∃ k, LongestRead cs n k x) ∧
      (read = none → ∀ j, 0 < j → j ≤ n → ∀ y, readFloat32 (String.ofList (cs.take j)) ≠ .ok y) := by
  induction n with
  | zero => exact ⟨none, rfl, nofun, fun _ j hj hle => by omega⟩
  | succ n ih =>
    have hcut : sliceTo cs (n + 1) = .ok (cs.take (n + 1)) :=
      sliceTo_of_ascii (fun c hc => (utf8Size_eq_one c).2 (toNat_of_isNumeric (h c hc))) hn
    unfold longestFloat
    cases hread : readFloat32 (String.ofList (cs.take (n + 1))) with
    | ok x =>
      refine ⟨some x, ?_, fun y hy => ⟨n + 1, by omega, le_rfl, ?_, fun j hj hle => by omega⟩, nofun⟩
      · simp only [lift_slice hcut, ok_bind, hread]
        rfl
      · rw [hread, Option.some_inj.1 hy]
    | error e =>
      obtain ⟨read, hok, hsome, hnone⟩ := ih (by omega)
      have hfails : ∀ j, n < j → j ≤ n + 1 → ∀ y, readFloat32 (String.ofList (cs.take j)) ≠ .ok y := by
        intro j hj hle y
        obtain rfl : j = n + 1 := by omega
        rw [hread]
        nofun
      refine ⟨read, ?_, fun x hx => ?_, fun hx j hj hle => ?_⟩
      · simp only [lift_slice hcut, ok_bind, hread]
        exact hok
      · obtain ⟨k, hk⟩ := hsome x hx
        refine ⟨k, hk.pos, by have := hk.within; omega, hk.reads, fun j hj hle => ?_⟩
        rcases Nat.lt_or_ge n j with hlast | hearlier
        · exact hfails j hlast hle
        · exact hk.longest j hj hearlier
      · rcases Nat.lt_or_ge n j with hlast | hearlier
        · exact hfails j hlast hle
        · exact hnone hx j hj hearlier

/-- The characters at the front of a text, behind white space, that may stand in a number. -/
def candidate (cs : List Char) : List Char := (Text.dropBlank cs).takeWhile isNumeric

theorem leadingFloat_eq (cs : List Char) : ∃ read,
    leadingFloat cs = .ok ((read.filter Float32.isFinite).getD 0) ∧
      (∀ x, read = some x → ∃ k, LongestRead (candidate cs) (candidate cs).length k x) ∧
      (read = none → ∀ j, 0 < j → j ≤ (candidate cs).length →
        ∀ y, readFloat32 (String.ofList ((candidate cs).take j)) ≠ .ok y) := by
  have hnumeric : ∀ c ∈ candidate cs, isNumeric c = true := fun c hc => List.mem_takeWhile_imp hc
  obtain ⟨read, hok, hsome, hnone⟩ := longestFloat_eq hnumeric le_rfl
  refine ⟨read, ?_, hsome, hnone⟩
  have hcut := sliceTo_placeOrEnd (p := fun c => !isNumeric c) (Text.dropBlank cs)
  simp only [Bool.not_not] at hcut
  have hsize := byteSize_of_ascii fun c hc =>
    (utf8Size_eq_one c).2 (toNat_of_isNumeric (hnumeric c hc))
  unfold leadingFloat
  simp only [lift_slice hcut, ok_bind]
  rw [show (Text.dropBlank cs).takeWhile isNumeric = candidate cs from rfl, hsize, hok, ok_bind]
  cases read with
  | none => rfl
  | some x =>
    refine congrArg Except.ok ?_
    cases hx : x.isFinite <;> simp [hx, Option.filter]

end Adventure.Function

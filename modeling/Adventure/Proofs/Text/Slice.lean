import Adventure.Text.Slice
import Mathlib.Data.List.TakeWhile

/-!
# Cutting texts

A text can be cut behind any number of its characters, so also where the first character of some
kind begins. The first byte of a text tells its first character where that has one byte only.
-/

namespace Adventure.Text

variable {p : Char → Bool}

/-! ### The front of a text -/

theorem dropWhile_of_head {cs : List Char} (h : ∀ c ∈ cs.head?, p c = false) :
    cs.dropWhile p = cs := by
  cases cs with
  | nil => rfl
  | cons c cs => rw [List.dropWhile_cons, h c rfl, if_neg Bool.false_ne_true]

theorem takeWhile_of_head {cs : List Char} (h : ∀ c ∈ cs.head?, p c = false) :
    cs.takeWhile p = [] := by
  cases cs with
  | nil => rfl
  | cons c cs => rw [List.takeWhile_cons, h c rfl, if_neg Bool.false_ne_true]

theorem head_dropWhile (cs : List Char) :
    ∀ c ∈ (cs.dropWhile p).head?, p c = false := by
  intro c hc
  have hhead := List.head?_dropWhile_not p cs
  rwa [Option.mem_def.1 hc] at hhead

/-! ### Places between characters -/

@[simp] theorem byteSize_nil : byteSize [] = 0 := rfl

@[simp] theorem byteSize_cons (c : Char) (cs : List Char) :
    byteSize (c :: cs) = c.utf8Size + byteSize cs := rfl

theorem splitAt?_append (before behind : List Char) :
    splitAt? (byteSize before) (before ++ behind) = some (before, behind) := by
  induction before with
  | nil => simp [splitAt?]
  | cons c before ih =>
    have hpos := c.utf8Size_pos
    obtain ⟨n, hn⟩ : ∃ n, c.utf8Size + byteSize before = n + 1 :=
      ⟨c.utf8Size + byteSize before - 1, by omega⟩
    have hfits : c.utf8Size ≤ n + 1 := by omega
    have hrest : n + 1 - c.utf8Size = byteSize before := by omega
    simp [hn, splitAt?, hfits, hrest, ih]

theorem sliceTo_append (before behind : List Char) :
    sliceTo (before ++ behind) (byteSize before) = .ok before := by
  simp [sliceTo, sliceAt, splitAt?_append, Except.map]

theorem sliceFrom_append (before behind : List Char) :
    sliceFrom (before ++ behind) (byteSize before) = .ok behind := by
  simp [sliceFrom, sliceAt, splitAt?_append, Except.map]

theorem placeOrEnd_eq (cs : List Char) :
    placeOrEnd p cs = byteSize (cs.takeWhile fun c => !p c) := by
  unfold placeOrEnd
  induction cs with
  | nil => rfl
  | cons c cs ih =>
    cases hc : p c with
    | true => simp [place?, hc]
    | false =>
      rw [List.takeWhile_cons_of_pos (by simp [hc]), byteSize_cons, byteSize_cons, ← ih]
      cases hfound : place? p cs <;> simp [place?, hc, hfound]

theorem sliceTo_placeOrEnd (cs : List Char) :
    sliceTo cs (placeOrEnd p cs) = .ok (cs.takeWhile fun c => !p c) := by
  have hcut := sliceTo_append (cs.takeWhile fun c => !p c) (cs.dropWhile fun c => !p c)
  rwa [List.takeWhile_append_dropWhile, ← placeOrEnd_eq] at hcut

/-! ### Characters of one byte -/

theorem byteSize_of_ascii {cs : List Char} (h : ∀ c ∈ cs, c.utf8Size = 1) :
    byteSize cs = cs.length := by
  induction cs with
  | nil => rfl
  | cons c cs ih =>
    have hrest := ih fun a ha => h a (List.mem_cons_of_mem c ha)
    rw [byteSize_cons, h c List.mem_cons_self, hrest, List.length_cons, Nat.add_comm]

theorem sliceTo_of_ascii {cs : List Char} (h : ∀ c ∈ cs, c.utf8Size = 1) {n : Nat}
    (hn : n ≤ cs.length) : sliceTo cs n = .ok (cs.take n) := by
  have hsize : byteSize (cs.take n) = n := by
    rw [byteSize_of_ascii fun c hc => h c (List.mem_of_mem_take hc), List.length_take]
    omega
  have hcut := sliceTo_append (cs.take n) (cs.drop n)
  rwa [List.take_append_drop, hsize] at hcut

theorem bytes_cons (c : Char) (cs : List Char) :
    bytes (c :: cs) = String.utf8EncodeChar c ++ bytes cs := by
  simp [bytes]

theorem utf8Size_eq_one (c : Char) : c.utf8Size = 1 ↔ c.toNat < 128 := by
  rw [Char.utf8Size_eq_one_iff, UInt32.le_iff_toNat_le, ← Nat.lt_succ_iff]
  rfl

theorem head?_encode_of_long {c : Char} (h : c.utf8Size ≠ 1) {b : UInt8}
    (hb : (String.utf8EncodeChar c).head? = some b) : 192 ≤ b.toNat := by
  have hlarge : ∀ x y : UInt8, 192 ≤ y.toNat → 192 ≤ (x ||| y).toNat := by
    intro x y hy
    rw [UInt8.toNat_or]
    exact hy.trans Nat.right_le_or
  have hpos := c.utf8Size_pos
  have hmost := c.utf8Size_le_four
  obtain h2 | h3 | h4 : c.utf8Size = 2 ∨ c.utf8Size = 3 ∨ c.utf8Size = 4 := by omega
  · rw [String.utf8EncodeChar_eq_cons_cons h2] at hb
    cases hb
    exact hlarge _ _ (by decide)
  · rw [String.utf8EncodeChar_eq_cons_cons_cons h3] at hb
    cases hb
    exact hlarge _ _ (by decide)
  · rw [String.utf8EncodeChar_eq_cons_cons_cons_cons h4] at hb
    cases hb
    exact hlarge _ _ (by decide)

theorem encode_of_ascii {c : Char} (h : c.toNat < 128) :
    String.utf8EncodeChar c = [UInt8.ofNat c.toNat] :=
  String.utf8EncodeChar_eq_singleton ((utf8Size_eq_one c).2 h)

theorem head?_bytes_iff {c : Char} {cs : List Char} {n : Nat} (hn : n < 128) :
    (bytes (c :: cs)).head? = some (UInt8.ofNat n) ↔ c.toNat = n := by
  rw [bytes_cons, List.head?_append]
  by_cases hc : c.toNat < 128
  · rw [encode_of_ascii hc, List.head?_cons, Option.some_or, Option.some_inj, ← UInt8.toNat_inj,
      UInt8.toNat_ofNat', UInt8.toNat_ofNat']
    omega
  · have hlong : c.utf8Size ≠ 1 := fun h => hc ((utf8Size_eq_one c).1 h)
    refine ⟨fun hb => ?_, fun h => absurd (h ▸ hn) hc⟩
    obtain ⟨b, hfirst⟩ := Option.isSome_iff_exists.1
      (List.isSome_head?.2 (String.utf8EncodeChar_ne_nil (c := c)))
    rw [hfirst, Option.some_or] at hb
    have hlarge := head?_encode_of_long hlong (hfirst.trans hb)
    rw [UInt8.toNat_ofNat'] at hlarge
    omega

theorem bytes_of_ascii {cs : List Char} (h : ∀ c ∈ cs, c.toNat < 128) :
    bytes cs = cs.map fun c => UInt8.ofNat c.toNat := by
  induction cs with
  | nil => rfl
  | cons c cs ih =>
    rw [bytes_cons, encode_of_ascii (h c List.mem_cons_self),
      ih fun a ha => h a (List.mem_cons_of_mem c ha)]
    rfl

/-! ### Stretches of characters -/

theorem stretches_eq (n : Nat) (cs : List Char) :
    stretches (n + 1) cs = (List.range (cs.length - n)).map fun i => (cs.drop i).take (n + 1) := by
  induction cs with
  | nil => simp [stretches]
  | cons c cs ih =>
    unfold stretches
    split
    · rename_i hfits
      have hlength : (c :: cs).length - n = cs.length - n + 1 := by
        rw [List.length_cons]
        omega
      rw [hlength, List.range_succ_eq_map, List.map_cons, List.map_map, ih]
      rfl
    · rename_i hshort
      have hlength : (c :: cs).length - n = 0 := by
        rw [List.length_cons]
        omega
      rw [hlength]
      rfl

end Adventure.Text

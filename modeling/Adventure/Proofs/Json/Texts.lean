import Adventure.Json.Reader
import Adventure.Json.Writer

/-!
# Texts inside JSON texts

Each character of a text is written as itself or as an escape, and one step of the reader takes it
off again. So a text is read back up to its closing quote, whatever follows.
-/

namespace Adventure.Json

/-! ### Single characters -/

theorem toList_hexPadded : ∀ n < 0x20, (writeChar.hexPadded n).toList =
    ['0', '0', Nat.digitChar (n / 16), Nat.digitChar (n % 16)] := by decide

theorem hex4_control : ∀ n < 0x20,
    hex4 '0' '0' (Nat.digitChar (n / 16)) (Nat.digitChar (n % 16)) = some n := by decide

theorem readUnicode_control {c : Char} (h : c.toNat < 0x20) (rest : List Char) :
    readUnicode ((writeChar.hexPadded c.toNat).toList ++ rest) = .ok (c, rest) := by
  have hhex : readHex ((writeChar.hexPadded c.toNat).toList ++ rest) = .ok (c.toNat, rest) := by
    rw [toList_hexPadded _ h]
    unfold readHex
    simp only [List.cons_append, List.nil_append, hex4_control _ h]
  have hlow : ¬ (0xDC00 ≤ c.toNat ∧ c.toNat < 0xE000) := by omega
  have hhigh : ¬ (0xD800 ≤ c.toNat ∧ c.toNat < 0xDC00) := by omega
  unfold readUnicode
  rw [hhex]
  simp only [bind, Except.bind, if_neg hlow, if_neg hhigh, Char.ofNat_toNat]
  rfl

/-- One step of the reader takes off what was written for a character. -/
theorem readChars_writeChar (fuel : Nat) (acc : List Char) (c : Char) (rest : List Char) :
    readChars (fuel + 1) acc ((writeChar c).toList ++ rest) = readChars fuel (c :: acc) rest := by
  unfold writeChar
  split
  · rfl
  · rfl
  · rfl
  · rfl
  · rfl
  · rfl
  · rfl
  · rename_i hquote hslash _ _ _ _ _
    split
    · rename_i hcontrol
      rw [String.toList_append]
      show readChars (fuel + 1) acc
        ('\\' :: 'u' :: ((writeChar.hexPadded c.toNat).toList ++ rest)) = _
      rw [readChars, readEscape, readUnicode_control hcontrol]
    · rename_i hplain
      rw [Char.toString, String.toList_singleton, List.singleton_append, readChars]
      · exact if_neg hplain
      · exact hquote
      · exact hslash

theorem length_writeChar_pos (c : Char) : 0 < (writeChar c).toList.length := by
  rw [List.length_pos_iff]
  intro hnone
  -- Otherwise one step of the reader would find the closing quote.
  have hstep := readChars_writeChar 0 [] c ['"']
  rw [hnone] at hstep
  cases hstep

/-! ### Whole texts -/

def written (cs : List Char) : List Char := cs.flatMap fun c => (writeChar c).toList

theorem readChars_written {cs : List Char} {fuel : Nat} (h : cs.length < fuel) (acc rest : List Char) :
    readChars fuel acc (written cs ++ '"' :: rest) = .ok (cs.reverse ++ acc, rest) := by
  induction cs generalizing fuel acc with
  | nil =>
    obtain ⟨fuel, rfl⟩ := Nat.exists_eq_add_one_of_ne_zero (Nat.ne_of_gt h)
    rfl
  | cons c cs ih =>
    obtain ⟨fuel, rfl⟩ := Nat.exists_eq_add_one_of_ne_zero (Nat.ne_zero_of_lt h)
    unfold written at ih ⊢
    rw [List.flatMap_cons, List.append_assoc, readChars_writeChar,
      ih (Nat.lt_of_succ_lt_succ h), List.reverse_cons, List.append_assoc]
    rfl

theorem length_le_written (cs : List Char) : cs.length ≤ (written cs).length := by
  induction cs with
  | nil => exact Nat.le_refl 0
  | cons c cs ih =>
    have hpos := length_writeChar_pos c
    unfold written at ih ⊢
    rw [List.flatMap_cons, List.length_append, List.length_cons]
    omega

theorem toList_writeText (s : String) :
    (writeText s).toList = '"' :: (written s.toList ++ ['"']) := by
  unfold writeText written
  rw [String.toList_append, String.toList_append, String.toList_join, List.flatMap_map]
  rfl

theorem readText_written (s : String) (rest : List Char) :
    readText (written s.toList ++ '"' :: rest) = .ok (s, rest) := by
  have hlength := length_le_written s.toList
  unfold readText
  rw [readChars_written (by rw [List.length_append]; omega), List.append_nil]
  simp only [Except.map, List.reverse_reverse, String.ofList_toList]

theorem readName_written (name : String) (rest : List Char) :
    readName ((writeText name).toList ++ ':' :: rest) = .ok (name, rest) := by
  rw [toList_writeText, List.cons_append, List.append_assoc]
  unfold readName
  simp only [List.cons_append, List.nil_append, readText_written, bind, Except.bind]
  rfl

end Adventure.Json

import Adventure.Text.Casing
import Mathlib.Data.List.Forall2

/-!
# Equality without regard to ASCII case

Two texts have the same folded form exactly if they are equally long and agree place by place in
everything but the case of ASCII letters.
-/

namespace Adventure.Text

/-- The same character, or the small and the capital form of one ASCII letter. -/
def SameLetter (a b : Char) : Prop :=
  a = b ∨ (a.isUpper ∧ b.toNat = a.toNat + 32) ∨ (b.isUpper ∧ a.toNat = b.toNat + 32)

theorem isUpper_iff (c : Char) : c.isUpper = true ↔ 65 ≤ c.toNat ∧ c.toNat ≤ 90 := by
  show decide (c.val ≥ 'A'.val ∧ c.val ≤ 'Z'.val) = true ↔ _
  rw [decide_eq_true_eq, ge_iff_le, UInt32.le_iff_toNat_le, UInt32.le_iff_toNat_le]
  exact Iff.rfl

theorem toNat_toLower (c : Char) :
    c.toLower.toNat = if c.isUpper then c.toNat + 32 else c.toNat := by
  unfold Char.toLower
  split
  · rename_i h
    have hu : c.isUpper = true := decide_eq_true h
    have hle := ((isUpper_iff c).1 hu).2
    rw [if_pos hu]
    show (c.val + ('a'.val - 'A'.val)).toNat = c.val.toNat + 32
    have h32 : ('a'.val - 'A'.val).toNat = 32 := by decide
    have hsize : c.val.toNat ≤ 90 := hle
    rw [UInt32.toNat_add, h32, Nat.mod_eq_of_lt (by omega)]
  · rename_i h
    have hu : ¬ c.isUpper = true := fun hc => h (of_decide_eq_true hc)
    rw [if_neg hu]

theorem toLower_eq_iff (a b : Char) : a.toLower = b.toLower ↔ SameLetter a b := by
  rw [← Char.toNat_inj, toNat_toLower, toNat_toLower]
  unfold SameLetter
  rw [← Char.toNat_inj]
  simp only [isUpper_iff]
  split <;> split <;> omega

theorem asciiLower_eq_iff (a b : String) :
    asciiLower a = asciiLower b ↔ List.Forall₂ SameLetter a.toList b.toList := by
  unfold asciiLower
  rw [String.ofList_inj, ← List.forall₂_eq_eq_eq, List.forall₂_map_left_iff,
    List.forall₂_map_right_iff]
  simp only [toLower_eq_iff]

theorem asciiLower_append (s t : String) : asciiLower (s ++ t) = asciiLower s ++ asciiLower t := by
  simp [asciiLower]

theorem asciiLower_back {s t : String} (h : asciiLower (s ++ t) = s ++ t) : asciiLower t = t := by
  rw [asciiLower_append, ← String.toList_inj, String.toList_append, String.toList_append] at h
  have hlength : (asciiLower s).toList.length = s.toList.length := by
    simp [asciiLower]
  exact String.toList_inj.1 (List.append_inj h hlength).2

theorem asciiLower_asciiLower (s : String) : asciiLower (asciiLower s) = asciiLower s := by
  have htwice : ∀ c : Char, c.toLower.toLower = c.toLower := by
    intro c
    rw [toLower_eq_iff, SameLetter, toNat_toLower]
    by_cases h : c.isUpper = true
    · simp [h]
    · exact Or.inl (Char.toNat_inj.1 (by rw [toNat_toLower, if_neg h]))
  simp [asciiLower, Function.comp_def, htwice]

end Adventure.Text

import Adventure.Proofs.Text.Slice
import Mathlib.Data.String.Basic

/-!
# The order of the bytes

UTF-8 keeps the order of the characters: of two different characters the smaller one has the smaller
byte at the first place where they differ, whatever follows. So texts are in the order of their
characters exactly if they are in the order of their bytes.
-/

namespace Adventure.Text

/-! ### The bytes of a character as numbers -/

theorem or_of_masked (n k high : Nat) :
    n &&& (2 ^ k - 1) ||| 2 ^ k * high = 2 ^ k * high + n % 2 ^ k := by
  have hlow : n % 2 ^ k < 2 ^ k := Nat.mod_lt _ (Nat.two_pow_pos k)
  rw [Nat.and_two_pow_sub_one_eq_mod, Nat.or_comm, Nat.two_pow_add_eq_or_of_lt hlow]

theorem toNat_follower (b : UInt8) : (b &&& 63 ||| 128).toNat = 128 + b.toNat % 64 := by
  simpa using or_of_masked b.toNat 6 2

theorem toNat_leader_of_two (b : UInt8) : (b &&& 31 ||| 192).toNat = 192 + b.toNat % 32 := by
  simpa using or_of_masked b.toNat 5 6

theorem toNat_leader_of_three (b : UInt8) : (b &&& 15 ||| 224).toNat = 224 + b.toNat % 16 := by
  simpa using or_of_masked b.toNat 4 14

theorem toNat_leader_of_four (b : UInt8) : (b &&& 7 ||| 240).toNat = 240 + b.toNat % 8 := by
  simpa using or_of_masked b.toNat 3 30

/-- The bytes of the character with number `n`. -/
def unitsOf (n : Nat) : List Nat :=
  if n < 128 then [n]
  else if n < 2048 then [192 + n / 64, 128 + n % 64]
  else if n < 65536 then [224 + n / 4096, 128 + n / 64 % 64, 128 + n % 64]
  else [240 + n / 262144, 128 + n / 4096 % 64, 128 + n / 64 % 64, 128 + n % 64]

theorem toNat_lt (c : Char) : c.toNat < 1114112 := by
  rcases c.valid with h | h
  · exact lt_trans h (by decide)
  · exact h.2

theorem toNat_shifted (v : UInt32) {k : Nat} (hk : k < 32) :
    (v >>> UInt32.ofNat k).toUInt8.toNat = v.toNat / 2 ^ k % 256 := by
  rw [UInt32.toNat_toUInt8, UInt32.toNat_shiftRight, Nat.shiftRight_eq_div_pow,
    UInt32.toNat_ofNat', Nat.mod_eq_of_lt (by omega : k < 2 ^ 32), Nat.mod_eq_of_lt hk]

theorem map_toNat_encode (c : Char) :
    (String.utf8EncodeChar c).map UInt8.toNat = unitsOf c.toNat := by
  have hmost : c.val.toNat < 1114112 := toNat_lt c
  have h6 : (c.val >>> 6).toUInt8.toNat = c.val.toNat / 64 % 256 := toNat_shifted c.val (by decide)
  have h12 : (c.val >>> 12).toUInt8.toNat = c.val.toNat / 4096 % 256 :=
    toNat_shifted c.val (by decide)
  have h18 : (c.val >>> 18).toUInt8.toNat = c.val.toNat / 262144 % 256 :=
    toNat_shifted c.val (by decide)
  have h0 : c.val.toUInt8.toNat = c.val.toNat % 256 := UInt32.toNat_toUInt8 c.val
  have hsize : c.utf8Size = 1 ∨ c.utf8Size = 2 ∨ c.utf8Size = 3 ∨ c.utf8Size = 4 := by
    have hpos := c.utf8Size_pos
    have hfour := c.utf8Size_le_four
    omega
  show _ = unitsOf c.val.toNat
  unfold unitsOf
  -- One case for each number of bytes, which is told by the range of the character's number.
  rcases hsize with h | h | h | h
  · have hrange := Char.utf8Size_eq_one_iff.1 h
    simp only [UInt32.le_iff_toNat_le, UInt32.reduceToNat] at hrange
    rw [String.utf8EncodeChar_eq_singleton h, if_pos (by omega)]
    simp only [List.map_cons, List.map_nil, h0, List.cons.injEq, and_true]
    omega
  · have hrange := Char.utf8Size_eq_two_iff.1 h
    simp only [UInt32.lt_iff_toNat_lt, UInt32.le_iff_toNat_le, UInt32.reduceToNat] at hrange
    rw [String.utf8EncodeChar_eq_cons_cons h, if_neg (by omega), if_pos (by omega)]
    simp only [List.map_cons, List.map_nil, toNat_leader_of_two, toNat_follower, h0, h6,
      List.cons.injEq, and_true]
    omega
  · have hrange := Char.utf8Size_eq_three_iff.1 h
    simp only [UInt32.lt_iff_toNat_lt, UInt32.le_iff_toNat_le, UInt32.reduceToNat] at hrange
    rw [String.utf8EncodeChar_eq_cons_cons_cons h, if_neg (by omega), if_neg (by omega),
      if_pos (by omega)]
    simp only [List.map_cons, List.map_nil, toNat_leader_of_three, toNat_follower, h0, h6, h12,
      List.cons.injEq, and_true]
    omega
  · have hrange := Char.utf8Size_eq_four_iff.1 h
    simp only [UInt32.lt_iff_toNat_lt, UInt32.reduceToNat] at hrange
    rw [String.utf8EncodeChar_eq_cons_cons_cons_cons h, if_neg (by omega), if_neg (by omega),
      if_neg (by omega)]
    simp only [List.map_cons, List.map_nil, toNat_leader_of_four, toNat_follower, h0, h6, h12, h18,
      List.cons.injEq, and_true]
    omega

/-! ### Comparing bytes -/

theorem lt_iff_map_toNat (x y : List UInt8) :
    x < y ↔ x.map UInt8.toNat < y.map UInt8.toNat := by
  induction x generalizing y with
  | nil => cases y <;> simp
  | cons b x ih =>
    cases y with
    | nil => simp
    | cons b' y =>
      simp only [List.map_cons, List.cons_lt_cons_iff, UInt8.lt_iff_toNat_lt, UInt8.toNat_inj, ih]

/-- The first byte tells the number of bytes, and more bytes stand for larger numbers. -/
theorem unitsOf_lt {m n : Nat} (h : m < n) (hn : n < 1114112) (x y : List Nat) :
    unitsOf m ++ x < unitsOf n ++ y := by
  unfold unitsOf
  split_ifs <;> simp only [List.cons_append, List.cons_lt_cons_iff] <;> omega

theorem encode_lt {c d : Char} (h : c < d) (x y : List UInt8) :
    String.utf8EncodeChar c ++ x < String.utf8EncodeChar d ++ y := by
  rw [lt_iff_map_toNat, List.map_append, List.map_append, map_toNat_encode, map_toNat_encode]
  exact unitsOf_lt h (toNat_lt d) _ _

theorem bytes_lt_of_lt {cs ds : List Char} (h : cs < ds) : bytes cs < bytes ds := by
  induction cs generalizing ds with
  | nil =>
    cases ds with
    | nil => exact absurd h (List.lt_irrefl _)
    | cons d ds =>
      rw [bytes_cons]
      cases hd : String.utf8EncodeChar d with
      | nil => exact absurd hd String.utf8EncodeChar_ne_nil
      | cons b bs => exact List.nil_lt_cons b _
  | cons c cs ih =>
    cases ds with
    | nil => exact absurd h (List.not_lt_nil _)
    | cons d ds =>
      rw [bytes_cons, bytes_cons]
      rcases List.cons_lt_cons_iff.1 h with hlt | ⟨rfl, hlt⟩
      · exact encode_lt hlt _ _
      · exact List.append_left_lt (ih hlt)

theorem bytes_lt_iff (s t : String) : bytes s.toList < bytes t.toList ↔ s < t := by
  constructor
  · intro h
    rcases lt_trichotomy s t with hlt | rfl | hgt
    · exact hlt
    · exact absurd h (List.lt_irrefl _)
    · exact absurd (bytes_lt_of_lt hgt) (List.lt_asymm h)
  · exact bytes_lt_of_lt

end Adventure.Text

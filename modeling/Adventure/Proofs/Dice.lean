import Adventure.Dice
import Adventure.Proofs.Number
import Mathlib.Algebra.Order.BigOperators.Group.List
import Mathlib.Algebra.Ring.Int.Defs

/-!
# Throws of dice

A throw adds up numbers from a source, one after the other, and stops at the largest script number.
From any source that keeps to the range it is asked for, the sum is the exact one or the largest
number, and so lies between the number of throws and what they can show at most. The dice of the
game are such a source.
-/

namespace Adventure.Dice

/-! ### Sources of numbers -/

/-- A source gives a number for the lower and the upper end of a range, and goes on to its next
state. -/
abbrev Source (γ : Type) := Int32 → Int32 → γ → Int32 × γ

namespace Source

variable {γ : Type}

/-- The numbers of the source lie in the ranges that they are asked for. -/
def InRange (draw : Source γ) : Prop :=
  ∀ lo hi g, lo ≤ hi → lo ≤ (draw lo hi g).1 ∧ (draw lo hi g).1 ≤ hi

def numbers (draw : Source γ) (lo hi : Int32) : Nat → γ → List Int32 × γ
  | 0, g => ([], g)
  | n + 1, g =>
    ((draw lo hi g).1 :: (numbers draw lo hi n (draw lo hi g).2).1,
      (numbers draw lo hi n (draw lo hi g).2).2)

/-- The sum of `n` numbers of the source; fewer than one count as one. An empty range gives its
lower end and draws nothing. -/
def roll (draw : Source γ) (lo hi n : Int32) (g : γ) : Int32 × γ :=
  if hi < lo then (lo, g)
  else
    ((draw.numbers lo hi (max n 1).toInt.toNat g).1.foldl saturatingAdd 0,
      (draw.numbers lo hi (max n 1).toInt.toNat g).2)

/-- A number below `limit`; none is below a limit that is not positive, and nothing is drawn. -/
def below (draw : Source γ) (limit : Int32) (g : γ) : Int32 × γ :=
  if limit ≤ 0 then (0, g) else draw.roll 0 (limit - 1) 1 g

theorem length_numbers (draw : Source γ) (lo hi : Int32) (n : Nat) (g : γ) :
    (draw.numbers lo hi n g).1.length = n := by
  induction n generalizing g with
  | zero => rfl
  | succ n ih => rw [numbers, List.length_cons, ih]

theorem InRange.numbers {draw : Source γ} (h : draw.InRange) {lo hi : Int32} (hle : lo ≤ hi) (n : Nat)
    (g : γ) : ∀ d ∈ (draw.numbers lo hi n g).1, lo ≤ d ∧ d ≤ hi := by
  induction n generalizing g with
  | zero => nofun
  | succ n ih =>
    rw [Source.numbers, List.forall_mem_cons]
    exact ⟨h lo hi g hle, ih _⟩

end Source

/-! ### Sums that stop at the largest number -/

theorem toInt_saturatingAdd {a b : Int32} (ha : 0 ≤ a.toInt) (hb : 0 ≤ b.toInt) :
    (saturatingAdd a b).toInt = min (a.toInt + b.toInt) 2147483647 := by
  unfold saturatingAdd
  rw [Int32.toInt_ofInt_of_le (by omega) (by omega)]
  omega

/-- What has reached the largest number stays there, which a further number would not undo. -/
theorem toInt_foldl_saturatingAdd {ds : List Int32} (hds : ∀ d ∈ ds, 0 ≤ d.toInt) {sum : Int32}
    (hsum : 0 ≤ sum.toInt) :
    (ds.foldl saturatingAdd sum).toInt =
      min (sum.toInt + (ds.map Int32.toInt).sum) 2147483647 := by
  induction ds generalizing sum with
  | nil =>
    have hlt := sum.toInt_lt
    simp only [List.foldl_nil, List.map_nil, List.sum_nil]
    omega
  | cons d ds ih =>
    rw [List.forall_mem_cons] at hds
    have hstep := toInt_saturatingAdd hsum hds.1
    have hrest : 0 ≤ (ds.map Int32.toInt).sum :=
      List.sum_nonneg (List.forall_mem_map.2 hds.2)
    have hnonneg : 0 ≤ (saturatingAdd sum d).toInt := by omega
    rw [List.foldl_cons, ih hds.2 hnonneg, hstep, List.map_cons, List.sum_cons]
    omega

theorem addRolls_eq (lo hi : Int32) (n : Nat) (sum : Int32) (g : Dice) :
    addRolls lo hi n sum g =
      ((Source.numbers between lo hi n g).1.foldl saturatingAdd sum,
        (Source.numbers between lo hi n g).2) := by
  induction n generalizing sum g with
  | zero => rfl
  | succ n ih =>
    show addRolls lo hi n (saturatingAdd sum (between lo hi g).1) (between lo hi g).2 = _
    rw [ih]
    rfl

theorem roll_eq (lo hi n : Int32) (g : Dice) : roll lo hi n g = Source.roll between lo hi n g := by
  unfold roll Source.roll
  rw [addRolls_eq]

/-! ### The dice of the game -/

theorem toNat_size (lo hi : Int32) :
    ((hi - lo + 1).toUInt32.toNat : Int) = (hi.toInt - lo.toInt + 1) % 4294967296 := by
  rw [toNat_toUInt32, Int32.toInt_add, Int32.toInt_sub, Int32.toInt_one]
  rw [Int.bmod_eq_emod, Int.bmod_eq_emod]
  split <;> split <;> omega

theorem high_lt (w size : UInt32) (h : size ≠ 0) :
    ((w.toUInt64 * size.toUInt64) >>> 32).toUInt32.toNat < size.toNat := by
  have hw := w.toNat_lt
  have hsize := size.toNat_lt
  have hpos : 0 < size.toNat := by
    rw [Nat.pos_iff_ne_zero]
    exact fun hzero => h (UInt32.toNat_inj.1 hzero)
  have hproduct : w.toNat * size.toNat < 4294967296 * size.toNat := by
    exact Nat.mul_lt_mul_of_pos_right hw hpos
  rw [UInt64.toNat_toUInt32, UInt64.toNat_shiftRight, UInt64.toNat_mul, UInt32.toNat_toUInt64,
    UInt32.toNat_toUInt64, Nat.mod_eq_of_lt (a := w.toNat * size.toNat) (by omega)]
  show (w.toNat * size.toNat) >>> 32 % 4294967296 < size.toNat
  rw [Nat.shiftRight_eq_div_pow]
  omega

theorem below_lt {size : UInt32} (h : size ≠ 0) (fuel : Nat) (g : Dice) :
    (below size fuel g).1.toNat < size.toNat := by
  induction fuel generalizing g with
  | zero =>
    unfold below
    exact high_lt g.next.1 size h
  | succ fuel ih =>
    unfold below
    simp only
    split
    · exact high_lt g.next.1 size h
    · exact ih g.next.2

theorem between_inRange : Source.InRange between := by
  intro lo hi g hle
  have hsize := toNat_size lo hi
  have hlo := lo.le_toInt
  have hhi := hi.toInt_lt
  rw [Int32.le_iff_toInt_le] at hle
  unfold between
  simp only [Int32.le_iff_toInt_le]
  generalize (hi - lo + 1).toUInt32 = size at hsize ⊢
  split
  · rename_i hfull
    -- The range is that of all script numbers.
    rw [hfull] at hsize
    have hword := g.next.1.toInt32.le_toInt
    have hword' := g.next.1.toInt32.toInt_lt
    have hzero : ((0 : UInt32).toNat : Int) = 0 := rfl
    show lo.toInt ≤ g.next.1.toInt32.toInt ∧ g.next.1.toInt32.toInt ≤ hi.toInt
    omega
  · rename_i hsome
    have hbelow := below_lt hsome 10000 g
    show lo.toInt ≤ (lo + (below size 10000 g).1.toInt32).toInt ∧
      (lo + (below size 10000 g).1.toInt32).toInt ≤ hi.toInt
    rw [Int32.toInt_add, toInt_toInt32]
    generalize (below size 10000 g).1.toNat = n at hbelow
    rw [Int.bmod_eq_emod, Int.bmod_eq_emod]
    split <;> split <;> omega

/-! ### Throws -/

namespace Source

variable {γ : Type}

/-- `n` throws of a die with this many sides show `r` together and leave the source as `g'`; fewer
than one count as one. The exact sum of the numbers is `r`, or it is beyond the largest script
number. -/
structure Thrown (draw : Source γ) (sides : Nat) (n : Int32) (g : γ) (r : Int32) (g' : γ) : Prop where
  summed : ∃ ds, draw.numbers 1 (.ofNat sides) (max n 1).toInt.toNat g = (ds, g') ∧
    r.toInt = min (ds.map Int32.toInt).sum 2147483647
  least : max n 1 ≤ r
  most : r.toInt ≤ min (sides * (max n 1).toInt) 2147483647

/-- `r` is drawn from the numbers below the limit. There are none if the limit is not positive, and
then nothing is drawn. -/
structure Chosen (draw : Source γ) (limit : Int32) (g : γ) (r : Int32) (g' : γ) : Prop where
  drawn : 0 < limit → ∃ top, top.toInt = limit.toInt - 1 ∧ draw 0 top g = (r, g') ∧ 0 ≤ r ∧ r < limit
  undrawn : limit ≤ 0 → r = 0 ∧ g' = g

theorem sum_bounds {ds : List Int32} {lo hi : Int} (h : ∀ d ∈ ds, lo ≤ d.toInt ∧ d.toInt ≤ hi) :
    lo * ds.length ≤ (ds.map Int32.toInt).sum ∧ (ds.map Int32.toInt).sum ≤ hi * ds.length := by
  induction ds with
  | nil => simp
  | cons d ds ih =>
    rw [List.forall_mem_cons] at h
    obtain ⟨hleast, hmost⟩ := ih h.2
    rw [List.map_cons, List.sum_cons, List.length_cons, Int.natCast_succ, Int.mul_add, Int.mul_add]
    omega

variable {draw : Source γ}

theorem InRange.thrown (h : draw.InRange) {sides : Nat} (hsides : 1 ≤ sides)
    (hfew : sides < 2147483648) (n : Int32) (g : γ) :
    draw.Thrown sides n g (draw.roll 1 (.ofNat sides) n g).1 (draw.roll 1 (.ofNat sides) n g).2 := by
  have htop : (Int32.ofNat sides).toInt = sides := Int32.toInt_ofNat_of_lt hfew
  have hone : (1 : Int32).toInt = 1 := Int32.toInt_one
  have hrange : (1 : Int32) ≤ .ofNat sides := by
    rw [Int32.le_iff_toInt_le, hone, htop]
    omega
  have hmost := (max n 1).toInt_lt
  have hcount : ((max n 1).toInt.toNat : Int) = (max n 1).toInt := by
    rw [toInt_max, hone]
    omega
  have hlength := draw.length_numbers 1 (.ofNat sides) (max n 1).toInt.toNat g
  have hnumbers := h.numbers hrange (max n 1).toInt.toNat g
  unfold roll
  rw [if_neg (Int32.not_lt.2 hrange)]
  generalize hdrawn : draw.numbers 1 (.ofNat sides) (max n 1).toInt.toNat g = drawn
    at hlength hnumbers
  obtain ⟨ds, g'⟩ := drawn
  simp only [Int32.le_iff_toInt_le, hone, htop] at hnumbers
  have hzero : 0 ≤ (0 : Int32).toInt := le_rfl
  have hsum := toInt_foldl_saturatingAdd
    (fun d hd => Int.le_trans (by decide) (hnumbers d hd).1) hzero
  rw [Int32.toInt_zero, Int.zero_add] at hsum
  obtain ⟨hleast, hlargest⟩ := sum_bounds hnumbers
  rw [hlength, hcount] at hleast hlargest
  refine ⟨⟨ds, hdrawn, hsum⟩, ?_, ?_⟩
  · rw [Int32.le_iff_toInt_le, hsum]
    omega
  · rw [hsum]
    omega

theorem InRange.roll_once (h : draw.InRange) {lo hi : Int32} (hlo : 0 ≤ lo) (hle : lo ≤ hi) (g : γ) :
    draw.roll lo hi 1 g = draw lo hi g := by
  obtain ⟨hleast, -⟩ := h lo hi g hle
  rw [Int32.le_iff_toInt_le, Int32.toInt_zero] at hlo
  rw [Int32.le_iff_toInt_le] at hleast
  have hmost := (draw lo hi g).1.toInt_lt
  have hsum := toInt_saturatingAdd (a := 0) (b := (draw lo hi g).1) le_rfl (by omega)
  rw [Int32.toInt_zero, Int.zero_add, min_eq_left (by omega), Int32.toInt_inj] at hsum
  have hone : (max (1 : Int32) 1).toInt.toNat = 1 := rfl
  unfold roll
  rw [if_neg (Int32.not_lt.2 hle), hone]
  exact Prod.ext hsum rfl

theorem InRange.chosen (h : draw.InRange) (limit : Int32) (g : γ) :
    draw.Chosen limit g (draw.below limit g).1 (draw.below limit g).2 := by
  unfold below
  refine ⟨fun hpos => ?_, fun hnone => ?_⟩
  · rw [if_neg (Int32.not_le.2 hpos)]
    rw [Int32.lt_iff_toInt_lt, Int32.toInt_zero] at hpos
    have hone : (1 : Int32) ≤ limit := by
      rw [Int32.le_iff_toInt_le, Int32.toInt_one]
      omega
    have htop := Int32.toInt_sub_of_le limit 1 (by decide) hone
    rw [Int32.toInt_one] at htop
    have hrange : 0 ≤ limit - 1 := by
      rw [Int32.le_iff_toInt_le, Int32.toInt_zero, htop]
      omega
    obtain ⟨hleast, hmost⟩ := h 0 (limit - 1) g hrange
    rw [h.roll_once (by decide) hrange]
    refine ⟨limit - 1, htop, rfl, hleast, ?_⟩
    rw [Int32.le_iff_toInt_le, htop] at hmost
    rw [Int32.lt_iff_toInt_lt]
    omega
  · rw [if_pos hnone]
    exact ⟨rfl, rfl⟩

end Source

end Adventure.Dice

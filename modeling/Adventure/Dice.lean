/-!
# Dice

A reproducible source of random numbers. A seed is expanded to a key; the key and a block counter
give blocks of sixteen words by twelve rounds of ChaCha, and the words are used up in order. Numbers
in a range are drawn by multiplying a word with the size of the range and refusing the words that
would favour some results.

See section 10.6 of the specification.
-/

namespace Adventure

/-- The generator: its key, the number of the next block, and what is left of the current one. -/
structure Dice where
  key : List UInt32
  block : UInt64
  left : List UInt32

namespace Dice

/-! ### Seeds -/

def rotateRight (x : UInt32) (n : UInt32) : UInt32 :=
  if n = 0 then x else (x >>> n) ||| (x <<< (32 - n))

/-- One step of the seed expansion: a key word and the next state. -/
def expand (state : UInt64) : UInt32 × UInt64 :=
  let state := state * 6364136223846793005 + 11634580027462260723
  let mixed := (((state >>> 18) ^^^ state) >>> 27).toUInt32
  (rotateRight mixed (state >>> 59).toUInt32, state)

/-- The next `n` key words from a state. -/
def keyWords : Nat → UInt64 → List UInt32
  | 0, _ => []
  | n + 1, state =>
    let (word, next) := expand state
    word :: keyWords n next

def ofSeed (seed : UInt64) : Dice := ⟨keyWords 8 seed, 0, []⟩

/-! ### Blocks -/

def rotateLeft (x : UInt32) (n : UInt32) : UInt32 := (x <<< n) ||| (x >>> (32 - n))

abbrev Words := Array UInt32

def word (s : Words) (i : Nat) : UInt32 := s.getD i 0

/-- The quarter round on the words at four places. -/
def quarterRound (s : Words) (a b c d : Nat) : Words :=
  let wa := word s a + word s b
  let wd := rotateLeft (word s d ^^^ wa) 16
  let wc := word s c + wd
  let wb := rotateLeft (word s b ^^^ wc) 12
  let wa := wa + wb
  let wd := rotateLeft (wd ^^^ wa) 8
  let wc := wc + wd
  let wb := rotateLeft (wb ^^^ wc) 7
  (((s.setIfInBounds a wa).setIfInBounds b wb).setIfInBounds c wc).setIfInBounds d wd

/-- A round down the columns and one along the diagonals. -/
def doubleRound (s : Words) : Words :=
  let s := quarterRound s 0 4 8 12
  let s := quarterRound s 1 5 9 13
  let s := quarterRound s 2 6 10 14
  let s := quarterRound s 3 7 11 15
  let s := quarterRound s 0 5 10 15
  let s := quarterRound s 1 6 11 12
  let s := quarterRound s 2 7 8 13
  quarterRound s 3 4 9 14

/-- The state a block starts from: four constants, the key, the block number and two zeros. -/
def start (key : List UInt32) (block : UInt64) : Words :=
  let constants : List UInt32 := [0x61707865, 0x3320646e, 0x79622d32, 0x6b206574]
  (constants ++ key ++ [block.toUInt32, (block >>> 32).toUInt32, 0, 0]).toArray

/-- The words of a block: twelve rounds, added to the start. -/
def blockWords (key : List UInt32) (block : UInt64) : List UInt32 :=
  let s := start key block
  let mixed := (List.range 6).foldl (fun s _ => doubleRound s) s
  List.zipWith (· + ·) mixed.toList s.toList

def next (g : Dice) : UInt32 × Dice :=
  match g.left with
  | w :: rest => (w, { g with left := rest })
  | [] =>
    match blockWords g.key g.block with
    | w :: rest => (w, { g with block := g.block + 1, left := rest })
    | [] => (0, g)

/-! ### Numbers in a range -/

/-- The largest multiple of `size` that a word scales to without favour, less one. -/
def zone (size : UInt32) : UInt32 :=
  let shift := 31 - UInt32.ofNat size.toNat.log2
  (size <<< shift) - 1

/-- A number below `size`. Words outside the zone are refused; after `fuel` refusals, which does not
happen in practice, the last word counts. -/
def below (size : UInt32) : Nat → Dice → UInt32 × Dice
  | 0, g =>
    let (w, g) := g.next
    (((w.toUInt64 * size.toUInt64) >>> 32).toUInt32, g)
  | fuel + 1, g =>
    let (w, g) := g.next
    let product := w.toUInt64 * size.toUInt64
    if product.toUInt32 ≤ zone size then ((product >>> 32).toUInt32, g)
    else below size fuel g

/-- A number from `lo` to `hi`, both included. -/
def between (lo hi : Int32) (g : Dice) : Int32 × Dice :=
  let size := (hi - lo + 1).toUInt32
  if size = 0 then
    let (w, g) := g.next
    (w.toInt32, g)
  else
    let (w, g) := below size 10000 g
    (lo + w.toInt32, g)

/-- A sum that stops at the largest number. -/
def saturatingAdd (a b : Int32) : Int32 :=
  Int32.ofInt (max (-2147483648) (min 2147483647 (a.toInt + b.toInt)))

def addRolls (lo hi : Int32) : Nat → Int32 → Dice → Int32 × Dice
  | 0, sum, g => (sum, g)
  | n + 1, sum, g =>
    let (roll, g) := between lo hi g
    addRolls lo hi n (saturatingAdd sum roll) g

/-- The sum of `n` numbers from `lo` to `hi`; fewer than one count as one. An empty range gives its
lower end and draws nothing. -/
def roll (lo hi n : Int32) (g : Dice) : Int32 × Dice :=
  if hi < lo then (lo, g) else addRolls lo hi (max n 1).toInt.toNat 0 g

end Dice

end Adventure

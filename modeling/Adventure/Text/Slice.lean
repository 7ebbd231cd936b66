/-!
# Slices

A text is cut at places that are counted in the bytes of its UTF-8 form, and only between two
characters. Lists of characters are cut by number, and only where they reach.
-/

namespace Adventure.Text

/-- What goes wrong with a cut. -/
inductive SliceError where
  /-- A character lies across the place, or the text ends before it. -/
  | offBoundary (byte : Nat)
  | outOfRange (start length : Nat)
  | emptyWindow
  deriving DecidableEq, Repr

def SliceError.message : SliceError → String
  | .offBoundary byte => "byte index " ++ toString byte ++ " is not a char boundary"
  | .outOfRange start length =>
    "range start index " ++ toString start ++ " out of range for slice of length "
      ++ toString length
  | .emptyWindow => "window size must be non-zero"

/-! ### Places counted in bytes -/

def bytes (cs : List Char) : List UInt8 := cs.flatMap String.utf8EncodeChar

def byteSize : List Char → Nat
  | [] => 0
  | c :: cs => c.utf8Size + byteSize cs

/-- The first character of a kind, as the place where it begins. -/
def place? (p : Char → Bool) : List Char → Option Nat
  | [] => none
  | c :: cs => if p c then some 0 else (place? p cs).map (c.utf8Size + ·)

/-- Where the first character of a kind begins, or where the text ends. -/
def placeOrEnd (p : Char → Bool) (cs : List Char) : Nat := (place? p cs).getD (byteSize cs)

/-- The characters before a place and those behind it, if the place is between two characters. -/
def splitAt? : Nat → List Char → Option (List Char × List Char)
  | 0, cs => some ([], cs)
  | _ + 1, [] => none
  | n + 1, c :: cs =>
    if c.utf8Size ≤ n + 1 then
      (splitAt? (n + 1 - c.utf8Size) cs).map fun (before, behind) => (c :: before, behind)
    else none

def sliceAt (cs : List Char) (byte : Nat) : Except SliceError (List Char × List Char) :=
  match splitAt? byte cs with
  | some parts => .ok parts
  | none => .error (.offBoundary byte)

def sliceTo (cs : List Char) (byte : Nat) : Except SliceError (List Char) :=
  (sliceAt cs byte).map Prod.fst

def sliceFrom (cs : List Char) (byte : Nat) : Except SliceError (List Char) :=
  (sliceAt cs byte).map Prod.snd

/-! ### Numbered characters -/

def charsFrom (cs : List Char) (start : Nat) : Except SliceError (List Char) :=
  if start ≤ cs.length then .ok (cs.drop start) else .error (.outOfRange start cs.length)

/-- The stretches of `n` characters, from left to right. -/
def stretches (n : Nat) : List Char → List (List Char)
  | [] => []
  | c :: cs => if n ≤ cs.length + 1 then (c :: cs).take n :: stretches n cs else []

def windows (n : Nat) (cs : List Char) : Except SliceError (List (List Char)) :=
  if n = 0 then .error .emptyWindow else .ok (stretches n cs)

end Adventure.Text

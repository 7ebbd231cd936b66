import Adventure.Json.Basic
import Adventure.Decimal.Layout

/-!
# Writing JSON

A value on one line without blanks, or over several lines with two blanks per level. A float that is
no number is written as `null`.
-/

namespace Adventure.Json

open Decimal

/-- Eight-byte floats: positional from `1e-5` to below `1e16`. -/
def doubleLayout : Layout := ⟨.even, some (-5), some 16, true, true⟩

/-- Four-byte floats: positional from `1e-6` to below `1e13`. -/
def singleLayout : Layout := ⟨.even, some (-6), some 13, true, true⟩

def numberText : Number → String
  | .int n => toString n
  | .double x => if x.isFinite then doubleLayout.text64 x else "null"
  | .single x => if x.isFinite then singleLayout.text32 x else "null"

def writeChar (c : Char) : String :=
  match c with
  | '"' => "\\\""
  | '\\' => "\\\\"
  | '\x08' => "\\b"
  | '\x0c' => "\\f"
  | '\n' => "\\n"
  | '\r' => "\\r"
  | '\t' => "\\t"
  | c => if c.toNat < 0x20 then "\\u" ++ hexPadded c.toNat else c.toString
where
  /-- Four hexadecimal digits. -/
  hexPadded (n : Nat) : String :=
    let digits := Nat.toDigits 16 n
    String.ofList (List.replicate (4 - digits.length) '0' ++ digits)

def writeText (s : String) : String := "\"" ++ String.join (s.toList.map writeChar) ++ "\""

mutual

def compact : Json → String
  | .null => "null"
  | .bool b => if b then "true" else "false"
  | .number n => numberText n
  | .string s => writeText s
  | .array items => "[" ++ compactItems items ++ "]"
  | .object members => "\x7b" ++ compactMembers members ++ "\x7d"

def compactItems : List Json → String
  | [] => ""
  | [item] => compact item
  | item :: items => compact item ++ "," ++ compactItems items

def compactMembers : List (String × Json) → String
  | [] => ""
  | [(name, value)] => writeText name ++ ":" ++ compact value
  | (name, value) :: members =>
    writeText name ++ ":" ++ compact value ++ "," ++ compactMembers members

end

def newLine (level : Nat) : String := "\n" ++ String.ofList (List.replicate (2 * level) ' ')

mutual

/-- The value over several lines, its closing bracket at `level`. -/
def prettyAt (level : Nat) : Json → String
  | .null => "null"
  | .bool b => if b then "true" else "false"
  | .number n => numberText n
  | .string s => writeText s
  | .array [] => "[]"
  | .array (item :: items) =>
    "[" ++ newLine (level + 1) ++ prettyAt (level + 1) item ++ prettyItems (level + 1) items
      ++ newLine level ++ "]"
  | .object [] => "\x7b\x7d"
  | .object ((name, value) :: members) =>
    "\x7b" ++ newLine (level + 1) ++ writeText name ++ ": " ++ prettyAt (level + 1) value
      ++ prettyMembers (level + 1) members ++ newLine level ++ "\x7d"

def prettyItems (level : Nat) : List Json → String
  | [] => ""
  | item :: items => "," ++ newLine level ++ prettyAt level item ++ prettyItems level items

def prettyMembers (level : Nat) : List (String × Json) → String
  | [] => ""
  | (name, value) :: members =>
    "," ++ newLine level ++ writeText name ++ ": " ++ prettyAt level value
      ++ prettyMembers level members

end

def pretty (j : Json) : String := prettyAt 0 j

end Adventure.Json

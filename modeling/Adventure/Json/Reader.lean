import Adventure.Json.Basic
import Adventure.Json.Fault

/-!
# Reading JSON

A strict reader: one value with blanks around it, no trailing text, at most 127 containers inside
one another. Whole numbers that fit eight bytes stay whole. Any other number becomes a float by the
following rule: digits are gathered while they fit eight bytes without a sign, the others only move
the decimal place, and the result is multiplied with or divided by a power of ten. A number too
large for that is refused.

A reader that refuses says what is wrong and where; what it has read before is always right.
-/

namespace Adventure.Json

open Decimal

/-! ### Blanks and words -/

def isJsonBlank (c : Char) : Bool := c == ' ' || c == '\n' || c == '\t' || c == '\r'

def skipBlanks (cs : List Char) : List Char := cs.dropWhile isJsonBlank

/-- Takes the characters `word` off the front. -/
def expect : List Char → List Char → Except Fault (List Char)
  | [], cs => .ok cs
  | w :: word, c :: cs => if w = c then expect word cs else stopIn .badWord (c :: cs)
  | _ :: _, [] => stopBefore .endInValue []

/-- The rest of a word that stands for a value. -/
def readWord (word : List Char) (j : Json) (cs : List Char) : Reading Json :=
  (expect word cs).map (j, ·)

/-! ### Numbers -/

/-- The largest whole number of eight bytes. -/
def wholeMax : Nat := 18446744073709551615

/-- Appends digits to a whole number while it is at most `limit`: the number, how many digits were
appended, and the others. -/
def absorb (limit : Nat) : Nat → Nat → List Char → Nat × Nat × List Char
  | n, count, [] => (n, count, [])
  | n, count, c :: cs =>
    let next := n * 10 + (c.toNat - '0'.toNat)
    if limit < next then (n, count, c :: cs) else absorb limit next (count + 1) cs

def powerOfTen (e : Nat) : Float :=
  Float.ofBits (UInt64.ofNat ((⟨false, 1, e⟩ : Numeral).bits double))

/-- The float `x * 10 ^ e`, computed by one multiplication or by divisions; `fuel` bounds the number
of divisions. -/
def scaleFloat : Nat → Float → Int → Option Float
  | 0, x, _ => some x
  | fuel + 1, x, e =>
    if e.natAbs ≤ 308 then
      if 0 ≤ e then
        let y := x * powerOfTen e.natAbs
        if y.isInf then none else some y
      else some (x / powerOfTen e.natAbs)
    else if x == 0 then some x
    else if 0 ≤ e then none
    else scaleFloat fuel (x / powerOfTen 308) (e + 308)

def signed (negative : Bool) (x : Float) : Float := if negative then -x else x

/-- The float of gathered digits and a decimal exponent, read up to `rest`. -/
def floatOfParts (negative : Bool) (digits : Nat) (e : Int) (rest : List Char) : Reading Float :=
  match scaleFloat 8 (UInt64.ofNat digits).toFloat e with
  | some x => .ok (signed negative x, rest)
  | none => stopBefore .numberOutOfRange rest

/-- The digits of an exponent, of which there must be one. -/
def exponentRun (cs : List Char) : Reading (List Char) :=
  match cs with
  | [] => stopBefore .endInValue []
  | c :: rest =>
    if isDigit c then .ok (cs.takeWhile isDigit, cs.dropWhile isDigit)
    else stopIn .badNumber (c :: rest)

/-- The exponent part, when the text has come to `e` or `E`. -/
def readExponent (negative : Bool) (digits : Nat) (start : Int) (cs : List Char) :
    Except Fault (Float × List Char) := do
  let (down, rest) := takeSign cs
  let (run, rest) ← exponentRun rest
  let (e, _, excess) := absorb 2147483647 0 0 run
  if excess.isEmpty then
    floatOfParts negative digits (if down then start - e else start + e) rest
  else if digits ≠ 0 ∧ ¬ down then stopIn .numberOutOfRange (excess ++ rest)
  else return (signed negative 0, rest)

/-- What follows the digits of a float: an exponent, or nothing of the number. -/
def readScale (negative : Bool) (digits : Nat) (start : Int) (cs : List Char) : Reading Float :=
  match cs with
  | 'e' :: rest => readExponent negative digits start rest
  | 'E' :: rest => readExponent negative digits start rest
  | rest => floatOfParts negative digits start rest

def readFraction (negative : Bool) (digits : Nat) (before : Int) (cs : List Char) :
    Reading Float :=
  let run := cs.takeWhile isDigit
  match run, cs with
  | [], [] => stopBefore .endInValue []
  | [], cs => stopIn .badNumber cs
  | run, cs =>
    let (digits, count, _) := absorb wholeMax digits 0 run
    readScale negative digits (before - count) (cs.dropWhile isDigit)

/-- A whole number as it is kept: negative zero and what does not fit become floats. -/
def wholeNumber (negative : Bool) (n : Nat) : Number :=
  if negative then
    if n = 0 ∨ 9223372036854775808 < n then .double (-(UInt64.ofNat n).toFloat) else .int (-n)
  else .int n

def readTail (negative : Bool) (digits : Nat) (excess : List Char) (cs : List Char) :
    Reading Number :=
  let double (r : Float × List Char) : Number × List Char := (.double r.1, r.2)
  match cs with
  | '.' :: rest => (readFraction negative digits excess.length rest).map double
  | 'e' :: rest => (readExponent negative digits excess.length rest).map double
  | 'E' :: rest => (readExponent negative digits excess.length rest).map double
  | rest =>
    if excess.isEmpty then .ok (wholeNumber negative digits, rest)
    else (floatOfParts negative digits excess.length rest).map double

/-- A number behind its sign. A leading zero stands alone. -/
def readUnsigned (negative : Bool) (cs : List Char) : Reading Number :=
  match cs with
  | [] => stopBefore .endInValue []
  | '0' :: c :: rest =>
    if isDigit c then stopIn .badNumber (c :: rest) else readTail negative 0 [] (c :: rest)
  | c :: rest =>
    if isDigit c then
      let (digits, _, excess) := absorb wholeMax 0 0 (cs.takeWhile isDigit)
      readTail negative digits excess (cs.dropWhile isDigit)
    else stopIn .badNumber (c :: rest)

/-- A number that begins with a sign or a digit. -/
def readNumber : List Char → Reading Number
  | '-' :: cs => readUnsigned true cs
  | cs => readUnsigned false cs

/-! ### Texts -/

/-- The value of four hexadecimal digits. -/
def hex4 (a b c d : Char) : Option Nat := do
  let a ← digitValue 16 a
  let b ← digitValue 16 b
  let c ← digitValue 16 c
  let d ← digitValue 16 d
  some (((a * 16 + b) * 16 + c) * 16 + d)

/-- Four hexadecimal digits. Four bytes are taken for them, whatever they are. -/
def readHex (cs : List Char) : Reading Nat :=
  let bad : Reading Nat :=
    if byteCount cs < 4 then stopBefore .endInString [] else .error ⟨.badEscape, byteCount cs - 4⟩
  match cs with
  | a :: b :: c :: d :: rest =>
    match hex4 a b c d with
    | some n => .ok (n, rest)
    | none => bad
  | _ => bad

/-- One character that must be there, in the middle of a pair of escapes. -/
def expectInPair (wanted : Char) : List Char → Except Fault (List Char)
  | [] => stopBefore .endInString []
  | c :: cs => if c = wanted then .ok cs else stopIn .unfinishedPair (c :: cs)

/-- The character that an escape with hexadecimal digits stands for. One beyond the first plane is
escaped as a pair; half a pair is refused. -/
def readUnicode (cs : List Char) : Except Fault (Char × List Char) := do
  let (n, rest) ← readHex cs
  if 0xDC00 ≤ n ∧ n < 0xE000 then stopBefore .loneSurrogate rest
  else if 0xD800 ≤ n ∧ n < 0xDC00 then
    let rest ← expectInPair '\\' rest
    let rest ← expectInPair 'u' rest
    let (m, rest) ← readHex rest
    if 0xDC00 ≤ m ∧ m < 0xE000 then
      return (Char.ofNat (0x10000 + (n - 0xD800) * 0x400 + (m - 0xDC00)), rest)
    else stopBefore .loneSurrogate rest
  else return (Char.ofNat n, rest)

/-- The character of a letter behind a backslash. -/
def escapeLetter : Char → Option Char
  | '"' => some '"'
  | '\\' => some '\\'
  | '/' => some '/'
  | 'b' => some '\x08'
  | 'f' => some '\x0c'
  | 'n' => some '\n'
  | 'r' => some '\r'
  | 't' => some '\t'
  | _ => none

def readEscape : List Char → Reading Char
  | [] => stopBefore .endInString []
  | 'u' :: cs => readUnicode cs
  | c :: cs =>
    match escapeLetter c with
    | some d => .ok (d, cs)
    | none => stopIn .badEscape (c :: cs)

/-- The characters of a text up to its closing quote, in reverse on top of `acc`, and what follows.
`fuel` bounds the number of characters. -/
def readChars : Nat → List Char → List Char → Reading (List Char)
  | 0, _, cs => stopBefore .endInString cs
  | fuel + 1, acc, cs =>
    match cs with
    | [] => stopBefore .endInString []
    | '"' :: rest => .ok (acc, rest)
    | '\\' :: rest =>
      match readEscape rest with
      | .error f => .error f
      | .ok (c, rest) => readChars fuel (c :: acc) rest
    | c :: rest =>
      if c.toNat < 0x20 then stopIn .controlCharacter (c :: rest)
      else readChars fuel (c :: acc) rest

def readText (cs : List Char) : Reading String :=
  (readChars (cs.length + 1) [] cs).map fun (acc, rest) => (String.ofList acc.reverse, rest)

/-! ### Between values -/

/-- The name of a member and the colon behind it. -/
def readName (cs : List Char) : Except Fault (String × List Char) := do
  match cs with
  | '"' :: rest =>
    let (name, rest) ← readText rest
    match skipBlanks rest with
    | ':' :: rest => return (name, rest)
    | [] => stopBefore .endInObject []
    | rest => stopIn .expectedColon rest
  | cs => stopIn .nameNotString cs

/-- What follows an item of an array: another one, or the end of the array. -/
def afterItem (cs : List Char) : Reading Bool :=
  match skipBlanks cs with
  | ',' :: rest =>
    match skipBlanks rest with
    | [] => stopBefore .endInValue []
    | ']' :: rest => stopIn .trailingComma (']' :: rest)
    | rest => .ok (true, rest)
  | ']' :: rest => .ok (false, rest)
  | [] => stopBefore .endInList []
  | rest => stopIn .expectedCommaOrBracket rest

/-- What follows a member of an object: another one, or the end of the object. -/
def afterMember (cs : List Char) : Reading Bool :=
  match skipBlanks cs with
  | ',' :: rest =>
    match skipBlanks rest with
    | [] => stopBefore .endInValue []
    | '}' :: rest => stopIn .trailingComma ('}' :: rest)
    | rest => .ok (true, rest)
  | '}' :: rest => .ok (false, rest)
  | [] => stopBefore .endInObject []
  | rest => stopIn .expectedCommaOrBrace rest

/-! ### Values -/

mutual

/-- A value with blanks before it. `depth` is the number of containers that may still be entered;
`fuel` bounds the number of values and members. -/
def readValue : Nat → Nat → List Char → Reading Json
  | 0, _, cs => stopBefore .endInValue cs
  | fuel + 1, depth, cs =>
    match skipBlanks cs with
    | [] => stopBefore .endInValue []
    | 'n' :: rest => readWord ['u', 'l', 'l'] .null rest
    | 't' :: rest => readWord ['r', 'u', 'e'] (.bool true) rest
    | 'f' :: rest => readWord ['a', 'l', 's', 'e'] (.bool false) rest
    | '"' :: rest => (readText rest).map fun (s, rest) => (.string s, rest)
    | '[' :: rest =>
      if depth = 0 then stopIn .tooDeep ('[' :: rest)
      else
        match skipBlanks rest with
        | [] => stopBefore .endInList []
        | ']' :: rest => .ok (.array [], rest)
        | rest => (readItems fuel (depth - 1) [] rest).map fun (items, rest) => (.array items, rest)
    | '{' :: rest =>
      if depth = 0 then stopIn .tooDeep ('{' :: rest)
      else
        match skipBlanks rest with
        | [] => stopBefore .endInObject []
        | '}' :: rest => .ok (.object [], rest)
        | rest =>
          (readMembers fuel (depth - 1) [] rest).map fun (members, rest) => (.object members, rest)
    | c :: rest =>
      if c = '-' || isDigit c then
        (readNumber (c :: rest)).map fun (n, rest) => (.number n, rest)
      else stopIn .expectedValue (c :: rest)

/-- The items of an array up to its closing bracket, on top of those read before in reverse. -/
def readItems : Nat → Nat → List Json → List Char → Reading (List Json)
  | 0, _, _, cs => stopBefore .endInList cs
  | fuel + 1, depth, acc, cs =>
    match readValue fuel depth cs with
    | .error f => .error f
    | .ok (item, rest) =>
      match afterItem rest with
      | .error f => .error f
      | .ok (true, rest) => readItems fuel depth (item :: acc) rest
      | .ok (false, rest) => .ok ((item :: acc).reverse, rest)

/-- The members of an object up to its closing brace, on top of those read before in reverse. -/
def readMembers : Nat → Nat → List (String × Json) → List Char → Reading (List (String × Json))
  | 0, _, _, cs => stopBefore .endInObject cs
  | fuel + 1, depth, acc, cs =>
    match readName cs with
    | .error f => .error f
    | .ok (name, rest) =>
      match readValue fuel depth rest with
      | .error f => .error f
      | .ok (value, rest) =>
        match afterMember rest with
        | .error f => .error f
        | .ok (true, rest) => readMembers fuel depth ((name, value) :: acc) rest
        | .ok (false, rest) => .ok (((name, value) :: acc).reverse, rest)

end

/-- The number of containers that a text may put inside one another. -/
def depthLimit : Nat := 127

def stepLimit (cs : List Char) : Nat := 2 * cs.length + 2

/-- Behind the value there are only blanks. -/
def atEnd (cs : List Char) : Except Fault Unit :=
  match skipBlanks cs with
  | [] => .ok ()
  | rest => stopIn .trailingCharacters rest

def read (text : String) : Except Fault Json := do
  let cs := text.toList
  let (value, rest) ← readValue (stepLimit cs) depthLimit cs
  atEnd rest
  return value

def read? (text : String) : Option Json := (read text).toOption

end Adventure.Json

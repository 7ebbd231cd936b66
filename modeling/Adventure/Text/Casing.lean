import Adventure.Text.Casing.Table
import Adventure.Text.Casing.Cased

/-!
# Upper and lower case

Full case conversion of texts. A capital sigma at the end of a word becomes the final small sigma;
every other character is converted by itself. Names and tags are compared with ASCII case alone,
which `asciiLower` folds.
-/

namespace Adventure.Text

def upperChar (c : Char) : List Char :=
  if c.toNat < 128 then [c.toUpper] else mapCase upperExpansions upperRuns c

def lowerChar (c : Char) : List Char :=
  if c.toNat < 128 then [c.toLower] else mapCase lowerExpansions lowerRuns c

def upper (s : String) : String := String.ofList (s.toList.flatMap upperChar)

/-- Does a letter with case come first, once ignorable characters are skipped? -/
def beginsCased (cs : List Char) : Bool :=
  match cs.dropWhile isCaseIgnorable with
  | [] => false
  | c :: _ => isCased c

/-- Lower case of the characters `cs`, with those that stand before them in reverse. -/
def lowerAfter (before : List Char) : List Char → List Char
  | [] => []
  | c :: cs =>
    let mapped :=
      if c = 'Σ' then
        if beginsCased before && !beginsCased cs then ['ς'] else ['σ']
      else lowerChar c
    mapped ++ lowerAfter (c :: before) cs

def lower (s : String) : String := String.ofList (lowerAfter [] s.toList)

/-- ASCII capitals made small, all other characters kept. -/
def asciiLower (s : String) : String := String.ofList (s.toList.map Char.toLower)

end Adventure.Text

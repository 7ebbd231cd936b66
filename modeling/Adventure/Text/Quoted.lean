import Adventure.Text.Unprintable

/-!
# Quoted text

A text between double quotes, with quotes and backslashes escaped, the common controls by a letter
and every other character that cannot be seen by its code point.
-/

namespace Adventure.Text

def quoteChar (c : Char) : String :=
  match c with
  | '\x00' => "\\0"
  | '\t' => "\\t"
  | '\n' => "\\n"
  | '\r' => "\\r"
  | '"' => "\\\""
  | '\\' => "\\\\"
  | c =>
    if shownByCode c then
      "\\u\x7b" ++ String.ofList (Nat.toDigits 16 c.toNat) ++ "\x7d"
    else c.toString

def quoted (s : String) : String := "\"" ++ String.join (s.toList.map quoteChar) ++ "\""

end Adventure.Text

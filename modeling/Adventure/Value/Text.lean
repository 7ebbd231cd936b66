import Adventure.Text.Quoted
import Adventure.Value.Basic

/-!
# The text of a value

How values appear in reports and log lines: numbers bare, texts quoted, handles and frames in a
word with brackets.
-/

namespace Adventure.Value

def text : Value → String
  | .void => "void"
  | .int n => toString n.toInt
  | .float x => Decimal.plain.text32 x
  | .string s => Text.quoted s
  | .object h => "object(" ++ h.text ++ ")"
  | .vector v =>
    "[" ++ Decimal.plain.text32 v.x ++ ", " ++ Decimal.plain.text32 v.y ++ ", "
      ++ Decimal.plain.text32 v.z ++ "]"
  | .engine (some (.location l)) => l.text
  | .engine (some .effect) => "Effect"
  | .engine none => "engine_type(null)"
  | .state f => "action(@" ++ toString f.offset.toNat ++ ")"

end Adventure.Value

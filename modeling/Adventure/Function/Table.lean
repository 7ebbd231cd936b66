import Adventure.Function.Block0
import Adventure.Function.Block1
import Adventure.Function.Block2

/-!
# The table of script functions

All functions that scripts may call. The table is closed: nothing can be registered in it any more.

See section 10.9 of the specification.
-/

namespace Adventure.Function

def entries : List (Bridge.Entry Builtin) := block0 ++ block1 ++ block2

/-- The closed table of the script functions. -/
def table : Bridge.Table Builtin := ⟨entries, entries.map fun e => (e.name, e.id), true⟩

def call {σ : Type} (run : Runner σ) (f : Callee) (args : List Value) (site : Bridge.CallSite) :
    Play σ (Except Bridge.CallError Value) :=
  callIn table run f args site

end Adventure.Function

import Adventure.Proofs.Session.Parts
import Adventure.Proofs.Session.Relocation

/-!
# Play that returns

Play breaks off only where the interpreter of the scripts does, or a handler of a script function.
So hooks, jumps and doors return whenever the interpreter returns from every script, whatever it has
done by then.
-/

namespace Adventure

variable {σ α β : Type}

/-- Wherever it begins, play returns. -/
abbrev Play.Returns (m : Play σ α) : Prop := ∀ s, Play.Yields m s fun _ => True

/-- The interpreter returns from every script. -/
def Runner.Returns (run : Runner σ) : Prop := ∀ r, Play.Returns (run r)

theorem Runner.returns_idle : (Runner.idle : Runner σ).Returns := fun _ _ => ⟨_, rfl, trivial⟩

namespace Play

theorem returns_pure (a : α) : Returns (pure a : Play σ α) := fun _ => yields_pure a trivial

theorem returns_change (f : World → World) : Returns (change f : Play σ Unit) :=
  fun _ => yields_change trivial

theorem returns_bind {m : Play σ α} {f : α → Play σ β} (hm : Returns m)
    (hf : ∀ a, Returns (f a)) : Returns (m >>= f) :=
  fun s => yields_bind (hm s) fun a s' _ => hf a s'

theorem hereditary_returns :
    Hereditary (fun _ _ => True) fun {α : Type} (m : Play σ α) => Returns m where
  answer := returns_pure
  look _ := ⟨_, rfl, trivial⟩
  change {f} _ := returns_change f
  chain := returns_bind

variable {run : Runner σ}

theorem returns_runScript (hrun : run.Returns) (r : Request) : Returns (runScript run r) :=
  hereditary_returns.runScript (fun _ _ => trivial) hrun r

theorem returns_jumpTo (hrun : run.Returns) (h area : Handle) (position : Vec3) :
    Returns (jumpTo run h area position) :=
  hereditary_returns.jumpTo (fun _ => trivial) (returns_runScript hrun) h area position

theorem returns_setDoorOpen (hrun : run.Returns) (h caller : Handle) (wanted : Bool) :
    Returns (setDoorOpen run h caller wanted) :=
  hereditary_returns.setDoorOpen (returns_runScript hrun) (fun _ _ _ _ => trivial) h caller wanted

end Play

end Adventure

import Adventure.Proofs.Object.Changes
import Adventure.Proofs.Registry.HandleOrder
import Adventure.World.Basic
import Mathlib.Logic.Relation

/-!
# Scenes

A scene is what is left of a world when only the references between its objects count: who is there,
who the player's creature is, and who talks with whom. A scene changes by a few elementary shifts;
every step of a world is a chain of them. What holds of scenes is therefore proved shift by shift.
-/

namespace Adventure.World

open Object (Abides changed listing unlisting told)

/-- Who is there, who the player's creature is and who talks with whom. -/
structure Scene where
  objects : List Object
  /-- How many handles have been given out. -/
  issued : Nat
  pc : Option Handle
  conversation : Option Conversation

def scene (w : World) : Scene := ⟨w.registry.objects, w.registry.issued, w.pc, w.conversation⟩

namespace Scene

def involves (s : Scene) (h : Handle) : Bool :=
  s.conversation.any fun c => c.object = h || c.pc = h

/-- Both sides of the conversation are there, and the one that speaks belongs to the player. -/
def Attends (s : Scene) (c : Conversation) : Prop :=
  (∃ o ∈ s.objects, o.id = c.object) ∧ ∃ o ∈ s.objects, o.id = c.pc ∧ o.isPc = true

/-- Every handle that an object has or stands in has been given out. -/
structure Known (s : Scene) : Prop where
  ids : ∀ o ∈ s.objects, o.id.number ≤ s.issued
  areas : ∀ o ∈ s.objects, ∀ a, o.area = some a → a.number ≤ s.issued

/-- Objects that may come together, with handles up to number `n`: nobody talks to them, they stand
in areas that come with them, and these list them. -/
structure Arrivals (s : Scene) (n : Nat) (news : List Object) : Prop where
  fresh : ∀ o ∈ news, s.issued < o.id.number ∧ o.id.number ≤ n
  quiet : ∀ o ∈ news, o.pcSpeaker = none
  within : ∀ o ∈ news, ∀ a, o.area = some a → ∃ b ∈ news, b.id = a
  once : ∀ b ∈ news, ∀ a, b.area? = some a → a.objects.Nodup
  known : ∀ b ∈ news, ∀ a, b.area? = some a → ∀ h ∈ a.objects, ∃ o ∈ news, o.id = h
  listed : ∀ b ∈ news, ∀ a, b.area? = some a → ∀ o ∈ news, o.id ∈ a.objects ↔ o.area = some b.id

theorem Attends.mono {s s' : Scene} {c : Conversation} (h : s.Attends c)
    (each : ∀ o ∈ s.objects, o.id = c.object ∨ o.id = c.pc →
      ∃ o' ∈ s'.objects, o'.id = o.id ∧ (o.isPc = true → o'.isPc = true)) : s'.Attends c := by
  obtain ⟨⟨o, ho, hoid⟩, p, hp, hpid, hisPc⟩ := h
  obtain ⟨o', ho', hoid', -⟩ := each o ho (Or.inl hoid)
  obtain ⟨p', hp', hpid', hkeeps⟩ := each p hp (Or.inr hpid)
  exact ⟨⟨o', ho', hoid'.trans hoid⟩, p', hp', hpid'.trans hpid, hkeeps hisPc⟩

end Scene

/-- What a shift takes out of a scene: nothing, or an object that is a side of the conversation or
none. -/
inductive Mark where
  | calm
  | left (h : Handle) (side : Bool)

/-- Does a side of the conversation go? -/
def Mark.torn : Mark → Bool
  | calm => false
  | left _ side => side

/-- An elementary change of a scene, marked with what goes. -/
inductive Shift (s : Scene) : Mark → Scene → Prop where
  | issued (n : Nat) (grown : s.issued ≤ n) : Shift s .calm { s with issued := n }
  /-- Objects change where they stand, and the player's creature may change its place. -/
  | inPlace (g : Object → Object) (abides : ∀ o, Abides o (g o))
    (stays : ∀ o, s.pc ≠ some o.id → (g o).area = o.area) :
    Shift s .calm { s with objects := s.objects.map g }
  /-- An object moves from one area to another one, and from list to list. -/
  | moved (h old new : Handle) (f : Object → Object) (abides : ∀ o, Abides o (f o))
    (comes : ∀ o, (f o).area = some new) (leaves : ∀ o ∈ s.objects, o.id = h → o.area = some old)
    (known : h.number ≤ s.issued) (live : ∃ o ∈ s.objects, o.id = h) :
    Shift s .calm { s with
      objects := ((s.objects.map (changed h f)).map (unlisting old h)).map (listing new h) }
  | arrived (news : List Object) (n : Nat) (known : s.Known) (arrivals : s.Arrivals n news)
    (grown : s.issued ≤ n) : Shift s .calm { s with objects := s.objects ++ news, issued := n }
  /-- An object comes into an area that is there already. -/
  | created (o : Object) (area : Handle) (n : Nat) (known : s.Known)
    (fresh : s.issued < o.id.number ∧ o.id.number ≤ n) (quiet : o.pcSpeaker = none)
    (placed : o.area = some area) (plain : o.area? = none) :
    Shift s .calm { s with objects := s.objects.map (listing area o.id) ++ [o], issued := n }
  /-- An object goes. If it was the player's creature, there is none any more. -/
  | left (h : Handle) : Shift s (.left h (s.involves h)) { s with
      objects := s.objects.filter fun o => o.id ≠ h
      pc := if s.pc = some h then none else s.pc }
  /-- An object that is not there any more is taken off a list. -/
  | delisted (area h : Handle) (gone : ∀ o ∈ s.objects, o.id ≠ h) :
    Shift s .calm { s with objects := s.objects.map (unlisting area h) }
  | chosen (h : Handle) (vacant : ∀ p, s.pc = some p → p = h) : Shift s .calm { s with pc := some h }
  | silenced (c : Conversation) (running : s.conversation = some c) : Shift s .calm { s with
      objects := s.objects.map (told c.object none), conversation := none }
  | spoken (c : Conversation) (silent : s.conversation = none) (attends : s.Attends c)
    (known : c.object.number ≤ s.issued) : Shift s .calm { s with
      objects := s.objects.map (told c.object (some c.pc)), conversation := some c }
  | cleared : Shift s .calm { s with objects := [], pc := none, conversation := none }

/-- Any number of shifts with marks that are allowed. -/
abbrev Shifts (P : Mark → Prop) : Scene → Scene → Prop :=
  Relation.ReflTransGen fun s s' => ∃ m, P m ∧ Shift s m s'

namespace Shifts

variable {P Q : Mark → Prop} {s s' : Scene}

theorem shift {m : Mark} (hP : P m) (h : Shift s m s') : Shifts P s s' :=
  .single ⟨m, hP, h⟩

theorem mono (hPQ : ∀ m, P m → Q m) (h : Shifts P s s') : Shifts Q s s' := by
  refine Relation.ReflTransGen.mono (fun a b hab => ?_) s s' h
  obtain ⟨m, hP, hshift⟩ := hab
  exact ⟨m, hPQ m hP, hshift⟩

theorem keeps {I : Scene → Prop} (hI : ∀ {a b m}, Shift a m b → I a → I b)
    (h : Shifts P s s') (hs : I s) : I s' := by
  induction h with
  | refl => exact hs
  | tail _ hlast ih =>
    obtain ⟨_, -, hshift⟩ := hlast
    exact hI hshift ih

end Shifts

end Adventure.World

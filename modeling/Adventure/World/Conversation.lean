import Adventure.World.Basic

/-!
# Conversations

At most one conversation runs at a time, between a creature of the player and an object. The object
knows who talks to it.

See section 10.8 of the specification.
-/

namespace Adventure.World

def endConversation (w : World) : World :=
  match w.conversation with
  | none => w
  | some c =>
    let w := { w with conversation := none }.update c.object fun o => { o with pcSpeaker := none }
    w.logEvent ("conversation.end " ++ c.dialog)

/-- The dialog that would be used for a conversation with an object: the given one, or the object's
own if none is given. -/
def dialogFor (dialog : String) (target : Object) : String :=
  if dialog.isEmpty then target.conversation else dialog

/-- May the player's creature `pc` talk with `target` in this dialog? -/
def mayTalk (w : World) (dialog : String) (pc : Handle) (target : Object) : Bool :=
  target.pcSpeaker.all (· = pc) && !dialog.isEmpty && w.library.resources.has .dlg dialog

/-- Starts a conversation between a creature of the player and an object. Answers whether it was
started; if not, nothing changes. -/
def startConversation (w : World) (dialog : String) (pc object : Handle) : Bool × World :=
  match (w.get? pc).filter Object.isPc, w.get? object with
  | some player, some target =>
    let dialog := dialogFor dialog target
    if w.mayTalk dialog pc target then
      let w := w.endConversation.update object fun o => { o with pcSpeaker := some pc }
      let w := w.logEvent
        ("conversation.start " ++ dialog ++ " (" ++ player.tag ++ " <-> " ++ target.tag ++ ")")
      (true, { w with conversation := some ⟨dialog, pc, object⟩ })
    else (false, w)
  | _, _ => (false, w)

end Adventure.World

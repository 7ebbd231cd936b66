import Adventure.World.Basic

/-!
# Snapshots

What a report shows of the world.

See section 10.4 of the specification.
-/

namespace Adventure

structure ObjectSummary where
  id : Handle
  kind : ObjectKind
  tag : String
  name : String
  area : Option Handle
  position : Vec3
  facing : Float32

structure Snapshot where
  moduleTag : Option String
  currentArea : Option Handle
  pc : Option Handle
  objects : List ObjectSummary
  pending : List Queue.Pending
  tokens : Dict String
  conversation : Option Conversation

def Object.summary (o : Object) : ObjectSummary :=
  ⟨o.id, o.kind, o.tag, o.name, o.area, o.position, o.facing⟩

namespace World

def snapshot (w : World) : Snapshot where
  moduleTag := ((w.get? w.moduleId).filter fun o => o.module?.isSome).map Object.tag
  currentArea := w.currentArea
  pc := w.pc
  objects := w.registry.objects.map Object.summary
  pending := w.queue.pending
  tokens := w.tokens
  conversation := w.conversation

end World

end Adventure

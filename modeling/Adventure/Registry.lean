import Adventure.Object.Basic

/-!
# The registry

Every live object, in the order in which they were registered, and the handles of each tag, in the
order in which they acquired it. Tags are compared without regard to ASCII case. A search is a
cursor over the handles that were there when it began; objects that are gone by the time the cursor
comes to them are passed over.

Handles are given out one after the other, and none twice among the first 2^32 - 1, the last of
which names nothing. A build with overflow checks, which is the one that breaks play off in
`Function.hitDice`, breaks off when another handle is asked for. The registry goes on from zero, as
a build without the checks does; what needs fresh handles is proved below that bound.

See section 4.3 of the specification.
-/

namespace Adventure

/-- The live objects, the tag index and the number of handles given out. -/
structure Registry where
  objects : List Object
  tags : Dict (List Handle)
  issued : Nat

namespace Registry

def empty : Registry := ⟨[], [], 0⟩

def tagKey (tag : String) : String := Text.asciiLower tag

def handleOf (n : Nat) : Handle := ⟨UInt32.ofNat n⟩

/-- The next handle. The count has 32 bits and goes round. -/
def issue (r : Registry) : Handle × Registry :=
  (handleOf (r.issued + 1), { r with issued := r.issued + 1 })

/-! ### Looking up -/

/-- The object of a handle, the handle that names nothing included. -/
def lookup (r : Registry) (h : Handle) : Option Object := r.objects.find? fun o => o.id = h

def get? (r : Registry) (h : Handle) : Option Object := if h.isValid then r.lookup h else none

def contains (r : Registry) (h : Handle) : Bool := (r.get? h).isSome

def ids (r : Registry) : List Handle := r.objects.map Object.id

def size (r : Registry) : Nat := r.objects.length

/-- The objects with a tag, in the order in which they acquired it. -/
def withTag (r : Registry) (tag : String) : List Handle := (r.tags.find? (tagKey tag)).getD []

def inArea (r : Registry) (area : Handle) : List Handle :=
  (r.objects.filter fun o => o.area = some area).map Object.id

/-! ### Changing -/

def update (r : Registry) (h : Handle) (f : Object → Object) : Registry :=
  if h.isValid then
    { r with objects := r.objects.map fun o => if o.id = h then f o else o }
  else r

def index (tags : Dict (List Handle)) (tag : String) (h : Handle) : Dict (List Handle) :=
  tags.insert (tagKey tag) ((tags.find? (tagKey tag)).getD [] ++ [h])

/-- Takes a handle out of a tag's list, and the list out of the index when it is empty. -/
def unindex (tags : Dict (List Handle)) (tag : String) (h : Handle) : Dict (List Handle) :=
  match tags.find? (tagKey tag) with
  | none => tags
  | some handles =>
    let rest := handles.filter (· ≠ h)
    if rest.isEmpty then tags.erase (tagKey tag) else tags.insert (tagKey tag) rest

/-- Takes an object out of the registry and out of the list of its tag. -/
def unregister (r : Registry) (h : Handle) : Option Object × Registry :=
  match r.lookup h with
  | none => (none, r)
  | some o =>
    (some o, { r with
      objects := r.objects.filter fun a => a.id ≠ h
      tags := unindex r.tags o.tag h })

/-- Puts an object at the end of the registry, in place of an older one with its handle. An object
without a handle is refused. -/
def register (r : Registry) (o : Object) : Registry :=
  if o.id.isValid then
    let r := (r.unregister o.id).2
    { r with objects := r.objects ++ [o], tags := index r.tags o.tag o.id }
  else r

/-- Changes the tag of a registered object. A tag that differs from the old one in case alone keeps
the object's place in the list of the tag. -/
def retag (r : Registry) (h : Handle) (tag : String) : Bool × Registry :=
  match r.lookup h with
  | none => (false, r)
  | some o =>
    let objects := r.objects.map fun a => if a.id = h then a.setTag tag else a
    if tagKey o.tag = tagKey tag then (true, { r with objects })
    else (true, { r with objects, tags := index (unindex r.tags o.tag h) tag h })

/-- Drops every object. Handles stay given out. -/
def clear (r : Registry) : Registry := { r with objects := [], tags := [] }

end Registry

/-! ### Searches -/

/-- A cursor over handles: those still ahead, and the one it last stopped on. -/
structure Search where
  ahead : List Handle
  current : Option Handle
  deriving DecidableEq, Repr

namespace Search

def fresh : Search := ⟨[], none⟩

def ofList (handles : List Handle) : Search := ⟨handles, none⟩

/-- Moves on to the next handle that is registered. -/
def next (r : Registry) (s : Search) : Bool × Search :=
  match s.ahead.dropWhile fun h => (r.lookup h).isNone with
  | h :: rest => (true, ⟨rest, some h⟩)
  | [] => (false, fresh)

end Search

/-- The search over all objects, or over those with a tag, and whether it has any to go through. -/
def Registry.search (r : Registry) (tag : Option String) : Bool × Search :=
  let handles := match tag with
    | some tag => r.withTag tag
    | none => r.ids
  (!handles.isEmpty, .ofList handles)

end Adventure

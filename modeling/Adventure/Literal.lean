import Adventure.Failure
import Adventure.Text.Pieces
import Adventure.World.Basic

/-!
# Literals

Arguments of functions as they are written on a command line. The type that a function declares for
a parameter says how its argument is read.

See section 10.4 of the specification.
-/

namespace Adventure.Literal

open Decimal

def component (part : String) : Except Failure Float32 :=
  match readFloat32 (Text.trim part) with
  | .ok x => .ok x
  | .error e => .error (.of (.float e))

/-- What went wrong, behind what was being done. -/
def inContext {α : Type} (activity : Activity) : Except Failure α → Except Failure α
  | .ok a => .ok a
  | .error f => .error (f.during activity)

def handle (literal digits : String) : Except Failure Handle :=
  match readUInt32 16 digits with
  | .ok n => .ok ⟨n⟩
  | .error e => .error ((Failure.of (.int e)).during (.readingHandle literal))

/-- The object a literal names: a word in any case, a handle behind `0x`, or the tag of a live
object. A tag that nothing has names nothing. -/
def object (w : World) (literal : String) (caller : Handle) : Except Failure Handle :=
  let lower := Text.asciiLower literal
  if lower = "pc" then .ok (w.pc.getD .invalid)
  else if lower = "module" then .ok w.moduleId
  else if lower = "self" ∨ lower = "caller" then .ok caller
  else if lower = "invalid" ∨ lower = "" then .ok .invalid
  else
    match lower.toList with
    | '0' :: 'x' :: digits => handle literal (String.ofList digits)
    | _ => .ok (((w.registry.withTag literal).head?).getD .invalid)

/-- Three components with semicolons between them. -/
def vector (literal : String) : Except Failure Vec3 :=
  match inContext .readingVector ((Text.split ';' literal).mapM component) with
  | .error f => .error f
  | .ok [x, y, z] => .ok ⟨x, y, z⟩
  | .ok parts => .error (.of (.threeComponents parts.length))

/-- The tag of an area, three coordinates and possibly a facing, with semicolons between them. -/
def location (w : World) (literal : String) : Except Failure Location :=
  let parts := Text.split ';' literal
  let tag := parts.head?.getD ""
  match (w.registry.withTag tag).find? w.isArea with
  | none => .error (.of (.noAreaTagged tag))
  | some area =>
    match inContext .readingLocation (parts.tail.mapM component) with
    | .error f => .error f
    | .ok [x, y, z] => .ok (.make (some area) ⟨x, y, z⟩ 0)
    | .ok [x, y, z, facing] => .ok (.make (some area) ⟨x, y, z⟩ facing)
    | .ok _ => .error (.of .expectedLocation)

def read (w : World) (type : ValueType) (literal : String) (caller : Handle) :
    Except Failure Value :=
  match type with
  | .int =>
    match readInt32 literal with
    | .ok n => .ok (.int n)
    | .error e => .error ((Failure.of (.int e)).during .readingInteger)
  | .float =>
    match readFloat32 literal with
    | .ok x => .ok (.float x)
    | .error e => .error ((Failure.of (.float e)).during .readingFloat)
  | .string => .ok (.string literal)
  | .object => (object w literal caller).map .object
  | .vector => (vector literal).map .vector
  | .engine =>
    if literal.isEmpty then .ok (.default .engine) else (location w literal).map .ofLocation
  | .state => .ok (.default .state)
  | .void => .error (.of .voidParameter)

/-- Reads the arguments of a call at the types of the parameters; `index` is the number of the first
one. An argument too many is taken as a text, so that the call itself is refused. -/
def readAll (w : World) (caller : Handle) :
    Nat → List ValueType → List String → Except Failure (List Value)
  | _, _, [] => .ok []
  | index, [], literal :: literals =>
    (readAll w caller (index + 1) [] literals).map (.string literal :: ·)
  | index, type :: types, literal :: literals =>
    match read w type literal caller with
    | .error f => .error (f.during (.argument index literal))
    | .ok v => (readAll w caller (index + 1) types literals).map (v :: ·)

end Adventure.Literal

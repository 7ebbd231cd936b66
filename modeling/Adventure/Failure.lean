import Adventure.Bridge.Signature
import Adventure.Decimal.Numeral
import Adventure.Resource.Directory

/-!
# Failures

What a request to the game can fail with: a cause, and what was being done when it arose, the
outermost first. The text of a failure puts the one behind the other.

See sections 7 and 10.2 of the specification.
-/

namespace Adventure

inductive Cause where
  | load (error : LoadError)
  | directory (error : DirectoryError)
  | call (error : Bridge.CallError)
  | value (error : ValueError)
  | int (error : Decimal.IntError)
  | float (error : Decimal.FloatError)
  | moduleNotFound (name : String)
  | noPlayer
  | noModule
  | notACreature (h : Handle)
  | entryAreaNotLoaded (name : String)
  | areaNotLoaded (name : String)
  | playerCannotJump (name : String)
  | nowhereToCreate (template : String)
  | outsideOfScript (function : String)
  | script (text : String)
  | nestedTooDeep
  | playerBlueprintNotFound (name : String)
  | unknownFunction (name : String)
  | threeComponents (found : Nat)
  | noAreaTagged (tag : String)
  | expectedLocation
  | voidParameter
  deriving DecidableEq, Repr

def Cause.message : Cause → String
  | .load e => e.message
  | .directory e => e.message
  | .call e => e.message
  | .value e => e.message
  | .int e => e.message
  | .float e => e.message
  | .moduleNotFound name => "module " ++ name ++ " not found"
  | .noPlayer => "no player character"
  | .noModule => "no module loaded"
  | .notACreature h => "object " ++ h.text ++ " is not a creature"
  | .entryAreaNotLoaded name => "entry area \"" ++ name ++ "\" is not loaded"
  | .areaNotLoaded name => "area \"" ++ name ++ "\" is not loaded"
  | .playerCannotJump name => "player character cannot jump to \"" ++ name ++ "\""
  | .nowhereToCreate template => "cannot create \"" ++ template ++ "\": location has no loaded area"
  | .outsideOfScript function => function ++ " outside of a script"
  | .script text => text
  | .nestedTooDeep => "scripts nested too deep"
  | .playerBlueprintNotFound name => "player blueprint \"" ++ name ++ "\" not found"
  | .unknownFunction name => "unknown function " ++ name
  | .threeComponents found => "expected three components, found " ++ toString found
  | .noAreaTagged tag => "no area tagged " ++ tag
  | .expectedLocation => "expected AREA;x;y;z[;facing]"
  | .voidParameter => "void parameters take no value"

/-- What was being done when something failed. -/
inductive Activity where
  | loadingModule (name : String)
  | loadingRunModule (name : String)
  | loadingPlayer
  | loadingResources (dir : String)
  | readingInteger
  | readingFloat
  | readingHandle (literal : String)
  | readingVector
  | readingLocation
  | argument (index : Nat) (literal : String)
  | writingReport (path : String)
  deriving DecidableEq, Repr

def Activity.message : Activity → String
  | .loadingModule name => "loading module " ++ name
  | .loadingRunModule name => "loading module \"" ++ name ++ "\""
  | .loadingPlayer => "loading player character"
  | .loadingResources dir => "loading resources from " ++ dir
  | .readingInteger => "expected an integer"
  | .readingFloat => "expected a float"
  | .readingHandle literal => "bad object handle " ++ literal
  | .readingVector => "expected x;y;z"
  | .readingLocation => "expected AREA;x;y;z[;facing]"
  | .argument index literal => "argument " ++ toString index ++ " (" ++ Text.quoted literal ++ ")"
  | .writingReport path => "writing run report to " ++ path

/-- A cause and the activities around it, the outermost first. -/
structure Failure where
  activities : List Activity
  cause : Cause
  deriving DecidableEq, Repr

namespace Failure

def of (cause : Cause) : Failure := ⟨[], cause⟩

def during (activity : Activity) (f : Failure) : Failure :=
  { f with activities := activity :: f.activities }

def messages (f : Failure) : List String := f.activities.map Activity.message ++ [f.cause.message]

/-- All messages with colons between them. -/
def text (f : Failure) : String := ": ".intercalate f.messages

/-- All messages with colons between them, without what was reported about the text of a
resource. -/
def outline (f : Failure) : String :=
  match f.cause with
  | .load e => ": ".intercalate (f.activities.map Activity.message ++ [e.headline])
  | _ => f.text

/-- The outermost message alone. -/
def headline (f : Failure) : String := f.messages.head?.getD ""

end Failure

end Adventure

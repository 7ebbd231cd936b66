import Adventure.Record.Reader
import Adventure.Text.Casing

/-!
# Resources

Records are kept as texts by kind and name, tables as rows. Names are compared without regard to
ASCII case. A resource that does not exist is no error; one that cannot be read to its end, or whose
text is no record, is.

See sections 6 and 10.6 of the specification.
-/

namespace Adventure

inductive ResourceKind where
  | ifo
  | are
  | git
  | utc
  | utd
  | utp
  | utw
  | dlg
  deriving DecidableEq, Repr

namespace ResourceKind

def extension : ResourceKind → String
  | .ifo => "ifo"
  | .are => "are"
  | .git => "git"
  | .utc => "utc"
  | .utd => "utd"
  | .utp => "utp"
  | .utw => "utw"
  | .dlg => "dlg"

def all : List ResourceKind := [.ifo, .are, .git, .utc, .utd, .utp, .utw, .dlg]

/-- The kind of a file extension in any case. -/
def ofExtension? (ext : String) : Option ResourceKind :=
  all.find? fun k => k.extension = Text.asciiLower ext

end ResourceKind

/-- What is wrong with a resource that gives no record. -/
inductive ResourceFault where
  /-- The reading broke off. -/
  | unread (report : String)
  /-- What was read is no record. -/
  | noRecord (report : Json.Report)
  deriving DecidableEq, Repr

namespace ResourceFault

def headline : ResourceFault → String
  | .unread _ => "reading"
  | .noRecord _ => "malformed"

def report : ResourceFault → String
  | .unread report => report
  | .noRecord report => report.message

end ResourceFault

/-- Why an object or an area cannot be loaded. -/
inductive LoadError where
  | missingAppearance (kind : String)
  | missingResource (name : String) (kind : ResourceKind)
  | malformed (name : String) (kind : ResourceKind) (fault : ResourceFault)
  | model (name : String)
  | unsupportedType (bits : Int32)
  | loadedTwice (handle : String)
  deriving DecidableEq, Repr

/-- The message, without what was reported about a resource. -/
def LoadError.headline : LoadError → String
  | .missingAppearance kind => kind ++ " without an appearance"
  | .missingResource name kind => "missing resource " ++ name ++ "." ++ kind.extension
  | .malformed name kind fault => fault.headline ++ " " ++ name ++ "." ++ kind.extension
  | .model name => "failed to load model " ++ name
  | .unsupportedType bits => "object type " ++ toString bits.toInt ++ " cannot be created"
  | .loadedTwice handle => "object " ++ handle ++ " loaded twice"

def LoadError.message (e : LoadError) : String :=
  match e with
  | .malformed _ _ fault => e.headline ++ ": " ++ fault.report
  | _ => e.headline

/-- A source of resources: texts by kind and name, and table rows. A text is read when it is asked
for, and the reading of one that exists may break off with a report. -/
structure Resources where
  read : ResourceKind → String → Option (Except String String)
  row : String → Nat → Option Record

namespace Resources

/-- Resources whose texts are all at hand. -/
def ofTexts (text : ResourceKind → String → Option String) (row : String → Nat → Option Record) :
    Resources where
  read kind name := (text kind name).map .ok
  row

def has (r : Resources) (kind : ResourceKind) (name : String) : Bool := (r.read kind name).isSome

/-- Reads a record, nothing if the resource does not exist. -/
def load (r : Resources) (kind : ResourceKind) (name : String) :
    Except LoadError (Option Record) :=
  match r.read kind name with
  | none => .ok none
  | some (.error report) => .error (.malformed name kind (.unread report))
  | some (.ok text) =>
    match Record.read text with
    | .ok record => .ok (some record)
    | .error report => .error (.malformed name kind (.noRecord report))

end Resources

end Adventure

import Adventure.Resource.Basic

/-!
# Resources in a directory

`NAME.EXT` holds a record, `TABLE.2da.json` the rows of a table, `dialog.tlk.json` and
`dialogf.tlk.json` the strings of the talk table for either gender. Files are visited directory by
directory with the names in ascending order, and a later file hides an earlier one of the same name.
Records are read when they are asked for; tables and strings when the directory is loaded, and those
that cannot be read are passed over.

See section 10.4 of the specification.
-/

namespace Adventure

/-- A file below a directory: the names on the way to it, its own included, and its text. -/
structure File where
  path : List String
  text : String

namespace File

/-- The file's own name with ASCII capitals made small. -/
def name (f : File) : String := Text.asciiLower (f.path.getLast?.getD "")

/-- Does one file come no later than another? -/
def visitedBy (a b : File) : Bool := !(b.path < a.path)

def visitOrder (files : List File) : List File := files.mergeSort visitedBy

end File

/-- What a file name says about a file. -/
inductive FileRole where
  | talk (gender : Gender)
  | table (name : String)
  | record (kind : ResourceKind) (name : String)
  | other
  deriving DecidableEq, Repr

/-- What stands before and behind the last point of a name. -/
def splitExtension? (name : String) : Option (String × String) :=
  let reversed := name.toList.reverse
  match reversed.dropWhile (· ≠ '.') with
  | [] => none
  | _ :: stem =>
    some (String.ofList stem.reverse, String.ofList (reversed.takeWhile (· ≠ '.')).reverse)

def dropEnding? (ending name : String) : Option String :=
  if ending.toList.isSuffixOf name.toList then
    some (String.ofList (name.toList.take (name.length - ending.length)))
  else none

/-- The role of a file with this name in small letters. -/
def FileRole.ofName (name : String) : FileRole :=
  if name = "dialog.tlk.json" then .talk .male
  else if name = "dialogf.tlk.json" then .talk .female
  else
    match dropEnding? ".2da.json" name with
    | some stem => .table stem
    | none =>
      match splitExtension? name with
      | none => .other
      | some (stem, ext) =>
        match ResourceKind.ofExtension? ext with
        | some kind => .record kind stem
        | none => .other

/-- Why a directory cannot be used. -/
inductive DirectoryError where
  | notADirectory (dir : String)
  | noResources (dir : String)
  deriving DecidableEq, Repr

def DirectoryError.message : DirectoryError → String
  | .notADirectory dir => dir ++ " is not a directory"
  | .noResources dir => "no resources found in " ++ dir

/-- The index of a directory: where each record is, the tables, and the strings read so far. -/
structure Directory where
  root : String
  records : List ((ResourceKind × String) × List String)
  tables : Dict (List Record)
  male : Option (List String)
  female : Option (List String)

namespace Directory

/-- The texts of a file that holds an array of texts. -/
def strings? (f : File) : Option (List String) := (Json.read? f.text).bind Json.strings?

/-- The rows of a file that holds an array of records. -/
def rows? (f : File) : Option (List Record) := (Json.read? f.text).bind Record.listOfJson

def visit (d : Directory) (f : File) : Directory :=
  match FileRole.ofName f.name with
  | .talk .male => { d with male := (strings? f).or d.male }
  | .talk .female => { d with female := (strings? f).or d.female }
  | .table table =>
    match rows? f with
    | some rows => { d with tables := d.tables.insert table rows }
    | none => d
  | .record kind name =>
    { d with records := ((kind, name), f.path) :: d.records.filter (·.1 ≠ (kind, name)) }
  | .other => d

/-- Indexes the files below `dir`; `none` says that there is no such directory. -/
def load (dir : String) (listing : Option (List File)) : Except DirectoryError Directory :=
  match listing with
  | none => .error (.notADirectory dir)
  | some files =>
    let d := (File.visitOrder files).foldl visit ⟨dir, [], [], none, none⟩
    if d.records.isEmpty && d.tables.isEmpty then .error (.noResources dir) else .ok d

def talk? (d : Directory) : Option TalkTable :=
  match d.male, d.female with
  | none, none => none
  | male, female => some ⟨male.getD [], female.getD []⟩

def size (d : Directory) : Nat := d.records.length

/-- Has the directory no records? It may still have tables. -/
def isEmpty (d : Directory) : Bool := d.records.isEmpty

def resources (d : Directory) (files : List File) : Resources where
  read kind name :=
    (d.records.lookup (kind, Text.asciiLower name)).bind fun path =>
      (files.find? (·.path = path)).map fun f => .ok f.text
  row table index := (d.tables.find? (Text.asciiLower table)).bind fun rows => rows[index]?

end Directory

end Adventure

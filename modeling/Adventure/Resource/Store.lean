import Adventure.Json.Writer
import Adventure.Resource.Basic

/-!
# Resources in memory

Records are stored as their texts, so that reading one back goes the same way as reading a file.

See section 10.6 of the specification.
-/

namespace Adventure

/-- Resources held in memory; a later entry hides an earlier one of the same name. -/
structure Store where
  texts : List ((ResourceKind × String) × String)
  tables : Dict (List Record)

namespace Store

def empty : Store := ⟨[], []⟩

def insertText (s : Store) (kind : ResourceKind) (name text : String) : Store :=
  { s with texts := ((kind, Text.asciiLower name), text) :: s.texts }

def insert (s : Store) (kind : ResourceKind) (name : String) (r : Record) : Store :=
  s.insertText kind name r.toJson.compact

def insertTable (s : Store) (table : String) (rows : List Record) : Store :=
  { s with tables := s.tables.insert (Text.asciiLower table) rows }

def resources (s : Store) : Resources :=
  .ofTexts (fun kind name => s.texts.lookup (kind, Text.asciiLower name))
    fun table index => (s.tables.find? (Text.asciiLower table)).bind fun rows => rows[index]?

end Store

end Adventure

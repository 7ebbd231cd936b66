import Adventure.Bridge.Table
import Adventure.Json.Writer

/-!
# Listing a table

The functions of a table as JSON, in ascending order of their numbers.

See section 10.4 of the specification.
-/

namespace Adventure.Bridge

def Signature.toJson (s : Signature) : Json :=
  .object [("ret", .string s.ret.key), ("params", .ofStrings (s.params.map ValueType.key))]

def Entry.toJson {α : Type} (e : Entry α) : Json :=
  .object [("id", .ofNat e.id), ("name", .string e.name), ("signature", e.signature.toJson),
    ("defaults", .ofStrings (e.defaults.map Value.text))]

def Table.toJson {α : Type} (t : Table α) : Json := .array (t.entries.map Entry.toJson)

def Table.listing {α : Type} (t : Table α) : String := t.toJson.pretty

end Adventure.Bridge

import Adventure.Proofs.Dict
import Adventure.Resource.Basic

/-!
# What records carry

A record carries a value in a field if the field is there and can be read as one of the value's
type. Each reader of records gives what is carried and its default otherwise. Records as they are
read have their fields in order, so that a field stands in a record exactly if look-up finds it.
-/

namespace Adventure

/-! ### Fields as values -/

namespace Field

def int? : Field → Option Int64
  | .int n => some n
  | .bool b => some (if b then 1 else 0)
  | .float x => some x.toInt64
  | .string s =>
    match Decimal.readInt64 (Text.trim s) with
    | .ok n => some n
    | .error _ => none
  | _ => none

/-- The number without a sign, if it is one of four bytes. -/
def unsigned? (n : Int64) : Option UInt32 :=
  if 0 ≤ n.toInt ∧ n.toInt ≤ 4294967295 then some (UInt32.ofNat n.toInt.toNat) else none

def uint? (f : Field) : Option UInt32 := f.int?.bind unsigned?

def flag? : Field → Option Bool
  | .bool b => some b
  | .int n => some (n != 0)
  | _ => none

/-- The rows of a list that has any. -/
def rows? : Field → Option (List Record)
  | .list rows => if rows.isEmpty then none else some rows
  | _ => none

/-- A text that is not the text of a number. -/
def plainText? : Field → Option String
  | .string s => some s
  | _ => none

end Field

/-! ### The readers -/

namespace Record

variable {α : Type} {r : Record} {name : String}

/-- What a record carries in a field, as the field is read. -/
def carried? (r : Record) (name : String) (read : Field → Option α) : Option α :=
  (Dict.find? r name).bind read

theorem find?_of_lacks (h : r.hasField name = false) : Dict.find? r name = none :=
  Option.isSome_eq_false_iff.1 h |> Option.isNone_iff_eq_none.1

theorem carried?_of_lacks (h : r.hasField name = false) (read : Field → Option α) :
    r.carried? name read = none := by
  rw [carried?, find?_of_lacks h, Option.bind_none]

theorem hasField_of_carried {read : Field → Option α} {a : α} (h : r.carried? name read = some a) :
    r.hasField name = true := by
  obtain ⟨f, hf, -⟩ := Option.bind_eq_some_iff.1 h
  exact Option.isSome_of_eq_some hf

theorem carried?_map {β : Type} (r : Record) (name : String) (read : Field → Option α) (f : α → β) :
    r.carried? name (fun field => (read field).map f) = (r.carried? name read).map f := by
  unfold carried?
  cases Dict.find? r name <;> rfl

theorem getString_eq (r : Record) (name default : String) :
    r.getString name default = (r.carried? name Field.text?).getD default := rfl

theorem getBool_eq (r : Record) (name : String) (default : Bool) :
    r.getBool name default = (r.carried? name Field.flag?).getD default := by
  unfold getBool carried?
  cases Dict.find? r name with
  | none => rfl
  | some f => cases f <;> rfl

theorem getInt_eq (r : Record) (name : String) (default : Int64) :
    r.getInt name default = (r.carried? name Field.int?).getD default := by
  unfold getInt carried?
  cases Dict.find? r name with
  | none => rfl
  | some f =>
    cases f with
    | string s =>
      simp only [Option.bind_some, Field.int?]
      cases Decimal.readInt64 (Text.trim s) <;> rfl
    | _ => rfl

theorem unsigned?_ofNat (n : UInt32) : Field.unsigned? (Int64.ofNat n.toNat) = some n := by
  have hn := n.toNat_lt
  have hint : (Int64.ofNat n.toNat).toInt = n.toNat := Int64.toInt_ofNat_of_lt (by omega)
  unfold Field.unsigned?
  rw [hint, if_pos ⟨by omega, by omega⟩, Int.toNat_natCast, UInt32.ofNat_toNat]

theorem getUInt_eq (r : Record) (name : String) (default : UInt32) :
    r.getUInt name default = (r.carried? name Field.uint?).getD default := by
  have hread : r.getUInt name default =
      (Field.unsigned? (r.getInt name (Int64.ofNat default.toNat))).getD default := by
    unfold getUInt Field.unsigned?
    simp only
    split <;> rfl
  have hcarried : r.carried? name Field.uint? =
      (r.carried? name Field.int?).bind Field.unsigned? :=
    (Option.bind_assoc _ _ _).symm
  rw [hread, hcarried, getInt_eq]
  cases r.carried? name Field.int? with
  | none => rw [Option.getD_none, unsigned?_ofNat, Option.bind_none, Option.getD_some,
      Option.getD_none]
  | some n => rw [Option.getD_some, Option.bind_some]

theorem getList_eq (r : Record) (name : String) :
    r.getList name = (r.carried? name Field.rows?).getD [] := by
  unfold getList carried?
  cases Dict.find? r name with
  | none => rfl
  | some f =>
    cases f with
    | list rows => cases rows <;> rfl
    | _ => rfl

theorem getLocText_eq (r : Record) (name : String) (talk : TalkTable) :
    r.getLocText name talk = r.carried? name (Field.locText talk) := by
  unfold getLocText carried?
  induction r with
  | nil => rfl
  | cons entry r ih =>
    obtain ⟨k, f⟩ := entry
    simp only [Field.locTextOf, Dict.find?]
    split
    · rfl
    · exact ih

/-! ### Records as they are read -/

theorem ordered_ofList (entries : List (String × Field)) : (Dict.ofList entries).Ordered := by
  have hfold : ∀ d : Record, Dict.Ordered d →
      Dict.Ordered (entries.foldl (fun d (key, a) => Dict.insert d key a) d) := by
    induction entries with
    | nil => exact fun d hd => hd
    | cons entry entries ih => exact fun d hd => ih _ (Dict.ordered_insert hd entry.1 entry.2)
  exact hfold [] List.Pairwise.nil

theorem ordered_ofJson {json : Json} (h : ofJson json = some r) : Dict.Ordered r := by
  cases json with
  | object members =>
    obtain ⟨entries, -, rfl⟩ := Option.map_eq_some_iff.1 h
    exact ordered_ofList entries
  | _ => cases h

theorem ordered_of_read {text : String} (h : read text = .ok r) : Dict.Ordered r := by
  unfold read at h
  split at h
  · rename_i hread
    cases h
    obtain ⟨json, -, hrecord⟩ := Option.bind_eq_some_iff.1 hread
    exact ordered_ofJson hrecord
  · cases h

end Record

theorem Resources.ordered_of_load {resources : Resources} {kind : ResourceKind} {name : String}
    {r : Record} (h : resources.load kind name = .ok (some r)) : Dict.Ordered r := by
  unfold load at h
  split at h
  · cases h
  · cases h
  · split at h
    · rename_i hread
      cases h
      exact Record.ordered_of_read hread
    · cases h

end Adventure

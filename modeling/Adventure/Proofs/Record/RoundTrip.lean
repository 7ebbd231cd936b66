import Adventure.Proofs.Json.RoundTrip
import Adventure.Proofs.Record.Reading

/-!
# Records read back from their texts

A record comes back from its text if all its floats are numbers and it is not too deep, and is
refused otherwise. The fields of a record are in order if it was built by setting fields, so that no
field is lost or moved on the way.
-/

namespace Adventure

/-! ### Records built by setting fields -/

mutual

/-- The record comes from the empty one by setting fields. -/
inductive Record.Built : Record → Prop where
  | new : Record.Built []
  | set {r : Record} {f : Field} (hr : Record.Built r) (name : String) (hf : Field.Built f) :
    Record.Built (r.set name f)

inductive Field.Built : Field → Prop where
  | bool (b : Bool) : Field.Built (.bool b)
  | int (n : Int64) : Field.Built (.int n)
  | float (x : Float) : Field.Built (.float x)
  | string (s : String) : Field.Built (.string s)
  | list {rows : List Record} (h : ∀ row ∈ rows, Record.Built row) : Field.Built (.list rows)
  | struct {fields : Record} (h : Record.Built fields) : Field.Built (.struct fields)

end

mutual

/-- The floats of a field, at every depth. -/
def Field.floats : Field → List Float
  | .float x => [x]
  | .list rows => Field.rowsFloats rows
  | .struct fields => Field.membersFloats fields
  | _ => []

def Field.rowsFloats : List (Dict Field) → List Float
  | [] => []
  | row :: rows => Field.membersFloats row ++ Field.rowsFloats rows

def Field.membersFloats : List (String × Field) → List Float
  | [] => []
  | (_, f) :: fields => Field.floats f ++ Field.membersFloats fields

end

def Record.floats (r : Record) : List Float := Field.membersFloats r

/-! ### Fields as values and back -/

/-- The field comes back from its value if all its floats are numbers, and nothing does
otherwise. -/
def Field.Returns (f : Field) : Prop :=
  Field.ofJson f.toJson = if f.floats.all Float.isFinite then some f else none

def Record.Returns (r : Record) : Prop := Dict.Ordered r ∧ ∀ entry ∈ r, Field.Returns entry.2

theorem Field.membersOfJson_toJson {fields : List (String × Field)}
    (h : ∀ entry ∈ fields, Field.Returns entry.2) :
    Field.membersOfJson (Field.membersToJson fields) =
      if (Field.membersFloats fields).all Float.isFinite then some fields else none := by
  induction fields with
  | nil => rfl
  | cons entry fields ih =>
    obtain ⟨name, f⟩ := entry
    have hf : Field.Returns f := h (name, f) List.mem_cons_self
    have hfields := ih fun entry hentry => h entry (List.mem_cons_of_mem _ hentry)
    unfold Field.Returns at hf
    rw [Field.membersToJson, Field.membersOfJson, hf, hfields, Field.membersFloats, List.all_append]
    cases f.floats.all Float.isFinite <;>
      cases (Field.membersFloats fields).all Float.isFinite <;> rfl

theorem Field.rowsOfJson_toJson {rows : List Record} (h : ∀ row ∈ rows, Record.Returns row) :
    Field.rowsOfJson (Field.rowsToJson rows) =
      if (Field.rowsFloats rows).all Float.isFinite then some rows else none := by
  induction rows with
  | nil => rfl
  | cons row rows ih =>
    obtain ⟨hordered, hrow⟩ := h row List.mem_cons_self
    have hrows := ih fun row hrow => h row (List.mem_cons_of_mem _ hrow)
    rw [Field.rowsToJson, Field.rowsOfJson, Field.membersOfJson_toJson hrow, hrows, Field.rowsFloats,
      List.all_append]
    cases (Field.membersFloats row).all Float.isFinite with
    | false => rfl
    | true =>
      cases (Field.rowsFloats rows).all Float.isFinite with
      | false => rfl
      | true =>
        show some (Dict.ofList row :: rows) = some (row :: rows)
        rw [Dict.ofList_of_ordered hordered]

theorem Field.returns_int (n : Int64) : Field.Returns (.int n) := by
  have hlow := n.le_toInt
  have hhigh := n.toInt_lt
  have hrange : -9223372036854775808 ≤ n.toInt ∧ n.toInt ≤ 9223372036854775807 := by
    constructor <;> omega
  show some (Field.ofNumber (.int n.toInt)) = some (.int n)
  rw [Field.ofNumber, if_pos hrange, Int64.ofInt_toInt]

theorem Field.returns_float (x : Float) : Field.Returns (.float x) := by
  unfold Field.Returns
  rw [Field.toJson, Field.floats, List.all_cons, List.all_nil, Bool.and_true]
  cases x.isFinite <;> rfl

theorem Field.returns_list {rows : List Record} (h : ∀ row ∈ rows, Record.Returns row) :
    Field.Returns (.list rows) := by
  unfold Field.Returns
  rw [Field.toJson, Field.ofJson, Field.rowsOfJson_toJson h, Field.floats]
  split <;> rfl

theorem Record.ofJson_toJson {r : Record} (h : Record.Returns r) :
    Record.ofJson r.toJson = if r.floats.all Float.isFinite then some r else none := by
  unfold Record.toJson Record.ofJson Record.floats
  simp only
  rw [Field.membersOfJson_toJson h.2]
  split
  · rw [Option.map_some, Dict.ofList_of_ordered h.1]
  · rfl

theorem Field.returns_struct {fields : Record} (h : Record.Returns fields) :
    Field.Returns (.struct fields) := by
  unfold Field.Returns
  rw [Field.toJson, Field.ofJson, Field.membersOfJson_toJson h.2, Field.floats]
  split
  · rw [Option.map_some, Dict.ofList_of_ordered h.1]
  · rfl

mutual

theorem Record.Built.returns : ∀ {r : Record}, Record.Built r → Record.Returns r
  | _, .new => ⟨List.Pairwise.nil, nofun⟩
  | _, .set hr name hf => by
    have hrest := hr.returns
    refine ⟨Dict.ordered_insert hrest.1 name _, fun entry hentry => ?_⟩
    rcases Dict.mem_insert hentry with rfl | hmem
    · exact hf.returns
    · exact hrest.2 entry hmem

theorem Field.Built.returns : ∀ {f : Field}, Field.Built f → Field.Returns f
  | _, .bool _ => rfl
  | _, .int n => Field.returns_int n
  | _, .float x => Field.returns_float x
  | _, .string _ => rfl
  | _, .list h => Field.returns_list fun row hrow => (h row hrow).returns
  | _, .struct h => Field.returns_struct h.returns

end

/-! ### The numbers of a record's text -/

/-- Of these floats, each that is a number comes back when its text is read. -/
def FloatsSurvive (xs : List Float) : Prop :=
  ∀ x ∈ xs, x.isFinite → Json.Survives (.number (.double x))

theorem FloatsSurvive.front {xs ys : List Float} (h : FloatsSurvive (xs ++ ys)) : FloatsSurvive xs :=
  fun x hx => h x (List.mem_append_left _ hx)

theorem FloatsSurvive.back {xs ys : List Float} (h : FloatsSurvive (xs ++ ys)) : FloatsSurvive ys :=
  fun x hx => h x (List.mem_append_right _ hx)

theorem Field.readBack_int (i : Int64) : Json.ReadBack (.int i.toInt) := by
  have hlow := i.le_toInt
  have hhigh := i.toInt_lt
  exact Json.readBack_int (by omega) (by unfold Json.wholeMax; omega)

mutual

theorem Field.readBack_toJson : ∀ f : Field, FloatsSurvive f.floats →
    ∀ n ∈ f.toJson.numbers, Json.ReadBack n
  | .bool _, _, _, hn => nomatch hn
  | .string _, _, _, hn => nomatch hn
  | .int i, _, n, hn => by
    obtain rfl := List.mem_singleton.1 hn
    exact Field.readBack_int i
  | .float x, h, n, hn => by
    rw [Field.toJson] at hn
    split at hn
    · rename_i hfinite
      obtain rfl := List.mem_singleton.1 hn
      exact Json.readBack_of_survives (h x List.mem_cons_self hfinite)
    · cases hn
  | .list rows, h, n, hn => Field.readBack_rowsToJson rows h n hn
  | .struct fields, h, n, hn => Field.readBack_membersToJson fields h n hn

theorem Field.readBack_rowsToJson : ∀ rows : List (Dict Field), FloatsSurvive (Field.rowsFloats rows) →
    ∀ n ∈ Json.itemsNumbers (Field.rowsToJson rows), Json.ReadBack n
  | [], _, _, hn => nomatch hn
  | row :: rows, h, n, hn =>
    (List.mem_append.1 hn).elim (Field.readBack_membersToJson row h.front n)
      (Field.readBack_rowsToJson rows h.back n)

theorem Field.readBack_membersToJson : ∀ fields : List (String × Field),
    FloatsSurvive (Field.membersFloats fields) →
      ∀ n ∈ Json.membersNumbers (Field.membersToJson fields), Json.ReadBack n
  | [], _, _, hn => nomatch hn
  | (_, f) :: fields, h, n, hn =>
    (List.mem_append.1 hn).elim (Field.readBack_toJson f h.front n)
      (Field.readBack_membersToJson fields h.back n)

end

/-! ### Whole records -/

/-- A record is read back from its text if all its floats are numbers and it is not too deep, and
its text is no record otherwise. -/
theorem Record.read?_toJson {r : Record} (hbuilt : Record.Built r) (htext : FloatsSurvive r.floats) :
    Record.read? r.toJson.compact =
      if r.toJson.depth ≤ Json.depthLimit ∧ r.floats.all Float.isFinite then some r else none := by
  have hnumbers : ∀ n ∈ r.toJson.numbers, Json.ReadBack n := Field.readBack_membersToJson r htext
  unfold Record.read?
  rw [Json.read?_compact hnumbers]
  unfold Json.allowed
  by_cases hdepth : r.toJson.depth ≤ Json.depthLimit
  · rw [if_pos hdepth, Option.bind_some, Record.ofJson_toJson hbuilt.returns]
    simp only [hdepth, true_and]
  · rw [if_neg hdepth, if_neg fun h => hdepth h.1]
    rfl

end Adventure

import Adventure.Proofs.Record.RoundTrip
import Adventure.Proofs.Text.AsciiCase
import Adventure.Resource.Store

/-!
# Records stored in memory

A stored record is found under every writing of its name, and what loading makes of it is what
reading makes of its text.
-/

namespace Adventure.Store

variable {name other : String}

theorem read_insert (s : Store) (kind : ResourceKind) (r : Record)
    (h : Text.asciiLower name = Text.asciiLower other) :
    (s.insert kind name r).resources.read kind other = some (.ok r.toJson.compact) := by
  show (List.lookup (kind, Text.asciiLower other)
    (((kind, Text.asciiLower name), r.toJson.compact) :: s.texts)).map Except.ok = _
  rw [h, List.lookup_cons_self]
  rfl

/-- The record is loaded as it is if all its floats are numbers and it is not too deep, and reported
as malformed otherwise. -/
theorem load_insert {r : Record} (hbuilt : Record.Built r) (htext : FloatsSurvive r.floats) (s : Store)
    (kind : ResourceKind) (h : Text.asciiLower name = Text.asciiLower other) :
    if r.toJson.depth ≤ Json.depthLimit ∧ r.floats.all Float.isFinite then
      (s.insert kind name r).resources.load kind other = .ok (some r)
    else
      ∃ report, (s.insert kind name r).resources.load kind other =
        .error (.malformed other kind (.noRecord report)) := by
  have hread := Record.read?_toJson hbuilt htext
  unfold Resources.load Record.read
  rw [read_insert s kind r h]
  split
  · rename_i hreads
    rw [if_pos hreads] at hread
    simp only [hread]
  · rename_i hreads
    rw [if_neg hreads] at hread
    simp only [hread]
    exact ⟨_, rfl⟩

/-- A record built by setting fields comes back from the store under every writing of its name, the
same in every field at every depth, if all its floats are numbers and it is no deeper than a text
may be. If any of its floats is infinite or not a number, it is reported as malformed. Of the texts
it is only assumed that those of its floats are read back; all others are. -/
theorem stored_record_comes_back {r : Record} (hbuilt : Record.Built r)
    (htext : ∀ x ∈ r.floats, x.isFinite → Json.Survives (.number (.double x))) (s : Store)
    (kind : ResourceKind) (hname : List.Forall₂ Text.SameLetter name.toList other.toList) :
    ((∀ x ∈ r.floats, x.isFinite) → r.toJson.depth ≤ Json.depthLimit →
        (s.insert kind name r).resources.load kind other = .ok (some r)) ∧
      ((∃ x ∈ r.floats, ¬ x.isFinite) →
        ∃ report, (s.insert kind name r).resources.load kind other =
          .error (.malformed other kind (.noRecord report))) := by
  have hload := load_insert hbuilt htext s kind ((Text.asciiLower_eq_iff name other).2 hname)
  constructor
  · intro hfinite hdepth
    rwa [if_pos ⟨hdepth, List.all_eq_true.2 hfinite⟩] at hload
  · rintro ⟨x, hx, hinfinite⟩
    rwa [if_neg fun h => hinfinite (List.all_eq_true.1 h.2 x hx)] at hload

/-- A record with a field of every variant, one of them deeper down. -/
def everyVariant (x : Float) : Record :=
  let row : Record := Record.set (Record.set [] "Weight" (.float x)) "Empty" (.list [])
  let inner : Record := Record.set (Record.set [] "Rows" (.list [row, []])) "None" (.struct [])
  let named : Record := Record.set (Record.set [] "Tag" (.string "a\"\n\x01")) "Count" (.int (-3))
  Record.set (Record.set (Record.set named "Flag" (.bool true)) "Zero" (.float (-0.0))) "Inner"
    (.struct inner)

theorem every_variant_comes_back :
    (empty.insert .utc "Guard" (everyVariant 4.0)).resources.load .utc "gUARD" =
        .ok (some (everyVariant 4.0)) ∧
      ∃ report, (empty.insert .utc "Guard" (everyVariant (1.0 / 0.0))).resources.load .utc "gUARD" =
        .error (.malformed "gUARD" .utc (.noRecord report)) := by
  have hbuilt : ∀ x, Record.Built (everyVariant x) := fun x =>
    have hrow : Record.Built (Record.set (Record.set [] "Weight" (.float x)) "Empty" (.list [])) :=
      .set (.set .new "Weight" (.float x)) "Empty" (.list nofun)
    have hrows := List.forall_mem_cons.2 ⟨hrow, List.forall_mem_singleton.2 Record.Built.new⟩
    .set (.set (.set (.set (.set .new "Tag" (.string _)) "Count" (.int _)) "Flag" (.bool _)) "Zero"
      (.float _)) "Inner" (.struct (.set (.set .new "Rows" (.list hrows)) "None" (.struct .new)))
  have hname : List.Forall₂ Text.SameLetter "Guard".toList "gUARD".toList :=
    (Text.asciiLower_eq_iff _ _).1 (by decide)
  have hfloats : ∀ x, (everyVariant x).floats = [x, -0.0] := fun x => rfl
  have hzero : Json.Survives (.number (.double (-0.0))) := by
    have htext : (Json.number (.double (-0.0))).compact = "-0.0" := by decide +kernel
    unfold Json.Survives
    rw [htext]
    rfl
  have hfour : Json.Survives (.number (.double 4.0)) := by
    have htext : (Json.number (.double 4.0)).compact = "4.0" := by decide +kernel
    unfold Json.Survives
    rw [htext]
    rfl
  have hinfinite : ¬ (1.0 / 0.0 : Float).isFinite := by decide +kernel
  constructor
  · refine (stored_record_comes_back (hbuilt 4.0) ?_ empty .utc hname).1 ?_ (by decide +kernel)
    · rw [hfloats]
      exact List.forall_mem_cons.2 ⟨fun _ => hfour, List.forall_mem_singleton.2 fun _ => hzero⟩
    · rw [hfloats]
      decide +kernel
  · refine (stored_record_comes_back (hbuilt (1.0 / 0.0)) ?_ empty .utc hname).2 ?_
    · rw [hfloats]
      exact List.forall_mem_cons.2
        ⟨fun h => absurd h hinfinite, List.forall_mem_singleton.2 fun _ => hzero⟩
    · rw [hfloats]
      exact ⟨_, List.mem_cons_self, hinfinite⟩

end Adventure.Store

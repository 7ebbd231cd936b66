import Adventure.Proofs.Dict
import Adventure.Proofs.Resource.Folders
import Adventure.Proofs.Resource.Roles

/-!
# The last of the visited files

Visiting a file changes what is found under its own name alone, and only if something can be made of
the file. So under every name stands what the last visited file of that name gave of which something
could be made. A directory is refused exactly if nothing is found in it under any name of a record
or of a table.
-/

namespace Adventure

variable {α σ : Type}

namespace File

/-- What `read` makes of a file of the given name. -/
def offer (read : File → Option α) (name : String) (f : File) : Option α :=
  if f.name = name then read f else none

/-- What `read` makes of the last visited file of the given name of which it makes something. -/
def last? (read : File → Option α) (name : String) (visited : List File) : Option α :=
  visited.reverse.findSome? (offer read name)

def IsRecord (f : File) : Prop :=
  ∃ (stem : String) (kind : ResourceKind), f.name = stem ++ "." ++ kind.extension

/-- Has the file the name of a table, and can its rows be read? -/
def IsTable (f : File) : Prop :=
  (∃ table, f.name = table ++ ".2da.json") ∧ (Directory.rows? f).isSome

theorem asciiLower_name (f : File) : Text.asciiLower f.name = f.name :=
  Text.asciiLower_asciiLower _

theorem last?_eq_none {read : File → Option α} {name : String} {visited : List File} :
    last? read name visited = none ↔ ∀ f ∈ visited, f.name = name → read f = none := by
  simp [last?, offer]

theorem last?_some (view : File → α) (name : String) (visited : List File) :
    last? (fun f => some (view f)) name visited =
      (visited.reverse.find? (·.name = name)).map view := by
  unfold last?
  induction visited.reverse with
  | nil => rfl
  | cons f files ih =>
    by_cases hf : f.name = name <;> simp [offer, hf, ih]

end File

open File (offer last?)

/-- If every step sets what is looked at to what its file offers, then after a run it is what the
last file that offered anything has offered. -/
theorem view_foldl (view : σ → Option α) {step : σ → File → σ} {read : File → Option α}
    {name : String} (hstep : ∀ s f, view (step s f) = (offer read name f).or (view s)) (s : σ)
    (files : List File) : view (files.foldl step s) = (last? read name files).or (view s) := by
  induction files generalizing s with
  | nil => rfl
  | cons f files ih =>
    -- What the first file offers stands behind what any of the later ones offers.
    rw [List.foldl_cons, ih, hstep, ← Option.or_assoc]
    simp [last?, List.findSome?_append]

namespace Directory

/-- The strings found so far for listeners of a gender. -/
def strings (d : Directory) : Gender → Option (List String)
  | .male => d.male
  | .female => d.female

/-! ### One visit -/

theorem lookup_replaced {κ : Type} [BEq κ] [LawfulBEq κ] [DecidableEq κ] (entries : List (κ × α))
    (key other : κ) (a : α) :
    List.lookup key ((other, a) :: entries.filter (·.1 ≠ other)) =
      if other = key then some a else entries.lookup key := by
  by_cases h : other = key
  · rw [if_pos h, h, List.lookup_cons_self]
  · have hne : (key == other) = false := beq_false_of_ne (Ne.symm h)
    rw [if_neg h, List.lookup_cons, hne]
    simp only [lookup_filter fun k => decide (k ≠ other)]
    simp [Ne.symm h]

variable (d : Directory) (f : File)

theorem lookup_records_visit (stem : String) (kind : ResourceKind) :
    (d.visit f).records.lookup (kind, stem) =
      (offer (fun g => some g.path) (stem ++ "." ++ kind.extension) f).or
        (d.records.lookup (kind, stem)) := by
  have hrole : FileRole.ofName f.name = .record kind stem ↔
      f.name = stem ++ "." ++ kind.extension := FileRole.ofName_eq_iff f.asciiLower_name _
  simp only [offer, ← hrole, visit]
  cases FileRole.ofName f.name with
  | talk gender => cases gender <;> rfl
  | table table => cases hrows : rows? f <;> simp
  | record kind' stem' =>
    simp only [lookup_replaced, FileRole.record.injEq, Prod.mk.injEq]
    split <;> rfl
  | other => rfl

theorem find?_tables_visit (table : String) :
    (d.visit f).tables.find? table =
      (offer rows? (table ++ ".2da.json") f).or (d.tables.find? table) := by
  have hrole : FileRole.ofName f.name = .table table ↔ f.name = table ++ ".2da.json" :=
    FileRole.ofName_eq_iff f.asciiLower_name _
  simp only [offer, ← hrole, visit]
  cases FileRole.ofName f.name with
  | talk gender => cases gender <;> rfl
  | table other =>
    by_cases hother : other = table
    · cases hrows : rows? f with
      | none => simp
      | some rows => simp [hother, Dict.find?_insert_self]
    · cases hrows : rows? f with
      | none => simp
      | some rows => simp [hother, Dict.find?_insert_of_ne _ _ (Ne.symm hother)]
  | record kind stem => rfl
  | other => rfl

theorem strings_visit (gender : Gender) :
    (d.visit f).strings gender = (offer strings? gender.talkFile f).or (d.strings gender) := by
  have hrole : FileRole.ofName f.name = .talk gender ↔ f.name = gender.talkFile :=
    FileRole.ofName_eq_iff f.asciiLower_name _
  simp only [offer, ← hrole, visit]
  cases FileRole.ofName f.name with
  | talk other => cases other <;> cases gender <;> simp [strings]
  | table table => cases hrows : rows? f <;> simp [strings]
  | record kind stem => rfl
  | other => rfl

/-! ### A run of visits -/

/-- What is known of a directory after some visits. -/
def indexed (dir : String) (visited : List File) : Directory :=
  visited.foldl visit ⟨dir, [], [], none, none⟩

variable (dir : String) (visited : List File)

theorem lookup_records_indexed (stem : String) (kind : ResourceKind) :
    (indexed dir visited).records.lookup (kind, stem) =
      last? (fun g => some g.path) (stem ++ "." ++ kind.extension) visited := by
  have hrun := view_foldl (fun d : Directory => d.records.lookup (kind, stem))
    (fun d f => lookup_records_visit d f stem kind) ⟨dir, [], [], none, none⟩ visited
  simpa [indexed] using hrun

theorem find?_tables_indexed (table : String) :
    (indexed dir visited).tables.find? table = last? rows? (table ++ ".2da.json") visited := by
  have hrun := view_foldl (fun d : Directory => d.tables.find? table)
    (fun d f => find?_tables_visit d f table) ⟨dir, [], [], none, none⟩ visited
  simpa [indexed, Dict.find?] using hrun

theorem strings_indexed (gender : Gender) :
    (indexed dir visited).strings gender = last? strings? gender.talkFile visited := by
  have hrun := view_foldl (fun d : Directory => d.strings gender)
    (fun d f => strings_visit d f gender) ⟨dir, [], [], none, none⟩ visited
  have hfresh : strings ⟨dir, [], [], none, none⟩ gender = none := by
    cases gender <;> rfl
  simpa [indexed, hfresh] using hrun

/-! ### Directories without resources -/

theorem records_isEmpty_iff :
    d.records.isEmpty = true ↔ ∀ stem kind, d.records.lookup (kind, stem) = none := by
  cases d.records with
  | nil => simp
  | cons entry entries =>
    refine iff_of_false (by simp) fun hnone => ?_
    have hfirst := hnone entry.1.2 entry.1.1
    rw [List.lookup_cons_self] at hfirst
    cases hfirst

theorem tables_isEmpty_iff : d.tables.isEmpty = true ↔ ∀ table, d.tables.find? table = none := by
  cases d.tables with
  | nil => simp [Dict.find?]
  | cons entry entries =>
    refine iff_of_false (by simp) fun hnone => ?_
    have hfirst := hnone entry.1
    simp [Dict.find?] at hfirst

theorem indexed_records_isEmpty :
    (indexed dir visited).records.isEmpty = true ↔ ∀ f ∈ visited, ¬ f.IsRecord := by
  simp only [records_isEmpty_iff, lookup_records_indexed, File.last?_eq_none]
  constructor
  · rintro hnone f hf ⟨stem, kind, hname⟩
    cases hnone stem kind f hf hname
  · intro hall stem kind f hf hname
    exact absurd ⟨stem, kind, hname⟩ (hall f hf)

theorem indexed_tables_isEmpty :
    (indexed dir visited).tables.isEmpty = true ↔ ∀ f ∈ visited, ¬ f.IsTable := by
  simp only [tables_isEmpty_iff, find?_tables_indexed, File.last?_eq_none]
  constructor
  · rintro hnone f hf ⟨⟨table, hname⟩, hrows⟩
    rw [hnone table f hf hname] at hrows
    cases hrows
  · intro hall table f hf hname
    exact Option.not_isSome_iff_eq_none.1 fun hrows => hall f hf ⟨⟨table, hname⟩, hrows⟩

theorem vacant_iff :
    ((indexed dir visited).records.isEmpty && (indexed dir visited).tables.isEmpty) = true ↔
      ∀ f ∈ visited, ¬ f.IsRecord ∧ ¬ f.IsTable := by
  rw [Bool.and_eq_true, indexed_records_isEmpty, indexed_tables_isEmpty]
  constructor
  · rintro ⟨hrecord, htable⟩ f hf
    exact ⟨hrecord f hf, htable f hf⟩
  · intro h
    exact ⟨fun f hf => (h f hf).1, fun f hf => (h f hf).2⟩

/-! ### What a loaded directory serves -/

/-- The directory gives out what the last of the visited files say, which have not changed since. -/
structure Serves (d : Directory) (listing visited : List File) : Prop where
  record : ∀ (kind : ResourceKind) (name : String), (d.resources listing).read kind name =
    (visited.reverse.find? fun f =>
      f.name = Text.asciiLower name ++ "." ++ kind.extension).map fun f => .ok f.text
  row : ∀ (table : String) (i : Nat), (d.resources listing).row table i =
    (last? rows? (Text.asciiLower table ++ ".2da.json") visited).bind (·[i]?)
  male : (d.talk?.getD .empty).male = (last? strings? "dialog.tlk.json" visited).getD []
  female : (d.talk?.getD .empty).female = (last? strings? "dialogf.tlk.json" visited).getD []
  talk : d.talk?.isSome = true ↔ (last? strings? "dialog.tlk.json" visited).isSome = true ∨
    (last? strings? "dialogf.tlk.json" visited).isSome = true

theorem talk?_parts :
    (d.talk?.getD .empty).male = (d.strings .male).getD [] ∧
      (d.talk?.getD .empty).female = (d.strings .female).getD [] ∧
      (d.talk?.isSome = true ↔
        (d.strings .male).isSome = true ∨ (d.strings .female).isSome = true) := by
  unfold talk? strings
  cases d.male <;> cases d.female <;> simp [TalkTable.empty]

variable {tree : Folder} {listing : List File}

theorem serves_indexed (hordered : tree.Ordered) (hlisting : listing.Perm tree.files) :
    Serves (indexed dir tree.files) listing tree.files where
  record kind name := by
    simp only [resources, lookup_records_indexed, File.last?_some]
    cases hlast : tree.files.reverse.find? fun f =>
        f.name = Text.asciiLower name ++ "." ++ kind.extension with
    | none => rfl
    | some f =>
      have hf : f ∈ tree.files := List.mem_reverse.1 (List.mem_of_find?_eq_some hlast)
      simp [hordered.find?_path hlisting hf]
  row table i := by
    simp only [resources, find?_tables_indexed]
  male := by
    rw [(talk?_parts _).1, strings_indexed]
    rfl
  female := by
    rw [(talk?_parts _).2.1, strings_indexed]
    rfl
  talk := by
    rw [(talk?_parts _).2.2, strings_indexed, strings_indexed]
    rfl

theorem load_eq (hordered : tree.Ordered) (hlisting : listing.Perm tree.files) :
    load dir (some listing) =
      if (indexed dir tree.files).records.isEmpty && (indexed dir tree.files).tables.isEmpty then
        .error (.noResources dir)
      else .ok (indexed dir tree.files) := by
  rw [← hordered.visitOrder_eq hlisting]
  rfl

/-- However the files of a directory tree are listed, they are visited depth first with the names in
order, and what is asked for comes from the last of them that has it: a record from the last file of
its name, rows and strings from the last file of theirs that can be read. Loading fails exactly if
there is no such directory, or if it has neither a file with the name of a record nor a table that
can be read. -/
theorem last_visited_served (hordered : tree.Ordered) (hlisting : listing.Perm tree.files) :
    load dir none = .error (.notADirectory dir) ∧
      (∀ e, load dir (some listing) = .error e ↔
        e = .noResources dir ∧ ∀ f ∈ tree.files, ¬ f.IsRecord ∧ ¬ f.IsTable) ∧
      ((∃ f ∈ tree.files, f.IsRecord ∨ f.IsTable) →
        ∃ d, load dir (some listing) = .ok d ∧ Serves d listing tree.files) := by
  have hload := load_eq dir hordered hlisting
  have hvacant := vacant_iff dir tree.files
  refine ⟨rfl, ?_, ?_⟩
  · intro e
    rw [hload, ← hvacant]
    split
    · rename_i hall
      simp [hall, eq_comm]
    · rename_i hsome
      simp [hsome]
  · rintro ⟨f, hf, hholds⟩
    rw [if_neg] at hload
    · exact ⟨_, hload, serves_indexed dir hordered hlisting⟩
    · intro hall
      obtain ⟨hrecord, htable⟩ := hvacant.1 hall f hf
      exact hholds.elim hrecord htable

/-- A tree in which later files hide earlier ones, whatever the case of their names, and in which
the last file of a table and the last one of the male strings cannot be read. -/
def camp : Folder :=
  .file "Guard.UTC" "\x7b\"Tag\": \"OLD\"\x7d" <|
  .file "Race.2DA.json" "[\x7b\"RACE\": \"orc\"\x7d]" <|
  .folder "blueprints"
    (.file "GUARD.utc" "\x7b\"Tag\": \"NEW\"\x7d" <|
     .file "dialog.tlk.json" "[\"Hello\"]" <|
     .file "race.2da.json" "\x7b" .empty) <|
  .file "dialog.TLK.json" "[1]" <|
  .file "dialogf.tlk.json" "[\"Hi\"]" .empty

theorem camp_served : camp.Ordered ∧
    ∃ d, load "camp" (some camp.files.reverse) = .ok d ∧
      (d.resources camp.files.reverse).read .utc "guARD" =
        some (.ok "\x7b\"Tag\": \"NEW\"\x7d") ∧
      ((d.resources camp.files.reverse).row "RACE" 0).map (·.getString "RACE" "") = some "orc" ∧
      (d.talk?.getD .empty).male = ["Hello"] ∧ (d.talk?.getD .empty).female = ["Hi"] := by
  have hordered : camp.Ordered := by decide +kernel
  have hlisting : camp.files.reverse.Perm camp.files := List.reverse_perm _
  obtain ⟨-, -, hserved⟩ := last_visited_served "camp" hordered hlisting
  have hholds : ∃ f ∈ camp.files, f.IsRecord ∨ f.IsTable :=
    ⟨⟨["Guard.UTC"], "\x7b\"Tag\": \"OLD\"\x7d"⟩, List.mem_cons_self,
      .inl ⟨"guard", .utc, by decide +kernel⟩⟩
  obtain ⟨d, hload, hserves⟩ := hserved hholds
  refine ⟨hordered, d, hload, ?_, ?_, ?_, ?_⟩
  · rw [hserves.record]
    decide +kernel
  · rw [hserves.row]
    decide +kernel
  · rw [hserves.male]
    decide +kernel
  · rw [hserves.female]
    decide +kernel

end Directory

end Adventure

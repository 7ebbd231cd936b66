import Adventure.Proofs.Text.AsciiCase
import Adventure.Proofs.Text.Slice
import Adventure.Resource.Directory

/-!
# What a file name says

A file is taken for a table, for a record of one kind or for one of the two files of strings by its
name in small letters alone, and no name can be taken in two ways: behind the last point of a
record's name stands the extension of its kind, which is never that of the other files.
-/

namespace Adventure

/-! ### Endings -/

theorem splitExtension?_eq_some_iff {name stem ext : String} :
    splitExtension? name = some (stem, ext) ↔ name = stem ++ "." ++ ext ∧ '.' ∉ ext.toList := by
  constructor
  · intro h
    have hparts := List.takeWhile_append_dropWhile (p := (· ≠ '.')) (l := name.toList.reverse)
    have hhead := Text.head_dropWhile (p := (· ≠ '.')) name.toList.reverse
    simp only [splitExtension?] at h
    split at h
    · cases h
    · rename_i point front hdrop
      have hpoint : point = '.' := by
        rw [hdrop] at hhead
        simpa using hhead point
      rw [hdrop, hpoint] at hparts
      have hname := congrArg List.reverse hparts
      rw [List.reverse_reverse] at hname
      cases h
      constructor
      · rw [← String.toList_inj]
        exact hname.symm.trans (by simp)
      · intro hmem
        rw [String.toList_ofList, List.mem_reverse] at hmem
        simpa using List.mem_takeWhile_imp hmem
  · rintro ⟨rfl, hext⟩
    have hreverse : (stem ++ "." ++ ext).toList.reverse =
        ext.toList.reverse ++ '.' :: stem.toList.reverse := by
      simp
    have hbehind : ∀ c ∈ ext.toList.reverse, decide (c ≠ '.') = true := by
      intro c hc
      exact decide_eq_true fun he => hext (he ▸ List.mem_reverse.1 hc)
    simp only [splitExtension?, hreverse, List.dropWhile_append_of_pos hbehind,
      List.takeWhile_append_of_pos hbehind]
    simp

theorem dropEnding?_eq_some_iff {ending name stem : String} :
    dropEnding? ending name = some stem ↔ name = stem ++ ending := by
  unfold dropEnding?
  constructor
  · intro h
    split at h
    · rename_i hsuffix
      have hparts := List.suffix_iff_eq_append.1 (List.isSuffixOf_iff_suffix.1 hsuffix)
      cases h
      rw [← String.toList_inj, String.toList_append, String.toList_ofList]
      exact hparts.symm
    · cases h
  · rintro rfl
    have hsuffix : ending.toList.isSuffixOf (stem ++ ending).toList = true := by
      simp
    rw [if_pos hsuffix, Option.some_inj, ← String.toList_inj]
    simp [← String.length_toList]

theorem ofExtension?_eq_some_iff {ext : String} {kind : ResourceKind} :
    ResourceKind.ofExtension? ext = some kind ↔ Text.asciiLower ext = kind.extension := by
  unfold ResourceKind.ofExtension?
  constructor
  · intro h
    have hfound := List.find?_some h
    exact (of_decide_eq_true hfound).symm
  · intro h
    cases kind <;> simp [ResourceKind.all, h, ResourceKind.extension]

theorem point_not_mem_extension (kind : ResourceKind) : '.' ∉ kind.extension.toList := by
  cases kind <;> decide

theorem json_ne_record (front stem : String) (kind : ResourceKind) :
    front ++ ".json" ≠ stem ++ "." ++ kind.extension := by
  intro h
  have hjson : splitExtension? (front ++ ".json") = some (front, "json") :=
    splitExtension?_eq_some_iff.2 ⟨by rw [String.append_assoc]; rfl, by decide⟩
  have hkind : splitExtension? (stem ++ "." ++ kind.extension) = some (stem, kind.extension) :=
    splitExtension?_eq_some_iff.2 ⟨rfl, point_not_mem_extension kind⟩
  rw [h, hkind, Option.some_inj, Prod.mk.injEq] at hjson
  cases kind <;> exact absurd hjson.2 (by decide)

/-! ### Roles -/

def Gender.talkFile : Gender → String
  | .male => "dialog.tlk.json"
  | .female => "dialogf.tlk.json"

namespace FileRole

/-- The names of the files of a role. -/
def Bears : FileRole → String → Prop
  | .talk gender, name => name = gender.talkFile
  | .table stem, name => name = stem ++ ".2da.json"
  | .record kind stem, name => name = stem ++ "." ++ kind.extension
  | .other, name => (∀ gender : Gender, name ≠ gender.talkFile) ∧
      (∀ table, name ≠ table ++ ".2da.json") ∧
      ∀ (kind : ResourceKind) (stem : String), name ≠ stem ++ "." ++ kind.extension

theorem ofName_talkFile (gender : Gender) : ofName gender.talkFile = .talk gender := by
  cases gender <;> rfl

theorem talkFile_ne_table (gender : Gender) (table : String) :
    gender.talkFile ≠ table ++ ".2da.json" := by
  intro h
  have hending := dropEnding?_eq_some_iff.2 h
  cases gender <;> cases hending

theorem talkFile_ne_record (gender : Gender) (stem : String) (kind : ResourceKind) :
    gender.talkFile ≠ stem ++ "." ++ kind.extension := by
  cases gender
  · exact json_ne_record "dialog.tlk" stem kind
  · exact json_ne_record "dialogf.tlk" stem kind

theorem table_ne_record (table stem : String) (kind : ResourceKind) :
    table ++ ".2da.json" ≠ stem ++ "." ++ kind.extension := by
  have h := json_ne_record (table ++ ".2da") stem kind
  rwa [String.append_assoc] at h

theorem ofName_table (table : String) : ofName (table ++ ".2da.json") = .table table := by
  have hmale : table ++ ".2da.json" ≠ "dialog.tlk.json" := (talkFile_ne_table .male table).symm
  have hfemale : table ++ ".2da.json" ≠ "dialogf.tlk.json" :=
    (talkFile_ne_table .female table).symm
  have hending : dropEnding? ".2da.json" (table ++ ".2da.json") = some table :=
    dropEnding?_eq_some_iff.2 rfl
  simp only [ofName, if_neg hmale, if_neg hfemale, hending]

theorem ofName_record (stem : String) (kind : ResourceKind) :
    ofName (stem ++ "." ++ kind.extension) = .record kind stem := by
  have hmale : stem ++ "." ++ kind.extension ≠ "dialog.tlk.json" :=
    (talkFile_ne_record .male stem kind).symm
  have hfemale : stem ++ "." ++ kind.extension ≠ "dialogf.tlk.json" :=
    (talkFile_ne_record .female stem kind).symm
  have hending : dropEnding? ".2da.json" (stem ++ "." ++ kind.extension) = none := by
    rw [Option.eq_none_iff_forall_ne_some]
    intro table h
    exact table_ne_record table stem kind (dropEnding?_eq_some_iff.1 h).symm
  have hsplit : splitExtension? (stem ++ "." ++ kind.extension) = some (stem, kind.extension) :=
    splitExtension?_eq_some_iff.2 ⟨rfl, point_not_mem_extension kind⟩
  have hkind : ResourceKind.ofExtension? kind.extension = some kind := by
    cases kind <;> rfl
  simp only [ofName, if_neg hmale, if_neg hfemale, hending, hsplit, hkind]

theorem bears_other {name : String} (h : ofName name = .other) : Bears .other name := by
  refine ⟨?_, ?_, ?_⟩
  · rintro gender rfl
    rw [ofName_talkFile] at h
    cases h
  · rintro table rfl
    rw [ofName_table] at h
    cases h
  · rintro kind stem rfl
    rw [ofName_record] at h
    cases h

theorem bears_ofName {name : String} (hlower : Text.asciiLower name = name) :
    (ofName name).Bears name := by
  by_cases hmale : name = "dialog.tlk.json"
  · rw [ofName, if_pos hmale]
    exact hmale
  by_cases hfemale : name = "dialogf.tlk.json"
  · rw [ofName, if_neg hmale, if_pos hfemale]
    exact hfemale
  cases hending : dropEnding? ".2da.json" name with
  | some stem =>
    simp only [ofName, if_neg hmale, if_neg hfemale, hending]
    exact dropEnding?_eq_some_iff.1 hending
  | none =>
    cases hsplit : splitExtension? name with
    | none =>
      have hother : ofName name = .other := by
        simp only [ofName, if_neg hmale, if_neg hfemale, hending, hsplit]
      rw [hother]
      exact bears_other hother
    | some parts =>
      obtain ⟨stem, ext⟩ := parts
      obtain ⟨hname, -⟩ := splitExtension?_eq_some_iff.1 hsplit
      cases hkind : ResourceKind.ofExtension? ext with
      | none =>
        have hother : ofName name = .other := by
          simp only [ofName, if_neg hmale, if_neg hfemale, hending, hsplit, hkind]
        rw [hother]
        exact bears_other hother
      | some kind =>
        -- The extension is in small letters already, so it is that of the kind itself.
        have hext := Text.asciiLower_back (hname ▸ hlower)
        rw [ofExtension?_eq_some_iff.1 hkind] at hext
        simp only [ofName, if_neg hmale, if_neg hfemale, hending, hsplit, hkind, Bears]
        rw [hname, hext]

theorem ofName_eq_iff {name : String} (hlower : Text.asciiLower name = name) (role : FileRole) :
    ofName name = role ↔ role.Bears name := by
  constructor
  · rintro rfl
    exact bears_ofName hlower
  · intro h
    cases role with
    | talk gender =>
      cases h
      exact ofName_talkFile gender
    | table stem =>
      cases h
      exact ofName_table stem
    | record kind stem =>
      cases h
      exact ofName_record stem kind
    | other =>
      obtain ⟨hgender, htable, hrecord⟩ := h
      have hown := bears_ofName hlower
      cases hrole : ofName name with
      | talk gender =>
        rw [hrole] at hown
        exact absurd hown (hgender gender)
      | table stem =>
        rw [hrole] at hown
        exact absurd hown (htable stem)
      | record kind stem =>
        rw [hrole] at hown
        exact absurd hown (hrecord kind stem)
      | other => rfl

end FileRole

end Adventure

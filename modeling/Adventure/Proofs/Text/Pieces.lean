import Adventure.Proofs.Text.Slice
import Adventure.Text.Blank
import Adventure.Text.Pieces
import Mathlib.Data.List.DropRight

/-!
# Trimmed texts and pieces

What trimming leaves of a text is what stands between white space and neither begins nor ends with
any. The pieces of a text between separators are those that joining with the separator puts back
together, and that have no separator in them.
-/

namespace Adventure.Text

/-! ### Trimming -/

theorem isBlank_of_ascii {c : Char} (h : 33 ≤ c.toNat) (h' : c.toNat < 128) : isBlank c = false := by
  unfold isBlank blankRanges
  simp only [List.any_cons, List.any_nil, Bool.or_false, Bool.or_eq_false_iff, Bool.and_eq_false_iff,
    decide_eq_false_iff_not]
  omega

/-- `inner` is the text without the white space at both its ends. -/
structure Trims (cs inner : List Char) : Prop where
  parts : ∃ before behind, cs = before ++ (inner ++ behind) ∧
    (∀ c ∈ before, isBlank c = true) ∧ ∀ c ∈ behind, isBlank c = true
  front : ∀ c ∈ inner.head?, isBlank c = false
  back : ∀ c ∈ inner.getLast?, isBlank c = false

theorem trims_trimBlank (cs : List Char) : Trims cs (trimBlank cs) := by
  have hfront := List.takeWhile_append_dropWhile (p := isBlank) (l := cs)
  have hback : trimBlank cs ++ (dropBlank cs).rtakeWhile isBlank = dropBlank cs :=
    List.rdropWhile_append_rtakeWhile
  refine ⟨⟨cs.takeWhile isBlank, (dropBlank cs).rtakeWhile isBlank, ?_, ?_, ?_⟩, fun c hc => ?_,
    fun c hc => ?_⟩
  · rw [hback]
    exact hfront.symm
  · exact fun c hc => List.mem_takeWhile_imp hc
  · exact fun c hc => List.mem_rtakeWhile_imp hc
  · refine head_dropWhile cs c ?_
    show c ∈ (dropBlank cs).head?
    rw [← hback, List.head?_append, Option.mem_def.1 hc]
    rfl
  · unfold trimBlank at hc
    rw [List.getLast?_reverse] at hc
    exact head_dropWhile _ c hc

theorem Trims.trimBlank_eq {cs inner : List Char} (h : Trims cs inner) : trimBlank cs = inner := by
  obtain ⟨⟨before, behind, rfl, hbefore, hbehind⟩, hfront, hback⟩ := h
  have hdrop : dropBlank (before ++ (inner ++ behind)) = dropBlank (inner ++ behind) :=
    List.dropWhile_append_of_pos hbefore
  cases inner with
  | nil =>
    have hall : dropBlank behind = [] := List.dropWhile_eq_nil_iff.2 hbehind
    unfold trimBlank
    rw [hdrop, List.nil_append, hall]
    rfl
  | cons c inner =>
    have hstays : dropBlank (c :: inner ++ behind) = c :: inner ++ behind :=
      dropWhile_of_head hfront
    have hend : dropBlank ((c :: inner ++ behind).reverse) = (c :: inner).reverse := by
      unfold dropBlank
      rw [List.reverse_append, List.dropWhile_append_of_pos
        (fun a ha => hbehind a (List.mem_reverse.1 ha))]
      exact dropWhile_of_head (by rwa [List.head?_reverse])
    unfold trimBlank
    rw [hdrop, hstays, hend, List.reverse_reverse]

theorem trims_iff {cs inner : List Char} : Trims cs inner ↔ trimBlank cs = inner :=
  ⟨Trims.trimBlank_eq, fun h => h ▸ trims_trimBlank cs⟩

instance (cs inner : List Char) : Decidable (Trims cs inner) := decidable_of_iff' _ trims_iff

theorem Trims.self {cs : List Char} (hfront : ∀ c ∈ cs.head?, isBlank c = false)
    (hback : ∀ c ∈ cs.getLast?, isBlank c = false) : Trims cs cs :=
  ⟨⟨[], [], by rw [List.nil_append, List.append_nil], nofun, nofun⟩, hfront, hback⟩

/-! ### Pieces -/

/-- These are the pieces of the text between the separators. -/
structure Separates (sep : Char) (cs : List Char) (ps : List (List Char)) : Prop where
  some : ps ≠ []
  clean : ∀ p ∈ ps, sep ∉ p
  joined : [sep].intercalate ps = cs

theorem pieces_eq_splitOn (sep : Char) (cs : List Char) : pieces sep cs = cs.splitOn sep := by
  induction cs with
  | nil => rfl
  | cons c cs ih =>
    have hsome := pieces_ne_nil sep cs
    rw [pieces, List.splitOn_cons_eq_if_modifyHead, ← ih]
    simp only [beq_iff_eq]
    split
    · rfl
    · cases hpieces : pieces sep cs with
      | nil => exact absurd hpieces hsome
      | cons p ps => rfl

theorem not_mem_pieces (sep : Char) (cs : List Char) : ∀ p ∈ pieces sep cs, sep ∉ p := by
  induction cs with
  | nil => exact List.forall_mem_singleton.2 List.not_mem_nil
  | cons c cs ih =>
    rw [pieces]
    split
    · exact List.forall_mem_cons.2 ⟨List.not_mem_nil, ih⟩
    · rename_i hne
      cases hpieces : pieces sep cs with
      | nil => exact List.forall_mem_singleton.2 (by simpa using Ne.symm hne)
      | cons p ps =>
        rw [hpieces, List.forall_mem_cons] at ih
        refine List.forall_mem_cons.2 ⟨?_, ih.2⟩
        rw [List.mem_cons, not_or]
        exact ⟨Ne.symm hne, ih.1⟩

theorem separates_iff {sep : Char} {cs : List Char} {ps : List (List Char)} :
    Separates sep cs ps ↔ pieces sep cs = ps := by
  constructor
  · rintro ⟨hsome, hclean, rfl⟩
    rw [pieces_eq_splitOn, List.splitOn_intercalate sep hclean hsome]
  · rintro rfl
    refine ⟨pieces_ne_nil sep cs, not_mem_pieces sep cs, ?_⟩
    rw [pieces_eq_splitOn, List.intercalate_splitOn]

instance (sep : Char) (cs : List Char) (ps : List (List Char)) : Decidable (Separates sep cs ps) :=
  decidable_of_iff' _ separates_iff

theorem not_mem_intercalate {sep c : Char} (hsep : c ≠ sep) {ps : List (List Char)}
    (h : ∀ p ∈ ps, c ∉ p) : c ∉ [sep].intercalate ps := by
  induction ps with
  | nil => exact List.not_mem_nil
  | cons p ps ih =>
    rw [List.forall_mem_cons] at h
    cases ps with
    | nil =>
      rw [List.intercalate_singleton]
      exact h.1
    | cons q qs =>
      rw [List.intercalate_cons_cons, List.mem_append, List.mem_append, List.mem_singleton]
      rintro ((hp | hc) | hrest)
      · exact h.1 hp
      · exact hsep hc
      · exact ih h.2 hrest

theorem back_intercalate {sep : Char} (hsep : isBlank sep = false) {ps : List (List Char)}
    (h : ∀ p ∈ ps, ∀ c ∈ p.getLast?, isBlank c = false) :
    ∀ c ∈ ([sep].intercalate ps).getLast?, isBlank c = false := by
  induction ps with
  | nil => nofun
  | cons p ps ih =>
    rw [List.forall_mem_cons] at h
    cases ps with
    | nil =>
      rw [List.intercalate_singleton]
      exact h.1
    | cons q qs =>
      intro c hc
      rw [List.intercalate_cons_cons, List.getLast?_append, Option.mem_def, Option.or_eq_some_iff]
        at hc
      rcases hc with hrest | ⟨-, hfront⟩
      · exact ih h.2 c hrest
      · rw [List.getLast?_append, List.getLast?_singleton, Option.some_or] at hfront
        cases hfront
        exact hsep

theorem intercalate_ne_nil {sep : Char} {ps : List (List Char)} (hsome : ps ≠ [])
    (h : ps ≠ [[]]) : [sep].intercalate ps ≠ [] := by
  cases ps with
  | nil => exact absurd rfl hsome
  | cons p ps =>
    cases ps with
    | nil =>
      rw [List.intercalate_singleton]
      rintro rfl
      exact h rfl
    | cons q qs =>
      rw [List.intercalate_cons_cons]
      simp

end Adventure.Text

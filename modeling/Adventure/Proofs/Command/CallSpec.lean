import Adventure.Command.Job
import Adventure.Proofs.Text.Pieces
import Mathlib.Data.List.Forall2

/-!
# The grammar of call specifications

A call is an identifier alone, or an identifier, a colon and the arguments on one line. The reader
of calls reads a text exactly if what trimming leaves of it is such a call, and it reads back every
call whose arguments are trimmed and have neither commas nor line ends in them, unless there is one
argument and it is empty.
-/

namespace Adventure.Command

open Text (Trims Separates trims_iff separates_iff)

/-! ### The grammar -/

def Letter (c : Char) : Prop := ('A' ≤ c ∧ c ≤ 'Z') ∨ ('a' ≤ c ∧ c ≤ 'z') ∨ c = '_'

instance (c : Char) : Decidable (Letter c) := inferInstanceAs (Decidable (_ ∨ _ ∨ _))

def Digit (c : Char) : Prop := '0' ≤ c ∧ c ≤ '9'

def Identifier (cs : List Char) : Prop :=
  ∃ c rest, cs = c :: rest ∧ Letter c ∧ ∀ a ∈ rest, Letter a ∨ Digit a

/-- The arguments of a text behind the colon: none if there is nothing, else its trimmed pieces. -/
inductive Lists : List Char → List String → Prop where
  | none : Lists [] []
  | some {cs : List Char} {ps : List (List Char)} {args : List String} (some : cs ≠ [])
    (pieces : Separates ',' cs ps) (trimmed : List.Forall₂ (fun p a => Trims p a.toList) ps args) :
    Lists cs args

/-- The text is the call, as it stands. -/
inductive Written : List Char → CallSpec → Prop where
  | bare {name : List Char} (named : Identifier name) : Written name ⟨.ofList name, []⟩
  | listed {name rest : List Char} {args : List String} (named : Identifier name)
    (line : '\n' ∉ rest) (lists : Lists rest args) :
    Written (name ++ ':' :: rest) ⟨.ofList name, args⟩

/-- How a call is written: without a colon if it has no arguments. -/
def CallSpec.text (spec : CallSpec) : String :=
  if spec.args = [] then spec.name else spec.name ++ ":" ++ ",".intercalate spec.args

/-! ### Names -/

theorem isNameStart_iff (c : Char) : isNameStart c = true ↔ Letter c := by
  unfold isNameStart Letter Char.isAlpha Char.isUpper Char.isLower
  simp only [Bool.or_eq_true, Bool.and_eq_true, decide_eq_true_eq, beq_iff_eq, Char.le_def,
    ge_iff_le, or_assoc]

theorem isNameChar_iff (c : Char) : isNameChar c = true ↔ Letter c ∨ Digit c := by
  rw [← isNameStart_iff]
  unfold isNameChar isNameStart Digit Char.isAlphanum Char.isDigit
  simp only [Bool.or_eq_true, Bool.and_eq_true, decide_eq_true_eq, Char.le_def, ge_iff_le]
  exact or_right_comm

theorem Identifier.head {name : List Char} (h : Identifier name) :
    name.head?.any isNameStart = true := by
  obtain ⟨c, rest, rfl, hletter, -⟩ := h
  exact (isNameStart_iff c).2 hletter

theorem Identifier.all {name : List Char} (h : Identifier name) :
    ∀ c ∈ name, isNameChar c = true := by
  obtain ⟨c, rest, rfl, hletter, hrest⟩ := h
  rw [List.forall_mem_cons]
  exact ⟨(isNameChar_iff c).2 (.inl hletter), fun a ha => (isNameChar_iff a).2 (hrest a ha)⟩

theorem identifier_of_head {name : List Char} (hhead : name.head?.any isNameStart = true)
    (hall : ∀ c ∈ name, isNameChar c = true) : Identifier name := by
  cases name with
  | nil => cases hhead
  | cons c rest =>
    rw [List.forall_mem_cons] at hall
    exact ⟨c, rest, rfl, (isNameStart_iff c).1 hhead, fun a ha => (isNameChar_iff a).1 (hall.2 a ha)⟩

theorem Identifier.split {name tail : List Char} (h : Identifier name)
    (htail : ∀ c ∈ tail.head?, isNameChar c = false) :
    (name ++ tail).takeWhile isNameChar = name ∧ (name ++ tail).dropWhile isNameChar = tail := by
  rw [List.takeWhile_append_of_pos h.all, List.dropWhile_append_of_pos h.all,
    Text.takeWhile_of_head htail, Text.dropWhile_of_head htail, List.append_nil]
  exact ⟨rfl, rfl⟩

/-! ### Arguments -/

theorem readArguments_iff {cs : List Char} {args : List String} :
    readArguments cs = args ↔ Lists cs args := by
  unfold readArguments
  have hpieces : ∀ ps : List (List Char),
      (ps.map fun p => String.ofList (Text.trimBlank p)) = args ↔
        List.Forall₂ (fun p a => Trims p a.toList) ps args := by
    intro ps
    rw [← List.forall₂_eq_eq_eq, List.forall₂_map_left_iff]
    simp only [trims_iff, ← String.toList_inj, String.toList_ofList]
  constructor
  · split
    · rename_i hempty
      rintro rfl
      rw [List.isEmpty_iff.1 hempty]
      exact .none
    · rename_i hsome
      intro hargs
      exact .some (fun hnil => hsome (List.isEmpty_iff.2 hnil)) (separates_iff.2 rfl)
        ((hpieces _).1 hargs)
  · intro h
    cases h with
    | none => rfl
    | some hsome hsplit htrimmed =>
      rw [if_neg (fun hempty => hsome (List.isEmpty_iff.1 hempty)), separates_iff.1 hsplit]
      exact (hpieces _).2 htrimmed

theorem readTail_iff {cs : List Char} {args : List String} :
    readTail cs = some args ↔
      (cs = [] ∧ args = []) ∨ ∃ rest, cs = ':' :: rest ∧ '\n' ∉ rest ∧ Lists rest args := by
  constructor
  · intro h
    unfold readTail at h
    split at h
    · cases h
      exact .inl ⟨rfl, rfl⟩
    · rename_i rest
      split at h
      · cases h
      · rename_i hline
        cases h
        exact .inr ⟨rest, rfl, hline, readArguments_iff.1 rfl⟩
    · cases h
  · rintro (⟨rfl, rfl⟩ | ⟨rest, rfl, hline, hlists⟩)
    · rfl
    · rw [readTail, if_neg hline, readArguments_iff.2 hlists]

/-! ### Calls -/

theorem read_parts {text : String} {name tail : List Char} {args : List String}
    (h : Text.trimBlank text.toList = name ++ tail) (hnamed : Identifier name)
    (htail : ∀ c ∈ tail.head?, isNameChar c = false) (hargs : readTail tail = some args) :
    CallSpec.read text = some ⟨.ofList name, args⟩ := by
  obtain ⟨htake, hdrop⟩ := hnamed.split htail
  unfold CallSpec.read
  simp only [h, htake, hdrop, hargs]
  rw [if_pos hnamed.head]
  rfl

theorem read_iff {text : String} {spec : CallSpec} :
    CallSpec.read text = some spec ↔ Written (Text.trimBlank text.toList) spec := by
  constructor
  · unfold CallSpec.read
    generalize Text.trimBlank text.toList = cs
    intro h
    simp only at h
    split at h
    · rename_i hhead
      have hnamed := identifier_of_head hhead fun c hc => List.mem_takeWhile_imp hc
      have hparts := List.takeWhile_append_dropWhile (p := isNameChar) (l := cs)
      obtain ⟨args, hargs, rfl⟩ := Option.map_eq_some_iff.1 h
      obtain ⟨hnil, rfl⟩ | ⟨rest, hrest, hline, hlists⟩ := readTail_iff.1 hargs
      · rw [hnil, List.append_nil] at hparts
        conv_lhs => rw [← hparts]
        exact .bare hnamed
      · rw [hrest] at hparts
        conv_lhs => rw [← hparts]
        exact .listed hnamed hline hlists
    · cases h
  · generalize hcs : Text.trimBlank text.toList = cs
    intro h
    cases h with
    | bare hnamed =>
      rw [← List.append_nil cs] at hcs
      exact read_parts hcs hnamed nofun rfl
    | listed hnamed hline hlists =>
      refine read_parts hcs hnamed ?_ (readTail_iff.2 (.inr ⟨_, rfl, hline, hlists⟩))
      rintro c ⟨⟩
      decide

/-! ### Calls read back -/

theorem isBlank_of_nameChar {c : Char} (h : isNameChar c = true) : Text.isBlank c = false := by
  rw [isNameChar_iff] at h
  unfold Letter Digit at h
  simp only [Char.le_def, UInt32.le_iff_toNat_le] at h
  refine Text.isBlank_of_ascii ?_ ?_
  · rcases h with (h | h | rfl) | h
    · exact Nat.le_trans (by decide) h.1
    · exact Nat.le_trans (by decide) h.1
    · decide
    · exact Nat.le_trans (by decide) h.1
  · rcases h with (h | h | rfl) | h
    · exact Nat.lt_of_le_of_lt h.2 (by decide)
    · exact Nat.lt_of_le_of_lt h.2 (by decide)
    · decide
    · exact Nat.lt_of_le_of_lt h.2 (by decide)

theorem Identifier.trims {name : List Char} (h : Identifier name) : Trims name name :=
  .self (fun c hc => isBlank_of_nameChar (h.all c (List.mem_of_head? hc)))
    fun c hc => isBlank_of_nameChar (h.all c (List.mem_of_getLast? hc))

/-- Arguments that a written call can hold: trimmed, without commas and without ends of lines. -/
def Plain (a : String) : Prop := Trims a.toList a.toList ∧ ',' ∉ a.toList ∧ '\n' ∉ a.toList

instance (a : String) : Decidable (Plain a) := inferInstanceAs (Decidable (_ ∧ _ ∧ _))

theorem toList_text {spec : CallSpec} (h : spec.args ≠ []) :
    spec.text.toList =
      spec.name.toList ++ ':' :: [','].intercalate (spec.args.map String.toList) := by
  unfold CallSpec.text
  rw [if_neg h, String.toList_append, String.toList_append, String.toList_intercalate]
  exact List.append_assoc _ _ _

section

variable {spec : CallSpec} (hnamed : Identifier spec.name.toList)

include hnamed

theorem written_text (hlone : spec.args ≠ [""]) (hplain : ∀ a ∈ spec.args, Plain a) :
    Written spec.text.toList spec := by
  obtain ⟨name, args⟩ := spec
  by_cases hnone : args = []
  · subst hnone
    have hbare := Written.bare hnamed
    rwa [String.ofList_toList] at hbare
  · have hsome : args.map String.toList ≠ [] := by simpa using hnone
    have hnotlone : args.map String.toList ≠ [[]] := by
      intro h
      obtain ⟨a, rfl, ha⟩ := List.map_eq_singleton_iff.1 h
      exact hlone (by rw [String.toList_eq_nil_iff.1 ha])
    have hseparates : Separates ',' ([','].intercalate (args.map String.toList))
        (args.map String.toList) :=
      ⟨hsome, List.forall_mem_map.2 fun a ha => (hplain a ha).2.1, rfl⟩
    have htrimmed : List.Forall₂ (fun p a => Trims p a.toList) (args.map String.toList) args := by
      rw [List.forall₂_map_left_iff, List.forall₂_same]
      exact fun a ha => (hplain a ha).1
    have hline : '\n' ∉ [','].intercalate (args.map String.toList) :=
      Text.not_mem_intercalate (by decide) (List.forall_mem_map.2 fun a ha => (hplain a ha).2.2)
    have hlisted := Written.listed hnamed hline
      (.some (Text.intercalate_ne_nil hsome hnotlone) hseparates htrimmed)
    rw [String.ofList_toList] at hlisted
    rwa [toList_text hnone]

theorem trims_text (hplain : ∀ a ∈ spec.args, Plain a) : Trims spec.text.toList spec.text.toList := by
  have hname := hnamed.trims
  by_cases hnone : spec.args = []
  · have htext : spec.text = spec.name := if_pos hnone
    rwa [htext]
  · rw [toList_text hnone]
    refine .self (fun c hc => hname.front c ?_) fun c hc => ?_
    · obtain ⟨a, rest, hcons, -⟩ := hnamed
      rw [hcons] at hc ⊢
      exact hc
    · -- The last character is that of the arguments, or the colon.
      have hcomma : Text.isBlank ',' = false := by decide
      have hback := Text.back_intercalate hcomma
        (List.forall_mem_map.2 fun a ha => (hplain a ha).1.back)
      rw [List.getLast?_append, List.getLast?_cons, Option.some_or, Option.mem_some_iff] at hc
      subst hc
      cases hlast : ([','].intercalate (spec.args.map String.toList)).getLast? with
      | none => decide
      | some c => exact hback c hlast

end

theorem Written.head {cs : List Char} {spec : CallSpec} (h : Written cs spec) :
    ∃ c, cs.head? = some c ∧ Letter c := by
  cases h with
  | bare hnamed =>
    obtain ⟨c, rest, rfl, hletter, -⟩ := hnamed
    exact ⟨c, rfl, hletter⟩
  | listed hnamed =>
    obtain ⟨c, rest, rfl, hletter, -⟩ := hnamed
    exact ⟨c, rfl, hletter⟩

/-- A text is read as a call exactly if what trimming leaves of it is that call, and otherwise
refused as a whole. Every call with an identifier for its name is read back from how it is written,
if its arguments are trimmed and without commas and line ends, and not one empty argument alone. -/
theorem readCall_exact :
    (∀ text spec, readCall text = .ok spec ↔
      ∃ inner, Trims text.toList inner ∧ Written inner spec) ∧
    (∀ text, (∀ spec inner, Trims text.toList inner → ¬Written inner spec) →
      readCall text = .error (.malformedCall text)) ∧
    ∀ spec : CallSpec, Identifier spec.name.toList → spec.args ≠ [""] →
      (∀ a ∈ spec.args, Plain a) → readCall spec.text = .ok spec := by
  have hread : ∀ text spec, readCall text = .ok spec ↔
      ∃ inner, Trims text.toList inner ∧ Written inner spec := by
    intro text spec
    have hok : readCall text = .ok spec ↔ CallSpec.read text = some spec := by
      unfold readCall
      cases CallSpec.read text <;> simp
    rw [hok, read_iff]
    exact ⟨fun h => ⟨_, Text.trims_trimBlank _, h⟩, fun ⟨_, htrims, h⟩ => htrims.trimBlank_eq ▸ h⟩
  refine ⟨hread, fun text hnone => ?_, fun spec hnamed hlone hplain => ?_⟩
  · unfold readCall
    cases hcall : CallSpec.read text with
    | none => rfl
    | some spec => exact absurd (read_iff.1 hcall) (hnone spec _ (Text.trims_trimBlank _))
  · exact (hread _ _).2 ⟨_, trims_text hnamed hplain, written_text hnamed hlone hplain⟩

/-- A call that ends in a comma, with a colon and a blank in its first argument, a text that begins
with a digit, and a call whose first argument is empty. -/
theorem trailing_comma_read :
    (∃ inner, Trims "\u3000door: a:b c ,\t".toList inner ∧ Written inner ⟨"door", ["a:b c", ""]⟩) ∧
    readCall "\u3000door: a:b c ,\t" = .ok ⟨"door", ["a:b c", ""]⟩ ∧
    readCall "9x:1" = .error (.malformedCall "9x:1") ∧
    readCall "door:,x" = .ok ⟨"door", ["", "x"]⟩ := by
  obtain ⟨hread, hrefused, hback⟩ := readCall_exact
  have hletters : ∀ a ∈ ['o', 'o', 'r'], Letter a := List.forall_mem_cons.2
    ⟨by decide, List.forall_mem_cons.2 ⟨by decide, List.forall_mem_singleton.2 (by decide)⟩⟩
  have hdoor : Identifier "door".toList :=
    ⟨'d', ['o', 'o', 'r'], rfl, by decide, fun a ha => .inl (hletters a ha)⟩
  have htrimmed : ∃ inner, Trims "\u3000door: a:b c ,\t".toList inner ∧
      Written inner ⟨"door", ["a:b c", ""]⟩ := by
    have hpieces : Separates ',' " a:b c ,".toList [" a:b c ".toList, []] := by decide
    have hlists : Lists " a:b c ,".toList ["a:b c", ""] :=
      .some (by decide) hpieces (.cons (by decide) (.cons (by decide) .nil))
    exact ⟨"door: a:b c ,".toList, by decide, .listed hdoor (by decide) hlists⟩
  refine ⟨htrimmed, (hread _ _).2 htrimmed, hrefused _ fun spec inner htrim hwritten => ?_, ?_⟩
  · obtain ⟨c, hc, hletter⟩ := hwritten.head
    rw [← htrim.trimBlank_eq] at hc
    obtain rfl : '9' = c := Option.some_inj.1 hc
    exact absurd hletter (by decide)
  · exact hback ⟨"door", ["", "x"]⟩ hdoor (by decide) (by decide)

end Adventure.Command

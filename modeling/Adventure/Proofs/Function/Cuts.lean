import Adventure.Proofs.Function.Readings
import Adventure.Proofs.Number

/-!
# Cutting and joining texts from scripts

Scripts take texts apart from the left, from the right and from the middle, and put one text into
another, all by numbers of characters. The answers fit together: what is cut off at one end is what
the other cut leaves, a cut from the middle is one from the right and one from the left, and a text
that is put in is found where it was put, with the other text on both sides of it.
-/

namespace Adventure.Function

open Bridge

variable {σ : Type}

/-! ### Numbers in range -/

theorem count_inRange {n k : Int32} (hk : 0 ≤ k) :
    count (max 0 (min n k)) = min (count n) (count k) := by
  rw [Int32.le_iff_toInt_le, Int32.toInt_zero] at hk
  unfold count
  rw [toInt_max, toInt_min, Int32.toInt_zero]
  omega

theorem count_sub {a b : Int32} (ha : 0 ≤ a) (hab : a ≤ b) : count (b - a) = count b - count a := by
  have hsub := Int32.toInt_sub_of_le b a ha hab
  rw [Int32.le_iff_toInt_le] at ha hab
  rw [Int32.toInt_zero] at ha
  unfold count
  rw [hsub]
  omega

theorem count_le {a b : Int32} (h : a ≤ b) : count a ≤ count b := by
  rw [Int32.le_iff_toInt_le] at h
  unfold count
  omega

/-! ### Characters -/

section Characters

variable (cs ds : List Char)

theorem takeRight_of_rest {n : Nat} (h : n ≤ cs.length) :
    takeRight (cs.length - n) cs = cs.drop n := by
  unfold takeRight
  rw [Nat.sub_sub_self h]

theorem take_append_takeRight {n : Nat} (h : n ≤ cs.length) :
    cs.take n ++ takeRight (cs.length - n) cs = cs := by
  rw [takeRight_of_rest cs h, List.take_append_drop]

theorem take_drop_of_most (start n : Nat) :
    (cs.drop start).take n = (cs.drop start).take (min n cs.length) := by
  rw [List.take_eq_take_iff, List.length_drop]
  omega

theorem takeRight_of_most (n : Nat) : takeRight n cs = takeRight (min n cs.length) cs := by
  unfold takeRight
  congr 1
  omega

theorem insertAt_eq (n : Nat) :
    insertAt ds cs n = ds.take (min n ds.length) ++ cs ++ ds.drop (min n ds.length) := by
  unfold insertAt
  rcases Nat.le_total n ds.length with h | h
  · rw [min_eq_left h]
  · rw [min_eq_right h, List.take_of_length_le h, List.drop_of_length_le h,
      List.take_of_length_le le_rfl, List.drop_of_length_le le_rfl]

theorem length_insertAt (n : Nat) : (insertAt ds cs n).length = ds.length + cs.length := by
  rw [insertAt_eq]
  simp only [List.length_append, List.length_take, List.length_drop]
  omega

variable {n : Nat} (h : n ≤ ds.length)

include h

theorem take_insertAt : (insertAt ds cs n).take n = ds.take n := by
  have hfront : (ds.take n).length = n := by
    rw [List.length_take]
    exact min_eq_left h
  unfold insertAt
  rw [List.append_assoc, List.take_left' hfront]

theorem drop_insertAt : (insertAt ds cs n).drop n = cs ++ ds.drop n := by
  have hfront : (ds.take n).length = n := by
    rw [List.length_take]
    exact min_eq_left h
  unfold insertAt
  rw [List.append_assoc, List.drop_left' hfront]

theorem takeRight_insertAt :
    takeRight (ds.length - n) (insertAt ds cs n) = takeRight (ds.length - n) ds := by
  have hplace : (insertAt ds cs n).length - (ds.length - n) = n + cs.length := by
    rw [length_insertAt]
    omega
  rw [takeRight_of_rest ds h]
  unfold takeRight
  rw [hplace, ← List.drop_drop, drop_insertAt cs ds h, List.drop_left]

end Characters

/-! ### Answers -/

section

variable {f : Callee} (site : CallSite) (run : Runner σ) (s : Session σ)

theorem answers_right (hf : f.number? table = some 62) (text : String) (n : Int32) :
    Answers run f [.string text, .int n] site s (textValue (takeRight (count n) text.toList)) :=
  answers_text (Callee.admission_of_fill hf rfl rfl) rfl rfl rfl run s

theorem answers_left (hf : f.number? table = some 63) (text : String) (n : Int32) :
    Answers run f [.string text, .int n] site s (textValue (text.toList.take (count n))) :=
  answers_text (Callee.admission_of_fill hf rfl rfl) rfl rfl rfl run s

theorem answers_insert (hf : f.number? table = some 64) (text new : String) (place : Int32) :
    Answers run f [.string text, .string new, .int place] site s
      (textValue (insertAt text.toList new.toList (count place))) :=
  answers_text (Callee.admission_of_fill hf rfl rfl) rfl rfl rfl run s

end

/-- The functions that scripts measure, cut and join texts with, as they are called. -/
structure Cutters where
  length : Callee
  right : Callee
  left : Callee
  insert : Callee
  part : Callee

structure Cutters.Found (f : Cutters) : Prop where
  length : f.length.number? table = some 59
  right : f.right.number? table = some 62
  left : f.left.number? table = some 63
  insert : f.insert.number? table = some 64
  part : f.part.number? table = some 65

/-- What those functions answer. -/
structure Cutting where
  length : String → Int32
  right : String → Int32 → String
  left : String → Int32 → String
  insert : String → String → Int32 → String
  part : String → Int32 → Int32 → String

namespace Cutting

/-- Every call is answered so, without a fault, and nothing else happens. -/
structure Told (c : Cutting) (f : Cutters) (site : CallSite) (run : Runner σ) (s : Session σ) :
    Prop where
  length : ∀ text, Answers run f.length [.string text] site s (.int (c.length text))
  right : ∀ text n, Answers run f.right [.string text, .int n] site s (.string (c.right text n))
  left : ∀ text n, Answers run f.left [.string text, .int n] site s (.string (c.left text n))
  insert : ∀ text new place,
    Answers run f.insert [.string text, .string new, .int place] site s
      (.string (c.insert text new place))
  part : ∀ text start n,
    Answers run f.part [.string text, .int start, .int n] site s (.string (c.part text start n))

/-- The number that is nearest to `n` from zero to the length of the text. -/
def within (c : Cutting) (text : String) (n : Int32) : Int32 := max 0 (min n (c.length text))

/-- A text that is put in stands between the two sides of the other text. -/
structure Joins (c : Cutting) (text new : String) (place : Int32) : Prop where
  length : c.length (c.insert text new place) = c.length text + c.length new
  before : c.left (c.insert text new place) (c.within text place) = c.left text (c.within text place)
  between : c.part (c.insert text new place) (c.within text place) (c.length new) = new
  behind : c.right (c.insert text new place) (c.length text - c.within text place) =
    c.right text (c.length text - c.within text place)

/-- The answers fit together for all texts whose characters scripts can count. -/
structure Agrees (c : Cutting) : Prop where
  measured : ∀ text, text.length < 2147483648 → (c.length text).toInt = text.length
  ends : ∀ text, text.length < 2147483648 → c.left text 0 = "" ∧ c.right text 0 = "" ∧
    c.left text (c.length text) = text ∧ c.right text (c.length text) = text
  halves : ∀ text n, text.length < 2147483648 → 0 ≤ n → n ≤ c.length text →
    c.left text n ++ c.right text (c.length text - n) = text
  part_eq : ∀ text start n, text.length < 2147483648 → 0 ≤ start → start ≤ c.length text →
    c.part text start n = c.left (c.right text (c.length text - start)) n
  joins : ∀ text new place, text.length + new.length < 2147483648 → c.Joins text new place
  counts : ∀ text n, text.length < 2147483648 →
    c.left text n = c.left text (c.within text n) ∧
    c.right text n = c.right text (c.within text n) ∧
    ∀ start, c.part text start n = c.part text start (c.within text n)

theorem within_nonneg (c : Cutting) (text : String) (n : Int32) : 0 ≤ c.within text n := by
  unfold within
  rw [Int32.le_iff_toInt_le, toInt_max]
  exact le_max_left _ _

/-- The answers of the functions of the game. -/
def ofGame : Cutting where
  length text := scriptCount text.length
  right text n := String.ofList (takeRight (count n) text.toList)
  left text n := String.ofList (text.toList.take (count n))
  insert text new place := String.ofList (insertAt text.toList new.toList (count place))
  part text start n := String.ofList (cut text.toList start (count n))

section

variable {text : String} (htext : text.length < 2147483648)

include htext

theorem count_length : count (ofGame.length text) = text.toList.length := by
  rw [String.length_toList]
  exact count_scriptCount htext

theorem length_nonneg : 0 ≤ ofGame.length text := by
  rw [Int32.le_iff_toInt_le, Int32.toInt_zero]
  show 0 ≤ (scriptCount text.length).toInt
  unfold scriptCount
  rw [min_eq_left (by omega), toInt_ofInt_of_lt htext]
  exact Int.natCast_nonneg _

theorem count_within (n : Int32) :
    count (ofGame.within text n) = min (count n) text.toList.length := by
  unfold within
  rw [count_inRange (length_nonneg htext), count_length htext]

theorem within_le (n : Int32) : ofGame.within text n ≤ ofGame.length text := by
  have hlength := length_nonneg htext
  unfold within
  rw [Int32.le_iff_toInt_le] at hlength ⊢
  rw [toInt_max, toInt_min]
  omega

theorem count_rest {n : Int32} (hn : 0 ≤ n) (hle : n ≤ ofGame.length text) :
    count (ofGame.length text - n) = text.toList.length - count n := by
  rw [count_sub hn hle, count_length htext]

theorem count_le_length {n : Int32} (hle : n ≤ ofGame.length text) :
    count n ≤ text.toList.length := by
  rw [← count_length htext]
  exact count_le hle

end

theorem part_of_nonneg (text : String) {start : Int32} (n : Int32) (h : 0 ≤ start) :
    ofGame.part text start n = String.ofList ((text.toList.drop (count start)).take (count n)) := by
  show String.ofList (cut text.toList start (count n)) = _
  unfold cut
  rw [if_neg (Int32.not_lt.2 h)]

theorem joins_ofGame {text new : String} (hboth : text.length + new.length < 2147483648)
    (place : Int32) : ofGame.Joins text new place := by
  have htext : text.length < 2147483648 := by omega
  have hnew : new.length < 2147483648 := by omega
  have hplace := count_within htext place
  have hle : count (ofGame.within text place) ≤ text.toList.length :=
    count_le_length htext (within_le htext place)
  have hnonneg := within_nonneg ofGame text place
  have hrest := count_rest htext hnonneg (within_le htext place)
  -- The text is put in at the place in range, which the cuts on both sides then use.
  have hinsert : (ofGame.insert text new place).toList =
      insertAt text.toList new.toList (count (ofGame.within text place)) := by
    show (String.ofList _).toList = _
    rw [String.toList_ofList, insertAt_eq, hplace]
    unfold insertAt
    rfl
  refine ⟨?_, ?_, ?_, ?_⟩
  · have hlength : (ofGame.insert text new place).length = text.length + new.length := by
      rw [← String.length_toList, hinsert, length_insertAt, String.length_toList,
        String.length_toList]
    rw [← Int32.toInt_inj, Int32.toInt_add]
    show (scriptCount (ofGame.insert text new place).length).toInt =
      ((scriptCount text.length).toInt + (scriptCount new.length).toInt).bmod (2 ^ 32)
    unfold scriptCount
    rw [hlength, min_eq_left (by omega), min_eq_left (by omega), min_eq_left (by omega),
      toInt_ofInt_of_lt hboth, toInt_ofInt_of_lt htext, toInt_ofInt_of_lt hnew,
      Int.bmod_eq_of_le (by omega) (by omega)]
    exact Int.natCast_add _ _
  · show String.ofList ((ofGame.insert text new place).toList.take _) = String.ofList _
    rw [hinsert, take_insertAt _ _ hle]
  · rw [part_of_nonneg _ _ hnonneg, hinsert, drop_insertAt _ _ hle, count_length hnew,
      List.take_left, String.ofList_toList]
  · show String.ofList (takeRight _ (ofGame.insert text new place).toList) = String.ofList _
    rw [hinsert, hrest, takeRight_insertAt _ _ hle]

theorem agrees_ofGame : ofGame.Agrees where
  measured text htext := by
    show (scriptCount text.length).toInt = _
    unfold scriptCount
    rw [min_eq_left (by omega), toInt_ofInt_of_lt htext]
  ends text htext := by
    have hlength := count_length htext
    refine ⟨rfl, ?_, ?_, ?_⟩
    · show String.ofList (text.toList.drop (text.toList.length - 0)) = ""
      rw [Nat.sub_zero, List.drop_length]
    · show String.ofList (text.toList.take (count (ofGame.length text))) = text
      rw [hlength, List.take_length, String.ofList_toList]
    · show String.ofList (takeRight (count (ofGame.length text)) text.toList) = text
      unfold takeRight
      rw [hlength, Nat.sub_self, List.drop_zero, String.ofList_toList]
  halves text n htext hn hle := by
    show String.ofList (text.toList.take (count n)) ++
      String.ofList (takeRight (count (ofGame.length text - n)) text.toList) = text
    rw [count_rest htext hn hle, ← String.ofList_append,
      take_append_takeRight _ (count_le_length htext hle), String.ofList_toList]
  part_eq text start n htext hstart hle := by
    show _ = String.ofList ((String.ofList (takeRight _ text.toList)).toList.take (count n))
    rw [part_of_nonneg text n hstart, String.toList_ofList, count_rest htext hstart hle,
      takeRight_of_rest _ (count_le_length htext hle)]
  joins text new place hboth := joins_ofGame hboth place
  counts text n htext := by
    have hcount := count_within htext n
    refine ⟨?_, ?_, fun start => ?_⟩
    · show String.ofList (text.toList.take (count n)) =
        String.ofList (text.toList.take (count (ofGame.within text n)))
      rw [hcount, ← List.take_eq_take_min]
    · show String.ofList (takeRight (count n) text.toList) =
        String.ofList (takeRight (count (ofGame.within text n)) text.toList)
      rw [hcount, ← takeRight_of_most]
    · show String.ofList (cut text.toList start (count n)) =
        String.ofList (cut text.toList start (count (ofGame.within text n)))
      unfold cut
      split
      · rfl
      · rw [hcount, ← take_drop_of_most]

end Cutting

/-- Scripts are answered at every site and in every session alike, and the answers fit together. -/
theorem cuts_agree {f : Cutters} (hf : f.Found) (site : CallSite) (run : Runner σ) (s : Session σ) :
    ∃ c : Cutting, c.Told f site run s ∧ c.Agrees := by
  refine ⟨.ofGame, ?_, Cutting.agrees_ofGame⟩
  exact {
    length := answers_length site run s hf.length
    right := answers_right site run s hf.right
    left := answers_left site run s hf.left
    insert := answers_insert site run s hf.insert
    part := answers_cut site run s hf.part }

def Cutters.byName : Cutters :=
  ⟨.name "GetStringLength", .name "GetStringRight", .name "GetStringLeft", .name "InsertString",
    .name "GetSubString"⟩

theorem Cutters.byName_found : Cutters.byName.Found :=
  ⟨by decide, by decide, by decide, by decide, by decide⟩

/-- A text put in far behind the end of another one, with characters of several bytes. -/
theorem wave_put_behind : ∃ f : Cutters, f.Found ∧ f.insert = .name "InsertString" ∧
    (∃ c : Cutting, c.Told f .none .idle talking ∧ c.Agrees) ∧
    Answers .idle f.insert [.string "é🌊", .string "ab", .int 99] .none talking
      (.string "é🌊ab") := by
  have hf := Cutters.byName_found
  exact ⟨.byName, hf, rfl, cuts_agree hf .none .idle talking,
    answers_insert .none .idle talking hf.insert "é🌊" "ab" 99⟩

end Adventure.Function

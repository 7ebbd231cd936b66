import Adventure.Dict
import Mathlib.Data.String.Basic

/-!
# Dictionaries as maps

Look-up after `erase`, and what the order of the keys is good for: `insert` and `erase` keep it, no
key occurs twice, and an entry stands in an ordered dictionary exactly if look-up finds it. Of lists
of entries under keys of any other kind, look-up in what is kept of them.
-/

namespace Adventure

theorem lookup_filter {κ β : Type} [BEq κ] [LawfulBEq κ] (p : κ → Bool) (key : κ)
    (entries : List (κ × β)) :
    (entries.filter fun entry => p entry.1).lookup key =
      if p key then entries.lookup key else none := by
  induction entries with
  | nil => cases p key <;> rfl
  | cons entry entries ih =>
    obtain ⟨other, s⟩ := entry
    by_cases hkey : key = other
    · subst hkey
      cases hp : p key with
      | true => simp [hp]
      | false => simpa [hp] using ih
    · have hne : (key == other) = false := beq_eq_false_iff_ne.2 hkey
      cases hp : p other with
      | true => simp [hp, List.lookup_cons, hne, ih]
      | false => simp [hp, List.lookup_cons, hne, ih]

namespace Dict

variable {α : Type}

theorem erase_cons_self (d : Dict α) (key : String) (a : α) :
    erase ((key, a) :: d) key = erase d key := by
  simp [erase]

theorem erase_cons_of_ne (d : Dict α) {k key : String} (a : α) (h : k ≠ key) :
    erase ((k, a) :: d) key = (k, a) :: erase d key := by
  simp [erase, h]

theorem find?_erase_self (d : Dict α) (key : String) : (d.erase key).find? key = none := by
  induction d with
  | nil => rfl
  | cons entry d ih =>
    obtain ⟨k, a⟩ := entry
    by_cases hk : k = key
    · subst hk
      rw [erase_cons_self]
      exact ih
    · rw [erase_cons_of_ne d a hk]
      simp only [find?, if_neg hk]
      exact ih

theorem find?_erase_of_ne (d : Dict α) {key other : String} (h : other ≠ key) :
    (d.erase key).find? other = d.find? other := by
  induction d with
  | nil => rfl
  | cons entry d ih =>
    obtain ⟨k, a⟩ := entry
    by_cases hk : k = key
    · have hko : k ≠ other := fun he => h (he.symm.trans hk)
      subst hk
      rw [erase_cons_self, ih]
      simp only [find?, if_neg hko]
    · rw [erase_cons_of_ne d a hk]
      simp only [find?, ih]

theorem mem_of_find? {d : Dict α} {key : String} {a : α} (h : d.find? key = some a) :
    (key, a) ∈ d := by
  induction d with
  | nil => cases h
  | cons entry d ih =>
    obtain ⟨k, b⟩ := entry
    simp only [find?] at h
    split at h
    · rename_i hk
      cases h
      subst hk
      exact List.mem_cons_self
    · exact List.mem_cons_of_mem _ (ih h)

theorem find?_of_mem {d : Dict α} (ho : d.Ordered) {key : String} {a : α} (h : (key, a) ∈ d) :
    d.find? key = some a := by
  induction d with
  | nil => cases h
  | cons entry d ih =>
    obtain ⟨k, b⟩ := entry
    obtain ⟨hk, hd⟩ := List.pairwise_cons.1 ho
    rcases List.mem_cons.1 h with he | hm
    · cases he
      simp only [find?, if_true]
    · have hne : k ≠ key := fun he => absurd (hk _ hm) (by simp [he])
      simp only [find?, if_neg hne]
      exact ih hd hm

theorem ordered_erase {d : Dict α} (h : d.Ordered) (key : String) : (d.erase key).Ordered :=
  List.Pairwise.filter _ h

theorem mem_insert {d : Dict α} {key : String} {a : α} {entry : String × α}
    (h : entry ∈ d.insert key a) : entry = (key, a) ∨ entry ∈ d := by
  induction d with
  | nil => exact Or.inl (by simpa [insert] using h)
  | cons head d ih =>
    obtain ⟨k, b⟩ := head
    simp only [insert] at h
    split at h
    · rcases List.mem_cons.1 h with he | hm
      · exact Or.inl he
      · exact Or.inr (List.mem_cons_of_mem _ hm)
    · split at h
      · rcases List.mem_cons.1 h with he | hm
        · exact Or.inl he
        · exact Or.inr hm
      · rcases List.mem_cons.1 h with he | hm
        · exact Or.inr (by rw [he]; exact List.mem_cons_self)
        · rcases ih hm with he | hm
          · exact Or.inl he
          · exact Or.inr (List.mem_cons_of_mem _ hm)

theorem insert_perm {d : Dict α} {key : String} (h : d.find? key = none) (a : α) :
    (d.insert key a).Perm ((key, a) :: d) := by
  induction d with
  | nil => exact .refl _
  | cons entry d ih =>
    obtain ⟨k, b⟩ := entry
    simp only [find?] at h
    split at h
    · cases h
    · rename_i hne
      simp only [insert, if_neg hne]
      split
      · exact .refl _
      · exact ((ih h).cons _).trans (.swap _ _ _)

theorem ordered_insert {d : Dict α} (h : d.Ordered) (key : String) (a : α) :
    (d.insert key a).Ordered := by
  induction d with
  | nil => exact List.pairwise_singleton _ _
  | cons entry d ih =>
    obtain ⟨k, b⟩ := entry
    obtain ⟨hk, hd⟩ := List.pairwise_cons.1 h
    simp only [insert]
    split
    · rename_i he
      subst he
      exact List.pairwise_cons.2 ⟨hk, hd⟩
    · rename_i hne
      split
      · rename_i hlt
        refine List.pairwise_cons.2 ⟨?_, h⟩
        intro e he
        rcases List.mem_cons.1 he with rfl | hm
        · exact hlt
        · exact lt_trans hlt (hk e hm)
      · rename_i hnlt
        refine List.pairwise_cons.2 ⟨?_, ih hd⟩
        intro e he
        rcases mem_insert he with rfl | hm
        · exact lt_of_le_of_ne (not_lt.1 hnlt) hne
        · exact hk e hm

theorem insert_of_lt {d : Dict α} {key : String} (h : ∀ entry ∈ d, entry.1 < key) (a : α) :
    d.insert key a = d ++ [(key, a)] := by
  induction d with
  | nil => rfl
  | cons entry d ih =>
    obtain ⟨k, b⟩ := entry
    have hk : k < key := h (k, b) List.mem_cons_self
    simp only [insert, if_neg (ne_of_lt hk), if_neg (not_lt_of_gt hk)]
    rw [ih fun entry hentry => h entry (List.mem_cons_of_mem _ hentry)]
    rfl

theorem ofList_of_ordered {d : Dict α} (h : d.Ordered) : ofList d = d := by
  have hfold : ∀ front back : Dict α, Dict.Ordered (front ++ back) →
      back.foldl (fun d entry => Dict.insert d entry.1 entry.2) front = front ++ back := by
    intro front back
    induction back generalizing front with
    | nil => exact fun _ => (List.append_nil front).symm
    | cons entry back ih =>
      obtain ⟨key, a⟩ := entry
      intro ho
      have hlast : ∀ other ∈ front, other.1 < key := fun other hother =>
        (List.pairwise_append.1 ho).2.2 other hother (key, a) List.mem_cons_self
      rw [List.append_cons] at ho ⊢
      have hback := ih _ ho
      rw [← insert_of_lt hlast] at hback ⊢
      exact hback
  exact hfold [] d h

theorem keys_nodup {d : Dict α} (h : d.Ordered) : d.keys.Nodup := by
  unfold keys
  rw [List.Nodup, List.pairwise_map]
  exact List.Pairwise.imp (fun hlt => ne_of_lt hlt) h

end Dict

end Adventure

/-!
# Dictionaries

A dictionary is its list of entries, in ascending order of the keys (by code points) and without a
key twice. `insert` and `erase` keep that order; look-up needs no more than the list.
-/

namespace Adventure

abbrev Dict (α : Type) := List (String × α)

namespace Dict

variable {α β : Type}

def find? : Dict α → String → Option α
  | [], _ => none
  | (k, a) :: d, key => if k = key then some a else find? d key

def contains (d : Dict α) (key : String) : Bool := (d.find? key).isSome

def insert : Dict α → String → α → Dict α
  | [], key, a => [(key, a)]
  | (k, b) :: d, key, a =>
    if k = key then (key, a) :: d
    else if key < k then (key, a) :: (k, b) :: d
    else (k, b) :: insert d key a

def erase (d : Dict α) (key : String) : Dict α := d.filter fun entry => entry.1 ≠ key

/-- The dictionary of a list of entries; of two entries with one key the later one counts. -/
def ofList (entries : List (String × α)) : Dict α :=
  entries.foldl (fun d (key, a) => d.insert key a) []

def keys (d : Dict α) : List String := d.map Prod.fst

def values (d : Dict α) : List α := d.map Prod.snd

/-- Is every key smaller than the one after it? -/
def Ordered (d : Dict α) : Prop := d.Pairwise fun a b => a.1 < b.1

theorem find?_insert_self (d : Dict α) (key : String) (a : α) :
    (d.insert key a).find? key = some a := by
  induction d with
  | nil => simp [insert, find?]
  | cons entry d ih =>
    obtain ⟨k, b⟩ := entry
    simp only [insert]
    split
    · simp [find?]
    · split
      · simp [find?]
      · next h _ => simp [find?, h, ih]

theorem find?_insert_of_ne (d : Dict α) {key other : String} (a : α) (h : other ≠ key) :
    (d.insert key a).find? other = d.find? other := by
  induction d with
  | nil => simp [insert, find?, Ne.symm h]
  | cons entry d ih =>
    obtain ⟨k, b⟩ := entry
    simp only [insert]
    split
    · next hk => subst hk; simp [find?, Ne.symm h]
    · split
      · simp [find?, Ne.symm h]
      · simp [find?, ih]

end Dict

end Adventure

import Adventure.Proofs.Text.ByteOrder
import Adventure.Resource.Directory
import Mathlib.Data.List.Lex
import Mathlib.Data.List.Nodup

/-!
# Directory trees

A directory holds files and further directories, each under a name of its own. It is visited in the
order of the names, and a directory in it is visited as a whole where its name stands. In whatever
order the files of a tree are listed, they are visited in this one: comparing ways name by name
comes to the same.
-/

namespace Adventure

/-- What a directory holds. -/
inductive Folder where
  | empty
  | file (name text : String) (rest : Folder)
  | folder (name : String) (inside rest : Folder)

/-- A file of a directory, seen from the directory that holds this one under a name. -/
def File.below (name : String) (f : File) : File := { f with path := name :: f.path }

namespace Folder

def names : Folder → List String
  | .empty => []
  | .file name _ rest => name :: rest.names
  | .folder name _ rest => name :: rest.names

/-- The files in the directory and below it, depth first. -/
def files : Folder → List File
  | .empty => []
  | .file name text rest => ⟨[name], text⟩ :: rest.files
  | .folder name inside rest => inside.files.map (File.below name) ++ rest.files

/-- Does a name come before all names of a directory, byte by byte? -/
def Precedes (name : String) (rest : Folder) : Prop :=
  ∀ other ∈ rest.names, Text.bytes name.toList < Text.bytes other.toList

/-- Are the names in the directory and in those below it in ascending order, so that none of them
stands twice? -/
def Ordered : Folder → Prop
  | .empty => True
  | .file name _ rest => Precedes name rest ∧ rest.Ordered
  | .folder name inside rest => Precedes name rest ∧ inside.Ordered ∧ rest.Ordered

instance (name : String) (rest : Folder) : Decidable (Precedes name rest) :=
  inferInstanceAs (Decidable (∀ other ∈ rest.names, _))

instance decidableOrdered : (tree : Folder) → Decidable tree.Ordered
  | .empty => .isTrue trivial
  | .file name _ rest =>
    have := decidableOrdered rest
    inferInstanceAs (Decidable (Precedes name rest ∧ rest.Ordered))
  | .folder name inside rest =>
    have := decidableOrdered inside
    have := decidableOrdered rest
    inferInstanceAs (Decidable (Precedes name rest ∧ inside.Ordered ∧ rest.Ordered))

/-! ### The files of a tree -/

theorem path_of_mem {tree : Folder} {f : File} (h : f ∈ tree.files) :
    ∃ name ∈ tree.names, ∃ way, f.path = name :: way := by
  induction tree with
  | empty => simp [files] at h
  | file name text rest ih =>
    simp only [files, names, List.mem_cons] at h ⊢
    rcases h with rfl | hrest
    · exact ⟨name, Or.inl rfl, [], rfl⟩
    · obtain ⟨other, hother, hpath⟩ := ih hrest
      exact ⟨other, Or.inr hother, hpath⟩
  | folder name inside rest _ ih =>
    simp only [files, names, List.mem_append, List.mem_map, List.mem_cons] at h ⊢
    rcases h with ⟨g, -, rfl⟩ | hrest
    · exact ⟨name, Or.inl rfl, g.path, rfl⟩
    · obtain ⟨other, hother, hpath⟩ := ih hrest
      exact ⟨other, Or.inr hother, hpath⟩

theorem Precedes.path_lt {name : String} {rest : Folder} (h : Precedes name rest) {f : File}
    (hf : f ∈ rest.files) (way : List String) : name :: way < f.path := by
  obtain ⟨other, hother, back, hpath⟩ := path_of_mem hf
  rw [hpath, List.cons_lt_cons_iff]
  exact Or.inl ((Text.bytes_lt_iff name other).1 (h other hother))

theorem Ordered.files_ascending {tree : Folder} (h : tree.Ordered) :
    tree.files.Pairwise fun f g => f.path < g.path := by
  induction tree with
  | empty => exact List.Pairwise.nil
  | file name text rest ih =>
    obtain ⟨hname, hrest⟩ := h
    exact List.pairwise_cons.2 ⟨fun g hg => hname.path_lt hg [], ih hrest⟩
  | folder name inside rest ihInside ih =>
    obtain ⟨hname, hinside, hrest⟩ := h
    refine List.pairwise_append.2 ⟨?_, ih hrest, ?_⟩
    · rw [List.pairwise_map]
      exact (ihInside hinside).imp fun hlt => List.cons_lt_cons_iff.2 (Or.inr ⟨rfl, hlt⟩)
    · intro f hf g hg
      obtain ⟨g', -, rfl⟩ := List.mem_map.1 hf
      exact hname.path_lt hg g'.path

theorem Ordered.eq_of_path {tree : Folder} (h : tree.Ordered) {f g : File} (hf : f ∈ tree.files)
    (hg : g ∈ tree.files) (hpath : f.path = g.path) : f = g := by
  have hnodup : (tree.files.map File.path).Nodup := by
    rw [List.Nodup, List.pairwise_map]
    exact h.files_ascending.imp fun hlt => ne_of_lt hlt
  exact List.inj_on_of_nodup_map hnodup hf hg hpath

/-! ### The order of visits -/

variable {tree : Folder} {listing : List File}

theorem visitedBy_iff (f g : File) : f.visitedBy g = true ↔ f.path ≤ g.path := by
  simp [File.visitedBy]

/-- However the files of a tree are listed, they are visited depth first. -/
theorem Ordered.visitOrder_eq (h : tree.Ordered) (hlisting : listing.Perm tree.files) :
    File.visitOrder listing = tree.files := by
  have htrans : ∀ f g k : File, f.visitedBy g = true → g.visitedBy k = true →
      f.visitedBy k = true := by
    simp only [visitedBy_iff]
    exact fun f g k => le_trans
  have htotal : ∀ f g : File, (f.visitedBy g || g.visitedBy f) = true := by
    simp only [Bool.or_eq_true, visitedBy_iff]
    exact fun f g => le_total f.path g.path
  have hsorted := List.pairwise_mergeSort htrans htotal listing
  have hascending : tree.files.Pairwise fun f g => f.visitedBy g = true :=
    h.files_ascending.imp fun hlt => (visitedBy_iff _ _).2 (le_of_lt hlt)
  have hperm := (List.mergeSort_perm listing File.visitedBy).trans hlisting
  refine List.Perm.eq_of_pairwise ?_ hsorted hascending hperm
  intro f g hf hg hfg hgf
  rw [visitedBy_iff] at hfg hgf
  exact h.eq_of_path (hperm.mem_iff.1 hf) hg (le_antisymm hfg hgf)

theorem Ordered.find?_path (h : tree.Ordered) (hlisting : listing.Perm tree.files) {f : File}
    (hf : f ∈ tree.files) : listing.find? (·.path = f.path) = some f := by
  cases hfound : listing.find? (·.path = f.path) with
  | none =>
    have hmissing := List.find?_eq_none.1 hfound f (hlisting.mem_iff.2 hf)
    simp at hmissing
  | some g =>
    have hg := hlisting.mem_iff.1 (List.mem_of_find?_eq_some hfound)
    have hpath : g.path = f.path := by simpa using List.find?_some hfound
    rw [h.eq_of_path hg hf hpath]

end Folder

end Adventure

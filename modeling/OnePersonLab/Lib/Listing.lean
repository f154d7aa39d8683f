import Mathlib.Data.List.Sort
import Mathlib.Order.Basic

/-!
# Sorted listings

The entries of a directory, listed in the order of a key, and a cursor that names one of
them. What follows the cursor is what sorts after it.
-/

namespace OnePersonLab.Lib

section

variable {Entry Key : Type*} [LinearOrder Key] (key : Entry → Key)

def listing (directory : List Entry) : List Entry :=
  directory.insertionSort fun left right => key left ≤ key right

variable {key}

theorem listing_perm (directory : List Entry) : (listing key directory).Perm directory :=
  List.perm_insertionSort _ _

@[simp]
theorem mem_listing {directory : List Entry} {entry : Entry} :
    entry ∈ listing key directory ↔ entry ∈ directory :=
  (listing_perm directory).mem_iff

@[simp]
theorem listing_nil : listing key [] = [] := rfl

/-- Entries with keys of their own are listed in strictly increasing order. -/
theorem listing_increasing {directory : List Entry} (once : directory.Nodup)
    (distinct : ∀ left ∈ directory, ∀ right ∈ directory, key left = key right → left = right) :
    (listing key directory).Pairwise fun left right => key left < key right := by
  have ordered : (listing key directory).Pairwise fun left right => key left ≤ key right :=
    haveI : Std.Total fun left right : Entry => key left ≤ key right :=
      ⟨fun left right => le_total (key left) (key right)⟩
    haveI : IsTrans Entry fun left right => key left ≤ key right :=
      ⟨fun _ _ _ => le_trans⟩
    List.pairwise_insertionSort _ directory
  have apart : (listing key directory).Pairwise (· ≠ ·) :=
    (listing_perm directory).nodup_iff.2 once
  apply (ordered.and apart).imp_of_mem
  intro left right leftMember rightMember both
  apply lt_of_le_of_ne both.1
  intro same
  exact both.2 (distinct left (mem_listing.1 leftMember) right (mem_listing.1 rightMember) same)

/-- What follows an entry of an increasing list is what sorts after it. -/
theorem drop_eq_filter {entries : List Entry}
    (increasing : entries.Pairwise fun left right => key left < key right) {index : Nat}
    {cursor : Entry} (found : entries[index]? = some cursor) :
    entries.drop (index + 1) = entries.filter fun entry => key cursor < key entry := by
  induction entries generalizing index with
  | nil => simp at found
  | cons first rest ih =>
    rw [List.pairwise_cons] at increasing
    obtain ⟨least, increasing⟩ := increasing
    cases index with
    | zero =>
      obtain rfl : first = cursor := by simpa using found
      have all : rest.filter (fun entry => key first < key entry) = rest :=
        List.filter_eq_self.2 fun entry member => by simpa using least entry member
      simp [all]
    | succ index =>
      have found : rest[index]? = some cursor := by simpa using found
      have later : key first < key cursor := least cursor (List.mem_of_getElem? found)
      rw [List.drop_succ_cons, ih increasing found, List.filter_cons_of_neg]
      simpa using later.le

/-- The last entry of an increasing list is the greatest. -/
theorem le_getLast {entries : List Entry}
    (increasing : entries.Pairwise fun left right => key left < key right) {last : Entry}
    (ends : entries.getLast? = some last) {entry : Entry} (member : entry ∈ entries) :
    key entry ≤ key last := by
  obtain ⟨before, rfl⟩ := List.getLast?_eq_some_iff.1 ends
  rw [List.pairwise_append] at increasing
  rcases List.mem_append.1 member with earlier | same
  · exact (increasing.2.2 entry earlier last (by simp)).le
  · obtain rfl : entry = last := by simpa using same
    exact le_rfl

end

end OnePersonLab.Lib

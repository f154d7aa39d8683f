import Mathlib.Data.List.Basic

/-!
# Lists without repetition

`eraseDups` keeps the first occurrence of each element. Adding to such a list what it has
already changes nothing.
-/

namespace OnePersonLab.Lib

universe u

variable {α : Type u} [BEq α] [LawfulBEq α]

theorem eraseDups_eraseDups (list : List α) : list.eraseDups.eraseDups = list.eraseDups := by
  induction length : list.length using Nat.strongRecOn generalizing list with
  | ind bound inductionHypothesis =>
    cases list with
    | nil => rfl
    | cons first rest =>
      have shorter : (rest.filter fun other => !other == first).length < bound := by
        rw [← length, List.length_cons]
        exact Nat.lt_succ_of_le (List.length_filter_le _ _)
      have fixed := inductionHypothesis _ shorter _ rfl
      have without : (rest.filter fun other => !other == first).eraseDups.filter
          (fun other => !other == first) = (rest.filter fun other => !other == first).eraseDups := by
        rw [List.filter_eq_self]
        intro other present
        rw [List.mem_eraseDups] at present
        exact (List.mem_filter.1 present).2
      rw [List.eraseDups_cons, List.eraseDups_cons, without, fixed]

theorem nodup_eraseDups (list : List α) : list.eraseDups.Nodup := by
  induction length : list.length using Nat.strongRecOn generalizing list with
  | ind bound inductionHypothesis =>
    cases list with
    | nil => exact List.nodup_nil
    | cons first rest =>
      have shorter : (rest.filter fun other => !other == first).length < bound := by
        rw [← length, List.length_cons]
        exact Nat.lt_succ_of_le (List.length_filter_le _ _)
      rw [List.eraseDups_cons, List.nodup_cons, List.mem_eraseDups, List.mem_filter]
      refine ⟨?_, inductionHypothesis _ shorter _ rfl⟩
      rintro ⟨_, apart⟩
      simp at apart

theorem eraseDups_cons_self (first : α) (rest : List α) :
    (first :: first :: rest).eraseDups = (first :: rest).eraseDups := by
  rw [List.eraseDups_cons, List.eraseDups_cons, List.filter_cons_of_neg]
  simp

theorem eraseDups_cons_of_not_mem {first : α} {rest : List α} (new : first ∉ rest) :
    (first :: rest).eraseDups = first :: rest.eraseDups := by
  have kept : (rest.filter fun other => !other == first) = rest := by
    rw [List.filter_eq_self]
    intro other listed
    have apart : other ≠ first := by
      rintro rfl
      exact new listed
    simpa using apart
  rw [List.eraseDups_cons, kept]

theorem eraseDups_of_nodup {list : List α} (distinct : list.Nodup) : list.eraseDups = list := by
  induction list with
  | nil => rfl
  | cons first rest ih =>
    rw [List.nodup_cons] at distinct
    rw [eraseDups_cons_of_not_mem distinct.1, ih distinct.2]

omit [LawfulBEq α] in
theorem eraseDups_sublist (list : List α) : list.eraseDups.Sublist list := by
  induction length : list.length using Nat.strongRecOn generalizing list with
  | ind bound inductionHypothesis =>
    cases list with
    | nil => exact List.Sublist.refl _
    | cons first rest =>
      have shorter : (rest.filter fun other => !other == first).length < bound := by
        rw [← length, List.length_cons]
        exact Nat.lt_succ_of_le (List.length_filter_le _ _)
      rw [List.eraseDups_cons]
      exact ((inductionHypothesis _ shorter _ rfl).trans List.filter_sublist).cons_cons first

theorem eraseDups_append_of_subset {list added : List α} (known : added ⊆ list) :
    (list.eraseDups ++ added).eraseDups = list.eraseDups := by
  have nothing : added.removeAll list.eraseDups = [] := by
    rw [List.removeAll, List.filter_eq_nil_iff]
    intro element present
    simpa using known present
  rw [List.eraseDups_append, nothing, List.eraseDups_nil, List.append_nil, eraseDups_eraseDups]

/-- Elements that stood before add nothing where they come again. -/
theorem eraseDups_append_again {list added : List α} (known : added ⊆ list) (rest : List α) :
    (list ++ (added ++ rest)).eraseDups = (list ++ rest).eraseDups := by
  rw [← List.append_assoc, List.eraseDups_append, List.eraseDups_append]
  have nothing : added.removeAll list = [] := by
    rw [List.removeAll, List.filter_eq_nil_iff]
    intro element present
    simpa using known present
  have same : ∀ element, element ∈ list ++ added ↔ element ∈ list := by
    intro element
    rw [List.mem_append]
    exact or_iff_left_of_imp fun present => known present
  have removed : rest.removeAll (list ++ added) = rest.removeAll list := by
    refine List.filter_congr fun element _ => ?_
    rw [Bool.eq_iff_iff]
    simp [same element]
  rw [List.eraseDups_append, nothing, List.eraseDups_nil, List.append_nil, removed]

end OnePersonLab.Lib

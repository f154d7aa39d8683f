import Mathlib.Data.List.Nodup
import Mathlib.Data.List.Perm.Basic

/-!
# Entries looked up by name

Lists whose entries carry a name. A list covers a list of names when the names
of its entries are exactly those, each once. What covers more names covers fewer
of them after a restriction, and the restriction does not change a lookup.
-/

namespace OnePersonLab.Lib

universe u v
variable {α : Type u} {ν : Type v} [DecidableEq ν] {name : α → ν}

/-- The first entry of a name. -/
def lookupNamed (name : α → ν) (entries : List α) (wanted : ν) : Option α :=
  entries.find? fun entry => name entry == wanted

section

variable {entries : List α}

theorem lookupNamed_sound {wanted : ν} {entry : α}
    (found : lookupNamed name entries wanted = some entry) :
    entry ∈ entries ∧ name entry = wanted := by
  refine ⟨List.mem_of_find?_eq_some found, ?_⟩
  simpa using List.find?_some found

theorem lookupNamed_of_nodup {entry : α} (distinct : (entries.map name).Nodup)
    (listed : entry ∈ entries) : lookupNamed name entries (name entry) = some entry := by
  unfold lookupNamed
  induction entries with
  | nil => simp at listed
  | cons first rest ih =>
    simp only [List.map_cons, List.nodup_cons, List.mem_map, not_exists, not_and] at distinct
    rcases List.mem_cons.1 listed with rfl | later
    · simp
    · have differs : name first ≠ name entry := fun same => distinct.1 entry later same.symm
      simpa [differs] using ih distinct.2 later

/-- Entries of one name are one entry. -/
theorem eq_of_nodup_names {left right : α} (distinct : (entries.map name).Nodup)
    (leftListed : left ∈ entries) (rightListed : right ∈ entries) (same : name left = name right) :
    left = right := by
  have first := lookupNamed_of_nodup distinct leftListed
  rw [same, lookupNamed_of_nodup distinct rightListed] at first
  exact (Option.some.inj first).symm

end

omit [DecidableEq ν] in
/-- One turn of a loop that remembers the names it has seen. -/
theorem distinct_unseen_cons {seen : List ν} {entry : α} {rest : List α} {valid : α → Prop} :
    ((name entry ∉ seen ∧ valid entry) ∧ (rest.map name).Nodup ∧
        ∀ other ∈ rest, name other ∉ name entry :: seen ∧ valid other) ↔
      ((entry :: rest).map name).Nodup ∧
        ∀ other ∈ entry :: rest, name other ∉ seen ∧ valid other := by
  rw [List.forall_mem_cons, List.map_cons, List.nodup_cons]
  constructor
  · rintro ⟨first, distinct, others⟩
    refine ⟨⟨?_, distinct⟩, first, fun other listed => ?_⟩
    · intro again
      obtain ⟨other, listed, same⟩ := List.mem_map.1 again
      exact (others other listed).1 (by simp [same])
    · exact ⟨fun known => (others other listed).1 (List.mem_cons_of_mem _ known),
        (others other listed).2⟩
  · rintro ⟨⟨alone, distinct⟩, first, others⟩
    refine ⟨first, distinct, fun other listed => ⟨?_, (others other listed).2⟩⟩
    rintro known
    rcases List.mem_cons.1 known with same | earlier
    · exact alone (same ▸ List.mem_map_of_mem listed)
    · exact (others other listed).1 earlier

/-- The names of the entries are the given ones, each once. -/
def Covers (name : α → ν) (entries : List α) (names : List ν) : Prop :=
  (entries.map name).Perm names

omit [DecidableEq ν] in
theorem covers_of_length {entries : List α} {names : List ν}
    (distinct : (entries.map name).Nodup) (known : ∀ entry ∈ entries, name entry ∈ names)
    (length : entries.length = names.length) : Covers name entries names := by
  refine (List.subperm_of_subset distinct ?_).perm_of_length_le (by simp [length])
  intro wanted listed
  obtain ⟨entry, found, rfl⟩ := List.mem_map.1 listed
  exact known entry found

omit [DecidableEq ν] in
theorem Covers.length_eq {entries : List α} {names : List ν} (covers : Covers name entries names) :
    entries.length = names.length := by
  simpa using List.Perm.length_eq covers

omit [DecidableEq ν] in

def restrictTo (name : α → ν) (entries : List α) (names : List ν) : List α :=
  entries.filter fun entry => decide (name entry ∈ names)

variable {entries : List α} {names : List ν}

@[simp] theorem mem_restrictTo {entry : α} :
    entry ∈ restrictTo name entries names ↔ entry ∈ entries ∧ name entry ∈ names := by
  simp [restrictTo]

theorem lookupNamed_restrictTo {wanted : ν} (listed : wanted ∈ names) :
    lookupNamed name (restrictTo name entries names) wanted = lookupNamed name entries wanted := by
  simp only [lookupNamed, restrictTo, List.find?_filter]
  congr 1
  funext entry
  by_cases same : name entry = wanted
  · simp [same, listed]
  · simp [same]

theorem Covers.restrictTo {fewer : List ν} (covers : Covers name entries names)
    (distinct : names.Nodup) (fewerDistinct : fewer.Nodup) (included : fewer ⊆ names) :
    Covers name (restrictTo name entries fewer) fewer := by
  have kept : (names.filter fun wanted => decide (wanted ∈ fewer)).Perm fewer := by
    refine (List.perm_ext_iff_of_nodup (distinct.filter _) fewerDistinct).2 fun wanted => ?_
    simp only [List.mem_filter, decide_eq_true_eq, and_iff_right_iff_imp]
    exact fun listed => included listed
  have renamed : (Lib.restrictTo name entries fewer).map name =
      (entries.map name).filter fun wanted => decide (wanted ∈ fewer) := by
    rw [Lib.restrictTo, List.filter_map]
    rfl
  rw [Covers, renamed]
  exact (List.Perm.filter _ covers).trans kept

end OnePersonLab.Lib

import Mathlib.Data.List.Sort
import Mathlib.Data.List.TakeWhile
import OnePersonLab.Lib.FirstOccurrences

/-!
# Stable sorting by a key that may tie

The keys are ordered by a total preorder. What a reader finds first in the sorted list is a
least row of those it looks for, and which one of them it is depends on the order in which the
rows stood.
-/

namespace OnePersonLab.Lib

structure TotalPreorder {κ : Type} (before : κ → κ → Bool) : Prop where
  total : ∀ left right, before left right = true ∨ before right left = true
  trans : ∀ left mid right,
    before left mid = true → before mid right = true → before left right = true

namespace TotalPreorder

variable {κ : Type} {before : κ → κ → Bool}

theorem refl (order : TotalPreorder before) (key : κ) : before key key = true := by
  cases order.total key key with
  | inl holds => exact holds
  | inr holds => exact holds

end TotalPreorder

section

variable {α κ : Type} (before : κ → κ → Bool) (key : α → κ)

/-- The rows in the order of their keys; rows whose keys tie keep their order. -/
def stableSort (rows : List α) : List α :=
  rows.insertionSort fun row other => before (key row) (key other) = true

/-- The rows that tie: neither key comes after the other. -/
def Ties (row other : α) : Prop :=
  before (key row) (key other) = true ∧ before (key other) (key row) = true

/-- A row that is looked for and comes after no other of them. -/
structure Least (wanted : α → Bool) (rows : List α) (row : α) : Prop where
  listed : row ∈ rows
  holds : wanted row = true
  first : ∀ other ∈ rows, wanted other = true → before (key row) (key other) = true

end

section

variable {α κ : Type} {before : κ → κ → Bool} {key : α → κ}

variable {rows others : List α} {row : α} {wanted : α → Bool}

@[simp] theorem stableSort_nil : stableSort before key ([] : List α) = [] := rfl

@[simp] theorem mem_stableSort : row ∈ stableSort before key rows ↔ row ∈ rows :=
  List.mem_insertionSort _

theorem stableSort_perm (rows : List α) : (stableSort before key rows).Perm rows :=
  List.perm_insertionSort _ rows

theorem stableSort_pairwise (order : TotalPreorder before) (rows : List α) :
    (stableSort before key rows).Pairwise fun row other =>
      before (key row) (key other) = true := by
  have total : Std.Total fun row other : α => before (key row) (key other) = true :=
    ⟨fun row other => order.total (key row) (key other)⟩
  have trans : IsTrans α fun row other : α => before (key row) (key other) = true :=
    ⟨fun row mid other => order.trans (key row) (key mid) (key other)⟩
  exact List.pairwise_insertionSort _ rows

/-! ## What is found first -/

theorem find?_stableSort_least (order : TotalPreorder before)
    (found : (stableSort before key rows).find? wanted = some row) :
    Least before key wanted rows row := by
  obtain ⟨holds, front, rest, parts, refused⟩ := List.find?_eq_some_iff_append.1 found
  have sorted : (stableSort before key rows).Pairwise fun row other =>
      before (key row) (key other) = true := stableSort_pairwise order rows
  rw [parts, List.pairwise_append, List.pairwise_cons] at sorted
  constructor
  · exact mem_stableSort.1 (List.mem_of_find?_eq_some found)
  · exact holds
  · intro other listed wantedOther
    have placed : other ∈ front ++ row :: rest := parts ▸ mem_stableSort.2 listed
    rw [List.mem_append, List.mem_cons] at placed
    obtain inFront | rfl | inRest := placed
    · have refusedOther := refused other inFront
      rw [wantedOther] at refusedOther
      cases refusedOther
    · exact order.refl (key other)
    · exact sorted.2.1.1 other inRest

theorem find?_stableSort_eq_none :
    (stableSort before key rows).find? wanted = none ↔ ∀ row ∈ rows, wanted row = false := by
  simp only [List.find?_eq_none, mem_stableSort, Bool.not_eq_true]

/-- A least row that stands before the others is the one that is found. -/
theorem find?_stableSort_first (least : Least before key wanted (row :: rows) row) :
    (stableSort before key (row :: rows)).find? wanted = some row := by
  have placed := List.orderedInsert_eq_take_drop
    (fun row other => before (key row) (key other) = true) row (stableSort before key rows)
  rw [stableSort, List.insertionSort_cons]
  refine (congrArg _ placed).trans ?_
  rw [List.find?_append, List.find?_cons, least.holds]
  have none : ((stableSort before key rows).takeWhile fun other =>
      ¬before (key row) (key other) = true).find? wanted = none := by
    rw [List.find?_eq_none]
    intro other taken wantedOther
    have later := List.mem_takeWhile_imp taken
    have listed := mem_stableSort.1 ((List.takeWhile_prefix _).subset taken)
    have first := least.first other (List.mem_cons_of_mem _ listed) wantedOther
    simp [first] at later
  rw [none, Option.none_or]

/-! ## Independence of the order -/

theorem Least.of_perm (same : rows.Perm others) (least : Least before key wanted rows row) :
    Least before key wanted others row where
  listed := same.mem_iff.1 least.listed
  holds := least.holds
  first other listed := least.first other (same.mem_iff.2 listed)

/-- Where rows that tie are one row, the sorted list depends on the rows alone. -/
theorem stableSort_eq_of_perm (order : TotalPreorder before) (same : rows.Perm others)
    (untied : ∀ row ∈ rows, ∀ other ∈ rows, Ties before key row other → row = other) :
    stableSort before key rows = stableSort before key others := by
  have perm : (stableSort before key rows).Perm (stableSort before key others) :=
    (stableSort_perm rows).trans (same.trans (stableSort_perm others).symm)
  refine List.Perm.eq_of_pairwise ?_ (stableSort_pairwise order rows)
    (stableSort_pairwise order others) perm
  intro row other listed listed' first second
  refine untied row (mem_stableSort.1 listed) other ?_ ⟨first, second⟩
  exact same.mem_iff.2 (mem_stableSort.1 listed')

theorem exists_perm_first (listed : row ∈ rows) : ∃ rest, rows.Perm (row :: rest) := by
  obtain ⟨front, rest, rfl⟩ := List.append_of_mem listed
  exact ⟨front ++ rest, List.perm_middle⟩

/-- Where the sorted list depends on the rows alone, rows that tie are one row. -/
theorem eq_of_ties (order : TotalPreorder before)
    (fixed : ∀ others, rows.Perm others →
      stableSort before key others = stableSort before key rows) {other : α} (listed : row ∈ rows)
    (listed' : other ∈ rows) (tie : Ties before key row other) : row = other := by
  -- whichever row of a class stands first is the first of its class in the sorted list
  let wanted : α → Bool := fun third =>
    before (key third) (key row) && before (key row) (key third)
  have found : ∀ first ∈ rows, Ties before key row first →
      (stableSort before key rows).find? wanted = some first := by
    intro first listedFirst tied
    obtain ⟨rest, same⟩ := exists_perm_first listedFirst
    have least : Least before key wanted rows first := by
      refine ⟨listedFirst, Bool.and_eq_true_iff.2 ⟨tied.2, tied.1⟩, ?_⟩
      intro third _ wantedThird
      exact order.trans _ (key row) _ tied.2 (Bool.and_eq_true_iff.1 wantedThird).2
    rw [← fixed _ same]
    exact find?_stableSort_first (least.of_perm same)
  have byRow := found row listed ⟨order.refl (key row), order.refl (key row)⟩
  have byOther := found other listed' tie
  rw [byRow] at byOther
  exact Option.some.inj byOther

/-- Rows in front are inserted one after another. -/
theorem stableSort_append_congr (same : stableSort before key rows = stableSort before key others)
    (front : List α) :
    stableSort before key (front ++ rows) = stableSort before key (front ++ others) := by
  induction front with
  | nil => exact same
  | cons row front ih =>
    exact congrArg (List.orderedInsert
      (fun row other => before (key row) (key other) = true) row) ih

/-- Rows are sorted by what their images are sorted by. -/
theorem map_stableSort {β : Type} (f : β → α) (rows : List β) :
    (stableSort before (fun row => key (f row)) rows).map f =
      stableSort before key (rows.map f) :=
  List.map_insertionSort _ _ f rows fun _ _ _ _ => Iff.rfl

/-! ## Leaving rows out -/

theorem filter_orderedInsert {p : α → Bool} (order : TotalPreorder before) (row : α) :
    ∀ {rows : List α}, (rows.Pairwise fun row other => before (key row) (key other) = true) →
      (rows.orderedInsert (fun row other => before (key row) (key other) = true) row).filter p =
        if p row then (rows.filter p).orderedInsert
          (fun row other => before (key row) (key other) = true) row
        else rows.filter p := by
  intro rows sorted
  have placed : ∀ {others : List α}, (∀ other ∈ others, before (key row) (key other) = true) →
      others.orderedInsert (fun row other => before (key row) (key other) = true) row =
        row :: others := by
    intro others least
    cases others with
    | nil => rfl
    | cons other rest => exact if_pos (least other List.mem_cons_self)
  induction rows with
  | nil => cases kept : p row <;> simp [kept]
  | cons other rest ih =>
    obtain ⟨first, sortedRest⟩ := List.pairwise_cons.1 sorted
    by_cases here : before (key row) (key other) = true
    · have least : ∀ third ∈ other :: rest, before (key row) (key third) = true := by
        intro third listed
        obtain rfl | later := List.mem_cons.1 listed
        · exact here
        · exact order.trans _ _ _ here (first third later)
      rw [placed least, List.filter_cons]
      split_ifs with kept
      · exact (placed fun third listed => least third (List.mem_of_mem_filter listed)).symm
      · rfl
    · rw [List.orderedInsert, if_neg here, List.filter_cons, List.filter_cons, ih sortedRest]
      by_cases kept : p row = true
      · by_cases keptOther : p other = true
        · simp only [kept, keptOther, if_true, List.orderedInsert, here]
          rfl
        · simp only [kept, keptOther, if_true]
          rfl
      · simp only [kept]
        rfl

theorem filter_stableSort (order : TotalPreorder before) (p : α → Bool) (rows : List α) :
    (stableSort before key rows).filter p = stableSort before key (rows.filter p) := by
  induction rows with
  | nil => rfl
  | cons row rest ih =>
    have sorted : (stableSort before key rest).Pairwise fun row other =>
        before (key row) (key other) = true := stableSort_pairwise order rest
    have inserted : stableSort before key (row :: rest) = (stableSort before key rest).orderedInsert
        (fun row other => before (key row) (key other) = true) row := rfl
    rw [inserted, filter_orderedInsert order row sorted, ih, List.filter_cons]
    split_ifs
    · rfl
    · rfl

end

/-! ## Ordering by two keys -/

section

variable {κ ι : Type} {before : κ → κ → Bool} {beforeIn : ι → ι → Bool}

/-- By the first key, and where it ties by the second. -/
def lexBefore (before : κ → κ → Bool) (beforeIn : ι → ι → Bool) (left right : κ × ι) : Bool :=
  before left.1 right.1 && (!before right.1 left.1 || beforeIn left.2 right.2)

theorem lexBefore_order (order : TotalPreorder before) (orderIn : TotalPreorder beforeIn) :
    TotalPreorder (lexBefore before beforeIn) where
  total left right := by
    simp only [lexBefore, Bool.and_eq_true, Bool.or_eq_true, Bool.not_eq_true']
    cases first : before left.1 right.1 with
    | false =>
      have other := (order.total left.1 right.1).resolve_left (by rw [first]; exact Bool.false_ne_true)
      exact .inr ⟨other, .inl rfl⟩
    | true =>
      cases back : before right.1 left.1 with
      | false => exact .inl ⟨rfl, .inl rfl⟩
      | true =>
        obtain second | second := orderIn.total left.2 right.2
        · exact .inl ⟨rfl, .inr second⟩
        · exact .inr ⟨rfl, .inr second⟩
  trans left mid right := by
    simp only [lexBefore, Bool.and_eq_true, Bool.or_eq_true, Bool.not_eq_true']
    rintro ⟨first, strict | second⟩ ⟨first', strict' | second'⟩
    all_goals refine ⟨order.trans _ _ _ first first', ?_⟩
    · left
      by_contra back
      rw [Bool.not_eq_false] at back
      rw [order.trans _ _ _ first' back] at strict
      cases strict
    · left
      by_contra back
      rw [Bool.not_eq_false] at back
      rw [order.trans _ _ _ first' back] at strict
      cases strict
    · left
      by_contra back
      rw [Bool.not_eq_false] at back
      rw [order.trans _ _ _ back first] at strict'
      cases strict'
    · exact .inr (orderIn.trans _ _ _ second second')

theorem lexBefore_antisymm (antisymm : ∀ left right : κ,
      before left right = true → before right left = true → left = right)
    (antisymmIn : ∀ left right : ι,
      beforeIn left right = true → beforeIn right left = true → left = right)
    (left right : κ × ι) (forward : lexBefore before beforeIn left right = true)
    (backward : lexBefore before beforeIn right left = true) : left = right := by
  simp only [lexBefore, Bool.and_eq_true, Bool.or_eq_true, Bool.not_eq_true'] at forward backward
  obtain ⟨first, strict | second⟩ := forward
  · rw [backward.1] at strict
    cases strict
  · obtain ⟨first', strict' | second'⟩ := backward
    · rw [first] at strict'
      cases strict'
    · exact Prod.ext (antisymm _ _ first first') (antisymmIn _ _ second second')

end

/-! ## Rows that come more than once -/

section

variable {α β : Type} [BEq α] [LawfulBEq α] {before : α → α → Bool} {rows others : List α}

/-- In a sorted list the repetitions of a row stand together, so what does not see a row
twice in succession does not see any repetition. -/
theorem eq_eraseDups_of_sorted {g : List α → β}
    (absorbs : ∀ front row back, g (front ++ row :: row :: back) = g (front ++ row :: back))
    (antisymm : ∀ row ∈ rows, ∀ other ∈ rows,
      before row other = true → before other row = true → row = other)
    (sorted : rows.Pairwise fun row other => before row other = true) (front : List α) :
    g (front ++ rows) = g (front ++ rows.eraseDups) := by
  induction rows generalizing front with
  | nil => rfl
  | cons row rest ih =>
    obtain ⟨first, sortedRest⟩ := List.pairwise_cons.1 sorted
    have restAntisymm : ∀ other ∈ rest, ∀ third ∈ rest,
        before other third = true → before third other = true → other = third :=
      fun other listed third listed' =>
        antisymm other (List.mem_cons_of_mem _ listed) third (List.mem_cons_of_mem _ listed')
    by_cases again : row ∈ rest
    · cases rest with
      | nil => cases again
      | cons next rest =>
        -- whatever stands between two places of a row ties with it
        have same : row = next := by
          obtain equal | later := List.mem_cons.1 again
          · exact equal
          · exact antisymm row List.mem_cons_self next (List.mem_cons_of_mem _ List.mem_cons_self)
              (first next List.mem_cons_self) ((List.pairwise_cons.1 sortedRest).1 row later)
        subst same
        rw [absorbs, eraseDups_cons_self]
        exact ih restAntisymm sortedRest front
    · rw [eraseDups_cons_of_not_mem again]
      have moved := ih restAntisymm sortedRest (front ++ [row])
      rwa [List.append_assoc, List.append_assoc, List.singleton_append,
        List.singleton_append] at moved

/-- Sorted lists with the same rows have the same rows in the same order. -/
theorem eraseDups_eq_of_sorted (same : ∀ row, row ∈ rows ↔ row ∈ others)
    (antisymm : ∀ row ∈ rows, ∀ other ∈ rows,
      before row other = true → before other row = true → row = other)
    (sorted : rows.Pairwise fun row other => before row other = true)
    (sorted' : others.Pairwise fun row other => before row other = true) :
    rows.eraseDups = others.eraseDups := by
  have perm : rows.eraseDups.Perm others.eraseDups := by
    rw [List.perm_ext_iff_of_nodup (nodup_eraseDups rows) (nodup_eraseDups others)]
    intro row
    rw [List.mem_eraseDups, List.mem_eraseDups, same]
  refine List.Perm.eq_of_pairwise ?_ (sorted.sublist (eraseDups_sublist rows))
    (sorted'.sublist (eraseDups_sublist others)) perm
  intro row other listed listed'
  exact antisymm row (List.mem_eraseDups.1 listed) other
    ((same other).2 (List.mem_eraseDups.1 listed'))

end

end OnePersonLab.Lib

import Mathlib.Data.List.Nodup
import Mathlib.Data.List.Sort

/-!
# Dictionary order and sorting by a key

A strict order on letters gives one on words, and again on lists of words. Rows with
distinct keys have one sorted order, whatever order they come in.
-/

namespace OnePersonLab.Lib

/-- A decidable strict order in which any two values are connected. -/
structure StrictOrder {α : Type} (lt : α → α → Bool) : Prop where
  irrefl : ∀ a, lt a a = false
  trans : ∀ {a b c}, lt a b = true → lt b c = true → lt a c = true
  connected : ∀ {a b}, a ≠ b → lt a b = true ∨ lt b a = true

namespace StrictOrder

variable {α : Type} {lt : α → α → Bool} (order : StrictOrder lt)

include order

variable {a b : α}

theorem asymm (before : lt a b = true) : lt b a = false := by
  cases after : lt b a with
  | false => rfl
  | true => exact absurd (order.trans before after) (by rw [order.irrefl]; exact Bool.false_ne_true)

theorem ne (before : lt a b = true) : a ≠ b := by
  rintro rfl
  rw [order.irrefl] at before
  cases before

/-- Not being after is a linear order. -/
theorem eq_of_not_after (first : lt b a = false) (second : lt a b = false) : a = b := by
  by_contra apart
  rcases order.connected apart with before | before
  · rw [second] at before
    cases before
  · rw [first] at before
    cases before

theorem before_of_not_after (apart : a ≠ b) (first : lt b a = false) : lt a b = true := by
  rcases order.connected apart with before | before
  · exact before
  · rw [first] at before
    cases before

theorem not_after_trans {c : α} (first : lt b a = false) (second : lt c b = false) :
    lt c a = false := by
  cases after : lt c a with
  | false => rfl
  | true =>
    by_cases same : a = b
    · rw [same] at after
      rw [after] at second
      cases second
    · rw [order.trans after (order.before_of_not_after same first)] at second
      cases second

end StrictOrder

/-! ## Words -/

section

variable {α : Type} [DecidableEq α]

/-- One word stands before another in a dictionary. -/
def dictionary (lt : α → α → Bool) : List α → List α → Bool
  | _, [] => false
  | [], _ :: _ => true
  | a :: as, b :: bs => lt a b || (a = b && dictionary lt as bs)

theorem dictionary_cons {lt : α → α → Bool} {a b : α} {as bs : List α} :
    dictionary lt (a :: as) (b :: bs) = true ↔
      lt a b = true ∨ a = b ∧ dictionary lt as bs = true := by
  simp [dictionary]

theorem StrictOrder.dictionary {lt : α → α → Bool} (order : StrictOrder lt) :
    StrictOrder (Lib.dictionary lt) where
  irrefl := by
    intro as
    induction as with
    | nil => rfl
    | cons a as ih => simp [Lib.dictionary, order.irrefl, ih]
  trans := by
    intro as bs cs first second
    induction as generalizing bs cs with
    | nil =>
      cases cs with
      | nil => cases bs <;> cases second
      | cons c cs => rfl
    | cons a as ih =>
      cases bs with
      | nil => cases first
      | cons b bs =>
        cases cs with
        | nil => cases second
        | cons c cs =>
          rw [dictionary_cons] at first second ⊢
          rcases first with before | ⟨rfl, rest⟩
          · rcases second with after | ⟨rfl, -⟩
            · exact .inl (order.trans before after)
            · exact .inl before
          · rcases second with after | ⟨rfl, rest'⟩
            · exact .inl after
            · exact .inr ⟨rfl, ih rest rest'⟩
  connected := by
    intro as bs apart
    induction as generalizing bs with
    | nil =>
      cases bs with
      | nil => exact absurd rfl apart
      | cons b bs => exact .inl rfl
    | cons a as ih =>
      cases bs with
      | nil => exact .inr rfl
      | cons b bs =>
        rw [dictionary_cons, dictionary_cons]
        by_cases same : a = b
        · subst same
          rcases ih (fun equal => apart (equal ▸ rfl)) with before | after
          · exact .inl (.inr ⟨rfl, before⟩)
          · exact .inr (.inr ⟨rfl, after⟩)
        · exact (order.connected same).imp .inl .inl

end

/-! ## Sorting -/

section

variable {α κ : Type} (lt : κ → κ → Bool) (key : α → κ)

/-- The rows in the order of their keys; rows of one key keep their order. -/
def sortOn (rows : List α) : List α :=
  rows.insertionSort fun row other => lt (key other) (key row) = false

variable {lt key}

variable {rows : List α}

@[simp] theorem mem_sortOn {row : α} : row ∈ sortOn lt key rows ↔ row ∈ rows :=
  List.mem_insertionSort _

theorem sortOn_perm (rows : List α) : (sortOn lt key rows).Perm rows :=
  List.perm_insertionSort _ rows

theorem sortOn_pairwise (order : StrictOrder lt) (rows : List α) :
    (sortOn lt key rows).Pairwise fun row other => lt (key other) (key row) = false := by
  have total : Std.Total fun row other : α => lt (key other) (key row) = false :=
    ⟨fun row other => by
      cases before : lt (key other) (key row) with
      | false => exact .inl rfl
      | true => exact .inr (order.asymm before)⟩
  have trans : IsTrans α fun row other : α => lt (key other) (key row) = false :=
    ⟨fun _ _ _ first second => order.not_after_trans first second⟩
  exact List.pairwise_insertionSort _ rows

/-- Rows with distinct keys come in strictly ascending order. -/
theorem sortOn_ascending (order : StrictOrder lt) (distinct : (rows.map key).Nodup) :
    (sortOn lt key rows).Pairwise fun row other => lt (key row) (key other) = true := by
  have apart : (sortOn lt key rows).Pairwise fun row other => key row ≠ key other :=
    List.pairwise_map.1 ((sortOn_perm rows).map key |>.nodup_iff.2 distinct)
  exact (apart.and (sortOn_pairwise order rows)).imp fun both =>
    order.before_of_not_after both.1 both.2

/-- Rows in strictly ascending order are determined by which they are. -/
theorem eq_of_ascending (order : StrictOrder lt) {others : List α}
    (ascending : rows.Pairwise fun row other => lt (key row) (key other) = true)
    (ascending' : others.Pairwise fun row other => lt (key row) (key other) = true)
    (same : ∀ row, row ∈ rows ↔ row ∈ others) : rows = others := by
  have antisymm : Std.Antisymm fun row other : α => lt (key row) (key other) = true :=
    ⟨fun row other before after => by
      rw [order.asymm before] at after
      cases after⟩
  have irrefl : Std.Irrefl fun row other : α => lt (key row) (key other) = true :=
    ⟨fun row before => by
      rw [order.irrefl] at before
      cases before⟩
  exact ascending.eq_of_mem_iff ascending' same

/-- A list is sorted and without repetitions exactly when it is strictly ascending. -/
theorem ascending_iff (order : StrictOrder lt) (keys : List κ) :
    keys = sortOn lt id keys ∧ keys.Nodup ↔ keys.Pairwise fun a b => lt a b = true := by
  constructor
  · rintro ⟨sorted, distinct⟩
    rw [sorted]
    exact sortOn_ascending order (by simpa using distinct)
  · intro ascending
    have distinct : keys.Nodup := ascending.imp order.ne
    refine ⟨?_, distinct⟩
    exact eq_of_ascending order (show keys.Pairwise fun a b => lt (id a) (id b) = true from ascending)
      (sortOn_ascending order (by simpa using distinct)) fun row => mem_sortOn.symm

/-- In an ascending list, what the keys say of any two rows is what their places say. -/
theorem ascending_rel (order : StrictOrder lt) {rel : α → α → Prop}
    (ascending : rows.Pairwise fun row other => lt (key row) (key other) = true) :
    rows.Pairwise rel ↔
      ∀ row ∈ rows, ∀ other ∈ rows, lt (key row) (key other) = true → rel row other := by
  induction rows with
  | nil => simp
  | cons first rest ih =>
    obtain ⟨least, later⟩ := List.pairwise_cons.1 ascending
    rw [List.pairwise_cons, ih later]
    constructor
    · rintro ⟨head, tail⟩ row listed other listed' before
      rcases List.mem_cons.1 listed with rfl | there <;>
        rcases List.mem_cons.1 listed' with rfl | there'
      · rw [order.irrefl] at before
        cases before
      · exact head other there'
      · rw [order.asymm (least row there)] at before
        cases before
      · exact tail row there other there' before
    · intro all
      exact ⟨fun other listed => all first (List.mem_cons_self ..) other
          (List.mem_cons_of_mem _ listed) (least other listed),
        fun row listed other listed' before => all row (List.mem_cons_of_mem _ listed) other
          (List.mem_cons_of_mem _ listed') before⟩

end

end OnePersonLab.Lib

import Mathlib.Order.MinMax
import Mathlib.Data.List.Basic

/-!
# Tables of graded tests

A change from `before` to `after` is graded by a table of tests: every test that
trips contributes its grade, and the grade of the change is the largest one.
When no test can be avoided by going through an intermediate value, the grade
obeys the triangle inequality and cannot be lowered by splitting a change.
-/

namespace OnePersonLab.Lib

universe u v
variable {α : Type u} {γ : Type v}

structure GradedTest (α : Type u) (γ : Type v) where
  trips : α → α → Bool
  grade : γ

namespace GradedTest

/-- A change that trips the test trips it in one of any two parts. -/
def Splits (test : GradedTest α γ) : Prop :=
  ∀ before middle after, test.trips before after = true →
    test.trips before middle = true ∨ test.trips middle after = true

/-- The test for a change of one projection. -/
def ofProjection {β : Type*} [DecidableEq β] (projection : α → β) (grade : γ) : GradedTest α γ :=
  ⟨fun before after => decide (projection before ≠ projection after), grade⟩

theorem splits_ofProjection {β : Type*} [DecidableEq β] (projection : α → β) (grade : γ) :
    (ofProjection projection grade).Splits := by
  intro before middle after changed
  simp only [ofProjection, decide_eq_true_eq] at changed ⊢
  by_cases first : projection before = projection middle
  · exact .inr (first ▸ changed)
  · exact .inl first

/-- The test against a transitive relation splits. -/
theorem splits_of_transitive {test : GradedTest α γ} (kept : α → α → Prop)
    (transitive : ∀ {before middle after}, kept before middle → kept middle after →
      kept before after)
    (characterised : ∀ before after, test.trips before after = true ↔ ¬ kept before after) :
    test.Splits := by
  intro before middle after changed
  simp only [characterised] at changed ⊢
  by_contra! both
  exact changed (transitive both.1 both.2)

end GradedTest

variable [LinearOrder γ]

/-- The largest of `start` and the grades of the tests that trip. -/
def gradeChange (start : γ) (tests : List (GradedTest α γ)) (before after : α) : γ :=
  (tests.filter fun test => test.trips before after).foldl (fun grade test => max grade test.grade)
    start

variable {tests : List (GradedTest α γ)} {start : γ}

theorem foldl_max_le {bound : γ} :
    tests.foldl (fun grade test => max grade test.grade) start ≤ bound ↔
      start ≤ bound ∧ ∀ test ∈ tests, test.grade ≤ bound := by
  induction tests generalizing start with
  | nil => simp
  | cons test rest ih => simp [ih, and_assoc]

theorem gradeChange_le {bound : γ} {before after : α} :
    gradeChange start tests before after ≤ bound ↔
      start ≤ bound ∧ ∀ test ∈ tests, test.trips before after = true → test.grade ≤ bound := by
  simp [gradeChange, foldl_max_le]

theorem grade_le_gradeChange {before after : α} {test : GradedTest α γ} (listed : test ∈ tests)
    (tripped : test.trips before after = true) :
    test.grade ≤ gradeChange start tests before after :=
  (gradeChange_le.1 le_rfl).2 test listed tripped

theorem gradeChange_triangle (splits : ∀ test ∈ tests, test.Splits ∨ test.grade ≤ start)
    (before middle after : α) :
    gradeChange start tests before after ≤
      max (gradeChange start tests before middle) (gradeChange start tests middle after) := by
  have started : start ≤ gradeChange start tests before middle := (gradeChange_le.1 le_rfl).1
  refine gradeChange_le.2 ⟨le_max_of_le_left started, fun test listed tripped => ?_⟩
  rcases splits test listed with split | idle
  · rcases split before middle after tripped with first | second
    · exact le_max_of_le_left (grade_le_gradeChange listed first)
    · exact le_max_of_le_right (grade_le_gradeChange listed second)
  · exact le_max_of_le_left (idle.trans started)

end OnePersonLab.Lib

import Mathlib.Data.List.Induction

/-!
# When a property holds throughout a run

A run takes one call after another. A property holds in every state of a run exactly if every
call meets a condition in the state it finds, whenever an invariant ties the two together: it
gives the property, a call that meets the condition keeps it, and after any other call the
property is gone.
-/

namespace OnePersonLab.Lib

universe u v

variable {State : Type u} {Call : Type v}

/-- Every call meets the condition in the state that the calls before it led to. -/
def MetThroughout (step : State → Call → State) (start : State) (condition : State → Call → Prop)
    (calls : List Call) : Prop :=
  ∀ before call, before ++ [call] <+: calls → condition (before.foldl step start) call

/-- The property holds in every state of the run. -/
def HoldsThroughout (step : State → Call → State) (start : State) (property : State → Prop)
    (calls : List Call) : Prop :=
  ∀ before, before <+: calls → property (before.foldl step start)

variable {step : State → Call → State} {start : State} {invariant property : State → Prop}
  {condition : State → Call → Prop} {calls : List Call}

theorem invariant_of_met (opening : invariant start)
    (keeps : ∀ state call, invariant state → condition state call → invariant (step state call))
    (met : MetThroughout step start condition calls) :
    invariant (calls.foldl step start) := by
  induction calls using List.reverseRecOn with
  | nil => exact opening
  | append_singleton calls call ih =>
    rw [List.foldl_append]
    apply keeps _ _ _ (met calls call (List.prefix_refl _))
    apply ih
    intro before earlier within
    exact met before earlier (within.trans (List.prefix_append _ _))

theorem MetThroughout.of_prefix {before : List Call} (met : MetThroughout step start condition calls)
    (within : before <+: calls) : MetThroughout step start condition before :=
  fun earlier call inside => met earlier call (inside.trans within)

theorem holdsThroughout_iff_met (opening : invariant start)
    (gives : ∀ state, invariant state → property state)
    (keeps : ∀ state call, invariant state → condition state call → invariant (step state call))
    (needs : ∀ state call, invariant state → property (step state call) → condition state call) :
    HoldsThroughout step start property calls ↔ MetThroughout step start condition calls := by
  constructor
  · intro holds
    induction calls using List.reverseRecOn with
    | nil =>
      intro before call within
      simp at within
    | append_singleton calls last ih =>
      have earlier : MetThroughout step start condition calls :=
        ih fun before within => holds before (within.trans (List.prefix_append _ _))
      intro before call within
      obtain whole | shorter := List.prefix_concat_iff.1 within
      · obtain ⟨rfl, same⟩ := List.append_inj' whole rfl
        obtain rfl := List.singleton_inj.1 same
        apply needs _ _ (invariant_of_met opening keeps earlier)
        have after := holds (before ++ [call]) (List.prefix_refl _)
        rwa [List.foldl_append] at after
      · exact earlier before call shorter
  · intro met before within
    exact gives _ (invariant_of_met opening keeps (met.of_prefix within))

end OnePersonLab.Lib

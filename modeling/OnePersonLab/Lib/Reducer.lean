import Mathlib.Data.List.Induction

/-!
# Reducers that may refuse an event

A reducer takes a state and an event to the next state, or refuses the event and
leaves the state as it is. The history of a sequence of offered events is the
state that they lead to together with the accepted ones, each with the state it
was accepted in.
-/

namespace OnePersonLab.Lib

universe u

abbrev Reducer (State Event Refusal : Type u) := State → Event → Except Refusal State

structure History (State Event : Type u) where
  state : State
  accepted : List (State × Event)

variable {State Event Refusal : Type u}

/-- The history after one more offered event. -/
def History.offer (reduce : Reducer State Event Refusal) (history : History State Event)
    (event : Event) : History State Event :=
  match reduce history.state event with
  | .ok next => ⟨next, history.accepted ++ [(history.state, event)]⟩
  | .error _ => history

namespace Reducer

/-- What a sequence of offered events leads to. -/
def history (reduce : Reducer State Event Refusal) (start : State) (events : List Event) :
    History State Event :=
  events.foldl (History.offer reduce) ⟨start, []⟩

variable (reduce : Reducer State Event Refusal) (start : State)

theorem history_concat (events : List Event) (event : Event) :
    reduce.history start (events ++ [event]) =
      (reduce.history start events).offer reduce event := by
  simp [history]

/-- Every event is offered in a state that it may be offered in. -/
def Meets (condition : State → Event → Prop) (events : List Event) : Prop :=
  ∀ before event, before ++ [event] <+: events →
    condition (reduce.history start before).state event

theorem meets_nil (condition : State → Event → Prop) : reduce.Meets start condition [] :=
  fun before event within => by simpa using List.prefix_nil.1 within

variable {reduce start} in
theorem Meets.concat {condition : State → Event → Prop} {events : List Event} {event : Event}
    (meets : reduce.Meets start condition events)
    (last : condition (reduce.history start events).state event) :
    reduce.Meets start condition (events ++ [event]) := by
  intro before offered within
  rcases List.prefix_concat_iff.1 within with whole | shorter
  · obtain ⟨rfl, same⟩ := List.append_inj' whole rfl
    obtain rfl := List.singleton_inj.1 same
    exact last
  · exact meets before offered shorter

/-- The state after an offered event. -/
def after (state : State) (event : Event) : State :=
  match reduce state event with
  | .ok next => next
  | .error _ => state

theorem history_state (events : List Event) :
    (reduce.history start events).state = events.foldl reduce.after start := by
  induction events using List.reverseRecOn with
  | nil => rfl
  | append_singleton events event ih =>
    rw [history_concat, List.foldl_append, ← ih, History.offer]
    show _ = reduce.after (reduce.history start events).state event
    unfold after
    split <;> rfl

/-- The events one after another, each in the state that it is offered in. -/
def MeetsEach (condition : State → Event → Prop) : State → List Event → Prop
  | _, [] => True
  | state, event :: rest =>
    condition state event ∧ MeetsEach condition (reduce.after state event) rest

instance decidableMeetsEach (condition : State → Event → Prop)
    [∀ state event, Decidable (condition state event)] :
    ∀ (state : State) (events : List Event), Decidable (reduce.MeetsEach condition state events)
  | _, [] => inferInstanceAs (Decidable True)
  | state, event :: rest =>
    have := decidableMeetsEach condition (reduce.after state event) rest
    inferInstanceAs (Decidable (_ ∧ _))

theorem MeetsEach.meets {condition : State → Event → Prop} {events : List Event}
    (each : reduce.MeetsEach condition start events) : reduce.Meets start condition events := by
  intro before event within
  rw [history_state]
  induction before generalizing start events with
  | nil =>
    obtain ⟨rest, rfl⟩ := within
    exact each.1
  | cons first before ih =>
    obtain ⟨rest, rfl⟩ := within
    have within : before ++ [event] <+: before ++ [event] ++ rest := List.prefix_append _ _
    exact ih _ each.2 within

/-- What holds at the start and is kept by every accepted event holds of every
history whose events meet the condition. -/
theorem history_induction {condition : State → Event → Prop} {motive : History State Event → Prop}
    (opening : motive ⟨start, []⟩)
    (accepts : ∀ history event next, condition history.state event →
      reduce history.state event = .ok next → motive history →
      motive ⟨next, history.accepted ++ [(history.state, event)]⟩)
    {events : List Event} (meets : reduce.Meets start condition events) :
    motive (reduce.history start events) := by
  induction events using List.reverseRecOn with
  | nil => exact opening
  | append_singleton events event ih =>
    have earlier : reduce.Meets start condition events := fun before event within =>
      meets before event (within.trans (List.prefix_append _ _))
    rw [history_concat, History.offer]
    split
    · rename_i next accepted
      exact accepts _ event next (meets events event (List.prefix_refl _)) accepted (ih earlier)
    · exact ih earlier

/-- The induction for any events. -/
theorem history_induction_any {motive : History State Event → Prop} (opening : motive ⟨start, []⟩)
    (accepts : ∀ history event next, reduce history.state event = .ok next → motive history →
      motive ⟨next, history.accepted ++ [(history.state, event)]⟩) (events : List Event) :
    motive (reduce.history start events) := by
  have meets : reduce.Meets start (fun _ _ => True) events := fun _ _ _ => trivial
  exact reduce.history_induction start opening
    (fun history event next _ => accepts history event next) meets

end Reducer

end OnePersonLab.Lib

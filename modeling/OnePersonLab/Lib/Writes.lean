import Mathlib.Logic.Relation

/-!
# Programs that write as they go

A program reads and changes a store, and may fail. What it wrote before it failed
stays written, so a failing program is judged by the store it leaves as well.
-/

namespace OnePersonLab.Lib

/-- How a program ends on a store, and the store it leaves. -/
def Writes (σ ε α : Type) := σ → Except ε α × σ

namespace Writes

variable {σ ε α β : Type}

instance : Monad (Writes σ ε) where
  pure value := fun store => (.ok value, store)
  bind first next := fun store =>
    match first store with
    | (.ok value, after) => next value after
    | (.error failure, after) => (.error failure, after)

instance : MonadLift (Except ε) (Writes σ ε) where
  monadLift checked := fun store => (checked, store)

/-- The store as it is. -/
def read : Writes σ ε σ := fun store => (.ok store, store)

def change (f : σ → σ) : Writes σ ε Unit := fun store => (.ok (), f store)

/-- Run the program on every element, in order. -/
def forEach (program : α → Writes σ ε Unit) : List α → Writes σ ε Unit
  | [] => pure ()
  | item :: rest => do
    program item
    forEach program rest

/-! ## What a run returns -/

section

variable {first : Writes σ ε α} {next : α → Writes σ ε β} {store mid : σ}

@[simp]
theorem pure_apply (value : α) (store : σ) :
    (pure value : Writes σ ε α) store = (.ok value, store) := rfl

@[simp]
theorem lift_apply (checked : Except ε α) (store : σ) :
    (liftM checked : Writes σ ε α) store = (checked, store) := rfl

@[simp]
theorem read_apply (store : σ) : (read : Writes σ ε σ) store = (.ok store, store) := rfl

@[simp]
theorem change_apply (f : σ → σ) (store : σ) :
    (change f : Writes σ ε Unit) store = (.ok (), f store) := rfl

theorem bind_apply (first : Writes σ ε α) (next : α → Writes σ ε β) (store : σ) :
    (first >>= next) store =
      match first store with
      | (.ok value, after) => next value after
      | (.error failure, after) => (.error failure, after) := rfl

theorem bind_of_ok {value : α} (returned : first store = (.ok value, mid)) :
    (first >>= next) store = next value mid := by
  rw [bind_apply, returned]

theorem bind_of_error {failure : ε} (failed : first store = (.error failure, mid)) :
    (first >>= next) store = (.error failure, mid) := by
  rw [bind_apply, failed]

@[simp]
theorem pure_bind_apply (value : α) (next : α → Writes σ ε β) (store : σ) :
    ((pure value : Writes σ ε α) >>= next) store = next value store := rfl

@[simp]
theorem read_bind (next : σ → Writes σ ε β) (store : σ) :
    (read >>= next) store = next store store := rfl

@[simp]
theorem change_bind (f : σ → σ) (next : Unit → Writes σ ε β) (store : σ) :
    (change f >>= next) store = next () (f store) := rfl

@[simp]
theorem bind_eq_ok {after : σ} {result : β} :
    (first >>= next) store = (.ok result, after) ↔
      ∃ value mid, first store = (.ok value, mid) ∧ next value mid = (.ok result, after) := by
  rw [bind_apply]
  rcases first store with ⟨failure | value, mid⟩
  · simp
  · constructor
    · intro ends
      exact ⟨value, mid, rfl, ends⟩
    · rintro ⟨_, _, ⟨⟩, ends⟩
      exact ends

theorem bind_eq_error {after : σ} {failure : ε} :
    (first >>= next) store = (.error failure, after) ↔
      first store = (.error failure, after) ∨
        ∃ value mid, first store = (.ok value, mid) ∧
          next value mid = (.error failure, after) := by
  rw [bind_apply]
  rcases first store with ⟨failed | value, mid⟩
  · simp
  · constructor
    · intro ends
      exact .inr ⟨value, mid, rfl, ends⟩
    · rintro (⟨⟨⟩⟩ | ⟨_, _, ⟨⟩, ends⟩)
      exact ends

@[simp]
theorem lift_bind_eq_ok {checked : Except ε α} {after : σ} {result : β} :
    ((liftM checked : Writes σ ε α) >>= next) store = (.ok result, after) ↔
      ∃ value, checked = .ok value ∧ next value store = (.ok result, after) := by
  cases checked with
  | error failure => simp [bind_apply]
  | ok value => simp [bind_apply]

theorem lift_bind_of_ok {checked : Except ε α} {value : α} (returned : checked = .ok value) :
    ((liftM checked : Writes σ ε α) >>= next) store = next value store := by
  subst returned
  rfl

/-- A program that returns from this store. -/
def Succeeds (store : σ) (program : Writes σ ε α) : Prop :=
  ∃ value after, program store = (.ok value, after)

theorem Succeeds.pure (store : σ) (value : α) : Succeeds store (pure value : Writes σ ε α) :=
  ⟨value, store, rfl⟩

theorem Succeeds.bind {value : α} (returned : first store = (.ok value, mid))
    (rest : Succeeds mid (next value)) : Succeeds store (first >>= next) := by
  obtain ⟨result, after, returns⟩ := rest
  exact ⟨result, after, (bind_of_ok returned).trans returns⟩

end

/-! ## All or nothing -/

/-- A program that changes nothing when it fails. -/
def AllOrNothing (store : σ) (program : Writes σ ε α) : Prop :=
  ∀ failure after, program store = (.error failure, after) → after = store

namespace AllOrNothing

variable {store : σ}

theorem read_bind {next : σ → Writes σ ε β} (rest : AllOrNothing store (next store)) :
    AllOrNothing store (read >>= next) := rest

theorem lift (checked : Except ε α) : AllOrNothing store (liftM checked : Writes σ ε α) := by
  intro failure after failed
  simp only [lift_apply, Prod.mk.injEq] at failed
  exact failed.2.symm

theorem lift_bind {checked : Except ε α} {next : α → Writes σ ε β}
    (rest : ∀ value, checked = .ok value → AllOrNothing store (next value)) :
    AllOrNothing store ((liftM checked : Writes σ ε α) >>= next) := by
  cases checked with
  | error failed =>
    intro failure after failed
    simp only [bind_apply, lift_apply, Prod.mk.injEq] at failed
    exact failed.2.symm
  | ok value => exact rest value rfl

theorem of_succeeds {program : Writes σ ε α} (succeeds : Succeeds store program) :
    AllOrNothing store program := by
  obtain ⟨value, after, returns⟩ := succeeds
  intro failure other failed
  simp [returns] at failed

theorem bind {first : Writes σ ε α} {next : α → Writes σ ε β} (start : AllOrNothing store first)
    (rest : ∀ value mid, first store = (.ok value, mid) → Succeeds mid (next value)) :
    AllOrNothing store (first >>= next) := by
  intro failure after failed
  rcases bind_eq_error.1 failed with early | ⟨value, mid, returned, late⟩
  · exact start failure after early
  · obtain ⟨result, other, returns⟩ := rest value mid returned
    simp [returns] at late

end AllOrNothing

/-! ## What every run keeps -/

/-- However the program ends, the store it leaves is related to the store it found. -/
def Keeps (kept : σ → σ → Prop) (program : Writes σ ε α) : Prop :=
  ∀ store, kept store (program store).2

section Keeps

variable {kept : σ → σ → Prop}

variable {store : σ} {next : α → Writes σ ε β}

theorem Keeps.at {program : Writes σ ε α} {after : σ} {outcome : Except ε α}
    (keeps : Keeps kept program) (ran : program store = (outcome, after)) : kept store after := by
  have left := keeps store
  rwa [ran] at left

theorem keeps_bind_at [IsTrans σ kept] {first : Writes σ ε α} (start : kept store (first store).2)
    (rest : ∀ value mid, first store = (.ok value, mid) → kept mid (next value mid).2) :
    kept store ((first >>= next) store).2 := by
  rcases ends : first store with ⟨failure | value, mid⟩
  · rw [bind_of_error ends]
    rwa [ends] at start
  · rw [bind_of_ok ends]
    rw [ends] at start
    exact IsTrans.trans _ _ _ start (rest value mid ends)

theorem Keeps.bind [IsTrans σ kept] {first : Writes σ ε α} (start : Keeps kept first)
    (rest : ∀ value, Keeps kept (next value)) : Keeps kept (first >>= next) :=
  fun store => keeps_bind_at (start store) fun value mid _ => rest value mid

theorem keeps_lift_bind [Std.Refl kept] {checked : Except ε α}
    (rest : ∀ value, checked = .ok value → kept store (next value store).2) :
    kept store (((liftM checked : Writes σ ε α) >>= next) store).2 := by
  cases checked with
  | error failure => exact Std.Refl.refl store
  | ok value => exact rest value rfl

theorem Keeps.pure [Std.Refl kept] (value : α) : Keeps kept (pure value : Writes σ ε α) :=
  fun store => Std.Refl.refl store

theorem Keeps.lift [Std.Refl kept] (checked : Except ε α) :
    Keeps kept (liftM checked : Writes σ ε α) :=
  fun store => Std.Refl.refl store

theorem Keeps.forEach [Std.Refl kept] [IsTrans σ kept] {program : α → Writes σ ε Unit}
    {items : List α} (each : ∀ item ∈ items, Keeps kept (program item)) :
    Keeps kept (forEach program items) := by
  induction items with
  | nil => exact Keeps.pure ()
  | cons item rest ih =>
    apply Keeps.bind
    · exact each item List.mem_cons_self
    · intro _
      exact ih fun other listed => each other (List.mem_cons_of_mem _ listed)

end Keeps

/-! ## How a run ends -/

/-- A program whose steps keep a relation ends in a way that is told from the store which its
last step found. -/
structure EndsAfter (kept : σ → σ → Prop) (ends : σ → Except ε β × σ → Prop) : Prop where
  failed : ∀ store failure, ends store (.error failure, store)
  chained : ∀ {store mid ended}, kept store mid → ends mid ended → ends store ended

section EndsAfter

variable {kept : σ → σ → Prop} {ends : σ → Except ε β × σ → Prop} {store : σ}

theorem EndsAfter.bind (rule : EndsAfter kept ends) {first : Writes σ ε α}
    {next : α → Writes σ ε β} (start : kept store (first store).2)
    (rest : ∀ value mid, first store = (.ok value, mid) → ends mid (next value mid)) :
    ends store ((first >>= next) store) := by
  rcases returned : first store with ⟨failure | value, mid⟩
  · rw [bind_of_error returned]
    rw [returned] at start
    exact rule.chained start (rule.failed mid failure)
  · rw [bind_of_ok returned]
    rw [returned] at start
    exact rule.chained start (rest value mid returned)

theorem EndsAfter.lift_bind (rule : EndsAfter kept ends) {checked : Except ε α}
    {next : α → Writes σ ε β}
    (rest : ∀ value, checked = .ok value → ends store (next value store)) :
    ends store (((liftM checked : Writes σ ε α) >>= next) store) := by
  cases checked with
  | error failure => exact rule.failed store failure
  | ok value => exact rest value rfl

end EndsAfter

/-! ## What a run achieves -/

/-- From every store of the first kind the program returns, and leaves one of the second. -/
def Achieves (pre : σ → Prop) (program : Writes σ ε α) (post : σ → Prop) : Prop :=
  ∀ store, pre store → ∃ value after, program store = (.ok value, after) ∧ post after

section Achieves

variable {pre mid post holds : σ → Prop}

theorem Achieves.bind {first : Writes σ ε α} {next : α → Writes σ ε β}
    (start : Achieves pre first mid) (rest : ∀ value, Achieves mid (next value) post) :
    Achieves pre (first >>= next) post := by
  intro store before
  obtain ⟨value, reached, returned, between⟩ := start store before
  obtain ⟨result, after, returns, last⟩ := rest value reached between
  exact ⟨result, after, (bind_of_ok returned).trans returns, last⟩

theorem Achieves.pure (value : α) : Achieves holds (pure value : Writes σ ε α) holds :=
  fun store before => ⟨value, store, rfl, before⟩

/-- What every step of a loop keeps, the loop keeps. -/
theorem Achieves.forEach {program : α → Writes σ ε Unit} {items : List α}
    (each : ∀ item ∈ items, Achieves holds (program item) holds) :
    Achieves holds (forEach program items) holds := by
  induction items with
  | nil => exact Achieves.pure ()
  | cons item rest ih =>
    apply Achieves.bind
    · exact each item List.mem_cons_self
    · intro _
      exact ih fun other listed => each other (List.mem_cons_of_mem _ listed)

/-- What each step of a loop leaves, and the later steps keep, holds when the loop is done. -/
theorem forEach_leaves (kept : σ → σ → Prop) (left : α → σ → Prop) [Std.Refl kept]
    [IsTrans σ kept] {program : α → Writes σ ε Unit} {items : List α} {store after : σ}
    (each : ∀ item ∈ items, Keeps kept (program item))
    (stable : ∀ item before later, kept before later → left item before → left item later)
    (leaves : ∀ item ∈ items, ∀ before later, program item before = (.ok (), later) →
      left item later)
    (returned : Writes.forEach program items store = (.ok (), after)) :
    ∀ item ∈ items, left item after := by
  induction items generalizing store with
  | nil => simp
  | cons item rest ih =>
    obtain ⟨_, reached, first, others⟩ := bind_eq_ok.1 returned
    have later : Keeps kept (Writes.forEach program rest) :=
      .forEach fun other listed => each other (List.mem_cons_of_mem _ listed)
    have grown : kept reached after := later.at others
    intro other listed
    rcases List.mem_cons.1 listed with rfl | listed
    · exact stable other reached after grown (leaves other List.mem_cons_self _ _ first)
    · exact ih (fun other listed => each other (List.mem_cons_of_mem _ listed))
        (fun other listed => leaves other (List.mem_cons_of_mem _ listed)) others other listed

end Achieves

end Writes

end OnePersonLab.Lib

import OnePersonLab.Lib.Interleaving

/-!
# One program on its own

`Runs` relates a program and a world to the outcomes and worlds it can come to
while nothing else is under way. What a program guarantees in any company it
guarantees alone; alone it also leaves in place what it does not ask to change.
-/

namespace OnePersonLab.Lib

universe u

variable {I : Interface} {World : Type u} {α β : Type} {machine : Machine I World}

/-- The program comes from the world to an outcome in a world. -/
inductive Runs (machine : Machine I World) :
    Program I α → World → Except I.Failure α → World → Prop where
  | done {outcome world} : Runs machine (.done outcome) world outcome world
  | request {asked next world after answer outcome final} : machine world asked after answer →
      Runs machine (next answer) after outcome final →
      Runs machine (.request asked next) world outcome final

section

variable {outcome : Except I.Failure α} {world final : World} {program : Program I α}

@[simp] theorem runs_done {result : Except I.Failure α} :
    Runs machine (.done outcome) world result final ↔ result = outcome ∧ final = world := by
  constructor
  · rintro ⟨⟩
    exact ⟨rfl, rfl⟩
  · rintro ⟨rfl, rfl⟩
    exact .done

@[simp] theorem runs_request {asked : I.Request} {next : I.Answer asked → Program I α} :
    Runs machine (.request asked next) world outcome final ↔
      ∃ after answer, machine world asked after answer ∧
        Runs machine (next answer) after outcome final := by
  constructor
  · rintro ⟨⟩
    exact ⟨_, _, ‹_›, ‹_›⟩
  · rintro ⟨after, answer, performed, rest⟩
    exact .request performed rest

theorem runs_call {asked : I.Request} {outcome : I.Answer asked} :
    Runs machine (Program.call asked) world outcome final ↔ machine world asked final outcome := by
  simp [Program.call]

theorem runs_bind {f : α → Program I β} {outcome : Except I.Failure β} :
    Runs machine (program >>= f) world outcome final ↔
      (∃ value after, Runs machine program world (.ok value) after ∧
        Runs machine (f value) after outcome final) ∨
      ∃ failure, Runs machine program world (.error failure) final ∧ outcome = .error failure := by
  induction program generalizing world with
  | done result =>
    cases result with
    | ok value => simp
    | error failure => simp [eq_comm, and_comm]
  | request asked next ih =>
    simp only [Program.request_bind, runs_request, ih]
    constructor
    · rintro ⟨after, answer, performed, ⟨value, later, first, rest⟩ | ⟨failure, failed, rfl⟩⟩
      · exact .inl ⟨value, later, ⟨after, answer, performed, first⟩, rest⟩
      · exact .inr ⟨failure, ⟨after, answer, performed, failed⟩, rfl⟩
    · rintro (⟨value, later, ⟨after, answer, performed, first⟩, rest⟩ |
        ⟨failure, ⟨after, answer, performed, failed⟩, rfl⟩)
      · exact ⟨after, answer, performed, .inl ⟨value, later, first, rest⟩⟩
      · exact ⟨after, answer, performed, .inr ⟨failure, failed, rfl⟩⟩

theorem runs_map {f : α → β} {outcome : Except I.Failure β} :
    Runs machine (f <$> program) world outcome final ↔
      ∃ result, Runs machine program world result final ∧ outcome = result.map f := by
  change Runs machine (program >>= fun value => .done (.ok (f value))) world outcome final ↔ _
  rw [runs_bind]
  constructor
  · rintro (⟨value, after, first, rest⟩ | ⟨failure, failed, rfl⟩)
    · obtain ⟨rfl, rfl⟩ := runs_done.1 rest
      exact ⟨.ok value, first, rfl⟩
    · exact ⟨.error failure, failed, rfl⟩
  · rintro ⟨value | value, first, rfl⟩
    · exact .inr ⟨value, first, rfl⟩
    · exact .inl ⟨value, final, first, .done⟩

theorem runs_tryCatch {handler : I.Failure → Program I α} :
    Runs machine (program.tryCatch handler) world outcome final ↔
      (∃ value, Runs machine program world (.ok value) final ∧ outcome = .ok value) ∨
      ∃ failure after, Runs machine program world (.error failure) after ∧
        Runs machine (handler failure) after outcome final := by
  induction program generalizing world with
  | done result =>
    cases result with
    | ok value => simp [Program.tryCatch, eq_comm, and_comm]
    | error failure => simp [Program.tryCatch]
  | request asked next ih =>
    simp only [Program.tryCatch, runs_request, ih]
    constructor
    · rintro ⟨after, answer, performed, ⟨value, first, rfl⟩ | ⟨failure, later, failed, rest⟩⟩
      · exact .inl ⟨value, ⟨after, answer, performed, first⟩, rfl⟩
      · exact .inr ⟨failure, later, ⟨after, answer, performed, failed⟩, rest⟩
    · rintro (⟨value, ⟨after, answer, performed, first⟩, rfl⟩ |
        ⟨failure, later, ⟨after, answer, performed, failed⟩, rest⟩)
      · exact ⟨after, answer, performed, .inl ⟨value, first, rfl⟩⟩
      · exact ⟨after, answer, performed, .inr ⟨failure, later, failed, rest⟩⟩

theorem Runs.mono {wider : Machine I World}
    (contained : ∀ {world request after answer}, machine world request after answer →
      wider world request after answer) (run : Runs machine program world outcome final) :
    Runs wider program world outcome final := by
  induction run with
  | done => exact .done
  | request performed _ ih => exact .request (contained performed) ih

/-- Where every request is answered, every program ends. -/
theorem exists_runs (answers : ∀ world request, ∃ after answer, machine world request after answer)
    (program : Program I α) (world : World) : ∃ outcome final, Runs machine program world outcome final := by
  induction program generalizing world with
  | done outcome => exact ⟨outcome, world, .done⟩
  | request asked next ih =>
    obtain ⟨after, answer, performed⟩ := answers world asked
    obtain ⟨outcome, final, rest⟩ := ih answer after
    exact ⟨outcome, final, .request performed rest⟩

end

/-! ## Guarantees -/

section Guarantees

variable {discipline : Discipline World} {program : Program I α} {outcome : Except I.Failure α}
  {world final : World}

theorem Safe.runs {post : Except I.Failure α → World → Prop}
    (safe : Safe machine discipline post program world) (initial : discipline.invariant world)
    (run : Runs machine program world outcome final) :
    discipline.Later world final ∧ post outcome final := by
  induction run with
  | done => exact ⟨⟨discipline.refl _, initial⟩, safe⟩
  | request performed _ ih =>
    obtain ⟨moved, rest⟩ := safe _ ⟨discipline.refl _, initial⟩ _ _ performed
    obtain ⟨later, holds⟩ := ih rest moved.invariant
    exact ⟨moved.trans later, holds⟩

theorem Ensures.runs {facts : α → World → Prop}
    (ensured : Ensures machine discipline facts program world)
    (initial : discipline.invariant world) (run : Runs machine program world outcome final) :
    discipline.Later world final ∧ ∀ value, outcome = .ok value → facts value final :=
  (ensured.safe initial).runs initial run

/-- What the last world has, and every world below one that has it, each world on
the way has. -/
theorem Safe.runs_below {narrower : Machine I World}
    (contained : ∀ {world request after answer}, narrower world request after answer →
      machine world request after answer)
    {post : Except I.Failure α → World → Prop} {holds : World → Prop}
    (down : ∀ {world after}, discipline.Later world after → holds after → holds world)
    (safe : Safe machine discipline post program world) (initial : discipline.invariant world)
    (run : Runs narrower program world outcome final) (last : holds final) :
    Runs (fun world request after answer => narrower world request after answer ∧ holds after)
      program world outcome final := by
  induction run with
  | done => exact .done
  | request performed run ih =>
    obtain ⟨moved, rest⟩ := safe _ ⟨discipline.refl _, initial⟩ _ _ (contained performed)
    have onward := (rest.runs moved.invariant (run.mono contained)).1
    exact .request ⟨performed, down onward last⟩ (ih rest moved.invariant last)

theorem Returns.runs {facts : α → World → Prop}
    (returned : Returns machine discipline facts program world)
    (initial : discipline.invariant world) (run : Runs machine program world outcome final) :
    ∃ value, outcome = .ok value ∧ facts value final :=
  ((returned.safe initial).runs initial run).2

end Guarantees

/-! ## What a program asks -/

namespace Program

/-- Every request of the program is one of the allowed ones. -/
inductive Only (allowed : I.Request → Prop) : Program I α → Prop where
  | done {outcome} : Only allowed (.done outcome)
  | request {asked next} : allowed asked → (∀ answer, Only allowed (next answer)) →
      Only allowed (.request asked next)

/-- A program that returns right after a request of the given kind is answered. -/
inductive EndsWith (last : I.Request → Prop) : Program I α → Prop where
  | done {outcome} : EndsWith last (.done outcome)
  | request {asked next} :
      (last asked → ∀ response, ∃ value, next (.ok response) = .done (.ok value)) →
      (∀ answer, EndsWith last (next answer)) → EndsWith last (.request asked next)

variable {allowed last : I.Request → Prop}

variable {program : Program I α}

theorem Only.bind {f : α → Program I β} (only : program.Only allowed)
    (rest : ∀ value, (f value).Only allowed) : (program >>= f).Only allowed := by
  induction only with
  | @done outcome =>
    cases outcome with
    | ok value => exact rest value
    | error failure => exact .done
  | request allows _ ih => exact .request allows ih

theorem Only.tryCatch {handler : I.Failure → Program I α} (only : program.Only allowed)
    (rest : ∀ failure, (handler failure).Only allowed) :
    (program.tryCatch handler).Only allowed := by
  induction only with
  | @done outcome =>
    cases outcome with
    | ok value => exact .done
    | error failure => exact rest failure
  | request allows _ ih => exact .request allows ih

theorem Only.call {asked : I.Request} (allows : allowed asked) : (Program.call asked).Only allowed :=
  .request allows fun _ => .done

theorem EndsWith.bind {f : α → Program I β} (only : program.Only fun request => ¬ last request)
    (rest : ∀ value, (f value).EndsWith last) : (program >>= f).EndsWith last := by
  induction only with
  | @done outcome =>
    cases outcome with
    | ok value => exact rest value
    | error failure => exact .done
  | request silent _ ih => exact .request (fun is_last => absurd is_last silent) ih

theorem EndsWith.call (asked : I.Request) : (Program.call asked).EndsWith last :=
  .request (fun _ response => ⟨response, rfl⟩) fun _ => .done

theorem EndsWith.tryCatch {handler : I.Failure → Program I α} (ends : program.EndsWith last)
    (rest : ∀ failure, (handler failure).EndsWith last) :
    (program.tryCatch handler).EndsWith last := by
  induction ends with
  | @done outcome =>
    cases outcome with
    | ok value => exact .done
    | error failure => exact rest failure
  | request returns _ ih =>
    refine .request (fun is_last response => ?_) ih
    obtain ⟨value, same⟩ := returns is_last response
    exact ⟨value, congrArg (Program.tryCatch handler) same⟩

end Program

/-- A part of the world that no request of the program moves. -/
theorem Runs.same_of_only {σ : Type*} (part : World → σ) {allowed : I.Request → Prop}
    (kept : ∀ {world request after answer}, allowed request → machine world request after answer →
      part after = part world) {program : Program I α} {outcome : Except I.Failure α}
    {world final : World} (only : program.Only allowed)
    (run : Runs machine program world outcome final) : part final = part world := by
  induction run with
  | done => rfl
  | request performed _ ih =>
    cases only with
    | request allows onward => exact (ih (onward _)).trans (kept allows performed)

/-- A program that fails has not moved what only its last request moves. -/
theorem Runs.same_of_failed {σ : Type*} (part : World → σ) {last : I.Request → Prop}
    (kept : ∀ {world request after answer}, ¬ last request → machine world request after answer →
      part after = part world)
    (refused : ∀ {world request after failure}, machine world request after (.error failure) →
      part after = part world) {program : Program I α} {failure : I.Failure} {world final : World}
    (ends : program.EndsWith last) (run : Runs machine program world (.error failure) final) :
    part final = part world := by
  generalize result : (Except.error failure : Except I.Failure α) = outcome at run
  induction run with
  | done => rfl
  | @request asked next _ _ answer _ _ performed rest ih =>
    cases ends with
    | request returns ends =>
      have onward := ih (ends _) result
      by_cases is_last : last asked
      · cases answer with
        | error failed => exact onward.trans (refused performed)
        | ok response =>
          obtain ⟨value, same⟩ := returns is_last response
          rw [same, ← result] at rest
          cases (runs_done.1 rest).1
      · exact onward.trans (kept is_last performed)

end OnePersonLab.Lib

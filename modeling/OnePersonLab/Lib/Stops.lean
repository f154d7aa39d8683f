import OnePersonLab.Lib.Leads

/-!
# Programs that may be stopped

A program that runs alone may be stopped between two requests, or in the middle of a request
that takes many steps. `Withstands` says what holds of every world that such a stop leaves,
together with what the program leads to where it is not stopped; every construct of programs
has its rule.
-/

namespace OnePersonLab.Lib

universe u

/-- How requests are performed, and what a stop in the middle of one may leave. -/
structure Device (I : Interface) (World : Type u) where
  performs : Machine I World
  torn : World → I.Request → World → Prop

variable {I : Interface} {World : Type u} {α β : Type} {device : Device I World}

/-- A stop of the program leaves the world. -/
inductive Stops (device : Device I World) : Program I α → World → World → Prop where
  | here {program world} : Stops device program world world
  | torn {asked next world left} : device.torn world asked left →
      Stops device (.request asked next) world left
  | later {asked next world after answer left} : device.performs world asked after answer →
      Stops device (next answer) after left → Stops device (.request asked next) world left

section

variable {world left : World}

@[simp] theorem stops_done {outcome : Except I.Failure α} :
    Stops device (.done outcome) world left ↔ left = world := by
  constructor
  · rintro ⟨⟩
    rfl
  · rintro rfl
    exact .here

theorem stops_request {asked : I.Request} {next : I.Answer asked → Program I α} :
    Stops device (.request asked next) world left ↔
      left = world ∨ device.torn world asked left ∨
        ∃ after answer, device.performs world asked after answer ∧
          Stops device (next answer) after left := by
  constructor
  · intro stop
    cases stop with
    | here => exact .inl rfl
    | torn broken => exact .inr (.inl broken)
    | later performed rest => exact .inr (.inr ⟨_, _, performed, rest⟩)
  · rintro (rfl | broken | ⟨after, answer, performed, rest⟩)
    · exact .here
    · exact .torn broken
    · exact .later performed rest

theorem stops_bind {program : Program I α} {f : α → Program I β} :
    Stops device (program >>= f) world left ↔
      Stops device program world left ∨
        ∃ value after, Runs device.performs program world (.ok value) after ∧
          Stops device (f value) after left := by
  induction program generalizing world with
  | done outcome =>
    cases outcome with
    | ok value =>
      simp only [Program.ok_bind, stops_done, runs_done]
      constructor
      · exact fun stop => .inr ⟨value, world, ⟨rfl, rfl⟩, stop⟩
      · rintro (rfl | ⟨_, _, ⟨⟨⟩, rfl⟩, stop⟩)
        · exact .here
        · exact stop
    | error failure => simp
  | request asked next ih =>
    rw [Program.request_bind, stops_request, stops_request]
    simp only [ih, runs_request]
    constructor
    · rintro (rfl | broken | ⟨after, answer, performed, early | ⟨value, middle, run, late⟩⟩)
      · exact .inl (.inl rfl)
      · exact .inl (.inr (.inl broken))
      · exact .inl (.inr (.inr ⟨after, answer, performed, early⟩))
      · exact .inr ⟨value, middle, ⟨after, answer, performed, run⟩, late⟩
    · rintro ((rfl | broken | ⟨after, answer, performed, early⟩) |
        ⟨value, middle, ⟨after, answer, performed, run⟩, late⟩)
      · exact .inl rfl
      · exact .inr (.inl broken)
      · exact .inr (.inr ⟨after, answer, performed, .inl early⟩)
      · exact .inr (.inr ⟨after, answer, performed, .inr ⟨value, middle, run, late⟩⟩)

theorem stops_tryCatch {program : Program I α} {handler : I.Failure → Program I α} :
    Stops device (program.tryCatch handler) world left ↔
      Stops device program world left ∨
        ∃ failure after, Runs device.performs program world (.error failure) after ∧
          Stops device (handler failure) after left := by
  induction program generalizing world with
  | done outcome =>
    cases outcome with
    | ok value => simp [Program.tryCatch]
    | error failure =>
      simp only [Program.tryCatch, stops_done, runs_done]
      constructor
      · exact fun stop => .inr ⟨failure, world, ⟨rfl, rfl⟩, stop⟩
      · rintro (rfl | ⟨_, _, ⟨⟨⟩, rfl⟩, stop⟩)
        · exact .here
        · exact stop
  | request asked next ih =>
    rw [Program.tryCatch, stops_request, stops_request]
    simp only [ih, runs_request]
    constructor
    · rintro (rfl | broken | ⟨after, answer, performed, early | ⟨failure, middle, run, late⟩⟩)
      · exact .inl (.inl rfl)
      · exact .inl (.inr (.inl broken))
      · exact .inl (.inr (.inr ⟨after, answer, performed, early⟩))
      · exact .inr ⟨failure, middle, ⟨after, answer, performed, run⟩, late⟩
    · rintro ((rfl | broken | ⟨after, answer, performed, early⟩) |
        ⟨failure, middle, ⟨after, answer, performed, run⟩, late⟩)
      · exact .inl rfl
      · exact .inr (.inl broken)
      · exact .inr (.inr ⟨after, answer, performed, .inl early⟩)
      · exact .inr (.inr ⟨after, answer, performed, .inr ⟨failure, middle, run, late⟩⟩)

end

/-- The world after some requests of a program that one function performs. -/
def Program.proceed (perform : World → (request : I.Request) → World × I.Answer request) :
    Nat → Program I α → World → World
  | 0, _, world => world
  | _ + 1, .done _, world => world
  | count + 1, .request asked next, world =>
    (next (perform world asked).2).proceed perform count (perform world asked).1

/-- A scripted machine shows one of the stops. -/
theorem stops_of_proceed {perform : World → (request : I.Request) → World × I.Answer request}
    (contained : ∀ world request,
      device.performs world request (perform world request).1 (perform world request).2)
    (count : Nat) (program : Program I α) (world : World) :
    Stops device program world (program.proceed perform count world) := by
  induction count generalizing program world with
  | zero => exact .here
  | succ count ih =>
    cases program with
    | done outcome => exact .here
    | request asked next => exact .later (contained world asked) (ih _ _)

/-! ## What holds whenever a program is stopped, and where it ends -/

structure Withstands (device : Device I World) (program : Program I α) (world : World)
    (moment : World → Prop) (returns : α → World → Prop) (fails : I.Failure → World → Prop) :
    Prop where
  stops : ∀ left, Stops device program world left → moment left
  leads : Leads device.performs program world returns fails

section

variable {world : World} {moment : World → Prop} {returns : α → World → Prop}
  {fails : I.Failure → World → Prop}

variable {program : Program I α}

theorem Withstands.mono {moment' : World → Prop} {returns' : α → World → Prop}
    {fails' : I.Failure → World → Prop}
    (withstands : Withstands device program world moment returns fails)
    (weaker : ∀ left, moment left → moment' left)
    (weaker' : ∀ value final, returns value final → returns' value final)
    (weaker'' : ∀ failure final, fails failure final → fails' failure final) :
    Withstands device program world moment' returns' fails' :=
  ⟨fun left stop => weaker left (withstands.stops left stop),
    withstands.leads.mono weaker' weaker''⟩

@[simp] theorem withstands_done {outcome : Except I.Failure α} :
    Withstands device (.done outcome) world moment returns fails ↔
      moment world ∧ Ends returns fails outcome world := by
  constructor
  · exact fun ⟨stops, leads⟩ => ⟨stops world .here, leads_done.1 leads⟩
  · exact fun ⟨holds, ends⟩ => ⟨fun left stop => stops_done.1 stop ▸ holds, leads_done.2 ends⟩

@[simp] theorem withstands_pure {value : α} :
    Withstands device (pure value) world moment returns fails ↔
      moment world ∧ returns value world := by
  rw [Program.pure_def, withstands_done]
  rfl

@[simp] theorem withstands_throw {failure : I.Failure} :
    Withstands device (throw failure : Program I α) world moment returns fails ↔
      moment world ∧ fails failure world := by
  rw [Program.throw_def, withstands_done]
  rfl

@[simp] theorem withstands_bind {f : α → Program I β} {returns : β → World → Prop} :
    Withstands device (program >>= f) world moment returns fails ↔
      Withstands device program world moment
        (fun value after => Withstands device (f value) after moment returns fails) fails := by
  constructor
  · rintro ⟨stops, leads⟩
    refine ⟨fun left stop => stops left (stops_bind.2 (.inl stop)), ?_⟩
    intro outcome after run
    cases outcome with
    | ok value =>
      exact ⟨fun left stop => stops left (stops_bind.2 (.inr ⟨value, after, run, stop⟩)),
        fun outcome final rest => leads _ _ (runs_bind.2 (.inl ⟨_, _, run, rest⟩))⟩
    | error failure => exact leads _ _ (runs_bind.2 (.inr ⟨_, run, rfl⟩))
  · rintro ⟨stops, leads⟩
    refine ⟨fun left stop => ?_, leads_bind.2 (leads.mono (fun _ _ rest => rest.leads)
      fun _ _ failed => failed)⟩
    rcases stops_bind.1 stop with early | ⟨value, after, run, late⟩
    · exact stops left early
    · exact (leads.of_ok run).stops left late

@[simp] theorem withstands_tryCatch {handler : I.Failure → Program I α} :
    Withstands device (tryCatch program handler) world moment returns fails ↔
      Withstands device program world moment returns
        (fun failure after => Withstands device (handler failure) after moment returns fails) := by
  rw [Program.tryCatch_def]
  constructor
  · rintro ⟨stops, leads⟩
    refine ⟨fun left stop => stops left (stops_tryCatch.2 (.inl stop)), ?_⟩
    intro outcome after run
    cases outcome with
    | ok value => exact leads _ _ (runs_tryCatch.2 (.inl ⟨_, run, rfl⟩))
    | error failure =>
      exact ⟨fun left stop => stops left (stops_tryCatch.2 (.inr ⟨failure, after, run, stop⟩)),
        fun outcome final rest => leads _ _ (runs_tryCatch.2 (.inr ⟨_, _, run, rest⟩))⟩
  · rintro ⟨stops, leads⟩
    refine ⟨fun left stop => ?_, leads_tryCatch.2 (leads.mono (fun _ _ returned => returned)
      fun _ _ rest => rest.leads)⟩
    rcases stops_tryCatch.1 stop with early | ⟨failure, after, run, late⟩
    · exact stops left early
    · exact (leads.of_error run).stops left late

/-- One request: before it, in the middle of it and after it. -/
theorem withstands_call {asked : I.Request} {returns : I.Response asked → World → Prop} :
    Withstands device (Program.call asked) world moment returns fails ↔
      moment world ∧ (∀ left, device.torn world asked left → moment left) ∧
        ∀ after answer, device.performs world asked after answer →
          moment after ∧ Ends returns fails answer after := by
  constructor
  · rintro ⟨stops, leads⟩
    exact ⟨stops world .here, fun left broken => stops left (.torn broken),
      fun after answer performed =>
        ⟨stops after (.later performed .here), leads_call.1 leads after answer performed⟩⟩
  · rintro ⟨before, middle, later⟩
    refine ⟨fun left stop => ?_, leads_call.2 fun after answer performed =>
      (later after answer performed).2⟩
    rcases stops_request.1 stop with rfl | broken | ⟨after, answer, performed, rest⟩
    · exact before
    · exact middle left broken
    · exact stops_done.1 rest ▸ (later after answer performed).1

end

end OnePersonLab.Lib

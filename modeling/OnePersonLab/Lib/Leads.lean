import OnePersonLab.Lib.Alone

/-!
# What a program leads to

`Leads` says what holds whenever a program that runs alone comes to an end:
one predicate for the value it returns, one for the failure it ends with. Every
construct of programs has its rule, so that the claim about a program turns into
claims about its requests.
-/

namespace OnePersonLab.Lib

universe u

variable {I : Interface} {World : Type u} {α β : Type} {machine : Machine I World}

/-- One predicate for what is returned, one for a failure. -/
def Ends {Failure : Type} (returns : α → World → Prop) (fails : Failure → World → Prop) :
    Except Failure α → World → Prop
  | .ok value => returns value
  | .error failure => fails failure

@[simp] theorem ends_ok {Failure : Type} {returns : α → World → Prop}
    {fails : Failure → World → Prop} {value : α} {world : World} :
    Ends returns fails (.ok value) world ↔ returns value world := Iff.rfl

@[simp] theorem ends_error {Failure : Type} {returns : α → World → Prop}
    {fails : Failure → World → Prop} {failure : Failure} {world : World} :
    Ends returns fails (.error failure) world ↔ fails failure world := Iff.rfl

/-- Wherever the program comes to from the world, what it returns satisfies
`returns`, and the failure it ends with satisfies `fails`. -/
def Leads (machine : Machine I World) (program : Program I α) (world : World)
    (returns : α → World → Prop) (fails : I.Failure → World → Prop) : Prop :=
  ∀ outcome final, Runs machine program world outcome final → Ends returns fails outcome final

variable {returns : α → World → Prop} {fails : I.Failure → World → Prop} {world : World}

variable {program : Program I α}

theorem Leads.of_ok {value : α} {final : World} (leads : Leads machine program world returns fails)
    (run : Runs machine program world (.ok value) final) : returns value final :=
  leads _ _ run

theorem Leads.of_error {failure : I.Failure} {final : World}
    (leads : Leads machine program world returns fails)
    (run : Runs machine program world (.error failure) final) : fails failure final :=
  leads _ _ run

theorem Leads.mono {returns' : α → World → Prop} {fails' : I.Failure → World → Prop}
    (leads : Leads machine program world returns fails)
    (weaker : ∀ value final, returns value final → returns' value final)
    (weaker' : ∀ failure final, fails failure final → fails' failure final) :
    Leads machine program world returns' fails' := by
  intro outcome final run
  cases outcome with
  | ok value => exact weaker _ _ (leads _ _ run)
  | error failure => exact weaker' _ _ (leads _ _ run)

@[simp] theorem leads_done {outcome : Except I.Failure α} :
    Leads machine (.done outcome) world returns fails ↔ Ends returns fails outcome world := by
  simp [Leads]

@[simp] theorem leads_pure {value : α} :
    Leads machine (pure value) world returns fails ↔ returns value world := by
  simp [Program.pure_def]

@[simp] theorem leads_throw {failure : I.Failure} :
    Leads machine (throw failure : Program I α) world returns fails ↔ fails failure world := by
  simp [Program.throw_def]

@[simp] theorem leads_lift {outcome : Except I.Failure α} :
    Leads machine (liftM outcome : Program I α) world returns fails ↔
      Ends returns fails outcome world := by
  simp [Program.lift_def]

@[simp] theorem leads_bind {f : α → Program I β} {returns : β → World → Prop} :
    Leads machine (program >>= f) world returns fails ↔
      Leads machine program world
        (fun value after => Leads machine (f value) after returns fails) fails := by
  constructor
  · intro leads outcome after run
    cases outcome with
    | ok value => exact fun outcome final rest => leads _ _ (runs_bind.2 (.inl ⟨_, _, run, rest⟩))
    | error failure => exact leads _ _ (runs_bind.2 (.inr ⟨_, run, rfl⟩))
  · intro leads outcome final run
    rcases runs_bind.1 run with ⟨value, after, first, rest⟩ | ⟨failure, failed, rfl⟩
    · exact leads _ _ first _ _ rest
    · exact leads _ _ failed

@[simp] theorem leads_tryCatch {handler : I.Failure → Program I α} :
    Leads machine (tryCatch program handler) world returns fails ↔
      Leads machine program world returns
        (fun failure after => Leads machine (handler failure) after returns fails) := by
  rw [Program.tryCatch_def]
  constructor
  · intro leads outcome after run
    cases outcome with
    | ok value => exact leads _ _ (runs_tryCatch.2 (.inl ⟨_, run, rfl⟩))
    | error failure =>
      exact fun outcome final rest => leads _ _ (runs_tryCatch.2 (.inr ⟨_, _, run, rest⟩))
  · intro leads outcome final run
    rcases runs_tryCatch.1 run with ⟨value, first, rfl⟩ | ⟨failure, after, failed, rest⟩
    · exact leads _ _ first
    · exact leads _ _ failed _ _ rest

theorem leads_call {asked : I.Request} {returns : I.Response asked → World → Prop} :
    Leads machine (Program.call asked) world returns fails ↔
      ∀ after answer, machine world asked after answer → Ends returns fails answer after := by
  constructor
  · exact fun leads after answer performed => leads _ _ (runs_call.2 performed)
  · exact fun answered outcome final run => answered _ _ (runs_call.1 run)

/-- A scripted machine shows one of the runs. -/
theorem runs_of_run {perform : World → (request : I.Request) → World × I.Answer request}
    (contained : ∀ world request,
      machine world request (perform world request).1 (perform world request).2)
    (program : Program I α) (world : World) :
    Runs machine program world (program.run perform world).2 (program.run perform world).1 := by
  induction program generalizing world with
  | done outcome => exact .done
  | request asked next ih => exact .request (contained _ _) (ih _ _)

end OnePersonLab.Lib

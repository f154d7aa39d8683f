import OnePersonLab.Stage.StageRunMachine

/-!
# What an attempt does to a run

`runAttempt` is told once: what it enters into the state, what is written down
about it, and how far it gets when it fails. Everything that is proved about
runs goes by this account.
-/

namespace OnePersonLab.Stage

open Contract Lib Evolution

/-! ## Kinds of events -/

namespace RunEvent

def starts : RunEvent → Bool
  | .attemptStarted _ _ => true
  | _ => false

def repairs : RunEvent → Bool
  | .attemptStarted _ role => decide (role = .repairer)
  | _ => false

/-- The attempt that is started to hand in an artifact. -/
def producing? : RunEvent → Option String
  | .attemptStarted attemptRef role => if role.reviews then none else some attemptRef
  | _ => none

/-- Neither starts an attempt nor says anything about routes. -/
def inert : RunEvent → Bool
  | .attemptStarted _ _ | .routeEvaluated _ _ _ | .attemptAdmitted _ | .routeCommitted _ _ => false
  | _ => true

/-- The controller has to write down a debt. -/
def owes : RunEvent → Bool
  | .snapshotDebt | .rawExecutorOutput | .attemptSyncFailed | .revisionTransportMissing => true
  | _ => false

variable {event : RunEvent}

theorem starts_of_inert (inert : event.inert = true) : event.starts = false := by
  cases event <;> first | rfl | cases inert

theorem repairs_of_inert (inert : event.inert = true) : event.repairs = false := by
  cases event <;> first | rfl | cases inert

theorem producing_of_inert (inert : event.inert = true) : event.producing? = none := by
  cases event <;> first | rfl | cases inert

end RunEvent

/-- Events of an attempt that neither judge nor commit a route. -/
def Calm (role : StageQualityAttemptRole) (event : RunEvent) : Prop :=
  event.inert = true ∨ ∃ attemptRef, event = .attemptStarted attemptRef role

theorem inert_materializeEvents {choice : Materialization} {request : AttemptRequest}
    {input : StageRunInput} : ∀ event ∈ materializeEvents choice request input,
      event.inert = true := by
  intro event listed
  simp only [materializeEvents, List.mem_append] at listed
  rcases listed with listed | listed <;> split at listed <;> simp_all [RunEvent.inert]

theorem inert_resultEvents {state : StageRunState} {role : StageQualityAttemptRole}
    {result : StageAttemptState} : ∀ event ∈ resultEvents state role result,
      event.inert = true := by
  intro event listed
  simp only [resultEvents, List.mem_append] at listed
  rcases listed with listed | listed <;> split at listed <;> simp_all [RunEvent.inert]

/-! ## Rules for the child workflow -/

section Rules

variable {input : StageRunInput} {world : RunWorld} {fails : WorkflowFailure → RunWorld → Prop}

theorem leads_materialize {request : AttemptRequest}
    {returns : MaterializedAttempt → RunWorld → Prop}
    (answers : ∀ (choice : Materialization) (row : AttemptRow) (ledger : List AttemptRow),
      (request.role.reviews = false → choice.snapshotDebtRef = none) →
      row.Holds (attemptRefOf choice.stageAttemptId) request → Enters row world.ledger ledger →
      returns (choice.attempt input request)
        ({ world with ledger }.noting (materializeEvents choice request input)))
    (breaks : ∀ failure after, after.events = world.events → fails failure after) :
    Leads (stageRunMachine input) (materialize request) world returns fails := by
  refine leads_ask.2 ?_
  rintro after answer (⟨failure, -, rfl, entered⟩ | ⟨choice, row, rfl, snapshot, holds, enters, same⟩)
  · refine breaks failure after ?_
    rcases entered with rfl | ⟨row, -, same⟩
    · rfl
    · rw [same]
  · rw [same]
    exact answers choice row after.ledger snapshot holds enters

theorem leads_executeChild {attemptRef : String} {child : StageAttemptInput}
    {returns : StageAttemptState → RunWorld → Prop}
    (answers : ∀ result, returns result (world.noting
      (.attemptStarted attemptRef child.attemptRole ::
        resultEvents world.state child.attemptRole result)))
    (breaks : ∀ failure, fails failure
      (world.noting [.attemptStarted attemptRef child.attemptRole])) :
    Leads (stageRunMachine input) (executeChild attemptRef child) world returns fails := by
  refine leads_ask.2 ?_
  rintro after answer (⟨failure, -, rfl, rfl⟩ | ⟨result, rfl, rfl⟩)
  · exact breaks failure
  · exact answers result

end Rules

/-! ## How far an attempt gets -/

/-- What a failed attempt leaves behind: at most one start, and its evaluation last. -/
def Stumbles (role : StageQualityAttemptRole) (before after : List RunEvent) : Prop :=
  ∃ calm judged, after = before ++ calm ++ judged ∧ calm.countP RunEvent.starts ≤ 1 ∧
    (∀ event ∈ calm, Calm role event) ∧
    (judged = [] ∨ ∃ attemptRef decision, judged = [.routeEvaluated attemptRef role decision])

/-- The state in which a materialized attempt is run. -/
def StageRunState.opened (state : StageRunState) (role : StageQualityAttemptRole)
    (maxRepairRounds : Nat) : StageRunState :=
  { state with status := .running, currentRole := some role, maxRepairRounds }

/-- The events up to the result of the attempt. -/
def launchEvents (run : StageRun) (asked : AttemptRequest) (choice : Materialization)
    (state : StageRunState) (result : StageAttemptState) : List RunEvent :=
  materializeEvents choice asked run.input ++
    .attemptStarted (attemptRefOf choice.stageAttemptId) asked.role ::
      resultEvents state asked.role result

/-- An attempt that came back with a result. -/
structure Launches (run : StageRun) (asked : AttemptRequest) (before : RunWorld)
    (choice : Materialization) (launched : LaunchedAttempt) (after : RunWorld) : Prop where
  attemptRef : launched.attemptRef = attemptRefOf choice.stageAttemptId
  childInput : launched.childInput = (choice.attempt run.input asked).workflowInput
  policy : run.executionPolicy launched.childInput = .ok launched.executionPolicy
  snapshot : asked.role.reviews = false → choice.snapshotDebtRef = none
  row : ∃ row : AttemptRow, row.Holds launched.attemptRef asked ∧
    Enters row before.ledger after.ledger
  state : after.state = before.state.opened asked.role launched.executionPolicy.maxRepairRounds
  observed : after.controller.observedSessions = before.controller.observedSessions
  events : after.events = before.events ++
    launchEvents run asked choice before.state launched.result

section Events

variable {run : StageRun} {asked : AttemptRequest} {choice : Materialization}
  {state : StageRunState} {result : StageAttemptState}

theorem calm_launchEvents : ∀ event ∈ launchEvents run asked choice state result,
    Calm asked.role event := by
  intro event listed
  simp only [launchEvents, List.mem_append, List.mem_cons] at listed
  rcases listed with listed | rfl | listed
  · exact .inl (inert_materializeEvents event listed)
  · exact .inr ⟨_, rfl⟩
  · exact .inl (inert_resultEvents event listed)

theorem countP_inert {events : List RunEvent} (inert : ∀ event ∈ events, event.inert = true) :
    events.countP RunEvent.starts = 0 ∧ events.countP RunEvent.repairs = 0 := by
  simp only [List.countP_eq_zero]
  exact ⟨fun event listed => by simp [RunEvent.starts_of_inert (inert event listed)],
    fun event listed => by simp [RunEvent.repairs_of_inert (inert event listed)]⟩

@[simp] theorem starts_launchEvents :
    (launchEvents run asked choice state result).countP RunEvent.starts = 1 := by
  simp [launchEvents, List.countP_append, List.countP_cons,
    (countP_inert inert_materializeEvents).1, (countP_inert inert_resultEvents).1, RunEvent.starts]

theorem repairs_launchEvents :
    (launchEvents run asked choice state result).countP RunEvent.repairs =
      if asked.role = .repairer then 1 else 0 := by
  simp [launchEvents, List.countP_append, List.countP_cons,
    (countP_inert inert_materializeEvents).2, (countP_inert inert_resultEvents).2,
    RunEvent.repairs]

end Events

section Stumbles

variable {role : StageQualityAttemptRole} {before after : List RunEvent}

theorem Stumbles.of_calm (calm : List RunEvent) (whole : after = before ++ calm)
    (one : calm.countP RunEvent.starts ≤ 1) (each : ∀ event ∈ calm, Calm role event) :
    Stumbles role before after :=
  ⟨calm, [], by simp [whole], one, each, .inl rfl⟩

end Stumbles

theorem launchAttempt_leads {run : StageRun} {asked : AttemptRequest} {world : RunWorld} :
    Leads (stageRunMachine run.input) (launchAttempt run asked) world
      (fun launched after => ∃ choice, Launches run asked world choice launched after)
      (fun _ after => Stumbles asked.role world.events after.events) := by
  simp only [launchAttempt, leads_bind, leads_updateState, leads_readState]
  refine leads_materialize (fun choice row ledger snapshot holds enters => ?_)
    (fun _ after same => .of_calm [] (by simpa using same) (by simp) (by simp))
  have inert : ∀ event ∈ materializeEvents choice asked run.input, event.inert = true :=
    inert_materializeEvents
  have materialized : Stumbles asked.role world.events
      (world.events ++ materializeEvents choice asked run.input) :=
    .of_calm _ rfl (by simp [(countP_inert inert).1]) fun event listed => .inl (inert event listed)
  refine leads_checked (fun _ _ => ?_) (fun _ => materialized)
  refine leads_checked (fun policy bound => ?_) (fun _ => materialized)
  refine leads_executeChild (fun result => ?_) (fun _ => ?_)
  swap
  · refine .of_calm (materializeEvents choice asked run.input ++
      [.attemptStarted (attemptRefOf choice.stageAttemptId) asked.role])
      (show _ ++ _ ++ _ = _ from List.append_assoc _ _ _)
      (by simp [List.countP_append, (countP_inert inert).1, RunEvent.starts]) fun event listed => ?_
    rcases List.mem_append.1 listed with listed | listed
    · exact .inl (inert event listed)
    · exact .inr ⟨_, List.mem_singleton.1 listed⟩
  have launched : ∀ after : RunWorld,
      after.events = world.events ++ launchEvents run asked choice world.state result →
      Stumbles asked.role world.events after.events :=
    fun after whole => .of_calm _ whole starts_launchEvents.le calm_launchEvents
  refine leads_checked (fun _ _ => ?_) (fun _ => launched _
    (show _ ++ _ ++ _ = _ from List.append_assoc _ _ _))
  have comes : ∀ after : RunWorld, after.ledger = ledger →
      after.controller = ⟨world.state.opened asked.role policy.maxRepairRounds,
        world.controller.observedSessions, world.controller.decisiveExecutionContentBinding⟩ →
      after.events = world.events ++ launchEvents run asked choice world.state result →
      Launches run asked world choice
        { attemptRef := attemptRefOf choice.stageAttemptId
          childInput := (choice.attempt run.input asked).workflowInput
          executionPolicy := policy, result } after := by
    intro after books kept whole
    refine ⟨rfl, rfl, bound, snapshot, ⟨row, ⟨holds.1, holds.2, holds.3, holds.4, holds.5,
      holds.6⟩, by rw [books]; exact enters⟩, ?_, ?_, whole⟩
    · rw [RunWorld.state, kept]
    · rw [kept]
  split
  · refine leads_bind.2 (leads_syncAttempt (leads_pure.2 ⟨choice, comes _ rfl rfl ?_⟩) fun _ _ => ?_)
    · exact List.append_assoc _ _ _
    refine .of_calm (launchEvents run asked choice world.state result ++ [.attemptSyncFailed])
      ?_ (by simp [List.countP_append, RunEvent.starts]) fun event listed => ?_
    · show _ ++ _ ++ _ ++ _ = _
      simp only [List.append_assoc, launchEvents]
      rfl
    · rcases List.mem_append.1 listed with listed | listed
      · exact calm_launchEvents event listed
      · exact .inl (by rw [List.mem_singleton.1 listed]; rfl)
  · refine leads_pure.2 ⟨choice, comes _ rfl rfl ?_⟩
    exact List.append_assoc _ _ _

/-! ## From the result to the state -/

/-- A completed attempt comes with a session that had not been seen. -/
structure Observes (result : StageAttemptState) (before after : List String) : Prop where
  completed : result.status = .completed → ∃ session, result.executionSessionRef = some session ∧
    session ∉ before ∧ after = session :: before
  otherwise : result.status ≠ .completed → after = before

section

variable {world : RunWorld}

theorem observeSession_leads {input : StageRunInput} {role : StageQualityAttemptRole}
    {result : StageAttemptState} :
    Leads (stageRunMachine input) (observeSession role result) world
      (fun _ after => ∃ sessions, Observes result world.controller.observedSessions sessions ∧
        after = world.withController fun controller =>
          { controller with observedSessions := sessions })
      (fun _ after => after = world) := by
  unfold observeSession
  split
  · rename_i completed
    split
    · simp
    · rename_i session given
      simp only [leads_bind, leads_read]
      split
      · simp
      · rename_i fresh
        refine leads_modify.2 ⟨_, ⟨fun _ => ⟨session, given, fresh, rfl⟩, fun other => ?_⟩, rfl⟩
        exact absurd completed other
  · rename_i other
    exact leads_pure.2 ⟨_, ⟨fun completed => absurd completed other, fun _ => rfl⟩, rfl⟩

theorem refreshScopeBudgetUsage_leads {run : StageRun} {world : RunWorld} :
    Leads (stageRunMachine run.input) (refreshScopeBudgetUsage run) world
      (fun _ after => ∃ usage, after = world.withState fun state =>
        { state with scopeBudgetUsage := usage })
      (fun _ after => after = world) := by
  simp only [refreshScopeBudgetUsage, leads_bind, leads_elapsed, leads_readState]
  intro elapsedMs
  exact leads_checked (fun usage _ => leads_updateState.2 ⟨usage, rfl⟩) fun _ => rfl

theorem WorkflowFailure.FromActivity.controllerHardStop {failure : WorkflowFailure}
    (external : failure.FromActivity) : failure.controllerHardStop? = none := by
  cases failure <;> first | rfl | cases external

theorem recordIdentityFailure_leads {α : Type} {run : StageRun} {asked : AttemptRequest}
    {launched : LaunchedAttempt} {failure : WorkflowFailure} {returns : α → RunWorld → Prop} :
    Leads (stageRunMachine run.input) (recordIdentityFailure run asked launched failure) world
      returns (fun _ after => ∃ synced, after.events = world.events ++ synced ∧
        ∀ event ∈ synced, event.inert = true) := by
  have nothing : ∃ synced, world.events = world.events ++ synced ∧
      ∀ event ∈ synced, RunEvent.inert event = true := ⟨[], by simp, by simp⟩
  have failed : ∃ synced, world.events ++ [.attemptSyncFailed] = world.events ++ synced ∧
      ∀ event ∈ synced, RunEvent.inert event = true := ⟨_, rfl, by simp [RunEvent.inert]⟩
  have recording : ∀ after : RunWorld, (∃ synced, after.events = world.events ++ synced ∧
      ∀ event ∈ synced, RunEvent.inert event = true) →
      Leads (stageRunMachine run.input)
        (do updateState fun state => { state with
              attempts := state.attempts ++ [attemptSummary asked launched ⟨[], [], []⟩] }
            refreshScopeBudgetUsage run
            throw failure : Workflow α) after returns
        (fun _ after => ∃ synced, after.events = world.events ++ synced ∧
          ∀ event ∈ synced, event.inert = true) := by
    intro after written
    simp only [leads_bind, leads_updateState, leads_thrown]
    refine refreshScopeBudgetUsage_leads.mono ?_ ?_
    · rintro _ _ ⟨usage, rfl⟩
      exact written
    · rintro _ _ rfl
      exact written
  unfold recordIdentityFailure
  dsimp only
  split
  · exact leads_bind.2 (leads_thrown.2 nothing)
  split
  · refine leads_bind.2 (leads_caught.2 (leads_syncAttempt (recording _ nothing) fun cause _ => ?_))
    split
    · exact leads_bind.2 (leads_thrown.2 failed)
    · exact leads_updateState.2 (recording _ failed)
  · exact recording _ nothing

/-- The synchronization itself never fails a run; its failure is a debt. -/
theorem syncRecordedAttempt_leads {run : StageRun} {launched : LaunchedAttempt} :
    Leads (stageRunMachine run.input) (syncRecordedAttempt run launched) world
      (fun _ after => after = world ∨ ∃ debt, after =
        (world.noting [.attemptSyncFailed]).withState (·.withDebts [debt]))
      (fun _ _ => False) := by
  unfold syncRecordedAttempt
  split
  · refine leads_caught.2 (leads_syncAttempt (.inl rfl) fun failure external => ?_)
    simp only [external.controllerHardStop, Option.isSome_none, Bool.false_eq_true, if_false]
    rw [leads_updateState]
    exact .inr ⟨_, rfl⟩
  · exact leads_pure.2 (.inl rfl)

end

/-! ## The whole attempt -/

/-- The state with the attempt on record and its usage counted. -/
def recordedState (run : StageRun) (asked : AttemptRequest) (launched : LaunchedAttempt)
    (taken : AttemptTaken) (usage : StageQualityScopeBudgetUsage) (state : StageRunState) :
    StageRunState :=
  { recordAttempt run asked launched taken.artifactIdentity taken.route
      (state.opened asked.role launched.executionPolicy.maxRepairRounds) with
    scopeBudgetUsage := usage }

/-- What an attempt answers, whatever the state it answers in. -/
structure Answers (run : StageRun) (asked : AttemptRequest) (choice : Materialization)
    (launched : LaunchedAttempt) (taken : AttemptTaken) : Prop where
  attemptRef : launched.attemptRef = attemptRefOf choice.stageAttemptId
  childInput : launched.childInput = (choice.attempt run.input asked).workflowInput
  policy : run.executionPolicy launched.childInput = .ok launched.executionPolicy
  snapshot : asked.role.reviews = false → choice.snapshotDebtRef = none
  outcome : attemptOutcome run asked launched.result = .ok taken.outcome
  identity : attemptArtifactIdentity run asked launched.result = .ok taken.artifactIdentity
  told : taken = {
    attemptRole := asked.role
    attemptRef := launched.attemptRef
    envelope := launched.result.qualityEnvelope
    outcome := taken.outcome
    artifactProducedByAttempt := !asked.role.reviews &&
      attemptReturnedArtifactIdentity run launched.result
    route := evaluateStageQualityAttemptRoute launched.childInput.toRecord
      launched.result.routeImpact
    executionPolicy := launched.executionPolicy
    reviewInputSnapshotQualityDebtRef := snapshotDebtRef? launched.childInput
    artifactIdentity := taken.artifactIdentity }

/-- What taking an attempt does to the world of the run. -/
structure Takes (run : StageRun) (asked : AttemptRequest) (before : RunWorld)
    (choice : Materialization) (launched : LaunchedAttempt) (taken : AttemptTaken)
    (after : RunWorld) : Prop extends Answers run asked choice launched taken where
  row : ∃ row : AttemptRow, row.Holds launched.attemptRef asked ∧
    Enters row before.ledger after.ledger
  observed : Observes launched.result before.controller.observedSessions
    after.controller.observedSessions
  state : ∃ usage recorded, after.state = settleAttempt run asked launched recorded ∧
    (recorded = recordedState run asked launched taken usage before.state ∨
      .attemptSyncFailed ∈ after.events ∧ ∃ debt, recorded =
        (recordedState run asked launched taken usage before.state).withDebts [debt])
  events : ∃ synced, (∀ event ∈ synced, event.inert = true) ∧
    after.events = before.events ++ launchEvents run asked choice before.state launched.result ++
      .routeEvaluated launched.attemptRef asked.role taken.route.decision :: synced

theorem runAttempt_leads {run : StageRun} {asked : AttemptRequest} {world : RunWorld} :
    Leads (stageRunMachine run.input) (runAttempt run asked) world
      (fun taken after => ∃ choice launched, Takes run asked world choice launched taken after)
      (fun _ after => Stumbles asked.role world.events after.events) := by
  simp only [runAttempt, leads_bind]
  refine launchAttempt_leads.mono ?_ fun _ _ stumbles => stumbles
  rintro launched middle ⟨choice, launches⟩
  have stumbles : ∀ synced, (∀ event ∈ synced, RunEvent.inert event = true) →
      Stumbles asked.role world.events (middle.events ++ synced) := by
    intro synced inert
    refine .of_calm (launchEvents run asked choice world.state launched.result ++ synced)
      (by rw [launches.events, List.append_assoc]) ?_ fun event listed => ?_
    · simp [List.countP_append, (countP_inert inert).1]
    · rcases List.mem_append.1 listed with listed | listed
      · exact calm_launchEvents event listed
      · exact .inl (inert event listed)
  have stops : Stumbles asked.role world.events middle.events := by
    simpa using stumbles [] (by simp)
  refine observeSession_leads.mono ?_ ?_
  swap
  · rintro _ _ rfl
    exact stops
  rintro _ after ⟨sessions, observes, rfl⟩
  refine leads_checked (fun outcome reported => ?_) (fun _ => stops)
  refine leads_caught.2 (leads_controlled.2 ?_)
  cases identified : attemptArtifactIdentity run asked launched.result with
  | error failure =>
    refine recordIdentityFailure_leads.mono (fun _ _ stumbled => stumbled) ?_
    rintro _ after ⟨synced, written, inert⟩
    rw [written]
    exact stumbles synced inert
  | ok identity =>
    simp only [ends_ok, leads_note, leads_updateState]
    have evaluated : ∀ after : RunWorld, after.events = middle.events ++ [.routeEvaluated
        launched.attemptRef asked.role (evaluateStageQualityAttemptRoute launched.childInput.toRecord
          launched.result.routeImpact).decision] →
        Stumbles asked.role world.events after.events := fun after written =>
      ⟨launchEvents run asked choice world.state launched.result, _, by rw [written, launches.events],
        starts_launchEvents.le, calm_launchEvents, .inr ⟨_, _, rfl⟩⟩
    refine refreshScopeBudgetUsage_leads.mono ?_ ?_
    swap
    · rintro _ _ rfl
      exact evaluated _ rfl
    rintro _ _ ⟨usage, rfl⟩
    refine syncRecordedAttempt_leads.mono ?_ (fun _ _ never => never.elim)
    rintro _ last synced
    refine leads_pure.2 ⟨choice, launched, ⟨launches.attemptRef, launches.childInput,
      launches.policy, launches.snapshot, reported, identified, rfl⟩, ?_, ?_, ?_, ?_⟩
    · rcases synced with rfl | ⟨debt, rfl⟩ <;> exact launches.row
    · rw [← launches.observed]
      rcases synced with rfl | ⟨debt, rfl⟩ <;> exact observes
    · refine ⟨usage, ?_⟩
      rcases synced with rfl | ⟨debt, rfl⟩
      · refine ⟨_, rfl, .inl ?_⟩
        rw [recordedState, ← launches.state]
        rfl
      · refine ⟨_, rfl, .inr ⟨by simp, debt, ?_⟩⟩
        rw [recordedState, ← launches.state]
        rfl
    · rcases synced with rfl | ⟨debt, rfl⟩
      · refine ⟨[], by simp, ?_⟩
        simp [launches.events]
      · refine ⟨[.attemptSyncFailed], by simp [RunEvent.inert], ?_⟩
        simp [launches.events]

end OnePersonLab.Stage

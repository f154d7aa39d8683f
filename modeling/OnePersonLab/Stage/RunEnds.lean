import OnePersonLab.Stage.RunAccounts

/-!
# How a StageRun may end

Every return of the workflow function has to settle the accounts of its run. A
return that has been terminalized settles them as well as the state it was given.
-/

namespace OnePersonLab.Stage

open Contract Lib Evolution

/-- The returns that list the open findings among the debts. -/
def Exit.reports : Exit → Bool
  | .attemptStopped | .repairWithoutArtifact | .caught => false
  | _ => true

/-- What holds of a state that a run ends in. -/
structure EndFacts (run : StageRun) (events : List RunEvent) (exit : Exit)
    (state : StageRunState) : Prop where
  within : exit ≠ .outOfFuel
  clear : state.status = .completed → OwesNothing run.input events state
  reported : state.status = .completedWithQualityDebt → exit.reports = true →
    ∀ finding, Unclosed state finding → findingDebtRef finding ∈ state.qualityDebtRefs
  sound : state.status = .completed → .formalReviewNotRequired ∉ events →
    .reviewerSessionReused ∉ events → SoundlyReviewed run.input events state
  route : run.patches.Routes → RouteLaw state events

/-- What holds when a run fails: all that later steps build on. -/
structure Broken (run : StageRun) (world : RunWorld) : Prop where
  spent : Spent 8 3 world.events
  route : run.patches.Routes → RouteLaw world.state world.events

def Ending.Holds (facts : Exit → StageRunState → Prop) : Ending → Prop
  | .terminalize exit next => facts exit next
  | .ended result => facts result.exit result.state

/-- A return settles the accounts. -/
structure Exits (run : StageRun) (ending : Ending) (world : RunWorld) : Prop where
  spent : Spent 8 3 world.events
  facts : ending.Holds (EndFacts run world.events)

def Course.Holds {α : Type} (ends : Ending → Prop) (goes : α → Prop) : Course α → Prop
  | .returns ending => ends ending
  | .continues value => goes value

theorem RouteLaw.of_state {state next : StageRunState} {events : List RunEvent}
    (law : RouteLaw state events) (selected : next.selectedStageRoute = state.selectedStageRoute)
    (decisive : next.decisiveAttemptRef = state.decisiveAttemptRef) : RouteLaw next events := by
  cases law with
  | undecided quiet => exact .undecided quiet
  | produced quiet => exact .produced quiet
  | reviewed quiet follows selects =>
    refine .reviewed quiet follows fun admitted => ?_
    exact ⟨selected.trans (selects admitted).1, decisive.trans (selects admitted).2⟩

section Same

variable {input : StageRunInput} {events : List RunEvent} {state next : StageRunState}

theorem Unclosed.of_same {finding : StageQualityFinding} (open_ : Unclosed next finding)
    (findings : next.findings = state.findings)
    (closures : next.findingClosures = state.findingClosures) : Unclosed state finding := by
  unfold Unclosed at open_ ⊢
  rwa [findings, closures] at open_

theorem SoundlyReviewed.of_same (sound : SoundlyReviewed input events state)
    (receipts : next.reviewReceipts = state.reviewReceipts)
    (identity : next.artifactIdentity = state.artifactIdentity)
    (attempts : next.attempts = state.attempts) (findings : next.findings = state.findings)
    (closures : next.findingClosures = state.findingClosures) :
    SoundlyReviewed input events next := by
  obtain ⟨⟨receipt, earlier, review, passed⟩, closed⟩ := sound
  refine ⟨⟨receipt, earlier, review, receipts ▸ passed.last, passed.verdict, passed.producer,
    identity ▸ passed.refs, identity ▸ passed.hashes, attempts ▸ passed.attempts, passed.reviewer,
    passed.session⟩, fun finding open_ => closed finding (open_.of_same findings closures)⟩

end Same

/-! ## Terminalizing -/

/-- What terminalizing leaves of the state it was given. -/
structure Terminalizes (next ended : StageRunState) : Prop extends SameWork next ended where
  debts : ended.qualityDebtRefs = next.qualityDebtRefs
  status : ended.status = next.status ∨ ended.status = .failed

namespace Terminalizes

variable {run : StageRun} {events : List RunEvent} {exit : Exit}
  {next state ended : StageRunState}

theorem refl (state : StageRunState) : Terminalizes state state :=
  ⟨.refl state, rfl, .inl rfl⟩

theorem withRouteDebts (terminalizes : Terminalizes next state) {refs : List String} :
    Terminalizes next (state.withRouteDebts refs) :=
  ⟨terminalizes.toSameWork.withRouteDebts, terminalizes.debts, terminalizes.status⟩

theorem facts (terminalizes : Terminalizes next ended) (facts : EndFacts run events exit next) :
    EndFacts run events exit ended := by
  have same := terminalizes.toSameWork
  have kept : ∀ {status}, ended.status = status → status ≠ .failed → next.status = status := by
    intro status reached other
    rcases terminalizes.status with kept | failed
    · exact kept ▸ reached
    · exact absurd (reached.symm.trans failed) other
  refine ⟨facts.within, fun completed free clean => ?_, fun indebted reports finding open_ => ?_,
    fun completed needed unused => ?_, fun routes => ?_⟩
  · rw [terminalizes.debts]
    exact facts.clear (kept completed (by decide)) free clean
  · rw [terminalizes.debts]
    exact facts.reported (kept indebted (by decide)) reports finding
      (open_.of_same same.findings same.findingClosures)
  · exact (facts.sound (kept completed (by decide)) needed unused).of_same same.reviewReceipts
      same.artifactIdentity same.attempts same.findings same.findingClosures
  · exact (facts.route routes).of_state same.selectedStageRoute same.decisiveAttemptRef

end Terminalizes

section Terminalize

variable {run : StageRun} {world : RunWorld}

variable {next : StageRunState}

theorem withRouteDecisionDebt_terminalizes :
    Terminalizes next (run.withRouteDecisionDebt next) := by
  unfold StageRun.withRouteDecisionDebt
  split
  · exact (Terminalizes.refl next).withRouteDebts
  · exact .refl next

theorem recordHandOff_terminalizes {handedOff : RouteMaterialization} {state : StageRunState}
    (terminalizes : Terminalizes next state) :
    Terminalizes next (run.recordHandOff handedOff state) := by
  have noted : Terminalizes next { state with nextStageRunLaunch := some handedOff } :=
    ⟨terminalizes.toSameWork.trans (by constructor <;> rfl), terminalizes.debts,
      terminalizes.status⟩
  unfold StageRun.recordHandOff
  dsimp only
  split
  · exact noted.withRouteDebts
  · exact noted

theorem handOff_leads {request : RouteLaunchRequest} (terminalizes : Terminalizes next world.state)
    :
    Leads (stageRunMachine run.input) (run.handOff request) world
      (fun _ after => Terminalizes next after.state ∧ after.events = world.events)
      (fun _ after => Terminalizes next after.state ∧ after.events = world.events) := by
  unfold StageRun.handOff
  refine leads_caught.2 (leads_bind.2 (leads_launchRoute
    (fun handedOff => leads_pure.2 ⟨terminalizes, rfl⟩) fun failure _ => ?_))
  dsimp only
  split
  · exact leads_bind.2 (leads_thrown.2 ⟨terminalizes, rfl⟩)
  · have fails : ∀ reason, Terminalizes next
        { world.state with status := .failed, blockedReason := reason } := fun _ =>
      ⟨terminalizes.toSameWork.trans (by constructor <;> rfl), terminalizes.debts, .inr rfl⟩
    exact leads_bind.2 (leads_updateState.2 (leads_pure.2 ⟨(fails _).withRouteDebts, rfl⟩))

/-- The projection is written down with the state, whatever becomes of it. -/
theorem projected_leads (terminalizes : Terminalizes next world.state) :
    Leads (stageRunMachine run.input)
      (do let state ← readState
          tryCatch
            (do project state
                updateState fun state => { state with sqliteProjection := .synced })
            fun failure => updateState fun state =>
              { state with sqliteProjection := .failed failure.message }
          readState) world
      (fun ended after => Terminalizes next ended ∧ after.state = ended ∧
        after.events = world.events)
      (fun _ after => Terminalizes next after.state ∧ after.events = world.events) := by
  have noted : ∀ projection, Terminalizes next { world.state with sqliteProjection := projection } :=
    fun _ => ⟨terminalizes.toSameWork.trans (by constructor <;> rfl), terminalizes.debts,
      terminalizes.status⟩
  simp only [leads_bind, leads_readState, leads_caught, leads_updateState]
  exact leads_project ⟨noted _, trivial, rfl⟩ fun _ => ⟨noted _, trivial, rfl⟩

theorem terminalize_leads :
    Leads (stageRunMachine run.input) (terminalize run next) world
      (fun ended after => Terminalizes next ended ∧ after.state = ended ∧
        after.events = world.events)
      (fun _ after => Terminalizes next after.state ∧ after.events = world.events) := by
  have opened : Terminalizes next (run.withRouteDecisionDebt next) :=
    withRouteDecisionDebt_terminalizes
  unfold terminalize
  refine leads_bind.2 (leads_updateState.2 (leads_bind.2 (leads_read.2 ?_)))
  split
  · refine leads_bind.2 ((handOff_leads opened).mono ?_ fun _ _ failed => failed)
    rintro answer after ⟨kept, silent⟩
    cases answer with
    | some handedOff =>
      refine leads_bind.2 (leads_updateState.2 ((projected_leads
        (recordHandOff_terminalizes kept)).mono ?_ ?_))
      · exact fun _ _ ended => ⟨ended.1, ended.2.1, ended.2.2.trans silent⟩
      · exact fun _ _ failed => ⟨failed.1, failed.2.trans silent⟩
    | none =>
      refine (projected_leads kept).mono ?_ ?_
      · exact fun _ _ ended => ⟨ended.1, ended.2.1, ended.2.2.trans silent⟩
      · exact fun _ _ failed => ⟨failed.1, failed.2.trans silent⟩
  · exact projected_leads opened

end Terminalize

end OnePersonLab.Stage

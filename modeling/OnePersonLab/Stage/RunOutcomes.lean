import OnePersonLab.Stage.RunPhases

/-!
# The outcome of a run

From the phases to the workflow function: a run that is taken up again joins the
rounds of repair where it was left, a failure is caught, and every return settles
the accounts of the run.
-/

namespace OnePersonLab.Stage

open Contract Lib Evolution

section

variable {run : StageRun} {world : RunWorld}

/-! ## Recovered runs -/

/-- A run that takes up an earlier one. -/
structure Resumed (run : StageRun) (recovery : RecoveryResume) (world : RunWorld) : Prop
    extends Standing run 0 0 world where
  given : run.input.recoveryResume = some recovery
  receipts : world.state.reviewReceipts = recovery.reviewReceipts
  normalized : ∀ finding ∈ world.state.findings, Normalized finding
  producer : currentArtifactProducer run.input world.events =
    some recovery.artifactProducerAttemptRef

/-- A recovered receipt without a revision is a debt that the run starts with. -/
theorem Resumed.owed {recovery : RecoveryResume} {receipt : StageReviewReceipt}
    (resumed : Resumed run recovery world)
    (last : receipt ∈ world.state.reviewReceipts.getLast?) :
    revisionTransport? receipt = none → DebtFree world.events → ¬CleanStart run.input := by
  intro missing _ clean
  refine (clean recovery resumed.given).2 receipt ?_ missing
  rwa [← resumed.receipts]

theorem recoveredReviewPhase_leads {recovery : RecoveryResume}
    (resumed : Resumed run recovery world) :
    Leads (stageRunMachine run.input) (recoveredReviewPhase run recovery) world
      (fun course after => course.Holds (Exits run · after) (Repairing run · after))
      (fun _ after => Broken run after) := by
  have broken : Broken run world := resumed.toStanding.broken (by decide) (by decide)
  unfold recoveredReviewPhase
  refine leads_bind.2 (leads_readState.2 ?_)
  dsimp only
  split
  · exact leads_thrown.2 broken
  rename_i receipt found
  have last := (Option.filter_eq_some_iff.1 found).1
  refine leads_bind.2 (leads_checked (fun findings validated => ?_) fun _ => broken)
  refine leads_bind.2 ((revisionTransport_leads (resumed.owed last)).mono ?_
    fun _ _ broken => broken)
  rintro transport after rests
  have standing := resumed.toStanding.proceeds rests.toProceeds
  have broken : Broken run after := standing.broken (by decide) (by decide)
  have carries : Carries findings after.state := by
    simp only [validateInitialStageQualityReviewOutcome, bind_eq_ok, ensure_eq_ok, pure_eq_ok]
      at validated
    obtain ⟨findings, normal, _, -, _, -, rfl⟩ := validated
    refine ⟨?_, (validateStageQualityFindings_eq_ok normal).2⟩
    rw [rests.findings]
    exact identities_of_validated_again resumed.normalized normal
  split
  · exact leads_bind.2 (leads_thrown.2 broken)
  refine leads_bind.2 (leads_readState.2 (leads_bind.2
    ((scopeBudget_leads broken carries.names).mono ?_ fun _ _ broken => broken)))
  rintro (_ | ended) final
  · rintro rfl
    refine leads_pure.2 ⟨Nat.le_add_left _ _, ⟨0, 0, standing, ?_, ?_⟩, carries⟩
    all_goals
      dsimp only
      omega
  · exact fun exits => leads_pure.2 exits

theorem Proceeds.producer {before after : RunWorld} (proceeds : Proceeds run before after) :
    currentArtifactProducer run.input after.events =
      currentArtifactProducer run.input before.events := by
  obtain ⟨more, written, inert⟩ := proceeds.events
  rw [written, currentArtifactProducer_append_inert inert]

theorem recoveredReReviewPhase_leads {recovery : RecoveryResume}
    (resumed : Resumed run recovery world) :
    Leads (stageRunMachine run.input) (recoveredReReviewPhase run recovery) world
      (fun course after => course.Holds (Exits run · after) (Repairing run · after))
      (fun _ after => Broken run after) := by
  have standing := resumed.toStanding
  have broken : Broken run world := standing.broken (by decide) (by decide)
  unfold recoveredReReviewPhase
  refine leads_bind.2 (leads_readState.2 (leads_bind.2 (leads_checked (fun repairMap _ => ?_)
    fun _ => broken)))
  cases received : world.state.reviewReceipts.getLast? with
  | none => exact leads_bind.2 (leads_thrown.2 broken)
  | some receipt =>
    dsimp only
    refine leads_bind.2 ((revisionTransport_leads (resumed.owed received)).mono ?_
      fun _ _ broken => broken)
    rintro transport before rests
    have standing := standing.proceeds rests.toProceeds
    have producer : currentArtifactProducer run.input before.events =
        some recovery.artifactProducerAttemptRef := rests.producer.trans resumed.producer
    refine leads_bind.2 (runAttempt_leads.mono ?_ ?_)
    swap
    · exact fun _ _ stumbles => stumbles.broken standing (by decide) (by simp [plainAttempt])
    rintro review taken ⟨choice, launched, takes⟩
    have judged := (takes.judged standing rfl producer).proceeds
      (.idle rfl rfl rfl rfl rfl rfl rfl : Proceeds run taken (taken.withState fun state =>
        { state with repairMap }))
    have findings : taken.state.findings = world.state.findings :=
      takes.sameWork.findings.trans rests.findings
    refine leads_bind.2 (leads_updateState.2 (leads_bind.2 (leads_readState.2 ?_)))
    generalize same : taken.withState _ = after at judged ⊢
    have findings : after.state.findings = world.state.findings := by
      rw [← same]
      exact findings
    split
    · rename_i stopped
      exact leads_pure.2 (judged.stopped_exits (by decide) (by decide) stopped)
    rename_i going
    have going : after.state.stopped = false := by simpa using going
    refine leads_bind.2 ((admitReview_leads judged going).mono ?_ fun _ _ never => never.elim)
    rintro _ admitted ⟨reviewed, closes⟩
    have broken : Broken run admitted := reviewed.broken (by decide) (by decide)
    cases given : review.outcome with
    | none => exact leads_thrown.2 broken
    | some outcome =>
      dsimp only
      split
      · exact leads_bind.2 ((stopAtReview_leads reviewed.toJudged (by decide) (by decide)).mono
          (fun _ _ exits => leads_pure.2 exits) fun _ _ broken => broken)
      rename_i reads
      have reads : outcome.hardStops = false := by simpa using reads
      rw [findings]
      refine leads_bind.2 (leads_checked (fun evaluation evaluated => ?_) fun _ => broken)
      refine leads_bind.2 ((askForReceipt_leads reviewed.toJudged rfl (by decide)
        (by decide)).mono ?_ fun _ _ broken => broken)
      rintro receipt issued ⟨issues, rests', missing⟩
      have carries : Carries world.state.findings issued.state :=
        .refl (rests'.findings.trans (closes.findings.trans findings)) resumed.normalized
      have recorded := (reviewed.proceeds rests'.toProceeds).record issues carries
        (evaluateReReview_facts reads resumed.normalized evaluated)
      have missing : revisionTransport? receipt = none →
          .revisionTransportMissing ∈ (issued.withState (recordReReview review receipt
            evaluation)).events := missing
      refine leads_bind.2 (leads_updateState.2 ?_)
      generalize issued.withState _ = last at recorded missing ⊢
      obtain ⟨passes, settles⟩ := recorded.ends (by decide) (by decide) given
      split
      · exact leads_bind.2 ((passes ‹_›).mono (fun _ _ exits => leads_pure.2 exits)
          fun _ _ broken => broken)
      rename_i fails
      split
      · exact leads_bind.2 ((settles ‹_› _).mono (fun _ _ exits => leads_pure.2 exits)
          fun _ _ broken => broken)
      rename_i more
      obtain rfl : outcome = .repairRequired := by
        cases outcome <;> simp_all [StageQualityOutcome.hardStops]
      have listed : Reviewed run _ 1 0 review (last.withState fun state => { state with
          findings := openFindings world.state.findings evaluation.closure evaluation.report
          repairRoundsUsed := recovery.repairRoundsUsed }) :=
        recorded.toReviewed.proceeds (.idle rfl rfl rfl rfl rfl rfl rfl)
      refine leads_bind.2 (leads_updateState.2 (leads_bind.2 (Leads.mono
        (revisionTransport_leads (owed_of_missing missing)) ?_ fun _ _ broken => broken)))
      rintro transport bound rests''
      have reviewed := listed.proceeds rests''.toProceeds
      have carries : Carries (openFindings world.state.findings evaluation.closure
          evaluation.report) bound.state := .refl rests''.findings recorded.facts.normalized
      refine leads_bind.2 ((scopeBudget_leads (reviewed.broken (by decide) (by decide))
        carries.names).mono ?_ fun _ _ broken => broken)
      rintro (_ | ended) final
      · rintro rfl
        dsimp only
        split
        · exact leads_bind.2 ((endInRouteBack_leads reviewed (by decide) (by decide)
            carries.names).mono (fun _ _ exits => leads_pure.2 exits) fun _ _ broken => broken)
        rename_i here
        refine leads_bind.2 (leads_checked (fun disposition classified => ?_)
          fun _ => reviewed.broken (by decide) (by decide))
        split
        · exact leads_bind.2 ((endInRepairBudget_leads reviewed (by decide) (by decide)
            carries.names).mono (fun _ _ exits => leads_pure.2 exits) fun _ _ broken => broken)
        rename_i goes
        refine leads_pure.2 ⟨Nat.le_add_left _ _, ⟨1, 0, reviewed.standing fun routes => ?_, ?_, ?_⟩,
          carries⟩
        · by_contra accepted
          obtain ⟨decision, accepted⟩ := Option.ne_none_iff_exists'.1 accepted
          rcases takes.accepted_reReviewer rfl routes.earlyRepairRouteBack accepted given evaluated
            with back | last
          · exact here back
          · exact goes (Except.ok.inj (classified.symm.trans last))
        all_goals
          dsimp only
          omega
      · exact fun exits => leads_pure.2 exits

/-! ## The whole run -/

/-- What the workflow starts from once its input has been validated. -/
structure Ready (run : StageRun) (world : RunWorld) : Prop extends Standing run 0 0 world where
  producer : ∀ recovery, run.input.recoveryResume = some recovery →
    currentArtifactProducer run.input world.events = some recovery.artifactProducerAttemptRef
  receipts : ∀ recovery, run.input.recoveryResume = some recovery →
    world.state.reviewReceipts = recovery.reviewReceipts
  normalized : ∀ finding ∈ world.state.findings, Normalized finding

theorem openingPhase_leads (ready : Ready run world) :
    Leads (stageRunMachine run.input) (openingPhase run) world
      (fun course after => course.Holds (Exits run · after) (Repairing run · after))
      (fun _ after => Broken run after) := by
  unfold openingPhase
  split
  · refine leads_bind.2 ((producerPhase_leads ready.toStanding).mono ?_ fun _ _ broken => broken)
    rintro (ending | locals) after opened
    · exact leads_pure.2 opened
    · exact reviewPhase_leads opened
  · rename_i recovery given
    have resumed : Resumed run recovery world :=
      ⟨ready.toStanding, given, ready.receipts recovery given, ready.normalized,
        ready.producer recovery given⟩
    cases role : recovery.resumeAfterRole with
    | repairer => exact recoveredReReviewPhase_leads resumed
    | reviewer => exact recoveredReviewPhase_leads resumed
    | producer =>
      refine reviewPhase_leads ⟨{ ready.toStanding with spent := ?_ }, resumed.producer⟩
      exact ⟨ready.spent.starts.trans (Nat.zero_le 1), ready.spent.repairs⟩

theorem workflowBody_leads {fuel : Nat} (enough : 3 ≤ fuel) (ready : Ready run world) :
    Leads (stageRunMachine run.input) (workflowBody run fuel) world
      (fun ending after => Exits run ending after) (fun _ after => Broken run after) := by
  unfold workflowBody
  refine leads_bind.2 ((openingPhase_leads ready).mono ?_ fun _ _ broken => broken)
  rintro (ending | start) after course
  · exact leads_pure.2 course
  · have repairing : Repairing run start after := course
    have := repairing.round
    exact repairRounds_leads repairing (by omega)

theorem caughtState_facts (run : StageRun) (failure : WorkflowFailure) (state : StageRunState) :
    (caughtState run failure state).status ≠ .completed ∧
      (caughtState run failure state).selectedStageRoute = state.selectedStageRoute ∧
      (caughtState run failure state).decisiveAttemptRef = state.decisiveAttemptRef := by
  unfold caughtState
  dsimp only
  split
  · refine ⟨?_, rfl, rfl⟩
    dsimp only
    split <;> simp
  · split <;> exact ⟨by simp [StageRunState.endsWith, StageRunState.withDebts], rfl, rfl⟩

/-- The outer `catch` never completes a run. -/
theorem catchFailure_leads {failure : WorkflowFailure} (broken : Broken run world) :
    Leads (stageRunMachine run.input) (catchFailure run failure) world
      (fun ending after => Exits run ending after) (fun _ after => Broken run after) := by
  unfold catchFailure
  dsimp only
  split
  · exact leads_bind.2 (leads_thrown.2 broken)
  refine leads_bind.2 (leads_readState.2 ?_)
  split
  · rename_i stopped
    exact leads_pure.2 ⟨broken.spent, .of_status (by decide)
      (StageRunState.stopped_ne_completed stopped) (fun _ => rfl) broken.route⟩
  · obtain ⟨incomplete, selected, decisive⟩ := caughtState_facts run failure world.state
    exact leads_pure.2 ⟨broken.spent, .of_status (by decide) incomplete (fun _ => rfl)
      fun routes => (broken.route routes).of_state selected decisive⟩

/-- What a run that has ended answers for. -/
structure Settles (run : StageRun) (ended : StageRunEnd) (world : RunWorld) : Prop where
  spent : Spent 8 3 world.events
  facts : EndFacts run world.events ended.exit ended.state

theorem finish_leads (ending : Ending) (world : RunWorld) : Exits run ending world →
    Leads (stageRunMachine run.input)
      (match ending with
        | .ended result => pure result
        | .terminalize exit next => do
          let state ← terminalize run next
          return ⟨exit, state⟩ : Workflow StageRunEnd) world
      (fun ended after => Settles run ended after) (fun _ after => Broken run after) := by
  rcases ending with ⟨exit, next⟩ | result <;> rintro ⟨spent, facts⟩
  · refine leads_bind.2 (terminalize_leads.mono ?_ ?_)
    · rintro state last ⟨terminalizes, -, silent⟩
      refine leads_pure.2 ⟨silent ▸ spent, terminalizes.facts ?_⟩
      rw [silent]
      exact facts
    · rintro failure last ⟨terminalizes, silent⟩
      have settled : EndFacts run world.events exit last.state := terminalizes.facts facts
      exact ⟨silent ▸ spent, silent ▸ settled.route⟩
  · exact leads_pure.2 ⟨spent, facts⟩

theorem controlStageRun_leads {fuel : Nat} (enough : 3 ≤ fuel) (ready : Ready run world) :
    Leads (stageRunMachine run.input) (controlStageRun run fuel) world
      (fun ended after => Settles run ended after) (fun _ after => Broken run after) := by
  unfold controlStageRun
  refine leads_bind.2 (leads_caught.2 ?_)
  refine (workflowBody_leads enough ready).mono finish_leads fun failure after broken => ?_
  exact (catchFailure_leads broken).mono finish_leads fun _ _ broken => broken

/-! ## From the input -/

theorem initialController_seen {state : StageRunState} {ledger : List AttemptRow}
    {events : List RunEvent} : SessionsSeen ⟨initialController state, ledger, events⟩ := by
  intro attempt listed _ session given named
  simp only [initialController, List.mem_filter, List.mem_filterMap, decide_eq_true_eq]
  exact ⟨⟨attempt, listed, given⟩, named⟩

theorem initialState_ready (input : StageRunInput) (patches : StageRunPatches)
    (scopeBudget : StageQualityScopeBudget) (identity : ArtifactIdentity) {maxRepairRounds : Nat}
    (bound : maxRepairRounds ≤ 3) (fresh : world.Fresh) :
    Ready { input, patches, scopeBudget } (world.withController fun _ =>
      initialController (initialState input patches maxRepairRounds identity)) := by
  have silent := fresh.events
  refine ⟨⟨⟨?_, ?_⟩, bound, fresh.distinct, initialController_seen, fun _ clean => ?_, fun _ => ?_⟩,
    fun recovery given => ?_, fun recovery given => ?_, ?_⟩
  · simp [silent]
  · simp [silent]
  · change ((input.recoveryResume.map RecoveryResume.qualityDebtRefs).getD []) = []
    cases given : input.recoveryResume with
    | none => rfl
    | some recovery => exact (clean recovery given).1
  · simp [silent, Undecided]
  · have given : input.recoveryResume = some recovery := given
    simp [currentArtifactProducer, lastProducing, silent, given]
  · have given : input.recoveryResume = some recovery := given
    change ((input.recoveryResume.map RecoveryResume.reviewReceipts).getD []) = _
    simp [given]
  · change ∀ finding ∈ (input.recoveryResume.map RecoveryResume.findings).getD [], Normalized finding
    cases input.recoveryResume with
    | none => simp
    | some recovery => exact recovery.normalized

/-- A run that fails does so within its budget, and keeps the law of its route. -/
structure Fails (patches : StageRunPatches) (world : RunWorld) : Prop where
  spent : Spent 8 3 world.events
  route : patches.Routes → RouteLaw world.state world.events

/-- Every run of the workflow settles its accounts or fails. -/
theorem stageRunWorkflow_leads {fuel : Nat} {patches : StageRunPatches} {input : StageRunInput}
    (enough : 3 ≤ fuel) (fresh : world.Fresh) :
    Leads (stageRunMachine input) (stageRunWorkflow fuel patches input) world
      (fun ended after => ∃ run : StageRun, run.input = input ∧ run.patches = patches ∧
        Settles run ended after)
      (fun _ after => Fails patches after) := by
  have nothing : ∀ after, after.events = world.events → Fails patches after := by
    intro after silent
    have none_yet : after.events = [] := silent.trans fresh.events
    refine ⟨?_, fun _ => .undecided ?_⟩
    · constructor <;> simp [none_yet]
    · simp [none_yet, Undecided]
  unfold stageRunWorkflow
  refine leads_bind.2 (leads_controlled.2 ?_)
  cases validateWorkflowStageRunInput input with
  | error failure => exact nothing world rfl
  | ok _ =>
    refine leads_bind.2 (leads_checked (fun scopeBudget _ => ?_) fun _ => nothing world rfl)
    refine leads_bind.2 (leads_checked (fun identity _ => ?_) fun _ => nothing world rfl)
    have bound : (integerBetween? input.formalReview.maxRepairRounds 0 3).getD 0 ≤ 3 := by
      cases read : integerBetween? input.formalReview.maxRepairRounds 0 3 with
      | none => exact Nat.zero_le 3
      | some rounds => exact (integerBetween?_eq_some read).2
    have ready := initialState_ready input patches scopeBudget identity bound fresh
    have controls : ∀ start, Ready { input, patches, scopeBudget } start →
        Leads (stageRunMachine input) (controlStageRun { input, patches, scopeBudget } fuel) start
          (fun ended after => ∃ run : StageRun, run.input = input ∧ run.patches = patches ∧
            Settles run ended after)
          (fun _ after => Fails patches after) := fun start ready =>
      (controlStageRun_leads enough ready).mono (fun _ _ settles => ⟨_, rfl, rfl, settles⟩)
        fun _ _ broken => ⟨broken.spent, broken.route⟩
    refine leads_bind.2 (leads_modify.2 ?_)
    dsimp only
    have silent : (world.withController fun _ => initialController
        (initialState input patches ((integerBetween? input.formalReview.maxRepairRounds 0 3).getD 0)
          identity)).events = world.events := rfl
    generalize RunWorld.withController _ _ = start at ready silent ⊢
    split
    · refine leads_bind.2 (Leads.mono
        (@refreshScopeBudgetUsage_leads ⟨input, patches, scopeBudget⟩ start) ?_ ?_)
      · rintro _ _ ⟨usage, rfl⟩
        exact controls _ ⟨ready.toStanding.withState rfl rfl rfl, ready.producer, ready.receipts,
          ready.normalized⟩
      · rintro _ _ rfl
        exact nothing _ silent
    · exact controls start ready

end

end OnePersonLab.Stage

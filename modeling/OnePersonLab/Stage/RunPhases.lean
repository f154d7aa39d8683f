import OnePersonLab.Stage.RunReturns

/-!
# The phases of a run

Each phase of the workflow either returns with the accounts settled or leaves a
run that the next phase can take up. The rounds of repair keep room for what is
left of their budget, whatever the attempts make of the bound.
-/

namespace OnePersonLab.Stage

open Contract Lib Evolution

/-! ## What the phases hand on -/

/-- A run whose artifact waits for its first review. -/
structure Opened (run : StageRun) (locals : Locals) (world : RunWorld) : Prop
    extends Standing run 1 0 world where
  producer : currentArtifactProducer run.input world.events =
    some locals.artifactProducerAttemptRef

/-- The findings given are those of the state, by id and requirement. -/
structure Carries (findings : List StageQualityFinding) (state : StageRunState) : Prop where
  same : findings.map StageQualityFinding.identity =
    state.findings.map StageQualityFinding.identity
  normalized : ∀ finding ∈ findings, Normalized finding

/-- A run that can take up its findings in a round of repair, with room for what
the rounds from there on may spend. -/
structure Repairing (run : StageRun) (start : RepairStart) (world : RunWorld) : Prop where
  round : 1 ≤ start.round
  standing : ∃ starts repairs, Standing run starts repairs world ∧
    starts + 2 * (4 - start.round) ≤ 8 ∧ repairs + (4 - start.round) ≤ 3
  carries : Carries start.findings world.state

/-- A repair that waits for its re-review. -/
structure Repaired (run : StageRun) (start : RepairStart) (repair : AttemptTaken)
    (world : RunWorld) : Prop where
  standing : ∃ starts repairs, Standing run starts repairs world ∧
    starts + 1 + 2 * (4 - start.round) ≤ 10 ∧ repairs + (4 - start.round) ≤ 4
  producer : currentArtifactProducer run.input world.events = some repair.attemptRef
  carries : Carries start.findings world.state

section

variable {findings : List StageQualityFinding} {state : StageRunState}

theorem Carries.refl (same : state.findings = findings)
    (normalized : ∀ finding ∈ findings, Normalized finding) : Carries findings state :=
  ⟨by rw [same], normalized⟩

theorem Carries.names (carries : Carries findings state) : Names findings state := by
  intro finding listed
  have named : finding.identity ∈ findings.map StageQualityFinding.identity :=
    carries.same ▸ List.mem_map_of_mem listed
  obtain ⟨other, listed', same⟩ := List.mem_map.1 named
  exact ⟨other, listed', congrArg Prod.fst same⟩

theorem Carries.of_findings {next : StageRunState} (carries : Carries findings state)
    (same : next.findings = state.findings) : Carries findings next :=
  ⟨by rw [same]; exact carries.same, carries.normalized⟩

end

section

variable {run : StageRun} {world : RunWorld}

/-! ## The producer -/

section

variable {taken : AttemptTaken}

theorem Closes.spent {before after : RunWorld} {starts repairs : Nat}
    (closes : Closes taken before after) (spent : Spent starts repairs before.events) :
    Spent starts repairs after.events := by
  obtain ⟨more, written, closing⟩ := closes.events
  have none : more.countP RunEvent.starts = 0 ∧ more.countP RunEvent.repairs = 0 :=
    ⟨List.countP_eq_zero.2 fun event listed => by simp [(closing event listed).silent.1],
      List.countP_eq_zero.2 fun event listed => by simp [(closing event listed).silent.2.1]⟩
  constructor
  · rw [written, List.countP_append, none.1]
    exact spent.starts
  · rw [written, List.countP_append, none.2]
    exact spent.repairs

theorem Closes.mem {before after : RunWorld} (closes : Closes taken before after) {event : RunEvent}
    (listed : event ∈ before.events) : event ∈ after.events := by
  obtain ⟨more, written, -⟩ := closes.events
  rw [written]
  exact List.mem_append_left _ listed

/-- The route of a producer whose artifact needs no review. -/
theorem commitProduced_leads {fails : WorkflowFailure → RunWorld → Prop}
    (quiet : run.patches.Routes → Undecided world.events) :
    Leads (stageRunMachine run.input) (commitTerminalRouteDecision taken) world
      (fun _ after => Closes taken world after ∧
        (run.patches.Routes → RouteLaw after.state after.events)) fails := by
  unfold commitTerminalRouteDecision
  split
  · exact leads_pure.2 ⟨⟨rfl, rfl, rfl, rfl, rfl, rfl, rfl, rfl, rfl, rfl, [], by simp, by simp⟩,
      fun routes => .undecided (quiet routes)⟩
  · rename_i decision accepted
    simp only [leads_bind, leads_modify, leads_note]
    exact ⟨⟨rfl, rfl, rfl, rfl, rfl, rfl, rfl, rfl, rfl, rfl, _, rfl, by simp [Closing, accepted]⟩,
      fun routes => .produced (quiet routes)⟩

theorem producerPhase_leads (standing : Standing run 0 0 world) :
    Leads (stageRunMachine run.input) (producerPhase run) world
      (fun course after => course.Holds (Exits run · after) (Opened run · after))
      (fun _ after => Broken run after) := by
  unfold producerPhase
  refine leads_bind.2 (leads_readState.2 (leads_bind.2 (runAttempt_leads.mono ?_ ?_)))
  swap
  · exact fun _ _ stumbles => stumbles.broken standing (by decide) (by simp [plainAttempt])
  rintro producer after ⟨choice, launched, takes⟩
  have spent : Spent 1 0 after.events := takes.spent standing.spent
  have room : Spent 8 3 after.events := ⟨spent.starts.trans (by decide), spent.repairs.trans (by decide)⟩
  have quiet : run.patches.Routes → Undecided after.events := fun routes =>
    takes.undecided (standing.quiet routes) fun reviews => by cases reviews
  refine leads_bind.2 (leads_readState.2 ?_)
  dsimp only
  split
  · rename_i stopped
    have ended : ∀ last : RunWorld, last.state.status = after.state.status →
        Spent 8 3 last.events → (run.patches.Routes → RouteLaw last.state last.events) →
        Exits run (.terminalize .attemptStopped last.state) last := by
      intro last status spent route
      refine ⟨spent, .of_status (by decide) ?_ (fun _ => rfl) route⟩
      rw [status]
      exact StageRunState.stopped_ne_completed stopped
    split
    · refine leads_bind.2 ((commitProduced_leads quiet).mono ?_ fun _ _ broken => broken)
      rintro _ last ⟨closes, route⟩
      exact leads_bind.2 (leads_readState.2 (leads_pure.2
        (ended last closes.status (closes.spent room) route)))
    · exact leads_bind.2 (leads_readState.2 (leads_pure.2
        (ended after rfl room fun routes => .undecided (quiet routes))))
  · rename_i going
    have going : after.state.stopped = false := by simpa using going
    have next := takes.standing standing rfl going
    split
    · rename_i unneeded
      refine leads_bind.2 ((commitProduced_leads quiet).mono ?_ fun _ _ broken => broken)
      rintro _ last ⟨closes, route⟩
      refine leads_bind.2 (leads_readState.2 (leads_pure.2 ⟨closes.spent room, ?_⟩))
      refine ⟨by decide, fun _ free clean => ?_, fun indebted => ?_, fun _ needed => ?_,
        fun routes => (route routes).of_state rfl rfl⟩
      · have kept : last.state.qualityDebtRefs = [] := by
          rw [closes.qualityDebtRefs]
          exact next.clear (fun event listed => free event (closes.mem listed)) clean
        exact kept
      · cases indebted
      · exact absurd (closes.mem (takes.formalReview unneeded)) needed
    · refine leads_pure.2 ⟨next, ?_⟩
      rw [currentArtifactProducer, takes.producing]
      rfl

end

/-! ## The first review -/

section

variable {asked : AttemptRequest} {starts repairs : Nat} {review : AttemptTaken}

/-- A review that decides on no route leaves a run that can go on. -/
theorem Reviewed.standing (reviewed : Reviewed run asked starts repairs review world)
    (declined : run.patches.Routes → review.route.decision = none) :
    Standing run starts repairs world where
  spent := reviewed.spent
  bound := by
    obtain ⟨choice, launched, answers⟩ := reviewed.answers
    rw [reviewed.bound, answers.executionPolicy_eq]
    exact answers.maxRepairRounds_le
  distinct := reviewed.distinct
  seen := reviewed.seen
  clear := reviewed.clear reviewed.going
  quiet routes := by
    have stands := reviewed.route routes
    rwa [RouteStands, declined routes] at stands

theorem Judged.stopped_exits (judged : Judged run asked starts repairs review world)
    (room : starts ≤ 8) (room' : repairs ≤ 3) (stopped : world.state.stopped = true) :
    Exits run (.terminalize .attemptStopped world.state) world :=
  judged.exits room room' (.of_status (by decide) (StageRunState.stopped_ne_completed stopped)
    (fun _ => rfl) fun routes => (judged.route routes).law)

theorem owed_of_missing {receipt : StageReviewReceipt}
    (missing : revisionTransport? receipt = none → .revisionTransportMissing ∈ world.events) :
    revisionTransport? receipt = none → DebtFree world.events → ¬CleanStart run.input :=
  fun absent free _ => by cases free _ (missing absent)

theorem receipted_recordReceipt {state : StageRunState} {receipt : StageReviewReceipt}
    {verdict : StageQualityReviewVerdict} (issues : Issues asked review verdict receipt) :
    Receipted asked review verdict (recordReceipt review receipt state) :=
  ⟨receipt, by simp [recordReceipt, StageRunState.withDebts], issues⟩

end

theorem not_unclosed_of_requiredIds {state : StageRunState}
    (settled : ∀ findingId ∈ requiredIds state.findings,
      findingId ∈ closedFindingIds state.findingClosures) :
    ∀ finding, ¬Unclosed state finding := by
  rintro finding ⟨listed, required, open_⟩
  exact open_ (settled _ (List.mem_map.2 ⟨finding, by simp [listed, required], rfl⟩))

theorem reviewPhase_leads {locals : Locals} (opened : Opened run locals world) :
    Leads (stageRunMachine run.input) (reviewPhase run locals) world
      (fun course after => course.Holds (Exits run · after) (Repairing run · after))
      (fun _ after => Broken run after) := by
  have standing := opened.toStanding
  unfold reviewPhase
  refine leads_bind.2 (leads_readState.2 (leads_bind.2 (runAttempt_leads.mono ?_ ?_)))
  swap
  · exact fun _ _ stumbles => stumbles.broken standing (by decide) (by simp [plainAttempt])
  rintro review after ⟨choice, launched, takes⟩
  have judged := takes.judged standing rfl opened.producer
  refine leads_bind.2 (leads_readState.2 ?_)
  dsimp only
  split
  · rename_i stopped
    exact leads_pure.2 (judged.stopped_exits (by decide) (by decide) stopped)
  rename_i going
  have going : after.state.stopped = false := by simpa using going
  refine leads_bind.2 ((admitReview_leads judged going).mono ?_ fun _ _ never => never.elim)
  rintro _ admitted ⟨reviewed, -⟩
  have broken : Broken run admitted := reviewed.broken (by decide) (by decide)
  cases given : review.outcome with
  | none => exact leads_thrown.2 broken
  | some outcome =>
    dsimp only
    split
    · exact leads_bind.2 ((stopAtReview_leads reviewed.toJudged (by decide) (by decide)).mono
        (fun _ _ exits => leads_pure.2 exits) fun _ _ broken => broken)
    rename_i reads
    refine leads_bind.2 (leads_checked (fun reported _ => ?_) fun _ => broken)
    refine leads_bind.2 (leads_checked (fun findings validated => ?_) fun _ => broken)
    refine leads_bind.2 ((askForReceipt_leads reviewed.toJudged rfl (by decide) (by decide)).mono ?_
      fun _ _ broken => broken)
    rintro receipt issued ⟨issues, rests, missing⟩
    refine leads_bind.2 ((revisionTransport_leads (owed_of_missing missing)).mono ?_
      fun _ _ broken => broken)
    rintro transport bound rests'
    refine leads_bind.2 (leads_updateState.2 ?_)
    have listed : Reviewed run _ 2 0 review (bound.withState fun state => { state with findings }) :=
      (reviewed.proceeds (rests.toProceeds.trans rests'.toProceeds)).proceeds
        (.idle rfl rfl rfl rfl rfl rfl rfl)
    have recorded : Reviewed run _ 2 0 review (bound.withState fun state =>
        recordReceipt review receipt { state with findings }) :=
      listed.proceeds (recordReceipt_proceeds listed.snapshot)
    simp only [validateInitialStageQualityReviewOutcome, bind_eq_ok, ensure_eq_ok, pure_eq_ok]
      at validated
    obtain ⟨findings, normal, _, -, _, nothingOpen, rfl⟩ := validated
    generalize same : (bound.withState fun state =>
      recordReceipt review receipt { state with findings }) = last at recorded ⊢
    have listed : last.state.findings = findings := by
      rw [← same]
      rfl
    have carries : Carries findings last.state :=
      .refl listed (validateStageQualityFindings_eq_ok normal).2
    have closed : outcome = .pass ∨ outcome = .qualityDebt →
        ∀ finding, ¬Unclosed last.state finding := by
      intro ends
      refine not_unclosed_of_requiredIds fun findingId required => ?_
      rw [listed, nothingOpen ends] at required
      cases required
    split
    · exact leads_bind.2 ((endInRouteBack_leads recorded (by decide) (by decide)
        carries.names).mono (fun _ _ exits => leads_pure.2 exits) fun _ _ broken => broken)
    rename_i here
    split
    · rename_i passes
      subst passes
      refine leads_bind.2 ((endInPass_leads recorded (by decide) (by decide) (by simp [given])
        ?_ (closed (.inl rfl))).mono (fun _ _ exits => leads_pure.2 exits) fun _ _ broken => broken)
      rw [← same]
      exact receipted_recordReceipt issues
    rename_i fails
    split
    · rename_i settles
      subst settles
      exact leads_bind.2 ((endInQualityDebt_leads recorded (by decide) (by decide)
        (closed (.inr rfl))).mono (fun _ _ exits => leads_pure.2 exits)
        fun _ _ broken => broken)
    rename_i more
    refine leads_bind.2 ((scopeBudget_leads (recorded.broken (by decide) (by decide))
      carries.names).mono ?_ fun _ _ broken => broken)
    rintro (_ | ended) final
    · rintro rfl
      refine leads_bind.2 (leads_readState.2 ?_)
      split
      · exact leads_bind.2 ((endWithOpenFindings_leads recorded (by decide) (by decide) (by decide)
          carries.names).mono (fun _ _ exits => leads_pure.2 exits) fun _ _ broken => broken)
      rename_i rounds
      obtain rfl : outcome = .repairRequired := by
        cases outcome <;> simp_all [StageQualityOutcome.hardStops]
      refine leads_pure.2 ⟨le_rfl, ⟨2, 0, recorded.standing fun routes => ?_, le_rfl, le_rfl⟩, carries⟩
      by_contra accepted
      obtain ⟨decision, accepted⟩ := Option.ne_none_iff_exists'.1 accepted
      rcases takes.accepted_reviewer rfl routes.earlyRepairRouteBack accepted given with back | none
      · exact here back
      · exact rounds (recorded.bound.trans none)
    · exact fun exits => leads_pure.2 exits

/-! ## A round of repair -/

theorem Standing.withState {starts repairs : Nat} {change : StageRunState → StageRunState}
    (standing : Standing run starts repairs world)
    (maxRepairRounds : (change world.state).maxRepairRounds = world.state.maxRepairRounds)
    (attempts : (change world.state).attempts = world.state.attempts)
    (debts : (change world.state).qualityDebtRefs = world.state.qualityDebtRefs) :
    Standing run starts repairs (world.withState change) where
  spent := standing.spent
  bound := maxRepairRounds.trans_le standing.bound
  distinct := standing.distinct
  seen attempt listed := standing.seen attempt (attempts ▸ listed)
  clear free clean := debts.trans (standing.clear free clean)
  quiet := standing.quiet

theorem Standing.broken {starts repairs : Nat} (standing : Standing run starts repairs world)
    (room : starts ≤ 8) (room' : repairs ≤ 3) : Broken run world :=
  ⟨⟨standing.spent.starts.trans room, standing.spent.repairs.trans room'⟩,
    fun routes => .undecided (standing.quiet routes)⟩

theorem repairStep_leads {start : RepairStart} (repairing : Repairing run start world)
    (within : start.round ≤ 3) :
    Leads (stageRunMachine run.input) (repairStep run start) world
      (fun course after => course.Holds (Exits run · after)
        fun repaired => Repaired run start repaired.1 after)
      (fun _ after => Broken run after) := by
  obtain ⟨starts, repairs, standing, room, room'⟩ := repairing.standing
  unfold repairStep
  refine leads_bind.2 (leads_readState.2 (leads_bind.2 (runAttempt_leads.mono ?_ ?_)))
  swap
  · refine fun _ _ stumbles => stumbles.broken standing (by omega) ?_
    simp [plainAttempt]
    omega
  rintro repair after ⟨choice, launched, takes⟩
  have spent : Spent (starts + 1) (repairs + 1) after.events := takes.spent standing.spent
  have quiet : run.patches.Routes → Undecided after.events := fun routes =>
    takes.undecided (standing.quiet routes) fun reviews => by cases reviews
  have broken : Broken run after := ⟨⟨spent.starts.trans (by omega), spent.repairs.trans (by omega)⟩,
    fun routes => .undecided (quiet routes)⟩
  refine leads_bind.2 (leads_readState.2 ?_)
  dsimp only
  split
  · rename_i stopped
    exact leads_pure.2 ⟨broken.spent, .of_status (by decide)
      (StageRunState.stopped_ne_completed stopped) (fun _ => rfl) broken.route⟩
  rename_i going
  have going : after.state.stopped = false := by simpa using going
  have next : Standing run (starts + 1) (repairs + 1) after := takes.standing standing rfl going
  split
  · refine leads_pure.2 ⟨broken.spent, .of_status (by decide) ?_ (fun _ => rfl)
      fun routes => (broken.route routes).of_state rfl rfl⟩
    intro completed
    cases completed
  refine leads_bind.2 (leads_checked (fun repairMap _ => ?_) fun _ => broken)
  refine leads_bind.2 (leads_updateState.2 ?_)
  have mapped : Standing run (starts + 1) (repairs + 1) (after.withState fun state =>
      { state with repairMap, artifactIdentity := repair.artifactIdentity }) :=
    next.withState rfl rfl rfl
  have carries : Carries start.findings (after.withState fun state =>
      { state with repairMap, artifactIdentity := repair.artifactIdentity }).state :=
    repairing.carries.of_findings takes.sameWork.findings
  refine leads_bind.2 ((scopeBudget_leads (mapped.broken (by omega) (by omega))
    carries.names).mono ?_ fun _ _ broken => broken)
  rintro (_ | ended) final
  · rintro rfl
    refine leads_pure.2 ⟨⟨_, _, mapped, by omega, by omega⟩, ?_, carries⟩
    rw [currentArtifactProducer, RunWorld.events_withState, takes.producing]
    rfl
  · exact fun exits => leads_pure.2 exits

/-! ## Re-reviews -/

/-- What an accepted re-review says of the findings that it was given. -/
structure ReReviewFacts (findings : List StageQualityFinding) (outcome : StageQualityOutcome)
    (reviewed : ReReviewed) : Prop where
  settled : outcome ≠ .repairRequired → ∀ findingId ∈ requiredIds findings,
    findingId ∈ closedFindingIds reviewed.report.findingClosures
  normalized : ∀ finding ∈ openFindings findings reviewed.closure reviewed.report,
    Normalized finding

theorem evaluateReReview_facts {findings : List StageQualityFinding}
    {repairMap : List StageQualityRepairMapEntry} {outcome : StageQualityOutcome}
    {envelope : JsonRecord} {reviewed : ReReviewed} (reads : outcome.hardStops = false)
    (normalized : ∀ finding ∈ findings, Normalized finding)
    (evaluated : evaluateReReview findings repairMap outcome envelope = .ok reviewed) :
    ReReviewFacts findings outcome reviewed := by
  simp only [evaluateReReview, bind_eq_ok, pure_eq_ok] at evaluated
  obtain ⟨report, reported, closure, evaluated, _, consistent, rfl⟩ := evaluated
  have newNormal := reReviewReport_eq_ok reported
  have accounts := evaluateStageQualityFindingClosure_accounts (by
    simpa only [List.forall_mem_append, and_assoc] using And.intro normalized newNormal) evaluated
  simp only [validateStageQualityReReviewOutcome, reads, if_false, Bool.false_eq_true,
    bind_eq_ok, ensure_eq_ok] at consistent
  obtain ⟨_, repairs, -⟩ := consistent
  constructor
  · intro ends findingId required
    have quiet : closure.triggerRepair = false := by
      by_contra triggered
      exact ends (repairs (by simpa using triggered))
    exact (accounts.settled findingId required).resolve_left (by simp [(accounts.quiet quiet).1])
  · simp only [openFindings, List.forall_mem_append]
    exact ⟨⟨fun finding listed => normalized finding (List.mem_of_mem_filter listed),
      newNormal.1⟩, newNormal.2⟩

/-- A re-review on record: its receipt is the last one and its closures are kept. -/
structure Recorded (run : StageRun) (asked : AttemptRequest) (starts repairs : Nat)
    (review : AttemptTaken) (outcome : StageQualityOutcome) (reviewed : ReReviewed)
    (world : RunWorld) : Prop extends Reviewed run asked starts repairs review world where
  receipted : Receipted asked review (stageReviewVerdictForOutcome outcome) world.state
  closures : world.state.findingClosures = reviewed.report.findingClosures
  carries : Carries asked.findings world.state
  facts : ReReviewFacts asked.findings outcome reviewed

section

variable {asked : AttemptRequest} {starts repairs : Nat} {review : AttemptTaken}
  {outcome : StageQualityOutcome} {reviewed : ReReviewed}

theorem Recorded.closed
    (recorded : Recorded run asked starts repairs review outcome reviewed world)
    (ends : outcome ≠ .repairRequired) : ∀ finding, ¬Unclosed world.state finding := by
  refine not_unclosed_of_requiredIds fun findingId required => ?_
  rw [← requiredIds_of_identities recorded.carries.same] at required
  rw [recorded.closures]
  exact recorded.facts.settled ends findingId required

theorem Reviewed.record (standing : Reviewed run asked starts repairs review world)
    {receipt : StageReviewReceipt}
    (issues : Issues asked review (stageReviewVerdictForOutcome outcome) receipt)
    (carries : Carries asked.findings world.state)
    (facts : ReReviewFacts asked.findings outcome reviewed) :
    Recorded run asked starts repairs review outcome reviewed
      (world.withState (recordReReview review receipt reviewed)) := by
  have closing : Reviewed run asked starts repairs review (world.withState fun state =>
      { state with findingClosures := reviewed.report.findingClosures }) :=
    standing.proceeds (.idle rfl rfl rfl rfl rfl rfl rfl)
  exact ⟨closing.proceeds (recordReceipt_proceeds closing.snapshot), receipted_recordReceipt issues,
    rfl, carries.of_findings rfl, facts⟩

/-- A re-review that asks for no more repair ends the run. -/
theorem Recorded.ends
    (recorded : Recorded run asked starts repairs review outcome reviewed world)
    (room : starts ≤ 8) (room' : repairs ≤ 3) (given : review.outcome = some outcome) :
    (outcome = .pass → Leads (stageRunMachine run.input) (endInPass review) world
        (fun ending after => Exits run ending after) (fun _ after => Broken run after)) ∧
      (outcome = .qualityDebt → ∀ reason, Leads (stageRunMachine run.input)
        (endInQualityDebt run review reason) world
        (fun ending after => Exits run ending after) (fun _ after => Broken run after)) := by
  constructor
  · rintro rfl
    exact endInPass_leads recorded.toReviewed room room' (by simp [given]) recorded.receipted
      (recorded.closed (by decide))
  · rintro rfl reason
    exact endInQualityDebt_leads recorded.toReviewed room room' (recorded.closed (by decide))

end

variable {start : RepairStart}

theorem reReviewStep_leads {repair : AttemptTaken} {repairMap : List StageQualityRepairMapEntry}
    (repaired : Repaired run start repair world) (within : start.round ≤ 3)
    (round : 1 ≤ start.round) :
    Leads (stageRunMachine run.input) (reReviewStep run start repair repairMap) world
      (fun course after => course.Holds (Exits run · after)
        fun next => Repairing run next after ∧ next.round = start.round + 1)
      (fun _ after => Broken run after) := by
  obtain ⟨starts, repairs, standing, room, room'⟩ := repaired.standing
  have budget : starts + 1 ≤ 8 ∧ repairs ≤ 3 := by omega
  unfold reReviewStep
  refine leads_bind.2 (leads_readState.2 (leads_bind.2 (runAttempt_leads.mono ?_ ?_)))
  swap
  · exact fun _ _ stumbles => stumbles.broken standing budget.1 (by simp [plainAttempt, budget.2])
  rintro review taken ⟨choice, launched, takes⟩
  have judged := (takes.judged standing rfl repaired.producer).proceeds
    (.idle rfl rfl rfl rfl rfl rfl rfl : Proceeds run taken (taken.withState fun state =>
      { state with repairRoundsUsed := start.round }))
  refine leads_bind.2 (leads_updateState.2 (leads_bind.2 (refreshScopeBudgetUsage_leads.mono ?_ ?_)))
  swap
  · rintro _ _ rfl
    exact judged.broken budget.1 budget.2
  rintro _ _ ⟨usage, rfl⟩
  have judged := judged.proceeds (.idle rfl rfl rfl rfl rfl rfl rfl : Proceeds run _
    (RunWorld.withState _ fun state => { state with scopeBudgetUsage := usage }))
  have findings := takes.sameWork.findings
  generalize same : RunWorld.withState _ _ = after at judged ⊢
  have findings : after.state.findings = world.state.findings := by
    rw [← same]
    exact findings
  refine leads_bind.2 (leads_readState.2 ?_)
  dsimp only
  split
  · rename_i stopped
    exact leads_pure.2 (judged.stopped_exits budget.1 budget.2 stopped)
  rename_i going
  have going : after.state.stopped = false := by simpa using going
  refine leads_bind.2 ((admitReview_leads judged going).mono ?_ fun _ _ never => never.elim)
  rintro _ admitted ⟨reviewed, closes⟩
  have broken : Broken run admitted := reviewed.broken budget.1 budget.2
  cases given : review.outcome with
  | none => exact leads_thrown.2 broken
  | some outcome =>
    dsimp only
    split
    · exact leads_bind.2 ((stopAtReview_leads reviewed.toJudged budget.1 budget.2).mono
        (fun _ _ exits => leads_pure.2 exits) fun _ _ broken => broken)
    rename_i reads
    have reads : outcome.hardStops = false := by simpa using reads
    refine leads_bind.2 (leads_checked (fun evaluation evaluated => ?_) fun _ => broken)
    refine leads_bind.2 (leads_checked (fun disposition classified => ?_) fun _ => broken)
    refine leads_bind.2 ((askForReceipt_leads reviewed.toJudged rfl budget.1 budget.2).mono ?_
      fun _ _ broken => broken)
    rintro receipt issued ⟨issues, rests, missing⟩
    refine leads_bind.2 ((revisionTransport_leads (owed_of_missing missing)).mono ?_
      fun _ _ broken => broken)
    rintro transport bound rests'
    have carries : Carries start.findings bound.state :=
      repaired.carries.of_findings (rests'.findings.trans (rests.findings.trans
        (closes.findings.trans findings)))
    have recorded := (reviewed.proceeds (rests.toProceeds.trans rests'.toProceeds)).record issues
      carries (evaluateReReview_facts reads repaired.carries.normalized evaluated)
    refine leads_bind.2 (leads_updateState.2 ?_)
    generalize bound.withState _ = last at recorded ⊢
    obtain ⟨passes, settles⟩ := recorded.ends budget.1 budget.2 given
    split
    · exact leads_bind.2 ((passes ‹_›).mono (fun _ _ exits => leads_pure.2 exits)
        fun _ _ broken => broken)
    rename_i fails
    split
    · exact leads_bind.2 ((settles ‹_› _).mono (fun _ _ exits => leads_pure.2 exits)
        fun _ _ broken => broken)
    rename_i more
    obtain rfl : outcome = .repairRequired := by
      cases outcome <;> simp_all [StageQualityOutcome.hardStops]
    have listed : Reviewed run _ (starts + 1) repairs review (last.withState fun state =>
        { state with
          findings := openFindings start.findings evaluation.closure evaluation.report }) :=
      recorded.toReviewed.proceeds (.idle rfl rfl rfl rfl rfl rfl rfl)
    have carries : Carries (openFindings start.findings evaluation.closure evaluation.report)
        (last.withState fun state => { state with
          findings := openFindings start.findings evaluation.closure evaluation.report }).state :=
      .refl rfl recorded.facts.normalized
    refine leads_bind.2 (leads_updateState.2 ?_)
    refine leads_bind.2 ((scopeBudget_leads (listed.broken budget.1 budget.2)
      carries.names).mono ?_ fun _ _ broken => broken)
    rintro (_ | ended) final
    · rintro rfl
      dsimp only
      split
      · exact leads_bind.2 ((endInRouteBack_leads listed budget.1 budget.2 carries.names).mono
          (fun _ _ exits => leads_pure.2 exits) fun _ _ broken => broken)
      rename_i here
      split
      · exact leads_bind.2 ((endInRepairBudget_leads listed budget.1 budget.2 carries.names).mono
          (fun _ _ exits => leads_pure.2 exits) fun _ _ broken => broken)
      rename_i goes
      refine leads_pure.2 ⟨⟨Nat.le_add_left _ _, ⟨_, _, listed.standing fun routes => ?_, ?_, ?_⟩,
        carries⟩, rfl⟩
      · by_contra accepted
        obtain ⟨decision, accepted⟩ := Option.ne_none_iff_exists'.1 accepted
        rcases takes.accepted_reReviewer rfl routes.earlyRepairRouteBack accepted given evaluated
          with back | last
        · exact here back
        · exact goes (Except.ok.inj (classified.symm.trans last))
      all_goals
        dsimp only
        omega
    · exact fun exits => leads_pure.2 exits

/-! ## All rounds -/

theorem endOfRounds_leads (broken : Broken run world) :
    Leads (stageRunMachine run.input) endOfRounds world
      (fun ending after => Exits run ending after) (fun _ after => Broken run after) := by
  unfold endOfRounds
  refine leads_bind.2 (leads_readState.2 ?_)
  dsimp only
  split
  · refine leads_pure.2 ⟨broken.spent, .of_status (by decide) ?_ ?_
      fun routes => (broken.route routes).of_state rfl rfl⟩
    · intro completed
      cases completed
    · intro indebted
      cases indebted
  · refine leads_pure.2 ⟨broken.spent, .of_debt (by decide) rfl (fun finding open_ => ?_)
      fun routes => (broken.route routes).of_state rfl rfl⟩
    exact mem_withDebts.2 (.inr (List.mem_map_of_mem open_.1))

theorem Repairing.broken (repairing : Repairing run start world) : Broken run world := by
  obtain ⟨starts, repairs, standing, room, room'⟩ := repairing.standing
  exact standing.broken (by omega) (by omega)

/-- Whatever the attempts make of the bound, the rounds end within three. -/
theorem repairRounds_leads {fuel : Nat} (repairing : Repairing run start world)
    (enough : 4 ≤ fuel + start.round) :
    Leads (stageRunMachine run.input) (repairRounds run fuel start) world
      (fun ending after => Exits run ending after) (fun _ after => Broken run after) := by
  induction fuel generalizing start world with
  | zero =>
    obtain ⟨_, _, standing, -⟩ := repairing.standing
    have bound := standing.bound
    refine leads_bind.2 (leads_readState.2 ?_)
    rw [if_pos (by omega)]
    exact endOfRounds_leads repairing.broken
  | succ fuel ih =>
    obtain ⟨_, _, standing, -⟩ := repairing.standing
    have bound := standing.bound
    refine leads_bind.2 (leads_readState.2 ?_)
    split
    · exact endOfRounds_leads repairing.broken
    rename_i inside
    have inside : start.round ≤ 3 := by omega
    refine leads_bind.2 ((repairStep_leads repairing inside).mono ?_ fun _ _ broken => broken)
    rintro (ending | ⟨repair, repairMap⟩) after repaired
    · exact leads_pure.2 repaired
    refine leads_bind.2 ((reReviewStep_leads repaired inside repairing.round).mono ?_
      fun _ _ broken => broken)
    rintro (ending | next) last reviewed
    · exact leads_pure.2 reviewed
    obtain ⟨repairing, advanced⟩ := reviewed
    exact ih repairing (by omega)

end

end OnePersonLab.Stage

import Mathlib.Data.List.Nodup
import OnePersonLab.Stage.RunReviews

/-!
# The returns that follow a review

A review that the run goes on from ends it in one of a few ways, or leaves it to
the next round of repair. Each way commits the route that the review decided on.
-/

namespace OnePersonLab.Stage

open Contract Lib Evolution

section

variable {run : StageRun} {asked : AttemptRequest} {starts repairs : Nat} {review : AttemptTaken}
  {world before after : RunWorld}

/-! ## Admitting and committing -/

/-- The admission of a review, or the commit of what it decided. -/
def Closing (review : AttemptTaken) (event : RunEvent) : Prop :=
  event = .attemptAdmitted review.attemptRef ∨
    ∃ decision, review.route.decision = some decision ∧
      event = .routeCommitted review.attemptRef decision

/-- A step that writes down closing events and touches nothing but the route. -/
structure Closes (review : AttemptTaken) (before after : RunWorld) : Prop where
  status : after.state.status = before.state.status
  maxRepairRounds : after.state.maxRepairRounds = before.state.maxRepairRounds
  attempts : after.state.attempts = before.state.attempts
  findings : after.state.findings = before.state.findings
  findingClosures : after.state.findingClosures = before.state.findingClosures
  reviewReceipts : after.state.reviewReceipts = before.state.reviewReceipts
  artifactIdentity : after.state.artifactIdentity = before.state.artifactIdentity
  qualityDebtRefs : after.state.qualityDebtRefs = before.state.qualityDebtRefs
  ledger : after.ledger = before.ledger
  observed : after.controller.observedSessions = before.controller.observedSessions
  events : ∃ more, after.events = before.events ++ more ∧ ∀ event ∈ more, Closing review event

variable {events : List RunEvent} {state next : StageRunState} {exit : Exit}
  {producerAttemptRef reason : String}

theorem Closing.silent {event : RunEvent} (closing : Closing review event) :
    event.starts = false ∧ event.repairs = false ∧ event.producing? = none ∧
      event.owes = false := by
  rcases closing with rfl | ⟨decision, -, rfl⟩ <;> exact ⟨rfl, rfl, rfl, rfl⟩

theorem lastProducing_closing {more : List RunEvent} (closing : ∀ event ∈ more, Closing review event) :
    lastProducing more = none := by
  have nothing : more.filterMap RunEvent.producing? = [] :=
    List.filterMap_eq_nil_iff.2 fun event listed => (closing event listed).silent.2.2.1
  simp [lastProducing, nothing]

theorem RouteStands.close {more : List RunEvent} (stands : RouteStands review events state)
    (closing : ∀ event ∈ more, Closing review event)
    (selects : ∀ decision, review.route.decision = some decision →
      Selects review.attemptRef decision next) : RouteStands review (events ++ more) next := by
  unfold RouteStands at stands ⊢
  split at stands
  · rename_i declined
    refine undecided_append.2 ⟨stands, fun event listed => ?_⟩
    rcases closing event listed with rfl | ⟨decision, accepted, -⟩
    · rfl
    · cases declined.symm.trans accepted
  · rename_i decision accepted
    obtain ⟨earlier, role, later, rfl, quiet, follows, -⟩ := stands
    refine ⟨earlier, role, later ++ more, by simp, quiet, ?_, fun _ => selects decision accepted⟩
    refine List.forall_mem_append.2 ⟨follows, fun event listed => .inr ?_⟩
    rcases closing event listed with rfl | ⟨decision', accepted', rfl⟩
    · exact .inl rfl
    · exact .inr (by rw [Option.some.inj (accepted'.symm.trans accepted)])

theorem Judged.close (judged : Judged run asked starts repairs review before)
    (going : before.state.stopped = false) (closes : Closes review before after)
    (selects : run.patches.Routes → ∀ decision, review.route.decision = some decision →
      Selects review.attemptRef decision after.state) :
    Reviewed run asked starts repairs review after := by
  obtain ⟨more, written, closing⟩ := closes.events
  have kept : ∀ {event}, event ∈ before.events → event ∈ after.events := by
    intro event listed
    rw [written]
    exact List.mem_append_left _ listed
  have stopped : after.state.stopped = before.state.stopped := by
    unfold StageRunState.stopped
    rw [closes.status]
  refine ⟨⟨judged.answers, judged.reviews, ⟨?_, ?_⟩, ?_, ?_, ?_, fun _ free clean => ?_,
    fun routes => ?_, ?_, ?_, ?_, fun missing => kept (judged.snapshot missing), ?_⟩,
    stopped.trans going, selects⟩
  · have none : more.countP RunEvent.starts = 0 :=
      List.countP_eq_zero.2 fun event listed => by simp [(closing event listed).silent.1]
    rw [written, List.countP_append, none]
    exact judged.spent.starts
  · have none : more.countP RunEvent.repairs = 0 :=
      List.countP_eq_zero.2 fun event listed => by simp [(closing event listed).silent.2.1]
    rw [written, List.countP_append, none]
    exact judged.spent.repairs
  · rw [closes.maxRepairRounds]
    exact judged.bound
  · rw [closes.ledger]
    exact judged.distinct
  · unfold SessionsSeen
    rw [closes.attempts, closes.observed]
    exact judged.seen
  · rw [closes.qualityDebtRefs]
    exact judged.clear going (fun event listed => free event (kept listed)) clean
  · rw [written]
    exact (judged.route routes).close closing (selects routes)
  · rw [closes.artifactIdentity]
    exact judged.identity
  · rw [currentArtifactProducer, written, lastProducing_append, lastProducing_closing closing]
    exact judged.producer
  · rw [closes.ledger]
    exact judged.row
  · obtain ⟨earlier, last, attempts, ref, fresh⟩ := judged.last
    exact ⟨earlier, last, closes.attempts.trans attempts, ref,
      fun given unused => fresh given fun listed => unused (kept listed)⟩

theorem commit_leads (judged : Judged run asked starts repairs review world)
    (going : world.state.stopped = false) :
    Leads (stageRunMachine run.input) (commitTerminalRouteDecision review) world
      (fun _ after => Reviewed run asked starts repairs review after ∧ Closes review world after)
      (fun _ _ => False) := by
  unfold commitTerminalRouteDecision
  split
  · rename_i declined
    have closes : Closes review world world :=
      ⟨rfl, rfl, rfl, rfl, rfl, rfl, rfl, rfl, rfl, rfl, [], by simp, by simp⟩
    refine leads_pure.2 ⟨judged.close going closes fun _ decision accepted => ?_, closes⟩
    cases declined.symm.trans accepted
  · rename_i decision accepted
    simp only [leads_bind, leads_modify, leads_note]
    refine ⟨judged.close going ?_ fun _ decision' accepted' => ?_, ?_⟩
    · exact ⟨rfl, rfl, rfl, rfl, rfl, rfl, rfl, rfl, rfl, rfl, _, rfl,
        by simp [Closing, accepted]⟩
    · obtain rfl := Option.some.inj (accepted.symm.trans accepted')
      exact ⟨rfl, rfl⟩
    · exact ⟨rfl, rfl, rfl, rfl, rfl, rfl, rfl, rfl, rfl, rfl, _, rfl,
        by simp [Closing, accepted]⟩

/-- A run with every patch commits the decision of a review as it admits it. -/
theorem admitReview_leads (judged : Judged run asked starts repairs review world)
    (going : world.state.stopped = false) :
    Leads (stageRunMachine run.input) (admitReview run review) world
      (fun _ after => Reviewed run asked starts repairs review after ∧ Closes review world after)
      (fun _ _ => False) := by
  have admitted : Closes review world (world.noting [.attemptAdmitted review.attemptRef]) :=
    ⟨rfl, rfl, rfl, rfl, rfl, rfl, rfl, rfl, rfl, rfl, _, rfl, by simp [Closing]⟩
  simp only [admitReview, leads_bind, leads_note]
  split
  · unfold commitTerminalRouteDecision
    split
    · rename_i declined
      refine leads_pure.2 ⟨judged.close going admitted fun _ decision accepted => ?_, admitted⟩
      cases declined.symm.trans accepted
    · rename_i decision accepted
      simp only [leads_bind, leads_modify, leads_note]
      refine ⟨judged.close going ?_ fun _ decision' accepted' => ?_, ?_⟩
      · exact ⟨rfl, rfl, rfl, rfl, rfl, rfl, rfl, rfl, rfl, rfl, _, List.append_assoc _ _ _,
          by simp [Closing, accepted]⟩
      · obtain rfl := Option.some.inj (accepted.symm.trans accepted')
        exact ⟨rfl, rfl⟩
      · exact ⟨rfl, rfl, rfl, rfl, rfl, rfl, rfl, rfl, rfl, rfl, _, List.append_assoc _ _ _,
          by simp [Closing, accepted]⟩
  · rename_i late
    refine leads_pure.2 ⟨judged.close going admitted fun routes => ?_, admitted⟩
    exact absurd routes.progressFirstHandoff late

/-! ## Exits -/

theorem Judged.broken (judged : Judged run asked starts repairs review world)
    (room : starts ≤ 8) (room' : repairs ≤ 3) : Broken run world :=
  ⟨⟨judged.spent.starts.trans room, judged.spent.repairs.trans room'⟩,
    fun routes => (judged.route routes).law⟩

theorem Judged.exits (judged : Judged run asked starts repairs review world) (room : starts ≤ 8)
    (room' : repairs ≤ 3) (facts : EndFacts run world.events exit next) :
    Exits run (.terminalize exit next) world :=
  ⟨(judged.broken room room').spent, facts⟩

/-- A receipt for the review: of its attempt, for the artifact that it was given. -/
structure Issues (asked : AttemptRequest) (review : AttemptTaken)
    (verdict : StageQualityReviewVerdict) (receipt : StageReviewReceipt) : Prop where
  verdict : receipt.verdict = verdict
  producer : asked.artifactProducerAttemptRef = some receipt.producerAttemptRef
  reviewer : receipt.reviewerAttemptRef = review.attemptRef
  refs : receipt.reviewedArtifactRefs = asked.artifactIdentity.artifactRefs
  hashes : receipt.reviewedArtifactHashes.map comparableArtifactHash =
    asked.artifactIdentity.artifactHashes.map comparableArtifactHash

/-- The receipt of the review is the last one on record. -/
def Receipted (asked : AttemptRequest) (review : AttemptTaken)
    (verdict : StageQualityReviewVerdict) (state : StageRunState) : Prop :=
  ∃ receipt, state.reviewReceipts.getLast? = some receipt ∧ Issues asked review verdict receipt

theorem Judged.soundlyReviewed (judged : Judged run asked starts repairs review world)
    (given : review.outcome ≠ none) (receipted : Receipted asked review .pass world.state)
    (closed : ∀ finding, ¬Unclosed world.state finding)
    (unused : .reviewerSessionReused ∉ world.events) :
    SoundlyReviewed run.input world.events world.state := by
  obtain ⟨receipt, last, issues⟩ := receipted
  obtain ⟨earlier, review', attempts, ref, fresh⟩ := judged.last
  refine ⟨⟨receipt, earlier, review', last, issues.verdict, judged.producer.trans issues.producer,
    ?_, ?_, attempts, issues.reviewer.trans ref, fresh given unused⟩, closed⟩
  · rw [judged.identity]
    exact issues.refs
  · rw [judged.identity]
    exact issues.hashes

/-! ## Receipts -/

/-- Steps after which the findings and receipts are the same. -/
structure Rests (run : StageRun) (before after : RunWorld) : Prop
    extends Proceeds run before after where
  findings : after.state.findings = before.state.findings
  findingClosures : after.state.findingClosures = before.state.findingClosures
  reviewReceipts : after.state.reviewReceipts = before.state.reviewReceipts

section

variable {receipt : StageReviewReceipt}

theorem Judged.issues (judged : Judged run asked starts repairs review world)
    {rubricRefs : List String} {verdict : StageQualityReviewVerdict}
    (producer : asked.artifactProducerAttemptRef = some producerAttemptRef)
    (issued : ReceiptFor world.ledger
      { producerAttemptRef, reviewerAttemptRef := review.attemptRef, rubricRefs, verdict } receipt)
    :
    Issues asked review verdict receipt := by
  obtain ⟨row, listed, holds⟩ := judged.row
  obtain ⟨_, -, reviewer, listed', -, named, -, refs, hashes⟩ := issued.rows
  have same : reviewer = row := List.inj_on_of_nodup_map judged.distinct listed' listed
    (named.trans holds.ref.symm)
  subst same
  refine ⟨issued.verdict, producer.trans (congrArg some issued.producer.symm), issued.reviewer,
    refs.trans holds.refs, ?_⟩
  rw [hashes]
  exact holds.hashes

theorem inert_receiptEvents (receipt : StageReviewReceipt) : ∀ event ∈
    (if revisionTransport? receipt = none then [RunEvent.revisionTransportMissing] else []),
    event.inert = true := by
  split <;> simp [RunEvent.inert]

theorem noting_rests (inert : ∀ event ∈ events, event.inert = true) :
    Rests run world (world.noting events) :=
  ⟨⟨rfl, rfl, rfl, rfl, rfl, rfl, rfl, rfl, ⟨events, rfl, inert⟩, fun clear free clean =>
    clear (fun event listed => free event (List.mem_append_left _ listed)) clean⟩, rfl, rfl, rfl⟩

theorem askForReceipt_leads (judged : Judged run asked starts repairs review world)
    {outcome : StageQualityOutcome}
    (producer : asked.artifactProducerAttemptRef = some producerAttemptRef) (room : starts ≤ 8)
    (room' : repairs ≤ 3) :
    Leads (stageRunMachine run.input) (askForReceipt producerAttemptRef review outcome) world
      (fun receipt after => Issues asked review (stageReviewVerdictForOutcome outcome) receipt ∧
        Rests run world after ∧
        (revisionTransport? receipt = none → .revisionTransportMissing ∈ after.events))
      (fun _ after => Broken run after) := by
  unfold askForReceipt
  refine leads_reviewReceipt (fun receipt issued => ⟨judged.issues producer issued, ?_, ?_⟩)
    fun _ => judged.broken room room'
  · exact noting_rests (inert_receiptEvents receipt)
  · intro missing
    simp [missing]

theorem revisionTransport_leads {fails}
    (owed : revisionTransport? receipt = none → DebtFree world.events → ¬CleanStart run.input) :
    Leads (stageRunMachine run.input) (revisionTransportFromReceipt run receipt) world
      (fun _ after => Rests run world after) fails := by
  unfold revisionTransportFromReceipt
  split
  · exact leads_pure.2 ⟨.refl world, rfl, rfl, rfl⟩
  · rename_i missing
    refine leads_bind.2 (leads_updateState.2 (leads_pure.2 ?_))
    exact ⟨⟨rfl, rfl, rfl, rfl, rfl, rfl, rfl, rfl, ⟨[], by simp, by simp⟩,
      fun _ free clean => absurd clean (owed missing free)⟩, rfl, rfl, rfl⟩

/-- A receipt is recorded with the debt of the snapshot, which is on record. -/
theorem recordReceipt_proceeds
    (snapshot : review.reviewInputSnapshotQualityDebtRef.isSome = true →
      .snapshotDebt ∈ world.events) :
    Proceeds run world (world.withState (recordReceipt review receipt)) := by
  refine ⟨rfl, rfl, rfl, rfl, rfl, rfl, rfl, rfl, ⟨[], by simp, by simp⟩, fun clear free clean => ?_⟩
  cases missing : review.reviewInputSnapshotQualityDebtRef with
  | none =>
    have none := clear free clean
    simp [recordReceipt, StageRunState.withDebts, missing, RunWorld.withState,
      RunWorld.withController, RunWorld.state] at none ⊢
    simp [none]
  | some debt => cases free _ (snapshot (by simp [missing]))

theorem endInPass_leads (reviewed : Reviewed run asked starts repairs review world)
    (room : starts ≤ 8) (room' : repairs ≤ 3) (given : review.outcome ≠ none)
    (receipted : Receipted asked review .pass world.state)
    (closed : ∀ finding, ¬Unclosed world.state finding) :
    Leads (stageRunMachine run.input) (endInPass review) world
      (fun ending after => Exits run ending after) (fun _ after => Broken run after) := by
  unfold endInPass
  refine leads_bind.2 ((commit_leads reviewed.toJudged reviewed.going).mono ?_
    fun _ _ never => never.elim)
  rintro _ after ⟨committed, closes⟩
  refine leads_bind.2 (leads_readState.2 (leads_pure.2 (committed.toJudged.exits room room' ?_)))
  have settled : ∀ finding, ¬Unclosed after.state finding := fun finding open_ =>
    closed finding (open_.of_same closes.findings closes.findingClosures)
  have receipted' : Receipted asked review .pass after.state := by
    unfold Receipted
    rwa [closes.reviewReceipts]
  refine ⟨by decide, fun _ => committed.clear committed.going, fun _ _ finding open_ => ?_,
    fun _ _ unused => ?_, fun routes => (committed.route routes).law.of_state rfl rfl⟩
  · exact absurd (open_.of_same rfl rfl) (settled finding)
  · exact (committed.soundlyReviewed given receipted' settled unused).of_same rfl rfl rfl rfl rfl

end

/-- The findings given cover the open list by their ids. -/
def Names (findings : List StageQualityFinding) (state : StageRunState) : Prop :=
  ∀ finding ∈ state.findings, ∃ other ∈ findings, other.findingId = finding.findingId

variable {findings : List StageQualityFinding}

theorem mem_withDebts {refs : List String} {ref : String} :
    ref ∈ (state.withDebts refs).qualityDebtRefs ↔ ref ∈ state.qualityDebtRefs ∨ ref ∈ refs := by
  simp [StageRunState.withDebts, List.mem_eraseDups]

theorem Names.reported (names : Names findings state) (same : next.findings = state.findings)
    {finding : StageQualityFinding} (open_ : Unclosed next finding) :
    findingDebtRef finding ∈ findings.map findingDebtRef := by
  obtain ⟨other, listed, sameId⟩ := names finding (same ▸ open_.1)
  exact List.mem_map.2 ⟨other, listed, by simp [findingDebtRef, sameId]⟩

/-- A state that has every open finding among its debts. -/
theorem EndFacts.of_debt (within : exit ≠ .outOfFuel)
    (indebted : state.status = .completedWithQualityDebt)
    (reported : ∀ finding, Unclosed state finding → findingDebtRef finding ∈ state.qualityDebtRefs)
    (route : run.patches.Routes → RouteLaw state events) : EndFacts run events exit state :=
  ⟨within, fun completed => by simp [indebted] at completed, fun _ _ => reported,
    fun completed => by simp [indebted] at completed, route⟩

theorem endInQualityDebt_leads (reviewed : Reviewed run asked starts repairs review world)
    (room : starts ≤ 8) (room' : repairs ≤ 3) (closed : ∀ finding, ¬Unclosed world.state finding) :
    Leads (stageRunMachine run.input) (endInQualityDebt run review reason) world
      (fun ending after => Exits run ending after) (fun _ after => Broken run after) := by
  unfold endInQualityDebt
  refine leads_bind.2 ((commit_leads reviewed.toJudged reviewed.going).mono ?_
    fun _ _ never => never.elim)
  rintro _ after ⟨committed, closes⟩
  refine leads_bind.2 (leads_readState.2 (leads_pure.2 (committed.toJudged.exits room room' ?_)))
  refine .of_debt (by decide) rfl (fun finding open_ => ?_)
    fun routes => (committed.route routes).law.of_state rfl rfl
  have open_ : Unclosed after.state finding := open_.of_same rfl rfl
  exact absurd (open_.of_same closes.findings closes.findingClosures) (closed finding)

theorem endWithOpenFindings_leads (reviewed : Reviewed run asked starts repairs review world)
    (room : starts ≤ 8) (room' : repairs ≤ 3) (within : exit ≠ .outOfFuel)
    (names : Names findings world.state) :
    Leads (stageRunMachine run.input) (endWithOpenFindings run exit review findings reason) world
      (fun ending after => Exits run ending after) (fun _ after => Broken run after) := by
  unfold endWithOpenFindings
  refine leads_bind.2 ((commit_leads reviewed.toJudged reviewed.going).mono ?_
    fun _ _ never => never.elim)
  rintro _ after ⟨committed, closes⟩
  refine leads_bind.2 (leads_readState.2 (leads_pure.2 (committed.toJudged.exits room room' ?_)))
  refine .of_debt within rfl (fun finding open_ => mem_withDebts.2 (.inr ?_))
    fun routes => (committed.route routes).law.of_state rfl rfl
  exact List.mem_append_left _ (names.reported closes.findings open_)

theorem endInRepairBudget_leads (reviewed : Reviewed run asked starts repairs review world)
    (room : starts ≤ 8) (room' : repairs ≤ 3) (names : Names findings world.state) :
    Leads (stageRunMachine run.input) (endInRepairBudget run review findings reason) world
      (fun ending after => Exits run ending after) (fun _ after => Broken run after) := by
  unfold endInRepairBudget
  refine leads_bind.2 (leads_readState.2 ?_)
  dsimp only
  split
  · exact leads_bind.2 (leads_thrown.2 (reviewed.broken room room'))
  · exact endWithOpenFindings_leads reviewed room room' (by decide) names

theorem endInRouteBack_leads (reviewed : Reviewed run asked starts repairs review world)
    (room : starts ≤ 8) (room' : repairs ≤ 3) (names : Names findings world.state) :
    Leads (stageRunMachine run.input) (endInRouteBack review findings) world
      (fun ending after => Exits run ending after) (fun _ after => Broken run after) := by
  unfold endInRouteBack
  refine leads_bind.2 (leads_readState.2 ?_)
  dsimp only
  split
  · exact leads_bind.2 (leads_thrown.2 (reviewed.broken room room'))
  refine leads_bind.2 ((commit_leads reviewed.toJudged reviewed.going).mono ?_
    fun _ _ never => never.elim)
  rintro _ after ⟨committed, closes⟩
  refine leads_bind.2 (leads_readState.2 (leads_pure.2 (committed.toJudged.exits room room' ?_)))
  refine .of_debt (by decide) rfl (fun finding open_ => mem_withDebts.2 (.inr ?_))
    fun routes => (committed.route routes).law.of_state rfl rfl
  exact names.reported closes.findings open_

/-- A hard stop of a review ends the run blocked or at a human gate. -/
theorem stopAtReview_leads (judged : Judged run asked starts repairs review world)
    {outcome : StageQualityOutcome} (room : starts ≤ 8) (room' : repairs ≤ 3) :
    Leads (stageRunMachine run.input) (stopAtReview producerAttemptRef review outcome) world
      (fun ending after => Exits run ending after) (fun _ after => Broken run after) := by
  have broken := judged.broken room room'
  unfold stopAtReview
  refine leads_bind.2 (leads_checked (fun hardStop _ => ?_) fun _ => broken)
  refine leads_bind.2 (leads_updateState.2 ?_)
  have stopped : ∀ state, (applyReviewStop outcome hardStop review.attemptRef state).status =
      .blocked ∨ (applyReviewStop outcome hardStop review.attemptRef state).status = .humanGate := by
    intro state
    by_cases blocked : outcome = .blocked <;> simp [applyReviewStop, blocked]
  refine leads_bind.2 (leads_reviewReceipt (fun receipt _ => ?_) fun _ =>
    ⟨broken.spent, fun routes => (broken.route routes).of_state rfl rfl⟩)
  refine leads_bind.2 (leads_updateState.2 (leads_bind.2 (leads_readState.2 (leads_pure.2 ?_))))
  have inert := inert_receiptEvents receipt
  refine ⟨broken.spent.append_inert inert, .of_status (by decide) ?_ ?_
    fun routes => ((judged.route routes).append_inert inert rfl rfl).law.of_state rfl rfl⟩
  · rcases stopped world.state with blocked | gated <;> intro completed
    · cases blocked.symm.trans completed
    · cases gated.symm.trans completed
  · rcases stopped world.state with blocked | gated <;> intro indebted
    · cases blocked.symm.trans indebted
    · cases gated.symm.trans indebted

theorem scopeBudget_leads {sourceAttemptRef : String} {includeAttemptLimit : Bool}
    (broken : Broken run world) (names : Names findings world.state) :
    Leads (stageRunMachine run.input)
      (terminalizeScopeBudgetIfNeeded run sourceAttemptRef findings includeAttemptLimit) world
      (fun ended after => match ended with
        | none => after = world
        | some result => Exits run (.ended result) after)
      (fun _ after => Broken run after) := by
  unfold terminalizeScopeBudgetIfNeeded
  refine leads_bind.2 (leads_readState.2 (leads_bind.2 (leads_checked (fun evaluation _ => ?_)
    fun _ => broken)))
  dsimp only
  split
  · exact leads_pure.2 rfl
  rename_i stopReason _ _
  refine leads_bind.2 (leads_updateState.2 (leads_bind.2 (leads_readState.2 (leads_bind.2 ?_))))
  generalize evaluation.disposition = disposition
  have settles : ∀ {next : StageRunState}, EndFacts run world.events .scopeBudgetExhausted next →
      next.selectedStageRoute = world.state.selectedStageRoute →
      next.decisiveAttemptRef = world.state.decisiveAttemptRef → ∀ {after : RunWorld},
      after.events = world.events → Leads (stageRunMachine run.input) (terminalize run next) after
        (fun ended last => Leads (stageRunMachine run.input)
          (pure (some (⟨.scopeBudgetExhausted, ended⟩ : StageRunEnd))) last
          (fun ended after => match ended with
            | none => after = world
            | some result => Exits run (.ended result) after)
          (fun _ after => Broken run after))
        (fun _ last => Broken run last) := by
    intro next facts selected decisive after same
    refine terminalize_leads.mono ?_ ?_
    · rintro ended last ⟨terminalizes, -, silent⟩
      refine leads_pure.2 ⟨silent.trans same ▸ broken.spent, terminalizes.facts ?_⟩
      rwa [silent.trans same]
    · rintro _ last ⟨terminalizes, silent⟩
      refine ⟨silent.trans same ▸ broken.spent, fun routes => ?_⟩
      rw [silent.trans same]
      exact (broken.route routes).of_state (terminalizes.selectedStageRoute.trans selected)
        (terminalizes.decisiveAttemptRef.trans decisive)
  have listed : ∀ {next : StageRunState} {refs : List String}, next.findings = world.state.findings →
      ∀ finding, Unclosed next finding →
        findingDebtRef finding ∈ findings.map findingDebtRef ++ refs :=
    fun same _ open_ => List.mem_append_left _ (names.reported same open_)
  cases disposition with
  | hardStopNoConsumableArtifact =>
    refine settles ?_ ?_ ?_ ?_
    · exact .of_status (by decide) (fun same => by cases same) (fun same => by cases same)
        fun routes => (broken.route routes).of_state rfl rfl
    all_goals rfl
  | continue_ | completeWithQualityDebt =>
    refine settles ?_ ?_ ?_ ?_
    · refine .of_debt (by decide) rfl (fun finding open_ => mem_withDebts.2 (.inl ?_))
        fun routes => (broken.route routes).of_state rfl rfl
      exact mem_withDebts.2 (.inr (listed rfl finding open_))
    all_goals rfl

end

end OnePersonLab.Stage

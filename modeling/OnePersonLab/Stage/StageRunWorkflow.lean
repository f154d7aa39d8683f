import OnePersonLab.Stage.StageRunAttempt
import OnePersonLab.Stage.StageRunReview

/-!
# The StageRun workflow

The workflow function from its validated input to a terminal state. Each return
of the source is an `Ending` with the state that is terminalized. The rounds of
repair are a loop whose bound is read from the state each time around; the model
gives it fuel.
-/

namespace OnePersonLab.Stage

open Contract Lib Evolution

/-! ## How a run ends -/

/-- Which of its returns a run takes. -/
inductive Exit where
  | attemptStopped
  | producerOnly
  | reviewHardStop
  | passed
  | qualityDebt
  | routeBack
  | scopeBudgetExhausted
  | noRepairBudget
  | repairWithoutArtifact
  | repairBudgetExhausted
  | roundsOver
  | caught
  | outOfFuel
  deriving DecidableEq, Repr

structure StageRunEnd where
  exit : Exit
  state : StageRunState
  deriving DecidableEq

/-- A return of the workflow's `try` block. -/
inductive Ending where
  /-- The state is terminalized after the block is left. -/
  | terminalize (exit : Exit) (next : StageRunState)
  /-- The state has been terminalized inside the block. -/
  | ended (result : StageRunEnd)

/-- A part of the `try` block returns or goes on. -/
inductive Course (α : Type) where
  | returns (ending : Ending)
  | continues (value : α)

section

variable (run : StageRun)

/-! ## The terminal state -/

/-- A completed stage without a selected route is in debt for its route. -/
def StageRun.withRouteDecisionDebt (next : StageRunState) : StageRunState :=
  if (next.status = .completed ∨ next.status = .completedWithQualityDebt) ∧
      next.selectedStageRoute = none then
    next.withRouteDebts [run.failureRef "decisive_attempt_route_decision_missing"]
  else next

/-- The launch that the selected route asks for. -/
def StageRun.routeLaunch? (controller : Controller) : Option RouteLaunchRequest := do
  let state := controller.state
  guard (state.status = .completed ∨ state.status = .completedWithQualityDebt)
  let decision ← state.selectedStageRoute
  let decisiveAttemptRef ← state.decisiveAttemptRef
  let binding ← controller.decisiveExecutionContentBinding
  guard (run.patches.progressFirstHandoff = false ∨ state.nextStageRunLaunch = none)
  return { decisiveAttemptRef, decisiveExecutionContentBinding := binding, decision
           artifactIdentity := state.artifactIdentity }

/-- The handoff of a progress-first run fails the run when it fails. -/
def StageRun.handOff (request : RouteLaunchRequest) : Workflow (Option RouteMaterialization) :=
  tryCatch (do let handedOff ← launchRoute request; return some handedOff) fun failure => do
    if run.patches.progressFirstHandoff = false then throw failure
    updateState fun state => { state with
        status := .failed
        blockedReason := some s!"stage_route_handoff_failed:{failure.reason}" }.withRouteDebts
      [run.failureRef s!"stage-route-handoff:{failure.reason}"]
    return none

def StageRun.recordHandOff (handedOff : RouteMaterialization) (state : StageRunState) :
    StageRunState :=
  let state := { state with nextStageRunLaunch := some handedOff }
  if handedOff = .routeBudgetExhausted then
    state.withRouteDebts [run.failureRef "cross-stage-route-back-budget-exhausted"]
  else state

def terminalize (next : StageRunState) : Workflow StageRunState := do
  updateState fun _ => run.withRouteDecisionDebt next
  let controller ← readController
  match run.routeLaunch? controller with
  | some request =>
    match ← run.handOff request with
    | some handedOff => updateState (run.recordHandOff handedOff)
    | none => pure ()
  | none => pure ()
  let state ← readState
  tryCatch
    (do
      project state
      updateState fun state => { state with sqliteProjection := .synced })
    fun failure => updateState fun state => { state with sqliteProjection := .failed failure.message }
  readState

/-! ## Steps that reviews share -/

/-- `commitTerminalRouteDecision`. -/
def commitTerminalRouteDecision (attempt : AttemptTaken) : Workflow Unit :=
  match attempt.route.decision with
  | none => pure ()
  | some decision => do
    modifyController fun controller => {
      controller with
      decisiveExecutionContentBinding := attempt.executionPolicy.binding
      state := { controller.state with
        decisiveAttemptRole := some attempt.attemptRole
        decisiveAttemptRef := some attempt.attemptRef
        selectedStageRoute := some decision
        routeEvidenceRefs := decision.evidenceRefs } }
    note (.routeCommitted attempt.attemptRef decision)

/-- An attempt that did not stop the run. A progress-first run commits the route
of a review at once. -/
def admitReview (attempt : AttemptTaken) : Workflow Unit := do
  note (.attemptAdmitted attempt.attemptRef)
  if run.patches.progressFirstHandoff then commitTerminalRouteDecision attempt

/-- The refs that bind a repair to the revision that a receipt asks for. -/
structure RevisionTransport where
  revisionIntakeRefs : List JsonRecord
  oplStageReviewReceiptRef : Option JsonRecord
  deriving DecidableEq

def RevisionTransport.none : RevisionTransport := ⟨[], .none⟩

def revisionTransport? (receipt : StageReviewReceipt) : Option RevisionTransport :=
  let transport := asRecord receipt.revisionTransport
  let revisionIntakeRef := asRecord (field? transport "opl_revision_intake_ref")
  let stageReviewReceiptRef := asRecord (field? transport "opl_stage_review_receipt_ref")
  if field? transport "surface_kind" = some (.string "opl_revision_transport") ∧
      field? revisionIntakeRef "kind" = some (.string "opl_revision_intake") ∧
      field? stageReviewReceiptRef "kind" = some (.string "opl_stage_review_receipt") then
    some ⟨[revisionIntakeRef], some stageReviewReceiptRef⟩
  else .none

/-- `revisionTransportFromReceipt`: a receipt without one is a debt. -/
def revisionTransportFromReceipt (receipt : StageReviewReceipt) :
    Workflow (Option RevisionTransport) := do
  match revisionTransport? receipt with
  | some transport => return some transport
  | .none =>
    updateState (·.withDebts [run.failureRef "revision-intake-binding-required"])
    return .none

def askForReceipt (producerAttemptRef : String) (review : AttemptTaken)
    (outcome : StageQualityOutcome) : Workflow StageReviewReceipt :=
  reviewReceipt {
    producerAttemptRef, reviewerAttemptRef := review.attemptRef
    rubricRefs := review.executionPolicy.rubricRefs
    verdict := stageReviewVerdictForOutcome outcome }

/-- The receipt of a review with the debt of its input snapshot. -/
def recordReceipt (review : AttemptTaken) (receipt : StageReviewReceipt) (state : StageRunState) :
    StageRunState :=
  { state with reviewReceipts := state.reviewReceipts ++ [receipt] }.withDebts
    review.reviewInputSnapshotQualityDebtRef.toList

/-- `applyReviewStop`. -/
def applyReviewStop (outcome : StageQualityOutcome) (hardStop : DeclaredHardStop)
    (sourceAttemptRef : String) (state : StageRunState) : StageRunState :=
  { state with
    status := if outcome = .blocked then .blocked else .humanGate
    currentRole := none
    blockedReason := some hardStop.blockedReason
    hardStopClass := some hardStop.hardStopClass
    typedBlockerRefs := hardStop.typedBlockerRefs
    humanGateRefs := hardStop.humanGateRefs
    sourceAttemptRef := some sourceAttemptRef }

/-- A review that blocks the run or sends it to a human. -/
def stopAtReview (producerAttemptRef : String) (review : AttemptTaken)
    (outcome : StageQualityOutcome) : Workflow Ending := do
  let hardStop ← checked (validateStageQualityReviewHardStopOutcome outcome review.envelope)
  updateState (applyReviewStop outcome hardStop review.attemptRef)
  let receipt ← askForReceipt producerAttemptRef review outcome
  updateState (recordReceipt review receipt)
  return .terminalize .reviewHardStop (← readState)

/-- The terminal state of a stage that a review passes. -/
def endInPass (review : AttemptTaken) : Workflow Ending := do
  commitTerminalRouteDecision review
  let state ← readState
  return .terminalize .passed (state.endsWith
    (if review.reviewInputSnapshotQualityDebtRef.isSome then .completedWithQualityDebt
      else .completed))

/-- The terminal state of a stage that a review settles for. -/
def endInQualityDebt (review : AttemptTaken) (reason : String) : Workflow Ending := do
  commitTerminalRouteDecision review
  let state ← readState
  return .terminalize .qualityDebt ((state.endsWith .completedWithQualityDebt).withDebts
    (asStringList (field? review.envelope "quality_debt_refs") ++ [run.failureRef reason]))

/-- The terminal state of a stage whose findings stay open. -/
def endWithOpenFindings (exit : Exit) (review : AttemptTaken)
    (findings : List StageQualityFinding) (reason : String) : Workflow Ending := do
  commitTerminalRouteDecision review
  let state ← readState
  return .terminalize exit ((state.endsWith .completedWithQualityDebt).withDebts
    (findings.map findingDebtRef ++ [run.failureRef reason]))

def isEarlyRepairRouteBack (attempt : AttemptTaken) : Bool :=
  run.patches.earlyRepairRouteBack &&
    isRepairRequiredCrossStageRouteBackDecision attempt.attemptRole.reviews attempt.outcome
      (text? (some (.string run.input.stageId))) attempt.route.decision

def withoutArtifact (message blockedReason : String) (sourceAttemptRef : Option String) :
    WorkflowFailure :=
  .contract message (some {
    hardStopClass := .zeroConsumableArtifact, blockedReason, sourceAttemptRef })

/-- `terminalizeEarlyRepairRouteBack`. -/
def endInRouteBack (attempt : AttemptTaken) (openFindings : List StageQualityFinding) :
    Workflow Ending := do
  let state ← readState
  if state.hasConsumableArtifact = false then
    throw (withoutArtifact
      "Stage quality cross-Stage repair route-back requires a consumable artifact."
      "stage_quality_route_back_without_consumable_artifact" (some attempt.attemptRef))
  commitTerminalRouteDecision attempt
  let state ← readState
  return .terminalize .routeBack ((state.endsWith .completedWithQualityDebt).withDebts
    (openFindings.map findingDebtRef))

/-- `terminalizeScopeBudgetIfNeeded`. -/
def terminalizeScopeBudgetIfNeeded (sourceAttemptRef : String)
    (findings : List StageQualityFinding) (includeAttemptLimit : Bool) :
    Workflow (Option StageRunEnd) := do
  let state ← readState
  let evaluation ← checked (evaluateStageQualityScopeBudget run.scopeBudget state.scopeBudgetUsage
    state.hasConsumableArtifact)
  let exhaustedReasons := if includeAttemptLimit then evaluation.exhaustedReasons
    else evaluation.exhaustedReasons.filter (· ≠ .maxAttemptsExhausted)
  match exhaustedReasons with
  | [] => return none
  | stopReason :: _ =>
    let budgetRef := run.failureRef s!"scope-budget-{stopReason.text}"
    let debtRefs := if evaluation.disposition = .completeWithQualityDebt then [budgetRef] else []
    updateState fun state => { state with scopeBudgetStopReason := some stopReason }.withDebts
      (findings.map findingDebtRef ++ debtRefs)
    let state ← readState
    let ended ← terminalize run <| match evaluation.disposition with
      | .hardStopNoConsumableArtifact => { state with
          status := .blocked
          currentRole := none
          blockedReason := some "stage_quality_scope_budget_exhausted_without_consumable_artifact"
          hardStopClass := some .zeroConsumableArtifact
          typedBlockerRefs := [budgetRef]
          sourceAttemptRef := some sourceAttemptRef }
      | _ => { (state.endsWith .completedWithQualityDebt).withDebts [budgetRef] with
          sourceAttemptRef := some sourceAttemptRef }
    return some ⟨.scopeBudgetExhausted, ended⟩

/-! ## The producer -/

/-- The local variables of the `try` block between its phases. -/
structure Locals where
  parentAttemptRef : String
  artifactProducerAttemptRef : String
  snapshotRequest : Option Json
  deriving DecidableEq

def plainAttempt (role : StageQualityAttemptRole) (round : Nat) (identity : ArtifactIdentity) :
    AttemptRequest where
  role := role
  round := round
  parentAttemptRef := none
  artifactProducerAttemptRef := none
  artifactIdentity := identity
  findings := []
  repairMap := []
  routeRecommendations := []
  reviewInputSnapshotMaterializationRequest := none
  revisionIntakeRefs := []
  oplStageReviewReceiptRef := none

def producerPhase : Workflow (Course Locals) := do
  let state ← readState
  let producer ← runAttempt run (plainAttempt .producer 0 state.artifactIdentity)
  let state ← readState
  if state.stopped then
    if producer.executionPolicy.formalReviewRequired = false ∧
        state.status = .completedWithQualityDebt then
      commitTerminalRouteDecision producer
    return .returns (.terminalize .attemptStopped (← readState))
  if producer.executionPolicy.formalReviewRequired = false then
    commitTerminalRouteDecision producer
    let state ← readState
    return .returns (.terminalize .producerOnly (state.endsWith .completed))
  return .continues {
    parentAttemptRef := producer.attemptRef
    artifactProducerAttemptRef := producer.attemptRef
    snapshotRequest := field? producer.envelope "review_input_snapshot_materialization_request" }

/-! ## The initial review -/

/-- What the rounds of repair start from. -/
structure RepairStart where
  round : Nat
  parentAttemptRef : String
  artifactProducerAttemptRef : String
  findings : List StageQualityFinding
  transport : Option RevisionTransport
  deriving DecidableEq

def reviewPhase (locals : Locals) : Workflow (Course RepairStart) := do
  let state ← readState
  let review ← runAttempt run { plainAttempt .reviewer 0 state.artifactIdentity with
    parentAttemptRef := some locals.parentAttemptRef
    artifactProducerAttemptRef := some locals.artifactProducerAttemptRef
    reviewInputSnapshotMaterializationRequest := locals.snapshotRequest }
  let state ← readState
  if state.stopped then return .returns (.terminalize .attemptStopped state)
  admitReview run review
  match review.outcome with
  | none => throw (.thrown
      "Completed initial Review Attempt did not expose a canonical quality outcome.")
  | some outcome =>
    if outcome.hardStops then
      return .returns (← stopAtReview locals.artifactProducerAttemptRef review outcome)
    let reported ← checked (findingList (field? review.envelope "findings") "findings")
    let findings ← checked (validateInitialStageQualityReviewOutcome outcome
      (reported.map StageQualityFinding.toRecord))
    let receipt ← askForReceipt locals.artifactProducerAttemptRef review outcome
    let transport ← revisionTransportFromReceipt run receipt
    updateState fun state => recordReceipt review receipt { state with findings }
    if isEarlyRepairRouteBack run review then
      return .returns (← endInRouteBack review findings)
    if outcome = .pass then return .returns (← endInPass review)
    if outcome = .qualityDebt then
      return .returns (← endInQualityDebt run review "initial-review-quality-debt")
    match ← terminalizeScopeBudgetIfNeeded run review.attemptRef findings true with
    | some ended => return .returns (.ended ended)
    | none =>
      let state ← readState
      if state.maxRepairRounds = 0 then
        return .returns (← endWithOpenFindings run .noRepairBudget review findings
          "initial-review-repair-budget-exhausted")
      return .continues {
        round := 1, parentAttemptRef := review.attemptRef
        artifactProducerAttemptRef := locals.artifactProducerAttemptRef, findings, transport }

/-! ## Rounds of repair -/

/-- The evaluation of a re-review against the findings it was given. -/
structure ReReviewed where
  report : ReReviewReport
  closure : FindingClosureEvaluation

def evaluateReReview (findings : List StageQualityFinding)
    (repairMap : List StageQualityRepairMapEntry) (outcome : StageQualityOutcome)
    (envelope : JsonRecord) : Checked ReReviewed := do
  let report ← reReviewReport envelope
  let closure ← evaluateStageQualityFindingClosure (findings.map StageQualityFinding.toRecord)
    (repairMap.map StageQualityRepairMapEntry.toRecord) report.toResult
  validateStageQualityReReviewOutcome outcome closure
  return { report, closure }

def recordReReview (review : AttemptTaken) (receipt : StageReviewReceipt) (reviewed : ReReviewed)
    (state : StageRunState) : StageRunState :=
  recordReceipt review receipt { state with findingClosures := reviewed.report.findingClosures }

/-- The end of a re-review whose findings fill the repair budget. -/
def endInRepairBudget (review : AttemptTaken) (findings : List StageQualityFinding)
    (reason : String) : Workflow Ending := do
  let state ← readState
  if state.hasConsumableArtifact = false then
    throw (withoutArtifact "Stage quality repair budget exhausted without a consumable artifact."
      "stage_quality_budget_exhausted_without_consumable_artifact" none)
  endWithOpenFindings run .repairBudgetExhausted review findings reason

/-- A repairer takes up the findings; what it hands in is the artifact from then on. -/
def repairStep (start : RepairStart) : Workflow (Course (AttemptTaken × List StageQualityRepairMapEntry)) := do
  let state ← readState
  let transport := start.transport.getD .none
  let repair ← runAttempt run { plainAttempt .repairer start.round state.artifactIdentity with
    parentAttemptRef := some start.parentAttemptRef
    artifactProducerAttemptRef := some start.artifactProducerAttemptRef
    findings := start.findings
    revisionIntakeRefs := transport.revisionIntakeRefs
    oplStageReviewReceiptRef := transport.oplStageReviewReceiptRef }
  let state ← readState
  if state.stopped then return .returns (.terminalize .attemptStopped state)
  if repair.artifactProducedByAttempt = false then
    return .returns (.terminalize .repairWithoutArtifact
      ((state.endsWith .completedWithQualityDebt).withDebts
        [run.failureRef s!"repair-round-{start.round}-did-not-produce-new-artifact"]))
  let repairMap ← checked (validateStageQualityRepairMap
    (start.findings.map StageQualityFinding.toRecord) (asRecordList (field? repair.envelope "repair_map")))
  updateState fun state => { state with repairMap, artifactIdentity := repair.artifactIdentity }
  match ← terminalizeScopeBudgetIfNeeded run repair.attemptRef start.findings false with
  | some ended => return .returns (.ended ended)
  | none => return .continues (repair, repairMap)

/-- The re-review of a repair. -/
def reReviewStep (start : RepairStart) (repair : AttemptTaken)
    (repairMap : List StageQualityRepairMapEntry) : Workflow (Course RepairStart) := do
  let state ← readState
  let transport := start.transport.getD .none
  let review ← runAttempt run { plainAttempt .reReviewer start.round state.artifactIdentity with
    parentAttemptRef := some repair.attemptRef
    artifactProducerAttemptRef := some repair.attemptRef
    findings := start.findings
    repairMap
    reviewInputSnapshotMaterializationRequest :=
      field? repair.envelope "review_input_snapshot_materialization_request"
    revisionIntakeRefs := transport.revisionIntakeRefs
    oplStageReviewReceiptRef := transport.oplStageReviewReceiptRef }
  updateState fun state => { state with repairRoundsUsed := start.round }
  refreshScopeBudgetUsage run
  let state ← readState
  if state.stopped then return .returns (.terminalize .attemptStopped state)
  admitReview run review
  match review.outcome with
  | none => throw (.thrown "Completed Re-review Attempt did not expose a canonical quality outcome.")
  | some outcome =>
    if outcome.hardStops then
      return .returns (← stopAtReview repair.attemptRef review outcome)
    let reviewed ← checked (evaluateReReview start.findings repairMap outcome review.envelope)
    let disposition ← checked (classifyStageQualityReReviewBudget reviewed.closure start.round
      review.executionPolicy.maxRepairRounds)
    let receipt ← askForReceipt repair.attemptRef review outcome
    let transport ← revisionTransportFromReceipt run receipt
    updateState (recordReReview review receipt reviewed)
    if outcome = .pass then return .returns (← endInPass review)
    if outcome = .qualityDebt then
      return .returns (← endInQualityDebt run review "re-review-quality-debt")
    let findings := openFindings start.findings reviewed.closure reviewed.report
    updateState fun state => { state with findings }
    match ← terminalizeScopeBudgetIfNeeded run review.attemptRef findings true with
    | some ended => return .returns (.ended ended)
    | none =>
      if isEarlyRepairRouteBack run review then
        return .returns (← endInRouteBack review findings)
      if disposition = .terminalQualityDebt then
        return .returns (← endInRepairBudget run review findings
          "re-review-repair-budget-exhausted")
      return .continues {
        round := start.round + 1, parentAttemptRef := review.attemptRef
        artifactProducerAttemptRef := repair.attemptRef, findings, transport }

/-- What is left when the loop runs off its end. -/
def endOfRounds : Workflow Ending := do
  let state ← readState
  if state.artifactIdentity.artifactRefs = [] ∨ state.artifactIdentity.artifactHashes = [] then
    return .terminalize .roundsOver { state with
      status := .blocked
      currentRole := none
      blockedReason := some "stage_quality_budget_exhausted_without_consumable_artifact"
      hardStopClass := some .zeroConsumableArtifact
      sourceAttemptRef := state.lastAttemptRef }
  return .terminalize .roundsOver ((state.endsWith .completedWithQualityDebt).withDebts
    (state.findings.map findingDebtRef))

/-- `for (let round = start.round; round <= state.max_repair_rounds; round += 1)`. -/
def repairRounds (fuel : Nat) (start : RepairStart) : Workflow Ending := do
  let state ← readState
  if state.maxRepairRounds < start.round then endOfRounds
  else match fuel with
    | 0 => return .terminalize .outOfFuel state
    | fuel + 1 =>
      match ← repairStep run start with
      | .returns ending => return ending
      | .continues (repair, repairMap) =>
        match ← reReviewStep run start repair repairMap with
        | .returns ending => return ending
        | .continues next => repairRounds fuel next

/-! ## Recovered runs -/

/-- A recovery after a repairer starts with the re-review that was missed. -/
def recoveredReReviewPhase (recovery : RecoveryResume) : Workflow (Course RepairStart) := do
  let state ← readState
  let repairMap ← checked (validateStageQualityRepairMap
    (state.findings.map StageQualityFinding.toRecord)
    (recovery.repairMap.map StageQualityRepairMapEntry.toRecord))
  let transport ← match state.reviewReceipts.getLast? with
    | some receipt => revisionTransportFromReceipt run receipt
    | none => throw (.thrown "Cannot read properties of undefined (reading 'revision_transport')")
  let transport := transport.getD .none
  let review ← runAttempt run {
    plainAttempt .reReviewer recovery.repairRoundsUsed state.artifactIdentity with
    parentAttemptRef := some recovery.artifactProducerAttemptRef
    artifactProducerAttemptRef := some recovery.artifactProducerAttemptRef
    findings := state.findings
    repairMap
    reviewInputSnapshotMaterializationRequest := recovery.reviewInputSnapshotMaterializationRequest
    revisionIntakeRefs := transport.revisionIntakeRefs
    oplStageReviewReceiptRef := transport.oplStageReviewReceiptRef }
  updateState fun state => { state with repairMap }
  let state ← readState
  if state.stopped then return .returns (.terminalize .attemptStopped state)
  admitReview run review
  match review.outcome with
  | none => throw (.thrown
      "Completed recovered Re-review Attempt did not expose a canonical quality outcome.")
  | some outcome =>
    if outcome.hardStops then
      return .returns (← stopAtReview recovery.artifactProducerAttemptRef review outcome)
    let reviewed ← checked (evaluateReReview state.findings repairMap outcome review.envelope)
    let receipt ← askForReceipt recovery.artifactProducerAttemptRef review outcome
    updateState (recordReReview review receipt reviewed)
    if outcome = .pass then return .returns (← endInPass review)
    if outcome = .qualityDebt then
      return .returns (← endInQualityDebt run review "recovered-re-review-quality-debt")
    let findings := openFindings state.findings reviewed.closure reviewed.report
    updateState fun state => { state with findings, repairRoundsUsed := recovery.repairRoundsUsed }
    let transport ← revisionTransportFromReceipt run receipt
    match ← terminalizeScopeBudgetIfNeeded run review.attemptRef findings true with
    | some ended => return .returns (.ended ended)
    | none =>
      if isEarlyRepairRouteBack run review then
        return .returns (← endInRouteBack review findings)
      let disposition ← checked (classifyStageQualityReReviewBudget reviewed.closure
        recovery.repairRoundsUsed review.executionPolicy.maxRepairRounds)
      if disposition = .terminalQualityDebt then
        return .returns (← endInRepairBudget run review findings
          "recovered-re-review-repair-budget-exhausted")
      return .continues {
        round := recovery.repairRoundsUsed + 1, parentAttemptRef := review.attemptRef
        artifactProducerAttemptRef := recovery.artifactProducerAttemptRef, findings, transport }

/-- A recovery after a reviewer takes up the repair that the review asked for. -/
def recoveredReviewPhase (recovery : RecoveryResume) : Workflow (Course RepairStart) := do
  let state ← readState
  let receipt? := state.reviewReceipts.getLast?.filter fun receipt =>
    receipt.verdict = .repairRequired ∧
      some receipt.reviewerAttemptRef = recovery.reviewerAttemptRef ∧
      receipt.producerAttemptRef = recovery.artifactProducerAttemptRef
  match receipt? with
  | none => throw (.thrown
      "Reviewer recovery requires its original accepted repair-required review.")
  | some receipt =>
    let findings ← checked (validateInitialStageQualityReviewOutcome .repairRequired
      (state.findings.map StageQualityFinding.toRecord))
    let transport ← revisionTransportFromReceipt run receipt
    if transport = .none then
      throw (.thrown "Reviewer recovery requires its formal revision intake.")
    let state ← readState
    match ← terminalizeScopeBudgetIfNeeded run receipt.reviewerAttemptRef findings true with
    | some ended => return .returns (.ended ended)
    | none => return .continues {
        round := state.repairRoundsUsed + 1, parentAttemptRef := receipt.reviewerAttemptRef
        artifactProducerAttemptRef := recovery.artifactProducerAttemptRef, findings, transport }

/-! ## The workflow -/

/-- The producer and the review, or what a recovery starts from instead. -/
def openingPhase : Workflow (Course RepairStart) := do
  match run.input.recoveryResume with
  | none =>
    match ← producerPhase run with
    | .returns ending => return .returns ending
    | .continues locals => reviewPhase run locals
  | some recovery =>
    match recovery.resumeAfterRole with
    | .repairer => recoveredReReviewPhase run recovery
    | .reviewer => recoveredReviewPhase run recovery
    | .producer => reviewPhase run {
        parentAttemptRef := recovery.artifactProducerAttemptRef
        artifactProducerAttemptRef := recovery.artifactProducerAttemptRef
        snapshotRequest := recovery.reviewInputSnapshotMaterializationRequest }

/-- The `try` block of the workflow function. -/
def workflowBody (fuel : Nat) : Workflow Ending := do
  match ← openingPhase run with
  | .returns ending => return ending
  | .continues start => repairRounds run fuel start

/-- The state that the outer `catch` terminalizes. -/
def caughtState (failure : WorkflowFailure) (state : StageRunState) : StageRunState :=
  let produced := if run.patches.formalReviewDeclaredArtifactIdentity then
    state.hasProducedConsumableArtifact else state.hasConsumableArtifact
  let terminates := fun hardStop : ControllerHardStop =>
    decide (hardStop.hardStopClass ≠ .zeroConsumableArtifact) || !produced
  match failure.controllerHardStop?.filter fun hardStop => terminates hardStop with
  | some hardStop => { state with
      status := if run.patches.runtimeHumanGateClassification ∧
          hardStop.hardStopClass = .humanDecisionRequired then .humanGate else .blocked
      currentRole := none
      blockedReason := some hardStop.blockedReason
      hardStopClass := some hardStop.hardStopClass
      typedBlockerRefs := []
      humanGateRefs := []
      sourceAttemptRef := hardStop.sourceAttemptRef.or state.lastAttemptRef }
  | none =>
    let reason := match failure.controllerHardStop? with
      | some hardStop => hardStop.blockedReason
      | none => if run.patches.progressFirstHandoff then failure.reason else failure.message
    if state.hasConsumableArtifact then
      { (state.endsWith .completedWithQualityDebt).withDebts [run.failureRef reason] with
        blockedReason := none }
    else { state with
      status := .blocked
      currentRole := none
      blockedReason := some "stage_quality_failed_without_consumable_artifact"
      hardStopClass := some .zeroConsumableArtifact
      sourceAttemptRef := state.lastAttemptRef }

/-- The outer `catch`. -/
def catchFailure (failure : WorkflowFailure) : Workflow Ending := do
  if run.patches.cancellationPropagation ∧ failure.isCancellation then throw failure
  let state ← readState
  if state.stopped then return .terminalize .caught state
  return .terminalize .caught (caughtState run failure state)

/-- The workflow after its input has been validated. -/
def controlStageRun (fuel : Nat) : Workflow StageRunEnd := do
  let ending ← tryCatch (workflowBody run fuel) (catchFailure run)
  match ending with
  | .ended result => return result
  | .terminalize exit next =>
    let state ← terminalize run next
    return ⟨exit, state⟩

end

/-! ## From the input -/

def stageRunQualityCycleId (input : StageRunInput) : String := s!"quality-cycle:{input.stageRunId}"

/-- A check that throws a plain error. -/
def demand (condition : Prop) [Decidable condition] (message : String) : Controlled Unit :=
  if condition then .ok () else .error (.thrown message)

/-- The role that hands in the artifact a recovery starts from. -/
def RecoveryRole.artifactRole : RecoveryRole → StageQualityAttemptRole
  | .producer | .reviewer => .producer
  | .repairer => .repairer

def recoveryResumeBinds (input : StageRunInput) (recovery : RecoveryResume) : Bool :=
  let artifactProducer := recovery.artifactProducerAttemptSummary
  let identity := recovery.artifactIdentity
  decide (trim recovery.recoveryId ≠ "" ∧ recovery.qualityCycleId = stageRunQualityCycleId input ∧
    input.formalReview.required = true ∧
    artifactProducer.attemptRole = recovery.resumeAfterRole.artifactRole ∧
    artifactProducer.status = .completed ∧ trim artifactProducer.stageAttemptId ≠ "" ∧
    trim artifactProducer.workflowId ≠ "" ∧
    trim (artifactProducer.executionSessionRef.getD "") ≠ "" ∧
    recovery.artifactProducerAttemptRef = attemptRefOf artifactProducer.stageAttemptId ∧
    identity.artifactRefs ≠ [] ∧ identity.artifactRefs.length = identity.artifactHashes.length ∧
    identity.artifactRefs.length = identity.artifactIdentityReceiptRefs.length ∧
    identity = artifactProducer.artifactIdentity)

def validateWorkflowStageRunInput (input : StageRunInput) : Controlled Unit := do
  let bindings := [("stage_run_id", input.stageRunId), ("quality_policy_ref", input.qualityPolicyRef),
    ("domain_pack_root", input.domainPackRoot), ("stage_manifest_ref", input.stageManifestRef),
    ("stage_manifest_sha256", input.stageManifestSha256)]
  match bindings.find? fun binding => trim binding.2 = "" with
  | some binding => throw (.thrown s!"StageRun pack binding requires {binding.1}.")
  | none => pure ()
  demand (input.rolePrompts.Perm ["producer", "re_reviewer", "repairer", "reviewer"])
    "StageRun role_prompt_refs must use only producer, reviewer, repairer, and re_reviewer."
  demand ((integerBetween? input.formalReview.maxRepairRounds 0 3).isSome = true)
    "StageRun quality repair budget must be between zero and three."
  demand (input.qualityRubricRefs ≠ []) "StageRun quality rubric refs are required."
  demand (input.stageId ∈ input.declaredStageIds)
    "StageRun route transport requires declared Stage ids including the current Stage."
  demand (¬(input.stageRole = some "cross_stage_meta_review" ∧ input.formalReview.required = true))
    "Cross-stage Meta Review Stage cannot recursively require formal Stage Review."
  demand (∀ recovery ∈ input.recoveryResume, recoveryResumeBinds input recovery = true)
    "StageRun recovery resume must bind one completed artifact producer and its exact artifact identity."

/-- The refs and hashes that a run starts from, with their receipts. -/
def initialArtifactIdentity (input : StageRunInput) : Checked ArtifactIdentity := do
  let given := (input.recoveryResume.map RecoveryResume.artifactIdentity).getD input.artifactIdentity
  let artifacts ← normalizeStageQualityArtifactIdentity (given.artifactRefs.map Json.string)
    (given.artifactHashes.map Json.string)
  return { artifactRefs := artifacts.1, artifactHashes := artifacts.2
           artifactIdentityReceiptRefs := match input.recoveryResume with
             | some recovery => recovery.artifactIdentity.artifactIdentityReceiptRefs
             | none => input.artifactIdentity.artifactIdentityReceiptRefs.filter (· ≠ "") }

def initialAttempts : Option RecoveryResume → List AttemptSummary
  | none => []
  | some recovery => recovery.priorAttemptSummaries.getD [recovery.artifactProducerAttemptSummary]

def initialState (input : StageRunInput) (patches : StageRunPatches) (maxRepairRounds : Nat)
    (artifactIdentity : ArtifactIdentity) : StageRunState :=
  let recovery := input.recoveryResume
  let carried := fun {α : Type} (field : RecoveryResume → List α) => (recovery.map field).getD []
  { status := .registered
    currentRole := none
    repairRoundsUsed := (recovery.map RecoveryResume.repairRoundsUsed).getD 0
    maxRepairRounds
    scopeBudgetUsage := {
      attemptsUsed := 0
      managedAttemptsUsed := if patches.formalReviewDeclaredArtifactIdentity then some 0 else none
      elapsedMs := 0, tokensUsed := none }
    scopeBudgetStopReason := none
    attempts := initialAttempts recovery
    findings := carried RecoveryResume.findings
    repairMap := carried RecoveryResume.repairMap
    findingClosures := []
    reviewReceipts := carried RecoveryResume.reviewReceipts
    artifactIdentity
    qualityDebtRefs := carried RecoveryResume.qualityDebtRefs
    routeQualityDebtRefs := carried RecoveryResume.routeQualityDebtRefs
    decisiveAttemptRole := none
    decisiveAttemptRef := none
    selectedStageRoute := none
    routeEvidenceRefs := []
    routeRecommendations := carried RecoveryResume.routeRecommendations
    nextStageRunLaunch := none
    blockedReason := none
    hardStopClass := none
    typedBlockerRefs := []
    humanGateRefs := []
    sourceAttemptRef := recovery.map RecoveryResume.artifactProducerAttemptRef
    sqliteProjection := .pending }

/-- What the controller starts with: a recovery counts the sessions it is told of. -/
def initialController (state : StageRunState) : Controller where
  state := state
  observedSessions := (state.attempts.filterMap AttemptSummary.executionSessionRef).filter (· ≠ "")
  decisiveExecutionContentBinding := none

/-- `StageRunWorkflow`. -/
def stageRunWorkflow (fuel : Nat) (patches : StageRunPatches) (input : StageRunInput) :
    Workflow StageRunEnd := do
  controlled (validateWorkflowStageRunInput input)
  let maxRepairRounds := (integerBetween? input.formalReview.maxRepairRounds 0 3).getD 0
  let scopeBudget ← checked (normalizeStageQualityScopeBudget input.formalReview.scopeBudget
    (some maxRepairRounds))
  let artifactIdentity ← checked (initialArtifactIdentity input)
  let run : StageRun := { input, patches, scopeBudget }
  modifyController fun _ =>
    initialController (initialState input patches maxRepairRounds artifactIdentity)
  if input.recoveryResume.isSome then refreshScopeBudgetUsage run
  controlStageRun run fuel

end OnePersonLab.Stage

import OnePersonLab.Stage.StageRunState

/-!
# One attempt of a StageRun

`runAttempt` materializes an attempt, runs it as a child workflow and enters its
result into the state: its session, its artifacts, its route output and what its
status means for the run.
-/

namespace OnePersonLab.Stage

open Contract Lib Evolution

/-- A run with what its input was validated to. -/
structure StageRun where
  input : StageRunInput
  patches : StageRunPatches
  scopeBudget : StageQualityScopeBudget

def StageRun.failureRef (run : StageRun) (reason : String) : String :=
  qualityFailureRef run.input.stageRunId reason

/-! ## Identity of the child -/

def workflowScopeKind (scope : ExecutionScope) : String :=
  scope.scopeKind.getD (if scope.executionScope.isSome then "work_item" else "domain")

def workflowExecutionScopeFields : List String :=
  ["surface_kind", "version", "scope_kind", "project_scope_id", "work_item_scope_id", "domain_id",
    "domain_work_item_id", "workspace_binding_id", "binding_version_id", "workspace_root",
    "canonical_work_item_root", "inventory_digest", "source_alias_fields", "scope_digest"]

def sameWorkflowExecutionScope (expected actual : ExecutionScope) : Bool :=
  let expectedScope := expected.executionScope.getD []
  let actualScope := actual.executionScope.getD []
  decide (workflowScopeKind expected = workflowScopeKind actual) &&
    if workflowScopeKind expected = "work_item" ∨ workflowScopeKind actual = "work_item" then
      decide ((expectedScope.map Prod.fst).Perm (actualScope.map Prod.fst)) &&
        workflowExecutionScopeFields.all fun field =>
          decide (field? expectedScope field = field? actualScope field)
    else expectedScope.isEmpty && actualScope.isEmpty

def assertWorkflowExecutionScopeIdentity (expected actual : ExecutionScope) : Checked Unit :=
  ensure (sameWorkflowExecutionScope expected actual = true)
    "Temporal workflow execution scope lineage is inconsistent."

def assertWorkflowAttemptIdentity (expected : StageAttemptInput) (actual : StageAttemptState) :
    Checked Unit := do
  ensure (expected.stageAttemptId = actual.stageAttemptId ∧
      expected.workflowId = actual.workflowId ∧ expected.domainId = actual.domainId ∧
      expected.stageId = actual.stageId)
    "Temporal child StageAttempt returned a different runtime identity."
  assertWorkflowExecutionScopeIdentity expected.scope actual.scope

/-! ## Its execution policy -/

structure ExecutionPolicy where
  binding : Option ExecutionContentBinding
  formalReviewRequired : Bool
  maxRepairRounds : Nat
  rubricRefs : List String
  deriving DecidableEq

def invalidExecutionPolicy : String :=
  "Stage quality controller received an invalid Attempt execution policy binding."

def executionPolicyForAttempt (input : StageAttemptInput) : Checked ExecutionPolicy :=
  match input.executionContentBinding with
  | none => fail
    "Stage quality controller requires the materialized Attempt execution content binding."
  | some binding =>
    let formalReview := asRecord (field? (asRecord binding.qualityPolicyBody) "formal_review")
    match field? formalReview "required",
        (field? formalReview "max_repair_rounds").bind (integerBetween? · 0 3) with
    | some (.bool required), some maxRepairRounds => do
      ensure (binding.qualityRubricRefs ≠ [] ∧ input.stageId ∈ binding.declaredStageIds)
        invalidExecutionPolicy
      return { binding := some binding, formalReviewRequired := required, maxRepairRounds
               rubricRefs := binding.qualityRubricRefs }
    | _, _ => fail invalidExecutionPolicy

/-- The policy that an attempt is run under. Histories from before the content
bindings fall back on the policy of the run, whose bounds have been checked. -/
def StageRun.executionPolicy (run : StageRun) (input : StageAttemptInput) :
    Checked ExecutionPolicy :=
  if input.executionContentBinding = none ∧ run.patches.controllerAttemptContentBinding = false then
    match integerBetween? run.input.formalReview.maxRepairRounds 0 3 with
    | some maxRepairRounds => .ok {
        binding := none, formalReviewRequired := run.input.formalReview.required, maxRepairRounds
        rubricRefs := run.input.qualityRubricRefs }
    | none => fail invalidExecutionPolicy
  else executionPolicyForAttempt input

/-! ## Running it -/

structure LaunchedAttempt where
  attemptRef : String
  childInput : StageAttemptInput
  executionPolicy : ExecutionPolicy
  result : StageAttemptState

def launchAttempt (run : StageRun) (asked : AttemptRequest) : Workflow LaunchedAttempt := do
  updateState fun state => { state with status := .running, currentRole := some asked.role }
  let state ← readState
  let materialized ← materialize { asked with routeRecommendations := state.routeRecommendations }
  let childInput := materialized.workflowInput
  checked (assertWorkflowExecutionScopeIdentity run.input.scope childInput.scope)
  let executionPolicy ← checked (run.executionPolicy childInput)
  updateState fun state => { state with maxRepairRounds := executionPolicy.maxRepairRounds }
  let result ← executeChild materialized.attemptRef childInput
  checked (assertWorkflowAttemptIdentity childInput result)
  if run.patches.progressFirstHandoff = false then
    syncAttempt materialized.attemptRef result
  return { attemptRef := materialized.attemptRef, childInput, executionPolicy, result }

/-- A completed attempt must come with a session that no other one came with. -/
def observeSession (role : StageQualityAttemptRole) (result : StageAttemptState) :
    Workflow Unit := do
  if result.status = .completed then
    match result.executionSessionRef with
    | none => throw (.thrown s!"Completed Stage quality {role.text} Attempt did not expose an execution session identity.")
    | some session =>
      let controller ← readController
      if session ∈ controller.observedSessions then
        throw (.thrown s!"Completed Stage quality Attempt reused provider session {session}.")
      modifyController fun controller =>
        { controller with observedSessions := session :: controller.observedSessions }

section Reading

variable (run : StageRun) (asked : AttemptRequest) (result : StageAttemptState)

def missingReviewOutcome : Bool :=
  run.patches.reviewProtocolFailure && asked.role.reviews &&
    decide (result.status = .completed) && !hasOwn result.qualityEnvelope "verdict" &&
    (stringField? result.qualityEnvelope "outcome").isNone

/-- The attempt counts as completed, with an outcome where its role has one. -/
def countsAsCompleted : Bool :=
  decide (result.status = .completed) && !missingReviewOutcome run asked result

def attemptOutcome : Checked (Option StageQualityOutcome) :=
  if countsAsCompleted run asked result then
    stageQualityAttemptOutcomeFromEnvelope asked.role result.qualityEnvelope
  else .ok none

def rawProgress : Bool := run.patches.progressFirstHandoff && result.rawExecutorOutput

def attemptReturnedArtifactIdentity : Bool :=
  asStringList (field? result.qualityEnvelope "artifact_refs") ≠ [] ||
    rawProgress run result && result.closeoutRefMetadata.any fun entry =>
      decide (field? entry "ref_kind" = some (.string "raw_executor_output"))

def attemptArtifactIdentity : Controlled ArtifactIdentity :=
  if countsAsCompleted run asked result ∨
      asked.role.reviews = false ∧ attemptReturnedArtifactIdentity run result = true then
    qualityArtifactIdentity result result.qualityEnvelope {
      requireDeclaredArtifactIdentity := run.patches.formalReviewDeclaredArtifactIdentity &&
        !run.patches.progressFirstHandoff
      structuredReviewerIdentityFailure := run.patches.reviewerIdentityHardStop
      canonicalSha256NotationEnabled := run.patches.canonicalArtifactSha256 }
      (if asked.role.reviews then some asked.artifactIdentity else none)
  else .ok asked.artifactIdentity

end Reading

/-! ## Entering its result -/

/-- `qualityScopeBudgetUsage`. -/
def qualityScopeBudgetUsage (state : StageRunState) (includeManagedAttemptsUsed : Bool)
    (elapsedMs : Nat) : Checked StageQualityScopeBudgetUsage := do
  let tokensUsed ← aggregateStageQualityScopeTokenUsage
    (state.attempts.map AttemptSummary.totalTokensObserved)
  return {
    attemptsUsed := state.repairRoundsUsed
    managedAttemptsUsed := if includeManagedAttemptsUsed then some state.attempts.length else none
    elapsedMs, tokensUsed }

def refreshScopeBudgetUsage (run : StageRun) : Workflow Unit := do
  let elapsedMs ← elapsed
  let state ← readState
  let usage ← checked (qualityScopeBudgetUsage state
    run.patches.formalReviewDeclaredArtifactIdentity elapsedMs)
  updateState fun state => { state with scopeBudgetUsage := usage }

def attemptSummary (asked : AttemptRequest) (launched : LaunchedAttempt)
    (artifactIdentity : ArtifactIdentity) : AttemptSummary where
  attemptRole := asked.role
  qualityRoundIndex := asked.round
  stageAttemptId := launched.childInput.stageAttemptId
  workflowId := launched.childInput.workflowId
  executionSessionRef := launched.result.executionSessionRef
  artifactProducerAttemptRef := asked.artifactProducerAttemptRef
  status := launched.result.status
  artifactIdentity
  totalTokensObserved := launched.result.observedTotalTokens

def syncFailureDebt (run : StageRun) (failure : WorkflowFailure) : String :=
  run.failureRef s!"attempt-sync:{failure.reason}"

/-- The attempt whose artifacts are no good: it is synchronized and recorded
without any, and the failure goes on. -/
def recordIdentityFailure {α : Type} (run : StageRun) (asked : AttemptRequest)
    (launched : LaunchedAttempt) (failure : WorkflowFailure) : Workflow α := do
  if run.patches.formalReviewDeclaredArtifactIdentity = false then throw failure
  if run.patches.progressFirstHandoff ∧ run.patches.identityFailureSync then
    tryCatch (syncAttempt launched.attemptRef launched.result) fun syncFailure => do
      if run.patches.reviewerIdentityHardStop = false ∨ failure.controllerHardStop? = none then
        throw syncFailure
      updateState (·.withDebts [syncFailureDebt run syncFailure])
  updateState fun state => { state with
    attempts := state.attempts ++ [attemptSummary asked launched ⟨[], [], []⟩] }
  refreshScopeBudgetUsage run
  throw failure

/-- The attempt as it is entered into the state with its artifacts. -/
def recordAttempt (run : StageRun) (asked : AttemptRequest) (launched : LaunchedAttempt)
    (artifactIdentity : ArtifactIdentity) (route : StageRouteEvaluation) (state : StageRunState) :
    StageRunState :=
  let reasons := route.decisionRejectionReasons ++ route.recommendationRejectionReasons
  let recorded : StageRunState := { state with
    attempts := state.attempts ++ [attemptSummary asked launched artifactIdentity]
    artifactIdentity := if asked.role = .repairer then state.artifactIdentity else artifactIdentity
    routeRecommendations := state.routeRecommendations ++
      (route.recommendation.map fun recommendation =>
        ⟨launched.attemptRef, asked.role, asked.round, recommendation⟩).toList }
  let recorded := recorded.withRouteDebts (reasons.map fun reason =>
    run.failureRef s!"route-output:{reason}")
  if rawProgress run launched.result then
    recorded.withDebts [run.failureRef "raw-artifact-requires-domain-review"]
  else recorded

/-- The synchronization of a progress-first run; its failure is a debt. -/
def syncRecordedAttempt (run : StageRun) (launched : LaunchedAttempt) : Workflow Unit := do
  if run.patches.progressFirstHandoff then
    tryCatch (syncAttempt launched.attemptRef launched.result) fun failure => do
      if failure.controllerHardStop?.isSome then throw failure
      updateState (·.withDebts [syncFailureDebt run failure])

/-! ## What its status means -/

def blockedAttemptReason (asked : AttemptRequest) (result : StageAttemptState) : String :=
  ((stringField? result.qualityEnvelope "blocked_reason").or
    (stringField? result.closeout "blocked_reason")).getD
    s!"stage_quality_{asked.role.text}_not_completed"

/-- A blocked or failed attempt lets the run go on, ends it in debt or blocks it. -/
def settleBlockedAttempt (run : StageRun) (asked : AttemptRequest) (launched : LaunchedAttempt)
    (state : StageRunState) : StageRunState :=
  let reason := blockedAttemptReason asked launched.result
  let hardStop := launched.result.providerRuntimeHardStop
  let recoverable := asked.role = .producer ∧ launched.executionPolicy.formalReviewRequired = true ∨
    asked.role = .repairer
  if state.hasConsumableArtifact = true ∧ hardStop = none ∧ recoverable then
    { state with status := .running, currentRole := none, blockedReason := none }
  else if state.hasConsumableArtifact = true ∧ hardStop = none ∧
      ¬(run.patches.reviewProtocolFailure = true ∧ asked.role.reviews = true) then
    { (state.endsWith .completedWithQualityDebt).withDebts [run.failureRef reason] with
      blockedReason := none }
  else
    { state with
      status := if run.patches.runtimeHumanGateClassification ∧
          hardStop.map DeclaredHardStop.hardStopClass = some .humanDecisionRequired then .humanGate
        else .blocked
      currentRole := none
      blockedReason := some reason
      hardStopClass := match hardStop with
        | some hardStop => some hardStop.hardStopClass
        | none => if state.hasConsumableArtifact then none else some .zeroConsumableArtifact
      typedBlockerRefs := (hardStop.map DeclaredHardStop.typedBlockerRefs).getD []
      humanGateRefs := (hardStop.map DeclaredHardStop.humanGateRefs).getD []
      sourceAttemptRef := some launched.attemptRef }

def settleAttempt (run : StageRun) (asked : AttemptRequest) (launched : LaunchedAttempt)
    (state : StageRunState) : StageRunState :=
  if missingReviewOutcome run asked launched.result then
    { state with
      status := .blocked, currentRole := none
      blockedReason := some "stage_quality_review_outcome_missing"
      sourceAttemptRef := some launched.attemptRef }
  else match launched.result.status with
    | .humanGate => { state with
        status := .humanGate, currentRole := none, blockedReason := some "human_gate"
        hardStopClass := some .humanDecisionRequired
        humanGateRefs := launched.result.humanGateRefs.filter (· ≠ "")
        sourceAttemptRef := some launched.attemptRef }
    | .blocked | .failed => settleBlockedAttempt run asked launched state
    | .registered | .running | .checkpointed | .completed => state

/-! ## The whole attempt -/

/-- The debt receipt that stands for a missing snapshot of the review input. -/
def snapshotDebtRef? (input : StageAttemptInput) : Option String :=
  (stringField? input.contextManifest "review_input_snapshot_quality_debt_receipt_ref").filter
    (· ≠ "")

/-- What the controller goes on with. -/
structure AttemptTaken where
  attemptRole : StageQualityAttemptRole
  attemptRef : String
  envelope : JsonRecord
  outcome : Option StageQualityOutcome
  artifactProducedByAttempt : Bool
  route : StageRouteEvaluation
  executionPolicy : ExecutionPolicy
  reviewInputSnapshotQualityDebtRef : Option String
  artifactIdentity : ArtifactIdentity

def runAttempt (run : StageRun) (asked : AttemptRequest) : Workflow AttemptTaken := do
  let launched ← launchAttempt run asked
  observeSession asked.role launched.result
  let outcome ← checked (attemptOutcome run asked launched.result)
  let artifactIdentity ← tryCatch (controlled (attemptArtifactIdentity run asked launched.result))
    (recordIdentityFailure run asked launched)
  let route := evaluateStageQualityAttemptRoute launched.childInput.toRecord
    launched.result.routeImpact
  note (.routeEvaluated launched.attemptRef asked.role route.decision)
  updateState (recordAttempt run asked launched artifactIdentity route)
  refreshScopeBudgetUsage run
  syncRecordedAttempt run launched
  updateState (settleAttempt run asked launched)
  return {
    attemptRole := asked.role
    attemptRef := launched.attemptRef
    envelope := launched.result.qualityEnvelope
    outcome
    artifactProducedByAttempt := !asked.role.reviews &&
      attemptReturnedArtifactIdentity run launched.result
    route
    executionPolicy := launched.executionPolicy
    reviewInputSnapshotQualityDebtRef := snapshotDebtRef? launched.childInput
    artifactIdentity }

end OnePersonLab.Stage

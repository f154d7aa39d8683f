import OnePersonLab.Evolution.KernelInterface
import OnePersonLab.Evolution.RiskPolicy

/-!
# The Foundry kernel

The operations of `FoundryKernel`, each a program over its ports. Every `await`
on a port is one request, so the programs of several callers interleave between
any two of them.
-/

namespace OnePersonLab.Evolution.Kernel

open Contract Lib

/-- A string that is there and not empty. -/
def present (value : Option String) : Option String := value.filter fun text => text ≠ ""

/-- `ownerGatePolicy(risk_tier!)`; only a run without a blueprint has no tier. -/
def ownerGatePolicyOf : Option FoundryRiskTier → OwnerGatePolicy
  | none => { canaryOwnerRequired := false, activeOwnerRequired := true }
  | some tier => ownerGatePolicy tier

/-! ## Reading -/

/-- `#object`: the stored value under a digest. A value of another kind under
the digest would be a record without the expected fields. -/
def object {α : Type} (kind : FoundryObject → Option α) (digest label : String) :
    KernelProgram α := do
  match ← ask (.getObject digest) with
  | none => reject s!"{label} is missing from the Foundry object store."
  | some stored =>
    match kind stored with
    | none => throwFailure (.runtime s!"{label} is not a {label}.")
    | some value => pure value

def asRequest : FoundryObject → Option DesignRequest
  | .request value => some value
  | _ => none

def asBlueprint : FoundryObject → Option AgentBlueprint
  | .blueprint value => some value
  | _ => none

def asCandidate : FoundryObject → Option MaterializedCandidate
  | .candidate value => some value
  | _ => none

def asEvidence : FoundryObject → Option EvidenceBundle
  | .evidence value => some value
  | _ => none

structure FoundryRunTerminalReadback where
  terminal : Bool
  state : FoundryRunState
  qualifiedAgentVersion : Option AgentVersion
  ownerDecisions : List FoundryOwnerDecisionReadback
  activationTransaction : Option ActivationTransaction
  runtimeBindingVerification : Option ActivationRuntimeBindingVerification
  currentActivation : ActivationPointer
  activeVersionMatchesRun : Option Bool

structure FoundryRunInspection where
  run : FoundryRunSnapshot
  request : DesignRequest
  activation : ActivationPointer
  terminalReadback : FoundryRunTerminalReadback

/-- The version that a run qualified, checked against the run. -/
def qualifiedAgentVersion (run : FoundryRunSnapshot) : KernelProgram (Option AgentVersion) :=
  match present run.versionDigest with
  | none => pure none
  | some versionDigest => do
    let version ← ask (.resolveVersion (some versionDigest) run.targetAgentId run.targetDomainId)
    check (ensure (∃ resolved ∈ version, resolved.versionDigest = versionDigest ∧
        resolved.targetAgentId = run.targetAgentId ∧ resolved.targetDomainId = run.targetDomainId)
      "FoundryRun terminal readback cannot resolve its exact qualified AgentVersion.")
    return version

/-- The last approval of an activation among the decisions. -/
def activeApproval (decisions : List FoundryOwnerDecisionReadback) :
    Option FoundryOwnerDecisionReadback :=
  decisions.reverse.find? fun decision => decision.action = "approve_active"

def assertActivationReceipt (kernel : FoundryKernel) (run : FoundryRunSnapshot)
    (decisions : List FoundryOwnerDecisionReadback) (event : FoundryRunEvent)
    (transaction : ActivationTransaction) : Checked Unit := do
  let verification := transaction.runtimeBindingVerification
  match field? event.payload "activation_runtime_binding_verification" with
  | some (.object recorded) => do
    let recordedDigest ← foundryContentDigest kernel.platform (.object recorded)
    let committedDigest ← foundryContentDigest kernel.platform verification.toJson
    ensure (recordedDigest = committedDigest ∧
        textField? event.payload "activation_runtime_preflight_ref" =
          some verification.preflightRef ∧
        textField? event.payload "activation_runtime_binding_ref" =
          some verification.runtimeBindingRef)
      "FoundryRun activation receipt does not bind its exact runtime verification."
  | _ => fail "FoundryRun activation receipt does not bind its exact runtime verification."
  ensure ((ownerGatePolicyOf run.riskTier).activeOwnerRequired = true →
      ∃ approval ∈ activeApproval decisions,
        transaction.authorityReceiptRef = some approval.receiptRef)
    "FoundryRun activation transaction does not bind its verified active approval receipt."

/-- The transaction that the completion event of a run names. -/
def activationTransaction (kernel : FoundryKernel) (run : FoundryRunSnapshot)
    (decisions : List FoundryOwnerDecisionReadback) :
    Option FoundryRunEvent → KernelProgram (Option ActivationTransaction)
  | none => pure none
  | some event => do
    let transactionId ← check (requiredRef (field? event.payload "activation_transaction_id")
      "activation_transaction_id")
    let history ← ask (.activationHistory run.targetAgentId run.targetDomainId)
    match history.find? fun entry => entry.transactionId = transactionId with
    | none =>
      reject "FoundryRun activation receipt does not resolve to its exact activation transaction."
    | some transaction => do
      check (ensure (some transaction.toVersionDigest = run.versionDigest ∧
          transaction.targetAgentId = run.targetAgentId ∧
          transaction.targetDomainId = run.targetDomainId)
        "FoundryRun activation receipt does not resolve to its exact activation transaction.")
      check (assertActivationReceipt kernel run decisions event transaction)
      return some transaction

def buildFoundryRunTerminalReadback (kernel : FoundryKernel) (run : FoundryRunSnapshot)
    (events : List FoundryRunEvent) (activation : ActivationPointer) :
    KernelProgram FoundryRunTerminalReadback := do
  let version ← qualifiedAgentVersion run
  let decisions ← check (ownerDecisionReadbacks events)
  let activationEvents := events.filter fun event => event.eventType = "activation_completed"
  check (ensure (activationEvents.length ≤ 1)
    "FoundryRun has more than one activation completion event.")
  check (ensure (run.state = .completedActive ↔ activationEvents ≠ [])
    "FoundryRun terminal state and activation completion receipt disagree.")
  let transaction ← activationTransaction kernel run decisions activationEvents.head?
  return {
    terminal := run.state.terminal
    state := run.state
    qualifiedAgentVersion := version
    ownerDecisions := decisions
    activationTransaction := transaction
    runtimeBindingVerification :=
      transaction.map ActivationTransaction.runtimeBindingVerification
    currentActivation := activation
    activeVersionMatchesRun :=
      (present run.versionDigest).map fun digest => activation.activeVersionDigest = some digest }

def inspectRun (kernel : FoundryKernel) (runId : String) : KernelProgram FoundryRunInspection := do
  let events ← ask (.readEvents runId)
  check (ensure (events ≠ []) "FoundryRun does not exist.")
  let run ← check (snapshotFromEvents kernel.platform events)
  let request ← object asRequest run.requestDigest "DesignRequest"
  let activation ← ask (.readActivation request.targetAgentId request.targetDomainId)
  let terminalReadback ← buildFoundryRunTerminalReadback kernel run events activation
  return { run, request, activation, terminalReadback }

/-! ## Appending -/

/-- The inputs of `#append`. -/
structure TransitionInput where
  eventType : String
  toState : FoundryRunState
  phase : String
  inputDigest : String
  payload : JsonRecord := []

/-- The event that `#append` builds at a snapshot. -/
def transitionEventInput (run : FoundryRunSnapshot) (input : TransitionInput)
    (occurredAt : String) : FoundryEventInput where
  runId := run.runId
  revision := run.revision + 1
  eventType := input.eventType
  fromState := some run.state
  toState := input.toState
  occurredAt := occurredAt
  idempotencyKey := s!"{run.runId}/{run.generation}/{input.phase}/{input.inputDigest}"
  previousEventHash := some run.lastEventHash
  payload := input.payload

def append (kernel : FoundryKernel) (inspection : FoundryRunInspection)
    (input : TransitionInput) : KernelProgram FoundryRunEvent := do
  let occurredAt ← ask .now
  let event ← check (buildFoundryEvent kernel.platform
    (transitionEventInput inspection.run input occurredAt))
  ask (.appendEvent {
    targetKey := targetKey inspection.request.targetAgentId inspection.request.targetDomainId
    expectedRevision := inspection.run.revision
    event })

/-- An append after a durable operation: an unknown completion may be retried. -/
def appendJournaledResult (kernel : FoundryKernel) (inspection : FoundryRunInspection)
    (result : FoundryOperationResult) (input : TransitionInput) : KernelProgram FoundryRunEvent :=
  (append kernel inspection input).tryCatch fun failure =>
    if failure.isContract || failure.isTransient then throwFailure failure
    else throwFailure (.transientActivity
      s!"Foundry event append completion is unknown after durable operation {result.operationKey}.")

/-! ## Activities -/

/-- The loop of `#activity` with the attempts that remain. -/
def activityAttempts {α : Type} (kernel : FoundryKernel) (operation : String)
    (attempt : KernelProgram α) : Nat → KernelProgram α
  | 0 =>
    throwFailure (.runtime
      s!"Foundry {operation} exhausted the transient infrastructure retry budget.")
  | remaining + 1 =>
    attempt.tryCatch fun failure =>
      if failure.isContract || !failure.isTransient then throwFailure failure
      else if remaining = 0 ∧ kernel.propagateTransientActivityFailures = true then
        throwFailure failure
      else activityAttempts kernel operation attempt remaining

def activity {α : Type} (kernel : FoundryKernel) (operation : String) (attempt : KernelProgram α) :
    KernelProgram α :=
  activityAttempts kernel operation attempt kernel.activityMaxAttempts

/-! ## The steps of a run -/

def resolveBaseline (request : DesignRequest) : KernelProgram (Option AgentVersion) :=
  match request.targetVersionRef with
  | none => pure none
  | some ref => ask (.resolveVersion (some ref) request.targetAgentId request.targetDomainId)

def baselineBlueprint (request : DesignRequest) : KernelProgram (Option AgentBlueprint) := do
  match ← resolveBaseline request with
  | none => return none
  | some version =>
    let blueprint ← object asBlueprint version.blueprintDigest "baseline AgentBlueprint"
    return some blueprint

def currentBlueprint (inspection : FoundryRunInspection) : KernelProgram AgentBlueprint :=
  match present inspection.run.blueprintDigest with
  | none => reject "FoundryRun has no admitted AgentBlueprint."
  | some digest => object asBlueprint digest "AgentBlueprint"

def currentCandidate (kernel : FoundryKernel) (inspection : FoundryRunInspection) :
    KernelProgram MaterializedCandidate :=
  match present inspection.run.candidateDigest, present inspection.run.candidateRecordDigest with
  | some _, some recordDigest => do
    let candidate ← object asCandidate recordDigest "materialized candidate record"
    let digest ← check (foundryContentDigest kernel.platform candidate.toJson)
    check (ensure (digest = recordDigest)
      "Materialized candidate record bytes do not match the admitted content digest.")
    return candidate
  | _, _ => reject "FoundryRun has no admitted materialized candidate."

def currentVersion (inspection : FoundryRunInspection) : KernelProgram AgentVersion :=
  match present inspection.run.versionDigest with
  | none => reject "FoundryRun has no qualified AgentVersion."
  | some digest => do
    match ← ask (.resolveVersion (some digest) inspection.request.targetAgentId
        inspection.request.targetDomainId) with
    | none => reject "FoundryRun AgentVersion is missing."
    | some version => pure version

/-- The tier of a run after a blueprint of the given tier is admitted. -/
def accumulatedRisk (current : Option FoundryRiskTier) (admitted : FoundryRiskTier) :
    FoundryRiskTier :=
  match current with
  | none => admitted
  | some tier => maximumRiskTier [tier, admitted]

def blueprintAdmitted (kernel : FoundryKernel) (run : FoundryRunSnapshot)
    (blueprintDigest : String) (previous : Option AgentBlueprint) (blueprint : AgentBlueprint) :
    Checked TransitionInput := do
  let risk := recomputeBlueprintRisk previous blueprint
  let previousDigest ← match previous with
    | none => pure none
    | some value => some <$> foundryContentDigest kernel.platform value.toJson
  return {
    eventType := "blueprint_admitted"
    toState := .materializing
    phase := "blueprint"
    inputDigest := run.requestDigest
    payload := [
      ("blueprint_digest", .string blueprintDigest),
      ("previous_blueprint_digest", .ofOptionalString previousDigest),
      ("risk_tier", .string (accumulatedRisk run.riskTier risk.riskTier).text),
      ("risk_reasons", .ofStrings risk.reasons),
      ("generation", .ofNat 0)] }

/-- What the kernel checks of the first blueprint of a run. -/
def assertInitialBlueprint (inspection : FoundryRunInspection) (blueprint : AgentBlueprint) :
    Checked Unit := do
  assertSameTarget inspection.request.target blueprint.target "AgentBlueprint"
  ensure (blueprint.designRequestDigest = inspection.run.requestDigest ∧ blueprint.generation = 0)
    "Initial AgentBlueprint is stale or has the wrong generation."
  assertBlueprintSatisfiesDesignRequest inspection.request blueprint

def design (kernel : FoundryKernel) (inspection : FoundryRunInspection) :
    KernelProgram FoundryRunEvent := do
  let designed ← activity kernel "design" (ask (.design inspection.request {
    runId := inspection.run.runId
    iteration := 0
    phase := .design
    inputDigest := inspection.run.requestDigest }))
  let blueprint ← check (validateAgentBlueprint designed)
  check (assertInitialBlueprint inspection blueprint)
  let stored ← ask (.putObject (.blueprint blueprint))
  let previous ← baselineBlueprint inspection.request
  let transition ← check (blueprintAdmitted kernel inspection.run stored.digest previous blueprint)
  append kernel inspection transition

def candidateMaterialized (run : FoundryRunSnapshot) (candidate : MaterializedCandidate)
    (recordDigest : String) : TransitionInput where
  eventType := "candidate_materialized"
  toState := .evaluating
  phase := "materialize"
  inputDigest := run.blueprintDigest.getD ""
  payload := [
    ("candidate_digest", .string candidate.candidateDigest),
    ("candidate_record_digest", .string recordDigest)]

def materialize (kernel : FoundryKernel) (inspection : FoundryRunInspection) :
    KernelProgram FoundryRunEvent := do
  let blueprint ← currentBlueprint inspection
  let candidate ← activity kernel "materialize" (ask (.materialize {
    runId := inspection.run.runId
    blueprint
    blueprintDigest := inspection.run.blueprintDigest.getD "" }))
  check (assertMaterializedCandidate inspection.request inspection.run candidate)
  let stored ← ask (.putObject (.candidate candidate))
  let digest ← check (foundryContentDigest kernel.platform candidate.toJson)
  check (ensure (stored.digest = digest)
    "Foundry object store changed the materialized candidate record.")
  append kernel inspection (candidateMaterialized inspection.run candidate stored.digest)

structure FoundryAdvanceRunStepOptions where
  operationKey : Option String := none
  replayOnly : Bool := false

def evaluationPhase (canary : Bool) : FoundryEvaluationOperationPhase :=
  if canary then .canary else .evaluate

/-- The version under canary must be the one of the candidate. -/
def bindsCandidate (version : AgentVersion) (candidate : MaterializedCandidate) : Prop :=
  version.targetAgentId = candidate.targetAgentId ∧
    version.targetDomainId = candidate.targetDomainId ∧
    version.blueprintDigest = candidate.blueprintDigest ∧
    version.candidateDigest = candidate.candidateDigest ∧
    version.candidateRef = candidate.candidateRef

instance (version : AgentVersion) (candidate : MaterializedCandidate) :
    Decidable (bindsCandidate version candidate) := inferInstanceAs (Decidable (_ ∧ _))

/-- What an evaluation of a run works on. -/
structure EvaluationSubject where
  blueprint : AgentBlueprint
  candidate : MaterializedCandidate
  baseline : Option AgentVersion
  qualifiedVersion : Option AgentVersion
  operation : FoundryEvaluationOperationIdentity

/-- A canary evaluates the version that was qualified. -/
def subjectVersion (inspection : FoundryRunInspection) (canary : Bool) :
    KernelProgram (Option AgentVersion) :=
  if canary then some <$> currentVersion inspection else pure none

def evaluationSubject (kernel : FoundryKernel) (inspection : FoundryRunInspection)
    (canary : Bool) (options : FoundryAdvanceRunStepOptions) :
    KernelProgram EvaluationSubject := do
  let blueprint ← currentBlueprint inspection
  let candidate ← currentCandidate kernel inspection
  check (assertMaterializedCandidate inspection.request inspection.run candidate)
  let baseline ← resolveBaseline inspection.request
  let qualifiedVersion ← subjectVersion inspection canary
  check (ensure (∀ version ∈ qualifiedVersion, bindsCandidate version candidate)
    "Canary AgentVersion does not bind the qualified materialized candidate.")
  let operation ← check (foundryEvaluationOperationIdentity inspection.run.runId
    inspection.run.generation (evaluationPhase canary) inspection.run.lastEventHash)
  check (ensure (∀ operationKey ∈ present options.operationKey, operationKey = operation.operationKey)
    "Foundry advance operation key does not match the current evaluation input.")
  return { blueprint, candidate, baseline, qualifiedVersion, operation }

def EvaluationSubject.evidenceContext (kernel : FoundryKernel) (inspection : FoundryRunInspection)
    (subject : EvaluationSubject) : EvidenceContext where
  request := inspection.request
  run := inspection.run
  blueprint := subject.blueprint
  candidate := subject.candidate
  baseline := subject.baseline
  designerProducerId := kernel.designerProducerId
  evaluatorId := kernel.evaluatorId

structure JournaledEvidence where
  result : FoundryOperationResult
  evidence : EvidenceBundle

/-- The evidence of a journaled result, checked again. -/
def replayedEvidence (kernel : FoundryKernel) (inspection : FoundryRunInspection)
    (subject : EvaluationSubject) (result : FoundryOperationResult) :
    KernelProgram JournaledEvidence := do
  let stored ← object asEvidence result.evidenceDigest "journaled EvidenceBundle"
  let evidence ← check (validateEvidenceBundle kernel.platform stored)
  let digest ← check (foundryContentDigest kernel.platform evidence.toJson)
  check (ensure (digest = result.evidenceDigest)
    "Journaled EvidenceBundle bytes do not match the operation result digest.")
  let _ ← check (assertEvaluationEvidence kernel.platform
    (subject.evidenceContext kernel inspection) evidence)
  return { result, evidence }

def evaluateInput (inspection : FoundryRunInspection) (subject : EvaluationSubject) :
    EvaluateInput where
  operationIdentity := subject.operation
  runId := inspection.run.runId
  request := inspection.request
  blueprint := subject.blueprint
  blueprintDigest := inspection.run.blueprintDigest.getD ""
  candidate := subject.candidate
  version := subject.qualifiedVersion
  baselineVersion := subject.baseline

/-- New evidence from the evaluator, stored and journaled. -/
def freshEvidence (kernel : FoundryKernel) (inspection : FoundryRunInspection)
    (subject : EvaluationSubject) (canary : Bool) : KernelProgram JournaledEvidence := do
  let evaluated ← activity kernel (evaluationPhase canary).text
    (ask (.evaluate (evaluationPhase canary) (evaluateInput inspection subject)))
  let evidence ← check (validateEvidenceBundle kernel.platform evaluated)
  let _ ← check (assertEvaluationEvidence kernel.platform
    (subject.evidenceContext kernel inspection) evidence)
  let stored ← ask (.putObject (.evidence evidence))
  let digest ← check (foundryContentDigest kernel.platform evidence.toJson)
  check (ensure (stored.digest = digest)
    "Foundry object store changed the validated EvidenceBundle bytes.")
  let result ← ask (.commitResult {
    identity := subject.operation
    evidenceDigest := stored.digest
    evidenceRef := stored.ref
    completedAt := evidence.provenance.evaluatedAt })
  return { result, evidence }

/-- The fields that every event after an evaluation records. -/
def evidencePayload (result : FoundryOperationResult) (evidence : EvidenceBundle) : JsonRecord := [
  ("evidence_digest", .string result.evidenceDigest),
  ("frozen_test_plan_digest", .string evidence.frozenTestPlanDigest),
  ("gate_score", .number evidence.gateScore)]

def canaryPassed (run : FoundryRunSnapshot) (journaled : JournaledEvidence) : TransitionInput where
  eventType := "canary_passed"
  toState :=
    if (ownerGatePolicyOf run.riskTier).activeOwnerRequired then .awaitingOwnerActive
    else .activating
  phase := "canary"
  inputDigest := journaled.result.evidenceDigest
  payload := evidencePayload journaled.result journaled.evidence

def candidateQualified (journaled : JournaledEvidence) (version : AgentVersion) :
    TransitionInput where
  eventType := "candidate_qualified"
  toState := .qualified
  phase := "evaluate"
  inputDigest := journaled.result.evidenceDigest
  payload := evidencePayload journaled.result journaled.evidence ++
    [("version_digest", .string version.versionDigest)]

/-- The generations without improvement after evidence that did not qualify. -/
def noImprovementAfter (run : FoundryRunSnapshot) (evidence : EvidenceBundle) : Nat :=
  match run.gateScore with
  | none => 0
  | some score => if score < evidence.gateScore then 0 else run.noImprovementGenerations + 1

def budgetExhausted (inspection : FoundryRunInspection) (evidence : EvidenceBundle) : Bool :=
  decide (inspection.request.deliveryPolicy.maxGenerations ≤ inspection.run.generation ∨
    2 ≤ noImprovementAfter inspection.run evidence)

def evaluationRejected (inspection : FoundryRunInspection) (canary : Bool)
    (journaled : JournaledEvidence) : TransitionInput where
  eventType :=
    if budgetExhausted inspection journaled.evidence then "evolution_budget_exhausted"
    else if canary then "canary_regression_rolled_back" else "evaluation_failed"
  toState :=
    if budgetExhausted inspection journaled.evidence then .completedUnqualified
    else .evidenceReady
  phase := (evaluationPhase canary).text
  inputDigest := journaled.result.evidenceDigest
  payload := evidencePayload journaled.result journaled.evidence ++
    [("no_improvement_generations",
      .ofNat (noImprovementAfter inspection.run journaled.evidence))] ++
    (if canary then
      [("rollback_to_version_digest",
          .ofOptionalString inspection.activation.activeVersionDigest),
        ("activation_revision_preserved", .ofNat inspection.activation.revision)]
    else [])

def registerInput (inspection : FoundryRunInspection) (subject : EvaluationSubject)
    (result : FoundryOperationResult) : RegisterInput where
  targetAgentId := inspection.request.targetAgentId
  targetDomainId := inspection.request.targetDomainId
  blueprintDigest := inspection.run.blueprintDigest.getD ""
  candidate := subject.candidate
  evidenceDigest := result.evidenceDigest
  riskTier := inspection.run.riskTier.getD .low
  qualifiedAt := result.completedAt

/-- Registration after a durable result: an unknown completion may be retried. -/
def registerVersion (kernel : FoundryKernel) (inspection : FoundryRunInspection)
    (subject : EvaluationSubject) (result : FoundryOperationResult) :
    KernelProgram RegisteredVersion :=
  activity kernel "register_version"
    ((ask (.registerVersion (registerInput inspection subject result))).tryCatch fun failure =>
      if failure.isContract || failure.isTransient then throwFailure failure
      else throwFailure (.transientActivity
        "Version registration completion is unknown after the durable evaluation result commit."))

/-- The evidence of an evaluation: the journaled one where there is one. -/
def evaluationEvidence (kernel : FoundryKernel) (inspection : FoundryRunInspection)
    (subject : EvaluationSubject) (canary : Bool) (options : FoundryAdvanceRunStepOptions) :
    KernelProgram JournaledEvidence := do
  match ← ask (.readResult subject.operation) with
  | some result => replayedEvidence kernel inspection subject result
  | none =>
    if options.replayOnly then
      throwFailure (.operationResultUnavailable subject.operation.operationKey)
    else freshEvidence kernel inspection subject canary

/-- The event that an evaluation leads to. -/
def settleEvaluation (kernel : FoundryKernel) (inspection : FoundryRunInspection)
    (subject : EvaluationSubject) (canary : Bool) (journaled : JournaledEvidence) :
    KernelProgram FoundryRunEvent :=
  let settle := appendJournaledResult kernel inspection journaled.result
  if journaled.evidence.qualified = true then
    if canary then settle (canaryPassed inspection.run journaled)
    else do
      let registered ← registerVersion kernel inspection subject journaled.result
      check (assertRegisteredCandidate kernel.platform inspection.request inspection.run
        subject.candidate registered)
      settle (candidateQualified journaled registered.version)
  else settle (evaluationRejected inspection canary journaled)

def evaluate (kernel : FoundryKernel) (inspection : FoundryRunInspection) (canary : Bool)
    (options : FoundryAdvanceRunStepOptions) : KernelProgram FoundryRunEvent := do
  let subject ← evaluationSubject kernel inspection canary options
  let journaled ← evaluationEvidence kernel inspection subject canary options
  settleEvaluation kernel inspection subject canary journaled

/-- `declaredNewTests` describes exactly the public cases that were added. -/
def declaresAddedCases (previous : AgentBlueprint) (proposal : EvolutionProposal) : Prop :=
  let added := proposal.nextBlueprint.evalSpec.publicCases.filter fun entry =>
    entry.caseId ∉ previous.evalSpec.publicCases.map PublicCase.caseId
  (proposal.newTests.map NewTest.caseId).dedup.length = added.length ∧
    ∀ entry ∈ added,
      (lookupNamed NewTest.caseId proposal.newTests.reverse entry.caseId).map NewTest.testRef =
        some entry.testRef

instance (previous : AgentBlueprint) (proposal : EvolutionProposal) :
    Decidable (declaresAddedCases previous proposal) := inferInstanceAs (Decidable (_ ∧ _))

/-- What the kernel checks of a proposal before it stores it. -/
def assertProposal (inspection : FoundryRunInspection) (blueprint : AgentBlueprint)
    (proposal : EvolutionProposal) : Checked Unit := do
  assertSameTarget inspection.request.target proposal.target "EvolutionProposal"
  assertSameTarget inspection.request.target proposal.nextBlueprint.target
    "EvolutionProposal.next_blueprint"
  ensure (some proposal.blueprintDigest = inspection.run.blueprintDigest ∧
      some proposal.evidenceDigest = inspection.run.evidenceDigest ∧
      proposal.nextBlueprint.designRequestDigest = inspection.run.requestDigest)
    "EvolutionProposal is stale."
  assertBlueprintSatisfiesDesignRequest inspection.request proposal.nextBlueprint
  assertEvaluationPolicyNonWeakening blueprint proposal.nextBlueprint
  ensure (declaresAddedCases blueprint proposal)
    "EvolutionProposal.new_tests must exactly describe newly admitted public evaluation cases."

def evolutionNoChange (run : FoundryRunSnapshot) (proposalDigest : String) : TransitionInput where
  eventType := "evolution_no_change"
  toState := .completedUnqualified
  phase := "evolve_no_change"
  inputDigest := proposalDigest
  payload := [
    ("proposal_digest", .string proposalDigest),
    ("no_improvement_generations", .ofNat (run.noImprovementGenerations + 1))]

def proposalAdmitted (run : FoundryRunSnapshot) (blueprint : AgentBlueprint)
    (proposal : EvolutionProposal) (proposalDigest nextDigest : String) : TransitionInput :=
  let risk := recomputeBlueprintRisk (some blueprint) proposal.nextBlueprint
  let admittedRisk := maximumRiskTier [risk.riskTier, maximumRiskTier proposal.riskHints]
  { eventType := "evolution_proposal_admitted"
    toState := .materializing
    phase := "evolve"
    inputDigest := proposalDigest
    payload := [
      ("previous_blueprint_digest", .ofOptionalString run.blueprintDigest),
      ("blueprint_digest", .string nextDigest),
      ("proposal_digest", .string proposalDigest),
      ("candidate_digest", .null),
      ("candidate_record_digest", .null),
      ("evidence_digest", .null),
      ("frozen_test_plan_digest", .null),
      ("version_digest", .null),
      ("generation", .ofNat (run.generation + 1)),
      ("risk_tier", .string (accumulatedRisk run.riskTier admittedRisk).text),
      ("risk_reasons", .ofStrings (
        if admittedRisk = risk.riskTier then risk.reasons
        else risk.reasons ++ ["evolution_proposal_risk_hint_elevated"]))] }

/-- `diagnose`, as the designer is asked for it. -/
def askDiagnosis (kernel : FoundryKernel) (inspection : FoundryRunInspection)
    (blueprint : AgentBlueprint) (evidence : EvidenceBundle) : KernelProgram EvolutionProposal := do
  let inputDigest ← check (foundryContentDigest kernel.platform (.object [
    ("blueprint_digest", .ofOptionalString inspection.run.blueprintDigest),
    ("evidence_digest", .ofOptionalString inspection.run.evidenceDigest)]))
  ask (.diagnose {
    request := inspection.request
    blueprint, evidence
    activity := {
      runId := inspection.run.runId
      iteration := inspection.run.generation
      phase := .diagnose
      inputDigest } })

def diagnose (kernel : FoundryKernel) (inspection : FoundryRunInspection) :
    KernelProgram FoundryRunEvent := do
  let blueprint ← currentBlueprint inspection
  let evidence ← object asEvidence (inspection.run.evidenceDigest.getD "") "EvidenceBundle"
  let proposed ← activity kernel "diagnose" (askDiagnosis kernel inspection blueprint evidence)
  let proposal ← check (validateEvolutionProposal proposed)
  check (assertProposal inspection blueprint proposal)
  let storedProposal ← ask (.putObject (.proposal proposal))
  let nextBlueprintDigest ← check (foundryContentDigest kernel.platform
    proposal.nextBlueprint.toJson)
  if some nextBlueprintDigest = inspection.run.blueprintDigest then
    check (ensure (proposal.nextBlueprint.generation = inspection.run.generation ∧
        proposal.semanticDiff = [] ∧ proposal.newTests = [])
      "A no-change EvolutionProposal must preserve the exact blueprint and declare no semantic or test changes.")
    append kernel inspection (evolutionNoChange inspection.run storedProposal.digest)
  else
    check (ensure (proposal.nextBlueprint.generation = inspection.run.generation + 1)
      "A changed EvolutionProposal must increment generation exactly once.")
    check (ensure (proposal.semanticDiff ≠ [])
      "A changed EvolutionProposal must declare a non-empty semantic diff.")
    let storedBlueprint ← ask (.putObject (.blueprint proposal.nextBlueprint))
    append kernel inspection
      (proposalAdmitted inspection.run blueprint proposal storedProposal.digest
        storedBlueprint.digest)

def qualificationRouted (inspection : FoundryRunInspection) : TransitionInput :=
  match inspection.request.deliveryPolicy.activationMode with
  | .qualifyOnly =>
    { eventType := "qualification_completed"
      toState := .completedQualified
      phase := "qualify"
      inputDigest := inspection.run.versionDigest.getD "" }
  | .activate =>
    if (ownerGatePolicyOf inspection.run.riskTier).canaryOwnerRequired then
      { eventType := "owner_canary_required"
        toState := .awaitingOwnerCanary
        phase := "qualification_route"
        inputDigest := inspection.run.versionDigest.getD "" }
    else
      { eventType := "canary_started"
        toState := .canary
        phase := "qualification_route"
        inputDigest := inspection.run.versionDigest.getD "" }

def afterQualification (kernel : FoundryKernel) (inspection : FoundryRunInspection) :
    KernelProgram FoundryRunEvent :=
  append kernel inspection (qualificationRouted inspection)

structure ActivationResult where
  transaction : ActivationTransaction
  runtimePreflight : ActivationRuntimePreflight

/-- `commitFoundryActivation`. `madeBy` is the run that activates, if one does. -/
def commitFoundryActivation (kernel : FoundryKernel) (kind : ActivationTransactionKind)
    (version : AgentVersion) (expectedActivationRevision : Nat)
    (authorityReceiptRef : Option String) (madeBy : Option String) :
    KernelProgram ActivationResult := do
  check (ensure (kind = .rollback → present authorityReceiptRef ≠ none)
    "Rollback activation transaction requires an Owner authority receipt.")
  let preflight ← activity kernel s!"{kind.text}_runtime_preflight" (ask (.preflightActivation {
    transactionKind := kind, version, expectedActivationRevision }))
  check (assertActivationPreflight preflight kind version expectedActivationRevision)
  let occurredAt ← ask .now
  let input : ActivationInput := {
    transactionKind := kind
    targetAgentId := version.targetAgentId
    targetDomainId := version.targetDomainId
    expectedRevision := expectedActivationRevision
    versionDigest := version.versionDigest
    occurredAt
    authorityReceiptRef
    runtimeBindingVerification := buildRuntimeBindingVerification preflight }
  let transaction ← activity kernel kind.text (ask (.swapActivation input madeBy))
  check (assertActivationTransaction kernel.platform transaction input)
  return { transaction, runtimePreflight := preflight }

def activationCompleted (run : FoundryRunSnapshot) (result : ActivationResult)
    (authority : Option OwnerAuthority) : TransitionInput where
  eventType := "activation_completed"
  toState := .completedActive
  phase := "activate"
  inputDigest := run.versionDigest.getD ""
  payload := [
    ("activation_transaction_id", .string result.transaction.transactionId),
    ("activation_runtime_preflight_ref", .string result.runtimePreflight.preflightRef),
    ("activation_runtime_binding_ref",
      .string result.transaction.runtimeBindingVerification.runtimeBindingRef),
    ("activation_runtime_binding_verification",
      result.transaction.runtimeBindingVerification.toJson)] ++
    match authority with
    | none => []
    | some granted =>
      [("owner_authority_receipt_ref", .string granted.ref),
        ("owner_authority_receipt_digest", .string granted.digest)]

def activate (kernel : FoundryKernel) (inspection : FoundryRunInspection) :
    KernelProgram FoundryRunEvent := do
  let events ← ask (.readEvents inspection.run.runId)
  let authority ← check (latestOwnerAuthority events)
  check (ensure ((ownerGatePolicyOf inspection.run.riskTier).activeOwnerRequired = true →
      authority ≠ none)
    "Owner-gated activation has no verified active approval receipt.")
  match ← ask (.resolveVersion inspection.run.versionDigest inspection.request.targetAgentId
      inspection.request.targetDomainId) with
  | none => reject "Activation target AgentVersion does not exist."
  | some version =>
    let result ← commitFoundryActivation kernel .activate version
      inspection.run.activationRevisionAtStart (authority.map OwnerAuthority.ref)
      (some inspection.run.runId)
    append kernel inspection (activationCompleted inspection.run result authority)

def advanceOne (kernel : FoundryKernel) (inspection : FoundryRunInspection)
    (options : FoundryAdvanceRunStepOptions) : KernelProgram FoundryRunEvent :=
  match inspection.run.state with
  | .accepted =>
    append kernel inspection {
      eventType := "design_started"
      toState := .designing
      phase := "design"
      inputDigest := inspection.run.requestDigest }
  | .designing => design kernel inspection
  | .materializing => materialize kernel inspection
  | .evaluating => evaluate kernel inspection false options
  | .evidenceReady =>
    append kernel inspection {
      eventType := "diagnosis_started"
      toState := .diagnosing
      phase := "diagnose"
      inputDigest := inspection.run.evidenceDigest.getD inspection.run.lastEventHash }
  | .diagnosing => diagnose kernel inspection
  | .qualified => afterQualification kernel inspection
  | .canary => evaluate kernel inspection true options
  | .activating => activate kernel inspection
  | _ => reject "FoundryRun state cannot be advanced automatically."

/-! ## Failures -/

/-- `opl_foundry_failure_identity`. -/
def failureIdentity (request : DesignRequest) (run : FoundryRunSnapshot) (errorKind : String) :
    Json :=
  .object [
    ("surface_kind", .string "opl_foundry_failure_identity"),
    ("target_agent_id", .string request.targetAgentId),
    ("target_domain_id", .string request.targetDomainId),
    ("target_version_ref", .ofOptionalString request.targetVersionRef),
    ("error_kind", .string errorKind),
    ("state", .string run.state.text)]

def failurePayload (failureCode failureMessage : String) : JsonRecord := [
  ("failure_code", .string failureCode),
  ("failure_message", .string failureMessage)]

def quarantinedTransition (inputDigest : String) (failure : Failure) : TransitionInput where
  eventType := "foundry_output_quarantined"
  toState := .quarantined
  phase := "quarantine"
  inputDigest := inputDigest
  payload := failurePayload failure.code failure.message

def failedTransition (inputDigest failureCode failureMessage : String) : TransitionInput where
  eventType := "foundry_run_failed"
  toState := .failed
  phase := "failure"
  inputDigest := inputDigest
  payload := failurePayload failureCode failureMessage

def terminateAfterFailure (kernel : FoundryKernel) (inspection : FoundryRunInspection)
    (failure : Failure) : KernelProgram Unit := do
  let latest ← inspectRun kernel inspection.run.runId
  if latest.run.state.terminal then return ()
  let inputDigest ← check (foundryContentDigest kernel.platform
    (failureIdentity latest.request latest.run (if failure.isContract then "contract" else "runtime")))
  let _ ← append kernel latest (
    if failure.isContract then quarantinedTransition inputDigest failure
    else failedTransition inputDigest failure.code failure.message)
  return ()

/-! ## Operations -/

structure StartRunInput where
  request : DesignRequest
  runId : Option String

/-- `assertBaselineAdoptionAdmitted`. -/
def assertBaselineAdoptionAdmitted (receipt : BaselineAdoptionPreflightReceipt) : Checked Unit :=
  let failureCode := receipt.failureCode.getD "unknown_failure"
  ensure (receipt.admitted = true)
    s!"Foundry baseline adoption preflight blocked: {failureCode}."

def preflightBaselineAdoption (request : DesignRequest) (runId : String) :
    KernelProgram BaselineAdoptionPreflightReceipt := do
  let receipt ← ask (.preflightBaselineAdoption request runId)
  check (assertBaselineAdoptionAdmitted receipt)
  return receipt

/-- The preflight of a run that adopts a baseline. -/
def optionalPreflight (request : DesignRequest) (runId : String) (requireBaselineAdoption : Bool) :
    KernelProgram (Option BaselineAdoptionPreflightReceipt) :=
  if requireBaselineAdoption || request.baselineAdoption.isSome then
    some <$> preflightBaselineAdoption request runId
  else pure none

/-- The request of a run, or the failure of its validation. -/
def validatedRequest (input : StartRunInput) (requireBaselineAdoption : Bool) (runId : String) :
    KernelProgram DesignRequest :=
  (check (validateDesignRequest input.request)).tryCatch fun failure => do
    let _ ← optionalPreflight input.request runId requireBaselineAdoption
    throwFailure failure

/-- The target must be as the mode of the request expects it. -/
def assertStartingVersion (request : DesignRequest) (baseline : Option AgentVersion)
    (activation : ActivationPointer) : Checked Unit := do
  ensure (request.mode = .create → baseline = none)
    "Create mode must not bind a baseline version."
  ensure (request.mode = .create → activation.activeVersionDigest = none)
    "Create mode requires a target with no active AgentVersion."
  ensure (request.mode ≠ .create → baseline ≠ none)
    "Takeover and improve modes require an existing exact target version."
  ensure (request.mode ≠ .create →
      activation.activeVersionDigest = baseline.map AgentVersion.versionDigest)
    "Takeover and improve modes must bind the exact active AgentVersion."

/-- A preflight that saw another activation revision is repeated once. -/
def confirmPreflight (request : DesignRequest) (runId : String) (activation : ActivationPointer) :
    Option BaselineAdoptionPreflightReceipt → KernelProgram Unit
  | none => pure ()
  | some receipt => do
    if receipt.activationRevision ≠ some activation.revision then
      let repeated ← preflightBaselineAdoption request runId
      check (ensure (repeated.activationRevision = some activation.revision)
        "Baseline adoption currentness changed during FoundryRun admission.")

def acceptanceInput (runId : String) (request : DesignRequest) (requestDigest : String)
    (activation : ActivationPointer) (occurredAt : String) : FoundryEventInput where
  runId := runId
  revision := 1
  eventType := "foundry_run_accepted"
  fromState := none
  toState := .accepted
  occurredAt := occurredAt
  idempotencyKey := s!"{runId}/0/accepted/{requestDigest}"
  previousEventHash := none
  payload := [
    ("target_agent_id", .string request.targetAgentId),
    ("target_domain_id", .string request.targetDomainId),
    ("request_digest", .string requestDigest),
    ("activation_revision_at_start", .ofNat activation.revision),
    ("generation", .ofNat 0)]

/-- The part of `#startRun` for a run that does not exist yet. -/
def admitRun (kernel : FoundryKernel) (request : DesignRequest) (requestDigest runId : String)
    (requireBaselineAdoption : Bool) : KernelProgram FoundryRunSnapshot := do
  let preflight ← optionalPreflight request runId requireBaselineAdoption
  let baseline ← resolveBaseline request
  let activation ← ask (.readActivation request.targetAgentId request.targetDomainId)
  check (assertStartingVersion request baseline activation)
  confirmPreflight request runId activation preflight
  let stored ← ask (.putObject (.request request))
  check (ensure (stored.digest = requestDigest)
    "Foundry object store changed DesignRequest bytes.")
  let occurredAt ← ask .now
  let event ← check (buildFoundryEvent kernel.platform
    (acceptanceInput runId request requestDigest activation occurredAt))
  ask (.createEvents {
    targetKey := targetKey request.targetAgentId request.targetDomainId, event })
  check (snapshotFromEvents kernel.platform [event])

/-- `input.run_id?.trim() || this.#createRunId()`. -/
def startRunId (input : StartRunInput) : KernelProgram String :=
  match present (input.runId.map trim) with
  | some runId => pure runId
  | none => ask .createRunId

/-- `#startRun`; `startRun` does not require baseline adoption and
`startBaselineAdoptionRun` does. -/
def startRun (kernel : FoundryKernel) (input : StartRunInput) (requireBaselineAdoption : Bool) :
    KernelProgram FoundryRunSnapshot := do
  let runId ← startRunId input
  check (ensure (runId ≠ "") "FoundryRun id must not be empty.")
  let request ← validatedRequest input requireBaselineAdoption runId
  let requestDigest ← check (foundryContentDigest kernel.platform request.toJson)
  let existingEvents ← ask (.readEvents runId)
  if existingEvents ≠ [] then
    let existing ← check (snapshotFromEvents kernel.platform existingEvents)
    check (ensure (existing.requestDigest = requestDigest)
      "FoundryRun id is already bound to a different DesignRequest.")
    return existing
  else admitRun kernel request requestDigest runId requireBaselineAdoption

/-- The states in which `advanceRunStep` does nothing. -/
def pauses (state : FoundryRunState) : Bool := state.terminal || state.awaitsOwner

def advanceRunStep (kernel : FoundryKernel) (runId : String)
    (options : FoundryAdvanceRunStepOptions) : KernelProgram FoundryRunInspection := do
  let inspection ← inspectRun kernel runId
  if pauses inspection.run.state then return inspection
  ((fun _ => ()) <$> advanceOne kernel inspection options).tryCatch fun failure =>
    match failure with
    | .operationResultUnavailable _ => throwFailure failure
    | _ =>
      if kernel.propagateTransientActivityFailures && failure.isTransient then throwFailure failure
      else terminateAfterFailure kernel inspection failure
  inspectRun kernel runId

/-- The loop of `advanceUntilPause` with the transitions that remain. -/
def advanceTransitions (kernel : FoundryKernel) (runId : String) :
    Nat → KernelProgram FoundryRunInspection
  | 0 => reject "FoundryRun exceeded the bounded transition loop."
  | remaining + 1 => do
    let inspection ← inspectRun kernel runId
    if pauses inspection.run.state then return inspection
    let _ ← advanceRunStep kernel runId {}
    advanceTransitions kernel runId remaining

def advanceUntilPause (kernel : FoundryKernel) (runId : String) :
    KernelProgram FoundryRunInspection := advanceTransitions kernel runId 64

/-- `#verifyOwnerAuthority`. -/
def verifyOwnerAuthority (kernel : FoundryKernel) (value : OwnerGateVerificationContext) :
    KernelProgram OwnerGateVerification := do
  let context ← check (validateOwnerGateVerificationContext value)
  let verification ← ask (.verifyOwner context)
  check (validateOwnerGateVerification kernel.platform context verification)

def ownerVerificationPayload (verification : OwnerGateVerification) : JsonRecord := [
  ("owner_authority_receipt_ref", .string verification.receipt.receiptRef),
  ("owner_authority_receipt_digest", .string verification.receipt.receiptDigest),
  ("owner_authority_ref", .string verification.coveredAuthorityRef),
  ("owner_authority_verifier_id", .string verification.verifierId),
  ("owner_authority_verification_ref", .string verification.verificationRef),
  ("owner_authority_policy_ref", .string verification.authorityPolicyRef),
  ("owner_gate_action", .string verification.receipt.action.text),
  ("owner_gate_decision", .string verification.receipt.decision.text)]

/-- The decisions that an owner may submit. -/
inductive OwnerVerdict where
  | approve
  | reject
  deriving DecidableEq

def OwnerVerdict.text : OwnerVerdict → String
  | .approve => "approve"
  | .reject => "reject"

def OwnerVerdict.decision : OwnerVerdict → OwnerGateDecision
  | .approve => .approve
  | .reject => .reject

def OwnerVerdict.eventType : OwnerVerdict → String
  | .approve => "owner_approved"
  | .reject => "owner_rejected"

/-- `#ownerDecisionAction`. -/
def ownerDecisionAction (canary : Bool) : OwnerVerdict → OwnerGateAction
  | .approve => if canary then .approveCanary else .approveActive
  | .reject => if canary then .rejectCanary else .rejectActive

structure OwnerDecision where
  runId : String
  expectedRevision : Nat
  decision : OwnerVerdict
  authorityReceiptRef : String

/-- An event that already records the decision at the revision. -/
def recordsDecision (expected : Nat) (eventType authorityRef : String) (event : FoundryRunEvent) :
    Bool :=
  event.revision == expected + 1 && event.eventType == eventType &&
    textField? event.payload "owner_authority_receipt_ref" == some authorityRef &&
    (textField? event.payload "owner_authority_receipt_digest").isSome

def ownerDecided (canary : Bool) (decision : OwnerVerdict)
    (verification : OwnerGateVerification) : TransitionInput where
  eventType := decision.eventType
  toState :=
    match decision with
    | .reject => .rejected
    | .approve => if canary then .canary else .activating
  phase := s!"owner_{decision.text}"
  inputDigest := verification.receipt.receiptDigest
  payload := ownerVerificationPayload verification

/-- The part of `submitOwnerDecision` at the expected revision. -/
def decideAtRevision (kernel : FoundryKernel) (input : OwnerDecision) (authorityRef : String)
    (inspection : FoundryRunInspection) : KernelProgram FoundryRunEvent := do
  check (ensure (inspection.run.state.awaitsOwner = true)
    "FoundryRun is not waiting for an Owner decision.")
  let _ ← currentBlueprint inspection
  let version ← currentVersion inspection
  check (ensure (some version.blueprintDigest = inspection.run.blueprintDigest)
    "Owner decision AgentVersion does not bind the current AgentBlueprint.")
  let canary := inspection.run.state = .awaitingOwnerCanary
  let verification ← verifyOwnerAuthority kernel {
    authorityReceiptRef := authorityRef
    action := ownerDecisionAction canary input.decision
    decision := input.decision.decision
    targetAgentId := inspection.request.targetAgentId
    targetDomainId := inspection.request.targetDomainId
    runId := some inspection.run.runId
    versionDigest := some version.versionDigest
    expectedRevision := input.expectedRevision }
  append kernel inspection (ownerDecided canary input.decision verification)

/-- The decision on record: made now, or found where the run has moved on. -/
def recordOwnerDecision (kernel : FoundryKernel) (input : OwnerDecision) : KernelProgram Unit := do
  let expected ← check (expectedRevision input.expectedRevision "expected_revision")
  let authorityRef ← check (requiredText input.authorityReceiptRef "authority_receipt_ref")
  let inspection ← inspectRun kernel input.runId
  if inspection.run.revision = expected then
    (fun _ => ()) <$> decideAtRevision kernel input authorityRef inspection
  else
    let events ← ask (.readEvents input.runId)
    check (ensure (events.any (recordsDecision expected input.decision.eventType authorityRef) = true)
      "FoundryRun owner decision revision compare-and-swap failed.")

def submitOwnerDecision (kernel : FoundryKernel) (input : OwnerDecision) (advance : Bool) :
    KernelProgram FoundryRunInspection := do
  recordOwnerDecision kernel input
  if input.decision = .approve ∧ advance = true then advanceUntilPause kernel input.runId
  else inspectRun kernel input.runId

structure CancelRunInput where
  runId : String
  expectedRevision : Nat
  authorityReceiptRef : String

def runCancelled (verification : OwnerGateVerification) : TransitionInput where
  eventType := "foundry_run_cancelled"
  toState := .cancelled
  phase := "cancel"
  inputDigest := verification.receipt.receiptDigest
  payload := ownerVerificationPayload verification

/-- The part of `cancelRun` at the expected revision. -/
def cancelAtRevision (kernel : FoundryKernel) (input : CancelRunInput) (authorityRef : String)
    (inspection : FoundryRunInspection) : KernelProgram FoundryRunEvent := do
  check (ensure (inspection.run.state.terminal = false)
    "A terminal FoundryRun cannot be cancelled.")
  let verification ← verifyOwnerAuthority kernel {
    authorityReceiptRef := authorityRef
    action := .cancel
    decision := .cancel
    targetAgentId := inspection.request.targetAgentId
    targetDomainId := inspection.request.targetDomainId
    runId := some inspection.run.runId
    versionDigest := inspection.run.versionDigest
    expectedRevision := input.expectedRevision }
  append kernel inspection (runCancelled verification)

/-- The cancellation on record: made now, or found where the run has moved on. -/
def recordCancellation (kernel : FoundryKernel) (input : CancelRunInput) : KernelProgram Unit := do
  let expected ← check (expectedRevision input.expectedRevision "expected_revision")
  let authorityRef ← check (requiredText input.authorityReceiptRef "authority_receipt_ref")
  let inspection ← inspectRun kernel input.runId
  if inspection.run.revision = expected then
    (fun _ => ()) <$> cancelAtRevision kernel input authorityRef inspection
  else
    let events ← ask (.readEvents input.runId)
    check (ensure (events.any (recordsDecision expected "foundry_run_cancelled" authorityRef) = true)
      "FoundryRun cancellation revision compare-and-swap failed.")

def cancelRun (kernel : FoundryKernel) (input : CancelRunInput) :
    KernelProgram FoundryRunInspection := do
  recordCancellation kernel input
  inspectRun kernel input.runId

structure FailRunInput where
  runId : String
  failureCode : String
  failureMessage : String

def failRun (kernel : FoundryKernel) (input : FailRunInput) :
    KernelProgram FoundryRunInspection := do
  let inspection ← inspectRun kernel input.runId
  if inspection.run.state.terminal then return inspection
  let inputDigest ← check (foundryContentDigest kernel.platform
    (failureIdentity inspection.request inspection.run "runtime"))
  let failureCode ← check (requiredText input.failureCode "failure_code")
  let failureMessage ← check (requiredText input.failureMessage "failure_message")
  let _ ← append kernel inspection (failedTransition inputDigest failureCode failureMessage)
  inspectRun kernel input.runId

structure RollbackActivationInput where
  targetAgentId : String
  targetDomainId : String
  versionDigest : String
  expectedRevision : Nat
  authorityReceiptRef : String

/-- The blueprint and the request behind a version, checked for a rollback. -/
def assertRollbackVersion (kernel : FoundryKernel) (version : AgentVersion)
    (targetAgentId targetDomainId blueprintLabel requestLabel label mismatch : String) :
    KernelProgram Unit := do
  let stored ← object asBlueprint version.blueprintDigest blueprintLabel
  let blueprint ← check (validateAgentBlueprint stored)
  let digest ← check (foundryContentDigest kernel.platform blueprint.toJson)
  check (ensure (digest = version.blueprintDigest ∧ blueprint.targetAgentId = targetAgentId ∧
      blueprint.targetDomainId = targetDomainId) mismatch)
  let storedRequest ← object asRequest blueprint.designRequestDigest requestLabel
  let request ← check (validateDesignRequest storedRequest)
  check (assertSameTarget request.target blueprint.target label)
  check (assertBlueprintSatisfiesDesignRequest request blueprint)

def rollbackActivation (kernel : FoundryKernel) (input : RollbackActivationInput) :
    KernelProgram ActivationResult := do
  let targetAgentId ← check (requiredText input.targetAgentId "target_agent_id")
  let targetDomainId ← check (requiredText input.targetDomainId "target_domain_id")
  let versionDigest ← check (requiredDigest (some (.string input.versionDigest)) "version_digest")
  let expected ← check (expectedRevision input.expectedRevision "expected_revision")
  let authorityRef ← check (requiredText input.authorityReceiptRef "authority_receipt_ref")
  match ← ask (.resolveVersion (some versionDigest) targetAgentId targetDomainId) with
  | none => reject "Rollback target AgentVersion does not exist."
  | some version =>
    check (ensure (version.versionDigest = versionDigest ∧ version.targetAgentId = targetAgentId ∧
        version.targetDomainId = targetDomainId)
      "Rollback target AgentVersion identity is invalid.")
    assertRollbackVersion kernel version targetAgentId targetDomainId "rollback AgentBlueprint"
      "rollback DesignRequest" "Rollback AgentBlueprint"
      "Rollback AgentBlueprint does not bind the exact target AgentVersion."
    let activation ← ask (.readActivation targetAgentId targetDomainId)
    check (ensure (present activation.activeVersionDigest ≠ none)
      "Rollback requires an active target AgentVersion.")
    let history ← ask (.activationHistory targetAgentId targetDomainId)
    check (ensure (∃ entry ∈ history, entry.toVersionDigest = versionDigest)
      "Rollback target AgentVersion has never been active.")
    match ← ask (.resolveVersion activation.activeVersionDigest targetAgentId targetDomainId) with
    | none => reject "Active AgentVersion does not exist."
    | some activeVersion =>
      assertRollbackVersion kernel activeVersion targetAgentId targetDomainId
        "active rollback AgentBlueprint" "active rollback DesignRequest"
        "Active rollback AgentBlueprint"
        "Active rollback AgentBlueprint does not bind the exact active AgentVersion."
      let verification ← verifyOwnerAuthority kernel {
        authorityReceiptRef := authorityRef
        action := .rollback
        decision := .rollback
        targetAgentId, targetDomainId
        runId := none
        versionDigest := some versionDigest
        expectedRevision := expected }
      commitFoundryActivation kernel .rollback version expected
        (some verification.receipt.receiptRef) none

/-! ## What may run -/

/-- An operation of the kernel, its result forgotten. -/
inductive Operation (kernel : FoundryKernel) : KernelProgram Unit → Prop where
  | startRun (input : StartRunInput) (requireBaselineAdoption : Bool) :
    Operation kernel ((fun _ => ()) <$> Kernel.startRun kernel input requireBaselineAdoption)
  | advanceRunStep (runId : String) (options : FoundryAdvanceRunStepOptions) :
    Operation kernel ((fun _ => ()) <$> Kernel.advanceRunStep kernel runId options)
  | submitOwnerDecision (input : OwnerDecision) (advance : Bool) :
    Operation kernel ((fun _ => ()) <$> Kernel.submitOwnerDecision kernel input advance)
  | cancelRun (input : CancelRunInput) :
    Operation kernel ((fun _ => ()) <$> Kernel.cancelRun kernel input)
  | failRun (input : FailRunInput) :
    Operation kernel ((fun _ => ()) <$> Kernel.failRun kernel input)
  | rollbackActivation (input : RollbackActivationInput) :
    Operation kernel ((fun _ => ()) <$> Kernel.rollbackActivation kernel input)

end OnePersonLab.Evolution.Kernel

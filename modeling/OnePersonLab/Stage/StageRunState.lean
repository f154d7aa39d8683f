import OnePersonLab.Evolution.OperationResult
import OnePersonLab.Lib.Leads
import OnePersonLab.Stage.RouteSelection

/-!
# The state of a StageRun

A StageRun takes one stage through a producer, a review and rounds of repair
and re-review. Its controller keeps one state record; attempts, receipts and
launches are asked of activities and child workflows, which may fail at any
request.
-/

namespace OnePersonLab.Stage

open Contract Lib Evolution

/-! ## What a run is given -/

/-- The patches that are enabled in a workflow history. A new history has all. -/
structure StageRunPatches where
  runtimeHumanGateClassification : Bool
  earlyRepairRouteBack : Bool
  formalReviewDeclaredArtifactIdentity : Bool
  progressFirstHandoff : Bool
  reviewProtocolFailure : Bool
  identityFailureSync : Bool
  reviewerIdentityHardStop : Bool
  canonicalArtifactSha256 : Bool
  cancellationPropagation : Bool
  controllerAttemptContentBinding : Bool
  deriving DecidableEq

def StageRunPatches.all : StageRunPatches :=
  ⟨true, true, true, true, true, true, true, true, true, true⟩

structure StageReviewReceipt where
  producerAttemptRef : String
  reviewerAttemptRef : String
  reviewedArtifactRefs : List String
  reviewedArtifactHashes : List String
  rubricRefs : List String
  verdict : StageQualityReviewVerdict
  revisionTransport : Option Json
  deriving DecidableEq

structure AttemptSummary where
  attemptRole : StageQualityAttemptRole
  qualityRoundIndex : Nat
  stageAttemptId : String
  workflowId : String
  executionSessionRef : Option String
  artifactProducerAttemptRef : Option String
  status : StageAttemptStatus
  artifactIdentity : ArtifactIdentity
  totalTokensObserved : Option Nat
  deriving DecidableEq

structure RouteRecommendationRecord where
  attemptRef : String
  attemptRole : StageQualityAttemptRole
  qualityRoundIndex : Nat
  recommendation : StageRouteRecommendation
  deriving DecidableEq

inductive RecoveryRole where
  | producer
  | repairer
  | reviewer
  deriving DecidableEq, Repr

/-- Where a recovery takes up an earlier run. Its findings have been validated
by the closeout recovery that builds it. -/
structure RecoveryResume where
  recoveryId : String
  qualityCycleId : String
  resumeAfterRole : RecoveryRole
  reviewerAttemptRef : Option String
  artifactProducerAttemptRef : String
  artifactProducerAttemptSummary : AttemptSummary
  artifactIdentity : ArtifactIdentity
  priorAttemptSummaries : Option (List AttemptSummary)
  findings : List StageQualityFinding
  repairMap : List StageQualityRepairMapEntry
  reviewReceipts : List StageReviewReceipt
  repairRoundsUsed : Nat
  qualityDebtRefs : List String
  routeQualityDebtRefs : List String
  routeRecommendations : List RouteRecommendationRecord
  reviewInputSnapshotMaterializationRequest : Option Json
  normalized : ∀ finding ∈ findings, Normalized finding

structure FormalReviewPolicy where
  required : Bool
  maxRepairRounds : Json
  scopeBudget : Option Json
  deriving DecidableEq

structure StageRunInput where
  stageRunId : String
  domainId : String
  stageId : String
  scope : ExecutionScope
  qualityPolicyRef : String
  domainPackRoot : String
  stageManifestRef : String
  stageManifestSha256 : String
  rolePrompts : List String
  stageRole : Option String
  formalReview : FormalReviewPolicy
  qualityRubricRefs : List String
  declaredStageIds : List String
  artifactIdentity : ArtifactIdentity
  recoveryResume : Option RecoveryResume

/-! ## What the controller keeps -/

inductive StageRunStatus where
  | registered
  | running
  | completed
  | completedWithQualityDebt
  | blocked
  | humanGate
  | failed
  deriving DecidableEq, Repr

inductive RouteMaterialization where
  | workflowComplete
  | launched
  | existing
  | routeBudgetExhausted
  deriving DecidableEq, Repr

inductive ProjectionStatus where
  | pending
  | synced
  | failed (error : String)
  deriving DecidableEq

structure StageRunState where
  status : StageRunStatus
  currentRole : Option StageQualityAttemptRole
  repairRoundsUsed : Nat
  maxRepairRounds : Nat
  scopeBudgetUsage : StageQualityScopeBudgetUsage
  scopeBudgetStopReason : Option StageQualityScopeBudgetStopReason
  attempts : List AttemptSummary
  findings : List StageQualityFinding
  repairMap : List StageQualityRepairMapEntry
  findingClosures : List JsonRecord
  reviewReceipts : List StageReviewReceipt
  artifactIdentity : ArtifactIdentity
  qualityDebtRefs : List String
  routeQualityDebtRefs : List String
  decisiveAttemptRole : Option StageQualityAttemptRole
  decisiveAttemptRef : Option String
  selectedStageRoute : Option StageRouteDecision
  routeEvidenceRefs : List String
  routeRecommendations : List RouteRecommendationRecord
  nextStageRunLaunch : Option RouteMaterialization
  blockedReason : Option String
  hardStopClass : Option StageQualityHardStopClass
  typedBlockerRefs : List String
  humanGateRefs : List String
  sourceAttemptRef : Option String
  sqliteProjection : ProjectionStatus
  deriving DecidableEq

/-- The content that an attempt is bound to when it is materialized. -/
structure ExecutionContentBinding where
  bindingSha256 : String
  qualityPolicyBody : Option Json
  qualityRubricRefs : List String
  declaredStageIds : List String
  deriving DecidableEq

/-- The local variables of the workflow function that outlive an exception. -/
structure Controller where
  state : StageRunState
  observedSessions : List String
  decisiveExecutionContentBinding : Option ExecutionContentBinding
  deriving DecidableEq

namespace StageRunState

/-- `stageRunStopped`. -/
def stopped (state : StageRunState) : Bool :=
  match state.status with
  | .completedWithQualityDebt | .blocked | .humanGate | .failed => true
  | .registered | .running | .completed => false

def hasConsumableArtifact (state : StageRunState) : Bool :=
  state.artifactIdentity.artifactRefs ≠ [] ∧
    state.artifactIdentity.artifactRefs.length = state.artifactIdentity.artifactHashes.length

def hasProducedConsumableArtifact (state : StageRunState) : Bool :=
  state.attempts.any fun attempt =>
    !attempt.attemptRole.reviews && decide (attempt.artifactIdentity.artifactRefs ≠ []) &&
      attempt.artifactIdentity.artifactRefs.length == attempt.artifactIdentity.artifactHashes.length &&
      attempt.artifactIdentity.artifactRefs.length ==
        attempt.artifactIdentity.artifactIdentityReceiptRefs.length

/-- Each debt is listed once. -/
def withDebts (state : StageRunState) (refs : List String) : StageRunState :=
  { state with qualityDebtRefs := (state.qualityDebtRefs ++ refs).eraseDups }

def withRouteDebts (state : StageRunState) (refs : List String) : StageRunState :=
  { state with routeQualityDebtRefs := (state.routeQualityDebtRefs ++ refs).eraseDups }

/-- The terminal states that still carry an artifact. -/
def endsWith (state : StageRunState) (status : StageRunStatus) : StageRunState :=
  { state with status, currentRole := none }

/-- The latest attempt, as a ref. -/
def lastAttemptRef (state : StageRunState) : Option String :=
  (state.attempts.getLast?.filter fun attempt => attempt.stageAttemptId ≠ "").map fun attempt =>
    attemptRefOf attempt.stageAttemptId

end StageRunState

/-- `qualityFailureRef`. -/
def qualityFailureRef (stageRunId reason : String) : String :=
  s!"opl://stage-runs/{encodeURIComponent stageRunId}/quality-debt/{encodeURIComponent reason}"

def findingDebtRef (finding : StageQualityFinding) : String := s!"quality-debt:{finding.findingId}"

/-! ## What it asks for -/

/-- One attempt that is to be materialized. -/
structure AttemptRequest where
  role : StageQualityAttemptRole
  round : Nat
  parentAttemptRef : Option String
  artifactProducerAttemptRef : Option String
  artifactIdentity : ArtifactIdentity
  findings : List StageQualityFinding
  repairMap : List StageQualityRepairMapEntry
  routeRecommendations : List RouteRecommendationRecord
  reviewInputSnapshotMaterializationRequest : Option Json
  revisionIntakeRefs : List JsonRecord
  oplStageReviewReceiptRef : Option JsonRecord
  deriving DecidableEq

/-- The input of the child workflow. -/
structure StageAttemptInput where
  stageAttemptId : String
  workflowId : String
  domainId : String
  stageId : String
  scope : ExecutionScope
  executionContentBinding : Option ExecutionContentBinding
  attemptRole : StageQualityAttemptRole
  qualityRoundIndex : Nat
  findings : List StageQualityFinding
  repairMap : List StageQualityRepairMapEntry
  contextManifest : JsonRecord
  deriving DecidableEq

/-- The attempt as the route authority reads it. -/
def StageAttemptInput.toRecord (input : StageAttemptInput) : JsonRecord := [
  ("stage_id", .string input.stageId),
  ("attempt_role", .string input.attemptRole.text),
  ("quality_round_index", .ofNat input.qualityRoundIndex),
  ("quality_context", .object [
    ("findings", .array (input.findings.map fun finding => .object finding.toRecord)),
    ("repair_map", .array (input.repairMap.map fun entry => .object entry.toRecord)),
    ("context_manifest", .object input.contextManifest)])]

structure MaterializedAttempt where
  attemptRef : String
  workflowInput : StageAttemptInput
  deriving DecidableEq

structure ReviewReceiptRequest where
  producerAttemptRef : String
  reviewerAttemptRef : String
  rubricRefs : List String
  verdict : StageQualityReviewVerdict
  deriving DecidableEq

structure RouteLaunchRequest where
  decisiveAttemptRef : String
  decisiveExecutionContentBinding : ExecutionContentBinding
  decision : StageRouteDecision
  artifactIdentity : ArtifactIdentity
  deriving DecidableEq

/-- What is written down about a run as it goes. The machine notes what the
activities do, the controller what it decides about routes. -/
inductive RunEvent where
  | attemptStarted (attemptRef : String) (role : StageQualityAttemptRole)
  | routeEvaluated (attemptRef : String) (role : StageQualityAttemptRole)
      (decision : Option StageRouteDecision)
  | attemptAdmitted (attemptRef : String)
  | routeCommitted (attemptRef : String) (decision : StageRouteDecision)
  | formalReviewNotRequired
  | snapshotDebt
  | rawExecutorOutput
  | attemptSyncFailed
  | revisionTransportMissing
  | reviewerSessionReused
  deriving DecidableEq

inductive StageRunRequest where
  | read
  | modify (change : Controller → Controller)
  | note (event : RunEvent)
  | elapsed
  | materialize (request : AttemptRequest)
  | executeChild (attemptRef : String) (input : StageAttemptInput)
  | syncAttempt (attemptRef : String) (result : StageAttemptState)
  | reviewReceipt (request : ReviewReceiptRequest)
  | launchRoute (request : RouteLaunchRequest)
  | project (state : StageRunState)

abbrev StageRunRequest.Response : StageRunRequest → Type
  | .read => Controller
  | .modify _ | .note _ | .syncAttempt _ _ | .project _ => Unit
  | .elapsed => Nat
  | .materialize _ => MaterializedAttempt
  | .executeChild _ _ => StageAttemptState
  | .reviewReceipt _ => StageReviewReceipt
  | .launchRoute _ => RouteMaterialization

abbrev stageRunInterface : Interface where
  Request := StageRunRequest
  Response := StageRunRequest.Response
  Failure := WorkflowFailure

/-- A part of the workflow function. -/
abbrev Workflow := Program stageRunInterface

def ask (request : StageRunRequest) : Workflow request.Response :=
  Program.call (I := stageRunInterface) request

section Requests

def readController : Workflow Controller := ask .read

def modifyController (change : Controller → Controller) : Workflow Unit := ask (.modify change)

def note (event : RunEvent) : Workflow Unit := ask (.note event)

def elapsed : Workflow Nat := ask .elapsed

def materialize (request : AttemptRequest) : Workflow MaterializedAttempt :=
  ask (.materialize request)

def executeChild (attemptRef : String) (input : StageAttemptInput) : Workflow StageAttemptState :=
  ask (.executeChild attemptRef input)

def syncAttempt (attemptRef : String) (result : StageAttemptState) : Workflow Unit :=
  ask (.syncAttempt attemptRef result)

def reviewReceipt (request : ReviewReceiptRequest) : Workflow StageReviewReceipt :=
  ask (.reviewReceipt request)

def launchRoute (request : RouteLaunchRequest) : Workflow RouteMaterialization :=
  ask (.launchRoute request)

def project (state : StageRunState) : Workflow Unit := ask (.project state)

end Requests

def controlled {α : Type} (outcome : Controlled α) : Workflow α := .done outcome

def checked {α : Type} (outcome : Checked α) : Workflow α := .done (Checked.controlled outcome)

def readState : Workflow StageRunState := do
  let controller ← readController
  return controller.state

def updateState (change : StageRunState → StageRunState) : Workflow Unit :=
  modifyController fun controller => { controller with state := change controller.state }

end OnePersonLab.Stage

import OnePersonLab.Stage.StageRunWorkflow

/-!
# The activities of a StageRun

Every activity and every child workflow may fail at any request. One that
succeeds answers within its contract: an attempt is materialized for exactly
what was asked, and a receipt is issued for two attempts on the books.
-/

namespace OnePersonLab.Stage

open Contract Lib Evolution

/-! ## The world of a run -/

/-- What is kept about a materialized attempt. The hashes are kept as bare digits. -/
structure AttemptRow where
  attemptRef : String
  role : StageQualityAttemptRole
  round : Nat
  parentAttemptRef : Option String
  artifactRefs : List String
  artifactHashes : List String
  deriving DecidableEq

structure RunWorld where
  controller : Controller
  ledger : List AttemptRow
  events : List RunEvent
  deriving DecidableEq

namespace RunWorld

def state (world : RunWorld) : StageRunState := world.controller.state

def withController (world : RunWorld) (change : Controller → Controller) : RunWorld :=
  { world with controller := change world.controller }

def withState (world : RunWorld) (change : StageRunState → StageRunState) : RunWorld :=
  world.withController fun controller => { controller with state := change controller.state }

def noting (world : RunWorld) (events : List RunEvent) : RunWorld :=
  { world with events := world.events ++ events }

end RunWorld

/-- The failures that an activity or a child workflow can end with. -/
def WorkflowFailure.FromActivity : WorkflowFailure → Prop
  | .activity _ _ | .cancelled _ => True
  | .contract _ _ | .thrown _ => False

instance (failure : WorkflowFailure) : Decidable failure.FromActivity := by
  cases failure <;> unfold WorkflowFailure.FromActivity <;> infer_instance

/-! ## Materializing -/

/-- The binding of the stage in the package that executes the attempt. -/
structure ExecutionStageBinding where
  bindingSha256 : String
  formalReviewRequired : Bool
  maxRepairRounds : Json
  qualityRubricRefs : List String
  declaredStageIds : List String

def ExecutionStageBinding.decisiveRoles (execution : ExecutionStageBinding) : List String :=
  if execution.formalReviewRequired then ["reviewer", "re_reviewer"] else ["producer"]

/-- The binding as the attempt carries it. -/
def ExecutionStageBinding.contentBinding (execution : ExecutionStageBinding) :
    ExecutionContentBinding where
  bindingSha256 := execution.bindingSha256
  qualityPolicyBody := some (.object [("formal_review", .object [
    ("required", .bool execution.formalReviewRequired),
    ("max_repair_rounds", execution.maxRepairRounds)])])
  qualityRubricRefs := execution.qualityRubricRefs
  declaredStageIds := execution.declaredStageIds

/-- The context that the route authority judges the attempt by. -/
def ExecutionStageBinding.routeContext (execution : ExecutionStageBinding)
    (role : StageQualityAttemptRole) : JsonRecord := [
  ("surface_kind", .string "opl_stage_run_route_selection_context"),
  ("version", .string "stage-run-route-selection-context.v1"),
  ("configured_decisive_attempt_roles", .ofStrings execution.decisiveRoles),
  ("current_attempt_role", .string role.text),
  ("declared_stage_ids", .ofStrings execution.declaredStageIds),
  ("max_repair_rounds", execution.maxRepairRounds)]

/-- What the activity chooses when it materializes an attempt. -/
structure Materialization where
  stageAttemptId : String
  workflowId : String
  scope : ExecutionScope
  execution : ExecutionStageBinding
  /-- A reviewer whose input snapshot could not be materialized. -/
  snapshotDebtRef : Option String

namespace Materialization

variable (choice : Materialization)

def contextManifest (role : StageQualityAttemptRole) : JsonRecord :=
  ("cross_stage_route_selection", .object (choice.execution.routeContext role)) ::
    (choice.snapshotDebtRef.map fun ref =>
      ("review_input_snapshot_quality_debt_receipt_ref", Json.string ref)).toList

def attempt (input : StageRunInput) (request : AttemptRequest) : MaterializedAttempt where
  attemptRef := attemptRefOf choice.stageAttemptId
  workflowInput := {
    stageAttemptId := choice.stageAttemptId
    workflowId := choice.workflowId
    domainId := input.domainId
    stageId := input.stageId
    scope := choice.scope
    executionContentBinding := some choice.execution.contentBinding
    attemptRole := request.role
    qualityRoundIndex := request.round
    findings := request.findings
    repairMap := request.repairMap
    contextManifest := choice.contextManifest request.role }

end Materialization

/-- A row holds the artifacts of its attempt's request. -/
structure AttemptRow.Holds (row : AttemptRow) (attemptRef : String) (request : AttemptRequest) :
    Prop where
  ref : row.attemptRef = attemptRef
  role : row.role = request.role
  round : row.round = request.round
  parent : row.parentAttemptRef = request.parentAttemptRef
  refs : row.artifactRefs = request.artifactIdentity.artifactRefs
  hashes : row.artifactHashes.map comparableArtifactHash =
    request.artifactIdentity.artifactHashes.map comparableArtifactHash

/-- The row is new, or an earlier call has entered it. -/
def Enters (row : AttemptRow) (before after : List AttemptRow) : Prop :=
  after = before ∧ row ∈ before ∨
    after = before ++ [row] ∧ ∀ other ∈ before, other.attemptRef ≠ row.attemptRef

def materializeEvents (choice : Materialization) (request : AttemptRequest) (input : StageRunInput) :
    List RunEvent :=
  (if choice.execution.formalReviewRequired then [] else [.formalReviewNotRequired]) ++
  (if (snapshotDebtRef? (choice.attempt input request).workflowInput).isSome then [.snapshotDebt]
    else [])

/-! ## Running and reviewing -/

/-- A review that reports the session of an attempt that never completed. -/
def ReusesSession (state : StageRunState) (role : StageQualityAttemptRole)
    (result : StageAttemptState) : Prop :=
  role.reviews = true ∧ ∃ attempt ∈ state.attempts, attempt.status ≠ .completed ∧
    attempt.executionSessionRef ≠ none ∧
    attempt.executionSessionRef = result.executionSessionRef

instance (state : StageRunState) (role : StageQualityAttemptRole) (result : StageAttemptState) :
    Decidable (ReusesSession state role result) := inferInstanceAs (Decidable (_ ∧ _))

def resultEvents (state : StageRunState) (role : StageQualityAttemptRole)
    (result : StageAttemptState) : List RunEvent :=
  (if result.rawExecutorOutput then [.rawExecutorOutput] else []) ++
  (if ReusesSession state role result then [.reviewerSessionReused] else [])

/-- The pairs that a receipt may be issued for. -/
def ReviewPair (producer reviewer : AttemptRow) : Prop :=
  reviewer.parentAttemptRef = some producer.attemptRef ∧ producer.round = reviewer.round ∧
    (producer.role = .producer ∧ reviewer.role = .reviewer ∨
      producer.role = .repairer ∧ reviewer.role = .reReviewer)

/-- A receipt that answers a request for two attempts on the books. -/
structure ReceiptFor (ledger : List AttemptRow) (request : ReviewReceiptRequest)
    (receipt : StageReviewReceipt) : Prop where
  rows : ∃ producer ∈ ledger, ∃ reviewer ∈ ledger,
    producer.attemptRef = request.producerAttemptRef ∧
    reviewer.attemptRef = request.reviewerAttemptRef ∧ ReviewPair producer reviewer ∧
    receipt.reviewedArtifactRefs = reviewer.artifactRefs ∧
    receipt.reviewedArtifactHashes = reviewer.artifactHashes
  producer : receipt.producerAttemptRef = request.producerAttemptRef
  reviewer : receipt.reviewerAttemptRef = request.reviewerAttemptRef
  verdict : receipt.verdict = request.verdict

/-! ## The machine -/

/-- What a request may be answered. -/
def stageRunMachine (input : StageRunInput) : Machine stageRunInterface RunWorld
  | world, .read, after, answer => after = world ∧ answer = .ok world.controller
  | world, .modify change, after, answer =>
    after = world.withController change ∧ answer = .ok ()
  | world, .note event, after, answer => after = world.noting [event] ∧ answer = .ok ()
  | world, .elapsed, after, answer => after = world ∧ ∃ elapsedMs : Nat, answer = .ok elapsedMs
  | world, .materialize request, after, answer =>
    (∃ failure : WorkflowFailure, failure.FromActivity ∧ answer = .error failure ∧
      (after = world ∨ ∃ row : AttemptRow, Enters row world.ledger after.ledger ∧
        after = { world with ledger := after.ledger })) ∨
    ∃ choice : Materialization, ∃ row : AttemptRow,
      answer = .ok (choice.attempt input request) ∧
      (request.role.reviews = false → choice.snapshotDebtRef = none) ∧
      row.Holds (attemptRefOf choice.stageAttemptId) request ∧
      Enters row world.ledger after.ledger ∧
      after = { world with ledger := after.ledger }.noting (materializeEvents choice request input)
  | world, .executeChild attemptRef child, after, answer =>
    (∃ failure : WorkflowFailure, failure.FromActivity ∧ answer = .error failure ∧
      after = world.noting [.attemptStarted attemptRef child.attemptRole]) ∨
    ∃ result : StageAttemptState, answer = .ok result ∧
      after = world.noting (.attemptStarted attemptRef child.attemptRole ::
        resultEvents world.state child.attemptRole result)
  | world, .syncAttempt _ _, after, answer =>
    (∃ failure : WorkflowFailure, failure.FromActivity ∧ answer = .error failure ∧
      after = world.noting [.attemptSyncFailed]) ∨
    answer = .ok () ∧ after = world
  | world, .reviewReceipt request, after, answer =>
    (∃ failure : WorkflowFailure, failure.FromActivity ∧ answer = .error failure ∧ after = world) ∨
    ∃ receipt : StageReviewReceipt, answer = .ok receipt ∧ ReceiptFor world.ledger request receipt ∧
      after = world.noting
        (if revisionTransport? receipt = none then [.revisionTransportMissing] else [])
  | world, .launchRoute _, after, answer =>
    after = world ∧ ((∃ handedOff : RouteMaterialization, answer = .ok handedOff) ∨
      ∃ failure : WorkflowFailure, failure.FromActivity ∧ answer = .error failure)
  | world, .project _, after, answer =>
    after = world ∧ (answer = .ok () ∨
      ∃ failure : WorkflowFailure, failure.FromActivity ∧ answer = .error failure)

/-- A run starts with nothing on record. -/
structure RunWorld.Fresh (world : RunWorld) : Prop where
  events : world.events = []
  distinct : (world.ledger.map AttemptRow.attemptRef).Nodup

/-- The run of an input under some patches ends so in the world. -/
def RunsTo (fuel : Nat) (patches : StageRunPatches) (input : StageRunInput)
    (ended : StageRunEnd) (final : RunWorld) : Prop :=
  ∃ start : RunWorld, start.Fresh ∧
    Runs (stageRunMachine input) (stageRunWorkflow fuel patches input) start (.ok ended) final

/-! ## Rules for the requests -/

namespace RunWorld

variable {world : RunWorld} {change : StageRunState → StageRunState} {events : List RunEvent}

@[simp] theorem ledger_withController {change : Controller → Controller} :
    (world.withController change).ledger = world.ledger := rfl
@[simp] theorem events_withController {change : Controller → Controller} :
    (world.withController change).events = world.events := rfl
@[simp] theorem state_withState : (world.withState change).state = change world.state := rfl
@[simp] theorem ledger_withState : (world.withState change).ledger = world.ledger := rfl
@[simp] theorem events_withState : (world.withState change).events = world.events := rfl
@[simp] theorem observed_withState :
    (world.withState change).controller.observedSessions = world.controller.observedSessions := rfl

@[simp] theorem state_noting : (world.noting events).state = world.state := rfl
@[simp] theorem ledger_noting : (world.noting events).ledger = world.ledger := rfl
@[simp] theorem events_noting : (world.noting events).events = world.events ++ events := rfl
@[simp] theorem controller_noting : (world.noting events).controller = world.controller := rfl

end RunWorld

section Rules

variable {input : StageRunInput} {world : RunWorld} {α : Type}
  {fails : WorkflowFailure → RunWorld → Prop}

variable {returns : Unit → RunWorld → Prop}

theorem leads_ask {request : StageRunRequest} {returns : request.Response → RunWorld → Prop} :
    Leads (stageRunMachine input) (ask request) world returns fails ↔
      ∀ after answer, stageRunMachine input world request after answer →
        Ends returns fails answer after := leads_call

@[simp] theorem leads_read {returns : Controller → RunWorld → Prop} :
    Leads (stageRunMachine input) readController world returns fails ↔
      returns world.controller world := by
  constructor
  · exact fun leads => leads_ask.1 leads world (.ok world.controller) ⟨rfl, rfl⟩
  · intro holds
    refine leads_ask.2 ?_
    rintro after answer ⟨rfl, rfl⟩
    exact holds

@[simp] theorem leads_modify {change : Controller → Controller} :
    Leads (stageRunMachine input) (modifyController change) world returns fails ↔
      returns () (world.withController change) := by
  constructor
  · exact fun leads => leads_ask.1 leads _ (.ok ()) ⟨rfl, rfl⟩
  · intro holds
    refine leads_ask.2 ?_
    rintro after answer ⟨rfl, rfl⟩
    exact holds

@[simp] theorem leads_note {event : RunEvent} :
    Leads (stageRunMachine input) (note event) world returns fails ↔
      returns () (world.noting [event]) := by
  constructor
  · exact fun leads => leads_ask.1 leads _ (.ok ()) ⟨rfl, rfl⟩
  · intro holds
    refine leads_ask.2 ?_
    rintro after answer ⟨rfl, rfl⟩
    exact holds

@[simp] theorem leads_readState {returns : StageRunState → RunWorld → Prop} :
    Leads (stageRunMachine input) readState world returns fails ↔ returns world.state world := by
  simp only [readState, leads_bind, leads_read, leads_pure]
  rfl

@[simp] theorem leads_updateState {change : StageRunState → StageRunState} :
    Leads (stageRunMachine input) (updateState change) world returns fails ↔
      returns () (world.withState change) := leads_modify

@[simp] theorem leads_elapsed {returns : Nat → RunWorld → Prop} :
    Leads (stageRunMachine input) (elapsed) world returns fails ↔
      ∀ elapsedMs, returns elapsedMs world := by
  constructor
  · exact fun leads elapsedMs => leads_ask.1 leads world (.ok elapsedMs) ⟨rfl, elapsedMs, rfl⟩
  · intro answered
    refine leads_ask.2 ?_
    rintro after answer ⟨rfl, elapsedMs, rfl⟩
    exact answered elapsedMs

@[simp] theorem leads_controlled {outcome : Controlled α} {returns : α → RunWorld → Prop} :
    Leads (stageRunMachine input) (controlled outcome) world returns fails ↔
      Ends returns fails outcome world := leads_done

@[simp] theorem leads_thrown {failure : WorkflowFailure} {returns : α → RunWorld → Prop} :
    Leads (stageRunMachine input) (throw failure : Workflow α) world returns fails ↔
      fails failure world := leads_throw

@[simp] theorem leads_caught {program : Workflow α} {handler : WorkflowFailure → Workflow α}
    {returns : α → RunWorld → Prop} :
    Leads (stageRunMachine input) (tryCatch program handler) world returns fails ↔
      Leads (stageRunMachine input) program world returns
        (fun failure after =>
          Leads (stageRunMachine input) (handler failure) after returns fails) := leads_tryCatch

/-- A check that fails, fails without a hard stop. -/
theorem leads_checked {outcome : Checked α} {returns : α → RunWorld → Prop}
    (passes : ∀ value, outcome = .ok value → returns value world)
    (breaks : ∀ message, fails (.contract message none) world) :
    Leads (stageRunMachine input) (checked outcome) world returns fails := by
  refine leads_done.2 ?_
  cases outcome with
  | ok value => exact passes value rfl
  | error failure => exact breaks _

theorem leads_syncAttempt {attemptRef : String} {result : StageAttemptState}
    (synced : returns () world)
    (breaks : ∀ failure : WorkflowFailure, failure.FromActivity →
      fails failure (world.noting [.attemptSyncFailed])) :
    Leads (stageRunMachine input) (syncAttempt attemptRef result) world returns fails := by
  refine leads_ask.2 ?_
  rintro after answer (⟨failure, external, rfl, rfl⟩ | ⟨rfl, rfl⟩)
  · exact breaks failure external
  · exact synced

theorem leads_reviewReceipt {request : ReviewReceiptRequest}
    {returns : StageReviewReceipt → RunWorld → Prop}
    (issued : ∀ receipt, ReceiptFor world.ledger request receipt → returns receipt
      (world.noting (if revisionTransport? receipt = none then [.revisionTransportMissing] else [])))
    (breaks : ∀ failure : WorkflowFailure, fails failure world) :
    Leads (stageRunMachine input) (reviewReceipt request) world returns fails := by
  refine leads_ask.2 ?_
  rintro after answer (⟨failure, -, rfl, rfl⟩ | ⟨receipt, rfl, holds, rfl⟩)
  · exact breaks failure
  · exact issued receipt holds

theorem leads_launchRoute {request : RouteLaunchRequest}
    {returns : RouteMaterialization → RunWorld → Prop}
    (answers : ∀ handedOff, returns handedOff world)
    (breaks : ∀ failure : WorkflowFailure, failure.FromActivity → fails failure world) :
    Leads (stageRunMachine input) (launchRoute request) world returns fails := by
  refine leads_ask.2 ?_
  rintro after answer ⟨rfl, ⟨handedOff, rfl⟩ | ⟨failure, external, rfl⟩⟩
  · exact answers handedOff
  · exact breaks failure external

theorem leads_project {state : StageRunState} (projected : returns () world)
    (breaks : ∀ failure, fails failure world) :
    Leads (stageRunMachine input) (project state) world returns fails := by
  refine leads_ask.2 ?_
  rintro after answer ⟨rfl, rfl | ⟨failure, -, rfl⟩⟩
  · exact projected
  · exact breaks failure

end Rules

end OnePersonLab.Stage

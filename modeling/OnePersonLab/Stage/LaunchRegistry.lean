import OnePersonLab.Stage.RecoveryIdentity

/-!
# The launch registry of StageRuns

One row for each StageRun: its immutable input, how far its start has come, the
receipt of the start, and the recovery of its closeout. Every operation is one
transaction; one that throws leaves the table as it was.
-/

namespace OnePersonLab.Stage

open Contract Lib

/-! ## The table -/

inductive StageRunLaunchStatus where
  | registered
  | starting
  | startFailed
  | started
  | closed
  deriving DecidableEq, Repr

/-- The receipt of a start, with the recoveries that are kept in it. -/
structure TemporalStartReceipt where
  fields : JsonRecord
  recoveryRuns : List StageRunRecoveryRun
  deriving DecidableEq

structure StageRunLaunchRow where
  stageRunId : String
  stageRunInvocationId : String
  stageRunSpecSha256 : String
  domainId : String
  stageId : String
  workflowId : String
  stageRunInput : Json
  launchStatus : StageRunLaunchStatus
  temporalStartReceipt : Option TemporalStartReceipt
  terminalStatus : Option String
  lastStartError : Option String
  startClaim : Option StartClaim
  startAttemptCount : Nat
  createdAt : Int
  updatedAt : Int
  deriving DecidableEq

/-- `stage_run_launches`. -/
abbrev LaunchTable := List StageRunLaunchRow

def launchRow (table : LaunchTable) (stageRunId : String) : Option StageRunLaunchRow :=
  table.find? fun row => row.stageRunId = stageRunId

/-- `UPDATE ... WHERE stage_run_id = ?`. -/
def LaunchTable.update (table : LaunchTable) (row : StageRunLaunchRow) : LaunchTable :=
  table.map fun other => if other.stageRunId = row.stageRunId then row else other

/-- What tables and files outside the registry say to a call. -/
structure Admission where
  /-- `requireTemporalStageRunWorkflowInputLaunchable`. -/
  launchable : Checked Unit
  /-- `assertRuntimeRowScopeMatchesWrite`. -/
  scopeMatches : Checked Unit
  /-- `requireRuntimeExecutionScopeMutationAllowed`. -/
  mutationAllowed : Checked Unit
  /-- `requireNoActiveUnresolvedRuntimeIdentityConflict`. -/
  conflictFree : Checked Unit
  ledger : List LedgerAttempt

inductive ClaimStatus where
  | started
  | closed
  | activeStarting
  | claimed
  | staleLeaseTakeover
  | retryClaimed
  deriving DecidableEq, Repr

/-- What a claim is answered. -/
structure ClaimAnswer where
  claimStatus : ClaimStatus
  /-- The token of a claim that was won. -/
  claimToken : Option ClaimToken
  deriving DecidableEq

inductive RegistryAnswer where
  | registered (isNew : Bool)
  | claim (answer : ClaimAnswer)
  | launch
  | absent
  deriving DecidableEq

/-! ## Leases -/

def defaultStageRunStartLeaseMs : Int := 30000

def validLeaseMs (value : Option Int) : Checked Int :=
  match value with
  | none => .ok defaultStageRunStartLeaseMs
  | some value => do
    ensure (1 ≤ value ∧ value ≤ 5 * 60000)
      "StageRun start claim lease must be an integer between 1 ms and 5 minutes."
    return value

/-- `claimToken?.trim() || crypto.randomUUID()`. -/
def claimTokenOf (given : Option String) (random : ClaimToken) : ClaimToken :=
  if named : trim (given.getD "") ≠ "" then ⟨trim (given.getD ""), named⟩ else random

/-- A lease that has not run out. -/
def StartClaim.active (claim : StartClaim) (now : Int) : Bool := decide (now < claim.leaseExpiresAt)

def activeStartingLease (row : StageRunLaunchRow) (now : Int) : Bool :=
  decide (row.launchStatus = .starting) && row.startClaim.any fun claim => claim.active now

def activeRecoveryStartingLease (entry : StageRunRecoveryRun) (now : Int) : Bool :=
  decide (entry.startStatus = .starting) && entry.startClaim.any fun claim => claim.active now

/-! ## Starts -/

structure LaunchRegistration where
  stageRunId : String
  stageRunInvocationId : String
  stageRunSpecSha256 : String
  domainId : String
  stageId : String
  workflowId : String
  stageRunInput : Json

/-- The row that is inserted for a registration. -/
def LaunchRegistration.row (input : LaunchRegistration) (now : Int) : StageRunLaunchRow where
  stageRunId := input.stageRunId
  stageRunInvocationId := input.stageRunInvocationId
  stageRunSpecSha256 := input.stageRunSpecSha256
  domainId := input.domainId
  stageId := input.stageId
  workflowId := input.workflowId
  stageRunInput := input.stageRunInput
  launchStatus := .registered
  temporalStartReceipt := none
  terminalStatus := none
  lastStartError := none
  startClaim := none
  startAttemptCount := 0
  createdAt := now
  updatedAt := now

def registerStageRunLaunch (now : Int) (admission : Admission) (input : LaunchRegistration)
    (table : LaunchTable) : Checked (RegistryAnswer × LaunchTable) := do
  admission.launchable
  match table.find? fun row => row.domainId = input.domainId ∧ row.stageId = input.stageId ∧
      row.stageRunInvocationId = input.stageRunInvocationId with
  | some existing =>
    admission.scopeMatches
    ensure (existing.stageRunId = input.stageRunId ∧
        existing.stageRunSpecSha256 = input.stageRunSpecSha256)
      "StageRun invocation is already bound to a different immutable spec."
    return (.registered false, table)
  | none =>
    admission.conflictFree
    -- the primary key and the unique workflow id of the table
    if ∃ row ∈ table, row.stageRunId = input.stageRunId ∨ row.workflowId = input.workflowId then
      throw (.runtime "UNIQUE constraint failed")
    return (.registered true, table ++ [input.row now])

/-- What an operation makes of the row of its run. -/
abbrev RowOperation := StageRunLaunchRow → Checked (RegistryAnswer × StageRunLaunchRow)

structure StartClaimInput where
  stageRunId : String
  leaseMs : Option Int
  claimToken : Option String
  /-- `crypto.randomUUID()`. -/
  random : ClaimToken

def claimStageRunStart (now : Int) (admission : Admission) (input : StartClaimInput) :
    RowOperation := fun existing => do
  let leaseMs ← validLeaseMs input.leaseMs
  let claimToken := claimTokenOf input.claimToken input.random
  admission.mutationAllowed
  if existing.launchStatus = .started then return (.claim ⟨.started, none⟩, existing)
  if existing.launchStatus = .closed then return (.claim ⟨.closed, none⟩, existing)
  if activeStartingLease existing now then return (.claim ⟨.activeStarting, none⟩, existing)
  admission.conflictFree
  let claimed := { existing with
    launchStatus := .starting
    startClaim := some ⟨claimToken, now, now + leaseMs⟩
    startAttemptCount := existing.startAttemptCount + 1
    lastStartError := none
    updatedAt := now }
  let claimStatus := if existing.launchStatus = .starting then .staleLeaseTakeover else .claimed
  return (.claim ⟨claimStatus, some claimToken⟩, claimed)

structure TemporalStartInput where
  stageRunId : String
  temporalStartReceipt : TemporalStartReceipt
  /-- The token of the caller's claim. Nothing reads it. -/
  claimToken : Option String

/-- The trimmed text of a field, and no text where it is missing. -/
def trimmedField (record : JsonRecord) (field : String) : String :=
  ((stringField? record field).map trim).getD ""

/-- A field that is a text, and another one. -/
def optionalMismatch (record : JsonRecord) (field expected : String) : Prop :=
  ∃ received ∈ stringField? record field, received ≠ expected

instance (record : JsonRecord) (field expected : String) :
    Decidable (optionalMismatch record field expected) :=
  inferInstanceAs (Decidable (∃ _ ∈ _, _))

def StageRunLaunchRow.firstExecutionRunId? (row : StageRunLaunchRow) : Option String :=
  row.temporalStartReceipt.bind fun receipt => stringField? receipt.fields "first_execution_run_id"

def recordStageRunTemporalStart (now : Int) (admission : Admission) (input : TemporalStartInput) :
    RowOperation := fun row => do
  admission.mutationAllowed
  let receipt := input.temporalStartReceipt
  let workflowId := trimmedField receipt.fields "workflow_id"
  let firstExecutionRunId := trimmedField receipt.fields "first_execution_run_id"
  ensure (¬(workflowId ≠ row.workflowId ∨ firstExecutionRunId = "" ∨
      optionalMismatch receipt.fields "stage_run_id" row.stageRunId ∨
      optionalMismatch receipt.fields "stage_run_invocation_id" row.stageRunInvocationId ∨
      optionalMismatch receipt.fields "stage_run_spec_sha256" row.stageRunSpecSha256))
    "Temporal StageRun start receipt does not bind the registered Run and first execution."
  let existingFirstExecutionRunId := row.firstExecutionRunId?.filter (· ≠ "")
  ensure (¬((row.launchStatus = .started ∨ row.launchStatus = .closed) ∧
      ∃ existing ∈ existingFirstExecutionRunId, existing ≠ firstExecutionRunId))
    "One StageRun workflow id cannot bind two Temporal first executions."
  if row.launchStatus = .closed ∨ row.launchStatus = .started then return (.launch, row)
  return (.launch, { row with
    launchStatus := .started
    temporalStartReceipt := some receipt
    terminalStatus := none
    lastStartError := none
    startClaim := none
    updatedAt := now })

structure StartFailureInput where
  stageRunId : String
  claimToken : String
  message : String

/-- The token of a claim. -/
def claimTokenIs (claim : Option StartClaim) (token : String) : Prop :=
  claim.map (fun claim => claim.token.val) = some token

instance (claim : Option StartClaim) (token : String) : Decidable (claimTokenIs claim token) :=
  inferInstanceAs (Decidable (_ = _))

def recordStageRunStartFailure (now : Int) (admission : Admission) (input : StartFailureInput) :
    RowOperation := fun row => do
  admission.mutationAllowed
  if row.launchStatus = .starting ∧ claimTokenIs row.startClaim input.claimToken then
    return (.launch, { row with
      launchStatus := .startFailed
      lastStartError := some input.message
      startClaim := none
      updatedAt := now })
  return (.launch, row)

structure ClosedInput where
  stageRunId : String
  terminalStatus : String

def recordStageRunClosed (now : Int) (admission : Admission) (input : ClosedInput) :
    RowOperation := fun row => do
  let terminalStatus := toLowerCase (trim input.terminalStatus)
  ensure (terminalStatus ≠ "") "Closed StageRun launch requires a terminal Temporal status."
  admission.mutationAllowed
  if row.launchStatus = .closed then
    ensure (¬∃ existing ∈ row.terminalStatus, existing ≠ "" ∧ existing ≠ terminalStatus)
      "Closed StageRun launch cannot change its terminal status."
    return (.launch, row)
  ensure (row.launchStatus = .started)
    "StageRun can close only after its Temporal execution identity is recorded."
  return (.launch, { row with
    launchStatus := .closed
    terminalStatus := some terminalStatus
    lastStartError := none
    startClaim := none
    updatedAt := now })

/-! ## Recoveries -/

section Recovery

variable (platform : RegistryPlatform)

structure RecoveryClaimInput where
  stageRunId : String
  /-- The input of the StageRun without its recovery. -/
  stageRunInput : Json
  recoveryResume : Option JsonRecord
  leaseMs : Option Int
  claimToken : Option String
  /-- `crypto.randomUUID()`. -/
  random : ClaimToken
  terminalRetry : Option StageRunRecoveryTerminalRetry

/-- `requireRecoveryRegistryIdentity`. -/
def requireRecoveryRegistryIdentity (admission : Admission) (row : StageRunLaunchRow)
    (input : RecoveryClaimInput) : Checked (JsonRecord × String) := do
  admission.launchable
  ensure (row.launchStatus = .closed ∧ sameText platform input.stageRunInput row.stageRunInput = true)
    "StageRun recovery must reuse one closed registered StageRun and its immutable launch input."
  match input.recoveryResume with
  | none => fail "StageRun recovery digest requires a recovery resume input."
  | some recovery =>
    return (recovery, "sha256:" ++ platform.sha256 (platform.canonicalText (.object recovery)))

/-- The retry that lets a claim for another recovery through. -/
def identityRetry (admission : Admission) (row : StageRunLaunchRow) (existing : StageRunRecoveryRun)
    (recovery : JsonRecord) (terminalRetry : StageRunRecoveryTerminalRetry) : Checked Bool := do
  let repairerResumeRetry ←
    recoveryEntryCanAdvanceToRepairerResume platform existing recovery terminalRetry
  let reviewerSnapshotEnrichmentRetry ← recoveryEntryCanEnrichReviewerSnapshot platform
    row.stageRunId row.workflowId existing recovery terminalRetry
  let ownerRepairMapRetry ← recoveryEntryCanRestoreOwnerRepairMap platform admission.ledger
    row.stageRunId existing recovery terminalRetry
  let qualityDebtAppendRetry ←
    recoveryEntryCanAppendQualityDebtRefs platform existing recovery terminalRetry
  let producerSnapshotExtensionRetry ← recoveryEntryCanExtendAcceptedProducerSnapshot platform
    admission.ledger row.stageRunId existing recovery terminalRetry
  return repairerResumeRetry || reviewerSnapshotEnrichmentRetry || ownerRepairMapRetry ||
    qualityDebtAppendRetry || producerSnapshotExtensionRetry

/-- The identity of an entry is that of the recovery, or may be replaced by it. -/
def admitsRecovery (admission : Admission) (row : StageRunLaunchRow)
    (existing : StageRunRecoveryRun) (recovery : JsonRecord) (recoveryResumeSha256 : String)
    (terminalRetry : Option StageRunRecoveryTerminalRetry) : Checked Bool := do
  let identityMatches ← recoveryEntryIdentityMatches platform existing recovery recoveryResumeSha256
  if identityMatches then return true
  let retried ← match terminalRetry with
    | none => pure false
    | some terminalRetry => identityRetry platform admission row existing recovery terminalRetry
  ensure (retried = true) "StageRun is already bound to a different closeout recovery identity."
  return false

/-- A recovery that has started is claimed again for its run at an end only. -/
def requireTerminalRetry (existing : StageRunRecoveryRun)
    (terminalRetry : StageRunRecoveryTerminalRetry) : Checked Unit :=
  ensure (¬(existing.persistedRunId = none ∨ existing.persistedRunId = some "" ∨
      existing.persistedRunId ≠ some terminalRetry.recoveryRunId ∨
      terminalTemporalRecoveryStatus terminalRetry.workflowStatus = false))
    "StageRun recovery terminal retry does not match a terminal persisted Temporal Run."

/-- The entry for a recovery that is claimed for the first time. -/
def newRecoveryRun (recovery : JsonRecord) (recoveryResumeSha256 producerAttemptRef : String)
    (claim : StartClaim) : StageRunRecoveryRun where
  recoveryId := (stringField? recovery "recovery_id").getD ""
  recoveryResumeSha256
  qualityCycleId := (stringField? recovery "quality_cycle_id").getD ""
  producerAttemptRef
  recoveryResume := recovery
  startStatus := .starting
  startClaim := some claim
  startAttemptCount := 1
  temporalStartReceipt := none
  temporalStartReceiptHistory := []
  lastStartError := none
  createdAt := claim.claimedAt
  updatedAt := claim.claimedAt

/-- The entry that replaces one for another recovery. -/
def replacedRecoveryRun (existing : StageRunRecoveryRun) (priorTemporalEvidence : Option JsonRecord)
    (fresh : StageRunRecoveryRun) : StageRunRecoveryRun :=
  { fresh with
    startAttemptCount := existing.startAttemptCount + 1
    temporalStartReceiptHistory :=
      existing.temporalStartReceiptHistory ++ priorTemporalEvidence.toList
    createdAt := existing.createdAt }

/-- The entry that is claimed again for its own recovery. -/
def reclaimedRecoveryRun (existing : StageRunRecoveryRun)
    (priorTemporalEvidence : Option JsonRecord) (terminal : Bool) (claim : StartClaim) :
    StageRunRecoveryRun :=
  { existing with
    startStatus := .starting
    startClaim := some claim
    startAttemptCount := existing.startAttemptCount + 1
    temporalStartReceipt := if terminal then none else existing.temporalStartReceipt
    temporalStartReceiptHistory := if terminal then
        existing.temporalStartReceiptHistory ++ priorTemporalEvidence.toList
      else existing.temporalStartReceiptHistory
    lastStartError := none
    updatedAt := claim.claimedAt }

/-- `writeRecoveryRuns`. -/
def StageRunLaunchRow.writeRecoveryRuns (row : StageRunLaunchRow) (receipt : TemporalStartReceipt)
    (runs : List StageRunRecoveryRun) (now : Int) : StageRunLaunchRow :=
  { row with temporalStartReceipt := some { receipt with recoveryRuns := runs }, updatedAt := now }

/-- The claim on an entry that the registry keeps already. -/
def claimExistingRecovery (now : Int) (admission : Admission) (input : RecoveryClaimInput)
    (row : StageRunLaunchRow) (receipt : TemporalStartReceipt) (existing : StageRunRecoveryRun)
    (recovery : JsonRecord) (recoveryResumeSha256 : String) (claim : StartClaim) :
    Checked (RegistryAnswer × StageRunLaunchRow) := do
  let identityMatches ← admitsRecovery platform admission row existing recovery
    recoveryResumeSha256 input.terminalRetry
  if existing.startStatus = .started then
    match input.terminalRetry with
    | none => return (.claim ⟨.started, none⟩, row)
    | some terminalRetry => requireTerminalRetry existing terminalRetry
  if activeRecoveryStartingLease existing now then
    return (.claim ⟨.activeStarting, none⟩, row)
  let priorTemporalEvidence := existing.temporalStartReceipt.or
    (input.terminalRetry.bind StageRunRecoveryTerminalRetry.observationReceipt)
  let producerAttemptRef ← recoveryArtifactProducerAttemptRef recovery
  let next := if identityMatches then
      reclaimedRecoveryRun existing priorTemporalEvidence input.terminalRetry.isSome claim
    else replacedRecoveryRun existing priorTemporalEvidence
      (newRecoveryRun recovery recoveryResumeSha256 producerAttemptRef claim)
  let claimStatus := if existing.startStatus = .starting then .staleLeaseTakeover else .retryClaimed
  return (.claim ⟨claimStatus, some claim.token⟩, row.writeRecoveryRuns receipt [next] now)

def claimStageRunRecoveryStart (now : Int) (admission : Admission) (input : RecoveryClaimInput) :
    RowOperation := fun row => do
  let leaseMs ← validLeaseMs input.leaseMs
  let claimToken := claimTokenOf input.claimToken input.random
  admission.mutationAllowed
  let (recovery, recoveryResumeSha256) ←
    requireRecoveryRegistryIdentity platform admission row input
  let claim : StartClaim := ⟨claimToken, now, now + leaseMs⟩
  match row.temporalStartReceipt with
  | none => fail "Closed StageRun recovery requires the original Temporal start receipt."
  | some receipt =>
    match receipt.recoveryRuns with
    | [] =>
      let producerAttemptRef ← recoveryArtifactProducerAttemptRef recovery
      let next := newRecoveryRun recovery recoveryResumeSha256 producerAttemptRef claim
      return (.claim ⟨.claimed, some claimToken⟩, row.writeRecoveryRuns receipt [next] now)
    | [existing] =>
      claimExistingRecovery platform now admission input row receipt existing recovery
        recoveryResumeSha256 claim
    | _ :: _ :: _ => fail "One StageRun may have only one closeout recovery execution."

structure TemporalRecoveryStartInput where
  stageRunId : String
  recoveryId : String
  temporalStartReceipt : JsonRecord
  claimToken : String

/-- The receipt names the entry that it is recorded for. -/
def bindsRecovery (row : StageRunLaunchRow) (existing : StageRunRecoveryRun)
    (input : TemporalRecoveryStartInput) : Prop :=
  let temporal := input.temporalStartReceipt
  existing.recoveryId = input.recoveryId ∧
    stringField? temporal "recovery_id" = some input.recoveryId ∧
    stringField? temporal "stage_run_id" = some row.stageRunId ∧
    stringField? temporal "workflow_id" = some row.workflowId ∧
    stringField? temporal "quality_cycle_id" = some existing.qualityCycleId ∧
    stringField? temporal "producer_attempt_ref" = some existing.producerAttemptRef ∧
    trimmedField temporal "recovery_run_id" ≠ ""

instance (row : StageRunLaunchRow) (existing : StageRunRecoveryRun)
    (input : TemporalRecoveryStartInput) : Decidable (bindsRecovery row existing input) :=
  inferInstanceAs (Decidable (_ ∧ _))

def recoveryStartMismatch : String :=
  "Temporal StageRun recovery receipt does not match its durable recovery identity."

def recordStageRunTemporalRecoveryStart (now : Int) (admission : Admission)
    (input : TemporalRecoveryStartInput) : RowOperation := fun row => do
  admission.mutationAllowed
  match row.temporalStartReceipt with
  | none => fail recoveryStartMismatch
  | some receipt =>
    match receipt.recoveryRuns with
    | [] => fail recoveryStartMismatch
    | existing :: _ =>
      ensure (bindsRecovery row existing input) recoveryStartMismatch
      if existing.startStatus = .started then
        ensure (existing.persistedRunId =
            some (trimmedField input.temporalStartReceipt "recovery_run_id"))
          "One StageRun recovery cannot bind two Temporal Runs."
        return (.launch, row)
      ensure (existing.startStatus = .starting ∧
          claimTokenIs existing.startClaim input.claimToken)
        "Temporal StageRun recovery start lost its compare-and-set claim."
      let updated := { existing with
        startStatus := .started
        startClaim := none
        temporalStartReceipt := some input.temporalStartReceipt
        lastStartError := none
        updatedAt := now }
      return (.launch, row.writeRecoveryRuns receipt [updated] now)

structure RecoveryStartFailureInput where
  stageRunId : String
  recoveryId : String
  claimToken : String
  message : String

def recordStageRunRecoveryStartFailure (now : Int) (admission : Admission)
    (input : RecoveryStartFailureInput) : RowOperation := fun row => do
  admission.mutationAllowed
  match row.temporalStartReceipt with
  | none => return (.launch, row)
  | some receipt =>
    match receipt.recoveryRuns with
    | [] => return (.launch, row)
    | existing :: _ =>
      if existing.recoveryId = input.recoveryId ∧ existing.startStatus = .starting ∧
          claimTokenIs existing.startClaim input.claimToken then
        let updated := { existing with
          startStatus := .startFailed
          startClaim := none
          lastStartError := some input.message
          updatedAt := now }
        return (.launch, row.writeRecoveryRuns receipt [updated] now)
      return (.launch, row)

/-! ## Transactions -/

inductive RegistryOperation where
  | registerStageRunLaunch (input : LaunchRegistration)
  | claimStageRunStart (input : StartClaimInput)
  | recordStageRunTemporalStart (input : TemporalStartInput)
  | recordStageRunStartFailure (input : StartFailureInput)
  | recordStageRunClosed (input : ClosedInput)
  | claimStageRunRecoveryStart (input : RecoveryClaimInput)
  | recordStageRunTemporalRecoveryStart (input : TemporalRecoveryStartInput)
  | recordStageRunRecoveryStartFailure (input : RecoveryStartFailureInput)

/-- A call of the registry, with its clock. -/
structure RegistryCall where
  now : Int
  admission : Admission
  operation : RegistryOperation

def RegistryOperation.stageRunId : RegistryOperation → String
  | .registerStageRunLaunch input => input.stageRunId
  | .claimStageRunStart input => input.stageRunId
  | .recordStageRunTemporalStart input => input.stageRunId
  | .recordStageRunStartFailure input => input.stageRunId
  | .recordStageRunClosed input => input.stageRunId
  | .claimStageRunRecoveryStart input => input.stageRunId
  | .recordStageRunTemporalRecoveryStart input => input.stageRunId
  | .recordStageRunRecoveryStartFailure input => input.stageRunId

/-- What a call makes of the row of its run, but for a registration. -/
def RegistryCall.rowOperation (call : RegistryCall) : RowOperation :=
  match call.operation with
  | .registerStageRunLaunch _ => fun row => .ok (.launch, row)
  | .claimStageRunStart input => Stage.claimStageRunStart call.now call.admission input
  | .recordStageRunTemporalStart input =>
    Stage.recordStageRunTemporalStart call.now call.admission input
  | .recordStageRunStartFailure input =>
    Stage.recordStageRunStartFailure call.now call.admission input
  | .recordStageRunClosed input => Stage.recordStageRunClosed call.now call.admission input
  | .claimStageRunRecoveryStart input =>
    Stage.claimStageRunRecoveryStart platform call.now call.admission input
  | .recordStageRunTemporalRecoveryStart input =>
    Stage.recordStageRunTemporalRecoveryStart call.now call.admission input
  | .recordStageRunRecoveryStartFailure input =>
    Stage.recordStageRunRecoveryStartFailure call.now call.admission input

/-- What a call on a run without a row is answered. -/
def RegistryOperation.unregistered : RegistryOperation → Checked RegistryAnswer
  | .registerStageRunLaunch _ => .ok .launch
  | .claimStageRunStart input => do
    let _ ← validLeaseMs input.leaseMs
    fail "StageRun start cannot be claimed before launch registration."
  | .recordStageRunTemporalStart _ =>
    fail "Temporal StageRun start cannot be recorded before launch registration."
  | .recordStageRunStartFailure _ => fail "StageRun launch is not registered."
  | .recordStageRunClosed input => do
    ensure (toLowerCase (trim input.terminalStatus) ≠ "")
      "Closed StageRun launch requires a terminal Temporal status."
    return .absent
  | .claimStageRunRecoveryStart input => do
    let _ ← validLeaseMs input.leaseMs
    fail "StageRun recovery cannot be claimed before launch registration."
  | .recordStageRunTemporalRecoveryStart _ | .recordStageRunRecoveryStartFailure _ =>
    fail "StageRun recovery start is not registered."

/-- A call that does not throw. -/
def RegistryCall.perform (call : RegistryCall) (table : LaunchTable) :
    Checked (RegistryAnswer × LaunchTable) := do
  match call.operation with
  | .registerStageRunLaunch input =>
    Stage.registerStageRunLaunch call.now call.admission input table
  | operation =>
    match launchRow table operation.stageRunId with
    | none =>
      let answer ← operation.unregistered
      return (answer, table)
    | some row =>
      let (answer, changed) ← call.rowOperation platform row
      return (answer, table.update changed)

/-- The table after a call: a transaction that throws is rolled back. -/
def RegistryCall.commit (call : RegistryCall) (table : LaunchTable) : LaunchTable :=
  match call.perform platform table with
  | .ok (_, changed) => changed
  | .error _ => table

end Recovery

end OnePersonLab.Stage

import OnePersonLab.Stage.AttemptOutput
import OnePersonLab.Stage.ScopeBudget

/-!
# The identity of a recovery

A closed StageRun keeps one entry for the recovery of its closeout. The entry is
bound to the recovery it was claimed for; a claim for another recovery is let
through by one of five kinds of retry only, each after the run of the entry has
come to an end.
-/

namespace OnePersonLab.Stage

open Contract Lib

/-- What the registry takes from the language and from other modules. -/
structure RegistryPlatform where
  /-- `canonicalJsonText`. -/
  canonicalText : Json → String
  /-- The SHA-256 digest of a text, in hexadecimal. -/
  sha256 : String → String
  /-- `String(value)` of a value that is not a string. -/
  textOf : Json → String
  normalizeReviewerInputSnapshotRequest : Option Json → Checked JsonRecord

/-! ## The data -/

/-- The token of a claim: some text. -/
abbrev ClaimToken := { text : String // text ≠ "" }

structure StartClaim where
  token : ClaimToken
  claimedAt : Int
  leaseExpiresAt : Int
  deriving DecidableEq

inductive RecoveryStartStatus where
  | starting
  | started
  | startFailed
  deriving DecidableEq, Repr

structure StageRunRecoveryRun where
  recoveryId : String
  recoveryResumeSha256 : String
  qualityCycleId : String
  producerAttemptRef : String
  recoveryResume : JsonRecord
  startStatus : RecoveryStartStatus
  startClaim : Option StartClaim
  startAttemptCount : Nat
  temporalStartReceipt : Option JsonRecord
  temporalStartReceiptHistory : List JsonRecord
  lastStartError : Option String
  createdAt : Int
  updatedAt : Int
  deriving DecidableEq

/-- The last run of a recovery as the provider describes it. -/
structure StageRunRecoveryTerminalRetry where
  recoveryRunId : String
  workflowStatus : String
  observationReceipt : Option JsonRecord
  deriving DecidableEq

/-- A row of the attempt ledger. -/
structure LedgerAttempt where
  stageAttemptId : String
  stageRunId : Option String
  attemptRole : String
  status : String
  closeoutReceiptStatus : Option String
  routeImpact : JsonRecord
  deriving DecidableEq

def getStageAttemptRow (ledger : List LedgerAttempt) (stageAttemptId : String) :
    Option LedgerAttempt :=
  ledger.find? fun attempt => attempt.stageAttemptId = stageAttemptId

/-- The run id in a start receipt of a recovery. -/
def recoveryRunId? (receipt : JsonRecord) : Option String := stringField? receipt "recovery_run_id"

def StageRunRecoveryRun.persistedRunId (entry : StageRunRecoveryRun) : Option String :=
  entry.temporalStartReceipt.bind recoveryRunId?

/-! ## Reading a recovery -/

/-- Upper case as far as it can produce an ASCII letter: `a` to `z`, the dotless
i and the long s. The states it is compared with are ASCII. -/
def upperChar (c : Char) : Char :=
  if 'a' ≤ c ∧ c ≤ 'z' then Char.ofNat (c.toNat - 32)
  else if c.toNat = 0x131 then 'I'
  else if c.toNat = 0x17f then 'S'
  else c

def toUpperCase (text : String) : String := String.ofList ((characters text).map upperChar)

def terminalTemporalRecoveryStatus (value : String) : Bool :=
  ["COMPLETED", "FAILED", "CANCELED", "CANCELLED", "TERMINATED", "TIMED_OUT"].contains
    (toUpperCase (trim value))

/-- `text.replace(/^front/, '')`. -/
def withoutFront (front text : String) : String :=
  if startsWith text front then
    String.ofList ((characters text).drop (characters front).length)
  else text

def stageAttemptIdOf (attemptRef : String) : String :=
  withoutFront "opl://stage_attempts/" attemptRef

def without (names : List String) (record : JsonRecord) : JsonRecord :=
  record.filter fun field => field.1 ∉ names

def stringsField (record : JsonRecord) (field : String) : List String :=
  (arrayField record field).filterMap Json.asString?

def recoveryArtifactProducerAttemptRef (recovery : JsonRecord) : Checked String :=
  let ref := (present? (field? recovery "artifact_producer_attempt_ref")).or
    (present? (field? recovery "producer_attempt_ref"))
  match (ref.bind Json.asString?).filter (· ≠ "") with
  | some ref => .ok ref
  | none => fail "StageRun recovery registry requires the artifact-producing Attempt ref."

section Predicates

variable (platform : RegistryPlatform)

/-- `canonicalJsonText(left) === canonicalJsonText(right)`. -/
def sameText (left right : Json) : Bool :=
  platform.canonicalText left = platform.canonicalText right

/-- The same of two fields, one that is missing as `null`. -/
def sameField (field : String) (left right : JsonRecord) : Bool :=
  sameText platform ((field? left field).getD .null) ((field? right field).getD .null)

/-- `recoveryResumeChangedFields`. It is only compared with lists of one field,
so that the order of the fields is left as it is. -/
def recoveryResumeChangedFields (previous next : JsonRecord) : List String :=
  (previous.map Prod.fst ++ next.map Prod.fst).eraseDups.filter fun field =>
    !sameField platform field previous next

def recoveryEntryIdentityMatches (entry : StageRunRecoveryRun) (recovery : JsonRecord)
    (recoveryResumeSha256 : String) : Checked Bool := do
  if stringField? recovery "recovery_id" ≠ some entry.recoveryId then return false
  if entry.recoveryResumeSha256 ≠ recoveryResumeSha256 then return false
  if stringField? recovery "quality_cycle_id" ≠ some entry.qualityCycleId then return false
  let producerAttemptRef ← recoveryArtifactProducerAttemptRef recovery
  return decide (entry.producerAttemptRef = producerAttemptRef) &&
    sameText platform (.object entry.recoveryResume) (.object recovery)

/-! ## The retries -/

/-- The run that the entry has recorded is the one that has come to an end. -/
def retriesRecordedRun (entry : StageRunRecoveryRun)
    (terminalRetry : StageRunRecoveryTerminalRetry) : Bool :=
  decide (entry.startStatus = .started ∧
    entry.persistedRunId = some terminalRetry.recoveryRunId) &&
    terminalTemporalRecoveryStatus terminalRetry.workflowStatus

/-- `(recovery.repair_rounds_used ?? whenMissing)`. -/
def repairRoundsUsed (recovery : JsonRecord) (whenMissing : ℚ) : ℚ :=
  ((present? (field? recovery "repair_rounds_used")).bind Json.asNumber?).getD whenMissing

/-- A recovery after a repairer, or the repair that a reviewer has asked for. -/
def recoveryEntryCanAdvanceToRepairerResume (entry : StageRunRecoveryRun) (recovery : JsonRecord)
    (terminalRetry : StageRunRecoveryTerminalRetry) : Checked Bool := do
  let priorAttempts := asRecordList (field? recovery "prior_attempt_summaries")
  let refOf := fun attempt : JsonRecord =>
    (stringField? attempt "stage_attempt_id").map attemptRefOf
  let nextProducerRef ← recoveryArtifactProducerAttemptRef recovery
  let latestAttempt := priorAttempts.getLast?
  let latestRole := latestAttempt.bind fun attempt => stringField? attempt "attempt_role"
  let reviewReceipts := asRecordList (field? recovery "review_receipts")
  let latestReceipt := fun field : String =>
    reviewReceipts.getLast?.bind fun receipt => stringField? receipt field
  let resumeAfterRole := stringField? recovery "resume_after_role"
  let reviewerAttemptRef := stringField? recovery "reviewer_attempt_ref"
  let afterRepairer := decide (resumeAfterRole = some "repairer" ∧
    nextProducerRef ≠ entry.producerAttemptRef ∧ latestRole = some "repairer" ∧
    arrayField recovery "repair_map" ≠ [] ∧
    field? recovery "repair_rounds_used" =
      latestAttempt.bind fun attempt => field? attempt "quality_round_index")
  let afterReviewer := decide (resumeAfterRole = some "reviewer" ∧
    nextProducerRef = entry.producerAttemptRef ∧ latestRole = some "reviewer" ∧
    reviewerAttemptRef = latestAttempt.bind refOf ∧
    latestReceipt "reviewer_attempt_ref" = reviewerAttemptRef ∧
    latestReceipt "producer_attempt_ref" = some entry.producerAttemptRef ∧
    latestReceipt "verdict" = some "repair_required" ∧
    repairRoundsUsed entry.recoveryResume 0 ≤ repairRoundsUsed recovery (-1)) &&
    ["artifact_refs", "artifact_hashes", "artifact_identity_receipt_refs"].all fun field =>
      sameField platform field recovery entry.recoveryResume
  return retriesRecordedRun entry terminalRetry &&
    decide (stringField? recovery "quality_cycle_id" = some entry.qualityCycleId ∧
      (∃ attempt ∈ priorAttempts, refOf attempt = some entry.producerAttemptRef) ∧
      arrayField recovery "findings" ≠ [] ∧ arrayField recovery "review_receipts" ≠ []) &&
    (afterRepairer || afterReviewer)

def recoveryQualityDebtRefsCanAdvance (previous next : JsonRecord) : Bool :=
  (stringsField previous "quality_debt_refs").isPrefixOf (stringsField next "quality_debt_refs")

/-- A failed start whose run the provider has found, and found at its end. -/
def terminalObservationMatchesFailedStart (stageRunId workflowId : String)
    (entry : StageRunRecoveryRun) (terminalRetry : StageRunRecoveryTerminalRetry) : Bool :=
  match terminalRetry.observationReceipt with
  | none => false
  | some observation =>
    decide (entry.startStatus = .startFailed ∧
      (entry.persistedRunId = none ∨ entry.persistedRunId = some "") ∧
      field? observation "workflow_found" = some (.bool true) ∧
      stringField? observation "stage_run_id" = some stageRunId ∧
      stringField? observation "workflow_id" = some workflowId ∧
      stringField? observation "recovery_id" = some entry.recoveryId ∧
      stringField? observation "first_execution_run_id" = some terminalRetry.recoveryRunId ∧
      stringField? observation "workflow_status" = some terminalRetry.workflowStatus)

/-- A snapshot for the reviewer where there was none. -/
def recoveryEntryCanEnrichReviewerSnapshot (stageRunId workflowId : String)
    (entry : StageRunRecoveryRun) (recovery : JsonRecord)
    (terminalRetry : StageRunRecoveryTerminalRetry) : Checked Bool := do
  let previous := entry.recoveryResume
  let snapshot := "review_input_snapshot_materialization_request"
  let identity := without [snapshot, "quality_debt_refs"]
  if stringField? recovery "recovery_id" ≠ some entry.recoveryId then return false
  if stringField? recovery "quality_cycle_id" ≠ some entry.qualityCycleId then return false
  let producerAttemptRef ← recoveryArtifactProducerAttemptRef recovery
  return decide (entry.producerAttemptRef = producerAttemptRef ∧
      present? (field? previous snapshot) = none ∧
      ((field? recovery snapshot).bind asRecord?).isSome = true) &&
    sameText platform (.object (identity previous)) (.object (identity recovery)) &&
    recoveryQualityDebtRefsCanAdvance previous recovery &&
    terminalTemporalRecoveryStatus terminalRetry.workflowStatus &&
    (decide (entry.startStatus = .started ∧
        entry.persistedRunId = some terminalRetry.recoveryRunId) ||
      terminalObservationMatchesFailedStart stageRunId workflowId entry terminalRetry)

/-- The quality cycle in what an attempt of the ledger has handed in. -/
def LedgerAttempt.quality? (attempt : LedgerAttempt) : Option JsonRecord :=
  (field? attempt.routeImpact "stage_quality_cycle").bind asRecord?

/-- The map that the owner of the repair has handed in. -/
def recoveryEntryCanRestoreOwnerRepairMap (ledger : List LedgerAttempt) (stageRunId : String)
    (entry : StageRunRecoveryRun) (recovery : JsonRecord)
    (terminalRetry : StageRunRecoveryTerminalRetry) : Checked Bool := do
  if retriesRecordedRun entry terminalRetry = false ∨
      stringField? recovery "resume_after_role" ≠ some "repairer" ∨
      recoveryResumeChangedFields platform entry.recoveryResume recovery ≠ ["repair_map"] then
    return false
  let producerRef ← recoveryArtifactProducerAttemptRef recovery
  let quality := ((getStageAttemptRow ledger (stageAttemptIdOf producerRef)).filter fun producer =>
    producer.stageRunId = some stageRunId ∧ producer.attemptRole = "repairer").bind
      LedgerAttempt.quality?
  match quality with
  | none => return false
  | some quality =>
    return decide (arrayField quality "repair_map" ≠ []) &&
      sameText platform ((field? quality "repair_map").getD .null)
        ((field? recovery "repair_map").getD .null)

/-- More debts, nothing else. -/
def recoveryEntryCanAppendQualityDebtRefs (entry : StageRunRecoveryRun) (recovery : JsonRecord)
    (terminalRetry : StageRunRecoveryTerminalRetry) : Checked Bool := do
  if retriesRecordedRun entry terminalRetry = false then return false
  if stringField? recovery "recovery_id" ≠ some entry.recoveryId then return false
  if stringField? recovery "quality_cycle_id" ≠ some entry.qualityCycleId then return false
  let producerAttemptRef ← recoveryArtifactProducerAttemptRef recovery
  return decide (entry.producerAttemptRef = producerAttemptRef ∧
      recoveryResumeChangedFields platform entry.recoveryResume recovery =
        ["quality_debt_refs"] ∧
      (stringsField entry.recoveryResume "quality_debt_refs").length <
        (stringsField recovery "quality_debt_refs").length) &&
    recoveryQualityDebtRefsCanAdvance entry.recoveryResume recovery

/-- The hashes of an artifact list without their notation. -/
def comparableHashes (value : Option Json) : Json :=
  match value with
  | some (.array hashes) => .array (hashes.map fun hash => .string (withoutFront "sha256:"
      (match hash with
        | .string text => text
        | other => platform.textOf other)))
  | _ => .null

def artifactLists : List String :=
  ["artifact_refs", "artifact_hashes", "artifact_identity_receipt_refs"]

/-- What a producer snapshot may not change about a recovery. -/
def producerIdentity (recovery : JsonRecord) : JsonRecord :=
  without (artifactLists ++ ["recovery_id", "review_input_snapshot_materialization_request",
      "producer_attempt_summary"]) recovery ++
    [("producer_attempt_summary",
      match (field? recovery "producer_attempt_summary").bind asRecord? with
      | some summary => .object (without artifactLists summary)
      | none => .null)]

/-- Every artifact of a recovery is in the next one with its hash and receipt. -/
def artifactsKept (previous next : JsonRecord) : Bool :=
  (stringsField previous "artifact_refs").zipIdx.all fun (ref, index) =>
    match (stringsField next "artifact_refs").idxOf? ref with
    | none => false
    | some nextIndex => ["artifact_hashes", "artifact_identity_receipt_refs"].all fun field =>
      (stringsField previous field)[index]? == (stringsField next field)[nextIndex]?

def membersKept (before after : JsonRecord) : Bool :=
  (asRecordList (field? before "members")).all fun member =>
    (asRecordList (field? after "members")).any fun next =>
      ["source_ref", "sha256", "size_bytes"].all fun field =>
        decide (field? next field = field? member field)

/-- The snapshot that an accepted producer has handed in, before any review. -/
def recoveryEntryCanExtendAcceptedProducerSnapshot (ledger : List LedgerAttempt)
    (stageRunId : String) (entry : StageRunRecoveryRun) (recovery : JsonRecord)
    (terminalRetry : StageRunRecoveryTerminalRetry) : Checked Bool := do
  let previous := entry.recoveryResume
  let snapshot := "review_input_snapshot_materialization_request"
  if retriesRecordedRun entry terminalRetry = false ∨
      (stringField? previous "resume_after_role").isSome = true ∨
      (stringField? recovery "resume_after_role").isSome = true ∨
      present? (field? previous snapshot) = none ∨ present? (field? recovery snapshot) = none ∨
      stringField? recovery "quality_cycle_id" ≠ some entry.qualityCycleId ∨
      stringField? recovery "producer_attempt_ref" ≠ some entry.producerAttemptRef then
    return false
  let before ← platform.normalizeReviewerInputSnapshotRequest (field? previous snapshot)
  let after ← platform.normalizeReviewerInputSnapshotRequest (field? recovery snapshot)
  let producer? := (getStageAttemptRow ledger (stageAttemptIdOf entry.producerAttemptRef)).filter
    fun producer => producer.stageRunId = some stageRunId ∧ producer.attemptRole = "producer" ∧
      producer.status = "completed" ∧
      producer.closeoutReceiptStatus = some "accepted_typed_closeout"
  match producer? with
  | none => return false
  | some producer =>
    if ∃ attempt ∈ ledger, attempt.stageRunId = some stageRunId ∧
        attempt.stageAttemptId ≠ producer.stageAttemptId then
      return false
    match producer.quality? with
    | none => return false
    | some quality =>
      let snapshotIdentity := without ["owner_authority_ref", "members"]
      return sameText platform ((field? quality snapshot).getD .null) (.object after) &&
        sameField platform "artifact_refs" quality recovery &&
        sameText platform (comparableHashes platform (field? quality "artifact_hashes"))
          (comparableHashes platform (field? recovery "artifact_hashes")) &&
        sameField platform "artifact_identity_receipt_refs" quality recovery &&
        sameText platform (.object (producerIdentity previous))
          (.object (producerIdentity recovery)) &&
        sameText platform (.object (snapshotIdentity before))
          (.object (snapshotIdentity after)) &&
        artifactsKept previous recovery && membersKept before after

end Predicates

end OnePersonLab.Stage

import OnePersonLab.Attempt.CloseoutIngest

/-!
# Terminal observations of a workflow

What a query of a finished workflow does to the row of its attempt. The observation and
the row choose one of eight exits; each of them is an ingest, a write of the row or
nothing. The linked tasks and the domain route follow the row and do not write it.
-/

namespace OnePersonLab.Attempt

open Contract Stage

/-! ## Observations -/

/-- An activity event, as far as its session and its cost are read. -/
structure ActivityEvent where
  activityKind : Option String
  executionSessionRef : Option String
  threadId : Option String
  costSummary : Option CostSummary
  deriving DecidableEq

/-- `TemporalStageAttemptWorkflowState`, as far as the ledger reads it. -/
structure TemporalQuery where
  stageRunId : Option String
  executionScope : Option ScopeSnapshot
  status : StageAttemptStatus
  activityEvents : List ActivityEvent
  closeoutRefs : List String
  consumedRefs : List String
  consumedMemoryRefs : List String
  writebackReceiptRefs : List String
  rejectedWrites : List JsonRecord
  nextOwner : Option String
  routeImpact : JsonRecord
  closeoutPacket : Option JsonRecord
  providerCompleted : Bool
  domainReadyVerdict : Option String
  deriving DecidableEq

/-- `TemporalStageAttemptTerminalObservation`. -/
structure TemporalObservation where
  stageAttemptId : String
  workflowId : String
  workflowStatus : Option String
  query : Option TemporalQuery
  deriving DecidableEq

/-! ## Hard stops -/

def hardStopReasonExact : List String :=
  ["codex_cli_activity_cancelled", "codex_cli_provider_unavailable",
    "codex_cli_workspace_root_missing", "local_sandbox_workspace_transport_missing",
    "operator_cancel_requested", "temporal_workflow_canceled",
    "typed_closeout_stage_attempt_id_mismatch", "artifact_byte_identity_mismatch",
    "artifact_ref_unreadable"]

def hardStopReasonParts : List String :=
  ["authority_violation", "credential", "executor_unavailable", "forbidden_write",
    "human_decision", "human_gate", "identity_mismatch", "irreversible", "permission",
    "security", "unsafe", "wrong_target"]

/-- `text.includes(part)`. -/
def includes (text part : String) : Bool :=
  (characters text).tails.any fun rest => (characters part).isPrefixOf rest

/-- `isRuntimeHardStopReason`. -/
def isRuntimeHardStopReason (reason : String) : Bool :=
  let normalized := toLowerCase (trim reason)
  hardStopReasonExact.contains normalized || hardStopReasonParts.any (includes normalized ·)

/-! ## Refs of diagnostics -/

def isUriUnreserved (c : Char) : Bool :=
  ('A' ≤ c && c ≤ 'Z') || ('a' ≤ c && c ≤ 'z') || ('0' ≤ c && c ≤ '9') ||
    ['-', '_', '.', '!', '~', '*', '\'', '(', ')'].contains c

def upperHexDigit (value : Nat) : Char :=
  if value < 10 then Char.ofNat (0x30 + value) else Char.ofNat (0x37 + value)

/-- `encodeURIComponent`. -/
def encodeURIComponent (text : String) : String :=
  String.ofList ((characters text).flatMap fun c =>
    if isUriUnreserved c then [c]
    else (String.utf8EncodeChar c).flatMap fun byte =>
      ['%', upperHexDigit (byte.toNat / 16), upperHexDigit (byte.toNat % 16)])

def noOutputDiagnosticRef (stageAttemptId : String) : String :=
  s!"opl://stage-attempts/{stageAttemptId}/no-output-diagnostic"

def failureDiagnosticRef (stageAttemptId : String) : String :=
  s!"opl://stage-attempts/{stageAttemptId}/failure-diagnostic"

def qualityDebtDiagnosticRef (stageAttemptId reason : String) : String :=
  s!"opl://stage-attempts/{stageAttemptId}/quality-debt-diagnostics/{encodeURIComponent reason}"

/-! ## Reading an observation -/

namespace TemporalObservation

variable (observation : TemporalObservation)

def queryStatus : Option StageAttemptStatus := observation.query.map TemporalQuery.status

/-- `executionSessionRefFromObservation`: the latest event that names a session. -/
def executionSessionRef : Option String :=
  ((observation.query.map TemporalQuery.activityEvents).getD []).reverse.findSome? fun event =>
    if event.activityKind = some "codex_stage_activity" then
      (trimmedText event.executionSessionRef).or
        ((trimmedText event.threadId).map fun thread => s!"codex://threads/{thread}")
    else none

/-- `latestActivityCostSummaryFromTemporalObservation`. -/
def costSummary : Option CostSummary :=
  (((observation.query.map TemporalQuery.activityEvents).getD []).filterMap
    ActivityEvent.costSummary).getLast?

/-- `temporalTerminalFailureReason`. -/
def failureReason : Option String :=
  if observation.workflowStatus = some "FAILED" then some "temporal_workflow_failed"
  else if observation.workflowStatus = some "TIMED_OUT" then some "temporal_workflow_timed_out"
  else if observation.workflowStatus = some "CANCELED" ∨
      observation.workflowStatus = some "CANCELLED" then some "temporal_workflow_canceled"
  else if observation.queryStatus = some .failed then some "temporal_stage_attempt_query_failed"
  else none

def closeoutPacket : JsonRecord := (observation.query.bind TemporalQuery.closeoutPacket).getD []

/-- `temporalNonCompletionBlocker`. -/
def nonCompletionBlocker : Option String :=
  if observation.queryStatus = some .blocked then
    some ((textField? observation.closeoutPacket "blocked_reason").getD
      "temporal_stage_attempt_not_completed")
  else none

/-- A completed reviewer without an outcome. -/
def missingReviewOutcome (row : AttemptRow) : Bool :=
  row.reviews && observation.queryStatus = some .completed &&
    (stringField? (asRecord (field? (asRecord (field? observation.closeoutPacket "route_impact"))
      "stage_quality_cycle")) "outcome").isNone

/-- The blocker of an observation of a row. -/
def blocker (row : AttemptRow) : Option String :=
  if observation.missingReviewOutcome row then some "stage_quality_review_outcome_missing"
  else observation.nonCompletionBlocker

/-- The workflow and its query have completed. -/
def completed : Bool :=
  observation.workflowStatus = some "COMPLETED" && observation.queryStatus = some .completed

/-- What a row records of an observation. -/
def recorded (reason : String) : TerminalObservation where
  source := "temporal_stage_attempt_query"
  workflowStatus := observation.workflowStatus
  queryStatus := observation.queryStatus
  reason := reason
  closeoutRefs := none
  progressDiagnosticRef := none

end TemporalObservation

/-! ## Packets that the framework builds -/

/-- A packet of the framework for an attempt: no metadata, no log, no usage. -/
def frameworkPacket (opl : String) (closeoutRefs : List String) (nextOwner : Option String)
    (routeImpact : JsonRecord) : SentPacket where
  surfaceKind := some "stage_attempt_closeout_packet"
  stageAttemptId := none
  stageRunId := none
  idempotencyKey := none
  closeoutId := none
  scopeDigest := none
  executionScope := none
  closeoutRefs := some (Json.ofStrings closeoutRefs)
  closeoutRefMetadata := none
  closeoutRef := none
  receiptRef := none
  packetRef := none
  consumedRefs := some (.array [])
  consumedMemoryRefs := some (.array [])
  writebackReceiptRefs := some (.array [])
  rejectedWrites := some (.array [])
  domainOutput := none
  nextOwner := nextOwner
  domainReadyVerdict := none
  tokenUsage := none
  usageRefs := none
  sessionUsageRefs := none
  costSummary := none
  userStageLog := none
  stageLogSummary := none
  humanStageLog := none
  routeImpact := some routeImpact
  authorityBoundary := some
    [("opl", .string opl), ("domain", .string "truth_quality_artifact_gate_owner")]

/-- `terminalObservationCloseoutIdentity`. -/
def SentPacket.withIdentity (packet : SentPacket) (observation : TemporalObservation) :
    SentPacket :=
  let scope := observation.query.bind TemporalQuery.executionScope
  { packet with
    stageAttemptId := some observation.stageAttemptId
    stageRunId := (observation.query.bind TemporalQuery.stageRunId).filter (· ≠ "")
    executionScope := scope.map .snapshot
    scopeDigest := scope.map ScopeSnapshot.scopeDigest }

/-- `stringList` of `json-record.ts`: the trimmed texts that are not blank. -/
def textList (values : List String) : List String := values.filterMap fun value =>
  trimmedText (some value)

/-- `blockedCloseoutProjectionFromTemporalObservation`: the query of a blocked workflow that
carries closeout refs. -/
def blockedCloseoutProjection (observation : TemporalObservation) : Option TemporalQuery :=
  observation.query.filter fun query =>
    query.status = .blocked && textList query.closeoutRefs ≠ []

/-- Object spread of a record into another one. -/
def spread (record added : JsonRecord) : JsonRecord :=
  added.foldl (fun record field => setField record field.1 field.2) record

/-- `progressDiagnosticPacketFromTemporalBlocker`. -/
def progressDiagnosticPacket (observation : TemporalObservation) (row : AttemptRow)
    (blocker : String) : SentPacket :=
  let projected := blockedCloseoutProjection observation
  let diagnosticRef := qualityDebtDiagnosticRef observation.stageAttemptId blocker
  let refs := fun read => some (Json.ofStrings (((projected.map read).map textList).getD []))
  let packet := frameworkPacket "provider_quality_debt_diagnostic_projection_only"
    (((projected.map fun query => textList query.closeoutRefs).getD [] ++ [diagnosticRef]).eraseDups)
    (some row.domainId)
    (spread ((projected.map TemporalQuery.routeImpact).getD [])
      [("progression_effect", .string "next_stage_may_start"),
        ("quality_debt_refs", Json.ofStrings [diagnosticRef]),
        ("provider_quality_debt_reason", .string blocker),
        ("provider_quality_debt_diagnostic_ref", .string diagnosticRef)])
  { packet.withIdentity observation with
    consumedRefs := refs TemporalQuery.consumedRefs
    consumedMemoryRefs := refs TemporalQuery.consumedMemoryRefs
    writebackReceiptRefs := refs TemporalQuery.writebackReceiptRefs }

/-- The packet for a failed workflow, which carries no identity. -/
def failureDiagnosticPacket (observation : TemporalObservation) (row : AttemptRow)
    (failureReason : String) : SentPacket :=
  let diagnosticRef := failureDiagnosticRef observation.stageAttemptId
  frameworkPacket "provider_failure_diagnostic_projection_only" [diagnosticRef] (some row.domainId)
    [("progression_effect", .string "next_stage_may_start"),
      ("quality_debt_refs", Json.ofStrings [diagnosticRef]),
      ("provider_failure_reason", .string failureReason),
      ("failure_diagnostic_ref", .string diagnosticRef)]

/-- The refs that a completed query hands on. -/
def observedCloseoutRefs (query : TemporalQuery) : List String :=
  query.closeoutRefs.filter fun ref => trim ref ≠ ""

/-- The packet of a completed query, before it is read. -/
def completedPacket (observation : TemporalObservation) (query : TemporalQuery) : SentPacket :=
  let observed := observedCloseoutRefs query
  let diagnosticRef := noOutputDiagnosticRef observation.stageAttemptId
  let receipt := query.closeoutPacket.getD []
  let packet := frameworkPacket "temporal_closeout_transport_projection_only"
    (if observed ≠ [] then observed else [diagnosticRef]) query.nextOwner
    (if observed ≠ [] then query.routeImpact
     else spread query.routeImpact
      [("progression_effect", .string "next_stage_may_start"),
        ("quality_debt_refs", Json.ofStrings [diagnosticRef]),
        ("no_output_diagnostic_ref", .string diagnosticRef)])
  { packet.withIdentity observation with
    surfaceKind := some ((stringField? receipt "closeout_packet_surface_kind").getD
      (if observed ≠ [] then "domain_stage_closeout_packet" else "stage_attempt_closeout_packet"))
    consumedRefs := some (Json.ofStrings query.consumedRefs)
    consumedMemoryRefs := some (Json.ofStrings query.consumedMemoryRefs)
    writebackReceiptRefs := some (Json.ofStrings query.writebackReceiptRefs)
    rejectedWrites := some (.array (query.rejectedWrites.map .object))
    domainReadyVerdict := query.domainReadyVerdict
    closeoutRefMetadata := field? receipt "closeout_ref_metadata"
    domainOutput := field? receipt "domain_output" }

/-- `closeoutPacketFromTemporalCompletedObservation`, before the packet is read. -/
def TemporalObservation.completedPacket? (observation : TemporalObservation) :
    Option SentPacket :=
  (observation.query.filter fun query => observation.completed && query.providerCompleted).map
    (completedPacket observation)

/-! ## Exits -/

/-- What an observation does to a row. -/
inductive TerminalExit where
  /-- The packet of a completed query is ingested. -/
  | ingestCompleted (packet : SentPacket)
  /-- A completed row that has recorded its observation. -/
  | alreadyRecorded
  /-- A completed row records the observation. -/
  | recordCompleted
  | ignore
  | ingestBlocker (blocker : String)
  | block (blocker : String)
  | ingestFailure (failureReason : String)
  | failRow (failureReason : String)
  deriving DecidableEq

/-- `rowHasCompletedTerminalObservation`. -/
def rowHasCompletedTerminalObservation (row : AttemptRow) : Bool :=
  row.providerRun.terminalObservation.any fun observation =>
    observation.source = "temporal_stage_attempt_query" &&
      observation.workflowStatus = some "COMPLETED" && observation.queryStatus = some .completed

/-- The packet read from a completed observation that the row may take. -/
def readCompletedPacket (row : AttemptRow) (observation : TemporalObservation) :
    Checked (Option (SentPacket × CloseoutPacket)) :=
  if observation.missingReviewOutcome row then .ok none
  else match observation.completedPacket? with
  | none => .ok none
  | some sent => do
    let packet ← normalizeTypedStageCloseoutPacket sent
    return some (sent, packet)

/-- A packet adds a ref to a completed row, and an outcome where the row needs one. -/
def replacesCloseout (row : AttemptRow) (packet : CloseoutPacket) : Bool :=
  packet.closeoutRefs.any (!row.closeoutRefs.contains ·) &&
    (!row.reviews || (stringField? (asRecord (field? (packet.routeImpact.getD [])
      "stage_quality_cycle")) "outcome").isSome)

/-- The exits of a row that is completed with a closeout. -/
def closedOutExit (row : AttemptRow) (observation : TemporalObservation)
    (completed : Option (SentPacket × CloseoutPacket)) : TerminalExit :=
  match completed.filter fun read => replacesCloseout row read.2 with
  | some (sent, _) => .ingestCompleted sent
  | none =>
    if rowHasCompletedTerminalObservation row = true ∧
        (observation.costSummary = none ∨ row.providerRun.costSummary ≠ none) then .alreadyRecorded
    else .recordCompleted

/-- The exits of any other row. -/
def openExit (row : AttemptRow) (observation : TemporalObservation)
    (completed : Option (SentPacket × CloseoutPacket)) : TerminalExit :=
  match completed with
  | some (sent, _) => .ingestCompleted sent
  | none =>
    match observation.blocker row with
    | some blocker =>
      if row.reviews = false ∧ isRuntimeHardStopReason blocker = false then .ingestBlocker blocker
      else if row.status ≠ .completed then .block blocker
      else match observation.failureReason with
      | none => .ignore
      | some failureReason =>
        if row.reviews = false ∧ failureReason ≠ "temporal_workflow_canceled" then
          .ingestFailure failureReason
        else .failRow failureReason
    | none =>
      match observation.failureReason with
      | none => .ignore
      | some failureReason =>
        if row.reviews = false ∧ failureReason ≠ "temporal_workflow_canceled" then
          .ingestFailure failureReason
        else .failRow failureReason

/-- The branch that `syncStageAttemptFromTemporalTerminalObservation` takes. -/
def terminalExit (row : AttemptRow) (observation : TemporalObservation) : Checked TerminalExit := do
  let completed ← readCompletedPacket row observation
  return if row.closedOut then closedOutExit row observation completed
    else openExit row observation completed

/-! ## Effects -/

/-- `providerRunWithTerminalCompletedObservation`. -/
def providerRunWithTerminalCompletedObservation (run : ProviderRun)
    (observation : TemporalObservation) : ProviderRun where
  providerStatus := "completed"
  costSummary := observation.costSummary.or run.costSummary
  terminalObservation := some (observation.recorded completedObservedReason)

/-- `mergeCloseoutRefs`. -/
def mergeCloseoutRefs (row : AttemptRow) (observation : TemporalObservation) : List String :=
  ((row.closeoutRefs.filter fun ref => trim ref ≠ "") ++
    (((blockedCloseoutProjection observation).map fun query =>
      textList query.closeoutRefs).getD [])).eraseDups

def blockedRow (row : AttemptRow) (observation : TemporalObservation) (blocker : String) :
    AttemptRow :=
  let projected := blockedCloseoutProjection observation
  { row with
    status := .blocked
    blockedReason := some blocker
    closeoutRefs := mergeCloseoutRefs row observation
    providerRun :=
      { row.providerRun with
        providerStatus := "blocked"
        terminalObservation := some
          { observation.recorded blocker with
            closeoutRefs := projected.map fun query => textList query.closeoutRefs } }
    routeImpact := spread row.routeImpact ((projected.map TemporalQuery.routeImpact).getD [])
    closeoutReceiptStatus := none }

def failedRow (row : AttemptRow) (observation : TemporalObservation) (failureReason : String) :
    AttemptRow :=
  { row with
    status := .failed
    blockedReason := some failureReason
    providerRun :=
      { row.providerRun with
        providerStatus :=
          if failureReason = "temporal_workflow_canceled" then "canceled" else "failed"
        terminalObservation := some (observation.recorded failureReason) }
    closeoutReceiptStatus := none }

/-- The provider run of a failed workflow replaces the one that the ingest has written. -/
def failureProviderRun (run : ProviderRun) (observation : TemporalObservation)
    (failureReason : String) : ProviderRun :=
  { run with
    providerStatus := "failed_with_progress_diagnostic"
    terminalObservation := some
      { observation.recorded failureReason with
        progressDiagnosticRef := some (failureDiagnosticRef observation.stageAttemptId) } }

/-- The effect of an exit. A failure leaves the ledger as it was. -/
def applyExit (texts : Texts) (ledger : Ledger) (observation : TemporalObservation) :
    TerminalExit → Checked Ledger
  | .ingestCompleted packet =>
    ingestStageAttemptCloseout texts ledger packet observation.costSummary
  | .alreadyRecorded | .ignore => .ok ledger
  | .recordCompleted =>
    .ok { ledger with
      row := { ledger.row with
        providerRun :=
          providerRunWithTerminalCompletedObservation ledger.row.providerRun observation } }
  | .ingestBlocker blocker =>
    ingestStageAttemptCloseout texts ledger (progressDiagnosticPacket observation ledger.row blocker)
      observation.costSummary
  | .block blocker => .ok { ledger with row := blockedRow ledger.row observation blocker }
  | .ingestFailure failureReason => do
    let ingested ← ingestStageAttemptCloseout texts ledger
      (failureDiagnosticPacket observation ledger.row failureReason) observation.costSummary
    return { ingested with
      row := { ingested.row with
        providerRun := failureProviderRun ledger.row.providerRun observation failureReason } }
  | .failRow failureReason => .ok { ledger with row := failedRow ledger.row observation failureReason }

/-- `persistExecutionSessionRef`. -/
def persistExecutionSessionRef (row : AttemptRow) (observation : TemporalObservation) :
    Checked AttemptRow :=
  match observation.executionSessionRef with
  | none => .ok row
  | some session =>
    if row.executionSessionRef ≠ none ∧ row.executionSessionRef ≠ some session then
      .error (.runtime "StageAttempt execution session drift.")
    else .ok { row with executionSessionRef := some session }

/-- The usage of an observation. -/
def persistObservedUsage (row : AttemptRow) (observation : TemporalObservation) :
    Checked AttemptRow :=
  if row.codexCli then
    persistStageAttemptUsageObservation row observation.costSummary
      (observation.executionSessionRef.or row.executionSessionRef)
  else .ok row

/-- The ledger after a call, and what the call has thrown. -/
structure Synced where
  ledger : Ledger
  thrown : Option Failure
  deriving DecidableEq

/-- A write of the row that goes on with the rest of the call. -/
def Synced.continue (ledger : Ledger) (written : Checked AttemptRow) (next : Ledger → Synced) :
    Synced :=
  match written with
  | .error failure => ⟨ledger, some failure⟩
  | .ok row => next { ledger with row := row }

/-- The last part of a call: one branch, which throws before it writes. -/
def settleObservation (texts : Texts) (observation : TemporalObservation) (ledger : Ledger) :
    Synced :=
  match terminalExit ledger.row observation >>= applyExit texts ledger observation with
  | .error failure => ⟨ledger, some failure⟩
  | .ok settled => ⟨settled, none⟩

/-- The observation is of the workflow of the row. -/
def concerns (row : AttemptRow) (observation : TemporalObservation) : Bool :=
  row.stageAttemptId = observation.stageAttemptId && row.temporal &&
    row.workflowId = observation.workflowId

/-- `syncStageAttemptFromTemporalTerminalObservation`. -/
def syncStageAttemptFromTemporalTerminalObservation (texts : Texts) (ledger : Ledger)
    (observation : TemporalObservation) : Synced :=
  if concerns ledger.row observation = false then ⟨ledger, none⟩
  else if ledger.row.scope = .unresolved then
    ⟨ledger, some (.contract "Identity-unresolved or quarantined runtime rows cannot cross an execution boundary.")⟩
  else
    .continue ledger (persistExecutionSessionRef ledger.row observation) fun ledger =>
      .continue ledger (persistObservedUsage ledger.row observation)
        (settleObservation texts observation)

/-! ## What a call changes -/

theorem persistExecutionSessionRef_ok {row written : AttemptRow}
    {observation : TemporalObservation}
    (persisted : persistExecutionSessionRef row observation = .ok written) :
    ∃ session, written = { row with executionSessionRef := session } := by
  unfold persistExecutionSessionRef at persisted
  cases named : observation.executionSessionRef with
  | none =>
    simp only [named, Except.ok.injEq] at persisted
    exact ⟨row.executionSessionRef, persisted.symm⟩
  | some session =>
    simp only [named] at persisted
    split at persisted
    · exact absurd persisted nofun
    · simp only [Except.ok.injEq] at persisted
      exact ⟨some session, persisted.symm⟩

theorem persistObservedUsage_ok {row written : AttemptRow} {observation : TemporalObservation}
    (persisted : persistObservedUsage row observation = .ok written) :
    ∃ session usage,
      written = { row with executionSessionRef := session, usageObservation := usage } := by
  unfold persistObservedUsage at persisted
  by_cases codex : row.codexCli = true
  · rw [if_pos codex] at persisted
    obtain ⟨session, usage, rfl⟩ := persistStageAttemptUsageObservation_ok persisted
    exact ⟨session, some usage, rfl⟩
  · rw [if_neg codex] at persisted
    simp only [Except.ok.injEq] at persisted
    exact ⟨row.executionSessionRef, row.usageObservation, persisted.symm⟩

/-- The ledger with another session and usage of its row. -/
def Ledger.noted (ledger : Ledger) (session : Option String) (usage : Option UsageObservation) :
    Ledger :=
  { ledger with
    row := { ledger.row with executionSessionRef := session, usageObservation := usage } }

theorem Ledger.noted_fixed (ledger : Ledger) (session : Option String)
    (usage : Option UsageObservation) :
    (ledger.noted session usage).row.fixed = ledger.row.fixed := rfl

/-- A call notes the session and the usage and then settles, or it stops before. -/
inductive SyncCase (texts : Texts) (ledger : Ledger) (observation : TemporalObservation) :
    Synced → Prop where
  | stopped (session : Option String) (usage : Option UsageObservation) (thrown : Option Failure)
      (why : concerns ledger.row observation = false ∨ thrown ≠ none) :
      SyncCase texts ledger observation ⟨ledger.noted session usage, thrown⟩
  | settled (session : Option String) (usage : Option UsageObservation) (exit : TerminalExit)
      (settled : Ledger) (concerned : concerns ledger.row observation = true)
      (chosen : terminalExit ledger.row observation = .ok exit)
      (applied : applyExit texts (ledger.noted session usage) observation exit = .ok settled) :
      SyncCase texts ledger observation ⟨settled, none⟩

/-- The exit does not depend on the session and the usage. -/
theorem terminalExit_noted (ledger : Ledger) (session : Option String)
    (usage : Option UsageObservation) (observation : TemporalObservation) :
    terminalExit (ledger.noted session usage).row observation =
      terminalExit ledger.row observation := rfl

theorem settleObservation_case (texts : Texts) {ledger : Ledger} {observation : TemporalObservation}
    (concerned : concerns ledger.row observation = true) (session : Option String)
    (usage : Option UsageObservation) :
    SyncCase texts ledger observation
      (settleObservation texts observation (ledger.noted session usage)) := by
  unfold settleObservation
  rw [terminalExit_noted]
  cases chosen : terminalExit ledger.row observation with
  | error failure => exact .stopped session usage (some failure) (.inr (by simp))
  | ok exit =>
    simp only [bind, Except.bind]
    cases applied : applyExit texts (ledger.noted session usage) observation exit with
    | error failure => exact .stopped session usage (some failure) (.inr (by simp))
    | ok settled => exact .settled session usage exit settled concerned chosen applied

theorem syncStageAttempt_case (texts : Texts) (ledger : Ledger)
    (observation : TemporalObservation) :
    SyncCase texts ledger observation
      (syncStageAttemptFromTemporalTerminalObservation texts ledger observation) := by
  unfold syncStageAttemptFromTemporalTerminalObservation
  by_cases other : concerns ledger.row observation = false
  · rw [if_pos other]
    exact .stopped ledger.row.executionSessionRef ledger.row.usageObservation none (.inl other)
  · rw [if_neg other]
    by_cases unresolved : ledger.row.scope = .unresolved
    · rw [if_pos unresolved]
      exact .stopped ledger.row.executionSessionRef ledger.row.usageObservation _ (.inr (by simp))
    · rw [if_neg unresolved]
      cases attached : persistExecutionSessionRef ledger.row observation with
      | error failure =>
        exact .stopped ledger.row.executionSessionRef ledger.row.usageObservation _
          (.inr (by simp))
      | ok row =>
        obtain ⟨session, rfl⟩ := persistExecutionSessionRef_ok attached
        dsimp only [Synced.continue]
        cases measured : persistObservedUsage
            { ledger.row with executionSessionRef := session } observation with
        | error failure =>
          exact .stopped session ledger.row.usageObservation _ (.inr (by simp))
        | ok row =>
          obtain ⟨session, usage, rfl⟩ := persistObservedUsage_ok measured
          exact settleObservation_case texts (by simpa using other) session usage

/-- A closed-out row takes one of three exits. -/
theorem terminalExit_of_closedOut {row : AttemptRow} {observation : TemporalObservation}
    {exit : TerminalExit} (closed : row.closedOut = true)
    (chosen : terminalExit row observation = .ok exit) :
    (∃ packet, exit = .ingestCompleted packet) ∨ exit = .alreadyRecorded ∨
      exit = .recordCompleted := by
  unfold terminalExit at chosen
  simp only [bind_eq_ok, pure_eq_ok, closed, if_true] at chosen
  obtain ⟨completed, -, rfl⟩ := chosen
  unfold closedOutExit
  split
  · exact .inl ⟨_, rfl⟩
  · split
    · exact .inr (.inl rfl)
    · exact .inr (.inr rfl)

/-- What a row and an observation have in common when an exit is chosen. -/
inductive ExitCase (row : AttemptRow) (observation : TemporalObservation) : TerminalExit → Prop where
  | ingestCompleted (sent : SentPacket) (packet : CloseoutPacket)
      (read : readCompletedPacket row observation = .ok (some (sent, packet))) :
      ExitCase row observation (.ingestCompleted sent)
  | alreadyRecorded (closed : row.closedOut = true)
      (recorded : rowHasCompletedTerminalObservation row = true) :
      ExitCase row observation .alreadyRecorded
  | recordCompleted {completed : Option (SentPacket × CloseoutPacket)}
      (read : readCompletedPacket row observation = .ok completed) (closed : row.closedOut = true)
      (kept : (completed.filter fun read => replacesCloseout row read.2) = none) :
      ExitCase row observation .recordCompleted
  | ignore : ExitCase row observation .ignore
  | ingestBlocker (blocker : String) (read : readCompletedPacket row observation = .ok none)
      (blocked : observation.blocker row = some blocker) (produces : row.reviews = false)
      (soft : isRuntimeHardStopReason blocker = false) :
      ExitCase row observation (.ingestBlocker blocker)
  | block (blocker : String) (read : readCompletedPacket row observation = .ok none)
      (blocked : observation.blocker row = some blocker)
      (hard : ¬(row.reviews = false ∧ isRuntimeHardStopReason blocker = false)) :
      ExitCase row observation (.block blocker)
  | ingestFailure (failureReason : String)
      (read : readCompletedPacket row observation = .ok none)
      (failed : observation.failureReason = some failureReason) :
      ExitCase row observation (.ingestFailure failureReason)
  | failRow (failureReason : String) (read : readCompletedPacket row observation = .ok none)
      (failed : observation.failureReason = some failureReason)
      (hard : ¬(row.reviews = false ∧ failureReason ≠ "temporal_workflow_canceled"))
      (stopped : ∀ blocker ∈ observation.blocker row,
        ¬(row.reviews = false ∧ isRuntimeHardStopReason blocker = false)) :
      ExitCase row observation (.failRow failureReason)

variable {row : AttemptRow} {observation : TemporalObservation}

theorem closedOutExit_case {completed : Option (SentPacket × CloseoutPacket)}
    (closed : row.closedOut = true) (read : readCompletedPacket row observation = .ok completed) :
    ExitCase row observation (closedOutExit row observation completed) := by
  unfold closedOutExit
  cases kept : completed.filter fun read => replacesCloseout row read.2 with
  | some taken =>
    obtain ⟨same, -⟩ := Option.filter_eq_some_iff.1 kept
    rw [same] at read
    exact .ingestCompleted _ _ read
  | none =>
    dsimp only
    by_cases recorded : rowHasCompletedTerminalObservation row = true ∧
        (observation.costSummary = none ∨ row.providerRun.costSummary ≠ none)
    · rw [if_pos recorded]
      exact .alreadyRecorded closed recorded.1
    · rw [if_neg recorded]
      exact .recordCompleted read closed kept

theorem openExit_case {completed : Option (SentPacket × CloseoutPacket)}
    (read : readCompletedPacket row observation = .ok completed) :
    ExitCase row observation (openExit row observation completed) := by
  unfold openExit
  cases completed with
  | some taken => exact .ingestCompleted _ _ read
  | none =>
    cases blocked : observation.blocker row with
    | none =>
      cases failed : observation.failureReason with
      | none => exact .ignore
      | some failureReason =>
        dsimp only
        by_cases soft : row.reviews = false ∧ failureReason ≠ "temporal_workflow_canceled"
        · rw [if_pos soft]
          exact .ingestFailure _ read failed
        · rw [if_neg soft]
          exact .failRow _ read failed soft (by simp [blocked])
    | some blocker =>
      dsimp only
      by_cases soft : row.reviews = false ∧ isRuntimeHardStopReason blocker = false
      · rw [if_pos soft]
        exact .ingestBlocker _ read blocked soft.1 soft.2
      · rw [if_neg soft]
        by_cases live : row.status ≠ .completed
        · rw [if_pos live]
          exact .block _ read blocked soft
        · rw [if_neg live]
          cases failed : observation.failureReason with
          | none => exact .ignore
          | some failureReason =>
            dsimp only
            by_cases softFailure :
                row.reviews = false ∧ failureReason ≠ "temporal_workflow_canceled"
            · rw [if_pos softFailure]
              exact .ingestFailure _ read failed
            · rw [if_neg softFailure]
              refine .failRow _ read failed softFailure ?_
              intro other same
              rw [blocked] at same
              obtain rfl := Option.some.inj same
              exact soft

theorem terminalExit_case {exit : TerminalExit} (chosen : terminalExit row observation = .ok exit) :
    ExitCase row observation exit := by
  unfold terminalExit at chosen
  simp only [bind_eq_ok, pure_eq_ok] at chosen
  obtain ⟨completed, read, rfl⟩ := chosen
  by_cases closed : row.closedOut = true
  · rw [if_pos closed]
    exact closedOutExit_case closed read
  · rw [if_neg closed]
    exact openExit_case read

theorem applyExit_fixed {texts : Texts} {ledger settled : Ledger} {exit : TerminalExit}
    (applied : applyExit texts ledger observation exit = .ok settled) :
    settled.row.fixed = ledger.row.fixed := by
  cases exit with
  | ingestCompleted packet => exact (ingestStageAttemptCloseout_ok applied).fixed
  | ingestBlocker blocker => exact (ingestStageAttemptCloseout_ok applied).fixed
  | ingestFailure failureReason =>
    simp only [applyExit, bind_eq_ok, pure_eq_ok] at applied
    obtain ⟨ingested, taken, rfl⟩ := applied
    exact (ingestStageAttemptCloseout_ok taken).fixed
  | alreadyRecorded | ignore | recordCompleted | block _ | failRow _ =>
    simp only [applyExit, Except.ok.injEq] at applied
    subst applied
    rfl

theorem syncStageAttempt_fixed (texts : Texts) (ledger : Ledger)
    (observation : TemporalObservation) :
    (syncStageAttemptFromTemporalTerminalObservation texts ledger observation).ledger.row.fixed =
      ledger.row.fixed := by
  have case := syncStageAttempt_case texts ledger observation
  generalize syncStageAttemptFromTemporalTerminalObservation texts ledger observation = synced
    at case ⊢
  cases case with
  | stopped session usage thrown why => rfl
  | settled session usage exit settled concerned chosen applied =>
    exact (applyExit_fixed applied).trans (ledger.noted_fixed session usage)

end OnePersonLab.Attempt

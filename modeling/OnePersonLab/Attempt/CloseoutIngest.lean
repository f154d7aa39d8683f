import OnePersonLab.Attempt.CloseoutPacket

/-!
# The row of an attempt and the ingest of its closeouts

A packet that the attempt admits is stored under its id and completes the row. The
activity events, the times and the tables of tasks and events are left out: no later step
of the row reads them.
-/

namespace OnePersonLab.Attempt

open Contract Stage

/-! ## Rows -/

inductive AttemptStatus where
  | queued
  | running
  | checkpointed
  | blocked
  | humanGate
  | completed
  | failed
  | deadLettered
  deriving DecidableEq, Repr

inductive CloseoutReceiptStatus where
  | acceptedTypedCloseout
  | frameworkProgressEnvelope
  deriving DecidableEq, Repr

/-- `executorUsageObservationFromCostSummary`: the rank of an observation, what identifies
it, and the session that it names itself. -/
structure UsageObservation where
  priority : Nat
  idempotencyKey : String
  executionSessionRef : Option String
  deriving DecidableEq

/-- A cost summary, by the usage that it reports and the text of the rest. -/
structure CostSummary where
  usage : UsageObservation
  text : String
  deriving DecidableEq

/-- The reason that a completed observation is recorded with. -/
def completedObservedReason : String := "temporal_stage_attempt_completed_observed"

structure TerminalObservation where
  source : String
  workflowStatus : Option String
  queryStatus : Option StageAttemptStatus
  reason : String
  closeoutRefs : Option (List String)
  progressDiagnosticRef : Option String
  deriving DecidableEq

structure ProviderRun where
  providerStatus : String
  costSummary : Option CostSummary
  terminalObservation : Option TerminalObservation
  deriving DecidableEq

/-- A row of `stage_attempts`. -/
structure AttemptRow where
  stageAttemptId : String
  idempotencyKey : String
  temporal : Bool
  workflowId : String
  domainId : String
  stageId : String
  workspaceLocator : JsonRecord
  codexCli : Bool
  stageRunId : Option String
  scope : RowScope
  attemptRole : Option StageQualityAttemptRole
  qualityRoundIndex : Option Nat
  qualityContext : JsonRecord
  contextManifest : JsonRecord
  executionSessionRef : Option String
  usageObservation : Option UsageObservation
  status : AttemptStatus
  blockedReason : Option String
  closeoutRefs : List String
  humanGateRefs : List String
  providerRun : ProviderRun
  routeImpact : JsonRecord
  closeoutReceiptStatus : Option CloseoutReceiptStatus
  deriving DecidableEq

namespace AttemptRow

variable (row : AttemptRow)

def identity : AttemptIdentity where
  stageAttemptId := row.stageAttemptId
  idempotencyKey := row.idempotencyKey
  stageRunId := row.stageRunId
  scope := row.scope
  workspaceLocator := row.workspaceLocator
  routeImpact := row.routeImpact

/-- `stageAttemptToPayload`, as far as the route authority reads it. -/
def toRecord : JsonRecord :=
  [("stage_id", .string row.stageId),
    ("attempt_role", Json.ofOptionalString (row.attemptRole.map StageQualityAttemptRole.text)),
    ("quality_round_index", (row.qualityRoundIndex.map Json.ofNat).getD .null),
    ("quality_context", .object row.qualityContext),
    ("context_manifest", .object row.contextManifest)]

/-- The row is completed with a closeout. -/
def closedOut : Bool := row.status = .completed && row.closeoutReceiptStatus.isSome

def reviews : Bool := row.attemptRole = some .reviewer || row.attemptRole = some .reReviewer

end AttemptRow

/-- The id of a stored closeout: its own, or the digest of its parts. -/
inductive CloseoutId where
  | given (closeoutId : String)
  | derived (stageAttemptId : String) (surfaceKind : CloseoutSurface) (closeoutRefs : List String)
  deriving DecidableEq

/-- A row of `stage_attempt_closeouts`. -/
structure CloseoutRow where
  closeoutId : CloseoutId
  stageAttemptId : String
  packetJson : String
  deriving DecidableEq

/-- The row of one attempt, and the table of closeouts. -/
structure Ledger where
  row : AttemptRow
  closeouts : List CloseoutRow
  deriving DecidableEq

/-- `JSON.stringify` of a packet and `canonicalJsonText` of a route impact. -/
structure Texts where
  packetJson : CloseoutPacket → String
  canonicalJsonText : JsonRecord → String

/-! ## Usage -/

/-- The usage of an attempt whose executor reported no cost. -/
def missingUsage (stageAttemptId : String) : UsageObservation where
  priority := 10
  idempotencyKey := s!"stage_attempt:{stageAttemptId}#usage_observation"
  executionSessionRef := none

/-- `selectAuthoritativeObservation`. -/
def selectAuthoritativeObservation (existing : Option UsageObservation)
    (incoming : UsageObservation) : Checked UsageObservation :=
  match existing with
  | none => .ok incoming
  | some existing =>
    if existing.priority < incoming.priority then .ok incoming
    else if existing.idempotencyKey = incoming.idempotencyKey then .ok existing
    else if incoming.priority < existing.priority then .ok existing
    else fail "Stage attempt received conflicting authoritative usage observations."

/-- `persistStageAttemptUsageObservation`. -/
def persistStageAttemptUsageObservation (row : AttemptRow) (costSummary : Option CostSummary)
    (executionSessionRef : Option String) : Checked AttemptRow := do
  let session := (trimmedText executionSessionRef).or row.executionSessionRef
  ensure (∀ existing ∈ row.executionSessionRef, session = some existing)
    "Stage attempt execution session is immutable."
  let incoming := (costSummary.map CostSummary.usage).getD (missingUsage row.stageAttemptId)
  let named := incoming.executionSessionRef.or session
  ensure (∀ own ∈ named, ∀ expected ∈ session, own = expected)
    "Usage observation session does not match its stage attempt."
  let selected ← selectAuthoritativeObservation row.usageObservation
    { incoming with executionSessionRef := named }
  return { row with executionSessionRef := row.executionSessionRef.or session
                    usageObservation := some selected }

/-! ## Route impacts -/

/-- The text of a rejected route output. -/
def routeContract (reasons : List String) : Json :=
  .object [("authority_status", .string "route_output_rejected"),
    ("rejection_reasons", Json.ofStrings reasons)]

def StageRouteDecisionKind.text : StageRouteDecisionKind → String
  | .advance => "advance"
  | .skip => "skip"
  | .repeat_ => "repeat"
  | .reverse => "reverse"
  | .routeBack => "route_back"
  | .complete => "complete"

def decisionFields (decision : StageRouteDecision) : JsonRecord :=
  [("decision_kind", .string (StageRouteDecisionKind.text decision.decisionKind))] ++
    (decision.targetStageId.map fun target => ("target_stage_id", Json.string target)).toList ++
    [("evidence_refs", Json.ofStrings decision.evidenceRefs)]

/-- Set a field, or delete it when there is no value. -/
def putField (record : JsonRecord) (key : String) : Option Json → JsonRecord
  | some value => setField record key value
  | none => withoutFields record [key]

/-- `sanitizeStageQualityAttemptRouteImpact`. -/
def sanitizeStageQualityAttemptRouteImpact (attempt routeImpact : JsonRecord) : JsonRecord :=
  let kept := withoutFields routeImpact ["stage_route_contract"]
  if textField? attempt "attempt_role" = none ∧ hasRouteOutput routeImpact = false then kept
  else
    let evaluation := evaluateStageQualityAttemptRoute attempt routeImpact
    let reasons := evaluation.decisionRejectionReasons ++ evaluation.recommendationRejectionReasons
    let decided := putField (withoutFields kept legacyTerminalRouteFields) "stage_route_decision"
      (evaluation.decision.map fun decision => .object (decisionFields decision))
    let recommended := putField decided "stage_route_recommendation"
      (evaluation.recommendation.map fun recommendation => .object
        (decisionFields recommendation.toStageRouteDecision ++
          [("reason", .string recommendation.reason)]))
    if reasons = [] then recommended
    else setField recommended "stage_route_contract" (routeContract reasons.eraseDups)

/-- `normalizeRouteImpact` of `closeout-ingest.ts`. -/
def normalizeRouteImpact (packet : CloseoutPacket) (row : AttemptRow) : Checked JsonRecord := do
  let domainRouteImpact := withoutFields (packet.routeImpact.getD [])
    ["selected_action_id", "selected_stage_route"]
  let normalized := sanitizeStageQualityAttemptRouteImpact row.toRecord domainRouteImpact
  match row.attemptRole with
  | none => pure ()
  | some role =>
    let _ ← stageQualityAttemptOutcomeFromEnvelope role
      (asRecord (field? normalized "stage_quality_cycle"))
    pure ()
  let owned := setField normalized "next_owner" (Json.ofOptionalString packet.nextOwner)
  let judged := setField owned "domain_ready_verdict"
    (Json.ofOptionalString packet.domainReadyVerdict)
  let selected := (((stringField? row.routeImpact "selected_action_id").filter (· ≠ "")).map
    fun actionId => setField judged "selected_action_id" (.string actionId)).getD judged
  return (((field? row.routeImpact "selected_stage_route").bind asRecord?).map
    fun route => setField selected "selected_stage_route" (.object route)).getD selected

/-! ## Ingest -/

/-- The closeouts that only the framework has made, as far as the ledger recognises them. -/
def CloseoutPacket.marked (packet : CloseoutPacket) : Bool :=
  field? (packet.routeImpact.getD []) "framework_generated_envelope" = some (.bool true) ||
    field? packet.authorityBoundary "opl" =
      some (.string "raw_executor_output_progress_envelope_only") ||
    field? packet.authorityBoundary "opl" =
      some (.string "provider_quality_debt_diagnostic_projection_only")

def closeoutReceiptStatusForPacket (packet : CloseoutPacket) : CloseoutReceiptStatus :=
  if packet.marked then .frameworkProgressEnvelope else .acceptedTypedCloseout

/-- `attemptAlreadyAbsorbedCloseout`, for the route impact that the packet leads to. -/
def attemptAlreadyAbsorbedCloseout (texts : Texts) (row : AttemptRow) (packet : CloseoutPacket)
    (normalized : JsonRecord) : Bool :=
  packet.closeoutRefs.all (row.closeoutRefs.contains ·) &&
    texts.canonicalJsonText normalized = texts.canonicalJsonText row.routeImpact

/-- The row has taken the packet already. -/
def Absorbed (texts : Texts) (row : AttemptRow) (packet : CloseoutPacket) (normalized : JsonRecord)
    (costSummary : Option CostSummary) : Prop :=
  row.status = .completed ∧
    row.closeoutReceiptStatus = some (closeoutReceiptStatusForPacket packet) ∧
    attemptAlreadyAbsorbedCloseout texts row packet normalized = true ∧
    (costSummary = none ∨ row.providerRun.costSummary ≠ none)

instance (texts : Texts) (row : AttemptRow) (packet : CloseoutPacket) (normalized : JsonRecord)
    (costSummary : Option CostSummary) :
    Decidable (Absorbed texts row packet normalized costSummary) :=
  inferInstanceAs (Decidable (_ ∧ _ ∧ _ ∧ _))

def completedRow (row : AttemptRow) (packet : CloseoutPacket) (normalized : JsonRecord)
    (costSummary : Option CostSummary) : AttemptRow :=
  { row with
    status := .completed
    closeoutRefs := (row.closeoutRefs ++ packet.closeoutRefs).eraseDups
    blockedReason := none
    providerRun :=
      { row.providerRun with
        providerStatus := "completed"
        costSummary := costSummary.or row.providerRun.costSummary }
    routeImpact := normalized
    closeoutReceiptStatus := some (closeoutReceiptStatusForPacket packet) }

/-- `syncAttemptRowFromCloseout`, for the route impact that the packet leads to. -/
def syncAttemptRowFromCloseout (texts : Texts) (row : AttemptRow) (packet : CloseoutPacket)
    (normalized : JsonRecord) (costSummary : Option CostSummary) : AttemptRow :=
  if Absorbed texts row packet normalized costSummary then row
  else completedRow row packet normalized costSummary

def closeoutIdOf (stageAttemptId : String) (packet : CloseoutPacket) : CloseoutId :=
  match packet.closeoutId with
  | some closeoutId => .given closeoutId
  | none => .derived stageAttemptId packet.surfaceKind packet.closeoutRefs

def maxStageAttemptPersistedJsonBytes : Nat := 64 * 1024

/-- A stored closeout under the id of a packet is this packet of this attempt. -/
def CloseoutIdFree (closeouts : List CloseoutRow) (row : CloseoutRow) : Prop :=
  ∀ existing ∈ closeouts.find? (·.closeoutId = row.closeoutId), existing = row

instance (closeouts : List CloseoutRow) (row : CloseoutRow) :
    Decidable (CloseoutIdFree closeouts row) :=
  inferInstanceAs (Decidable (∀ existing ∈ closeouts.find? _, existing = row))

/-- The usage of an ingest. -/
def persistIngestedUsage (row : AttemptRow) (costSummary : Option CostSummary) :
    Checked AttemptRow :=
  if row.codexCli then
    persistStageAttemptUsageObservation row costSummary row.executionSessionRef
  else .ok row

/-- `ingestStageAttemptCloseout`. A failure leaves the ledger as it was. -/
def ingestStageAttemptCloseout (texts : Texts) (ledger : Ledger) (sent : SentPacket)
    (costSummary : Option CostSummary) : Checked Ledger := do
  let packet ← normalizeTypedStageCloseoutPacket sent
  ensure (validateCloseoutPacketForAttempt packet ledger.row.identity = .ok ())
    "StageAttempt closeout does not match the persisted execution identity."
  ensure (∀ output ∈ packet.domainOutput, output.domainId = ledger.row.domainId)
    "domain_output.domain_id must match the stage attempt domain."
  let normalized ← normalizeRouteImpact packet ledger.row
  let closeout : CloseoutRow :=
    ⟨closeoutIdOf ledger.row.stageAttemptId packet, ledger.row.stageAttemptId,
      texts.packetJson packet⟩
  ensure ((bytes closeout.packetJson).length ≤ maxStageAttemptPersistedJsonBytes)
    "stage_attempt_closeout.packet_json exceeds the persisted StageAttempt JSON byte limit."
  ensure (CloseoutIdFree ledger.closeouts closeout)
    "Stage closeout id already exists with a different typed closeout packet."
  let row ← persistIngestedUsage ledger.row costSummary
  return {
    row := syncAttemptRowFromCloseout texts row packet normalized costSummary
    closeouts := if ledger.closeouts.any (·.closeoutId = closeout.closeoutId) then
        ledger.closeouts
      else ledger.closeouts ++ [closeout] }

/-! ## What an ingest changes -/

/-- The columns that no call on the row writes. -/
structure FixedColumns where
  stageAttemptId : String
  workflowId : String
  temporal : Bool
  codexCli : Bool
  stageRunId : Option String
  scope : RowScope
  attemptRole : Option StageQualityAttemptRole

def AttemptRow.fixed (row : AttemptRow) : FixedColumns where
  stageAttemptId := row.stageAttemptId
  workflowId := row.workflowId
  temporal := row.temporal
  codexCli := row.codexCli
  stageRunId := row.stageRunId
  scope := row.scope
  attemptRole := row.attemptRole

section

variable {costSummary : Option CostSummary}

theorem persistStageAttemptUsageObservation_ok {row written : AttemptRow}
    {executionSessionRef : Option String}
    (persisted :
      persistStageAttemptUsageObservation row costSummary executionSessionRef = .ok written) :
    ∃ session usage, written =
      { row with executionSessionRef := session, usageObservation := some usage } := by
  unfold persistStageAttemptUsageObservation at persisted
  simp only [bind_eq_ok, ensure_eq_ok, pure_eq_ok] at persisted
  obtain ⟨_, -, _, -, selected, -, rfl⟩ := persisted
  exact ⟨_, selected, rfl⟩

theorem persistIngestedUsage_ok {row written : AttemptRow}
    (persisted : persistIngestedUsage row costSummary = .ok written) :
    ∃ session usage,
      written = { row with executionSessionRef := session, usageObservation := usage } := by
  unfold persistIngestedUsage at persisted
  by_cases codex : row.codexCli = true
  · rw [if_pos codex] at persisted
    obtain ⟨session, usage, rfl⟩ := persistStageAttemptUsageObservation_ok persisted
    exact ⟨session, some usage, rfl⟩
  · rw [if_neg codex] at persisted
    simp only [Except.ok.injEq] at persisted
    exact ⟨row.executionSessionRef, row.usageObservation, persisted.symm⟩

/-- What a successful ingest has read and written. -/
def Ingested (texts : Texts) (ledger : Ledger) (sent : SentPacket)
    (costSummary : Option CostSummary) (settled : Ledger) : Prop :=
  ∃ packet normalized row,
    normalizeTypedStageCloseoutPacket sent = .ok packet ∧
    normalizeRouteImpact packet ledger.row = .ok normalized ∧
    persistIngestedUsage ledger.row costSummary = .ok row ∧
    settled.row = syncAttemptRowFromCloseout texts row packet normalized costSummary

theorem ingestStageAttemptCloseout_ok {texts : Texts} {ledger settled : Ledger} {sent : SentPacket}
    (ingested : ingestStageAttemptCloseout texts ledger sent costSummary = .ok settled) :
    Ingested texts ledger sent costSummary settled := by
  unfold ingestStageAttemptCloseout at ingested
  simp only [bind_eq_ok, ensure_eq_ok, pure_eq_ok] at ingested
  obtain ⟨packet, read, _, -, _, -, normalized, routed, _, -, _, -, row, written, rfl⟩ := ingested
  exact ⟨packet, normalized, row, read, routed, written, rfl⟩

theorem closeoutReceiptStatusForPacket_eq (packet : CloseoutPacket) :
    closeoutReceiptStatusForPacket packet = .acceptedTypedCloseout ↔ packet.marked = false := by
  unfold closeoutReceiptStatusForPacket
  by_cases marked : packet.marked = true
  · simp [marked]
  · simp [marked]

end

section

variable (texts : Texts) (row : AttemptRow) (packet : CloseoutPacket) (normalized : JsonRecord)
  (costSummary : Option CostSummary)

/-- A row after a closeout is completed, with the status of the packet. -/
theorem syncAttemptRowFromCloseout_status :
    (syncAttemptRowFromCloseout texts row packet normalized costSummary).status = .completed ∧
    (syncAttemptRowFromCloseout texts row packet normalized costSummary).closeoutReceiptStatus =
      some (closeoutReceiptStatusForPacket packet) := by
  unfold syncAttemptRowFromCloseout
  by_cases absorbed : Absorbed texts row packet normalized costSummary
  · rw [if_pos absorbed]
    exact ⟨absorbed.1, absorbed.2.1⟩
  · rw [if_neg absorbed]
    exact ⟨rfl, rfl⟩

theorem syncAttemptRowFromCloseout_fixed :
    (syncAttemptRowFromCloseout texts row packet normalized costSummary).fixed = row.fixed := by
  unfold syncAttemptRowFromCloseout
  by_cases absorbed : Absorbed texts row packet normalized costSummary
  · rw [if_pos absorbed]
  · rw [if_neg absorbed]
    rfl

end

variable {texts : Texts} {ledger settled : Ledger} {sent : SentPacket}
  {costSummary : Option CostSummary}

theorem Ingested.fixed (ingested : Ingested texts ledger sent costSummary settled) :
    settled.row.fixed = ledger.row.fixed := by
  obtain ⟨packet, normalized, row, -, -, persisted, written⟩ := ingested
  obtain ⟨session, usage, rfl⟩ := persistIngestedUsage_ok persisted
  rw [written, syncAttemptRowFromCloseout_fixed]
  rfl

/-- The receipt status of a row follows the packet that it has taken. -/
theorem Ingested.receipt (ingested : Ingested texts ledger sent costSummary settled) :
    ∃ packet, normalizeTypedStageCloseoutPacket sent = .ok packet ∧
      settled.row.status = .completed ∧
      settled.row.closeoutReceiptStatus = some (closeoutReceiptStatusForPacket packet) := by
  obtain ⟨packet, normalized, row, read, -, -, written⟩ := ingested
  refine ⟨packet, read, ?_⟩
  rw [written]
  exact syncAttemptRowFromCloseout_status texts row packet normalized costSummary

theorem Ingested.closedOut (ingested : Ingested texts ledger sent costSummary settled) :
    settled.row.closedOut = true := by
  obtain ⟨packet, -, completed, received⟩ := ingested.receipt
  simp [AttemptRow.closedOut, completed, received]

end OnePersonLab.Attempt

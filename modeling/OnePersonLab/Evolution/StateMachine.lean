import OnePersonLab.Evolution.ProtocolValidation

/-!
# The run state machine

A Foundry run is a log of hash-chained events. The log is checked as a whole
each time it is read or extended, and the run's snapshot is folded from it.
-/

namespace OnePersonLab.Evolution

open Contract

inductive FoundryRunState where
  | accepted
  | designing
  | materializing
  | evaluating
  | evidenceReady
  | diagnosing
  | qualified
  | awaitingOwnerCanary
  | canary
  | awaitingOwnerActive
  | activating
  | completedActive
  | completedQualified
  | completedUnqualified
  | rejected
  | cancelled
  | failed
  | quarantined
  deriving DecidableEq, Repr

namespace FoundryRunState

def text : FoundryRunState → String
  | .accepted => "accepted"
  | .designing => "designing"
  | .materializing => "materializing"
  | .evaluating => "evaluating"
  | .evidenceReady => "evidence_ready"
  | .diagnosing => "diagnosing"
  | .qualified => "qualified"
  | .awaitingOwnerCanary => "awaiting_owner_canary"
  | .canary => "canary"
  | .awaitingOwnerActive => "awaiting_owner_active"
  | .activating => "activating"
  | .completedActive => "completed_active"
  | .completedQualified => "completed_qualified"
  | .completedUnqualified => "completed_unqualified"
  | .rejected => "rejected"
  | .cancelled => "cancelled"
  | .failed => "failed"
  | .quarantined => "quarantined"

/-- `FOUNDRY_TERMINAL_STATES`. -/
def terminal : FoundryRunState → Bool
  | .completedActive | .completedQualified | .completedUnqualified | .rejected | .cancelled
  | .failed | .quarantined => true
  | _ => false

/-- The states in which a run waits for its owner. -/
def awaitsOwner : FoundryRunState → Bool
  | .awaitingOwnerCanary | .awaitingOwnerActive => true
  | _ => false

def allowedTransitions : FoundryRunState → List FoundryRunState
  | .accepted => [.designing, .rejected, .cancelled, .failed, .quarantined]
  | .designing => [.materializing, .cancelled, .failed, .quarantined]
  | .materializing => [.evaluating, .cancelled, .failed, .quarantined]
  | .evaluating =>
    [.qualified, .evidenceReady, .completedUnqualified, .cancelled, .failed, .quarantined]
  | .evidenceReady => [.diagnosing, .completedUnqualified, .cancelled, .failed, .quarantined]
  | .diagnosing => [.materializing, .completedUnqualified, .cancelled, .failed, .quarantined]
  | .qualified =>
    [.canary, .awaitingOwnerCanary, .completedQualified, .cancelled, .failed, .quarantined]
  | .awaitingOwnerCanary => [.canary, .rejected, .cancelled]
  | .canary =>
    [.activating, .awaitingOwnerActive, .evidenceReady, .completedUnqualified, .cancelled,
      .failed, .quarantined]
  | .awaitingOwnerActive => [.activating, .rejected, .cancelled]
  | .activating => [.completedActive, .failed, .quarantined]
  | .completedActive | .completedQualified | .completedUnqualified | .rejected | .cancelled
  | .failed | .quarantined => []

theorem allowedTransitions_of_terminal {state : FoundryRunState} (ended : state.terminal = true) :
    state.allowedTransitions = [] := by
  cases state <;> first | rfl | cases ended

/-- The event type that reaches the state from anywhere. -/
def genericTerminalType : FoundryRunState → Option String
  | .cancelled => some "foundry_run_cancelled"
  | .failed => some "foundry_run_failed"
  | .quarantined => some "foundry_output_quarantined"
  | .rejected => some "owner_rejected"
  | _ => none

def eventTypesByTransition : FoundryRunState → FoundryRunState → List String
  | .accepted, .designing => ["design_started"]
  | .designing, .materializing => ["blueprint_admitted"]
  | .materializing, .evaluating => ["candidate_materialized"]
  | .evaluating, .qualified => ["candidate_qualified"]
  | .evaluating, .evidenceReady => ["evaluation_failed"]
  | .evaluating, .completedUnqualified => ["evolution_budget_exhausted"]
  | .evidenceReady, .diagnosing => ["diagnosis_started"]
  | .evidenceReady, .completedUnqualified => ["evolution_budget_exhausted"]
  | .diagnosing, .materializing => ["evolution_proposal_admitted"]
  | .diagnosing, .completedUnqualified => ["evolution_no_change"]
  | .qualified, .canary => ["canary_started"]
  | .qualified, .awaitingOwnerCanary => ["owner_canary_required"]
  | .qualified, .completedQualified => ["qualification_completed"]
  | .awaitingOwnerCanary, .canary => ["owner_approved"]
  | .canary, .activating => ["canary_passed"]
  | .canary, .awaitingOwnerActive => ["canary_passed"]
  | .canary, .evidenceReady => ["canary_regression_rolled_back"]
  | .canary, .completedUnqualified => ["evolution_budget_exhausted"]
  | .awaitingOwnerActive, .activating => ["owner_approved"]
  | .activating, .completedActive => ["activation_completed"]
  | _, _ => []

end FoundryRunState

structure FoundryRunEvent where
  eventId : String
  runId : String
  revision : Nat
  eventType : String
  fromState : Option FoundryRunState
  toState : FoundryRunState
  occurredAt : String
  idempotencyKey : String
  previousEventHash : Option String
  payload : JsonRecord
  eventHash : String
  deriving DecidableEq

/-- The event without its own hash. -/
def FoundryRunEvent.base (event : FoundryRunEvent) : JsonRecord := [
  ("surface_kind", .string "opl_foundry_run_event"),
  ("version", .string "opl-foundry-run-event.v1"),
  ("event_id", .string event.eventId),
  ("run_id", .string event.runId),
  ("revision", .ofNat event.revision),
  ("event_type", .string event.eventType),
  ("from_state", .ofOptionalString (event.fromState.map FoundryRunState.text)),
  ("to_state", .string event.toState.text),
  ("occurred_at", .string event.occurredAt),
  ("idempotency_key", .string event.idempotencyKey),
  ("previous_event_hash", .ofOptionalString event.previousEventHash),
  ("payload", .object event.payload)]

structure FoundryRunSnapshot where
  runId : String
  targetAgentId : String
  targetDomainId : String
  requestDigest : String
  activationRevisionAtStart : Nat
  state : FoundryRunState
  revision : Nat
  generation : Nat
  blueprintDigest : Option String
  previousBlueprintDigest : Option String
  candidateDigest : Option String
  candidateRecordDigest : Option String
  evidenceDigest : Option String
  frozenTestPlanDigest : Option String
  proposalDigest : Option String
  versionDigest : Option String
  riskTier : Option FoundryRiskTier
  gateScore : Option ℚ
  noImprovementGenerations : Nat
  lastEventHash : String
  createdAt : String
  updatedAt : String
  deriving DecidableEq

/-! ## Transitions -/

def assertFoundryTransition (before after : FoundryRunState) : Checked Unit :=
  ensure (after ∈ before.allowedTransitions)
    s!"FoundryRun transition {before.text} -> {after.text} is not allowed."

def assertFoundryEventTransition (event : FoundryRunEvent) : Checked Unit :=
  match event.fromState with
  | none =>
    ensure (event.toState = .accepted ∧ event.eventType = "foundry_run_accepted")
      "FoundryRun first event must be the canonical acceptance event."
  | some before => do
    assertFoundryTransition before event.toState
    ensure (event.toState.genericTerminalType = some event.eventType ∨
        event.eventType ∈ before.eventTypesByTransition event.toState)
      "FoundryRun event type does not match its exact transition."

def acceptanceFields : List String :=
  ["activation_revision_at_start", "generation", "request_digest", "target_agent_id",
    "target_domain_id"]

/-- `typeof value === 'string' && value.length > 0`. -/
def nonEmptyText : Option Json → Bool
  | some (.string text) => text != ""
  | _ => false

/-- A number that is a non-negative safe integer. -/
def safeNatural : Option Json → Bool
  | some (.number value) => isSafeInteger value && decide (0 ≤ value)
  | _ => false

def digestText : Option Json → Bool
  | some (.string text) => isSha256Digest text
  | _ => false

def assertAcceptancePayload (event : FoundryRunEvent) : Checked Unit := do
  ensure ((event.payload.map Prod.fst).Perm acceptanceFields)
    "FoundryRun acceptance payload is open or incomplete."
  ensure (nonEmptyText (field? event.payload "target_agent_id") = true ∧
      nonEmptyText (field? event.payload "target_domain_id") = true ∧
      digestText (field? event.payload "request_digest") = true ∧
      safeNatural (field? event.payload "activation_revision_at_start") = true ∧
      field? event.payload "generation" = some (.number 0))
    "FoundryRun acceptance payload identity is invalid."

/-! ## Events -/

def eventHash (platform : Platform) (event : FoundryRunEvent) : String :=
  platform.digest (.object event.base)

structure FoundryEventInput where
  runId : String
  revision : Nat
  eventType : String
  fromState : Option FoundryRunState
  toState : FoundryRunState
  occurredAt : String
  idempotencyKey : String
  previousEventHash : Option String
  payload : JsonRecord

/-- The event of an input, its hash taken over the other fields. -/
def sealEvent (platform : Platform) (input : FoundryEventInput) : FoundryRunEvent :=
  let withoutHash : FoundryRunEvent := {
    eventId := s!"{input.runId}:{input.revision}"
    runId := input.runId
    revision := input.revision
    eventType := input.eventType
    fromState := input.fromState
    toState := input.toState
    occurredAt := input.occurredAt
    idempotencyKey := input.idempotencyKey
    previousEventHash := input.previousEventHash
    payload := input.payload
    eventHash := "" }
  { withoutHash with eventHash := eventHash platform withoutHash }

def buildFoundryEvent (platform : Platform) (input : FoundryEventInput) :
    Checked FoundryRunEvent := do
  match input.fromState with
  | some before => assertFoundryTransition before input.toState
  | none =>
    ensure (input.toState = .accepted ∧ input.revision = 1)
      "The first FoundryRun event must accept revision 1."
  return sealEvent platform input

/-! ## The chain -/

/-- One round of the loop of `verifyFoundryEventChain`, after the events before it. -/
def verifyFoundryEvent (platform : Platform) (earlier : List FoundryRunEvent)
    (event : FoundryRunEvent) : Checked Unit := do
  let previous := earlier.getLast?
  ensure (trim event.runId ≠ "" ∧ event.runId = (previous.map FoundryRunEvent.runId).getD event.runId)
    "FoundryRun event chain mixes run identities."
  ensure (event.eventId = s!"{event.runId}:{event.revision}")
    "FoundryRun event id is not canonical."
  ensure (event.revision ≤ maxSafeInteger ∧ 0 < event.revision)
    "FoundryRun event revision is invalid."
  ensure (trim event.eventType ≠ "") "FoundryRun event type is empty."
  ensure (trim event.idempotencyKey ≠ "") "FoundryRun event idempotency key is empty."
  ensure ((platform.dateParse event.occurredAt).map platform.toISOString = some event.occurredAt)
    "FoundryRun event timestamp is invalid."
  ensure (event.revision = (previous.map FoundryRunEvent.revision).getD 0 + 1)
    "FoundryRun event revisions are not contiguous."
  ensure (event.previousEventHash = previous.map FoundryRunEvent.eventHash)
    "FoundryRun event hash chain is broken."
  ensure (eventHash platform event = event.eventHash) "FoundryRun event hash is invalid."
  ensure (event.idempotencyKey ∉ earlier.map FoundryRunEvent.idempotencyKey)
    "FoundryRun event idempotency key is duplicated."
  match previous with
  | some previous =>
    ensure (event.fromState = some previous.toState)
      "FoundryRun event from_state does not match history."
    assertFoundryEventTransition event
  | none =>
    ensure (event.revision = 1 ∧ event.fromState = none)
      "FoundryRun first event must be the canonical acceptance event."
    assertFoundryEventTransition event
    assertAcceptancePayload event

def verifyFoundryEvents (platform : Platform) :
    (earlier rest : List FoundryRunEvent) → Checked Unit
  | _, [] => .ok ()
  | earlier, event :: rest => do
    verifyFoundryEvent platform earlier event
    verifyFoundryEvents platform (earlier ++ [event]) rest

def verifyFoundryEventChain (platform : Platform) (events : List FoundryRunEvent) :
    Checked Unit := do
  ensure (events ≠ []) "FoundryRun event chain must not be empty."
  verifyFoundryEvents platform [] events

/-- What an idempotent replay must agree on: everything but the time and the hash. -/
def FoundryRunEvent.sameLogicalEvent (left right : FoundryRunEvent) : Bool :=
  decide ({ left with occurredAt := right.occurredAt, eventHash := right.eventHash } = right)

def assertFoundryEventReplay (existing candidate : FoundryRunEvent) (expectedRevision : Nat) :
    Checked FoundryRunEvent := do
  ensure (existing.revision = expectedRevision + 1 ∧ candidate.revision = expectedRevision + 1)
    "FoundryRun event replay revision is inconsistent."
  ensure (existing.sameLogicalEvent candidate = true)
    "FoundryRun idempotency replay conflicts with immutable history."
  return existing

/-! ## The snapshot -/

/-- The payloads of the events in one record; a later payload hides an earlier one. -/
def accumulatedPayload (events : List FoundryRunEvent) : JsonRecord :=
  events.foldl (fun state event => event.payload ++ state) []

/-- `Number(value ?? 0)` of the naturals that the kernel writes. -/
def naturalField (record : JsonRecord) (key : String) : Nat :=
  match field? record key with
  | some (.number value) => value.num.toNat
  | _ => 0

def textField? (record : JsonRecord) (key : String) : Option String :=
  (field? record key).bind Json.asString?

def snapshotBetween (first last : FoundryRunEvent) (accumulated : JsonRecord) :
    FoundryRunSnapshot where
  runId := last.runId
  targetAgentId := (textField? first.payload "target_agent_id").getD ""
  targetDomainId := (textField? first.payload "target_domain_id").getD ""
  requestDigest := (textField? first.payload "request_digest").getD ""
  activationRevisionAtStart := naturalField first.payload "activation_revision_at_start"
  state := last.toState
  revision := last.revision
  generation := naturalField accumulated "generation"
  blueprintDigest := textField? accumulated "blueprint_digest"
  previousBlueprintDigest := textField? accumulated "previous_blueprint_digest"
  candidateDigest := textField? accumulated "candidate_digest"
  candidateRecordDigest := textField? accumulated "candidate_record_digest"
  evidenceDigest := textField? accumulated "evidence_digest"
  frozenTestPlanDigest := textField? accumulated "frozen_test_plan_digest"
  proposalDigest := textField? accumulated "proposal_digest"
  versionDigest := textField? accumulated "version_digest"
  riskTier := (textField? accumulated "risk_tier").bind FoundryRiskTier.ofText?
  gateScore := (field? accumulated "gate_score").bind Json.asNumber?
  noImprovementGenerations := naturalField accumulated "no_improvement_generations"
  lastEventHash := last.eventHash
  createdAt := first.occurredAt
  updatedAt := last.occurredAt

def snapshotFromEvents (platform : Platform) (events : List FoundryRunEvent) :
    Checked FoundryRunSnapshot :=
  match events with
  | [] => fail "FoundryRun requires at least one event."
  | first :: rest => do
    verifyFoundryEventChain platform (first :: rest)
    return snapshotBetween first ((first :: rest).getLast (by simp))
      (accumulatedPayload (first :: rest))

end OnePersonLab.Evolution

import Mathlib.Algebra.Field.Rat
import OnePersonLab.Contract.Json
import OnePersonLab.Lib.StableSort

/-!
# The StageRun read model

The read model of the StageRuns is rebuilt from their events. Of every StageRun only the events
of the greatest generation count, in the order of their times and ids. An event that another
party may not have caused is not projectable: it gives the run no status and no receipt.
-/

namespace OnePersonLab.StageRunKernel

open Contract
open Lib

/-! ## Events -/

inductive StageRunEventKind where
  | stageRunDeclared
  | inputsReady
  | stageContextObserved
  | providerRunning
  | providerCompleted
  | ownerReceiptObserved
  | typedBlockerObserved
  | humanDecisionRequired
  | externalResourceRequired
  | retryScheduled
  | infrastructureCrashed
  | superseded
  | nextStageReady
  | artifactRefObserved
  | holdProjected
  /-- A text that names no kind; the kernel does not check it. -/
  | unknown (text : String)
  deriving DecidableEq, Repr

def StageRunEventKind.ofText : String → StageRunEventKind
  | "stage_run_declared" => .stageRunDeclared
  | "inputs_ready" => .inputsReady
  | "stage_context_observed" => .stageContextObserved
  | "provider_running" => .providerRunning
  | "provider_completed" => .providerCompleted
  | "owner_receipt_observed" => .ownerReceiptObserved
  | "typed_blocker_observed" => .typedBlockerObserved
  | "human_decision_required" => .humanDecisionRequired
  | "external_resource_required" => .externalResourceRequired
  | "retry_scheduled" => .retryScheduled
  | "infrastructure_crashed" => .infrastructureCrashed
  | "superseded" => .superseded
  | "next_stage_ready" => .nextStageReady
  | "artifact_ref_observed" => .artifactRefObserved
  | "hold_projected" => .holdProjected
  | text => .unknown text

inductive StageRunStatus where
  | declared
  | inputsReady
  | contextObserved
  | running
  | terminalizing
  | domainAccepted
  | nextStageReady
  | needsHumanDecision
  | needsExternalResource
  | retryScheduled
  | typedBlocked
  | infrastructureCrashed
  | superseded
  deriving DecidableEq, Repr

/-- An event: what was given, with the fields that are checked. -/
structure StageRunEvent where
  input : JsonRecord
  eventId : String
  eventKind : StageRunEventKind
  stageRunId : String
  generation : Nat
  observedAt : String
  deriving DecidableEq

def forbiddenBodyFields : List String :=
  ["artifact_body", "memory_body", "domain_truth_body", "owner_receipt_body",
    "typed_blocker_body", "publication_verdict_body", "quality_verdict_body", "manuscript_body",
    "grant_package_body", "visual_package_body"]

def forbiddenAuthorityFields : List String :=
  ["publication_verdict", "quality_verdict", "domain_ready", "production_ready",
    "owner_receipt_signed_by_opl", "typed_blocker_created_by_opl"]

/-- `typeof value === 'string' && value.trim().length > 0 ? value.trim() : null`. -/
def optionalRef : Option Json → Option String
  | some (.string text) => if trim text = "" then none else some (trim text)
  | _ => none

def requiredString (value : Option Json) (field : String) : Checked String :=
  match optionalRef value with
  | some text => .ok text
  | none => fail s!"StageRun event requires {field}."

def requiredGeneration : Option Json → Checked Nat
  | some (.number value) =>
    if value.isInt ∧ 0 ≤ value then .ok value.num.toNat
    else fail "StageRun event requires non-negative integer generation."
  | _ => fail "StageRun event requires non-negative integer generation."

def rejectForbiddenPayloads (input : JsonRecord) : Checked Unit := do
  ensure (∀ field ∈ input, field.1 ∉ forbiddenBodyFields)
    "forbidden_body_payload: StageRun event cannot include body payloads."
  ensure (∀ field ∈ input, field.1 ∉ forbiddenAuthorityFields)
    "forbidden_domain_authority: StageRun event cannot include domain authority verdict fields."

def eventOfRecord (input : JsonRecord) : Checked StageRunEvent := do
  rejectForbiddenPayloads input
  let eventId ← requiredString (field? input "event_id") "event_id"
  let eventKind ← requiredString (field? input "event_kind") "event_kind"
  let stageRunId ← requiredString (field? input "stage_run_id") "stage_run_id"
  let generation ← requiredGeneration (field? input "generation")
  let observedAt ← requiredString (field? input "observed_at") "observed_at"
  return {
    input
    eventId
    eventKind := .ofText eventKind
    stageRunId
    generation
    observedAt }

def stageRunEvent : Json → Checked StageRunEvent
  | .object input => eventOfRecord input
  | _ => fail "StageRun event must be an object."

namespace StageRunEvent

variable (event : StageRunEvent)

/-- The texts of an array that are not blank, as they are given. -/
def refs : Option Json → List String
  | some (.array items) =>
    (items.filterMap fun item =>
      item.asString?.bind fun text => if trim text = "" then none else some text).eraseDups
  | _ => []

def inputRefs : List String := refs (field? event.input "input_refs")

/-- A reference field of the event. -/
def ref (name : String) : Option String := optionalRef (field? event.input name)

def producerRole : Option String := (event.ref "producer_role").or (event.ref "producer_kind")

/-- `currentPointerMatches`, of the field as it is given. -/
def currentPointerMatches : Json → Bool
  | .object pointer =>
    decide (field? pointer "stage_run_id" = some (.string event.stageRunId)) &&
      decide (field? pointer "generation" = some (Json.ofNat event.generation)) &&
      decide (field? pointer "current" = some (.bool true))
  | _ => false

def currentPointerBindingIsValid : Bool :=
  match field? event.input "current_pointer" with
  | none => true
  | some pointer => event.currentPointerMatches pointer

/-- Who may have caused an event of this kind. -/
def producerAllowed : Bool :=
  match event.eventKind with
  | .ownerReceiptObserved | .typedBlockerObserved =>
    decide (event.producerRole = none) || decide (event.producerRole = some "domain_owner")
  | .humanDecisionRequired =>
    decide (event.producerRole = none) || decide (event.producerRole = some "domain_owner") ||
      decide (event.producerRole = some "human_operator")
  | _ => true

def eventIdentityIsProjectable : Bool :=
  event.currentPointerBindingIsValid && event.producerAllowed

def isLifecycleNeutralEvent : Bool :=
  match event.eventKind with
  | .artifactRefObserved | .holdProjected => true
  | _ => false

/-- An unknown kind gives no status. -/
def statusAfterEvent : Option StageRunStatus :=
  match event.eventKind with
  | .stageRunDeclared => some .declared
  | .inputsReady => some .inputsReady
  | .stageContextObserved => some .contextObserved
  | .providerRunning => some .running
  | .providerCompleted => some .terminalizing
  | .ownerReceiptObserved => some .domainAccepted
  | .typedBlockerObserved => some .typedBlocked
  | .humanDecisionRequired => some .needsHumanDecision
  | .externalResourceRequired => some .needsExternalResource
  | .retryScheduled => some .retryScheduled
  | .infrastructureCrashed => some .infrastructureCrashed
  | .superseded => some .superseded
  | .nextStageReady => some .nextStageReady
  | .artifactRefObserved | .holdProjected => some .declared
  | .unknown _ => none

end StageRunEvent

open StageRunEvent

/-! ## The projection of one StageRun -/

/-- The status that one event leaves. -/
def statusStep (status : Option StageRunStatus) (event : StageRunEvent) : Option StageRunStatus :=
  if event.isLifecycleNeutralEvent = true ∨ event.eventIdentityIsProjectable = false then status
  else event.statusAfterEvent

def statusAfterEvents (events : List StageRunEvent) : Option StageRunStatus :=
  events.foldl statusStep (some .declared)

/-- The last reference of the events under a name. -/
def lastPresent (name : String) (events : List StageRunEvent) : Option String :=
  (events.filterMap fun event => event.ref name).getLast?

/-- The distinct references of the events under a name. -/
def refsNamed (name : String) (events : List StageRunEvent) : List String :=
  (events.filterMap fun event => event.ref name).eraseDups

/-- The distinct references of the projectable events of a kind. -/
def acceptedRefs (kind : StageRunEventKind) (name : String) (events : List StageRunEvent) :
    List String :=
  refsNamed name (events.filter fun event =>
    decide (event.eventKind = kind) && event.eventIdentityIsProjectable)

def consumedRefs (events : List StageRunEvent) : List String :=
  (events.flatMap inputRefs ++ events.filterMap fun event => event.ref "artifact_ref").eraseDups

structure StageRunProjection where
  stageRunId : String
  status : Option StageRunStatus
  observedGeneration : Nat
  specRef : Option String
  consumedRefs : List String
  ownerReceiptRefs : List String
  typedBlockerRefs : List String
  providerAttemptRefs : List String
  holdRefs : List String
  retryBudgetRef : Option String
  inputFingerprint : Option String
  lastEventRef : String
  deriving DecidableEq

/-- `Math.max` of the generations. -/
def observedGeneration (events : List StageRunEvent) : Nat :=
  (events.map (·.generation)).foldr max 0

def projectionOf (stageRunId : String) (generation : Nat) (currentEvents : List StageRunEvent) :
    Checked StageRunProjection :=
  match currentEvents.getLast? with
  | none => fail "StageRun projection requires at least one current-generation event."
  | some lastEvent => .ok {
      stageRunId
      status := statusAfterEvents currentEvents
      observedGeneration := generation
      specRef := (currentEvents.filterMap fun event => event.ref "spec_ref").head?
      consumedRefs := consumedRefs currentEvents
      ownerReceiptRefs := acceptedRefs .ownerReceiptObserved "owner_receipt_ref" currentEvents
      typedBlockerRefs := acceptedRefs .typedBlockerObserved "typed_blocker_ref" currentEvents
      providerAttemptRefs := refsNamed "provider_attempt_ref" currentEvents
      holdRefs := refsNamed "hold_ref" currentEvents
      retryBudgetRef := lastPresent "retry_budget_ref" currentEvents
      inputFingerprint := lastPresent "input_fingerprint" currentEvents
      lastEventRef := lastEvent.eventId }

section

-- `left.localeCompare(right) <= 0`
variable (before : String → String → Bool)

/-- The events of the greatest generation, in the order of their times and ids. -/
def currentEvents (events : List StageRunEvent) : List StageRunEvent :=
  stableSort (lexBefore before before) (fun event => (event.observedAt, event.eventId))
    (events.filter fun event => event.generation = observedGeneration events)

def collectProjection (stageRunId : String) (events : List StageRunEvent) :
    Checked StageRunProjection :=
  projectionOf stageRunId (observedGeneration events) (currentEvents before events)

/-- The events of one StageRun. -/
def eventsOf (stageRunId : String) (events : List StageRunEvent) : List StageRunEvent :=
  events.filter fun event => event.stageRunId = stageRunId

/-- The StageRuns in the order of their ids. -/
def stageRunIds (events : List StageRunEvent) : List String :=
  stableSort before id (events.map (·.stageRunId)).eraseDups

/-- What the events lead to. -/
def projectStageRuns (events : List StageRunEvent) : Checked (List StageRunProjection) :=
  mapEach (fun stageRunId => collectProjection before stageRunId (eventsOf stageRunId events))
    (stageRunIds before events)

/-- The `stage_runs` of the read model; nothing else in it varies. -/
def rebuildStageRunReadModel (events : List Json) : Checked (List StageRunProjection) := do
  let events ← mapEach stageRunEvent events
  projectStageRuns before events

end

end OnePersonLab.StageRunKernel

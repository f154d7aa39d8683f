import OnePersonLab.Contract.Json
import OnePersonLab.Evolution.ProtocolValidation
import OnePersonLab.Lib.Outcome
import OnePersonLab.Lib.Utf16

/-!
# Observations of execution sessions

`observeWorkItemExecutionSessionBinding` and the ledger it writes: one row for the current
binding of every session, and one for every observation that was applied. A stored
timestamp is the time value that its ISO text denotes. `stage_attempt_id` and `workflow_id`
are null in every binding and left out, as are the `details` of errors.
-/

namespace OnePersonLab.Session

open Contract Lib
open Evolution (isSafeInteger maxSafeInteger)

/-! ## Failures -/

inductive ObservationFailure where
  | usage (message : String)
  | contract (message failureCode : String)
  | runtime (message : String)
  deriving DecidableEq, Repr

abbrev Observed := Except ObservationFailure

def reject (bad : Prop) [Decidable bad] (failure : ObservationFailure) : Observed Unit :=
  if bad then .error failure else .ok ()

@[simp] theorem reject_eq_ok {bad : Prop} [Decidable bad] {failure : ObservationFailure}
    {result : Unit} : reject bad failure = .ok result ↔ ¬ bad := by
  by_cases holds : bad <;> simp [reject, holds]

theorem reject_false {bad : Prop} [Decidable bad] (good : ¬ bad) (failure : ObservationFailure) :
    reject bad failure = .ok () := if_neg good

/-! ## Policy -/

def activeSessionTtlMs : Int := 300000
def activeSessionMaxTtlMs : Int := 900000
def maxFutureSkewMs : Int := 5000

inductive ActivityKind where
  | coordination
  | controlledExecution
  deriving DecidableEq, Repr

inductive ActivityState where
  | running
  | waiting
  | completed
  | failed
  | cancelled
  deriving DecidableEq, Repr

namespace ActivityKind

def text : ActivityKind → String
  | coordination => "coordination"
  | controlledExecution => "controlled_execution"

end ActivityKind

namespace ActivityState

def text : ActivityState → String
  | running => "running"
  | waiting => "waiting"
  | completed => "completed"
  | failed => "failed"
  | cancelled => "cancelled"

/-- `TERMINAL_ACTIVITY_STATES`. -/
def terminal : ActivityState → Bool
  | running | waiting => false
  | completed | failed | cancelled => true

end ActivityState

/-! ## Fields of a payload -/

def isControl (c : Char) : Bool := c.toNat ≤ 0x1f || c.toNat == 0x7f

def requires (field : String) : ObservationFailure :=
  .usage s!"work_item_execution_session_observe requires payload.{field}."

def receivedInvalid (field : String) : ObservationFailure :=
  .usage s!"work_item_execution_session_observe received an invalid {field}."

def requiredString (value : Option Json) (field : String) : Observed String :=
  match value with
  | some (.string text) => do
    reject (trim text = "") (requires field)
    reject (2048 < (unitsOf (trim text)).length ∨ (trim text).toList.any isControl = true)
      (receivedInvalid field)
    return trim text
  | _ => .error (requires field)

def optionalString : Option Json → Observed (Option String)
  | none | some .null => .ok none
  | value => some <$> requiredString value "optional_identity_field"

def activityKind : Option Json → Observed ActivityKind
  | none | some .null | some (.string "") | some (.string "coordination") => .ok .coordination
  | _ => .error (.usage ("work_item_execution_session_observe records coordination only; " ++
      "controlled execution is derived from StageAttempt runtime evidence."))

def activityState : Option Json → Observed ActivityState
  | some (.string "running") => .ok .running
  | some (.string "waiting") => .ok .waiting
  | some (.string "completed") => .ok .completed
  | some (.string "failed") => .ok .failed
  | some (.string "cancelled") => .ok .cancelled
  | _ => .error (.usage
      "work_item_execution_session_observe received an unsupported activity_state.")

/-! ## Identities -/

structure SessionIdentity where
  agentId : String
  projectId : String
  projectScopeId : String
  workItemId : String
  workItemScopeId : String
  workspaceBindingId : String
  observedGeneration : String
  deriving DecidableEq, Repr

inductive IdentityField where
  | agentId
  | projectId
  | projectScopeId
  | workItemId
  | workItemScopeId
  | workspaceBindingId
  | observedGeneration
  deriving DecidableEq, Repr

def identityFields : List IdentityField :=
  [.agentId, .projectId, .projectScopeId, .workItemId, .workItemScopeId, .workspaceBindingId,
    .observedGeneration]

def SessionIdentity.get (identity : SessionIdentity) : IdentityField → String
  | .agentId => identity.agentId
  | .projectId => identity.projectId
  | .projectScopeId => identity.projectScopeId
  | .workItemId => identity.workItemId
  | .workItemScopeId => identity.workItemScopeId
  | .workspaceBindingId => identity.workspaceBindingId
  | .observedGeneration => identity.observedGeneration

structure IdentityPayload where
  agentId : Option Json
  projectId : Option Json
  projectScopeId : Option Json
  workItemId : Option Json
  workItemScopeId : Option Json
  workspaceBindingId : Option Json
  observedGeneration : Option Json

def normalizedIdentity (input : IdentityPayload) : Observed SessionIdentity := do
  let agentId ← requiredString input.agentId "agent_id"
  let projectId ← requiredString input.projectId "project_id"
  let projectScopeId ← requiredString input.projectScopeId "project_scope_id"
  let workItemId ← requiredString input.workItemId "work_item_id"
  let workItemScopeId ← requiredString input.workItemScopeId "work_item_scope_id"
  let workspaceBindingId ← requiredString input.workspaceBindingId "workspace_binding_id"
  let observedGeneration ← requiredString input.observedGeneration "observed_generation"
  return { agentId, projectId, projectScopeId, workItemId, workItemScopeId, workspaceBindingId,
           observedGeneration }

/-- The fields in which two identities differ. -/
def identityMismatches (expected actual : SessionIdentity) : List IdentityField :=
  identityFields.filter fun field => expected.get field ≠ actual.get field

/-- The mismatches that stop an observation; one that closes the session may name another
generation. -/
def blockingMismatches (closesSession : Bool) (expected actual : SessionIdentity) :
    List IdentityField :=
  if closesSession then
    (identityMismatches expected actual).filter (· ≠ .observedGeneration)
  else identityMismatches expected actual

/-! ## Bindings -/

structure SessionBinding where
  bindingId : String
  executionSessionRef : String
  identity : SessionIdentity
  activityKind : ActivityKind
  activityState : ActivityState
  observedAt : Int
  ttlMs : Int
  expiresAt : Int
  sequence : Nat
  sourceRef : Option String
  recordedAt : Int
  deriving DecidableEq, Repr

/-- A row of `work_item_execution_session_bindings`. -/
structure BindingRow where
  executionSessionRef : String
  bindingId : String
  agentId : String
  projectId : String
  projectScopeId : String
  workItemId : String
  workItemScopeId : String
  workspaceBindingId : String
  observedGeneration : String
  activityKind : ActivityKind
  activityState : ActivityState
  observedAt : Int
  ttlMs : Int
  expiresAt : Int
  sequence : Nat
  sourceRef : Option String
  recordedAt : Int
  deriving DecidableEq, Repr

/-- A row of `work_item_execution_session_events`. -/
structure EventRow where
  receiptRef : String
  row : BindingRow
  deriving DecidableEq, Repr

structure SessionLedger where
  bindings : List BindingRow
  events : List EventRow
  deriving DecidableEq, Repr

def SessionLedger.empty : SessionLedger := ⟨[], []⟩

def bindingRow (binding : SessionBinding) : BindingRow where
  executionSessionRef := binding.executionSessionRef
  bindingId := binding.bindingId
  agentId := binding.identity.agentId
  projectId := binding.identity.projectId
  projectScopeId := binding.identity.projectScopeId
  workItemId := binding.identity.workItemId
  workItemScopeId := binding.identity.workItemScopeId
  workspaceBindingId := binding.identity.workspaceBindingId
  observedGeneration := binding.identity.observedGeneration
  activityKind := binding.activityKind
  activityState := binding.activityState
  observedAt := binding.observedAt
  ttlMs := binding.ttlMs
  expiresAt := binding.expiresAt
  sequence := binding.sequence
  sourceRef := binding.sourceRef
  recordedAt := binding.recordedAt

def BindingRow.identityPayload (row : BindingRow) : IdentityPayload where
  agentId := some (.string row.agentId)
  projectId := some (.string row.projectId)
  projectScopeId := some (.string row.projectScopeId)
  workItemId := some (.string row.workItemId)
  workItemScopeId := some (.string row.workItemScopeId)
  workspaceBindingId := some (.string row.workspaceBindingId)
  observedGeneration := some (.string row.observedGeneration)

/-- The conditions under which `normalizeBindingRow` takes a row for unreadable. -/
def BindingRow.irregular (row : BindingRow) (state : ActivityState) : Bool :=
  row.ttlMs ≤ 0 || activeSessionMaxTtlMs < row.ttlMs || maxSafeInteger < row.sequence ||
    (!state.terminal && row.expiresAt - row.observedAt != row.ttlMs) ||
    (state.terminal && row.expiresAt != row.observedAt)

def readRow (row : BindingRow) : Observed (Option SessionBinding) := do
  let identity ← normalizedIdentity row.identityPayload
  let kind ← activityKind (some (.string row.activityKind.text))
  let state ← activityState (some (.string row.activityState.text))
  if row.irregular state then return none
  else
    let bindingId ← requiredString (some (.string row.bindingId)) "binding_id"
    let executionSessionRef ←
      requiredString (some (.string row.executionSessionRef)) "execution_session_ref"
    let sourceRef ← optionalString (row.sourceRef.map .string)
    return some
      { bindingId, executionSessionRef, identity, activityKind := kind, activityState := state,
        observedAt := row.observedAt, ttlMs := row.ttlMs, expiresAt := row.expiresAt,
        sequence := row.sequence, sourceRef, recordedAt := row.recordedAt }

/-- `normalizeBindingRow`: a row that cannot be read is no binding. -/
def normalizeBindingRow (row : BindingRow) : Option SessionBinding :=
  match readRow row with
  | .ok binding => binding
  | .error _ => none

/-! ## The ledger -/

/-- The hex digits of SHA-256 and `Date.parse`. -/
structure SessionPlatform where
  sha256 : String → String
  hex : ∀ text, (sha256 text).toList.length = 64 ∧ (sha256 text).toList.all isLowerHex = true
  dateParse : String → Option Int

def bindingId (platform : SessionPlatform) (executionSessionRef : String) : String :=
  "opl://work-item-execution-session/" ++ platform.sha256 executionSessionRef

def receiptRef (binding : SessionBinding) : String :=
  binding.bindingId ++ "#sequence=" ++ toString binding.sequence

def SessionLedger.row (db : SessionLedger) (executionSessionRef : String) : Option BindingRow :=
  db.bindings.find? (·.executionSessionRef = executionSessionRef)

def readBinding (db : SessionLedger) (executionSessionRef : String) : Option SessionBinding :=
  (db.row executionSessionRef).bind normalizeBindingRow

/-- The first binding of `readWorkItemExecutionSessionBindings` for one session. -/
def readCoordinationBinding (db : SessionLedger) (executionSessionRef : String) :
    Option SessionBinding :=
  ((db.row executionSessionRef).filter (·.activityKind = .coordination)).bind normalizeBindingRow

def constraintFailed (constraint : String) : ObservationFailure :=
  .runtime s!"{constraint} constraint failed"

def persistBindingEvent (db : SessionLedger) (binding : SessionBinding) :
    Observed SessionLedger := do
  reject (binding.activityKind ≠ .coordination) (constraintFailed "CHECK")
  reject (db.events.any (fun event => event.receiptRef = receiptRef binding ||
      (event.row.executionSessionRef = binding.executionSessionRef &&
        event.row.sequence = binding.sequence)) = true) (constraintFailed "UNIQUE")
  return { db with events := db.events ++ [⟨receiptRef binding, bindingRow binding⟩] }

/-- The `DO UPDATE` of the upsert. -/
def BindingRow.update (stored : BindingRow) (excluded : SessionBinding) : BindingRow :=
  { stored with
    observedGeneration :=
      if excluded.activityState.terminal then excluded.identity.observedGeneration
      else stored.observedGeneration
    activityState := excluded.activityState
    observedAt := excluded.observedAt
    ttlMs := excluded.ttlMs
    expiresAt := excluded.expiresAt
    sequence := excluded.sequence
    sourceRef := excluded.sourceRef
    recordedAt := excluded.recordedAt }

def persistBinding (db : SessionLedger) (binding : SessionBinding) : Observed SessionLedger := do
  reject (binding.activityKind ≠ .coordination) (constraintFailed "CHECK")
  match db.row binding.executionSessionRef with
  | none =>
    reject (db.bindings.any (·.bindingId = binding.bindingId) = true) (constraintFailed "UNIQUE")
    return { db with bindings := db.bindings ++ [bindingRow binding] }
  | some stored =>
    if stored.sequence < binding.sequence then
      return { db with
        bindings := db.bindings.map fun row =>
          if row.executionSessionRef = binding.executionSessionRef then row.update binding
          else row }
    else return db

/-! ## Observations -/

inductive ReceiptStatus where
  | dryRun
  | applied
  | unchanged
  deriving DecidableEq, Repr

structure Receipt where
  status : ReceiptStatus
  receiptRef : String
  binding : SessionBinding
  deriving DecidableEq, Repr

def buildReceipt (binding : SessionBinding) (status : ReceiptStatus) : Receipt :=
  ⟨status, receiptRef binding, binding⟩

structure ObserveInput where
  identity : IdentityPayload
  executionSessionRef : Option Json
  activityKind : Option Json
  activityState : Option Json
  observedAt : Option Json
  sequence : Option Json
  sourceRef : Option Json

/-- A call with the identity of the current work item and the time of its clock. -/
structure ObserveCall where
  input : ObserveInput
  currentItem : SessionIdentity
  dryRun : Bool
  now : Int

/-- Equal to a lower-case letter up to case: the pattern is case insensitive, and folds the
long s and the Kelvin sign too. -/
def foldChar (c : Char) : Char :=
  if 'A' ≤ c ∧ c ≤ 'Z' then Char.ofNat (c.toNat + 32)
  else if c.toNat = 0x17f then 's'
  else if c.toNat = 0x212a then 'k'
  else c

def isThreadChar (c : Char) : Bool :=
  ('0' ≤ c && c ≤ '9') || ('a' ≤ foldChar c && foldChar c ≤ 'z') || c == '-'

/-- The pattern `codex://threads/` followed by a thread id. -/
def isSessionRef (text : String) : Bool :=
  ((characters text).take 16).map foldChar == "codex://threads/".toList &&
    ((characters text).drop 16 != []) && ((characters text).drop 16).all isThreadChar

def sequenceOf : Option Json → Option Nat
  | some (.number value) =>
    if isSafeInteger value && decide (0 ≤ value) then some value.num.toNat else none
  | _ => none

/-- `new Date(ms).toISOString()`. -/
def toISOString (ms : Int) : Observed Int := do
  reject (8640000000000000 < ms.natAbs) (.runtime "Invalid time value")
  return ms

def admittedTime (platform : SessionPlatform) (now : Int) (observedAt : String) : Observed Int :=
  match platform.dateParse observedAt with
  | some observedMs => do
    reject (now + maxFutureSkewMs < observedMs) (.usage
      "work_item_execution_session_observe received an invalid or future observed_at.")
    return observedMs
  | none => .error (.usage
      "work_item_execution_session_observe received an invalid or future observed_at.")

def admittedSequence (value : Option Json) : Observed Nat :=
  match sequenceOf value with
  | some sequence => .ok sequence
  | none => .error (.usage
      "work_item_execution_session_observe requires a non-negative integer sequence.")

/-- The binding that a call asks for, or what stops it before the ledger is read. -/
def nextBinding (platform : SessionPlatform) (call : ObserveCall) : Observed SessionBinding := do
  let identity ← normalizedIdentity call.input.identity
  let state ← activityState call.input.activityState
  let kind ← activityKind call.input.activityKind
  reject (blockingMismatches state.terminal call.currentItem identity ≠ [])
    (.contract ("Execution session observation does not match the current canonical " ++
      "WorkItem identity.") "work_item_execution_session_identity_mismatch")
  let executionSessionRef ← requiredString call.input.executionSessionRef "execution_session_ref"
  reject (isSessionRef executionSessionRef = false)
    (.usage "execution_session_ref must use codex://threads/<thread-id>.")
  let observedAt ← requiredString call.input.observedAt "observed_at"
  let observedMs ← admittedTime platform call.now observedAt
  let sequence ← admittedSequence call.input.sequence
  let expiresAt ← toISOString
    (if state.terminal then observedMs else observedMs + activeSessionTtlMs)
  reject (state.terminal = false ∧ expiresAt ≤ call.now)
    (.contract "Active execution session observation is already expired."
      "work_item_execution_session_observation_expired")
  let recordedAt ← toISOString call.now
  let observedAt ← toISOString observedMs
  let sourceRef ← optionalString call.input.sourceRef
  return { bindingId := bindingId platform executionSessionRef, executionSessionRef, identity,
           activityKind := kind, activityState := state, observedAt,
           ttlMs := activeSessionTtlMs, expiresAt, sequence, sourceRef, recordedAt }

/-- The `comparable` of a binding: canonical texts agree exactly when these do. -/
def comparable (binding : SessionBinding) : SessionBinding := { binding with recordedAt := 0 }

/-- What the binding of the session before has to say: a receipt for an observation that is
already there, or none. -/
def validatePrevious (next : SessionBinding) :
    Option SessionBinding → Observed (Option Receipt)
  | none => do
    reject (next.activityState.terminal = true)
      (.contract "A terminal coordination observation must close an existing binding."
        "work_item_execution_session_terminal_without_binding")
    return none
  | some previous => do
    reject (blockingMismatches next.activityState.terminal previous.identity next.identity ≠ [] ∨
        previous.activityKind ≠ next.activityKind)
      (.contract "Execution session is already bound to a different WorkItem or activity role."
        "work_item_execution_session_binding_conflict")
    reject (next.sequence < previous.sequence ∨ next.observedAt < previous.observedAt)
      (.contract "Execution session observation regressed sequence or observed_at."
        "work_item_execution_session_observation_regressed")
    if next.sequence = previous.sequence then
      reject (comparable previous ≠ comparable next)
        (.contract "Execution session sequence is already bound to a different observation."
          "work_item_execution_session_sequence_conflict")
      return some (buildReceipt previous .unchanged)
    else
      reject (previous.activityState.terminal = true)
        (.contract "A terminal execution session binding cannot become active again."
          "work_item_execution_session_terminal_reactivation")
      return none

/-- The transaction of a call that is not a dry run; what throws is rolled back. -/
def applyObservation (db : SessionLedger) (next : SessionBinding) :
    Observed (Receipt × SessionLedger) := do
  match ← validatePrevious next (readBinding db next.executionSessionRef) with
  | some unchanged => return (unchanged, db)
  | none =>
    let db ← persistBindingEvent db next
    let db ← persistBinding db next
    return (buildReceipt next .applied, db)

def dryRunObservation (db : SessionLedger) (next : SessionBinding) : Observed Receipt := do
  match ← validatePrevious next (readCoordinationBinding db next.executionSessionRef) with
  | some unchanged => return unchanged
  | none => return buildReceipt next .dryRun

def observeWorkItemExecutionSessionBinding (platform : SessionPlatform) (db : SessionLedger)
    (call : ObserveCall) : Observed (Receipt × SessionLedger) := do
  let next ← nextBinding platform call
  if call.dryRun then
    let receipt ← dryRunObservation db next
    return (receipt, db)
  else applyObservation db next

end OnePersonLab.Session

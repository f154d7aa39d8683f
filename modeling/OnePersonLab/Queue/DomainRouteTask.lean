import OnePersonLab.Attempt.ReceiptOrigins
import OnePersonLab.Queue.RuntimeQueue

/-!
# Domain-route tasks

A domain-route task is settled by its terminal attempts: an attempt that ends gives the
task a status and a reason, unless a guard holds the attempt back.
-/

namespace OnePersonLab.Queue

open Contract Stage Attempt Lib

/-! ## Domain-route payloads -/

def domainRouteStageRouteTaskKind : String := "domain_route/stage-route"
def domainRouteRuntimeRequestKind : String := "domain_route_stage_route"
def domainRouteRuntimeRequestSurfaceKind : String := "opl_domain_route_runtime_request"

def domainRouteRuntimeRequest (payload : JsonRecord) : Option JsonRecord :=
  let candidates := [(field? payload "runtime_request").bind asRecord?,
    (field? payload "domain_route_runtime_request").bind asRecord?, some payload]
  candidates.reduceOption.find? fun candidate =>
    field? candidate "surface_kind" = some (.string domainRouteRuntimeRequestSurfaceKind) ||
      field? candidate "runtime_request_kind" = some (.string domainRouteRuntimeRequestKind)

/-- The records that an identity value is looked for in. -/
def identityRecords (payload : JsonRecord) : List JsonRecord :=
  let runtimeRequest := (domainRouteRuntimeRequest payload).getD []
  [payload, runtimeRequest, asRecord (field? runtimeRequest "route_identity"),
    asRecord (field? runtimeRequest "attempt_identity"),
    asRecord (field? payload "route_identity"), asRecord (field? payload "attempt_identity"),
    asRecord (field? payload "stage_run_request")]

def domainRouteIdentityValue (payload : JsonRecord) (field : String) : Option String :=
  (identityRecords payload).findSome? fun record => textField? record field

def isDomainRouteStageRouteTask (row : TaskRow) : Bool :=
  if row.taskKind ≠ domainRouteStageRouteTaskKind then false
  else
    match domainRouteRuntimeRequest row.payload with
    | none => true
    | some request =>
      field? request "surface_kind" = some (.string domainRouteRuntimeRequestSurfaceKind) &&
        (field? request "runtime_request_kind" = some (.string domainRouteRuntimeRequestKind) ||
          field? request "runtime_request_kind" = none)

/-! ## Outcomes -/

def domainRouteProgressObservedReason : String := "domain_route_consumable_progress_observed"
def domainRouteNoConsumableArtifactReason : String := "domain_route_no_consumable_artifact"
def domainRouteTerminalProjectedEvent : String := "domain_route_terminal_task_projected"

/-- `TERMINAL_STAGE_ATTEMPT_STATUSES`. -/
def terminalStatus : AttemptStatus → Bool
  | .blocked | .completed | .failed | .deadLettered => true
  | .queued | .running | .checkpointed | .humanGate => false

/-- `LIVE_STAGE_ATTEMPT_STATUSES`. -/
def liveStatus : AttemptStatus → Bool
  | .queued | .running | .checkpointed | .humanGate => true
  | .blocked | .completed | .failed | .deadLettered => false

def reconcilableBlockers : List String :=
  [domainRouteProgressObservedReason, domainRouteNoConsumableArtifactReason,
    "domain_route_temporal_start_failed",
    "temporal_stage_attempt_completed_without_consumable_artifact",
    "typed_closeout_domain_route_user_stage_log_missing"]

structure TaskOutcome where
  status : TaskStatus
  reason : String
  deadLetterReason : Option String
  deriving DecidableEq, Repr

def taskStatusForTerminalAttempt (attempt : AttemptRow) : TaskOutcome :=
  if attempt.status = .failed ∨ attempt.status = .deadLettered then
    let reason := attempt.blockedReason.getD "domain_route_provider_terminal_failure"
    ⟨.deadLetter, reason, some reason⟩
  else if attempt.status = .completed ∧ attempt.closeoutRefs ≠ [] then
    ⟨.succeeded, domainRouteProgressObservedReason, none⟩
  else
    let verdict := (textField? attempt.routeImpact "domain_ready_verdict").map
      fun verdict => "domain_route_" ++ verdict
    let reason := (attempt.blockedReason.or verdict).getD domainRouteNoConsumableArtifactReason
    ⟨.blocked, reason, some reason⟩

/-- The error that the outcome leaves in the task. -/
def TaskOutcome.lastError (outcome : TaskOutcome) : Option String :=
  if outcome.status = .succeeded then none else some outcome.reason

/-- `UPDATE tasks SET status = ?, last_error = ?, dead_letter_reason = ?`. -/
def TaskOutcome.applyTo (outcome : TaskOutcome) (row : TaskRow) : TaskRow :=
  { row with
    status := outcome.status
    lastError := outcome.lastError
    deadLetterReason := outcome.deadLetterReason }

/-- The task stands at the outcome. -/
def TaskRow.Shows (row : TaskRow) (outcome : TaskOutcome) : Prop :=
  row.status = outcome.status ∧ row.lastError = outcome.lastError ∧
    row.deadLetterReason = outcome.deadLetterReason

instance (row : TaskRow) (outcome : TaskOutcome) : Decidable (row.Shows outcome) :=
  inferInstanceAs (Decidable (_ ∧ _ ∧ _))

theorem TaskOutcome.applyTo_shows (outcome : TaskOutcome) (row : TaskRow) :
    (outcome.applyTo row).Shows outcome := ⟨rfl, rfl, rfl⟩

@[simp] theorem TaskOutcome.applyTo_taskId (outcome : TaskOutcome) (row : TaskRow) :
    (outcome.applyTo row).taskId = row.taskId := rfl

theorem TaskOutcome.applyTo_route (outcome : TaskOutcome) (row : TaskRow) :
    isDomainRouteStageRouteTask (outcome.applyTo row) = isDomainRouteStageRouteTask row := rfl

/-! ## The transport receipt -/

def firstCloseoutRef (attempt : AttemptRow) : Option String :=
  attempt.closeoutRefs.find? fun entry => trim entry ≠ ""

def transportReceiptStatusText : TransportReceiptStatus → String
  | .providerTerminalBlocked => "provider_terminal_blocked"
  | .typedCloseoutProgressObserved => "typed_closeout_progress_observed"
  | .consumableProgressObserved => "consumable_progress_observed"
  | .runtimeBlockerObserved => "runtime_blocker_observed"

def transportAuthorityBoundary : JsonRecord :=
  [("role", .string "transport_receipt_only"), ("writes_domain_truth", .bool false),
    ("writes_domain_quality_verdict", .bool false), ("writes_domain_owner_receipt", .bool false),
    ("writes_domain_typed_blocker", .bool false), ("writes_domain_human_gate", .bool false),
    ("writes_domain_current_package", .bool false), ("writes_domain_artifact_body", .bool false),
    ("can_select_next_stage", .bool false),
    ("can_project_consumable_artifact_progress", .bool true),
    ("can_claim_provider_running", .bool false), ("can_claim_domain_ready", .bool false),
    ("can_claim_domain_quality", .bool false), ("can_claim_runtime_ready", .bool false)]

/-- The identity values that a receipt repeats. -/
def receiptIdentityFields : List String :=
  ["command_kind", "route_target", "work_unit_id", "work_unit_fingerprint", "route_identity_key",
    "attempt_idempotency_key", "request_idempotency_key", "domain_route_handoff_ref",
    "domain_route_transaction_ref", "domain_route_command_ref"]

def transportReceipt (row : TaskRow) (attempt : AttemptRow) (next : TaskOutcome) : JsonRecord :=
  let succeeded := next.status = .succeeded
  let readback := "opl://family-runtime/tasks/" ++ row.taskId ++ "/terminal-closeout-readback"
  [("surface_kind", .string "opl_domain_route_terminal_transport_receipt"),
    ("schema_version", .ofNat 1),
    ("receipt_status", .string (transportReceiptStatusText (transportReceiptStatus attempt))),
    ("role", .string "transport_receipt_only"),
    ("source_event_type", .string domainRouteTerminalProjectedEvent),
    ("domain_id", .string row.domainId), ("task_kind", .string row.taskKind),
    ("profile_ref", .ofOptionalString
      ((domainRouteRuntimeRequest row.payload).bind fun request => textField? request "profile_ref"))]
  ++ receiptIdentityFields.map (fun field =>
    (field, Json.ofOptionalString (domainRouteIdentityValue row.payload field)))
  ++ [("task_id", .string row.taskId), ("task_status", .string row.status.text),
    ("reconciled_task_status", .string next.status.text),
    ("stage_attempt_id", .string attempt.stageAttemptId),
    ("stage_attempt_status", .string (statusText attempt.status)),
    ("stage_attempt_ref", .ofOptionalString (if attempt.stageAttemptId = "" then none
      else some ("opl://stage-attempts/" ++ attempt.stageAttemptId))),
    ("runtime_closeout_ref", .ofOptionalString ((firstCloseoutRef attempt).or
      (if row.taskId = "" then none else some readback))),
    ("typed_runtime_blocker_ref", .ofOptionalString
      (if succeeded then none else firstCloseoutRef attempt)),
    ("closeout_refs", .ofStrings attempt.closeoutRefs),
    ("closeout_receipt_status",
      .ofOptionalString (attempt.closeoutReceiptStatus.map receiptStatusText)),
    ("blocked_reason", .ofOptionalString (if succeeded then none else some next.reason)),
    ("progress_reason", .ofOptionalString (if succeeded then some next.reason else none)),
    ("route_impact", if attempt.routeImpact = [] then .null else .object attempt.routeImpact),
    ("semantic_route_owner", .string "decisive_codex_attempt"),
    ("transport_projection_blocks_next_stage", .bool false),
    ("authority_boundary", .object transportAuthorityBoundary)]

/-! ## The guards -/

section

variable (queue : RuntimeQueue)

def hasLaterLiveLinkedStageAttempt (attempt : StoredAttempt) : Bool :=
  match attempt.linkedTask with
  | none => false
  | some taskId => queue.attempts.rows.any fun other =>
      other.taskId = some taskId && other.stageAttemptId ≠ attempt.stageAttemptId &&
        liveStatus other.row.status && other.LaterThan attempt

/-- The event is one of this type about the attempt of the task. -/
def EventRow.tells (event : EventRow) (taskId eventType stageAttemptId : String) : Bool :=
  event.taskId = some taskId && event.eventType = eventType &&
    field? event.payload "stage_attempt_id" = some (.string stageAttemptId)

def alreadyReconciled (row : TaskRow) (attempt : StoredAttempt) : Bool :=
  queue.events.any fun event =>
    event.tells row.taskId domainRouteTerminalProjectedEvent attempt.stageAttemptId &&
      hasOwn event.payload "opl_transport_receipt"

def canReconcileTask (row : TaskRow) (attempt : StoredAttempt) : Bool :=
  if row.status = .running then true
  else if row.status ≠ .blocked then false
  else
    attempt.row.closeoutRefs ≠ [] ||
      (row.deadLetterReason.or row.lastError).any (reconcilableBlockers.contains ·)

/-- No guard holds the attempt back from the task. -/
def Admits (row : TaskRow) (attempt : StoredAttempt) : Prop :=
  isDomainRouteStageRouteTask row = true ∧ terminalStatus attempt.row.status = true ∧
    hasLaterLiveLinkedStageAttempt queue attempt = false ∧
    canReconcileTask row attempt = true ∧ alreadyReconciled queue row attempt = false

instance (row : TaskRow) (attempt : StoredAttempt) : Decidable (Admits queue row attempt) :=
  inferInstanceAs (Decidable (_ ∧ _ ∧ _ ∧ _ ∧ _))

/-- `UPDATE tasks … WHERE task_id = ? AND status = ?`. -/
def updateTasks (row : TaskRow) (outcome : TaskOutcome) : List TaskRow :=
  queue.tasks.map fun task =>
    if task.taskId = row.taskId ∧ task.status = row.status then outcome.applyTo task else task

/-- The update finds the row with the status that was read. -/
def updateChanges (row : TaskRow) : Bool :=
  (queue.task? row.taskId).any (·.status = row.status)

end

/-! ## Reconciliation -/

def terminalEvent (row : TaskRow) (attempt : StoredAttempt) (next : TaskOutcome)
    (source : String) : EventInput where
  taskId := some row.taskId
  domainId := some row.domainId
  eventType := domainRouteTerminalProjectedEvent
  source := source
  payload :=
    [("previous_status", .string row.status.text), ("next_status", .string next.status.text),
      ("reason", .string next.reason), ("stage_attempt_id", .string attempt.stageAttemptId),
      ("stage_attempt_status", .string (statusText attempt.row.status)),
      ("closeout_refs", .ofStrings attempt.row.closeoutRefs),
      ("closeout_receipt_status",
        .ofOptionalString (attempt.row.closeoutReceiptStatus.map receiptStatusText)),
      ("opl_transport_receipt", .object (transportReceipt row attempt.row next)),
      ("authority_boundary", .object transportAuthorityBoundary)]

def terminalNotification (row : TaskRow) (attempt : StoredAttempt) (next : TaskOutcome) :
    NotificationInput where
  taskId := some row.taskId
  severity :=
    if next.status = .deadLetter then .error
    else if next.status = .succeeded then .info else .warning
  title :=
    if next.status = .deadLetter then "Domain route provider terminal failure observed"
    else if next.status = .succeeded then "Domain route consumable progress observed"
    else "Domain route blocked by a hard boundary"
  body := row.domainId ++ ":" ++ row.taskKind ++ " " ++ next.reason
  payload :=
    [("reason", .string next.reason), ("stage_attempt_id", .string attempt.stageAttemptId),
      ("closeout_refs", .ofStrings attempt.row.closeoutRefs),
      ("can_claim_provider_running", .bool false),
      ("consumable_progress_observed", .bool (next.status = .succeeded)),
      ("next_stage_may_start", .bool (next.status = .succeeded)),
      ("can_claim_domain_ready", .bool false)]

section

variable (texts : LedgerTexts) (queue : RuntimeQueue)

/-- The task takes the outcome of the attempt, which is told and notified. -/
def projectTerminal (row : TaskRow) (attempt : StoredAttempt) (source : String)
    (stamp : AnnouncementStamp) : RuntimeQueue :=
  let next := taskStatusForTerminalAttempt attempt.row
  announce texts { queue with tasks := updateTasks queue row next } attempt.stageAttemptId
    (terminalEvent row attempt next source) (terminalNotification row attempt next) stamp

def reconcileTaskRowWithAttempt (row : TaskRow) (attempt : StoredAttempt) (source : String)
    (stamp : AnnouncementStamp) : RuntimeQueue × Bool :=
  if ¬ Admits queue row attempt then (queue, false)
  else if updateChanges queue row = false then (queue, false)
  else (projectTerminal texts queue row attempt source stamp, true)

/-- `requireRuntimeExecutionScopeMutationAllowed`. -/
abbrev ScopeAdmission := AttemptRow → Checked Unit

structure ReconcileResult where
  reconciled : Bool
  taskId : Option String
  deriving DecidableEq, Repr

/-- `reconcileDomainRouteTerminalTaskForAttempt`. A failure leaves the queue as it was. -/
def reconcileDomainRouteTerminalTaskForAttempt (stageAttemptId source : String)
    (admission : ScopeAdmission) (stamp : AnnouncementStamp) :
    Checked (RuntimeQueue × ReconcileResult) :=
  match queue.attempts.get? stageAttemptId with
  | none => .ok (queue, ⟨false, none⟩)
  | some attempt => do
    admission attempt.row
    match attempt.linkedTask with
    | none => return (queue, ⟨false, none⟩)
    | some taskId =>
      match queue.task? taskId with
      | none => return (queue, ⟨false, some taskId⟩)
      | some row =>
        let (settled, reconciled) :=
          reconcileTaskRowWithAttempt texts queue row attempt source stamp
        return (settled, ⟨reconciled, some taskId⟩)

structure Candidate where
  task : TaskRow
  attempt : StoredAttempt
  deriving DecidableEq

/-- The terminal attempt that a listed task is reconciled with. -/
def candidate? (taskId : String) : Option Candidate :=
  match queue.task? taskId with
  | none => none
  | some row =>
    if row.status ≠ .running ∧ row.status ≠ .blocked then none
    else if isDomainRouteStageRouteTask row = false then none
    else
      ((queue.listStageAttemptsForTask row.taskId).find? fun attempt =>
        attempt.taskId = some row.taskId && terminalStatus attempt.row.status).map (⟨row, ·⟩)

/-- What a call for one attempt reconciles. -/
def linkedCandidate? (stageAttemptId : String) : Option Candidate := do
  let attempt ← queue.attempts.get? stageAttemptId
  let taskId ← attempt.linkedTask
  let row ← queue.task? taskId
  return ⟨row, attempt⟩

/-- The candidates are reconciled one after another, each with its own insertions. -/
def reconcileCandidates (source : String) (stamps : Nat → AnnouncementStamp) (queue : RuntimeQueue) :
    List Candidate → RuntimeQueue × List String
  | [] => (queue, [])
  | candidate :: rest =>
    let (settled, reconciled) :=
      reconcileTaskRowWithAttempt texts queue candidate.task candidate.attempt source (stamps 0)
    let (final, taskIds) := reconcileCandidates source (fun n => stamps (n + 1)) settled rest
    (final, if reconciled then candidate.task.taskId :: taskIds else taskIds)

/-- `reconcileDomainRouteTerminalTasks`. A failure leaves the queue as it was. -/
def reconcileDomainRouteTerminalTasks (taskIds : List String) (source : String)
    (admission : ScopeAdmission) (stamps : Nat → AnnouncementStamp) :
    Checked (RuntimeQueue × List String) := do
  let candidates := taskIds.filterMap (candidate? queue)
  let _ ← candidates.mapM fun candidate => admission candidate.attempt.row
  return reconcileCandidates texts source stamps queue candidates

end

/-! ## What a reconciliation writes -/

section

variable {texts : LedgerTexts} {queue : RuntimeQueue} {row : TaskRow} {attempt : StoredAttempt}
  {source : String} {stamp : AnnouncementStamp}

variable (texts queue row attempt source stamp) in
/-- Either a guard keeps everything as it is, or the task takes the outcome. -/
theorem reconcileTaskRowWithAttempt_cases :
    (reconcileTaskRowWithAttempt texts queue row attempt source stamp = (queue, false) ∧
      ¬ (Admits queue row attempt ∧ updateChanges queue row = true)) ∨
    (reconcileTaskRowWithAttempt texts queue row attempt source stamp =
      (projectTerminal texts queue row attempt source stamp, true) ∧
      Admits queue row attempt ∧ updateChanges queue row = true) := by
  unfold reconcileTaskRowWithAttempt
  by_cases admitted : Admits queue row attempt
  · rw [if_neg (not_not.2 admitted)]
    cases changes : updateChanges queue row with
    | false => exact .inl ⟨rfl, fun both => Bool.false_ne_true both.2⟩
    | true => exact .inr ⟨rfl, admitted, rfl⟩
  · rw [if_pos admitted]
    exact .inl ⟨rfl, fun both => admitted both.1⟩

@[simp] theorem projectTerminal_attempts :
    (projectTerminal texts queue row attempt source stamp).attempts = queue.attempts := by
  rw [projectTerminal, announce_attempts]

@[simp] theorem projectTerminal_tasks :
    (projectTerminal texts queue row attempt source stamp).tasks =
      updateTasks queue row (taskStatusForTerminalAttempt attempt.row) := by
  rw [projectTerminal, announce_tasks]

theorem reconcileTaskRowWithAttempt_attempts :
    (reconcileTaskRowWithAttempt texts queue row attempt source stamp).1.attempts =
      queue.attempts := by
  rcases reconcileTaskRowWithAttempt_cases texts queue row attempt source stamp with
    ⟨kept, -⟩ | ⟨written, -⟩
  · rw [kept]
  · rw [written]
    exact projectTerminal_attempts

end

/-- A task after the update of a row is itself, or its outcome. -/
theorem task?_updateTasks {queue after : RuntimeQueue} {row : TaskRow} {outcome : TaskOutcome}
    (tasks : after.tasks = updateTasks queue row outcome) (taskId : String) :
    after.task? taskId = (queue.task? taskId).map fun task =>
      if task.taskId = row.taskId ∧ task.status = row.status then outcome.applyTo task
      else task := by
  unfold RuntimeQueue.task?
  rw [tasks, updateTasks, List.find?_map]
  congr 2
  funext task
  by_cases own : task.taskId = row.taskId ∧ task.status = row.status
  · simp [own]
  · simp [own]

end OnePersonLab.Queue

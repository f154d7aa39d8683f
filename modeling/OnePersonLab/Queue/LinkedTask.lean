import OnePersonLab.Attempt.Absorption
import OnePersonLab.Queue.DomainRouteTask

/-!
# Tasks of the default executor, and closeouts

A linked task is told once about the end of its attempt. A closeout is stored under its id,
completes the row of its attempt and reconciles the domain route. Each of these operations
is a report: what the tasks and attempts make due, unless an event tells it already.
-/

namespace OnePersonLab.Queue

open Contract Stage Attempt Lib

/-! ## The default executor -/

/-- `StageNativeOwnerAnswerProfile`, as far as the action of an owner is compared with it. -/
structure StageNativeOwnerActionProfile where
  domainId : String
  dispatchTaskKind : String
  actionType : String
  workUnitId : String
  nextExecutableOwner : String
  deriving DecidableEq, Repr

/-- The profiles of the domains: `stageNativeOwnerAnswerProfileForDomain`, and
`stageAttemptRowHasStageNativeProgressOrOwnerAnswerFromDomainProfile`. -/
structure DomainProfiles where
  profileFor : String → Option StageNativeOwnerActionProfile
  answered : StoredAttempt → Bool

def isDomainStageNativeOwnerAction (domainId taskKind : String) (payload : JsonRecord)
    (profile : StageNativeOwnerActionProfile) : Bool :=
  domainId = profile.domainId && taskKind = profile.dispatchTaskKind &&
    textField? payload "action_type" = some profile.actionType &&
    (textField? payload "work_unit_id" = none ||
      textField? payload "work_unit_id" = some profile.workUnitId) &&
    (textField? payload "next_executable_owner").map toLowerCase = some profile.nextExecutableOwner

def linkedDefaultExecutorPayload (profiles : DomainProfiles) (attempt : StoredAttempt) :
    Option JsonRecord :=
  if attempt.linkedTask = none ∨ attempt.row.codexCli = false then none
  else
    (profiles.profileFor attempt.row.domainId).bind fun profile =>
      if isDomainStageNativeOwnerAction attempt.row.domainId attempt.row.stageId
        attempt.row.workspaceLocator profile then some attempt.row.workspaceLocator else none

section

variable (queue : RuntimeQueue) (attempt : StoredAttempt)

def hasLaterLinkedAttempt : Bool :=
  match attempt.linkedTask with
  | none => false
  | some taskId => queue.attempts.rows.any fun other =>
      other.taskId = some taskId && other.stageAttemptId ≠ attempt.stageAttemptId &&
        other.LaterThan attempt

def hasLaterAcceptedCloseoutAttempt : Bool :=
  match attempt.linkedTask with
  | none => false
  | some taskId => queue.attempts.rows.any fun other =>
      other.taskId = some taskId && other.stageAttemptId ≠ attempt.stageAttemptId &&
        hasAcceptedCloseout other.row && other.LaterThan attempt

def terminalEventAlreadyWritten (eventType : String) : Bool :=
  match attempt.linkedTask with
  | none => false
  | some taskId => queue.events.any (·.tells taskId eventType attempt.stageAttemptId)

end

/-! ## Completed and blocked attempts -/

def linkedCompletedEvent : String := "stage_attempt_terminal_completed_task"

def providerAuthorityBoundary : JsonRecord :=
  [("opl", .string "provider_attempt_status_projection_only"),
    ("domain", .string "truth_quality_artifact_gate_owner"),
    ("provider_completion_is_domain_ready", .bool false)]

def linkedCompletedEventInput (profiles : DomainProfiles) (attempt : StoredAttempt) :
    EventInput where
  taskId := attempt.taskId
  domainId := some attempt.row.domainId
  eventType := linkedCompletedEvent
  source := "opl-family-runtime"
  payload :=
    [("stage_attempt_id", .string attempt.stageAttemptId),
      ("workflow_id", .string attempt.row.workflowId),
      ("reason", .string "temporal_stage_attempt_completed"),
      ("provider_status", .string attempt.row.providerRun.providerStatus)] ++
    (if profiles.answered attempt then []
    else [("quality_debt", .string
        "stage_native_progress_envelope_missing_but_provider_attempt_completed"),
      ("next_stage_blocked", .bool false),
      ("framework_should_derive_progress_envelope", .bool true)]) ++
    [("authority_boundary", .object providerAuthorityBoundary)]

def linkedCompletedNotification (profiles : DomainProfiles) (attempt : StoredAttempt) :
    NotificationInput where
  taskId := attempt.taskId
  severity := if profiles.answered attempt then .info else .warning
  title := if profiles.answered attempt then
      "Family runtime default executor attempt completed"
    else "Family runtime attempt completed with derived progress debt"
  body := attempt.stageAttemptId
  payload :=
    [("stage_attempt_id", .string attempt.stageAttemptId),
      ("reason", .string "temporal_stage_attempt_completed")] ++
    (if profiles.answered attempt then []
    else [("quality_debt", .string "stage_native_progress_envelope_missing_nonblocking")])

structure BlockInput where
  reason : String
  taskDeadLetterReason : String
  eventType : String
  deriving DecidableEq, Repr

def linkedBlockedEventInput (attempt : StoredAttempt) (input : BlockInput) : EventInput where
  taskId := attempt.taskId
  domainId := some attempt.row.domainId
  eventType := input.eventType
  source := "opl-family-runtime"
  payload :=
    [("stage_attempt_id", .string attempt.stageAttemptId),
      ("workflow_id", .string attempt.row.workflowId), ("reason", .string input.reason),
      ("task_dead_letter_reason", .string input.taskDeadLetterReason),
      ("provider_status", .string attempt.row.providerRun.providerStatus),
      ("authority_boundary", .object providerAuthorityBoundary)]

def linkedBlockedNotification (attempt : StoredAttempt) (input : BlockInput) :
    NotificationInput where
  taskId := attempt.taskId
  severity := .error
  title := "Family runtime default executor attempt blocked"
  body := input.reason
  payload :=
    [("stage_attempt_id", .string attempt.stageAttemptId), ("reason", .string input.reason),
      ("task_dead_letter_reason", .string input.taskDeadLetterReason)]

section

variable (texts : LedgerTexts) (profiles : DomainProfiles) (queue : RuntimeQueue)

def markLinkedDefaultExecutorTaskCompletedForDurableRow (attempt : StoredAttempt)
    (stamp : AnnouncementStamp) : RuntimeQueue :=
  if linkedDefaultExecutorPayload profiles attempt = none ∨
      hasLaterLinkedAttempt queue attempt = true ∨ attempt.row.status ≠ .completed ∨
      attempt.row.closeoutReceiptStatus = none ∨
      terminalEventAlreadyWritten queue attempt linkedCompletedEvent = true then queue
  else announce texts queue attempt.stageAttemptId (linkedCompletedEventInput profiles attempt)
    (linkedCompletedNotification profiles attempt) stamp

def blockLinkedDefaultExecutorTaskForDurableRow (attempt : StoredAttempt) (input : BlockInput)
    (stamp : AnnouncementStamp) : RuntimeQueue :=
  if linkedDefaultExecutorPayload profiles attempt = none ∨
      hasLaterLinkedAttempt queue attempt = true ∨
      hasLaterAcceptedCloseoutAttempt queue attempt = true ∨
      (attempt.row.status ≠ .blocked ∧ attempt.row.status ≠ .failed) ∨
      attempt.row.blockedReason ≠ some input.reason ∨
      terminalEventAlreadyWritten queue attempt input.eventType = true then queue
  else announce texts queue attempt.stageAttemptId (linkedBlockedEventInput attempt input)
    (linkedBlockedNotification attempt input) stamp

/-- The row that a call is admitted to. -/
def admittedAttempt (stageAttemptId : String) (admission : ScopeAdmission) :
    Checked StoredAttempt :=
  match queue.attempts.get? stageAttemptId with
  | none => fail "Stage attempt is not persisted."
  | some attempt => do
    admission attempt.row
    return attempt

/-- `markLinkedDefaultExecutorTaskCompleted`. A failure leaves the queue as it was. -/
def markLinkedDefaultExecutorTaskCompleted (stageAttemptId : String) (admission : ScopeAdmission)
    (stamp : AnnouncementStamp) : Checked RuntimeQueue := do
  let attempt ← admittedAttempt queue stageAttemptId admission
  return markLinkedDefaultExecutorTaskCompletedForDurableRow texts profiles queue attempt stamp

/-- `blockLinkedDefaultExecutorTask`. A failure leaves the queue as it was. -/
def blockLinkedDefaultExecutorTask (stageAttemptId : String) (input : BlockInput)
    (admission : ScopeAdmission) (stamp : AnnouncementStamp) : Checked RuntimeQueue := do
  let attempt ← admittedAttempt queue stageAttemptId admission
  return blockLinkedDefaultExecutorTaskForDurableRow texts profiles queue attempt input stamp

end

/-! ## Closeouts -/

structure CloseoutInput where
  stageAttemptId : String
  packet : SentPacket
  costSummary : Option CostSummary
  createdAt : Int
  /-- The time of the row after the call: the old one when nothing of it is written. -/
  updatedAt : Int

section

variable (closeoutTexts : Texts) (queue : RuntimeQueue) (attempt : StoredAttempt)
  (input : CloseoutInput)

/-- The closeout is stored and completes the row. -/
def recordCloseout : Checked RuntimeQueue := do
  let ledger ← Attempt.ingestStageAttemptCloseout closeoutTexts
    ⟨attempt.row, queue.closeouts.map StoredCloseout.closeout⟩ input.packet input.costSummary
  let packet ← normalizeTypedStageCloseoutPacket input.packet
  return { queue with
    attempts := queue.attempts.write ledger.row input.updatedAt
    closeouts := queue.closeouts ++
      (ledger.closeouts.drop queue.closeouts.length).map (⟨·, input.createdAt⟩)
    taken := queue.taken ++ [closeoutRowOf closeoutTexts attempt.row packet] }

/-- The usage of the executor is only written on an admitted row. -/
def admitUsage (admission : ScopeAdmission) : Checked Unit :=
  if attempt.row.codexCli then admission attempt.row else .ok ()

/-- `ingestStageAttemptCloseout`. The last step may fail when the closeout is stored already. -/
def ingestStageAttemptCloseout (texts : LedgerTexts) (admission : ScopeAdmission)
    (stamp : AnnouncementStamp) : RuntimeQueue × Checked Unit :=
  match queue.attempts.get? input.stageAttemptId with
  | none => (queue, fail "Family runtime stage attempt not found.")
  | some attempt =>
    match recordCloseout closeoutTexts queue attempt input, admitUsage attempt admission with
    | .ok recorded, .ok () =>
      match reconcileDomainRouteTerminalTaskForAttempt texts recorded input.stageAttemptId
          "typed-closeout-ingest:domain-route-terminal" admission stamp with
      | .ok (settled, _) => (settled, .ok ())
      | .error failure => (recorded, .error failure)
    | .error failure, _ => (queue, .error failure)
    | _, .error failure => (queue, .error failure)

end

/-! ## Reports -/

/-- What an operation announces about an attempt, when it is due and not told yet. -/
structure Report where
  due : Bool
  stageAttemptId : String
  event : EventInput
  notification : NotificationInput
  /-- Only events with a transport receipt count as having told it. -/
  receipt : Bool
  tasks : List TaskRow

namespace Report

variable (report : Report)

/-- The event counts as having told the report. -/
def recognises (event : EventRow) : Bool :=
  event.taskId = report.event.taskId && event.eventType = report.event.eventType &&
    field? event.payload "stage_attempt_id" = some (.string report.stageAttemptId) &&
    (!report.receipt || hasOwn event.payload "opl_transport_receipt")

/-- The report carries the id of its attempt in a small payload. -/
structure Named : Prop where
  stageAttemptId :
    field? report.event.payload "stage_attempt_id" = some (.string report.stageAttemptId)
  small : report.event.payload.length ≤ runtimeLedgerMaxObjectKeys

end Report

/-- Announce what is due and not told. -/
def carryOut (texts : LedgerTexts) (queue : RuntimeQueue) (report : Report)
    (stamp : AnnouncementStamp) : RuntimeQueue :=
  if report.due = true ∧ queue.events.any report.recognises = false then
    announce texts { queue with tasks := report.tasks } report.stageAttemptId report.event
      report.notification stamp
  else queue

section

variable (profiles : DomainProfiles) (queue : RuntimeQueue)

def reconcileReport (row : TaskRow) (attempt : StoredAttempt) (source : String) : Report where
  due := isDomainRouteStageRouteTask row && terminalStatus attempt.row.status &&
    !hasLaterLiveLinkedStageAttempt queue attempt && canReconcileTask row attempt &&
    updateChanges queue row
  stageAttemptId := attempt.stageAttemptId
  event := terminalEvent row attempt (taskStatusForTerminalAttempt attempt.row) source
  notification := terminalNotification row attempt (taskStatusForTerminalAttempt attempt.row)
  receipt := true
  tasks := updateTasks queue row (taskStatusForTerminalAttempt attempt.row)

def completedReport (attempt : StoredAttempt) : Report where
  due := (linkedDefaultExecutorPayload profiles attempt).isSome &&
    !hasLaterLinkedAttempt queue attempt && attempt.row.status = .completed &&
    attempt.row.closeoutReceiptStatus.isSome
  stageAttemptId := attempt.stageAttemptId
  event := linkedCompletedEventInput profiles attempt
  notification := linkedCompletedNotification profiles attempt
  receipt := false
  tasks := queue.tasks

def blockedReport (attempt : StoredAttempt) (input : BlockInput) : Report where
  due := (linkedDefaultExecutorPayload profiles attempt).isSome &&
    !hasLaterLinkedAttempt queue attempt && !hasLaterAcceptedCloseoutAttempt queue attempt &&
    (attempt.row.status = .blocked || attempt.row.status = .failed) &&
    attempt.row.blockedReason = some input.reason
  stageAttemptId := attempt.stageAttemptId
  event := linkedBlockedEventInput attempt input
  notification := linkedBlockedNotification attempt input
  receipt := false
  tasks := queue.tasks

end

/-! ## The operations are reports -/

section

variable {texts : LedgerTexts} {profiles : DomainProfiles} {queue : RuntimeQueue}
  {attempt : StoredAttempt} {stamp : AnnouncementStamp}

theorem reconcileReport_named (row : TaskRow) (source : String) :
    (reconcileReport queue row attempt source).Named where
  stageAttemptId := by simp [reconcileReport, terminalEvent, field?_cons]
  small := by simp [reconcileReport, terminalEvent, runtimeLedgerMaxObjectKeys]

theorem completedReport_named : (completedReport profiles queue attempt).Named where
  stageAttemptId := by
    simp [completedReport, linkedCompletedEventInput, field?]
  small := by
    cases answered : profiles.answered attempt <;>
      simp [completedReport, linkedCompletedEventInput, answered, runtimeLedgerMaxObjectKeys]

theorem blockedReport_named (input : BlockInput) :
    (blockedReport profiles queue attempt input).Named where
  stageAttemptId := by simp [blockedReport, linkedBlockedEventInput, field?]
  small := by simp [blockedReport, linkedBlockedEventInput, runtimeLedgerMaxObjectKeys]

theorem alreadyReconciled_eq (row : TaskRow) (source : String) :
    alreadyReconciled queue row attempt =
      queue.events.any (reconcileReport queue row attempt source).recognises := by
  unfold alreadyReconciled
  congr 1

theorem reconcileTaskRowWithAttempt_eq (row : TaskRow) (source : String) :
    (reconcileTaskRowWithAttempt texts queue row attempt source stamp).1 =
      carryOut texts queue (reconcileReport queue row attempt source) stamp := by
  unfold carryOut
  rw [← alreadyReconciled_eq]
  rcases reconcileTaskRowWithAttempt_cases texts queue row attempt source stamp with
    ⟨unchanged, kept⟩ | ⟨written, admitted, changes⟩
  · rw [unchanged, if_neg]
    rintro ⟨due, untold⟩
    simp only [reconcileReport, Bool.and_eq_true, Bool.not_eq_true'] at due
    obtain ⟨⟨⟨⟨route, terminal⟩, lone⟩, reconcilable⟩, changes⟩ := due
    exact kept ⟨⟨route, terminal, lone, reconcilable, untold⟩, changes⟩
  · obtain ⟨route, terminal, lone, reconcilable, untold⟩ := admitted
    rw [written, if_pos]
    · rfl
    · simp [reconcileReport, route, terminal, lone, reconcilable, untold, changes]

/-- The task of an executor whose payload is linked. -/
theorem linked_of_payload (payload : linkedDefaultExecutorPayload profiles attempt ≠ none) :
    ∃ taskId, attempt.linkedTask = some taskId ∧ attempt.taskId = some taskId := by
  unfold linkedDefaultExecutorPayload at payload
  cases linked : attempt.linkedTask with
  | none => simp [linked] at payload
  | some taskId => exact ⟨taskId, rfl, (StoredAttempt.linkedTask_eq_some.1 linked).1⟩

variable (queue) in
/-- A linked task has been told by the events that its report recognises. -/
theorem terminalEventAlreadyWritten_eq (report : Report)
    (payload : linkedDefaultExecutorPayload profiles attempt ≠ none)
    (task : report.event.taskId = attempt.taskId)
    (own : report.stageAttemptId = attempt.stageAttemptId) (plain : report.receipt = false) :
    terminalEventAlreadyWritten queue attempt report.event.eventType =
      queue.events.any report.recognises := by
  obtain ⟨taskId, linked, named⟩ := linked_of_payload payload
  unfold terminalEventAlreadyWritten
  rw [linked]
  refine congrArg (queue.events.any ·) (funext fun event => ?_)
  simp [EventRow.tells, Report.recognises, task, named, own, plain]

theorem completed_eq :
    markLinkedDefaultExecutorTaskCompletedForDurableRow texts profiles queue attempt stamp =
      carryOut texts queue (completedReport profiles queue attempt) stamp := by
  unfold markLinkedDefaultExecutorTaskCompletedForDurableRow carryOut
  by_cases payload : linkedDefaultExecutorPayload profiles attempt = none
  · rw [if_pos (.inl payload), if_neg]
    simp [completedReport, payload]
  · have told := terminalEventAlreadyWritten_eq queue (completedReport profiles queue attempt)
      payload rfl rfl rfl
    have held : (linkedDefaultExecutorPayload profiles attempt = none ∨
        hasLaterLinkedAttempt queue attempt = true ∨ attempt.row.status ≠ .completed ∨
        attempt.row.closeoutReceiptStatus = none ∨
        terminalEventAlreadyWritten queue attempt linkedCompletedEvent = true) ↔
        ¬ ((completedReport profiles queue attempt).due = true ∧
          queue.events.any (completedReport profiles queue attempt).recognises = false) := by
      rw [← told]
      simp only [completedReport, Bool.and_eq_true, Bool.not_eq_true', decide_eq_true_eq,
        Option.isSome_iff_ne_none, linkedCompletedEventInput]
      rw [← Bool.not_eq_true, ← Bool.not_eq_true]
      tauto
    rw [if_congr held rfl rfl, ite_not]
    rfl

theorem blocked_eq (input : BlockInput) :
    blockLinkedDefaultExecutorTaskForDurableRow texts profiles queue attempt input stamp =
      carryOut texts queue (blockedReport profiles queue attempt input) stamp := by
  unfold blockLinkedDefaultExecutorTaskForDurableRow carryOut
  by_cases payload : linkedDefaultExecutorPayload profiles attempt = none
  · rw [if_pos (.inl payload), if_neg]
    simp [blockedReport, payload]
  · have told := terminalEventAlreadyWritten_eq queue (blockedReport profiles queue attempt input)
      payload rfl rfl rfl
    have held : (linkedDefaultExecutorPayload profiles attempt = none ∨
        hasLaterLinkedAttempt queue attempt = true ∨
        hasLaterAcceptedCloseoutAttempt queue attempt = true ∨
        (attempt.row.status ≠ .blocked ∧ attempt.row.status ≠ .failed) ∨
        attempt.row.blockedReason ≠ some input.reason ∨
        terminalEventAlreadyWritten queue attempt input.eventType = true) ↔
        ¬ ((blockedReport profiles queue attempt input).due = true ∧
          queue.events.any (blockedReport profiles queue attempt input).recognises = false) := by
      rw [← told]
      simp only [blockedReport, Bool.and_eq_true, Bool.or_eq_true, Bool.not_eq_true',
        decide_eq_true_eq, Option.isSome_iff_ne_none, linkedBlockedEventInput]
      rw [← Bool.not_eq_true, ← Bool.not_eq_true, ← Bool.not_eq_true]
      tauto
    rw [if_congr held rfl rfl, ite_not]
    rfl

end

end OnePersonLab.Queue

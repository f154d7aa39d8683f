import Mathlib.Data.List.Nodup
import OnePersonLab.Attempt.CloseoutIngest
import OnePersonLab.Lib.Utf16

/-!
# The runtime queue

The tables of the family runtime: tasks, stage attempts, closeouts, and the two histories
of events and notifications. A payload is bounded before it is written, and an insertion
may be followed by a pass that prunes the histories.
-/

namespace OnePersonLab.Queue

open Contract Stage Attempt Lib

/-! ## Rows -/

inductive TaskStatus where
  | queued
  | waitingApproval
  | running
  | succeeded
  | retryWaiting
  | blocked
  | deadLetter
  | denied
  deriving DecidableEq, Repr

def TaskStatus.text : TaskStatus → String
  | .queued => "queued"
  | .waitingApproval => "waiting_approval"
  | .running => "running"
  | .succeeded => "succeeded"
  | .retryWaiting => "retry_waiting"
  | .blocked => "blocked"
  | .deadLetter => "dead_letter"
  | .denied => "denied"

def statusText : AttemptStatus → String
  | .queued => "queued"
  | .running => "running"
  | .checkpointed => "checkpointed"
  | .blocked => "blocked"
  | .humanGate => "human_gate"
  | .completed => "completed"
  | .failed => "failed"
  | .deadLettered => "dead_lettered"

def receiptStatusText : CloseoutReceiptStatus → String
  | .acceptedTypedCloseout => "accepted_typed_closeout"
  | .frameworkProgressEnvelope => "framework_progress_envelope"

/-- A row of `tasks`. -/
structure TaskRow where
  taskId : String
  domainId : String
  taskKind : String
  payload : JsonRecord
  status : TaskStatus
  lastError : Option String
  deadLetterReason : Option String
  deriving DecidableEq

/-- A row of `stage_attempts` with the columns that order it and link it to a task. -/
structure StoredAttempt where
  row : AttemptRow
  taskId : Option String
  createdAt : Int
  updatedAt : Int
  rowid : Nat
  deriving DecidableEq

def StoredAttempt.stageAttemptId (attempt : StoredAttempt) : String := attempt.row.stageAttemptId

/-- The task of an attempt: an empty id links it to none. -/
def StoredAttempt.linkedTask (attempt : StoredAttempt) : Option String :=
  attempt.taskId.filter (· ≠ "")

theorem StoredAttempt.linkedTask_eq_some {attempt : StoredAttempt} {taskId : String} :
    attempt.linkedTask = some taskId ↔ attempt.taskId = some taskId ∧ taskId ≠ "" := by
  simp [linkedTask, Option.filter_eq_some_iff]

/-- `created_at > @created_at OR (created_at = @created_at AND rowid > …)`. -/
def StoredAttempt.LaterThan (later attempt : StoredAttempt) : Prop :=
  attempt.createdAt < later.createdAt ∨
    later.createdAt = attempt.createdAt ∧ attempt.rowid < later.rowid

instance (later attempt : StoredAttempt) : Decidable (later.LaterThan attempt) :=
  inferInstanceAs (Decidable (_ ∨ _))

/-- The table of attempts: its two keys are unique. -/
structure AttemptTable where
  rows : List StoredAttempt
  distinctIds : (rows.map StoredAttempt.stageAttemptId).Nodup
  distinctRowids : (rows.map StoredAttempt.rowid).Nodup
  deriving DecidableEq

structure EventRow where
  eventId : String
  taskId : Option String
  domainId : Option String
  eventType : String
  source : String
  payload : JsonRecord
  createdAt : Int
  deriving DecidableEq

inductive Severity where
  | info
  | warning
  | error
  deriving DecidableEq, Repr

structure NotificationRow where
  notificationId : String
  taskId : Option String
  severity : Severity
  title : String
  body : String
  payload : JsonRecord
  createdAt : Int
  deriving DecidableEq

structure StoredCloseout where
  closeout : CloseoutRow
  createdAt : Int
  deriving DecidableEq

/-- A terminal attempt that has been told and notified. -/
structure Announcement where
  stageAttemptId : String
  event : EventRow
  notification : NotificationRow
  deriving DecidableEq

/-- The tables. What has been announced and which closeouts have been taken is kept for the
statements: nothing reads it, and no pass prunes it. -/
structure RuntimeQueue where
  tasks : List TaskRow
  attempts : AttemptTable
  events : List EventRow
  notifications : List NotificationRow
  closeouts : List StoredCloseout
  announced : List Announcement
  taken : List CloseoutRow
  deriving DecidableEq

/-! ## Reading and writing rows -/

namespace AttemptTable

variable (table : AttemptTable)

/-- `getStageAttemptRow`. -/
def get? (stageAttemptId : String) : Option StoredAttempt :=
  table.rows.find? (·.stageAttemptId = stageAttemptId)

/-- `UPDATE stage_attempts … WHERE stage_attempt_id = ?`. -/
def rewrite (row : AttemptRow) (updatedAt : Int) (attempt : StoredAttempt) : StoredAttempt :=
  if attempt.stageAttemptId = row.stageAttemptId then
    { attempt with row := row, updatedAt := updatedAt }
  else attempt

theorem rewrite_stageAttemptId (row : AttemptRow) (updatedAt : Int) (attempt : StoredAttempt) :
    (rewrite row updatedAt attempt).stageAttemptId = attempt.stageAttemptId := by
  unfold rewrite
  by_cases own : attempt.stageAttemptId = row.stageAttemptId
  · rw [if_pos own, own]
    rfl
  · rw [if_neg own]

theorem rewrite_rowid (row : AttemptRow) (updatedAt : Int) (attempt : StoredAttempt) :
    (rewrite row updatedAt attempt).rowid = attempt.rowid := by
  unfold rewrite
  split <;> rfl

theorem rewrite_taskId (row : AttemptRow) (updatedAt : Int) (attempt : StoredAttempt) :
    (rewrite row updatedAt attempt).taskId = attempt.taskId := by
  unfold rewrite
  split <;> rfl

theorem rewrite_linkedTask (row : AttemptRow) (updatedAt : Int) (attempt : StoredAttempt) :
    (rewrite row updatedAt attempt).linkedTask = attempt.linkedTask := by
  unfold StoredAttempt.linkedTask
  rw [rewrite_taskId]

theorem rewrite_createdAt (row : AttemptRow) (updatedAt : Int) (attempt : StoredAttempt) :
    (rewrite row updatedAt attempt).createdAt = attempt.createdAt := by
  unfold rewrite
  split <;> rfl

def write (row : AttemptRow) (updatedAt : Int) : AttemptTable where
  rows := table.rows.map (rewrite row updatedAt)
  distinctIds := by
    have kept : StoredAttempt.stageAttemptId ∘ rewrite row updatedAt =
        StoredAttempt.stageAttemptId := funext (rewrite_stageAttemptId row updatedAt)
    rw [List.map_map, kept]
    exact table.distinctIds
  distinctRowids := by
    have kept : StoredAttempt.rowid ∘ rewrite row updatedAt = StoredAttempt.rowid :=
      funext (rewrite_rowid row updatedAt)
    rw [List.map_map, kept]
    exact table.distinctRowids

theorem get?_some {table : AttemptTable} {stageAttemptId : String} {attempt : StoredAttempt}
    (found : table.get? stageAttemptId = some attempt) :
    attempt ∈ table.rows ∧ attempt.stageAttemptId = stageAttemptId :=
  ⟨List.mem_of_find?_eq_some found, by simpa using List.find?_some found⟩

/-- Two rows of one id are one row. -/
theorem eq_of_stageAttemptId {table : AttemptTable} {attempt other : StoredAttempt}
    (listed : attempt ∈ table.rows) (listed' : other ∈ table.rows)
    (same : attempt.stageAttemptId = other.stageAttemptId) : attempt = other :=
  List.inj_on_of_nodup_map table.distinctIds listed listed' same

theorem get?_of_mem {table : AttemptTable} {attempt : StoredAttempt}
    (listed : attempt ∈ table.rows) : table.get? attempt.stageAttemptId = some attempt := by
  cases found : table.get? attempt.stageAttemptId with
  | none =>
    have absent := List.find?_eq_none.1 found attempt listed
    simp at absent
  | some other =>
    obtain ⟨listed', same⟩ := get?_some found
    rw [eq_of_stageAttemptId listed' listed same]

end AttemptTable

namespace RuntimeQueue

variable (queue : RuntimeQueue)

/-- `SELECT * FROM tasks WHERE task_id = ?`. -/
def task? (taskId : String) : Option TaskRow := queue.tasks.find? (·.taskId = taskId)

/-- `listStageAttemptsForTask`: the last updated first. -/
def listStageAttemptsForTask (taskId : String) : List StoredAttempt :=
  (queue.attempts.rows.filter (·.taskId = some taskId)).mergeSort fun attempt other =>
    other.updatedAt < attempt.updatedAt ||
      (other.updatedAt = attempt.updatedAt && other.createdAt ≤ attempt.createdAt)

theorem mem_listStageAttemptsForTask {queue : RuntimeQueue} {taskId : String}
    {attempt : StoredAttempt} : attempt ∈ queue.listStageAttemptsForTask taskId ↔
      attempt ∈ queue.attempts.rows ∧ attempt.taskId = some taskId := by
  simp [listStageAttemptsForTask]

end RuntimeQueue

/-! ## Bounded payloads -/

/-- `JSON.stringify`, the digest of a text and `value.slice(0, end)`; and the text of a
closeout id. -/
structure LedgerTexts where
  stringify : Json → String
  sha256Text : String → String
  slice : String → Nat → String
  closeoutId : CloseoutId → String

def runtimeLedgerMaxStringLength : Nat := 4096
def runtimeLedgerMaxArrayItems : Nat := 20
def runtimeLedgerMaxObjectKeys : Nat := 40
def runtimeLedgerMaxDepth : Nat := 6
def runtimeLedgerMaxJsonBytes : Nat := 64 * 1024
def runtimeNotificationMaxTitleLength : Nat := 512
def runtimeNotificationMaxBodyLength : Nat := 4096

/-- `value.length`. -/
def textLength (value : String) : Nat := (unitsOf value).length

section

variable (texts : LedgerTexts)

def boundedLedgerText (value : String) : Json :=
  if textLength value ≤ runtimeLedgerMaxStringLength then .string value
  else .object [("surface_kind", .string "opl_runtime_ledger_truncated_string"),
    ("truncated", .bool true), ("original_length", .ofNat (textLength value)),
    ("sha256", .string (texts.sha256Text value)),
    ("preview", .string (texts.slice value runtimeLedgerMaxStringLength))]

/-- What stands for a value that lies too deep. -/
def truncatedValue (value : Json) : Json :=
  .object [("surface_kind", .string "opl_runtime_ledger_truncated_value"),
    ("truncated", .bool true), ("reason", .string "max_depth"),
    ("original_json_length", .ofNat (textLength (texts.stringify value))),
    ("sha256", .string (texts.sha256Text (texts.stringify value)))]

def boundedItems (count : Nat) (items : List Json) : Json :=
  if count ≤ runtimeLedgerMaxArrayItems then .array items
  else .object [("items", .array items), ("truncated", .bool true),
    ("original_length", .ofNat count),
    ("omitted_count", .ofNat (count - runtimeLedgerMaxArrayItems))]

def boundedFields (count : Nat) (fields : JsonRecord) : JsonRecord :=
  if count ≤ runtimeLedgerMaxObjectKeys then fields
  else setField (setField (setField fields "_truncated" (.bool true))
    "_original_key_count" (.ofNat count))
    "_omitted_key_count" (.ofNat (count - runtimeLedgerMaxObjectKeys))

mutual
def boundedLedgerValue : Nat → Json → Json
  | _, .string value => boundedLedgerText texts value
  | depth, .array items =>
    if runtimeLedgerMaxDepth ≤ depth then truncatedValue texts (.array items)
    else boundedItems items.length
      ((boundedLedgerItems (depth + 1) items).take runtimeLedgerMaxArrayItems)
  | depth, .object fields =>
    if runtimeLedgerMaxDepth ≤ depth then truncatedValue texts (.object fields)
    else .object (boundedFields fields.length
      ((boundedLedgerFields (depth + 1) fields).take runtimeLedgerMaxObjectKeys))
  | _, value => value

def boundedLedgerItems : Nat → List Json → List Json
  | _, [] => []
  | depth, item :: items => boundedLedgerValue depth item :: boundedLedgerItems depth items

def boundedLedgerFields : Nat → JsonRecord → JsonRecord
  | _, [] => []
  | depth, (key, entry) :: fields =>
    (key, boundedLedgerValue depth entry) :: boundedLedgerFields depth fields
end

/-- `boundedLedgerValue` of a payload. -/
def boundedLedgerRecord (payload : JsonRecord) : JsonRecord :=
  boundedFields payload.length
    ((boundedLedgerFields texts 1 payload).take runtimeLedgerMaxObjectKeys)

/-- `Buffer.byteLength(serialized)`. -/
def ledgerBytes (payload : JsonRecord) : Nat :=
  (bytes (texts.stringify (.object (boundedLedgerRecord texts payload)))).length

def boundedLedgerPayload (payload : JsonRecord) : JsonRecord :=
  if ledgerBytes texts payload ≤ runtimeLedgerMaxJsonBytes then boundedLedgerRecord texts payload
  else
    let serialized := texts.stringify (.object (boundedLedgerRecord texts payload))
    [("surface_kind", .string "opl_runtime_ledger_truncated_payload"), ("truncated", .bool true),
      ("reason", .string "max_json_bytes"),
      ("original_json_bytes", .ofNat (ledgerBytes texts payload)),
      ("sha256", .string (texts.sha256Text serialized)),
      ("preview", .string (texts.slice serialized runtimeLedgerMaxStringLength))]

def boundedNotificationText (value : String) (maxLength : Nat) : String :=
  if textLength value ≤ maxLength then value
  else
    let suffix := " [truncated sha256:" ++ texts.sha256Text value ++ "]"
    texts.slice value (maxLength - textLength suffix) ++ suffix

end

section

variable {texts : LedgerTexts}

theorem boundedLedgerFields_length (depth : Nat) (fields : JsonRecord) :
    (boundedLedgerFields texts depth fields).length = fields.length := by
  induction fields with
  | nil => rfl
  | cons field fields ih => exact congrArg (· + 1) ih

theorem field?_boundedLedgerFields (depth : Nat) (fields : JsonRecord) (key : String) :
    field? (boundedLedgerFields texts depth fields) key =
      (field? fields key).map (boundedLedgerValue texts depth) := by
  induction fields with
  | nil => rfl
  | cons field fields ih =>
    obtain ⟨name, entry⟩ := field
    unfold field? at ih ⊢
    rw [boundedLedgerFields, List.lookup_cons, List.lookup_cons]
    cases key == name with
    | true => rfl
    | false => exact ih

/-- A text that a bounded value is was the value. -/
theorem eq_string_of_boundedLedgerValue {depth : Nat} {value : Json} {text : String}
    (bounded : boundedLedgerValue texts depth value = .string text) : value = .string text := by
  cases value with
  | string other =>
    simp only [boundedLedgerValue, boundedLedgerText] at bounded
    split at bounded
    · exact bounded
    · cases bounded
  | array items =>
    simp only [boundedLedgerValue] at bounded
    split at bounded
    · cases bounded
    · unfold boundedItems at bounded
      split at bounded <;> cases bounded
  | object fields =>
    simp only [boundedLedgerValue] at bounded
    split at bounded <;> cases bounded
  | null => simp [boundedLedgerValue] at bounded
  | bool value => simp [boundedLedgerValue] at bounded
  | number value => simp [boundedLedgerValue] at bounded

/-- What a bounded payload says about its attempt, the payload says. -/
theorem stageAttemptId_of_bounded {payload : JsonRecord} {stageAttemptId : String}
    (small : payload.length ≤ runtimeLedgerMaxObjectKeys)
    (told : field? (boundedLedgerPayload texts payload) "stage_attempt_id" =
      some (.string stageAttemptId)) :
    field? payload "stage_attempt_id" = some (.string stageAttemptId) := by
  unfold boundedLedgerPayload at told
  split at told
  · unfold boundedLedgerRecord boundedFields at told
    rw [if_pos small, List.take_of_length_le (by rwa [boundedLedgerFields_length]),
      field?_boundedLedgerFields, Option.map_eq_some_iff] at told
    obtain ⟨value, found, bounded⟩ := told
    rw [found, eq_string_of_boundedLedgerValue bounded]
  · simp [field?_cons] at told

end

/-! ## Retention -/

structure RuntimeQueueHistoryRetentionPolicy where
  eventMaxCount : Nat
  eventMaxAgeDays : Nat
  notificationMaxCount : Nat
  notificationMaxAgeDays : Nat
  stageAttemptCloseoutMaxCount : Nat
  stageAttemptCloseoutMaxAgeDays : Nat
  deriving DecidableEq, Repr

/-- A pass over the histories. -/
structure RetentionPass where
  policy : RuntimeQueueHistoryRetentionPolicy
  nowMs : Int
  deriving DecidableEq, Repr

def maxRuntimeHistoryPruneRowsPerTablePerPass : Nat := 5000

def maxAgeBefore (nowMs : Int) (maxAgeDays : Nat) : Int :=
  nowMs - maxAgeDays * 24 * 60 * 60 * 1000

section

variable {α : Type} (createdAt : α → Int) (id : α → String)

def newestFirst (rows : List α) : List α :=
  rows.mergeSort fun row other =>
    createdAt other < createdAt row ||
      (createdAt other = createdAt row && decide (id other ≤ id row))

/-- The ids that a pass deletes: of the rows that are too old or beyond the count, the
oldest ones. -/
def prunedIds (rows : List α) (maxCount : Nat) (oldest : Int) : List String :=
  let excess := ((newestFirst createdAt id rows).drop maxCount).map id
  let prunable := rows.filter fun row => createdAt row < oldest || excess.contains (id row)
  ((newestFirst createdAt id prunable).reverse.take
    maxRuntimeHistoryPruneRowsPerTablePerPass).map id

/-- `pruneTimestampedTable`. -/
def pruneTimestampedTable (rows : List α) (maxCount : Nat) (oldest : Int) : List α :=
  rows.filter fun row => !(prunedIds createdAt id rows maxCount oldest).contains (id row)

end

section

variable (texts : LedgerTexts)

/-- The attempt of a closeout has one of the final statuses. -/
def closeoutSettled (table : AttemptTable) (closeout : StoredCloseout) : Bool :=
  table.rows.any fun attempt => attempt.stageAttemptId = closeout.closeout.stageAttemptId &&
    (attempt.row.status = .completed || attempt.row.status = .failed ||
      attempt.row.status = .deadLettered)

def StoredCloseout.text (closeout : StoredCloseout) : String :=
  texts.closeoutId closeout.closeout.closeoutId

/-- `pruneStageAttemptCloseoutHistory`. -/
def pruneStageAttemptCloseoutHistory (table : AttemptTable) (closeouts : List StoredCloseout)
    (maxCount : Nat) (oldest : Int) : List StoredCloseout :=
  let pruned := prunedIds StoredCloseout.createdAt (StoredCloseout.text texts)
    (closeouts.filter (closeoutSettled table)) maxCount oldest
  closeouts.filter fun closeout => !pruned.contains (closeout.text texts)

def pruneRuntimeQueueHistory (queue : RuntimeQueue) (pass : RetentionPass) : RuntimeQueue :=
  { queue with
    events := pruneTimestampedTable EventRow.createdAt EventRow.eventId queue.events
      pass.policy.eventMaxCount (maxAgeBefore pass.nowMs pass.policy.eventMaxAgeDays)
    notifications := pruneTimestampedTable NotificationRow.createdAt NotificationRow.notificationId
      queue.notifications pass.policy.notificationMaxCount
      (maxAgeBefore pass.nowMs pass.policy.notificationMaxAgeDays)
    closeouts := pruneStageAttemptCloseoutHistory texts queue.attempts queue.closeouts
      pass.policy.stageAttemptCloseoutMaxCount
      (maxAgeBefore pass.nowMs pass.policy.stageAttemptCloseoutMaxAgeDays) }

/-- `maybePruneRuntimeQueueHistory`: a pass is made when the last one is long enough ago. -/
def maybePruneRuntimeQueueHistory (queue : RuntimeQueue) (due : Option RetentionPass) :
    RuntimeQueue :=
  match due with
  | some pass => pruneRuntimeQueueHistory texts queue pass
  | none => queue

/-! ## Insertions -/

/-- What an insertion draws: its id, the time, and the pass that is due after it. -/
structure InsertionStamp where
  id : String
  createdAt : Int
  due : Option RetentionPass
  deriving DecidableEq, Repr

structure EventInput where
  taskId : Option String
  domainId : Option String
  eventType : String
  source : String
  payload : JsonRecord

structure NotificationInput where
  taskId : Option String
  severity : Severity
  title : String
  body : String
  payload : JsonRecord

def eventRow (input : EventInput) (stamp : InsertionStamp) : EventRow where
  eventId := stamp.id
  taskId := input.taskId
  domainId := input.domainId
  eventType := input.eventType
  source := input.source
  payload := boundedLedgerPayload texts input.payload
  createdAt := stamp.createdAt

def notificationRow (input : NotificationInput) (stamp : InsertionStamp) : NotificationRow where
  notificationId := stamp.id
  taskId := input.taskId
  severity := input.severity
  title := boundedNotificationText texts input.title runtimeNotificationMaxTitleLength
  body := boundedNotificationText texts input.body runtimeNotificationMaxBodyLength
  payload := boundedLedgerPayload texts input.payload
  createdAt := stamp.createdAt

def insertEvent (queue : RuntimeQueue) (input : EventInput) (stamp : InsertionStamp) :
    RuntimeQueue :=
  maybePruneRuntimeQueueHistory texts
    { queue with events := queue.events ++ [eventRow texts input stamp] } stamp.due

def insertNotification (queue : RuntimeQueue) (input : NotificationInput)
    (stamp : InsertionStamp) : RuntimeQueue :=
  maybePruneRuntimeQueueHistory texts
    { queue with notifications := queue.notifications ++ [notificationRow texts input stamp] }
    stamp.due

/-- What the two insertions of an announcement draw. -/
structure AnnouncementStamp where
  event : InsertionStamp
  notification : InsertionStamp
  deriving DecidableEq, Repr

def announcement (stageAttemptId : String) (event : EventInput) (notification : NotificationInput)
    (stamp : AnnouncementStamp) : Announcement where
  stageAttemptId := stageAttemptId
  event := eventRow texts event stamp.event
  notification := notificationRow texts notification stamp.notification

/-- An event and the notification after it. -/
def announce (queue : RuntimeQueue) (stageAttemptId : String) (event : EventInput)
    (notification : NotificationInput) (stamp : AnnouncementStamp) : RuntimeQueue :=
  let told := insertEvent texts queue event stamp.event
  let notified := insertNotification texts told notification stamp.notification
  { notified with
    announced := notified.announced ++
      [announcement texts stageAttemptId event notification stamp] }

end

/-! ## What the histories do not touch -/

section

variable (texts : LedgerTexts) (queue : RuntimeQueue)

@[simp] theorem pruneRuntimeQueueHistory_tasks (pass : RetentionPass) :
    (pruneRuntimeQueueHistory texts queue pass).tasks = queue.tasks := rfl

@[simp] theorem pruneRuntimeQueueHistory_attempts (pass : RetentionPass) :
    (pruneRuntimeQueueHistory texts queue pass).attempts = queue.attempts := rfl

@[simp] theorem maybePruneRuntimeQueueHistory_tasks (due : Option RetentionPass) :
    (maybePruneRuntimeQueueHistory texts queue due).tasks = queue.tasks := by
  cases due <;> rfl

@[simp] theorem maybePruneRuntimeQueueHistory_attempts (due : Option RetentionPass) :
    (maybePruneRuntimeQueueHistory texts queue due).attempts = queue.attempts := by
  cases due <;> rfl

theorem announce_tasks (stageAttemptId : String) (event : EventInput)
    (notification : NotificationInput) (stamp : AnnouncementStamp) :
    (announce texts queue stageAttemptId event notification stamp).tasks = queue.tasks := by
  simp [announce, insertEvent, insertNotification]

theorem announce_attempts (stageAttemptId : String) (event : EventInput)
    (notification : NotificationInput) (stamp : AnnouncementStamp) :
    (announce texts queue stageAttemptId event notification stamp).attempts =
      queue.attempts := by
  simp [announce, insertEvent, insertNotification]

end

end OnePersonLab.Queue

import OnePersonLab.Queue.LatestOutcome
import OnePersonLab.Queue.LinkedTask

/-!
# Retention and the memory of the queue

A run with passes of retention beside the same run without them. The two stay together as
long as no operation relies on a row that a pass has pruned.
-/

namespace OnePersonLab.Queue

open Contract Stage Attempt Lib

/-! ## Runs with and without passes -/

inductive HistoryCall where
  | ingest (input : CloseoutInput) (admission : ScopeAdmission) (stamp : AnnouncementStamp)
  | markCompleted (stageAttemptId : String) (admission : ScopeAdmission)
    (stamp : AnnouncementStamp)
  | block (stageAttemptId : String) (input : BlockInput) (admission : ScopeAdmission)
    (stamp : AnnouncementStamp)
  | reconcile (stageAttemptId source : String) (admission : ScopeAdmission)
    (stamp : AnnouncementStamp)

inductive HistoryStep where
  | call (call : HistoryCall)
  | prune (pass : RetentionPass)

/-- The insertions without the passes that are due after them. -/
def AnnouncementStamp.whole (stamp : AnnouncementStamp) : AnnouncementStamp where
  event := { stamp.event with due := none }
  notification := { stamp.notification with due := none }

def HistoryCall.whole : HistoryCall → HistoryCall
  | .ingest input admission stamp => .ingest input admission stamp.whole
  | .markCompleted stageAttemptId admission stamp =>
    .markCompleted stageAttemptId admission stamp.whole
  | .block stageAttemptId input admission stamp =>
    .block stageAttemptId input admission stamp.whole
  | .reconcile stageAttemptId source admission stamp =>
    .reconcile stageAttemptId source admission stamp.whole

/-- The steps without any pass. -/
def wholeSteps (steps : List HistoryStep) : List HistoryStep :=
  steps.filterMap fun step =>
    match step with
    | .call call => some (.call call.whole)
    | .prune _ => none

section

variable (texts : LedgerTexts) (closeoutTexts : Texts) (profiles : DomainProfiles)

/-- The queue after a fallible operation, and whether it was accepted. -/
def settle {α : Type} (queue : RuntimeQueue) (next : α → RuntimeQueue) :
    Checked α → RuntimeQueue × Bool
  | .ok value => (next value, true)
  | .error _ => (queue, false)

def perform (queue : RuntimeQueue) : HistoryCall → RuntimeQueue × Bool
  | .ingest input admission stamp =>
    let (settled, outcome) :=
      ingestStageAttemptCloseout closeoutTexts queue input texts admission stamp
    (settled, outcome.isOk)
  | .markCompleted stageAttemptId admission stamp =>
    settle queue id (markLinkedDefaultExecutorTaskCompleted texts profiles queue stageAttemptId
      admission stamp)
  | .block stageAttemptId input admission stamp =>
    settle queue id (blockLinkedDefaultExecutorTask texts profiles queue stageAttemptId input
      admission stamp)
  | .reconcile stageAttemptId source admission stamp =>
    settle queue Prod.fst (reconcileDomainRouteTerminalTaskForAttempt texts queue stageAttemptId
      source admission stamp)

/-- The queue after the steps, and which of the calls were accepted. -/
def runSteps (queue : RuntimeQueue) : List HistoryStep → RuntimeQueue × List Bool
  | [] => (queue, [])
  | .call call :: rest =>
    let (next, accepted) := perform texts closeoutTexts profiles queue call
    let (final, outcomes) := runSteps next rest
    (final, accepted :: outcomes)
  | .prune pass :: rest => runSteps (pruneRuntimeQueueHistory texts queue pass) rest

end

/-! ## What is relied on -/

/-- The task, the kind and the attempt of an announcement. -/
structure AnnouncementKey where
  taskId : Option String
  eventType : String
  stageAttemptId : String
  deriving DecidableEq, Repr

def Announcement.key (announced : Announcement) : AnnouncementKey where
  taskId := announced.event.taskId
  eventType := announced.event.eventType
  stageAttemptId := announced.stageAttemptId

def Report.key (report : Report) : AnnouncementKey where
  taskId := report.event.taskId
  eventType := report.event.eventType
  stageAttemptId := report.stageAttemptId

/-- A report that is due and that the events do not tell has never been announced. -/
def Remembers (start queue : RuntimeQueue) (report : Report) : Prop :=
  report.due = true → queue.events.any report.recognises = false →
    start.events.any report.recognises = false ∧
      report.key ∉ queue.announced.map Announcement.key

/-- Every closeout that was ever taken. -/
def everTaken (start queue : RuntimeQueue) : List CloseoutRow :=
  start.closeouts.map StoredCloseout.closeout ++ queue.taken

/-- A closeout with the id of one that was ever taken is that one. -/
def TakenOnce (start queue : RuntimeQueue) (closeout : CloseoutRow) : Prop :=
  ∀ taken ∈ everTaken start queue, taken.closeoutId = closeout.closeoutId → taken = closeout

section

variable (closeoutTexts : Texts) (profiles : DomainProfiles) (start queue : RuntimeQueue)

def ReconcileRemembers (stageAttemptId source : String) : Prop :=
  ∀ candidate ∈ linkedCandidate? queue stageAttemptId,
    Remembers start queue (reconcileReport queue candidate.task candidate.attempt source)

/-- A closeout that is recorded has not been pruned as another one, and its attempt is not
announced again. -/
def IngestRemembers (attempt : StoredAttempt) (input : CloseoutInput) : Prop :=
  ∀ recorded, recordCloseout closeoutTexts queue attempt input = .ok recorded →
    (∀ packet, normalizeTypedStageCloseoutPacket input.packet = .ok packet →
      TakenOnce start queue (closeoutRowOf closeoutTexts attempt.row packet)) ∧
    ReconcileRemembers start recorded input.stageAttemptId
      "typed-closeout-ingest:domain-route-terminal"

/-- The call relies on no row that has been pruned. -/
def CallRemembers : HistoryCall → Prop
  | .ingest input admission _ => ∀ attempt ∈ queue.attempts.get? input.stageAttemptId,
      admitUsage attempt admission = .ok () → IngestRemembers closeoutTexts start queue attempt input
  | .markCompleted stageAttemptId admission _ =>
    ∀ attempt, admittedAttempt queue stageAttemptId admission = .ok attempt →
      Remembers start queue (completedReport profiles queue attempt)
  | .block stageAttemptId input admission _ =>
    ∀ attempt, admittedAttempt queue stageAttemptId admission = .ok attempt →
      Remembers start queue (blockedReport profiles queue attempt input)
  | .reconcile stageAttemptId source admission _ =>
    ∀ attempt ∈ queue.attempts.get? stageAttemptId, admission attempt.row = .ok () →
      ReconcileRemembers start queue stageAttemptId source

/-- Every call of the run relies on no row that has been pruned before it. -/
def NothingForgotten (texts : LedgerTexts) (queue : RuntimeQueue) : List HistoryStep → Prop
  | [] => True
  | .call call :: rest =>
    CallRemembers closeoutTexts profiles start queue call ∧
      NothingForgotten texts (perform texts closeoutTexts profiles queue call).1 rest
  | .prune pass :: rest => NothingForgotten texts (pruneRuntimeQueueHistory texts queue pass) rest

end

/-! ## What a pass leaves -/

/-- The histories have lost rows, and nothing else has changed. -/
structure Prunes (before after : RuntimeQueue) : Prop where
  tasks : after.tasks = before.tasks
  attempts : after.attempts = before.attempts
  announced : after.announced = before.announced
  taken : after.taken = before.taken
  events : after.events ⊆ before.events
  closeouts : after.closeouts ⊆ before.closeouts

section

variable {texts : LedgerTexts} {queue : RuntimeQueue}

variable (texts queue) in
theorem pruneRuntimeQueueHistory_prunes (pass : RetentionPass) :
    Prunes queue (pruneRuntimeQueueHistory texts queue pass) where
  tasks := rfl
  attempts := rfl
  announced := rfl
  taken := rfl
  events := List.filter_subset_self _
  closeouts := List.filter_subset_self _

variable (texts queue) in
theorem maybePruneRuntimeQueueHistory_prunes (due : Option RetentionPass) :
    Prunes queue (maybePruneRuntimeQueueHistory texts queue due) := by
  cases due with
  | none => exact ⟨rfl, rfl, rfl, rfl, List.Subset.refl _, List.Subset.refl _⟩
  | some pass => exact pruneRuntimeQueueHistory_prunes texts queue pass

variable {stageAttemptId : String} {event : EventInput} {notification : NotificationInput}
  {stamp : AnnouncementStamp}

/-- An announcement adds its event and nothing else to what was there. -/
structure Announces (before after : RuntimeQueue) (latest : Announcement) : Prop where
  tasks : after.tasks = before.tasks
  attempts : after.attempts = before.attempts
  announced : after.announced = before.announced ++ [latest]
  taken : after.taken = before.taken
  events : after.events ⊆ before.events ++ [latest.event]
  closeouts : after.closeouts ⊆ before.closeouts

variable (texts queue stageAttemptId event notification stamp) in
theorem announce_announces : Announces queue
    (announce texts queue stageAttemptId event notification stamp)
    (announcement texts stageAttemptId event notification stamp) := by
  have told := maybePruneRuntimeQueueHistory_prunes texts
    { queue with events := queue.events ++ [eventRow texts event stamp.event] } stamp.event.due
  have notified := maybePruneRuntimeQueueHistory_prunes texts
    { insertEvent texts queue event stamp.event with
      notifications := (insertEvent texts queue event stamp.event).notifications ++
        [notificationRow texts notification stamp.notification] } stamp.notification.due
  exact {
    tasks := notified.tasks.trans told.tasks
    attempts := notified.attempts.trans told.attempts
    announced := congrArg (· ++ [_]) (notified.announced.trans told.announced)
    taken := notified.taken.trans told.taken
    events := List.Subset.trans notified.events told.events
    closeouts := List.Subset.trans notified.closeouts told.closeouts }

/-- Without a pass, all events stay. -/
theorem announce_whole_events :
    (announce texts queue stageAttemptId event notification stamp.whole).events =
      queue.events ++ [eventRow texts event stamp.event] := rfl

end

/-! ## The two runs -/

/-- The run with passes beside the one without them. -/
structure Mirrors (start whole pruned : RuntimeQueue) : Prop where
  tasks : whole.tasks = pruned.tasks
  attempts : whole.attempts = pruned.attempts
  announced : whole.announced = pruned.announced
  taken : whole.taken = pruned.taken
  allEvents : whole.events = start.events ++ pruned.announced.map Announcement.event
  events : pruned.events ⊆ whole.events
  allCloseouts : ∀ closeout, closeout ∈ whole.closeouts.map StoredCloseout.closeout ↔
    closeout ∈ everTaken start pruned
  closeouts : pruned.closeouts.map StoredCloseout.closeout ⊆
    whole.closeouts.map StoredCloseout.closeout

/-- Nothing has been announced twice, and no id has been taken for two closeouts. -/
structure Once (start queue : RuntimeQueue) : Prop where
  named : ∀ announced ∈ queue.announced, ∀ stageAttemptId,
    field? announced.event.payload "stage_attempt_id" = some (.string stageAttemptId) →
      stageAttemptId = announced.stageAttemptId
  keys : (queue.announced.map Announcement.key).Nodup
  ids : ∀ taken ∈ everTaken start queue, TakenOnce start queue taken

section

variable {texts : LedgerTexts} {start whole pruned after : RuntimeQueue} {report : Report}
  {stamp : AnnouncementStamp}

theorem Mirrors.prune (mirrors : Mirrors start whole pruned) (prunes : Prunes pruned after) :
    Mirrors start whole after where
  tasks := mirrors.tasks.trans prunes.tasks.symm
  attempts := mirrors.attempts.trans prunes.attempts.symm
  announced := mirrors.announced.trans prunes.announced.symm
  taken := mirrors.taken.trans prunes.taken.symm
  allEvents := by rw [prunes.announced]; exact mirrors.allEvents
  events := List.Subset.trans prunes.events mirrors.events
  allCloseouts := by
    unfold everTaken
    rw [prunes.taken]
    exact mirrors.allCloseouts
  closeouts := List.Subset.trans (List.map_subset _ prunes.closeouts) mirrors.closeouts

theorem Once.prune (once : Once start pruned) (prunes : Prunes pruned after) :
    Once start after := by
  obtain ⟨named, keys, ids⟩ := once
  unfold TakenOnce everTaken at ids
  refine ⟨?_, ?_, ?_⟩
  · rwa [prunes.announced]
  · rwa [prunes.announced]
  · unfold TakenOnce everTaken
    rwa [prunes.taken]

/-- The event of an announcement is recognised by reports of its own key alone. -/
theorem key_of_recognised {announced : Announcement}
    (named : ∀ stageAttemptId, field? announced.event.payload "stage_attempt_id" =
      some (.string stageAttemptId) → stageAttemptId = announced.stageAttemptId)
    (recognised : report.recognises announced.event = true) : announced.key = report.key := by
  simp only [Report.recognises, Bool.and_eq_true, decide_eq_true_eq] at recognised
  obtain ⟨⟨⟨task, kind⟩, attempt⟩, -⟩ := recognised
  simp only [Announcement.key, Report.key, AnnouncementKey.mk.injEq]
  exact ⟨task, kind, (named _ attempt).symm⟩

/-- A report that has never been announced is not told in the whole run either. -/
theorem Mirrors.untold (mirrors : Mirrors start whole pruned) (once : Once start pruned)
    (fresh : start.events.any report.recognises = false)
    (new : report.key ∉ pruned.announced.map Announcement.key) :
    whole.events.any report.recognises = false := by
  rw [mirrors.allEvents, List.any_append, fresh, Bool.false_or, List.any_eq_false]
  intro event listed recognised
  obtain ⟨announced, there, rfl⟩ := List.mem_map.1 listed
  exact new (List.mem_map.2
    ⟨announced, there, key_of_recognised (once.named announced there) recognised⟩)

theorem Mirrors.announce (mirrors : Mirrors start whole pruned) (tasks : List TaskRow) :
    Mirrors start
      (announce texts { whole with tasks := tasks } report.stageAttemptId report.event
        report.notification stamp.whole)
      (announce texts { pruned with tasks := tasks } report.stageAttemptId report.event
        report.notification stamp) := by
  have announces := announce_announces texts { pruned with tasks := tasks } report.stageAttemptId
    report.event report.notification stamp
  refine ⟨?_, ?_, ?_, ?_, ?_, ?_, ?_, ?_⟩
  · rw [announces.tasks, announce_tasks]
  · rw [announces.attempts, announce_attempts]
    exact mirrors.attempts
  · rw [announces.announced]
    exact congrArg (· ++ [_]) mirrors.announced
  · rw [announces.taken]
    exact mirrors.taken
  · rw [announces.announced, announce_whole_events, mirrors.allEvents, List.map_append,
      List.append_assoc]
    rfl
  · refine List.Subset.trans announces.events ?_
    rw [announce_whole_events]
    intro event listed
    rcases List.mem_append.1 listed with earlier | latest
    · exact List.mem_append_left _ (mirrors.events earlier)
    · exact List.mem_append_right _ latest
  · unfold everTaken
    rw [announces.taken]
    exact mirrors.allCloseouts
  · exact List.Subset.trans (List.map_subset _ announces.closeouts) mirrors.closeouts

theorem Once.announce (once : Once start pruned) (named : report.Named) (tasks : List TaskRow)
    (new : report.key ∉ pruned.announced.map Announcement.key) :
    Once start (announce texts { pruned with tasks := tasks } report.stageAttemptId report.event
      report.notification stamp) := by
  have announces := announce_announces texts { pruned with tasks := tasks } report.stageAttemptId
    report.event report.notification stamp
  refine ⟨?_, ?_, ?_⟩
  · rw [announces.announced]
    intro announced listed stageAttemptId told
    rcases List.mem_append.1 listed with earlier | latest
    · exact once.named announced earlier stageAttemptId told
    · obtain rfl := List.mem_singleton.1 latest
      have own := stageAttemptId_of_bounded named.small told
      exact Json.string.inj (Option.some.inj (own.symm.trans named.stageAttemptId))
  · rw [announces.announced, List.map_append, List.nodup_append]
    refine ⟨once.keys, List.nodup_singleton _, fun key listed other own same => ?_⟩
    obtain rfl := same.trans (List.mem_singleton.1 own)
    exact new listed
  · have ids := once.ids
    unfold TakenOnce everTaken at ids ⊢
    rwa [announces.taken]

variable (texts stamp) in
/-- A report that is remembered keeps the two runs together. -/
theorem carryOut_mirrors (mirrors : Mirrors start whole pruned) (once : Once start pruned)
    (named : report.Named) (remembers : Remembers start pruned report) :
    Mirrors start (carryOut texts whole report stamp.whole) (carryOut texts pruned report stamp) ∧
      Once start (carryOut texts pruned report stamp) := by
  unfold carryOut
  by_cases carried : report.due = true ∧ pruned.events.any report.recognises = false
  · obtain ⟨fresh, new⟩ := remembers carried.1 carried.2
    rw [if_pos carried, if_pos ⟨carried.1, mirrors.untold once fresh new⟩]
    exact ⟨mirrors.announce report.tasks, once.announce named report.tasks new⟩
  · rw [if_neg carried, if_neg]
    · exact ⟨mirrors, once⟩
    · rintro ⟨due, untold⟩
      refine carried ⟨due, ?_⟩
      rw [List.any_eq_false] at untold ⊢
      exact fun event listed => untold event (mirrors.events listed)

end

/-! ## The calls keep the two runs together -/

/-- The results of a call in the two runs agree. -/
structure Agrees (start : RuntimeQueue) (whole pruned : RuntimeQueue × Bool) : Prop where
  accepted : whole.2 = pruned.2
  mirrors : Mirrors start whole.1 pruned.1
  once : Once start pruned.1

section

variable {texts : LedgerTexts} {closeoutTexts : Texts} {profiles : DomainProfiles}
  {start whole pruned queue : RuntimeQueue} {stamp : AnnouncementStamp} {source : String}
  {stageAttemptId : String} {admission : ScopeAdmission}

/-- The candidate of an attempt, if there is one, is carried out. -/
def carryCandidate (texts : LedgerTexts) (queue : RuntimeQueue) (stageAttemptId source : String)
    (stamp : AnnouncementStamp) : RuntimeQueue :=
  match linkedCandidate? queue stageAttemptId with
  | none => queue
  | some candidate =>
    carryOut texts queue (reconcileReport queue candidate.task candidate.attempt source) stamp

theorem settle_reconcile_none (absent : queue.attempts.get? stageAttemptId = none) :
    settle queue Prod.fst (reconcileDomainRouteTerminalTaskForAttempt texts queue stageAttemptId
      source admission stamp) = (queue, true) := by
  simp [reconcileDomainRouteTerminalTaskForAttempt, absent, settle]

theorem settle_reconcile_rejected {attempt : StoredAttempt} {failure : Failure}
    (found : queue.attempts.get? stageAttemptId = some attempt)
    (rejected : admission attempt.row = .error failure) :
    settle queue Prod.fst (reconcileDomainRouteTerminalTaskForAttempt texts queue stageAttemptId
      source admission stamp) = (queue, false) := by
  simp only [reconcileDomainRouteTerminalTaskForAttempt, found, rejected]
  rfl

theorem settle_reconcile_admitted {attempt : StoredAttempt}
    (found : queue.attempts.get? stageAttemptId = some attempt)
    (admitted : admission attempt.row = .ok ()) :
    settle queue Prod.fst (reconcileDomainRouteTerminalTaskForAttempt texts queue stageAttemptId
      source admission stamp) = (carryCandidate texts queue stageAttemptId source stamp, true) := by
  simp only [reconcileDomainRouteTerminalTaskForAttempt, found, admitted,
    carryCandidate, linkedCandidate?, Option.bind_eq_bind, Option.bind_some]
  cases linked : attempt.linkedTask with
  | none => rfl
  | some taskId =>
    cases present : queue.task? taskId with
    | none => simp only [Option.bind_some, present]; rfl
    | some row =>
      simp only [Option.bind_some, present, Option.pure_def]
      exact congrArg (·, true) (reconcileTaskRowWithAttempt_eq row source)

theorem Mirrors.linkedCandidate? (mirrors : Mirrors start whole pruned) :
    linkedCandidate? whole stageAttemptId = linkedCandidate? pruned stageAttemptId := by
  unfold Queue.linkedCandidate? RuntimeQueue.task?
  rw [mirrors.attempts, mirrors.tasks]

theorem Mirrors.reconcileReport (mirrors : Mirrors start whole pruned) (row : TaskRow)
    (attempt : StoredAttempt) :
    reconcileReport whole row attempt source = reconcileReport pruned row attempt source := by
  unfold Queue.reconcileReport hasLaterLiveLinkedStageAttempt updateChanges updateTasks
    RuntimeQueue.task?
  rw [mirrors.attempts, mirrors.tasks]

theorem Mirrors.completedReport (mirrors : Mirrors start whole pruned) (attempt : StoredAttempt) :
    completedReport profiles whole attempt = completedReport profiles pruned attempt := by
  unfold Queue.completedReport hasLaterLinkedAttempt
  rw [mirrors.attempts, mirrors.tasks]

theorem Mirrors.blockedReport (mirrors : Mirrors start whole pruned) (attempt : StoredAttempt)
    (input : BlockInput) :
    blockedReport profiles whole attempt input = blockedReport profiles pruned attempt input := by
  unfold Queue.blockedReport hasLaterLinkedAttempt hasLaterAcceptedCloseoutAttempt
  rw [mirrors.attempts, mirrors.tasks]

theorem carryCandidate_mirrors (mirrors : Mirrors start whole pruned) (once : Once start pruned)
    (remembers : ReconcileRemembers start pruned stageAttemptId source) :
    Mirrors start (carryCandidate texts whole stageAttemptId source stamp.whole)
      (carryCandidate texts pruned stageAttemptId source stamp) ∧
      Once start (carryCandidate texts pruned stageAttemptId source stamp) := by
  unfold carryCandidate
  rw [mirrors.linkedCandidate?]
  cases linked : linkedCandidate? pruned stageAttemptId with
  | none => exact ⟨mirrors, once⟩
  | some candidate =>
    dsimp only
    rw [mirrors.reconcileReport]
    exact carryOut_mirrors _ _ mirrors once (reconcileReport_named _ _) (remembers candidate linked)

theorem reconcile_agrees (mirrors : Mirrors start whole pruned) (once : Once start pruned)
    (remembers : ∀ attempt ∈ pruned.attempts.get? stageAttemptId,
      admission attempt.row = .ok () → ReconcileRemembers start pruned stageAttemptId source) :
    Agrees start
      (settle whole Prod.fst (reconcileDomainRouteTerminalTaskForAttempt texts whole
        stageAttemptId source admission stamp.whole))
      (settle pruned Prod.fst (reconcileDomainRouteTerminalTaskForAttempt texts pruned
        stageAttemptId source admission stamp)) := by
  have same : whole.attempts.get? stageAttemptId = pruned.attempts.get? stageAttemptId := by
    rw [mirrors.attempts]
  cases found : pruned.attempts.get? stageAttemptId with
  | none =>
    rw [settle_reconcile_none found, settle_reconcile_none (same.trans found)]
    exact ⟨rfl, mirrors, once⟩
  | some attempt =>
    cases admitted : admission attempt.row with
    | error failure =>
      rw [settle_reconcile_rejected found admitted,
        settle_reconcile_rejected (same.trans found) admitted]
      exact ⟨rfl, mirrors, once⟩
    | ok accepted =>
      rw [settle_reconcile_admitted found admitted,
        settle_reconcile_admitted (same.trans found) admitted]
      obtain ⟨mirrors', once'⟩ :=
        carryCandidate_mirrors mirrors once (remembers attempt found admitted)
      exact ⟨rfl, mirrors', once'⟩

variable (texts stamp) in
/-- A linked report of an admitted row. -/
theorem linked_agrees (mirrors : Mirrors start whole pruned) (once : Once start pruned)
    (report : StoredAttempt → Report) (named : ∀ attempt, (report attempt).Named)
    (remembers : ∀ attempt, admittedAttempt pruned stageAttemptId admission = .ok attempt →
      Remembers start pruned (report attempt)) :
    Agrees start
      (settle whole id ((admittedAttempt whole stageAttemptId admission).map fun attempt =>
        carryOut texts whole (report attempt) stamp.whole))
      (settle pruned id ((admittedAttempt pruned stageAttemptId admission).map fun attempt =>
        carryOut texts pruned (report attempt) stamp)) := by
  have same : admittedAttempt whole stageAttemptId admission =
      admittedAttempt pruned stageAttemptId admission := by
    unfold admittedAttempt
    rw [mirrors.attempts]
  rw [same]
  cases admitted : admittedAttempt pruned stageAttemptId admission with
  | error failure => exact ⟨rfl, mirrors, once⟩
  | ok attempt =>
    obtain ⟨mirrors', once'⟩ := carryOut_mirrors texts stamp mirrors once
      (named attempt) (remembers attempt admitted)
    exact ⟨rfl, mirrors', once'⟩

end

/-! ## Closeouts in the two runs -/

/-- Everything that an ingest asks for but a free id. -/
def Takes (closeoutTexts : Texts) (row : AttemptRow) (input : CloseoutInput)
    (packet : CloseoutPacket) (written : AttemptRow) : Prop :=
  normalizeTypedStageCloseoutPacket input.packet = .ok packet ∧
    validateCloseoutPacketForAttempt packet row.identity = .ok () ∧
    (∀ output ∈ packet.domainOutput, output.domainId = row.domainId) ∧
    (bytes (closeoutTexts.packetJson packet)).length ≤ maxStageAttemptPersistedJsonBytes ∧
    ∃ normalized persisted, normalizeRouteImpact packet row = .ok normalized ∧
      persistIngestedUsage row input.costSummary = .ok persisted ∧
      written = syncAttemptRowFromCloseout closeoutTexts persisted packet normalized
        input.costSummary

/-- The queue with a closeout, stored unless its id is. -/
def withCloseout (queue : RuntimeQueue) (input : CloseoutInput) (closeout : CloseoutRow)
    (written : AttemptRow) : RuntimeQueue :=
  { queue with
    attempts := queue.attempts.write written input.updatedAt
    closeouts := queue.closeouts ++
      (if (queue.closeouts.map StoredCloseout.closeout).any (·.closeoutId = closeout.closeoutId)
        then [] else [⟨closeout, input.createdAt⟩])
    taken := queue.taken ++ [closeout] }

section

variable {closeoutTexts : Texts} {start whole pruned queue recorded : RuntimeQueue}
  {attempt : StoredAttempt} {input : CloseoutInput} {closeout : CloseoutRow}
  {written : AttemptRow}

theorem recordCloseout_ok_iff : recordCloseout closeoutTexts queue attempt input = .ok recorded ↔
    ∃ packet written, Takes closeoutTexts attempt.row input packet written ∧
      CloseoutIdFree (queue.closeouts.map StoredCloseout.closeout)
        (closeoutRowOf closeoutTexts attempt.row packet) ∧
      recorded = withCloseout queue input (closeoutRowOf closeoutTexts attempt.row packet)
        written := by
  unfold recordCloseout Attempt.ingestStageAttemptCloseout
  simp only [bind_eq_ok, ensure_eq_ok, pure_eq_ok]
  have stored : ∀ row : CloseoutRow,
      ((if (queue.closeouts.map StoredCloseout.closeout).any (·.closeoutId = row.closeoutId)
        then queue.closeouts.map StoredCloseout.closeout
        else queue.closeouts.map StoredCloseout.closeout ++ [row]).drop
          queue.closeouts.length).map (StoredCloseout.mk · input.createdAt) =
      if (queue.closeouts.map StoredCloseout.closeout).any (·.closeoutId = row.closeoutId)
        then [] else [⟨row, input.createdAt⟩] := by
    intro row
    split
    · rw [List.drop_of_length_le (by rw [List.length_map])]
      rfl
    · rw [List.drop_append_of_le_length (by rw [List.length_map]),
        List.drop_of_length_le (by rw [List.length_map])]
      rfl
  constructor
  · rintro ⟨ledger, ⟨packet, read, _, admitted, _, output, normalized, routed, _, small, _, free,
      persisted, usage, rfl⟩, packet', read', rfl⟩
    obtain rfl := Except.ok.inj (read.symm.trans read')
    refine ⟨packet, _, ⟨read, admitted, output, small, normalized, persisted, routed, usage, rfl⟩,
      free, ?_⟩
    unfold withCloseout
    rw [← stored]
    rfl
  · rintro ⟨packet, written, ⟨read, admitted, output, small, normalized, persisted, routed, usage,
      rfl⟩, free, rfl⟩
    refine ⟨_, ⟨packet, read, (), admitted, (), output, normalized, routed, (), small, (), free,
      persisted, usage, rfl⟩, packet, read, ?_⟩
    unfold withCloseout
    rw [← stored]
    rfl

/-- An id is free in the whole run when no other closeout was ever taken under it. -/
theorem Mirrors.closeoutIdFree (mirrors : Mirrors start whole pruned)
    (takenOnce : TakenOnce start pruned closeout) :
    CloseoutIdFree (whole.closeouts.map StoredCloseout.closeout) closeout := by
  intro existing found
  have listed := (mirrors.allCloseouts existing).1 (List.mem_of_find?_eq_some found)
  exact takenOnce existing listed (by simpa using List.find?_some found)

/-- An id that is free in the whole run is free beside it. -/
theorem Mirrors.closeoutIdFree_pruned (mirrors : Mirrors start whole pruned)
    (once : Once start pruned)
    (free : CloseoutIdFree (whole.closeouts.map StoredCloseout.closeout) closeout) :
    CloseoutIdFree (pruned.closeouts.map StoredCloseout.closeout) closeout := by
  intro existing found
  have own : existing.closeoutId = closeout.closeoutId := by simpa using List.find?_some found
  have listed := mirrors.closeouts (List.mem_of_find?_eq_some found)
  cases first : (whole.closeouts.map StoredCloseout.closeout).find?
      (·.closeoutId = closeout.closeoutId) with
  | none => exact absurd own (by simpa using List.find?_eq_none.1 first existing listed)
  | some other =>
    have same : other.closeoutId = closeout.closeoutId := by simpa using List.find?_some first
    obtain rfl := once.ids existing ((mirrors.allCloseouts existing).1 listed) other
      ((mirrors.allCloseouts other).1 (List.mem_of_find?_eq_some first)) (same.trans own.symm)
    exact free other first

/-- A recorded closeout is stored, and those that were stays stored. -/
theorem mem_withCloseout (free : CloseoutIdFree (queue.closeouts.map StoredCloseout.closeout)
    closeout) (row : CloseoutRow) :
    row ∈ (withCloseout queue input closeout written).closeouts.map StoredCloseout.closeout ↔
      row ∈ queue.closeouts.map StoredCloseout.closeout ∨ row = closeout := by
  unfold withCloseout
  dsimp only
  rw [List.map_append, List.mem_append]
  cases first : (queue.closeouts.map StoredCloseout.closeout).find?
      (·.closeoutId = closeout.closeoutId) with
  | none =>
    have absent : (queue.closeouts.map StoredCloseout.closeout).any
        (·.closeoutId = closeout.closeoutId) = false := by
      rw [List.any_eq_false]
      exact List.find?_eq_none.1 first
    rw [absent]
    simp
  | some existing =>
    obtain rfl := free existing first
    have listed := List.mem_of_find?_eq_some first
    rw [List.any_eq_true.2 ⟨existing, listed, List.find?_some first⟩]
    constructor
    · rintro (stored | none_new)
      · exact .inl stored
      · cases none_new
    · rintro (stored | rfl)
      · exact .inl stored
      · exact .inl listed

/-- A recorded closeout keeps the two runs together. -/
theorem Mirrors.withCloseout (mirrors : Mirrors start whole pruned)
    (takenOnce : TakenOnce start pruned closeout)
    (free : CloseoutIdFree (pruned.closeouts.map StoredCloseout.closeout) closeout) :
    Mirrors start (withCloseout whole input closeout written)
      (withCloseout pruned input closeout written) where
  tasks := mirrors.tasks
  attempts := by
    unfold Queue.withCloseout
    rw [mirrors.attempts]
  announced := mirrors.announced
  taken := congrArg (· ++ [closeout]) mirrors.taken
  allEvents := mirrors.allEvents
  events := mirrors.events
  allCloseouts := by
    intro row
    rw [mem_withCloseout (mirrors.closeoutIdFree takenOnce), mirrors.allCloseouts]
    unfold everTaken Queue.withCloseout
    simp only [List.mem_append, List.mem_singleton, or_assoc]
  closeouts := by
    intro row listed
    rw [mem_withCloseout free] at listed
    rw [mem_withCloseout (mirrors.closeoutIdFree takenOnce)]
    exact listed.imp_left fun stored => mirrors.closeouts stored

theorem Once.withCloseout (once : Once start pruned)
    (takenOnce : TakenOnce start pruned closeout) :
    Once start (withCloseout pruned input closeout written) := by
  have ever : everTaken start (Queue.withCloseout pruned input closeout written) =
      everTaken start pruned ++ [closeout] := (List.append_assoc ..).symm
  refine ⟨once.named, once.keys, ?_⟩
  unfold TakenOnce
  rw [ever]
  intro row listed other listed' same
  rcases List.mem_append.1 listed with old | new <;> rcases List.mem_append.1 listed' with old' | new'
  · exact once.ids row old other old' same
  · obtain rfl := List.mem_singleton.1 new'
    exact (takenOnce row old same.symm).symm
  · obtain rfl := List.mem_singleton.1 new
    exact takenOnce other old' same
  · exact (List.mem_singleton.1 new').trans (List.mem_singleton.1 new).symm

end

section

variable {texts : LedgerTexts} {closeoutTexts : Texts} {profiles : DomainProfiles}
  {start whole pruned queue recorded : RuntimeQueue} {attempt : StoredAttempt}
  {input : CloseoutInput} {stamp : AnnouncementStamp} {admission : ScopeAdmission}

theorem perform_ingest_absent (absent : queue.attempts.get? input.stageAttemptId = none) :
    perform texts closeoutTexts profiles queue (.ingest input admission stamp) =
      (queue, false) := by
  simp only [perform, ingestStageAttemptCloseout, absent]
  rfl

theorem perform_ingest_rejected
    (found : queue.attempts.get? input.stageAttemptId = some attempt)
    (rejected : ¬ ((∃ recorded, recordCloseout closeoutTexts queue attempt input = .ok recorded) ∧
      admitUsage attempt admission = .ok ())) :
    perform texts closeoutTexts profiles queue (.ingest input admission stamp) =
      (queue, false) := by
  simp only [perform, ingestStageAttemptCloseout, found]
  cases taken : recordCloseout closeoutTexts queue attempt input with
  | error failure => rfl
  | ok recorded =>
    cases usage : admitUsage attempt admission with
    | error failure => rfl
    | ok accepted => exact absurd ⟨⟨recorded, taken⟩, usage⟩ rejected

theorem perform_ingest_recorded
    (found : queue.attempts.get? input.stageAttemptId = some attempt)
    (taken : recordCloseout closeoutTexts queue attempt input = .ok recorded)
    (usage : admitUsage attempt admission = .ok ()) :
    perform texts closeoutTexts profiles queue (.ingest input admission stamp) =
      settle recorded Prod.fst (reconcileDomainRouteTerminalTaskForAttempt texts recorded
        input.stageAttemptId "typed-closeout-ingest:domain-route-terminal" admission stamp) := by
  simp only [perform, ingestStageAttemptCloseout, found, taken, usage]
  cases reconcileDomainRouteTerminalTaskForAttempt texts recorded input.stageAttemptId
      "typed-closeout-ingest:domain-route-terminal" admission stamp <;> rfl

theorem ingest_agrees (mirrors : Mirrors start whole pruned) (once : Once start pruned)
    (remembers : CallRemembers closeoutTexts profiles start pruned
      (.ingest input admission stamp)) :
    Agrees start
      (perform texts closeoutTexts profiles whole (.ingest input admission stamp.whole))
      (perform texts closeoutTexts profiles pruned (.ingest input admission stamp)) := by
  have same : whole.attempts.get? input.stageAttemptId =
      pruned.attempts.get? input.stageAttemptId := by rw [mirrors.attempts]
  cases found : pruned.attempts.get? input.stageAttemptId with
  | none =>
    rw [perform_ingest_absent found, perform_ingest_absent (same.trans found)]
    exact ⟨rfl, mirrors, once⟩
  | some attempt =>
    by_cases accepts : (∃ recorded,
        recordCloseout closeoutTexts pruned attempt input = .ok recorded) ∧
        admitUsage attempt admission = .ok ()
    · obtain ⟨⟨recorded, taken⟩, usage⟩ := accepts
      obtain ⟨free_id, reconciles⟩ := remembers attempt found usage recorded taken
      obtain ⟨packet, written, takes, free, rfl⟩ := recordCloseout_ok_iff.1 taken
      have takenOnce := free_id packet takes.1
      have takenWhole : recordCloseout closeoutTexts whole attempt input = .ok _ :=
        recordCloseout_ok_iff.2
          ⟨packet, written, takes, mirrors.closeoutIdFree takenOnce, rfl⟩
      rw [perform_ingest_recorded found taken usage,
        perform_ingest_recorded (same.trans found) takenWhole usage]
      exact reconcile_agrees (mirrors.withCloseout takenOnce free) (once.withCloseout takenOnce)
        fun _ _ _ => reconciles
    · rw [perform_ingest_rejected found accepts, perform_ingest_rejected (same.trans found)]
      · exact ⟨rfl, mirrors, once⟩
      · rintro ⟨⟨recorded, taken⟩, usage⟩
        obtain ⟨packet, written, takes, free, -⟩ := recordCloseout_ok_iff.1 taken
        exact accepts ⟨⟨_, recordCloseout_ok_iff.2
          ⟨packet, written, takes, mirrors.closeoutIdFree_pruned once free, rfl⟩⟩, usage⟩

variable (texts) in
/-- Every call that relies on no pruned row keeps the two runs together. -/
theorem perform_agrees {call : HistoryCall} (mirrors : Mirrors start whole pruned)
    (once : Once start pruned)
    (remembers : CallRemembers closeoutTexts profiles start pruned call) :
    Agrees start (perform texts closeoutTexts profiles whole call.whole)
      (perform texts closeoutTexts profiles pruned call) := by
  cases call with
  | ingest input admission stamp => exact ingest_agrees mirrors once remembers
  | markCompleted stageAttemptId admission stamp =>
    have agrees := linked_agrees texts stamp mirrors once
      (completedReport profiles pruned) (fun attempt => completedReport_named) remembers
    unfold perform markLinkedDefaultExecutorTaskCompleted HistoryCall.whole
    simp only [completed_eq, mirrors.completedReport]
    exact agrees
  | block stageAttemptId input admission stamp =>
    have agrees := linked_agrees texts stamp mirrors once
      (blockedReport profiles pruned · input) (fun attempt => blockedReport_named input)
      remembers
    unfold perform blockLinkedDefaultExecutorTask HistoryCall.whole
    simp only [blocked_eq, mirrors.blockedReport]
    exact agrees
  | reconcile stageAttemptId source admission stamp =>
    exact reconcile_agrees mirrors once remembers

end

/-! ## Whole runs -/

section

variable {texts : LedgerTexts} {closeoutTexts : Texts} {profiles : DomainProfiles}
  {start whole pruned : RuntimeQueue}

/-- What a run with passes has in common with the run without them, and what it never does. -/
structure Transparent (start : RuntimeQueue) (whole pruned : RuntimeQueue × List Bool) :
    Prop where
  accepted : pruned.2 = whole.2
  tasks : pruned.1.tasks = whole.1.tasks
  attempts : pruned.1.attempts = whole.1.attempts
  notified : pruned.1.announced.map Announcement.notification =
    whole.1.announced.map Announcement.notification
  once : Once start pruned.1

theorem transparent_of_mirrors {steps : List HistoryStep} (mirrors : Mirrors start whole pruned)
    (once : Once start pruned)
    (remembers : NothingForgotten closeoutTexts profiles start texts pruned steps) :
    Transparent start (runSteps texts closeoutTexts profiles whole (wholeSteps steps))
      (runSteps texts closeoutTexts profiles pruned steps) := by
  induction steps generalizing whole pruned with
  | nil =>
    exact ⟨rfl, mirrors.tasks.symm, mirrors.attempts.symm,
      congrArg _ mirrors.announced.symm, once⟩
  | cons step rest ih =>
    cases step with
    | call call =>
      obtain ⟨first, others⟩ := remembers
      obtain ⟨accepted, mirrors', once'⟩ := perform_agrees texts mirrors once first
      obtain ⟨outcomes, tasks, attempts, notified, never⟩ := ih mirrors' once' others
      exact ⟨congrArg₂ List.cons accepted.symm outcomes, tasks, attempts, notified, never⟩
    | prune pass =>
      have prunes := pruneRuntimeQueueHistory_prunes texts pruned pass
      exact ih (mirrors.prune prunes) (once.prune prunes) remembers

end

/-- A queue in which nothing has been announced or taken yet; the ids of its closeouts are
a key of their table. -/
structure Opening (start : RuntimeQueue) : Prop where
  announced : start.announced = []
  taken : start.taken = []
  distinct : (start.closeouts.map fun stored => stored.closeout.closeoutId).Nodup

theorem Opening.mirrors {start : RuntimeQueue} (opening : Opening start) :
    Mirrors start start start where
  tasks := rfl
  attempts := rfl
  announced := rfl
  taken := rfl
  allEvents := by rw [opening.announced, List.map_nil, List.append_nil]
  events := List.Subset.refl _
  allCloseouts := by
    intro closeout
    rw [everTaken, opening.taken, List.append_nil]
  closeouts := List.Subset.refl _

theorem Opening.once {start : RuntimeQueue} (opening : Opening start) : Once start start where
  named := by simp [opening.announced]
  keys := by simp [opening.announced]
  ids := by
    unfold TakenOnce everTaken
    rw [opening.taken, List.append_nil]
    intro closeout listed other listed' same
    obtain ⟨stored, there, rfl⟩ := List.mem_map.1 listed
    obtain ⟨stored', there', rfl⟩ := List.mem_map.1 listed'
    rw [List.inj_on_of_nodup_map opening.distinct there' there same]

/-- Retention is transparent to every run that relies on no row it has pruned. -/
theorem retention_transparent {texts : LedgerTexts} {closeoutTexts : Texts}
    {profiles : DomainProfiles} {start : RuntimeQueue} (opening : Opening start)
    {steps : List HistoryStep}
    (remembers : NothingForgotten closeoutTexts profiles start texts start steps) :
    Transparent start (runSteps texts closeoutTexts profiles start (wholeSteps steps))
      (runSteps texts closeoutTexts profiles start steps) :=
  transparent_of_mirrors opening.mirrors opening.once remembers

/-! ## A repeated completion -/

instance (start queue : RuntimeQueue) (report : Report) :
    Decidable (Remembers start queue report) := inferInstanceAs (Decidable (_ → _ → _))

namespace Sample

def actionProfile : StageNativeOwnerActionProfile where
  domainId := "redcube"
  dispatchTaskKind := "artifact_creation"
  actionType := "create_artifact"
  workUnitId := "unit_1"
  nextExecutableOwner := "redcube"

def actionProfiles : DomainProfiles where
  profileFor := fun domainId => if domainId = "redcube" then some actionProfile else none
  answered := fun _ => true

/-- A completed attempt of the default executor. -/
def completedAttempt : StoredAttempt where
  row := { attemptRow "sat_1" .completed ["receipt:closeout"] with
    codexCli := true
    closeoutReceiptStatus := some .acceptedTypedCloseout
    workspaceLocator := [("action_type", .string "create_artifact"),
      ("next_executable_owner", .string "redcube")] }
  taskId := some "task_1"
  createdAt := 0
  updatedAt := 0
  rowid := 1

def completedQueue : RuntimeQueue where
  tasks := []
  attempts := ⟨[completedAttempt], by decide, by decide⟩
  events := []
  notifications := []
  closeouts := []
  announced := []
  taken := []

theorem completedQueue_opening : Opening completedQueue := ⟨rfl, rfl, List.nodup_nil⟩

/-- The completion is marked at a time. -/
def marked (time : Int) : HistoryStep :=
  .call (.markCompleted "sat_1" (fun _ => .ok ()) ⟨⟨"evt", time, none⟩, ⟨"ntf", time, none⟩⟩)

def defaultPolicy : RuntimeQueueHistoryRetentionPolicy where
  eventMaxCount := 50000
  eventMaxAgeDays := 30
  notificationMaxCount := 10000
  notificationMaxAgeDays := 30
  stageAttemptCloseoutMaxCount := 10000
  stageAttemptCloseoutMaxAgeDays := 90

/-- A pass after so many days. -/
def prunedAfter (days : Nat) : HistoryStep :=
  .prune ⟨defaultPolicy, days * 24 * 60 * 60 * 1000⟩

def shortlyRepeated : List HistoryStep := [marked 0, prunedAfter 1, marked 1]

def lateRepeated : List HistoryStep := [marked 0, prunedAfter 31, marked 1]

/-- The completed attempt is remembered when its report is. -/
theorem markRemembers {queue : RuntimeQueue} {time : Int}
    (attempts : queue.attempts = completedQueue.attempts)
    (remembers : Remembers completedQueue queue
      (completedReport actionProfiles queue completedAttempt)) :
    CallRemembers shortTexts actionProfiles completedQueue queue
      (.markCompleted "sat_1" (fun _ => .ok ()) ⟨⟨"evt", time, none⟩, ⟨"ntf", time, none⟩⟩) := by
  intro attempt admitted
  have own : admittedAttempt queue "sat_1" (fun _ => .ok ()) = .ok completedAttempt := by
    unfold admittedAttempt
    rw [attempts]
    rfl
  obtain rfl := Except.ok.inj (admitted.symm.trans own)
  exact remembers

end Sample

theorem retention_transparent_shortly :
    Transparent Sample.completedQueue
      (runSteps Sample.plainTexts shortTexts Sample.actionProfiles Sample.completedQueue
        (wholeSteps Sample.shortlyRepeated))
      (runSteps Sample.plainTexts shortTexts Sample.actionProfiles Sample.completedQueue
        Sample.shortlyRepeated) :=
  retention_transparent Sample.completedQueue_opening
    ⟨Sample.markRemembers rfl (by decide +kernel),
      Sample.markRemembers (by decide +kernel) (by decide +kernel), trivial⟩

/-- A completion that is observed again after its event has been pruned is notified again. -/
theorem pruned_completion_repeated :
    ¬ ∀ (texts : LedgerTexts) (closeoutTexts : Texts) (profiles : DomainProfiles)
      (start : RuntimeQueue) (steps : List HistoryStep), Opening start →
        Transparent start (runSteps texts closeoutTexts profiles start (wholeSteps steps))
          (runSteps texts closeoutTexts profiles start steps) := by
  intro claim
  have transparent := claim Sample.plainTexts shortTexts Sample.actionProfiles
    Sample.completedQueue Sample.lateRepeated Sample.completedQueue_opening
  have notified := transparent.notified
  revert notified
  decide +kernel

end OnePersonLab.Queue

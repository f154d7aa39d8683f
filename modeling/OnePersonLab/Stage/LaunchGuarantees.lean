import OnePersonLab.Stage.LaunchHistory

/-!
# What the launch registry guarantees

Over every sequence of calls on the registry: the start of a run and the start
of its recovery are each in one hand, the execution of a run keeps its identity,
and the evidence of its recoveries only grows.
-/

namespace OnePersonLab.Stage

open Contract Lib

variable {platform : RegistryPlatform} {calls : List RegistryCall} {stageRunId : String}

/-! ## Leases -/

theorem history_calls (table : LaunchTable) (calls : List RegistryCall) :
    (history platform table calls).map Transaction.call = calls := by
  induction calls generalizing table with
  | nil => rfl
  | cons call calls ih => simp [history, ih]

theorem history_ordered (ordered : calls.Pairwise fun call later => call.now ≤ later.now)
    (table : LaunchTable) :
    (history platform table calls).Pairwise fun entry later => entry.call.now ≤ later.call.now := by
  have mapped : ((history platform table calls).map Transaction.call).Pairwise
      fun call later => call.now ≤ later.now := by
    rw [history_calls]
    exact ordered
  have ordered := List.pairwise_map.1 mapped
  exact ordered

/-- In every table of a history a row without a start has no receipt. -/
theorem receiptFollowsStart_of_mem {entry : Transaction}
    (listed : entry ∈ history platform [] calls) :
    receiptFollowsStart (launchRow entry.before stageRunId) := by
  have keeps : ∀ entry ∈ history platform [] calls,
      receiptFollowsStart (launchRow entry.before stageRunId) := by
    refine (history_keeps ?_ fun _ _ _ _ _ follows step => step.receiptFollowsStart follows).1
    intro known listed
    cases listed
  exact keeps entry listed

theorem requireTerminalRetry_eq_ok {existing : StageRunRecoveryRun}
    {retry : StageRunRecoveryTerminalRetry}
    (required : requireTerminalRetry existing retry = .ok ()) :
    existing.persistedRunId = some retry.recoveryRunId ∧
      terminalTemporalRecoveryStatus retry.workflowStatus = true := by
  simp only [requireTerminalRetry, ensure_eq_ok, not_or, ne_eq, not_not,
    Bool.not_eq_false] at required
  exact ⟨required.2.2.1, required.2.2.2⟩

theorem RunStep.retriesEndedRun {entry : Transaction}
    (step : RunStep platform stageRunId entry.call entry.answer
      (launchRow entry.before stageRunId) (launchRow entry.after stageRunId)) {lease : Lease String}
    (claims : entry.ClaimsRecovery stageRunId lease) {existing : StageRunRecoveryRun}
    (current : currentRecovery (launchRow entry.before stageRunId) = some existing)
    (started : existing.startStatus = .started) : RetriesEndedRun entry existing := by
  obtain ⟨_, status, token, claimed, named, answered, -⟩ := claims
  rw [answered] at step
  generalize launchRow entry.before stageRunId = before at step current
  generalize launchRow entry.after stageRunId = after at step
  cases step with
  | kept lost => exact absurd rfl (lost named _ _)
  | registered other => simp [claimed] at other
  | changed _ step =>
    cases step with
    | kept lost => exact absurd rfl (lost _ _)
    | startClaimed other => simp [claimed] at other
    | recoveryClaimed _ _ _ recorded empty =>
      simp [currentRecovery, recorded, empty] at current
    | @recoveryReclaimed input _ _ _ receipt known _ asked _ _ recorded alone ended =>
      rw [currentRecovery_eq_some recorded alone] at current
      cases current
      obtain ⟨retry, retried, required⟩ := ended started
      obtain ⟨same, terminal⟩ := requireTerminalRetry_eq_ok required
      exact ⟨input, retry, asked, retried, same, terminal⟩
    | @recoveryReplaced input _ _ _ receipt known retry _ _ _ _ asked _ _ recorded alone _ retried
        _ ended =>
      rw [currentRecovery_eq_some recorded alone] at current
      cases current
      obtain ⟨same, terminal⟩ := requireTerminalRetry_eq_ok (ended started)
      exact ⟨input, retry, asked, retried, same, terminal⟩

theorem starts_leaseRun : ∃ final, LeaseRun .free
    ((history platform [] calls).map fun entry => (entry.call.now,
      startEvent stageRunId entry.call entry.answer (launchRow entry.before stageRunId)
        (launchRow entry.after stageRunId))) final := by
  have run := fun entry (listed : entry ∈ history platform [] calls) =>
    (runStep_of_mem_history listed stageRunId).2.start
  exact ⟨_, history_leaseRun run⟩

theorem recoveries_leaseRun : ∃ final, LeaseRun .free
    ((history platform [] calls).map fun entry => (entry.call.now,
      recoveryEvent stageRunId entry.call entry.answer (launchRow entry.before stageRunId)
        (launchRow entry.after stageRunId))) final := by
  have run := fun entry (listed : entry ∈ history platform [] calls) =>
    (runStep_of_mem_history listed stageRunId).2.recovery (receiptFollowsStart_of_mem listed)
  exact ⟨_, history_leaseRun run⟩

theorem launchLeases (platform : RegistryPlatform) (calls : List RegistryCall)
    (ordered : calls.Pairwise fun call later => call.now ≤ later.now) (stageRunId : String) :
    LaunchLeases platform calls stageRunId := by
  have inOrder := @history_ordered platform calls ordered []
  obtain ⟨_, starts⟩ := @starts_leaseRun platform calls stageRunId
  obtain ⟨_, recoveries⟩ := @recoveries_leaseRun platform calls stageRunId
  refine ⟨?starts, ?fenced, ?recoveries, ?recoveriesFenced, ?once⟩
  case starts =>
    exact exclusive_of_leaseRun starts inOrder (fun _ _ => startEvent_eq_granted.2)
      (fun _ _ => startEvent_eq_released.1)
  case fenced =>
    refine fenced_of_leaseRun starts (fun _ _ => startEvent_eq_granted.2) ?_
      (fun _ _ => startEvent_eq_released.2)
    intro earlier first between later lease same claims unclaimed entry listed other granted
    exact unclaimed entry listed other (startEvent_eq_granted.1 granted)
  case recoveries =>
    exact exclusive_of_leaseRun recoveries inOrder (fun _ _ => recoveryEvent_of_claims)
      (fun _ _ => recoveryEvent_eq_released.1)
  case recoveriesFenced =>
    refine fenced_of_leaseRun recoveries (fun _ _ => recoveryEvent_of_claims) ?_
      (fun _ _ => recoveryEvent_eq_released.2)
    intro earlier first between later lease same claims unclaimed
    exact recovery_ungranted same claims unclaimed
  case once =>
    intro entry listed lease claims existing current started
    exact (runStep_of_mem_history listed stageRunId).2.retriesEndedRun claims current started

namespace LaunchScript

/-- The canonical text of a record of texts in the order of their names. -/
def recordText : Json → String
  | .object fields => "\x7b" ++ ",".intercalate (fields.map fun field =>
      "\"" ++ field.1 ++ "\":\"" ++ (field.2.asString?.getD "") ++ "\"") ++ "\x7d"
  | _ => "null"

def recordPlatform : RegistryPlatform where
  canonicalText := recordText
  sha256 := id
  textOf := recordText
  normalizeReviewerInputSnapshotRequest := fun _ => fail "No snapshot is requested."

def admission : Admission where
  launchable := .ok ()
  scopeMatches := .ok ()
  mutationAllowed := .ok ()
  conflictFree := .ok ()
  ledger := []

def input : Json := .object [("stage_run_id", .string "run")]

def registration : RegistryCall where
  now := 0
  admission
  operation := .registerStageRunLaunch
    { stageRunId := "run"
      stageRunInvocationId := "invocation"
      stageRunSpecSha256 := "spec"
      domainId := "domain"
      stageId := "stage"
      workflowId := "workflow"
      stageRunInput := input }

def recordedStart : RegistryCall where
  now := 0
  admission
  operation := .recordStageRunTemporalStart
    { stageRunId := "run"
      temporalStartReceipt :=
        { fields := [("workflow_id", .string "workflow"),
            ("first_execution_run_id", .string "execution")]
          recoveryRuns := [] }
      claimToken := none }

def recordedEnd : RegistryCall where
  now := 0
  admission
  operation := .recordStageRunClosed ⟨"run", "COMPLETED"⟩

/-- The calls that open and close a run. -/
def closedRun : List RegistryCall := [registration, recordedStart, recordedEnd]

def recovery : JsonRecord :=
  [("producer_attempt_ref", .string "attempt"), ("quality_cycle_id", .string "cycle"),
    ("recovery_id", .string "recovery")]

def token (text : String) (named : text ≠ "" := by decide) : ClaimToken := ⟨text, named⟩

def recoveryClaim (now : Int) (claimed : ClaimToken)
    (terminalRetry : Option StageRunRecoveryTerminalRetry) : RegistryCall where
  now
  admission
  operation := .claimStageRunRecoveryStart
    { stageRunId := "run"
      stageRunInput := input
      recoveryResume := some recovery
      leaseMs := none
      claimToken := none
      random := claimed
      terminalRetry }

def recoveryStart (now : Int) (claimed : ClaimToken) : RegistryCall where
  now
  admission
  operation := .recordStageRunTemporalRecoveryStart
    { stageRunId := "run"
      recoveryId := "recovery"
      temporalStartReceipt := [("recovery_id", .string "recovery"), ("stage_run_id", .string "run"),
        ("workflow_id", .string "workflow"), ("quality_cycle_id", .string "cycle"),
        ("producer_attempt_ref", .string "attempt"), ("recovery_run_id", .string "recovery-run")]
      claimToken := claimed }

/-- The run of the recovery has ended early. -/
def ended : StageRunRecoveryTerminalRetry := ⟨"recovery-run", "FAILED", none⟩

/-- A recovery that is claimed, started, and claimed again for its failed run,
all before the first lease has run out. -/
def retriedEarly : List RegistryCall :=
  closedRun ++ [recoveryClaim 0 (token "first") none, recoveryStart 1 (token "first"),
    recoveryClaim 2 (token "second") (some ended)]

end LaunchScript

open LaunchScript in
theorem launchLeases_retriedEarly : LaunchLeases recordPlatform retriedEarly "run" :=
  launchLeases _ _ (by decide) _

section RetriedEarly

open LaunchScript

theorem retriedEarly_first :
    Prod.fst <$> (recoveryClaim 0 (token "first") none).perform recordPlatform
      (tableAfter recordPlatform [] closedRun) =
    .ok (.claim ⟨.claimed, some (token "first")⟩) := by
  decide +kernel

theorem retriedEarly_second :
    Prod.fst <$> (recoveryClaim 2 (token "second") (some ended)).perform recordPlatform
      (tableAfter recordPlatform [] (closedRun ++ [recoveryClaim 0 (token "first") none,
        recoveryStart 1 (token "first")])) =
    .ok (.claim ⟨.retryClaimed, some (token "second")⟩) := by
  decide +kernel

/-- A retry after the recovered run has ended need not wait for the first lease. -/
theorem not_recoveriesExclude_failures : ¬∀ platform calls,
    calls.Pairwise (fun call later : RegistryCall => call.now ≤ later.now) → ∀ stageRunId,
    Exclusive (Transaction.ClaimsRecovery stageRunId) (Transaction.FailsRecovery stageRunId)
      (history platform [] calls) := by
  intro exclusive
  have script := exclusive recordPlatform retriedEarly (by decide) "run"
  have split : history recordPlatform [] retriedEarly =
      history recordPlatform [] closedRun ++
        ⟨recoveryClaim 0 (token "first") none, _, _, _⟩ ::
          ([⟨recoveryStart 1 (token "first"), _, _, _⟩] ++
            ⟨recoveryClaim 2 (token "second") (some ended), _, _, _⟩ :: []) := rfl
  rcases script _ _ _ _ _ ⟨"first", 30000⟩ ⟨"second", 30002⟩ split
      ⟨_, _, _, rfl, rfl, retriedEarly_first, rfl⟩
      ⟨_, _, _, rfl, rfl, retriedEarly_second, rfl⟩ with late | ⟨entry, listed, failed⟩
  · revert late
    decide
  · rw [List.mem_singleton] at listed
    subst listed
    obtain ⟨_, asked, -⟩ := failed
    cases asked

end RetriedEarly

/-! ## The identity of the execution -/

/-- The statuses that may follow a status. -/
def StageRunLaunchStatus.followers : StageRunLaunchStatus → List StageRunLaunchStatus
  | .registered => [.starting, .started]
  | .starting => [.startFailed, .started]
  | .startFailed => [.starting, .started]
  | .started => [.closed]
  | .closed => []

/-- What the row of a run keeps of its execution in one call. -/
structure ExecutionKept (row next : StageRunLaunchRow) : Prop where
  status : next.launchStatus = row.launchStatus ∨ next.launchStatus ∈ row.launchStatus.followers
  firstExecution : ∀ runId, row.firstExecutionRunId? = some runId →
    next.firstExecutionRunId? = some runId
  terminal : row.launchStatus = .closed → next.terminalStatus = row.terminalStatus

theorem ExecutionKept.refl (row : StageRunLaunchRow) : ExecutionKept row row :=
  ⟨.inl rfl, fun _ same => same, fun _ => rfl⟩

/-- Writing recoveries leaves the execution alone. -/
theorem ExecutionKept.writeRecoveryRuns {row : StageRunLaunchRow} {receipt : TemporalStartReceipt}
    (recorded : row.temporalStartReceipt = some receipt) (runs : List StageRunRecoveryRun)
    (now : Int) : ExecutionKept row (row.writeRecoveryRuns receipt runs now) := by
  refine ⟨.inl rfl, ?_, fun _ => rfl⟩
  intro runId known
  simpa [StageRunLaunchRow.firstExecutionRunId?, StageRunLaunchRow.writeRecoveryRuns, recorded]
    using known

theorem followers_of_pending {status : StageRunLaunchStatus}
    (pending : status ≠ .started ∧ status ≠ .closed) : .started ∈ status.followers := by
  cases status <;> simp_all [StageRunLaunchStatus.followers]

theorem RowStep.executionKept {call : RegistryCall} {answer : RegistryAnswer}
    {row changed : StageRunLaunchRow} (step : RowStep platform call answer row changed)
    (follows : receiptFollowsStart (some row)) : ExecutionKept row changed := by
  cases step with
  | kept => exact .refl _
  | startClaimed _ _ pending =>
    refine ⟨?_, fun _ known => known, fun closed => absurd closed pending.2⟩
    cases status : row.launchStatus <;> simp_all [StageRunLaunchStatus.followers]
  | started _ pending =>
    refine ⟨.inr (followers_of_pending pending), ?_, fun closed => absurd closed pending.2⟩
    intro runId known
    simp [StageRunLaunchRow.firstExecutionRunId?, follows row rfl pending.1 pending.2] at known
  | startFailed _ starting =>
    refine ⟨.inr ?_, fun _ known => known, fun closed => ?_⟩
    · simp [starting, StageRunLaunchStatus.followers]
    · simp [starting] at closed
  | closed _ started =>
    refine ⟨.inr ?_, fun _ known => known, fun closed => ?_⟩
    · simp [started, StageRunLaunchStatus.followers]
    · simp [started] at closed
  | recoveryClaimed _ _ _ recorded | recoveryReclaimed _ _ _ recorded
  | recoveryReplaced _ _ _ recorded | recoveryStarted _ recorded | recoveryFailed _ recorded =>
    exact .writeRecoveryRuns recorded _ _

theorem RunStep.executionKept {call : RegistryCall} {answer : Checked RegistryAnswer}
    {row : StageRunLaunchRow} {after : Option StageRunLaunchRow}
    (step : RunStep platform stageRunId call answer (some row) after)
    (follows : Stage.receiptFollowsStart (some row)) :
    ∃ next, after = some next ∧ ExecutionKept row next := by
  cases step with
  | kept => exact ⟨row, rfl, .refl row⟩
  | changed _ step => exact ⟨_, rfl, step.executionKept follows⟩

/-- What a row keeps of its execution over any number of calls. -/
structure ExecutionSettled (row next : StageRunLaunchRow) : Prop where
  firstExecution : ∀ runId, row.firstExecutionRunId? = some runId →
    next.firstExecutionRunId? = some runId
  terminal : row.launchStatus = .closed →
    next.launchStatus = .closed ∧ next.terminalStatus = row.terminalStatus

theorem ExecutionSettled.refl (row : StageRunLaunchRow) : ExecutionSettled row row :=
  ⟨fun _ known => known, fun closed => ⟨closed, rfl⟩⟩

theorem ExecutionSettled.step {row next later : StageRunLaunchRow}
    (settled : ExecutionSettled row next) (kept : ExecutionKept next later) :
    ExecutionSettled row later := by
  refine ⟨fun runId known => kept.firstExecution runId (settled.firstExecution runId known), ?_⟩
  intro closed
  obtain ⟨nextClosed, same⟩ := settled.terminal closed
  refine ⟨?_, (kept.terminal nextClosed).trans same⟩
  simpa [nextClosed, StageRunLaunchStatus.followers] using kept.status

theorem receiptFollowsStart_tableAfter (calls : List RegistryCall) :
    receiptFollowsStart (launchRow (tableAfter platform [] calls) stageRunId) := by
  refine (history_keeps ?_ fun _ _ _ _ _ follows step => step.receiptFollowsStart follows).2
  intro known listed
  cases listed

/-- The status of a run moves along its order only, and neither its first
execution nor the status it ended with is ever exchanged. -/
theorem executionIdentity_kept (platform : RegistryPlatform) (calls : List RegistryCall)
    (stageRunId : String) :
    (∀ entry ∈ history platform [] calls,
      (launchRow entry.before stageRunId = none →
        ∀ next ∈ launchRow entry.after stageRunId, next.launchStatus = .registered) ∧
      ∀ row ∈ launchRow entry.before stageRunId,
        ∃ next, launchRow entry.after stageRunId = some next ∧ ExecutionKept row next) ∧
    ∀ earlier later, calls = earlier ++ later →
      ∀ row ∈ launchRow (tableAfter platform [] earlier) stageRunId,
        ∃ next, launchRow (tableAfter platform [] calls) stageRunId = some next ∧
          ExecutionSettled row next := by
  constructor
  · intro entry listed
    have follows := @receiptFollowsStart_of_mem platform calls stageRunId entry listed
    have step := (runStep_of_mem_history listed stageRunId).2
    generalize launchRow entry.before stageRunId = before at step follows
    generalize launchRow entry.after stageRunId = after at step
    generalize entry.answer = answer at step
    constructor
    · rintro rfl next known
      cases step with
      | kept => cases known
      | registered =>
        cases known
        rfl
    · intro row known
      cases known
      exact step.executionKept follows
  · rintro earlier later rfl row known
    let keeps := fun current : Option StageRunLaunchRow =>
      receiptFollowsStart current ∧ ∃ next, current = some next ∧ ExecutionSettled row next
    have start : keeps (launchRow (tableAfter platform [] earlier) stageRunId) :=
      ⟨receiptFollowsStart_tableAfter earlier, row, known, .refl row⟩
    have kept : keeps (launchRow (tableAfter platform (tableAfter platform [] earlier) later)
        stageRunId) := by
      refine (history_keeps start ?_).2
      rintro call - answer before after ⟨follows, next, rfl, settled⟩ step
      obtain ⟨last, rfl, kept⟩ := step.executionKept follows
      exact ⟨step.receiptFollowsStart follows, last, rfl, settled.step kept⟩
    rw [tableAfter_append]
    exact kept.2

section Unclaimed

open LaunchScript

theorem registration_status :
    (launchRow (tableAfter recordPlatform [] [registration]) "run").map
      StageRunLaunchRow.launchStatus = some .registered := by
  decide +kernel

theorem recordedStart_status :
    (launchRow (tableAfter recordPlatform [] [registration, recordedStart]) "run").map
      StageRunLaunchRow.launchStatus = some .started := by
  decide +kernel

/-- A run that nobody has claimed may be recorded as started. -/
theorem registered_started : ¬∀ platform calls stageRunId,
    ∀ entry ∈ history platform [] calls, ∀ row ∈ launchRow entry.before stageRunId,
    row.launchStatus = .registered → ∀ next ∈ launchRow entry.after stageRunId,
    next.launchStatus = .registered ∨ next.launchStatus = .starting := by
  intro ordered
  obtain ⟨row, known, registered⟩ := Option.map_eq_some_iff.1 registration_status
  obtain ⟨next, later, started⟩ := Option.map_eq_some_iff.1 recordedStart_status
  have listed : ⟨recordedStart, tableAfter recordPlatform [] [registration],
      Prod.fst <$> recordedStart.perform recordPlatform
        (tableAfter recordPlatform [] [registration]),
      tableAfter recordPlatform [] [registration, recordedStart]⟩ ∈
      history recordPlatform [] closedRun := .tail _ (.head _)
  rcases ordered recordPlatform closedRun "run" _ listed row known registered next later with
    same | same
  · simp [started] at same
  · simp [started] at same

end Unclaimed

end OnePersonLab.Stage

import OnePersonLab.Stage.LaunchGuarantees

/-!
# The evidence of recoveries

A row keeps one recovery at most. The id of every run that was recorded for it
stays with it, and its identity gives way only to a retry after its run has come
to an end.
-/

namespace OnePersonLab.Stage

open Contract Lib

/-- The runs that an entry has recorded, now or before. -/
def StageRunRecoveryRun.recordedRunIds (entry : StageRunRecoveryRun) : List String :=
  (entry.temporalStartReceipt.toList ++ entry.temporalStartReceiptHistory).filterMap recoveryRunId?

/-- What an entry is bound to. -/
def StageRunRecoveryRun.identity (entry : StageRunRecoveryRun) :
    String × String × String × String × JsonRecord :=
  (entry.recoveryId, entry.recoveryResumeSha256, entry.qualityCycleId, entry.producerAttemptRef,
    entry.recoveryResume)

/-- The run of an entry has come to an end: the one that it has recorded, or one
that the provider has found after a start that failed. -/
structure RunEnded (row : StageRunLaunchRow) (existing : StageRunRecoveryRun)
    (retry : StageRunRecoveryTerminalRetry) : Prop where
  terminal : terminalTemporalRecoveryStatus retry.workflowStatus = true
  run : existing.startStatus = .started ∧ existing.persistedRunId = some retry.recoveryRunId ∨
    terminalObservationMatchesFailedStart row.stageRunId row.workflowId existing retry = true

section Retries

variable {platform : RegistryPlatform} {admission : Admission} {row : StageRunLaunchRow}
  {existing : StageRunRecoveryRun} {recovery : JsonRecord}
  {retry : StageRunRecoveryTerminalRetry}

theorem RunEnded.of_retriesRecordedRun (retries : retriesRecordedRun existing retry = true) :
    RunEnded row existing retry := by
  simp only [retriesRecordedRun, Bool.and_eq_true, decide_eq_true_eq] at retries
  exact ⟨retries.2, .inl retries.1⟩

theorem RunEnded.of_repairerResume
    (allowed : recoveryEntryCanAdvanceToRepairerResume platform existing recovery retry =
      .ok true) : RunEnded row existing retry := by
  simp only [recoveryEntryCanAdvanceToRepairerResume, bind_eq_ok, pure_eq_ok,
    Bool.and_eq_true] at allowed
  obtain ⟨_, -, ⟨retries, -⟩, -⟩ := allowed
  exact .of_retriesRecordedRun retries

theorem RunEnded.of_reviewerSnapshot
    (allowed : recoveryEntryCanEnrichReviewerSnapshot platform row.stageRunId row.workflowId
      existing recovery retry = .ok true) : RunEnded row existing retry := by
  simp only [recoveryEntryCanEnrichReviewerSnapshot] at allowed
  split at allowed
  · simp at allowed
  · split at allowed
    · simp at allowed
    · simp only [bind_eq_ok, pure_eq_ok, Bool.and_eq_true, Bool.or_eq_true,
        decide_eq_true_eq] at allowed
      obtain ⟨_, -, ⟨-, terminal⟩, run⟩ := allowed
      exact ⟨terminal, run⟩

theorem RunEnded.of_ownerRepairMap
    (allowed : recoveryEntryCanRestoreOwnerRepairMap platform admission.ledger row.stageRunId
      existing recovery retry = .ok true) : RunEnded row existing retry := by
  simp only [recoveryEntryCanRestoreOwnerRepairMap] at allowed
  split at allowed
  · simp at allowed
  · rename_i unmet
    push Not at unmet
    exact .of_retriesRecordedRun (by simpa using unmet.1)

theorem RunEnded.of_qualityDebt
    (allowed : recoveryEntryCanAppendQualityDebtRefs platform existing recovery retry =
      .ok true) : RunEnded row existing retry := by
  simp only [recoveryEntryCanAppendQualityDebtRefs] at allowed
  split at allowed
  · simp at allowed
  · rename_i unmet
    exact .of_retriesRecordedRun (by simpa using unmet)

theorem RunEnded.of_producerSnapshot
    (allowed : recoveryEntryCanExtendAcceptedProducerSnapshot platform admission.ledger
      row.stageRunId existing recovery retry = .ok true) : RunEnded row existing retry := by
  simp only [recoveryEntryCanExtendAcceptedProducerSnapshot] at allowed
  split at allowed
  · simp at allowed
  · rename_i unmet
    push Not at unmet
    exact .of_retriesRecordedRun (by simpa using unmet.1)

/-- Whichever retry lets another recovery through, the run before it has ended. -/
theorem RunEnded.of_identityRetry
    (allowed : identityRetry platform admission row existing recovery retry = .ok true) :
    RunEnded row existing retry := by
  simp only [identityRetry, bind_eq_ok, pure_eq_ok, Bool.or_eq_true] at allowed
  obtain ⟨resumes, resume, enriches, enrich, restores, restore, appends, append, widens, widen,
    anyOf⟩ := allowed
  rcases anyOf with (((rfl | rfl) | rfl) | rfl) | rfl
  · exact .of_repairerResume resume
  · exact .of_reviewerSnapshot enrich
  · exact .of_ownerRepairMap restore
  · exact .of_qualityDebt append
  · exact .of_producerSnapshot widen

end Retries

/-! ## Steps -/

/-- The receipts that the provider hands in name no recoveries. -/
def PlainReceipts (calls : List RegistryCall) : Prop :=
  ∀ call ∈ calls, ∀ input, call.operation = .recordStageRunTemporalStart input →
    input.temporalStartReceipt.recoveryRuns = []

/-- A row keeps one recovery at most, and a recovery whose run has not started has
no receipt. -/
structure RecoverySound (row : Option StageRunLaunchRow) : Prop where
  follows : receiptFollowsStart row
  single : ∀ known ∈ row, ∀ receipt ∈ known.temporalStartReceipt,
    receipt.recoveryRuns.length ≤ 1
  fresh : ∀ existing ∈ currentRecovery row, existing.startStatus ≠ .started →
    existing.temporalStartReceipt = none

variable {platform : RegistryPlatform} {stageRunId : String} {call : RegistryCall}
  {row changed : StageRunLaunchRow} {answer : RegistryAnswer}

theorem RecoverySound.writeRecoveryRuns (sound : RecoverySound (some row))
    {receipt : TemporalStartReceipt} (recorded : row.temporalStartReceipt = some receipt)
    {entry : StageRunRecoveryRun}
    (fresh : entry.startStatus ≠ .started → entry.temporalStartReceipt = none) (now : Int) :
    RecoverySound (some (row.writeRecoveryRuns receipt [entry] now)) := by
  refine ⟨?_, ?_, ?_⟩
  · intro known same started closed
    cases same
    exact absurd (recorded.symm.trans (sound.follows row rfl started closed)) (by simp)
  · intro known same receipt given
    cases same
    cases given
    exact Nat.le_refl 1
  · intro existing current
    cases current
    exact fresh

theorem RowStep.recoverySound (step : RowStep platform call answer row changed)
    (plain : ∀ input, call.operation = .recordStageRunTemporalStart input →
      input.temporalStartReceipt.recoveryRuns = [])
    (sound : RecoverySound (some row)) (follows : receiptFollowsStart (some changed)) :
    RecoverySound (some changed) := by
  cases step with
  | kept => exact sound
  | startClaimed | startFailed | closed =>
    refine ⟨follows, ?_, sound.fresh⟩
    intro known same receipt given
    cases same
    exact sound.single row rfl receipt given
  | @started input _ asked =>
    have empty := plain input asked
    refine ⟨follows, ?_, ?_⟩
    · intro known same receipt given
      cases same
      cases given
      simp [empty]
    · intro existing current
      simp [currentRecovery, empty] at current
  | recoveryClaimed _ _ _ recorded => exact sound.writeRecoveryRuns recorded (fun _ => rfl) _
  | recoveryReclaimed _ _ _ recorded current ended =>
    refine sound.writeRecoveryRuns recorded (fun _ => ?_) _
    simp only [reclaimedRecoveryRun]
    split
    · rfl
    · rename_i unended
      refine sound.fresh _ (currentRecovery_eq_some recorded current) fun started => ?_
      obtain ⟨retry, given, -⟩ := ended started
      simp [given] at unended
  | recoveryReplaced _ _ _ recorded => exact sound.writeRecoveryRuns recorded (fun _ => rfl) _
  | recoveryStarted _ recorded =>
    exact sound.writeRecoveryRuns recorded (fun unstarted => absurd rfl unstarted) _
  | recoveryFailed _ recorded current starting =>
    have fresh := sound.fresh _ (currentRecovery_eq_some recorded current) (by simp [starting])
    refine sound.writeRecoveryRuns recorded ?_ _
    exact fun _ => fresh

/-- An entry is followed by one that has recorded what it has, and that is bound to
the same recovery unless a retry after the end of its run binds it to another. -/
structure RecoveryKept (platform : RegistryPlatform) (call : RegistryCall)
    (row : StageRunLaunchRow) (existing next : StageRunRecoveryRun) : Prop where
  recorded : existing.recordedRunIds ⊆ next.recordedRunIds
  identity : next.identity = existing.identity ∨
    ∃ input recovery retry, call.operation = .claimStageRunRecoveryStart input ∧
      input.recoveryResume = some recovery ∧ input.terminalRetry = some retry ∧
      identityRetry platform call.admission row existing recovery retry = .ok true ∧
      RunEnded row existing retry

theorem RecoveryKept.refl (existing : StageRunRecoveryRun) :
    RecoveryKept platform call row existing existing :=
  ⟨fun _ known => known, .inl rfl⟩

/-- The evidence of an entry goes into its history. -/
theorem recordedRunIds_moved (existing next : StageRunRecoveryRun) (observed : Option JsonRecord)
    (moved : next.temporalStartReceiptHistory = existing.temporalStartReceiptHistory ++
      (existing.temporalStartReceipt.or observed).toList) :
    existing.recordedRunIds ⊆ next.recordedRunIds := by
  intro runId known
  simp only [StageRunRecoveryRun.recordedRunIds, List.filterMap_append, List.mem_append,
    moved] at known ⊢
  rcases known with current | earlier
  · right
    right
    cases recorded : existing.temporalStartReceipt with
    | none => simp [recorded] at current
    | some receipt => simpa [recorded] using current
  · exact .inr (.inl earlier)

theorem RowStep.recoveryKept (step : RowStep platform call answer row changed)
    (sound : RecoverySound (some row)) {existing : StageRunRecoveryRun}
    (current : currentRecovery (some row) = some existing) :
    ∃ next, currentRecovery (some changed) = some next ∧
      RecoveryKept platform call row existing next := by
  cases step with
  | kept => exact ⟨existing, current, .refl existing⟩
  | startClaimed | startFailed | closed => exact ⟨existing, current, .refl existing⟩
  | started _ pending =>
    simp [currentRecovery, sound.follows row rfl pending.1 pending.2] at current
  | recoveryClaimed _ _ _ recorded empty => simp [currentRecovery, recorded, empty] at current
  | @recoveryReclaimed input _ _ _ _ _ _ _ _ _ recorded alone =>
    rw [currentRecovery_eq_some recorded alone] at current
    cases current
    refine ⟨_, rfl, ?_, .inl rfl⟩
    by_cases terminal : input.terminalRetry.isSome = true
    · exact recordedRunIds_moved _ _ _ (if_pos terminal)
    · simp [reclaimedRecoveryRun, StageRunRecoveryRun.recordedRunIds, terminal]
  | recoveryReplaced asked _ _ recorded alone given retry allowed =>
    rw [currentRecovery_eq_some recorded alone] at current
    cases current
    refine ⟨_, rfl, recordedRunIds_moved _ _ _ rfl, .inr ?_⟩
    exact ⟨_, _, _, asked, given, retry, allowed, .of_identityRetry allowed⟩
  | recoveryStarted _ recorded alone starting =>
    rw [currentRecovery_eq_some recorded alone] at current
    cases current
    refine ⟨_, rfl, ?_, .inl rfl⟩
    have fresh := sound.fresh _ (currentRecovery_eq_some recorded alone) (by simp [starting])
    intro runId known
    simp only [StageRunRecoveryRun.recordedRunIds, fresh, Option.toList_none, List.nil_append,
      List.filterMap_append, List.mem_append] at known ⊢
    exact .inr known
  | recoveryFailed _ recorded alone =>
    rw [currentRecovery_eq_some recorded alone] at current
    cases current
    exact ⟨_, rfl, fun _ known => known, .inl rfl⟩

/-! ## Sequences of calls -/

theorem RunStep.recoverySound {answer : Checked RegistryAnswer}
    {before after : Option StageRunLaunchRow}
    (step : RunStep platform stageRunId call answer before after)
    (plain : ∀ input, call.operation = .recordStageRunTemporalStart input →
      input.temporalStartReceipt.recoveryRuns = [])
    (sound : RecoverySound before) : RecoverySound after := by
  have follows := step.receiptFollowsStart sound.follows
  cases step with
  | kept => exact sound
  | registered =>
    refine ⟨follows, ?_, fun _ current => by cases current⟩
    intro known same receipt given
    cases same
    cases given
  | changed _ step => exact step.recoverySound plain sound follows

theorem recoverySound_none : RecoverySound none := by
  refine ⟨?_, ?_, ?_⟩
  all_goals
    intro known same
    cases same

theorem recoverySound_history {calls : List RegistryCall} (plain : PlainReceipts calls) :
    (∀ entry ∈ history platform [] calls, RecoverySound (launchRow entry.before stageRunId)) ∧
      RecoverySound (launchRow (tableAfter platform [] calls) stageRunId) :=
  history_keeps recoverySound_none fun call listed _ _ _ sound step =>
    step.recoverySound (plain call listed) sound

/-- The runs that a row has recorded for its recovery. -/
def recordedRunIds (row : Option StageRunLaunchRow) : List String :=
  ((currentRecovery row).map StageRunRecoveryRun.recordedRunIds).getD []

theorem RunStep.recordedRunIds_subset {answer : Checked RegistryAnswer}
    {before after : Option StageRunLaunchRow}
    (step : RunStep platform stageRunId call answer before after) (sound : RecoverySound before) :
    recordedRunIds before ⊆ recordedRunIds after := by
  cases step with
  | kept => exact fun _ known => known
  | registered => simp [recordedRunIds, currentRecovery]
  | @changed _ row _ _ step =>
    cases current : currentRecovery (some row) with
    | none => simp [recordedRunIds, current]
    | some existing =>
      obtain ⟨next, later, kept⟩ := step.recoveryKept sound current
      simpa [recordedRunIds, current, later] using kept.recorded

/-- A call records the start of a run of the recovery. -/
def Transaction.RecordsRecoveryRun (stageRunId runId : String) (entry : Transaction) : Prop :=
  ∃ input, entry.call.operation = .recordStageRunTemporalRecoveryStart input ∧
    entry.call.operation.stageRunId = stageRunId ∧
    recoveryRunId? input.temporalStartReceipt = some runId ∧ entry.Changes stageRunId

/-- The recoveries of a run leave evidence that only grows. -/
structure RecoveryEvidence (platform : RegistryPlatform) (calls : List RegistryCall)
    (stageRunId : String) : Prop where
  /-- There is one recovery at most. -/
  single : ∀ row ∈ launchRow (tableAfter platform [] calls) stageRunId,
    ∀ receipt ∈ row.temporalStartReceipt, receipt.recoveryRuns.length ≤ 1
  /-- A run that is recorded is in the row. -/
  recorded : ∀ entry ∈ history platform [] calls, ∀ runId,
    entry.RecordsRecoveryRun stageRunId runId →
    runId ∈ recordedRunIds (launchRow entry.after stageRunId)
  /-- What is in the row stays there. -/
  kept : ∀ earlier later, calls = earlier ++ later →
    recordedRunIds (launchRow (tableAfter platform [] earlier) stageRunId) ⊆
      recordedRunIds (launchRow (tableAfter platform [] calls) stageRunId)
  /-- A recovery is followed by one that is bound to the same, or by one that a
  retry puts in its place after its run has ended. -/
  replaced : ∀ entry ∈ history platform [] calls, ∀ row existing,
    launchRow entry.before stageRunId = some row → currentRecovery (some row) = some existing →
    ∃ next, currentRecovery (launchRow entry.after stageRunId) = some next ∧
      RecoveryKept platform entry.call row existing next

theorem RunStep.recordsRecoveryRun {entry : Transaction} {runId : String}
    (step : RunStep platform stageRunId entry.call entry.answer
      (launchRow entry.before stageRunId) (launchRow entry.after stageRunId))
    (records : entry.RecordsRecoveryRun stageRunId runId) :
    runId ∈ recordedRunIds (launchRow entry.after stageRunId) := by
  obtain ⟨input, asked, -, named, differs⟩ := records
  unfold Transaction.Changes at differs
  generalize launchRow entry.before stageRunId = before at step differs
  generalize launchRow entry.after stageRunId = after at step differs ⊢
  generalize entry.answer = answer at step
  cases step with
  | kept => exact absurd rfl differs
  | registered other => simp [asked] at other
  | changed _ step =>
    cases step with
    | kept => exact absurd rfl differs
    | startClaimed other | started other | startFailed other | closed other
    | recoveryClaimed other | recoveryReclaimed other | recoveryReplaced other
    | recoveryFailed other => simp [asked] at other
    | recoveryStarted same =>
      cases asked.symm.trans same
      simp [recordedRunIds, StageRunRecoveryRun.recordedRunIds, named]

theorem recoveryEvidence (platform : RegistryPlatform) (calls : List RegistryCall)
    (plain : PlainReceipts calls) (stageRunId : String) :
    RecoveryEvidence platform calls stageRunId := by
  have sound := @recoverySound_history platform stageRunId calls plain
  refine ⟨sound.2.single, ?recorded, ?kept, ?replaced⟩
  case recorded =>
    intro entry listed runId records
    exact (runStep_of_mem_history listed stageRunId).2.recordsRecoveryRun records
  case kept =>
    rintro earlier later rfl
    let keeps := fun current : Option StageRunLaunchRow => RecoverySound current ∧
      recordedRunIds (launchRow (tableAfter platform [] earlier) stageRunId) ⊆
        recordedRunIds current
    have start : keeps (launchRow (tableAfter platform [] earlier) stageRunId) := by
      have first : PlainReceipts earlier := fun call listed =>
        plain call (List.mem_append_left _ listed)
      exact ⟨(recoverySound_history first).2, fun _ known => known⟩
    have kept : keeps (launchRow (tableAfter platform (tableAfter platform [] earlier) later)
        stageRunId) := by
      refine (history_keeps start ?_).2
      rintro call listed answer before after ⟨sound, grown⟩ step
      refine ⟨step.recoverySound (plain call (List.mem_append_right _ listed)) sound, ?_⟩
      exact fun _ known => step.recordedRunIds_subset sound (grown known)
    rw [tableAfter_append]
    exact kept.2
  case replaced =>
    intro entry listed row existing known current
    have step := (runStep_of_mem_history listed stageRunId).2
    have sound := sound.1 entry listed
    rw [known] at step sound
    generalize launchRow entry.after stageRunId = after at step
    generalize entry.answer = answer at step
    cases step with
    | kept => exact ⟨existing, current, .refl existing⟩
    | changed _ step => exact step.recoveryKept sound current

open LaunchScript in
theorem recoveryEvidence_retriedEarly : RecoveryEvidence recordPlatform retriedEarly "run" := by
  refine recoveryEvidence recordPlatform retriedEarly ?_ "run"
  intro call listed input asked
  simp only [retriedEarly, closedRun, List.cons_append, List.nil_append, List.mem_cons,
    List.not_mem_nil, or_false] at listed
  rcases listed with rfl | rfl | rfl | rfl | rfl | rfl <;> cases asked
  rfl

end OnePersonLab.Stage

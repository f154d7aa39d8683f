import OnePersonLab.Lib.Lease
import OnePersonLab.Stage.LaunchRegistry

/-!
# The history of the launch registry

What a call may do to the row of its run, and what follows over any sequence of
calls: who may start the run, which status follows which, and what is kept of
the recoveries of its closeout.
-/

namespace OnePersonLab.Stage

open Contract Lib

/-! ## One call -/

section Steps

variable (platform : RegistryPlatform)

/-- What a call may do to the row of its run. -/
inductive RowStep (call : RegistryCall) :
    RegistryAnswer → StageRunLaunchRow → StageRunLaunchRow → Prop where
  | kept {answer row} (lost : ∀ status token, answer ≠ .claim ⟨status, some token⟩) :
      RowStep call answer row row
  | startClaimed {input leaseMs status token row}
      (asked : call.operation = .claimStageRunStart input)
      (valid : validLeaseMs input.leaseMs = .ok leaseMs)
      (pending : row.launchStatus ≠ .started ∧ row.launchStatus ≠ .closed)
      (expired : activeStartingLease row call.now = false) :
      RowStep call (.claim ⟨status, some token⟩) row { row with
        launchStatus := .starting
        startClaim := some ⟨token, call.now, call.now + leaseMs⟩
        startAttemptCount := row.startAttemptCount + 1
        lastStartError := none
        updatedAt := call.now }
  | started {input row} (asked : call.operation = .recordStageRunTemporalStart input)
      (pending : row.launchStatus ≠ .started ∧ row.launchStatus ≠ .closed) :
      RowStep call .launch row { row with
        launchStatus := .started
        temporalStartReceipt := some input.temporalStartReceipt
        terminalStatus := none
        lastStartError := none
        startClaim := none
        updatedAt := call.now }
  | startFailed {input row} (asked : call.operation = .recordStageRunStartFailure input)
      (starting : row.launchStatus = .starting)
      (owned : claimTokenIs row.startClaim input.claimToken) :
      RowStep call .launch row { row with
        launchStatus := .startFailed
        lastStartError := some input.message
        startClaim := none
        updatedAt := call.now }
  | closed {input terminalStatus row} (asked : call.operation = .recordStageRunClosed input)
      (started : row.launchStatus = .started) (named : terminalStatus ≠ "") :
      RowStep call .launch row { row with
        launchStatus := .closed
        terminalStatus := some terminalStatus
        lastStartError := none
        startClaim := none
        updatedAt := call.now }
  | recoveryClaimed {input leaseMs token receipt recovery digest producerAttemptRef row}
      (asked : call.operation = .claimStageRunRecoveryStart input)
      (valid : validLeaseMs input.leaseMs = .ok leaseMs)
      (closed : row.launchStatus = .closed)
      (recorded : row.temporalStartReceipt = some receipt) (empty : receipt.recoveryRuns = []) :
      RowStep call (.claim ⟨.claimed, some token⟩) row (row.writeRecoveryRuns receipt
        [newRecoveryRun recovery digest producerAttemptRef
          ⟨token, call.now, call.now + leaseMs⟩] call.now)
  | recoveryReclaimed {input leaseMs status token receipt existing row}
      (asked : call.operation = .claimStageRunRecoveryStart input)
      (valid : validLeaseMs input.leaseMs = .ok leaseMs)
      (closed : row.launchStatus = .closed)
      (recorded : row.temporalStartReceipt = some receipt)
      (current : receipt.recoveryRuns = [existing])
      (ended : existing.startStatus = .started → ∃ retry, input.terminalRetry = some retry ∧
        requireTerminalRetry existing retry = .ok ())
      (expired : activeRecoveryStartingLease existing call.now = false) :
      RowStep call (.claim ⟨status, some token⟩) row (row.writeRecoveryRuns receipt
        [reclaimedRecoveryRun existing
          (existing.temporalStartReceipt.or
            (input.terminalRetry.bind StageRunRecoveryTerminalRetry.observationReceipt))
          input.terminalRetry.isSome ⟨token, call.now, call.now + leaseMs⟩] call.now)
  | recoveryReplaced {input leaseMs status token receipt existing terminalRetry recovery digest
        producerAttemptRef row}
      (asked : call.operation = .claimStageRunRecoveryStart input)
      (valid : validLeaseMs input.leaseMs = .ok leaseMs)
      (closed : row.launchStatus = .closed)
      (recorded : row.temporalStartReceipt = some receipt)
      (current : receipt.recoveryRuns = [existing])
      (given : input.recoveryResume = some recovery)
      (retry : input.terminalRetry = some terminalRetry)
      (allowed : identityRetry platform call.admission row existing recovery terminalRetry =
        .ok true)
      (ended : existing.startStatus = .started → requireTerminalRetry existing terminalRetry = .ok ())
      (expired : activeRecoveryStartingLease existing call.now = false) :
      RowStep call (.claim ⟨status, some token⟩) row (row.writeRecoveryRuns receipt
        [replacedRecoveryRun existing
          (existing.temporalStartReceipt.or terminalRetry.observationReceipt)
          (newRecoveryRun recovery digest producerAttemptRef
            ⟨token, call.now, call.now + leaseMs⟩)] call.now)
  | recoveryStarted {input receipt existing others row}
      (asked : call.operation = .recordStageRunTemporalRecoveryStart input)
      (recorded : row.temporalStartReceipt = some receipt)
      (current : receipt.recoveryRuns = existing :: others)
      (starting : existing.startStatus = .starting)
      (owned : claimTokenIs existing.startClaim input.claimToken) :
      RowStep call .launch row (row.writeRecoveryRuns receipt
        [{ existing with
          startStatus := .started
          startClaim := none
          temporalStartReceipt := some input.temporalStartReceipt
          lastStartError := none
          updatedAt := call.now }] call.now)
  | recoveryFailed {input receipt existing others row}
      (asked : call.operation = .recordStageRunRecoveryStartFailure input)
      (recorded : row.temporalStartReceipt = some receipt)
      (current : receipt.recoveryRuns = existing :: others)
      (starting : existing.startStatus = .starting)
      (owned : claimTokenIs existing.startClaim input.claimToken) :
      RowStep call .launch row (row.writeRecoveryRuns receipt
        [{ existing with
          startStatus := .startFailed
          startClaim := none
          lastStartError := some input.message
          updatedAt := call.now }] call.now)

variable {platform} {call : RegistryCall} {row changed : StageRunLaunchRow}
  {answer : RegistryAnswer}

theorem RowStep.of_claimStageRunStart {input : StartClaimInput}
    (asked : call.operation = .claimStageRunStart input)
    (done : claimStageRunStart call.now call.admission input row = .ok (answer, changed)) :
    RowStep platform call answer row changed := by
  simp only [claimStageRunStart, bind_eq_ok] at done
  obtain ⟨leaseMs, valid, -, -, done⟩ := done
  by_cases started : row.launchStatus = .started
  · rw [if_pos started] at done
    cases done
    exact .kept (by simp)
  rw [if_neg started] at done
  by_cases closed : row.launchStatus = .closed
  · rw [if_pos closed] at done
    cases done
    exact .kept (by simp)
  rw [if_neg closed] at done
  by_cases active : activeStartingLease row call.now = true
  · rw [if_pos active] at done
    cases done
    exact .kept (by simp)
  rw [if_neg active] at done
  simp only [bind_eq_ok] at done
  obtain ⟨-, -, done⟩ := done
  cases done
  exact .startClaimed asked valid ⟨started, closed⟩ (by simpa using active)

theorem RowStep.of_recordStageRunTemporalStart {input : TemporalStartInput}
    (asked : call.operation = .recordStageRunTemporalStart input)
    (done : recordStageRunTemporalStart call.now call.admission input row = .ok (answer, changed)) :
    RowStep platform call answer row changed := by
  simp only [recordStageRunTemporalStart, bind_eq_ok] at done
  obtain ⟨-, -, -, -, -, -, done⟩ := done
  by_cases past : row.launchStatus = .closed ∨ row.launchStatus = .started
  · rw [if_pos past] at done
    cases done
    exact .kept (by simp)
  · rw [if_neg past] at done
    cases done
    push Not at past
    exact .started asked ⟨past.2, past.1⟩

theorem RowStep.of_recordStageRunStartFailure {input : StartFailureInput}
    (asked : call.operation = .recordStageRunStartFailure input)
    (done : recordStageRunStartFailure call.now call.admission input row = .ok (answer, changed)) :
    RowStep platform call answer row changed := by
  simp only [recordStageRunStartFailure, bind_eq_ok] at done
  obtain ⟨-, -, done⟩ := done
  by_cases owned : row.launchStatus = .starting ∧ claimTokenIs row.startClaim input.claimToken
  · rw [if_pos owned] at done
    cases done
    exact .startFailed asked owned.1 owned.2
  · rw [if_neg owned] at done
    cases done
    exact .kept (by simp)

theorem RowStep.of_recordStageRunClosed {input : ClosedInput}
    (asked : call.operation = .recordStageRunClosed input)
    (done : recordStageRunClosed call.now call.admission input row = .ok (answer, changed)) :
    RowStep platform call answer row changed := by
  simp only [recordStageRunClosed, bind_eq_ok, ensure_eq_ok] at done
  obtain ⟨-, named, -, -, done⟩ := done
  by_cases closed : row.launchStatus = .closed
  · rw [if_pos closed] at done
    simp only [bind_eq_ok, pure_eq_ok, Prod.mk.injEq] at done
    obtain ⟨-, -, rfl, rfl⟩ := done
    exact .kept (by simp)
  · rw [if_neg closed] at done
    simp only [bind_eq_ok, ensure_eq_ok, pure_eq_ok, Prod.mk.injEq] at done
    obtain ⟨-, started, rfl, rfl⟩ := done
    exact .closed asked started named

theorem RowStep.of_recordStageRunTemporalRecoveryStart {input : TemporalRecoveryStartInput}
    (asked : call.operation = .recordStageRunTemporalRecoveryStart input)
    (done : recordStageRunTemporalRecoveryStart call.now call.admission input row =
      .ok (answer, changed)) : RowStep platform call answer row changed := by
  simp only [recordStageRunTemporalRecoveryStart, bind_eq_ok] at done
  obtain ⟨-, -, done⟩ := done
  cases recorded : row.temporalStartReceipt with
  | none => simp [recorded] at done
  | some receipt =>
    simp only [recorded] at done
    cases current : receipt.recoveryRuns with
    | nil => simp [current] at done
    | cons existing others =>
      simp only [current, bind_eq_ok] at done
      obtain ⟨-, -, done⟩ := done
      by_cases started : existing.startStatus = .started
      · rw [if_pos started] at done
        simp only [bind_eq_ok, pure_eq_ok, Prod.mk.injEq] at done
        obtain ⟨-, -, rfl, rfl⟩ := done
        exact .kept (by simp)
      · rw [if_neg started] at done
        simp only [bind_eq_ok, ensure_eq_ok, pure_eq_ok, Prod.mk.injEq] at done
        obtain ⟨-, ⟨starting, owned⟩, rfl, rfl⟩ := done
        exact .recoveryStarted asked recorded current starting owned

theorem RowStep.of_recordStageRunRecoveryStartFailure {input : RecoveryStartFailureInput}
    (asked : call.operation = .recordStageRunRecoveryStartFailure input)
    (done : recordStageRunRecoveryStartFailure call.now call.admission input row =
      .ok (answer, changed)) : RowStep platform call answer row changed := by
  simp only [recordStageRunRecoveryStartFailure, bind_eq_ok] at done
  obtain ⟨-, -, done⟩ := done
  cases recorded : row.temporalStartReceipt with
  | none =>
    simp only [recorded, pure_eq_ok, Prod.mk.injEq] at done
    obtain ⟨rfl, rfl⟩ := done
    exact .kept (by simp)
  | some receipt =>
    simp only [recorded] at done
    cases current : receipt.recoveryRuns with
    | nil =>
      simp only [current, pure_eq_ok, Prod.mk.injEq] at done
      obtain ⟨rfl, rfl⟩ := done
      exact .kept (by simp)
    | cons existing others =>
      simp only [current] at done
      by_cases owned : existing.recoveryId = input.recoveryId ∧
          existing.startStatus = .starting ∧ claimTokenIs existing.startClaim input.claimToken
      · rw [if_pos owned] at done
        cases done
        exact .recoveryFailed asked recorded current owned.2.1 owned.2.2
      · rw [if_neg owned] at done
        cases done
        exact .kept (by simp)

/-- A claim on an entry keeps its identity, or one of the retries lets it change. -/
theorem admitsRecovery_eq_ok {admission : Admission} {existing : StageRunRecoveryRun}
    {recovery : JsonRecord} {digest : String}
    {terminalRetry : Option StageRunRecoveryTerminalRetry} {identityMatches : Bool}
    (admitted : admitsRecovery platform admission row existing recovery digest terminalRetry =
      .ok identityMatches) :
    identityMatches = true ∨ identityMatches = false ∧ ∃ retry, terminalRetry = some retry ∧
      identityRetry platform admission row existing recovery retry = .ok true := by
  simp only [admitsRecovery, bind_eq_ok] at admitted
  obtain ⟨same, -, admitted⟩ := admitted
  by_cases known : same = true
  · rw [if_pos known] at admitted
    cases admitted
    exact .inl rfl
  rw [if_neg known] at admitted
  cases terminalRetry with
  | none => simp at admitted
  | some retry =>
    simp only [bind_eq_ok, ensure_eq_ok, pure_eq_ok] at admitted
    obtain ⟨retried, allowed, -, rfl, rfl⟩ := admitted
    exact .inr ⟨rfl, retry, rfl, allowed⟩

theorem RowStep.of_claimExistingRecovery {input : RecoveryClaimInput} {leaseMs : Int}
    {token : ClaimToken} {receipt : TemporalStartReceipt} {existing : StageRunRecoveryRun}
    {recovery : JsonRecord} {digest : String}
    (asked : call.operation = .claimStageRunRecoveryStart input)
    (valid : validLeaseMs input.leaseMs = .ok leaseMs) (closed : row.launchStatus = .closed)
    (recorded : row.temporalStartReceipt = some receipt)
    (current : receipt.recoveryRuns = [existing]) (given : input.recoveryResume = some recovery)
    (done : claimExistingRecovery platform call.now call.admission input row receipt existing
      recovery digest ⟨token, call.now, call.now + leaseMs⟩ = .ok (answer, changed)) :
    RowStep platform call answer row changed := by
  simp only [claimExistingRecovery, bind_eq_ok] at done
  obtain ⟨identityMatches, admitted, done⟩ := done
  -- a claim that is won keeps the identity of the entry, or replaces it after a retry
  have won : ∀ status producerAttemptRef, activeRecoveryStartingLease existing call.now = false →
      (existing.startStatus = .started → ∃ retry, input.terminalRetry = some retry ∧
        requireTerminalRetry existing retry = .ok ()) →
      RowStep platform call (.claim ⟨status, some token⟩) row (row.writeRecoveryRuns receipt
        [if identityMatches = true then
            reclaimedRecoveryRun existing (existing.temporalStartReceipt.or
                (input.terminalRetry.bind StageRunRecoveryTerminalRetry.observationReceipt))
              input.terminalRetry.isSome ⟨token, call.now, call.now + leaseMs⟩
          else replacedRecoveryRun existing (existing.temporalStartReceipt.or
              (input.terminalRetry.bind StageRunRecoveryTerminalRetry.observationReceipt))
            (newRecoveryRun recovery digest producerAttemptRef
              ⟨token, call.now, call.now + leaseMs⟩)] call.now) := by
    intro status producerAttemptRef expired ended
    rcases admitsRecovery_eq_ok admitted with rfl | ⟨rfl, retry, asks, allowed⟩
    · rw [if_pos rfl]
      exact .recoveryReclaimed asked valid closed recorded current ended expired
    · rw [if_neg (by simp), asks]
      refine .recoveryReplaced asked valid closed recorded current given asks allowed ?_ expired
      intro started
      obtain ⟨_, same, finished⟩ := ended started
      cases asks.symm.trans same
      exact finished
  by_cases started : existing.startStatus = .started
  · rw [if_pos started] at done
    cases retry : input.terminalRetry with
    | none =>
      simp only [retry] at done
      cases done
      exact .kept (by simp)
    | some terminalRetry =>
      simp only [retry, bind_eq_ok] at done
      obtain ⟨_, ended, done⟩ := done
      by_cases active : activeRecoveryStartingLease existing call.now = true
      · rw [if_pos active] at done
        cases done
        exact .kept (by simp)
      · rw [if_neg active] at done
        simp only [bind_eq_ok, pure_eq_ok, Prod.mk.injEq] at done
        obtain ⟨producerAttemptRef, -, rfl, rfl⟩ := done
        rw [← retry]
        exact won _ _ (by simpa using active) (fun _ => ⟨terminalRetry, retry, ended⟩)
  · rw [if_neg started] at done
    by_cases active : activeRecoveryStartingLease existing call.now = true
    · rw [if_pos active] at done
      cases done
      exact .kept (by simp)
    · rw [if_neg active] at done
      simp only [bind_eq_ok, pure_eq_ok, Prod.mk.injEq] at done
      obtain ⟨producerAttemptRef, -, rfl, rfl⟩ := done
      exact won _ _ (by simpa using active) (fun isStarted => absurd isStarted started)

theorem RowStep.of_claimStageRunRecoveryStart {input : RecoveryClaimInput}
    (asked : call.operation = .claimStageRunRecoveryStart input)
    (done : claimStageRunRecoveryStart platform call.now call.admission input row =
      .ok (answer, changed)) : RowStep platform call answer row changed := by
  simp only [claimStageRunRecoveryStart, bind_eq_ok] at done
  obtain ⟨leaseMs, valid, -, -, ⟨recovery, digest⟩, identity, done⟩ := done
  have known : row.launchStatus = .closed ∧ input.recoveryResume = some recovery := by
    simp only [requireRecoveryRegistryIdentity, bind_eq_ok, ensure_eq_ok] at identity
    obtain ⟨-, -, -, ⟨closed, -⟩, identity⟩ := identity
    cases given : input.recoveryResume with
    | none => simp [given] at identity
    | some resume =>
      simp only [given, pure_eq_ok, Prod.mk.injEq] at identity
      obtain ⟨rfl, -⟩ := identity
      exact ⟨closed, rfl⟩
  obtain ⟨closed, given⟩ := known
  cases recorded : row.temporalStartReceipt with
  | none => simp [recorded] at done
  | some receipt =>
    simp only [recorded] at done
    rcases current : receipt.recoveryRuns with _ | ⟨existing, _ | ⟨other, others⟩⟩
    · simp only [current, bind_eq_ok, pure_eq_ok, Prod.mk.injEq] at done
      obtain ⟨producerAttemptRef, -, rfl, rfl⟩ := done
      exact .recoveryClaimed asked valid closed recorded current
    · simp only [current] at done
      exact .of_claimExistingRecovery asked valid closed recorded current given done
    · simp [current] at done

theorem RowStep.of_rowOperation
    (done : call.rowOperation platform row = .ok (answer, changed)) :
    RowStep platform call answer row changed := by
  cases asked : call.operation with
  | registerStageRunLaunch input =>
    simp only [RegistryCall.rowOperation, asked, Except.ok.injEq, Prod.mk.injEq] at done
    obtain ⟨rfl, rfl⟩ := done
    exact .kept (by simp)
  | claimStageRunStart input =>
    exact .of_claimStageRunStart asked (by simpa only [RegistryCall.rowOperation, asked] using done)
  | recordStageRunTemporalStart input =>
    exact .of_recordStageRunTemporalStart asked
      (by simpa only [RegistryCall.rowOperation, asked] using done)
  | recordStageRunStartFailure input =>
    exact .of_recordStageRunStartFailure asked
      (by simpa only [RegistryCall.rowOperation, asked] using done)
  | recordStageRunClosed input =>
    exact .of_recordStageRunClosed asked
      (by simpa only [RegistryCall.rowOperation, asked] using done)
  | claimStageRunRecoveryStart input =>
    exact .of_claimStageRunRecoveryStart asked
      (by simpa only [RegistryCall.rowOperation, asked] using done)
  | recordStageRunTemporalRecoveryStart input =>
    exact .of_recordStageRunTemporalRecoveryStart asked
      (by simpa only [RegistryCall.rowOperation, asked] using done)
  | recordStageRunRecoveryStartFailure input =>
    exact .of_recordStageRunRecoveryStartFailure asked
      (by simpa only [RegistryCall.rowOperation, asked] using done)

theorem RowStep.stageRunId (step : RowStep platform call answer row changed) :
    changed.stageRunId = row.stageRunId := by
  cases step <;> rfl

end Steps

/-! ## Sequences of calls -/

section Histories

theorem launchRow_update (table : LaunchTable) (changed : StageRunLaunchRow) (stageRunId : String) :
    launchRow (table.update changed) stageRunId =
      if changed.stageRunId = stageRunId then (launchRow table stageRunId).map fun _ => changed
      else launchRow table stageRunId := by
  induction table with
  | nil => simp [launchRow, LaunchTable.update]
  | cons row table ih =>
    simp only [launchRow, LaunchTable.update, List.map_cons] at ih ⊢
    by_cases here : row.stageRunId = changed.stageRunId
    · rw [if_pos here, List.find?_cons, List.find?_cons, here]
      by_cases named : changed.stageRunId = stageRunId
      · simp [named]
      · simp only [named, decide_false, if_false] at ih ⊢
        exact ih
    · rw [if_neg here, List.find?_cons, List.find?_cons]
      by_cases named : row.stageRunId = stageRunId
      · rw [if_neg (fun other => here (named.trans other.symm))]
        simp [named]
      · simp only [named, decide_false]
        exact ih

/-- A transaction: the call, what it was answered, and the table before and after it. -/
structure Transaction where
  call : RegistryCall
  before : LaunchTable
  answer : Checked RegistryAnswer
  after : LaunchTable

variable (platform : RegistryPlatform)

/-- The transactions of calls that follow each other. -/
def history (table : LaunchTable) : List RegistryCall → List Transaction
  | [] => []
  | call :: calls =>
    ⟨call, table, Prod.fst <$> call.perform platform table, call.commit platform table⟩ ::
      history (call.commit platform table) calls

/-- The table that calls leave. -/
def tableAfter (table : LaunchTable) (calls : List RegistryCall) : LaunchTable :=
  calls.foldl (fun table call => call.commit platform table) table

/-- What a call may do to the row of a run. -/
inductive RunStep (stageRunId : String) (call : RegistryCall) : Checked RegistryAnswer →
    Option StageRunLaunchRow → Option StageRunLaunchRow → Prop where
  | kept {answer row} (lost : call.operation.stageRunId = stageRunId →
      ∀ status token, answer ≠ .ok (.claim ⟨status, some token⟩)) :
      RunStep stageRunId call answer row row
  | registered {answer input} (asked : call.operation = .registerStageRunLaunch input) :
      RunStep stageRunId call answer none (some (input.row call.now))
  | changed {answer row changed} (asked : call.operation.stageRunId = stageRunId)
      (step : RowStep platform call answer row changed) :
      RunStep stageRunId call (.ok answer) (some row) (some changed)

variable {platform} {stageRunId : String} {call : RegistryCall} {table : LaunchTable}

variable {calls : List RegistryCall}

theorem RunStep.of_registerStageRunLaunch {input : LaunchRegistration}
    (asked : call.operation = .registerStageRunLaunch input) {answer : RegistryAnswer}
    {changed : LaunchTable}
    (done : registerStageRunLaunch call.now call.admission input table = .ok (answer, changed)) :
    RunStep platform stageRunId call (.ok answer) (launchRow table stageRunId)
      (launchRow changed stageRunId) := by
  simp only [registerStageRunLaunch, bind_eq_ok] at done
  obtain ⟨-, -, done⟩ := done
  split at done
  · simp only [bind_eq_ok, pure_eq_ok, Prod.mk.injEq] at done
    obtain ⟨-, -, -, -, rfl, rfl⟩ := done
    exact .kept (by simp)
  · simp only [bind_eq_ok] at done
    obtain ⟨-, -, done⟩ := done
    split at done
    · simp at done
    · simp only [pure_eq_ok, Prod.mk.injEq] at done
      obtain ⟨rfl, rfl⟩ := done
      cases known : launchRow table stageRunId with
      | some row =>
        have same : launchRow (table ++ [input.row call.now]) stageRunId = some row := by
          simp only [launchRow] at known ⊢
          simp [known]
        rw [same]
        exact .kept (by simp)
      | none =>
        by_cases named : input.stageRunId = stageRunId
        · have inserted : launchRow (table ++ [input.row call.now]) stageRunId =
              some (input.row call.now) := by
            simp only [launchRow] at known ⊢
            simp [known, LaunchRegistration.row, named]
          rw [inserted]
          exact .registered asked
        · have same : launchRow (table ++ [input.row call.now]) stageRunId = none := by
            simp only [launchRow] at known ⊢
            simp [known, LaunchRegistration.row, named]
          rw [same]
          exact .kept (by simp)

/-- A run without a row is not claimed. -/
theorem unregistered_ne_claim {operation : RegistryOperation} {answer : RegistryAnswer}
    (answered : operation.unregistered = .ok answer) (status : ClaimStatus) (token : ClaimToken) :
    answer ≠ .claim ⟨status, some token⟩ := by
  rintro rfl
  cases operation <;> simp [RegistryOperation.unregistered] at answered

/-- A call changes the row of its own run only, as one step. -/
theorem RegistryCall.runStep (call : RegistryCall) (table : LaunchTable) (stageRunId : String) :
    RunStep platform stageRunId call (Prod.fst <$> call.perform platform table)
      (launchRow table stageRunId) (launchRow (call.commit platform table) stageRunId) := by
  cases done : call.perform platform table with
  | error failure =>
    rw [commit, done]
    exact .kept (by simp [Functor.map, Except.map])
  | ok result =>
    obtain ⟨answer, changed⟩ := result
    rw [commit, done]
    show RunStep platform stageRunId call (.ok answer) _ (launchRow changed stageRunId)
    rw [perform] at done
    split at done
    · exact .of_registerStageRunLaunch ‹_› done
    · split at done
      · simp only [bind_eq_ok, pure_eq_ok, Prod.mk.injEq] at done
        obtain ⟨_, answered, rfl, rfl⟩ := done
        exact .kept fun _ status token => by simpa using unregistered_ne_claim answered status token
      · rename_i row found
        simp only [bind_eq_ok, pure_eq_ok, Prod.mk.injEq] at done
        obtain ⟨⟨_, next⟩, operated, rfl, rfl⟩ := done
        have step := RowStep.of_rowOperation operated
        have rowId : row.stageRunId = call.operation.stageRunId := by
          simpa [launchRow] using List.find?_some found
        rw [launchRow_update, step.stageRunId, rowId]
        by_cases named : call.operation.stageRunId = stageRunId
        · subst named
          rw [if_pos rfl, found]
          exact .changed rfl step
        · rw [if_neg named]
          exact .kept (fun asked => absurd asked named)

theorem tableAfter_append (table : LaunchTable) (calls more : List RegistryCall) :
    tableAfter platform table (calls ++ more) =
      tableAfter platform (tableAfter platform table calls) more :=
  List.foldl_append

/-- What every step of a run keeps, a sequence of calls keeps. -/
theorem history_keeps {keeps : Option StageRunLaunchRow → Prop}
    (start : keeps (launchRow table stageRunId))
    (step : ∀ call ∈ calls, ∀ answer before after, keeps before →
      RunStep platform stageRunId call answer before after → keeps after) :
    (∀ entry ∈ history platform table calls, keeps (launchRow entry.before stageRunId)) ∧
      keeps (launchRow (tableAfter platform table calls) stageRunId) := by
  induction calls generalizing table with
  | nil => exact ⟨by simp [history], start⟩
  | cons call calls ih =>
    have next := step call (.head _) _ _ _ start (call.runStep table stageRunId)
    obtain ⟨later, final⟩ := ih next fun other listed => step other (.tail _ listed)
    refine ⟨?_, final⟩
    intro entry listed
    rcases List.mem_cons.1 listed with rfl | listed
    · exact start
    · exact later entry listed

/-- Each transaction of a history is a step of every run. -/
theorem runStep_of_mem_history {entry : Transaction} (listed : entry ∈ history platform table calls)
    (stageRunId : String) :
    entry.call ∈ calls ∧ RunStep platform stageRunId entry.call entry.answer
      (launchRow entry.before stageRunId) (launchRow entry.after stageRunId) := by
  induction calls generalizing table with
  | nil => simp [history] at listed
  | cons call calls ih =>
    rcases List.mem_cons.1 listed with rfl | listed
    · exact ⟨.head _, call.runStep table stageRunId⟩
    · obtain ⟨asked, step⟩ := ih listed
      exact ⟨.tail _ asked, step⟩

/-- Where every transaction is a step of a lease, the history is a run of it. -/
theorem history_leaseRun {holding : Option StageRunLaunchRow → Holding String}
    {event : Transaction → LeaseEvent String}
    (step : ∀ entry ∈ history platform table calls,
      LeaseStep entry.call.now (holding (launchRow entry.before stageRunId)) (event entry)
        (holding (launchRow entry.after stageRunId))) :
    LeaseRun (holding (launchRow table stageRunId))
      ((history platform table calls).map fun entry => (entry.call.now, event entry))
      (holding (launchRow (tableAfter platform table calls) stageRunId)) := by
  induction calls generalizing table with
  | nil => exact .nil
  | cons call calls ih =>
    refine .cons (step _ (.head _)) ?_
    exact ih fun entry listed => step entry (.tail _ listed)

end Histories

/-! ## Leases -/

section Leases

variable (stageRunId : String)

/-- Who holds what a claim has been made on. -/
def claimHolding : Option StartClaim → Holding String
  | none => .free
  | some claim => .held ⟨claim.token, claim.leaseExpiresAt⟩

/-- Who may start a run. -/
def startHolding (row : Option StageRunLaunchRow) : Holding String :=
  match row with
  | none => .free
  | some row =>
    match row.launchStatus with
    | .registered | .startFailed => .free
    | .starting => claimHolding row.startClaim
    | .started | .closed => .retired

/-- The recovery that a row keeps. -/
def currentRecovery (row : Option StageRunLaunchRow) : Option StageRunRecoveryRun :=
  row.bind fun row => row.temporalStartReceipt.bind fun receipt => receipt.recoveryRuns.head?

/-- Who may start the recovery of a run. -/
def recoveryHolding (row : Option StageRunLaunchRow) : Holding String :=
  match currentRecovery row with
  | none => .free
  | some entry => if entry.startStatus = .starting then claimHolding entry.startClaim else .free

namespace Transaction

/-- The row of the run before and after the call. -/
def Changes (entry : Transaction) : Prop :=
  launchRow entry.after stageRunId ≠ launchRow entry.before stageRunId

/-- The call wins the start of the run, and is given the lease. -/
def ClaimsStart (lease : Lease String) (entry : Transaction) : Prop :=
  ∃ input status token, entry.call.operation = .claimStageRunStart input ∧
    entry.call.operation.stageRunId = stageRunId ∧ entry.answer = .ok (.claim ⟨status, some token⟩) ∧
    lease = ⟨token, entry.call.now + input.leaseMs.getD defaultStageRunStartLeaseMs⟩

/-- A failed start is recorded under the token. -/
def FailsStart (token : String) (entry : Transaction) : Prop :=
  ∃ input, entry.call.operation = .recordStageRunStartFailure input ∧
    entry.call.operation.stageRunId = stageRunId ∧ input.claimToken = token ∧
    entry.Changes stageRunId

def ClaimsRecovery (lease : Lease String) (entry : Transaction) : Prop :=
  ∃ input status token, entry.call.operation = .claimStageRunRecoveryStart input ∧
    entry.call.operation.stageRunId = stageRunId ∧ entry.answer = .ok (.claim ⟨status, some token⟩) ∧
    lease = ⟨token, entry.call.now + input.leaseMs.getD defaultStageRunStartLeaseMs⟩

def FailsRecovery (token : String) (entry : Transaction) : Prop :=
  ∃ input, entry.call.operation = .recordStageRunRecoveryStartFailure input ∧
    entry.call.operation.stageRunId = stageRunId ∧ input.claimToken = token ∧
    entry.Changes stageRunId

/-- The start of a recovery is recorded under the token. -/
def StartsRecovery (token : String) (entry : Transaction) : Prop :=
  ∃ input, entry.call.operation = .recordStageRunTemporalRecoveryStart input ∧
    entry.call.operation.stageRunId = stageRunId ∧ input.claimToken = token ∧
    entry.Changes stageRunId

end Transaction

/-- What a call does to the start of a run. -/
def startEvent (call : RegistryCall) (answer : Checked RegistryAnswer)
    (before after : Option StageRunLaunchRow) : LeaseEvent String :=
  if call.operation.stageRunId = stageRunId then
    match call.operation, answer with
    | .claimStageRunStart input, .ok (.claim ⟨_, some token⟩) =>
      .granted ⟨token, call.now + input.leaseMs.getD defaultStageRunStartLeaseMs⟩
    | .recordStageRunStartFailure input, _ =>
      if after = before then .kept else .released input.claimToken
    | .recordStageRunTemporalStart _, _ => if after = before then .kept else .retired
    | _, _ => .kept
  else .kept

/-- What a call does to the recovery of a run. A receipt that already names a
recovery brings its claim along. -/
def recoveryEvent (call : RegistryCall) (answer : Checked RegistryAnswer)
    (before after : Option StageRunLaunchRow) : LeaseEvent String :=
  if call.operation.stageRunId = stageRunId then
    match call.operation, answer with
    | .claimStageRunRecoveryStart input, .ok (.claim ⟨_, some token⟩) =>
      .granted ⟨token, call.now + input.leaseMs.getD defaultStageRunStartLeaseMs⟩
    | .recordStageRunRecoveryStartFailure input, _ =>
      if after = before then .kept else .released input.claimToken
    | .recordStageRunTemporalRecoveryStart input, _ =>
      if after = before then .kept else .released input.claimToken
    | .recordStageRunTemporalStart _, _ =>
      if after = before then .kept else
        match recoveryHolding after with
        | .held lease => .granted lease
        | _ => .kept
    | _, _ => .kept
  else .kept

variable {platform : RegistryPlatform} {stageRunId : String} {call : RegistryCall}
  {answer : Checked RegistryAnswer} {before after : Option StageRunLaunchRow}

section

variable {row : StageRunLaunchRow}

theorem validLeaseMs_eq_ok {given : Option Int} {leaseMs : Int}
    (valid : validLeaseMs given = .ok leaseMs) :
    given.getD defaultStageRunStartLeaseMs = leaseMs := by
  cases given with
  | none => exact Except.ok.inj valid
  | some value =>
    simp only [validLeaseMs, bind_eq_ok, pure_eq_ok] at valid
    obtain ⟨-, -, same⟩ := valid
    exact same

/-- Under a lease that is not active nobody holds the claim any more. -/
theorem claimHolding_expired {claim : Option StartClaim} {now : Int}
    (expired : (claim.any fun claim => claim.active now) = false) (earlier : Lease String)
    (held : claimHolding claim = .held earlier) : earlier.expiresAt ≤ now := by
  cases claim with
  | none => cases held
  | some claim =>
    cases held
    simpa [StartClaim.active] using expired

theorem claimHolding_eq_held {claim : Option StartClaim} {token : String}
    (owned : claimTokenIs claim token) :
    ∃ expiresAt, claimHolding claim = .held ⟨token, expiresAt⟩ := by
  cases claim with
  | none => cases owned
  | some claim =>
    cases owned
    exact ⟨claim.leaseExpiresAt, rfl⟩

theorem startHolding_eq_held {lease : Lease String} (held : startHolding (some row) = .held lease) :
    row.launchStatus = .starting ∧ claimHolding row.startClaim = .held lease := by
  cases status : row.launchStatus with
  | starting => exact ⟨rfl, by simpa [startHolding, status] using held⟩
  | registered | startFailed | started | closed => simp [startHolding, status] at held

theorem startHolding_ne_retired (pending : row.launchStatus ≠ .started ∧ row.launchStatus ≠ .closed)
    :
    startHolding (some row) ≠ .retired := by
  cases status : row.launchStatus with
  | starting => cases claim : row.startClaim <;> simp [startHolding, claimHolding, status, claim]
  | registered | startFailed => simp [startHolding, status]
  | started => exact absurd status pending.1
  | closed => exact absurd status pending.2

/-- A start changes the row that it is recorded in. -/
theorem startedRow_ne {receipt : TemporalStartReceipt} {now : Int}
    (pending : row.launchStatus ≠ .started ∧ row.launchStatus ≠ .closed) :
    ({ row with
      launchStatus := .started
      temporalStartReceipt := some receipt
      terminalStatus := none
      lastStartError := none
      startClaim := none
      updatedAt := now } : StageRunLaunchRow) ≠ row := by
  intro same
  exact pending.1 (congrArg StageRunLaunchRow.launchStatus same).symm

end

/-- A row without a start has no receipt. -/
def receiptFollowsStart (row : Option StageRunLaunchRow) : Prop :=
  ∀ known ∈ row, known.launchStatus ≠ .started → known.launchStatus ≠ .closed →
    known.temporalStartReceipt = none

theorem RunStep.receiptFollowsStart (step : RunStep platform stageRunId call answer before after)
    (follows : receiptFollowsStart before) : Stage.receiptFollowsStart after := by
  cases step with
  | kept => exact follows
  | registered => exact fun _ known _ _ => by cases known; rfl
  | changed _ step =>
    intro known listed started closed
    cases listed
    have earlier := follows _ rfl
    cases step with
    | kept => exact earlier started closed
    | startClaimed _ _ pending => exact earlier pending.1 pending.2
    | startFailed _ starting => exact earlier (by simp [starting]) (by simp [starting])
    | started => exact absurd rfl started
    | closed => exact absurd rfl closed
    | recoveryClaimed _ _ past | recoveryReclaimed _ _ past | recoveryReplaced _ _ past =>
      exact absurd past closed
    | recoveryStarted _ recorded | recoveryFailed _ recorded =>
      exact absurd (recorded.symm.trans (earlier started closed)) (by simp)

theorem startEvent_of_lost (lost : call.operation.stageRunId = stageRunId →
    ∀ status token, answer ≠ .ok (.claim ⟨status, some token⟩)) :
    startEvent stageRunId call answer before before = .kept := by
  unfold startEvent
  by_cases mine : call.operation.stageRunId = stageRunId
  · rw [if_pos mine]
    split
    · exact absurd rfl (lost mine _ _)
    · exact if_pos rfl
    · exact if_pos rfl
    · rfl
  · rw [if_neg mine]

/-- Every call is a step of the lease on the start. -/
theorem RunStep.start (step : RunStep platform stageRunId call answer before after) :
    LeaseStep call.now (startHolding before) (startEvent stageRunId call answer before after)
      (startHolding after) := by
  cases step with
  | kept lost =>
    rw [startEvent_of_lost lost]
    exact .kept
  | @registered _ input asked =>
    have unchanged : startEvent stageRunId call answer none (some (input.row call.now)) = .kept := by
      simp [startEvent, asked]
    rw [unchanged]
    exact .kept
  | @changed answer row changed named step =>
    have kept : startEvent stageRunId call (.ok answer) (some row) (some changed) = .kept →
        startHolding (some changed) = startHolding (some row) →
        LeaseStep call.now (startHolding (some row))
          (startEvent stageRunId call (.ok answer) (some row) (some changed))
          (startHolding (some changed)) := by
      intro unchanged same
      rw [unchanged, same]
      exact .kept
    cases step with
    | kept lost => exact kept (startEvent_of_lost (by simpa using fun _ => lost)) rfl
    | @startClaimed input leaseMs status token _ asked valid pending expired =>
      have granted : startEvent stageRunId call (.ok (.claim ⟨status, some token⟩)) (some row)
          (some { row with
            launchStatus := .starting
            startClaim := some ⟨token, call.now, call.now + leaseMs⟩
            startAttemptCount := row.startAttemptCount + 1
            lastStartError := none
            updatedAt := call.now }) = .granted ⟨token, call.now + leaseMs⟩ := by
        unfold startEvent
        rw [if_pos named]
        simp only [asked, validLeaseMs_eq_ok valid]
      rw [granted]
      refine .granted ?_ ?_
      · exact startHolding_ne_retired pending
      · intro earlier held
        obtain ⟨starting, claimed⟩ := startHolding_eq_held held
        refine claimHolding_expired ?_ earlier claimed
        simpa [activeStartingLease, starting] using expired
    | @started input _ asked pending =>
      unfold startEvent
      rw [if_pos named]
      simp only [asked, Option.some.injEq, startedRow_ne pending, if_false]
      exact .retired
    | @startFailed input _ asked starting owned =>
      have differs : ({ row with
          launchStatus := .startFailed
          lastStartError := some input.message
          startClaim := none
          updatedAt := call.now } : StageRunLaunchRow) ≠ row := by
        intro same
        have status := congrArg StageRunLaunchRow.launchStatus same
        simp [starting] at status
      unfold startEvent
      rw [if_pos named]
      simp only [asked, Option.some.injEq, differs, if_false]
      obtain ⟨expiresAt, held⟩ := claimHolding_eq_held owned
      simp only [startHolding, starting, held]
      exact .released
    | closed asked started => exact kept (by simp [startEvent, asked]) (by simp [startHolding, started])
    | recoveryClaimed asked | recoveryReclaimed asked | recoveryReplaced asked
    | recoveryStarted asked | recoveryFailed asked =>
      exact kept (by simp [startEvent, asked]) rfl

theorem recoveryEvent_of_lost (lost : call.operation.stageRunId = stageRunId →
    ∀ status token, answer ≠ .ok (.claim ⟨status, some token⟩)) :
    recoveryEvent stageRunId call answer before before = .kept := by
  unfold recoveryEvent
  by_cases mine : call.operation.stageRunId = stageRunId
  · rw [if_pos mine]
    split
    · exact absurd rfl (lost mine _ _)
    · exact if_pos rfl
    · exact if_pos rfl
    · exact if_pos rfl
    · rfl
  · rw [if_neg mine]

section Entries

variable {row : StageRunLaunchRow} {receipt : TemporalStartReceipt}
  {existing entry : StageRunRecoveryRun} {others : List StageRunRecoveryRun} {now : Int}

theorem currentRecovery_eq_some (recorded : row.temporalStartReceipt = some receipt)
    (current : receipt.recoveryRuns = existing :: others) :
    currentRecovery (some row) = some existing := by
  simp [currentRecovery, recorded, current]

@[simp] theorem currentRecovery_writeRecoveryRuns :
    currentRecovery (some (row.writeRecoveryRuns receipt [entry] now)) = some entry := rfl

/-- Only the holder of the claim on an entry may end its start. -/
theorem recoveryHolding_owned (recorded : row.temporalStartReceipt = some receipt)
    (current : receipt.recoveryRuns = existing :: others)
    (starting : existing.startStatus = .starting) {token : String}
    (owned : claimTokenIs existing.startClaim token) :
    ∃ expiresAt, recoveryHolding (some row) = .held ⟨token, expiresAt⟩ := by
  obtain ⟨expiresAt, held⟩ := claimHolding_eq_held owned
  refine ⟨expiresAt, ?_⟩
  simp only [recoveryHolding, currentRecovery_eq_some recorded current, if_pos starting, held]

theorem recoveryHolding_writeRecoveryRuns (past : entry.startStatus ≠ .starting) :
    recoveryHolding (some (row.writeRecoveryRuns receipt [entry] now)) = .free := by
  simp only [recoveryHolding, currentRecovery_writeRecoveryRuns, if_neg past]

/-- An entry is written with another status. -/
theorem writeRecoveryRuns_ne (recorded : row.temporalStartReceipt = some receipt)
    (current : receipt.recoveryRuns = existing :: others)
    (differs : entry.startStatus ≠ existing.startStatus) :
    row.writeRecoveryRuns receipt [entry] now ≠ row := by
  intro same
  have kept := congrArg (fun row => currentRecovery (some row)) same
  simp only [currentRecovery_writeRecoveryRuns, currentRecovery_eq_some recorded current,
    Option.some.injEq] at kept
  exact differs (congrArg StageRunRecoveryRun.startStatus kept)

/-- Who holds an entry whose lease is not active holds it no longer. -/
theorem recoveryHolding_expired (recorded : row.temporalStartReceipt = some receipt)
    (current : receipt.recoveryRuns = existing :: others)
    (expired : activeRecoveryStartingLease existing now = false) (earlier : Lease String)
    (held : recoveryHolding (some row) = .held earlier) : earlier.expiresAt ≤ now := by
  simp only [recoveryHolding, currentRecovery_eq_some recorded current] at held
  by_cases starting : existing.startStatus = .starting
  · rw [if_pos starting] at held
    refine claimHolding_expired ?_ earlier held
    simpa [activeRecoveryStartingLease, starting] using expired
  · simp [starting] at held

end Entries

section

variable {entry : Transaction} {lease : Lease String}

theorem recoveryHolding_ne_retired (row : Option StageRunLaunchRow) :
    recoveryHolding row ≠ .retired := by
  unfold recoveryHolding
  split
  · simp
  · split
    · unfold claimHolding
      split <;> simp
    · simp

/-- Every call is a step of the lease on the recovery. -/
theorem RunStep.recovery (step : RunStep platform stageRunId call answer before after)
    (follows : Stage.receiptFollowsStart before) :
    LeaseStep call.now (recoveryHolding before)
      (recoveryEvent stageRunId call answer before after) (recoveryHolding after) := by
  cases step with
  | kept lost =>
    rw [recoveryEvent_of_lost lost]
    exact .kept
  | @registered _ input asked =>
    have unchanged : recoveryEvent stageRunId call answer none (some (input.row call.now)) =
        .kept := by simp [recoveryEvent, asked]
    rw [unchanged]
    exact .kept
  | @changed answer row changed named step =>
    have kept : recoveryEvent stageRunId call (.ok answer) (some row) (some changed) = .kept →
        recoveryHolding (some changed) = recoveryHolding (some row) →
        LeaseStep call.now (recoveryHolding (some row))
          (recoveryEvent stageRunId call (.ok answer) (some row) (some changed))
          (recoveryHolding (some changed)) := by
      intro unchanged same
      rw [unchanged, same]
      exact .kept
    have granted : ∀ lease, recoveryEvent stageRunId call (.ok answer) (some row) (some changed) =
          .granted lease → recoveryHolding (some changed) = .held lease →
        (∀ earlier, recoveryHolding (some row) = .held earlier → earlier.expiresAt ≤ call.now) →
        LeaseStep call.now (recoveryHolding (some row))
          (recoveryEvent stageRunId call (.ok answer) (some row) (some changed))
          (recoveryHolding (some changed)) := by
      intro lease event held expired
      rw [event, held]
      exact .granted (recoveryHolding_ne_retired _) expired
    have released : ∀ {token}, recoveryEvent stageRunId call (.ok answer) (some row)
          (some changed) = .released token →
        (∃ expiresAt, recoveryHolding (some row) = .held ⟨token, expiresAt⟩) →
        recoveryHolding (some changed) = .free →
        LeaseStep call.now (recoveryHolding (some row))
          (recoveryEvent stageRunId call (.ok answer) (some row) (some changed))
          (recoveryHolding (some changed)) := by
      intro token event held vacant
      obtain ⟨expiresAt, held⟩ := held
      rw [event, held, vacant]
      exact .released
    cases step with
    | kept lost => exact kept (recoveryEvent_of_lost (by simpa using fun _ => lost)) rfl
    | startClaimed asked | startFailed asked | closed asked =>
      exact kept (by simp [recoveryEvent, asked]) rfl
    | @started input _ asked pending =>
      have vacant : recoveryHolding (some row) = .free := by
        simp [recoveryHolding, currentRecovery, follows row rfl pending.1 pending.2]
      rw [vacant]
      unfold recoveryEvent
      rw [if_pos named]
      simp only [asked, Option.some.injEq, startedRow_ne pending, if_false]
      split
      · rename_i lease held
        rw [held]
        exact .granted (by simp) (by simp)
      · rename_i unheld
        cases brought : recoveryHolding _ with
        | free => exact .kept
        | held lease => exact absurd brought (unheld lease)
        | retired => exact absurd brought (recoveryHolding_ne_retired _)
    | @recoveryClaimed input leaseMs token receipt recovery digest producerAttemptRef _ asked valid
        closed recorded empty =>
      refine granted ⟨token, call.now + leaseMs⟩ ?_ rfl ?_
      · unfold recoveryEvent
        rw [if_pos named]
        simp only [asked, validLeaseMs_eq_ok valid]
      · simp [recoveryHolding, currentRecovery, recorded, empty]
    | @recoveryReclaimed input leaseMs status token receipt existing _ asked valid closed recorded
        current ended expired =>
      refine granted ⟨token, call.now + leaseMs⟩ ?_ rfl ?_
      · unfold recoveryEvent
        rw [if_pos named]
        simp only [asked, validLeaseMs_eq_ok valid]
      · exact recoveryHolding_expired recorded current expired
    | @recoveryReplaced input leaseMs status token receipt existing terminalRetry recovery digest
        producerAttemptRef _ asked valid closed recorded current given retry allowed ended expired =>
      refine granted ⟨token, call.now + leaseMs⟩ ?_ rfl ?_
      · unfold recoveryEvent
        rw [if_pos named]
        simp only [asked, validLeaseMs_eq_ok valid]
      · exact recoveryHolding_expired recorded current expired
    | recoveryStarted asked recorded current starting owned =>
      refine released ?_ (recoveryHolding_owned recorded current starting owned)
        (recoveryHolding_writeRecoveryRuns (by simp))
      unfold recoveryEvent
      rw [if_pos named]
      simp only [asked, Option.some.injEq]
      rw [if_neg (writeRecoveryRuns_ne recorded current (by simp [starting]))]
    | recoveryFailed asked recorded current starting owned =>
      refine released ?_ (recoveryHolding_owned recorded current starting owned)
        (recoveryHolding_writeRecoveryRuns (by simp))
      unfold recoveryEvent
      rw [if_pos named]
      simp only [asked, Option.some.injEq]
      rw [if_neg (writeRecoveryRuns_ne recorded current (by simp [starting]))]

theorem startEvent_eq_granted :
    startEvent stageRunId entry.call entry.answer (launchRow entry.before stageRunId)
        (launchRow entry.after stageRunId) = .granted lease ↔
      entry.ClaimsStart stageRunId lease := by
  constructor
  · intro granted
    unfold startEvent at granted
    split at granted
    · rename_i named
      split at granted
      · rename_i input status token asked answered
        cases granted
        exact ⟨input, status, token, asked, named, answered, rfl⟩
      · split at granted <;> cases granted
      · split at granted <;> cases granted
      · cases granted
    · cases granted
  · rintro ⟨input, status, token, asked, named, answered, rfl⟩
    unfold startEvent
    rw [if_pos named, asked, answered]

theorem startEvent_eq_released {token : String} :
    startEvent stageRunId entry.call entry.answer (launchRow entry.before stageRunId)
        (launchRow entry.after stageRunId) = .released token ↔
      entry.FailsStart stageRunId token := by
  constructor
  · intro released
    unfold startEvent at released
    split at released
    · rename_i named
      split at released
      · cases released
      · rename_i input asked
        split at released
        · cases released
        · rename_i differs
          cases released
          exact ⟨input, asked, named, rfl, differs⟩
      · split at released <;> cases released
      · cases released
    · cases released
  · rintro ⟨input, asked, named, rfl, differs⟩
    unfold startEvent
    rw [if_pos named, asked]
    exact if_neg differs

theorem recoveryEvent_of_claims (claims : entry.ClaimsRecovery stageRunId lease) :
    recoveryEvent stageRunId entry.call entry.answer (launchRow entry.before stageRunId)
        (launchRow entry.after stageRunId) = .granted lease := by
  obtain ⟨input, status, token, asked, named, answered, rfl⟩ := claims
  unfold recoveryEvent
  rw [if_pos named, asked, answered]

theorem claims_of_recoveryEvent
    (granted : recoveryEvent stageRunId entry.call entry.answer (launchRow entry.before stageRunId)
        (launchRow entry.after stageRunId) = .granted lease) :
    entry.ClaimsRecovery stageRunId lease ∨ entry.Changes stageRunId ∧
      ∃ input, entry.call.operation = .recordStageRunTemporalStart input := by
  unfold recoveryEvent at granted
  split at granted
  · rename_i named
    split at granted
    · rename_i input status token asked answered
      cases granted
      exact .inl ⟨input, status, token, asked, named, answered, rfl⟩
    · split at granted <;> cases granted
    · split at granted <;> cases granted
    · rename_i input asked
      split at granted
      · cases granted
      · rename_i differs
        exact .inr ⟨differs, input, asked⟩
    · cases granted
  · cases granted

theorem recoveryEvent_eq_released {token : String} :
    recoveryEvent stageRunId entry.call entry.answer (launchRow entry.before stageRunId)
        (launchRow entry.after stageRunId) = .released token ↔
      entry.FailsRecovery stageRunId token ∨ entry.StartsRecovery stageRunId token := by
  constructor
  · intro released
    unfold recoveryEvent at released
    split at released
    · rename_i named
      split at released
      · cases released
      · rename_i input asked
        split at released
        · cases released
        · rename_i differs
          cases released
          exact .inl ⟨input, asked, named, rfl, differs⟩
      · rename_i input asked
        split at released
        · cases released
        · rename_i differs
          cases released
          exact .inr ⟨input, asked, named, rfl, differs⟩
      · split at released
        · cases released
        · split at released <;> cases released
      · cases released
    · cases released
  · rintro (⟨input, asked, named, rfl, differs⟩ | ⟨input, asked, named, rfl, differs⟩)
    all_goals
      unfold recoveryEvent
      rw [if_pos named, asked]
      exact if_neg differs

end

/-! ### Exclusive and fenced -/

variable {claims : Lease String → Transaction → Prop} {returns : String → Transaction → Prop}
  {event : Transaction → LeaseEvent String} {log : List Transaction}

/-- Of two claims the second comes after the first lease has run out, or after it
has been given back. -/
def Exclusive (claims : Lease String → Transaction → Prop) (returns : String → Transaction → Prop)
    (log : List Transaction) : Prop :=
  ∀ earlier first between second later lease other,
    log = earlier ++ first :: (between ++ second :: later) →
    claims lease first → claims other second →
    lease.expiresAt ≤ second.call.now ∨ ∃ entry ∈ between, returns lease.token entry

/-- A lease is given back under the token of the last claim only. -/
def Fenced (claims : Lease String → Transaction → Prop) (returns : String → Transaction → Prop)
    (log : List Transaction) : Prop :=
  ∀ earlier first between second later lease token,
    log = earlier ++ first :: (between ++ second :: later) →
    claims lease first → (∀ entry ∈ between, ∀ other, ¬claims other entry) →
    returns token second → token = lease.token

section Rules

variable {start final : Holding String}
  (run : LeaseRun start (log.map fun entry => (entry.call.now, event entry)) final)
include run

theorem exclusive_of_leaseRun
    (ordered : log.Pairwise fun entry later => entry.call.now ≤ later.call.now)
    (granted : ∀ entry lease, claims lease entry → event entry = .granted lease)
    (released : ∀ entry token, event entry = .released token → returns token entry) :
    Exclusive claims returns log := by
  rintro earlier first between second later lease other rfl claimsFirst claimsSecond
  simp only [List.map_append, List.map_cons, granted _ _ claimsFirst,
    granted _ _ claimsSecond] at run
  have inOrder : ∀ entry ∈ between.map fun entry => (entry.call.now, event entry),
      entry.1 ≤ second.call.now := by
    intro timed member
    obtain ⟨entry, listed, rfl⟩ := List.mem_map.1 member
    have tail := (List.pairwise_cons.1 (List.pairwise_append.1 ordered).2.1).2
    exact (List.pairwise_append.1 tail).2.2 entry listed second (.head _)
  rcases run.exclusive inOrder with ranOut | ⟨now, listed⟩
  · exact .inl ranOut
  · obtain ⟨entry, listed, same⟩ := List.mem_map.1 listed
    exact .inr ⟨entry, listed, released _ _ (congrArg Prod.snd same)⟩

theorem fenced_of_leaseRun (granted : ∀ entry lease, claims lease entry → event entry = .granted lease)
    (ungranted : ∀ earlier first between later lease,
      log = earlier ++ first :: (between ++ later) → claims lease first →
      (∀ entry ∈ between, ∀ other, ¬claims other entry) →
      ∀ entry ∈ between, ∀ other, event entry ≠ .granted other)
    (released : ∀ entry token, returns token entry → event entry = .released token) :
    Fenced claims returns log := by
  intro earlier first between second later lease token same claimsFirst unclaimed returnsToken
  have quiet := ungranted earlier first between (second :: later) lease same claimsFirst unclaimed
  subst same
  simp only [List.map_append, List.map_cons, granted _ _ claimsFirst,
    released _ _ returnsToken] at run
  refine run.fenced ?_
  intro timed member
  obtain ⟨entry, listed, rfl⟩ := List.mem_map.1 member
  exact quiet entry listed

end Rules

/-- A run that is closed stays closed. -/
def isClosed (row : Option StageRunLaunchRow) : Prop :=
  ∃ known, row = some known ∧ known.launchStatus = .closed

section

variable {calls : List RegistryCall}

theorem RunStep.isClosed (step : RunStep platform stageRunId call answer before after)
    (closed : isClosed before) : Stage.isClosed after := by
  obtain ⟨row, rfl, closed⟩ := closed
  cases step with
  | kept => exact ⟨row, rfl, closed⟩
  | changed _ step =>
    refine ⟨_, rfl, ?_⟩
    cases step with
    | startClaimed _ _ pending => exact absurd closed pending.2
    | started _ pending => exact absurd closed pending.2
    | startFailed _ starting => simp [closed] at starting
    | kept | closed | recoveryClaimed | recoveryReclaimed | recoveryReplaced | recoveryStarted
    | recoveryFailed => first | exact closed | rfl

theorem history_split {table : LaunchTable} {earlier more : List Transaction}
    (split : history platform table calls = earlier ++ more) :
    ∃ first rest, calls = first ++ rest ∧ earlier = history platform table first ∧
      more = history platform (tableAfter platform table first) rest := by
  induction earlier generalizing table calls with
  | nil => exact ⟨[], calls, rfl, rfl, split.symm⟩
  | cons entry earlier ih =>
    cases calls with
    | nil => cases split
    | cons call calls =>
      obtain ⟨head, tail⟩ := List.cons.inj split
      subst head
      obtain ⟨first, rest, rfl, rfl, rfl⟩ := ih tail
      exact ⟨call :: first, rest, rfl, rfl, rfl⟩

/-- Once a run is closed it is closed before every later call. -/
theorem isClosed_later {table : LaunchTable} {first : Transaction} {later : List Transaction}
    (split : history platform table calls = first :: later)
    (closed : isClosed (launchRow first.after stageRunId)) (entry : Transaction)
    (listed : entry ∈ later) : isClosed (launchRow entry.before stageRunId) := by
  cases calls with
  | nil => cases split
  | cons call calls =>
    obtain ⟨head, tail⟩ := List.cons.inj split
    subst head tail
    have keeps : ∀ entry ∈ history platform (call.commit platform table) calls,
        isClosed (launchRow entry.before stageRunId) :=
      (history_keeps closed fun _ _ _ _ _ closed step => step.isClosed closed).1
    exact keeps entry listed

/-- Only the recovery of a closed run is claimed. -/
theorem RunStep.isClosed_of_claim (step : RunStep platform stageRunId call answer before after)
    {input : RecoveryClaimInput} (asked : call.operation = .claimStageRunRecoveryStart input)
    (named : call.operation.stageRunId = stageRunId) {status : ClaimStatus} {token : ClaimToken}
    (answered : answer = .ok (.claim ⟨status, some token⟩)) : Stage.isClosed after := by
  cases step with
  | kept lost => exact absurd answered (lost named _ _)
  | registered other => simp [asked] at other
  | changed _ step =>
    refine ⟨_, rfl, ?_⟩
    cases step with
    | kept lost => exact absurd (Except.ok.inj answered) (lost _ _)
    | startClaimed other => simp [asked] at other
    | recoveryClaimed _ _ closed | recoveryReclaimed _ _ closed | recoveryReplaced _ _ closed =>
      exact closed
    | started | startFailed | closed | recoveryStarted | recoveryFailed => cases answered

/-- Nothing is recorded as the start of a closed run. -/
theorem RunStep.eq_of_isClosed (step : RunStep platform stageRunId call answer before after)
    (closed : Stage.isClosed before) {input : TemporalStartInput}
    (asked : call.operation = .recordStageRunTemporalStart input) : after = before := by
  obtain ⟨row, rfl, closed⟩ := closed
  cases step with
  | kept => rfl
  | changed _ step =>
    cases step with
    | kept => rfl
    | started _ pending => exact absurd closed pending.2
    | startClaimed other | startFailed other | closed other | recoveryClaimed other
    | recoveryReclaimed other | recoveryReplaced other | recoveryStarted other
    | recoveryFailed other => simp [asked] at other

/-- Only a claim renews a lease on a recovery once there has been one. -/
theorem recovery_ungranted {earlier between later : List Transaction} {first : Transaction}
    {lease : Lease String}
    (split : history platform [] calls = earlier ++ first :: (between ++ later))
    (claims : first.ClaimsRecovery stageRunId lease)
    (unclaimed : ∀ entry ∈ between, ∀ other, ¬entry.ClaimsRecovery stageRunId other)
    (entry : Transaction) (listed : entry ∈ between) (other : Lease String) :
    recoveryEvent stageRunId entry.call entry.answer (launchRow entry.before stageRunId)
        (launchRow entry.after stageRunId) ≠ .granted other := by
  intro granted
  rcases claims_of_recoveryEvent granted with again | ⟨differs, input, asked⟩
  · exact unclaimed entry listed other again
  · obtain ⟨calls, rest, rfl, -, tail⟩ := history_split split
    obtain ⟨claim, status, token, claimed, named, answered, -⟩ := claims
    have closed : isClosed (launchRow first.after stageRunId) := by
      have member : first ∈ history platform (tableAfter platform [] calls) rest := by simp [← tail]
      exact (runStep_of_mem_history member stageRunId).2.isClosed_of_claim claimed named answered
    have member : entry ∈ history platform (tableAfter platform [] calls) rest := by
      simp [← tail, listed]
    exact differs ((runStep_of_mem_history member stageRunId).2.eq_of_isClosed
      (isClosed_later tail.symm closed entry (by simp [listed])) asked)

end

/-- A recovery that has started is claimed again only as a retry of the run it has
recorded, and only once that run has come to an end. -/
def RetriesEndedRun (entry : Transaction) (existing : StageRunRecoveryRun) : Prop :=
  ∃ input retry, entry.call.operation = .claimStageRunRecoveryStart input ∧
    input.terminalRetry = some retry ∧ existing.persistedRunId = some retry.recoveryRunId ∧
    terminalTemporalRecoveryStatus retry.workflowStatus = true

/-- The starts of a run and those of its recovery are each in one hand. -/
structure LaunchLeases (platform : RegistryPlatform) (calls : List RegistryCall)
    (stageRunId : String) : Prop where
  startsExclude : Exclusive (Transaction.ClaimsStart stageRunId)
    (Transaction.FailsStart stageRunId) (history platform [] calls)
  startsFenced : Fenced (Transaction.ClaimsStart stageRunId)
    (Transaction.FailsStart stageRunId) (history platform [] calls)
  recoveriesExclude : Exclusive (Transaction.ClaimsRecovery stageRunId)
    (fun token entry => entry.FailsRecovery stageRunId token ∨
      entry.StartsRecovery stageRunId token) (history platform [] calls)
  recoveriesFenced : Fenced (Transaction.ClaimsRecovery stageRunId)
    (fun token entry => entry.FailsRecovery stageRunId token ∨
      entry.StartsRecovery stageRunId token) (history platform [] calls)
  startedOnce : ∀ entry ∈ history platform [] calls, ∀ lease,
    entry.ClaimsRecovery stageRunId lease →
    ∀ existing, currentRecovery (launchRow entry.before stageRunId) = some existing →
      existing.startStatus = .started → RetriesEndedRun entry existing

end Leases

end OnePersonLab.Stage

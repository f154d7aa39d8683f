import OnePersonLab.Attempt.TerminalObservation

/-!
# Signals and heartbeats of an attempt

A person or the runtime signals an attempt, and a running activity reports that it lives.
-/

namespace OnePersonLab.Attempt

open Contract Stage

/-- What a signal asks for, with the fields of its payload that are read. -/
inductive SignalKind where
  | humanGate (humanGateRef reason : Option String)
  | resume
  | userInstruction
  | ownerReceipt (ownerReceiptRef : Option String)
  deriving DecidableEq

structure StageAttemptSignal where
  kind : SignalKind
  ingress : IngressIdentity
  /-- The digest of the attempt, the kind, the payload and the time. -/
  signalId : String
  deriving DecidableEq

def resumable (status : AttemptStatus) : Bool :=
  status = .humanGate || status = .blocked || status = .failed

/-- The write of a signal; what it adds to the provider run is read by no later step. -/
def signaledRow (row : AttemptRow) (signal : StageAttemptSignal) : AttemptRow :=
  match signal.kind with
  | .humanGate humanGateRef reason =>
    { row with
      status := .humanGate
      humanGateRefs := (row.humanGateRefs ++ [humanGateRef.getD signal.signalId]).eraseDups
      blockedReason := some (reason.getD "human_gate_signal_received") }
  | .resume =>
    { row with
      status := if resumable row.status then .queued else row.status
      blockedReason := none }
  | .userInstruction | .ownerReceipt _ => row

def IngressFailure.message : IngressFailure → String
  | .unresolved => "Identity-unresolved runtime rows cannot accept mutating ingress."
  | .missing => "Work-item runtime ingress is missing its exact Attempt lineage."
  | .mismatch => "Runtime ingress targets a different Attempt lineage."
  | .scopeMissing => "Work-item runtime ingress is missing its execution scope binding."
  | .scopeMismatch => "Runtime ingress execution scope does not match its persisted Attempt."

/-- `signalStageAttempt`. -/
def signalStageAttempt (ledger : Ledger) (signal : StageAttemptSignal) : Checked Ledger :=
  match requireFamilyRuntimeIngressIdentity ledger.row.identity signal.ingress with
  | .error failure => fail failure.message
  | .ok () => .ok { ledger with row := signaledRow ledger.row signal }

def beating (status : AttemptStatus) : Bool := status = .queued || status = .running

def heartbeatRow (row : AttemptRow) (session : Option String) : AttemptRow :=
  { row with
    status := .running
    executionSessionRef := row.executionSessionRef.or session
    providerRun := { row.providerRun with providerStatus := "running" } }

/-- `recordStageAttemptActivityHeartbeat`. -/
def recordStageAttemptActivityHeartbeat (ledger : Ledger) (executionSessionRef : Option String) :
    Checked Ledger :=
  let session := trimmedText executionSessionRef
  if ledger.row.scope = .unresolved then
    fail "Identity-unresolved or quarantined runtime rows cannot cross an execution boundary."
  else if beating ledger.row.status = false then .ok ledger
  else if ledger.row.executionSessionRef ≠ none ∧ session ≠ none ∧
      ledger.row.executionSessionRef ≠ session then
    .error (.runtime "StageAttempt execution session drift.")
  else .ok { ledger with row := heartbeatRow ledger.row session }

/-! ## Calls -/

/-- A call on an attempt. -/
inductive AttemptCall where
  | signal (signal : StageAttemptSignal)
  | heartbeat (executionSessionRef : Option String)
  | ingest (packet : SentPacket) (costSummary : Option CostSummary)
  | observe (observation : TemporalObservation)

/-- The ledger after a call that has changed it or thrown. -/
def afterChecked (ledger : Ledger) : Checked Ledger → Ledger
  | .ok changed => changed
  | .error _ => ledger

/-- A heartbeat changes nothing, or it beats on a row that is queued or runs. -/
theorem heartbeat_cases (ledger : Ledger) (session : Option String) :
    afterChecked ledger (recordStageAttemptActivityHeartbeat ledger session) = ledger ∨
      (beating ledger.row.status = true ∧
        afterChecked ledger (recordStageAttemptActivityHeartbeat ledger session) =
          { ledger with row := heartbeatRow ledger.row (trimmedText session) }) := by
  unfold recordStageAttemptActivityHeartbeat
  by_cases unresolved : ledger.row.scope = .unresolved
  · simp only [if_pos unresolved]
    exact .inl rfl
  · by_cases still : beating ledger.row.status = false
    · simp only [if_neg unresolved, if_pos still]
      exact .inl rfl
    · by_cases drift : ledger.row.executionSessionRef ≠ none ∧ trimmedText session ≠ none ∧
          ledger.row.executionSessionRef ≠ trimmedText session
      · simp only [if_neg unresolved, if_neg still, if_pos drift]
        exact .inl rfl
      · simp only [if_neg unresolved, if_neg still, if_neg drift]
        exact .inr ⟨by simpa using still, rfl⟩

def Ledger.call (texts : Texts) (ledger : Ledger) : AttemptCall → Ledger
  | .signal signal => afterChecked ledger (signalStageAttempt ledger signal)
  | .heartbeat session => afterChecked ledger (recordStageAttemptActivityHeartbeat ledger session)
  | .ingest packet costSummary =>
    afterChecked ledger (ingestStageAttemptCloseout texts ledger packet costSummary)
  | .observe observation =>
    (syncStageAttemptFromTemporalTerminalObservation texts ledger observation).ledger

def Ledger.run (texts : Texts) (ledger : Ledger) (calls : List AttemptCall) : Ledger :=
  calls.foldl (Ledger.call texts) ledger

end OnePersonLab.Attempt

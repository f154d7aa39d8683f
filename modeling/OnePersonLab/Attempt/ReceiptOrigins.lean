import OnePersonLab.Attempt.CompletedAttempts
import OnePersonLab.Lib.Outcome

/-!
# What an accepted closeout stands on

The receipt status of a row says whether its last closeout comes from the executor or the
domain. The ledger tells the closeouts of the framework by markers; two of its own
diagnostics carry none of them.
-/

namespace OnePersonLab.Attempt

open Contract Lib Stage

/-! ## Origins -/

/-- A ref of a diagnostic that the framework makes for an attempt. -/
def isFrameworkDiagnosticRef (stageAttemptId ref : String) : Bool :=
  ref = noOutputDiagnosticRef stageAttemptId || ref = failureDiagnosticRef stageAttemptId ||
    startsWith ref s!"opl://stage-attempts/{stageAttemptId}/quality-debt-diagnostics/"

/-- A packet with a ref of the executor or the domain. -/
def CloseoutPacket.supplied (packet : CloseoutPacket) (stageAttemptId : String) : Bool :=
  packet.closeoutRefs.any fun ref => !isFrameworkDiagnosticRef stageAttemptId ref

/-- The markers of a packet tell its origin. -/
def CloseoutPacket.recognised (packet : CloseoutPacket) (stageAttemptId : String) : Bool :=
  packet.marked || packet.supplied stageAttemptId

/-! ## Receipts of a domain route -/

inductive TransportReceiptStatus where
  | providerTerminalBlocked
  | typedCloseoutProgressObserved
  | consumableProgressObserved
  | runtimeBlockerObserved
  deriving DecidableEq, Repr

/-- `transportReceiptStatus`, with the status that `taskStatusForTerminalAttempt` gives. -/
def transportReceiptStatus (row : AttemptRow) : TransportReceiptStatus :=
  if row.status = .failed ∨ row.status = .deadLettered then .providerTerminalBlocked
  else if row.status = .completed ∧ row.closeoutRefs ≠ [] then
    if row.closeoutReceiptStatus = some .acceptedTypedCloseout then .typedCloseoutProgressObserved
    else .consumableProgressObserved
  else .runtimeBlockerObserved

/-- The rows that `hasLaterAcceptedCloseoutAttempt` looks for. -/
def hasAcceptedCloseout (row : AttemptRow) : Bool :=
  row.status = .completed && row.closeoutReceiptStatus = some .acceptedTypedCloseout

/-! ## The packet that a row has taken last -/

/-- The packet that an exit ingests. -/
def exitPacket (row : AttemptRow) (observation : TemporalObservation) :
    TerminalExit → Option SentPacket
  | .ingestCompleted packet => some packet
  | .ingestBlocker blocker => some (progressDiagnosticPacket observation row blocker)
  | .ingestFailure failureReason => some (failureDiagnosticPacket observation row failureReason)
  | .alreadyRecorded | .recordCompleted | .ignore | .block _ | .failRow _ => none

/-- The packet that a call has the row take. -/
def takenPacket (texts : Texts) (ledger : Ledger) : AttemptCall → Option CloseoutPacket
  | .ingest sent costSummary =>
    match ingestStageAttemptCloseout texts ledger sent costSummary with
    | .ok _ => (normalizeTypedStageCloseoutPacket sent).toOption
    | .error _ => none
  | .observe observation =>
    if concerns ledger.row observation = true ∧
        (syncStageAttemptFromTemporalTerminalObservation texts ledger observation).thrown = none then
      (terminalExit ledger.row observation).toOption.bind fun exit =>
        (exitPacket ledger.row observation exit).bind fun sent =>
          (normalizeTypedStageCloseoutPacket sent).toOption
    else none
  | .signal _ | .heartbeat _ => none

/-- A ledger with the packet that its row has taken last. -/
structure Traced where
  ledger : Ledger
  taken : Option CloseoutPacket

def Traced.call (texts : Texts) (traced : Traced) (call : AttemptCall) : Traced where
  ledger := traced.ledger.call texts call
  taken := (takenPacket texts traced.ledger call).or traced.taken

def Traced.run (texts : Texts) (traced : Traced) (calls : List AttemptCall) : Traced :=
  calls.foldl (Traced.call texts) traced

/-- An accepted closeout has a ref of the executor or the domain, for every reader. -/
structure HonestReceipt (traced : Traced) : Prop where
  accepted : traced.ledger.row.closeoutReceiptStatus = some .acceptedTypedCloseout →
    ∃ packet ∈ traced.taken, packet.supplied traced.ledger.row.stageAttemptId = true
  diagnosed : ∀ packet ∈ traced.taken,
    packet.supplied traced.ledger.row.stageAttemptId = false →
      traced.ledger.row.closeoutReceiptStatus = none ∨
      traced.ledger.row.closeoutReceiptStatus = some .frameworkProgressEnvelope
  transport : transportReceiptStatus traced.ledger.row = .typedCloseoutProgressObserved →
    ∃ packet ∈ traced.taken, packet.supplied traced.ledger.row.stageAttemptId = true
  linked : hasAcceptedCloseout traced.ledger.row = true →
    ∃ packet ∈ traced.taken, packet.supplied traced.ledger.row.stageAttemptId = true

/-- The readers see no more than the receipt status. -/
theorem HonestReceipt.of_accepted {traced : Traced}
    (accepted : traced.ledger.row.closeoutReceiptStatus = some .acceptedTypedCloseout →
      ∃ packet ∈ traced.taken, packet.supplied traced.ledger.row.stageAttemptId = true) :
    HonestReceipt traced where
  accepted := accepted
  diagnosed := by
    intro packet taken unsupplied
    cases status : traced.ledger.row.closeoutReceiptStatus with
    | none => exact .inl rfl
    | some receipt =>
      cases receipt with
      | frameworkProgressEnvelope => exact .inr rfl
      | acceptedTypedCloseout =>
        obtain ⟨other, takenOther, supplied⟩ := accepted status
        obtain rfl : packet = other := Option.mem_unique taken takenOther
        simp [unsupplied] at supplied
  transport := by
    intro observed
    apply accepted
    by_contra unaccepted
    unfold transportReceiptStatus at observed
    rw [if_neg unaccepted] at observed
    split at observed
    · exact absurd observed (by simp)
    · split at observed
      · exact absurd observed (by simp)
      · exact absurd observed (by simp)
  linked := by
    intro observed
    simp only [hasAcceptedCloseout, Bool.and_eq_true, decide_eq_true_eq] at observed
    exact accepted observed.2

/-! ## Calls whose packets are recognised -/

/-- A sent packet is recognised once it is read. -/
def SentRecognised (stageAttemptId : String) (sent : SentPacket) : Prop :=
  ∀ packet ∈ (normalizeTypedStageCloseoutPacket sent).toOption,
    packet.recognised stageAttemptId = true

instance (stageAttemptId : String) (sent : SentPacket) :
    Decidable (SentRecognised stageAttemptId sent) :=
  inferInstanceAs (Decidable (∀ packet ∈ (normalizeTypedStageCloseoutPacket sent).toOption, _))

/-- An ingested packet and the packet of a completed query have a marker or a ref that is no
diagnostic of the framework; and no failure is ingested. -/
def OriginRecognised (row : AttemptRow) : AttemptCall → Prop
  | .ingest sent _ => SentRecognised row.stageAttemptId sent
  | .observe observation =>
    match terminalExit row observation with
    | .ok (.ingestCompleted sent) => SentRecognised row.stageAttemptId sent
    | .ok (.ingestFailure _) => False
    | _ => True
  | .signal _ | .heartbeat _ => True

instance (row : AttemptRow) (call : AttemptCall) : Decidable (OriginRecognised row call) := by
  cases call with
  | ingest sent _ => exact inferInstanceAs (Decidable (SentRecognised _ _))
  | observe observation =>
    dsimp only [OriginRecognised]
    generalize terminalExit row observation = exit
    rcases exit with _ | exit
    · exact instDecidableTrue
    · rcases exit with _ | _ | _ | _ | _ | _ | _ | _ <;> dsimp only <;> infer_instance
  | signal _ => exact instDecidableTrue
  | heartbeat _ => exact instDecidableTrue

def EachOriginRecognised (texts : Texts) (ledger : Ledger) : List AttemptCall → Prop
  | [] => True
  | call :: calls =>
    OriginRecognised ledger.row call ∧ EachOriginRecognised texts (ledger.call texts call) calls

/-! ## One call -/

/-- The packet that reports a blocker is marked. -/
theorem progressDiagnosticPacket_marked {observation : TemporalObservation} {row : AttemptRow}
    {blocker : String} {packet : CloseoutPacket}
    (read : normalizeTypedStageCloseoutPacket (progressDiagnosticPacket observation row blocker) =
      .ok packet) : packet.marked = true := by
  have authority : packet.authorityBoundary =
      [("opl", .string "provider_quality_debt_diagnostic_projection_only"),
        ("domain", .string "truth_quality_artifact_gate_owner")] :=
    normalizeTypedStageCloseoutPacket_authority read
  simp [CloseoutPacket.marked, authority]

/-- A recognised packet is accepted only with a ref of its sender. -/
theorem CloseoutPacket.supplied_of_recognised {packet : CloseoutPacket} {stageAttemptId : String}
    (recognised : packet.recognised stageAttemptId = true)
    (accepted : closeoutReceiptStatusForPacket packet = .acceptedTypedCloseout) :
    packet.supplied stageAttemptId = true := by
  rw [closeoutReceiptStatusForPacket_eq] at accepted
  simpa [CloseoutPacket.recognised, accepted] using recognised

/-- The ingest of a recognised packet leaves an honest receipt. -/
theorem ingest_accepted {texts : Texts} {ledger settled : Ledger} {sent : SentPacket}
    {costSummary : Option CostSummary} {stageAttemptId : String}
    (recognised : SentRecognised stageAttemptId sent)
    (ingested : ingestStageAttemptCloseout texts ledger sent costSummary = .ok settled)
    (accepted : settled.row.closeoutReceiptStatus = some .acceptedTypedCloseout) :
    ∃ packet ∈ (normalizeTypedStageCloseoutPacket sent).toOption,
      packet.supplied stageAttemptId = true := by
  obtain ⟨packet, read, -, status⟩ := (ingestStageAttemptCloseout_ok ingested).receipt
  rw [status, Option.some.injEq] at accepted
  have present : packet ∈ (normalizeTypedStageCloseoutPacket sent).toOption :=
    mem_toOption.2 read
  exact ⟨packet, present, packet.supplied_of_recognised (recognised packet present) accepted⟩

theorem fixed_stageAttemptId {row other : AttemptRow} (fixed : row.fixed = other.fixed) :
    row.stageAttemptId = other.stageAttemptId :=
  congrArg FixedColumns.stageAttemptId fixed

theorem signaledRow_receipt (row : AttemptRow) (signal : StageAttemptSignal) :
    (signaledRow row signal).closeoutReceiptStatus = row.closeoutReceiptStatus := by
  unfold signaledRow
  split <;> rfl

theorem heartbeat_receipt (ledger : Ledger) (session : Option String) :
    (afterChecked ledger
      (recordStageAttemptActivityHeartbeat ledger session)).row.closeoutReceiptStatus =
        ledger.row.closeoutReceiptStatus := by
  rcases heartbeat_cases ledger session with same | ⟨-, beaten⟩
  · rw [same]
  · rw [beaten]
    rfl

theorem heartbeat_fixed (ledger : Ledger) (session : Option String) :
    (afterChecked ledger (recordStageAttemptActivityHeartbeat ledger session)).row.fixed =
      ledger.row.fixed := by
  rcases heartbeat_cases ledger session with same | ⟨-, beaten⟩
  · rw [same]
  · rw [beaten]
    rfl

theorem call_fixed (texts : Texts) (ledger : Ledger) (call : AttemptCall) :
    (ledger.call texts call).row.fixed = ledger.row.fixed := by
  cases call with
  | signal signal =>
    rw [call_signal]
    split
    · exact signaledRow_fixed ledger.row signal
    · rfl
  | heartbeat session => exact heartbeat_fixed ledger session
  | ingest packet costSummary => exact afterIngest_fixed texts ledger packet costSummary
  | observe observation => exact syncStageAttempt_fixed texts ledger observation

/-- A call without a packet that is accepted afterwards was accepted before. -/
theorem call_signal_receipt (texts : Texts) (ledger : Ledger) (signal : StageAttemptSignal) :
    (ledger.call texts (.signal signal)).row.closeoutReceiptStatus =
      ledger.row.closeoutReceiptStatus := by
  rw [call_signal]
  split
  · exact signaledRow_receipt ledger.row signal
  · rfl

theorem observe_accepted {texts : Texts} {ledger : Ledger} {observation : TemporalObservation}
    (recognised : OriginRecognised ledger.row (.observe observation))
    (accepted : (ledger.call texts (.observe observation)).row.closeoutReceiptStatus =
      some .acceptedTypedCloseout) :
    (∃ packet ∈ takenPacket texts ledger (.observe observation),
      packet.supplied ledger.row.stageAttemptId = true) ∨
    (takenPacket texts ledger (.observe observation) = none ∧
      ledger.row.closeoutReceiptStatus = some .acceptedTypedCloseout) := by
  simp only [Ledger.call] at accepted
  simp only [takenPacket]
  have case := syncStageAttempt_case texts ledger observation
  generalize syncStageAttemptFromTemporalTerminalObservation texts ledger observation = synced
    at case accepted ⊢
  cases case with
  | stopped session usage thrown why =>
    right
    refine ⟨if_neg ?_, accepted⟩
    rintro ⟨concerned, unthrown⟩
    rcases why with elsewhere | failed
    · simp [concerned] at elsewhere
    · exact failed unthrown
  | settled session usage exit settled concerned chosen applied =>
    simp only [OriginRecognised, chosen] at recognised
    rw [if_pos ⟨concerned, rfl⟩, chosen]
    simp only [Except.toOption, Option.bind_some]
    cases exit with
    | ingestCompleted sent =>
      left
      exact ingest_accepted recognised applied accepted
    | ingestBlocker blocker =>
      left
      refine ingest_accepted ?_ applied accepted
      intro packet present
      simp [CloseoutPacket.recognised, progressDiagnosticPacket_marked (mem_toOption.1 present)]
    | ingestFailure failureReason => exact recognised.elim
    | alreadyRecorded | ignore | recordCompleted =>
      simp only [applyExit, Except.ok.injEq] at applied
      subst applied
      exact .inr ⟨rfl, accepted⟩
    | block blocker | failRow failureReason =>
      simp only [applyExit, Except.ok.injEq] at applied
      subst applied
      exact absurd accepted (by simp [blockedRow, failedRow])

/-- A recognised call keeps the receipt honest. -/
theorem Traced.call_honest {texts : Texts} {traced : Traced} {call : AttemptCall}
    (honest : HonestReceipt traced) (recognised : OriginRecognised traced.ledger.row call) :
    HonestReceipt (traced.call texts call) := by
  apply HonestReceipt.of_accepted
  intro accepted
  have sameId : (traced.call texts call).ledger.row.stageAttemptId =
      traced.ledger.row.stageAttemptId := fixed_stageAttemptId (call_fixed texts traced.ledger call)
  rw [sameId]
  -- Either the call has a packet of its own, or the earlier one still stands.
  have kept : takenPacket texts traced.ledger call = none →
      traced.ledger.row.closeoutReceiptStatus = some .acceptedTypedCloseout →
      ∃ packet ∈ (traced.call texts call).taken,
        packet.supplied traced.ledger.row.stageAttemptId = true := by
    intro untaken before
    simpa [Traced.call, untaken] using honest.accepted before
  have taken : (∃ packet ∈ takenPacket texts traced.ledger call,
        packet.supplied traced.ledger.row.stageAttemptId = true) →
      ∃ packet ∈ (traced.call texts call).taken,
        packet.supplied traced.ledger.row.stageAttemptId = true := by
    rintro ⟨packet, present, supplied⟩
    refine ⟨packet, ?_, supplied⟩
    simp only [Option.mem_def] at present
    simp [Traced.call, present]
  cases call with
  | signal signal =>
    exact kept rfl ((call_signal_receipt texts traced.ledger signal).symm.trans accepted)
  | heartbeat session =>
    exact kept rfl ((heartbeat_receipt traced.ledger session).symm.trans accepted)
  | observe observation =>
    rcases observe_accepted recognised accepted with own | ⟨untaken, before⟩
    · exact taken own
    · exact kept untaken before
  | ingest sent costSummary =>
    simp only [Traced.call, Ledger.call] at accepted
    cases ingested : ingestStageAttemptCloseout texts traced.ledger sent costSummary with
    | error failure =>
      rw [ingested] at accepted
      exact kept (by simp [takenPacket, ingested]) accepted
    | ok settled =>
      rw [ingested] at accepted
      apply taken
      simp only [takenPacket, ingested]
      exact ingest_accepted recognised ingested accepted

/-! ## Whole runs -/

/-- In every run whose packets are recognised, every state has an honest receipt. -/
theorem receipts_honest (texts : Texts) (ledger : Ledger)
    (unreceived : ledger.row.closeoutReceiptStatus = none) (calls : List AttemptCall)
    (recognised : EachOriginRecognised texts ledger calls) :
    ∀ before, before <+: calls → HonestReceipt ((Traced.mk ledger none).run texts before) := by
  have start : HonestReceipt ⟨ledger, none⟩ := by
    apply HonestReceipt.of_accepted
    intro accepted
    simp [unreceived] at accepted
  generalize (none : Option CloseoutPacket) = taken at start ⊢
  clear unreceived
  induction calls generalizing ledger taken with
  | nil =>
    intro before isPrefix
    rw [List.prefix_nil.1 isPrefix]
    exact start
  | cons call calls inductionHypothesis =>
    intro before isPrefix
    cases before with
    | nil => exact start
    | cons first before =>
      obtain ⟨rfl, restPrefix⟩ := List.cons_prefix_cons.1 isPrefix
      exact inductionHypothesis _ recognised.2 _ (Traced.call_honest start recognised.1) before
        restPrefix

/-! ## Diagnostics that are accepted -/

def runningLedger : Ledger := ⟨executorRow .running [] none, []⟩

/-- A workflow of the running attempt, with the status of its query and its closeout refs. -/
def observed (workflowStatus : Option String) (status : StageAttemptStatus)
    (closeoutRefs : List String) : TemporalObservation where
  stageAttemptId := "sat_1"
  workflowId := "wf_1"
  workflowStatus := workflowStatus
  query := some {
    stageRunId := none
    executionScope := none
    status := status
    activityEvents := []
    closeoutRefs := closeoutRefs
    consumedRefs := []
    consumedMemoryRefs := []
    writebackReceiptRefs := []
    rejectedWrites := []
    nextOwner := some "redcube"
    routeImpact := []
    closeoutPacket := none
    providerCompleted := decide (status = .completed)
    domainReadyVerdict := none }

theorem receipts_honest_completed :
    runningLedger.row.closeoutReceiptStatus = none ∧
    ∀ before, before <+: [.observe (observed (some "COMPLETED") .completed ["receipt:closeout"])] →
      HonestReceipt ((Traced.mk runningLedger none).run shortTexts before) :=
  ⟨rfl, receipts_honest shortTexts runningLedger rfl _ (by
    simp only [EachOriginRecognised, and_true]
    decide +kernel)⟩

/-- A closeout of the framework's own has been accepted as the executor's. -/
def DiagnosticAccepted (traced : Traced) : Prop :=
  (traced.ledger.row.closeoutReceiptStatus = some .acceptedTypedCloseout ∧
    ∃ packet ∈ traced.taken, packet.supplied "sat_1" = false) ∧
  transportReceiptStatus traced.ledger.row = .typedCloseoutProgressObserved

instance (traced : Traced) : Decidable (DiagnosticAccepted traced) :=
  inferInstanceAs (Decidable ((traced.ledger.row.closeoutReceiptStatus =
      some .acceptedTypedCloseout ∧
    ∃ packet ∈ traced.taken, packet.supplied "sat_1" = false) ∧
    transportReceiptStatus traced.ledger.row = .typedCloseoutProgressObserved))

/-- The diagnostics of a query without output and of a failed workflow are accepted. -/
theorem diagnostics_accepted :
    DiagnosticAccepted ((Traced.mk runningLedger none).call shortTexts
        (.observe (observed (some "COMPLETED") .completed []))) ∧
      DiagnosticAccepted ((Traced.mk runningLedger none).call shortTexts
        (.observe (observed (some "FAILED") .running []))) := by
  decide +kernel

end OnePersonLab.Attempt

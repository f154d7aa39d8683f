import OnePersonLab.Attempt.Signals

/-!
# Completed attempts

Every call but one leaves an attempt completed that has taken a closeout: heartbeats and
resumptions ask for the status, closeouts and observations complete it again. A human gate
does not ask.
-/

namespace OnePersonLab.Attempt

open Contract Stage

/-! ## Human gates -/

def SignalKind.isHumanGate : SignalKind → Bool
  | .humanGate _ _ => true
  | _ => false

/-- A human gate that the attempt lets in. -/
def AcceptsHumanGate (identity : AttemptIdentity) : AttemptCall → Prop
  | .signal signal => signal.kind.isHumanGate = true ∧
      requireFamilyRuntimeIngressIdentity identity signal.ingress = .ok ()
  | _ => False

instance (identity : AttemptIdentity) (call : AttemptCall) :
    Decidable (AcceptsHumanGate identity call) :=
  match call with
  | .signal _ => inferInstanceAs (Decidable (_ ∧ _))
  | .ingest _ _ | .observe _ | .heartbeat _ => inferInstanceAs (Decidable False)

variable {row : AttemptRow} {ledger : Ledger} {texts : Texts}

/-- The check reads the columns that no call writes. -/
theorem requireFamilyRuntimeIngressIdentity_of_fixed {other : AttemptRow}
    (fixed : row.fixed = other.fixed) (ingress : IngressIdentity) :
    requireFamilyRuntimeIngressIdentity row.identity ingress =
      requireFamilyRuntimeIngressIdentity other.identity ingress := by
  simp only [AttemptRow.fixed, FixedColumns.mk.injEq] at fixed
  obtain ⟨sameAttempt, -, -, -, sameRun, sameScope, -⟩ := fixed
  unfold requireFamilyRuntimeIngressIdentity AttemptRow.identity
  rw [sameAttempt, sameRun, sameScope]

theorem acceptsHumanGate_of_fixed {other : AttemptRow} (fixed : row.fixed = other.fixed)
    (call : AttemptCall) :
    AcceptsHumanGate row.identity call ↔ AcceptsHumanGate other.identity call := by
  cases call with
  | signal signal =>
    simp only [AcceptsHumanGate, requireFamilyRuntimeIngressIdentity_of_fixed fixed]
  | heartbeat _ | ingest _ _ | observe _ => exact Iff.rfl

/-! ## One call -/

theorem closedOut_iff : row.closedOut = true ↔
    row.status = .completed ∧ row.closeoutReceiptStatus ≠ none := by
  simp [AttemptRow.closedOut, Option.isSome_iff_ne_none]

/-- A signal that is let in writes the row; any other changes nothing. -/
theorem call_signal (texts : Texts) (ledger : Ledger) (signal : StageAttemptSignal) :
    ledger.call texts (.signal signal) =
      if requireFamilyRuntimeIngressIdentity ledger.row.identity signal.ingress = .ok () then
        { ledger with row := signaledRow ledger.row signal }
      else ledger := by
  unfold Ledger.call signalStageAttempt
  cases checked : requireFamilyRuntimeIngressIdentity ledger.row.identity signal.ingress with
  | ok passed => simp [checked, afterChecked]
  | error failure => simp [checked, afterChecked, Contract.fail]

theorem signaledRow_fixed (row : AttemptRow) (signal : StageAttemptSignal) :
    (signaledRow row signal).fixed = row.fixed := by
  unfold signaledRow
  split <;> rfl

theorem signaledRow_closedOut {signal : StageAttemptSignal} (closed : row.closedOut = true)
    (ungated : signal.kind.isHumanGate = false) : (signaledRow row signal).closedOut = true := by
  obtain ⟨done, received⟩ := closedOut_iff.1 closed
  rw [closedOut_iff]
  unfold signaledRow
  cases kind : signal.kind with
  | humanGate humanGateRef reason => simp [kind, SignalKind.isHumanGate] at ungated
  | resume => simp [done, resumable, received]
  | userInstruction => exact ⟨done, received⟩
  | ownerReceipt ownerReceiptRef => exact ⟨done, received⟩

theorem heartbeat_of_closedOut (closed : ledger.row.closedOut = true) (session : Option String) :
    afterChecked ledger (recordStageAttemptActivityHeartbeat ledger session) = ledger := by
  rcases heartbeat_cases ledger session with same | ⟨beats, -⟩
  · exact same
  · simp [beating, (closedOut_iff.1 closed).1] at beats

theorem afterIngest_fixed (texts : Texts) (ledger : Ledger) (packet : SentPacket)
    (costSummary : Option CostSummary) :
    (afterChecked ledger (ingestStageAttemptCloseout texts ledger packet costSummary)).row.fixed =
      ledger.row.fixed := by
  cases ingested : ingestStageAttemptCloseout texts ledger packet costSummary with
  | error failure => rfl
  | ok settled => exact (ingestStageAttemptCloseout_ok ingested).fixed

theorem afterIngest_closedOut {packet : SentPacket} {costSummary : Option CostSummary}
    (closed : ledger.row.closedOut = true) :
    (afterChecked ledger
      (ingestStageAttemptCloseout texts ledger packet costSummary)).row.closedOut = true := by
  cases ingested : ingestStageAttemptCloseout texts ledger packet costSummary with
  | error failure => exact closed
  | ok settled => exact (ingestStageAttemptCloseout_ok ingested).closedOut

/-- An observation completes a closed-out row again or leaves its status. -/
theorem syncStageAttempt_closedOut (closed : ledger.row.closedOut = true)
    (observation : TemporalObservation) :
    (syncStageAttemptFromTemporalTerminalObservation texts ledger
      observation).ledger.row.closedOut = true := by
  have case := syncStageAttempt_case texts ledger observation
  generalize syncStageAttemptFromTemporalTerminalObservation texts ledger observation = synced
    at case ⊢
  cases case with
  | stopped session usage thrown why => exact closed
  | settled session usage exit settled concerned chosen applied =>
    rcases terminalExit_of_closedOut closed chosen with ⟨packet, rfl⟩ | rfl | rfl
    · exact (ingestStageAttemptCloseout_ok applied).closedOut
    · simp only [applyExit, Except.ok.injEq] at applied
      rw [← applied]
      exact closed
    · simp only [applyExit, Except.ok.injEq] at applied
      rw [← applied]
      exact closed

theorem call_closedOut {texts : Texts} {ledger : Ledger} {call : AttemptCall}
    (closed : ledger.row.closedOut = true)
    (ungated : ¬ AcceptsHumanGate ledger.row.identity call) :
    (ledger.call texts call).row.closedOut = true ∧
      (ledger.call texts call).row.fixed = ledger.row.fixed := by
  cases call with
  | signal signal =>
    rw [call_signal]
    by_cases admitted :
        requireFamilyRuntimeIngressIdentity ledger.row.identity signal.ingress = .ok ()
    · rw [if_pos admitted]
      have kind : signal.kind.isHumanGate = false := by
        by_contra gate
        exact ungated ⟨by simpa using gate, admitted⟩
      exact ⟨signaledRow_closedOut closed kind, signaledRow_fixed ledger.row signal⟩
    · rw [if_neg admitted]
      exact ⟨closed, rfl⟩
  | heartbeat session =>
    simp only [Ledger.call, heartbeat_of_closedOut closed]
    exact ⟨closed, trivial⟩
  | ingest packet costSummary =>
    exact ⟨afterIngest_closedOut closed, afterIngest_fixed texts ledger packet costSummary⟩
  | observe observation =>
    exact ⟨syncStageAttempt_closedOut closed observation,
      syncStageAttempt_fixed texts ledger observation⟩

theorem call_humanGate {call : AttemptCall} (gated : AcceptsHumanGate ledger.row.identity call) :
    (ledger.call texts call).row.status = .humanGate := by
  cases call with
  | signal signal =>
    obtain ⟨gate, admitted⟩ := gated
    rw [call_signal, if_pos admitted]
    unfold signaledRow
    cases kind : signal.kind with
    | humanGate humanGateRef reason => rfl
    | resume | userInstruction | ownerReceipt _ => simp [kind, SignalKind.isHumanGate] at gate
  | heartbeat session => exact gated.elim
  | ingest packet costSummary => exact gated.elim
  | observe observation => exact gated.elim

/-! ## Whole runs -/

/-- A completed attempt with a closeout stays completed through a run exactly when the run
has no human gate that the attempt lets in. -/
theorem completed_stays_iff_no_human_gate (texts : Texts) (ledger : Ledger)
    (closed : ledger.row.closedOut = true) (calls : List AttemptCall) :
    (∀ before, before <+: calls → (ledger.run texts before).row.status = .completed) ↔
      ∀ call ∈ calls, ¬ AcceptsHumanGate ledger.row.identity call := by
  induction calls generalizing ledger with
  | nil =>
    simp only [List.prefix_nil, forall_eq, List.not_mem_nil, false_implies, implies_true, iff_true]
    exact (closedOut_iff.1 closed).1
  | cons call calls inductionHypothesis =>
    constructor
    · intro stays
      have ungated : ¬ AcceptsHumanGate ledger.row.identity call := by
        intro gated
        have after := stays [call] (by simp)
        rw [Ledger.run, List.foldl_cons, List.foldl_nil, call_humanGate gated] at after
        exact absurd after (by simp)
      obtain ⟨closedAfter, fixed⟩ := @call_closedOut texts _ _ closed ungated
      have rest := (inductionHypothesis _ closedAfter).1 fun before isPrefix =>
        stays (call :: before) (List.cons_prefix_cons.2 ⟨rfl, isPrefix⟩)
      intro other present
      rcases List.mem_cons.1 present with rfl | later
      · exact ungated
      · rw [← acceptsHumanGate_of_fixed fixed]
        exact rest other later
    · intro ungated before isPrefix
      cases before with
      | nil => exact (closedOut_iff.1 closed).1
      | cons first before =>
        obtain ⟨rfl, restPrefix⟩ := List.cons_prefix_cons.1 isPrefix
        obtain ⟨closedAfter, fixed⟩ := @call_closedOut texts _ _ closed
          (ungated first List.mem_cons_self)
        refine (inductionHypothesis _ closedAfter).2 ?_ before restPrefix
        intro other later
        rw [acceptsHumanGate_of_fixed fixed]
        exact ungated other (List.mem_cons_of_mem _ later)

/-! ## A gate on a completed attempt -/

/-- An attempt of the domain's default executor. -/
def executorRow (status : AttemptStatus) (closeoutRefs : List String)
    (closeoutReceiptStatus : Option CloseoutReceiptStatus) : AttemptRow where
  stageAttemptId := "sat_1"
  idempotencyKey := "idem_1"
  temporal := true
  workflowId := "wf_1"
  domainId := "redcube"
  stageId := "artifact_creation"
  workspaceLocator := [("workspace_root", .string "/tmp/redcube-runtime")]
  codexCli := false
  stageRunId := none
  scope := .domain
  attemptRole := none
  qualityRoundIndex := none
  qualityContext := []
  contextManifest := []
  executionSessionRef := none
  usageObservation := none
  status := status
  blockedReason := none
  closeoutRefs := closeoutRefs
  humanGateRefs := []
  providerRun := ⟨"registered", none, none⟩
  routeImpact := []
  closeoutReceiptStatus := closeoutReceiptStatus

/-- Texts that tell packets apart by their refs and by the reason of a failure. -/
def shortTexts : Texts where
  packetJson := fun packet => "|".intercalate
    (packet.closeoutRefs ++ (stringField? (packet.routeImpact.getD []) "provider_failure_reason").toList)
  canonicalJsonText := fun routeImpact => "|".intercalate (routeImpact.map Prod.fst)

def closedLedger : Ledger :=
  ⟨executorRow .completed ["receipt:domain-closeout"] (some .acceptedTypedCloseout), []⟩

def anonymousIngress : IngressIdentity := ⟨none, none, none, none, none⟩

def gateThenResume : List AttemptCall :=
  [.signal ⟨.humanGate none none, anonymousIngress, "sig_1"⟩,
    .signal ⟨.resume, anonymousIngress, "sig_2"⟩]

theorem completed_stays_closedLedger :
    closedLedger.row.closedOut = true ∧
    ((∀ before, before <+: [AttemptCall.heartbeat none] →
        (closedLedger.run shortTexts before).row.status = .completed) ↔
      ∀ call ∈ [AttemptCall.heartbeat none],
        ¬ AcceptsHumanGate closedLedger.row.identity call) :=
  ⟨by decide, completed_stays_iff_no_human_gate shortTexts closedLedger (by decide) _⟩

/-- A late gate takes a completed attempt back to a person, and its resumption queues it again. -/
theorem human_gate_reopens_completed :
    closedLedger.row.closedOut = true ∧
    (closedLedger.run shortTexts (gateThenResume.take 1)).row.status = .humanGate ∧
    (closedLedger.run shortTexts gateThenResume).row.status = .queued := by
  decide +kernel

end OnePersonLab.Attempt

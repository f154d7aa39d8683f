import OnePersonLab.Evolution.ActivationSafety
import OnePersonLab.Evolution.OwnerEvents

/-!
# Receipts are used once

An owner receipt authorizes one mutation: one owner event of one run, or one
rollback of one target. What ties a receipt to its mutation is its statement,
which its ref is a digest of: the run and the revision of the log, or the
target and the revision of the pointer.
-/

namespace OnePersonLab.Evolution.Kernel

open Contract Lib

variable {kernel : FoundryKernel} {platform : Platform} {world : World} {request : DesignRequest}
  {events log : List FoundryRunEvent} {ref : String} {receipt : OwnerAuthorityReceipt}

/-- A place where a receipt may be consumed. -/
inductive OwnerMutation where
  | ownerEvent (runId : String) (index : Nat)
  | rollback (target : String) (index : Nat)
  deriving DecidableEq

/-- The mutation consumed the receipt under a ref. -/
inductive Consumes (world : World) (ref : String) : OwnerMutation → Prop where
  | ownerEvent {runId : String} {log : List FoundryRunEvent} {index : Nat}
    {event : FoundryRunEvent} : world.events.runs runId = some log → log[index]? = some event →
    ownerDecisionEvent event = true →
    textField? event.payload "owner_authority_receipt_ref" = some ref →
    Consumes world ref (.ownerEvent runId index)
  | rollback {targetAgentId targetDomainId : String} {index : Nat} {entry : CommittedTransaction} :
    (world.registry.state targetAgentId targetDomainId).transactions[index]? = some entry →
    entry.transactionKind = .rollback → entry.authorityReceiptRef = some ref →
    Consumes world ref (.rollback (targetKey targetAgentId targetDomainId) index)

/-! ## The mutation of a receipt -/

/-- The mutation that a receipt states. -/
def StatesMutation (receipt : OwnerAuthorityReceipt) : OwnerMutation → Prop
  | .ownerEvent runId index => receipt.runId = some runId ∧ receipt.expectedRevision = index
  | .rollback target index => receipt.runId = none ∧ receipt.expectedRevision = index ∧
      targetKey receipt.targetAgentId receipt.targetDomainId = target

section

variable {mutation : OwnerMutation} {verification : OwnerGateVerification}

theorem StatesMutation.unique {other : OwnerMutation} (states : StatesMutation receipt mutation)
    (states' : StatesMutation receipt other) : mutation = other := by
  cases mutation with
  | ownerEvent runId index =>
    cases other with
    | ownerEvent runId' index' =>
      obtain ⟨run, revision⟩ := states
      obtain ⟨run', revision'⟩ := states'
      rw [← revision, ← revision', Option.some.inj (run.symm.trans run')]
    | rollback target' index' => cases states.1.symm.trans states'.1
  | rollback target index =>
    cases other with
    | ownerEvent runId' index' => cases states.1.symm.trans states'.1
    | rollback target' index' =>
      obtain ⟨-, revision, target⟩ := states
      obtain ⟨-, revision', target'⟩ := states'
      rw [← revision, ← revision', ← target, ← target']

/-- The owner gate handed the receipt out. -/
def Granted (platform : Platform) (world : World) (receipt : OwnerAuthorityReceipt) : Prop :=
  ∃ answer ∈ world.verifications,
    validateOwnerAuthorityReceipt platform answer.receipt = .ok receipt

/-- No two statements of receipts that the owner gate handed out share a digest. -/
def ReceiptsApart (platform : Platform) (world : World) : Prop :=
  ∀ receipt other, Granted platform world receipt → Granted platform world other →
    platform.digest receipt.toOwnerAuthorityReceiptStatement.toJson =
      platform.digest other.toOwnerAuthorityReceiptStatement.toJson →
    receipt.toOwnerAuthorityReceiptStatement.toJson = other.toOwnerAuthorityReceiptStatement.toJson

theorem Verifies.granted {value : OwnerGateVerificationContext}
    (verifies : Verifies platform world value verification) :
    Granted platform world verification.receipt := by
  obtain ⟨_, answer, given, -, checked⟩ := verifies
  exact ⟨answer, given, validateOwnerGateVerification_receipt checked⟩

/-- What the receipt of a verification is bound to. -/
theorem Verifies.bound {value : OwnerGateVerificationContext}
    (verifies : Verifies platform world value verification) :
    verification.receipt.runId = value.runId.map trim ∧
      verification.receipt.expectedRevision = value.expectedRevision ∧
      verification.receipt.targetAgentId = trim value.targetAgentId ∧
      verification.receipt.targetDomainId = trim value.targetDomainId := by
  obtain ⟨context, answer, -, contextChecked, checked⟩ := verifies
  obtain ⟨-, -, runId, -, revision, -⟩ := validateOwnerGateVerificationContext_eq_ok contextChecked
  obtain ⟨agent, domain⟩ := validateOwnerGateVerificationContext_target contextChecked
  obtain ⟨-, -, -, runId', -, revision', -⟩ := validateOwnerGateVerification_eq_ok checked
  obtain ⟨agent', domain'⟩ := validateOwnerGateVerification_target checked
  rw [runId', runId, revision', revision, agent', agent, domain', domain]
  simp [Function.comp_def]

theorem OwnerTransition.bound {inspection : FoundryRunInspection} {transition : TransitionInput}
    (given : OwnerTransition kernel world inspection verification transition) :
    verification.receipt.runId = some (trim inspection.run.runId) ∧
      verification.receipt.expectedRevision = inspection.run.revision := by
  cases given with
  | decided _ _ verifies => exact ⟨verifies.bound.1, verifies.bound.2.1⟩
  | cancelled verifies => exact ⟨verifies.bound.1, verifies.bound.2.1⟩

theorem OwnerTransition.granted {inspection : FoundryRunInspection} {transition : TransitionInput}
    (given : OwnerTransition kernel world inspection verification transition) :
    Granted kernel.platform world verification.receipt := by
  obtain ⟨value, verifies, -⟩ := given.receipt
  exact verifies.granted

/-- An event that consumes a receipt carries one that states it. -/
theorem KernelLog.consumed (written : KernelLog kernel world request log) {runId : String}
    (named : ∀ event ∈ log, event.runId = runId) {index : Nat} {event : FoundryRunEvent}
    (found : log[index]? = some event) (owner : ownerDecisionEvent event = true)
    (consumed : textField? event.payload "owner_authority_receipt_ref" = some ref) :
    ∃ receipt, Granted kernel.platform world receipt ∧ receipt.Canonical kernel.platform ∧
      receipt.receiptRef = ref ∧ StatesMutation receipt (.ownerEvent runId index) := by
  have inside := (List.getElem?_eq_some_iff.1 found).1
  have own := named event (List.mem_of_getElem? found)
  obtain ⟨inspection, verification, transition, occurredAt, earlier, snapshot, -, given, rfl⟩ :=
    written.owner_event_at found owner
  obtain ⟨value, verifies, payload, -⟩ := given.receipt
  obtain ⟨runBound, revision⟩ := given.bound
  -- the place of the event is the revision that the owner was asked at
  have place : inspection.run.revision = index := by
    rw [snapshot.revision_eq earlier.verified, List.length_take]
    omega
  refine ⟨verification.receipt, given.granted, verifies.receipt.1, ?_, ?_, ?_⟩
  · rw [transitionEvent_payload, payload] at consumed
    simpa [textField?, ownerVerificationPayload, field?_cons, Json.asString?] using consumed
  · rw [runBound, (earlier.identity snapshot).named, ← own, transitionEvent_runId]
  · rw [revision, place]

theorem RollbackAuthorized.consumed {entry : CommittedTransaction}
    (authorized : RollbackAuthorized platform world entry.input)
    (consumed : entry.authorityReceiptRef = some ref) :
    ∃ receipt, Granted platform world receipt ∧ receipt.Canonical platform ∧
      receipt.receiptRef = ref ∧ StatesMutation receipt
        (.rollback (targetKey entry.targetAgentId entry.targetDomainId) entry.previousRevision) := by
  obtain ⟨authorityReceiptRef, verification, verifies, given⟩ := authorized.verified
  obtain ⟨runId, revision, agent, domain⟩ := verifies.bound
  refine ⟨verification.receipt, verifies.granted, verifies.receipt.1,
    Option.some.inj (given.symm.trans consumed), runId, revision, ?_⟩
  rw [agent, domain]
  exact congrArg₂ targetKey authorized.targetAgentId authorized.targetDomainId

theorem Consumes.granted (invariant : KernelInvariant kernel world)
    (consumes : Consumes world ref mutation) :
    ∃ receipt, Granted kernel.platform world receipt ∧ receipt.Canonical kernel.platform ∧
      receipt.receiptRef = ref ∧ StatesMutation receipt mutation := by
  cases consumes with
  | @ownerEvent runId log _ _ recorded found owner consumed =>
    obtain ⟨named, request, written⟩ := invariant.logs runId log recorded
    exact written.consumed named found owner consumed
  | @rollback targetAgentId targetDomainId index entry found kind consumed =>
    have listed := List.mem_of_getElem? found
    have sound := invariant.registries targetAgentId targetDomainId
    have authorized := (invariant.transactions _ _ entry listed).rollback kind
    obtain ⟨receipt, granted, canonical, named, states⟩ := authorized.consumed consumed
    rw [sound.keyed entry listed, sound.toCoherent.previousRevision_of_getElem? found] at states
    exact ⟨receipt, granted, canonical, named, states⟩

/-! ## One receipt, one mutation -/

/-- Receipts under one ref are one receipt. -/
theorem ReceiptsApart.statement {other : OwnerAuthorityReceipt} (apart : ReceiptsApart platform world)
    (granted : Granted platform world receipt) (granted' : Granted platform world other)
    (canonical : receipt.Canonical platform) (canonical' : other.Canonical platform)
    (same : receipt.receiptRef = other.receiptRef) :
    receipt.toOwnerAuthorityReceiptStatement = other.toOwnerAuthorityReceiptStatement := by
  have spelled : "opl://foundry/owner-authority-receipts/" ++ receipt.receiptDigest =
      "opl://foundry/owner-authority-receipts/" ++ other.receiptDigest :=
    canonical.ref.symm.trans (same.trans canonical'.ref)
  have digests : receipt.receiptDigest = other.receiptDigest := by simpa using spelled
  refine OwnerAuthorityReceiptStatement.toJson_injective (apart _ _ granted granted' ?_)
  rw [← canonical.digest, ← canonical'.digest, digests]

theorem Consumes.unique (invariant : KernelInvariant kernel world)
    (apart : ReceiptsApart kernel.platform world) {other : OwnerMutation}
    (consumes : Consumes world ref mutation) (consumes' : Consumes world ref other) :
    mutation = other := by
  obtain ⟨receipt, granted, canonical, named, states⟩ := consumes.granted invariant
  obtain ⟨receipt', granted', canonical', named', states'⟩ := consumes'.granted invariant
  have same := apart.statement granted granted' canonical canonical' (named.trans named'.symm)
  refine states.unique (?_ : StatesMutation receipt other)
  cases other <;> simpa only [StatesMutation, same] using states'

end

/-! ## The activation that a receipt is named by -/

/-- The owner approved the activation of the version with the receipt under a ref. -/
def ActivationApproval (versionDigest ref : String) (event : FoundryRunEvent)
    (before : FoundryRunSnapshot) : Prop :=
  event.eventType = "owner_approved" ∧
    textField? event.payload "owner_gate_action" = some "approve_active" ∧
    textField? event.payload "owner_authority_receipt_ref" = some ref ∧
    before.versionDigest = some versionDigest

/-- The log of a run records the approval. -/
def ActivationApproved (world : World) (runId versionDigest ref : String) : Prop :=
  ∃ log index, world.events.runs runId = some log ∧
    EventAt log index (ActivationApproval versionDigest ref)

section Approval

variable {inspection : FoundryRunInspection} {transition : TransitionInput} {occurredAt : String}
  {run : FoundryRunSnapshot} {versionDigest : String}

variable {verification : OwnerGateVerification}

/-- A run comes under activation at a low risk or by the approval of its owner. -/
theorem Justified.to_activating (justified : Justified kernel world inspection transition)
    (enters : transition.toState = .activating) :
    inspection.run.riskTier = some .low ∧ Unrelated transition.payload ∨
      ∃ verification authorityReceiptRef versionDigest,
        transition = Kernel.ownerDecided false .approve verification ∧
        inspection.run.versionDigest = some versionDigest ∧
        Verifies kernel.platform world
          (decisionContext inspection false .approve authorityReceiptRef versionDigest)
          verification := by
  cases justified with
  | @canaryPassed _ journaled _ _ _ _ =>
    refine .inl ⟨?_, by
      simpa [Kernel.canaryPassed] using unrelated_evidencePayload journaled [] (by simp [Unrelated])⟩
    cases tier : inspection.run.riskTier with
    | none => simp [Kernel.canaryPassed, tier, ownerGatePolicyOf] at enters
    | some tier' =>
      cases tier' <;> simp [Kernel.canaryPassed, tier, ownerGatePolicyOf, ownerGatePolicy] at enters ⊢
  | @ownerDecided canary decision _ _ verification _ current verifies =>
    cases decision with
    | reject => simp [Kernel.ownerDecided] at enters
    | approve =>
      cases canary with
      | true => simp [Kernel.ownerDecided] at enters
      | false => exact .inr ⟨verification, _, _, rfl, current, verifies⟩
  | blueprintAdmitted _ _ _ _ _ admitted =>
    rw [(blueprintAdmitted_eq_ok admitted).2.1] at enters
    cases enters
  | evaluationRejected =>
    unfold Kernel.evaluationRejected at enters
    dsimp only at enters
    split at enters <;> cases enters
  | qualificationRouted =>
    unfold Kernel.qualificationRouted at enters
    split at enters
    · cases enters
    · split at enters <;> cases enters
  | _ => cases enters

/-- An approval under a verification is the last approval of the log up to it,
and its authority is the receipt. -/
theorem Verifies.latestAuthority {value : OwnerGateVerificationContext}
    (verifies : Verifies platform world value verification) (canary : Bool) :
    latestOwnerAuthority (events ++ [transitionEvent kernel inspection
      (ownerDecided canary .approve verification) occurredAt]) =
      .ok (some ⟨verification.receipt.receiptRef, verification.receipt.receiptDigest⟩) := by
  obtain ⟨canonical, -⟩ := verifies.receipt
  obtain ⟨trimmed, solid⟩ := canonical.trim_ref
  have expected : ownerAuthorityReceiptRef verification.receipt.receiptDigest =
      .ok verification.receipt.receiptRef :=
    ownerAuthorityReceiptRef_eq_ok.2 ⟨canonical.wellFormed, canonical.ref.symm⟩
  have last : approvalEvent (transitionEvent kernel inspection
      (ownerDecided canary .approve verification) occurredAt) = true := by
    simp [approvalEvent, ownerDecided, OwnerVerdict.eventType, ownerVerificationPayload, textField?,
      field?_cons, Json.asString?]
  rw [latestOwnerAuthority_eq, lastApproval_append, if_pos last]
  simp [ownerAuthorityOf, ownerDecided, ownerVerificationPayload, field?_cons,
    requiredDigest_of_wellFormed canonical.wellFormed, requiredRef_of_trim trimmed solid, expected]

theorem activationApproval_ownerDecided {authorityReceiptRef : String}
    (verifies : Verifies kernel.platform world
      (decisionContext inspection false .approve authorityReceiptRef versionDigest) verification)
    (current : inspection.run.versionDigest = some versionDigest) :
    ActivationApproval versionDigest verification.receipt.receiptRef
      (transitionEvent kernel inspection (ownerDecided false .approve verification) occurredAt)
      inspection.run := by
  have action : verification.receipt.action = .approveActive := verifies.receipt.2.1
  refine ⟨rfl, ?_, ?_, current⟩ <;>
    simp [textField?, ownerDecided, ownerVerificationPayload, field?_cons, Json.asString?, action,
      OwnerGateAction.text]

/-- The run as its approval leaves it. -/
structure UnderApproval (events : List FoundryRunEvent) (run : FoundryRunSnapshot)
    (versionDigest ref : String) : Prop where
  snapshot : IsSnapshot events run
  state : run.state = .activating
  version : run.versionDigest = some versionDigest
  authority : ∃ digest, latestOwnerAuthority events = .ok (some ⟨ref, digest⟩)

theorem underApproval_ownerDecided {authorityReceiptRef : String}
    (snapshot : IsSnapshot events inspection.run)
    (verifies : Verifies kernel.platform world
      (decisionContext inspection false .approve authorityReceiptRef versionDigest) verification)
    (current : inspection.run.versionDigest = some versionDigest) :
    UnderApproval (events ++ [transitionEvent kernel inspection
        (ownerDecided false .approve verification) occurredAt])
      (inspection.run.after (transitionEvent kernel inspection
        (ownerDecided false .approve verification) occurredAt))
      versionDigest verification.receipt.receiptRef where
  snapshot := snapshot.append _
  state := rfl
  version := by
    have unrelated : Unrelated (ownerDecided false .approve verification).payload :=
      unrelated_ownerVerificationPayload verification
    exact (steady_of_unrelated unrelated).versionDigest.trans current
  authority := ⟨_, verifies.latestAuthority false⟩

/-- A run whose owner approves its activation is under activation then. -/
theorem KernelLog.underApproval (written : KernelLog kernel world request log) {index : Nat}
    (approved : EventAt log index (ActivationApproval versionDigest ref)) :
    ∃ run, UnderApproval (log.take (index + 1)) run versionDigest ref := by
  obtain ⟨event, before, found, snapshot, typed, action, named, version⟩ := approved
  obtain ⟨inspection, verification, transition, occurredAt, -, snapshot', -, given, rfl⟩ :=
    written.owner_event_at found (by simp [ownerDecisionEvent, typed])
  obtain rfl := snapshot.unique snapshot'
  obtain ⟨inside, same⟩ := List.getElem?_eq_some_iff.1 found
  rw [List.take_succ_eq_append_getElem inside, same]
  cases given with
  | @decided canary decision _ versionDigest' state current verifies =>
    obtain rfl := Option.some.inj (current.symm.trans version)
    have asked : verification.receipt.action = ownerDecisionAction canary decision :=
      verifies.receipt.2.1
    cases decision with
    | reject => simp [ownerDecided, OwnerVerdict.eventType] at typed
    | approve =>
      cases canary with
      | true =>
        simp [textField?, ownerDecided, ownerVerificationPayload, field?_cons, Json.asString?, asked,
          ownerDecisionAction, OwnerGateAction.text] at action
      | false =>
        obtain rfl : verification.receipt.receiptRef = ref := by
          simpa [textField?, ownerDecided, ownerVerificationPayload, field?_cons,
            Json.asString?] using named
        exact ⟨_, underApproval_ownerDecided snapshot verifies current⟩
  | cancelled _ => simp [runCancelled] at typed

/-- A run comes under activation without any approval, or under one. -/
theorem KernelLog.activating_cases (written : KernelLog kernel world request events)
    (snapshot : IsSnapshot events run) (activating : run.state = .activating) :
    latestOwnerAuthority events = .ok none ∨ ∃ index versionDigest ref,
      EventAt events index (ActivationApproval versionDigest ref) ∧
        UnderApproval events run versionDigest ref := by
  have approvals := (written.route snapshot).approvals
  cases written with
  | accepted _ _ =>
    obtain ⟨last, ends, -, state, -⟩ := snapshot.last
    rw [List.getLast?_singleton, Option.some.injEq] at ends
    rw [state, ← ends] at activating
    cases activating
  | appended earlier snapshot' same justified follows =>
    obtain rfl := snapshot.unique (snapshot'.append _)
    rcases justified.to_activating activating with ⟨low, unrelated⟩ | ⟨verification,
      authorityReceiptRef, versionDigest, rfl, current, verifies⟩
    · refine .inl ?_
      have unapproved := approvals.resolve_right fun ⟨tier, graded, raised⟩ => raised
        (Option.some.inj (graded.symm.trans ((steady_of_unrelated unrelated).riskTier.trans low)))
      rw [latestOwnerAuthority_eq, unapproved]
    · exact .inr ⟨_, versionDigest, _,
        eventAt_last snapshot' (activationApproval_ownerDecided verifies current),
        underApproval_ownerDecided snapshot' verifies current⟩

end Approval

section Activating

variable {runId versionDigest : String} {input other : ActivationInput}

/-- The receipt that an activation names approved it. -/
theorem Activating.approved (invariant : KernelInvariant kernel world)
    (activating : Activating world runId input) (names : input.authorityReceiptRef = some ref) :
    ActivationApproved world runId input.versionDigest ref := by
  obtain ⟨log, later, events, run, recorded, within, earlier, snapshot, state, version, -, -, -,
    authority, read, receipt⟩ := activating.log
  obtain ⟨-, request, written⟩ := invariant.logs runId log recorded
  have known : KernelLog kernel world request events :=
    written.of_prefix (earlier.trans within) snapshot.ne_nil
  have settled := lastApproval_settled
    (written.verified.of_prefix within (earlier.ne_nil snapshot.ne_nil)) earlier snapshot state
  rw [latestOwnerAuthority_eq, settled, ← latestOwnerAuthority_eq] at read
  rcases known.activating_cases snapshot state with none_ | ⟨index, versionDigest, ref', approved,
    under⟩
  · obtain rfl := Except.ok.inj (none_.symm.trans read)
    cases receipt.symm.trans names
  · obtain ⟨digest, last⟩ := under.authority
    obtain rfl := Except.ok.inj (last.symm.trans read)
    obtain rfl : ref' = ref := Option.some.inj (receipt.symm.trans names)
    obtain rfl : versionDigest = input.versionDigest :=
      Option.some.inj (under.version.symm.trans version)
    obtain ⟨rest, rfl⟩ := earlier.trans within
    exact ⟨_, index, recorded, approved.append rest⟩

/-- An activation names the receipt that it was approved with. -/
theorem Activating.names (invariant : KernelInvariant kernel world)
    (activating : Activating world runId input)
    (approved : ActivationApproved world runId versionDigest ref) :
    input.versionDigest = versionDigest ∧ input.authorityReceiptRef = some ref := by
  obtain ⟨log, later, events, run, recorded, within, earlier, snapshot, state, version, -, -, -,
    authority, read, receipt⟩ := activating.log
  obtain ⟨log', index, recorded', there⟩ := approved
  obtain rfl := Option.some.inj (recorded'.symm.trans recorded)
  obtain ⟨-, request, written⟩ := invariant.logs runId _ recorded
  have settled := lastApproval_settled
    (written.verified.of_prefix within (earlier.ne_nil snapshot.ne_nil)) earlier snapshot state
  obtain ⟨run', under⟩ := written.underApproval there
  obtain rfl := snapshot.eq_of_activating written.verified under.snapshot (earlier.trans within)
    (List.take_prefix _ _) state under.state
  obtain rfl := snapshot.unique under.snapshot
  obtain ⟨digest, last⟩ := under.authority
  rw [latestOwnerAuthority_eq, settled, ← latestOwnerAuthority_eq, last, Except.ok.injEq] at read
  subst read
  exact ⟨Option.some.inj (version.symm.trans under.version), receipt⟩

/-- A run swaps the pointer of one target at one revision. -/
theorem Activating.unique (activating : Activating world runId input)
    (activating' : Activating world runId other) :
    targetKey input.targetAgentId input.targetDomainId =
        targetKey other.targetAgentId other.targetDomainId ∧
      input.expectedRevision = other.expectedRevision := by
  obtain ⟨log, later, events, run, recorded, within, earlier, snapshot, -, -, agent, domain,
    revision, -⟩ := activating.log
  obtain ⟨log', later', events', run', recorded', within', earlier', snapshot', -, -, agent', domain',
    revision', -⟩ := activating'.log
  obtain rfl := Option.some.inj (recorded.symm.trans recorded')
  obtain ⟨sameAgent, sameDomain, sameRevision⟩ := snapshot.sameStart snapshot'
    (earlier.trans within) (earlier'.trans within')
  rw [← agent, ← agent', ← domain, ← domain', ← revision, ← revision', sameAgent, sameDomain,
    sameRevision]
  exact ⟨rfl, rfl⟩

end Activating

/-- Transactions of one target at one revision are one transaction. -/
theorem KernelInvariant.transaction_unique (invariant : KernelInvariant kernel world)
    {targetAgentId targetDomainId targetAgentId' targetDomainId' : String}
    {entry other : CommittedTransaction}
    (listed : entry ∈ (world.registry.state targetAgentId targetDomainId).transactions)
    (listed' : other ∈ (world.registry.state targetAgentId' targetDomainId').transactions)
    (target : targetKey targetAgentId targetDomainId = targetKey targetAgentId' targetDomainId')
    (revision : entry.previousRevision = other.previousRevision) : entry = other := by
  have same : (world.registry.state targetAgentId' targetDomainId').transactions =
      (world.registry.state targetAgentId targetDomainId).transactions := by
    simp only [Registry.state, ← target]
    cases world.registry (targetKey targetAgentId targetDomainId) <;> rfl
  rw [same] at listed'
  exact (invariant.registries _ _).toCoherent.unique listed listed' revision

/-! ## Receipts are used once -/

structure ReceiptsUsedOnce (world : World) : Prop where
  /-- A receipt is consumed by one mutation at most. -/
  once : ∀ ref mutation other, Consumes world ref mutation → Consumes world ref other →
    mutation = other
  /-- A receipt that an activation names approved that activation of its own run. -/
  approved : ∀ targetAgentId targetDomainId,
    ∀ entry ∈ (world.registry.state targetAgentId targetDomainId).transactions,
    ∀ ref, entry.transactionKind = .activate → entry.authorityReceiptRef = some ref →
      ∃ runId, entry.madeBy = some runId ∧
        ActivationApproved world runId entry.toVersionDigest ref
  /-- A run whose activation was approved names that receipt and activates that version. -/
  named : ∀ runId versionDigest ref, ActivationApproved world runId versionDigest ref →
    ∀ targetAgentId targetDomainId,
    ∀ entry ∈ (world.registry.state targetAgentId targetDomainId).transactions,
      entry.transactionKind = .activate → entry.madeBy = some runId →
        entry.toVersionDigest = versionDigest ∧ entry.authorityReceiptRef = some ref
  /-- A receipt is named by one transaction at most, over all targets. -/
  single : ∀ targetAgentId targetDomainId targetAgentId' targetDomainId',
    ∀ entry ∈ (world.registry.state targetAgentId targetDomainId).transactions,
    ∀ other ∈ (world.registry.state targetAgentId' targetDomainId').transactions,
    ∀ ref, entry.authorityReceiptRef = some ref → other.authorityReceiptRef = some ref →
      targetKey targetAgentId targetDomainId = targetKey targetAgentId' targetDomainId' ∧
        entry = other

theorem KernelInvariant.approved (invariant : KernelInvariant kernel world)
    {targetAgentId targetDomainId : String} {entry : CommittedTransaction}
    (listed : entry ∈ (world.registry.state targetAgentId targetDomainId).transactions)
    (kind : entry.transactionKind = .activate) (names : entry.authorityReceiptRef = some ref) :
    ∃ runId, entry.madeBy = some runId ∧
      ActivationApproved world runId entry.toVersionDigest ref := by
  obtain ⟨runId, made, activating⟩ := (invariant.transactions _ _ entry listed).activate kind
  exact ⟨runId, made, activating.approved invariant names⟩

/-- An approval of an activation consumes its receipt. -/
theorem ActivationApproved.consumes {runId versionDigest : String}
    (approved : ActivationApproved world runId versionDigest ref) :
    ∃ index, Consumes world ref (.ownerEvent runId index) := by
  obtain ⟨log, index, recorded, event, before, found, -, typed, -, named, -⟩ := approved
  exact ⟨index, .ownerEvent recorded found (by simp [ownerDecisionEvent, typed]) named⟩

/-- A transaction that names a receipt consumes it, or was approved with it. -/
theorem KernelInvariant.consumer (invariant : KernelInvariant kernel world)
    {targetAgentId targetDomainId : String} {entry : CommittedTransaction}
    (listed : entry ∈ (world.registry.state targetAgentId targetDomainId).transactions)
    (names : entry.authorityReceiptRef = some ref) :
    Consumes world ref
        (.rollback (targetKey targetAgentId targetDomainId) entry.previousRevision) ∨
      ∃ runId index, Consumes world ref (.ownerEvent runId index) ∧
        Activating world runId entry.input := by
  cases kind : entry.transactionKind with
  | rollback =>
    have found := (invariant.registries _ _).toCoherent.getElem?_previousRevision listed
    exact .inl (.rollback found kind names)
  | activate =>
    obtain ⟨runId, -, activating⟩ := (invariant.transactions _ _ entry listed).activate kind
    obtain ⟨index, consumes⟩ := (activating.approved invariant names).consumes
    exact .inr ⟨runId, index, consumes, activating⟩

theorem KernelInvariant.receiptsUsedOnce (invariant : KernelInvariant kernel world)
    (apart : ReceiptsApart kernel.platform world) : ReceiptsUsedOnce world where
  once _ _ _ consumes consumes' := consumes.unique invariant apart consumes'
  approved _ _ _ listed _ kind names := invariant.approved listed kind names
  named := by
    intro runId versionDigest ref approved targetAgentId targetDomainId entry listed kind made
    obtain ⟨runId', made', activating⟩ := (invariant.transactions _ _ entry listed).activate kind
    obtain rfl := Option.some.inj (made.symm.trans made')
    exact activating.names invariant approved
  single := by
    intro targetAgentId targetDomainId targetAgentId' targetDomainId' entry listed other listed' ref
      names names'
    have keyed := (invariant.registries targetAgentId targetDomainId).keyed entry listed
    have keyed' := (invariant.registries targetAgentId' targetDomainId').keyed other listed'
    have same : targetKey targetAgentId targetDomainId =
        targetKey targetAgentId' targetDomainId' ∧
          entry.previousRevision = other.previousRevision := by
      rcases invariant.consumer listed names with consumes | ⟨runId, _, consumes, activating⟩ <;>
        rcases invariant.consumer listed' names' with
          consumes' | ⟨runId', _, consumes', activating'⟩ <;>
        have place := consumes.unique invariant apart consumes'
      · exact OwnerMutation.rollback.inj place
      · cases place
      · cases place
      · obtain ⟨rfl, -⟩ := OwnerMutation.ownerEvent.inj place
        obtain ⟨target, revision⟩ := activating.unique activating'
        exact ⟨keyed.symm.trans (target.trans keyed'), revision⟩
    exact ⟨same.1, invariant.transaction_unique listed listed' same.1 same.2⟩

end OnePersonLab.Evolution.Kernel

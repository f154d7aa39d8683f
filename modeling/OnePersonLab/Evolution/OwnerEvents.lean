import OnePersonLab.Evolution.RunRoute

/-!
# The owner's events in a log

A log of the kernel holds three kinds of owner events: approvals, rejections
and cancellations. Each carries a verification that the owner gate gave for
the run at that revision, and reads back as what it records.
-/

namespace OnePersonLab.Evolution.Kernel

open Contract Lib

variable {kernel : FoundryKernel} {world : World} {request : DesignRequest}
  {events : List FoundryRunEvent} {run : FoundryRunSnapshot} {inspection : FoundryRunInspection}
  {transition : TransitionInput} {occurredAt : String}

/-- A transition that an owner asked for, with the mutation it was verified for. -/
inductive OwnerTransition (kernel : FoundryKernel) (world : World)
    (inspection : FoundryRunInspection) (verification : OwnerGateVerification) :
    TransitionInput → Prop where
  | decided {canary : Bool} {decision : OwnerVerdict} {authorityReceiptRef versionDigest : String} :
    inspection.run.state = (if canary then .awaitingOwnerCanary else .awaitingOwnerActive) →
    inspection.run.versionDigest = some versionDigest →
    Verifies kernel.platform world
      (decisionContext inspection canary decision authorityReceiptRef versionDigest) verification →
    OwnerTransition kernel world inspection verification
      (ownerDecided canary decision verification)
  | cancelled {authorityReceiptRef : String} :
    Verifies kernel.platform world (cancelContext inspection authorityReceiptRef) verification →
    OwnerTransition kernel world inspection verification (runCancelled verification)

theorem Justified.owner_cases (justified : Justified kernel world inspection transition) :
    (∃ verification, OwnerTransition kernel world inspection verification transition) ∨
      ["owner_approved", "owner_rejected", "foundry_run_cancelled"].contains
        transition.eventType = false := by
  cases justified with
  | ownerDecided state current verifies => exact .inl ⟨_, .decided state current verifies⟩
  | runCancelled verifies => exact .inl ⟨_, .cancelled verifies⟩
  | blueprintAdmitted _ _ _ _ _ admitted =>
    rw [(blueprintAdmitted_eq_ok admitted).1]
    exact .inr rfl
  | evaluationRejected =>
    unfold Kernel.evaluationRejected
    split
    · exact .inr rfl
    · dsimp only
      split <;> exact .inr rfl
  | qualificationRouted =>
    unfold Kernel.qualificationRouted
    split
    · exact .inr rfl
    · split <;> exact .inr rfl
  | _ => exact .inr rfl

/-- What an owner event of a log is. -/
theorem KernelLog.owner_event (log : KernelLog kernel world request events)
    {event : FoundryRunEvent} (listed : event ∈ events) (owner : ownerDecisionEvent event = true) :
    ∃ earlier inspection verification transition occurredAt, earlier ++ [event] <+: events ∧
      KernelLog kernel world request earlier ∧ IsSnapshot earlier inspection.run ∧
      inspection.request = request ∧
      OwnerTransition kernel world inspection verification transition ∧
      event = transitionEvent kernel inspection transition occurredAt := by
  rcases log.event_cases listed with accepted | ⟨earlier, inspection, transition, occurredAt,
    within, written, snapshot, same, justified, rfl⟩
  · simp [ownerDecisionEvent, accepted] at owner
  · rcases justified.owner_cases with ⟨verification, given⟩ | other
    · exact ⟨earlier, inspection, verification, transition, occurredAt, within, written, snapshot,
        same, given, rfl⟩
    · rw [ownerDecisionEvent, transitionEvent_eventType, other] at owner
      cases owner

/-- The same, at the index of the event. -/
theorem KernelLog.owner_event_at (log : KernelLog kernel world request events) {index : Nat}
    {event : FoundryRunEvent} (found : events[index]? = some event)
    (owner : ownerDecisionEvent event = true) :
    ∃ inspection verification transition occurredAt,
      KernelLog kernel world request (events.take index) ∧
      IsSnapshot (events.take index) inspection.run ∧ inspection.request = request ∧
      OwnerTransition kernel world inspection verification transition ∧
      event = transitionEvent kernel inspection transition occurredAt := by
  rcases log.event_at found with ⟨-, accepted⟩ | ⟨inspection, transition, occurredAt, written, snapshot,
    same, justified, rfl⟩
  · simp [ownerDecisionEvent, accepted] at owner
  · rcases justified.owner_cases with ⟨verification, given⟩ | other
    · exact ⟨inspection, verification, transition, occurredAt, written, snapshot, same, given, rfl⟩
    · rw [ownerDecisionEvent, transitionEvent_eventType, other] at owner
      cases owner

/-! ## Reading an owner event back -/

variable {verification : OwnerGateVerification}

theorem requiredRef_of_trim {text field : String} (trimmed : trim text = text)
    (solid : text ≠ "") : requiredRef (some (.string text)) field = .ok text := by
  simp [requiredRef, Json.asString?, trimmed, solid]

theorem requiredDigest_of_wellFormed {text field : String} (wellFormed : isSha256Digest text = true) :
    Kernel.requiredDigest (some (.string text)) field = .ok text := by
  have solid : text ≠ "" := by
    rintro rfl
    revert wellFormed
    decide
  simp [Kernel.requiredDigest, requiredRef_of_trim (trim_of_isSha256Digest wellFormed) solid,
    wellFormed]

theorem OwnerTransition.receipt
    (given : OwnerTransition kernel world inspection verification transition) :
    ∃ value, Verifies kernel.platform world value verification ∧
      transition.payload = ownerVerificationPayload verification ∧
      validDecision transition.eventType value.action.text value.decision.text = true := by
  cases given with
  | @decided canary decision _ _ _ _ verifies =>
    exact ⟨_, verifies, rfl, by cases canary <;> cases decision <;> rfl⟩
  | cancelled verifies => exact ⟨_, verifies, rfl, rfl⟩

/-- What a verification says of its receipt and its names. -/
theorem Verifies.receipt {platform : Platform} {value : OwnerGateVerificationContext}
    (verifies : Verifies platform world value verification) :
    verification.receipt.Canonical platform ∧ verification.receipt.action = value.action ∧
      verification.receipt.decision = value.decision := by
  obtain ⟨context, answer, -, contextChecked, checked⟩ := verifies
  obtain ⟨action, decision, -⟩ := validateOwnerGateVerificationContext_eq_ok contextChecked
  obtain ⟨canonical, action', decision', -⟩ := validateOwnerGateVerification_eq_ok checked
  exact ⟨canonical, action'.trans action, decision'.trans decision⟩

theorem Verifies.named {platform : Platform} {value : OwnerGateVerificationContext}
    (verifies : Verifies platform world value verification) :
    ∀ name ∈ [verification.coveredAuthorityRef, verification.verifierId,
      verification.verificationRef, verification.authorityPolicyRef],
      trim name = name ∧ name ≠ "" := by
  obtain ⟨_, _, -, -, checked⟩ := verifies
  exact validateOwnerGateVerification_named checked

/-- The readback of an owner event names its receipt and its action. -/
theorem OwnerTransition.readback
    (given : OwnerTransition kernel world inspection verification transition) (occurredAt : String)
    :
    ∃ readback, ownerDecisionReadback (transitionEvent kernel inspection transition occurredAt) =
        .ok readback ∧ readback.receiptRef = verification.receipt.receiptRef ∧
      readback.action = verification.receipt.action.text := by
  obtain ⟨value, verifies, payload, valid⟩ := given.receipt
  obtain ⟨canonical, action, decision⟩ := verifies.receipt
  obtain ⟨trimmed, solid⟩ := canonical.trim_ref
  have names := verifies.named
  simp only [List.forall_mem_cons, List.not_mem_nil, false_implies, implies_true, and_true]
    at names
  obtain ⟨⟨authority, authoritySolid⟩, ⟨verifier, verifierSolid⟩, ⟨verified, verifiedSolid⟩, policy,
    policySolid⟩ := names
  rw [← action, ← decision] at valid
  have actionRead : requiredRef (some (.string verification.receipt.action.text))
      "owner_gate_action" = .ok verification.receipt.action.text :=
    requiredRef_of_trim (by cases verification.receipt.action <;> decide)
      (by cases verification.receipt.action <;> decide)
  have decisionRead : requiredRef (some (.string verification.receipt.decision.text))
      "owner_gate_decision" = .ok verification.receipt.decision.text :=
    requiredRef_of_trim (by cases verification.receipt.decision <;> decide)
      (by cases verification.receipt.decision <;> decide)
  have expected : ownerAuthorityReceiptRef verification.receipt.receiptDigest =
      .ok verification.receipt.receiptRef :=
    ownerAuthorityReceiptRef_eq_ok.2 ⟨canonical.wellFormed, canonical.ref.symm⟩
  refine ⟨{
    eventId := s!"{inspection.run.runId}:{inspection.run.revision + 1}"
    eventRevision := inspection.run.revision + 1
    expectedRevision := inspection.run.revision
    action := verification.receipt.action.text
    decision := verification.receipt.decision.text
    receiptRef := verification.receipt.receiptRef
    receiptDigest := verification.receipt.receiptDigest
    authorityRef := verification.coveredAuthorityRef
    verifierId := verification.verifierId
    verificationRef := verification.verificationRef
    authorityPolicyRef := verification.authorityPolicyRef }, ?_, rfl, rfl⟩
  simp [ownerDecisionReadback, payload, ownerVerificationPayload, field?_cons, actionRead,
    decisionRead, valid, requiredDigest_of_wellFormed canonical.wellFormed,
    requiredRef_of_trim trimmed solid, requiredRef_of_trim authority authoritySolid,
    requiredRef_of_trim verifier verifierSolid, requiredRef_of_trim verified verifiedSolid,
    requiredRef_of_trim policy policySolid, expected]
  rfl

end OnePersonLab.Evolution.Kernel

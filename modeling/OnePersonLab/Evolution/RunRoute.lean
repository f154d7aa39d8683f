import OnePersonLab.Evolution.KernelLog
import OnePersonLab.Evolution.RiskClassification

/-!
# The route of a run

Where a run stands tells which events its log contains: `Route` gives for each
state from `qualified` to `activating` the qualification, the owner approvals
and the canary that lie behind it, in their order and for the version and the
generation the run is at. One appended event takes one route to the next.
-/

namespace OnePersonLab.Evolution.Kernel

open Contract Lib

variable {kernel : FoundryKernel} {world : World} {request : DesignRequest}
  {events : List FoundryRunEvent} {run : FoundryRunSnapshot} {inspection : FoundryRunInspection}
  {transition : TransitionInput} {occurredAt : String}

/-! ## The snapshot after a transition -/

section After

variable (inspection transition occurredAt)

@[simp] theorem after_state :
    (inspection.run.after (transitionEvent kernel inspection transition occurredAt)).state =
      transition.toState := rfl

@[simp] theorem after_runId :
    (inspection.run.after (transitionEvent kernel inspection transition occurredAt)).runId =
      inspection.run.runId := rfl

@[simp] theorem after_requestDigest :
    (inspection.run.after (transitionEvent kernel inspection transition occurredAt)).requestDigest =
      inspection.run.requestDigest := rfl

@[simp] theorem after_generation :
    (inspection.run.after (transitionEvent kernel inspection transition occurredAt)).generation =
      overlayNatural transition.payload "generation" inspection.run.generation := rfl

@[simp] theorem after_blueprintDigest :
    (inspection.run.after (transitionEvent kernel inspection transition
      occurredAt)).blueprintDigest =
      overlayText transition.payload "blueprint_digest" inspection.run.blueprintDigest := rfl

@[simp] theorem after_versionDigest :
    (inspection.run.after (transitionEvent kernel inspection transition occurredAt)).versionDigest =
      overlayText transition.payload "version_digest" inspection.run.versionDigest := rfl

@[simp] theorem after_candidateDigest :
    (inspection.run.after (transitionEvent kernel inspection transition
      occurredAt)).candidateDigest =
      overlayText transition.payload "candidate_digest" inspection.run.candidateDigest := rfl

@[simp] theorem after_candidateRecordDigest :
    (inspection.run.after (transitionEvent kernel inspection transition
      occurredAt)).candidateRecordDigest =
      overlayText transition.payload "candidate_record_digest"
        inspection.run.candidateRecordDigest := rfl

@[simp] theorem after_evidenceDigest :
    (inspection.run.after (transitionEvent kernel inspection transition
      occurredAt)).evidenceDigest =
      overlayText transition.payload "evidence_digest" inspection.run.evidenceDigest := rfl

@[simp] theorem after_riskTier :
    (inspection.run.after (transitionEvent kernel inspection transition occurredAt)).riskTier =
      overlayRiskTier transition.payload inspection.run.riskTier := rfl

@[simp] theorem transitionEvent_eventType :
    (transitionEvent kernel inspection transition occurredAt).eventType = transition.eventType :=
  rfl

@[simp] theorem transitionEvent_payload :
    (transitionEvent kernel inspection transition occurredAt).payload = transition.payload := rfl

@[simp] theorem transitionEvent_toState :
    (transitionEvent kernel inspection transition occurredAt).toState = transition.toState := rfl

@[simp] theorem transitionEvent_runId :
    (transitionEvent kernel inspection transition occurredAt).runId = inspection.run.runId := rfl

@[simp] theorem transitionEvent_revision :
    (transitionEvent kernel inspection transition occurredAt).revision =
      inspection.run.revision + 1 := rfl

end After

theorem ofText?_text (tier : FoundryRiskTier) : FoundryRiskTier.ofText? tier.text = some tier := by
  cases tier <;> rfl

/-- A payload that leaves the generation, the blueprint, the version and the
risk of a run alone. -/
def Unrelated (payload : JsonRecord) : Prop :=
  field? payload "generation" = none ∧ field? payload "blueprint_digest" = none ∧
    field? payload "version_digest" = none ∧ field? payload "risk_tier" = none

/-- The run is at the same generation, blueprint, version and risk. -/
structure Steady (run after : FoundryRunSnapshot) : Prop where
  runId : after.runId = run.runId
  generation : after.generation = run.generation
  blueprintDigest : after.blueprintDigest = run.blueprintDigest
  versionDigest : after.versionDigest = run.versionDigest
  riskTier : after.riskTier = run.riskTier

theorem Steady.refl (run : FoundryRunSnapshot) : Steady run run := ⟨rfl, rfl, rfl, rfl, rfl⟩

theorem steady_of_unrelated (unrelated : Unrelated transition.payload) :
    Steady inspection.run
      (inspection.run.after (transitionEvent kernel inspection transition occurredAt)) := by
  obtain ⟨generation, blueprint, version, risk⟩ := unrelated
  constructor <;> simp [overlayNatural, overlayText, overlayRiskTier, generation, blueprint,
    version, risk]

theorem unrelated_evidencePayload (journaled : JournaledEvidence) (rest : JsonRecord)
    (unrelated : Unrelated rest) :
    Unrelated (evidencePayload journaled.result journaled.evidence ++ rest) := by
  simpa [Unrelated, evidencePayload, field?_cons] using unrelated

theorem unrelated_ownerVerificationPayload (verification : OwnerGateVerification) :
    Unrelated (ownerVerificationPayload verification) := by
  simp [Unrelated, ownerVerificationPayload, field?_cons]

theorem unrelated_failurePayload (failureCode failureMessage : String) :
    Unrelated (failurePayload failureCode failureMessage) := by
  simp [Unrelated, failurePayload, field?_cons]

theorem unrelated_evaluationRejected (canary : Bool) (journaled : JournaledEvidence) :
    Unrelated (evaluationRejected inspection canary journaled).payload := by
  simp only [evaluationRejected, List.append_assoc]
  refine unrelated_evidencePayload journaled _ ?_
  cases canary <;> simp [Unrelated, field?_cons]

theorem unrelated_activationCompleted (run : FoundryRunSnapshot) (result : ActivationResult)
    (authority : Option OwnerAuthority) :
    Unrelated (activationCompleted run result authority).payload := by
  cases authority <;> simp [Unrelated, activationCompleted, field?_cons]

theorem unrelated_qualificationRouted : Unrelated (qualificationRouted inspection).payload := by
  unfold qualificationRouted
  split
  · simp [Unrelated]
  · split <;> simp [Unrelated]

/-! ## Events at a place of the log -/

/-- The event at an index satisfies `fact`, together with the snapshot before it. -/
def EventAt (log : List FoundryRunEvent) (index : Nat)
    (fact : FoundryRunEvent → FoundryRunSnapshot → Prop) : Prop :=
  ∃ event before, log[index]? = some event ∧ IsSnapshot (log.take index) before ∧ fact event before

section

variable {fact : FoundryRunEvent → FoundryRunSnapshot → Prop}

theorem EventAt.lt {index : Nat} (there : EventAt events index fact) : index < events.length := by
  obtain ⟨event, _, found, -⟩ := there
  exact (List.getElem?_eq_some_iff.1 found).1

theorem EventAt.append {index : Nat} (there : EventAt events index fact)
    (rest : List FoundryRunEvent) : EventAt (events ++ rest) index fact := by
  have inside := there.lt
  obtain ⟨event, before, found, snapshot, holds⟩ := there
  refine ⟨event, before, ?_, ?_, holds⟩
  · rwa [List.getElem?_append_left inside]
  · rwa [List.take_append_of_le_length inside.le]

theorem eventAt_last {event : FoundryRunEvent} (snapshot : IsSnapshot events run)
    (holds : fact event run) : EventAt (events ++ [event]) events.length fact :=
  ⟨event, run, by simp, by simpa using snapshot, holds⟩

end

/-- The version was qualified at the generation. -/
def Qualifies (generation : Nat) (versionDigest : String) (event : FoundryRunEvent)
    (before : FoundryRunSnapshot) : Prop :=
  event.eventType = "candidate_qualified" ∧ before.generation = generation ∧
    textField? event.payload "version_digest" = some versionDigest

/-- The version passed its canary at the generation, on qualifying evidence
about the candidate of the version. -/
def PassesCanary (world : World) (generation : Nat) (versionDigest : String)
    (event : FoundryRunEvent) (before : FoundryRunSnapshot) : Prop :=
  event.eventType = "canary_passed" ∧ before.generation = generation ∧
    before.versionDigest = some versionDigest ∧
    ∃ evidenceDigest evidence version,
      textField? event.payload "evidence_digest" = some evidenceDigest ∧
      world.objects evidenceDigest = some (.evidence evidence) ∧ evidence.qualified = true ∧
      world.versionOf before.targetAgentId before.targetDomainId versionDigest = some version ∧
      evidence.candidateDigest = version.candidateDigest

/-- The receipt of an approval: canonical, for the action, and bound to the run,
the version and the revision. -/
structure ApprovalReceipt (platform : Platform) (action : OwnerGateAction) (runId : String)
    (versionDigest : String) (revision : Nat) (receipt : OwnerAuthorityReceipt) : Prop where
  canonical : receipt.Canonical platform
  action : receipt.action = action
  decision : receipt.decision = .approve
  run : receipt.runId = some runId
  version : receipt.versionDigest = some versionDigest
  revision : receipt.expectedRevision = revision

/-- The owner approved the action for the version at the generation. -/
def Approves (platform : Platform) (action : OwnerGateAction) (runId : String) (generation : Nat)
    (versionDigest : String) (receipt : OwnerAuthorityReceipt) (event : FoundryRunEvent)
    (before : FoundryRunSnapshot) : Prop :=
  event.eventType = "owner_approved" ∧ before.generation = generation ∧
    before.versionDigest = some versionDigest ∧
    ApprovalReceipt platform action runId versionDigest before.revision receipt ∧
    textField? event.payload "owner_authority_receipt_ref" = some receipt.receiptRef ∧
    textField? event.payload "owner_authority_receipt_digest" = some receipt.receiptDigest

/-! ## Approvals -/

/-- The last approval in a log. -/
def lastApproval (log : List FoundryRunEvent) : Option FoundryRunEvent :=
  log.reverse.find? approvalEvent

theorem latestOwnerAuthority_eq (log : List FoundryRunEvent) :
    latestOwnerAuthority log = match lastApproval log with
      | none => .ok none
      | some event => some <$> ownerAuthorityOf event := rfl

theorem lastApproval_append (log : List FoundryRunEvent) (event : FoundryRunEvent) :
    lastApproval (log ++ [event]) =
      if approvalEvent event = true then some event else lastApproval log := by
  cases approves : approvalEvent event <;> simp [lastApproval, approves]

theorem lastApproval_append_other {event : FoundryRunEvent} (log : List FoundryRunEvent)
    (other : event.eventType ≠ "owner_approved") :
    lastApproval (log ++ [event]) = lastApproval log := by
  simp [lastApproval_append, approvalEvent, other]

/-- After the state `activating` no event approves anything any more. -/
theorem lastApproval_settled {platform : Platform} {later : List FoundryRunEvent}
    (verified : Verified platform later) (earlier : events <+: later)
    (snapshot : IsSnapshot events run) (activating : run.state = .activating) :
    lastApproval later = lastApproval events := by
  obtain ⟨last, ends, -, state, -⟩ := snapshot.last
  rcases verified.settled earlier ends (state.symm.trans activating) with rfl | ⟨event, rfl, final⟩
  · rfl
  · refine lastApproval_append_other events ?_
    rcases final with ⟨-, typed⟩ | ⟨-, typed⟩ | ⟨-, typed⟩ <;> simp [typed]

/-! ## Routes -/

/-- The qualification, and the approval of the canary where the risk is high,
lie before an index. -/
def ReachedCanary (kernel : FoundryKernel) (log : List FoundryRunEvent)
    (run : FoundryRunSnapshot) (versionDigest : String) (bound : Nat) : Prop :=
  ∃ qualified < bound, EventAt log qualified (Qualifies run.generation versionDigest) ∧
    (run.riskTier = some .high → ∃ approved receipt, qualified < approved ∧ approved < bound ∧
      EventAt log approved (Approves kernel.platform .approveCanary run.runId run.generation
        versionDigest receipt))

/-- The canary passed at an index, with all that it needs before it. -/
def PassedCanary (kernel : FoundryKernel) (world : World) (log : List FoundryRunEvent)
    (run : FoundryRunSnapshot) (versionDigest : String) (index : Nat) : Prop :=
  ReachedCanary kernel log run versionDigest index ∧
    EventAt log index (PassesCanary world run.generation versionDigest)

/-- After the canary the owner approved the activation, and the last approval of
the log is that one. -/
def ApprovedActive (kernel : FoundryKernel) (log : List FoundryRunEvent)
    (run : FoundryRunSnapshot) (versionDigest : String) (passed : Nat) : Prop :=
  ∃ approved receipt, passed < approved ∧
    EventAt log approved fun event before =>
      Approves kernel.platform .approveActive run.runId run.generation versionDigest receipt event
        before ∧ lastApproval log = some event

/-- What lies behind a run in its state, for the version it is at. -/
def RouteTo (kernel : FoundryKernel) (world : World) (request : DesignRequest)
    (log : List FoundryRunEvent) (run : FoundryRunSnapshot) (versionDigest : String) : Prop :=
  match run.state with
  | .qualified => ∃ qualified, EventAt log qualified (Qualifies run.generation versionDigest)
  | .awaitingOwnerCanary =>
    request.deliveryPolicy.activationMode = .activate ∧ run.riskTier = some .high ∧
      ∃ qualified, EventAt log qualified (Qualifies run.generation versionDigest)
  | .canary =>
    request.deliveryPolicy.activationMode = .activate ∧
      ReachedCanary kernel log run versionDigest log.length
  | .awaitingOwnerActive =>
    request.deliveryPolicy.activationMode = .activate ∧ run.riskTier ≠ some .low ∧
      ∃ passed, PassedCanary kernel world log run versionDigest passed
  | .activating =>
    request.deliveryPolicy.activationMode = .activate ∧
      ∃ passed, PassedCanary kernel world log run versionDigest passed ∧
        (run.riskTier ≠ some .low → ApprovedActive kernel log run versionDigest passed)
  | _ => True

/-- The states that a run reaches with a qualified version. -/
def FoundryRunState.atVersion : FoundryRunState → Bool
  | .qualified | .awaitingOwnerCanary | .canary | .awaitingOwnerActive | .activating => true
  | _ => false

/-- A run without owner approvals, or with a tier that is not low. -/
def ApprovalsNeedRisk (log : List FoundryRunEvent) (run : FoundryRunSnapshot) : Prop :=
  lastApproval log = none ∨ ∃ tier, run.riskTier = some tier ∧ tier ≠ .low

/-- The states of a run with a blueprint that are not final. -/
def FoundryRunState.designed (state : FoundryRunState) : Bool :=
  !state.terminal && state != .accepted && state != .designing

structure Route (kernel : FoundryKernel) (world : World) (request : DesignRequest)
    (log : List FoundryRunEvent) (run : FoundryRunSnapshot) : Prop where
  graded : FoundryRunState.designed run.state = true → run.riskTier.isSome = true
  approvals : ApprovalsNeedRisk log run
  version : FoundryRunState.atVersion run.state = true → ∃ versionDigest,
    run.versionDigest = some versionDigest ∧ isSha256Digest versionDigest = true ∧
      RouteTo kernel world request log run versionDigest

/-! ## One event further -/

section

variable {after : FoundryRunSnapshot}

theorem ReachedCanary.append {versionDigest : String} {bound : Nat}
    (reached : ReachedCanary kernel events run versionDigest bound) (steady : Steady run after)
    (rest : List FoundryRunEvent) :
    ReachedCanary kernel (events ++ rest) after versionDigest bound := by
  obtain ⟨qualified, before, there, approved⟩ := reached
  refine ⟨qualified, before, by simpa only [steady.generation] using there.append rest, ?_⟩
  rw [steady.riskTier, steady.generation, steady.runId]
  intro high
  obtain ⟨index, receipt, later, earlier, approval⟩ := approved high
  exact ⟨index, receipt, later, earlier, approval.append rest⟩

theorem PassedCanary.append {versionDigest : String} {index : Nat}
    (passed : PassedCanary kernel world events run versionDigest index) (steady : Steady run after)
    (rest : List FoundryRunEvent) :
    PassedCanary kernel world (events ++ rest) after versionDigest index :=
  ⟨passed.1.append steady rest, by simpa only [steady.generation] using passed.2.append rest⟩

theorem le_accumulatedRisk (tier admitted : FoundryRiskTier) :
    tier ≤ accumulatedRisk (some tier) admitted := by
  rw [accumulatedRisk, maximumRiskTier_pair]
  exact le_max_left _ _

/-- Approvals keep needing a risk when a blueprint is admitted. -/
theorem ApprovalsNeedRisk.accumulate {event : FoundryRunEvent} {admitted : FoundryRiskTier}
    (needs : ApprovalsNeedRisk events run) (other : event.eventType ≠ "owner_approved")
    (risk : after.riskTier = some (accumulatedRisk run.riskTier admitted)) :
    ApprovalsNeedRisk (events ++ [event]) after := by
  rw [ApprovalsNeedRisk, lastApproval_append_other _ other]
  refine needs.imp_right ?_
  rintro ⟨tier, graded, raised⟩
  refine ⟨_, risk, fun low => raised ?_⟩
  rw [graded] at low
  exact le_antisymm (low ▸ le_accumulatedRisk tier admitted) (FoundryRiskTier.low_le tier)

theorem ApprovalsNeedRisk.steady (needs : ApprovalsNeedRisk events inspection.run)
    (other : transition.eventType ≠ "owner_approved") (unrelated : Unrelated transition.payload) :
    ApprovalsNeedRisk (events ++ [transitionEvent kernel inspection transition occurredAt])
      (inspection.run.after (transitionEvent kernel inspection transition occurredAt)) := by
  have steady : Steady inspection.run
      (inspection.run.after (transitionEvent kernel inspection transition occurredAt)) :=
    steady_of_unrelated unrelated
  unfold ApprovalsNeedRisk
  rw [lastApproval_append_other _ other, steady.riskTier]
  exact needs

/-- An event that ends the run or sends it back leaves nothing to show. -/
theorem Route.leave (route : Route kernel world request events inspection.run)
    (unrelated : Unrelated transition.payload)
    (other : transition.eventType ≠ "owner_approved")
    (leaves : FoundryRunState.atVersion transition.toState = false)
    (designed : FoundryRunState.designed transition.toState = true →
      FoundryRunState.designed inspection.run.state = true) :
    Route kernel world request
      (events ++ [transitionEvent kernel inspection transition occurredAt])
      (inspection.run.after (transitionEvent kernel inspection transition occurredAt)) where
  graded reached := by
    rw [(steady_of_unrelated unrelated).riskTier]
    exact route.graded (designed reached)
  approvals := route.approvals.steady other unrelated
  version reached := absurd reached (by simp [leaves])

/-- The first blueprint, and every later one, accumulates its risk. -/
theorem Route.admission (route : Route kernel world request events inspection.run)
    {admitted : FoundryRiskTier} (other : transition.eventType ≠ "owner_approved")
    (leaves : transition.toState = .materializing)
    (risk : field? transition.payload "risk_tier" =
      some (.string (accumulatedRisk inspection.run.riskTier admitted).text)) :
    Route kernel world request
      (events ++ [transitionEvent kernel inspection transition occurredAt])
      (inspection.run.after (transitionEvent kernel inspection transition occurredAt)) := by
  have graded : (inspection.run.after
      (transitionEvent kernel inspection transition occurredAt)).riskTier =
      some (accumulatedRisk inspection.run.riskTier admitted) := by
    simp [overlayRiskTier, risk, Json.asString?, ofText?_text]
  exact {
    graded := fun _ => by rw [graded]; rfl
    approvals := route.approvals.accumulate other graded
    version := fun reached => absurd reached (by simp [leaves, FoundryRunState.atVersion]) }

/-- The version of a run and the route to it, one event later at the same version. -/
theorem Route.advance (route : Route kernel world request events inspection.run)
    (unrelated : Unrelated transition.payload)
    (designed : FoundryRunState.designed inspection.run.state = true)
    (from_ : FoundryRunState.atVersion inspection.run.state = true)
    (approvals : Steady inspection.run
        (inspection.run.after (transitionEvent kernel inspection transition occurredAt)) →
      ApprovalsNeedRisk (events ++ [transitionEvent kernel inspection transition occurredAt])
        (inspection.run.after (transitionEvent kernel inspection transition occurredAt)))
    (onward : ∀ versionDigest, inspection.run.versionDigest = some versionDigest →
      isSha256Digest versionDigest = true →
      RouteTo kernel world request events inspection.run versionDigest →
      Steady inspection.run
        (inspection.run.after (transitionEvent kernel inspection transition occurredAt)) →
      RouteTo kernel world request
        (events ++ [transitionEvent kernel inspection transition occurredAt])
        (inspection.run.after (transitionEvent kernel inspection transition occurredAt))
        versionDigest) :
    Route kernel world request
      (events ++ [transitionEvent kernel inspection transition occurredAt])
      (inspection.run.after (transitionEvent kernel inspection transition occurredAt)) := by
  have steady : Steady inspection.run
      (inspection.run.after (transitionEvent kernel inspection transition occurredAt)) :=
    steady_of_unrelated unrelated
  refine ⟨fun _ => ?_, approvals steady, fun _ => ?_⟩
  · rw [steady.riskTier]
    exact route.graded designed
  · obtain ⟨versionDigest, current, wellFormed, behind⟩ := route.version from_
    exact ⟨versionDigest, by rw [steady.versionDigest, current], wellFormed,
      onward versionDigest current wellFormed behind steady⟩

end

/-! ## Every justified event -/

variable {blueprint : AgentBlueprint} {blueprintDigest : String} {previous : Option AgentBlueprint}

theorem blueprintAdmitted_eq_ok
    (admitted : blueprintAdmitted kernel run blueprintDigest previous blueprint = .ok transition) :
    transition.eventType = "blueprint_admitted" ∧ transition.toState = .materializing ∧
      field? transition.payload "blueprint_digest" = some (.string blueprintDigest) ∧
      field? transition.payload "risk_tier" = some (.string (accumulatedRisk run.riskTier
        (recomputeBlueprintRisk previous blueprint).riskTier).text) ∧
      field? transition.payload "generation" = some (.ofNat 0) := by
  cases previous <;>
    simp only [blueprintAdmitted, bind_eq_ok, pure_eq_ok] at admitted <;>
    obtain ⟨_, -, rfl⟩ := admitted <;>
    simp [field?_cons]

theorem blueprintAdmitted_silent
    (admitted : blueprintAdmitted kernel run blueprintDigest previous blueprint = .ok transition) :
    field? transition.payload "version_digest" = none ∧
      field? transition.payload "evidence_digest" = none := by
  cases previous <;>
    simp only [blueprintAdmitted, bind_eq_ok, pure_eq_ok] at admitted <;>
    obtain ⟨_, -, rfl⟩ := admitted <;>
    simp [field?_cons]

theorem Route.blueprintAdmitted (route : Route kernel world request events inspection.run)
    (admitted : blueprintAdmitted kernel inspection.run blueprintDigest previous blueprint =
      .ok transition) :
    Route kernel world request
      (events ++ [transitionEvent kernel inspection transition occurredAt])
      (inspection.run.after (transitionEvent kernel inspection transition occurredAt)) := by
  obtain ⟨eventType, toState, -, risk, -⟩ := blueprintAdmitted_eq_ok admitted
  exact route.admission (by simp [eventType]) toState risk

theorem Route.proposalAdmitted (route : Route kernel world request events inspection.run)
    (blueprint : AgentBlueprint) (proposal : EvolutionProposal) (proposalDigest nextDigest : String) :
    Route kernel world request
      (events ++ [transitionEvent kernel inspection
        (proposalAdmitted inspection.run blueprint proposal proposalDigest nextDigest) occurredAt])
      (inspection.run.after (transitionEvent kernel inspection
        (proposalAdmitted inspection.run blueprint proposal proposalDigest nextDigest)
        occurredAt)) := by
  have risk : field? (Kernel.proposalAdmitted inspection.run blueprint proposal proposalDigest
      nextDigest).payload "risk_tier" = some (.string (accumulatedRisk inspection.run.riskTier
        (maximumRiskTier [(recomputeBlueprintRisk (some blueprint) proposal.nextBlueprint).riskTier,
          maximumRiskTier proposal.riskHints])).text) := by
    simp [Kernel.proposalAdmitted, field?_cons]
  exact route.admission (by simp [Kernel.proposalAdmitted]) rfl risk

/-- Qualification starts the route of a version. -/
theorem Route.candidateQualified (route : Route kernel world request events inspection.run)
    (snapshot : IsSnapshot events inspection.run) (state : inspection.run.state = .evaluating)
    (journaled : JournaledEvidence) {version : AgentVersion}
    (wellFormed : isSha256Digest version.versionDigest = true) :
    Route kernel world request
      (events ++ [transitionEvent kernel inspection (candidateQualified journaled version)
        occurredAt])
      (inspection.run.after (transitionEvent kernel inspection
        (candidateQualified journaled version) occurredAt)) := by
  have generation : (inspection.run.after (transitionEvent kernel inspection
      (Kernel.candidateQualified journaled version) occurredAt)).generation =
      inspection.run.generation := by
    simp [overlayNatural, Kernel.candidateQualified, evidencePayload, field?_cons]
  have risk : (inspection.run.after (transitionEvent kernel inspection
      (Kernel.candidateQualified journaled version) occurredAt)).riskTier =
      inspection.run.riskTier := by
    simp [overlayRiskTier, Kernel.candidateQualified, evidencePayload, field?_cons]
  have named : field? (Kernel.candidateQualified journaled version).payload "version_digest" =
      some (.string version.versionDigest) := by
    simp [Kernel.candidateQualified, evidencePayload, field?_cons]
  constructor
  · intro _
    rw [risk]
    exact route.graded (by rw [state]; rfl)
  · rw [ApprovalsNeedRisk, lastApproval_append_other _ (by simp [Kernel.candidateQualified]), risk]
    exact route.approvals
  · intro _
    refine ⟨version.versionDigest, ?_, wellFormed, ?_⟩
    · simp [overlayText, named, Json.asString?]
    · refine ⟨events.length, ?_⟩
      rw [generation]
      exact eventAt_last snapshot ⟨rfl, rfl, by simp [textField?, named, Json.asString?]⟩

theorem Route.qualificationRouted
    (route : Route kernel world inspection.request events inspection.run)
    (state : inspection.run.state = .qualified) :
    Route kernel world inspection.request
      (events ++ [transitionEvent kernel inspection (qualificationRouted inspection) occurredAt])
      (inspection.run.after (transitionEvent kernel inspection
        (qualificationRouted inspection) occurredAt)) := by
  have unrelated : Unrelated (Kernel.qualificationRouted inspection).payload :=
    unrelated_qualificationRouted
  have other : (Kernel.qualificationRouted inspection).eventType ≠ "owner_approved" := by
    unfold Kernel.qualificationRouted
    split
    · simp
    · split <;> simp
  refine route.advance unrelated (by rw [state]; rfl) (by rw [state]; rfl)
    (fun _ => route.approvals.steady other unrelated) ?_
  intro versionDigest _ _ behind steady
  simp only [RouteTo, state] at behind
  obtain ⟨qualified, there⟩ := behind
  simp only [RouteTo, after_state]
  cases mode : inspection.request.deliveryPolicy.activationMode with
  | qualifyOnly => simp [Kernel.qualificationRouted, mode]
  | activate =>
    by_cases high : inspection.run.riskTier = some .high
    · have routed : (Kernel.qualificationRouted inspection).toState = .awaitingOwnerCanary := by
        simp [Kernel.qualificationRouted, mode, high, ownerGatePolicyOf, ownerGatePolicy]
      simp only [routed]
      refine ⟨trivial, steady.riskTier.trans high, qualified, ?_⟩
      rw [steady.generation]
      exact there.append _
    · have routed : (Kernel.qualificationRouted inspection).toState = .canary := by
        cases tier : inspection.run.riskTier with
        | none => simp [Kernel.qualificationRouted, mode, tier, ownerGatePolicyOf]
        | some tier =>
          simp_all [Kernel.qualificationRouted, ownerGatePolicyOf, ownerGatePolicy]
      simp only [routed]
      refine ⟨trivial, qualified, by simpa using Nat.lt_succ_of_lt there.lt, ?_, ?_⟩
      · rw [steady.generation]
        exact there.append _
      · rw [steady.riskTier]
        exact fun reached => absurd reached high

theorem Route.canaryPassed
    (route : Route kernel world inspection.request events inspection.run)
    (snapshot : IsSnapshot events inspection.run)
    (identity : RunIdentity world inspection.request inspection.run)
    (state : inspection.run.state = .canary) {subject : EvaluationSubject}
    {journaled : JournaledEvidence} (evaluated : Evaluated kernel world inspection subject journaled)
    (qualified : journaled.evidence.qualified = true)
    (canary : UnderCanary world inspection subject) :
    Route kernel world inspection.request
      (events ++ [transitionEvent kernel inspection (canaryPassed inspection.run journaled)
        occurredAt])
      (inspection.run.after (transitionEvent kernel inspection
        (canaryPassed inspection.run journaled) occurredAt)) := by
  have unrelated : Unrelated (Kernel.canaryPassed inspection.run journaled).payload := by
    simpa [Kernel.canaryPassed] using unrelated_evidencePayload journaled [] (by simp [Unrelated])
  refine route.advance unrelated (by rw [state]; rfl) (by rw [state]; rfl)
    (fun _ => route.approvals.steady (by simp [Kernel.canaryPassed]) unrelated) ?_
  intro versionDigest current _ behind steady
  simp only [RouteTo, state] at behind
  obtain ⟨mode, reached⟩ := behind
  have passes : PassesCanary world inspection.run.generation versionDigest
      (transitionEvent kernel inspection (Kernel.canaryPassed inspection.run journaled) occurredAt)
      inspection.run := by
    obtain ⟨_, version, current', found, bound⟩ := canary
    obtain rfl := Option.some.inj (current.symm.trans current')
    obtain ⟨facts, asserted⟩ := evaluated.asserted
    refine ⟨rfl, rfl, current, journaled.result.evidenceDigest, journaled.evidence, version, ?_,
      evaluated.stored, qualified, ?_, ?_⟩
    · simp [textField?, Kernel.canaryPassed, evidencePayload, Json.asString?]
    · rw [identity.targetAgentId, identity.targetDomainId]
      exact found
    · rw [(assertEvaluationEvidence_bound asserted).candidate]
      exact bound.2.2.2.1.symm
  have passed : PassedCanary kernel world
      (events ++ [transitionEvent kernel inspection
        (Kernel.canaryPassed inspection.run journaled) occurredAt])
      (inspection.run.after (transitionEvent kernel inspection
        (Kernel.canaryPassed inspection.run journaled) occurredAt)) versionDigest
      events.length :=
    ⟨reached.append steady _, by rw [steady.generation]; exact eventAt_last snapshot passes⟩
  simp only [RouteTo, after_state]
  by_cases low : inspection.run.riskTier = some .low
  · have onward : (Kernel.canaryPassed inspection.run journaled).toState = .activating := by
      simp [Kernel.canaryPassed, low, ownerGatePolicyOf, ownerGatePolicy]
    simp only [onward]
    exact ⟨mode, events.length, passed, fun raised => absurd (steady.riskTier.trans low) raised⟩
  · have onward : (Kernel.canaryPassed inspection.run journaled).toState =
        .awaitingOwnerActive := by
      cases tier : inspection.run.riskTier with
      | none => simp [Kernel.canaryPassed, tier, ownerGatePolicyOf]
      | some tier => simp_all [Kernel.canaryPassed, ownerGatePolicyOf, ownerGatePolicy]
    simp only [onward]
    exact ⟨mode, by rwa [steady.riskTier], events.length, passed⟩

/-- A verification of an approval carries the receipt of that approval. -/
theorem Verifies.approvalReceipt {platform : Platform} {canary : Bool}
    {authorityReceiptRef versionDigest : String} {verification : OwnerGateVerification}
    (verifies : Verifies platform world
      (decisionContext inspection canary .approve authorityReceiptRef versionDigest) verification)
    (named : trim inspection.run.runId = inspection.run.runId)
    (wellFormed : isSha256Digest versionDigest = true) :
    ApprovalReceipt platform (ownerDecisionAction canary .approve) inspection.run.runId
      versionDigest inspection.run.revision verification.receipt := by
  obtain ⟨context, answer, -, contextChecked, checked⟩ := verifies
  obtain ⟨action, decision, runId, version, revision, -⟩ :=
    validateOwnerGateVerificationContext_eq_ok contextChecked
  obtain ⟨canonical, action', decision', runId', version', revision', -⟩ :=
    validateOwnerGateVerification_eq_ok checked
  refine ⟨canonical, action'.trans action, decision'.trans decision, ?_, ?_,
    revision'.trans revision⟩
  · rw [runId', runId]
    simp [decisionContext, named]
  · rw [version', version]
    simp [decisionContext, trim_of_isSha256Digest wellFormed]

theorem approves_ownerDecided {canary : Bool} {authorityReceiptRef versionDigest : String}
    {verification : OwnerGateVerification}
    (verifies : Verifies kernel.platform world
      (decisionContext inspection canary .approve authorityReceiptRef versionDigest) verification)
    (named : trim inspection.run.runId = inspection.run.runId)
    (current : inspection.run.versionDigest = some versionDigest)
    (wellFormed : isSha256Digest versionDigest = true) :
    Approves kernel.platform (ownerDecisionAction canary .approve) inspection.run.runId
      inspection.run.generation versionDigest verification.receipt
      (transitionEvent kernel inspection (ownerDecided canary .approve verification) occurredAt)
      inspection.run := by
  refine ⟨rfl, rfl, current, verifies.approvalReceipt named wellFormed, ?_, ?_⟩ <;>
    simp [textField?, ownerDecided, ownerVerificationPayload, field?_cons, Json.asString?]

theorem Route.ownerDecided
    (route : Route kernel world inspection.request events inspection.run)
    (snapshot : IsSnapshot events inspection.run)
    (named : trim inspection.run.runId = inspection.run.runId) {canary : Bool}
    {decision : OwnerVerdict} {authorityReceiptRef versionDigest : String}
    {verification : OwnerGateVerification}
    (state : inspection.run.state = if canary then .awaitingOwnerCanary else .awaitingOwnerActive)
    (current : inspection.run.versionDigest = some versionDigest)
    (verifies : Verifies kernel.platform world
      (decisionContext inspection canary decision authorityReceiptRef versionDigest)
      verification) :
    Route kernel world inspection.request
      (events ++ [transitionEvent kernel inspection (ownerDecided canary decision verification)
        occurredAt])
      (inspection.run.after (transitionEvent kernel inspection
        (ownerDecided canary decision verification) occurredAt)) := by
  have unrelated : Unrelated (Kernel.ownerDecided canary decision verification).payload :=
    unrelated_ownerVerificationPayload verification
  have designed : FoundryRunState.designed inspection.run.state = true := by
    rw [state]; cases canary <;> rfl
  have from_ : FoundryRunState.atVersion inspection.run.state = true := by
    rw [state]; cases canary <;> rfl
  cases decision with
  | reject =>
    exact route.leave unrelated (by simp [Kernel.ownerDecided, OwnerVerdict.eventType]) rfl
      fun _ => designed
  | approve =>
    obtain ⟨_, current', wellFormed, behind⟩ := route.version from_
    obtain rfl := Option.some.inj (current.symm.trans current')
    -- the owner is only asked where the tier needs it
    have raised : inspection.run.riskTier ≠ some .low := by
      cases canary <;> simp only [RouteTo, state, if_true, if_false, Bool.false_eq_true] at behind
      · exact behind.2.1
      · simp [behind.2.1]
    refine route.advance unrelated designed from_ (fun steady => ?_) ?_
    · obtain ⟨tier, graded⟩ := Option.isSome_iff_exists.1 (route.graded designed)
      exact .inr ⟨tier, steady.riskTier.trans graded, fun low => raised (low ▸ graded)⟩
    · intro versionDigest' current' _ _ steady
      obtain rfl := Option.some.inj (current.symm.trans current')
      have approves : Approves kernel.platform (ownerDecisionAction canary .approve)
          inspection.run.runId inspection.run.generation versionDigest verification.receipt
          (transitionEvent kernel inspection (Kernel.ownerDecided canary .approve verification)
            occurredAt) inspection.run := approves_ownerDecided verifies named current wellFormed
      cases canary with
      | true =>
        simp only [RouteTo, state, if_true] at behind
        obtain ⟨mode, high, qualified, there⟩ := behind
        refine ⟨mode, qualified, by simpa using Nat.lt_succ_of_lt there.lt, ?_, fun _ =>
          ⟨events.length, verification.receipt, there.lt, by simp, ?_⟩⟩
        · rw [steady.generation]
          exact there.append _
        · rw [steady.generation, steady.runId]
          exact eventAt_last snapshot approves
      | false =>
        simp only [RouteTo, state, if_false, Bool.false_eq_true] at behind
        obtain ⟨mode, -, passed, canary⟩ := behind
        refine ⟨mode, passed, canary.append steady _, fun _ =>
          ⟨events.length, verification.receipt, canary.2.lt, ?_⟩⟩
        rw [steady.generation, steady.runId]
        refine eventAt_last snapshot ⟨approves, ?_⟩
        rw [lastApproval_append, if_pos]
        simp [approvalEvent, Kernel.ownerDecided, OwnerVerdict.eventType, textField?,
          ownerVerificationPayload, field?_cons, Json.asString?]

/-- Every event that the kernel appends takes the route of the run along. -/
theorem Justified.route (justified : Justified kernel world inspection transition)
    (route : Route kernel world inspection.request events inspection.run)
    (snapshot : IsSnapshot events inspection.run)
    (identity : RunIdentity world inspection.request inspection.run) :
    Route kernel world inspection.request
      (events ++ [transitionEvent kernel inspection transition occurredAt])
      (inspection.run.after (transitionEvent kernel inspection transition occurredAt)) := by
  cases justified with
  | designStarted state => exact route.leave (by simp [Unrelated]) (by simp) rfl nofun
  | blueprintAdmitted _ _ _ _ _ admitted => exact route.blueprintAdmitted admitted
  | candidateMaterialized candidate recordDigest state _ _ _ =>
    exact route.leave (by simp [Unrelated, Kernel.candidateMaterialized, field?_cons])
      (by simp [Kernel.candidateMaterialized]) rfl fun _ => by rw [state]; rfl
  | candidateQualified state _ _ registered =>
    exact route.candidateQualified snapshot state _ registered.wellFormed
  | canaryPassed state evaluated qualified canary =>
    exact route.canaryPassed snapshot identity state evaluated qualified canary
  | @evaluationRejected _ journaled canary state _ =>
    refine route.leave (unrelated_evaluationRejected canary journaled) ?_ ?_ fun _ => ?_
    · unfold Kernel.evaluationRejected
      split <;> [simp; (split <;> simp)]
    · unfold Kernel.evaluationRejected
      split <;> rfl
    · rw [state]; cases canary <;> rfl
  | diagnosisStarted state =>
    exact route.leave (by simp [Unrelated]) (by simp) rfl fun _ => by rw [state]; rfl
  | evolutionNoChange proposalDigest state =>
    exact route.leave (by simp [Unrelated, Kernel.evolutionNoChange, field?_cons])
      (by simp [Kernel.evolutionNoChange]) rfl fun _ => by rw [state]; rfl
  | @proposalAdmitted blueprint _ proposal nextDigest proposalDigest _ _ _ _ _ _ _ =>
    exact route.proposalAdmitted blueprint proposal proposalDigest nextDigest
  | qualificationRouted state => exact route.qualificationRouted state
  | ownerDecided state current verifies =>
    exact route.ownerDecided snapshot identity.named state current verifies
  | activationCompleted result authority state _ =>
    exact route.leave (unrelated_activationCompleted inspection.run result authority)
      (by simp [Kernel.activationCompleted]) rfl fun _ => by rw [state]; rfl
  | @runCancelled _ verification _ =>
    exact route.leave (unrelated_ownerVerificationPayload verification)
      (by simp [Kernel.runCancelled]) rfl nofun
  | quarantined inputDigest failure =>
    exact route.leave (unrelated_failurePayload failure.code failure.message)
      (by simp [quarantinedTransition]) rfl nofun
  | failed inputDigest failureCode failureMessage =>
    exact route.leave (unrelated_failurePayload failureCode failureMessage)
      (by simp [failedTransition]) rfl nofun

/-- The route of every log that the kernel writes. -/
theorem KernelLog.route (log : KernelLog kernel world request events)
    (snapshot : IsSnapshot events run) : Route kernel world request events run := by
  refine log.snapshot_induction (motive := Route kernel world request) ?_ ?_ snapshot
  · intro runId requestDigest activation occurredAt run opening
    have accepted : run.state = .accepted := by
      obtain ⟨last, ends, -, state, -⟩ := opening.last
      obtain rfl := Option.some.inj ends
      exact state
    refine ⟨?_, .inl rfl, ?_⟩ <;> rw [accepted] <;> simp [FoundryRunState.designed,
      FoundryRunState.atVersion, FoundryRunState.terminal]
  · intro events inspection transition occurredAt earlier before same justified _ ih
    subst same
    exact justified.route ih before (earlier.identity before)

end OnePersonLab.Evolution.Kernel

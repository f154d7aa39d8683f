import OnePersonLab.Evolution.RunRoute

/-!
# What the snapshot of a run is bound to

Each state of a run needs some of the blueprint, the candidate, the evidence
and the version in its snapshot. `Bindings` says that they are there and what
they lead to; no event leaves a stale digest where a state needs a current one.
-/

namespace OnePersonLab.Evolution.Kernel

open Contract Lib

variable {kernel : FoundryKernel} {world : World} {request : DesignRequest}
  {events : List FoundryRunEvent} {run after : FoundryRunSnapshot}
  {inspection : FoundryRunInspection} {transition : TransitionInput} {occurredAt : String}

/-- The states behind the admission of a blueprint; a run can fail, be
quarantined or be cancelled without one. -/
def FoundryRunState.hasBlueprint : FoundryRunState → Bool
  | .accepted | .designing | .failed | .quarantined | .cancelled => false
  | _ => true

def FoundryRunState.hasCandidate (state : FoundryRunState) : Bool :=
  FoundryRunState.hasBlueprint state && state != .materializing

def FoundryRunState.hasEvidence (state : FoundryRunState) : Bool :=
  FoundryRunState.hasCandidate state && state != .evaluating

/-- The states behind a qualification, up to its end. -/
def FoundryRunState.hasVersion : FoundryRunState → Bool
  | .qualified | .awaitingOwnerCanary | .canary | .awaitingOwnerActive | .activating
  | .completedQualified | .completedActive | .rejected => true
  | _ => false

/-- A registered version of the target of a request. -/
structure TargetVersion (world : World) (request : DesignRequest) (version : AgentVersion) :
    Prop where
  listed : version ∈
    (world.registry.state request.targetAgentId request.targetDomainId).versions
  targetAgentId : version.targetAgentId = request.targetAgentId
  targetDomainId : version.targetDomainId = request.targetDomainId
  wellFormed : isSha256Digest version.versionDigest = true

structure Bindings (kernel : FoundryKernel) (world : World) (request : DesignRequest)
    (run : FoundryRunSnapshot) : Prop where
  blueprint : FoundryRunState.hasBlueprint run.state = true → ∃ digest blueprint,
    run.blueprintDigest = some digest ∧ isSha256Digest digest = true ∧
      world.objects digest = some (.blueprint blueprint)
  graded : FoundryRunState.hasBlueprint run.state = true → run.riskTier.isSome = true
  candidate : FoundryRunState.hasCandidate run.state = true → ∃ candidate recordDigest,
    run.candidateDigest = some candidate.candidateDigest ∧
      run.candidateRecordDigest = some recordDigest ∧
      world.objects recordDigest = some (.candidate candidate) ∧
      foundryContentDigest kernel.platform candidate.toJson = .ok recordDigest ∧
      assertMaterializedCandidate request run candidate = .ok ()
  evidence : FoundryRunState.hasEvidence run.state = true → ∃ digest evidence,
    run.evidenceDigest = some digest ∧ world.objects digest = some (.evidence evidence) ∧
      foundryContentDigest kernel.platform evidence.toJson = .ok digest
  version : FoundryRunState.hasVersion run.state = true → ∃ version,
    run.versionDigest = some version.versionDigest ∧ TargetVersion world request version ∧
      run.blueprintDigest = some version.blueprintDigest ∧
      run.candidateDigest = some version.candidateDigest
  /-- A version of an earlier state is a version of the target still. -/
  earlierVersion : ∀ versionDigest, run.versionDigest = some versionDigest → ∃ version,
    version.versionDigest = versionDigest ∧ TargetVersion world request version

/-! ## One event further -/

/-- The later snapshot is bound to the same blueprint, candidate and version. -/
structure SameBindings (run after : FoundryRunSnapshot) : Prop where
  blueprintDigest : after.blueprintDigest = run.blueprintDigest
  riskTier : after.riskTier = run.riskTier
  candidateDigest : after.candidateDigest = run.candidateDigest
  candidateRecordDigest : after.candidateRecordDigest = run.candidateRecordDigest
  versionDigest : after.versionDigest = run.versionDigest

theorem Bindings.keep (bindings : Bindings kernel world request run)
    (same : SameBindings run after)
    (blueprint : FoundryRunState.hasBlueprint after.state = true →
      FoundryRunState.hasBlueprint run.state = true)
    (candidate : FoundryRunState.hasCandidate after.state = true →
      FoundryRunState.hasCandidate run.state = true)
    (evidence : FoundryRunState.hasEvidence after.state = true → ∃ digest evidence,
      after.evidenceDigest = some digest ∧ world.objects digest = some (.evidence evidence) ∧
        foundryContentDigest kernel.platform evidence.toJson = .ok digest)
    (version : FoundryRunState.hasVersion after.state = true →
      FoundryRunState.hasVersion run.state = true) :
    Bindings kernel world request after where
  blueprint reached := by
    rw [same.blueprintDigest]
    exact bindings.blueprint (blueprint reached)
  graded reached := by
    rw [same.riskTier]
    exact bindings.graded (blueprint reached)
  candidate reached := by
    obtain ⟨admitted, recordDigest, bound, recorded, stored, digest, asserted⟩ :=
      bindings.candidate (candidate reached)
    refine ⟨admitted, recordDigest, same.candidateDigest.trans bound,
      same.candidateRecordDigest.trans recorded, stored, digest, ?_⟩
    simpa only [assertMaterializedCandidate, same.blueprintDigest, same.candidateDigest] using
      asserted
  evidence := evidence
  version reached := by
    rw [same.versionDigest, same.blueprintDigest, same.candidateDigest]
    exact bindings.version (version reached)
  earlierVersion := by
    rw [same.versionDigest]
    exact bindings.earlierVersion

/-- A payload that names no binding. -/
def Unbinding (payload : JsonRecord) : Prop :=
  field? payload "blueprint_digest" = none ∧ field? payload "risk_tier" = none ∧
    field? payload "candidate_digest" = none ∧ field? payload "candidate_record_digest" = none ∧
    field? payload "version_digest" = none

theorem sameBindings_of_unbinding (unbinding : Unbinding transition.payload) :
    SameBindings inspection.run
      (inspection.run.after (transitionEvent kernel inspection transition occurredAt)) := by
  obtain ⟨blueprint, risk, candidate, record, version⟩ := unbinding
  constructor <;> simp [overlayText, overlayRiskTier, blueprint, risk, candidate, record, version]

/-- An event whose payload names none of the digests. -/
theorem Bindings.carry (bindings : Bindings kernel world request inspection.run)
    (unbinding : Unbinding transition.payload)
    (silent : field? transition.payload "evidence_digest" = none)
    (blueprint : FoundryRunState.hasBlueprint transition.toState = true →
      FoundryRunState.hasBlueprint inspection.run.state = true)
    (candidate : FoundryRunState.hasCandidate transition.toState = true →
      FoundryRunState.hasCandidate inspection.run.state = true)
    (evidence : FoundryRunState.hasEvidence transition.toState = true →
      FoundryRunState.hasEvidence inspection.run.state = true)
    (version : FoundryRunState.hasVersion transition.toState = true →
      FoundryRunState.hasVersion inspection.run.state = true) :
    Bindings kernel world request
      (inspection.run.after (transitionEvent kernel inspection transition occurredAt)) := by
  refine bindings.keep (sameBindings_of_unbinding unbinding) blueprint candidate
    (fun reached => ?_) version
  rw [after_evidenceDigest, overlayText, silent]
  exact bindings.evidence (evidence reached)

/-- An event that ends the run wherever it stands. -/
theorem Bindings.abandon (bindings : Bindings kernel world request inspection.run)
    (unbinding : Unbinding transition.payload)
    (silent : field? transition.payload "evidence_digest" = none)
    (abandons : FoundryRunState.hasBlueprint transition.toState = false)
    (unversioned : FoundryRunState.hasVersion transition.toState = false) :
    Bindings kernel world request
      (inspection.run.after (transitionEvent kernel inspection transition occurredAt)) := by
  refine bindings.carry unbinding silent ?_ ?_ ?_ ?_ <;>
    simp [FoundryRunState.hasEvidence, FoundryRunState.hasCandidate, abandons, unversioned]

/-- An event that records evidence of the candidate. -/
theorem Bindings.evaluated (bindings : Bindings kernel world request inspection.run)
    {subject : EvaluationSubject} {journaled : JournaledEvidence}
    (evaluated : Evaluated kernel world inspection subject journaled)
    (unbinding : Unbinding transition.payload)
    (records : field? transition.payload "evidence_digest" =
      some (.string journaled.result.evidenceDigest))
    (state : FoundryRunState.hasCandidate inspection.run.state = true)
    (version : FoundryRunState.hasVersion transition.toState = true →
      FoundryRunState.hasVersion inspection.run.state = true) :
    Bindings kernel world request
      (inspection.run.after (transitionEvent kernel inspection transition occurredAt)) := by
  have designed : FoundryRunState.hasBlueprint inspection.run.state = true :=
    (Bool.and_eq_true_iff.1 state).1
  refine bindings.keep (sameBindings_of_unbinding unbinding) (fun _ => designed) (fun _ => state)
    (fun _ => ⟨_, journaled.evidence, ?_, evaluated.stored, evaluated.digest⟩) version
  simp [overlayText, records, Json.asString?]

theorem unbinding_evidencePayload (journaled : JournaledEvidence) (rest : JsonRecord)
    (unbinding : Unbinding rest) :
    Unbinding (evidencePayload journaled.result journaled.evidence ++ rest) := by
  simpa [Unbinding, evidencePayload, field?_cons] using unbinding

theorem unbinding_evaluationRejected (canary : Bool) (journaled : JournaledEvidence) :
    Unbinding (evaluationRejected inspection canary journaled).payload := by
  simp only [evaluationRejected, List.append_assoc]
  refine unbinding_evidencePayload journaled _ ?_
  cases canary <;> simp [Unbinding, field?_cons]

theorem Bindings.blueprintAdmitted (bindings : Bindings kernel world request inspection.run)
    {blueprint : AgentBlueprint} {blueprintDigest : String} {previous : Option AgentBlueprint}
    (stored : world.objects blueprintDigest = some (.blueprint blueprint))
    (wellFormed : isSha256Digest blueprintDigest = true)
    (admitted : blueprintAdmitted kernel inspection.run blueprintDigest previous blueprint =
      .ok transition) :
    Bindings kernel world request
      (inspection.run.after (transitionEvent kernel inspection transition occurredAt)) := by
  obtain ⟨-, toState, named, risk, -⟩ := blueprintAdmitted_eq_ok admitted
  have unversioned := (blueprintAdmitted_silent admitted).1
  refine ⟨fun _ => ⟨blueprintDigest, blueprint, ?_, wellFormed, stored⟩, fun _ => ?_, ?_, ?_, ?_, ?_⟩
  · simp [overlayText, named, Json.asString?]
  · simp [overlayRiskTier, risk, Json.asString?, ofText?_text]
  · simp [toState, FoundryRunState.hasCandidate]
  · simp [toState, FoundryRunState.hasEvidence, FoundryRunState.hasCandidate]
  · simp [toState, FoundryRunState.hasVersion]
  · rw [after_versionDigest, overlayText, unversioned]
    exact bindings.earlierVersion

theorem bindings_proposalAdmitted {blueprint : AgentBlueprint} {proposal : EvolutionProposal}
    {nextDigest : String} (proposalDigest : String)
    (stored : world.objects nextDigest = some (.blueprint proposal.nextBlueprint))
    (wellFormed : isSha256Digest nextDigest = true) :
    Bindings kernel world request (inspection.run.after (transitionEvent kernel inspection
      (proposalAdmitted inspection.run blueprint proposal proposalDigest nextDigest)
      occurredAt)) := by
  refine ⟨fun _ => ⟨nextDigest, proposal.nextBlueprint, ?_, wellFormed, stored⟩, fun _ => ?_,
    ?_, ?_, ?_, ?_⟩
  · simp [proposalAdmitted, overlayText, field?_cons, Json.asString?]
  · simp [proposalAdmitted, overlayRiskTier, field?_cons, Json.asString?, ofText?_text]
  · simp [proposalAdmitted, FoundryRunState.hasCandidate]
  · simp [proposalAdmitted, FoundryRunState.hasEvidence, FoundryRunState.hasCandidate]
  · simp [proposalAdmitted, FoundryRunState.hasVersion]
  · simp [proposalAdmitted, overlayText, field?_cons, Json.asString?]

theorem Bindings.candidateMaterialized (bindings : Bindings kernel world inspection.request
      inspection.run) {candidate : MaterializedCandidate} {recordDigest : String}
    (state : inspection.run.state = .materializing)
    (stored : world.objects recordDigest = some (.candidate candidate))
    (digest : foundryContentDigest kernel.platform candidate.toJson = .ok recordDigest)
    (asserted : assertMaterializedCandidate inspection.request inspection.run candidate = .ok ()) :
    Bindings kernel world inspection.request (inspection.run.after (transitionEvent kernel inspection
      (candidateMaterialized inspection.run candidate recordDigest) occurredAt)) := by
  have designed : FoundryRunState.hasBlueprint inspection.run.state = true := by rw [state]; rfl
  have same : overlayText (Kernel.candidateMaterialized inspection.run candidate recordDigest).payload
      "blueprint_digest" inspection.run.blueprintDigest = inspection.run.blueprintDigest := by
    simp [Kernel.candidateMaterialized, overlayText, field?_cons]
  refine ⟨fun _ => ?_, fun _ => ?_, fun _ => ⟨candidate, recordDigest, ?_, ?_, stored, digest, ?_⟩,
    ?_, ?_, ?_⟩
  · rw [after_blueprintDigest, same]
    exact bindings.blueprint designed
  · simpa [Kernel.candidateMaterialized, overlayRiskTier, field?_cons] using bindings.graded designed
  · simp [Kernel.candidateMaterialized, overlayText, Json.asString?]
  · simp [Kernel.candidateMaterialized, overlayText, field?_cons, Json.asString?]
  · obtain ⟨agent, domain, blueprint, -, solid⟩ := ensure_eq_ok.1 asserted
    refine ensure_eq_ok.2 ⟨agent, domain, ?_, .inr ?_, solid⟩
    · rw [after_blueprintDigest, same, blueprint]
    · simp [Kernel.candidateMaterialized, overlayText, Json.asString?]
  · simp [Kernel.candidateMaterialized, FoundryRunState.hasEvidence]
  · simp [Kernel.candidateMaterialized, FoundryRunState.hasVersion]
  · simpa [Kernel.candidateMaterialized, overlayText, field?_cons] using bindings.earlierVersion

theorem Bindings.candidateQualified (bindings : Bindings kernel world inspection.request
      inspection.run) {subject : EvaluationSubject} {journaled : JournaledEvidence}
    {version : AgentVersion} (state : inspection.run.state = .evaluating)
    (evaluated : Evaluated kernel world inspection subject journaled)
    (registered : Registered world inspection version) :
    Bindings kernel world inspection.request (inspection.run.after (transitionEvent kernel inspection
      (candidateQualified journaled version) occurredAt)) := by
  have admitted : FoundryRunState.hasCandidate inspection.run.state = true := by rw [state]; rfl
  have designed : FoundryRunState.hasBlueprint inspection.run.state = true := by rw [state]; rfl
  have ofTarget : TargetVersion world inspection.request version :=
    ⟨registered.listed, registered.targetAgentId, registered.targetDomainId, registered.wellFormed⟩
  refine ⟨fun _ => ?_, fun _ => ?_, fun _ => ?_, fun _ => ⟨journaled.result.evidenceDigest,
    journaled.evidence, ?_, evaluated.stored, evaluated.digest⟩, fun _ => ⟨version, ?_, ofTarget, ?_,
    ?_⟩, fun versionDigest named => ⟨version, ?_, ofTarget⟩⟩
  · simpa [Kernel.candidateQualified, evidencePayload, overlayText, field?_cons] using
      bindings.blueprint designed
  · simpa [Kernel.candidateQualified, evidencePayload, overlayRiskTier, field?_cons] using
      bindings.graded designed
  · simpa [Kernel.candidateQualified, evidencePayload, overlayText, field?_cons,
      assertMaterializedCandidate] using bindings.candidate admitted
  · simp [Kernel.candidateQualified, evidencePayload, overlayText, Json.asString?]
  · simp [Kernel.candidateQualified, evidencePayload, overlayText, field?_cons, Json.asString?]
  · simpa [Kernel.candidateQualified, evidencePayload, overlayText, field?_cons] using
      registered.blueprint
  · simpa [Kernel.candidateQualified, evidencePayload, overlayText, field?_cons] using
      registered.candidate
  · simpa [Kernel.candidateQualified, evidencePayload, overlayText, field?_cons,
      Json.asString?] using named

theorem unbinding_ownerVerificationPayload (verification : OwnerGateVerification) :
    Unbinding (ownerVerificationPayload verification) ∧
      field? (ownerVerificationPayload verification) "evidence_digest" = none := by
  simp [Unbinding, ownerVerificationPayload, field?_cons]

theorem unbinding_failurePayload (failureCode failureMessage : String) :
    Unbinding (failurePayload failureCode failureMessage) ∧
      field? (failurePayload failureCode failureMessage) "evidence_digest" = none := by
  simp [Unbinding, failurePayload, field?_cons]

theorem unbinding_activationCompleted (run : FoundryRunSnapshot) (result : ActivationResult)
    (authority : Option OwnerAuthority) :
    Unbinding (activationCompleted run result authority).payload ∧
      field? (activationCompleted run result authority).payload "evidence_digest" = none := by
  cases authority <;> simp [Unbinding, activationCompleted, field?_cons]

/-- Where a qualified run goes it has its version, and its payload names nothing. -/
theorem qualificationRouted_spec (inspection : FoundryRunInspection) :
    (qualificationRouted inspection).payload = [] ∧
      FoundryRunState.hasVersion (qualificationRouted inspection).toState = true := by
  unfold qualificationRouted
  split
  · exact ⟨rfl, rfl⟩
  · split <;> exact ⟨rfl, rfl⟩

theorem Bindings.qualificationRouted (bindings : Bindings kernel world request inspection.run)
    (state : inspection.run.state = .qualified) :
    Bindings kernel world request (inspection.run.after (transitionEvent kernel inspection
      (qualificationRouted inspection) occurredAt)) := by
  obtain ⟨silent, -⟩ := qualificationRouted_spec inspection
  refine bindings.carry ?_ ?_ ?_ ?_ ?_ ?_ <;> simp [silent, state, Unbinding,
    FoundryRunState.hasBlueprint, FoundryRunState.hasCandidate, FoundryRunState.hasEvidence,
    FoundryRunState.hasVersion]

/-- Every event that the kernel appends keeps the snapshot bound. -/
theorem Justified.bindings (justified : Justified kernel world inspection transition)
    (bindings : Bindings kernel world inspection.request inspection.run) :
    Bindings kernel world inspection.request
      (inspection.run.after (transitionEvent kernel inspection transition occurredAt)) := by
  cases justified with
  | designStarted state => exact bindings.abandon (by simp [Unbinding]) rfl rfl rfl
  | blueprintAdmitted _ stored wellFormed _ _ admitted =>
    exact bindings.blueprintAdmitted stored wellFormed admitted
  | candidateMaterialized candidate recordDigest state stored digest asserted =>
    exact bindings.candidateMaterialized state stored digest asserted
  | candidateQualified state evaluated _ registered =>
    exact bindings.candidateQualified state evaluated registered
  | @canaryPassed _ journaled state evaluated =>
    refine bindings.evaluated evaluated ?_ rfl ?_ fun _ => ?_
    · simpa [Kernel.canaryPassed] using
        unbinding_evidencePayload journaled [] (by simp [Unbinding])
    all_goals rw [state]; rfl
  | @evaluationRejected _ journaled canary state evaluated =>
    refine bindings.evaluated evaluated (unbinding_evaluationRejected canary journaled) rfl ?_ ?_
    · rw [state]; cases canary <;> rfl
    · unfold Kernel.evaluationRejected
      split <;> rintro ⟨⟩
  | diagnosisStarted state =>
    refine bindings.carry (by simp [Unbinding]) rfl ?_ ?_ ?_ (by rintro ⟨⟩) <;> rw [state] <;>
      exact fun _ => rfl
  | evolutionNoChange proposalDigest state =>
    refine bindings.carry (by simp [Unbinding, Kernel.evolutionNoChange, field?_cons])
      (by simp [Kernel.evolutionNoChange, field?_cons]) ?_ ?_ ?_ (by rintro ⟨⟩) <;> rw [state] <;>
      exact fun _ => rfl
  | proposalAdmitted proposalDigest _ _ _ stored wellFormed =>
    exact bindings_proposalAdmitted proposalDigest stored wellFormed
  | qualificationRouted state => exact bindings.qualificationRouted state
  | @ownerDecided canary decision _ _ verification state =>
    obtain ⟨unbinding, silent⟩ := unbinding_ownerVerificationPayload verification
    refine bindings.carry unbinding silent ?_ ?_ ?_ ?_ <;> rw [state] <;> cases canary <;>
      exact fun _ => rfl
  | activationCompleted result authority state =>
    obtain ⟨unbinding, silent⟩ :=
      unbinding_activationCompleted inspection.run result authority
    refine bindings.carry unbinding silent ?_ ?_ ?_ ?_ <;> rw [state] <;> exact fun _ => rfl
  | @runCancelled _ verification _ =>
    obtain ⟨unbinding, silent⟩ := unbinding_ownerVerificationPayload verification
    exact bindings.abandon unbinding silent rfl rfl
  | quarantined inputDigest failure =>
    obtain ⟨unbinding, silent⟩ := unbinding_failurePayload failure.code failure.message
    exact bindings.abandon unbinding silent rfl rfl
  | failed inputDigest failureCode failureMessage =>
    obtain ⟨unbinding, silent⟩ := unbinding_failurePayload failureCode failureMessage
    exact bindings.abandon unbinding silent rfl rfl

/-- The snapshot of every log that the kernel writes is bound to what its state needs. -/
theorem KernelLog.bindings (log : KernelLog kernel world request events)
    (snapshot : IsSnapshot events run) : Bindings kernel world request run := by
  refine log.snapshot_induction (motive := fun _ => Bindings kernel world request) ?_ ?_ snapshot
  · intro runId requestDigest activation occurredAt run opening
    obtain ⟨first, last, starts, ends, rfl⟩ := opening
    obtain rfl := Option.some.inj starts
    obtain rfl := Option.some.inj ends
    refine ⟨nofun, nofun, nofun, nofun, nofun, fun versionDigest named => ?_⟩
    simp [snapshotBetween, accumulatedPayload, acceptanceEvent, acceptanceInput, sealEvent,
      textField?, field?_cons] at named
  · intro events inspection transition occurredAt _ _ same justified _ ih
    subst same
    exact justified.bindings ih

end OnePersonLab.Evolution.Kernel

import OnePersonLab.Evolution.Kernel
import OnePersonLab.Evolution.RegistryHistory
import OnePersonLab.Evolution.RunLog

/-!
# What the kernel writes

`Justified` has one constructor for each place where the kernel appends an
event, with what the kernel knows there. `KernelLog` are the logs that consist
of justified events, and `KernelInvariant` says that every log of the event
store is one and that every activation comes from a run under activation. All
of it only looks at what the stores keep for good, so it survives as they grow.
-/

namespace OnePersonLab.Evolution.Kernel

open Contract Lib

/-! ## Growing stores -/

structure World.Extends (world after : World) : Prop where
  objects : ∀ {digest value}, world.objects digest = some value →
    after.objects digest = some value
  runs : ∀ {runId log}, world.events.runs runId = some log →
    ∃ longer, after.events.runs runId = some longer ∧ log <+: longer
  versions : ∀ targetAgentId targetDomainId,
    (world.registry.state targetAgentId targetDomainId).versions <+:
      (after.registry.state targetAgentId targetDomainId).versions
  transactions : ∀ targetAgentId targetDomainId,
    (world.registry.state targetAgentId targetDomainId).transactions <+:
      (after.registry.state targetAgentId targetDomainId).transactions
  verifications : world.verifications <+: after.verifications

theorem World.Extends.refl (world : World) : world.Extends world :=
  ⟨id, fun recorded => ⟨_, recorded, List.prefix_refl _⟩, fun _ _ => List.prefix_refl _,
    fun _ _ => List.prefix_refl _, List.prefix_refl _⟩

theorem World.Extends.trans {first second third : World} (early : first.Extends second)
    (late : second.Extends third) : first.Extends third where
  objects stored := late.objects (early.objects stored)
  runs recorded := by
    obtain ⟨longer, recorded', grown⟩ := early.runs recorded
    obtain ⟨longest, recorded'', grown'⟩ := late.runs recorded'
    exact ⟨longest, recorded'', grown.trans grown'⟩
  versions targetAgentId targetDomainId :=
    (early.versions targetAgentId targetDomainId).trans (late.versions targetAgentId targetDomainId)
  transactions targetAgentId targetDomainId :=
    (early.transactions targetAgentId targetDomainId).trans
      (late.transactions targetAgentId targetDomainId)
  verifications := early.verifications.trans late.verifications

/-- The version under a digest of a target. -/
def World.versionOf (world : World) (targetAgentId targetDomainId versionDigest : String) :
    Option AgentVersion :=
  (world.registry.state targetAgentId targetDomainId).versionOf versionDigest

theorem World.Extends.versionOf {world after : World} (grown : world.Extends after)
    {targetAgentId targetDomainId versionDigest : String} {version : AgentVersion}
    (found : world.versionOf targetAgentId targetDomainId versionDigest = some version) :
    after.versionOf targetAgentId targetDomainId versionDigest = some version := by
  obtain ⟨more, longer⟩ := grown.versions targetAgentId targetDomainId
  simp only [World.versionOf, RegistryState.versionOf, ← longer, List.find?_append] at found ⊢
  rw [found, Option.some_or]

/-! ## What an inspection knows -/

/-- The events are recorded and the inspection was made of them. -/
structure Inspected (world : World) (events : List FoundryRunEvent)
    (inspection : FoundryRunInspection) : Prop where
  recorded : ∃ log, world.events.runs inspection.run.runId = some log ∧ events <+: log
  snapshot : IsSnapshot events inspection.run
  request : world.objects inspection.run.requestDigest = some (.request inspection.request)
  version : ∀ versionDigest ∈ present inspection.run.versionDigest, ∃ version,
    world.versionOf inspection.run.targetAgentId inspection.run.targetDomainId versionDigest =
        some version ∧
      version.targetAgentId = inspection.run.targetAgentId ∧
      version.targetDomainId = inspection.run.targetDomainId

theorem Inspected.extend {world after : World} {events : List FoundryRunEvent}
    {inspection : FoundryRunInspection} (inspected : Inspected world events inspection)
    (grown : world.Extends after) : Inspected after events inspection where
  recorded := by
    obtain ⟨log, recorded, earlier⟩ := inspected.recorded
    obtain ⟨longer, recorded', longerThan⟩ := grown.runs recorded
    exact ⟨longer, recorded', earlier.trans longerThan⟩
  snapshot := inspected.snapshot
  request := grown.objects inspected.request
  version := by
    intro versionDigest named
    obtain ⟨version, found, identity⟩ := inspected.version versionDigest named
    exact ⟨version, grown.versionOf found, identity⟩

/-- The version that a request names is registered. -/
def BaselineKnown (world : World) (request : DesignRequest) : Prop :=
  ∀ ref, request.targetVersionRef = some ref → ref ≠ "" ∧
    ∃ version, world.versionOf request.targetAgentId request.targetDomainId ref = some version

theorem BaselineKnown.extend {world after : World} {request : DesignRequest}
    (known : BaselineKnown world request) (grown : world.Extends after) :
    BaselineKnown after request := by
  intro ref named
  obtain ⟨solid, version, found⟩ := known ref named
  exact ⟨solid, version, grown.versionOf found⟩

/-- The blueprint of the version that a request starts from, or none. -/
def BaselineBlueprint (world : World) (request : DesignRequest)
    (previous : Option AgentBlueprint) : Prop :=
  match request.targetVersionRef with
  | none => previous = none
  | some ref => ∃ version blueprint,
    world.versionOf request.targetAgentId request.targetDomainId ref = some version ∧
      world.objects version.blueprintDigest = some (.blueprint blueprint) ∧
      previous = some blueprint

theorem BaselineBlueprint.extend {world after : World} {request : DesignRequest}
    {previous : Option AgentBlueprint} (baseline : BaselineBlueprint world request previous)
    (grown : world.Extends after) : BaselineBlueprint after request previous := by
  unfold BaselineBlueprint at baseline ⊢
  split at baseline
  · exact baseline
  · obtain ⟨version, blueprint, found, stored, same⟩ := baseline
    exact ⟨version, blueprint, grown.versionOf found, grown.objects stored, same⟩

/-- Evidence that the kernel stored and accepted for the blueprint of the run. -/
structure Evaluated (kernel : FoundryKernel) (world : World) (inspection : FoundryRunInspection)
    (subject : EvaluationSubject) (journaled : JournaledEvidence) : Prop where
  blueprint : ∃ digest, inspection.run.blueprintDigest = some digest ∧
    world.objects digest = some (.blueprint subject.blueprint)
  stored : world.objects journaled.result.evidenceDigest = some (.evidence journaled.evidence)
  digest : foundryContentDigest kernel.platform journaled.evidence.toJson =
    .ok journaled.result.evidenceDigest
  asserted : ∃ facts, assertEvaluationEvidence kernel.platform
    (subject.evidenceContext kernel inspection) journaled.evidence = .ok facts

theorem Evaluated.extend {kernel : FoundryKernel} {world after : World}
    {inspection : FoundryRunInspection} {subject : EvaluationSubject}
    {journaled : JournaledEvidence}
    (evaluated : Evaluated kernel world inspection subject journaled)
    (grown : world.Extends after) : Evaluated kernel after inspection subject journaled where
  blueprint := by
    obtain ⟨digest, current, stored⟩ := evaluated.blueprint
    exact ⟨digest, current, grown.objects stored⟩
  stored := grown.objects evaluated.stored
  digest := evaluated.digest
  asserted := evaluated.asserted

/-- The version under canary is the run's, and its candidate is the subject's. -/
def UnderCanary (world : World) (inspection : FoundryRunInspection)
    (subject : EvaluationSubject) : Prop :=
  ∃ versionDigest version, inspection.run.versionDigest = some versionDigest ∧
    world.versionOf inspection.request.targetAgentId inspection.request.targetDomainId
      versionDigest = some version ∧ bindsCandidate version subject.candidate

/-- A verification that the owner gate gave for a requested mutation. -/
def Verifies (platform : Platform) (world : World) (value : OwnerGateVerificationContext)
    (verification : OwnerGateVerification) : Prop :=
  ∃ context answer, answer ∈ world.verifications ∧
    validateOwnerGateVerificationContext value = .ok context ∧
    validateOwnerGateVerification platform context answer = .ok verification

theorem Verifies.extend {platform : Platform} {world after : World}
    {value : OwnerGateVerificationContext} {verification : OwnerGateVerification}
    (verifies : Verifies platform world value verification) (grown : world.Extends after) :
    Verifies platform after value verification := by
  obtain ⟨context, answer, given, checked⟩ := verifies
  exact ⟨context, answer, grown.verifications.subset given, checked⟩

/-- The mutation that a decision on a run asks its owner for. -/
def decisionContext (inspection : FoundryRunInspection) (canary : Bool) (decision : OwnerVerdict)
    (authorityReceiptRef versionDigest : String) : OwnerGateVerificationContext where
  authorityReceiptRef := authorityReceiptRef
  action := ownerDecisionAction canary decision
  decision := decision.decision
  targetAgentId := inspection.request.targetAgentId
  targetDomainId := inspection.request.targetDomainId
  runId := some inspection.run.runId
  versionDigest := some versionDigest
  expectedRevision := inspection.run.revision

/-- The mutation that a cancellation asks the owner for. -/
def cancelContext (inspection : FoundryRunInspection) (authorityReceiptRef : String) :
    OwnerGateVerificationContext where
  authorityReceiptRef := authorityReceiptRef
  action := .cancel
  decision := .cancel
  targetAgentId := inspection.request.targetAgentId
  targetDomainId := inspection.request.targetDomainId
  runId := some inspection.run.runId
  versionDigest := inspection.run.versionDigest
  expectedRevision := inspection.run.revision

/-- The mutation that a rollback asks the owner for. -/
def rollbackContext (input : ActivationInput) (authorityReceiptRef : String) :
    OwnerGateVerificationContext where
  authorityReceiptRef := authorityReceiptRef
  action := .rollback
  decision := .rollback
  targetAgentId := input.targetAgentId
  targetDomainId := input.targetDomainId
  runId := none
  versionDigest := some input.versionDigest
  expectedRevision := input.expectedRevision

/-- A version registered for the blueprint and the candidate of the run. -/
structure Registered (world : World) (inspection : FoundryRunInspection) (version : AgentVersion) :
    Prop where
  listed : version ∈ (world.registry.state inspection.request.targetAgentId
    inspection.request.targetDomainId).versions
  targetAgentId : version.targetAgentId = inspection.request.targetAgentId
  targetDomainId : version.targetDomainId = inspection.request.targetDomainId
  blueprint : inspection.run.blueprintDigest = some version.blueprintDigest
  candidate : inspection.run.candidateDigest = some version.candidateDigest
  wellFormed : isSha256Digest version.versionDigest = true

theorem Registered.extend {world after : World} {inspection : FoundryRunInspection}
    {version : AgentVersion} (registered : Registered world inspection version)
    (grown : world.Extends after) : Registered after inspection version :=
  { registered with listed := (grown.versions _ _).subset registered.listed }

/-- The result of an activation that a run records. -/
structure Completes (world : World) (inspection : FoundryRunInspection) (result : ActivationResult)
    (authority : Option OwnerAuthority) : Prop where
  recorded : ∃ entry ∈ (world.registry.state inspection.request.targetAgentId
    inspection.request.targetDomainId).transactions,
      entry.toActivationTransaction = result.transaction
  version : inspection.run.versionDigest = some result.transaction.toVersionDigest
  targetAgentId : result.transaction.targetAgentId = inspection.run.targetAgentId
  targetDomainId : result.transaction.targetDomainId = inspection.run.targetDomainId
  verification : result.transaction.runtimeBindingVerification =
    buildRuntimeBindingVerification result.runtimePreflight
  pure : scanForbidden result.transaction.runtimeBindingVerification.toJson [] = []
  receipt : result.transaction.authorityReceiptRef = authority.map OwnerAuthority.ref
  /-- The authority was read from the log after the inspection. -/
  authority : ∃ log later, world.events.runs inspection.run.runId = some log ∧ later <+: log ∧
    inspection.run.revision ≤ later.length ∧ latestOwnerAuthority later = .ok authority

theorem Completes.extend {world after : World} {inspection : FoundryRunInspection}
    {result : ActivationResult} {authority : Option OwnerAuthority}
    (completes : Completes world inspection result authority) (grown : world.Extends after) :
    Completes after inspection result authority where
  recorded := by
    obtain ⟨entry, listed, same⟩ := completes.recorded
    exact ⟨entry, (grown.transactions _ _).subset listed, same⟩
  version := completes.version
  targetAgentId := completes.targetAgentId
  targetDomainId := completes.targetDomainId
  verification := completes.verification
  pure := completes.pure
  receipt := completes.receipt
  authority := by
    obtain ⟨log, later, recorded, within, enough, read⟩ := completes.authority
    obtain ⟨longer, recorded', longerThan⟩ := grown.runs recorded
    exact ⟨longer, later, recorded', within.trans longerThan, enough, read⟩

/-! ## Justified events -/

inductive Justified (kernel : FoundryKernel) (world : World) (inspection : FoundryRunInspection) :
    TransitionInput → Prop where
  | designStarted : inspection.run.state = .accepted →
    Justified kernel world inspection {
      eventType := "design_started"
      toState := .designing
      phase := "design"
      inputDigest := inspection.run.requestDigest }
  | blueprintAdmitted {blueprint : AgentBlueprint} {blueprintDigest : String}
    {previous : Option AgentBlueprint} {transition : TransitionInput} :
    inspection.run.state = .designing →
    world.objects blueprintDigest = some (.blueprint blueprint) →
    isSha256Digest blueprintDigest = true →
    blueprint.generation = 0 →
    BaselineBlueprint world inspection.request previous →
    blueprintAdmitted kernel inspection.run blueprintDigest previous blueprint = .ok transition →
    Justified kernel world inspection transition
  | candidateMaterialized (candidate : MaterializedCandidate) (recordDigest : String) :
    inspection.run.state = .materializing →
    world.objects recordDigest = some (.candidate candidate) →
    foundryContentDigest kernel.platform candidate.toJson = .ok recordDigest →
    assertMaterializedCandidate inspection.request inspection.run candidate = .ok () →
    Justified kernel world inspection
      (candidateMaterialized inspection.run candidate recordDigest)
  | candidateQualified {subject : EvaluationSubject} {journaled : JournaledEvidence}
    {version : AgentVersion} : inspection.run.state = .evaluating →
    Evaluated kernel world inspection subject journaled →
    journaled.evidence.qualified = true →
    Registered world inspection version →
    Justified kernel world inspection (candidateQualified journaled version)
  | canaryPassed {subject : EvaluationSubject} {journaled : JournaledEvidence} :
    inspection.run.state = .canary →
    Evaluated kernel world inspection subject journaled →
    journaled.evidence.qualified = true →
    UnderCanary world inspection subject →
    Justified kernel world inspection (canaryPassed inspection.run journaled)
  | evaluationRejected {subject : EvaluationSubject} {journaled : JournaledEvidence}
    {canary : Bool} :
    inspection.run.state = (if canary then .canary else .evaluating) →
    Evaluated kernel world inspection subject journaled →
    Justified kernel world inspection (evaluationRejected inspection canary journaled)
  | diagnosisStarted : inspection.run.state = .evidenceReady →
    Justified kernel world inspection {
      eventType := "diagnosis_started"
      toState := .diagnosing
      phase := "diagnose"
      inputDigest := inspection.run.evidenceDigest.getD inspection.run.lastEventHash }
  | evolutionNoChange (proposalDigest : String) : inspection.run.state = .diagnosing →
    Justified kernel world inspection (evolutionNoChange inspection.run proposalDigest)
  | proposalAdmitted {blueprint : AgentBlueprint} {blueprintDigest : String}
    {proposal : EvolutionProposal} {nextDigest : String} (proposalDigest : String) :
    inspection.run.state = .diagnosing →
    inspection.run.blueprintDigest = some blueprintDigest →
    world.objects blueprintDigest = some (.blueprint blueprint) →
    world.objects nextDigest = some (.blueprint proposal.nextBlueprint) →
    isSha256Digest nextDigest = true →
    assertEvaluationPolicyNonWeakening blueprint proposal.nextBlueprint = .ok () →
    proposal.nextBlueprint.generation = inspection.run.generation + 1 →
    Justified kernel world inspection
      (proposalAdmitted inspection.run blueprint proposal proposalDigest nextDigest)
  | qualificationRouted : inspection.run.state = .qualified →
    Justified kernel world inspection (qualificationRouted inspection)
  | ownerDecided {canary : Bool} {decision : OwnerVerdict} {authorityReceiptRef versionDigest : String}
    {verification : OwnerGateVerification} :
    inspection.run.state = (if canary then .awaitingOwnerCanary else .awaitingOwnerActive) →
    inspection.run.versionDigest = some versionDigest →
    Verifies kernel.platform world
      (decisionContext inspection canary decision authorityReceiptRef versionDigest) verification →
    Justified kernel world inspection (ownerDecided canary decision verification)
  | activationCompleted (result : ActivationResult) (authority : Option OwnerAuthority) :
    inspection.run.state = .activating →
    Completes world inspection result authority →
    Justified kernel world inspection (activationCompleted inspection.run result authority)
  | runCancelled {authorityReceiptRef : String} {verification : OwnerGateVerification} :
    Verifies kernel.platform world (cancelContext inspection authorityReceiptRef) verification →
    Justified kernel world inspection (runCancelled verification)
  | quarantined (inputDigest : String) (failure : Failure) :
    Justified kernel world inspection (quarantinedTransition inputDigest failure)
  | failed (inputDigest failureCode failureMessage : String) :
    Justified kernel world inspection (failedTransition inputDigest failureCode failureMessage)

theorem Justified.extend {kernel : FoundryKernel} {world after : World}
    {inspection : FoundryRunInspection} {transition : TransitionInput}
    (justified : Justified kernel world inspection transition) (grown : world.Extends after) :
    Justified kernel after inspection transition := by
  cases justified with
  | designStarted state => exact .designStarted state
  | blueprintAdmitted state stored wellFormed initial baseline admitted =>
    exact .blueprintAdmitted state (grown.objects stored) wellFormed initial (baseline.extend grown)
      admitted
  | candidateMaterialized candidate recordDigest state stored digest asserted =>
    exact .candidateMaterialized candidate recordDigest state (grown.objects stored) digest asserted
  | candidateQualified state evaluated qualified registered =>
    exact .candidateQualified state (evaluated.extend grown) qualified (registered.extend grown)
  | canaryPassed state evaluated qualified canary =>
    obtain ⟨versionDigest, version, current, found, bound⟩ := canary
    exact .canaryPassed state (evaluated.extend grown) qualified
      ⟨versionDigest, version, current, grown.versionOf found, bound⟩
  | evaluationRejected state evaluated => exact .evaluationRejected state (evaluated.extend grown)
  | diagnosisStarted state => exact .diagnosisStarted state
  | evolutionNoChange proposalDigest state => exact .evolutionNoChange proposalDigest state
  | proposalAdmitted proposalDigest state current stored next wellFormed kept increments =>
    exact .proposalAdmitted proposalDigest state current (grown.objects stored)
      (grown.objects next) wellFormed kept increments
  | qualificationRouted state => exact .qualificationRouted state
  | ownerDecided state current verifies =>
    exact .ownerDecided state current (verifies.extend grown)
  | activationCompleted result authority state completes =>
    exact .activationCompleted result authority state (completes.extend grown)
  | runCancelled verifies => exact .runCancelled (verifies.extend grown)
  | quarantined inputDigest failure => exact .quarantined inputDigest failure
  | failed inputDigest failureCode failureMessage =>
    exact .failed inputDigest failureCode failureMessage

/-- The event of a transition, built at the snapshot of an inspection. -/
def transitionEvent (kernel : FoundryKernel) (inspection : FoundryRunInspection)
    (transition : TransitionInput) (occurredAt : String) : FoundryRunEvent :=
  sealEvent kernel.platform (transitionEventInput inspection.run transition occurredAt)

/-- The event that accepts a run. -/
def acceptanceEvent (kernel : FoundryKernel) (runId : String) (request : DesignRequest)
    (requestDigest : String) (activation : ActivationPointer) (occurredAt : String) :
    FoundryRunEvent :=
  sealEvent kernel.platform (acceptanceInput runId request requestDigest activation occurredAt)

/-- What the kernel knows of a request that it accepts a run for. -/
structure Admitted (world : World) (runId : String) (request : DesignRequest)
    (requestDigest : String) : Prop where
  named : trim runId = runId
  valid : ∃ value, validateDesignRequest value = .ok request
  pure : scanForbidden request.toJson [] = []
  stored : world.objects requestDigest = some (.request request)
  baseline : BaselineKnown world request

theorem Admitted.extend {world after : World} {runId requestDigest : String}
    {request : DesignRequest} (admitted : Admitted world runId request requestDigest)
    (grown : world.Extends after) : Admitted after runId request requestDigest :=
  { admitted with
    stored := grown.objects admitted.stored
    baseline := admitted.baseline.extend grown }

/-- The logs that the kernel writes for a request. -/
inductive KernelLog (kernel : FoundryKernel) (world : World) (request : DesignRequest) :
    List FoundryRunEvent → Prop where
  | accepted {runId requestDigest : String} {activation : ActivationPointer}
    {occurredAt : String} : Admitted world runId request requestDigest →
    EventFollows kernel.platform []
      (acceptanceEvent kernel runId request requestDigest activation occurredAt) →
    KernelLog kernel world request
      [acceptanceEvent kernel runId request requestDigest activation occurredAt]
  | appended {events : List FoundryRunEvent} {inspection : FoundryRunInspection}
    {transition : TransitionInput} {occurredAt : String} :
    KernelLog kernel world request events →
    IsSnapshot events inspection.run → inspection.request = request →
    Justified kernel world inspection transition →
    EventFollows kernel.platform events (transitionEvent kernel inspection transition occurredAt) →
    KernelLog kernel world request
      (events ++ [transitionEvent kernel inspection transition occurredAt])

section KernelLog

variable {kernel : FoundryKernel} {world after : World} {request : DesignRequest}
  {events : List FoundryRunEvent}

theorem KernelLog.extend (log : KernelLog kernel world request events)
    (grown : world.Extends after) : KernelLog kernel after request events := by
  induction log with
  | accepted admitted follows => exact .accepted (admitted.extend grown) follows
  | appended _ snapshot same justified follows ih =>
    exact .appended ih snapshot same (justified.extend grown) follows

theorem KernelLog.of_prefix {earlier : List FoundryRunEvent}
    (log : KernelLog kernel world request events) (within : earlier <+: events)
    (inhabited : earlier ≠ []) : KernelLog kernel world request earlier := by
  induction log with
  | accepted admitted follows =>
    obtain rfl := (List.prefix_concat_iff.1 within).resolve_right
      fun shorter => inhabited (List.prefix_nil.1 shorter)
    exact .accepted admitted follows
  | appended log snapshot same justified follows ih =>
    rcases List.prefix_concat_iff.1 within with rfl | shorter
    · exact .appended log snapshot same justified follows
    · exact ih shorter

theorem KernelLog.verified (log : KernelLog kernel world request events) :
    Verified kernel.platform events := by
  induction log with
  | accepted _ follows => exact verified_singleton.2 follows
  | appended _ _ _ _ follows ih => exact verified_append.2 ⟨fun _ => ih, follows⟩

/-- What the accepting event fixes for the whole run. -/
structure RunIdentity (world : World) (request : DesignRequest) (run : FoundryRunSnapshot) :
    Prop where
  named : trim run.runId = run.runId
  valid : ∃ value, validateDesignRequest value = .ok request
  pure : scanForbidden request.toJson [] = []
  stored : world.objects run.requestDigest = some (.request request)
  targetAgentId : run.targetAgentId = request.targetAgentId
  targetDomainId : run.targetDomainId = request.targetDomainId
  baseline : BaselineKnown world request

theorem KernelLog.identity (log : KernelLog kernel world request events)
    {run : FoundryRunSnapshot} (snapshot : IsSnapshot events run) :
    RunIdentity world request run := by
  induction log generalizing run with
  | accepted admitted follows =>
    obtain ⟨first, last, starts, ends, rfl⟩ := snapshot
    simp only [List.head?_cons, Option.some.injEq, List.getLast?_singleton] at starts ends
    subst starts ends
    exact ⟨admitted.named, admitted.valid, admitted.pure, admitted.stored, rfl, rfl,
      admitted.baseline⟩
  | @appended events inspection _ _ _ earlier _ _ _ ih =>
    obtain rfl := snapshot.unique (earlier.append _)
    have identity := ih earlier
    exact ⟨identity.named, identity.valid, identity.pure, identity.stored, identity.targetAgentId,
      identity.targetDomainId, identity.baseline⟩

/-- An event of a log is the accepting one, or one that was appended at a
snapshot of the events before it. -/
theorem KernelLog.event_cases (log : KernelLog kernel world request events)
    {event : FoundryRunEvent} (listed : event ∈ events) :
    event.eventType = "foundry_run_accepted" ∨
      ∃ earlier inspection transition occurredAt, earlier ++ [event] <+: events ∧
        KernelLog kernel world request earlier ∧ IsSnapshot earlier inspection.run ∧
        inspection.request = request ∧ Justified kernel world inspection transition ∧
        event = transitionEvent kernel inspection transition occurredAt := by
  induction log with
  | accepted _ _ => exact .inl (List.mem_singleton.1 listed ▸ rfl)
  | @appended events inspection transition occurredAt log snapshot same justified follows ih =>
    rcases List.mem_append.1 listed with early | late
    · refine (ih early).imp_right ?_
      rintro ⟨earlier, inspection', transition', occurredAt', within, rest⟩
      exact ⟨earlier, inspection', transition', occurredAt',
        within.trans (List.prefix_append _ _), rest⟩
    · obtain rfl := List.mem_singleton.1 late
      exact .inr ⟨events, inspection, transition, occurredAt, List.prefix_refl _, log, snapshot,
        same, justified, rfl⟩

/-- The event at an index was appended at the snapshot of the events before it. -/
theorem KernelLog.event_at (log : KernelLog kernel world request events) {index : Nat}
    {event : FoundryRunEvent} (found : events[index]? = some event) :
    index = 0 ∧ event.eventType = "foundry_run_accepted" ∨
      ∃ inspection transition occurredAt, KernelLog kernel world request (events.take index) ∧
        IsSnapshot (events.take index) inspection.run ∧ inspection.request = request ∧
        Justified kernel world inspection transition ∧
        event = transitionEvent kernel inspection transition occurredAt := by
  induction log with
  | accepted _ _ =>
    obtain ⟨inside, rfl⟩ := List.getElem?_eq_some_iff.1 found
    obtain rfl : index = 0 := Nat.lt_one_iff.1 inside
    exact .inl ⟨rfl, rfl⟩
  | @appended events inspection transition occurredAt log snapshot same justified follows ih =>
    rcases lt_or_ge index events.length with early | late
    · rw [List.getElem?_append_left early] at found
      rw [List.take_append_of_le_length early.le]
      exact ih found
    · have inside := (List.getElem?_eq_some_iff.1 found).1
      obtain rfl : index = events.length := by
        simp only [List.length_append, List.length_singleton] at inside
        omega
      obtain rfl : transitionEvent kernel inspection transition occurredAt = event := by
        simpa using found
      rw [List.take_left']
      · exact .inr ⟨inspection, transition, occurredAt, log, snapshot, same, justified, rfl⟩
      · rfl

/-- The induction over a log together with its snapshots. -/
theorem KernelLog.snapshot_induction {motive : List FoundryRunEvent → FoundryRunSnapshot → Prop}
    (accepted : ∀ runId requestDigest activation occurredAt run,
      IsSnapshot [acceptanceEvent kernel runId request requestDigest activation occurredAt] run →
      motive [acceptanceEvent kernel runId request requestDigest activation occurredAt] run)
    (appended : ∀ events (inspection : FoundryRunInspection) transition occurredAt,
      KernelLog kernel world request events → IsSnapshot events inspection.run →
      inspection.request = request → Justified kernel world inspection transition →
      EventFollows kernel.platform events
        (transitionEvent kernel inspection transition occurredAt) →
      motive events inspection.run →
      motive (events ++ [transitionEvent kernel inspection transition occurredAt])
        (inspection.run.after (transitionEvent kernel inspection transition occurredAt)))
    (log : KernelLog kernel world request events) {run : FoundryRunSnapshot}
    (snapshot : IsSnapshot events run) : motive events run := by
  induction log generalizing run with
  | accepted _ _ => exact accepted _ _ _ _ run snapshot
  | appended log earlier same justified follows ih =>
    obtain rfl := snapshot.unique (earlier.append _)
    exact appended _ _ _ _ log earlier same justified follows (ih earlier)

end KernelLog

/-! ## The invariant -/

/-- What a run under activation knows when it swaps the pointer. -/
structure Activating (world : World) (runId : String) (input : ActivationInput) : Prop where
  log : ∃ log later events run, world.events.runs runId = some log ∧ later <+: log ∧
    events <+: later ∧ IsSnapshot events run ∧ run.state = .activating ∧
    run.versionDigest = some input.versionDigest ∧
    run.targetAgentId = input.targetAgentId ∧ run.targetDomainId = input.targetDomainId ∧
    run.activationRevisionAtStart = input.expectedRevision ∧
    ∃ authority, latestOwnerAuthority later = .ok authority ∧
      input.authorityReceiptRef = authority.map OwnerAuthority.ref

theorem Activating.extend {world after : World} {runId : String} {input : ActivationInput}
    (activating : Activating world runId input) (grown : world.Extends after) :
    Activating after runId input := by
  obtain ⟨log, later, events, run, recorded, within, rest⟩ := activating.log
  obtain ⟨longer, recorded', longerThan⟩ := grown.runs recorded
  exact ⟨longer, later, events, run, recorded', within.trans longerThan, rest⟩

/-- An owner authorized the rollback, with the receipt that the transaction names. -/
structure RollbackAuthorized (platform : Platform) (world : World) (input : ActivationInput) :
    Prop where
  targetAgentId : trim input.targetAgentId = input.targetAgentId
  targetDomainId : trim input.targetDomainId = input.targetDomainId
  verified : ∃ authorityReceiptRef verification,
    Verifies platform world (rollbackContext input authorityReceiptRef) verification ∧
      input.authorityReceiptRef = some verification.receipt.receiptRef

theorem RollbackAuthorized.extend {platform : Platform} {world after : World}
    {input : ActivationInput} (authorized : RollbackAuthorized platform world input)
    (grown : world.Extends after) : RollbackAuthorized platform after input where
  targetAgentId := authorized.targetAgentId
  targetDomainId := authorized.targetDomainId
  verified := by
    obtain ⟨authorityReceiptRef, verification, verifies, named⟩ := authorized.verified
    exact ⟨authorityReceiptRef, verification, verifies.extend grown, named⟩

/-- Who may swap the pointer: a run under activation, or an owner who rolls back. -/
structure MaySwap (kernel : FoundryKernel) (world : World) (input : ActivationInput)
    (madeBy : Option String) : Prop where
  activate : input.transactionKind = .activate →
    ∃ runId, madeBy = some runId ∧ Activating world runId input
  rollback : input.transactionKind = .rollback → RollbackAuthorized kernel.platform world input

theorem MaySwap.extend {kernel : FoundryKernel} {world after : World} {input : ActivationInput}
    {madeBy : Option String} (allowed : MaySwap kernel world input madeBy)
    (grown : world.Extends after) : MaySwap kernel after input madeBy where
  activate kind := by
    obtain ⟨runId, made, activating⟩ := allowed.activate kind
    exact ⟨runId, made, activating.extend grown⟩
  rollback kind := (allowed.rollback kind).extend grown

/-- A run that has not finished holds the lock of its target. -/
def TargetsLocked (store : EventStore) : Prop :=
  ∀ runId log run, store.runs runId = some log → IsSnapshot log run →
    run.state.terminal = false →
      store.targetLocks (targetKey run.targetAgentId run.targetDomainId) = some runId

structure KernelInvariant (kernel : FoundryKernel) (world : World) : Prop where
  logs : ∀ runId log, world.events.runs runId = some log →
    (∀ event ∈ log, event.runId = runId) ∧ ∃ request, KernelLog kernel world request log
  transactions : ∀ targetAgentId targetDomainId,
    ∀ entry ∈ (world.registry.state targetAgentId targetDomainId).transactions,
      MaySwap kernel world entry.input entry.madeBy
  registries : ∀ targetAgentId targetDomainId,
    (world.registry.state targetAgentId targetDomainId).Sound kernel.platform
      (targetKey targetAgentId targetDomainId)
  locked : TargetsLocked world.events

def kernelDiscipline (kernel : FoundryKernel) : Discipline World where
  extends_ := World.Extends
  invariant := KernelInvariant kernel
  refl := World.Extends.refl
  trans := World.Extends.trans

theorem kernelInvariant_empty (kernel : FoundryKernel) : KernelInvariant kernel .empty where
  logs := by simp [World.empty, EventStore.empty]
  transactions := by simp [World.empty, Registry.state, RegistryState.initial]
  registries targetAgentId targetDomainId := sound_initial targetAgentId targetDomainId
  locked := by simp [World.empty, EventStore.empty, TargetsLocked]

end OnePersonLab.Evolution.Kernel

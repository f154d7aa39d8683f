import OnePersonLab.Evolution.EvaluationRuntime
import OnePersonLab.Evolution.OwnerGate
import OnePersonLab.Evolution.Stores

/-!
# The checks of the kernel

What the kernel checks of the outputs that designers, compilers, evaluators,
registries and activation runtimes hand back, and what it reads out of a log.
-/

namespace OnePersonLab.Evolution.Kernel

open Contract

/-! ## Arguments -/

def requiredRef (value : Option Json) (field : String) : Checked String := do
  let normalized := trim ((value.bind Json.asString?).getD "")
  ensure (normalized ≠ "") s!"{field} must be a non-empty authority ref."
  return normalized

theorem requiredRef_eq_ok {value : Option Json} {field result : String}
    (checked : requiredRef value field = .ok result) :
    result = trim ((value.bind Json.asString?).getD "") := by
  simp only [requiredRef, bind_eq_ok, ensure_eq_ok, pure_eq_ok] at checked
  obtain ⟨_, -, rfl⟩ := checked
  rfl

def requiredText (value field : String) : Checked String := requiredRef (some (.string value)) field

def expectedRevision (value : Nat) (field : String) : Checked Nat := do
  ensure (value ≤ maxSafeInteger) s!"{field} must be a non-negative safe integer."
  return value

def requiredDigest (value : Option Json) (field : String) : Checked String := do
  let digest ← requiredRef value field
  ensure (isSha256Digest digest = true) s!"{field} must be a SHA-256 digest."
  return digest

/-! ## Outputs -/

def assertMaterializedCandidate (request : DesignRequest) (run : FoundryRunSnapshot)
    (candidate : MaterializedCandidate) : Checked Unit :=
  ensure (candidate.targetAgentId = request.targetAgentId ∧
      candidate.targetDomainId = request.targetDomainId ∧
      some candidate.blueprintDigest = run.blueprintDigest ∧
      (run.candidateDigest = none ∨ run.candidateDigest = some candidate.candidateDigest) ∧
      isSha256Digest candidate.candidateDigest = true ∧
      isSha256Digest candidate.manifestDigest = true ∧ trim candidate.candidateRef ≠ "")
    "Materialized candidate identity does not match the FoundryRun."

structure EvidenceContext where
  request : DesignRequest
  run : FoundryRunSnapshot
  blueprint : AgentBlueprint
  candidate : MaterializedCandidate
  baseline : Option AgentVersion
  designerProducerId : String
  evaluatorId : String

/-- `input.run.frozen_test_plan_digest` where it is not empty. -/
def keepsFrozenPlan (run : FoundryRunSnapshot) (evidence : EvidenceBundle) : Prop :=
  match run.frozenTestPlanDigest with
  | none => True
  | some digest => digest = "" ∨ evidence.frozenTestPlanDigest = digest

instance (run : FoundryRunSnapshot) (evidence : EvidenceBundle) :
    Decidable (keepsFrozenPlan run evidence) := by
  unfold keepsFrozenPlan
  split <;> infer_instance

def assertEvaluationEvidence (platform : Platform) (context : EvidenceContext)
    (evidence : EvidenceBundle) : Checked QualificationFacts := do
  assertSameTarget context.request.target evidence.target "EvidenceBundle"
  let review := evidence.independentReview
  ensure (some evidence.blueprintDigest = context.run.blueprintDigest ∧
      evidence.candidateDigest = context.candidate.candidateDigest ∧
      evidence.baselineVersionDigest = context.baseline.map AgentVersion.versionDigest ∧
      evidence.frozenTestPlanDigest =
        foundryFrozenEvaluationPlanDigest platform context.blueprint.evalSpec ∧
      evidence.provenance.foundryRunId = context.run.runId ∧
      evidence.provenance.generation = context.run.generation ∧
      evidence.provenance.producerId = context.evaluatorId ∧
      trim review.evaluatorRef ≠ trim context.designerProducerId ∧
      trim review.evaluatorRef ≠ trim context.evaluatorId ∧
      trim review.evaluationExecutionRef ≠ trim review.reviewExecutionRef)
    "EvidenceBundle provenance or content binding is stale."
  ensure (keepsFrozenPlan context.run evidence)
    "EvidenceBundle changed the frozen test plan during a FoundryRun."
  assertEvaluationEvidenceFacts platform context.request context.blueprint.evalSpec evidence
    context.baseline.isSome

/-- What accepted evidence is bound to. -/
structure EvidenceBound (platform : Platform) (context : EvidenceContext)
    (evidence : EvidenceBundle) : Prop where
  target : assertSameTarget context.request.target evidence.target "EvidenceBundle" = .ok ()
  blueprint : some evidence.blueprintDigest = context.run.blueprintDigest
  candidate : evidence.candidateDigest = context.candidate.candidateDigest
  plan : evidence.frozenTestPlanDigest =
    foundryFrozenEvaluationPlanDigest platform context.blueprint.evalSpec
  run : evidence.provenance.foundryRunId = context.run.runId
  generation : evidence.provenance.generation = context.run.generation
  keptPlan : keepsFrozenPlan context.run evidence

theorem assertEvaluationEvidence_bound {platform : Platform} {context : EvidenceContext}
    {evidence : EvidenceBundle} {facts : QualificationFacts}
    (asserted : assertEvaluationEvidence platform context evidence = .ok facts) :
    EvidenceBound platform context evidence := by
  simp only [assertEvaluationEvidence, bind_eq_ok, ensure_eq_ok] at asserted
  obtain ⟨_, target, _, ⟨blueprint, candidate, -, plan, run, generation, -⟩, _, kept, -⟩ := asserted
  exact ⟨target, blueprint, candidate, plan, run, generation, kept⟩

def assertRegisteredCandidate (platform : Platform) (request : DesignRequest)
    (run : FoundryRunSnapshot) (candidate : MaterializedCandidate)
    (registered : RegisteredVersion) : Checked Unit := do
  let version := registered.version
  let qualification := registered.qualification
  ensure (version.targetAgentId = request.targetAgentId ∧
      version.targetDomainId = request.targetDomainId ∧
      some version.blueprintDigest = run.blueprintDigest ∧
      version.candidateDigest = candidate.candidateDigest ∧
      version.candidateRef = candidate.candidateRef ∧
      qualification.targetAgentId = request.targetAgentId ∧
      qualification.targetDomainId = request.targetDomainId ∧
      some qualification.blueprintDigest = run.blueprintDigest ∧
      qualification.candidateDigest = candidate.candidateDigest ∧
      version.qualificationDigest = qualification.qualificationDigest)
    "Version registry changed the qualified materialized candidate binding."
  let versionDigest ← foundryContentDigest platform (.object version.base)
  ensure (versionDigest = version.versionDigest)
    "Version registry changed the qualified materialized candidate binding."
  let qualificationDigest ← foundryContentDigest platform (.object qualification.base)
  ensure (qualificationDigest = qualification.qualificationDigest)
    "Version registry changed the qualified materialized candidate binding."

/-! ## Activation -/

/-- The binding that an activation of a version at a revision must carry. -/
def bindsVersion (binding : ActivationBinding) (kind : ActivationTransactionKind)
    (version : AgentVersion) (revision : Nat) : Prop :=
  binding.transactionKind = kind ∧ binding.targetAgentId = version.targetAgentId ∧
    binding.targetDomainId = version.targetDomainId ∧ binding.versionId = version.versionId ∧
    binding.versionDigest = version.versionDigest ∧
    binding.candidateDigest = version.candidateDigest ∧
    binding.candidateRef = version.candidateRef ∧
    binding.expectedActivationRevision = revision

instance (binding : ActivationBinding) (kind : ActivationTransactionKind) (version : AgentVersion)
    (revision : Nat) : Decidable (bindsVersion binding kind version revision) :=
  inferInstanceAs (Decidable (_ ∧ _))

def assertActivationPreflight (preflight : ActivationRuntimePreflight)
    (kind : ActivationTransactionKind) (version : AgentVersion) (revision : Nat) : Checked Unit :=
  ensure (bindsVersion preflight.toActivationBinding kind version revision ∧
      trim preflight.preflightRef ≠ "" ∧
      ∀ ref ∈ preflight.runtimeBindingRef, trim ref ≠ "")
    "Activation runtime preflight does not bind the exact target AgentVersion and revision."

def buildRuntimeBindingVerification (preflight : ActivationRuntimePreflight) :
    ActivationRuntimeBindingVerification :=
  { preflight.toActivationBinding with
    runtimeBindingRef := preflight.runtimeBindingRef.getD preflight.preflightRef }

def assertActivationTransaction (platform : Platform) (transaction : ActivationTransaction)
    (input : ActivationInput) : Checked Unit := do
  ensure (transaction.transactionKind = input.transactionKind ∧
      transaction.targetAgentId = input.targetAgentId ∧
      transaction.targetDomainId = input.targetDomainId ∧
      transaction.toVersionDigest = input.versionDigest ∧
      transaction.previousRevision = input.expectedRevision ∧
      transaction.nextRevision = input.expectedRevision + 1 ∧
      transaction.authorityReceiptRef = input.authorityReceiptRef)
    "Version registry returned an invalid activation transaction."
  let committed ← foundryContentDigest platform transaction.runtimeBindingVerification.toJson
  let requested ← foundryContentDigest platform input.runtimeBindingVerification.toJson
  ensure (committed = requested ∧ trim transaction.transactionId ≠ "" ∧
      (platform.dateParse transaction.occurredAt).isSome = true)
    "Version registry returned an invalid activation transaction."

/-! ## Owner decisions in a log -/

structure OwnerAuthority where
  ref : String
  digest : String
  deriving DecidableEq

structure FoundryOwnerDecisionReadback where
  eventId : String
  eventRevision : Nat
  expectedRevision : Nat
  action : String
  decision : String
  receiptRef : String
  receiptDigest : String
  authorityRef : String
  verifierId : String
  verificationRef : String
  authorityPolicyRef : String
  deriving DecidableEq

def ownerDecisionEvent (event : FoundryRunEvent) : Bool :=
  ["owner_approved", "owner_rejected", "foundry_run_cancelled"].contains event.eventType

/-- The action and the decision that an owner event may carry. -/
def validDecision (eventType action decision : String) : Bool :=
  if eventType = "owner_approved" then
    decision == "approve" && ["approve_canary", "approve_active"].contains action
  else if eventType = "owner_rejected" then
    decision == "reject" && ["reject_canary", "reject_active"].contains action
  else decision == "cancel" && action == "cancel"

def ownerDecisionReadback (event : FoundryRunEvent) : Checked FoundryOwnerDecisionReadback := do
  let action ← requiredRef (field? event.payload "owner_gate_action") "owner_gate_action"
  let decision ← requiredRef (field? event.payload "owner_gate_decision") "owner_gate_decision"
  ensure (validDecision event.eventType action decision = true)
    "FoundryRun owner decision event does not match its verified action."
  let receiptDigest ← requiredDigest (field? event.payload "owner_authority_receipt_digest")
    "owner_authority_receipt_digest"
  let receiptRef ← requiredRef (field? event.payload "owner_authority_receipt_ref")
    "owner_authority_receipt_ref"
  let expectedRef ← ownerAuthorityReceiptRef receiptDigest
  ensure (expectedRef = receiptRef)
    "FoundryRun owner decision receipt ref does not match its verified digest."
  let authorityRef ← requiredRef (field? event.payload "owner_authority_ref") "owner_authority_ref"
  let verifierId ← requiredRef (field? event.payload "owner_authority_verifier_id")
    "owner_authority_verifier_id"
  let verificationRef ← requiredRef (field? event.payload "owner_authority_verification_ref")
    "owner_authority_verification_ref"
  let authorityPolicyRef ← requiredRef (field? event.payload "owner_authority_policy_ref")
    "owner_authority_policy_ref"
  return {
    eventId := event.eventId
    eventRevision := event.revision
    expectedRevision := event.revision - 1
    action, decision, receiptRef, receiptDigest, authorityRef, verifierId, verificationRef,
    authorityPolicyRef }

def ownerDecisionReadbacks (events : List FoundryRunEvent) :
    Checked (List FoundryOwnerDecisionReadback) :=
  mapEach ownerDecisionReadback (events.filter ownerDecisionEvent)

/-- An approval that names its receipt. -/
def approvalEvent (event : FoundryRunEvent) : Bool :=
  event.eventType == "owner_approved" &&
    (textField? event.payload "owner_authority_receipt_ref").isSome &&
    (textField? event.payload "owner_authority_receipt_digest").isSome

def ownerAuthorityOf (event : FoundryRunEvent) : Checked OwnerAuthority := do
  let digest ← requiredDigest (field? event.payload "owner_authority_receipt_digest")
    "owner_authority_receipt_digest"
  let ref ← requiredRef (field? event.payload "owner_authority_receipt_ref")
    "owner_authority_receipt_ref"
  let expectedRef ← ownerAuthorityReceiptRef digest
  ensure (expectedRef = ref) "Owner approval event receipt ref does not match its verified digest."
  return { ref, digest }

/-- The authority of the last approval in the log. -/
def latestOwnerAuthority (events : List FoundryRunEvent) : Checked (Option OwnerAuthority) :=
  match events.reverse.find? approvalEvent with
  | none => .ok none
  | some event => some <$> ownerAuthorityOf event

end OnePersonLab.Evolution.Kernel

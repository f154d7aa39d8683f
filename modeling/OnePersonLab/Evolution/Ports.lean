import OnePersonLab.Evolution.Protocol

/-!
# Records exchanged with the ports

What the compiler, the owner gate and the version registry hand to the kernel,
with the JSON form of every record whose digest is taken.
-/

namespace OnePersonLab.Evolution

open Contract

structure MaterializedCandidate where
  targetAgentId : String
  targetDomainId : String
  blueprintDigest : String
  candidateDigest : String
  candidateRef : String
  manifestDigest : String
  deriving DecidableEq

def MaterializedCandidate.toJson (candidate : MaterializedCandidate) : Json :=
  .object [
    ("surface_kind", .string "opl_foundry_materialized_candidate"),
    ("target_agent_id", .string candidate.targetAgentId),
    ("target_domain_id", .string candidate.targetDomainId),
    ("blueprint_digest", .string candidate.blueprintDigest),
    ("candidate_digest", .string candidate.candidateDigest),
    ("candidate_ref", .string candidate.candidateRef),
    ("manifest_digest", .string candidate.manifestDigest)]

structure AgentVersion where
  versionId : String
  versionDigest : String
  targetAgentId : String
  targetDomainId : String
  blueprintDigest : String
  candidateDigest : String
  candidateRef : String
  qualificationDigest : String
  createdAt : String
  deriving DecidableEq

/-- The version without its own digest. -/
def AgentVersion.base (version : AgentVersion) : JsonRecord := [
  ("surface_kind", .string "opl_foundry_agent_version"),
  ("version_id", .string version.versionId),
  ("target_agent_id", .string version.targetAgentId),
  ("target_domain_id", .string version.targetDomainId),
  ("blueprint_digest", .string version.blueprintDigest),
  ("candidate_digest", .string version.candidateDigest),
  ("candidate_ref", .string version.candidateRef),
  ("qualification_digest", .string version.qualificationDigest),
  ("created_at", .string version.createdAt)]

structure QualificationRecord where
  qualificationId : String
  qualificationDigest : String
  targetAgentId : String
  targetDomainId : String
  blueprintDigest : String
  candidateDigest : String
  evidenceDigest : String
  riskTier : FoundryRiskTier
  qualifiedAt : String
  deriving DecidableEq

/-- The qualification without its own digest. -/
def QualificationRecord.base (record : QualificationRecord) : JsonRecord := [
  ("surface_kind", .string "opl_foundry_qualification_record"),
  ("qualification_id", .string record.qualificationId),
  ("target_agent_id", .string record.targetAgentId),
  ("target_domain_id", .string record.targetDomainId),
  ("blueprint_digest", .string record.blueprintDigest),
  ("candidate_digest", .string record.candidateDigest),
  ("evidence_digest", .string record.evidenceDigest),
  ("risk_tier", .string record.riskTier.text),
  ("qualified_at", .string record.qualifiedAt)]

/-! ## The owner gate -/

inductive OwnerGateAction where
  | authorizeImprove
  | approveCanary
  | rejectCanary
  | approveActive
  | rejectActive
  | cancel
  | rollback
  deriving DecidableEq, Repr

def OwnerGateAction.text : OwnerGateAction → String
  | .authorizeImprove => "authorize_improve"
  | .approveCanary => "approve_canary"
  | .rejectCanary => "reject_canary"
  | .approveActive => "approve_active"
  | .rejectActive => "reject_active"
  | .cancel => "cancel"
  | .rollback => "rollback"

inductive OwnerGateDecision where
  | approve
  | reject
  | cancel
  | rollback
  deriving DecidableEq, Repr

def OwnerGateDecision.text : OwnerGateDecision → String
  | .approve => "approve"
  | .reject => "reject"
  | .cancel => "cancel"
  | .rollback => "rollback"

/-- What an owner receipt is about: the authority mutation it covers. -/
theorem OwnerGateAction.text_inj {action other : OwnerGateAction} :
    action.text = other.text ↔ action = other := by
  cases action <;> cases other <;> decide

theorem OwnerGateDecision.text_inj {decision other : OwnerGateDecision} :
    decision.text = other.text ↔ decision = other := by
  cases decision <;> cases other <;> decide

structure OwnerGateScope where
  action : OwnerGateAction
  decision : OwnerGateDecision
  targetAgentId : String
  targetDomainId : String
  runId : Option String
  versionDigest : Option String
  expectedRevision : Nat
  deriving DecidableEq

structure OwnerGateVerificationContext extends OwnerGateScope where
  authorityReceiptRef : String
  deriving DecidableEq

structure OwnerAuthorityReceiptStatement extends OwnerGateScope where
  receiptId : String
  authorityRef : String
  issuedAt : String
  deriving DecidableEq

def OwnerAuthorityReceiptStatement.toJson (statement : OwnerAuthorityReceiptStatement) : Json :=
  .object [
    ("surface_kind", .string "opl_foundry_owner_authority_receipt"),
    ("version", .string "opl-foundry-owner-authority-receipt.v1"),
    ("receipt_id", .string statement.receiptId),
    ("authority_ref", .string statement.authorityRef),
    ("action", .string statement.action.text),
    ("decision", .string statement.decision.text),
    ("target_agent_id", .string statement.targetAgentId),
    ("target_domain_id", .string statement.targetDomainId),
    ("run_id", .ofOptionalString statement.runId),
    ("version_digest", .ofOptionalString statement.versionDigest),
    ("expected_revision", .ofNat statement.expectedRevision),
    ("issued_at", .string statement.issuedAt)]

/-- A statement can be told from its JSON form. -/
theorem OwnerAuthorityReceiptStatement.toJson_injective :
    Function.Injective OwnerAuthorityReceiptStatement.toJson := by
  rintro ⟨⟨action, decision, _, _, _, _, _⟩, _, _, _⟩ ⟨⟨action', decision', _, _, _, _, _⟩, _, _, _⟩ same
  simp only [toJson, Json.object.injEq, List.cons.injEq, Prod.mk.injEq, Json.string.injEq, true_and,
    and_true, OwnerGateAction.text_inj, OwnerGateDecision.text_inj, Json.ofOptionalString_inj,
    Json.ofNat_inj] at same
  simp [same]

structure OwnerAuthorityReceipt extends OwnerAuthorityReceiptStatement where
  receiptDigest : String
  receiptRef : String
  deriving DecidableEq

structure OwnerGateVerification where
  verifierId : String
  verificationRef : String
  authorityPolicyRef : String
  verifiedAt : String
  coveredAuthorityRef : String
  receipt : OwnerAuthorityReceipt
  deriving DecidableEq

/-! ## Activation -/

structure ActivationPointer where
  targetAgentId : String
  targetDomainId : String
  activeVersionDigest : Option String
  revision : Nat
  updatedAt : Option String
  deriving DecidableEq

inductive ActivationTransactionKind where
  | activate
  | rollback
  deriving DecidableEq, Repr

def ActivationTransactionKind.text : ActivationTransactionKind → String
  | .activate => "activate"
  | .rollback => "rollback"

/-- The exact version and revision that a preflight and its verification bind. -/
structure ActivationBinding where
  transactionKind : ActivationTransactionKind
  targetAgentId : String
  targetDomainId : String
  versionId : String
  versionDigest : String
  candidateDigest : String
  candidateRef : String
  expectedActivationRevision : Nat
  preflightRef : String
  deriving DecidableEq

structure ActivationRuntimePreflight extends ActivationBinding where
  runtimeBindingRef : Option String
  deriving DecidableEq

structure ActivationRuntimeBindingVerification extends ActivationBinding where
  runtimeBindingRef : String
  deriving DecidableEq

def ActivationRuntimeBindingVerification.toJson
    (verification : ActivationRuntimeBindingVerification) : Json :=
  .object [
    ("surface_kind", .string "opl_foundry_activation_runtime_binding_verification"),
    ("version", .string "opl-foundry-activation-runtime-binding-verification.v1"),
    ("verification_phase", .string "pre_commit"),
    ("transaction_kind", .string verification.transactionKind.text),
    ("target_agent_id", .string verification.targetAgentId),
    ("target_domain_id", .string verification.targetDomainId),
    ("version_id", .string verification.versionId),
    ("version_digest", .string verification.versionDigest),
    ("candidate_digest", .string verification.candidateDigest),
    ("candidate_ref", .string verification.candidateRef),
    ("expected_activation_revision", .ofNat verification.expectedActivationRevision),
    ("preflight_ref", .string verification.preflightRef),
    ("runtime_binding_ref", .string verification.runtimeBindingRef)]

structure ActivationTransaction where
  transactionId : String
  transactionKind : ActivationTransactionKind
  targetAgentId : String
  targetDomainId : String
  fromVersionDigest : Option String
  toVersionDigest : String
  previousRevision : Nat
  nextRevision : Nat
  authorityReceiptRef : Option String
  occurredAt : String
  runtimeBindingVerification : ActivationRuntimeBindingVerification
  deriving DecidableEq

end OnePersonLab.Evolution

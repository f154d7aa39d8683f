import OnePersonLab.Evolution.Ports
import OnePersonLab.Evolution.ProtocolValidation

/-!
# The owner gate

A receipt states one authority mutation, and its digest and ref are taken over
the statement. A verification covers a context when its receipt states exactly
the requested mutation.
-/

namespace OnePersonLab.Evolution

open Contract

/-- `ACTION_DECISIONS`. -/
def OwnerGateAction.requiredDecision : OwnerGateAction → OwnerGateDecision
  | .authorizeImprove | .approveCanary | .approveActive => .approve
  | .rejectCanary | .rejectActive => .reject
  | .cancel => .cancel
  | .rollback => .rollback

def assertActionDecision (action : OwnerGateAction) (decision : OwnerGateDecision)
    (label : String) : Checked Unit :=
  ensure (action.requiredDecision = decision) s!"{label} action and decision do not agree."

def assertRunVersionShape (scope : OwnerGateScope) (label : String) : Checked Unit :=
  if scope.action = .rollback then
    ensure (scope.runId = none ∧ scope.versionDigest ≠ none)
      s!"{label} rollback must bind one version digest and no FoundryRun id."
  else do
    ensure (scope.runId ≠ none) s!"{label} {scope.action.text} must bind one FoundryRun id."
    ensure (scope.action = .cancel ∨ scope.versionDigest ≠ none)
      s!"{label} {scope.action.text} must bind the qualified AgentVersion digest."

def nullableString (value : Option String) (field : String) : Checked (Option String) :=
  match value with
  | none => .ok none
  | some text => some <$> requiredString text field

def optionalDigest (value : Option String) (field : String) : Checked (Option String) :=
  match value with
  | none => .ok none
  | some text => do
    let result ← requiredString text field
    ensure (isSha256Digest result = true) s!"{field} must be a SHA-256 digest."
    return some result

def ownerExpectedRevision (value : Nat) (field : String) : Checked Nat := do
  ensure (value ≤ maxSafeInteger) s!"{field} must be a non-negative safe integer."
  return value

def ownerTimestamp (platform : Platform) (value field : String) : Checked String := do
  let result ← requiredString value field
  ensure ((platform.dateParse result).isSome = true) s!"{field} must be an ISO-compatible timestamp."
  return result

def ownerAuthorityReceiptRef (receiptDigest : String) : Checked String := do
  ensure (isSha256Digest receiptDigest = true) "Owner authority receipt digest is invalid."
  return s!"opl://foundry/owner-authority-receipts/{receiptDigest}"

/-- The checks that a context and a statement share, with the field names under `label`. -/
def validateOwnerGateScope (scope : OwnerGateScope) (shapeLabel label : String) :
    Checked OwnerGateScope := do
  assertActionDecision scope.action scope.decision shapeLabel
  let runId ← nullableString scope.runId s!"{label} run_id"
  let versionDigest ← optionalDigest scope.versionDigest s!"{label} version_digest"
  assertRunVersionShape { scope with runId, versionDigest } label
  return { scope with runId, versionDigest }

def validateOwnerGateVerificationContext (context : OwnerGateVerificationContext) :
    Checked OwnerGateVerificationContext := do
  let scope ← validateOwnerGateScope context.toOwnerGateScope "Owner gate verification context"
    "Owner gate context"
  let authorityReceiptRef ← requiredString context.authorityReceiptRef
    "Owner gate context authority_receipt_ref"
  let targetAgentId ← requiredString scope.targetAgentId "Owner gate context target_agent_id"
  let targetDomainId ← requiredString scope.targetDomainId "Owner gate context target_domain_id"
  let expectedRevision ← ownerExpectedRevision scope.expectedRevision
    "Owner gate context expected_revision"
  return { scope with authorityReceiptRef, targetAgentId, targetDomainId, expectedRevision }

def validateOwnerAuthorityReceiptStatement (platform : Platform)
    (statement : OwnerAuthorityReceiptStatement) : Checked OwnerAuthorityReceiptStatement := do
  let scope ← validateOwnerGateScope statement.toOwnerGateScope "Owner authority receipt"
    "Owner authority receipt"
  let receiptId ← requiredString statement.receiptId "Owner authority receipt receipt_id"
  let authorityRef ← requiredString statement.authorityRef "Owner authority receipt authority_ref"
  let targetAgentId ← requiredString scope.targetAgentId "Owner authority receipt target_agent_id"
  let targetDomainId ← requiredString scope.targetDomainId
    "Owner authority receipt target_domain_id"
  let expectedRevision ← ownerExpectedRevision scope.expectedRevision
    "Owner authority receipt expected_revision"
  let issuedAt ← ownerTimestamp platform statement.issuedAt "Owner authority receipt issued_at"
  return {
    scope with receiptId, authorityRef, targetAgentId, targetDomainId, expectedRevision, issuedAt }

def materializeOwnerAuthorityReceipt (platform : Platform)
    (value : OwnerAuthorityReceiptStatement) : Checked OwnerAuthorityReceipt := do
  let statement ← validateOwnerAuthorityReceiptStatement platform value
  let receiptDigest := platform.digest statement.toJson
  let receiptRef ← ownerAuthorityReceiptRef receiptDigest
  return { statement with receiptDigest, receiptRef }

def validateOwnerAuthorityReceipt (platform : Platform) (receipt : OwnerAuthorityReceipt) :
    Checked OwnerAuthorityReceipt := do
  let canonical ← materializeOwnerAuthorityReceipt platform receipt.toOwnerAuthorityReceiptStatement
  ensure (receipt.receiptDigest = canonical.receiptDigest ∧
      receipt.receiptRef = canonical.receiptRef)
    "Owner authority receipt ref or digest does not match its canonical statement."
  return canonical

def validateOwnerGateVerification (platform : Platform)
    (contextValue : OwnerGateVerificationContext) (verification : OwnerGateVerification) :
    Checked OwnerGateVerification := do
  let context ← validateOwnerGateVerificationContext contextValue
  let receipt ← validateOwnerAuthorityReceipt platform verification.receipt
  let coveredAuthorityRef ← requiredString verification.coveredAuthorityRef
    "Owner gate verification covered_authority_ref"
  ensure (receipt.receiptRef = context.authorityReceiptRef ∧
      receipt.toOwnerGateScope = context.toOwnerGateScope ∧
      receipt.authorityRef = coveredAuthorityRef)
    "Owner gate verification does not cover the exact requested authority mutation."
  let verifierId ← requiredString verification.verifierId "Owner gate verification verifier_id"
  let verificationRef ← requiredString verification.verificationRef
    "Owner gate verification verification_ref"
  let authorityPolicyRef ← requiredString verification.authorityPolicyRef
    "Owner gate verification authority_policy_ref"
  let verifiedAt ← ownerTimestamp platform verification.verifiedAt
    "Owner gate verification verified_at"
  return { verifierId, verificationRef, authorityPolicyRef, verifiedAt, coveredAuthorityRef, receipt }

/-! ## What a verification covers -/

theorem nullableString_eq_ok {value result : Option String} {field : String}
    (checked : nullableString value field = .ok result) : result = value.map trim := by
  cases value with
  | none => simpa [nullableString] using checked.symm
  | some text =>
    simp only [nullableString, map_eq_ok, requiredString_eq_ok] at checked
    obtain ⟨_, ⟨-, rfl⟩, rfl⟩ := checked
    rfl

theorem optionalDigest_eq_ok {value result : Option String} {field : String}
    (checked : optionalDigest value field = .ok result) : result = value.map trim := by
  cases value with
  | none => simpa [optionalDigest] using checked.symm
  | some text =>
    simp only [optionalDigest, bind_eq_ok, requiredString_eq_ok, ensure_eq_ok, pure_eq_ok]
      at checked
    obtain ⟨_, ⟨-, rfl⟩, _, -, rfl⟩ := checked
    rfl

theorem validateOwnerGateScope_eq_ok {scope result : OwnerGateScope} {shapeLabel label : String}
    (checked : validateOwnerGateScope scope shapeLabel label = .ok result) :
    result = { scope with
      runId := scope.runId.map trim, versionDigest := scope.versionDigest.map trim } := by
  simp only [validateOwnerGateScope, bind_eq_ok, pure_eq_ok] at checked
  obtain ⟨_, -, runId, named, versionDigest, bound, _, -, rfl⟩ := checked
  rw [nullableString_eq_ok named, optionalDigest_eq_ok bound]

/-- The scope and the receipt ref of a context that passes, with its texts trimmed. -/
theorem validateOwnerGateVerificationContext_eq_ok {value context : OwnerGateVerificationContext}
    (checked : validateOwnerGateVerificationContext value = .ok context) :
    context.action = value.action ∧ context.decision = value.decision ∧
      context.runId = value.runId.map trim ∧
      context.versionDigest = value.versionDigest.map trim ∧
      context.expectedRevision = value.expectedRevision ∧
      context.authorityReceiptRef = trim value.authorityReceiptRef := by
  simp only [validateOwnerGateVerificationContext, bind_eq_ok, pure_eq_ok, requiredString_eq_ok,
    ownerExpectedRevision, ensure_eq_ok] at checked
  obtain ⟨scope, scopeChecked, _, ⟨-, rfl⟩, _, ⟨-, rfl⟩, _, ⟨-, rfl⟩, _, ⟨_, -, rfl⟩, rfl⟩ := checked
  rw [validateOwnerGateScope_eq_ok scopeChecked]
  exact ⟨rfl, rfl, rfl, rfl, rfl, rfl⟩

theorem ownerAuthorityReceiptRef_eq_ok {receiptDigest ref : String} :
    ownerAuthorityReceiptRef receiptDigest = .ok ref ↔ isSha256Digest receiptDigest = true ∧
      s!"opl://foundry/owner-authority-receipts/{receiptDigest}" = ref := by
  simp [ownerAuthorityReceiptRef]

/-- The digest and the ref of a receipt are those of its statement. -/
structure OwnerAuthorityReceipt.Canonical (platform : Platform) (receipt : OwnerAuthorityReceipt) :
    Prop where
  wellFormed : isSha256Digest receipt.receiptDigest = true
  digest : receipt.receiptDigest = platform.digest receipt.toOwnerAuthorityReceiptStatement.toJson
  ref : receipt.receiptRef = s!"opl://foundry/owner-authority-receipts/{receipt.receiptDigest}"

variable {platform : Platform} {value : OwnerGateVerificationContext}
  {answer verification : OwnerGateVerification}

theorem materializeOwnerAuthorityReceipt_canonical {value : OwnerAuthorityReceiptStatement}
    {receipt : OwnerAuthorityReceipt}
    (made : materializeOwnerAuthorityReceipt platform value = .ok receipt) :
    receipt.Canonical platform := by
  simp only [materializeOwnerAuthorityReceipt, bind_eq_ok, pure_eq_ok,
    ownerAuthorityReceiptRef_eq_ok] at made
  obtain ⟨statement, -, _, ⟨wellFormed, rfl⟩, rfl⟩ := made
  exact ⟨wellFormed, rfl, rfl⟩

/-- A verification that passes carries a canonical receipt of exactly the
requested mutation. -/
theorem validateOwnerGateVerification_eq_ok
    (checked : validateOwnerGateVerification platform value answer = .ok verification) :
    verification.receipt.Canonical platform ∧
      verification.receipt.action = value.action ∧
      verification.receipt.decision = value.decision ∧
      verification.receipt.runId = value.runId.map trim ∧
      verification.receipt.versionDigest = value.versionDigest.map trim ∧
      verification.receipt.expectedRevision = value.expectedRevision ∧
      verification.receipt.receiptRef = trim value.authorityReceiptRef := by
  simp only [validateOwnerGateVerification, bind_eq_ok, ensure_eq_ok, pure_eq_ok] at checked
  obtain ⟨context, contextChecked, receipt, received, _, -, _, ⟨sameRef, sameScope, -⟩, _, -, _, -,
    _, -, _, -, rfl⟩ := checked
  simp only [validateOwnerAuthorityReceipt, bind_eq_ok, ensure_eq_ok, pure_eq_ok] at received
  obtain ⟨canonical, made, _, -, rfl⟩ := received
  obtain ⟨action, decision, runId, versionDigest, revision, ref⟩ :=
    validateOwnerGateVerificationContext_eq_ok contextChecked
  refine ⟨materializeOwnerAuthorityReceipt_canonical made, ?_, ?_, ?_, ?_, ?_, sameRef.trans ref⟩
  · exact (congrArg OwnerGateScope.action sameScope).trans action
  · exact (congrArg OwnerGateScope.decision sameScope).trans decision
  · exact (congrArg OwnerGateScope.runId sameScope).trans runId
  · exact (congrArg OwnerGateScope.versionDigest sameScope).trans versionDigest
  · exact (congrArg OwnerGateScope.expectedRevision sameScope).trans revision

/-- The target that a context and a receipt under it name. -/
theorem validateOwnerGateVerificationContext_target {context : OwnerGateVerificationContext}
    (checked : validateOwnerGateVerificationContext value = .ok context) :
    context.targetAgentId = trim value.targetAgentId ∧
      context.targetDomainId = trim value.targetDomainId := by
  simp only [validateOwnerGateVerificationContext, bind_eq_ok, pure_eq_ok, requiredString_eq_ok]
    at checked
  obtain ⟨scope, scopeChecked, _, ⟨-, rfl⟩, _, ⟨-, rfl⟩, _, ⟨-, rfl⟩, _, -, rfl⟩ := checked
  rw [validateOwnerGateScope_eq_ok scopeChecked]
  exact ⟨rfl, rfl⟩

theorem validateOwnerGateVerification_target
    (checked : validateOwnerGateVerification platform value answer = .ok verification) :
    verification.receipt.targetAgentId = trim value.targetAgentId ∧
      verification.receipt.targetDomainId = trim value.targetDomainId := by
  simp only [validateOwnerGateVerification, bind_eq_ok, ensure_eq_ok, pure_eq_ok] at checked
  obtain ⟨context, contextChecked, receipt, -, _, -, _, ⟨-, sameScope, -⟩, _, -, _, -, _, -, _, -,
    rfl⟩ := checked
  obtain ⟨agent, domain⟩ := validateOwnerGateVerificationContext_target contextChecked
  exact ⟨(congrArg OwnerGateScope.targetAgentId sameScope).trans agent,
    (congrArg OwnerGateScope.targetDomainId sameScope).trans domain⟩

/-- The receipt of a verification is the one that the owner gate answered with. -/
theorem validateOwnerGateVerification_receipt
    (checked : validateOwnerGateVerification platform value answer = .ok verification) :
    validateOwnerAuthorityReceipt platform answer.receipt = .ok verification.receipt := by
  simp only [validateOwnerGateVerification, bind_eq_ok, ensure_eq_ok, pure_eq_ok] at checked
  obtain ⟨_, -, receipt, received, _, -, _, -, _, -, _, -, _, -, _, -, rfl⟩ := checked
  exact received

/-- The names that a verification carries are trimmed and not empty. -/
theorem validateOwnerGateVerification_named
    (checked : validateOwnerGateVerification platform value answer = .ok verification) :
    ∀ name ∈ [verification.coveredAuthorityRef, verification.verifierId,
      verification.verificationRef, verification.authorityPolicyRef], trim name = name ∧ name ≠ "" := by
  simp only [validateOwnerGateVerification, bind_eq_ok, ensure_eq_ok, pure_eq_ok,
    requiredString_eq_ok] at checked
  obtain ⟨_, -, _, -, _, ⟨covered, rfl⟩, _, -, _, ⟨verifier, rfl⟩, _, ⟨verified, rfl⟩, _,
    ⟨policy, rfl⟩, _, -, rfl⟩ := checked
  simp [covered, verifier, verified, policy]

/-- The ref of a receipt has no surrounding white space. -/
theorem OwnerAuthorityReceipt.Canonical.trim_ref {receipt : OwnerAuthorityReceipt}
    (canonical : receipt.Canonical platform) :
    trim receipt.receiptRef = receipt.receiptRef ∧ receipt.receiptRef ≠ "" := by
  have solid : receipt.receiptDigest ≠ "" := by
    intro empty
    have wellFormed := canonical.wellFormed
    rw [empty] at wellFormed
    revert wellFormed
    decide
  have opens : "opl://foundry/owner-authority-receipts/".toList =
      'o' :: "pl://foundry/owner-authority-receipts/".toList := by decide
  have whole : receipt.receiptRef =
      "opl://foundry/owner-authority-receipts/" ++ receipt.receiptDigest := canonical.ref
  rw [whole]
  exact ⟨trim_append opens (by decide) (trim_of_isSha256Digest canonical.wellFormed) solid,
    by simp [solid]⟩

end OnePersonLab.Evolution

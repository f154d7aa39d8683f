import OnePersonLab.Stage.ScopeBudget

/-!
# What an attempt hands back

A stage attempt ends with a status, its activity events and an untrusted
closeout packet. The controller reads from them the session, the tokens, the
review outcome, a hard stop of the provider and the identity of the artifacts.
-/

namespace OnePersonLab.Stage

open Contract Lib

/-! ## Failures of the controller -/

inductive StageQualityHardStopClass where
  | zeroConsumableArtifact
  | safetyOrCompliance
  | permissionOrCredentialBoundary
  | humanDecisionRequired
  | authorityBoundaryViolation
  | staleOrMismatchedStageIdentity
  deriving DecidableEq, Repr

def StageQualityHardStopClass.ofText? : String → Option StageQualityHardStopClass
  | "zero_consumable_artifact" => some .zeroConsumableArtifact
  | "safety_or_compliance" => some .safetyOrCompliance
  | "permission_or_credential_boundary" => some .permissionOrCredentialBoundary
  | "human_decision_required" => some .humanDecisionRequired
  | "authority_boundary_violation" => some .authorityBoundaryViolation
  | "stale_or_mismatched_stage_identity" => some .staleOrMismatchedStageIdentity
  | _ => none

/-- The details of a contract failure that stop the run. -/
structure ControllerHardStop where
  hardStopClass : StageQualityHardStopClass
  blockedReason : String
  sourceAttemptRef : Option String
  deriving DecidableEq

/-- What the controller can fail with. Only its own contract failures carry a
hard stop; the failure of an activity or of a child never does. -/
inductive WorkflowFailure where
  | contract (message : String) (hardStop : Option ControllerHardStop)
  | thrown (message : String)
  | activity (message reason : String)
  | cancelled (message : String)
  deriving DecidableEq

namespace WorkflowFailure

def message : WorkflowFailure → String
  | .contract text _ | .thrown text | .activity text _ | .cancelled text => text

/-- `activityFailureReason`: the innermost cause of an activity's failure. -/
def reason : WorkflowFailure → String
  | .activity _ reason => reason
  | failure => failure.message

/-- `controllerHardStopFromError`. -/
def controllerHardStop? : WorkflowFailure → Option ControllerHardStop
  | .contract _ hardStop => hardStop
  | _ => none

/-- `isCancellation`. -/
def isCancellation : WorkflowFailure → Bool
  | .cancelled _ => true
  | _ => false

end WorkflowFailure

/-- A check of the controller, or what it throws. -/
abbrev Controlled := Except WorkflowFailure

/-- The failed checks of the authority modules carry no hard stop. -/
def Checked.controlled {α : Type} : Checked α → Controlled α
  | .ok value => .ok value
  | .error failure => .error (.contract failure.message none)

@[simp] theorem controlled_ok {α : Type} (value : α) :
    Checked.controlled (.ok value) = .ok value := rfl

/-! ## Reading untrusted values -/

/-- `asRecord`: anything that is no record counts as an empty one. -/
def asRecord (value : Option Json) : JsonRecord := (value.bind asRecord?).getD []

/-- `asStringList`: the non-empty strings among the entries of an array. -/
def asStringList : Option Json → List String
  | some (.array entries) => (entries.filterMap Json.asString?).filter (· ≠ "")
  | _ => []

def stringField? (record : JsonRecord) (field : String) : Option String :=
  (field? record field).bind Json.asString?

/-- `Object.hasOwn`. -/
def hasOwn (record : JsonRecord) (field : String) : Bool := (field? record field).isSome

/-! ## Attempts -/

def StageQualityAttemptRole.text : StageQualityAttemptRole → String
  | .producer => "producer"
  | .reviewer => "reviewer"
  | .repairer => "repairer"
  | .reReviewer => "re_reviewer"

/-- The roles that review, as against those that hand in artifacts. -/
def StageQualityAttemptRole.reviews : StageQualityAttemptRole → Bool
  | .reviewer | .reReviewer => true
  | .producer | .repairer => false

inductive StageAttemptStatus where
  | registered
  | running
  | checkpointed
  | blocked
  | humanGate
  | completed
  | failed
  deriving DecidableEq, Repr

/-- The scope in which a run or an attempt works. -/
structure ExecutionScope where
  scopeKind : Option String
  executionScope : Option JsonRecord
  deriving DecidableEq

/-- `TemporalStageAttemptWorkflowState`, as far as the controller reads it. -/
structure StageAttemptState where
  stageAttemptId : String
  workflowId : String
  domainId : String
  stageId : String
  scope : ExecutionScope
  status : StageAttemptStatus
  activityEvents : List Json
  humanGateRefs : List String
  closeoutPacket : Option JsonRecord
  deriving DecidableEq

namespace StageAttemptState

variable (state : StageAttemptState)

def closeout : JsonRecord := state.closeoutPacket.getD []

def routeImpact : JsonRecord := asRecord (field? state.closeout "route_impact")

/-- `qualityEnvelopeFromAttempt`. -/
def qualityEnvelope : JsonRecord := asRecord (field? state.routeImpact "stage_quality_cycle")

def closeoutAuthority : JsonRecord := asRecord (field? state.closeout "authority_boundary")

/-- The closeout packet that the framework wraps around raw executor output. -/
def rawExecutorOutput : Bool :=
  decide (field? state.closeoutAuthority "opl" =
    some (.string "raw_executor_output_progress_envelope_only"))

def closeoutRefMetadata : List JsonRecord :=
  asRecordList (field? state.closeout "closeout_ref_metadata")

end StageAttemptState

def sessionOfEvent (event : JsonRecord) : Option String :=
  if field? event "activity_kind" = some (.string "codex_stage_activity") then
    let progress := asRecord (field? event "progress_summary")
    let given := fun field => (stringField? progress field).filter (· ≠ "")
    (given "execution_session_ref").or ((given "thread_id").map fun thread => s!"codex://threads/{thread}")
  else none

/-- `executionSessionRefFromAttemptState`: the latest event that names one. -/
def StageAttemptState.executionSessionRef (state : StageAttemptState) : Option String :=
  state.activityEvents.reverse.findSome? fun event => sessionOfEvent (asRecord (some event))

/-- `finiteNonNegativeInteger`. -/
def finiteNonNegativeInteger : Option Json → Option Nat
  | some (.number value) => if value.den = 1 ∧ 0 ≤ value.num then some value.num.toNat else none
  | _ => none

def tokenObservations (event : JsonRecord) : List Nat :=
  let usageTokens := fun record =>
    finiteNonNegativeInteger (field? (asRecord (field? record "token_usage")) "total_tokens")
  (usageTokens event).toList ++ (usageTokens (asRecord (field? event "cost_summary"))).toList

/-- `observedAttemptTotalTokens`. -/
def StageAttemptState.observedTotalTokens (state : StageAttemptState) : Option Nat :=
  (state.activityEvents.flatMap fun event => tokenObservations (asRecord (some event))).max?

/-! ## Outcomes -/

def StageQualityOutcome.ofText? : String → Option StageQualityOutcome
  | "pass" => some .pass
  | "repair_required" => some .repairRequired
  | "quality_debt" => some .qualityDebt
  | "blocked" => some .blocked
  | "human_gate" => some .humanGate
  | _ => none

/-- `stageQualityOutcomeFromEnvelope`. -/
def stageQualityOutcomeFromEnvelope (envelope : JsonRecord) : Checked StageQualityOutcome := do
  ensure (hasOwn envelope "verdict" = false)
    "Stage quality Attempt must return outcome; verdict is reserved for controller-generated review receipts."
  match (stringField? envelope "outcome").bind StageQualityOutcome.ofText? with
  | some outcome => return outcome
  | none => fail "Unknown Stage quality outcome."

def stageQualityAttemptOutcomeFromEnvelope (attemptRole : StageQualityAttemptRole)
    (envelope : JsonRecord) : Checked (Option StageQualityOutcome) :=
  if attemptRole.reviews then do
    let outcome ← stageQualityOutcomeFromEnvelope envelope
    return some outcome
  else do
    ensure (hasOwn envelope "outcome" = false ∧ hasOwn envelope "verdict" = false)
      "Producer and repairer Stage quality Attempts must not return outcome or verdict."
    return none

def stageReviewVerdictForOutcome : StageQualityOutcome → StageQualityReviewVerdict
  | .pass => .pass
  | .repairRequired => .repairRequired
  | .qualityDebt => .qualityDebt
  | .blocked | .humanGate => .hardStop

/-- `optionalAgentRefList`: a single ref counts as a list of one. -/
def optionalAgentRefList (value : Option Json) (field : String) : Checked (List String) :=
  match present? value with
  | none => .ok []
  | some (.array []) => .ok []
  | some (.array entries) => evidenceRefStrings (some (.array entries)) field false
  | some entry => evidenceRefStrings (some (.array [entry])) field false

def optionalEnvelopeRefs (envelope : JsonRecord) (singularField pluralField : String) :
    Checked (List String) := do
  let singular ← optionalAgentRefList (field? envelope singularField) singularField
  let plural ← optionalAgentRefList (field? envelope pluralField) pluralField
  return (singular ++ plural).eraseDups

/-- A hard stop that a reviewer or the provider declares. -/
structure DeclaredHardStop where
  hardStopClass : StageQualityHardStopClass
  blockedReason : String
  typedBlockerRefs : List String
  humanGateRefs : List String
  deriving DecidableEq

def validateStageQualityReviewHardStopOutcome (outcome : StageQualityOutcome)
    (envelope : JsonRecord) : Checked DeclaredHardStop := do
  match (stringField? envelope "hard_stop_class").bind StageQualityHardStopClass.ofText? with
  | none => fail "Stage Review hard-stop outcome requires a declared canonical hard_stop_class."
  | some hardStopClass => do
    let blockedReason ← requiredText (field? envelope "blocked_reason") "blocked_reason"
    let typedBlockerRefs ← optionalEnvelopeRefs envelope "typed_blocker_ref" "typed_blocker_refs"
    let humanGateRefs ← optionalEnvelopeRefs envelope "human_gate_ref" "human_gate_refs"
    ensure (outcome = .blocked → typedBlockerRefs ≠ [])
      "Stage Review blocked outcome requires a domain-owned typed blocker ref."
    ensure (outcome = .humanGate →
        hardStopClass = .humanDecisionRequired ∧ humanGateRefs ≠ [])
      "Stage Review human_gate outcome requires hard_stop_class=human_decision_required and a human-gate ref."
    return { hardStopClass, blockedReason, typedBlockerRefs, humanGateRefs }

/-- `providerRuntimeHardStop`: a blocked provider activity whose closeout names a
hard-stop class. -/
def StageAttemptState.providerRuntimeHardStop (state : StageAttemptState) :
    Option DeclaredHardStop :=
  let rejectedWrites := asRecordList (field? state.closeout "rejected_writes")
  if field? state.closeout "activity_status" = some (.string "blocked") ∧
      field? state.closeoutAuthority "provider_runtime_blocker_ref_only" = some (.bool true) ∧
      (∃ entry ∈ rejectedWrites,
        field? entry "surface_kind" = some (.string "opl_provider_runtime_typed_blocker_ref")) then
    ((stringField? state.routeImpact "hard_stop_class").bind StageQualityHardStopClass.ofText?).map
      fun hardStopClass => {
        hardStopClass
        blockedReason := match stringField? state.closeout "blocked_reason" with
          | none | some "" => "stage_quality_provider_runtime_hard_stop"
          | some reason => reason
        typedBlockerRefs := (rejectedWrites.filterMap (stringField? · "blocker_ref")).filter (· ≠ "")
        humanGateRefs := state.humanGateRefs.filter (· ≠ "") }
  else none

/-! ## Artifact identities -/

structure ArtifactIdentity where
  artifactRefs : List String
  artifactHashes : List String
  artifactIdentityReceiptRefs : List String
  deriving DecidableEq

def nonEmptyStringSequence (values : List Json) (field : String) : Checked (List String) := do
  ensure (∀ value ∈ values, trim (value.asString?.getD "") ≠ "")
    s!"{field} must contain non-empty strings."
  return values.map fun value => trim (value.asString?.getD "")

/-- `normalizeStageQualityArtifactIdentity`, which may come out empty here. -/
def normalizeStageQualityArtifactIdentity (artifactRefs artifactHashes : List Json) :
    Checked (List String × List String) := do
  let refs ← nonEmptyStringSequence artifactRefs "artifact_refs"
  let hashes ← nonEmptyStringSequence artifactHashes "artifact_hashes"
  ensure (refs.length = hashes.length) "Artifact refs and hashes must have equal cardinality."
  uniqueIds refs "artifact_refs"
  return (refs, hashes)

def isHexDigit (c : Char) : Bool :=
  ('0' ≤ c && c ≤ '9') || ('a' ≤ c && c ≤ 'f') || ('A' ≤ c && c ≤ 'F')

/-- The digits of a SHA-256 digest, with or without the notation `sha256:`. -/
def sha256Digits? (value : String) : Option (List Char) :=
  let text := characters value
  let digits := if "sha256:".toList.isPrefixOf text then text.drop 7 else text
  if digits.length = 64 ∧ digits.all isHexDigit then some (digits.map lowerChar) else none

/-- `comparableArtifactHash`. -/
def comparableArtifactHash (value : String) : String :=
  ((sha256Digits? value).map String.ofList).getD value

def artifactFailure (message : String) (hardStopClass : StageQualityHardStopClass)
    (blockedReason sourceAttemptRef : String) : WorkflowFailure :=
  .contract message (some { hardStopClass, blockedReason, sourceAttemptRef := some sourceAttemptRef })

def attemptRefOf (stageAttemptId : String) : String := s!"opl://stage_attempts/{stageAttemptId}"

/-- An array field, or nothing. -/
def arrayField (record : JsonRecord) (field : String) : List Json :=
  match field? record field with
  | some (.array entries) => entries
  | _ => []

/-- The ref and the hash of raw executor output. -/
def rawArtifact? (entry : JsonRecord) : Option (String × String) :=
  if field? entry "ref_kind" = some (.string "raw_executor_output") then
    match (stringField? entry "ref").or (stringField? entry "uri"), stringField? entry "sha256" with
    | some ref, some hash => if ref ≠ "" ∧ hash ≠ "" then some (ref, hash) else none
    | _, _ => none
  else none

/-- The transport receipt for one artifact. -/
def artifactReceipt (hashIdentity : String → String) (metadata : List JsonRecord)
    (sourceAttemptRef artifactRef artifactHash : String) : Controlled String :=
  let entry? := metadata.find? fun entry =>
    field? entry "ref" = some (.string artifactRef) || field? entry "uri" = some (.string artifactRef)
  match entry?, entry?.bind (stringField? · "sha256") with
  | some entry, some sha256 =>
    if hashIdentity sha256 = hashIdentity artifactHash then
      match stringField? entry "artifact_identity_receipt_ref" with
      | some receipt =>
        if trim receipt ≠ "" then .ok (trim receipt)
        else .error (missing)
      | none => .error missing
    else .error mismatched
  | _, _ => .error mismatched
where
  mismatched := artifactFailure
    "Producer and repairer artifact identity must match transport-verified closeout_ref_metadata SHA receipts."
    .staleOrMismatchedStageIdentity "artifact_byte_identity_mismatch" sourceAttemptRef
  missing := artifactFailure
    "Producer and repairer artifacts require a verified artifact identity receipt before formal Review."
    .authorityBoundaryViolation "artifact_identity_receipt_missing_authority_violation"
    sourceAttemptRef

def artifactReceipts (hashIdentity : String → String) (metadata : List JsonRecord)
    (sourceAttemptRef : String) : List (String × String) → Controlled (List String)
  | [] => .ok []
  | (artifactRef, artifactHash) :: rest => do
    let receipt ← artifactReceipt hashIdentity metadata sourceAttemptRef artifactRef artifactHash
    let receipts ← artifactReceipts hashIdentity metadata sourceAttemptRef rest
    return receipt :: receipts

/-- How `qualityArtifactIdentity` reads an attempt, by the patches of its run. -/
structure ArtifactReading where
  requireDeclaredArtifactIdentity : Bool
  structuredReviewerIdentityFailure : Bool
  canonicalSha256NotationEnabled : Bool

/-- The artifacts that an attempt declares, or else its raw output. -/
def declaredArtifacts (state : StageAttemptState) (value : JsonRecord)
    (reading : ArtifactReading) : Controlled (List String × List String) := do
  let declaredArtifactRefs := arrayField value "artifact_refs"
  let declaredArtifactHashes := arrayField value "artifact_hashes"
  let legacyRaw := if reading.requireDeclaredArtifactIdentity = false ∧ state.rawExecutorOutput then
    state.closeoutRefMetadata.filterMap rawArtifact? else []
  let artifacts ← Checked.controlled <| normalizeStageQualityArtifactIdentity
    (if declaredArtifactRefs ≠ [] then declaredArtifactRefs
      else legacyRaw.map fun entry => .string entry.1)
    (if declaredArtifactHashes ≠ [] then declaredArtifactHashes
      else legacyRaw.map fun entry => .string entry.2)
  if artifacts.1 = [] then
    throw (artifactFailure
      "Stage quality producer or repairer did not declare a consumable artifact identity in stage_quality_cycle."
      .zeroConsumableArtifact "stage_quality_attempt_without_consumable_artifact"
      (attemptRefOf state.stageAttemptId))
  return artifacts

/-- A reviewer that declares artifacts must declare the ones it was given. -/
def keepArtifactIdentity (hashIdentity : String → String) (reading : ArtifactReading)
    (sourceAttemptRef : String) (artifacts : List String × List String)
    (inputIdentity : ArtifactIdentity) : Controlled ArtifactIdentity :=
  if artifacts.1 = inputIdentity.artifactRefs ∧
      artifacts.2.map hashIdentity = inputIdentity.artifactHashes.map hashIdentity then
    .ok inputIdentity
  else if reading.structuredReviewerIdentityFailure then
    .error (artifactFailure replaced .staleOrMismatchedStageIdentity
      "reviewed_artifact_identity_mismatch" sourceAttemptRef)
  else .error (.thrown replaced)
where
  replaced := "Reviewer Attempt cannot replace the exact artifact identity it was asked to review."

/-- A reviewer is given an identity and may not replace it; a producer or a
repairer declares its own. -/
def qualityArtifactIdentity (state : StageAttemptState) (value : JsonRecord)
    (reading : ArtifactReading) (inputIdentity : Option ArtifactIdentity) :
    Controlled ArtifactIdentity :=
  let hashIdentity := if reading.canonicalSha256NotationEnabled then comparableArtifactHash else id
  let sourceAttemptRef := attemptRefOf state.stageAttemptId
  match inputIdentity with
  | some given =>
    if arrayField value "artifact_refs" = [] ∧ arrayField value "artifact_hashes" = [] then .ok given
    else do
      let artifacts ← declaredArtifacts state value reading
      keepArtifactIdentity hashIdentity reading sourceAttemptRef artifacts given
  | none => do
    let artifacts ← declaredArtifacts state value reading
    let artifactIdentityReceiptRefs ← artifactReceipts hashIdentity state.closeoutRefMetadata
      sourceAttemptRef (artifacts.1.zip artifacts.2)
    return { artifactRefs := artifacts.1, artifactHashes := artifacts.2, artifactIdentityReceiptRefs }

/-! ## What a reviewed identity keeps -/

theorem keepArtifactIdentity_eq_ok {hashIdentity : String → String} {reading : ArtifactReading}
    {sourceAttemptRef : String} {artifacts : List String × List String}
    {given identity : ArtifactIdentity}
    (kept : keepArtifactIdentity hashIdentity reading sourceAttemptRef artifacts given =
      .ok identity) : identity = given := by
  unfold keepArtifactIdentity at kept
  split_ifs at kept
  exact (Except.ok.inj kept).symm

/-- A reviewer hands back the identity it was given. -/
theorem qualityArtifactIdentity_of_input {state : StageAttemptState} {value : JsonRecord}
    {reading : ArtifactReading} {given identity : ArtifactIdentity}
    (read : qualityArtifactIdentity state value reading (some given) = .ok identity) :
    identity = given := by
  simp only [qualityArtifactIdentity] at read
  split at read
  · exact (Except.ok.inj read).symm
  · cases declared : declaredArtifacts state value reading with
    | error failure =>
      rw [declared] at read
      cases read
    | ok artifacts =>
      rw [declared] at read
      exact keepArtifactIdentity_eq_ok read

end OnePersonLab.Stage

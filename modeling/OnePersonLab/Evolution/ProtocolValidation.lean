import Mathlib.Algebra.Field.Rat
import OnePersonLab.Evolution.Protocol

/-!
# Validation of the protocol objects

The validators of `protocol.ts` over values that already have the closed shape
of their type; a value of another shape is rejected before any of these checks.
`isFinite` holds of every rational and leaves no check behind.
-/

namespace OnePersonLab.Evolution

open Contract

/-- `Date.parse` and `Date.prototype.toISOString`; the content digest is sha256
over the canonical JSON text, and `localeAtMost` orders two values by
`localeCompare` of their canonical texts. -/
structure Platform where
  digest : Json → String
  digest_wellFormed : ∀ value, isSha256Digest (digest value) = true
  localeAtMost : Json → Json → Bool
  dateParse : String → Option Int
  toISOString : Int → String

def maxSafeInteger : Nat := 2 ^ 53 - 1

/-- `Number.isSafeInteger`. -/
def isSafeInteger (value : ℚ) : Bool := value.den == 1 && decide (value.num.natAbs ≤ maxSafeInteger)

def foundryContentDigest (platform : Platform) (value : Json) : Checked String := do
  assertFoundryProtocolPurity value "Foundry protocol object"
  return platform.digest value

theorem foundryContentDigest_eq_ok {platform : Platform} {value : Json} {digest : String} :
    foundryContentDigest platform value = .ok digest ↔
      scanForbidden value [] = [] ∧ platform.digest value = digest := by
  simp [foundryContentDigest, assertFoundryProtocolPurity]

/-- The target identity that every protocol object carries. -/
structure TargetIdentity where
  targetAgentId : String
  targetDomainId : String
  targetVersionRef : Option String
  deriving DecidableEq

def DesignRequest.target (request : DesignRequest) : TargetIdentity :=
  ⟨request.targetAgentId, request.targetDomainId, request.targetVersionRef⟩

def AgentBlueprint.target (blueprint : AgentBlueprint) : TargetIdentity :=
  ⟨blueprint.targetAgentId, blueprint.targetDomainId, blueprint.targetVersionRef⟩

def EvidenceBundle.target (evidence : EvidenceBundle) : TargetIdentity :=
  ⟨evidence.targetAgentId, evidence.targetDomainId, evidence.targetVersionRef⟩

def EvolutionProposal.target (proposal : EvolutionProposal) : TargetIdentity :=
  ⟨proposal.targetAgentId, proposal.targetDomainId, proposal.targetVersionRef⟩

def assertSameTarget (left right : TargetIdentity) (label : String) : Checked Unit :=
  ensure (left = right) s!"{label} target identity is stale or mismatched."

def assertIdentity (identity : TargetIdentity) (label : String) : Checked Unit := do
  let _ ← requiredString identity.targetAgentId s!"{label}.target_agent_id"
  let _ ← requiredString identity.targetDomainId s!"{label}.target_domain_id"
  match identity.targetVersionRef with
  | none => return ()
  | some ref =>
    let _ ← requiredDigest ref s!"{label}.target_version_ref"
    return ()

def assertBase (identity : TargetIdentity) (form : Json) (label : String) : Checked Unit := do
  assertIdentity identity label
  assertFoundryProtocolPurity form label

/-- Check every entry together with its index. -/
def checkIndexed {α : Type} (check : α → Nat → Checked Unit) (entries : List α) : Checked Unit :=
  checkEach (fun entry => check entry.1 entry.2) entries.zipIdx

theorem checkIndexed_eq_ok {α : Type} {check : α → Nat → Checked Unit} {entries : List α}
    {result : Unit} (valid : α → Prop)
    (characterised : ∀ entry index, check entry index = .ok () ↔ valid entry) :
    checkIndexed check entries = .ok result ↔ ∀ entry ∈ entries, valid entry := by
  simp only [checkIndexed, checkEach_eq_ok, characterised]
  constructor
  · intro checked entry membership
    obtain ⟨index, bound, rfl⟩ := List.mem_iff_getElem.1 membership
    exact checked (entries[index], index) (by simp [List.mem_zipIdx_iff_getElem?])
  · intro checked entry membership
    exact checked _ (List.fst_mem_of_mem_zipIdx membership)

def assertNonNegativeNumericMap (record : NumericMap) (field : String) : Checked Unit := do
  checkEach (fun entry => ensure (trim entry.1 ≠ "") s!"{field}.{entry.1} must be a finite number.")
    record.entries
  checkEach (fun entry => ensure (0 ≤ entry.2) s!"{field}.{entry.1} must be a non-negative limit.")
    record.entries

def assertNumericMap (record : NumericMap) (field : String) : Checked Unit :=
  checkEach (fun entry => ensure (trim entry.1 ≠ "") s!"{field}.{entry.1} must be a finite number.")
    record.entries

def assertDateTime (platform : Platform) (value field : String) : Checked Unit := do
  let text ← requiredString value field
  ensure ((platform.dateParse text).isSome = true) s!"{field} must be an RFC 3339 date-time."

/-! ## Design requests -/

def requiredUniqueContentRefList (values : List String) (field : String) (minimumItems : Nat) :
    Checked (List String) := do
  let refs ← requiredUniqueStringList values field minimumItems
  checkIndexed (fun ref index =>
    ensure (isContentRef ref = true)
      s!"{field}[{index}] must be an exact opl-content SHA-256 ref.") refs
  return refs

def ownerReceiptFront : String := "opl://foundry/owner-authority-receipts/"

def validateBaselineAdoptionRequest (adoption : BaselineAdoptionRequest) :
    Checked BaselineAdoptionRequest := do
  let ownerAuthorizationRef ← requiredString adoption.ownerAuthorizationRef
    "DesignRequest.baseline_adoption.owner_authorization_ref"
  ensure (startsWith ownerAuthorizationRef ownerReceiptFront = true ∧
      isSha256Digest (String.ofList
        ((characters ownerAuthorizationRef).drop (characters ownerReceiptFront).length)) = true)
    "DesignRequest.baseline_adoption.owner_authorization_ref must bind an exact OwnerGate receipt."
  let evidenceRefs ← requiredUniqueContentRefList adoption.evidenceRefs
    "DesignRequest.baseline_adoption.evidence_refs" 1
  let qualificationObligationRefs ← requiredUniqueContentRefList
    adoption.qualificationObligationRefs
    "DesignRequest.baseline_adoption.qualification_obligation_refs" 1
  return { ownerAuthorizationRef, evidenceRefs, qualificationObligationRefs }

def validateDesignRequest (request : DesignRequest) : Checked DesignRequest := do
  assertBase request.target request.toJson "DesignRequest"
  ensure (request.mode = .create → request.targetVersionRef = none)
    "Create DesignRequest must not bind a target version."
  ensure (request.mode ≠ .create → request.targetVersionRef ≠ none)
    "Takeover and improve DesignRequest must bind an exact target version digest."
  let _ ← requiredString request.requestId "DesignRequest.request_id"
  let _ ← requiredString request.objective "DesignRequest.objective"
  let _ ← requiredUniqueStringList request.acceptanceCriteria "DesignRequest.acceptance_criteria" 0
  let _ ← requiredUniqueStringList request.nonGoals "DesignRequest.non_goals" 0
  let _ ← requiredUniqueStringList request.sourceRefs "DesignRequest.source_refs" 0
  let _ ← requiredUniqueStringList request.constraints.capabilityRefs
    "DesignRequest.constraints.capability_refs" 0
  let _ ← requiredUniqueStringList request.constraints.permissionRefs
    "DesignRequest.constraints.permission_refs" 0
  let _ ← requiredUniqueStringList request.constraints.privacyRequirements
    "DesignRequest.constraints.privacy_requirements" 0
  assertNonNegativeNumericMap request.constraints.costLimits
    "DesignRequest.constraints.cost_limits"
  assertNonNegativeNumericMap request.constraints.latencyLimits
    "DesignRequest.constraints.latency_limits"
  ensure (1 ≤ request.deliveryPolicy.maxGenerations ∧ request.deliveryPolicy.maxGenerations ≤ 5)
    "DesignRequest.delivery_policy.max_generations must be an integer from 1 to 5."
  match request.baselineAdoption with
  | none => return request
  | some adoption =>
    ensure (request.mode = .improve) "Baseline adoption requires DesignRequest.mode=improve."
    ensure (request.targetVersionRef ≠ none)
      "Baseline adoption requires an exact target AgentVersion digest."
    let _ ← requiredUniqueContentRefList request.sourceRefs "DesignRequest.source_refs" 1
    let _ ← requiredUniqueStringList request.constraints.permissionRefs
      "DesignRequest.constraints.permission_refs" 1
    let validated ← validateBaselineAdoptionRequest adoption
    return { request with baselineAdoption := some validated }

theorem assertBase_targetVersionRef {identity : TargetIdentity} {form : Json} {label : String}
    (asserted : assertBase identity form label = .ok ()) {ref : String}
    (named : identity.targetVersionRef = some ref) : ref ≠ "" := by
  simp only [assertBase, assertIdentity, named, bind_eq_ok, requiredDigest_eq_ok] at asserted
  obtain ⟨_, ⟨_, -, _, -, _, ⟨solid, -⟩, -⟩, -⟩ := asserted
  rintro rfl
  exact solid rfl

/-- What the kernel relies on of a valid request. -/
theorem validateDesignRequest_eq_ok {request result : DesignRequest}
    (validated : validateDesignRequest request = .ok result) :
    (result.mode = .create → result.targetVersionRef = none) ∧
      ∀ ref, result.targetVersionRef = some ref → ref ≠ "" := by
  simp only [validateDesignRequest, bind_eq_ok, ensure_eq_ok] at validated
  obtain ⟨_, based, _, unnamed, _, -, _, -, _, -, _, -, _, -, _, -, _, -, _, -, _, -, _, -, _, -,
    _, -, validated⟩ := validated
  have same : result.mode = request.mode ∧ result.targetVersionRef = request.targetVersionRef := by
    split at validated
    · rw [pure_eq_ok.1 validated]
      exact ⟨rfl, rfl⟩
    · simp only [bind_eq_ok, pure_eq_ok] at validated
      obtain ⟨_, -, _, -, _, -, _, -, _, -, rfl⟩ := validated
      exact ⟨rfl, rfl⟩
  rw [same.1, same.2]
  exact ⟨unnamed, fun ref named => assertBase_targetVersionRef based named⟩

theorem validateDesignRequest_maxGenerations {request result : DesignRequest}
    (validated : validateDesignRequest request = .ok result) :
    result.deliveryPolicy.maxGenerations ≤ 5 := by
  simp only [validateDesignRequest, bind_eq_ok, ensure_eq_ok] at validated
  obtain ⟨_, -, _, -, _, -, _, -, _, -, _, -, _, -, _, -, _, -, _, -, _, -, _, -, _, -, _,
    ⟨-, few⟩, validated⟩ := validated
  split at validated
  · rwa [← pure_eq_ok.1 validated]
  · simp only [bind_eq_ok, pure_eq_ok] at validated
    obtain ⟨_, -, _, -, _, -, _, -, _, -, rfl⟩ := validated
    exact few

/-! ## Blueprints -/

def validateEvalSpec (spec : EvalSpec) (label : String) : Checked Unit := do
  let _ ← requiredString spec.evalSpecId s!"{label}.eval_spec_id"
  checkIndexed (fun entry index => do
    let _ ← requiredString entry.caseId s!"{label}.public_cases[{index}].case_id"
    let _ ← requiredString entry.testRef s!"{label}.public_cases[{index}].test_ref"
    ensure (0 ≤ entry.weight)
      s!"{label}.public_cases[{index}] has invalid weight or required fields.") spec.publicCases
  ensure (spec.publicCases.map fun entry => trim entry.caseId).Nodup
    s!"{label}.public_cases case ids must be unique."
  ensure (0 < (spec.publicCases.map PublicCase.weight).sum)
    s!"{label}.public_cases must have positive total weight."
  checkIndexed (fun entry index => do
    let _ ← requiredString entry.category s!"{label}.protected_requirements[{index}].category"
    ensure (1 ≤ entry.minimumCaseCount ∧ entry.minimumCaseCount ≤ maxSafeInteger)
      s!"{label}.protected_requirements[{index}].minimum_case_count must be a positive integer.")
    spec.protectedRequirements
  ensure (spec.protectedRequirements.map fun entry => trim entry.category).Nodup
    s!"{label}.protected_requirements categories must be unique."
  checkIndexed (fun entry index => do
    let _ ← requiredString entry.gateId s!"{label}.gates[{index}].gate_id"
    let _ ← requiredString entry.metric s!"{label}.gates[{index}].metric"
    return ()) spec.gates
  ensure (spec.gates ≠ [] ∧ (spec.gates.map fun entry => trim entry.gateId).Nodup)
    s!"{label}.gates must contain unique gate ids."
  ensure (0 ≤ spec.baselineComparison.regressionTolerance)
    s!"{label}.baseline_comparison is invalid."
  ensure (spec.independentEvaluatorRequired = true)
    s!"{label}.independent_evaluator_required must be true."

def validateStage (stage : BlueprintStage) (label : String) : Checked Unit := do
  let _ ← requiredString stage.stageId s!"{label}.stage_id"
  let _ ← requiredString stage.stageKind s!"{label}.stage_kind"
  let _ ← requiredString stage.goal s!"{label}.goal"
  let _ ← requiredUniqueStringList stage.inputArtifactTypes s!"{label}.input_artifact_types" 0
  let _ ← requiredUniqueStringList stage.outputArtifactTypes s!"{label}.output_artifact_types" 0
  let _ ← requiredString stage.promptRef s!"{label}.prompt_ref"
  let _ ← requiredUniqueStringList stage.skillRefs s!"{label}.skill_refs" 0
  let _ ← requiredUniqueStringList stage.knowledgeRefs s!"{label}.knowledge_refs" 0
  let _ ← requiredUniqueStringList stage.capabilityRefs s!"{label}.capability_refs" 0
  let _ ← requiredUniqueStringList stage.nextStageIds s!"{label}.next_stage_ids" 0
  return ()

def validateStageGraph (graph : StageGraph) (label : String) : Checked (List String) := do
  let entry ← requiredString graph.entryStageId s!"{label}.entry_stage_id"
  checkIndexed (fun stage index => validateStage stage s!"{label}.stages[{index}]") graph.stages
  let stageIds := graph.stages.map fun stage => trim stage.stageId
  ensure (stageIds ≠ [] ∧ entry ∈ stageIds ∧ stageIds.Nodup)
    s!"{label} must contain one unique entry stage."
  checkIndexed (fun stage index =>
    ensure (∀ nextStageId ∈ stage.nextStageIds, nextStageId ∈ stageIds)
      s!"{label}.stages[{index}] references an unknown next Stage.") graph.stages
  return stageIds

def validateActions (actions : List BlueprintAction) (stageIds : List String) : Checked Unit := do
  ensure (actions ≠ []) "AgentBlueprint.actions must not be empty."
  checkIndexed (fun action index => do
    let _ ← requiredString action.actionId s!"AgentBlueprint.actions[{index}].action_id"
    let _ ← requiredString action.summary s!"AgentBlueprint.actions[{index}].summary"
    let entryStageId ← requiredString action.entryStageId
      s!"AgentBlueprint.actions[{index}].entry_stage_id"
    ensure (entryStageId ∈ stageIds)
      s!"AgentBlueprint.actions[{index}].entry_stage_id references an unknown Stage."
    let _ ← requiredString action.inputSchemaRef
      s!"AgentBlueprint.actions[{index}].input_schema_ref"
    let _ ← requiredString action.outputSchemaRef
      s!"AgentBlueprint.actions[{index}].output_schema_ref"
    return ()) actions
  ensure (actions.map fun action => trim action.actionId).Nodup
    "AgentBlueprint action ids must be unique."

def validateArtifactContracts (contracts : List ArtifactContract) : Checked Unit := do
  checkIndexed (fun artifact index => do
    let _ ← requiredString artifact.artifactType
      s!"AgentBlueprint.artifact_contracts[{index}].artifact_type"
    let _ ← requiredString artifact.schemaRef
      s!"AgentBlueprint.artifact_contracts[{index}].schema_ref"
    let _ ← requiredString artifact.authorityOwnerRef
      s!"AgentBlueprint.artifact_contracts[{index}].authority_owner_ref"
    return ()) contracts
  ensure (contracts.map fun artifact => trim artifact.artifactType).Nodup
    "AgentBlueprint artifact types must be unique."

def validateContentRefs (refs : ContentRefs) (label : String) : Checked ContentRefs := do
  let promptRefs ← requiredUniqueStringList refs.promptRefs s!"{label}.prompt_refs" 0
  let skillRefs ← requiredUniqueStringList refs.skillRefs s!"{label}.skill_refs" 0
  let knowledgeRefs ← requiredUniqueStringList refs.knowledgeRefs s!"{label}.knowledge_refs" 0
  let helperRefs ← requiredUniqueStringList refs.helperRefs s!"{label}.helper_refs" 0
  let modelRefs ← requiredUniqueStringList refs.modelRefs s!"{label}.model_refs" 0
  let toolRefs ← requiredUniqueStringList refs.toolRefs s!"{label}.tool_refs" 0
  let schemaRefs ← requiredUniqueStringList refs.schemaRefs s!"{label}.schema_refs" 0
  checkIndexed (fun schemaRef index =>
    ensure (isContentRef schemaRef = true)
      s!"{label}.schema_refs[{index}] must be an exact opl-content ref.") schemaRefs
  return { promptRefs, skillRefs, knowledgeRefs, helperRefs, modelRefs, toolRefs, schemaRefs }

def validateDeclaredSchemas (actions : List BlueprintAction) (contracts : List ArtifactContract)
    (contentRefs : ContentRefs) : Checked Unit := do
  checkIndexed (fun action index => do
    ensure (action.inputSchemaRef ∈ contentRefs.schemaRefs)
      s!"AgentBlueprint.actions[{index}].input_schema_ref is not declared in content_refs.schema_refs."
    ensure (action.outputSchemaRef ∈ contentRefs.schemaRefs)
      s!"AgentBlueprint.actions[{index}].output_schema_ref is not declared in content_refs.schema_refs.")
    actions
  checkIndexed (fun artifact index =>
    ensure (artifact.schemaRef ∈ contentRefs.schemaRefs)
      s!"AgentBlueprint.artifact_contracts[{index}].schema_ref is not declared in content_refs.schema_refs.")
    contracts

def validateStageBindings (stages : List BlueprintStage) (contentRefs : ContentRefs)
    (capabilityRequirements : List String) : Checked Unit :=
  checkIndexed (fun stage index => do
    ensure (stage.promptRef ∈ contentRefs.promptRefs)
      s!"AgentBlueprint.stage_graph.stages[{index}].prompt_ref is not declared in content_refs.prompt_refs."
    ensure (stage.skillRefs ⊆ contentRefs.skillRefs)
      s!"AgentBlueprint.stage_graph.stages[{index}].skill_refs contains an undeclared ref."
    ensure (stage.knowledgeRefs ⊆ contentRefs.knowledgeRefs)
      s!"AgentBlueprint.stage_graph.stages[{index}].knowledge_refs contains an undeclared ref."
    ensure (stage.capabilityRefs ⊆ capabilityRequirements)
      s!"AgentBlueprint.stage_graph.stages[{index}].capability_refs contains an undeclared ref.")
    stages

def validateAuthorityPolicy (policy : AuthorityPolicy) (label : String) : Checked Unit := do
  let _ ← requiredString policy.truthOwnerRef s!"{label}.truth_owner_ref"
  let _ ← requiredString policy.artifactOwnerRef s!"{label}.artifact_owner_ref"
  let _ ← requiredString policy.qualityOwnerRef s!"{label}.quality_owner_ref"
  let _ ← requiredUniqueStringList policy.permissionRefs s!"{label}.permission_refs" 0
  ensure (policy.generatedAgentCanModifyVersions = false)
    s!"{label}.generated_agent_can_modify_versions must be false."
  ensure (policy.generatedAgentCanModifyEvaluation = false)
    s!"{label}.generated_agent_can_modify_evaluation must be false."
  ensure (policy.generatedAgentCanModifyPermissions = false)
    s!"{label}.generated_agent_can_modify_permissions must be false."
  ensure (policy.generatedAgentCanModifyActivation = false)
    s!"{label}.generated_agent_can_modify_activation must be false."

/-- What `validateAgentBlueprint` checks after the base. -/
def validateBlueprintBody (blueprint : AgentBlueprint) : Checked AgentBlueprint := do
  let _ ← requiredString blueprint.blueprintId "AgentBlueprint.blueprint_id"
  let _ ← requiredDigest blueprint.designRequestDigest "AgentBlueprint.design_request_digest"
  let stageIds ← validateStageGraph blueprint.stageGraph "AgentBlueprint.stage_graph"
  validateActions blueprint.actions stageIds
  validateArtifactContracts blueprint.artifactContracts
  let contentRefs ← validateContentRefs blueprint.contentRefs "AgentBlueprint.content_refs"
  validateDeclaredSchemas blueprint.actions blueprint.artifactContracts contentRefs
  let capabilityRequirements ← requiredUniqueStringList blueprint.capabilityRequirements
    "AgentBlueprint.capability_requirements" 0
  validateStageBindings blueprint.stageGraph.stages contentRefs capabilityRequirements
  validateAuthorityPolicy blueprint.authorityPolicy "AgentBlueprint.authority_policy"
  let _ ← requiredUniqueStringList blueprint.memoryPolicy.memoryClasses
    "AgentBlueprint.memory_policy.memory_classes" 0
  let _ ← requiredUniqueStringList blueprint.memoryPolicy.retentionRefs
    "AgentBlueprint.memory_policy.retention_refs" 0
  let _ ← requiredUniqueStringList blueprint.memoryPolicy.writeAuthorityRefs
    "AgentBlueprint.memory_policy.write_authority_refs" 0
  let _ ← requiredUniqueStringList blueprint.assumptions "AgentBlueprint.assumptions" 0
  let _ ← requiredUniqueStringList blueprint.designEvidenceRefs
    "AgentBlueprint.design_evidence_refs" 0
  validateEvalSpec blueprint.evalSpec "AgentBlueprint.eval_spec"
  return blueprint

def validateAgentBlueprint (blueprint : AgentBlueprint) : Checked AgentBlueprint := do
  assertBase blueprint.target blueprint.toJson "AgentBlueprint"
  validateBlueprintBody blueprint

/-! ## Evidence bundles -/

def validatePublicResult (entry : PublicCaseResult) (label : String) : Checked Unit := do
  let _ ← requiredString entry.caseId s!"{label}.case_id"
  ensure (0 ≤ entry.score ∧ entry.score ≤ 1)
    s!"{label}.score must be a finite number from 0 to 1."
  let _ ← requiredUniqueStringList entry.evidenceRefs s!"{label}.evidence_refs" 1
  return ()

def validatePublicResults (results : List PublicCaseResult) (label : String) : Checked Unit :=
  checkIndexed (fun entry index => validatePublicResult entry s!"{label}[{index}]") results

def validateProtectedAggregate (entry : ProtectedAggregate) (label : String) : Checked Unit := do
  let _ ← requiredString entry.category s!"{label}.category"
  ensure (isSafeInteger entry.total = true ∧ 0 ≤ entry.total)
    s!"{label}.total must be a non-negative integer."
  ensure (isSafeInteger entry.passed = true ∧ 0 ≤ entry.passed)
    s!"{label}.passed must be a non-negative integer."
  ensure (isSafeInteger entry.failed = true ∧ 0 ≤ entry.failed)
    s!"{label}.failed must be a non-negative integer."
  ensure (entry.passed + entry.failed = entry.total) s!"{label} counts must sum to total."
  ensure (0 ≤ entry.score ∧ entry.score ≤ 1)
    s!"{label}.score must be a finite number from 0 to 1."

def validateProtectedAggregates (aggregates : List ProtectedAggregate) (label : String) :
    Checked Unit := do
  checkIndexed (fun entry index => validateProtectedAggregate entry s!"{label}[{index}]") aggregates
  ensure (aggregates.map ProtectedAggregate.category).Nodup s!"{label} categories must be unique."

def validateIndependentReview (review : IndependentReview) (label : String) : Checked Unit := do
  let _ ← requiredString review.evaluatorRef s!"{label}.evaluator_ref"
  let _ ← requiredString review.evaluationExecutionRef s!"{label}.evaluation_execution_ref"
  let _ ← requiredString review.reviewExecutionRef s!"{label}.review_execution_ref"
  ensure (review.evaluationExecutionRef ≠ review.reviewExecutionRef)
    "EvidenceBundle evaluation and independent review must use different executions."
  let _ ← requiredUniqueStringList review.findings s!"{label}.findings" 0
  let _ ← requiredUniqueStringList review.evidenceRefs s!"{label}.evidence_refs" 1
  return ()

def validateSafetyObservation (entry : SafetyObservation) (label : String) : Checked Unit := do
  let _ ← requiredString entry.observationId s!"{label}.observation_id"
  let _ ← requiredString entry.eventType s!"{label}.event_type"
  let _ ← requiredUniqueStringList entry.evidenceRefs s!"{label}.evidence_refs" 1
  return ()

def validateFailureClassification (entry : FailureClassification) (label : String) :
    Checked Unit := do
  let _ ← requiredString entry.failureClass s!"{label}.failure_class"
  let _ ← requiredString entry.gateId s!"{label}.gate_id"
  let _ ← requiredUniqueStringList entry.evidenceRefs s!"{label}.evidence_refs" 0
  return ()

def validateProvenance (platform : Platform) (provenance : EvidenceProvenance) (label : String) :
    Checked Unit := do
  ensure (provenance.generation ≤ maxSafeInteger) s!"{label} is required."
  let _ ← requiredString provenance.foundryRunId s!"{label}.foundry_run_id"
  let _ ← requiredString provenance.producerId s!"{label}.producer_id"
  assertDateTime platform provenance.evaluatedAt s!"{label}.evaluated_at"
  let _ ← requiredUniqueStringList provenance.sourceRefs s!"{label}.source_refs" 0
  return ()

def validateBaselineResults (evidence : EvidenceBundle) : Checked Unit := do
  match evidence.baselinePublicResults with
  | none => return ()
  | some results =>
    validatePublicResults results "EvidenceBundle.baseline_public_results"
    ensure (results ≠ []) "EvidenceBundle.baseline_public_results must not be empty when present."

def validateBaselineAggregates (evidence : EvidenceBundle) : Checked Unit :=
  match evidence.baselineProtectedAggregates with
  | none => .ok ()
  | some aggregates =>
    validateProtectedAggregates aggregates "EvidenceBundle.baseline_protected_aggregates"

def validateEvidenceBundle (platform : Platform) (evidence : EvidenceBundle) :
    Checked EvidenceBundle := do
  assertBase evidence.target evidence.toJson "EvidenceBundle"
  let _ ← requiredString evidence.evidenceId "EvidenceBundle.evidence_id"
  let _ ← requiredDigest evidence.blueprintDigest "EvidenceBundle.blueprint_digest"
  let _ ← requiredDigest evidence.candidateDigest "EvidenceBundle.candidate_digest"
  match evidence.baselineVersionDigest with
  | none => pure ()
  | some digest =>
    let _ ← requiredDigest digest "EvidenceBundle.baseline_version_digest"
    pure ()
  let _ ← requiredDigest evidence.frozenTestPlanDigest "EvidenceBundle.frozen_test_plan_digest"
  validatePublicResults evidence.publicResults "EvidenceBundle.public_results"
  ensure (evidence.publicResults ≠ []) "EvidenceBundle.public_results must not be empty."
  validateBaselineResults evidence
  validateProtectedAggregates evidence.protectedAggregates "EvidenceBundle.protected_aggregates"
  validateBaselineAggregates evidence
  ensure (evidence.baselineVersionDigest.isSome = evidence.baselinePublicResults.isSome ∧
      evidence.baselineVersionDigest.isSome = evidence.baselineProtectedAggregates.isSome)
    "EvidenceBundle baseline version, public results, and protected aggregates must be present or null together."
  validateIndependentReview evidence.independentReview "EvidenceBundle.independent_review"
  assertNonNegativeNumericMap evidence.candidateCostObservations
    "EvidenceBundle.candidate_cost_observations"
  assertNonNegativeNumericMap evidence.candidateLatencyObservations
    "EvidenceBundle.candidate_latency_observations"
  checkIndexed (fun entry index =>
    validateSafetyObservation entry s!"EvidenceBundle.safety_observations[{index}]")
    evidence.safetyObservations
  ensure (evidence.safetyObservations.map fun entry => trim entry.observationId).Nodup
    "EvidenceBundle.safety_observations observation ids must be unique."
  assertNumericMap evidence.safetyDelta "EvidenceBundle.safety_delta"
  assertNumericMap evidence.costDelta "EvidenceBundle.cost_delta"
  assertNumericMap evidence.latencyDelta "EvidenceBundle.latency_delta"
  checkIndexed (fun entry index =>
    validateFailureClassification entry s!"EvidenceBundle.failure_classification[{index}]")
    evidence.failureClassification
  ensure (0 ≤ evidence.gateScore ∧ evidence.gateScore ≤ 1)
    "EvidenceBundle qualification fields are invalid."
  validateProvenance platform evidence.provenance "EvidenceBundle.provenance"
  return evidence

/-- A bundle that passes is handed on unchanged. -/
theorem validateEvidenceBundle_eq_ok {platform : Platform} {evidence result : EvidenceBundle}
    (validated : validateEvidenceBundle platform evidence = .ok result) : result = evidence := by
  suffices returns : Returns evidence (validateEvidenceBundle platform evidence) from
    returns result validated
  unfold validateEvidenceBundle
  iterate 4 refine .bind fun _ => ?_
  split <;> (repeat refine .bind fun _ => ?_) <;> exact .pure evidence

/-! ## Evolution proposals -/

def validateEvolutionProposal (proposal : EvolutionProposal) : Checked EvolutionProposal := do
  assertBase proposal.target proposal.toJson "EvolutionProposal"
  let _ ← requiredString proposal.proposalId "EvolutionProposal.proposal_id"
  let _ ← requiredDigest proposal.blueprintDigest "EvolutionProposal.blueprint_digest"
  let _ ← requiredDigest proposal.evidenceDigest "EvolutionProposal.evidence_digest"
  ensure (proposal.rootCauses ≠ []) "EvolutionProposal.root_causes must not be empty."
  checkIndexed (fun entry index => do
    let _ ← requiredString entry.failureClass
      s!"EvolutionProposal.root_causes[{index}].failure_class"
    let _ ← requiredString entry.explanation s!"EvolutionProposal.root_causes[{index}].explanation"
    let _ ← requiredUniqueStringList entry.evidenceRefs
      s!"EvolutionProposal.root_causes[{index}].evidence_refs" 0
    return ()) proposal.rootCauses
  let next ← validateAgentBlueprint proposal.nextBlueprint
  checkIndexed (fun entry index => do
    let semanticPath ← requiredString entry.semanticPath
      s!"EvolutionProposal.semantic_diff[{index}].semantic_path"
    ensure (startsWith semanticPath "/" = true)
      "EvolutionProposal semantic paths must be JSON pointers."
    let _ ← requiredString entry.rationale s!"EvolutionProposal.semantic_diff[{index}].rationale"
    return ()) proposal.semanticDiff
  let _ ← requiredUniqueStringList proposal.expectedBenefits
    "EvolutionProposal.expected_benefits" 0
  checkIndexed (fun entry index => do
    let _ ← requiredString entry.caseId s!"EvolutionProposal.new_tests[{index}].case_id"
    let _ ← requiredString entry.testRef s!"EvolutionProposal.new_tests[{index}].test_ref"
    let _ ← requiredString entry.rationale s!"EvolutionProposal.new_tests[{index}].rationale"
    return ()) proposal.newTests
  ensure (proposal.newTests.map fun entry => trim entry.caseId).Nodup
    "EvolutionProposal.new_tests case ids must be unique."
  let _ ← requiredUniqueStringList proposal.tradeOffs "EvolutionProposal.trade_offs" 0
  ensure proposal.riskHints.Nodup "EvolutionProposal.risk_hints must contain unique values."
  return { proposal with nextBlueprint := next }

end OnePersonLab.Evolution

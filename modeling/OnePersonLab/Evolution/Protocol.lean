import OnePersonLab.Contract.Json

/-!
# The Foundry protocol objects

`DesignRequest`, `AgentBlueprint`, `EvidenceBundle` and `EvolutionProposal`, with
the JSON form that the content digest and the purity scan read. A field whose
value the protocol fixes (`surface_kind`, `version`) appears in the JSON form
only.
-/

namespace OnePersonLab.Evolution

open Contract

/-- A `Record<string, number>`, its entries in the order of the canonical text: an
object's keys are distinct. -/
structure NumericMap where
  entries : List (String × ℚ)
  distinctKeys : (entries.map Prod.fst).Nodup
  deriving DecidableEq

namespace NumericMap

def empty : NumericMap := ⟨[], by simp⟩

def keys (record : NumericMap) : List String := record.entries.map Prod.fst

def get? (record : NumericMap) (key : String) : Option ℚ := record.entries.lookup key

def toJson (record : NumericMap) : Json :=
  .object (record.entries.map fun entry => (entry.1, .number entry.2))

end NumericMap

inductive FoundryMode where
  | create
  | takeover
  | improve
  deriving DecidableEq, Repr

def FoundryMode.text : FoundryMode → String
  | .create => "create"
  | .takeover => "takeover"
  | .improve => "improve"

inductive FoundryRiskTier where
  | low
  | medium
  | high
  deriving DecidableEq, Repr

def FoundryRiskTier.text : FoundryRiskTier → String
  | .low => "low"
  | .medium => "medium"
  | .high => "high"

def FoundryRiskTier.ofText? : String → Option FoundryRiskTier
  | "low" => some .low
  | "medium" => some .medium
  | "high" => some .high
  | _ => none

inductive EvaluationStatus where
  | pass
  | fail
  | blocked
  deriving DecidableEq, Repr

def EvaluationStatus.text : EvaluationStatus → String
  | .pass => "pass"
  | .fail => "fail"
  | .blocked => "blocked"

inductive Severity where
  | low
  | medium
  | high
  | critical
  deriving DecidableEq, Repr

def Severity.text : Severity → String
  | .low => "low"
  | .medium => "medium"
  | .high => "high"
  | .critical => "critical"

inductive ActivationMode where
  | qualifyOnly
  | activate
  deriving DecidableEq, Repr

def ActivationMode.text : ActivationMode → String
  | .qualifyOnly => "qualify_only"
  | .activate => "activate"

/-! ## Design requests -/

structure BaselineAdoptionRequest where
  ownerAuthorizationRef : String
  evidenceRefs : List String
  qualificationObligationRefs : List String
  deriving DecidableEq

structure RequestConstraints where
  capabilityRefs : List String
  permissionRefs : List String
  privacyRequirements : List String
  costLimits : NumericMap
  latencyLimits : NumericMap
  deriving DecidableEq

structure DeliveryPolicy where
  activationMode : ActivationMode
  maxGenerations : Nat
  deriving DecidableEq

structure DesignRequest where
  requestId : String
  mode : FoundryMode
  targetAgentId : String
  targetDomainId : String
  targetVersionRef : Option String
  objective : String
  acceptanceCriteria : List String
  nonGoals : List String
  sourceRefs : List String
  constraints : RequestConstraints
  deliveryPolicy : DeliveryPolicy
  baselineAdoption : Option BaselineAdoptionRequest
  deriving DecidableEq

/-! ## Blueprints -/

structure PublicCase where
  caseId : String
  testRef : String
  weight : ℚ
  required : Bool
  deriving DecidableEq

structure ProtectedRequirement where
  category : String
  minimumCaseCount : Nat
  deriving DecidableEq

inductive GateOperator where
  | gte
  | lte
  | eq
  deriving DecidableEq, Repr

def GateOperator.text : GateOperator → String
  | .gte => "gte"
  | .lte => "lte"
  | .eq => "eq"

structure EvaluationGate where
  gateId : String
  metric : String
  operator : GateOperator
  threshold : ℚ
  required : Bool
  deriving DecidableEq

structure BaselineComparison where
  required : Bool
  regressionTolerance : ℚ
  deriving DecidableEq

structure EvalSpec where
  evalSpecId : String
  publicCases : List PublicCase
  protectedRequirements : List ProtectedRequirement
  gates : List EvaluationGate
  baselineComparison : BaselineComparison
  independentEvaluatorRequired : Bool
  deriving DecidableEq

structure BlueprintStage where
  stageId : String
  stageKind : String
  goal : String
  inputArtifactTypes : List String
  outputArtifactTypes : List String
  promptRef : String
  skillRefs : List String
  knowledgeRefs : List String
  capabilityRefs : List String
  nextStageIds : List String
  deriving DecidableEq

structure StageGraph where
  entryStageId : String
  stages : List BlueprintStage
  deriving DecidableEq

structure BlueprintAction where
  actionId : String
  summary : String
  entryStageId : String
  inputSchemaRef : String
  outputSchemaRef : String
  deriving DecidableEq

structure ArtifactContract where
  artifactType : String
  schemaRef : String
  authorityOwnerRef : String
  deriving DecidableEq

structure ContentRefs where
  promptRefs : List String
  skillRefs : List String
  knowledgeRefs : List String
  helperRefs : List String
  modelRefs : List String
  toolRefs : List String
  schemaRefs : List String
  deriving DecidableEq

structure AuthorityPolicy where
  truthOwnerRef : String
  artifactOwnerRef : String
  qualityOwnerRef : String
  permissionRefs : List String
  generatedAgentCanModifyVersions : Bool
  generatedAgentCanModifyEvaluation : Bool
  generatedAgentCanModifyPermissions : Bool
  generatedAgentCanModifyActivation : Bool
  deriving DecidableEq

structure MemoryPolicy where
  memoryClasses : List String
  retentionRefs : List String
  writeAuthorityRefs : List String
  deriving DecidableEq

structure AgentBlueprint where
  blueprintId : String
  targetAgentId : String
  targetDomainId : String
  targetVersionRef : Option String
  designRequestDigest : String
  generation : Nat
  stageGraph : StageGraph
  actions : List BlueprintAction
  artifactContracts : List ArtifactContract
  contentRefs : ContentRefs
  capabilityRequirements : List String
  authorityPolicy : AuthorityPolicy
  memoryPolicy : MemoryPolicy
  assumptions : List String
  designEvidenceRefs : List String
  evalSpec : EvalSpec
  riskHint : FoundryRiskTier
  deriving DecidableEq

/-! ## Evidence -/

structure PublicCaseResult where
  caseId : String
  status : EvaluationStatus
  score : ℚ
  evidenceRefs : List String
  deriving DecidableEq

structure ProtectedAggregate where
  category : String
  total : ℚ
  passed : ℚ
  failed : ℚ
  score : ℚ
  deriving DecidableEq

structure IndependentReview where
  evaluatorRef : String
  evaluationExecutionRef : String
  reviewExecutionRef : String
  verdict : EvaluationStatus
  findings : List String
  evidenceRefs : List String
  deriving DecidableEq

structure SafetyObservation where
  observationId : String
  eventType : String
  severity : Severity
  evidenceRefs : List String
  deriving DecidableEq

structure FailureClassification where
  failureClass : String
  gateId : String
  severity : Severity
  evidenceRefs : List String
  deriving DecidableEq

structure EvidenceProvenance where
  foundryRunId : String
  generation : Nat
  producerId : String
  evaluatedAt : String
  sourceRefs : List String
  deriving DecidableEq

structure EvidenceBundle where
  evidenceId : String
  targetAgentId : String
  targetDomainId : String
  targetVersionRef : Option String
  blueprintDigest : String
  candidateDigest : String
  baselineVersionDigest : Option String
  frozenTestPlanDigest : String
  publicResults : List PublicCaseResult
  baselinePublicResults : Option (List PublicCaseResult)
  baselineProtectedAggregates : Option (List ProtectedAggregate)
  protectedAggregates : List ProtectedAggregate
  independentReview : IndependentReview
  candidateCostObservations : NumericMap
  candidateLatencyObservations : NumericMap
  safetyObservations : List SafetyObservation
  safetyDelta : NumericMap
  costDelta : NumericMap
  latencyDelta : NumericMap
  failureClassification : List FailureClassification
  qualified : Bool
  gateScore : ℚ
  provenance : EvidenceProvenance
  deriving DecidableEq

/-! ## Evolution proposals -/

structure RootCause where
  failureClass : String
  explanation : String
  evidenceRefs : List String
  deriving DecidableEq

inductive SemanticOperation where
  | add
  | replace
  | remove
  deriving DecidableEq, Repr

def SemanticOperation.text : SemanticOperation → String
  | .add => "add"
  | .replace => "replace"
  | .remove => "remove"

structure SemanticChange where
  operation : SemanticOperation
  semanticPath : String
  rationale : String
  deriving DecidableEq

structure NewTest where
  caseId : String
  testRef : String
  rationale : String
  deriving DecidableEq

structure EvolutionProposal where
  proposalId : String
  targetAgentId : String
  targetDomainId : String
  targetVersionRef : Option String
  blueprintDigest : String
  evidenceDigest : String
  rootCauses : List RootCause
  nextBlueprint : AgentBlueprint
  semanticDiff : List SemanticChange
  expectedBenefits : List String
  newTests : List NewTest
  tradeOffs : List String
  riskHints : List FoundryRiskTier
  deriving DecidableEq

/-! ## JSON forms -/

def foundryProtocolVersion : String := "opl-foundry-protocol.v1"

def BaselineAdoptionRequest.toJson (adoption : BaselineAdoptionRequest) : Json :=
  .object [
    ("surface_kind", .string "opl_foundry_baseline_adoption_request"),
    ("version", .string "opl-foundry-baseline-adoption-request.v1"),
    ("owner_authorization_ref", .string adoption.ownerAuthorizationRef),
    ("evidence_refs", .ofStrings adoption.evidenceRefs),
    ("qualification_obligation_refs", .ofStrings adoption.qualificationObligationRefs)]

def RequestConstraints.toJson (constraints : RequestConstraints) : Json :=
  .object [
    ("capability_refs", .ofStrings constraints.capabilityRefs),
    ("permission_refs", .ofStrings constraints.permissionRefs),
    ("privacy_requirements", .ofStrings constraints.privacyRequirements),
    ("cost_limits", constraints.costLimits.toJson),
    ("latency_limits", constraints.latencyLimits.toJson)]

def DesignRequest.toJson (request : DesignRequest) : Json :=
  .object ([
    ("surface_kind", .string "opl_foundry_design_request"),
    ("version", .string foundryProtocolVersion),
    ("request_id", .string request.requestId),
    ("mode", .string request.mode.text),
    ("target_agent_id", .string request.targetAgentId),
    ("target_domain_id", .string request.targetDomainId),
    ("target_version_ref", .ofOptionalString request.targetVersionRef),
    ("objective", .string request.objective),
    ("acceptance_criteria", .ofStrings request.acceptanceCriteria),
    ("non_goals", .ofStrings request.nonGoals),
    ("source_refs", .ofStrings request.sourceRefs),
    ("constraints", request.constraints.toJson),
    ("delivery_policy", .object [
      ("activation_mode", .string request.deliveryPolicy.activationMode.text),
      ("max_generations", .ofNat request.deliveryPolicy.maxGenerations)])] ++
    match request.baselineAdoption with
    | none => []
    | some adoption => [("baseline_adoption", adoption.toJson)])

def PublicCase.toJson (testCase : PublicCase) : Json :=
  .object [
    ("case_id", .string testCase.caseId),
    ("test_ref", .string testCase.testRef),
    ("weight", .number testCase.weight),
    ("required", .bool testCase.required)]

def ProtectedRequirement.toJson (requirement : ProtectedRequirement) : Json :=
  .object [
    ("category", .string requirement.category),
    ("minimum_case_count", .ofNat requirement.minimumCaseCount)]

def EvaluationGate.toJson (gate : EvaluationGate) : Json :=
  .object [
    ("gate_id", .string gate.gateId),
    ("metric", .string gate.metric),
    ("operator", .string gate.operator.text),
    ("threshold", .number gate.threshold),
    ("required", .bool gate.required)]

def BaselineComparison.toJson (comparison : BaselineComparison) : Json :=
  .object [
    ("required", .bool comparison.required),
    ("regression_tolerance", .number comparison.regressionTolerance)]

def EvalSpec.toJson (spec : EvalSpec) : Json :=
  .object [
    ("eval_spec_id", .string spec.evalSpecId),
    ("public_cases", .array (spec.publicCases.map PublicCase.toJson)),
    ("protected_requirements", .array (spec.protectedRequirements.map ProtectedRequirement.toJson)),
    ("gates", .array (spec.gates.map EvaluationGate.toJson)),
    ("baseline_comparison", spec.baselineComparison.toJson),
    ("independent_evaluator_required", .bool spec.independentEvaluatorRequired)]

def BlueprintStage.toJson (stage : BlueprintStage) : Json :=
  .object [
    ("stage_id", .string stage.stageId),
    ("stage_kind", .string stage.stageKind),
    ("goal", .string stage.goal),
    ("input_artifact_types", .ofStrings stage.inputArtifactTypes),
    ("output_artifact_types", .ofStrings stage.outputArtifactTypes),
    ("prompt_ref", .string stage.promptRef),
    ("skill_refs", .ofStrings stage.skillRefs),
    ("knowledge_refs", .ofStrings stage.knowledgeRefs),
    ("capability_refs", .ofStrings stage.capabilityRefs),
    ("next_stage_ids", .ofStrings stage.nextStageIds)]

def StageGraph.toJson (graph : StageGraph) : Json :=
  .object [
    ("entry_stage_id", .string graph.entryStageId),
    ("stages", .array (graph.stages.map BlueprintStage.toJson))]

def BlueprintAction.toJson (action : BlueprintAction) : Json :=
  .object [
    ("action_id", .string action.actionId),
    ("summary", .string action.summary),
    ("entry_stage_id", .string action.entryStageId),
    ("input_schema_ref", .string action.inputSchemaRef),
    ("output_schema_ref", .string action.outputSchemaRef)]

def ArtifactContract.toJson (contract : ArtifactContract) : Json :=
  .object [
    ("artifact_type", .string contract.artifactType),
    ("schema_ref", .string contract.schemaRef),
    ("authority_owner_ref", .string contract.authorityOwnerRef)]

def ContentRefs.toJson (refs : ContentRefs) : Json :=
  .object [
    ("prompt_refs", .ofStrings refs.promptRefs),
    ("skill_refs", .ofStrings refs.skillRefs),
    ("knowledge_refs", .ofStrings refs.knowledgeRefs),
    ("helper_refs", .ofStrings refs.helperRefs),
    ("model_refs", .ofStrings refs.modelRefs),
    ("tool_refs", .ofStrings refs.toolRefs),
    ("schema_refs", .ofStrings refs.schemaRefs)]

def AuthorityPolicy.toJson (policy : AuthorityPolicy) : Json :=
  .object [
    ("truth_owner_ref", .string policy.truthOwnerRef),
    ("artifact_owner_ref", .string policy.artifactOwnerRef),
    ("quality_owner_ref", .string policy.qualityOwnerRef),
    ("permission_refs", .ofStrings policy.permissionRefs),
    ("generated_agent_can_modify_versions", .bool policy.generatedAgentCanModifyVersions),
    ("generated_agent_can_modify_evaluation", .bool policy.generatedAgentCanModifyEvaluation),
    ("generated_agent_can_modify_permissions", .bool policy.generatedAgentCanModifyPermissions),
    ("generated_agent_can_modify_activation", .bool policy.generatedAgentCanModifyActivation)]

def MemoryPolicy.toJson (policy : MemoryPolicy) : Json :=
  .object [
    ("memory_classes", .ofStrings policy.memoryClasses),
    ("retention_refs", .ofStrings policy.retentionRefs),
    ("write_authority_refs", .ofStrings policy.writeAuthorityRefs)]

def AgentBlueprint.toJson (blueprint : AgentBlueprint) : Json :=
  .object [
    ("surface_kind", .string "opl_foundry_agent_blueprint"),
    ("version", .string foundryProtocolVersion),
    ("blueprint_id", .string blueprint.blueprintId),
    ("target_agent_id", .string blueprint.targetAgentId),
    ("target_domain_id", .string blueprint.targetDomainId),
    ("target_version_ref", .ofOptionalString blueprint.targetVersionRef),
    ("design_request_digest", .string blueprint.designRequestDigest),
    ("generation", .ofNat blueprint.generation),
    ("stage_graph", blueprint.stageGraph.toJson),
    ("actions", .array (blueprint.actions.map BlueprintAction.toJson)),
    ("artifact_contracts", .array (blueprint.artifactContracts.map ArtifactContract.toJson)),
    ("content_refs", blueprint.contentRefs.toJson),
    ("capability_requirements", .ofStrings blueprint.capabilityRequirements),
    ("authority_policy", blueprint.authorityPolicy.toJson),
    ("memory_policy", blueprint.memoryPolicy.toJson),
    ("assumptions", .ofStrings blueprint.assumptions),
    ("design_evidence_refs", .ofStrings blueprint.designEvidenceRefs),
    ("eval_spec", blueprint.evalSpec.toJson),
    ("risk_hint", .string blueprint.riskHint.text)]

def PublicCaseResult.toJson (result : PublicCaseResult) : Json :=
  .object [
    ("case_id", .string result.caseId),
    ("status", .string result.status.text),
    ("score", .number result.score),
    ("evidence_refs", .ofStrings result.evidenceRefs)]

def ProtectedAggregate.toJson (aggregate : ProtectedAggregate) : Json :=
  .object [
    ("category", .string aggregate.category),
    ("total", .number aggregate.total),
    ("passed", .number aggregate.passed),
    ("failed", .number aggregate.failed),
    ("score", .number aggregate.score)]

def IndependentReview.toJson (review : IndependentReview) : Json :=
  .object [
    ("evaluator_ref", .string review.evaluatorRef),
    ("evaluation_execution_ref", .string review.evaluationExecutionRef),
    ("review_execution_ref", .string review.reviewExecutionRef),
    ("verdict", .string review.verdict.text),
    ("findings", .ofStrings review.findings),
    ("evidence_refs", .ofStrings review.evidenceRefs)]

def SafetyObservation.toJson (observation : SafetyObservation) : Json :=
  .object [
    ("observation_id", .string observation.observationId),
    ("event_type", .string observation.eventType),
    ("severity", .string observation.severity.text),
    ("evidence_refs", .ofStrings observation.evidenceRefs)]

def FailureClassification.toJson (classification : FailureClassification) : Json :=
  .object [
    ("failure_class", .string classification.failureClass),
    ("gate_id", .string classification.gateId),
    ("severity", .string classification.severity.text),
    ("evidence_refs", .ofStrings classification.evidenceRefs)]

def EvidenceProvenance.toJson (provenance : EvidenceProvenance) : Json :=
  .object [
    ("foundry_run_id", .string provenance.foundryRunId),
    ("generation", .ofNat provenance.generation),
    ("producer_id", .string provenance.producerId),
    ("evaluated_at", .string provenance.evaluatedAt),
    ("source_refs", .ofStrings provenance.sourceRefs)]

/-- `null`, or an array of records. -/
def optionalArray {α : Type} (form : α → Json) : Option (List α) → Json
  | none => .null
  | some entries => .array (entries.map form)

def EvidenceBundle.toJson (evidence : EvidenceBundle) : Json :=
  .object [
    ("surface_kind", .string "opl_foundry_evidence_bundle"),
    ("version", .string foundryProtocolVersion),
    ("evidence_id", .string evidence.evidenceId),
    ("target_agent_id", .string evidence.targetAgentId),
    ("target_domain_id", .string evidence.targetDomainId),
    ("target_version_ref", .ofOptionalString evidence.targetVersionRef),
    ("blueprint_digest", .string evidence.blueprintDigest),
    ("candidate_digest", .string evidence.candidateDigest),
    ("baseline_version_digest", .ofOptionalString evidence.baselineVersionDigest),
    ("frozen_test_plan_digest", .string evidence.frozenTestPlanDigest),
    ("public_results", .array (evidence.publicResults.map PublicCaseResult.toJson)),
    ("baseline_public_results",
      optionalArray PublicCaseResult.toJson evidence.baselinePublicResults),
    ("baseline_protected_aggregates",
      optionalArray ProtectedAggregate.toJson evidence.baselineProtectedAggregates),
    ("protected_aggregates", .array (evidence.protectedAggregates.map ProtectedAggregate.toJson)),
    ("independent_review", evidence.independentReview.toJson),
    ("candidate_cost_observations", evidence.candidateCostObservations.toJson),
    ("candidate_latency_observations", evidence.candidateLatencyObservations.toJson),
    ("safety_observations", .array (evidence.safetyObservations.map SafetyObservation.toJson)),
    ("safety_delta", evidence.safetyDelta.toJson),
    ("cost_delta", evidence.costDelta.toJson),
    ("latency_delta", evidence.latencyDelta.toJson),
    ("failure_classification",
      .array (evidence.failureClassification.map FailureClassification.toJson)),
    ("qualified", .bool evidence.qualified),
    ("gate_score", .number evidence.gateScore),
    ("provenance", evidence.provenance.toJson)]

def RootCause.toJson (cause : RootCause) : Json :=
  .object [
    ("failure_class", .string cause.failureClass),
    ("explanation", .string cause.explanation),
    ("evidence_refs", .ofStrings cause.evidenceRefs)]

def SemanticChange.toJson (change : SemanticChange) : Json :=
  .object [
    ("operation", .string change.operation.text),
    ("semantic_path", .string change.semanticPath),
    ("rationale", .string change.rationale)]

def NewTest.toJson (test : NewTest) : Json :=
  .object [
    ("case_id", .string test.caseId),
    ("test_ref", .string test.testRef),
    ("rationale", .string test.rationale)]

def EvolutionProposal.toJson (proposal : EvolutionProposal) : Json :=
  .object [
    ("surface_kind", .string "opl_foundry_evolution_proposal"),
    ("version", .string foundryProtocolVersion),
    ("proposal_id", .string proposal.proposalId),
    ("target_agent_id", .string proposal.targetAgentId),
    ("target_domain_id", .string proposal.targetDomainId),
    ("target_version_ref", .ofOptionalString proposal.targetVersionRef),
    ("blueprint_digest", .string proposal.blueprintDigest),
    ("evidence_digest", .string proposal.evidenceDigest),
    ("root_causes", .array (proposal.rootCauses.map RootCause.toJson)),
    ("next_blueprint", proposal.nextBlueprint.toJson),
    ("semantic_diff", .array (proposal.semanticDiff.map SemanticChange.toJson)),
    ("expected_benefits", .ofStrings proposal.expectedBenefits),
    ("new_tests", .array (proposal.newTests.map NewTest.toJson)),
    ("trade_offs", .ofStrings proposal.tradeOffs),
    ("risk_hints", .ofStrings (proposal.riskHints.map FoundryRiskTier.text))]

end OnePersonLab.Evolution

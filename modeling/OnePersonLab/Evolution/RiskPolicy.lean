import OnePersonLab.Evolution.ProtocolValidation
import OnePersonLab.Lib.GradedTests
import OnePersonLab.Lib.NamedEntries

/-!
# The risk policy

`recomputeBlueprintRisk` grades the change between two blueprints with a table
of tests, and `assertEvaluationPolicyNonWeakening` refuses a successor whose
evaluation drops or loosens an item of its predecessor.
-/

namespace OnePersonLab.Evolution

open Contract Lib

/-- `RISK_ORDER`. -/
def riskOrder : FoundryRiskTier → Nat
  | .low => 0
  | .medium => 1
  | .high => 2

theorem riskOrder_injective : Function.Injective riskOrder := by
  intro left right same
  cases left <;> cases right <;> first | rfl | cases same

instance : LinearOrder FoundryRiskTier := LinearOrder.lift' riskOrder riskOrder_injective

theorem FoundryRiskTier.low_le (tier : FoundryRiskTier) : .low ≤ tier := Nat.zero_le (riskOrder tier)

theorem FoundryRiskTier.le_high (tier : FoundryRiskTier) : tier ≤ .high := by
  cases tier <;> decide

/-- The canonical JSON texts of two values of one type differ exactly when the
values do. -/
def changed {α : Type} [DecidableEq α] (left right : α) : Bool := decide (left ≠ right)

structure StageStructure where
  stageId : String
  stageKind : String
  inputArtifactTypes : List String
  outputArtifactTypes : List String
  nextStageIds : List String
  deriving DecidableEq

def stageStructure (blueprint : AgentBlueprint) : String × List StageStructure :=
  (blueprint.stageGraph.entryStageId, blueprint.stageGraph.stages.map fun stage =>
    { stageId := stage.stageId
      stageKind := stage.stageKind
      inputArtifactTypes := stage.inputArtifactTypes
      outputArtifactTypes := stage.outputArtifactTypes
      nextStageIds := stage.nextStageIds })

def actionIo (blueprint : AgentBlueprint) : List (String × String × String) :=
  blueprint.actions.map fun action =>
    (action.actionId, action.inputSchemaRef, action.outputSchemaRef)

def actionRouting (blueprint : AgentBlueprint) : List (String × String) :=
  blueprint.actions.map fun action => (action.actionId, action.entryStageId)

inductive BindingKind where
  | prompt
  | skill
  | knowledge
  | capability
  deriving DecidableEq

def BlueprintStage.bound (stage : BlueprintStage) : BindingKind → List String
  | .prompt => [stage.promptRef]
  | .skill => stage.skillRefs
  | .knowledge => stage.knowledgeRefs
  | .capability => stage.capabilityRefs

def stageBindings (kind : BindingKind) (blueprint : AgentBlueprint) : List (String × List String) :=
  blueprint.stageGraph.stages.map fun stage => (stage.stageId, stage.bound kind)

def maskedStage (stage : BlueprintStage) : BlueprintStage :=
  { stage with
    stageId := "<classified-stage-structure>"
    stageKind := "<classified-stage-structure>"
    inputArtifactTypes := []
    outputArtifactTypes := []
    promptRef := "<classified-prompt-binding>"
    skillRefs := []
    knowledgeRefs := []
    capabilityRefs := []
    nextStageIds := [] }

def maskedAction (action : BlueprintAction) : BlueprintAction :=
  { action with
    actionId := "<classified-action-identity>"
    entryStageId := "<classified-action-routing>"
    inputSchemaRef := "<classified-action-io>"
    outputSchemaRef := "<classified-action-io>" }

/-- The blueprint with the fields masked that other tests are about. -/
def unclassifiedRiskProjection (blueprint : AgentBlueprint) : AgentBlueprint :=
  { blueprint with
    blueprintId := "<classified-generation-identity>"
    targetVersionRef := none
    designRequestDigest :=
      "sha256:0000000000000000000000000000000000000000000000000000000000000000"
    generation := 0
    riskHint := .low
    stageGraph :=
      { entryStageId := "<classified-stage-structure>"
        stages := blueprint.stageGraph.stages.map maskedStage }
    actions := blueprint.actions.map maskedAction
    artifactContracts := []
    contentRefs :=
      { promptRefs := []
        skillRefs := []
        knowledgeRefs := []
        helperRefs := []
        modelRefs := []
        toolRefs := []
        schemaRefs := [] }
    capabilityRequirements := []
    authorityPolicy :=
      { blueprint.authorityPolicy with
        truthOwnerRef := "<classified-authority-policy>"
        artifactOwnerRef := "<classified-authority-policy>"
        qualityOwnerRef := "<classified-authority-policy>"
        permissionRefs := [] }
    memoryPolicy := { memoryClasses := [], retentionRefs := [], writeAuthorityRefs := [] }
    evalSpec :=
      { blueprint.evalSpec with
        publicCases := []
        protectedRequirements := []
        gates := []
        baselineComparison := { required := true, regressionTolerance := 0 } } }

/-! ## Evaluation items -/

def EvalSpec.findCase (spec : EvalSpec) (caseId : String) : Option PublicCase :=
  lookupNamed PublicCase.caseId spec.publicCases caseId

def EvalSpec.findRequirement (spec : EvalSpec) (category : String) : Option ProtectedRequirement :=
  lookupNamed ProtectedRequirement.category spec.protectedRequirements category

def EvalSpec.findGate (spec : EvalSpec) (gateId : String) : Option EvaluationGate :=
  lookupNamed EvaluationGate.gateId spec.gates gateId

/-- `removedOrChanged`. -/
def caseRemovedOrChanged (previous next : AgentBlueprint) : Bool :=
  previous.evalSpec.publicCases.any fun entry =>
    match next.evalSpec.findCase entry.caseId with
    | none => true
    | some candidate => changed entry candidate

/-- `addedCases.length > 0`. -/
def casesAdded (previous next : AgentBlueprint) : Bool :=
  next.evalSpec.publicCases.any fun entry =>
    !(previous.evalSpec.publicCases.map PublicCase.caseId).contains entry.caseId

def protectedRemovedOrWeakened (previous next : AgentBlueprint) : Bool :=
  previous.evalSpec.protectedRequirements.any fun entry =>
    match next.evalSpec.findRequirement entry.category with
    | none => true
    | some candidate => decide (candidate.minimumCaseCount < entry.minimumCaseCount)

/-- The map of prior requirements keeps the last entry of a category. -/
def protectedStrengthened (previous next : AgentBlueprint) : Bool :=
  next.evalSpec.protectedRequirements.any fun entry =>
    match lookupNamed ProtectedRequirement.category
        previous.evalSpec.protectedRequirements.reverse entry.category with
    | none => true
    | some prior => decide (prior.minimumCaseCount < entry.minimumCaseCount)

def baselineComparisonDisabled (previous next : AgentBlueprint) : Bool :=
  previous.evalSpec.baselineComparison.required && !next.evalSpec.baselineComparison.required

def regressionToleranceWeakened (previous next : AgentBlueprint) : Bool :=
  decide (previous.evalSpec.baselineComparison.regressionTolerance <
    next.evalSpec.baselineComparison.regressionTolerance)

/-! ## The table of tests -/

/-- A test of the policy with the reason it records. A reason that raises no
tier stands under `low`. -/
structure RiskTest extends GradedTest AgentBlueprint FoundryRiskTier where
  reason : String

def RiskTest.of (trips : AgentBlueprint → AgentBlueprint → Bool) (tier : FoundryRiskTier)
    (reason : String) : RiskTest := { trips, grade := tier, reason }

/-- The test that compares one projection of the two blueprints. -/
def RiskTest.comparing {α : Type} [DecidableEq α] (projection : AgentBlueprint → α)
    (tier : FoundryRiskTier) (reason : String) : RiskTest :=
  { GradedTest.ofProjection projection tier with reason }

def riskTests : List RiskTest :=
  [.comparing stageStructure .high "stage_topology_or_io_changed",
    .comparing actionIo .high "action_io_schema_changed",
    .comparing actionRouting .medium "action_routing_changed",
    .comparing AgentBlueprint.artifactContracts .high "artifact_schema_changed",
    .comparing AgentBlueprint.authorityPolicy .high "authority_policy_changed",
    .comparing AgentBlueprint.memoryPolicy .high "memory_policy_changed",
    .comparing (fun blueprint => blueprint.contentRefs.toolRefs) .high "tool_binding_changed",
    .comparing (fun blueprint => blueprint.contentRefs.modelRefs) .high "model_binding_changed",
    .comparing AgentBlueprint.capabilityRequirements .high "capability_or_permission_changed",
    .comparing (stageBindings .capability) .high "stage_capability_binding_changed",
    .comparing (fun blueprint => blueprint.contentRefs.skillRefs) .medium "skill_content_changed",
    .comparing (fun blueprint => blueprint.contentRefs.helperRefs) .medium "helper_content_changed",
    .comparing (stageBindings .skill) .medium "stage_skill_binding_changed",
    .comparing (fun blueprint => blueprint.contentRefs.promptRefs) .low "prompt_content_changed",
    .comparing (fun blueprint => blueprint.contentRefs.knowledgeRefs) .low
      "knowledge_content_changed",
    .comparing (stageBindings .prompt) .low "stage_prompt_binding_changed",
    .comparing (stageBindings .knowledge) .low "stage_knowledge_binding_changed",
    .of caseRemovedOrChanged .high "existing_evaluation_case_removed_or_changed",
    .of casesAdded .low "public_evaluation_cases_added",
    .of protectedRemovedOrWeakened .high "protected_evaluation_requirement_removed_or_weakened",
    .of protectedStrengthened .low "protected_evaluation_requirements_strengthened",
    .comparing (fun blueprint => blueprint.evalSpec.gates) .high "evaluation_gate_changed",
    .of baselineComparisonDisabled .high "baseline_comparison_disabled",
    .of regressionToleranceWeakened .high "baseline_regression_tolerance_weakened",
    .comparing unclassifiedRiskProjection .high "unclassified_blueprint_change"]

def maximumRiskTier (tiers : List FoundryRiskTier) : FoundryRiskTier :=
  tiers.foldl (fun highest tier => if riskOrder highest < riskOrder tier then tier else highest) .low

structure RiskAssessment where
  riskTier : FoundryRiskTier
  reasons : List String
  deriving DecidableEq

/-- The tests that trip, as pairs of tier and reason, in the order they are tried. -/
def riskFindings : Option AgentBlueprint → AgentBlueprint → List (FoundryRiskTier × String)
  | none, _ => [(.high, "new_agent_topology_and_authority_activation")]
  | some previous, next =>
    (riskTests.filter fun test => test.trips previous next).map fun test => (test.grade, test.reason)

def computedRisk (findings : List (FoundryRiskTier × String)) : FoundryRiskTier :=
  findings.foldl (fun computed finding => maximumRiskTier [computed, finding.1]) .low

def recomputeBlueprintRisk (previous : Option AgentBlueprint) (next : AgentBlueprint) :
    RiskAssessment :=
  let findings := riskFindings previous next
  let computed := computedRisk findings
  let elevated :=
    if riskOrder computed < riskOrder next.riskHint then ["provider_risk_hint_elevated"] else []
  { riskTier := maximumRiskTier [computed, next.riskHint]
    reasons := (findings.map Prod.snd ++ elevated).eraseDups }

structure OwnerGatePolicy where
  canaryOwnerRequired : Bool
  activeOwnerRequired : Bool
  deriving DecidableEq

def ownerGatePolicy (riskTier : FoundryRiskTier) : OwnerGatePolicy :=
  { canaryOwnerRequired := riskTier == .high
    activeOwnerRequired := riskTier != .low }

/-! ## Non-weakening of the evaluation -/

def caseViolations (next : EvalSpec) (prior : PublicCase) : List String :=
  match next.findCase prior.caseId with
  | none => [s!"public_case_removed:{prior.caseId}"]
  | some candidate =>
    if changed prior candidate then [s!"public_case_changed:{prior.caseId}"] else []

def requirementViolations (next : EvalSpec) (prior : ProtectedRequirement) : List String :=
  match next.findRequirement prior.category with
  | none => [s!"protected_requirement_removed:{prior.category}"]
  | some candidate =>
    if candidate.minimumCaseCount < prior.minimumCaseCount then
      [s!"protected_requirement_weakened:{prior.category}"]
    else []

def thresholdWeakened (prior candidate : EvaluationGate) : Bool :=
  match prior.operator with
  | .gte => decide (candidate.threshold < prior.threshold)
  | .lte => decide (prior.threshold < candidate.threshold)
  | .eq => decide (candidate.threshold ≠ prior.threshold)

def gateViolations (next : EvalSpec) (prior : EvaluationGate) : List String :=
  match next.findGate prior.gateId with
  | none => [s!"gate_removed:{prior.gateId}"]
  | some candidate =>
    if candidate.metric ≠ prior.metric ∨ candidate.operator ≠ prior.operator ∨
        candidate.required ≠ prior.required then
      [s!"gate_semantics_changed:{prior.gateId}"]
    else if thresholdWeakened prior candidate then [s!"gate_threshold_weakened:{prior.gateId}"]
    else []

def evaluationPolicyViolations (previous next : AgentBlueprint) : List String :=
  previous.evalSpec.publicCases.flatMap (caseViolations next.evalSpec) ++
    previous.evalSpec.protectedRequirements.flatMap (requirementViolations next.evalSpec) ++
    previous.evalSpec.gates.flatMap (gateViolations next.evalSpec) ++
    (if baselineComparisonDisabled previous next then ["baseline_comparison_disabled"] else []) ++
    (if regressionToleranceWeakened previous next then ["baseline_regression_tolerance_weakened"]
      else [])

def assertEvaluationPolicyNonWeakening (previous next : AgentBlueprint) : Checked Unit :=
  ensure (evaluationPolicyViolations previous next = [])
    "EvolutionProposal deletes or weakens frozen evaluation policy."

end OnePersonLab.Evolution

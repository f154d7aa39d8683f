import OnePersonLab.Evolution.Ports
import OnePersonLab.Evolution.ProtocolValidation
import OnePersonLab.Lib.NamedEntries
import Mathlib.Algebra.Order.Ring.Rat
import Mathlib.Data.List.Sort

/-!
# The evaluation runtime

`recomputeEvaluationQualification` derives a qualification from results, and
`FrozenPlanEvaluationRuntime` runs the frozen plan and assembles the evidence.
The executor and the reviewer are functions of what they are given. Scores are
exact rationals.
-/

namespace OnePersonLab.Evolution

open Contract Lib

/-! ## Result sets -/

def solidRefs (refs : List String) : Prop := refs ≠ [] ∧ ∀ ref ∈ refs, trim ref ≠ ""

instance (refs : List String) : Decidable (solidRefs refs) := inferInstanceAs (Decidable (_ ∧ _))

/-- The loop of `assertPublicResultSet`; `seen` are the keys of the map so far. -/
def checkPublicResultSet (spec : EvalSpec) (label : String) :
    List String → List PublicCaseResult → Checked Unit
  | _, [] => .ok ()
  | seen, result :: rest => do
    ensure (result.caseId ∉ seen ∧ result.caseId ∈ spec.publicCases.map PublicCase.caseId)
      s!"{label} contains an unknown or duplicate public case."
    ensure (0 ≤ result.score ∧ result.score ≤ 1 ∧ solidRefs result.evidenceRefs)
      s!"{label} contains invalid public result facts."
    checkPublicResultSet spec label (result.caseId :: seen) rest

def assertPublicResultSet (spec : EvalSpec) (results : List PublicCaseResult) (label : String) :
    Checked Unit := do
  ensure (results.length = spec.publicCases.length)
    s!"{label} must contain exactly one result for every frozen public case."
  checkPublicResultSet spec label [] results

/-- `resultById.get`. -/
def resultById (results : List PublicCaseResult) (caseId : String) : Option PublicCaseResult :=
  lookupNamed PublicCaseResult.caseId results caseId

/-- The counts and the score of an aggregate agree with the frozen requirement. -/
def ProtectedAggregate.Consistent (aggregate : ProtectedAggregate)
    (requirement : ProtectedRequirement) : Prop :=
  isSafeInteger aggregate.total = true ∧ isSafeInteger aggregate.passed = true ∧
    isSafeInteger aggregate.failed = true ∧
    (requirement.minimumCaseCount : ℚ) ≤ aggregate.total ∧ 0 ≤ aggregate.passed ∧
    0 ≤ aggregate.failed ∧ aggregate.passed + aggregate.failed = aggregate.total ∧
    0 ≤ aggregate.score ∧ aggregate.score ≤ 1 ∧
    aggregate.score = aggregate.passed / aggregate.total

instance (aggregate : ProtectedAggregate) (requirement : ProtectedRequirement) :
    Decidable (aggregate.Consistent requirement) := inferInstanceAs (Decidable (_ ∧ _))

def checkProtectedAggregateSet (spec : EvalSpec) (label : String) :
    List String → List ProtectedAggregate → Checked Unit
  | _, [] => .ok ()
  | seen, aggregate :: rest =>
    match lookupNamed ProtectedRequirement.category spec.protectedRequirements aggregate.category with
    | none => fail s!"{label} contains an unknown or duplicate category."
    | some requirement => do
      ensure (aggregate.category ∉ seen) s!"{label} contains an unknown or duplicate category."
      ensure (aggregate.Consistent requirement)
        s!"{label} counts or score are inconsistent with the frozen requirement."
      checkProtectedAggregateSet spec label (aggregate.category :: seen) rest

def assertProtectedAggregateSet (spec : EvalSpec) (aggregates : List ProtectedAggregate)
    (label : String) : Checked Unit := do
  ensure (aggregates.length = spec.protectedRequirements.length)
    s!"{label} must contain exactly one aggregate for every frozen requirement."
  checkProtectedAggregateSet spec label [] aggregates

/-- `aggregateByCategory.get`. -/
def aggregateByCategory (aggregates : List ProtectedAggregate) (category : String) :
    Option ProtectedAggregate :=
  lookupNamed ProtectedAggregate.category aggregates category

/-! ## Scores and gates -/

def totalWeight (spec : EvalSpec) : ℚ := (spec.publicCases.map PublicCase.weight).sum

def scoreOf (results : List PublicCaseResult) (caseId : String) : ℚ :=
  ((resultById results caseId).map PublicCaseResult.score).getD 0

def weightedSum (spec : EvalSpec) (results : List PublicCaseResult) : ℚ :=
  (spec.publicCases.map fun entry => scoreOf results entry.caseId * entry.weight).sum

def weightedScore (spec : EvalSpec) (results : List PublicCaseResult) : Checked ℚ := do
  ensure (0 < totalWeight spec) "Frozen public cases must have positive total weight."
  return weightedSum spec results / totalWeight spec

def protectedPassRate (aggregates : List ProtectedAggregate) : ℚ :=
  let total := (aggregates.map ProtectedAggregate.total).sum
  if total = 0 then 0 else (aggregates.map ProtectedAggregate.passed).sum / total

def gateObserved (metric : String) (score : ℚ) (aggregates : List ProtectedAggregate) :
    Checked ℚ :=
  if metric = "score" then .ok score
  else if metric = "protected_pass_rate" then .ok (protectedPassRate aggregates)
  else fail "Evaluation gate metric is not supported by the generic Evaluation Runtime."

def gatePassed (gate : EvaluationGate) (observed : ℚ) : Bool :=
  match gate.operator with
  | .gte => decide (gate.threshold ≤ observed)
  | .lte => decide (observed ≤ gate.threshold)
  | .eq => decide (observed = gate.threshold)

structure GateResult where
  gateId : String
  passed : Bool
  observed : ℚ
  deriving DecidableEq

def gateResult (score : ℚ) (aggregates : List ProtectedAggregate) (gate : EvaluationGate) :
    Checked GateResult := do
  let observed ← gateObserved gate.metric score aggregates
  return { gateId := gate.gateId, passed := gatePassed gate observed, observed }

/-! ## Resource constraints and safety -/

inductive ConstraintKind where
  | cost
  | latency
  deriving DecidableEq

def ConstraintKind.text : ConstraintKind → String
  | .cost => "cost"
  | .latency => "latency"

structure ResourceConstraintResult where
  constraintKind : ConstraintKind
  metric : String
  limit : ℚ
  observed : ℚ
  passed : Bool
  deriving DecidableEq

def resourceConstraintResults (kind : ConstraintKind) (limits observations : NumericMap) :
    Checked (List ResourceConstraintResult) := do
  ensure (∀ metric ∈ limits.keys, (observations.get? metric).isSome = true)
    s!"EvidenceBundle is missing required {kind.text} observations."
  mapEach (fun entry => do
    let observed := (observations.get? entry.1).getD 0
    ensure (0 ≤ observed)
      s!"EvidenceBundle {kind.text} observations and DesignRequest limits must be finite."
    return {
      constraintKind := kind, metric := entry.1, limit := entry.2, observed,
      passed := decide (observed ≤ entry.2) }) limits.entries

def evaluateDesignRequestResourceConstraints (request : DesignRequest)
    (candidateCostObservations candidateLatencyObservations : NumericMap) :
    Checked (List ResourceConstraintResult) := do
  let cost ← resourceConstraintResults .cost request.constraints.costLimits
    candidateCostObservations
  let latency ← resourceConstraintResults .latency request.constraints.latencyLimits
    candidateLatencyObservations
  return cost ++ latency

def safetyFailureClass : String := "safety_event"

def safetyFailureClassifications (observations : List SafetyObservation) :
    List FailureClassification :=
  (observations.filter fun entry => entry.severity = .high ∨ entry.severity = .critical).map
    fun entry =>
      { failureClass := safetyFailureClass
        gateId := s!"safety_observation:{entry.observationId}"
        severity := entry.severity
        evidenceRefs := entry.evidenceRefs }

/-- The stable sort by `localeCompare` of the canonical texts. -/
def sortedFailureClassifications (platform : Platform) (entries : List FailureClassification) :
    List FailureClassification :=
  entries.insertionSort fun left right => platform.localeAtMost left.toJson right.toJson = true

def assertSafetyFailureClassifications (platform : Platform)
    (observations : List SafetyObservation) (classifications : List FailureClassification) :
    Checked Unit :=
  ensure (sortedFailureClassifications platform
      (classifications.filter fun entry => entry.failureClass = safetyFailureClass) =
      sortedFailureClassifications platform (safetyFailureClassifications observations))
    "EvidenceBundle safety failure classifications do not match high and critical safety observations."

/-! ## Qualification -/

structure QualificationInput where
  request : DesignRequest
  spec : EvalSpec
  publicResults : List PublicCaseResult
  baselinePublicResults : Option (List PublicCaseResult)
  protectedAggregates : List ProtectedAggregate
  baselineProtectedAggregates : Option (List ProtectedAggregate)
  independentReviewVerdict : EvaluationStatus
  baselinePresent : Bool
  candidateCostObservations : NumericMap
  candidateLatencyObservations : NumericMap
  safetyObservations : List SafetyObservation

def requiredPublicPassed (spec : EvalSpec) (results : List PublicCaseResult) : Bool :=
  spec.publicCases.all fun testCase =>
    !testCase.required ||
      ((resultById results testCase.caseId).map PublicCaseResult.status == some .pass)

def protectedPassed (spec : EvalSpec) (aggregates : List ProtectedAggregate) : Bool :=
  spec.protectedRequirements.all fun requirement =>
    match aggregateByCategory aggregates requirement.category with
    | none => false
    | some aggregate =>
      decide (aggregate.failed = 0 ∧ (requirement.minimumCaseCount : ℚ) ≤ aggregate.total)

def requiredGatesPassed (spec : EvalSpec) (results : List GateResult) : Bool :=
  spec.gates.all fun gate =>
    !gate.required ||
      ((lookupNamed GateResult.gateId results gate.gateId).map GateResult.passed == some true)

def baselinePublicPassed (spec : EvalSpec) (gateScore : ℚ) (baselineScore : Option ℚ) : Bool :=
  !spec.baselineComparison.required ||
    match baselineScore with
    | none => false
    | some baseline => decide (baseline ≤ gateScore + spec.baselineComparison.regressionTolerance)

def baselineProtectedPassed (spec : EvalSpec) (aggregates : List ProtectedAggregate)
    (baselineAggregates : Option (List ProtectedAggregate)) : Bool :=
  !spec.baselineComparison.required ||
    match baselineAggregates with
    | none => false
    | some baseline =>
      spec.protectedRequirements.all fun requirement =>
        match aggregateByCategory aggregates requirement.category,
            aggregateByCategory baseline requirement.category with
        | some candidate, some reference =>
          decide (reference.score ≤ candidate.score + spec.baselineComparison.regressionTolerance)
        | _, _ => false

structure QualificationFacts where
  gateScore : ℚ
  baselineScore : Option ℚ
  gateResults : List GateResult
  baselinePassed : Bool
  resourceConstraintResults : List ResourceConstraintResult
  resourceConstraintsPassed : Bool
  safetyFailureClassifications : List FailureClassification
  safetyPassed : Bool
  qualified : Bool
  deriving DecidableEq

/-- A baseline set is checked where there is one. -/
def assertBaselineSet {α : Type} (check : α → Checked Unit) : Option α → Checked Unit
  | none => .ok ()
  | some results => check results

def baselineWeightedScore (spec : EvalSpec) : Option (List PublicCaseResult) → Checked (Option ℚ)
  | none => .ok none
  | some results => some <$> weightedScore spec results

/-- What is returned once the scores, the gates and the resources are known. -/
def QualificationInput.facts (input : QualificationInput) (gateScore : ℚ)
    (baselineScore : Option ℚ) (gateResults : List GateResult)
    (resources : List ResourceConstraintResult) : QualificationFacts :=
  let baselinePassed := baselinePublicPassed input.spec gateScore baselineScore &&
    baselineProtectedPassed input.spec input.protectedAggregates input.baselineProtectedAggregates
  let resourceConstraintsPassed := resources.all ResourceConstraintResult.passed
  let safetyFailures := safetyFailureClassifications input.safetyObservations
  { gateScore
    baselineScore
    gateResults
    baselinePassed
    resourceConstraintResults := resources
    resourceConstraintsPassed
    safetyFailureClassifications := safetyFailures
    safetyPassed := safetyFailures.isEmpty
    qualified := requiredPublicPassed input.spec input.publicResults &&
      protectedPassed input.spec input.protectedAggregates &&
      requiredGatesPassed input.spec gateResults && baselinePassed && resourceConstraintsPassed &&
      safetyFailures.isEmpty && input.independentReviewVerdict == .pass }

def recomputeEvaluationQualification (input : QualificationInput) : Checked QualificationFacts := do
  assertPublicResultSet input.spec input.publicResults "EvidenceBundle.public_results"
  assertProtectedAggregateSet input.spec input.protectedAggregates
    "EvidenceBundle.protected_aggregates"
  ensure (input.baselinePresent = input.baselinePublicResults.isSome ∧
      input.baselinePresent = input.baselineProtectedAggregates.isSome)
    "Baseline public and protected results must exist exactly when an exact baseline version is bound."
  ensure (input.baselinePresent = true ∨ input.spec.baselineComparison.required = false)
    "A required baseline comparison cannot run without an exact baseline version."
  assertBaselineSet
    (fun results => assertPublicResultSet input.spec results "EvidenceBundle.baseline_public_results")
    input.baselinePublicResults
  assertBaselineSet
    (fun aggregates => assertProtectedAggregateSet input.spec aggregates
      "EvidenceBundle.baseline_protected_aggregates")
    input.baselineProtectedAggregates
  let gateScore ← weightedScore input.spec input.publicResults
  let baselineScore ← baselineWeightedScore input.spec input.baselinePublicResults
  let gateResults ← mapEach (gateResult gateScore input.protectedAggregates) input.spec.gates
  let resources ← evaluateDesignRequestResourceConstraints input.request
    input.candidateCostObservations input.candidateLatencyObservations
  return input.facts gateScore baselineScore gateResults resources

/-! ## The frozen plan and the evidence that binds it -/

def foundryFrozenEvaluationPlanDigest (platform : Platform) (spec : EvalSpec) : String :=
  platform.digest (.object [
    ("surface_kind", .string "opl_foundry_frozen_evaluation_plan"),
    ("version", .string "opl-foundry-frozen-evaluation-plan.v1"),
    ("public_cases", .array (spec.publicCases.map PublicCase.toJson)),
    ("protected_requirements",
      .array (spec.protectedRequirements.map ProtectedRequirement.toJson)),
    ("gates", .array (spec.gates.map EvaluationGate.toJson)),
    ("baseline_comparison", spec.baselineComparison.toJson)])

def assertBlueprintSatisfiesDesignRequest (request : DesignRequest) (blueprint : AgentBlueprint) :
    Checked Unit :=
  ensure (request.constraints.capabilityRefs ⊆ blueprint.capabilityRequirements ∧
      request.constraints.permissionRefs ⊆ blueprint.authorityPolicy.permissionRefs ∧
      blueprint.authorityPolicy.permissionRefs ⊆ request.constraints.permissionRefs ∧
      request.constraints.privacyRequirements ⊆
        blueprint.evalSpec.protectedRequirements.map ProtectedRequirement.category)
    "AgentBlueprint violates the DesignRequest capability, permission, or privacy boundary."

/-- The recomputation that an evidence bundle stands for. -/
def EvidenceBundle.qualificationInput (evidence : EvidenceBundle) (request : DesignRequest)
    (spec : EvalSpec) (baselinePresent : Bool) : QualificationInput where
  request := request
  spec := spec
  publicResults := evidence.publicResults
  baselinePublicResults := evidence.baselinePublicResults
  protectedAggregates := evidence.protectedAggregates
  baselineProtectedAggregates := evidence.baselineProtectedAggregates
  independentReviewVerdict := evidence.independentReview.verdict
  baselinePresent := baselinePresent
  candidateCostObservations := evidence.candidateCostObservations
  candidateLatencyObservations := evidence.candidateLatencyObservations
  safetyObservations := evidence.safetyObservations

def assertEvaluationEvidenceFacts (platform : Platform) (request : DesignRequest)
    (spec : EvalSpec) (evidence : EvidenceBundle) (baselinePresent : Bool) :
    Checked QualificationFacts := do
  let facts ← recomputeEvaluationQualification
    (evidence.qualificationInput request spec baselinePresent)
  ensure (evidence.gateScore = facts.gateScore ∧ evidence.qualified = facts.qualified)
    "EvidenceBundle qualification or gate score does not match independently recomputed facts."
  assertSafetyFailureClassifications platform evidence.safetyObservations
    evidence.failureClassification
  return facts

end OnePersonLab.Evolution

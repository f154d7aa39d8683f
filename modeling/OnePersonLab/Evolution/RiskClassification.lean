import Mathlib.Algebra.Order.Ring.Rat
import Mathlib.Data.List.Nodup
import OnePersonLab.Contract.Spelling
import OnePersonLab.Evolution.RiskPolicy

/-!
# What the risk tier says about a change

A change is of low risk exactly when its hint is low and every field that the
policy compares is kept. The one field it masks without comparing is
`content_refs.schema_refs`.
-/

namespace OnePersonLab.Evolution

open Contract Lib

/-! ## The tier as a grade -/

@[simp] theorem maximumRiskTier_pair (left right : FoundryRiskTier) :
    maximumRiskTier [left, right] = max left right := by
  cases left <;> cases right <;> rfl

def gradedRiskTests : List (GradedTest AgentBlueprint FoundryRiskTier) :=
  riskTests.map RiskTest.toGradedTest

theorem computedRisk_riskFindings (previous next : AgentBlueprint) :
    computedRisk (riskFindings (some previous) next) =
      gradeChange .low gradedRiskTests previous next := by
  simp only [computedRisk, riskFindings, maximumRiskTier_pair, gradeChange, gradedRiskTests,
    List.foldl_map, List.filter_map]
  rfl

theorem riskTier_some (previous next : AgentBlueprint) :
    (recomputeBlueprintRisk (some previous) next).riskTier =
      max (gradeChange .low gradedRiskTests previous next) next.riskHint := by
  simp [recomputeBlueprintRisk, computedRisk_riskFindings]

theorem riskTier_none (next : AgentBlueprint) :
    (recomputeBlueprintRisk none next).riskTier = .high := by
  simp [recomputeBlueprintRisk, riskFindings, computedRisk, FoundryRiskTier.le_high]

/-! ## Kept evaluation items -/

/-- The evaluation keeps every item: a case unchanged, a requirement no lower, a
gate no weaker, the baseline comparison neither disabled nor loosened. -/
structure EvalSpec.Keeps (previous next : EvalSpec) : Prop where
  publicCases : ∀ prior ∈ previous.publicCases, prior ∈ next.publicCases
  protectedRequirements : ∀ prior ∈ previous.protectedRequirements,
    ∃ candidate ∈ next.protectedRequirements,
      candidate.category = prior.category ∧ prior.minimumCaseCount ≤ candidate.minimumCaseCount
  gates : ∀ prior ∈ previous.gates, ∃ candidate ∈ next.gates,
    candidate.gateId = prior.gateId ∧ candidate.metric = prior.metric ∧
      candidate.operator = prior.operator ∧ candidate.required = prior.required ∧
      thresholdWeakened prior candidate = false
  baselineRequired : previous.baselineComparison.required = true →
    next.baselineComparison.required = true
  regressionTolerance :
    next.baselineComparison.regressionTolerance ≤ previous.baselineComparison.regressionTolerance

section

variable {next : EvalSpec}

theorem thresholdWeakened_self (gate : EvaluationGate) : thresholdWeakened gate gate = false := by
  cases kind : gate.operator <;> simp [thresholdWeakened, kind]

theorem thresholdWeakened_trans {first second third : EvaluationGate}
    (same : second.operator = first.operator) (left : thresholdWeakened first second = false)
    (right : thresholdWeakened second third = false) : thresholdWeakened first third = false := by
  cases kind : first.operator with
  | gte =>
    simp only [thresholdWeakened, kind, same, decide_eq_false_iff_not, not_lt] at *
    exact left.trans right
  | lte =>
    simp only [thresholdWeakened, kind, same, decide_eq_false_iff_not, not_lt] at *
    exact right.trans left
  | eq =>
    simp only [thresholdWeakened, kind, same, decide_eq_false_iff_not, not_not] at *
    exact right.trans left

theorem EvalSpec.Keeps.refl (spec : EvalSpec) : spec.Keeps spec where
  publicCases _ listed := listed
  protectedRequirements prior listed := ⟨prior, listed, rfl, le_rfl⟩
  gates prior listed := ⟨prior, listed, rfl, rfl, rfl, rfl, thresholdWeakened_self prior⟩
  baselineRequired := id
  regressionTolerance := le_rfl

theorem EvalSpec.Keeps.trans {first second third : EvalSpec} (left : first.Keeps second)
    (right : second.Keeps third) : first.Keeps third where
  publicCases prior listed := right.publicCases prior (left.publicCases prior listed)
  protectedRequirements prior listed := by
    obtain ⟨middle, found, named, enough⟩ := left.protectedRequirements prior listed
    obtain ⟨last, kept, renamed, more⟩ := right.protectedRequirements middle found
    exact ⟨last, kept, renamed.trans named, enough.trans more⟩
  gates prior listed := by
    obtain ⟨middle, found, named, metric, operator, required, firm⟩ := left.gates prior listed
    obtain ⟨last, kept, named', metric', operator', required', firm'⟩ := right.gates middle found
    exact ⟨last, kept, named'.trans named, metric'.trans metric, operator'.trans operator,
      required'.trans required, thresholdWeakened_trans operator firm firm'⟩
  baselineRequired needed := right.baselineRequired (left.baselineRequired needed)
  regressionTolerance := right.regressionTolerance.trans left.regressionTolerance

theorem caseViolations_eq_nil {prior : PublicCase} :
    caseViolations next prior = [] ↔ next.findCase prior.caseId = some prior := by
  cases found : next.findCase prior.caseId with
  | none => simp [caseViolations, found]
  | some candidate => simp [caseViolations, found, changed, eq_comm (a := candidate)]

theorem requirementViolations_eq_nil {prior : ProtectedRequirement} :
    requirementViolations next prior = [] ↔ ∃ candidate,
      next.findRequirement prior.category = some candidate ∧
        prior.minimumCaseCount ≤ candidate.minimumCaseCount := by
  cases found : next.findRequirement prior.category <;> simp [requirementViolations, found]

theorem gateViolations_eq_nil {prior : EvaluationGate} :
    gateViolations next prior = [] ↔ ∃ candidate, next.findGate prior.gateId = some candidate ∧
      candidate.metric = prior.metric ∧ candidate.operator = prior.operator ∧
      candidate.required = prior.required ∧ thresholdWeakened prior candidate = false := by
  cases found : next.findGate prior.gateId with
  | none => simp [gateViolations, found]
  | some candidate =>
    by_cases same : candidate.metric = prior.metric ∧ candidate.operator = prior.operator ∧
        candidate.required = prior.required
    · obtain ⟨metric, operator, required⟩ := same
      simp [gateViolations, found, metric, operator, required]
    · have differs : candidate.metric ≠ prior.metric ∨ candidate.operator ≠ prior.operator ∨
          candidate.required ≠ prior.required := by
        by_contra! equal
        exact same equal
      simp only [gateViolations, found, if_pos differs, List.cons_ne_self, Option.some.injEq,
        exists_eq_left', false_iff]
      exact fun kept => same ⟨kept.1, kept.2.1, kept.2.2.1⟩

theorem keeps_of_nonWeakening {previous next : AgentBlueprint}
    (accepted : assertEvaluationPolicyNonWeakening previous next = .ok ()) :
    previous.evalSpec.Keeps next.evalSpec := by
  simp only [assertEvaluationPolicyNonWeakening, ensure_eq_ok, evaluationPolicyViolations,
    List.append_eq_nil_iff, List.flatMap_eq_nil_iff, caseViolations_eq_nil,
    requirementViolations_eq_nil, gateViolations_eq_nil, ite_eq_right_iff, reduceCtorEq,
    imp_false, Bool.not_eq_true] at accepted
  obtain ⟨⟨⟨⟨cases, requirements⟩, gates⟩, enabled⟩, tolerated⟩ := accepted
  refine ⟨?_, ?_, ?_, ?_, ?_⟩
  · exact fun prior listed => (lookupNamed_sound (cases prior listed)).1
  · intro prior listed
    obtain ⟨candidate, found, enough⟩ := requirements prior listed
    exact ⟨candidate, (lookupNamed_sound found).1, (lookupNamed_sound found).2, enough⟩
  · intro prior listed
    obtain ⟨candidate, found, rest⟩ := gates prior listed
    exact ⟨candidate, (lookupNamed_sound found).1, (lookupNamed_sound found).2, rest⟩
  · intro needed
    simpa [baselineComparisonDisabled, needed] using enabled
  · simpa [regressionToleranceWeakened] using tolerated

end

/-! ## The triangle inequality -/

theorem caseRemovedOrChanged_eq_false {previous next : AgentBlueprint} :
    caseRemovedOrChanged previous next = false ↔
      ∀ entry ∈ previous.evalSpec.publicCases, next.evalSpec.findCase entry.caseId = some entry := by
  simp only [caseRemovedOrChanged, List.any_eq_false, Bool.not_eq_true]
  refine forall₂_congr fun entry _ => ?_
  cases found : next.evalSpec.findCase entry.caseId with
  | none => simp
  | some candidate => simp [changed, eq_comm (a := candidate)]

theorem protectedRemovedOrWeakened_eq_false {previous next : AgentBlueprint} :
    protectedRemovedOrWeakened previous next = false ↔
      ∀ entry ∈ previous.evalSpec.protectedRequirements, ∃ candidate,
        next.evalSpec.findRequirement entry.category = some candidate ∧
          entry.minimumCaseCount ≤ candidate.minimumCaseCount := by
  simp only [protectedRemovedOrWeakened, List.any_eq_false, Bool.not_eq_true]
  refine forall₂_congr fun entry _ => ?_
  cases found : next.evalSpec.findRequirement entry.category <;> simp

theorem splits_caseRemovedOrChanged (tier : FoundryRiskTier) (reason : String) :
    (RiskTest.of caseRemovedOrChanged tier reason).Splits := by
  refine GradedTest.splits_of_transitive
    (fun previous next => caseRemovedOrChanged previous next = false) ?_ (by
      intro previous next
      simp [RiskTest.of])
  intro first second third left right
  rw [caseRemovedOrChanged_eq_false] at *
  exact fun entry listed => right entry (lookupNamed_sound (left entry listed)).1

theorem splits_protectedRemovedOrWeakened (tier : FoundryRiskTier) (reason : String) :
    (RiskTest.of protectedRemovedOrWeakened tier reason).Splits := by
  refine GradedTest.splits_of_transitive
    (fun previous next => protectedRemovedOrWeakened previous next = false) ?_ (by
      intro previous next
      simp [RiskTest.of])
  intro first second third left right
  rw [protectedRemovedOrWeakened_eq_false] at *
  intro entry listed
  obtain ⟨middle, found, enough⟩ := left entry listed
  obtain ⟨middleListed, named⟩ := lookupNamed_sound found
  obtain ⟨last, kept, more⟩ := right middle middleListed
  exact ⟨last, named ▸ kept, enough.trans more⟩

theorem splits_baselineComparisonDisabled (tier : FoundryRiskTier) (reason : String) :
    (RiskTest.of baselineComparisonDisabled tier reason).Splits := by
  intro first second third disabled
  simp only [RiskTest.of, baselineComparisonDisabled, Bool.and_eq_true, Bool.not_eq_true'] at *
  cases second.evalSpec.baselineComparison.required <;> simp [disabled]

theorem splits_regressionToleranceWeakened (tier : FoundryRiskTier) (reason : String) :
    (RiskTest.of regressionToleranceWeakened tier reason).Splits := by
  intro first second third weakened
  simp only [RiskTest.of, regressionToleranceWeakened, decide_eq_true_eq] at *
  by_contra! kept
  exact absurd weakened (not_lt.2 (kept.2.trans kept.1))

/-- Every test that raises a tier splits; the others only record a reason. -/
theorem gradedRiskTests_split : ∀ test ∈ gradedRiskTests, test.Splits ∨ test.grade ≤ .low := by
  simp only [gradedRiskTests, List.forall_mem_map, riskTests, List.forall_mem_cons,
    List.not_mem_nil, false_imp_iff, implies_true, and_true]
  refine ⟨?_, ?_, ?_, ?_, ?_, ?_, ?_, ?_, ?_, ?_, ?_, ?_, ?_, ?_, ?_, ?_, ?_,
    .inl (splits_caseRemovedOrChanged _ _), .inr le_rfl,
    .inl (splits_protectedRemovedOrWeakened _ _), .inr le_rfl, ?_,
    .inl (splits_baselineComparisonDisabled _ _), .inl (splits_regressionToleranceWeakened _ _),
    ?_⟩ <;>
  exact .inl (GradedTest.splits_ofProjection _ _)

theorem riskTier_triangle (previous : Option AgentBlueprint) (middle next : AgentBlueprint) :
    (recomputeBlueprintRisk previous next).riskTier ≤
      max (recomputeBlueprintRisk previous middle).riskTier
        (recomputeBlueprintRisk (some middle) next).riskTier := by
  cases previous with
  | none =>
    rw [riskTier_none, riskTier_none]
    exact le_max_left _ _
  | some previous =>
    simp only [riskTier_some]
    have split := gradeChange_triangle gradedRiskTests_split previous middle next
    refine max_le (split.trans ?_) (le_max_of_le_right (le_max_right _ _))
    exact max_le_max (le_max_left _ _) (le_max_left _ _)

/-! ## Changes of low risk -/

/-- A stage with its prompt and knowledge bindings left out. -/
def BlueprintStage.withoutContent (stage : BlueprintStage) : BlueprintStage :=
  { stage with promptRef := "", knowledgeRefs := [] }

theorem BlueprintStage.withoutContent_eq_iff {left right : BlueprintStage} :
    left.withoutContent = right.withoutContent ↔
      left.stageId = right.stageId ∧ left.stageKind = right.stageKind ∧ left.goal = right.goal ∧
      left.inputArtifactTypes = right.inputArtifactTypes ∧
      left.outputArtifactTypes = right.outputArtifactTypes ∧ left.skillRefs = right.skillRefs ∧
      left.capabilityRefs = right.capabilityRefs ∧ left.nextStageIds = right.nextStageIds := by
  simp only [withoutContent, BlueprintStage.mk.injEq, true_and]

/-- The evaluation as a low-risk change leaves it: the same gates, and items only
added or strengthened. -/
structure EvalSpec.Extends (previous next : EvalSpec) : Prop where
  evalSpecId : previous.evalSpecId = next.evalSpecId
  independentEvaluatorRequired :
    previous.independentEvaluatorRequired = next.independentEvaluatorRequired
  gates : previous.gates = next.gates
  publicCases : ∀ prior ∈ previous.publicCases, prior ∈ next.publicCases
  protectedRequirements : ∀ prior ∈ previous.protectedRequirements,
    ∃ candidate ∈ next.protectedRequirements,
      candidate.category = prior.category ∧ prior.minimumCaseCount ≤ candidate.minimumCaseCount
  baselineRequired : previous.baselineComparison.required = true →
    next.baselineComparison.required = true
  regressionTolerance :
    next.baselineComparison.regressionTolerance ≤ previous.baselineComparison.regressionTolerance

/-- Outside the generation identity, the prompt and knowledge references and the
evaluation items, all fields but `content_refs.schema_refs` are equal. -/
structure ComparedFieldsKept (previous next : AgentBlueprint) : Prop where
  targetAgentId : previous.targetAgentId = next.targetAgentId
  targetDomainId : previous.targetDomainId = next.targetDomainId
  entryStageId : previous.stageGraph.entryStageId = next.stageGraph.entryStageId
  stages : previous.stageGraph.stages.map BlueprintStage.withoutContent =
    next.stageGraph.stages.map BlueprintStage.withoutContent
  actions : previous.actions = next.actions
  artifactContracts : previous.artifactContracts = next.artifactContracts
  skillRefs : previous.contentRefs.skillRefs = next.contentRefs.skillRefs
  helperRefs : previous.contentRefs.helperRefs = next.contentRefs.helperRefs
  modelRefs : previous.contentRefs.modelRefs = next.contentRefs.modelRefs
  toolRefs : previous.contentRefs.toolRefs = next.contentRefs.toolRefs
  capabilityRequirements : previous.capabilityRequirements = next.capabilityRequirements
  authorityPolicy : previous.authorityPolicy = next.authorityPolicy
  memoryPolicy : previous.memoryPolicy = next.memoryPolicy
  assumptions : previous.assumptions = next.assumptions
  designEvidenceRefs : previous.designEvidenceRefs = next.designEvidenceRefs
  evaluation : previous.evalSpec.Extends next.evalSpec

/-- Nothing differs beyond what a low tier is meant to allow. -/
structure OnlyDeclaredDifferences (previous next : AgentBlueprint) : Prop
    extends ComparedFieldsKept previous next where
  schemaRefs : previous.contentRefs.schemaRefs = next.contentRefs.schemaRefs

/-- The raising tests, as equations between the two blueprints. -/
structure NoTestRaises (previous next : AgentBlueprint) : Prop where
  stageStructure : stageStructure previous = stageStructure next
  actionIo : actionIo previous = actionIo next
  actionRouting : actionRouting previous = actionRouting next
  artifactContracts : previous.artifactContracts = next.artifactContracts
  authorityPolicy : previous.authorityPolicy = next.authorityPolicy
  memoryPolicy : previous.memoryPolicy = next.memoryPolicy
  toolRefs : previous.contentRefs.toolRefs = next.contentRefs.toolRefs
  modelRefs : previous.contentRefs.modelRefs = next.contentRefs.modelRefs
  capabilityRequirements : previous.capabilityRequirements = next.capabilityRequirements
  capabilityBindings : stageBindings .capability previous = stageBindings .capability next
  skillRefs : previous.contentRefs.skillRefs = next.contentRefs.skillRefs
  helperRefs : previous.contentRefs.helperRefs = next.contentRefs.helperRefs
  skillBindings : stageBindings .skill previous = stageBindings .skill next
  publicCases : caseRemovedOrChanged previous next = false
  protectedRequirements : protectedRemovedOrWeakened previous next = false
  gates : previous.evalSpec.gates = next.evalSpec.gates
  baselineRequired : baselineComparisonDisabled previous next = false
  regressionTolerance : regressionToleranceWeakened previous next = false
  remainder : unclassifiedRiskProjection previous = unclassifiedRiskProjection next

section

variable {previous next : AgentBlueprint}

theorem not_medium_le_low : ¬ FoundryRiskTier.medium ≤ .low := by decide

theorem not_high_le_low : ¬ FoundryRiskTier.high ≤ .low := by decide

theorem gradeChange_le_low :
    gradeChange .low gradedRiskTests previous next ≤ .low ↔ NoTestRaises previous next := by
  simp only [gradeChange_le, gradedRiskTests, List.forall_mem_map, riskTests,
    List.forall_mem_cons, RiskTest.comparing, RiskTest.of, GradedTest.ofProjection,
    decide_eq_true_eq, not_medium_le_low, not_high_le_low, le_refl, implies_true, imp_false,
    not_not, List.not_mem_nil, false_imp_iff, true_and, and_true, Bool.not_eq_true]
  constructor
  · rintro ⟨h1, h2, h3, h4, h5, h6, h7, h8, h9, h10, h11, h12, h13, h14, h15, h16, h17, h18, h19⟩
    exact ⟨h1, h2, h3, h4, h5, h6, h7, h8, h9, h10, h11, h12, h13, h14, h15, h16, h17, h18, h19⟩
  · rintro ⟨h1, h2, h3, h4, h5, h6, h7, h8, h9, h10, h11, h12, h13, h14, h15, h16, h17, h18, h19⟩
    exact ⟨h1, h2, h3, h4, h5, h6, h7, h8, h9, h10, h11, h12, h13, h14, h15, h16, h17, h18, h19⟩

theorem riskTier_eq_low_iff :
    (recomputeBlueprintRisk (some previous) next).riskTier = .low ↔
      NoTestRaises previous next ∧ next.riskHint = .low := by
  rw [riskTier_some, ← gradeChange_le_low, le_antisymm_iff, max_le_iff,
    le_antisymm_iff (a := next.riskHint)]
  simp [FoundryRiskTier.low_le]

/-- Equal images under a projection give equal images under anything it determines. -/
theorem map_eq_of_determined {α β γ : Type} {f : α → β} {g : α → γ} {left right : List α}
    (same : left.map f = right.map f)
    (determined : ∀ x y, f x = f y → g x = g y) : left.map g = right.map g := by
  induction left generalizing right with
  | nil => cases right <;> simp_all
  | cons x rest ih =>
    cases right with
    | nil => simp at same
    | cons y others =>
      simp only [List.map_cons, List.cons.injEq] at same ⊢
      exact ⟨determined x y same.1, ih same.2⟩

/-- Two projections with equal images have equal images together. -/
theorem map_prod_eq {α β γ : Type} {f : α → β} {g : α → γ} {left right : List α}
    (first : left.map f = right.map f) (second : left.map g = right.map g) :
    left.map (fun x => (f x, g x)) = right.map fun x => (f x, g x) := by
  induction left generalizing right with
  | nil => cases right <;> simp_all
  | cons x rest ih =>
    cases right with
    | nil => simp at first
    | cons y others =>
      simp only [List.map_cons, List.cons.injEq, Prod.mk.injEq] at first second ⊢
      exact ⟨⟨first.1, second.1⟩, ih first.2 second.2⟩

theorem unclassifiedRiskProjection_eq_iff :
    unclassifiedRiskProjection previous = unclassifiedRiskProjection next ↔
      previous.targetAgentId = next.targetAgentId ∧ previous.targetDomainId = next.targetDomainId ∧
      previous.stageGraph.stages.map BlueprintStage.goal =
        next.stageGraph.stages.map BlueprintStage.goal ∧
      previous.actions.map BlueprintAction.summary = next.actions.map BlueprintAction.summary ∧
      (let left := previous.authorityPolicy
       let right := next.authorityPolicy
       left.generatedAgentCanModifyVersions = right.generatedAgentCanModifyVersions ∧
       left.generatedAgentCanModifyEvaluation = right.generatedAgentCanModifyEvaluation ∧
       left.generatedAgentCanModifyPermissions = right.generatedAgentCanModifyPermissions ∧
       left.generatedAgentCanModifyActivation = right.generatedAgentCanModifyActivation) ∧
      previous.assumptions = next.assumptions ∧
      previous.designEvidenceRefs = next.designEvidenceRefs ∧
      previous.evalSpec.evalSpecId = next.evalSpec.evalSpecId ∧
      previous.evalSpec.independentEvaluatorRequired =
        next.evalSpec.independentEvaluatorRequired := by
  have stages (left right : List BlueprintStage) :
      left.map maskedStage = right.map maskedStage ↔
        left.map BlueprintStage.goal = right.map BlueprintStage.goal :=
    ⟨fun same => map_eq_of_determined same (by simp [maskedStage]),
      fun same => map_eq_of_determined same (by simp [maskedStage])⟩
  have actions (left right : List BlueprintAction) :
      left.map maskedAction = right.map maskedAction ↔
        left.map BlueprintAction.summary = right.map BlueprintAction.summary :=
    ⟨fun same => map_eq_of_determined same (by simp [maskedAction]),
      fun same => map_eq_of_determined same (by simp [maskedAction])⟩
  simp only [unclassifiedRiskProjection, AgentBlueprint.mk.injEq, StageGraph.mk.injEq,
    AuthorityPolicy.mk.injEq, EvalSpec.mk.injEq, stages, actions, true_and, and_true]

theorem NoTestRaises.withoutContent (kept : NoTestRaises previous next)
    (goals : previous.stageGraph.stages.map BlueprintStage.goal =
      next.stageGraph.stages.map BlueprintStage.goal) :
    previous.stageGraph.stages.map BlueprintStage.withoutContent =
      next.stageGraph.stages.map BlueprintStage.withoutContent := by
  have topology := (Prod.mk.inj kept.stageStructure).2
  have together := map_prod_eq (map_prod_eq topology goals)
    (map_prod_eq kept.capabilityBindings kept.skillBindings)
  refine map_eq_of_determined together fun x y same => ?_
  simp only [Prod.mk.injEq, StageStructure.mk.injEq, BlueprintStage.bound] at same
  obtain ⟨⟨⟨stageId, stageKind, inputs, outputs, successors⟩, goal⟩, ⟨-, capabilities⟩, -, skills⟩ :=
    same
  exact BlueprintStage.withoutContent_eq_iff.2
    ⟨stageId, stageKind, goal, inputs, outputs, skills, capabilities, successors⟩

theorem NoTestRaises.actions_eq (kept : NoTestRaises previous next)
    (summaries : previous.actions.map BlueprintAction.summary =
      next.actions.map BlueprintAction.summary) : previous.actions = next.actions := by
  have together := map_prod_eq (map_prod_eq kept.actionIo kept.actionRouting) summaries
  rw [← List.map_id previous.actions, ← List.map_id next.actions]
  refine map_eq_of_determined together fun x y same => ?_
  simp only [Prod.mk.injEq] at same
  obtain ⟨⟨⟨actionId, input, output⟩, -, entry⟩, summary⟩ := same
  cases x
  cases y
  simp only [id, BlueprintAction.mk.injEq]
  exact ⟨actionId, summary, entry, input, output⟩

theorem NoTestRaises.evaluation (kept : NoTestRaises previous next)
    (named : previous.evalSpec.evalSpecId = next.evalSpec.evalSpecId)
    (independent : previous.evalSpec.independentEvaluatorRequired =
      next.evalSpec.independentEvaluatorRequired) : previous.evalSpec.Extends next.evalSpec where
  evalSpecId := named
  independentEvaluatorRequired := independent
  gates := kept.gates
  publicCases prior listed :=
    (lookupNamed_sound (caseRemovedOrChanged_eq_false.1 kept.publicCases prior listed)).1
  protectedRequirements prior listed := by
    obtain ⟨candidate, found, enough⟩ :=
      protectedRemovedOrWeakened_eq_false.1 kept.protectedRequirements prior listed
    exact ⟨candidate, (lookupNamed_sound found).1, (lookupNamed_sound found).2, enough⟩
  baselineRequired needed := by
    simpa [baselineComparisonDisabled, needed] using kept.baselineRequired
  regressionTolerance := by
    simpa [regressionToleranceWeakened] using kept.regressionTolerance

theorem NoTestRaises.comparedFieldsKept (kept : NoTestRaises previous next) :
    ComparedFieldsKept previous next := by
  obtain ⟨agent, domain, goals, summaries, -, assumptions, designEvidence, spec, independent⟩ :=
    unclassifiedRiskProjection_eq_iff.1 kept.remainder
  exact {
    targetAgentId := agent
    targetDomainId := domain
    entryStageId := (Prod.mk.inj kept.stageStructure).1
    stages := kept.withoutContent goals
    actions := kept.actions_eq summaries
    artifactContracts := kept.artifactContracts
    skillRefs := kept.skillRefs
    helperRefs := kept.helperRefs
    modelRefs := kept.modelRefs
    toolRefs := kept.toolRefs
    capabilityRequirements := kept.capabilityRequirements
    authorityPolicy := kept.authorityPolicy
    memoryPolicy := kept.memoryPolicy
    assumptions := assumptions
    designEvidenceRefs := designEvidence
    evaluation := kept.evaluation spec independent }

end

/-- The names by which the evaluation items are looked up are distinct. -/
structure EvalSpec.DistinctNames (spec : EvalSpec) : Prop where
  publicCases : (spec.publicCases.map PublicCase.caseId).Nodup
  protectedRequirements : (spec.protectedRequirements.map ProtectedRequirement.category).Nodup
  gates : (spec.gates.map EvaluationGate.gateId).Nodup

theorem nodup_of_trimmed {α : Type} {name : α → String} {entries : List α}
    (distinct : (entries.map fun entry => trim (name entry)).Nodup) : (entries.map name).Nodup := by
  apply List.Nodup.of_map trim
  simpa [List.map_map, Function.comp_def] using distinct

theorem distinctNames_of_validateEvalSpec {spec : EvalSpec} {label : String}
    (valid : validateEvalSpec spec label = .ok ()) : spec.DistinctNames := by
  simp only [validateEvalSpec, bind_eq_ok, ensure_eq_ok] at valid
  obtain ⟨_, -, _, -, _, cases, _, -, _, -, _, requirements, _, -, _, gates, -⟩ := valid
  exact ⟨nodup_of_trimmed cases, nodup_of_trimmed requirements, nodup_of_trimmed gates.2⟩

theorem validEvalSpec_of_validateAgentBlueprint {blueprint : AgentBlueprint}
    (valid : validateAgentBlueprint blueprint = .ok blueprint) :
    validateEvalSpec blueprint.evalSpec "AgentBlueprint.eval_spec" = .ok () := by
  simp only [validateAgentBlueprint, validateBlueprintBody, bind_eq_ok] at valid
  obtain ⟨_, -, _, -, _, -, _, -, _, -, _, -, _, -, _, -, _, -, _, -, _, -, _, -, _, -, _, -, _, -,
    _, -, _, spec, -⟩ := valid
  exact spec

theorem ComparedFieldsKept.noTestRaises {previous next : AgentBlueprint}
    (distinct : next.evalSpec.DistinctNames) (kept : ComparedFieldsKept previous next) :
    NoTestRaises previous next := by
  have stage {γ : Type} {g : BlueprintStage → γ}
      (determined : ∀ x y : BlueprintStage, x.withoutContent = y.withoutContent → g x = g y) :
      previous.stageGraph.stages.map g = next.stageGraph.stages.map g :=
    map_eq_of_determined kept.stages determined
  simp only [BlueprintStage.withoutContent_eq_iff] at stage
  exact {
    stageStructure := Prod.ext kept.entryStageId (stage fun x y same => by
      obtain ⟨stageId, stageKind, -, inputs, outputs, -, -, successors⟩ := same
      simp only [stageId, stageKind, inputs, outputs, successors])
    actionIo := by simp [actionIo, kept.actions]
    actionRouting := by simp [actionRouting, kept.actions]
    artifactContracts := kept.artifactContracts
    authorityPolicy := kept.authorityPolicy
    memoryPolicy := kept.memoryPolicy
    toolRefs := kept.toolRefs
    modelRefs := kept.modelRefs
    capabilityRequirements := kept.capabilityRequirements
    capabilityBindings := stage fun x y same => by
      obtain ⟨stageId, -, -, -, -, -, capabilities, -⟩ := same
      simp only [BlueprintStage.bound, stageId, capabilities]
    skillRefs := kept.skillRefs
    helperRefs := kept.helperRefs
    skillBindings := stage fun x y same => by
      obtain ⟨stageId, -, -, -, -, skills, -, -⟩ := same
      simp only [BlueprintStage.bound, stageId, skills]
    publicCases := caseRemovedOrChanged_eq_false.2 fun prior listed =>
      lookupNamed_of_nodup distinct.publicCases (kept.evaluation.publicCases prior listed)
    protectedRequirements := protectedRemovedOrWeakened_eq_false.2 fun prior listed => by
      obtain ⟨candidate, found, named, enough⟩ :=
        kept.evaluation.protectedRequirements prior listed
      exact ⟨candidate, named ▸ lookupNamed_of_nodup distinct.protectedRequirements found, enough⟩
    gates := kept.evaluation.gates
    baselineRequired := by
      have enabled := kept.evaluation.baselineRequired
      cases needed : previous.evalSpec.baselineComparison.required <;>
        simp_all [baselineComparisonDisabled]
    regressionTolerance := by
      simpa [regressionToleranceWeakened] using kept.evaluation.regressionTolerance
    remainder := unclassifiedRiskProjection_eq_iff.2
      ⟨kept.targetAgentId, kept.targetDomainId,
        stage fun x y same => same.2.2.1,
        by rw [kept.actions], by simp [kept.authorityPolicy], kept.assumptions,
        kept.designEvidenceRefs, kept.evaluation.evalSpecId,
        kept.evaluation.independentEvaluatorRequired⟩ }

/-- The tier `low` stands for the declared differences except where
`content_refs.schema_refs` is the one restricted field that differs. -/
theorem lowRisk_declared_iff {previous next : AgentBlueprint}
    (nextValid : validateAgentBlueprint next = .ok next) :
    ((recomputeBlueprintRisk (some previous) next).riskTier = .low →
        OnlyDeclaredDifferences previous next) ↔
      previous.contentRefs.schemaRefs = next.contentRefs.schemaRefs ∨
        ¬ ComparedFieldsKept previous next ∨ next.riskHint ≠ .low := by
  have distinct := distinctNames_of_validateEvalSpec
    (validEvalSpec_of_validateAgentBlueprint nextValid)
  have compared : NoTestRaises previous next ↔ ComparedFieldsKept previous next :=
    ⟨NoTestRaises.comparedFieldsKept, ComparedFieldsKept.noTestRaises distinct⟩
  rw [riskTier_eq_low_iff, compared]
  constructor
  · intro claimed
    by_contra! broken
    exact broken.1 (claimed ⟨broken.2.1, broken.2.2⟩).schemaRefs
  · rintro condition ⟨kept, hint⟩
    rcases condition with same | differs | raised
    · exact ⟨kept, same⟩
    · exact absurd kept differs
    · exact absurd hint raised

/-- A blueprint of one stage and one action. -/
def singleStageBlueprint : AgentBlueprint where
  blueprintId := "blueprint"
  targetAgentId := "agent"
  targetDomainId := "domain"
  targetVersionRef := none
  designRequestDigest := "sha256:0000000000000000000000000000000000000000000000000000000000000000"
  generation := 0
  stageGraph :=
    { entryStageId := "stage"
      stages := [{
        stageId := "stage"
        stageKind := "work"
        goal := "goal"
        inputArtifactTypes := []
        outputArtifactTypes := []
        promptRef := "prompt"
        skillRefs := []
        knowledgeRefs := []
        capabilityRefs := []
        nextStageIds := [] }] }
  actions := [{
    actionId := "action"
    summary := "summary"
    entryStageId := "stage"
    inputSchemaRef :=
      "opl-content://sha256/0000000000000000000000000000000000000000000000000000000000000000"
    outputSchemaRef :=
      "opl-content://sha256/0000000000000000000000000000000000000000000000000000000000000000" }]
  artifactContracts := []
  contentRefs :=
    { promptRefs := ["prompt"]
      skillRefs := []
      knowledgeRefs := []
      helperRefs := []
      modelRefs := []
      toolRefs := []
      schemaRefs :=
        ["opl-content://sha256/0000000000000000000000000000000000000000000000000000000000000000"] }
  capabilityRequirements := []
  authorityPolicy :=
    { truthOwnerRef := "truth"
      artifactOwnerRef := "artifact"
      qualityOwnerRef := "quality"
      permissionRefs := []
      generatedAgentCanModifyVersions := false
      generatedAgentCanModifyEvaluation := false
      generatedAgentCanModifyPermissions := false
      generatedAgentCanModifyActivation := false }
  memoryPolicy := { memoryClasses := [], retentionRefs := [], writeAuthorityRefs := [] }
  assumptions := []
  designEvidenceRefs := []
  evalSpec :=
    { evalSpecId := "spec"
      publicCases := [{ caseId := "case", testRef := "test", weight := 1, required := true }]
      protectedRequirements := []
      gates := [{
        gateId := "gate", metric := "quality", operator := .gte, threshold := 0, required := true }]
      baselineComparison := { required := false, regressionTolerance := 0 }
      independentEvaluatorRequired := true }
  riskHint := .low

/-- The same blueprint declaring one more schema. -/
def schemaAddingBlueprint : AgentBlueprint :=
  { singleStageBlueprint with
    contentRefs := { singleStageBlueprint.contentRefs with
      schemaRefs :=
        ["opl-content://sha256/0000000000000000000000000000000000000000000000000000000000000000",
          "opl-content://sha256/1111111111111111111111111111111111111111111111111111111111111111"] } }

theorem assertBase_of_pure {identity : TargetIdentity} {form : Json} {label : String}
    (identified : assertIdentity identity label = .ok ()) (pure : scanForbidden form [] = []) :
    assertBase identity form label = .ok () := by
  simp [assertBase, identified, assertFoundryProtocolPurity, pure]

theorem validateAgentBlueprint_of_pure {blueprint : AgentBlueprint}
    (pure : scanForbidden blueprint.toJson [] = [])
    (identified : assertIdentity blueprint.target "AgentBlueprint" = .ok ())
    (rest : validateBlueprintBody blueprint = .ok blueprint) :
    validateAgentBlueprint blueprint = .ok blueprint := by
  simp [validateAgentBlueprint, assertBase_of_pure identified pure, rest]

theorem singleStageBlueprint_valid :
    validateAgentBlueprint singleStageBlueprint = .ok singleStageBlueprint :=
  validateAgentBlueprint_of_pure
    (scanForbidden_of_spelled (by repeat' constructor) (by repeat' constructor) rfl rfl _)
    (by decide +kernel) (by decide +kernel)

theorem schemaAddingBlueprint_valid :
    validateAgentBlueprint schemaAddingBlueprint = .ok schemaAddingBlueprint :=
  validateAgentBlueprint_of_pure
    (scanForbidden_of_spelled (by repeat' constructor) (by repeat' constructor) rfl rfl _)
    (by decide +kernel) (by decide +kernel)

/-- Two valid blueprints that differ in `content_refs.schema_refs` alone are
graded low. -/
theorem schemaChange_lowRisk :
    validateAgentBlueprint singleStageBlueprint = .ok singleStageBlueprint ∧
      validateAgentBlueprint schemaAddingBlueprint = .ok schemaAddingBlueprint ∧
      (recomputeBlueprintRisk (some singleStageBlueprint) schemaAddingBlueprint).riskTier = .low ∧
      ¬ OnlyDeclaredDifferences singleStageBlueprint schemaAddingBlueprint :=
  ⟨singleStageBlueprint_valid, schemaAddingBlueprint_valid, by decide +kernel,
    fun declared => absurd declared.schemaRefs (by decide)⟩

theorem lowRisk_declared_iff_schemaChange :
    ((recomputeBlueprintRisk (some singleStageBlueprint) schemaAddingBlueprint).riskTier = .low →
        OnlyDeclaredDifferences singleStageBlueprint schemaAddingBlueprint) ↔
      singleStageBlueprint.contentRefs.schemaRefs = schemaAddingBlueprint.contentRefs.schemaRefs ∨
        ¬ ComparedFieldsKept singleStageBlueprint schemaAddingBlueprint ∨
        schemaAddingBlueprint.riskHint ≠ .low :=
  lowRisk_declared_iff schemaAddingBlueprint_valid

end OnePersonLab.Evolution

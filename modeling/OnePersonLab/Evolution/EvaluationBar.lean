import Mathlib.Algebra.BigOperators.Group.List.Basic
import Mathlib.Algebra.Order.BigOperators.Group.List
import Mathlib.Algebra.Order.Field.Rat
import Mathlib.Tactic.Linarith
import Mathlib.Tactic.FieldSimp
import Mathlib.Tactic.Ring
import OnePersonLab.Evolution.EvaluationRuntime
import OnePersonLab.Evolution.RiskClassification

/-!
# The bar a strengthened evaluation sets

Results that qualify under a non-weakened evaluation are judged again, restricted
to the cases and categories of the evaluation before it. Cases and requirements
are judged one by one and carry over; a score gate judges an aggregate, which the
added cases can move.
-/

namespace OnePersonLab.Evolution

open Contract Lib

/-! ## Result sets -/

def EvalSpec.caseIds (spec : EvalSpec) : List String := spec.publicCases.map PublicCase.caseId

def EvalSpec.categories (spec : EvalSpec) : List String :=
  spec.protectedRequirements.map ProtectedRequirement.category

/-- The facts that a public result states are in range. -/
def PublicCaseResult.InRange (result : PublicCaseResult) : Prop :=
  0 ≤ result.score ∧ result.score ≤ 1 ∧ solidRefs result.evidenceRefs

section

variable {spec : EvalSpec} {label : String} {outcome : Unit}

theorem checkPublicResultSet_eq_ok {seen : List String} {results : List PublicCaseResult} :
    checkPublicResultSet spec label seen results = .ok outcome ↔
      (results.map PublicCaseResult.caseId).Nodup ∧
        ∀ result ∈ results, result.caseId ∉ seen ∧ result.caseId ∈ spec.caseIds ∧
          result.InRange := by
  induction results generalizing seen with
  | nil => simp [checkPublicResultSet]
  | cons result rest ih =>
    rw [← distinct_unseen_cons]
    simp only [checkPublicResultSet, bind_eq_ok, ensure_eq_ok, ih, Unique.exists_iff, and_assoc,
      EvalSpec.caseIds, PublicCaseResult.InRange]

theorem assertPublicResultSet_eq_ok {results : List PublicCaseResult} :
    assertPublicResultSet spec results label = .ok outcome ↔
      Covers PublicCaseResult.caseId results spec.caseIds ∧
        (results.map PublicCaseResult.caseId).Nodup ∧ ∀ result ∈ results, result.InRange := by
  simp only [assertPublicResultSet, bind_eq_ok, ensure_eq_ok, checkPublicResultSet_eq_ok,
    List.not_mem_nil, not_false_eq_true, true_and, exists_const]
  constructor
  · rintro ⟨length, distinct, each⟩
    refine ⟨covers_of_length distinct (fun result listed => (each result listed).1) ?_, distinct,
      fun result listed => (each result listed).2⟩
    simpa [EvalSpec.caseIds] using length
  · rintro ⟨covers, distinct, each⟩
    refine ⟨by simpa [EvalSpec.caseIds] using covers.length_eq, distinct, fun result listed => ?_⟩
    exact ⟨(List.Perm.mem_iff covers).1 (List.mem_map_of_mem listed), each result listed⟩

theorem checkProtectedAggregateSet_eq_ok {seen : List String} {aggregates : List ProtectedAggregate}
    :
    checkProtectedAggregateSet spec label seen aggregates = .ok outcome ↔
      (aggregates.map ProtectedAggregate.category).Nodup ∧
        ∀ aggregate ∈ aggregates, aggregate.category ∉ seen ∧ ∃ requirement,
          lookupNamed ProtectedRequirement.category spec.protectedRequirements
            aggregate.category = some requirement ∧ aggregate.Consistent requirement := by
  induction aggregates generalizing seen with
  | nil => simp [checkProtectedAggregateSet]
  | cons aggregate rest ih =>
    cases found : lookupNamed ProtectedRequirement.category spec.protectedRequirements
        aggregate.category with
    | none => simp [checkProtectedAggregateSet, found]
    | some requirement =>
      rw [← distinct_unseen_cons]
      simp only [checkProtectedAggregateSet, found, bind_eq_ok, ensure_eq_ok, ih,
        Unique.exists_iff, and_assoc, Option.some.injEq, exists_eq_left']

theorem assertProtectedAggregateSet_eq_ok {aggregates : List ProtectedAggregate} :
    assertProtectedAggregateSet spec aggregates label = .ok outcome ↔
      Covers ProtectedAggregate.category aggregates spec.categories ∧
        (aggregates.map ProtectedAggregate.category).Nodup ∧
        ∀ aggregate ∈ aggregates, ∃ requirement,
          lookupNamed ProtectedRequirement.category spec.protectedRequirements
            aggregate.category = some requirement ∧ aggregate.Consistent requirement := by
  simp only [assertProtectedAggregateSet, bind_eq_ok, ensure_eq_ok,
    checkProtectedAggregateSet_eq_ok, List.not_mem_nil, not_false_eq_true, true_and, exists_const]
  constructor
  · rintro ⟨length, distinct, each⟩
    refine ⟨covers_of_length distinct (fun aggregate listed => ?_) ?_, distinct, each⟩
    · obtain ⟨requirement, found, -⟩ := each aggregate listed
      obtain ⟨required, named⟩ := lookupNamed_sound found
      exact named ▸ List.mem_map_of_mem required
    · simpa [EvalSpec.categories] using length
  · rintro ⟨covers, distinct, each⟩
    exact ⟨by simpa [EvalSpec.categories] using covers.length_eq, distinct, each⟩

end

/-! ## Well-formed evaluations -/

/-- What validation establishes about an evaluation. -/
structure EvalSpec.WellFormed (spec : EvalSpec) : Prop extends spec.DistinctNames where
  weights : ∀ entry ∈ spec.publicCases, 0 ≤ entry.weight
  totalWeight : 0 < totalWeight spec
  minimumCaseCounts : ∀ entry ∈ spec.protectedRequirements, 1 ≤ entry.minimumCaseCount

theorem wellFormed_of_validateEvalSpec {spec : EvalSpec} {label : String}
    (valid : validateEvalSpec spec label = .ok ()) : spec.WellFormed := by
  have distinct := distinctNames_of_validateEvalSpec valid
  simp only [validateEvalSpec, bind_eq_ok, ensure_eq_ok] at valid
  obtain ⟨_, -, _, cases, _, -, _, total, _, requirements, -⟩ := valid
  have caseValid := (checkIndexed_eq_ok (fun entry : PublicCase =>
    trim entry.caseId ≠ "" ∧ trim entry.testRef ≠ "" ∧ 0 ≤ entry.weight) (by simp)).1 cases
  have requirementValid := (checkIndexed_eq_ok (fun entry : ProtectedRequirement =>
    trim entry.category ≠ "" ∧ 1 ≤ entry.minimumCaseCount ∧
      entry.minimumCaseCount ≤ maxSafeInteger) (by simp)).1 requirements
  exact {
    toDistinctNames := distinct
    weights := fun entry listed => (caseValid entry listed).2.2
    totalWeight := total
    minimumCaseCounts := fun entry listed => (requirementValid entry listed).2.1 }

/-! ## Restriction to an earlier evaluation -/

def restrictResults (spec : EvalSpec) (results : List PublicCaseResult) : List PublicCaseResult :=
  restrictTo PublicCaseResult.caseId results spec.caseIds

def restrictAggregates (spec : EvalSpec) (aggregates : List ProtectedAggregate) :
    List ProtectedAggregate :=
  restrictTo ProtectedAggregate.category aggregates spec.categories

def QualificationInput.restrictTo (input : QualificationInput) (spec : EvalSpec) :
    QualificationInput :=
  { input with
    spec
    publicResults := restrictResults spec input.publicResults
    baselinePublicResults := input.baselinePublicResults.map (restrictResults spec)
    protectedAggregates := restrictAggregates spec input.protectedAggregates
    baselineProtectedAggregates := input.baselineProtectedAggregates.map (restrictAggregates spec) }

section Kept

variable {previous next : EvalSpec} (kept : previous.Keeps next)
  (previousFormed : previous.WellFormed) (nextFormed : next.WellFormed)
include kept

theorem caseIds_subset : previous.caseIds ⊆ next.caseIds := by
  intro caseId listed
  obtain ⟨entry, found, rfl⟩ := List.mem_map.1 listed
  exact List.mem_map_of_mem (kept.publicCases entry found)

theorem categories_subset : previous.categories ⊆ next.categories := by
  intro category listed
  obtain ⟨entry, found, rfl⟩ := List.mem_map.1 listed
  obtain ⟨candidate, listed, named, -⟩ := kept.protectedRequirements entry found
  exact named ▸ List.mem_map_of_mem listed

include previousFormed nextFormed

theorem assertPublicResultSet_restrict {results : List PublicCaseResult} {label : String}
    (other : String) (accepted : assertPublicResultSet next results label = .ok ()) :
    assertPublicResultSet previous (restrictResults previous results) other = .ok () := by
  obtain ⟨covers, distinct, each⟩ := assertPublicResultSet_eq_ok.1 accepted
  refine assertPublicResultSet_eq_ok.2 ⟨?_, ?_, ?_⟩
  · exact covers.restrictTo nextFormed.publicCases previousFormed.publicCases (caseIds_subset kept)
  · exact distinct.sublist ((List.filter_sublist).map _)
  · exact fun result listed => each result (mem_restrictTo.1 listed).1

theorem assertProtectedAggregateSet_restrict {aggregates : List ProtectedAggregate}
    {label : String} (other : String)
    (accepted : assertProtectedAggregateSet next aggregates label = .ok ()) :
    assertProtectedAggregateSet previous (restrictAggregates previous aggregates) other =
      .ok () := by
  obtain ⟨covers, distinct, each⟩ := assertProtectedAggregateSet_eq_ok.1 accepted
  refine assertProtectedAggregateSet_eq_ok.2 ⟨?_, ?_, ?_⟩
  · exact covers.restrictTo nextFormed.protectedRequirements previousFormed.protectedRequirements
      (categories_subset kept)
  · exact distinct.sublist ((List.filter_sublist).map _)
  · intro aggregate listed
    obtain ⟨present, required⟩ := mem_restrictTo.1 listed
    obtain ⟨prior, priorListed, named⟩ := List.mem_map.1 required
    obtain ⟨candidate, candidateListed, renamed, enough⟩ :=
      kept.protectedRequirements prior priorListed
    obtain ⟨requirement, found, consistent⟩ := each aggregate present
    have same : candidate = requirement := by
      obtain ⟨requirementListed, category⟩ := lookupNamed_sound found
      exact eq_of_nodup_names nextFormed.protectedRequirements candidateListed requirementListed
        ((renamed.trans named).trans category.symm)
    refine ⟨prior, named ▸ lookupNamed_of_nodup previousFormed.protectedRequirements priorListed,
      ?_⟩
    obtain ⟨total, passed, failed, minimum, rest⟩ := consistent
    have raised : (prior.minimumCaseCount : ℚ) ≤ requirement.minimumCaseCount := by
      exact_mod_cast same ▸ enough
    exact ⟨total, passed, failed, raised.trans minimum, rest⟩

end Kept

/-! ## Scores -/

variable {previous next : EvalSpec} {results : List PublicCaseResult} {observed : ℚ}
  {aggregates : List ProtectedAggregate}

theorem resultById_restrict {spec : EvalSpec} {entry : PublicCase}
    (listed : entry ∈ spec.publicCases) (results : List PublicCaseResult) :
    resultById (restrictResults spec results) entry.caseId = resultById results entry.caseId :=
  lookupNamed_restrictTo (List.mem_map_of_mem listed)

theorem aggregateByCategory_restrict {spec : EvalSpec} {entry : ProtectedRequirement}
    (listed : entry ∈ spec.protectedRequirements) (aggregates : List ProtectedAggregate) :
    aggregateByCategory (restrictAggregates spec aggregates) entry.category =
      aggregateByCategory aggregates entry.category :=
  lookupNamed_restrictTo (List.mem_map_of_mem listed)

theorem weightedSum_restrict (spec : EvalSpec) (results : List PublicCaseResult) :
    weightedSum spec (restrictResults spec results) = weightedSum spec results := by
  refine congrArg List.sum (List.map_congr_left fun entry listed => ?_)
  rw [scoreOf, resultById_restrict listed, scoreOf]

/-- The cases of `next` that `previous` does not have. -/
def addedCases (previous next : EvalSpec) : List PublicCase :=
  next.publicCases.filter fun entry => decide (entry.caseId ∉ previous.caseIds)

/-- How far the added cases pull the score away from the score of the kept ones. -/
def addedPull (previous next : EvalSpec) (results : List PublicCaseResult) : ℚ :=
  ((addedCases previous next).map fun entry =>
    entry.weight * (scoreOf results entry.caseId -
      weightedSum previous results / totalWeight previous)).sum

theorem cases_perm (kept : previous.Keeps next) (previousFormed : previous.WellFormed)
    (nextFormed : next.WellFormed) :
    next.publicCases.Perm (previous.publicCases ++ addedCases previous next) := by
  have old : (next.publicCases.filter fun entry => decide (entry.caseId ∈ previous.caseIds)).Perm
      previous.publicCases := by
    refine (List.perm_ext_iff_of_nodup ((nextFormed.publicCases.of_map).filter _)
      previousFormed.publicCases.of_map).2 fun entry => ?_
    simp only [List.mem_filter, decide_eq_true_eq]
    constructor
    · rintro ⟨listed, known⟩
      obtain ⟨prior, priorListed, named⟩ := List.mem_map.1 known
      rwa [← eq_of_nodup_names nextFormed.publicCases (kept.publicCases prior priorListed) listed
        named]
    · exact fun listed => ⟨kept.publicCases entry listed, List.mem_map_of_mem listed⟩
  have split := List.filter_append_perm
    (fun entry : PublicCase => decide (entry.caseId ∈ previous.caseIds)) next.publicCases
  refine split.symm.trans (old.append ?_)
  simp [addedCases]

/-- The score over all cases, from the score over the kept ones. -/
theorem score_eq (kept : previous.Keeps next) (previousFormed : previous.WellFormed)
    (nextFormed : next.WellFormed) (results : List PublicCaseResult) :
    weightedSum next results / totalWeight next =
      weightedSum previous results / totalWeight previous +
        addedPull previous next results / totalWeight next := by
  have permuted := cases_perm kept previousFormed nextFormed
  have weights : totalWeight next =
      totalWeight previous + ((addedCases previous next).map PublicCase.weight).sum := by
    rw [totalWeight, (permuted.map _).sum_eq, List.map_append, List.sum_append, totalWeight]
  have sums : weightedSum next results = weightedSum previous results +
      ((addedCases previous next).map fun entry =>
        scoreOf results entry.caseId * entry.weight).sum := by
    rw [weightedSum, (permuted.map _).sum_eq, List.map_append, List.sum_append, weightedSum]
  have pull : addedPull previous next results =
      ((addedCases previous next).map fun entry =>
        scoreOf results entry.caseId * entry.weight).sum -
      ((addedCases previous next).map PublicCase.weight).sum *
        (weightedSum previous results / totalWeight previous) := by
    unfold addedPull
    generalize addedCases previous next = added
    induction added with
    | nil => simp
    | cons entry rest ih =>
      simp only [List.map_cons, List.sum_cons, ih]
      ring
  have positive := previousFormed.totalWeight.ne'
  have nextPositive := nextFormed.totalWeight.ne'
  rw [pull, sums]
  field_simp
  rw [weights]
  ring

/-- The added cases do not move the score in favour of a gate. -/
def NotFavoured (operator : GateOperator) (pull : ℚ) : Prop :=
  match operator with
  | .gte => pull ≤ 0
  | .lte => 0 ≤ pull
  | .eq => pull = 0

/-- A gate that a strengthened gate passes with `observed` is passed with a
value that is no worse. -/
theorem gatePassed_of_strengthened {prior candidate : EvaluationGate} {restricted : ℚ}
    (same : candidate.operator = prior.operator) (firm : thresholdWeakened prior candidate = false)
    (passed : gatePassed candidate observed = true)
    (noWorse : match prior.operator with
      | .gte => observed ≤ restricted
      | .lte => restricted ≤ observed
      | .eq => restricted = observed) : gatePassed prior restricted = true := by
  cases kind : prior.operator with
  | gte =>
    simp only [gatePassed, thresholdWeakened, same, kind, decide_eq_true_eq,
      decide_eq_false_iff_not, not_lt] at *
    exact (firm.trans passed).trans noWorse
  | lte =>
    simp only [gatePassed, thresholdWeakened, same, kind, decide_eq_true_eq,
      decide_eq_false_iff_not, not_lt] at *
    exact (noWorse.trans passed).trans firm
  | eq =>
    simp only [gatePassed, thresholdWeakened, same, kind, decide_eq_true_eq,
      decide_eq_false_iff_not, not_not] at *
    exact (noWorse.trans passed).trans firm

/-! ## Judging the restricted results -/

section

variable {spec : EvalSpec} {score : ℚ} {gate : EvaluationGate}

theorem aggregateByCategory_of_mem (distinct : (aggregates.map ProtectedAggregate.category).Nodup)
    {aggregate : ProtectedAggregate} (listed : aggregate ∈ aggregates) :
    aggregateByCategory aggregates aggregate.category = some aggregate :=
  lookupNamed_of_nodup distinct listed

theorem protectedPassed_iff :
    protectedPassed spec aggregates = true ↔
      ∀ requirement ∈ spec.protectedRequirements, ∃ aggregate,
        aggregateByCategory aggregates requirement.category = some aggregate ∧
          aggregate.failed = 0 ∧ (requirement.minimumCaseCount : ℚ) ≤ aggregate.total := by
  simp only [protectedPassed, List.all_eq_true]
  refine forall₂_congr fun requirement _ => ?_
  cases aggregateByCategory aggregates requirement.category <;> simp

/-- Where every requirement passed, nothing failed and the pass rate is one. -/
theorem protectedPassRate_of_passed {label : String} (formed : spec.WellFormed)
    (accepted : assertProtectedAggregateSet spec aggregates label = .ok ())
    (passed : protectedPassed spec aggregates = true) (some_ : spec.protectedRequirements ≠ []) :
    protectedPassRate aggregates = 1 := by
  obtain ⟨covers, distinct, each⟩ := assertProtectedAggregateSet_eq_ok.1 accepted
  have settled : ∀ aggregate ∈ aggregates, aggregate.passed = aggregate.total ∧
      0 < aggregate.total := by
    intro aggregate listed
    obtain ⟨requirement, found, consistent⟩ := each aggregate listed
    obtain ⟨required, named⟩ := lookupNamed_sound found
    obtain ⟨judged, same, failed, enough⟩ := protectedPassed_iff.1 passed requirement required
    rw [named, aggregateByCategory_of_mem distinct listed, Option.some.injEq] at same
    subst same
    obtain ⟨-, -, -, minimum, -, -, sum, -⟩ := consistent
    have positive : (1 : ℚ) ≤ requirement.minimumCaseCount := by
      exact_mod_cast formed.minimumCaseCounts requirement required
    exact ⟨by rw [← sum, failed, add_zero], lt_of_lt_of_le one_pos (positive.trans minimum)⟩
  have nonempty : aggregates ≠ [] := by
    intro empty
    have length := covers.length_eq
    rw [empty] at length
    exact some_ (List.map_eq_nil_iff.1 (List.length_eq_zero_iff.1 length.symm))
  have sums : (aggregates.map ProtectedAggregate.passed).sum =
      (aggregates.map ProtectedAggregate.total).sum :=
    congrArg List.sum (List.map_congr_left fun aggregate listed => (settled aggregate listed).1)
  have positive : 0 < (aggregates.map ProtectedAggregate.total).sum := by
    refine List.sum_pos _ (fun value listed => ?_) (by simpa using nonempty)
    obtain ⟨aggregate, found, rfl⟩ := List.mem_map.1 listed
    exact (settled aggregate found).2
  simp only [protectedPassRate, positive.ne', if_false, sums]
  exact div_self positive.ne'

theorem requiredPublicPassed_restrict (kept : previous.Keeps next)
    (passed : requiredPublicPassed next results = true) :
    requiredPublicPassed previous (restrictResults previous results) = true := by
  simp only [requiredPublicPassed, List.all_eq_true] at passed ⊢
  intro entry listed
  rw [resultById_restrict listed]
  exact passed entry (kept.publicCases entry listed)

theorem protectedPassed_restrict (kept : previous.Keeps next)
    (passed : protectedPassed next aggregates = true) :
    protectedPassed previous (restrictAggregates previous aggregates) = true := by
  rw [protectedPassed_iff] at passed ⊢
  intro prior listed
  obtain ⟨candidate, candidateListed, named, enough⟩ := kept.protectedRequirements prior listed
  obtain ⟨aggregate, found, failed, total⟩ := passed candidate candidateListed
  refine ⟨aggregate, ?_, failed, le_trans (by exact_mod_cast enough) total⟩
  rw [aggregateByCategory_restrict listed, ← named]
  exact found

theorem gateResult_eq_ok {result : GateResult} :
    gateResult score aggregates gate = .ok result ↔ ∃ observed,
      gateObserved gate.metric score aggregates = .ok observed ∧
        result = { gateId := gate.gateId, passed := gatePassed gate observed, observed } := by
  simp only [gateResult, bind_eq_ok, pure_eq_ok, eq_comm (a := result)]

/-- The result recorded under a gate's id is the gate's own. -/
theorem lookup_gateResult {gates : List EvaluationGate} {results : List GateResult}
    (distinct : (gates.map EvaluationGate.gateId).Nodup)
    (judged : mapEach (gateResult score aggregates) gates = .ok results) (listed : gate ∈ gates) :
    ∃ observed,
      gateObserved gate.metric score aggregates = .ok observed ∧
        lookupNamed GateResult.gateId results gate.gateId =
          some { gateId := gate.gateId, passed := gatePassed gate observed, observed } := by
  have names : results.map GateResult.gateId = gates.map EvaluationGate.gateId :=
    mapEach_map_eq judged fun gate result found => by
      obtain ⟨observed, -, rfl⟩ := gateResult_eq_ok.1 found
      rfl
  obtain ⟨result, member, found⟩ := mapEach_mem judged listed
  obtain ⟨observed, seen, rfl⟩ := gateResult_eq_ok.1 found
  exact ⟨observed, seen, lookupNamed_of_nodup (names ▸ distinct) member⟩

theorem gatePassed_of_required {results : List GateResult}
    (distinct : (spec.gates.map EvaluationGate.gateId).Nodup)
    (judged : mapEach (gateResult score aggregates) spec.gates = .ok results)
    (passed : requiredGatesPassed spec results = true) (listed : gate ∈ spec.gates)
    (required : gate.required = true) : ∃ observed,
      gateObserved gate.metric score aggregates = .ok observed ∧
        gatePassed gate observed = true := by
  obtain ⟨observed, seen, found⟩ := lookup_gateResult distinct judged listed
  refine ⟨observed, seen, ?_⟩
  have each := List.all_eq_true.1 passed gate listed
  simpa [required, found] using each

theorem recompute_eq_ok {input : QualificationInput} {facts : QualificationFacts} :
    recomputeEvaluationQualification input = .ok facts ↔
      assertPublicResultSet input.spec input.publicResults "EvidenceBundle.public_results" =
        .ok () ∧
      assertProtectedAggregateSet input.spec input.protectedAggregates
        "EvidenceBundle.protected_aggregates" = .ok () ∧
      (input.baselinePresent = input.baselinePublicResults.isSome ∧
        input.baselinePresent = input.baselineProtectedAggregates.isSome) ∧
      (input.baselinePresent = true ∨ input.spec.baselineComparison.required = false) ∧
      assertBaselineSet (fun results => assertPublicResultSet input.spec results
        "EvidenceBundle.baseline_public_results") input.baselinePublicResults = .ok () ∧
      assertBaselineSet (fun aggregates => assertProtectedAggregateSet input.spec aggregates
        "EvidenceBundle.baseline_protected_aggregates") input.baselineProtectedAggregates =
        .ok () ∧
      ∃ gateScore baselineScore gateResults resources,
        weightedScore input.spec input.publicResults = .ok gateScore ∧
        baselineWeightedScore input.spec input.baselinePublicResults = .ok baselineScore ∧
        mapEach (gateResult gateScore input.protectedAggregates) input.spec.gates =
          .ok gateResults ∧
        evaluateDesignRequestResourceConstraints input.request input.candidateCostObservations
          input.candidateLatencyObservations = .ok resources ∧
        input.facts gateScore baselineScore gateResults resources = facts := by
  simp only [recomputeEvaluationQualification, bind_eq_ok, ensure_eq_ok, pure_eq_ok,
    Unique.exists_iff, PUnit.default_eq_unit]
  constructor
  · rintro ⟨h1, h2, h3, h4, h5, h6, score, scored, baseline, measured, gates, judged, resources,
      observed, result⟩
    exact ⟨h1, h2, h3, h4, h5, h6, score, baseline, gates, resources, scored, measured, judged,
      observed, result⟩
  · rintro ⟨h1, h2, h3, h4, h5, h6, score, baseline, gates, resources, scored, measured, judged,
      observed, result⟩
    exact ⟨h1, h2, h3, h4, h5, h6, score, scored, baseline, measured, gates, judged, resources,
      observed, result⟩

theorem weightedScore_eq_ok :
    weightedScore spec results = .ok score ↔
      0 < totalWeight spec ∧ weightedSum spec results / totalWeight spec = score := by
  simp [weightedScore]

theorem exists_baselineWeightedScore (formed : spec.WellFormed)
    (results : Option (List PublicCaseResult)) :
    ∃ score, baselineWeightedScore spec results = .ok score := by
  cases results with
  | none => exact ⟨none, rfl⟩
  | some listed => exact ⟨_, map_eq_ok.2 ⟨_, weightedScore_eq_ok.2 ⟨formed.totalWeight, rfl⟩, rfl⟩⟩

theorem assertBaselineSet_map {α : Type} {check restrictedCheck : α → Checked Unit}
    (restrict : α → α) (carried : ∀ results, check results = .ok () →
      restrictedCheck (restrict results) = .ok ()) {results : Option α}
    (accepted : assertBaselineSet check results = .ok ()) :
    assertBaselineSet restrictedCheck (results.map restrict) = .ok () := by
  cases results with
  | none => rfl
  | some listed => exact carried listed accepted

theorem exists_gateObserved {metric : String} {other : ℚ} {others : List ProtectedAggregate}
    (supported : gateObserved metric score aggregates = .ok observed) :
    ∃ value, gateObserved metric other others = .ok value := by
  unfold gateObserved at supported ⊢
  split_ifs at supported ⊢
  · exact ⟨_, rfl⟩
  · exact ⟨_, rfl⟩
  · exact absurd supported fail_ne_ok

end

/-- What decides whether a gate judges the restricted results as it judged all
of them: for a score, where the added cases pull it; for the protected pass
rate, whether requirements were added to none. -/
def GateCarriesOver (previous next : EvalSpec) (results : List PublicCaseResult)
    (gate : EvaluationGate) : Prop :=
  if gate.metric = "score" then NotFavoured gate.operator (addedPull previous next results)
  else previous.protectedRequirements = [] → next.protectedRequirements = []

/-- The values a carried-over gate observes on all results and on the restricted ones. -/
theorem observed_noWorse (kept : previous.Keeps next) (previousFormed : previous.WellFormed)
    (nextFormed : next.WellFormed) {label : String}
    (accepted : assertProtectedAggregateSet next aggregates label = .ok ())
    (passed : protectedPassed next aggregates = true) {gate : EvaluationGate}
    (carries : GateCarriesOver previous next results gate) {restricted : ℚ}
    (seen : gateObserved gate.metric (weightedSum next results / totalWeight next) aggregates =
      .ok observed)
    (seenRestricted : gateObserved gate.metric
      (weightedSum previous results / totalWeight previous)
      (restrictAggregates previous aggregates) = .ok restricted) :
    match gate.operator with
    | .gte => observed ≤ restricted
    | .lte => restricted ≤ observed
    | .eq => restricted = observed := by
  by_cases score : gate.metric = "score"
  · simp only [gateObserved, score, if_true, Except.ok.injEq] at seen seenRestricted
    simp only [GateCarriesOver, score, if_true] at carries
    subst seen seenRestricted
    rw [score_eq kept previousFormed nextFormed]
    have positive := nextFormed.totalWeight
    cases kind : gate.operator with
    | gte =>
      simp only [NotFavoured, kind] at carries
      exact add_le_of_nonpos_right (div_nonpos_of_nonpos_of_nonneg carries positive.le)
    | lte =>
      simp only [NotFavoured, kind] at carries
      exact le_add_of_nonneg_right (div_nonneg carries positive.le)
    | eq =>
      simp only [NotFavoured, kind] at carries
      simp [carries]
  · have same : observed = restricted := by
      simp only [gateObserved, score, if_false] at seen seenRestricted
      simp only [GateCarriesOver, score, if_false] at carries
      split_ifs at seen seenRestricted with rate
      · rw [← Except.ok.inj seen, ← Except.ok.inj seenRestricted]
        by_cases none_ : previous.protectedRequirements = []
        · have emptied : restrictAggregates previous aggregates = [] := by
            simp [restrictAggregates, restrictTo, EvalSpec.categories, none_]
          have covers := (assertProtectedAggregateSet_eq_ok.1 accepted).1.length_eq
          rw [EvalSpec.categories, carries none_] at covers
          rw [emptied, List.length_eq_zero_iff.1 covers]
        · have some_ : next.protectedRequirements ≠ [] := by
            intro none'
            obtain ⟨prior, rest, shape⟩ := List.exists_cons_of_ne_nil none_
            obtain ⟨candidate, listed, -⟩ := kept.protectedRequirements prior (by simp [shape])
            simp [none'] at listed
          rw [protectedPassRate_of_passed nextFormed accepted passed some_,
            protectedPassRate_of_passed previousFormed
              (assertProtectedAggregateSet_restrict kept previousFormed nextFormed label accepted)
              (protectedPassed_restrict kept passed) none_]
      · exact absurd seen fail_ne_ok
    cases gate.operator <;> simp [same]

/-- One case, and a gate at 4/5 on the score. -/
def oneCaseEvalSpec : EvalSpec where
  evalSpecId := "spec"
  publicCases := [{ caseId := "case", testRef := "test", weight := 1, required := false }]
  protectedRequirements := []
  gates := [{
    gateId := "gate", metric := "score", operator := .gte, threshold := 4 / 5, required := true }]
  baselineComparison := { required := false, regressionTolerance := 0 }
  independentEvaluatorRequired := true

/-- The same with a second, heavier case. -/
def twoCaseEvalSpec : EvalSpec :=
  { oneCaseEvalSpec with
    publicCases := [{ caseId := "case", testRef := "test", weight := 1, required := false },
      { caseId := "easy", testRef := "test", weight := 9, required := false }] }

def oneCaseBlueprint : AgentBlueprint := { singleStageBlueprint with evalSpec := oneCaseEvalSpec }

def twoCaseBlueprint : AgentBlueprint := { singleStageBlueprint with evalSpec := twoCaseEvalSpec }

def unconstrainedRequest : DesignRequest where
  requestId := "request"
  mode := .create
  targetAgentId := "agent"
  targetDomainId := "domain"
  targetVersionRef := none
  objective := "objective"
  acceptanceCriteria := []
  nonGoals := []
  sourceRefs := []
  constraints :=
    { capabilityRefs := []
      permissionRefs := []
      privacyRequirements := []
      costLimits := .empty
      latencyLimits := .empty }
  deliveryPolicy := { activationMode := .activate, maxGenerations := 1 }
  baselineAdoption := none

/-- Half of the points on the kept case, all of them on the added one. -/
def easyQualification : QualificationInput where
  request := unconstrainedRequest
  spec := twoCaseEvalSpec
  publicResults :=
    [{ caseId := "case", status := .pass, score := 1 / 2, evidenceRefs := ["evidence"] },
      { caseId := "easy", status := .pass, score := 1, evidenceRefs := ["evidence"] }]
  baselinePublicResults := none
  protectedAggregates := []
  baselineProtectedAggregates := none
  independentReviewVerdict := .pass
  baselinePresent := false
  candidateCostObservations := .empty
  candidateLatencyObservations := .empty
  safetyObservations := []

theorem oneCaseBlueprint_valid : validateAgentBlueprint oneCaseBlueprint = .ok oneCaseBlueprint :=
  validateAgentBlueprint_of_pure
    (scanForbidden_of_spelled (by repeat' constructor) (by repeat' constructor) rfl rfl _)
    (by decide +kernel) (by decide +kernel)

theorem twoCaseBlueprint_valid : validateAgentBlueprint twoCaseBlueprint = .ok twoCaseBlueprint :=
  validateAgentBlueprint_of_pure
    (scanForbidden_of_spelled (by repeat' constructor) (by repeat' constructor) rfl rfl _)
    (by decide +kernel) (by decide +kernel)

end OnePersonLab.Evolution

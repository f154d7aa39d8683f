import OnePersonLab.Stage.AttemptOutput

/-!
# Who may select the next stage

An attempt may propose where the work goes after its stage. The route authority
accepts a decision only from a decisive role whose outcome ends the stage run;
everything else is kept as a recommendation or rejected with its reasons.
-/

namespace OnePersonLab.Stage

open Contract Lib

/-! ## Decisions -/

inductive StageRouteDecisionKind where
  | advance
  | skip
  | repeat_
  | reverse
  | routeBack
  | complete
  deriving DecidableEq, Repr

def StageRouteDecisionKind.ofText? : String → Option StageRouteDecisionKind
  | "advance" => some .advance
  | "skip" => some .skip
  | "repeat" => some .repeat_
  | "reverse" => some .reverse
  | "route_back" => some .routeBack
  | "complete" => some .complete
  | _ => none

structure StageRouteDecision where
  decisionKind : StageRouteDecisionKind
  targetStageId : Option String
  evidenceRefs : List String
  deriving DecidableEq, Repr

structure StageRouteRecommendation extends StageRouteDecision where
  reason : String
  deriving DecidableEq, Repr

/-- `text`: the trimmed text of a string that is not blank. -/
def text? (value : Option Json) : Option String :=
  ((value.bind Json.asString?).map trim).filter (· ≠ "")

def textField? (record : JsonRecord) (field : String) : Option String := text? (field? record field)

/-- `stringList`: the trimmed texts of an array, each once. -/
def stringList (value : Option Json) : List String :=
  match value with
  | some (.array entries) => (entries.filterMap fun entry => text? (some entry)).eraseDups
  | _ => []

/-- `evidenceRefList`: locator texts or exact refs; anything else is dropped. -/
def evidenceRefList (value : Option Json) : List String :=
  match value with
  | some (.array entries) =>
    (entries.filterMap fun entry =>
      match entry with
      | .object fields => textField? fields "ref"
      | entry => text? (some entry)).eraseDups
  | _ => []

/-- `Number(value)` of a field that holds a natural number. -/
def numberOf? : Option Json → Option Nat
  | some .null => some 0
  | value => finiteNonNegativeInteger value

def isRepairRequiredCrossStageRouteBackDecision (reviews : Bool)
    (outcome : Option StageQualityOutcome) (currentStageId : Option String)
    (decision : Option StageRouteDecision) : Bool :=
  match decision with
  | some decision =>
    reviews && decide (outcome = some .repairRequired) &&
      decide (decision.decisionKind = .routeBack) && currentStageId.isSome &&
      decision.targetStageId.isSome && decide (decision.targetStageId ≠ currentStageId)
  | none => false

/-! ## The attempt that proposes -/

def contextManifest (attempt : JsonRecord) : JsonRecord :=
  let direct := asRecord (field? attempt "context_manifest")
  if direct ≠ [] then direct
  else asRecord (field? (asRecord (field? attempt "quality_context")) "context_manifest")

def routeContext (attempt : JsonRecord) : JsonRecord :=
  asRecord (field? (contextManifest attempt) "cross_stage_route_selection")

def legacyTerminalRouteFields : List String :=
  ["route_back_stage_ref", "selected_next_stage_ref", "next_stage_ref", "workflow_complete"]

def selectedLegacyFields (routeImpact : JsonRecord) : List String :=
  legacyTerminalRouteFields.filter (hasOwn routeImpact)

def hasRouteOutput (routeImpact : JsonRecord) : Bool :=
  hasOwn routeImpact "stage_route_decision" || hasOwn routeImpact "stage_route_recommendation" ||
    selectedLegacyFields routeImpact ≠ []

def StageQualityAttemptRole.ofText? : String → Option StageQualityAttemptRole
  | "producer" => some .producer
  | "reviewer" => some .reviewer
  | "repairer" => some .repairer
  | "re_reviewer" => some .reReviewer
  | _ => none

/-- One reason when the condition holds. -/
def reasonIf (condition : Prop) [Decidable condition] (reason : String) : List String :=
  if condition then [reason] else []

def routeContextRejectionReasons (attempt context : JsonRecord) : List String :=
  let role := textField? attempt "attempt_role"
  let stageId := textField? attempt "stage_id"
  let decisiveRoles := stringList (field? context "configured_decisive_attempt_roles")
  let declaredStageIds := stringList (field? context "declared_stage_ids")
  reasonIf (role.bind StageQualityAttemptRole.ofText? = none)
    "attempt_role_is_not_framework_quality_role" ++
  reasonIf (field? context "surface_kind" ≠ some (.string "opl_stage_run_route_selection_context") ∨
      field? context "version" ≠ some (.string "stage-run-route-selection-context.v1"))
    "missing_stage_run_route_selection_context" ++
  reasonIf (role = none ∨ field? context "current_attempt_role" ≠ role.map Json.string)
    "stage_run_route_context_attempt_role_mismatch" ++
  reasonIf (¬decisiveRoles.Perm ["producer"] ∧ ¬decisiveRoles.Perm ["reviewer", "re_reviewer"])
    "configured_decisive_attempt_roles_invalid" ++
  reasonIf (¬∃ id ∈ stageId, id ∈ declaredStageIds)
    "stage_run_route_context_declared_stage_set_invalid"

/-! ## Selections -/

/-- A decision, or a recommendation with its reason. -/
structure StageRouteSelection where
  decision : StageRouteDecision
  reason : Option String
  deriving DecidableEq

def targetRejectionReasons (decisionKind : Option StageRouteDecisionKind)
    (targetStageId : Option String) (declaredStageIds : List String) : List String :=
  if decisionKind = some .complete then
    reasonIf (targetStageId ≠ none) "complete_route_must_not_declare_target_stage"
  else match targetStageId with
    | none => ["non_complete_route_requires_target_stage"]
    | some target => reasonIf (target ∉ declaredStageIds) "route_target_is_not_a_declared_stage"

def normalizeSelection (value : Option Json) (declaredStageIds : List String)
    (recommendation : Bool) : Option StageRouteSelection × List String :=
  match present? value with
  | none => (none, [])
  | some value =>
    let fields := asRecord (some value)
    let allowedFields := ["decision_kind", "target_stage_id"] ++
      (if recommendation then ["reason"] else []) ++ ["evidence_refs"]
    let decisionKind := (textField? fields "decision_kind").bind StageRouteDecisionKind.ofText?
    let targetStageId := textField? fields "target_stage_id"
    let evidenceRefs := evidenceRefList (field? fields "evidence_refs")
    let reason := textField? fields "reason"
    let rejectionReasons :=
      reasonIf (fields = []) "route_selection_must_be_an_object" ++
      reasonIf (∃ field ∈ fields, field.1 ∉ allowedFields)
        "route_selection_contains_unsupported_fields" ++
      reasonIf (decisionKind = none) "route_decision_kind_invalid" ++
      targetRejectionReasons decisionKind targetStageId declaredStageIds ++
      reasonIf (evidenceRefs = []) "route_selection_requires_evidence_refs" ++
      reasonIf (recommendation = true ∧ reason = none) "route_recommendation_requires_reason"
    match decisionKind with
    | some decisionKind =>
      if rejectionReasons = [] then
        (some {
          decision := { decisionKind, targetStageId, evidenceRefs }
          reason := if recommendation then reason else none }, [])
      else (none, rejectionReasons.eraseDups)
    | none => (none, rejectionReasons.eraseDups)

/-! ## The outcomes that end a run -/

def recordsOf? (entries : List Json) : Option (List JsonRecord) := entries.mapM asRecord?

/-- The entries of an array field; a field of another kind counts as empty. -/
def envelopeRecords? (envelope : JsonRecord) (field : String) : Option (List JsonRecord) :=
  recordsOf? (arrayField envelope field)

def contextRecords? (context : JsonRecord) (field : String) : Option (List JsonRecord) :=
  match field? context field with
  | some (.array entries) => recordsOf? entries
  | _ => none

/-- `reReviewClosureState`: the evaluation of the closures, when they are valid. -/
def reReviewClosureState (attempt routeImpact : JsonRecord) : Option FindingClosureEvaluation := do
  let qualityContext := asRecord (field? attempt "quality_context")
  let envelope := asRecord (field? routeImpact "stage_quality_cycle")
  let findings ← contextRecords? qualityContext "findings"
  let repairMap ← contextRecords? qualityContext "repair_map"
  let findingClosures ← envelopeRecords? envelope "finding_closures"
  let repairRegressions ← envelopeRecords? envelope "repair_regressions"
  let criticalNewFindings ← envelopeRecords? envelope "critical_new_findings"
  let optionalObservations ← envelopeRecords? envelope "optional_observations"
  (evaluateStageQualityFindingClosure findings repairMap
    { findingClosures, repairRegressions, criticalNewFindings, optionalObservations }).toOption

/-- The outcome of a review that ends the run in any case. -/
def terminalOutcome (outcome : Option StageQualityOutcome) : Bool :=
  outcome = some .pass || outcome = some .qualityDebt

def reviewerRejectionReasons (context : JsonRecord) (outcome : Option StageQualityOutcome)
    (crossStageRouteBack : Bool) : List String :=
  let budgetExhausted := numberOf? (field? context "max_repair_rounds") = some 0
  reasonIf (outcome = some .repairRequired ∧ ¬budgetExhausted ∧ crossStageRouteBack = false)
    "review_requires_internal_repair_continuation" ++
  reasonIf (terminalOutcome outcome = false ∧
      ¬(outcome = some .repairRequired ∧ (budgetExhausted ∨ crossStageRouteBack = true)))
    "review_outcome_does_not_terminalize_stage_run"

/-- The budget disposition of a re-review, or why there is none. -/
def reReviewBudgetOf (attempt context : JsonRecord) (closure : FindingClosureEvaluation) :
    Option ReReviewBudget := do
  let qualityRoundIndex ← numberOf? (field? attempt "quality_round_index")
  let maxRepairRounds ← numberOf? (field? context "max_repair_rounds")
  (classifyStageQualityReReviewBudget closure qualityRoundIndex maxRepairRounds).toOption

def reReviewerRejectionReasons (attempt routeImpact context : JsonRecord)
    (outcome : Option StageQualityOutcome) (crossStageRouteBack : Bool) : List String :=
  let closure := reReviewClosureState attempt routeImpact
  let judged := (closure.toList.zip outcome.toList).head?
  let disposition := judged.bind fun pair => reReviewBudgetOf attempt context pair.1
  reasonIf (closure = none) "re_review_closure_contract_invalid" ++
  reasonIf (∃ pair ∈ judged, (validateStageQualityReReviewOutcome pair.2 pair.1).toOption = none)
    "re_review_outcome_closure_mismatch" ++
  reasonIf (judged ≠ none ∧ disposition = none) "re_review_budget_identity_invalid" ++
  reasonIf (disposition = some .continueRepair ∧ crossStageRouteBack = false)
    "re_review_requires_another_repair_round" ++
  reasonIf (terminalOutcome outcome = false ∧ ¬(outcome = some .repairRequired ∧
      (disposition = some .terminalQualityDebt ∨ crossStageRouteBack = true)))
    "re_review_outcome_does_not_terminalize_stage_run"

def terminalDecisionRejectionReasons (attempt routeImpact : JsonRecord)
    (decision : StageRouteDecision) : List String :=
  match textField? attempt "attempt_role" with
  | none => []
  | some role =>
    let context := routeContext attempt
    let decisiveRoles := stringList (field? context "configured_decisive_attempt_roles")
    let envelope := asRecord (field? routeImpact "stage_quality_cycle")
    let outcomeText := textField? envelope "outcome"
    let outcome := outcomeText.bind StageQualityOutcome.ofText?
    let reviewRole := decide (role = "reviewer" ∨ role = "re_reviewer")
    let hardStopOutcome := decide (outcome = some .blocked ∨ outcome = some .humanGate)
    let crossStageRouteBack := isRepairRequiredCrossStageRouteBackDecision reviewRole outcome
      (textField? attempt "stage_id") (some decision)
    reasonIf (role ∉ decisiveRoles) "attempt_role_is_not_configured_decisive_role" ++
    reasonIf (hasOwn envelope "verdict" = true)
      "attempt_verdict_field_is_reserved_for_controller_receipt" ++
    reasonIf (reviewRole = false ∧ hasOwn envelope "outcome" = true)
      "stage_quality_outcome_is_forbidden_for_attempt_role" ++
    reasonIf (reviewRole = true ∧ outcome = none) "stage_quality_outcome_invalid_or_missing" ++
    reasonIf (hardStopOutcome = true ∨ textField? envelope "hard_stop_class" ≠ none)
      "hard_stop_attempt_cannot_select_terminal_route" ++
    (if role = "reviewer" ∧ hardStopOutcome = false then
      reviewerRejectionReasons context outcome crossStageRouteBack else []) ++
    (if role = "re_reviewer" ∧ hardStopOutcome = false then
      reReviewerRejectionReasons attempt routeImpact context outcome crossStageRouteBack else [])

/-! ## The evaluation -/

structure StageRouteEvaluation where
  decision : Option StageRouteDecision
  recommendation : Option StageRouteRecommendation
  decisionRejectionReasons : List String
  recommendationRejectionReasons : List String
  deriving DecidableEq

def evaluateStageQualityAttemptRoute (attempt : JsonRecord) (routeImpact : JsonRecord) :
    StageRouteEvaluation :=
  let role := textField? attempt "attempt_role"
  if role = none ∧ hasRouteOutput routeImpact = false then
    { decision := none, recommendation := none
      decisionRejectionReasons := [], recommendationRejectionReasons := [] }
  else
    let context := routeContext attempt
    let declaredStageIds := stringList (field? context "declared_stage_ids")
    let contextReasons := if hasRouteOutput routeImpact then
      routeContextRejectionReasons attempt context else []
    let decision := normalizeSelection (field? routeImpact "stage_route_decision")
      declaredStageIds false
    let recommendation := normalizeSelection (field? routeImpact "stage_route_recommendation")
      declaredStageIds true
    let decisionPresent := hasOwn routeImpact "stage_route_decision"
    let recommendationPresent := hasOwn routeImpact "stage_route_recommendation"
    let shared := reasonIf (selectedLegacyFields routeImpact ≠ [])
      "legacy_terminal_route_fields_are_not_authoritative" ++
      reasonIf (decisionPresent = true ∧ recommendationPresent = true)
        "decision_and_recommendation_are_mutually_exclusive"
    let decisionReasons := decision.2 ++ (if decisionPresent then contextReasons else []) ++
      ((decision.1.map fun selection =>
        terminalDecisionRejectionReasons attempt routeImpact selection.decision).getD []) ++ shared
    let recommendationReasons := recommendation.2 ++
      (if recommendationPresent then contextReasons else []) ++ shared
    { decision := if decisionReasons = [] then decision.1.map StageRouteSelection.decision else none
      recommendation := if recommendationReasons = [] then
          recommendation.1.bind fun selection =>
            selection.reason.map fun reason => { selection.decision with reason }
        else none
      decisionRejectionReasons := decisionReasons.eraseDups
      recommendationRejectionReasons := recommendationReasons.eraseDups }

end OnePersonLab.Stage

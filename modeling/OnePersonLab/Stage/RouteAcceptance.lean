import OnePersonLab.Stage.AttemptRuns

/-!
# What an accepted route decision means

The route authority accepts the decision of a review only when its outcome ends
the stage run. The controller reads the same outcome, the same budget and the
same findings, so that the two agree about where a run ends.
-/

namespace OnePersonLab.Stage

open Contract Lib Evolution

/-! ## The policy of a materialized attempt -/

theorem numberOf?_of_integerBetween {value : Json} {minimum maximum number : Nat}
    (read : integerBetween? value minimum maximum = some number) :
    numberOf? (some value) = some number := by
  cases value with
  | number rational =>
    simp only [integerBetween?, Option.ite_none_right_eq_some, Option.some.injEq] at read
    obtain ⟨⟨whole, low, -⟩, rfl⟩ := read
    have positive : 0 ≤ rational.num := by omega
    simp [numberOf?, finiteNonNegativeInteger, whole, positive]
  | _ => simp [integerBetween?] at read

/-- The policy that a materialized attempt is run under is that of its binding. -/
structure Bound (execution : ExecutionStageBinding) (policy : ExecutionPolicy) : Prop where
  rounds : integerBetween? execution.maxRepairRounds 0 3 = some policy.maxRepairRounds
  required : policy.formalReviewRequired = execution.formalReviewRequired

theorem executionPolicy_bound {run : StageRun} {asked : AttemptRequest} {choice : Materialization}
    {policy : ExecutionPolicy}
    (bound : run.executionPolicy (choice.attempt run.input asked).workflowInput = .ok policy) :
    Bound choice.execution policy := by
  have body : field? (asRecord (field? (asRecord choice.execution.contentBinding.qualityPolicyBody)
      "formal_review")) "required" = some (.bool choice.execution.formalReviewRequired) := rfl
  have rounds : field? (asRecord (field? (asRecord
      choice.execution.contentBinding.qualityPolicyBody) "formal_review")) "max_repair_rounds" =
      some choice.execution.maxRepairRounds := rfl
  simp only [StageRun.executionPolicy, Materialization.attempt, executionPolicyForAttempt, body,
    rounds, reduceCtorEq, false_and, if_false, Option.bind_some] at bound
  split at bound
  · rename_i required maxRepairRounds same read
    simp only [bind_eq_ok, pure_eq_ok] at bound
    obtain ⟨_, -, rfl⟩ := bound
    cases same
    exact ⟨read, rfl⟩
  · cases bound

namespace Answers

variable {run : StageRun} {asked : AttemptRequest} {choice : Materialization}
  {launched : LaunchedAttempt} {taken : AttemptTaken}

theorem bound (answers : Answers run asked choice launched taken) :
    Bound choice.execution launched.executionPolicy :=
  executionPolicy_bound (answers.childInput ▸ answers.policy)

theorem attemptRole_eq (answers : Answers run asked choice launched taken) :
    taken.attemptRole = asked.role := by
  rw [answers.told]

theorem attemptRef_eq (answers : Answers run asked choice launched taken) :
    taken.attemptRef = launched.attemptRef := by
  rw [answers.told]

theorem envelope_eq (answers : Answers run asked choice launched taken) :
    taken.envelope = launched.result.qualityEnvelope := by
  rw [answers.told]

theorem route_eq (answers : Answers run asked choice launched taken) :
    taken.route = evaluateStageQualityAttemptRoute launched.childInput.toRecord
      launched.result.routeImpact := by
  rw [answers.told]

theorem executionPolicy_eq (answers : Answers run asked choice launched taken) :
    taken.executionPolicy = launched.executionPolicy := by
  rw [answers.told]

theorem snapshotDebt_eq (answers : Answers run asked choice launched taken) :
    taken.reviewInputSnapshotQualityDebtRef = snapshotDebtRef? launched.childInput := by
  rw [answers.told]

theorem maxRepairRounds_le (answers : Answers run asked choice launched taken) :
    launched.executionPolicy.maxRepairRounds ≤ 3 :=
  (integerBetween?_eq_some answers.bound.rounds).2

/-- An attempt with an outcome has completed and said so in its envelope. -/
theorem outcome_some (answers : Answers run asked choice launched taken)
    {outcome : StageQualityOutcome} (given : taken.outcome = some outcome) :
    asked.role.reviews = true ∧ launched.result.status = .completed ∧
      (stringField? taken.envelope "outcome").bind StageQualityOutcome.ofText? = some outcome := by
  have reported := answers.outcome
  rw [given, attemptOutcome] at reported
  split at reported
  · rename_i completed
    simp only [countsAsCompleted, Bool.and_eq_true, decide_eq_true_eq] at completed
    unfold stageQualityAttemptOutcomeFromEnvelope at reported
    split at reported
    · rename_i reviews
      refine ⟨reviews, completed.1, ?_⟩
      simp only [bind_eq_ok, pure_eq_ok, Option.some.injEq] at reported
      obtain ⟨_, reported, rfl⟩ := reported
      simp only [stageQualityOutcomeFromEnvelope, bind_eq_ok] at reported
      obtain ⟨_, -, reported⟩ := reported
      rw [answers.envelope_eq]
      split at reported
      · rename_i found
        rw [found, pure_eq_ok.1 reported]
      · cases reported
    · obtain ⟨_, -, reported⟩ := bind_eq_ok.1 reported
      cases reported
  · cases reported

end Answers

/-! ## Accepted decisions -/

theorem reasonIf_eq_nil {condition : Prop} [Decidable condition] {reason : String} :
    reasonIf condition reason = [] ↔ ¬condition := by
  simp [reasonIf]

theorem terminalReasons_of_accepted {attempt routeImpact : JsonRecord}
    {decision : StageRouteDecision}
    (accepted : (evaluateStageQualityAttemptRoute attempt routeImpact).decision = some decision) :
    terminalDecisionRejectionReasons attempt routeImpact decision = [] := by
  unfold evaluateStageQualityAttemptRoute at accepted
  dsimp only at accepted
  split at accepted
  · cases accepted
  · simp only [Option.ite_none_right_eq_some, List.append_eq_nil_iff, Option.map_eq_some_iff]
      at accepted
    obtain ⟨⟨⟨-, reasons⟩, -⟩, selection, selected, rfl⟩ := accepted
    simpa [selected] using reasons

section Records

variable {run : StageRun} {asked : AttemptRequest} {choice : Materialization}

@[simp] theorem attempt_role : textField? (choice.attempt run.input asked).workflowInput.toRecord
    "attempt_role" = some asked.role.text := by
  change text? (some (.string asked.role.text)) = _
  generalize asked.role = role
  cases role <;> decide

@[simp] theorem attempt_stage : textField? (choice.attempt run.input asked).workflowInput.toRecord
    "stage_id" = text? (some (.string run.input.stageId)) := by
  rw [textField?, StageAttemptInput.toRecord, field?_cons_self]
  rfl

@[simp] theorem attempt_routeContext :
    routeContext (choice.attempt run.input asked).workflowInput.toRecord =
      choice.execution.routeContext asked.role := rfl

@[simp] theorem routeContext_maxRepairRounds {execution : ExecutionStageBinding}
    {role : StageQualityAttemptRole} : field? (execution.routeContext role) "max_repair_rounds" =
      some execution.maxRepairRounds := by
  simp [ExecutionStageBinding.routeContext, field?_cons]

end Records

theorem StageQualityOutcome.ofText?_eq_some {value : String} {outcome : StageQualityOutcome}
    (read : ofText? value = some outcome) : value = outcome.text := by
  unfold ofText? at read
  split at read <;> cases read <;> rfl

theorem textField?_outcome {envelope : JsonRecord} {outcome : StageQualityOutcome}
    (given : (stringField? envelope "outcome").bind StageQualityOutcome.ofText? = some outcome) :
    (textField? envelope "outcome").bind StageQualityOutcome.ofText? = some outcome := by
  obtain ⟨value, found, read⟩ := Option.bind_eq_some_iff.1 given
  obtain rfl := StageQualityOutcome.ofText?_eq_some read
  have kept : text? (some (.string outcome.text)) = some outcome.text := by
    cases outcome <;> decide
  simp only [stringField?, Option.bind_eq_some_iff] at found
  obtain ⟨json, found, string⟩ := found
  cases json <;> simp [Json.asString?] at string
  subst string
  rw [textField?, found, kept]
  exact read

namespace Answers

variable {run : StageRun} {asked : AttemptRequest} {choice : Materialization}
  {launched : LaunchedAttempt} {taken : AttemptTaken} {decision : StageRouteDecision}

/-- The route authority sees the route-back of a repair that the controller sees. -/
theorem routeBack_eq (answers : Answers run asked choice launched taken)
    (patch : run.patches.earlyRepairRouteBack = true)
    (accepted : taken.route.decision = some decision) {outcome : StageQualityOutcome}
    (given : taken.outcome = some outcome) :
    isRepairRequiredCrossStageRouteBackDecision true (some outcome)
      (text? (some (.string run.input.stageId))) (some decision) =
      isEarlyRepairRouteBack run taken := by
  have reviews := (answers.outcome_some given).1
  rw [isEarlyRepairRouteBack, patch, accepted, given, answers.attemptRole_eq, reviews, Bool.true_and]

/-- An accepted decision of a review that asks for repair ends the run anyway:
no round is left, or the work goes back to another stage. -/
theorem accepted_reviewer (answers : Answers run asked choice launched taken)
    (role : asked.role = .reviewer) (patch : run.patches.earlyRepairRouteBack = true)
    (accepted : taken.route.decision = some decision)
    (repairs : taken.outcome = some .repairRequired) :
    isEarlyRepairRouteBack run taken = true ∨ taken.executionPolicy.maxRepairRounds = 0 := by
  have seen := answers.routeBack_eq patch accepted repairs
  have told := textField?_outcome (answers.outcome_some repairs).2.2
  rw [answers.envelope_eq] at told
  have reasons := terminalReasons_of_accepted (answers.route_eq ▸ accepted)
  rw [answers.childInput] at reasons
  simp only [terminalDecisionRejectionReasons, attempt_role, attempt_stage, attempt_routeContext,
    role, List.append_eq_nil_iff] at reasons
  obtain ⟨⟨-, reasons⟩, -⟩ := reasons
  rw [StageAttemptState.qualityEnvelope] at told
  have ends : ¬launched.executionPolicy.maxRepairRounds = 0 →
      isEarlyRepairRouteBack run taken = true := by
    simpa [told, StageQualityAttemptRole.text, seen, reviewerRejectionReasons, reasonIf_eq_nil,
      terminalOutcome, numberOf?_of_integerBetween answers.bound.rounds] using reasons
  rw [answers.executionPolicy_eq]
  exact (Decidable.em _).symm.imp_left ends

/-- A re-review that asks for repair again classifies itself as the last one. -/
theorem classify_of_terminalQualityDebt {closure closure' : FindingClosureEvaluation}
    {round maxRepairRounds : Nat} (repairs : closure'.triggerRepair = true)
    (classified : classifyStageQualityReReviewBudget closure round maxRepairRounds =
      .ok .terminalQualityDebt) :
    classifyStageQualityReReviewBudget closure' round maxRepairRounds =
      .ok .terminalQualityDebt := by
  simp only [classifyStageQualityReReviewBudget, bind_eq_ok, ensure_eq_ok] at classified ⊢
  obtain ⟨_, bounds, classified⟩ := classified
  refine ⟨(), bounds, ?_⟩
  split at classified
  · cases classified
  · split at classified
    · cases classified
    · rename_i last
      simp [repairs, last]

theorem evaluateReReview_triggers {findings : List StageQualityFinding}
    {repairMap : List StageQualityRepairMapEntry} {envelope : JsonRecord} {reviewed : ReReviewed}
    (evaluated : evaluateReReview findings repairMap .repairRequired envelope = .ok reviewed) :
    reviewed.closure.triggerRepair = true := by
  simp only [evaluateReReview, bind_eq_ok, pure_eq_ok] at evaluated
  obtain ⟨_, -, closure, -, _, consistent, rfl⟩ := evaluated
  simp only [validateStageQualityReReviewOutcome, StageQualityOutcome.hardStops, bind_eq_ok,
    ensure_eq_ok, Bool.false_eq_true, if_false] at consistent
  obtain ⟨_, -, triggers⟩ := consistent
  exact triggers trivial

theorem accepted_reReviewer (answers : Answers run asked choice launched taken)
    (role : asked.role = .reReviewer) (patch : run.patches.earlyRepairRouteBack = true)
    (accepted : taken.route.decision = some decision)
    (repairs : taken.outcome = some .repairRequired) {reviewed : ReReviewed}
    (evaluated : evaluateReReview asked.findings asked.repairMap .repairRequired taken.envelope =
      .ok reviewed) :
    isEarlyRepairRouteBack run taken = true ∨
      classifyStageQualityReReviewBudget reviewed.closure asked.round
        taken.executionPolicy.maxRepairRounds = .ok .terminalQualityDebt := by
  have seen := answers.routeBack_eq patch accepted repairs
  have told := textField?_outcome (answers.outcome_some repairs).2.2
  rw [answers.envelope_eq, StageAttemptState.qualityEnvelope] at told
  have reasons := terminalReasons_of_accepted (answers.route_eq ▸ accepted)
  rw [answers.childInput] at reasons
  simp only [terminalDecisionRejectionReasons, attempt_role, attempt_stage, attempt_routeContext,
    role, List.append_eq_nil_iff] at reasons
  obtain ⟨-, reasons⟩ := reasons
  have rounds : ∀ closure, reReviewBudgetOf (choice.attempt run.input asked).workflowInput.toRecord
      (choice.execution.routeContext .reReviewer) closure =
      (classifyStageQualityReReviewBudget closure asked.round
        launched.executionPolicy.maxRepairRounds).toOption := by
    intro closure
    have index : field? (choice.attempt run.input asked).workflowInput.toRecord
        "quality_round_index" = some (.ofNat asked.round) := rfl
    have number : numberOf? (some (.ofNat asked.round)) = some asked.round := by
      simp [numberOf?, finiteNonNegativeInteger, Json.ofNat]
    simp [reReviewBudgetOf, index, number, numberOf?_of_integerBetween answers.bound.rounds]
  cases closed : reReviewClosureState (choice.attempt run.input asked).workflowInput.toRecord
      launched.result.routeImpact with
  | none => simp [told, StageQualityAttemptRole.text, reReviewerRejectionReasons, reasonIf_eq_nil,
      closed] at reasons
  | some closure =>
    have ends : ¬(classifyStageQualityReReviewBudget closure asked.round
        launched.executionPolicy.maxRepairRounds).toOption = some .terminalQualityDebt →
        isEarlyRepairRouteBack run taken = true := by
      simp [told, StageQualityAttemptRole.text, seen, reReviewerRejectionReasons, reasonIf_eq_nil,
        terminalOutcome, closed, rounds] at reasons
      exact reasons.2.2.2
    rw [answers.executionPolicy_eq]
    refine (Decidable.em _).symm.imp ends fun classified => ?_
    have same : classifyStageQualityReReviewBudget closure asked.round
        launched.executionPolicy.maxRepairRounds = .ok .terminalQualityDebt := by
      cases result : classifyStageQualityReReviewBudget closure asked.round
          launched.executionPolicy.maxRepairRounds with
      | ok disposition => rw [result] at classified; rw [Option.some.inj classified]
      | error failure => rw [result] at classified; cases classified
    exact classify_of_terminalQualityDebt (evaluateReReview_triggers evaluated) same

end Answers

end OnePersonLab.Stage

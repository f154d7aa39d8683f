import OnePersonLab.Attempt.Absorption
import OnePersonLab.Lib.FirstOccurrences

/-!
# Sanitizing a route impact twice

The sanitizer writes an accepted selection in its normal form and removes a rejected one, with a
record of the reasons. The normal form is accepted again. An incoming record is never trusted: a
second application finds nothing to reject and drops the record of the first.
-/

namespace OnePersonLab.Attempt

open Contract Stage Lib

/-! ## Edited records -/

section

variable {record : JsonRecord} {key other : String} {value : Option Json}

/-- The record has the value under the key, or no field of that name. -/
def Settled (record : JsonRecord) (key : String) : Option Json → Prop
  | some value => hasOwn record key = true ∧ ∀ field ∈ record, field.1 = key → field = (key, value)
  | none => ∀ field ∈ record, field.1 ≠ key

variable {keys : List String}

theorem hasOwn_iff : hasOwn record key = true ↔ ∃ field ∈ record, field.1 = key := by
  induction record with
  | nil => exact iff_of_false Bool.false_ne_true (by rintro ⟨field, listed, _⟩; cases listed)
  | cons first rest ih =>
    obtain ⟨name, content⟩ := first
    rw [hasOwn, field?_cons]
    by_cases same : key = name
    · rw [if_pos same]
      exact iff_of_true rfl ⟨_, List.mem_cons_self, same.symm⟩
    · rw [if_neg same]
      refine Iff.trans ih ⟨?_, ?_⟩
      · rintro ⟨field, listed, named⟩
        exact ⟨field, List.mem_cons_of_mem _ listed, named⟩
      · rintro ⟨field, listed, named⟩
        obtain rfl | later := List.mem_cons.1 listed
        · exact absurd named.symm same
        · exact ⟨field, later, named⟩

theorem hasOwn_setField (content : Json) : hasOwn (setField record key content) key = true := by
  rw [hasOwn_iff, setField]
  by_cases present : hasOwn record key = true
  · rw [if_pos present]
    obtain ⟨field, listed, named⟩ := hasOwn_iff.1 present
    refine ⟨(key, content), List.mem_map.2 ⟨field, listed, if_pos named⟩, rfl⟩
  · rw [if_neg present]
    exact ⟨(key, content), List.mem_append_right _ List.mem_cons_self, rfl⟩

theorem mem_setField {content : Json} {field : String × Json}
    (listed : field ∈ setField record key content) :
    field = (key, content) ∨ field ∈ record ∧ field.1 ≠ key := by
  rw [setField] at listed
  by_cases present : hasOwn record key = true
  · rw [if_pos present] at listed
    obtain ⟨old, here, rfl⟩ := List.mem_map.1 listed
    by_cases named : old.1 = key
    · exact .inl (if_pos named)
    · rw [if_neg named]
      exact .inr ⟨here, named⟩
  · rw [if_neg present] at listed
    obtain here | added := List.mem_append.1 listed
    · refine .inr ⟨here, ?_⟩
      intro named
      exact present (hasOwn_iff.2 ⟨field, here, named⟩)
    · exact .inl (List.mem_singleton.1 added)

theorem mem_withoutFields {field : String × Json} :
    field ∈ withoutFields record keys ↔ field ∈ record ∧ field.1 ∉ keys := by
  rw [withoutFields, List.mem_filter, decide_eq_true_iff]

theorem settled_putField : Settled (putField record key value) key value := by
  cases value with
  | none =>
    intro field listed
    simpa using (mem_withoutFields.1 listed).2
  | some content =>
    refine ⟨hasOwn_setField content, ?_⟩
    intro field listed named
    obtain rfl | ⟨_, apart⟩ := mem_setField listed
    · rfl
    · exact absurd named apart

theorem Settled.putField (settled : Settled record key value) (apart : key ≠ other)
    (content : Option Json) : Settled (putField record other content) key value := by
  have kept : field? (Attempt.putField record other content) key = field? record key :=
    field?_putField apart content
  have listed : ∀ field ∈ Attempt.putField record other content, field.1 = key → field ∈ record := by
    intro field present named
    cases content with
    | none => exact (mem_withoutFields.1 present).1
    | some content =>
      obtain rfl | ⟨here, _⟩ := mem_setField present
      · exact absurd named apart.symm
      · exact here
  cases value with
  | none => exact fun field present named => settled field (listed field present named) named
  | some value =>
    refine ⟨?_, fun field present named => settled.2 field (listed field present named) named⟩
    rw [hasOwn, kept]
    exact settled.1

theorem Settled.putField_eq (settled : Settled record key value) :
    Attempt.putField record key value = record := by
  cases value with
  | none =>
    refine List.filter_eq_self.2 fun field listed => ?_
    simpa using settled field listed
  | some content =>
    rw [Attempt.putField, setField, if_pos settled.1]
    refine (List.map_congr_left fun field listed => ?_).trans (List.map_id _)
    by_cases named : field.1 = key
    · rw [if_pos named, settled.2 field listed named]
      rfl
    · rw [if_neg named]
      rfl

theorem Settled.field?_eq (settled : Settled record key value) : field? record key = value := by
  cases found : field? record key with
  | none =>
    cases value with
    | none => rfl
    | some content =>
      have present := settled.1
      rw [hasOwn, found] at present
      cases present
  | some content =>
    have listed : (key, content) ∈ record := by
      rw [field?] at found
      obtain ⟨front, back, rfl, _⟩ := List.lookup_eq_some_iff.1 found
      exact List.mem_append_right _ List.mem_cons_self
    cases value with
    | none => exact absurd rfl (settled _ listed)
    | some expected => exact congrArg some (Prod.ext_iff.1 (settled.2 _ listed rfl)).2

theorem withoutFields_eq (absent : ∀ key ∈ keys, Settled record key none) :
    withoutFields record keys = record := by
  refine List.filter_eq_self.2 fun field listed => decide_eq_true ?_
  intro removed
  exact absent field.1 removed field listed rfl

theorem settled_withoutFields (listed : key ∈ keys) :
    Settled (withoutFields record keys) key none := by
  intro field present named
  exact (mem_withoutFields.1 present).2 (named ▸ listed)

theorem Settled.withoutFields (absent : Settled record key none) (keys : List String) :
    Settled (withoutFields record keys) key none :=
  fun field present => absent field (mem_withoutFields.1 present).1

end

/-! ## Selections in normal form -/

/-- A trimmed text that is not blank. -/
def TrimmedText (text : String) : Prop := trim text = text ∧ text ≠ ""

theorem text?_trimmed {value : Option Json} {text : String} (read : text? value = some text) :
    TrimmedText text := by
  rw [text?, Option.filter_eq_some_iff, Option.map_eq_some_iff] at read
  obtain ⟨⟨raw, _, rfl⟩, filled⟩ := read
  exact ⟨trim_trim raw, of_decide_eq_true filled⟩

theorem TrimmedText.text?_eq {text : String} (trimmed : TrimmedText text) :
    text? (some (.string text)) = some text := by
  rw [text?_string (trimmed.1.symm ▸ trimmed.2), trimmed.1]

/-- Distinct trimmed texts read as they are. -/
theorem evidenceRefList_ofStrings {texts : List String} (distinct : texts.Nodup)
    (trimmed : ∀ text ∈ texts, TrimmedText text) :
    evidenceRefList (some (Json.ofStrings texts)) = texts := by
  have texts_eq : evidenceRefList (some (Json.ofStrings texts)) =
      (texts.filterMap fun text => text? (some (.string text))).eraseDups := by
    show ((texts.map Json.string).filterMap _).eraseDups = _
    rw [List.filterMap_map]
    rfl
  have kept : (texts.filterMap fun text => text? (some (.string text))) = texts :=
    (List.filterMap_congr fun text listed => (trimmed text listed).text?_eq).trans
      List.filterMap_some
  rw [texts_eq, kept, eraseDups_of_nodup distinct]

theorem evidenceRefList_clean (value : Option Json) : (evidenceRefList value).Nodup ∧
    ∀ text ∈ evidenceRefList value, TrimmedText text := by
  have empty : ([] : List String).Nodup ∧ ∀ text ∈ ([] : List String), TrimmedText text :=
    ⟨List.nodup_nil, List.forall_mem_nil _⟩
  cases value with
  | none => exact empty
  | some value =>
    cases value with
    | array entries =>
      refine ⟨nodup_eraseDups _, ?_⟩
      intro text listed
      obtain ⟨entry, _, read⟩ := List.mem_filterMap.1 (List.mem_eraseDups.1 listed)
      cases entry with
      | object fields => exact text?_trimmed read
      | _ => exact text?_trimmed read
    | _ => exact empty

theorem ofText?_text (kind : StageRouteDecisionKind) :
    StageRouteDecisionKind.ofText? (StageRouteDecisionKind.text kind) = some kind := by
  cases kind <;> rfl

theorem trimmed_kindText (kind : StageRouteDecisionKind) :
    TrimmedText (StageRouteDecisionKind.text kind) := by
  cases kind <;> exact ⟨by decide +kernel, by decide +kernel⟩

/-- The fields of a selection as the sanitizer writes them. -/
def selectionFields (selection : StageRouteSelection) : JsonRecord :=
  decisionFields selection.decision ++
    (selection.reason.map fun reason => ("reason", Json.string reason)).toList

theorem reasonIf_eq_nil {condition : Prop} [Decidable condition] {reason : String} :
    reasonIf condition reason = [] ↔ ¬condition := by
  by_cases holds : condition
  · rw [reasonIf, if_pos holds]
    exact iff_of_false (List.cons_ne_nil _ _) (not_not.2 holds)
  · rw [reasonIf, if_neg holds]
    exact iff_of_true rfl holds

/-- What is checked of a selection. -/
structure Selects (declaredStageIds : List String) (recommendation : Bool)
    (selection : StageRouteSelection) : Prop where
  target : targetRejectionReasons (some selection.decision.decisionKind)
    selection.decision.targetStageId declaredStageIds = []
  targetText : ∀ target ∈ selection.decision.targetStageId, TrimmedText target
  evidence : selection.decision.evidenceRefs ≠ [] ∧ selection.decision.evidenceRefs.Nodup ∧
    ∀ ref ∈ selection.decision.evidenceRefs, TrimmedText ref
  reason : selection.reason.isSome = recommendation
  reasonText : ∀ reason ∈ selection.reason, TrimmedText reason

section

variable {recommendation : Bool} {selection : StageRouteSelection}

theorem selects_of_normalizeSelection {value : Option Json} {declaredStageIds : List String}
    {reasons : List String}
    (normalized : normalizeSelection value declaredStageIds recommendation =
      (some selection, reasons)) :
    reasons = [] ∧ Selects declaredStageIds recommendation selection := by
  rw [normalizeSelection] at normalized
  split at normalized
  · cases normalized
  · dsimp only at normalized
    split at normalized
    · rename_i kind found
      obtain ⟨clean, normalized⟩ | ⟨_, normalized⟩ := ite_eq_iff.1 normalized
      swap
      · cases normalized
      cases normalized
      simp only [List.append_eq_nil_iff, reasonIf_eq_nil] at clean
      obtain ⟨⟨⟨⟨⟨_, _⟩, _⟩, target⟩, evidence⟩, reason⟩ := clean
      refine ⟨rfl, found ▸ target, fun text found => text?_trimmed found,
        ⟨evidence, evidenceRefList_clean _⟩, ?_, ?_⟩
      · cases recommendation with
        | false => rfl
        | true =>
          rw [if_pos rfl, Option.isSome_iff_ne_none]
          exact fun absent => reason ⟨rfl, absent⟩
      · intro text given
        cases recommendation with
        | false => cases given
        | true => exact text?_trimmed given
    · cases normalized

theorem field?_selectionFields (selection : StageRouteSelection) :
    field? (selectionFields selection) "decision_kind" =
        some (.string (StageRouteDecisionKind.text selection.decision.decisionKind)) ∧
      field? (selectionFields selection) "target_stage_id" =
        selection.decision.targetStageId.map Json.string ∧
      field? (selectionFields selection) "evidence_refs" =
        some (Json.ofStrings selection.decision.evidenceRefs) ∧
      field? (selectionFields selection) "reason" = selection.reason.map Json.string := by
  obtain ⟨⟨kind, target, refs⟩, reason⟩ := selection
  cases target <;> cases reason <;> exact ⟨rfl, rfl, rfl, rfl⟩

theorem selectionFields_supported (reasoned : selection.reason.isSome = recommendation) :
    ∀ field ∈ selectionFields selection, field.1 ∈ ["decision_kind", "target_stage_id"] ++
      (if recommendation = true then ["reason"] else []) ++ ["evidence_refs"] := by
  obtain ⟨⟨kind, target, refs⟩, reason⟩ := selection
  subst reasoned
  intro field listed
  cases target <;> cases reason <;>
    simp only [selectionFields, decisionFields, Option.map_some, Option.map_none,
      Option.toList_some, Option.toList_none, List.append_nil, List.cons_append, List.nil_append,
      List.mem_cons, List.not_mem_nil, or_false] at listed
  all_goals
    rcases listed with rfl | rfl | rfl | rfl <;> simp

theorem textField?_trimmed {record : JsonRecord} {key : String} {text : Option String}
    (read : field? record key = text.map Json.string) (trimmed : ∀ given ∈ text, TrimmedText given) :
    textField? record key = text := by
  rw [textField?, read]
  cases text with
  | none => rfl
  | some given => exact (trimmed given rfl).text?_eq

/-- A selection that passed the checks passes them again in its normal form. -/
theorem normalizeSelection_fields {declaredStageIds : List String}
    (selects : Selects declaredStageIds recommendation selection) :
    normalizeSelection (some (.object (selectionFields selection))) declaredStageIds
      recommendation = (some selection, []) := by
  obtain ⟨kindRead, targetRead, evidenceRead, reasonRead⟩ := field?_selectionFields selection
  have kind : (textField? (selectionFields selection) "decision_kind").bind
      StageRouteDecisionKind.ofText? = some selection.decision.decisionKind := by
    rw [textField?, kindRead, (trimmed_kindText _).text?_eq]
    exact ofText?_text _
  have target : textField? (selectionFields selection) "target_stage_id" =
      selection.decision.targetStageId := textField?_trimmed targetRead selects.targetText
  have evidence : evidenceRefList (field? (selectionFields selection) "evidence_refs") =
      selection.decision.evidenceRefs := by
    rw [evidenceRead]
    exact evidenceRefList_ofStrings selects.evidence.2.1 selects.evidence.2.2
  have reason : textField? (selectionFields selection) "reason" = selection.reason :=
    textField?_trimmed reasonRead selects.reasonText
  have filled : selectionFields selection ≠ [] := by
    intro empty
    rw [empty] at kindRead
    cases kindRead
  have supported : ¬∃ field ∈ selectionFields selection,
      field.1 ∉ ["decision_kind", "target_stage_id"] ++
        (if recommendation = true then ["reason"] else []) ++ ["evidence_refs"] := by
    rintro ⟨field, listed, unsupported⟩
    exact unsupported (selectionFields_supported selects.reason field listed)
  have reasoned : ¬(recommendation = true ∧ selection.reason = none) := by
    rintro ⟨asked, absent⟩
    have given := selects.reason
    rw [absent, asked] at given
    cases given
  have chosen : (if recommendation = true then selection.reason else none) = selection.reason := by
    have given := selects.reason
    cases recommendation with
    | false => exact (Option.isNone_iff_eq_none.1 (Option.isSome_eq_false_iff.1 given)).symm
    | true => rfl
  have present : present? (some (Json.object (selectionFields selection))) =
      some (Json.object (selectionFields selection)) := rfl
  have read : asRecord (some (Json.object (selectionFields selection))) =
      selectionFields selection := rfl
  simp only [normalizeSelection, present, read, kind, target, evidence, reason]
  rw [reasonIf_eq_nil.2 filled, reasonIf_eq_nil.2 supported, reasonIf_eq_nil.2 (Option.some_ne_none _),
    selects.target, reasonIf_eq_nil.2 selects.evidence.1, reasonIf_eq_nil.2 reasoned, chosen]
  rfl

end

/-! ## Accepted outputs -/

def declaredStageIds (attempt : JsonRecord) : List String :=
  stringList (field? (routeContext attempt) "declared_stage_ids")

/-- Why the evaluation of the impact accepts the decision. -/
structure AcceptsDecision (attempt routeImpact : JsonRecord) (decision : StageRouteDecision) :
    Prop where
  selected : normalizeSelection (field? routeImpact "stage_route_decision")
    (declaredStageIds attempt) false = (some { decision, reason := none }, [])
  context : routeContextRejectionReasons attempt (routeContext attempt) = []
  terminal : terminalDecisionRejectionReasons attempt routeImpact decision = []
  alone : hasOwn routeImpact "stage_route_recommendation" = false

/-- Why the evaluation of the impact accepts the recommendation. -/
structure AcceptsRecommendation (attempt routeImpact : JsonRecord)
    (recommendation : StageRouteRecommendation) : Prop where
  selected : normalizeSelection (field? routeImpact "stage_route_recommendation")
    (declaredStageIds attempt) true =
      (some { decision := recommendation.toStageRouteDecision
              reason := some recommendation.reason }, [])
  context : routeContextRejectionReasons attempt (routeContext attempt) = []
  alone : hasOwn routeImpact "stage_route_decision" = false

section

variable {attempt routeImpact : JsonRecord}

theorem present_of_selected {key : String} {recommendation : Bool} {reasons : List String}
    {selection : StageRouteSelection} {declared : List String}
    (selected : normalizeSelection (field? routeImpact key) declared recommendation =
      (some selection, reasons)) : hasOwn routeImpact key = true := by
  rw [hasOwn]
  cases found : field? routeImpact key with
  | some value => rfl
  | none =>
    rw [found] at selected
    cases selected

theorem normalizeSelection_none (declared : List String) (recommendation : Bool) :
    normalizeSelection none declared recommendation = (none, []) := rfl

theorem hasRouteOutput_of_decision (present : hasOwn routeImpact "stage_route_decision" = true) :
    hasRouteOutput routeImpact = true := by
  rw [hasRouteOutput, present]
  rfl

theorem hasRouteOutput_of_recommendation
    (present : hasOwn routeImpact "stage_route_recommendation" = true) :
    hasRouteOutput routeImpact = true := by
  rw [hasRouteOutput, present, Bool.or_true]
  rfl

theorem normalized_of_selected {value : Option Json} {declared : List String}
    {recommendation : Bool} {selection : StageRouteSelection}
    (selected : (normalizeSelection value declared recommendation).1 = some selection) :
    normalizeSelection value declared recommendation = (some selection, []) ∧
      Selects declared recommendation selection := by
  have normalized : normalizeSelection value declared recommendation =
      (some selection, (normalizeSelection value declared recommendation).2) :=
    Prod.ext selected rfl
  obtain ⟨clean, selects⟩ := selects_of_normalizeSelection normalized
  exact ⟨Prod.ext selected clean, selects⟩

theorem acceptsDecision_of_evaluate {decision : StageRouteDecision}
    (accepted : (evaluateStageQualityAttemptRoute attempt routeImpact).decision = some decision) :
    AcceptsDecision attempt routeImpact decision := by
  unfold evaluateStageQualityAttemptRoute at accepted
  by_cases silent : textField? attempt "attempt_role" = none ∧ hasRouteOutput routeImpact = false
  · rw [if_pos silent] at accepted
    cases accepted
  rw [if_neg silent] at accepted
  obtain ⟨clean, chosen⟩ | ⟨_, chosen⟩ := ite_eq_iff.1 accepted
  swap
  · cases chosen
  obtain ⟨selection, selected, rfl⟩ := Option.map_eq_some_iff.1 chosen
  obtain ⟨normalized, selects⟩ := normalized_of_selected selected
  have present := present_of_selected normalized
  rw [selected, present, hasRouteOutput_of_decision present] at clean
  simp only [List.append_eq_nil_iff, reasonIf_eq_nil, if_true, Option.map_some, Option.getD_some,
    true_and, Bool.not_eq_true] at clean
  obtain ⟨⟨⟨_, context⟩, terminal⟩, _, alone⟩ := clean
  have unreasoned : selection.reason = none :=
    Option.isNone_iff_eq_none.1 (Option.isSome_eq_false_iff.1 selects.reason)
  obtain ⟨decision, reason⟩ := selection
  subst unreasoned
  exact ⟨normalized, context, terminal, alone⟩

theorem acceptsRecommendation_of_evaluate {recommendation : StageRouteRecommendation}
    (accepted : (evaluateStageQualityAttemptRoute attempt routeImpact).recommendation =
      some recommendation) :
    AcceptsRecommendation attempt routeImpact recommendation := by
  unfold evaluateStageQualityAttemptRoute at accepted
  by_cases silent : textField? attempt "attempt_role" = none ∧ hasRouteOutput routeImpact = false
  · rw [if_pos silent] at accepted
    cases accepted
  rw [if_neg silent] at accepted
  obtain ⟨clean, chosen⟩ | ⟨_, chosen⟩ := ite_eq_iff.1 accepted
  swap
  · cases chosen
  obtain ⟨selection, selected, chosen⟩ := Option.bind_eq_some_iff.1 chosen
  obtain ⟨reason, reasoned, rfl⟩ := Option.map_eq_some_iff.1 chosen
  obtain ⟨normalized, _⟩ := normalized_of_selected selected
  have present := present_of_selected normalized
  rw [present, hasRouteOutput_of_recommendation present] at clean
  simp only [List.append_eq_nil_iff, reasonIf_eq_nil, if_true, and_true,
    Bool.not_eq_true] at clean
  obtain ⟨⟨_, context⟩, _, alone⟩ := clean
  obtain ⟨decision, given⟩ := selection
  subst reasoned
  exact ⟨normalized, context, alone⟩

end

/-! ## Sanitized impacts -/

def decisionJson (decision : StageRouteDecision) : Json := .object (decisionFields decision)

def recommendationJson (recommendation : StageRouteRecommendation) : Json :=
  .object (decisionFields recommendation.toStageRouteDecision ++
    [("reason", .string recommendation.reason)])

/-- The route outputs of the impact are exactly the accepted ones. -/
structure Carries (routeImpact : JsonRecord) (evaluation : StageRouteEvaluation) : Prop where
  decision : Settled routeImpact "stage_route_decision" (evaluation.decision.map decisionJson)
  recommendation : Settled routeImpact "stage_route_recommendation"
    (evaluation.recommendation.map recommendationJson)
  legacy : ∀ field ∈ legacyTerminalRouteFields, Settled routeImpact field none

section

variable {attempt routeImpact other : JsonRecord} {evaluation : StageRouteEvaluation}

variable {key : String}

theorem settled_none_of_hasOwn (absent : hasOwn routeImpact key = false) :
    Settled routeImpact key none := by
  intro field listed named
  rw [hasOwn_iff.2 ⟨field, listed, named⟩] at absent
  cases absent

theorem hasRouteOutput_eq_false (silent : hasRouteOutput routeImpact = false) :
    hasOwn routeImpact "stage_route_decision" = false ∧
      hasOwn routeImpact "stage_route_recommendation" = false ∧
      ∀ field ∈ legacyTerminalRouteFields, hasOwn routeImpact field = false := by
  rw [hasRouteOutput, Bool.or_eq_false_iff, Bool.or_eq_false_iff] at silent
  obtain ⟨⟨undecided, unrecommended⟩, unselected⟩ := silent
  refine ⟨undecided, unrecommended, ?_⟩
  intro field listed
  have empty : selectedLegacyFields routeImpact = [] := not_not.1 (of_decide_eq_false unselected)
  exact Bool.eq_false_iff.2 (List.filter_eq_nil_iff.1 empty field listed)

theorem evaluate_silent (silent : textField? attempt "attempt_role" = none ∧
    hasRouteOutput routeImpact = false) :
    evaluateStageQualityAttemptRoute attempt routeImpact =
      { decision := none, recommendation := none
        decisionRejectionReasons := [], recommendationRejectionReasons := [] } := by
  unfold evaluateStageQualityAttemptRoute
  exact if_pos silent

theorem settled_decided (decision recommendation : Option Json) :
    Settled (putField (putField routeImpact "stage_route_decision" decision)
      "stage_route_recommendation" recommendation) "stage_route_decision" decision :=
  settled_putField.putField (by decide) recommendation

/-- A field that is apart from the two outputs stays deleted when they are written. -/
theorem settled_apart (absent : Settled routeImpact key none)
    (undecided : key ≠ "stage_route_decision") (unrecommended : key ≠ "stage_route_recommendation")
    (decision recommendation : Option Json) :
    Settled (putField (putField routeImpact "stage_route_decision" decision)
      "stage_route_recommendation" recommendation) key none :=
  (absent.putField undecided decision).putField unrecommended recommendation

theorem Carries.setField (carries : Carries routeImpact evaluation) (contract : Json) :
    Carries (setField routeImpact "stage_route_contract" contract) evaluation where
  decision := carries.decision.putField (by decide) (some contract)
  recommendation := carries.recommendation.putField (by decide) (some contract)
  legacy := by
    intro field listed
    have apart : field ≠ "stage_route_contract" := by
      rintro rfl
      revert listed
      decide
    exact (carries.legacy field listed).putField apart (some contract)

/-- The sanitizer leaves the accepted outputs and no others. -/
theorem carries_sanitized (attempt routeImpact : JsonRecord) :
    Carries (sanitizeStageQualityAttemptRouteImpact attempt routeImpact)
      (evaluateStageQualityAttemptRoute attempt routeImpact) := by
  unfold sanitizeStageQualityAttemptRouteImpact
  by_cases silent : textField? attempt "attempt_role" = none ∧ hasRouteOutput routeImpact = false
  · rw [if_pos silent, evaluate_silent silent]
    obtain ⟨undecided, unrecommended, unselected⟩ := hasRouteOutput_eq_false silent.2
    exact {
      decision := (settled_none_of_hasOwn undecided).withoutFields _
      recommendation := (settled_none_of_hasOwn unrecommended).withoutFields _
      legacy := fun field listed =>
        (settled_none_of_hasOwn (unselected field listed)).withoutFields _ }
  · rw [if_neg silent]
    dsimp only
    generalize evaluateStageQualityAttemptRoute attempt routeImpact = evaluation
    have written : Carries (putField (putField (withoutFields (withoutFields routeImpact
        ["stage_route_contract"]) legacyTerminalRouteFields) "stage_route_decision"
        (evaluation.decision.map decisionJson)) "stage_route_recommendation"
        (evaluation.recommendation.map recommendationJson)) evaluation := {
      decision := settled_decided _ _
      recommendation := settled_putField
      legacy := by
        intro field listed
        refine settled_apart (settled_withoutFields listed) ?_ ?_ _ _
        · rintro rfl
          revert listed
          decide
        · rintro rfl
          revert listed
          decide }
    by_cases accepted : evaluation.decisionRejectionReasons ++
        evaluation.recommendationRejectionReasons = []
    · rw [if_pos accepted]
      exact written
    · rw [if_neg accepted]
      exact written.setField _

theorem Settled.hasOwn_eq {value : Option Json} (settled : Settled routeImpact key value) :
    hasOwn routeImpact key = value.isSome := by
  rw [hasOwn, settled.field?_eq]

theorem Carries.selectedLegacyFields_eq (carries : Carries routeImpact evaluation) :
    selectedLegacyFields routeImpact = [] := by
  refine List.filter_eq_nil_iff.2 fun field listed => ?_
  rw [(carries.legacy field listed).hasOwn_eq]
  exact Bool.false_ne_true

theorem terminalDecisionRejectionReasons_congr
    (envelope : field? other "stage_quality_cycle" = field? routeImpact "stage_quality_cycle")
    (decision : StageRouteDecision) :
    terminalDecisionRejectionReasons attempt other decision =
      terminalDecisionRejectionReasons attempt routeImpact decision := by
  unfold terminalDecisionRejectionReasons reReviewerRejectionReasons reReviewClosureState
  rw [envelope]

theorem AcceptsDecision.normalized_again {decision : StageRouteDecision}
    (accepts : AcceptsDecision attempt routeImpact decision) :
    normalizeSelection (some (decisionJson decision)) (declaredStageIds attempt) false =
      (some { decision, reason := none }, []) := by
  have selects := (normalized_of_selected (congrArg Prod.fst accepts.selected)).2
  have fields : selectionFields { decision, reason := none } = decisionFields decision :=
    List.append_nil _
  rw [decisionJson, ← fields]
  exact normalizeSelection_fields selects

theorem AcceptsRecommendation.normalized_again {recommendation : StageRouteRecommendation}
    (accepts : AcceptsRecommendation attempt routeImpact recommendation) :
    normalizeSelection (some (recommendationJson recommendation)) (declaredStageIds attempt) true =
      (some { decision := recommendation.toStageRouteDecision
              reason := some recommendation.reason }, []) := by
  have selects := (normalized_of_selected (congrArg Prod.fst accepts.selected)).2
  have fields : selectionFields { decision := recommendation.toStageRouteDecision
                                  reason := some recommendation.reason } =
      decisionFields recommendation.toStageRouteDecision ++
        [("reason", .string recommendation.reason)] := rfl
  rw [recommendationJson, ← fields]
  exact normalizeSelection_fields selects

/-- An impact that carries the accepted outputs is accepted, with the same outputs. -/
theorem evaluate_of_carries
    (carries : Carries other (evaluateStageQualityAttemptRoute attempt routeImpact))
    (envelope : field? other "stage_quality_cycle" = field? routeImpact "stage_quality_cycle") :
    evaluateStageQualityAttemptRoute attempt other =
      { decision := (evaluateStageQualityAttemptRoute attempt routeImpact).decision
        recommendation := (evaluateStageQualityAttemptRoute attempt routeImpact).recommendation
        decisionRejectionReasons := []
        recommendationRejectionReasons := [] } := by
  have decisionRead := carries.decision.field?_eq
  have decisionPresent := carries.decision.hasOwn_eq
  have recommendationRead := carries.recommendation.field?_eq
  have recommendationPresent := carries.recommendation.hasOwn_eq
  have unselected := carries.selectedLegacyFields_eq
  cases decided : (evaluateStageQualityAttemptRoute attempt routeImpact).decision with
  | some decision =>
    have accepts := acceptsDecision_of_evaluate decided
    have unrecommended :
        (evaluateStageQualityAttemptRoute attempt routeImpact).recommendation = none := by
      refine Option.eq_none_iff_forall_ne_some.2 ?_
      intro recommendation recommended
      have alone := (acceptsRecommendation_of_evaluate recommended).alone
      rw [present_of_selected accepts.selected] at alone
      cases alone
    rw [unrecommended] at recommendationRead recommendationPresent ⊢
    rw [decided] at decisionRead decisionPresent
    have output := hasRouteOutput_of_decision decisionPresent
    have again := accepts.normalized_again
    have terminal := (terminalDecisionRejectionReasons_congr envelope decision).trans accepts.terminal
    rw [declaredStageIds] at again
    simp only [evaluateStageQualityAttemptRoute, output, decisionRead, recommendationRead,
      decisionPresent, recommendationPresent, unselected, Option.map_some, Option.map_none, again,
      normalizeSelection_none, Option.isSome_some, Option.isSome_none, terminal, accepts.context]
    simp [reasonIf]
  | none =>
    rw [decided] at decisionRead decisionPresent
    cases recommended : (evaluateStageQualityAttemptRoute attempt routeImpact).recommendation with
    | some recommendation =>
      have accepts := acceptsRecommendation_of_evaluate recommended
      rw [recommended] at recommendationRead recommendationPresent
      have output := hasRouteOutput_of_recommendation recommendationPresent
      have again := accepts.normalized_again
      rw [declaredStageIds] at again
      simp only [evaluateStageQualityAttemptRoute, output, decisionRead, recommendationRead,
        decisionPresent, recommendationPresent, unselected, Option.map_some, Option.map_none, again,
        normalizeSelection_none, Option.isSome_some, Option.isSome_none, accepts.context]
      simp [reasonIf]
    | none =>
      rw [recommended] at recommendationRead recommendationPresent
      simp only [evaluateStageQualityAttemptRoute, decisionRead, recommendationRead,
        decisionPresent, recommendationPresent, unselected, Option.map_none,
        normalizeSelection_none, Option.isSome_none]
      simp [reasonIf]

/-- Sanitizing an impact that carries what its evaluation accepts only drops the record. -/
theorem sanitize_of_carries
    (carries : Carries other (evaluateStageQualityAttemptRoute attempt other))
    (accepted : (evaluateStageQualityAttemptRoute attempt other).decisionRejectionReasons = [] ∧
      (evaluateStageQualityAttemptRoute attempt other).recommendationRejectionReasons = []) :
    sanitizeStageQualityAttemptRouteImpact attempt other =
      withoutFields other ["stage_route_contract"] := by
  unfold sanitizeStageQualityAttemptRouteImpact
  by_cases silent : textField? attempt "attempt_role" = none ∧ hasRouteOutput other = false
  · rw [if_pos silent]
  rw [if_neg silent]
  dsimp only
  rw [accepted.1, accepted.2, if_pos (List.append_nil [])]
  have unselected : withoutFields (withoutFields other ["stage_route_contract"])
      legacyTerminalRouteFields = withoutFields other ["stage_route_contract"] :=
    withoutFields_eq fun field listed => (carries.legacy field listed).withoutFields _
  have decided : Settled (withoutFields other ["stage_route_contract"]) "stage_route_decision"
      ((evaluateStageQualityAttemptRoute attempt other).decision.map decisionJson) :=
    carries.decision.putField (by decide) none
  have recommended : Settled (withoutFields other ["stage_route_contract"])
      "stage_route_recommendation"
      ((evaluateStageQualityAttemptRoute attempt other).recommendation.map recommendationJson) :=
    carries.recommendation.putField (by decide) none
  rw [unselected]
  exact (congrArg (Attempt.putField · _ _) decided.putField_eq).trans recommended.putField_eq

/-- A second application keeps the accepted outputs and drops the record of the first. -/
theorem sanitized_again (attempt routeImpact : JsonRecord) :
    sanitizeStageQualityAttemptRouteImpact attempt
        (sanitizeStageQualityAttemptRouteImpact attempt routeImpact) =
      withoutFields (sanitizeStageQualityAttemptRouteImpact attempt routeImpact)
        ["stage_route_contract"] ∧
    (sanitizeStageQualityAttemptRouteImpact attempt
        (sanitizeStageQualityAttemptRouteImpact attempt routeImpact) =
        sanitizeStageQualityAttemptRouteImpact attempt routeImpact ↔
      hasOwn (sanitizeStageQualityAttemptRouteImpact attempt routeImpact)
        "stage_route_contract" = false) ∧
    (evaluateStageQualityAttemptRoute attempt
        (sanitizeStageQualityAttemptRouteImpact attempt routeImpact)).decision =
      (evaluateStageQualityAttemptRoute attempt routeImpact).decision ∧
    (evaluateStageQualityAttemptRoute attempt
        (sanitizeStageQualityAttemptRouteImpact attempt routeImpact)).recommendation =
      (evaluateStageQualityAttemptRoute attempt routeImpact).recommendation := by
  have carries := carries_sanitized attempt routeImpact
  have same := evaluate_of_carries carries (field?_sanitized attempt routeImpact)
  generalize sanitizeStageQualityAttemptRouteImpact attempt routeImpact = sanitized
    at carries same ⊢
  have again : sanitizeStageQualityAttemptRouteImpact attempt sanitized =
      withoutFields sanitized ["stage_route_contract"] := by
    apply sanitize_of_carries
    · rw [same]
      exact ⟨carries.decision, carries.recommendation, carries.legacy⟩
    · rw [same]
      exact ⟨rfl, rfl⟩
  refine ⟨again, ?_, by rw [same], by rw [same]⟩
  · rw [again]
    constructor
    · intro unchanged
      rw [← unchanged]
      exact (settled_withoutFields List.mem_cons_self).hasOwn_eq
    · intro unrecorded
      refine withoutFields_eq fun field listed => ?_
      obtain rfl := List.mem_singleton.1 listed
      exact settled_none_of_hasOwn unrecorded

end

/-- An output that is rejected: the legacy field names no authority. -/
def legacyImpact : JsonRecord := [("next_stage_ref", .string "deliver")]

/-- The second application forgets why the output was rejected. -/
theorem rejection_forgotten :
    ¬∀ attempt routeImpact : JsonRecord,
      sanitizeStageQualityAttemptRouteImpact attempt
          (sanitizeStageQualityAttemptRouteImpact attempt routeImpact) =
        sanitizeStageQualityAttemptRouteImpact attempt routeImpact := by
  intro idempotent
  have recorded : hasOwn (sanitizeStageQualityAttemptRouteImpact
      [("attempt_role", .string "producer")] (sanitizeStageQualityAttemptRouteImpact
        [("attempt_role", .string "producer")] legacyImpact)) "stage_route_contract" =
      hasOwn (sanitizeStageQualityAttemptRouteImpact [("attempt_role", .string "producer")]
        legacyImpact) "stage_route_contract" := by
    rw [idempotent]
  revert recorded
  decide +kernel

end OnePersonLab.Attempt

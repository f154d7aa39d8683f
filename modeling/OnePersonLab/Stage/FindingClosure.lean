import OnePersonLab.Stage.QualityCycle

/-!
# Findings across repair rounds

A review raises findings, a repair answers each required one with an entry of
its repair map, and a re-review closes findings or keeps them open and may raise
new ones. The outputs of the attempts are untrusted records; the checks read
them field by field.
-/

namespace OnePersonLab.Stage

open Contract Lib

/-! ## Records of the attempts -/

def evidenceRef (entry : Json) (field : String) : Checked String :=
  let text := match entry with
    | .string text => text
    | .object fields => ((field? fields "ref").bind Json.asString?).getD ""
    | _ => ""
  if trim text = "" then fail s!"{field} must contain non-empty string refs." else .ok text

/-- `evidenceRefStrings`: locator texts, or exact refs by their locator. -/
def evidenceRefStrings (value : Option Json) (field : String) (allowEmpty : Bool) :
    Checked (List String) :=
  match value with
  | some (.array entries) => do
    ensure (allowEmpty = true ∨ entries ≠ []) s!"{field} must contain non-empty string refs."
    let refs ← mapEach (evidenceRef · field) entries
    return (refs.map trim).eraseDups
  | _ => fail s!"{field} must contain non-empty string refs."

def asRecord? : Json → Option JsonRecord
  | .object fields => some fields
  | _ => none

/-- `asRecordList`: the records among the entries of an array. -/
def asRecordList : Option Json → List JsonRecord
  | some (.array entries) => entries.filterMap asRecord?
  | _ => []

def requiredRecordList (value : Option Json) (field : String) : Checked (List JsonRecord) :=
  match value with
  | some (.array entries) => .ok (entries.filterMap asRecord?)
  | _ => fail s!"{field} must be an array."

def uniqueIds (values : List String) (field : String) : Checked Unit :=
  ensure values.Nodup s!"{field} contains a duplicate id."

/-! ## Findings -/

inductive FindingSeverity where
  | critical
  | major
  | minor
  deriving DecidableEq, Repr

def FindingSeverity.text : FindingSeverity → String
  | .critical => "critical"
  | .major => "major"
  | .minor => "minor"

def FindingSeverity.ofText? : String → Option FindingSeverity
  | "critical" => some .critical
  | "major" => some .major
  | "minor" => some .minor
  | _ => none

structure StageQualityFinding where
  findingId : String
  severity : FindingSeverity
  required : Bool
  evidenceRefs : List String
  repairExpectation : String
  deriving DecidableEq

/-- The record of a finding that passed its validation. -/
def StageQualityFinding.toRecord (finding : StageQualityFinding) : JsonRecord := [
  ("finding_id", .string finding.findingId),
  ("severity", .string finding.severity.text),
  ("required", .bool finding.required),
  ("evidence_refs", .ofStrings finding.evidenceRefs),
  ("repair_expectation", .string finding.repairExpectation)]

def validateStageQualityFinding (finding : JsonRecord) : Checked StageQualityFinding := do
  let findingId ← requiredText (field? finding "finding_id") "finding_id"
  match ((field? finding "severity").bind Json.asString?).bind FindingSeverity.ofText? with
  | none => fail "Stage Review finding severity is invalid."
  | some severity =>
    match field? finding "required" with
    | some (.bool required) => do
      let evidenceRefs ← evidenceRefStrings (field? finding "evidence_refs")
        s!"findings.{findingId}.evidence_refs" false
      let repairExpectation ← requiredText (field? finding "repair_expectation")
        s!"findings.{findingId}.repair_expectation"
      return { findingId, severity, required, evidenceRefs, repairExpectation }
    | _ => fail "Stage Review finding required must be boolean."

def validateStageQualityFindings (findings : List JsonRecord) :
    Checked (List StageQualityFinding) := do
  let normalized ← mapEach validateStageQualityFinding findings
  uniqueIds (normalized.map StageQualityFinding.findingId) "findings"
  return normalized

def findingList (value : Option Json) (field : String) : Checked (List StageQualityFinding) := do
  let records ← requiredRecordList value field
  validateStageQualityFindings records

/-- The ids of the required findings. -/
def requiredIds (findings : List StageQualityFinding) : List String :=
  (findings.filter fun finding => finding.required).map StageQualityFinding.findingId

inductive StageQualityOutcome where
  | pass
  | repairRequired
  | qualityDebt
  | blocked
  | humanGate
  deriving DecidableEq, Repr

def StageQualityOutcome.text : StageQualityOutcome → String
  | .pass => "pass"
  | .repairRequired => "repair_required"
  | .qualityDebt => "quality_debt"
  | .blocked => "blocked"
  | .humanGate => "human_gate"

/-- The outcomes that stop the stage before any finding is read. -/
def StageQualityOutcome.hardStops : StageQualityOutcome → Bool
  | .blocked | .humanGate => true
  | _ => false

def validateInitialStageQualityReviewOutcome (outcome : StageQualityOutcome)
    (values : List JsonRecord) : Checked (List StageQualityFinding) := do
  let findings ← validateStageQualityFindings values
  ensure (outcome = .repairRequired → requiredIds findings ≠ [])
    "Initial Review outcome repair_required requires at least one required finding."
  ensure (outcome = .pass ∨ outcome = .qualityDebt → requiredIds findings = [])
    s!"Initial Review outcome {outcome.text} cannot carry an open required finding."
  return findings

/-! ## Repair maps -/

structure StageQualityRepairMapEntry where
  findingId : String
  repairStatus : String
  changedArtifactRefs : List String
  repairEvidenceRefs : List String
  deriving DecidableEq

def validateStageQualityRepairMapEntry (required : List String) (entry : JsonRecord) :
    Checked StageQualityRepairMapEntry := do
  let findingId ← requiredText (field? entry "finding_id") "repair_map.finding_id"
  ensure (findingId ∈ required) "repair_map references a non-required finding."
  let repairStatus := ((field? entry "repair_status").bind Json.asString?).getD ""
  ensure (repairStatus ∈ ["repaired", "not_repaired", "blocked"])
    "repair_map repair_status is invalid."
  let changedArtifactRefs ← evidenceRefStrings (field? entry "changed_artifact_refs")
    s!"repair_map.{findingId}.changed_artifact_refs" true
  let repairEvidenceRefs ← evidenceRefStrings (field? entry "repair_evidence_refs")
    s!"repair_map.{findingId}.repair_evidence_refs" false
  return { findingId, repairStatus, changedArtifactRefs, repairEvidenceRefs }

def StageQualityRepairMapEntry.toRecord (entry : StageQualityRepairMapEntry) : JsonRecord := [
  ("finding_id", .string entry.findingId),
  ("repair_status", .string entry.repairStatus),
  ("changed_artifact_refs", .ofStrings entry.changedArtifactRefs),
  ("repair_evidence_refs", .ofStrings entry.repairEvidenceRefs)]

def validateStageQualityRepairMap (findingValues repairMap : List JsonRecord) :
    Checked (List StageQualityRepairMapEntry) := do
  let findings ← validateStageQualityFindings findingValues
  let normalized ← mapEach (validateStageQualityRepairMapEntry (requiredIds findings)) repairMap
  uniqueIds (normalized.map StageQualityRepairMapEntry.findingId) "repair_map"
  ensure (∀ findingId ∈ requiredIds findings,
      findingId ∈ normalized.map StageQualityRepairMapEntry.findingId)
    "repair_map must cover every required finding."
  return normalized

/-! ## Closures -/

structure StageQualityFindingClosure where
  findingId : String
  status : String
  evidenceRefs : List String
  deriving DecidableEq

def validateStageQualityFindingClosure (required : List String) (closure : JsonRecord) :
    Checked StageQualityFindingClosure := do
  let findingId ← requiredText (field? closure "finding_id") "finding_closures.finding_id"
  ensure (findingId ∈ required) "Re-review closure references an unknown required finding."
  let status := ((field? closure "status").bind Json.asString?).getD ""
  ensure (status ∈ ["closed", "partially_closed", "still_open"])
    "Re-review closure status is invalid."
  let evidenceRefs ← evidenceRefStrings (field? closure "evidence_refs")
    s!"finding_closures.{findingId}.evidence_refs" false
  return { findingId, status, evidenceRefs }

/-- What a re-review returns. -/
structure StageQualityReReviewResult where
  findingClosures : List JsonRecord
  repairRegressions : List JsonRecord
  criticalNewFindings : List JsonRecord
  optionalObservations : List JsonRecord

def validateOptionalObservation (observation : JsonRecord) : Checked String := do
  let observationId ← requiredText (field? observation "observation_id")
    "optional_observations.observation_id"
  let label := ((field? observation "observation_id").bind Json.asString?).getD ""
  let _ ← evidenceRefStrings (field? observation "evidence_refs")
    s!"optional_observations.{label}.evidence_refs" false
  let _ ← requiredText (field? observation "summary") s!"optional_observations.{label}.summary"
  return observationId

structure FindingClosureEvaluation where
  triggerRepair : Bool
  openRequiredFindingIds : List String
  repairRegressionIds : List String
  criticalNewFindingIds : List String
  optionalObservationIds : List String
  deriving DecidableEq

/-- The findings that a re-review may add. -/
def assertNewFindings (findings regressions criticalNewFindings : List StageQualityFinding) :
    Checked Unit := do
  ensure (∀ finding ∈ regressions, finding.required = true)
    "repair_regressions that trigger another repair round must declare required=true."
  ensure (∀ finding ∈ criticalNewFindings, finding.severity = .critical)
    "critical_new_findings may contain only critical findings."
  ensure (∀ finding ∈ criticalNewFindings, finding.required = true)
    "critical_new_findings that trigger another repair round must declare required=true."
  uniqueIds ((findings ++ regressions ++ criticalNewFindings).map StageQualityFinding.findingId)
    "finding_ids_across_prior_regression_and_critical_new_collections"

def evaluateStageQualityFindingClosure (findingValues repairMap : List JsonRecord)
    (reReview : StageQualityReReviewResult) : Checked FindingClosureEvaluation := do
  let findings ← validateStageQualityFindings findingValues
  let _ ← validateStageQualityRepairMap (findings.map StageQualityFinding.toRecord) repairMap
  let closures ← mapEach (validateStageQualityFindingClosure (requiredIds findings))
    reReview.findingClosures
  uniqueIds (closures.map StageQualityFindingClosure.findingId) "finding_closures"
  ensure (∀ findingId ∈ requiredIds findings,
      findingId ∈ closures.map StageQualityFindingClosure.findingId)
    "Re-review must close or retain every required finding."
  let regressions ← validateStageQualityFindings reReview.repairRegressions
  let criticalNewFindings ← validateStageQualityFindings reReview.criticalNewFindings
  assertNewFindings findings regressions criticalNewFindings
  let optionalObservationIds ← mapEach validateOptionalObservation reReview.optionalObservations
  uniqueIds optionalObservationIds "optional_observations"
  let openIds := (closures.filter fun closure => closure.status ≠ "closed").map
    StageQualityFindingClosure.findingId
  return {
    triggerRepair := openIds ≠ [] || regressions ≠ [] || criticalNewFindings ≠ []
    openRequiredFindingIds := openIds
    repairRegressionIds := regressions.map StageQualityFinding.findingId
    criticalNewFindingIds := criticalNewFindings.map StageQualityFinding.findingId
    optionalObservationIds }

def validateStageQualityReReviewOutcome (outcome : StageQualityOutcome)
    (closure : FindingClosureEvaluation) : Checked Unit :=
  if outcome.hardStops then .ok () else do
    ensure (closure.triggerRepair = true → outcome = .repairRequired)
      "Re-review with open required findings or repair regressions must return outcome repair_required."
    ensure (outcome = .repairRequired → closure.triggerRepair = true)
      "Re-review outcome repair_required requires an open required finding, repair regression, or critical new finding."

inductive ReReviewBudget where
  | terminalNormal
  | continueRepair
  | terminalQualityDebt
  deriving DecidableEq, Repr

def classifyStageQualityReReviewBudget (closure : FindingClosureEvaluation)
    (qualityRoundIndex maxRepairRounds : Nat) : Checked ReReviewBudget := do
  ensure (1 ≤ qualityRoundIndex ∧ 1 ≤ maxRepairRounds ∧ qualityRoundIndex ≤ maxRepairRounds)
    "Re-review repair-budget identity requires 1 <= quality_round_index <= max_repair_rounds."
  if closure.triggerRepair = false then return .terminalNormal
  if qualityRoundIndex < maxRepairRounds then return .continueRepair
  return .terminalQualityDebt

/-! ## What the checks establish -/

theorem requiredText_eq_ok {value : Option Json} {field text : String}
    (checked : requiredText value field = .ok text) :
    text = trim ((value.bind Json.asString?).getD "") := by
  simp only [requiredText, bind_eq_ok, ensure_eq_ok, pure_eq_ok] at checked
  obtain ⟨_, -, rfl⟩ := checked
  rfl

theorem validateStageQualityFinding_eq_ok {record : JsonRecord} {finding : StageQualityFinding}
    (checked : validateStageQualityFinding record = .ok finding) :
    finding.findingId = trim (((field? record "finding_id").bind Json.asString?).getD "") ∧
      field? record "required" = some (.bool finding.required) := by
  simp only [validateStageQualityFinding, bind_eq_ok] at checked
  obtain ⟨findingId, named, checked⟩ := checked
  split at checked
  · cases checked
  · split at checked
    · rename_i required given
      simp only [bind_eq_ok, pure_eq_ok] at checked
      obtain ⟨_, -, _, -, rfl⟩ := checked
      exact ⟨requiredText_eq_ok named, given⟩
    · cases checked

/-- A finding that passed its validation: its id is trimmed. -/
def Normalized (finding : StageQualityFinding) : Prop := trim finding.findingId = finding.findingId

theorem validateStageQualityFindings_eq_ok {records : List JsonRecord}
    {findings : List StageQualityFinding}
    (checked : validateStageQualityFindings records = .ok findings) :
    (findings.map StageQualityFinding.findingId).Nodup ∧ ∀ finding ∈ findings, Normalized finding := by
  simp only [validateStageQualityFindings, bind_eq_ok, pure_eq_ok, uniqueIds, ensure_eq_ok]
    at checked
  obtain ⟨normalized, each, _, distinct, rfl⟩ := checked
  refine ⟨distinct, fun finding listed => ?_⟩
  obtain ⟨record, -, validated⟩ := exists_of_mem_mapEach each listed
  rw [Normalized, (validateStageQualityFinding_eq_ok validated).1, trim_trim]

/-- What the rounds go by: the id of a finding and whether it is required. -/
def StageQualityFinding.identity (finding : StageQualityFinding) : String × Bool :=
  (finding.findingId, finding.required)

/-- Validating normalized findings again changes no identity. -/
theorem identities_of_validated_again {findings again : List StageQualityFinding}
    (normalized : ∀ finding ∈ findings, Normalized finding)
    (checked : validateStageQualityFindings (findings.map StageQualityFinding.toRecord) =
      .ok again) :
    again.map StageQualityFinding.identity = findings.map StageQualityFinding.identity := by
  simp only [validateStageQualityFindings, bind_eq_ok, pure_eq_ok] at checked
  obtain ⟨values, each, _, -, rfl⟩ := checked
  rw [mapEach_eq_ok, List.forall₂_map_left_iff] at each
  induction each with
  | nil => rfl
  | @cons finding value rest values checked _ ih =>
    obtain ⟨named, given⟩ := validateStageQualityFinding_eq_ok checked
    simp only [List.forall_mem_cons] at normalized
    have sameId : value.findingId = finding.findingId := by
      rw [named]
      exact normalized.1
    have sameRequired : value.required = finding.required := by
      simpa [StageQualityFinding.toRecord, field?_cons] using given.symm
    simp [StageQualityFinding.identity, sameId, sameRequired, ih normalized.2]

section Identities

variable {findings again : List StageQualityFinding}

theorem findingIds_of_identities
    (same : again.map StageQualityFinding.identity = findings.map StageQualityFinding.identity) :
    again.map StageQualityFinding.findingId = findings.map StageQualityFinding.findingId := by
  simpa [StageQualityFinding.identity, Function.comp_def] using congrArg (List.map Prod.fst) same

theorem requiredIds_of_identities
    (same : again.map StageQualityFinding.identity = findings.map StageQualityFinding.identity) :
    requiredIds again = requiredIds findings := by
  have kept := congrArg (fun pairs : List (String × Bool) =>
    (pairs.filter Prod.snd).map Prod.fst) same
  simpa [requiredIds, StageQualityFinding.identity, List.filter_map, Function.comp_def] using kept

theorem required_of_identities
    (same : again.map StageQualityFinding.identity = findings.map StageQualityFinding.identity)
    (required : ∀ finding ∈ again, finding.required = true) :
    ∀ finding ∈ findings, finding.required = true := by
  intro finding listed
  have named : finding.identity ∈ again.map StageQualityFinding.identity :=
    same ▸ List.mem_map_of_mem listed
  obtain ⟨other, listed', sameIdentity⟩ := List.mem_map.1 named
  have sameRequired : other.required = finding.required := congrArg Prod.snd sameIdentity
  rw [← sameRequired]
  exact required other listed'

end Identities

def closureStatus (closure : JsonRecord) : String :=
  ((field? closure "status").bind Json.asString?).getD ""

/-- The ids that the closures of a re-review close. -/
def closedFindingIds (closures : List JsonRecord) : List String :=
  (closures.filter fun closure => closureStatus closure = "closed").map fun closure =>
    trim (((field? closure "finding_id").bind Json.asString?).getD "")

theorem validateStageQualityFindingClosure_eq_ok {required : List String} {record : JsonRecord}
    {closure : StageQualityFindingClosure}
    (checked : validateStageQualityFindingClosure required record = .ok closure) :
    closure.findingId = trim (((field? record "finding_id").bind Json.asString?).getD "") ∧
      closure.status = closureStatus record := by
  simp only [validateStageQualityFindingClosure, bind_eq_ok, pure_eq_ok] at checked
  obtain ⟨findingId, named, _, -, _, -, _, -, rfl⟩ := checked
  exact ⟨requiredText_eq_ok named, rfl⟩

/-- What an accepted evaluation says of the findings and of the new ones. -/
structure ClosureAccounts (findings regressions criticalNewFindings : List StageQualityFinding)
    (closures : List JsonRecord) (closure : FindingClosureEvaluation) : Prop where
  settled : ∀ findingId ∈ requiredIds findings,
    findingId ∈ closure.openRequiredFindingIds ∨ findingId ∈ closedFindingIds closures
  required : ∀ finding ∈ regressions ++ criticalNewFindings, finding.required = true
  distinct : ((findings ++ regressions ++ criticalNewFindings).map
    StageQualityFinding.findingId).Nodup
  quiet : closure.triggerRepair = false → closure.openRequiredFindingIds = [] ∧
    regressions = [] ∧ criticalNewFindings = []

theorem evaluateStageQualityFindingClosure_accounts
    {findings regressions criticalNewFindings : List StageQualityFinding}
    {repairMap closures observations : List JsonRecord} {closure : FindingClosureEvaluation}
    (normalized : ∀ finding ∈ findings ++ regressions ++ criticalNewFindings, Normalized finding)
    (evaluated : evaluateStageQualityFindingClosure (findings.map StageQualityFinding.toRecord)
      repairMap {
        findingClosures := closures
        repairRegressions := regressions.map StageQualityFinding.toRecord
        criticalNewFindings := criticalNewFindings.map StageQualityFinding.toRecord
        optionalObservations := observations } = .ok closure) :
    ClosureAccounts findings regressions criticalNewFindings closures closure := by
  simp only [List.forall_mem_append] at normalized
  obtain ⟨⟨findingsNormal, regressionsNormal⟩, criticalNormal⟩ := normalized
  simp only [evaluateStageQualityFindingClosure, assertNewFindings, uniqueIds, bind_eq_ok,
    ensure_eq_ok, pure_eq_ok] at evaluated
  obtain ⟨findings', checked, _, -, accepted, each, _, -, _, covered, regressions', checked',
    critical', checked'', _, ⟨_, requiredRegressions, _, -, _, requiredCritical, distinct⟩, _, -, _,
    -, rfl⟩ := evaluated
  have sameFindings := identities_of_validated_again findingsNormal checked
  have sameRegressions := identities_of_validated_again regressionsNormal checked'
  have sameCritical := identities_of_validated_again criticalNormal checked''
  refine ⟨fun findingId required => ?_, ?_, ?_, ?_⟩
  · rw [← requiredIds_of_identities sameFindings] at required
    obtain ⟨answer, listed, rfl⟩ := List.mem_map.1 (covered findingId required)
    by_cases closed : answer.status = "closed"
    · obtain ⟨record, listed', validated⟩ := exists_of_mem_mapEach each listed
      obtain ⟨named, status⟩ := validateStageQualityFindingClosure_eq_ok validated
      refine .inr (List.mem_map.2 ⟨record, ?_, named.symm⟩)
      simp [listed', ← status, closed]
    · exact .inl (List.mem_map.2 ⟨answer, by simp [listed, closed], rfl⟩)
  · rw [List.forall_mem_append]
    exact ⟨required_of_identities sameRegressions requiredRegressions,
      required_of_identities sameCritical requiredCritical⟩
  · simpa [findingIds_of_identities sameFindings, findingIds_of_identities sameRegressions,
      findingIds_of_identities sameCritical] using distinct
  · intro quiet
    simp only [Bool.or_eq_false_iff, decide_eq_false_iff_not, not_not] at quiet
    obtain ⟨⟨noneOpen, rfl⟩, rfl⟩ := quiet
    exact ⟨noneOpen, by simpa using sameRegressions.symm, by simpa using sameCritical.symm⟩

end OnePersonLab.Stage

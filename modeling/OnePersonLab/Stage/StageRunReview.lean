import OnePersonLab.Stage.FindingClosure

/-!
# The reviews of a StageRun

The StageRun workflow takes the findings of its first review through rounds of
repair and re-review. A required finding leaves the open list only when a
re-review closes it by name.
-/

namespace OnePersonLab.Stage

open Contract Lib

/-! ## The workflow -/

/-- The part of the workflow's state that the reviews move. -/
structure StageRunReviewState where
  findings : List StageQualityFinding
  repairRoundsUsed : Nat
  maxRepairRounds : Nat
  /-- The outcome of the last accepted review. -/
  outcome : Option StageQualityOutcome
  terminal : Bool

def StageRunReviewState.initial (maxRepairRounds : Nat) : StageRunReviewState where
  findings := []
  repairRoundsUsed := 0
  maxRepairRounds := maxRepairRounds
  outcome := none
  terminal := false

/-- One round: the repair map of the repairer and the output of the re-reviewer,
with the round budget of its execution policy. -/
structure RepairRound where
  repairMap : Option Json
  outcome : StageQualityOutcome
  envelope : JsonRecord
  maxRepairRounds : Nat

inductive StageRunReviewEvent where
  | reviewed (outcome : StageQualityOutcome) (envelope : JsonRecord)
  | reReviewed (round : RepairRound)

/-- The initial review. -/
def initialReview (state : StageRunReviewState) (outcome : StageQualityOutcome)
    (envelope : JsonRecord) : Checked StageRunReviewState := do
  ensure (state.outcome = none) "The initial Review has been accepted already."
  if outcome.hardStops then return { state with outcome := some outcome, terminal := true }
  let reported ← findingList (field? envelope "findings") "findings"
  let findings ← validateInitialStageQualityReviewOutcome outcome
    (reported.map StageQualityFinding.toRecord)
  return { state with
    findings
    outcome := some outcome
    terminal := outcome ≠ .repairRequired || state.maxRepairRounds = 0 }

/-- What a re-review reports, read from its envelope. -/
structure ReReviewReport where
  findingClosures : List JsonRecord
  repairRegressions : List StageQualityFinding
  criticalNewFindings : List StageQualityFinding
  optionalObservations : List JsonRecord

def reReviewReport (envelope : JsonRecord) : Checked ReReviewReport := do
  let findingClosures ← requiredRecordList (field? envelope "finding_closures") "finding_closures"
  let repairRegressions ← findingList (field? envelope "repair_regressions") "repair_regressions"
  let criticalNewFindings ← findingList (field? envelope "critical_new_findings")
    "critical_new_findings"
  let optionalObservations ← requiredRecordList (field? envelope "optional_observations")
    "optional_observations"
  return { findingClosures, repairRegressions, criticalNewFindings, optionalObservations }

def ReReviewReport.toResult (report : ReReviewReport) : StageQualityReReviewResult where
  findingClosures := report.findingClosures
  repairRegressions := report.repairRegressions.map StageQualityFinding.toRecord
  criticalNewFindings := report.criticalNewFindings.map StageQualityFinding.toRecord
  optionalObservations := report.optionalObservations

/-- The findings that stay or become open after a re-review. -/
def openFindings (findings : List StageQualityFinding) (closure : FindingClosureEvaluation)
    (report : ReReviewReport) : List StageQualityFinding :=
  (findings.filter fun finding => finding.findingId ∈ closure.openRequiredFindingIds) ++
    report.repairRegressions ++ report.criticalNewFindings

/-- A round of repair and re-review. -/
def repairRound (state : StageRunReviewState) (round : RepairRound) :
    Checked StageRunReviewState := do
  let index := state.repairRoundsUsed + 1
  ensure (state.terminal = false ∧ state.outcome = some .repairRequired ∧
      index ≤ state.maxRepairRounds) "No repair round is left."
  let repairMap ← validateStageQualityRepairMap
    (state.findings.map StageQualityFinding.toRecord) (asRecordList round.repairMap)
  if round.outcome.hardStops then
    return { state with
      repairRoundsUsed := index, outcome := some round.outcome, terminal := true }
  let report ← reReviewReport round.envelope
  let closure ← evaluateStageQualityFindingClosure
    (state.findings.map StageQualityFinding.toRecord)
    (repairMap.map StageQualityRepairMapEntry.toRecord) report.toResult
  validateStageQualityReReviewOutcome round.outcome closure
  let disposition ← classifyStageQualityReReviewBudget closure index round.maxRepairRounds
  if round.outcome = .pass ∨ round.outcome = .qualityDebt then
    return { state with
      repairRoundsUsed := index, outcome := some round.outcome, terminal := true }
  return { state with
    findings := openFindings state.findings closure report
    repairRoundsUsed := index
    outcome := some round.outcome
    terminal := disposition = .terminalQualityDebt }

/-- The workflow's fold over its reviews. A review that throws ends the run, so
that what was accepted before it stands. -/
def reduceStageRunReview (state : StageRunReviewState) :
    StageRunReviewEvent → Checked StageRunReviewState
  | .reviewed outcome envelope => initialReview state outcome envelope
  | .reReviewed round => repairRound state round

/-! ## What is raised and closed -/

/-- The required findings that an accepted review raises. -/
def StageRunReviewEvent.raises : StageRunReviewEvent → List StageQualityFinding
  | .reviewed outcome envelope =>
    if outcome.hardStops then []
    else match findingList (field? envelope "findings") "findings" with
      | .ok findings => findings.filter fun finding => finding.required
      | .error _ => []
  | .reReviewed round =>
    if round.outcome.hardStops then []
    else match reReviewReport round.envelope with
      | .ok report => report.repairRegressions ++ report.criticalNewFindings
      | .error _ => []

/-- The ids that an accepted re-review closes. -/
def StageRunReviewEvent.closes : StageRunReviewEvent → List String
  | .reviewed _ _ => []
  | .reReviewed round =>
    if round.outcome.hardStops then []
    else match reReviewReport round.envelope with
      | .ok report => closedFindingIds report.findingClosures
      | .error _ => []

abbrev ReviewHistory := History StageRunReviewState StageRunReviewEvent

/-- What the workflow comes to over a sequence of reviews. -/
def reviewHistory (maxRepairRounds : Nat) (events : List StageRunReviewEvent) : ReviewHistory :=
  Reducer.history reduceStageRunReview (.initial maxRepairRounds) events

/-- A finding with the id is raised by an accepted review, and `later` are the
reviews accepted after it. -/
def RaisedBefore (history : ReviewHistory) (findingId : String)
    (later : List (StageRunReviewState × StageRunReviewEvent)) : Prop :=
  ∃ earlier step, history.accepted = earlier ++ step :: later ∧
    ∃ finding ∈ step.2.raises, finding.findingId = findingId

def ClosedIn (findingId : String) (later : List (StageRunReviewState × StageRunReviewEvent)) :
    Prop :=
  ∃ step ∈ later, findingId ∈ step.2.closes

/-- Nothing that was raised gets lost, and nothing is open where a review passes. -/
structure FindingsConserved (history : ReviewHistory) : Prop where
  conserved : ∀ findingId later, RaisedBefore history findingId later →
    findingId ∈ requiredIds history.state.findings ∨ ClosedIn findingId later
  distinct : (history.state.findings.map StageQualityFinding.findingId).Nodup
  passed : history.state.outcome = some .pass → ∀ findingId later,
    RaisedBefore history findingId later → ClosedIn findingId later

/-! ## One review -/

theorem findingList_eq_ok {value : Option Json} {field : String}
    {findings : List StageQualityFinding} (checked : findingList value field = .ok findings) :
    (findings.map StageQualityFinding.findingId).Nodup ∧ ∀ finding ∈ findings, Normalized finding := by
  simp only [findingList, bind_eq_ok] at checked
  obtain ⟨records, -, validated⟩ := checked
  exact validateStageQualityFindings_eq_ok validated

theorem reReviewReport_eq_ok {envelope : JsonRecord} {report : ReReviewReport}
    (reported : reReviewReport envelope = .ok report) :
    (∀ finding ∈ report.repairRegressions, Normalized finding) ∧
      ∀ finding ∈ report.criticalNewFindings, Normalized finding := by
  simp only [reReviewReport, bind_eq_ok, pure_eq_ok] at reported
  obtain ⟨_, -, _, regressions, _, critical, _, -, rfl⟩ := reported
  exact ⟨(findingList_eq_ok regressions).2, (findingList_eq_ok critical).2⟩

/-- What an accepted review does to the open list. -/
structure ReviewStep (state : StageRunReviewState) (event : StageRunReviewEvent)
    (next : StageRunReviewState) : Prop where
  keeps : ∀ findingId ∈ requiredIds state.findings,
    findingId ∈ requiredIds next.findings ∨ findingId ∈ event.closes
  adds : ∀ finding ∈ event.raises, finding.findingId ∈ requiredIds next.findings
  distinct : (next.findings.map StageQualityFinding.findingId).Nodup
  normalized : ∀ finding ∈ next.findings, Normalized finding
  reviewed : next.outcome ≠ none
  passed : next.outcome = some .pass → event.raises = [] ∧
    ∀ findingId ∈ requiredIds state.findings, findingId ∈ event.closes

theorem initialReview_step {state next : StageRunReviewState} {outcome : StageQualityOutcome}
    {envelope : JsonRecord} (none_ : state.findings = [])
    (reviewed : initialReview state outcome envelope = .ok next) :
    ReviewStep state (.reviewed outcome envelope) next := by
  obtain ⟨_, -, reviewed⟩ := bind_eq_ok.1 reviewed
  split at reviewed
  · rename_i stops
    obtain rfl := pure_eq_ok.1 reviewed
    refine ⟨by simp [none_, requiredIds], by simp [StageRunReviewEvent.raises, stops],
      by simp [none_], by simp [none_], by simp, fun passes => ?_⟩
    obtain rfl := Option.some.inj passes
    cases stops
  · rename_i reads
    simp only [bind_eq_ok, pure_eq_ok, validateInitialStageQualityReviewOutcome, ensure_eq_ok]
      at reviewed
    obtain ⟨reported, listed, findings, ⟨_, validated, _, -, _, nothingOpen, rfl⟩, rfl⟩ := reviewed
    obtain ⟨distinct, normalized⟩ := validateStageQualityFindings_eq_ok validated
    have same := requiredIds_of_identities
      (identities_of_validated_again (findingList_eq_ok listed).2 validated)
    have raised : StageRunReviewEvent.raises (.reviewed outcome envelope) =
        reported.filter fun finding => finding.required := by
      simp [StageRunReviewEvent.raises, reads, listed]
    refine ⟨by simp [none_, requiredIds], fun finding listed' => ?_, distinct, normalized,
      by simp, fun passes => ⟨?_, by simp [none_, requiredIds]⟩⟩
    · rw [raised] at listed'
      rw [same]
      exact List.mem_map_of_mem listed'
    · have closed := nothingOpen (.inl (Option.some.inj passes))
      rw [same, requiredIds, List.map_eq_nil_iff] at closed
      rw [raised, closed]

theorem requiredIds_openFindings {findings : List StageQualityFinding}
    {closure : FindingClosureEvaluation} {report : ReReviewReport} {findingId : String}
    (required : findingId ∈ requiredIds findings)
    (open_ : findingId ∈ closure.openRequiredFindingIds) :
    findingId ∈ requiredIds (openFindings findings closure report) := by
  obtain ⟨finding, listed, rfl⟩ := List.mem_map.1 required
  simp only [List.mem_filter] at listed
  exact List.mem_map.2 ⟨finding, by simp [openFindings, listed, open_], rfl⟩

theorem repairRound_step {state next : StageRunReviewState} {round : RepairRound}
    (distinct : (state.findings.map StageQualityFinding.findingId).Nodup)
    (normalized : ∀ finding ∈ state.findings, Normalized finding)
    (reviewed : repairRound state round = .ok next) :
    ReviewStep state (.reReviewed round) next := by
  simp only [repairRound, bind_eq_ok] at reviewed
  obtain ⟨_, -, repairMap, -, reviewed⟩ := reviewed
  split at reviewed
  · rename_i stops
    obtain rfl := pure_eq_ok.1 reviewed
    refine ⟨fun _ required => .inl required, by simp [StageRunReviewEvent.raises, stops], distinct,
      normalized, by simp, fun passes => ?_⟩
    rw [Option.some.inj passes] at stops
    cases stops
  · rename_i reads
    simp only [bind_eq_ok] at reviewed
    obtain ⟨report, reported, closure, evaluated, _, consistent, disposition, -, reviewed⟩ := reviewed
    have raised : StageRunReviewEvent.raises (.reReviewed round) =
        report.repairRegressions ++ report.criticalNewFindings := by
      simp [StageRunReviewEvent.raises, reads, reported]
    have closes : StageRunReviewEvent.closes (.reReviewed round) =
        closedFindingIds report.findingClosures := by
      simp [StageRunReviewEvent.closes, reads, reported]
    have newNormal := reReviewReport_eq_ok reported
    have accounts := evaluateStageQualityFindingClosure_accounts (by
      simpa only [List.forall_mem_append, and_assoc] using And.intro normalized newNormal) evaluated
    simp only [validateStageQualityReReviewOutcome, reads, if_false, Bool.false_eq_true,
      bind_eq_ok, ensure_eq_ok] at consistent
    obtain ⟨_, repairs, -⟩ := consistent
    split at reviewed
    · -- the run ends normally: nothing is open and nothing is new
      rename_i ends
      obtain rfl := pure_eq_ok.1 reviewed
      have quiet := accounts.quiet (by
        by_contra triggered
        have := repairs (by simpa using triggered)
        simp [this] at ends)
      obtain ⟨noneOpen, noRegressions, noCritical⟩ := quiet
      have nothingRaised : StageRunReviewEvent.raises (.reReviewed round) = [] := by
        rw [raised, noRegressions, noCritical, List.nil_append]
      refine ⟨fun _ required => .inl required, by simp [nothingRaised], distinct, normalized,
        by simp, fun _ => ⟨nothingRaised, fun findingId required => ?_⟩⟩
      · rw [closes]
        exact (accounts.settled findingId required).resolve_left (by simp [noneOpen])
    · rename_i continues
      obtain rfl := pure_eq_ok.1 reviewed
      refine ⟨fun findingId required => ?_, fun finding listed => ?_, ?_, ?_, by simp,
        fun passes => absurd (.inl (Option.some.inj passes)) continues⟩
      · rw [closes]
        exact (accounts.settled findingId required).imp_left (requiredIds_openFindings required)
      · rw [raised] at listed
        have required := accounts.required finding listed
        refine List.mem_map.2 ⟨finding, ?_, rfl⟩
        simp only [openFindings, List.append_assoc, List.mem_filter, List.mem_append]
        exact ⟨.inr (List.mem_append.1 listed), required⟩
      · refine List.Nodup.sublist ?_ accounts.distinct
        simp only [openFindings, List.map_append]
        exact ((List.filter_sublist.map _).append_right _).append_right _
      · simp only [openFindings, List.forall_mem_append]
        exact ⟨⟨fun finding listed => normalized finding (List.mem_of_mem_filter listed),
          newNormal.1⟩, newNormal.2⟩

/-! ## Any number of reviews -/

structure ReviewInvariant (history : ReviewHistory) : Prop extends FindingsConserved history where
  normalized : ∀ finding ∈ history.state.findings, Normalized finding
  opening : history.state.outcome = none → history.accepted = [] ∧ history.state.findings = []

theorem raisedBefore_concat {history : ReviewHistory} {next : StageRunReviewState}
    {event : StageRunReviewEvent} {findingId : String}
    {later : List (StageRunReviewState × StageRunReviewEvent)}
    (raised : RaisedBefore ⟨next, history.accepted ++ [(history.state, event)]⟩ findingId later) :
    (later = [] ∧ ∃ finding ∈ event.raises, finding.findingId = findingId) ∨
      ∃ between, later = between ++ [(history.state, event)] ∧
        RaisedBefore history findingId between := by
  obtain ⟨earlier, step, whole, named⟩ := raised
  rcases List.eq_nil_or_concat later with rfl | ⟨between, last, rfl⟩
  · obtain ⟨-, same⟩ := List.append_inj' whole rfl
    obtain rfl := List.singleton_inj.1 same
    exact .inl ⟨rfl, named⟩
  · have whole : history.accepted ++ [(history.state, event)] =
        (earlier ++ step :: between) ++ [last] := by simpa using whole
    obtain ⟨before, same⟩ := List.append_inj' whole rfl
    obtain rfl := List.singleton_inj.1 same
    exact .inr ⟨between, by simp, earlier, step, before, named⟩

theorem ClosedIn.append {findingId : String}
    {later : List (StageRunReviewState × StageRunReviewEvent)} (closed : ClosedIn findingId later)
    (rest : List (StageRunReviewState × StageRunReviewEvent)) :
    ClosedIn findingId (later ++ rest) := by
  obtain ⟨step, listed, closes⟩ := closed
  exact ⟨step, List.mem_append_left _ listed, closes⟩

theorem ReviewInvariant.accept {history : ReviewHistory} {event : StageRunReviewEvent}
    {next : StageRunReviewState} (invariant : ReviewInvariant history)
    (step : ReviewStep history.state event next) :
    ReviewInvariant ⟨next, history.accepted ++ [(history.state, event)]⟩ := by
  refine ⟨⟨fun findingId later raised => ?_, step.distinct, fun passes findingId later raised => ?_⟩,
    step.normalized, fun unreviewed => absurd unreviewed step.reviewed⟩
  · rcases raisedBefore_concat raised with ⟨rfl, finding, listed, rfl⟩ | ⟨between, rfl, before⟩
    · exact .inl (step.adds finding listed)
    · rcases invariant.conserved findingId between before with stillOpen | closed
      · refine (step.keeps findingId stillOpen).imp_right fun closes => ?_
        exact ⟨_, List.mem_append_right _ (List.mem_singleton_self _), closes⟩
      · exact .inr (closed.append _)
  · obtain ⟨nothingRaised, allClosed⟩ := step.passed passes
    rcases raisedBefore_concat raised with ⟨rfl, finding, listed, rfl⟩ | ⟨between, rfl, before⟩
    · simp [nothingRaised] at listed
    · rcases invariant.conserved findingId between before with stillOpen | closed
      · exact ⟨_, List.mem_append_right _ (List.mem_singleton_self _), allClosed _ stillOpen⟩
      · exact closed.append _

/-- Over any sequence of reviews and repair rounds the findings are conserved. -/
theorem findingsConserved (maxRepairRounds : Nat) (events : List StageRunReviewEvent) :
    FindingsConserved (reviewHistory maxRepairRounds events) := by
  have invariant : ReviewInvariant (reviewHistory maxRepairRounds events) := by
    refine Reducer.history_induction_any _ _ ?_ (fun history event next reduced invariant => ?_) events
    · refine ⟨⟨?_, by simp [StageRunReviewState.initial], by simp [StageRunReviewState.initial]⟩,
        by simp [StageRunReviewState.initial], fun _ => ⟨rfl, rfl⟩⟩
      rintro findingId later ⟨earlier, step, whole, -⟩
      simp at whole
    · cases event with
      | reviewed outcome envelope =>
        obtain ⟨_, unreviewed, -⟩ := bind_eq_ok.1 reduced
        have fresh := invariant.opening (ensure_eq_ok.1 unreviewed)
        exact invariant.accept (initialReview_step fresh.2 reduced)
      | reReviewed round =>
        exact invariant.accept (repairRound_step invariant.distinct invariant.normalized reduced)
  exact invariant.toFindingsConserved

end OnePersonLab.Stage

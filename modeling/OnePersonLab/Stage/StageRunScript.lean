import OnePersonLab.Stage.RunOutcomes

/-!
# Scripted runs

A script fixes what the activities and the child workflows of a run answer, and
with it one run of the machine, which can be computed. A request that the script
has no answer for fails, as any request may.
-/

namespace OnePersonLab.Stage

open Contract Lib Evolution

structure StageRunScript where
  choice : AttemptRequest → Materialization
  result : StageAttemptInput → Option StageAttemptState
  syncs : Bool
  revisionTransport : Option Json

/-- The failure of a request without an answer. -/
def unanswered : WorkflowFailure := .activity "Activity task failed" "unanswered"

/-- The row of an attempt as it is asked for. -/
def AttemptRequest.row (request : AttemptRequest) (attemptRef : String) : AttemptRow where
  attemptRef
  role := request.role
  round := request.round
  parentAttemptRef := request.parentAttemptRef
  artifactRefs := request.artifactIdentity.artifactRefs
  artifactHashes := request.artifactIdentity.artifactHashes

instance (producer reviewer : AttemptRow) : Decidable (ReviewPair producer reviewer) :=
  inferInstanceAs (Decidable (_ ∧ _))

namespace StageRunScript

variable (script : StageRunScript)

def receipt (request : ReviewReceiptRequest) (reviewer : AttemptRow) : StageReviewReceipt where
  producerAttemptRef := request.producerAttemptRef
  reviewerAttemptRef := request.reviewerAttemptRef
  reviewedArtifactRefs := reviewer.artifactRefs
  reviewedArtifactHashes := reviewer.artifactHashes
  rubricRefs := request.rubricRefs
  verdict := request.verdict
  revisionTransport := script.revisionTransport

/-- The receipt for two attempts on the books, when they are a pair. -/
def receiptFor (ledger : List AttemptRow) (request : ReviewReceiptRequest) :
    Option StageReviewReceipt := do
  let producer ← ledger.find? fun row => row.attemptRef = request.producerAttemptRef
  let reviewer ← ledger.find? fun row => row.attemptRef = request.reviewerAttemptRef
  if ReviewPair producer reviewer then some (script.receipt request reviewer) else none

/-- The materialization is one that the machine allows. -/
def materializes (ledger : List AttemptRow) (request : AttemptRequest) : Bool :=
  (request.role.reviews || (script.choice request).snapshotDebtRef.isNone) &&
    ledger.all fun row => row.attemptRef ≠ attemptRefOf (script.choice request).stageAttemptId

/-- What the script makes of a request. -/
def perform (input : StageRunInput) (world : RunWorld) :
    (request : StageRunRequest) → RunWorld × stageRunInterface.Answer request
  | .read => (world, .ok world.controller)
  | .modify change => (world.withController change, .ok ())
  | .note event => (world.noting [event], .ok ())
  | .elapsed => (world, .ok 0)
  | .materialize request =>
    if script.materializes world.ledger request then
      let row := request.row (attemptRefOf (script.choice request).stageAttemptId)
      ({ world with ledger := world.ledger ++ [row] }.noting
        (materializeEvents (script.choice request) request input),
        .ok ((script.choice request).attempt input request))
    else (world, .error unanswered)
  | .executeChild attemptRef child =>
    match script.result child with
    | some result => (world.noting (.attemptStarted attemptRef child.attemptRole ::
        resultEvents world.state child.attemptRole result), .ok result)
    | none => (world.noting [.attemptStarted attemptRef child.attemptRole], .error unanswered)
  | .syncAttempt _ _ =>
    if script.syncs then (world, .ok ()) else (world.noting [.attemptSyncFailed], .error unanswered)
  | .reviewReceipt request =>
    match script.receiptFor world.ledger request with
    | some receipt => (world.noting
        (if revisionTransport? receipt = none then [.revisionTransportMissing] else []), .ok receipt)
    | none => (world, .error unanswered)
  | .launchRoute _ => (world, .ok .workflowComplete)
  | .project _ => (world, .ok ())

/-- The world that a scripted run starts in. -/
def start (input : StageRunInput) : RunWorld where
  controller := initialController (initialState input .all 0 ⟨[], [], []⟩)
  ledger := []
  events := []

/-- The end of a scripted run and what was written down about it. -/
def play (fuel : Nat) (patches : StageRunPatches) (input : StageRunInput) :
    RunWorld × Except WorkflowFailure StageRunEnd :=
  (stageRunWorkflow fuel patches input).run (script.perform input) (start input)

/-- The scripted run returns, in the way that is asked for. -/
def Returns (fuel : Nat) (patches : StageRunPatches) (input : StageRunInput)
    (holds : StageRunEnd → List RunEvent → Prop) : Prop :=
  match script.play fuel patches input with
  | (final, .ok ended) => holds ended final.events
  | (_, .error _) => False

instance (fuel : Nat) (patches : StageRunPatches) (input : StageRunInput)
    (holds : StageRunEnd → List RunEvent → Prop)
    [decided : ∀ ended events, Decidable (holds ended events)] :
    Decidable (script.Returns fuel patches input holds) := by
  unfold Returns
  split
  · exact decided _ _
  · exact instDecidableFalse

end StageRunScript

/-! ## Scripted runs are runs -/

section

variable {script : StageRunScript} {input : StageRunInput}

theorem AttemptRequest.row_holds {request : AttemptRequest} {attemptRef : String} :
    (request.row attemptRef).Holds attemptRef request := by
  constructor <;> rfl

theorem StageRunScript.receiptFor_holds {ledger : List AttemptRow}
    {request : ReviewReceiptRequest} {receipt : StageReviewReceipt}
    (issued : script.receiptFor ledger request = some receipt) :
    ReceiptFor ledger request receipt := by
  simp only [receiptFor, Option.bind_eq_bind, Option.bind_eq_some_iff,
    Option.ite_none_right_eq_some, Option.some.injEq] at issued
  obtain ⟨producer, found, reviewer, found', pair, rfl⟩ := issued
  refine ⟨⟨producer, List.mem_of_find?_eq_some found, reviewer, List.mem_of_find?_eq_some found',
    ?_, ?_, pair, rfl, rfl⟩, rfl, rfl, rfl⟩
  · simpa using List.find?_some found
  · simpa using List.find?_some found'

theorem StageRunScript.perform_allowed (world : RunWorld) (request : StageRunRequest) :
    stageRunMachine input world request (script.perform input world request).1
      (script.perform input world request).2 := by
  have external : unanswered.FromActivity := trivial
  cases request with
  | read | modify | note => exact ⟨rfl, rfl⟩
  | elapsed => exact ⟨rfl, 0, rfl⟩
  | materialize request =>
    cases allowed : script.materializes world.ledger request with
    | false =>
      rw [perform, allowed]
      exact .inl ⟨_, external, rfl, .inl rfl⟩
    | true =>
      rw [perform, allowed]
      simp only [materializes, Bool.and_eq_true, Bool.or_eq_true, Option.isNone_iff_eq_none,
        List.all_eq_true, decide_eq_true_eq] at allowed
      refine .inr ⟨script.choice request, _, rfl, fun produces => ?_, AttemptRequest.row_holds,
        .inr ⟨rfl, allowed.2⟩, rfl⟩
      exact allowed.1.resolve_left (by simp [produces])
  | executeChild attemptRef child =>
    cases answered : script.result child with
    | none =>
      rw [perform, answered]
      exact .inl ⟨_, external, rfl, rfl⟩
    | some result =>
      rw [perform, answered]
      exact .inr ⟨_, rfl, rfl⟩
  | syncAttempt =>
    cases syncs : script.syncs with
    | false =>
      rw [perform, syncs]
      exact .inl ⟨_, external, rfl, rfl⟩
    | true =>
      rw [perform, syncs]
      exact .inr ⟨rfl, rfl⟩
  | reviewReceipt request =>
    cases issued : script.receiptFor world.ledger request with
    | none =>
      rw [perform, issued]
      exact .inl ⟨_, external, rfl, rfl⟩
    | some receipt =>
      rw [perform, issued]
      exact .inr ⟨_, rfl, receiptFor_holds issued, rfl⟩
  | launchRoute => exact ⟨rfl, .inl ⟨_, rfl⟩⟩
  | project => exact ⟨rfl, .inl rfl⟩

theorem StageRunScript.start_fresh : (start input).Fresh := ⟨rfl, List.nodup_nil⟩

theorem StageRunScript.runs (script : StageRunScript) (fuel : Nat) (patches : StageRunPatches)
    (input : StageRunInput) : Runs (stageRunMachine input) (stageRunWorkflow fuel patches input)
      (start input) (script.play fuel patches input).2 (script.play fuel patches input).1 :=
  runs_of_run script.perform_allowed _ _

/-- What a scripted run comes to, a run can come to. -/
theorem StageRunScript.Returns.exists_run {fuel : Nat} {patches : StageRunPatches}
    {holds : StageRunEnd → List RunEvent → Prop}
    (returns : script.Returns fuel patches input holds) :
    ∃ ended final, RunsTo fuel patches input ended final ∧ holds ended final.events := by
  have runs := script.runs fuel patches input
  unfold Returns at returns
  split at returns
  · rename_i final ended played
    rw [played] at runs
    exact ⟨ended, final, ⟨_, start_fresh, runs⟩, returns⟩
  · exact returns.elim

end

-- Elaborating a proof against this type would run the script.
attribute [irreducible] StageRunScript.Returns

/-! ## A stage with one finding -/

/-- A stage that drafts one artifact, with a round of repair. -/
def draftStage : StageRunInput where
  stageRunId := "run"
  domainId := "domain"
  stageId := "draft"
  scope := ⟨none, none⟩
  qualityPolicyRef := "policy"
  domainPackRoot := "pack"
  stageManifestRef := "stage"
  stageManifestSha256 := "digest"
  rolePrompts := ["producer", "reviewer", "repairer", "re_reviewer"]
  stageRole := none
  formalReview := { required := true, maxRepairRounds := .ofNat 1, scopeBudget := none }
  qualityRubricRefs := ["rubric"]
  declaredStageIds := ["draft"]
  artifactIdentity := ⟨[], [], []⟩
  recoveryResume := none

/-- Each attempt is named after its role. -/
def draftChoice (request : AttemptRequest) : Materialization where
  stageAttemptId := request.role.text
  workflowId := request.role.text
  scope := ⟨none, none⟩
  execution := {
    bindingSha256 := "digest", formalReviewRequired := true, maxRepairRounds := .ofNat 1
    qualityRubricRefs := ["rubric"], declaredStageIds := ["draft"] }
  snapshotDebtRef := none

/-- What a child workflow ends with. -/
structure ChildReport where
  status : StageAttemptStatus
  session : String
  envelope : JsonRecord
  routeImpact : JsonRecord
  artifacts : List String

def ChildReport.result (report : ChildReport) (child : StageAttemptInput) : StageAttemptState where
  stageAttemptId := child.stageAttemptId
  workflowId := child.workflowId
  domainId := child.domainId
  stageId := child.stageId
  scope := child.scope
  status := report.status
  activityEvents := [.object [
    ("activity_kind", .string "codex_stage_activity"),
    ("progress_summary", .object [("execution_session_ref", .string report.session)])]]
  humanGateRefs := []
  closeoutPacket := some [
    ("route_impact", .object (("stage_quality_cycle", .object (
      ("artifact_refs", .ofStrings report.artifacts) ::
        ("artifact_hashes", .ofStrings report.artifacts) :: report.envelope)) ::
      report.routeImpact)),
    ("closeout_ref_metadata", .array (report.artifacts.map fun artifact => .object [
      ("ref", .string artifact), ("sha256", .string artifact),
      ("artifact_identity_receipt_ref", .string artifact)]))]

def draftReport (status : StageAttemptStatus) (session artifact : String) : ChildReport where
  status := status
  session := session
  envelope := []
  routeImpact := []
  artifacts := [artifact]

def wording : StageQualityFinding where
  findingId := "wording"
  severity := .minor
  required := true
  evidenceRefs := ["draft"]
  repairExpectation := "reword"

def reviewReport (outcome : StageQualityOutcome) (session : String)
    (findings : List StageQualityFinding) : ChildReport where
  status := .completed
  session := session
  envelope := [("outcome", .string outcome.text),
    ("findings", .array (findings.map fun finding => .object finding.toRecord))]
  routeImpact := []
  artifacts := []

def repairReport (status : StageAttemptStatus) (session artifact : String) : ChildReport where
  status := status
  session := session
  envelope := [("repair_map", .array [.object (StageQualityRepairMapEntry.toRecord
    ⟨"wording", "repaired", [], ["draft"]⟩)])]
  routeImpact := []
  artifacts := [artifact]

/-- A re-review that closes the finding. -/
def closingReport (session : String) : ChildReport where
  status := .completed
  session := session
  envelope := [("outcome", .string "pass"),
    ("finding_closures", .array [.object [("finding_id", .string "wording"),
      ("status", .string "closed"), ("evidence_refs", .ofStrings ["draft"])]]),
    ("repair_regressions", .array []), ("critical_new_findings", .array []),
    ("optional_observations", .array [])]
  routeImpact := []
  artifacts := []

def draftTransport : Json := .object [
  ("surface_kind", .string "opl_revision_transport"),
  ("opl_revision_intake_ref", .object [("kind", .string "opl_revision_intake")]),
  ("opl_stage_review_receipt_ref", .object [("kind", .string "opl_stage_review_receipt")])]

/-- The script that goes by what each role reports. -/
def draftScript (report : StageQualityAttemptRole → Option ChildReport) : StageRunScript where
  choice := draftChoice
  result child := (report child.attemptRole).map fun report => report.result child
  syncs := true
  revisionTransport := some draftTransport

end OnePersonLab.Stage

import OnePersonLab.Stage.RouteAcceptance

/-!
# What a StageRun is accountable for

The quantities that the claims about a run speak of, read off its state and off
what was written down about it: the attempts it spends, the debts it owes, the
route it takes, the sessions it has seen, and what its last review is worth.
Each comes with what an attempt does to it.
-/

namespace OnePersonLab.Stage

open Contract Lib Evolution

/-! ## What the controller works on -/

/-- Two states that differ in nothing but status, debts and bookkeeping. -/
structure SameWork (before after : StageRunState) : Prop where
  maxRepairRounds : after.maxRepairRounds = before.maxRepairRounds
  attempts : after.attempts = before.attempts
  findings : after.findings = before.findings
  findingClosures : after.findingClosures = before.findingClosures
  reviewReceipts : after.reviewReceipts = before.reviewReceipts
  artifactIdentity : after.artifactIdentity = before.artifactIdentity
  decisiveAttemptRef : after.decisiveAttemptRef = before.decisiveAttemptRef
  selectedStageRoute : after.selectedStageRoute = before.selectedStageRoute

namespace SameWork

variable {state next last : StageRunState} {refs : List String}

theorem refl (state : StageRunState) : SameWork state state := by
  constructor <;> rfl

theorem trans (first : SameWork state next) (second : SameWork next last) : SameWork state last where
  maxRepairRounds := second.maxRepairRounds.trans first.maxRepairRounds
  attempts := second.attempts.trans first.attempts
  findings := second.findings.trans first.findings
  findingClosures := second.findingClosures.trans first.findingClosures
  reviewReceipts := second.reviewReceipts.trans first.reviewReceipts
  artifactIdentity := second.artifactIdentity.trans first.artifactIdentity
  decisiveAttemptRef := second.decisiveAttemptRef.trans first.decisiveAttemptRef
  selectedStageRoute := second.selectedStageRoute.trans first.selectedStageRoute

theorem withDebts (same : SameWork state next) : SameWork state (next.withDebts refs) :=
  same.trans (by constructor <;> rfl)

theorem withRouteDebts (same : SameWork state next) : SameWork state (next.withRouteDebts refs) :=
  same.trans (by constructor <;> rfl)

end SameWork

section Settle

variable {run : StageRun} {asked : AttemptRequest} {launched : LaunchedAttempt}
  {state : StageRunState}

theorem settleBlockedAttempt_sameWork :
    SameWork state (settleBlockedAttempt run asked launched state) := by
  unfold settleBlockedAttempt
  dsimp only
  split
  · constructor <;> rfl
  split <;> constructor <;> rfl

theorem settleAttempt_sameWork : SameWork state (settleAttempt run asked launched state) := by
  unfold settleAttempt
  split
  · constructor <;> rfl
  split
  · constructor <;> rfl
  · exact settleBlockedAttempt_sameWork
  · exact settleBlockedAttempt_sameWork
  all_goals exact .refl state

/-- Settling an attempt that lets the run go on leaves no debt. -/
theorem settleBlockedAttempt_going
    (going : (settleBlockedAttempt run asked launched state).stopped = false) :
    (settleBlockedAttempt run asked launched state).qualityDebtRefs = state.qualityDebtRefs := by
  unfold settleBlockedAttempt at going ⊢
  dsimp only at going ⊢
  split
  · rfl
  rename_i waits
  split
  · rename_i ends
    rw [if_neg waits, if_pos ends] at going
    cases going
  · rfl

theorem settleAttempt_going (going : (settleAttempt run asked launched state).stopped = false) :
    (settleAttempt run asked launched state).qualityDebtRefs = state.qualityDebtRefs := by
  unfold settleAttempt at going ⊢
  split
  · rfl
  rename_i asks
  rw [if_neg asks] at going
  cases status : launched.result.status with
  | blocked | failed => simpa only [status] using settleBlockedAttempt_going (by simpa [status] using going)
  | _ => rfl

end Settle

section Record

variable {run : StageRun} {asked : AttemptRequest} {launched : LaunchedAttempt}
  {state : StageRunState}

theorem recordAttempt_sameWork {identity : ArtifactIdentity} {route : StageRouteEvaluation} :
    SameWork { state with
        attempts := state.attempts ++ [attemptSummary asked launched identity]
        artifactIdentity := if asked.role = .repairer then state.artifactIdentity else identity }
      (recordAttempt run asked launched identity route state) := by
  unfold recordAttempt
  by_cases raw : rawProgress run launched.result = true
  · rw [if_pos raw]
    constructor <;> rfl
  · rw [if_neg raw]
    constructor <;> rfl

theorem recordedState_sameWork {taken : AttemptTaken} {usage : StageQualityScopeBudgetUsage} :
    SameWork { state with
        maxRepairRounds := launched.executionPolicy.maxRepairRounds
        attempts := state.attempts ++ [attemptSummary asked launched taken.artifactIdentity]
        artifactIdentity := if asked.role = .repairer then state.artifactIdentity
          else taken.artifactIdentity }
      (recordedState run asked launched taken usage state) := by
  have recorded : SameWork _ (recordAttempt run asked launched taken.artifactIdentity taken.route
      (state.opened asked.role launched.executionPolicy.maxRepairRounds)) := recordAttempt_sameWork
  exact ⟨recorded.maxRepairRounds, recorded.attempts, recorded.findings, recorded.findingClosures,
    recorded.reviewReceipts, recorded.artifactIdentity, recorded.decisiveAttemptRef,
    recorded.selectedStageRoute⟩

/-- The debt of raw output is the only one that recording an attempt can bring. -/
theorem recordedState_debts {taken : AttemptTaken} {usage : StageQualityScopeBudgetUsage}
    (parsed : launched.result.rawExecutorOutput = false) :
    (recordedState run asked launched taken usage state).qualityDebtRefs =
      state.qualityDebtRefs := by
  simp only [recordedState, recordAttempt, rawProgress, parsed, Bool.and_false, Bool.false_eq_true,
    if_false]
  rfl

end Record

/-! ## The accounts -/

/-- The patches that the routes of a run depend on. -/
structure StageRunPatches.Routes (patches : StageRunPatches) : Prop where
  earlyRepairRouteBack : patches.earlyRepairRouteBack = true
  progressFirstHandoff : patches.progressFirstHandoff = true

/-- At most so many attempts, at most so many of them repairs. -/
structure Spent (starts repairs : Nat) (events : List RunEvent) : Prop where
  starts : events.countP RunEvent.starts ≤ starts
  repairs : events.countP RunEvent.repairs ≤ repairs

/-- Nothing happens that the controller writes down as a debt. -/
def DebtFree (events : List RunEvent) : Prop := ∀ event ∈ events, event.owes = false

/-- A recovery brings no debt along, and its last receipt binds a revision. -/
def CleanStart (input : StageRunInput) : Prop :=
  ∀ recovery ∈ input.recoveryResume, recovery.qualityDebtRefs = [] ∧
    ∀ receipt ∈ recovery.reviewReceipts.getLast?, revisionTransport? receipt ≠ none

def OwesNothing (input : StageRunInput) (events : List RunEvent) (state : StageRunState) : Prop :=
  DebtFree events → CleanStart input → state.qualityDebtRefs = []

/-- The sessions of the completed attempts have been observed. -/
def SessionsSeen (world : RunWorld) : Prop :=
  ∀ attempt ∈ world.state.attempts, attempt.status = .completed → ∀ session,
    attempt.executionSessionRef = some session → session ≠ "" →
      session ∈ world.controller.observedSessions

def lastProducing (events : List RunEvent) : Option String :=
  (events.filterMap RunEvent.producing?).getLast?

/-- The attempt whose artifact the run is about. -/
def currentArtifactProducer (input : StageRunInput) (events : List RunEvent) : Option String :=
  (lastProducing events).or
    (input.recoveryResume.map RecoveryResume.artifactProducerAttemptRef)

/-- An accepted decision of a review, or a commit. -/
def RunEvent.decides : RunEvent → Bool
  | .routeEvaluated _ role decision => role.reviews && decision.isSome
  | .routeCommitted _ _ => true
  | _ => false

def Undecided (events : List RunEvent) : Prop := ∀ event ∈ events, event.decides = false

/-- What may follow an accepted decision. -/
def Follows (attemptRef : String) (decision : StageRouteDecision) (event : RunEvent) : Prop :=
  event.inert = true ∨ event = .attemptAdmitted attemptRef ∨
    event = .routeCommitted attemptRef decision

def Selects (attemptRef : String) (decision : StageRouteDecision) (state : StageRunState) : Prop :=
  state.selectedStageRoute = some decision ∧ state.decisiveAttemptRef = some attemptRef

/-- A required finding that no closure of the last re-review closes. -/
def Unclosed (state : StageRunState) (finding : StageQualityFinding) : Prop :=
  finding ∈ state.findings ∧ finding.required = true ∧
    finding.findingId ∉ closedFindingIds state.findingClosures

/-- The last receipt of a run: a pass for the artifact that the run ends with,
issued for the attempt that handed it in to a reviewer with a session of its own. -/
structure PassedReview (input : StageRunInput) (events : List RunEvent) (state : StageRunState)
    (receipt : StageReviewReceipt) (earlier : List AttemptSummary) (review : AttemptSummary) :
    Prop where
  last : state.reviewReceipts.getLast? = some receipt
  verdict : receipt.verdict = .pass
  producer : currentArtifactProducer input events = some receipt.producerAttemptRef
  refs : receipt.reviewedArtifactRefs = state.artifactIdentity.artifactRefs
  hashes : receipt.reviewedArtifactHashes.map comparableArtifactHash =
    state.artifactIdentity.artifactHashes.map comparableArtifactHash
  attempts : state.attempts = earlier ++ [review]
  reviewer : receipt.reviewerAttemptRef = attemptRefOf review.stageAttemptId
  session : ∀ attempt ∈ earlier, attempt.executionSessionRef ≠ review.executionSessionRef

def SoundlyReviewed (input : StageRunInput) (events : List RunEvent) (state : StageRunState) :
    Prop :=
  (∃ receipt earlier review, PassedReview input events state receipt earlier review) ∧
    ∀ finding, ¬Unclosed state finding

/-- The route of a run: none, that of a producer whose artifact needs no review,
or the one that a review decides on last. -/
inductive RouteLaw (state : StageRunState) : List RunEvent → Prop where
  | undecided {events : List RunEvent} (quiet : Undecided events) : RouteLaw state events
  | produced {before : List RunEvent} {attemptRef : String} {decision : StageRouteDecision}
      (quiet : Undecided before) :
      RouteLaw state (before ++ [.routeCommitted attemptRef decision])
  | reviewed {before after : List RunEvent} {attemptRef : String}
      {role : StageQualityAttemptRole} {decision : StageRouteDecision} (quiet : Undecided before)
      (follows : ∀ event ∈ after, Follows attemptRef decision event)
      (selects : .attemptAdmitted attemptRef ∈ after → Selects attemptRef decision state) :
      RouteLaw state (before ++ .routeEvaluated attemptRef role (some decision) :: after)

/-! ## What an attempt does to them -/

section Events

variable {events more : List RunEvent}

@[simp] theorem undecided_append : Undecided (events ++ more) ↔ Undecided events ∧ Undecided more :=
  List.forall_mem_append

theorem Calm.quiet {role : StageQualityAttemptRole} {event : RunEvent} (calm : Calm role event) :
    event.decides = false := by
  rcases calm with inert | ⟨attemptRef, rfl⟩
  · cases event <;> first | rfl | cases inert
  · rfl

theorem undecided_of_calm {role : StageQualityAttemptRole}
    (calm : ∀ event ∈ events, Calm role event) : Undecided events :=
  fun event listed => (calm event listed).quiet

theorem lastProducing_append : lastProducing (events ++ more) =
    (lastProducing more).or (lastProducing events) := by
  simp [lastProducing, List.filterMap_append, List.getLast?_append]

theorem lastProducing_inert (inert : ∀ event ∈ events, event.inert = true) :
    lastProducing events = none := by
  have nothing : events.filterMap RunEvent.producing? = [] :=
    List.filterMap_eq_nil_iff.2 fun event listed => RunEvent.producing_of_inert (inert event listed)
  simp [lastProducing, nothing]

theorem lastProducing_cons {event : RunEvent} : lastProducing (event :: events) =
    (lastProducing events).or event.producing? := by
  cases produced : event.producing? <;> simp [lastProducing, produced, List.getLast?_cons]

theorem lastProducing_launchEvents {run : StageRun} {asked : AttemptRequest}
    {choice : Materialization} {state : StageRunState} {result : StageAttemptState} :
    lastProducing (launchEvents run asked choice state result) =
      if asked.role.reviews then none else some (attemptRefOf choice.stageAttemptId) := by
  rw [launchEvents, lastProducing_append, lastProducing_cons,
    lastProducing_inert inert_materializeEvents, lastProducing_inert inert_resultEvents]
  simp [RunEvent.producing?]

end Events

theorem executionSessionRef_ne_empty {result : StageAttemptState} {session : String}
    (reported : result.executionSessionRef = some session) : session ≠ "" := by
  obtain ⟨event, -, given⟩ := List.exists_of_findSome?_eq_some reported
  unfold sessionOfEvent at given
  split at given
  · dsimp only at given
    rcases Option.or_eq_some_iff.1 given with named | ⟨-, threaded⟩
    · simpa using (Option.filter_eq_some_iff.1 named).2
    · obtain ⟨thread, -, rfl⟩ := Option.map_eq_some_iff.1 threaded
      change "codex://threads/" ++ thread ≠ ""
      simp [String.append_eq_empty_iff]
  · cases given

namespace Takes

variable {run : StageRun} {asked : AttemptRequest} {before after : RunWorld}
  {choice : Materialization} {launched : LaunchedAttempt} {taken : AttemptTaken}

theorem sameWork (takes : Takes run asked before choice launched taken after) :
    SameWork { before.state with
        maxRepairRounds := launched.executionPolicy.maxRepairRounds
        attempts := before.state.attempts ++
          [attemptSummary asked launched taken.artifactIdentity]
        artifactIdentity := if asked.role = .repairer then before.state.artifactIdentity
          else taken.artifactIdentity }
      after.state := by
  obtain ⟨usage, recorded, settled, entered⟩ := takes.state
  rw [settled]
  refine SameWork.trans ?_ settleAttempt_sameWork
  rcases entered with rfl | ⟨-, debt, rfl⟩
  · exact recordedState_sameWork
  · exact recordedState_sameWork.withDebts

theorem spent (takes : Takes run asked before choice launched taken after) {starts repairs : Nat}
    (within : Spent starts repairs before.events) :
    Spent (starts + 1) (repairs + if asked.role = .repairer then 1 else 0) after.events := by
  obtain ⟨synced, inert, written⟩ := takes.events
  rw [written]
  have one := within.starts
  have some := within.repairs
  constructor
  · simp [List.countP_append, (countP_inert inert).1, RunEvent.starts]
    omega
  · simp only [List.countP_append, List.countP_cons, (countP_inert inert).2, repairs_launchEvents,
      RunEvent.repairs, Bool.false_eq_true, if_false]
    omega

theorem distinct (takes : Takes run asked before choice launched taken after)
    (nodup : (before.ledger.map AttemptRow.attemptRef).Nodup) :
    (after.ledger.map AttemptRow.attemptRef).Nodup := by
  obtain ⟨row, -, ⟨same, -⟩ | ⟨added, fresh⟩⟩ := takes.row
  · rw [same]
    exact nodup
  · rw [added, List.map_append, List.nodup_append]
    refine ⟨nodup, by simp, fun ref named other single => ?_⟩
    obtain ⟨entry, listed, rfl⟩ := List.mem_map.1 named
    rw [List.map_singleton, List.mem_singleton] at single
    exact single ▸ fresh entry listed

theorem row_mem (takes : Takes run asked before choice launched taken after) :
    ∃ row ∈ after.ledger, row.Holds taken.attemptRef asked := by
  obtain ⟨row, holds, ⟨same, listed⟩ | ⟨added, -⟩⟩ := takes.row
  · exact ⟨row, same ▸ listed, takes.attemptRef_eq ▸ holds⟩
  · exact ⟨row, by simp [added], takes.attemptRef_eq ▸ holds⟩

theorem undecided (takes : Takes run asked before choice launched taken after)
    (quiet : Undecided before.events)
    (declined : asked.role.reviews = true → taken.route.decision = none) :
    Undecided after.events := by
  obtain ⟨synced, inert, written⟩ := takes.events
  rw [written, undecided_append, undecided_append]
  refine ⟨⟨quiet, undecided_of_calm calm_launchEvents⟩, ?_⟩
  intro event listed
  rcases List.mem_cons.1 listed with rfl | listed
  · cases reviews : asked.role.reviews with
    | false => simp [RunEvent.decides, reviews]
    | true => simp [RunEvent.decides, declined reviews]
  · exact Calm.quiet (.inl (inert event listed) : Calm asked.role event)

theorem law_of_decision (takes : Takes run asked before choice launched taken after)
    (quiet : Undecided before.events) {decision : StageRouteDecision}
    (accepted : taken.route.decision = some decision) :
    ∃ earlier synced, after.events =
        earlier ++ .routeEvaluated taken.attemptRef asked.role (some decision) :: synced ∧
      Undecided earlier ∧ ∀ event ∈ synced, event.inert = true := by
  obtain ⟨synced, inert, written⟩ := takes.events
  refine ⟨_, synced, by rw [written, accepted, takes.attemptRef_eq], ?_, inert⟩
  exact undecided_append.2 ⟨quiet, undecided_of_calm calm_launchEvents⟩

theorem producing (takes : Takes run asked before choice launched taken after) :
    lastProducing after.events =
      if asked.role.reviews then lastProducing before.events else some taken.attemptRef := by
  obtain ⟨synced, inert, written⟩ := takes.events
  rw [written, lastProducing_append, lastProducing_append, lastProducing_cons,
    lastProducing_inert inert, lastProducing_launchEvents, takes.attemptRef_eq, takes.attemptRef]
  cases asked.role.reviews <;> simp [RunEvent.producing?]

theorem launched_mem (takes : Takes run asked before choice launched taken after)
    {event : RunEvent}
    (listed : event ∈ launchEvents run asked choice before.state launched.result) :
    event ∈ after.events := by
  obtain ⟨synced, -, written⟩ := takes.events
  rw [written]
  exact List.mem_append_left _ (List.mem_append_right _ listed)

theorem before_mem (takes : Takes run asked before choice launched taken after)
    {event : RunEvent} (listed : event ∈ before.events) : event ∈ after.events := by
  obtain ⟨synced, -, written⟩ := takes.events
  rw [written]
  exact List.mem_append_left _ (List.mem_append_left _ listed)

theorem owesNothing (takes : Takes run asked before choice launched taken after)
    (going : after.state.stopped = false)
    (clear : OwesNothing run.input before.events before.state) :
    OwesNothing run.input after.events after.state := by
  intro free clean
  have parsed : launched.result.rawExecutorOutput = false := by
    by_contra unparsed
    have raw : launched.result.rawExecutorOutput = true := by simpa using unparsed
    have written := free .rawExecutorOutput (takes.launched_mem (by
      simp [launchEvents, resultEvents, raw]))
    cases written
  obtain ⟨usage, recorded, settled, entered⟩ := takes.state
  rw [settled] at going ⊢
  rw [settleAttempt_going going]
  rcases entered with rfl | ⟨failed, -⟩
  · rw [recordedState_debts parsed]
    exact clear (fun event listed => free event (takes.before_mem listed)) clean
  · cases free _ failed

/-- The debt receipt of a missing snapshot is on record. -/
theorem snapshotDebt (takes : Takes run asked before choice launched taken after)
    (missing : taken.reviewInputSnapshotQualityDebtRef.isSome = true) :
    .snapshotDebt ∈ after.events := by
  refine takes.launched_mem ?_
  rw [takes.snapshotDebt_eq, takes.childInput] at missing
  simp [launchEvents, materializeEvents, missing]

theorem formalReview (takes : Takes run asked before choice launched taken after)
    (unneeded : taken.executionPolicy.formalReviewRequired = false) :
    .formalReviewNotRequired ∈ after.events := by
  refine takes.launched_mem ?_
  rw [takes.executionPolicy_eq, takes.bound.required] at unneeded
  simp [launchEvents, materializeEvents, unneeded]

theorem sessionsSeen (takes : Takes run asked before choice launched taken after)
    (seen : SessionsSeen before) : SessionsSeen after := by
  intro attempt listed completed session given named
  rw [takes.sameWork.attempts] at listed
  have kept : session ∈ before.controller.observedSessions →
      session ∈ after.controller.observedSessions := by
    intro observed
    by_cases done : launched.result.status = .completed
    · obtain ⟨other, -, -, grown⟩ := takes.observed.completed done
      exact grown ▸ List.mem_cons_of_mem _ observed
    · rwa [takes.observed.otherwise done]
  rcases List.mem_append.1 listed with earlier | last
  · exact kept (seen attempt earlier completed session given named)
  · obtain rfl := List.mem_singleton.1 last
    obtain ⟨other, reported, -, grown⟩ := takes.observed.completed completed
    obtain rfl := Option.some.inj (given.symm.trans reported)
    exact grown ▸ List.mem_cons_self

/-- A completed review whose session is not that of an uncompleted attempt comes
with a session that no attempt came with. -/
theorem freshSession (takes : Takes run asked before choice launched taken after)
    (seen : SessionsSeen before) (reviews : asked.role.reviews = true)
    (completed : launched.result.status = .completed)
    (unused : .reviewerSessionReused ∉ after.events) :
    ∀ attempt ∈ before.state.attempts,
      attempt.executionSessionRef ≠ launched.result.executionSessionRef := by
  intro attempt listed same
  obtain ⟨session, reported, unseen, -⟩ := takes.observed.completed completed
  by_cases done : attempt.status = .completed
  · exact unseen (seen attempt listed done session (same.trans reported)
      (executionSessionRef_ne_empty reported))
  · refine unused (takes.launched_mem ?_)
    have reused : ReusesSession before.state asked.role launched.result :=
      ⟨reviews, attempt, listed, done, by simp [same, reported], same⟩
    simp [launchEvents, resultEvents, reused]

end Takes

end OnePersonLab.Stage

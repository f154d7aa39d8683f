import OnePersonLab.Stage.RunEnds

/-!
# The reviews of a run

A review that has been taken is followed through its receipt to the return that
it leads to. What later steps need of it is one structure, which the steps in
between keep.
-/

namespace OnePersonLab.Stage

open Contract Lib Evolution

/-! ## Between attempts -/

/-- A run that can take its next attempt. -/
structure Standing (run : StageRun) (starts repairs : Nat) (world : RunWorld) : Prop where
  spent : Spent starts repairs world.events
  bound : world.state.maxRepairRounds ≤ 3
  distinct : (world.ledger.map AttemptRow.attemptRef).Nodup
  seen : SessionsSeen world
  clear : OwesNothing run.input world.events world.state
  quiet : run.patches.Routes → Undecided world.events

/-- A step that touches findings, receipts and debts only. -/
structure Proceeds (run : StageRun) (before after : RunWorld) : Prop where
  status : after.state.status = before.state.status
  maxRepairRounds : after.state.maxRepairRounds = before.state.maxRepairRounds
  attempts : after.state.attempts = before.state.attempts
  artifactIdentity : after.state.artifactIdentity = before.state.artifactIdentity
  decisiveAttemptRef : after.state.decisiveAttemptRef = before.state.decisiveAttemptRef
  selectedStageRoute : after.state.selectedStageRoute = before.state.selectedStageRoute
  ledger : after.ledger = before.ledger
  observed : after.controller.observedSessions = before.controller.observedSessions
  events : ∃ more, after.events = before.events ++ more ∧ ∀ event ∈ more, event.inert = true
  clear : OwesNothing run.input before.events before.state →
    OwesNothing run.input after.events after.state

section Proceeds

variable {run : StageRun} {before after last : RunWorld}

theorem Proceeds.refl (world : RunWorld) : Proceeds run world world :=
  ⟨rfl, rfl, rfl, rfl, rfl, rfl, rfl, rfl, ⟨[], by simp, by simp⟩, id⟩

theorem Proceeds.trans (first : Proceeds run before after) (second : Proceeds run after last) :
    Proceeds run before last where
  status := second.status.trans first.status
  maxRepairRounds := second.maxRepairRounds.trans first.maxRepairRounds
  attempts := second.attempts.trans first.attempts
  artifactIdentity := second.artifactIdentity.trans first.artifactIdentity
  decisiveAttemptRef := second.decisiveAttemptRef.trans first.decisiveAttemptRef
  selectedStageRoute := second.selectedStageRoute.trans first.selectedStageRoute
  ledger := second.ledger.trans first.ledger
  observed := second.observed.trans first.observed
  events := by
    obtain ⟨more, written, inert⟩ := first.events
    obtain ⟨more', written', inert'⟩ := second.events
    exact ⟨more ++ more', by rw [written', written, List.append_assoc],
      List.forall_mem_append.2 ⟨inert, inert'⟩⟩
  clear := second.clear ∘ first.clear

/-- A change of the state that leaves its debts alone. -/
theorem Proceeds.idle {world : RunWorld} {change : StageRunState → StageRunState}
    (status : (change world.state).status = world.state.status)
    (maxRepairRounds : (change world.state).maxRepairRounds = world.state.maxRepairRounds)
    (attempts : (change world.state).attempts = world.state.attempts)
    (artifactIdentity : (change world.state).artifactIdentity = world.state.artifactIdentity)
    (decisive : (change world.state).decisiveAttemptRef = world.state.decisiveAttemptRef)
    (selected : (change world.state).selectedStageRoute = world.state.selectedStageRoute)
    (debts : (change world.state).qualityDebtRefs = world.state.qualityDebtRefs) :
    Proceeds run world (world.withState change) :=
  ⟨status, maxRepairRounds, attempts, artifactIdentity, decisive, selected, rfl, rfl,
    ⟨[], by simp, by simp⟩, fun clear free clean => debts.trans (clear free clean)⟩

theorem Proceeds.stopped (proceeds : Proceeds run before after) :
    after.state.stopped = before.state.stopped := by
  unfold StageRunState.stopped
  rw [proceeds.status]

theorem Spent.append_inert {starts repairs : Nat} {events more : List RunEvent}
    (spent : Spent starts repairs events) (inert : ∀ event ∈ more, event.inert = true) :
    Spent starts repairs (events ++ more) := by
  constructor
  · rw [List.countP_append, (countP_inert inert).1]
    exact spent.starts
  · rw [List.countP_append, (countP_inert inert).2]
    exact spent.repairs

theorem undecided_inert {events : List RunEvent} (inert : ∀ event ∈ events, event.inert = true) :
    Undecided events :=
  fun event listed => Calm.quiet (.inl (inert event listed) : Calm .producer event)

theorem Proceeds.seen (proceeds : Proceeds run before after) (seen : SessionsSeen before) :
    SessionsSeen after := by
  unfold SessionsSeen
  rw [proceeds.attempts, proceeds.observed]
  exact seen

theorem Standing.proceeds {starts repairs : Nat} (standing : Standing run starts repairs before)
    (proceeds : Proceeds run before after) : Standing run starts repairs after := by
  obtain ⟨more, written, inert⟩ := proceeds.events
  refine ⟨?_, ?_, ?_, proceeds.seen standing.seen, proceeds.clear standing.clear, fun routes => ?_⟩
  · rw [written]
    exact standing.spent.append_inert inert
  · rw [proceeds.maxRepairRounds]
    exact standing.bound
  · rw [proceeds.ledger]
    exact standing.distinct
  · rw [written, undecided_append]
    exact ⟨standing.quiet routes, undecided_inert inert⟩

end Proceeds

/-! ## A review that has been taken -/

/-- The decision of an attempt, accepted and on record. -/
def Chosen (attemptRef : String) (decision : StageRouteDecision) (events : List RunEvent)
    (state : StageRunState) : Prop :=
  ∃ earlier role later, events = earlier ++ .routeEvaluated attemptRef role (some decision) :: later ∧
    Undecided earlier ∧ (∀ event ∈ later, Follows attemptRef decision event) ∧
    (.attemptAdmitted attemptRef ∈ later → Selects attemptRef decision state)

/-- Where the route of a run stands after a review. -/
def RouteStands (review : AttemptTaken) (events : List RunEvent) (state : StageRunState) : Prop :=
  match review.route.decision with
  | none => Undecided events
  | some decision => Chosen review.attemptRef decision events state

section RouteStands

variable {review : AttemptTaken} {events more : List RunEvent} {state next : StageRunState}

theorem RouteStands.law (stands : RouteStands review events state) : RouteLaw state events := by
  unfold RouteStands at stands
  split at stands
  · exact .undecided stands
  · obtain ⟨earlier, role, later, rfl, quiet, follows, selects⟩ := stands
    exact .reviewed quiet follows selects

theorem RouteStands.append_inert (stands : RouteStands review events state)
    (inert : ∀ event ∈ more, event.inert = true)
    (selected : next.selectedStageRoute = state.selectedStageRoute)
    (decisive : next.decisiveAttemptRef = state.decisiveAttemptRef) :
    RouteStands review (events ++ more) next := by
  unfold RouteStands at stands ⊢
  split at stands
  · exact undecided_append.2 ⟨stands, undecided_inert inert⟩
  · obtain ⟨earlier, role, later, rfl, quiet, follows, selects⟩ := stands
    refine ⟨earlier, role, later ++ more, by simp, quiet, ?_, fun admitted => ?_⟩
    · exact List.forall_mem_append.2 ⟨follows, fun event listed => .inl (inert event listed)⟩
    · rcases List.mem_append.1 admitted with listed | listed
      · exact ⟨selected.trans (selects listed).1, decisive.trans (selects listed).2⟩
      · cases inert _ listed

end RouteStands

/-- What is known of a review that has been taken, before and after its receipt. -/
structure Judged (run : StageRun) (asked : AttemptRequest) (starts repairs : Nat)
    (review : AttemptTaken) (world : RunWorld) : Prop where
  answers : ∃ choice launched, Answers run asked choice launched review
  reviews : asked.role.reviews = true
  spent : Spent starts repairs world.events
  bound : world.state.maxRepairRounds = review.executionPolicy.maxRepairRounds
  distinct : (world.ledger.map AttemptRow.attemptRef).Nodup
  seen : SessionsSeen world
  clear : world.state.stopped = false → OwesNothing run.input world.events world.state
  route : run.patches.Routes → RouteStands review world.events world.state
  identity : world.state.artifactIdentity = asked.artifactIdentity
  producer : currentArtifactProducer run.input world.events = asked.artifactProducerAttemptRef
  row : ∃ row ∈ world.ledger, row.Holds review.attemptRef asked
  snapshot : review.reviewInputSnapshotQualityDebtRef.isSome = true → .snapshotDebt ∈ world.events
  last : ∃ earlier last, world.state.attempts = earlier ++ [last] ∧
    review.attemptRef = attemptRefOf last.stageAttemptId ∧
    (review.outcome ≠ none → .reviewerSessionReused ∉ world.events →
      ∀ attempt ∈ earlier, attempt.executionSessionRef ≠ last.executionSessionRef)

/-- A review that the run goes on from. -/
structure Reviewed (run : StageRun) (asked : AttemptRequest) (starts repairs : Nat)
    (review : AttemptTaken) (world : RunWorld) : Prop
    extends Judged run asked starts repairs review world where
  going : world.state.stopped = false
  selects : run.patches.Routes → ∀ decision, review.route.decision = some decision →
    Selects review.attemptRef decision world.state

theorem currentArtifactProducer_append_inert {input : StageRunInput} {events more : List RunEvent}
    (inert : ∀ event ∈ more, event.inert = true) :
    currentArtifactProducer input (events ++ more) = currentArtifactProducer input events := by
  rw [currentArtifactProducer, lastProducing_append, lastProducing_inert inert]
  rfl

section Judged

variable {run : StageRun} {asked : AttemptRequest} {starts repairs : Nat} {review : AttemptTaken}
  {before after : RunWorld}

theorem Judged.proceeds (judged : Judged run asked starts repairs review before)
    (proceeds : Proceeds run before after) : Judged run asked starts repairs review after := by
  obtain ⟨more, written, inert⟩ := proceeds.events
  have kept : ∀ {event}, event ∈ before.events → event ∈ after.events := by
    intro event listed
    rw [written]
    exact List.mem_append_left _ listed
  refine ⟨judged.answers, judged.reviews, ?_, ?_, ?_, proceeds.seen judged.seen, ?_, fun routes => ?_, ?_,
    ?_, ?_, fun missing => kept (judged.snapshot missing), ?_⟩
  · rw [written]
    exact judged.spent.append_inert inert
  · rw [proceeds.maxRepairRounds]
    exact judged.bound
  · rw [proceeds.ledger]
    exact judged.distinct
  · rw [proceeds.stopped]
    exact proceeds.clear ∘ judged.clear
  · rw [written]
    exact (judged.route routes).append_inert inert proceeds.selectedStageRoute proceeds.decisiveAttemptRef
  · rw [proceeds.artifactIdentity]
    exact judged.identity
  · rw [written, currentArtifactProducer_append_inert inert]
    exact judged.producer
  · rw [proceeds.ledger]
    exact judged.row
  · obtain ⟨earlier, last, attempts, ref, fresh⟩ := judged.last
    exact ⟨earlier, last, proceeds.attempts.trans attempts, ref,
      fun given unused => fresh given fun listed => unused (kept listed)⟩

theorem Reviewed.proceeds (reviewed : Reviewed run asked starts repairs review before)
    (proceeds : Proceeds run before after) : Reviewed run asked starts repairs review after := by
  refine ⟨reviewed.toJudged.proceeds proceeds, proceeds.stopped.trans reviewed.going,
    fun routes decision accepted => ?_⟩
  obtain ⟨selected, decisive⟩ := reviewed.selects routes decision accepted
  exact ⟨proceeds.selectedStageRoute.trans selected, proceeds.decisiveAttemptRef.trans decisive⟩

end Judged

/-! ## Taking an attempt -/

section Takes

variable {run : StageRun} {asked : AttemptRequest} {starts repairs : Nat} {before after : RunWorld}
  {choice : Materialization} {launched : LaunchedAttempt} {taken : AttemptTaken}

theorem Takes.standing (takes : Takes run asked before choice launched taken after)
    (standing : Standing run starts repairs before) (produces : asked.role.reviews = false)
    (going : after.state.stopped = false) :
    Standing run (starts + 1) (repairs + if asked.role = .repairer then 1 else 0) after where
  spent := takes.spent standing.spent
  bound := by
    rw [takes.sameWork.maxRepairRounds]
    exact takes.maxRepairRounds_le
  distinct := takes.distinct standing.distinct
  seen := takes.sessionsSeen standing.seen
  clear := takes.owesNothing going standing.clear
  quiet routes := takes.undecided (standing.quiet routes) (by simp [produces])

/-- A review hands back the identity of what it was given. -/
theorem Answers.reviewedIdentity (answers : Answers run asked choice launched taken)
    (reviews : asked.role.reviews = true) : taken.artifactIdentity = asked.artifactIdentity := by
  have read := answers.identity
  unfold attemptArtifactIdentity at read
  split at read
  · exact qualityArtifactIdentity_of_input read
  · exact (Except.ok.inj read).symm

theorem Takes.judged (takes : Takes run asked before choice launched taken after)
    (standing : Standing run starts repairs before) (reviews : asked.role.reviews = true)
    (producer : currentArtifactProducer run.input before.events =
      asked.artifactProducerAttemptRef) :
    Judged run asked (starts + 1) repairs taken after := by
  have other : asked.role ≠ .repairer := by
    rintro role
    rw [role] at reviews
    cases reviews
  have same := takes.sameWork
  refine ⟨⟨choice, launched, takes.toAnswers⟩, reviews, ?_, ?_, takes.distinct standing.distinct,
    takes.sessionsSeen standing.seen, fun going => takes.owesNothing going standing.clear,
    fun routes => ?_, ?_, ?_, takes.row_mem, takes.snapshotDebt, ?_⟩
  · simpa [other] using takes.spent standing.spent
  · rw [same.maxRepairRounds, takes.executionPolicy_eq]
  · unfold RouteStands
    split
    · rename_i declined
      exact takes.undecided (standing.quiet routes) fun _ => declined
    · rename_i decision accepted
      obtain ⟨earlier, synced, written, quiet, inert⟩ :=
        takes.law_of_decision (standing.quiet routes) accepted
      refine ⟨earlier, _, synced, written, quiet, fun event listed => .inl (inert event listed), ?_⟩
      intro admitted
      cases inert _ admitted
  · rw [same.artifactIdentity, if_neg other, takes.reviewedIdentity reviews]
  · rw [currentArtifactProducer, takes.producing, if_pos reviews]
    exact producer
  · refine ⟨before.state.attempts, _, same.attempts, ?_, fun given unused => ?_⟩
    · rw [takes.attemptRef_eq, takes.attemptRef, attemptSummary, takes.childInput]
      rfl
    · obtain ⟨outcome, given⟩ := Option.ne_none_iff_exists'.1 given
      exact takes.freshSession standing.seen reviews (takes.outcome_some given).2.1 unused

/-- A state that answers neither for a completed run nor for open findings. -/
theorem EndFacts.of_status {events : List RunEvent} {exit : Exit} {state : StageRunState}
    (within : exit ≠ .outOfFuel) (open_ : state.status ≠ .completed)
    (silent : state.status = .completedWithQualityDebt → exit.reports = false)
    (route : run.patches.Routes → RouteLaw state events) : EndFacts run events exit state :=
  ⟨within, fun completed => absurd completed open_, fun indebted reports => by
    simp [silent indebted] at reports, fun completed => absurd completed open_, route⟩

theorem StageRunState.stopped_ne_completed {state : StageRunState}
    (stopped : state.stopped = true) : state.status ≠ .completed := by
  intro completed
  simp [StageRunState.stopped, completed] at stopped

end Takes

/-! ## How far a failed attempt gets -/

theorem Calm.repairs {role : StageQualityAttemptRole} {events : List RunEvent}
    (calm : ∀ event ∈ events, Calm role event) :
    events.countP RunEvent.repairs =
      if role = .repairer then events.countP RunEvent.starts else 0 := by
  have each : ∀ event ∈ events,
      event.repairs = (decide (role = .repairer) && event.starts) := by
    intro event listed
    rcases calm event listed with inert | ⟨attemptRef, rfl⟩
    · simp [RunEvent.repairs_of_inert inert, RunEvent.starts_of_inert inert]
    · simp [RunEvent.repairs, RunEvent.starts]
  split
  · rename_i repairer
    exact List.countP_congr fun event listed => by simp [each event listed, repairer]
  · rename_i other
    exact List.countP_eq_zero.2 fun event listed => by simp [each event listed, other]

theorem Stumbles.broken {run : StageRun} {role : StageQualityAttemptRole} {starts repairs : Nat}
    {before after : RunWorld} (standing : Standing run starts repairs before)
    (stumbles : Stumbles role before.events after.events) (room : starts + 1 ≤ 8)
    (room' : repairs + (if role = .repairer then 1 else 0) ≤ 3) : Broken run after := by
  obtain ⟨calm, judged, written, one, each, evaluation⟩ := stumbles
  have spent := standing.spent
  have repaired := Calm.repairs each
  constructor
  · have judgedStarts : judged.countP RunEvent.starts = 0 ∧ judged.countP RunEvent.repairs = 0 := by
      rcases evaluation with rfl | ⟨attemptRef, decision, rfl⟩ <;> exact ⟨rfl, rfl⟩
    constructor
    · rw [written, List.countP_append, List.countP_append, judgedStarts.1]
      have := spent.starts
      omega
    · rw [written, List.countP_append, List.countP_append, judgedStarts.2, repaired]
      have := spent.repairs
      split at room' <;> simp_all <;> omega
  · intro routes
    rw [written]
    have quiet : Undecided (before.events ++ calm) :=
      undecided_append.2 ⟨standing.quiet routes, undecided_of_calm each⟩
    rcases evaluation with rfl | ⟨attemptRef, decision, rfl⟩
    · rw [List.append_nil]
      exact .undecided quiet
    · cases decision with
      | none => exact .undecided (undecided_append.2 ⟨quiet, by simp [Undecided, RunEvent.decides]⟩)
      | some decision => exact .reviewed quiet (by simp) (by simp)

end OnePersonLab.Stage

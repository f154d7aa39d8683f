import OnePersonLab.Stage.StageRunScript

/-!
# What a StageRun guarantees

The guarantees that a run gives for whatever its activities and child workflows
answer: its attempts stay within the budget, a completed run has been reviewed
soundly and owes nothing, open findings are reported, and the controller ends
the run where the route authority accepts the decision of a review.
-/

namespace OnePersonLab.Stage

open Contract Lib Evolution

section

variable {fuel : Nat} {patches : StageRunPatches} {input : StageRunInput} {ended : StageRunEnd}
  {final : RunWorld}

theorem RunsTo.settles (enough : 3 ≤ fuel) (ran : RunsTo fuel patches input ended final) :
    ∃ run : StageRun, run.input = input ∧ run.patches = patches ∧ Settles run ended final := by
  obtain ⟨start, fresh, runs⟩ := ran
  exact (stageRunWorkflow_leads enough fresh).of_ok runs

/-! ## The budget -/

/-- Whatever the attempts make of the bound on the rounds, a run repairs at most
three times, starts at most eight attempts, and never wants for fuel. -/
theorem stageRun_withinBudget {start : RunWorld}
    {outcome : Except WorkflowFailure StageRunEnd} (enough : 3 ≤ fuel) (fresh : start.Fresh)
    (runs : Runs (stageRunMachine input) (stageRunWorkflow fuel patches input) start outcome
      final) :
    final.events.countP RunEvent.repairs ≤ 3 ∧ final.events.countP RunEvent.starts ≤ 2 + 2 * 3 ∧
      ∀ ended, outcome = .ok ended → ended.exit ≠ .outOfFuel := by
  have leads : Leads (stageRunMachine input) (stageRunWorkflow fuel patches input) start _ _ :=
    stageRunWorkflow_leads enough fresh
  cases outcome with
  | error failure =>
    have spent := (leads.of_error runs).spent
    refine ⟨spent.repairs, spent.starts, fun ended returned => ?_⟩
    cases returned
  | ok ended =>
    obtain ⟨run, -, -, settles⟩ := leads.of_ok runs
    refine ⟨settles.spent.repairs, settles.spent.starts, fun ended' returned => ?_⟩
    obtain rfl := Except.ok.inj returned
    exact settles.facts.within

end

/-- A run that takes its one round of repair. -/
def repairedDraft : StageRunScript := draftScript fun
  | .producer => some (draftReport .completed "first" "draft")
  | .reviewer => some (reviewReport .repairRequired "second" [wording])
  | .repairer => some (repairReport .completed "third" "repaired draft")
  | .reReviewer => some (closingReport "fourth")

theorem stageRun_withinBudget_repaired :
    let final := (repairedDraft.play 3 .all draftStage).1
    final.events.countP RunEvent.repairs ≤ 3 ∧ final.events.countP RunEvent.starts ≤ 2 + 2 * 3 ∧
      ∀ ended, (repairedDraft.play 3 .all draftStage).2 = .ok ended → ended.exit ≠ .outOfFuel :=
  stageRun_withinBudget (by decide) StageRunScript.start_fresh (repairedDraft.runs 3 .all draftStage)

/-! ## Completed runs -/

section

variable {fuel : Nat} {patches : StageRunPatches} {input : StageRunInput} {ended : StageRunEnd}
  {final : RunWorld}

/-- A completed run has been reviewed soundly, unless one of its reviews reports
the session of an attempt that never completed. -/
theorem completed_soundlyReviewed (enough : 3 ≤ fuel)
    (ran : RunsTo fuel .all input ended final) (completed : ended.state.status = .completed)
    (needed : .formalReviewNotRequired ∉ final.events)
    (unused : .reviewerSessionReused ∉ final.events) :
    SoundlyReviewed input final.events ended.state := by
  obtain ⟨run, rfl, -, settles⟩ := ran.settles enough
  exact settles.facts.sound completed needed unused

end

def sessions (state : StageRunState) : List (Option String) :=
  state.attempts.map AttemptSummary.executionSessionRef

/-- The re-review takes up the session of the producer, which never completed. -/
def reusedSession : StageRunScript := draftScript fun
  | .producer => some (draftReport .blocked "first" "draft")
  | .reviewer => some (reviewReport .repairRequired "second" [wording])
  | .repairer => some (repairReport .completed "third" "repaired draft")
  | .reReviewer => some (closingReport "first")

/-- A run that the reviewer passes. -/
def passedDraft : StageRunScript := draftScript fun
  | .producer => some (draftReport .completed "first" "draft")
  | .reviewer => some (reviewReport .pass "second" [])
  | _ => none

/-- The same run, when the attempts cannot be synchronized. -/
def unsyncedDraft : StageRunScript := { passedDraft with syncs := false }

/-- The runs that complete are evaluated in one proof. -/
theorem completedRuns_return :
    (repairedDraft.Returns 3 .all draftStage fun ended events =>
      ended.state.status = .completed ∧ .formalReviewNotRequired ∉ events ∧
        .reviewerSessionReused ∉ events) ∧
    (reusedSession.Returns 3 .all draftStage fun ended events =>
      ended.state.status = .completed ∧ .formalReviewNotRequired ∉ events ∧
        sessions ended.state = [some "first", some "second", some "third", some "first"]) ∧
    (passedDraft.Returns 3 .all draftStage fun ended events =>
      ended.state.status = .completed ∧ ∀ event ∈ events, event.owes = false) ∧
    unsyncedDraft.Returns 3 .all draftStage fun ended _ =>
      ended.state.status = .completed ∧ ended.state.qualityDebtRefs =
        ["opl://stage-runs/run/quality-debt/attempt-sync%3Aunanswered"] := by
  refine ⟨?_, ?_, ?_, ?_⟩
  · decide +kernel
  · decide +kernel
  · decide +kernel
  · decide +kernel

theorem completed_soundlyReviewed_repaired :
    ∃ ended final, RunsTo 3 .all draftStage ended final ∧ ended.state.status = .completed ∧
      SoundlyReviewed draftStage final.events ended.state := by
  obtain ⟨ended, final, ran, completed, needed, unused⟩ := completedRuns_return.1.exists_run
  exact ⟨ended, final, ran, completed,
    completed_soundlyReviewed (by decide) ran completed needed unused⟩

/-- The last session of a sound run has not been used before. -/
theorem SoundlyReviewed.session_unused {input : StageRunInput} {events : List RunEvent}
    {state : StageRunState} (sound : SoundlyReviewed input events state) :
    ∀ session ∈ (sessions state).getLast?, session ∉ (sessions state).dropLast := by
  obtain ⟨⟨receipt, earlier, review, passed⟩, -⟩ := sound
  have listed : sessions state =
      earlier.map AttemptSummary.executionSessionRef ++ [review.executionSessionRef] := by
    simp [sessions, passed.attempts]
  intro session last used
  rw [listed, List.getLast?_concat, Option.mem_some_iff] at last
  rw [listed, List.dropLast_concat, List.mem_map] at used
  obtain ⟨attempt, before, same⟩ := used
  exact passed.session attempt before (same.trans last.symm)

theorem completed_soundlyReviewed_reusedSession :
    ∃ ended final, RunsTo 3 .all draftStage ended final ∧ ended.state.status = .completed ∧
      .formalReviewNotRequired ∉ final.events ∧
      ¬SoundlyReviewed draftStage final.events ended.state := by
  obtain ⟨ended, final, ran, completed, needed, used⟩ := completedRuns_return.2.1.exists_run
  refine ⟨ended, final, ran, completed, needed, fun sound => ?_⟩
  have unused := sound.session_unused
  rw [used] at unused
  exact unused (some "first") (by decide) (by decide)

section

variable {fuel : Nat} {patches : StageRunPatches} {input : StageRunInput} {ended : StageRunEnd}
  {final : RunWorld}

end

instance (state : StageRunState) (finding : StageQualityFinding) :
    Decidable (Unclosed state finding) := inferInstanceAs (Decidable (_ ∧ _))

/-- Every attempt may hand the work back to the stage before. -/
def planned (script : StageRunScript) : StageRunScript :=
  { script with
    choice request := { script.choice request with
      execution := { (script.choice request).execution with
        declaredStageIds := ["plan", "draft"] } } }

/-- What an attempt reports when it decides on a route. -/
def ChildReport.deciding (report : ChildReport) (kind : String) (target : List String) :
    ChildReport :=
  { report with
    routeImpact := [("stage_route_decision", .object (("decision_kind", .string kind) ::
      ("evidence_refs", .ofStrings ["draft"]) ::
        target.map fun stage => ("target_stage_id", .string stage)))] }

/-- The reviewer sends the stage back instead of asking for a repair. -/
def sentBack : StageRunScript := planned <| draftScript fun
  | .producer => some (draftReport .completed "first" "draft")
  | .reviewer =>
    some ((reviewReport .repairRequired "second" [wording]).deciding "route_back" ["plan"])
  | _ => none

/-- A repair that fails after the review has asked for it. -/
def failedRepair : StageRunScript := draftScript fun
  | .producer => some (draftReport .completed "first" "draft")
  | .reviewer => some (reviewReport .repairRequired "second" [wording])
  | _ => none

theorem indebtedRuns_return :
    (sentBack.Returns 3 .all draftStage fun ended _ =>
      ended.state.status = .completedWithQualityDebt ∧ ended.exit.reports = true ∧
        Unclosed ended.state wording) ∧
    failedRepair.Returns 3 .all draftStage fun ended _ =>
      ended.state.status = .completedWithQualityDebt ∧ Unclosed ended.state wording ∧
        findingDebtRef wording ∉ ended.state.qualityDebtRefs := by
  refine ⟨?_, ?_⟩
  · decide +kernel
  · decide +kernel

/-- The state that a run ends in, also when it fails. -/
def lastState (outcome : Except WorkflowFailure StageRunEnd) (final : RunWorld) : StageRunState :=
  match outcome with
  | .ok ended => ended.state
  | .error _ => final.state

section

variable {state : StageRunState} {events before after : List RunEvent} {attemptRef : String}
  {role : StageQualityAttemptRole} {decision : StageRouteDecision}

theorem not_follows_routeEvaluated {evaluated : Option StageRouteDecision} {decidedRef : String} :
    ¬Follows decidedRef decision (.routeEvaluated attemptRef role evaluated) := by
  rintro (inert | admitted | committed)
  · cases inert
  · cases admitted
  · cases committed

theorem starts_of_follows {event : RunEvent} (follows : Follows attemptRef decision event) :
    event.starts = false := by
  rcases follows with inert | rfl | rfl
  · exact RunEvent.starts_of_inert inert
  · rfl
  · rfl

/-- Nothing but the commit of an accepted decision of a review follows it. -/
theorem RouteLaw.accepted (law : RouteLaw state events) (reviews : role.reviews = true)
    (accepted : events = before ++ .routeEvaluated attemptRef role (some decision) :: after) :
    (∀ event ∈ after, Follows attemptRef decision event) ∧
      (.attemptAdmitted attemptRef ∈ after → Selects attemptRef decision state) := by
  have decides : (RunEvent.routeEvaluated attemptRef role (some decision)).decides = true := by
    simp [RunEvent.decides, reviews]
  have loud : ∀ quiet : List RunEvent, Undecided quiet →
      .routeEvaluated attemptRef role (some decision) ∉ quiet := by
    intro quiet undecided listed
    have silent := undecided _ listed
    rw [decides] at silent
    cases silent
  have listed : .routeEvaluated attemptRef role (some decision) ∈ events := by
    rw [accepted]
    exact List.mem_append_right _ (.head _)
  cases law with
  | undecided quiet => exact absurd listed (loud _ quiet)
  | produced quiet =>
    rcases List.mem_append.1 listed with early | last
    · exact absurd early (loud _ quiet)
    · cases List.mem_singleton.1 last
  | @reviewed _ later _ _ _ quiet follows selects =>
    have once : .routeEvaluated attemptRef role (some decision) ∉ later := fun listed =>
      not_follows_routeEvaluated (follows _ listed)
    obtain ⟨rfl, same, rfl⟩ := (List.append_cons_inj_of_notMem (loud _ quiet) once).1 accepted
    cases same
    exact ⟨follows, selects⟩

/-- All commits are of one decision. -/
theorem RouteLaw.committed (law : RouteLaw state events) {otherRef : String}
    {other : StageRouteDecision} (commits : .routeCommitted attemptRef decision ∈ events)
    (again : .routeCommitted otherRef other ∈ events) :
    otherRef = attemptRef ∧ other = decision := by
  have loud : ∀ quiet : List RunEvent, Undecided quiet → ∀ ref selected,
      .routeCommitted ref selected ∉ quiet := by
    intro quiet undecided ref selected listed
    cases undecided _ listed
  cases law with
  | undecided quiet => exact absurd commits (loud _ quiet _ _)
  | produced quiet =>
    have last := (List.mem_append.1 commits).resolve_left (loud _ quiet _ _)
    have last' := (List.mem_append.1 again).resolve_left (loud _ quiet _ _)
    cases List.mem_singleton.1 last
    cases List.mem_singleton.1 last'
    exact ⟨rfl, rfl⟩
  | @reviewed earlier later decidedRef reviewRole decided quiet follows =>
    have agrees : ∀ {ref selected}, .routeCommitted ref selected ∈
        earlier ++ .routeEvaluated decidedRef reviewRole (some decided) :: later →
        ref = decidedRef ∧ selected = decided := by
      intro ref selected listed
      have later := (List.mem_append.1 listed).resolve_left (loud _ quiet _ _)
      rcases List.mem_cons.1 later with evaluated | later
      · cases evaluated
      · rcases follows _ later with inert | admitted | committed
        · cases inert
        · cases admitted
        · cases committed
          exact ⟨rfl, rfl⟩
    obtain ⟨rfl, rfl⟩ := agrees commits
    exact agrees again

end

/-- Once the route authority accepts the decision of a review, no attempt is
started; unless its attempt stops the run, the run ends with that decision. At
most one decision is committed. -/
theorem acceptedRoute_endsRun {fuel : Nat} {patches : StageRunPatches} {input : StageRunInput}
    {start final : RunWorld} {outcome : Except WorkflowFailure StageRunEnd} (enough : 3 ≤ fuel)
    (fresh : start.Fresh) (routes : patches.Routes)
    (runs : Runs (stageRunMachine input) (stageRunWorkflow fuel patches input) start outcome
      final) :
    (∀ before after attemptRef role decision, role.reviews = true →
      final.events = before ++ .routeEvaluated attemptRef role (some decision) :: after →
        (∀ event ∈ after, event.starts = false) ∧
          (.attemptAdmitted attemptRef ∈ after →
            Selects attemptRef decision (lastState outcome final))) ∧
      ∀ attemptRef decision otherRef other, .routeCommitted attemptRef decision ∈ final.events →
        .routeCommitted otherRef other ∈ final.events → otherRef = attemptRef ∧ other = decision := by
  have leads : Leads (stageRunMachine input) (stageRunWorkflow fuel patches input) start _ _ :=
    stageRunWorkflow_leads enough fresh
  have law : RouteLaw (lastState outcome final) final.events := by
    cases outcome with
    | error failure => exact (leads.of_error runs).route routes
    | ok ended =>
      obtain ⟨run, -, rfl, settles⟩ := leads.of_ok runs
      exact settles.facts.route routes
  refine ⟨fun before after attemptRef role decision reviews accepted => ?_,
    fun attemptRef decision otherRef other commits again => law.committed commits again⟩
  obtain ⟨follows, selects⟩ := law.accepted reviews accepted
  exact ⟨fun event listed => starts_of_follows (follows event listed), selects⟩

def producerRef : String := "opl://stage_attempts/producer"
def reviewerRef : String := "opl://stage_attempts/reviewer"
def repairerRef : String := "opl://stage_attempts/repairer"

/-- What the reviewer decides on when it sends the stage back. -/
def backToPlan : StageRouteDecision := ⟨.routeBack, some "plan", ["draft"]⟩

theorem sentBack_events : sentBack.Returns 3 .all draftStage fun _ events =>
    events = [.attemptStarted producerRef .producer, .routeEvaluated producerRef .producer none,
      .attemptStarted reviewerRef .reviewer,
      .routeEvaluated reviewerRef .reviewer (some backToPlan), .attemptAdmitted reviewerRef,
      .routeCommitted reviewerRef backToPlan, .routeCommitted reviewerRef backToPlan] := by
  decide +kernel

theorem StageRunPatches.all_routes : StageRunPatches.all.Routes := ⟨rfl, rfl⟩

theorem acceptedRoute_endsRun_sentBack :
    ∃ ended final, RunsTo 3 .all draftStage ended final ∧
      .routeEvaluated reviewerRef .reviewer (some backToPlan) ∈ final.events ∧
        Selects reviewerRef backToPlan ended.state := by
  obtain ⟨ended, final, ⟨start, fresh, runs⟩, events⟩ := sentBack_events.exists_run
  have ends := acceptedRoute_endsRun (by decide) fresh StageRunPatches.all_routes runs
  refine ⟨ended, final, ⟨start, fresh, runs⟩, by simp [events], ?_⟩
  exact (ends.1 [.attemptStarted producerRef .producer, .routeEvaluated producerRef .producer none,
    .attemptStarted reviewerRef .reviewer] _ reviewerRef .reviewer backToPlan rfl events).2 (.head _)

/-- A review that decides on a route although its attempt is blocked. -/
def blockedReview : StageRunScript := draftScript fun
  | .producer => some (draftReport .completed "first" "draft")
  | .reviewer =>
    some { (reviewReport .pass "second" []).deciding "complete" [] with status := .blocked }
  | _ => none

/-- A review that decides on a route, and passes a stage with an open finding. -/
def unsoundReview : StageRunScript := draftScript fun
  | .producer => some (draftReport .completed "first" "draft")
  | .reviewer => some ((reviewReport .pass "second" [wording]).deciding "complete" [])
  | _ => none

theorem lostRoutes_return :
    (blockedReview.Returns 3 .all draftStage fun ended events =>
      .routeEvaluated reviewerRef .reviewer (some ⟨.complete, none, ["draft"]⟩) ∈ events ∧
        ended.state.selectedStageRoute = none) ∧
    (sentBack.Returns 3 { StageRunPatches.all with earlyRepairRouteBack := false } draftStage
      fun _ events => [.routeEvaluated reviewerRef .reviewer (some backToPlan),
        .attemptStarted repairerRef .repairer].Sublist events) ∧
    unsoundReview.Returns 3 { StageRunPatches.all with progressFirstHandoff := false } draftStage
      fun ended events => .attemptAdmitted reviewerRef ∈ events ∧
        .routeEvaluated reviewerRef .reviewer (some ⟨.complete, none, ["draft"]⟩) ∈ events ∧
          ended.state.selectedStageRoute = none := by
  refine ⟨?_, ?_, ?_⟩
  · decide +kernel
  · decide +kernel
  · decide +kernel

/-- A stopped attempt selects no route, a run without the route-back patch
repairs what the review has sent back, and one without progress-first hand-offs
loses the route of a review that it then rejects. -/
theorem acceptedRoute_endsRun_blocked :
    (∃ ended final, RunsTo 3 .all draftStage ended final ∧
      .routeEvaluated reviewerRef .reviewer (some ⟨.complete, none, ["draft"]⟩) ∈ final.events ∧
        ended.state.selectedStageRoute = none) ∧
    (∃ ended final,
      RunsTo 3 { StageRunPatches.all with earlyRepairRouteBack := false } draftStage ended final ∧
        [.routeEvaluated reviewerRef .reviewer (some backToPlan),
          .attemptStarted repairerRef .repairer].Sublist final.events) ∧
    ∃ ended final,
      RunsTo 3 { StageRunPatches.all with progressFirstHandoff := false } draftStage ended final ∧
        .attemptAdmitted reviewerRef ∈ final.events ∧
          .routeEvaluated reviewerRef .reviewer (some ⟨.complete, none, ["draft"]⟩) ∈
            final.events ∧
          ended.state.selectedStageRoute = none :=
  ⟨lostRoutes_return.1.exists_run, lostRoutes_return.2.1.exists_run,
    lostRoutes_return.2.2.exists_run⟩

end OnePersonLab.Stage

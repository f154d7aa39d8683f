import OnePersonLab.Evolution.Generations
import OnePersonLab.Evolution.TerminalReadback
import OnePersonLab.Evolution.KernelRequests

/-!
# Every run settles

A step of a run on its own, where the stores and the clock are up, takes the run
one event further whatever the designer, the compiler and the evaluator do: by
the event of its stage, or by the event that ends the run after a failure. Only
a failure that the step hands on to its caller leaves the run where it was. The
log of a run is shorter than the transition loop is long, so the loop ends with
the run at rest or hands a failure on.
-/

namespace OnePersonLab.Evolution.Kernel

open Contract Lib

variable {kernel : FoundryKernel} {world final : World} {request : DesignRequest} {α : Type}
  {events log : List FoundryRunEvent} {run : FoundryRunSnapshot}
  {inspection : FoundryRunInspection} {transition : TransitionInput} {runId : String}

/-! ## Runs on their own -/

/-- Stores and clock are up, and the digests of registered versions do not collide. -/
def settlingMachine (kernel : FoundryKernel) : Machine kernelInterface World :=
  fun world request after answer =>
    Serves kernel.platform world request after answer ∧ VersionsDistinct kernel.platform after

abbrev RunsAlone (kernel : FoundryKernel) (program : KernelProgram α) (world : World)
    (outcome : Except Failure α) (final : World) : Prop :=
  Runs (settlingMachine kernel) program world outcome final

section Alone

variable {program : KernelProgram α} {outcome : Except Failure α}

theorem serving_of_alone (alone : RunsAlone kernel program world outcome final) :
    Runs (servingMachine kernel.platform) program world outcome final :=
  alone.mono And.left

theorem performing_of_alone (alone : RunsAlone kernel program world outcome final) :
    Runs (kernelMachine kernel.platform) program world outcome final :=
  alone.mono fun performed => performed.1.performs

theorem distinct_of_alone (distinct : VersionsDistinct kernel.platform world)
    (alone : RunsAlone kernel program world outcome final) :
    VersionsDistinct kernel.platform final := by
  induction alone with
  | done => exact distinct
  | request performed _ ih => exact ih performed.2

end Alone

theorem VersionsDistinct.before (later : Later kernel world final)
    (distinct : VersionsDistinct kernel.platform final) : VersionsDistinct kernel.platform world :=
  fun targetAgentId targetDomainId version listed other listed' =>
    distinct targetAgentId targetDomainId
      version ((later.extends_.versions targetAgentId targetDomainId).subset listed)
      other ((later.extends_.versions targetAgentId targetDomainId).subset listed')

/-- Distinct at the end, distinct all the way. -/
theorem alone_of_serving {program : KernelProgram α} {outcome : Except Failure α}
    {facts : α → World → Prop} (guaranteed : Guarantees kernel facts program world)
    (invariant : KernelInvariant kernel world)
    (served : Runs (servingMachine kernel.platform) program world outcome final)
    (distinct : VersionsDistinct kernel.platform final) :
    VersionsDistinct kernel.platform world ∧ RunsAlone kernel program world outcome final :=
  have performed := served.mono Serves.performs
  ⟨VersionsDistinct.before (guaranteed.runs invariant performed).1 distinct,
    (guaranteed.safe invariant).runs_below Serves.performs VersionsDistinct.before invariant served
      distinct⟩

/-- Alone, an inspection finds the log as it is. -/
theorem alone_inspectRun {outcome : Except Failure FoundryRunInspection}
    (invariant : KernelInvariant kernel world) (distinct : VersionsDistinct kernel.platform world)
    (recorded : world.events.runs runId = some log)
    (alone : RunsAlone kernel (inspectRun kernel runId) world outcome final) :
    final = world ∧ ∃ inspection, outcome = .ok inspection ∧ inspection.run.runId = runId ∧
      Known kernel world log inspection := by
  have unchanged : final = world :=
    Runs.same_of_only id (fun reads performed => serves_reads reads performed.1)
      only_inspectRun alone
  obtain ⟨inspection, returned, -⟩ :=
    (succeeds_inspectRun recorded).runs ⟨invariant, distinct⟩ (serving_of_alone alone)
  obtain ⟨-, facts⟩ := guarantees_inspectRun.runs invariant (performing_of_alone alone)
  obtain ⟨events, seen⟩ := facts inspection returned
  subst unchanged
  refine ⟨rfl, inspection, returned, seen.named, ?_⟩
  obtain ⟨log', recorded', within⟩ := seen.inspected.recorded
  rw [seen.named, recorded, Option.some.injEq] at recorded'
  subst recorded'
  have same : events = log := within.eq_of_length_le (seen.recent log recorded).length_le
  exact same ▸ seen.toKnown

/-! ## The event that ends a run after a failure -/

theorem Verified.named {platform : Platform} (verified : Verified platform events)
    {event : FoundryRunEvent} (listed : event ∈ events) : trim event.runId ≠ "" := by
  induction verified using Verified.log_induction with
  | opening only follows => exact List.mem_singleton.1 listed ▸ follows.named
  | further events next verified follows ih =>
    rcases List.mem_append.1 listed with early | late
    · exact ih early
    · exact List.mem_singleton.1 late ▸ follows.named

/-- The phases of the events that leave a run going. -/
def stagePhases : List String :=
  ["accepted", "design", "blueprint", "materialize", "evaluate", "canary", "diagnose", "evolve",
    "qualification_route", "owner_approve"]

/-- An event key of the run and the generation, with a phase of its own. -/
structure StageKey (runId key : String) : Prop where
  shape : ∃ (generation : Nat) (phase digest : String), phase ∈ stagePhases ∧
    key = s!"{runId}/{generation}/{phase}/{digest}"

theorem blueprintAdmitted_phase {blueprint : AgentBlueprint} {blueprintDigest : String}
    {previous : Option AgentBlueprint}
    (admitted : blueprintAdmitted kernel run blueprintDigest previous blueprint = .ok transition) :
    transition.phase = "blueprint" := by
  cases previous <;>
    simp only [blueprintAdmitted, bind_eq_ok, pure_eq_ok] at admitted <;>
    obtain ⟨_, -, rfl⟩ := admitted <;>
    rfl

theorem Justified.phase (justified : Justified kernel world inspection transition)
    (running : transition.toState.terminal = false) : transition.phase ∈ stagePhases := by
  cases justified with
  | blueprintAdmitted _ _ _ _ _ admitted =>
    rw [blueprintAdmitted_phase admitted]
    decide
  | @evaluationRejected _ _ canary => cases canary <;> exact List.mem_of_elem_eq_true rfl
  | qualificationRouted =>
    unfold Kernel.qualificationRouted at running ⊢
    split at running
    · cases running
    · split <;> exact List.mem_of_elem_eq_true rfl
  | @ownerDecided canary decision =>
    cases decision with
    | approve => exact List.mem_of_elem_eq_true rfl
    | reject => cases running
  | evolutionNoChange | activationCompleted | runCancelled | quarantined | failed => cases running
  | _ => exact List.mem_of_elem_eq_true rfl

/-- An event after which another one was appended left the run going. -/
theorem KernelLog.stageKey (written : KernelLog kernel world request events)
    (snapshot : IsSnapshot events run) (running : run.state.terminal = false) :
    ∀ event ∈ events, StageKey run.runId event.idempotencyKey := by
  induction written generalizing run with
  | @accepted runId requestDigest activation occurredAt admitted follows =>
    intro event listed
    obtain rfl := List.mem_singleton.1 listed
    obtain ⟨last, ends, named, -⟩ := snapshot.last
    obtain rfl : acceptanceEvent kernel runId request requestDigest activation occurredAt = last := by
      simpa using ends
    rw [named]
    refine ⟨0, "accepted", requestDigest, by decide, String.toList_injective ?_⟩
    have spelled : "/0/accepted/".toList = "/".toList ++ "0".toList ++ "/".toList ++
        "accepted".toList ++ "/".toList := by decide +kernel
    simp [acceptanceEvent, sealEvent, acceptanceInput, toString, spelled]
  | @appended events inspection transition occurredAt earlier snapshot' same justified follows ih =>
    obtain rfl := snapshot.unique (snapshot'.append _)
    obtain ⟨last, ends, -, state, -⟩ := snapshot'.last
    have before : inspection.run.state.terminal = false := by
      by_contra ended
      have allowed := (follows.allowed ends).1
      rw [← state, FoundryRunState.allowedTransitions_of_terminal (by simpa using ended)] at allowed
      cases allowed
    intro event listed
    rcases List.mem_append.1 listed with early | late
    · exact ih snapshot' before event early
    · obtain rfl := List.mem_singleton.1 late
      exact ⟨inspection.run.generation, transition.phase, transition.inputDigest,
        justified.phase running, rfl⟩

/-- The phases of the events that end a run after a failure. -/
def failurePhases : List String := ["quarantine", "failure"]

theorem separator_notMem_toString (generation : Nat) : '/' ∉ (toString generation).toList :=
  fun listed => absurd (isDigit_of_mem_toString listed) (by decide)

theorem separator_notMem_phase : ∀ phase ∈ stagePhases ++ failurePhases, '/' ∉ phase.toList := by
  decide +kernel

/-- The event that ends a run after a failure has a key of its own. -/
theorem StageKey.fresh {key : String} (staged : StageKey runId key) {generation : Nat}
    {phase digest : String} (failing : phase ∈ failurePhases) :
    key ≠ s!"{runId}/{generation}/{phase}/{digest}" := by
  rintro rfl
  obtain ⟨generation', phase', digest', listed, same⟩ := staged
  have characters : (toString generation).toList ++ '/' :: (phase.toList ++ '/' :: digest.toList) =
      (toString generation').toList ++ '/' :: (phase'.toList ++ '/' :: digest'.toList) := by
    have slash : "/".toList = ['/'] := by decide +kernel
    simpa [toString, slash] using congrArg String.toList same
  have rest := (append_cons_inj_of_first (separator_notMem_toString generation)
    (separator_notMem_toString generation') characters).2
  have phases := (append_cons_inj_of_first
    (separator_notMem_phase phase (List.mem_append_right _ failing))
    (separator_notMem_phase phase' (List.mem_append_left _ listed)) rest).1
  obtain rfl := String.toList_injective phases
  have apart : ∀ phase ∈ failurePhases, phase ∉ stagePhases := by decide
  exact apart phase failing listed

/-- A transition that ends a run after a failure. -/
structure EndsFailing (transition : TransitionInput) : Prop where
  ends : transition.toState = .failed ∨ transition.toState = .quarantined
  typed : transition.toState.genericTerminalType = some transition.eventType
  phase : transition.phase ∈ failurePhases

section

variable {platform : Platform}

theorem endsFailing_quarantined (inputDigest : String) (failure : Failure) :
    EndsFailing (quarantinedTransition inputDigest failure) :=
  ⟨.inr rfl, rfl, List.mem_of_elem_eq_true rfl⟩

theorem endsFailing_failed (inputDigest failureCode failureMessage : String) :
    EndsFailing (failedTransition inputDigest failureCode failureMessage) :=
  ⟨.inl rfl, rfl, List.mem_of_elem_eq_true rfl⟩

theorem failing_allowed (state : FoundryRunState) (advances : pauses state = false) :
    .failed ∈ state.allowedTransitions ∧ .quarantined ∈ state.allowedTransitions := by
  revert advances
  cases state <;> decide

theorem EndsFailing.allowed (ending : EndsFailing transition) {state : FoundryRunState}
    (advances : pauses state = false) : transition.toState ∈ state.allowedTransitions := by
  obtain ⟨failed, quarantined⟩ := failing_allowed state advances
  rcases ending.ends with ends | ends <;> rwa [ends]

theorem EndsFailing.named (ending : EndsFailing transition) : trim transition.eventType ≠ "" := by
  have typed := ending.typed
  rcases ending.ends with ends | ends <;>
    rw [ends, FoundryRunState.genericTerminalType, Option.some.injEq] at typed <;>
    rw [← typed] <;> decide +kernel

/-- Where a run can be advanced, it can be ended after a failure. -/
theorem EndsFailing.follows (ending : EndsFailing transition)
    (known : Known kernel world log inspection) (advances : pauses inspection.run.state = false)
    {occurredAt : String}
    (timed : (kernel.platform.dateParse occurredAt).map kernel.platform.toISOString = some occurredAt) :
    EventFollows kernel.platform log (transitionEvent kernel inspection transition occurredAt) := by
  have written := known.log
  have snapshot := known.inspected.snapshot
  obtain ⟨last, ends, named, state, revision, hash⟩ := snapshot.last
  have running : inspection.run.state.terminal = false := by
    simpa [pauses] using (Bool.or_eq_false_iff.1 advances).1
  have short := written.length_le
  have length := snapshot.revision_eq written.verified
  exact {
    named := by
      have named' := Verified.named written.verified (List.mem_of_getLast? ends)
      rwa [← named] at named'
    sameRun := by
      rintro previous before
      obtain rfl : last = previous := by simpa [ends] using before
      exact named
    canonicalId := rfl
    safeRevision := by
      change inspection.run.revision + 1 ≤ maxSafeInteger
      have : 46 ≤ maxSafeInteger := by decide
      omega
    typed := ending.named
    keyed := by
      have slash : "/".toList = ['/'] := by decide +kernel
      refine trim_ne_empty_of_mem (c := '/') ?_ (by decide)
      simp [transitionEvent, sealEvent, transitionEventInput, toString, slash]
    timed
    contiguous := by
      change inspection.run.revision + 1 = _
      simp [ends, revision]
    linked := by
      change some inspection.run.lastEventHash = _
      simp [ends, hash]
    hashed := rfl
    fresh := by
      intro listed
      obtain ⟨event, listed, same⟩ := List.mem_map.1 listed
      exact (written.stageKey snapshot running event listed).fresh ending.phase same
    fromHistory := by
      change some inspection.run.state = _
      simp [ends, state]
    transition := by
      simp only [assertFoundryEventTransition, assertFoundryTransition, transitionEvent, sealEvent,
        transitionEventInput, bind_eq_ok]
      exact ⟨(), ensure_true (ending.allowed advances) _, ensure_true (.inl ending.typed) _⟩
    accepted := fun empty => absurd empty snapshot.ne_nil }

/-- An append at the end of a log is carried out. -/
theorem EventStore.append_ok {store : EventStore} (input : AppendInput)
    (recorded : store.runs input.event.runId = some log) (verified : Verified platform log)
    (current : log.getLast?.map FoundryRunEvent.revision = some input.expectedRevision)
    (follows : EventFollows platform log input.event) :
    ∃ changed, store.append platform input = .ok (changed, input.event) := by
  have new : replayOf log input.event.idempotencyKey = none := by
    refine List.find?_eq_none.2 fun entry listed same => ?_
    exact follows.fresh (List.mem_map.2 ⟨entry, listed, by simpa using same⟩)
  have longer : verifyFoundryEventChain platform (log ++ [input.event]) = .ok () :=
    verified_append.2 ⟨fun _ => verified, follows⟩
  unfold EventStore.append
  simp only [recorded, new, ensure_true current, longer]
  exact ⟨_, rfl⟩

theorem serves_now {after : World} {answer : Except Failure (KernelResponse .now)}
    (served : Serves platform world .now after answer) :
    after = world ∧ ∃ instant, answer = .ok instant ∧
      (platform.dateParse instant).map platform.toISOString = some instant := by
  cases served with
  | served done => cases done
  | answered _ _ reliable =>
    cases answer with
    | ok instant => exact ⟨rfl, instant, rfl, reliable⟩
    | error failure => exact reliable.elim

theorem serves_appendEvent {after : World} {input : AppendInput}
    {answer : Except Failure (KernelResponse (.appendEvent input))} {changed : EventStore}
    {event : FoundryRunEvent} (appends : world.events.append platform input = .ok (changed, event))
    (served : Serves platform world (.appendEvent input) after answer) : answer = .ok event := by
  cases served with
  | served done =>
    simp only [World.serve, World.attempt, appends, Option.some.injEq, Prod.mk.injEq] at done
    exact done.2.symm
  | answered unserved => cases unserved

/-- Alone, the event that ends a run after a failure is appended. -/
theorem alone_append {outcome : Except Failure FoundryRunEvent}
    (known : Known kernel world log inspection)
    (recorded : world.events.runs inspection.run.runId = some log)
    (advances : pauses inspection.run.state = false) (ending : EndsFailing transition)
    (alone : RunsAlone kernel (append kernel inspection transition) world outcome final) :
    ∃ event, outcome = .ok event := by
  rcases runs_bind.1 alone with ⟨occurredAt, _, ticked, rest⟩ | ⟨failure, failed, -⟩
  · obtain ⟨rfl, _, same, timed⟩ := serves_now (runs_call.1 ticked).1
    obtain rfl := Except.ok.inj same
    have follows := ending.follows known advances timed
    have snapshot := known.inspected.snapshot
    obtain ⟨last, ends, -, -, revision, -⟩ := snapshot.last
    have built : buildFoundryEvent kernel.platform
        (transitionEventInput inspection.run transition occurredAt) =
          .ok (transitionEvent kernel inspection transition occurredAt) := by
      simp only [buildFoundryEvent, transitionEventInput, bind_eq_ok, assertFoundryTransition]
      exact ⟨(), ensure_true (ending.allowed advances) _, rfl⟩
    simp only [built] at rest
    obtain ⟨changed, appends⟩ := EventStore.append_ok {
        targetKey := targetKey inspection.request.targetAgentId inspection.request.targetDomainId
        expectedRevision := inspection.run.revision
        event := transitionEvent kernel inspection transition occurredAt }
      recorded known.log.verified (by rw [ends, revision]; rfl) follows
    exact ⟨_, serves_appendEvent appends (runs_call.1 rest).1⟩
  · obtain ⟨-, instant, same, -⟩ := serves_now (runs_call.1 failed).1
    cases same

theorem cleanText_state (state : FoundryRunState) : cleanText state.text = true := by
  cases state <;> decide +kernel

/-- The identity of a failure repeats texts that the request was admitted with. -/
theorem pure_failureIdentity (run : FoundryRunSnapshot)
    (pure : scanForbidden request.toJson [] = []) {errorKind : String} (clean : cleanText errorKind = true) :
    scanForbidden (failureIdentity request run errorKind) [] = [] := by
  have surface : forbiddenField "surface_kind" = false := by decide +kernel
  have kind : forbiddenField "error_kind" = false := by decide +kernel
  have state : forbiddenField "state" = false := by decide +kernel
  have named : cleanText "opl_foundry_failure_identity" = true := by decide +kernel
  simp only [DesignRequest.toJson, scanForbidden, scanFields, List.cons_append,
    List.append_eq_nil_iff] at pure
  obtain ⟨-, -, -, -, agent, domain, version, -⟩ := pure
  simp only [failureIdentity, scanForbidden, scanFields, List.append_eq_nil_iff, surface, kind,
    state, Bool.false_eq_true, if_false, scanText_of_clean named, scanText_of_clean clean,
    scanText_of_clean (cleanText_state run.state), and_true, true_and]
  exact ⟨agent, domain, version⟩

end

/-! ## Steps on their own -/

/-- The failures that a step hands on to its caller. -/
def HandsOn (kernel : FoundryKernel) (failure : Failure) : Prop :=
  (∃ operationKey, failure = .operationResultUnavailable operationKey) ∨
    kernel.propagateTransientActivityFailures = true ∧ failure.isTransient = true

section

variable {failure : Failure} {options : FoundryAdvanceRunStepOptions}

/-- Alone, a run that can be advanced can be ended after a failure. -/
theorem alone_terminateAfterFailure {outcome : Except Failure Unit}
    (invariant : KernelInvariant kernel world) (distinct : VersionsDistinct kernel.platform world)
    (known : Known kernel world log inspection)
    (recorded : world.events.runs inspection.run.runId = some log)
    (advances : pauses inspection.run.state = false)
    (alone : RunsAlone kernel (terminateAfterFailure kernel inspection failure) world outcome final)
    :
    outcome = .ok () := by
  rcases runs_bind.1 alone with ⟨latest, after, inspected, rest⟩ | ⟨_, failed, -⟩
  · obtain ⟨rfl, _, returned, named, newest⟩ :=
      alone_inspectRun invariant distinct recorded inspected
    obtain rfl := Except.ok.inj returned
    have same : latest.run = inspection.run :=
      newest.inspected.snapshot.unique known.inspected.snapshot
    rw [← same] at advances recorded
    have running : latest.run.state.terminal = false := (Bool.or_eq_false_iff.1 advances).1
    simp only [running, Bool.false_eq_true, if_false] at rest
    have clean : cleanText (if failure.isContract then "contract" else "runtime") = true := by
      split <;> decide +kernel
    have digested : foundryContentDigest kernel.platform _ = .ok _ := foundryContentDigest_eq_ok.2
      ⟨pure_failureIdentity latest.run newest.identity.pure clean, rfl⟩
    rcases runs_bind.1 rest with ⟨inputDigest, _, checked, onward⟩ | ⟨_, checked, -⟩
    · obtain ⟨-, rfl⟩ := runs_done.1 checked
      have ending : EndsFailing (if failure.isContract then quarantinedTransition inputDigest failure
          else failedTransition inputDigest failure.code failure.message) := by
        split
        · exact endsFailing_quarantined inputDigest failure
        · exact endsFailing_failed inputDigest failure.code failure.message
      rcases runs_bind.1 onward with ⟨_, _, -, done⟩ | ⟨_, failed, -⟩
      · exact (runs_done.1 done).1
      · obtain ⟨_, appended⟩ := alone_append newest recorded advances ending failed
        cases appended
    · cases (runs_done.1 checked).1.trans digested
  · obtain ⟨-, _, returned, -⟩ := alone_inspectRun invariant distinct recorded failed
    cases returned

/-- Alone, a step that fails leaves the events as they were. -/
theorem events_of_failed
    (alone : RunsAlone kernel (advanceOne kernel inspection options) world (.error failure) final) :
    final.events = world.events :=
  Runs.same_of_failed World.events (fun silent performed => serves_events silent performed.1)
    (fun performed => serves_refused performed.1) appendsLast_advanceOne alone

/-- Advancing a run, or ending it where that fails. -/
theorem guarantees_advanceOrEnd (known : Known kernel world events inspection)
    (running : inspection.run.state.terminal = false) :
    Guarantees kernel (fun _ after => MovedOn inspection after)
      (((fun _ => ()) <$> advanceOne kernel inspection options).tryCatch fun failure =>
        match failure with
        | .operationResultUnavailable _ => throwFailure failure
        | _ =>
          if kernel.propagateTransientActivityFailures && failure.isTransient then throwFailure failure
          else terminateAfterFailure kernel inspection failure) world := by
  have advanced : Guarantees kernel (fun _ after => MovedOn inspection after)
      ((fun _ => ()) <$> advanceOne kernel inspection options) world :=
    (guarantees_advanceOne known).map fun _ _ _ moved => moved
  refine Ensures.tryCatch advanced fun failure _ moved => ?_
  split
  · exact guarantees_throw _
  · split
    · exact guarantees_throw _
    · exact guarantees_terminateAfterFailure (known.extend moved.extends_) running

/-- Alone, a step returns or hands on a failure. -/
theorem alone_advanceRunStep (invariant : KernelInvariant kernel world)
    (distinct : VersionsDistinct kernel.platform world)
    (recorded : world.events.runs runId = some log)
    (alone : RunsAlone kernel (advanceRunStep kernel runId options) world (.error failure) final) :
    HandsOn kernel failure := by
  rcases runs_bind.1 alone with ⟨inspection, after, inspected, rest⟩ | ⟨_, failed, -⟩
  · obtain ⟨rfl, _, returned, named, known⟩ :=
      alone_inspectRun invariant distinct recorded inspected
    obtain rfl := Except.ok.inj returned
    split at rest
    · cases (runs_done.1 rest).1
    · rename_i advancing
      have advances : pauses inspection.run.state = false := by simpa using advancing
      rcases runs_bind.1 rest with ⟨_, later, stepped, inspected'⟩ | ⟨_, failed, same⟩
      · have running : inspection.run.state.terminal = false := (Bool.or_eq_false_iff.1 advances).1
        have moved := ((guarantees_advanceOrEnd known running).runs invariant
          (performing_of_alone stepped)).1
        obtain ⟨longer, recorded', -⟩ := moved.extends_.runs recorded
        obtain ⟨-, _, returned, -⟩ := alone_inspectRun moved.invariant
          (distinct_of_alone distinct stepped) recorded' inspected'
        cases returned
      · obtain rfl := Except.error.inj same
        rcases runs_tryCatch.1 failed with ⟨_, -, returned⟩ | ⟨cause, middle, failed', handled⟩
        · cases returned
        obtain ⟨outcome, advanced, unadvanced⟩ := runs_map.1 failed'
        obtain rfl : outcome = .error cause := by
          cases outcome with
          | ok => cases unadvanced
          | error => exact congrArg Except.error (Except.error.inj unadvanced).symm
        split at handled
        · obtain rfl := Except.error.inj (runs_done.1 handled).1
          exact .inl ⟨_, rfl⟩
        · split at handled
          · rename_i transient
            obtain rfl := Except.error.inj (runs_done.1 handled).1
            exact .inr (Bool.and_eq_true_iff.1 transient)
          · have moved := ((guarantees_advanceOne known).runs invariant
              (performing_of_alone advanced)).1
            have unmoved := events_of_failed advanced
            cases alone_terminateAfterFailure moved.invariant (distinct_of_alone distinct advanced)
              (known.extend moved.extends_) (by rw [unmoved, named]; exact recorded) advances handled
  · obtain ⟨-, _, returned, -⟩ := alone_inspectRun invariant distinct recorded failed
    cases returned

/-- Alone, the loop ends with the run at rest or hands on a failure, unless the
log can still outgrow what remains of it. -/
theorem alone_advanceTransitions {remaining : Nat} {outcome : Except Failure FoundryRunInspection}
    (invariant : KernelInvariant kernel world) (distinct : VersionsDistinct kernel.platform world)
    (recorded : world.events.runs runId = some log) (enough : 45 < log.length + remaining)
    (alone : RunsAlone kernel (advanceTransitions kernel runId remaining) world outcome final) :
    (∃ inspection, outcome = .ok inspection ∧ pauses inspection.run.state = true) ∨
      ∃ failure, outcome = .error failure ∧ HandsOn kernel failure := by
  induction remaining generalizing world log with
  | zero =>
    obtain ⟨-, request, written⟩ := invariant.logs runId log recorded
    exact absurd written.length_le (by omega)
  | succ remaining ih =>
    rcases runs_bind.1 alone with ⟨inspection, after, inspected, rest⟩ | ⟨_, failed, -⟩
    · obtain ⟨rfl, _, returned, named, known⟩ :=
        alone_inspectRun invariant distinct recorded inspected
      obtain rfl := Except.ok.inj returned
      split at rest
      · rename_i pausing
        exact .inl ⟨inspection, (runs_done.1 rest).1, pausing⟩
      · rename_i advancing
        have advances : pauses inspection.run.state = false := by simpa using advancing
        rcases runs_bind.1 rest with ⟨latest, later, stepped, onward⟩ | ⟨failure, failed, same⟩
        · obtain ⟨moved, facts⟩ := guarantees_advanceRunStep.runs invariant
            (performing_of_alone stepped)
          obtain ⟨longer, recorded', past⟩ := facts latest rfl log inspection known named advances
          have length := known.inspected.snapshot.revision_eq known.log.verified
          exact ih moved.invariant (distinct_of_alone distinct stepped) (named ▸ recorded')
            (by omega) onward
        · exact .inr ⟨failure, same, alone_advanceRunStep invariant distinct recorded failed⟩
    · obtain ⟨-, _, returned, -⟩ := alone_inspectRun invariant distinct recorded failed
      cases returned

/-- Alone, a step that returns takes the run further, or leaves it at rest. -/
theorem alone_advanced {latest : FoundryRunInspection} (invariant : KernelInvariant kernel world)
    (distinct : VersionsDistinct kernel.platform world)
    (recorded : world.events.runs runId = some log)
    (alone : RunsAlone kernel (advanceRunStep kernel runId options) world (.ok latest) final) :
    ∃ run log', IsSnapshot log run ∧ final.events.runs runId = some log' ∧
      if pauses run.state then log' = log else log.length < log'.length := by
  obtain ⟨-, facts⟩ := guarantees_advanceRunStep.runs invariant (performing_of_alone alone)
  rcases runs_bind.1 alone with ⟨inspection, after, inspected, rest⟩ | ⟨_, -, impossible⟩
  · obtain ⟨rfl, _, returned, named, known⟩ :=
      alone_inspectRun invariant distinct recorded inspected
    obtain rfl := Except.ok.inj returned
    split at rest
    · rename_i pausing
      obtain ⟨-, rfl⟩ := runs_done.1 rest
      exact ⟨inspection.run, log, known.inspected.snapshot, recorded, by rw [if_pos pausing]⟩
    · rename_i advancing
      have advances : pauses inspection.run.state = false := by simpa using advancing
      obtain ⟨longer, recorded', past⟩ := facts latest rfl log inspection known named advances
      rw [known.inspected.snapshot.revision_eq known.log.verified] at past
      exact ⟨inspection.run, longer, known.inspected.snapshot, named ▸ recorded',
        by rwa [if_neg advancing]⟩
  · cases impossible

end

/-- The worlds that so many steps of a run lead to, each step on its own. -/
inductive Advances (kernel : FoundryKernel) (runId : String) (start : World) : Nat → World → Prop where
  | start : Advances kernel runId start 0 start
  | step {count : Nat} {before after : World} {options : FoundryAdvanceRunStepOptions}
    {inspection : FoundryRunInspection} : Advances kernel runId start count before →
    Runs (servingMachine kernel.platform) (advanceRunStep kernel runId options) before
      (.ok inspection) after →
    Advances kernel runId start (count + 1) after

theorem Advances.invariant {count : Nat} (advances : Advances kernel runId world count final)
    (invariant : KernelInvariant kernel world) : KernelInvariant kernel final := by
  induction advances with
  | start => exact invariant
  | step _ served ih =>
    exact (guarantees_advanceRunStep.runs ih (served.mono Serves.performs)).1.invariant

/-- So many steps take a run as many events further, unless it comes to rest. -/
theorem Advances.further {count : Nat} (advances : Advances kernel runId world count final)
    (invariant : KernelInvariant kernel world) (distinct : VersionsDistinct kernel.platform final)
    (recorded : world.events.runs runId = some log) :
    ∃ log', final.events.runs runId = some log' ∧
      (log.length + count ≤ log'.length ∨ ∃ run, IsSnapshot log' run ∧ pauses run.state = true) := by
  induction advances with
  | start => exact ⟨log, recorded, .inl le_rfl⟩
  | step earlier served ih =>
    have kept := earlier.invariant invariant
    obtain ⟨distinct', alone⟩ := alone_of_serving guarantees_advanceRunStep kept served distinct
    obtain ⟨middle, recorded', progress⟩ := ih distinct'
    obtain ⟨run, longer, snapshot, recorded'', onward⟩ :=
      alone_advanced kept distinct' recorded' alone
    refine ⟨longer, recorded'', ?_⟩
    split at onward
    · rename_i pausing
      exact .inr ⟨run, onward ▸ snapshot, pausing⟩
    · rename_i advancing
      rcases progress with enough | ⟨other, snapshot', pausing⟩
      · exact .inl (by omega)
      · exact absurd (snapshot.unique snapshot' ▸ pausing) advancing

/-! ## The limit of the loop -/

/-- The loop of `advanceUntilPause` with another program for its failure at the limit. -/
def transitionsOr (kernel : FoundryKernel) (runId : String)
    (atLimit : KernelProgram FoundryRunInspection) : Nat → KernelProgram FoundryRunInspection
  | 0 => atLimit
  | remaining + 1 => do
    let inspection ← inspectRun kernel runId
    if pauses inspection.run.state then return inspection
    let _ ← advanceRunStep kernel runId {}
    transitionsOr kernel runId atLimit remaining

theorem advanceTransitions_eq (remaining : Nat) : advanceTransitions kernel runId remaining =
    transitionsOr kernel runId (reject "FoundryRun exceeded the bounded transition loop.")
      remaining := by
  induction remaining with
  | zero => rfl
  | succ remaining ih => simp only [advanceTransitions, transitionsOr, ih]

/-- Whatever stands at the limit, in any company the loop returns a run at rest: the
limit is out of reach of a log. -/
theorem guarantees_transitionsOr {atLimit : KernelProgram FoundryRunInspection}
    {remaining reached : Nat} (recorded : reached ≤ (world.events.read runId).length)
    (enough : 45 < reached + remaining) :
    Guarantees kernel (fun inspection _ => pauses inspection.run.state = true)
      (transitionsOr kernel runId atLimit remaining) world := by
  induction remaining generalizing world reached with
  | zero =>
    refine Ensures.of_invariant fun invariant => ?_
    exfalso
    cases found : world.events.runs runId with
    | none =>
      simp only [EventStore.read, found, Option.getD_none, List.length_nil] at recorded
      omega
    | some log =>
      obtain ⟨-, request, written⟩ := invariant.logs runId log found
      have short := written.length_le
      simp only [EventStore.read, found, Option.getD_some] at recorded
      omega
  | succ remaining ih =>
    refine guarantees_inspectRun.bind ?_
    rintro inspection after moved ⟨events, seen⟩
    split
    · rename_i pausing
      exact Ensures.pure fun _ => pausing
    · rename_i advancing
      have advances : pauses inspection.run.state = false := by simpa using advancing
      refine guarantees_advanceRunStep.bind fun _ later _ facts => ?_
      obtain ⟨longer, recorded', past⟩ := facts events inspection seen.toKnown seen.named advances
      rw [seen.inspected.snapshot.revision_eq seen.log.verified] at past
      have grown : reached ≤ events.length := by
        cases found : world.events.runs runId with
        | none =>
          simp only [EventStore.read, found, Option.getD_none, List.length_nil] at recorded
          omega
        | some log =>
          simp only [EventStore.read, found, Option.getD_some] at recorded
          exact recorded.trans (seen.recent log found).length_le
      have further : reached + 1 ≤ (later.events.read runId).length := by
        rw [seen.named] at recorded'
        simp only [EventStore.read, recorded', Option.getD_some]
        omega
      exact ih further (by omega)

/-! ## Every run settles -/

/-- A run on record, each step of it on its own with the stores and the clock up. -/
structure RunSettles (kernel : FoundryKernel) (world : World) (runId : String)
    (log : List FoundryRunEvent) : Prop where
  /-- A step that does not return hands a failure on. -/
  handsOn : ∀ options failure final,
    Runs (servingMachine kernel.platform) (advanceRunStep kernel runId options) world
      (.error failure) final →
    VersionsDistinct kernel.platform final → HandsOn kernel failure
  /-- Fewer steps that return than the limit allows bring the run to rest. -/
  repeated : ∀ count final, Advances kernel runId world count final → 45 ≤ count →
    VersionsDistinct kernel.platform final →
    ∃ run, snapshotFromEvents kernel.platform (final.events.read runId) = .ok run ∧
      pauses run.state = true
  untilPause : ∀ outcome final,
    Runs (servingMachine kernel.platform) (advanceUntilPause kernel runId) world outcome final →
    VersionsDistinct kernel.platform final →
    (∃ inspection, outcome = .ok inspection ∧ pauses inspection.run.state = true) ∨
      ∃ failure, outcome = .error failure ∧ HandsOn kernel failure
  /-- Whatever the loop would do at its limit, and whatever happens in between, it
  returns a run at rest. -/
  withinLimit : ∀ atLimit,
    Guarantees kernel (fun inspection _ => pauses inspection.run.state = true)
      (transitionsOr kernel runId atLimit 64) world
  nextGeneration : ∀ index run after,
    snapshotFromEvents kernel.platform (log.take index) = .ok run →
    snapshotFromEvents kernel.platform (log.take (index + 1)) = .ok after →
    run.state = .diagnosing → after.state = .materializing → run.generation < after.generation
  bounded : ∀ index run request,
    snapshotFromEvents kernel.platform (log.take index) = .ok run →
    world.objects run.requestDigest = some (.request request) →
    run.generation ≤ request.deliveryPolicy.maxGenerations

def RunsSettle (kernel : FoundryKernel) (world : World) : Prop :=
  ∀ runId log, world.events.runs runId = some log → RunSettles kernel world runId log

/-- A step of the run where every port outside the stores is down. -/
def stepDown (world : World) : World :=
  ((advanceRunStep propagatingKernel "run" {}).run serveAlone world).1

end OnePersonLab.Evolution.Kernel

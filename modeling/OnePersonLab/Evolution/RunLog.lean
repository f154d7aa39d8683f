import Mathlib.Data.List.Induction
import OnePersonLab.Evolution.StateMachine

/-!
# Verified logs

What the chain check says of one more event, and how the snapshot moves with it.
-/

namespace OnePersonLab.Evolution

open Contract

/-! ## One more event -/

/-- What one round of the chain check accepts after the events before it. -/
structure EventFollows (platform : Platform) (earlier : List FoundryRunEvent)
    (event : FoundryRunEvent) : Prop where
  named : trim event.runId ≠ ""
  sameRun : ∀ previous, earlier.getLast? = some previous → event.runId = previous.runId
  canonicalId : event.eventId = s!"{event.runId}:{event.revision}"
  safeRevision : event.revision ≤ maxSafeInteger
  typed : trim event.eventType ≠ ""
  keyed : trim event.idempotencyKey ≠ ""
  timed : (platform.dateParse event.occurredAt).map platform.toISOString = some event.occurredAt
  contiguous : event.revision = (earlier.getLast?.map FoundryRunEvent.revision).getD 0 + 1
  linked : event.previousEventHash = earlier.getLast?.map FoundryRunEvent.eventHash
  hashed : eventHash platform event = event.eventHash
  fresh : event.idempotencyKey ∉ earlier.map FoundryRunEvent.idempotencyKey
  fromHistory : event.fromState = earlier.getLast?.map FoundryRunEvent.toState
  transition : assertFoundryEventTransition event = .ok ()
  accepted : earlier = [] → assertAcceptancePayload event = .ok ()

theorem verifyFoundryEvent_eq_ok {platform : Platform} {earlier : List FoundryRunEvent}
    {event : FoundryRunEvent} :
    verifyFoundryEvent platform earlier event = .ok () ↔ EventFollows platform earlier event := by
  unfold verifyFoundryEvent
  rcases last : earlier.getLast? with - | previous
  · obtain rfl := List.getLast?_eq_none_iff.1 last
    simp only [bind_eq_ok, ensure_eq_ok, Option.map_none, Option.getD_none]
    constructor
    · rintro ⟨_, ⟨named, -⟩, _, canonicalId, _, ⟨safe, -⟩, _, typed, _, keyed, _, timed, _,
        contiguous, _, linked, _, hashed, _, fresh, _, ⟨-, fromHistory⟩, _, transition, accepted⟩
      exact ⟨named, by simp, canonicalId, safe, typed, keyed, timed, contiguous, linked, hashed,
        fresh, fromHistory, transition, fun _ => accepted⟩
    · intro follows
      have contiguous := follows.contiguous
      simp only [List.getLast?_nil, Option.map_none, Option.getD_none] at contiguous
      exact ⟨(), ⟨follows.named, trivial⟩, (), follows.canonicalId, (),
        ⟨follows.safeRevision, by omega⟩, (), follows.typed, (), follows.keyed, (),
        follows.timed, (), contiguous, (), follows.linked, (), follows.hashed, (),
        follows.fresh, (), ⟨by omega, follows.fromHistory⟩, (), follows.transition,
        follows.accepted rfl⟩
  · have inhabited : earlier ≠ [] := by rintro rfl; simp at last
    simp only [bind_eq_ok, ensure_eq_ok, Option.map_some, Option.getD_some]
    constructor
    · rintro ⟨_, ⟨named, sameRun⟩, _, canonicalId, _, ⟨safe, -⟩, _, typed, _, keyed, _, timed, _,
        contiguous, _, linked, _, hashed, _, fresh, _, fromHistory, transition⟩
      exact ⟨named, by simpa [last] using sameRun, canonicalId, safe, typed, keyed, timed,
        by simpa [last] using contiguous, by simpa [last] using linked, hashed, fresh,
        by simpa [last] using fromHistory, transition, fun empty => absurd empty inhabited⟩
    · intro follows
      have contiguous := follows.contiguous
      simp only [last, Option.map_some, Option.getD_some] at contiguous
      exact ⟨(), ⟨follows.named, follows.sameRun previous last⟩, (), follows.canonicalId, (),
        ⟨follows.safeRevision, by omega⟩, (), follows.typed, (), follows.keyed, (),
        follows.timed, (), contiguous, (), by simpa [last] using follows.linked, (),
        follows.hashed, (), follows.fresh, (), by simpa [last] using follows.fromHistory,
        follows.transition⟩

theorem verifyFoundryEvents_append {platform : Platform} {rest : List FoundryRunEvent}
    {event : FoundryRunEvent} (earlier : List FoundryRunEvent) :
    verifyFoundryEvents platform earlier (rest ++ [event]) = .ok () ↔
      verifyFoundryEvents platform earlier rest = .ok () ∧
        EventFollows platform (earlier ++ rest) event := by
  induction rest generalizing earlier with
  | nil => simp [verifyFoundryEvents, verifyFoundryEvent_eq_ok, Unique.exists_iff]
  | cons first rest ih =>
    simp only [List.cons_append, verifyFoundryEvents, bind_eq_ok, ih, List.append_assoc,
      List.nil_append]
    constructor
    · rintro ⟨done, first, rest, last⟩
      exact ⟨⟨done, first, rest⟩, last⟩
    · rintro ⟨⟨done, first, rest⟩, last⟩
      exact ⟨done, first, rest, last⟩

/-- A log that the chain check accepts. -/
def Verified (platform : Platform) (events : List FoundryRunEvent) : Prop :=
  verifyFoundryEventChain platform events = .ok ()

section

variable {platform : Platform} {events later : List FoundryRunEvent} {event : FoundryRunEvent}

theorem Verified.ne_nil (verified : Verified platform events) : events ≠ [] := by
  simp only [Verified, verifyFoundryEventChain, bind_eq_ok, ensure_eq_ok] at verified
  exact verified.choose_spec.1

theorem verified_append :
    Verified platform (events ++ [event]) ↔
      (events ≠ [] → Verified platform events) ∧ EventFollows platform events event := by
  simp only [Verified, verifyFoundryEventChain, bind_eq_ok, ensure_eq_ok,
    verifyFoundryEvents_append, List.nil_append]
  constructor
  · rintro ⟨_, -, earlier, follows⟩
    exact ⟨fun inhabited => ⟨(), inhabited, earlier⟩, follows⟩
  · rintro ⟨earlier, follows⟩
    refine ⟨(), by simp, ?_, follows⟩
    rcases eq_or_ne events [] with rfl | inhabited
    · rfl
    · exact (earlier inhabited).choose_spec.2

theorem verified_singleton : Verified platform [event] ↔ EventFollows platform [] event := by
  simpa using (verified_append : Verified platform ([] ++ [event]) ↔ _)

/-- The log induction: what holds of the accepting event and what every further
event keeps holds of every verified log. -/
theorem Verified.log_induction
    {motive : (events : List FoundryRunEvent) → Verified platform events → Prop}
    (opening : ∀ event (follows : EventFollows platform [] event),
      motive [event] (verified_singleton.2 follows))
    (further : ∀ events event (verified : Verified platform events)
      (follows : EventFollows platform events event), motive events verified →
      motive (events ++ [event]) (verified_append.2 ⟨fun _ => verified, follows⟩))
    (verified : Verified platform events) : motive events verified := by
  induction events using List.reverseRecOn with
  | nil => exact absurd rfl verified.ne_nil
  | append_singleton events event ih =>
    obtain ⟨earlier, follows⟩ := verified_append.1 verified
    rcases eq_or_ne events [] with rfl | inhabited
    · exact opening event follows
    · exact further events event (earlier inhabited) follows (ih (earlier inhabited))

theorem Verified.of_prefix (verified : Verified platform later) (earlier : events <+: later)
    (inhabited : events ≠ []) : Verified platform events := by
  obtain ⟨rest, rfl⟩ := earlier
  induction rest using List.reverseRecOn with
  | nil => simpa using verified
  | append_singleton rest event ih =>
    rw [← List.append_assoc] at verified
    exact ih ((verified_append.1 verified).1 (by simp [inhabited]))

/-- A log behind a verified prefix: nothing more, or an event that follows the prefix. -/
theorem Verified.prefix_cases (verified : Verified platform later) (earlier : events <+: later) :
    later = events ∨ ∃ event, EventFollows platform events event ∧ events ++ [event] <+: later := by
  obtain ⟨rest, rfl⟩ := earlier
  cases rest with
  | nil => exact .inl (List.append_nil events)
  | cons event rest =>
    have opened : events ++ [event] <+: events ++ event :: rest := ⟨rest, by simp⟩
    have followed := verified.of_prefix opened (by simp)
    exact .inr ⟨event, (verified_append.1 followed).2, opened⟩

theorem EventFollows.allowed {last : FoundryRunEvent} (follows : EventFollows platform events event)
    (ends : events.getLast? = some last) :
    event.toState ∈ last.toState.allowedTransitions ∧
      (event.toState.genericTerminalType = some event.eventType ∨
        event.eventType ∈ last.toState.eventTypesByTransition event.toState) := by
  have transition := follows.transition
  have before : event.fromState = some last.toState := by
    rw [follows.fromHistory, ends, Option.map_some]
  simpa [assertFoundryEventTransition, before, assertFoundryTransition, Unique.exists_iff]
    using transition

/-- A run has a name. -/
theorem Verified.named {runId : String} (verified : Verified platform events)
    (named : ∀ event ∈ events, event.runId = runId) : runId ≠ "" := by
  rintro rfl
  cases events using List.reverseRecOn with
  | nil => exact verified.ne_nil rfl
  | append_singleton earlier event =>
    have follows := (verified_append.1 verified).2
    exact follows.named (by rw [named event (by simp)]; decide +kernel)

/-- Nothing follows a final state. -/
theorem Verified.ended {last : FoundryRunEvent} (verified : Verified platform later)
    (earlier : events <+: later) (ends : events.getLast? = some last)
    (terminal : last.toState.terminal = true) : later = events := by
  refine (verified.prefix_cases earlier).resolve_right ?_
  rintro ⟨event, follows, -⟩
  simpa [FoundryRunState.allowedTransitions_of_terminal terminal] using (follows.allowed ends).1

end

/-- The events that may end a run under activation. -/
def endsActivation (event : FoundryRunEvent) : Prop :=
  event.toState = .completedActive ∧ event.eventType = "activation_completed" ∨
    event.toState = .failed ∧ event.eventType = "foundry_run_failed" ∨
    event.toState = .quarantined ∧ event.eventType = "foundry_output_quarantined"

section

variable {platform : Platform} {events : List FoundryRunEvent} {last : FoundryRunEvent}

/-- A run under activation has one event before it, at most. -/
theorem Verified.settled {later : List FoundryRunEvent} (verified : Verified platform later)
    (earlier : events <+: later) (ends : events.getLast? = some last)
    (activating : last.toState = .activating) :
    later = events ∨ ∃ event, later = events ++ [event] ∧ endsActivation event := by
  refine (verified.prefix_cases earlier).imp_right ?_
  rintro ⟨event, follows, longer⟩
  obtain ⟨allowed, typed⟩ := follows.allowed ends
  have final : endsActivation event ∧ event.toState.terminal = true := by
    simp only [activating, FoundryRunState.allowedTransitions, List.mem_cons, List.not_mem_nil,
      or_false] at allowed
    rw [activating] at typed
    rcases allowed with reached | reached | reached <;> rw [reached] at typed <;>
      simpa [endsActivation, reached, FoundryRunState.genericTerminalType,
        FoundryRunState.eventTypesByTransition, FoundryRunState.terminal, eq_comm] using typed
  exact ⟨event, verified.ended longer (by simp) final.2, final.1⟩

theorem Verified.revision_getLast (verified : Verified platform events)
    (ends : events.getLast? = some last) : last.revision = events.length := by
  induction verified using Verified.log_induction generalizing last with
  | opening event follows =>
    obtain rfl : event = last := by simpa using ends
    simpa using follows.contiguous
  | further events event verified follows ih =>
    obtain rfl : event = last := by simpa using ends
    obtain ⟨previous, before⟩ := Option.isSome_iff_exists.1
      (List.getLast?_isSome.2 verified.ne_nil)
    simpa [before, ih before] using follows.contiguous

/-- The entry that a verified log records at a revision. -/
theorem Verified.revision_getElem (verified : Verified platform events) {index : Nat}
    (inside : index < events.length) : events[index].revision = index + 1 := by
  have earlier : Verified platform (events.take (index + 1)) :=
    verified.of_prefix (List.take_prefix _ _) (by
      rw [Ne, List.take_eq_nil_iff]
      rintro (zero | rfl)
      · omega
      · simp at inside)
  have last : (events.take (index + 1)).getLast? = some events[index] := by
    rw [List.getLast?_take]
    simp [inside]
  rw [earlier.revision_getLast last, List.length_take]
  omega

theorem Verified.revision_le (verified : Verified platform events) {event : FoundryRunEvent}
    (listed : event ∈ events) : event.revision ≤ events.length := by
  obtain ⟨index, inside, rfl⟩ := List.getElem_of_mem listed
  rw [verified.revision_getElem inside]
  exact inside

theorem Verified.runId_eq (verified : Verified platform events) {event : FoundryRunEvent}
    (listed : event ∈ events) (ends : events.getLast? = some last) : event.runId = last.runId := by
  induction verified using Verified.log_induction generalizing last with
  | opening only follows =>
    obtain rfl : only = last := by simpa using ends
    rw [List.mem_singleton.1 listed]
  | further events next verified follows ih =>
    obtain rfl : next = last := by simpa using ends
    obtain ⟨previous, before⟩ := Option.isSome_iff_exists.1
      (List.getLast?_isSome.2 verified.ne_nil)
    rcases List.mem_append.1 listed with early | late
    · rw [ih early before, follows.sameRun previous before]
    · rw [List.mem_singleton.1 late]

/-- Verified logs of one length, one a prefix of the other, are equal. -/
theorem eq_of_prefix_of_revision {later : List FoundryRunEvent} (verified : Verified platform later)
    (earlier : events <+: later) (inhabited : events ≠ []) {lastLater : FoundryRunEvent}
    (ends : events.getLast? = some last) (endsLater : later.getLast? = some lastLater)
    (same : lastLater.revision = last.revision) : later = events := by
  refine (earlier.eq_of_length ?_).symm
  rw [← (verified.of_prefix earlier inhabited).revision_getLast ends,
    ← verified.revision_getLast endsLater, same]

end

/-! ## Built events -/

theorem buildFoundryEvent_eq_ok {platform : Platform} {input : FoundryEventInput}
    {event : FoundryRunEvent} (built : buildFoundryEvent platform input = .ok event) :
    event = sealEvent platform input := by
  cases from_ : input.fromState <;>
    simp only [buildFoundryEvent, from_, bind_eq_ok, pure_eq_ok] at built <;>
    exact built.choose_spec.2.symm

/-! ## The snapshot of a longer log -/

theorem field?_append (front back : JsonRecord) (key : String) :
    field? (front ++ back) key = (field? front key).or (field? back key) := by
  simp [field?, List.lookup_append]

theorem accumulatedPayload_append (events : List FoundryRunEvent) (event : FoundryRunEvent) :
    accumulatedPayload (events ++ [event]) = event.payload ++ accumulatedPayload events := by
  simp [accumulatedPayload]

/-- A text field after a payload: its own entry, or else the earlier value. -/
def overlayText (payload : JsonRecord) (key : String) (earlier : Option String) : Option String :=
  match field? payload key with
  | none => earlier
  | some value => value.asString?

def overlayNatural (payload : JsonRecord) (key : String) (earlier : Nat) : Nat :=
  match field? payload key with
  | none => earlier
  | some _ => naturalField payload key

def overlayNumber (payload : JsonRecord) (key : String) (earlier : Option ℚ) : Option ℚ :=
  match field? payload key with
  | none => earlier
  | some value => value.asNumber?

def overlayRiskTier (payload : JsonRecord) (earlier : Option FoundryRiskTier) :
    Option FoundryRiskTier :=
  match field? payload "risk_tier" with
  | none => earlier
  | some value => value.asString?.bind FoundryRiskTier.ofText?

theorem textField?_append (payload record : JsonRecord) (key : String) :
    textField? (payload ++ record) key = overlayText payload key (textField? record key) := by
  simp only [textField?, field?_append, overlayText]
  cases field? payload key <;> simp

theorem naturalField_append (payload record : JsonRecord) (key : String) :
    naturalField (payload ++ record) key =
      overlayNatural payload key (naturalField record key) := by
  simp only [naturalField, field?_append, overlayNatural]
  cases field? payload key <;> simp

/-- The snapshot one event later. -/
def FoundryRunSnapshot.after (run : FoundryRunSnapshot) (event : FoundryRunEvent) :
    FoundryRunSnapshot :=
  { run with
    runId := event.runId
    state := event.toState
    revision := event.revision
    generation := overlayNatural event.payload "generation" run.generation
    blueprintDigest := overlayText event.payload "blueprint_digest" run.blueprintDigest
    previousBlueprintDigest :=
      overlayText event.payload "previous_blueprint_digest" run.previousBlueprintDigest
    candidateDigest := overlayText event.payload "candidate_digest" run.candidateDigest
    candidateRecordDigest :=
      overlayText event.payload "candidate_record_digest" run.candidateRecordDigest
    evidenceDigest := overlayText event.payload "evidence_digest" run.evidenceDigest
    frozenTestPlanDigest :=
      overlayText event.payload "frozen_test_plan_digest" run.frozenTestPlanDigest
    proposalDigest := overlayText event.payload "proposal_digest" run.proposalDigest
    versionDigest := overlayText event.payload "version_digest" run.versionDigest
    riskTier := overlayRiskTier event.payload run.riskTier
    gateScore := overlayNumber event.payload "gate_score" run.gateScore
    noImprovementGenerations :=
      overlayNatural event.payload "no_improvement_generations" run.noImprovementGenerations
    lastEventHash := event.eventHash
    updatedAt := event.occurredAt }

/-- The snapshot of a log, verified or not. -/
def IsSnapshot (events : List FoundryRunEvent) (run : FoundryRunSnapshot) : Prop :=
  ∃ first last, events.head? = some first ∧ events.getLast? = some last ∧
    run = snapshotBetween first last (accumulatedPayload events)

section

variable {events : List FoundryRunEvent} {run : FoundryRunSnapshot}

theorem snapshotFromEvents_eq_ok {platform : Platform} :
    snapshotFromEvents platform events = .ok run ↔
      Verified platform events ∧ IsSnapshot events run := by
  cases events with
  | nil => simp [snapshotFromEvents, IsSnapshot]
  | cons first rest =>
    simp only [snapshotFromEvents, bind_eq_ok, pure_eq_ok, IsSnapshot, List.head?_cons,
      Option.some.injEq, exists_and_left, exists_eq_left', Verified,
      List.getLast?_eq_some_getLast (List.cons_ne_nil first rest)]
    constructor
    · rintro ⟨_, verified, same⟩
      exact ⟨verified, same.symm⟩
    · rintro ⟨verified, same⟩
      exact ⟨(), verified, same.symm⟩

theorem IsSnapshot.unique {other : FoundryRunSnapshot} (snapshot : IsSnapshot events run)
    (snapshot' : IsSnapshot events other) : run = other := by
  obtain ⟨first, last, starts, ends, rfl⟩ := snapshot
  obtain ⟨first', last', starts', ends', rfl⟩ := snapshot'
  obtain rfl : first = first' := by simpa [starts] using starts'
  obtain rfl : last = last' := by simpa [ends] using ends'
  rfl

theorem exists_isSnapshot (inhabited : events ≠ []) : ∃ run, IsSnapshot events run :=
  ⟨_, events.head inhabited, events.getLast inhabited, List.head?_eq_some_head inhabited,
    List.getLast?_eq_some_getLast inhabited, rfl⟩

theorem IsSnapshot.append (snapshot : IsSnapshot events run) (event : FoundryRunEvent) :
    IsSnapshot (events ++ [event]) (run.after event) := by
  obtain ⟨first, last, starts, ends, rfl⟩ := snapshot
  refine ⟨first, event, by simp [List.head?_append, starts], by simp, ?_⟩
  simp only [FoundryRunSnapshot.after, snapshotBetween, accumulatedPayload_append,
    textField?_append, naturalField_append, field?_append, overlayRiskTier, overlayNumber,
    overlayText, FoundryRunSnapshot.mk.injEq, true_and, and_true]
  cases field? event.payload "risk_tier" <;> cases field? event.payload "gate_score" <;> simp

end

section Snapshot

variable {platform : Platform} {events : List FoundryRunEvent} {run : FoundryRunSnapshot}

theorem IsSnapshot.ne_nil (snapshot : IsSnapshot events run) : events ≠ [] := by
  obtain ⟨first, _, starts, -⟩ := snapshot
  rintro rfl
  simp at starts

theorem IsSnapshot.last (snapshot : IsSnapshot events run) :
    ∃ last, events.getLast? = some last ∧ run.runId = last.runId ∧ run.state = last.toState ∧
      run.revision = last.revision ∧ run.lastEventHash = last.eventHash := by
  obtain ⟨_, last, -, ends, rfl⟩ := snapshot
  exact ⟨last, ends, rfl, rfl, rfl, rfl⟩

/-- What the accepting event fixes is the same in all snapshots of a log. -/
theorem IsSnapshot.sameStart {log later : List FoundryRunEvent} {other : FoundryRunSnapshot}
    (snapshot : IsSnapshot events run) (snapshot' : IsSnapshot later other)
    (within : events <+: log) (within' : later <+: log) :
    run.targetAgentId = other.targetAgentId ∧ run.targetDomainId = other.targetDomainId ∧
      run.activationRevisionAtStart = other.activationRevisionAtStart := by
  obtain ⟨first, _, starts, -, rfl⟩ := snapshot
  obtain ⟨first', _, starts', -, rfl⟩ := snapshot'
  obtain ⟨rest, rfl⟩ := within
  obtain ⟨rest', whole⟩ := within'
  have heads : first = first' := by
    have same := congrArg List.head? whole
    simpa [List.head?_append, starts, starts'] using same.symm
  subst heads
  exact ⟨rfl, rfl, rfl⟩

theorem IsSnapshot.revision_eq (snapshot : IsSnapshot events run)
    (verified : Verified platform events) : run.revision = events.length := by
  obtain ⟨last, ends, -, -, revision, -⟩ := snapshot.last
  rw [revision, verified.revision_getLast ends]

/-- A log comes under activation once. -/
theorem IsSnapshot.eq_of_activating {log later : List FoundryRunEvent} {other : FoundryRunSnapshot}
    (verified : Verified platform log) (snapshot : IsSnapshot events run)
    (snapshot' : IsSnapshot later other) (within : events <+: log) (within' : later <+: log)
    (state : run.state = .activating) (state' : other.state = .activating) : events = later := by
  wlog earlier : events <+: later generalizing events later run other
  · have turned := (List.prefix_or_prefix_of_prefix within within').resolve_left earlier
    exact (this snapshot' snapshot within' within state' state turned).symm
  obtain ⟨last, ends, -, lastState, -⟩ := snapshot.last
  obtain ⟨last', ends', -, lastState', -⟩ := snapshot'.last
  refine (((verified.of_prefix within' snapshot'.ne_nil).settled earlier ends
    (lastState.symm.trans state)).resolve_right ?_).symm
  rintro ⟨event, rfl, final⟩
  obtain rfl : event = last' := by simpa using ends'
  rw [endsActivation, ← lastState', state'] at final
  simp at final

end Snapshot

end OnePersonLab.Evolution

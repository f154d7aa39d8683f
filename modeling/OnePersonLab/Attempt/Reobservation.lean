import OnePersonLab.Attempt.ReceiptOrigins
import OnePersonLab.Lib.FirstOccurrences

/-!
# Observing a finished workflow again

The same observation may take another exit on the row that it has left. Once a second call
changes nothing, no later call does; so two calls decide.
-/

namespace OnePersonLab.Attempt

open Contract Lib Stage

/-! ## The property -/

/-- The columns and the fields of the provider run that an observation may write. -/
structure ObservedFields where
  status : AttemptStatus
  blockedReason : Option String
  closeoutRefs : List String
  closeoutReceiptStatus : Option CloseoutReceiptStatus
  providerStatus : String
  terminalObservation : Option TerminalObservation
  deriving DecidableEq

def AttemptRow.observedFields (row : AttemptRow) : ObservedFields where
  status := row.status
  blockedReason := row.blockedReason
  closeoutRefs := row.closeoutRefs
  closeoutReceiptStatus := row.closeoutReceiptStatus
  providerStatus := row.providerRun.providerStatus
  terminalObservation := row.providerRun.terminalObservation

section

variable (texts : Texts) (observation : TemporalObservation)

/-- The ledger after a call with the observation. -/
def Ledger.observe (ledger : Ledger) : Ledger :=
  (syncStageAttemptFromTemporalTerminalObservation texts ledger observation).ledger

/-- Any number of calls leaves the fields as they are. -/
def Steady (ledger : Ledger) : Prop :=
  ∀ times, ((Ledger.observe texts observation)^[times] ledger).row.observedFields =
    ledger.row.observedFields

end

/-- A row that calls its observation completed has recorded a completed one. -/
def Truthful (row : AttemptRow) : Prop :=
  ∀ recorded ∈ row.providerRun.terminalObservation, recorded.reason = completedObservedReason →
    recorded.workflowStatus = some "COMPLETED" ∧ recorded.queryStatus = some .completed

instance (row : AttemptRow) : Decidable (Truthful row) :=
  inferInstanceAs (Decidable (∀ recorded ∈ row.providerRun.terminalObservation, _))

structure Reobservable (texts : Texts) (observation : TemporalObservation) (ledger : Ledger) :
    Prop where
  steady : Steady texts observation (ledger.observe texts observation)
  truthful : Truthful (ledger.observe texts observation).row

/-- When an observation of a row may be repeated: an ingest has to find a completed
observation on the row, and a row that records the observation as completed has to see a
completed one. -/
def ReobservationHolds (row : AttemptRow) (observation : TemporalObservation) : Prop :=
  match terminalExit row observation with
  | .ok (.ingestCompleted _) | .ok (.ingestBlocker _) =>
    rowHasCompletedTerminalObservation row = true
  | .ok .recordCompleted => observation.completed = true
  | .ok .ignore => Truthful row
  | .ok (.block blocker) => blocker ≠ completedObservedReason
  | .ok (.ingestFailure _) => False
  | .ok (.failRow _) => observation.blocker row = none
  | .ok .alreadyRecorded | .error _ => True

instance (row : AttemptRow) (observation : TemporalObservation) :
    Decidable (ReobservationHolds row observation) := by
  dsimp only [ReobservationHolds]
  generalize terminalExit row observation = exit
  rcases exit with _ | exit
  · exact instDecidableTrue
  · rcases exit with _ | _ | _ | _ | _ | _ | _ | _ <;> dsimp only <;> infer_instance

/-! ## The session and the usage -/

/-- A row whose session and usage the observation has noted. -/
structure Ready (row : AttemptRow) (observation : TemporalObservation) : Prop where
  concerned : concerns row observation = true
  resolved : row.scope ≠ .unresolved
  session : persistExecutionSessionRef row observation = .ok row
  usage : persistIngestedUsage row observation.costSummary = .ok row

section

variable {row written : AttemptRow}

/-- The session after an observation is the one that it names, if it names one. -/
theorem persistExecutionSessionRef_again {observation : TemporalObservation}
    (persisted : persistExecutionSessionRef row observation = .ok written) :
    observation.executionSessionRef.or written.executionSessionRef = written.executionSessionRef ∧
      persistExecutionSessionRef written observation = .ok written := by
  unfold persistExecutionSessionRef at persisted ⊢
  cases named : observation.executionSessionRef with
  | none => exact ⟨rfl, rfl⟩
  | some session =>
    simp only [named] at persisted
    by_cases drift : row.executionSessionRef ≠ none ∧ row.executionSessionRef ≠ some session
    · rw [if_pos drift] at persisted
      exact absurd persisted nofun
    · rw [if_neg drift, Except.ok.injEq] at persisted
      subst persisted
      exact ⟨rfl, by simp⟩

theorem selectAuthoritativeObservation_again {existing : Option UsageObservation}
    {incoming selected : UsageObservation}
    (chosen : selectAuthoritativeObservation existing incoming = .ok selected) :
    selectAuthoritativeObservation (some selected) incoming = .ok selected := by
  unfold selectAuthoritativeObservation at chosen ⊢
  cases existing with
  | none =>
    obtain rfl := Except.ok.inj chosen
    simp
  | some existing =>
    dsimp only at chosen ⊢
    by_cases higher : existing.priority < incoming.priority
    · rw [if_pos higher] at chosen
      obtain rfl := Except.ok.inj chosen
      simp
    · rw [if_neg higher] at chosen
      by_cases same : existing.idempotencyKey = incoming.idempotencyKey
      · rw [if_pos same] at chosen
        obtain rfl := Except.ok.inj chosen
        simp [higher, same]
      · rw [if_neg same] at chosen
        by_cases lower : incoming.priority < existing.priority
        · rw [if_pos lower] at chosen
          obtain rfl := Except.ok.inj chosen
          simp [higher, same, lower]
        · rw [if_neg lower] at chosen
          exact absurd chosen (by simp)

/-- Persisting a usage again changes nothing, and the session stays. -/
theorem persistStageAttemptUsageObservation_again {costSummary : Option CostSummary}
    (persisted : persistStageAttemptUsageObservation row costSummary row.executionSessionRef =
      .ok written) :
    written.executionSessionRef = row.executionSessionRef ∧
      persistStageAttemptUsageObservation written costSummary written.executionSessionRef =
        .ok written := by
  unfold persistStageAttemptUsageObservation at persisted
  simp only [bind_eq_ok, ensure_eq_ok, pure_eq_ok] at persisted
  obtain ⟨_, immutable, _, matched, selected, chosen, rfl⟩ := persisted
  have same : row.executionSessionRef.or
      ((trimmedText row.executionSessionRef).or row.executionSessionRef) =
        row.executionSessionRef := by
    cases row.executionSessionRef with
    | none => rfl
    | some session => rfl
  dsimp only
  rw [same]
  refine ⟨rfl, ?_⟩
  unfold persistStageAttemptUsageObservation
  simp only [bind_eq_ok, ensure_eq_ok, pure_eq_ok]
  exact ⟨(), immutable, (), matched, selected, selectAuthoritativeObservation_again chosen, by
    rw [same]⟩

theorem persistIngestedUsage_again {costSummary : Option CostSummary}
    (persisted : persistIngestedUsage row costSummary = .ok written) :
    written.executionSessionRef = row.executionSessionRef ∧
      persistIngestedUsage written costSummary = .ok written := by
  unfold persistIngestedUsage at persisted ⊢
  by_cases codex : row.codexCli = true
  · rw [if_pos codex] at persisted
    obtain ⟨session, again⟩ := persistStageAttemptUsageObservation_again persisted
    obtain ⟨_, _, rfl⟩ := persistStageAttemptUsageObservation_ok persisted
    exact ⟨session, by rw [if_pos codex]; exact again⟩
  · rw [if_neg codex] at persisted
    obtain rfl := Except.ok.inj persisted
    exact ⟨rfl, if_neg codex⟩

end

/-- What the checks of the session and the usage read of a row. -/
structure SameNotes (row other : AttemptRow) : Prop where
  fixed : row.fixed = other.fixed
  session : row.executionSessionRef = other.executionSessionRef
  usage : row.usageObservation = other.usageObservation

section

variable {row other : AttemptRow} {observation : TemporalObservation} {texts : Texts}
  {ledger : Ledger}

theorem persistExecutionSessionRef_noted
    (same : row.executionSessionRef = other.executionSessionRef)
    (noted : persistExecutionSessionRef row observation = .ok row) :
    persistExecutionSessionRef other observation = .ok other := by
  unfold persistExecutionSessionRef at noted ⊢
  cases named : observation.executionSessionRef with
  | none => rfl
  | some session =>
    simp only [named] at noted ⊢
    by_cases drift : row.executionSessionRef ≠ none ∧ row.executionSessionRef ≠ some session
    · rw [if_pos drift] at noted
      exact absurd noted nofun
    · rw [if_neg drift, Except.ok.injEq] at noted
      have session_eq : row.executionSessionRef = some session :=
        (congrArg AttemptRow.executionSessionRef noted).symm
      rw [same] at session_eq
      rw [if_neg (by simp [session_eq]), ← session_eq]

theorem persistIngestedUsage_noted {costSummary : Option CostSummary} (same : SameNotes row other)
    (noted : persistIngestedUsage row costSummary = .ok row) :
    persistIngestedUsage other costSummary = .ok other := by
  have fixed := same.fixed
  simp only [AttemptRow.fixed, FixedColumns.mk.injEq] at fixed
  obtain ⟨sameId, -, -, sameCodex, -⟩ := fixed
  unfold persistIngestedUsage at noted ⊢
  by_cases codex : row.codexCli = true
  · rw [if_pos codex] at noted
    rw [if_pos (sameCodex ▸ codex)]
    unfold persistStageAttemptUsageObservation at noted ⊢
    rw [same.session, sameId, same.usage] at noted
    simp only [bind_eq_ok, ensure_eq_ok, pure_eq_ok] at noted ⊢
    obtain ⟨_, immutable, _, matched, selected, chosen, written⟩ := noted
    refine ⟨(), immutable, (), matched, selected, chosen, ?_⟩
    have session := congrArg AttemptRow.executionSessionRef written
    have usage := congrArg AttemptRow.usageObservation written
    dsimp only at session usage
    rw [same.session] at session
    rw [same.usage] at usage
    rw [session, usage]
  · rw [if_neg (by simpa [← sameCodex] using codex)]

theorem concerns_of_fixed (fixed : row.fixed = other.fixed) (observation : TemporalObservation) :
    concerns row observation = concerns other observation := by
  simp only [AttemptRow.fixed, FixedColumns.mk.injEq] at fixed
  obtain ⟨sameId, sameWorkflow, sameProvider, -⟩ := fixed
  rw [concerns, concerns, sameId, sameWorkflow, sameProvider]

theorem Ready.of_same (ready : Ready row observation) (same : SameNotes row other) :
    Ready other observation where
  concerned := (concerns_of_fixed same.fixed observation).symm.trans ready.concerned
  resolved := by
    have scope : row.scope = other.scope := congrArg FixedColumns.scope same.fixed
    rw [← scope]
    exact ready.resolved
  session := persistExecutionSessionRef_noted same.session ready.session
  usage := persistIngestedUsage_noted same ready.usage

/-- On a noted session, an observation and an ingest persist the usage alike. -/
theorem persistObservedUsage_eq
    (noted : observation.executionSessionRef.or row.executionSessionRef =
      row.executionSessionRef) :
    persistObservedUsage row observation = persistIngestedUsage row observation.costSummary := by
  unfold persistObservedUsage persistIngestedUsage
  rw [noted]

theorem sync_of_ready (ready : Ready ledger.row observation) :
    syncStageAttemptFromTemporalTerminalObservation texts ledger observation =
      settleObservation texts observation ledger := by
  have noted := (persistExecutionSessionRef_again ready.session).1
  unfold syncStageAttemptFromTemporalTerminalObservation
  rw [if_neg (by simp [ready.concerned]), if_neg ready.resolved, ready.session]
  simp only [Synced.continue]
  rw [persistObservedUsage_eq noted, ready.usage]

/-- The last part of a call has chosen an exit and applied it. -/
theorem settleObservation_ok (ready : Ready ledger.row observation)
    (succeeded : (settleObservation texts observation ledger).thrown = none) :
    ∃ exit, Ready ledger.row observation ∧ terminalExit ledger.row observation = .ok exit ∧
      applyExit texts ledger observation exit =
        .ok (settleObservation texts observation ledger).ledger := by
  unfold settleObservation at succeeded ⊢
  cases chosen : terminalExit ledger.row observation with
  | error failure => simp [chosen, bind, Except.bind] at succeeded
  | ok exit =>
    simp only [chosen, bind, Except.bind] at succeeded ⊢
    cases applied : applyExit texts ledger observation exit with
    | error failure => simp [applied] at succeeded
    | ok settled => exact ⟨exit, ready, rfl, applied⟩

/-- A call that has not thrown has noted the session and the usage and has settled. -/
theorem sync_settled (concerned : concerns ledger.row observation = true)
    (succeeded :
      (syncStageAttemptFromTemporalTerminalObservation texts ledger observation).thrown = none) :
    ∃ session usage exit,
      Ready (ledger.noted session usage).row observation ∧
      terminalExit (ledger.noted session usage).row observation = .ok exit ∧
      applyExit texts (ledger.noted session usage) observation exit =
        .ok (ledger.observe texts observation) := by
  unfold Ledger.observe
  unfold syncStageAttemptFromTemporalTerminalObservation at succeeded ⊢
  rw [if_neg (by simp [concerned])] at succeeded ⊢
  by_cases unresolved : ledger.row.scope = .unresolved
  · rw [if_pos unresolved] at succeeded
    exact absurd succeeded (by simp)
  · rw [if_neg unresolved] at succeeded ⊢
    cases attached : persistExecutionSessionRef ledger.row observation with
    | error failure => simp [attached, Synced.continue] at succeeded
    | ok row =>
      obtain ⟨noted, attachedAgain⟩ := persistExecutionSessionRef_again attached
      obtain ⟨session, rfl⟩ := persistExecutionSessionRef_ok attached
      simp only [attached, Synced.continue] at succeeded ⊢
      rw [persistObservedUsage_eq noted] at succeeded ⊢
      cases measured : persistIngestedUsage
          { ledger.row with executionSessionRef := session } observation.costSummary with
      | error failure => simp [measured] at succeeded
      | ok row =>
        obtain ⟨sameSession, measuredAgain⟩ := persistIngestedUsage_again measured
        obtain ⟨session', usage, rfl⟩ := persistIngestedUsage_ok measured
        dsimp only at sameSession
        subst sameSession
        simp only [measured] at succeeded ⊢
        have ready : Ready (ledger.noted session' usage).row observation := by
          refine ⟨concerned, unresolved, ?_, measuredAgain⟩
          exact persistExecutionSessionRef_noted (by rfl) attachedAgain
        refine ⟨session', usage, ?_⟩
        exact settleObservation_ok ready succeeded

end

/-! ## A call after a settled one -/

theorem observe_of_ready {texts : Texts} {ledger settled : Ledger}
    {observation : TemporalObservation} {exit : TerminalExit}
    (ready : Ready ledger.row observation)
    (chosen : terminalExit ledger.row observation = .ok exit)
    (applied : applyExit texts ledger observation exit = .ok settled) :
    ledger.observe texts observation = settled := by
  rw [Ledger.observe, sync_of_ready ready, settleObservation, chosen]
  simp only [bind, Except.bind, applied]

theorem reviews_of_fixed {row other : AttemptRow} (fixed : row.fixed = other.fixed) :
    row.reviews = other.reviews := by
  have role : row.attemptRole = other.attemptRole := congrArg FixedColumns.attemptRole fixed
  rw [AttemptRow.reviews, AttemptRow.reviews, role]

/-- The packet and the blocker of an observation depend on the role of the row alone. -/
theorem readings_of_fixed {row other : AttemptRow} (fixed : row.fixed = other.fixed)
    (observation : TemporalObservation) :
    readCompletedPacket other observation = readCompletedPacket row observation ∧
      observation.blocker other = observation.blocker row := by
  have reviews := reviews_of_fixed fixed
  have missing : observation.missingReviewOutcome other =
      observation.missingReviewOutcome row := by
    rw [TemporalObservation.missingReviewOutcome, TemporalObservation.missingReviewOutcome, reviews]
  rw [readCompletedPacket, readCompletedPacket, TemporalObservation.blocker,
    TemporalObservation.blocker, missing]
  exact ⟨rfl, rfl⟩

theorem terminalExit_eq {row : AttemptRow} {observation : TemporalObservation}
    {completed : Option (SentPacket × CloseoutPacket)}
    (read : readCompletedPacket row observation = .ok completed) :
    terminalExit row observation = .ok (if row.closedOut then
      closedOutExit row observation completed else openExit row observation completed) := by
  rw [terminalExit, read]
  rfl

theorem readCompletedPacket_some {row : AttemptRow} {observation : TemporalObservation}
    {sent : SentPacket} {packet : CloseoutPacket}
    (read : readCompletedPacket row observation = .ok (some (sent, packet))) :
    normalizeTypedStageCloseoutPacket sent = .ok packet := by
  unfold readCompletedPacket at read
  by_cases missing : observation.missingReviewOutcome row = true
  · rw [if_pos missing] at read
    exact absurd read nofun
  · rw [if_neg missing] at read
    cases made : observation.completedPacket? with
    | none =>
      rw [made] at read
      exact absurd read nofun
    | some other =>
      simp only [made, bind_eq_ok, pure_eq_ok, Option.some.injEq, Prod.mk.injEq] at read
      obtain ⟨packet, accepted, rfl, rfl⟩ := read
      exact accepted

/-- What an ingest makes of a row that has noted its usage. -/
structure Taken (row taken : AttemptRow) (observation : TemporalObservation)
    (packet : CloseoutPacket) : Prop where
  same : SameNotes row taken
  closed : taken.closedOut = true
  refs : ∀ ref ∈ packet.closeoutRefs, ref ∈ taken.closeoutRefs
  kept : taken.providerRun.terminalObservation = row.providerRun.terminalObservation
  cost : observation.costSummary = none ∨ taken.providerRun.costSummary ≠ none

theorem Taken.of_ingested {texts : Texts} {ledger settled : Ledger} {sent : SentPacket}
    {observation : TemporalObservation} (ready : Ready ledger.row observation)
    (ingested : Ingested texts ledger sent observation.costSummary settled) :
    ∃ packet, normalizeTypedStageCloseoutPacket sent = .ok packet ∧
      Taken ledger.row settled.row observation packet := by
  have fixed := ingested.fixed
  have closed := ingested.closedOut
  obtain ⟨packet, normalized, row, read, -, persisted, written⟩ := ingested
  rw [ready.usage, Except.ok.injEq] at persisted
  subst persisted
  refine ⟨packet, read, ?_⟩
  unfold syncAttemptRowFromCloseout at written
  by_cases absorbed : Absorbed texts ledger.row packet normalized observation.costSummary
  · rw [if_pos absorbed] at written
    obtain ⟨-, -, known, cost⟩ := absorbed
    rw [written] at closed ⊢
    refine ⟨⟨rfl, rfl, rfl⟩, closed, ?_, rfl, cost⟩
    intro ref present
    simp only [attemptAlreadyAbsorbedCloseout, Bool.and_eq_true, List.all_eq_true] at known
    simpa using known.1 ref present
  · rw [if_neg absorbed] at written
    refine ⟨⟨fixed.symm, by rw [written]; rfl, by rw [written]; rfl⟩, closed, ?_, ?_, ?_⟩
    · intro ref present
      rw [written]
      exact List.mem_eraseDups.2 (List.mem_append_right _ present)
    · rw [written]
      rfl
    · rw [written]
      cases cost : observation.costSummary with
      | none => exact .inl rfl
      | some summary => exact .inr (by simp [completedRow])

/-- A settled call leaves what the session and the usage are checked with. -/
theorem applyExit_same {texts : Texts} {ledger settled : Ledger}
    {observation : TemporalObservation} {exit : TerminalExit}
    (ready : Ready ledger.row observation)
    (applied : applyExit texts ledger observation exit = .ok settled) :
    SameNotes ledger.row settled.row := by
  cases exit with
  | ingestCompleted packet =>
    obtain ⟨packet, -, taken⟩ := Taken.of_ingested ready (ingestStageAttemptCloseout_ok applied)
    exact taken.same
  | ingestBlocker blocker =>
    obtain ⟨packet, -, taken⟩ := Taken.of_ingested ready (ingestStageAttemptCloseout_ok applied)
    exact taken.same
  | ingestFailure failureReason =>
    simp only [applyExit, bind_eq_ok, pure_eq_ok] at applied
    obtain ⟨ingested, accepted, rfl⟩ := applied
    obtain ⟨packet, -, taken⟩ := Taken.of_ingested ready (ingestStageAttemptCloseout_ok accepted)
    exact ⟨taken.same.fixed, taken.same.session, taken.same.usage⟩
  | alreadyRecorded | ignore | recordCompleted | block _ | failRow _ =>
    simp only [applyExit, Except.ok.injEq] at applied
    subst applied
    exact ⟨rfl, rfl, rfl⟩

section

variable {texts : Texts} {observation : TemporalObservation} {ledger settled : Ledger}

section

variable {row : AttemptRow}

theorem Steady.of_fixed (again : settled.observe texts observation = settled) :
    Steady texts observation settled := by
  intro times
  rw [Function.iterate_fixed again]

theorem Steady.once (steady : Steady texts observation settled) :
    (settled.observe texts observation).row.observedFields = settled.row.observedFields :=
  steady 1

/-- A row that has recorded a completed observation calls it so truly. -/
theorem Truthful.of_recorded (has : rowHasCompletedTerminalObservation row = true) :
    Truthful row := by
  intro recorded present _
  simp only [rowHasCompletedTerminalObservation, Option.any_eq_true] at has
  obtain ⟨other, same, checks⟩ := has
  obtain rfl := Option.some.inj (present.symm.trans same)
  simp only [Bool.and_eq_true, decide_eq_true_eq] at checks
  exact ⟨checks.1.2, checks.2⟩

/-- A row that records an observation as completed is truthful when the observation is. -/
theorem truthful_recordCompleted_iff
    (recorded : row.providerRun.terminalObservation =
      some (observation.recorded completedObservedReason)) :
    Truthful row ↔ observation.completed = true := by
  simp only [Truthful, recorded, Option.mem_def, Option.some.injEq, forall_eq',
    TemporalObservation.recorded, TemporalObservation.completed, Bool.and_eq_true,
    decide_eq_true_eq, forall_const]

theorem rowHasCompleted_recorded
    (recorded : row.providerRun.terminalObservation =
      some (observation.recorded completedObservedReason))
    (completed : observation.completed = true) : rowHasCompletedTerminalObservation row = true := by
  simp only [TemporalObservation.completed, Bool.and_eq_true, decide_eq_true_eq] at completed
  simp [rowHasCompletedTerminalObservation, recorded, TemporalObservation.recorded, completed]

end

variable (texts) in
/-- The next call on a row that a closeout has completed and that no packet replaces. -/
theorem observe_closedOut {completed : Option (SentPacket × CloseoutPacket)}
    (ready : Ready settled.row observation) (closed : settled.row.closedOut = true)
    (read : readCompletedPacket settled.row observation = .ok completed)
    (kept : (completed.filter fun read => replacesCloseout settled.row read.2) = none) :
    settled.observe texts observation =
      if rowHasCompletedTerminalObservation settled.row = true ∧
        (observation.costSummary = none ∨ settled.row.providerRun.costSummary ≠ none) then settled
      else
        { settled with
          row := { settled.row with
            providerRun :=
              providerRunWithTerminalCompletedObservation settled.row.providerRun observation } } := by
  have chosen := terminalExit_eq read
  rw [if_pos closed, closedOutExit, kept] at chosen
  dsimp only at chosen
  by_cases recorded : rowHasCompletedTerminalObservation settled.row = true ∧
      (observation.costSummary = none ∨ settled.row.providerRun.costSummary ≠ none)
  · rw [if_pos recorded] at chosen ⊢
    exact observe_of_ready ready chosen rfl
  · rw [if_neg recorded] at chosen ⊢
    exact observe_of_ready ready chosen rfl

variable {row : AttemptRow} {failureReason : String}

/-- After an ingest of a completed packet or of a blocker. -/
theorem reobservable_ingested {completed : Option (SentPacket × CloseoutPacket)}
    (ready : Ready settled.row observation) (closed : settled.row.closedOut = true)
    (read : readCompletedPacket settled.row observation = .ok completed)
    (kept : (completed.filter fun read => replacesCloseout settled.row read.2) = none)
    (cost : observation.costSummary = none ∨ settled.row.providerRun.costSummary ≠ none) :
    (Steady texts observation settled ∧ Truthful settled.row) ↔
      rowHasCompletedTerminalObservation settled.row = true := by
  have next := observe_closedOut texts ready closed read kept
  constructor
  · rintro ⟨steady, truthful⟩
    by_contra fresh
    rw [if_neg fun recorded => fresh recorded.1] at next
    have same := congrArg ObservedFields.terminalObservation steady.once
    rw [next] at same
    have recorded : settled.row.providerRun.terminalObservation =
        some (observation.recorded completedObservedReason) := same.symm
    exact fresh (rowHasCompleted_recorded recorded
      ((truthful_recordCompleted_iff recorded).1 truthful))
  · intro recorded
    rw [if_pos ⟨recorded, cost⟩] at next
    exact ⟨.of_fixed next, .of_recorded recorded⟩

/-- After a completed row has recorded the observation. -/
theorem reobservable_recordCompleted {completed : Option (SentPacket × CloseoutPacket)}
    (ready : Ready settled.row observation) (closed : settled.row.closedOut = true)
    (read : readCompletedPacket settled.row observation = .ok completed)
    (kept : (completed.filter fun read => replacesCloseout settled.row read.2) = none)
    (recorded : providerRunWithTerminalCompletedObservation settled.row.providerRun observation =
      settled.row.providerRun) :
    (Steady texts observation settled ∧ Truthful settled.row) ↔ observation.completed = true := by
  have next := observe_closedOut texts ready closed read kept
  have again : settled.observe texts observation = settled := by
    rw [next, recorded]
    exact ite_self _
  have observed : settled.row.providerRun.terminalObservation =
      some (observation.recorded completedObservedReason) := by
    rw [← recorded]
    rfl
  rw [← truthful_recordCompleted_iff observed]
  exact ⟨fun both => both.2, fun truthful => ⟨.of_fixed again, truthful⟩⟩

/-- The refs of a blocked row are not blank, and they have those of the query. -/
theorem mergeCloseoutRefs_again {blocked : AttemptRow}
    (refs : blocked.closeoutRefs = mergeCloseoutRefs row observation) :
    mergeCloseoutRefs blocked observation = mergeCloseoutRefs row observation := by
  have visible : (blocked.closeoutRefs.filter fun ref => trim ref ≠ "") = blocked.closeoutRefs := by
    rw [List.filter_eq_self]
    intro ref present
    rw [refs, mergeCloseoutRefs, List.mem_eraseDups, List.mem_append] at present
    rcases present with own | added
    · exact (List.mem_filter.1 own).2
    · cases projected : blockedCloseoutProjection observation with
      | none => simp [projected] at added
      | some query =>
        simp only [projected, Option.map_some, Option.getD_some, textList, trimmedText,
          List.mem_filterMap] at added
        obtain ⟨value, -, found⟩ := added
        obtain ⟨same, filled⟩ := Option.filter_eq_some_iff.1 found
        obtain rfl := Option.some.inj same
        rw [trim_trim]
        exact filled
  rw [mergeCloseoutRefs, visible, refs, mergeCloseoutRefs]
  exact eraseDups_append_of_subset (List.subset_append_right _ _)

theorem blocked_reason_true {blocker : String} (blocked : observation.blocker row = some blocker)
    (completed : observation.completed = true) : blocker ≠ completedObservedReason := by
  simp only [TemporalObservation.completed, Bool.and_eq_true, decide_eq_true_eq] at completed
  unfold TemporalObservation.blocker at blocked
  by_cases missing : observation.missingReviewOutcome row = true
  · rw [if_pos missing] at blocked
    obtain rfl := Option.some.inj blocked
    decide
  · rw [if_neg missing, TemporalObservation.nonCompletionBlocker, completed.2] at blocked
    exact absurd blocked (by simp)

/-- After a row has been blocked: every further call blocks it in the same way. -/
theorem reobservable_block {blocker : String} (ready : Ready settled.row observation)
    (written : settled.row = blockedRow row observation blocker)
    (read : readCompletedPacket settled.row observation = .ok none)
    (blocked : observation.blocker settled.row = some blocker)
    (hard : ¬(settled.row.reviews = false ∧ isRuntimeHardStopReason blocker = false)) :
    (Steady texts observation settled ∧ Truthful settled.row) ↔
      blocker ≠ completedObservedReason := by
  -- Every later row is the blocked one, except for its route impact.
  have again : ∀ times, ∃ later,
      (Ledger.observe texts observation)^[times] settled = later ∧
      SameNotes settled.row later.row ∧ later.row.status = .blocked ∧
      later.row.observedFields = settled.row.observedFields := by
    intro times
    induction times with
    | zero => exact ⟨settled, rfl, ⟨rfl, rfl, rfl⟩, by rw [written]; rfl, rfl⟩
    | succ times inductionHypothesis =>
      obtain ⟨later, reached, same, status, fields⟩ := inductionHypothesis
      obtain ⟨readAgain, blockedAgain⟩ := readings_of_fixed same.fixed observation
      have chosen := terminalExit_eq (readAgain.trans read)
      have openRow : later.row.closedOut = false := by simp [AttemptRow.closedOut, status]
      rw [openRow, if_neg Bool.false_ne_true, openExit, blockedAgain, blocked] at chosen
      dsimp only at chosen
      rw [← reviews_of_fixed same.fixed, if_neg hard, if_pos (by simp [status])] at chosen
      have next := @observe_of_ready texts _ _ _ _ (ready.of_same same) chosen rfl
      rw [Function.iterate_succ_apply', reached, next]
      refine ⟨_, rfl, ⟨same.fixed, same.session, same.usage⟩, rfl, ?_⟩
      have refs : later.row.closeoutRefs = mergeCloseoutRefs row observation := by
        have refs := congrArg ObservedFields.closeoutRefs fields
        rw [written] at refs
        exact refs
      rw [written]
      simp only [AttemptRow.observedFields, blockedRow, mergeCloseoutRefs_again refs]
  have steady : Steady texts observation settled := by
    intro times
    obtain ⟨later, reached, -, -, fields⟩ := again times
    rw [reached, fields]
  constructor
  · rintro ⟨-, truthful⟩ rfl
    rw [written] at truthful
    obtain ⟨workflow, query⟩ := truthful _ rfl rfl
    refine blocked_reason_true blocked ?_ rfl
    simpa [TemporalObservation.completed] using ⟨workflow, query⟩
  · intro other
    refine ⟨steady, ?_⟩
    rw [written]
    intro recorded present reason
    obtain rfl := Option.some.inj present
    exact absurd reason other

/-- A failed workflow has not completed. -/
theorem failureReason_spec (failed : observation.failureReason = some failureReason) :
    failureReason ≠ completedObservedReason ∧ observation.completed = false := by
  unfold TemporalObservation.failureReason at failed
  unfold TemporalObservation.completed
  by_cases fails : observation.workflowStatus = some "FAILED"
  · rw [if_pos fails] at failed
    obtain rfl := Option.some.inj failed
    exact ⟨by decide, by simp [fails]⟩
  · rw [if_neg fails] at failed
    by_cases late : observation.workflowStatus = some "TIMED_OUT"
    · rw [if_pos late] at failed
      obtain rfl := Option.some.inj failed
      exact ⟨by decide, by simp [late]⟩
    · rw [if_neg late] at failed
      by_cases canceled : observation.workflowStatus = some "CANCELED" ∨
          observation.workflowStatus = some "CANCELLED"
      · rw [if_pos canceled] at failed
        obtain rfl := Option.some.inj failed
        refine ⟨by decide, ?_⟩
        rcases canceled with canceled | canceled <;> simp [canceled]
      · rw [if_neg canceled] at failed
        by_cases query : observation.queryStatus = some .failed
        · rw [if_pos query] at failed
          obtain rfl := Option.some.inj failed
          exact ⟨by decide, by simp [query]⟩
        · rw [if_neg query] at failed
          exact absurd failed nofun

/-- After the ingest of a failure: the next call records the workflow as completed. -/
theorem not_steady_ingestFailure (ready : Ready settled.row observation)
    (closed : settled.row.closedOut = true)
    (read : readCompletedPacket settled.row observation = .ok none)
    (failed : observation.failureReason = some failureReason)
    (observed : settled.row.providerRun.terminalObservation = some
      { observation.recorded failureReason with
        progressDiagnosticRef := some (failureDiagnosticRef observation.stageAttemptId) }) :
    ¬Steady texts observation settled := by
  intro steady
  obtain ⟨other, unfinished⟩ := failureReason_spec failed
  have fresh : rowHasCompletedTerminalObservation settled.row ≠ true := by
    simpa [rowHasCompletedTerminalObservation, observed, TemporalObservation.recorded,
      TemporalObservation.completed] using unfinished
  have next := observe_closedOut texts ready closed read rfl
  rw [if_neg fun recorded => fresh recorded.1] at next
  have same := congrArg ObservedFields.terminalObservation steady.once
  rw [next] at same
  have reasons : some (observation.recorded completedObservedReason) = _ := same.trans observed
  exact other (congrArg TerminalObservation.reason (Option.some.inj reasons)).symm

/-- After a row has failed: a blocker of the observation blocks it in the next call. -/
theorem reobservable_failRow (ready : Ready settled.row observation)
    (written : settled.row = failedRow row observation failureReason)
    (read : readCompletedPacket settled.row observation = .ok none)
    (failed : observation.failureReason = some failureReason)
    (hard : ¬(settled.row.reviews = false ∧ failureReason ≠ "temporal_workflow_canceled"))
    (stopped : ∀ blocker ∈ observation.blocker settled.row,
      ¬(settled.row.reviews = false ∧ isRuntimeHardStopReason blocker = false)) :
    (Steady texts observation settled ∧ Truthful settled.row) ↔
      observation.blocker settled.row = none := by
  have status : settled.row.status = .failed := by rw [written]; rfl
  have openRow : settled.row.closedOut = false := by simp [AttemptRow.closedOut, status]
  have chosen := terminalExit_eq read
  rw [openRow, if_neg Bool.false_ne_true, openExit] at chosen
  cases blocked : observation.blocker settled.row with
  | some blocker =>
    simp only [reduceCtorEq, iff_false, not_and]
    intro steady
    rw [blocked] at chosen
    dsimp only at chosen
    rw [if_neg (stopped blocker blocked), if_pos (by simp [status])] at chosen
    have same := congrArg ObservedFields.status steady.once
    rw [@observe_of_ready texts _ _ _ _ ready chosen rfl] at same
    cases same.trans status
  | none =>
    simp only [iff_true]
    rw [blocked, failed] at chosen
    dsimp only at chosen
    rw [if_neg hard] at chosen
    have next := @observe_of_ready texts _ _ _ _ ready chosen rfl
    have again : failedRow settled.row observation failureReason = settled.row := by
      rw [written]
      rfl
    rw [again] at next
    refine ⟨.of_fixed next, ?_⟩
    rw [written]
    intro recorded present reason
    obtain rfl := Option.some.inj present
    exact absurd reason (failureReason_spec failed).1

/-- A packet that a row has taken does not replace it. -/
theorem Taken.not_replaces {taken : AttemptRow} {packet : CloseoutPacket}
    (read : Taken row taken observation packet) : replacesCloseout taken packet = false := by
  simp only [replacesCloseout, Bool.and_eq_false_iff]
  left
  rw [List.any_eq_false]
  intro ref present
  simpa using read.refs ref present

/-- The exit of a settled call decides whether the observation may be repeated. -/
theorem reobservable_applied {exit : TerminalExit} (ready : Ready ledger.row observation)
    (chosen : terminalExit ledger.row observation = .ok exit)
    (applied : applyExit texts ledger observation exit = .ok settled) :
    (Steady texts observation settled ∧ Truthful settled.row) ↔
      ReobservationHolds ledger.row observation := by
  have same := applyExit_same ready applied
  have later := ready.of_same same
  obtain ⟨reads, blocks⟩ := readings_of_fixed same.fixed observation
  have reviews := reviews_of_fixed same.fixed
  unfold ReobservationHolds
  rw [chosen]
  cases terminalExit_case chosen with
  | ingestCompleted sent packet read =>
    obtain ⟨packet', accepted, taken⟩ :=
      Taken.of_ingested ready (ingestStageAttemptCloseout_ok applied)
    rw [readCompletedPacket_some read, Except.ok.injEq] at accepted
    subst accepted
    have kept : ((some (sent, packet)).filter
        fun read => replacesCloseout settled.row read.2) = none := by
      simp [Option.filter, taken.not_replaces]
    dsimp only
    rw [reobservable_ingested later taken.closed (reads.trans read) kept taken.cost,
      rowHasCompletedTerminalObservation, taken.kept, rowHasCompletedTerminalObservation]
  | alreadyRecorded closed recorded =>
    obtain rfl := Except.ok.inj applied
    simp only [iff_true]
    exact ⟨.of_fixed (observe_of_ready ready chosen rfl), .of_recorded recorded⟩
  | recordCompleted read closed kept =>
    obtain rfl := Except.ok.inj applied
    refine reobservable_recordCompleted later closed (reads.trans read) kept ?_
    simp only [providerRunWithTerminalCompletedObservation, ProviderRun.mk.injEq, and_true, true_and]
    cases observation.costSummary with
    | none => rfl
    | some summary => rfl
  | ignore =>
    obtain rfl := Except.ok.inj applied
    have fixed := observe_of_ready ready chosen applied
    exact ⟨fun both => both.2, fun truthful => ⟨.of_fixed fixed, truthful⟩⟩
  | ingestBlocker blocker read blocked produces soft =>
    obtain ⟨packet, -, taken⟩ := Taken.of_ingested ready (ingestStageAttemptCloseout_ok applied)
    dsimp only
    rw [reobservable_ingested later taken.closed (reads.trans read) rfl taken.cost,
      rowHasCompletedTerminalObservation, taken.kept, rowHasCompletedTerminalObservation]
  | block blocker read blocked hard =>
    have written : settled.row = blockedRow ledger.row observation blocker := by
      rw [← Except.ok.inj applied]
    exact reobservable_block later written (reads.trans read) (blocks.trans blocked)
      (by rw [← reviews]; exact hard)
  | ingestFailure failureReason read failed =>
    simp only [applyExit, bind_eq_ok, pure_eq_ok] at applied
    obtain ⟨ingested, accepted, rfl⟩ := applied
    obtain ⟨packet, -, taken⟩ := Taken.of_ingested ready (ingestStageAttemptCloseout_ok accepted)
    simp only [iff_false, not_and]
    intro steady
    exact absurd steady
      (not_steady_ingestFailure later taken.closed (reads.trans read) failed rfl)
  | failRow failureReason read failed hard stopped =>
    have written : settled.row = failedRow ledger.row observation failureReason := by
      rw [← Except.ok.inj applied]
    dsimp only
    rw [← blocks]
    refine reobservable_failRow later written (reads.trans read) failed
      (by rw [← reviews]; exact hard) ?_
    intro blocker present
    rw [← reviews]
    exact stopped blocker (blocks ▸ present)

end

/-- An observation that has settled a row may be repeated exactly where its exit allows it. -/
theorem reobservable_iff (texts : Texts) (ledger : Ledger) (observation : TemporalObservation)
    (concerned : concerns ledger.row observation = true)
    (succeeded :
      (syncStageAttemptFromTemporalTerminalObservation texts ledger observation).thrown = none) :
    Reobservable texts observation ledger ↔ ReobservationHolds ledger.row observation := by
  obtain ⟨session, usage, exit, ready, chosen, applied⟩ := sync_settled concerned succeeded
  have decided := reobservable_applied ready chosen applied
  constructor
  · intro reobservable
    exact decided.1 ⟨reobservable.steady, reobservable.truthful⟩
  · intro holds
    obtain ⟨steady, truthful⟩ := decided.2 holds
    exact ⟨steady, truthful⟩

/-! ## A failed workflow -/

def canceledWorkflow : TemporalObservation := observed (some "CANCELED") .failed []

theorem reobservable_canceledWorkflow :
    concerns runningLedger.row canceledWorkflow = true ∧
    (syncStageAttemptFromTemporalTerminalObservation shortTexts runningLedger
      canceledWorkflow).thrown = none ∧
    (Reobservable shortTexts canceledWorkflow runningLedger ↔
      ReobservationHolds runningLedger.row canceledWorkflow) :=
  ⟨by decide, by decide +kernel,
    reobservable_iff shortTexts runningLedger canceledWorkflow (by decide) (by decide +kernel)⟩

def failedWorkflow : TemporalObservation := observed (some "FAILED") .failed []

/-- The reason that a row has recorded, and the status of the workflow beside it. -/
def toldReason (ledger : Ledger) : Option (String × Option String) :=
  ledger.row.providerRun.terminalObservation.map fun observation =>
    (observation.reason, observation.workflowStatus)

/-- A second observation of a failed workflow says that the workflow has completed. -/
theorem failed_workflow_told_completed :
    concerns runningLedger.row failedWorkflow = true ∧
    (syncStageAttemptFromTemporalTerminalObservation shortTexts runningLedger
      failedWorkflow).thrown = none ∧
    toldReason (runningLedger.observe shortTexts failedWorkflow) =
      some ("temporal_workflow_failed", some "FAILED") ∧
    toldReason ((runningLedger.observe shortTexts failedWorkflow).observe shortTexts
      failedWorkflow) = some ("temporal_stage_attempt_completed_observed", some "FAILED") := by
  decide +kernel

theorem failed_workflow_not_reobservable :
    concerns runningLedger.row failedWorkflow = true ∧
    (syncStageAttemptFromTemporalTerminalObservation shortTexts runningLedger
      failedWorkflow).thrown = none ∧
    ¬Reobservable shortTexts failedWorkflow runningLedger := by
  obtain ⟨concerned, succeeded, first, second⟩ := failed_workflow_told_completed
  refine ⟨concerned, succeeded, ?_⟩
  intro reobservable
  have same := congrArg ObservedFields.terminalObservation reobservable.steady.once
  have told : toldReason ((runningLedger.observe shortTexts failedWorkflow).observe shortTexts
      failedWorkflow) = toldReason (runningLedger.observe shortTexts failedWorkflow) :=
    congrArg (Option.map fun observation : TerminalObservation =>
      (observation.reason, observation.workflowStatus)) same
  rw [first, second] at told
  exact absurd told (by decide)

end OnePersonLab.Attempt

import OnePersonLab.Contract.Json
import OnePersonLab.Lib.Reducer

/-!
# The quality cycle of a stage

`reduceStageQualityCycleState` moves a stage from its producer over reviews and
repairs to a verdict. The events of producers and repairers are guarded by the
status they belong to. A completed review is not: it counts in whatever status
it arrives.
-/

namespace OnePersonLab.Stage

open Contract Lib

/-! ## The reducer -/

inductive StageQualityAttemptRole where
  | producer
  | reviewer
  | repairer
  | reReviewer
  deriving DecidableEq, Repr

inductive StageQualityReviewVerdict where
  | pass
  | repairRequired
  | qualityDebt
  | hardStop
  deriving DecidableEq, Repr

inductive StageQualityStatus where
  | awaitingProducer
  | awaitingReview
  | awaitingRepair
  | passed
  | qualityDebt
  | hardStopped
  deriving DecidableEq, Repr

def StageQualityStatus.terminal : StageQualityStatus → Bool
  | .passed | .qualityDebt | .hardStopped => true
  | _ => false

structure StageQualityCycleState where
  stageRunId : String
  qualityCycleId : String
  maxRepairRounds : Nat
  repairRoundsUsed : Nat
  currentRole : Option StageQualityAttemptRole
  status : StageQualityStatus
  selectedArtifactRefs : List String
  qualityDebtRefs : List String
  deriving DecidableEq

inductive StageQualityCycleEvent where
  | producerCompleted (artifactRefs : List String)
  | reviewCompleted (verdict : StageQualityReviewVerdict) (qualityDebtRefs : Option (List String))
  | repairCompleted (artifactRefs : List String)
  | hardStop
  deriving DecidableEq

/-- `nonEmptyStrings`: the trimmed texts, each once. -/
def nonEmptyStrings (value : List String) (field : String) : Checked (List String) := do
  ensure (∀ entry ∈ value, trim entry ≠ "") s!"{field} must contain non-empty string refs."
  return (value.map trim).eraseDups

def requiredText (value : Option Json) (field : String) : Checked String := do
  let text := trim ((value.bind Json.asString?).getD "")
  ensure (text ≠ "") s!"{field} must be a non-empty string."
  return text

structure StageQualityCycleInput where
  stageRunId : String
  qualityCycleId : String
  maxRepairRounds : Option Int

def initialStageQualityCycleState (input : StageQualityCycleInput) :
    Checked StageQualityCycleState := do
  let maxRepairRounds := input.maxRepairRounds.getD 3
  ensure (0 ≤ maxRepairRounds) "maxRepairRounds must be a non-negative integer."
  let stageRunId ← requiredText (some (.string input.stageRunId)) "stage_run_id"
  let qualityCycleId ← requiredText (some (.string input.qualityCycleId)) "quality_cycle_id"
  return {
    stageRunId, qualityCycleId
    maxRepairRounds := maxRepairRounds.toNat
    repairRoundsUsed := 0
    currentRole := some .producer
    status := .awaitingProducer
    selectedArtifactRefs := []
    qualityDebtRefs := [] }

/-- The part of the reducer for a completed review. -/
def completeReview (state : StageQualityCycleState) (verdict : StageQualityReviewVerdict)
    (qualityDebtRefs : Option (List String)) : Checked StageQualityCycleState :=
  match verdict with
  | .hardStop => return { state with status := .hardStopped, currentRole := none }
  | .pass => return { state with status := .passed, currentRole := none }
  | _ => do
    let debtRefs ← nonEmptyStrings (qualityDebtRefs.getD []) "quality_debt_refs"
    if verdict = .qualityDebt ∨ state.maxRepairRounds ≤ state.repairRoundsUsed then
      if state.selectedArtifactRefs = [] then
        return { state with status := .hardStopped, currentRole := none }
      return { state with
        status := .qualityDebt, currentRole := none, qualityDebtRefs := debtRefs }
    return { state with
      status := .awaitingRepair, currentRole := some .repairer, qualityDebtRefs := debtRefs }

def reduceStageQualityCycleState (state : StageQualityCycleState) (event : StageQualityCycleEvent) :
    Checked StageQualityCycleState := do
  ensure (state.status.terminal = false)
    "Terminal Stage quality cycle cannot consume another event."
  match event with
  | .producerCompleted artifactRefs =>
    ensure (state.status = .awaitingProducer) "producer_completed is out of order."
    let selected ← nonEmptyStrings artifactRefs "artifact_refs"
    return { state with
      status := .awaitingReview, currentRole := some .reviewer, selectedArtifactRefs := selected }
  | .repairCompleted artifactRefs =>
    ensure (state.status = .awaitingRepair) "repair_completed is out of order."
    let selected ← nonEmptyStrings artifactRefs "artifact_refs"
    return { state with
      repairRoundsUsed := state.repairRoundsUsed + 1
      status := .awaitingReview
      currentRole := some .reReviewer
      selectedArtifactRefs := selected }
  | .hardStop => return { state with status := .hardStopped, currentRole := none }
  | .reviewCompleted verdict qualityDebtRefs => completeReview state verdict qualityDebtRefs

/-! ## What an accepted event does -/

/-- A producer or a repairer hands in its artifacts. -/
def StageQualityCycleEvent.changesArtifact : StageQualityCycleEvent → Bool
  | .producerCompleted _ | .repairCompleted _ => true
  | _ => false

def StageQualityCycleEvent.isReview : StageQualityCycleEvent → Bool
  | .reviewCompleted _ _ => true
  | _ => false

/-- Where an accepted event leads. -/
inductive Moves (state : StageQualityCycleState) (event : StageQualityCycleEvent)
    (next : StageQualityCycleState) : Prop where
  | produced : state.status = .awaitingProducer → event.changesArtifact = true →
    next.status = .awaitingReview → next.repairRoundsUsed = state.repairRoundsUsed →
    Moves state event next
  | repaired : state.status = .awaitingRepair → event.changesArtifact = true →
    next.status = .awaitingReview → next.repairRoundsUsed = state.repairRoundsUsed + 1 →
    Moves state event next
  | sentBack : event.isReview = true → state.repairRoundsUsed < state.maxRepairRounds →
    next.status = .awaitingRepair → next.repairRoundsUsed = state.repairRoundsUsed →
    Moves state event next
  | settled : event.isReview = true → next.status = .passed ∨ next.status = .qualityDebt →
    next.repairRoundsUsed = state.repairRoundsUsed → Moves state event next
  | stopped : next.status = .hardStopped → next.repairRoundsUsed = state.repairRoundsUsed →
    Moves state event next

variable {state next : StageQualityCycleState} {event : StageQualityCycleEvent}

theorem completeReview_moves {verdict : StageQualityReviewVerdict}
    {qualityDebtRefs : Option (List String)}
    (reviewed : completeReview state verdict qualityDebtRefs = .ok next) :
    Moves state (.reviewCompleted verdict qualityDebtRefs) next ∧
      next.maxRepairRounds = state.maxRepairRounds := by
  unfold completeReview at reviewed
  split at reviewed
  · obtain rfl := pure_eq_ok.1 reviewed
    exact ⟨.stopped rfl rfl, rfl⟩
  · obtain rfl := pure_eq_ok.1 reviewed
    exact ⟨.settled rfl (.inl rfl) rfl, rfl⟩
  · obtain ⟨debtRefs, -, reviewed⟩ := bind_eq_ok.1 reviewed
    split at reviewed
    · split at reviewed <;> obtain rfl := pure_eq_ok.1 reviewed
      · exact ⟨.stopped rfl rfl, rfl⟩
      · exact ⟨.settled rfl (.inr rfl) rfl, rfl⟩
    · rename_i rounds
      obtain rfl := pure_eq_ok.1 reviewed
      exact ⟨.sentBack rfl (not_le.1 (not_or.1 rounds).2) rfl rfl, rfl⟩

theorem reduceStageQualityCycleState_moves
    (reduced : reduceStageQualityCycleState state event = .ok next) :
    state.status.terminal = false ∧ Moves state event next ∧
      next.maxRepairRounds = state.maxRepairRounds := by
  obtain ⟨_, live, reduced⟩ := bind_eq_ok.1 reduced
  refine ⟨ensure_eq_ok.1 live, ?_⟩
  cases event with
  | producerCompleted artifactRefs =>
    simp only [bind_eq_ok, ensure_eq_ok, pure_eq_ok] at reduced
    obtain ⟨_, awaited, selected, -, rfl⟩ := reduced
    exact ⟨.produced awaited rfl rfl rfl, rfl⟩
  | repairCompleted artifactRefs =>
    simp only [bind_eq_ok, ensure_eq_ok, pure_eq_ok] at reduced
    obtain ⟨_, awaited, selected, -, rfl⟩ := reduced
    exact ⟨.repaired awaited rfl rfl rfl, rfl⟩
  | hardStop =>
    obtain rfl := pure_eq_ok.1 reduced
    exact ⟨.stopped rfl rfl, rfl⟩
  | reviewCompleted verdict qualityDebtRefs => exact completeReview_moves reduced

theorem initialStageQualityCycleState_eq_ok {input : StageQualityCycleInput}
    {start : StageQualityCycleState} (initial : initialStageQualityCycleState input = .ok start) :
    start.status = .awaitingProducer ∧ start.repairRoundsUsed = 0 := by
  simp only [initialStageQualityCycleState, bind_eq_ok, pure_eq_ok] at initial
  obtain ⟨_, -, _, -, _, -, rfl⟩ := initial
  exact ⟨rfl, rfl⟩

/-! ## Histories -/

abbrev CycleHistory := History StageQualityCycleState StageQualityCycleEvent

/-- What a cycle comes to when the events are offered to it. -/
def cycleHistory (start : StageQualityCycleState) (events : List StageQualityCycleEvent) :
    CycleHistory :=
  Reducer.history reduceStageQualityCycleState start events

/-- A review was accepted after the last change of the artifacts. -/
def ReviewedInFinalForm (accepted : List (StageQualityCycleState × StageQualityCycleEvent)) :
    Prop :=
  ∃ earlier change later, accepted = earlier ++ change :: later ∧
    change.2.changesArtifact = true ∧ (∀ step ∈ later, step.2.changesArtifact = false) ∧
    ∃ step ∈ later, step.2.isReview = true

/-- The law of a cycle: nothing passes unreviewed, a review counts where one is
awaited, and the repair budget bounds the rounds and the events. -/
structure ReviewLaw (maxRepairRounds : Nat) (history : CycleHistory) : Prop where
  reviewed : history.state.status = .passed ∨ history.state.status = .qualityDebt →
    ReviewedInFinalForm history.accepted
  awaited : ∀ step ∈ history.accepted, step.2.isReview = true → step.1.status = .awaitingReview
  rounds : history.state.repairRoundsUsed ≤ maxRepairRounds
  events : history.accepted.length ≤ 2 * maxRepairRounds + 2

/-- No review is reported while a producer or a repairer is still at work. -/
def ReviewInTurn (state : StageQualityCycleState) (event : StageQualityCycleEvent) : Prop :=
  event.isReview = true → state.status ≠ .awaitingProducer ∧ state.status ≠ .awaitingRepair

/-- How far a cycle is in each status. -/
def Progress (history : CycleHistory) : Prop :=
  match history.state.status with
  | .awaitingProducer => history.accepted = [] ∧ history.state.repairRoundsUsed = 0
  | .awaitingReview =>
    history.accepted.length = 2 * history.state.repairRoundsUsed + 1 ∧
      ∃ earlier change, history.accepted = earlier ++ [change] ∧ change.2.changesArtifact = true
  | .awaitingRepair =>
    history.accepted.length = 2 * history.state.repairRoundsUsed + 2 ∧
      history.state.repairRoundsUsed < history.state.maxRepairRounds
  | .passed | .qualityDebt =>
    history.accepted.length = 2 * history.state.repairRoundsUsed + 2 ∧
      ReviewedInFinalForm history.accepted
  | .hardStopped => history.accepted.length ≤ 2 * history.state.maxRepairRounds + 2

structure CycleInvariant (maxRepairRounds : Nat) (history : CycleHistory) : Prop where
  budget : history.state.maxRepairRounds = maxRepairRounds
  rounds : history.state.repairRoundsUsed ≤ history.state.maxRepairRounds
  awaited : ∀ step ∈ history.accepted, step.2.isReview = true → step.1.status = .awaitingReview
  progress : Progress history

section

variable {maxRepairRounds : Nat} {history : CycleHistory}

theorem ReviewInTurn.awaited (inTurn : ReviewInTurn state event)
    (live : state.status.terminal = false) (review : event.isReview = true) :
    state.status = .awaitingReview := by
  obtain ⟨noProducer, noRepair⟩ := inTurn review
  cases status : state.status <;> simp_all [StageQualityStatus.terminal]

/-- A cycle that is not over has room for one more event. -/
theorem CycleInvariant.room (invariant : CycleInvariant maxRepairRounds history)
    (live : history.state.status.terminal = false) :
    history.accepted.length + 1 ≤ 2 * history.state.maxRepairRounds + 2 := by
  have rounds := invariant.rounds
  have progress := invariant.progress
  unfold Progress at progress
  split at progress
  · rw [progress.1, List.length_nil]
    omega
  · omega
  · omega
  all_goals
    rename_i ended
    simp [ended, StageQualityStatus.terminal] at live

theorem CycleInvariant.accept (invariant : CycleInvariant maxRepairRounds history)
    (inTurn : ReviewInTurn history.state event)
    (reduced : reduceStageQualityCycleState history.state event = .ok next) :
    CycleInvariant maxRepairRounds ⟨next, history.accepted ++ [(history.state, event)]⟩ := by
  obtain ⟨live, moves, budget⟩ := reduceStageQualityCycleState_moves reduced
  have rounds := invariant.rounds
  have progress := invariant.progress
  have awaited : ∀ step ∈ history.accepted ++ [(history.state, event)],
      step.2.isReview = true → step.1.status = .awaitingReview := by
    intro step listed review
    rcases List.mem_append.1 listed with earlier | now
    · exact invariant.awaited step earlier review
    · obtain rfl := List.mem_singleton.1 now
      exact inTurn.awaited live review
  have within := invariant.budget
  cases moves with
  | produced status changes reaches used =>
    simp only [Progress, status] at progress
    refine ⟨budget.trans within, by simp [used, budget, rounds], awaited, ?_⟩
    simp only [Progress, reaches]
    exact ⟨by simp [progress, used], _, _, rfl, changes⟩
  | repaired status changes reaches used =>
    simp only [Progress, status] at progress
    refine ⟨budget.trans within, ?_, awaited, ?_⟩
    · simp only [used, budget]
      omega
    · simp only [Progress, reaches]
      refine ⟨?_, _, _, rfl, changes⟩
      simp only [List.length_append, List.length_singleton, used]
      omega
  | sentBack review left reaches used =>
    simp only [Progress, inTurn.awaited live review] at progress
    refine ⟨budget.trans within, by simp [used, budget, rounds], awaited, ?_⟩
    simp only [Progress, reaches, List.length_append, List.length_singleton, used, budget]
    exact ⟨by omega, left⟩
  | settled review reaches used =>
    simp only [Progress, inTurn.awaited live review] at progress
    obtain ⟨length, earlier, change, whole, changes⟩ := progress
    have final : ReviewedInFinalForm (history.accepted ++ [(history.state, event)]) := by
      refine ⟨earlier, change, [(history.state, event)], by simp [whole], changes, ?_, ?_⟩
      · cases event <;> simp_all [StageQualityCycleEvent.isReview,
          StageQualityCycleEvent.changesArtifact]
      · exact ⟨_, List.mem_singleton_self _, review⟩
    refine ⟨budget.trans within, by simp [used, budget, rounds], awaited, ?_⟩
    have counted : (history.accepted ++ [(history.state, event)]).length =
        2 * next.repairRoundsUsed + 2 := by
      rw [List.length_append, List.length_singleton, length, used]
    rcases reaches with passed | debt
    · simpa only [Progress, passed] using And.intro counted final
    · simpa only [Progress, debt] using And.intro counted final
  | stopped reaches used =>
    refine ⟨budget.trans within, by simp [used, budget, rounds], awaited, ?_⟩
    simpa [Progress, reaches, budget] using invariant.room live

theorem CycleInvariant.law (invariant : CycleInvariant maxRepairRounds history) :
    ReviewLaw maxRepairRounds history := by
  have rounds := invariant.rounds
  have progress := invariant.progress
  have budget := invariant.budget
  refine ⟨?_, invariant.awaited, budget ▸ rounds, ?_⟩
  · rintro (passed | debt)
    · simp only [Progress, passed] at progress
      exact progress.2
    · simp only [Progress, debt] at progress
      exact progress.2
  · unfold Progress at progress
    split at progress <;> grind

/-- The law holds in every cycle whose reviews come in their turn. -/
theorem reviewLaw_of_reviewInTurn {input : StageQualityCycleInput} {start : StageQualityCycleState}
    (initial : initialStageQualityCycleState input = .ok start)
    {events : List StageQualityCycleEvent}
    (inTurn : Reducer.Meets reduceStageQualityCycleState start ReviewInTurn events) :
    ReviewLaw start.maxRepairRounds (cycleHistory start events) := by
  obtain ⟨status, used⟩ := initialStageQualityCycleState_eq_ok initial
  refine CycleInvariant.law (Reducer.history_induction _ start ?_ ?_ inTurn)
  · exact ⟨rfl, by simp [used], by simp, by simp [Progress, status, used]⟩
  · intro history event next inTurn reduced invariant
    exact invariant.accept inTurn reduced

end

/-- A cycle of one repair round, at its start. -/
def oneRoundCycle : StageQualityCycleState where
  stageRunId := "stage-run"
  qualityCycleId := "quality-cycle"
  maxRepairRounds := 1
  repairRoundsUsed := 0
  currentRole := some .producer
  status := .awaitingProducer
  selectedArtifactRefs := []
  qualityDebtRefs := []

theorem oneRoundCycle_initial :
    initialStageQualityCycleState ⟨"stage-run", "quality-cycle", some 1⟩ = .ok oneRoundCycle := by
  decide +kernel

instance (state : StageQualityCycleState) (event : StageQualityCycleEvent) :
    Decidable (ReviewInTurn state event) := inferInstanceAs (Decidable (_ → _))

theorem reviewLaw_of_reviewInTurn_repaired :
    ReviewLaw 1 (cycleHistory oneRoundCycle [
      .producerCompleted ["draft"], .reviewCompleted .repairRequired (some ["finding"]),
      .repairCompleted ["repaired draft"], .reviewCompleted .pass none]) :=
  reviewLaw_of_reviewInTurn oneRoundCycle_initial
    (((((Reducer.meets_nil _ _ _).concat (by decide +kernel)).concat (by decide +kernel)).concat
      (by decide +kernel)).concat (by decide +kernel))

/-- A review that is reported before there is any artifact passes the stage. -/
theorem reviewLaw_fails_before_producer :
    initialStageQualityCycleState ⟨"stage-run", "quality-cycle", some 1⟩ = .ok oneRoundCycle ∧
      ¬ReviewLaw 1 (cycleHistory oneRoundCycle [.reviewCompleted .pass none]) := by
  refine ⟨oneRoundCycle_initial, fun law => ?_⟩
  have awaited := law.awaited (oneRoundCycle, .reviewCompleted .pass none) (by decide +kernel) rfl
  cases awaited

end OnePersonLab.Stage

import OnePersonLab.Evolution.ActivationSafety
import OnePersonLab.Evolution.SnapshotBindings

/-!
# The generations of a run

A run admits one blueprint for each generation. Its risk tier is no lower than
the change from the baseline to the current blueprint, the evaluation of a later
generation keeps that of an earlier one, and the generations are as many as the
delivery policy of the request allows. A generation takes a bounded number of
events, so a log is short.
-/

namespace OnePersonLab.Evolution.Kernel

open Contract Lib

variable {kernel : FoundryKernel} {world : World} {request : DesignRequest}
  {events later log : List FoundryRunEvent} {run other : FoundryRunSnapshot}
  {inspection : FoundryRunInspection} {transition : TransitionInput} {occurredAt : String}

/-! ## What moves a generation -/

/-- A payload that leaves the generation, the blueprint and the risk of a run alone. -/
def WithinGeneration (payload : JsonRecord) : Prop :=
  field? payload "generation" = none ∧ field? payload "blueprint_digest" = none ∧
    field? payload "risk_tier" = none

theorem Unrelated.withinGeneration {payload : JsonRecord} (unrelated : Unrelated payload) :
    WithinGeneration payload := ⟨unrelated.1, unrelated.2.1, unrelated.2.2.2⟩

/-- The first blueprint of a run. -/
structure AdmitsBlueprint (kernel : FoundryKernel) (world : World)
    (inspection : FoundryRunInspection) (blueprint : AgentBlueprint)
    (transition : TransitionInput) : Prop where
  state : inspection.run.state = .designing
  admitted : ∃ blueprintDigest previous,
    world.objects blueprintDigest = some (.blueprint blueprint) ∧
      BaselineBlueprint world inspection.request previous ∧
      blueprintAdmitted kernel inspection.run blueprintDigest previous blueprint = .ok transition

/-- The blueprint of the next generation. -/
structure AdmitsProposal (world : World) (inspection : FoundryRunInspection)
    (blueprint next : AgentBlueprint) (transition : TransitionInput) : Prop where
  state : inspection.run.state = .diagnosing
  current : ∃ blueprintDigest, inspection.run.blueprintDigest = some blueprintDigest ∧
    world.objects blueprintDigest = some (.blueprint blueprint)
  keeps : blueprint.evalSpec.Keeps next.evalSpec
  admitted : ∃ proposal proposalDigest nextDigest,
    world.objects nextDigest = some (.blueprint next) ∧ proposal.nextBlueprint = next ∧
      transition = proposalAdmitted inspection.run blueprint proposal proposalDigest nextDigest

/-- An event stays within its generation, admits the first blueprint or admits the next. -/
theorem Justified.generation_cases (justified : Justified kernel world inspection transition) :
    WithinGeneration transition.payload ∧ transition.toState ≠ .materializing ∨
      (∃ blueprint, AdmitsBlueprint kernel world inspection blueprint transition) ∨
      ∃ blueprint next, AdmitsProposal world inspection blueprint next transition := by
  cases justified with
  | designStarted => exact .inl (by simp [WithinGeneration])
  | blueprintAdmitted state stored _ _ baseline admitted =>
    exact .inr (.inl ⟨_, state, _, _, stored, baseline, admitted⟩)
  | candidateMaterialized =>
    exact .inl (by simp [WithinGeneration, Kernel.candidateMaterialized, field?_cons])
  | @candidateQualified _ journaled version =>
    exact .inl (by
      simp [WithinGeneration, Kernel.candidateQualified, evidencePayload, field?_cons])
  | @canaryPassed _ journaled =>
    refine .inl ⟨(?_ : Unrelated _).withinGeneration, ?_⟩
    · simpa [Kernel.canaryPassed] using unrelated_evidencePayload journaled [] (by simp [Unrelated])
    · unfold Kernel.canaryPassed
      split <;> simp
  | @evaluationRejected _ journaled canary =>
    refine .inl ⟨(unrelated_evaluationRejected canary journaled).withinGeneration, ?_⟩
    unfold Kernel.evaluationRejected
    split <;> simp
  | diagnosisStarted => exact .inl (by simp [WithinGeneration])
  | evolutionNoChange => exact .inl (by simp [WithinGeneration, Kernel.evolutionNoChange, field?_cons])
  | proposalAdmitted proposalDigest state current stored next _ kept _ =>
    exact .inr (.inr ⟨_, _, state, ⟨_, current, stored⟩, keeps_of_nonWeakening kept,
      _, _, _, next, rfl, rfl⟩)
  | qualificationRouted =>
    refine .inl ⟨unrelated_qualificationRouted.withinGeneration, ?_⟩
    unfold Kernel.qualificationRouted
    split
    · simp
    · split <;> simp
  | @ownerDecided canary decision _ _ verification =>
    refine .inl ⟨(unrelated_ownerVerificationPayload verification).withinGeneration, ?_⟩
    cases canary <;> cases decision <;> simp [Kernel.ownerDecided]
  | activationCompleted result authority =>
    exact .inl ⟨(unrelated_activationCompleted inspection.run result authority).withinGeneration,
      by simp [Kernel.activationCompleted]⟩
  | @runCancelled _ verification =>
    exact .inl ⟨(unrelated_ownerVerificationPayload verification).withinGeneration,
      by simp [Kernel.runCancelled]⟩
  | quarantined inputDigest failure =>
    exact .inl ⟨(unrelated_failurePayload failure.code failure.message).withinGeneration,
      by simp [quarantinedTransition]⟩
  | failed inputDigest failureCode failureMessage =>
    exact .inl ⟨(unrelated_failurePayload failureCode failureMessage).withinGeneration,
      by simp [failedTransition]⟩

theorem isSnapshot_opening {runId requestDigest : String} {activation : ActivationPointer}
    (snapshot : IsSnapshot
      [acceptanceEvent kernel runId request requestDigest activation occurredAt] run) :
    run.state = .accepted ∧ run.generation = 0 ∧ run.blueprintDigest = none := by
  obtain ⟨first, last, starts, ends, rfl⟩ := snapshot
  obtain rfl := Option.some.inj starts
  obtain rfl := Option.some.inj ends
  refine ⟨rfl, ?_, ?_⟩ <;>
    simp [snapshotBetween, accumulatedPayload, acceptanceEvent, acceptanceInput, sealEvent,
      textField?, naturalField, field?_cons, Json.ofNat]

/-! ## The run after it -/

/-- The blueprint that a run is at. -/
def AtBlueprint (world : World) (run : FoundryRunSnapshot) (blueprint : AgentBlueprint) : Prop :=
  ∃ digest, run.blueprintDigest = some digest ∧ world.objects digest = some (.blueprint blueprint)

theorem AtBlueprint.unique {blueprint next : AgentBlueprint} (current : AtBlueprint world run blueprint)
    (current' : AtBlueprint world other next)
    (same : run.blueprintDigest = other.blueprintDigest) : blueprint = next := by
  obtain ⟨digest, bound, stored⟩ := current
  obtain ⟨digest', bound', stored'⟩ := current'
  obtain rfl : digest = digest' := Option.some.inj (bound.symm.trans (same.trans bound'))
  simpa using stored.symm.trans stored'

/-- The later snapshot is at the same generation, blueprint and risk. -/
structure SameGeneration (run after : FoundryRunSnapshot) : Prop where
  generation : after.generation = run.generation
  blueprintDigest : after.blueprintDigest = run.blueprintDigest
  riskTier : after.riskTier = run.riskTier

theorem WithinGeneration.same (within : WithinGeneration transition.payload) :
    SameGeneration inspection.run
      (inspection.run.after (transitionEvent kernel inspection transition occurredAt)) := by
  obtain ⟨generation, blueprint, risk⟩ := within
  constructor <;> simp [overlayNatural, overlayText, overlayRiskTier, generation, blueprint, risk]

theorem AdmitsBlueprint.after {blueprint : AgentBlueprint}
    (admits : AdmitsBlueprint kernel world inspection blueprint transition) (occurredAt : String) :
    let after := inspection.run.after (transitionEvent kernel inspection transition occurredAt)
    after.generation = 0 ∧ after.state = .materializing ∧ AtBlueprint world after blueprint ∧
      ∃ previous, BaselineBlueprint world inspection.request previous ∧
        after.riskTier = some (accumulatedRisk inspection.run.riskTier
          (recomputeBlueprintRisk previous blueprint).riskTier) := by
  obtain ⟨blueprintDigest, previous, stored, baseline, admitted⟩ := admits.admitted
  obtain ⟨-, toState, named, risk, generation⟩ := blueprintAdmitted_eq_ok admitted
  refine ⟨?_, toState, ⟨blueprintDigest, ?_, stored⟩, previous, baseline, ?_⟩
  · simp [overlayNatural, naturalField, generation, Json.ofNat]
  · simp [overlayText, named, Json.asString?]
  · simp [overlayRiskTier, risk, Json.asString?, ofText?_text]

theorem AdmitsProposal.after {blueprint next : AgentBlueprint}
    (admits : AdmitsProposal world inspection blueprint next transition) (kernel : FoundryKernel)
    (occurredAt : String) :
    let after := inspection.run.after (transitionEvent kernel inspection transition occurredAt)
    after.generation = inspection.run.generation + 1 ∧ after.state = .materializing ∧
      AtBlueprint world after next ∧ ∃ admitted,
        (recomputeBlueprintRisk (some blueprint) next).riskTier ≤ admitted ∧
          after.riskTier = some (accumulatedRisk inspection.run.riskTier admitted) := by
  obtain ⟨proposal, proposalDigest, nextDigest, stored, rfl, rfl⟩ := admits.admitted
  refine ⟨?_, rfl, ⟨nextDigest, ?_, stored⟩,
    maximumRiskTier [(recomputeBlueprintRisk (some blueprint) proposal.nextBlueprint).riskTier,
      maximumRiskTier proposal.riskHints], ?_, ?_⟩
  · simp only [after_generation, overlayNatural, naturalField, proposalAdmitted, field?_cons,
      Json.ofNat, String.reduceEq, if_false, if_true]
    exact Int.toNat_natCast _
  · simp [overlayText, proposalAdmitted, field?_cons, Json.asString?]
  · rw [maximumRiskTier_pair]
    exact le_max_left _ _
  · simp [overlayRiskTier, proposalAdmitted, field?_cons, Json.asString?, ofText?_text]

/-! ## The risk of a run -/

/-- The tier of a run covers the change from the baseline to its blueprint. -/
def RiskCovered (world : World) (request : DesignRequest) (run : FoundryRunSnapshot) : Prop :=
  ∀ digest, run.blueprintDigest = some digest → ∃ blueprint previous tier,
    world.objects digest = some (.blueprint blueprint) ∧
      BaselineBlueprint world request previous ∧ run.riskTier = some tier ∧
      (recomputeBlueprintRisk previous blueprint).riskTier ≤ tier

theorem admitted_le_accumulatedRisk (current : Option FoundryRiskTier) (admitted : FoundryRiskTier) :
    admitted ≤ accumulatedRisk current admitted := by
  cases current with
  | none => exact le_refl admitted
  | some tier =>
    rw [accumulatedRisk, maximumRiskTier_pair]
    exact le_max_right _ _

theorem Justified.riskCovered (justified : Justified kernel world inspection transition)
    (covered : RiskCovered world inspection.request inspection.run) :
    RiskCovered world inspection.request
      (inspection.run.after (transitionEvent kernel inspection transition occurredAt)) := by
  intro digest bound
  rcases justified.generation_cases with ⟨within, -⟩ | ⟨blueprint, admits⟩ |
    ⟨blueprint, next, admits⟩
  · have same : SameGeneration inspection.run (inspection.run.after
      (transitionEvent kernel inspection transition occurredAt)) := within.same
    rw [same.blueprintDigest] at bound
    rw [same.riskTier]
    exact covered digest bound
  · obtain ⟨-, -, ⟨digest', bound', stored⟩, previous, baseline, tier⟩ := admits.after occurredAt
    obtain rfl := Option.some.inj (bound'.symm.trans bound)
    exact ⟨blueprint, previous, _, stored, baseline, tier, admitted_le_accumulatedRisk _ _⟩
  · obtain ⟨-, -, ⟨digest', bound', stored⟩, admitted, enough, tier⟩ :=
      admits.after kernel occurredAt
    obtain rfl := Option.some.inj (bound'.symm.trans bound)
    obtain ⟨earlier, earlierBound, earlierStored⟩ := admits.current
    obtain ⟨blueprint', previous, tier', stored', baseline, graded, le⟩ := covered earlier earlierBound
    obtain rfl : blueprint = blueprint' := by simpa using earlierStored.symm.trans stored'
    refine ⟨next, previous, _, stored, baseline, tier, ?_⟩
    rw [graded]
    exact (riskTier_triangle previous blueprint next).trans
      (max_le (le.trans (le_accumulatedRisk tier' admitted))
        (enough.trans (admitted_le_accumulatedRisk _ _)))

/-- The risk of no run can be split over its generations. -/
theorem KernelLog.riskCovered (written : KernelLog kernel world request events)
    (snapshot : IsSnapshot events run) : RiskCovered world request run := by
  refine written.snapshot_induction (motive := fun _ => RiskCovered world request) ?_ ?_ snapshot
  · intro runId requestDigest activation occurredAt run opening digest bound
    cases (isSnapshot_opening opening).2.2.symm.trans bound
  · intro events inspection transition occurredAt _ _ same justified _ ih
    subst same
    exact justified.riskCovered ih

/-! ## The pace of a run -/

/-- The events that a run has at most behind it in a state of its first generation. -/
def FoundryRunState.stage : FoundryRunState → Nat
  | .accepted => 1
  | .designing => 2
  | .materializing => 3
  | .evaluating => 4
  | .qualified => 5
  | .awaitingOwnerCanary => 6
  | .canary => 7
  | .awaitingOwnerActive | .evidenceReady => 8
  | .activating | .diagnosing => 9
  | .completedActive | .completedQualified | .completedUnqualified | .rejected | .cancelled
  | .failed | .quarantined => 10

/-- Every transition leads to a later stage, but for the one to the next generation. -/
theorem stage_lt_of_allowed (before : FoundryRunState) : ∀ next ∈ before.allowedTransitions,
    FoundryRunState.stage before < FoundryRunState.stage next ∨
      before = .diagnosing ∧ next = .materializing := by
  cases before <;> decide

theorem accepted_of_allowed (before : FoundryRunState) : ∀ next ∈ before.allowedTransitions,
    next = .accepted ∨ next = .designing → before = .accepted := by
  cases before <;> decide

theorem evidenceReady_of_allowed (before : FoundryRunState) :
    ∀ next ∈ before.allowedTransitions, next = .diagnosing → before = .evidenceReady := by
  cases before <;> decide

structure Paced (request : DesignRequest) (events : List FoundryRunEvent)
    (run : FoundryRunSnapshot) : Prop where
  /-- Each generation but the last takes seven events. -/
  length : events.length ≤ FoundryRunState.stage run.state + 7 * run.generation
  bounded : run.generation ≤ request.deliveryPolicy.maxGenerations
  initial : run.state = .accepted ∨ run.state = .designing →
    run.generation = 0 ∧ run.blueprintDigest = none
  /-- A run is diagnosed only while another generation is allowed. -/
  another : run.state = .evidenceReady ∨ run.state = .diagnosing →
    run.generation < request.deliveryPolicy.maxGenerations

/-- An evaluation sends the run back only while another generation is allowed. -/
theorem Justified.another (justified : Justified kernel world inspection transition)
    (back : transition.toState = .evidenceReady) :
    inspection.run.generation < inspection.request.deliveryPolicy.maxGenerations := by
  cases justified with
  | evaluationRejected =>
    simp only [Kernel.evaluationRejected] at back
    split at back
    · cases back
    · rename_i unspent
      simp only [budgetExhausted, decide_eq_true_eq, not_or, not_le] at unspent
      exact unspent.1
  | blueprintAdmitted _ _ _ _ _ admitted =>
    cases (blueprintAdmitted_eq_ok admitted).2.1.symm.trans back
  | canaryPassed =>
    unfold Kernel.canaryPassed at back
    dsimp only at back
    split at back <;> cases back
  | qualificationRouted =>
    unfold Kernel.qualificationRouted at back
    split at back
    · cases back
    · split at back <;> cases back
  | @ownerDecided canary decision =>
    cases canary <;> cases decision <;> cases back
  | _ => cases back

theorem Justified.paced (justified : Justified kernel world inspection transition)
    (allowed : transition.toState ∈ inspection.run.state.allowedTransitions)
    (paced : Paced inspection.request events inspection.run) :
    Paced inspection.request
      (events ++ [transitionEvent kernel inspection transition occurredAt])
      (inspection.run.after (transitionEvent kernel inspection transition occurredAt)) := by
  have onward := stage_lt_of_allowed _ _ allowed
  have length := paced.length
  set after := inspection.run.after (transitionEvent kernel inspection transition occurredAt)
    with after_eq
  have state : after.state = transition.toState := rfl
  rcases justified.generation_cases with ⟨within, elsewhere⟩ | ⟨blueprint, admits⟩ |
    ⟨blueprint, next, admits⟩
  · have same : SameGeneration inspection.run after := within.same
    have further := onward.resolve_right fun next => elsewhere next.2
    refine ⟨?_, same.generation ▸ paced.bounded, ?_, ?_⟩
    · rw [List.length_append, List.length_singleton, same.generation, state]
      omega
    · rw [same.generation, same.blueprintDigest, state]
      exact fun early => paced.initial (.inl (accepted_of_allowed _ _ allowed early))
    · rw [same.generation, state]
      rintro (ready | diagnosing)
      · exact justified.another ready
      · exact paced.another (.inl (evidenceReady_of_allowed _ _ allowed diagnosing))
  · obtain ⟨generation, materializing, -⟩ := admits.after occurredAt
    have initial := (paced.initial (.inr admits.state)).1
    rw [admits.state, initial] at length
    refine ⟨?_, by rw [generation]; exact Nat.zero_le _, ?_, ?_⟩
    · rw [List.length_append, List.length_singleton, generation, materializing]
      simp only [FoundryRunState.stage] at length ⊢
      omega
    · rw [materializing]
      simp
    · rw [materializing]
      simp
  · obtain ⟨generation, materializing, -⟩ := admits.after kernel occurredAt
    rw [admits.state] at length
    refine ⟨?_, by rw [generation]; exact paced.another (.inr admits.state), ?_, ?_⟩
    · rw [List.length_append, List.length_singleton, generation, materializing]
      simp only [FoundryRunState.stage] at length ⊢
      omega
    · rw [materializing]
      simp
    · rw [materializing]
      simp

theorem KernelLog.paced (written : KernelLog kernel world request events)
    (snapshot : IsSnapshot events run) : Paced request events run := by
  refine written.snapshot_induction (motive := Paced request) ?_ ?_ snapshot
  · intro runId requestDigest activation occurredAt run opening
    obtain ⟨state, generation, blueprint⟩ := isSnapshot_opening opening
    refine ⟨?_, ?_, fun _ => ⟨generation, blueprint⟩, ?_⟩ <;>
      simp [state, generation, FoundryRunState.stage]
  · intro events inspection transition occurredAt log snapshot same justified follows ih
    subst same
    obtain ⟨last, ends, -, state, -⟩ := snapshot.last
    refine justified.paced ?_ ih
    rw [state]
    exact (follows.allowed ends).1

/-- A log is shorter than the limit of the transition loop. -/
theorem KernelLog.length_le (written : KernelLog kernel world request events) :
    events.length ≤ 45 := by
  obtain ⟨run, snapshot⟩ := exists_isSnapshot written.verified.ne_nil
  have paced := written.paced snapshot
  have length := paced.length
  have bounded := paced.bounded
  have few : request.deliveryPolicy.maxGenerations ≤ 5 := by
    obtain ⟨value, valid⟩ := (written.identity snapshot).valid
    exact validateDesignRequest_maxGenerations valid
  have late : FoundryRunState.stage run.state ≤ 10 := by
    cases run.state <;> decide
  omega

/-- The step out of a diagnosis to another blueprint opens the next generation. -/
theorem KernelLog.nextGeneration (written : KernelLog kernel world request log) {index : Nat}
    (snapshot : IsSnapshot (log.take index) run)
    (snapshot' : IsSnapshot (log.take (index + 1)) other) (diagnosing : run.state = .diagnosing)
    (materializing : other.state = .materializing) : other.generation = run.generation + 1 := by
  cases found : log[index]? with
  | none =>
    have short := List.getElem?_eq_none_iff.1 found
    rw [List.take_of_length_le short] at snapshot
    rw [List.take_of_length_le (by omega)] at snapshot'
    rw [snapshot.unique snapshot', materializing] at diagnosing
    cases diagnosing
  | some event =>
    rw [List.take_add_one, found, Option.toList_some] at snapshot'
    rcases written.event_at found with
      ⟨rfl, -⟩ | ⟨inspection, transition, occurredAt, -, before, -, justified, rfl⟩
    · exact absurd rfl snapshot.ne_nil
    obtain rfl := before.unique snapshot
    obtain rfl := snapshot'.unique (before.append _)
    rcases justified.generation_cases with ⟨-, elsewhere⟩ | ⟨blueprint, admits⟩ |
      ⟨blueprint, next, admits⟩
    · exact absurd materializing elsewhere
    · cases admits.state.symm.trans diagnosing
    · exact (admits.after kernel occurredAt).1

/-! ## Later generations -/

/-- What a run keeps of an earlier snapshot with a blueprint: the generation does
not fall, it determines the blueprint, and the evaluation is kept. -/
structure Continues (world : World) (run : FoundryRunSnapshot) (blueprint : AgentBlueprint)
    (other : FoundryRunSnapshot) : Prop where
  generation : run.generation ≤ other.generation
  blueprintDigest : other.generation = run.generation → other.blueprintDigest = run.blueprintDigest
  keeps : ∃ next, AtBlueprint world other next ∧ blueprint.evalSpec.Keeps next.evalSpec

section

variable {blueprint : AgentBlueprint}

theorem Continues.refl (current : AtBlueprint world run blueprint) :
    Continues world run blueprint run :=
  ⟨le_rfl, fun _ => rfl, blueprint, current, EvalSpec.Keeps.refl _⟩

theorem Justified.continues (justified : Justified kernel world inspection transition)
    (paced : Paced inspection.request events inspection.run)
    (continues : Continues world run blueprint inspection.run) :
    Continues world run blueprint
      (inspection.run.after (transitionEvent kernel inspection transition occurredAt)) := by
  obtain ⟨next, current, keeps⟩ := continues.keeps
  rcases justified.generation_cases with ⟨within, -⟩ | ⟨first, admits⟩ | ⟨middle, last, admits⟩
  · have same : SameGeneration inspection.run (inspection.run.after
      (transitionEvent kernel inspection transition occurredAt)) := within.same
    obtain ⟨digest, bound, stored⟩ := current
    exact ⟨same.generation ▸ continues.generation,
      by rw [same.generation, same.blueprintDigest]; exact continues.blueprintDigest,
      next, ⟨digest, same.blueprintDigest.trans bound, stored⟩, keeps⟩
  · -- a run that is still designing is at no blueprint
    obtain ⟨digest, bound, -⟩ := current
    cases (paced.initial (.inr admits.state)).2.symm.trans bound
  · obtain ⟨generation, -, reached, -⟩ := admits.after kernel occurredAt
    obtain rfl : middle = next := AtBlueprint.unique admits.current current rfl
    have further := continues.generation
    exact ⟨by omega, fun same => by omega, last, reached, keeps.trans admits.keeps⟩

theorem KernelLog.continues (written : KernelLog kernel world request later)
    (within : events <+: later) (snapshot : IsSnapshot events run)
    (snapshot' : IsSnapshot later other) (current : AtBlueprint world run blueprint) :
    Continues world run blueprint other := by
  refine written.snapshot_induction
    (motive := fun later other => events <+: later → Continues world run blueprint other)
    ?_ ?_ snapshot' within
  · intro runId requestDigest activation occurredAt other opening within
    obtain rfl := (List.prefix_concat_iff.1 within).resolve_right
      fun shorter => snapshot.ne_nil (List.prefix_nil.1 shorter)
    rw [opening.unique snapshot]
    exact Continues.refl current
  · intro later inspection transition occurredAt log folded same justified _ ih within
    subst same
    rcases List.prefix_concat_iff.1 within with rfl | shorter
    · rw [(folded.append _).unique snapshot]
      exact Continues.refl current
    · exact justified.continues (log.paced folded) (ih shorter)

/-- The evaluation bar does not drop from one generation to a later one. -/
theorem KernelLog.keeps (written : KernelLog kernel world request log) (within : events <+: log)
    (within' : later <+: log) (snapshot : IsSnapshot events run)
    (snapshot' : IsSnapshot later other) (ordered : run.generation ≤ other.generation)
    {next : AgentBlueprint} (current : AtBlueprint world run blueprint)
    (current' : AtBlueprint world other next) : blueprint.evalSpec.Keeps next.evalSpec := by
  rcases List.prefix_or_prefix_of_prefix within within' with earlier | turned
  · obtain ⟨reached, there, keeps⟩ :=
      ((written.of_prefix within' snapshot'.ne_nil).continues earlier snapshot snapshot' current).keeps
    rwa [← AtBlueprint.unique there current' rfl]
  · have continues := (written.of_prefix within snapshot.ne_nil).continues turned snapshot' snapshot
      current'
    have same := continues.blueprintDigest (le_antisymm ordered continues.generation)
    rw [AtBlueprint.unique current current' same]
    exact EvalSpec.Keeps.refl _

/-- A generation has one blueprint. -/
theorem KernelLog.blueprint_unique (written : KernelLog kernel world request log)
    (within : events <+: log) (within' : later <+: log) (snapshot : IsSnapshot events run)
    (snapshot' : IsSnapshot later other) (same : run.generation = other.generation)
    {next : AgentBlueprint} (current : AtBlueprint world run blueprint)
    (current' : AtBlueprint world other next) : blueprint = next := by
  rcases List.prefix_or_prefix_of_prefix within within' with earlier | turned
  · have continues := (written.of_prefix within' snapshot'.ne_nil).continues earlier snapshot
      snapshot' current
    exact AtBlueprint.unique current current' (continues.blueprintDigest same.symm).symm
  · have continues := (written.of_prefix within snapshot.ne_nil).continues turned snapshot' snapshot
      current'
    exact AtBlueprint.unique current current' (continues.blueprintDigest same)

end

/-! ## The evidence of a generation -/

/-- The event records evidence at the generation. -/
def RecordsEvidence (generation : Nat) (evidenceDigest : String) (event : FoundryRunEvent)
    (before : FoundryRunSnapshot) : Prop :=
  before.generation = generation ∧
    textField? event.payload "evidence_digest" = some evidenceDigest

/-- Recorded evidence was evaluated on the blueprint of the run. -/
theorem Justified.evaluated (justified : Justified kernel world inspection transition)
    {evidenceDigest : String}
    (records : textField? transition.payload "evidence_digest" = some evidenceDigest) :
    ∃ subject journaled, Evaluated kernel world inspection subject journaled ∧
      journaled.result.evidenceDigest = evidenceDigest := by
  cases justified with
  | @candidateQualified subject journaled _ _ evaluated =>
    refine ⟨subject, journaled, evaluated, ?_⟩
    simpa [textField?, Kernel.candidateQualified, evidencePayload, field?_cons,
      Json.asString?] using records
  | @canaryPassed subject journaled _ evaluated =>
    refine ⟨subject, journaled, evaluated, ?_⟩
    simpa [textField?, Kernel.canaryPassed, evidencePayload, field?_cons,
      Json.asString?] using records
  | @evaluationRejected subject journaled _ _ evaluated =>
    refine ⟨subject, journaled, evaluated, ?_⟩
    simpa [textField?, Kernel.evaluationRejected, evidencePayload, field?_cons,
      Json.asString?] using records
  | designStarted => simp [textField?] at records
  | blueprintAdmitted _ _ _ _ _ admitted =>
    simp [textField?, (blueprintAdmitted_silent admitted).2] at records
  | candidateMaterialized =>
    simp [textField?, Kernel.candidateMaterialized, field?_cons] at records
  | diagnosisStarted => simp [textField?] at records
  | evolutionNoChange => simp [textField?, Kernel.evolutionNoChange, field?_cons] at records
  | proposalAdmitted =>
    simp [textField?, Kernel.proposalAdmitted, field?_cons, Json.asString?] at records
  | qualificationRouted => simp [textField?, (qualificationRouted_spec inspection).1] at records
  | @ownerDecided _ _ _ _ verification =>
    have silent := (unbinding_ownerVerificationPayload verification).2
    simp [textField?, Kernel.ownerDecided, silent] at records
  | activationCompleted result authority =>
    have silent := (unbinding_activationCompleted inspection.run result authority).2
    simp [textField?, silent] at records
  | @runCancelled _ verification =>
    have silent := (unbinding_ownerVerificationPayload verification).2
    simp [textField?, Kernel.runCancelled, silent] at records
  | quarantined inputDigest failure =>
    have silent := (unbinding_failurePayload failure.code failure.message).2
    simp [textField?, quarantinedTransition, silent] at records
  | failed inputDigest failureCode failureMessage =>
    have silent := (unbinding_failurePayload failureCode failureMessage).2
    simp [textField?, failedTransition, silent] at records

/-- Recorded evidence binds the plan of the blueprint that the run was at. -/
theorem KernelLog.evidence (written : KernelLog kernel world request log) {index generation : Nat}
    {evidenceDigest : String}
    (recorded : EventAt log index (RecordsEvidence generation evidenceDigest)) :
    ∃ before blueprint evidence, IsSnapshot (log.take index) before ∧
      before.generation = generation ∧ AtBlueprint world before blueprint ∧
      world.objects evidenceDigest = some (.evidence evidence) ∧
      evidence.frozenTestPlanDigest =
        foundryFrozenEvaluationPlanDigest kernel.platform blueprint.evalSpec := by
  obtain ⟨event, before, found, snapshot, same, records⟩ := recorded
  rcases written.event_at found with ⟨rfl, -⟩ | ⟨inspection, transition, occurredAt, earlier,
    folded, -, justified, rfl⟩
  · exact absurd rfl snapshot.ne_nil
  · obtain rfl := snapshot.unique folded
    obtain ⟨subject, journaled, evaluated, rfl⟩ := justified.evaluated records
    obtain ⟨facts, asserted⟩ := evaluated.asserted
    exact ⟨_, subject.blueprint, journaled.evidence, snapshot, same, evaluated.blueprint,
      evaluated.stored, (assertEvaluationEvidence_bound asserted).plan⟩

/-! ## Every run -/

/-- The tier of a run at any of its events covers the change from the baseline
version of its request, or from nothing, to its blueprint there. -/
def RisksCovered (world : World) : Prop :=
  ∀ runId log, world.events.runs runId = some log → ∀ events, events <+: log →
    ∀ run, IsSnapshot events run → ∃ request,
      world.objects run.requestDigest = some (.request request) ∧ RiskCovered world request run

/-- In every run the evaluation of a later generation keeps that of an earlier
one, and all evidence of one generation binds one frozen plan. -/
structure BarKept (world : World) : Prop where
  keeps : ∀ runId log, world.events.runs runId = some log →
    ∀ events later, events <+: log → later <+: log →
    ∀ run other, IsSnapshot events run → IsSnapshot later other →
      run.generation ≤ other.generation →
    ∀ blueprint next, AtBlueprint world run blueprint → AtBlueprint world other next →
      blueprint.evalSpec.Keeps next.evalSpec
  plan : ∀ runId log, world.events.runs runId = some log →
    ∀ index index' generation evidenceDigest evidenceDigest',
      EventAt log index (RecordsEvidence generation evidenceDigest) →
      EventAt log index' (RecordsEvidence generation evidenceDigest') →
      ∃ evidence evidence', world.objects evidenceDigest = some (.evidence evidence) ∧
        world.objects evidenceDigest' = some (.evidence evidence') ∧
        evidence.frozenTestPlanDigest = evidence'.frozenTestPlanDigest

end OnePersonLab.Evolution.Kernel

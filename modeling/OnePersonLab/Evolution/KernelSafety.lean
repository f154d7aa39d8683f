import OnePersonLab.Evolution.KernelPorts
import OnePersonLab.Evolution.RunRoute

/-!
# The operations keep the invariant

Every program of the kernel knows enough for each call that it makes. The
lemmas follow the functions of the kernel; what an inspection has shown stays
known while other operations move the stores on.
-/

namespace OnePersonLab.Evolution.Kernel

open Contract Lib

variable {kernel : FoundryKernel} {world after : World} {α β : Type}
  {events : List FoundryRunEvent} {inspection : FoundryRunInspection}
  {transition : TransitionInput}

/-- The program keeps the kernel's invariant and returns what satisfies `facts`. -/
abbrev Guarantees (kernel : FoundryKernel) (facts : α → World → Prop) (program : KernelProgram α)
    (world : World) : Prop :=
  Ensures (kernelMachine kernel.platform) (kernelDiscipline kernel) facts program world

/-! ## Rules -/

section Rules

variable {facts : α → World → Prop}

variable {request : KernelRequest}

theorem guarantees_check {checked : Checked α}
    (holds : ∀ value, checked = .ok value → facts value world) :
    Guarantees kernel facts (check checked) world := Ensures.lift holds

theorem guarantees_check_bind {checked : Checked β} {f : β → KernelProgram α}
    (next : ∀ value, checked = .ok value → Guarantees kernel facts (f value) world) :
    Guarantees kernel facts (check checked >>= f) world := Ensures.lift_bind next

theorem guarantees_ask_bind (allowed : Allowed kernel world request)
    {f : KernelResponse request → KernelProgram α}
    (next : ∀ response after, Later kernel world after →
      Answered kernel.platform after request response →
      Guarantees kernel facts (f response) after) :
    Guarantees kernel facts (ask request >>= f) world := (ensures_ask allowed).bind next

theorem guarantees_reject (message : String) :
    Guarantees kernel facts (reject message) world := Ensures.fail _

theorem guarantees_throw (failure : Failure) :
    Guarantees kernel facts (throwFailure failure) world := Ensures.fail _

theorem guarantees_ask (allowed : Allowed kernel world request) :
    Guarantees kernel (fun _ _ => True) (ask request) world :=
  (ensures_ask allowed).weaken fun _ _ _ _ => trivial

theorem guarantees_forget {program : KernelProgram α}
    (ensured : Guarantees kernel facts program world) :
    Guarantees kernel (fun _ _ => True) ((fun _ => ()) <$> program) world :=
  ensured.map fun _ _ _ _ => trivial

theorem guarantees_activity {operation : String} {attempt : KernelProgram α}
    (each : ∀ after, Later kernel world after → Guarantees kernel facts attempt after) :
    Guarantees kernel facts (activity kernel operation attempt) world := by
  unfold activity
  generalize kernel.activityMaxAttempts = remaining
  induction remaining generalizing world with
  | zero => exact guarantees_throw _
  | succ remaining ih =>
    refine Ensures.of_invariant fun initial => ?_
    refine Ensures.tryCatch (each world (KernelInvariant.later initial)) fun failure after later => ?_
    split
    · exact guarantees_throw _
    · split
      · exact guarantees_throw _
      · exact ih fun final moved => each final (later.trans moved)

theorem guarantees_askActivity {operation : String} (allowed : Allowed kernel world request) :
    Guarantees kernel (fun _ _ => True) (activity kernel operation (ask request)) world :=
  guarantees_activity fun _ later => guarantees_ask (allowed.extend later.extends_)

end Rules

/-! ## Reading -/

section

variable {stored : FoundryObject}

theorem asRequest_eq_some {value : DesignRequest} :
    asRequest stored = some value ↔ stored = .request value := by
  cases stored <;> simp [asRequest]

theorem asBlueprint_eq_some {value : AgentBlueprint} :
    asBlueprint stored = some value ↔ stored = .blueprint value := by
  cases stored <;> simp [asBlueprint]

theorem asEvidence_eq_some {value : EvidenceBundle} :
    asEvidence stored = some value ↔ stored = .evidence value := by
  cases stored <;> simp [asEvidence]

theorem guarantees_object {kind : FoundryObject → Option α} {digest label : String} :
    Guarantees kernel
      (fun value after => ∃ stored, after.objects digest = some stored ∧ kind stored = some value)
      (object kind digest label) world := by
  refine guarantees_ask_bind (by exact trivial) fun found after _ known => ?_
  cases found with
  | none => exact guarantees_reject _
  | some stored =>
    cases read : kind stored with
    | none => simpa only [read] using guarantees_throw _
    | some value =>
      simp only [read]
      exact Ensures.pure fun _ => ⟨stored, known stored rfl, read⟩

theorem mem_present {value : Option String} {text : String} :
    text ∈ present value ↔ value = some text ∧ text ≠ "" := by
  simp [present, Option.filter_eq_some_iff]

end

/-- The version of a run resolves, to a version of the run's target. -/
def VersionKnown (world : World) (run : FoundryRunSnapshot) : Prop :=
  ∀ versionDigest ∈ present run.versionDigest, ∃ version,
    world.versionOf run.targetAgentId run.targetDomainId versionDigest = some version ∧
      version.targetAgentId = run.targetAgentId ∧ version.targetDomainId = run.targetDomainId

section

variable {run : FoundryRunSnapshot}

theorem guarantees_qualifiedAgentVersion :
    Guarantees kernel (fun _ after => VersionKnown after run) (qualifiedAgentVersion run) world := by
  unfold qualifiedAgentVersion
  cases named : present run.versionDigest with
  | none => exact Ensures.pure fun _ _ impossible => by simp [named] at impossible
  | some versionDigest =>
    have given : versionDigest ∈ present run.versionDigest := named
    refine guarantees_ask_bind (by exact trivial) fun found after _ resolved => ?_
    refine guarantees_check_bind fun _ passed => ?_
    refine Ensures.pure fun _ versionDigest' given' => ?_
    obtain rfl : versionDigest = versionDigest' := Option.some.inj (given.symm.trans given')
    obtain ⟨version, same, -, agent, domain⟩ := ensure_eq_ok.1 passed
    exact ⟨version, (resolved versionDigest (mem_present.2 ⟨rfl, (mem_present.1 given).2⟩)).trans
      same, agent, domain⟩

theorem VersionKnown.extend (known : VersionKnown world run) (grown : world.Extends after) :
    VersionKnown after run := by
  intro versionDigest named
  obtain ⟨version, found, identity⟩ := known versionDigest named
  exact ⟨version, grown.versionOf found, identity⟩

theorem guarantees_activationTransaction {decisions : List FoundryOwnerDecisionReadback}
    {event : Option FoundryRunEvent} :
    Guarantees kernel (fun _ _ => True) (activationTransaction kernel run decisions event)
      world := by
  cases event with
  | none => exact Ensures.pure fun _ => trivial
  | some event =>
    refine guarantees_check_bind fun transactionId _ => ?_
    refine guarantees_ask_bind (by exact trivial) fun history after _ _ => ?_
    split
    · exact guarantees_reject _
    · exact guarantees_check_bind fun _ _ => guarantees_check_bind fun _ _ =>
        Ensures.pure fun _ => trivial

theorem guarantees_buildFoundryRunTerminalReadback {activation : ActivationPointer} :
    Guarantees kernel (fun _ after => VersionKnown after run)
      (buildFoundryRunTerminalReadback kernel run events activation) world := by
  refine guarantees_qualifiedAgentVersion.bind fun version early _ known => ?_
  refine guarantees_check_bind fun decisions _ => guarantees_check_bind fun _ _ =>
    guarantees_check_bind fun _ _ => ?_
  refine guarantees_activationTransaction.bind fun transaction late later _ => ?_
  exact Ensures.pure fun _ => known.extend later.extends_

end

/-- What the kernel knows of a run that it has inspected. -/
structure Known (kernel : FoundryKernel) (world : World) (events : List FoundryRunEvent)
    (inspection : FoundryRunInspection) : Prop where
  inspected : Inspected world events inspection
  log : KernelLog kernel world inspection.request events

theorem Known.extend (known : Known kernel world events inspection)
    (grown : world.Extends after) : Known kernel after events inspection :=
  ⟨known.inspected.extend grown, known.log.extend grown⟩

theorem Known.identity (known : Known kernel world events inspection) :
    RunIdentity world inspection.request inspection.run :=
  known.log.identity known.inspected.snapshot

theorem Known.route (known : Known kernel world events inspection) :
    Route kernel world inspection.request events inspection.run :=
  known.log.route known.inspected.snapshot

/-- The log of a run, as the invariant knows it when it is read. -/
theorem KernelInvariant.read (invariant : KernelInvariant kernel world) {runId : String}
    (recorded : world.events.runs runId = some events) {run : FoundryRunSnapshot}
    (snapshot : IsSnapshot events run) :
    run.runId = runId ∧ ∃ request, KernelLog kernel world request events := by
  obtain ⟨named, written⟩ := invariant.logs runId events recorded
  obtain ⟨last, ends, sameRun, -⟩ := snapshot.last
  exact ⟨sameRun.trans (named last (List.mem_of_getLast? ends)), written⟩

/-- What an inspection that started in `world` has shown: all that was recorded then. -/
structure Seen (kernel : FoundryKernel) (world after : World) (runId : String)
    (events : List FoundryRunEvent) (inspection : FoundryRunInspection) : Prop
    extends Known kernel after events inspection where
  named : inspection.run.runId = runId
  recent : ∀ log, world.events.runs runId = some log → log <+: events

theorem guarantees_inspectRun {runId : String} :
    Guarantees kernel (fun inspection after => ∃ events,
      Seen kernel world after runId events inspection) (inspectRun kernel runId) world := by
  refine guarantees_ask_bind (by exact trivial) fun events early earlier read => ?_
  refine guarantees_check_bind fun _ inhabited => ?_
  refine guarantees_check_bind fun run folded => ?_
  have snapshot := (snapshotFromEvents_eq_ok.1 folded).2
  have recorded := EventStore.runs_of_read read (ensure_eq_ok.1 inhabited)
  obtain ⟨sameRun, request, log⟩ := earlier.invariant.read recorded snapshot
  refine guarantees_object.bind fun request' middle moved ⟨stored, found, isRequest⟩ => ?_
  obtain rfl := asRequest_eq_some.1 isRequest
  obtain rfl : request = request' := by
    have kept := moved.extends_.objects (log.identity snapshot).stored
    simpa using kept.symm.trans found
  refine guarantees_ask_bind (by exact trivial) fun activation late later _ => ?_
  refine guarantees_buildFoundryRunTerminalReadback.bind fun readback last latest version => ?_
  have grown := (moved.trans later).trans latest
  obtain ⟨longer, recorded', longerThan⟩ := grown.extends_.runs recorded
  refine Ensures.pure fun _ => ⟨events, ⟨⟨⟨longer, by rw [sameRun]; exact recorded', longerThan⟩,
    snapshot, (later.trans latest).extends_.objects found, version⟩, log.extend grown.extends_⟩,
    sameRun, fun known recordedThen => ?_⟩
  obtain ⟨now, recordedNow, grownSince⟩ := earlier.extends_.runs recordedThen
  obtain rfl : events = now := by simpa [recorded] using recordedNow
  exact grownSince

/-! ## Appending -/

/-- The run is past the revision that was inspected. -/
def MovedOn (inspection : FoundryRunInspection) (world : World) : Prop :=
  ∃ log, world.events.runs inspection.run.runId = some log ∧ inspection.run.revision < log.length

theorem MovedOn.extend (moved : MovedOn inspection world) (grown : world.Extends after) :
    MovedOn inspection after := by
  obtain ⟨log, recorded, past⟩ := moved
  obtain ⟨longer, recorded', longerThan⟩ := grown.runs recorded
  exact ⟨longer, recorded', past.trans_le longerThan.length_le⟩

theorem guarantees_append (known : Known kernel world events inspection)
    (justified : Justified kernel world inspection transition) :
    Guarantees kernel (fun _ after => MovedOn inspection after)
      (append kernel inspection transition) world := by
  refine guarantees_ask_bind (by exact trivial) fun occurredAt after later _ => ?_
  refine guarantees_check_bind fun event built => ?_
  obtain rfl := buildFoundryEvent_eq_ok built
  have allowed : Allowed kernel after (.appendEvent {
      targetKey := targetKey inspection.request.targetAgentId inspection.request.targetDomainId
      expectedRevision := inspection.run.revision
      event := transitionEvent kernel inspection transition occurredAt }) :=
    ⟨events, inspection, transition, occurredAt, known.inspected.extend later.extends_,
      justified.extend later.extends_, rfl, rfl, rfl⟩
  exact ensures_ask allowed

theorem guarantees_appendJournaledResult {result : FoundryOperationResult}
    (known : Known kernel world events inspection)
    (justified : Justified kernel world inspection transition) :
    Guarantees kernel (fun _ after => MovedOn inspection after)
      (appendJournaledResult kernel inspection result transition) world := by
  refine Ensures.tryCatch (guarantees_append known justified) fun failure after _ => ?_
  split <;> exact guarantees_throw _

/-! ## The objects of a run -/

/-- The version that a request starts from, as the registry answered. -/
structure BaselineResolved (world : World) (request : DesignRequest)
    (baseline : Option AgentVersion) : Prop where
  unnamed : request.targetVersionRef = none → baseline = none
  named : ∀ ref, request.targetVersionRef = some ref → ref ≠ "" →
    world.versionOf request.targetAgentId request.targetDomainId ref = baseline

theorem guarantees_resolveBaseline {request : DesignRequest} :
    Guarantees kernel (fun baseline after => BaselineResolved after request baseline)
      (resolveBaseline request) world := by
  unfold resolveBaseline
  split
  · rename_i unnamed
    exact Ensures.pure fun _ => ⟨fun _ => rfl, fun ref named => by simp [unnamed] at named⟩
  · rename_i ref given
    have free : Allowed kernel world (.resolveVersion (some ref) request.targetAgentId
      request.targetDomainId) := trivial
    refine (ensures_ask free).weaken fun found after _ resolved => ?_
    refine ⟨fun unnamed => by simp [given] at unnamed, fun ref' named solid => ?_⟩
    obtain rfl := Option.some.inj (given.symm.trans named)
    exact resolved ref (mem_present.2 ⟨rfl, solid⟩)

theorem guarantees_baselineBlueprint {request : DesignRequest}
    (known : BaselineKnown world request) :
    Guarantees kernel (fun previous after => BaselineBlueprint after request previous)
      (baselineBlueprint request) world := by
  refine guarantees_resolveBaseline.bind fun baseline early earlier resolved => ?_
  have known := known.extend earlier.extends_
  cases baseline with
  | none =>
    refine Ensures.pure fun _ => ?_
    cases given : request.targetVersionRef with
    | none => simp [BaselineBlueprint, given]
    | some ref =>
      obtain ⟨solid, version, found⟩ := known ref given
      simp [resolved.named ref given solid] at found
  | some version =>
    refine guarantees_object.bind ?_
    rintro blueprint late later ⟨stored, found, isBlueprint⟩
    obtain rfl := asBlueprint_eq_some.1 isBlueprint
    refine Ensures.pure fun _ => ?_
    cases given : request.targetVersionRef with
    | none => simpa using resolved.unnamed given
    | some ref =>
      simp only [BaselineBlueprint, given]
      have here := resolved.named ref given (known ref given).1
      exact ⟨version, blueprint, later.extends_.versionOf here, found, rfl⟩

theorem guarantees_currentBlueprint :
    Guarantees kernel (fun blueprint after => ∃ digest,
        inspection.run.blueprintDigest = some digest ∧
        after.objects digest = some (.blueprint blueprint)) (currentBlueprint inspection) world := by
  unfold currentBlueprint
  split
  · exact guarantees_reject _
  · rename_i digest named
    refine guarantees_object.weaken ?_
    rintro blueprint after _ ⟨stored, found, isBlueprint⟩
    obtain rfl := asBlueprint_eq_some.1 isBlueprint
    exact ⟨digest, (mem_present.1 named).1, found⟩

theorem guarantees_currentCandidate :
    Guarantees kernel (fun _ _ => inspection.run.candidateDigest ≠ none)
      (currentCandidate kernel inspection) world := by
  unfold currentCandidate
  split
  · rename_i candidateDigest _ named _
    refine guarantees_object.bind fun candidate after _ _ => ?_
    refine guarantees_check_bind fun _ _ => guarantees_check_bind fun _ _ => ?_
    refine Ensures.pure fun _ absent => ?_
    simp [present, absent] at named
  · exact guarantees_reject _

theorem RegistryState.versionOf_digest {state : RegistryState} {versionDigest : String}
    {version : AgentVersion} (found : state.versionOf versionDigest = some version) :
    version.versionDigest = versionDigest := by
  simpa using List.find?_some found

theorem guarantees_currentVersion :
    Guarantees kernel (fun version after =>
        inspection.run.versionDigest = some version.versionDigest ∧
        after.versionOf inspection.request.targetAgentId inspection.request.targetDomainId
          version.versionDigest = some version) (currentVersion inspection) world := by
  unfold currentVersion
  split
  · exact guarantees_reject _
  · rename_i digest named
    obtain ⟨current, solid⟩ := mem_present.1 named
    refine guarantees_ask_bind (by exact trivial) fun found after _ resolved => ?_
    cases found with
    | none => exact guarantees_reject _
    | some version =>
      have here := resolved digest (mem_present.2 ⟨rfl, solid⟩)
      obtain rfl := RegistryState.versionOf_digest here
      exact Ensures.pure fun _ => ⟨current, here⟩

/-! ## The steps of a run -/

theorem guarantees_design (known : Known kernel world events inspection)
    (state : inspection.run.state = .designing) :
    Guarantees kernel (fun _ after => MovedOn inspection after) (design kernel inspection) world := by
  refine Ensures.bind (guarantees_askActivity (by exact trivial)) fun designed first early _ => ?_
  refine guarantees_check_bind fun blueprint _ => guarantees_check_bind fun _ initial => ?_
  refine guarantees_ask_bind (by exact trivial) fun stored second middle ⟨hashed, put⟩ => ?_
  have known := known.extend (early.trans middle).extends_
  refine (guarantees_baselineBlueprint known.identity.baseline).bind
    fun previous third late baseline => ?_
  refine guarantees_check_bind fun transition admitted => ?_
  refine guarantees_append (known.extend late.extends_) (.blueprintAdmitted state
    (late.extends_.objects put) (hashed ▸ kernel.platform.digest_wellFormed _) ?_ baseline admitted)
  simp only [assertInitialBlueprint, bind_eq_ok, ensure_eq_ok] at initial
  obtain ⟨_, -, _, ⟨-, generation⟩, -⟩ := initial
  exact generation

theorem guarantees_materialize (known : Known kernel world events inspection)
    (state : inspection.run.state = .materializing) :
    Guarantees kernel (fun _ after => MovedOn inspection after)
      (materialize kernel inspection) world := by
  refine guarantees_currentBlueprint.bind fun blueprint first early _ => ?_
  refine Ensures.bind (guarantees_askActivity (by exact trivial)) fun candidate second middle _ => ?_
  refine guarantees_check_bind fun _ asserted => ?_
  refine guarantees_ask_bind (by exact trivial) fun stored third late ⟨_, put⟩ => ?_
  refine guarantees_check_bind fun digest hashed => guarantees_check_bind fun _ same => ?_
  obtain rfl := ensure_eq_ok.1 same
  exact guarantees_append (known.extend ((early.trans middle).trans late).extends_)
    (.candidateMaterialized candidate stored.digest state put hashed asserted)

/-- What an evaluation knows of its subject. -/
structure SubjectKnown (world : World) (inspection : FoundryRunInspection) (canary : Bool)
    (subject : EvaluationSubject) : Prop where
  blueprint : ∃ digest, inspection.run.blueprintDigest = some digest ∧
    world.objects digest = some (.blueprint subject.blueprint)
  candidate : inspection.run.candidateDigest = some subject.candidate.candidateDigest
  canary : canary = true → UnderCanary world inspection subject

section

variable {canary : Bool} {subject : EvaluationSubject} {options : FoundryAdvanceRunStepOptions}

theorem SubjectKnown.extend (known : SubjectKnown world inspection canary subject)
    (grown : world.Extends after) :
    SubjectKnown after inspection canary subject where
  blueprint := by
    obtain ⟨digest, current, stored⟩ := known.blueprint
    exact ⟨digest, current, grown.objects stored⟩
  candidate := known.candidate
  canary under := by
    obtain ⟨versionDigest, version, current, found, bound⟩ := known.canary under
    exact ⟨versionDigest, version, current, grown.versionOf found, bound⟩

theorem guarantees_subjectVersion :
    Guarantees kernel (fun qualifiedVersion after => canary = true → ∃ version,
        qualifiedVersion = some version ∧
        inspection.run.versionDigest = some version.versionDigest ∧
        after.versionOf inspection.request.targetAgentId inspection.request.targetDomainId
          version.versionDigest = some version)
      (subjectVersion inspection canary) world := by
  cases canary with
  | false => exact Ensures.pure fun _ => nofun
  | true =>
    exact guarantees_currentVersion.map fun version _ _ ⟨current, found⟩ _ =>
      ⟨version, rfl, current, found⟩

theorem guarantees_evaluationSubject :
    Guarantees kernel (fun subject after => SubjectKnown after inspection canary subject)
      (evaluationSubject kernel inspection canary options) world := by
  refine guarantees_currentBlueprint.bind fun blueprint first _ ⟨digest, current, stored⟩ => ?_
  refine guarantees_currentCandidate.bind fun candidate second early admitted => ?_
  refine guarantees_check_bind fun _ asserted => ?_
  have materialized : inspection.run.candidateDigest = some candidate.candidateDigest :=
    (ensure_eq_ok.1 asserted).2.2.2.1.resolve_left admitted
  refine guarantees_resolveBaseline.bind fun baseline third middle _ => ?_
  refine guarantees_subjectVersion.bind fun qualifiedVersion fourth late resolved => ?_
  refine guarantees_check_bind fun _ bound => ?_
  refine guarantees_check_bind fun operation _ => guarantees_check_bind fun _ _ => ?_
  refine Ensures.pure fun _ => ⟨⟨digest, current,
    ((early.trans middle).trans late).extends_.objects stored⟩, materialized, fun under => ?_⟩
  obtain ⟨version, rfl, current, found⟩ := resolved under
  exact ⟨version.versionDigest, version, current, found, ensure_eq_ok.1 bound version rfl⟩

theorem guarantees_replayedEvidence {result : FoundryOperationResult}
    (known : SubjectKnown world inspection canary subject) :
    Guarantees kernel (fun journaled after => Evaluated kernel after inspection subject journaled)
      (replayedEvidence kernel inspection subject result) world := by
  refine guarantees_object.bind fun value after later ⟨stored, found, isEvidence⟩ => ?_
  obtain rfl := asEvidence_eq_some.1 isEvidence
  refine guarantees_check_bind fun evidence validated => ?_
  obtain rfl := validateEvidenceBundle_eq_ok validated
  refine guarantees_check_bind fun digest hashed => guarantees_check_bind fun _ same => ?_
  obtain rfl := ensure_eq_ok.1 same
  refine guarantees_check_bind fun facts asserted => ?_
  exact Ensures.pure fun _ =>
    ⟨(known.extend later.extends_).blueprint, found, hashed, facts, asserted⟩

theorem guarantees_freshEvidence (known : SubjectKnown world inspection canary subject) :
    Guarantees kernel (fun journaled after => Evaluated kernel after inspection subject journaled)
      (freshEvidence kernel inspection subject canary) world := by
  refine Ensures.bind (guarantees_askActivity (by exact trivial)) fun evaluated first early _ => ?_
  refine guarantees_check_bind fun evidence _ => guarantees_check_bind fun facts asserted => ?_
  refine guarantees_ask_bind (by exact trivial) fun stored second middle ⟨_, put⟩ => ?_
  refine guarantees_check_bind fun digest hashed => guarantees_check_bind fun _ same => ?_
  obtain rfl := ensure_eq_ok.1 same
  refine guarantees_ask_bind (by exact trivial) fun result third late committed => ?_
  have grown := ((early.trans middle).trans late).extends_
  have committed : result.evidenceDigest = stored.digest := committed
  refine Ensures.pure fun _ => ⟨(known.extend grown).blueprint, ?_, ?_, facts, asserted⟩ <;>
    rw [committed]
  · exact late.extends_.objects put
  · exact hashed

theorem guarantees_registerVersion {result : FoundryOperationResult} :
    Guarantees kernel (fun registered after => registered.version ∈
        (after.registry.state inspection.request.targetAgentId
          inspection.request.targetDomainId).versions)
      (registerVersion kernel inspection subject result) world := by
  refine guarantees_activity fun after _ => ?_
  have free : Allowed kernel after
    (.registerVersion (registerInput inspection subject result)) := trivial
  refine Ensures.tryCatch (ensures_ask free) fun failure _ _ => ?_
  split <;> exact guarantees_throw _

theorem SubjectKnown.registered {subject : EvaluationSubject} {canary : Bool}
    (known : SubjectKnown world inspection canary subject) {registered : RegisteredVersion}
    (listed : registered.version ∈ (world.registry.state inspection.request.targetAgentId
      inspection.request.targetDomainId).versions)
    (asserted : assertRegisteredCandidate kernel.platform inspection.request inspection.run
      subject.candidate registered = .ok ()) :
    Registered world inspection registered.version := by
  simp only [assertRegisteredCandidate, bind_eq_ok, ensure_eq_ok, foundryContentDigest_eq_ok]
    at asserted
  obtain ⟨_, ⟨agent, domain, blueprint, candidate, -⟩, _, ⟨-, rfl⟩, _, same, -⟩ := asserted
  exact ⟨listed, agent, domain, blueprint.symm, by rw [known.candidate, candidate],
    same ▸ kernel.platform.digest_wellFormed _⟩

theorem guarantees_evaluationEvidence (known : SubjectKnown world inspection canary subject) :
    Guarantees kernel (fun journaled after => Evaluated kernel after inspection subject journaled)
      (evaluationEvidence kernel inspection subject canary options) world := by
  refine guarantees_ask_bind (by exact trivial) fun recorded after later _ => ?_
  have known := known.extend later.extends_
  cases recorded with
  | some result => exact guarantees_replayedEvidence known
  | none =>
    dsimp only
    split
    · exact guarantees_throw _
    · exact guarantees_freshEvidence known

theorem guarantees_settleEvaluation (known : Known kernel world events inspection)
    {journaled : JournaledEvidence}
    (state : inspection.run.state = if canary then .canary else .evaluating)
    (subjectKnown : SubjectKnown world inspection canary subject)
    (evaluated : Evaluated kernel world inspection subject journaled) :
    Guarantees kernel (fun _ after => MovedOn inspection after)
      (settleEvaluation kernel inspection subject canary journaled) world := by
  unfold settleEvaluation
  by_cases qualified : journaled.evidence.qualified = true
  · rw [if_pos qualified]
    cases canary with
    | true =>
      exact guarantees_appendJournaledResult known
        (.canaryPassed state evaluated qualified (subjectKnown.canary rfl))
    | false =>
      refine guarantees_registerVersion.bind fun registered after later listed => ?_
      refine guarantees_check_bind fun _ asserted => ?_
      exact guarantees_appendJournaledResult (known.extend later.extends_)
        (.candidateQualified state (evaluated.extend later.extends_) qualified
          ((subjectKnown.extend later.extends_).registered listed asserted))
  · rw [if_neg qualified]
    exact guarantees_appendJournaledResult known (.evaluationRejected state evaluated)

theorem guarantees_evaluate (known : Known kernel world events inspection)
    (state : inspection.run.state = if canary then .canary else .evaluating) :
    Guarantees kernel (fun _ after => MovedOn inspection after)
      (evaluate kernel inspection canary options) world := by
  refine guarantees_evaluationSubject.bind fun subject first early subjectKnown => ?_
  refine (guarantees_evaluationEvidence subjectKnown).bind fun journaled second late evaluated => ?_
  exact guarantees_settleEvaluation (known.extend (early.trans late).extends_) state
    (subjectKnown.extend late.extends_) evaluated

theorem assertProposal_eq_ok {blueprint : AgentBlueprint} {proposal : EvolutionProposal}
    (asserted : assertProposal inspection blueprint proposal = .ok ()) :
    assertEvaluationPolicyNonWeakening blueprint proposal.nextBlueprint = .ok () := by
  simp only [assertProposal, bind_eq_ok] at asserted
  obtain ⟨_, -, _, -, _, -, _, -, _, kept, -⟩ := asserted
  exact kept

theorem guarantees_askDiagnosis {blueprint : AgentBlueprint} {evidence : EvidenceBundle} :
    Guarantees kernel (fun _ _ => True) (askDiagnosis kernel inspection blueprint evidence)
      world := by
  refine guarantees_check_bind fun inputDigest _ => ?_
  have free : Allowed kernel world (.diagnose {
      request := inspection.request
      blueprint, evidence
      activity := {
        runId := inspection.run.runId
        iteration := inspection.run.generation
        phase := .diagnose
        inputDigest } }) := trivial
  exact guarantees_ask free

theorem guarantees_diagnose (known : Known kernel world events inspection)
    (state : inspection.run.state = .diagnosing) :
    Guarantees kernel (fun _ after => MovedOn inspection after) (diagnose kernel inspection) world := by
  refine guarantees_currentBlueprint.bind ?_
  rintro blueprint first one ⟨digest, current, here⟩
  refine guarantees_object.bind fun evidence second two _ => ?_
  refine Ensures.bind (guarantees_activity fun _ _ => guarantees_askDiagnosis)
    fun proposed third three _ => ?_
  refine guarantees_check_bind fun proposal _ => guarantees_check_bind fun _ asserted => ?_
  refine guarantees_ask_bind (by exact trivial) fun storedProposal fourth four _ => ?_
  refine guarantees_check_bind fun nextBlueprintDigest _ => ?_
  have known := known.extend (((one.trans two).trans three).trans four).extends_
  split
  · refine guarantees_check_bind fun _ _ => ?_
    exact guarantees_append known (.evolutionNoChange storedProposal.digest state)
  · refine guarantees_check_bind fun _ increments => guarantees_check_bind fun _ _ => ?_
    refine guarantees_ask_bind (by exact trivial) ?_
    rintro storedBlueprint fifth five ⟨hashed, put⟩
    have here := (((two.trans three).trans four).trans five).extends_.objects here
    exact guarantees_append (known.extend five.extends_)
      (.proposalAdmitted storedProposal.digest state current here put
        (hashed ▸ kernel.platform.digest_wellFormed _) (assertProposal_eq_ok asserted)
        (ensure_eq_ok.1 increments))

end

/-! ## Activation -/

/-- The input that `commitFoundryActivation` swaps the pointer with. -/
def swapInput (kind : ActivationTransactionKind) (version : AgentVersion)
    (expectedActivationRevision : Nat) (authorityReceiptRef : Option String) (occurredAt : String)
    (preflight : ActivationRuntimePreflight) : ActivationInput where
  transactionKind := kind
  targetAgentId := version.targetAgentId
  targetDomainId := version.targetDomainId
  expectedRevision := expectedActivationRevision
  versionDigest := version.versionDigest
  occurredAt := occurredAt
  authorityReceiptRef := authorityReceiptRef
  runtimeBindingVerification := buildRuntimeBindingVerification preflight

/-- What is known of the result of `commitFoundryActivation`. -/
structure CommittedActivation (world : World) (input : ActivationInput)
    (result : ActivationResult) : Prop where
  committed : Committed world input result.transaction
  targetAgentId : result.transaction.targetAgentId = input.targetAgentId
  targetDomainId : result.transaction.targetDomainId = input.targetDomainId
  pure : scanForbidden result.transaction.runtimeBindingVerification.toJson [] = []

section

variable {later : List FoundryRunEvent} {latest : FoundryRunInspection}

theorem guarantees_commitFoundryActivation {kind : ActivationTransactionKind}
    {version : AgentVersion} {expectedActivationRevision : Nat}
    {authorityReceiptRef madeBy : Option String}
    (maySwap : ∀ occurredAt preflight, MaySwap kernel world
      (swapInput kind version expectedActivationRevision authorityReceiptRef occurredAt preflight)
      madeBy) :
    Guarantees kernel (fun result after => ∃ occurredAt, CommittedActivation after
        (swapInput kind version expectedActivationRevision authorityReceiptRef occurredAt
          result.runtimePreflight) result)
      (commitFoundryActivation kernel kind version expectedActivationRevision authorityReceiptRef
        madeBy) world := by
  refine guarantees_check_bind fun _ _ => ?_
  refine Ensures.bind (guarantees_askActivity (by exact trivial)) fun preflight first one _ => ?_
  refine guarantees_check_bind fun _ _ => ?_
  refine guarantees_ask_bind (by exact trivial) fun occurredAt second two _ => ?_
  have allowed : Allowed kernel second (.swapActivation (swapInput kind version
      expectedActivationRevision authorityReceiptRef occurredAt preflight) madeBy) :=
    MaySwap.extend (maySwap occurredAt preflight) (one.trans two).extends_
  refine Ensures.bind (guarantees_activity fun _ later =>
    ensures_ask (allowed.extend later.extends_)) fun transaction third _ committed => ?_
  refine guarantees_check_bind fun _ asserted => Ensures.pure fun _ => ⟨occurredAt, ?_⟩
  simp only [assertActivationTransaction, bind_eq_ok, ensure_eq_ok, foundryContentDigest_eq_ok]
    at asserted
  obtain ⟨_, ⟨-, agent, domain, -⟩, _, ⟨clean, -⟩, -⟩ := asserted
  exact ⟨committed, agent, domain, clean⟩

/-- What a run under activation knows of its version. -/
theorem Known.version (known : Known kernel world events inspection)
    (state : inspection.run.state = .activating) {version : AgentVersion}
    (resolved : ∀ versionDigest ∈ present inspection.run.versionDigest,
      world.versionOf inspection.request.targetAgentId inspection.request.targetDomainId
        versionDigest = some version) :
    inspection.run.versionDigest = some version.versionDigest ∧
      inspection.run.targetAgentId = version.targetAgentId ∧
      inspection.run.targetDomainId = version.targetDomainId := by
  obtain ⟨versionDigest, current, wellFormed, -⟩ := known.route.version (by rw [state]; rfl)
  have solid : versionDigest ≠ "" := by
    rintro rfl
    revert wellFormed
    decide
  have named : versionDigest ∈ present inspection.run.versionDigest := mem_present.2 ⟨current, solid⟩
  have found := resolved versionDigest named
  obtain ⟨version', found', agent, domain⟩ := known.inspected.version versionDigest named
  rw [known.identity.targetAgentId, known.identity.targetDomainId] at found'
  obtain rfl : version = version' := Option.some.inj (found.symm.trans found')
  exact ⟨by rw [RegistryState.versionOf_digest found, current], agent.symm, domain.symm⟩

theorem guarantees_activate (known : Known kernel world events inspection)
    (state : inspection.run.state = .activating) :
    Guarantees kernel (fun _ after => MovedOn inspection after) (activate kernel inspection) world := by
  refine guarantees_ask_bind (by exact trivial) fun later first one read => ?_
  refine guarantees_check_bind fun authority authorized => guarantees_check_bind fun _ _ => ?_
  refine guarantees_ask_bind (by exact trivial) fun found second two resolved => ?_
  cases found with
  | none => exact guarantees_reject _
  | some version =>
    obtain ⟨log, recorded, earlier⟩ := (known.extend one.extends_).inspected.recorded
    have read : first.events.read inspection.run.runId = later := read
    obtain rfl : log = later := by simpa [EventStore.read, recorded] using read
    obtain ⟨longer, recorded, longerThan⟩ := two.extends_.runs recorded
    have known := known.extend (one.trans two).extends_
    obtain ⟨versionDigest, targetAgentId, targetDomainId⟩ := known.version state resolved
    refine Ensures.bind (guarantees_commitFoundryActivation fun occurredAt preflight =>
      ⟨fun _ => ⟨_, rfl, ⟨?_⟩⟩, by rintro ⟨⟩⟩) ?_
    · exact ⟨longer, log, events, inspection.run, recorded, longerThan, earlier,
        known.inspected.snapshot, state, versionDigest, targetAgentId, targetDomainId, rfl,
        authority, authorized, rfl⟩
    · rintro result third three ⟨occurredAt, committed⟩
      have known := known.extend three.extends_
      refine guarantees_append known (.activationCompleted result authority state ?_)
      exact {
        recorded := by
          rw [← known.identity.targetAgentId, ← known.identity.targetDomainId, targetAgentId,
            targetDomainId]
          exact committed.committed.recorded
        version := versionDigest.trans (congrArg some committed.committed.version.symm)
        targetAgentId := committed.targetAgentId.trans targetAgentId.symm
        targetDomainId := committed.targetDomainId.trans targetDomainId.symm
        verification := committed.committed.verification
        pure := committed.pure
        receipt := committed.committed.receipt
        authority := by
          obtain ⟨longest, recorded, longestThan⟩ := three.extends_.runs recorded
          refine ⟨longest, log, recorded, longerThan.trans longestThan, ?_, authorized⟩
          rw [known.inspected.snapshot.revision_eq known.log.verified]
          exact earlier.length_le }

theorem guarantees_advanceOne (known : Known kernel world events inspection)
    {options : FoundryAdvanceRunStepOptions} :
    Guarantees kernel (fun _ after => MovedOn inspection after)
      (advanceOne kernel inspection options) world := by
  unfold advanceOne
  split
  · exact guarantees_append known (.designStarted ‹_›)
  · exact guarantees_design known ‹_›
  · exact guarantees_materialize known ‹_›
  · exact guarantees_evaluate known ‹_›
  · exact guarantees_append known (.diagnosisStarted ‹_›)
  · exact guarantees_diagnose known ‹_›
  · exact guarantees_append known (.qualificationRouted ‹_›)
  · exact guarantees_evaluate known ‹_›
  · exact guarantees_activate known ‹_›
  · exact guarantees_reject _

/-- A later inspection of the run extends the events of an earlier one. -/
theorem Seen.within {runId : String} (seen : Seen kernel world after runId later latest)
    (known : Known kernel world events inspection) (named : inspection.run.runId = runId) :
    events <+: later := by
  obtain ⟨log, recorded, within⟩ := known.inspected.recorded
  exact within.trans (seen.recent log (named ▸ recorded))

/-- An inspection that found more events than an earlier one outdates it. -/
theorem Known.outdates (newer : Known kernel after later latest)
    (known : Known kernel world events inspection) (within : events <+: later)
    (named : latest.run.runId = inspection.run.runId) :
    (events ≠ later → MovedOn inspection after) ∧
      ∀ {final}, MovedOn latest final → MovedOn inspection final := by
  have revision := known.inspected.snapshot.revision_eq known.log.verified
  have revision' := newer.inspected.snapshot.revision_eq newer.log.verified
  have length := within.length_le
  refine ⟨fun different => ?_, fun {final} ⟨log, recorded, past⟩ => ?_⟩
  · obtain ⟨log, recorded, earlier⟩ := newer.inspected.recorded
    have shorter : events.length ≠ later.length := fun same => different (within.eq_of_length same)
    exact ⟨log, named ▸ recorded, by have := earlier.length_le; omega⟩
  · exact ⟨log, named ▸ recorded, by omega⟩

theorem Known.ne_of_state (newer : Known kernel after later latest)
    (known : Known kernel world events inspection)
    (different : inspection.run.state ≠ latest.run.state) : events ≠ later := by
  rintro rfl
  rw [known.inspected.snapshot.unique newer.inspected.snapshot] at different
  exact different rfl

theorem guarantees_terminateAfterFailure {failure : Failure}
    (known : Known kernel world events inspection)
    (running : inspection.run.state.terminal = false) :
    Guarantees kernel (fun _ after => MovedOn inspection after)
      (terminateAfterFailure kernel inspection failure) world := by
  refine guarantees_inspectRun.bind fun latest after _ ⟨later, seen⟩ => ?_
  have newer := seen.toKnown.outdates known (seen.within known rfl) seen.named
  split
  · rename_i ended
    refine Ensures.pure fun _ => newer.1 (seen.toKnown.ne_of_state known fun same => ?_)
    rw [same, ended] at running
    cases running
  · refine guarantees_check_bind fun inputDigest _ => ?_
    refine Ensures.bind (guarantees_append seen.toKnown ?_) fun _ _ _ moved =>
      Ensures.pure fun _ => newer.2 moved
    split
    · exact .quarantined inputDigest failure
    · exact .failed inputDigest failure.code failure.message

end

/-! ## Operations -/

variable {runId : String} {input : OwnerDecision} {request : DesignRequest} {required : Bool}

theorem guarantees_inspected :
    Guarantees kernel (fun _ _ => True) (inspectRun kernel runId) world :=
  guarantees_inspectRun.weaken fun _ _ _ _ => trivial

/-- A step that returns has taken the run past every inspection of it before
that did not find it pausing. -/
theorem guarantees_advanceRunStep {options : FoundryAdvanceRunStepOptions} :
    Guarantees kernel (fun _ after => ∀ events inspection, Known kernel world events inspection →
        inspection.run.runId = runId → pauses inspection.run.state = false →
        MovedOn inspection after) (advanceRunStep kernel runId options) world := by
  refine guarantees_inspectRun.bind fun current after _ ⟨later, seen⟩ => ?_
  have outdates := fun {events inspection} (known : Known kernel world events inspection)
    (named : inspection.run.runId = runId) =>
    seen.toKnown.outdates known (seen.within known named) (seen.named.trans named.symm)
  split
  · rename_i pausing
    refine Ensures.pure fun _ events inspection known named running => ?_
    refine (outdates known named).1 (seen.toKnown.ne_of_state known fun same => ?_)
    rw [same, pausing] at running
    cases running
  · rename_i advancing
    have running : current.run.state.terminal = false := by
      simp only [pauses, Bool.or_eq_true, not_or, Bool.not_eq_true] at advancing
      exact advancing.1
    have advanced : Guarantees kernel (fun _ after => MovedOn current after)
        ((fun _ => ()) <$> advanceOne kernel current options) after :=
      (guarantees_advanceOne seen.toKnown).map fun _ _ _ moved => moved
    refine Ensures.bind (Ensures.tryCatch advanced fun failure _ moved => ?_)
      fun _ final _ moved => ?_
    · split
      · exact guarantees_throw _
      · split
        · exact guarantees_throw _
        · exact guarantees_terminateAfterFailure (seen.toKnown.extend moved.extends_) running
    · exact guarantees_inspected.weaken fun _ _ onward _ events inspection known named _ =>
        (outdates known named).2 (moved.extend onward.extends_)

theorem guarantees_advanceTransitions (remaining : Nat) :
    Guarantees kernel (fun _ _ => True) (advanceTransitions kernel runId remaining) world := by
  induction remaining generalizing world with
  | zero => exact guarantees_reject _
  | succ remaining ih =>
    refine guarantees_inspected.bind fun inspection _ _ _ => ?_
    split
    · exact Ensures.pure fun _ => trivial
    · exact guarantees_advanceRunStep.bind fun _ _ _ _ => ih

theorem guarantees_verifyOwnerAuthority {value : OwnerGateVerificationContext} :
    Guarantees kernel (fun verification after =>
        Verifies kernel.platform after value verification)
      (verifyOwnerAuthority kernel value) world := by
  refine guarantees_check_bind fun context contextChecked => ?_
  refine guarantees_ask_bind (by exact trivial) fun answer _ _ given => ?_
  exact guarantees_check fun verification checked =>
    ⟨context, answer, given, contextChecked, checked⟩

theorem guarantees_decideAtRevision (known : Known kernel world events inspection)
    {authorityRef : String} (current : inspection.run.revision = input.expectedRevision) :
    Guarantees kernel (fun _ after => MovedOn inspection after)
      (decideAtRevision kernel input authorityRef inspection) world := by
  refine guarantees_check_bind fun _ awaits => ?_
  refine guarantees_currentBlueprint.bind fun _ first one _ => ?_
  refine guarantees_currentVersion.bind fun version second two ⟨versionDigest, _⟩ => ?_
  refine guarantees_check_bind fun _ _ => ?_
  refine guarantees_verifyOwnerAuthority.bind fun verification third three verifies => ?_
  have state : inspection.run.state =
      if decide (inspection.run.state = .awaitingOwnerCanary) = true then .awaitingOwnerCanary
      else .awaitingOwnerActive := by
    have awaits := ensure_eq_ok.1 awaits
    revert awaits
    cases inspection.run.state <;> simp [FoundryRunState.awaitsOwner]
  rw [← current] at verifies
  exact guarantees_append (known.extend ((one.trans two).trans three).extends_)
    (.ownerDecided state versionDigest verifies)

theorem guarantees_recordOwnerDecision :
    Guarantees kernel (fun _ _ => True) (recordOwnerDecision kernel input) world := by
  refine guarantees_check_bind fun expected given => guarantees_check_bind fun authorityRef _ => ?_
  refine guarantees_inspectRun.bind fun inspection _ _ ⟨events, seen⟩ => ?_
  have known := seen.toKnown
  simp only [expectedRevision, bind_eq_ok, ensure_eq_ok, pure_eq_ok] at given
  obtain ⟨_, -, rfl⟩ := given
  split
  · rename_i current
    exact guarantees_forget (guarantees_decideAtRevision known current)
  · refine guarantees_ask_bind (by exact trivial) fun _ _ _ _ => ?_
    exact guarantees_check fun _ _ => trivial

theorem guarantees_submitOwnerDecision {advance : Bool} :
    Guarantees kernel (fun _ _ => True) (submitOwnerDecision kernel input advance) world := by
  refine guarantees_recordOwnerDecision.bind fun _ _ _ _ => ?_
  split
  · exact guarantees_advanceTransitions 64
  · exact guarantees_inspected

theorem guarantees_cancelAtRevision (known : Known kernel world events inspection)
    {input : CancelRunInput} {authorityRef : String}
    (current : inspection.run.revision = input.expectedRevision) :
    Guarantees kernel (fun _ after => MovedOn inspection after)
      (cancelAtRevision kernel input authorityRef inspection) world := by
  refine guarantees_check_bind fun _ _ => ?_
  refine guarantees_verifyOwnerAuthority.bind fun verification _ later verifies => ?_
  rw [← current] at verifies
  exact guarantees_append (known.extend later.extends_) (.runCancelled verifies)

theorem guarantees_recordCancellation {input : CancelRunInput} :
    Guarantees kernel (fun _ _ => True) (recordCancellation kernel input) world := by
  refine guarantees_check_bind fun expected given => guarantees_check_bind fun authorityRef _ => ?_
  refine guarantees_inspectRun.bind fun inspection _ _ ⟨events, seen⟩ => ?_
  have known := seen.toKnown
  simp only [expectedRevision, bind_eq_ok, ensure_eq_ok, pure_eq_ok] at given
  obtain ⟨_, -, rfl⟩ := given
  split
  · rename_i current
    exact guarantees_forget (guarantees_cancelAtRevision known current)
  · refine guarantees_ask_bind (by exact trivial) fun _ _ _ _ => ?_
    exact guarantees_check fun _ _ => trivial

theorem guarantees_cancelRun {input : CancelRunInput} :
    Guarantees kernel (fun _ _ => True) (cancelRun kernel input) world :=
  guarantees_recordCancellation.bind fun _ _ _ _ => guarantees_inspected

theorem guarantees_failRun {input : FailRunInput} :
    Guarantees kernel (fun _ _ => True) (failRun kernel input) world := by
  refine guarantees_inspectRun.bind fun inspection _ _ ⟨events, seen⟩ => ?_
  have known := seen.toKnown
  split
  · exact Ensures.pure fun _ => trivial
  · refine guarantees_check_bind fun inputDigest _ => ?_
    refine guarantees_check_bind fun failureCode _ => guarantees_check_bind fun failureMessage _ => ?_
    exact Ensures.bind (guarantees_append known (.failed inputDigest failureCode failureMessage))
      fun _ _ _ _ => guarantees_inspected

theorem guarantees_preflightBaselineAdoption :
    Guarantees kernel (fun _ _ => True) (preflightBaselineAdoption request runId) world := by
  refine guarantees_ask_bind (by exact trivial) fun receipt _ _ _ => ?_
  exact guarantees_check_bind fun _ _ => Ensures.pure fun _ => trivial

theorem guarantees_optionalPreflight :
    Guarantees kernel (fun _ _ => True) (optionalPreflight request runId required) world := by
  unfold optionalPreflight
  split
  · exact guarantees_preflightBaselineAdoption.map fun _ _ _ _ => trivial
  · exact Ensures.pure fun _ => trivial

theorem guarantees_validatedRequest {input : StartRunInput} :
    Guarantees kernel (fun request _ => validateDesignRequest input.request = .ok request)
      (validatedRequest input required runId) world := by
  refine Ensures.tryCatch (guarantees_check fun request validated => validated) fun failure _ _ => ?_
  exact guarantees_optionalPreflight.bind fun _ _ _ _ => guarantees_throw _

theorem guarantees_startRunId {input : StartRunInput} :
    Guarantees kernel (fun runId _ => trim runId = runId) (startRunId input) world := by
  unfold startRunId
  split
  · rename_i runId given
    refine Ensures.pure fun _ => ?_
    obtain ⟨text, -, rfl⟩ := Option.map_eq_some_iff.1 (mem_present.1 given).1
    exact trim_trim text
  · have free : Allowed kernel world .createRunId := trivial
    exact ensures_ask free

theorem guarantees_confirmPreflight {activation : ActivationPointer}
    {receipt : Option BaselineAdoptionPreflightReceipt} :
    Guarantees kernel (fun _ _ => True) (confirmPreflight request runId activation receipt)
      world := by
  cases receipt with
  | none => exact Ensures.pure fun _ => trivial
  | some receipt =>
    unfold confirmPreflight
    dsimp only
    split
    · refine guarantees_preflightBaselineAdoption.bind fun _ _ _ _ => ?_
      exact guarantees_check fun _ _ => trivial
    · exact Ensures.pure fun _ => trivial

/-- A target that is as the request expects it has the version that the request names. -/
theorem BaselineResolved.known {baseline : Option AgentVersion} {activation : ActivationPointer}
    (resolved : BaselineResolved world request baseline)
    (unnamed : request.mode = .create → request.targetVersionRef = none)
    (solid : ∀ ref, request.targetVersionRef = some ref → ref ≠ "")
    (asserted : assertStartingVersion request baseline activation = .ok ()) :
    BaselineKnown world request := by
  intro ref named
  simp only [assertStartingVersion, bind_eq_ok, ensure_eq_ok] at asserted
  obtain ⟨_, -, _, -, _, present, -⟩ := asserted
  have mode : request.mode ≠ .create := fun created => by simp [unnamed created] at named
  obtain ⟨version, rfl⟩ := Option.ne_none_iff_exists'.1 (present mode)
  exact ⟨solid ref named, version, resolved.named ref named (solid ref named)⟩

theorem guarantees_admitRun {requestDigest : String} (named : trim runId = runId)
    (valid : ∃ value, validateDesignRequest value = .ok request)
    (clean : scanForbidden request.toJson [] = []) :
    Guarantees kernel (fun _ _ => True) (admitRun kernel request requestDigest runId required)
      world := by
  refine guarantees_optionalPreflight.bind fun preflight _ _ _ => ?_
  refine guarantees_resolveBaseline.bind fun baseline _ _ resolved => ?_
  refine guarantees_ask_bind (by exact trivial) fun activation second two _ => ?_
  refine guarantees_check_bind fun _ asserted => ?_
  refine guarantees_confirmPreflight.bind fun _ third three _ => ?_
  refine guarantees_ask_bind (by exact trivial) fun stored fourth four ⟨_, put⟩ => ?_
  refine guarantees_check_bind fun _ same => ?_
  refine guarantees_ask_bind (by exact trivial) fun occurredAt fifth five _ => ?_
  refine guarantees_check_bind fun event built => ?_
  obtain rfl := buildFoundryEvent_eq_ok built
  obtain rfl := ensure_eq_ok.1 same
  obtain ⟨unnamed, solid⟩ := validateDesignRequest_eq_ok valid.choose_spec
  have known := resolved.known unnamed solid asserted
  have known := known.extend (((two.trans three).trans four).trans five).extends_
  refine guarantees_ask_bind ?_ fun _ _ _ _ => guarantees_check fun _ _ => trivial
  exact ⟨runId, request, stored.digest, activation, occurredAt,
    ⟨named, valid, clean, five.extends_.objects put, known⟩, rfl, rfl⟩

theorem guarantees_startRun {input : StartRunInput} :
    Guarantees kernel (fun _ _ => True) (startRun kernel input required) world := by
  refine guarantees_startRunId.bind fun runId _ _ named => ?_
  refine guarantees_check_bind fun _ _ => ?_
  refine guarantees_validatedRequest.bind fun request _ _ validated => ?_
  refine guarantees_check_bind fun requestDigest hashed => ?_
  refine guarantees_ask_bind (by exact trivial) fun existing _ _ _ => ?_
  split
  · exact guarantees_check_bind fun _ _ => guarantees_check_bind fun _ _ =>
      Ensures.pure fun _ => trivial
  · exact guarantees_admitRun named ⟨_, validated⟩ (foundryContentDigest_eq_ok.1 hashed).1

theorem trim_of_requiredText {value field result : String}
    (checked : requiredText value field = .ok result) : trim result = result := by
  rw [requiredRef_eq_ok checked]
  exact trim_trim _

theorem guarantees_assertRollbackVersion {version : AgentVersion}
    {targetAgentId targetDomainId blueprintLabel requestLabel label mismatch : String} :
    Guarantees kernel (fun _ _ => True) (assertRollbackVersion kernel version targetAgentId
      targetDomainId blueprintLabel requestLabel label mismatch) world := by
  refine guarantees_object.bind fun _ _ _ _ => ?_
  refine guarantees_check_bind fun _ _ => guarantees_check_bind fun _ _ =>
    guarantees_check_bind fun _ _ => ?_
  refine guarantees_object.bind fun _ _ _ _ => ?_
  refine guarantees_check_bind fun _ _ => guarantees_check_bind fun _ _ => ?_
  exact guarantees_check fun _ _ => trivial

theorem guarantees_rollbackActivation {input : RollbackActivationInput} :
    Guarantees kernel (fun _ _ => True) (rollbackActivation kernel input) world := by
  refine guarantees_check_bind fun targetAgentId agent =>
    guarantees_check_bind fun targetDomainId domain =>
    guarantees_check_bind fun versionDigest _ => guarantees_check_bind fun expected _ =>
      guarantees_check_bind fun authorityRef _ => ?_
  refine guarantees_ask_bind (by exact trivial) fun found _ _ _ => ?_
  cases found with
  | none => exact guarantees_reject _
  | some version =>
    refine guarantees_check_bind fun _ identified => ?_
    obtain ⟨rfl, rfl, rfl⟩ := ensure_eq_ok.1 identified
    refine guarantees_assertRollbackVersion.bind fun _ _ _ _ => ?_
    refine guarantees_ask_bind (by exact trivial) fun activation _ _ _ => ?_
    refine guarantees_check_bind fun _ _ => ?_
    refine guarantees_ask_bind (by exact trivial) fun history _ _ _ => ?_
    refine guarantees_check_bind fun _ _ => ?_
    refine guarantees_ask_bind (by exact trivial) fun active _ _ _ => ?_
    cases active with
    | none => exact guarantees_reject _
    | some activeVersion =>
      refine guarantees_assertRollbackVersion.bind fun _ _ _ _ => ?_
      refine guarantees_verifyOwnerAuthority.bind fun verification _ _ verifies => ?_
      refine Ensures.weaken (guarantees_commitFoundryActivation fun occurredAt preflight =>
        ⟨nofun, fun _ => ⟨trim_of_requiredText agent, trim_of_requiredText domain,
          authorityRef, verification, verifies, rfl⟩⟩) fun _ _ _ _ => trivial

theorem Operation.guarantees {program : KernelProgram Unit} (operation : Operation kernel program) :
    Guarantees kernel (fun _ _ => True) program world := by
  cases operation with
  | startRun => exact guarantees_forget guarantees_startRun
  | advanceRunStep => exact guarantees_forget guarantees_advanceRunStep
  | submitOwnerDecision => exact guarantees_forget guarantees_submitOwnerDecision
  | cancelRun => exact guarantees_forget guarantees_cancelRun
  | failRun => exact guarantees_forget guarantees_failRun
  | rollbackActivation => exact guarantees_forget guarantees_rollbackActivation

/-- Whatever the operations of any number of runs do, in any order, the invariant holds. -/
theorem kernelInvariant_of_reachable {pool : Pool kernelInterface World Unit}
    (reached : Reachable (kernelMachine kernel.platform) (Operation kernel) .empty pool) :
    KernelInvariant kernel pool.world := by
  have initial : (kernelDiscipline kernel).invariant .empty := kernelInvariant_empty kernel
  exact (Reachable.safe initial (fun _ operation _ => operation.guarantees) reached).1.invariant

end OnePersonLab.Evolution.Kernel

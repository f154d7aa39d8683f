import OnePersonLab.Release.Checkpoint

/-!
# What the commands of a release bundle accept

What follows about a receipt, a marker or a staging from the checks that let it pass.
-/

namespace OnePersonLab.Release

open Contract Lib

/-! ## The facts that a command goes by -/

theorem readExecutorReceipt_eq {receipt read : ExecutorReceipt}
    (accepted : readExecutorReceipt receipt = .ok read) : read = receipt := by
  simp only [readExecutorReceipt, bind_eq_ok, ensure_eq_ok, pure_eq_ok] at accepted
  obtain ⟨_, -, _, -, _, -, _, -, _, -, _, -, rfl⟩ := accepted
  rfl

theorem readStoredReleaseBundle_eq_ok {store : ReleaseStore} {json : String} :
    readStoredReleaseBundle store = .ok json ↔ store.bundleJson = some json := by
  cases stored : store.bundleJson <;> simp [readStoredReleaseBundle, stored]

/-- An executor receipt that a command has accepted for its operation. -/
structure Accepted (bundle : ReleaseBundle) (store : ReleaseStore)
    (invocation : OperationInvocation) (receipt : ExecutorReceipt) (reconcile : Bool)
    (operation : ExecutorOperation) (binding : ExecutorBinding) (control : OperationControl) :
    Prop where
  stored : ∃ json, store.bundleJson = some json
  wellFormed : readExecutorReceipt receipt = .ok receipt
  bundleDigest : receipt.bundleDigest = bundle.bundleDigest
  operation : receipt.operation = operation
  bound : receipt.binding = some binding
  releaseOperation : binding.releaseOperation = invocation.releaseOperation
  operationId : binding.operationId = invocation.operationId
  track : receipt.track ∈ releaseBundleOperationTracks invocation.releaseOperation
  admitted : Admitted bundle store invocation reconcile control
  fresh : reconcile = false → binding.priorAttemptId = none

theorem assertExecutorOperationBinding_eq_ok {receipt : ExecutorReceipt}
    {invocation : OperationInvocation} {binding : ExecutorBinding} :
    assertExecutorOperationBinding receipt invocation = .ok binding ↔
      receipt.binding = some binding ∧
        (binding.releaseOperation = invocation.releaseOperation ∧
          binding.operationId = invocation.operationId) ∧
        receipt.track ∈ releaseBundleOperationTracks invocation.releaseOperation := by
  cases bound : receipt.binding with
  | none => simp [assertExecutorOperationBinding, bound]
  | some held =>
    simp only [assertExecutorOperationBinding, bound, assertReleaseBundleOperationTrack,
      bind_eq_ok, ensure_eq_ok, pure_eq_ok, Option.some.injEq]
    constructor
    · rintro ⟨_, identity, _, allowed, rfl⟩
      exact ⟨rfl, identity, allowed⟩
    · rintro ⟨rfl, identity, allowed⟩
      exact ⟨(), identity, (), allowed, rfl⟩

/-- The marker of a reconcile is the one in the store, and the observation is about it. -/
structure Reconciles (store : ReleaseStore) (receipt : ExecutorReceipt)
    (binding : ExecutorBinding) (invocation : OperationInvocation) (stage : StageOperation)
    (marker : UnknownOutcomeMarker) : Prop where
  active : store.unknown (stage, receipt.track) = some marker
  named : receipt.outcome ≠ .unknown → binding.priorAttemptId ≠ none
  same : Matches marker receipt binding invocation stage

theorem exactReconcileMarker_eq_ok {store : ReleaseStore} {receipt : ExecutorReceipt}
    {binding : ExecutorBinding} {invocation : OperationInvocation} {stage : StageOperation}
    {marker : UnknownOutcomeMarker} :
    exactReconcileMarker store receipt binding invocation stage = .ok marker ↔
      Reconciles store receipt binding invocation stage marker := by
  cases held : store.unknown (stage, receipt.track) with
  | none =>
    simp only [exactReconcileMarker, held, fail_ne_ok, false_iff]
    intro reconciles
    simpa [held] using reconciles.active
  | some active =>
    simp only [exactReconcileMarker, held, bind_eq_ok, ensure_eq_ok, pure_eq_ok]
    constructor
    · rintro ⟨_, named, _, same, rfl⟩
      exact ⟨held, named, same⟩
    · rintro ⟨found, named, same⟩
      rw [held, Option.some.injEq] at found
      subst found
      exact ⟨(), named, (), same, rfl⟩

/-- The marker that an ordinary command leaves when it cannot tell how it ended. -/
def freshMarker (receipt : ExecutorReceipt) (binding : ExecutorBinding)
    (invocation : OperationInvocation) (stage : StageOperation) : UnknownOutcomeMarker where
  bundleDigest := receipt.bundleDigest
  operationId := invocation.operationId
  operationKind := canonicalReleaseBundleOperation invocation.releaseOperation
  stageOperation := stage
  publicationScope := markerScope receipt stage
  track := receipt.track
  remoteTarget := binding.remoteTarget
  priorMutationAttemptId := receipt.attemptId
  executor := receipt.executor

section

variable {receipt : ExecutorReceipt} {binding : ExecutorBinding} {invocation : OperationInvocation}
  {stage : StageOperation} {marker : UnknownOutcomeMarker}

theorem unknownMarker_eq_ok :
    unknownMarker receipt binding invocation stage = .ok marker ↔
      binding.priorAttemptId = none ∧ marker = freshMarker receipt binding invocation stage := by
  simp only [unknownMarker, bind_eq_ok, ensure_eq_ok, pure_eq_ok, freshMarker]
  constructor
  · rintro ⟨_, fresh, rfl⟩
    exact ⟨fresh, rfl⟩
  · rintro ⟨fresh, rfl⟩
    exact ⟨(), fresh, rfl⟩

theorem assertUnknownOutcomeMarker_eq_ok {result : Unit} :
    assertUnknownOutcomeMarker marker = .ok result ↔
      trackAllowed marker.operationKind marker.track = true ∧
        (marker.stageOperation = .build ↔ marker.publicationScope = none) := by
  simp only [assertUnknownOutcomeMarker, bind_eq_ok, ensure_eq_ok]
  constructor
  · rintro ⟨_, track, scope⟩
    exact ⟨track, scope⟩
  · rintro ⟨track, scope⟩
    exact ⟨(), track, scope⟩

theorem trackAllowed_of_mem {operation : StableOperation} {track : Track}
    (allowed : track ∈ releaseBundleOperationTracks operation) :
    trackAllowed (canonicalReleaseBundleOperation operation) track = true := by
  cases operation <;>
    simpa [releaseBundleOperationTracks, canonicalReleaseBundleOperation, trackAllowed] using allowed

theorem assertUnknownOutcomeMarker_fresh
    (allowed : receipt.track ∈ releaseBundleOperationTracks invocation.releaseOperation) :
    assertUnknownOutcomeMarker (freshMarker receipt binding invocation stage) = .ok () := by
  apply assertUnknownOutcomeMarker_eq_ok.2
  constructor
  · exact trackAllowed_of_mem allowed
  · cases stage <;> simp [freshMarker, markerScope]

theorem assertUnknownOutcomeMarker_matched (same : Matches marker receipt binding invocation stage)
    (allowed : receipt.track ∈ releaseBundleOperationTracks invocation.releaseOperation) :
    assertUnknownOutcomeMarker marker = .ok () := by
  apply assertUnknownOutcomeMarker_eq_ok.2
  rw [same.operationKind, same.track, same.publicationScope, same.stageOperation]
  constructor
  · exact trackAllowed_of_mem allowed
  · cases stage <;> simp [markerScope]

end

/-- What a publication has found in the store. The confirmation of the track is carried on
from its latest publication, or by the marker of an external attempt. -/
structure Publishable (bundle : ReleaseBundle) (store : ReleaseStore) (track : Track)
    (scope : PublicationScope) (marker : Option UnknownOutcomeMarker) (reconcile : Bool)
    (staged : List StoredAsset) (confirmed : Bool) : Prop where
  held : store.staged track = some staged
  known : confirmed = (trackAssetsConfirmed (latestPublicationState store track) ||
    marker.any fun marker => marker.publicationScope = some .externalTarget)
  barrier : scope = .externalTarget → bundle.requiredForLatest track = true →
    assertStablePromotionBarrier bundle store marker = .ok ()
  carried : scope = .externalTarget → confirmed = true
  previous : scope = .externalTarget → reconcile = false →
    (latestPublicationState store track).map OperationReceipt.status = some .complete

section

variable {store : ReleaseStore} {marker : Option UnknownOutcomeMarker} {reconcile : Bool}

theorem assertExternalTarget_eq_ok {bundle : ReleaseBundle} {track : Track} {confirmed : Bool}
    {result : Unit} :
    assertExternalTarget bundle store track marker confirmed reconcile .externalTarget =
      .ok result ↔
      (bundle.requiredForLatest track = true →
        assertStablePromotionBarrier bundle store marker = .ok ()) ∧
      confirmed = true ∧
      (reconcile = false →
        (latestPublicationState store track).map OperationReceipt.status = some .complete) := by
  unfold assertExternalTarget
  by_cases required : bundle.requiredForLatest track = true
  · simp only [required, if_true, bind_eq_ok, ensure_eq_ok, true_implies]
    constructor
    · rintro ⟨_, barrier, _, carried, previous⟩
      exact ⟨barrier, carried, previous⟩
    · rintro ⟨barrier, carried, previous⟩
      exact ⟨(), barrier, (), carried, previous⟩
  · simp only [required, Bool.false_eq_true, if_false, false_implies, true_and, bind_eq_ok,
      ensure_eq_ok]
    constructor
    · rintro ⟨_, carried, previous⟩
      exact ⟨carried, previous⟩
    · rintro ⟨carried, previous⟩
      exact ⟨(), carried, previous⟩

theorem publishable_of_checks {bundle : ReleaseBundle} {track : Track} {scope : PublicationScope}
    {confirmed : Bool} {staged : List StoredAsset} {checked : Unit}
    (held : store.staged track = some staged)
    (known : confirmed = (trackAssetsConfirmed (latestPublicationState store track) ||
      marker.any fun marker => marker.publicationScope = some .externalTarget))
    (passed : assertExternalTarget bundle store track marker confirmed reconcile scope =
      .ok checked) : Publishable bundle store track scope marker reconcile staged confirmed := by
  cases scope with
  | trackAssets => exact ⟨held, known, nofun, nofun, nofun⟩
  | externalTarget =>
    obtain ⟨barrier, carried, previous⟩ := assertExternalTarget_eq_ok.1 passed
    exact ⟨held, known, fun _ => barrier, fun _ => carried, fun _ => previous⟩

theorem reconcileMarker_eq_ok {receipt : ExecutorReceipt} {binding : ExecutorBinding}
    {invocation : OperationInvocation} {stage : StageOperation} :
    reconcileMarker store receipt binding invocation stage reconcile = .ok marker ↔
      reconcile = false ∧ marker = none ∨
        reconcile = true ∧ ∃ active, marker = some active ∧
          Reconciles store receipt binding invocation stage active := by
  cases reconcile with
  | false => simp [reconcileMarker, eq_comm]
  | true =>
    simp only [reconcileMarker, bind_eq_ok, exactReconcileMarker_eq_ok, pure_eq_ok,
      Bool.true_eq_false, false_and, false_or, true_and]
    constructor
    · rintro ⟨active, reconciles, same⟩
      exact ⟨active, same.symm, reconciles⟩
    · rintro ⟨active, same, reconciles⟩
      exact ⟨active, reconciles, same.symm⟩

end

/-! ## Writing under known facts -/

theorem recordReleaseBundleUnknownOutcome_of_free {store : ReleaseStore}
    {marker : UnknownOutcomeMarker} (wellFormed : assertUnknownOutcomeMarker marker = .ok ())
    (free : Free (store.unknown (marker.stageOperation, marker.track)) marker) :
    ∃ status, recordReleaseBundleUnknownOutcome marker store = (.ok status, store.mark marker) := by
  obtain ⟨status, installed⟩ := installImmutableBytes_of_free free
  exact ⟨status, by
    simp [recordReleaseBundleUnknownOutcome, wellFormed, installed, Writes.bind_apply]⟩

theorem clearReleaseBundleUnknownOutcomeExact_of_active {store : ReleaseStore}
    {marker : UnknownOutcomeMarker} (wellFormed : assertUnknownOutcomeMarker marker = .ok ())
    (active : store.unknown (marker.stageOperation, marker.track) = some marker) :
    clearReleaseBundleUnknownOutcomeExact marker store = (.ok (), store.unmark marker) := by
  simp [clearReleaseBundleUnknownOutcomeExact, wellFormed, active, ensure_true,
    Writes.bind_apply]

/-- A staging that returned: the assets are exactly those of the plan, they have been
inspected, and the manifest was not there or was the same. -/
structure Stages (bundle : ReleaseBundle) (collation : Collation) (store : ReleaseStore)
    (inspect : ExecutorAsset → Option FileIdentity) (track : Track) (assets : List ExecutorAsset)
    (staged : Staged) : Prop where
  planned : ∃ plan, bundle.plan track = some plan ∧
    (assets.map fun asset => asset.identity.name).Perm plan.requiredAssetNames
  inspected : ∀ asset ∈ assets,
    inspect asset = some ⟨asset.identity.sizeBytes, asset.identity.sha256⟩
  compatible : ∀ asset ∈ assets, ∀ held ∈ (store.staged track).getD [],
    held.identity.name = asset.identity.name → held.identity = asset.identity
  sorted : staged.assets = collation.sortNamed (fun asset => asset.identity.name)
    (assets.map ExecutorAsset.stored)
  free : Free (store.staged track) staged.assets
  status : staged.status =
    if store.staged track = none then .complete else .idempotent

theorem stageReleaseBundleAssets_eq_ok {bundle : ReleaseBundle} {collation : Collation}
    {inspect : ExecutorAsset → Option FileIdentity} {track : Track} {assets : List ExecutorAsset}
    {store after : ReleaseStore} {staged : Staged} :
    stageReleaseBundleAssets bundle collation inspect track assets store = (.ok staged, after) ↔
      Stages bundle collation store inspect track assets staged ∧
        after = store.stage track staged.assets := by
  cases planned : bundle.plan track with
  | none =>
    simp only [stageReleaseBundleAssets, Writes.read_bind, planned, Writes.lift_apply,
      Prod.mk.injEq, fail_ne_ok, false_and, false_iff]
    rintro ⟨stages, -⟩
    obtain ⟨plan, found, -⟩ := stages.planned
    simp [planned] at found
  | some plan =>
    simp only [stageReleaseBundleAssets, Writes.read_bind, planned, Writes.lift_bind_eq_ok,
      Writes.change_bind, Writes.pure_apply, ensure_eq_ok, checkEach_eq_ok, bind_eq_ok,
      installImmutableBytes_eq_ok, Prod.mk.injEq, Except.ok.injEq]
    constructor
    · rintro ⟨_, names, _, each, status, installed, rfl, rfl⟩
      refine ⟨⟨⟨plan, planned, names⟩, ?_, ?_, rfl, ?_, ?_⟩, rfl⟩
      · intro asset listed
        obtain ⟨_, seen, -⟩ := each asset listed
        exact seen
      · intro asset listed
        obtain ⟨_, -, kept⟩ := each asset listed
        exact kept
      · exact installed.imp And.left And.left
      · rcases installed with ⟨absent, rfl⟩ | ⟨held, rfl⟩
        · simp [absent]
        · simp [held]
    · obtain ⟨answered, stored⟩ := staged
      rintro ⟨⟨⟨found, same, names⟩, inspected, compatible, sorted, free, status⟩, rfl⟩
      dsimp only at sorted free status
      subst sorted
      obtain rfl : plan = found := Option.some.inj (planned.symm.trans same)
      refine ⟨(), names, (), fun asset listed => ⟨(), inspected asset listed,
        compatible asset listed⟩, ?_⟩
      rcases free with absent | held
      · exact ⟨.created, .inl ⟨absent, rfl⟩, by simp [status, absent], rfl⟩
      · exact ⟨.idempotent, .inr ⟨held, rfl⟩, by simp [status, held], rfl⟩

theorem stageReleaseBundleAssets_allOrNothing {bundle : ReleaseBundle} {collation : Collation}
    {inspect : ExecutorAsset → Option FileIdentity} {track : Track} {assets : List ExecutorAsset}
    {store : ReleaseStore} :
    Writes.AllOrNothing store (stageReleaseBundleAssets bundle collation inspect track assets) := by
  apply Writes.AllOrNothing.read_bind
  cases bundle.plan track with
  | none => exact Writes.AllOrNothing.lift _
  | some plan =>
    apply Writes.AllOrNothing.lift_bind
    intro _ _
    apply Writes.AllOrNothing.lift_bind
    intro _ _
    apply Writes.AllOrNothing.lift_bind
    intro status _
    exact Writes.AllOrNothing.of_succeeds ⟨_, _, rfl⟩

/-! ## Exports -/

/-- What an export of a store has found and written. -/
structure Exports (bundle : ReleaseBundle) (collation : Collation) (store : ReleaseStore)
    (checkpoint : Checkpoint) : Prop where
  bundleDigest : checkpoint.bundleDigest = bundle.bundleDigest
  bundleJson : store.bundleJson = some checkpoint.bundleJson
  operationControls : checkpoint.operationControls =
    if store.legacy.isSome then none
    else some ⟨store.control .standard, store.control .appendFull⟩
  activeUnknownMarkers :
    checkpoint.activeUnknownMarkers = listReleaseBundleUnknownOutcomes store
  tracks : exportTracks bundle collation store = .ok checkpoint.tracks
  entryOrder : checkpoint.entryOrder = .sorted
  wellFormed : assertReleaseBundleCheckpoint checkpoint = .ok ()
  consistent : assertCheckpointSemantics bundle checkpoint = .ok ()

theorem exportReleaseBundleCheckpoint_eq_ok {bundle : ReleaseBundle} {collation : Collation}
    {store : ReleaseStore} {checkpoint : Checkpoint} :
    exportReleaseBundleCheckpoint bundle collation store = .ok checkpoint ↔
      Exports bundle collation store checkpoint := by
  simp only [exportReleaseBundleCheckpoint, bind_eq_ok, pure_eq_ok, readStoredReleaseBundle_eq_ok]
  constructor
  · rintro ⟨json, stored, tracks, exported, _, wellFormed, _, consistent, rfl⟩
    exact ⟨rfl, stored, rfl, rfl, exported, rfl, wellFormed, consistent⟩
  · rintro ⟨digest, stored, controls, markers, tracks, order, wellFormed, consistent⟩
    obtain ⟨_, _, _, _, _, _⟩ := checkpoint
    subst digest controls markers order
    exact ⟨_, stored, _, tracks, (), wellFormed, (), consistent, rfl⟩

/-! ## What the checks of a checkpoint establish -/

/-- The content of a track names exactly the assets that the bundle plans for it. -/
structure ValidTrack (bundle : ReleaseBundle) (source : Checkpoint) (track : Track)
    (content : CheckpointTrack) : Prop where
  distinct : (content.assets.map AssetIdentity.name).Nodup
  planned : (content.assets.map AssetIdentity.name).Perm
    ((bundle.plan track).map TrackPlan.requiredAssetNames |>.getD [])
  qualification : ∀ qualification ∈ content.qualification,
    qualification.bundleDigest = source.bundleDigest ∧ qualification.track = track

structure ValidCheckpoint (bundle : ReleaseBundle) (source : Checkpoint) : Prop where
  bundleDigest : bundle.bundleDigest = source.bundleDigest
  single : source.activeUnknownMarkers.length ≤ 1
  marker : ∀ marker ∈ source.activeUnknownMarkers, assertUnknownOutcomeMarker marker = .ok () ∧
    (source.controlOf marker.operationKind).map OperationControl.operationId =
      some marker.operationId
  markerBundle : ∀ marker ∈ source.activeUnknownMarkers,
    marker.bundleDigest = bundle.bundleDigest
  control : ∀ kind control, source.controlOf kind = some control →
    assertOperationControl control = .ok () ∧ control.operationKind = kind
  controlBundle : ∀ kind control, source.controlOf kind = some control →
    control.bundleDigest = bundle.bundleDigest
  webui : bundle.webui = none → source.tracks .webui = none
  track : ∀ track ∈ bundleTrackNames bundle, ∀ content, source.tracks track = some content →
    ValidTrack bundle source track content

section

variable {bundle : ReleaseBundle} {source : Checkpoint}

theorem mem_list_of_controlOf {controls : OperationControls} {kind : CanonicalOperation}
    {control : OperationControl} (held : source.operationControls = some controls)
    (found : source.controlOf kind = some control) : control ∈ controls.list := by
  simp only [Checkpoint.controlOf, held, Option.bind_some] at found
  cases kind with
  | standard =>
    have standard : controls.standard = some control := found
    simp [OperationControls.list, standard]
  | appendFull =>
    have appendFull : controls.appendFull = some control := found
    simp [OperationControls.list, appendFull]

theorem controlOf_of_mem_list {controls : OperationControls} {control : OperationControl}
    (held : source.operationControls = some controls) (listed : control ∈ controls.list) :
    ∃ kind, source.controlOf kind = some control := by
  simp only [OperationControls.list, List.mem_append, Option.mem_toList] at listed
  rcases listed with standard | appendFull
  · exact ⟨.standard, by simpa [Checkpoint.controlOf, held, OperationControls.of] using standard⟩
  · exact ⟨.appendFull, by simpa [Checkpoint.controlOf, held, OperationControls.of] using appendFull⟩

theorem validCheckpoint_of_asserts (wellFormed : assertReleaseBundleCheckpoint source = .ok ())
    (consistent : assertCheckpointSemantics bundle source = .ok ()) :
    ValidCheckpoint bundle source := by
  simp only [assertReleaseBundleCheckpoint, bind_eq_ok, ensure_eq_ok, checkEach_eq_ok]
    at wellFormed
  obtain ⟨_, single, _, asserted, _, standard, _, appendFull, markers⟩ := wellFormed
  simp only [assertCheckpointSemantics, bind_eq_ok, ensure_eq_ok, checkEach_eq_ok] at consistent
  obtain ⟨_, digest, _, webui, _, tracks, _, controls, -⟩ := consistent
  refine ⟨digest, single, ?_, ?_, ?_, ?_, webui, ?_⟩
  · intro marker listed
    obtain ⟨_, checked, _, -, operation⟩ := markers marker listed
    exact ⟨checked, operation⟩
  · intro marker listed
    obtain ⟨_, -, _, same, -⟩ := markers marker listed
    exact same.trans digest.symm
  · intro kind control found
    cases held : source.operationControls with
    | none => simp [Checkpoint.controlOf, held] at found
    | some controls =>
      have listed := mem_list_of_controlOf held found
      refine ⟨asserted control (by simpa [held] using listed), ?_⟩
      cases kind with
      | standard => exact (standard control found).1
      | appendFull => exact (appendFull control found).1
  · intro kind control found
    cases held : source.operationControls with
    | none => simp [Checkpoint.controlOf, held] at found
    | some known =>
      have listed := mem_list_of_controlOf held found
      exact (controls control (by simpa [held] using listed)).trans digest.symm
  · intro track listed content found
    have checked := tracks track listed
    simp only [assertCheckpointTrack, found, bind_eq_ok, ensure_eq_ok] at checked
    obtain ⟨_, distinct, _, planned, qualification⟩ := checked
    exact ⟨distinct, planned, qualification⟩

end

variable {bundle : ReleaseBundle} {track : Track}

theorem plan_of_mem (listed : track ∈ bundleTrackNames bundle) :
    ∃ plan, bundle.plan track = some plan := by
  cases track with
  | standard => exact ⟨_, rfl⟩
  | full => exact ⟨_, rfl⟩
  | webui =>
    cases planned : bundle.webui with
    | none => simp [bundleTrackNames, planned] at listed
    | some plan => exact ⟨plan, planned⟩

theorem mem_of_plan {plan : TrackPlan} (planned : bundle.plan track = some plan) :
    track ∈ bundleTrackNames bundle := by
  unfold bundleTrackNames
  cases track with
  | standard => split <;> simp
  | full => split <;> simp
  | webui =>
    have webui : bundle.webui = some plan := planned
    simp [webui]

theorem ValidCheckpoint.mem {source : Checkpoint} {content : CheckpointTrack}
    (valid : ValidCheckpoint bundle source) (found : source.tracks track = some content) :
    track ∈ bundleTrackNames bundle := by
  cases track with
  | standard => exact mem_of_plan (show bundle.plan .standard = some bundle.standard from rfl)
  | full => exact mem_of_plan (show bundle.plan .full = some bundle.full from rfl)
  | webui =>
    cases planned : bundle.webui with
    | none => simp [valid.webui planned] at found
    | some plan => exact mem_of_plan planned

theorem ValidCheckpoint.same_marker {source : Checkpoint} (valid : ValidCheckpoint bundle source)
    {first second : UnknownOutcomeMarker} (listed : first ∈ source.activeUnknownMarkers)
    (member : second ∈ source.activeUnknownMarkers) : first = second := by
  rcases known : source.activeUnknownMarkers with _ | ⟨only, _ | ⟨other, rest⟩⟩
  · simp [known] at listed
  · rw [known, List.mem_singleton] at listed member
    exact listed.trans member.symm
  · have single := valid.single
    simp [known] at single

end OnePersonLab.Release

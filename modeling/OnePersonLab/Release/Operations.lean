import OnePersonLab.Release.OperationControl

/-!
# The operations on a release bundle

Freezing, building, verifying, publishing and reconciling: what each command asks of
the store and of the receipt it is handed, and what it writes. A command that
cannot tell how its executor ended leaves a marker, and only a reconcile that names the
same attempt takes the marker away.
-/

namespace OnePersonLab.Release

open Contract Lib

/-! ## Executor receipts -/

def ExecutorOperation.text : ExecutorOperation → String
  | .build => "build"
  | .remoteInspect => "remote_inspect"

def assertExecutorBinding (bundle : ReleaseBundle) (executorReceipt : ExecutorReceipt)
    (operation : ExecutorOperation) : Checked Unit := do
  ensure (executorReceipt.bundleDigest = bundle.bundleDigest)
    "Executor receipt is bound to a different Release Bundle."
  ensure (executorReceipt.operation = operation)
    s!"This Release Bundle operation requires an {operation.text} executor receipt."

def assertExecutorOperationBinding (executorReceipt : ExecutorReceipt)
    (invocation : OperationInvocation) : Checked ExecutorBinding :=
  match executorReceipt.binding with
  | none =>
    fail "Legacy executor receipts without exact operation binding cannot drive live mutation."
  | some binding => do
    ensure (binding.releaseOperation = invocation.releaseOperation ∧
        binding.operationId = invocation.operationId)
      "Executor receipt operation identity does not match the admitted Release Bundle operation."
    assertReleaseBundleOperationTrack invocation.releaseOperation executorReceipt.track
    return binding

/-- `publication_scope ?? 'track_assets'`. -/
def ExecutorReceipt.scope (executorReceipt : ExecutorReceipt) : PublicationScope :=
  executorReceipt.publicationScope.getD .trackAssets

/-- The scope that a marker of the stage has. -/
def markerScope (executorReceipt : ExecutorReceipt) : StageOperation → Option PublicationScope
  | .publish => some executorReceipt.scope
  | .build => none

def unknownMarker (executorReceipt : ExecutorReceipt) (binding : ExecutorBinding)
    (invocation : OperationInvocation) (stageOperation : StageOperation) :
    Checked UnknownOutcomeMarker := do
  ensure (binding.priorAttemptId = none)
    "A new unknown outcome cannot claim an earlier prior attempt."
  return {
    bundleDigest := executorReceipt.bundleDigest
    operationId := invocation.operationId
    operationKind := canonicalReleaseBundleOperation invocation.releaseOperation
    stageOperation := stageOperation
    publicationScope := markerScope executorReceipt stageOperation
    track := executorReceipt.track
    remoteTarget := binding.remoteTarget
    priorMutationAttemptId := executorReceipt.attemptId
    executor := executorReceipt.executor }

/-- A reconcile observation that is about the attempt of the marker. -/
structure Matches (marker : UnknownOutcomeMarker) (executorReceipt : ExecutorReceipt)
    (binding : ExecutorBinding) (invocation : OperationInvocation)
    (stage : StageOperation) : Prop where
  bundleDigest : marker.bundleDigest = executorReceipt.bundleDigest
  operationId : marker.operationId = invocation.operationId
  operationKind :
    marker.operationKind = canonicalReleaseBundleOperation invocation.releaseOperation
  stageOperation : marker.stageOperation = stage
  publicationScope : marker.publicationScope = markerScope executorReceipt stage
  track : marker.track = executorReceipt.track
  remoteTarget : marker.remoteTarget = binding.remoteTarget
  priorAttempt : some marker.priorMutationAttemptId = binding.priorAttemptId

theorem matches_iff {marker : UnknownOutcomeMarker} {executorReceipt : ExecutorReceipt}
    {binding : ExecutorBinding} {invocation : OperationInvocation}
    {stageOperation : StageOperation} :
    Matches marker executorReceipt binding invocation stageOperation ↔
      marker.bundleDigest = executorReceipt.bundleDigest ∧
      marker.operationId = invocation.operationId ∧
      marker.operationKind = canonicalReleaseBundleOperation invocation.releaseOperation ∧
      marker.stageOperation = stageOperation ∧
      marker.publicationScope = markerScope executorReceipt stageOperation ∧
      marker.track = executorReceipt.track ∧
      marker.remoteTarget = binding.remoteTarget ∧
      some marker.priorMutationAttemptId = binding.priorAttemptId :=
  ⟨fun ⟨digest, id, kind, stage, scope, track, target, prior⟩ =>
    ⟨digest, id, kind, stage, scope, track, target, prior⟩,
   fun ⟨digest, id, kind, stage, scope, track, target, prior⟩ =>
    ⟨digest, id, kind, stage, scope, track, target, prior⟩⟩

instance (marker : UnknownOutcomeMarker) (executorReceipt : ExecutorReceipt)
    (binding : ExecutorBinding) (invocation : OperationInvocation)
    (stageOperation : StageOperation) :
    Decidable (Matches marker executorReceipt binding invocation stageOperation) :=
  decidable_of_iff _ matches_iff.symm

def exactReconcileMarker (store : ReleaseStore) (executorReceipt : ExecutorReceipt)
    (binding : ExecutorBinding) (invocation : OperationInvocation)
    (stageOperation : StageOperation) : Checked UnknownOutcomeMarker :=
  match store.unknown (stageOperation, executorReceipt.track) with
  | none => fail "Release Bundle reconcile requires a prior durable unknown outcome marker."
  | some marker => do
    ensure (executorReceipt.outcome ≠ .unknown → binding.priorAttemptId ≠ none)
      "Release Bundle reconcile observation must name the prior unknown mutation attempt."
    ensure (Matches marker executorReceipt binding invocation stageOperation)
      "Release Bundle reconcile observation does not match the exact unknown outcome marker."
    return marker

/-- The marker that a command goes by: the one it reconciles, if it is a reconcile. -/
def reconcileMarker (store : ReleaseStore) (executorReceipt : ExecutorReceipt)
    (binding : ExecutorBinding) (invocation : OperationInvocation)
    (stageOperation : StageOperation) : Bool → Checked (Option UnknownOutcomeMarker)
  | true => do
    let marker ← exactReconcileMarker store executorReceipt binding invocation stageOperation
    return some marker
  | false => .ok none

/-- `marker ?? unknownMarker(...)`. -/
def activeMarkerOf (executorReceipt : ExecutorReceipt) (binding : ExecutorBinding)
    (invocation : OperationInvocation) (stageOperation : StageOperation) :
    Option UnknownOutcomeMarker → Checked UnknownOutcomeMarker
  | some marker => .ok marker
  | none => unknownMarker executorReceipt binding invocation stageOperation

/-- `if (!reconcile) recordReleaseBundleUnknownOutcome(...)`. -/
def markUnlessReconcile (reconcile : Bool) (marker : UnknownOutcomeMarker) : StoreProgram Unit :=
  if reconcile then pure ()
  else do
    let _ ← recordReleaseBundleUnknownOutcome marker

/-- `if (marker) clearReleaseBundleUnknownOutcomeExact(...)`. -/
def clearReconciled : Option UnknownOutcomeMarker → StoreProgram Unit
  | none => pure ()
  | some marker => clearReleaseBundleUnknownOutcomeExact marker

/-! ## Freeze -/

def freezeReleaseBundle (json : String) : StoreProgram OperationReceipt := do
  let installed ← installFrozenReleaseBundle json
  let receipt : OperationReceipt :=
    { operation := .freeze
      status := if installed = .idempotent then .idempotent else .frozen }
  recordReleaseBundleOperation receipt
  return receipt

/-! ## Build -/

/-- The file that a local path names. -/
abbrev LocalFiles := String → Option FileIdentity

def receiptOperation (ordinary : ReceiptOperation) (reconcile : Bool) : ReceiptOperation :=
  if reconcile then .reconcile else ordinary

/-- The receipt of a command that went by an executor receipt. -/
def executorOperationReceipt (operation : ReceiptOperation) (status : ReceiptStatus)
    (executorReceipt : ExecutorReceipt) (invocation : OperationInvocation)
    (control : OperationControl) (unknownMarker : Option UnknownOutcomeMarker)
    (details : ReceiptDetails) : OperationReceipt where
  operation := operation
  status := status
  track := some executorReceipt.track
  executor := some executorReceipt.executor
  releaseOperation := some invocation.releaseOperation
  operationControl := some control
  unknownMarker := unknownMarker
  details := details

def buildWithReceipt (bundle : ReleaseBundle) (collation : Collation) (files : LocalFiles)
    (invocation : OperationInvocation) (receipt : ExecutorReceipt) (reconcile : Bool) :
    StoreProgram OperationReceipt := do
  let store ← Writes.read
  let _ ← readStoredReleaseBundle store
  let executorReceipt ← readExecutorReceipt receipt
  assertExecutorBinding bundle executorReceipt .build
  let binding ← assertExecutorOperationBinding executorReceipt invocation
  let operation ← requireReleaseBundleOperation store bundle invocation reconcile
  let marker ← reconcileMarker store executorReceipt binding invocation .build reconcile
  ensure (reconcile = false → binding.priorAttemptId = none)
    "Ordinary build receipts cannot act as reconcile observations."
  if executorReceipt.outcome = .unknown then
    let activeMarker ← activeMarkerOf executorReceipt binding invocation .build marker
    markUnlessReconcile reconcile activeMarker
    let receipt := executorOperationReceipt (receiptOperation .build reconcile) .reconcileOnly
      executorReceipt invocation operation.control (some activeMarker)
      { resolvedOperation := some .build, stageAdvanced := some false }
    recordReleaseBundleOperation receipt
    return receipt
  else if reconcile = true ∧ operation.deadlineElapsed = true then
    let receipt := executorOperationReceipt .reconcile .lateObservation
      executorReceipt invocation operation.control marker
      { resolvedOperation := some .build
        observedAssets := executorReceipt.assets
        stageAdvanced := some false }
    recordReleaseBundleOperation receipt
    clearReconciled marker
    return receipt
  else
    let staged ← stageReleaseBundleAssets bundle collation
      (fun asset => asset.path.bind files) executorReceipt.track executorReceipt.assets
    let receipt := executorOperationReceipt (receiptOperation .build reconcile) staged.status
      executorReceipt invocation operation.control marker
      { resolvedOperation := some .build
        assets := staged.assets
        stageAdvanced := some true }
    recordReleaseBundleOperation receipt
    clearReconciled marker
    return receipt

/-! ## Verify -/

/-- The staged asset that the subject of a qualification names. -/
def subjectOf (assets : List StoredAsset) (qualification : QualificationReceipt) :
    Option FileIdentity :=
  (assets.find? fun asset => asset.identity.name.val = qualification.subjectName).map
    fun asset => ⟨asset.identity.sizeBytes, asset.identity.sha256⟩

def assertQualificationBinding (bundle : ReleaseBundle) (assets : List StoredAsset)
    (qualification : QualificationReceipt) : Checked Unit := do
  ensure (qualification.bundleDigest = bundle.bundleDigest)
    "Qualification receipt is bound to a different Release Bundle."
  ensure (subjectOf assets qualification = some qualification.subject)
    "Qualification receipt subject does not match a staged Release Bundle asset."
  ensure (qualification.cohort = bundle.cohort)
    "Qualification receipt cohort does not match the immutable Release Bundle inputs."

/-- A qualification of the sources of this bundle, on a staged asset. -/
structure Qualifies (bundle : ReleaseBundle) (assets : List StoredAsset)
    (qualification : QualificationReceipt) : Prop where
  bundleDigest : qualification.bundleDigest = bundle.bundleDigest
  subject : subjectOf assets qualification = some qualification.subject
  cohort : qualification.cohort = bundle.cohort

theorem assertQualificationBinding_eq_ok {bundle : ReleaseBundle} {assets : List StoredAsset}
    {qualification : QualificationReceipt} {result : Unit} :
    assertQualificationBinding bundle assets qualification = .ok result ↔
      Qualifies bundle assets qualification := by
  simp only [assertQualificationBinding, bind_eq_ok, ensure_eq_ok]
  constructor
  · rintro ⟨_, digest, _, subject, cohort⟩
    exact ⟨digest, subject, cohort⟩
  · rintro ⟨digest, subject, cohort⟩
    exact ⟨(), digest, (), subject, cohort⟩

def verifyReleaseBundle (bundle : ReleaseBundle) (invocation : OperationInvocation)
    (qualification : QualificationReceipt) (requested : Option Track) :
    StoreProgram OperationReceipt := do
  let store ← Writes.read
  let _ ← readStoredReleaseBundle store
  let operation ← requireReleaseBundleOperation store bundle invocation false
  let track := requested.getD qualification.track
  assertReleaseBundleOperationTrack invocation.releaseOperation track
  ensure (qualification.track = track)
    "Qualification receipt track does not match the requested Release Bundle track."
  match store.staged track with
  | none => fail "Release Bundle track must be built before qualification can be verified."
  | some staged =>
    assertQualificationBinding bundle staged qualification
    let previous := (store.operation (.verify, some track)).bind (·.details.qualification)
    let receipt : OperationReceipt :=
      { operation := .verify
        status := if previous = some qualification then .idempotent else .complete
        track := some track
        releaseOperation := some invocation.releaseOperation
        operationControl := some operation.control
        details :=
          { assets := staged
            qualification := some qualification
            stageAdvanced := some true } }
    recordReleaseBundleOperation receipt
    return receipt

/-! ## Publish -/

def resolvedPublication (receipt : OperationReceipt) : Bool :=
  receipt.details.resolvedOperation = some .publish

def latestPublicationState (store : ReleaseStore) (track : Track) : Option OperationReceipt :=
  match (store.operation (.reconcile, some track)).filter resolvedPublication with
  | some reconciliation => some reconciliation
  | none => store.operation (.publish, some track)

def trackAssetsConfirmed : Option OperationReceipt → Bool
  | none => false
  | some receipt =>
    receipt.details.trackAssetsConfirmed = some true ||
      (receipt.status = .complete && receipt.details.publicationScope = none)

def assertStablePromotionBarrier (bundle : ReleaseBundle) (store : ReleaseStore)
    (activeExternalMarker : Option UnknownOutcomeMarker) : Checked Unit :=
  checkEach (fun requiredTrack =>
    ensure (trackAssetsConfirmed (latestPublicationState store requiredTrack) = true ∨
        activeExternalMarker.any (fun marker =>
          marker.publicationScope = some .externalTarget && marker.track = requiredTrack) = true)
      "Stable external projection requires completed track asset publication first for every immutable carrier.")
    (stableRequiredTrackNames bundle)

/-- The remote asset of a name. -/
def remoteAsset (remote : List ExecutorAsset) (name : AssetName) : Option AssetIdentity :=
  (remote.find? fun asset => asset.identity.name = name).map ExecutorAsset.identity

/-- The staged assets that the remote lacks; one that is there must be the same. -/
def uploadActions (collation : Collation) (staged : List StoredAsset)
    (remote : List ExecutorAsset) : Checked (List AssetIdentity) := do
  checkEach (fun asset =>
    ensure ((remoteAsset remote asset.identity.name).all (· = asset.identity) = true)
      "Remote release contains a same-name asset with a different digest.") staged
  return collation.sortNamed AssetIdentity.name
    ((staged.map StoredAsset.identity).filter fun asset => (remoteAsset remote asset.name).isNone)

/-- What an external target needs before it is written to or reconciled. -/
def assertExternalTarget (bundle : ReleaseBundle) (store : ReleaseStore) (track : Track)
    (marker : Option UnknownOutcomeMarker) (confirmed : Bool) (reconcile : Bool) :
    PublicationScope → Checked Unit
  | .trackAssets => .ok ()
  | .externalTarget => do
    if bundle.requiredForLatest track = true then
      assertStablePromotionBarrier bundle store marker
    ensure (confirmed = true)
      "External target publication requires completed track asset publication first."
    ensure (reconcile = false →
        (latestPublicationState store track).map OperationReceipt.status = some .complete)
      "A new external target mutation requires the previous publication target to be complete."

/-- The details of a publication receipt. -/
def publicationDetails (publicationScope : PublicationScope) (binding : ExecutorBinding)
    (trackAssetsConfirmed stageAdvanced : Bool) : ReceiptDetails where
  resolvedOperation := some .publish
  publicationScope := some publicationScope
  remoteTarget := some binding.remoteTarget
  trackAssetsConfirmed := some trackAssetsConfirmed
  stageAdvanced := some stageAdvanced

def publishWithReceipt (bundle : ReleaseBundle) (collation : Collation)
    (invocation : OperationInvocation) (receipt : ExecutorReceipt) (reconcile : Bool) :
    StoreProgram OperationReceipt := do
  let store ← Writes.read
  let _ ← readStoredReleaseBundle store
  let executorReceipt ← readExecutorReceipt receipt
  assertExecutorBinding bundle executorReceipt .remoteInspect
  let binding ← assertExecutorOperationBinding executorReceipt invocation
  let operation ← requireReleaseBundleOperation store bundle invocation reconcile
  let track := executorReceipt.track
  match store.staged track with
  | none => fail "Release Bundle track must be built before publish."
  | some staged =>
    let publicationScope := executorReceipt.scope
    let previousTrackAssetsConfirmed := trackAssetsConfirmed (latestPublicationState store track)
    let marker ← reconcileMarker store executorReceipt binding invocation .publish reconcile
    let confirmedBeforeExternalAttempt := previousTrackAssetsConfirmed ||
      marker.any fun marker => marker.publicationScope = some .externalTarget
    assertExternalTarget bundle store track marker confirmedBeforeExternalAttempt reconcile
      publicationScope
    ensure (reconcile = false → binding.priorAttemptId = none)
      "Ordinary publish receipts cannot act as reconcile observations."
    if executorReceipt.outcome = .unknown then
      let activeMarker ← activeMarkerOf executorReceipt binding invocation .publish marker
      markUnlessReconcile reconcile activeMarker
      let receipt := executorOperationReceipt (receiptOperation .publish reconcile) .reconcileOnly
        executorReceipt invocation operation.control (some activeMarker)
        (publicationDetails publicationScope binding
          (publicationScope = .externalTarget && confirmedBeforeExternalAttempt) false)
      recordReleaseBundleOperation receipt
      return receipt
    else
      let late := reconcile && operation.deadlineElapsed
      if publicationScope = .externalTarget then
        let receipt := executorOperationReceipt (receiptOperation .publish reconcile)
          (if late then .lateObservation else .complete)
          executorReceipt invocation operation.control marker
          (publicationDetails publicationScope binding confirmedBeforeExternalAttempt (!late))
        recordReleaseBundleOperation receipt
        clearReconciled marker
        if reconcile = false then
          clearReleaseBundleOperation .reconcile (some track)
        return receipt
      else
        let missing ← uploadActions collation staged executorReceipt.assets
        if reconcile = true ∧ missing ≠ [] then
          let receipt := executorOperationReceipt .reconcile .reconcileOnly
            executorReceipt invocation operation.control marker
            { publicationDetails publicationScope binding false false with
              observedMissingAssets := missing.map AssetIdentity.name }
          recordReleaseBundleOperation receipt
          return receipt
        else
          let status : ReceiptStatus :=
            if late then .lateObservation
            else if missing ≠ [] then .uploadRequired
            else .complete
          let receipt := executorOperationReceipt (receiptOperation .publish reconcile) status
            executorReceipt invocation operation.control marker
            { publicationDetails publicationScope binding (status = .complete) (!late) with
              uploadActions := missing }
          recordReleaseBundleOperation receipt
          clearReconciled marker
          if reconcile = false then
            clearReleaseBundleOperation .reconcile (some track)
          return receipt

def buildReleaseBundle (bundle : ReleaseBundle) (collation : Collation) (files : LocalFiles)
    (invocation : OperationInvocation) (receipt : ExecutorReceipt) :
    StoreProgram OperationReceipt :=
  buildWithReceipt bundle collation files invocation receipt false

def publishReleaseBundle (bundle : ReleaseBundle) (collation : Collation)
    (invocation : OperationInvocation) (receipt : ExecutorReceipt) :
    StoreProgram OperationReceipt :=
  publishWithReceipt bundle collation invocation receipt false

def reconcileReleaseBundle (bundle : ReleaseBundle) (collation : Collation) (files : LocalFiles)
    (invocation : OperationInvocation) (receipt : ExecutorReceipt) :
    StoreProgram OperationReceipt :=
  match receipt.operation with
  | .build => buildWithReceipt bundle collation files invocation receipt true
  | .remoteInspect => publishWithReceipt bundle collation invocation receipt true

/-! ## Status -/

structure TrackStatus where
  built : Bool
  verified : Bool
  published : Bool
  reconcileRequired : Bool
  assets : List StoredAsset
  deriving DecidableEq

/-- `['complete', 'idempotent'].includes(status)`. -/
def ReceiptStatus.settled (status : ReceiptStatus) : Bool :=
  status = .complete || status = .idempotent

def trackStatus (store : ReleaseStore) (track : Track) (markers : List UnknownOutcomeMarker) :
    TrackStatus where
  built := (store.staged track).isSome
  verified := (store.operation (.verify, some track)).any fun receipt => receipt.status.settled
  published := (latestPublicationState store track).any fun receipt => receipt.status = .complete
  reconcileRequired := markers.any fun marker => marker.track = track
  assets := (store.staged track).getD []

structure ReleaseBundleStatus where
  bundleJson : String
  standardControl : Option (OperationControl × Bool)
  appendFullControl : Option (OperationControl × Bool)
  operationControlCompatible : Bool
  liveMutationAllowed : Bool
  activeUnknownMarkers : List UnknownOutcomeMarker
  standard : TrackStatus
  webui : Option TrackStatus
  full : TrackStatus
  requiredTracks : List Track
  latestEligible : Bool
  deriving DecidableEq

/-- `latest_eligible`, which is also `stable_promotion_barrier.satisfied`. -/
def latestEligible (bundle : ReleaseBundle) (store : ReleaseStore) : Bool :=
  let markers := listReleaseBundleUnknownOutcomes store
  (stableRequiredTrackNames bundle).all fun track =>
    let status := trackStatus store track markers
    status.published && !status.reconcileRequired

def readReleaseBundleStatus (bundle : ReleaseBundle) (store : ReleaseStore) (now : Int) :
    Checked ReleaseBundleStatus := do
  let json ← readStoredReleaseBundle store
  let markers := listReleaseBundleUnknownOutcomes store
  let withDeadline (control : OperationControl) :=
    (control, releaseBundleOperationDeadlineElapsed control now)
  return {
    bundleJson := json
    standardControl := (store.control .standard).map withDeadline
    appendFullControl := (store.control .appendFull).map withDeadline
    operationControlCompatible := store.legacy.isNone
    liveMutationAllowed := store.legacy.isNone && markers.isEmpty
    activeUnknownMarkers := markers
    standard := trackStatus store .standard markers
    webui := bundle.webui.map fun _ => trackStatus store .webui markers
    full := trackStatus store .full markers
    requiredTracks := stableRequiredTrackNames bundle
    latestEligible := latestEligible bundle store }

end OnePersonLab.Release

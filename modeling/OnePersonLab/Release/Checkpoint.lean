import OnePersonLab.Release.Operations

/-!
# Checkpoints of a release bundle

An export writes what is built and verified, the controls and the active unknown
outcomes into a directory; an import writes them into a store. The publication
state of a store is not part of its checkpoint.
-/

namespace OnePersonLab.Release

open Contract Lib

/-! ## Validation -/

/-- The control that a marker runs under. -/
def OperationControls.of (controls : OperationControls) :
    CanonicalOperation → Option OperationControl
  | .standard => controls.standard
  | .appendFull => controls.appendFull

def OperationControls.list (controls : OperationControls) : List OperationControl :=
  controls.standard.toList ++ controls.appendFull.toList

/-- The control of a checkpoint for a kind of operation. -/
def Checkpoint.controlOf (checkpoint : Checkpoint) (kind : CanonicalOperation) :
    Option OperationControl :=
  checkpoint.operationControls.bind fun controls => controls.of kind

/-- `assertReleaseBundleCheckpoint`. -/
def assertReleaseBundleCheckpoint (checkpoint : Checkpoint) : Checked Unit := do
  ensure (checkpoint.activeUnknownMarkers.length ≤ 1)
    "Release Bundle payload does not match its schema."
  checkEach assertOperationControl
    ((checkpoint.operationControls.map OperationControls.list).getD [])
  ensure (∀ control ∈ checkpoint.controlOf .standard,
      control.operationKind = .standard ∧ control.track = .standard)
    "Release Bundle checkpoint Standard control is stored in the wrong operation slot."
  ensure (∀ control ∈ checkpoint.controlOf .appendFull,
      control.operationKind = .appendFull ∧ control.track = .full)
    "Release Bundle checkpoint append_full control is stored in the wrong operation slot."
  checkEach (fun marker => do
    assertUnknownOutcomeMarker marker
    ensure (marker.bundleDigest = checkpoint.bundleDigest)
      "Release Bundle checkpoint unknown marker belongs to another Bundle."
    ensure ((checkpoint.controlOf marker.operationKind).map OperationControl.operationId =
        some marker.operationId)
      "Release Bundle checkpoint unknown marker does not match its immutable operation control.")
    checkpoint.activeUnknownMarkers

/-- The checks of one track of a checkpoint. -/
def assertCheckpointTrack (bundle : ReleaseBundle) (checkpoint : Checkpoint) (track : Track) :
    Checked Unit :=
  match checkpoint.tracks track with
  | none => .ok ()
  | some content => do
    ensure (content.assets.map AssetIdentity.name).Nodup
      "Release Bundle checkpoint contains duplicate entry paths."
    ensure ((content.assets.map AssetIdentity.name).Perm
        ((bundle.plan track).map TrackPlan.requiredAssetNames |>.getD []))
      "Checkpoint built track does not contain the exact closed Bundle asset set."
    ensure (∀ qualification ∈ content.qualification,
        qualification.bundleDigest = checkpoint.bundleDigest ∧ qualification.track = track)
      "Checkpoint qualification receipt is bound to another Bundle or track."

/-- `assertCheckpointSemantics`, for the bundle that `bundle.json` holds. -/
def assertCheckpointSemantics (bundle : ReleaseBundle) (checkpoint : Checkpoint) :
    Checked Unit := do
  ensure (bundle.bundleDigest = checkpoint.bundleDigest)
    "Release Bundle checkpoint manifest and bundle.json use different Bundle digests."
  ensure (bundle.webui = none → checkpoint.tracks .webui = none)
    "Release Bundle checkpoint track set differs from its immutable Bundle."
  checkEach (assertCheckpointTrack bundle checkpoint) (bundleTrackNames bundle)
  checkEach (fun control =>
    ensure (control.bundleDigest = checkpoint.bundleDigest)
      "Checkpoint operation control belongs to another Release Bundle.")
    ((checkpoint.operationControls.map OperationControls.list).getD [])
  ensure ((checkpoint.controlOf .appendFull).isSome = true →
      (checkpoint.controlOf .standard).isSome = true)
    "append_full checkpoint control requires the immutable Standard operation control."
  ensure ((checkpoint.controlOf .appendFull).isSome = true →
      ∀ track ∈ stableRequiredTrackNames bundle, (checkpoint.tracks track).isSome = true)
    "append_full checkpoint control requires every Stable carrier track to be built."
  ensure (∀ standard ∈ checkpoint.controlOf .standard, ∀ full ∈ checkpoint.controlOf .appendFull,
      standard.operationId ≠ full.operationId)
    "append_full checkpoint control must use an independent operation identity."

/-! ## Export -/

/-- The qualification of a verified track. -/
def qualificationPath (store : ReleaseStore) (track : Track) :
    Checked (Option QualificationReceipt) :=
  match (store.operation (.verify, some track)).filter fun receipt => receipt.status.settled with
  | none => .ok none
  | some verification =>
    match verification.details.qualification with
    | none => fail "Verified Release Bundle track is missing its qualification receipt path."
    | some qualification => .ok (some qualification)

def exportTrack (collation : Collation) (store : ReleaseStore) (track : Track) :
    Checked (Option CheckpointTrack) := do
  let qualification ← qualificationPath store track
  match store.staged track with
  | none =>
    ensure (qualification = none) "Verified track has no staged assets."
    return none
  | some staged =>
    return some
      { assets := collation.sortNamed AssetIdentity.name (staged.map StoredAsset.identity)
        qualification := qualification }

/-- The tracks of the bundle; the others are absent. -/
def exportTracks (bundle : ReleaseBundle) (collation : Collation) (store : ReleaseStore) :
    Checked (Track → Option CheckpointTrack) := do
  let standard ← exportTrack collation store .standard
  let webui ← if bundle.webui.isSome then exportTrack collation store .webui else .ok none
  let full ← exportTrack collation store .full
  return fun
    | .standard => standard
    | .webui => webui
    | .full => full

def exportReleaseBundleCheckpoint (bundle : ReleaseBundle) (collation : Collation)
    (store : ReleaseStore) : Checked Checkpoint := do
  let json ← readStoredReleaseBundle store
  let tracks ← exportTracks bundle collation store
  let checkpoint : Checkpoint :=
    { bundleDigest := bundle.bundleDigest
      bundleJson := json
      operationControls :=
        if store.legacy.isSome then none
        else some ⟨store.control .standard, store.control .appendFull⟩
      activeUnknownMarkers := listReleaseBundleUnknownOutcomes store
      tracks := tracks
      entryOrder := .sorted }
  assertReleaseBundleCheckpoint checkpoint
  assertCheckpointSemantics bundle checkpoint
  return checkpoint

/-! ## Import -/

def unknownMarkerResolvedExactly (store : ReleaseStore) (marker : UnknownOutcomeMarker) : Bool :=
  (store.operation (.reconcile, some marker.track)).any fun receipt =>
    (receipt.status = .complete || receipt.status = .lateObservation) &&
      receipt.details.resolvedOperation = some marker.stageOperation &&
      receipt.unknownMarker = some marker

/-- An asset entry, handed to the staging as an executor would. -/
def checkpointAsset (asset : AssetIdentity) : ExecutorAsset where
  identity := asset
  path := some asset.name.val
  keys := [.name, .path, .sizeBytes, .sha256]
  keysNamed := by simp

/-- The directory of a checkpoint has been inspected when it was validated. -/
def inspectEntry (asset : ExecutorAsset) : Option FileIdentity :=
  some ⟨asset.identity.sizeBytes, asset.identity.sha256⟩

/-- The receipt of a qualification that is restored. -/
def restoredReceipt (track : Track) (operationControl : Option OperationControl)
    (staged : List StoredAsset) (qualification : QualificationReceipt) : OperationReceipt where
  operation := .verify
  status := .complete
  track := some track
  releaseOperation := operationControl.map fun control =>
    match control.operationKind with
    | .standard => .standard
    | .appendFull => .appendFull
  operationControl := operationControl
  details := { assets := staged, qualification := some qualification, stageAdvanced := some false }

/-- `restoreQualifiedReleaseBundleTrackFromCheckpoint`. -/
def restoreQualifiedTrack (bundle : ReleaseBundle) (qualification : QualificationReceipt)
    (track : Track) (operationControl : Option OperationControl) : StoreProgram Unit := do
  let store ← Writes.read
  let _ ← readStoredReleaseBundle store
  ensure (qualification.track = track)
    "Checkpoint qualification receipt track does not match its declared track."
  match store.staged track with
  | none => fail "Checkpoint qualification restore requires staged immutable assets."
  | some staged =>
    assertQualificationBinding bundle staged qualification
    recordReleaseBundleOperation (restoredReceipt track operationControl staged qualification)

/-- The control under which a track of a checkpoint has been qualified. -/
def Checkpoint.trackControl (checkpoint : Checkpoint) (track : Track) : Option OperationControl :=
  checkpoint.controlOf (if track = .full then .appendFull else .standard)

def importTrack (bundle : ReleaseBundle) (collation : Collation) (source : Checkpoint)
    (track : Track) : StoreProgram Unit :=
  match source.tracks track with
  | none => pure ()
  | some content => do
    let _ ← stageReleaseBundleAssets bundle collation inspectEntry track
      (content.assets.map checkpointAsset)
    match content.qualification with
    | none => pure ()
    | some qualification =>
      restoreQualifiedTrack bundle qualification track (source.trackControl track)

/-- What a store has to show for a checkpoint that it has imported before. -/
def assertStillImported (store : ReleaseStore) (source : Checkpoint) (track : Track) :
    Checked Unit := do
  ensure ((source.tracks track).isSome = (store.staged track).isSome)
    "Imported Release Bundle store no longer matches its checkpoint stage."
  ensure (((source.tracks track).bind CheckpointTrack.qualification).isSome = true →
      (store.operation (.verify, some track)).any (fun receipt => receipt.status.settled) = true)
    "Imported Release Bundle store lost its qualification state."

/-- The checkpoint that the store has imported last. -/
def previousImport (store : ReleaseStore) : Option Checkpoint :=
  (store.operation (.checkpointImport, none)).bind fun receipt => receipt.details.checkpoint

/-- Whether the markers of a checkpoint may be written to the store. -/
def MarkersAgree (store : ReleaseStore) (source : Checkpoint) : Prop :=
  listReleaseBundleUnknownOutcomes store = source.activeUnknownMarkers ∨
  (previousImport store = some source ∧ listReleaseBundleUnknownOutcomes store = [] ∧
    source.activeUnknownMarkers ≠ [] ∧
    ∀ marker ∈ source.activeUnknownMarkers, unknownMarkerResolvedExactly store marker = true) ∨
  (listReleaseBundleUnknownOutcomes store = [] ∧ previousImport store ≠ some source)

instance (store : ReleaseStore) (source : Checkpoint) : Decidable (MarkersAgree store source) :=
  inferInstanceAs (Decidable (_ ∨ _))

/-- The controls of a checkpoint, or the flag that it has none. -/
def importControls (source : Checkpoint) : StoreProgram Unit :=
  match source.operationControls with
  | some controls =>
    Writes.forEach (fun control => do
      let _ ← installReleaseBundleOperationControl control) controls.list
  | none => do
    let _ ← markReleaseBundleLegacyCheckpointReadOnly source

def importReceipt (source : Checkpoint) : OperationReceipt where
  operation := .checkpointImport
  status := .complete
  details := { checkpoint := some source }

def importReleaseBundleCheckpoint (bundle : ReleaseBundle) (collation : Collation)
    (source : Checkpoint) : StoreProgram ReceiptStatus := do
  assertReleaseBundleCheckpoint source
  assertCheckpointSemantics bundle source
  let _ ← installFrozenReleaseBundle source.bundleJson
  let store ← Writes.read
  ensure (MarkersAgree store source)
    "Release Bundle checkpoint import cannot overwrite or omit a different unknown outcome."
  if previousImport store = some source then
    checkEach (assertStillImported store source) (bundleTrackNames bundle)
    return .idempotent
  else
    Writes.forEach (fun marker => do
      let _ ← recordReleaseBundleUnknownOutcome marker) source.activeUnknownMarkers
    importControls source
    Writes.forEach (importTrack bundle collation source) (bundleTrackNames bundle)
    recordReleaseBundleOperation (importReceipt source)
    return .complete

end OnePersonLab.Release

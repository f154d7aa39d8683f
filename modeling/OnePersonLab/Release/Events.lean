import OnePersonLab.Release.Runs

/-!
# Events and envelopes of a release bundle

Two projections of a store that give a checkpoint stage of their own: the event of
each recorded receipt, and the envelope of a track for its consumers.
-/

namespace OnePersonLab.Release

open Contract Lib

inductive CheckpointStage where
  | frozen
  | standardBuilt
  | standardQualified
  | webuiBuilt
  | webuiQualified
  | stableBuilt
  | stableQualified
  | fullBuilt
  | fullQualified
  deriving DecidableEq, Repr

/-- The stages `*_qualified`. -/
def CheckpointStage.isQualified : CheckpointStage → Bool
  | .standardQualified | .webuiQualified | .stableQualified | .fullQualified => true
  | _ => false

/-- What a receipt is about: a build, a verification or a publication. -/
inductive ResolvedOperation where
  | build
  | verify
  | publish
  deriving DecidableEq

def resolvedOperation (receipt : OperationReceipt) : Option ResolvedOperation :=
  match receipt.operation with
  | .build => some .build
  | .verify => some .verify
  | .publish => some .publish
  | .reconcile =>
    receipt.details.resolvedOperation.map fun
      | .build => .build
      | .publish => .publish
  | _ => none

def checkpointStageForReceipt (receipt : OperationReceipt) : CheckpointStage :=
  if receipt.status.settled then
    match receipt.track, resolvedOperation receipt with
    | some .full, some .build => .fullBuilt
    | some .full, some _ => .fullQualified
    | some .webui, some .build => .webuiBuilt
    | some .webui, some _ => .webuiQualified
    | some .standard, some .publish => .stableQualified
    | some .standard, some .verify => .standardQualified
    | some .standard, some .build => .standardBuilt
    | _, _ => .frozen
  else .frozen

/-- The tracks that have an envelope. -/
inductive EnvelopeTrack where
  | standard
  | full
  deriving DecidableEq

def EnvelopeTrack.track : EnvelopeTrack → Track
  | .standard => .standard
  | .full => .full

def checkpointStageForTrack (track : EnvelopeTrack) (status : TrackStatus) : CheckpointStage :=
  match track with
  | .full =>
    if status.verified || status.published then .fullQualified
    else if status.built then .fullBuilt
    else .frozen
  | .standard =>
    if status.published then .stableQualified
    else if status.verified then .standardQualified
    else if status.built then .standardBuilt
    else .frozen

structure ConsumerEnvelope where
  track : EnvelopeTrack
  checkpointStage : CheckpointStage
  assets : List AssetIdentity
  qualified : Bool
  published : Bool
  reconcileRequired : Bool
  deriving DecidableEq

/-- The parts of `buildReleaseBundleConsumerEnvelope` that come from the status of the track. -/
def buildReleaseBundleConsumerEnvelope (bundle : ReleaseBundle) (store : ReleaseStore)
    (track : EnvelopeTrack) (now : Int) : Checked ConsumerEnvelope := do
  let status ← readReleaseBundleStatus bundle store now
  let trackStatus :=
    match track with
    | .standard => status.standard
    | .full => status.full
  return {
    track := track
    checkpointStage := checkpointStageForTrack track trackStatus
    assets := trackStatus.assets.map StoredAsset.identity
    qualified := trackStatus.verified
    published := trackStatus.published
    reconcileRequired := trackStatus.reconcileRequired }

/-! ## What a qualified stage comes from -/

theorem verified_or_published {track : EnvelopeTrack} {status : TrackStatus}
    (qualified : (checkpointStageForTrack track status).isQualified = true) :
    status.verified = true ∨ status.published = true := by
  cases track <;> cases verified : status.verified <;> cases published : status.published <;>
    cases built : status.built <;>
    simp_all [checkpointStageForTrack, CheckpointStage.isQualified]

/-- A receipt that publishes a track, or reconciles a publication. -/
def isPublication (receipt : OperationReceipt) : Bool :=
  receipt.operation = .publish || (receipt.operation = .reconcile && resolvedPublication receipt)

theorem resolved_of_qualified {receipt : OperationReceipt}
    (qualified : (checkpointStageForReceipt receipt).isQualified = true) :
    resolvedOperation receipt = some .verify ∨ resolvedOperation receipt = some .publish := by
  by_cases settled : receipt.status.settled = true
  · simp only [checkpointStageForReceipt, settled, if_true] at qualified
    rcases resolved : resolvedOperation receipt with _ | _ | _ | _
    · rcases track : receipt.track with _ | _ | _ | _ <;>
        simp [resolved, track, CheckpointStage.isQualified] at qualified
    · rcases track : receipt.track with _ | _ | _ | _ <;>
        simp [resolved, track, CheckpointStage.isQualified] at qualified
    · exact .inl rfl
    · exact .inr rfl
  · simp [checkpointStageForReceipt, settled, CheckpointStage.isQualified] at qualified

theorem verify_or_publication {receipt : OperationReceipt}
    (qualified : (checkpointStageForReceipt receipt).isQualified = true) :
    receipt.operation = .verify ∨ isPublication receipt = true := by
  rcases resolved_of_qualified qualified with resolved | resolved
  · cases kind : receipt.operation <;> simp [resolvedOperation, kind] at resolved
    · exact .inl rfl
    · obtain ⟨stage, -, same⟩ := resolved
      cases stage <;> simp at same
  · cases kind : receipt.operation <;> simp [resolvedOperation, kind] at resolved
    · exact .inr (by simp [isPublication, kind])
    · obtain ⟨stage, named, same⟩ := resolved
      cases stage with
      | build => simp at same
      | publish => exact .inr (by simp [isPublication, kind, resolvedPublication, named])

end OnePersonLab.Release

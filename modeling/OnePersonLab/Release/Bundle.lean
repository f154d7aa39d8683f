import Mathlib.Data.PNat.Notation
import Mathlib.Data.Fintype.Pi
import Mathlib.Data.List.Sort
import OnePersonLab.Contract.Failure

/-!
# The records of a release bundle

A frozen bundle, the controls under which operations run on it, the receipts of
executors and qualifications that are handed in, and the receipts and markers
that are written down. A sha256 digest of a record stands for the record itself.
-/

namespace OnePersonLab.Release

open Contract

/-! ## Names and identifiers -/

def isAlphanumeric (c : Char) : Bool :=
  ('A' ≤ c && c ≤ 'Z') || ('a' ≤ c && c ≤ 'z') || ('0' ≤ c && c ≤ '9')

/-- The pattern `^[A-Za-z0-9][A-Za-z0-9._:-]{0,127}$`. -/
def isOperationId (text : String) : Bool :=
  match characters text with
  | [] => false
  | first :: rest =>
    isAlphanumeric first && rest.all (fun c => isAlphanumeric c || ['.', '_', ':', '-'].contains c) &&
      rest.length ≤ 127

/-- The pattern of a remote target: a scheme, a colon and a reference, of 3 to 1024 characters. -/
def isRemoteTarget (text : String) : Bool :=
  let scheme := (characters text).takeWhile (· ≠ ':')
  let reference := ((characters text).dropWhile (· ≠ ':')).drop 1
  3 ≤ (characters text).length && (characters text).length ≤ 1024 &&
    (match scheme with
      | [] => false
      | first :: rest =>
        'a' ≤ first && first ≤ 'z' && rest.length ≤ 31 &&
          rest.all fun c =>
            ('a' ≤ c && c ≤ 'z') || ('0' ≤ c && c ≤ '9') || ['+', '.', '-'].contains c) &&
    (match reference with
      | [] => false
      | first :: rest =>
        isAlphanumeric first &&
          rest.all fun c => isAlphanumeric c ||
            ['.', '_', '~', ':', '/', '?', '#', '@', '!', '$', '&', '\'', '(', ')', '*', '+',
              ',', ';', '=', '%', '-'].contains c)

/-- `assertAssetName`, with the length that the schema allows. -/
def isAssetName (text : String) : Bool :=
  text ≠ "" && (characters text).length ≤ 255 && text ≠ "." && text ≠ ".." &&
    (characters text).all fun c =>
      c ≠ '/' && c ≠ '\\' && 0x1f < c.toNat && c.toNat ≠ 0x7f

abbrev Digest := { text : String // isSha256Digest text = true }

abbrev OperationId := { text : String // isOperationId text = true }

/-- The identifiers of attempts follow the pattern of operation identifiers. -/
abbrev AttemptId := OperationId

abbrev RemoteTarget := { text : String // isRemoteTarget text = true }

abbrev AssetName := { text : String // isAssetName text = true }

inductive Track where
  | standard
  | webui
  | full
  deriving DecidableEq, Repr

instance : Fintype Track where
  elems := {.standard, .webui, .full}
  complete := by rintro ⟨⟩ <;> decide

inductive Executor where
  | «local»
  | remote
  deriving DecidableEq, Repr

inductive StableOperation where
  | standard
  | resumeStandard
  | appendFull
  deriving DecidableEq, Repr

inductive CanonicalOperation where
  | standard
  | appendFull
  deriving DecidableEq, Repr

inductive StageOperation where
  | build
  | publish
  deriving DecidableEq, Repr

inductive PublicationScope where
  | trackAssets
  | externalTarget
  deriving DecidableEq, Repr

/-! ## The bundle -/

structure TrackPlan where
  requiredAssetNames : List AssetName
  requiredForLatest : Bool
  deriving DecidableEq

/-- What a qualification binds of the sources of a bundle. -/
structure Cohort where
  appSha : String
  shellSha : String
  frameworkSha : String
  versionRange : String
  deriving DecidableEq

/-- A frozen bundle. The schema fixes which tracks are required for latest. -/
structure ReleaseBundle where
  bundleDigest : Digest
  cohort : Cohort
  standard : TrackPlan
  webui : Option TrackPlan
  full : TrackPlan
  standardRequired : standard.requiredForLatest = true
  webuiRequired : ∀ plan ∈ webui, plan.requiredForLatest = true
  fullAdditive : full.requiredForLatest = false

namespace ReleaseBundle

/-- `bundle.tracks[track]`. -/
def plan (bundle : ReleaseBundle) : Track → Option TrackPlan
  | .standard => some bundle.standard
  | .webui => bundle.webui
  | .full => some bundle.full

/-- `bundle.tracks[track]?.required_for_latest`. -/
def requiredForLatest (bundle : ReleaseBundle) (track : Track) : Bool :=
  (bundle.plan track).any TrackPlan.requiredForLatest

end ReleaseBundle

def bundleTrackNames (bundle : ReleaseBundle) : List Track :=
  if bundle.webui.isSome then [.standard, .webui, .full] else [.standard, .full]

def stableRequiredTrackNames (bundle : ReleaseBundle) : List Track :=
  [Track.standard, Track.webui].filter bundle.requiredForLatest

/-! ## Assets -/

structure AssetIdentity where
  name : AssetName
  sizeBytes : ℕ+
  sha256 : Digest
  deriving DecidableEq

/-- What an inspection of a regular file finds. -/
structure FileIdentity where
  sizeBytes : ℕ+
  sha256 : Digest
  deriving DecidableEq

/-- The keys of an asset, in the order in which a JSON text has them. -/
inductive AssetKey where
  | name
  | path
  | sizeBytes
  | sha256
  deriving DecidableEq, Repr

structure ExecutorAsset where
  identity : AssetIdentity
  path : Option String
  keys : List AssetKey
  keysNamed :
    keys.Perm (if path.isSome then [.name, .path, .sizeBytes, .sha256] else [.name, .sizeBytes, .sha256])
  deriving DecidableEq

/-- The keys of an asset that an inspection of the remote finds. -/
theorem keysNamed_remote : ([.name, .sizeBytes, .sha256] : List AssetKey).Perm
    (if (none : Option String).isSome then [.name, .path, .sizeBytes, .sha256]
      else [.name, .sizeBytes, .sha256]) :=
  .refl _

/-- An asset of a staged manifest. Its path follows from the track and the name. -/
structure StoredAsset where
  identity : AssetIdentity
  keys : List AssetKey
  deriving DecidableEq

/-! ## Controls, markers and receipts -/

structure OperationControl where
  bundleDigest : Digest
  operationId : OperationId
  operationKind : CanonicalOperation
  track : Track
  operationStartedAt : Int
  operationDeadlineAt : Int
  deriving DecidableEq

structure UnknownOutcomeMarker where
  bundleDigest : Digest
  operationId : OperationId
  operationKind : CanonicalOperation
  stageOperation : StageOperation
  publicationScope : Option PublicationScope
  track : Track
  remoteTarget : RemoteTarget
  priorMutationAttemptId : AttemptId
  executor : Executor
  deriving DecidableEq

/-- Who asks for an operation, under which control, and when. -/
structure OperationInvocation where
  releaseOperation : StableOperation
  operationId : OperationId
  operationStartedAt : Int
  operationDeadlineAt : Int
  now : Int

inductive ExecutorOperation where
  | build
  | remoteInspect
  deriving DecidableEq

inductive ExecutorOutcome where
  | complete
  | unknown
  deriving DecidableEq

/-- The four fields that bind an executor receipt to an operation. -/
structure ExecutorBinding where
  releaseOperation : StableOperation
  operationId : OperationId
  remoteTarget : RemoteTarget
  priorAttemptId : Option AttemptId

structure ExecutorReceipt where
  operation : ExecutorOperation
  executor : Executor
  attemptId : AttemptId
  bundleDigest : Digest
  track : Track
  outcome : ExecutorOutcome
  assets : List ExecutorAsset
  binding : Option ExecutorBinding
  publicationScope : Option PublicationScope

structure QualificationReceipt where
  bundleDigest : Digest
  track : Track
  subjectName : String
  subject : FileIdentity
  cohort : Cohort
  harnessSha256 : Digest
  evidenceRefs : List String
  deriving DecidableEq

/-! ## Checkpoints -/

structure OperationControls where
  standard : Option OperationControl
  appendFull : Option OperationControl
  deriving DecidableEq

/-- A built track of a checkpoint: its asset entries, and its qualification when it is verified. -/
structure CheckpointTrack where
  assets : List AssetIdentity
  qualification : Option QualificationReceipt
  deriving DecidableEq

/-- How the entries of a checkpoint follow each other. -/
inductive EntryOrder where
  | sorted
  | other (order : String)
  deriving DecidableEq

/-- The content of a checkpoint directory. Its digest identifies it. -/
structure Checkpoint where
  bundleDigest : Digest
  bundleJson : String
  operationControls : Option OperationControls
  activeUnknownMarkers : List UnknownOutcomeMarker
  tracks : Track → Option CheckpointTrack
  entryOrder : EntryOrder
  deriving DecidableEq

/-! ## Receipts of operations -/

inductive ReceiptOperation where
  | freeze
  | operationAdmit
  | build
  | verify
  | publish
  | reconcile
  | checkpointImport
  deriving DecidableEq, Repr

inductive ReceiptStatus where
  | frozen
  | complete
  | idempotent
  | uploadRequired
  | reconcileOnly
  | lateObservation
  deriving DecidableEq, Repr

/-- The details of a receipt that are read again, and what was to be uploaded. -/
structure ReceiptDetails where
  resolvedOperation : Option StageOperation := none
  publicationScope : Option PublicationScope := none
  remoteTarget : Option RemoteTarget := none
  trackAssetsConfirmed : Option Bool := none
  uploadActions : List AssetIdentity := []
  observedMissingAssets : List AssetName := []
  observedAssets : List ExecutorAsset := []
  assets : List StoredAsset := []
  qualification : Option QualificationReceipt := none
  checkpoint : Option Checkpoint := none
  stageAdvanced : Option Bool := none
  deriving DecidableEq

structure OperationReceipt where
  operation : ReceiptOperation
  status : ReceiptStatus
  track : Option Track := none
  executor : Option Executor := none
  releaseOperation : Option StableOperation := none
  operationControl : Option OperationControl := none
  unknownMarker : Option UnknownOutcomeMarker := none
  details : ReceiptDetails := {}
  deriving DecidableEq

/-! ## Checks of the records -/

/-- `assertReleaseBundleOperationControl`. -/
def assertOperationControl (control : OperationControl) : Checked Unit := do
  ensure (control.operationStartedAt < control.operationDeadlineAt)
    "Release Bundle operation deadline must be after its immutable start."
  ensure ((control.operationKind = .standard → control.track = .standard) ∧
      (control.operationKind = .appendFull → control.track = .full))
    "Release Bundle operation control kind and track do not match."

/-- The tracks that a marker of an operation kind may name. -/
def trackAllowed (kind : CanonicalOperation) (track : Track) : Bool :=
  match kind with
  | .appendFull => track = .full
  | .standard => track = .standard || track = .webui

/-- `assertReleaseBundleUnknownOutcomeMarker`. -/
def assertUnknownOutcomeMarker (marker : UnknownOutcomeMarker) : Checked Unit := do
  ensure (trackAllowed marker.operationKind marker.track = true)
    "Release Bundle unknown marker operation and track do not match."
  ensure (marker.stageOperation = .build ↔ marker.publicationScope = none)
    "Release Bundle unknown marker stage and publication scope do not match."

/-- `readReleaseBundleExecutorReceipt`: what the schema and the reader ask of a receipt. -/
def readExecutorReceipt (receipt : ExecutorReceipt) : Checked ExecutorReceipt := do
  ensure (receipt.outcome = .unknown → receipt.assets = [] ∧ receipt.binding.isSome = true)
    "Release Bundle payload does not match its schema."
  ensure (receipt.publicationScope.isSome = true → receipt.operation = .remoteInspect)
    "Release Bundle payload does not match its schema."
  ensure (receipt.publicationScope = some .externalTarget →
      receipt.assets = [] ∧ receipt.binding.isSome = true)
    "Release Bundle payload does not match its schema."
  ensure (receipt.assets.map fun asset => asset.identity.name).Nodup
    "Release Bundle executor receipt contains duplicate asset names."
  ensure (receipt.operation = .build → receipt.outcome = .complete →
      ∀ asset ∈ receipt.assets, asset.path.isSome = true ∧ asset.path ≠ some "")
    "Complete build executor receipts require an exact local path for every asset."
  ensure (receipt.operation = .remoteInspect →
      ∀ asset ∈ receipt.assets, asset.path = none)
    "Remote inspection receipts must not transport local asset paths."
  return receipt

end OnePersonLab.Release

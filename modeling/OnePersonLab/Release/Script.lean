import OnePersonLab.Release.Events
import OnePersonLab.Release.Invariants

/-!
# Scripted runs

A list of commands is performed from the empty store. The commands below build and
publish the two tracks of a small bundle.
-/

namespace OnePersonLab.Release

open Contract Lib

/-! ## Performing commands -/

section

variable (bundle : ReleaseBundle) (collation : Collation)

def perform : List Command → ReleaseStore → ReleaseStore
  | [], store => store
  | command :: rest, store => perform rest (command.run bundle collation store).2

/-- The events of the commands, with how each of them ended. -/
def performed : List Command → ReleaseStore → List Event
  | [], _ => []
  | command :: rest, store =>
    let ended := command.run bundle collation store
    .command command ended.1 :: performed rest ended.2

end

section

variable {bundle : ReleaseBundle} {collation : Collation} {meets : ReleaseStore → Event → Prop}

/-- The condition holds before each of the commands. -/
def MeetsEach (bundle : ReleaseBundle) (collation : Collation)
    (meets : ReleaseStore → Event → Prop) : List Command → ReleaseStore → Prop
  | [], _ => True
  | command :: rest, store =>
    let ended := command.run bundle collation store
    meets store (.command command ended.1) ∧ MeetsEach bundle collation meets rest ended.2

theorem run_performed {commands : List Command} {log : List Event} {store : ReleaseStore}
    (run : Run bundle collation meets log store)
    (each : MeetsEach bundle collation meets commands store) :
    Run bundle collation meets (log ++ performed bundle collation commands store)
      (perform bundle collation commands store) := by
  induction commands generalizing log store with
  | nil => simpa [performed, perform] using run
  | cons command rest ih =>
    obtain ⟨met, others⟩ := each
    have next := ih (.command run met rfl) others
    rwa [List.append_assoc] at next

theorem meetsEach_true (commands : List Command) (store : ReleaseStore) :
    MeetsEach bundle collation (fun _ _ => True) commands store := by
  induction commands generalizing store with
  | nil => trivial
  | cons command rest ih => exact ⟨trivial, ih _⟩

theorem reachable_perform (commands : List Command) :
    Reachable bundle collation (perform bundle collation commands .empty) :=
  ⟨_, run_performed .start (meetsEach_true commands _)⟩

end

/-! ## A small bundle -/

namespace Script

theorem zeroDigest_valid : isSha256Digest
    "sha256:0000000000000000000000000000000000000000000000000000000000000000" = true := by
  decide +kernel

def zeroDigest : Digest := ⟨_, zeroDigest_valid⟩

def oneDigest : Digest :=
  ⟨"sha256:1111111111111111111111111111111111111111111111111111111111111111", by decide +kernel⟩

def target : RemoteTarget := ⟨"github:owner/app", by decide +kernel⟩

theorem operationId_valid : isOperationId "stable-1" = true := by decide +kernel

def operationId : OperationId := ⟨_, operationId_valid⟩

def attempt (number : Nat) : AttemptId :=
  if number = 0 then ⟨"attempt-0", by decide +kernel⟩ else ⟨"attempt-1", by decide +kernel⟩

/-- The asset of a track, of which each has one. -/
def assetText : Track → String
  | .standard => "app.dmg"
  | .webui => "webui.tar"
  | .full => "full.dmg"

theorem assetText_valid (track : Track) : isAssetName (assetText track) = true := by
  cases track <;> decide +kernel

def assetName (track : Track) : AssetName := ⟨_, assetText_valid track⟩

def bundle : ReleaseBundle where
  bundleDigest := zeroDigest
  cohort := ⟨"a", "b", "c", ">=1.0.0 <2.0.0"⟩
  standard := ⟨[assetName .standard], true⟩
  webui := some ⟨[assetName .webui], true⟩
  full := ⟨[assetName .full], false⟩
  standardRequired := rfl
  webuiRequired := by simp
  fullAdditive := rfl

/-- Names in the order of their lengths. -/
def collation : Collation where
  before left right := left.length ≤ right.length
  total left right := by simpa using Nat.le_total left.length right.length
  trans left mid right := by simpa using Nat.le_trans

def asset (track : Track) (sha256 : Digest) : AssetIdentity := ⟨assetName track, ⟨1, by decide⟩, sha256⟩

/-- The window of the operation is 0 to 10. -/
def invocation (now : Int) : OperationInvocation := ⟨.standard, operationId, 0, 10, now⟩

def binding (prior : Option AttemptId) : ExecutorBinding := ⟨.standard, operationId, target, prior⟩

def files : LocalFiles := fun path =>
  if path = "one" then some ⟨⟨1, by decide⟩, oneDigest⟩
  else some ⟨⟨1, by decide⟩, zeroDigest⟩

/-- The assets of a build, with their keys as an executor may write them. -/
def buildAsset (track : Track) (sha256 : Digest) : ExecutorAsset where
  identity := asset track sha256
  path := some (if sha256 = oneDigest then "one" else "zero")
  keys := [.name, .sizeBytes, .sha256, .path]
  keysNamed := by
    rw [Option.isSome_some, if_pos rfl]
    decide

def remoteAsset (track : Track) (sha256 : Digest) : ExecutorAsset where
  identity := asset track sha256
  path := none
  keys := [.name, .sizeBytes, .sha256]
  keysNamed := keysNamed_remote

def receipt (operation : ExecutorOperation) (track : Track) (outcome : ExecutorOutcome)
    (assets : List ExecutorAsset) (prior : Option AttemptId) (scope : Option PublicationScope) :
    ExecutorReceipt where
  operation := operation
  executor := .local
  attemptId := attempt 0
  bundleDigest := zeroDigest
  track := track
  outcome := outcome
  assets := assets
  binding := some (binding prior)
  publicationScope := scope

def freeze : Command := .freeze "bundle"

def operationAdmit : Command := .operationAdmit (invocation 0)

def build (track : Track) : Command :=
  .build files (invocation 1) (receipt .build track .complete [buildAsset track zeroDigest] none none)

/-- A build of other bytes. -/
def buildOther (track : Track) : Command :=
  .build files (invocation 1) (receipt .build track .complete [buildAsset track oneDigest] none none)

def qualification (track : Track) : QualificationReceipt where
  bundleDigest := zeroDigest
  track := track
  subjectName := (assetName track).val
  subject := ⟨⟨1, by decide⟩, zeroDigest⟩
  cohort := bundle.cohort
  harnessSha256 := oneDigest
  evidenceRefs := []

def verify (track : Track) : Command := .verify (invocation 2) (qualification track) none

def publish (track : Track) : Command :=
  .publish (invocation 2)
    (receipt .remoteInspect track .complete [remoteAsset track zeroDigest] none none)

/-- The executor cannot tell how its mutation ended. -/
def publishUnknown (track : Track) (scope : Option PublicationScope) : Command :=
  .publish (invocation 2) (receipt .remoteInspect track .unknown [] none scope)

def buildUnknown (track : Track) : Command :=
  .build files (invocation 2) (receipt .build track .unknown [] none none)

/-- An inspection of the remote after the attempt that ended unknown. -/
def reconcilePublish (track : Track) (now : Int) : Command :=
  .reconcile files (invocation now)
    (receipt .remoteInspect track .complete [remoteAsset track zeroDigest] (some (attempt 0)) none)

def reconcileBuild (track : Track) : Command :=
  .reconcile files (invocation 3)
    (receipt .build track .complete [buildAsset track zeroDigest] (some (attempt 0)) none)

/-- Both required tracks are built. -/
def builds : List Command := [freeze, operationAdmit, build .standard, build .webui]

/-- Both required tracks are built and published, and no track is verified. -/
def publishes : List Command := builds ++ [publish .standard, publish .webui]

/-- The track assets of the standard track are published, and an external target may be. -/
def externals : List Command :=
  builds ++ [publish .standard, publish .webui, publishUnknown .standard (some .externalTarget)]

end Script

/-! ## A checkpoint of a scripted run -/

/-- A property of what happens when a checkpoint of one store is imported into another. -/
def importsBetween (bundle : ReleaseBundle) (collation : Collation) (source store : ReleaseStore)
    (judge : Checkpoint → Except Failure ReceiptStatus → ReleaseStore → Bool) : Bool :=
  (exportReleaseBundleCheckpoint bundle collation source).toOption.any fun checkpoint =>
    let ended := importReleaseBundleCheckpoint bundle collation checkpoint store
    judge checkpoint ended.1 ended.2

theorem exists_of_importsBetween {bundle : ReleaseBundle} {collation : Collation}
    {source store : ReleaseStore}
    {judge : Checkpoint → Except Failure ReceiptStatus → ReleaseStore → Bool}
    (judged : importsBetween bundle collation source store judge = true) :
    ∃ checkpoint outcome after,
      exportReleaseBundleCheckpoint bundle collation source = .ok checkpoint ∧
        importReleaseBundleCheckpoint bundle collation checkpoint store = (outcome, after) ∧
          judge checkpoint outcome after = true := by
  unfold importsBetween at judged
  cases exported : exportReleaseBundleCheckpoint bundle collation source with
  | error failure => simp [exported, Except.toOption] at judged
  | ok checkpoint =>
    rw [exported] at judged
    exact ⟨checkpoint, _, _, rfl, rfl, judged⟩

end OnePersonLab.Release

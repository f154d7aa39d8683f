import Mathlib.Tactic.Simps.Basic
import OnePersonLab.Lib.Writes
import OnePersonLab.Release.Bundle

/-!
# The store of a release bundle

The directory of one bundle: what is staged for each track, the latest receipt of
each operation, the controls, the active unknown outcomes, and every receipt
that was ever recorded.
-/

namespace OnePersonLab.Release

open Contract Lib

structure ReleaseStore where
  bundleJson : Option String
  /-- `tracks/<track>/assets.json`. -/
  staged : Track → Option (List StoredAsset)
  /-- `state/<operation>-<track>.json`. -/
  operation : ReceiptOperation × Option Track → Option OperationReceipt
  /-- `state/operation-control-<operation>.json`. -/
  control : CanonicalOperation → Option OperationControl
  /-- `state/unknown-<operation>-<track>.json`. -/
  unknown : StageOperation × Track → Option UnknownOutcomeMarker
  /-- `state/legacy-checkpoint-read-only.json`. -/
  legacy : Option Checkpoint
  /-- `receipts/`, in the order in which they were recorded. -/
  receipts : List OperationReceipt

/-- A directory that does not exist yet. -/
def ReleaseStore.empty : ReleaseStore where
  bundleJson := none
  staged := fun _ => none
  operation := fun _ => none
  control := fun _ => none
  unknown := fun _ => none
  legacy := none
  receipts := []

abbrev StoreProgram := Writes ReleaseStore Failure

/-! ## Immutable files -/

inductive InstallStatus where
  | created
  | idempotent
  deriving DecidableEq

/-- `installImmutableBytes`: a file that exists must have the same content. -/
def installImmutableBytes {α : Type} [DecidableEq α] (existing : Option α) (content : α) :
    Checked InstallStatus :=
  match existing with
  | none => .ok .created
  | some held => do
    ensure (held = content) "Release Bundle immutable target already contains different bytes."
    return .idempotent

@[simp]
theorem installImmutableBytes_eq_ok {α : Type} [DecidableEq α] {existing : Option α} {content : α}
    {status : InstallStatus} :
    installImmutableBytes existing content = .ok status ↔
      existing = none ∧ status = .created ∨ existing = some content ∧ status = .idempotent := by
  cases existing with
  | none => simp [installImmutableBytes, eq_comm]
  | some held =>
    simp only [installImmutableBytes, bind_eq_ok, ensure_eq_ok, pure_eq_ok]
    constructor
    · rintro ⟨_, rfl, rfl⟩
      exact .inr ⟨rfl, rfl⟩
    · rintro (⟨⟨⟩, -⟩ | ⟨⟨⟩, rfl⟩)
      exact ⟨(), rfl, rfl⟩

/-- A slot that an immutable file may still be written to. -/
def Free {α : Type} (existing : Option α) (content : α) : Prop :=
  existing = none ∨ existing = some content

theorem installImmutableBytes_of_free {α : Type} [DecidableEq α] {existing : Option α}
    {content : α} (free : Free existing content) :
    ∃ status, installImmutableBytes existing content = .ok status := by
  rcases free with absent | held
  · exact ⟨.created, installImmutableBytes_eq_ok.2 (.inl ⟨absent, rfl⟩)⟩
  · exact ⟨.idempotent, installImmutableBytes_eq_ok.2 (.inr ⟨held, rfl⟩)⟩

theorem free_of_installImmutableBytes {α : Type} [DecidableEq α] {existing : Option α}
    {content : α} {status : InstallStatus}
    (installed : installImmutableBytes existing content = .ok status) : Free existing content :=
  (installImmutableBytes_eq_ok.1 installed).imp And.left And.left

/-! ## Changes of the store -/

namespace ReleaseStore

variable (store : ReleaseStore)

@[simps] def withBundle (json : String) : ReleaseStore := { store with bundleJson := some json }

@[simps] def stage (track : Track) (assets : List StoredAsset) : ReleaseStore :=
  { store with staged := Function.update store.staged track (some assets) }

/-- Write the receipt down, and make it the latest of its operation and track. -/
@[simps] def record (receipt : OperationReceipt) : ReleaseStore :=
  { store with
    operation := Function.update store.operation (receipt.operation, receipt.track) (some receipt)
    receipts := store.receipts ++ [receipt] }

@[simps] def clearOperation (operation : ReceiptOperation) (track : Option Track) : ReleaseStore :=
  { store with operation := Function.update store.operation (operation, track) none }

@[simps] def setControl (control : OperationControl) : ReleaseStore :=
  { store with control := Function.update store.control control.operationKind (some control) }

@[simps] def mark (marker : UnknownOutcomeMarker) : ReleaseStore :=
  { store with
    unknown := Function.update store.unknown (marker.stageOperation, marker.track) (some marker) }

@[simps] def unmark (marker : UnknownOutcomeMarker) : ReleaseStore :=
  { store with
    unknown := Function.update store.unknown (marker.stageOperation, marker.track) none }

@[simps] def setLegacy (checkpoint : Checkpoint) : ReleaseStore :=
  { store with legacy := some checkpoint }

end ReleaseStore

/-! ## Reading -/

/-- `readStoredReleaseBundle`. -/
def readStoredReleaseBundle (store : ReleaseStore) : Checked String :=
  match store.bundleJson with
  | none => fail "Frozen Release Bundle is unavailable."
  | some json => .ok json

def listReleaseBundleUnknownOutcomes (store : ReleaseStore) : List UnknownOutcomeMarker :=
  [StageOperation.build, .publish].flatMap fun operation =>
    [Track.standard, .webui, .full].filterMap fun track => store.unknown (operation, track)

theorem mem_listReleaseBundleUnknownOutcomes {store : ReleaseStore}
    {marker : UnknownOutcomeMarker} :
    marker ∈ listReleaseBundleUnknownOutcomes store ↔ ∃ slot, store.unknown slot = some marker := by
  simp only [listReleaseBundleUnknownOutcomes, List.mem_flatMap, List.mem_filterMap]
  constructor
  · rintro ⟨operation, -, track, -, held⟩
    exact ⟨(operation, track), held⟩
  · rintro ⟨⟨operation, track⟩, held⟩
    refine ⟨operation, ?_, track, ?_, held⟩
    · cases operation <;> simp
    · cases track <;> simp

theorem listReleaseBundleUnknownOutcomes_eq_nil {store : ReleaseStore} :
    listReleaseBundleUnknownOutcomes store = [] ↔ ∀ slot, store.unknown slot = none := by
  rw [List.eq_nil_iff_forall_not_mem]
  constructor
  · intro none slot
    apply Option.eq_none_iff_forall_ne_some.2
    intro marker held
    exact none marker (mem_listReleaseBundleUnknownOutcomes.2 ⟨slot, held⟩)
  · intro none marker listed
    obtain ⟨slot, held⟩ := mem_listReleaseBundleUnknownOutcomes.1 listed
    simp [none slot] at held

/-! ## Writing -/

def recordReleaseBundleOperation (receipt : OperationReceipt) : StoreProgram Unit :=
  Writes.change fun store => store.record receipt

def clearReleaseBundleOperation (operation : ReceiptOperation) (track : Option Track) :
    StoreProgram Unit :=
  Writes.change fun store => store.clearOperation operation track

/-- `installFrozenReleaseBundle`. The notes are part of the bundle. -/
def installFrozenReleaseBundle (json : String) : StoreProgram InstallStatus := do
  let store ← Writes.read
  let status ← installImmutableBytes store.bundleJson json
  Writes.change fun store => store.withBundle json
  return status

def installReleaseBundleOperationControl (control : OperationControl) :
    StoreProgram InstallStatus := do
  assertOperationControl control
  let store ← Writes.read
  let status ← installImmutableBytes (store.control control.operationKind) control
  Writes.change fun store => store.setControl control
  return status

def replaceReleaseBundleOperationControl (current replacement : OperationControl) :
    StoreProgram Unit := do
  assertOperationControl current
  assertOperationControl replacement
  ensure (current.operationKind = replacement.operationKind)
    "Release Bundle operation control replacement must preserve its canonical slot."
  let store ← Writes.read
  ensure (store.control current.operationKind = some current)
    "Release Bundle operation control changed before its bounded replacement."
  Writes.change fun store => store.setControl replacement

def markReleaseBundleLegacyCheckpointReadOnly (checkpoint : Checkpoint) :
    StoreProgram InstallStatus := do
  let store ← Writes.read
  let status ← installImmutableBytes store.legacy checkpoint
  Writes.change fun store => store.setLegacy checkpoint
  return status

def recordReleaseBundleUnknownOutcome (marker : UnknownOutcomeMarker) :
    StoreProgram InstallStatus := do
  assertUnknownOutcomeMarker marker
  let store ← Writes.read
  let status ← installImmutableBytes (store.unknown (marker.stageOperation, marker.track)) marker
  Writes.change fun store => store.mark marker
  return status

def clearReleaseBundleUnknownOutcomeExact (expected : UnknownOutcomeMarker) :
    StoreProgram Unit := do
  assertUnknownOutcomeMarker expected
  let store ← Writes.read
  ensure (store.unknown (expected.stageOperation, expected.track) ≠ none)
    "Release Bundle exact unknown outcome marker no longer exists."
  ensure (store.unknown (expected.stageOperation, expected.track) = some expected)
    "Release Bundle unknown outcome marker changed before exact clear."
  Writes.change fun store => store.unmark expected

/-! ## Staging -/

/-- The order of `localeCompare` on names. -/
structure Collation where
  before : String → String → Bool
  total : ∀ left right, before left right = true ∨ before right left = true
  trans : ∀ left mid right,
    before left mid = true → before mid right = true → before left right = true

/-- `sort((left, right) => left.name.localeCompare(right.name))`. -/
def Collation.sortNamed {α : Type} (collation : Collation) (name : α → AssetName)
    (items : List α) : List α :=
  items.insertionSort fun left right => collation.before (name left).val (name right).val = true

/-- `{ ...asset, path: target }`: a path that is there keeps its place. -/
def ExecutorAsset.stored (asset : ExecutorAsset) : StoredAsset where
  identity := asset.identity
  keys := if asset.path.isSome then asset.keys else asset.keys ++ [.path]

/-- What `stageReleaseBundleAssets` answers. -/
structure Staged where
  status : ReceiptStatus
  assets : List StoredAsset

/-- Stage the assets of a track. The files of a track are those of its manifest. -/
def stageReleaseBundleAssets (bundle : ReleaseBundle) (collation : Collation)
    (inspect : ExecutorAsset → Option FileIdentity) (track : Track) (assets : List ExecutorAsset) :
    StoreProgram Staged := do
  let store ← Writes.read
  match bundle.plan track with
  | none =>
    fail "Release Bundle executor receipt names a track that is not frozen in this Bundle."
  | some plan =>
    ensure ((assets.map fun asset => asset.identity.name).Perm plan.requiredAssetNames)
      "Release Bundle build receipt must provide the exact closed track asset set."
    checkEach (fun asset => do
      ensure (inspect asset = some ⟨asset.identity.sizeBytes, asset.identity.sha256⟩)
        "Executor Release Bundle asset does not match its declared identity."
      ensure (∀ held ∈ (store.staged track).getD [],
          held.identity.name = asset.identity.name → held.identity = asset.identity)
        "Release Bundle already contains different asset bytes.") assets
    let stored := collation.sortNamed (fun asset => asset.identity.name)
      (assets.map ExecutorAsset.stored)
    let manifestStatus ← installImmutableBytes (store.staged track) stored
    Writes.change fun store => store.stage track stored
    return ⟨if manifestStatus = .idempotent then .idempotent else .complete, stored⟩

end OnePersonLab.Release

import OnePersonLab.Release.Runs

/-!
# What every store of a run satisfies

At most one unknown outcome is ever active, and only a reconcile that matches it takes it
away. Controls, markers and manifests stay where the records that they hold belong.
-/

namespace OnePersonLab.Release

open Contract Lib

/-! ## Markers -/

/-- What a command does to the active unknown outcomes. -/
inductive MarkerChange (bundle : ReleaseBundle) (store : ReleaseStore) (command : Command)
    (after : ReleaseStore) : Prop where
  | kept (same : after.unknown = store.unknown)
  | marked {marker} (unblocked : ∀ slot, store.unknown slot = none)
      (wellFormed : assertUnknownOutcomeMarker marker = .ok ())
      (bundleDigest : marker.bundleDigest = bundle.bundleDigest)
      (left : after.unknown = (store.mark marker).unknown)
  | cleared {invocation receipt stage kind binding control marker}
      (executes : command.Executes invocation receipt true stage)
      (accepted : Accepted bundle store invocation receipt true kind binding control)
      (reconciles : Reconciles store receipt binding invocation stage marker)
      (left : after.unknown = (store.unmark marker).unknown)

section

variable {bundle : ReleaseBundle} {collation : Collation} {store after : ReleaseStore}
  {command : Command} {receipt : OperationReceipt}

theorem Transition.markers (transition : Transition bundle collation store command receipt after) :
    MarkerChange bundle store command after := by
  cases transition with
  | froze => exact .kept rfl
  | admitted => exact .kept rfl
  | readmitted => exact .kept rfl
  | buildUnknown _ accepted =>
    exact .marked (accepted.admitted.unblocked rfl)
      (assertUnknownOutcomeMarker_fresh accepted.track) accepted.bundleDigest rfl
  | buildStillUnknown => exact .kept rfl
  | buildLate executes accepted reconciles => exact .cleared executes accepted reconciles rfl
  | built => exact .kept rfl
  | buildReconciled executes accepted reconciles =>
    subst executes
    exact .cleared (.buildReconcile accepted.operation) accepted reconciles rfl
  | verified => exact .kept rfl
  | publishUnknown _ accepted =>
    exact .marked (accepted.admitted.unblocked rfl)
      (assertUnknownOutcomeMarker_fresh accepted.track) accepted.bundleDigest rfl
  | publishStillUnknown => exact .kept rfl
  | externalPublished => exact .kept rfl
  | externalReconciled executes accepted reconciles =>
    exact .cleared executes accepted reconciles rfl
  | assetsMissing => exact .kept rfl
  | assetsPublished => exact .kept rfl
  | assetsReconciled executes accepted reconciles =>
    exact .cleared executes accepted reconciles rfl

/-- Each marker is in its own slot, and there is at most one. -/
structure Marked (bundle : ReleaseBundle) (store : ReleaseStore) : Prop where
  placed : ∀ {slot marker}, store.unknown slot = some marker →
    slot = (marker.stageOperation, marker.track)
  single : ∀ {first second marker other}, store.unknown first = some marker →
    store.unknown second = some other → marker = other
  wellFormed : ∀ {slot marker}, store.unknown slot = some marker →
    assertUnknownOutcomeMarker marker = .ok ()
  bundleDigest : ∀ {slot marker}, store.unknown slot = some marker →
    marker.bundleDigest = bundle.bundleDigest

theorem Marked.of_unknown (marked : Marked bundle store) (same : after.unknown = store.unknown) :
    Marked bundle after := by
  constructor
  · intro slot marker held
    exact marked.placed (same ▸ held)
  · intro first second marker other held present
    exact marked.single (same ▸ held) (same ▸ present)
  · intro slot marker held
    exact marked.wellFormed (same ▸ held)
  · intro slot marker held
    exact marked.bundleDigest (same ▸ held)

/-- What a store holds after it has been marked. -/
theorem unknown_mark {slot : StageOperation × Track} {marker held : UnknownOutcomeMarker}
    (found : (store.mark marker).unknown slot = some held) :
    slot = (marker.stageOperation, marker.track) ∧ held = marker ∨
      store.unknown slot = some held := by
  by_cases same : slot = (marker.stageOperation, marker.track)
  · subst same
    rw [ReleaseStore.mark_unknown, Function.update_self] at found
    exact .inl ⟨rfl, (Option.some.inj found).symm⟩
  · rw [ReleaseStore.mark_unknown, Function.update_of_ne same] at found
    exact .inr found

theorem unknown_unmark {slot : StageOperation × Track} {marker held : UnknownOutcomeMarker}
    (found : (store.unmark marker).unknown slot = some held) :
    slot ≠ (marker.stageOperation, marker.track) ∧ store.unknown slot = some held := by
  by_cases same : slot = (marker.stageOperation, marker.track)
  · subst same
    simp at found
  · rw [ReleaseStore.unmark_unknown, Function.update_of_ne same] at found
    exact ⟨same, found⟩

theorem Marked.mark {marker : UnknownOutcomeMarker} (marked : Marked bundle store)
    (alone : ∀ slot held, store.unknown slot = some held → held = marker)
    (wellFormed : assertUnknownOutcomeMarker marker = .ok ())
    (bundleDigest : marker.bundleDigest = bundle.bundleDigest) :
    Marked bundle (store.mark marker) := by
  have only {slot held} (found : (store.mark marker).unknown slot = some held) :
      held = marker := by
    rcases unknown_mark found with ⟨-, same⟩ | before
    · exact same
    · exact alone slot held before
  constructor
  · intro slot held found
    rcases unknown_mark found with ⟨here, same⟩ | before
    · rw [here, same]
    · exact marked.placed before
  · intro first second held other found present
    rw [only found, only present]
  · intro slot held found
    rw [only found]
    exact wellFormed
  · intro slot held found
    rw [only found]
    exact bundleDigest

theorem Marked.unmark (marked : Marked bundle store) (marker : UnknownOutcomeMarker) :
    Marked bundle (store.unmark marker) := by
  constructor
  · intro slot held found
    exact marked.placed (unknown_unmark found).2
  · intro first second held other found present
    exact marked.single (unknown_unmark found).2 (unknown_unmark present).2
  · intro slot held found
    exact marked.wellFormed (unknown_unmark found).2
  · intro slot held found
    exact marked.bundleDigest (unknown_unmark found).2

theorem MarkerChange.marked_of (change : MarkerChange bundle store command after)
    (marked : Marked bundle store) : Marked bundle after := by
  cases change with
  | kept same => exact marked.of_unknown same
  | marked unblocked wellFormed bundleDigest left =>
    apply (marked.mark _ wellFormed bundleDigest).of_unknown left
    intro slot held found
    simp [unblocked slot] at found
  | cleared _ _ _ left => exact (marked.unmark _).of_unknown left

theorem ImportInstall.marked_of {source : Checkpoint} (valid : ValidCheckpoint bundle source)
    (install : ImportInstall bundle collation source store after) (marked : Marked bundle store) :
    Marked bundle after := by
  cases install with
  | bundled => exact marked.of_unknown rfl
  | marked listed alone =>
    apply marked.mark _ (valid.marker _ listed).1 (valid.markerBundle _ listed)
    intro slot held found
    exact valid.same_marker (alone slot held found) listed
  | controlled => exact marked.of_unknown rfl
  | readOnly => exact marked.of_unknown rfl
  | staged => exact marked.of_unknown rfl
  | qualified => exact marked.of_unknown rfl

theorem Reachable.marked (reachable : Reachable bundle collation store) : Marked bundle store := by
  apply reachable.invariant (Marked bundle)
  · constructor <;> simp [ReleaseStore.empty]
  · intro _ _ _ _ marked transition
    exact transition.markers.marked_of marked
  · intro _ _ _ marked change
    cases change with
    | installed valid install => exact install.marked_of valid marked
    | recorded => exact marked.of_unknown rfl

/-! ## Manifests -/

/-- A staged manifest lists the planned assets of its track, each once, in the order of their
names. -/
structure Manifest (bundle : ReleaseBundle) (collation : Collation) (track : Track)
    (assets : List StoredAsset) : Prop where
  ordered : collation.sortNamed (fun asset => asset.identity.name) assets = assets
  planned : ∃ plan, bundle.plan track = some plan ∧
    (assets.map fun asset => asset.identity.name).Perm plan.requiredAssetNames
  distinct : (assets.map fun asset => asset.identity.name).Nodup

instance (collation : Collation) {α : Type} (name : α → AssetName) :
    IsTrans α fun left right => collation.before (name left).val (name right).val = true :=
  ⟨fun _ _ _ => collation.trans _ _ _⟩

instance (collation : Collation) {α : Type} (name : α → AssetName) :
    Std.Total fun left right : α => collation.before (name left).val (name right).val = true :=
  ⟨fun _ _ => collation.total _ _⟩

/-- What has been sorted stays as it is. -/
theorem sortNamed_sortNamed {α : Type} (name : α → AssetName) (items : List α) :
    collation.sortNamed name (collation.sortNamed name items) = collation.sortNamed name items :=
  (List.pairwise_insertionSort _ _).insertionSort_eq

theorem perm_sortNamed {α : Type} (name : α → AssetName) (items : List α) :
    (collation.sortNamed name items).Perm items :=
  List.perm_insertionSort _ _

theorem Stages.manifest {inspect : ExecutorAsset → Option FileIdentity} {track : Track}
    {assets : List ExecutorAsset} {staged : Staged}
    (stages : Stages bundle collation store inspect track assets staged)
    (distinct : (assets.map fun asset => asset.identity.name).Nodup) :
    Manifest bundle collation track staged.assets := by
  have names : (staged.assets.map fun asset => asset.identity.name).Perm
      (assets.map fun asset => asset.identity.name) := by
    rw [stages.sorted]
    refine ((perm_sortNamed _ _).map _).trans ?_
    rw [List.map_map]
    exact .refl _
  constructor
  · rw [stages.sorted, sortNamed_sortNamed]
  · obtain ⟨plan, planned, expected⟩ := stages.planned
    exact ⟨plan, planned, names.trans expected⟩
  · exact names.nodup_iff.2 distinct

theorem distinct_of_wellFormed {receipt : ExecutorReceipt}
    (wellFormed : readExecutorReceipt receipt = .ok receipt) :
    (receipt.assets.map fun asset => asset.identity.name).Nodup := by
  simp only [readExecutorReceipt, bind_eq_ok, ensure_eq_ok, pure_eq_ok] at wellFormed
  obtain ⟨_, -, _, -, _, -, _, distinct, -⟩ := wellFormed
  exact distinct

/-- Every staged track has a manifest in order. -/
def Staging (bundle : ReleaseBundle) (collation : Collation) (store : ReleaseStore) : Prop :=
  ∀ {track assets}, store.staged track = some assets → Manifest bundle collation track assets

theorem Staging.stage {track : Track} {assets : List StoredAsset}
    (staging : Staging bundle collation store) (manifest : Manifest bundle collation track assets) :
    Staging bundle collation (store.stage track assets) := by
  intro other held found
  by_cases same : other = track
  · subst same
    rw [ReleaseStore.stage_staged, Function.update_self] at found
    rw [← Option.some.inj found]
    exact manifest
  · rw [ReleaseStore.stage_staged, Function.update_of_ne same] at found
    exact staging found

theorem Transition.staging (transition : Transition bundle collation store command receipt after)
    (staging : Staging bundle collation store) : Staging bundle collation after := by
  cases transition with
  | built _ accepted _ stages =>
    exact staging.stage (stages.manifest (distinct_of_wellFormed accepted.wellFormed))
  | buildReconciled _ accepted _ _ stages =>
    exact staging.stage (stages.manifest (distinct_of_wellFormed accepted.wellFormed))
  | _ => exact staging

theorem ImportInstall.staging {source : Checkpoint} (valid : ValidCheckpoint bundle source)
    (install : ImportInstall bundle collation source store after)
    (staging : Staging bundle collation store) : Staging bundle collation after := by
  cases install with
  | staged found stages =>
    apply staging.stage
    apply stages.manifest
    have checked := valid.track _ (valid.mem found) _ found
    simpa [checkpointAsset, Function.comp_def] using checked.distinct
  | _ => exact staging

theorem Reachable.staging (reachable : Reachable bundle collation store) :
    Staging bundle collation store := by
  refine reachable.invariant (Staging bundle collation) ?_ ?_ ?_
  · intro _ _ found
    simp [ReleaseStore.empty] at found
  · intro _ _ _ _ staging transition
    exact transition.staging staging
  · intro _ _ _ staging change
    cases change with
    | installed valid install => exact install.staging valid staging
    | recorded => exact staging

/-! ## Controls -/

/-- A control in its slot, as the checks of a command or of a checkpoint leave it. -/
structure Controls (bundle : ReleaseBundle) (store : ReleaseStore) : Prop where
  placed : ∀ {kind control}, store.control kind = some control → control.operationKind = kind
  bundleDigest : ∀ {kind control}, store.control kind = some control →
    control.bundleDigest = bundle.bundleDigest
  wellFormed : ∀ {kind control}, store.control kind = some control →
    assertOperationControl control = .ok ()

theorem Controls.of_control (controls : Controls bundle store)
    (same : after.control = store.control) : Controls bundle after := by
  constructor
  · intro kind control held
    exact controls.placed (same ▸ held)
  · intro kind control held
    exact controls.bundleDigest (same ▸ held)
  · intro kind control held
    exact controls.wellFormed (same ▸ held)

theorem Controls.set {control : OperationControl} (controls : Controls bundle store)
    (bundleDigest : control.bundleDigest = bundle.bundleDigest)
    (wellFormed : assertOperationControl control = .ok ()) :
    Controls bundle (store.setControl control) := by
  have known {kind held} (found : (store.setControl control).control kind = some held) :
      kind = control.operationKind ∧ held = control ∨ store.control kind = some held := by
    by_cases same : kind = control.operationKind
    · subst same
      rw [ReleaseStore.setControl_control, Function.update_self] at found
      exact .inl ⟨rfl, (Option.some.inj found).symm⟩
    · rw [ReleaseStore.setControl_control, Function.update_of_ne same] at found
      exact .inr found
  constructor
  · intro kind held found
    rcases known found with ⟨here, rfl⟩ | before
    · exact here.symm
    · exact controls.placed before
  · intro kind held found
    rcases known found with ⟨-, rfl⟩ | before
    · exact bundleDigest
    · exact controls.bundleDigest before
  · intro kind held found
    rcases known found with ⟨-, rfl⟩ | before
    · exact wellFormed
    · exact controls.wellFormed before

theorem assertOperationControl_of_names {invocation : OperationInvocation}
    {control : OperationControl} (names : Names bundle invocation control) :
    assertOperationControl control = .ok () := by
  apply assertOperationControl_eq_ok.2
  refine ⟨names.window, ?_, ?_⟩
  · rw [names.operationKind, names.track]
    cases invocation.releaseOperation <;> simp [canonicalReleaseBundleOperation,
      releaseBundleOperationTrack]
  · rw [names.operationKind, names.track]
    cases invocation.releaseOperation <;> simp [canonicalReleaseBundleOperation,
      releaseBundleOperationTrack]

theorem Transition.controls (transition : Transition bundle collation store command receipt after)
    (controls : Controls bundle store) : Controls bundle after := by
  cases transition with
  | admitted _ _ _ names =>
    exact (controls.set names.bundleDigest (assertOperationControl_of_names names)).of_control rfl
  | _ => exact controls.of_control rfl

theorem ImportInstall.controls {source : Checkpoint} (valid : ValidCheckpoint bundle source)
    (install : ImportInstall bundle collation source store after)
    (controls : Controls bundle store) : Controls bundle after := by
  cases install with
  | controlled held listed =>
    obtain ⟨kind, found⟩ := controlOf_of_mem_list held listed
    exact controls.set (valid.controlBundle kind _ found) (valid.control kind _ found).1
  | _ => exact controls.of_control rfl

theorem Reachable.controls (reachable : Reachable bundle collation store) :
    Controls bundle store := by
  apply reachable.invariant (Controls bundle)
  · constructor <;> simp [ReleaseStore.empty]
  · intro _ _ _ _ controls transition
    exact transition.controls controls
  · intro _ _ _ controls change
    cases change with
    | installed valid install => exact install.controls valid controls
    | recorded => exact controls.of_control rfl

end

end OnePersonLab.Release

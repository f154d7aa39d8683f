import OnePersonLab.Release.ImportSuccess

/-!
# Unknown outcomes that can be resolved

An active unknown outcome blocks the store until a reconcile clears it. For each of them
there is an observation that does, as long as its control is installed, its track is staged
and, for an external target, the other carriers are confirmed in the same store.
-/

namespace OnePersonLab.Release

open Contract Lib

/-! ## The observation that clears a marker -/

def resolvingOperation : CanonicalOperation → StableOperation
  | .standard => .standard
  | .appendFull => .appendFull

def resolvingInvocation (marker : UnknownOutcomeMarker) (control : OperationControl) (now : Int) :
    OperationInvocation where
  releaseOperation := resolvingOperation marker.operationKind
  operationId := marker.operationId
  operationStartedAt := control.operationStartedAt
  operationDeadlineAt := control.operationDeadlineAt
  now := now

def resolvingBinding (marker : UnknownOutcomeMarker) : ExecutorBinding where
  releaseOperation := resolvingOperation marker.operationKind
  operationId := marker.operationId
  remoteTarget := marker.remoteTarget
  priorAttemptId := some marker.priorMutationAttemptId

/-- A staged asset as an inspection of the remote finds it. -/
def observedAsset (asset : StoredAsset) : ExecutorAsset where
  identity := asset.identity
  path := none
  keys := [.name, .sizeBytes, .sha256]
  keysNamed := keysNamed_remote

/-- The attempt of the marker has been found complete, with everything that is staged. -/
def resolvingReceipt (marker : UnknownOutcomeMarker) (staged : List StoredAsset) :
    ExecutorReceipt where
  operation := marker.stageOperation.executorOperation
  executor := marker.executor
  attemptId := marker.priorMutationAttemptId
  bundleDigest := marker.bundleDigest
  track := marker.track
  outcome := .complete
  assets := if marker.publicationScope = some .trackAssets then staged.map observedAsset else []
  binding := some (resolvingBinding marker)
  publicationScope := marker.publicationScope

/-- What makes a marker resolvable in a store. -/
structure Resolvable (bundle : ReleaseBundle) (store : ReleaseStore)
    (marker : UnknownOutcomeMarker) : Prop where
  stored : ∃ json, store.bundleJson = some json
  live : store.legacy = none
  control : ∃ control, store.control marker.operationKind = some control ∧
    control.operationId = marker.operationId
  built : marker.stageOperation = .publish → ∃ staged, store.staged marker.track = some staged
  barrier : marker.publicationScope = some .externalTarget →
    bundle.requiredForLatest marker.track = true →
      ∀ track ∈ stableRequiredTrackNames bundle, track ≠ marker.track →
        trackAssetsConfirmed (latestPublicationState store track) = true

section

variable {bundle : ReleaseBundle} {collation : Collation} {store after : ReleaseStore}
  {marker : UnknownOutcomeMarker} {control : OperationControl} {staged : List StoredAsset}

@[simp]
theorem canonical_resolving (kind : CanonicalOperation) :
    canonicalReleaseBundleOperation (resolvingOperation kind) = kind := by
  cases kind <;> rfl

theorem mem_resolving_tracks (allowed : trackAllowed marker.operationKind marker.track = true) :
    marker.track ∈ releaseBundleOperationTracks (resolvingOperation marker.operationKind) := by
  cases kind : marker.operationKind <;>
    simpa [trackAllowed, kind, resolvingOperation, releaseBundleOperationTracks] using allowed

theorem resolving_wellFormed (wellFormed : assertUnknownOutcomeMarker marker = .ok ())
    (distinct : (staged.map fun asset => asset.identity.name).Nodup) :
    readExecutorReceipt (resolvingReceipt marker staged) = .ok (resolvingReceipt marker staged) := by
  obtain ⟨-, scopes⟩ := assertUnknownOutcomeMarker_eq_ok.1 wellFormed
  simp only [readExecutorReceipt, bind_eq_ok, ensure_eq_ok, pure_eq_ok]
  refine ⟨(), by rintro ⟨⟩, (), ?_, (), ?_, (), ?_, (), ?_, (), ?_, trivial⟩
  · intro scope
    cases stage : marker.stageOperation with
    | build => simp [resolvingReceipt, scopes.1 stage] at scope
    | publish => simp [resolvingReceipt, stage, StageOperation.executorOperation]
  · intro external
    have scope : marker.publicationScope = some .externalTarget := external
    simp [resolvingReceipt, scope]
  · by_cases assets : marker.publicationScope = some .trackAssets
    · simpa [resolvingReceipt, assets, observedAsset, Function.comp_def] using distinct
    · simp [resolvingReceipt, assets]
  · intro build _
    cases stage : marker.stageOperation with
    | build => simp [resolvingReceipt, scopes.1 stage]
    | publish => simp [resolvingReceipt, stage, StageOperation.executorOperation] at build
  · intro _ asset listed
    by_cases assets : marker.publicationScope = some .trackAssets
    · simp only [resolvingReceipt, assets, if_true, List.mem_map] at listed
      obtain ⟨_, -, rfl⟩ := listed
      rfl
    · simp [resolvingReceipt, assets] at listed

theorem resolving_matches (wellFormed : assertUnknownOutcomeMarker marker = .ok ()) (now : Int) :
    Matches marker (resolvingReceipt marker staged) (resolvingBinding marker)
      (resolvingInvocation marker control now) marker.stageOperation where
  bundleDigest := rfl
  operationId := rfl
  operationKind := by simp [resolvingInvocation]
  stageOperation := rfl
  publicationScope := by
    obtain ⟨-, scopes⟩ := assertUnknownOutcomeMarker_eq_ok.1 wellFormed
    cases stage : marker.stageOperation with
    | build => exact scopes.1 stage
    | publish =>
      cases scope : marker.publicationScope with
      | none => simp [scopes.2 scope] at stage
      | some known => simp [markerScope, ExecutorReceipt.scope, resolvingReceipt, scope]
  track := rfl
  remoteTarget := rfl
  priorAttempt := rfl

theorem resolving_reconciles (marked : Marked bundle store)
    (active : ∃ slot, store.unknown slot = some marker) (now : Int) :
    Reconciles store (resolvingReceipt marker staged) (resolvingBinding marker)
      (resolvingInvocation marker control now) marker.stageOperation marker := by
  obtain ⟨slot, held⟩ := active
  refine ⟨?_, nofun, resolving_matches (marked.wellFormed held) now⟩
  rw [← held, marked.placed held]
  rfl

/-- The invocation names the control that is installed. -/
theorem resolving_required (controls : Controls bundle store)
    (held : store.control marker.operationKind = some control)
    (same : control.operationId = marker.operationId) (live : store.legacy = none) (now : Int) :
    requireReleaseBundleOperation store bundle (resolvingInvocation marker control now) true =
      .ok ⟨control, releaseBundleOperationDeadlineElapsed control now⟩ := by
  obtain ⟨window, standard, appendFull⟩ :=
    assertOperationControl_eq_ok.1 (controls.wellFormed held)
  have candidate : candidateControl bundle (resolvingInvocation marker control now) =
      .ok control := by
    apply candidateControl_eq_ok.2
    refine ⟨⟨controls.bundleDigest held, same, ?_, ?_, window⟩, rfl, rfl⟩
    · simp [resolvingInvocation, controls.placed held]
    · cases kind : marker.operationKind with
      | standard =>
        rw [standard ((controls.placed held).trans kind)]
        simp [resolvingInvocation, kind, resolvingOperation, releaseBundleOperationTrack]
      | appendFull =>
        rw [appendFull ((controls.placed held).trans kind)]
        simp [resolvingInvocation, kind, resolvingOperation, releaseBundleOperationTrack]
  have slot : store.control (canonicalReleaseBundleOperation
      (resolvingInvocation marker control now).releaseOperation) = some control := by
    simpa [resolvingInvocation] using held
  simp only [requireReleaseBundleOperation, assertLiveCompatible, assertExactControl, slot,
    Bool.true_eq_false, if_false, bind_eq_ok, ensure_eq_ok, pure_eq_ok]
  exact ⟨(), live, control, candidate, (), rfl, rfl⟩

/-- The checks that every reconcile of the marker passes. -/
structure Passes (bundle : ReleaseBundle) (store : ReleaseStore) (marker : UnknownOutcomeMarker)
    (control : OperationControl) (staged : List StoredAsset) (now : Int) : Prop where
  stored : ∃ json, readStoredReleaseBundle store = .ok json
  wellFormed : readExecutorReceipt (resolvingReceipt marker staged) =
    .ok (resolvingReceipt marker staged)
  bound : assertExecutorBinding bundle (resolvingReceipt marker staged)
    marker.stageOperation.executorOperation = .ok ()
  identity : assertExecutorOperationBinding (resolvingReceipt marker staged)
    (resolvingInvocation marker control now) = .ok (resolvingBinding marker)
  required : requireReleaseBundleOperation store bundle (resolvingInvocation marker control now)
    true = .ok ⟨control, releaseBundleOperationDeadlineElapsed control now⟩
  reconciles : Reconciles store (resolvingReceipt marker staged) (resolvingBinding marker)
    (resolvingInvocation marker control now) marker.stageOperation marker
  allowed : (resolvingReceipt marker staged).track ∈
    releaseBundleOperationTracks (resolvingInvocation marker control now).releaseOperation

theorem passes_of_resolvable (marked : Marked bundle store) (controls : Controls bundle store)
    (active : ∃ slot, store.unknown slot = some marker)
    (resolvable : Resolvable bundle store marker)
    (held : store.control marker.operationKind = some control)
    (same : control.operationId = marker.operationId)
    (distinct : (staged.map fun asset => asset.identity.name).Nodup) (now : Int) :
    Passes bundle store marker control staged now := by
  obtain ⟨slot, present⟩ := active
  have wellFormed := marked.wellFormed present
  have allowed := mem_resolving_tracks (assertUnknownOutcomeMarker_eq_ok.1 wellFormed).1
  constructor
  · obtain ⟨json, stored⟩ := resolvable.stored
    exact ⟨json, readStoredReleaseBundle_eq_ok.2 stored⟩
  · exact resolving_wellFormed wellFormed distinct
  · simp only [assertExecutorBinding, bind_eq_ok, ensure_eq_ok]
    exact ⟨(), marked.bundleDigest present, rfl⟩
  · exact assertExecutorOperationBinding_eq_ok.2 ⟨rfl, ⟨rfl, rfl⟩, allowed⟩
  · exact resolving_required controls held same resolvable.live now
  · exact resolving_reconciles marked ⟨slot, present⟩ now
  · exact allowed

/-- After the deadline of its operation a build is observed late, whatever was built. -/
theorem build_clears (collation : Collation) {now : Int}
    (passes : Passes bundle store marker control staged now)
    (stage : marker.stageOperation = .build)
    (late : releaseBundleOperationDeadlineElapsed control now = true) (files : LocalFiles) :
    ∃ result, buildWithReceipt bundle collation files (resolvingInvocation marker control now)
      (resolvingReceipt marker staged) true store =
        (.ok result, (store.record result).unmark marker) := by
  obtain ⟨json, stored⟩ := passes.stored
  have bound : assertExecutorBinding bundle (resolvingReceipt marker staged) .build = .ok () := by
    simpa [stage, StageOperation.executorOperation] using passes.bound
  have reconciles := passes.reconciles
  rw [stage] at reconciles
  have found : reconcileMarker store (resolvingReceipt marker staged) (resolvingBinding marker)
      (resolvingInvocation marker control now) .build true = .ok (some marker) :=
    reconcileMarker_eq_ok.2 (.inr ⟨rfl, marker, rfl, reconciles⟩)
  unfold buildWithReceipt
  rw [Writes.read_bind, Writes.lift_bind_of_ok stored, Writes.lift_bind_of_ok passes.wellFormed,
    Writes.lift_bind_of_ok bound, Writes.lift_bind_of_ok passes.identity,
    Writes.lift_bind_of_ok passes.required, Writes.lift_bind_of_ok found,
    Writes.lift_bind_of_ok (ensure_true nofun _), if_neg nofun, if_pos ⟨rfl, late⟩]
  exact ⟨_, settle_reconcile reconciles passes.allowed rfl⟩

/-- The other carriers are confirmed, and the track itself by its marker. -/
theorem external_passes (resolvable : Resolvable bundle store marker)
    (external : marker.publicationScope = some .externalTarget) (confirmed : Bool)
    (carried : confirmed = true) :
    assertExternalTarget bundle store marker.track (some marker) confirmed true .externalTarget =
      .ok () := by
  apply assertExternalTarget_eq_ok.2
  refine ⟨?_, carried, nofun⟩
  intro required
  apply checkEach_eq_ok.2
  intro track listed
  apply ensure_true
  by_cases same : track = marker.track
  · subst same
    right
    simp [external]
  · exact .inl (resolvable.barrier external required track listed same)

theorem find_observed {name : AssetName} {asset : StoredAsset}
    (distinct : (staged.map fun asset => asset.identity.name).Nodup) (listed : asset ∈ staged)
    (named : asset.identity.name = name) :
    remoteAsset (staged.map observedAsset) name = some asset.identity := by
  induction staged with
  | nil => simp at listed
  | cons first rest ih =>
    rw [List.map_cons, List.nodup_cons] at distinct
    by_cases here : first.identity.name = name
    · rcases List.mem_cons.1 listed with rfl | later
      · simp [remoteAsset, observedAsset, here]
      · exact absurd (List.mem_map.2 ⟨asset, later, named.trans here.symm⟩) distinct.1
    · have later : asset ∈ rest := by
        rcases List.mem_cons.1 listed with rfl | later
        · exact absurd named here
        · exact later
      have found := ih distinct.2 later
      simpa [remoteAsset, observedAsset, here] using found

/-- Nothing is left to upload when the remote has everything that is staged. -/
theorem uploadActions_observed
    (distinct : (staged.map fun asset => asset.identity.name).Nodup) :
    uploadActions collation staged (staged.map observedAsset) = .ok [] := by
  simp only [uploadActions, bind_eq_ok, checkEach_eq_ok, pure_eq_ok]
  refine ⟨(), ?_, ?_⟩
  · intro asset listed
    apply ensure_true
    simp [find_observed distinct listed rfl]
  · have none : (staged.map StoredAsset.identity).filter
        (fun asset => (remoteAsset (staged.map observedAsset) asset.name).isNone) = [] := by
      apply List.filter_eq_nil_iff.2
      intro identity listed
      obtain ⟨asset, member, rfl⟩ := List.mem_map.1 listed
      simp [find_observed distinct member rfl]
    rw [none]
    rfl

/-- A publication is observed complete at any time. -/
theorem publish_clears (collation : Collation) {now : Int}
    (passes : Passes bundle store marker control staged now)
    (resolvable : Resolvable bundle store marker)
    (wellFormed : assertUnknownOutcomeMarker marker = .ok ())
    (stage : marker.stageOperation = .publish) (held : store.staged marker.track = some staged)
    (distinct : (staged.map fun asset => asset.identity.name).Nodup) :
    ∃ result, publishWithReceipt bundle collation (resolvingInvocation marker control now)
      (resolvingReceipt marker staged) true store =
        (.ok result, (store.record result).unmark marker) := by
  obtain ⟨json, stored⟩ := passes.stored
  have bound : assertExecutorBinding bundle (resolvingReceipt marker staged) .remoteInspect =
      .ok () := by
    simpa [stage, StageOperation.executorOperation] using passes.bound
  have reconciles := passes.reconciles
  rw [stage] at reconciles
  have found : reconcileMarker store (resolvingReceipt marker staged) (resolvingBinding marker)
      (resolvingInvocation marker control now) .publish true = .ok (some marker) :=
    reconcileMarker_eq_ok.2 (.inr ⟨rfl, marker, rfl, reconciles⟩)
  have present : store.staged (resolvingReceipt marker staged).track = some staged := held
  have scopes := (assertUnknownOutcomeMarker_eq_ok.1 wellFormed).2
  unfold publishWithReceipt
  rw [Writes.read_bind, Writes.lift_bind_of_ok stored, Writes.lift_bind_of_ok passes.wellFormed,
    Writes.lift_bind_of_ok bound, Writes.lift_bind_of_ok passes.identity,
    Writes.lift_bind_of_ok passes.required, present]
  dsimp only
  rw [Writes.lift_bind_of_ok found]
  cases scope : marker.publicationScope with
  | none => simp [scopes.2 scope] at stage
  | some known =>
    have read : (resolvingReceipt marker staged).scope = known := by
      simp [ExecutorReceipt.scope, resolvingReceipt, scope]
    rw [read]
    cases known with
    | externalTarget =>
      have external : assertExternalTarget bundle store (resolvingReceipt marker staged).track
          (some marker)
          (trackAssetsConfirmed (latestPublicationState store
              (resolvingReceipt marker staged).track) ||
            (some marker).any fun marker => marker.publicationScope = some .externalTarget)
          true .externalTarget = .ok () :=
        external_passes resolvable scope _ (by simp [scope])
      rw [Writes.lift_bind_of_ok external, Writes.lift_bind_of_ok (ensure_true nofun _),
        if_neg nofun, if_pos rfl]
      exact ⟨_, settle_reconcile reconciles passes.allowed rfl⟩
    | trackAssets =>
      have assets : (resolvingReceipt marker staged).assets = staged.map observedAsset := by
        simp [resolvingReceipt, scope]
      have compared : uploadActions collation staged (resolvingReceipt marker staged).assets =
          .ok [] := by
        rw [assets]
        exact uploadActions_observed distinct
      rw [assertExternalTarget, Writes.lift_bind_of_ok rfl,
        Writes.lift_bind_of_ok (ensure_true nofun _), if_neg nofun, if_neg nofun,
        Writes.lift_bind_of_ok compared, if_neg (by simp)]
      exact ⟨_, settle_reconcile reconciles passes.allowed rfl⟩

/-- From some moment on there is an observation that clears the marker. -/
theorem cleared_of_resolvable (marked : Marked bundle store) (controls : Controls bundle store)
    (staging : Staging bundle collation store) (active : ∃ slot, store.unknown slot = some marker)
    (resolvable : Resolvable bundle store marker) :
    ∃ receipt moment, ∃ invocation : Int → OperationInvocation,
      (∀ now, (invocation now).now = now) ∧ ∀ now, moment ≤ now → ∀ files, ∃ result after,
        (Command.reconcile files (invocation now) receipt).run bundle collation store =
          (.ok result, after) ∧ after.unknown = (store.unmark marker).unknown := by
  obtain ⟨slot, present⟩ := active
  have wellFormed := marked.wellFormed present
  obtain ⟨control, held, same⟩ := resolvable.control
  cases stage : marker.stageOperation with
  | build =>
    refine ⟨resolvingReceipt marker [], control.operationDeadlineAt,
      resolvingInvocation marker control, fun _ => rfl, ?_⟩
    intro now elapsed files
    have passes : Passes bundle store marker control [] now :=
      passes_of_resolvable marked controls ⟨slot, present⟩ resolvable held same (by simp) now
    have late : releaseBundleOperationDeadlineElapsed control now = true := by
      simpa [releaseBundleOperationDeadlineElapsed] using elapsed
    obtain ⟨result, ran⟩ := build_clears collation passes stage late files
    refine ⟨result, (store.record result).unmark marker, ?_, rfl⟩
    rw [← ran]
    simp [Command.run, reconcileReleaseBundle, resolvingReceipt, stage,
      StageOperation.executorOperation]
  | publish =>
    obtain ⟨staged, manifest⟩ := resolvable.built stage
    have distinct := (staging manifest).distinct
    refine ⟨resolvingReceipt marker staged, control.operationDeadlineAt,
      resolvingInvocation marker control, fun _ => rfl, ?_⟩
    intro now _ files
    have passes := passes_of_resolvable marked controls ⟨slot, present⟩ resolvable held same
      distinct now
    obtain ⟨result, ran⟩ := publish_clears collation passes resolvable wellFormed stage manifest
      distinct
    refine ⟨result, (store.record result).unmark marker, ?_, rfl⟩
    rw [← ran]
    simp [Command.run, reconcileReleaseBundle, resolvingReceipt, stage,
      StageOperation.executorOperation]

end

end OnePersonLab.Release

import OnePersonLab.Release.Script

/-!
# The publication state of a track

The latest publication of a track is read from two slots: that of its publications, and
the one that its reconciliations of either stage share. The slots follow the publication
receipts of the track, as long as no reconciliation of a build is written over one of a
publication.
-/

namespace OnePersonLab.Release

open Contract Lib

/-! ## The two slots -/

structure PublicationState where
  publish : Option OperationReceipt
  reconcile : Option OperationReceipt

namespace PublicationState

def initial : PublicationState := ⟨none, none⟩

/-- A reconciliation shadows the publication before it. -/
def latest (state : PublicationState) : Option OperationReceipt :=
  state.reconcile.or state.publish

/-- A publication whose outcome is known takes the reconciliation before it back. -/
def next (state : PublicationState) (receipt : OperationReceipt) : PublicationState :=
  if receipt.operation = .publish then
    ⟨some receipt, if receipt.status = .reconcileOnly then state.reconcile else none⟩
  else { state with reconcile := some receipt }

end PublicationState

/-- What the slots of a store hold about the publication of a track. -/
def publicationState (store : ReleaseStore) (track : Track) : PublicationState :=
  ⟨store.operation (.publish, some track),
    (store.operation (.reconcile, some track)).filter resolvedPublication⟩

theorem latest_publicationState (store : ReleaseStore) (track : Track) :
    (publicationState store track).latest = latestPublicationState store track := by
  unfold latestPublicationState
  split
  · rename_i reconciliation found
    simp [publicationState, PublicationState.latest, found]
  · rename_i absent
    simp [publicationState, PublicationState.latest, absent]

/-- The publication and publication reconcile receipts of a track, in their order. -/
def publications (store : ReleaseStore) (track : Track) : List OperationReceipt :=
  store.receipts.filter fun receipt => isPublication receipt && receipt.track = some track

/-- The state that a sequence of publication receipts leads to. -/
def publicationTrace (receipts : List OperationReceipt) : PublicationState :=
  receipts.foldl PublicationState.next .initial

theorem publicationTrace_concat (receipts : List OperationReceipt) (receipt : OperationReceipt) :
    publicationTrace (receipts ++ [receipt]) = (publicationTrace receipts).next receipt := by
  simp [publicationTrace]

/-- The slots of a track hold what its publication receipts led to. -/
def Traced (store : ReleaseStore) : Prop :=
  ∀ track, publicationState store track = publicationTrace (publications store track)

/-! ## What a command does to the slots -/

/-- A receipt that is about a publication moves the state of its track, and no other does. -/
structure Publishes (store : ReleaseStore) (receipt : OperationReceipt) (after : ReleaseStore) :
    Prop where
  moved : ∀ track, isPublication receipt = true → receipt.track = some track →
    publicationState after track = (publicationState store track).next receipt
  kept : ∀ track, ¬ (isPublication receipt = true ∧ receipt.track = some track) →
    publicationState after track = publicationState store track

/-- No build is reconciled while the track's reconciliation is one of a publication. -/
def KeepsPublication (store : ReleaseStore) : Event → Prop
  | .command (.reconcile _ _ receipt) _ =>
    receipt.operation = .build → (store.unknown (.build, receipt.track)).isSome →
      (publicationState store receipt.track).reconcile = none
  | _ => True

section

variable {bundle : ReleaseBundle} {collation : Collation} {store base after : ReleaseStore}
  {command : Command} {receipt : OperationReceipt}

/-- A receipt of another operation leaves both slots alone. -/
theorem publishes_of_other (operation : base.operation = store.operation)
    (publish : receipt.operation ≠ .publish) (reconcile : receipt.operation ≠ .reconcile) :
    Publishes store receipt (base.record receipt) := by
  constructor
  · intro track publication _
    simp [isPublication, publish, reconcile] at publication
  · intro track _
    have first : (ReceiptOperation.publish, some track) ≠ (receipt.operation, receipt.track) := by
      simp [publish.symm]
    have second :
        (ReceiptOperation.reconcile, some track) ≠ (receipt.operation, receipt.track) := by
      simp [reconcile.symm]
    simp only [publicationState, ReleaseStore.record_operation, Function.update_of_ne first,
      Function.update_of_ne second, operation]

/-- A reconciliation takes its slot, where it shadows a publication only if it is about one. -/
theorem publishes_of_reconcile {track : Track} (operation : base.operation = store.operation)
    (reconcile : receipt.operation = .reconcile) (named : receipt.track = some track)
    (free : resolvedPublication receipt = false →
      (publicationState store track).reconcile = none) :
    Publishes store receipt (base.record receipt) := by
  have publish (other : Track) :
      (ReceiptOperation.publish, some other) ≠ (receipt.operation, receipt.track) := by
    simp [reconcile]
  constructor
  · intro other publication same
    obtain rfl : track = other := Option.some.inj (named.symm.trans same)
    have resolved : resolvedPublication receipt = true := by
      simpa [isPublication, reconcile] using publication
    simp [publicationState, PublicationState.next, reconcile, named, resolved, operation,
      Function.update_of_ne]
  · intro other unrelated
    have slot : (base.record receipt).operation (.publish, some other) =
        store.operation (.publish, some other) := by
      rw [ReleaseStore.record_operation, Function.update_of_ne (publish other), operation]
    by_cases same : track = other
    · subst same
      have resolved : resolvedPublication receipt = false := by
        simpa [isPublication, reconcile, named] using unrelated
      have before := free resolved
      simp only [publicationState] at before
      simp only [publicationState, slot, before, ReleaseStore.record_operation, reconcile, named,
        Function.update_self, Option.filter_some, resolved, Bool.false_eq_true, if_false]
    · have apart :
          (ReceiptOperation.reconcile, some other) ≠ (receipt.operation, receipt.track) := by
        simp [named, Ne.symm same]
      simp only [publicationState, slot, ReleaseStore.record_operation,
        Function.update_of_ne apart, operation]

/-- A publication takes its slot; the reconciliation stays only when the outcome is unknown. -/
theorem publishes_of_publish {track : Track} (operation : base.operation = store.operation)
    (publish : receipt.operation = .publish) (named : receipt.track = some track)
    (unknown : receipt.status = .reconcileOnly) :
    Publishes store receipt (base.record receipt) := by
  constructor
  · intro other publication same
    simp [publicationState, PublicationState.next, publish, ← same, unknown, operation,
      Function.update_of_ne]
  · intro other unrelated
    have different : track ≠ other := by
      simpa [isPublication, publish, named] using unrelated
    simp [publicationState, publish, named, operation, Function.update_of_ne, different.symm]

theorem publishes_of_settled {track : Track} (operation : base.operation = store.operation)
    (publish : receipt.operation = .publish) (named : receipt.track = some track)
    (known : receipt.status ≠ .reconcileOnly) :
    Publishes store receipt
      ((base.record receipt).clearOperation .reconcile (some track)) := by
  constructor
  · intro other publication same
    obtain rfl : track = other := Option.some.inj (named.symm.trans same)
    simp [publicationState, PublicationState.next, publish, named, known, Function.update_of_ne]
  · intro other unrelated
    have different : track ≠ other := by
      simpa [isPublication, publish, named] using unrelated
    simp [publicationState, publish, named, operation, Function.update_of_ne, different.symm]

theorem Publishes.unmark (publishes : Publishes store receipt after)
    (marker : UnknownOutcomeMarker) : Publishes store receipt (after.unmark marker) :=
  ⟨publishes.moved, publishes.kept⟩

theorem Transition.publishes {outcome : Except Failure OperationReceipt}
    (transition : Transition bundle collation store command receipt after)
    (keeps : KeepsPublication store (.command command outcome)) :
    Publishes store receipt after := by
  cases transition with
  | froze => exact publishes_of_other rfl nofun nofun
  | admitted => exact publishes_of_other rfl nofun nofun
  | readmitted => exact publishes_of_other rfl nofun nofun
  | buildUnknown _ _ _ recorded =>
    subst recorded
    exact publishes_of_other rfl nofun nofun
  | buildStillUnknown executes accepted reconciles _ recorded =>
    subst recorded
    cases executes with
    | buildReconcile kind =>
      apply publishes_of_reconcile rfl rfl rfl
      intro _
      exact keeps kind (by rw [reconciles.active]; rfl)
  | buildLate executes accepted reconciles _ _ recorded =>
    subst recorded
    cases executes with
    | buildReconcile kind =>
      apply Publishes.unmark
      apply publishes_of_reconcile rfl rfl rfl
      intro _
      exact keeps kind (by rw [reconciles.active]; rfl)
  | built _ _ _ _ recorded =>
    subst recorded
    exact publishes_of_other rfl nofun nofun
  | buildReconciled executes accepted reconciles _ _ _ recorded =>
    subst executes recorded
    apply Publishes.unmark
    apply publishes_of_reconcile
    · rfl
    · rfl
    · rfl
    · intro _
      exact keeps accepted.operation (by rw [reconciles.active]; rfl)
  | verified _ _ _ _ _ _ recorded =>
    subst recorded
    exact publishes_of_other rfl nofun nofun
  | publishUnknown _ _ _ _ recorded =>
    subst recorded
    exact publishes_of_publish rfl rfl rfl rfl
  | publishStillUnknown _ _ _ _ _ recorded =>
    subst recorded
    exact publishes_of_reconcile rfl rfl rfl nofun
  | externalPublished _ _ _ _ _ recorded =>
    subst recorded
    exact publishes_of_settled rfl rfl rfl nofun
  | externalReconciled _ _ _ _ _ _ _ recorded =>
    subst recorded
    apply Publishes.unmark
    exact publishes_of_reconcile rfl rfl rfl nofun
  | assetsMissing _ _ _ _ _ _ _ _ recorded =>
    subst recorded
    exact publishes_of_reconcile rfl rfl rfl nofun
  | assetsPublished _ _ _ _ _ _ judged recorded =>
    subst recorded
    apply publishes_of_settled rfl rfl rfl
    subst judged
    split <;> exact nofun
  | assetsReconciled _ _ _ _ _ _ _ _ recorded =>
    subst recorded
    apply Publishes.unmark
    exact publishes_of_reconcile rfl rfl rfl nofun

theorem Publishes.traced (publishes : Publishes store receipt after)
    (records : Records store receipt after) (traced : Traced store) : Traced after := by
  intro track
  have split : publications after track = publications store track ++
      [receipt].filter fun receipt => isPublication receipt && receipt.track = some track := by
    simp only [publications, records.receipts, List.filter_append]
  by_cases publication : isPublication receipt = true ∧ receipt.track = some track
  · rw [publishes.moved track publication.1 publication.2, traced track, split,
      ← publicationTrace_concat]
    simp [publication]
  · have ignored : (isPublication receipt && decide (receipt.track = some track)) = false := by
      simpa using publication
    rw [publishes.kept track publication, traced track, split, List.filter_singleton, ignored,
      cond_false, List.append_nil]

theorem ImportChange.traced {checkpoint : Checkpoint}
    (change : ImportChange bundle collation checkpoint store after) (traced : Traced store) :
    Traced after := by
  cases change with
  | recorded =>
    refine (publishes_of_other rfl ?_ ?_).traced (.record rfl rfl id) traced
    · exact nofun
    · exact nofun
  | installed _ install =>
    cases install with
    | bundled => exact traced
    | marked => exact traced
    | controlled => exact traced
    | readOnly => exact traced
    | staged => exact traced
    | qualified =>
      refine (publishes_of_other rfl ?_ ?_).traced (.record rfl rfl id) traced
      · exact nofun
      · exact nofun

theorem Run.traced {log : List Event}
    (run : Run bundle collation KeepsPublication log store) : Traced store := by
  apply run.invariant Traced
  · intro track
    rfl
  · intro _ _ _ _ traced keeps transition
    exact (transition.publishes keeps).traced transition.records traced
  · intro _ _ _ traced change
    exact change.traced traced

end

/-! ## The flags of a track -/

/-- The published flag and the confirmed-track-assets flag of a track. -/
structure PublicationFlags where
  published : Bool
  trackAssetsConfirmed : Bool
  deriving DecidableEq

def publicationFlags (store : ReleaseStore) (track : Track) : PublicationFlags where
  published := (trackStatus store track (listReleaseBundleUnknownOutcomes store)).published
  trackAssetsConfirmed := trackAssetsConfirmed (latestPublicationState store track)

def PublicationState.flags (state : PublicationState) : PublicationFlags where
  published := state.latest.any fun receipt => receipt.status = .complete
  trackAssetsConfirmed := Release.trackAssetsConfirmed state.latest

theorem publicationFlags_eq (store : ReleaseStore) (track : Track) :
    publicationFlags store track = (publicationState store track).flags := by
  simp only [PublicationState.flags, latest_publicationState]
  rfl

/-- A build, or a reconcile that is handed a build receipt. -/
def Command.IsBuild (command : Command) : Prop :=
  ∃ invocation receipt reconcile, command.Executes invocation receipt reconcile .build

section

variable {bundle : ReleaseBundle} {collation : Collation} {store after : ReleaseStore}
  {command : Command} {receipt : OperationReceipt}

theorem isPublication_of_isBuild
    (transition : Transition bundle collation store command receipt after)
    (build : command.IsBuild) : isPublication receipt = false := by
  obtain ⟨invocation, executed, reconcile, executes⟩ := build
  cases transition with
  | froze => rfl
  | admitted => rfl
  | readmitted => rfl
  | buildUnknown _ _ _ recorded => subst recorded; rfl
  | buildStillUnknown _ _ _ _ recorded => subst recorded; rfl
  | buildLate _ _ _ _ _ recorded => subst recorded; rfl
  | built _ _ _ _ recorded => subst recorded; rfl
  | buildReconciled _ _ _ _ _ _ recorded => subst recorded; rfl
  | verified _ _ _ _ _ _ recorded => subst recorded; rfl
  | publishUnknown published => cases published; cases executes
  | publishStillUnknown published accepted =>
    cases published; cases executes with
    | buildReconcile kind => simp [accepted.operation] at kind
  | externalPublished published => cases published; cases executes
  | externalReconciled published accepted =>
    cases published; cases executes with
    | buildReconcile kind => simp [accepted.operation] at kind
  | assetsMissing published accepted =>
    cases published; cases executes with
    | buildReconcile kind => simp [accepted.operation] at kind
  | assetsPublished published => cases published; cases executes
  | assetsReconciled published accepted =>
    cases published; cases executes with
    | buildReconcile kind => simp [accepted.operation] at kind

/-- What a build leaves behind, however it ends, has the flags of before. -/
theorem publicationFlags_of_build {outcome : Except Failure OperationReceipt}
    (build : command.IsBuild) (keeps : KeepsPublication store (.command command outcome))
    (ran : command.run bundle collation store = (outcome, after)) (track : Track) :
    publicationFlags after track = publicationFlags store track := by
  cases outcome with
  | error failure =>
    obtain rfl := command_allOrNothing command failure after ran
    rfl
  | ok receipt =>
    have transition := command_transition ran
    have kept := (transition.publishes keeps).kept track
    rw [publicationFlags_eq, publicationFlags_eq, kept]
    rintro ⟨publication, -⟩
    simp [isPublication_of_isBuild transition build] at publication

/-- The flags of every track follow its publication receipts, and builds leave them alone. -/
structure PublicationKept (bundle : ReleaseBundle) (collation : Collation)
    (store : ReleaseStore) : Prop where
  flags : ∀ track,
    publicationFlags store track = (publicationTrace (publications store track)).flags
  builds : ∀ command outcome after, command.IsBuild →
    KeepsPublication store (.command command outcome) →
      command.run bundle collation store = (outcome, after) →
        ∀ track, publicationFlags after track = publicationFlags store track

/-- In a run that never reconciles a build while the reconciliation of its track is one of a
publication, publication status belongs to the publication receipts. -/
theorem publicationKept_of_run {log : List Event}
    (run : Run bundle collation KeepsPublication log store) :
    PublicationKept bundle collation store := by
  constructor
  · intro track
    rw [publicationFlags_eq, run.traced track]
  · intro command outcome after build keeps ran track
    exact publicationFlags_of_build build keeps ran track

end

/-! ## A build that takes a publication back -/

/-- The build is reconciled before the publication is. -/
def Script.reconciles : List Command :=
  [freeze, operationAdmit, buildUnknown .standard, reconcileBuild .standard, publishUnknown .standard none,
    reconcilePublish .standard 3]

/-- The publication is reconciled, and then a build ends unknown. -/
def Script.overlaps : List Command :=
  builds ++ [publishUnknown .standard none, reconcilePublish .standard 3, buildUnknown .standard]

theorem reconciles_free :
    (publicationState (perform Script.bundle Script.collation
      [Script.freeze, Script.operationAdmit, Script.buildUnknown .standard] .empty)
        .standard).reconcile = none := by
  decide +kernel

theorem reconciles_meets :
    MeetsEach Script.bundle Script.collation KeepsPublication Script.reconciles .empty :=
  ⟨trivial, trivial, trivial, fun _ _ => reconciles_free, trivial, nofun, trivial⟩

theorem publicationKept_reconciles :
    PublicationKept Script.bundle Script.collation
      (perform Script.bundle Script.collation Script.reconciles .empty) :=
  publicationKept_of_run (run_performed .start reconciles_meets)

theorem overlaps_published :
    (publicationFlags (perform Script.bundle Script.collation Script.overlaps .empty)
      .standard) = ⟨true, true⟩ := by
  decide +kernel

theorem overlaps_lost :
    (publicationFlags (perform Script.bundle Script.collation
      (Script.overlaps ++ [Script.reconcileBuild .standard]) .empty) .standard) =
        ⟨false, false⟩ := by
  decide +kernel

/-- A build that is reconciled takes the published track back. -/
theorem published_lost_by_build :
    let store := perform Script.bundle Script.collation Script.overlaps .empty
    let command := Script.reconcileBuild .standard
    Reachable Script.bundle Script.collation store ∧ command.IsBuild ∧
      publicationFlags store .standard = ⟨true, true⟩ ∧
      publicationFlags (command.run Script.bundle Script.collation store).2 .standard =
        ⟨false, false⟩ :=
  ⟨reachable_perform _, ⟨_, _, _, .buildReconcile rfl⟩, overlaps_published, overlaps_lost⟩

end OnePersonLab.Release

import OnePersonLab.Release.ImportChanges

/-!
# Runs of a release bundle store

A store starts empty and is changed by commands and imports. The checkpoints that it
imports were exported from stores with runs of their own, or are legacy ones, from
before checkpoints had operation controls.
-/

namespace OnePersonLab.Release

open Contract Lib

/-! ## What every command records -/

/-- One receipt is written down and becomes the latest of its operation and track; no
other is touched, except that a publication may take back the reconciliation before it. -/
structure Records (store : ReleaseStore) (receipt : OperationReceipt) (after : ReleaseStore) :
    Prop where
  receipts : after.receipts = store.receipts ++ [receipt]
  latest : after.operation (receipt.operation, receipt.track) = some receipt
  others : ∀ slot, slot ≠ (receipt.operation, receipt.track) →
    after.operation slot = store.operation slot ∨
      after.operation slot = none ∧ slot = (.reconcile, receipt.track) ∧
        receipt.operation = .publish
  staged : ∀ {track assets}, store.staged track = some assets → after.staged track = some assets

section

variable {store : ReleaseStore} {receipt : OperationReceipt}

theorem Records.record {base : ReleaseStore} (receipts : base.receipts = store.receipts)
    (operation : base.operation = store.operation)
    (staged : ∀ {track assets}, store.staged track = some assets →
      base.staged track = some assets) : Records store receipt (base.record receipt) := by
  refine ⟨by simp [receipts], by simp, ?_, staged⟩
  intro slot other
  left
  rw [ReleaseStore.record_operation, Function.update_of_ne other, operation]

theorem Records.unmark {after : ReleaseStore} (records : Records store receipt after)
    (marker : UnknownOutcomeMarker) : Records store receipt (after.unmark marker) :=
  ⟨records.receipts, records.latest, records.others, records.staged⟩

/-- A publication takes the reconciliation of its track back. -/
theorem Records.clear {after : ReleaseStore} (records : Records store receipt after)
    (published : receipt.operation = .publish) :
    Records store receipt (after.clearOperation .reconcile receipt.track) := by
  refine ⟨records.receipts, ?_, ?_, records.staged⟩
  · rw [ReleaseStore.clearOperation_operation, Function.update_of_ne]
    · exact records.latest
    · simp [published]
  · intro slot other
    by_cases reconcile : slot = (.reconcile, receipt.track)
    · subst reconcile
      exact .inr ⟨by simp, rfl, published⟩
    · rw [ReleaseStore.clearOperation_operation, Function.update_of_ne reconcile]
      exact records.others slot other

end

section

variable {bundle : ReleaseBundle} {collation : Collation} {store after : ReleaseStore}
  {command : Command} {receipt : OperationReceipt}

theorem Transition.records (transition : Transition bundle collation store command receipt after) :
    Records store receipt after := by
  cases transition with
  | froze => exact .record rfl rfl id
  | admitted => exact .record rfl rfl id
  | readmitted => exact .record rfl rfl id
  | buildUnknown => exact .record rfl rfl id
  | buildStillUnknown => exact .record rfl rfl id
  | buildLate => exact (Records.record rfl rfl id).unmark _
  | built _ _ _ stages => exact .record rfl rfl (update_of_free stages.free)
  | buildReconciled _ _ _ _ stages =>
    apply Records.unmark
    exact .record rfl rfl (update_of_free stages.free)
  | verified => exact .record rfl rfl id
  | publishUnknown => exact .record rfl rfl id
  | publishStillUnknown => exact .record rfl rfl id
  | externalPublished _ _ _ _ _ recorded =>
    subst recorded
    exact (Records.record rfl rfl id).clear rfl
  | externalReconciled => exact (Records.record rfl rfl id).unmark _
  | assetsMissing => exact .record rfl rfl id
  | assetsPublished _ _ _ _ _ _ _ recorded =>
    subst recorded
    exact (Records.record rfl rfl id).clear rfl
  | assetsReconciled => exact (Records.record rfl rfl id).unmark _

end

/-! ## Runs -/

/-- What happens to a store, with how it ended. An import names the events of the store
that the checkpoint was exported from. -/
inductive Event where
  | command (command : Command) (outcome : Except Failure OperationReceipt)
  | imported (checkpoint : Checkpoint) (source : List Event)
  | importedLegacy (checkpoint : Checkpoint)

section

variable (bundle : ReleaseBundle) (collation : Collation)

/-- The runs whose events all meet a condition on the store before the event. -/
inductive Run (meets : ReleaseStore → Event → Prop) : List Event → ReleaseStore → Prop where
  | start : Run meets [] .empty
  | command {log store command outcome after} (run : Run meets log store)
      (met : meets store (.command command outcome))
      (ran : command.run bundle collation store = (outcome, after)) :
      Run meets (log ++ [.command command outcome]) after
  | imported {log store checkpoint sourceLog source outcome after} (run : Run meets log store)
      (sourceRun : Run meets sourceLog source)
      (exported : exportReleaseBundleCheckpoint bundle collation source = .ok checkpoint)
      (met : meets store (.imported checkpoint sourceLog))
      (ran : importReleaseBundleCheckpoint bundle collation checkpoint store = (outcome, after)) :
      Run meets (log ++ [.imported checkpoint sourceLog]) after
  | importedLegacy {log store checkpoint outcome after} (run : Run meets log store)
      (legacy : checkpoint.operationControls = none)
      (met : meets store (.importedLegacy checkpoint))
      (ran : importReleaseBundleCheckpoint bundle collation checkpoint store = (outcome, after)) :
      Run meets (log ++ [.importedLegacy checkpoint]) after

/-- The stores that the release operations reach. -/
def Reachable (store : ReleaseStore) : Prop :=
  ∃ log, Run bundle collation (fun _ _ => True) log store

end

section

variable {bundle : ReleaseBundle} {collation : Collation} {meets : ReleaseStore → Event → Prop}

variable {store : ReleaseStore}

/-- What the empty store has and every transition and change of an import keeps, every
store of a run has. -/
theorem Run.invariant (holds : ReleaseStore → Prop) (start : holds .empty)
    (command : ∀ {store command receipt after}, holds store →
      meets store (.command command (.ok receipt)) →
      Transition bundle collation store command receipt after → holds after)
    (imports : ∀ {checkpoint store after}, holds store →
      ImportChange bundle collation checkpoint store after → holds after) {log : List Event}
    (run : Run bundle collation meets log store) : holds store := by
  have changed {checkpoint before after} (kept : holds before)
      (changes : ImportChanges bundle collation checkpoint before after) : holds after := by
    induction changes with
    | refl => exact kept
    | tail _ change ih => exact imports ih change
  induction run with
  | start => exact start
  | @command _ store asked outcome after _ met ran ih =>
    cases outcome with
    | error failure =>
      obtain rfl := command_allOrNothing asked failure after ran
      exact ih
    | ok receipt => exact command ih met (command_transition ran)
  | @imported _ store checkpoint _ _ _ _ _ _ _ _ ran ih _ =>
    have changes : ImportChanges bundle collation checkpoint store _ := import_changes store
    rw [ran] at changes
    exact changed ih changes
  | @importedLegacy _ store checkpoint _ _ _ _ _ ran ih =>
    have changes : ImportChanges bundle collation checkpoint store _ := import_changes store
    rw [ran] at changes
    exact changed ih changes

theorem Reachable.invariant (holds : ReleaseStore → Prop) (start : holds .empty)
    (command : ∀ {store command receipt after}, holds store →
      Transition bundle collation store command receipt after → holds after)
    (imports : ∀ {checkpoint store after}, holds store →
      ImportChange bundle collation checkpoint store after → holds after)
    (reachable : Reachable bundle collation store) : holds store := by
  obtain ⟨log, run⟩ := reachable
  exact run.invariant holds start (fun kept _ => command kept) imports

/-! ## The latest receipts -/

/-- The latest receipt of an operation and track is one that was recorded for them. -/
def Slotted (store : ReleaseStore) : Prop :=
  ∀ {operation track receipt}, store.operation (operation, track) = some receipt →
    receipt ∈ store.receipts ∧ receipt.operation = operation ∧ receipt.track = track

theorem Records.slotted {after : ReleaseStore} {receipt : OperationReceipt}
    (records : Records store receipt after) (slotted : Slotted store) : Slotted after := by
  intro operation track latest found
  rw [records.receipts]
  by_cases same : (operation, track) = (receipt.operation, receipt.track)
  · rw [same, records.latest, Option.some.injEq] at found
    subst found
    simp only [Prod.mk.injEq] at same
    exact ⟨by simp, same.1.symm, same.2.symm⟩
  · rcases records.others _ same with kept | ⟨none, -⟩
    · rw [kept] at found
      obtain ⟨member, known⟩ := slotted found
      exact ⟨List.mem_append_left _ member, known⟩
    · simp [none] at found

theorem ImportChange.slotted {checkpoint : Checkpoint} {after : ReleaseStore}
    (change : ImportChange bundle collation checkpoint store after) (slotted : Slotted store) :
    Slotted after := by
  cases change with
  | recorded => exact (Records.record rfl rfl id).slotted slotted
  | installed _ install =>
    cases install with
    | bundled => exact slotted
    | marked => exact slotted
    | controlled => exact slotted
    | readOnly => exact slotted
    | staged => exact slotted
    | qualified => exact (Records.record rfl rfl id).slotted slotted

theorem Run.slotted {log : List Event} (run : Run bundle collation meets log store) :
    Slotted store :=
  run.invariant Slotted nofun
    (fun slotted _ transition => transition.records.slotted slotted)
    (fun slotted change => change.slotted slotted)

end

end OnePersonLab.Release

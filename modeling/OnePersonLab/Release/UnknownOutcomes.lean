import OnePersonLab.Release.Resolution
import OnePersonLab.Release.Script

/-!
# Unknown outcomes and lasting records

While an operation has an unknown outcome the store stands still: only a reconcile of that
very operation gets through, and there is one that ends it. What the store has frozen,
staged and written down lasts through everything that happens to it.
-/

namespace OnePersonLab.Release

open Contract Lib Relation

/-! ## The store stands still -/

/-- What a command can do to a store with an unknown outcome. -/
inductive Blocked (store : ReleaseStore) (marker : UnknownOutcomeMarker) :
    Command → Except Failure OperationReceipt → ReleaseStore → Prop where
  | refused {command failure} : Blocked store marker command (.error failure) store
  | frozen {json receipt} (free : Free store.bundleJson json) :
      Blocked store marker (.freeze json) (.ok receipt) ((store.withBundle json).record receipt)
  | reconciled {files invocation receipt binding stage result after}
      (reconciles : Reconciles store receipt binding invocation stage marker)
      (left : after.unknown = store.unknown ∨ after.unknown = (store.unmark marker).unknown) :
      Blocked store marker (.reconcile files invocation receipt) (.ok result) after

section

variable {bundle : ReleaseBundle} {collation : Collation} {store after : ReleaseStore}
  {marker : UnknownOutcomeMarker} {command : Command} {slot : StageOperation × Track}
  {outcome : Except Failure OperationReceipt}

theorem Command.Executes.reconcile {invocation : OperationInvocation} {receipt : ExecutorReceipt}
    {stage : StageOperation} (executes : command.Executes invocation receipt true stage) :
    ∃ files, command = .reconcile files invocation receipt := by
  cases executes with
  | buildReconcile => exact ⟨_, rfl⟩
  | publishReconcile => exact ⟨_, rfl⟩

/-- An unknown outcome is the only one, and until it is reconciled no other operation
changes the store. -/
theorem unknown_outcome_blocks (reachable : Reachable bundle collation store)
    (active : store.unknown slot = some marker)
    (ran : command.run bundle collation store = (outcome, after)) :
    (∀ other held, store.unknown other = some held → held = marker) ∧
      Blocked store marker command outcome after := by
  have marked := reachable.marked
  refine ⟨fun other held found => marked.single found active, ?_⟩
  cases outcome with
  | error failure =>
    obtain rfl := command_allOrNothing command failure after ran
    exact .refused
  | ok result =>
    have shut {commands : Prop} (unblocked : ∀ slot, store.unknown slot = none) : commands := by
      simp [unblocked slot] at active
    have reconciled {invocation receipt binding stage other}
        (executes : command.Executes invocation receipt true stage)
        (reconciles : Reconciles store receipt binding invocation stage other)
        (left : after.unknown = store.unknown ∨ after.unknown = (store.unmark other).unknown) :
        Blocked store marker command (.ok result) after := by
      obtain ⟨files, rfl⟩ := executes.reconcile
      obtain rfl := marked.single reconciles.active active
      exact .reconciled reconciles left
    cases command_transition ran with
    | froze free => exact .frozen free
    | admitted _ _ unblocked => exact shut unblocked
    | readmitted _ _ unblocked => exact shut unblocked
    | buildUnknown _ accepted => exact shut (accepted.admitted.unblocked rfl)
    | built _ accepted => exact shut (accepted.admitted.unblocked rfl)
    | verified _ admitted => exact shut (admitted.unblocked rfl)
    | publishUnknown _ accepted => exact shut (accepted.admitted.unblocked rfl)
    | externalPublished _ accepted => exact shut (accepted.admitted.unblocked rfl)
    | assetsPublished _ accepted => exact shut (accepted.admitted.unblocked rfl)
    | buildStillUnknown executes _ reconciles => exact reconciled executes reconciles (.inl rfl)
    | publishStillUnknown executes _ reconciles => exact reconciled executes reconciles (.inl rfl)
    | assetsMissing executes _ reconciles => exact reconciled executes reconciles (.inl rfl)
    | buildLate executes _ reconciles => exact reconciled executes reconciles (.inr rfl)
    | buildReconciled executes accepted reconciles =>
      subst executes
      exact reconciled (.buildReconcile accepted.operation) reconciles (.inr rfl)
    | externalReconciled executes _ reconciles => exact reconciled executes reconciles (.inr rfl)
    | assetsReconciled executes _ reconciles => exact reconciled executes reconciles (.inr rfl)

/-- What the store has frozen, staged and written down is still there. -/
structure Lasting (before after : ReleaseStore) : Prop where
  bundleJson : ∀ {json}, before.bundleJson = some json → after.bundleJson = some json
  staged : ∀ {track assets}, before.staged track = some assets → after.staged track = some assets
  legacy : ∀ {checkpoint}, before.legacy = some checkpoint → after.legacy = some checkpoint
  receipts : before.receipts <+: after.receipts

theorem Lasting.refl (store : ReleaseStore) : Lasting store store :=
  ⟨id, id, id, List.prefix_refl _⟩

theorem Lasting.trans {first second third : ReleaseStore} (start : Lasting first second)
    (rest : Lasting second third) : Lasting first third :=
  ⟨rest.bundleJson ∘ start.bundleJson, rest.staged ∘ start.staged, rest.legacy ∘ start.legacy,
    start.receipts.trans rest.receipts⟩

theorem Transition.lasting {result : OperationReceipt}
    (transition : Transition bundle collation store command result after) :
    Lasting store after := by
  have records := transition.records
  refine ⟨?_, records.staged, ?_, records.receipts ▸ List.prefix_append _ _⟩ <;> cases transition
  case refine_1.froze free => exact eq_some_of_free free
  all_goals exact id

theorem ImportChange.lasting {source : Checkpoint}
    (change : ImportChange bundle collation source store after) : Lasting store after := by
  cases change with
  | recorded => exact ⟨id, id, id, List.prefix_append _ _⟩
  | installed _ install =>
    cases install with
    | bundled free => exact ⟨eq_some_of_free free, id, id, List.prefix_refl _⟩
    | marked => exact ⟨id, id, id, List.prefix_refl _⟩
    | controlled => exact ⟨id, id, id, List.prefix_refl _⟩
    | readOnly _ free => exact ⟨id, id, eq_some_of_free free, List.prefix_refl _⟩
    | staged _ stages => exact ⟨id, update_of_free stages.free, id, List.prefix_refl _⟩
    | qualified => exact ⟨id, id, id, List.prefix_append _ _⟩

theorem ImportChanges.lasting {source : Checkpoint}
    (changes : ImportChanges bundle collation source store after) : Lasting store after := by
  induction changes with
  | refl => exact .refl store
  | tail _ change ih => exact ih.trans change.lasting

/-- A command or the import of any checkpoint, completed or not. -/
inductive StoreStep (bundle : ReleaseBundle) (collation : Collation) :
    ReleaseStore → ReleaseStore → Prop where
  | command {store : ReleaseStore} (command : Command) :
      StoreStep bundle collation store (command.run bundle collation store).2
  | imported {store : ReleaseStore} (checkpoint : Checkpoint) :
      StoreStep bundle collation store
        (importReleaseBundleCheckpoint bundle collation checkpoint store).2

theorem StoreStep.lasting (step : StoreStep bundle collation store after) :
    Lasting store after := by
  cases step with
  | command command =>
    rcases ran : command.run bundle collation store with ⟨failure | result, after⟩
    · obtain rfl := command_allOrNothing command failure after ran
      exact .refl after
    · exact (command_transition ran).lasting
  | imported checkpoint =>
    have changes : ImportChanges bundle collation checkpoint store _ := import_changes store
    exact ImportChanges.lasting changes

/-- However a store goes on, its bundle, its staged assets and its receipts stay. -/
theorem records_lasting (steps : ReflTransGen (StoreStep bundle collation) store after) :
    Lasting store after := by
  induction steps with
  | refl => exact .refl store
  | tail _ step ih => exact ih.trans step.lasting

end

/-! ## A build that is not heard of -/

def unheardBuild : ReleaseStore :=
  perform Script.bundle Script.collation
    [Script.freeze, Script.operationAdmit, Script.buildUnknown .standard] .empty

theorem unheardBuild_evaluated :
    (unheardBuild.bundleJson.isSome && unheardBuild.legacy.isNone &&
      (unheardBuild.unknown (.build, .standard)).any fun marker =>
        decide (marker.stageOperation = .build ∧ marker.publicationScope = none) &&
          (unheardBuild.control marker.operationKind).any fun control =>
            control.operationId = marker.operationId) = true := by
  decide +kernel

theorem unheardBuild_resolvable : ∃ marker, unheardBuild.unknown (.build, .standard) = some marker ∧
    Resolvable Script.bundle unheardBuild marker := by
  have evaluated := unheardBuild_evaluated
  simp only [Bool.and_eq_true, Option.any_eq_true, Option.isSome_iff_exists, Option.isNone_iff_eq_none,
    decide_eq_true_eq] at evaluated
  obtain ⟨⟨stored, live⟩, marker, active, ⟨build, scope⟩, control, held, same⟩ := evaluated
  refine ⟨marker, active, stored, live, ⟨control, held, same⟩, ?_, ?_⟩
  · simp [build]
  · simp [scope]

theorem unknown_outcome_blocks_admission : ∃ marker,
    unheardBuild.unknown (.build, .standard) = some marker ∧
      Blocked unheardBuild marker Script.operationAdmit
        (Script.operationAdmit.run Script.bundle Script.collation unheardBuild).1
        (Script.operationAdmit.run Script.bundle Script.collation unheardBuild).2 := by
  obtain ⟨marker, active, -⟩ := unheardBuild_resolvable
  exact ⟨marker, active, (unknown_outcome_blocks (reachable_perform _) active rfl).2⟩

theorem records_lasting_build : Lasting unheardBuild
    ((Script.reconcileBuild .standard).run Script.bundle Script.collation unheardBuild).2 :=
  records_lasting (.single (.command _))

end OnePersonLab.Release

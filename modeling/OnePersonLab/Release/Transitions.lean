import OnePersonLab.Release.Acceptance

/-!
# What an operation does to the store

Every command that returns has made one of a few changes to the store, under the
facts that its checks established; a command that throws has changed nothing.
-/

namespace OnePersonLab.Release

open Contract Lib

/-! ## Commands -/

inductive Command where
  | freeze (json : String)
  | operationAdmit (invocation : OperationInvocation)
  | build (files : LocalFiles) (invocation : OperationInvocation) (receipt : ExecutorReceipt)
  | verify (invocation : OperationInvocation) (qualification : QualificationReceipt)
      (track : Option Track)
  | publish (invocation : OperationInvocation) (receipt : ExecutorReceipt)
  | reconcile (files : LocalFiles) (invocation : OperationInvocation) (receipt : ExecutorReceipt)

def Command.run (bundle : ReleaseBundle) (collation : Collation) :
    Command → StoreProgram OperationReceipt
  | .freeze json => freezeReleaseBundle json
  | .operationAdmit invocation => admitReleaseBundleOperation bundle invocation
  | .build files invocation receipt =>
    buildReleaseBundle bundle collation files invocation receipt
  | .verify invocation qualification track =>
    verifyReleaseBundle bundle invocation qualification track
  | .publish invocation receipt => publishReleaseBundle bundle collation invocation receipt
  | .reconcile files invocation receipt =>
    reconcileReleaseBundle bundle collation files invocation receipt

/-- The receipts that a command hands in for a stage. -/
inductive Command.Executes :
    Command → OperationInvocation → ExecutorReceipt → Bool → StageOperation → Prop where
  | build {files invocation receipt} :
      Command.Executes (.build files invocation receipt) invocation receipt false .build
  | publish {invocation receipt} :
      Command.Executes (.publish invocation receipt) invocation receipt false .publish
  | buildReconcile {files invocation receipt} (kind : receipt.operation = .build) :
      Command.Executes (.reconcile files invocation receipt) invocation receipt true .build
  | publishReconcile {files invocation receipt} (kind : receipt.operation = .remoteInspect) :
      Command.Executes (.reconcile files invocation receipt) invocation receipt true .publish

/-- The executor receipts of a stage. -/
def StageOperation.executorOperation : StageOperation → ExecutorOperation
  | .build => .build
  | .publish => .remoteInspect

/-! ## Transitions -/

section

variable (bundle : ReleaseBundle) (collation : Collation)

/-- How a new control may come into its slot. -/
def Admits (store : ReleaseStore) (invocation : OperationInvocation)
    (candidate : OperationControl) : Prop :=
  match store.control candidate.operationKind with
  | none => invocation.releaseOperation ≠ .resumeStandard ∧
      (candidate.operationKind = .appendFull →
        assertAppendFullAdmission store bundle candidate = .ok ())
  | some current => current ≠ candidate ∧
      (invocation.releaseOperation = .resumeStandard ∧
          assertResumeWindowRotation current candidate invocation.now = .ok () ∨
        invocation.releaseOperation = .appendFull ∧
          assertExpiredFullReplacement store bundle current candidate invocation.now = .ok ())

/-- What a command that returned has done. -/
inductive Transition (store : ReleaseStore) :
    Command → OperationReceipt → ReleaseStore → Prop where
  | froze {json status} (free : Free store.bundleJson json) :
      Transition store (.freeze json) { operation := .freeze, status := status }
        ((store.withBundle json).record { operation := .freeze, status := status })
  | admitted {invocation candidate} (stored : ∃ json, store.bundleJson = some json)
      (live : store.legacy = none) (unblocked : ∀ slot, store.unknown slot = none)
      (names : Names bundle invocation candidate)
      (active : releaseBundleOperationDeadlineElapsed candidate invocation.now = false)
      (admits : Admits bundle store invocation candidate) :
      Transition store (.operationAdmit invocation) (admissionReceipt invocation candidate .complete)
        ((store.setControl candidate).record (admissionReceipt invocation candidate .complete))
  | readmitted {invocation current} (stored : ∃ json, store.bundleJson = some json)
      (live : store.legacy = none) (unblocked : ∀ slot, store.unknown slot = none)
      (names : Names bundle invocation current)
      (held : store.control current.operationKind = some current)
      (active : releaseBundleOperationDeadlineElapsed current invocation.now = false) :
      Transition store (.operationAdmit invocation) (admissionReceipt invocation current .idempotent)
        (store.record (admissionReceipt invocation current .idempotent))
  | buildUnknown {command invocation receipt binding control result}
      (executes : command.Executes invocation receipt false .build)
      (accepted : Accepted bundle store invocation receipt false .build binding control)
      (unknown : receipt.outcome = .unknown)
      (recorded : result = executorOperationReceipt .build .reconcileOnly receipt invocation control
        (some (freshMarker receipt binding invocation .build))
        { resolvedOperation := some .build, stageAdvanced := some false }) :
      Transition store command result
        ((store.mark (freshMarker receipt binding invocation .build)).record result)
  | buildStillUnknown {command invocation receipt binding control marker result}
      (executes : command.Executes invocation receipt true .build)
      (accepted : Accepted bundle store invocation receipt true .build binding control)
      (reconciles : Reconciles store receipt binding invocation .build marker)
      (unknown : receipt.outcome = .unknown)
      (recorded : result = executorOperationReceipt .reconcile .reconcileOnly receipt invocation
        control (some marker)
        { resolvedOperation := some .build, stageAdvanced := some false }) :
      Transition store command result (store.record result)
  | buildLate {command invocation receipt binding control marker result}
      (executes : command.Executes invocation receipt true .build)
      (accepted : Accepted bundle store invocation receipt true .build binding control)
      (reconciles : Reconciles store receipt binding invocation .build marker)
      (observed : receipt.outcome ≠ .unknown)
      (late : releaseBundleOperationDeadlineElapsed control invocation.now = true)
      (recorded : result = executorOperationReceipt .reconcile .lateObservation receipt invocation
        control (some marker)
        { resolvedOperation := some .build
          observedAssets := receipt.assets
          stageAdvanced := some false }) :
      Transition store command result ((store.record result).unmark marker)
  | built {command files invocation receipt binding control staged result}
      (executes : command = .build files invocation receipt)
      (accepted : Accepted bundle store invocation receipt false .build binding control)
      (observed : receipt.outcome ≠ .unknown)
      (stages : Stages bundle collation store (fun asset => asset.path.bind files) receipt.track
        receipt.assets staged)
      (recorded : result = executorOperationReceipt .build staged.status receipt invocation control
        none { resolvedOperation := some .build
               assets := staged.assets
               stageAdvanced := some true }) :
      Transition store command result ((store.stage receipt.track staged.assets).record result)
  | buildReconciled {command files invocation receipt binding control marker staged result}
      (executes : command = .reconcile files invocation receipt)
      (accepted : Accepted bundle store invocation receipt true .build binding control)
      (reconciles : Reconciles store receipt binding invocation .build marker)
      (observed : receipt.outcome ≠ .unknown)
      (stages : Stages bundle collation store (fun asset => asset.path.bind files) receipt.track
        receipt.assets staged)
      (timely : releaseBundleOperationDeadlineElapsed control invocation.now = false)
      (recorded : result = executorOperationReceipt .reconcile staged.status receipt invocation
        control (some marker) { resolvedOperation := some .build
                                assets := staged.assets
                                stageAdvanced := some true }) :
      Transition store command result
        (((store.stage receipt.track staged.assets).record result).unmark marker)
  | verified {invocation qualification requested control staged status result}
      (stored : ∃ json, store.bundleJson = some json)
      (admitted : Admitted bundle store invocation false control)
      (allowed : qualification.track ∈ releaseBundleOperationTracks invocation.releaseOperation)
      (held : store.staged qualification.track = some staged)
      (qualifies : Qualifies bundle staged qualification)
      (settled : status = .idempotent ∨ status = .complete)
      (recorded : result = { operation := .verify, status := status
                             track := some qualification.track
                             releaseOperation := some invocation.releaseOperation
                             operationControl := some control
                             details := { assets := staged
                                          qualification := some qualification
                                          stageAdvanced := some true } }) :
      Transition store (.verify invocation qualification requested) result (store.record result)
  | publishUnknown {command invocation receipt binding control staged confirmed result}
      (executes : command.Executes invocation receipt false .publish)
      (accepted : Accepted bundle store invocation receipt false .remoteInspect binding control)
      (publishable : Publishable bundle store receipt.track receipt.scope none false staged
        confirmed)
      (unknown : receipt.outcome = .unknown)
      (recorded : result = executorOperationReceipt .publish .reconcileOnly receipt invocation
        control (some (freshMarker receipt binding invocation .publish))
        (publicationDetails receipt.scope binding
          (receipt.scope = .externalTarget && confirmed) false)) :
      Transition store command result
        ((store.mark (freshMarker receipt binding invocation .publish)).record result)
  | publishStillUnknown {command invocation receipt binding control marker staged confirmed result}
      (executes : command.Executes invocation receipt true .publish)
      (accepted : Accepted bundle store invocation receipt true .remoteInspect binding control)
      (reconciles : Reconciles store receipt binding invocation .publish marker)
      (publishable : Publishable bundle store receipt.track receipt.scope (some marker) true staged
        confirmed)
      (unknown : receipt.outcome = .unknown)
      (recorded : result = executorOperationReceipt .reconcile .reconcileOnly receipt invocation
        control (some marker)
        (publicationDetails receipt.scope binding
          (receipt.scope = .externalTarget && confirmed) false)) :
      Transition store command result (store.record result)
  | externalPublished {command invocation receipt binding control staged confirmed result}
      (executes : command.Executes invocation receipt false .publish)
      (accepted : Accepted bundle store invocation receipt false .remoteInspect binding control)
      (publishable : Publishable bundle store receipt.track receipt.scope none false staged
        confirmed)
      (observed : receipt.outcome ≠ .unknown) (external : receipt.scope = .externalTarget)
      (recorded : result = executorOperationReceipt .publish .complete receipt invocation control
        none (publicationDetails .externalTarget binding confirmed true)) :
      Transition store command result
        ((store.record result).clearOperation .reconcile (some receipt.track))
  | externalReconciled {command invocation receipt binding control marker staged confirmed status
        result}
      (executes : command.Executes invocation receipt true .publish)
      (accepted : Accepted bundle store invocation receipt true .remoteInspect binding control)
      (reconciles : Reconciles store receipt binding invocation .publish marker)
      (publishable : Publishable bundle store receipt.track receipt.scope (some marker) true staged
        confirmed)
      (observed : receipt.outcome ≠ .unknown) (external : receipt.scope = .externalTarget)
      (timed : status =
        if releaseBundleOperationDeadlineElapsed control invocation.now then .lateObservation
        else .complete)
      (recorded : result = executorOperationReceipt .reconcile status receipt invocation control
        (some marker) (publicationDetails .externalTarget binding confirmed
          (!releaseBundleOperationDeadlineElapsed control invocation.now))) :
      Transition store command result ((store.record result).unmark marker)
  | assetsMissing {command invocation receipt binding control marker staged confirmed missing
        result}
      (executes : command.Executes invocation receipt true .publish)
      (accepted : Accepted bundle store invocation receipt true .remoteInspect binding control)
      (reconciles : Reconciles store receipt binding invocation .publish marker)
      (publishable : Publishable bundle store receipt.track receipt.scope (some marker) true staged
        confirmed)
      (observed : receipt.outcome ≠ .unknown) (assets : receipt.scope = .trackAssets)
      (compared : uploadActions collation staged receipt.assets = .ok missing)
      (incomplete : missing ≠ [])
      (recorded : result = executorOperationReceipt .reconcile .reconcileOnly receipt invocation
        control (some marker)
        { publicationDetails .trackAssets binding false false with
          observedMissingAssets := missing.map AssetIdentity.name }) :
      Transition store command result (store.record result)
  | assetsPublished {command invocation receipt binding control staged confirmed missing status
        result}
      (executes : command.Executes invocation receipt false .publish)
      (accepted : Accepted bundle store invocation receipt false .remoteInspect binding control)
      (publishable : Publishable bundle store receipt.track receipt.scope none false staged
        confirmed)
      (observed : receipt.outcome ≠ .unknown) (assets : receipt.scope = .trackAssets)
      (compared : uploadActions collation staged receipt.assets = .ok missing)
      (judged : status = if missing ≠ [] then .uploadRequired else .complete)
      (recorded : result = executorOperationReceipt .publish status receipt invocation control none
        { publicationDetails .trackAssets binding (status = .complete) true with
          uploadActions := missing }) :
      Transition store command result
        ((store.record result).clearOperation .reconcile (some receipt.track))
  | assetsReconciled {command invocation receipt binding control marker staged confirmed status
        result}
      (executes : command.Executes invocation receipt true .publish)
      (accepted : Accepted bundle store invocation receipt true .remoteInspect binding control)
      (reconciles : Reconciles store receipt binding invocation .publish marker)
      (publishable : Publishable bundle store receipt.track receipt.scope (some marker) true staged
        confirmed)
      (observed : receipt.outcome ≠ .unknown) (assets : receipt.scope = .trackAssets)
      (compared : uploadActions collation staged receipt.assets = .ok [])
      (timed : status =
        if releaseBundleOperationDeadlineElapsed control invocation.now then .lateObservation
        else .complete)
      (recorded : result = executorOperationReceipt .reconcile status receipt invocation control
        (some marker) (publicationDetails .trackAssets binding (status = .complete)
          (!releaseBundleOperationDeadlineElapsed control invocation.now))) :
      Transition store command result ((store.record result).unmark marker)

end

/-! ## Every command that returns has made its transition -/

section

variable {bundle : ReleaseBundle} {collation : Collation} {store after : ReleaseStore}
  {invocation : OperationInvocation} {receipt : ExecutorReceipt} {result : OperationReceipt}

variable {binding : ExecutorBinding} {checked : Unit} {stage : StageOperation} {files : LocalFiles}
  {current replacement : OperationControl}

theorem accepted_of_checks {json : String} {reconcile : Bool} {operation : ExecutorOperation}
    {required : RequiredOperation} (stored : readStoredReleaseBundle store = .ok json)
    (wellFormed : readExecutorReceipt receipt = .ok receipt)
    (bound : assertExecutorBinding bundle receipt operation = .ok checked)
    (identity : assertExecutorOperationBinding receipt invocation = .ok binding)
    (admitted : requireReleaseBundleOperation store bundle invocation reconcile = .ok required)
    (fresh : reconcile = false → binding.priorAttemptId = none) :
    Accepted bundle store invocation receipt reconcile operation binding required.control := by
  simp only [assertExecutorBinding, bind_eq_ok, ensure_eq_ok] at bound
  obtain ⟨_, digest, kind⟩ := bound
  obtain ⟨held, ⟨releaseOperation, operationId⟩, track⟩ :=
    assertExecutorOperationBinding_eq_ok.1 identity
  exact {
    stored := ⟨json, readStoredReleaseBundle_eq_ok.1 stored⟩
    wellFormed := wellFormed
    bundleDigest := digest
    operation := kind
    bound := held
    releaseOperation := releaseOperation
    operationId := operationId
    track := track
    admitted := (admitted_of_require admitted).1
    fresh := fresh }

@[simp]
theorem record_bind {α : Type} (receipt : OperationReceipt) (next : Unit → StoreProgram α)
    (store : ReleaseStore) :
    (recordReleaseBundleOperation receipt >>= next) store = next () (store.record receipt) := rfl

@[simp]
theorem clearOperation_bind {α : Type} (operation : ReceiptOperation) (track : Option Track)
    (next : Unit → StoreProgram α) (store : ReleaseStore) :
    (clearReleaseBundleOperation operation track >>= next) store =
      next () (store.clearOperation operation track) := rfl

/-- A command that cannot tell how it ended leaves its marker. -/
theorem mark_fresh
    (allowed : receipt.track ∈ releaseBundleOperationTracks invocation.releaseOperation)
    (free : store.unknown (stage, receipt.track) = none) :
    markUnlessReconcile false (freshMarker receipt binding invocation stage) store =
      (.ok (), store.mark (freshMarker receipt binding invocation stage)) := by
  obtain ⟨status, marked⟩ := recordReleaseBundleUnknownOutcome_of_free
    (assertUnknownOutcomeMarker_fresh allowed) (.inl free)
  simp only [markUnlessReconcile, Bool.false_eq_true, if_false]
  rw [Writes.bind_of_ok marked]
  rfl

/-- A reconcile clears its marker, also after it has staged and recorded. -/
theorem clear_reconciled {marker : UnknownOutcomeMarker} {written : ReleaseStore}
    (reconciles : Reconciles store receipt binding invocation stage marker)
    (allowed : receipt.track ∈ releaseBundleOperationTracks invocation.releaseOperation)
    (kept : written.unknown = store.unknown) :
    clearReleaseBundleUnknownOutcomeExact marker written = (.ok (), written.unmark marker) := by
  apply clearReleaseBundleUnknownOutcomeExact_of_active
  · exact assertUnknownOutcomeMarker_matched reconciles.same allowed
  · rw [kept, reconciles.same.stageOperation, reconciles.same.track]
    exact reconciles.active

theorem settle_reconcile {marker : UnknownOutcomeMarker} {written : ReleaseStore}
    (reconciles : Reconciles store receipt binding invocation stage marker)
    (allowed : receipt.track ∈ releaseBundleOperationTracks invocation.releaseOperation)
    (kept : written.unknown = store.unknown) :
    (recordReleaseBundleOperation result >>= fun _ =>
      clearReconciled (some marker) >>= fun _ => pure result) written =
      (.ok result, (written.record result).unmark marker) := by
  have still : (written.record result).unknown = store.unknown := kept
  rw [record_bind, clearReconciled, Writes.bind_of_ok (clear_reconciled reconciles allowed still)]
  rfl

theorem build_transition
    (ran : buildReleaseBundle bundle collation files invocation receipt store = (.ok result, after))
    :
    Transition bundle collation store (.build files invocation receipt) result after := by
  simp only [buildReleaseBundle, buildWithReceipt, Writes.read_bind, Writes.lift_bind_eq_ok,
    reconcileMarker_eq_ok, Bool.false_eq_true, false_and, or_false, true_and,
    ensure_eq_ok] at ran
  obtain ⟨_, stored, read, wellFormed, _, bound, binding, identity, operation, required,
    marker, rfl, _, fresh, ran⟩ := ran
  obtain rfl := readExecutorReceipt_eq wellFormed
  have accepted := accepted_of_checks stored wellFormed bound identity required
    fun _ => fresh trivial
  by_cases unknown : read.outcome = .unknown
  · simp only [unknown, if_true, Writes.lift_bind_eq_ok, activeMarkerOf,
      unknownMarker_eq_ok] at ran
    obtain ⟨_, ⟨-, rfl⟩, ran⟩ := ran
    rw [Writes.bind_of_ok (mark_fresh accepted.track (accepted.admitted.unblocked rfl _))] at ran
    simp only [record_bind, Writes.pure_apply, Prod.mk.injEq, Except.ok.injEq] at ran
    obtain ⟨rfl, rfl⟩ := ran
    exact .buildUnknown .build accepted unknown rfl
  · simp only [unknown, if_false] at ran
    obtain ⟨staged, _, staging, ran⟩ := Writes.bind_eq_ok.1 ran
    obtain ⟨stages, rfl⟩ := stageReleaseBundleAssets_eq_ok.1 staging
    simp only [record_bind, clearReconciled, Writes.pure_bind_apply, Writes.pure_apply,
      Prod.mk.injEq, Except.ok.injEq] at ran
    obtain ⟨rfl, rfl⟩ := ran
    exact .built rfl accepted unknown stages rfl

theorem buildReconcile_transition
    (ran : buildWithReceipt bundle collation files invocation receipt true store =
      (.ok result, after)) :
    Transition bundle collation store (.reconcile files invocation receipt) result after := by
  simp only [buildWithReceipt, Writes.read_bind, Writes.lift_bind_eq_ok,
    reconcileMarker_eq_ok, Bool.true_eq_false, false_and, false_or, true_and, false_implies,
    ensure_eq_ok] at ran
  obtain ⟨_, stored, read, wellFormed, _, bound, binding, identity, operation, required,
    _, ⟨marker, rfl, reconciles⟩, _, ran⟩ := ran
  obtain rfl := readExecutorReceipt_eq wellFormed
  have accepted := accepted_of_checks stored wellFormed bound identity required (by simp)
  have elapsed := (admitted_of_require required).2
  have executes : (Command.reconcile files invocation read).Executes invocation read true .build :=
    .buildReconcile accepted.operation
  by_cases unknown : read.outcome = .unknown
  · simp only [unknown, if_true, activeMarkerOf, markUnlessReconcile, Writes.lift_bind_eq_ok,
      Writes.pure_bind_apply, record_bind, Writes.pure_apply, Prod.mk.injEq, Except.ok.injEq] at ran
    obtain ⟨_, rfl, ran⟩ := ran
    obtain ⟨rfl, rfl⟩ := ran
    exact .buildStillUnknown executes accepted reconciles unknown rfl
  by_cases late : operation.deadlineElapsed = true
  · simp only [unknown, late, if_true, if_false] at ran
    rw [settle_reconcile reconciles accepted.track rfl] at ran
    simp only [Prod.mk.injEq, Except.ok.injEq] at ran
    obtain ⟨rfl, rfl⟩ := ran
    exact .buildLate executes accepted reconciles unknown (elapsed ▸ late) rfl
  · simp only [unknown, late, if_false] at ran
    obtain ⟨staged, _, staging, ran⟩ := Writes.bind_eq_ok.1 ran
    obtain ⟨stages, rfl⟩ := stageReleaseBundleAssets_eq_ok.1 staging
    rw [settle_reconcile reconciles accepted.track] at ran
    · simp only [Prod.mk.injEq, Except.ok.injEq] at ran
      obtain ⟨rfl, rfl⟩ := ran
      have timely : releaseBundleOperationDeadlineElapsed operation.control invocation.now =
          false := by
        rw [← elapsed]
        simpa using late
      exact .buildReconciled rfl accepted reconciles unknown stages timely rfl
    · rfl

theorem publish_transition
    (ran : publishReleaseBundle bundle collation invocation receipt store = (.ok result, after)) :
    Transition bundle collation store (.publish invocation receipt) result after := by
  simp only [publishReleaseBundle, publishWithReceipt, Writes.read_bind,
    Writes.lift_bind_eq_ok] at ran
  obtain ⟨_, stored, read, wellFormed, _, bound, binding, identity, operation, required, ran⟩ := ran
  obtain rfl := readExecutorReceipt_eq wellFormed
  have accepted (fresh : false = false → binding.priorAttemptId = none) :=
    accepted_of_checks stored wellFormed bound identity required fresh
  cases held : store.staged read.track with
  | none => simp [held] at ran
  | some staged =>
    simp only [held, Writes.lift_bind_eq_ok, reconcileMarker_eq_ok, Bool.false_eq_true, false_and,
      or_false, true_and] at ran
    obtain ⟨_, rfl, _, passed, _, fresh, ran⟩ := ran
    rw [ensure_eq_ok] at fresh
    have publishable := publishable_of_checks held rfl passed
    have accepted := accepted fun _ => fresh trivial
    generalize (trackAssetsConfirmed (latestPublicationState store read.track) || _) = confirmed
      at publishable ran
    by_cases unknown : read.outcome = .unknown
    · simp only [unknown, if_true, Writes.lift_bind_eq_ok, activeMarkerOf,
        unknownMarker_eq_ok] at ran
      obtain ⟨_, ⟨-, rfl⟩, ran⟩ := ran
      rw [Writes.bind_of_ok (mark_fresh accepted.track (accepted.admitted.unblocked rfl _))] at ran
      simp only [record_bind, Writes.pure_apply, Prod.mk.injEq, Except.ok.injEq] at ran
      obtain ⟨rfl, rfl⟩ := ran
      exact .publishUnknown .publish accepted publishable unknown rfl
    cases scope : read.scope with
    | externalTarget =>
      simp only [unknown, scope, if_true, if_false, Bool.false_and, Bool.false_eq_true, record_bind,
        clearReconciled, Writes.pure_bind_apply, clearOperation_bind, Writes.pure_apply,
        Prod.mk.injEq, Except.ok.injEq] at ran
      obtain ⟨rfl, rfl⟩ := ran
      exact .externalPublished .publish accepted publishable unknown scope rfl
    | trackAssets =>
      simp only [unknown, scope, if_false, reduceCtorEq, Writes.lift_bind_eq_ok] at ran
      obtain ⟨missing, compared, ran⟩ := ran
      simp only [Bool.false_and, Bool.false_eq_true, if_true, if_false, record_bind,
        clearReconciled, Writes.pure_bind_apply, clearOperation_bind, Writes.pure_apply,
        Prod.mk.injEq, Except.ok.injEq] at ran
      obtain ⟨rfl, rfl⟩ := ran
      exact .assetsPublished .publish accepted publishable unknown scope compared rfl rfl

theorem publishReconcile_transition
    (ran : publishWithReceipt bundle collation invocation receipt true store =
      (.ok result, after)) :
    Transition bundle collation store (.reconcile files invocation receipt) result after := by
  simp only [publishWithReceipt, Writes.read_bind, Writes.lift_bind_eq_ok] at ran
  obtain ⟨_, stored, read, wellFormed, _, bound, binding, identity, operation, required, ran⟩ := ran
  obtain rfl := readExecutorReceipt_eq wellFormed
  have accepted := accepted_of_checks stored wellFormed bound identity required (by simp)
  have elapsed := (admitted_of_require required).2
  have executes :
      (Command.reconcile files invocation read).Executes invocation read true .publish :=
    .publishReconcile accepted.operation
  cases held : store.staged read.track with
  | none => simp [held] at ran
  | some staged =>
    simp only [held, Writes.lift_bind_eq_ok, reconcileMarker_eq_ok, Bool.true_eq_false, false_and,
      false_or, true_and] at ran
    obtain ⟨_, ⟨marker, rfl, reconciles⟩, _, passed, _, -, ran⟩ := ran
    have publishable := publishable_of_checks held rfl passed
    generalize (trackAssetsConfirmed (latestPublicationState store read.track) || _) = confirmed
      at publishable ran
    by_cases unknown : read.outcome = .unknown
    · simp only [unknown, if_true, Writes.lift_bind_eq_ok, activeMarkerOf, markUnlessReconcile,
        Writes.pure_bind_apply, record_bind, Writes.pure_apply, Prod.mk.injEq,
        Except.ok.injEq] at ran
      obtain ⟨_, rfl, rfl, rfl⟩ := ran
      exact .publishStillUnknown executes accepted reconciles publishable unknown rfl
    cases scope : read.scope with
    | externalTarget =>
      simp only [unknown, scope, if_true, if_false, Bool.true_and, elapsed] at ran
      rw [settle_reconcile reconciles accepted.track rfl] at ran
      simp only [Prod.mk.injEq, Except.ok.injEq] at ran
      obtain ⟨rfl, rfl⟩ := ran
      exact .externalReconciled executes accepted reconciles publishable unknown scope rfl
        rfl
    | trackAssets =>
      simp only [unknown, scope, if_false, reduceCtorEq, Writes.lift_bind_eq_ok] at ran
      obtain ⟨missing, compared, ran⟩ := ran
      by_cases incomplete : missing = []
      · subst incomplete
        simp only [ne_eq, not_true_eq_false, if_false, Bool.true_and, elapsed] at ran
        rw [settle_reconcile reconciles accepted.track rfl] at ran
        simp only [Prod.mk.injEq, Except.ok.injEq] at ran
        obtain ⟨rfl, rfl⟩ := ran
        exact .assetsReconciled executes accepted reconciles publishable unknown scope compared
          rfl rfl
      · simp only [ne_eq, incomplete, not_false_eq_true, if_true, record_bind,
          Writes.pure_apply, Prod.mk.injEq, Except.ok.injEq] at ran
        obtain ⟨rfl, rfl⟩ := ran
        exact .assetsMissing executes accepted reconciles publishable unknown scope compared
          incomplete rfl

theorem freeze_transition {json : String}
    (ran : freezeReleaseBundle json store = (.ok result, after)) :
    Transition bundle collation store (.freeze json) result after := by
  simp only [freezeReleaseBundle, installFrozenReleaseBundle] at ran
  obtain ⟨status, _, installing, ran⟩ := Writes.bind_eq_ok.1 ran
  simp only [Writes.read_bind, Writes.lift_bind_eq_ok, Writes.change_bind, Writes.pure_apply,
    Prod.mk.injEq, Except.ok.injEq] at installing
  obtain ⟨_, installed, rfl, rfl⟩ := installing
  simp only [record_bind, Writes.pure_apply, Prod.mk.injEq, Except.ok.injEq] at ran
  obtain ⟨rfl, rfl⟩ := ran
  exact .froze (free_of_installImmutableBytes installed)

theorem verify_transition {qualification : QualificationReceipt} {requested : Option Track}
    (ran : verifyReleaseBundle bundle invocation qualification requested store =
      (.ok result, after)) :
    Transition bundle collation store (.verify invocation qualification requested) result after := by
  simp only [verifyReleaseBundle, assertReleaseBundleOperationTrack, Writes.read_bind,
    Writes.lift_bind_eq_ok, ensure_eq_ok] at ran
  obtain ⟨json, stored, operation, required, _, allowed, _, same, ran⟩ := ran
  rw [← same] at allowed ran
  cases held : store.staged qualification.track with
  | none => simp [held] at ran
  | some staged =>
    simp only [held, Writes.lift_bind_eq_ok, assertQualificationBinding_eq_ok, record_bind,
      Writes.pure_apply, Prod.mk.injEq, Except.ok.injEq] at ran
    obtain ⟨_, qualifies, rfl, rfl⟩ := ran
    exact .verified ⟨json, readStoredReleaseBundle_eq_ok.1 stored⟩ (admitted_of_require required).1
      allowed held qualifies (ite_eq_or_eq _ _ _) rfl

/-- A candidate is installed into a free slot. -/
theorem install_candidate {candidate : OperationControl} {status : InstallStatus}
    {mid : ReleaseStore}
    (installing : installReleaseBundleOperationControl candidate store = (.ok status, mid)) :
    Free (store.control candidate.operationKind) candidate ∧ mid = store.setControl candidate ∧
      (store.control candidate.operationKind = none → status = .created) := by
  simp only [installReleaseBundleOperationControl, Writes.lift_bind_eq_ok, Writes.read_bind,
    Writes.change_bind, Writes.pure_apply, Prod.mk.injEq, Except.ok.injEq] at installing
  obtain ⟨_, -, _, installed, rfl, rfl⟩ := installing
  refine ⟨free_of_installImmutableBytes installed, rfl, ?_⟩
  intro absent
  rw [absent] at installed
  exact (Except.ok.inj installed).symm

theorem replace_control {mid : ReleaseStore} {done : Unit}
    (replacing : replaceReleaseBundleOperationControl current replacement store = (.ok done, mid)) :
    mid = store.setControl replacement := by
  simp only [replaceReleaseBundleOperationControl, Writes.lift_bind_eq_ok, Writes.read_bind,
    Writes.change_apply, Prod.mk.injEq] at replacing
  obtain ⟨_, -, _, -, _, -, _, -, -, rfl⟩ := replacing
  rfl

theorem active_of_rotation {now : Int}
    (rotates : assertResumeWindowRotation current replacement now = .ok checked) :
    releaseBundleOperationDeadlineElapsed replacement now = false := by
  simp only [assertResumeWindowRotation, bind_eq_ok, ensure_eq_ok] at rotates
  obtain ⟨_, -, _, -, _, -, still⟩ := rotates
  simpa [releaseBundleOperationDeadlineElapsed] using still

theorem active_of_replacement {now : Int}
    (replaces : assertExpiredFullReplacement store bundle current replacement now = .ok checked) :
    releaseBundleOperationDeadlineElapsed replacement now = false := by
  simp only [assertExpiredFullReplacement, bind_eq_ok, ensure_eq_ok] at replaces
  obtain ⟨_, -, _, -, _, ⟨-, -, still⟩, -⟩ := replaces
  simpa [releaseBundleOperationDeadlineElapsed] using still

theorem admit_transition
    (ran : admitReleaseBundleOperation bundle invocation store = (.ok result, after)) :
    Transition bundle collation store (.operationAdmit invocation) result after := by
  simp only [admitReleaseBundleOperation, assertLiveCompatible, assertNoActiveUnknownOutcome,
    Writes.read_bind, Writes.lift_bind_eq_ok, ensure_eq_ok,
    listReleaseBundleUnknownOutcomes_eq_nil] at ran
  obtain ⟨json, stored, _, live, _, unblocked, candidate, named, ran⟩ := ran
  have stored : ∃ json, store.bundleJson = some json :=
    ⟨json, readStoredReleaseBundle_eq_ok.1 stored⟩
  have names := (candidateControl_eq_ok.1 named).1
  cases held : store.control (canonicalReleaseBundleOperation invocation.releaseOperation) with
  | none =>
    simp only [held, assertDeadlineActive, Writes.lift_bind_eq_ok, ensure_eq_ok] at ran
    obtain ⟨_, fresh, _, admission, _, active, ran⟩ := ran
    obtain ⟨status, _, installing, ran⟩ := Writes.bind_eq_ok.1 ran
    rw [← names.operationKind] at held admission
    obtain ⟨-, rfl, created⟩ := install_candidate installing
    simp only [created held, reduceCtorEq, if_false, record_bind, Writes.pure_apply, Prod.mk.injEq,
      Except.ok.injEq] at ran
    obtain ⟨rfl, rfl⟩ := ran
    refine .admitted stored live unblocked names active ?_
    rw [Admits, held]
    refine ⟨fresh, fun kind => ?_⟩
    rw [if_pos kind] at admission
    exact admission
  | some current =>
    simp only [held] at ran
    rw [← names.operationKind] at held
    by_cases resumed : invocation.releaseOperation = .resumeStandard ∧ current ≠ candidate
    · rw [if_pos resumed, Writes.lift_bind_eq_ok] at ran
      obtain ⟨_, rotates, ran⟩ := ran
      obtain ⟨_, _, replacing, ran⟩ := Writes.bind_eq_ok.1 ran
      obtain rfl := replace_control replacing
      simp only [record_bind, Writes.pure_apply, Prod.mk.injEq, Except.ok.injEq] at ran
      obtain ⟨rfl, rfl⟩ := ran
      refine .admitted stored live unblocked names (active_of_rotation rotates) ?_
      rw [Admits, held]
      exact ⟨resumed.2, .inl ⟨resumed.1, rotates⟩⟩
    rw [if_neg resumed] at ran
    by_cases replaced : invocation.releaseOperation = .appendFull ∧ current ≠ candidate
    · rw [if_pos replaced, Writes.lift_bind_eq_ok] at ran
      obtain ⟨_, replaces, ran⟩ := ran
      obtain ⟨_, _, replacing, ran⟩ := Writes.bind_eq_ok.1 ran
      obtain rfl := replace_control replacing
      simp only [record_bind, Writes.pure_apply, Prod.mk.injEq, Except.ok.injEq] at ran
      obtain ⟨rfl, rfl⟩ := ran
      refine .admitted stored live unblocked names (active_of_replacement replaces) ?_
      rw [Admits, held]
      exact ⟨replaced.2, .inr ⟨replaced.1, replaces⟩⟩
    · rw [if_neg replaced] at ran
      simp only [assertExactControl, assertDeadlineActive, Writes.lift_bind_eq_ok, ensure_eq_ok,
        record_bind, Writes.pure_apply, Prod.mk.injEq, Except.ok.injEq] at ran
      obtain ⟨_, rfl, _, active, rfl, rfl⟩ := ran
      exact .readmitted stored live unblocked names held active

/-- A command that returns has made one of the transitions. -/
theorem command_transition {command : Command}
    (ran : command.run bundle collation store = (.ok result, after)) :
    Transition bundle collation store command result after := by
  cases command with
  | freeze json => exact freeze_transition ran
  | operationAdmit invocation => exact admit_transition ran
  | build files invocation receipt => exact build_transition ran
  | verify invocation qualification requested => exact verify_transition ran
  | publish invocation receipt => exact publish_transition ran
  | reconcile files invocation receipt =>
    cases kind : receipt.operation with
    | build =>
      rw [Command.run, reconcileReleaseBundle, kind] at ran
      exact buildReconcile_transition ran
    | remoteInspect =>
      rw [Command.run, reconcileReleaseBundle, kind] at ran
      exact publishReconcile_transition ran

end

/-! ## A command that throws has changed nothing -/

section

open Writes (AllOrNothing Succeeds)

variable {bundle : ReleaseBundle} {collation : Collation} {store : ReleaseStore}
  {invocation : OperationInvocation} {receipt : ExecutorReceipt}

variable {reconcile : Bool}

theorem succeeds_clear {binding : ExecutorBinding} {stage : StageOperation}
    {marker : Option UnknownOutcomeMarker} {written : ReleaseStore} {α : Type}
    {next : Unit → StoreProgram α}
    (known : reconcileMarker store receipt binding invocation stage reconcile = .ok marker)
    (allowed : receipt.track ∈ releaseBundleOperationTracks invocation.releaseOperation)
    (kept : written.unknown = store.unknown) (rest : ∀ mid, Succeeds mid (next ())) :
    Succeeds written (clearReconciled marker >>= next) := by
  rcases reconcileMarker_eq_ok.1 known with ⟨-, rfl⟩ | ⟨-, active, rfl, reconciles⟩
  · exact rest written
  · exact Succeeds.bind (clear_reconciled reconciles allowed kept) (rest _)

theorem succeeds_mark {binding : ExecutorBinding} {stage : StageOperation}
    {marker : Option UnknownOutcomeMarker} {active : UnknownOutcomeMarker} {α : Type}
    {next : Unit → StoreProgram α}
    (known : reconcileMarker store receipt binding invocation stage reconcile = .ok marker)
    (chosen : activeMarkerOf receipt binding invocation stage marker = .ok active)
    (allowed : receipt.track ∈ releaseBundleOperationTracks invocation.releaseOperation)
    (unblocked : reconcile = false → ∀ slot, store.unknown slot = none)
    (rest : ∀ mid, Succeeds mid (next ())) :
    Succeeds store (markUnlessReconcile reconcile active >>= next) := by
  rcases reconcileMarker_eq_ok.1 known with ⟨rfl, rfl⟩ | ⟨rfl, held, rfl, -⟩
  · obtain ⟨-, rfl⟩ := unknownMarker_eq_ok.1 chosen
    exact Succeeds.bind (mark_fresh allowed (unblocked rfl _)) (rest _)
  · exact rest store

theorem build_allOrNothing {files : LocalFiles} :
    AllOrNothing store (buildWithReceipt bundle collation files invocation receipt reconcile) := by
  apply AllOrNothing.read_bind
  apply AllOrNothing.lift_bind
  intro _ stored
  apply AllOrNothing.lift_bind
  intro read wellFormed
  apply AllOrNothing.lift_bind
  intro _ bound
  apply AllOrNothing.lift_bind
  intro binding identity
  apply AllOrNothing.lift_bind
  intro operation required
  apply AllOrNothing.lift_bind
  intro marker known
  apply AllOrNothing.lift_bind
  intro _ fresh
  obtain rfl := readExecutorReceipt_eq wellFormed
  have accepted := accepted_of_checks stored wellFormed bound identity required (ensure_eq_ok.1 fresh)
  split
  · apply AllOrNothing.lift_bind
    intro active chosen
    apply AllOrNothing.of_succeeds
    exact succeeds_mark known chosen accepted.track accepted.admitted.unblocked
      fun _ => ⟨_, _, rfl⟩
  split
  · exact AllOrNothing.of_succeeds
      (Succeeds.bind rfl (succeeds_clear known accepted.track rfl fun _ => Succeeds.pure _ _))
  · apply AllOrNothing.bind stageReleaseBundleAssets_allOrNothing
    intro staged _ staging
    obtain ⟨-, rfl⟩ := stageReleaseBundleAssets_eq_ok.1 staging
    exact Succeeds.bind rfl (succeeds_clear known accepted.track rfl fun _ => Succeeds.pure _ _)

theorem publish_allOrNothing :
    AllOrNothing store (publishWithReceipt bundle collation invocation receipt reconcile) := by
  apply AllOrNothing.read_bind
  apply AllOrNothing.lift_bind
  intro _ stored
  apply AllOrNothing.lift_bind
  intro read wellFormed
  apply AllOrNothing.lift_bind
  intro _ bound
  apply AllOrNothing.lift_bind
  intro binding identity
  apply AllOrNothing.lift_bind
  intro operation required
  obtain rfl := readExecutorReceipt_eq wellFormed
  dsimp only
  cases store.staged read.track with
  | none => exact AllOrNothing.lift _
  | some staged =>
    apply AllOrNothing.lift_bind
    intro marker known
    apply AllOrNothing.lift_bind
    intro _ _
    apply AllOrNothing.lift_bind
    intro _ fresh
    have accepted :=
      accepted_of_checks stored wellFormed bound identity required (ensure_eq_ok.1 fresh)
    have settles (written : ReleaseStore) (kept : written.unknown = store.unknown)
        (result : OperationReceipt) :
        Succeeds written (clearReconciled marker >>= fun _ =>
          if reconcile = false then
            clearReleaseBundleOperation .reconcile (some read.track) >>= fun _ => pure result
          else pure result) := by
      apply succeeds_clear known accepted.track kept
      intro mid
      split <;> exact ⟨_, _, rfl⟩
    split
    · apply AllOrNothing.lift_bind
      intro active chosen
      apply AllOrNothing.of_succeeds
      exact succeeds_mark known chosen accepted.track accepted.admitted.unblocked
        fun _ => ⟨_, _, rfl⟩
    split
    · exact AllOrNothing.of_succeeds (Succeeds.bind rfl (by apply settles; rfl))
    · apply AllOrNothing.lift_bind
      intro missing _
      split
      · exact AllOrNothing.of_succeeds ⟨_, _, rfl⟩
      · exact AllOrNothing.of_succeeds (Succeeds.bind rfl (by apply settles; rfl))

theorem freeze_allOrNothing {json : String} : AllOrNothing store (freezeReleaseBundle json) := by
  apply AllOrNothing.bind
  · apply AllOrNothing.read_bind
    apply AllOrNothing.lift_bind
    intro status _
    exact AllOrNothing.of_succeeds ⟨_, _, rfl⟩
  · intro status mid _
    exact ⟨_, _, rfl⟩

theorem verify_allOrNothing {qualification : QualificationReceipt} {requested : Option Track} :
    AllOrNothing store (verifyReleaseBundle bundle invocation qualification requested) := by
  apply AllOrNothing.read_bind
  apply AllOrNothing.lift_bind
  intro _ _
  apply AllOrNothing.lift_bind
  intro operation _
  apply AllOrNothing.lift_bind
  intro _ _
  apply AllOrNothing.lift_bind
  intro _ _
  dsimp only
  cases store.staged (requested.getD qualification.track) with
  | none => exact AllOrNothing.lift _
  | some staged =>
    apply AllOrNothing.lift_bind
    intro _ _
    exact AllOrNothing.of_succeeds ⟨_, _, rfl⟩

theorem install_allOrNothing {control : OperationControl} :
    AllOrNothing store (installReleaseBundleOperationControl control) := by
  apply AllOrNothing.lift_bind
  intro _ _
  apply AllOrNothing.read_bind
  apply AllOrNothing.lift_bind
  intro status _
  exact AllOrNothing.of_succeeds ⟨_, _, rfl⟩

theorem replace_allOrNothing {current replacement : OperationControl} :
    AllOrNothing store (replaceReleaseBundleOperationControl current replacement) := by
  apply AllOrNothing.lift_bind
  intro _ _
  apply AllOrNothing.lift_bind
  intro _ _
  apply AllOrNothing.lift_bind
  intro _ _
  apply AllOrNothing.read_bind
  apply AllOrNothing.lift_bind
  intro _ _
  exact AllOrNothing.of_succeeds ⟨_, _, rfl⟩

theorem admit_allOrNothing :
    AllOrNothing store (admitReleaseBundleOperation bundle invocation) := by
  apply AllOrNothing.read_bind
  apply AllOrNothing.lift_bind
  intro _ _
  apply AllOrNothing.lift_bind
  intro _ _
  apply AllOrNothing.lift_bind
  intro _ _
  apply AllOrNothing.lift_bind
  intro candidate _
  dsimp only
  cases store.control (canonicalReleaseBundleOperation invocation.releaseOperation) with
  | none =>
    apply AllOrNothing.lift_bind
    intro _ _
    apply AllOrNothing.lift_bind
    intro _ _
    apply AllOrNothing.lift_bind
    intro _ _
    exact AllOrNothing.bind install_allOrNothing fun _ _ _ => ⟨_, _, rfl⟩
  | some current =>
    dsimp only
    split
    · apply AllOrNothing.lift_bind
      intro _ _
      exact AllOrNothing.bind replace_allOrNothing fun _ _ _ => ⟨_, _, rfl⟩
    split
    · apply AllOrNothing.lift_bind
      intro _ _
      exact AllOrNothing.bind replace_allOrNothing fun _ _ _ => ⟨_, _, rfl⟩
    · apply AllOrNothing.lift_bind
      intro _ _
      apply AllOrNothing.lift_bind
      intro _ _
      exact AllOrNothing.of_succeeds ⟨_, _, rfl⟩

/-- A command that throws leaves the store as it was. -/
theorem command_allOrNothing (command : Command) :
    AllOrNothing store (command.run bundle collation) := by
  cases command with
  | freeze json => exact freeze_allOrNothing
  | operationAdmit invocation => exact admit_allOrNothing
  | build files invocation receipt => exact build_allOrNothing
  | verify invocation qualification requested => exact verify_allOrNothing
  | publish invocation receipt => exact publish_allOrNothing
  | reconcile files invocation receipt =>
    rw [Command.run, reconcileReleaseBundle]
    cases receipt.operation with
    | build => exact build_allOrNothing
    | remoteInspect => exact publish_allOrNothing

end

end OnePersonLab.Release

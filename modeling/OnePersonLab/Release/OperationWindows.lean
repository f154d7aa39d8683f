import OnePersonLab.Release.Script

/-!
# The windows of the operations

One control is in force for a canonical operation at a time. It gives way only after its
deadline, to one whose window starts no earlier than that, and a stage advances only
under the control in force and before its deadline.
-/

namespace OnePersonLab.Release

open Contract Lib

def Command.invocation : Command → Option OperationInvocation
  | .freeze _ => none
  | .operationAdmit invocation => some invocation
  | .build _ invocation _ => some invocation
  | .verify invocation _ _ => some invocation
  | .publish invocation _ => some invocation
  | .reconcile _ invocation _ => some invocation

theorem Command.Executes.invocation_eq {command : Command} {invocation : OperationInvocation}
    {receipt : ExecutorReceipt} {reconcile : Bool} {stage : StageOperation}
    (executes : command.Executes invocation receipt reconcile stage) :
    command.invocation = some invocation := by
  cases executes <;> rfl

/-! ## How a control gives way -/

/-- A control that takes another's place: a resume keeps the identity of the standard
operation, a full recovery has one of its own. -/
structure Replaces (operation : StableOperation) (current replacement : OperationControl) :
    Prop where
  later : current.operationDeadlineAt ≤ replacement.operationStartedAt
  identity :
    operation = .resumeStandard ∧ replacement.operationKind = .standard ∧
        replacement.operationId = current.operationId ∨
      operation = .appendFull ∧ replacement.operationKind = .appendFull ∧
        replacement.operationId ≠ current.operationId

inductive WindowChange (store : ReleaseStore) (command : Command) (after : ReleaseStore) :
    Prop where
  | kept (same : after.control = store.control)
  | opened {control} (free : store.control control.operationKind = none)
      (opens : after.control = (store.setControl control).control)
  | replaced {invocation current replacement} (asked : command = .operationAdmit invocation)
      (held : store.control replacement.operationKind = some current)
      (replaces : Replaces invocation.releaseOperation current replacement)
      (opens : after.control = (store.setControl replacement).control)

section

variable {bundle : ReleaseBundle} {collation : Collation} {store after : ReleaseStore}
  {command : Command} {receipt : OperationReceipt}

theorem replaces_of_rotation {current replacement : OperationControl} {now : Int} {checked : Unit}
    (rotates : assertResumeWindowRotation current replacement now = .ok checked) :
    Replaces .resumeStandard current replacement := by
  simp only [assertResumeWindowRotation, bind_eq_ok, ensure_eq_ok] at rotates
  obtain ⟨_, -, _, ⟨-, same, -, kind, -⟩, _, ⟨later, -⟩, -⟩ := rotates
  exact ⟨later, .inl ⟨rfl, kind, same.symm⟩⟩

theorem replaces_of_replacement {current replacement : OperationControl} {now : Int}
    {checked : Unit}
    (replaces : assertExpiredFullReplacement store bundle current replacement now = .ok checked) :
    Replaces .appendFull current replacement := by
  simp only [assertExpiredFullReplacement, bind_eq_ok, ensure_eq_ok] at replaces
  obtain ⟨_, -, _, ⟨-, fresh, -, kind, -⟩, _, ⟨later, -⟩, -⟩ := replaces
  exact ⟨later, .inr ⟨rfl, kind, fun same => fresh same.symm⟩⟩

theorem Transition.windows (transition : Transition bundle collation store command receipt after) :
    WindowChange store command after := by
  cases transition with
  | @admitted invocation candidate _ _ _ _ _ admits =>
    unfold Admits at admits
    cases held : store.control candidate.operationKind with
    | none => exact .opened held rfl
    | some current =>
      rw [held] at admits
      rcases admits.2 with ⟨resumes, rotates⟩ | ⟨appends, replaces⟩
      · exact .replaced rfl held (resumes ▸ replaces_of_rotation rotates) rfl
      · exact .replaced rfl held (appends ▸ replaces_of_replacement replaces) rfl
  | _ => exact .kept rfl

/-- What the store has for an operation, the later store has too or has replaced after the
end of its window. -/
def Precedes (kind : CanonicalOperation) (earlier later : ReleaseStore) : Prop :=
  ∀ current, earlier.control kind = some current → ∃ control, later.control kind = some control ∧
    (control = current ∨ current.operationDeadlineAt ≤ control.operationStartedAt)

theorem Precedes.refl (kind : CanonicalOperation) (store : ReleaseStore) :
    Precedes kind store store :=
  fun current held => ⟨current, held, .inl rfl⟩

theorem Controls.window (controls : Controls bundle store) {kind : CanonicalOperation}
    {control : OperationControl} (held : store.control kind = some control) :
    control.operationStartedAt < control.operationDeadlineAt :=
  (assertOperationControl_eq_ok.1 (controls.wellFormed held)).1

theorem Precedes.trans {kind : CanonicalOperation} {earlier mid later : ReleaseStore}
    (controls : Controls bundle mid) (first : Precedes kind earlier mid)
    (second : Precedes kind mid later) : Precedes kind earlier later := by
  intro current held
  obtain ⟨between, heldMid, firstStep⟩ := first current held
  obtain ⟨control, heldLater, secondStep⟩ := second between heldMid
  refine ⟨control, heldLater, ?_⟩
  have window := controls.window heldMid
  rcases firstStep with rfl | firstStep
  · exact secondStep
  · rcases secondStep with rfl | secondStep
    · exact .inr firstStep
    · exact .inr (by omega)

theorem WindowChange.precedes (change : WindowChange store command after)
    (kind : CanonicalOperation) : Precedes kind store after := by
  intro current held
  cases change with
  | kept same => exact ⟨current, same ▸ held, .inl rfl⟩
  | @opened control free opens =>
    have other : kind ≠ control.operationKind := by
      rintro rfl
      simp [free] at held
    refine ⟨current, ?_, .inl rfl⟩
    rw [opens, ReleaseStore.setControl_control, Function.update_of_ne other, held]
  | @replaced invocation before replacement asked heldBefore replaces opens =>
    by_cases same : kind = replacement.operationKind
    · subst same
      obtain rfl : before = current := Option.some.inj (heldBefore.symm.trans held)
      refine ⟨replacement, ?_, .inr replaces.later⟩
      rw [opens, ReleaseStore.setControl_control, Function.update_self]
    · refine ⟨current, ?_, .inl rfl⟩
      rw [opens, ReleaseStore.setControl_control, Function.update_of_ne same, held]

/-! ## How a stage advances -/

/-- A receipt that was recorded for a command under the control in force, in time. -/
structure InWindow (store : ReleaseStore) (command : Command) (receipt : OperationReceipt)
    (after : ReleaseStore) (invocation : OperationInvocation) (control : OperationControl) :
    Prop where
  asked : command.invocation = some invocation
  recorded : receipt.operationControl = some control
  held : store.control control.operationKind = some control
  kept : after.control control.operationKind = some control
  timely : invocation.now < control.operationDeadlineAt

theorem inWindow_of_admitted {invocation : OperationInvocation} {control : OperationControl}
    {reconcile : Bool} (admitted : Admitted bundle store invocation reconcile control)
    (asked : command.invocation = some invocation)
    (recorded : receipt.operationControl = some control) (same : after.control = store.control)
    (active : releaseBundleOperationDeadlineElapsed control invocation.now = false) :
    InWindow store command receipt after invocation control := by
  have held := admitted.held
  rw [← admitted.names.operationKind] at held
  exact {
    asked := asked
    recorded := recorded
    held := held
    kept := same ▸ held
    timely := by simpa [releaseBundleOperationDeadlineElapsed] using active }

theorem Transition.inWindow (transition : Transition bundle collation store command receipt after)
    (advanced : receipt.details.stageAdvanced = some true) :
    ∃ invocation control, InWindow store command receipt after invocation control := by
  cases transition with
  | froze => simp at advanced
  | admitted => simp [admissionReceipt] at advanced
  | readmitted => simp [admissionReceipt] at advanced
  | buildUnknown _ _ _ recorded => simp [recorded, executorOperationReceipt] at advanced
  | buildStillUnknown _ _ _ _ recorded => simp [recorded, executorOperationReceipt] at advanced
  | buildLate _ _ _ _ _ recorded => simp [recorded, executorOperationReceipt] at advanced
  | built executes accepted _ _ recorded =>
    subst executes recorded
    exact ⟨_, _, inWindow_of_admitted accepted.admitted rfl rfl rfl (accepted.admitted.active rfl)⟩
  | buildReconciled executes accepted _ _ _ timely recorded =>
    subst executes recorded
    exact ⟨_, _, inWindow_of_admitted accepted.admitted rfl rfl rfl timely⟩
  | verified _ admitted _ _ _ _ recorded =>
    subst recorded
    exact ⟨_, _, inWindow_of_admitted admitted rfl rfl rfl (admitted.active rfl)⟩
  | publishUnknown _ _ _ _ recorded =>
    simp [recorded, executorOperationReceipt, publicationDetails] at advanced
  | publishStillUnknown _ _ _ _ _ recorded =>
    simp [recorded, executorOperationReceipt, publicationDetails] at advanced
  | externalPublished executes accepted _ _ _ recorded =>
    subst recorded
    exact ⟨_, _, inWindow_of_admitted accepted.admitted executes.invocation_eq rfl rfl
      (accepted.admitted.active rfl)⟩
  | externalReconciled executes accepted _ _ _ _ _ recorded =>
    subst recorded
    have timely := by simpa [executorOperationReceipt, publicationDetails] using advanced
    exact ⟨_, _, inWindow_of_admitted accepted.admitted executes.invocation_eq rfl rfl timely⟩
  | assetsMissing _ _ _ _ _ _ _ _ recorded =>
    simp [recorded, executorOperationReceipt, publicationDetails] at advanced
  | assetsPublished executes accepted _ _ _ _ _ recorded =>
    subst recorded
    exact ⟨_, _, inWindow_of_admitted accepted.admitted executes.invocation_eq rfl rfl
      (accepted.admitted.active rfl)⟩
  | assetsReconciled executes accepted _ _ _ _ _ _ recorded =>
    subst recorded
    have timely := by simpa [executorOperationReceipt, publicationDetails] using advanced
    exact ⟨_, _, inWindow_of_admitted accepted.admitted executes.invocation_eq rfl rfl timely⟩

/-! ## Sequences of commands -/

/-- A command either leaves the store as it is or makes a transition. -/
theorem kept_or_transition (bundle : ReleaseBundle) (collation : Collation) (store : ReleaseStore)
    (command : Command) :
    (command.run bundle collation store).2 = store ∨
      ∃ receipt, Transition bundle collation store command receipt
        (command.run bundle collation store).2 := by
  rcases ran : command.run bundle collation store with ⟨failure | receipt, after⟩
  · exact .inl (command_allOrNothing command failure after ran)
  · exact .inr ⟨receipt, command_transition ran⟩

theorem windowChange_run (bundle : ReleaseBundle) (collation : Collation) (store : ReleaseStore)
    (command : Command) :
    WindowChange store command (command.run bundle collation store).2 := by
  rcases kept_or_transition bundle collation store command with same | ⟨_, transition⟩
  · exact .kept (congrArg ReleaseStore.control same)
  · exact transition.windows

theorem Controls.run (controls : Controls bundle store) :
    Controls bundle (command.run bundle collation store).2 := by
  rcases kept_or_transition bundle collation store command with same | ⟨_, transition⟩
  · rwa [same]
  · exact transition.controls controls

/-- The stores that a sequence of commands goes through. -/
def stores (bundle : ReleaseBundle) (collation : Collation) :
    List Command → ReleaseStore → List ReleaseStore
  | [], store => [store]
  | command :: rest, store =>
    store :: stores bundle collation rest (command.run bundle collation store).2

section

variable {commands : List Command}

theorem Controls.throughout (controls : Controls bundle store) :
    ∀ later ∈ stores bundle collation commands store, Controls bundle later := by
  induction commands generalizing store with
  | nil =>
    intro later member
    rwa [List.mem_singleton.1 member]
  | cons command rest ih =>
    intro later member
    rcases List.mem_cons.1 member with rfl | after
    · exact controls
    · exact ih controls.run later after

theorem Controls.precedes (controls : Controls bundle store) (kind : CanonicalOperation) :
    ∀ later ∈ stores bundle collation commands store,
      Precedes kind store later := by
  induction commands generalizing store with
  | nil =>
    intro later member
    rw [List.mem_singleton.1 member]
    exact .refl kind store
  | cons command rest ih =>
    intro later member
    rcases List.mem_cons.1 member with rfl | after
    · exact .refl kind later
    · exact .trans controls.run ((windowChange_run bundle collation store command).precedes kind)
        (ih controls.run later after)

theorem Controls.pairwise (controls : Controls bundle store) (kind : CanonicalOperation) :
    (stores bundle collation commands store).Pairwise (Precedes kind) := by
  induction commands generalizing store with
  | nil => exact List.pairwise_singleton _ _
  | cons command rest ih =>
    refine List.pairwise_cons.2 ⟨?_, ih controls.run⟩
    intro later member
    exact .trans controls.run ((windowChange_run bundle collation store command).precedes kind)
      (controls.run.precedes kind later member)

/-- Every receipt is an old one or was recorded by one of the commands. -/
theorem recorded_by_command {recorded : OperationReceipt}
    (member : recorded ∈ (perform bundle collation commands store).receipts) :
    recorded ∈ store.receipts ∨ ∃ before command rest, commands = before ++ command :: rest ∧
      Transition bundle collation (perform bundle collation before store) command recorded
        (command.run bundle collation (perform bundle collation before store)).2 := by
  induction commands generalizing store with
  | nil => exact .inl member
  | cons command rest ih =>
    rcases ih member with here | ⟨before, later, others, rfl, transition⟩
    · rcases kept_or_transition bundle collation store command with same | ⟨receipt, transition⟩
      · exact .inl (same ▸ here)
      · rw [transition.records.receipts] at here
        rcases List.mem_append.1 here with old | new
        · exact .inl old
        · obtain rfl : recorded = receipt := List.mem_singleton.1 new
          exact .inr ⟨[], command, rest, rfl, transition⟩
    · exact .inr ⟨command :: before, later, others, rfl, transition⟩

end

/-- The windows of the operations, over a sequence of commands. -/
structure OperationWindows (bundle : ReleaseBundle) (collation : Collation)
    (start : ReleaseStore) (commands : List Command) : Prop where
  proper : ∀ store ∈ stores bundle collation commands start,
    ∀ kind control, store.control kind = some control →
      control.operationStartedAt < control.operationDeadlineAt
  disjoint : ∀ kind,
    (stores bundle collation commands start).Pairwise (Precedes kind)
  identity : ∀ before command rest, commands = before ++ command :: rest →
    let store := perform bundle collation before start
    let after := (command.run bundle collation store).2
    ∀ kind current replacement, store.control kind = some current →
      after.control kind = some replacement → replacement ≠ current →
      ∃ invocation, command = .operationAdmit invocation ∧
        Replaces invocation.releaseOperation current replacement
  advanced : ∀ receipt ∈ (perform bundle collation commands start).receipts,
    receipt ∉ start.receipts → receipt.details.stageAdvanced = some true →
    ∃ before command rest, commands = before ++ command :: rest ∧
      let store := perform bundle collation before start
      ∃ invocation control, InWindow store command receipt
        (command.run bundle collation store).2 invocation control

theorem WindowChange.replaces (change : WindowChange store command after)
    {kind : CanonicalOperation} {current replacement : OperationControl}
    (held : store.control kind = some current) (left : after.control kind = some replacement)
    (differs : replacement ≠ current) :
    ∃ invocation, command = .operationAdmit invocation ∧
      Replaces invocation.releaseOperation current replacement := by
  cases change with
  | kept same =>
    rw [same, held, Option.some.injEq] at left
    exact absurd left.symm differs
  | @opened control free opens =>
    have other : kind ≠ control.operationKind := by
      rintro rfl
      simp [free] at held
    rw [opens, ReleaseStore.setControl_control, Function.update_of_ne other, held,
      Option.some.injEq] at left
    exact absurd left.symm differs
  | @replaced invocation before control asked heldBefore replaces opens =>
    by_cases same : kind = control.operationKind
    · subst same
      rw [opens, ReleaseStore.setControl_control, Function.update_self, Option.some.injEq] at left
      rw [heldBefore, Option.some.injEq] at held
      subst left held
      exact ⟨invocation, asked, replaces⟩
    · rw [opens, ReleaseStore.setControl_control, Function.update_of_ne same, held,
        Option.some.injEq] at left
      exact absurd left.symm differs

/-- The windows that are ever in force for an operation are disjoint and increasing, a
resume keeps the identity and a full recovery changes it, and a stage advances only under
the control in force before its deadline. -/
theorem operationWindows_of_reachable {start : ReleaseStore}
    (reachable : Reachable bundle collation start) (commands : List Command) :
    OperationWindows bundle collation start commands where
  proper store member kind control held :=
    (reachable.controls.throughout store member).window held
  disjoint kind := reachable.controls.pairwise kind
  identity before command rest _ kind current replacement held left differs :=
    (windowChange_run bundle collation _ command).replaces held left differs
  advanced receipt member fresh advanced := by
    rcases recorded_by_command member with old | ⟨before, command, rest, split, transition⟩
    · exact absurd old fresh
    · exact ⟨before, command, rest, split, transition.inWindow advanced⟩

theorem operationWindows_publishes :
    OperationWindows Script.bundle Script.collation .empty Script.publishes :=
  operationWindows_of_reachable ⟨[], .start⟩ Script.publishes

end

end OnePersonLab.Release

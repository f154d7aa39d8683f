import OnePersonLab.Release.Publication

/-!
# Imports that fail

An import writes as it goes, the unknown outcome of the checkpoint first, so that a store
which could not take the rest is blocked until that outcome is reconciled. It only fills
slots that are empty, with what the checkpoint holds for them.
-/

namespace OnePersonLab.Release

open Contract Lib

/-! ## Slots that are filled once -/

/-- A slot is as it was, or it was empty and has been filled with one of the fresh contents. -/
def Filled {α : Type} (fresh : α → Prop) (before after : Option α) : Prop :=
  after = before ∨ before = none ∧ ∃ content, after = some content ∧ fresh content

namespace Filled

variable {α ι : Type} [DecidableEq ι] {fresh : α → Prop}

theorem refl (slot : Option α) : Filled fresh slot slot := .inl rfl

theorem trans {first second third : Option α} (start : Filled fresh first second)
    (rest : Filled fresh second third) : Filled fresh first third := by
  rcases rest with rfl | ⟨empty, content, filled, new⟩
  · exact start
  · rcases start with rfl | ⟨_, _, held, _⟩
    · exact .inr ⟨empty, content, filled, new⟩
    · simp [held] at empty

theorem of_free {slot : Option α} {content : α} (free : Free slot content)
    (new : fresh content) : Filled fresh slot (some content) := by
  rcases free with empty | held
  · exact .inr ⟨empty, content, rfl, new⟩
  · exact .inl held.symm

/-- What a slot holds now could have been written to it before. -/
theorem free {before after : Option α} {content : α} (filled : Filled fresh before after)
    (held : after = some content) : Free before content := by
  rcases filled with same | ⟨empty, -⟩
  · exact .inr (same.symm.trans held)
  · exact .inl empty

theorem kept {before after : Option α} {content : α} (filled : Filled fresh before after)
    (held : before = some content) : after = some content := by
  rcases filled with same | ⟨empty, -⟩
  · exact same.trans held
  · simp [empty] at held

theorem update {fresh : ι → α → Prop} {slots : ι → Option α} {slot : ι} {content : α}
    (free : Free (slots slot) content) (new : fresh slot content) (other : ι) :
    Filled (fresh other) (slots other) (Function.update slots slot (some content) other) := by
  by_cases same : other = slot
  · subst same
    rw [Function.update_self]
    exact of_free free new
  · rw [Function.update_of_ne same]
    exact refl _

end Filled

/-! ## What installs leave behind -/

/-- A verification that the checkpoint holds, for the assets that the store has. -/
def Restored (source : Checkpoint) (receipt : OperationReceipt) : Prop :=
  ∃ track content qualification staged, source.tracks track = some content ∧
    content.qualification = some qualification ∧
      receipt = restoredReceipt track (source.trackControl track) staged qualification

/-- The assets that an import stages a track of a checkpoint with. -/
def importedAssets (collation : Collation) (content : CheckpointTrack) : List StoredAsset :=
  collation.sortNamed (fun asset => asset.identity.name)
    ((content.assets.map checkpointAsset).map ExecutorAsset.stored)

def StagedFrom (collation : Collation) (source : Checkpoint) (track : Track)
    (assets : List StoredAsset) : Prop :=
  ∃ content, source.tracks track = some content ∧ assets = importedAssets collation content

/-- What is recorded stays, and what is new comes from the checkpoint. -/
structure Installed (collation : Collation) (source : Checkpoint) (before after : ReleaseStore) :
    Prop where
  bundleJson : Filled (· = source.bundleJson) before.bundleJson after.bundleJson
  unknown : ∀ slot, Filled (fun marker => marker ∈ source.activeUnknownMarkers ∧
    slot = (marker.stageOperation, marker.track)) (before.unknown slot) (after.unknown slot)
  control : ∀ kind, Filled (fun control => ∃ controls, source.operationControls = some controls ∧
    control ∈ controls.list ∧ kind = control.operationKind)
    (before.control kind) (after.control kind)
  legacy : Filled (fun checkpoint => checkpoint = source ∧ source.operationControls = none)
    before.legacy after.legacy
  staged : ∀ track,
    Filled (StagedFrom collation source track) (before.staged track) (after.staged track)
  operation : ∀ slot, after.operation slot = before.operation slot ∨
    ∃ receipt, after.operation slot = some receipt ∧ Restored source receipt ∧
      slot = (.verify, receipt.track)
  receipts : ∃ restored, after.receipts = before.receipts ++ restored ∧
    ∀ receipt ∈ restored, Restored source receipt

section

variable {bundle : ReleaseBundle} {collation : Collation} {source : Checkpoint}
  {before after store : ReleaseStore}

theorem Installed.refl (store : ReleaseStore) : Installed collation source store store where
  bundleJson := .refl _
  unknown _ := .refl _
  control _ := .refl _
  legacy := .refl _
  staged _ := .refl _
  operation _ := .inl rfl
  receipts := ⟨[], by simp, by simp⟩

theorem Installed.trans {first second third : ReleaseStore}
    (start : Installed collation source first second)
    (rest : Installed collation source second third) : Installed collation source first third where
  bundleJson := start.bundleJson.trans rest.bundleJson
  unknown slot := (start.unknown slot).trans (rest.unknown slot)
  control kind := (start.control kind).trans (rest.control kind)
  legacy := start.legacy.trans rest.legacy
  staged track := (start.staged track).trans (rest.staged track)
  operation slot := by
    rcases rest.operation slot with kept | restored
    · rw [kept]
      exact start.operation slot
    · exact .inr restored
  receipts := by
    obtain ⟨early, grown, first⟩ := start.receipts
    obtain ⟨late, more, second⟩ := rest.receipts
    refine ⟨early ++ late, by rw [more, grown, List.append_assoc], ?_⟩
    intro receipt member
    rcases List.mem_append.1 member with former | latter
    · exact first receipt former
    · exact second receipt latter

instance : Std.Refl (Installed collation source) := ⟨.refl⟩

instance : IsTrans ReleaseStore (Installed collation source) := ⟨fun _ _ _ => .trans⟩

theorem ImportInstall.installed (install : ImportInstall bundle collation source before after) :
    Installed collation source before after := by
  have same : Installed collation source before before := .refl before
  cases install with
  | bundled free => exact { same with bundleJson := .of_free free rfl }
  | marked listed _ free => exact { same with unknown := Filled.update free ⟨listed, rfl⟩ }
  | controlled held listed free =>
    exact { same with control := Filled.update free ⟨_, held, listed, rfl⟩ }
  | readOnly absent free => exact { same with legacy := .of_free free ⟨rfl, absent⟩ }
  | staged found stages =>
    exact { same with staged := Filled.update stages.free ⟨_, found, stages.sorted⟩ }
  | @qualified track _ _ _ found verified named held qualifies =>
    refine { same with operation := ?_, receipts := ?_ }
    · intro slot
      by_cases here : slot = (.verify, some track)
      · subst here
        exact .inr ⟨_, Function.update_self .., ⟨_, _, _, _, found, verified, rfl⟩, rfl⟩
      · exact .inl (Function.update_of_ne here ..)
    · refine ⟨[_], rfl, ?_⟩
      intro receipt member
      obtain rfl := List.mem_singleton.1 member
      exact ⟨_, _, _, _, found, verified, rfl⟩

theorem ImportInstalls.installed (installs : ImportInstalls bundle collation source before after) :
    Installed collation source before after := by
  induction installs with
  | refl => exact .refl before
  | tail _ install ih => exact ih.trans install.installed

theorem Installed.publicationState (installed : Installed collation source before after)
    (track : Track) : publicationState after track = publicationState before track := by
  have kept (operation : ReceiptOperation) (other : operation ≠ .verify) :
      after.operation (operation, some track) = before.operation (operation, some track) := by
    rcases installed.operation (operation, some track) with same | ⟨_, _, _, verified⟩
    · exact same
    · exact absurd (Prod.mk.inj verified).1 other
  simp only [Release.publicationState, kept .publish (by decide), kept .reconcile (by decide)]

theorem Installed.publicationFlags (installed : Installed collation source before after)
    (track : Track) : publicationFlags after track = publicationFlags before track := by
  rw [publicationFlags_eq, publicationFlags_eq, installed.publicationState]

theorem Installed.previousImport (installed : Installed collation source before after) :
    previousImport after = previousImport before := by
  rcases installed.operation (.checkpointImport, none) with same | ⟨_, _, _, verified⟩
  · simp only [Release.previousImport, same]
  · exact absurd (Prod.mk.inj verified).1 nofun

/-! ## Imports that are refused at once -/

/-- The bundle of the checkpoint, at most. -/
def Bundled (source : Checkpoint) (before after : ReleaseStore) : Prop :=
  after = before ∨ after = before.withBundle source.bundleJson

theorem bundled_rule :
    Writes.EndsAfter (Bundled source)
      fun before (ended : Except Failure ReceiptStatus × ReleaseStore) =>
        Bundled source before ended.2 := by
  constructor
  · intro before _
    exact .inl rfl
  · rintro before mid ended (rfl | rfl) (left | left)
    · exact .inl left
    · exact .inr left
    · exact .inr left
    · exact .inr left

instance : Std.Refl (Bundled source) := ⟨fun _ => .inl rfl⟩

theorem installFrozenReleaseBundle_eq_ok {json : String} {status : InstallStatus} :
    installFrozenReleaseBundle json store = (.ok status, after) ↔
      installImmutableBytes store.bundleJson json = .ok status ∧ after = store.withBundle json := by
  simp only [installFrozenReleaseBundle, Writes.read_bind, Writes.lift_bind_eq_ok,
    Writes.change_bind, Writes.pure_apply, Prod.mk.injEq, Except.ok.injEq]
  constructor
  · rintro ⟨_, installed, rfl, rfl⟩
    exact ⟨installed, rfl⟩
  · rintro ⟨installed, rfl⟩
    exact ⟨status, installed, rfl, rfl⟩

/-- What an import asks before it writes more than the bundle. -/
structure Lets (bundle : ReleaseBundle) (source : Checkpoint) (store : ReleaseStore) : Prop where
  wellFormed : assertReleaseBundleCheckpoint source = .ok ()
  consistent : assertCheckpointSemantics bundle source = .ok ()
  bundled : Free store.bundleJson source.bundleJson
  agree : MarkersAgree store source

/-- An import that is not let through, or finds its own checkpoint, installs the bundle at
most. -/
theorem import_bundled (refused : ¬ Lets bundle source store ∨ previousImport store = some source) :
    Bundled source store (importReleaseBundleCheckpoint bundle collation source store).2 := by
  have rule : Writes.EndsAfter (Bundled source)
    fun before (ended : Except Failure ReceiptStatus × ReleaseStore) =>
      Bundled source before ended.2 := bundled_rule
  unfold importReleaseBundleCheckpoint
  apply rule.lift_bind
  intro _ wellFormed
  apply rule.lift_bind
  intro _ consistent
  apply rule.bind
  · apply Writes.keeps_lift_bind
    intro _ _
    exact .inr rfl
  intro _ mid installed
  obtain ⟨bundled, rfl⟩ := installFrozenReleaseBundle_eq_ok.1 installed
  apply rule.lift_bind
  intro _ agree
  rcases refused with stopped | imported
  · exact absurd ⟨wellFormed, consistent, free_of_installImmutableBytes bundled,
      ensure_eq_ok.1 agree⟩ stopped
  · have same : previousImport (store.withBundle source.bundleJson) = some source := imported
    rw [if_pos same]
    apply rule.lift_bind
    intro _ _
    exact .inl rfl

theorem lets_of_ok {status : ReceiptStatus}
    (ran : importReleaseBundleCheckpoint bundle collation source store = (.ok status, after)) :
    Lets bundle source store := by
  unfold importReleaseBundleCheckpoint at ran
  obtain ⟨_, wellFormed, ran⟩ := Writes.lift_bind_eq_ok.1 ran
  obtain ⟨_, consistent, ran⟩ := Writes.lift_bind_eq_ok.1 ran
  obtain ⟨_, first, start, ran⟩ := Writes.bind_eq_ok.1 ran
  obtain ⟨bundled, rfl⟩ := installFrozenReleaseBundle_eq_ok.1 start
  obtain ⟨_, agree, -⟩ := Writes.lift_bind_eq_ok.1 ran
  exact ⟨wellFormed, consistent, free_of_installImmutableBytes bundled, ensure_eq_ok.1 agree⟩

/-! ## Imports that throw -/

/-- What an import that throws leaves behind. -/
structure FailedImport (collation : Collation) (source : Checkpoint)
    (before after : ReleaseStore) : Prop where
  installed : Installed collation source before after
  publication : ∀ track, publicationFlags after track = publicationFlags before track
  previous : previousImport after = previousImport before
  refused : ¬ MarkersAgree before source ∨ previousImport before = some source →
    Bundled source before after

end

/-! ## A marker that stays behind -/

/-- A store whose standard track has other bytes. -/
def Script.differs : List Command := [freeze, operationAdmit, buildOther .standard]

theorem differs_unmarked :
    listReleaseBundleUnknownOutcomes
      (perform Script.bundle Script.collation Script.differs .empty) = [] := by
  decide +kernel

theorem differs_blocked :
    importsBetween Script.bundle Script.collation
      (perform Script.bundle Script.collation Script.externals .empty)
      (perform Script.bundle Script.collation Script.differs .empty)
      (fun _ outcome after =>
        outcome.toOption.isNone && !(listReleaseBundleUnknownOutcomes after).isEmpty) = true := by
  decide +kernel

theorem exists_differs_blocked : ∃ checkpoint failure after,
    exportReleaseBundleCheckpoint Script.bundle Script.collation
      (perform Script.bundle Script.collation Script.externals .empty) = .ok checkpoint ∧
    importReleaseBundleCheckpoint Script.bundle Script.collation checkpoint
      (perform Script.bundle Script.collation Script.differs .empty) = (.error failure, after) ∧
    listReleaseBundleUnknownOutcomes after ≠ [] := by
  obtain ⟨checkpoint, outcome, after, exported, imported, judged⟩ :=
    exists_of_importsBetween differs_blocked
  cases outcome with
  | ok status => simp [Except.toOption] at judged
  | error failure =>
    refine ⟨checkpoint, failure, after, exported, imported, ?_⟩
    simpa [Except.toOption] using judged

end OnePersonLab.Release

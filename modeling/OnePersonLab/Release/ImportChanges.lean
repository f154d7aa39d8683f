import Mathlib.Logic.Relation
import OnePersonLab.Release.Transitions

/-!
# What an import does to the store

An import is a sequence of small installs, each of which puts something of the checkpoint
where nothing else is, and is written down when all of them are done. It may stop after
any of them; those before it stay.
-/

namespace OnePersonLab.Release

open Contract Lib

theorem eq_some_of_free {α : Type} {existing : Option α} {content held : α}
    (free : Free existing content) (found : existing = some held) : some content = some held := by
  rcases free with absent | present
  · simp [absent] at found
  · exact present.symm.trans found

theorem update_of_free {ι α : Type} [DecidableEq ι] {slots : ι → Option α} {slot other : ι}
    {content held : α} (free : Free (slots slot) content) (found : slots other = some held) :
    Function.update slots slot (some content) other = some held := by
  by_cases same : other = slot
  · subst same
    rw [Function.update_self]
    exact eq_some_of_free free found
  · rw [Function.update_of_ne same]
    exact found

/-! ## The changes of an import -/

section

variable (bundle : ReleaseBundle) (collation : Collation) (source : Checkpoint)

/-- What an import puts into the store, one piece at a time. -/
inductive ImportInstall : ReleaseStore → ReleaseStore → Prop where
  | bundled {store} (free : Free store.bundleJson source.bundleJson) :
      ImportInstall store (store.withBundle source.bundleJson)
  | marked {store marker} (listed : marker ∈ source.activeUnknownMarkers)
      (alone : ∀ slot other, store.unknown slot = some other → other ∈ source.activeUnknownMarkers)
      (free : Free (store.unknown (marker.stageOperation, marker.track)) marker) :
      ImportInstall store (store.mark marker)
  | controlled {store controls control} (held : source.operationControls = some controls)
      (listed : control ∈ controls.list)
      (free : Free (store.control control.operationKind) control) :
      ImportInstall store (store.setControl control)
  | readOnly {store} (absent : source.operationControls = none)
      (free : Free store.legacy source) : ImportInstall store (store.setLegacy source)
  | staged {store track content staged} (found : source.tracks track = some content)
      (stages : Stages bundle collation store inspectEntry track
        (content.assets.map checkpointAsset) staged) :
      ImportInstall store (store.stage track staged.assets)
  | qualified {store track content qualification staged}
      (found : source.tracks track = some content)
      (verified : content.qualification = some qualification)
      (named : qualification.track = track)
      (held : store.staged track = some staged) (qualifies : Qualifies bundle staged qualification) :
      ImportInstall store (store.record
        (restoredReceipt track (source.trackControl track) staged qualification))

/-- Any number of installs. -/
abbrev ImportInstalls : ReleaseStore → ReleaseStore → Prop :=
  Relation.ReflTransGen (ImportInstall bundle collation source)

instance : Std.Refl (ImportInstalls bundle collation source) := ⟨fun _ => .refl⟩

instance : IsTrans ReleaseStore (ImportInstalls bundle collation source) :=
  ⟨fun _ _ _ => Relation.ReflTransGen.trans⟩

/-- One change of an import, which its checks have let through. -/
inductive ImportChange : ReleaseStore → ReleaseStore → Prop where
  | installed {store after} (valid : ValidCheckpoint bundle source)
      (install : ImportInstall bundle collation source store after) : ImportChange store after
  | recorded {store} : ImportChange store (store.record (importReceipt source))

/-- Any number of changes of an import. -/
abbrev ImportChanges : ReleaseStore → ReleaseStore → Prop :=
  Relation.ReflTransGen (ImportChange bundle collation source)

/-- An import that completes is written down after its installs; one that does not is not. -/
def ImportEnds (store : ReleaseStore) (ended : Except Failure ReceiptStatus × ReleaseStore) :
    Prop :=
  ∃ mid, ImportInstalls bundle collation source store mid ∧
    (ended.1 ≠ .ok .complete ∧ ended.2 = mid ∨
      ended = (.ok .complete, mid.record (importReceipt source)))

end

section

variable {bundle : ReleaseBundle} {collation : Collation} {source : Checkpoint}

/-! ## An import is made of its installs -/

theorem importControls_installs :
    Writes.Keeps (ImportInstalls bundle collation source) (importControls source) := by
  unfold importControls
  cases held : source.operationControls with
  | none =>
    intro store
    apply Writes.keeps_bind_at
    · apply Writes.keeps_lift_bind
      intro status installed
      exact .single (.readOnly held (free_of_installImmutableBytes installed))
    · intro _ _ _
      exact .refl
  | some controls =>
    apply Writes.Keeps.forEach
    intro control listed store
    apply Writes.keeps_bind_at
    · apply Writes.keeps_lift_bind
      intro _ _
      apply Writes.keeps_lift_bind
      intro status installed
      exact .single (.controlled held listed (free_of_installImmutableBytes installed))
    · intro _ _ _
      exact .refl

theorem importTrack_installs (track : Track) :
    Writes.Keeps (ImportInstalls bundle collation source)
      (importTrack bundle collation source track) := by
  intro store
  unfold importTrack
  cases found : source.tracks track with
  | none => exact .refl
  | some content =>
    apply Writes.keeps_bind_at
    · rcases ends : stageReleaseBundleAssets bundle collation inspectEntry track
        (content.assets.map checkpointAsset) store with ⟨failure | staged, mid⟩
      · obtain rfl := stageReleaseBundleAssets_allOrNothing failure mid ends
        exact .refl
      · obtain ⟨stages, rfl⟩ := stageReleaseBundleAssets_eq_ok.1 ends
        exact .single (.staged found stages)
    · intro _ mid _
      cases verified : content.qualification with
      | none => exact .refl
      | some qualification =>
        apply Writes.keeps_lift_bind
        intro _ _
        apply Writes.keeps_lift_bind
        intro _ named
        cases held : mid.staged track with
        | none => exact .refl
        | some staged =>
          apply Writes.keeps_lift_bind
          intro _ qualifies
          exact .single (.qualified found verified (ensure_eq_ok.1 named) held
            (assertQualificationBinding_eq_ok.1 qualifies))

/-- The markers of a checkpoint, of which there is at most one. -/
theorem importMarkers_installs {store : ReleaseStore}
    (single : source.activeUnknownMarkers.length ≤ 1)
    (alone : ∀ slot other, store.unknown slot = some other →
      other ∈ source.activeUnknownMarkers) :
    ImportInstalls bundle collation source store
      (Writes.forEach (fun marker => do
        let _ ← recordReleaseBundleUnknownOutcome marker) source.activeUnknownMarkers store).2 := by
  rcases listed : source.activeUnknownMarkers with _ | ⟨marker, _ | ⟨other, rest⟩⟩
  · exact .refl
  · apply Writes.keeps_bind_at
    · apply Writes.keeps_bind_at
      · apply Writes.keeps_lift_bind
        intro _ _
        apply Writes.keeps_lift_bind
        intro status installed
        exact .single (.marked (by simp [listed]) alone (free_of_installImmutableBytes installed))
      · intro _ _ _
        exact .refl
    · intro _ _ _
      exact .refl
  · simp [listed] at single

theorem single_of_assert {checked : Unit}
    (wellFormed : assertReleaseBundleCheckpoint source = .ok checked) :
    source.activeUnknownMarkers.length ≤ 1 := by
  simp only [assertReleaseBundleCheckpoint, bind_eq_ok, ensure_eq_ok] at wellFormed
  obtain ⟨_, single, -⟩ := wellFormed
  exact single

theorem alone_of_agree {store : ReleaseStore} (agree : MarkersAgree store source)
    (fresh : previousImport store ≠ some source) {slot : StageOperation × Track}
    {marker : UnknownOutcomeMarker} (active : store.unknown slot = some marker) :
    marker ∈ source.activeUnknownMarkers := by
  have listed := mem_listReleaseBundleUnknownOutcomes.2 ⟨slot, active⟩
  rcases agree with same | ⟨imported, -⟩ | ⟨none, -⟩
  · rwa [same] at listed
  · exact absurd imported fresh
  · simp [none] at listed

theorem importEnds_rule :
    Writes.EndsAfter (ImportInstalls bundle collation source)
      (ImportEnds bundle collation source) := by
  constructor
  · intro store failure
    exact ⟨store, .refl, .inl ⟨nofun, rfl⟩⟩
  · rintro store mid ended first ⟨last, rest, ends⟩
    exact ⟨last, first.trans rest, ends⟩

/-- However an import ends, it has installed pieces of the checkpoint and changed nothing else. -/
theorem import_ends (store : ReleaseStore) :
    ImportEnds bundle collation source store
      (importReleaseBundleCheckpoint bundle collation source store) := by
  have rule : Writes.EndsAfter (ImportInstalls bundle collation source)
    (ImportEnds bundle collation source) := importEnds_rule
  unfold importReleaseBundleCheckpoint
  apply rule.lift_bind
  intro _ wellFormed
  apply rule.lift_bind
  intro _ _
  apply rule.bind
  · apply Writes.keeps_lift_bind
    intro status installed
    exact .single (.bundled (free_of_installImmutableBytes installed))
  intro _ mid _
  apply rule.lift_bind
  intro _ agree
  split
  · apply rule.lift_bind
    intro _ _
    exact ⟨mid, .refl, .inl ⟨nofun, rfl⟩⟩
  · rename_i fresh
    apply rule.bind
    · exact importMarkers_installs (single_of_assert wellFormed)
        fun _ _ => alone_of_agree (ensure_eq_ok.1 agree) fresh
    intro _ _ _
    apply rule.bind
    · exact importControls_installs _
    intro _ _ _
    apply rule.bind
    · exact Writes.Keeps.forEach (fun track _ => importTrack_installs track) _
    intro _ last _
    exact ⟨last, .refl, .inr rfl⟩

theorem ImportInstalls.changes {before after : ReleaseStore}
    (valid : ValidCheckpoint bundle source)
    (installs : ImportInstalls bundle collation source before after) :
    ImportChanges bundle collation source before after := by
  induction installs with
  | refl => exact .refl
  | tail _ install ih => exact ih.tail (.installed valid install)

/-- A checkpoint that its checks turn away changes nothing. -/
theorem import_of_invalid {store : ReleaseStore} (invalid : ¬ ValidCheckpoint bundle source) :
    (importReleaseBundleCheckpoint bundle collation source store).2 = store := by
  unfold importReleaseBundleCheckpoint
  cases wellFormed : assertReleaseBundleCheckpoint source with
  | error failure => rfl
  | ok _ =>
    cases consistent : assertCheckpointSemantics bundle source with
    | error failure => rfl
    | ok _ => exact absurd (validCheckpoint_of_asserts wellFormed consistent) invalid

theorem import_changes (store : ReleaseStore) :
    ImportChanges bundle collation source store
      (importReleaseBundleCheckpoint bundle collation source store).2 := by
  by_cases valid : ValidCheckpoint bundle source
  · have ends : ImportEnds bundle collation source store _ := import_ends store
    obtain ⟨mid, installs, ⟨-, left⟩ | ended⟩ := ends
    · rw [left]
      exact ImportInstalls.changes valid installs
    · rw [ended]
      exact (ImportInstalls.changes valid installs).tail .recorded
  · rw [import_of_invalid valid]

end

end OnePersonLab.Release

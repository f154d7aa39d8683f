import OnePersonLab.Release.FailedImport

/-!
# Imports that return

A checkpoint that has passed its checks can be imported into exactly the stores whose
immutable slots are empty, or hold what the checkpoint would write to them.
-/

namespace OnePersonLab.Release

open Contract Lib

/-! ## Stores that can take a checkpoint -/

/-- Every immutable slot that an import writes to, as far as it gets with the tracks, is empty
or holds what it would write. -/
structure Receptive (collation : Collation) (source : Checkpoint) (tracks : List Track)
    (store : ReleaseStore) : Prop where
  unknown : ∀ marker ∈ source.activeUnknownMarkers,
    Free (store.unknown (marker.stageOperation, marker.track)) marker
  control : ∀ kind control, source.controlOf kind = some control →
    Free (store.control kind) control
  legacy : source.operationControls = none → Free store.legacy source
  staged : ∀ track ∈ tracks, ∀ content, source.tracks track = some content →
    Free (store.staged track) (importedAssets collation content)

/-- The store has the bundle already. -/
structure Ready (collation : Collation) (source : Checkpoint) (tracks : List Track)
    (store : ReleaseStore) : Prop where
  bundleJson : store.bundleJson = some source.bundleJson
  receptive : Receptive collation source tracks store

/-- The qualifications of a checkpoint are about the assets that it brings. -/
def Qualified (bundle : ReleaseBundle) (collation : Collation) (source : Checkpoint) : Prop :=
  ∀ track content qualification, source.tracks track = some content →
    content.qualification = some qualification →
      Qualifies bundle (importedAssets collation content) qualification

theorem free_update {ι α : Type} [DecidableEq ι] {slots : ι → Option α} {slot other : ι}
    {content held : α} (free : Free (slots other) held)
    (agree : other = slot → content = held) :
    Free (Function.update slots slot (some content) other) held := by
  by_cases same : other = slot
  · subst same
    rw [Function.update_self, agree rfl]
    exact .inr rfl
  · rw [Function.update_of_ne same]
    exact free

section

variable {bundle : ReleaseBundle} {collation : Collation} {source : Checkpoint}
  {tracks : List Track} {store after : ReleaseStore}

theorem importMarkers_achieves (valid : ValidCheckpoint bundle source) :
    Writes.Achieves (Ready collation source tracks)
      (Writes.forEach (fun marker => do
        let _ ← recordReleaseBundleUnknownOutcome marker) source.activeUnknownMarkers)
      (Ready collation source tracks) := by
  apply Writes.Achieves.forEach
  intro marker listed store ready
  obtain ⟨status, marked⟩ := recordReleaseBundleUnknownOutcome_of_free
    (valid.marker marker listed).1 (ready.receptive.unknown marker listed)
  refine ⟨(), store.mark marker, Writes.bind_of_ok marked, ready.bundleJson,
    { ready.receptive with unknown := ?_ }⟩
  intro other member
  apply free_update (ready.receptive.unknown other member)
  intro _
  exact valid.same_marker listed member

theorem importControls_achieves (valid : ValidCheckpoint bundle source) :
    Writes.Achieves (Ready collation source tracks) (importControls source) (Ready collation source tracks) := by
  unfold importControls
  cases held : source.operationControls with
  | none =>
    intro store ready
    obtain ⟨status, installed⟩ := installImmutableBytes_of_free (ready.receptive.legacy held)
    refine ⟨(), store.setLegacy source, ?_, ready.bundleJson,
      { ready.receptive with legacy := fun _ => .inr rfl }⟩
    simp [markReleaseBundleLegacyCheckpointReadOnly, installed, Writes.bind_apply]
  | some controls =>
    apply Writes.Achieves.forEach
    intro control listed store ready
    obtain ⟨kind, found⟩ := controlOf_of_mem_list held listed
    obtain ⟨wellFormed, rfl⟩ := valid.control kind control found
    obtain ⟨status, installed⟩ :=
      installImmutableBytes_of_free (ready.receptive.control _ control found)
    refine ⟨(), store.setControl control, ?_, ready.bundleJson,
      { ready.receptive with control := ?_ }⟩
    · simp [installReleaseBundleOperationControl, wellFormed, installed, Writes.bind_apply]
    · intro kind other other_found
      apply free_update (ready.receptive.control kind other other_found)
      rintro rfl
      exact Option.some.inj (found.symm.trans other_found)

/-! ## The tracks of a checkpoint -/

theorem mem_importedAssets {content : CheckpointTrack} {asset : StoredAsset} :
    asset ∈ importedAssets collation content ↔
      ∃ identity ∈ content.assets, asset = (checkpointAsset identity).stored := by
  rw [importedAssets, Collation.sortNamed, List.mem_insertionSort, List.map_map, List.mem_map]
  constructor
  · rintro ⟨identity, listed, rfl⟩
    exact ⟨identity, listed, rfl⟩
  · rintro ⟨identity, listed, rfl⟩
    exact ⟨identity, listed, rfl⟩

theorem stages_of_ready {track : Track} {content : CheckpointTrack}
    (valid : ValidCheckpoint bundle source) (listed : track ∈ bundleTrackNames bundle)
    (found : source.tracks track = some content)
    (free : Free (store.staged track) (importedAssets collation content)) :
    Stages bundle collation store inspectEntry track (content.assets.map checkpointAsset)
      ⟨if store.staged track = none then .complete else .idempotent,
        importedAssets collation content⟩ := by
  have checked := valid.track track listed content found
  obtain ⟨plan, planned⟩ := plan_of_mem listed
  have names : (content.assets.map checkpointAsset).map (fun asset => asset.identity.name) =
      content.assets.map AssetIdentity.name := by
    simp [checkpointAsset]
  refine ⟨⟨plan, planned, ?_⟩, fun _ _ => rfl, ?_, rfl, free, rfl⟩
  · rw [names]
    simpa [planned] using checked.planned
  · intro asset member held present same
    obtain ⟨identity, entry, rfl⟩ := List.mem_map.1 member
    rcases free with absent | installed
    · simp [absent] at present
    · rw [installed] at present
      obtain ⟨other, stored, rfl⟩ := mem_importedAssets.1 present
      exact List.inj_on_of_nodup_map checked.distinct stored entry same

theorem restoreQualifiedTrack_of_staged {json : String} {track : Track}
    {control : Option OperationControl} {staged : List StoredAsset}
    {qualification : QualificationReceipt} (stored : store.bundleJson = some json)
    (named : qualification.track = track) (held : store.staged track = some staged)
    (qualifies : Qualifies bundle staged qualification) :
    restoreQualifiedTrack bundle qualification track control store =
      (.ok (), store.record (restoredReceipt track control staged qualification)) := by
  have bound : assertQualificationBinding bundle staged qualification = .ok () :=
    assertQualificationBinding_eq_ok.2 qualifies
  simp [restoreQualifiedTrack, readStoredReleaseBundle, stored, named, held, bound,
    recordReleaseBundleOperation, Writes.bind_apply, ensure_true]

theorem importTrack_achieves (valid : ValidCheckpoint bundle source)
    (qualified : Qualified bundle collation source) {track : Track} (listed : track ∈ tracks) :
    Writes.Achieves (Ready collation source tracks) (importTrack bundle collation source track)
      (Ready collation source tracks) := by
  intro store ready
  unfold importTrack
  cases found : source.tracks track with
  | none => exact ⟨(), store, rfl, ready⟩
  | some content =>
    have staged := stageReleaseBundleAssets_eq_ok.2
      ⟨stages_of_ready valid (valid.mem found) found
        (ready.receptive.staged track listed content found), rfl⟩
    have next : Ready collation source tracks (store.stage track (importedAssets collation content)) := by
      refine ⟨ready.bundleJson, { ready.receptive with staged := ?_ }⟩
      intro other member brought named
      apply free_update (ready.receptive.staged other member brought named)
      rintro rfl
      rw [Option.some.inj (found.symm.trans named)]
    dsimp only
    rw [Writes.bind_of_ok staged]
    cases verified : content.qualification with
    | none => exact ⟨(), _, rfl, next⟩
    | some qualification =>
      have named := ((valid.track track (valid.mem found) content found).qualification
        qualification verified).2
      have qualifies := qualified track content qualification found verified
      have restored : restoreQualifiedTrack bundle qualification track
        (source.trackControl track) (store.stage track (importedAssets collation content)) = _ :=
        restoreQualifiedTrack_of_staged next.bundleJson named (Function.update_self ..) qualifies
      exact ⟨(), _, restored, ⟨next.bundleJson, { next.receptive with }⟩⟩

/-! ## Imports that return -/

/-- The part of an import that writes more than the bundle. -/
def importBody (bundle : ReleaseBundle) (collation : Collation) (source : Checkpoint) :
    StoreProgram ReceiptStatus := do
  Writes.forEach (fun marker => do
    let _ ← recordReleaseBundleUnknownOutcome marker) source.activeUnknownMarkers
  importControls source
  Writes.forEach (importTrack bundle collation source) (bundleTrackNames bundle)
  recordReleaseBundleOperation (importReceipt source)
  return .complete

/-- An import that is let through either finds its checkpoint again or writes it. -/
theorem import_eq (lets : Lets bundle source store) :
    importReleaseBundleCheckpoint bundle collation source store =
      if previousImport store = some source then
        (do
          checkEach (assertStillImported store source) (bundleTrackNames bundle)
          return .idempotent : StoreProgram ReceiptStatus) (store.withBundle source.bundleJson)
      else importBody bundle collation source (store.withBundle source.bundleJson) := by
  obtain ⟨_, stored⟩ := installImmutableBytes_of_free lets.bundled
  have start := installFrozenReleaseBundle_eq_ok.2 ⟨stored, rfl⟩
  have agree : MarkersAgree (store.withBundle source.bundleJson) source := lets.agree
  unfold importReleaseBundleCheckpoint
  rw [Writes.lift_bind_of_ok lets.wellFormed, Writes.lift_bind_of_ok lets.consistent,
    Writes.bind_of_ok start, Writes.read_bind, Writes.lift_bind_of_ok (ensure_true agree _)]
  have same : previousImport (store.withBundle source.bundleJson) = previousImport store := rfl
  by_cases previous : previousImport store = some source
  · rw [if_pos previous, if_pos (same.trans previous)]
    rfl
  · rw [if_neg previous, if_neg fun found => previous (same.symm.trans found)]
    rfl

/-- A store that is not blocked by anything of its own takes the rest of the checkpoint. -/
theorem importBody_achieves (valid : ValidCheckpoint bundle source)
    (qualified : Qualified bundle collation source) :
    Writes.Achieves (Ready collation source (bundleTrackNames bundle))
      (importBody bundle collation source) fun _ => True := by
  apply (importMarkers_achieves valid).bind
  intro _
  apply (importControls_achieves valid).bind
  intro _
  apply Writes.Achieves.bind
  · exact Writes.Achieves.forEach fun track listed => importTrack_achieves valid qualified listed
  · intro _ last _
    exact ⟨_, _, rfl, trivial⟩

/-! ## What a completed import holds -/

/-- Everything of the checkpoint is in the store. -/
structure Holds (collation : Collation) (source : Checkpoint) (store : ReleaseStore) : Prop where
  bundleJson : store.bundleJson = some source.bundleJson
  unknown : ∀ marker ∈ source.activeUnknownMarkers,
    store.unknown (marker.stageOperation, marker.track) = some marker
  control : ∀ kind control, source.controlOf kind = some control →
    store.control kind = some control
  legacy : source.operationControls = none → store.legacy = some source
  staged : ∀ track content, source.tracks track = some content →
    store.staged track = some (importedAssets collation content)
  verified : ∀ track content qualification, source.tracks track = some content →
    content.qualification = some qualification →
      ∃ receipt, store.operation (.verify, some track) = some receipt ∧
        receipt.status.settled = true ∧ receipt.details.qualification = some qualification

/-- A verification of a track is restored only with the qualification of the checkpoint. -/
theorem Installed.verified {track : Track} {content : CheckpointTrack}
    {qualification : QualificationReceipt} (installed : Installed collation source store after)
    (found : source.tracks track = some content)
    (verified : content.qualification = some qualification)
    (held : ∃ receipt, store.operation (.verify, some track) = some receipt ∧
      receipt.status.settled = true ∧ receipt.details.qualification = some qualification) :
    ∃ receipt, after.operation (.verify, some track) = some receipt ∧
      receipt.status.settled = true ∧ receipt.details.qualification = some qualification := by
  rcases installed.operation (.verify, some track) with same | ⟨receipt, latest, restored, slot⟩
  · rwa [same]
  · obtain ⟨other, brought, known, staged, named, qualified, rfl⟩ := restored
    obtain rfl : track = other := Option.some.inj (Prod.mk.inj slot).2
    obtain rfl : content = brought := Option.some.inj (found.symm.trans named)
    obtain rfl : qualification = known := Option.some.inj (verified.symm.trans qualified)
    exact ⟨_, latest, rfl, rfl⟩

theorem importMarker_installed {marker : UnknownOutcomeMarker}
    (listed : marker ∈ source.activeUnknownMarkers) :
    Writes.Keeps (Installed collation source) (do
      let _ ← recordReleaseBundleUnknownOutcome marker) := by
  intro store
  apply Writes.keeps_bind_at
  · apply Writes.keeps_lift_bind
    intro _ _
    apply Writes.keeps_lift_bind
    intro _ installed
    have same : Installed collation source store store := .refl store
    exact { same with
      unknown := Filled.update (free_of_installImmutableBytes installed) ⟨listed, rfl⟩ }
  · intro _ last _
    exact Std.Refl.refl last

theorem recordReleaseBundleUnknownOutcome_leaves {marker : UnknownOutcomeMarker}
    {status : InstallStatus}
    (returned : recordReleaseBundleUnknownOutcome marker store = (.ok status, after)) :
    after.unknown (marker.stageOperation, marker.track) = some marker := by
  simp only [recordReleaseBundleUnknownOutcome, Writes.lift_bind_eq_ok, Writes.read_bind,
    Writes.change_bind, Writes.pure_apply, Prod.mk.injEq] at returned
  obtain ⟨_, -, _, -, -, rfl⟩ := returned
  simp

theorem installReleaseBundleOperationControl_leaves {control : OperationControl}
    {status : InstallStatus}
    (returned : installReleaseBundleOperationControl control store = (.ok status, after)) :
    after.control control.operationKind = some control := by
  simp only [installReleaseBundleOperationControl, Writes.lift_bind_eq_ok, Writes.read_bind,
    Writes.change_bind, Writes.pure_apply, Prod.mk.injEq] at returned
  obtain ⟨_, -, _, -, -, rfl⟩ := returned
  simp

theorem importMarkers_leaves (collation : Collation)
    (returned : Writes.forEach (fun marker => do
      let _ ← recordReleaseBundleUnknownOutcome marker) source.activeUnknownMarkers store =
        (.ok (), after)) :
    ∀ marker ∈ source.activeUnknownMarkers,
      after.unknown (marker.stageOperation, marker.track) = some marker := by
  refine Writes.forEach_leaves (Installed collation source)
    (fun marker store => store.unknown (marker.stageOperation, marker.track) = some marker)
    ?_ ?_ ?_ returned
  · intro marker listed
    exact importMarker_installed listed
  · intro marker before later installed held
    exact (installed.unknown _).kept held
  · intro marker _ before later ends
    obtain ⟨_, last, recorded, same⟩ := Writes.bind_eq_ok.1 ends
    obtain rfl : last = later := (Prod.mk.inj same).2
    exact recordReleaseBundleUnknownOutcome_leaves recorded

/-- What the controls of a checkpoint leave in a store. -/
structure Controlled (source : Checkpoint) (store : ReleaseStore) : Prop where
  control : ∀ kind control, source.controlOf kind = some control →
    store.control kind = some control
  legacy : source.operationControls = none → store.legacy = some source

theorem importControls_leaves (collation : Collation) (valid : ValidCheckpoint bundle source)
    (returned : importControls source store = (.ok (), after)) : Controlled source after := by
  unfold importControls at returned
  cases held : source.operationControls with
  | none =>
    simp only [held, markReleaseBundleLegacyCheckpointReadOnly] at returned
    obtain ⟨_, last, marked, ends⟩ := Writes.bind_eq_ok.1 returned
    obtain rfl : last = after := (Prod.mk.inj ends).2
    simp only [Writes.read_bind, Writes.lift_bind_eq_ok, Writes.change_bind, Writes.pure_apply,
      Prod.mk.injEq] at marked
    obtain ⟨_, -, -, rfl⟩ := marked
    constructor
    · intro kind control found
      simp [Checkpoint.controlOf, held] at found
    · intro _
      rfl
  | some controls =>
    simp only [held] at returned
    have each : ∀ control ∈ controls.list,
        after.control control.operationKind = some control := by
      refine Writes.forEach_leaves (Installed collation source)
        (fun control store => store.control control.operationKind = some control) ?_ ?_ ?_ returned
      · intro control listed store
        apply Writes.keeps_bind_at
        · apply Writes.keeps_lift_bind
          intro _ _
          apply Writes.keeps_lift_bind
          intro _ installed
          have same : Installed collation source store store := .refl store
          exact { same with
            control := Filled.update (free_of_installImmutableBytes installed)
              ⟨_, held, listed, rfl⟩ }
        · intro _ last _
          exact Std.Refl.refl last
      · intro control before later installed present
        exact (installed.control _).kept present
      · intro control _ before later ends
        obtain ⟨_, last, installed, same⟩ := Writes.bind_eq_ok.1 ends
        obtain rfl : last = later := (Prod.mk.inj same).2
        exact installReleaseBundleOperationControl_leaves installed
    constructor
    · intro kind control found
      obtain ⟨-, rfl⟩ := valid.control kind control found
      exact each control (mem_list_of_controlOf held found)
    · intro absent
      simp [held] at absent

/-- What a track of a checkpoint leaves in a store. -/
structure Brought (collation : Collation) (source : Checkpoint) (track : Track)
    (store : ReleaseStore) : Prop where
  staged : ∀ content, source.tracks track = some content →
    store.staged track = some (importedAssets collation content)
  verified : ∀ content qualification, source.tracks track = some content →
    content.qualification = some qualification →
      ∃ receipt, store.operation (.verify, some track) = some receipt ∧
        receipt.status.settled = true ∧ receipt.details.qualification = some qualification

theorem restoreQualifiedTrack_eq_ok {track : Track} {control : Option OperationControl}
    {qualification : QualificationReceipt}
    (returned : restoreQualifiedTrack bundle qualification track control store = (.ok (), after)) :
    ∃ staged, store.staged track = some staged ∧
      after = store.record (restoredReceipt track control staged qualification) := by
  simp only [restoreQualifiedTrack, Writes.read_bind, Writes.lift_bind_eq_ok] at returned
  obtain ⟨_, -, _, -, returned⟩ := returned
  cases held : store.staged track with
  | none => simp [held] at returned
  | some staged =>
    simp only [held, Writes.lift_bind_eq_ok] at returned
    obtain ⟨_, -, recorded⟩ := returned
    exact ⟨staged, rfl, (Prod.mk.inj recorded).2.symm⟩

theorem importTrack_leaves {track : Track}
    (returned : importTrack bundle collation source track store = (.ok (), after)) :
    Brought collation source track after := by
  unfold importTrack at returned
  cases found : source.tracks track with
  | none => constructor <;> simp [found]
  | some content =>
    rw [found] at returned
    obtain ⟨_, mid, stages, restored⟩ := Writes.bind_eq_ok.1 returned
    obtain ⟨staged, rfl⟩ := stageReleaseBundleAssets_eq_ok.1 stages
    have assets := staged.sorted
    cases verified : content.qualification with
    | none =>
      rw [verified] at restored
      obtain rfl := (Prod.mk.inj restored).2
      constructor
      · intro brought named
        obtain rfl : content = brought := Option.some.inj (found.symm.trans named)
        simp [assets, importedAssets]
      · intro brought qualification named qualified
        obtain rfl : content = brought := Option.some.inj (found.symm.trans named)
        simp [verified] at qualified
    | some qualification =>
      rw [verified] at restored
      obtain ⟨held, _, rfl⟩ := restoreQualifiedTrack_eq_ok restored
      constructor
      · intro brought named
        obtain rfl : content = brought := Option.some.inj (found.symm.trans named)
        simp [assets, importedAssets]
      · intro brought other named qualified
        obtain rfl : content = brought := Option.some.inj (found.symm.trans named)
        obtain rfl : qualification = other := Option.some.inj (verified.symm.trans qualified)
        exact ⟨_, Function.update_self .., rfl, rfl⟩

theorem importTrack_installed (track : Track) :
    Writes.Keeps (Installed collation source) (importTrack bundle collation source track) := by
  intro store
  have installs : ImportInstalls bundle collation source store _ := importTrack_installs track store
  exact installs.installed

theorem importControls_installed (bundle : ReleaseBundle) :
    Writes.Keeps (Installed collation source) (importControls source) := by
  intro store
  have installs : ImportInstalls bundle collation source store _ := importControls_installs store
  exact installs.installed

theorem importTracks_leaves
    (returned : Writes.forEach (importTrack bundle collation source) (bundleTrackNames bundle)
      store = (.ok (), after)) :
    ∀ track ∈ bundleTrackNames bundle, Brought collation source track after := by
  refine Writes.forEach_leaves (Installed collation source) (Brought collation source)
    ?_ ?_ ?_ returned
  · intro track _
    exact importTrack_installed track
  · intro track before later installed brought
    constructor
    · intro content found
      exact (installed.staged track).kept (brought.staged content found)
    · intro content qualification found verified
      exact installed.verified found verified (brought.verified content qualification found verified)
  · intro track _ before later ends
    exact importTrack_leaves ends

/-- How an import that returned has ended. -/
inductive Imported (bundle : ReleaseBundle) (collation : Collation) (source : Checkpoint)
    (store : ReleaseStore) : ReleaseStore → Prop where
  | again (previous : previousImport store = some source)
      (still : ∀ track ∈ bundleTrackNames bundle,
        assertStillImported store source track = .ok ()) :
      Imported bundle collation source store (store.withBundle source.bundleJson)
  | completed {last} (fresh : previousImport store ≠ some source)
      (installed : Installed collation source store last) (holds : Holds collation source last) :
      Imported bundle collation source store (last.record (importReceipt source))

/-- What the part of an import that writes has left when it returns. -/
theorem importBody_leaves (valid : ValidCheckpoint bundle source) {status : ReceiptStatus}
    (stored : store.bundleJson = some source.bundleJson)
    (ran : importBody bundle collation source store = (.ok status, after)) :
    ∃ last, Installed collation source store last ∧ Holds collation source last ∧
      after = last.record (importReceipt source) := by
  obtain ⟨_, marked, markers, ran⟩ := Writes.bind_eq_ok.1 ran
  obtain ⟨_, controlled, controls, ran⟩ := Writes.bind_eq_ok.1 ran
  obtain ⟨_, last, tracks, ends⟩ := Writes.bind_eq_ok.1 ran
  obtain rfl := (Prod.mk.inj ends).2
  have toMarked : Installed collation source store marked :=
    (Writes.Keeps.forEach fun marker listed => importMarker_installed listed).at markers
  have toControlled : Installed collation source marked controlled :=
    (importControls_installed bundle).at controls
  have toLast : Installed collation source controlled last :=
    (Writes.Keeps.forEach fun track _ => importTrack_installed track).at tracks
  have sinceMarked := toControlled.trans toLast
  have brought := importTracks_leaves tracks
  have kept := importControls_leaves collation valid controls
  refine ⟨last, toMarked.trans sinceMarked, ?_, rfl⟩
  exact {
    bundleJson := (toMarked.trans sinceMarked).bundleJson.kept stored
    unknown := fun marker listed =>
      (sinceMarked.unknown _).kept (importMarkers_leaves collation markers marker listed)
    control := fun kind control found => (toLast.control _).kept (kept.control kind control found)
    legacy := fun absent => toLast.legacy.kept (kept.legacy absent)
    staged := fun track content found => (brought track (valid.mem found)).staged content found
    verified := fun track content qualification found =>
      (brought track (valid.mem found)).verified content qualification found }

/-- An import that returned was let through, and has ended in one of the two ways. -/
theorem imported_of_ok {status : ReceiptStatus}
    (ran : importReleaseBundleCheckpoint bundle collation source store = (.ok status, after)) :
    Lets bundle source store ∧ Imported bundle collation source store after := by
  have lets := lets_of_ok ran
  refine ⟨lets, ?_⟩
  rw [import_eq lets] at ran
  by_cases previous : previousImport store = some source
  · rw [if_pos previous] at ran
    obtain ⟨_, still, ends⟩ := Writes.lift_bind_eq_ok.1 ran
    obtain rfl := (Prod.mk.inj ends).2
    exact .again previous (checkEach_eq_ok.1 still)
  · rw [if_neg previous] at ran
    have valid := validCheckpoint_of_asserts lets.wellFormed lets.consistent
    obtain ⟨last, installed, holds, rfl⟩ := importBody_leaves valid rfl ran
    have same : Installed collation source store store := .refl store
    have start : Installed collation source store (store.withBundle source.bundleJson) :=
      { same with bundleJson := .of_free lets.bundled rfl }
    exact .completed previous (start.trans installed) holds

/-! ## Which stores take a checkpoint -/

/-- What decides whether a store takes a checkpoint that is in order. -/
structure Takes (bundle : ReleaseBundle) (collation : Collation) (source : Checkpoint)
    (store : ReleaseStore) : Prop where
  bundleJson : Free store.bundleJson source.bundleJson
  markers : MarkersAgree store source
  again : previousImport store = some source →
    ∀ track ∈ bundleTrackNames bundle, assertStillImported store source track = .ok ()
  fresh : previousImport store ≠ some source →
    Receptive collation source (bundleTrackNames bundle) store

theorem Installed.receptive (installed : Installed collation source store after)
    (holds : Holds collation source after) : Receptive collation source tracks store where
  unknown marker listed := (installed.unknown _).free (holds.unknown marker listed)
  control kind control found := (installed.control kind).free (holds.control kind control found)
  legacy absent := installed.legacy.free (holds.legacy absent)
  staged track _ content found :=
    (installed.staged track).free (holds.staged track content found)

theorem import_ok_iff_takes (wellFormed : assertReleaseBundleCheckpoint source = .ok ())
    (consistent : assertCheckpointSemantics bundle source = .ok ())
    (qualified : Qualified bundle collation source) :
    (∃ status after,
      importReleaseBundleCheckpoint bundle collation source store = (.ok status, after)) ↔
        Takes bundle collation source store := by
  constructor
  · rintro ⟨status, after, ran⟩
    obtain ⟨lets, imported⟩ := imported_of_ok ran
    cases imported with
    | again previous still =>
      exact ⟨lets.bundled, lets.agree, fun _ => still, fun fresh => absurd previous fresh⟩
    | completed fresh installed holds =>
      exact ⟨lets.bundled, lets.agree, fun previous => absurd previous fresh,
        fun _ => installed.receptive holds⟩
  · intro takes
    rw [import_eq ⟨wellFormed, consistent, takes.bundleJson, takes.markers⟩]
    by_cases previous : previousImport store = some source
    · rw [if_pos previous,
        Writes.lift_bind_of_ok (checkEach_eq_ok.2 (takes.again previous) :
          checkEach (assertStillImported store source) (bundleTrackNames bundle) = .ok ())]
      exact ⟨_, _, rfl⟩
    · rw [if_neg previous]
      have ready : Ready collation source (bundleTrackNames bundle)
        (store.withBundle source.bundleJson) := ⟨rfl, { takes.fresh previous with }⟩
      have valid := validCheckpoint_of_asserts wellFormed consistent
      obtain ⟨status, after, returned, -⟩ := importBody_achieves valid qualified _ ready
      exact ⟨status, after, returned⟩

end

end OnePersonLab.Release

import OnePersonLab.Release.ImportSuccess
import OnePersonLab.Release.Qualification

/-!
# Checkpoints there and back

An import into an empty store brings back what was exported. A store that has been built
keeps the keys of its manifests in the order of the executor's receipts, and takes its own
checkpoint only when that is the order of an import.
-/

namespace OnePersonLab.Release

open Contract Lib

/-! ## What an export reads -/

section

variable {bundle : ReleaseBundle} {collation : Collation} {store : ReleaseStore}

theorem qualificationPath_eq_none {track : Track} :
    qualificationPath store track = .ok none ↔
      (store.operation (.verify, some track)).filter (fun receipt => receipt.status.settled) =
        none := by
  cases settled : (store.operation (.verify, some track)).filter fun receipt =>
    receipt.status.settled with
  | none => simp [qualificationPath, settled]
  | some receipt =>
    cases held : receipt.details.qualification <;> simp [qualificationPath, settled, held]

theorem qualificationPath_eq_some {track : Track} {qualification : QualificationReceipt} :
    qualificationPath store track = .ok (some qualification) ↔
      ∃ receipt, store.operation (.verify, some track) = some receipt ∧
        receipt.status.settled = true ∧ receipt.details.qualification = some qualification := by
  cases settled : (store.operation (.verify, some track)).filter fun receipt =>
    receipt.status.settled with
  | none =>
    simp only [qualificationPath, settled, Except.ok.injEq, reduceCtorEq, false_iff]
    rintro ⟨receipt, held, complete, -⟩
    simp [held, complete] at settled
  | some receipt =>
    obtain ⟨held, complete⟩ := Option.filter_eq_some_iff.1 settled
    simp only [qualificationPath, settled]
    cases known : receipt.details.qualification <;> simp [held, complete, known]

theorem exportTrack_eq_none {track : Track} :
    exportTrack collation store track = .ok none ↔
      store.staged track = none ∧ qualificationPath store track = .ok none := by
  simp only [exportTrack, bind_eq_ok]
  cases held : store.staged track with
  | none =>
    simp only [bind_eq_ok, ensure_eq_ok, pure_eq_ok]
    constructor
    · rintro ⟨_, found, _, rfl, -⟩
      exact ⟨trivial, found⟩
    · rintro ⟨-, found⟩
      exact ⟨none, found, (), rfl, trivial⟩
  | some staged => simp

theorem exportTrack_eq_some {track : Track} {content : CheckpointTrack} :
    exportTrack collation store track = .ok (some content) ↔
      ∃ staged, store.staged track = some staged ∧
        content.assets =
          collation.sortNamed AssetIdentity.name (staged.map StoredAsset.identity) ∧
        qualificationPath store track = .ok content.qualification := by
  simp only [exportTrack, bind_eq_ok]
  cases held : store.staged track with
  | none => simp
  | some staged =>
    simp only [pure_eq_ok, Option.some.injEq]
    constructor
    · rintro ⟨_, found, rfl⟩
      exact ⟨staged, rfl, rfl, found⟩
    · rintro ⟨_, rfl, assets, found⟩
      exact ⟨_, found, by rw [← assets]⟩

theorem exportTracks_eq_ok {tracks : Track → Option CheckpointTrack} :
    exportTracks bundle collation store = .ok tracks ↔
      (∀ track ∈ bundleTrackNames bundle, exportTrack collation store track = .ok (tracks track)) ∧
        (bundle.webui = none → tracks .webui = none) := by
  cases planned : bundle.webui with
  | none =>
    simp only [exportTracks, planned, Option.isSome_none, Bool.false_eq_true, if_false, bind_eq_ok,
      pure_eq_ok, bundleTrackNames]
    constructor
    · rintro ⟨standard, first, _, ⟨⟩, full, last, rfl⟩
      simp [first, last]
    · rintro ⟨each, absent⟩
      refine ⟨_, each .standard (by simp), none, rfl, _, each .full (by simp), ?_⟩
      funext track
      cases track <;> simp [absent]
  | some plan =>
    simp only [exportTracks, planned, Option.isSome_some, if_true, bind_eq_ok, pure_eq_ok,
      bundleTrackNames]
    constructor
    · rintro ⟨standard, first, webui, second, full, last, rfl⟩
      simp [first, second, last]
    · rintro ⟨each, -⟩
      refine ⟨_, each .standard (by simp), _, each .webui (by simp), _, each .full (by simp), ?_⟩
      funext track
      cases track <;> rfl

/-! ## Names in order -/

theorem map_sortNamed {α β : Type} (f : α → β) (name : β → AssetName) (items : List α) :
    (collation.sortNamed (fun item => name (f item)) items).map f =
      collation.sortNamed name (items.map f) :=
  List.map_insertionSort _ _ _ _ fun _ _ _ _ => Iff.rfl

/-- The asset of a manifest that an import writes. -/
def writtenAsset (asset : AssetIdentity) : StoredAsset :=
  ⟨asset, [.name, .path, .sizeBytes, .sha256]⟩

theorem importedAssets_eq {content : CheckpointTrack}
    (ordered : content.assets = collation.sortNamed AssetIdentity.name content.assets) :
    importedAssets collation content = content.assets.map writtenAsset := by
  have written : (content.assets.map checkpointAsset).map ExecutorAsset.stored =
      content.assets.map writtenAsset := by
    simp [checkpointAsset, ExecutorAsset.stored, writtenAsset]
  calc importedAssets collation content
      = collation.sortNamed (fun asset => asset.identity.name)
          (content.assets.map writtenAsset) := by rw [importedAssets, written]
    _ = (collation.sortNamed AssetIdentity.name content.assets).map writtenAsset :=
        (map_sortNamed writtenAsset (fun asset => asset.identity.name) content.assets).symm
    _ = content.assets.map writtenAsset := by rw [← ordered]

/-! ## What a checkpoint has of its store -/

variable {checkpoint : Checkpoint}

theorem Exports.valid (exports : Exports bundle collation store checkpoint) :
    ValidCheckpoint bundle checkpoint :=
  validCheckpoint_of_asserts exports.wellFormed exports.consistent

theorem Exports.found {track : Track} {content : CheckpointTrack}
    (exports : Exports bundle collation store checkpoint)
    (staging : Staging bundle collation store)
    (found : checkpoint.tracks track = some content) :
    ∃ staged, store.staged track = some staged ∧
      content.assets = staged.map StoredAsset.identity ∧
      qualificationPath store track = .ok content.qualification := by
  have exported := (exportTracks_eq_ok.1 exports.tracks).1 track (exports.valid.mem found)
  rw [found] at exported
  obtain ⟨staged, held, assets, verified⟩ := exportTrack_eq_some.1 exported
  refine ⟨staged, held, ?_, verified⟩
  calc content.assets
      = collation.sortNamed AssetIdentity.name (staged.map StoredAsset.identity) := assets
    _ = (collation.sortNamed (fun asset => asset.identity.name) staged).map
          StoredAsset.identity := (map_sortNamed StoredAsset.identity AssetIdentity.name staged).symm
    _ = staged.map StoredAsset.identity := by rw [(staging held).ordered]

theorem Exports.absent {track : Track} (exports : Exports bundle collation store checkpoint)
    (listed : track ∈ bundleTrackNames bundle) (absent : checkpoint.tracks track = none) :
    store.staged track = none ∧ qualificationPath store track = .ok none := by
  have exported := (exportTracks_eq_ok.1 exports.tracks).1 track listed
  rw [absent] at exported
  exact exportTrack_eq_none.1 exported

theorem Exports.staged_isSome (exports : Exports bundle collation store checkpoint)
    (staging : Staging bundle collation store) (track : Track) :
    (checkpoint.tracks track).isSome = (store.staged track).isSome := by
  cases found : checkpoint.tracks track with
  | some content =>
    obtain ⟨staged, held, -⟩ := exports.found staging found
    simp [held]
  | none =>
    cases held : store.staged track with
    | none => rfl
    | some staged =>
      obtain ⟨plan, planned, -⟩ := (staging held).planned
      have absent := (exports.absent (mem_of_plan planned) found).1
      simp [held] at absent

theorem ordered_of_found {track : Track} {content : CheckpointTrack}
    (exports : Exports bundle collation store checkpoint)
    (found : checkpoint.tracks track = some content) :
    content.assets = collation.sortNamed AssetIdentity.name content.assets := by
  have exported := (exportTracks_eq_ok.1 exports.tracks).1 track (exports.valid.mem found)
  rw [found] at exported
  obtain ⟨staged, -, assets, -⟩ := exportTrack_eq_some.1 exported
  rw [assets, sortNamed_sortNamed]

theorem subjectOf_congr {first second : List StoredAsset} {qualification : QualificationReceipt}
    (same : first.map StoredAsset.identity = second.map StoredAsset.identity) :
    subjectOf first qualification = subjectOf second qualification := by
  have through (assets : List StoredAsset) : subjectOf assets qualification =
      ((assets.map StoredAsset.identity).find? fun asset =>
        asset.name.val = qualification.subjectName).map
          fun asset => ⟨asset.sizeBytes, asset.sha256⟩ := by
    simp [subjectOf, List.find?_map, Function.comp_def]
  rw [through, through, same]

/-- The qualifications that a store exports are about the assets that it exports. -/
theorem Exports.qualified (exports : Exports bundle collation store checkpoint)
    (reachable : Reachable bundle collation store) : Qualified bundle collation checkpoint := by
  intro track content qualification found verified
  obtain ⟨staged, held, assets, path⟩ := exports.found reachable.staging found
  rw [verified] at path
  obtain ⟨receipt, latest, -, known⟩ := qualificationPath_eq_some.1 path
  have slotted : Slotted store := reachable.elim fun _ run => run.slotted
  obtain ⟨member, verify, named⟩ := slotted latest
  obtain ⟨stood, other, manifest, same, -, other_known, -, present, qualifies⟩ :=
    (reachable.founded.stands receipt member).verification verify
  obtain rfl : track = stood := Option.some.inj (named.symm.trans same)
  obtain rfl : qualification = other := Option.some.inj (known.symm.trans other_known)
  obtain rfl : staged = manifest := Option.some.inj (held.symm.trans present)
  have identities : (importedAssets collation content).map StoredAsset.identity =
      staged.map StoredAsset.identity := by
    rw [importedAssets_eq (ordered_of_found exports found), List.map_map]
    simp [writtenAsset, Function.comp_def, assets]
  exact ⟨qualifies.bundleDigest, by rw [subjectOf_congr identities, qualifies.subject],
    qualifies.cohort⟩

/-! ## Through an empty store -/

theorem takes_empty : Takes bundle collation checkpoint .empty where
  bundleJson := .inl rfl
  markers := by
    right
    right
    exact ⟨listReleaseBundleUnknownOutcomes_eq_nil.2 fun _ => rfl, nofun⟩
  again := nofun
  fresh _ :=
    { unknown := fun _ _ => .inl rfl
      control := fun _ _ _ => .inl rfl
      legacy := fun _ => .inl rfl
      staged := fun _ _ _ _ => .inl rfl }

variable {last : ReleaseStore}

/-- The controls that an empty store has after an import are those of the checkpoint. -/
theorem control_of_empty (valid : ValidCheckpoint bundle checkpoint)
    (installed : Installed collation checkpoint .empty last)
    (holds : Holds collation checkpoint last) (kind : CanonicalOperation) :
    last.control kind = checkpoint.controlOf kind := by
  cases found : checkpoint.controlOf kind with
  | some control => exact holds.control kind control found
  | none =>
    rcases installed.control kind with same | ⟨-, control, -, controls, held, listed, here⟩
    · exact same
    · obtain ⟨other, known⟩ := controlOf_of_mem_list held listed
      obtain ⟨-, placed⟩ := valid.control other control known
      rw [here, placed, known] at found
      simp at found

theorem legacy_of_empty (installed : Installed collation checkpoint .empty last)
    (holds : Holds collation checkpoint last) :
    last.legacy.isSome = checkpoint.operationControls.isNone := by
  cases held : checkpoint.operationControls with
  | none => simp [holds.legacy held]
  | some controls =>
    rcases installed.legacy with same | ⟨-, _, -, -, absent⟩
    · simp [same, ReleaseStore.empty]
    · simp [held] at absent

theorem unknown_of_empty (exports : Exports bundle collation store checkpoint)
    (marked : Marked bundle store) (installed : Installed collation checkpoint .empty last)
    (holds : Holds collation checkpoint last) : last.unknown = store.unknown := by
  have listed {marker} : marker ∈ checkpoint.activeUnknownMarkers ↔
      ∃ slot, store.unknown slot = some marker := by
    rw [exports.activeUnknownMarkers]
    exact mem_listReleaseBundleUnknownOutcomes
  funext slot
  cases held : store.unknown slot with
  | some marker =>
    rw [marked.placed held]
    exact holds.unknown marker (listed.2 ⟨slot, held⟩)
  | none =>
    rcases installed.unknown slot with same | ⟨-, marker, -, member, here⟩
    · exact same
    · obtain ⟨other, present⟩ := listed.1 member
      rw [here, ← marked.placed present, present] at held
      simp at held

/-- An empty store has after an import what the checkpoint was exported from, as far as an
export goes. -/
theorem exportTrack_of_empty (exports : Exports bundle collation store checkpoint)
    (installed : Installed collation checkpoint .empty last)
    (holds : Holds collation checkpoint last) (track : Track) :
    exportTrack collation last track = .ok (checkpoint.tracks track) := by
  have verified : last.operation (.verify, some track) = none ∨
      ∃ content qualification, checkpoint.tracks track = some content ∧
        content.qualification = some qualification := by
    rcases installed.operation (.verify, some track) with same | ⟨receipt, -, restored, slot⟩
    · exact .inl same
    · obtain ⟨other, content, qualification, _, found, verified, rfl⟩ := restored
      obtain rfl : track = other := Option.some.inj (Prod.mk.inj slot).2
      exact .inr ⟨content, qualification, found, verified⟩
  cases found : checkpoint.tracks track with
  | none =>
    apply exportTrack_eq_none.2
    constructor
    · rcases installed.staged track with same | ⟨-, _, -, content, brought, -⟩
      · exact same
      · simp [found] at brought
    · rcases verified with none | ⟨content, _, brought, -⟩
      · exact qualificationPath_eq_none.2 (by rw [none]; rfl)
      · simp [found] at brought
  | some content =>
    apply exportTrack_eq_some.2
    refine ⟨_, holds.staged track content found, ?_, ?_⟩
    · have ordered := ordered_of_found exports found
      rw [importedAssets_eq ordered, List.map_map]
      simpa [writtenAsset, Function.comp_def] using ordered
    · cases qualified : content.qualification with
      | some qualification =>
        exact qualificationPath_eq_some.2
          (holds.verified track content qualification found qualified)
      | none =>
        rcases verified with none | ⟨other, _, brought, known⟩
        · exact qualificationPath_eq_none.2 (by rw [none]; rfl)
        · obtain rfl := Option.some.inj (found.symm.trans brought)
          simp [qualified] at known

theorem exports_of_empty (exports : Exports bundle collation store checkpoint)
    (marked : Marked bundle store) (installed : Installed collation checkpoint .empty last)
    (holds : Holds collation checkpoint last) : Exports bundle collation last checkpoint where
  bundleDigest := exports.bundleDigest
  bundleJson := holds.bundleJson
  operationControls := by
    rw [legacy_of_empty installed holds, control_of_empty exports.valid installed holds,
      control_of_empty exports.valid installed holds]
    cases held : checkpoint.operationControls with
    | none => rfl
    | some controls =>
      simp [Checkpoint.controlOf, held, OperationControls.of]
  activeUnknownMarkers := by
    rw [exports.activeUnknownMarkers]
    simp only [listReleaseBundleUnknownOutcomes,
      unknown_of_empty exports marked installed holds]
  tracks := exportTracks_eq_ok.2
    ⟨fun track _ => exportTrack_of_empty exports installed holds track, exports.valid.webui⟩
  entryOrder := exports.entryOrder
  wellFormed := exports.wellFormed
  consistent := exports.consistent

/-- The import into an empty store returns, and exports the same checkpoint again. -/
theorem export_import_empty (exports : Exports bundle collation store checkpoint)
    (reachable : Reachable bundle collation store) :
    ∃ status after,
      importReleaseBundleCheckpoint bundle collation checkpoint .empty = (.ok status, after) ∧
        exportReleaseBundleCheckpoint bundle collation after = .ok checkpoint := by
  obtain ⟨status, after, ran⟩ := (import_ok_iff_takes exports.wellFormed exports.consistent
    (exports.qualified reachable)).2 takes_empty
  refine ⟨status, after, ran, ?_⟩
  obtain ⟨-, imported⟩ := imported_of_ok ran
  cases imported with
  | again previous => simp [previousImport, ReleaseStore.empty] at previous
  | completed _ installed holds =>
    have again := exports_of_empty exports reachable.marked installed holds
    exact exportReleaseBundleCheckpoint_eq_ok.2 { again with }

/-! ## Into the store that it was exported from -/

/-- Every manifest of the store has the keys of its assets in the order of an import. -/
def KeysInOrder (store : ReleaseStore) : Prop :=
  ∀ track staged, store.staged track = some staged →
    ∀ asset ∈ staged, asset.keys = [.name, .path, .sizeBytes, .sha256]

theorem map_writtenAsset_eq {staged : List StoredAsset} :
    (staged.map StoredAsset.identity).map writtenAsset = staged ↔
      ∀ asset ∈ staged, asset.keys = [.name, .path, .sizeBytes, .sha256] := by
  rw [List.map_map]
  constructor
  · intro same asset member
    rw [← same] at member
    obtain ⟨_, -, rfl⟩ := List.mem_map.1 member
    rfl
  · intro ordered
    refine (List.map_congr_left ?_).trans (List.map_id staged)
    intro asset member
    have keys := ordered asset member
    obtain ⟨identity, _⟩ := asset
    subst keys
    rfl

theorem free_iff_keysInOrder (exports : Exports bundle collation store checkpoint)
    (staging : Staging bundle collation store) :
    (∀ track content, checkpoint.tracks track = some content →
      Free (store.staged track) (importedAssets collation content)) ↔ KeysInOrder store := by
  constructor
  · intro free track staged held
    have built := exports.staged_isSome staging track
    rw [held, Option.isSome_some, Option.isSome_iff_exists] at built
    obtain ⟨content, found⟩ := built
    obtain ⟨other, present, assets, -⟩ := exports.found staging found
    obtain rfl : staged = other := Option.some.inj (held.symm.trans present)
    rcases free track content found with none | same
    · simp [held] at none
    · rw [held, importedAssets_eq (ordered_of_found exports found), assets,
        Option.some.injEq] at same
      exact map_writtenAsset_eq.1 same.symm
  · intro ordered track content found
    obtain ⟨staged, held, assets, -⟩ := exports.found staging found
    right
    rw [held, importedAssets_eq (ordered_of_found exports found), assets,
      map_writtenAsset_eq.2 (ordered track staged held)]

/-- A store is not read-only, or it is for this very checkpoint. -/
def Unlocked (store : ReleaseStore) (checkpoint : Checkpoint) : Prop :=
  store.legacy = none ∨ store.legacy = some checkpoint

theorem Exports.controlOf (exports : Exports bundle collation store checkpoint)
    {kind : CanonicalOperation} {control : OperationControl}
    (found : checkpoint.controlOf kind = some control) : store.control kind = some control := by
  rw [Checkpoint.controlOf, exports.operationControls] at found
  by_cases legacy : store.legacy.isSome = true
  · simp [legacy] at found
  · rw [if_neg legacy] at found
    cases kind <;> exact found

theorem Exports.still (exports : Exports bundle collation store checkpoint)
    (staging : Staging bundle collation store) (track : Track) :
    assertStillImported store checkpoint track = .ok () := by
  simp only [assertStillImported, bind_eq_ok, ensure_eq_ok]
  refine ⟨(), exports.staged_isSome staging track, ?_⟩
  intro qualified
  obtain ⟨qualification, known⟩ := Option.isSome_iff_exists.1 qualified
  obtain ⟨content, found, verified⟩ := Option.bind_eq_some_iff.1 known
  obtain ⟨_, -, -, path⟩ := exports.found staging found
  rw [verified] at path
  obtain ⟨receipt, latest, settled, -⟩ := qualificationPath_eq_some.1 path
  simp [latest, settled]

theorem takes_self (exports : Exports bundle collation store checkpoint)
    (reachable : Reachable bundle collation store) :
    Takes bundle collation checkpoint store ↔
      previousImport store = some checkpoint ∨
        Unlocked store checkpoint ∧ KeysInOrder store := by
  have keys := free_iff_keysInOrder exports reachable.staging
  constructor
  · intro takes
    by_cases previous : previousImport store = some checkpoint
    · exact .inl previous
    · have receptive := takes.fresh previous
      refine .inr ⟨?_, keys.1 fun track content found =>
        receptive.staged track (exports.valid.mem found) content found⟩
      by_cases absent : checkpoint.operationControls = none
      · exact receptive.legacy absent
      · left
        by_contra locked
        rw [exports.operationControls, if_pos (Option.isSome_iff_ne_none.2 locked)] at absent
        exact absent rfl
  · intro condition
    constructor
    · exact .inr exports.bundleJson
    · exact .inl exports.activeUnknownMarkers.symm
    · intro _ track _
      exact exports.still reachable.staging track
    · intro fresh
      obtain ⟨unlocked, ordered⟩ := condition.resolve_left fresh
      constructor
      · intro marker listed
        rw [exports.activeUnknownMarkers] at listed
        obtain ⟨slot, held⟩ := mem_listReleaseBundleUnknownOutcomes.1 listed
        rw [← reachable.marked.placed held]
        exact .inr held
      · intro kind control found
        exact .inr (exports.controlOf found)
      · intro _
        exact unlocked
      · intro track _
        exact keys.2 ordered track

/-! ## The status of the store -/

/-- What has been installed from the store's own checkpoint was there already. -/
structure Unchanged (store after : ReleaseStore) : Prop where
  bundleJson : after.bundleJson = store.bundleJson
  staged : after.staged = store.staged
  control : after.control = store.control
  unknown : after.unknown = store.unknown
  legacy : after.legacy = store.legacy
  verified : ∀ track,
    (after.operation (.verify, some track)).any (fun receipt => receipt.status.settled) =
      (store.operation (.verify, some track)).any (fun receipt => receipt.status.settled)
  latest : ∀ track, latestPublicationState after track = latestPublicationState store track

theorem Unchanged.status (unchanged : Unchanged store last) (now : Int) :
    readReleaseBundleStatus bundle last now = readReleaseBundleStatus bundle store now := by
  have track (track : Track) (markers : List UnknownOutcomeMarker) :
      trackStatus last track markers = trackStatus store track markers := by
    simp only [trackStatus, unchanged.staged, unchanged.verified, unchanged.latest]
  simp only [readReleaseBundleStatus, readStoredReleaseBundle, latestEligible,
    listReleaseBundleUnknownOutcomes, unchanged.bundleJson, unchanged.control, unchanged.unknown,
    unchanged.legacy, track]

theorem Filled.eq_of_held {α : Type} {fresh : α → Prop} {before after : Option α}
    (filled : Filled fresh before after) (held : ∀ content, fresh content → before ≠ none) :
    after = before := by
  rcases filled with same | ⟨empty, content, -, new⟩
  · exact same
  · exact absurd empty (held content new)

theorem unchanged_of_installed (exports : Exports bundle collation store checkpoint)
    (reachable : Reachable bundle collation store)
    (installed : Installed collation checkpoint store last) : Unchanged store last where
  bundleJson := installed.bundleJson.eq_of_held fun _ _ => by simp [exports.bundleJson]
  staged := by
    funext track
    apply (installed.staged track).eq_of_held
    rintro _ ⟨content, found, -⟩
    obtain ⟨staged, held, -⟩ := exports.found reachable.staging found
    simp [held]
  control := by
    funext kind
    apply (installed.control kind).eq_of_held
    rintro control ⟨controls, held, listed, rfl⟩
    obtain ⟨kind, found⟩ := controlOf_of_mem_list held listed
    obtain ⟨-, rfl⟩ := exports.valid.control kind control found
    simp [exports.controlOf found]
  unknown := by
    funext slot
    apply (installed.unknown slot).eq_of_held
    rintro marker ⟨listed, rfl⟩
    rw [exports.activeUnknownMarkers] at listed
    obtain ⟨other, held⟩ := mem_listReleaseBundleUnknownOutcomes.1 listed
    rw [← reachable.marked.placed held, held]
    exact nofun
  legacy := by
    apply installed.legacy.eq_of_held
    rintro _ ⟨-, absent⟩ live
    rw [exports.operationControls, live] at absent
    simp at absent
  verified track := by
    rcases installed.operation (.verify, some track) with same | ⟨receipt, latest, restored, slot⟩
    · rw [same]
    · obtain ⟨other, content, qualification, _, found, verified, rfl⟩ := restored
      obtain rfl : track = other := Option.some.inj (Prod.mk.inj slot).2
      obtain ⟨_, -, -, path⟩ := exports.found reachable.staging found
      rw [verified] at path
      obtain ⟨earlier, held, settled, -⟩ := qualificationPath_eq_some.1 path
      rw [latest, held, Option.any_some, Option.any_some, settled]
      rfl
  latest track := by
    rw [← latest_publicationState, ← latest_publicationState, installed.publicationState]

/-- A store that takes its own checkpoint reports what it reported before. -/
theorem status_of_import (exports : Exports bundle collation store checkpoint)
    (reachable : Reachable bundle collation store) {status : ReceiptStatus} {after : ReleaseStore}
    (ran : importReleaseBundleCheckpoint bundle collation checkpoint store = (.ok status, after))
    (now : Int) :
    readReleaseBundleStatus bundle after now = readReleaseBundleStatus bundle store now := by
  obtain ⟨-, imported⟩ := imported_of_ok ran
  cases imported with
  | again =>
    have same : Unchanged store (store.withBundle checkpoint.bundleJson) :=
      ⟨exports.bundleJson.symm, rfl, rfl, rfl, rfl, fun _ => rfl, fun _ => rfl⟩
    exact same.status now
  | @completed last _ installed =>
    have unchanged := unchanged_of_installed exports reachable installed
    have recorded : Unchanged store (last.record (importReceipt checkpoint)) := { unchanged with }
    exact recorded.status now

/-! ## There and back -/

/-- Two stores have staged the same assets, in whatever order and with whatever keys. -/
def SameAssets (store other : ReleaseStore) : Prop :=
  ∀ track, (store.staged track).isSome = (other.staged track).isSome ∧
    ∀ assets others, store.staged track = some assets → other.staged track = some others →
      (assets.map StoredAsset.identity).Perm (others.map StoredAsset.identity)

/-- The manifests of a store are those that an import of the checkpoint would write. -/
def Written (checkpoint : Checkpoint) (store : ReleaseStore) : Prop :=
  ∀ track content staged, checkpoint.tracks track = some content →
    store.staged track = some staged → staged = content.assets.map writtenAsset

/-- What a store with the assets of a checkpoint must have to take it: nothing that is
immutable speaks against it, and its manifests are written as an import writes them. -/
structure Compatible (bundle : ReleaseBundle) (checkpoint : Checkpoint) (other : ReleaseStore) :
    Prop where
  bundleJson : Free other.bundleJson checkpoint.bundleJson
  markers : MarkersAgree other checkpoint
  again : previousImport other = some checkpoint →
    ∀ track ∈ bundleTrackNames bundle, assertStillImported other checkpoint track = .ok ()
  unknown : previousImport other ≠ some checkpoint → ∀ marker ∈ checkpoint.activeUnknownMarkers,
    Free (other.unknown (marker.stageOperation, marker.track)) marker
  control : previousImport other ≠ some checkpoint → ∀ kind control,
    checkpoint.controlOf kind = some control → Free (other.control kind) control
  unlocked : previousImport other ≠ some checkpoint → checkpoint.operationControls = none →
    Unlocked other checkpoint
  written : previousImport other ≠ some checkpoint → Written checkpoint other

/-- What an export and the imports of it do, for the store that was exported and for every
other one with the same assets. -/
structure RoundTrip (bundle : ReleaseBundle) (collation : Collation) (store : ReleaseStore)
    (checkpoint : Checkpoint) : Prop where
  fresh : ∃ status after,
    importReleaseBundleCheckpoint bundle collation checkpoint .empty = (.ok status, after) ∧
      exportReleaseBundleCheckpoint bundle collation after = .ok checkpoint
  self : (∃ status after,
    importReleaseBundleCheckpoint bundle collation checkpoint store = (.ok status, after) ∧
      ∀ now, readReleaseBundleStatus bundle after now = readReleaseBundleStatus bundle store now) ↔
        previousImport store = some checkpoint ∨ Unlocked store checkpoint ∧ KeysInOrder store
  others : ∀ other, SameAssets store other →
    ((∃ status after,
      importReleaseBundleCheckpoint bundle collation checkpoint other = (.ok status, after)) ↔
        Compatible bundle checkpoint other)

theorem takes_iff_compatible (exports : Exports bundle collation store checkpoint)
    (staging : Staging bundle collation store) {other : ReleaseStore}
    (same : SameAssets store other) :
    Takes bundle collation checkpoint other ↔ Compatible bundle checkpoint other := by
  have imported {track content} (found : checkpoint.tracks track = some content) :
      importedAssets collation content = content.assets.map writtenAsset :=
    importedAssets_eq (ordered_of_found exports found)
  constructor
  · intro takes
    refine ⟨takes.bundleJson, takes.markers, takes.again, ?_, ?_, ?_, ?_⟩
    · intro fresh
      exact (takes.fresh fresh).unknown
    · intro fresh
      exact (takes.fresh fresh).control
    · intro fresh
      exact (takes.fresh fresh).legacy
    · intro fresh track content staged found held
      rcases (takes.fresh fresh).staged track (exports.valid.mem found) content found with
        none | present
      · simp [held] at none
      · rw [held, imported found] at present
        exact Option.some.inj present
  · intro compatible
    refine ⟨compatible.bundleJson, compatible.markers, compatible.again, ?_⟩
    intro fresh
    refine ⟨compatible.unknown fresh, compatible.control fresh, compatible.unlocked fresh, ?_⟩
    intro track _ content found
    have built := exports.staged_isSome staging track
    rw [found, (same track).1] at built
    obtain ⟨staged, held⟩ := Option.isSome_iff_exists.1 built.symm
    right
    rw [held, imported found, compatible.written fresh track content staged found held]

end

/-! ## Manifests of executors -/

theorem builds_refused :
    importsBetween Script.bundle Script.collation
      (perform Script.bundle Script.collation Script.builds .empty)
      (perform Script.bundle Script.collation Script.builds .empty)
      (fun _ outcome _ => outcome.toOption.isNone) = true := by
  decide +kernel

end OnePersonLab.Release

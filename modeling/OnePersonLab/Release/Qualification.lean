import OnePersonLab.Release.Script

/-!
# What verified and published stand on

A verification that is recorded stands on a qualification of a staged asset, and so
do the stages that come from it. A publication is observed on the remote before the
installed artifact is verified, and stands on the staged assets alone.
-/

namespace OnePersonLab.Release

open Contract Lib

/-! ## What a recorded receipt stands on -/

/-- What a verification and a publication have found when they were recorded. -/
structure Stands (bundle : ReleaseBundle) (store : ReleaseStore) (receipt : OperationReceipt) :
    Prop where
  verification : receipt.operation = .verify → ∃ track qualification staged,
    receipt.track = some track ∧ receipt.status.settled = true ∧
      receipt.details.qualification = some qualification ∧ qualification.track = track ∧
      store.staged track = some staged ∧ Qualifies bundle staged qualification
  publication : isPublication receipt = true → ∃ track staged,
    receipt.track = some track ∧ store.staged track = some staged

section

variable {bundle : ReleaseBundle} {collation : Collation} {store after : ReleaseStore}
  {command : Command} {receipt : OperationReceipt}

theorem Stands.later (stands : Stands bundle store receipt)
    (staged : ∀ {track assets}, store.staged track = some assets →
      after.staged track = some assets) : Stands bundle after receipt := by
  constructor
  · intro verify
    obtain ⟨track, qualification, assets, named, settled, found, same, held, qualifies⟩ :=
      stands.verification verify
    exact ⟨track, qualification, assets, named, settled, found, same, staged held, qualifies⟩
  · intro published
    obtain ⟨track, assets, named, held⟩ := stands.publication published
    exact ⟨track, assets, named, staged held⟩

/-- A receipt that is neither a verification nor a publication stands on nothing. -/
theorem stands_of_other (verify : receipt.operation ≠ .verify)
    (publication : isPublication receipt = false) : Stands bundle store receipt :=
  ⟨fun same => absurd same verify, fun same => by simp [publication] at same⟩

theorem stands_of_published {track : Track} {staged : List StoredAsset}
    (verify : receipt.operation ≠ .verify) (named : receipt.track = some track)
    (held : store.staged track = some staged) : Stands bundle store receipt :=
  ⟨fun same => absurd same verify, fun _ => ⟨track, staged, named, held⟩⟩

theorem stands_of_qualified {track : Track} {staged : List StoredAsset}
    {qualification : QualificationReceipt} (kind : receipt.operation = .verify)
    (named : receipt.track = some track) (settled : receipt.status.settled = true)
    (found : receipt.details.qualification = some qualification)
    (same : qualification.track = track) (held : store.staged track = some staged)
    (qualifies : Qualifies bundle staged qualification) : Stands bundle store receipt :=
  ⟨fun _ => ⟨track, qualification, staged, named, settled, found, same, held, qualifies⟩,
    fun published => by simp [isPublication, kind] at published⟩

theorem Transition.stands (transition : Transition bundle collation store command receipt after) :
    Stands bundle store receipt := by
  cases transition with
  | froze => exact stands_of_other nofun rfl
  | admitted => exact stands_of_other nofun rfl
  | readmitted => exact stands_of_other nofun rfl
  | buildUnknown _ _ _ recorded => subst recorded; exact stands_of_other nofun rfl
  | buildStillUnknown _ _ _ _ recorded => subst recorded; exact stands_of_other nofun rfl
  | buildLate _ _ _ _ _ recorded => subst recorded; exact stands_of_other nofun rfl
  | built _ _ _ _ recorded => subst recorded; exact stands_of_other nofun rfl
  | buildReconciled _ _ _ _ _ _ recorded => subst recorded; exact stands_of_other nofun rfl
  | verified _ _ _ held qualifies settled recorded =>
    subst recorded
    refine stands_of_qualified rfl rfl ?_ rfl rfl held qualifies
    rcases settled with rfl | rfl <;> rfl
  | publishUnknown _ _ publishable _ recorded =>
    subst recorded
    exact stands_of_published nofun rfl publishable.held
  | publishStillUnknown _ _ _ publishable _ recorded =>
    subst recorded
    exact stands_of_published nofun rfl publishable.held
  | externalPublished _ _ publishable _ _ recorded =>
    subst recorded
    exact stands_of_published nofun rfl publishable.held
  | externalReconciled _ _ _ publishable _ _ _ recorded =>
    subst recorded
    exact stands_of_published nofun rfl publishable.held
  | assetsMissing _ _ _ publishable _ _ _ _ recorded =>
    subst recorded
    exact stands_of_published nofun rfl publishable.held
  | assetsPublished _ _ publishable _ _ _ _ recorded =>
    subst recorded
    exact stands_of_published nofun rfl publishable.held
  | assetsReconciled _ _ _ publishable _ _ _ _ recorded =>
    subst recorded
    exact stands_of_published nofun rfl publishable.held

/-- Every recorded receipt stands on something, and a verified track has a latest verification. -/
structure Founded (bundle : ReleaseBundle) (store : ReleaseStore) : Prop where
  stands : ∀ receipt ∈ store.receipts, Stands bundle store receipt
  verified : ∀ receipt ∈ store.receipts, receipt.operation = .verify →
    ∃ latest, store.operation (.verify, receipt.track) = some latest

theorem Records.founded (records : Records store receipt after) (founded : Founded bundle store)
    (stands : Stands bundle store receipt) : Founded bundle after := by
  constructor
  · intro recorded member
    rw [records.receipts] at member
    rcases List.mem_append.1 member with earlier | new
    · exact (founded.stands recorded earlier).later records.staged
    · obtain rfl := List.mem_singleton.1 new
      exact stands.later records.staged
  · intro recorded member verify
    by_cases same : (ReceiptOperation.verify, recorded.track) = (receipt.operation, receipt.track)
    · rw [same]
      exact ⟨receipt, records.latest⟩
    rw [records.receipts] at member
    rcases List.mem_append.1 member with earlier | new
    · obtain ⟨latest, found⟩ := founded.verified recorded earlier verify
      rcases records.others _ same with kept | ⟨-, cleared, -⟩
      · exact ⟨latest, kept.trans found⟩
      · simp at cleared
    · obtain rfl := List.mem_singleton.1 new
      simp [verify] at same

theorem Founded.later (founded : Founded bundle store) (receipts : after.receipts = store.receipts)
    (operation : after.operation = store.operation)
    (staged : ∀ {track assets}, store.staged track = some assets →
      after.staged track = some assets) : Founded bundle after := by
  constructor
  · intro recorded member
    rw [receipts] at member
    exact (founded.stands recorded member).later staged
  · intro recorded member verify
    rw [receipts] at member
    rw [operation]
    exact founded.verified recorded member verify

theorem ImportChange.founded {checkpoint : Checkpoint}
    (change : ImportChange bundle collation checkpoint store after)
    (founded : Founded bundle store) : Founded bundle after := by
  cases change with
  | recorded => exact (Records.record rfl rfl id).founded founded (stands_of_other nofun rfl)
  | installed _ install =>
    cases install with
    | bundled => exact founded.later rfl rfl id
    | marked => exact founded.later rfl rfl id
    | controlled => exact founded.later rfl rfl id
    | readOnly => exact founded.later rfl rfl id
    | staged _ stages => exact founded.later rfl rfl (update_of_free stages.free)
    | qualified _ _ named held qualifies =>
      apply (Records.record rfl rfl id).founded founded
      exact stands_of_qualified rfl rfl rfl rfl named held qualifies

theorem Reachable.founded (reachable : Reachable bundle collation store) :
    Founded bundle store := by
  apply reachable.invariant (Founded bundle)
  · constructor <;> simp [ReleaseStore.empty]
  · intro _ _ _ _ founded transition
    exact transition.records.founded founded transition.stands
  · intro _ _ _ founded change
    exact change.founded founded

end

/-! ## Status, envelope and events -/

/-- The latest verification of a track is complete, and its qualification binds the bundle
and a staged asset of the track. -/
def QualifiedVerification (bundle : ReleaseBundle) (store : ReleaseStore) (track : Track) : Prop :=
  ∃ receipt qualification staged,
    store.operation (.verify, some track) = some receipt ∧ receipt.status.settled = true ∧
      receipt.details.qualification = some qualification ∧ qualification.track = track ∧
      store.staged track = some staged ∧ Qualifies bundle staged qualification

/-- The latest publication of a track is complete, and the track is built. -/
def PublishedBuild (store : ReleaseStore) (track : Track) : Prop :=
  ∃ receipt staged, latestPublicationState store track = some receipt ∧
    receipt.status = .complete ∧ store.staged track = some staged

/-- What every report of a store that speaks of qualified or published tracks stands on. -/
structure QualifiedReports (bundle : ReleaseBundle) (store : ReleaseStore) : Prop where
  verified : ∀ track markers, (trackStatus store track markers).verified = true →
    QualifiedVerification bundle store track
  published : ∀ track markers, (trackStatus store track markers).published = true →
    PublishedBuild store track
  latest : latestEligible bundle store = true →
    ∀ track ∈ stableRequiredTrackNames bundle, PublishedBuild store track
  envelope : ∀ track now envelope,
    buildReleaseBundleConsumerEnvelope bundle store track now = .ok envelope →
      envelope.checkpointStage.isQualified = true →
      QualifiedVerification bundle store track.track ∨ PublishedBuild store track.track
  verifyEvent : ∀ receipt ∈ store.receipts, receipt.operation = .verify →
    ∃ track, receipt.track = some track ∧ QualifiedVerification bundle store track
  otherEvent : ∀ receipt ∈ store.receipts,
    (checkpointStageForReceipt receipt).isQualified = true → receipt.operation ≠ .verify →
      isPublication receipt = true ∧
        ∃ track staged, receipt.track = some track ∧ store.staged track = some staged

section

variable {bundle : ReleaseBundle} {collation : Collation} {store : ReleaseStore}

theorem Founded.qualified {receipt : OperationReceipt} {track : Track}
    (founded : Founded bundle store) (slotted : Slotted store)
    (found : store.operation (.verify, some track) = some receipt) :
    QualifiedVerification bundle store track := by
  obtain ⟨member, verify, named⟩ := slotted found
  obtain ⟨stood, qualification, staged, same, settled, held⟩ :=
    (founded.stands receipt member).verification verify
  obtain rfl : track = stood := Option.some.inj (named.symm.trans same)
  exact ⟨receipt, qualification, staged, found, settled, held⟩

theorem isPublication_of_latest {receipt : OperationReceipt} {track : Track}
    (slotted : Slotted store) (latest : latestPublicationState store track = some receipt) :
    receipt ∈ store.receipts ∧ receipt.track = some track ∧ isPublication receipt = true := by
  unfold latestPublicationState at latest
  split at latest
  · rename_i reconciliation found
    obtain rfl : reconciliation = receipt := Option.some.inj latest
    rw [Option.filter_eq_some_iff] at found
    obtain ⟨member, reconcile, named⟩ := slotted found.1
    exact ⟨member, named, by simp [isPublication, reconcile, found.2]⟩
  · obtain ⟨member, publish, named⟩ := slotted latest
    exact ⟨member, named, by simp [isPublication, publish]⟩

theorem Founded.published {track : Track} (founded : Founded bundle store)
    (slotted : Slotted store)
    (published : (latestPublicationState store track).any (fun receipt =>
      receipt.status = .complete) = true) : PublishedBuild store track := by
  cases latest : latestPublicationState store track with
  | none => simp [latest] at published
  | some receipt =>
    have complete : receipt.status = .complete := by simpa [latest] using published
    obtain ⟨member, named, publication⟩ := isPublication_of_latest slotted latest
    obtain ⟨stood, staged, same, held⟩ := (founded.stands receipt member).publication publication
    obtain rfl : track = stood := Option.some.inj (named.symm.trans same)
    exact ⟨receipt, staged, latest, complete, held⟩

theorem envelope_track {track : EnvelopeTrack} {now : Int} {envelope : ConsumerEnvelope}
    (built : buildReleaseBundleConsumerEnvelope bundle store track now = .ok envelope) :
    envelope.checkpointStage = checkpointStageForTrack track
      (trackStatus store track.track (listReleaseBundleUnknownOutcomes store)) := by
  simp only [buildReleaseBundleConsumerEnvelope, readReleaseBundleStatus, bind_eq_ok,
    pure_eq_ok] at built
  obtain ⟨_, ⟨_, -, rfl⟩, rfl⟩ := built
  cases track <;> rfl

/-- Whatever a store reports as verified or published, and every stage of its events and
envelopes that is a qualified one, stands on a verification or on a publication. -/
theorem qualifiedReports_of_reachable (reachable : Reachable bundle collation store) :
    QualifiedReports bundle store := by
  have founded := reachable.founded
  have slotted : Slotted store := reachable.elim fun _ run => run.slotted
  constructor
  · intro track markers verified
    cases found : store.operation (.verify, some track) with
    | none => simp [trackStatus, found] at verified
    | some receipt => exact founded.qualified slotted found
  · intro track markers published
    exact founded.published slotted published
  · intro eligible track required
    have reported := List.all_eq_true.1 eligible track required
    simp only [Bool.and_eq_true] at reported
    exact founded.published slotted reported.1
  · intro track now envelope built qualified
    rw [envelope_track built] at qualified
    rcases verified_or_published qualified with verified | published
    · left
      cases found : store.operation (.verify, some track.track) with
      | none => simp [trackStatus, found] at verified
      | some receipt => exact founded.qualified slotted found
    · right
      exact founded.published slotted published
  · intro receipt member verify
    obtain ⟨latest, found⟩ := founded.verified receipt member verify
    obtain ⟨track, _, _, named, -⟩ := (founded.stands receipt member).verification verify
    rw [named] at found
    exact ⟨track, named, founded.qualified slotted found⟩
  · intro receipt member qualified other
    have publication := (verify_or_publication qualified).resolve_left other
    exact ⟨publication, (founded.stands receipt member).publication publication⟩

end

/-- A run that verifies the standard track before it is published. -/
theorem qualifiedReports_verified :
    QualifiedReports Script.bundle (perform Script.bundle Script.collation
      (Script.builds ++ [Script.verify .standard, Script.publish .standard]) .empty) :=
  qualifiedReports_of_reachable (reachable_perform _)

/-- What the published store reports, from one evaluation of its run. -/
theorem publishes_reports :
    (trackStatus (perform Script.bundle Script.collation Script.publishes .empty) .standard
      []).published = true ∧
    latestEligible Script.bundle
      (perform Script.bundle Script.collation Script.publishes .empty) = true ∧
    ((buildReleaseBundleConsumerEnvelope Script.bundle
      (perform Script.bundle Script.collation Script.publishes .empty) .standard 3).toOption.any
        fun envelope => envelope.checkpointStage = .stableQualified) = true ∧
    ((perform Script.bundle Script.collation Script.publishes .empty).receipts.any fun receipt =>
      checkpointStageForReceipt receipt = .stableQualified) = true ∧
    (perform Script.bundle Script.collation Script.publishes .empty).operation
      (.verify, some .standard) = none := by
  decide +kernel

/-- The standard track is published and eligible for latest without any verification. -/
theorem published_without_verification :
    let store := perform Script.bundle Script.collation Script.publishes .empty
    Reachable Script.bundle Script.collation store ∧
      (trackStatus store .standard []).published = true ∧
      latestEligible Script.bundle store = true ∧
      (∃ envelope, buildReleaseBundleConsumerEnvelope Script.bundle store .standard 3 =
        .ok envelope ∧ envelope.checkpointStage = .stableQualified) ∧
      (∃ receipt ∈ store.receipts, checkpointStageForReceipt receipt = .stableQualified) ∧
      ¬ QualifiedVerification Script.bundle store .standard := by
  obtain ⟨published, eligible, reported, staged, unverified⟩ := publishes_reports
  intro store
  refine ⟨reachable_perform _, published, eligible, ?_, ?_, ?_⟩
  · change ((buildReleaseBundleConsumerEnvelope Script.bundle store .standard
      3).toOption.any fun envelope => envelope.checkpointStage = .stableQualified) = true at reported
    cases built : buildReleaseBundleConsumerEnvelope Script.bundle store .standard 3 with
    | error failure => simp [built, Except.toOption] at reported
    | ok envelope =>
      rw [built] at reported
      exact ⟨envelope, rfl, by simpa [Except.toOption] using reported⟩
  · obtain ⟨receipt, member, qualified⟩ := List.any_eq_true.1 staged
    exact ⟨receipt, member, by simpa using qualified⟩
  · rintro ⟨receipt, _, _, found, -⟩
    cases unverified.symm.trans found

end OnePersonLab.Release

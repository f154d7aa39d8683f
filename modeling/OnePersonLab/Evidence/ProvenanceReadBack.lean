import OnePersonLab.Evidence.ProvenanceAdmission
import OnePersonLab.Lib.ExactRuns

/-!
# What the ledger of provenance bundles gives back

A history keeps what every recording call returned. The ledger gives the last record of each
artifact and of each bundle back along a whole run exactly if every recorded bundle is plain and
no call records again a bundle that a later one of its artifact stands before.
-/

namespace OnePersonLab.Evidence.Provenance

open Contract
open Lib

/-! ## Putting a record -/

section

variable {records : List Record} {record : Record}

theorem modify_findIdx {α : Type} {p : α → Bool} {front back : List α} {old : α} (f : α → α)
    (others : ∀ entry ∈ front, p entry = false) (found : p old = true) :
    (front ++ old :: back).modify ((front ++ old :: back).findIdx p) f =
      front ++ f old :: back := by
  induction front with
  | nil => rw [List.nil_append, List.findIdx_cons, found]; rfl
  | cons entry rest ih =>
    rw [List.forall_mem_cons] at others
    rw [List.cons_append, List.findIdx_cons, others.1]
    exact congrArg (List.cons entry) (ih others.2)

/-- A record takes the place of the one with its key, or comes first. -/
theorem putRecord_cases (records : List Record) (record : Record) :
    (∃ front old back, records = front ++ old :: back ∧ old.key = record.key ∧
      (∀ entry ∈ front, entry.key ≠ record.key) ∧
      putRecord records record = front ++ record :: back) ∨
    (∀ entry ∈ records, entry.key ≠ record.key) ∧ putRecord records record = record :: records := by
  rw [putRecord]
  cases found : records.find? fun entry => decide (entry.key = record.key) with
  | some old =>
    left
    obtain ⟨same, front, back, rfl, others⟩ := List.find?_eq_some_iff_append.1 found
    have front_ne : ∀ entry ∈ front, decide (entry.key = record.key) = false := by
      intro entry listed
      simpa using others entry listed
    refine ⟨front, old, back, rfl, of_decide_eq_true same,
      fun entry listed => of_decide_eq_false (front_ne entry listed), ?_⟩
    rw [if_pos (List.any_eq_true.2 ⟨old, List.mem_append_right _ List.mem_cons_self, same⟩)]
    exact modify_findIdx (fun _ => record) front_ne same
  | none =>
    right
    have unknown : ∀ entry ∈ records, entry.key ≠ record.key := by
      intro entry listed
      simpa using List.find?_eq_none.1 found entry listed
    refine ⟨unknown, if_neg ?_⟩
    rw [List.any_eq_true]
    rintro ⟨entry, listed, same⟩
    exact unknown entry listed (of_decide_eq_true same)

theorem putRecord_nodup (distinct : (records.map Record.key).Nodup) :
    ((putRecord records record).map Record.key).Nodup := by
  obtain ⟨front, old, back, rfl, same, -, put⟩ | ⟨unknown, put⟩ := putRecord_cases records record
  · rw [put]
    rw [List.map_append, List.map_cons, same] at distinct
    rwa [List.map_append, List.map_cons]
  · rw [put, List.map_cons, List.nodup_cons]
    refine ⟨?_, distinct⟩
    intro known
    obtain ⟨entry, listed, same⟩ := List.mem_map.1 known
    exact unknown entry listed same

theorem mem_putRecord (distinct : (records.map Record.key).Nodup) {entry : Record} :
    entry ∈ putRecord records record ↔
      entry = record ∨ entry ∈ records ∧ entry.key ≠ record.key := by
  obtain ⟨front, old, back, rfl, same, -, put⟩ | ⟨unknown, put⟩ := putRecord_cases records record
  · rw [put]
    rw [List.map_append, List.map_cons, List.nodup_append, List.nodup_cons] at distinct
    obtain ⟨-, ⟨notBack, -⟩, apart⟩ := distinct
    have front_ne : ∀ other ∈ front, other.key ≠ record.key := fun other listed =>
      same ▸ apart _ (List.mem_map_of_mem listed) _ List.mem_cons_self
    have back_ne : ∀ other ∈ back, other.key ≠ record.key := by
      intro other listed equal
      exact notBack (same.trans equal.symm ▸ List.mem_map_of_mem listed)
    simp only [List.mem_append, List.mem_cons]
    constructor
    · rintro (before | rfl | behind)
      · exact .inr ⟨.inl before, front_ne entry before⟩
      · exact .inl rfl
      · exact .inr ⟨.inr (.inr behind), back_ne entry behind⟩
    · rintro (rfl | ⟨before | rfl | behind, other⟩)
      · exact .inr (.inl rfl)
      · exact .inl before
      · exact absurd same other
      · exact .inr (.inr behind)
  · rw [put, List.mem_cons]
    exact or_congr_right ⟨fun listed => ⟨listed, unknown entry listed⟩, And.left⟩

/-- The first record of an artifact. -/
def firstOf (records : List Record) (artifactRef : String) : Option Record :=
  records.find? fun record => record.artifactRef = artifactRef

theorem firstOf_putRecord_other {artifactRef : String} (other : record.artifactRef ≠ artifactRef) :
    firstOf (putRecord records record) artifactRef = firstOf records artifactRef := by
  have skipped : decide (record.artifactRef = artifactRef) = false := decide_eq_false other
  obtain ⟨front, old, back, rfl, same, -, put⟩ | ⟨_, put⟩ := putRecord_cases records record
  · have artifact : old.artifactRef = record.artifactRef :=
      congrArg (fun key : String × String × String => key.2.2) same
    rw [put, firstOf, firstOf, List.find?_append, List.find?_append, List.find?_cons,
      List.find?_cons, artifact, skipped]
  · rw [put, firstOf, List.find?_cons, skipped]
    rfl

/-- A record is new, or its predecessor is the first of the artifact. -/
def Positioned (records : List Record) (key : String × String × String) : Prop :=
  (∀ entry ∈ records, entry.key ≠ key) ∨ ∀ first ∈ firstOf records key.2.2, first.key = key

instance (records : List Record) (key : String × String × String) :
    Decidable (Positioned records key) := inferInstanceAs (Decidable (_ ∨ _))

theorem firstOf_putRecord_iff : firstOf (putRecord records record) record.artifactRef =
    some record ↔ Positioned records record.key := by
  have own : decide (record.artifactRef = record.artifactRef) = true := decide_eq_true rfl
  obtain ⟨front, old, back, rfl, same, front_ne, put⟩ | ⟨unknown, put⟩ :=
    putRecord_cases records record
  · have artifact : old.artifactRef = record.artifactRef :=
      congrArg (fun key : String × String × String => key.2.2) same
    have known : ¬∀ entry ∈ front ++ old :: back, entry.key ≠ record.key := fun unknown =>
      unknown old (List.mem_append_right _ List.mem_cons_self) same
    rw [put, Positioned, or_iff_right known]
    show _ ↔ ∀ first ∈ firstOf (front ++ old :: back) record.artifactRef, first.key = record.key
    rw [firstOf, firstOf, List.find?_append, List.find?_append]
    cases earlier : front.find? fun entry => decide (entry.artifactRef = record.artifactRef) with
    | some first =>
      have apart := front_ne first (List.mem_of_find?_eq_some earlier)
      refine iff_of_false ?_ ?_
      · intro equal
        exact apart (congrArg Record.key (Option.some.inj equal))
      · intro positioned
        exact apart (positioned first rfl)
    | none =>
      rw [List.find?_cons, List.find?_cons, artifact, own]
      refine iff_of_true rfl ?_
      intro first found
      obtain rfl := Option.some.inj found
      exact same
  · rw [put, firstOf, List.find?_cons, own]
    exact iff_of_true rfl (.inl unknown)

end

/-! ## Runs -/

/-- The file and, newest first, the records that were returned. -/
structure Ledger where
  file : LedgerFile
  returned : List Record

def Ledger.initial : Ledger := ⟨none, []⟩

section

variable (platform : BundlePlatform)

def runCall (ledger : Ledger) (call : RecordCall) : Ledger :=
  match recordArtifactProvenanceBundle platform ledger.file call with
  | .ok (file, record) => { file, returned := record :: ledger.returned }
  | .error _ => ledger

def run (calls : List RecordCall) : Ledger := calls.foldl (runCall platform) Ledger.initial

/-- The last of the records of its bundle, domain and artifact. -/
def LastOf (returned : List Record) (record : Record) : Prop :=
  (returned.find? fun earlier => earlier.key = record.key) = some record

/-- An inspection of a recorded artifact finds its last record, and of each of its bundles
and domains the last record once. -/
def ReadBack (ledger : Ledger) : Prop :=
  ∀ (nowIso artifactRef : String) (latest : Record),
    firstOf ledger.returned artifactRef = some latest →
      ∃ found, inspectArtifactProvenanceBundle nowIso ledger.file artifactRef = .ok found ∧
        found.record = some latest ∧ (found.records.map Record.key).Nodup ∧
        ∀ record, record ∈ found.records ↔
          record.artifactRef = artifactRef ∧ LastOf ledger.returned record

/-- The bundle that the call records, if any, is plain, and it is new or the first of its
artifact. -/
def Meets (ledger : Ledger) (call : RecordCall) : Prop :=
  ∀ loaded, Accepts platform call loaded → PlainBundle loaded ∧
    Positioned (readLedger call.nowIso.val ledger.file)
      (loaded.manifest.bundleId, call.domainId, call.artifactRef)

end

/-- What the file holds while every call was such. -/
structure Faithful (ledger : Ledger) (records : List Record) : Prop where
  file : ledger.file.getD [] = records.map Record.toJson
  written : ∀ record ∈ records, Written record ∧ Stable record
  distinct : (records.map Record.key).Nodup
  last : ∀ record, record ∈ records ↔ LastOf ledger.returned record
  first : ∀ artifactRef, firstOf records artifactRef = firstOf ledger.returned artifactRef

def Kept (ledger : Ledger) : Prop := ∃ records, Faithful ledger records

section

variable {platform : BundlePlatform} {ledger : Ledger} {records : List Record}

variable {record : Record} {call : RecordCall}

theorem readLedger_written {file : LedgerFile} (nowIso : String)
    (same : file.getD [] = records.map Record.toJson) (written : ∀ record ∈ records, Written record) :
    readLedger nowIso file = records.map reread := by
  rw [readLedger, same, List.filterMap_map, ← List.filterMap_eq_map]
  exact List.filterMap_congr fun record listed => normalizeRecord_toJson (written record listed) nowIso

theorem Faithful.readLedger_eq (faithful : Faithful ledger records) (nowIso : String) :
    readLedger nowIso ledger.file = records := by
  rw [readLedger_written nowIso faithful.file fun record listed => (faithful.written record listed).1]
  refine (List.map_congr_left fun record listed => ?_).trans (List.map_id _)
  obtain ⟨written, stable⟩ := faithful.written record listed
  exact (reread_eq_iff written).2 stable

theorem faithful_initial : Faithful Ledger.initial [] where
  file := rfl
  written := List.forall_mem_nil _
  distinct := List.nodup_nil
  last := by
    intro record
    refine iff_of_false List.not_mem_nil ?_
    intro last
    cases last
  first := fun _ => rfl

theorem kept_initial : Kept Ledger.initial := ⟨[], faithful_initial⟩

theorem inspect_solid {artifactRef : String} (whole : Solid artifactRef) (nowIso : String)
    (file : LedgerFile) : inspectArtifactProvenanceBundle nowIso file artifactRef =
      .ok (inspectRecordedArtifactProvenanceBundle nowIso file artifactRef) := by
  rw [inspectArtifactProvenanceBundle, whole.solid_eq]

theorem Written.artifactRef_solid (written : Written record) : Solid record.artifactRef :=
  written.texts _ (List.mem_of_getElem? (i := 4) rfl)

theorem firstOf_eq_some {artifactRef : String} (found : firstOf records artifactRef = some record) :
    record ∈ records ∧ record.artifactRef = artifactRef := by
  have named := List.find?_some found
  exact ⟨List.mem_of_find?_eq_some found, of_decide_eq_true named⟩

theorem Faithful.readBack (faithful : Faithful ledger records) : ReadBack ledger := by
  intro nowIso artifactRef latest recorded
  rw [← faithful.first] at recorded
  obtain ⟨listed, rfl⟩ := firstOf_eq_some recorded
  have solid := (faithful.written latest listed).1.artifactRef_solid
  refine ⟨_, inspect_solid solid nowIso ledger.file, ?_, ?_, ?_⟩
  · rw [inspectRecordedArtifactProvenanceBundle, faithful.readLedger_eq]
    dsimp only
    rw [List.head?_filter]
    exact recorded
  · rw [inspectRecordedArtifactProvenanceBundle, faithful.readLedger_eq]
    exact (List.filter_sublist.map Record.key).nodup faithful.distinct
  · intro record
    rw [inspectRecordedArtifactProvenanceBundle, faithful.readLedger_eq]
    rw [List.mem_filter, decide_eq_true_iff, faithful.last, and_comm]

/-- What an accepted call leaves. -/
theorem runCall_accepted {loaded : LoadedBundle} (accepts : Accepts platform call loaded) :
    runCall platform ledger call =
      { file := some ((putRecord (readLedger call.nowIso.val ledger.file)
          (recordOfBundle platform call loaded)).map Record.toJson)
        returned := recordOfBundle platform call loaded :: ledger.returned } := by
  rw [runCall, recordArtifactProvenanceBundle_eq_ok.2 ⟨loaded, accepts, rfl, rfl⟩]

theorem runCall_refused (refused : ∀ loaded, ¬Accepts platform call loaded) :
    runCall platform ledger call = ledger := by
  rw [runCall]
  cases outcome : recordArtifactProvenanceBundle platform ledger.file call with
  | error failure => rfl
  | ok result =>
    obtain ⟨file, record⟩ := result
    obtain ⟨loaded, accepts, _⟩ := recordArtifactProvenanceBundle_eq_ok.1 outcome
    exact absurd accepts (refused loaded)

theorem lastOf_cons {returned : List Record} {entry : Record} :
    LastOf (record :: returned) entry ↔
      entry = record ∨ LastOf returned entry ∧ entry.key ≠ record.key := by
  rw [LastOf, List.find?_cons]
  by_cases same : record.key = entry.key
  · rw [decide_eq_true same, Option.some_inj, eq_comm]
    exact (or_iff_left fun other => other.2 same.symm).symm
  · rw [decide_eq_false same]
    have apart : entry ≠ record := by
      rintro rfl
      exact same rfl
    rw [or_iff_right apart]
    exact ⟨fun last => ⟨last, Ne.symm same⟩, And.left⟩

/-- A call that meets the condition keeps the file faithful. -/
theorem Faithful.runCall (faithful : Faithful ledger records) (meets : Meets platform ledger call) :
    Kept (Provenance.runCall platform ledger call) := by
  by_cases accepted : ∃ loaded, Accepts platform call loaded
  · obtain ⟨loaded, accepts⟩ := accepted
    obtain ⟨plain, positioned⟩ := meets loaded accepts
    rw [faithful.readLedger_eq] at positioned
    rw [runCall_accepted accepts, faithful.readLedger_eq]
    generalize made : recordOfBundle platform call loaded = record
    have key : record.key = (loaded.manifest.bundleId, call.domainId, call.artifactRef) := by
      rw [← made]
      rfl
    refine ⟨putRecord records record, rfl, ?_, putRecord_nodup faithful.distinct, ?_, ?_⟩
    · intro entry listed
      obtain rfl | ⟨earlier, _⟩ := (mem_putRecord faithful.distinct).1 listed
      · rw [← made]
        exact ⟨written_recordOfBundle accepts, (stable_recordOfBundle_iff accepts).2 plain⟩
      · exact faithful.written entry earlier
    · intro entry
      rw [mem_putRecord faithful.distinct, lastOf_cons, faithful.last]
    · intro artifactRef
      by_cases own : record.artifactRef = artifactRef
      · rw [← own, firstOf_putRecord_iff.2 (key ▸ positioned), firstOf, List.find?_cons,
          decide_eq_true rfl]
      · rw [firstOf_putRecord_other own, faithful.first, firstOf, firstOf, List.find?_cons,
          decide_eq_false own]
  · rw [runCall_refused (not_exists.1 accepted)]
    exact ⟨records, faithful⟩

theorem firstOf_map_reread (records : List Record) (artifactRef : String) :
    firstOf (records.map reread) artifactRef = (firstOf records artifactRef).map reread := by
  rw [firstOf, List.find?_map]
  rfl

/-- After any other call the last record of an artifact is not read back. -/
theorem Faithful.meets (faithful : Faithful ledger records)
    (readBack : ReadBack (Provenance.runCall platform ledger call)) :
    Meets platform ledger call := by
  intro loaded accepts
  rw [runCall_accepted accepts, faithful.readLedger_eq] at readBack
  rw [faithful.readLedger_eq]
  have written := written_recordOfBundle accepts
  have allWritten : ∀ entry ∈ putRecord records (recordOfBundle platform call loaded),
      Written entry := by
    intro entry listed
    obtain rfl | ⟨earlier, _⟩ := (mem_putRecord faithful.distinct).1 listed
    · exact written
    · exact (faithful.written entry earlier).1
  have newest : firstOf (recordOfBundle platform call loaded :: ledger.returned)
      (recordOfBundle platform call loaded).artifactRef =
        some (recordOfBundle platform call loaded) := by
    rw [firstOf, List.find?_cons, decide_eq_true rfl]
  obtain ⟨found, inspected, latest, _⟩ := readBack "" _ _ newest
  rw [inspect_solid written.artifactRef_solid, inspectRecordedArtifactProvenanceBundle,
    readLedger_written "" rfl allWritten] at inspected
  obtain rfl := Except.ok.inj inspected
  rw [List.head?_filter] at latest
  have read : (firstOf (putRecord records (recordOfBundle platform call loaded))
      (recordOfBundle platform call loaded).artifactRef).map reread =
        some (recordOfBundle platform call loaded) :=
    (firstOf_map_reread _ _).symm.trans latest
  obtain ⟨first, isFirst, same⟩ := Option.map_eq_some_iff.1 read
  have own : first = recordOfBundle platform call loaded := by
    obtain equal | ⟨_, otherKey⟩ := (mem_putRecord faithful.distinct).1 (firstOf_eq_some isFirst).1
    · exact equal
    · exact absurd (congrArg Record.key same) otherKey
  rw [own] at isFirst same
  exact ⟨(stable_recordOfBundle_iff accepts).1 ((reread_eq_iff written).1 same),
    firstOf_putRecord_iff.1 isFirst⟩

/-- Along a run of recording calls the last records are read back in every state exactly if
every call meets the condition in the state it finds. -/
theorem provenance_readBack_iff (platform : BundlePlatform) (calls : List RecordCall) :
    HoldsThroughout (Provenance.runCall platform) Ledger.initial ReadBack calls ↔
      MetThroughout (Provenance.runCall platform) Ledger.initial (Meets platform) calls := by
  refine holdsThroughout_iff_met kept_initial ?_ ?_ ?_
  · rintro ledger ⟨records, faithful⟩
    exact faithful.readBack
  · rintro ledger call ⟨records, faithful⟩ meets
    exact faithful.runCall meets
  · rintro ledger call ⟨records, faithful⟩ readBack
    exact faithful.meets readBack

end

/-! ## A bundle that is recorded again, and a note -/

/-- A manifest of the figure with what follows its authority boundary. -/
def figureManifest (bundleId : String) (rest : JsonRecord) : Json :=
  .object ([("schema_version", .string schemaVersion), ("bundle_id", .string bundleId),
    ("artifact_ref", .string "figure"), ("domain_id", .string "lab"),
    ("artifact_type", .string "png"), ("created_at", .string "2026-01-01"),
    ("refs", .object [("code", Json.ofStrings ["repo:code"])]),
    ("hashes", .object [("artifact", .object [("algorithm", .string "sha256"), ("value",
      .string "0123456789abcdef0123456789abcdef0123456789abcdef0123456789abcdef")])]),
    ("authority_boundary",
      .object [("ledger_refs_only", .bool true), ("forbidden_claims", .array [])])] ++ rest)

def figureText (bundleId rest : String) : String :=
  "\x7b\"schema_version\":\"artifact-provenance-bundle.v1\",\"bundle_id\":\"" ++ bundleId ++
  "\",\"artifact_ref\":\"figure\",\"domain_id\":\"lab\",\"artifact_type\":\"png\"," ++
  "\"created_at\":\"2026-01-01\",\"refs\":\x7b\"code\":[\"repo:code\"]\x7d,\"hashes\":" ++
  "\x7b\"artifact\":\x7b\"algorithm\":\"sha256\",\"value\":" ++
  "\"0123456789abcdef0123456789abcdef0123456789abcdef0123456789abcdef\"\x7d\x7d," ++
  "\"authority_boundary\":\x7b\"ledger_refs_only\":true,\"forbidden_claims\":[]\x7d" ++ rest ++
  "\x7d"

def firstText : String := figureText "a" ""

def secondText : String := figureText "b" ""

/-- It declares an issue that is only a note. -/
def notedText : String :=
  figureText "c" ",\"typed_issues\":[\x7b\"code\":\"note\",\"severity\":\"info\"\x7d]"

def figureDigest (text : String) : String :=
  if text = firstText then "780b1af1c8c419468b810172a751e64d704267098f5f7800c16e147375dfcf6f"
  else if text = secondText then
    "8c1b22222ec1566bb7550743428c7f40d4ce88a175002192ce4948544df86861"
  else "349c897cb7f6337e0dde0a6fd5831290c1c1216d1aad7f9047b3c16d0f83f1d8"

theorem isLowerHexDigest_figureDigest (text : String) :
    isLowerHexDigest (figureDigest text) = true := by
  rw [figureDigest]
  split_ifs <;> decide +kernel

/-- The host on the three manifests. -/
def figurePlatform : BundlePlatform where
  parseJson := fun text =>
    if text = firstText then some (figureManifest "a" [])
    else if text = secondText then some (figureManifest "b" [])
    else if text = notedText then some (figureManifest "c" [("typed_issues",
      .array [.object [("code", .string "note"), ("severity", .string "info")]])])
    else none
  sha256 := fun text => ⟨figureDigest text, isLowerHexDigest_figureDigest text⟩
  encodeURIComponent := id

theorem manifestPath_absolute : startsWith "/bundles/manifest.json" "/" = true := by decide +kernel

theorem recordingTime_solid : Solid "2026-01-02T00:00:00.000Z" := by decide +kernel

def recordFigure (text : String) : RecordCall where
  bundle := .manifest ⟨"/bundles/manifest.json", manifestPath_absolute⟩ text
  domainId := "lab"
  artifactRef := "figure"
  nowIso := ⟨"2026-01-02T00:00:00.000Z", recordingTime_solid⟩

/-- The record that an inspection of the figure finds. -/
def figureRecord (calls : List RecordCall) : Option Record :=
  (inspectArtifactProvenanceBundle "" (run figurePlatform calls).file "figure").toOption.bind
    Inspection.record

theorem figure_runs :
    ((firstOf (run figurePlatform
        [recordFigure firstText, recordFigure secondText, recordFigure firstText]).returned
          "figure").map Record.bundleId = some "a" ∧
      (figureRecord [recordFigure firstText, recordFigure secondText,
        recordFigure firstText]).map Record.bundleId = some "b") ∧
    (firstOf (run figurePlatform [recordFigure notedText]).returned "figure").map
        Record.issueCount = some 1 ∧
      (figureRecord [recordFigure notedText]).map Record.issueCount = some 0 := by
  decide +kernel

/-- A bundle that is recorded again is found behind a later one, and a note is not found. -/
theorem rerecorded_bundle_not_read_back :
    ¬ReadBack (run figurePlatform
      [recordFigure firstText, recordFigure secondText, recordFigure firstText]) ∧
    ¬ReadBack (run figurePlatform [recordFigure notedText]) := by
  have observed : ∀ (calls : List RecordCall) (latest : Record),
      firstOf (run figurePlatform calls).returned "figure" = some latest →
        ReadBack (run figurePlatform calls) → figureRecord calls = some latest := by
    intro calls latest recorded readBack
    obtain ⟨found, inspected, same, _⟩ := readBack "" "figure" latest recorded
    rw [figureRecord, inspected]
    exact same
  obtain ⟨⟨again, second⟩, noted, lost⟩ := figure_runs
  constructor
  · intro readBack
    obtain ⟨latest, recorded, isFirst⟩ := Option.map_eq_some_iff.1 again
    rw [observed _ latest recorded readBack, Option.map_some, isFirst] at second
    exact absurd second (by decide)
  · intro readBack
    obtain ⟨latest, recorded, one⟩ := Option.map_eq_some_iff.1 noted
    rw [observed _ latest recorded readBack, Option.map_some, one] at lost
    exact absurd lost (by decide)

end OnePersonLab.Evidence.Provenance

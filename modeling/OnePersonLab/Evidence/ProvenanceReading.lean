import OnePersonLab.Evidence.ProvenanceLedger
import OnePersonLab.Lib.FirstOccurrences

/-!
# Reading a record back

Reading normalises what was written. For a record of a valid bundle that changes the trimmed
path, drops issues that are neither errors nor warnings, trims what issues refer to and makes
the declared references of a section distinct. Nothing else.
-/

namespace OnePersonLab.Evidence.Provenance

open Contract
open Lib

/-! ## Solid texts -/

/-- A text that is not blank and has no space at its ends. -/
def Solid (text : String) : Prop := trim text = text ∧ text ≠ ""

/-- Distinct solid texts. -/
def CleanList (texts : List String) : Prop := texts.Nodup ∧ ∀ text ∈ texts, Solid text

instance (text : String) : Decidable (Solid text) := inferInstanceAs (Decidable (_ ∧ _))

section

variable {text : String}

theorem solid_eq_some {result : String} (found : solid text = some result) :
    trim text = result ∧ Solid result := by
  rw [solid] at found
  split_ifs at found with blank
  cases found
  exact ⟨rfl, trim_trim text, blank⟩

theorem Solid.solid_eq (whole : Solid text) : solid text = some text := by
  rw [solid, whole.1, if_neg whole.2]

theorem stringValue_solid {value : Option Json} (found : stringValue value = some text) :
    Solid text := by
  cases value with
  | none => cases found
  | some value =>
    cases value with
    | string raw => exact (solid_eq_some found).2
    | _ => cases found

theorem Solid.stringValue_eq (whole : Solid text) :
    stringValue (some (.string text)) = some text := whole.solid_eq

theorem cleanList_of_filterMap {α : Type} (values : List α) (read : α → Option String)
    (solidRead : ∀ value text, read value = some text → Solid text) :
    CleanList (values.filterMap read).eraseDups := by
  refine ⟨nodup_eraseDups _, ?_⟩
  intro text listed
  obtain ⟨value, _, found⟩ := List.mem_filterMap.1 (List.mem_eraseDups.1 listed)
  exact solidRead value text found

theorem uniqueStrings_clean (values : List String) : CleanList (uniqueStrings values) :=
  cleanList_of_filterMap values solid fun _ _ found => (solid_eq_some found).2

theorem arrayTexts_clean (value : Option Json) : CleanList (arrayTexts value) := by
  have empty : CleanList [] := ⟨List.nodup_nil, List.forall_mem_nil _⟩
  cases value with
  | none => exact empty
  | some value =>
    cases value with
    | array items =>
      exact cleanList_of_filterMap items (fun item => stringValue (some item))
        fun _ _ found => stringValue_solid found
    | _ => exact empty

theorem stringList_clean (value : Option Json) : CleanList (stringList value) := by
  rw [stringList]
  cases scalar : stringValue value with
  | some text =>
    refine ⟨List.pairwise_singleton _ _, ?_⟩
    intro other listed
    rw [List.mem_singleton.1 listed]
    exact stringValue_solid scalar
  | none => exact arrayTexts_clean value

theorem CleanList.uniqueStrings_eq {texts : List String} (clean : CleanList texts) :
    uniqueStrings texts = texts := by
  have kept : texts.filterMap solid = texts := by
    refine (List.filterMap_congr fun text listed => (clean.2 text listed).solid_eq).trans ?_
    exact List.filterMap_some
  rw [uniqueStrings, kept, eraseDups_of_nodup clean.1]

/-- A list of strings reads as the distinct solid texts in it. -/
theorem stringList_ofStrings (texts : List String) :
    stringList (some (Json.ofStrings texts)) = uniqueStrings texts := by
  have array : stringList (some (Json.ofStrings texts)) = uniqueTexts (texts.map Json.string) := rfl
  rw [array, uniqueTexts, List.filterMap_map]
  rfl

theorem uniqueStrings_eq_iff {texts : List String} :
    uniqueStrings texts = texts ↔ CleanList texts := by
  constructor
  · intro same
    rw [← same]
    exact uniqueStrings_clean texts
  · exact CleanList.uniqueStrings_eq

end

/-! ## Hashes -/

section

variable {text : String}

theorem isHexDigest_of_lower (lower : isLowerHexDigest text = true) : isHexDigest text = true := by
  simp only [isLowerHexDigest, isHexDigest, Bool.and_eq_true, List.all_eq_true, isHexDigit,
    Bool.or_eq_true] at lower ⊢
  exact ⟨lower.1, fun c listed => .inl (lower.2 c listed)⟩

theorem lowerChar_of_lowerHex {c : Char} (lower : isLowerHex c = true) : lowerChar c = c := by
  simp only [isLowerHex, Bool.or_eq_true, Bool.and_eq_true, decide_eq_true_eq] at lower
  have notUpper : ¬('A' ≤ c ∧ c ≤ 'Z') := by
    rintro ⟨from_, upTo⟩
    obtain ⟨_, digit⟩ | ⟨letter, _⟩ := lower
    · have apart : ¬ 'A' ≤ '9' := by decide
      exact apart (Char.le_trans from_ digit)
    · have apart : ¬ 'a' ≤ 'Z' := by decide
      exact apart (Char.le_trans letter upTo)
  have notKelvin : c.toNat ≠ 0x212a := by
    intro kelvin
    obtain ⟨_, digit⟩ | ⟨_, letter⟩ := lower
    · have bound : c.toNat ≤ '9'.toNat := digit
      rw [kelvin] at bound
      exact absurd bound (by decide)
    · have bound : c.toNat ≤ 'f'.toNat := letter
      rw [kelvin] at bound
      exact absurd bound (by decide)
  rw [lowerChar, if_neg notUpper, if_neg notKelvin]

theorem lowerHexDigest_iff : isLowerHexDigest text = true ↔
    text.toList.length = 64 ∧ ∀ c ∈ text.toList, isLowerHex c = true := by
  rw [isLowerHexDigest, Bool.and_eq_true, beq_iff_eq, List.all_eq_true]

theorem hashOfText_of_lower (lower : isLowerHexDigest text = true) :
    hashOfText text = some { value := text } := by
  have kept : toLowerCase text = text := by
    have fixed : text.toList.map lowerChar = text.toList := by
      refine (List.map_congr_left fun c listed => ?_).trans (List.map_id _)
      exact lowerChar_of_lowerHex ((lowerHexDigest_iff.1 lower).2 c listed)
    rw [toLowerCase, characters_eq_toList, fixed, String.ofList_toList]
  rw [hashOfText, if_pos (isHexDigest_of_lower lower), kept]

theorem solid_of_lowerHexDigest (lower : isLowerHexDigest text = true) : Solid text := by
  obtain ⟨length, digits⟩ := lowerHexDigest_iff.1 lower
  constructor
  · apply String.toList_injective
    rw [toList_trim]
    apply trimChars_of_bounds
    · intro c first
      exact isTrimmed_of_isLowerHex (digits c (List.mem_of_mem_head? first))
    · intro c last
      exact isTrimmed_of_isLowerHex (digits c (List.mem_of_getLast? last))
  · rintro rfl
    cases length

theorem normalizeHashEntry_toJson {hash : HashEntry} (lower : isLowerHexDigest hash.value = true) :
    normalizeHashEntry hash.toJson = some hash := by
  rw [HashEntry.toJson, normalizeHashEntry, field?_cons_self, if_pos rfl, field?_cons,
    if_neg (by decide), field?_cons_self, (solid_of_lowerHexDigest lower).stringValue_eq,
    Option.bind_some, hashOfText_of_lower lower]

end

/-! ## What reading keeps -/

/-- An issue is read as an error or a warning whose reference is trimmed. -/
def rereadIssue (issue : Issue) : Option Issue :=
  if issue.severity = .info then none else some { issue with ref := trim issue.ref }

def rereadSection (entry : Section) : Section :=
  { entry with
    refs := uniqueStrings entry.refs
    missingRefs := uniqueStrings entry.missingRefs
    restrictedRefs := uniqueStrings entry.restrictedRefs }

/-- What is read where a record was written. -/
def reread (record : Record) : Record :=
  { record with
    bundleManifestRef := trim record.bundleManifestRef
    issues := uniqueIssues (record.issues.filterMap rereadIssue)
    sections := record.sections.map rereadSection }

/-- An issue as a bundle makes it. -/
structure WrittenIssue (issue : Issue) : Prop where
  code : Solid issue.code
  ref : trim issue.ref ≠ ""
  message : Solid issue.message
  action : Solid issue.action

/-- A record as a valid bundle makes it. -/
structure Written (record : Record) : Prop where
  texts : ∀ text ∈ [record.recordRef, record.recordedAt, record.bundleId, record.domainId,
    record.artifactRef, record.artifactType], Solid text
  manifestRef : trim record.bundleManifestRef ≠ ""
  manifestHash : isLowerHexDigest record.bundleManifestHash.value = true
  refs : ∀ key, CleanList (record.refs key)
  hashes : ∀ entry ∈ record.hashes,
    entry.1 ≠ "__proto__" ∧ isLowerHexDigest entry.2.value = true
  issues : ∀ issue ∈ record.issues, WrittenIssue issue
  distinct : (record.issues.map issueKey).Nodup
  sections : ∃ missing restricted : RefKey → List String, record.sections =
    refKeys.map fun sectionKey =>
      { sectionKey
        refs := record.refs sectionKey
        missingRefs := missing sectionKey
        restrictedRefs := restricted sectionKey }
  claims : CleanList record.forbiddenClaims

theorem asRecord?_object (fields : JsonRecord) : asRecord? (some (.object fields)) = some fields :=
  rfl

theorem normalizeRefs_toJson {refs : BundleRefs} (clean : ∀ key, CleanList (refs key)) :
    normalizeRefs (some (refsToJson refs)) = refs := by
  funext key
  have found : field? (refKeys.map fun key => (key.text, Json.ofStrings (refs key))) key.text =
      some (Json.ofStrings (refs key)) := by
    cases key <;> rfl
  rw [refsToJson, normalizeRefs, asRecord?_object]
  dsimp only
  rw [found, stringList_ofStrings, (clean key).uniqueStrings_eq]

theorem normalizeHashes_toJson {hashes : List (String × HashEntry)}
    (written : ∀ entry ∈ hashes, entry.1 ≠ "__proto__" ∧ isLowerHexDigest entry.2.value = true) :
    normalizeHashes (some (hashesToJson hashes)) = hashes := by
  rw [hashesToJson, normalizeHashes, recordOf, asRecord?_object, Option.getD_some,
    List.filterMap_map]
  refine (List.filterMap_congr fun entry listed => ?_).trans List.filterMap_some
  obtain ⟨named, lower⟩ := written entry listed
  rw [Function.comp_apply, if_neg named, normalizeHashEntry_toJson lower, Option.map_some]

theorem readSeverity_text (severity : IssueSeverity) :
    readSeverity (some (.string severity.text)) =
      if severity = .info then none else some severity := by
  cases severity <;> rfl

theorem normalizeIssue_toJson {issue : Issue} (written : WrittenIssue issue) :
    normalizeIssue issue.toJson = rereadIssue issue := by
  have ref : stringValue (some (.string issue.ref)) = some (trim issue.ref) :=
    if_neg written.ref
  simp only [Issue.toJson, normalizeIssue, asRecord?_object, field?_cons, String.reduceEq,
    if_true, if_false, Option.bind_eq_bind, Option.bind_some, written.code.stringValue_eq,
    written.message.stringValue_eq, written.action.stringValue_eq, ref, readSeverity_text]
  rw [rereadIssue]
  by_cases info : issue.severity = .info
  · rw [if_pos info, if_pos info]
    rfl
  · rw [if_neg info, if_neg info]
    rfl

theorem normalizeIssues_toJson {issues : List Issue}
    (written : ∀ issue ∈ issues, WrittenIssue issue) :
    normalizeIssues (some (.array (issues.map Issue.toJson))) =
      uniqueIssues (issues.filterMap rereadIssue) := by
  rw [normalizeIssues, List.filterMap_map]
  exact congrArg uniqueIssues
    (List.filterMap_congr fun issue listed => normalizeIssue_toJson (written issue listed))

theorem refKey?_text (key : RefKey) : refKey? key.text = some key := by
  cases key <;> rfl

theorem readSection_toJson (entry : Section) :
    readSection entry.toJson = some (rereadSection entry) := by
  simp only [Section.toJson, readSection, asRecord?_object, field?_cons, String.reduceEq, if_true,
    if_false, Option.bind_eq_bind, Option.bind_some, Json.asString?, refKey?_text,
    stringList_ofStrings]
  rfl

theorem normalizeSections_toJson {refs : BundleRefs} (missing restricted : RefKey → List String) :
    normalizeSections (some (.array ((refKeys.map fun sectionKey =>
      ({ sectionKey
         refs := refs sectionKey
         missingRefs := missing sectionKey
         restrictedRefs := restricted sectionKey } : Section)).map Section.toJson))) refs =
      (refKeys.map fun sectionKey =>
        { sectionKey
          refs := refs sectionKey
          missingRefs := missing sectionKey
          restrictedRefs := restricted sectionKey }).map rereadSection := by
  have read : ∀ entries : List Section,
      (entries.map Section.toJson).filterMap readSection = entries.map rereadSection := by
    intro entries
    rw [List.filterMap_map, ← List.filterMap_eq_map]
    exact List.filterMap_congr fun entry _ => readSection_toJson entry
  rw [normalizeSections, read, List.map_map]
  refine List.map_congr_left fun key _ => ?_
  cases key <;> rfl

/-- Reading what was written. -/
theorem normalizeRecord_toJson {record : Record} (written : Written record) (nowIso : String) :
    normalizeRecord nowIso record.toJson = some (reread record) := by
  have texts := written.texts
  simp only [List.forall_mem_cons] at texts
  obtain ⟨recordRef, recordedAt, bundleId, domainId, artifactRef, artifactType, _⟩ := texts
  have manifestRef : stringValue (some (.string record.bundleManifestRef)) =
      some (trim record.bundleManifestRef) := if_neg written.manifestRef
  obtain ⟨missing, restricted, sections⟩ := written.sections
  have readSections : normalizeSections (some (.array (record.sections.map Section.toJson)))
      record.refs = record.sections.map rereadSection := by
    rw [sections]
    exact normalizeSections_toJson missing restricted
  have claims : uniqueStrings (stringList (some (Json.ofStrings record.forbiddenClaims))) =
      record.forbiddenClaims := by
    rw [stringList_ofStrings, written.claims.uniqueStrings_eq, written.claims.uniqueStrings_eq]
  simp only [Record.toJson, normalizeRecord, asRecord?_object, field?_cons, String.reduceEq,
    if_true, if_false, Option.bind_eq_bind, Option.bind_some, recordRef.stringValue_eq,
    recordedAt.stringValue_eq, bundleId.stringValue_eq, domainId.stringValue_eq,
    artifactRef.stringValue_eq, artifactType.stringValue_eq, manifestRef,
    normalizeHashEntry_toJson written.manifestHash, normalizeRefs_toJson written.refs,
    normalizeHashes_toJson written.hashes, normalizeIssues_toJson written.issues, readSections,
    recordOf, Option.getD_some, claims]
  rfl

/-! ## Stable records -/

/-- Issues that reading leaves alone. -/
def PlainIssue (issue : Issue) : Prop := issue.severity ≠ .info ∧ trim issue.ref = issue.ref

/-- Declared references of a section that reading leaves alone. -/
def PlainSection (entry : Section) : Prop :=
  CleanList entry.missingRefs ∧ CleanList entry.restrictedRefs

/-- A record that reads as it was written. -/
structure Stable (record : Record) : Prop where
  manifestRef : trim record.bundleManifestRef = record.bundleManifestRef
  issues : ∀ issue ∈ record.issues, PlainIssue issue
  sections : ∀ entry ∈ record.sections, PlainSection entry

variable {issues : List Issue} {issue : Issue} {record : Record}

theorem unseenIssues_sublist (issues : List Issue) :
    ∀ seen : List String, (unseenIssues seen issues).Sublist issues := by
  induction issues with
  | nil => exact fun _ => List.Sublist.refl _
  | cons issue rest ih =>
    intro seen
    rw [unseenIssues]
    split_ifs with known
    · exact (ih seen).cons issue
    · exact (ih _).cons_cons issue

theorem unseenIssues_of_distinct (distinct : (issues.map issueKey).Nodup) :
    ∀ seen : List String, (∀ issue ∈ issues, issueKey issue ∉ seen) →
      unseenIssues seen issues = issues := by
  induction issues with
  | nil => exact fun _ _ => rfl
  | cons issue rest ih =>
    intro seen fresh
    rw [List.map_cons, List.nodup_cons] at distinct
    obtain ⟨unlike, others⟩ := distinct
    rw [unseenIssues, if_neg (fresh issue List.mem_cons_self)]
    congr 1
    apply ih others
    intro other listed known
    obtain same | earlier := List.mem_cons.1 known
    · exact unlike (same ▸ List.mem_map_of_mem listed)
    · exact fresh other (List.mem_cons_of_mem issue listed) earlier

theorem uniqueIssues_of_distinct (distinct : (issues.map issueKey).Nodup) :
    uniqueIssues issues = issues :=
  unseenIssues_of_distinct distinct [] fun _ _ => List.not_mem_nil

theorem unseenIssues_distinct (issues : List Issue) : ∀ seen : List String,
    ((unseenIssues seen issues).map issueKey).Nodup ∧
      ∀ issue ∈ unseenIssues seen issues, issueKey issue ∉ seen := by
  induction issues with
  | nil => exact fun _ => ⟨List.nodup_nil, List.forall_mem_nil _⟩
  | cons issue rest ih =>
    intro seen
    rw [unseenIssues]
    split_ifs with known
    · exact ih seen
    · obtain ⟨distinct, fresh⟩ := ih (issueKey issue :: seen)
      refine ⟨List.nodup_cons.2 ⟨?_, distinct⟩, List.forall_mem_cons.2 ⟨known, ?_⟩⟩
      · intro repeated
        obtain ⟨other, listed, same⟩ := List.mem_map.1 repeated
        exact fresh other listed (same ▸ List.mem_cons_self)
      · intro other listed earlier
        exact fresh other listed (List.mem_cons_of_mem _ earlier)

theorem uniqueIssues_distinct (issues : List Issue) :
    ((uniqueIssues issues).map issueKey).Nodup :=
  (unseenIssues_distinct issues []).1

theorem mem_of_mem_uniqueIssues (listed : issue ∈ uniqueIssues issues) : issue ∈ issues :=
  (unseenIssues_sublist issues []).subset listed

theorem rereadIssue_plain {read : Issue} (found : rereadIssue issue = some read) :
    PlainIssue read := by
  rw [rereadIssue] at found
  split_ifs at found with info
  cases found
  exact ⟨info, trim_trim _⟩

theorem PlainIssue.rereadIssue_eq (plain : PlainIssue issue) : rereadIssue issue = some issue := by
  rw [rereadIssue, if_neg plain.1, plain.2]

theorem rereadIssues_eq_iff (distinct : (issues.map issueKey).Nodup) :
    uniqueIssues (issues.filterMap rereadIssue) = issues ↔ ∀ issue ∈ issues, PlainIssue issue := by
  constructor
  · intro same issue listed
    rw [← same] at listed
    obtain ⟨_, _, found⟩ := List.mem_filterMap.1 (mem_of_mem_uniqueIssues listed)
    exact rereadIssue_plain found
  · intro plain
    have kept : issues.filterMap rereadIssue = issues :=
      (List.filterMap_congr fun issue listed => (plain issue listed).rereadIssue_eq).trans
        List.filterMap_some
    rw [kept, uniqueIssues_of_distinct distinct]

theorem rereadSection_eq_iff {entry : Section} (clean : CleanList entry.refs) :
    rereadSection entry = entry ↔ PlainSection entry := by
  obtain ⟨key, refs, missing, restricted⟩ := entry
  simp only [rereadSection, Section.mk.injEq, true_and, PlainSection, uniqueStrings_eq_iff]
  exact ⟨fun same => same.2, fun plain => ⟨clean, plain⟩⟩

theorem Written.section_clean (written : Written record) {entry : Section}
    (listed : entry ∈ record.sections) : CleanList entry.refs := by
  obtain ⟨missing, restricted, sections⟩ := written.sections
  rw [sections] at listed
  obtain ⟨key, _, rfl⟩ := List.mem_map.1 listed
  exact written.refs key

theorem rereadSections_eq_iff (written : Written record) :
    record.sections.map rereadSection = record.sections ↔
      ∀ entry ∈ record.sections, PlainSection entry := by
  constructor
  · intro same entry listed
    apply (rereadSection_eq_iff (written.section_clean listed)).1
    have fixed : record.sections.map rereadSection = record.sections.map id := by
      rw [same, List.map_id]
    exact List.map_inj_left.1 fixed entry listed
  · intro plain
    refine (List.map_congr_left fun entry listed => ?_).trans (List.map_id _)
    exact (rereadSection_eq_iff (written.section_clean listed)).2 (plain entry listed)

/-- A record that a valid bundle makes is read as it was written exactly if it is stable. -/
theorem reread_eq_iff (written : Written record) : reread record = record ↔ Stable record := by
  constructor
  · intro same
    have manifestRef := congrArg Record.bundleManifestRef same
    have issues := congrArg Record.issues same
    have sections := congrArg Record.sections same
    exact {
      manifestRef
      issues := (rereadIssues_eq_iff written.distinct).1 issues
      sections := (rereadSections_eq_iff written).1 sections }
  · intro stable
    rw [reread, stable.manifestRef, (rereadIssues_eq_iff written.distinct).2 stable.issues,
      (rereadSections_eq_iff written).2 stable.sections]

end OnePersonLab.Evidence.Provenance

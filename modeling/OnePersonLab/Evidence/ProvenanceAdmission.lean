import OnePersonLab.Evidence.ProvenanceReading
import OnePersonLab.Lib.Outcome

/-!
# Records of valid bundles

What the validator lets through is a record that reading only trims, filters and makes distinct,
and it says which bundles have a record that reading leaves alone.
-/

namespace OnePersonLab.Evidence.Provenance

open Contract
open Lib

/-! ## Texts -/

section

variable {value : Option Json} {entry : DeclaredRefIssue}

theorem solid_of_bounds {text : String}
    (opens : ∃ c, text.toList.head? = some c ∧ isTrimmed c = false)
    (closes : ∃ c, text.toList.getLast? = some c ∧ isTrimmed c = false) : Solid text := by
  obtain ⟨first, opens, leading⟩ := opens
  obtain ⟨last, closes, trailing⟩ := closes
  constructor
  · apply String.toList_injective
    rw [toList_trim]
    apply trimChars_of_bounds
    · intro c found
      obtain rfl := Option.some.inj (opens.symm.trans found)
      exact leading
    · intro c found
      obtain rfl := Option.some.inj (closes.symm.trans found)
      exact trailing
  · rintro rfl
    cases opens

/-- A sentence around a text is solid whatever the text is. -/
theorem solid_sentence {front back : String} (middle : String)
    (opens : ∃ c, front.toList.head? = some c ∧ isTrimmed c = false)
    (closes : ∃ c, back.toList.getLast? = some c ∧ isTrimmed c = false) :
    Solid (front ++ middle ++ back) := by
  obtain ⟨first, opens, leading⟩ := opens
  obtain ⟨last, closes, trailing⟩ := closes
  refine solid_of_bounds ⟨first, ?_, leading⟩ ⟨last, ?_, trailing⟩
  · rw [String.toList_append, String.toList_append, List.append_assoc,
      List.head?_append_of_ne_nil, opens]
    intro empty
    rw [empty] at opens
    cases opens
  · rw [String.toList_append, List.getLast?_append_of_ne_nil, closes]
    intro empty
    rw [empty] at closes
    cases closes

/-! ## Declared issues -/

theorem mem_stringItems {items : List Json} : ∀ {texts : List String},
    stringItems items = some texts → ∀ text ∈ texts, trim text ≠ "" := by
  induction items with
  | nil =>
    intro texts read text listed
    cases read
    cases listed
  | cons item rest ih =>
    intro texts read text listed
    cases item with
    | string first =>
      rw [stringItems] at read
      split_ifs at read with blank
      obtain ⟨others, restRead, rfl⟩ := Option.map_eq_some_iff.1 read
      obtain rfl | later := List.mem_cons.1 listed
      · exact blank
      · exact ih restRead text later
    | _ => cases read

theorem mem_stringArray? {texts : List String} (read : stringArray? value = some texts) :
    ∀ text ∈ texts, trim text ≠ "" := by
  cases value with
  | none => cases read
  | some value =>
    cases value with
    | array items => exact mem_stringItems read
    | _ => cases read

theorem mem_declaredRefs {refs : List String} {path : String} {sectionKey : Option RefKey}
    (listed : entry ∈ declaredRefs refs path sectionKey) : entry.ref ∈ refs := by
  obtain ⟨⟨ref, index⟩, found, rfl⟩ := List.mem_map.1 listed
  exact (List.mem_zipIdx' found).2 ▸ List.getElem_mem _

theorem declared_trim {name : String} (listed : entry ∈ declaredRefIssueEntries value name) :
    trim entry.ref ≠ "" := by
  rw [declaredRefIssueEntries] at listed
  cases read : stringArray? value with
  | some refs =>
    rw [read] at listed
    exact mem_stringArray? read _ (mem_declaredRefs listed)
  | none =>
    rw [read] at listed
    obtain ⟨field, _, inField⟩ := List.mem_flatMap.1 listed
    cases array : stringArray? (some field.2) with
    | some refs =>
      rw [array] at inField
      exact mem_stringArray? array _ (mem_declaredRefs inField)
    | none =>
      rw [array] at inField
      cases inField

/-- The texts of an issue that do not depend on the reference. -/
theorem declaredIssue_texts :
    (Solid (missingRefIssue ⟨"", "", none⟩).code ∧
      Solid (missingRefIssue ⟨"", "", none⟩).action) ∧
    Solid (restrictedRefIssue ⟨"", "", none⟩).code ∧
      Solid (restrictedRefIssue ⟨"", "", none⟩).action := by
  decide +kernel

theorem written_missingRefIssue (filled : trim entry.ref ≠ "") :
    WrittenIssue (missingRefIssue entry) where
  code := declaredIssue_texts.1.1
  ref := filled
  message := solid_sentence entry.sourcePath ⟨'B', rfl, rfl⟩ ⟨'.', rfl, rfl⟩
  action := declaredIssue_texts.1.2

theorem written_restrictedRefIssue (filled : trim entry.ref ≠ "") :
    WrittenIssue (restrictedRefIssue entry) where
  code := declaredIssue_texts.2.1
  ref := filled
  message := solid_sentence entry.sourcePath ⟨'B', rfl, rfl⟩ ⟨'.', rfl, rfl⟩
  action := declaredIssue_texts.2.2

/-- What is given where an issue lacks a text. -/
theorem solid_getD {fallback : String} (usable : Solid fallback) :
    Solid ((stringValue value).getD fallback) := by
  cases found : stringValue value with
  | some text => exact stringValue_solid found
  | none => exact usable

theorem typedIssue_action : Solid
    "Route this typed provenance issue through the owning domain or repair the referenced provenance section." := by
  decide +kernel

theorem trim_typedIssueRef (index : Nat) : trim s!"typed_issues[{index}]" ≠ "" := by
  refine trim_ne_empty_of_mem (c := 't') ?_ rfl
  simp only [String.toList_append, List.mem_append]
  exact .inl (.inl (List.mem_cons_self (l := "yped_issues[".toList)))

theorem written_declaredTypedIssue {value : Json} {index : Nat} {issue : Issue}
    (declared : declaredTypedIssue value index = some issue) : WrittenIssue issue := by
  simp only [declaredTypedIssue, Option.bind_eq_bind, Option.bind_eq_some_iff] at declared
  obtain ⟨fields, _, code, named, made⟩ := declared
  obtain rfl := Option.some.inj made
  refine {
    code := stringValue_solid named
    ref := ?_
    message := solid_getD (solid_sentence code ⟨'B', rfl, rfl⟩ ⟨'.', rfl, rfl⟩)
    action := solid_getD typedIssue_action }
  dsimp only
  cases ref : (stringValue (field? fields "ref")).or ((stringValue (field? fields "label")).or
      (stringValue (field? fields "section"))) with
  | none => exact trim_typedIssueRef index
  | some text =>
    have whole : Solid text := by
      simp only [Option.or_eq_some_iff] at ref
      obtain found | ⟨_, found | ⟨_, found⟩⟩ := ref <;> exact stringValue_solid found
    rw [Option.getD_some, whole.1]
    exact whole.2

theorem mem_refKeys (key : RefKey) : key ∈ refKeys := by
  cases key <;> decide

/-! ## Hashes -/

theorem lower_of_strict {value : Json} {hash : HashEntry} (strict : isStrictHashEntry value = true)
    (read : normalizeHashEntry value = some hash) : isLowerHexDigest hash.value = true := by
  cases value with
  | object fields =>
    simp only [isStrictHashEntry, Bool.and_eq_true, decide_eq_true_eq, Option.any_eq_true] at strict
    obtain ⟨⟨algorithm, text, found, lower⟩, _⟩ := strict
    rw [normalizeHashEntry, if_pos algorithm, found, Option.bind_some,
      hashOfText_of_lower lower] at read
    cases read
    exact lower
  | _ => cases strict

theorem normalizeHashes_written (valid : invalidHashFields value = []) :
    ∀ entry ∈ normalizeHashes value,
      entry.1 ≠ "__proto__" ∧ isLowerHexDigest entry.2.value = true := by
  intro entry listed
  rw [normalizeHashes] at listed
  obtain ⟨⟨key, raw⟩, given, read⟩ := List.mem_filterMap.1 listed
  split_ifs at read with reserved
  obtain ⟨hash, found, rfl⟩ := Option.map_eq_some_iff.1 read
  refine ⟨reserved, lower_of_strict ?_ found⟩
  cases fields : asRecord? value with
  | none =>
    rw [recordOf, fields] at given
    cases given
  | some fields' =>
    rw [recordOf, fields] at given
    rw [invalidHashFields, fields] at valid
    have strict := List.filter_eq_nil_iff.1 (List.map_eq_nil_iff.1 valid) _ given
    simpa using strict

end

/-! ## Accepted calls -/

namespace LoadedBundle

variable (loaded : LoadedBundle)

/-- A field of the manifest. -/
def field (name : String) : Option Json := field? (recordOf (some loaded.parsed)) name

/-- What `missing_refs` or `restricted_refs` declares. -/
def declared (name : String) : List DeclaredRefIssue :=
  declaredRefIssueEntries (loaded.field name) name

/-- The issues that the manifest declares. -/
def declaredIssues : List Issue :=
  normalizeDeclaredTypedIssues (loaded.field "typed_issues") ++
    (loaded.declared "missing_refs").map missingRefIssue ++
    (loaded.declared "restricted_refs").map restrictedRefIssue

variable {loaded}

theorem issues_of_passed (passed : loaded.validation.Passed) :
    loaded.validation.issues = uniqueIssues loaded.declaredIssues := by
  obtain ⟨required, invalid, hashes, violations, forbidden⟩ := passed
  simp only [validation, validationForLoadedBundle] at required invalid hashes violations forbidden ⊢
  rw [required, invalid, hashes, violations, forbidden]
  simp only [List.map_nil, List.append_nil]
  rfl

theorem solid_field (passed : loaded.validation.Passed) {name : String}
    (required : name ∈ ["schema_version", "bundle_id", "artifact_ref", "domain_id",
      "artifact_type", "created_at"]) : Solid ((stringValue (loaded.field name)).getD "") := by
  have lacking : missingRequired (recordOf (some loaded.parsed)) = [] := passed.1
  have present := List.filter_eq_nil_iff.1 (List.append_eq_nil_iff.1 lacking).1 name required
  rw [Bool.not_eq_true, Option.isNone_eq_false_iff] at present
  obtain ⟨text, found⟩ := Option.isSome_iff_exists.1 present
  rw [field, found, Option.getD_some]
  exact stringValue_solid found

theorem written_declaredIssue {issue : Issue} (listed : issue ∈ loaded.declaredIssues) :
    WrittenIssue issue := by
  simp only [declaredIssues, List.mem_append, List.mem_map] at listed
  obtain (typed | ⟨entry, declared, rfl⟩) | ⟨entry, declared, rfl⟩ := listed
  · cases raw : loaded.field "typed_issues" with
    | none =>
      rw [raw] at typed
      cases typed
    | some value =>
      rw [raw] at typed
      cases value with
      | array items =>
        obtain ⟨entry, _, made⟩ := List.mem_filterMap.1 typed
        exact written_declaredTypedIssue made
      | _ => cases typed
  · exact written_missingRefIssue (declared_trim declared)
  · exact written_restrictedRefIssue (declared_trim declared)

end LoadedBundle

section

variable {platform : BundlePlatform} {call : RecordCall} {loaded : LoadedBundle}

/-- The call records this bundle. -/
structure Accepts (platform : BundlePlatform) (call : RecordCall) (loaded : LoadedBundle) :
    Prop where
  read : readBundle platform call.bundle = .ok loaded
  passed : loaded.validation.Passed
  domainId : loaded.manifest.domainId = call.domainId
  artifactRef : loaded.manifest.artifactRef = call.artifactRef

theorem recordArtifactProvenanceBundle_eq_ok {file written : LedgerFile} {record : Record} :
    recordArtifactProvenanceBundle platform file call = .ok (written, record) ↔
      ∃ loaded, Accepts platform call loaded ∧ record = recordOfBundle platform call loaded ∧
        written = some ((putRecord (readLedger call.nowIso.val file) record).map
          Record.toJson) := by
  rw [recordArtifactProvenanceBundle, ok_of_bind]
  constructor
  · rintro ⟨loaded, read, recorded⟩
    split_ifs at recorded with passed mismatch
    cases recorded
    rw [not_or, not_not, not_not] at mismatch
    exact ⟨loaded, ⟨read, passed, mismatch.1, mismatch.2⟩, rfl, rfl⟩
  · rintro ⟨loaded, accepts, rfl, rfl⟩
    refine ⟨loaded, accepts.read, ?_⟩
    rw [if_neg (not_not.2 accepts.passed), if_neg]
    rw [not_or, not_not, not_not]
    exact ⟨accepts.domainId, accepts.artifactRef⟩

/-- `opl://artifact-provenance-bundle/…/` and sixteen hexadecimal digits. -/
theorem solid_recordRef (id : String) (digest : HexDigest) :
    Solid ("opl://artifact-provenance-bundle/" ++ id ++ "/" ++
      hashHead { value := digest.val }) := by
  obtain ⟨length, digits⟩ := lowerHexDigest_iff.1 digest.2
  have filled : digest.val.toList.take 16 ≠ [] := by
    intro empty
    have none_ := congrArg List.length empty
    rw [List.length_take, length] at none_
    cases none_
  refine solid_of_bounds ⟨'o', ?_, rfl⟩ ⟨(digest.val.toList.take 16).getLast filled, ?_, ?_⟩
  · simp only [String.toList_append, List.append_assoc]
    rfl
  · rw [String.toList_append, hashHead, String.toList_ofList,
      List.getLast?_append_of_ne_nil _ filled, List.getLast?_eq_some_getLast filled]
  · exact isTrimmed_of_isLowerHex
      (digits _ (List.mem_of_mem_take (List.getLast_mem filled)))

theorem startsWith_slash {path : String} (absolute : startsWith path "/" = true) :
    trim path ≠ "" := by
  refine trim_ne_empty_of_mem (c := '/') ?_ rfl
  rw [startsWith, List.isPrefixOf_iff_prefix, characters_eq_toList, characters_eq_toList] at absolute
  exact absolute.subset List.mem_cons_self

theorem written_recordOfBundle (accepts : Accepts platform call loaded) :
    Written (recordOfBundle platform call loaded) where
  texts := by
    have required : ∀ name ∈ ["schema_version", "bundle_id", "artifact_ref", "domain_id",
        "artifact_type", "created_at"], Solid ((stringValue (loaded.field name)).getD "") :=
      fun name listed => LoadedBundle.solid_field accepts.passed listed
    simp only [List.forall_mem_cons] at required
    obtain ⟨_, bundleId, artifactRef, domainId, artifactType, _⟩ := required
    refine List.forall_mem_cons.2 ⟨solid_recordRef _ _, List.forall_mem_cons.2 ⟨call.nowIso.2,
      List.forall_mem_cons.2 ⟨bundleId, List.forall_mem_cons.2 ⟨?_, List.forall_mem_cons.2 ⟨?_,
        List.forall_mem_cons.2 ⟨artifactType, List.forall_mem_nil _⟩⟩⟩⟩⟩⟩
    · show Solid call.domainId
      rw [← accepts.domainId]
      exact domainId
    · show Solid call.artifactRef
      rw [← accepts.artifactRef]
      exact artifactRef
  manifestRef := startsWith_slash loaded.manifestPath.2
  manifestHash := (platform.sha256 loaded.manifestText).2
  refs := by
    intro key
    show CleanList (normalizeRefs (loaded.field "refs") key)
    rw [normalizeRefs]
    cases asRecord? (loaded.field "refs") with
    | none => exact ⟨List.nodup_nil, List.forall_mem_nil _⟩
    | some fields => exact stringList_clean _
  hashes := normalizeHashes_written accepts.passed.2.2.1
  issues := by
    intro issue listed
    have kept : issue ∈ loaded.validation.issues := listed
    rw [LoadedBundle.issues_of_passed accepts.passed] at kept
    exact LoadedBundle.written_declaredIssue (mem_of_mem_uniqueIssues kept)
  distinct := uniqueIssues_distinct _
  sections := ⟨refsOfSection (loaded.declared "missing_refs"),
    refsOfSection (loaded.declared "restricted_refs"), rfl⟩
  claims := uniqueStrings_clean _

/-- A bundle whose record reads as it was written. -/
structure PlainBundle (loaded : LoadedBundle) : Prop where
  path : trim loaded.manifestPath.val = loaded.manifestPath.val
  issues : ∀ issue ∈ uniqueIssues loaded.declaredIssues, PlainIssue issue
  sections : ∀ key, CleanList (refsOfSection (loaded.declared "missing_refs") key) ∧
    CleanList (refsOfSection (loaded.declared "restricted_refs") key)

theorem stable_recordOfBundle_iff (accepts : Accepts platform call loaded) :
    Stable (recordOfBundle platform call loaded) ↔ PlainBundle loaded := by
  have sections : (∀ entry ∈ (recordOfBundle platform call loaded).sections,
      PlainSection entry) ↔ ∀ key,
        CleanList (refsOfSection (loaded.declared "missing_refs") key) ∧
          CleanList (refsOfSection (loaded.declared "restricted_refs") key) := by
    constructor
    · intro plain key
      exact plain _ (List.mem_map_of_mem (mem_refKeys key))
    · intro clean entry listed
      obtain ⟨key, _, rfl⟩ := List.mem_map.1 listed
      exact clean key
  have issues : (recordOfBundle platform call loaded).issues =
      uniqueIssues loaded.declaredIssues := LoadedBundle.issues_of_passed accepts.passed
  constructor
  · intro stable
    exact {
      path := stable.manifestRef
      issues := fun issue listed => stable.issues issue (issues ▸ listed)
      sections := sections.1 stable.sections }
  · intro plain
    exact {
      manifestRef := plain.path
      issues := fun issue listed => plain.issues issue (issues ▸ listed)
      sections := sections.2 plain.sections }

end

end OnePersonLab.Evidence.Provenance

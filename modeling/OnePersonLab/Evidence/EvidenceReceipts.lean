import OnePersonLab.Evidence.JsonReceiptLedgerKeeps
import OnePersonLab.Evidence.ProvenanceReading
import OnePersonLab.Evidence.WorkItemControl

/-!
# The receipts of the evidence ledgers

The long-soak, the release-user-path and the memory-and-artifact ledger hold receipts of one
shape: a reference, a status and lists of evidence references. Each ledger has its own fields, its
own target and its own test of what may be recorded.
-/

namespace OnePersonLab.Evidence.JsonReceipts

open Contract Lib
open Evidence.Provenance (Solid stringValue solid_eq_some stringValue_solid)

/-! ## Receipts -/

/-- `uniqueStrings`: the values that are not blank, each once. -/
def uniqueStrings (values : List String) : List String :=
  (values.filter fun value => trim value ≠ "").eraseDups

def stringList (value : Option Json) : List String :=
  match value with
  | some (.array entries) => entries.filterMap fun entry => stringValue (some entry)
  | _ => []

def allEvidenceRefs (evidenceFields : List String) (refs : String → List String) : List String :=
  uniqueStrings (evidenceFields.flatMap refs)

/-- The fields of a receipt besides the lists of references. -/
def receiptFields : List String := ["receipt_ref", "receipt_status", "recorded_at", "target_surface"]

/-- What sets one evidence ledger apart from the others. -/
structure EvidenceLedger where
  surfaceKind : String
  version : String
  targetSurface : String
  evidenceFields : List String
  otherFields : List String
  refPrefix : String
  primaryDefault : String
  isEligible : (String → List String) → Bool
  fresh : ∀ field ∈ evidenceFields, field ∉ receiptFields
  solidPrefix : refPrefix ≠ "" ∧ ∀ c ∈ refPrefix.toList, isTrimmed c = false
  eligible : ∀ refs, isEligible refs = true → allEvidenceRefs evidenceFields refs ≠ []

/-- A receipt with a reference and with evidence. -/
structure EvidenceReceipt (ledger : EvidenceLedger) where
  receiptRef : String
  receiptStatus : ReceiptStatus
  recordedAt : String
  refs : String → List String
  named : Solid receiptRef
  evident : allEvidenceRefs ledger.evidenceFields refs ≠ []

structure EvidenceReceiptInput where
  receiptRef : Option String
  refs : String → List String

def ReceiptStatus.text : ReceiptStatus → String
  | .recorded => "recorded"
  | .verified => "verified"

def statusOf (value : Option Json) : ReceiptStatus :=
  if value = some (.string "verified") then .verified else .recorded

section

variable (ledger : EvidenceLedger)

def refsOfFields (source : JsonRecord) (field : String) : List String :=
  uniqueStrings (stringList (field? source field))

/-- The fields of an object; none of another value. -/
def fieldsOf (value : Json) : JsonRecord := (Provenance.asRecord? (some value)).getD []

def normalizeReceipt (now : String) (value : Json) : Option (EvidenceReceipt ledger) :=
  let source := fieldsOf value
  match named : stringValue (field? source "receipt_ref") with
  | none => none
  | some receiptRef =>
    if field? source "target_surface" ≠ some (.string ledger.targetSurface) then none
    else if evident : allEvidenceRefs ledger.evidenceFields (refsOfFields source) ≠ [] then
      some {
        receiptRef
        receiptStatus := statusOf (field? source "receipt_status")
        recordedAt := (stringValue (field? source "recorded_at")).getD now
        refs := refsOfFields source
        named := stringValue_solid named
        evident }
    else none

def receiptRef (input : EvidenceReceiptInput) : String :=
  (trimmedText input.receiptRef).getD (ledger.refPrefix ++ encodeURIComponent
    ((allEvidenceRefs ledger.evidenceFields input.refs).head?.getD ledger.primaryDefault))

def EvidenceReceipt.verified {ledger : EvidenceLedger} (receipt : EvidenceReceipt ledger) :
    EvidenceReceipt ledger :=
  { receipt with receiptStatus := .verified }

def EvidenceReceipt.toReceipt {ledger : EvidenceLedger} (receipt : EvidenceReceipt ledger) :
    JsonReceipt :=
  { receiptRef := receipt.receiptRef, receiptStatus := receipt.receiptStatus }

def EvidenceReceipt.toJson {ledger : EvidenceLedger} (receipt : EvidenceReceipt ledger) : Json :=
  .object ([("receipt_ref", .string receipt.receiptRef),
      ("receipt_status", .string receipt.receiptStatus.text),
      ("recorded_at", .string receipt.recordedAt),
      ("target_surface", .string ledger.targetSurface)] ++
    (ledger.evidenceFields ++ ledger.otherFields).map fun field =>
      (field, Json.ofStrings (receipt.refs field)))

end

/-! ## References -/

section

variable {ledger : EvidenceLedger}

theorem untrimmed_of_all {text : List Char} (all : (text.all fun c => !isTrimmed c) = true) :
    ∀ c ∈ text, isTrimmed c = false := by
  intro c listed
  simpa using List.all_eq_true.1 all c listed

theorem encodeUriByte_solid (byte : UInt8) : ∀ c ∈ encodeUriByte byte, isTrimmed c = false := by
  have all : ∀ value : Fin 256,
      ((encodeUriByte (UInt8.ofNat value.val)).all fun c => !isTrimmed c) = true := by
    decide +kernel
  have same : UInt8.ofNat byte.toNat = byte := by simp
  have byByte := all ⟨byte.toNat, byte.toNat_lt⟩
  rw [same] at byByte
  exact untrimmed_of_all byByte

theorem solid_of_all {text : String} (filled : text ≠ "")
    (solid : ∀ c ∈ text.toList, isTrimmed c = false) : Solid text := by
  refine ⟨?_, filled⟩
  have whole : trimChars text.toList = text.toList := by
    refine trimChars_of_bounds ?_ ?_
    · exact fun c first => solid c (List.mem_of_mem_head? first)
    · exact fun c last => solid c (List.mem_of_mem_getLast? last)
  rw [trim, characters_eq_toList, whole, String.ofList_toList]

theorem receiptRef_solid (ledger : EvidenceLedger) (input : EvidenceReceiptInput) :
    Solid (receiptRef ledger input) := by
  unfold receiptRef
  cases given : trimmedText input.receiptRef with
  | some text =>
    obtain ⟨named, filled⟩ := Option.filter_eq_some_iff.1 given
    obtain ⟨raw, _, rfl⟩ := Option.map_eq_some_iff.1 named
    exact ⟨trim_trim raw, of_decide_eq_true filled⟩
  | none =>
    obtain ⟨filled, solid⟩ := ledger.solidPrefix
    refine solid_of_all ?_ ?_
    · intro empty
      have front := congrArg String.toList empty
      rw [Option.getD_none, String.toList_append] at front
      exact filled (String.toList_injective (List.append_eq_nil_iff.1 front).1)
    · intro c listed
      rw [Option.getD_none, String.toList_append, List.mem_append] at listed
      obtain front | encoded := listed
      · exact solid c front
      · rw [encodeURIComponent, String.toList_ofList] at encoded
        obtain ⟨byte, _, here⟩ := List.mem_flatMap.1 encoded
        exact encodeUriByte_solid byte c here

theorem mem_uniqueStrings {values : List String} {value : String} :
    value ∈ uniqueStrings values ↔ value ∈ values ∧ trim value ≠ "" := by
  rw [uniqueStrings, List.mem_eraseDups, List.mem_filter, decide_eq_true_iff]

theorem allEvidenceRefs_ne_nil {fields : List String} {refs : String → List String} :
    allEvidenceRefs fields refs ≠ [] ↔ ∃ field ∈ fields, ∃ ref ∈ refs field, trim ref ≠ "" := by
  constructor
  · intro nonempty
    obtain ⟨ref, listed⟩ := List.exists_mem_of_ne_nil _ nonempty
    obtain ⟨there, filled⟩ := mem_uniqueStrings.1 listed
    obtain ⟨field, known, there⟩ := List.mem_flatMap.1 there
    exact ⟨field, known, ref, there, filled⟩
  · rintro ⟨field, known, ref, there, filled⟩
    exact List.ne_nil_of_mem
      (mem_uniqueStrings.2 ⟨List.mem_flatMap.2 ⟨field, known, there⟩, filled⟩)

theorem evident_uniqueStrings {input : EvidenceReceiptInput}
    (eligible : ledger.isEligible input.refs = true) :
    allEvidenceRefs ledger.evidenceFields (fun field => uniqueStrings (input.refs field)) ≠ [] := by
  obtain ⟨field, known, ref, there, filled⟩ :=
    allEvidenceRefs_ne_nil.1 (ledger.eligible input.refs eligible)
  exact allEvidenceRefs_ne_nil.2
    ⟨field, known, ref, mem_uniqueStrings.2 ⟨there, filled⟩, filled⟩

/-! ## Reading a receipt back -/

theorem toReceipt_normalizeReceipt (now : String) (value : Json) :
    (normalizeReceipt ledger now value).map EvidenceReceipt.toReceipt =
      (stringValue (field? (fieldsOf value) "receipt_ref")).bind fun receiptRef =>
        if field? (fieldsOf value) "target_surface" = some (.string ledger.targetSurface) ∧
            allEvidenceRefs ledger.evidenceFields (refsOfFields (fieldsOf value)) ≠ [] then
          some ⟨receiptRef, statusOf (field? (fieldsOf value) "receipt_status")⟩
        else none := by
  unfold normalizeReceipt
  dsimp only
  split
  · rename_i absent
    rw [absent]
    rfl
  · rename_i receiptRef named
    have read := congrArg (Option.bind · fun receiptRef =>
      if field? (fieldsOf value) "target_surface" = some (.string ledger.targetSurface) ∧
          allEvidenceRefs ledger.evidenceFields (refsOfFields (fieldsOf value)) ≠ [] then
        some (⟨receiptRef, statusOf (field? (fieldsOf value) "receipt_status")⟩ : JsonReceipt)
      else none) named
    refine Eq.trans ?_ read.symm
    rw [Option.bind_some]
    by_cases target : field? (fieldsOf value) "target_surface" =
        some (.string ledger.targetSurface)
    · rw [if_neg (not_not.2 target)]
      by_cases evident : allEvidenceRefs ledger.evidenceFields (refsOfFields (fieldsOf value)) ≠ []
      · rw [dif_pos evident, if_pos ⟨target, evident⟩]
        rfl
      · rw [dif_neg evident, if_neg (fun both => evident both.2)]
        rfl
    · rw [if_pos target, if_neg (fun both => target both.1)]
      rfl

theorem statusOf_text (status : ReceiptStatus) :
    statusOf (some (.string status.text)) = status := by
  cases status with
  | recorded => exact if_neg (by decide)
  | verified => exact if_pos rfl

theorem field?_map {fields : List String} {content : String → Json} {field : String}
    (listed : field ∈ fields) :
    field? (fields.map fun field => (field, content field)) field = some (content field) := by
  induction fields with
  | nil => cases listed
  | cons first rest ih =>
    rw [List.map_cons, field?_cons]
    by_cases same : field = first
    · rw [if_pos same, same]
    · rw [if_neg same]
      exact ih ((List.mem_cons.1 listed).resolve_left same)

theorem field?_toJson (receipt : EvidenceReceipt ledger) {field : String}
    (listed : field ∈ ledger.evidenceFields) :
    field? (fieldsOf receipt.toJson) field = some (Json.ofStrings (receipt.refs field)) := by
  have apart := ledger.fresh field listed
  simp only [receiptFields, List.mem_cons, List.not_mem_nil, or_false, not_or] at apart
  obtain ⟨ref, status, recorded, target⟩ := apart
  show field? (_ :: _ :: _ :: _ :: _) field = _
  rw [field?_cons, if_neg ref, field?_cons, if_neg status, field?_cons, if_neg recorded, field?_cons,
    if_neg target]
  exact field?_map (List.mem_append_left _ listed)

theorem mem_stringList_ofStrings {texts : List String} {text : String} (listed : text ∈ texts)
    (filled : trim text ≠ "") : trim text ∈ stringList (some (Json.ofStrings texts)) := by
  refine List.mem_filterMap.2 ⟨.string text, List.mem_map_of_mem listed, ?_⟩
  exact if_neg filled

/-- What was written reads back as the same receipt. -/
theorem toReceipt_toJson (now : String) (receipt : EvidenceReceipt ledger) :
    (normalizeReceipt ledger now receipt.toJson).map EvidenceReceipt.toReceipt =
      some receipt.toReceipt := by
  have ref : field? (fieldsOf receipt.toJson) "receipt_ref" =
      some (.string receipt.receiptRef) := rfl
  have status : field? (fieldsOf receipt.toJson) "receipt_status" =
      some (.string receipt.receiptStatus.text) := rfl
  have target : field? (fieldsOf receipt.toJson) "target_surface" =
      some (.string ledger.targetSurface) := rfl
  have evident : allEvidenceRefs ledger.evidenceFields (refsOfFields (fieldsOf receipt.toJson)) ≠
      [] := by
    obtain ⟨field, known, evidence, there, filled⟩ := allEvidenceRefs_ne_nil.1 receipt.evident
    refine allEvidenceRefs_ne_nil.2 ⟨field, known, trim evidence, ?_, ?_⟩
    · rw [refsOfFields, field?_toJson receipt known]
      refine mem_uniqueStrings.2 ⟨mem_stringList_ofStrings there filled, ?_⟩
      rw [trim_trim]
      exact filled
    · rw [trim_trim]
      exact filled
  rw [toReceipt_normalizeReceipt, ref, receipt.named.stringValue_eq, Option.bind_some, status,
    statusOf_text, if_pos ⟨target, evident⟩]
  rfl

theorem timeless (now now' : String) (value : Json) :
    (normalizeReceipt ledger now value).map EvidenceReceipt.toReceipt =
      (normalizeReceipt ledger now' value).map EvidenceReceipt.toReceipt := by
  rw [toReceipt_normalizeReceipt, toReceipt_normalizeReceipt]

theorem toReceipt_verified (receipt : EvidenceReceipt ledger) :
    receipt.verified.toReceipt = receipt.toReceipt.verify := rfl

end

/-! ## The ledgers -/

def normalizeInput (ledger : EvidenceLedger) (now : String)
    (input : { input : EvidenceReceiptInput // ledger.isEligible input.refs = true }) :
    EvidenceReceipt ledger where
  receiptRef := receiptRef ledger input.val
  receiptStatus := .recorded
  recordedAt := now
  refs field := uniqueStrings (input.val.refs field)
  named := receiptRef_solid ledger input.val
  evident := evident_uniqueStrings input.property

def emptyLedger (ledger : EvidenceLedger) : JsonRecord :=
  [("surface_kind", .string ledger.surfaceKind), ("version", .string ledger.version)]

theorem emptyLedger_headed (ledger : EvidenceLedger) :
    field? (emptyLedger ledger) "receipts" = none := rfl

/-- `createJsonReceiptLedgerAdapter` with the functions of an evidence ledger. -/
def receiptLedger (ledger : EvidenceLedger) :
    ReceiptLedger (EvidenceReceipt ledger) EvidenceReceiptInput where
  emptyLedger := emptyLedger ledger
  isEligible input := ledger.isEligible input.refs
  normalizeReceipt := normalizeReceipt ledger
  normalizeInput := normalizeInput ledger
  toJson := EvidenceReceipt.toJson
  toReceipt := EvidenceReceipt.toReceipt
  verified := EvidenceReceipt.verified
  headed := emptyLedger_headed ledger
  verifies := toReceipt_verified
  timeless := timeless
  readsBack := toReceipt_toJson

/-! ### Long soaks -/

def longSoakFields : List String :=
  ["long_soak_refs", "recovery_refs", "dead_letter_refs", "provider_blocker_refs",
    "typed_blocker_refs", "owner_acceptance_refs"]

theorem longSoakFields_fresh : ∀ field ∈ longSoakFields, field ∉ receiptFields := by decide

theorem longSoak_prefix : "opl://provider-long-soak-evidence/" ≠ "" ∧
    ∀ c ∈ "opl://provider-long-soak-evidence/".toList, isTrimmed c = false :=
  ⟨by decide, untrimmed_of_all (by decide +kernel)⟩

theorem eligible_of_evident (fields : List String) (refs : String → List String)
    (eligible : decide (allEvidenceRefs fields refs ≠ []) = true) :
    allEvidenceRefs fields refs ≠ [] :=
  of_decide_eq_true eligible

/-- `provider-long-soak-evidence-ledger.ts`. -/
def providerLongSoakLedger : EvidenceLedger where
  surfaceKind := "opl_provider_long_soak_evidence_ledger"
  version := "opl-provider-long-soak-evidence-ledger.v1"
  targetSurface := "provider_long_soak"
  evidenceFields := longSoakFields
  otherFields := ["capability_requirement_ids"]
  refPrefix := "opl://provider-long-soak-evidence/"
  primaryDefault := "provider-long-soak-evidence"
  isEligible refs := decide (allEvidenceRefs longSoakFields refs ≠ [])
  fresh := longSoakFields_fresh
  solidPrefix := longSoak_prefix
  eligible := eligible_of_evident longSoakFields

/-! ### Memory and artifacts -/

def memoryArtifactFields : List String :=
  ["memory_receipt_refs", "memory_writeback_receipt_refs", "artifact_mutation_receipt_refs",
    "package_lifecycle_receipt_refs", "export_lifecycle_receipt_refs",
    "cleanup_restore_retention_receipt_refs", "typed_blocker_refs", "owner_acceptance_refs"]

theorem memoryArtifactFields_fresh : ∀ field ∈ memoryArtifactFields, field ∉ receiptFields := by
  decide

theorem memoryArtifact_prefix : "opl://memory-artifact-lifecycle-evidence/" ≠ "" ∧
    ∀ c ∈ "opl://memory-artifact-lifecycle-evidence/".toList, isTrimmed c = false :=
  ⟨by decide, untrimmed_of_all (by decide +kernel)⟩

/-- `memory-artifact-lifecycle-evidence-ledger.ts`. -/
def memoryArtifactLifecycleLedger : EvidenceLedger where
  surfaceKind := "opl_memory_artifact_lifecycle_evidence_ledger"
  version := "opl-memory-artifact-lifecycle-evidence-ledger.v1"
  targetSurface := "memory_artifact_lifecycle"
  evidenceFields := memoryArtifactFields
  otherFields := []
  refPrefix := "opl://memory-artifact-lifecycle-evidence/"
  primaryDefault := "memory-artifact-lifecycle-evidence"
  isEligible refs := decide (allEvidenceRefs memoryArtifactFields refs ≠ [])
  fresh := memoryArtifactFields_fresh
  solidPrefix := memoryArtifact_prefix
  eligible := eligible_of_evident memoryArtifactFields

/-! ### The release user path -/

/-- The fields of each path that a payload may take. -/
def payloadPathFields : List (List String) :=
  [["release_package_refs", "screenshot_refs", "reload_prompt_user_path_refs",
      "provider_state_linkage_refs", "long_operator_evidence_refs"],
    ["release_owner_receipt_refs", "install_evidence_refs"],
    ["typed_blocker_refs"], ["owner_acceptance_refs"]]

/-- `payloadPath` is not null: the payload takes exactly one path. -/
def hasPayloadPath (refs : String → List String) : Bool :=
  (payloadPathFields.filter fun fields => allEvidenceRefs fields refs ≠ []).length = 1

theorem payloadPathFields_fresh : ∀ field ∈ payloadPathFields.flatten, field ∉ receiptFields := by
  decide

theorem appRelease_prefix : "opl://app-release-user-path-evidence/" ≠ "" ∧
    ∀ c ∈ "opl://app-release-user-path-evidence/".toList, isTrimmed c = false :=
  ⟨by decide, untrimmed_of_all (by decide +kernel)⟩

theorem eligible_of_payloadPath (refs : String → List String)
    (eligible : hasPayloadPath refs = true) :
    allEvidenceRefs payloadPathFields.flatten refs ≠ [] := by
  have single := of_decide_eq_true eligible
  have nonempty : (payloadPathFields.filter fun fields => allEvidenceRefs fields refs ≠ []) ≠ [] := by
    intro none
    rw [none] at single
    cases single
  obtain ⟨fields, listed⟩ := List.exists_mem_of_ne_nil _ nonempty
  obtain ⟨path, evident⟩ := List.mem_filter.1 listed
  obtain ⟨field, known, rest⟩ := allEvidenceRefs_ne_nil.1 (of_decide_eq_true evident)
  exact allEvidenceRefs_ne_nil.2 ⟨field, List.mem_flatten.2 ⟨fields, path, known⟩, rest⟩

/-- `app-release-user-path-evidence-ledger.ts`. -/
def appReleaseUserPathLedger : EvidenceLedger where
  surfaceKind := "opl_app_release_user_path_evidence_ledger"
  version := "opl-app-release-user-path-evidence-ledger.v1"
  targetSurface := "one_person_lab_app_release_user_path"
  evidenceFields := payloadPathFields.flatten
  otherFields := []
  refPrefix := "opl://app-release-user-path-evidence/"
  primaryDefault := "app-release-user-path"
  isEligible := hasPayloadPath
  fresh := payloadPathFields_fresh
  solidPrefix := appRelease_prefix
  eligible := eligible_of_payloadPath

/-! ## A receipt that is recorded again -/

def soakReceipt : Json :=
  .object [("receipt_ref", .string "opl://soak/1"), ("receipt_status", .string "verified"),
    ("recorded_at", .string "2026-01-01T00:00:00.000Z"),
    ("target_surface", .string "provider_long_soak"),
    ("long_soak_refs", .array [.string "soak:1"])]

def soakFile (receipts : List Json) : LedgerFile := some (.object [("receipts", .array receipts)])

def soakInput : EvidenceReceiptInput :=
  { receiptRef := some "opl://soak/1"
    refs := fun field => if field = "long_soak_refs" then ["soak:2"] else [] }

/-- Recording a verified receipt again takes its verification away, and a reference that the file
holds twice stays there twice. -/
theorem recorded_again :
    (held (receiptLedger providerLongSoakLedger) (soakFile [soakReceipt]) =
        [⟨"opl://soak/1", .verified⟩] ∧
      held (receiptLedger providerLongSoakLedger) (after (receiptLedger providerLongSoakLedger)
          (soakFile [soakReceipt]) [.record "2026-01-02T00:00:00.000Z" [soakInput]]) =
        [⟨"opl://soak/1", .recorded⟩]) ∧
    held (receiptLedger providerLongSoakLedger) (after (receiptLedger providerLongSoakLedger)
        (soakFile [soakReceipt, soakReceipt]) [.verify "2026-01-02T00:00:00.000Z" none]) =
      [⟨"opl://soak/1", .verified⟩, ⟨"opl://soak/1", .verified⟩] := by
  decide +kernel

end OnePersonLab.Evidence.JsonReceipts

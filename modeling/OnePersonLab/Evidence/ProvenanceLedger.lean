import OnePersonLab.Evidence.ProvenanceBundle

/-!
# The ledger of provenance bundles

A valid bundle is recorded in a JSON file. A record of the same bundle, domain and artifact is
replaced in its place, any other comes first. Every read normalises the records again.
-/

namespace OnePersonLab.Evidence.Provenance

open Contract

inductive BundleFailure where
  | usage (message : String)
  | contract (message : String)
  deriving DecidableEq, Repr

abbrev Recorded := Except BundleFailure

/-! ## Records -/

/-- A record. Its index keys and its issue count are read off the other fields. -/
structure Record where
  recordRef : String
  recordedAt : String
  bundleId : String
  domainId : String
  artifactRef : String
  artifactType : String
  bundleManifestRef : String
  bundleManifestHash : HashEntry
  refs : BundleRefs
  hashes : List (String × HashEntry)
  issues : List Issue
  sections : List Section
  forbiddenClaims : List String

namespace Record

variable (record : Record)

def issueCount : Nat := record.issues.length

/-- `index_keys.domain_artifact`. -/
def domainArtifact : String := s!"{record.domainId}::{record.artifactRef}"

/-- What tells a record from another: bundle, domain and artifact. -/
def key : String × String × String := (record.bundleId, record.domainId, record.artifactRef)

end Record

/-! ## The written form -/

def HashEntry.toJson (hash : HashEntry) : Json :=
  .object [("algorithm", .string "sha256"), ("value", .string hash.value)]

def refsToJson (refs : BundleRefs) : Json :=
  .object (refKeys.map fun key => (key.text, Json.ofStrings (refs key)))

def hashesToJson (hashes : List (String × HashEntry)) : Json :=
  .object (hashes.map fun entry => (entry.1, entry.2.toJson))

def Issue.toJson (issue : Issue) : Json :=
  .object [("code", .string issue.code), ("severity", .string issue.severity.text),
    ("ref", .string issue.ref), ("message", .string issue.message),
    ("action", .string issue.action)]

def Section.toJson (entry : Section) : Json :=
  .object [("section_key", .string entry.sectionKey.text), ("refs", Json.ofStrings entry.refs),
    ("missing_refs", Json.ofStrings entry.missingRefs),
    ("restricted_refs", Json.ofStrings entry.restrictedRefs)]

/-- The fields of a record in the file that a read looks at. -/
def Record.toJson (record : Record) : Json :=
  .object [("record_ref", .string record.recordRef), ("recorded_at", .string record.recordedAt),
    ("bundle_id", .string record.bundleId), ("domain_id", .string record.domainId),
    ("artifact_ref", .string record.artifactRef), ("artifact_type", .string record.artifactType),
    ("bundle_manifest_ref", .string record.bundleManifestRef),
    ("bundle_manifest_hash", record.bundleManifestHash.toJson), ("refs", refsToJson record.refs),
    ("hashes", hashesToJson record.hashes), ("issues", .array (record.issues.map Issue.toJson)),
    ("sections", .array (record.sections.map Section.toJson)),
    ("authority_boundary",
      .object [("forbidden_claims", Json.ofStrings record.forbiddenClaims)])]

/-! ## Reading -/

/-- Only errors and warnings are read. -/
def readSeverity : Option Json → Option IssueSeverity
  | some (.string text) =>
    if text = "error" then some .error else if text = "warning" then some .warning else none
  | _ => none

def normalizeIssue (value : Json) : Option Issue := do
  let entry ← asRecord? (some value)
  let code ← stringValue (field? entry "code")
  let severity ← readSeverity (field? entry "severity")
  let ref ← stringValue (field? entry "ref")
  let message ← stringValue (field? entry "message")
  let action ← stringValue (field? entry "action")
  return { code, severity, ref, message, action }

def normalizeIssues : Option Json → List Issue
  | some (.array items) => uniqueIssues (items.filterMap normalizeIssue)
  | _ => []

/-- The section that an entry of `sections` describes. -/
def readSection (value : Json) : Option Section := do
  let entry ← asRecord? (some value)
  let name ← (field? entry "section_key").bind Json.asString?
  let sectionKey ← refKey? name
  return { sectionKey
           refs := stringList (field? entry "refs")
           missingRefs := stringList (field? entry "missing_refs")
           restrictedRefs := stringList (field? entry "restricted_refs") }

/-- The last section of a key counts. -/
def sectionOf (entries : List Section) (fallbackRefs : BundleRefs) (sectionKey : RefKey) :
    Section :=
  (entries.reverse.find? fun entry => entry.sectionKey = sectionKey).getD
    { sectionKey, refs := fallbackRefs sectionKey, missingRefs := [], restrictedRefs := [] }

def normalizeSections (value : Option Json) (fallbackRefs : BundleRefs) : List Section :=
  match value with
  | some (.array items) => refKeys.map (sectionOf (items.filterMap readSection) fallbackRefs)
  | _ => sectionsForRefs fallbackRefs [] []

def normalizeRecord (nowIso : String) (value : Json) : Option Record := do
  let entry ← asRecord? (some value)
  let recordRef ← stringValue (field? entry "record_ref")
  let bundleId ← stringValue (field? entry "bundle_id")
  let domainId ← stringValue (field? entry "domain_id")
  let artifactRef ← stringValue (field? entry "artifact_ref")
  let artifactType ← stringValue (field? entry "artifact_type")
  let bundleManifestRef ← stringValue (field? entry "bundle_manifest_ref")
  let bundleManifestHash ← (field? entry "bundle_manifest_hash").bind normalizeHashEntry
  let refs := normalizeRefs (field? entry "refs")
  return {
    recordRef
    recordedAt := (stringValue (field? entry "recorded_at")).getD nowIso
    bundleId
    domainId
    artifactRef
    artifactType
    bundleManifestRef
    bundleManifestHash
    refs
    hashes := normalizeHashes (field? entry "hashes")
    issues := normalizeIssues (field? entry "issues")
    sections := normalizeSections (field? entry "sections") refs
    forbiddenClaims := uniqueStrings (stringList
      (field? (recordOf (field? entry "authority_boundary")) "forbidden_claims")) }

/-- The file, where it is there: its records as they were written. -/
abbrev LedgerFile := Option (List Json)

def readLedger (nowIso : String) (file : LedgerFile) : List Record :=
  (file.getD []).filterMap (normalizeRecord nowIso)

/-! ## Recording -/

/-- A text as the host writes times and paths: it is not blank and has no space at its ends. -/
abbrev SolidText := { text : String // trim text = text ∧ text ≠ "" }

/-- An absolute path. -/
abbrev AbsolutePath := { text : String // startsWith text "/" = true }

abbrev HexDigest := { text : String // isLowerHexDigest text = true }

/-- What the host computes. -/
structure BundlePlatform where
  parseJson : String → Option Json
  sha256 : String → HexDigest
  encodeURIComponent : String → String

/-- What the given path leads to. -/
inductive BundleFile where
  | missing
  | unsupported
  | manifest (path : AbsolutePath) (text : String)

/-- A call of `recordArtifactProvenanceBundle`, with the file it finds and the time it reads. -/
structure RecordCall where
  bundle : BundleFile
  domainId : String
  artifactRef : String
  nowIso : SolidText

/-- A manifest that was read. -/
structure LoadedBundle where
  manifestPath : AbsolutePath
  manifestText : String
  parsed : Json

namespace LoadedBundle

variable (loaded : LoadedBundle)

def manifest : Manifest := normalizeManifest loaded.parsed

def validation : Validation := validationForLoadedBundle loaded.parsed

end LoadedBundle

section

variable (platform : BundlePlatform)

def readBundle : BundleFile → Recorded LoadedBundle
  | .missing => .error (.usage "Artifact provenance bundle path does not exist.")
  | .unsupported =>
    .error (.usage "Bundle directory does not contain a supported manifest file.")
  | .manifest path text =>
    match platform.parseJson text with
    | none => .error (.contract "Artifact provenance bundle manifest must be valid JSON.")
    | some parsed => .ok { manifestPath := path, manifestText := text, parsed }

def manifestHash (manifestText : String) : HashEntry where
  value := (platform.sha256 manifestText).val

/-- `value.slice(0, 16)`. -/
def hashHead (hash : HashEntry) : String := String.ofList (hash.value.toList.take 16)

/-- The record of a bundle. -/
def recordOfBundle (call : RecordCall) (loaded : LoadedBundle) : Record :=
  let bundleManifestHash := manifestHash platform loaded.manifestText
  { recordRef := "opl://artifact-provenance-bundle/" ++
      platform.encodeURIComponent loaded.manifest.bundleId ++ "/" ++ hashHead bundleManifestHash
    recordedAt := call.nowIso.val
    bundleId := loaded.manifest.bundleId
    domainId := call.domainId
    artifactRef := call.artifactRef
    artifactType := loaded.manifest.artifactType
    bundleManifestRef := loaded.manifestPath.val
    bundleManifestHash
    refs := loaded.manifest.refs
    hashes := loaded.manifest.hashes
    issues := loaded.validation.issues
    sections := loaded.validation.sections
    forbiddenClaims := loaded.manifest.forbiddenClaims }

/-- The records with one in its place, or in front. -/
def putRecord (records : List Record) (record : Record) : List Record :=
  if records.any fun entry => entry.key = record.key then
    records.modify (records.findIdx fun entry => entry.key = record.key) fun _ => record
  else record :: records

def recordArtifactProvenanceBundle (file : LedgerFile) (call : RecordCall) :
    Recorded (LedgerFile × Record) := do
  let loaded ← readBundle platform call.bundle
  if ¬loaded.validation.Passed then
    .error (.contract "Artifact provenance bundle manifest failed validation.")
  else if loaded.manifest.domainId ≠ call.domainId ∨ loaded.manifest.artifactRef ≠ call.artifactRef then
    .error (.contract "Bundle record domain/artifact arguments must match the manifest.")
  else
    let record := recordOfBundle platform call loaded
    let records := putRecord (readLedger call.nowIso.val file) record
    .ok (some (records.map Record.toJson), record)

end

/-! ## Inspecting -/

/-- What an inspection of an artifact finds. -/
structure Inspection where
  record : Option Record
  records : List Record
  issues : List Issue

def inspectRecordedArtifactProvenanceBundle (nowIso : String) (file : LedgerFile)
    (artifactRef : String) : Inspection :=
  let records := (readLedger nowIso file).filter fun record => record.artifactRef = artifactRef
  { record := records.head?
    records
    issues := match records.head? with
      | some latest => latest.issues
      | none => [{
          code := "bundle_record_not_found"
          severity := .warning
          ref := artifactRef
          message := "No recorded Artifact Provenance Bundle was found for this artifact ref in OPL state."
          action := "Run opl ledger bundle record --bundle <path> --domain <id> --artifact <ref> after validating the bundle." }] }

/-- `inspectArtifactProvenanceBundle({ artifactRef })`. -/
def inspectArtifactProvenanceBundle (nowIso : String) (file : LedgerFile) (artifactRef : String) :
    Recorded Inspection :=
  match solid artifactRef with
  | none => .error (.usage
      "Artifact provenance bundle inspect requires --bundle or --artifact.")
  | some artifactRef => .ok (inspectRecordedArtifactProvenanceBundle nowIso file artifactRef)

end OnePersonLab.Evidence.Provenance

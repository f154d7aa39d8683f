import OnePersonLab.Contract.Json

/-!
# Artifact provenance bundles

A bundle manifest names an artifact and what it came from, as references and hashes only. The
validator reports everything that the manifest lacks or may not hold; a manifest may also
declare references that are missing or restricted, and issues of its own.
-/

namespace OnePersonLab.Evidence.Provenance

open Contract

/-! ## Strings and lists of a manifest -/

/-- The trimmed text, where there is any. -/
def solid (text : String) : Option String := if trim text = "" then none else some (trim text)

def stringValue : Option Json → Option String
  | some (.string text) => solid text
  | _ => none

/-- `uniqueStringList(values.map(stringValue))`. -/
def uniqueTexts (values : List Json) : List String :=
  (values.filterMap fun value => stringValue (some value)).eraseDups

def uniqueStrings (values : List String) : List String := (values.filterMap solid).eraseDups

/-- The texts of an array. -/
def arrayTexts : Option Json → List String
  | some (.array items) => uniqueTexts items
  | _ => []

def stringList (value : Option Json) : List String :=
  match stringValue value with
  | some scalar => [scalar]
  | none => arrayTexts value

/-- The fields of a value for which `isRecord` holds. -/
def asRecord? : Option Json → Option JsonRecord
  | some (.object fields) => some fields
  | _ => none

/-- `isRecord(value) ? value : {}`. -/
def recordOf (value : Option Json) : JsonRecord := (asRecord? value).getD []

/-- The texts of an array of strings none of which is blank. -/
def stringItems : List Json → Option (List String)
  | [] => some []
  | .string text :: rest =>
    if trim text = "" then none else (stringItems rest).map (List.cons text)
  | _ :: _ => none

/-- The items of a value for which `isStringArray` holds. -/
def stringArray? : Option Json → Option (List String)
  | some (.array items) => stringItems items
  | _ => none

def isStringArray (value : Option Json) : Bool := (stringArray? value).isSome

/-! ## References -/

inductive RefKey where
  | code
  | inputs
  | outputs
  | environment
  | agentTrace
  | reviews
  | replay
  deriving DecidableEq, Repr

def RefKey.text : RefKey → String
  | .code => "code"
  | .inputs => "inputs"
  | .outputs => "outputs"
  | .environment => "environment"
  | .agentTrace => "agent_trace"
  | .reviews => "reviews"
  | .replay => "replay"

/-- `REF_KEYS`. -/
def refKeys : List RefKey :=
  [.code, .inputs, .outputs, .environment, .agentTrace, .reviews, .replay]

/-- The key of a name for which `isRefKey` holds. -/
def refKey? (name : String) : Option RefKey := refKeys.find? fun key => key.text = name

/-- The references under each key. -/
abbrev BundleRefs := RefKey → List String

def emptyRefs : BundleRefs := fun _ => []

def normalizeRefs (value : Option Json) : BundleRefs :=
  match asRecord? value with
  | none => emptyRefs
  | some fields => fun key => stringList (field? fields key.text)

/-! ## Hashes -/

/-- A hash entry; its algorithm is always `sha256`. -/
structure HashEntry where
  value : String
  deriving DecidableEq, Repr

def isHexDigit (c : Char) : Bool := isLowerHex c || ('A' ≤ c && c ≤ 'F')

/-- The pattern of 64 hexadecimal digits. -/
def isHexDigest (text : String) : Bool := text.toList.length == 64 && text.toList.all isHexDigit

/-- The same in lower case. -/
def isLowerHexDigest (text : String) : Bool :=
  text.toList.length == 64 && text.toList.all isLowerHex

/-- The digest of a text that has the form of one. -/
def hashOfText (text : String) : Option HashEntry :=
  if isHexDigest text = true then some { value := toLowerCase text } else none

def normalizeHashEntry : Json → Option HashEntry
  | .string text => hashOfText text
  | .object fields =>
    if field? fields "algorithm" = some (.string "sha256") then
      (stringValue (field? fields "value")).bind hashOfText
    else none
  | _ => none

/-- An assignment to the key `__proto__` makes no property. -/
def normalizeHashes (value : Option Json) : List (String × HashEntry) :=
  (recordOf value).filterMap fun entry =>
    if entry.1 = "__proto__" then none
    else (normalizeHashEntry entry.2).map fun hash => (entry.1, hash)

def labelled (front key : String) : String := if front = "" then key else s!"{front}.{key}"

def unknownFields (fields : JsonRecord) (allowed : List String) (front : String) : List String :=
  ((fields.map Prod.fst).filter fun key => key ∉ allowed).map (labelled front)

def isStrictHashEntry (value : Json) : Bool :=
  match value with
  | .object fields =>
    decide (field? fields "algorithm" = some (.string "sha256")) &&
      (stringValue (field? fields "value")).any isLowerHexDigest &&
      decide (unknownFields fields ["algorithm", "value"] "" = [])
  | _ => false

def invalidHashFields (value : Option Json) : List String :=
  match asRecord? value with
  | none => ["hashes"]
  | some fields =>
    (fields.filter fun entry => !isStrictHashEntry entry.2).map fun entry => s!"hashes.{entry.1}"

/-! ## Declared issues -/

inductive IssueSeverity where
  | error
  | warning
  | info
  deriving DecidableEq, Repr

def IssueSeverity.text : IssueSeverity → String
  | .error => "error"
  | .warning => "warning"
  | .info => "info"

structure Issue where
  code : String
  severity : IssueSeverity
  ref : String
  message : String
  action : String
  deriving DecidableEq, Repr

def issueKey (issue : Issue) : String := issue.code ++ "\x00" ++ issue.ref

/-- The issues whose keys have not been seen, each key once. -/
def unseenIssues (seen : List String) : List Issue → List Issue
  | [] => []
  | issue :: rest =>
    if issueKey issue ∈ seen then unseenIssues seen rest
    else issue :: unseenIssues (issueKey issue :: seen) rest

def uniqueIssues (issues : List Issue) : List Issue := unseenIssues [] issues

structure DeclaredRefIssue where
  ref : String
  sourcePath : String
  sectionKey : Option RefKey
  deriving DecidableEq, Repr

/-- The references of one array. -/
def declaredRefs (refs : List String) (path : String) (sectionKey : Option RefKey) :
    List DeclaredRefIssue :=
  refs.zipIdx.map fun entry =>
    { ref := entry.1, sourcePath := s!"{path}[{entry.2}]", sectionKey }

def declaredRefIssueEntries (value : Option Json) (name : String) : List DeclaredRefIssue :=
  match stringArray? value with
  | some refs => declaredRefs refs name none
  | none => (recordOf value).flatMap fun entry =>
    match stringArray? (some entry.2) with
    | some refs => declaredRefs refs s!"{name}.{entry.1}" (refKey? entry.1)
    | none => []

def invalidDeclaredRefIssueFields (value : Option Json) (name : String) : List String :=
  if value = none ∨ isStringArray value = true then []
  else
    match asRecord? value with
    | none => [name]
    | some fields =>
      (fields.filter fun entry => !isStringArray (some entry.2)).map fun entry =>
        s!"{name}.{entry.1}"

structure Section where
  sectionKey : RefKey
  refs : List String
  missingRefs : List String
  restrictedRefs : List String
  deriving DecidableEq, Repr

/-- The references that are declared for a section. -/
def refsOfSection (entries : List DeclaredRefIssue) (key : RefKey) : List String :=
  (entries.filter fun entry => entry.sectionKey = some key).map (·.ref)

def sectionsForRefs (refs : BundleRefs) (missingRefs restrictedRefs : List DeclaredRefIssue) :
    List Section :=
  refKeys.map fun sectionKey =>
    { sectionKey
      refs := refs sectionKey
      missingRefs := refsOfSection missingRefs sectionKey
      restrictedRefs := refsOfSection restrictedRefs sectionKey }

/-- The severity that a declared issue is given. -/
def declaredSeverity (value : Option Json) : IssueSeverity :=
  match stringValue value with
  | some "error" => .error
  | some "info" => .info
  | _ => .warning

def declaredTypedIssue (value : Json) (index : Nat) : Option Issue := do
  let entry ← asRecord? (some value)
  let code ← stringValue (field? entry "code")
  return {
    code
    severity := declaredSeverity (field? entry "severity")
    ref := ((stringValue (field? entry "ref")).or ((stringValue (field? entry "label")).or
      (stringValue (field? entry "section")))).getD s!"typed_issues[{index}]"
    message := (stringValue (field? entry "message")).getD
      s!"Bundle manifest declares typed issue {code}."
    action := (stringValue (field? entry "action")).getD
      "Route this typed provenance issue through the owning domain or repair the referenced provenance section." }

def normalizeDeclaredTypedIssues : Option Json → List Issue
  | some (.array items) => items.zipIdx.filterMap fun entry => declaredTypedIssue entry.1 entry.2
  | _ => []

/-- What is wrong with one declared issue. -/
def invalidTypedIssue (value : Json) (index : Nat) : List String :=
  match asRecord? (some value) with
  | none => [s!"typed_issues[{index}]"]
  | some entry =>
    (if stringValue (field? entry "code") = none then [s!"typed_issues[{index}].code"] else []) ++
      match stringValue (field? entry "severity") with
      | none => []
      | some severity =>
        if severity ∈ ["error", "warning", "info"] then [] else [s!"typed_issues[{index}].severity"]

def invalidTypedIssueFields : Option Json → List String
  | none => []
  | some (.array items) => items.zipIdx.flatMap fun entry => invalidTypedIssue entry.1 entry.2
  | some _ => ["typed_issues"]

/-! ## The manifest -/

def schemaVersion : String := "artifact-provenance-bundle.v1"

def forbiddenBodyNames : List String :=
  ["body", "artifact_body", "artifact_content", "artifact_payload", "body_inline"]

def allowedManifestFields : List String :=
  ["schema_version", "bundle_id", "artifact_ref", "domain_id", "artifact_type", "created_at",
    "refs", "hashes", "authority_boundary", "metadata", "missing_refs", "restricted_refs",
    "typed_issues"]

def falseAuthorityFields : List String :=
  ["can_read_artifact_body", "can_store_artifact_body", "can_mutate_artifact_body",
    "can_write_domain_truth", "can_create_owner_receipt", "can_authorize_quality_verdict",
    "can_claim_domain_ready", "can_claim_artifact_ready", "can_claim_production_ready"]

def allowedAuthorityFields : List String :=
  ["ledger_refs_only", "forbidden_claims"] ++ falseAuthorityFields

/-- A manifest, of whose authority boundary only the forbidden claims vary. -/
structure Manifest where
  bundleId : String
  artifactRef : String
  domainId : String
  artifactType : String
  createdAt : String
  refs : BundleRefs
  hashes : List (String × HashEntry)
  forbiddenClaims : List String

def normalizeManifest (value : Json) : Manifest :=
  let record := recordOf (some value)
  let rawAuthority := recordOf (field? record "authority_boundary")
  { bundleId := (stringValue (field? record "bundle_id")).getD ""
    artifactRef := (stringValue (field? record "artifact_ref")).getD ""
    domainId := (stringValue (field? record "domain_id")).getD ""
    artifactType := (stringValue (field? record "artifact_type")).getD ""
    createdAt := (stringValue (field? record "created_at")).getD ""
    refs := normalizeRefs (field? record "refs")
    hashes := normalizeHashes (field? record "hashes")
    forbiddenClaims := uniqueStrings (stringList (field? rawAuthority "forbidden_claims")) }

/-! ## Validation -/

def invalidRefFields (value : Option Json) : List String :=
  match asRecord? value with
  | none => ["refs"]
  | some fields =>
    unknownFields fields (refKeys.map RefKey.text) "refs" ++
      (refKeys.filter fun key => (field? fields key.text).isSome &&
        !isStringArray (field? fields key.text)).map fun key => s!"refs.{key.text}"

def invalidAuthorityFields (rawAuthority : JsonRecord) : List String :=
  unknownFields rawAuthority allowedAuthorityFields "authority_boundary" ++
    if isStringArray (field? rawAuthority "forbidden_claims") = true then []
    else ["authority_boundary.forbidden_claims"]

mutual
def collectForbiddenBodyFields : Json → String → List String
  | .array items, front => forbiddenBodyItems items front 0
  | .object fields, front => forbiddenBodyEntries fields front
  | _, _ => []

def forbiddenBodyItems : List Json → String → Nat → List String
  | [], _, _ => []
  | item :: rest, front, index =>
    collectForbiddenBodyFields item s!"{front}[{index}]" ++
      forbiddenBodyItems rest front (index + 1)

def forbiddenBodyEntries : JsonRecord → String → List String
  | [], _ => []
  | (key, child) :: rest, front =>
    (if key ∈ forbiddenBodyNames then [labelled front key] else []) ++
      collectForbiddenBodyFields child (labelled front key) ++ forbiddenBodyEntries rest front
end

/-- The required fields that the manifest lacks. -/
def missingRequired (record : JsonRecord) : List String :=
  (["schema_version", "bundle_id", "artifact_ref", "domain_id", "artifact_type",
      "created_at"].filter fun name => (stringValue (field? record name)).isNone) ++
    ["refs", "hashes", "authority_boundary"].filter fun name =>
      (asRecord? (field? record name)).isNone

def invalidManifestFields (record : JsonRecord) (manifest : Manifest) : List String :=
  uniqueStrings (
    (if field? record "schema_version" = some (.string schemaVersion) then []
      else ["schema_version"]) ++
    (if (asRecord? (field? record "refs")).isSome = true ∧
        (refKeys.any fun key => manifest.refs key ≠ []) = true then []
      else ["refs"]) ++
    invalidRefFields (field? record "refs") ++
    (if (asRecord? (field? record "hashes")).isSome = true ∧ manifest.hashes ≠ [] then []
      else ["hashes"]) ++
    invalidDeclaredRefIssueFields (field? record "missing_refs") "missing_refs" ++
    invalidDeclaredRefIssueFields (field? record "restricted_refs") "restricted_refs" ++
    invalidTypedIssueFields (field? record "typed_issues") ++
    invalidAuthorityFields (recordOf (field? record "authority_boundary")) ++
    unknownFields record allowedManifestFields "")

def authorityViolations (rawAuthority : JsonRecord) : List String :=
  (if field? rawAuthority "ledger_refs_only" = some (.bool true) then []
    else ["authority_boundary.ledger_refs_only"]) ++
  (falseAuthorityFields.filter fun name => (field? rawAuthority name).isSome &&
    decide (field? rawAuthority name ≠ some (.bool false))).map fun name =>
      s!"authority_boundary.{name}"

def missingRefIssue (entry : DeclaredRefIssue) : Issue where
  code := "missing_ref"
  severity := .warning
  ref := entry.ref
  message := s!"Bundle manifest declares a missing provenance ref at {entry.sourcePath}."
  action := "Materialize the referenced provenance item or keep this as a typed handoff issue before claiming complete provenance."

def restrictedRefIssue (entry : DeclaredRefIssue) : Issue where
  code := "restricted_ref"
  severity := .warning
  ref := entry.ref
  message := s!"Bundle manifest declares a restricted provenance ref at {entry.sourcePath}."
  action := "Keep only the locator/hash in Ledger and route body access through the owning domain or workspace policy."

/-- An issue that makes the manifest invalid. -/
def fieldIssue (code message action : String) (name : String) : Issue where
  code
  severity := .error
  ref := name
  message
  action

structure Validation where
  missingRequiredFields : List String
  invalidFields : List String
  invalidHashFields : List String
  authorityViolations : List String
  forbiddenBodyFields : List String
  missingRefs : List String
  restrictedRefs : List String
  issues : List Issue
  sections : List Section

/-- `status === 'valid'`. -/
def Validation.Passed (validation : Validation) : Prop :=
  validation.missingRequiredFields = [] ∧ validation.invalidFields = [] ∧
    validation.invalidHashFields = [] ∧ validation.authorityViolations = [] ∧
    validation.forbiddenBodyFields = []

instance (validation : Validation) : Decidable validation.Passed :=
  inferInstanceAs (Decidable (_ ∧ _ ∧ _ ∧ _ ∧ _))

def validationForLoadedBundle (parsed : Json) : Validation :=
  let record := recordOf (some parsed)
  let manifest := normalizeManifest parsed
  let rawAuthority := recordOf (field? record "authority_boundary")
  let missingRefEntries := declaredRefIssueEntries (field? record "missing_refs") "missing_refs"
  let restrictedRefEntries :=
    declaredRefIssueEntries (field? record "restricted_refs") "restricted_refs"
  let missingRequiredFields := missingRequired record
  let invalidFields := invalidManifestFields record manifest
  let invalidHashes := invalidHashFields (field? record "hashes")
  let violations := authorityViolations rawAuthority
  let forbiddenBodyFields := forbiddenBodyEntries record ""
  { missingRequiredFields
    invalidFields
    invalidHashFields := invalidHashes
    authorityViolations := violations
    forbiddenBodyFields
    missingRefs := uniqueStrings (missingRefEntries.map (·.ref))
    restrictedRefs := uniqueStrings (restrictedRefEntries.map (·.ref))
    issues := uniqueIssues (
      normalizeDeclaredTypedIssues (field? record "typed_issues") ++
      missingRefEntries.map missingRefIssue ++ restrictedRefEntries.map restrictedRefIssue ++
      (missingRequiredFields.map fun name => fieldIssue "manifest_missing_required_field"
        s!"Bundle manifest is missing required field {name}."
        "Add the required refs-only manifest field before recording or exporting the bundle."
        name) ++
      (invalidFields.map fun name => fieldIssue "manifest_invalid_field"
        s!"Bundle manifest field {name} does not match the Artifact Provenance Bundle contract."
        "Repair the manifest shape and keep values as refs, hashes, metadata, or declared issue refs only."
        name) ++
      (invalidHashes.map fun name => fieldIssue "manifest_invalid_hash_field"
        s!"Bundle manifest hash field {name} is not a strict sha256 entry."
        "Use \x7b \"algorithm\": \"sha256\", \"value\": \"<64 lowercase hex chars>\" \x7d."
        name) ++
      (violations.map fun name => fieldIssue "authority_violation"
        s!"Bundle manifest authority boundary violates refs-only Ledger policy at {name}."
        "Set Ledger authority flags to the non-authoritative refs-only values and leave owner verdicts to the domain owner."
        name) ++
      forbiddenBodyFields.map fun name => fieldIssue "forbidden_body_field"
        s!"Bundle manifest contains forbidden body field {name}."
        "Remove artifact body content from the manifest and store only refs, locators, and hashes."
        name)
    sections := sectionsForRefs manifest.refs missingRefEntries restrictedRefEntries }

end OnePersonLab.Evidence.Provenance

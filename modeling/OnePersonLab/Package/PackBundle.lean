import OnePersonLab.Contract.Json

/-!
# Pack bundles

An assembly file names a source root, the items that fill the array fields, and the two outputs:
the aggregate and the bundle manifest. The writer builds both from the source files; the checker
builds them again and compares digests. Paths are absolute, as their segments. A failure keeps its
message.
-/

namespace OnePersonLab.Package.PackBundle

open Contract

/-! ## Paths -/

abbrev Path := List String

def pathText (path : Path) : String := "/" ++ "/".intercalate path

def isAbsolute (ref : String) : Bool := startsWith ref "/"

/-- One segment of a path that is normalized. -/
def pushSegment (allowAboveRoot : Bool) (path : Path) (segment : String) : Path :=
  if segment = "" ∨ segment = "." then path
  else if segment = ".." then
    if path = [] ∨ path.getLast? = some ".." then (if allowAboveRoot then path ++ [".."] else path)
    else path.dropLast
  else path ++ [segment]

/-- `path.normalize` of a ref that is not absolute. -/
def normalize (ref : String) : String :=
  let path := (split ref '/').foldl (pushSegment true) []
  (if path = [] then "." else "/".intercalate path) ++ if endsWith ref "/" then "/" else ""

/-- `path.resolve` of a ref that is not absolute. -/
def resolve (directory : Path) (ref : String) : Path :=
  (split ref '/').foldl (pushSegment false) directory

def relative : (source target : Path) → Path
  | first :: source, other :: target =>
    if first = other then relative source target
    else List.replicate (source.length + 1) ".." ++ other :: target
  | source, target => List.replicate source.length ".." ++ target

/-- The path starts with the text of the directory and a separator. -/
def inside (directory path : Path) : Bool :=
  decide (directory ≠ []) && directory.isPrefixOf path && decide (directory ≠ path)

/-! ## Files -/

inductive Node (Bytes : Type) where
  | file (content : Bytes)
  | directory

abbrev FileTree (Bytes : Type) := Path → Option (Node Bytes)

variable {Bytes : Type}

namespace FileTree

def isFile (tree : FileTree Bytes) (path : Path) : Bool :=
  match tree path with
  | some (.file _) => true
  | _ => false

def isDirectory (tree : FileTree Bytes) (path : Path) : Bool :=
  match tree path with
  | some .directory => true
  | _ => false

/-- `mkdirSync` of the directory, with the directories above it. -/
def makeDirectories (tree : FileTree Bytes) (directory : Path) : Option (FileTree Bytes) :=
  if directory.inits.any tree.isFile then none
  else some fun path => if path ∈ directory.inits then some .directory else tree path

def writeFile (tree : FileTree Bytes) (path : Path) (content : Bytes) : Option (FileTree Bytes) :=
  if tree.isDirectory path then none
  else some fun other => if other = path then some (.file content) else tree other

end FileTree

/-- What the bundle code calls. -/
structure Platform (Bytes : Type) where
  /-- The bytes of `JSON.stringify(payload, null, 2)` and a line feed. -/
  jsonText : Json → Bytes
  /-- `JSON.parse` of the file's text, `none` where it throws. -/
  parse : Bytes → Option Json
  /-- The digest in hexadecimal digits. -/
  sha256 : Bytes → String
  byteLength : Bytes → Nat

/-! ## Refs and fields -/

def requireString (record : JsonRecord) (field context : String) : Checked String :=
  match field? record field with
  | some (.string value) => do
    ensure (trim value ≠ "") s!"{context}.{field} must be a non-empty string."
    return trim value
  | _ => fail s!"{context}.{field} must be a non-empty string."

def requireArray (record : JsonRecord) (field context : String) : Checked (List Json) :=
  match field? record field with
  | some (.array items) => .ok items
  | _ => fail s!"{context}.{field} must be an array."

def requireRecord (record : JsonRecord) (field context : String) : Checked JsonRecord :=
  match field? record field with
  | some (.object fields) => .ok fields
  | _ => fail s!"{context}.{field} must be an object."

def normalizeRelativeRef (ref : String) : Checked String := do
  ensure (!isAbsolute ref) "Pack bundle refs must be relative to the assembly file."
  ensure (normalize ref ≠ ".." ∧ !startsWith (normalize ref) "../")
    "Pack bundle refs must not escape the assembly directory."
  return normalize ref

structure Ref where
  ref : String
  path : Path
  deriving DecidableEq

def resolveRef (assemblyDir : Path) (ref : String) : Checked Ref := do
  let normalized ← normalizeRelativeRef ref
  let absolutePath := resolve assemblyDir normalized
  ensure (inside assemblyDir absolutePath ∨ absolutePath = assemblyDir)
    "Pack bundle refs must resolve inside the assembly directory."
  return ⟨normalized, absolutePath⟩

/-! ## The assembly -/

structure GeneratedArrayField where
  field : String
  sourceDir : Ref
  order : List String
  deriving DecidableEq

structure Assembly where
  path : Path
  dir : Path
  bundleId : String
  owner : String
  state : String
  sourceRoot : Ref
  aggregate : Ref
  manifest : Ref
  generatedArrayFields : List GeneratedArrayField
  commands : JsonRecord

def requiredFalseFlags : List String :=
  ["can_write_domain_truth", "can_sign_owner_receipt", "can_create_typed_blocker",
    "can_authorize_quality_verdict", "can_claim_domain_ready", "can_claim_production_ready"]

def notClaims : List String :=
  ["domain_ready", "quality_verdict", "artifact_authority", "production_ready", "owner_receipt",
    "typed_blocker"]

/-- What `validateAuthorityBoundary` returns. -/
def authorityBoundary : JsonRecord := requiredFalseFlags.map fun flag => (flag, .bool false)

def validateAuthorityBoundary (boundary : JsonRecord) (context : String) : Checked JsonRecord := do
  checkEach (fun flag => ensure (field? boundary flag = some (.bool false))
    s!"{context}.{flag} must be false.") requiredFalseFlags
  return authorityBoundary

def orderedRef (itemRef : Json) : Checked String :=
  match itemRef with
  | .string text => do
    ensure (trim text ≠ "")
      "pack_bundle_assembly.generated_array_fields[].order[] must contain strings."
    normalizeRelativeRef (trim text)
  | _ => fail "pack_bundle_assembly.generated_array_fields[].order[] must contain strings."

def generatedArrayField (assemblyDir : Path) (entry : Json) (index : Nat) :
    Checked GeneratedArrayField :=
  let context := s!"pack_bundle_assembly.generated_array_fields[{index}]"
  match entry with
  | .object fields => do
    let order ← mapEach orderedRef (← requireArray fields "order" context)
    let field ← requireString fields "field" context
    let sourceDir ← resolveRef assemblyDir (← requireString fields "source_dir_ref" context)
    return ⟨field, sourceDir, order⟩
  | _ => fail "pack_bundle_assembly.generated_array_fields[] must contain objects."

/-- `loadAssembly` on the record that was read. -/
def assemblyOf (assemblyPath : Path) (assembly : JsonRecord) : Checked Assembly := do
  let assemblyDir := assemblyPath.dropLast
  let context := "pack_bundle_assembly"
  ensure (field? assembly "surface_kind" = some (.string "opl_pack_bundle_assembly"))
    "Pack bundle assembly surface_kind must be opl_pack_bundle_assembly."
  ensure (field? assembly "schema_version" = some (.number 1))
    "Pack bundle assembly schema_version must be 1."
  let generatedArrayFields ← mapEach (fun entry => generatedArrayField assemblyDir entry.1 entry.2)
    (← requireArray assembly "generated_array_fields" context).zipIdx
  let bundleId ← requireString assembly "bundle_id" context
  let owner ← requireString assembly "owner" context
  let state ← requireString assembly "state" context
  let sourceRoot ← resolveRef assemblyDir (← requireString assembly "source_root_ref" context)
  let aggregate ← resolveRef assemblyDir (← requireString assembly "aggregate_ref" context)
  let manifest ← resolveRef assemblyDir (← requireString assembly "manifest_ref" context)
  let _ ← validateAuthorityBoundary (← requireRecord assembly "authority_boundary" context)
    s!"{context}.authority_boundary"
  let commands : JsonRecord :=
    match field? assembly "commands" with
    | some (.object fields) => fields
    | _ => []
  return {
    path := assemblyPath, dir := assemblyDir, bundleId, owner, state, sourceRoot, aggregate,
    manifest, generatedArrayFields, commands }

section

variable (platform : Platform Bytes)

/-! ## Reading -/

def readFile (tree : FileTree Bytes) (path : Path) : Checked Bytes :=
  match tree path with
  | some (.file content) => .ok content
  | some .directory => .error (.runtime "EISDIR: illegal operation on a directory, read")
  | none =>
    if path.inits.any tree.isFile then
      .error (.runtime s!"ENOTDIR: not a directory, open '{pathText path}'")
    else .error (.runtime s!"ENOENT: no such file or directory, open '{pathText path}'")

def sha256File (tree : FileTree Bytes) (path : Path) : Checked String := do
  return platform.sha256 (← readFile tree path)

def readJsonRecordFile (tree : FileTree Bytes) (path : Path) : Checked JsonRecord :=
  if (tree path).isNone ∧ !path.inits.any tree.isFile then
    fail s!"Pack bundle file is missing: {pathText path}."
  else do
    match platform.parse (← readFile tree path) with
    | none => fail s!"Pack bundle file contains invalid JSON: {pathText path}."
    | some (.object fields) => return fields
    | some _ => fail "Pack bundle JSON root must be an object."

def loadAssembly (tree : FileTree Bytes) (assemblyPath : Path) : Checked Assembly := do
  assemblyOf assemblyPath (← readJsonRecordFile platform tree assemblyPath)

/-! ## The source entries -/

structure SourceEntry where
  role : String
  ref : String
  sha256 : String
  /-- The field of an array item and its place in the order. -/
  item : Option (String × Nat)

def SourceEntry.toJson (entry : SourceEntry) : Json :=
  .object ([("role", .string entry.role), ("ref", .string entry.ref),
    ("sha256", .string entry.sha256)] ++
    match entry.item with
    | some place => [("field", .string place.1), ("order_index", .ofNat place.2)]
    | none => [])

def sourceEntry (tree : FileTree Bytes) (role : String) (entryPath : Path) (ref : String)
    (item : Option (String × Nat)) : Checked SourceEntry := do
  return ⟨role, ref, ← sha256File platform tree entryPath, item⟩

def GeneratedArrayField.itemPath (field : GeneratedArrayField) (itemRef : String) : Path :=
  resolve field.sourceDir.path itemRef

def itemEntries (tree : FileTree Bytes) (field : GeneratedArrayField) :
    Checked (List SourceEntry) :=
  mapEach (fun entry => do
    ensure (inside field.sourceDir.path (field.itemPath entry.1))
      "Generated array item refs must stay inside source_dir_ref."
    sourceEntry platform tree "generated_array_item" (field.itemPath entry.1)
      s!"{field.sourceDir.ref}/{entry.1}" (some (field.field, entry.2))) field.order.zipIdx

def buildSourceEntries (tree : FileTree Bytes) (assembly : Assembly) :
    Checked (List SourceEntry) := do
  let root ← sourceEntry platform tree "source_root" assembly.sourceRoot.path
    assembly.sourceRoot.ref none
  let items ← mapEach (itemEntries platform tree) assembly.generatedArrayFields
  return root :: items.flatten

def sourceDigest (sourceEntries : List SourceEntry) : String :=
  platform.sha256 (platform.jsonText (.array (sourceEntries.map SourceEntry.toJson)))

/-! ## The aggregate -/

/-- `record[name] = value`. Unless it is an own member, `__proto__` sets the prototype. -/
def assign (record : JsonRecord) (name : String) (value : Json) : JsonRecord :=
  if (field? record name).isSome then
    record.map fun member => if member.1 = name then (name, value) else member
  else if name = "__proto__" then record
  else record ++ [(name, value)]

def itemValues (tree : FileTree Bytes) (field : GeneratedArrayField) : Checked (List Json) :=
  mapEach (fun itemRef => do
    return .object (← readJsonRecordFile platform tree (field.itemPath itemRef))) field.order

def fillFields (tree : FileTree Bytes) : JsonRecord → List GeneratedArrayField → Checked JsonRecord
  | aggregate, [] => .ok aggregate
  | aggregate, field :: rest => do
    let values ← itemValues platform tree field
    fillFields tree (assign aggregate field.field (.array values)) rest

def generatedBy (assembly : Assembly) (digest : String) (sourceEntryCount : Nat) : Json :=
  .object [("surface_kind", .string "opl_pack_bundle_generated_metadata"),
    ("generator", .string "opl_pack_bundle.v1"),
    ("assembly_ref",
      .string ("/".intercalate (relative assembly.aggregate.path.dropLast assembly.path))),
    ("source_digest", .string digest), ("source_entry_count", .ofNat sourceEntryCount),
    ("do_not_edit", .bool true)]

def buildAggregate (tree : FileTree Bytes) (assembly : Assembly) (digest : String) :
    Checked JsonRecord := do
  let root ← readJsonRecordFile platform tree assembly.sourceRoot.path
  let aggregate ← fillFields platform tree root assembly.generatedArrayFields
  let sourceEntries ← buildSourceEntries platform tree assembly
  return assign aggregate "generated_by" (generatedBy assembly digest sourceEntries.length)

/-! ## The manifest -/

structure ManifestRecord (Bytes : Type) where
  assembly : Assembly
  aggregate : JsonRecord
  aggregateText : Bytes
  expectedAggregateSha256 : String
  sourceDigest : String
  sourceEntries : List SourceEntry
  manifest : Json

def GeneratedArrayField.toJson (field : GeneratedArrayField) : Json :=
  .object [("field", .string field.field), ("source_dir_ref", .string field.sourceDir.ref),
    ("order", .ofStrings field.order)]

def manifestOf (assembly : Assembly) (entries : List SourceEntry) (digest : String)
    (expectedAggregateSha256 : String) : Json :=
  .object [("surface_kind", .string "opl_pack_bundle_manifest"), ("schema_version", .number 1),
    ("bundle_id", .string assembly.bundleId), ("owner", .string assembly.owner),
    ("state", .string assembly.state),
    ("assembly_ref",
      .string ("/".intercalate (relative assembly.manifest.path.dropLast assembly.path))),
    ("source_root_ref", .string assembly.sourceRoot.ref), ("source_digest", .string digest),
    ("source_entries", .array (entries.map SourceEntry.toJson)),
    ("generated_artifact", .object [("aggregate_ref", .string assembly.aggregate.ref),
      ("expected_sha256", .string expectedAggregateSha256),
      ("manifest_ref", .string assembly.manifest.ref),
      ("aggregate_is_generated_consumer_surface", .bool true), ("do_not_edit", .bool true)]),
    ("generated_array_fields",
      .array (assembly.generatedArrayFields.map GeneratedArrayField.toJson)),
    ("commands", .object assembly.commands), ("authority_boundary", .object authorityBoundary),
    ("not_claims", .ofStrings notClaims)]

def buildManifestRecord (tree : FileTree Bytes) (assemblyPath : Path) :
    Checked (ManifestRecord Bytes) := do
  let assembly ← loadAssembly platform tree assemblyPath
  let entries ← buildSourceEntries platform tree assembly
  let digest := sourceDigest platform entries
  let aggregate ← buildAggregate platform tree assembly digest
  let aggregateText := platform.jsonText (.object aggregate)
  let expectedAggregateSha256 := platform.sha256 aggregateText
  return {
    assembly, aggregate, aggregateText, expectedAggregateSha256, sourceDigest := digest
    sourceEntries := entries
    manifest := manifestOf assembly entries digest expectedAggregateSha256 }

/-! ## Writing -/

structure WrittenOutput where
  path : Path
  sha256 : String

/-- The answer of a write and the files afterwards, also where the call throws. -/
abbrev Written (Bytes α : Type) := Checked α × FileTree Bytes

def mkdirMessage (tree : FileTree Bytes) (directory : Path) : String :=
  if tree.isFile directory then s!"EEXIST: file already exists, mkdir '{pathText directory}'"
  else s!"ENOTDIR: not a directory, mkdir '{pathText directory}'"

def writeJsonFile (tree : FileTree Bytes) (outputPath : Path) (payload : Json) :
    Written Bytes WrittenOutput :=
  match tree.makeDirectories outputPath.dropLast with
  | none => (.error (.runtime (mkdirMessage tree outputPath.dropLast)), tree)
  | some ready =>
    match ready.writeFile outputPath (platform.jsonText payload) with
    | none =>
      (.error (.runtime
        s!"EISDIR: illegal operation on a directory, open '{pathText outputPath}'"), ready)
    | some after =>
      ((WrittenOutput.mk outputPath) <$> sha256File platform after outputPath, after)

structure BundleWrite where
  bundleId : String
  aggregateOutput : WrittenOutput
  manifestOutput : WrittenOutput
  manifest : Json

def writePackBundleAggregate (tree : FileTree Bytes) (assemblyPath : Path) :
    Written Bytes BundleWrite :=
  match buildManifestRecord platform tree assemblyPath with
  | .error failure => (.error failure, tree)
  | .ok record =>
    match writeJsonFile platform tree record.assembly.aggregate.path (.object record.aggregate) with
    | (.error failure, after) => (.error failure, after)
    | (.ok aggregateOutput, between) =>
      match writeJsonFile platform between record.assembly.manifest.path record.manifest with
      | (.error failure, after) => (.error failure, after)
      | (.ok manifestOutput, after) =>
        (.ok ⟨record.assembly.bundleId, aggregateOutput, manifestOutput, record.manifest⟩, after)

/-! ## Checking -/

inductive Check where
  | assemblyLoaded (assemblyRef : Path)
  | sourceEntriesHashed (sourceDigest : String) (sourceEntryCount : Nat)
  | matches (checkId : String) (actual : Option String) (expected : String)

def Check.passes : Check → Bool
  | .assemblyLoaded _ => true
  | .sourceEntriesHashed _ _ => true
  | .matches _ actual expected => decide (actual = some expected)

inductive ValidationStatus where
  | valid
  | missingGeneratedAggregate
  | driftDetected
  deriving DecidableEq

structure Validation where
  status : ValidationStatus
  bundleId : String
  aggregate : Ref
  expectedAggregateSha256 : String
  expectedAggregateBytes : Nat
  checks : List Check
  manifest : Json

def optionalFileSha256 (tree : FileTree Bytes) (path : Path) : Checked (Option String) :=
  if (tree path).isSome then some <$> sha256File platform tree path else .ok none

def buildPackBundleValidation (tree : FileTree Bytes) (assemblyPath : Path) :
    Checked Validation := do
  let record ← buildManifestRecord platform tree assemblyPath
  let actualAggregateSha256 ← optionalFileSha256 platform tree record.assembly.aggregate.path
  let actualManifestSha256 ← optionalFileSha256 platform tree record.assembly.manifest.path
  let expectedManifestSha256 := platform.sha256 (platform.jsonText record.manifest)
  let checks := [.assemblyLoaded record.assembly.path,
    .sourceEntriesHashed record.sourceDigest record.sourceEntries.length,
    .matches "aggregate_matches_source" actualAggregateSha256 record.expectedAggregateSha256,
    .matches "manifest_matches_source" actualManifestSha256 expectedManifestSha256]
  return {
    status := if checks.all Check.passes then .valid
      else if actualAggregateSha256 = none then .missingGeneratedAggregate else .driftDetected
    bundleId := record.assembly.bundleId
    aggregate := record.assembly.aggregate
    expectedAggregateSha256 := record.expectedAggregateSha256
    expectedAggregateBytes := platform.byteLength record.aggregateText
    checks
    manifest := record.manifest }

end

end OnePersonLab.Package.PackBundle

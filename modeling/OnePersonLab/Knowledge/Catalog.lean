import OnePersonLab.Contract.Failure
import OnePersonLab.Lib.NamedEntries

/-!
# Catalogs of durable knowledge

A catalog declares the knowledge items of one layer. An agent has one, the workspace and the
project add theirs. The effective items are those of all catalogs, each under an id of its own.
-/

namespace OnePersonLab.Knowledge

open Contract

abbrev Bytes := List UInt8

/-- `sha256:` and the digest in lower-case hexadecimal digits. -/
abbrev Digest := { text : String // isSha256Digest text = true }

/-- What the host computes: the `date-time` format of the schemas, `Date.parse` in milliseconds,
where it is not `NaN`, and the digest of a file. -/
structure KnowledgePlatform where
  isDateTime : String → Bool
  parseDate : String → Option Int
  canonicalSha256 : Bytes → Digest

/-! ## Items -/

inductive KnowledgeLayer where
  | agentPack
  | workspaceShared
  | workspaceProject
  | datedState
  deriving DecidableEq, Repr

namespace KnowledgeLayer

def text : KnowledgeLayer → String
  | .agentPack => "agent_pack"
  | .workspaceShared => "workspace_shared"
  | .workspaceProject => "workspace_project"
  | .datedState => "dated_state"

/-- `KNOWLEDGE_LOCATIONS[layer].catalog`. -/
def catalog : KnowledgeLayer → String
  | .agentPack => "contracts/durable_knowledge_catalog.json"
  | .workspaceShared => "shared/memory/opl_durable_knowledge_catalog.json"
  | .workspaceProject => "memory/opl_durable_knowledge_catalog.json"
  | .datedState => "state/opl_durable_knowledge_catalog.json"

/-- `KNOWLEDGE_LOCATIONS[layer].body`. -/
def body : KnowledgeLayer → String
  | .agentPack => "agent/knowledge/"
  | .workspaceShared => "shared/memory/"
  | .workspaceProject => "memory/"
  | .datedState => "state/"

end KnowledgeLayer

inductive KnowledgeStatus where
  | draft
  | active
  | deprecated
  | superseded
  | expired
  | quarantined
  deriving DecidableEq, Repr

inductive BodyKind where
  | repoPath
  | workspacePath
  deriving DecidableEq, Repr

structure ProjectionSource where
  root : String
  ref : String
  sha256 : String
  deriving DecidableEq, Repr

/-- A catalog entry of the shape that the item schema asks for. -/
structure DurableKnowledgeItem where
  knowledgeId : String
  title : String
  layer : KnowledgeLayer
  owner : String
  bodyKind : BodyKind
  bodyRef : String
  bodySha256 : Option String
  projectionSource : Option ProjectionSource
  domains : List String
  stages : List String
  tasks : Option (List String)
  status : KnowledgeStatus
  reviewedAt : String
  nextReviewAt : String
  tags : Option (List String)
  supersedes : Option (List String)
  supersededBy : Option (List String)
  semanticBodyOwner : String
  deriving DecidableEq, Repr

namespace DurableKnowledgeItem

/-- `item.supersedes ?? []`. -/
def supersededIds (item : DurableKnowledgeItem) : List String := item.supersedes.getD []

/-- `item.superseded_by ?? []`. -/
def successorIds (item : DurableKnowledgeItem) : List String := item.supersededBy.getD []

end DurableKnowledgeItem

/-! ## The item schema -/

/-- `^[a-z][a-z0-9._-]*$`. -/
def isKnowledgeId (text : String) : Bool :=
  match characters text with
  | [] => false
  | first :: rest =>
    ('a' ≤ first && first ≤ 'z') &&
      rest.all fun c => ('a' ≤ c && c ≤ 'z') || c.isDigit || c == '.' || c == '_' || c == '-'

/-- An array of distinct non-empty texts. -/
def isTextSet (texts : List String) : Bool := texts.all (· ≠ "") && decide texts.Nodup

/-- What `durable-knowledge-item.schema.json` asks beyond the shape. -/
def itemSchemaAccepts (platform : KnowledgePlatform) (item : DurableKnowledgeItem) : Bool :=
  isKnowledgeId item.knowledgeId && item.title ≠ "" && item.owner ≠ "" && item.bodyRef ≠ "" &&
    item.bodySha256.all isSha256Digest &&
    item.projectionSource.all (fun source =>
      source.root ≠ "" && source.ref ≠ "" && isSha256Digest source.sha256) &&
    item.domains ≠ [] && isTextSet item.domains && isTextSet item.stages &&
    item.tasks.all isTextSet && platform.isDateTime item.reviewedAt &&
    platform.isDateTime item.nextReviewAt && item.tags.all isTextSet &&
    item.supersedes.all isTextSet && item.supersededBy.all isTextSet &&
    item.semanticBodyOwner ≠ "" &&
    (item.layer ≠ .agentPack || item.projectionSource.isNone)

/-! ## Paths -/

/-- One segment of a path on the stack of those before it. -/
def pushSegment (allowAboveRoot : Bool) (stack : List String) (segment : String) : List String :=
  if segment = "" ∨ segment = "." then stack
  else if segment = ".." then
    match stack with
    | [] => if allowAboveRoot then [".."] else []
    | top :: rest => if top = ".." then (if allowAboveRoot then ".." :: stack else stack) else rest
  else segment :: stack

/-- `path.posix.normalize(...)`. -/
def posixNormalize (path : String) : String :=
  if path = "" then "."
  else
    let absolute := startsWith path "/"
    let trailing := if endsWith path "/" then "/" else ""
    let segments := ((split path '/').foldl (pushSegment (!absolute)) []).reverse
    if segments = [] then if absolute then "/" else "." ++ trailing
    else (if absolute then "/" else "") ++ "/".intercalate segments ++ trailing

/-! ## Normalisation -/

def requiredText (value field : String) : Checked String := do
  ensure (trim value ≠ "") s!"Durable knowledge requires {field}."
  return trim value

def stringList (value : List String) (field : String) : Checked (List String) := do
  ensure (∀ entry ∈ value, trim entry ≠ "")
    s!"Durable knowledge requires {field} as a non-empty string array."
  return value.map trim

/-- A check of an optional field. -/
def checkedField {α β : Type} (check : α → Checked β) : Option α → Checked (Option β)
  | none => .ok none
  | some value => some <$> check value

def normalizeProjectionSource (source : ProjectionSource) : Checked ProjectionSource := do
  let root ← requiredText source.root "projection_source.root"
  let ref ← requiredText source.ref "projection_source.ref"
  let sha256 ← requiredText source.sha256 "projection_source.sha256"
  return ⟨root, ref, sha256⟩

section

variable (platform : KnowledgePlatform)

/-- `Date.parse(later) <= Date.parse(earlier)`. -/
def dateAtMost (later earlier : String) : Bool :=
  match platform.parseDate later, platform.parseDate earlier with
  | some later, some earlier => later ≤ earlier
  | _, _ => false

def normalizeItem (value : DurableKnowledgeItem) (index : Nat) : Checked DurableKnowledgeItem := do
  ensure (itemSchemaAccepts platform value = true) "Payload failed JSON Schema validation."
  ensure (value.bodyKind = (if value.layer = .agentPack then .repoPath else .workspacePath) ∧
      startsWith value.bodyRef value.layer.body = true ∧ endsWith value.bodyRef ".md" = true ∧
      posixNormalize value.bodyRef = value.bodyRef ∧ '\\' ∉ value.bodyRef.toList)
    "Durable knowledge body must use a canonical contained path in its layer."
  ensure (dateAtMost platform value.nextReviewAt value.reviewedAt = false)
    "Durable knowledge next review must be after its review date."
  ensure (value.semanticBodyOwner = value.owner)
    "Durable knowledge semantic owner must match its declared owner."
  let knowledgeId ← requiredText value.knowledgeId s!"items[{index}].knowledge_id"
  let title ← requiredText value.title s!"items[{index}].title"
  let owner ← requiredText value.owner s!"items[{index}].owner"
  let bodyRef ← requiredText value.bodyRef s!"items[{index}].body_ref.ref"
  let bodySha256 ← checkedField (requiredText · s!"items[{index}].body_ref.sha256") value.bodySha256
  let domains ← stringList value.domains s!"items[{index}].applicability.domains"
  let stages ← stringList value.stages s!"items[{index}].applicability.stages"
  let tasks ← checkedField (stringList · s!"items[{index}].applicability.tasks") value.tasks
  let reviewedAt ← requiredText value.reviewedAt s!"items[{index}].reviewed_at"
  let nextReviewAt ← requiredText value.nextReviewAt s!"items[{index}].next_review_at"
  let projectionSource ← checkedField normalizeProjectionSource value.projectionSource
  let tags ← checkedField (stringList · s!"items[{index}].tags") value.tags
  let supersedes ← checkedField (stringList · s!"items[{index}].supersedes") value.supersedes
  let supersededBy ← checkedField (stringList · s!"items[{index}].superseded_by") value.supersededBy
  let semanticBodyOwner ← requiredText value.semanticBodyOwner
    s!"items[{index}].authority_boundary.semantic_body_owner"
  return { value with
    knowledgeId, title, owner, bodyRef, bodySha256, projectionSource, domains, stages, tasks
    reviewedAt, nextReviewAt, tags, supersedes, supersededBy, semanticBodyOwner }

/-- A catalog of the shape that the catalog schema asks for. -/
structure DeclaredCatalog where
  domainId : Option String
  items : List DurableKnowledgeItem
  deriving DecidableEq, Repr

def checkCatalogItem (layer : KnowledgeLayer) (domainId : Option String)
    (item : DurableKnowledgeItem) : Checked Unit := do
  ensure (layer = .agentPack → ∀ domain ∈ domainId, domain ∈ item.domains)
    "Agent knowledge applicability must include its catalog domain."
  ensure (item.knowledgeId ∉ item.supersededIds ∧ item.knowledgeId ∉ item.successorIds)
    "Knowledge cannot supersede itself."

def normalizeDurableKnowledgeCatalog (parsed : DeclaredCatalog) (layer : KnowledgeLayer) :
    Checked DeclaredCatalog := do
  ensure ((∀ domain ∈ parsed.domainId, domain ≠ "") ∧
      ∀ item ∈ parsed.items, itemSchemaAccepts platform item = true)
    "Payload failed JSON Schema validation."
  ensure (∀ domain ∈ parsed.domainId, trim domain ≠ "")
    "Knowledge catalog domain_id must be a non-empty string."
  let items ← mapEach (fun (item, index) => normalizeItem platform item index) parsed.items.zipIdx
  ensure (∀ item ∈ items, item.layer = layer)
    "Durable knowledge catalog contains an item in the wrong layer."
  ensure (items.map (·.knowledgeId)).Nodup
    "Durable knowledge catalog knowledge_id values must be unique."
  checkEach (checkCatalogItem layer parsed.domainId) items
  return ⟨parsed.domainId, items⟩

/-! ## The effective items -/

/-- What stands at the location of a catalog. -/
inductive CatalogFile where
  | absent
  | rejected (failure : Failure)
  | declared (catalog : DeclaredCatalog)

/-- The catalog of a layer, if there is one. -/
def readDurableKnowledgeCatalog (layer : KnowledgeLayer) : CatalogFile →
    Checked (Option DeclaredCatalog)
  | .absent => .ok none
  | .rejected failure => .error failure
  | .declared catalog => some <$> normalizeDurableKnowledgeCatalog platform catalog layer

/-- The items of an optional catalog, or the debt that stands for it. -/
def readOptionalWorkspaceCatalog (layer : KnowledgeLayer) (file : CatalogFile) :
    Checked (List DurableKnowledgeItem × List String) := do
  let catalog ← readDurableKnowledgeCatalog platform layer file
  return match catalog with
    | none => ([], [s!"knowledge_catalog_not_declared:{layer.text}:{layer.catalog}"])
    | some catalog => (catalog.items, [])

/-- The catalogs of an agent, and those of the workspace and the project where their roots are
given. If both are, the project has to lie within the workspace. -/
structure KnowledgeSources where
  agentPack : CatalogFile
  workspaceShared : Option CatalogFile
  project : Option (CatalogFile × CatalogFile)
  projectNested : Checked Bool

def checkRoots (sources : KnowledgeSources) : Checked Unit :=
  if sources.workspaceShared.isSome ∧ sources.project.isSome then do
    let nested ← sources.projectNested
    ensure (nested = true) "Project knowledge root must be a distinct descendant of its workspace."
  else .ok ()

def workspaceItems (sources : KnowledgeSources) : Checked (List DurableKnowledgeItem × List String) :=
  match sources.workspaceShared with
  | none => .ok ([], [])
  | some shared => readOptionalWorkspaceCatalog platform .workspaceShared shared

def projectItems (sources : KnowledgeSources) : Checked (List DurableKnowledgeItem × List String) :=
  match sources.project with
  | none => .ok ([], [])
  | some (project, dated) => do
    let (projectItems, projectDebt) ← readOptionalWorkspaceCatalog platform .workspaceProject project
    let (datedItems, datedDebt) ← readOptionalWorkspaceCatalog platform .datedState dated
    return (projectItems ++ datedItems, projectDebt ++ datedDebt)

def collectDurableKnowledgeItems (sources : KnowledgeSources) :
    Checked (List DurableKnowledgeItem × List String) := do
  match ← readDurableKnowledgeCatalog platform .agentPack sources.agentPack with
  | none => fail "Agent durable knowledge catalog is required."
  | some catalog =>
    checkRoots sources
    let (sharedItems, sharedDebt) ← workspaceItems platform sources
    let (projectItems, projectDebt) ← projectItems platform sources
    let items := catalog.items ++ sharedItems ++ projectItems
    ensure (items.map (·.knowledgeId)).Nodup
      "Durable knowledge ids must be unique across the effective catalogs."
    return (items, sharedDebt ++ projectDebt)

end

end OnePersonLab.Knowledge

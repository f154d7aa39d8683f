import OnePersonLab.Contract.Json
import OnePersonLab.Lib.Dictionary
import OnePersonLab.Lib.Graph
import OnePersonLab.Lib.Utf16

/-!
# The currentness of a review

A review scope declares the evidence nodes of a review, the dependencies between
them and the nodes that were reviewed. A change of a node makes the review stale
if it is semantic and a reviewed node depends on the changed one.
-/

namespace OnePersonLab.Stage.EpistemicReview

open Contract Lib

/-! ## The vocabulary -/

inductive ReviewScopeKind where
  | content
  | reference
  | display
  | package
  deriving DecidableEq, Repr

namespace ReviewScopeKind

def text : ReviewScopeKind → String
  | .content => "content"
  | .reference => "reference"
  | .display => "display"
  | .package => "package"

/-- `REVIEW_SCOPE_KINDS`. -/
def all : List ReviewScopeKind := [.content, .reference, .display, .package]

end ReviewScopeKind

inductive EvidenceNodeKind where
  | artifact
  | claim
  | provenance
  deriving DecidableEq, Repr

namespace EvidenceNodeKind

def text : EvidenceNodeKind → String
  | .artifact => "artifact"
  | .claim => "claim"
  | .provenance => "provenance"

/-- `EVIDENCE_NODE_KINDS`. -/
def all : List EvidenceNodeKind := [.artifact, .claim, .provenance]

end EvidenceNodeKind

inductive EvidenceNodeRole where
  | sourceData
  | context
  | analysisCode
  | analysisParameters
  | analysisResult
  | claim
  | referenceSource
  | citationLinkage
  | limitation
  | reproductionInstruction
  | visualContent
  | layout
  | renderTemplate
  | packageContent
  | packageWrapper
  | governanceMetadata
  | reviewReceipt
  deriving DecidableEq, Repr

namespace EvidenceNodeRole

def text : EvidenceNodeRole → String
  | .sourceData => "source_data"
  | .context => "context"
  | .analysisCode => "analysis_code"
  | .analysisParameters => "analysis_parameters"
  | .analysisResult => "analysis_result"
  | .claim => "claim"
  | .referenceSource => "reference_source"
  | .citationLinkage => "citation_linkage"
  | .limitation => "limitation"
  | .reproductionInstruction => "reproduction_instruction"
  | .visualContent => "visual_content"
  | .layout => "layout"
  | .renderTemplate => "render_template"
  | .packageContent => "package_content"
  | .packageWrapper => "package_wrapper"
  | .governanceMetadata => "governance_metadata"
  | .reviewReceipt => "review_receipt"

/-- `EVIDENCE_NODE_ROLES`. -/
def all : List EvidenceNodeRole :=
  [.sourceData, .context, .analysisCode, .analysisParameters, .analysisResult, .claim,
    .referenceSource, .citationLinkage, .limitation, .reproductionInstruction, .visualContent,
    .layout, .renderTemplate, .packageContent, .packageWrapper, .governanceMetadata,
    .reviewReceipt]

end EvidenceNodeRole

inductive EvidenceDependencyRelation where
  | derivedFrom
  | interprets
  | supports
  | cites
  | renders
  | packages
  | reproduces
  deriving DecidableEq, Repr

namespace EvidenceDependencyRelation

def text : EvidenceDependencyRelation → String
  | .derivedFrom => "derived_from"
  | .interprets => "interprets"
  | .supports => "supports"
  | .cites => "cites"
  | .renders => "renders"
  | .packages => "packages"
  | .reproduces => "reproduces"

/-- `EVIDENCE_DEPENDENCY_RELATIONS`. -/
def all : List EvidenceDependencyRelation :=
  [.derivedFrom, .interprets, .supports, .cites, .renders, .packages, .reproduces]

end EvidenceDependencyRelation

inductive SemanticChangeClass where
  | data
  | context
  | analysisCode
  | analysisParameters
  | analysisResult
  | claim
  | referenceSource
  | citationLinkage
  | limitation
  | visualContent
  | layout
  | renderTemplate
  | packageComposition
  | packageWrapper
  | governanceMetadata
  | reviewReceipt
  | locatorOnly
  deriving DecidableEq, Repr

namespace SemanticChangeClass

def text : SemanticChangeClass → String
  | .data => "data"
  | .context => "context"
  | .analysisCode => "analysis_code"
  | .analysisParameters => "analysis_parameters"
  | .analysisResult => "analysis_result"
  | .claim => "claim"
  | .referenceSource => "reference_source"
  | .citationLinkage => "citation_linkage"
  | .limitation => "limitation"
  | .visualContent => "visual_content"
  | .layout => "layout"
  | .renderTemplate => "render_template"
  | .packageComposition => "package_composition"
  | .packageWrapper => "package_wrapper"
  | .governanceMetadata => "governance_metadata"
  | .reviewReceipt => "review_receipt"
  | .locatorOnly => "locator_only"

/-- `SEMANTIC_CHANGE_CLASSES`. -/
def all : List SemanticChangeClass :=
  [.data, .context, .analysisCode, .analysisParameters, .analysisResult, .claim,
    .referenceSource, .citationLinkage, .limitation, .visualContent, .layout, .renderTemplate,
    .packageComposition, .packageWrapper, .governanceMetadata, .reviewReceipt, .locatorOnly]

/-- `CHANGE_CLASS_ROLES`. -/
def roles : SemanticChangeClass → List EvidenceNodeRole
  | .data => [.sourceData]
  | .context => [.context]
  | .analysisCode => [.analysisCode]
  | .analysisParameters => [.analysisParameters]
  | .analysisResult => [.analysisResult]
  | .claim => [.claim]
  | .referenceSource => [.referenceSource]
  | .citationLinkage => [.citationLinkage]
  | .limitation => [.limitation]
  | .visualContent => [.visualContent]
  | .layout => [.layout]
  | .renderTemplate => [.renderTemplate]
  | .packageComposition => [.packageContent]
  | .packageWrapper => [.packageWrapper]
  | .governanceMetadata => [.governanceMetadata]
  | .reviewReceipt => [.reviewReceipt]
  | .locatorOnly => EvidenceNodeRole.all

end SemanticChangeClass

/-- `NON_EPISTEMIC_ROLES`. -/
def nonEpistemicRoles : List EvidenceNodeRole := [.governanceMetadata, .reviewReceipt]

/-- `SCOPE_FORBIDDEN_ROLES`. -/
def scopeForbiddenRoles : ReviewScopeKind → List EvidenceNodeRole
  | .content =>
    [.visualContent, .layout, .renderTemplate, .packageContent, .packageWrapper,
      .governanceMetadata, .reviewReceipt]
  | .reference =>
    [.sourceData, .analysisCode, .analysisParameters, .visualContent, .layout, .renderTemplate,
      .packageContent, .packageWrapper, .governanceMetadata, .reviewReceipt]
  | .display => [.packageContent, .packageWrapper, .governanceMetadata, .reviewReceipt]
  | .package => nonEpistemicRoles

/-! ## Records -/

structure EvidenceLocator where
  ref : String
  sha256 : Option String
  deriving DecidableEq, Repr

structure EpistemicEvidenceNode where
  nodeRef : String
  nodeKind : EvidenceNodeKind
  role : EvidenceNodeRole
  locator : Option EvidenceLocator
  deriving DecidableEq, Repr

structure EpistemicEvidenceEdge where
  sourceRef : String
  dependentRef : String
  relation : EvidenceDependencyRelation
  deriving DecidableEq, Repr

structure EpistemicReviewScope where
  scopeId : String
  scopeKind : ReviewScopeKind
  reviewedNodeRefs : List String
  nodes : List EpistemicEvidenceNode
  dependencyEdges : List EpistemicEvidenceEdge
  deriving DecidableEq, Repr

structure EpistemicEvidenceChange where
  nodeRef : String
  changeClass : SemanticChangeClass
  semanticChanged : Bool
  locatorSha256Before : Option String
  locatorSha256After : Option String
  deriving DecidableEq, Repr

def EpistemicReviewScope.nodeRefs (scope : EpistemicReviewScope) : List String :=
  scope.nodes.map EpistemicEvidenceNode.nodeRef

/-- The nodes that depend on a node, by the edges in order. -/
def dependents (edges : List EpistemicEvidenceEdge) (nodeRef : String) : List String :=
  (edges.filter (·.sourceRef = nodeRef)).map EpistemicEvidenceEdge.dependentRef

/-- The nodes that a node depends on, by the edges in order. -/
def sources (edges : List EpistemicEvidenceEdge) (nodeRef : String) : List String :=
  (edges.filter (·.dependentRef = nodeRef)).map EpistemicEvidenceEdge.sourceRef

/-! ## Reading -/

def requiredText (value : Option Json) (field : String) : Checked String :=
  match value.bind Json.asString? with
  | some text =>
    if trim text = "" then fail s!"{field} must be a non-empty string." else .ok (trim text)
  | none => fail s!"{field} must be a non-empty string."

def enumValue {ε : Type} (all : List ε) (text : ε → String) (value : Option Json) (field : String) :
    Checked ε :=
  match (value.bind Json.asString?).bind fun given => all.find? (text · = given) with
  | some found => .ok found
  | none => fail s!"{field} is not supported."

def record (value : Option Json) (field : String) : Checked JsonRecord :=
  match value with
  | some (.object fields) => .ok fields
  | _ => fail s!"{field} must be an object."

/-- An optional locator, `null` being none. -/
def locatorRecord (value : Option Json) (field : String) : Checked (Option JsonRecord) :=
  match value with
  | none | some .null => .ok none
  | some given => some <$> record (some given) field

/-- The digest of a locator, which may be missing or `null`. -/
def locatorSha256 (locator : Option JsonRecord) (index : Nat) : Checked (Option String) :=
  match locator.bind (field? · "sha256") with
  | none | some .null => .ok none
  | some (.string text) => do
    ensure (isSha256Digest text = true)
      s!"nodes[{index}].locator.sha256 must be a canonical optional SHA-256 locator."
    return some text
  | some _ => fail s!"nodes[{index}].locator.sha256 must be a canonical optional SHA-256 locator."

def normalizeNode (value : Json) (index : Nat) : Checked EpistemicEvidenceNode := do
  let input ← record (some value) s!"nodes[{index}]"
  let locator ← locatorRecord (field? input "locator") s!"nodes[{index}].locator"
  let sha256 ← locatorSha256 locator index
  let nodeRef ← requiredText (field? input "node_ref") s!"nodes[{index}].node_ref"
  let nodeKind ← enumValue EvidenceNodeKind.all EvidenceNodeKind.text (field? input "node_kind")
    s!"nodes[{index}].node_kind"
  let role ← enumValue EvidenceNodeRole.all EvidenceNodeRole.text (field? input "role")
    s!"nodes[{index}].role"
  match locator with
  | none => return { nodeRef, nodeKind, role, locator := none }
  | some located =>
    let ref ← requiredText (field? located "ref") s!"nodes[{index}].locator.ref"
    return { nodeRef, nodeKind, role, locator := some { ref, sha256 } }

def normalizeEdge (value : Json) (index : Nat) : Checked EpistemicEvidenceEdge := do
  let input ← record (some value) s!"dependency_edges[{index}]"
  let sourceRef ← requiredText (field? input "source_ref") s!"dependency_edges[{index}].source_ref"
  let dependentRef ← requiredText (field? input "dependent_ref")
    s!"dependency_edges[{index}].dependent_ref"
  let relation ← enumValue EvidenceDependencyRelation.all EvidenceDependencyRelation.text
    (field? input "relation") s!"dependency_edges[{index}].relation"
  return { sourceRef, dependentRef, relation }

/-- `values.map` with the index. -/
def mapIndexed {β : Type} (normalize : Json → Nat → Checked β) (values : List Json) :
    Checked (List β) :=
  mapEach (fun entry => normalize entry.1 entry.2) values.zipIdx

/-- The items of an array that may not be empty. -/
def inhabitedItems (value : Option Json) (message : String) : Checked (List Json) :=
  match value with
  | some (.array (item :: rest)) => .ok (item :: rest)
  | _ => fail message

def requiredUniqueRefs (value : Option Json) (field : String) : Checked (List String) := do
  let items ← inhabitedItems value s!"{field} requires at least one ref."
  let refs ← mapIndexed (fun entry index => requiredText (some entry) s!"{field}[{index}]") items
  ensure refs.Nodup s!"{field} must not contain duplicate refs."
  return refs

/-- `Array.isArray(…) ? ….map(…) : []`. -/
def dependencyEdges (value : Option Json) : Checked (List EpistemicEvidenceEdge) :=
  match value with
  | some (.array items) => mapIndexed normalizeEdge items
  | _ => .ok []

def requireAcyclicGraph (nodes : List EpistemicEvidenceNode) (edges : List EpistemicEvidenceEdge) :
    Checked Unit :=
  match visitAll (dependents edges) (nodes.map EpistemicEvidenceNode.nodeRef) with
  | .ok _ => .ok ()
  | .error _ => fail "Epistemic evidence dependency graph must be acyclic."

def normalizeEpistemicReviewScope (value : Json) : Checked EpistemicReviewScope := do
  let input ← record (some value) "review_scope"
  ensure (field? input "surface_kind" = some (.string "opl_epistemic_review_scope") ∧
      field? input "version" = some (.string "opl-epistemic-review-scope.v2"))
    "Review currentness requires the generic OPL epistemic review scope v2."
  let scopeKind ← enumValue ReviewScopeKind.all ReviewScopeKind.text (field? input "scope_kind")
    "scope_kind"
  ensure (field? input "evidence_profile" = some (.string "epistemic_provenance") ∧
      field? input "trust_model" = some (.string "trusted_local_workspace"))
    "Content review evidence must use epistemic provenance in a trusted local workspace."
  let items ← inhabitedItems (field? input "nodes") "Review scope requires evidence nodes."
  let nodes ← mapIndexed normalizeNode items
  ensure (nodes.map EpistemicEvidenceNode.nodeRef).Nodup "Review scope node refs must be unique."
  let reviewedNodeRefs ← requiredUniqueRefs (field? input "reviewed_node_refs") "reviewed_node_refs"
  ensure (reviewedNodeRefs ⊆ nodes.map EpistemicEvidenceNode.nodeRef)
    "Every reviewed node ref must exist in the evidence graph."
  let edges ← dependencyEdges (field? input "dependency_edges")
  ensure (∀ edge ∈ edges, edge.sourceRef ∈ nodes.map EpistemicEvidenceNode.nodeRef ∧
      edge.dependentRef ∈ nodes.map EpistemicEvidenceNode.nodeRef)
    "Every evidence dependency edge must connect declared nodes."
  ensure (∀ edge ∈ edges, edge.sourceRef ≠ edge.dependentRef)
    "Evidence dependency edges cannot be self-referential."
  requireAcyclicGraph nodes edges
  ensure (∀ node ∈ nodes, node.role ∉ scopeForbiddenRoles scopeKind)
    "Review scope contains artifact roles outside its semantic domain."
  let authority ← record (field? input "authority_boundary") "authority_boundary"
  ensure (field? authority "hash_is_locator_or_stale_hint_only" = some (.bool true) ∧
      field? authority "hash_is_content_authority" = some (.bool false) ∧
      field? authority "release_integrity_is_separate" = some (.bool true) ∧
      field? authority "framework_can_issue_domain_verdict" = some (.bool false))
    "Epistemic review scope authority boundary cannot promote hashes or Framework transport to domain truth."
  let scopeId ← requiredText (field? input "scope_id") "scope_id"
  return { scopeId, scopeKind, reviewedNodeRefs, nodes, dependencyEdges := edges }

/-- The reviewed nodes and all that they depend on. -/
def dependencyClosure (scope : EpistemicReviewScope) : List String :=
  closureFrom (sources scope.dependencyEdges) scope.nodes.length scope.reviewedNodeRefs
    scope.reviewedNodeRefs.reverse

/-- `typeof value === 'string' ? value : null`. -/
def optionalText (value : Option Json) : Option String := value.bind Json.asString?

def normalizeChange (value : Json) (index : Nat) : Checked EpistemicEvidenceChange := do
  let input ← record (some value) s!"changes[{index}]"
  let semanticChanged ← match field? input "semantic_changed" with
    | some (.bool changed) => .ok changed
    | _ => fail s!"changes[{index}].semantic_changed must be boolean."
  let nodeRef ← requiredText (field? input "node_ref") s!"changes[{index}].node_ref"
  let changeClass ← enumValue SemanticChangeClass.all SemanticChangeClass.text
    (field? input "change_class") s!"changes[{index}].change_class"
  return {
    nodeRef, changeClass, semanticChanged
    locatorSha256Before := optionalText (field? input "locator_sha256_before")
    locatorSha256After := optionalText (field? input "locator_sha256_after") }

/-! ## The evaluation -/

/-- Why a change is ignored, or none for an invalidating change. -/
def judgeChange (scope : EpistemicReviewScope) (change : EpistemicEvidenceChange) :
    Checked (Option String) :=
  match scope.nodes.find? (·.nodeRef = change.nodeRef) with
  | none => .ok (some "outside_declared_evidence_graph")
  | some node => do
    ensure (node.role ∈ change.changeClass.roles)
      "Semantic change class does not match the declared evidence node role."
    if change.semanticChanged = false ∨ change.changeClass = .locatorOnly then
      return some "locator_or_non_semantic_change_only"
    if node.role ∈ nonEpistemicRoles then
      return some "governance_or_review_metadata_is_not_content_evidence"
    if change.nodeRef ∉ dependencyClosure scope then
      return some "outside_reviewed_dependency_closure"
    return none

inductive ReviewCurrentness where
  | stale
  | current
  deriving DecidableEq, Repr

structure ReviewCurrentnessEvaluation where
  scopeId : String
  scopeKind : ReviewScopeKind
  status : ReviewCurrentness
  invalidatingChanges : List EpistemicEvidenceChange
  ignoredChanges : List (EpistemicEvidenceChange × String)
  reviewedDependencyRefs : List String
  deriving DecidableEq, Repr

/-- The items of the argument `changes`. -/
def changeItems : Json → Checked (List Json)
  | .array items => .ok items
  | _ => fail "changes must be an array."

def evaluateEpistemicReviewCurrentness (scopeValue changesValue : Json) :
    Checked ReviewCurrentnessEvaluation := do
  let scope ← normalizeEpistemicReviewScope scopeValue
  let items ← changeItems changesValue
  let changes ← mapIndexed normalizeChange items
  let reasons ← mapEach (judgeChange scope) changes
  let judged := changes.zip reasons
  let invalidating := (judged.filter (·.2.isNone)).map Prod.fst
  return {
    scopeId := scope.scopeId
    scopeKind := scope.scopeKind
    status := if invalidating = [] then .current else .stale
    invalidatingChanges := invalidating
    ignoredChanges := judged.filterMap fun entry => entry.2.map fun reason => (entry.1, reason)
    reviewedDependencyRefs :=
      sortOn (dictionary fun unit other => decide (unit < other)) unitsOf (dependencyClosure scope) }

end OnePersonLab.Stage.EpistemicReview

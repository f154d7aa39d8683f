import OnePersonLab.Stage.ReviewCurrentness

/-!
# Currentness is reachability

A scope is accepted if its dependencies connect declared nodes without a cycle,
and a review is stale if a reviewed node is reachable from a changed one. Every
epistemic node can be changed so that its reviews become stale, but for the
reproduction instructions, which no change class covers.
-/

namespace OnePersonLab.Stage.EpistemicReview

open Contract Lib

variable {value : Json} {scope : EpistemicReviewScope} {edges : List EpistemicEvidenceEdge}
  {change : EpistemicEvidenceChange}

/-! ## The graph -/

section

variable {node other : String}

theorem arc_dependents : Arc (dependents edges) node other ↔
    ∃ edge ∈ edges, edge.sourceRef = node ∧ edge.dependentRef = other := by
  simp [Arc, dependents, and_assoc]

theorem arc_sources : Arc (sources edges) other node ↔ Arc (dependents edges) node other := by
  rw [arc_dependents]
  simp only [Arc, sources, List.mem_map, List.mem_filter, decide_eq_true_eq, and_assoc]
  exact exists_congr fun edge => and_congr_right fun _ => and_comm

theorem reaches_sources :
    Reaches (sources edges) other node ↔ Reaches (dependents edges) node other := by
  have turned : Arc (sources edges) = Function.swap (Arc (dependents edges)) :=
    funext fun _ => funext fun _ => propext arc_sources
  rw [Reaches, turned]
  exact Relation.reflTransGen_swap

end

namespace EpistemicReviewScope

/-- Every edge connects declared nodes. -/
def EdgesDeclared (scope : EpistemicReviewScope) : Prop :=
  ∀ edge ∈ scope.dependencyEdges, edge.sourceRef ∈ scope.nodeRefs ∧
    edge.dependentRef ∈ scope.nodeRefs

def SelfEdge (scope : EpistemicReviewScope) : Prop :=
  ∃ edge ∈ scope.dependencyEdges, edge.sourceRef = edge.dependentRef

/-- A way of dependencies leads from a node back to it. -/
def Cyclic (scope : EpistemicReviewScope) : Prop :=
  ∃ nodeRef, Precedes (dependents scope.dependencyEdges) nodeRef nodeRef

/-- A reviewed node depends on the node, over zero or more edges. -/
def Reviews (scope : EpistemicReviewScope) (nodeRef : String) : Prop :=
  ∃ reviewed ∈ scope.reviewedNodeRefs, Reaches (dependents scope.dependencyEdges) nodeRef reviewed

theorem EdgesDeclared.closed_dependents (declared : scope.EdgesDeclared) :
    ClosedUnder (dependents scope.dependencyEdges) scope.nodeRefs := by
  intro nodeRef _ other arc
  obtain ⟨edge, listed, -, rfl⟩ := arc_dependents.1 arc
  exact (declared edge listed).2

theorem EdgesDeclared.closed_sources (declared : scope.EdgesDeclared) :
    ClosedUnder (sources scope.dependencyEdges) scope.nodeRefs := by
  intro nodeRef _ other arc
  obtain ⟨edge, listed, rfl, -⟩ := arc_dependents.1 (arc_sources.1 arc)
  exact (declared edge listed).1

theorem EdgesDeclared.requireAcyclicGraph (declared : scope.EdgesDeclared) :
    requireAcyclicGraph scope.nodes scope.dependencyEdges = .ok () ↔ ¬ scope.Cyclic := by
  have within : ∀ nodeRef, dependents scope.dependencyEdges nodeRef ≠ [] →
      nodeRef ∈ scope.nodeRefs := by
    intro nodeRef inhabited
    obtain ⟨other, arc⟩ := List.exists_mem_of_ne_nil _ inhabited
    obtain ⟨edge, listed, rfl, -⟩ := arc_dependents.1 arc
    exact (declared edge listed).1
  have search := visitAll_succeeds_iff declared.closed_dependents within
  rw [Cyclic, not_exists]
  refine Iff.trans ?_ search
  unfold EpistemicReview.requireAcyclicGraph nodeRefs
  cases visitAll (dependents scope.dependencyEdges) (scope.nodes.map (·.nodeRef)) with
  | ok visited => simp
  | error nodeRef => simp

end EpistemicReviewScope

/-! ## Accepted scopes -/

/-- The fields of a scope value, with every check but those of the edges. -/
def ScopeFields (value : Json) (scope : EpistemicReviewScope) : Prop :=
  ∃ input items authority, record (some value) "review_scope" = .ok input ∧
    (field? input "surface_kind" = some (.string "opl_epistemic_review_scope") ∧
      field? input "version" = some (.string "opl-epistemic-review-scope.v2")) ∧
    enumValue ReviewScopeKind.all ReviewScopeKind.text (field? input "scope_kind") "scope_kind" =
      .ok scope.scopeKind ∧
    (field? input "evidence_profile" = some (.string "epistemic_provenance") ∧
      field? input "trust_model" = some (.string "trusted_local_workspace")) ∧
    inhabitedItems (field? input "nodes") "Review scope requires evidence nodes." = .ok items ∧
    mapIndexed normalizeNode items = .ok scope.nodes ∧
    scope.nodeRefs.Nodup ∧
    requiredUniqueRefs (field? input "reviewed_node_refs") "reviewed_node_refs" =
      .ok scope.reviewedNodeRefs ∧
    scope.reviewedNodeRefs ⊆ scope.nodeRefs ∧
    dependencyEdges (field? input "dependency_edges") = .ok scope.dependencyEdges ∧
    (∀ node ∈ scope.nodes, node.role ∉ scopeForbiddenRoles scope.scopeKind) ∧
    record (field? input "authority_boundary") "authority_boundary" = .ok authority ∧
    (field? authority "hash_is_locator_or_stale_hint_only" = some (.bool true) ∧
      field? authority "hash_is_content_authority" = some (.bool false) ∧
      field? authority "release_integrity_is_separate" = some (.bool true) ∧
      field? authority "framework_can_issue_domain_verdict" = some (.bool false)) ∧
    requiredText (field? input "scope_id") "scope_id" = .ok scope.scopeId

theorem normalizeEpistemicReviewScope_eq_ok :
    normalizeEpistemicReviewScope value = .ok scope ↔
      ScopeFields value scope ∧ scope.EdgesDeclared ∧ ¬ scope.SelfEdge ∧ ¬ scope.Cyclic := by
  simp only [normalizeEpistemicReviewScope, bind_eq_ok, ensure_eq_ok, pure_eq_ok]
  constructor
  · rintro ⟨input, isRecord, _, surface, kind, scopeKind, _, profile, items, inhabited, nodes, read,
      _, distinct, reviewed, refs, _, present, edges, edgesRead, _, declared, _, apart, _, acyclic, _,
      roles, authority, bounds, _, bounded, scopeId, named, rfl⟩
    have declared : EpistemicReviewScope.EdgesDeclared ⟨scopeId, kind, reviewed, nodes, edges⟩ :=
      declared
    refine ⟨⟨input, items, authority, isRecord, surface, scopeKind, profile, inhabited, read,
      distinct, refs, present, edgesRead, roles, bounds, bounded, named⟩, declared, ?_,
      declared.requireAcyclicGraph.1 acyclic⟩
    rintro ⟨edge, listed, same⟩
    exact apart edge listed same
  · rintro ⟨⟨input, items, authority, isRecord, surface, scopeKind, profile, inhabited, read,
      distinct, refs, present, edgesRead, roles, bounds, bounded, named⟩, declared, apart, acyclic⟩
    exact ⟨input, isRecord, (), surface, scope.scopeKind, scopeKind, (), profile, items, inhabited,
      scope.nodes, read, (), distinct, scope.reviewedNodeRefs, refs, (), present,
      scope.dependencyEdges, edgesRead, (), declared, (),
      fun edge listed same => apart ⟨edge, listed, same⟩, (),
      declared.requireAcyclicGraph.2 acyclic, (), roles, authority, bounds, (), bounded,
      scope.scopeId, named, rfl⟩

theorem ScopeFields.unique {other : EpistemicReviewScope} (fields : ScopeFields value scope)
    (again : ScopeFields value other) : scope = other := by
  obtain ⟨input, items, authority, isRecord, -, scopeKind, -, inhabited, read, -, refs, -,
    edgesRead, -, -, -, named⟩ := fields
  obtain ⟨input', items', authority', isRecord', -, scopeKind', -, inhabited', read', -, refs', -,
    edgesRead', -, -, -, named'⟩ := again
  obtain rfl := Except.ok.inj (isRecord.symm.trans isRecord')
  obtain rfl := Except.ok.inj (inhabited.symm.trans inhabited')
  cases scope
  cases other
  simp only [EpistemicReviewScope.mk.injEq]
  exact ⟨Except.ok.inj (named.symm.trans named'), Except.ok.inj (scopeKind.symm.trans scopeKind'),
    Except.ok.inj (refs.symm.trans refs'), Except.ok.inj (read.symm.trans read'),
    Except.ok.inj (edgesRead.symm.trans edgesRead')⟩

theorem ScopeFields.distinct (fields : ScopeFields value scope) : scope.nodeRefs.Nodup := by
  obtain ⟨_, _, _, _, _, _, _, _, _, distinct, _⟩ := fields
  exact distinct

/-- The reviewed refs are read without duplicates and name declared nodes. -/
theorem ScopeFields.reviewed (fields : ScopeFields value scope) :
    scope.reviewedNodeRefs.Nodup ∧ scope.reviewedNodeRefs ⊆ scope.nodeRefs := by
  obtain ⟨_, _, _, _, _, _, _, _, _, _, refs, present, _⟩ := fields
  simp only [requiredUniqueRefs, bind_eq_ok, ensure_eq_ok, pure_eq_ok] at refs
  obtain ⟨_, _, _, _, _, distinct, rfl⟩ := refs
  exact ⟨distinct, present⟩

theorem mem_dependencyClosure (accepted : normalizeEpistemicReviewScope value = .ok scope)
    (nodeRef : String) : nodeRef ∈ dependencyClosure scope ↔ scope.Reviews nodeRef := by
  obtain ⟨fields, declared, -⟩ := normalizeEpistemicReviewScope_eq_ok.1 accepted
  obtain ⟨distinct, present⟩ := fields.reviewed
  have length : scope.nodeRefs.length ≤ scope.nodes.length := (List.length_map _).le
  rw [dependencyClosure, mem_closureFrom_iff declared.closed_sources present distinct length]
  exact exists_congr fun reviewed => and_congr_right fun _ => reaches_sources

/-! ## One change -/

/-- A semantic change of an epistemic node that a reviewed node depends on. -/
def Invalidates (scope : EpistemicReviewScope) (change : EpistemicEvidenceChange) : Prop :=
  change.semanticChanged = true ∧ change.changeClass ≠ .locatorOnly ∧
    (∃ node ∈ scope.nodes, node.nodeRef = change.nodeRef ∧ node.role ∉ nonEpistemicRoles) ∧
    scope.Reviews change.nodeRef

/-- The class of a change covers the role of its node, if the node is declared. -/
def Covered (scope : EpistemicReviewScope) (change : EpistemicEvidenceChange) : Prop :=
  ∀ node ∈ scope.nodes, node.nodeRef = change.nodeRef → node.role ∈ change.changeClass.roles

theorem declared_cases (distinct : scope.nodeRefs.Nodup) (nodeRef : String) :
    (scope.nodes.find? (·.nodeRef = nodeRef) = none ∧ ∀ node ∈ scope.nodes, node.nodeRef ≠ nodeRef) ∨
      ∃ node ∈ scope.nodes, scope.nodes.find? (·.nodeRef = nodeRef) = some node ∧
        node.nodeRef = nodeRef ∧ ∀ other ∈ scope.nodes, other.nodeRef = nodeRef → other = node := by
  cases found : scope.nodes.find? (·.nodeRef = nodeRef) with
  | none =>
    refine .inl ⟨rfl, fun node listed => ?_⟩
    simpa using List.find?_eq_none.1 found node listed
  | some node =>
    have listed := List.mem_of_find?_eq_some found
    have named : node.nodeRef = nodeRef := by simpa using List.find?_some found
    refine .inr ⟨node, listed, rfl, named, fun other present same => ?_⟩
    exact List.inj_on_of_nodup_map distinct present listed (same.trans named.symm)

theorem judgeChange_cases (accepted : normalizeEpistemicReviewScope value = .ok scope)
    (change : EpistemicEvidenceChange) :
    (¬ Covered scope change ∧ ∃ failure, judgeChange scope change = .error failure) ∨
      (Covered scope change ∧ ∃ reason, judgeChange scope change = .ok reason ∧
        (reason = none ↔ Invalidates scope change)) := by
  obtain ⟨fields, -⟩ := normalizeEpistemicReviewScope_eq_ok.1 accepted
  have closure := mem_dependencyClosure accepted change.nodeRef
  unfold judgeChange
  rcases declared_cases fields.distinct change.nodeRef with ⟨missing, apart⟩ |
    ⟨node, listed, found, named, only⟩
  · rw [missing]
    refine .inr ⟨fun node listed same => absurd same (apart node listed), _, rfl, ?_⟩
    refine iff_of_false (by simp) ?_
    rintro ⟨-, -, ⟨node, listed, same, -⟩, -⟩
    exact apart node listed same
  · rw [found]
    dsimp only
    by_cases covers : node.role ∈ change.changeClass.roles
    · have covered : Covered scope change := fun other present same => only other present same ▸ covers
      refine .inr ⟨covered, ?_⟩
      rw [ensure_true covers]
      by_cases mild : change.semanticChanged = false ∨ change.changeClass = .locatorOnly
      · refine ⟨_, if_pos mild, iff_of_false (by simp) ?_⟩
        rintro ⟨semantic, located, -⟩
        rcases mild with quiet | locator
        · exact Bool.false_ne_true (quiet.symm.trans semantic)
        · exact located locator
      · by_cases idle : node.role ∈ nonEpistemicRoles
        · refine ⟨_, (if_neg mild).trans (if_pos idle), iff_of_false (by simp) ?_⟩
          rintro ⟨-, -, ⟨other, present, same, epistemic⟩, -⟩
          exact epistemic (only other present same ▸ idle)
        · by_cases inside : change.nodeRef ∈ dependencyClosure scope
          · refine ⟨none, (if_neg mild).trans ((if_neg idle).trans (if_neg (not_not.2 inside))),
              iff_of_true rfl ?_⟩
            simp only [not_or, Bool.not_eq_false] at mild
            exact ⟨mild.1, mild.2, ⟨node, listed, named, idle⟩, closure.1 inside⟩
          · refine ⟨_, (if_neg mild).trans ((if_neg idle).trans (if_pos inside)),
              iff_of_false (by simp) ?_⟩
            rintro ⟨-, -, -, reviewed⟩
            exact inside (closure.2 reviewed)
    · refine .inl ⟨fun covered => covers (covered node listed named), ?_⟩
      exact ⟨_, by simp only [ensure, if_neg covers]; rfl⟩

/-! ## The evaluation -/

/-- The status of a review, once its scope and its changes are read. -/
structure Evaluates (scope : EpistemicReviewScope) (changes : List EpistemicEvidenceChange)
    (status : ReviewCurrentness) : Prop where
  covered : ∀ change ∈ changes, Covered scope change
  stale : status = .stale ↔ ∃ change ∈ changes, Invalidates scope change

theorem judged_eq_nil {changes : List EpistemicEvidenceChange} {reasons : List (Option String)}
    (judged : List.Forall₂ (fun change reason => judgeChange scope change = .ok reason) changes
      reasons)
    (accepted : normalizeEpistemicReviewScope value = .ok scope) :
    (∀ change ∈ changes, Covered scope change) ∧
      (((changes.zip reasons).filter (·.2.isNone)).map Prod.fst = [] ↔
        ¬ ∃ change ∈ changes, Invalidates scope change) := by
  induction judged with
  | nil => simp
  | @cons change reason changes reasons first _ ih =>
    rcases judgeChange_cases accepted change with ⟨-, failure, thrown⟩ |
      ⟨covered, reason', given, invalid⟩
    · cases thrown.symm.trans first
    · obtain rfl := Except.ok.inj (given.symm.trans first)
      refine ⟨List.forall_mem_cons.2 ⟨covered, ih.1⟩, ?_⟩
      simp only [List.exists_mem_cons_iff, not_or, ← ih.2, ← invalid]
      cases reason' <;> simp

/-- An evaluation succeeds exactly if the scope is accepted and every change is covered. -/
theorem evaluates_iff {items : List Json} {status : ReviewCurrentness} :
    (∃ result, evaluateEpistemicReviewCurrentness value (.array items) = .ok result ∧
      result.status = status) ↔
    ∃ scope changes, normalizeEpistemicReviewScope value = .ok scope ∧
      mapIndexed normalizeChange items = .ok changes ∧ Evaluates scope changes status := by
  simp only [evaluateEpistemicReviewCurrentness, changeItems, bind_eq_ok, pure_eq_ok]
  constructor
  · rintro ⟨_, ⟨scope, accepted, _, ⟨⟩, changes, read, reasons, judged, rfl⟩, rfl⟩
    obtain ⟨covered, empty⟩ := judged_eq_nil (mapEach_eq_ok.1 judged) accepted
    refine ⟨scope, changes, accepted, read, covered, ?_⟩
    refine Iff.trans ?_ (not_iff_comm.1 empty.symm)
    dsimp only
    split_ifs with none_
    · exact iff_of_false (by simp) (not_not.2 none_)
    · exact iff_of_true rfl none_
  · rintro ⟨scope, changes, accepted, read, evaluates⟩
    have each : ∀ change ∈ changes, ∃ reason, judgeChange scope change = .ok reason := by
      intro change listed
      rcases judgeChange_cases accepted change with ⟨uncovered, -⟩ | ⟨-, reason, given, -⟩
      · exact absurd (evaluates.covered change listed) uncovered
      · exact ⟨reason, given⟩
    obtain ⟨reasons, judged⟩ := exists_mapEach_eq_ok each
    obtain ⟨-, empty⟩ := judged_eq_nil (mapEach_eq_ok.1 judged) accepted
    refine ⟨_, ⟨scope, accepted, items, rfl, changes, read, reasons, judged, rfl⟩, ?_⟩
    have stale := evaluates.stale
    rw [← not_iff_comm.1 empty.symm] at stale
    dsimp only
    split_ifs with none_
    · cases status with
      | stale => exact absurd none_ (stale.1 rfl)
      | current => rfl
    · exact (stale.2 none_).symm

/-! ## Edges and changes in another order -/

/-- The lists have the same members, in any order and any number. -/
def SameMembers {α : Type} (left right : List α) : Prop := ∀ item, item ∈ left ↔ item ∈ right

/-- The scopes differ at most in the order and the number of their edges. -/
structure SameGraph (scope other : EpistemicReviewScope) : Prop where
  nodes : other.nodes = scope.nodes
  reviewed : other.reviewedNodeRefs = scope.reviewedNodeRefs
  edges : SameMembers scope.dependencyEdges other.dependencyEdges

section

variable {other : EpistemicReviewScope}

theorem SameGraph.symm (same : SameGraph scope other) : SameGraph other scope :=
  ⟨same.nodes.symm, same.reviewed.symm, fun edge => (same.edges edge).symm⟩

theorem SameGraph.arc (same : SameGraph scope other) :
    Arc (dependents other.dependencyEdges) = Arc (dependents scope.dependencyEdges) := by
  funext node child
  apply propext
  rw [arc_dependents, arc_dependents]
  exact exists_congr fun edge => and_congr_left fun _ => (same.edges edge).symm

theorem SameGraph.sound (same : SameGraph scope other) :
    (other.EdgesDeclared ∧ ¬ other.SelfEdge ∧ ¬ other.Cyclic) ↔
      scope.EdgesDeclared ∧ ¬ scope.SelfEdge ∧ ¬ scope.Cyclic := by
  have declared : other.EdgesDeclared ↔ scope.EdgesDeclared := by
    unfold EpistemicReviewScope.EdgesDeclared EpistemicReviewScope.nodeRefs
    rw [same.nodes]
    exact forall_congr' fun edge => imp_congr_left (same.edges edge).symm
  have selfEdge : other.SelfEdge ↔ scope.SelfEdge :=
    exists_congr fun edge => and_congr_left fun _ => (same.edges edge).symm
  have cyclic : other.Cyclic ↔ scope.Cyclic := by
    unfold EpistemicReviewScope.Cyclic Precedes
    rw [same.arc]
  rw [declared, selfEdge, cyclic]

theorem SameGraph.invalidates (same : SameGraph scope other) :
    Invalidates other change ↔ Invalidates scope change := by
  unfold Invalidates EpistemicReviewScope.Reviews Reaches
  rw [same.nodes, same.reviewed, same.arc]

theorem SameGraph.evaluates (same : SameGraph scope other)
    {changes changes' : List EpistemicEvidenceChange} (permuted : SameMembers changes changes')
    {status : ReviewCurrentness} (evaluates : Evaluates scope changes status) :
    Evaluates other changes' status where
  covered := by
    intro change listed
    unfold Covered
    rw [same.nodes]
    exact evaluates.covered change ((permuted change).2 listed)
  stale := by
    rw [evaluates.stale]
    exact exists_congr fun change => and_congr (permuted change) same.invalidates.symm

end

/-! ## Changes that make a review stale -/

/-- A class covers the role, `locator_only` aside, unless it is that of an instruction. -/
theorem exists_changeClass {role : EvidenceNodeRole} (epistemic : role ∉ nonEpistemicRoles)
    (other : role ≠ .reproductionInstruction) :
    ∃ changeClass : SemanticChangeClass, changeClass ≠ .locatorOnly ∧ role ∈ changeClass.roles := by
  cases role with
  | sourceData => exact ⟨.data, by decide, by decide⟩
  | context => exact ⟨.context, by decide, by decide⟩
  | analysisCode => exact ⟨.analysisCode, by decide, by decide⟩
  | analysisParameters => exact ⟨.analysisParameters, by decide, by decide⟩
  | analysisResult => exact ⟨.analysisResult, by decide, by decide⟩
  | claim => exact ⟨.claim, by decide, by decide⟩
  | referenceSource => exact ⟨.referenceSource, by decide, by decide⟩
  | citationLinkage => exact ⟨.citationLinkage, by decide, by decide⟩
  | limitation => exact ⟨.limitation, by decide, by decide⟩
  | reproductionInstruction => exact absurd rfl other
  | visualContent => exact ⟨.visualContent, by decide, by decide⟩
  | layout => exact ⟨.layout, by decide, by decide⟩
  | renderTemplate => exact ⟨.renderTemplate, by decide, by decide⟩
  | packageContent => exact ⟨.packageComposition, by decide, by decide⟩
  | packageWrapper => exact ⟨.packageWrapper, by decide, by decide⟩
  | governanceMetadata => exact absurd (by decide) epistemic
  | reviewReceipt => exact absurd (by decide) epistemic

theorem locatorOnly_of_instruction {changeClass : SemanticChangeClass}
    (covers : .reproductionInstruction ∈ changeClass.roles) : changeClass = .locatorOnly := by
  revert covers
  cases changeClass <;> decide

/-- A semantic change of a node, as its caller writes it. -/
def semanticChange (nodeRef : String) (changeClass : SemanticChangeClass) : Json :=
  .object [("node_ref", .string nodeRef), ("change_class", .string changeClass.text),
    ("semantic_changed", .bool true)]

theorem enumValue_text (changeClass : SemanticChangeClass) (field : String) :
    enumValue SemanticChangeClass.all SemanticChangeClass.text (some (.string changeClass.text))
      field = .ok changeClass := by
  have found : SemanticChangeClass.all.find? (·.text = changeClass.text) = some changeClass := by
    cases changeClass <;> decide +kernel
  simp [enumValue, Json.asString?, found]

theorem requiredText_eq_ok {given : Option Json} {field text : String}
    (read : requiredText given field = .ok text) : trim text = text ∧ text ≠ "" := by
  unfold requiredText at read
  split at read
  · split_ifs at read with blank
    · exact absurd read fail_ne_ok
    · obtain rfl := Except.ok.inj read
      exact ⟨trim_trim _, blank⟩
  · exact absurd read fail_ne_ok

theorem normalizeNode_nodeRef {entry : Json} {index : Nat} {node : EpistemicEvidenceNode}
    (read : normalizeNode entry index = .ok node) : trim node.nodeRef = node.nodeRef ∧
      node.nodeRef ≠ "" := by
  simp only [normalizeNode, bind_eq_ok] at read
  obtain ⟨_, -, located, -, _, -, nodeRef, named, _, -, _, -, last⟩ := read
  have same : node.nodeRef = nodeRef := by
    cases located with
    | none =>
      obtain rfl := pure_eq_ok.1 last
      rfl
    | some fields =>
      obtain ⟨_, -, last⟩ := bind_eq_ok.1 last
      obtain rfl := pure_eq_ok.1 last
      rfl
  rw [same]
  exact requiredText_eq_ok named

theorem normalizeChange_semanticChange {nodeRef : String} (trimmed : trim nodeRef = nodeRef)
    (inhabited : nodeRef ≠ "") (changeClass : SemanticChangeClass) :
    mapIndexed normalizeChange [semanticChange nodeRef changeClass] =
      .ok [⟨nodeRef, changeClass, true, none, none⟩] := by
  have named : requiredText (some (.string nodeRef)) s!"changes[{0}].node_ref" = .ok nodeRef := by
    simp [requiredText, Json.asString?, trimmed, inhabited]
  have classed := enumValue_text changeClass s!"changes[{0}].change_class"
  have normalized : normalizeChange (semanticChange nodeRef changeClass) 0 =
      .ok ⟨nodeRef, changeClass, true, none, none⟩ := by
    unfold normalizeChange
    exact bind_eq_ok.2 ⟨_, rfl, bind_eq_ok.2 ⟨true, rfl, bind_eq_ok.2 ⟨nodeRef, named,
      bind_eq_ok.2 ⟨changeClass, classed, rfl⟩⟩⟩⟩
  exact mapEach_eq_ok.2 (.cons normalized .nil)

theorem ScopeFields.nodeRef {node : EpistemicEvidenceNode} (fields : ScopeFields value scope)
    (listed : node ∈ scope.nodes) : trim node.nodeRef = node.nodeRef ∧ node.nodeRef ≠ "" := by
  obtain ⟨_, _, _, _, _, _, _, _, read, _⟩ := fields
  obtain ⟨entry, -, normalized⟩ := exists_of_mem_mapEach read listed
  exact normalizeNode_nodeRef normalized

/-- Some change of the node, as an evaluation accepts it, makes the review stale. -/
def CanInvalidate (value : Json) (nodeRef : String) : Prop :=
  ∃ entry changes result, mapIndexed normalizeChange [entry] = .ok changes ∧
    (∀ change ∈ changes, change.nodeRef = nodeRef) ∧
    evaluateEpistemicReviewCurrentness value (.array [entry]) = .ok result ∧ result.status = .stale

theorem canInvalidate_iff (accepted : normalizeEpistemicReviewScope value = .ok scope)
    {node : EpistemicEvidenceNode} (listed : node ∈ scope.nodes)
    (epistemic : node.role ∉ nonEpistemicRoles) (reviews : scope.Reviews node.nodeRef) :
    CanInvalidate value node.nodeRef ↔ node.role ≠ .reproductionInstruction := by
  obtain ⟨fields, -⟩ := normalizeEpistemicReviewScope_eq_ok.1 accepted
  constructor
  · rintro ⟨entry, changes, result, read, named, evaluated, stale⟩ instruction
    obtain ⟨scope', changes', accepted', read', evaluates⟩ := evaluates_iff.1 ⟨result, evaluated, stale⟩
    obtain rfl := Except.ok.inj (accepted.symm.trans accepted')
    obtain rfl := Except.ok.inj (read.symm.trans read')
    obtain ⟨change, present, -, located, -⟩ := evaluates.stale.1 rfl
    have covers := evaluates.covered change present node listed (named change present).symm
    rw [instruction] at covers
    exact located (locatorOnly_of_instruction covers)
  · intro other
    obtain ⟨changeClass, located, covers⟩ := exists_changeClass epistemic other
    obtain ⟨trimmed, inhabited⟩ := fields.nodeRef listed
    have read := normalizeChange_semanticChange trimmed inhabited changeClass
    have evaluates : Evaluates scope [⟨node.nodeRef, changeClass, true, none, none⟩] .stale := by
      refine ⟨?_, iff_of_true rfl ⟨_, List.mem_cons_self .., rfl, located, ?_, reviews⟩⟩
      · intro change present other listed' same
        obtain rfl := List.mem_singleton.1 present
        rw [List.inj_on_of_nodup_map fields.distinct listed' listed same]
        exact covers
      · exact ⟨node, listed, rfl, epistemic⟩
    obtain ⟨result, evaluated, stale⟩ := evaluates_iff.2 ⟨scope, _, accepted, read, evaluates⟩
    refine ⟨_, _, result, read, ?_, evaluated, stale⟩
    intro change present
    obtain rfl := List.mem_singleton.1 present
    rfl

/-! ## Every scope value -/

/-- Currentness of the reviews of a scope value is reachability in its graph. -/
structure ReviewsExactly (value : Json) : Prop where
  rejects : ∀ scope, ScopeFields value scope →
    ((¬ ∃ accepted, normalizeEpistemicReviewScope value = .ok accepted) ↔
      scope.Cyclic ∨ scope.SelfEdge ∨ ¬ scope.EdgesDeclared)
  exact : ∀ scope, normalizeEpistemicReviewScope value = .ok scope → ∀ items result,
    evaluateEpistemicReviewCurrentness value (.array items) = .ok result →
    ∃ changes, mapIndexed normalizeChange items = .ok changes ∧
      (result.status = .stale ↔ ∃ change ∈ changes, Invalidates scope change)
  /-- Neither the order nor the number of edges and changes matters. -/
  unordered : ∀ scope value' scope', ScopeFields value scope → ScopeFields value' scope' →
    SameGraph scope scope' →
    ((∃ accepted, normalizeEpistemicReviewScope value = .ok accepted) ↔
      ∃ accepted, normalizeEpistemicReviewScope value' = .ok accepted) ∧
    ∀ items items' changes changes', mapIndexed normalizeChange items = .ok changes →
      mapIndexed normalizeChange items' = .ok changes' → SameMembers changes changes' →
      ∀ status, (∃ result, evaluateEpistemicReviewCurrentness value (.array items) = .ok result ∧
          result.status = status) ↔
        ∃ result, evaluateEpistemicReviewCurrentness value' (.array items') = .ok result ∧
          result.status = status
  monotone : ∀ items items' changes changes' result result',
    mapIndexed normalizeChange items = .ok changes →
    mapIndexed normalizeChange items' = .ok changes' → changes ⊆ changes' →
    evaluateEpistemicReviewCurrentness value (.array items) = .ok result →
    evaluateEpistemicReviewCurrentness value (.array items') = .ok result' →
    result.status = .stale → result'.status = .stale
  /-- Every epistemic node that a reviewed node depends on can make the review stale. -/
  coverable : ∀ scope, normalizeEpistemicReviewScope value = .ok scope →
    ∀ node ∈ scope.nodes, node.role ∉ nonEpistemicRoles → scope.Reviews node.nodeRef →
    CanInvalidate value node.nodeRef

theorem accepted_iff (fields : ScopeFields value scope) :
    (∃ accepted, normalizeEpistemicReviewScope value = .ok accepted) ↔
      scope.EdgesDeclared ∧ ¬ scope.SelfEdge ∧ ¬ scope.Cyclic := by
  constructor
  · rintro ⟨accepted, normalized⟩
    obtain ⟨again, sound⟩ := normalizeEpistemicReviewScope_eq_ok.1 normalized
    obtain rfl := fields.unique again
    exact sound
  · exact fun sound => ⟨scope, normalizeEpistemicReviewScope_eq_ok.2 ⟨fields, sound⟩⟩

theorem SameGraph.evaluated {other : EpistemicReviewScope} (same : SameGraph scope other)
    {value' : Json} (fields : ScopeFields value scope) (fields' : ScopeFields value' other)
    {items items' : List Json} {changes changes' : List EpistemicEvidenceChange}
    (read : mapIndexed normalizeChange items = .ok changes)
    (read' : mapIndexed normalizeChange items' = .ok changes')
    (permuted : SameMembers changes changes') {status : ReviewCurrentness}
    (evaluated : ∃ result, evaluateEpistemicReviewCurrentness value (.array items) = .ok result ∧
      result.status = status) :
    ∃ result, evaluateEpistemicReviewCurrentness value' (.array items') = .ok result ∧
      result.status = status := by
  obtain ⟨accepted, changes₁, normalized, read₁, evaluates⟩ := evaluates_iff.1 evaluated
  obtain ⟨again, sound⟩ := normalizeEpistemicReviewScope_eq_ok.1 normalized
  obtain rfl := fields.unique again
  obtain rfl := Except.ok.inj (read.symm.trans read₁)
  exact evaluates_iff.2 ⟨other, changes',
    normalizeEpistemicReviewScope_eq_ok.2 ⟨fields', same.sound.2 sound⟩, read',
    same.evaluates permuted evaluates⟩

/-- No reviewed node depends on a reproduction instruction. -/
def InstructionsUnreviewed (scope : EpistemicReviewScope) : Prop :=
  ∀ node ∈ scope.nodes, node.role = .reproductionInstruction → ¬ scope.Reviews node.nodeRef

theorem reviewsExactly_iff (value : Json) :
    ReviewsExactly value ↔
      ∀ scope, normalizeEpistemicReviewScope value = .ok scope → InstructionsUnreviewed scope := by
  constructor
  · intro exactly scope accepted node listed instruction reviews
    have epistemic : node.role ∉ nonEpistemicRoles := by rw [instruction]; decide
    exact (canInvalidate_iff accepted listed epistemic reviews).1
      (exactly.coverable scope accepted node listed epistemic reviews) instruction
  · intro unreviewed
    constructor
    · intro scope fields
      rw [accepted_iff fields]
      tauto
    · intro scope accepted items result evaluated
      obtain ⟨scope', changes, accepted', read, evaluates⟩ := evaluates_iff.1 ⟨result, evaluated, rfl⟩
      obtain rfl := Except.ok.inj (accepted.symm.trans accepted')
      exact ⟨changes, read, evaluates.stale⟩
    · intro scope value' scope' fields fields' same
      refine ⟨?_, fun items items' changes changes' read read' permuted status => ⟨?_, ?_⟩⟩
      · rw [accepted_iff fields, accepted_iff fields']
        exact same.sound.symm
      · exact same.evaluated fields fields' read read' permuted
      · exact same.symm.evaluated fields' fields read' read fun change => (permuted change).symm
    · intro items items' changes changes' result result' read read' more evaluated evaluated' stale
      obtain ⟨scope, _, accepted, read₁, evaluates⟩ := evaluates_iff.1 ⟨result, evaluated, stale⟩
      obtain ⟨scope', _, accepted', read₂, evaluates'⟩ := evaluates_iff.1 ⟨result', evaluated', rfl⟩
      obtain rfl := Except.ok.inj (accepted.symm.trans accepted')
      obtain rfl := Except.ok.inj (read.symm.trans read₁)
      obtain rfl := Except.ok.inj (read'.symm.trans read₂)
      obtain ⟨change, listed, invalidates⟩ := evaluates.stale.1 rfl
      exact evaluates'.stale.2 ⟨change, more listed, invalidates⟩
    · intro scope accepted node listed epistemic reviews
      refine (canInvalidate_iff accepted listed epistemic reviews).2 fun instruction => ?_
      exact unreviewed scope accepted node listed instruction reviews

/-! ## A reviewed instruction -/

/-- A scope whose one node is a reviewed reproduction instruction. -/
def instructionScope : Json := .object [
  ("surface_kind", .string "opl_epistemic_review_scope"),
  ("version", .string "opl-epistemic-review-scope.v2"),
  ("scope_id", .string "scope"),
  ("scope_kind", .string "content"),
  ("evidence_profile", .string "epistemic_provenance"),
  ("trust_model", .string "trusted_local_workspace"),
  ("reviewed_node_refs", .array [.string "steps"]),
  ("nodes", .array [.object [("node_ref", .string "steps"), ("node_kind", .string "provenance"),
    ("role", .string "reproduction_instruction")]]),
  ("dependency_edges", .array []),
  ("authority_boundary", .object [("hash_is_locator_or_stale_hint_only", .bool true),
    ("hash_is_content_authority", .bool false), ("release_integrity_is_separate", .bool true),
    ("framework_can_issue_domain_verdict", .bool false)])]

theorem instructionScope_accepted : normalizeEpistemicReviewScope instructionScope =
    .ok ⟨"scope", .content, ["steps"], [⟨"steps", .provenance, .reproductionInstruction, none⟩], []⟩ := by
  decide +kernel

theorem instructionScope_inexact : ¬ ReviewsExactly instructionScope := by
  intro exactly
  have reviews : EpistemicReviewScope.Reviews ⟨"scope", .content, ["steps"],
      [⟨"steps", .provenance, .reproductionInstruction, none⟩], []⟩ "steps" :=
    ⟨"steps", List.mem_cons_self .., .refl⟩
  have listed : (⟨"steps", .provenance, .reproductionInstruction, none⟩ : EpistemicEvidenceNode) ∈
      [(⟨"steps", .provenance, .reproductionInstruction, none⟩ : EpistemicEvidenceNode)] :=
    List.mem_cons_self ..
  refine (canInvalidate_iff instructionScope_accepted listed (by decide) reviews).1 ?_ rfl
  exact exactly.coverable _ instructionScope_accepted _ listed (by decide) reviews

end OnePersonLab.Stage.EpistemicReview
